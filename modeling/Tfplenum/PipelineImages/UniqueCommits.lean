/-
  Tfplenum.PipelineImages.UniqueCommits

  The commits that are new in a release, by their summaries: each of the accepted
  summaries in question has one commit (`RightCommits`).

  The commits of a regular branch are put up against the release branch alone, as
  the preview of a release wants them.  What the previous branch already has comes
  back with the regular branch unless the release branch has it as well
  (`notMem_previous_iff`).
-/

import Mathlib.Data.List.Dedup
import Tfplenum.PipelineImages.ChangelogSections
import Tfplenum.PipelineImages.GitRepo

namespace Tfplenum

/-- The summaries of a branch -/
def GitHead.summaries (branch : GitHead) : List String := branch.commits.map GitCommit.summary

/-- One commit of the branches for each accepted summary in question, and no other -/
structure RightCommits (prefixes : List String) (asked : String → Prop) (branches : List GitHead)
    (commits : List GitCommit) : Prop where
  once : (commits.map GitCommit.summary).Nodup
  mem_iff : ∀ summary, summary ∈ commits.map GitCommit.summary ↔
    acceptsSummary (acceptedPrefixes prefixes) summary = true ∧ asked summary
  fromBranch : ∀ commit ∈ commits, ∃ branch ∈ branches, commit ∈ branch.commits

section
variable (order : SetOrder) (prefixes : List String)

theorem mem_filteredSummaries {branch other : GitHead} {summary : String} :
    summary ∈ filteredSummaries order prefixes branch other ↔
      (summary ∈ branch.summaries ∧ summary ∉ other.summaries) ∧
        acceptsSummary prefixes summary = true := by
  simp only [filteredSummaries, order.mem_iff, List.mem_filter, decide_eq_true_eq,
    GitHead.summaries]

theorem nodup_filteredSummaries (branch other : GitHead) :
    (filteredSummaries order prefixes branch other).Nodup :=
  order.nodup _

/-- What the release has over the previous branch, as a release that keeps the prefixes of the
    changelog -/
def newRelease (version releaseDate latestCommitHash : String)
    (previousBranch releaseBranch : GitHead) : Release where
  version := version
  releaseDate := releaseDate
  latestCommitHash := latestCommitHash
  prevBranch := previousBranch.commits
  releaseBranch := releaseBranch.commits
  uniqueSummaries := filteredSummaries order releasePrefixes releaseBranch previousBranch
  nodup := nodup_filteredSummaries order releasePrefixes releaseBranch previousBranch
  mem_iff := fun _ => mem_filteredSummaries order releasePrefixes

/-- The commits of a release are the unique ones without a regular branch. -/
theorem uniqueCommits_newRelease (version releaseDate latestCommitHash : String)
    (previousBranch releaseBranch : GitHead) :
    (newRelease order version releaseDate latestCommitHash previousBranch
      releaseBranch).uniqueCommits =
        getUniqueCommitsBetweenReleases order releasePrefixes previousBranch releaseBranch none :=
  rfl

/-! ## The two stages -/

variable {prefixes} {previousBranch releaseBranch regularBranch : GitHead}

/-- The summaries of the first stage -/
theorem map_summary_unique :
    (getUniqueCommitsBetweenReleases order prefixes previousBranch releaseBranch none).map
        GitCommit.summary =
      filteredSummaries order (acceptedPrefixes prefixes) releaseBranch previousBranch :=
  map_summary_filterMap_commitOf fun _ h =>
    ((mem_filteredSummaries order (acceptedPrefixes prefixes)).mp h).1.1

/-- No summary of the second stage is one of the first, so that nothing is left out there. -/
theorem map_summary_unique_regular :
    (getUniqueCommitsBetweenReleases order prefixes previousBranch releaseBranch
        (some regularBranch)).map GitCommit.summary =
      filteredSummaries order (acceptedPrefixes prefixes) releaseBranch previousBranch ++
        filteredSummaries order (acceptedPrefixes prefixes) regularBranch releaseBranch := by
  have hfirst : (getUniqueCommitsBetweenReleases order prefixes previousBranch releaseBranch
      none).map GitCommit.summary =
        filteredSummaries order (acceptedPrefixes prefixes) releaseBranch previousBranch :=
    map_summary_unique order
  simp only [getUniqueCommitsBetweenReleases] at hfirst ⊢
  have hall : ((filteredSummaries order (acceptedPrefixes prefixes) regularBranch
      releaseBranch).filter fun summary => summary ∉
        ((filteredSummaries order (acceptedPrefixes prefixes) releaseBranch
          previousBranch).filterMap (commitOf releaseBranch.commits)).map GitCommit.summary) =
      filteredSummaries order (acceptedPrefixes prefixes) regularBranch releaseBranch := by
    refine List.filter_eq_self.mpr fun summary hsummary => ?_
    rw [hfirst, decide_eq_true_eq]
    intro hrelease
    -- the first stage is of the release branch, the second leaves that branch out
    exact ((mem_filteredSummaries order _).mp hsummary).1.2
      ((mem_filteredSummaries order _).mp hrelease).1.1
  rw [hall, List.map_append, hfirst, map_summary_filterMap_commitOf fun _ h =>
    ((mem_filteredSummaries order (acceptedPrefixes prefixes)).mp h).1.1]

theorem nodup_unique_regular :
    (filteredSummaries order (acceptedPrefixes prefixes) releaseBranch previousBranch ++
      filteredSummaries order (acceptedPrefixes prefixes) regularBranch releaseBranch).Nodup := by
  refine List.nodup_append.mpr ⟨nodup_filteredSummaries .., nodup_filteredSummaries .., ?_⟩
  rintro summary hrelease _ hregular rfl
  exact ((mem_filteredSummaries order _).mp hregular).1.2
    ((mem_filteredSummaries order _).mp hrelease).1.1

theorem mem_unique {regularBranch : Option GitHead} {commit : GitCommit}
    (h : commit ∈ getUniqueCommitsBetweenReleases order prefixes previousBranch releaseBranch
      regularBranch) :
    commit ∈ releaseBranch.commits ∨ ∃ branch ∈ regularBranch, commit ∈ branch.commits := by
  cases regularBranch with
  | none =>
      obtain ⟨summary, -, hcommit⟩ := List.mem_filterMap.mp h
      exact .inl (commitOf_some hcommit).1
  | some regularBranch =>
      rcases List.mem_append.mp h with h | h
      · obtain ⟨summary, -, hcommit⟩ := List.mem_filterMap.mp h
        exact .inl (commitOf_some hcommit).1
      · obtain ⟨summary, -, hcommit⟩ := List.mem_filterMap.mp h
        exact .inr ⟨regularBranch, rfl, (commitOf_some hcommit).1⟩

end

/-! ## The unique commits -/

/-- What is asked for: the summaries of the release branch that the previous branch does not
    have, and with a regular branch those of it that the release branch does not have -/
def AskedOf (previousBranch releaseBranch : GitHead) (regularBranch : Option GitHead)
    (summary : String) : Prop :=
  (summary ∈ releaseBranch.summaries ∧ summary ∉ previousBranch.summaries) ∨
    ∃ branch ∈ regularBranch, summary ∈ branch.summaries ∧ summary ∉ releaseBranch.summaries

/-- The summaries of both branches that the previous branch does not have -/
def NewSincePrevious (previousBranch releaseBranch : GitHead) (regularBranch : Option GitHead)
    (summary : String) : Prop :=
  (summary ∈ releaseBranch.summaries ∨ ∃ branch ∈ regularBranch, summary ∈ branch.summaries) ∧
    summary ∉ previousBranch.summaries

section
variable (order : SetOrder) (prefixes : List String) (previousBranch releaseBranch : GitHead)
  (regularBranch : Option GitHead)

theorem nodup_summaries_unique :
    ((getUniqueCommitsBetweenReleases order prefixes previousBranch releaseBranch
      regularBranch).map GitCommit.summary).Nodup := by
  cases regularBranch with
  | none =>
      rw [map_summary_unique]
      exact nodup_filteredSummaries ..
  | some regularBranch =>
      rw [map_summary_unique_regular]
      exact nodup_unique_regular order

theorem mem_summaries_unique_iff (summary : String) :
    summary ∈ (getUniqueCommitsBetweenReleases order prefixes previousBranch releaseBranch
        regularBranch).map GitCommit.summary ↔
      acceptsSummary (acceptedPrefixes prefixes) summary = true ∧
        AskedOf previousBranch releaseBranch regularBranch summary := by
  cases regularBranch with
  | none =>
      rw [map_summary_unique, mem_filteredSummaries]
      simp [AskedOf, and_comm]
  | some regularBranch =>
      rw [map_summary_unique_regular, List.mem_append, mem_filteredSummaries,
        mem_filteredSummaries, ← or_and_right, and_comm]
      simp [AskedOf]

/-- Nothing of the previous branch comes back exactly if the release branch has all that the
    regular branch shares with the previous one. -/
theorem notMem_previous_iff :
    (∀ summary ∈ (getUniqueCommitsBetweenReleases order prefixes previousBranch releaseBranch
        regularBranch).map GitCommit.summary, summary ∉ previousBranch.summaries) ↔
      ∀ branch ∈ regularBranch, ∀ summary ∈ branch.summaries,
        acceptsSummary (acceptedPrefixes prefixes) summary = true →
          summary ∈ previousBranch.summaries → summary ∈ releaseBranch.summaries := by
  simp only [mem_summaries_unique_iff]
  constructor
  · intro h branch hbranch summary hsummary haccepted hprevious
    by_contra hrelease
    exact h summary ⟨haccepted, .inr ⟨branch, hbranch, hsummary, hrelease⟩⟩ hprevious
  · rintro h summary ⟨haccepted, ⟨-, hnew⟩ | ⟨branch, hbranch, hsummary, hrelease⟩⟩ hprevious
    · exact hnew hprevious
    · exact hrelease (h branch hbranch summary hsummary haccepted hprevious)

/-- There is exactly one commit for each accepted summary that the release branch has over the
    previous one or a regular branch has over the release branch. -/
theorem unique_commits :
    RightCommits prefixes (AskedOf previousBranch releaseBranch regularBranch)
      (releaseBranch :: regularBranch.toList)
      (getUniqueCommitsBetweenReleases order prefixes previousBranch releaseBranch
        regularBranch) := by
  refine ⟨nodup_summaries_unique order prefixes previousBranch releaseBranch regularBranch,
    mem_summaries_unique_iff order prefixes previousBranch releaseBranch regularBranch,
    fun commit hcommit => ?_⟩
  rcases mem_unique order hcommit with h | ⟨branch, hbranch, h⟩
  · exact ⟨releaseBranch, List.mem_cons_self, h⟩
  · exact ⟨branch, List.mem_cons_of_mem _ (Option.mem_toList.mpr hbranch), h⟩

end

/-- The regular branch brings back a fix of the previous branch that the release branch lacks. -/
theorem unique_commits_of_previous :
    ¬ ∀ (order : SetOrder) (prefixes : List String) (previousBranch releaseBranch : GitHead)
      (regularBranch : Option GitHead),
      RightCommits prefixes (NewSincePrevious previousBranch releaseBranch regularBranch)
        (releaseBranch :: regularBranch.toList)
        (getUniqueCommitsBetweenReleases order prefixes previousBranch releaseBranch
          regularBranch) := by
  intro h
  let fix : GitCommit := ⟨"1f", "(fix)-THISISCVAH-12345: Repair the pipeline", "dev", none⟩
  let order : SetOrder := ⟨List.dedup, List.nodup_dedup, fun l s => List.mem_dedup⟩
  have hright := h order [] ⟨"release/3.8".toList, [fix]⟩ ⟨"release/3.9".toList, []⟩
    (some ⟨"devel".toList, [fix]⟩)
  have hmem := (hright.mem_iff fix.summary).mp (by decide)
  exact hmem.2.2 (by decide)

end Tfplenum
