/-
  Tfplenum.PipelineImages.ChangelogSections

  The sections of a changelog as a partition of the commits that its release keeps.
  The prefixes a release keeps are written in the reader of the repository, those
  of the sections in the sections; the changelog takes every kept commit exactly
  when none of them is of the one type, `perf`, that is only on the first list.
-/

import Tfplenum.PipelineImages.Logg

namespace Tfplenum

open Lib

/-! ## The commits a release keeps -/

theorem startsWith_iff {text start : String} :
    startsWith text start = true ↔ start.toList <+: text.toList :=
  List.isPrefixOf_iff_prefix

theorem commitOf_some {commits : List GitCommit} {summary : String} {commit : GitCommit}
    (h : commitOf commits summary = some commit) : commit ∈ commits ∧ commit.summary = summary := by
  rw [commitOf] at h
  have hsummary := List.find?_some h
  exact ⟨List.mem_reverse.mp (List.mem_of_find?_eq_some h), of_decide_eq_true hsummary⟩

/-- Every unique summary of the release is that of a commit it keeps. -/
theorem exists_commitOf {commits : List GitCommit} {summary : String}
    (h : summary ∈ commits.map GitCommit.summary) :
    ∃ commit, commitOf commits summary = some commit := by
  obtain ⟨commit, hmem, hsummary⟩ := List.mem_map.mp h
  refine Option.isSome_iff_exists.mp (List.find?_isSome.mpr ?_)
  exact ⟨commit, List.mem_reverse.mpr hmem, decide_eq_true hsummary⟩

theorem Release.keeps_of_mem {release : Release} {commit : GitCommit}
    (h : commit ∈ release.uniqueCommits) : keepsSummary commit.summary = true := by
  obtain ⟨summary, hsummary, hcommit⟩ := List.mem_filterMap.mp h
  rw [(commitOf_some hcommit).2]
  exact ((release.mem_iff summary).mp hsummary).2

/-- Summaries that occur are those of the commits found under them. -/
theorem map_summary_filterMap_commitOf {commits : List GitCommit} {summaries : List String}
    (h : ∀ summary ∈ summaries, summary ∈ commits.map GitCommit.summary) :
    (summaries.filterMap (commitOf commits)).map GitCommit.summary = summaries := by
  have hall : ∀ summary ∈ summaries,
      (commitOf commits summary).map GitCommit.summary = some summary := by
    intro summary hsummary
    obtain ⟨commit, hcommit⟩ := exists_commitOf (h summary hsummary)
    rw [hcommit, Option.map_some, (commitOf_some hcommit).2]
  rw [List.map_filterMap, List.filterMap_congr hall, List.filterMap_some]

/-- No two kept commits have one summary. -/
theorem Release.nodup_summaries (release : Release) :
    (release.uniqueCommits.map GitCommit.summary).Nodup := by
  rw [Release.uniqueCommits, map_summary_filterMap_commitOf fun summary hsummary =>
    ((release.mem_iff summary).mp hsummary).1.1]
  exact release.nodup

/-! ## The sections -/

/-- What a section takes of the commits. -/
def taken (commits : List GitCommit) (commitPrefix : String) : List GitCommit :=
  commits.filter fun commit => startsWith commit.summary commitPrefix

theorem makeSections_of_ne_nil {commits : List GitCommit} (h : commits ≠ []) :
    makeSections commits = .ok
      ([⟨"Added", "(feat)", taken commits "(feat)"⟩, ⟨"Fixed", "(fix)", taken commits "(fix)"⟩,
        ⟨"Changed", "(sus)", taken commits "(sus)"⟩].filter fun s : Section => s.commits ≠ []) := by
  have hfilter (className commitPrefix : String) :
      filterCommits className commits commitPrefix = .ok (taken commits commitPrefix) := if_neg h
  have hinit (className title commitPrefix : String) (hp : startsWith commitPrefix "(" = true ∧
      commitPrefix.toList.getLast? = some ')') :
      Section.init className title commits commitPrefix =
        .ok ⟨title, commitPrefix, taken commits commitPrefix⟩ := by
    rw [Section.init, if_pos hp, hfilter]
    rfl
  rw [makeSections, addedSection, fixedSection, changedSection,
    hinit _ _ "(feat)" (by decide), hinit _ _ "(fix)" (by decide), hinit _ _ "(sus)" (by decide)]
  rfl

/-- Two texts that differ where both have characters do not start one text. -/
theorem not_startsWith_of_startsWith {text start start' : String}
    (h : startsWith text start = true) (hne : ¬ start'.toList <+: start.toList)
    (hne' : ¬ start.toList <+: start'.toList) : startsWith text start' = false := by
  refine Bool.eq_false_iff.mpr fun h' => ?_
  rcases List.prefix_or_prefix_of_prefix (startsWith_iff.mp h) (startsWith_iff.mp h') with h | h
  · exact hne' h
  · exact hne h

/-- A kept commit is of exactly one of the four types. -/
theorem kept_cases {summary : String} (h : keepsSummary summary = true) :
    (startsWith summary "(feat)" = true ∧ startsWith summary "(fix)" = false ∧
      startsWith summary "(sus)" = false ∧ startsWith summary "(perf)" = false) ∨
    (startsWith summary "(feat)" = false ∧ startsWith summary "(fix)" = true ∧
      startsWith summary "(sus)" = false ∧ startsWith summary "(perf)" = false) ∨
    (startsWith summary "(feat)" = false ∧ startsWith summary "(fix)" = false ∧
      startsWith summary "(sus)" = true ∧ startsWith summary "(perf)" = false) ∨
    (startsWith summary "(feat)" = false ∧ startsWith summary "(fix)" = false ∧
      startsWith summary "(sus)" = false ∧ startsWith summary "(perf)" = true) := by
  have hor : startsWith summary "(fix)" = true ∨ startsWith summary "(feat)" = true ∨
      startsWith summary "(perf)" = true ∨ startsWith summary "(sus)" = true := by
    simpa [keepsSummary, releasePrefixes] using h
  rcases hor with h | h | h | h
  · exact .inr (.inl ⟨not_startsWith_of_startsWith h (by decide) (by decide), h,
      not_startsWith_of_startsWith h (by decide) (by decide),
      not_startsWith_of_startsWith h (by decide) (by decide)⟩)
  · exact .inl ⟨h, not_startsWith_of_startsWith h (by decide) (by decide),
      not_startsWith_of_startsWith h (by decide) (by decide),
      not_startsWith_of_startsWith h (by decide) (by decide)⟩
  · exact .inr (.inr (.inr ⟨not_startsWith_of_startsWith h (by decide) (by decide),
      not_startsWith_of_startsWith h (by decide) (by decide),
      not_startsWith_of_startsWith h (by decide) (by decide), h⟩))
  · exact .inr (.inr (.inl ⟨not_startsWith_of_startsWith h (by decide) (by decide),
      not_startsWith_of_startsWith h (by decide) (by decide), h,
      not_startsWith_of_startsWith h (by decide) (by decide)⟩))

/-- The sections that show a commit. -/
def showing (commit : GitCommit) (sections : List Section) : Nat :=
  sections.countP fun s => commit ∈ s.commits

/-- A kept commit is shown once, or not at all if it is of the type `perf`. -/
theorem showing_makeSections {commits : List GitCommit} {sections : List Section}
    (hsections : makeSections commits = .ok sections) {commit : GitCommit} (hmem : commit ∈ commits)
    (hkept : keepsSummary commit.summary = true) :
    showing commit sections = if startsWith commit.summary "(perf)" then 0 else 1 := by
  have hne : commits ≠ [] := List.ne_nil_of_mem hmem
  have htaken (commitPrefix : String) :
      commit ∈ taken commits commitPrefix ↔ startsWith commit.summary commitPrefix = true := by
    rw [taken, List.mem_filter, and_iff_right hmem]
  -- a section that shows the commit is not empty, so none of them is dropped
  have hfilter (s : Section) : (decide (commit ∈ s.commits) && decide (s.commits ≠ [])) =
      decide (commit ∈ s.commits) := by
    rw [← Bool.decide_and]
    exact decide_eq_decide.mpr (and_iff_left_of_imp List.ne_nil_of_mem)
  rw [makeSections_of_ne_nil hne] at hsections
  cases hsections
  rw [showing, List.countP_filter]
  simp only [hfilter, List.countP_cons, List.countP_nil, htaken]
  rcases kept_cases hkept with ⟨h₁, h₂, h₃, h₄⟩ | ⟨h₁, h₂, h₃, h₄⟩ | ⟨h₁, h₂, h₃, h₄⟩ |
    ⟨h₁, h₂, h₃, h₄⟩ <;> simp [h₁, h₂, h₃, h₄]

/-- A section has the commits it shows in their order, and no others. -/
theorem sublist_of_mem_makeSections {commits : List GitCommit} {sections : List Section}
    (hsections : makeSections commits = .ok sections) {s : Section} (hs : s ∈ sections) :
    s.commits.Sublist commits := by
  by_cases hne : commits = []
  · rw [hne] at hsections
    cases hsections
  · rw [makeSections_of_ne_nil hne] at hsections
    cases hsections
    have hmem := (List.mem_filter.mp hs).1
    simp only [List.mem_cons, List.not_mem_nil, or_false] at hmem
    rcases hmem with rfl | rfl | rfl <;> exact List.filter_sublist

/-! ## The changelog of a release -/

/-- Building the changelog goes through and gives a document, and its sections
    partition the commits the release keeps. -/
structure Partitions (u : Unicode) (release : Release) (changelog : Changelog) : Prop where
  built : Changelog.init release = .ok changelog
  document : (changelog.document u).isSome = true
  once : ∀ commit ∈ release.uniqueCommits, showing commit changelog.sections = 1
  inOrder : ∀ s ∈ changelog.sections, s.commits.Sublist release.uniqueCommits

theorem init_of_ne_nil {release : Release} (h : release.uniqueCommits ≠ []) :
    ∃ changelog, Changelog.init release = .ok changelog ∧
      makeSections release.uniqueCommits = .ok changelog.sections := by
  have hsections := makeSections_of_ne_nil h
  refine ⟨⟨"Changelog for " ++ release.version, release.releaseDate, release.latestCommitHash, _⟩,
    ?_, hsections⟩
  rw [Changelog.init, Changelog.makeSections, if_neg h, hsections]
  rfl

/-- A release that keeps a commit gets a changelog that partitions what it keeps,
    exactly if it keeps no commit of the type `perf`. -/
theorem partitions_iff (u : Unicode) (release : Release) :
    (release.uniqueCommits ≠ [] → ∃ changelog, Partitions u release changelog) ↔
      ∀ commit ∈ release.uniqueCommits, startsWith commit.summary "(perf)" = false := by
  constructor
  · intro h commit hmem
    obtain ⟨changelog, hbuilt, -, honce, -⟩ := h (List.ne_nil_of_mem hmem)
    obtain ⟨changelog', hbuilt', hsections⟩ := init_of_ne_nil (List.ne_nil_of_mem hmem)
    rw [hbuilt] at hbuilt'
    cases hbuilt'
    have hshowing := showing_makeSections hsections hmem (Release.keeps_of_mem hmem)
    rw [honce commit hmem] at hshowing
    refine Bool.eq_false_iff.mpr fun hperf => ?_
    rw [if_pos hperf] at hshowing
    cases hshowing
  · intro h hne
    obtain ⟨changelog, hbuilt, hsections⟩ := init_of_ne_nil hne
    have honce : ∀ commit ∈ release.uniqueCommits, showing commit changelog.sections = 1 := by
      intro commit hmem
      rw [showing_makeSections hsections hmem (Release.keeps_of_mem hmem), h commit hmem]
      rfl
    refine ⟨changelog, hbuilt, ?_, honce, fun s hs => sublist_of_mem_makeSections hsections hs⟩
    -- some commit is shown, so there is a section and with it a document
    obtain ⟨commit, hmem⟩ := List.exists_mem_of_ne_nil _ hne
    have hsome : changelog.sections ≠ [] := by
      intro hnil
      have hshowing := honce commit hmem
      rw [hnil] at hshowing
      cases hshowing
    rw [Changelog.document, if_neg hsome]
    rfl

/-- A release that keeps a single commit, of the type `perf` -/
def perfRelease : Release where
  version := "3.8.0.0"
  releaseDate := "2024-02-01"
  latestCommitHash := "ac1c95d4"
  prevBranch := []
  releaseBranch := [⟨"ac1c95d4", "(perf) AFDCO-13943: Faster queries", "admin", some "a@sil.lab"⟩]
  uniqueSummaries := ["(perf) AFDCO-13943: Faster queries"]
  nodup := List.nodup_cons.mpr ⟨List.not_mem_nil, List.nodup_nil⟩
  mem_iff := by
    intro summary
    simp only [List.mem_singleton, List.map_cons, List.map_nil, List.not_mem_nil, not_false_eq_true,
      and_true]
    constructor
    · rintro rfl
      exact ⟨by decide, by decide⟩
    · rintro ⟨rfl, -⟩
      decide

theorem not_partitions :
    ¬ ∀ (u : Unicode) (release : Release), release.uniqueCommits ≠ [] →
      ∃ changelog, Partitions u release changelog := by
  intro h
  obtain ⟨changelog, hbuilt, hdocument, -, -⟩ := h .ascii perfRelease (by decide)
  have hinit : Changelog.init perfRelease =
      .ok ⟨"Changelog for 3.8.0.0", "2024-02-01", "ac1c95d4", []⟩ := by decide
  rw [hinit] at hbuilt
  cases hbuilt
  cases hdocument

end Tfplenum
