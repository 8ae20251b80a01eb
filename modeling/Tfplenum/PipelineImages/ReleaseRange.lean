/-
  Tfplenum.PipelineImages.ReleaseRange

  Which releases `get_releases` gives for a lower and an upper bound, each of which
  may be missing: one for every branch within the bounds that has another before it,
  paired with the last one before it (`RightReleases`).

  The branches are those of `release_branches`, in ascending order; the first of
  them is in no release.  The bounds for which the releases come out right are
  `BoundsHandled` (`getReleases_right_iff`).
-/

import Mathlib.Data.List.Pairwise
import Tfplenum.Lib.Fallible
import Tfplenum.PipelineImages.GitRepo

namespace Tfplenum

open Lib Fallible

section
variable {V : Type} [LinearOrder V]

/-! ## What the releases should be -/

def WithinBounds (lower upper : Option V) (version : V) : Prop :=
  (∀ bound ∈ lower, bound ≤ version) ∧ ∀ bound ∈ upper, version ≤ bound

def HasPredecessor (branches : List (ReleaseBranch V)) (branch : ReleaseBranch V) : Prop :=
  ∃ other ∈ branches, other.version < branch.version

/-- The branch of the greatest smaller version -/
structure Precedes (branches : List (ReleaseBranch V)) (previous branch : ReleaseBranch V) :
    Prop where
  mem : previous ∈ branches
  lt : previous.version < branch.version
  greatest : ∀ other ∈ branches, other.version < branch.version →
    other.version ≤ previous.version

structure RightReleases (branches : List (ReleaseBranch V)) (lower upper : Option V)
    (releases : List (BranchRelease V)) : Prop where
  ascending : releases.Pairwise fun release release' =>
    release.releaseBranch.version < release'.releaseBranch.version
  mem_iff : ∀ branch, branch ∈ releases.map BranchRelease.releaseBranch ↔
    branch ∈ branches ∧ WithinBounds lower upper branch.version ∧ HasPredecessor branches branch
  paired : ∀ release ∈ releases, Precedes branches release.prevBranch release.releaseBranch

/-- With only a lower bound it is not beyond the last version; with both bounds, the first
    version is below the lower one or all are above the upper one. -/
def BoundsHandled (branches : List (ReleaseBranch V)) : Option V → Option V → Prop
  | none, none => False
  | none, some _ => True
  | some lower, none => ∃ branch ∈ branches, lower ≤ branch.version
  | some lower, some upper =>
      (∃ branch ∈ branches, branch.version < lower) ∨ ∀ branch ∈ branches, upper < branch.version

/-! ## The branches -/

/-- The branches of the repository come in ascending order. -/
theorem ascending_of_releaseBranches {u : Unicode} {Version : List Char → Except PyError V}
    {heads : List GitHead} {branches : List (ReleaseBranch V)}
    (h : releaseBranches u Version heads = .ok branches)
    (hnodup : (branches.map ReleaseBranch.version).Nodup) :
    branches.Pairwise fun branch branch' => branch.version < branch'.version := by
  obtain ⟨found, -, rfl⟩ := map_eq_ok_iff.mp h
  have hsorted := List.pairwise_insertionSort
    (fun branch branch' : ReleaseBranch V => branch.version ≤ branch'.version) (found.filterMap id)
  -- in order and pairwise different is strictly in order
  exact (hsorted.and (List.pairwise_map.mp hnodup)).imp fun h => lt_of_le_of_ne h.1 h.2

section
variable {branches : List (ReleaseBranch V)}
  (hasc : branches.Pairwise fun branch branch' => branch.version < branch'.version)
include hasc

theorem eq_of_version_eq {branch branch' : ReleaseBranch V} (hbranch : branch ∈ branches)
    (hbranch' : branch' ∈ branches) (h : branch.version = branch'.version) : branch = branch' := by
  have hnodup : (branches.map ReleaseBranch.version).Nodup :=
    (List.pairwise_map.mpr hasc).imp ne_of_lt
  exact List.inj_on_of_nodup_map hnodup hbranch hbranch' h

theorem branchMapping_version {branch : ReleaseBranch V} (hbranch : branch ∈ branches) :
    branchMapping branches branch.version = .ok branch := by
  obtain ⟨found, hfound⟩ : ∃ found, (branches.reverse.find? fun other =>
      other.version = branch.version) = some found := by
    rw [← Option.isSome_iff_exists, List.find?_isSome]
    exact ⟨branch, List.mem_reverse.mpr hbranch, by simp⟩
  have hversion : found.version = branch.version := by simpa using List.find?_some hfound
  have hmem := List.mem_reverse.mp (List.mem_of_find?_eq_some hfound)
  rw [branchMapping, hfound, eq_of_version_eq hasc hmem hbranch hversion]

/-- The release of a branch pairs it with the last one before it, if there is one. -/
theorem getRelease_eq_ok_iff {branch : ReleaseBranch V} (hbranch : branch ∈ branches)
    {release : BranchRelease V} : getRelease branches branch.version = .ok release ↔
      release.releaseBranch = branch ∧ Precedes branches release.prevBranch branch := by
  have hsmaller : ∀ version, version ∈ (branches.map ReleaseBranch.version).filter
      (fun version => version < branch.version) ↔
        (∃ other ∈ branches, other.version = version) ∧ version < branch.version := by
    intro version
    simp only [List.mem_filter, List.mem_map, decide_eq_true_eq]
  rw [getRelease, getPrevAndCurReleaseBranches]
  cases hmax : ((branches.map ReleaseBranch.version).filter
      fun version => version < branch.version).argmax id with
  | none =>
      -- nothing is smaller, so nothing precedes the branch
      rw [List.argmax_eq_none, List.eq_nil_iff_forall_not_mem] at hmax
      constructor
      · intro h
        cases h
      · rintro ⟨-, hprevious⟩
        exact absurd ((hsmaller _).mpr ⟨⟨_, hprevious.mem, rfl⟩, hprevious.lt⟩) (hmax _)
  | some greatest =>
      obtain ⟨⟨previous, hprevious, rfl⟩, hlt⟩ := (hsmaller _).mp (List.argmax_mem hmax)
      have hprecedes : Precedes branches previous branch := by
        refine ⟨hprevious, hlt, fun other hother hother_lt => ?_⟩
        exact List.le_of_mem_argmax (f := id) ((hsmaller _).mpr ⟨⟨other, hother, rfl⟩, hother_lt⟩)
          hmax
      simp only [branchMapping_version hasc hprevious, branchMapping_version hasc hbranch]
      constructor
      · intro h
        cases h
        exact ⟨rfl, hprecedes⟩
      · rintro ⟨rfl, hother⟩
        -- both have the greatest of the smaller versions
        have hversion : previous.version = release.prevBranch.version :=
          le_antisymm (hother.greatest _ hprevious hlt) (hprecedes.greatest _ hother.mem hother.lt)
        rw [eq_of_version_eq hasc hprevious hother.mem hversion]
        rfl

theorem exists_getRelease_iff {branch : ReleaseBranch V} (hbranch : branch ∈ branches) :
    (∃ release, getRelease branches branch.version = .ok release) ↔
      HasPredecessor branches branch := by
  constructor
  · rintro ⟨release, h⟩
    have hprecedes := ((getRelease_eq_ok_iff hasc hbranch).mp h).2
    exact ⟨_, hprecedes.mem, hprecedes.lt⟩
  · rintro ⟨other, hother, hlt⟩
    have hne : ((branches.filter fun other => other.version < branch.version).argmax
        ReleaseBranch.version) ≠ none := by
      rw [Ne, List.argmax_eq_none]
      exact List.ne_nil_of_mem (List.mem_filter.mpr ⟨hother, by simpa using hlt⟩)
    obtain ⟨previous, hmax⟩ := Option.ne_none_iff_exists'.mp hne
    obtain ⟨hprevious, hprevious_lt⟩ := List.mem_filter.mp (List.argmax_mem hmax)
    refine ⟨⟨previous, branch⟩, (getRelease_eq_ok_iff hasc hbranch).mpr ⟨rfl, hprevious, ?_, ?_⟩⟩
    · simpa using hprevious_lt
    · exact fun b hb hlt =>
        List.le_of_mem_argmax (List.mem_filter.mpr ⟨hb, by simpa using hlt⟩) hmax

/-- The releases of the branches in a range are the right ones if the range is what the bounds
    ask for, and every branch in it has one before it. -/
theorem right_releasesBetween_iff {lower upper : Option V} {fromVersion toVersion : V}
    (hrange : ∀ branch ∈ branches, HasPredecessor branches branch →
      ((fromVersion ≤ branch.version ∧ branch.version ≤ toVersion) ↔
        WithinBounds lower upper branch.version)) :
    (∃ releases, releasesBetween branches fromVersion toVersion = .ok releases ∧
        RightReleases branches lower upper releases) ↔
      ∀ branch ∈ branches, fromVersion ≤ branch.version → branch.version ≤ toVersion →
        HasPredecessor branches branch := by
  have hmem : ∀ branch, (branch ∈ branches.filter fun branch => fromVersion ≤ branch.version ∧
      branch.version ≤ toVersion) ↔
        branch ∈ branches ∧ fromVersion ≤ branch.version ∧ branch.version ≤ toVersion := by
    intro branch
    simp only [List.mem_filter, decide_eq_true_eq]
  constructor
  · rintro ⟨releases, hreleases, -⟩ branch hbranch hfrom hto
    obtain ⟨release, -, hrelease⟩ := (mem_of_mapM_eq_ok hreleases).1 branch
      ((hmem branch).mpr ⟨hbranch, hfrom, hto⟩)
    exact (exists_getRelease_iff hasc hbranch).mp ⟨release, hrelease⟩
  · intro hall
    obtain ⟨releases, hreleases⟩ := exists_mapM_eq_ok fun branch hbranch =>
      (exists_getRelease_iff hasc ((hmem branch).mp hbranch).1).mpr
        (hall branch ((hmem branch).mp hbranch).1 ((hmem branch).mp hbranch).2.1
          ((hmem branch).mp hbranch).2.2)
    have hpaired : ∀ release ∈ releases,
        Precedes branches release.prevBranch release.releaseBranch := by
      intro release hrelease
      obtain ⟨branch, hbranch, hget⟩ := (mem_of_mapM_eq_ok hreleases).2 release hrelease
      obtain ⟨rfl, hprecedes⟩ := (getRelease_eq_ok_iff hasc ((hmem branch).mp hbranch).1).mp hget
      exact hprecedes
    have hbranches : releases.map BranchRelease.releaseBranch =
        branches.filter fun branch => fromVersion ≤ branch.version ∧ branch.version ≤ toVersion :=
      map_of_mapM_eq_ok hreleases fun branch hbranch release hget =>
        ((getRelease_eq_ok_iff hasc ((hmem branch).mp hbranch).1).mp hget).1
    refine ⟨releases, hreleases, ?_, fun branch => ?_, hpaired⟩
    · have hsorted := hasc.filter
        fun branch => fromVersion ≤ branch.version ∧ branch.version ≤ toVersion
      rw [← hbranches, List.pairwise_map] at hsorted
      exact hsorted
    · rw [hbranches, hmem]
      constructor
      · rintro ⟨hbranch, hfrom, hto⟩
        have hbefore := hall branch hbranch hfrom hto
        exact ⟨hbranch, (hrange branch hbranch hbefore).mp ⟨hfrom, hto⟩, hbefore⟩
      · rintro ⟨hbranch, hwithin, hbefore⟩
        exact ⟨hbranch, (hrange branch hbranch hbefore).mpr hwithin⟩

end

/-! ## The lowest and the second branch -/

section
variable {lowest second : ReleaseBranch V} {rest : List (ReleaseBranch V)}
  (hasc : (lowest :: second :: rest).Pairwise
    fun branch branch' => branch.version < branch'.version)
include hasc

theorem lowest_le {branch : ReleaseBranch V} (h : branch ∈ lowest :: second :: rest) :
    lowest.version ≤ branch.version := by
  rcases List.mem_cons.mp h with rfl | h
  · exact le_rfl
  · exact (List.rel_of_pairwise_cons hasc h).le

/-- Every branch but the lowest has one before it, and is the second or comes after it. -/
theorem hasPredecessor_iff {branch : ReleaseBranch V} (h : branch ∈ lowest :: second :: rest) :
    HasPredecessor (lowest :: second :: rest) branch ↔ branch ∈ second :: rest := by
  constructor
  · rintro ⟨other, hother, hlt⟩
    rcases List.mem_cons.mp h with rfl | h
    · exact absurd hlt (lowest_le hasc hother).not_gt
    · exact h
  · exact fun h => ⟨lowest, List.mem_cons_self, List.rel_of_pairwise_cons hasc h⟩

theorem second_le {branch : ReleaseBranch V} (h : branch ∈ second :: rest) :
    second.version ≤ branch.version := by
  rcases List.mem_cons.mp h with rfl | h
  · exact le_rfl
  · exact (List.rel_of_pairwise_cons (List.pairwise_cons.mp hasc).2 h).le

/-- The latest version is the greatest one. -/
theorem exists_latestVersion : ∃ latest ∈ second :: rest,
    latestVersion (lowest :: second :: rest) = .ok latest.version ∧
      ∀ branch ∈ lowest :: second :: rest, branch.version ≤ latest.version := by
  have hlast : (lowest :: second :: rest).getLast? =
      some ((second :: rest).getLast (List.cons_ne_nil _ _)) := by
    rw [List.getLast?_cons_cons, List.getLast?_eq_getLast_of_ne_nil (List.cons_ne_nil _ _)]
  have hmem : (second :: rest).getLast (List.cons_ne_nil _ _) ∈ second :: rest :=
    List.getLast_mem _
  refine ⟨_, hmem, ?_, fun branch hbranch => ?_⟩
  · obtain ⟨release, hrelease⟩ := (exists_getRelease_iff hasc (List.mem_cons_of_mem _ hmem)).mpr
      ((hasPredecessor_iff hasc (List.mem_cons_of_mem _ hmem)).mpr hmem)
    have hbranch := ((getRelease_eq_ok_iff hasc (List.mem_cons_of_mem _ hmem)).mp hrelease).1
    rw [latestVersion, latestRelease, hlast]
    simp only [hrelease, Except.map]
    exact congrArg (fun branch => Except.ok (ReleaseBranch.version branch)) hbranch
  · have hle : (lowest :: second :: rest).Pairwise
        fun branch branch' => branch.version ≤ branch'.version := hasc.imp le_of_lt
    have h := hle.rel_getLast_of_rel_getLast_getLast hbranch le_rfl
    rwa [List.getLast_cons (List.cons_ne_nil _ _)] at h

/-- A lower bound at the lowest version or below it becomes the lowest version, which is in no
    release: with a branch before it, a branch is beyond the one bound iff beyond the other. -/
theorem le_version_iff {lower : V} {branch : ReleaseBranch V} (h : branch ∈ second :: rest) :
    (if lower ≤ lowest.version then lowest.version else lower) ≤ branch.version ↔
      lower ≤ branch.version := by
  by_cases hlower : lower ≤ lowest.version
  · rw [if_pos hlower]
    have hle := lowest_le hasc (List.mem_cons_of_mem _ h)
    exact ⟨fun _ => hlower.trans hle, fun _ => hle⟩
  · rw [if_neg hlower]

end

/-! ## The releases between two bounds -/

section
variable (u : Unicode) (Version : List Char → Except PyError V)
  {lowest second : ReleaseBranch V} {rest : List (ReleaseBranch V)}

theorem getReleases_eq {branches : List (ReleaseBranch V)} {fromArg toArg : Option (VersionArg V)}
    {lower upper : Option V} (hfrom : toBound u Version fromArg = .ok lower)
    (hto : toBound u Version toArg = .ok upper) :
    getReleases u Version branches fromArg toArg =
      ((raisedToLowest u Version branches lower) >>= fun fromVersion =>
        (filledBounds u Version branches fromVersion upper) >>= fun bounds =>
          releasesBetween branches bounds.1 bounds.2) := by
  rw [getReleases, hfrom, hto]
  rfl

theorem raisedToLowest_some (lower : V) :
    raisedToLowest u Version (lowest :: second :: rest) (some lower) =
      .ok (some (if lower ≤ lowest.version then lowest.version else lower)) := rfl

/-- Without an upper bound the lower one becomes the first version that is not below it. -/
theorem filledBounds_some_none {lower : V} {latest : V}
    (hlatest : latestVersion (lowest :: second :: rest) = .ok latest) :
    filledBounds u Version (lowest :: second :: rest) (some lower) none =
      (itemAt (((second :: rest).map ReleaseBranch.version).filter
        fun version => lower ≤ version) 0).map fun first => (first, latest) := by
  have hversions : getAvailableVersions u Version (lowest :: second :: rest)
      (some (.version lower)) = .ok (((second :: rest).map ReleaseBranch.version).filter
        fun version => lower ≤ version) := rfl
  rw [filledBounds, hversions, hlatest]
  show (itemAt _ 0 >>= fun first => Except.ok (first, latest)) = _
  cases itemAt (((second :: rest).map ReleaseBranch.version).filter
    fun version => lower ≤ version) 0 with
  | error e => rfl
  | ok first => rfl

end

/-- The first version that is not below a bound is the least of them. -/
theorem first_le_of_filter_eq_cons {branches : List (ReleaseBranch V)} {bound first : V}
    {others : List V}
    (hasc : branches.Pairwise fun branch branch' => branch.version < branch'.version)
    (hfirst : ((branches.map ReleaseBranch.version).filter fun version => bound ≤ version) =
      first :: others)
    {branch : ReleaseBranch V} (hbranch : branch ∈ branches) (hle : bound ≤ branch.version) :
    first ≤ branch.version := by
  have hsorted : (first :: others).Pairwise (· < ·) := by
    rw [← hfirst]
    exact (List.pairwise_map.mpr hasc).filter _
  have hmem : branch.version ∈ first :: others := by
    rw [← hfirst]
    exact List.mem_filter.mpr ⟨List.mem_map_of_mem hbranch, by simpa using hle⟩
  rcases List.mem_cons.mp hmem with heq | hmem
  · exact heq.ge
  · exact (List.rel_of_pairwise_cons hsorted hmem).le

section
variable {u : Unicode} {Version : List Char → Except PyError V}
  {lowest second : ReleaseBranch V} {rest : List (ReleaseBranch V)}
  {fromArg toArg : Option (VersionArg V)}
  (hasc : (lowest :: second :: rest).Pairwise
    fun branch branch' => branch.version < branch'.version)
include hasc

omit hasc in
/-- A range that begins above the lowest version holds no branch without one before it. -/
theorem hasPredecessor_of_lowest_lt {fromVersion : V} (hfrom : lowest.version < fromVersion)
    {branch : ReleaseBranch V} (hle : fromVersion ≤ branch.version) :
    HasPredecessor (lowest :: second :: rest) branch :=
  ⟨lowest, List.mem_cons_self, hfrom.trans_le hle⟩

omit hasc in
theorem right_of_no_bound (hfrom : toBound u Version fromArg = .ok none)
    (hto : toBound u Version toArg = .ok none) :
    ¬ ∃ releases, getReleases u Version (lowest :: second :: rest) fromArg toArg = .ok releases ∧
      RightReleases (lowest :: second :: rest) none none releases := by
  rintro ⟨releases, h, -⟩
  rw [getReleases_eq u Version hfrom hto] at h
  cases h

theorem right_of_upper_bound {upper : V} (hfrom : toBound u Version fromArg = .ok none)
    (hto : toBound u Version toArg = .ok (some upper)) :
    ∃ releases, getReleases u Version (lowest :: second :: rest) fromArg toArg = .ok releases ∧
      RightReleases (lowest :: second :: rest) none (some upper) releases := by
  have hlt : lowest.version < second.version :=
    List.rel_of_pairwise_cons hasc List.mem_cons_self
  have hget : getReleases u Version (lowest :: second :: rest) fromArg toArg =
      releasesBetween (lowest :: second :: rest) second.version upper := by
    rw [getReleases_eq u Version hfrom hto]
    rfl
  rw [hget, right_releasesBetween_iff hasc]
  · exact fun branch _ hle _ => hasPredecessor_of_lowest_lt hlt hle
  · intro branch hbranch hbefore
    have hsecond := second_le hasc ((hasPredecessor_iff hasc hbranch).mp hbefore)
    simp [WithinBounds, hsecond]

theorem right_of_lower_bound_iff {lower : V} (hfrom : toBound u Version fromArg = .ok (some lower))
    (hto : toBound u Version toArg = .ok none) :
    (∃ releases, getReleases u Version (lowest :: second :: rest) fromArg toArg = .ok releases ∧
      RightReleases (lowest :: second :: rest) (some lower) none releases) ↔
        ∃ branch ∈ lowest :: second :: rest, lower ≤ branch.version := by
  obtain ⟨latest, hlatest, hversion, hgreatest⟩ := exists_latestVersion hasc
  generalize hraised : (if lower ≤ lowest.version then lowest.version else lower) = raised
  have hle : ∀ branch ∈ second :: rest, (raised ≤ branch.version ↔ lower ≤ branch.version) := by
    intro branch hbranch
    rw [← hraised]
    exact le_version_iff hasc hbranch
  rw [getReleases_eq u Version hfrom hto, raisedToLowest_some, hraised]
  show (∃ releases, (filledBounds u Version _ (some raised) none >>= _) = _ ∧ _) ↔ _
  rw [filledBounds_some_none u Version hversion]
  cases hfirst : ((second :: rest).map ReleaseBranch.version).filter
      fun version => raised ≤ version with
  | nil =>
      -- the bound is beyond the last version
      refine iff_of_false ?_ ?_
      · rintro ⟨releases, h, -⟩
        cases h
      · rintro ⟨branch, hbranch, hlower⟩
        have hmem : latest.version ∈ ((second :: rest).map ReleaseBranch.version).filter
            fun version => raised ≤ version := by
          refine List.mem_filter.mpr ⟨List.mem_map_of_mem hlatest, ?_⟩
          simpa using (hle latest hlatest).mpr (hlower.trans (hgreatest branch hbranch))
        rw [hfirst] at hmem
        exact absurd hmem List.not_mem_nil
  | cons first others =>
      have hmem : first ∈ ((second :: rest).map ReleaseBranch.version).filter
          fun version => raised ≤ version := by
        rw [hfirst]
        exact List.mem_cons_self
      obtain ⟨hfirst_mem, hfirst_le⟩ := List.mem_filter.mp hmem
      obtain ⟨branch, hbranch, rfl⟩ := List.mem_map.mp hfirst_mem
      have hraised_le : raised ≤ branch.version := by simpa using hfirst_le
      have hleast : ∀ other ∈ second :: rest, raised ≤ other.version →
          branch.version ≤ other.version :=
        fun other hother => first_le_of_filter_eq_cons (List.pairwise_cons.mp hasc).2 hfirst hother
      refine iff_of_true ?_ ⟨branch, List.mem_cons_of_mem _ hbranch,
        (hle branch hbranch).mp hraised_le⟩
      show ∃ releases, releasesBetween _ branch.version latest.version = _ ∧ _
      rw [right_releasesBetween_iff hasc]
      · exact fun other _ hother_le _ => hasPredecessor_of_lowest_lt
          (List.rel_of_pairwise_cons hasc hbranch) hother_le
      · intro other hother hbefore
        have hother' := (hasPredecessor_iff hasc hother).mp hbefore
        have hiff : branch.version ≤ other.version ↔ lower ≤ other.version := by
          rw [← hle other hother']
          exact ⟨hraised_le.trans, hleast other hother'⟩
        simp [WithinBounds, hiff, hgreatest other hother]

theorem right_of_both_bounds_iff {lower upper : V}
    (hfrom : toBound u Version fromArg = .ok (some lower))
    (hto : toBound u Version toArg = .ok (some upper)) :
    (∃ releases, getReleases u Version (lowest :: second :: rest) fromArg toArg = .ok releases ∧
      RightReleases (lowest :: second :: rest) (some lower) (some upper) releases) ↔
        (∃ branch ∈ lowest :: second :: rest, branch.version < lower) ∨
          ∀ branch ∈ lowest :: second :: rest, upper < branch.version := by
  have hget : getReleases u Version (lowest :: second :: rest) fromArg toArg =
      releasesBetween (lowest :: second :: rest)
        (if lower ≤ lowest.version then lowest.version else lower) upper := by
    rw [getReleases_eq u Version hfrom hto]
    rfl
  rw [hget, right_releasesBetween_iff hasc]
  · by_cases hlower : lower ≤ lowest.version
    · -- the range begins at the lowest version, so that it must not reach it
      rw [if_pos hlower]
      constructor
      · intro h
        refine .inr fun branch hbranch => ?_
        have hlowest : ¬ lowest.version ≤ upper := by
          intro hupper
          obtain ⟨other, hother, hlt⟩ := h lowest List.mem_cons_self le_rfl hupper
          exact (lowest_le hasc hother).not_gt hlt
        exact (not_le.mp hlowest).trans_le (lowest_le hasc hbranch)
      · rintro (⟨branch, hbranch, hlt⟩ | h) branch' hbranch' hle hupper
        · exact absurd (hlower.trans (lowest_le hasc hbranch)) hlt.not_ge
        · exact absurd hupper (h branch' hbranch').not_ge
    · rw [if_neg hlower]
      have hlt := not_le.mp hlower
      exact iff_of_true
        (fun branch _ hle _ => hasPredecessor_of_lowest_lt hlt hle)
        (.inl ⟨lowest, List.mem_cons_self, hlt⟩)
  · intro branch hbranch hbefore
    rw [le_version_iff hasc ((hasPredecessor_iff hasc hbranch).mp hbefore)]
    simp [WithinBounds]

end

/-- The releases between two bounds come out right exactly for the bounds that are handled. -/
theorem getReleases_right_iff {u : Unicode} {Version : List Char → Except PyError V}
    {heads : List GitHead} {branches : List (ReleaseBranch V)}
    {fromArg toArg : Option (VersionArg V)} {lower upper : Option V}
    (hbranches : releaseBranches u Version heads = .ok branches)
    (hdifferent : (branches.map ReleaseBranch.version).Nodup) (htwo : 2 ≤ branches.length)
    (hfrom : toBound u Version fromArg = .ok lower) (hto : toBound u Version toArg = .ok upper) :
    (∃ releases, getReleases u Version branches fromArg toArg = .ok releases ∧
      RightReleases branches lower upper releases) ↔ BoundsHandled branches lower upper := by
  have hasc := ascending_of_releaseBranches hbranches hdifferent
  clear hbranches
  cases branches with
  | nil => exact absurd htwo (by simp)
  | cons lowest branches =>
      cases branches with
      | nil => exact absurd htwo (by simp)
      | cons second rest =>
          cases lower with
          | none =>
              cases upper with
              | none => exact iff_of_false (right_of_no_bound hfrom hto) id
              | some upper => exact iff_of_true (right_of_upper_bound hasc hfrom hto) trivial
          | some lower =>
              cases upper with
              | none => exact right_of_lower_bound_iff hasc hfrom hto
              | some upper => exact right_of_both_bounds_iff hasc hfrom hto

end

/-! ## A repository with three releases -/

def threeHeads : List GitHead :=
  ["devel", "release/3.9", "release/3.7.5", "release/3.8", "release/next"].map
    fun name => ⟨name.toList, []⟩

def threeBranches : List (ReleaseBranch FourNumbers) :=
  [⟨⟨"release/3.7.5".toList, []⟩, fourNumbers 3 7 5 0⟩,
    ⟨⟨"release/3.8".toList, []⟩, fourNumbers 3 8 0 0⟩,
    ⟨⟨"release/3.9".toList, []⟩, fourNumbers 3 9 0 0⟩]

theorem releaseBranches_threeHeads :
    releaseBranches Unicode.ascii numericVersion threeHeads = .ok threeBranches := by
  decide

theorem getReleases_right_iff_three :
    (∃ releases, getReleases Unicode.ascii numericVersion threeBranches
        (some (.text "3.8".toList)) (some (.text "3.9".toList)) = .ok releases ∧
      RightReleases threeBranches (some (fourNumbers 3 8 0 0)) (some (fourNumbers 3 9 0 0))
        releases) ↔
      BoundsHandled threeBranches (some (fourNumbers 3 8 0 0)) (some (fourNumbers 3 9 0 0)) :=
  getReleases_right_iff releaseBranches_threeHeads (by decide) (by decide) (by decide) (by decide)

/-- From the lowest version on there is no answer, and none without a bound. -/
theorem getReleases_raises :
    releaseBranches Unicode.ascii numericVersion threeHeads = .ok threeBranches ∧
      (¬ ∃ releases, getReleases Unicode.ascii numericVersion threeBranches
          (some (.text "3.7.5".toList)) (some (.text "3.9".toList)) = .ok releases ∧
        RightReleases threeBranches (some (fourNumbers 3 7 5 0)) (some (fourNumbers 3 9 0 0))
          releases) ∧
      ¬ ∃ releases, getReleases Unicode.ascii numericVersion threeBranches none none =
          .ok releases ∧ RightReleases threeBranches none none releases := by
  refine ⟨releaseBranches_threeHeads, ?_, ?_⟩
  · rintro ⟨releases, h, -⟩
    have hraises : getReleases Unicode.ascii numericVersion threeBranches
        (some (.text "3.7.5".toList)) (some (.text "3.9".toList)) =
          .error (.valueError "max() arg is an empty sequence") := by decide
    rw [hraises] at h
    cases h
  · rintro ⟨releases, h, -⟩
    cases h

end Tfplenum
