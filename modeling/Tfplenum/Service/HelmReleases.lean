/-
  Tfplenum.Service.HelmReleases

  `get_helm_list` and `get_app_state` of `catalog_service.py`, by which the releases
  of a kit are shown under the applications of the catalog.

  A release belongs to the chart it was installed from, which helm lists with it.  The
  service goes by the end of its name instead, twice where it asks for the releases
  of one application only: in helm's filter and in its own (`releasesAttributed_iff`).
-/

import Tfplenum.Lib.Regex
import Tfplenum.Service.HelmJobs
import Mathlib.Data.List.Nodup

namespace Tfplenum

open Lib

/-! ## Names -/

/-- The name of a chart, by the pattern that helm has for it -/
structure ChartName where
  text : String
  nonempty : text ≠ ""
  valid : ∀ c ∈ text.toList, c.isAlphanum = true ∨ c = '.' ∨ c = '_' ∨ c = '-'
deriving DecidableEq

theorem ChartName.ext {application other : ChartName} (h : application.text = other.text) :
    application = other := by
  cases application
  cases other
  cases h
  rfl

/-- A character of the name of a release -/
def isReleaseChar (c : Char) : Bool := c.isLower || c.isDigit || c = '-' || c = '.'

/-- The names that helm takes for releases: labels of lower-case letters, digits and hyphens
    within, at most 53 characters -/
def isReleaseName (name : List Char) : Bool :=
  name.all isReleaseChar && name.length ≤ 53 &&
    (name.splitOn '.').all fun label =>
      label ≠ [] && label.head? ≠ some '-' && label.getLast? ≠ some '-'

/-- A release with the name of its chart -/
structure HelmRelease extends ChartRelease where
  chart : String
  valid : isReleaseName name.toList = true
deriving DecidableEq

/-- The releases of the namespace, no two of one name -/
structure ReleaseList where
  releases : List HelmRelease
  nodup : (releases.map fun release => release.name).Nodup

/-- The applications of the catalog -/
structure Catalog where
  applications : List ChartName
  nodup : applications.Nodup

/-! ## The service -/

/-- What the service asks for -/
structure ReleaseEnv where
  unicode : Unicode
  /-- hostname and node type of the nodes -/
  nodes : List (String × String)
  /-- the saved values of an application -/
  savedValues : String → List SavedValues
  /-- `_check_chart_name` -/
  checkChartName : String → Bool
  /-- what `helm list --all -o json` prints, with the filter if there is one; none where it
      fails or prints nothing -/
  helmList : Option String → Option (List HelmRelease)

/-- `get_helm_list` -/
def getHelmList (env : ReleaseEnv) : Option String → Option (List HelmRelease)
  | none => env.helmList none
  | some application =>
      if application = "" then env.helmList none
      else if env.checkChartName application then env.helmList (some (application ++ "$"))
      else some []

/-- The characters of a name as a pattern, in which a full stop is any character -/
def namePattern : List Char → Regex Unit
  | [] => pure ()
  | c :: cs => do
      let _ ← Regex.char fun d => if c = '.' then Regex.dot d else d = c
      namePattern cs

/-- `".*{}$".format(application)` -/
def releasePattern (application : String) : Regex Unit := do
  let _ ← Regex.atLeast 0 Regex.dot
  namePattern application.toList
  Regex.stop

/-- `get_app_state`; a list of releases that is `None` raises inside the `try`. -/
def getAppState (env : ReleaseEnv) (application : String)
    (chartReleases : Option (List HelmRelease)) : List AppState :=
  let chartReleases := match chartReleases with
    | none | some [] => getHelmList env (some application)
    | some releases => some releases
  let currentCharts := (chartReleases.getD []).filter fun chart =>
    (Regex.first (releasePattern application) chart.name.toList).isSome
  currentCharts.map fun chart => appStateOf env.unicode application
    ⟨env.nodes, env.savedValues application, none⟩ chart.toChartRelease

/-! ## What it is for -/

/-- The deployments listed for an application, by their names -/
def listedFor (env : ReleaseEnv) (chartReleases : Option (List HelmRelease))
    (application : ChartName) : List String :=
  (getAppState env application.text chartReleases).map AppState.deploymentName

/-- The characters fit the name of an application, in which a full stop is any character. -/
def fitsName : List Char → List Char → Bool
  | [], [] => true
  | c :: application, d :: name => (c = '.' || d = c) && fitsName application name
  | _, _ => false

/-- The name ends like that of the application. -/
def endsLike (application : ChartName) (name : String) : Bool :=
  name.toList.tails.any (fitsName application.text.toList)

/-- Helm lists the releases, and with a filter those whose names end like it; the charts of the
    catalog are known. -/
structure ReleaseEnv.Lists (env : ReleaseEnv) (list : ReleaseList) (catalog : Catalog) :
    Prop where
  all : env.helmList none = some list.releases
  filtered : ∀ application ∈ catalog.applications, env.helmList (some (application.text ++ "$")) =
    some (list.releases.filter fun release => endsLike application release.name)
  known : ∀ application ∈ catalog.applications, env.checkChartName application.text = true

/-- Whether the releases are handed over or listed anew: each application has the releases of
    its chart, in their order, and over the catalog each release of its charts is listed once. -/
structure ReleasesAttributed (env : ReleaseEnv) (list : ReleaseList) (catalog : Catalog) :
    Prop where
  attributed : ∀ chartReleases ∈ [none, some list.releases],
    ∀ application ∈ catalog.applications, listedFor env chartReleases application =
      (list.releases.filter fun release => release.chart = application.text).map
        fun release => release.name
  once : ∀ chartReleases ∈ [none, some list.releases], ∀ release ∈ list.releases,
    release.chart ∈ catalog.applications.map ChartName.text →
      (catalog.applications.flatMap (listedFor env chartReleases)).count release.name = 1

/-! ## The pattern -/

theorem mem_namePattern {application cs : List Char} {way : Unit × List Char}
    (hcs : '\n' ∉ cs) : way ∈ namePattern application cs ↔
      ∃ name, cs = name ++ way.2 ∧ fitsName application name = true := by
  induction application generalizing cs with
  | nil =>
      rw [namePattern, Regex.pure_ways, List.mem_singleton]
      constructor
      · rintro rfl
        exact ⟨[], rfl, rfl⟩
      · rintro ⟨name, rfl, hfits⟩
        cases name with
        | nil => rfl
        | cons d name => cases hfits
  | cons c application ih =>
      -- a full stop of the application's name stands for any character but a line break
      have hclass : ∀ d, d ∈ cs → ((if c = '.' then Regex.dot d else decide (d = c)) =
          (decide (c = '.') || decide (d = c))) := by
        intro d hd
        have hne : d ≠ '\n' := fun h => hcs (h ▸ hd)
        by_cases hdot : c = '.'
        · simp [hdot, Regex.dot, hne]
        · simp [hdot]
      rw [namePattern, Regex.mem_bind]
      constructor
      · rintro ⟨d, rest, hchar, hway⟩
        obtain ⟨hd, rfl⟩ := Regex.mem_char.mp hchar
        rw [hclass d List.mem_cons_self] at hd
        obtain ⟨name, rfl, hfits⟩ := (ih fun h => hcs (List.mem_cons_of_mem _ h)).mp hway
        exact ⟨d :: name, rfl, by rw [fitsName, hd, hfits]; rfl⟩
      · rintro ⟨name, rfl, hfits⟩
        cases name with
        | nil => cases hfits
        | cons d name =>
            rw [fitsName, Bool.and_eq_true] at hfits
            refine ⟨d, name ++ way.2, Regex.mem_char.mpr ⟨?_, rfl⟩, ?_⟩
            · rw [hclass d (by simp)]
              exact hfits.1
            · exact (ih fun h => hcs (List.mem_cons_of_mem _ h)).mpr ⟨name, rfl, hfits.2⟩

/-- The pattern goes by the end of a name. -/
theorem releasePattern_eq_endsLike {application : ChartName} {name : String}
    (hname : '\n' ∉ name.toList) :
    (Regex.first (releasePattern application.text) name.toList).isSome =
      endsLike application name := by
  rw [Bool.eq_iff_iff, endsLike, List.any_eq_true, Option.isSome_iff_ne_none, Ne,
    Regex.first_eq_none_iff, List.eq_nil_iff_forall_not_mem]
  simp only [not_forall, not_not, List.mem_tails]
  constructor
  · rintro ⟨way, hway⟩
    obtain ⟨front, rest, hfront, hrest⟩ := Regex.mem_bind.mp hway
    obtain ⟨hname', -⟩ := Regex.mem_atLeast.mp hfront
    obtain ⟨_, stop, hend, hstop⟩ := Regex.mem_bind.mp hrest
    have hline : '\n' ∉ rest := fun h => hname (hname' ▸ List.mem_append_right _ h)
    obtain ⟨last, hlast, hfits⟩ := (mem_namePattern hline).mp hend
    -- the name has no line break that the pattern could stop at
    have hnil : stop = [] := by
      rcases (Regex.mem_stop.mp hstop).1 with h | h
      · exact h
      · refine absurd ?_ hline
        rw [hlast]
        exact List.mem_append_right _ (h ▸ List.mem_singleton_self _)
    dsimp only at hname' hlast
    rw [hnil, List.append_nil] at hlast
    exact ⟨last, ⟨front, by rw [hname', hlast]⟩, hfits⟩
  · rintro ⟨last, ⟨front, hfront⟩, hfits⟩
    -- the greedy start has a way that leaves just the end of the name
    have hdots : ∀ c ∈ front, Regex.dot c = true := by
      intro c hc
      rw [Regex.dot, decide_eq_true_eq]
      rintro rfl
      exact hname (hfront ▸ List.mem_append_left _ hc)
    have hline : '\n' ∉ last := fun h => hname (hfront ▸ List.mem_append_right _ h)
    have hnil : last = last ++ [] := (List.append_nil _).symm
    refine ⟨((), []), Regex.mem_bind.mpr ⟨front, last, ?_, Regex.mem_bind.mpr ⟨(), [], ?_, ?_⟩⟩⟩
    · exact Regex.mem_atLeast.mpr ⟨hfront.symm, hdots, Nat.zero_le _⟩
    · exact (mem_namePattern hline).mpr ⟨last, hnil, hfits⟩
    · exact Regex.mem_stop.mpr ⟨.inl rfl, rfl⟩

theorem newline_not_mem_name (release : HelmRelease) : '\n' ∉ release.name.toList := by
  intro h
  have hvalid := release.valid
  rw [isReleaseName, Bool.and_eq_true, Bool.and_eq_true, List.all_eq_true] at hvalid
  exact absurd (hvalid.1.1 _ h) (by decide)

/-! ## The releases of an application -/

section

variable {env : ReleaseEnv} {list : ReleaseList} {catalog : Catalog}

/-- The releases handed over or listed anew, those are shown whose names end like that of the
    application. -/
theorem listedFor_eq (henv : env.Lists list catalog) {application : ChartName}
    (happlication : application ∈ catalog.applications)
    {chartReleases : Option (List HelmRelease)}
    (hreleases : chartReleases ∈ [none, some list.releases]) :
    listedFor env chartReleases application =
      (list.releases.filter fun release => endsLike application release.name).map
        fun release => release.name := by
  have hpattern : ∀ releases : List HelmRelease, (releases.filter fun chart =>
      (Regex.first (releasePattern application.text) chart.name.toList).isSome) =
        releases.filter fun release => endsLike application release.name := by
    intro releases
    refine List.filter_congr fun release _ => ?_
    exact releasePattern_eq_endsLike (newline_not_mem_name release)
  have hanew : getHelmList env (some application.text) =
      some (list.releases.filter fun release => endsLike application release.name) := by
    rw [getHelmList, if_neg application.nonempty, if_pos (henv.known application happlication),
      henv.filtered application happlication]
  have htwice : ((list.releases.filter fun release => endsLike application release.name).filter
      fun release => endsLike application release.name) =
        list.releases.filter fun release => endsLike application release.name := by
    rw [List.filter_filter]
    simp only [Bool.and_self]
  rw [listedFor]
  unfold getAppState
  rw [List.map_map]
  simp only [List.mem_cons, List.not_mem_nil, or_false] at hreleases
  rcases hreleases with rfl | rfl
  · -- helm has filtered the releases already
    simp only [hanew, Option.getD_some, hpattern, htwice]
    rfl
  · cases hlist : list.releases with
    | nil =>
        -- an empty list is falsy, so that the releases are listed anew
        rw [hlist] at hanew
        simp only [hanew, Option.getD_some, List.filter_nil, List.map_nil]
    | cons release releases =>
        simp only [Option.getD_some, hpattern]
        rfl

/-- Of releases of different names, those listed under a name decide which are listed. -/
theorem map_name_filter_eq_iff {p q : HelmRelease → Bool} :
    ((list.releases.filter p).map fun release => release.name) =
        ((list.releases.filter q).map fun release => release.name) ↔
      ∀ release ∈ list.releases, p release = q release := by
  constructor
  · intro h release hmem
    have hinj := List.inj_on_of_nodup_map list.nodup
    have hin : ∀ p' q' : HelmRelease → Bool,
        ((list.releases.filter p').map fun release => release.name) =
          ((list.releases.filter q').map fun release => release.name) →
        p' release = true → q' release = true := by
      intro p' q' h hp
      have hname : release.name ∈ (list.releases.filter q').map fun release => release.name :=
        h ▸ List.mem_map_of_mem (List.mem_filter.mpr ⟨hmem, hp⟩)
      obtain ⟨release', hrelease', heq⟩ := List.mem_map.mp hname
      obtain ⟨hmem', hq⟩ := List.mem_filter.mp hrelease'
      rwa [← hinj hmem' hmem heq]
    rw [Bool.eq_iff_iff]
    exact ⟨hin p q h, hin q p h.symm⟩
  · intro h
    rw [List.filter_congr h]

/-- If each application has the releases of its chart, each release is listed once. -/
theorem once_of_attributed {chartReleases : Option (List HelmRelease)}
    (h : ∀ application ∈ catalog.applications, listedFor env chartReleases application =
      (list.releases.filter fun release => release.chart = application.text).map
        fun release => release.name)
    {release : HelmRelease} (hrelease : release ∈ list.releases)
    (hchart : release.chart ∈ catalog.applications.map ChartName.text) :
    (catalog.applications.flatMap (listedFor env chartReleases)).count release.name = 1 := by
  have hinj := List.inj_on_of_nodup_map list.nodup
  refine List.count_eq_one_of_mem ?_ ?_
  · rw [List.nodup_flatMap]
    constructor
    · intro application happlication
      rw [h application happlication]
      exact list.nodup.sublist (List.filter_sublist.map _)
    · -- a release has one chart only
      refine catalog.nodup.imp_of_mem fun {application other} hin hin' hne => ?_
      intro name hname hname'
      rw [h application hin] at hname
      rw [h other hin'] at hname'
      obtain ⟨release, hmem, rfl⟩ := List.mem_map.mp hname
      obtain ⟨release', hmem', heq⟩ := List.mem_map.mp hname'
      obtain ⟨hrelease, hchart⟩ := List.mem_filter.mp hmem
      obtain ⟨hrelease', hchart'⟩ := List.mem_filter.mp hmem'
      rw [hinj hrelease' hrelease heq] at hchart'
      have htext : application.text = other.text :=
        (of_decide_eq_true hchart).symm.trans (of_decide_eq_true hchart')
      exact hne (ChartName.ext htext)
  · obtain ⟨application, happlication, heq⟩ := List.mem_map.mp hchart
    refine List.mem_flatMap.mpr ⟨application, happlication, ?_⟩
    rw [h application happlication]
    exact List.mem_map_of_mem (List.mem_filter.mpr ⟨hrelease, by simp [heq]⟩)

end

/-- Each release is shown under its chart if the applications that its name ends like are just
    this one. -/
theorem releasesAttributed_iff (env : ReleaseEnv) (list : ReleaseList) (catalog : Catalog)
    (henv : env.Lists list catalog) : ReleasesAttributed env list catalog ↔
      ∀ release ∈ list.releases, ∀ application ∈ catalog.applications,
        endsLike application release.name = true ↔ release.chart = application.text := by
  have hattributed : ∀ chartReleases ∈ [none, some list.releases],
      ∀ application ∈ catalog.applications, (listedFor env chartReleases application =
        (list.releases.filter fun release => release.chart = application.text).map
          fun release => release.name) ↔
        ∀ release ∈ list.releases,
          (endsLike application release.name = true ↔ release.chart = application.text) := by
    intro chartReleases hreleases application happlication
    rw [listedFor_eq henv happlication hreleases, map_name_filter_eq_iff]
    refine forall₂_congr fun release _ => ?_
    rw [Bool.eq_iff_iff, decide_eq_true_eq]
  constructor
  · intro h release hrelease application happlication
    have hnone : none ∈ [none, some list.releases] := List.mem_cons_self
    exact (hattributed none hnone application happlication).mp
      (h.attributed none hnone application happlication) release hrelease
  · intro h
    have hall : ∀ chartReleases ∈ [none, some list.releases],
        ∀ application ∈ catalog.applications, listedFor env chartReleases application =
          (list.releases.filter fun release => release.chart = application.text).map
            fun release => release.name := fun chartReleases hreleases application happlication =>
      (hattributed chartReleases hreleases application happlication).mpr
        fun release hrelease => h release hrelease application happlication
    exact ⟨hall, fun chartReleases hreleases release hrelease =>
      once_of_attributed (hall chartReleases hreleases) hrelease⟩

/-! ## Two applications -/

def hive : ChartName := ⟨"hive", by decide, by decide⟩

def cortex : ChartName := ⟨"cortex", by decide, by decide⟩

def hiveCatalog : Catalog := ⟨[hive, cortex], by decide⟩

/-- The release of cortex, under a name of its own -/
def cortexRelease (name : String) (valid : isReleaseName name.toList = true) : HelmRelease where
  name := name
  appVersion := "1.0.6"
  status := "deployed"
  chart := "cortex"
  valid := valid

/-- A cluster that helm lists one release of -/
def oneReleaseEnv (release : HelmRelease) : ReleaseEnv where
  unicode := Unicode.ascii
  nodes := []
  savedValues _ := []
  checkChartName application := application = "hive" || application = "cortex"
  helmList filter := match filter with
    | none => some [release]
    | some filter => some ([release].filter fun release =>
        release.name.toList.tails.any (fitsName filter.toList.dropLast))

theorem releasesAttributed_ownName : ReleasesAttributed
    (oneReleaseEnv (cortexRelease "cortex" (by decide +kernel)))
    ⟨[cortexRelease "cortex" (by decide +kernel)], by decide⟩ hiveCatalog := by
  refine (releasesAttributed_iff _ _ _ ⟨rfl, ?_, by decide +kernel⟩).mpr (by decide +kernel)
  decide +kernel

/-- A release of cortex whose name ends with the other application's -/
theorem not_releasesAttributed_otherName : ¬ ReleasesAttributed
    (oneReleaseEnv (cortexRelease "cortex-hive" (by decide +kernel)))
    ⟨[cortexRelease "cortex-hive" (by decide +kernel)], by decide⟩ hiveCatalog := by
  intro h
  have hhive := h.attributed none List.mem_cons_self hive (by decide)
  exact absurd hhive (by decide +kernel)

end Tfplenum
