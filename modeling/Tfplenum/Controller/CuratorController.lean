/-
  Tfplenum.Controller.CuratorController

  `GetIndices.get` of `curator_controller.py`: the indices of the cluster that are
  offered for an action, and when the listing is exact.

  The private indices are recognised by a regular expression whose dots stand for
  any character (`excludes_iff`).  An index that does not have the status asked for
  is listed if it carries the block that is set for a deletion, whichever the status
  is, and whatever the block is set to (`Stray`).
-/

import Mathlib.Data.List.Sort
import Mathlib.Data.String.Basic
import Tfplenum.Common
import Tfplenum.Lib.Regex

namespace Tfplenum

open Lib

/-! ## The indices of the cluster -/

inductive IndexStatus where
  | opened
  | closed
deriving DecidableEq, Repr

/-- The status in the answer of `cat.indices` -/
def IndexStatus.text : IndexStatus → String
  | opened => "open"
  | closed => "close"

/-- What `cat.indices`, `get_settings` and `get_alias` give of an index -/
structure ClusterIndex where
  index : String
  status : IndexStatus
  /-- `store.size`, missing for a closed index -/
  storeSize : Option String
  /-- `settings["index"]["blocks"]`, whose values are texts -/
  blocks : List (String × String)
  /-- the aliases by name, with their `is_write_index` -/
  aliases : List (String × Option Bool)
deriving DecidableEq, Repr

/-- The state of the cluster; no two indices have one name. -/
structure ElasticCluster where
  indices : List ClusterIndex
  nodup : (indices.map ClusterIndex.index).Nodup

/-- `ElasticIndexModel` -/
structure ElasticIndexModel where
  index : String
  size : String
deriving DecidableEq, Repr

/-- `ElasticIndexModel.load_from_elastic` -/
def ElasticIndexModel.loadFromElastic (payload : ClusterIndex) : ElasticIndexModel :=
  { index := payload.index
    size := payload.storeSize.getD "" }

/-! ## The listing -/

/-- What `EXCLUDE_FILTER` names, one after the other -/
def excludedPrefixes : List String :=
  [".ml-config", ".kibana", ".monitoring", ".watches", ".apm", ".triggered_watches", ".security",
    ".siem-signals", ".security-tokens", ".geoip_databases", ".tasks", ".async-search",
    "arkime_dstats", "arkime_stats", "arkime_hunts", "arkime_fields", "arkime_lookups",
    "arkime_users", "arkime_files", "arkime_queries", "arkime_sequence"]

/-- A character of a pattern that has no other special character than the dot -/
def patternChar (c : Char) : Regex Char :=
  Regex.char fun d => if c = '.' then Regex.dot d else d = c

/-- Such a pattern -/
def patternText : List Char → Regex Unit
  | [] => pure ()
  | c :: cs => do
      let _ ← patternChar c
      patternText cs

/-- `EXCLUDE_FILTER`, of one of its prefixes -/
def excludeFilter (start : String) : Regex Unit := do
  patternText start.toList
  let _ ← Regex.atLeast 0 Regex.dot
  Regex.stop

/-- `regex.match(name)` -/
def excludes (name : String) : Bool :=
  excludedPrefixes.any fun start => !(excludeFilter start name.toList).isEmpty

/-- `check_read_only_allow_delete` -/
def checkReadOnlyAllowDelete (index : ClusterIndex) : Bool :=
  match index.blocks.lookup "read_only_allow_delete" with
  | some value => value ≠ ""
  | none => false

/-- `is_current_alias_writable` -/
def isCurrentAliasWritable (aliases : List (String × Option Bool)) : Bool :=
  aliases.any fun entry => entry.2 = some true

/-- What the loop of `GetIndices.get` keeps -/
def keepsIndex (status : String) (index : ClusterIndex) : Bool :=
  if index.status.text = status then true
  else checkReadOnlyAllowDelete index && !isCurrentAliasWritable index.aliases

inductive IndicesResponse where
  | indices (models : List ElasticIndexModel)
  | badRequest (message : String)
deriving DecidableEq, Repr

/-- `GetIndices.get` -/
def GetIndices.get (cluster : ElasticCluster) (status : String) : IndicesResponse :=
  if status ∉ ["open", "close"] then .badRequest "Must be ['open', 'close']"
  else
    let filtered := cluster.indices.filter fun index => !excludes index.index
    let models := (filtered.filter (keepsIndex status)).map ElasticIndexModel.loadFromElastic
    .indices (models.insertionSort fun model model' => model.index ≤ model'.index)

/-! ## What the listing should be -/

/-- A private index, by its prefix taken literally -/
def isPrivate (name : String) : Bool :=
  excludedPrefixes.any fun start => start.toList.isPrefixOf name.toList

/-- The index carries the block `read_only_allow_delete`. -/
def ClusterIndex.Blocked (index : ClusterIndex) : Prop :=
  index.blocks.lookup "read_only_allow_delete" = some "true"

def ClusterIndex.HasWriteAlias (index : ClusterIndex) : Prop :=
  ∃ entry ∈ index.aliases, entry.2 = some true

/-- An index with the status; among the closed ones an open one that is blocked and not written
    to as well -/
def Due (status : IndexStatus) (index : ClusterIndex) : Prop :=
  index.status = status ∨
    (status = .closed ∧ index.status = .opened ∧ index.Blocked ∧ ¬ index.HasWriteAlias)

structure ExactListing (cluster : ElasticCluster) (status : IndexStatus)
    (models : List ElasticIndexModel) : Prop where
  sorted : models.Pairwise fun model model' => model.index < model'.index
  mem_iff : ∀ model, model ∈ models ↔ ∃ index ∈ cluster.indices,
    ElasticIndexModel.loadFromElastic index = model ∧
      isPrivate index.index = false ∧ Due status index

/-- An index that is kept although it is not due: it is not written to, and its block is set, but
    not to true, or the open indices are asked for -/
def Stray (status : IndexStatus) (index : ClusterIndex) : Prop :=
  index.status ≠ status ∧ checkReadOnlyAllowDelete index = true ∧ ¬ index.HasWriteAlias ∧
    (status = .opened ∨ ¬ index.Blocked)

/-! ## The pattern -/

/-- A character of the name under a character of the pattern -/
def FitsChar (c d : Char) : Prop := if c = '.' then d ≠ '\n' else d = c

theorem mem_patternText {start cs rest : List Char} :
    ((), rest) ∈ patternText start cs ↔
      ∃ front, cs = front ++ rest ∧ List.Forall₂ FitsChar start front := by
  induction start generalizing cs with
  | nil =>
      simp only [patternText, Regex.pure_ways, List.mem_singleton, Prod.mk.injEq, true_and,
        List.forall₂_nil_left_iff]
      constructor
      · rintro rfl
        exact ⟨[], rfl, rfl⟩
      · rintro ⟨front, rfl, rfl⟩
        rfl
  | cons c start ih =>
      have hchar : ∀ d, (if c = '.' then Regex.dot d else decide (d = c)) = true ↔
          FitsChar c d := by
        intro d
        by_cases hc : c = '.'
        · simp [FitsChar, hc, Regex.dot]
        · simp [FitsChar, hc]
      simp only [patternText, Regex.mem_bind, patternChar, Regex.mem_char, ih, hchar,
        List.forall₂_cons_left_iff]
      constructor
      · rintro ⟨d, left, ⟨hd, rfl⟩, front, rfl, hfits⟩
        exact ⟨d :: front, rfl, d, front, hd, hfits, rfl⟩
      · rintro ⟨_, rfl, d, front, hd, hfits, rfl⟩
        exact ⟨d, front ++ rest, ⟨hd, rfl⟩, front, rfl, hfits⟩

/-- The end of a name that `.*$` takes: there is no line break before its last character. -/
def EndsLine (rest : List Char) : Prop := '\n' ∉ rest.dropLast

theorem exists_stop_iff {rest : List Char} :
    (∃ way, way ∈ (Regex.atLeast 0 Regex.dot >>= fun _ => Regex.stop) rest) ↔ EndsLine rest := by
  have hdot : ∀ front : List Char, (∀ c ∈ front, Regex.dot c = true) ↔ '\n' ∉ front := by
    intro front
    simp only [Regex.dot, decide_eq_true_eq]
    exact ⟨fun h hmem => h _ hmem rfl, fun h c hc heq => h (heq ▸ hc)⟩
  simp only [Regex.mem_bind, Regex.mem_atLeast, Regex.mem_stop, hdot, Nat.zero_le, and_true]
  constructor
  · rintro ⟨way, front, _, ⟨rfl, hfront⟩, rfl | rfl, -⟩
    · rw [EndsLine, List.append_nil]
      exact fun hmem => hfront (List.dropLast_subset _ hmem)
    · rwa [EndsLine, List.dropLast_concat]
  · intro h
    rcases List.eq_nil_or_concat rest with rfl | ⟨front, c, rfl⟩
    · exact ⟨((), []), [], [], ⟨rfl, List.not_mem_nil⟩, .inl rfl, rfl⟩
    · rw [List.concat_eq_append] at h ⊢
      rw [EndsLine, List.dropLast_concat] at h
      by_cases hc : c = '\n'
      · exact ⟨((), [c]), front, [c], ⟨rfl, h⟩, .inr (by rw [hc]), rfl⟩
      · refine ⟨((), []), front ++ [c], [], ⟨(List.append_nil _).symm, ?_⟩, .inl rfl, rfl⟩
        simp [h, Ne.symm hc]

/-- A name is left out if a prefix fits its front up to the dots, and no line break follows but
    at the end. -/
theorem excludes_iff {name : String} :
    excludes name = true ↔ ∃ start ∈ excludedPrefixes, ∃ front rest,
      name.toList = front ++ rest ∧ List.Forall₂ FitsChar start.toList front ∧ EndsLine rest := by
  simp only [excludes, List.any_eq_true, Bool.not_eq_true', List.isEmpty_eq_false_iff_exists_mem,
    excludeFilter]
  refine exists_congr fun start => and_congr_right fun _ => ?_
  constructor
  · rintro ⟨way, hway⟩
    obtain ⟨⟨⟩, rest, hstart, hrest⟩ := Regex.mem_bind.mp hway
    obtain ⟨front, heq, hfits⟩ := mem_patternText.mp hstart
    exact ⟨front, rest, heq, hfits, exists_stop_iff.mp ⟨way, hrest⟩⟩
  · rintro ⟨front, rest, heq, hfits, hends⟩
    obtain ⟨way, hway⟩ := exists_stop_iff.mpr hends
    exact ⟨way, Regex.mem_bind.mpr ⟨(), rest, mem_patternText.mpr ⟨front, heq, hfits⟩, hway⟩⟩

/-- A private index is left out, unless there is a line break within its name. -/
theorem excludes_of_isPrivate {name : String} (h : isPrivate name = true)
    (hline : '\n' ∉ name.toList) : excludes name = true := by
  obtain ⟨start, hstart, hprefix⟩ := List.any_eq_true.mp h
  obtain ⟨rest, heq⟩ := List.isPrefixOf_iff_prefix.mp hprefix
  rw [← heq, List.mem_append, not_or] at hline
  refine excludes_iff.mpr ⟨start, hstart, start.toList, rest, heq.symm, ?_, ?_⟩
  · refine List.forall₂_same.mpr fun c hc => ?_
    unfold FitsChar
    split
    · exact fun hbreak => hline.1 (hbreak ▸ hc)
    · rfl
  · exact fun hmem => hline.2 (List.dropLast_subset _ hmem)

/-! ## The listing -/

theorem isCurrentAliasWritable_iff {index : ClusterIndex} :
    isCurrentAliasWritable index.aliases = true ↔ index.HasWriteAlias := by
  simp [isCurrentAliasWritable, ClusterIndex.HasWriteAlias]

theorem checkReadOnlyAllowDelete_of_blocked {index : ClusterIndex} (h : index.Blocked) :
    checkReadOnlyAllowDelete index = true := by
  rw [ClusterIndex.Blocked] at h
  simp [checkReadOnlyAllowDelete, h]

theorem text_eq_iff {status status' : IndexStatus} :
    status.text = status'.text ↔ status = status' := by
  cases status <;> cases status' <;> simp [IndexStatus.text]

/-- What the loop keeps is due or stray. -/
theorem keepsIndex_iff {status : IndexStatus} {index : ClusterIndex} :
    keepsIndex status.text index = true ↔ Due status index ∨ Stray status index := by
  by_cases hstatus : index.status = status
  · simp [keepsIndex, Due, hstatus]
  · have hcheck : index.Blocked → checkReadOnlyAllowDelete index = true :=
      checkReadOnlyAllowDelete_of_blocked
    have hwritten : (!isCurrentAliasWritable index.aliases) = true ↔ ¬ index.HasWriteAlias := by
      rw [Bool.not_eq_true', ← isCurrentAliasWritable_iff, Bool.not_eq_true]
    rw [keepsIndex, if_neg (text_eq_iff.not.mpr hstatus), Bool.and_eq_true, hwritten]
    cases hasked : status with
    | opened => simp [Due, Stray, hasked ▸ hstatus]
    | closed =>
        have hopened : index.status = .opened := by
          cases h : index.status with
          | opened => rfl
          | closed => exact absurd (h.trans hasked.symm) hstatus
        by_cases hblocked : index.Blocked
        · simp [Due, Stray, hopened, hblocked, hcheck hblocked]
        · simp [Due, Stray, hopened, hblocked]

theorem not_due_of_stray {status : IndexStatus} {index : ClusterIndex} (h : Stray status index) :
    ¬ Due status index := by
  obtain ⟨hstatus, -, -, hasked⟩ := h
  rintro (heq | ⟨rfl, -, hblocked, -⟩)
  · exact hstatus heq
  · rcases hasked with hasked | hasked
    · cases hasked
    · exact hasked hblocked

/-- The models in the answer -/
def listing (cluster : ElasticCluster) (status : IndexStatus) : List ElasticIndexModel :=
  (((cluster.indices.filter fun index => !excludes index.index).filter
    (keepsIndex status.text)).map ElasticIndexModel.loadFromElastic).insertionSort
      fun model model' => model.index ≤ model'.index

theorem get_eq (cluster : ElasticCluster) (status : IndexStatus) :
    GetIndices.get cluster status.text = .indices (listing cluster status) := by
  cases status <;> rfl

theorem mem_listing {cluster : ElasticCluster} {status : IndexStatus} {model : ElasticIndexModel} :
    model ∈ listing cluster status ↔ ∃ index ∈ cluster.indices,
      ElasticIndexModel.loadFromElastic index = model ∧
        excludes index.index = false ∧ keepsIndex status.text index = true := by
  simp only [listing, List.mem_insertionSort, List.mem_map, List.mem_filter, Bool.not_eq_true']
  constructor
  · rintro ⟨index, ⟨⟨hindex, hname⟩, hkeeps⟩, hload⟩
    exact ⟨index, hindex, hload, hname, hkeeps⟩
  · rintro ⟨index, hindex, hload, hname, hkeeps⟩
    exact ⟨index, ⟨⟨hindex, hname⟩, hkeeps⟩, hload⟩

/-- The names come in ascending order, each once. -/
theorem sorted_listing (cluster : ElasticCluster) (status : IndexStatus) :
    (listing cluster status).Pairwise fun model model' => model.index < model'.index := by
  have hsorted := List.pairwise_insertionSort
    (fun model model' : ElasticIndexModel => model.index ≤ model'.index)
    (((cluster.indices.filter fun index => !excludes index.index).filter
      (keepsIndex status.text)).map ElasticIndexModel.loadFromElastic)
  have hnodup : ((listing cluster status).map ElasticIndexModel.index).Nodup := by
    have hperm : ((listing cluster status).map ElasticIndexModel.index).Perm
        (((cluster.indices.filter fun index => !excludes index.index).filter
          (keepsIndex status.text)).map ClusterIndex.index) := by
      have h := (List.perm_insertionSort
        (fun model model' : ElasticIndexModel => model.index ≤ model'.index)
        (((cluster.indices.filter fun index => !excludes index.index).filter
          (keepsIndex status.text)).map ElasticIndexModel.loadFromElastic)).map
            ElasticIndexModel.index
      rwa [List.map_map] at h
    refine hperm.nodup_iff.mpr (cluster.nodup.sublist ?_)
    exact ((List.filter_sublist.trans List.filter_sublist).map _)
  exact (hsorted.and (List.pairwise_map.mp hnodup)).imp fun h => lt_of_le_of_ne h.1 h.2

/-- The listing is exact exactly if the names of the indices that are due are left out for a
    literal prefix alone, and every stray index is left out for its name. -/
theorem get_exact_iff (cluster : ElasticCluster) (status : IndexStatus) :
    (∃ models, GetIndices.get cluster status.text = .indices models ∧
      ExactListing cluster status models) ↔
        ∀ index ∈ cluster.indices,
          (Due status index → (excludes index.index = true ↔ isPrivate index.index = true)) ∧
            (Stray status index → excludes index.index = true) := by
  have hinj : ∀ index ∈ cluster.indices, ∀ index' ∈ cluster.indices,
      ElasticIndexModel.loadFromElastic index = ElasticIndexModel.loadFromElastic index' →
        index = index' := by
    intro index hindex index' hindex' h
    exact List.inj_on_of_nodup_map cluster.nodup hindex hindex' (congrArg ElasticIndexModel.index h)
  constructor
  · rintro ⟨models, hget, hexact⟩ index hindex
    rw [get_eq] at hget
    cases hget
    -- no other index has the name, so the listing says of the index itself whether it is asked for
    have hlisted : (excludes index.index = false ∧ keepsIndex status.text index = true) ↔
        (isPrivate index.index = false ∧ Due status index) := by
      have h := mem_listing.symm.trans (hexact.mem_iff (.loadFromElastic index))
      constructor
      · rintro ⟨hname, hkeeps⟩
        obtain ⟨index', hindex', hload, hright⟩ := h.mp ⟨index, hindex, rfl, hname, hkeeps⟩
        rwa [hinj _ hindex' _ hindex hload] at hright
      · intro hright
        obtain ⟨index', hindex', hload, hkept⟩ := h.mpr ⟨index, hindex, rfl, hright⟩
        rwa [hinj _ hindex' _ hindex hload] at hkept
    rw [keepsIndex_iff] at hlisted
    constructor
    · intro hdue
      simpa [hdue] using hlisted
    · intro hstray
      simpa [hstray, not_due_of_stray hstray] using hlisted
  · intro h
    refine ⟨_, get_eq cluster status, sorted_listing cluster status, fun model => ?_⟩
    rw [mem_listing]
    refine exists_congr fun index => and_congr_right fun hindex => and_congr_right fun _ => ?_
    obtain ⟨hdue, hstray⟩ := h index hindex
    rw [keepsIndex_iff]
    by_cases hd : Due status index
    · simpa [hd] using hdue hd
    · by_cases hs : Stray status index
      · simp [hd, hs, hstray hs]
      · simp [hd, hs]

/-! ## A cluster that is not listed right -/

/-- An index that shares all but the dot with a private one, and a closed one that was blocked
    for a deletion -/
def twoIndices : ElasticCluster where
  indices := [⟨"skibana-2022.05.30", .opened, some "1gb", [], []⟩,
    ⟨"filebeat-2022.05.30", .closed, none, [("read_only_allow_delete", "true")], []⟩]
  nodup := by decide

theorem excludes_skibana : excludes "skibana-2022.05.30" = true :=
  excludes_iff.mpr ⟨".kibana", by simp [excludedPrefixes], "skibana".toList, "-2022.05.30".toList,
    by decide, by simp [FitsChar], by simp [EndsLine]⟩

theorem get_twoIndices :
    ¬ ∃ models, GetIndices.get twoIndices IndexStatus.opened.text = .indices models ∧
      ExactListing twoIndices .opened models := by
  rintro ⟨models, hget, hexact⟩
  rw [get_eq] at hget
  rw [← IndicesResponse.indices.inj hget] at hexact
  -- the open index is not private, but its name is left out
  have hmem := (hexact.mem_iff ⟨"skibana-2022.05.30", "1gb"⟩).mpr
    ⟨_, List.mem_cons_self, rfl, by decide +kernel, .inl rfl⟩
  obtain ⟨index, -, hload, hname, -⟩ := mem_listing.mp hmem
  have hindex : index.index = "skibana-2022.05.30" := congrArg ElasticIndexModel.index hload
  rw [hindex, excludes_skibana] at hname
  cases hname

end Tfplenum
