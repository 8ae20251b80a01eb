/-
  Tfplenum.Frontend.ConfigMapEdits

  `api_edit_config_map_` of `config-map.component.ts`: a data entry of a config map is
  changed, added or deleted, and the config map is sent to be saved.

  The config map that is edited is the one that the page shows, under another name, and it
  is changed before the request is sent.  After a request that fails the page shows the
  config map as it was only if the edit changed nothing; after one that succeeds the
  entries are sorted, which loses one with the name `__proto__` (`edit_faithful_iff`).
-/

import Tfplenum.Frontend.PodTable
import Tfplenum.Json
import Tfplenum.Lib.Heap
import Tfplenum.Lib.JsObject

namespace Tfplenum

open Lib

namespace ConfigMapEdits

/-! ## The page -/

/-- `ConfigMapClass`: its data, and what an edit does not touch -/
structure ConfigMap where
  rest : Json
  data : Option JsObject

/-- `AssociatedPodClass` -/
structure AssociatedPod where
  podName : String
  inNamespace : String

/-- The component with its objects: `config_maps`, `config_map_visible`, and the messages of
    the snackbar -/
structure Component where
  heap : Heap ConfigMap
  configMaps : List Ref
  configMapVisible : List Bool
  messages : List String

/-- What the page shows, and what a later save sends -/
def Component.view (page : Component) : List (Option ConfigMap) :=
  page.configMaps.map page.heap.get?

/-- The arguments of `api_edit_config_map_`; `undefined` data is `none`. -/
structure Edit where
  configMapData : Option String
  configMapDataName : String
  configMap : Ref
  associatedPods : List AssociatedPod

/-- A request on its way: the body that is sent, and the variables of the handlers -/
structure Request where
  sent : ConfigMap
  associatedPods : List AssociatedPod
  configMap : Ref
  configMapEdit : Ref
  configMapDataName : String
  cedSuccessValue : String
  cedErrorValue : String

/-- `notUndefNull(data[name])`, which finds inherited members as well -/
def isDefined (data : JsObject) (name : String) : Bool :=
  (data.get? name).isSome || PodTable.objectPrototype.contains name

/-- The data after the edit, and the words for it; `none` if it raises. -/
def Edit.apply (edit : Edit) (data : Option JsObject) :
    Option (Option JsObject × String × String) :=
  match edit.configMapData, data with
  | some text, some data =>
      let words := if isDefined data edit.configMapDataName then ("edited", "editing")
        else ("created", "creating")
      some (some (data.assign edit.configMapDataName text), words)
  | some text, none =>
      some (some (JsObject.assign Table.empty edit.configMapDataName text), "created", "creating")
  | none, some data =>
      let data := data.erase edit.configMapDataName
      some (if data.rows.isEmpty then none else some data, "deleted", "deleting")
  -- `delete null[name]` is a TypeError
  | none, none => none

namespace Component

variable (page : Component)

/-- `api_edit_config_map_` up to the request -/
def apiEditConfigMap (edit : Edit) : Option (Component × Request) := do
  -- `[config_map].map(c => c)[0]` is the config map itself
  let configMapEdit ← ([edit.configMap].map id)[0]?
  let configMap ← page.heap.get? configMapEdit
  let (data, cedSuccessValue, cedErrorValue) ← edit.apply configMap.data
  let configMap := { configMap with data }
  return ({ page with heap := page.heap.modify configMapEdit fun _ => configMap },
    { sent := configMap
      associatedPods := edit.associatedPods
      configMap := edit.configMap
      configMapEdit, configMapDataName := edit.configMapDataName
      cedSuccessValue, cedErrorValue })

/-- The entries in their order, where there are several -/
def sortData (configMap : ConfigMap) : ConfigMap :=
  match configMap.data with
  | some data => if 1 < data.rows.length then { configMap with data := some data.sorted }
      else configMap
  | none => configMap

/-- The handler of an answer -/
def onResponse (request : Request) : Component :=
  let configMapIndex := page.configMaps.idxOf? request.configMap
  { heap := page.heap.modify request.configMapEdit sortData
    -- index -1 is no place of the list
    configMaps := match configMapIndex with
      | some i => page.configMaps.set i request.configMapEdit
      | none => page.configMaps
    configMapVisible := match configMapIndex with
      | some i => page.configMapVisible.set i true
      | none => page.configMapVisible
    messages := page.messages ++ ["Successfully " ++ request.cedSuccessValue ++
      " config map data: " ++ request.configMapDataName] }

/-- The handler of an error -/
def onError (request : Request) : Component :=
  { page with messages := page.messages ++
      ["Error " ++ request.cedErrorValue ++ " config map data: " ++ request.configMapDataName] }

end Component

/-! ## What is meant -/

inductive Outcome where
  | succeeds
  | fails

/-- The same config map, in whatever order its entries are -/
structure SameMap (configMap configMap' : ConfigMap) : Prop where
  rest : configMap.rest = configMap'.rest
  null : configMap.data = none ↔ configMap'.data = none
  data : ∀ name, configMap.data.bind (Table.get? · name) = configMap'.data.bind (Table.get? · name)

/-- After a failure the page shows what it showed before the edit; after a success it shows what
    was sent in the place of the config map, and everything else as it was. -/
def Faithful (page : Component) (edit : Edit) : Outcome → Prop
  | .fails => ∀ page' request, page.apiEditConfigMap edit = some (page', request) →
      (page'.onError request).view = page.view
  | .succeeds => ∀ page' request, page.apiEditConfigMap edit = some (page', request) →
      List.Forall₂ (Option.Rel SameMap) (page'.onResponse request).view
        (page.configMaps.map fun r =>
          if r = edit.configMap then some request.sent else page.heap.get? r)

/-- The entry has this text already or is lost, or the entry to be deleted is not there. -/
def Edit.Idle (edit : Edit) (data : Option JsObject) : Prop :=
  match edit.configMapData, data with
  | some text, some data => data.get? edit.configMapDataName = some text ∨
      edit.configMapDataName = "__proto__" ∧ data.get? edit.configMapDataName = none
  | some _, none => False
  | none, some data => data.get? edit.configMapDataName = none ∧ data.rows ≠ []
  -- there is no request that could fail
  | none, none => True

/-- The entry is there after the edit. -/
def Edit.Leaves (edit : Edit) (data : JsObject) (name : String) : Prop :=
  match edit.configMapData with
  | some _ => (data.get? name).isSome ∨ name = edit.configMapDataName
  | none => (data.get? name).isSome ∧ name ≠ edit.configMapDataName

/-- An entry `__proto__` that the edit leaves is the only one it leaves. -/
def Edit.Keeps (edit : Edit) (data : Option JsObject) : Prop :=
  ∀ data', data = some data' → (data'.get? "__proto__").isSome → edit.Leaves data' "__proto__" →
    ∀ name, edit.Leaves data' name → name = "__proto__"

/-- The condition on an edit of a config map of the page -/
def Regular (page : Component) (edit : Edit) (outcome : Outcome) : Prop :=
  edit.configMap ∈ page.configMaps → ∀ configMap, page.heap.get? edit.configMap = some configMap →
    match outcome with
    | .fails => edit.Idle configMap.data
    | .succeeds => edit.Keeps configMap.data

/-! ## The data -/

theorem erase_eq_some_iff {data : JsObject} {name : String} :
    (if (data.erase name).rows.isEmpty then none else some (data.erase name)) = some data ↔
      data.get? name = none ∧ data.rows ≠ [] := by
  by_cases hempty : (data.erase name).rows.isEmpty
  · rw [if_pos hempty]
    refine iff_of_false (fun h => by cases h) ?_
    rintro ⟨hnone, hrows⟩
    rw [Table.erase_eq_self_iff.mpr hnone, List.isEmpty_iff] at hempty
    exact hrows hempty
  · rw [if_neg hempty, Option.some.injEq, Table.erase_eq_self_iff, iff_self_and]
    intro hnone hrows
    rw [Table.erase_eq_self_iff.mpr hnone, hrows] at hempty
    exact hempty rfl

/-- An edit that is sent changes nothing if it is idle. -/
theorem Edit.apply_eq_self_iff {edit : Edit} {data data' : Option JsObject}
    {words : String × String} (h : edit.apply data = some (data', words)) :
    data' = data ↔ edit.Idle data := by
  unfold Edit.apply at h
  unfold Edit.Idle
  split at h
  · obtain ⟨rfl, -⟩ := Prod.mk.inj (Option.some.inj h)
    rw [Option.some.injEq]
    exact JsObject.assign_eq_self_iff
  · obtain ⟨rfl, -⟩ := Prod.mk.inj (Option.some.inj h)
    simp
  · obtain ⟨rfl, -⟩ := Prod.mk.inj (Option.some.inj h)
    exact erase_eq_some_iff
  · cases h

/-- Two entries at least, one of them `__proto__` -/
def Crowded (data : Option JsObject) : Prop :=
  ∃ data', data = some data' ∧ (data'.get? "__proto__").isSome ∧ 1 < data'.rows.length

/-- Of different names one is another than the given one if there are two. -/
theorem one_lt_length_iff {names : List String} (hnodup : names.Nodup) {name : String}
    (hname : name ∈ names) : 1 < names.length ↔ ∃ other ∈ names, other ≠ name := by
  constructor
  · intro hlt
    match names, hnodup, hlt with
    | first :: second :: names, hnodup, _ =>
        have hne : first ≠ second := fun heq =>
          (List.nodup_cons.mp hnodup).1 (heq ▸ List.mem_cons_self ..)
        by_cases hfirst : first = name
        · exact ⟨second, by simp, fun heq => hne (hfirst.trans heq.symm)⟩
        · exact ⟨first, by simp, hfirst⟩
  · rintro ⟨other, hother, hne⟩
    match names, hname, hother with
    | [only], hname, hother =>
        rw [List.mem_singleton] at hname hother
        exact absurd (hother.trans hname.symm) hne
    | _ :: _ :: names, _, _ => exact Nat.succ_lt_succ (Nat.succ_pos _)

theorem not_crowded_iff {data : JsObject} {P : String → Prop}
    (h : ∀ name, (data.get? name).isSome ↔ P name) :
    ¬Crowded (some data) ↔ (P "__proto__" → ∀ name, P name → name = "__proto__") := by
  have hmem : ∀ name, name ∈ data.rows.map Prod.fst ↔ P name := fun name => by
    rw [← h, Table.isSome_get?_iff]
  constructor
  · intro hnot hproto name hname
    by_contra hne
    refine hnot ⟨data, rfl, (h _).mpr hproto, ?_⟩
    have hlt := (one_lt_length_iff data.nodup ((hmem _).mpr hproto)).mpr
      ⟨name, (hmem name).mpr hname, hne⟩
    rw [List.length_map] at hlt
    exact hlt
  · rintro hall ⟨data', heq, hproto, hlt⟩
    obtain rfl := Option.some.inj heq
    have hP := (h _).mp hproto
    rw [← List.length_map (f := Prod.fst),
      one_lt_length_iff data.nodup ((hmem _).mpr hP)] at hlt
    obtain ⟨name, hname, hne⟩ := hlt
    exact hne (hall hP name ((hmem name).mp hname))

theorem not_crowded_of_get?_eq_none {data : JsObject} (h : data.get? "__proto__" = none) :
    ¬Crowded (some data) := by
  rintro ⟨data', heq, hproto, -⟩
  obtain rfl := Option.some.inj heq
  rw [h] at hproto
  cases hproto

/-- An assignment makes no entry `__proto__`. -/
theorem get?_assign_proto {data : JsObject} {name text : String}
    (h : data.get? "__proto__" = none) : (data.assign name text).get? "__proto__" = none := by
  by_cases hname : name = "__proto__"
  · subst hname
    rw [JsObject.assign_proto h]
    exact h
  · rw [JsObject.assign_of_ne hname, Table.get?_upsert, if_neg (Ne.symm hname)]
    exact h

theorem isSome_get?_assign {data : JsObject} {name text : String}
    (h : (data.get? "__proto__").isSome) (name' : String) :
    ((data.assign name text).get? name').isSome ↔ (data.get? name').isSome ∨ name' = name := by
  have hkept : ¬(name = "__proto__" ∧ data.get? name = none) := by
    rintro ⟨rfl, hnone⟩
    rw [hnone] at h
    cases h
  rw [JsObject.assign, if_neg hkept, Table.get?_upsert]
  by_cases hname : name' = name
  · simp [hname]
  · simp [hname]

/-- What is sent is crowded unless the edit keeps `__proto__` alone. -/
theorem Edit.keeps_iff {edit : Edit} {data data' : Option JsObject} {words : String × String}
    (h : edit.apply data = some (data', words)) : edit.Keeps data ↔ ¬Crowded data' := by
  unfold Edit.apply at h
  split at h
  case h_1 text object htext =>
    obtain ⟨rfl, -⟩ := Prod.mk.inj (Option.some.inj h)
    have hleaves : ∀ name, edit.Leaves object name ↔
        (object.get? name).isSome ∨ name = edit.configMapDataName := fun name => by
      rw [Edit.Leaves, htext]
    by_cases hproto : (object.get? "__proto__").isSome
    · rw [not_crowded_iff fun name => (isSome_get?_assign hproto name).trans (hleaves name).symm]
      constructor
      · exact fun hkeeps => hkeeps object rfl hproto
      · intro hall data' heq _
        obtain rfl := Option.some.inj heq
        exact hall
    · refine iff_of_true (fun data' heq hproto' => ?_) (not_crowded_of_get?_eq_none
        (get?_assign_proto (Option.not_isSome_iff_eq_none.mp hproto)))
      obtain rfl := Option.some.inj heq
      exact absurd hproto' hproto
  case h_2 text htext =>
    obtain ⟨rfl, -⟩ := Prod.mk.inj (Option.some.inj h)
    exact iff_of_true (fun data' heq => by cases heq)
      (not_crowded_of_get?_eq_none (get?_assign_proto rfl))
  case h_3 object htext =>
    obtain ⟨rfl, -⟩ := Prod.mk.inj (Option.some.inj h)
    have hleft : ∀ name, ((object.erase edit.configMapDataName).get? name).isSome ↔
        edit.Leaves object name := by
      intro name
      rw [Edit.Leaves, htext, Table.get?_erase]
      by_cases hname : name = edit.configMapDataName
      · simp [hname]
      · simp [hname]
    have hkeeps : edit.Keeps (some object) ↔ (edit.Leaves object "__proto__" →
        ∀ name, edit.Leaves object name → name = "__proto__") := by
      constructor
      · intro hkeeps hproto
        have hown := (hleft _).mpr hproto
        rw [Table.get?_erase] at hown
        split at hown
        · cases hown
        · exact hkeeps object rfl hown hproto
      · intro hall data' heq _
        obtain rfl := Option.some.inj heq
        exact hall
    rw [hkeeps, ← not_crowded_iff hleft]
    split
    · next hempty =>
      -- nothing is left, and nothing is sent
      refine iff_of_true ?_ ?_
      · rintro ⟨data', heq, -, hlt⟩
        obtain rfl := Option.some.inj heq
        rw [List.isEmpty_iff.mp hempty] at hlt
        cases hlt
      · rintro ⟨data', heq, -⟩
        cases heq
    · rfl
  case h_4 => cases h

theorem SameMap.refl (configMap : ConfigMap) : SameMap configMap configMap :=
  ⟨rfl, Iff.rfl, fun _ => rfl⟩

theorem sameMap_sortData_iff {configMap : ConfigMap} :
    SameMap (Component.sortData configMap) configMap ↔ ¬Crowded configMap.data := by
  obtain ⟨rest, _ | data⟩ := configMap
  · exact iff_of_true (SameMap.refl _) (by rintro ⟨data', heq, -⟩; cases heq)
  · by_cases hlt : 1 < data.rows.length
    · have hsort : Component.sortData ⟨rest, some data⟩ = ⟨rest, some data.sorted⟩ := if_pos hlt
      rw [hsort]
      constructor
      · rintro hsame ⟨data', heq, hproto, -⟩
        obtain rfl := Option.some.inj heq
        have hget : data.sorted.get? "__proto__" = data.get? "__proto__" :=
          hsame.data "__proto__"
        rw [JsObject.get?_sorted, if_pos rfl] at hget
        rw [← hget] at hproto
        cases hproto
      · intro hnot
        have hproto : data.get? "__proto__" = none := by
          rw [← Option.not_isSome_iff_eq_none]
          exact fun hproto => hnot ⟨data, rfl, hproto, hlt⟩
        refine ⟨rfl, by simp, fun name => ?_⟩
        show data.sorted.get? name = data.get? name
        rw [JsObject.get?_sorted]
        split
        · next hname => rw [hname, hproto]
        · rfl
    · have hsort : Component.sortData ⟨rest, some data⟩ = ⟨rest, some data⟩ := if_neg hlt
      rw [hsort]
      refine iff_of_true (SameMap.refl _) ?_
      rintro ⟨data', heq, -, hlt'⟩
      obtain rfl := Option.some.inj heq
      exact hlt hlt'

/-! ## The edit -/

variable {page page' : Component} {edit : Edit} {request : Request}

/-- What an edit does before its request is answered -/
theorem apiEditConfigMap_eq_some_iff :
    page.apiEditConfigMap edit = some (page', request) ↔
      ∃ configMap data words, page.heap.get? edit.configMap = some configMap ∧
        edit.apply configMap.data = some (data, words) ∧
        page' = { page with
          heap := page.heap.modify edit.configMap fun _ => { configMap with data } } ∧
        request = {
          sent := { configMap with data }
          associatedPods := edit.associatedPods
          configMap := edit.configMap
          configMapEdit := edit.configMap
          configMapDataName := edit.configMapDataName
          cedSuccessValue := words.1
          cedErrorValue := words.2 } := by
  have hedit : ([edit.configMap].map id)[0]? = some edit.configMap := rfl
  simp only [Component.apiEditConfigMap, hedit, Option.bind_eq_bind, Option.bind_some,
    Option.bind_eq_some_iff, Option.pure_def, Option.some.injEq, Prod.mk.injEq, Prod.exists]
  constructor
  · rintro ⟨configMap, hget, data, success, error, happly, rfl, rfl⟩
    exact ⟨configMap, data, success, error, hget, happly, rfl, rfl⟩
  · rintro ⟨configMap, data, success, error, hget, happly, rfl, rfl⟩
    exact ⟨configMap, hget, data, success, error, happly, rfl, rfl⟩

/-- The config map that is edited is the one that is shown. -/
theorem view_onError {configMap configMap' : ConfigMap}
    (hget : page.heap.get? edit.configMap = some configMap) :
    page.configMaps.map (page.heap.modify edit.configMap fun _ => configMap').get? = page.view ↔
      (edit.configMap ∈ page.configMaps → configMap' = configMap) := by
  rw [Component.view, List.map_inj_left]
  constructor
  · intro h hmem
    have hself := h _ hmem
    rw [Heap.get?_modify_self, hget] at hself
    exact Option.some.inj hself
  · intro h r hr
    by_cases hself : r = edit.configMap
    · subst hself
      rw [Heap.get?_modify_self, hget, h hr]
      rfl
    · exact Heap.get?_modify_of_ne _ hself

theorem configMaps_onResponse (page : Component) (request : Request)
    (h : request.configMapEdit = request.configMap) :
    (page.onResponse request).configMaps = page.configMaps := by
  show (match page.configMaps.idxOf? request.configMap with
    | some i => page.configMaps.set i request.configMapEdit
    | none => page.configMaps) = _
  split
  · next i hi =>
    obtain ⟨hlt, hget, -⟩ := List.idxOf?_eq_some_iff.mp hi
    rw [h, ← hget, List.set_getElem_self]
  · rfl

/-- After an answer the config map is what was sent, sorted, and the others are as they were. -/
theorem view_onResponse {configMap configMap' : ConfigMap}
    (hget : page.heap.get? edit.configMap = some configMap) :
    List.Forall₂ (Option.Rel SameMap)
        (page.configMaps.map
          ((page.heap.modify edit.configMap fun _ => configMap').modify edit.configMap
            Component.sortData).get?)
        (page.configMaps.map fun r =>
          if r = edit.configMap then some configMap' else page.heap.get? r) ↔
      (edit.configMap ∈ page.configMaps → ¬Crowded configMap'.data) := by
  rw [List.forall₂_map_left_iff, List.forall₂_map_right_iff, List.forall₂_same]
  constructor
  · intro h hmem
    have hself := h _ hmem
    rw [if_pos rfl, Heap.get?_modify_self, Heap.get?_modify_self, hget] at hself
    cases hself with
    | some hsame => exact sameMap_sortData_iff.mp hsame
  · intro h r hr
    by_cases hself : r = edit.configMap
    · subst hself
      rw [if_pos rfl, Heap.get?_modify_self, Heap.get?_modify_self, hget]
      exact .some (sameMap_sortData_iff.mpr (h hr))
    · rw [if_neg hself, Heap.get?_modify_of_ne _ hself, Heap.get?_modify_of_ne _ hself]
      cases page.heap.get? r with
      | none => exact .none
      | some configMap => exact .some (SameMap.refl configMap)

theorem Edit.apply_eq_none_iff {edit : Edit} {data : Option JsObject} :
    edit.apply data = none ↔ edit.configMapData = none ∧ data = none := by
  unfold Edit.apply
  split <;> simp_all

/-- Without a request nothing is promised. -/
theorem faithful_of_none (h : page.apiEditConfigMap edit = none) (outcome : Outcome) :
    Faithful page edit outcome := by
  cases outcome
  all_goals
    intro page' request hsome
    rw [h] at hsome
    cases hsome

/-- With one, it is the request of the edit whose outcome counts. -/
theorem faithful_of_some {configMap : ConfigMap} {data : Option JsObject} {words : String × String}
    (hget : page.heap.get? edit.configMap = some configMap)
    (happly : edit.apply configMap.data = some (data, words)) (outcome : Outcome) :
    Faithful page edit outcome ↔ Regular page edit outcome := by
  let page₁ : Component := { page with
    heap := page.heap.modify edit.configMap fun _ => { configMap with data } }
  let request : Request :=
    { sent := { configMap with data }
      associatedPods := edit.associatedPods
      configMap := edit.configMap
      configMapEdit := edit.configMap
      configMapDataName := edit.configMapDataName
      cedSuccessValue := words.1
      cedErrorValue := words.2 }
  have hsome : page.apiEditConfigMap edit = some (page₁, request) :=
    apiEditConfigMap_eq_some_iff.mpr ⟨configMap, data, words, hget, happly, rfl, rfl⟩
  have honly : ∀ {Q : Component → Request → Prop},
      (∀ page' request', page.apiEditConfigMap edit = some (page', request') → Q page' request') ↔
        Q page₁ request := by
    intro Q
    constructor
    · exact fun h => h _ _ hsome
    · intro h page' request' hsome'
      obtain ⟨rfl, rfl⟩ := Prod.mk.inj (Option.some.inj (hsome.symm.trans hsome'))
      exact h
  have hregular : ∀ {P : ConfigMap → Prop},
      (∀ other, page.heap.get? edit.configMap = some other → P other) ↔ P configMap := by
    intro P
    constructor
    · exact fun h => h configMap hget
    · intro h other hother
      obtain rfl := Option.some.inj (hget.symm.trans hother)
      exact h
  cases outcome with
  | fails =>
      have hsame : { configMap with data } = configMap ↔ edit.Idle configMap.data := by
        rw [← Edit.apply_eq_self_iff happly]
        exact ⟨fun h => congrArg ConfigMap.data h, fun h => by rw [h]⟩
      exact honly.trans ((view_onError hget).trans
        (imp_congr_right fun _ => hsame.trans
          (hregular (P := fun other => edit.Idle other.data)).symm))
  | succeeds =>
      have hview : (page₁.onResponse request).view = page.configMaps.map
          ((page.heap.modify edit.configMap fun _ => { configMap with data }).modify
            edit.configMap Component.sortData).get? := by
        rw [Component.view, configMaps_onResponse _ _ rfl]
        rfl
      refine honly.trans ?_
      rw [hview]
      exact (view_onResponse hget).trans
        (imp_congr_right fun _ => (Edit.keeps_iff happly).symm.trans
          (hregular (P := fun other => edit.Keeps other.data)).symm)

/-- For every page, every edit and either outcome of its request. -/
theorem edit_faithful_iff (page : Component) (edit : Edit) (outcome : Outcome) :
    Faithful page edit outcome ↔ Regular page edit outcome := by
  cases hget : page.heap.get? edit.configMap with
  | none =>
      have hnone : page.apiEditConfigMap edit = none := by
        rw [Option.eq_none_iff_forall_ne_some]
        rintro ⟨page', request⟩ hsome
        obtain ⟨configMap, -, -, hget', -⟩ := apiEditConfigMap_eq_some_iff.mp hsome
        rw [hget] at hget'
        cases hget'
      refine iff_of_true (faithful_of_none hnone outcome) fun _ configMap hget' => ?_
      rw [hget] at hget'
      cases hget'
  | some configMap =>
      cases happly : edit.apply configMap.data with
      | some result => exact faithful_of_some hget happly outcome
      | none =>
          obtain ⟨htext, hdata⟩ := Edit.apply_eq_none_iff.mp happly
          have hnone : page.apiEditConfigMap edit = none := by
            rw [Option.eq_none_iff_forall_ne_some]
            rintro ⟨page', request⟩ hsome
            obtain ⟨other, data, words, hget', happly', -⟩ :=
              apiEditConfigMap_eq_some_iff.mp hsome
            obtain rfl := Option.some.inj (hget.symm.trans hget')
            rw [happly] at happly'
            cases happly'
          refine iff_of_true (faithful_of_none hnone outcome) fun _ other hget' => ?_
          obtain rfl := Option.some.inj (hget.symm.trans hget')
          rw [hdata]
          cases outcome with
          | fails =>
              show edit.Idle none
              simp only [Edit.Idle, htext]
          | succeeds =>
              intro data' heq
              cases heq

/-- Another text for an entry, and a request that fails. -/
theorem not_faithful_edited : ¬ ∀ page edit outcome, Faithful page edit outcome := by
  intro h
  let page : Component :=
    { heap := ⟨[⟨.null, some ⟨[("level", "info")], by decide⟩⟩]⟩
      configMaps := [0], configMapVisible := [false], messages := [] }
  have hview := h page ⟨some "debug", "level", 0, []⟩ .fails _ _ rfl
  have hdata := congrArg (fun view : List (Option ConfigMap) =>
    view.map fun configMap => configMap.bind fun c => c.data.bind (Table.get? · "level")) hview
  exact absurd hdata (by decide)

end ConfigMapEdits

end Tfplenum
