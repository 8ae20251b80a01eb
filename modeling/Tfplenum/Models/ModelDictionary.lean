/-
  Tfplenum.Models.ModelDictionary

  `Model.to_dict` and `Model.from_dict` of `models/__init__.py`.

  A list is converted only if all of its items are models: at the first other item the
  list itself is given back, with whatever is in it, and of addresses only those are
  converted that are attributes themselves.  The way back hands `_handle_lists2` the
  list where it expects the dictionary, so that it raises for every list.
-/

import Tfplenum.Common
import Tfplenum.Lib.IPv4
import Tfplenum.Lib.Table
import Tfplenum.Lib.Nested

namespace Tfplenum

open Lib

/-- What has named fields: a `Model`, or a dictionary -/
inductive ObjectKind where
  | model
  | dict
deriving DecidableEq, Repr

/-- A value without parts; what is no string and no address may be of any type. -/
inductive ModelLeaf (α : Type) where
  | str (text : String)
  | address (ip : IPv4Address)
  | other (a : α)
deriving DecidableEq, Repr

abbrev ModelTree (α : Type) := Nested ObjectKind (ModelLeaf α)

/-- The attributes of a model, its `__dict__` -/
abbrev ModelAttributes (α : Type) := Table String (ModelTree α)

section

variable {α : Type}

mutual

/-- `to_dict`, over the attributes that are left -/
def toDictFields : List (String × ModelTree α) → List (String × ModelTree α)
  | [] => []
  | (key, value) :: fields => (key, toDictValue value) :: toDictFields fields

/-- `ret_val[key]` after the round for the key -/
def toDictValue : ModelTree α → ModelTree α
  | .record .model fields => .record .dict (toDictFields fields)
  | .list items => .list ((handleLists items).getD items)
  | .leaf (.address ip) => .leaf (.str ip.print)
  | .leaf (.str text) => .leaf (.str text)
  | .leaf (.other a) => .leaf (.other a)
  | .record .dict fields => .record .dict fields

/-- `_handle_lists`, `none` where it gives the list itself back -/
def handleLists : List (ModelTree α) → Option (List (ModelTree α))
  | [] => some []
  | .record .model fields :: items =>
      (handleLists items).map fun aList => .record .dict (toDictFields fields) :: aList
  | _ :: _ => none

end

theorem toDictFields_eq (fields : List (String × ModelTree α)) :
    toDictFields fields = fields.map fun field => (field.1, toDictValue field.2) := by
  induction fields with
  | nil => rw [toDictFields, List.map_nil]
  | cons field fields ih =>
      obtain ⟨key, value⟩ := field
      rw [toDictFields, ih, List.map_cons]

theorem map_fst_toDictFields (fields : List (String × ModelTree α)) :
    (toDictFields fields).map Prod.fst = fields.map Prod.fst := by
  rw [toDictFields_eq, List.map_map]
  rfl

/-- `to_dict` -/
def toDict (self : ModelAttributes α) : Table String (ModelTree α) where
  rows := toDictFields self.rows
  nodup := (map_fst_toDictFields self.rows).symm ▸ self.nodup

/-- `_handle_lists2`, which `from_dict` gives the list where the dictionary should be: it is
    subscripted with the key before anything else. -/
def handleLists2 (_key : String) (_someDict : List (ModelTree α)) :
    Except PyError (List (ModelTree α)) :=
  .error (.typeError "list indices must be integers or slices, not str")

/-- The value that `from_dict` sets for one of the dictionary -/
def fromDictValue (key : String) : ModelTree α → Except PyError (ModelTree α)
  | .record .model fields => .ok (.record .dict (toDictFields fields))
  | .list items => (handleLists2 key items).map .list
  | value => .ok value

/-- One round of the loop of `from_dict` -/
def fromDictRound (self : ModelAttributes α) (item : String × ModelTree α) :
    Except PyError (ModelAttributes α) := do
  let value ← fromDictValue item.1 item.2
  return self.upsert item.1 value

/-- `from_dict` -/
def fromDict (someDict : Table String (ModelTree α)) (self : ModelAttributes α) :
    Except PyError (ModelAttributes α) :=
  someDict.rows.foldlM fromDictRound self

/-! ## What it is for -/

/-- The part is no model and no address. -/
def PlainPart : ModelTree α → Prop
  | .record .model _ => False
  | .leaf (.address _) => False
  | _ => True

/-- The same keys with the same values -/
def SameDict (d d' : Table String (ModelTree α)) : Prop := ∀ key, d.get? key = d'.get? key

/-- The dictionary of the model has no models and no addresses in it, and a model that has no
    other attributes takes it over, to give the same dictionary again. -/
structure RoundTrips (model : ModelAttributes α) : Prop where
  converted : (.record .dict (toDict model).rows : ModelTree α).Everywhere PlainPart
  again : ∀ fresh : ModelAttributes α, fresh.rows.map Prod.fst ⊆ model.rows.map Prod.fst →
    ∃ loaded, fromDict (toDict model) fresh = .ok loaded ∧ SameDict (toDict loaded) (toDict model)

/-- The tree is a model. -/
def IsModel (t : ModelTree α) : Prop := ∃ fields, t = .record .model fields

/-- The tree is a list. -/
def IsList (t : ModelTree α) : Prop := ∃ items, t = .list items

/-- If the part is a list, it holds models only, or nothing to be converted; if it is a
    dictionary, it holds nothing to be converted. -/
def ConvertiblePart : ModelTree α → Prop
  | .list items => (∀ t ∈ items, IsModel t) ∨ (.list items : ModelTree α).Everywhere PlainPart
  | .record .dict fields => (.record .dict fields : ModelTree α).Everywhere PlainPart
  | _ => True

/-! ## To the dictionary -/

theorem handleLists_of_models {items : List (ModelTree α)} (h : ∀ t ∈ items, IsModel t) :
    handleLists items = some (items.map toDictValue) := by
  induction items with
  | nil => rw [handleLists, List.map_nil]
  | cons t items ih =>
      obtain ⟨fields, rfl⟩ := h t List.mem_cons_self
      rw [handleLists, ih fun t ht => h t (List.mem_cons_of_mem _ ht), List.map_cons, toDictValue]
      rfl

theorem handleLists_of_other {items : List (ModelTree α)} (h : ¬ ∀ t ∈ items, IsModel t) :
    handleLists items = none := by
  induction items with
  | nil => simp at h
  | cons t items ih =>
      rw [List.forall_mem_cons, not_and] at h
      rcases t with a | inner | ⟨kind, fields⟩
      · rw [handleLists]
        nofun
      · rw [handleLists]
        nofun
      · cases kind with
        | model => rw [handleLists, ih (h ⟨fields, rfl⟩), Option.map_none]
        | dict =>
            rw [handleLists]
            nofun

/-- A list of models, and any other one -/
theorem toDictValue_list (items : List (ModelTree α)) :
    ((∀ t ∈ items, IsModel t) → toDictValue (.list items) = .list (items.map toDictValue)) ∧
      ((¬ ∀ t ∈ items, IsModel t) → toDictValue (.list items) = .list items) := by
  constructor
  · intro h
    rw [toDictValue, handleLists_of_models h, Option.getD_some]
  · intro h
    rw [toDictValue, handleLists_of_other h, Option.getD_none]

/-- What has nothing to be converted in it is convertible. -/
theorem convertible_of_plain {t : ModelTree α} (h : t.Everywhere PlainPart) :
    t.Everywhere ConvertiblePart := by
  refine h.lift fun s hs => ?_
  rcases s with a | items | ⟨kind, fields⟩
  · trivial
  · exact .inr hs
  · cases kind with
    | model => trivial
    | dict => exact hs

/-- What is left to be converted in the value is in a list with other items than models, or in
    a dictionary. -/
theorem plain_toDictValue_iff (t : ModelTree α) :
    (toDictValue t).Everywhere PlainPart ↔ t.Everywhere ConvertiblePart := by
  induction t using Nested.induct with
  | leaf a => cases a <;> simp [toDictValue, PlainPart, ConvertiblePart]
  | list items ih =>
      by_cases hmodels : ∀ t ∈ items, IsModel t
      · rw [(toDictValue_list items).1 hmodels, Nested.everywhere_list, Nested.everywhere_list]
        simp only [PlainPart, true_and, List.forall_mem_map]
        constructor
        · intro h
          exact ⟨.inl hmodels, fun t hmem => (ih t hmem).mp (h t hmem)⟩
        · rintro ⟨-, h⟩ t hmem
          exact (ih t hmem).mpr (h t hmem)
      · -- the list is stored as it is
        rw [(toDictValue_list items).2 hmodels]
        constructor
        · exact convertible_of_plain
        · intro h
          exact ((Nested.everywhere_list items).mp h).1.resolve_left hmodels
  | record kind fields ih =>
      cases kind with
      | model =>
          rw [toDictValue, toDictFields_eq, Nested.everywhere_record, Nested.everywhere_record]
          simp only [PlainPart, ConvertiblePart, true_and, List.forall_mem_map]
          exact forall₂_congr ih
      | dict =>
          -- so is a dictionary, whatever is in it
          rw [toDictValue]
          constructor
          · exact convertible_of_plain
          · intro h
            exact ((Nested.everywhere_record _ fields).mp h).1

/-- The value of a key in the dictionary -/
theorem get?_toDict (self : ModelAttributes α) (key : String) :
    (toDict self).get? key = (self.get? key).map toDictValue := by
  have hrows : ∀ rows : List (String × ModelTree α),
      (toDictFields rows).lookup key = (rows.lookup key).map toDictValue := by
    intro rows
    induction rows with
    | nil => simp [toDictFields]
    | cons row rows ih =>
        obtain ⟨name, value⟩ := row
        rw [toDictFields, List.lookup_cons, List.lookup_cons, ih]
        cases key == name <;> rfl
  exact hrows self.rows

/-- A list is still one in the dictionary, and nothing else becomes one. -/
theorem isList_toDictValue_iff (t : ModelTree α) : IsList (toDictValue t) ↔ IsList t := by
  rcases t with a | items | ⟨kind, fields⟩
  · cases a <;> simp [toDictValue, IsList]
  · simp [toDictValue, IsList]
  · cases kind <;> simp [toDictValue, IsList]

theorem not_isModel_toDictValue (t : ModelTree α) : ¬ IsModel (toDictValue t) := by
  rcases t with a | items | ⟨kind, fields⟩
  · cases a <;> simp [toDictValue, IsModel]
  · simp [toDictValue, IsModel]
  · cases kind <;> simp [toDictValue, IsModel]

/-- Once converted, a value that is no list stays as it is. -/
theorem toDictValue_toDictValue {t : ModelTree α} (h : ¬ IsList t) :
    toDictValue (toDictValue t) = toDictValue t := by
  rcases t with a | items | ⟨kind, fields⟩
  · cases a <;> simp [toDictValue]
  · exact absurd ⟨items, rfl⟩ h
  · cases kind <;> simp [toDictValue]

/-! ## And back -/

theorem fromDictValue_of_not {key : String} {value : ModelTree α} (hmodel : ¬ IsModel value)
    (hlist : ¬ IsList value) : fromDictValue key value = .ok value := by
  rcases value with a | items | ⟨kind, fields⟩
  · rfl
  · exact absurd ⟨items, rfl⟩ hlist
  · cases kind with
    | model => exact absurd ⟨fields, rfl⟩ hmodel
    | dict => rfl

/-- The loop over a dictionary without models and lists -/
theorem fromDict_rows {rows : List (String × ModelTree α)}
    (h : ∀ row ∈ rows, ¬ IsModel row.2 ∧ ¬ IsList row.2) (self : ModelAttributes α) :
    rows.foldlM fromDictRound self =
      .ok (rows.foldl (fun self item => self.upsert item.1 item.2) self) := by
  induction rows generalizing self with
  | nil => rfl
  | cons row rows ih =>
      obtain ⟨hmodel, hlist⟩ := h row List.mem_cons_self
      rw [List.foldlM_cons, fromDictRound, fromDictValue_of_not hmodel hlist, List.foldl_cons]
      exact ih (fun row hrow => h row (List.mem_cons_of_mem _ hrow)) (self.upsert row.1 row.2)

/-- A list in the dictionary raises, wherever it is. -/
theorem no_list_of_fromDict_rows {rows : List (String × ModelTree α)}
    {self loaded : ModelAttributes α} (h : rows.foldlM fromDictRound self = .ok loaded) :
    ∀ row ∈ rows, ¬ IsList row.2 := by
  induction rows generalizing self with
  | nil => simp
  | cons row rows ih =>
      obtain ⟨key, value⟩ := row
      rw [List.foldlM_cons, fromDictRound] at h
      cases hvalue : fromDictValue key value with
      | error e =>
          rw [hvalue] at h
          cases h
      | ok value' =>
          rw [hvalue] at h
          rw [List.forall_mem_cons]
          refine ⟨?_, ih h⟩
          rintro ⟨items, rfl⟩
          cases hvalue

/-- Loaded into a model without other attributes, each key has the value of the dictionary. -/
theorem get?_of_fromDict {d : Table String (ModelTree α)} {fresh : ModelAttributes α}
    (hplain : ∀ row ∈ d.rows, ¬ IsModel row.2 ∧ ¬ IsList row.2)
    (hfresh : fresh.rows.map Prod.fst ⊆ d.rows.map Prod.fst) :
    ∃ loaded, fromDict d fresh = .ok loaded ∧ SameDict loaded d := by
  refine ⟨_, fromDict_rows hplain fresh, fun key => ?_⟩
  rw [Table.get?_foldl_upsert d.nodup]
  cases hkey : d.rows.lookup key with
  | some value =>
      rw [Option.some_or]
      exact hkey.symm
  | none =>
      have hnone : fresh.get? key = none := by
        rw [Table.get?_eq_none_iff]
        intro hmem
        exact Table.get?_eq_none_iff.mp hkey (hfresh hmem)
      rw [Option.none_or, hnone]
      exact hkey.symm

/-- The models that make the round trip are those without a list among their attributes in
    which, at every depth, a list holds models only or nothing to be converted, and a
    dictionary holds nothing to be converted. -/
theorem modelRoundTrips_iff (model : ModelAttributes α) :
    RoundTrips model ↔ (∀ row ∈ model.rows, ¬ IsList row.2) ∧
      (.record .model model.rows : ModelTree α).Everywhere ConvertiblePart := by
  have hconverted := plain_toDictValue_iff (.record .model model.rows)
  rw [toDictValue] at hconverted
  have hrows : (toDict model).rows = model.rows.map fun row => (row.1, toDictValue row.2) :=
    toDictFields_eq model.rows
  constructor
  · rintro ⟨hplain, hagain⟩
    refine ⟨fun row hrow => ?_, hconverted.mp hplain⟩
    obtain ⟨loaded, hloaded, -⟩ := hagain model (List.Subset.refl _)
    have hmem : (row.1, toDictValue row.2) ∈ (toDict model).rows :=
      hrows ▸ List.mem_map_of_mem hrow
    -- the loader would raise for the list
    have hno := no_list_of_fromDict_rows hloaded _ hmem
    rwa [isList_toDictValue_iff] at hno
  · rintro ⟨hlists, hparts⟩
    refine ⟨hconverted.mpr hparts, fun fresh hfresh => ?_⟩
    have hvalues : ∀ row ∈ (toDict model).rows, ¬ IsModel row.2 ∧ ¬ IsList row.2 := by
      rw [hrows, List.forall_mem_map]
      intro row hrow
      refine ⟨not_isModel_toDictValue row.2, ?_⟩
      rw [isList_toDictValue_iff]
      exact hlists row hrow
    have hkeys : fresh.rows.map Prod.fst ⊆ (toDict model).rows.map Prod.fst := by
      rw [toDict, map_fst_toDictFields]
      exact hfresh
    obtain ⟨loaded, hloaded, hsame⟩ := get?_of_fromDict hvalues hkeys
    refine ⟨loaded, hloaded, fun key => ?_⟩
    rw [get?_toDict, hsame key, get?_toDict, Option.map_map]
    cases hkey : model.get? key with
    | none => rfl
    | some value =>
        have hlist : ¬ IsList value := hlists _ (Table.get?_eq_some_iff.mp hkey)
        exact congrArg some (toDictValue_toDictValue hlist)

end

/-- A model with a list of interface names -/
def sensorAttributes : ModelAttributes Int where
  rows := [("hostname", .leaf (.str "sensor1.lan")), ("interfaces", .list [.leaf (.str "ens192")])]
  nodup := by decide

/-- Its dictionary cannot be loaded. -/
theorem not_roundTrips_sensorAttributes : ¬ RoundTrips sensorAttributes := by
  intro h
  obtain ⟨loaded, hloaded, -⟩ := h.again .empty (List.nil_subset _)
  have hrows : (toDict sensorAttributes).rows = sensorAttributes.rows := rfl
  rw [fromDict, hrows] at hloaded
  exact no_list_of_fromDict_rows hloaded ("interfaces", .list [.leaf (.str "ens192")])
    (List.mem_cons_of_mem _ (List.mem_singleton_self _)) ⟨_, rfl⟩

end Tfplenum
