/-
  Tfplenum.Lib.Nested

  Values that are nested to any depth: leaves, lists, and records of named fields,
  the records of several kinds.

  `Occurs` says that a tree is a part of another, at any depth, and `Everywhere`
  that all parts are of some sort.  `map` changes the leaves; `prune` changes them
  too, and drops those that it gives nothing for.
-/

import Mathlib.Data.List.Basic

namespace Tfplenum.Lib

inductive Nested (κ σ : Type) where
  | leaf (a : σ)
  | list (items : List (Nested κ σ))
  | record (kind : κ) (fields : List (String × Nested κ σ))

namespace Nested

variable {κ σ σ' : Type}

/-- Induction with the hypothesis for every item and for every field. -/
@[elab_as_elim]
theorem induct {motive : Nested κ σ → Prop} (leaf : ∀ a, motive (.leaf a))
    (list : ∀ items, (∀ t ∈ items, motive t) → motive (.list items))
    (record : ∀ kind fields, (∀ field ∈ fields, motive field.2) → motive (.record kind fields)) :
    ∀ t, motive t
  | .leaf a => leaf a
  | .list items => list items fun t _ => induct leaf list record t
  | .record kind fields => record kind fields fun field _ => induct leaf list record field.2
termination_by t => sizeOf t
decreasing_by
  · rename_i hmem
    have hlt := List.sizeOf_lt_of_mem hmem
    simp only [Nested.list.sizeOf_spec]
    omega
  · rename_i hmem
    have hlt := List.sizeOf_lt_of_mem hmem
    obtain ⟨name, t⟩ := field
    simp only [Nested.record.sizeOf_spec, Prod.mk.sizeOf_spec] at hlt ⊢
    omega

/-! ## Parts -/

/-- The first tree is a part of the second one, or is it. -/
inductive Occurs (s : Nested κ σ) : Nested κ σ → Prop where
  | self : Occurs s s
  | item {items : List (Nested κ σ)} {t : Nested κ σ} (hmem : t ∈ items) (h : Occurs s t) :
      Occurs s (.list items)
  | field {kind : κ} {fields : List (String × Nested κ σ)} {field : String × Nested κ σ}
      (hmem : field ∈ fields) (h : Occurs s field.2) : Occurs s (.record kind fields)

/-- Every part of the tree is of the sort. -/
def Everywhere (Q : Nested κ σ → Prop) (t : Nested κ σ) : Prop := ∀ s, s.Occurs t → Q s

variable {Q : Nested κ σ → Prop}

@[simp] theorem everywhere_leaf (a : σ) : Everywhere Q (.leaf a) ↔ Q (.leaf a) := by
  constructor
  · intro h
    exact h _ .self
  · intro h s hs
    cases hs with
    | self => exact h

@[simp] theorem everywhere_list (items : List (Nested κ σ)) :
    Everywhere Q (.list items) ↔ Q (.list items) ∧ ∀ t ∈ items, t.Everywhere Q := by
  constructor
  · intro h
    exact ⟨h _ .self, fun t hmem s hs => h s (.item hmem hs)⟩
  · rintro ⟨hself, hitems⟩ s hs
    cases hs with
    | self => exact hself
    | item hmem hs => exact hitems _ hmem s hs

@[simp] theorem everywhere_record (kind : κ) (fields : List (String × Nested κ σ)) :
    Everywhere Q (.record kind fields) ↔
      Q (.record kind fields) ∧ ∀ field ∈ fields, field.2.Everywhere Q := by
  constructor
  · intro h
    exact ⟨h _ .self, fun field hmem s hs => h s (.field hmem hs)⟩
  · rintro ⟨hself, hfields⟩ s hs
    cases hs with
    | self => exact hself
    | field hmem hs => exact hfields _ hmem s hs

theorem Occurs.trans {r s t : Nested κ σ} (h : r.Occurs s) (h' : s.Occurs t) : r.Occurs t := by
  induction h' with
  | self => exact h
  | item hmem _ ih => exact .item hmem ih
  | field hmem _ ih => exact .field hmem ih

/-- What is said of all parts is said again of every part, with all the parts of it. -/
theorem Everywhere.lift {Q' : Nested κ σ → Prop} {t : Nested κ σ} (h : t.Everywhere Q)
    (himp : ∀ s, s.Everywhere Q → Q' s) : t.Everywhere Q' :=
  fun s hs => himp s fun r hr => h r (hr.trans hs)

/-! ## Other leaves -/

mutual

/-- The tree with `f a` in place of each leaf `a` -/
def map (f : σ → σ') : Nested κ σ → Nested κ σ'
  | .leaf a => .leaf (f a)
  | .list items => .list (mapItems f items)
  | .record kind fields => .record kind (mapFields f fields)

def mapItems (f : σ → σ') : List (Nested κ σ) → List (Nested κ σ')
  | [] => []
  | t :: items => map f t :: mapItems f items

def mapFields (f : σ → σ') : List (String × Nested κ σ) → List (String × Nested κ σ')
  | [] => []
  | (name, t) :: fields => (name, map f t) :: mapFields f fields

end

@[simp] theorem map_leaf (f : σ → σ') (a : σ) : (.leaf a : Nested κ σ).map f = .leaf (f a) := by
  rw [map]

@[simp] theorem map_list (f : σ → σ') (items : List (Nested κ σ)) :
    (.list items : Nested κ σ).map f = .list (items.map (map f)) := by
  have hitems : mapItems f items = items.map (map f) := by
    induction items with
    | nil => rw [mapItems, List.map_nil]
    | cons t items ih => rw [mapItems, ih, List.map_cons]
  rw [map, hitems]

@[simp] theorem map_record (f : σ → σ') (kind : κ) (fields : List (String × Nested κ σ)) :
    (.record kind fields : Nested κ σ).map f =
      .record kind (fields.map fun field => (field.1, field.2.map f)) := by
  have hfields : mapFields f fields = fields.map fun field => (field.1, field.2.map f) := by
    induction fields with
    | nil => rw [mapFields, List.map_nil]
    | cons field fields ih =>
        obtain ⟨name, t⟩ := field
        rw [mapFields, ih, List.map_cons]
  rw [map, hfields]

mutual

/-- The tree with what `f` gives in place of each leaf; leaves that it gives nothing for are
    dropped, from lists and from records alike. -/
def prune (f : σ → Option σ') : Nested κ σ → Option (Nested κ σ')
  | .leaf a => (f a).map .leaf
  | .list items => some (.list (pruneItems f items))
  | .record kind fields => some (.record kind (pruneFields f fields))

def pruneItems (f : σ → Option σ') : List (Nested κ σ) → List (Nested κ σ')
  | [] => []
  | t :: items =>
      match prune f t with
      | some t' => t' :: pruneItems f items
      | none => pruneItems f items

def pruneFields (f : σ → Option σ') : List (String × Nested κ σ) → List (String × Nested κ σ')
  | [] => []
  | (name, t) :: fields =>
      match prune f t with
      | some t' => (name, t') :: pruneFields f fields
      | none => pruneFields f fields

end

/-- A field with what is left of its value, if anything is. -/
def pruneField (f : σ → Option σ') (field : String × Nested κ σ) : Option (String × Nested κ σ') :=
  (field.2.prune f).map fun t => (field.1, t)

@[simp] theorem prune_leaf (f : σ → Option σ') (a : σ) :
    (.leaf a : Nested κ σ).prune f = (f a).map .leaf := by
  rw [prune]

@[simp] theorem prune_list (f : σ → Option σ') (items : List (Nested κ σ)) :
    (.list items : Nested κ σ).prune f = some (.list (items.filterMap (prune f))) := by
  have hitems : pruneItems f items = items.filterMap (prune f) := by
    induction items with
    | nil => rw [pruneItems, List.filterMap_nil]
    | cons t items ih =>
        rw [pruneItems, List.filterMap_cons, ih]
        cases prune f t <;> rfl
  rw [prune, hitems]

@[simp] theorem prune_record (f : σ → Option σ') (kind : κ) (fields : List (String × Nested κ σ)) :
    (.record kind fields : Nested κ σ).prune f =
      some (.record kind (fields.filterMap (pruneField f))) := by
  have hfields : pruneFields f fields = fields.filterMap (pruneField f) := by
    induction fields with
    | nil => rw [pruneFields, List.filterMap_nil]
    | cons field fields ih =>
        obtain ⟨name, t⟩ := field
        rw [pruneFields, List.filterMap_cons, ih, pruneField]
        cases prune f t <;> rfl
  rw [prune, hfields]

end Nested

end Tfplenum.Lib
