/-
  Tfplenum.Utils.Objectify

  `objectify` of `utils/connection_mngs.py`, which makes a document out of the
  database one that can be sent as JSON: what is `None` is removed, dates and ids
  become strings.

  In a dictionary it knows all of these, in a list `None`, dates and dictionaries
  only.  The loop over a list pops from the list it iterates over, so that the item
  behind a popped one is passed over (`objectifyItems_eq_loop`).
-/

import Mathlib.Data.List.Chain
import Tfplenum.Lib.EditingLoop
import Tfplenum.Lib.Nested

namespace Tfplenum

open Lib Lib.EditingLoop

/-! ## Documents -/

/-- `datetime`, as far as it is printed -/
structure PyDatetime where
  year : Nat
  month : Nat
  day : Nat
  hour : Nat
  minute : Nat
  second : Nat
deriving DecidableEq, Repr

/-- `%m` and the like -/
def twoDigits (n : Nat) : String := if n < 10 then "0" ++ toString n else toString n

/-- `strftime(DATE_FORMAT_STR)` -/
def PyDatetime.strftime (t : PyDatetime) : String :=
  toString t.year ++ "-" ++ twoDigits t.month ++ "-" ++ twoDigits t.day ++ " " ++
    twoDigits t.hour ++ ":" ++ twoDigits t.minute ++ ":" ++ twoDigits t.second

/-- An `ObjectId` of the database driver -/
structure BsonId where
  bytes : List UInt8
  size : bytes.length = 12
deriving DecidableEq

/-- `str(id)` -/
def BsonId.str (id : BsonId) : String :=
  String.ofList (id.bytes.flatMap fun b => [(b.toNat / 16).digitChar, (b.toNat % 16).digitChar])

/-- A leaf of a document; numbers and the like may be of any type. -/
inductive DocLeaf (α : Type) where
  | none
  | str (text : String)
  | datetime (t : PyDatetime)
  | objectId (id : BsonId)
  | other (a : α)
deriving DecidableEq

abbrev DocTree (α : Type) := Nested Unit (DocLeaf α)

/-- A dictionary -/
@[match_pattern] abbrev DocTree.dict {α : Type} (fields : List (String × DocTree α)) : DocTree α :=
  .record () fields

section

variable {α : Type}

/-! ## `objectify` -/

mutual

/-- `objectify`, the dictionary it leaves -/
def objectify : List (String × DocTree α) → List (String × DocTree α)
  | [] => []
  | (key, value) :: someDict =>
      match objectifyValue value with
      | some value => (key, value) :: objectify someDict
      -- `del some_dict[key]`
      | none => objectify someDict

/-- `some_dict[key]` after the round for the key, if the key is still there -/
def objectifyValue : DocTree α → Option (DocTree α)
  | .leaf .none => none
  | .leaf (.datetime t) => some (.leaf (.str t.strftime))
  | .list items => some (.list (objectifyItems items))
  | .leaf (.objectId id) => some (.leaf (.str id.str))
  | .record () fields => some (.record () (objectify fields))
  | .leaf (.str text) => some (.leaf (.str text))
  | .leaf (.other a) => some (.leaf (.other a))

/-- The loop over the items of a list -/
def objectifyItems : List (DocTree α) → List (DocTree α)
  | [] => []
  | item :: items =>
      match objectifyItem item with
      | some item => item :: objectifyItems items
      -- `pop` moves the next item to a position that is over
      | none => objectifyPassing items

/-- The loop where the first item is passed over -/
def objectifyPassing : List (DocTree α) → List (DocTree α)
  | [] => []
  | item :: items => item :: objectifyItems items

/-- An item after its round, if it is not popped; there is no branch for ids and for lists. -/
def objectifyItem : DocTree α → Option (DocTree α)
  | .leaf .none => none
  | .leaf (.datetime t) => some (.leaf (.str t.strftime))
  | .record () fields => some (.record () (objectify fields))
  | .list items => some (.list items)
  | .leaf (.objectId id) => some (.leaf (.objectId id))
  | .leaf (.str text) => some (.leaf (.str text))
  | .leaf (.other a) => some (.leaf (.other a))

end

/-- The body of the loop over a list -/
def itemEdit (item : DocTree α) : Edit (DocTree α) :=
  match objectifyItem item with
  | some item => .replace item
  | none => .remove

/-- The loop over a list goes by positions, and pops from the list it goes over. -/
theorem objectifyItems_eq_loop (items : List (DocTree α)) :
    objectifyItems items =
      Id.run (loopFrom (fun item => Pure.pure (itemEdit item)) 0 items) := by
  rw [loop_eq_pass]
  have hpass : ∀ items : List (DocTree α),
      objectifyItems items =
          Id.run (EditingLoop.pass (fun item => Pure.pure (itemEdit item)) items) ∧
        objectifyPassing items =
          Id.run (passOver (fun item => Pure.pure (itemEdit item)) items) := by
    intro items
    induction items with
    | nil =>
        constructor
        · rw [objectifyItems, EditingLoop.pass]
          rfl
        · rw [objectifyPassing, passOver]
          rfl
    | cons item items ih =>
        constructor
        · rw [objectifyItems, EditingLoop.pass, pure_bind, itemEdit, ih.1, ih.2]
          cases objectifyItem item <;> rfl
        · rw [objectifyPassing, passOver, ih.1]
          rfl
  exact (hpass items).1

/-! ## What it is for -/

/-- What becomes of a leaf wherever it stands -/
def cleanLeaf : DocLeaf α → Option (DocLeaf α)
  | .none => none
  | .datetime t => some (.str t.strftime)
  | .objectId id => some (.str id.str)
  | leaf => some leaf

/-- The part is not `None`, no date and no id. -/
def CleanPart : DocTree α → Prop
  | .leaf .none | .leaf (.datetime _) | .leaf (.objectId _) => False
  | _ => True

/-- The dictionary is cleaned at every depth, it has kept all that does not have to go, in its
    place, and a second application changes nothing. -/
structure Objectified (someDict : List (String × DocTree α)) : Prop where
  clean : (DocTree.dict (objectify someDict)).Everywhere CleanPart
  kept : (DocTree.dict (objectify someDict)).prune cleanLeaf =
    (DocTree.dict someDict).prune cleanLeaf
  again : objectify (objectify someDict) = objectify someDict

/-- If the part is a list: none of its items is an id, the lists among its items are clean
    already, and so is every item that comes directly after a `None`. -/
def ItemsCleanable : DocTree α → Prop
  | .list items =>
      (∀ id, .leaf (.objectId id) ∉ items) ∧
        (∀ inner, .list inner ∈ items → (.list inner : DocTree α).Everywhere CleanPart) ∧
          items.IsChain fun item next => item = .leaf .none → next.Everywhere CleanPart
  | _ => True

/-! ## What stays -/

theorem prune_objectifyItems {items : List (DocTree α)}
    (h : ∀ t ∈ items, (objectifyItem t).bind (Nested.prune cleanLeaf) = t.prune cleanLeaf) :
    (objectifyItems items).filterMap (Nested.prune cleanLeaf) =
        items.filterMap (Nested.prune cleanLeaf) ∧
      (objectifyPassing items).filterMap (Nested.prune cleanLeaf) =
        items.filterMap (Nested.prune cleanLeaf) := by
  induction items with
  | nil => simp [objectifyItems, objectifyPassing]
  | cons item items ih =>
      obtain ⟨hitem, hrest⟩ := List.forall_mem_cons.mp h
      obtain ⟨hitems, hpassing⟩ := ih hrest
      constructor
      · rw [objectifyItems, List.filterMap_cons, ← hitem]
        cases objectifyItem item with
        -- an item that is passed over is pruned all the same
        | none => exact hpassing
        | some item =>
            rw [List.filterMap_cons, hitems]
            rfl
      · rw [objectifyPassing, List.filterMap_cons, List.filterMap_cons, hitems]

theorem prune_objectify_fields {fields : List (String × DocTree α)}
    (h : ∀ field ∈ fields,
      (objectifyValue field.2).bind (Nested.prune cleanLeaf) = field.2.prune cleanLeaf) :
    (objectify fields).filterMap (Nested.pruneField cleanLeaf) =
      fields.filterMap (Nested.pruneField cleanLeaf) := by
  induction fields with
  | nil => simp [objectify]
  | cons field fields ih =>
      obtain ⟨key, value⟩ := field
      obtain ⟨hhere, hrest⟩ := List.forall_mem_cons.mp h
      have hvalue : (objectifyValue value).bind (Nested.prune cleanLeaf) =
          value.prune cleanLeaf := hhere
      rw [objectify, List.filterMap_cons, Nested.pruneField, ← hvalue]
      cases objectifyValue value with
      | none => exact ih hrest
      | some value =>
          rw [List.filterMap_cons, ih hrest]
          rfl

/-- Nothing goes that does not have to go, from a value, from the items of a list and from a
    dictionary. -/
theorem prune_objectify (t : DocTree α) :
    (objectifyValue t).bind (Nested.prune cleanLeaf) = t.prune cleanLeaf ∧
      (objectifyItem t).bind (Nested.prune cleanLeaf) = t.prune cleanLeaf := by
  induction t using Nested.induct with
  | leaf a => cases a <;> simp [objectifyValue, objectifyItem, cleanLeaf]
  | list items ih =>
      -- the items of a list are gone through as items, the list itself as a value
      rw [objectifyValue, objectifyItem, Option.bind_some, Option.bind_some, Nested.prune_list,
        Nested.prune_list, (prune_objectifyItems fun t hmem => (ih t hmem).2).1]
      exact ⟨rfl, rfl⟩
  | record kind fields ih =>
      rw [objectifyValue, objectifyItem, Option.bind_some, Nested.prune_record, Nested.prune_record,
        prune_objectify_fields fun field hmem => (ih field hmem).1]
      exact ⟨rfl, rfl⟩

theorem objectifyItems_eq_self {items : List (DocTree α)}
    (h : ∀ t ∈ items, objectifyItem t = some t) : objectifyItems items = items := by
  induction items with
  | nil => rw [objectifyItems]
  | cons item items ih =>
      obtain ⟨hitem, hrest⟩ := List.forall_mem_cons.mp h
      rw [objectifyItems, hitem, ih hrest]

theorem objectify_eq_self {fields : List (String × DocTree α)}
    (h : ∀ field ∈ fields, objectifyValue field.2 = some field.2) : objectify fields = fields := by
  induction fields with
  | nil => rw [objectify]
  | cons field fields ih =>
      obtain ⟨key, value⟩ := field
      obtain ⟨hhere, hrest⟩ := List.forall_mem_cons.mp h
      have hvalue : objectifyValue value = some value := hhere
      rw [objectify, hvalue, ih hrest]

/-- What is clean stays as it is. -/
theorem objectify_of_clean {t : DocTree α} (h : t.Everywhere CleanPart) :
    objectifyValue t = some t ∧ objectifyItem t = some t := by
  induction t using Nested.induct with
  | leaf a => cases a <;> simp_all [CleanPart, objectifyValue, objectifyItem]
  | list items ih =>
      obtain ⟨-, hitems⟩ := (Nested.everywhere_list items).mp h
      have hsame : objectifyItems items = items :=
        objectifyItems_eq_self fun t hmem => (ih t hmem (hitems t hmem)).2
      rw [objectifyValue, objectifyItem, hsame]
      exact ⟨rfl, rfl⟩
  | record kind fields ih =>
      obtain ⟨-, hfields⟩ := (Nested.everywhere_record kind fields).mp h
      have hsame : objectify fields = fields :=
        objectify_eq_self fun field hmem => (ih field hmem (hfields field hmem)).1
      rw [objectifyValue, objectifyItem, hsame]
      exact ⟨rfl, rfl⟩

/-! ## What is cleaned -/

/-- In what is clean every list can be cleaned. -/
theorem cleanable_of_clean {t : DocTree α} (h : t.Everywhere CleanPart) :
    t.Everywhere ItemsCleanable := by
  refine h.lift fun s hs => ?_
  cases s with
  | leaf a => trivial
  | record kind fields => trivial
  | list items =>
      obtain ⟨-, hitems⟩ := (Nested.everywhere_list items).mp hs
      refine ⟨fun id hmem => ?_, fun inner hmem => hitems _ hmem, ?_⟩
      · exact (Nested.everywhere_leaf _).mp (hitems _ hmem)
      · exact List.Pairwise.isChain (List.pairwise_of_forall_mem_list fun item _ next hnext _ =>
          hitems next hnext)

/-- What an item of a list has to be for its round to clean it -/
def CleanableItem (item : DocTree α) : Prop :=
  item.Everywhere ItemsCleanable ∧ (∀ id, item ≠ .leaf (.objectId id)) ∧
    ∀ inner, item = .list inner → item.Everywhere CleanPart

theorem cleanableItem_of_clean {item : DocTree α} (h : item.Everywhere CleanPart) :
    CleanableItem item := by
  refine ⟨cleanable_of_clean h, fun id heq => ?_, fun _ _ => h⟩
  rw [heq, Nested.everywhere_leaf] at h
  exact h

/-- Only `None` is popped. -/
theorem objectifyItem_eq_none_iff {item : DocTree α} :
    objectifyItem item = none ↔ item = .leaf .none := by
  cases item with
  | leaf a => cases a <;> simp [objectifyItem]
  | list items => simp [objectifyItem]
  | record kind fields => simp [objectifyItem]

/-- Behind anything but a `None`, an item may be of any kind. -/
theorem isChain_cons_of_ne {item : DocTree α} {items : List (DocTree α)}
    (h : item ≠ .leaf .none) :
    ((item :: items).IsChain fun item next => item = .leaf .none → next.Everywhere CleanPart) ↔
      items.IsChain fun item next => item = .leaf .none → next.Everywhere CleanPart := by
  rw [List.isChain_cons]
  exact and_iff_right fun _ _ heq => absurd heq h

/-- A list is cleaned if the items that a round is made for are cleaned by it, and the others are
    clean; the others are those directly after a `None`. -/
theorem clean_objectifyItems_iff {items : List (DocTree α)}
    (h : ∀ t ∈ items, (∀ r ∈ objectifyItem t, r.Everywhere CleanPart) ↔ CleanableItem t) :
    (∀ r ∈ objectifyItems items, r.Everywhere CleanPart) ↔
      (∀ t ∈ items, CleanableItem t) ∧
        items.IsChain fun item next => item = .leaf .none → next.Everywhere CleanPart := by
  -- by two items, as a popped one takes the next one with it
  induction items using List.twoStepInduction with
  | nil => simp [objectifyItems]
  | singleton item =>
      have hitem := h item (List.mem_singleton_self item)
      rw [objectifyItems]
      cases hround : objectifyItem item with
      | none =>
          rw [hround] at hitem
          simpa [objectifyPassing] using hitem
      | some r =>
          rw [hround] at hitem
          simpa [objectifyItems] using hitem
  | cons_cons item next items ih ih' =>
      obtain ⟨hitem, hbehind⟩ := List.forall_mem_cons.mp h
      have hitems := (List.forall_mem_cons.mp hbehind).2
      rw [objectifyItems, List.forall_mem_cons]
      cases hround : objectifyItem item with
      | none =>
          -- the next item is passed over, so that it has to be clean
          have hnone := objectifyItem_eq_none_iff.mp hround
          rw [hround] at hitem
          have hcleanable : CleanableItem item := hitem.mp nofun
          show (∀ r ∈ objectifyPassing (next :: items), r.Everywhere CleanPart) ↔ _
          rw [objectifyPassing, List.forall_mem_cons, ih hitems, List.isChain_cons_cons,
            List.forall_mem_cons]
          constructor
          · rintro ⟨hnext, hrest, hchain⟩
            have hne : next ≠ .leaf .none := by
              rintro rfl
              exact (Nested.everywhere_leaf _).mp hnext
            exact ⟨⟨hcleanable, cleanableItem_of_clean hnext, hrest⟩, fun _ => hnext,
              (isChain_cons_of_ne hne).mpr hchain⟩
          · rintro ⟨⟨-, -, hrest⟩, hnext, hchain⟩
            exact ⟨hnext hnone, hrest, (List.isChain_cons.mp hchain).2⟩
      | some r =>
          -- a round is made for the next item too
          have hne : item ≠ .leaf .none := by
            intro heq
            rw [objectifyItem_eq_none_iff.mpr heq] at hround
            cases hround
          rw [hround] at hitem
          have hr : r.Everywhere CleanPart ↔ CleanableItem item := by simpa using hitem
          show (∀ r' ∈ r :: objectifyItems (next :: items), r'.Everywhere CleanPart) ↔ _
          rw [List.forall_mem_cons, hr, ih' next hbehind, isChain_cons_of_ne hne, and_assoc]

theorem clean_objectify_fields_iff {fields : List (String × DocTree α)}
    (h : ∀ field ∈ fields, (∀ r ∈ objectifyValue field.2, r.Everywhere CleanPart) ↔
      field.2.Everywhere ItemsCleanable) :
    (∀ field ∈ objectify fields, field.2.Everywhere CleanPart) ↔
      ∀ field ∈ fields, field.2.Everywhere ItemsCleanable := by
  induction fields with
  | nil => simp [objectify]
  | cons field fields ih =>
      obtain ⟨key, value⟩ := field
      obtain ⟨hvalue, hrest⟩ := List.forall_mem_cons.mp h
      rw [objectify, List.forall_mem_cons, ← hvalue, ← ih hrest]
      cases objectifyValue value <;> simp

/-- A value is cleaned if every list in it can be, and an item moreover has to be no id, and clean
    if it is a list. -/
theorem clean_objectify_iff (t : DocTree α) :
    ((∀ r ∈ objectifyValue t, r.Everywhere CleanPart) ↔ t.Everywhere ItemsCleanable) ∧
      ((∀ r ∈ objectifyItem t, r.Everywhere CleanPart) ↔ CleanableItem t) := by
  induction t using Nested.induct with
  | leaf a =>
      cases a <;> simp [objectifyValue, objectifyItem, CleanPart, ItemsCleanable, CleanableItem]
  | list items ih =>
      constructor
      · have hitems := clean_objectifyItems_iff fun t hmem => (ih t hmem).2
        have hlist : CleanPart (.list (objectifyItems items) : DocTree α) := trivial
        rw [objectifyValue]
        simp only [Option.mem_some, forall_eq']
        rw [Nested.everywhere_list, Nested.everywhere_list, and_iff_right hlist, hitems]
        constructor
        · rintro ⟨hall, hchain⟩
          exact ⟨⟨fun id hmem => (hall _ hmem).2.1 id rfl,
            fun inner hmem => (hall _ hmem).2.2 inner rfl, hchain⟩, fun t hmem => (hall t hmem).1⟩
        · rintro ⟨⟨hids, hinner, hchain⟩, hall⟩
          refine ⟨fun t hmem => ⟨hall t hmem, fun id heq => ?_, fun inner heq => ?_⟩, hchain⟩
          · exact hids id (heq ▸ hmem)
          · subst heq
            exact hinner inner hmem
      · -- a list among the items is not touched
        rw [objectifyItem]
        simp only [Option.mem_some, forall_eq']
        constructor
        · exact cleanableItem_of_clean
        · intro h
          exact h.2.2 items rfl
  | record kind fields ih =>
      have hdict : (DocTree.dict (objectify fields)).Everywhere CleanPart ↔
          (DocTree.dict fields).Everywhere ItemsCleanable := by
        rw [Nested.everywhere_record, Nested.everywhere_record,
          clean_objectify_fields_iff fun field hmem => (ih field hmem).1]
        simp only [CleanPart, ItemsCleanable]
      constructor
      · rw [objectifyValue]
        simpa using hdict
      · rw [objectifyItem]
        have hitem : CleanableItem (DocTree.dict fields) ↔
            (DocTree.dict fields).Everywhere ItemsCleanable := by
          constructor
          · exact And.left
          · intro h
            exact ⟨h, nofun, nofun⟩
        simpa [hitem] using hdict

/-- The documents that are cleaned are those whose lists can be cleaned. -/
theorem objectified_iff (someDict : List (String × DocTree α)) :
    Objectified someDict ↔ (DocTree.dict someDict).Everywhere ItemsCleanable := by
  have hclean := (clean_objectify_iff (DocTree.dict someDict)).1
  have hkept := (prune_objectify (DocTree.dict someDict)).1
  rw [objectifyValue] at hclean hkept
  simp only [Option.mem_some, forall_eq', Option.bind_some] at hclean hkept
  constructor
  · intro h
    exact hclean.mp h.clean
  · intro h
    have hagain := (objectify_of_clean (hclean.mpr h)).1
    rw [objectifyValue, Option.some.injEq, Nested.record.injEq] at hagain
    exact ⟨hclean.mpr h, hkept, hagain.2⟩

end

/-- Container statuses of a pod, of which two neighbours are missing -/
def missingNeighbours : List (String × DocTree Int) :=
  [("phase", .leaf (.str "Running")), ("statuses", .list [.leaf .none, .leaf .none])]

/-- The second of them is left. -/
theorem not_objectified_missingNeighbours : ¬ Objectified missingNeighbours := by
  intro h
  have hleft : objectify missingNeighbours =
      [("phase", .leaf (.str "Running")), ("statuses", .list [.leaf .none])] := rfl
  have hclean := h.clean
  rw [hleft] at hclean
  exact hclean (.leaf .none) (.field (List.mem_cons_of_mem _ (List.mem_singleton_self _))
    (.item (List.mem_singleton_self _) .self))

end Tfplenum
