/-
  Tfplenum.Utils.SanitizeDictionary

  `sanitize_dictionary` of `utils/utils.py`, which strips the strings of a payload.

  The function calls itself for the dictionaries that it meets as a value or as an
  item of a list.  A list that is an item of a list is no string and no dictionary, so
  that it stays as it is, with all the strings in it (`sanitized_iff`).
-/

import Tfplenum.Lib.Nested
import Tfplenum.Lib.Unicode

namespace Tfplenum

open Lib

/-- A scalar of a payload; what is no string may be of any type. -/
inductive Scalar (α : Type) where
  | str (text : String)
  | other (a : α)
deriving DecidableEq, Repr

abbrev PayloadTree (α : Type) := Nested Unit (Scalar α)

/-- A dictionary -/
@[match_pattern] abbrev PayloadTree.dict {α : Type}
    (fields : List (String × PayloadTree α)) : PayloadTree α := .record () fields

section

variable {α : Type} (u : Unicode)

/-- `text.strip()` -/
def stripText (text : String) : String := String.ofList (u.strip text.toList)

mutual

/-- `sanitize_dictionary`, the dictionary it leaves -/
def sanitizeDictionary : List (String × PayloadTree α) → List (String × PayloadTree α)
  | [] => []
  | (key, value) :: payload => (key, sanitizeValue value) :: sanitizeDictionary payload

/-- `payload[key]` after the round for the key -/
def sanitizeValue : PayloadTree α → PayloadTree α
  | .leaf (.str text) => .leaf (.str (stripText u text))
  | .leaf (.other a) => .leaf (.other a)
  | .record () fields => .record () (sanitizeDictionary fields)
  | .list items => .list (sanitizeItems items)

/-- The inner loop, over the items of a list -/
def sanitizeItems : List (PayloadTree α) → List (PayloadTree α)
  | [] => []
  | item :: items => sanitizeItem item :: sanitizeItems items

/-- An item after its round of the inner loop -/
def sanitizeItem : PayloadTree α → PayloadTree α
  | .leaf (.str text) => .leaf (.str (stripText u text))
  | .leaf (.other a) => .leaf (.other a)
  | .record () fields => .record () (sanitizeDictionary fields)
  -- there is no branch for a list
  | .list items => .list items

end

/-! ## What it is for -/

/-- A scalar without the white space around it -/
def stripScalar : Scalar α → Scalar α
  | .str text => .str (stripText u text)
  | .other a => .other a

/-- If the part is a string, it has no white space around it. -/
def StrippedPart : PayloadTree α → Prop
  | .leaf (.str text) => u.IsStripped text.toList
  | _ => True

/-- Every string of the dictionary is stripped, nothing but the white space around strings is
    another than before, and a second application changes nothing. -/
structure Sanitized (payload : List (String × PayloadTree α)) : Prop where
  stripped : (PayloadTree.dict (sanitizeDictionary u payload)).Everywhere (StrippedPart u)
  kept : (PayloadTree.dict (sanitizeDictionary u payload)).map (stripScalar u) =
    (PayloadTree.dict payload).map (stripScalar u)
  again : sanitizeDictionary u (sanitizeDictionary u payload) = sanitizeDictionary u payload

/-- If the part is a list, the lists that are items of it hold stripped strings only. -/
def InnerListsStripped : PayloadTree α → Prop
  | .list items => ∀ inner, .list inner ∈ items →
      (.list inner : PayloadTree α).Everywhere (StrippedPart u)
  | _ => True

/-! ## Round by round -/

theorem sanitizeItems_eq (items : List (PayloadTree α)) :
    sanitizeItems u items = items.map (sanitizeItem u) := by
  induction items with
  | nil => rw [sanitizeItems, List.map_nil]
  | cons item items ih => rw [sanitizeItems, ih, List.map_cons]

theorem sanitizeDictionary_eq (payload : List (String × PayloadTree α)) :
    sanitizeDictionary u payload =
      payload.map fun field => (field.1, sanitizeValue u field.2) := by
  induction payload with
  | nil => rw [sanitizeDictionary, List.map_nil]
  | cons field payload ih =>
      obtain ⟨key, value⟩ := field
      rw [sanitizeDictionary, ih, List.map_cons]

variable {u}

theorem stripText_stripText (text : String) :
    stripText u (stripText u text) = stripText u text := by
  rw [stripText, stripText, String.toList_ofList, u.strip_eq_self (u.isStripped_strip _)]

theorem isStripped_stripText (text : String) : u.IsStripped (stripText u text).toList := by
  rw [stripText, String.toList_ofList]
  exact u.isStripped_strip _

/-- Only white space around strings is taken away, from a value and from an item. -/
theorem map_sanitize (t : PayloadTree α) :
    (sanitizeValue u t).map (stripScalar u) = t.map (stripScalar u) ∧
      (sanitizeItem u t).map (stripScalar u) = t.map (stripScalar u) := by
  induction t using Nested.induct with
  | leaf a =>
      cases a with
      | str text => simp [sanitizeValue, sanitizeItem, stripScalar, stripText_stripText]
      | other a => simp [sanitizeValue, sanitizeItem]
  | list items ih =>
      rw [sanitizeValue, sanitizeItem, sanitizeItems_eq, Nested.map_list, Nested.map_list,
        List.map_map]
      have hitems : items.map (Nested.map (stripScalar u) ∘ sanitizeItem u) =
          items.map (Nested.map (stripScalar u)) :=
        List.map_congr_left fun t hmem => (ih t hmem).2
      exact ⟨congrArg Nested.list hitems, rfl⟩
  | record kind fields ih =>
      rw [sanitizeValue, sanitizeItem, sanitizeDictionary_eq, Nested.map_record, Nested.map_record,
        List.map_map]
      have hfields : fields.map ((fun field => (field.1, field.2.map (stripScalar u))) ∘
            fun field => (field.1, sanitizeValue u field.2)) =
          fields.map fun field => (field.1, field.2.map (stripScalar u)) :=
        List.map_congr_left fun field hmem => congrArg (Prod.mk field.1) (ih field hmem).1
      exact ⟨congrArg _ hfields, congrArg _ hfields⟩

/-- What is sanitized stays as it is. -/
theorem sanitize_sanitize (t : PayloadTree α) :
    sanitizeValue u (sanitizeValue u t) = sanitizeValue u t ∧
      sanitizeItem u (sanitizeItem u t) = sanitizeItem u t := by
  induction t using Nested.induct with
  | leaf a =>
      cases a with
      | str text => simp [sanitizeValue, sanitizeItem, stripText_stripText]
      | other a => simp [sanitizeValue, sanitizeItem]
  | list items ih =>
      have hitems : sanitizeItems u (sanitizeItems u items) = sanitizeItems u items := by
        rw [sanitizeItems_eq, sanitizeItems_eq, List.map_map]
        exact List.map_congr_left fun t hmem => (ih t hmem).2
      constructor
      · rw [sanitizeValue, sanitizeValue, hitems]
      · rw [sanitizeItem, sanitizeItem]
  | record kind fields ih =>
      have hfields : sanitizeDictionary u (sanitizeDictionary u fields) =
          sanitizeDictionary u fields := by
        rw [sanitizeDictionary_eq, sanitizeDictionary_eq, List.map_map]
        exact List.map_congr_left fun field hmem => congrArg (Prod.mk field.1) (ih field hmem).1
      constructor
      · rw [sanitizeValue, sanitizeValue, hfields]
      · rw [sanitizeItem, sanitizeItem, hfields]

/-! ## Which strings are reached -/

/-- In a tree of stripped strings the inner lists hold such strings too. -/
theorem innerListsStripped_of_stripped {t : PayloadTree α} (h : t.Everywhere (StrippedPart u)) :
    t.Everywhere (InnerListsStripped u) := by
  refine h.lift fun s hs => ?_
  cases s with
  | leaf a => trivial
  | record kind fields => trivial
  | list items => exact fun inner hmem => ((Nested.everywhere_list items).mp hs).2 _ hmem

/-- A value has its strings stripped if the inner lists have, and an item moreover has to have
    stripped strings only if it is a list itself. -/
theorem stripped_sanitize_iff (t : PayloadTree α) :
    ((sanitizeValue u t).Everywhere (StrippedPart u) ↔ t.Everywhere (InnerListsStripped u)) ∧
      ((sanitizeItem u t).Everywhere (StrippedPart u) ↔ t.Everywhere (InnerListsStripped u) ∧
        ∀ inner, t = .list inner → t.Everywhere (StrippedPart u)) := by
  induction t using Nested.induct with
  | leaf a =>
      cases a with
      | str text =>
          simp [sanitizeValue, sanitizeItem, StrippedPart, InnerListsStripped, isStripped_stripText]
      | other a => simp [sanitizeValue, sanitizeItem, StrippedPart, InnerListsStripped]
  | list items ih =>
      constructor
      · -- a list that is a value has its items gone through
        rw [sanitizeValue, sanitizeItems_eq, Nested.everywhere_list, Nested.everywhere_list]
        simp only [StrippedPart, true_and, List.forall_mem_map, InnerListsStripped]
        constructor
        · intro h
          refine ⟨fun inner hmem => ?_, fun t hmem => ((ih t hmem).2.mp (h t hmem)).1⟩
          exact ((ih _ hmem).2.mp (h _ hmem)).2 inner rfl
        · rintro ⟨hinner, hitems⟩ t hmem
          refine (ih t hmem).2.mpr ⟨hitems t hmem, fun inner heq => ?_⟩
          subst heq
          exact hinner inner hmem
      · -- a list among the items is left as it is
        rw [sanitizeItem]
        constructor
        · intro h
          exact ⟨innerListsStripped_of_stripped h, fun _ _ => h⟩
        · intro h
          exact h.2 items rfl
  | record kind fields ih =>
      have hfields : (PayloadTree.dict (sanitizeDictionary u fields)).Everywhere (StrippedPart u) ↔
          (PayloadTree.dict fields).Everywhere (InnerListsStripped u) := by
        rw [sanitizeDictionary_eq, Nested.everywhere_record, Nested.everywhere_record]
        simp only [StrippedPart, InnerListsStripped, true_and, List.forall_mem_map]
        exact forall₂_congr fun field hmem => (ih field hmem).1
      refine ⟨by rw [sanitizeValue]; exact hfields, ?_⟩
      rw [sanitizeItem]
      constructor
      · intro h
        exact ⟨hfields.mp h, nofun⟩
      · intro h
        exact hfields.mpr h.1

/-- The payloads that are sanitized are those in which no list is an item of a list, unless the
    strings in it are stripped already. -/
theorem sanitized_iff (u : Unicode) (payload : List (String × PayloadTree α)) :
    Sanitized u payload ↔ (PayloadTree.dict payload).Everywhere (InnerListsStripped u) := by
  have hvalue : sanitizeValue u (PayloadTree.dict payload) =
      PayloadTree.dict (sanitizeDictionary u payload) := by rw [sanitizeValue]
  have hstripped := (stripped_sanitize_iff (u := u) (PayloadTree.dict payload)).1
  rw [hvalue] at hstripped
  constructor
  · intro h
    exact hstripped.mp h.stripped
  · intro h
    have hkept := (map_sanitize (u := u) (PayloadTree.dict payload)).1
    have hagain := (sanitize_sanitize (u := u) (PayloadTree.dict payload)).1
    rw [hvalue] at hkept hagain
    rw [sanitizeValue, Nested.record.injEq] at hagain
    exact ⟨hstripped.mpr h, hkept, hagain.2⟩

end

/-- A list of names in a list -/
def nestedNames : List (String × PayloadTree Int) :=
  [("port", .leaf (.other 9200)), ("targets", .list [.list [.leaf (.str " sensor1.lan ")]])]

/-- The name in it keeps the white space around it. -/
theorem not_sanitized_nestedNames : ¬ Sanitized Unicode.ascii nestedNames := by
  intro h
  have hleft : sanitizeDictionary Unicode.ascii nestedNames = nestedNames := rfl
  have hstripped := h.stripped
  rw [hleft] at hstripped
  have hname : Unicode.ascii.IsStripped " sensor1.lan ".toList :=
    hstripped (.leaf (.str " sensor1.lan "))
      (.field (List.mem_cons_of_mem _ (List.mem_singleton_self _))
        (.item (List.mem_singleton_self _) (.item (List.mem_singleton_self _) .self)))
  exact absurd (hname.1 ' ' (by decide)) (by decide)

end Tfplenum
