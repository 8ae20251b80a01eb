/-
  Tfplenum.Lib.JsObject

  Plain objects of JavaScript by their own properties: assigning to a property, and
  putting the properties in the order of their texts.

  Every plain object inherits an accessor `__proto__`.  Where the object has no property
  of that name of its own, an assignment to it reaches the accessor, which does nothing
  with a value that is no object, so that the property is lost (`assign_proto`,
  `get?_sorted`).
-/

import Tfplenum.Lib.CodePoints
import Tfplenum.Lib.Table

namespace Tfplenum.Lib

/-- The own properties of an object, in the order in which they were made -/
abbrev JsObject := Table String String

namespace JsObject

/-- `object[name] = value`, for a value that is a string -/
def assign (object : JsObject) (name value : String) : JsObject :=
  if name = "__proto__" ∧ object.get? name = none then object else object.upsert name value

/-- The text by which `sort` compares an entry -/
def entryText (entry : String × String) : List UInt16 :=
  (entry.1.toList ++ ',' :: entry.2.toList).flatMap CodePoint.units

/-- `Object.entries(object).sort()` -/
def sortedEntries (object : JsObject) : List (String × String) :=
  object.rows.mergeSort fun entry entry' => entryText entry ≤ entryText entry'

/-- `.reduce((obj, [key, value]) => Object.assign(obj, {[key]: value}), {})` -/
def ofEntries (entries : List (String × String)) : JsObject :=
  entries.foldl (fun object entry => assign object entry.1 entry.2) Table.empty

/-- The object with its properties in the order of their texts -/
def sorted (object : JsObject) : JsObject := ofEntries object.sortedEntries

/-! ## Assignment -/

theorem assign_proto {object : JsObject} {value : String}
    (h : object.get? "__proto__" = none) : assign object "__proto__" value = object :=
  if_pos ⟨rfl, h⟩

theorem assign_of_ne {object : JsObject} {name value : String} (h : name ≠ "__proto__") :
    assign object name value = object.upsert name value :=
  if_neg fun hproto => h hproto.1

/-- An assignment changes nothing if the value is there, or if it is lost. -/
theorem assign_eq_self_iff {object : JsObject} {name value : String} :
    assign object name value = object ↔
      object.get? name = some value ∨ name = "__proto__" ∧ object.get? name = none := by
  by_cases hlost : name = "__proto__" ∧ object.get? name = none
  · exact iff_of_true (if_pos hlost) (.inr hlost)
  · rw [assign, if_neg hlost, or_iff_left hlost]
    constructor
    · intro h
      have hget := congrArg (Table.get? · name) h
      simp only [Table.get?_upsert, if_pos] at hget
      exact hget.symm
    · exact Table.upsert_of_get?

/-! ## Sorting -/

theorem ofEntries_eq (entries : List (String × String)) :
    ofEntries entries =
      (entries.filter fun entry => entry.1 ≠ "__proto__").foldl
        (fun object entry => object.upsert entry.1 entry.2) Table.empty := by
  have hrun : ∀ object : JsObject, object.get? "__proto__" = none →
      entries.foldl (fun object entry => assign object entry.1 entry.2) object =
        (entries.filter fun entry => entry.1 ≠ "__proto__").foldl
          (fun object entry => object.upsert entry.1 entry.2) object := by
    induction entries with
    | nil => exact fun _ _ => rfl
    | cons entry entries ih =>
        intro object hobject
        obtain ⟨name, value⟩ := entry
        rw [List.foldl_cons]
        by_cases hname : name = "__proto__"
        · subst hname
          rw [assign_proto hobject, ih object hobject, List.filter_cons_of_neg (by simp)]
        · have hnext : (object.upsert name value).get? "__proto__" = none := by
            rw [Table.get?_upsert, if_neg (Ne.symm hname)]
            exact hobject
          rw [assign_of_ne hname, ih _ hnext, List.filter_cons_of_pos (by simpa using hname),
            List.foldl_cons]
  exact hrun Table.empty rfl

/-- Sorted, an object has the properties it had, but for `__proto__`. -/
theorem get?_sorted (object : JsObject) (name : String) :
    object.sorted.get? name = if name = "__proto__" then none else object.get? name := by
  let kept := object.sortedEntries.filter fun entry => entry.1 ≠ "__proto__"
  have hperm : object.sortedEntries.Perm object.rows := List.mergeSort_perm ..
  have hnodup : (kept.map Prod.fst).Nodup :=
    ((hperm.map Prod.fst).nodup_iff.mpr object.nodup).sublist (List.filter_sublist.map _)
  have hfound : object.sorted.get? name = kept.lookup name := by
    rw [sorted, ofEntries_eq, Table.get?_foldl_upsert hnodup]
    exact Option.or_none
  have hmem : ∀ value, (name, value) ∈ kept ↔ (name, value) ∈ object.rows ∧ name ≠ "__proto__" := by
    intro value
    rw [List.mem_filter, hperm.mem_iff, decide_eq_true_eq]
  rw [hfound]
  refine Option.ext fun value => ?_
  rw [Table.lookup_eq_some_iff hnodup, hmem, ← Table.get?_eq_some_iff]
  by_cases hname : name = "__proto__"
  · rw [if_pos hname]
    exact iff_of_false (fun h => h.2 hname) (fun h => by cases h)
  · rw [if_neg hname]
    exact and_iff_left hname

end JsObject

end Tfplenum.Lib
