/-
  Tfplenum.Lib.Heap

  Objects that are told apart by reference.  A heap is the list of the objects made
  so far, and a reference is the place of an object in it, so that what is made is
  new (`get?_make`), and a change of one object is none of another
  (`get?_modify_of_ne`).

  `Keeps` says which objects of a heap are still what they were; it is what a part
  of a program tells the parts around it.
-/

import Mathlib.Init

namespace Tfplenum.Lib

/-- The objects made so far -/
structure Heap (α : Type) where
  objects : List α

/-- The place of an object -/
abbrev Ref := Nat

namespace Heap

variable {α : Type}

def empty : Heap α := ⟨[]⟩

def size (h : Heap α) : Nat := h.objects.length

def get? (h : Heap α) (r : Ref) : Option α := h.objects[r]?

/-- The reference of the next object -/
def next (h : Heap α) : Ref := h.size

def make (h : Heap α) (a : α) : Heap α := ⟨h.objects ++ [a]⟩

def modify (h : Heap α) (r : Ref) (f : α → α) : Heap α := ⟨h.objects.modify r f⟩

@[simp] theorem size_make (h : Heap α) (a : α) : (h.make a).size = h.size + 1 := by
  simp [size, make]

@[simp] theorem size_modify (h : Heap α) (r : Ref) (f : α → α) : (h.modify r f).size = h.size := by
  simp [size, modify]

theorem get?_eq_none_iff {h : Heap α} {r : Ref} : h.get? r = none ↔ h.size ≤ r :=
  List.getElem?_eq_none_iff

theorem lt_size_of_get? {h : Heap α} {r : Ref} {a : α} (hr : h.get? r = some a) : r < h.size := by
  obtain ⟨hlt, -⟩ := List.getElem?_eq_some_iff.mp hr
  exact hlt

/-- What was made last is found at the next place. -/
@[simp] theorem get?_make_next (h : Heap α) (a : α) : (h.make a).get? h.next = some a := by
  simp [get?, make, next, size]

theorem get?_make_of_lt {h : Heap α} {r : Ref} (a : α) (hr : r < h.size) :
    (h.make a).get? r = h.get? r := by
  rw [get?, get?, make, List.getElem?_append_left hr]

@[simp] theorem get?_modify_self (h : Heap α) (r : Ref) (f : α → α) :
    (h.modify r f).get? r = (h.get? r).map f := by
  simp [get?, modify]

/-- A change of one object is none of another. -/
theorem get?_modify_of_ne {h : Heap α} {r r' : Ref} (f : α → α) (hne : r' ≠ r) :
    (h.modify r f).get? r' = h.get? r' := by
  simp [get?, modify, Ne.symm hne]

/-- An object that is changed to what it was -/
theorem modify_eq_self {h : Heap α} {r : Ref} {f : α → α} (hf : ∀ a, h.get? r = some a → f a = a) :
    h.modify r f = h := by
  suffices hlist : h.objects.modify r f = h.objects by rw [modify, hlist]
  apply List.ext_getElem?
  intro i
  rw [List.getElem?_modify]
  by_cases hi : r = i
  · subst hi
    cases ha : h.objects[r]? with
    | none => rfl
    | some a => simp [hf a ha]
  · simp [hi]

/-! ## What stays as it is -/

/-- Every object of the one heap but those of `rs` is the same in the other. -/
structure Keeps (rs : List Ref) (h h' : Heap α) : Prop where
  size_le : h.size ≤ h'.size
  get?_eq : ∀ r, r < h.size → r ∉ rs → h'.get? r = h.get? r

theorem Keeps.refl (rs : List Ref) (h : Heap α) : Keeps rs h h :=
  ⟨Nat.le_refl _, fun _ _ _ => rfl⟩

/-- What the second part may change is what the first may change or has made. -/
theorem Keeps.trans {rs rs' : List Ref} {h h' h'' : Heap α} (hfirst : Keeps rs h h')
    (hsecond : Keeps rs' h' h'') (hrs : ∀ r ∈ rs', r ∈ rs ∨ h.size ≤ r) : Keeps rs h h'' := by
  refine ⟨Nat.le_trans hfirst.size_le hsecond.size_le, fun r hr hnot => ?_⟩
  rw [hsecond.get?_eq r (Nat.lt_of_lt_of_le hr hfirst.size_le), hfirst.get?_eq r hr hnot]
  intro hmem
  rcases hrs r hmem with hmem | hle
  · exact hnot hmem
  · exact absurd hr (Nat.not_lt.mpr hle)

theorem keeps_make (rs : List Ref) (h : Heap α) (a : α) : Keeps rs h (h.make a) := by
  refine ⟨?_, fun r hr _ => get?_make_of_lt a hr⟩
  rw [size_make]
  omega

theorem keeps_modify (h : Heap α) (r : Ref) (f : α → α) : Keeps [r] h (h.modify r f) := by
  refine ⟨Nat.le_of_eq (size_modify h r f).symm, fun r' _ hnot => get?_modify_of_ne f ?_⟩
  rintro rfl
  exact hnot List.mem_cons_self

/-- Objects at pairwise different places do not see each other's changes. -/
theorem independent_of_nodup {h : Heap α} {rs : List Ref} (hnodup : rs.Nodup) :
    rs.Pairwise fun r r' => ∀ f, (h.modify r f).get? r' = h.get? r' ∧
      (h.modify r' f).get? r = h.get? r :=
  hnodup.imp fun hne f => ⟨get?_modify_of_ne f (Ne.symm hne), get?_modify_of_ne f hne⟩

end Heap

end Tfplenum.Lib
