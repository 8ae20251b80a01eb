/-
  Tfplenum.Lib.Replica

  A copy of a collection that gets the changes of the collection one by one, in any
  order.  A change puts rows in and takes rows out, and the copy is the collection up to
  the changes that it has not got yet (`UpTo`).

  A change of the collection keeps that, as the copy gets it later (`UpTo.change`), and so
  does what it does to the copy when it gets there (`UpTo.arrive`).  When nothing is on its
  way, the copy has the rows of the collection (`upTo_nil`).
-/

import Mathlib.Data.List.Count
import Mathlib.Data.List.Perm.Basic

namespace Tfplenum.Lib

/-- The rows that are put in, and those that are taken out -/
structure Change (α : Type) where
  added : List α
  removed : List α
deriving DecidableEq, Repr

namespace Change

variable {α β : Type}

/-- What a change does to those rows that satisfy a condition -/
def filter (c : Change α) (p : α → Bool) : Change α := ⟨c.added.filter p, c.removed.filter p⟩

def Empty (c : Change α) : Prop := c.added = [] ∧ c.removed = []

instance [DecidableEq α] (c : Change α) : Decidable c.Empty := inferInstanceAs (Decidable (_ ∧ _))

/-- The change leads from these rows to those. -/
def Leads (c : Change α) (rows rows' : List α) : Prop :=
  (rows' ++ c.removed).Perm (rows ++ c.added)

def allAdded (changes : List (Change α)) : List α := changes.flatMap Change.added
def allRemoved (changes : List (Change α)) : List α := changes.flatMap Change.removed

/-- The copy is the collection, up to changes that it has not got yet. -/
def UpTo (pending : List (Change α)) (copy stored : List α) : Prop :=
  (copy ++ allAdded pending).Perm (stored ++ allRemoved pending)

theorem Empty.leads {c : Change α} (h : c.Empty) (rows : List α) : c.Leads rows rows := by
  rw [Leads, h.1, h.2]

theorem Leads.filter {c : Change α} {rows rows' : List α} (h : c.Leads rows rows')
    (p : α → Bool) : (c.filter p).Leads (rows.filter p) (rows'.filter p) := by
  have hfilter := List.Perm.filter p h
  rwa [List.filter_append, List.filter_append] at hfilter

theorem empty_filter {c : Change α} {p : α → Bool} (hadded : ∀ r ∈ c.added, p r = false)
    (hremoved : ∀ r ∈ c.removed, p r = false) : (c.filter p).Empty := by
  constructor
  · exact List.filter_eq_nil_iff.mpr fun r hr => Bool.eq_false_iff.mp (hadded r hr)
  · exact List.filter_eq_nil_iff.mpr fun r hr => Bool.eq_false_iff.mp (hremoved r hr)

theorem upTo_nil {copy stored : List α} : UpTo [] copy stored ↔ copy.Perm stored := by
  rw [UpTo, allAdded, allRemoved, List.flatMap_nil, List.flatMap_nil, List.append_nil,
    List.append_nil]

theorem UpTo.refl (rows : List α) : UpTo [] rows rows := upTo_nil.mpr (List.Perm.refl rows)

section Counting

open Classical

/-- The collection changes, and the copy has not got that change yet. -/
theorem UpTo.change {c : Change α} {pending : List (Change α)} {copy stored stored' : List α}
    (h : UpTo pending copy stored) (hc : c.Leads stored stored') :
    UpTo (pending ++ [c]) copy stored' := by
  rw [UpTo, List.perm_iff_count] at h ⊢
  rw [Leads, List.perm_iff_count] at hc
  intro r
  have hr := h r
  have hcr := hc r
  simp only [allAdded, allRemoved, List.flatMap_append, List.flatMap_singleton,
    List.count_append] at hr hcr ⊢
  omega

/-- The copy gets a change, and it does to the copy what it did to the collection. -/
theorem UpTo.arrive {c : Change α} {pending pending' : List (Change α)}
    {copy copy' stored : List α} (h : UpTo pending copy stored)
    (hpending : pending.Perm (c :: pending')) (hc : c.Leads copy copy') :
    UpTo pending' copy' stored := by
  have hadded := List.perm_iff_count.mp (hpending.flatMap_right Change.added)
  have hremoved := List.perm_iff_count.mp (hpending.flatMap_right Change.removed)
  rw [UpTo, List.perm_iff_count] at h ⊢
  rw [Leads, List.perm_iff_count] at hc
  intro r
  have hr := h r
  have hcr := hc r
  have hra := hadded r
  have hrr := hremoved r
  simp only [allAdded, allRemoved, List.flatMap_cons, List.count_append] at hr hcr hra hrr ⊢
  omega

end Counting

/-- Changes that are empty do not matter. -/
theorem upTo_filter {changes : List β} {f : β → Change α} {q : β → Bool} {copy stored : List α}
    (h : ∀ b ∈ changes, q b = false → (f b).Empty) :
    UpTo ((changes.filter q).map f) copy stored ↔ UpTo (changes.map f) copy stored := by
  suffices hsame : ∀ g : Change α → List α, (∀ c : Change α, c.Empty → g c = []) →
      ((changes.filter q).map f).flatMap g = (changes.map f).flatMap g by
    rw [UpTo, UpTo, allAdded, allRemoved, hsame _ fun _ hc => hc.1, hsame _ fun _ hc => hc.2]
    rfl
  intro g hg
  induction changes with
  | nil => rfl
  | cons b changes ih =>
      have hrest := ih fun b' hb' => h b' (List.mem_cons_of_mem b hb')
      cases hq : q b with
      | true => rw [List.filter_cons_of_pos hq, List.map_cons, List.map_cons, List.flatMap_cons,
          List.flatMap_cons, hrest]
      | false =>
          rw [List.filter_cons_of_neg (Bool.eq_false_iff.mp hq), List.map_cons,
            List.flatMap_cons, hg _ (h b List.mem_cons_self hq), List.nil_append, hrest]

theorem upTo_append_of_empty {empties pending : List (Change α)} {copy stored : List α}
    (h : ∀ c ∈ empties, c.Empty) :
    UpTo (empties ++ pending) copy stored ↔ UpTo pending copy stored := by
  have hadded : empties.flatMap Change.added = [] :=
    List.flatMap_eq_nil_iff.mpr fun c hc => (h c hc).1
  have hremoved : empties.flatMap Change.removed = [] :=
    List.flatMap_eq_nil_iff.mpr fun c hc => (h c hc).2
  rw [UpTo, UpTo, allAdded, allRemoved, List.flatMap_append, List.flatMap_append, hadded,
    hremoved, List.nil_append, List.nil_append]
  rfl

/-- The order of the rows does not matter. -/
theorem UpTo.of_perm {pending : List (Change α)} {copy copy' stored : List α}
    (h : UpTo pending copy stored) (hcopy : copy'.Perm copy) : UpTo pending copy' stored :=
  (hcopy.append_right _).trans h

end Change

end Tfplenum.Lib
