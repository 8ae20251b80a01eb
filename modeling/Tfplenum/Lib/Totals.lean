/-
  Tfplenum.Lib.Totals

  A total that each round of a loop either adds a fixed step to or sets anew.  Such a
  total depends on the order of the rounds, unless all rounds add or all set the same
  value (`runningTotal_perm_iff`).  With it, what a reordering of a list does to a selection
  from it.
-/

import Mathlib.Algebra.Group.Basic
import Mathlib.Data.List.Induction
import Mathlib.Data.List.Perm.Basic

namespace Tfplenum.Lib

/-! ## Reordered selections -/

section Selection

variable {α β : Type*}

/-- Each order of the selected elements comes from an order of all elements. -/
theorem exists_perm_of_perm_filter_map {p : α → Bool} {f : α → β} {l : List α} {l' : List β}
    (h : l'.Perm ((l.filter p).map f)) : ∃ m : List α, m.Perm l ∧ (m.filter p).map f = l' := by
  have hcomp : Relation.Comp (· = List.map f ·) List.Perm l' (l.filter p) := by
    rw [List.eq_map_comp_perm]
    exact h
  obtain ⟨s, rfl, hs⟩ := hcomp
  have hall : ∀ a ∈ s, p a = true := fun a ha => (List.mem_filter.mp (hs.subset ha)).2
  refine ⟨s ++ l.filter fun a => !p a, ?_, ?_⟩
  · exact (hs.append_right _).trans (List.filter_append_perm p l)
  · have hnone : (l.filter fun a => !p a).filter p = [] := by
      rw [List.filter_filter, List.filter_eq_nil_iff]
      simp
    rw [List.filter_append, hnone, List.append_nil, List.filter_eq_self.mpr hall]

end Selection

/-! ## Totals -/

variable {α M : Type*} [AddCommGroup M]

/-- The total of a loop: `none` adds the step, and a value is the total anew. -/
def runningTotal (step : M) (f : α → Option M) (l : List α) : M :=
  l.foldl (fun t a => match f a with
    | none => t + step
    | some e => e) 0

variable {step : M} {f : α → Option M}

theorem runningTotal_append_none {l : List α} {a : α} (h : f a = none) :
    runningTotal step f (l ++ [a]) = runningTotal step f l + step := by
  rw [runningTotal, List.foldl_append, List.foldl_cons, List.foldl_nil, h]
  rfl

theorem runningTotal_append_some {l : List α} {a : α} {e : M} (h : f a = some e) :
    runningTotal step f (l ++ [a]) = e := by
  rw [runningTotal, List.foldl_append, List.foldl_cons, List.foldl_nil, h]

theorem runningTotal_congr {g : α → Option M} {l : List α} (h : ∀ a ∈ l, f a = g a) :
    runningTotal step f l = runningTotal step g l := by
  induction l using List.reverseRecOn with
  | nil => rfl
  | append_singleton l a ih =>
      have hinit := ih fun b hb => h b (by simp [hb])
      have ha := h a (by simp)
      cases hf : f a with
      | none => rw [runningTotal_append_none hf, runningTotal_append_none (ha ▸ hf), hinit]
      | some e => rw [runningTotal_append_some hf, runningTotal_append_some (ha ▸ hf)]

theorem runningTotal_of_none {l : List α} (h : ∀ a ∈ l, f a = none) :
    runningTotal step f l = l.length • step := by
  induction l using List.reverseRecOn with
  | nil => exact (zero_nsmul step).symm
  | append_singleton l a ih =>
      rw [runningTotal_append_none (h a (by simp)), ih fun b hb => h b (by simp [hb]),
        List.length_append, List.length_singleton, add_nsmul, one_nsmul]

theorem runningTotal_of_some {l : List α} {e : M} (hl : l ≠ []) (h : ∀ a ∈ l, f a = some e) :
    runningTotal step f l = e := by
  induction l using List.reverseRecOn with
  | nil => exact absurd rfl hl
  | append_singleton l a _ => exact runningTotal_append_some (h a (by simp))

/-- An element may come last. -/
theorem exists_perm_append {l : List α} {a : α} (h : a ∈ l) : ∃ l', (l' ++ [a]).Perm l := by
  obtain ⟨s, t, rfl⟩ := List.mem_iff_append.mp h
  refine ⟨s ++ t, ?_⟩
  rw [List.append_assoc]
  exact (@List.perm_append_comm _ t [a]).append_left s

/-- The total is the same in every order just where all rounds add, or all set the same
    value. -/
theorem runningTotal_perm_iff (hstep : step ≠ 0) {l : List α} :
    (∀ l', l'.Perm l → runningTotal step f l' = runningTotal step f l) ↔
      (∀ a ∈ l, f a = none) ∨ ∃ e, ∀ a ∈ l, f a = some e := by
  constructor
  · intro h
    by_cases hnone : ∀ a ∈ l, f a = none
    · exact .inl hnone
    · push Not at hnone
      obtain ⟨a, ha, hne⟩ := hnone
      obtain ⟨e, he⟩ := Option.ne_none_iff_exists'.mp hne
      obtain ⟨s, hs⟩ := exists_perm_append ha
      have htotal : runningTotal step f l = e := (h _ hs).symm.trans (runningTotal_append_some he)
      refine .inr ⟨e, fun b hb => ?_⟩
      cases hfb : f b with
      | some e' =>
          obtain ⟨t, ht⟩ := exists_perm_append hb
          have htotal' := (h _ ht).symm.trans (runningTotal_append_some hfb)
          rw [← htotal, htotal']
      | none =>
          -- the element that adds comes after the one that sets
          have hmem : b ∈ s := by
            rcases List.mem_append.mp (hs.symm.subset hb) with hbs | hba
            · exact hbs
            · rw [List.mem_singleton.mp hba, he] at hfb
              cases hfb
          obtain ⟨t, ht⟩ := exists_perm_append hmem
          have hperm : (t ++ [a] ++ [b]).Perm l := by
            refine .trans ?_ hs
            refine .trans ?_ (ht.append_right [a])
            rw [List.append_assoc, List.append_assoc]
            exact (@List.perm_append_comm _ [a] [b]).append_left t
          have hlast := h _ hperm
          rw [runningTotal_append_none hfb, runningTotal_append_some he, htotal] at hlast
          exact absurd (add_eq_left.mp hlast) hstep
  · rintro (hnone | ⟨e, he⟩) l' hperm
    · rw [runningTotal_of_none hnone, runningTotal_of_none fun a ha => hnone a (hperm.subset ha),
        hperm.length_eq]
    · rcases eq_or_ne l [] with rfl | hl
      · rw [hperm.eq_nil]
      · rw [runningTotal_of_some hl he, runningTotal_of_some
          (fun hnil => hl (hnil ▸ hperm).symm.eq_nil) fun a ha => he a (hperm.subset ha)]

end Tfplenum.Lib
