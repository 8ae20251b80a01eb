/-
  Tfplenum.Lib.Fallible

  Computations that give a value or an error, one after the other and over a list:
  what a result says about the parts (`bind_eq_ok_iff`, `mapM_eq_ok_iff`), and when
  there is one (`exists_mapM_eq_ok`).
-/

import Mathlib.Data.List.Forall2

namespace Tfplenum.Lib.Fallible

variable {α β ε : Type}

theorem bind_eq_ok_iff {x : Except ε α} {f : α → Except ε β} {b : β} :
    x >>= f = .ok b ↔ ∃ a, x = .ok a ∧ f a = .ok b := by
  cases x with
  | error e => simp [bind, Except.bind]
  | ok a => simp [bind, Except.bind]

theorem map_eq_ok_iff {x : Except ε α} {f : α → β} {b : β} :
    x.map f = .ok b ↔ ∃ a, x = .ok a ∧ f a = b := by
  cases x with
  | error e => simp [Except.map]
  | ok a => simp [Except.map]

/-- A list of results is a result for each element, in order. -/
theorem mapM_eq_ok_iff {f : α → Except ε β} {as : List α} {bs : List β} :
    as.mapM f = .ok bs ↔ List.Forall₂ (fun a b => f a = .ok b) as bs := by
  induction as generalizing bs with
  | nil =>
      rw [List.mapM_nil, List.forall₂_nil_left_iff]
      exact ⟨fun h => (Except.ok.inj h).symm, fun h => congrArg Except.ok h.symm⟩
  | cons a as ih =>
      rw [List.mapM_cons, bind_eq_ok_iff, List.forall₂_cons_left_iff]
      constructor
      · rintro ⟨b, hb, hrest⟩
        obtain ⟨bs', hbs', hbs⟩ := bind_eq_ok_iff.mp hrest
        exact ⟨b, bs', hb, ih.mp hbs', (Except.ok.inj hbs).symm⟩
      · rintro ⟨b, bs', hb, hbs', rfl⟩
        exact ⟨b, hb, bind_eq_ok_iff.mpr ⟨bs', ih.mpr hbs', rfl⟩⟩

/-- Where a fact about a result is one about its element, it holds along the list if it does
    for each element. -/
theorem forall₂_iff_forall_mem {R S : α → β → Prop} {P : α → Prop} {as : List α} {bs : List β}
    (h : List.Forall₂ R as bs) (hiff : ∀ a ∈ as, ∀ b, R a b → (S a b ↔ P a)) :
    List.Forall₂ S as bs ↔ ∀ a ∈ as, P a := by
  induction h with
  | nil => simp
  | @cons a b as bs hab hrest ih =>
      rw [List.forall_mem_cons] at hiff
      rw [List.forall₂_cons, List.forall_mem_cons, hiff.1 b hab, ih hiff.2]

/-- The results of a list are results of its elements. -/
theorem mem_of_mapM_eq_ok {f : α → Except ε β} {as : List α} {bs : List β}
    (h : as.mapM f = .ok bs) :
    (∀ a ∈ as, ∃ b ∈ bs, f a = .ok b) ∧ ∀ b ∈ bs, ∃ a ∈ as, f a = .ok b := by
  induction mapM_eq_ok_iff.mp h with
  | nil => exact ⟨by simp, by simp⟩
  | @cons a b as bs hab hrest ih =>
      obtain ⟨hleft, hright⟩ := ih (mapM_eq_ok_iff.mpr hrest)
      rw [List.forall_mem_cons, List.forall_mem_cons]
      refine ⟨⟨⟨b, List.mem_cons_self, hab⟩, fun a ha => ?_⟩,
        ⟨a, List.mem_cons_self, hab⟩, fun b hb => ?_⟩
      · obtain ⟨b, hb, hab⟩ := hleft a ha
        exact ⟨b, List.mem_cons_of_mem _ hb, hab⟩
      · obtain ⟨a, ha, hab⟩ := hright b hb
        exact ⟨a, List.mem_cons_of_mem _ ha, hab⟩

/-- Where the element can be read off its result, the results give the list again. -/
theorem map_of_mapM_eq_ok {f : α → Except ε β} {g : β → α} {as : List α} {bs : List β}
    (h : as.mapM f = .ok bs) (hg : ∀ a ∈ as, ∀ b, f a = .ok b → g b = a) : bs.map g = as := by
  induction mapM_eq_ok_iff.mp h with
  | nil => rfl
  | @cons a b as bs hab hrest ih =>
      rw [List.forall_mem_cons] at hg
      rw [List.map_cons, hg.1 b hab, ih (mapM_eq_ok_iff.mpr hrest) hg.2]

/-- There is a list of results as soon as there is one for each element. -/
theorem exists_mapM_eq_ok {f : α → Except ε β} {as : List α} (h : ∀ a ∈ as, ∃ b, f a = .ok b) :
    ∃ bs, as.mapM f = .ok bs := by
  induction as with
  | nil => exact ⟨[], rfl⟩
  | cons a as ih =>
      rw [List.forall_mem_cons] at h
      obtain ⟨b, hb⟩ := h.1
      obtain ⟨bs, hbs⟩ := ih h.2
      exact ⟨b :: bs, mapM_eq_ok_iff.mpr (.cons hb (mapM_eq_ok_iff.mp hbs))⟩

/-- There is a list of results with a property exactly if each element has a result with it. -/
theorem exists_mapM_eq_ok_and_iff {f : α → Except ε β} {R : α → β → Prop} {as : List α} :
    (∃ bs, as.mapM f = .ok bs ∧ List.Forall₂ R as bs) ↔
      ∀ a ∈ as, ∃ b, f a = .ok b ∧ R a b := by
  simp only [mapM_eq_ok_iff]
  constructor
  · rintro ⟨bs, hbs, hR⟩
    induction hbs with
    | nil => simp
    | @cons a b as bs hab hrest ih =>
        rw [List.forall₂_cons] at hR
        exact List.forall_mem_cons.mpr ⟨⟨b, hab, hR.1⟩, ih hR.2⟩
  · intro h
    induction as with
    | nil => exact ⟨[], .nil, .nil⟩
    | cons a as ih =>
        rw [List.forall_mem_cons] at h
        obtain ⟨b, hab, hRab⟩ := h.1
        obtain ⟨bs, hbs, hR⟩ := ih h.2
        exact ⟨b :: bs, .cons hab hbs, .cons hRab hR⟩

end Tfplenum.Lib.Fallible
