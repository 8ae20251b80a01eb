/-
  Tfplenum.Lib.Steps

  Transition systems given by a partial step function: an event may happen in a
  state or not, and leads to one state if it does.  A run is a list of events, all
  of which may happen one after the other (`after`).

  A fact that every step keeps is kept by every run (`after_invariant`), and one that
  some steps keep by every run of such steps (`after_invariant_along`), as is what follows
  from it for a step (`along_of_invariant`), and by no other run if no other step keeps it
  (`after_iff_along`).  Where some events are hidden, the run without them ends in what is
  seen of the end of the run (`after_visible`).  A measure that every step lowers bounds
  the length of every run (`length_add_measure_le`) and leads every state to one in which
  nothing may happen (`exists_after_stuck`).
-/

import Mathlib.Data.List.Induction

namespace Tfplenum.Lib.Steps

variable {σ E : Type} {step : σ → E → Option σ}

/-- The state after the events, if they may happen in that order. -/
def after (step : σ → E → Option σ) : σ → List E → Option σ
  | s, [] => some s
  | s, e :: es => (step s e).bind fun s' => after step s' es

@[simp] theorem after_nil (s : σ) : after step s [] = some s := rfl
@[simp] theorem after_cons (s : σ) (e : E) (es : List E) :
    after step s (e :: es) = (step s e).bind fun s' => after step s' es := rfl

theorem after_cons_eq_some {s t : σ} {e : E} {es : List E} :
    after step s (e :: es) = some t ↔ ∃ s', step s e = some s' ∧ after step s' es = some t := by
  rw [after_cons, Option.bind_eq_some_iff]

theorem after_append (s : σ) (es es' : List E) :
    after step s (es ++ es') = (after step s es).bind fun s' => after step s' es' := by
  induction es generalizing s with
  | nil => rfl
  | cons e es ih =>
      rw [List.cons_append, after_cons, after_cons, Option.bind_assoc]
      congr 1
      funext s'
      exact ih s'

/-- A run can be cut anywhere. -/
theorem after_append_eq_some {s t : σ} {es es' : List E} :
    after step s (es ++ es') = some t ↔
      ∃ s', after step s es = some s' ∧ after step s' es' = some t := by
  rw [after_append, Option.bind_eq_some_iff]

/-- What every step keeps, a run keeps. -/
theorem after_invariant {I : σ → Prop} (hstep : ∀ s e s', step s e = some s' → I s → I s') {s t : σ}
    {es : List E} (h : after step s es = some t) (hs : I s) : I t := by
  induction es generalizing s with
  | nil =>
      cases h
      exact hs
  | cons e es ih =>
      obtain ⟨s', hs', h⟩ := after_cons_eq_some.mp h
      exact ih h (hstep s e s' hs' hs)

/-- Every step of a run, as far as it gets, is one of those allowed. -/
def Along (step : σ → E → Option σ) (allowed : σ → E → Prop) : σ → List E → Prop
  | _, [] => True
  | s, e :: es => allowed s e ∧ ∀ s', step s e = some s' → Along step allowed s' es

theorem along_cons_of_step {allowed : σ → E → Prop} {s s' : σ} {e : E} {es : List E}
    (h : step s e = some s') (hallowed : allowed s e) (halong : Along step allowed s' es) :
    Along step allowed s (e :: es) := by
  refine ⟨hallowed, fun t ht => ?_⟩
  rw [h] at ht
  rw [← Option.some.inj ht]
  exact halong

instance decidableAlong (step : σ → E → Option σ) (allowed : σ → E → Prop)
    [∀ s e, Decidable (allowed s e)] : ∀ s es, Decidable (Along step allowed s es)
  | _, [] => .isTrue trivial
  | s, e :: es =>
      match hs : step s e with
      | none => decidable_of_iff (allowed s e)
          ⟨fun h => ⟨h, fun s' hs' => by rw [hs] at hs'; cases hs'⟩, And.left⟩
      | some s' =>
          have := decidableAlong step allowed s' es
          decidable_of_iff (allowed s e ∧ Along step allowed s' es)
            ⟨fun h => along_cons_of_step hs h.1 h.2, fun h => ⟨h.1, h.2 s' hs⟩⟩

/-- What every allowed step keeps, a run of allowed steps keeps. -/
theorem after_invariant_along {I : σ → Prop} {allowed : σ → E → Prop}
    (hstep : ∀ s e s', allowed s e → step s e = some s' → I s → I s') {s t : σ} {es : List E}
    (h : after step s es = some t) (halong : Along step allowed s es) (hs : I s) : I t := by
  induction es generalizing s with
  | nil =>
      cases h
      exact hs
  | cons e es ih =>
      obtain ⟨s', hs', h⟩ := after_cons_eq_some.mp h
      exact ih h (halong.2 s' hs') (hstep s e s' halong.1 hs' hs)

/-- What follows from a fact that the allowed steps keep, and from being allowed, holds of every
    step of a run of allowed steps. -/
theorem along_of_invariant {I : σ → Prop} {allowed good : σ → E → Prop}
    (hstep : ∀ s e s', allowed s e → step s e = some s' → I s → I s')
    (hgood : ∀ s e, I s → allowed s e → good s e) {s : σ} {es : List E}
    (halong : Along step allowed s es) (hs : I s) : Along step good s es := by
  induction es generalizing s with
  | nil => trivial
  | cons e es ih =>
      refine ⟨hgood s e hs halong.1, fun s' hs' => ?_⟩
      exact ih (halong.2 s' hs') (hstep s e s' halong.1 hs' hs)

/-- Where a fact holds after a step exactly if it did before and the step is allowed, it holds
    after a run exactly if every step of it is allowed. -/
theorem after_iff_along {I : σ → Prop} {allowed : σ → E → Prop}
    (hstep : ∀ s e s', step s e = some s' → (I s' ↔ I s ∧ allowed s e)) {s t : σ} {es : List E}
    (h : after step s es = some t) : I t ↔ I s ∧ Along step allowed s es := by
  induction es generalizing s with
  | nil =>
      cases h
      exact ⟨fun hI => ⟨hI, trivial⟩, And.left⟩
  | cons e es ih =>
      obtain ⟨s', hs', h⟩ := after_cons_eq_some.mp h
      rw [ih h, hstep s e s' hs', and_assoc]
      constructor
      · rintro ⟨hI, hallowed, halong⟩
        exact ⟨hI, along_cons_of_step hs' hallowed halong⟩
      · rintro ⟨hI, hallowed, halong⟩
        exact ⟨hI, hallowed, halong s' hs'⟩

/-- The events of a run that are not hidden -/
def visible (step : σ → E → Option σ) (hidden : σ → E → Bool) : σ → List E → List E
  | _, [] => []
  | s, e :: es =>
      let rest := (step s e).elim es fun s' => visible step hidden s' es
      if hidden s e then rest else e :: rest

/-- Where a hidden event changes nothing that is seen, and every other one does to what is seen
    what it does, the run without the hidden events ends in what is seen of the end. -/
theorem after_visible {hidden : σ → E → Bool} {view : σ → σ} {allowed : σ → E → Prop}
    (hhidden : ∀ s e s', allowed s e → hidden s e = true → step s e = some s' → view s' = view s)
    (hshown : ∀ s e s', hidden s e = false → step s e = some s' →
      step (view s) e = some (view s')) {s t : σ} {es : List E} (h : after step s es = some t)
    (halong : Along step allowed s es) :
    after step (view s) (visible step hidden s es) = some (view t) := by
  induction es generalizing s with
  | nil =>
      cases h
      rfl
  | cons e es ih =>
      obtain ⟨s', hs', h⟩ := after_cons_eq_some.mp h
      have hrest := ih h (halong.2 s' hs')
      rw [visible, hs', Option.elim_some]
      cases he : hidden s e with
      | true =>
          rw [if_pos rfl, ← hhidden s e s' halong.1 he hs']
          exact hrest
      | false =>
          rw [if_neg Bool.false_ne_true]
          exact after_cons_eq_some.mpr ⟨view s', hshown s e s' he hs', hrest⟩

/-- A run is no longer than a measure that every step lowers. -/
theorem length_add_measure_le {m : σ → Nat} (hstep : ∀ s e s', step s e = some s' → m s' < m s)
    {s t : σ} {es : List E} (h : after step s es = some t) : es.length + m t ≤ m s := by
  induction es generalizing s with
  | nil =>
      cases h
      exact Nat.le_of_eq (Nat.zero_add _)
  | cons e es ih =>
      obtain ⟨s', hs', h⟩ := after_cons_eq_some.mp h
      have hlt := hstep s e s' hs'
      have hle := ih h
      rw [List.length_cons]
      omega

/-- With such a measure every state runs into one in which nothing may happen. -/
theorem exists_after_stuck {m : σ → Nat} (hstep : ∀ s e s', step s e = some s' → m s' < m s)
    (s : σ) : ∃ es t, after step s es = some t ∧ ∀ e, step t e = none := by
  by_cases hstuck : ∀ e, step s e = none
  · exact ⟨[], s, rfl, hstuck⟩
  · obtain ⟨e, he⟩ := not_forall.mp hstuck
    obtain ⟨s', hs'⟩ := Option.ne_none_iff_exists'.mp he
    have hlt := hstep s e s' hs'
    obtain ⟨es, t, hes, ht⟩ := exists_after_stuck hstep s'
    exact ⟨e :: es, t, after_cons_eq_some.mpr ⟨s', hs', hes⟩, ht⟩
termination_by m s

end Tfplenum.Lib.Steps
