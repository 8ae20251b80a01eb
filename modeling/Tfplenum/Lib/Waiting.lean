/-
  Tfplenum.Lib.Waiting

  Programs with loops that wait.  A program is run with a number of rounds that each
  of its waiting loops may take, and has a result once that is enough; more rounds do
  not change the result (`Waiting.mono`), so that a program has at most one
  (`Ends.unique`).

  `await p i` looks again and again, from look `i` on, until what it sees is as
  wanted.  It ends exactly at the first such look (`ends_await`).  A sequence of
  programs ends if each part does (`ends_bind`, `ends_foldlM_cons`).
-/

import Mathlib.Data.Nat.Find
import Mathlib.Order.Basic

namespace Tfplenum.Lib

/-- What a program comes to with so many rounds for each of its waiting loops. -/
structure Waiting (α : Type) where
  run : Nat → Option α
  mono : ∀ {n m a}, n ≤ m → run n = some a → run m = some a

namespace Waiting

variable {α β : Type}

/-- A program that does not wait. -/
def done (a : α) : Waiting α where
  run _ := some a
  mono _ h := h

def bind (w : Waiting α) (f : α → Waiting β) : Waiting β where
  run n := (w.run n).bind fun a => (f a).run n
  mono hle h := by
    obtain ⟨a, ha, hb⟩ := Option.bind_eq_some_iff.mp h
    exact Option.bind_eq_some_iff.mpr ⟨a, w.mono hle ha, (f a).mono hle hb⟩

instance : Monad Waiting where
  pure := done
  bind := bind

/-! ## Waiting for a look -/

/-- The first look from `i` on that is as wanted, if it is among the next so many. -/
def find (p : Nat → Bool) : Nat → Nat → Option Nat
  | 0, _ => none
  | n + 1, i => if p i then some i else find p n (i + 1)

theorem find_mono {p : Nat → Bool} {n m i j : Nat} (hle : n ≤ m) (h : find p n i = some j) :
    find p m i = some j := by
  induction n generalizing m i with
  | zero => cases h
  | succ n ih =>
      obtain ⟨m, rfl⟩ : ∃ k, m = k + 1 := ⟨m - 1, by omega⟩
      rw [find] at h ⊢
      split at h
      · rename_i hp
        rw [if_pos hp]
        exact h
      · rename_i hp
        rw [if_neg hp]
        exact ih (by omega) h

/-- Look, from look `i` on, until what is seen is as wanted, and say which look it was. -/
def await (p : Nat → Bool) (i : Nat) : Waiting Nat where
  run n := find p n i
  mono hle h := find_mono hle h

/-- The first from `i` on. -/
structure First (p : Nat → Bool) (i j : Nat) : Prop where
  le : i ≤ j
  holds : p j = true
  before : ∀ k, i ≤ k → k < j → p k = false

/-- What is so at some look is so at a first one. -/
theorem exists_first {p : Nat → Bool} {i j : Nat} (hle : i ≤ j) (h : p j = true) :
    ∃ j, First p i j := by
  have hex : ∃ j, i ≤ j ∧ p j = true := ⟨j, hle, h⟩
  refine ⟨Nat.find hex, (Nat.find_spec hex).1, (Nat.find_spec hex).2, fun k hik hk => ?_⟩
  have hnot := Nat.find_min hex hk
  rw [← Bool.not_eq_true]
  exact fun hp => hnot ⟨hik, hp⟩

/-- What is so from some look on for each of finitely many is so for all of them at once. -/
theorem exists_from_forall_mem {P : α → Nat → Prop} {as : List α}
    (h : ∀ a ∈ as, ∃ n, ∀ i, n ≤ i → P a i) : ∃ n, ∀ i, n ≤ i → ∀ a ∈ as, P a i := by
  induction as with
  | nil => exact ⟨0, by simp⟩
  | cons a as ih =>
      rw [List.forall_mem_cons] at h
      obtain ⟨n, hn⟩ := h.1
      obtain ⟨m, hm⟩ := ih h.2
      refine ⟨max n m, fun i hi => ?_⟩
      rw [List.forall_mem_cons]
      exact ⟨hn i (by omega), hm i (by omega)⟩

theorem first_of_find {p : Nat → Bool} {n i j : Nat} (h : find p n i = some j) :
    First p i j := by
  induction n generalizing i with
  | zero => cases h
  | succ n ih =>
      rw [find] at h
      split at h
      · rename_i hp
        obtain rfl := Option.some.inj h
        exact ⟨Nat.le_refl i, hp, fun k hik hk => by omega⟩
      · rename_i hp
        have hrest := ih h
        have hle := hrest.le
        refine ⟨by omega, hrest.holds, fun k hik hk => ?_⟩
        -- it is this look, or one of those that were made after it
        by_cases hk0 : k = i
        · rw [hk0]
          exact (Bool.not_eq_true _).mp hp
        · exact hrest.before k (by omega) hk

theorem find_of_first {p : Nat → Bool} {i k : Nat} (h : First p i (i + k)) :
    find p (k + 1) i = some (i + k) := by
  induction k generalizing i with
  | zero =>
      have hp : p i = true := h.holds
      rw [find, if_pos hp, Nat.add_zero]
  | succ k ih =>
      have hnot : p i = false := h.before i (Nat.le_refl i) (by omega)
      have hshift : i + (k + 1) = (i + 1) + k := by omega
      rw [hshift] at h ⊢
      rw [find, hnot]
      exact ih ⟨by omega, h.holds, fun j hij hj => h.before j (by omega) hj⟩

/-! ## Results -/

/-- With enough rounds the program comes to the result. -/
def Ends (w : Waiting α) (a : α) : Prop := ∃ n, w.run n = some a

theorem Ends.unique {w : Waiting α} {a a' : α} (h : w.Ends a) (h' : w.Ends a') : a = a' := by
  obtain ⟨n, hn⟩ := h
  obtain ⟨m, hm⟩ := h'
  rcases Nat.le_total n m with hle | hle
  · exact Option.some.inj ((w.mono hle hn).symm.trans hm)
  · exact Option.some.inj (hn.symm.trans (w.mono hle hm))

@[simp] theorem ends_pure {a b : α} : (pure a : Waiting α).Ends b ↔ a = b :=
  ⟨fun ⟨_, h⟩ => Option.some.inj h, fun h => ⟨0, congrArg some h⟩⟩

theorem ends_bind {w : Waiting α} {f : α → Waiting β} {b : β} :
    (w >>= f).Ends b ↔ ∃ a, w.Ends a ∧ (f a).Ends b := by
  constructor
  · rintro ⟨n, h⟩
    obtain ⟨a, ha, hb⟩ := Option.bind_eq_some_iff.mp h
    exact ⟨a, ⟨n, ha⟩, n, hb⟩
  · rintro ⟨a, ⟨n, ha⟩, m, hb⟩
    -- as many rounds as either part needs
    exact ⟨max n m, Option.bind_eq_some_iff.mpr
      ⟨a, w.mono (Nat.le_max_left n m) ha, (f a).mono (Nat.le_max_right n m) hb⟩⟩

theorem ends_await {p : Nat → Bool} {i j : Nat} : (await p i).Ends j ↔ First p i j := by
  constructor
  · rintro ⟨n, h⟩
    exact first_of_find h
  · intro h
    obtain ⟨k, rfl⟩ := Nat.exists_eq_add_of_le h.le
    exact ⟨k + 1, find_of_first h⟩

@[simp] theorem ends_foldlM_nil {f : β → α → Waiting β} {b b' : β} :
    ([].foldlM f b).Ends b' ↔ b = b' := by
  rw [List.foldlM_nil, ends_pure]

theorem ends_foldlM_cons {f : β → α → Waiting β} {a : α} {as : List α} {b b' : β} :
    ((a :: as).foldlM f b).Ends b' ↔ ∃ c, (f b a).Ends c ∧ (as.foldlM f c).Ends b' := by
  rw [List.foldlM_cons, ends_bind]

/-! ## Programs that may raise -/

variable {ε : Type}

@[simp] theorem ends_ok_pure {a b : α} :
    (pure a : ExceptT ε Waiting α).run.Ends (.ok b) ↔ a = b := by
  rw [ExceptT.run_pure, ends_pure, Except.ok.injEq]

theorem ends_ok_bind {w : ExceptT ε Waiting α} {f : α → ExceptT ε Waiting β} {b : β} :
    (w >>= f).run.Ends (.ok b) ↔ ∃ a, w.run.Ends (.ok a) ∧ (f a).run.Ends (.ok b) := by
  rw [ExceptT.run_bind, ends_bind]
  constructor
  · rintro ⟨r, hr, hb⟩
    cases r with
    | error e => exact absurd (ends_pure.mp hb) (by simp)
    | ok a => exact ⟨a, hr, hb⟩
  · rintro ⟨a, ha, hb⟩
    exact ⟨.ok a, ha, hb⟩

@[simp] theorem ends_ok_throw {e : ε} {b : α} :
    ¬ (throw e : ExceptT ε Waiting α).run.Ends (.ok b) :=
  fun h => nomatch ends_pure.mp h

@[simp] theorem ends_ok_lift {w : Waiting α} {b : α} :
    (ExceptT.lift w : ExceptT ε Waiting α).run.Ends (.ok b) ↔ w.Ends b := by
  show (w >>= fun a => (pure (Except.ok a) : Waiting (Except ε α))).Ends (.ok b) ↔ w.Ends b
  simp only [ends_bind, ends_pure, Except.ok.injEq, exists_eq_right]

end Waiting

end Tfplenum.Lib
