/-
  Tfplenum.Lib.Lockstep

  Two runs of one program side by side, from related states.  As long as the
  operations answer the same in both, the runs take the same way: they return one
  value or raise one exception, and leave related states.  There is a rule for every
  way programs are put together.

  The states mostly hold tables that agree outside some keys, the stale ones; a key
  that both runs write is not stale any more.
-/

import Mathlib.Data.Set.Basic
import Tfplenum.Lib.Program
import Tfplenum.Lib.Table

namespace Tfplenum.Lib

variable {Op : Type} {Res : Op → Type} {ε σ α β : Type}

/-- Both runs returned one value, and left states in `Q`, or raised one exception, and left
    states in `E`. -/
inductive Alike (Q : α → σ → σ → Prop) (E : σ → σ → Prop) :
    Except ε α × σ → Except ε α × σ → Prop where
  | ok {a : α} {s s' : σ} (h : Q a s s') : Alike Q E (.ok a, s) (.ok a, s')
  | error {e : ε} {s s' : σ} (h : E s s') : Alike Q E (.error e, s) (.error e, s')

/-- From states in `R` the two runs of the program go alike. -/
structure Lockstep (h : Handler Op Res σ) (R : σ → σ → Prop) (p : Program Op Res ε α)
    (Q : α → σ → σ → Prop) (E : σ → σ → Prop) : Prop where
  apply : ∀ s s', R s s' → Alike Q E (p.run h s) (p.run h s')

namespace Lockstep

variable {h : Handler Op Res σ} {R R' E E' : σ → σ → Prop} {Q Q' : α → σ → σ → Prop}
variable {S : β → σ → σ → Prop} {p : Program Op Res ε α} {f : α → Program Op Res ε β}

/-! ## Rules -/

theorem done {a : α} (hQ : ∀ s s', R s s' → Q a s s') :
    Lockstep h R (.done a : Program Op Res ε α) Q E :=
  ⟨fun s s' hs => .ok (hQ s s' hs)⟩

theorem raise {e : ε} (hE : ∀ s s', R s s' → E s s') :
    Lockstep h R (.raise e : Program Op Res ε α) Q E :=
  ⟨fun s s' hs => .error (hE s s' hs)⟩

/-- An operation that answers the same in both runs. -/
theorem perform {op : Op} {Q : Res op → σ → σ → Prop}
    (hanswer : ∀ s s', R s s' → (h op s).1 = (h op s').1)
    (hQ : ∀ s s', R s s' → Q (h op s).1 (h op s).2 (h op s').2) :
    Lockstep h R (Program.perform op : Program Op Res ε (Res op)) Q E := by
  constructor
  intro s s' hs
  have hpost := hQ s s' hs
  rw [Program.run_perform, Program.run_perform, ← hanswer s s' hs]
  exact .ok hpost

theorem ofExcept {r : Except ε α} (hQ : ∀ a, r = .ok a → ∀ s s', R s s' → Q a s s')
    (hE : ∀ s s', R s s' → E s s') : Lockstep h R (Program.ofExcept r) Q E := by
  cases r with
  | ok a => exact done (hQ a rfl)
  | error e => exact raise hE

theorem bind (hp : Lockstep h R p Q E) (hf : ∀ a, Lockstep h (Q a) (f a) S E) :
    Lockstep h R (p.bind f) S E := by
  constructor
  intro s s' hs
  rw [Program.run_bind, Program.run_bind]
  have halike := hp.apply s s' hs
  generalize p.run h s = r, p.run h s' = r' at halike ⊢
  -- the first part has ended alike in both
  cases halike with
  | ok hpost => exact (hf _).apply _ _ hpost
  | error hpost => exact .error hpost

theorem conseq (hp : Lockstep h R p Q E) (hR : ∀ s s', R' s s' → R s s')
    (hQ : ∀ a s s', Q a s s' → Q' a s s') (hE : ∀ s s', E s s' → E' s s') :
    Lockstep h R' p Q' E' := by
  constructor
  intro s s' hs
  have halike := hp.apply s s' (hR s s' hs)
  generalize p.run h s = r, p.run h s' = r' at halike ⊢
  cases halike with
  | ok hpost => exact .ok (hQ _ _ _ hpost)
  | error hpost => exact .error (hE _ _ hpost)

theorem post (hp : Lockstep h R p Q E) (hQ : ∀ a s s', Q a s s' → Q' a s s') :
    Lockstep h R p Q' E :=
  hp.conseq (fun _ _ hs => hs) hQ fun _ _ hs => hs

/-- What is known beside the relation may be used. -/
theorem assume {φ : Prop} (hp : φ → Lockstep h R p Q E) :
    Lockstep h (fun s s' => φ ∧ R s s') p Q E :=
  ⟨fun s s' hs => (hp hs.1).apply s s' hs.2⟩

/-- A loop, with the relation that holds once the bodies of some elements are done. -/
theorem forEach {as : List α} {body : α → Program Op Res ε Unit} {D : List α → σ → σ → Prop}
    (hbody : ∀ front a back, as = front ++ a :: back →
      Lockstep h (D front) (body a) (fun _ => D (front ++ [a])) E) :
    Lockstep h (D []) (Program.forEach as body) (fun _ => D as) E := by
  have hfrom (front back : List α) (has : as = front ++ back) :
      Lockstep h (D front) (Program.forEach back body) (fun _ => D as) E := by
    induction back generalizing front with
    | nil =>
        rw [List.append_nil] at has
        subst has
        exact done fun _ _ hs => hs
    | cons a back ih =>
        rw [Program.forEach_cons]
        refine (hbody front a back has).bind fun _ => ih (front ++ [a]) ?_
        rw [has, List.append_assoc, List.singleton_append]
  exact hfrom [] as rfl

/-- What the runs leave, whether they return or raise. -/
theorem leaves {s s' : σ} (hp : Lockstep h R p (fun _ => E) E) (hs : R s s') :
    E (p.run h s).2 (p.run h s').2 := by
  have halike := hp.apply s s' hs
  generalize p.run h s = r, p.run h s' = r' at halike ⊢
  cases halike with
  | ok hpost => exact hpost
  | error hpost => exact hpost

/-- What the runs answer. -/
theorem answers {s s' : σ} (hp : Lockstep h R p Q E) (hs : R s s') :
    (p.run h s).1 = (p.run h s').1 := by
  have halike := hp.apply s s' hs
  generalize p.run h s = r, p.run h s' = r' at halike ⊢
  cases halike with
  | ok hpost => rfl
  | error hpost => rfl

end Lockstep

/-! ## Tables that agree outside some keys -/

namespace Table

variable {κ γ : Type} {W : Set κ} {t t' : Table κ γ}

open Classical in
/-- The rows whose keys are not in the set, in their order. -/
noncomputable def rowsOff (W : Set κ) (t : Table κ γ) : List (κ × γ) :=
  t.rows.filter fun r => r.1 ∉ W

/-- The tables have the same rows, in the same order, but for the keys in the set. -/
def AgreeOff (W : Set κ) (t t' : Table κ γ) : Prop := t.rowsOff W = t'.rowsOff W

theorem AgreeOff.refl (W : Set κ) (t : Table κ γ) : AgreeOff W t t := rfl

theorem mem_rowsOff [DecidableEq κ] {k : κ} {a : γ} :
    (k, a) ∈ t.rowsOff W ↔ t.get? k = some a ∧ k ∉ W := by
  simp [rowsOff, get?_eq_some_iff]

theorem AgreeOff.get? [DecidableEq κ] (h : AgreeOff W t t') {k : κ} (hk : k ∉ W) :
    t.get? k = t'.get? k := by
  ext a
  have hrow : (k, a) ∈ t.rowsOff W ↔ (k, a) ∈ t'.rowsOff W := by rw [h]
  rw [mem_rowsOff, mem_rowsOff] at hrow
  simpa [hk] using hrow

/-- What is gathered from rows outside the set only is the same. -/
theorem AgreeOff.filterMap (h : AgreeOff W t t') {f : κ × γ → Option β}
    (hf : ∀ r, r.1 ∈ W → f r = none) : t.rows.filterMap f = t'.rows.filterMap f := by
  have hoff (t : Table κ γ) : t.rows.filterMap f = (t.rowsOff W).filterMap f := by
    rw [rowsOff, List.filterMap_filter]
    refine List.filterMap_congr fun r _ => ?_
    by_cases hr : r.1 ∈ W <;> simp [hr, hf]
  rw [hoff t, hoff t', h]

theorem AgreeOff.upsert [DecidableEq κ] (h : AgreeOff W t t') {k : κ} (hk : k ∈ W) (a : γ) :
    AgreeOff W t (t'.upsert k a) := by
  classical
  rw [AgreeOff, h, rowsOff, rowsOff, Table.upsert]
  split
  · -- the row that changes is not one of those
    have hrows : ∀ rows : List (κ × γ), rows.filter (fun r => r.1 ∉ W) =
        (rows.map fun r => (r.1, if r.1 = k then a else r.2)).filter fun r => r.1 ∉ W := by
      intro rows
      induction rows with
      | nil => rfl
      | cons r rows ih =>
          rw [List.map_cons, List.filter_cons, List.filter_cons, ← ih]
          by_cases hr : r.1 = k
          · simp [hr, hk]
          · simp [hr]
    exact hrows t'.rows
  · simp [Table.append, hk]

theorem AgreeOff.remove (h : AgreeOff W t t') {q : κ → γ → Bool}
    (hq : ∀ k a, q k a = true → k ∈ W) : AgreeOff W t (t'.remove q) := by
  rw [AgreeOff, h, rowsOff, rowsOff, Table.remove, List.filter_filter]
  refine List.filter_congr fun r _ => ?_
  by_cases hr : q r.1 r.2 = true
  · simp [hq _ _ hr]
  · simp [hr]

end Table

end Tfplenum.Lib
