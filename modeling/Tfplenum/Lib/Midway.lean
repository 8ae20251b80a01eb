/-
  Tfplenum.Lib.Midway

  What holds midway.  A program run alone passes through states, and a server that
  is stopped leaves one of them behind: `Serves` is any sequence of requests each of
  which runs to its end or is cut off at one of its operations.

  `Run.changesOver` is for a fact about threads that interfere which begins in one of two
  ways: as long as the one holds the threads keep it or bring about the other, and the
  other is kept from then on, whatever the threads have left to do.
-/

import Tfplenum.Lib.Interleave

namespace Tfplenum.Lib

variable {Op : Type} {Res : Op → Type} {ε σ α ρ : Type}

/-! ## Programs that are cut off -/

/-- Run alone from the first state, the program comes to the second. -/
inductive Program.Passes (h : Handler Op Res σ) : Program Op Res ε α → σ → σ → Prop
  | here (p : Program Op Res ε α) (s : σ) : Passes h p s s
  | call {op : Op} {k : Res op → Program Op Res ε α} {s s' : σ}
      (hk : Passes h (k (h op s).1) (h op s).2 s') : Passes h (.call op k) s s'

section Passes

variable {h : Handler Op Res σ} {p : Program Op Res ε α} {s s' : σ}

/-- A program that runs to its end comes to the state it leaves. -/
theorem Program.passes_run (p : Program Op Res ε α) (s : σ) : p.Passes h s (p.run h s).2 := by
  induction p generalizing s with
  | done a => exact .here _ s
  | raise e => exact .here _ s
  | call op k ih => exact .call (ih _ _)

/-- What every operation of a program keeps holds wherever it is cut off. -/
theorem Program.Passes.invariant {A : Op → Prop} {I : σ → Prop} (hs : p.Passes h s s')
    (hp : p.Uses A) (hkeep : ∀ op s, A op → I s → I (h op s).2) (hI : I s) : I s' := by
  induction hs with
  | here p s => exact hI
  | @call op k s s' _ ih =>
      obtain ⟨hop, hk⟩ := (Program.uses_call _ _).mp hp
      exact ih (hk _) (hkeep op s hop hI)

end Passes

/-- Requests served one after the other, each to its end or cut off. -/
inductive Serves (h : Handler Op Res σ) (program : ρ → Program Op Res ε α) : σ → σ → Prop
  | refl (s : σ) : Serves h program s s
  | request {s s' s'' : σ} (r : ρ) (hr : (program r).Passes h s s')
      (hrest : Serves h program s' s'') : Serves h program s s''

/-- What no request leaves broken, wherever it is cut off, holds in every state. -/
theorem Serves.invariant {h : Handler Op Res σ} {program : ρ → Program Op Res ε α} {I : σ → Prop}
    {s s' : σ} (hs : Serves h program s s')
    (hkeep : ∀ r s s', (program r).Passes h s s' → I s → I s') (hI : I s) : I s' := by
  induction hs with
  | refl s => exact hI
  | request r hr _ ih => exact ih (hkeep r _ _ hr hI)

/-! ## Runs that change over -/

/-- Threads that keep `I`, or bring about `J`, leave one of the two if the events keep `J`. -/
theorem Run.changesOver {h : Handler Op Res σ} {c c' : Config Op Res ε α σ} {es : List (Event Op)}
    {I J : σ → Prop} {A : Op → Prop} (hr : Run h c es c')
    (hall : ∀ (i : Nat) (p : Program Op Res ε α), c.threads[i]? = some p →
      p.UsesWhile h I A fun _ => True)
    (hkeep : ∀ op s, A op → I s → I (h op s).2 ∨ J (h op s).2)
    (hlater : ∀ e ∈ es, ∀ s, J s → J (h e.op s).2) (hI : I c.state ∨ J c.state) :
    I c'.state ∨ J c'.state := by
  rcases hI with hI | hJ
  · induction hr with
    | nil c => exact .inl hI
    | @cons c c' i op k es hi hrest ih =>
        cases hall i _ hi with
        | call hop hk =>
            have hlater' : ∀ e ∈ es, ∀ s, J s → J (h e.op s).2 :=
              fun e he => hlater e (List.mem_cons_of_mem _ he)
            rcases hkeep op c.state hop hI with hI' | hJ'
            · refine ih ?_ hlater' hI'
              -- the thread that moved goes on with its answer, the others are where they were
              intro j q hj
              rw [Config.getElem?_advance hi] at hj
              split at hj
              · cases hj
                exact hk _ hI
              · exact hall j q hj
            · rw [hrest.state_eq]
              exact .inr (replay_invariant (fun e he => hlater' e he) hJ')
  · rw [hr.state_eq]
    exact .inr (replay_invariant hlater hJ)

end Tfplenum.Lib
