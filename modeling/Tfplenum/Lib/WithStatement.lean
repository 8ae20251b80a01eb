/-
  Tfplenum.Lib.WithStatement

  Functions that do their work inside a `with` statement:

      with Manager():
          block
      after

  possibly inside a `try` of their own.  What becomes of an exception of the
  block is decided by the truth value of what the manager's `__exit__` returns:
  a true one swallows the exception, and the function goes on after the
  statement with the local variables as they are.

  `call` says how the function ends together with the part the block's exception
  had in it, so that an exception that left the block is told from one that is
  raised later with the same contents.
-/

import Tfplenum.Lib.Program

namespace Tfplenum.Lib

/-- How a block is left without an exception. -/
inductive Leaves (σ ρ : Type) where
  | through (locals : σ)
  | returning (value : ρ)

/-- How a function ends, and what its block's exception had to do with it. -/
inductive Ending (ε ρ : Type) where
  /-- returned or raised without an exception of the block being passed on -/
  | finished (r : Except ε ρ)
  /-- the exception of the block left the function -/
  | propagated (e : ε)
  /-- the function's own handler ran for it, and ended so -/
  | handled (e : ε) (r : Except ε ρ)

/-- What the caller sees. -/
def Ending.result {ε ρ : Type} : Ending ε ρ → Except ε ρ
  | .finished r => r
  | .propagated e => .error e
  | .handled _ r => r

/-- A function around a `with` statement.  An exception of the block carries the
    local variables at that moment. -/
structure WithStatement (Op : Type) (Res : Op → Type) (ε σ ρ : Type) where
  /-- making the manager and entering it -/
  enter : Program Op Res ε Unit
  /-- the local variables before the block -/
  locals : σ
  block : Program Op Res (ε × σ) (Leaves σ ρ)
  after : σ → Program Op Res ε ρ
  /-- the function's own `except` clause around the statement, where it has one
      that fits the exception -/
  handler : ε → σ → Option (Program Op Res ε ρ) := fun _ _ => none

namespace WithStatement

variable {Op : Type} {Res : Op → Type} {ε σ ρ ρ' τ : Type}

/-- An exception has left the statement. -/
def leave (w : WithStatement Op Res ε σ ρ) (e : ε) (s : σ) :
    Program Op Res ε (Ending ε ρ) :=
  match w.handler e s with
  | none => .done (.propagated e)
  | some p => p.attempt.bind fun r => .done (.handled e r)

/-- The end of the function after the statement. -/
def proceed (w : WithStatement Op Res ε σ ρ) (s : σ) : Program Op Res ε (Ending ε ρ) :=
  (w.after s).attempt.bind fun r => .done (.finished r)

/-- Run the function, where `suppresses` is the truth value of what `__exit__`
    returns. -/
def call (suppresses : Bool) (w : WithStatement Op Res ε σ ρ) :
    Program Op Res ε (Ending ε ρ) :=
  w.enter.attempt.bind fun
    | .error e => w.leave e w.locals
    | .ok () => w.block.attempt.bind fun
      | .ok (.returning r) => .done (.finished (.ok r))
      | .ok (.through s) => w.proceed s
      | .error (e, s) => if suppresses then w.proceed s else w.leave e s

/-- The function as its callers call it. -/
def result (suppresses : Bool) (w : WithStatement Op Res ε σ ρ) : Program Op Res ε ρ :=
  (w.call suppresses).bind fun ending => .ofExcept ending.result

/-- A caller that changes the value returned. -/
def map (f : ρ → ρ') (w : WithStatement Op Res ε σ ρ) : WithStatement Op Res ε σ ρ' where
  enter := w.enter
  locals := w.locals
  block := w.block.bind fun
    | .through s => .done (.through s)
    | .returning r => .done (.returning (f r))
  after := fun s => (w.after s).bind fun r => .done (f r)
  handler := fun e s => (w.handler e s).map fun p => p.bind fun r => .done (f r)

variable (h : Handler Op Res τ)

/-- In a run from `t` the block raises `e`, with the locals `s`, in the state
    `t'`. -/
def BlockRaises (w : WithStatement Op Res ε σ ρ) (t : τ) (e : ε) (s : σ) (t' : τ) : Prop :=
  ∃ t₁, w.enter.run h t = (.ok (), t₁) ∧ w.block.run h t₁ = (.error (e, s), t')

/-- No exception of the block is masked: it leaves the function, or the
    function's own handler runs for it. -/
def Unmasked (suppresses : Bool) (w : WithStatement Op Res ε σ ρ) (t : τ) : Prop :=
  ∀ e s t', w.BlockRaises h t e s t' →
    ∃ ending t'', (w.call suppresses).run h t = (.ok ending, t'') ∧
      (ending = .propagated e ∨ ∃ r, ending = .handled e r)

variable {h} {w : WithStatement Op Res ε σ ρ} {t t' : τ} {e : ε} {s : σ}

theorem run_proceed (w : WithStatement Op Res ε σ ρ) (s : σ) (t : τ) :
    (w.proceed s).run h t =
      (.ok (.finished ((w.after s).run h t).1), ((w.after s).run h t).2) := by
  rw [proceed, Program.run_bind_ok h (Program.run_attempt h (w.after s) t)]
  rfl

/-- After an exception of its block a function is at the end of the statement. -/
theorem BlockRaises.run_call (hraise : w.BlockRaises h t e s t') (suppresses : Bool) :
    (w.call suppresses).run h t =
      (if suppresses then w.proceed s else w.leave e s).run h t' := by
  obtain ⟨t₁, henter, hblock⟩ := hraise
  have hin := Program.run_attempt (δ := ε) h w.enter t
  have hat := Program.run_attempt (δ := ε) h w.block t₁
  rw [henter] at hin
  rw [hblock] at hat
  rw [call, Program.run_bind_ok h hin, Program.run_bind_ok h hat]

/-- A manager that swallows exceptions masks every one: nothing is masked exactly
    where the block does not raise. -/
theorem unmasked_of_swallowing_iff (w : WithStatement Op Res ε σ ρ) (t : τ) :
    w.Unmasked h true t ↔ ∀ e s t', ¬ w.BlockRaises h t e s t' := by
  constructor
  · intro hun e s t' hraise
    obtain ⟨ending, t'', hcall, hend⟩ := hun e s t' hraise
    rw [hraise.run_call true, if_pos rfl, run_proceed] at hcall
    have hfin : Ending.finished ((w.after s).run h t').1 = ending := by
      have hfst := congrArg Prod.fst hcall
      exact Except.ok.inj hfst
    rcases hend with hprop | ⟨r, hhand⟩
    · rw [hprop] at hfin
      cases hfin
    · rw [hhand] at hfin
      cases hfin
  · intro hno e s t' hraise
    exact absurd hraise (hno e s t')

/-- Where the manager is made and the block does not raise, the function returns
    what the block returns, or goes on after it. -/
theorem run_result_of_block {suppresses : Bool} {t₁ t₂ : τ} {l : Leaves σ ρ}
    (henter : w.enter.run h t = (.ok (), t₁)) (hblock : w.block.run h t₁ = (.ok l, t₂)) :
    (w.result suppresses).run h t =
      match l with
      | .returning r => (.ok r, t₂)
      | .through s => (w.after s).run h t₂ := by
  have hin := Program.run_attempt (δ := ε) h w.enter t
  have hat := Program.run_attempt (δ := ε) h w.block t₁
  rw [henter] at hin
  rw [hblock] at hat
  rw [result, Program.run_bind, call, Program.run_bind_ok h hin, Program.run_bind_ok h hat]
  cases l with
  | returning r => rfl
  | through s =>
      simp only [run_proceed, Program.andThen_ok]
      exact Program.run_ofExcept h _ _

/-- An exception of the manager that the function does not handle. -/
theorem run_result_of_enter {suppresses : Bool} {t₁ : τ}
    (henter : w.enter.run h t = (.error e, t₁)) (hhandler : w.handler e w.locals = none) :
    (w.result suppresses).run h t = (.error e, t₁) := by
  have hin := Program.run_attempt (δ := ε) h w.enter t
  rw [henter] at hin
  rw [result, Program.run_bind, call, Program.run_bind_ok h hin]
  simp only [leave, hhandler]
  rfl

/-- What a function returns when its block raised and the exception is swallowed:
    what the code after the statement makes of the locals. -/
theorem BlockRaises.run_result (hraise : w.BlockRaises h t e s t') :
    (w.result true).run h t = (w.after s).run h t' := by
  have hcall := hraise.run_call true
  rw [if_pos rfl, run_proceed] at hcall
  rw [result, Program.run_bind_ok h hcall]
  exact Program.run_ofExcept h _ _

end WithStatement

end Tfplenum.Lib
