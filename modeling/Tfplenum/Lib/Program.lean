/-
  Tfplenum.Lib.Program

  Programs over atomic operations, as interaction trees of finite depth: a
  program either returns a value, raises an exception, or issues one operation
  and continues with the answer.  The same tree is run sequentially here
  (`Program.run`) and interleaved with other programs in
  `Tfplenum.Lib.Interleave`, so a function of the modelled code is written once.

  Exceptions follow Python: `tryExcept` runs its handler after the effects of the
  body, `tryFinally` runs its cleanup on both exits and an exception of the
  cleanup replaces the one in flight.
-/

import Mathlib.Init

namespace Tfplenum.Lib

/-- A program that issues operations `Op`, answered with `Res op`, and returns an
    `α` or raises an `ε`. -/
inductive Program (Op : Type) (Res : Op → Type) (ε α : Type) where
  | done (a : α)
  | raise (e : ε)
  | call (op : Op) (k : Res op → Program Op Res ε α)

/-- What one operation answers and does to the state. -/
abbrev Handler (Op : Type) (Res : Op → Type) (σ : Type) := (op : Op) → σ → Res op × σ

/-- A computation that returns has returned in each of its steps. -/
theorem exists_of_bind_eq_ok {ε α β : Type} {x : Except ε α} {f : α → Except ε β} {b : β}
    (h : x >>= f = .ok b) : ∃ a, x = .ok a ∧ f a = .ok b := by
  cases x with
  | error e => cases h
  | ok a => exact ⟨a, rfl, h⟩

namespace Program

variable {Op : Type} {Res : Op → Type} {ε ε' σ α β γ : Type}

def bind : Program Op Res ε α → (α → Program Op Res ε β) → Program Op Res ε β
  | .done a, f => f a
  | .raise e, _ => .raise e
  | .call op k, f => .call op fun r => (k r).bind f

instance : Monad (Program Op Res ε) where
  pure := .done
  bind := bind

/-- Issue one operation and return its answer. -/
def perform (op : Op) : Program Op Res ε (Res op) :=
  .call op .done

/-- Run to the end and hand back the exception, if any, as a value. -/
def attempt : Program Op Res ε α → Program Op Res ε' (Except ε α)
  | .done a => .done (.ok a)
  | .raise e => .done (.error e)
  | .call op k => .call op fun r => (k r).attempt

/-- Change the exception on its way out. -/
def mapError (f : ε → ε') : Program Op Res ε α → Program Op Res ε' α
  | .done a => .done a
  | .raise e => .raise (f e)
  | .call op k => .call op fun r => (k r).mapError f

/-- Turn a pure outcome into a program. -/
def ofExcept : Except ε α → Program Op Res ε α
  | .ok a => .done a
  | .error e => .raise e

/-- `try: p except e: handler e`. -/
def tryExcept (p : Program Op Res ε α) (handler : ε → Program Op Res ε α) :
    Program Op Res ε α :=
  p.attempt.bind fun
    | .ok a => .done a
    | .error e => handler e

/-- `try: p finally: cleanup`. -/
def tryFinally (p : Program Op Res ε α) (cleanup : Program Op Res ε Unit) :
    Program Op Res ε α :=
  p.attempt.bind fun r => cleanup.bind fun _ => ofExcept r

/-- `if c: p` -/
def when (c : Prop) [Decidable c] (p : Program Op Res ε Unit) : Program Op Res ε Unit :=
  if c then p else .done ()

@[simp] theorem pure_eq (a : α) : (pure a : Program Op Res ε α) = .done a := rfl
@[simp] theorem bind_eq (p : Program Op Res ε α) (f : α → Program Op Res ε β) :
    p >>= f = p.bind f := rfl
@[simp] theorem done_bind (a : α) (f : α → Program Op Res ε β) :
    (Program.done a).bind f = f a := rfl
@[simp] theorem raise_bind (e : ε) (f : α → Program Op Res ε β) :
    (Program.raise e).bind f = .raise e := rfl
@[simp] theorem call_bind (op : Op) (k : Res op → Program Op Res ε α)
    (f : α → Program Op Res ε β) :
    (Program.call op k).bind f = .call op fun r => (k r).bind f := rfl
@[simp] theorem perform_bind (op : Op) (f : Res op → Program Op Res ε β) :
    (perform op).bind f = .call op f := rfl

theorem bind_assoc (p : Program Op Res ε α) (f : α → Program Op Res ε β)
    (g : β → Program Op Res ε γ) :
    (p.bind f).bind g = p.bind fun a => (f a).bind g := by
  induction p with
  | done a => rfl
  | raise e => rfl
  | call op k ih =>
      simp only [call_bind]
      congr 1
      funext r
      exact ih r

theorem bind_done (p : Program Op Res ε α) : p.bind .done = p := by
  induction p with
  | done a => rfl
  | raise e => rfl
  | call op k ih =>
      simp only [call_bind]
      congr 1
      funext r
      exact ih r

instance : LawfulMonad (Program Op Res ε) :=
  LawfulMonad.mk' _ (fun p => bind_done p) (fun _ _ => rfl) (fun p f g => bind_assoc p f g)

/-! ## Sequential runs -/

/-- Run a program alone, from a state to its outcome and the state it leaves. -/
def run (h : Handler Op Res σ) : Program Op Res ε α → σ → Except ε α × σ
  | .done a, s => (.ok a, s)
  | .raise e, s => (.error e, s)
  | .call op k, s => run h (k (h op s).1) (h op s).2

variable (h : Handler Op Res σ)

@[simp] theorem run_done (a : α) (s : σ) :
    (Program.done a : Program Op Res ε α).run h s = (.ok a, s) := rfl
@[simp] theorem run_raise (e : ε) (s : σ) :
    (Program.raise e : Program Op Res ε α).run h s = (.error e, s) := rfl
@[simp] theorem run_call (op : Op) (k : Res op → Program Op Res ε α) (s : σ) :
    (Program.call op k).run h s = (k (h op s).1).run h (h op s).2 := rfl
@[simp] theorem run_perform (op : Op) (s : σ) :
    (perform op : Program Op Res ε (Res op)).run h s = (.ok (h op s).1, (h op s).2) := rfl
@[simp] theorem run_ofExcept (r : Except ε α) (s : σ) :
    (ofExcept r : Program Op Res ε α).run h s = (r, s) := by
  cases r <;> rfl

/-- What a continuation does with the outcome and state a run ended in. -/
def andThen (h : Handler Op Res σ) (f : α → Program Op Res ε β) :
    Except ε α × σ → Except ε β × σ
  | (.ok a, s) => (f a).run h s
  | (.error e, s) => (.error e, s)

@[simp] theorem andThen_ok (f : α → Program Op Res ε β) (a : α) (s : σ) :
    andThen h f (.ok a, s) = (f a).run h s := rfl
@[simp] theorem andThen_error (f : α → Program Op Res ε β) (e : ε) (s : σ) :
    andThen h f (.error e, s) = (.error e, s) := rfl

theorem run_bind (p : Program Op Res ε α) (f : α → Program Op Res ε β) (s : σ) :
    (p.bind f).run h s = andThen h f (p.run h s) := by
  induction p generalizing s with
  | done a => rfl
  | raise e => rfl
  | call op k ih => exact ih _ _

/-- A program that returns leaves its state to the continuation. -/
theorem run_bind_ok {p : Program Op Res ε α} {f : α → Program Op Res ε β} {s s' : σ} {a : α}
    (hp : p.run h s = (.ok a, s')) : (p.bind f).run h s = (f a).run h s' := by
  rw [run_bind, hp, andThen_ok]

/-- A program that raises never reaches its continuation. -/
theorem run_bind_error {p : Program Op Res ε α} {f : α → Program Op Res ε β} {s s' : σ} {e : ε}
    (hp : p.run h s = (.error e, s')) : (p.bind f).run h s = (.error e, s') := by
  rw [run_bind, hp, andThen_error]

/-- What returns in the end has returned on the way. -/
theorem exists_of_run_bind {p : Program Op Res ε α} {f : α → Program Op Res ε β} {s s' : σ} {b : β}
    (hr : (p.bind f).run h s = (.ok b, s')) :
    ∃ a t, p.run h s = (.ok a, t) ∧ (f a).run h t = (.ok b, s') := by
  rw [run_bind] at hr
  rcases hp : p.run h s with ⟨e | a, t⟩ <;> rw [hp] at hr
  · cases hr
  · exact ⟨a, t, rfl, hr⟩

theorem run_attempt {δ : Type} (p : Program Op Res ε α) (s : σ) :
    (p.attempt : Program Op Res δ (Except ε α)).run h s =
      (.ok (p.run h s).1, (p.run h s).2) := by
  induction p generalizing s with
  | done a => rfl
  | raise e => rfl
  | call op k ih => exact ih _ _

theorem run_tryExcept (p : Program Op Res ε α) (handler : ε → Program Op Res ε α) (s : σ) :
    (p.tryExcept handler).run h s =
      match p.run h s with
      | (.ok a, s') => (.ok a, s')
      | (.error e, s') => (handler e).run h s' := by
  rw [tryExcept, run_bind_ok h (run_attempt h p s)]
  rcases p.run h s with ⟨_ | _, _⟩ <;> rfl

/-! ## Loops -/

/-- A loop over a list, one body after the other. -/
def forEach : List α → (α → Program Op Res ε Unit) → Program Op Res ε Unit
  | [], _ => .done ()
  | a :: as, body => (body a).bind fun _ => forEach as body

/-- A loop that collects a value from each body, in order. -/
def mapEach : List α → (α → Program Op Res ε β) → Program Op Res ε (List β)
  | [], _ => .done []
  | a :: as, body => (body a).bind fun b => (mapEach as body).bind fun bs => .done (b :: bs)

/-- A loop that carries its local variables from one body to the next. -/
def foldEach : List α → σ → (σ → α → Program Op Res ε σ) → Program Op Res ε σ
  | [], s, _ => .done s
  | a :: as, s, body => (body s a).bind fun s => foldEach as s body

@[simp] theorem forEach_nil (body : α → Program Op Res ε Unit) : forEach [] body = .done () := rfl
@[simp] theorem forEach_cons (a : α) (as : List α) (body : α → Program Op Res ε Unit) :
    forEach (a :: as) body = (body a).bind fun _ => forEach as body := rfl
@[simp] theorem mapEach_nil (body : α → Program Op Res ε β) : mapEach [] body = .done [] := rfl
@[simp] theorem mapEach_cons (a : α) (as : List α) (body : α → Program Op Res ε β) :
    mapEach (a :: as) body =
      (body a).bind fun b => (mapEach as body).bind fun bs => .done (b :: bs) := rfl

theorem forEach_append (as bs : List α) (body : α → Program Op Res ε Unit) :
    forEach (as ++ bs) body = (forEach as body).bind fun _ => forEach bs body := by
  induction as with
  | nil => rfl
  | cons a as ih =>
      rw [List.cons_append, forEach_cons, forEach_cons, bind_assoc]
      congr 1
      funext u
      exact ih

theorem mapEach_map {γ : Type} (f : γ → α) (cs : List γ) (body : α → Program Op Res ε β) :
    mapEach (cs.map f) body = mapEach cs fun c => body (f c) := by
  induction cs with
  | nil => rfl
  | cons c cs ih => rw [List.map_cons, mapEach_cons, mapEach_cons, ih]

/-- Lists of one value each, put together. -/
theorem mapEach_singletons (as : List α) (body : α → Program Op Res ε β) :
    ((mapEach as fun a => (body a).bind fun b => .done [b]).bind fun bs => .done bs.flatten) =
      mapEach as body := by
  induction as with
  | nil => rfl
  | cons a as ih =>
      rw [mapEach_cons, mapEach_cons, bind_assoc, bind_assoc]
      congr 1
      funext b
      rw [← ih, done_bind, bind_assoc, bind_assoc]
      rfl

/-- A loop over bodies that return and leave the state as it is. -/
theorem run_mapEach_of_pure {as : List α} {body : α → Program Op Res ε β} {f : α → β} {s : σ}
    (hb : ∀ a ∈ as, (body a).run h s = (.ok (f a), s)) :
    (mapEach as body).run h s = (.ok (as.map f), s) := by
  induction as with
  | nil => rfl
  | cons a as ih =>
      rw [mapEach_cons, run_bind_ok h (hb a (List.mem_cons_self ..)),
        run_bind_ok h (ih fun a' ha' => hb a' (List.mem_cons_of_mem _ ha'))]
      rfl

/-- A loop over bodies that come to steps comes to the steps of all of them. -/
theorem run_mapEach_of_steps {τ : Type} {as : List α} {body : α → Program Op Res ε β}
    {steps : α → List τ} {step : τ → Program Op Res ε Unit} {f : α → β} {I : σ → Prop}
    (hkeep : ∀ t s, I s → I ((step t).run h s).2)
    (hb : ∀ a ∈ as, ∀ s, I s →
      (body a).run h s = ((forEach (steps a) step).bind fun _ => .done (f a)).run h s)
    {s : σ} (hs : I s) :
    (mapEach as body).run h s =
      ((forEach (as.flatMap steps) step).bind fun _ => .done (as.map f)).run h s := by
  have hsteps (ts : List τ) {s : σ} (hs : I s) : I ((forEach ts step).run h s).2 := by
    induction ts generalizing s with
    | nil => exact hs
    | cons t ts ih =>
        rw [forEach_cons, run_bind]
        rcases hrun : (step t).run h s with ⟨e | _, s'⟩
        · have hkept := hkeep t s hs
          rw [hrun] at hkept
          exact hkept
        · have hkept := hkeep t s hs
          rw [hrun] at hkept
          exact ih hkept
  induction as generalizing s with
  | nil => rfl
  | cons a as ih =>
      rw [mapEach_cons, List.flatMap_cons, forEach_append, bind_assoc, run_bind,
        hb a (List.mem_cons_self ..) s hs, run_bind h (forEach (steps a) step), run_bind]
      have hkept := hsteps (steps a) hs
      rcases hrun : (forEach (steps a) step).run h s with ⟨e | _, s'⟩
      · rfl
      · rw [hrun] at hkept
        rw [andThen_ok, run_done, andThen_ok, andThen_ok, run_bind,
          ih (fun a' ha' => hb a' (List.mem_cons_of_mem _ ha')) hkept, run_bind, run_bind]
        rcases (forEach (as.flatMap steps) step).run h s' with ⟨_ | _, _⟩ <;> rfl

/-! ## The operations a program may issue -/

/-- Every operation the program can ever issue, whatever it is answered, is in
    `A`. -/
inductive Uses (A : Op → Prop) : Program Op Res ε α → Prop
  | done (a : α) : Uses A (.done a)
  | raise (e : ε) : Uses A (.raise e)
  | call {op : Op} {k : Res op → Program Op Res ε α} (hop : A op) (hk : ∀ r, Uses A (k r)) :
      Uses A (.call op k)

section Uses

variable {A B : Op → Prop}

@[simp] theorem uses_call (op : Op) (k : Res op → Program Op Res ε α) :
    (Program.call op k).Uses A ↔ A op ∧ ∀ r, (k r).Uses A := by
  constructor
  · rintro ⟨⟩
    exact ⟨‹_›, ‹_›⟩
  · rintro ⟨hop, hk⟩
    exact .call hop hk

@[simp] theorem uses_perform (op : Op) :
    (perform op : Program Op Res ε (Res op)).Uses A ↔ A op := by
  rw [perform, uses_call]
  exact ⟨fun h => h.1, fun h => ⟨h, fun r => .done r⟩⟩

theorem Uses.mono {p : Program Op Res ε α} (hp : p.Uses A) (hAB : ∀ op, A op → B op) :
    p.Uses B := by
  induction hp with
  | done a => exact .done a
  | raise e => exact .raise e
  | call hop _ ih => exact .call (hAB _ hop) ih

theorem uses_any (p : Program Op Res ε α) : p.Uses fun _ => True := by
  induction p with
  | done a => exact .done a
  | raise e => exact .raise e
  | call op k ih => exact .call trivial ih

theorem Uses.and_of_imp {p : Program Op Res ε α} {φ : Prop} (hp : p.Uses A)
    (hB : φ → p.Uses B) : p.Uses fun op => A op ∧ (φ → B op) := by
  induction hp with
  | done a => exact .done a
  | raise e => exact .raise e
  | call hop _ ih =>
      refine .call ⟨hop, fun hφ => ((uses_call _ _).mp (hB hφ)).1⟩ fun r => ?_
      exact ih r fun hφ => ((uses_call _ _).mp (hB hφ)).2 r

theorem Uses.bind {p : Program Op Res ε α} {f : α → Program Op Res ε β}
    (hp : p.Uses A) (hf : ∀ a, (f a).Uses A) : (p.bind f).Uses A := by
  induction hp with
  | done a => exact hf a
  | raise e => exact .raise e
  | call hop _ ih => exact .call hop ih

theorem Uses.attempt {p : Program Op Res ε α} (hp : p.Uses A) :
    (p.attempt : Program Op Res ε' (Except ε α)).Uses A := by
  induction hp with
  | done a => exact .done _
  | raise e => exact .done _
  | call hop _ ih => exact .call hop ih

theorem uses_ofExcept (r : Except ε α) : (ofExcept r : Program Op Res ε α).Uses A := by
  cases r with
  | ok a => exact .done a
  | error e => exact .raise e

theorem Uses.tryExcept {p : Program Op Res ε α} {handler : ε → Program Op Res ε α}
    (hp : p.Uses A) (hh : ∀ e, (handler e).Uses A) : (p.tryExcept handler).Uses A := by
  refine hp.attempt.bind ?_
  rintro (e | a)
  · exact hh e
  · exact .done a

theorem Uses.tryFinally {p : Program Op Res ε α} {cleanup : Program Op Res ε Unit}
    (hp : p.Uses A) (hc : cleanup.Uses A) : (p.tryFinally cleanup).Uses A :=
  hp.attempt.bind fun r => hc.bind fun _ => uses_ofExcept r

theorem Uses.when {c : Prop} [Decidable c] {p : Program Op Res ε Unit} (hp : c → p.Uses A) :
    (Program.when c p).Uses A := by
  unfold Program.when
  split
  · rename_i hc
    exact hp hc
  · exact .done ()

theorem uses_forEach {as : List α} {body : α → Program Op Res ε Unit}
    (hb : ∀ a ∈ as, (body a).Uses A) : (forEach as body).Uses A := by
  induction as with
  | nil => exact .done ()
  | cons a as ih =>
      exact (hb a (List.mem_cons_self ..)).bind fun _ =>
        ih fun a' ha' => hb a' (List.mem_cons_of_mem _ ha')

theorem uses_mapEach {as : List α} {body : α → Program Op Res ε β}
    (hb : ∀ a ∈ as, (body a).Uses A) : (mapEach as body).Uses A := by
  induction as with
  | nil => exact .done []
  | cons a as ih =>
      exact (hb a (List.mem_cons_self ..)).bind fun _ =>
        (ih fun a' ha' => hb a' (List.mem_cons_of_mem _ ha')).bind fun _ => .done _

/-- The invariant rule of a sequential run: what every operation of the program
    keeps, the whole run keeps, however it ends. -/
theorem Uses.run_invariant {p : Program Op Res ε α} {I : σ → Prop} (hp : p.Uses A)
    (hkeep : ∀ op s, A op → I s → I (h op s).2) {s : σ} (hs : I s) : I (p.run h s).2 := by
  induction hp generalizing s with
  | done a => exact hs
  | raise e => exact hs
  | call hop _ ih => exact ih _ (hkeep _ s hop hs)

end Uses

end Program

end Tfplenum.Lib
