/-
  Tfplenum.Lib.Hoare

  Pre- and postconditions for programs run alone, with one postcondition for the
  value a program returns and one for the exception it raises.  There is a rule
  for every way programs are put together; loops have an invariant rule each.
  Programs being trees of finite depth, a triple is about total correctness.
-/

import Mathlib.Data.List.Forall2
import Tfplenum.Lib.Program

namespace Tfplenum.Lib

variable {Op : Type} {Res : Op → Type} {ε ε' σ α β : Type}

/-- From a state in `P` the program either returns an `a` and leaves a state in
    `Q a`, or raises an `e` and leaves a state in `E e`. -/
structure Triple (h : Handler Op Res σ) (P : σ → Prop) (p : Program Op Res ε α)
    (Q : α → σ → Prop) (E : ε → σ → Prop) : Prop where
  apply : ∀ s, P s → match p.run h s with
    | (.ok a, s') => Q a s'
    | (.error e, s') => E e s'

/-- Of two lists related element by element, each element of the first has a partner. -/
theorem exists_of_forall₂ {S : α → β → Prop} {as : List α} {bs : List β} (h : List.Forall₂ S as bs)
    {a : α} (ha : a ∈ as) : ∃ b ∈ bs, S a b := by
  induction h with
  | nil => cases ha
  | @cons a' b as bs hab _ ih =>
      rcases List.mem_cons.mp ha with rfl | ha
      · exact ⟨b, List.mem_cons_self .., hab⟩
      · obtain ⟨b', hmem, hab'⟩ := ih ha
        exact ⟨b', List.mem_cons_of_mem _ hmem, hab'⟩

namespace Triple

variable {h : Handler Op Res σ} {P P' I : σ → Prop} {Q Q' : α → σ → Prop} {R : β → σ → Prop}
variable {E E' : ε → σ → Prop} {F : ε' → σ → Prop}
variable {p : Program Op Res ε α} {f : α → Program Op Res ε β}

theorem ok {s s' : σ} {a : α} (ht : Triple h P p Q E) (hs : P s) (hr : p.run h s = (.ok a, s')) :
    Q a s' := by
  have hpost := ht.apply s hs
  rwa [hr] at hpost

theorem error {s s' : σ} {e : ε} (ht : Triple h P p Q E) (hs : P s)
    (hr : p.run h s = (.error e, s')) : E e s' := by
  have hpost := ht.apply s hs
  rwa [hr] at hpost

/-- What a program leaves, whether it returns or raises. -/
theorem leaves {s : σ} (ht : Triple h P p (fun _ => I) fun _ => I) (hs : P s) :
    I (p.run h s).2 := by
  have hpost := ht.apply s hs
  rcases hr : p.run h s with ⟨_ | _, s'⟩ <;> rw [hr] at hpost <;> exact hpost

/-! ### Structural rules -/

theorem done {a : α} (hQ : ∀ s, P s → Q a s) :
    Triple h P (.done a : Program Op Res ε α) Q E :=
  ⟨hQ⟩

theorem raise {e : ε} (hE : ∀ s, P s → E e s) :
    Triple h P (.raise e : Program Op Res ε α) Q E :=
  ⟨hE⟩

theorem call {op : Op} {k : Res op → Program Op Res ε α}
    (hk : ∀ s, P s → Triple h (· = (h op s).2) (k (h op s).1) Q E) :
    Triple h P (.call op k) Q E :=
  ⟨fun s hs => (hk s hs).apply _ rfl⟩

theorem perform {op : Op} {Q : Res op → σ → Prop} (hQ : ∀ s, P s → Q (h op s).1 (h op s).2) :
    Triple h P (Program.perform op : Program Op Res ε (Res op)) Q E :=
  ⟨hQ⟩

theorem ofExcept {r : Except ε α} (hQ : ∀ a s, r = .ok a → P s → Q a s)
    (hE : ∀ e s, r = .error e → P s → E e s) :
    Triple h P (Program.ofExcept r : Program Op Res ε α) Q E := by
  cases r with
  | ok a => exact done fun s hs => hQ a s rfl hs
  | error e => exact raise fun s hs => hE e s rfl hs

theorem bind (hp : Triple h P p Q E) (hf : ∀ a, Triple h (Q a) (f a) R E) :
    Triple h P (p.bind f) R E := by
  constructor
  intro s hs
  rw [Program.run_bind]
  have hpost := hp.apply s hs
  generalize p.run h s = r at hpost ⊢
  rcases r with ⟨e | a, s'⟩
  · exact hpost
  · exact (hf a).apply s' hpost

theorem attempt {Q : Except ε α → σ → Prop} {E : ε' → σ → Prop}
    (hp : Triple h P p (fun a s => Q (.ok a) s) fun e s => Q (.error e) s) :
    Triple h P (p.attempt : Program Op Res ε' (Except ε α)) Q E := by
  constructor
  intro s hs
  rw [Program.run_attempt]
  have hpost := hp.apply s hs
  generalize p.run h s = r at hpost ⊢
  rcases r with ⟨_ | _, _⟩ <;> exact hpost

theorem tryExcept {handler : ε → Program Op Res ε α} (hp : Triple h P p Q E')
    (hh : ∀ e, Triple h (E' e) (handler e) Q E) : Triple h P (p.tryExcept handler) Q E := by
  constructor
  intro s hs
  rw [Program.run_tryExcept]
  have hpost := hp.apply s hs
  generalize p.run h s = r at hpost ⊢
  rcases r with ⟨e | a, s'⟩
  · exact (hh e).apply s' hpost
  · exact hpost

/-- The cleanup runs after the value and after the exception, and keeps what is asked of
    either; an exception of its own comes in place of both. -/
theorem tryFinally {cleanup : Program Op Res ε Unit} (hp : Triple h P p Q E)
    (hok : ∀ a, Triple h (Q a) cleanup (fun _ => Q' a) E')
    (herror : ∀ e, Triple h (E e) cleanup (fun _ => E' e) E') :
    Triple h P (p.tryFinally cleanup) Q' E' := by
  constructor
  intro s hs
  rw [Program.tryFinally, Program.run_bind, Program.run_attempt]
  have hpost := hp.apply s hs
  generalize p.run h s = r at hpost ⊢
  rcases r with ⟨e | a, s'⟩
  · exact ((herror e).bind fun _ => raise fun _ hs => hs).apply s' hpost
  · exact ((hok a).bind fun _ => done fun _ hs => hs).apply s' hpost

theorem when {c : Prop} [Decidable c] {p : Program Op Res ε Unit} {Q : Unit → σ → Prop}
    (hp : c → Triple h P p Q E) (hskip : ¬ c → ∀ s, P s → Q () s) :
    Triple h P (Program.when c p) Q E := by
  unfold Program.when
  split
  · rename_i hc
    exact hp hc
  · rename_i hc
    exact done (hskip hc)

/-! ### Logical rules -/

theorem conseq (ht : Triple h P p Q E) (hP : ∀ s, P' s → P s) (hQ : ∀ a s, Q a s → Q' a s)
    (hE : ∀ e s, E e s → E' e s) : Triple h P' p Q' E' := by
  constructor
  intro s hs
  have hpost := ht.apply s (hP s hs)
  generalize p.run h s = r at hpost ⊢
  rcases r with ⟨e | a, s'⟩
  · exact hE e s' hpost
  · exact hQ a s' hpost

theorem pre (ht : Triple h P p Q E) (hP : ∀ s, P' s → P s) : Triple h P' p Q E :=
  ht.conseq hP (fun _ _ hq => hq) fun _ _ he => he

theorem post (ht : Triple h P p Q E) (hQ : ∀ a s, Q a s → Q' a s) : Triple h P p Q' E :=
  ht.conseq (fun _ hs => hs) hQ fun _ _ he => he

theorem and (ht : Triple h P p Q E) (ht' : Triple h P' p Q' E') :
    Triple h (fun s => P s ∧ P' s) p (fun a s => Q a s ∧ Q' a s) fun e s => E e s ∧ E' e s := by
  constructor
  intro s hs
  have h1 := ht.apply s hs.1
  have h2 := ht'.apply s hs.2
  generalize p.run h s = r at h1 h2 ⊢
  rcases r with ⟨_ | _, _⟩ <;> exact ⟨h1, h2⟩

/-- A fact that does not depend on the state may be assumed. -/
theorem assume {φ : Prop} (ht : φ → Triple h P p Q E) : Triple h (fun s => φ ∧ P s) p Q E :=
  ⟨fun s hs => (ht hs.1).apply s hs.2⟩

theorem exists_pre {ι : Type} {P : ι → σ → Prop} (ht : ∀ i, Triple h (P i) p Q E) :
    Triple h (fun s => ∃ i, P i s) p Q E := by
  constructor
  rintro s ⟨i, hs⟩
  exact (ht i).apply s hs

/-- A triple for every state in `P`, each from that state alone. -/
theorem forall_pre (ht : ∀ s, P s → Triple h (· = s) p Q E) : Triple h P p Q E :=
  ⟨fun s hs => (ht s hs).apply s rfl⟩

/-- Every program returns or raises. -/
theorem total (p : Program Op Res ε α) : Triple h P p (fun _ _ => True) fun _ _ => True := by
  constructor
  intro s _
  rcases p.run h s with ⟨_ | _, _⟩ <;> trivial

/-- What every operation of a program keeps, the program keeps. -/
theorem of_uses {A : Op → Prop} (hp : p.Uses A) (hkeep : ∀ op s, A op → I s → I (h op s).2) :
    Triple h I p (fun _ => I) fun _ => I := by
  constructor
  intro s hs
  have hI := hp.run_invariant h hkeep hs
  rcases hr : p.run h s with ⟨_ | _, _⟩ <;> rw [hr] at hI <;> exact hI

/-! ### Loops -/

theorem forEach {as : List α} {body : α → Program Op Res ε Unit}
    (hb : ∀ a ∈ as, Triple h I (body a) (fun _ => I) E) :
    Triple h I (Program.forEach as body) (fun _ => I) E := by
  induction as with
  | nil => exact done fun s hs => hs
  | cons a as ih =>
      refine (hb a (List.mem_cons_self ..)).bind fun _ => ?_
      exact ih fun a' ha' => hb a' (List.mem_cons_of_mem _ ha')

/-- A loop that collects values collects, for every element, one that its body
    may return. -/
theorem mapEach {as : List α} {body : α → Program Op Res ε β} {S : α → β → Prop}
    (hb : ∀ a ∈ as, Triple h I (body a) (fun b s => S a b ∧ I s) E) :
    Triple h I (Program.mapEach as body) (fun bs s => List.Forall₂ S as bs ∧ I s) E := by
  induction as with
  | nil => exact done fun s hs => ⟨.nil, hs⟩
  | cons a as ih =>
      refine (hb a (List.mem_cons_self ..)).bind fun b => ?_
      refine assume fun hab => ?_
      refine (ih fun a' ha' => hb a' (List.mem_cons_of_mem _ ha')).bind fun bs => ?_
      exact assume fun hbs => done fun s hs => ⟨.cons hab hbs, hs⟩

end Triple

/-! ## Programs that may raise -/

/-- What holds if the program returns. -/
abbrev Yields (h : Handler Op Res σ) (P : σ → Prop) (p : Program Op Res ε α)
    (Q : α → σ → Prop) : Prop :=
  Triple h P p Q fun _ _ => True

namespace Yields

variable {h : Handler Op Res σ} {P : σ → Prop} {Q : α → σ → Prop} {R : β → σ → Prop}
variable {p : Program Op Res ε α}

theorem raise (e : ε) : Yields h P (.raise e : Program Op Res ε α) Q :=
  Triple.raise fun _ _ => trivial

/-- What is run before a program that raises does not matter. -/
theorem bind_raise (p : Program Op Res ε α) (e : α → ε) :
    Yields h P (p.bind fun a => (.raise (e a) : Program Op Res ε β)) R :=
  (Triple.total p).bind fun a => raise (e a)

theorem tryExcept {handler : ε → Program Op Res ε α} (hp : Yields h P p Q)
    (hh : ∀ e, Yields h (fun _ => True) (handler e) Q) : Yields h P (p.tryExcept handler) Q :=
  Triple.tryExcept hp hh

end Yields

end Tfplenum.Lib
