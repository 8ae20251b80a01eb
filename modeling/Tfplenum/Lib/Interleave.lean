/-
  Tfplenum.Lib.Interleave

  Several programs over one shared state, interleaved at their operations: a
  configuration is the state and the remaining program of every thread, a step
  lets one thread perform the operation it is at, and a `Run` is any sequence of
  such steps.  The events of a run are the operations in the order they were
  performed, with the thread that performed each.

  Two facts carry most proofs.  The state of a run is the replay of its events
  (`Run.state_eq`), and every event is an operation its own thread may issue
  (`Run.forall_event`).  On top of them stand the invariant rule for threads that
  interfere (`Run.invariant`), the commit rule (`Run.commit`), for a thread that
  establishes a fact at one operation and keeps it from there on, and the rule for
  a thread that works on what it read first (`Run.forall_event_since`).
-/

import Mathlib.Data.List.Induction
import Tfplenum.Lib.Program

namespace Tfplenum.Lib

variable {Op : Type} {Res : Op → Type} {ε σ α : Type}

/-- One operation performed by one thread. -/
structure Event (Op : Type) where
  thread : Nat
  op : Op

/-- The shared state and what every thread has left to do. -/
structure Config (Op : Type) (Res : Op → Type) (ε α σ : Type) where
  state : σ
  threads : List (Program Op Res ε α)

namespace Config

/-- Thread `i` performs `op` and goes on with the answer. -/
def advance (h : Handler Op Res σ) (c : Config Op Res ε α σ) (i : Nat) (op : Op)
    (k : Res op → Program Op Res ε α) : Config Op Res ε α σ :=
  { state := (h op c.state).2, threads := c.threads.set i (k (h op c.state).1) }

/-- Every thread has returned or raised. -/
def Finished (c : Config Op Res ε α σ) : Prop :=
  ∀ p ∈ c.threads, ∀ op k, p ≠ .call op k

end Config

/-- `Run h c es c'`: the threads of `c` can perform the events `es`, in that
    order, and are then at `c'`. -/
inductive Run (h : Handler Op Res σ) :
    Config Op Res ε α σ → List (Event Op) → Config Op Res ε α σ → Prop
  | nil (c) : Run h c [] c
  | cons {c c' : Config Op Res ε α σ} {i : Nat} {op : Op} {k : Res op → Program Op Res ε α}
      {es : List (Event Op)} (hi : c.threads[i]? = some (.call op k))
      (hr : Run h (c.advance h i op k) es c') : Run h c (⟨i, op⟩ :: es) c'

/-- The state after performing the events, one after the other. -/
def replay (h : Handler Op Res σ) (s : σ) (es : List (Event Op)) : σ :=
  es.foldl (fun s e => (h e.op s).2) s

/-- Every event satisfies `C` in the state it is performed in. -/
def Meets (h : Handler Op Res σ) (C : Event Op → σ → Prop) : σ → List (Event Op) → Prop
  | _, [] => True
  | s, e :: es => C e s ∧ Meets h C (h e.op s).2 es

/-- The same, where `C` can be computed. -/
def meets? (h : Handler Op Res σ) (C : Event Op → σ → Bool) : σ → List (Event Op) → Bool
  | _, [] => true
  | s, e :: es => C e s && meets? h C (h e.op s).2 es

section Replay

variable (h : Handler Op Res σ) (C : Event Op → σ → Prop)

@[simp] theorem replay_nil (s : σ) : replay h s [] = s := rfl
@[simp] theorem replay_cons (s : σ) (e : Event Op) (es : List (Event Op)) :
    replay h s (e :: es) = replay h (h e.op s).2 es := rfl
@[simp] theorem replay_append (s : σ) (es es' : List (Event Op)) :
    replay h s (es ++ es') = replay h (replay h s es) es' := by
  simp [replay]

@[simp] theorem meets_nil (s : σ) : Meets h C s [] := trivial
@[simp] theorem meets_cons (s : σ) (e : Event Op) (es : List (Event Op)) :
    Meets h C s (e :: es) ↔ C e s ∧ Meets h C (h e.op s).2 es := Iff.rfl
theorem meets_append (s : σ) (es es' : List (Event Op)) :
    Meets h C s (es ++ es') ↔ Meets h C s es ∧ Meets h C (replay h s es) es' := by
  induction es generalizing s with
  | nil => simp
  | cons e es ih => simp [ih, and_assoc]

variable {h C}

theorem meets_of_check {C? : Event Op → σ → Bool} (hC : ∀ e s, C? e s = true → C e s) {s : σ}
    {es : List (Event Op)} (hes : meets? h C? s es = true) : Meets h C s es := by
  induction es generalizing s with
  | nil => exact meets_nil h C s
  | cons e es ih =>
      rw [meets?, Bool.and_eq_true] at hes
      exact ⟨hC e s hes.1, ih hes.2⟩

theorem Meets.and {C' : Event Op → σ → Prop} {s : σ} {es : List (Event Op)} (hm : Meets h C s es)
    (hm' : Meets h C' s es) : Meets h (fun e s => C e s ∧ C' e s) s es := by
  induction es generalizing s with
  | nil => exact meets_nil h _ s
  | cons e es ih => exact ⟨⟨hm.1, hm'.1⟩, ih hm.2 hm'.2⟩

/-- What every listed event keeps, the replay keeps. -/
theorem replay_invariant {I : σ → Prop} {es : List (Event Op)}
    (hkeep : ∀ e ∈ es, ∀ s, I s → I (h e.op s).2) {s : σ} (hs : I s) : I (replay h s es) := by
  induction es generalizing s with
  | nil => exact hs
  | cons e es ih =>
      exact ih (fun e' he' => hkeep e' (List.mem_cons_of_mem _ he'))
        (hkeep e (List.mem_cons_self ..) s hs)

/-- What every listed event keeps where it meets `C`, a replay that meets `C`
    keeps. -/
theorem Meets.replay_invariant {I : σ → Prop} {es : List (Event Op)}
    (hkeep : ∀ e ∈ es, ∀ s, C e s → I s → I (h e.op s).2) {s : σ} (hm : Meets h C s es)
    (hs : I s) : I (replay h s es) := by
  induction es generalizing s with
  | nil => exact hs
  | cons e es ih =>
      exact ih (fun e' he' => hkeep e' (List.mem_cons_of_mem _ he')) hm.2
        (hkeep e (List.mem_cons_self ..) s hm.1 hs)

/-- Where a step keeps `I` exactly if it meets `C`, the events meet `C` exactly if `I` holds
    in every state on the way. -/
theorem forall_prefix_iff_meets {I : σ → Prop} {es : List (Event Op)}
    (hstep : ∀ e ∈ es, ∀ s, I s → (I (h e.op s).2 ↔ C e s)) {s : σ} (hs : I s) :
    (∀ pre post, es = pre ++ post → I (replay h s pre)) ↔ Meets h C s es := by
  induction es generalizing s with
  | nil =>
      refine ⟨fun _ => meets_nil h C s, fun _ pre post hes => ?_⟩
      rw [(List.append_eq_nil_iff.mp hes.symm).1]
      exact hs
  | cons e es ih =>
      have hfirst := hstep e (List.mem_cons_self ..) s hs
      have hlater := fun e' he' => hstep e' (List.mem_cons_of_mem e he')
      constructor
      · intro hall
        have hnext : I (h e.op s).2 := hall [e] es rfl
        refine ⟨hfirst.mp hnext, (ih hlater hnext).mp fun pre post hes => ?_⟩
        exact hall (e :: pre) post (by rw [hes, List.cons_append])
      · rintro ⟨hC, hmeets⟩ pre post hes
        cases pre with
        | nil => exact hs
        | cons e' pre =>
            rw [List.cons_append] at hes
            have htail := (List.cons.inj hes).2
            cases (List.cons.inj hes).1
            exact (ih hlater (hfirst.mpr hC)).mpr hmeets pre post htail

end Replay

/-- Thread `i` only ever issues operations in `A i`. -/
def ThreadsUse (A : Nat → Op → Prop) (c : Config Op Res ε α σ) : Prop :=
  ∀ (i : Nat) (p : Program Op Res ε α), c.threads[i]? = some p → p.Uses (A i)

section Rules

variable {h : Handler Op Res σ} {A : Nat → Op → Prop} {C : Event Op → σ → Prop}
variable {c c' : Config Op Res ε α σ} {es : List (Event Op)}

/-- The state of a run is the replay of its events. -/
theorem Run.state_eq (hr : Run h c es c') : c'.state = replay h c.state es := by
  induction hr with
  | nil c => rfl
  | cons hi _ ih => exact ih

theorem ThreadsUse.advance (hc : ThreadsUse A c) {i : Nat} {op : Op}
    {k : Res op → Program Op Res ε α} (hi : c.threads[i]? = some (.call op k)) :
    ThreadsUse A (c.advance h i op k) := by
  intro j p hj
  rw [Config.advance, List.getElem?_set] at hj
  split at hj
  · rename_i hij
    split at hj
    · cases hj
      exact hij ▸ ((Program.uses_call _ _).mp (hc i _ hi)).2 _
    · cases hj
  · exact hc j p hj

/-- Every event of a run is an operation its thread may issue. -/
theorem Run.forall_event (hr : Run h c es c') (hc : ThreadsUse A c) :
    ∀ e ∈ es, A e.thread e.op := by
  induction hr with
  | nil c => simp
  | cons hi _ ih =>
      intro e he
      rcases List.mem_cons.mp he with rfl | he
      · exact ((Program.uses_call _ _).mp (hc _ _ hi)).1
      · exact ih (hc.advance hi) e he

/-- The invariant rule: a fact that every operation of every thread keeps, in the
    states where it meets `C`, holds after every run that meets `C`. -/
theorem Run.invariant {I : σ → Prop} (hr : Run h c es c') (hc : ThreadsUse A c)
    (hm : Meets h C c.state es)
    (hkeep : ∀ i op s, A i op → C ⟨i, op⟩ s → I s → I (h op s).2) (hI : I c.state) :
    I c'.state := by
  rw [hr.state_eq]
  exact hm.replay_invariant
    (fun e he s hC hs => hkeep e.thread e.op s (hr.forall_event hc e he) hC hs) hI

end Rules

/-! ## Runs under a scheduling condition -/

/-- A run each of whose steps meets `G` in the configuration it starts from. -/
inductive GuardedRun (h : Handler Op Res σ) (G : Config Op Res ε α σ → Event Op → Prop) :
    Config Op Res ε α σ → List (Event Op) → Config Op Res ε α σ → Prop
  | nil (c) : GuardedRun h G c [] c
  | cons {c c' : Config Op Res ε α σ} {i : Nat} {op : Op} {k : Res op → Program Op Res ε α}
      {es : List (Event Op)} (hi : c.threads[i]? = some (.call op k)) (hG : G c ⟨i, op⟩)
      (hr : GuardedRun h G (c.advance h i op k) es c') : GuardedRun h G c (⟨i, op⟩ :: es) c'

section Guarded

variable {h : Handler Op Res σ} {G : Config Op Res ε α σ → Event Op → Prop}
variable {c c' : Config Op Res ε α σ} {es : List (Event Op)}

/-- The invariant rule over configurations: a fact about the state and the
    remaining programs that every guarded step keeps. -/
theorem GuardedRun.invariant {J : Config Op Res ε α σ → Prop} (hr : GuardedRun h G c es c')
    (hkeep : ∀ (d : Config Op Res ε α σ) (i : Nat) (op : Op) (k : Res op → Program Op Res ε α),
      d.threads[i]? = some (.call op k) → G d ⟨i, op⟩ → J d → J (d.advance h i op k))
    (hJ : J c) : J c' := by
  induction hr with
  | nil c => exact hJ
  | cons hi hG _ ih => exact ih (hkeep _ _ _ _ hi hG hJ)

/-- A step changes the remaining program of its own thread only. -/
theorem Config.getElem?_advance {i j : Nat} {op : Op} {k : Res op → Program Op Res ε α}
    (hi : c.threads[i]? = some (.call op k)) :
    (c.advance h i op k).threads[j]? =
      if i = j then some (k (h op c.state).1) else c.threads[j]? := by
  have hlt : i < c.threads.length := (List.getElem?_eq_some_iff.mp hi).1
  rw [Config.advance, List.getElem?_set, if_pos hlt]

end Guarded

/-! ## Programs under interference -/

/-- From states in `I` each operation the program performs is in `A`, whatever
    others that keep `I` do in between; a value it returns is in `Q`. -/
inductive Program.UsesWhile (h : Handler Op Res σ) (I : σ → Prop) (A : Op → Prop) (Q : α → Prop) :
    Program Op Res ε α → Prop
  | done {a : α} (ha : Q a) : UsesWhile h I A Q (.done a)
  | raise (e : ε) : UsesWhile h I A Q (.raise e)
  | call {op : Op} {k : Res op → Program Op Res ε α} (hop : A op)
      (hk : ∀ s, I s → UsesWhile h I A Q (k (h op s).1)) : UsesWhile h I A Q (.call op k)

/-- The program keeps `I` at each of its operations. -/
abbrev Program.Keeps (h : Handler Op Res σ) (I : σ → Prop) (Q : α → Prop)
    (p : Program Op Res ε α) : Prop :=
  p.UsesWhile h I (fun op => ∀ s, I s → I (h op s).2) Q

namespace Program.UsesWhile

variable {β ε' : Type} {h : Handler Op Res σ} {I : σ → Prop} {A : Op → Prop}
variable {Q Q' : α → Prop} {R : β → Prop} {p : Program Op Res ε α} {f : α → Program Op Res ε β}

theorem mono (hp : p.UsesWhile h I A Q) (hQ : ∀ a, Q a → Q' a) : p.UsesWhile h I A Q' := by
  induction hp with
  | done ha => exact .done (hQ _ ha)
  | raise e => exact .raise e
  | call hop _ ih => exact .call hop ih

theorem bind (hp : p.UsesWhile h I A Q) (hf : ∀ a, Q a → (f a).UsesWhile h I A R) :
    (p.bind f).UsesWhile h I A R := by
  induction hp with
  | done ha => exact hf _ ha
  | raise e => exact .raise e
  | call hop _ ih => exact .call hop ih

theorem attempt (hp : p.UsesWhile h I A Q) :
    (p.attempt : Program Op Res ε' (Except ε α)).UsesWhile h I A fun r => ∀ a, r = .ok a → Q a := by
  induction hp with
  | done ha => exact .done fun a hr => Except.ok.inj hr ▸ ha
  | raise e => exact .done fun a hr => nomatch hr
  | call hop _ ih => exact .call hop ih

theorem tryExcept {handler : ε → Program Op Res ε α} (hp : p.UsesWhile h I A Q)
    (hh : ∀ e, (handler e).UsesWhile h I A Q) : (p.tryExcept handler).UsesWhile h I A Q := by
  refine hp.attempt.bind ?_
  rintro (e | a) hr
  · exact hh e
  · exact .done (hr a rfl)

theorem ofExcept {r : Except ε α} (hQ : ∀ a, r = .ok a → Q a) :
    (Program.ofExcept r : Program Op Res ε α).UsesWhile h I A Q := by
  cases r with
  | error e => exact .raise e
  | ok a => exact .done (hQ a rfl)

theorem weaken {A' : Op → Prop} (hp : p.UsesWhile h I A Q) (hA : ∀ op, A op → A' op) :
    p.UsesWhile h I A' Q := by
  induction hp with
  | done ha => exact .done ha
  | raise e => exact .raise e
  | call hop _ ih => exact .call (hA _ hop) ih

theorem of_uses (hp : p.Uses A) : p.UsesWhile h I A fun _ => True := by
  induction hp with
  | done a => exact .done trivial
  | raise e => exact .raise e
  | call hop _ ih => exact .call hop fun _ _ => ih _

end Program.UsesWhile

/-- Operations that each keep `I` keep it together. -/
theorem Program.Keeps.of_uses {h : Handler Op Res σ} {I : σ → Prop} {A : Op → Prop}
    {p : Program Op Res ε α} (hp : p.Uses A) (hkeep : ∀ op s, A op → I s → I (h op s).2) :
    p.Keeps h I fun _ => True :=
  UsesWhile.of_uses (hp.mono fun op hop s hs => hkeep op s hop hs)

/-! ## Programs that remember what they read -/

/-- An operation a thread performed, and the state it performed it in. -/
abbrev Memory (Op σ : Type) := List (Op × σ)

/-- What thread `t` remembers of the events. -/
def memory (h : Handler Op Res σ) (t : Nat) : σ → List (Event Op) → Memory Op σ
  | _, [] => []
  | s, e :: es =>
      if e.thread = t then (e.op, s) :: memory h t (h e.op s).2 es
      else memory h t (h e.op s).2 es

theorem memory_append_singleton (h : Handler Op Res σ) (t : Nat) (s : σ) (es : List (Event Op))
    (e : Event Op) :
    memory h t s (es ++ [e]) =
      memory h t s es ++ if e.thread = t then [(e.op, replay h s es)] else [] := by
  induction es generalizing s with
  | nil => simp only [List.nil_append, memory, replay_nil]
  | cons first es ih =>
      rw [List.cons_append, memory, memory, ih, replay_cons]
      split <;> rfl

/-- Remembering `m`, the program only performs operations that `A` allows for what it
    remembers by then; a value it returns is in `Q`, for what it remembers at its end. -/
inductive Program.Traced (h : Handler Op Res σ) (A : Memory Op σ → Op → Prop)
    (Q : Memory Op σ → α → Prop) : Memory Op σ → Program Op Res ε α → Prop
  | done {m : Memory Op σ} {a : α} (ha : Q m a) : Traced h A Q m (.done a)
  | raise (m : Memory Op σ) (e : ε) : Traced h A Q m (.raise e)
  | call {m : Memory Op σ} {op : Op} {k : Res op → Program Op Res ε α} (hop : A m op)
      (hk : ∀ s, Traced h A Q (m ++ [(op, s)]) (k (h op s).1)) : Traced h A Q m (.call op k)

namespace Program.Traced

variable {β ε' : Type} {h : Handler Op Res σ} {A : Memory Op σ → Op → Prop}
variable {Q Q' : Memory Op σ → α → Prop} {R : Memory Op σ → β → Prop} {m : Memory Op σ}
variable {p : Program Op Res ε α} {f : α → Program Op Res ε β}

theorem mono (hp : Traced h A Q m p) (hQ : ∀ m a, Q m a → Q' m a) : Traced h A Q' m p := by
  induction hp with
  | done ha => exact .done (hQ _ _ ha)
  | raise m e => exact .raise m e
  | call hop _ ih => exact .call hop ih

theorem bind (hp : Traced h A Q m p) (hf : ∀ m a, Q m a → Traced h A R m (f a)) :
    Traced h A R m (p.bind f) := by
  induction hp with
  | done ha => exact hf _ _ ha
  | raise m e => exact .raise m e
  | call hop _ ih => exact .call hop ih

theorem attempt (hp : Traced h A Q m p) :
    Traced h A (fun m (r : Except ε α) => ∀ a, r = .ok a → Q m a) m
      (p.attempt : Program Op Res ε' (Except ε α)) := by
  induction hp with
  | done ha => exact .done fun a hr => Except.ok.inj hr ▸ ha
  | raise m e =>
      refine .done ?_
      intro a hr
      cases hr
  | call hop _ ih => exact .call hop ih

theorem ofExcept {r : Except ε α} (hQ : ∀ a, r = .ok a → Q m a) :
    Traced h A Q m (Program.ofExcept r) := by
  cases r with
  | error e => exact .raise m e
  | ok a => exact .done (hQ a rfl)

/-- Operations that are allowed whatever is remembered; what was remembered stays. -/
theorem of_uses {B : Op → Prop} (hp : p.Uses B) (hA : ∀ m op, B op → A m op) :
    Traced h A (fun m' _ => m <+: m') m p := by
  have hgen (m₀ : Memory Op σ) (hm : m₀ <+: m) : Traced h A (fun m' _ => m₀ <+: m') m p := by
    induction hp generalizing m with
    | done a => exact .done hm
    | raise e => exact .raise m e
    | call hop _ ih =>
        refine .call (hA m _ hop) fun s => ih _ ?_
        exact hm.trans (List.prefix_append m _)
  exact hgen m List.prefix_rfl

/-- A loop that collects values collects, for every element, one that its body may
    return; what was remembered before it stays. -/
theorem mapEach {γ : Type} {as : List γ} {body : γ → Program Op Res ε α} {S : γ → α → Prop}
    (hb : ∀ a m, Traced h A (fun m' b => m <+: m' ∧ S a b) m (body a)) :
    Traced h A (fun m' bs => m <+: m' ∧ List.Forall₂ S as bs) m (Program.mapEach as body) := by
  induction as generalizing m with
  | nil => exact .done ⟨List.prefix_rfl, .nil⟩
  | cons a as ih =>
      refine (hb a m).bind fun m₁ b hb₁ => (ih (m := m₁)).bind fun m₂ bs hbs => .done ?_
      exact ⟨hb₁.1.trans hbs.1, .cons hb₁.2 hbs.2⟩

end Program.Traced

section Interference

variable {h : Handler Op Res σ} {c c' : Config Op Res ε α σ} {es : List (Event Op)}
variable {I : σ → Prop} {A : Op → Prop} {Q : α → Prop} {t : Nat} {p : Program Op Res ε α}

/-- A thread that keeps `I` among others whose events keep `I` leaves it holding. -/
theorem Run.keeps (hr : Run h c es c') (ht : c.threads[t]? = some p) (hp : p.Keeps h I Q)
    (hI : I c.state) (hother : ∀ e ∈ es, e.thread ≠ t → ∀ s, I s → I (h e.op s).2) :
    I c'.state := by
  induction hr generalizing p with
  | nil c => exact hI
  | @cons c c' i op k es hi _ ih =>
      have hrest : ∀ e ∈ es, e.thread ≠ t → ∀ s, I s → I (h e.op s).2 :=
        fun e he => hother e (List.mem_cons_of_mem _ he)
      have hnext := Config.getElem?_advance (h := h) (j := t) hi
      by_cases hit : i = t
      · subst hit
        cases hi.symm.trans ht
        rw [if_pos rfl] at hnext
        cases hp with
        | call hopI hk => exact ih hnext (hk _ hI) (hopI _ hI) hrest
      · rw [if_neg hit, ht] at hnext
        exact ih hnext hp (hother _ (List.mem_cons_self ..) hit _ hI) hrest

/-- Every event of a traced thread is allowed for what the thread remembers by then. -/
theorem Run.forall_event_traced {A : Memory Op σ → Op → Prop} {Q : Memory Op σ → α → Prop}
    {m : Memory Op σ} (hr : Run h c es c') (ht : c.threads[t]? = some p) (hp : p.Traced h A Q m) :
    ∀ pre op post, es = pre ++ ⟨t, op⟩ :: post → A (m ++ memory h t c.state pre) op := by
  induction hr generalizing p m with
  | nil c =>
      intro pre op post hes
      cases pre <;> cases hes
  | @cons c c' i op' k es hi _ ih =>
      have hnext := Config.getElem?_advance (h := h) (j := t) hi
      intro pre op post hes
      by_cases hit : i = t
      · subst hit
        cases hi.symm.trans ht
        rw [if_pos rfl] at hnext
        cases hp with
        | call hop hk =>
            cases pre with
            | nil =>
                cases hes
                rw [memory, List.append_nil]
                exact hop
            | cons e pre =>
                cases hes
                have hrest := ih hnext (hk c.state) pre op post rfl
                rw [memory, if_pos rfl]
                rwa [List.append_assoc] at hrest
      · rw [if_neg hit, ht] at hnext
        cases pre with
        | nil =>
            cases hes
            exact absurd rfl hit
        | cons e pre =>
            cases hes
            have hrest := ih hnext hp pre op post rfl
            rw [memory, if_neg hit]
            exact hrest

theorem Run.exists_thread (hr : Run h c es c') : ∀ e ∈ es, ∃ p, c.threads[e.thread]? = some p := by
  induction hr with
  | nil c =>
      intro e he
      cases he
  | @cons c c' i op k es hi _ ih =>
      intro e he
      rcases List.mem_cons.mp he with rfl | he
      · exact ⟨_, hi⟩
      · obtain ⟨p, hp⟩ := ih e he
        rw [Config.getElem?_advance hi] at hp
        split at hp
        · rename_i hit
          exact ⟨_, hit ▸ hi⟩
        · exact ⟨p, hp⟩

/-- The invariant rule for traced threads: what each operation keeps that is allowed
    for what its thread remembers, the run keeps. -/
theorem Run.invariant_traced {A : Memory Op σ → Op → Prop} (hr : Run h c es c')
    (hall : ∀ (i : Nat) (p : Program Op Res ε α), c.threads[i]? = some p →
      p.Traced h A (fun _ _ => True) [])
    (hI : I c.state)
    (hkeep : ∀ pre e post, es = pre ++ e :: post → A (memory h e.thread c.state pre) e.op →
      I (replay h c.state pre) → I (h e.op (replay h c.state pre)).2) : I c'.state := by
  have hprefix (pre : List (Event Op)) : ∀ post, es = pre ++ post → I (replay h c.state pre) := by
    induction pre using List.reverseRecOn with
    | nil => exact fun _ _ => hI
    | append_singleton pre e ih =>
        intro post hes
        rw [List.append_assoc] at hes
        obtain ⟨p, hp⟩ := hr.exists_thread e (by rw [hes]; simp)
        have hA := hr.forall_event_traced hp (hall _ p hp) pre e.op post hes
        rw [List.nil_append] at hA
        rw [replay_append]
        exact hkeep pre e post hes hA (ih _ hes)
  rw [hr.state_eq]
  exact hprefix es [] (List.append_nil es).symm

/-- Threads that each keep `I` keep it together, in every interleaving. -/
theorem Run.keeps_all (hr : Run h c es c')
    (hall : ∀ (i : Nat) (p : Program Op Res ε α), c.threads[i]? = some p →
      p.Keeps h I fun _ => True)
    (hI : I c.state) : I c'.state := by
  induction hr with
  | nil c => exact hI
  | @cons c c' i op k es hi _ ih =>
      have hp := hall i _ hi
      cases hp with
      | call hopI hk =>
          refine ih ?_ (hopI _ hI)
          intro j q hj
          rw [Config.getElem?_advance hi] at hj
          split at hj
          · cases hj
            exact hk _ hI
          · exact hall j q hj

/-- Where all events keep `I`, those of a thread are what it performs from `I`. -/
theorem Run.forall_event_while (hr : Run h c es c') (ht : c.threads[t]? = some p)
    (hp : p.UsesWhile h I A Q) (hI : I c.state) (hkeep : ∀ e ∈ es, ∀ s, I s → I (h e.op s).2) :
    ∀ e ∈ es, e.thread = t → A e.op := by
  induction hr generalizing p with
  | nil c => exact fun e he => nomatch he
  | @cons c c' i op k es hi _ ih =>
      have hrest : ∀ e ∈ es, ∀ s, I s → I (h e.op s).2 :=
        fun e he => hkeep e (List.mem_cons_of_mem _ he)
      have hI' : I (h op c.state).2 := hkeep ⟨i, op⟩ (List.mem_cons_self ..) _ hI
      have hnext := Config.getElem?_advance (h := h) (j := t) hi
      intro e he het
      by_cases hit : i = t
      · subst hit
        cases hi.symm.trans ht
        rw [if_pos rfl] at hnext
        cases hp with
        | call hop hk =>
            rcases List.mem_cons.mp he with rfl | he
            · exact hop
            · exact ih hnext (hk _ hI) hI' hrest e he het
      · rw [if_neg hit, ht] at hnext
        rcases List.mem_cons.mp he with rfl | he
        · exact absurd het hit
        · exact ih hnext hp hI' hrest e he het

/-- A run can be cut anywhere. -/
theorem Run.split {es' : List (Event Op)} (hr : Run h c (es ++ es') c') :
    ∃ d, Run h c es d ∧ Run h d es' c' := by
  induction es generalizing c with
  | nil => exact ⟨c, .nil c, hr⟩
  | cons e es ih =>
      cases hr with
      | cons hi hrest =>
          obtain ⟨d, hd, hd'⟩ := ih hrest
          exact ⟨d, .cons hi hd, hd'⟩

/-- A thread that performs nothing stays where it is. -/
theorem Run.getElem?_of_idle (hr : Run h c es c') (hidle : ∀ e ∈ es, e.thread ≠ t) :
    c'.threads[t]? = c.threads[t]? := by
  induction hr with
  | nil c => rfl
  | cons hi _ ih =>
      rw [ih fun e he => hidle e (List.mem_cons_of_mem _ he), Config.getElem?_advance hi,
        if_neg (hidle _ (List.mem_cons_self ..))]

end Interference

/-! ## Programs that begin with a read -/

/-- The first operation of the program is in `B`; what it performs later is in `A s`
    for the state `s` in which the first was performed. -/
inductive Program.UsesSince (h : Handler Op Res σ) (I : σ → Prop) (B : Op → Prop)
    (A : σ → Op → Prop) (Q : σ → α → Prop) : Program Op Res ε α → Prop
  | call {op : Op} {k : Res op → Program Op Res ε α} (hop : B op)
      (hk : ∀ s, I s → (k (h op s).1).UsesWhile h I (A s) (Q s)) : UsesSince h I B A Q (.call op k)

section Since

variable {β : Type} {h : Handler Op Res σ} {I : σ → Prop} {B : Op → Prop} {A : σ → Op → Prop}
variable {Q : σ → α → Prop} {R : σ → β → Prop} {p : Program Op Res ε α}

theorem Program.UsesSince.bind {f : α → Program Op Res ε β} (hp : p.UsesSince h I B A Q)
    (hf : ∀ s a, Q s a → (f a).UsesWhile h I (A s) (R s)) : (p.bind f).UsesSince h I B A R := by
  cases hp with
  | call hop hk => exact .call hop fun s hs => (hk s hs).bind (hf s)

theorem Program.UsesSince.weaken {A' : σ → Op → Prop} (hp : p.UsesSince h I B A Q)
    (hA : ∀ s op, A s op → A' s op) : p.UsesSince h I B A' Q := by
  cases hp with
  | call hop hk => exact .call hop fun s hs => (hk s hs).weaken (hA s)

theorem Program.UsesSince.tryExcept {handler : ε → Program Op Res ε α}
    (hp : p.UsesSince h I B A Q) (hh : ∀ s e, (handler e).UsesWhile h I (A s) (Q s)) :
    (p.tryExcept handler).UsesSince h I B A Q := by
  cases hp with
  | call hop hk => exact .call hop fun s hs => (hk s hs).tryExcept (hh s)

/-- The first event of a thread is in `B`, and the later ones are in `A` of the state
    the first was performed in. -/
theorem Run.forall_event_since {c c' : Config Op Res ε α σ} {pre post : List (Event Op)} {t : Nat}
    {op : Op} (hr : Run h c (pre ++ ⟨t, op⟩ :: post) c') (ht : c.threads[t]? = some p)
    (hp : p.UsesSince h I B A Q) (hI : I c.state)
    (hkeep : ∀ e ∈ pre ++ ⟨t, op⟩ :: post, ∀ s, I s → I (h e.op s).2)
    (hidle : ∀ e ∈ pre, e.thread ≠ t) :
    B op ∧ ∀ e ∈ post, e.thread = t → A (replay h c.state pre) e.op := by
  obtain ⟨d, hd, hrest⟩ := hr.split
  have hstate : d.state = replay h c.state pre := hd.state_eq
  have hId : I d.state := by
    rw [hstate]
    exact replay_invariant (fun e he => hkeep e (List.mem_append_left _ he)) hI
  have hdt : d.threads[t]? = some p := (hd.getElem?_of_idle hidle).trans ht
  have hpost : ∀ e ∈ (⟨t, op⟩ : Event Op) :: post, ∀ s, I s → I (h e.op s).2 :=
    fun e he => hkeep e (List.mem_append_right _ he)
  cases hrest with
  | cons hi hrest =>
      cases hi.symm.trans hdt
      cases hp with
      | call hop hk =>
          refine ⟨hop, ?_⟩
          have hnext := Config.getElem?_advance (h := h) (j := t) hi
          rw [if_pos rfl] at hnext
          rw [← hstate]
          exact hrest.forall_event_while hnext (hk _ hId) (hpost _ (List.mem_cons_self ..) _ hId)
            fun e he => hpost e (List.mem_cons_of_mem _ he)

end Since

/-! ## The commit rule -/

/-- On every path on which the program returns it performs an operation in `D`, and
    from there on keeps `I` and performs none in `D`. -/
inductive Program.Commits (h : Handler Op Res σ) (D : Op → Prop) (I : σ → Prop) :
    Program Op Res ε α → Prop
  | raise (e : ε) : Commits h D I (.raise e)
  | commit {op : Op} {k : Res op → Program Op Res ε α} (hD : D op)
      (hk : ∀ r, (k r).Keeps h I fun _ => True) (hu : ∀ r, (k r).Uses fun op => ¬ D op) :
      Commits h D I (.call op k)
  | call {op : Op} {k : Res op → Program Op Res ε α} (hk : ∀ r, Commits h D I (k r)) :
      Commits h D I (.call op k)

section Commit

variable {β ε' : Type} {h : Handler Op Res σ} {D : Op → Prop} {I : σ → Prop}

namespace Program.Commits

variable {p : Program Op Res ε α} {f : α → Program Op Res ε β}

/-- What comes before the commit may do anything. -/
theorem bind_right (hf : ∀ a, (f a).Commits h D I) : (p.bind f).Commits h D I := by
  induction p with
  | done a => exact hf a
  | raise e => exact .raise e
  | call op k ih => exact .call ih

/-- What comes after it has to keep what was committed. -/
theorem bind_left (hp : p.Commits h D I) (hk : ∀ a, (f a).Keeps h I fun _ => True)
    (hu : ∀ a, (f a).Uses fun op => ¬ D op) : (p.bind f).Commits h D I := by
  induction hp with
  | raise e => exact .raise e
  | commit hD hk' hu' =>
      exact .commit hD (fun r => (hk' r).bind fun a _ => hk a) fun r => (hu' r).bind hu
  | call _ ih => exact .call ih

/-- A handler that raises in the end has to keep what was committed before. -/
theorem tryExcept {handler : ε → Program Op Res ε α} (hp : p.Commits h D I)
    (hc : ∀ e, (handler e).Commits h D I) (hk : ∀ e, (handler e).Keeps h I fun _ => True)
    (hu : ∀ e, (handler e).Uses fun op => ¬ D op) : (p.tryExcept handler).Commits h D I := by
  unfold Program.tryExcept
  induction hp with
  | raise e => exact hc e
  | commit hD hk' hu' =>
      refine .commit hD (fun r => ?_) fun r => ?_
      · exact (hk' r).tryExcept hk
      · exact (hu' r).tryExcept hu
  | call _ ih => exact .call ih

end Program.Commits

/-- The commit rule.  Thread `t` returned, having established `I` at an operation in
    `D`.  If after the last such operation the others perform only operations that
    keep `I`, then `I` holds. -/
theorem Run.commit {c c' : Config Op Res ε α σ} {es : List (Event Op)} {S : Op → Prop}
    {B : Nat → Op → Prop} {t : Nat} {p : Program Op Res ε α} {a : α} (hr : Run h c es c')
    (ht : c.threads[t]? = some p) (hp : p.Commits h D I) (hB : ThreadsUse B c)
    (hD : ∀ op s, D op → I (h op s).2)
    (hother : ∀ i op s, i ≠ t → B i op → ¬ S op → I s → I (h op s).2)
    (hcond : ∀ pre op post, es = pre ++ ⟨t, op⟩ :: post → D op →
      (∀ e ∈ post, e.thread = t → ¬ D e.op) → ∀ e ∈ post, e.thread ≠ t → ¬ S e.op)
    (hdone : c'.threads[t]? = some (.done a)) : I c'.state := by
  induction hr generalizing p with
  | nil c =>
      cases ht.symm.trans hdone
      cases hp
  | @cons c c' i op k es hi hrest ih =>
      have hnext := Config.getElem?_advance (h := h) (j := t) hi
      have hcond' : ∀ pre op post, es = pre ++ ⟨t, op⟩ :: post → D op →
          (∀ e ∈ post, e.thread = t → ¬ D e.op) → ∀ e ∈ post, e.thread ≠ t → ¬ S e.op :=
        fun pre op' post hes => hcond (⟨i, op⟩ :: pre) op' post (by rw [hes, List.cons_append])
      by_cases hit : i = t
      · subst hit
        cases hi.symm.trans ht
        rw [if_pos rfl] at hnext
        cases hp with
        | call hk => exact ih hnext (hk _) (hB.advance hi) hcond' hdone
        | commit hDop hk hu =>
            -- the thread issues no operation in `D` any more
            have hB' : ThreadsUse (fun j op => B j op ∧ (j = i → ¬ D op)) (c.advance h i op k) := by
              intro j q hj
              refine ((hB.advance hi) j q hj).and_of_imp fun hji => ?_
              subst hji
              cases hj.symm.trans hnext
              exact hu _
            have hevents := hrest.forall_event hB'
            have hquiet := hcond [] op es rfl hDop fun e he het => (hevents e he).2 het
            refine hrest.keeps hnext (hk _) (hD op _ hDop) fun e he het s hs => ?_
            exact hother e.thread e.op s het (hevents e he).1 (hquiet e he het) hs
      · rw [if_neg hit, ht] at hnext
        exact ih hnext hp (hB.advance hi) hcond' hdone

end Commit

/-! ## Scheduled runs -/

/-- Let the threads perform operations in the order the schedule names them; a
    name of a thread that has nothing left to perform is passed over. -/
def Config.schedule (h : Handler Op Res σ) :
    List Nat → Config Op Res ε α σ → List (Event Op) × Config Op Res ε α σ
  | [], c => ([], c)
  | i :: is, c =>
      match c.threads[i]? with
      | some (.call op k) =>
          let rest := schedule h is (c.advance h i op k)
          (⟨i, op⟩ :: rest.1, rest.2)
      | _ => schedule h is c

/-- A schedule produces a run. -/
theorem run_schedule (h : Handler Op Res σ) (is : List Nat) (c : Config Op Res ε α σ) :
    Run h c (c.schedule h is).1 (c.schedule h is).2 := by
  induction is generalizing c with
  | nil => exact .nil c
  | cons i is ih =>
      rw [Config.schedule]
      split
      · rename_i op k hi
        exact .cons hi (ih _)
      · exact ih c

/-- The value a program has returned, if it has. -/
def Program.value? : Program Op Res ε α → Option α
  | .done a => some a
  | _ => none

theorem Program.eq_done_of_value? {p : Program Op Res ε α} {a : α} (hp : p.value? = some a) :
    p = .done a := by
  cases p with
  | done b =>
      cases hp
      rfl
  | raise e => cases hp
  | call op k => cases hp

/-- The value thread `t` has returned, if it has. -/
def Config.value? (c : Config Op Res ε α σ) (t : Nat) : Option α :=
  c.threads[t]?.bind Program.value?

theorem Config.getElem?_of_value? {c : Config Op Res ε α σ} {t : Nat} {a : α}
    (hc : c.value? t = some a) : c.threads[t]? = some (.done a) := by
  obtain ⟨p, hp, ha⟩ := Option.bind_eq_some_iff.mp hc
  rw [hp, Program.eq_done_of_value? ha]

/-- Threads that have all returned are finished. -/
theorem Config.finished_of_values {c : Config Op Res ε α σ}
    (hc : (c.threads.all fun p => p.value?.isSome) = true) : c.Finished := by
  intro p hp op k hcall
  have hvalue := List.all_eq_true.mp hc p hp
  rw [hcall] at hvalue
  cases hvalue

end Tfplenum.Lib
