/-
  Tfplenum.Lib.Trace

  The operations a program performs when it is run alone, in order, whether it
  returns or raises.  `Performs` says of a program that it never returns without
  having performed one of some operations; there is a rule for each way programs are
  put together.
-/

import Tfplenum.Lib.Hoare

namespace Tfplenum.Lib

variable {Op : Type} {Res : Op → Type} {ε ε' σ α β : Type}

namespace Program

/-- The operations of a run. -/
def trace (h : Handler Op Res σ) : Program Op Res ε α → σ → List Op
  | .done _, _ => []
  | .raise _, _ => []
  | .call op k, s => op :: trace h (k (h op s).1) (h op s).2

variable (h : Handler Op Res σ)

@[simp] theorem trace_done (a : α) (s : σ) : (Program.done a : Program Op Res ε α).trace h s = [] :=
  rfl
@[simp] theorem trace_raise (e : ε) (s : σ) :
    (Program.raise e : Program Op Res ε α).trace h s = [] := rfl
@[simp] theorem trace_call (op : Op) (k : Res op → Program Op Res ε α) (s : σ) :
    (Program.call op k).trace h s = op :: (k (h op s).1).trace h (h op s).2 := rfl

/-- The continuation performs its operations after those of the program. -/
theorem trace_bind_ok {p : Program Op Res ε α} {s s' : σ} {a : α} (hp : p.run h s = (.ok a, s'))
    (f : α → Program Op Res ε β) : (p.bind f).trace h s = p.trace h s ++ (f a).trace h s' := by
  induction p generalizing s with
  | done b =>
      cases hp
      rfl
  | raise e => cases hp
  | call op k ih =>
      rw [call_bind, trace_call, trace_call, ih _ hp, List.cons_append]

/-- What a program performs it also performs before a continuation. -/
theorem mem_trace_bind {p : Program Op Res ε α} {op : Op} {s : σ} (hop : op ∈ p.trace h s)
    (f : α → Program Op Res ε β) : op ∈ (p.bind f).trace h s := by
  induction p generalizing s with
  | done b => cases hop
  | raise e => cases hop
  | call op' k ih =>
      rw [call_bind, trace_call]
      rw [trace_call] at hop
      rcases List.mem_cons.mp hop with rfl | hop
      · exact List.mem_cons_self ..
      · exact List.mem_cons_of_mem _ (ih _ hop)

theorem trace_attempt (p : Program Op Res ε α) (s : σ) :
    (p.attempt : Program Op Res ε' (Except ε α)).trace h s = p.trace h s := by
  induction p generalizing s with
  | done a => rfl
  | raise e => rfl
  | call op k ih => rw [attempt, trace_call, trace_call, ih]

/-- What the body of a `try` performs, the whole performs. -/
theorem mem_trace_tryExcept {p : Program Op Res ε α} {op : Op} {s : σ} (hop : op ∈ p.trace h s)
    (handler : ε → Program Op Res ε α) : op ∈ (p.tryExcept handler).trace h s := by
  rw [tryExcept]
  refine mem_trace_bind h ?_ _
  rw [trace_attempt]
  exact hop

/-! ### Programs that return -/

theorem trace_tryExcept_ok {p : Program Op Res ε α} {s s' : σ} {a : α}
    (hp : p.run h s = (.ok a, s')) (handler : ε → Program Op Res ε α) :
    (p.tryExcept handler).trace h s = p.trace h s := by
  have hattempt : (p.attempt : Program Op Res ε (Except ε α)).run h s = (.ok (.ok a), s') := by
    rw [run_attempt, hp]
  rw [tryExcept, trace_bind_ok h hattempt, trace_attempt, trace_done, List.append_nil]

theorem trace_tryFinally_ok {p : Program Op Res ε α} {s s' s'' : σ} {a : α}
    (hp : p.run h s = (.ok a, s')) {cleanup : Program Op Res ε Unit}
    (hcleanup : cleanup.run h s' = (.ok (), s'')) :
    (p.tryFinally cleanup).trace h s = p.trace h s ++ cleanup.trace h s' := by
  have hattempt : (p.attempt : Program Op Res ε (Except ε α)).run h s = (.ok (.ok a), s') := by
    rw [run_attempt, hp]
  rw [tryFinally, trace_bind_ok h hattempt, trace_attempt, trace_bind_ok h hcleanup]
  exact congrArg _ (List.append_nil _)

/-- A loop over bodies that return and leave the state as it is. -/
theorem run_forEach_of_returns {as : List α} {body : α → Program Op Res ε Unit} {s : σ}
    (hb : ∀ a ∈ as, (body a).run h s = (.ok (), s)) :
    (forEach as body).run h s = (.ok (), s) := by
  induction as with
  | nil => rfl
  | cons a as ih =>
      rw [List.forall_mem_cons] at hb
      rw [forEach_cons, run_bind_ok h hb.1, ih hb.2]

theorem trace_forEach_of_returns {as : List α} {body : α → Program Op Res ε Unit} {s : σ}
    (hb : ∀ a ∈ as, (body a).run h s = (.ok (), s)) :
    (forEach as body).trace h s = as.flatMap fun a => (body a).trace h s := by
  induction as with
  | nil => rfl
  | cons a as ih =>
      rw [List.forall_mem_cons] at hb
      rw [forEach_cons, trace_bind_ok h hb.1, ih hb.2, List.flatMap_cons]

/-! ## What a program performs before it returns -/

/-- The program does not return without having performed an operation in `A`. -/
def Performs (A : Op → Prop) (p : Program Op Res ε α) : Prop :=
  ∀ s a s', p.run h s = (.ok a, s') → ∃ op ∈ p.trace h s, A op

/-- The program does not return. -/
def NeverReturns (p : Program Op Res ε α) : Prop :=
  ∀ s a s', p.run h s ≠ (.ok a, s')

section Performs

variable {h} {A : Op → Prop}

theorem performs_call {op : Op} (hop : A op) (k : Res op → Program Op Res ε α) :
    Performs h A (.call op k) :=
  fun _ _ _ _ => ⟨op, List.mem_cons_self .., hop⟩

theorem performs_perform {op : Op} (hop : A op) :
    Performs h A (perform op : Program Op Res ε (Res op)) :=
  performs_call hop _

theorem neverReturns_raise (e : ε) : NeverReturns h (.raise e : Program Op Res ε α) := by
  intro s a s' hr
  cases hr

/-- The first part performs it. -/
theorem Performs.bind {p : Program Op Res ε α} (hp : Performs h A p) (f : α → Program Op Res ε β) :
    Performs h A (p.bind f) := by
  intro s b s' hr
  obtain ⟨a, t, hrun, -⟩ := exists_of_run_bind h hr
  obtain ⟨op, hop, hA⟩ := hp s a t hrun
  exact ⟨op, mem_trace_bind h hop f, hA⟩

/-- The continuation performs it. -/
theorem performs_bind (p : Program Op Res ε α) {f : α → Program Op Res ε β}
    (hf : ∀ a, Performs h A (f a)) : Performs h A (p.bind f) := by
  intro s b s' hr
  obtain ⟨a, t, hrun, hrest⟩ := exists_of_run_bind h hr
  obtain ⟨op, hop, hA⟩ := hf a t b s' hrest
  refine ⟨op, ?_, hA⟩
  rw [trace_bind_ok h hrun]
  exact List.mem_append_right _ hop

/-- A `try` whose handler does not return. -/
theorem Performs.tryExcept {p : Program Op Res ε α} {handler : ε → Program Op Res ε α}
    (hp : Performs h A p) (hh : ∀ e, NeverReturns h (handler e)) :
    Performs h A (p.tryExcept handler) := by
  intro s a s' hr
  rw [run_tryExcept] at hr
  rcases hrun : p.run h s with ⟨e | b, t⟩ <;> rw [hrun] at hr
  · exact absurd hr (hh e t a s')
  · obtain ⟨op, hop, hA⟩ := hp s b t hrun
    exact ⟨op, mem_trace_tryExcept h hop handler, hA⟩

/-- A `try` with a cleanup returns only if its body does. -/
theorem Performs.tryFinally {p : Program Op Res ε α} (hp : Performs h A p)
    (cleanup : Program Op Res ε Unit) : Performs h A (p.tryFinally cleanup) := by
  intro s a s' hr
  rw [Program.tryFinally, run_bind_ok h (run_attempt h p s)] at hr
  rcases hrun : p.run h s with ⟨e | b, t⟩ <;> rw [hrun] at hr
  · obtain ⟨u, v, -, hraise⟩ := exists_of_run_bind h hr
    cases hraise
  · obtain ⟨op, hop, hA⟩ := hp s b t hrun
    refine ⟨op, ?_, hA⟩
    rw [Program.tryFinally]
    refine mem_trace_bind h ?_ _
    rw [trace_attempt]
    exact hop

end Performs

end Program

/-! ## Loops whose exceptions are foretold -/

namespace Triple

variable {h : Handler Op Res σ} {I S : σ → Prop} {E : ε → σ → Prop}

/-- Postconditions of which each holds hold together. -/
theorem forall_post {ι : Type} {p : Program Op Res ε α} {Q : ι → α → σ → Prop}
    (ht : ∀ i, Triple h I p (Q i) fun _ _ => True) :
    Triple h I p (fun a s => ∀ i, Q i a s) fun _ _ => True := by
  constructor
  intro s hs
  rcases hrun : p.run h s with ⟨e | a, s'⟩
  · trivial
  · intro i
    exact (ht i).ok hs hrun

/-- If each body returns just where its element is good, the loop returns just where all are. -/
theorem forEach_decides {as : List α} {body : α → Program Op Res ε Unit} {good : α → Prop}
    (hb : ∀ a ∈ as, Triple h I (body a) (fun _ s => good a ∧ I s) fun _ s => ¬ good a ∧ I s) :
    Triple h I (Program.forEach as body) (fun _ s => (∀ a ∈ as, good a) ∧ I s)
      fun _ s => (¬ ∀ a ∈ as, good a) ∧ I s := by
  induction as with
  | nil => exact done fun s hs => ⟨List.forall_mem_nil _, hs⟩
  | cons a as ih =>
      have htail := ih fun a' ha' => hb a' (List.mem_cons_of_mem _ ha')
      have hhead := (hb a (List.mem_cons_self ..)).conseq (fun _ hs => hs) (fun _ _ hs => hs)
        fun _ s hs => (⟨fun hall => hs.1 (hall a (List.mem_cons_self ..)), hs.2⟩ :
          (¬ ∀ a' ∈ a :: as, good a') ∧ I s)
      refine hhead.bind fun _ => assume fun hgood => ?_
      refine htail.conseq (fun _ hs => hs) ?_ ?_
      · intro _ s hs
        exact ⟨List.forall_mem_cons.mpr ⟨hgood, hs.1⟩, hs.2⟩
      · intro _ s hs
        exact ⟨fun hall => hs.1 fun a' ha' => hall a' (List.mem_cons_of_mem _ ha'), hs.2⟩

/-- What one body establishes and every body keeps holds after the loop. -/
theorem forEach_establishes {as : List α} {body : α → Program Op Res ε Unit} {a : α} (ha : a ∈ as)
    (hkeep : ∀ a ∈ as, Triple h (fun s => I s ∧ S s) (body a) (fun _ s => I s ∧ S s) E)
    (hbefore : ∀ a ∈ as, Triple h I (body a) (fun _ => I) E)
    (hest : Triple h I (body a) (fun _ s => I s ∧ S s) E) :
    Triple h I (Program.forEach as body) (fun _ s => I s ∧ S s) E := by
  induction as with
  | nil => cases ha
  | cons a' as ih =>
      have htail : Triple h (fun s => I s ∧ S s) (Program.forEach as body)
          (fun _ s => I s ∧ S s) E :=
        forEach fun a'' ha'' => hkeep a'' (List.mem_cons_of_mem _ ha'')
      rcases List.mem_cons.mp ha with rfl | ha
      · exact hest.bind fun _ => htail
      · refine (hbefore a' (List.mem_cons_self ..)).bind fun _ => ?_
        exact ih ha (fun a'' ha'' => hkeep a'' (List.mem_cons_of_mem _ ha''))
          fun a'' ha'' => hbefore a'' (List.mem_cons_of_mem _ ha'')

end Triple

end Tfplenum.Lib
