/-
  Tfplenum.Lib.History

  Programs run alone beside a history of what they did: each operation with what it
  was answered.  `Each B Q` says of a history that what comes before any event in `B`
  is in `Q`; a part that has no such event keeps it, and so does any part once the
  history is in `Q`, where `Q` is about what has happened and so stays true.
-/

import Tfplenum.Lib.Hoare

namespace Tfplenum.Lib

variable {Op : Type} {Res : Op → Type} {ε σ α β : Type}

/-- An operation with its answer. -/
abbrev Deed (Res : Op → Type) : Type := (op : Op) × Res op

/-- The handler, with the history beside the state. -/
def logged (h : Handler Op Res σ) : Handler Op Res (σ × List (Deed Res))
  | op, t => ((h op t.1).1, ((h op t.1).2, t.2 ++ [⟨op, (h op t.1).1⟩]))

/-- The history of a run. -/
def Program.history (h : Handler Op Res σ) (p : Program Op Res ε α) (s : σ) : List (Deed Res) :=
  (p.run (logged h) (s, [])).2.2

/-- A property of histories that nothing that happens later takes away. -/
def Lasting (Q : List (Deed Res) → Prop) : Prop := ∀ l e, Q l → Q (l ++ [e])

/-- There is no event in `B`. -/
def Free (B : Deed Res → Prop) (l : List (Deed Res)) : Prop := ∀ e ∈ l, ¬ B e

/-- What comes before an event in `B` is in `Q`. -/
def Each (B : Deed Res → Prop) (Q : List (Deed Res) → Prop) (l : List (Deed Res)) : Prop :=
  ∀ before e after, l = before ++ e :: after → B e → Q before

/-- A run goes as it does without the history, and adds its own to what there is. -/
theorem run_logged (h : Handler Op Res σ) (p : Program Op Res ε α) (s : σ) (l : List (Deed Res)) :
    p.run (logged h) (s, l) = ((p.run h s).1, (p.run h s).2, l ++ p.history h s) := by
  induction p generalizing s l with
  | done a =>
      show _ = (_, _, l ++ [])
      rw [List.append_nil]
      rfl
  | raise e =>
      show _ = (_, _, l ++ [])
      rw [List.append_nil]
      rfl
  | call op k ih =>
      have hrest : (Program.call op k).history h s =
          [⟨op, (h op s).1⟩] ++ (k (h op s).1).history h (h op s).2 := by
        show ((k (h op s).1).run (logged h) ((h op s).2, [⟨op, (h op s).1⟩])).2.2 = _
        rw [ih]
      show (k (h op s).1).run (logged h) ((h op s).2, l ++ [⟨op, (h op s).1⟩]) = _
      rw [ih, hrest, List.append_assoc]
      rfl

section History

variable (h : Handler Op Res σ) (s : σ)

@[simp] theorem history_done (a : α) : (Program.done a : Program Op Res ε α).history h s = [] := rfl
@[simp] theorem history_raise (e : ε) : (Program.raise e : Program Op Res ε α).history h s = [] :=
  rfl

@[simp] theorem history_call (op : Op) (k : Res op → Program Op Res ε α) :
    (Program.call op k).history h s =
      ⟨op, (h op s).1⟩ :: (k (h op s).1).history h (h op s).2 := by
  show ((k (h op s).1).run (logged h) ((h op s).2, [⟨op, (h op s).1⟩])).2.2 = _
  rw [run_logged]
  rfl

theorem history_bind (p : Program Op Res ε α) (f : α → Program Op Res ε β) :
    (p.bind f).history h s = p.history h s ++ match p.run h s with
      | (.ok a, s') => (f a).history h s'
      | (.error _, _) => [] := by
  rw [Program.history, Program.run_bind, run_logged]
  rcases p.run h s with ⟨e | a, s'⟩
  · exact (List.append_nil _).symm
  · show ((f a).run (logged h) (s', [] ++ p.history h s)).2.2 = _
    rw [run_logged, List.nil_append]

theorem history_bind_ok {p : Program Op Res ε α} {f : α → Program Op Res ε β} {s s' : σ} {a : α}
    (hp : p.run h s = (.ok a, s')) :
    (p.bind f).history h s = p.history h s ++ (f a).history h s' := by
  rw [history_bind, hp]

theorem history_bind_error {p : Program Op Res ε α} {f : α → Program Op Res ε β} {s s' : σ} {e : ε}
    (hp : p.run h s = (.error e, s')) : (p.bind f).history h s = p.history h s := by
  rw [history_bind, hp, List.append_nil]

/-- A program that returns has returned from its first part. -/
theorem exists_of_returns {p : Program Op Res ε α} {f : α → Program Op Res ε β} {b : β}
    (hb : ((p.bind f).run h s).1 = .ok b) :
    ∃ a s', p.run h s = (.ok a, s') ∧ ((f a).run h s').1 = .ok b ∧
      (p.bind f).history h s = p.history h s ++ (f a).history h s' := by
  obtain ⟨a, s', hp, hf⟩ := Program.exists_of_run_bind h (Prod.ext hb rfl)
  exact ⟨a, s', hp, congrArg Prod.fst hf, history_bind_ok h hp⟩

theorem history_tryExcept (p : Program Op Res ε α) (handler : ε → Program Op Res ε α) :
    (p.tryExcept handler).history h s = p.history h s ++ match p.run h s with
      | (.ok _, _) => []
      | (.error e, s') => (handler e).history h s' := by
  rw [Program.history, Program.run_tryExcept, run_logged]
  rcases p.run h s with ⟨e | a, s'⟩
  · show ((handler e).run (logged h) (s', [] ++ p.history h s)).2.2 = _
    rw [run_logged, List.nil_append]
  · exact (List.append_nil _).symm

/-- Nothing a program does not use is in its history. -/
theorem free_history {B : Deed Res → Prop} {p : Program Op Res ε α}
    (hp : p.Uses fun op => ∀ r, ¬ B ⟨op, r⟩) : Free B (p.history h s) := by
  induction hp generalizing s with
  | done a => exact fun e he => by cases he
  | raise e => exact fun e he => by cases he
  | call hop _ ih =>
      rw [history_call]
      exact List.forall_mem_cons.mpr ⟨hop _, ih _ _⟩

/-- The history of a loop that came to its end is put together from those of its rounds. -/
theorem exists_rounds {S : β → List (Deed Res) → Prop} {bs : List β}
    {body : β → Program Op Res ε Unit} {u : Unit}
    (hreturns : ((Program.forEach bs body).run h s).1 = .ok u)
    (hS : ∀ b ∈ bs, ∀ s, ((body b).run h s).1 = .ok () → S b ((body b).history h s)) :
    ∃ rounds, List.Forall₂ S bs rounds ∧
      (Program.forEach bs body).history h s = rounds.flatten := by
  -- over the elements, as the state goes from round to round
  induction bs generalizing s with
  | nil => exact ⟨[], .nil, rfl⟩
  | cons b bs ih =>
      rw [Program.forEach_cons] at hreturns ⊢
      obtain ⟨u', s', hrun, hreturns', hhistory⟩ := exists_of_returns h s hreturns
      obtain ⟨rounds, hrounds, hrest⟩ := ih s' hreturns' fun b' hb' =>
        hS b' (List.mem_cons_of_mem _ hb')
      have hfirst := hS b (List.mem_cons_self ..) s (by rw [hrun])
      refine ⟨_ :: rounds, .cons hfirst hrounds, ?_⟩
      rw [hhistory, List.flatten_cons, ← hrest]

end History

/-- There is exactly one event in `B`. -/
def Once (B : Deed Res → Prop) (l : List (Deed Res)) : Prop :=
  ∃ before e after, l = before ++ e :: after ∧ B e ∧ Free B before ∧ Free B after

variable {B : Deed Res → Prop} {Q R : List (Deed Res) → Prop} {l : List (Deed Res)}
variable {e : Deed Res}

theorem Free.append (h : Free B l) (he : ¬ B e) : Free B (l ++ [e]) := by
  intro e' he'
  rcases List.mem_append.mp he' with he' | he'
  · exact h e' he'
  · rw [List.mem_singleton.mp he']
    exact he

theorem Free.each (h : Free B l) : Each B Q l := by
  rintro before e after rfl he
  exact absurd he (h e (by simp))

/-- One more event, before which everything is in place. -/
theorem Each.append (h : Each B Q l) (he : B e → Q l) : Each B Q (l ++ [e]) := by
  intro before e' after heq hB
  rcases List.eq_nil_or_concat after with rfl | ⟨after, e'', rfl⟩
  · obtain ⟨rfl, hlast⟩ := List.append_inj' heq rfl
    cases hlast
    exact he hB
  · have heq' : l ++ [e] = (before ++ e' :: after) ++ [e''] := by
      rw [heq]
      simp
    exact h before e' after (List.append_inj' heq' rfl).1 hB

theorem lasting_exists_mem (A : Deed Res → Prop) : Lasting fun l => ∃ e ∈ l, A e := by
  rintro l e ⟨a, ha, hA⟩
  exact ⟨a, List.mem_append_left _ ha, hA⟩

theorem Lasting.and (hQ : Lasting Q) (hR : Lasting R) : Lasting fun l => Q l ∧ R l :=
  fun l e h => ⟨hQ l e h.1, hR l e h.2⟩

namespace Triple

variable {h : Handler Op Res σ} {p : Program Op Res ε α}

/-- A part without an event in `B`. -/
theorem free (hp : p.Uses fun op => ∀ r, ¬ B ⟨op, r⟩) (hR : Lasting R) :
    Triple (logged h) (fun t => Free B t.2 ∧ R t.2) p (fun _ t => Free B t.2 ∧ R t.2)
      fun _ t => Free B t.2 ∧ R t.2 := by
  refine of_uses hp ?_
  rintro op ⟨s, l⟩ hop ⟨hfree, hl⟩
  exact ⟨hfree.append (hop _), hR _ _ hl⟩

/-- An operation, and the rest after its deed. -/
theorem logged_call {op : Op} {k : Res op → Program Op Res ε α} {P : List (Deed Res) → Prop}
    {Q' : α → σ × List (Deed Res) → Prop} {E : ε → σ × List (Deed Res) → Prop}
    (hk : ∀ r, Triple (logged h) (fun t => ∃ l, t.2 = l ++ [⟨op, r⟩] ∧ P l) (k r) Q' E) :
    Triple (logged h) (fun t => P t.2) (.call op k) Q' E := by
  refine call fun t ht => (hk _).pre ?_
  rintro _ rfl
  exact ⟨t.2, rfl, ht⟩

/-- Any part, where everything is in place before it. -/
theorem each (hQ : Lasting Q) :
    Triple (logged h) (fun t => Each B Q t.2 ∧ Q t.2) p (fun _ t => Each B Q t.2 ∧ Q t.2)
      fun _ t => Each B Q t.2 ∧ Q t.2 := by
  refine of_uses (Program.uses_any p) ?_
  rintro op ⟨s, l⟩ - ⟨heach, hl⟩
  exact ⟨heach.append fun _ => hl, hQ _ _ hl⟩

end Triple

/-! ## Programs that give up -/

/-- The program never returns. -/
def Raising (h : Handler Op Res σ) (p : Program Op Res ε α) : Prop :=
  ∀ s, ∃ e, (p.run h s).1 = .error e

namespace Raising

variable {h : Handler Op Res σ} {p : Program Op Res ε α} {f : α → Program Op Res ε β}

theorem raise (e : ε) : Raising h (.raise e : Program Op Res ε α) := fun _ => ⟨e, rfl⟩

theorem bind (hf : ∀ a, Raising h (f a)) : Raising h (p.bind f) := by
  intro s
  rw [Program.run_bind]
  rcases p.run h s with ⟨e | a, s'⟩
  · exact ⟨e, rfl⟩
  · exact hf a s'

theorem ne_ok (hp : Raising h p) {s : σ} {a : α} : (p.run h s).1 ≠ .ok a := by
  intro ha
  obtain ⟨e, he⟩ := hp s
  cases he.symm.trans ha

end Raising

/-- If the program returns, then something in `B` has happened. -/
def Does (h : Handler Op Res σ) (B : Deed Res → Prop) (p : Program Op Res ε α) : Prop :=
  ∀ s a, (p.run h s).1 = .ok a → ∃ e ∈ p.history h s, B e

namespace Does

variable {h : Handler Op Res σ} {p : Program Op Res ε α} {f : α → Program Op Res ε β}

theorem of_raising (hp : Raising h p) : Does h B p := fun _ _ ha => absurd ha hp.ne_ok

theorem bind_left (hp : Does h B p) : Does h B (p.bind f) := by
  intro s b hb
  obtain ⟨a, s', hrun, -, hhistory⟩ := exists_of_returns h s hb
  obtain ⟨e, he, hB⟩ := hp s a (by rw [hrun])
  rw [hhistory]
  exact ⟨e, List.mem_append_left _ he, hB⟩

theorem bind_right (hf : ∀ a, Does h B (f a)) : Does h B (p.bind f) := by
  intro s b hb
  obtain ⟨a, s', -, hreturns, hhistory⟩ := exists_of_returns h s hb
  obtain ⟨e, he, hB⟩ := hf a s' b hreturns
  rw [hhistory]
  exact ⟨e, List.mem_append_right _ he, hB⟩

theorem call {op : Op} {k : Res op → Program Op Res ε α}
    (hk : ∀ r s a, ((k r).run h s).1 = .ok a → B ⟨op, r⟩) : Does h B (.call op k) := by
  intro s a ha
  rw [history_call]
  exact ⟨_, List.mem_cons_self .., hk _ _ a ha⟩

theorem tryExcept {handler : ε → Program Op Res ε α} (hp : Does h B p)
    (hh : ∀ e, Raising h (handler e)) : Does h B (p.tryExcept handler) := by
  intro s a ha
  rw [history_tryExcept]
  rw [Program.run_tryExcept] at ha
  rcases hrun : p.run h s with ⟨e | a', s'⟩
  · rw [hrun] at ha
    exact absurd ha (hh e).ne_ok
  · obtain ⟨e, he, hB⟩ := hp s a' (by rw [hrun])
    exact ⟨e, List.mem_append_left _ he, hB⟩

end Does

/-- The program returns something in `G` exactly if nothing in `B` happens. -/
def Strict (h : Handler Op Res σ) (B : Deed Res → Prop) (G : α → Prop)
    (p : Program Op Res ε α) : Prop :=
  ∀ s, (∃ a, (p.run h s).1 = .ok a ∧ G a) ↔ Free B (p.history h s)

namespace Strict

variable {h : Handler Op Res σ} {G : α → Prop} {G' : β → Prop}
variable {p : Program Op Res ε α} {f : α → Program Op Res ε β}

theorem done {a : α} (ha : G a) : Strict h B G (.done a : Program Op Res ε α) :=
  fun _ => iff_of_true ⟨a, rfl, ha⟩ fun e he => by cases he

/-- What comes after something that is not in `G` must not return anything in `G'`. -/
theorem bind (hp : Strict h B G p) (hf : ∀ a, G a → Strict h B G' (f a))
    (hno : ∀ a, ¬ G a → ∀ s b, ((f a).run h s).1 = .ok b → ¬ G' b) : Strict h B G' (p.bind f) := by
  intro s
  have hhead := hp s
  rw [history_bind, Program.run_bind]
  rcases hrun : p.run h s with ⟨e | a, s'⟩
  · rw [hrun] at hhead
    have hbad : ¬ Free B (p.history h s) := fun hfree => by
      obtain ⟨a, ha, -⟩ := hhead.mpr hfree
      cases ha
    refine iff_of_false ?_ fun hfree => hbad fun e he => hfree e (List.mem_append_left _ he)
    rintro ⟨b, hb, -⟩
    cases hb
  · rw [hrun] at hhead
    by_cases ha : G a
    · have hfree : Free B (p.history h s) := hhead.mp ⟨a, rfl, ha⟩
      show (∃ b, ((f a).run h s').1 = .ok b ∧ G' b) ↔ Free B (p.history h s ++ (f a).history h s')
      rw [hf a ha s']
      refine ⟨fun hrest e he => ?_, fun hall e he => hall e (List.mem_append_right _ he)⟩
      rcases List.mem_append.mp he with he | he
      · exact hfree e he
      · exact hrest e he
    · have hbad : ¬ Free B (p.history h s) := fun hfree => by
        obtain ⟨a', ha', hG⟩ := hhead.mpr hfree
        cases ha'
        exact ha hG
      refine iff_of_false ?_ fun hfree => hbad fun e he => hfree e (List.mem_append_left _ he)
      rintro ⟨b, hb, hG⟩
      exact hno a ha s' b hb hG

/-- What returns anything at all is followed by anything. -/
theorem andThen (hp : Strict h B (fun _ => True) p) (hf : ∀ a, Strict h B G' (f a)) :
    Strict h B G' (p.bind f) :=
  hp.bind (fun a _ => hf a) fun _ ha => absurd trivial ha

theorem call {op : Op} {k : Res op → Program Op Res ε α}
    (hk : ∀ r, ¬ B ⟨op, r⟩ → Strict h B G (k r))
    (hno : ∀ r, B ⟨op, r⟩ → ∀ s a, ((k r).run h s).1 = .ok a → ¬ G a) :
    Strict h B G (.call op k) := by
  intro s
  rw [history_call]
  show (∃ a, ((k (h op s).1).run h (h op s).2).1 = .ok a ∧ G a) ↔ _
  by_cases hB : B ⟨op, (h op s).1⟩
  · refine iff_of_false ?_ fun hfree => hfree _ (List.mem_cons_self ..) hB
    rintro ⟨a, ha, hG⟩
    exact hno _ hB _ a ha hG
  · rw [hk _ hB]
    exact ⟨fun hrest => List.forall_mem_cons.mpr ⟨hB, hrest⟩,
      fun hall => (List.forall_mem_cons.mp hall).2⟩

/-- An operation whose answer is raised if it is an exception. -/
theorem ofExcept (h : Handler Op Res σ) (op : Op) (answer : Res op → Except ε α)
    (hB : ∀ r, B ⟨op, r⟩ ↔ ∃ e, answer r = .error e) :
    Strict h B (fun _ => True) (.call op fun r => Program.ofExcept (answer r)) := by
  refine call (fun r hr => ?_) fun r hr s a ha => ?_
  · rcases hanswer : answer r with e | a
    · exact absurd ((hB r).mpr ⟨e, hanswer⟩) hr
    · exact done trivial
  · obtain ⟨e, he⟩ := (hB r).mp hr
    rw [he] at ha
    cases ha

/-- A handler that raises in its turn. -/
theorem tryExcept {handler : ε → Program Op Res ε α} (hp : Strict h B G p)
    (hh : ∀ e, Raising h (handler e)) : Strict h B G (p.tryExcept handler) := by
  intro s
  have hbody := hp s
  rw [history_tryExcept, Program.run_tryExcept]
  rcases hrun : p.run h s with ⟨e | a, s'⟩
  · rw [hrun] at hbody
    have hbad : ¬ Free B (p.history h s) := fun hfree => by
      obtain ⟨a, ha, -⟩ := hbody.mpr hfree
      cases ha
    refine iff_of_false ?_ fun hfree => hbad fun e he => hfree e (List.mem_append_left _ he)
    rintro ⟨a, ha, -⟩
    exact (hh e).ne_ok ha
  · rw [hrun] at hbody
    show _ ↔ Free B (p.history h s ++ [])
    rw [List.append_nil]
    exact hbody

theorem when {c : Prop} [Decidable c] {p : Program Op Res ε Unit}
    (hp : c → Strict h B (fun _ => True) p) :
    Strict h B (fun _ => True) (Program.when c p) := by
  unfold Program.when
  split
  · rename_i hc
    exact hp hc
  · exact done trivial

theorem forEach {as : List α} {body : α → Program Op Res ε Unit}
    (hb : ∀ a ∈ as, Strict h B (fun _ => True) (body a)) :
    Strict h B (fun _ => True) (Program.forEach as body) := by
  induction as with
  | nil => exact done trivial
  | cons a as ih =>
      exact (hb a (List.mem_cons_self ..)).andThen fun _ =>
        ih fun a' ha' => hb a' (List.mem_cons_of_mem _ ha')

end Strict

/-! ### The same run with other names -/

section Image

variable {Op' : Type} {Res' : Op' → Type} {σ' : Type} {h : Handler Op Res σ}
variable {h' : Handler Op' Res' σ'} {p : Program Op Res ε α} {p' : Program Op' Res' ε α}
variable {φ : Deed Res → Deed Res'} {part : σ' → σ} {B' : Deed Res' → Prop} {G : α → Prop}

theorem free_map {l : List (Deed Res)} (hB : ∀ d, B' (φ d) ↔ B d) :
    Free B' (l.map φ) ↔ Free B l := by
  refine List.forall_mem_map.trans ?_
  exact forall₂_congr fun d _ => not_congr (hB d)

theorem Strict.of_image (hp : Strict h B G p) (hB : ∀ d, B' (φ d) ↔ B d)
    (hrun : ∀ s, (p'.run h' s).1 = (p.run h (part s)).1)
    (hhistory : ∀ s, p'.history h' s = (p.history h (part s)).map φ) : Strict h' B' G p' := by
  intro s
  rw [hrun, hhistory, free_map hB]
  exact hp (part s)

theorem Does.of_image (hp : Does h B p) (hB : ∀ d, B d → B' (φ d))
    (hrun : ∀ s, (p'.run h' s).1 = (p.run h (part s)).1)
    (hhistory : ∀ s, p'.history h' s = (p.history h (part s)).map φ) : Does h' B' p' := by
  intro s a ha
  rw [hrun] at ha
  obtain ⟨d, hd, hBd⟩ := hp (part s) a ha
  rw [hhistory]
  exact ⟨φ d, List.mem_map_of_mem hd, hB d hBd⟩

end Image

end Tfplenum.Lib
