/-
  Tfplenum.Lib.EditingLoop

  Python's `for item in l` with a body that edits `l` at the item it is at.

  The loop counts positions (`loopFrom`), so that the item behind one that is
  removed moves to a position that is over already: no round is made for it, and it
  stays as it is.  `pass` says the same item by item (`loopFrom_append`); a loop that
  only removes is a filter as long as no two neighbours are to go (`pass_eq_filter_iff`).
-/

import Mathlib.Data.List.Chain
import Tfplenum.Lib.Program

namespace Tfplenum.Lib.EditingLoop

variable {m : Type → Type} [Monad m] {α : Type}

/-- What the body of the loop does with its item. -/
inductive Edit (α : Type) where
  | keep
  | replace (a : α)
  | remove
deriving DecidableEq, Repr

/-- The loop from a position on; the list it leaves -/
def loopFrom (body : α → m (Edit α)) (i : Nat) (l : List α) : m (List α) :=
  if h : i < l.length then do
    match ← body l[i] with
    | .keep => loopFrom body (i + 1) l
    | .replace a => loopFrom body (i + 1) (l.set i a)
    | .remove => loopFrom body (i + 1) (l.eraseIdx i)
  else pure l
termination_by l.length - i
decreasing_by
  · omega
  · rw [List.length_set]
    omega
  · rw [List.length_eraseIdx]
    split <;> omega

mutual

/-- What the loop makes of the items that it has not come to yet -/
def pass (body : α → m (Edit α)) : List α → m (List α)
  | [] => pure []
  | a :: l => do
      match ← body a with
      | .keep => (a :: ·) <$> pass body l
      | .replace b => (b :: ·) <$> pass body l
      | .remove => passOver body l

/-- The same where the first of them is passed over -/
def passOver (body : α → m (Edit α)) : List α → m (List α)
  | [] => pure []
  | a :: l => (a :: ·) <$> pass body l

end

theorem loopFrom_of_le {body : α → m (Edit α)} {i : Nat} {l : List α} (h : l.length ≤ i) :
    loopFrom body i l = pure l := by
  rw [loopFrom, dif_neg (by omega)]

variable [LawfulMonad m]

/-- The loop leaves what is in front of its position, and passes through the rest; past a removed
    item it is one position further. -/
theorem loopFrom_append (body : α → m (Edit α)) (l done : List α) :
    loopFrom body done.length (done ++ l) = (done ++ ·) <$> pass body l ∧
      loopFrom body (done.length + 1) (done ++ l) = (done ++ ·) <$> passOver body l := by
  induction l generalizing done with
  | nil =>
      constructor
      · rw [loopFrom_of_le (by simp), pass, map_pure]
      · rw [loopFrom_of_le (by simp), passOver, map_pure]
  | cons a l ih =>
      -- one more item is done
      have hsnoc : ∀ b, done ++ b :: l = (done ++ [b]) ++ l := fun b => by simp
      have hlength : ∀ b, done.length + 1 = (done ++ [b]).length := fun b => by simp
      have hnext : ∀ b, loopFrom body (done.length + 1) (done ++ b :: l) =
          (done ++ ·) <$> ((b :: ·) <$> pass body l) := by
        intro b
        rw [hsnoc, hlength b, (ih (done ++ [b])).1, Functor.map_map]
        simp
      constructor
      · have hlt : done.length < (done ++ a :: l).length := by simp
        have hitem : (done ++ a :: l)[done.length] = a := by simp
        rw [loopFrom, dif_pos hlt, hitem, pass, map_bind]
        congr 1
        funext edit
        cases edit with
        | keep => exact hnext a
        | replace b =>
            show loopFrom body (done.length + 1) ((done ++ a :: l).set done.length b) = _
            rw [List.set_append_right (h := Nat.le_refl _), Nat.sub_self, List.set_cons_zero]
            exact hnext b
        | remove =>
            show loopFrom body (done.length + 1) ((done ++ a :: l).eraseIdx done.length) = _
            rw [List.eraseIdx_append_of_length_le (Nat.le_refl _), Nat.sub_self,
              List.eraseIdx_zero, List.tail_cons]
            exact (ih done).2
      · rw [passOver]
        exact hnext a

/-- The whole loop is a pass through the list. -/
theorem loop_eq_pass (body : α → m (Edit α)) (l : List α) : loopFrom body 0 l = pass body l := by
  have h := (loopFrom_append body l []).1
  rw [List.length_nil, List.nil_append] at h
  simpa using h

/-! ## Loops over other values -/

section Map

variable {m : Type → Type} [Monad m] [LawfulMonad m] {α β : Type}

def Edit.map (f : α → β) : Edit α → Edit β
  | .keep => .keep
  | .replace a => .replace (f a)
  | .remove => .remove

/-- A loop that goes by what `f` gives of its items. -/
theorem map_pass {body : α → m (Edit α)} {body' : β → m (Edit β)} {f : α → β}
    (h : ∀ a, Edit.map f <$> body a = body' (f a)) (l : List α) :
    List.map f <$> pass body l = pass body' (l.map f) ∧
      List.map f <$> passOver body l = passOver body' (l.map f) := by
  induction l with
  | nil =>
      constructor
      · rw [pass, List.map_nil, pass, map_pure, List.map_nil]
      · rw [passOver, List.map_nil, passOver, map_pure, List.map_nil]
  | cons a l ih =>
      have hcons : ∀ b, List.map f <$> ((b :: ·) <$> pass body l) =
          (f b :: ·) <$> pass body' (l.map f) := by
        intro b
        rw [← ih.1, Functor.map_map, Functor.map_map]
        rfl
      constructor
      · rw [pass, List.map_cons, pass, ← h, map_bind, bind_map_left]
        congr 1
        funext edit
        cases edit with
        | keep => exact hcons a
        | replace b => exact hcons b
        | remove => exact ih.2
      · rw [passOver, List.map_cons, passOver]
        exact hcons a

end Map

/-- A loop whose body reads the state and leaves it as it is -/
theorem run_pass {Op : Type} {Res : Op → Type} {ε σ α : Type} {h : Handler Op Res σ} {s : σ}
    {body : α → Program Op Res ε (Edit α)} {read : α → Except ε (Edit α)}
    (hbody : ∀ a, (body a).run h s = (read a, s)) (l : List α) :
    (pass body l).run h s = (pass read l, s) ∧
      (passOver body l).run h s = (passOver read l, s) := by
  induction l with
  | nil =>
      constructor
      · rw [pass, pass]
        rfl
      · rw [passOver, passOver]
        rfl
  | cons a l ih =>
      have hcons : ∀ b, ((b :: ·) <$> pass body l).run h s = ((b :: ·) <$> pass read l, s) := by
        intro b
        refine (Program.run_bind h (pass body l) _ s).trans ?_
        rw [ih.1]
        cases pass read l <;> rfl
      constructor
      · rw [pass, pass]
        refine (Program.run_bind h (body a) _ s).trans ?_
        rw [hbody]
        cases read a with
        | error e => rfl
        | ok edit =>
            cases edit with
            | keep => exact hcons a
            | replace b => exact hcons b
            | remove => exact ih.2
      · rw [passOver, passOver]
        exact hcons a

/-! ## Loops that only remove -/

section Remove

variable {ε α : Type} {body : α → Except ε (Edit α)} {wanted : α → Bool}

/-- An item that is passed over is the first one that is left. -/
theorem head_of_cons {a : α} {p : Except ε (List α)} {result : List α}
    (h : (a :: ·) <$> p = .ok result) : ∃ rest, p = .ok rest ∧ result = a :: rest := by
  cases p with
  | error e => cases h
  | ok rest => exact ⟨rest, rfl, (Except.ok.inj h).symm⟩

theorem cons_map_eq_ok_iff {a : α} {p : Except ε (List α)} {rest : List α} :
    (a :: ·) <$> p = .ok (a :: rest) ↔ p = .ok rest := by
  constructor
  · intro h
    obtain ⟨rest', hp, heq⟩ := head_of_cons h
    rw [hp, (List.cons.inj heq).2]
  · rintro rfl
    rfl

/-- What the loop raises for is still in the list where it does not raise. -/
theorem mem_of_pass {a : α} {e : ε} (ha : body a = .error e) (l : List α) (hmem : a ∈ l) :
    (∀ result, pass body l = .ok result → a ∈ result) ∧
      ∀ result, passOver body l = .ok result → a ∈ result := by
  induction l with
  | nil => cases hmem
  | cons b l ih =>
      have hcons : ∀ c result, (c = a ∨ a ∈ l) → (c :: ·) <$> pass body l = .ok result →
          a ∈ result := by
        intro c result hor h
        obtain ⟨rest, hrest, rfl⟩ := head_of_cons h
        rcases hor with rfl | hin
        · exact List.mem_cons_self
        · exact List.mem_cons_of_mem _ ((ih hin).1 rest hrest)
      constructor
      · intro result h
        rw [pass] at h
        cases hedit : body b with
        | error e' =>
            rw [hedit] at h
            cases h
        | ok edit =>
            have hin : a ∈ l := by
              rcases List.mem_cons.mp hmem with rfl | hin
              · rw [ha] at hedit
                cases hedit
              · exact hin
            rw [hedit] at h
            cases edit with
            | keep => exact hcons b result (.inr hin) h
            | replace c => exact hcons c result (.inr hin) h
            | remove => exact (ih hin).2 result h
      · intro result h
        rw [passOver] at h
        refine hcons b result ?_ h
        rcases List.mem_cons.mp hmem with rfl | hin
        · exact .inl rfl
        · exact .inr hin

/-- The item is removed although it is wanted. -/
def Lost (body : α → Except ε (Edit α)) (wanted : α → Bool) (a : α) : Prop :=
  body a = .ok .remove ∧ wanted a = true

/-- The second item is passed over exactly if the first one is removed. -/
def Follows (body : α → Except ε (Edit α)) (wanted : α → Bool) (a b : α) : Prop :=
  (wanted b = false → wanted a = true) ∧ (Lost body wanted b → wanted a = false)

theorem follows_of_wanted {a b : α} (h : wanted a = true) :
    Follows body wanted a b ↔ ¬ Lost body wanted b := by
  simp [Follows, h]

theorem follows_of_unwanted {a b : α} (h : wanted a = false) :
    Follows body wanted a b ↔ wanted b = true := by
  simp [Follows, h]

theorem mem_of_passOver_eq_cons {a : α} {l rest : List α}
    (h : passOver body l = .ok (a :: rest)) : a ∈ l := by
  cases l with
  | nil =>
      rw [passOver] at h
      cases h
  | cons b l =>
      rw [passOver] at h
      obtain ⟨rest', -, heq⟩ := head_of_cons h
      rw [(List.cons.inj heq).1]
      exact List.mem_cons_self

/-- What is left is what is wanted if no unwanted item follows another one, and the wanted ones
    that would be removed follow one. -/
theorem pass_eq_filter_iff {l : List α} (hnodup : l.Nodup)
    (hreplace : ∀ a b, body a ≠ .ok (.replace b))
    (hkeep : ∀ a, body a = .ok .keep → wanted a = true)
    (herror : ∀ a e, body a = .error e → wanted a = false) :
    (pass body l = .ok (l.filter wanted) ↔ (∀ a ∈ l, ∃ edit, body a = .ok edit) ∧
        (∀ a ∈ l.head?, ¬ Lost body wanted a) ∧ l.IsChain (Follows body wanted)) ∧
      (passOver body l = .ok (l.filter wanted) ↔ (∀ a ∈ l, ∃ edit, body a = .ok edit) ∧
        (∀ a ∈ l.head?, wanted a = true) ∧ l.IsChain (Follows body wanted)) := by
  induction l with
  | nil => simp [pass, passOver, pure, Except.pure]
  | cons a l ih =>
      obtain ⟨hmem, hnodup⟩ := List.nodup_cons.mp hnodup
      obtain ⟨ihpass, ihover⟩ := ih hnodup
      simp only [List.head?_cons, Option.mem_some_iff, forall_eq', List.forall_mem_cons]
      -- a wanted item that stays
      have hstays : wanted a = true → (∃ edit, body a = .ok edit) →
          ((a :: ·) <$> pass body l = .ok ((a :: l).filter wanted) ↔
            ((∃ edit, body a = .ok edit) ∧ ∀ b ∈ l, ∃ edit, body b = .ok edit) ∧
              (a :: l).IsChain (Follows body wanted)) := by
        intro hwanted hok
        rw [List.filter_cons_of_pos hwanted, cons_map_eq_ok_iff, ihpass, List.isChain_cons]
        simp only [follows_of_wanted hwanted, hok, true_and]
      constructor
      · rw [pass]
        cases hedit : body a with
        | error e => exact iff_of_false nofun fun h => nomatch h.1.1
        | ok edit =>
            rw [hedit] at hstays
            cases edit with
            | replace b => exact absurd hedit (hreplace a b)
            | keep =>
                have hlost : ¬ Lost body wanted a := by
                  rw [Lost, hedit]
                  nofun
                exact (hstays (hkeep a hedit) ⟨_, rfl⟩).trans (by simp [hlost])
            | remove =>
                change passOver body l = _ ↔ _
                cases hwanted : wanted a with
                | true =>
                    -- the item is missed in what is left
                    have hlost : Lost body wanted a := ⟨hedit, hwanted⟩
                    refine iff_of_false ?_ fun h => h.2.1 hlost
                    intro h
                    rw [List.filter_cons_of_pos hwanted] at h
                    exact hmem (mem_of_passOver_eq_cons h)
                | false =>
                    have hlost : ¬ Lost body wanted a := by
                      rw [Lost, hwanted]
                      nofun
                    rw [List.filter_cons_of_neg (by simp [hwanted]), ihover, List.isChain_cons]
                    simp [follows_of_unwanted hwanted, hlost]
      · rw [passOver]
        cases hwanted : wanted a with
        | false =>
            refine iff_of_false ?_ fun h => nomatch h.2.1
            intro h
            rw [List.filter_cons_of_neg (by simp [hwanted])] at h
            obtain ⟨rest, -, heq⟩ := head_of_cons h
            have hin : a ∈ l.filter wanted := heq ▸ List.mem_cons_self
            rw [List.mem_filter, hwanted] at hin
            exact nomatch hin.2
        | true =>
            have hok : ∃ edit, body a = .ok edit := by
              cases hedit : body a with
              | error e => exact absurd (herror a e hedit) (by simp [hwanted])
              | ok edit => exact ⟨edit, rfl⟩
            exact (hstays hwanted hok).trans (by simp)

end Remove

end Tfplenum.Lib.EditingLoop
