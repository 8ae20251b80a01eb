/-
  Tfplenum.Lib.Runs

  Runs of one element in a list, found in two ways: by a search for three equal
  elements of a class in a row, and by a scan that counts the length of a run and
  looks at it when the run is broken.  The scan misses a run at the very end
  (`longRun_iff`), the search misses runs of elements outside its class
  (`triple_iff`).
-/

import Mathlib.Data.List.Infix

namespace Tfplenum.Lib.Runs

variable {α : Type}

/-! ## Runs in a list -/

/-- The start of a list decides whether three of an element are its start. -/
theorem prefix_triple_iff {a : α} {l m : List α} :
    (a :: a :: a :: m) <+: l ↔ ∃ rest, l = a :: a :: a :: rest ∧ m <+: rest := by
  constructor
  · rintro ⟨rest, rfl⟩
    exact ⟨m ++ rest, rfl, rest, rfl⟩
  · rintro ⟨_, rfl, rest, rfl⟩
    exact ⟨rest, rfl⟩

/-- A run of three that another element ends. -/
def Broken (l : List α) : Prop := ∃ a b, b ≠ a ∧ [a, a, a, b] <:+: l

theorem broken_cons_iff {a : α} {l : List α} :
    Broken (a :: l) ↔ (∃ b rest, b ≠ a ∧ l = a :: a :: b :: rest) ∨ Broken l := by
  unfold Broken
  constructor
  · rintro ⟨c, b, hne, hinside⟩
    rcases List.infix_cons_iff.mp hinside with ⟨rest, heq⟩ | hlater
    · simp only [List.cons_append, List.nil_append, List.cons.injEq] at heq
      obtain ⟨rfl, rfl⟩ := heq
      exact .inl ⟨b, rest, hne, rfl⟩
    · exact .inr ⟨c, b, hne, hlater⟩
  · rintro (⟨b, rest, hne, rfl⟩ | ⟨c, b, hne, hlater⟩)
    · exact ⟨a, b, hne, [], rest, rfl⟩
    · exact ⟨c, b, hne, List.infix_cons_iff.mpr (.inr hlater)⟩

/-- A run of at most two has no part in a run of three that starts later. -/
theorem broken_replicate_append {c a : α} {n : Nat} {l : List α} (hn : n ≤ 2) (hne : c ≠ a) :
    Broken (List.replicate n c ++ a :: l) ↔ Broken (a :: l) := by
  have hstep : ∀ l', (∀ b rest, l' ≠ c :: c :: b :: rest) → (Broken (c :: l') ↔ Broken l') := by
    intro l' hl'
    rw [broken_cons_iff]
    constructor
    · rintro (⟨b, rest, -, heq⟩ | h)
      · exact absurd heq (hl' b rest)
      · exact h
    · exact .inr
  have hhead : ∀ b rest, a :: l ≠ c :: c :: b :: rest := by
    intro b rest heq
    exact hne (List.cons.inj heq).1.symm
  have hsecond : ∀ b rest, c :: a :: l ≠ c :: c :: b :: rest := by
    intro b rest heq
    exact hne (List.cons.inj (List.cons.inj heq).2).1.symm
  obtain rfl | rfl | rfl : n = 0 ∨ n = 1 ∨ n = 2 := by omega
  · rfl
  · exact hstep _ hhead
  · exact (hstep _ hsecond).trans (hstep _ hhead)

/-- A run of three is broken by another element, or it is at the end. -/
theorem triple_infix_iff {l : List α} :
    (∃ a, [a, a, a] <:+: l) ↔ Broken l ∨ ∃ a, [a, a, a] <:+ l := by
  constructor
  · rintro ⟨a, before, after, rfl⟩
    -- by what comes after the run, which moves on while it goes on
    induction after generalizing before with
    | nil => exact .inr ⟨a, before, (List.append_nil _).symm⟩
    | cons b after ih =>
        by_cases hne : b = a
        · subst hne
          have hshift : before ++ [b, b, b] ++ b :: after =
              (before ++ [b]) ++ [b, b, b] ++ after := by simp
          rw [hshift]
          exact ih (before ++ [b])
        · refine .inl ⟨a, b, hne, before, after, ?_⟩
          simp
  · rintro (⟨a, b, -, hinside⟩ | ⟨a, hend⟩)
    · have hstart : [a, a, a] <:+: [a, a, a, b] := ⟨[], [b], rfl⟩
      exact ⟨a, hstart.trans hinside⟩
    · exact ⟨a, hend.isInfix⟩

/-- With a mark put at the end, a run that is there is broken too. -/
theorem broken_concat_none_iff {l : List α} :
    Broken (l.map some ++ [none]) ↔ ∃ a, [a, a, a] <:+: l := by
  rw [triple_infix_iff]
  constructor
  · rintro ⟨x, y, hne, hinside⟩
    rcases List.infix_concat_iff.mp hinside with hend | hinside
    · -- what breaks the run is the mark
      rcases List.suffix_concat_iff.mp hend with h | ⟨run, heq, hrun⟩
      · cases h
      · have happend : [x, x, x] ++ [y] = run ++ [none] := heq
        have hrun' : [x, x, x] = run := (List.append_inj' happend rfl).1
        subst hrun'
        obtain ⟨run, hrun, hmap⟩ := List.suffix_map_iff.mp hrun
        match run, hmap with
        | [a, b, c], hmap =>
            simp only [List.map_cons, List.map_nil, List.cons.injEq, and_true] at hmap
            obtain ⟨rfl, hb, hc⟩ := hmap
            cases hb
            cases hc
            exact .inr ⟨a, hrun⟩
    · -- what breaks it is an element of the list
      obtain ⟨run, hrun, hmap⟩ := List.infix_map_iff.mp hinside
      match run, hmap with
      | [a, b, c, d], hmap =>
          simp only [List.map_cons, List.map_nil, List.cons.injEq, and_true] at hmap
          obtain ⟨rfl, hb, hc, rfl⟩ := hmap
          cases hb
          cases hc
          exact .inl ⟨a, d, fun heq => hne (congrArg some heq), hrun⟩
  · rintro (⟨a, b, hne, hinside⟩ | ⟨a, hend⟩)
    · refine ⟨some a, some b, fun heq => hne (Option.some.inj heq), ?_⟩
      exact (hinside.map some).trans (List.prefix_append _ _).isInfix
    · refine ⟨some a, none, nofun, List.IsSuffix.isInfix ?_⟩
      exact List.suffix_concat_iff.mpr (.inr ⟨[some a, some a, some a], rfl, hend.map some⟩)

/-! ## The search and the scan -/

variable [DecidableEq α]

/-- Three equal elements of the class in a row. -/
def triple (p : α → Bool) : List α → Bool
  | a :: b :: c :: l => (p a && decide (a = b) && decide (b = c)) || triple p (b :: c :: l)
  | _ => false

/-- The scan, `same` elements into a run of `cached`. -/
def longRunFrom (cached : α) (same : Nat) : List α → Bool
  | [] => false
  | a :: l =>
      if cached = a then longRunFrom cached (same + 1) l
      else if 2 < same then true
      else longRunFrom a 1 l

/-- A run of more than two elements that another element ends. -/
def longRun : List α → Bool
  | [] => false
  | a :: l => longRunFrom a 1 l

theorem triple_iff {p : α → Bool} {l : List α} :
    triple p l = true ↔ ∃ a, p a = true ∧ [a, a, a] <:+: l := by
  induction l using triple.induct with
  | case1 a b c l ih =>
      rw [triple, Bool.or_eq_true, ih]
      constructor
      · rintro (hhere | ⟨d, hd, hlater⟩)
        · simp only [Bool.and_eq_true, decide_eq_true_eq] at hhere
          obtain ⟨⟨hp, rfl⟩, rfl⟩ := hhere
          exact ⟨a, hp, [], l, rfl⟩
        · exact ⟨d, hd, List.infix_cons_iff.mpr (.inr hlater)⟩
      · rintro ⟨d, hd, hinside⟩
        rcases List.infix_cons_iff.mp hinside with hhere | hlater
        · obtain ⟨rest, heq, -⟩ := prefix_triple_iff.mp hhere
          left
          simp only [List.cons.injEq] at heq
          obtain ⟨rfl, rfl, rfl, -⟩ := heq
          simp [hd]
        · exact .inr ⟨d, hd, hlater⟩
  | case2 l hshort =>
      -- a list of less than three elements has no room for a run
      rw [triple.eq_2 _ _ hshort]
      constructor
      · intro h
        cases h
      · rintro ⟨d, -, pre, post, heq⟩
        rcases pre with _ | ⟨a, _ | ⟨b, _ | ⟨c, pre⟩⟩⟩
        · exact (hshort d d d post heq.symm).elim
        · exact (hshort a d d (d :: post) heq.symm).elim
        · exact (hshort a b d (d :: d :: post) heq.symm).elim
        · exact (hshort a b c _ heq.symm).elim

theorem longRunFrom_iff {c : α} {n : Nat} {l : List α} :
    longRunFrom c n l = true ↔ Broken (List.replicate n c ++ l) := by
  induction l generalizing c n with
  | nil =>
      rw [longRunFrom, List.append_nil]
      constructor
      · intro h
        cases h
      · rintro ⟨a, b, hne, hinside⟩
        -- in a run of `c` both elements are `c`
        have hmem : ∀ d ∈ [a, a, a, b], d = c := fun d hd =>
          List.eq_of_mem_replicate (hinside.subset hd)
        have ha : a = c := hmem a (by simp)
        have hb : b = c := hmem b (by simp)
        exact absurd (hb.trans ha.symm) hne
  | cons a l ih =>
      rw [longRunFrom]
      by_cases hca : c = a
      · subst hca
        have hrun : List.replicate n c ++ c :: l = List.replicate (n + 1) c ++ l := by
          rw [List.replicate_succ', List.append_assoc]
          rfl
        rw [if_pos rfl, ih, hrun]
      · rw [if_neg hca]
        by_cases hn : 2 < n
        · rw [if_pos hn]
          -- the last three of the run, and the element that breaks it
          have hrun : List.replicate n c ++ a :: l =
              List.replicate (n - 3) c ++ ([c, c, c, a] ++ l) := by
            obtain ⟨m, rfl⟩ : ∃ m, n = m + 3 := ⟨n - 3, by omega⟩
            rw [List.replicate_add, List.append_assoc, Nat.add_sub_cancel]
            rfl
          have hbroken : Broken (List.replicate n c ++ a :: l) := by
            refine ⟨c, a, Ne.symm hca, ?_⟩
            rw [hrun]
            exact ⟨_, l, List.append_assoc ..⟩
          exact iff_of_true rfl hbroken
        · -- the short run is forgotten
          rw [if_neg hn, ih, broken_replicate_append (by omega) hca]
          rfl

theorem longRun_iff {l : List α} : longRun l = true ↔ Broken l := by
  cases l with
  | nil =>
      constructor
      · intro h
        cases h
      · rintro ⟨a, b, -, hinside⟩
        cases List.infix_nil.mp hinside
  | cons a l => exact longRunFrom_iff

end Tfplenum.Lib.Runs
