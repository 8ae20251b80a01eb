/-
  Tfplenum.Lib.Regex

  Regular expressions with captures, as a backtracking matcher tries them: a
  pattern gives all the ways in which it fits the front of a text, with what it
  captures and what is left, the way that is tried first in front.  `re.match` is
  the first way of all (`first`).

  A lazy repetition followed by the rest of a pattern stops at the shortest
  repetition that the rest can follow (`first_lazy_bind`).
-/

import Mathlib.Data.List.Basic
import Mathlib.Data.List.Infix

namespace Tfplenum.Lib

/-- The ways in which a pattern fits the front of a text. -/
def Regex (α : Type) : Type := List Char → List (α × List Char)

namespace Regex

variable {α β : Type}

/-- The pattern that fits nothing and captures `a` -/
def pure (a : α) : Regex α := fun cs => [(a, cs)]

/-- A pattern, and behind it one that may depend on what the first captured. -/
def bind (r : Regex α) (f : α → Regex β) : Regex β :=
  fun cs => (r cs).flatMap fun way => f way.1 way.2

instance : Monad Regex where
  pure := pure
  bind := bind

/-- `re.match` -/
def first (r : Regex α) (cs : List Char) : Option α := (r cs).head?.map Prod.fst

/-- A text that stands for itself. -/
def text (s : List Char) : Regex (List Char) := fun cs =>
  match s.isPrefixOf? cs with
  | some rest => [(s, rest)]
  | none => []

/-- One character of a class. -/
def char (p : Char → Bool) : Regex Char
  | [] => []
  | c :: cs => if p c then [(c, cs)] else []

/-- `(s₁|s₂|...)` -/
def oneOf (ss : List (List Char)) : Regex (List Char) := fun cs => ss.flatMap fun s => text s cs

/-- The fronts of a text whose characters are all of a class, the shortest first. -/
def fronts (p : Char → Bool) : List Char → List (List Char × List Char)
  | [] => [([], [])]
  | c :: cs =>
      ([], c :: cs) :: if p c then (fronts p cs).map fun way => (c :: way.1, way.2) else []

/-- `[p]*?` -/
def lazy (p : Char → Bool) : Regex (List Char) := fronts p

/-- `[p]{lo,}` -/
def atLeast (lo : Nat) (p : Char → Bool) : Regex (List Char) := fun cs =>
  (fronts p cs).reverse.filter fun way => lo ≤ way.1.length

/-- `[p]{lo,hi}` -/
def between (lo hi : Nat) (p : Char → Bool) : Regex (List Char) := fun cs =>
  (fronts p cs).reverse.filter fun way => lo ≤ way.1.length ∧ way.1.length ≤ hi

/-- `$` -/
def stop : Regex Unit
  | [] => [((), [])]
  | ['\n'] => [((), ['\n'])]
  | _ => []

/-- `.` -/
def dot (c : Char) : Bool := c ≠ '\n'

/-! ## The ways -/

theorem pure_ways (a : α) (cs : List Char) : (Pure.pure a : Regex α) cs = [(a, cs)] := rfl

theorem bind_ways (r : Regex α) (f : α → Regex β) (cs : List Char) :
    (r >>= f) cs = (r cs).flatMap fun way => f way.1 way.2 := rfl

theorem mem_bind {r : Regex α} {f : α → Regex β} {cs : List Char} {way : β × List Char} :
    way ∈ (r >>= f) cs ↔ ∃ a rest, (a, rest) ∈ r cs ∧ way ∈ f a rest := by
  simp only [bind_ways, List.mem_flatMap, Prod.exists]

theorem isPrefixOf?_append (s cs : List Char) : s.isPrefixOf? (s ++ cs) = some cs := by
  induction s with
  | nil => cases cs <;> rfl
  | cons c s ih => simp [List.isPrefixOf?, ih]

theorem eq_append_of_isPrefixOf? {s cs rest : List Char} (h : s.isPrefixOf? cs = some rest) :
    cs = s ++ rest := by
  induction s generalizing cs with
  | nil =>
      cases cs <;> simpa [List.isPrefixOf?] using h
  | cons c s ih =>
      cases cs with
      | nil => cases h
      | cons d cs =>
          simp only [List.isPrefixOf?] at h
          split at h
          · rename_i hcd
            rw [ih h, beq_iff_eq.mp hcd]
            rfl
          · cases h

@[simp] theorem text_append (s cs : List Char) : text s (s ++ cs) = [(s, cs)] := by
  simp only [text, isPrefixOf?_append]

theorem mem_text {s cs : List Char} {way : List Char × List Char} :
    way ∈ text s cs ↔ way.1 = s ∧ cs = s ++ way.2 := by
  constructor
  · intro h
    simp only [text] at h
    split at h
    · rename_i rest hrest
      rw [List.mem_singleton.mp h]
      exact ⟨rfl, eq_append_of_isPrefixOf? hrest⟩
    · cases h
  · rintro ⟨rfl, rfl⟩
    rw [text_append]
    exact List.mem_singleton_self _

/-- A text that stands for itself fits in one way or in none. -/
theorem text_eq_nil_iff {s cs : List Char} : text s cs = [] ↔ ¬ s <+: cs := by
  constructor
  · rintro h ⟨rest, rfl⟩
    rw [text_append] at h
    cases h
  · intro h
    refine List.eq_nil_iff_forall_not_mem.mpr fun way hway => h ?_
    exact ⟨way.2, (mem_text.mp hway).2.symm⟩

theorem mem_char {p : Char → Bool} {cs : List Char} {way : Char × List Char} :
    way ∈ char p cs ↔ p way.1 = true ∧ cs = way.1 :: way.2 := by
  cases cs with
  | nil => simp [char]
  | cons c cs =>
      simp only [char]
      split
      · rename_i hc
        rw [List.mem_singleton]
        constructor
        · rintro rfl
          exact ⟨hc, rfl⟩
        · rintro ⟨-, heq⟩
          cases heq
          rfl
      · rename_i hc
        constructor
        · intro h
          cases h
        · rintro ⟨hp, heq⟩
          cases heq
          exact absurd hp hc

theorem mem_fronts {p : Char → Bool} {cs : List Char} {way : List Char × List Char} :
    way ∈ fronts p cs ↔ cs = way.1 ++ way.2 ∧ ∀ c ∈ way.1, p c = true := by
  induction cs generalizing way with
  | nil =>
      rcases way with ⟨a, b⟩
      simp only [fronts, List.mem_singleton, Prod.mk.injEq, List.nil_eq, List.append_eq_nil_iff]
      constructor
      · rintro ⟨rfl, rfl⟩
        exact ⟨⟨rfl, rfl⟩, fun c hc => absurd hc List.not_mem_nil⟩
      · exact fun h => h.1
  | cons c cs ih =>
      rcases way with ⟨_ | ⟨d, a⟩, b⟩
      · simp only [fronts, List.mem_cons, List.nil_append]
        constructor
        · rintro (h | h)
          · exact ⟨((Prod.mk.injEq _ _ _ _).mp h).2.symm, fun c hc => absurd hc List.not_mem_nil⟩
          · split at h
            · obtain ⟨way, -, heq⟩ := List.mem_map.mp h
              cases heq
            · cases h
        · rintro ⟨rfl, -⟩
          exact .inl rfl
      -- a front that takes the first character is a front of the others behind it
      · rw [List.forall_mem_cons]
        simp only [fronts, List.mem_cons, Prod.mk.injEq, reduceCtorEq, false_and, false_or,
          List.cons_append, List.cons.injEq]
        constructor
        · intro h
          split at h
          · rename_i hc
            obtain ⟨way, hway, heq⟩ := List.mem_map.mp h
            cases heq
            obtain ⟨heq, hall⟩ := ih.mp hway
            exact ⟨⟨rfl, heq⟩, hc, hall⟩
          · cases h
        · rintro ⟨⟨rfl, rfl⟩, hc, hall⟩
          rw [if_pos hc]
          exact List.mem_map.mpr ⟨(a, b), ih.mpr ⟨rfl, hall⟩, rfl⟩

theorem mem_atLeast {lo : Nat} {p : Char → Bool} {cs : List Char} {way : List Char × List Char} :
    way ∈ atLeast lo p cs ↔
      cs = way.1 ++ way.2 ∧ (∀ c ∈ way.1, p c = true) ∧ lo ≤ way.1.length := by
  simp only [atLeast, List.mem_filter, List.mem_reverse, mem_fronts, decide_eq_true_eq, and_assoc]

/-- `$` fits at the end and before a line break there. -/
theorem mem_stop {cs : List Char} {way : Unit × List Char} :
    way ∈ stop cs ↔ (cs = [] ∨ cs = ['\n']) ∧ way.2 = cs := by
  rcases way with ⟨⟨⟩, rest⟩
  by_cases hnil : cs = []
  · simp [hnil, stop]
  · by_cases hbreak : cs = ['\n']
    · simp [hbreak, stop]
    · have hways : stop cs = [] := stop.eq_3 cs hnil hbreak
      simp [hways, hnil, hbreak]

/-- A text cut within its front. -/
theorem exists_of_append_eq_append {a b cs rest : List α} (h : a ++ cs = b ++ rest)
    (hb : b.length < a.length) : ∃ d ds, a = b ++ d :: ds ∧ rest = d :: (ds ++ cs) := by
  rcases List.append_eq_append_iff.mp h with ⟨ds, rfl, -⟩ | ⟨ds, rfl, rfl⟩
  · rw [List.length_append] at hb
    omega
  · cases ds with
    | nil =>
        rw [List.append_nil] at hb
        exact absurd hb (Nat.lt_irrefl _)
    | cons d ds => exact ⟨d, ds, rfl, rfl⟩

/-! ## The first way -/

theorem first_eq_none_iff {r : Regex α} {cs : List Char} : first r cs = none ↔ r cs = [] := by
  simp [first]

theorem mem_of_first {r : Regex α} {cs : List Char} {x : α} (h : first r cs = some x) :
    ∃ rest, (x, rest) ∈ r cs := by
  obtain ⟨way, hway, rfl⟩ := Option.map_eq_some_iff.mp h
  exact ⟨way.2, List.mem_of_mem_head? hway⟩

theorem ne_nil_of_first {r : Regex α} {cs : List Char} {x : α} (h : first r cs = some x) :
    r cs ≠ [] := by
  intro hnil
  rw [first_eq_none_iff.mpr hnil] at h
  cases h

/-- A pattern that only renames what it captured. -/
theorem first_bind_pure (r : Regex α) (f : α → β) (cs : List Char) :
    first (r >>= fun a => Pure.pure (f a)) cs = (first r cs).map f := by
  rw [first, bind_ways]
  cases h : r cs with
  | nil => rw [first_eq_none_iff.mpr h]; rfl
  | cons way ways => rw [first, h]; rfl

theorem text_bind_eq_nil {s cs : List Char} {f : List Char → Regex β} (h : ¬ s <+: cs) :
    (text s >>= f) cs = [] := by
  rw [bind_ways, text_eq_nil_iff.mpr h, List.flatMap_nil]

theorem first_text_bind (s : List Char) (f : List Char → Regex β) (cs : List Char) :
    first (text s >>= f) (s ++ cs) = first (f s) cs := by
  rw [first, bind_ways, text_append, List.flatMap_singleton]
  rfl

/-- The rest of a pattern fits behind no shorter front. -/
theorem first_lazy_bind {p : Char → Bool} {f : List Char → Regex β} {a cs : List Char}
    (ha : ∀ c ∈ a, p c = true)
    (hbefore : ∀ b rest, b.length < a.length → a ++ cs = b ++ rest → f b rest = [])
    (hfits : f a cs ≠ []) : first (lazy p >>= f) (a ++ cs) = first (f a) cs := by
  induction a generalizing f with
  | nil =>
      have hways : (lazy p >>= f) ([] ++ cs) =
          f [] cs ++ ((lazy p) cs).tail.flatMap fun way => f way.1 way.2 := by
        rw [bind_ways]
        cases cs <;> rfl
      rw [first, first, hways, List.head?_append_of_ne_nil _ hfits]
  | cons c a ih =>
      have hc : p c = true := ha c (List.mem_cons_self ..)
      have hnil : f [] (c :: a ++ cs) = [] := hbefore [] _ (Nat.succ_pos _) rfl
      have hways : (lazy p >>= f) (c :: a ++ cs) =
          (lazy p >>= fun b => f (c :: b)) (a ++ cs) := by
        rw [bind_ways, bind_ways, lazy, List.cons_append, fronts, if_pos hc, List.flatMap_cons,
          List.flatMap_map]
        rw [List.cons_append] at hnil
        rw [hnil, List.nil_append]
      have hrest := ih (f := fun b => f (c :: b)) (fun d hd => ha d (List.mem_cons_of_mem _ hd))
        (fun b rest hb heq => hbefore (c :: b) rest (Nat.succ_lt_succ hb)
          (by rw [List.cons_append, heq, List.cons_append])) hfits
      rw [first, hways]
      exact hrest

/-- The front at which a lazy repetition stops is the shortest the rest can follow. -/
theorem exists_of_first_lazy_bind {p : Char → Bool} {f : List Char → Regex β} {cs : List Char}
    {x : β} (h : first (lazy p >>= f) cs = some x) :
    ∃ a rest, cs = a ++ rest ∧ (∀ c ∈ a, p c = true) ∧ first (f a) rest = some x ∧
      ∀ b rest', b.length < a.length → cs = b ++ rest' → f b rest' = [] := by
  induction cs generalizing f with
  | nil =>
      have hways : (lazy p >>= f) [] = f [] [] := by
        rw [bind_ways, lazy, fronts, List.flatMap_singleton]
      rw [first, hways] at h
      exact ⟨[], [], rfl, fun c hc => absurd hc List.not_mem_nil, h,
        fun b _ hb _ => absurd hb (Nat.not_lt_zero _)⟩
  | cons c cs ih =>
      have hways : (lazy p >>= f) (c :: cs) = f [] (c :: cs) ++
          if p c then (lazy p >>= fun b => f (c :: b)) cs else [] := by
        rw [bind_ways, lazy, fronts, List.flatMap_cons]
        split
        · rw [List.flatMap_map]
          rfl
        · rfl
      rw [first, hways] at h
      -- the empty front is tried first
      by_cases hnil : f [] (c :: cs) = []
      · rw [hnil, List.nil_append] at h
        by_cases hc : p c = true
        · rw [if_pos hc] at h
          obtain ⟨a, rest, heq, ha, hfirst, hbefore⟩ := ih h
          refine ⟨c :: a, rest, by rw [heq]; rfl, ?_, hfirst, ?_⟩
          · exact List.forall_mem_cons.mpr ⟨hc, ha⟩
          · intro b rest' hb hsplit
            cases b with
            | nil =>
                rw [List.nil_append] at hsplit
                rw [← hsplit]
                exact hnil
            | cons d b =>
                rw [List.cons_append] at hsplit
                obtain ⟨hd, hsplit⟩ := List.cons.inj hsplit
                rw [← hd]
                exact hbefore b rest' (Nat.lt_of_succ_lt_succ hb) hsplit
        · rw [if_neg hc] at h
          cases h
      · rw [List.head?_append_of_ne_nil _ hnil] at h
        exact ⟨[], c :: cs, rfl, fun d hd => absurd hd List.not_mem_nil, h,
          fun b _ hb _ => absurd hb (Nat.not_lt_zero _)⟩

/-- The longest front comes last. -/
theorem exists_fronts_append {p : Char → Bool} {a cs : List Char} (ha : ∀ c ∈ a, p c = true)
    (hcs : ∀ c ∈ cs.head?, p c = false) : ∃ ways, fronts p (a ++ cs) = ways ++ [(a, cs)] := by
  induction a with
  | nil =>
      refine ⟨[], ?_⟩
      cases cs with
      | nil => rfl
      | cons c cs =>
          have hc : p c = false := hcs c rfl
          rw [List.nil_append, fronts, hc]
          rfl
  | cons c a ih =>
      obtain ⟨hc, ha⟩ := List.forall_mem_cons.mp ha
      obtain ⟨ways, hways⟩ := ih ha
      refine ⟨([], c :: (a ++ cs)) :: ways.map fun way => (c :: way.1, way.2), ?_⟩
      rw [List.cons_append, fronts, if_pos hc, hways, List.map_append]
      rfl

/-- A greedy repetition takes the longest front, if the rest can follow it. -/
theorem first_atLeast_bind {lo : Nat} {p : Char → Bool} {f : List Char → Regex β}
    {a cs : List Char} (ha : ∀ c ∈ a, p c = true) (hcs : ∀ c ∈ cs.head?, p c = false)
    (hlo : lo ≤ a.length) (hfits : f a cs ≠ []) :
    first (atLeast lo p >>= f) (a ++ cs) = first (f a) cs := by
  obtain ⟨ways, hways⟩ := exists_fronts_append ha hcs
  have hlongest : atLeast lo p (a ++ cs) =
      (a, cs) :: ways.reverse.filter (fun way => decide (lo ≤ way.1.length)) := by
    rw [atLeast, hways, List.reverse_append, List.reverse_singleton, List.singleton_append]
    exact List.filter_cons_of_pos (decide_eq_true hlo)
  rw [first, first, bind_ways, hlongest, List.flatMap_cons,
    List.head?_append_of_ne_nil _ hfits]

end Regex

end Tfplenum.Lib
