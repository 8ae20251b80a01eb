/-
  Tfplenum.Lib.WordPattern

  Patterns that fit finitely many words, and what they become behind `^` and before a
  `$` that fits the end of a text only: a test whether the text is one of the words.

  Where the words are the numerals of some numbers, a digit behind a pattern multiplies
  the numbers by ten and adds the digit (`Numerals.append`).
-/

import Mathlib.Data.Nat.Digits.Defs
import Tfplenum.Lib.Regex

namespace Tfplenum.Lib

namespace Regex

/-! ## Patterns -/

/-- `(r|r')` -/
def either {α : Type} (r r' : Regex α) : Regex α := fun cs => r cs ++ r' cs

/-- `[chars]` -/
def oneChar (chars : List Char) : Regex (List Char) := do
  let c ← char fun c => c ∈ chars
  return [c]

/-- `[lo-hi]` for two digits -/
def digitIn (lo hi : Nat) : Regex (List Char) :=
  oneChar ((List.range' lo (hi + 1 - lo)).map Nat.digitChar)

/-- `rr'` -/
def append (r r' : Regex (List Char)) : Regex (List Char) := do
  let w ← r
  let w' ← r'
  return w ++ w'

/-- `r?` -/
def optional (r : Regex (List Char)) : Regex (List Char) := either r (pure [])

/-- `r{n}` -/
def times : Nat → Regex (List Char) → Regex (List Char)
  | 0, _ => pure []
  | n + 1, r => append r (times n r)

/-- `$` of a pattern without flags in JavaScript -/
def endOfText : Regex Unit
  | [] => [((), [])]
  | _ :: _ => []

/-- `new RegExp("^r$").test(text)` -/
def test (r : Regex (List Char)) (text : List Char) : Bool :=
  !((r >>= fun _ => endOfText) text).isEmpty

/-! ## Words -/

/-- The ways of the pattern are the words that the text begins with. -/
def Denotes (r : Regex (List Char)) (words : Set (List Char)) : Prop :=
  ∀ cs way, way ∈ r cs ↔ way.1 ∈ words ∧ cs = way.1 ++ way.2

section Words

variable {r r' : Regex (List Char)} {words words' : Set (List Char)}

theorem denotes_empty : Denotes (pure []) {[]} := by
  intro cs way
  rw [pure, List.mem_singleton, Set.mem_singleton_iff, Prod.ext_iff]
  apply and_congr_right
  intro hempty
  rw [hempty, List.nil_append, eq_comm]

theorem denotes_text (s : List Char) : Denotes (text s) {s} := by
  intro cs way
  rw [mem_text, Set.mem_singleton_iff]
  apply and_congr_right
  intro hs
  rw [hs]

theorem denotes_oneChar (chars : List Char) :
    Denotes (oneChar chars) {w | ∃ c ∈ chars, w = [c]} := by
  rintro cs ⟨w, rest⟩
  simp only [oneChar, mem_bind, mem_char, pure_ways, List.mem_singleton, Prod.mk.injEq,
    decide_eq_true_eq, Set.mem_ofPred_eq]
  constructor
  · rintro ⟨c, rest', ⟨hc, rfl⟩, rfl, rfl⟩
    exact ⟨⟨c, hc, rfl⟩, rfl⟩
  · rintro ⟨⟨c, hc, rfl⟩, rfl⟩
    exact ⟨c, rest, ⟨hc, rfl⟩, rfl, rfl⟩

theorem Denotes.either (h : Denotes r words) (h' : Denotes r' words') :
    Denotes (either r r') (words ∪ words') := by
  intro cs way
  rw [Regex.either, List.mem_append, h cs way, h' cs way, Set.mem_union, or_and_right]

theorem Denotes.append (h : Denotes r words) (h' : Denotes r' words') :
    Denotes (append r r') {w | ∃ u ∈ words, ∃ v ∈ words', w = u ++ v} := by
  rintro cs ⟨w, rest⟩
  simp only [Regex.append, mem_bind, pure_ways, List.mem_singleton, Prod.mk.injEq, h _ (_, _),
    h' _ (_, _), Set.mem_ofPred_eq]
  constructor
  · rintro ⟨u, mid, ⟨hu, rfl⟩, v, rest', ⟨hv, rfl⟩, rfl, rfl⟩
    exact ⟨⟨u, hu, v, hv, rfl⟩, (List.append_assoc u v rest).symm⟩
  · rintro ⟨⟨u, hu, v, hv, rfl⟩, rfl⟩
    exact ⟨u, v ++ rest, ⟨hu, List.append_assoc u v rest⟩, v, rest, ⟨hv, rfl⟩, rfl, rfl⟩

theorem Denotes.optional (h : Denotes r words) : Denotes (optional r) (words ∪ {[]}) :=
  h.either denotes_empty

/-- Between the ends of the text, only a whole word fits. -/
theorem Denotes.test_iff (h : Denotes r words) {text : List Char} :
    test r text = true ↔ text ∈ words := by
  have hend : ∀ rest : List Char, endOfText rest ≠ [] ↔ rest = [] := by
    intro rest
    cases rest <;> simp [endOfText]
  rw [test, Bool.not_eq_true', List.isEmpty_eq_false_iff, bind_ways, ne_eq,
    List.flatMap_eq_nil_iff]
  push Not
  simp only [hend, h text]
  constructor
  · rintro ⟨way, ⟨hmem, hsplit⟩, hrest⟩
    rw [hrest, List.append_nil] at hsplit
    rw [hsplit]
    exact hmem
  · intro hmem
    exact ⟨(text, []), ⟨hmem, (List.append_nil text).symm⟩, rfl⟩

end Words

/-! ## Numbers -/

/-- The words are the numerals, without leading zeros, of the numbers that satisfy `p`. -/
def Numerals (r : Regex (List Char)) (p : Nat → Prop) : Prop :=
  Denotes r {w | ∃ n, p n ∧ w = Nat.toDigits 10 n}

section Numbers

variable {r r' : Regex (List Char)} {p q : Nat → Prop}

theorem Numerals.congr (h : Numerals r p) (hiff : ∀ n, p n ↔ q n) : Numerals r q := by
  have hsame : p = q := funext fun n => propext (hiff n)
  rw [← hsame]
  exact h

theorem numerals_text (n : Nat) : Numerals (text (Nat.toDigits 10 n)) (fun m => m = n) := by
  intro cs way
  rw [denotes_text]
  simp

theorem numerals_digitIn {lo hi : Nat} (hhi : hi < 10) :
    Numerals (digitIn lo hi) (fun n => lo ≤ n ∧ n ≤ hi) := by
  intro cs way
  rw [digitIn, denotes_oneChar]
  apply and_congr_left'
  simp only [List.mem_map, List.mem_range'_1, Set.mem_ofPred_eq]
  constructor
  · rintro ⟨c, ⟨n, hn, rfl⟩, hway⟩
    refine ⟨n, by omega, ?_⟩
    rw [hway, Nat.toDigits_of_lt_base (by omega)]
  · rintro ⟨n, hn, hway⟩
    refine ⟨n.digitChar, ⟨n, by omega, rfl⟩, ?_⟩
    rw [hway, Nat.toDigits_of_lt_base (by omega)]

theorem Numerals.either (h : Numerals r p) (h' : Numerals r' q) :
    Numerals (either r r') (fun n => p n ∨ q n) := by
  intro cs way
  rw [Denotes.either h h' cs way]
  apply and_congr_left'
  simp only [Set.mem_union, Set.mem_ofPred_eq, or_and_right, exists_or]

/-- A digit behind a number that is not zero. -/
theorem Numerals.append (h : Numerals r p) (hpos : ∀ n, p n → 0 < n) (h' : Numerals r' q)
    (hdigit : ∀ n, q n → n < 10) :
    Numerals (append r r') (fun n => p (n / 10) ∧ q (n % 10)) := by
  intro cs way
  rw [Denotes.append h h' cs way]
  apply and_congr_left'
  simp only [Set.mem_ofPred_eq]
  constructor
  · rintro ⟨_, ⟨m, hm, rfl⟩, _, ⟨d, hd, rfl⟩, hway⟩
    have hlt : d < 10 := hdigit d hd
    rw [Nat.toDigits_append_toDigits (by decide) (hpos m hm) hlt] at hway
    refine ⟨10 * m + d, ⟨?_, ?_⟩, hway⟩
    · have hdiv : (10 * m + d) / 10 = m := by omega
      rw [hdiv]
      exact hm
    · have hmod : (10 * m + d) % 10 = d := by omega
      rw [hmod]
      exact hd
  · rintro ⟨n, ⟨hm, hd⟩, hway⟩
    refine ⟨_, ⟨n / 10, hm, rfl⟩, _, ⟨n % 10, hd, rfl⟩, ?_⟩
    rw [hway, Nat.toDigits_append_toDigits (by decide) (hpos _ hm) (hdigit _ hd), Nat.div_add_mod]

theorem Numerals.append_digitIn {lo hi : Nat} (h : Numerals r p) (hpos : ∀ n, p n → 0 < n)
    (hhi : hi < 10) :
    Numerals (Regex.append r (digitIn lo hi))
      (fun n => p (n / 10) ∧ lo ≤ n % 10 ∧ n % 10 ≤ hi) := by
  apply h.append hpos (numerals_digitIn hhi)
  intro n hn
  omega

/-- A digit that may stand behind another number. -/
theorem Numerals.optional_append (h : Numerals r p) (hpos : ∀ n, p n → 0 < n)
    (h' : Numerals r' q) (hdigit : ∀ n, q n → n < 10) :
    Numerals (Regex.append (Regex.optional r) r') (fun n => p (n / 10) ∧ q (n % 10) ∨ q n) := by
  intro cs way
  -- an optional pattern before another is that of both, or the other alone
  have hboth := (h.append hpos h' hdigit).either h' cs way
  rw [Regex.either, List.mem_append, Denotes.append h h' cs way, h' cs way] at hboth
  rw [← hboth, Denotes.append (Denotes.optional h) h' cs way, ← or_and_right]
  apply and_congr_left'
  constructor
  · rintro ⟨u, hu | rfl, v, hv, hway⟩
    · exact .inl ⟨u, hu, v, hv, hway⟩
    · rw [List.nil_append] at hway
      exact .inr (hway ▸ hv)
  · rintro (⟨u, hu, v, hv, hway⟩ | hv)
    · exact ⟨u, .inl hu, v, hv, hway⟩
    · exact ⟨[], .inr rfl, way.1, hv, rfl⟩

end Numbers

end Regex

end Tfplenum.Lib
