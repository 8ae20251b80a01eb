/-
  Tfplenum.Lib.Pattern

  Texts matched against anchored patterns.  `$` of a regular expression stands
  at the end of the text and also before one final newline, so a pattern
  `^...$` accepts a text exactly when its middle accepts the text or the text
  less that newline (`anchored`).  The patterns here are those of one first
  character followed by a bounded number of characters of a class (`word`), and
  groups of hexadecimal pairs.

  The labels of a dotted name are what `split(".")` cuts it into; only the last
  one is used.
-/

import Mathlib.Data.List.Basic
import Mathlib.Data.List.DropRight

namespace Tfplenum.Lib.Pattern

/-! ## Anchors -/

/-- The text less one final newline, where it has one. -/
def chomp (cs : List Char) : List Char :=
  if cs.getLast? = some '\n' then cs.dropLast else cs

/-- `^p$`, for a pattern `p` of characters other than the newline. -/
def anchored (p : List Char → Bool) (cs : List Char) : Bool :=
  p (chomp cs)

@[simp] theorem chomp_concat_newline (cs : List Char) : chomp (cs ++ ['\n']) = cs := by
  simp [chomp]

/-- A text is its chomped text, with or without a newline after it. -/
theorem chomp_cases (cs : List Char) : cs = chomp cs ∨ cs = chomp cs ++ ['\n'] := by
  unfold chomp
  split
  · rename_i h
    right
    exact (List.dropLast_append_getLast? '\n' h).symm
  · exact .inl rfl

/-- Only the end of a text is chomped. -/
theorem chomp_append {cs ds : List Char} (h : ds ≠ []) : chomp (cs ++ ds) = cs ++ chomp ds := by
  have hlast : (cs ++ ds).getLast? = ds.getLast? := by
    rw [List.getLast?_append_of_ne_nil _ h]
  unfold chomp
  rw [hlast]
  split
  · exact List.dropLast_append_of_ne_nil h
  · rfl

/-! ## Words -/

/-- `[first]([rest]){lo,hi}` -/
def word (first rest : Char → Bool) (lo hi : Nat) : List Char → Bool
  | [] => false
  | c :: cs => first c && cs.all rest && decide (lo ≤ cs.length) && decide (cs.length ≤ hi)

theorem word_cons_iff {first rest : Char → Bool} {lo hi : Nat} {c : Char} {cs : List Char} :
    word first rest lo hi (c :: cs) = true ↔
      first c = true ∧ (∀ d ∈ cs, rest d = true) ∧ lo ≤ cs.length ∧ cs.length ≤ hi := by
  simp [word, and_assoc]

/-- A word is not empty. -/
theorem exists_cons_of_word {first rest : Char → Bool} {lo hi : Nat} {cs : List Char}
    (h : word first rest lo hi cs = true) : ∃ c ds, cs = c :: ds := by
  cases cs with
  | nil => cases h
  | cons c ds => exact ⟨c, ds, rfl⟩

/-- Every character of a word is one its classes admit. -/
theorem forall_of_word {first rest p : Char → Bool} {lo hi : Nat} {cs : List Char}
    (h : word first rest lo hi cs = true) (hfirst : ∀ c, first c = true → p c = true)
    (hrest : ∀ c, rest c = true → p c = true) : ∀ c ∈ cs, p c = true := by
  obtain ⟨c, ds, rfl⟩ := exists_cons_of_word h
  obtain ⟨hc, hds, -, -⟩ := word_cons_iff.mp h
  intro d hd
  rcases List.mem_cons.mp hd with rfl | hd
  · exact hfirst d hc
  · exact hrest d (hds d hd)

/-! ## Hexadecimal pairs -/

/-- `[0-9a-fA-F]` -/
def isHex (c : Char) : Bool :=
  ('0' ≤ c && c ≤ '9') || ('a' ≤ c && c ≤ 'f') || ('A' ≤ c && c ≤ 'F')

/-- `([0-9a-fA-F]{2}[:]){n}([0-9a-fA-F]{2})` -/
def hexPairs : Nat → List Char → Bool
  | 0, [a, b] => isHex a && isHex b
  | n + 1, a :: b :: ':' :: cs => isHex a && isHex b && hexPairs n cs
  | _, _ => false

/-! ## Labels -/

/-- `value.split(".")[-1]` -/
def lastLabel (cs : List Char) : List Char :=
  cs.rtakeWhile (· ≠ '.')

theorem lastLabel_append {cs ds : List Char} (h : '.' ∉ ds) : lastLabel (cs ++ '.' :: ds) = ds := by
  have hds : ∀ c ∈ ds.reverse, (decide (c ≠ '.')) = true := by
    intro c hc
    have hne : c ≠ '.' := fun hcd => h (hcd ▸ List.mem_reverse.mp hc)
    simpa using hne
  rw [lastLabel, List.rtakeWhile, List.reverse_append, List.reverse_cons, List.append_assoc,
    List.takeWhile_append_of_pos hds]
  simp

/-- `value.endswith(suffix)` -/
def endsWith (value suffix : List Char) : Bool :=
  suffix.isSuffixOf value

theorem endsWith_iff {value suffix : List Char} : endsWith value suffix = true ↔ suffix <:+ value :=
  List.isSuffixOf_iff_suffix

@[simp] theorem endsWith_append (cs suffix : List Char) : endsWith (cs ++ suffix) suffix = true :=
  endsWith_iff.mpr (List.suffix_append cs suffix)

end Tfplenum.Lib.Pattern
