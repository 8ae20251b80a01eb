/-
  Tfplenum.Lib.PythonInt

  The texts that Python's `int` reads: blanks at both ends, a sign, digits of any
  script, and single underscores between them.  What is not ASCII is first replaced by
  the ASCII character with the same meaning (`DecimalTable.toAscii`), and the rest is
  read from ASCII (`ofAscii_eq_some_iff`).
-/

import Mathlib.Data.List.DropRight
import Tfplenum.Lib.IPv4
import Tfplenum.Lib.Unicode

namespace Tfplenum.Lib

namespace PythonInt

/-! ## ASCII -/

/-- `Py_ISSPACE` -/
def isBlank (c : Char) : Bool :=
  c ∈ [' ', '\t', '\n', '\x0b', '\x0c', '\r']

/-- Digits, with single underscores between them -/
def magnitude (cs : List Char) : Option Nat :=
  let groups := cs.splitOn '_'
  if [] ∈ groups then none else IPv4Address.digitsValue groups.flatten

/-- A sign, and what is behind it -/
def signed : List Char → Option Int
  | '+' :: cs => (magnitude cs).map Int.ofNat
  | '-' :: cs => (magnitude cs).map fun n : Nat => -(n : Int)
  | cs => (magnitude cs).map Int.ofNat

/-- `int(text)`, for text in ASCII -/
def ofAscii (text : List Char) : Option Int :=
  signed ((text.dropWhile isBlank).rdropWhile isBlank)

/-- The text is groups of digits with an underscore between them. -/
def Grouped (text : List Char) (n : Nat) : Prop :=
  ∃ groups : List (List Char), groups ≠ [] ∧ [] ∉ groups ∧
    IPv4Address.digitsValue groups.flatten = some n ∧ text = ['_'].intercalate groups

/-- A sign may stand before the digits. -/
inductive Signed : List Char → Int → Prop
  | bare {text : List Char} {n : Nat} (h : Grouped text n) : Signed text n
  | plus {text : List Char} {n : Nat} (h : Grouped text n) : Signed ('+' :: text) n
  | minus {text : List Char} {n : Nat} (h : Grouped text n) : Signed ('-' :: text) (-(n : Int))

/-- Blanks may stand before and behind. -/
def Numeral (text : List Char) (n : Int) : Prop :=
  ∃ front core back, text = front ++ core ++ back ∧ (∀ c ∈ front, isBlank c = true) ∧
    (∀ c ∈ back, isBlank c = true) ∧ Signed core n

theorem isDigit_of_digitsValue {cs : List Char} {n : Nat}
    (h : IPv4Address.digitsValue cs = some n) : ∀ c ∈ cs, c.isDigit = true := by
  induction cs generalizing n with
  | nil => exact fun c hc => absurd hc List.not_mem_nil
  | cons d cs ih =>
      rw [IPv4Address.digitsValue] at h
      split at h
      case isFalse => cases h
      case isTrue hd =>
        obtain ⟨m, hm, -⟩ := Option.map_eq_some_iff.mp h
        intro c hc
        rcases List.mem_cons.mp hc with rfl | hc
        · simpa [Char.isDigit, Char.le_def] using hd
        · exact ih hm c hc

theorem digitsValue_of_isDigit {cs : List Char} (h : ∀ c ∈ cs, c.isDigit = true) :
    IPv4Address.digitsValue cs = some (Nat.ofDigitChars 10 cs 0) := by
  induction cs with
  | nil => rfl
  | cons c cs ih =>
      have hrest := ih fun d hd => h d (List.mem_cons_of_mem _ hd)
      have hc : '0' ≤ c ∧ c ≤ '9' := by
        simpa [Char.isDigit, Char.le_def] using h c (List.mem_cons_self ..)
      have hvalue : Nat.ofDigitChars 10 cs (10 * 0 + (c.toNat - '0'.toNat)) =
          10 ^ cs.length * (10 * 0 + (c.toNat - '0'.toNat)) + Nat.ofDigitChars 10 cs 0 :=
        Nat.ofDigitChars_eq_ofDigitChars_zero
      rw [IPv4Address.digitsValue, if_pos hc, hrest, Nat.ofDigitChars_cons, hvalue, Nat.mul_zero,
        Nat.zero_add, Nat.mul_comm]
      rfl

theorem digitsValue_toDigits (n : Nat) : IPv4Address.digitsValue (Nat.toDigits 10 n) = some n := by
  rw [digitsValue_of_isDigit fun _ => Nat.isDigit_of_mem_toDigits (by decide) (by decide),
    Nat.ofDigitChars_ten_toDigits]

/-- So many digits make no greater number. -/
theorem lt_of_digitsValue {cs : List Char} {n : Nat} (h : IPv4Address.digitsValue cs = some n) :
    n < 10 ^ cs.length := by
  induction cs generalizing n with
  | nil =>
      cases h
      exact Nat.one_pos
  | cons c cs ih =>
      rw [IPv4Address.digitsValue] at h
      split at h
      case isFalse => cases h
      case isTrue hc =>
        obtain ⟨m, hm, rfl⟩ := Option.map_eq_some_iff.mp h
        have hlt := ih hm
        have hdigit : c.toNat - '0'.toNat ≤ 9 := Nat.sub_le_sub_right hc.2 _
        have hmul := Nat.mul_le_mul_right (10 ^ cs.length) hdigit
        rw [List.length_cons, Nat.pow_succ]
        omega

theorem magnitude_eq_some_iff {cs : List Char} {n : Nat} :
    magnitude cs = some n ↔ Grouped cs n := by
  rw [magnitude]
  constructor
  · intro h
    split at h
    case isTrue => cases h
    case isFalse hgroups =>
      exact ⟨cs.splitOn '_', List.splitOn_ne_nil '_' cs, hgroups, h,
        (List.intercalate_splitOn '_').symm⟩
  · rintro ⟨groups, hne, hgroups, hvalue, rfl⟩
    have hdigits := isDigit_of_digitsValue hvalue
    have hsplit : (['_'].intercalate groups).splitOn '_' = groups := by
      refine List.splitOn_intercalate '_' (fun group hgroup hmem => ?_) hne
      have hunderscore := hdigits '_' (List.mem_flatten.mpr ⟨group, hgroup, hmem⟩)
      exact absurd hunderscore (by decide)
    rw [hsplit, if_neg hgroups, hvalue]

theorem mem_intercalate {sep c : Char} {groups : List (List Char)}
    (h : c ∈ [sep].intercalate groups) : c = sep ∨ c ∈ groups.flatten := by
  induction groups with
  | nil => exact absurd h List.not_mem_nil
  | cons group groups ih =>
      cases groups with
      | nil =>
          rw [List.intercalate_singleton] at h
          exact .inr (List.mem_flatten.mpr ⟨group, List.mem_cons_self .., h⟩)
      | cons next groups =>
          rw [List.intercalate_cons_cons, List.mem_append, List.mem_append,
            List.mem_singleton] at h
          rw [List.flatten_cons, List.mem_append]
          rcases h with (hgroup | hsep) | hrest
          · exact .inr (.inl hgroup)
          · exact .inl hsep
          · exact (ih hrest).imp_right .inr

theorem mem_intercalate_of_mem {sep c : Char} {groups : List (List Char)}
    (h : c ∈ groups.flatten) : c ∈ [sep].intercalate groups := by
  induction groups with
  | nil => exact absurd h List.not_mem_nil
  | cons group groups ih =>
      rw [List.flatten_cons, List.mem_append] at h
      cases groups with
      | nil =>
          rw [List.intercalate_singleton]
          exact h.resolve_right List.not_mem_nil
      | cons next groups =>
          rw [List.intercalate_cons_cons, List.mem_append, List.mem_append]
          rcases h with hgroup | hrest
          · exact .inl (.inl hgroup)
          · exact .inr (ih hrest)

theorem Grouped.isDigit_or_eq {cs : List Char} {n : Nat} (h : Grouped cs n) :
    ∀ c ∈ cs, c.isDigit = true ∨ c = '_' := by
  obtain ⟨groups, -, -, hvalue, rfl⟩ := h
  intro c hc
  rcases mem_intercalate hc with rfl | hgroup
  · exact .inr rfl
  · exact .inl (isDigit_of_digitsValue hvalue c hgroup)

theorem Grouped.ne_nil {cs : List Char} {n : Nat} (h : Grouped cs n) : cs ≠ [] := by
  obtain ⟨groups, hne, hgroups, -, rfl⟩ := h
  obtain ⟨group, rest, rfl⟩ := List.exists_cons_of_ne_nil hne
  have hgroup : group ≠ [] := by
    rintro rfl
    exact hgroups (List.mem_cons_self ..)
  cases rest with
  | nil =>
      rw [List.intercalate_singleton]
      exact hgroup
  | cons next rest =>
      rw [List.intercalate_cons_cons, List.append_assoc]
      exact List.append_ne_nil_of_left_ne_nil hgroup _

theorem Signed.ne_nil {core : List Char} {n : Int} (h : Signed core n) : core ≠ [] := by
  cases h with
  | bare h => exact h.ne_nil
  | plus h => exact List.cons_ne_nil _ _
  | minus h => exact List.cons_ne_nil _ _

theorem signed_eq_some_iff {core : List Char} {n : Int} : signed core = some n ↔ Signed core n := by
  constructor
  · intro h
    unfold signed at h
    split at h
    all_goals
      obtain ⟨m, hm, rfl⟩ := Option.map_eq_some_iff.mp h
      have hgrouped := magnitude_eq_some_iff.mp hm
    · exact .plus hgrouped
    · exact .minus hgrouped
    · exact .bare hgrouped
  · rintro (⟨hgrouped⟩ | ⟨hgrouped⟩ | ⟨hgrouped⟩)
    · unfold signed
      split
      -- a group does not begin with a sign
      · exact absurd (hgrouped.isDigit_or_eq '+' (List.mem_cons_self ..)) (by decide)
      · exact absurd (hgrouped.isDigit_or_eq '-' (List.mem_cons_self ..)) (by decide)
      · rw [magnitude_eq_some_iff.mpr hgrouped]
        rfl
    · rw [signed, magnitude_eq_some_iff.mpr hgrouped]
      rfl
    · rw [signed, magnitude_eq_some_iff.mpr hgrouped]
      rfl

theorem isBlank_of_isDigit {c : Char} (h : c.isDigit = true) : isBlank c = false := by
  rw [isBlank, decide_eq_false_iff_not]
  intro hmem
  simp only [List.mem_cons, List.not_mem_nil, or_false] at hmem
  rcases hmem with rfl | rfl | rfl | rfl | rfl | rfl <;> exact absurd h (by decide)

/-- What stands between the blanks -/
theorem Signed.isDigit_or_mem {core : List Char} {n : Int} (h : Signed core n) :
    ∀ c ∈ core, c.isDigit = true ∨ c ∈ ['_', '+', '-'] := by
  have hgrouped : ∀ {text : List Char} {m : Nat}, Grouped text m →
      ∀ c ∈ text, c.isDigit = true ∨ c ∈ ['_', '+', '-'] := by
    intro text m h c hc
    rcases h.isDigit_or_eq c hc with hdigit | rfl
    · exact .inl hdigit
    · exact .inr (List.mem_cons_self ..)
  intro c hc
  cases h with
  | bare h => exact hgrouped h c hc
  | plus h =>
      rcases List.mem_cons.mp hc with rfl | hc
      · exact .inr (by decide)
      · exact hgrouped h c hc
  | minus h =>
      rcases List.mem_cons.mp hc with rfl | hc
      · exact .inr (by decide)
      · exact hgrouped h c hc

theorem Signed.isBlank_eq_false {core : List Char} {n : Int} (h : Signed core n) :
    ∀ c ∈ core, isBlank c = false := by
  intro c hc
  rcases h.isDigit_or_mem c hc with hdigit | hmem
  · exact isBlank_of_isDigit hdigit
  · simp only [List.mem_cons, List.not_mem_nil, or_false] at hmem
    rcases hmem with rfl | rfl | rfl <;> rfl

theorem Numeral.isBlank_or {text : List Char} {n : Int} (h : Numeral text n) :
    ∀ c ∈ text, isBlank c = true ∨ c.isDigit = true ∨ c ∈ ['_', '+', '-'] := by
  obtain ⟨front, core, back, rfl, hfront, hback, hcore⟩ := h
  intro c hc
  rcases List.mem_append.mp hc with hc | hc
  · rcases List.mem_append.mp hc with hc | hc
    · exact .inl (hfront c hc)
    · exact .inr (hcore.isDigit_or_mem c hc)
  · exact .inl (hback c hc)

/-- What is between the blanks is left of the text. -/
theorem strip_eq {front core back : List Char} (hfront : ∀ c ∈ front, isBlank c = true)
    (hback : ∀ c ∈ back, isBlank c = true) (hcore : ∀ c ∈ core, isBlank c = false)
    (hne : core ≠ []) :
    ((front ++ core ++ back).dropWhile isBlank).rdropWhile isBlank = core := by
  obtain ⟨c, cs, rfl⟩ := List.exists_cons_of_ne_nil hne
  have hc : ¬isBlank c = true := by simp [hcore c (List.mem_cons_self ..)]
  rw [List.append_assoc, List.dropWhile_append_of_pos hfront, List.cons_append,
    List.dropWhile_cons_of_neg hc, ← List.cons_append, List.rdropWhile, List.reverse_append,
    List.dropWhile_append_of_pos fun d hd => hback d (List.mem_reverse.mp hd),
    List.dropWhile_eq_self_iff.mpr, List.reverse_reverse]
  intro hlt hblank
  have hlast := hcore _ (List.mem_reverse.mp (List.getElem_mem hlt))
  exact absurd (hlast.symm.trans hblank) Bool.false_ne_true

/-- `int` reads the numerals and nothing else. -/
theorem ofAscii_eq_some_iff {text : List Char} {n : Int} :
    ofAscii text = some n ↔ Numeral text n := by
  rw [ofAscii, signed_eq_some_iff]
  constructor
  · intro h
    refine ⟨text.takeWhile isBlank, _, (text.dropWhile isBlank).rtakeWhile isBlank, ?_,
      fun c hc => List.mem_takeWhile_imp hc, fun c hc => List.mem_rtakeWhile_imp hc, h⟩
    rw [List.append_assoc, List.rdropWhile_append_rtakeWhile, List.takeWhile_append_dropWhile]
  · rintro ⟨front, core, back, rfl, hfront, hback, hcore⟩
    rw [strip_eq hfront hback hcore.isBlank_eq_false hcore.ne_nil]
    exact hcore

end PythonInt

/-! ## Other scripts -/

/-- The tables, with the values of the decimal characters -/
structure DecimalTable extends Unicode where
  toDecimal : Char → Option (Fin 10)
  isSome_toDecimal : ∀ c, (toDecimal c).isSome = isDecimal c

namespace DecimalTable

variable (u : DecimalTable)

/-- `_PyUnicode_TransformDecimalAndSpaceToASCII` -/
def toAscii (c : Char) : Char :=
  if c.toNat < 128 then c
  else if u.isSpace c then ' '
  else match u.toDecimal c with
    | some d => Nat.digitChar d
    | none => '?'

/-- `int(text)`, `none` where it raises -/
def int (text : List Char) : Option Int := PythonInt.ofAscii (text.map u.toAscii)

theorem map_toAscii {text : List Char} (h : ∀ c ∈ text, c.toNat < 128) :
    text.map u.toAscii = text := by
  refine (List.map_congr_left fun c hc => ?_).trans (List.map_id text)
  exact if_pos (h c hc)

theorem int_of_ascii {text : List Char} (h : ∀ c ∈ text, c.toNat < 128) :
    u.int text = PythonInt.ofAscii text := by
  rw [int, map_toAscii u h]

theorem int_eq_some_iff {text : List Char} {n : Int} :
    u.int text = some n ↔ PythonInt.Numeral (text.map u.toAscii) n :=
  PythonInt.ofAscii_eq_some_iff

/-- The tables of a Python that knows only ASCII -/
def ascii : DecimalTable where
  toUnicode := Unicode.ascii
  toDecimal c := if c.isDigit then some (Fin.ofNat 10 (c.toNat - '0'.toNat)) else none
  isSome_toDecimal c := by
    change _ = c.isDigit
    split
    case isTrue h => rw [h]; rfl
    case isFalse h => simp [h]

end DecimalTable

end Tfplenum.Lib
