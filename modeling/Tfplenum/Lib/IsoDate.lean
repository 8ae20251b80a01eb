/-
  Tfplenum.Lib.IsoDate

  Points in time as milliseconds since the beginning of 1970, and the text of one as the
  date and time of day in UTC, to the millisecond.  The calendar is the proleptic Gregorian
  one.  Years of more than four digits, and years before 0, are written with a sign and six
  digits.

  No two points in time have the same text (`toISOString_injective`), and the signs apart
  there are only digits, letters and a few marks in it (`mem_toISOString`).
-/

import Mathlib.Tactic.SplitIfs
import Tfplenum.Lib.ReadBack

namespace Tfplenum.Lib.Iso

/-! ## The calendar -/

/-- The first day of a year, counted from the beginning of 1970 -/
def dayFromYear (y : Int) : Int :=
  365 * (y - 1970) + (y - 1969) / 4 - (y - 1901) / 100 + (y - 1601) / 400

/-- The year a day is in.  A year of 146097/400 days is at most a year off. -/
def yearFromDay (day : Int) : Int :=
  let y := 1970 + 400 * day / 146097
  if day < dayFromYear y then y - 1 else if dayFromYear (y + 1) ≤ day then y + 1 else y

theorem yearFromDay_spec (day : Int) :
    dayFromYear (yearFromDay day) ≤ day ∧ day < dayFromYear (yearFromDay day + 1) := by
  generalize hy : 1970 + 400 * day / 146097 = y
  have hbefore : dayFromYear (y - 1) ≤ day := by
    simp only [dayFromYear]
    omega
  have hafter : day < dayFromYear (y + 1 + 1) := by
    simp only [dayFromYear]
    omega
  simp only [yearFromDay, hy]
  split_ifs with hless hmore
  · rw [Int.sub_add_cancel]
    exact ⟨hbefore, hless⟩
  · exact ⟨hmore, hafter⟩
  · omega

def isLeapYear (y : Int) : Bool := y % 4 = 0 && (y % 100 ≠ 0 || y % 400 = 0)

def monthLengths (leap : Bool) : List Nat :=
  [31, if leap then 29 else 28, 31, 30, 31, 30, 31, 31, 30, 31, 30, 31]

/-- The month and the day of it, both from 1, of a day that is counted from 0 -/
def monthAndDay : List Nat → Nat → Nat × Nat
  | [], day => (1, day + 1)
  | length :: lengths, day =>
      if day < length then (1, day + 1)
      else ((monthAndDay lengths (day - length)).1 + 1, (monthAndDay lengths (day - length)).2)

theorem one_le_month (lengths : List Nat) (day : Nat) : 1 ≤ (monthAndDay lengths day).1 := by
  cases lengths with
  | nil => exact Nat.le_refl 1
  | cons length lengths =>
      rw [monthAndDay]
      split
      · exact Nat.le_refl 1
      · exact Nat.le_add_left 1 _

theorem monthAndDay_injective (lengths : List Nat) : Function.Injective (monthAndDay lengths) := by
  intro d d' h
  induction lengths generalizing d d' with
  | nil => exact Nat.succ.inj (Prod.mk.inj h).2
  | cons length lengths ih =>
      have hd := one_le_month lengths (d - length)
      have hd' := one_le_month lengths (d' - length)
      rw [monthAndDay, monthAndDay] at h
      split_ifs at h with h1 h2 h2
      · exact Nat.succ.inj (Prod.mk.inj h).2
      · have hmonth := (Prod.mk.inj h).1
        omega
      · have hmonth := (Prod.mk.inj h).1
        omega
      · have hmonth := Nat.succ.inj (Prod.mk.inj h).1
        have hrest := ih (Prod.ext hmonth (Prod.mk.inj h).2)
        omega

/-- A point in time by the calendar and the clock -/
structure Fields where
  year : Int
  month : Nat
  day : Nat
  hour : Nat
  minute : Nat
  second : Nat
  millisecond : Nat
deriving DecidableEq, Repr

/-- The points in time that a `Date` can be -/
def IsDate (time : Int) : Prop := -8640000000000000 ≤ time ∧ time ≤ 8640000000000000

instance (time : Int) : Decidable (IsDate time) := inferInstanceAs (Decidable (_ ∧ _))

def year (time : Int) : Int := yearFromDay (time / 86400000)

def fields (time : Int) : Fields :=
  let day := time / 86400000
  let ofDay := (time % 86400000).toNat
  let date := monthAndDay (monthLengths (isLeapYear (year time)))
    (day - dayFromYear (year time)).toNat
  ⟨year time, date.1, date.2, ofDay / 3600000, ofDay / 60000 % 60, ofDay / 1000 % 60,
    ofDay % 1000⟩

theorem fields_injective : Function.Injective fields := by
  intro t t' h
  simp only [fields, Fields.mk.injEq] at h
  obtain ⟨hyear, hmonth, hday, hhour, hminute, hsecond, hmilli⟩ := h
  rw [← hyear] at hmonth hday
  have hnat := monthAndDay_injective _ (Prod.ext hmonth hday)
  have hspec := yearFromDay_spec (t / 86400000)
  have hspec' := yearFromDay_spec (t' / 86400000)
  rw [← year] at hspec hspec'
  rw [← hyear] at hspec'
  generalize dayFromYear (year t) = first at hnat hspec hspec'
  omega

/-! ## The text -/

/-- A number with leading zeros -/
def digits (width n : Nat) : List Char :=
  List.replicate (width - (Nat.toDigits 10 n).length) '0' ++ Nat.toDigits 10 n

theorem digits_injective (width : Nat) : Function.Injective (digits width) := by
  have hread : ∀ n, Nat.ofDigitChars 10 (digits width n) 0 = n := by
    intro n
    rw [digits, Nat.ofDigitChars_append, Nat.ofDigitChars_replicate_zero, Nat.mul_zero,
      Nat.ofDigitChars_ten_toDigits]
  intro n n' h
  rw [← hread n, h, hread n']

theorem isDigit_of_mem_digits {width n : Nat} {c : Char} (h : c ∈ digits width n) :
    c.isDigit = true := by
  rcases List.mem_append.mp h with hzero | hdigit
  · rw [(List.mem_replicate.mp hzero).2]
    rfl
  · exact Nat.isDigit_of_mem_toDigits (by decide) (by decide) hdigit

theorem notMem_digits {c : Char} (hc : c.isDigit = false) (width n : Nat) :
    c ∉ digits width n := by
  intro h
  rw [isDigit_of_mem_digits h] at hc
  cases hc

theorem digits_ne_nil (width n : Nat) : digits width n ≠ [] := by
  intro h
  exact Nat.toDigits_ne_nil (List.append_eq_nil_iff.mp h).2

def yearText (y : Int) : List Char :=
  if 0 ≤ y ∧ y ≤ 9999 then digits 4 y.toNat
  else (if y < 0 then '-' else '+') :: digits 6 y.natAbs

def Fields.text (f : Fields) : List Char :=
  yearText f.year ++ '-' :: (digits 2 f.month ++ '-' :: (digits 2 f.day ++ 'T' ::
    (digits 2 f.hour ++ ':' :: (digits 2 f.minute ++ ':' :: (digits 2 f.second ++ '.' ::
      (digits 3 f.millisecond ++ ['Z']))))))

def toISOString (time : Int) : List Char := (fields time).text

example : toISOString 0 = "1970-01-01T00:00:00.000Z".toList := by decide
example : toISOString 951782400001 = "2000-02-29T00:00:00.001Z".toList := by decide
example : toISOString (-1) = "1969-12-31T23:59:59.999Z".toList := by decide

/-- A number that is followed by a mark can be told from the text. -/
theorem digits_append_inj {c : Char} (hc : c.isDigit = false) {width n n' : Nat}
    {cs cs' : List Char} (h : digits width n ++ c :: cs = digits width n' ++ c :: cs') :
    n = n' ∧ cs = cs' := by
  obtain ⟨hdigits, hrest⟩ := of_append_cons_eq (notMem_digits hc width n)
    (notMem_digits hc width n') h
  exact ⟨digits_injective width hdigits, hrest⟩

theorem yearText_append_inj {y y' : Int} {cs cs' : List Char}
    (h : yearText y ++ '-' :: cs = yearText y' ++ '-' :: cs') : y = y' ∧ cs = cs' := by
  have hminus : '-'.isDigit = false := by decide
  -- a sign is not a digit
  have hsign : ∀ {width n : Nat} {c : Char} {ds ds' : List Char}, c.isDigit = false →
      digits width n ++ ds ≠ c :: ds' := by
    intro width n c ds ds' hc heq
    obtain ⟨d, rest, hd⟩ := List.exists_cons_of_ne_nil (digits_ne_nil width n)
    rw [hd, List.cons_append, List.cons.injEq] at heq
    have hmem : d ∈ digits width n := hd ▸ List.mem_cons_self
    rw [heq.1] at hmem
    exact notMem_digits hc _ _ hmem
  simp only [yearText] at h
  split_ifs at h with hy hy' hneg' hy' hneg hneg' hneg'
  · obtain ⟨hnat, hrest⟩ := digits_append_inj hminus h
    exact ⟨by omega, hrest⟩
  · exact absurd h (hsign hminus)
  · exact absurd h (hsign (by decide))
  · exact absurd h.symm (hsign hminus)
  · obtain ⟨hnat, hrest⟩ := digits_append_inj hminus (List.cons.inj h).2
    exact ⟨by omega, hrest⟩
  · cases (List.cons.inj h).1
  · exact absurd h.symm (hsign (by decide))
  · cases (List.cons.inj h).1
  · obtain ⟨hnat, hrest⟩ := digits_append_inj hminus (List.cons.inj h).2
    exact ⟨by omega, hrest⟩

theorem Fields.text_injective : Function.Injective Fields.text := by
  intro f f' h
  have hcolon : ':'.isDigit = false := by decide
  obtain ⟨hyear, h⟩ := yearText_append_inj h
  obtain ⟨hmonth, h⟩ := digits_append_inj (by decide) h
  obtain ⟨hday, h⟩ := digits_append_inj (by decide) h
  obtain ⟨hhour, h⟩ := digits_append_inj hcolon h
  obtain ⟨hminute, h⟩ := digits_append_inj hcolon h
  obtain ⟨hsecond, h⟩ := digits_append_inj (by decide) h
  obtain ⟨hmilli, -⟩ := digits_append_inj (by decide) h
  cases f
  cases f'
  simp_all

theorem toISOString_injective : Function.Injective toISOString :=
  Fields.text_injective.comp fields_injective

theorem mem_yearText {y : Int} {c : Char} (h : c ∈ yearText y) :
    c.isDigit = true ∨ c = '-' ∨ c = '+' ∧ 9999 < y := by
  rw [yearText] at h
  split_ifs at h with hy hneg
  · exact .inl (isDigit_of_mem_digits h)
  · rcases List.mem_cons.mp h with rfl | h
    · exact .inr (.inl rfl)
    · exact .inl (isDigit_of_mem_digits h)
  · rcases List.mem_cons.mp h with rfl | h
    · exact .inr (.inr ⟨rfl, by omega⟩)
    · exact .inl (isDigit_of_mem_digits h)

theorem mem_toISOString {time : Int} {c : Char} (h : c ∈ toISOString time) :
    c.isDigit = true ∨ c ∈ ['-', 'T', ':', '.', 'Z'] ∨ c = '+' ∧ 9999 < year time := by
  have hdigits : ∀ {width n : Nat}, c ∈ digits width n → c.isDigit = true :=
    isDigit_of_mem_digits
  have hyear : c ∈ yearText (year time) → _ := mem_yearText
  simp only [toISOString, Fields.text, List.mem_append, List.mem_cons, List.not_mem_nil,
    or_false] at h
  simp only [List.mem_cons, List.not_mem_nil, or_false]
  have hfields : (fields time).year = year time := rfl
  rw [hfields] at h
  grind

/-- The plus sign is the sign of the later years. -/
theorem plus_mem_toISOString_iff {time : Int} : '+' ∈ toISOString time ↔ 9999 < year time := by
  constructor
  · intro h
    rcases mem_toISOString h with hdigit | hmark | ⟨-, hyear⟩
    · cases hdigit
    · exact absurd hmark (by decide)
    · exact hyear
  · intro h
    refine List.mem_append_left _ ?_
    show '+' ∈ yearText (year time)
    rw [yearText, if_neg (by omega), if_neg (by omega)]
    exact List.mem_cons_self

end Tfplenum.Lib.Iso
