/-
  Tfplenum.Frontend.PasswordValidator

  `passwordValidator` of `generic-validators.validator.ts` beside the backend's
  `validate_password_stigs`.

  The page reads the units of a text and the backend its code points, so that they
  count the length and see runs differently; the page sees a run at the end too, which
  the backend does not, and only the backend takes a text for base64
  (`validatorsAgree_iff`).
-/

import Tfplenum.Models.PasswordStigs

namespace Tfplenum

open Lib CodePoint

/-! ## The page -/

/-- What the validator reports -/
structure PasswordErrors where
  password : String
  errorMessage : String
deriving DecidableEq, Repr

/-- A class of a regular expression without the flag for code points -/
def unitBetween (lo hi : Char) (u : UInt16) : Bool := lo.toNat ≤ u.toNat && u.toNat ≤ hi.toNat

/-- `[0-9a-zA-Z]` -/
def isAlnumUnit (u : UInt16) : Bool :=
  unitBetween '0' '9' u || unitBetween 'a' 'z' u || unitBetween 'A' 'Z' u

/-- `consecutive`: the loop goes one past the end, where it reads `undefined`. -/
def GenericValidators.consecutive (password : List UInt16) : Bool :=
  Runs.longRun (password.map some ++ [none])

/-- `passwordValidator`, with the error message of the validator object and the subject of the
    options, if there is one; `none` for `null` and `undefined` -/
def passwordValidator (errorMessage : String) (errorMessageSubject : Option String)
    (value : List UInt16) : Option PasswordErrors :=
  if value = [] then none
  else
    let subject := match errorMessageSubject with
      | some subject => if subject = "" then "The password" else subject
      | none => "The password"
    let error (requirement : String) := some ⟨errorMessage, subject ++ requirement⟩
    if value.length < 15 then error " must be at least 15 characters"
    else if !value.any (unitBetween '0' '9') then error " must have at least 1 digit"
    else if !value.any (unitBetween 'a' 'z') then error " must have at least 1 lowercase letter"
    else if !value.any (unitBetween 'A' 'Z') then error " must have at least 1 uppercase letter"
    else if !value.any (fun u => !isAlnumUnit u) then error " must have at least 1 symbol"
    -- a `Set` of a text has its code points
    else if (codePoints value).dedup.length < 8 then
      error " must have at least 8 unique characters."
    else if GenericValidators.consecutive value then
      error " must not have 3 consecutive characters that are the same"
    else none

/-! ## What it is for -/

/-- Whatever the page's validator is set up with: what it accepts the backend accepts too, and
    what it rejects the backend rejects with a `ValidationError`. -/
structure ValidatorsAgree (value : List UInt16) : Prop where
  accepted : ∀ errorMessage subject, passwordValidator errorMessage subject value = none →
    PyText.validatePasswordStigs (codePoints value) = .ok []
  rejected : ∀ errorMessage subject, passwordValidator errorMessage subject value ≠ none →
    ∃ errors, errors ≠ [] ∧ PyText.validatePasswordStigs (codePoints value) = .ok errors

/-! ## The rules -/

/-- The rules of the page -/
structure KeepsPageRules (value : List UInt16) : Prop where
  length : 15 ≤ value.length
  digit : ∃ u ∈ value, unitBetween '0' '9' u = true
  lower : ∃ u ∈ value, unitBetween 'a' 'z' u = true
  upper : ∃ u ∈ value, unitBetween 'A' 'Z' u = true
  symbol : ∃ u ∈ value, isAlnumUnit u = false
  unique : 8 ≤ (codePoints value).dedup.length
  runs : ∀ u, ¬ [u, u, u] <:+: value

/-- The rules that are the same for the page and for the backend -/
structure KeepsClasses (cs : List Char) : Prop where
  digit : ∃ c ∈ cs, isAsciiDigit c = true
  lower : ∃ c ∈ cs, isAsciiLower c = true
  upper : ∃ c ∈ cs, isAsciiUpper c = true
  symbol : ∃ c ∈ cs, isAsciiAlnum c = false
  unique : 8 ≤ cs.dedup.length

/-- No character of one unit is there three times in a row. -/
def NoUnitRun (cs : List Char) : Prop := ∀ c : Char, c.toNat < 0x10000 → ¬ [c, c, c] <:+: cs

/-- No character is there three times in a row with another one after it. -/
def NoBrokenRun (cs : List Char) : Prop := ∀ a b, b ≠ a → ¬ [a, a, a, b] <:+: cs

theorem consecutive_eq_false_iff {value : List UInt16} :
    GenericValidators.consecutive value = false ↔ ∀ u, ¬ [u, u, u] <:+: value := by
  rw [GenericValidators.consecutive, Bool.eq_false_iff, Ne, Runs.longRun_iff,
    Runs.broken_concat_none_iff, not_exists]

/-- One check of the validator -/
theorem check_eq_none_iff {p : Prop} [Decidable p] {e : PasswordErrors}
    {rest : Option PasswordErrors} : (if p then some e else rest) = none ↔ ¬ p ∧ rest = none := by
  by_cases hp : p
  · simp [hp]
  · simp [hp]

theorem passwordValidator_eq_none_iff {errorMessage : String} {subject : Option String}
    {value : List UInt16} (hvalue : value ≠ []) :
    passwordValidator errorMessage subject value = none ↔ KeepsPageRules value := by
  unfold passwordValidator
  rw [if_neg hvalue]
  simp only [check_eq_none_iff, Nat.not_lt, Bool.not_eq_true', Bool.not_eq_false,
    List.any_eq_true, Bool.not_eq_true, consecutive_eq_false_iff, and_true]
  constructor
  · rintro ⟨hlength, hdigit, hlower, hupper, hsymbol, hunique, hruns⟩
    exact ⟨hlength, hdigit, hlower, hupper, hsymbol, hunique, hruns⟩
  · rintro ⟨hlength, hdigit, hlower, hupper, hsymbol, hunique, hruns⟩
    exact ⟨hlength, hdigit, hlower, hupper, hsymbol, hunique, hruns⟩

/-- A unit is in a range of ASCII if its character is. -/
theorem unitBetween_eq {lo hi c : Char} {u : UInt16} (hhi : hi.toNat < 0xD800)
    (hu : u ∈ units c) : unitBetween lo hi u = (decide (lo ≤ c) && decide (c ≤ hi)) := by
  rw [Bool.eq_iff_iff, unitBetween, Bool.and_eq_true, Bool.and_eq_true, decide_eq_true_iff,
    decide_eq_true_iff, decide_eq_true_iff, decide_eq_true_iff]
  exact unit_between_iff hhi hu

/-- A range of ASCII, over the units of a text -/
theorem any_unitBetween_iff {lo hi : Char} {cs : List Char} (hhi : hi.toNat < 0xD800) :
    (∃ u ∈ cs.flatMap units, unitBetween lo hi u = true) ↔
      ∃ c ∈ cs, (decide (lo ≤ c) && decide (c ≤ hi)) = true := by
  refine exists_unit_iff fun c u hu => ?_
  rw [unitBetween_eq hhi hu]

/-- The other characters, over the units of a text -/
theorem exists_isAlnumUnit_eq_false_iff {cs : List Char} :
    (∃ u ∈ cs.flatMap units, isAlnumUnit u = false) ↔ ∃ c ∈ cs, isAsciiAlnum c = false := by
  refine exists_unit_iff fun c u hu => ?_
  rw [isAlnumUnit, unitBetween_eq (by decide) hu, unitBetween_eq (by decide) hu,
    unitBetween_eq (by decide) hu, isAsciiAlnum, isAsciiDigit, isAsciiLower, isAsciiUpper]

/-- The rules of the page, for a text of characters -/
theorem keepsPageRules_iff {value : List UInt16} {cs : List Char}
    (h : text? (codePoints value) = some cs) :
    KeepsPageRules value ↔ KeepsClasses cs ∧ 15 ≤ value.length ∧ NoUnitRun cs := by
  have hunits := eq_flatMap_units h
  have hunique : (codePoints value).dedup.length = cs.dedup.length := by
    rw [← ofText_of_text? h, length_dedup_ofText]
  have hruns : (∀ u, ¬ [u, u, u] <:+: value) ↔ NoUnitRun cs := by
    rw [← not_exists, hunits, triple_units_iff, NoUnitRun]
    simp only [not_exists, not_and]
  have hdigit := @any_unitBetween_iff '0' '9' cs (by decide)
  have hlower := @any_unitBetween_iff 'a' 'z' cs (by decide)
  have hupper := @any_unitBetween_iff 'A' 'Z' cs (by decide)
  have hsymbol := @exists_isAlnumUnit_eq_false_iff cs
  rw [← hunits] at hdigit hlower hupper hsymbol
  constructor
  · rintro ⟨h15, h1, h2, h3, h4, h8, hno⟩
    rw [hunique] at h8
    exact ⟨⟨hdigit.mp h1, hlower.mp h2, hupper.mp h3, hsymbol.mp h4, h8⟩, h15, hruns.mp hno⟩
  · rintro ⟨⟨h1, h2, h3, h4, h8⟩, h15, hno⟩
    rw [← hunique] at h8
    exact ⟨h15, hdigit.mpr h1, hlower.mpr h2, hupper.mpr h3, hsymbol.mpr h4, h8, hruns.mpr hno⟩

/-- The rules of the backend -/
theorem keepsStigs_iff {cs : List Char} :
    KeepsStigs cs ↔ KeepsClasses cs ∧ 15 ≤ cs.length ∧ NoBrokenRun cs := by
  constructor
  · rintro ⟨h15, h1, h2, h3, h4, h8, hno⟩
    exact ⟨⟨h1, h2, h3, h4, h8⟩, h15, hno⟩
  · rintro ⟨⟨h1, h2, h3, h4, h8⟩, h15, hno⟩
    exact ⟨h15, h1, h2, h3, h4, h8, hno⟩

/-! ## Agreement -/

/-- The validators agree if the backend ends with its verdict, and has no errors exactly if the
    rules of the page are kept. -/
theorem validatorsAgree_iff_errors {value : List UInt16} (hvalue : value ≠ []) :
    ValidatorsAgree value ↔ ∃ errors,
      PyText.validatePasswordStigs (codePoints value) = .ok errors ∧
        (errors = [] ↔ KeepsPageRules value) := by
  have hpage := fun errorMessage subject =>
    @passwordValidator_eq_none_iff errorMessage subject value hvalue
  constructor
  · intro h
    by_cases hrules : KeepsPageRules value
    · exact ⟨[], h.accepted "" none ((hpage "" none).mpr hrules), iff_of_true rfl hrules⟩
    · have hrejects : passwordValidator "" none value ≠ none :=
        fun hnone => hrules ((hpage "" none).mp hnone)
      obtain ⟨errors, hne, hbackend⟩ := h.rejected "" none hrejects
      exact ⟨errors, hbackend, iff_of_false hne hrules⟩
  · rintro ⟨errors, hbackend, hsame⟩
    constructor
    · intro errorMessage subject hnone
      rw [hbackend, hsame.mpr ((hpage errorMessage subject).mp hnone)]
    · intro errorMessage subject hsome
      refine ⟨errors, fun hnil => hsome ?_, hbackend⟩
      exact (hpage errorMessage subject).mpr (hsame.mp hnil)

/-- The page and the scan of the backend differ in the length and in the runs only. -/
theorem keepsPageRules_iff_keepsStigs {value : List UInt16} {cs : List Char}
    (h : text? (codePoints value) = some cs) :
    (KeepsPageRules value ↔ KeepsStigs cs) ↔ (KeepsClasses cs →
      (15 ≤ value.length ∧ NoUnitRun cs ↔ 15 ≤ cs.length ∧ NoBrokenRun cs)) := by
  rw [keepsPageRules_iff h, keepsStigs_iff, and_congr_right_iff]

/-- The validators agree on the texts of characters that are no base64 text, if those that keep
    the common rules are long enough and without runs for both, and on those that are one of a
    text that keeps the backend's rules exactly if they keep the page's. -/
theorem validatorsAgree_iff (value : List UInt16) (hvalue : value ≠ []) :
    ValidatorsAgree value ↔ ∃ cs, text? (codePoints value) = some cs ∧
      ((Base64.decode cs = none ∧ (KeepsClasses cs →
          (15 ≤ value.length ∧ NoUnitRun cs ↔ 15 ≤ cs.length ∧ NoBrokenRun cs))) ∨
        ∃ bytes text, Base64.decode cs = some bytes ∧
          String.fromUTF8? ⟨bytes.toArray⟩ = some text ∧
          (KeepsPageRules value ↔ KeepsStigs text.toList)) := by
  rw [validatorsAgree_iff_errors hvalue]
  cases htext : text? (codePoints value) with
  | none =>
      -- a lone surrogate has no bytes
      refine iff_of_false ?_ nofun
      rintro ⟨errors, hbackend, -⟩
      rw [PyText.validatePasswordStigs, encodeText, htext] at hbackend
      cases hbackend
  | some cs =>
      have hcomm : ∀ text : List Char, (KeepsStigs text ↔ KeepsPageRules value) ↔
          (KeepsPageRules value ↔ KeepsStigs text) := fun text => iff_comm
      simp only [Option.some.injEq, exists_eq_left']
      rw [← keepsPageRules_iff_keepsStigs htext, ← ofText_of_text? htext, exists_verdict_iff]
      simp only [hcomm]

/-- Both accept the default password of the tests. -/
theorem validatorsAgree_example :
    ValidatorsAgree ("We.are.tfplenum4$".toList.flatMap units) := by
  have hnone : ∀ c, ¬ [c, c, c] <:+: "We.are.tfplenum4$".toList := by
    intro c hinside
    have htriple := (Runs.triple_iff (p := fun _ => true)).mpr ⟨c, rfl, hinside⟩
    exact absurd htriple (by decide +kernel)
  have hbroken : NoBrokenRun "We.are.tfplenum4$".toList :=
    hasConsecutiveChars_eq_false_iff.mp (by decide +kernel)
  refine (validatorsAgree_iff _ (by decide)).mpr
    ⟨"We.are.tfplenum4$".toList, by decide +kernel, .inl ⟨by decide +kernel, fun _ => ?_⟩⟩
  exact iff_of_true ⟨by decide +kernel, fun c _ => hnone c⟩ ⟨by decide +kernel, hbroken⟩

/-- The run at the end is one for the page only. -/
theorem not_validatorsAgree_example :
    ¬ ValidatorsAgree ("Abcdefghi1234---".toList.flatMap units) := by
  intro h
  have hpage : passwordValidator "" none ("Abcdefghi1234---".toList.flatMap units) ≠ none := by
    decide +kernel
  have hbackend : PyText.validatePasswordStigs
      (codePoints ("Abcdefghi1234---".toList.flatMap units)) = .ok [] := by
    decide +kernel
  obtain ⟨errors, hne, hrejects⟩ := h.rejected "" none hpage
  rw [hbackend] at hrejects
  exact hne (Except.ok.inj hrejects).symm

end Tfplenum
