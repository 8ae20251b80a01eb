/-
  Tfplenum.Models.PasswordStigs

  What `validate_password_stigs` decides, over all texts: those of characters, and those
  with a surrogate that stands alone, which have no bytes.

  The scan for runs looks at a run when the next character breaks it, so that a run at
  the end is not seen, and the validator takes whatever the base64 decoder reads for an
  encoded password (`policyDecided_iff`).
-/

import Tfplenum.Models.SettingsBase

namespace Tfplenum

open Lib CodePoint

/-- A text of Python -/
abbrev PyText := List CodePoint

namespace PyText

/-- `string_to_base64` -/
def stringToBase64 (password : PyText) : Except PyError PyText := do
  let text ← encodeText password
  return ofText (Tfplenum.stringToBase64 text).toList

/-- `validate_password_stigs`, the messages of the `ValidationError` it raises, none where
    it raises none -/
def validatePasswordStigs (value : PyText) : Except PyError (List String) := do
  let text ← encodeText value
  Tfplenum.validatePasswordStigs text

theorem stringToBase64_ofText (cs : List Char) : stringToBase64 (ofText cs) =
    .ok (ofText (Tfplenum.stringToBase64 (String.ofList cs)).toList) := by
  rw [stringToBase64, encodeText_ofText]
  rfl

theorem validatePasswordStigs_ofText (cs : List Char) : validatePasswordStigs (ofText cs) =
    Tfplenum.validatePasswordStigs (String.ofList cs) := by
  rw [validatePasswordStigs, encodeText_ofText]
  rfl

end PyText

/-! ## What it is for -/

/-- The policy for passwords -/
structure MeetsPolicy (password : PyText) : Prop where
  length : 15 ≤ password.length
  digit : ∃ c, .char c ∈ password ∧ isAsciiDigit c = true
  lower : ∃ c, .char c ∈ password ∧ isAsciiLower c = true
  upper : ∃ c, .char c ∈ password ∧ isAsciiUpper c = true
  symbol : ∃ p ∈ password, ∀ c, p = .char c → isAsciiAlnum c = false
  unique : 8 ≤ password.dedup.length
  runs : ∀ p, ¬ [p, p, p] <:+: password

/-- The password and its stored form are both validated, without another exception than
    `ValidationError`, and both are accepted if the password meets the policy. -/
def PolicyDecided (password : PyText) : Prop :=
  ∃ stored plainErrors storedErrors, password.stringToBase64 = .ok stored ∧
    password.validatePasswordStigs = .ok plainErrors ∧
    stored.validatePasswordStigs = .ok storedErrors ∧
    (plainErrors = [] ↔ MeetsPolicy password) ∧ (storedErrors = [] ↔ MeetsPolicy password)

/-- The password ends with three of one character. -/
def EndsInRun (password : List Char) : Prop := ∃ a, [a, a, a] <:+ password

/-! ## Verdicts -/

/-- Among characters and among the code points of a text the runs are the same. -/
theorem triple_ofText_iff {cs : List Char} :
    (∃ p, [p, p, p] <:+: ofText cs) ↔ ∃ c, [c, c, c] <:+: cs := by
  constructor
  · rintro ⟨p, hinside⟩
    obtain ⟨run, hrun, hmap⟩ := List.infix_map_iff.mp hinside
    match run, hmap with
    | [a, b, c], hmap =>
        simp only [List.map_cons, List.map_nil, List.cons.injEq, and_true] at hmap
        obtain ⟨rfl, hb, hc⟩ := hmap
        cases hb
        cases hc
        exact ⟨a, hrun⟩
  · rintro ⟨c, hinside⟩
    exact ⟨.char c, hinside.map _⟩

/-- The policy asks for what the validator checks, and for no run at the end. -/
theorem meetsPolicy_ofText_iff {cs : List Char} :
    MeetsPolicy (ofText cs) ↔ KeepsStigs cs ∧ ¬ EndsInRun cs := by
  have hclass : ∀ p : Char → Bool,
      (∃ c, CodePoint.char c ∈ ofText cs ∧ p c = true) ↔ ∃ c ∈ cs, p c = true := by
    intro p
    simp [ofText]
  have hsymbol : (∃ p ∈ ofText cs, ∀ c, p = CodePoint.char c → isAsciiAlnum c = false) ↔
      ∃ c ∈ cs, isAsciiAlnum c = false := by
    simp [ofText]
  have hunique : (ofText cs).dedup.length = cs.dedup.length := length_dedup_ofText cs
  have hlength : (ofText cs).length = cs.length := List.length_map ..
  have hruns : (∀ p, ¬ [p, p, p] <:+: ofText cs) ↔
      (∀ a b, b ≠ a → ¬ [a, a, a, b] <:+: cs) ∧ ¬ EndsInRun cs := by
    rw [← not_exists, triple_ofText_iff, Runs.triple_infix_iff, not_or, Runs.Broken, EndsInRun]
    simp only [not_exists, not_and, ne_eq]
  constructor
  · rintro ⟨h15, hdigit, hlower, hupper, hother, h8, hno⟩
    rw [hlength] at h15
    rw [hunique] at h8
    have hparts := hruns.mp hno
    exact ⟨⟨h15, (hclass _).mp hdigit, (hclass _).mp hlower, (hclass _).mp hupper,
      hsymbol.mp hother, h8, hparts.1⟩, hparts.2⟩
  · rintro ⟨⟨h15, hdigit, hlower, hupper, hother, h8, hno⟩, hend⟩
    rw [← hlength] at h15
    rw [← hunique] at h8
    exact ⟨h15, (hclass _).mpr hdigit, (hclass _).mpr hlower, (hclass _).mpr hupper,
      hsymbol.mpr hother, h8, hruns.mpr ⟨hno, hend⟩⟩

/-- What the validator makes of a text: it reads the text itself, or what is decoded, or
    raises. -/
theorem validatePasswordStigs_cases (cs : List Char) :
    (Base64.decode cs = none ∧
      validatePasswordStigs (String.ofList cs) = .ok (stigErrors cs)) ∨
    (∃ bytes, Base64.decode cs = some bytes ∧ String.fromUTF8? ⟨bytes.toArray⟩ = none ∧
      validatePasswordStigs (String.ofList cs) = .error .unicodeError) ∨
    ∃ bytes text, Base64.decode cs = some bytes ∧ String.fromUTF8? ⟨bytes.toArray⟩ = some text ∧
      validatePasswordStigs (String.ofList cs) = .ok (stigErrors text.toList) := by
  rw [validatePasswordStigs, isBase64, base64ToString, String.toList_ofList]
  by_cases hempty : String.ofList cs = ""
  · have hcs : cs = [] := String.ofList_eq_empty_iff.mp hempty
    subst hcs
    exact .inr (.inr ⟨[], "", rfl, by decide +kernel, rfl⟩)
  · rw [if_neg hempty]
    cases Base64.decode cs with
    | none => exact .inl ⟨rfl, by simp [Except.map]⟩
    | some bytes =>
        cases hutf8 : String.fromUTF8? ⟨bytes.toArray⟩ with
        | none => exact .inr (.inl ⟨bytes, rfl, hutf8, by simp [hutf8, binasciiError, Except.map]⟩)
        | some text => exact .inr (.inr ⟨bytes, text, rfl, hutf8, by simp [hutf8, Except.map]⟩)

/-- The verdict on a text of characters is `P` if that is the scan's verdict on the text that
    is read. -/
theorem exists_verdict_iff {cs : List Char} {P : Prop} :
    (∃ errors, PyText.validatePasswordStigs (ofText cs) = .ok errors ∧ (errors = [] ↔ P)) ↔
      (Base64.decode cs = none ∧ (KeepsStigs cs ↔ P)) ∨
        ∃ bytes text, Base64.decode cs = some bytes ∧
          String.fromUTF8? ⟨bytes.toArray⟩ = some text ∧ (KeepsStigs text.toList ↔ P) := by
  rw [PyText.validatePasswordStigs_ofText]
  rcases validatePasswordStigs_cases cs with ⟨hbytes, hread⟩ | ⟨bytes, hbytes, hutf8, hread⟩ |
    ⟨bytes, text, hbytes, hutf8, hread⟩
  · simp only [hread, hbytes, Except.ok.injEq, exists_eq_left', stigErrors_eq_nil_iff, true_and,
      reduceCtorEq, false_and, exists_false, or_false]
  · simp [hread, hbytes, hutf8]
  · simp only [hread, hbytes, Except.ok.injEq, exists_eq_left', stigErrors_eq_nil_iff,
      reduceCtorEq, false_and, false_or, Option.some.injEq]
    constructor
    · intro hsame
      exact ⟨bytes, text, rfl, hutf8, hsame⟩
    · rintro ⟨_, text', rfl, htext', hsame⟩
      rw [hutf8] at htext'
      cases htext'
      exact hsame

/-- A text of characters is decided if the scan agrees with the policy on it, and the validator
    with the scan. -/
theorem policyDecided_ofText_iff {cs : List Char} :
    PolicyDecided (ofText cs) ↔ (KeepsStigs cs → ¬ EndsInRun cs) ∧
      ∃ errors, PyText.validatePasswordStigs (ofText cs) = .ok errors ∧
        (errors = [] ↔ KeepsStigs cs) := by
  have hstored : PyText.validatePasswordStigs
      (ofText (stringToBase64 (String.ofList cs)).toList) = .ok (stigErrors cs) := by
    rw [PyText.validatePasswordStigs_ofText, String.ofList_toList,
      validatePasswordStigs_stringToBase64, String.toList_ofList]
  constructor
  · rintro ⟨stored, plainErrors, storedErrors, henc, hplain, hencoded, haccepts, haccepts'⟩
    rw [PyText.stringToBase64_ofText] at henc
    cases henc
    rw [hstored] at hencoded
    cases hencoded
    -- the verdict on the stored form is that of the scan
    rw [stigErrors_eq_nil_iff] at haccepts'
    have hend : KeepsStigs cs → ¬ EndsInRun cs :=
      fun hkeeps => (meetsPolicy_ofText_iff.mp (haccepts'.mp hkeeps)).2
    exact ⟨hend, plainErrors, hplain, haccepts.trans haccepts'.symm⟩
  · rintro ⟨hend, errors, hplain, hsame⟩
    have haccepts : KeepsStigs cs ↔ MeetsPolicy (ofText cs) := by
      rw [meetsPolicy_ofText_iff]
      constructor
      · intro hkeeps
        exact ⟨hkeeps, hend hkeeps⟩
      · intro h
        exact h.1
    exact ⟨_, errors, _, PyText.stringToBase64_ofText cs, hplain, hstored, hsame.trans haccepts,
      stigErrors_eq_nil_iff.trans haccepts⟩

/-- The texts that are decided are those of characters that, if the scan finds nothing wrong
    with them, do not end with a run, and that are no base64 text, or one of a text that keeps
    the rules of the scan if they do. -/
theorem policyDecided_iff (password : PyText) :
    PolicyDecided password ↔ ∃ cs, password = ofText cs ∧ (KeepsStigs cs → ¬ EndsInRun cs) ∧
      (Base64.decode cs = none ∨ ∃ bytes text, Base64.decode cs = some bytes ∧
        String.fromUTF8? ⟨bytes.toArray⟩ = some text ∧
        (KeepsStigs text.toList ↔ KeepsStigs cs)) := by
  have hverdict : ∀ cs : List Char, PolicyDecided (ofText cs) ↔ (KeepsStigs cs → ¬ EndsInRun cs) ∧
      (Base64.decode cs = none ∨ ∃ bytes text, Base64.decode cs = some bytes ∧
        String.fromUTF8? ⟨bytes.toArray⟩ = some text ∧
        (KeepsStigs text.toList ↔ KeepsStigs cs)) := by
    intro cs
    rw [policyDecided_ofText_iff, exists_verdict_iff, and_iff_left Iff.rfl]
  constructor
  · intro hdecided
    obtain ⟨cs, rfl⟩ | hfails := encodeText_cases password
    · exact ⟨cs, rfl, (hverdict cs).mp hdecided⟩
    · -- a text with a lone surrogate is not stored
      obtain ⟨stored, -, -, henc, -⟩ := hdecided
      rw [PyText.stringToBase64, hfails] at henc
      cases henc
  · rintro ⟨cs, rfl, h⟩
    exact (hverdict cs).mpr h

/-- With three hyphens at its end, the password meets everything that is checked. -/
theorem not_policyDecided_example : ¬ PolicyDecided (ofText "Abcdefghi1234---".toList) := by
  rintro ⟨stored, plainErrors, storedErrors, -, hplain, -, haccepts, -⟩
  have hchecked : PyText.validatePasswordStigs (ofText "Abcdefghi1234---".toList) = .ok [] := by
    decide +kernel
  rw [hchecked] at hplain
  cases hplain
  have hruns := (haccepts.mp rfl).runs (.char '-')
  exact hruns ⟨ofText "Abcdefghi1234".toList, [], rfl⟩

end Tfplenum
