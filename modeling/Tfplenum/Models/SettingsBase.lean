/-
  Tfplenum.Models.SettingsBase

  The two password policies: `PasswordValidator` of `utils/utils.py`, which a
  changed kit password has to pass, and `validate_password_stigs` of
  `models/settings/settings_base.py`, which the settings schemas check passwords
  with, in plain form or in the base64 form they are stored in.
-/

import Tfplenum.Common
import Tfplenum.Lib.Base64
import Tfplenum.Lib.CodePoints
import Tfplenum.Lib.Runs
import Mathlib.Data.List.Dedup

namespace Tfplenum

open Lib

/-! ## Base64 -/

def unicodeEncodeError : PyError := .other "UnicodeEncodeError"

/-- `text.encode("utf-8")`, as the text whose bytes these are -/
def encodeText (text : List CodePoint) : Except PyError String :=
  match CodePoint.text? text with
  | none => .error unicodeEncodeError
  | some cs => .ok (String.ofList cs)

theorem encodeText_ofText (cs : List Char) :
    encodeText (CodePoint.ofText cs) = .ok (String.ofList cs) := by
  rw [encodeText, CodePoint.text?_ofText]

/-- What has bytes is a text of characters. -/
theorem encodeText_cases (text : List CodePoint) :
    (∃ cs, text = CodePoint.ofText cs) ∨ encodeText text = .error unicodeEncodeError := by
  rw [encodeText]
  cases htext : CodePoint.text? text with
  | none => exact .inr rfl
  | some cs => exact .inl ⟨cs, (CodePoint.ofText_of_text? htext).symm⟩

/-- `string_to_base64` -/
def stringToBase64 (password : String) : String :=
  if password = "" then ""
  else String.ofList (Base64.encode password.toByteArray.data.toList)

def binasciiError : PyError := .other "binascii.Error"

/-- `base64_to_string`; the decoder skips the bytes of a character outside ASCII. -/
def base64ToString (passwordEnc : String) : Except PyError String :=
  if passwordEnc = "" then .ok ""
  else
    match Base64.decode passwordEnc.toList with
    | none => .error binasciiError
    | some bytes =>
        match String.fromUTF8? ⟨bytes.toArray⟩ with
        | none => .error .unicodeError
        | some password => .ok password

theorem stringToBase64_of_ne {password : String} (h : password ≠ "") :
    stringToBase64 password = String.ofList (Base64.encode password.toByteArray.data.toList) :=
  if_neg h

theorem length_stringToBase64 {password : String} (h : password ≠ "") :
    password.toByteArray.size < (stringToBase64 password).length := by
  have hbytes : password.toByteArray.data.toList ≠ [] := by
    intro hnil
    apply h
    have hsize : password.toByteArray.size = 0 := by
      rw [← ByteArray.size_data, ← Array.length_toList, hnil]
      rfl
    have hempty : password.toByteArray = "".toByteArray := by
      rw [ByteArray.size_eq_zero_iff.mp hsize]
      rfl
    exact String.toByteArray_inj.mp hempty
  have hlt := Base64.length_lt_length_encode hbytes
  rw [stringToBase64_of_ne h, String.length_ofList]
  simpa using hlt

/-- A text has no more characters than bytes. -/
theorem length_le_size (text : String) : text.length ≤ text.toByteArray.size := by
  have hlist : ∀ cs : List Char, cs.length ≤ cs.utf8Encode.size := by
    intro cs
    induction cs with
    | nil => exact Nat.zero_le _
    | cons c cs ih =>
        have hpos := c.utf8Size_pos
        rw [List.utf8Encode_cons, ByteArray.size_append, List.utf8Encode_singleton,
          List.size_toByteArray, String.length_utf8EncodeChar, List.length_cons]
        omega
  have h := hlist text.toList
  rwa [String.length_toList, String.utf8Encode_toList] at h

/-- A password is not stored as it is. -/
theorem stringToBase64_ne {password : String} (h : password ≠ "") :
    stringToBase64 password ≠ password := by
  intro heq
  have hlt := length_stringToBase64 h
  have hle := length_le_size password
  rw [heq] at hlt
  omega

/-- A stored password is read back. -/
theorem base64ToString_stringToBase64 (password : String) :
    base64ToString (stringToBase64 password) = .ok password := by
  by_cases h : password = ""
  · subst h
    rfl
  · have hlength := length_stringToBase64 h
    have hne : stringToBase64 password ≠ "" := by
      intro heq
      rw [heq] at hlength
      exact absurd hlength (Nat.not_lt_zero _)
    rw [base64ToString, if_neg hne, stringToBase64_of_ne h, String.toList_ofList,
      Base64.decode_encode]
    have hutf8 : String.fromUTF8? ⟨password.toByteArray.data.toList.toArray⟩ = some password := by
      rw [Array.toArray_toList, String.fromUTF8?, dif_pos password.isValidUTF8]
      rfl
    simp only [hutf8]

/-! ## The classes of a character -/

/-- `[0-9]` -/
def isAsciiDigit (c : Char) : Bool := '0' ≤ c && c ≤ '9'

/-- `[A-Z]` -/
def isAsciiUpper (c : Char) : Bool := 'A' ≤ c && c ≤ 'Z'

/-- `[0-9a-zA-Z]` -/
def isAsciiAlnum (c : Char) : Bool := isAsciiDigit c || isAsciiLower c || isAsciiUpper c

theorem isAsciiAlnum_of_not_ascii {c : Char} (h : ¬ c.val < 128) : isAsciiAlnum c = false := by
  have hgt : ∀ d : Char, d.val < 128 → decide (c ≤ d) = false := by
    intro d hd
    rw [decide_eq_false_iff_not]
    intro hle
    exact h (UInt32.lt_of_le_of_lt hle hd)
  simp [isAsciiAlnum, isAsciiDigit, isAsciiLower, isAsciiUpper, hgt '9' (by decide),
    hgt 'z' (by decide), hgt 'Z' (by decide)]

/-- The classes `\d` and `\w` go by: the tables of the Unicode version that the
    interpreter has, and on ASCII those of every version. -/
structure CharClasses where
  isDecimal : Char → Bool
  isAlnum : Char → Bool
  isDecimal_ascii : ∀ c, c.val < 128 → isDecimal c = isAsciiDigit c
  isAlnum_ascii : ∀ c, c.val < 128 → isAlnum c = isAsciiAlnum c

/-- The messages of the checks that failed, each with its outcome. -/
def failed (checks : List (Bool × String)) : List String :=
  (checks.filter fun check => !check.1).map Prod.snd

@[simp] theorem failed_eq_nil_iff {checks : List (Bool × String)} :
    failed checks = [] ↔ ∀ check ∈ checks, check.1 = true := by
  simp [failed, List.filter_eq_nil_iff]

/-! ## Changed passwords -/

/-- `PasswordValidator.validate`; the point of a pattern is any character but the newline. -/
def PasswordValidator.validate (classes : CharClasses) (password : String) : List String :=
  if password = "" then ["Password cannot be empty."]
  else
    let cs := password.toList
    failed [
      (15 ≤ cs.length, "Password must be at least 15 characters long."),
      (cs.any classes.isDecimal, "Password must contain at least one digit."),
      (cs.any isAsciiLower, "Password must contain at least one lowercase letter."),
      (cs.any isAsciiUpper, "Password must contain at least one uppercase letter."),
      (cs.any fun c => !(classes.isAlnum c || c = '_'),
        "Password must contain at least one special character."),
      (8 ≤ cs.dedup.length, "Password must contain at least 8 unique characters."),
      (!Runs.triple (fun c => c ≠ '\n') cs,
        "Password must not contain any repeating characters.")]

/-! ## Stored passwords -/

/-- `has_consecutive_chars` -/
def hasConsecutiveChars (password : List Char) : Bool := Runs.longRun password

/-- `_is_base64`: only what the base64 decoder refuses is taken as it is. -/
def isBase64 (value : String) : Except PyError String :=
  match base64ToString value with
  | .error e => if e = binasciiError then .ok value else .error e
  | .ok password => .ok password

def stigErrors (password : List Char) : List String :=
  failed [
    (15 ≤ password.length, "The password must be at least 15 characters."),
    (password.any isAsciiDigit, "The password must have at least 1 digit."),
    (password.any isAsciiLower, "The password must have at least 1 lowercase letter."),
    (password.any isAsciiUpper, "The password must have at least 1 uppercase letter."),
    (password.any fun c => !isAsciiAlnum c, "The password must have at least 1 symbol."),
    (8 ≤ password.dedup.length, "The password must have at least 8 unique characters."),
    (!hasConsecutiveChars password,
      "The password must not have 3 consecutive characters that are the same.")]

/-- `validate_password_stigs`: the messages of the `ValidationError` it raises, none
    where it raises none. -/
def validatePasswordStigs (value : String) : Except PyError (List String) :=
  (isBase64 value).map fun password => stigErrors password.toList

/-- The stored form of a password is taken for the password. -/
theorem isBase64_stringToBase64 (password : String) :
    isBase64 (stringToBase64 password) = .ok password := by
  rw [isBase64, base64ToString_stringToBase64]

theorem validatePasswordStigs_stringToBase64 (password : String) :
    validatePasswordStigs (stringToBase64 password) = .ok (stigErrors password.toList) := by
  rw [validatePasswordStigs, isBase64_stringToBase64]
  rfl

/-! ## What the policies ask for -/

/-- A password that keeps the rules of `validate_password_stigs` as it stands. -/
structure KeepsStigs (password : List Char) : Prop where
  length : 15 ≤ password.length
  digit : ∃ c ∈ password, isAsciiDigit c = true
  lower : ∃ c ∈ password, isAsciiLower c = true
  upper : ∃ c ∈ password, isAsciiUpper c = true
  symbol : ∃ c ∈ password, isAsciiAlnum c = false
  unique : 8 ≤ password.dedup.length
  runs : ∀ a b, b ≠ a → ¬ [a, a, a, b] <:+: password

/-- A password that keeps the rules of `PasswordValidator.validate`. -/
structure KeepsValidator (classes : CharClasses) (password : List Char) : Prop where
  length : 15 ≤ password.length
  digit : ∃ c ∈ password, classes.isDecimal c = true
  lower : ∃ c ∈ password, isAsciiLower c = true
  upper : ∃ c ∈ password, isAsciiUpper c = true
  special : ∃ c ∈ password, classes.isAlnum c = false ∧ c ≠ '_'
  unique : 8 ≤ password.dedup.length
  runs : ∀ a, a ≠ '\n' → ¬ [a, a, a] <:+: password

theorem hasConsecutiveChars_eq_false_iff {password : List Char} :
    hasConsecutiveChars password = false ↔ ∀ a b, b ≠ a → ¬ [a, a, a, b] <:+: password := by
  rw [hasConsecutiveChars, Bool.eq_false_iff, Ne, Runs.longRun_iff, Runs.Broken]
  simp only [not_exists, not_and, ne_eq]

theorem stigErrors_eq_nil_iff {password : List Char} :
    stigErrors password = [] ↔ KeepsStigs password := by
  rw [stigErrors, failed_eq_nil_iff]
  simp only [List.forall_mem_cons, List.any_eq_true, Bool.not_eq_true', decide_eq_true_eq,
    hasConsecutiveChars_eq_false_iff]
  constructor
  · rintro ⟨hlength, hdigit, hlower, hupper, hsymbol, hunique, hruns, -⟩
    exact ⟨hlength, hdigit, hlower, hupper, hsymbol, hunique, hruns⟩
  · rintro ⟨hlength, hdigit, hlower, hupper, hsymbol, hunique, hruns⟩
    exact ⟨hlength, hdigit, hlower, hupper, hsymbol, hunique, hruns, by simp⟩

/-- The empty password is not accepted. -/
theorem ne_of_accepted {value : String} (h : validatePasswordStigs value = .ok []) :
    value ≠ "" := by
  rintro rfl
  have hempty : stigErrors [] = [] := Except.ok.inj h
  have hlength : 15 ≤ 0 := (stigErrors_eq_nil_iff.mp hempty).length
  omega

theorem PasswordValidator.validate_eq_nil_iff {classes : CharClasses} {password : String} :
    validate classes password = [] ↔ KeepsValidator classes password.toList := by
  by_cases hempty : password = ""
  · subst hempty
    constructor
    · intro h
      cases h
    · intro h
      have hlength : 15 ≤ 0 := h.length
      omega
  · rw [validate, if_neg hempty]
    dsimp only
    rw [failed_eq_nil_iff]
    have hruns : Runs.triple (fun c => decide (c ≠ '\n')) password.toList = false ↔
        ∀ a, a ≠ '\n' → ¬ [a, a, a] <:+: password.toList := by
      rw [Bool.eq_false_iff, Ne, Runs.triple_iff]
      simp only [not_exists, not_and, decide_eq_true_eq, ne_eq]
    simp only [List.forall_mem_cons, List.any_eq_true, Bool.not_eq_true', decide_eq_true_eq,
      Bool.or_eq_false_iff, decide_eq_false_iff_not, hruns]
    constructor
    · rintro ⟨hlength, hdigit, hlower, hupper, hspecial, hunique, hruns, -⟩
      exact ⟨hlength, hdigit, hlower, hupper, hspecial, hunique, hruns⟩
    · rintro ⟨hlength, hdigit, hlower, hupper, hspecial, hunique, hruns⟩
      exact ⟨hlength, hdigit, hlower, hupper, hspecial, hunique, hruns, by simp⟩

/-- What the changed password has to have besides, to keep the other policy's rules. -/
theorem keepsStigs_iff_of_keepsValidator {classes : CharClasses} {password : List Char}
    (h : KeepsValidator classes password) : KeepsStigs password ↔
      (∃ c ∈ password, isAsciiDigit c = true) ∧
        ∀ b, b ≠ '\n' → ¬ ['\n', '\n', '\n', b] <:+: password := by
  constructor
  · intro hstigs
    exact ⟨hstigs.digit, hstigs.runs '\n'⟩
  · rintro ⟨hdigit, hnewlines⟩
    have hsymbol : ∃ c ∈ password, isAsciiAlnum c = false := by
      obtain ⟨c, hc, halnum, -⟩ := h.special
      refine ⟨c, hc, ?_⟩
      by_cases hascii : c.val < 128
      · rw [← classes.isAlnum_ascii c hascii]
        exact halnum
      · exact isAsciiAlnum_of_not_ascii hascii
    have hruns : ∀ a b, b ≠ a → ¬ [a, a, a, b] <:+: password := by
      intro a b hne hinside
      by_cases ha : a = '\n'
      · subst ha
        exact hnewlines b hne hinside
      · have hstart : [a, a, a] <:+: [a, a, a, b] := ⟨[], [b], rfl⟩
        exact h.runs a ha (hstart.trans hinside)
    exact ⟨h.length, hdigit, h.lower, h.upper, hsymbol, h.unique, hruns⟩

end Tfplenum
