/-
  Tfplenum.Models.ReplaySensor

  `ReplaySensorModel` of `models/pcap.py`, with the base64 methods of `Model` that it
  uses.

  The model keeps the password encoded, and takes what can be decoded for encoded.
  The decoder skips what is not in its alphabet; it raises where the rest cannot be
  decoded, which is not caught, and where it gives a text, that text is another one
  (`credentialsRoundTrip_iff`).
-/

import Tfplenum.Models.SettingsBase

namespace Tfplenum

open Lib CodePoint

/-! ## The methods of `Model` -/

/-- `b64decode_string`; the decoder skips the bytes of a character outside ASCII. -/
def b64decodeString (someStr : List CodePoint) : Except PyError (List CodePoint) := do
  let text ← encodeText someStr
  match Base64.decode text.toList with
  | none => .error binasciiError
  | some bytes =>
      match String.fromUTF8? ⟨bytes.toArray⟩ with
      | none => .error .unicodeError
      | some retVal => return ofText retVal.toList

/-- `b64encode_string` -/
def b64encodeString (someStr : List CodePoint) : Except PyError (List CodePoint) := do
  let text ← encodeText someStr
  return ofText (Base64.encode text.toByteArray.data.toList)

/-- `is_b64` -/
def isB64 (someStr : List CodePoint) : Except PyError Bool :=
  match b64decodeString someStr with
  | .ok _ => .ok true
  | .error e => if e = .unicodeError then .ok false else .error e

/-! ## The sensor -/

structure ReplaySensorModel where
  hostname : String
  name : String
  ip : String
  interfaces : List String
  apps : List String
  username : String
  /-- `_password` -/
  password_ : List CodePoint
deriving DecidableEq, Repr

namespace ReplaySensorModel

/-- `__init__` -/
def init (hostname ip : String) (interfaces apps : List String) (username : String)
    (password : List CodePoint) : Except PyError ReplaySensorModel := do
  let labels := (hostname.toList.splitOn '.').map String.ofList
  let name := if 1 < labels.length then labels.headD "" else hostname
  let password_ ← if ← isB64 password then pure password else b64encodeString password
  return { hostname, name, ip, interfaces, apps, username, password_ }

/-- The property `password` -/
def password (self : ReplaySensorModel) : Except PyError (List CodePoint) :=
  b64decodeString self.password_

end ReplaySensorModel

/-! ## What it is for -/

/-- A sensor that is given one password comes about, and has the other one. -/
def HasPassword (given password : List CodePoint) : Prop :=
  ∀ hostname ip interfaces apps username, ∃ sensor,
    ReplaySensorModel.init hostname ip interfaces apps username given = .ok sensor ∧
      sensor.password = .ok password

/-- The password is kept, whether it is given as it is or encoded. -/
structure CredentialsRoundTrip (password : List CodePoint) : Prop where
  plain : HasPassword password password
  encoded : ∃ given, b64encodeString password = .ok given ∧ HasPassword given password

/-! ## Passwords -/

section

variable {cs : List Char} {password : List CodePoint}

theorem b64decodeString_ofText : b64decodeString (ofText cs) =
    match Base64.decode cs with
    | none => .error binasciiError
    | some bytes =>
        match String.fromUTF8? ⟨bytes.toArray⟩ with
        | none => .error .unicodeError
        | some retVal => .ok (ofText retVal.toList) := by
  rw [b64decodeString, encodeText_ofText]
  change (match Base64.decode (String.ofList cs).toList with | none => _ | some bytes => _) = _
  rw [String.toList_ofList]
  rfl

theorem b64encodeString_ofText : b64encodeString (ofText cs) =
    .ok (ofText (Base64.encode (String.ofList cs).toByteArray.data.toList)) := by
  rw [b64encodeString, encodeText_ofText]
  rfl

/-- What is encoded is decoded again. -/
theorem b64decodeString_encoded : b64decodeString
    (ofText (Base64.encode (String.ofList cs).toByteArray.data.toList)) = .ok (ofText cs) := by
  have hutf8 : String.fromUTF8? ⟨(String.ofList cs).toByteArray.data.toList.toArray⟩ =
      some (String.ofList cs) := by
    rw [Array.toArray_toList, String.fromUTF8?, dif_pos (String.ofList cs).isValidUTF8]
    rfl
  rw [b64decodeString_ofText, Base64.decode_encode]
  simp only [hutf8, String.toList_ofList]

/-- What the decoder makes of a text: nothing, bytes that are no text, or a text -/
theorem isB64_cases (cs : List Char) :
    (Base64.decode cs = none ∧ isB64 (ofText cs) = .error binasciiError) ∨
      (∃ bytes, Base64.decode cs = some bytes ∧ String.fromUTF8? ⟨bytes.toArray⟩ = none ∧
        isB64 (ofText cs) = .ok false) ∨
      ∃ bytes retVal, Base64.decode cs = some bytes ∧
        String.fromUTF8? ⟨bytes.toArray⟩ = some retVal ∧ isB64 (ofText cs) = .ok true ∧
        b64decodeString (ofText cs) = .ok (ofText retVal.toList) := by
  rw [isB64, b64decodeString_ofText]
  cases Base64.decode cs with
  | none => exact .inl ⟨rfl, rfl⟩
  | some bytes =>
      cases hutf8 : String.fromUTF8? ⟨bytes.toArray⟩ with
      | none => exact .inr (.inl ⟨bytes, rfl, hutf8, by simp [hutf8]⟩)
      | some retVal =>
          exact .inr (.inr ⟨bytes, retVal, rfl, hutf8, by simp [hutf8], by simp [hutf8]⟩)

/-- What is decoded is another text. -/
theorem ne_of_decode {bytes : List UInt8} {retVal : String} (hcs : cs ≠ [])
    (hdecode : Base64.decode cs = some bytes)
    (hutf8 : String.fromUTF8? ⟨bytes.toArray⟩ = some retVal) : retVal.toList ≠ cs := by
  rintro rfl
  have hlt := Base64.length_decode_lt hcs hdecode
  have hsize := length_le_size retVal
  have hbytes : retVal.toByteArray = ⟨bytes.toArray⟩ := by
    rw [String.fromUTF8?] at hutf8
    split at hutf8
    · cases hutf8
      rfl
    · cases hutf8
  rw [hbytes] at hsize
  simp only [ByteArray.size, List.size_toArray] at hsize
  rw [String.length_toList] at hlt
  omega

/-- A sensor comes about as soon as its password is kept in some form. -/
theorem hasPassword_iff {given : List CodePoint} : HasPassword given password ↔
    (isB64 given = .ok true ∧ b64decodeString given = .ok password) ∨
      (isB64 given = .ok false ∧ ∃ stored, b64encodeString given = .ok stored ∧
        b64decodeString stored = .ok password) := by
  constructor
  · intro h
    obtain ⟨sensor, hinit, hpassword⟩ := h "" "" [] [] ""
    rw [ReplaySensorModel.init] at hinit
    cases hsniff : isB64 given with
    | error e =>
        rw [hsniff] at hinit
        cases hinit
    | ok encoded =>
        rw [hsniff] at hinit
        cases encoded with
        | true =>
            cases hinit
            exact .inl ⟨rfl, hpassword⟩
        | false =>
            cases hstored : b64encodeString given with
            | error e =>
                rw [hstored] at hinit
                cases hinit
            | ok stored =>
                rw [hstored] at hinit
                cases hinit
                exact .inr ⟨rfl, stored, rfl, hpassword⟩
  · rintro (⟨hsniff, hdecode⟩ | ⟨hsniff, stored, hstored, hdecode⟩) hostname ip interfaces apps
      username
    · rw [ReplaySensorModel.init, hsniff]
      exact ⟨_, rfl, hdecode⟩
    · rw [ReplaySensorModel.init, hsniff, hstored]
      exact ⟨_, rfl, hdecode⟩

/-- An encoded password is kept. -/
theorem hasPassword_encoded : HasPassword
    (ofText (Base64.encode (String.ofList cs).toByteArray.data.toList)) (ofText cs) := by
  have hsniff : isB64 (ofText (Base64.encode (String.ofList cs).toByteArray.data.toList)) =
      .ok true := by
    rw [isB64, b64decodeString_encoded]
  exact hasPassword_iff.mpr (.inl ⟨hsniff, b64decodeString_encoded⟩)

end

/-- The passwords that are kept are the empty one and those that the decoder makes bytes of
    that are no text. -/
theorem credentialsRoundTrip_iff (password : List CodePoint) :
    CredentialsRoundTrip password ↔ password = [] ∨
      ∃ cs bytes, password = ofText cs ∧ Base64.decode cs = some bytes ∧
        String.fromUTF8? ⟨bytes.toArray⟩ = none := by
  constructor
  · rintro ⟨hplain, given, hgiven, -⟩
    obtain ⟨cs, rfl⟩ : ∃ cs, password = ofText cs := by
      refine (encodeText_cases password).resolve_right fun hfails => ?_
      rw [b64encodeString, hfails] at hgiven
      cases hgiven
    rw [hasPassword_iff] at hplain
    rcases isB64_cases cs with ⟨-, hsniff⟩ | ⟨bytes, hbytes, hutf8, -⟩ |
      ⟨bytes, retVal, hbytes, hutf8, hsniff, hdecode⟩
    · rw [hsniff] at hplain
      rcases hplain with ⟨h, -⟩ | ⟨h, -⟩
      · cases h
      · cases h
    · exact .inr ⟨cs, bytes, rfl, hbytes, hutf8⟩
    · rw [hsniff, hdecode] at hplain
      rcases hplain with ⟨-, hsame⟩ | ⟨h, -⟩
      · -- what is decoded can only be the password itself if there is nothing to decode
        left
        by_contra hne
        have hcs : cs ≠ [] := by
          rintro rfl
          exact hne rfl
        exact ne_of_decode hcs hbytes hutf8 (ofText_injective (Except.ok.inj hsame))
      · cases h
  · intro h
    obtain ⟨cs, rfl, hplain⟩ : ∃ cs,
        password = ofText cs ∧ HasPassword (ofText cs) (ofText cs) := by
      rcases h with rfl | ⟨cs, bytes, rfl, hbytes, hutf8⟩
      · have hempty : isB64 (ofText []) = .ok true ∧
            b64decodeString (ofText []) = .ok (ofText []) := by decide +kernel
        exact ⟨[], rfl, hasPassword_iff.mpr (.inl hempty)⟩
      · -- bytes that are no text: the password is encoded, and decoded when it is asked for
        have hsniff : isB64 (ofText cs) = .ok false := by
          rw [isB64, b64decodeString_ofText, hbytes]
          simp only [hutf8, if_pos]
        exact ⟨cs, rfl, hasPassword_iff.mpr (.inr ⟨hsniff, _, b64encodeString_ofText,
          b64decodeString_encoded⟩)⟩
    exact ⟨hplain, _, b64encodeString_ofText, hasPassword_encoded⟩

/-- Fourteen characters of this password are in the alphabet, which are no encoded text. -/
theorem not_credentialsRoundTrip_example :
    ¬ CredentialsRoundTrip (ofText "We.are.tfplenum4$".toList) := by
  rintro ⟨hplain, -⟩
  have hraises : isB64 (ofText "We.are.tfplenum4$".toList) = .error binasciiError := by
    decide +kernel
  rcases hasPassword_iff.mp hplain with ⟨hsniff, -⟩ | ⟨hsniff, -⟩
  · rw [hraises] at hsniff
    cases hsniff
  · rw [hraises] at hsniff
    cases hsniff

end Tfplenum
