/-
  Tfplenum.Lib.Base64

  Base64 as an encoder writes it and as a lenient decoder reads it: what is not in
  the alphabet is skipped, padding that comes too early is skipped, and the first
  padding that completes a group ends the text.  What is encoded is decoded again
  (`decode_encode`), and an encoded text is longer than its bytes
  (`length_lt_length_encode`), so nothing but the empty text is its own encoding; a
  decoded one is shorter than its text (`length_decode_lt`).
-/

import Mathlib.Data.List.Basic

namespace Tfplenum.Lib.Base64

/-! ## The alphabet -/

def alphabet : List Char :=
  "ABCDEFGHIJKLMNOPQRSTUVWXYZabcdefghijklmnopqrstuvwxyz0123456789+/".toList

def pad : Char := '='

/-- The character of a sextet. -/
def digit (n : Nat) : Char := alphabet.getD n pad

/-- The sextet of a character, where it is in the alphabet. -/
def sextet (c : Char) : Option Nat := alphabet.findIdx? (· = c)

theorem sextet_digit {n : Nat} (h : n < 64) : sextet (digit n) = some n := by
  have hall : ∀ n : Fin 64, sextet (digit n) = some n.val := by decide +kernel
  exact hall ⟨n, h⟩

theorem digit_ne_pad {n : Nat} (h : n < 64) : digit n ≠ pad := by
  have hall : ∀ n : Fin 64, digit n ≠ pad := by decide +kernel
  exact hall ⟨n, h⟩

/-! ## Encoding -/

def encode : List UInt8 → List Char
  | [] => []
  | [a] => [digit (a.toNat / 4), digit (a.toNat % 4 * 16), pad, pad]
  | [a, b] =>
      [digit (a.toNat / 4), digit (a.toNat % 4 * 16 + b.toNat / 16), digit (b.toNat % 16 * 4), pad]
  | a :: b :: c :: bytes =>
      digit (a.toNat / 4) :: digit (a.toNat % 4 * 16 + b.toNat / 16) ::
        digit (b.toNat % 16 * 4 + c.toNat / 64) :: digit (c.toNat % 64) :: encode bytes

/-- Encoding makes a text longer. -/
theorem length_lt_length_encode {bytes : List UInt8} (h : bytes ≠ []) :
    bytes.length < (encode bytes).length := by
  induction bytes using encode.induct with
  | case1 => exact absurd rfl h
  | case2 a => simp [encode]
  | case3 a b => simp [encode]
  | case4 a b c bytes ih =>
      by_cases hbytes : bytes = []
      · subst hbytes
        simp [encode]
      · have hlt := ih hbytes
        simp only [encode, List.length_cons]
        omega

/-! ## Decoding -/

/-- The decoder within a group: the sextets of the group read so far, the bits of
    the last one that are not written yet, and the padding read since. -/
def decodeFrom (quad left pads : Nat) : List Char → Option (List UInt8)
  | [] => if quad = 0 then some [] else none
  | c :: cs =>
      if c = pad then
        if 2 ≤ quad then
          -- the padding that completes the group ends the text
          if 4 ≤ quad + (pads + 1) then some [] else decodeFrom quad left (pads + 1) cs
        else decodeFrom quad left pads cs
      else
        match sextet c with
        | none => decodeFrom quad left pads cs
        | some n =>
            if quad = 0 then decodeFrom 1 n 0 cs
            else if quad = 1 then
              (decodeFrom 2 (n % 16) 0 cs).map (UInt8.ofNat (left * 4 + n / 16) :: ·)
            else if quad = 2 then
              (decodeFrom 3 (n % 4) 0 cs).map (UInt8.ofNat (left * 16 + n / 4) :: ·)
            else (decodeFrom 0 0 0 cs).map (UInt8.ofNat (left * 64 + n) :: ·)

def decode (cs : List Char) : Option (List UInt8) := decodeFrom 0 0 0 cs

section Steps

variable {n left pads : Nat} (cs : List Char)

theorem decodeFrom_zero (h : n < 64) :
    decodeFrom 0 left pads (digit n :: cs) = decodeFrom 1 n 0 cs := by
  rw [decodeFrom, if_neg (digit_ne_pad h), sextet_digit h]
  rfl

theorem decodeFrom_one (h : n < 64) : decodeFrom 1 left pads (digit n :: cs) =
    (decodeFrom 2 (n % 16) 0 cs).map (UInt8.ofNat (left * 4 + n / 16) :: ·) := by
  rw [decodeFrom, if_neg (digit_ne_pad h), sextet_digit h]
  rfl

theorem decodeFrom_two (h : n < 64) : decodeFrom 2 left pads (digit n :: cs) =
    (decodeFrom 3 (n % 4) 0 cs).map (UInt8.ofNat (left * 16 + n / 4) :: ·) := by
  rw [decodeFrom, if_neg (digit_ne_pad h), sextet_digit h]
  rfl

theorem decodeFrom_three (h : n < 64) : decodeFrom 3 left pads (digit n :: cs) =
    (decodeFrom 0 0 0 cs).map (UInt8.ofNat (left * 64 + n) :: ·) := by
  rw [decodeFrom, if_neg (digit_ne_pad h), sextet_digit h]
  rfl

end Steps

/-- A byte is what its two parts in a group make. -/
theorem ofNat_eq {a : UInt8} {n : Nat} (h : n = a.toNat) : UInt8.ofNat n = a := by
  rw [h, UInt8.ofNat_toNat]

/-- What is encoded is decoded again. -/
theorem decode_encode (bytes : List UInt8) : decode (encode bytes) = some bytes := by
  unfold decode
  induction bytes using encode.induct with
  | case1 => rfl
  | case2 a =>
      have ha := a.toNat_lt
      rw [encode, decodeFrom_zero _ (by omega), decodeFrom_one _ (by omega)]
      have hbyte : UInt8.ofNat (a.toNat / 4 * 4 + a.toNat % 4 * 16 / 16) = a := ofNat_eq (by omega)
      rw [hbyte]
      rfl
  | case3 a b =>
      have ha := a.toNat_lt
      have hb := b.toNat_lt
      rw [encode, decodeFrom_zero _ (by omega), decodeFrom_one _ (by omega),
        decodeFrom_two _ (by omega)]
      have hfirst : UInt8.ofNat (a.toNat / 4 * 4 + (a.toNat % 4 * 16 + b.toNat / 16) / 16) = a :=
        ofNat_eq (by omega)
      have hsecond : UInt8.ofNat
          ((a.toNat % 4 * 16 + b.toNat / 16) % 16 * 16 + b.toNat % 16 * 4 / 4) = b :=
        ofNat_eq (by omega)
      rw [hfirst, hsecond]
      rfl
  | case4 a b c bytes ih =>
      have ha := a.toNat_lt
      have hb := b.toNat_lt
      have hc := c.toNat_lt
      rw [encode, decodeFrom_zero _ (by omega), decodeFrom_one _ (by omega),
        decodeFrom_two _ (by omega), decodeFrom_three _ (by omega), ih]
      have hfirst : UInt8.ofNat (a.toNat / 4 * 4 + (a.toNat % 4 * 16 + b.toNat / 16) / 16) = a :=
        ofNat_eq (by omega)
      have hsecond : UInt8.ofNat ((a.toNat % 4 * 16 + b.toNat / 16) % 16 * 16 +
          (b.toNat % 16 * 4 + c.toNat / 64) / 4) = b := ofNat_eq (by omega)
      have hthird : UInt8.ofNat
          ((b.toNat % 16 * 4 + c.toNat / 64) % 4 * 64 + c.toNat % 64) = c := ofNat_eq (by omega)
      rw [hfirst, hsecond, hthird]
      rfl

/-- Within a group no more bytes come out than characters are left. -/
theorem length_decodeFrom_le {quad left pads : Nat} {cs : List Char} {bytes : List UInt8}
    (h : decodeFrom quad left pads cs = some bytes) : bytes.length ≤ cs.length := by
  induction cs generalizing quad left pads bytes with
  | nil =>
      rw [decodeFrom] at h
      split at h
      · cases h
        exact Nat.le_refl _
      · cases h
  | cons c cs ih =>
      have hskip : ∀ {quad left pads : Nat}, decodeFrom quad left pads cs = some bytes →
          bytes.length ≤ (c :: cs).length := fun h => Nat.le_succ_of_le (ih h)
      have hbyte : ∀ {quad left pads : Nat} {byte : UInt8},
          (decodeFrom quad left pads cs).map (byte :: ·) = some bytes →
            bytes.length ≤ (c :: cs).length := by
        intro quad left pads byte h
        obtain ⟨rest, hrest, rfl⟩ := Option.map_eq_some_iff.mp h
        exact Nat.succ_le_succ (ih hrest)
      rw [decodeFrom] at h
      split at h
      · split at h
        · split at h
          · cases h
            exact Nat.zero_le _
          · exact hskip h
        · exact hskip h
      · split at h
        · exact hskip h
        · split at h
          · exact hskip h
          · split at h
            · exact hbyte h
            · split at h
              · exact hbyte h
              · exact hbyte h

/-- Decoding makes a text shorter. -/
theorem length_decode_lt {cs : List Char} {bytes : List UInt8} (hcs : cs ≠ [])
    (h : decode cs = some bytes) : bytes.length < cs.length := by
  cases cs with
  | nil => exact absurd rfl hcs
  | cons c cs =>
      -- the first character of a group gives no byte
      have hfirst : ∃ quad left pads, decodeFrom quad left pads cs = some bytes := by
        rw [decode, decodeFrom] at h
        split at h
        · exact ⟨_, _, _, h⟩
        · split at h
          · exact ⟨_, _, _, h⟩
          · exact ⟨_, _, _, h⟩
      obtain ⟨quad, left, pads, hrest⟩ := hfirst
      exact Nat.lt_succ_of_le (length_decodeFrom_le hrest)

end Tfplenum.Lib.Base64
