/-
  Tfplenum.Lib.IPv4

  Dotted-quad addresses: an address is four octets, so a value out of range
  cannot be built.  `parse` reads the notation as Python's `ipaddress` module
  does: four fields of one to three decimal digits, where a field that would
  read differently as an octal number is refused.  `print` writes it, and what it
  writes is read back.
-/

import Mathlib.Algebra.Ring.Nat
import Mathlib.Data.Fin.Basic

namespace Tfplenum.Lib

instance neZeroOctet : @NeZero Nat Zero.ofOfNat0 256 :=
  @NeZero.mk Nat Zero.ofOfNat0 256 (Nat.succ_ne_zero 255)

/-- An address, most significant octet first. -/
structure IPv4Address where
  a : Fin 256
  b : Fin 256
  c : Fin 256
  d : Fin 256
deriving DecidableEq, Repr

namespace IPv4Address

/-- The value of decimal digits, `none` when there is another character. -/
def digitsValue : List Char → Option Nat
  | [] => some 0
  | ch :: cs =>
      if '0' ≤ ch ∧ ch ≤ '9' then
        (digitsValue cs).map fun n => (ch.toNat - '0'.toNat) * 10 ^ cs.length + n
      else none

/-- One field of the notation. -/
def parseOctet (cs : List Char) : Option (Fin 256) :=
  if cs = [] ∨ 3 < cs.length then none
  else
    match digitsValue cs with
    | none => none
    | some n =>
        -- a leading zero is refused where the number is not the same in octal
        if 7 < n ∧ cs.head? = some '0' then none
        else if h : n < 256 then some ⟨n, h⟩ else none

def parseChars (cs : List Char) : Option IPv4Address :=
  match cs.splitOn '.' with
  | [w, x, y, z] =>
      match parseOctet w, parseOctet x, parseOctet y, parseOctet z with
      | some a, some b, some c, some d => some ⟨a, b, c, d⟩
      | _, _, _, _ => none
  | _ => none

/-- `IPv4Address(text)`, `none` where it raises. -/
def parse (text : String) : Option IPv4Address :=
  parseChars text.toList

def printOctet (n : Fin 256) : List Char :=
  Nat.toDigits 10 n

def printChars (ip : IPv4Address) : List Char :=
  ['.'].intercalate [printOctet ip.a, printOctet ip.b, printOctet ip.c, printOctet ip.d]

/-- `str(address)` -/
def print (ip : IPv4Address) : String :=
  String.ofList ip.printChars

theorem parseOctet_printOctet : ∀ n : Fin 256, parseOctet (printOctet n) = some n := by
  decide +kernel

theorem dot_notMem_printOctet : ∀ n : Fin 256, '.' ∉ printOctet n := by
  decide +kernel

theorem splitOn_printChars (ip : IPv4Address) : ip.printChars.splitOn '.' =
    [printOctet ip.a, printOctet ip.b, printOctet ip.c, printOctet ip.d] := by
  refine List.splitOn_intercalate '.' ?_ (by simp)
  intro l hl
  simp only [List.mem_cons, List.not_mem_nil, or_false] at hl
  rcases hl with rfl | rfl | rfl | rfl <;> exact dot_notMem_printOctet _

/-- What is printed is read back. -/
theorem parse_print (ip : IPv4Address) : parse ip.print = some ip := by
  rw [parse, print, String.toList_ofList, parseChars, splitOn_printChars]
  simp only [parseOctet_printOctet]

theorem printOctet_inj {n m : Fin 256} (h : printOctet n = printOctet m) : n = m := by
  have hparse := parseOctet_printOctet n
  rw [h, parseOctet_printOctet] at hparse
  exact (Option.some.inj hparse).symm

theorem printChars_eq (ip : IPv4Address) :
    ip.printChars = (printOctet ip.a ++ '.' :: printOctet ip.b ++ '.' :: printOctet ip.c) ++
      '.' :: printOctet ip.d := by
  simp [printChars, List.intercalate]

/-- The last octet is read behind the last dot. -/
theorem dot_printOctet_suffix_iff (n : Fin 256) (ip : IPv4Address) :
    '.' :: printOctet n <:+ ip.printChars ↔ ip.d = n := by
  -- a text behind a dot, within one that has no other dot
  have hwithin {n m : Fin 256} (h : '.' :: printOctet n <:+ '.' :: printOctet m) : m = n := by
    rcases List.suffix_cons_iff.mp h with heq | hsuffix
    · exact (printOctet_inj (List.cons.inj heq).2).symm
    · exact absurd (hsuffix.subset (List.mem_cons_self ..)) (dot_notMem_printOctet m)
  rw [printChars_eq]
  constructor
  · intro h
    rcases List.suffix_or_suffix_of_suffix h (List.suffix_append ..) with h | h
    · exact hwithin h
    · exact (hwithin h).symm
  · rintro rfl
    exact List.suffix_append ..

end IPv4Address

end Tfplenum.Lib
