/-
  Tfplenum.Lib.Word32

  JavaScript's bitwise operators on whole numbers: the operands are taken modulo 2 ^ 32 and
  the result is read with its sign, except that of `>>> 0`.

  A number stands for a word (`BitVec.ofInt 32`), and each operator works on the words.
-/

import Mathlib.Algebra.Ring.Int.Defs
import Mathlib.Algebra.Ring.Nat

namespace Tfplenum.Lib.Word32

/-- `n << k`, for a count below 32 -/
def shiftLeft (n : Int) (k : Nat) : Int := (BitVec.ofInt 32 n <<< k).toInt

/-- `n >>> 0` -/
def unsigned (n : Int) : Nat := (BitVec.ofInt 32 n).toNat

/-- `m & n` -/
def and (m n : Int) : Int := (BitVec.ofInt 32 m &&& BitVec.ofInt 32 n).toInt

/-- `~n` -/
def not (n : Int) : Int := (~~~BitVec.ofInt 32 n).toInt

theorem ofInt_shiftLeft (n : Int) (k : Nat) :
    BitVec.ofInt 32 (shiftLeft n k) = BitVec.ofInt 32 (n * 2 ^ k) := by
  have htwo : BitVec.twoPow 32 k = BitVec.ofInt 32 (2 ^ k) := by
    apply BitVec.eq_of_toNat_eq
    rw [BitVec.toNat_twoPow, BitVec.toNat_ofInt]
    norm_cast
  rw [shiftLeft, BitVec.ofInt_toInt, BitVec.shiftLeft_eq_mul_twoPow, htwo, BitVec.ofInt_mul]

/-- A number below 2 ^ 32 is its own word. -/
theorem unsigned_natCast {n : Nat} (h : n < 2 ^ 32) : unsigned n = n := by
  rw [unsigned, BitVec.ofInt_natCast, BitVec.toNat_ofNat, Nat.mod_eq_of_lt h]

/-- Results of `&` are the same if their words are, the sign notwithstanding. -/
theorem and_eq_and_iff {m n m' n' : Int} :
    and m n = and m' n' ↔ unsigned m &&& unsigned n = unsigned m' &&& unsigned n' := by
  rw [and, and, BitVec.toInt_inj, ← BitVec.toNat_inj, BitVec.toNat_and, BitVec.toNat_and]
  rfl

end Tfplenum.Lib.Word32
