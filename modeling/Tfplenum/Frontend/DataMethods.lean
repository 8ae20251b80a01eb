/-
  Tfplenum.Frontend.DataMethods

  The subnet test of `data-methods.class.ts`, on JavaScript's signed 32-bit operators.

  The signs cancel: the numbers of the addresses are made unsigned, and the masked ones
  are compared as words (`isIpv4InSubnet_iff`).
-/

import Tfplenum.Lib.Word32
import Tfplenum.Lib.Subnet

namespace Tfplenum

open Lib

namespace DataMethods

/-! ## The test -/

/-- `Number(text)` and `parseInt(text, 10)` of decimal digits; other texts are left out. -/
def decimal (text : List Char) : Option Nat :=
  if text = [] then none else IPv4Address.digitsValue text

/-- `netmask_to_cidr`: the ones in the binary digits of all parts, put together -/
def netmaskToCidr (netmask : String) : Option Nat := do
  let parts ← (netmask.toList.splitOn '.').mapM decimal
  let retVal := parts.flatMap fun (part : Nat) => Nat.toDigits 2 (Word32.unsigned (part : Int))
  return (retVal.splitOn '1').length - 1

/-- `ipv4_to_int` -/
def ipv4ToInt (ip : String) : Option Nat := do
  let octs ← (ip.toList.splitOn '.').mapM decimal
  return Word32.unsigned
    (octs.foldl (fun int (oct : Nat) => Word32.shiftLeft int 8 + (oct : Int)) 0)

/-- `is_ipv4_in_subnet` -/
def isIpv4InSubnet (ip networkIp netmask : String) : Option Bool := do
  let bits ← netmaskToCidr netmask
  let mask := Word32.not (2 ^ (32 - bits) - 1)
  let ip ← ipv4ToInt ip
  let network ← ipv4ToInt networkIp
  return Word32.and ip mask = Word32.and network mask

/-! ## What it is for -/

/-- The text is the address in dotted decimals; a decimal may begin with zeros. -/
def IsDotted (text : String) (ip : IPv4Address) : Prop :=
  ∃ w x y z, text.toList.splitOn '.' = [w, x, y, z] ∧ decimal w = some ip.a.val ∧
    decimal x = some ip.b.val ∧ decimal y = some ip.c.val ∧ decimal z = some ip.d.val

variable {text : String} {ip : IPv4Address}

theorem parts_of_isDotted (h : IsDotted text ip) :
    (text.toList.splitOn '.').mapM decimal = some [ip.a.val, ip.b.val, ip.c.val, ip.d.val] := by
  obtain ⟨w, x, y, z, hsplit, hw, hx, hy, hz⟩ := h
  rw [hsplit]
  simp [hw, hx, hy, hz]

/-! ## Addresses -/

/-- Each octet is added to what was there, moved up by one octet; the word is that of the sum
    with no bound. -/
theorem ofInt_step (int : Int) {value : Nat} (oct : Nat)
    (h : BitVec.ofInt 32 int = BitVec.ofNat 32 value) :
    BitVec.ofInt 32 (Word32.shiftLeft int 8 + (oct : Int)) =
      BitVec.ofNat 32 (value * 256 + oct) := by
  rw [BitVec.ofInt_add, Word32.ofInt_shiftLeft, BitVec.ofInt_mul, h, BitVec.ofInt_natCast,
    BitVec.ofNat_add, BitVec.ofNat_mul]
  rfl

theorem ipv4ToInt_eq (h : IsDotted text ip) : ipv4ToInt text = some ip.toNat := by
  have hword : BitVec.ofInt 32 ([ip.a.val, ip.b.val, ip.c.val, ip.d.val].foldl
      (fun int (oct : Nat) => Word32.shiftLeft int 8 + (oct : Int)) 0) =
        BitVec.ofNat 32 ip.toNat := by
    -- the fold may leave the signed range in between; its word is that of the sum all along
    have hstart : BitVec.ofInt 32 0 = BitVec.ofNat 32 0 := rfl
    have hw := ofInt_step 0 ip.a.val hstart
    have hx := ofInt_step _ ip.b.val hw
    have hy := ofInt_step _ ip.c.val hx
    have hz := ofInt_step _ ip.d.val hy
    have htotal : (((0 * 256 + ip.a.val) * 256 + ip.b.val) * 256 + ip.c.val) * 256 + ip.d.val =
        ip.toNat := by
      simp only [IPv4Address.toNat]
      omega
    rw [← htotal, ← hz]
    rfl
  rw [ipv4ToInt, parts_of_isDotted h, Option.bind_eq_bind, Option.bind_some, Word32.unsigned, hword,
    BitVec.toNat_ofNat, Nat.mod_eq_of_lt ip.toNat_lt]
  rfl

/-! ## Masks -/

/-- The ones of a contiguous mask are as many as its prefix is long. -/
theorem netmaskToCidr_eq {prefixLen : Fin 33} (h : IsDotted text (IPv4Network.netmask prefixLen)) :
    netmaskToCidr text = some prefixLen.val := by
  have hones : ∀ prefixLen : Fin 33,
      (([(IPv4Network.netmask prefixLen).a.val, (IPv4Network.netmask prefixLen).b.val,
        (IPv4Network.netmask prefixLen).c.val, (IPv4Network.netmask prefixLen).d.val].flatMap
          fun (part : Nat) => Nat.toDigits 2 (Word32.unsigned (part : Int))).splitOn
            '1').length - 1 = prefixLen.val := by
    decide +kernel
  rw [netmaskToCidr, parts_of_isDotted h]
  exact congrArg some (hones prefixLen)

/-- As a word, the mask is the netmask; at the ends the power is 2 ^ 32 and 1. -/
theorem unsigned_mask : ∀ prefixLen : Fin 33,
    Word32.unsigned (Word32.not (2 ^ (32 - prefixLen.val) - 1)) =
      (IPv4Network.netmask prefixLen).toNat := by
  decide +kernel

/-- For every two addresses and every contiguous netmask, the test compares what the mask leaves
    of the unsigned numbers. -/
theorem isIpv4InSubnet_iff {ipText networkText maskText : String} {ip network : IPv4Address}
    {prefixLen : Fin 33} (hip : IsDotted ipText ip) (hnetwork : IsDotted networkText network)
    (hmask : IsDotted maskText (IPv4Network.netmask prefixLen)) :
    ∃ inSubnet, isIpv4InSubnet ipText networkText maskText = some inSubnet ∧
      (inSubnet = true ↔ ip.toNat &&& (IPv4Network.netmask prefixLen).toNat =
        network.toNat &&& (IPv4Network.netmask prefixLen).toNat) := by
  refine ⟨_, ?_, decide_eq_true_iff⟩
  have hsame : Word32.and ip.toNat (Word32.not (2 ^ (32 - prefixLen.val) - 1)) =
        Word32.and network.toNat (Word32.not (2 ^ (32 - prefixLen.val) - 1)) ↔
      ip.toNat &&& (IPv4Network.netmask prefixLen).toNat =
        network.toNat &&& (IPv4Network.netmask prefixLen).toNat := by
    rw [Word32.and_eq_and_iff, unsigned_mask, Word32.unsigned_natCast ip.toNat_lt,
      Word32.unsigned_natCast network.toNat_lt]
  rw [isIpv4InSubnet, netmaskToCidr_eq hmask, ipv4ToInt_eq hip, ipv4ToInt_eq hnetwork]
  exact congrArg some (decide_eq_decide.mpr hsame)

/-- An address above 128.0.0.0 and the mask of one bit -/
theorem isIpv4InSubnet_high : ∃ inSubnet,
    isIpv4InSubnet "200.1.2.3" "128.0.0.0" "128.0.0.0" = some inSubnet ∧
      (inSubnet = true ↔ (⟨200, 1, 2, 3⟩ : IPv4Address).toNat &&&
        (IPv4Network.netmask 1).toNat = (⟨128, 0, 0, 0⟩ : IPv4Address).toNat &&&
          (IPv4Network.netmask 1).toNat) := by
  have hip : IsDotted "200.1.2.3" ⟨200, 1, 2, 3⟩ :=
    ⟨"200".toList, ['1'], ['2'], ['3'], by decide +kernel, by decide, by decide, by decide,
      by decide⟩
  have hmask : IsDotted "128.0.0.0" ⟨128, 0, 0, 0⟩ :=
    ⟨"128".toList, ['0'], ['0'], ['0'], by decide +kernel, by decide, by decide, by decide,
      by decide⟩
  have hnetmask : IPv4Network.netmask 1 = ⟨128, 0, 0, 0⟩ := by decide +kernel
  exact isIpv4InSubnet_iff hip hmask (hnetmask ▸ hmask)

end DataMethods

end Tfplenum
