/-
  Tfplenum.Lib.Subnet

  IPv4 networks: a prefix length and a first address aligned to it, so that a network
  with host bits cannot be built.  `parse` reads the notation as Python's `ipaddress`
  module does, and `subnets` divides a network into the networks of a longer prefix;
  these are a partition of it.
-/

import Mathlib.Tactic.Ring
import Tfplenum.Lib.IPv4

namespace Tfplenum.Lib

namespace IPv4Address

/-- `int(address)` -/
def toNat (ip : IPv4Address) : Nat :=
  ((ip.a.val * 256 + ip.b.val) * 256 + ip.c.val) * 256 + ip.d.val

/-- `IPv4Address(n)`, of a number below `2 ^ 32` -/
def ofNat (n : Nat) : IPv4Address where
  a := Fin.ofNat 256 (n / 16777216)
  b := Fin.ofNat 256 (n / 65536)
  c := Fin.ofNat 256 (n / 256)
  d := Fin.ofNat 256 n

theorem toNat_lt (ip : IPv4Address) : ip.toNat < 2 ^ 32 := by
  have ha := ip.a.isLt
  have hb := ip.b.isLt
  have hc := ip.c.isLt
  have hd := ip.d.isLt
  unfold toNat
  omega

theorem toNat_ofNat {n : Nat} (h : n < 2 ^ 32) : (ofNat n).toNat = n := by
  simp only [toNat, ofNat, Fin.val_ofNat]
  omega

theorem ofNat_toNat (ip : IPv4Address) : ofNat ip.toNat = ip := by
  rcases ip with ⟨⟨a, ha⟩, ⟨b, hb⟩, ⟨c, hc⟩, ⟨d, hd⟩⟩
  simp only [toNat, ofNat, IPv4Address.mk.injEq, Fin.ext_iff, Fin.val_ofNat]
  omega

theorem toNat_inj {ip ip' : IPv4Address} (h : ip.toNat = ip'.toNat) : ip = ip' := by
  rw [← ofNat_toNat ip, h, ofNat_toNat]

end IPv4Address

structure IPv4Network where
  /-- the number of the first address -/
  base : Nat
  prefixLen : Fin 33
  aligned : 2 ^ (32 - prefixLen.val) ∣ base
  small : base < 2 ^ 32

/-- Why a text is no network. -/
inductive NetworkError where
  | invalid
  | hostBits (address : IPv4Address) (prefixLen : Nat)
deriving DecidableEq, Repr

namespace IPv4Network

@[ext] theorem ext {n n' : IPv4Network} (hbase : n.base = n'.base)
    (hlen : n.prefixLen = n'.prefixLen) : n = n' := by
  cases n
  cases n'
  cases hbase
  cases hlen
  rfl

def size (n : IPv4Network) : Nat := 2 ^ (32 - n.prefixLen.val)

/-- `network[0]` -/
def first (n : IPv4Network) : IPv4Address := .ofNat n.base

/-- `network[-1]` -/
def last (n : IPv4Network) : IPv4Address := .ofNat (n.base + (n.size - 1))

/-- `address in network` -/
def contains (n : IPv4Network) (ip : IPv4Address) : Bool := ip.toNat / n.size * n.size = n.base

theorem size_pos (n : IPv4Network) : 0 < n.size := Nat.two_pow_pos _

theorem contains_iff (n : IPv4Network) (ip : IPv4Address) :
    n.contains ip = true ↔ n.base ≤ ip.toNat ∧ ip.toNat < n.base + n.size := by
  obtain ⟨k, hk⟩ := n.aligned
  have hpos := n.size_pos
  have hdiv := Nat.div_add_mod ip.toNat n.size
  have hmod := Nat.mod_lt ip.toNat hpos
  rw [contains, decide_eq_true_iff]
  rw [← size] at hk
  constructor
  · intro heq
    rw [Nat.mul_comm] at heq
    omega
  · rintro ⟨hlow, hhigh⟩
    have hquot : ip.toNat / n.size = k := by
      apply Nat.div_eq_of_lt_le
      · rw [Nat.mul_comm]
        omega
      · rw [Nat.succ_mul, Nat.mul_comm]
        omega
    rw [hquot, hk, Nat.mul_comm]

theorem first_toNat (n : IPv4Network) : n.first.toNat = n.base := IPv4Address.toNat_ofNat n.small

theorem contains_first (n : IPv4Network) : n.contains n.first = true := by
  have hpos := n.size_pos
  rw [contains_iff, first_toNat]
  omega

/-- A network ends below the end of the address space. -/
theorem base_add_size_le (n : IPv4Network) : n.base + n.size ≤ 2 ^ 32 := by
  obtain ⟨k, hk⟩ := n.aligned
  have hsmall := n.small
  have hsplit : n.size * 2 ^ n.prefixLen.val = 2 ^ 32 := by
    rw [size, ← Nat.pow_add]
    congr 1
    have hlen := n.prefixLen.isLt
    omega
  rw [← size] at hk
  rw [hk, ← hsplit] at hsmall ⊢
  have hlt := Nat.lt_of_mul_lt_mul_left hsmall
  calc n.size * k + n.size = n.size * (k + 1) := by ring
    _ ≤ n.size * 2 ^ n.prefixLen.val := Nat.mul_le_mul_left _ hlt

theorem last_toNat (n : IPv4Network) : n.last.toNat = n.base + (n.size - 1) := by
  have hend := n.base_add_size_le
  have hpos := n.size_pos
  exact IPv4Address.toNat_ofNat (by omega)

/-! ## Reading -/

/-- The network of a prefix length that an address is in. -/
def around (ip : IPv4Address) (prefixLen : Fin 33) : IPv4Network where
  base := ip.toNat / 2 ^ (32 - prefixLen.val) * 2 ^ (32 - prefixLen.val)
  prefixLen := prefixLen
  aligned := Nat.dvd_mul_left ..
  small := Nat.lt_of_le_of_lt (Nat.div_mul_le_self ..) ip.toNat_lt

theorem contains_around (ip ip' : IPv4Address) (prefixLen : Fin 33) :
    (around ip prefixLen).contains ip' = true ↔
      ip'.toNat / 2 ^ (32 - prefixLen.val) = ip.toNat / 2 ^ (32 - prefixLen.val) := by
  rw [contains, decide_eq_true_iff]
  exact Nat.mul_left_inj (Nat.two_pow_pos _).ne'

/-- The netmask of a prefix length. -/
def netmask (prefixLen : Fin 33) : IPv4Address := .ofNat (2 ^ 32 - 2 ^ (32 - prefixLen.val))

/-- The prefix length of a netmask. -/
def prefixOfMask (mask : Nat) : Option (Fin 33) :=
  (List.finRange 33).find? fun prefixLen => 2 ^ 32 - 2 ^ (32 - prefixLen.val) = mask

/-- A prefix length in digits, or as a netmask or a host mask. -/
def parsePrefix (text : String) : Option (Fin 33) :=
  match (if text = "" then none else IPv4Address.digitsValue text.toList) with
  | some n => if h : n < 33 then some ⟨n, h⟩ else none
  | none =>
      match IPv4Address.parse text with
      | some ip => prefixOfMask ip.toNat <|> prefixOfMask (2 ^ 32 - 1 - ip.toNat)
      | none => none

/-- `ip_network(text, strict)` -/
def parse (strict : Bool) (text : String) : Except NetworkError IPv4Network :=
  let build (ip : Option IPv4Address) (prefixLen : Option (Fin 33)) :
      Except NetworkError IPv4Network :=
    match ip, prefixLen with
    | some ip, some prefixLen =>
        if strict ∧ (around ip prefixLen).base ≠ ip.toNat then .error (.hostBits ip prefixLen)
        else .ok (around ip prefixLen)
    | _, _ => .error .invalid
  match (text.toList.splitOn '/').map String.ofList with
  | [address] => build (IPv4Address.parse address) (some 32)
  | [address, mask] => build (IPv4Address.parse address) (parsePrefix mask)
  | _ => .error .invalid

/-- The prefix of networks of 32 addresses. -/
abbrev prefix27 : Fin 33 := 27

theorem prefixOfMask_netmask : ∀ prefixLen : Fin 33,
    prefixOfMask (netmask prefixLen).toNat = some prefixLen := by
  decide +kernel

theorem digitsValue_netmask : ∀ prefixLen : Fin 33,
    IPv4Address.digitsValue (netmask prefixLen).print.toList = none := by
  decide +kernel

theorem parsePrefix_netmask (prefixLen : Fin 33) :
    parsePrefix (netmask prefixLen).print = some prefixLen := by
  rw [parsePrefix, digitsValue_netmask, ite_self]
  simp only [IPv4Address.parse_print, prefixOfMask_netmask]
  rfl

theorem slash_notMem_printOctet : ∀ n : Fin 256, '/' ∉ IPv4Address.printOctet n := by
  decide +kernel

theorem slash_notMem_print (ip : IPv4Address) : '/' ∉ ip.print.toList := by
  rw [IPv4Address.print, String.toList_ofList, IPv4Address.printChars]
  simp [List.intercalate, slash_notMem_printOctet]

/-- An address with a prefix. -/
theorem parse_print {strict : Bool} (ip : IPv4Address) {mask : String} {prefixLen : Fin 33}
    (hslash : '/' ∉ mask.toList) (hmask : parsePrefix mask = some prefixLen) :
    parse strict (ip.print ++ "/" ++ mask) =
      if strict ∧ (around ip prefixLen).base ≠ ip.toNat then .error (.hostBits ip prefixLen)
      else .ok (around ip prefixLen) := by
  have htext : (ip.print ++ "/" ++ mask).toList =
      ['/'].intercalate [ip.print.toList, mask.toList] := by
    simp [List.intercalate]
  have hsplit : (ip.print ++ "/" ++ mask).toList.splitOn '/' = [ip.print.toList, mask.toList] := by
    rw [htext]
    refine List.splitOn_intercalate '/' ?_ (by simp)
    intro l hl
    simp only [List.mem_cons, List.not_mem_nil, or_false] at hl
    rcases hl with rfl | rfl
    · exact slash_notMem_print ip
    · exact hslash
  rw [parse, hsplit]
  simp only [List.map_cons, List.map_nil, String.ofList_toList, IPv4Address.parse_print, hmask]

/-- What is read with a mask is the network around an address. -/
theorem exists_of_parse {strict : Bool} {address mask : String} {n : IPv4Network}
    (h : parse strict (address ++ "/" ++ mask) = .ok n) :
    ∃ ip prefixLen, IPv4Address.parse address = some ip ∧ n = around ip prefixLen := by
  have htext : (address ++ "/" ++ mask).toList = address.toList ++ '/' :: mask.toList := by
    simp
  obtain ⟨x, xs, hx⟩ := List.exists_cons_of_ne_nil (List.splitOn_ne_nil '/' address.toList)
  obtain ⟨y, ys, hy⟩ := List.exists_cons_of_ne_nil (List.splitOn_ne_nil '/' mask.toList)
  rw [parse, htext, List.splitOn_append_cons_self, hx, hy] at h
  match xs, ys with
  | [], [] =>
      have haddress : x = address.toList := by
        have hjoined : ['/'].intercalate (address.toList.splitOn '/') = address.toList :=
          List.intercalate_splitOn '/'
        rw [hx] at hjoined
        simpa [List.intercalate] using hjoined
      simp only [List.cons_append, List.nil_append, List.map_cons, List.map_nil, haddress,
        String.ofList_toList] at h
      split at h
      · rename_i ip prefixLen hip hprefix
        split_ifs at h
        exact ⟨ip, prefixLen, hip, (Except.ok.inj h).symm⟩
      · cases h
  | [], _ :: _ => cases h
  | _ :: _, _ => simp at h

/-! ## Subnets -/

section Subnets

variable {n : IPv4Network} {newPrefix : Fin 33}

theorem size_eq (h : n.prefixLen ≤ newPrefix) :
    n.size = 2 ^ (newPrefix.val - n.prefixLen.val) * 2 ^ (32 - newPrefix.val) := by
  rw [size, ← Nat.pow_add]
  congr 1
  have hlen := newPrefix.isLt
  have hle : n.prefixLen.val ≤ newPrefix.val := h
  omega

theorem aligned_of_le (h : n.prefixLen ≤ newPrefix) : 2 ^ (32 - newPrefix.val) ∣ n.base :=
  ((Nat.dvd_mul_left ..).trans (size_eq h).symm.dvd).trans n.aligned

/-- The network of the longer prefix at a step. -/
def subnet (h : n.prefixLen ≤ newPrefix) (i : Fin (2 ^ (newPrefix.val - n.prefixLen.val))) :
    IPv4Network where
  base := n.base + i.val * 2 ^ (32 - newPrefix.val)
  prefixLen := newPrefix
  aligned := Nat.dvd_add (aligned_of_le h) (Nat.dvd_mul_left ..)
  small := by
    refine Nat.lt_of_lt_of_le ?_ n.base_add_size_le
    rw [size_eq h]
    exact Nat.add_lt_add_left (Nat.mul_lt_mul_of_pos_right i.isLt (Nat.two_pow_pos _)) _

/-- `range(start, end, step)` -/
def subnetsFrom (h : n.prefixLen ≤ newPrefix) : List IPv4Network :=
  (List.finRange _).map (subnet h)

/-- A network of the longer prefix that begins in the network is at one of the steps. -/
theorem exists_step (h : n.prefixLen ≤ newPrefix) {b : IPv4Network} (hlen : b.prefixLen = newPrefix)
    (hlow : n.base ≤ b.base) (hhigh : b.base < n.base + n.size) :
    ∃ k, k < 2 ^ (newPrefix.val - n.prefixLen.val) ∧
      b.base = n.base + k * 2 ^ (32 - newPrefix.val) := by
  have haligned := b.aligned
  rw [hlen] at haligned
  obtain ⟨k, hk⟩ := Nat.dvd_sub haligned (aligned_of_le h)
  have hlt : 2 ^ (32 - newPrefix.val) * k <
      2 ^ (32 - newPrefix.val) * 2 ^ (newPrefix.val - n.prefixLen.val) := by
    rw [← hk, Nat.mul_comm, ← size_eq h]
    omega
  refine ⟨k, Nat.lt_of_mul_lt_mul_left hlt, ?_⟩
  rw [Nat.mul_comm, ← hk]
  omega

/-- The subnets are the networks of the longer prefix that begin in the network. -/
theorem mem_subnetsFrom_iff (h : n.prefixLen ≤ newPrefix) (b : IPv4Network) :
    b ∈ subnetsFrom h ↔ b.prefixLen = newPrefix ∧ n.base ≤ b.base ∧ b.base < n.base + n.size := by
  constructor
  · intro hmem
    obtain ⟨i, -, rfl⟩ := List.mem_map.mp hmem
    refine ⟨rfl, Nat.le_add_right .., ?_⟩
    rw [size_eq h]
    exact Nat.add_lt_add_left (Nat.mul_lt_mul_of_pos_right i.isLt (Nat.two_pow_pos _)) _
  · rintro ⟨hlen, hlow, hhigh⟩
    obtain ⟨k, hk, hbase⟩ := exists_step h hlen hlow hhigh
    exact List.mem_map.mpr ⟨⟨k, hk⟩, List.mem_finRange _, ext hbase.symm hlen.symm⟩

/-- The subnets stand in the order of their addresses. -/
theorem pairwise_subnetsFrom (h : n.prefixLen ≤ newPrefix) :
    (subnetsFrom h).Pairwise fun b b' => b.base < b'.base := by
  refine List.pairwise_map.mpr ((List.pairwise_lt_finRange _).imp ?_)
  intro i j hij
  exact Nat.add_lt_add_left (Nat.mul_lt_mul_of_pos_right hij (Nat.two_pow_pos _)) _

/-- A subnet ends in the network. -/
theorem base_add_size_le_of_mem (h : n.prefixLen ≤ newPrefix) {b : IPv4Network}
    (hmem : b ∈ subnetsFrom h) : b.base + b.size ≤ n.base + n.size := by
  obtain ⟨hlen, hlow, hhigh⟩ := (mem_subnetsFrom_iff h b).mp hmem
  obtain ⟨k, hk, hbase⟩ := exists_step h hlen hlow hhigh
  have hend : (k + 1) * 2 ^ (32 - newPrefix.val) ≤ n.size := by
    rw [size_eq h]
    exact Nat.mul_le_mul_right _ hk
  rw [size, hlen, hbase]
  rw [Nat.succ_mul] at hend
  omega

theorem contains_of_mem (h : n.prefixLen ≤ newPrefix) {b : IPv4Network} (hmem : b ∈ subnetsFrom h)
    {ip : IPv4Address} (hin : b.contains ip = true) : n.contains ip = true := by
  obtain ⟨-, hlow, -⟩ := (mem_subnetsFrom_iff h b).mp hmem
  obtain ⟨hb, hb'⟩ := (b.contains_iff ip).mp hin
  have hend := base_add_size_le_of_mem h hmem
  exact (n.contains_iff ip).mpr ⟨hlow.trans hb, hb'.trans_le hend⟩

/-- The subnets are a partition of the network. -/
theorem contains_iff_existsUnique (h : n.prefixLen ≤ newPrefix) (ip : IPv4Address) :
    n.contains ip = true ↔ ∃! b, b ∈ subnetsFrom h ∧ b.contains ip = true := by
  constructor
  · intro hin
    obtain ⟨hlow, hhigh⟩ := (n.contains_iff ip).mp hin
    have hbase : n.base ≤ (around ip newPrefix).base := by
      obtain ⟨k, hk⟩ := aligned_of_le h
      have hle : k ≤ ip.toNat / 2 ^ (32 - newPrefix.val) := by
        rw [Nat.le_div_iff_mul_le (Nat.two_pow_pos _), Nat.mul_comm, ← hk]
        exact hlow
      rw [hk, Nat.mul_comm]
      exact Nat.mul_le_mul_right _ hle
    have hend : (around ip newPrefix).base < n.base + n.size :=
      Nat.lt_of_le_of_lt (Nat.div_mul_le_self ..) hhigh
    refine ⟨around ip newPrefix, ⟨(mem_subnetsFrom_iff h _).mpr ⟨rfl, hbase, hend⟩,
      (contains_around ip ip newPrefix).mpr rfl⟩, ?_⟩
    rintro b ⟨hmem, hcontains⟩
    have hlen := ((mem_subnetsFrom_iff h b).mp hmem).1
    rw [contains, decide_eq_true_iff, size, hlen] at hcontains
    exact ext hcontains.symm hlen
  · rintro ⟨b, ⟨hmem, hcontains⟩, -⟩
    exact contains_of_mem h hmem hcontains

end Subnets

/-- `network.subnets(new_prefix)`, none where it raises. -/
def subnets (n : IPv4Network) (newPrefix : Fin 33) : Option (List IPv4Network) :=
  if n.prefixLen = 32 then some [n]
  else if h : n.prefixLen ≤ newPrefix then some (subnetsFrom h)
  else none

end IPv4Network

end Tfplenum.Lib
