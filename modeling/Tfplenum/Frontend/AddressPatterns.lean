/-
  Tfplenum.Frontend.AddressPatterns

  `IP_CONSTRAINT` and `KUBE_CIDR_CONSTRAINT` of `cvah.constants.ts`, against the addresses
  that `controller/common_controller.py` offers: those that a scan finds unused, and the
  first ones of the blocks for Kubernetes.

  The first octet is written `2[0-2][0-3]` where it is to end at 223, so that two intervals
  below are missing (`InGap`).
-/

import Tfplenum.Controller.ControllerInfo
import Tfplenum.Lib.Fallible
import Tfplenum.Lib.WordPattern
import Tfplenum.Service.AgentService

namespace Tfplenum

open Lib Lib.Regex

/-! ## The patterns -/

/-- `(2[0-2][0-3])|(1\d\d)|([1-9]?\d)` -/
def firstOctet : Regex (List Char) :=
  (((text ['2']).append (digitIn 0 2)).append (digitIn 0 3)).either
    ((((text ['1']).append (digitIn 0 9)).append (digitIn 0 9)).either
      ((digitIn 1 9).optional.append (digitIn 0 9)))

/-- `(25[0-hi])|(2[0-4]\d)|(1\d\d)|([1-9]?\d)` -/
def octetTo25 (hi : Nat) : Regex (List Char) :=
  ((text ['2', '5']).append (digitIn 0 hi)).either
    ((((text ['2']).append (digitIn 0 4)).append (digitIn 0 9)).either
      ((((text ['1']).append (digitIn 0 9)).append (digitIn 0 9)).either
        ((digitIn 1 9).optional.append (digitIn 0 9))))

/-- `(2[0-3]\d)|(1\d\d)|([1-9]?\d)` -/
def blockOctet : Regex (List Char) :=
  (((text ['2']).append (digitIn 0 3)).append (digitIn 0 9)).either
    ((((text ['1']).append (digitIn 0 9)).append (digitIn 0 9)).either
      ((digitIn 1 9).optional.append (digitIn 0 9)))

/-- `(first)(\.(25[0-5]|...)){2}\.(last)` -/
def dottedPattern (first last : Regex (List Char)) : Regex (List Char) :=
  first.append
    ((times 2 ((text ['.']).append (octetTo25 5))).append ((text ['.']).append last))

/-- `IP_CONSTRAINT` -/
def ipConstraint : Regex (List Char) := dottedPattern firstOctet (octetTo25 4)

/-- `KUBE_CIDR_CONSTRAINT` -/
def kubeCidrConstraint : Regex (List Char) := dottedPattern firstOctet blockOctet

/-- `new RegExp(constraint).test(value)`, which the validator `pattern` asks of a value that is
    not empty. -/
def accepts (constraint : Regex (List Char)) (value : String) : Bool := constraint.test value.toList

/-! ## The unused addresses -/

/-- `ipaddress.IPv4Network("0.0.0.0/{}".format(netmask)).prefixlen` -/
def netmaskPrefix (netmask : String) : Except PyError (Fin 33) :=
  if '/' ∈ netmask.toList then .error (.other "AddressValueError")
  else match IPv4Network.parsePrefix netmask with
  | some prefixLen => .ok prefixLen
  | none => .error (.other "NetmaskValueError")

/-- `ipaddress.IPv4Address(ip)` -/
def ipv4Address (ip : String) : Except PyError IPv4Address :=
  match IPv4Address.parse ip with
  | some ip => .ok ip
  | none => .error (.other "AddressValueError")

/-- What `_nmap_scan` makes of the parts of the path. -/
def scanned (ip netmask : String) : Except PyError (IPv4Address × Fin 33) := do
  let cidr ← netmaskPrefix netmask
  let ip ← ipv4Address ip
  return (ip, cidr)

/-- `_nmap_scan`; what is run gives the text of the standard output. -/
def nmapScan (runCommand : String → Except PyError String) (ip netmask : String) (used : Bool) :
    Except PyError (List String) := do
  let status := if used then "Up" else "Down"
  let (ip, cidr) ← scanned ip netmask
  let stdout ← runCommand
    (s!"nmap -sn -n -T5 --min-parallelism 100 {ip.print}/{cidr.val} -v -oG - | " ++
      s!"awk '/Status: {status}/\x7bprint $2\x7d'")
  return (stdout.toList.splitOn '\n').map String.ofList

/-- `filter_ip` -/
def filterIp (ipaddress : String) : Bool :=
  !isIpv4Address ipaddress || ['.', '0'].isSuffixOf ipaddress.toList || ipaddress = ""

/-- `UnusedIPAddresses.get`, with the message of an answer with status 500. -/
def UnusedIPAddresses.get (runCommand : String → Except PyError String)
    (ipOrNetworkId netmask : String) : Except PyError (Except String (List String)) :=
  match nmapScan runCommand ipOrNetworkId netmask false with
  | .ok addresses => .ok (.ok (addresses.filter fun x => !filterIp x))
  | .error (.other "AddressValueError") => .ok (.error "Invalid IP Address Error")
  | .error (.other "NetmaskValueError") => .ok (.error "Invalid Netmask Error")
  | .error e => .error e

/-! ## What is meant -/

/-- Four numbers in canonical decimals, the first and the last with a property. -/
def IsQuad (p q : Nat → Prop) (value : String) : Prop :=
  ∃ a b c d : Nat, p a ∧ b ≤ 255 ∧ c ≤ 255 ∧ q d ∧ value = s!"{a}.{b}.{c}.{d}"

/-- The address of a unicast host, in dotted decimals. -/
def IsAddress (value : String) : Prop := IsQuad (fun a => a ≤ 223) (fun d => d ≤ 254) value

/-- What the first octet misses below 224. -/
def InGap (a : Nat) : Prop := 204 ≤ a ∧ a ≤ 209 ∨ 214 ≤ a ∧ a ≤ 219

instance (a : Nat) : Decidable (InGap a) := inferInstanceAs (Decidable (_ ∨ _))

theorem le_of_inGap {a : Nat} (h : InGap a) : a ≤ 223 := by
  unfold InGap at h
  omega

def IsUnicast (network : IPv4Network) : Prop :=
  ∀ ip, network.contains ip = true → ip.a.val ≤ 223

/-- An address of the network that is neither the network's own nor for broadcasts. -/
def IsHost (network : IPv4Network) (ip : IPv4Address) : Prop :=
  network.contains ip = true ∧
    (31 ≤ network.prefixLen.val ∨ ip ≠ network.first ∧ ip ≠ network.last)

/-- The endpoint scans the network, and the scan lists the addresses. -/
def Scans (runCommand : String → Except PyError String) (ipOrNetworkId netmask : String)
    (network : IPv4Network) (addresses : List String) : Prop :=
  (∃ ip cidr, scanned ipOrNetworkId netmask = .ok (ip, cidr) ∧ network = .around ip cidr) ∧
    nmapScan runCommand ipOrNetworkId netmask false = .ok addresses

/-! ## Octets -/

theorem numerals_upTo99 :
    Numerals ((digitIn 1 9).optional.append (digitIn 0 9)) (fun n => n ≤ 99) := by
  have htens : Numerals (digitIn 1 9) (fun n => 1 ≤ n ∧ n ≤ 9) := numerals_digitIn (by decide)
  have hones : Numerals (digitIn 0 9) (fun n => 0 ≤ n ∧ n ≤ 9) := numerals_digitIn (by decide)
  refine (htens.optional_append ?_ hones ?_).congr ?_ <;> intro n <;> omega

theorem numerals_upTo199 :
    Numerals ((((text ['1']).append (digitIn 0 9)).append (digitIn 0 9)).either
      ((digitIn 1 9).optional.append (digitIn 0 9))) (fun n => n ≤ 199) := by
  have hone : Numerals (text ['1']) (fun n => n = 1) := numerals_text 1
  have htens : Numerals ((text ['1']).append (digitIn 0 9)) (fun n => 10 ≤ n ∧ n ≤ 19) := by
    refine (hone.append_digitIn ?_ (by decide)).congr ?_ <;> intro n <;> omega
  have hhundreds : Numerals (((text ['1']).append (digitIn 0 9)).append (digitIn 0 9))
      (fun n => 100 ≤ n ∧ n ≤ 199) := by
    refine (htens.append_digitIn ?_ (by decide)).congr ?_ <;> intro n <;> omega
  refine (hhundreds.either numerals_upTo99).congr ?_
  intro n
  omega

/-- A first digit 2, a second one up to `mid`, and a third one up to `hi`. -/
theorem numerals_two {mid hi : Nat} (hmid : mid < 10) (hhi : hi < 10) :
    Numerals (((text ['2']).append (digitIn 0 mid)).append (digitIn 0 hi))
      (fun n => 200 ≤ n ∧ n / 10 ≤ 20 + mid ∧ n % 10 ≤ hi) := by
  have htwo : Numerals (text ['2']) (fun n => n = 2) := numerals_text 2
  have htens : Numerals ((text ['2']).append (digitIn 0 mid))
      (fun n => 20 ≤ n ∧ n ≤ 20 + mid) := by
    refine (htwo.append_digitIn ?_ hmid).congr ?_ <;> intro n <;> omega
  refine (htens.append_digitIn ?_ hhi).congr ?_ <;> intro n <;> omega

/-- Below 224, the numbers of two intervals are missing. -/
theorem numerals_firstOctet : Numerals firstOctet (fun n => n ≤ 223 ∧ ¬ InGap n) := by
  -- 200 to 203, 210 to 213 and 220 to 223, and what is below 200
  refine ((numerals_two (by decide) (by decide)).either numerals_upTo199).congr ?_
  intro n
  unfold InGap
  omega

theorem numerals_octetTo25 {hi : Nat} (hhi : hi < 10) :
    Numerals (octetTo25 hi) (fun n => n ≤ 250 + hi) := by
  have htop : Numerals (text ['2', '5']) (fun n => n = 25) := numerals_text 25
  have hlast : Numerals ((text ['2', '5']).append (digitIn 0 hi))
      (fun n => 250 ≤ n ∧ n ≤ 250 + hi) := by
    refine (htop.append_digitIn ?_ hhi).congr ?_ <;> intro n <;> omega
  refine (hlast.either ((numerals_two (by decide) (by decide)).either numerals_upTo199)).congr ?_
  intro n
  omega

theorem numerals_blockOctet : Numerals blockOctet (fun n => n ≤ 239) := by
  refine ((numerals_two (by decide) (by decide)).either numerals_upTo199).congr ?_
  intro n
  omega

/-! ## Dotted decimals -/

theorem toList_quad (a b c d : Nat) : s!"{a}.{b}.{c}.{d}".toList =
    Nat.toDigits 10 a ++ (['.'] ++ Nat.toDigits 10 b ++ (['.'] ++ Nat.toDigits 10 c) ++
      (['.'] ++ Nat.toDigits 10 d)) := by
  simp [toString, Nat.toList_repr]

section Dotted

variable {first last : Regex (List Char)} {p q : Nat → Prop}

/-- The text is four numbers between dots, the first and the last of the given patterns. -/
theorem accepts_dottedPattern (hfirst : Numerals first p) (hlast : Numerals last q)
    (value : String) : accepts (dottedPattern first last) value = true ↔ IsQuad p q value := by
  have hoctet : Numerals (octetTo25 5) (fun n => n ≤ 255) := numerals_octetTo25 (by decide)
  -- one part that is repeated, and the word of the whole as the parts put together
  have hpart := (denotes_text ['.']).append hoctet
  have hparts := Denotes.append hfirst
    ((hpart.append (hpart.append denotes_empty)).append ((denotes_text ['.']).append hlast))
  rw [accepts, dottedPattern]
  refine hparts.test_iff.trans ?_
  simp only [Set.mem_ofPred_eq, Set.mem_singleton_iff]
  constructor
  · rintro ⟨_, ⟨a, ha, rfl⟩, _, ⟨_, ⟨_, ⟨_, rfl, _, ⟨b, hb, rfl⟩, rfl⟩, _,
      ⟨_, ⟨_, rfl, _, ⟨c, hc, rfl⟩, rfl⟩, _, rfl, rfl⟩, rfl⟩, _,
      ⟨_, rfl, _, ⟨d, hd, rfl⟩, rfl⟩, rfl⟩, hvalue⟩
    refine ⟨a, b, c, d, ha, hb, hc, hd, String.toList_inj.mp ?_⟩
    rw [hvalue, toList_quad, List.append_nil, List.append_assoc]
  · rintro ⟨a, b, c, d, ha, hb, hc, hd, rfl⟩
    refine ⟨_, ⟨a, ha, rfl⟩, _, ⟨_, ⟨_, ⟨_, rfl, _, ⟨b, hb, rfl⟩, rfl⟩, _,
      ⟨_, ⟨_, rfl, _, ⟨c, hc, rfl⟩, rfl⟩, _, rfl, rfl⟩, rfl⟩, _,
      ⟨_, rfl, _, ⟨d, hd, rfl⟩, rfl⟩, rfl⟩, ?_⟩
    rw [toList_quad, List.append_nil, List.append_assoc]

theorem print_eq_quad (ip : IPv4Address) :
    ip.print = s!"{ip.a.val}.{ip.b.val}.{ip.c.val}.{ip.d.val}" := by
  apply String.toList_inj.mp
  rw [toList_quad, IPv4Address.print, String.toList_ofList, IPv4Address.printChars]
  simp [List.intercalate, IPv4Address.printOctet]

/-- Four numbers that are octets are an address. -/
theorem isQuad_iff (hp : ∀ n, p n → n ≤ 255) (hq : ∀ n, q n → n ≤ 255) (value : String) :
    IsQuad p q value ↔ ∃ ip : IPv4Address, p ip.a.val ∧ q ip.d.val ∧ value = ip.print := by
  constructor
  · rintro ⟨a, b, c, d, ha, hb, hc, hd, rfl⟩
    have ha' := hp a ha
    have hd' := hq d hd
    refine ⟨⟨⟨a, by omega⟩, ⟨b, by omega⟩, ⟨c, by omega⟩, ⟨d, by omega⟩⟩, ha, hd, ?_⟩
    rw [print_eq_quad]
  · rintro ⟨ip, ha, hd, rfl⟩
    exact ⟨ip.a.val, ip.b.val, ip.c.val, ip.d.val, ha, Nat.le_of_lt_succ ip.b.isLt,
      Nat.le_of_lt_succ ip.c.isLt, hd, print_eq_quad ip⟩

theorem isQuad_print (hp : ∀ n, p n → n ≤ 255) (hq : ∀ n, q n → n ≤ 255) (ip : IPv4Address) :
    IsQuad p q ip.print ↔ p ip.a.val ∧ q ip.d.val := by
  rw [isQuad_iff hp hq]
  constructor
  · rintro ⟨ip', ha, hd, hprint⟩
    rw [print_inj hprint]
    exact ⟨ha, hd⟩
  · exact fun h => ⟨ip, h.1, h.2, rfl⟩

end Dotted

theorem accepts_ipConstraint (value : String) : accepts ipConstraint value = true ↔
    IsQuad (fun a => a ≤ 223 ∧ ¬ InGap a) (fun d => d ≤ 254) value :=
  accepts_dottedPattern numerals_firstOctet (numerals_octetTo25 (by decide)) value

theorem accepts_ipConstraint_print (ip : IPv4Address) : accepts ipConstraint ip.print = true ↔
    (ip.a.val ≤ 223 ∧ ¬ InGap ip.a.val) ∧ ip.d.val ≤ 254 := by
  rw [accepts_ipConstraint, isQuad_print (fun n hn => by omega) (fun n hn => by omega)]

theorem accepts_kubeCidrConstraint_print (ip : IPv4Address) :
    accepts kubeCidrConstraint ip.print = true ↔
      (ip.a.val ≤ 223 ∧ ¬ InGap ip.a.val) ∧ ip.d.val ≤ 239 := by
  rw [kubeCidrConstraint, accepts_dottedPattern numerals_firstOctet numerals_blockOctet,
    isQuad_print (fun n hn => by omega) (fun n hn => by omega)]

/-- The pattern is right about every text but the addresses whose first octet it misses. -/
theorem accepts_ipConstraint_iff (value : String) :
    (accepts ipConstraint value = true ↔ IsAddress value) ↔
      ¬ IsQuad InGap (fun d => d ≤ 254) value := by
  have hgap : ∀ a, InGap a → a ≤ 255 := fun a ha => (le_of_inGap ha).trans (by decide)
  have haccepts : accepts ipConstraint value = true ↔
      ∃ ip : IPv4Address, (ip.a.val ≤ 223 ∧ ¬ InGap ip.a.val) ∧ ip.d.val ≤ 254 ∧
        value = ip.print := by
    rw [accepts_ipConstraint, isQuad_iff (fun n hn => by omega) (fun n hn => by omega)]
  have haddress : IsAddress value ↔
      ∃ ip : IPv4Address, ip.a.val ≤ 223 ∧ ip.d.val ≤ 254 ∧ value = ip.print :=
    isQuad_iff (fun n hn => by omega) (fun n hn => by omega) value
  rw [isQuad_iff hgap (fun n hn => by omega)]
  constructor
  · rintro hiff ⟨ip, ha, hd, rfl⟩
    have h := hiff.mpr (haddress.mpr ⟨ip, le_of_inGap ha, hd, rfl⟩)
    exact ((accepts_ipConstraint_print ip).mp h).1.2 ha
  · intro hnone
    rw [haccepts, haddress]
    constructor
    · rintro ⟨ip, ⟨ha, -⟩, hd, hprint⟩
      exact ⟨ip, ha, hd, hprint⟩
    · rintro ⟨ip, ha, hd, hprint⟩
      exact ⟨ip, ⟨ha, fun hmiss => hnone ⟨ip, hmiss, hd, hprint⟩⟩, hd, hprint⟩

/-! ## What the backend offers -/

theorem isIpv4Address_print (ip : IPv4Address) : isIpv4Address ip.print = true := by
  have hoctet : ∀ n : Fin 256, intOfText (IPv4Address.printOctet n) = some (n.val : Int) := by
    decide +kernel
  rw [isIpv4Address, IPv4Address.print, String.toList_ofList, IPv4Address.splitOn_printChars]
  simp [hoctet]

/-- The filter drops the addresses that end in `.0`. -/
theorem filterIp_print (ip : IPv4Address) : filterIp ip.print = true ↔ ip.d = 0 := by
  have hsuffix : ['.', '0'] = '.' :: IPv4Address.printOctet 0 := by decide
  have hne : ip.print ≠ "" := by
    intro h
    have hparse := IPv4Address.parse_print ip
    rw [h] at hparse
    cases hparse
  rw [filterIp, isIpv4Address_print, Bool.not_true, Bool.false_or, decide_eq_false hne,
    Bool.or_false, List.isSuffixOf_iff_suffix, IPv4Address.print, String.toList_ofList, hsuffix,
    IPv4Address.dot_printOctet_suffix_iff]

/-- What is offered of a scan. -/
theorem get_of_scans {runCommand : String → Except PyError String}
    {ipOrNetworkId netmask : String} {network : IPv4Network} {addresses : List String}
    (h : Scans runCommand ipOrNetworkId netmask network addresses) :
    ∃ offered, UnusedIPAddresses.get runCommand ipOrNetworkId netmask = .ok (.ok offered) ∧
      ∀ host : IPv4Address, host.print ∈ offered ↔ host.print ∈ addresses ∧ host.d ≠ 0 := by
  refine ⟨addresses.filter fun x => !filterIp x, ?_, ?_⟩
  · rw [UnusedIPAddresses.get, h.2]
  · intro host
    rw [List.mem_filter, Bool.not_eq_true', ← Bool.not_eq_true, filterIp_print]

/-- The network of the controller, and the free ones of its blocks. -/
theorem exists_of_get {controllerIp gatewayIp netmask : String} {info : ControllerInfo}
    (h : ControllerInfo.get controllerIp gatewayIp netmask = .ok info) :
    ∃ controller gateway dhcp : IPv4Address, ∃ prefixLen : Fin 33, ∃ blocks : List IPv4Network,
      (IPv4Network.around controller prefixLen).subnets IPv4Network.prefix27 = some blocks ∧
        info.cidrs = (blocks.filter fun x =>
          !x.contains gateway && !x.contains controller && !x.contains dhcp).map
            fun x => x.first.print := by
  simp only [ControllerInfo.get, Fallible.bind_eq_ok_iff] at h
  obtain ⟨network, hnetwork, blocks, hblocks, gateway, -, controller, hcontroller, dhcp, -, h⟩ := h
  have hparse : IPv4Network.parse false (controllerIp ++ "/" ++ netmask) = .ok network := by
    unfold ipNetwork at hnetwork
    split at hnetwork
    · rename_i parsed hparsed
      rw [hparsed, Except.ok.inj hnetwork]
    · cases hnetwork
    · cases hnetwork
  obtain ⟨ip, prefixLen, hip, rfl⟩ := IPv4Network.exists_of_parse hparse
  have hsame : ip = controller := by
    rw [ipAddress, hip] at hcontroller
    exact Except.ok.inj hcontroller
  have hsubnets : (IPv4Network.around ip prefixLen).subnets IPv4Network.prefix27 = some blocks := by
    unfold subnetsOf at hblocks
    split at hblocks
    · rename_i subnets hsubnets
      rw [hsubnets, Except.ok.inj hblocks]
    · cases hblocks
  rw [hsame] at hsubnets
  refine ⟨controller, gateway, dhcp, prefixLen, blocks, hsubnets, ?_⟩
  cases h
  rfl

/-- The blocks are /27 networks of which none begins behind `.224`; that of a single address
    holds the controller. -/
theorem of_mem_cidrs {controllerIp gatewayIp netmask : String} {info : ControllerInfo}
    (h : ControllerInfo.get controllerIp gatewayIp netmask = .ok info) {cidr : String}
    (hcidr : cidr ∈ info.cidrs) :
    ∃ block : IPv4Address, cidr = block.print ∧ block.d.val ≤ 224 := by
  obtain ⟨controller, gateway, dhcp, prefixLen, blocks, hblocks, hcidrs⟩ := exists_of_get h
  rw [hcidrs] at hcidr
  obtain ⟨block, hmem, rfl⟩ := List.mem_map.mp hcidr
  obtain ⟨hmem, hfree⟩ := List.mem_filter.mp hmem
  refine ⟨block.first, rfl, ?_⟩
  rw [IPv4Network.subnets] at hblocks
  split_ifs at hblocks with hsingle hle
  · cases hblocks
    have hin : (IPv4Network.around controller prefixLen).contains controller = true :=
      (IPv4Network.contains_around controller controller prefixLen).mpr rfl
    rw [List.mem_singleton.mp hmem, hin] at hfree
    simp at hfree
  · cases hblocks
    have haligned := base_mod_32 ((IPv4Network.mem_subnetsFrom_iff hle block).mp hmem).1
    rw [IPv4Network.first, IPv4Address.ofNat, Fin.val_ofNat]
    omega

/-- Of the texts that the patterns are for, they refuse those whose first octet is in a gap; an
    unused address they refuse if it ends in `.255` too. -/
theorem constraints_accept_iff (value : String) (runCommand : String → Except PyError String)
    (ipOrNetworkId netmask controllerIp gatewayIp controllerNetmask : String) :
    ((accepts ipConstraint value = true ↔ IsAddress value) ↔
      ¬ IsQuad InGap (fun d => d ≤ 254) value) ∧
    (∀ (network : IPv4Network) (addresses : List String), IsUnicast network →
      Scans runCommand ipOrNetworkId netmask network addresses →
        ∃ offered, UnusedIPAddresses.get runCommand ipOrNetworkId netmask = .ok (.ok offered) ∧
          ((∀ host, IsHost network host → host.print ∈ offered →
              accepts ipConstraint host.print = true) ↔
            ∀ host, IsHost network host → host.print ∈ addresses → host.d ≠ 0 →
              ¬ InGap host.a.val ∧ host.d ≠ 255)) ∧
    ∀ info : ControllerInfo,
      ControllerInfo.get controllerIp gatewayIp controllerNetmask = .ok info →
        ∀ cidr ∈ info.cidrs, ∃ block : IPv4Address, cidr = block.print ∧
          (accepts kubeCidrConstraint cidr = true ↔ block.a.val ≤ 223 ∧ ¬ InGap block.a.val) := by
  refine ⟨accepts_ipConstraint_iff value, ?_, ?_⟩
  · -- the filter drops `.0` only, so that the scan decides about `.255`
    intro network addresses hunicast hscans
    obtain ⟨offered, hget, hoffered⟩ := get_of_scans hscans
    refine ⟨offered, hget, ?_⟩
    apply forall_congr'
    intro host
    apply imp_congr_right
    intro hhost
    have ha := hunicast host hhost.1
    have hlast : host.d.val ≤ 254 ↔ host.d ≠ 255 := by
      have hlt := host.d.isLt
      rw [ne_eq, Fin.ext_iff]
      change host.d.val ≤ 254 ↔ ¬ host.d.val = 255
      omega
    rw [hoffered, and_imp, accepts_ipConstraint_print, hlast, and_iff_right ha]
  · -- a block begins at a multiple of 32, which the last octet's pattern takes
    intro info hinfo cidr hcidr
    obtain ⟨block, rfl, hd⟩ := of_mem_cidrs hinfo hcidr
    refine ⟨block, rfl, ?_⟩
    rw [accepts_kubeCidrConstraint_print]
    exact and_iff_left (hd.trans (by decide))

/-- A scan of 10.1.0.0/16 that lists two hosts: the second is refused. -/
theorem constraints_accept_scanned :
    ∃ offered, UnusedIPAddresses.get (fun _ => .ok "10.1.0.0\n10.1.0.1\n10.1.0.255\n")
        "10.1.0.9" "255.255.0.0" = .ok (.ok offered) ∧
      ((∀ host, IsHost (.around ⟨10, 1, 0, 9⟩ 16) host → host.print ∈ offered →
          accepts ipConstraint host.print = true) ↔
        ∀ host, IsHost (.around ⟨10, 1, 0, 9⟩ 16) host →
          host.print ∈ ["10.1.0.0", "10.1.0.1", "10.1.0.255", ""] → host.d ≠ 0 →
            ¬ InGap host.a.val ∧ host.d ≠ 255) := by
  have hunicast : IsUnicast (.around ⟨10, 1, 0, 9⟩ 16) := by
    intro ip hip
    have hprefix : ip.toNat / 65536 = 2561 := (IPv4Network.contains_around _ _ _).mp hip
    have hb := ip.b.isLt
    have hc := ip.c.isLt
    have hd := ip.d.isLt
    unfold IPv4Address.toNat at hprefix
    omega
  have hscans : Scans (fun _ => .ok "10.1.0.0\n10.1.0.1\n10.1.0.255\n") "10.1.0.9" "255.255.0.0"
      (.around ⟨10, 1, 0, 9⟩ 16) ["10.1.0.0", "10.1.0.1", "10.1.0.255", ""] :=
    ⟨⟨⟨10, 1, 0, 9⟩, 16, by decide +kernel, rfl⟩, by decide +kernel⟩
  exact (constraints_accept_iff "10.1.0.1" _ _ _ "10.1.0.9" "10.1.0.1" "255.255.0.0").2.1
    _ _ hunicast hscans

/-- An address of a network that the patterns refuse as a whole. -/
theorem not_accepts_gap :
    accepts ipConstraint "204.0.0.1" = false ∧
      ¬ ∀ value : String, accepts ipConstraint value = true ↔ IsAddress value := by
  have hrefused : accepts ipConstraint "204.0.0.1" = false := by decide +kernel
  refine ⟨hrefused, fun h => ?_⟩
  have haddress : IsAddress "204.0.0.1" := by
    refine ⟨204, 0, 0, 1, by decide, by decide, by decide, by decide, by decide +kernel⟩
  rw [(h _).mpr haddress] at hrefused
  contradiction

end Tfplenum
