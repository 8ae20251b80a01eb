/-
  Tfplenum.Controller.ControllerInfo

  `ControllerInfo.get` of `controller/common_controller.py`, and what becomes of the
  blocks it offers: `_set_kubernetes_cidr` of `models/settings/kit_settings.py` takes
  the one that is chosen, and the kit settings page offers them for the choice.
-/

import Mathlib.Data.List.Chain
import Tfplenum.Lib.Subnet
import Tfplenum.Lib.Table
import Tfplenum.Models.SettingsForms

namespace Tfplenum

open Lib

/-! ## Addresses and networks -/

/-- `ipaddress.ip_address(text)` -/
def ipAddress (text : String) : Except PyError IPv4Address :=
  match IPv4Address.parse text with
  | some ip => .ok ip
  | none => .error (.valueError ("'" ++ text ++ "' does not appear to be an IPv4 or IPv6 address"))

/-- `ipaddress.ip_network(text, strict)` -/
def ipNetwork (strict : Bool) (text : String) : Except PyError IPv4Network :=
  match IPv4Network.parse strict text with
  | .ok network => .ok network
  | .error .invalid =>
      .error (.valueError ("'" ++ text ++ "' does not appear to be an IPv4 or IPv6 network"))
  | .error (.hostBits ip prefixLen) =>
      .error (.valueError (ip.print ++ "/" ++ toString prefixLen ++ " has host bits set"))

/-- `network.subnets(new_prefix)` -/
def subnetsOf (network : IPv4Network) (newPrefix : Fin 33) : Except PyError (List IPv4Network) :=
  match network.subnets newPrefix with
  | some subnets => .ok subnets
  | none => .error (.valueError "new prefix must be longer")

/-! ## The controller -/

def controllerInterfaceName := "br0"

structure IPSetFirstLast where
  first : String
  last : String
deriving DecidableEq, Repr

structure ControllerInfo where
  ipAddress : String
  gateway : String
  netmask : String
  name : String
  cidrs : List String
  dhcpRange : String
  cidrRanges : Table String IPSetFirstLast

namespace ControllerInfo

/-- One turn of the loop: the range of the block, and the last one seen. -/
def addRange (ranges : Table String IPSetFirstLast × String) (x : IPv4Network) :
    Table String IPSetFirstLast × String :=
  (ranges.1.upsert x.first.print ⟨x.first.print, x.last.print⟩, x.first.print)

/-- `get`, with the address and the netmask of the interface and the default gateway.  A
    network has a subnet, so that the last block is never `None`. -/
def get (controllerIp gatewayIp netmask : String) : Except PyError ControllerInfo := do
  let network ← ipNetwork false (controllerIp ++ "/" ++ netmask)
  let subnets ← subnetsOf network IPv4Network.prefix27
  let (cidrRanges, dhcpRange) := subnets.foldl addRange (Table.empty, "None")
  let gateway ← Tfplenum.ipAddress gatewayIp
  let controller ← Tfplenum.ipAddress controllerIp
  let dhcp ← Tfplenum.ipAddress dhcpRange
  let filtered := subnets.filter fun x =>
    !x.contains gateway && !x.contains controller && !x.contains dhcp
  pure
    { ipAddress := controllerIp
      gateway := gatewayIp
      netmask := netmask
      name := controllerInterfaceName
      cidrs := filtered.map fun x => x.first.print
      dhcpRange := dhcpRange
      cidrRanges := cidrRanges }

end ControllerInfo

/-- `_set_kubernetes_cidr`: the first and the last address of the block. -/
def setKubernetesCidr (kubernetesServicesCidr : String) :
    Except PyError (IPv4Address × IPv4Address) := do
  let cidr ← ipNetwork true (kubernetesServicesCidr ++ "/27")
  pure (cidr.first, cidr.last)

/-! ## The kit settings page -/

/-- What the page reads of the general settings. -/
structure PageGeneralSettings where
  dhcpRange : Option String
deriving DecidableEq, Repr

/-- What the page reads of the controller's info; the page begins with an empty object. -/
structure PageControllerInfo where
  cidrs : Option (List String)
  cidrRanges : Option (Table String IPSetFirstLast)

/-- `KitSettingsComponent` -/
structure KitSettingsPage where
  generalSettings : Option PageGeneralSettings
  controllerInfo : Option PageControllerInfo
  kubernetesIpOptions : List String
  unusedIpAddresses : List String
  cidrRanges : Option (Table String IPSetFirstLast)

/-- `option.endsWith(".32")` -/
def endsWith32 (option : String) : Bool := ['.', '3', '2'].isSuffixOf option.toList

/-- `for (let x = 0; x < options.length; x++)`, which removes from the list it walks along -/
def removeEndsWith32 (options : List String) (x : Nat) : List String :=
  if hx : x < options.length then
    if endsWith32 options[x] then removeEndsWith32 (options.eraseIdx x) (x + 1)
    else removeEndsWith32 options (x + 1)
  else options
termination_by options.length - x
decreasing_by
  · rw [List.length_eraseIdx_of_lt hx]
    omega
  · omega

namespace KitSettingsPage

/-- `set_kubernetes_dhcp_range_` -/
def setKubernetesDhcpRange (page : KitSettingsPage) (dhcpRange : Option String) : KitSettingsPage :=
  let options := removeEndsWith32 page.unusedIpAddresses 0
  { page with
    kubernetesIpOptions :=
      match dhcpRange with
      | some dhcpRange => options.erase dhcpRange
      | none => options }

/-- The first half of `gather_controller_facts_` -/
def takeControllerInfo (page : KitSettingsPage) : KitSettingsPage :=
  match page.controllerInfo with
  | some ⟨some cidrs, cidrRanges⟩ =>
      { page with
        kubernetesIpOptions := cidrs
        unusedIpAddresses := cidrs
        cidrRanges := cidrRanges }
  | _ => page

/-- `gather_controller_facts_` -/
def gatherControllerFacts (page : KitSettingsPage) : KitSettingsPage :=
  let page := page.takeControllerInfo
  match page.generalSettings with
  | some settings => page.setKubernetesDhcpRange settings.dhcpRange
  | none => page

/-- `ngOnChanges`, when the general settings change -/
def generalSettingsChange (page : KitSettingsPage) (settings : Option PageGeneralSettings) :
    KitSettingsPage :=
  { page with generalSettings := settings }

/-- `ngOnChanges`, when the controller's info changes -/
def controllerInfoChange (page : KitSettingsPage) (info : ControllerInfo) : KitSettingsPage :=
  { page with controllerInfo := some ⟨some info.cidrs, some info.cidrRanges⟩ }.gatherControllerFacts

end KitSettingsPage

/-- The options are not computed again when the general settings change later. -/
theorem KitSettingsPage.options_generalSettingsChange (page : KitSettingsPage)
    (settings : Option PageGeneralSettings) :
    (page.generalSettingsChange settings).kubernetesIpOptions = page.kubernetesIpOptions := rfl

/-! ## The blocks -/

theorem print_inj {ip ip' : IPv4Address} (h : ip.print = ip'.print) : ip = ip' := by
  have hparse := IPv4Address.parse_print ip
  rw [h, IPv4Address.parse_print] at hparse
  exact (Option.some.inj hparse).symm

/-- The entry of a block. -/
def rangeOf (b : IPv4Network) : String × IPSetFirstLast :=
  (b.first.print, ⟨b.first.print, b.last.print⟩)

/-- The loop adds a range for each block, since no two begin at one address. -/
theorem foldl_addRange (blocks : List IPv4Network) (ranges : Table String IPSetFirstLast × String)
    (hnew : ((ranges.1.rows ++ blocks.map rangeOf).map Prod.fst).Nodup) :
    (blocks.foldl ControllerInfo.addRange ranges).1.rows = ranges.1.rows ++ blocks.map rangeOf ∧
      (blocks.foldl ControllerInfo.addRange ranges).2 =
        (blocks.getLast?.map fun b => b.first.print).getD ranges.2 := by
  induction blocks generalizing ranges with
  | nil => simp
  | cons b blocks ih =>
      have hfresh : ranges.1.get? b.first.print = none := by
        rw [Table.get?_eq_none_iff]
        intro hmem
        rw [List.map_append, List.nodup_append] at hnew
        exact hnew.2.2 _ hmem _ (List.mem_cons_self ..) rfl
      have hrows : (ControllerInfo.addRange ranges b).1.rows = ranges.1.rows ++ [rangeOf b] :=
        Table.rows_upsert_of_none _ hfresh
      have hstep := ih (ControllerInfo.addRange ranges b) (by
        rw [hrows, List.append_assoc]
        exact hnew)
      rw [List.foldl_cons, hstep.1, hstep.2, hrows, List.append_assoc]
      refine ⟨rfl, ?_⟩
      rw [List.getLast?_cons]
      cases blocks.getLast? with
      | none => rfl
      | some b' => rfl

theorem nodup_rangeOf {blocks : List IPv4Network}
    (hsorted : blocks.Pairwise fun b b' => b.base < b'.base) :
    ((blocks.map rangeOf).map Prod.fst).Nodup := by
  rw [List.map_map]
  refine List.pairwise_map.mpr (hsorted.imp fun {b b'} hlt heq => ?_)
  have hfirst := print_inj heq
  rw [← b.first_toNat, ← b'.first_toNat, hfirst] at hlt
  exact Nat.lt_irrefl _ hlt

/-- The block may be offered: none of the three is in it. -/
def IsFree (gateway controller dhcp : IPv4Address) (b : IPv4Network) : Bool :=
  !b.contains gateway && !b.contains controller && !b.contains dhcp

/-- The blocks the info speaks of. -/
structure OffersBlocks (controller gateway : IPv4Address) (prefixLen : Fin 33)
    (info : ControllerInfo) (blocks : List IPv4Network) (dhcp : IPv4Network) : Prop where
  prefix27 : ∀ b ∈ blocks, b.prefixLen = 27
  sorted : blocks.Pairwise fun b b' => b.base < b'.base
  within : ∀ b ∈ blocks, ∀ ip, b.contains ip = true →
    (IPv4Network.around controller prefixLen).contains ip = true
  partition : ∀ ip, (IPv4Network.around controller prefixLen).contains ip = true →
    ∃! b, b ∈ blocks ∧ b.contains ip = true
  last : blocks.getLast? = some dhcp
  cidrRanges : info.cidrRanges.rows = blocks.map rangeOf
  dhcpRange : info.dhcpRange = dhcp.first.print
  cidrs : info.cidrs =
    (blocks.filter (IsFree gateway controller dhcp.first)).map fun b => b.first.print

/-- The info is computed, and speaks of the blocks of the controller's subnet. -/
theorem exists_offersBlocks (controller gateway : IPv4Address) {prefixLen : Fin 33}
    (h : prefixLen ≤ 27) :
    ∃ info blocks dhcp,
      ControllerInfo.get controller.print gateway.print (IPv4Network.netmask prefixLen).print =
          .ok info ∧ OffersBlocks controller gateway prefixLen info blocks dhcp := by
  have hlen : (IPv4Network.around controller prefixLen).prefixLen ≤ 27 := h
  have hsorted := IPv4Network.pairwise_subnetsFrom hlen
  have hpartition := IPv4Network.contains_iff_existsUnique hlen
  obtain ⟨blocks, hblocks⟩ : ∃ blocks, blocks = IPv4Network.subnetsFrom hlen := ⟨_, rfl⟩
  rw [← hblocks] at hsorted
  -- the controller is in a block, so that there is a last one
  obtain ⟨b, ⟨hb, -⟩, -⟩ := (hpartition controller).mp
    ((IPv4Network.contains_around controller controller prefixLen).mpr rfl)
  obtain ⟨dhcp, hdhcp⟩ : ∃ dhcp, blocks.getLast? = some dhcp :=
    ⟨_, List.getLast?_eq_some_getLast (List.ne_nil_of_mem (hblocks ▸ hb))⟩
  have hnetwork : ipNetwork false
      (controller.print ++ "/" ++ (IPv4Network.netmask prefixLen).print) =
      .ok (IPv4Network.around controller prefixLen) := by
    rw [ipNetwork, IPv4Network.parse_print controller (IPv4Network.slash_notMem_print _)
      (IPv4Network.parsePrefix_netmask prefixLen), if_neg (by simp)]
  have hsubnets : subnetsOf (IPv4Network.around controller prefixLen) 27 = .ok blocks := by
    have hne : (IPv4Network.around controller prefixLen).prefixLen ≠ 32 := by
      intro heq
      rw [heq] at hlen
      revert hlen
      decide
    rw [subnetsOf, IPv4Network.subnets, if_neg hne, dif_pos hlen, hblocks]
  have haddress (ip : IPv4Address) : ipAddress ip.print = .ok ip := by
    rw [ipAddress, IPv4Address.parse_print]
  -- the loop over the blocks keeps its last range
  have hranges := foldl_addRange blocks (Table.empty, "None") (nodup_rangeOf hsorted)
  rcases hfold : blocks.foldl ControllerInfo.addRange (Table.empty, "None") with ⟨ranges, range⟩
  rw [hfold, hdhcp] at hranges
  have hrange : range = dhcp.first.print := hranges.2
  have hget : ControllerInfo.get controller.print gateway.print
      (IPv4Network.netmask prefixLen).print = .ok
        ⟨controller.print, gateway.print, (IPv4Network.netmask prefixLen).print,
          controllerInterfaceName,
          (blocks.filter (IsFree gateway controller dhcp.first)).map fun b => b.first.print,
          range, ranges⟩ := by
    rw [ControllerInfo.get, hnetwork]
    dsimp only [bind, Except.bind]
    rw [hsubnets]
    dsimp only
    rw [hfold, haddress gateway, haddress controller, hrange, haddress dhcp.first]
    rfl
  exact ⟨_, blocks, dhcp, hget,
    { prefix27 := fun b hmem => ((IPv4Network.mem_subnetsFrom_iff hlen b).mp (hblocks ▸ hmem)).1
      sorted := hsorted
      within := fun b hmem ip hin => IPv4Network.contains_of_mem hlen (hblocks ▸ hmem) hin
      partition := fun ip hin => hblocks ▸ (hpartition ip).mp hin
      last := hdhcp
      cidrRanges := hranges.1
      dhcpRange := hrange
      cidrs := rfl }⟩

/-! ## The inventory -/

theorem size_27 {b : IPv4Network} (h : b.prefixLen = 27) : b.size = 32 := by
  rw [IPv4Network.size, h]
  rfl

theorem base_mod_32 {b : IPv4Network} (h : b.prefixLen = 27) : b.base % 32 = 0 := by
  have haligned := b.aligned
  rw [h] at haligned
  exact Nat.mod_eq_zero_of_dvd haligned

theorem around_first {b : IPv4Network} (h : b.prefixLen = 27) :
    IPv4Network.around b.first 27 = b := by
  have hin := b.contains_first
  rw [IPv4Network.contains, decide_eq_true_iff, IPv4Network.size, h] at hin
  exact IPv4Network.ext hin h.symm

theorem parse_print_27 (ip : IPv4Address) :
    IPv4Network.parse true (ip.print ++ "/27") =
      if (IPv4Network.around ip 27).base ≠ ip.toNat then .error (.hostBits ip 27)
      else .ok (IPv4Network.around ip 27) := by
  have hslash : '/' ∉ "27".toList := by decide +kernel
  have hmask : IPv4Network.parsePrefix "27" = some 27 := by decide +kernel
  have hparse : IPv4Network.parse true (ip.print ++ "/" ++ "27") = _ :=
    IPv4Network.parse_print ip hslash hmask
  rw [String.append_assoc] at hparse
  simpa using hparse

/-- The first address of a block is taken, and gives the block. -/
theorem setKubernetesCidr_first {b : IPv4Network} (h : b.prefixLen = 27) :
    setKubernetesCidr b.first.print = .ok (b.first, b.last) := by
  have hparse : ipNetwork true (b.first.print ++ "/27") = .ok b := by
    rw [ipNetwork, parse_print_27, around_first h, b.first_toNat, if_neg (fun hne => hne rfl)]
  rw [setKubernetesCidr, hparse]
  rfl

theorem base_around_27 (ip : IPv4Address) :
    (IPv4Network.around ip 27).base = ip.toNat / 32 * 32 := rfl

/-- The text of an address gives what the form's address gives. -/
theorem setKubernetesCidr_print (ip : IPv4Address) :
    setKubernetesCidr ip.print = ipNetwork27 ip := by
  have hd : ip.toNat % 32 = ip.d.val % 32 := by
    unfold IPv4Address.toNat
    omega
  have hbase := base_around_27 ip
  rw [setKubernetesCidr, ipNetwork, parse_print_27, ipNetwork27]
  by_cases hbits : ip.d.val % 32 = 0
  · have heq : (IPv4Network.around ip 27).base = ip.toNat := by omega
    have hfirst : (IPv4Network.around ip 27).first = ip := by
      rw [IPv4Network.first, heq, IPv4Address.ofNat_toNat]
    have hlast : (IPv4Network.around ip 27).last = { ip with d := ip.d + 31 } := by
      refine IPv4Address.toNat_inj ?_
      rw [IPv4Network.last_toNat, heq]
      have hlt := ip.d.isLt
      have hadd : (ip.d + 31).val = ip.d.val + 31 := by
        rw [Fin.val_add]
        exact Nat.mod_eq_of_lt (by omega)
      show ip.toNat + 31 = ((ip.a.val * 256 + ip.b.val) * 256 + ip.c.val) * 256 + (ip.d + 31).val
      rw [hadd, IPv4Address.toNat]
      omega
    rw [if_neg (fun hne => hne heq), if_pos hbits, ← hlast]
    show Except.ok ((IPv4Network.around ip 27).first, _) = _
    rw [hfirst]
  · have hne : (IPv4Network.around ip 27).base ≠ ip.toNat := by omega
    rw [if_pos hne, if_neg hbits]
    show Except.error
      (PyError.valueError (ip.print ++ "/" ++ toString 27 ++ " has host bits set")) = _
    rw [String.append_assoc, String.append_assoc]
    rfl

/-! ## The options -/

/-- No two of the list, side by side, end in `.32`. -/
abbrev Spaced (options : List String) : Prop :=
  options.IsChain fun option option' => ¬ (endsWith32 option = true ∧ endsWith32 option' = true)

/-- The loop skips what follows a removed option; that would not have been removed. -/
theorem removeEndsWith32_eq (suf : List String) (h : Spaced suf) (pre : List String) :
    removeEndsWith32 (pre ++ suf) pre.length =
      pre ++ suf.filter fun option => !endsWith32 option := by
  match suf with
  | [] =>
      rw [removeEndsWith32, dif_neg (by simp)]
      rfl
  | option :: suf =>
      have hlt : pre.length < (pre ++ option :: suf).length := by simp
      have hget : (pre ++ option :: suf)[pre.length] = option := by simp
      rw [removeEndsWith32, dif_pos hlt, hget]
      split
      · rename_i hends
        have herase : (pre ++ option :: suf).eraseIdx pre.length = pre ++ suf := by
          rw [List.eraseIdx_append_of_length_le (le_refl _), Nat.sub_self]
          rfl
        rw [herase, List.filter_cons, hends]
        match suf with
        | [] =>
            rw [removeEndsWith32, dif_neg (by simp)]
            rfl
        | option' :: suf =>
            have hnot : endsWith32 option' = false := by
              rw [← Bool.not_eq_true]
              intro hends'
              exact (List.isChain_cons_cons.mp h).1 ⟨hends, hends'⟩
            -- the option that is skipped stays, as it would have anyway
            have hrest := removeEndsWith32_eq suf (h.tail.tail) (pre ++ [option'])
            rw [List.append_assoc, List.length_append] at hrest
            rw [List.filter_cons, hnot]
            exact hrest.trans (List.append_assoc ..)
      · rename_i hends
        have hrest := removeEndsWith32_eq suf h.tail (pre ++ [option])
        rw [List.append_assoc, List.length_append] at hrest
        rw [List.filter_cons, Bool.not_eq_true _ |>.mp hends]
        exact hrest.trans (List.append_assoc ..)
termination_by suf.length

/-- The last octet decides. -/
theorem endsWith32_print (ip : IPv4Address) : endsWith32 ip.print = true ↔ ip.d.val = 32 := by
  have hsuffix : ['.', '3', '2'] = '.' :: IPv4Address.printOctet 32 := by decide
  rw [endsWith32, List.isSuffixOf_iff_suffix, IPv4Address.print, String.toList_ofList, hsuffix,
    IPv4Address.dot_printOctet_suffix_iff, Fin.ext_iff]
  rfl

section Options

variable {controller gateway : IPv4Address} {prefixLen : Fin 33} {info : ControllerInfo}
  {blocks : List IPv4Network} {dhcp : IPv4Network}

/-- Every multiple of 32 in the subnet begins a block. -/
theorem OffersBlocks.exists_block (h : OffersBlocks controller gateway prefixLen info blocks dhcp)
    {n : Nat} (hn : n % 32 = 0) (hlt : n < 2 ^ 32)
    (hin : (IPv4Network.around controller prefixLen).contains (.ofNat n) = true) :
    ∃ b ∈ blocks, b.base = n := by
  obtain ⟨b, ⟨hmem, hcontains⟩, -⟩ := h.partition _ hin
  refine ⟨b, hmem, ?_⟩
  rw [IPv4Network.contains, decide_eq_true_iff, IPv4Network.size, h.prefix27 b hmem,
    IPv4Address.toNat_ofNat hlt] at hcontains
  rw [← hcontains]
  show n / 32 * 32 = n
  omega

/-- Between two blocks that end in `.32` there is a free one. -/
theorem OffersBlocks.exists_between (h : OffersBlocks controller gateway prefixLen info blocks dhcp)
    {b b' : IPv4Network} (hb : b ∈ blocks) (hb' : b' ∈ blocks) (hlt : b.base < b'.base)
    (hends : b.base % 256 = 32) (hends' : b'.base % 256 = 32) :
    ∃ c ∈ blocks, IsFree gateway controller dhcp.first c = true ∧ b.base < c.base ∧
      c.base < b'.base := by
  by_contra hnone
  have hsmall := b'.small
  have hfirst := h.within b hb b.first b.contains_first
  have hlast := h.within b' hb' b'.first b'.contains_first
  rw [IPv4Network.contains_iff, IPv4Network.first_toNat] at hfirst hlast
  -- seven blocks lie between the two: three addresses cannot block the first four of them
  have hblocked (k : Nat) (hk : 1 ≤ k ∧ k ≤ 4) :
      gateway.toNat / 32 * 32 = b.base + 32 * k ∨ controller.toNat / 32 * 32 = b.base + 32 * k ∨
        dhcp.first.toNat / 32 * 32 = b.base + 32 * k := by
    obtain ⟨c, hc, hbase⟩ := h.exists_block (n := b.base + 32 * k) (by omega) (by omega) (by
      rw [IPv4Network.contains_iff, IPv4Address.toNat_ofNat (by omega)]
      omega)
    have hfree : IsFree gateway controller dhcp.first c = false := by
      rw [← Bool.not_eq_true]
      intro hfree
      exact hnone ⟨c, hc, hfree, by omega, by omega⟩
    have hsize := size_27 (h.prefix27 c hc)
    rw [IsFree, IPv4Network.contains, IPv4Network.contains, IPv4Network.contains, hsize,
      hbase] at hfree
    simp only [Bool.and_eq_false_iff, Bool.not_eq_false', decide_eq_true_eq, or_assoc] at hfree
    exact hfree
  have h1 := hblocked 1 (by omega)
  have h2 := hblocked 2 (by omega)
  have h3 := hblocked 3 (by omega)
  have h4 := hblocked 4 (by omega)
  omega

theorem endsWith32_first (b : IPv4Network) :
    endsWith32 b.first.print = true ↔ b.base % 256 = 32 := by
  rw [endsWith32_print]
  rfl

/-- No two that are offered side by side end in `.32`. -/
theorem OffersBlocks.spaced (h : OffersBlocks controller gateway prefixLen info blocks dhcp) :
    Spaced info.cidrs := by
  rw [h.cidrs, Spaced, List.isChain_map, List.isChain_iff_forall_rel_of_append_cons_cons]
  rintro b b' pre suf hlist ⟨hends, hends'⟩
  rw [endsWith32_first] at hends hends'
  have hsorted := h.sorted.filter (IsFree gateway controller dhcp.first)
  rw [hlist, List.pairwise_append, List.pairwise_cons, List.pairwise_cons] at hsorted
  obtain ⟨-, ⟨hb, hb', -⟩, hpre⟩ := hsorted
  have hmem (c : IPv4Network) (hc : c ∈ pre ++ b :: b' :: suf) : c ∈ blocks := by
    rw [← hlist] at hc
    exact (List.mem_filter.mp hc).1
  obtain ⟨c, hc, hfree, hlow, hhigh⟩ := h.exists_between (hmem b (by simp)) (hmem b' (by simp))
    (hb b' (List.mem_cons_self ..)) hends hends'
  have hin : c ∈ pre ++ b :: b' :: suf := hlist ▸ List.mem_filter.mpr ⟨hc, hfree⟩
  rcases List.mem_append.mp hin with hin | hin
  · have hbefore := hpre c hin b (List.mem_cons_self ..)
    omega
  · rcases List.mem_cons.mp hin with rfl | hin
    · omega
    · rcases List.mem_cons.mp hin with rfl | hin
      · omega
      · have hafter := hb' c hin
        omega

theorem OffersBlocks.nodup (h : OffersBlocks controller gateway prefixLen info blocks dhcp) :
    info.cidrs.Nodup := by
  have hnodup := nodup_rangeOf (h.sorted.filter (IsFree gateway controller dhcp.first))
  rw [List.map_map] at hnodup
  rw [h.cidrs]
  exact hnodup

theorem OffersBlocks.mem_cidrs_iff (h : OffersBlocks controller gateway prefixLen info blocks dhcp)
    (cidr : String) : cidr ∈ info.cidrs ↔
      ∃ b ∈ blocks, IsFree gateway controller dhcp.first b = true ∧ b.first.print = cidr := by
  rw [h.cidrs, List.mem_map]
  simp only [List.mem_filter, and_assoc]

/-- The block of the DHCP range is not offered. -/
theorem OffersBlocks.dhcpRange_notMem
    (h : OffersBlocks controller gateway prefixLen info blocks dhcp) :
    info.dhcpRange ∉ info.cidrs := by
  rw [h.mem_cidrs_iff, h.dhcpRange]
  rintro ⟨b, -, hfree, hprint⟩
  have hin := b.contains_first
  rw [print_inj hprint] at hin
  simp [IsFree, hin] at hfree

/-- The last block is that of the last address. -/
theorem OffersBlocks.contains_last
    (h : OffersBlocks controller gateway prefixLen info blocks dhcp) :
    dhcp.contains (IPv4Network.around controller prefixLen).last = true := by
  have hpos := (IPv4Network.around controller prefixLen).size_pos
  have hlast := (IPv4Network.around controller prefixLen).last_toNat
  obtain ⟨init, hinit⟩ := List.getLast?_eq_some_iff.mp h.last
  have hin : (IPv4Network.around controller prefixLen).contains
      (IPv4Network.around controller prefixLen).last = true := by
    rw [IPv4Network.contains_iff]
    omega
  obtain ⟨b, ⟨hb, hcontains⟩, -⟩ := h.partition _ hin
  have hsorted := h.sorted
  rw [hinit, List.pairwise_append] at hsorted
  have hlast : dhcp ∈ blocks := hinit ▸ List.mem_append_right _ (List.mem_singleton_self _)
  have hdhcp := h.within dhcp hlast dhcp.first
    dhcp.contains_first
  rw [IPv4Network.contains_iff, IPv4Network.first_toNat] at hdhcp
  rw [hinit] at hb
  rcases List.mem_append.mp hb with hb | hb
  -- another block would have to end before the last one begins
  · have hlt := hsorted.2.2 b hb dhcp (List.mem_singleton_self _)
    have hmem (c : IPv4Network) (hc : c ∈ init ++ [dhcp]) := h.prefix27 c (hinit ▸ hc)
    have hbase := base_mod_32 (hmem b (List.mem_append_left _ hb))
    have hbase' := base_mod_32 (hmem dhcp (List.mem_append_right _ (List.mem_singleton_self _)))
    rw [IPv4Network.contains_iff, size_27 (hmem b (List.mem_append_left _ hb))] at hcontains
    omega
  · rw [List.mem_singleton.mp hb] at hcontains
    exact hcontains

/-- A block has the first address of the last block just if it has the last address. -/
theorem OffersBlocks.contains_dhcp_iff
    (h : OffersBlocks controller gateway prefixLen info blocks dhcp)
    {b : IPv4Network} (hb : b.prefixLen = 27) :
    b.contains dhcp.first = true ↔
      b.contains (IPv4Network.around controller prefixLen).last = true := by
  have hlast := h.contains_last
  have hdhcp : dhcp.prefixLen = 27 := h.prefix27 dhcp (List.mem_of_getLast? h.last)
  rw [IPv4Network.contains, decide_eq_true_iff, size_27 hdhcp] at hlast
  rw [IPv4Network.contains, IPv4Network.contains, decide_eq_true_iff, decide_eq_true_iff,
    size_27 hb,
    hlast, IPv4Network.first_toNat]
  have hbase := base_mod_32 hdhcp
  omega

end Options

/-! ## What is offered -/

/-- Each offered block is taken, with the addresses the info gives for it. -/
def CidrsAccepted (info : ControllerInfo) : Prop :=
  ∀ cidr ∈ info.cidrs, ∃ first last, setKubernetesCidr cidr = .ok (first, last) ∧
    info.cidrRanges.get? cidr = some ⟨first.print, last.print⟩

/-- The DHCP range of the general settings. -/
def KitSettingsPage.dhcpRange (page : KitSettingsPage) : Option String :=
  page.generalSettings.bind PageGeneralSettings.dhcpRange

/-- The options once the info is there: what is offered, without what ends in `.32` and
    without the DHCP range, that of the info and that of the general settings. -/
def OptionsShown (page : KitSettingsPage) (info : ControllerInfo) : Prop :=
  (page.controllerInfoChange info).kubernetesIpOptions = info.cidrs.filter fun cidr =>
    !endsWith32 cidr && cidr ≠ info.dhcpRange && some cidr ≠ page.dhcpRange

/-- The blocks are a partition, those offered are the free ones, they are taken, and the
    page shows them. -/
def BlocksValid (controller gateway : IPv4Address) (prefixLen : Fin 33) (page : KitSettingsPage) :
    Prop :=
  ∃ info blocks dhcp,
    ControllerInfo.get controller.print gateway.print (IPv4Network.netmask prefixLen).print =
        .ok info ∧
      OffersBlocks controller gateway prefixLen info blocks dhcp ∧ CidrsAccepted info ∧
        OptionsShown page info

/-- A block of the subnet that ends in `.32` is neither that of the controller nor that of
    the gateway nor the last. -/
def Offers32 (controller gateway : IPv4Address) (prefixLen : Fin 33) : Prop :=
  ∃ b : IPv4Network, b.prefixLen = IPv4Network.prefix27 ∧ b.base % 256 = 32 ∧
    (IPv4Network.around controller prefixLen).contains b.first = true ∧
      b.contains controller = false ∧ b.contains gateway = false ∧
        b.contains (IPv4Network.around controller prefixLen).last = false

section Offered

variable {controller gateway : IPv4Address} {prefixLen : Fin 33} {info : ControllerInfo}
  {blocks : List IPv4Network} {dhcp : IPv4Network}

theorem OffersBlocks.cidrsAccepted
    (h : OffersBlocks controller gateway prefixLen info blocks dhcp) :
    CidrsAccepted info := by
  intro cidr hcidr
  obtain ⟨b, hb, -, rfl⟩ := (h.mem_cidrs_iff cidr).mp hcidr
  refine ⟨b.first, b.last, setKubernetesCidr_first (h.prefix27 b hb), ?_⟩
  rw [Table.get?_eq_some_iff, h.cidrRanges]
  exact List.mem_map_of_mem hb

theorem OffersBlocks.offers32_iff (h : OffersBlocks controller gateway prefixLen info blocks dhcp) :
    Offers32 controller gateway prefixLen ↔ ∃ cidr ∈ info.cidrs, endsWith32 cidr = true := by
  constructor
  · rintro ⟨b, hb, hends, hin, hcontroller, hgateway, hlast⟩
    have hbase := base_mod_32 hb
    obtain ⟨c, hc, hcb⟩ := h.exists_block hbase b.small hin
    have heq : c = b := IPv4Network.ext hcb ((h.prefix27 c hc).trans hb.symm)
    subst heq
    have hdhcp : c.contains dhcp.first = false := by
      rw [← Bool.not_eq_true, h.contains_dhcp_iff hb, Bool.not_eq_true]
      exact hlast
    refine ⟨c.first.print, (h.mem_cidrs_iff _).mpr ⟨c, hc, ?_, rfl⟩, (endsWith32_first c).mpr hends⟩
    rw [IsFree, hgateway, hcontroller, hdhcp]
    rfl
  · rintro ⟨cidr, hcidr, hends⟩
    obtain ⟨b, hb, hfree, rfl⟩ := (h.mem_cidrs_iff cidr).mp hcidr
    have hlen := h.prefix27 b hb
    simp only [IsFree, Bool.and_eq_true, Bool.not_eq_true'] at hfree
    have hlast : b.contains (IPv4Network.around controller prefixLen).last = false := by
      rw [← Bool.not_eq_true, ← h.contains_dhcp_iff hlen, Bool.not_eq_true]
      exact hfree.2
    exact ⟨b, hlen, (endsWith32_first b).mp hends, h.within b hb b.first b.contains_first,
      hfree.1.2, hfree.1.1, hlast⟩

/-- The page removes what it must if it has general settings, and nothing if it has none. -/
theorem options_controllerInfoChange
    (h : OffersBlocks controller gateway prefixLen info blocks dhcp) (page : KitSettingsPage) :
    (page.controllerInfoChange info).kubernetesIpOptions =
      if page.generalSettings.isSome then
        info.cidrs.filter fun cidr => !endsWith32 cidr && some cidr ≠ page.dhcpRange
      else info.cidrs := by
  have hremove := removeEndsWith32_eq info.cidrs h.spaced []
  rcases page with ⟨_ | ⟨_ | dhcpRange⟩, _, _, _, _⟩
  · rfl
  · refine hremove.trans (List.filter_congr fun cidr _ => ?_)
    simp [KitSettingsPage.dhcpRange]
  · refine (congrArg (List.erase · dhcpRange) hremove).trans ?_
    show (info.cidrs.filter fun cidr => !endsWith32 cidr).erase dhcpRange = _
    rw [(h.nodup.filter _).erase_eq_filter, List.filter_filter]
    refine (List.filter_congr fun cidr _ => ?_).trans (if_pos rfl).symm
    by_cases heq : cidr = dhcpRange <;> simp [KitSettingsPage.dhcpRange, heq]

theorem optionsShown_iff (h : OffersBlocks controller gateway prefixLen info blocks dhcp)
    (page : KitSettingsPage) :
    OptionsShown page info ↔
      page.generalSettings.isSome ∨ ¬ Offers32 controller gateway prefixLen := by
  have hdhcp (cidr : String) (hcidr : cidr ∈ info.cidrs) : cidr ≠ info.dhcpRange := by
    rintro rfl
    exact h.dhcpRange_notMem hcidr
  rw [OptionsShown, options_controllerInfoChange h page]
  by_cases hpage : page.generalSettings.isSome
  · rw [if_pos hpage]
    refine iff_of_true (List.filter_congr fun cidr hcidr => ?_) (.inl hpage)
    simp [hdhcp cidr hcidr]
  · have hnone : page.dhcpRange = none := by
      rw [KitSettingsPage.dhcpRange, Option.not_isSome_iff_eq_none.mp hpage]
      rfl
    rw [if_neg hpage, h.offers32_iff, eq_comm, List.filter_eq_self, or_iff_right hpage]
    constructor
    · rintro hall ⟨cidr, hcidr, hends⟩
      have hkept := hall cidr hcidr
      simp [hends] at hkept
    · intro hspared cidr hcidr
      have hends : endsWith32 cidr = false := by
        rw [← Bool.not_eq_true]
        exact fun hends => hspared ⟨cidr, hcidr, hends⟩
      simp [hends, hdhcp cidr hcidr, hnone]

end Offered

/-- The blocks are valid if and only if the page has general settings when the info comes,
    or no block is offered that ends in `.32`. -/
theorem blocksValid_iff (controller gateway : IPv4Address) {prefixLen : Fin 33} (h : prefixLen ≤ 27)
    (page : KitSettingsPage) :
    BlocksValid controller gateway prefixLen page ↔
      page.generalSettings.isSome ∨ ¬ Offers32 controller gateway prefixLen := by
  obtain ⟨info, blocks, dhcp, hget, hoffers⟩ := exists_offersBlocks controller gateway h
  constructor
  · rintro ⟨info', blocks', dhcp', hget', hoffers', -, hshown⟩
    exact (optionsShown_iff hoffers' page).mp hshown
  · intro hpage
    exact ⟨info, blocks, dhcp, hget, hoffers, hoffers.cidrsAccepted,
      (optionsShown_iff hoffers page).mpr hpage⟩

/-- The page as it is when no general settings have been saved. -/
def unsetPage : KitSettingsPage where
  generalSettings := none
  controllerInfo := none
  kubernetesIpOptions := []
  unusedIpAddresses := []
  cidrRanges := none

/-- The page of a kit whose general settings have been saved. -/
def savedPage : KitSettingsPage := { unsetPage with generalSettings := some ⟨none⟩ }

theorem blocksValid_savedPage : (24 : Fin 33) ≤ 27 ∧
    BlocksValid ⟨10, 40, 12, 145⟩ ⟨10, 40, 12, 1⟩ 24 savedPage :=
  ⟨by decide,
    (blocksValid_iff ⟨10, 40, 12, 145⟩ ⟨10, 40, 12, 1⟩ (by decide) savedPage).mpr (.inl rfl)⟩

/-- The page shows `10.40.12.32` as long as no general settings have been saved. -/
theorem not_blocksValid : ¬ ∀ (controller gateway : IPv4Address) (prefixLen : Fin 33),
    prefixLen ≤ 27 → ∀ page, BlocksValid controller gateway prefixLen page := by
  intro h
  obtain ⟨info, blocks, dhcp, hget, -, -, hshown⟩ :=
    h ⟨10, 40, 12, 145⟩ ⟨10, 40, 12, 1⟩ 24 (by decide) unsetPage
  have hoffered : ((ControllerInfo.get (IPv4Address.print ⟨10, 40, 12, 145⟩)
      (IPv4Address.print ⟨10, 40, 12, 1⟩) (IPv4Network.netmask 24).print).toOption.any fun info =>
        "10.40.12.32" ∈ info.cidrs) = true := by
    decide +kernel
  rw [hget] at hoffered
  have hmem : "10.40.12.32" ∈ info.cidrs := of_decide_eq_true hoffered
  have hoptions : (unsetPage.controllerInfoChange info).kubernetesIpOptions = info.cidrs := rfl
  rw [OptionsShown, hoptions] at hshown
  rw [hshown] at hmem
  have hends : endsWith32 "10.40.12.32" = true := by decide +kernel
  have hkept := (List.mem_filter.mp hmem).2
  rw [hends] at hkept
  cases hkept

end Tfplenum
