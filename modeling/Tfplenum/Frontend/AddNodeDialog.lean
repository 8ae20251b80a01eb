/-
  Tfplenum.Frontend.AddNodeDialog

  The form of `add-node-dialog.component.ts` and its checks for host names and addresses that
  are in use.

  A check is about the array that it was made with.  An added node is put into that array,
  which is made anew from the nodes that the dialog was opened with whenever the used
  addresses are read again.  What a valid form sends is new as long as they are read before a
  node is added, and the form waits for the answer to an addition (`collisionFree_of_after`).
-/

import Tfplenum.Frontend.AddressPatterns
import Tfplenum.Frontend.DataMethods
import Tfplenum.Lib.Heap
import Tfplenum.Lib.Steps
import Tfplenum.Models.SettingsForms

namespace Tfplenum

open Lib

namespace AddNodeDialog

/-! ## Fields and their checks -/

/-- An array of a check; an entry that is missing is `none`. -/
abbrev Entries := List (Option String)

/-- `uniqueValidator`, without an index -/
def uniqueValidator (uniqueArray : Entries) : Option String → Bool
  | none => true
  | some value => !(0 < value.length && uniqueArray.contains (some value))

/-- `requiredField` -/
def requiredField : Option String → Bool
  | none => false
  | some value => 0 < value.length

/-- `patternValidator` -/
def patternValidator (pattern : String → Bool) : Option String → Bool
  | none => true
  | some value => if 0 < value.length then pattern value else true

/-- `validateFromArray`, for a field with the three checks -/
def validateFromArray (pattern : String → Bool) (uniqueArray : Entries)
    (value : Option String) : Bool :=
  uniqueValidator uniqueArray value && patternValidator pattern value && requiredField value

/-- `/^[a-z]([a-z0-9-.]){4,39}$/` -/
def hostnamePattern (value : String) : Bool :=
  match value.toList with
  | c :: cs => c.isLower && 4 ≤ cs.length && cs.length ≤ 39 &&
      cs.all fun c => c.isLower || c.isDigit || c = '-' || c = '.'
  | [] => false

/-- `/^([0-9a-fA-F][0-9a-fA-F]:){5}([0-9a-fA-F][0-9a-fA-F])$/` -/
def macPattern (value : String) : Bool :=
  let isHex (c : Char) : Bool := c.isDigit || c ∈ "abcdefABCDEF".toList
  let pairs := value.toList.splitOn ':'
  pairs.length = 6 && pairs.all fun pair => pair.length = 2 && pair.all isHex

/-- A `FormControl`: its value, the array of its check for duplicates if it has checks, and
    whether it was valid when it was last checked. -/
structure Control where
  value : Option String
  uniqueArray : Option Ref
  valid : Bool
deriving DecidableEq, Repr

/-- `updateValueAndValidity` -/
def Control.update (arrays : Heap Entries) (pattern : String → Bool) (control : Control) :
    Control :=
  { control with valid := match control.uniqueArray with
      | some ref => validateFromArray pattern ((arrays.get? ref).getD []) control.value
      | none => true }

/-! ## The dialog -/

structure Node where
  hostname : String
  ipAddress : Option String
  macAddress : Option String
deriving DecidableEq, Repr

/-- `hostname.split('.')[0]` -/
def Node.firstLabel (node : Node) : String :=
  String.ofList ((node.hostname.toList.splitOn '.').headD [])

/-- What a request to add a node is about -/
structure Submission where
  hostname : Option String
  ipAddress : Option String
deriving DecidableEq, Repr

structure Dialog where
  /-- `nodes_` and `setup_nodes_` -/
  nodes : List Node
  setupNodes : List Node
  kubernetesServicesCidr : String
  /-- of the general settings; empty when it is missing -/
  controllerInterface : String
  usedIps : Entries
  availableIps : Entries
  /-- the arrays made so far -/
  arrays : Heap Entries
  validationHostnames : Ref
  validationIps : Ref
  validationMacs : Ref
  hostname : Control
  ipAddress : Control
  macAddress : Control
  nodeType : Option String
  deploymentType : Option String
  createDuplicate : Bool
  /-- the requests for the unused and for the used addresses that are under way -/
  unusedRequests : Nat
  usedRequests : Nat
  /-- the nodes that are being added, and those that have been -/
  adding : List Submission
  added : List Submission
  closed : Bool

/-- `save_k8_ips_` -/
def saveK8Ips (kubernetesServicesCidr : String) : List String :=
  match kubernetesServicesCidr.toList.splitOn '.' with
  | a :: b :: c :: d :: _ =>
      match DataMethods.decimal d with
      | some startIp => (List.range' startIp 32).map fun i =>
          String.ofList (a ++ '.' :: b ++ '.' :: c ++ '.' :: Nat.toDigits 10 i)
      | none => []
  | _ => []

namespace Dialog

variable (d : Dialog)

def updateHostname (control : Control) : Control := control.update d.arrays hostnamePattern

def updateIpAddress (control : Control) : Control := control.update d.arrays (accepts ipConstraint)

def updateMacAddress (control : Control) : Control := control.update d.arrays macPattern

/-- `initialize_node_form_group_`; without a previous form the values given are empty. -/
def initializeNodeFormGroup (hostname macAddress : Option String) : Dialog :=
  { d with
    hostname := d.updateHostname ⟨hostname, some d.validationHostnames, true⟩
    ipAddress := d.updateIpAddress ⟨some "", some d.validationIps, true⟩
    -- its checks are set after it was made, and not run
    macAddress := ⟨macAddress,
      if d.deploymentType = some "Baremetal" then some d.validationMacs else none, true⟩ }

/-- The addresses `update_available_hostname_ip_and_mac_addresses_` offers -/
def offered (nodeType : String) : Entries :=
  let subnet := (d.controllerInterface.toList.reverse.dropWhile (· ≠ '.')).reverse
  let large := nodeType = "Sensor" ∨ nodeType = "MinIO"
  let availableIps := (List.range' (if large then 50 else 40) (if large then 46 else 10)).map
    fun lastOctet => some (String.ofList (subnet ++ Nat.toDigits 10 lastOctet))
  availableIps.filter fun ip => !((d.arrays.get? d.validationIps).getD []).contains ip

/-- `update_available_hostname_ip_and_mac_addresses_` -/
def updateAvailable : Dialog :=
  match d.nodeType with
  | none => d
  | some nodeType =>
      if d.controllerInterface = "" then d
      else { d with
        -- the host name is not checked again
        hostname := { d.hostname with uniqueArray := some d.validationHostnames }
        ipAddress := d.updateIpAddress ⟨none, some d.validationIps, true⟩
        macAddress :=
          if d.deploymentType = some "Baremetal" then
            d.updateMacAddress ⟨none, some d.validationMacs, true⟩
          else d.macAddress
        availableIps := d.offered nodeType }

/-- The arrays of `update_validation_refs_` -/
def makeValidationRefs : Dialog :=
  let ips := d.nodes.map Node.ipAddress ++ (saveK8Ips d.kubernetesServicesCidr).map some ++
    d.usedIps
  { d with
    arrays := ((d.arrays.make (d.nodes.map fun node => some node.firstLabel)).make
      ips.eraseDups).make (d.nodes.map Node.macAddress)
    validationHostnames := d.arrays.next
    validationIps := d.arrays.next + 1
    validationMacs := d.arrays.next + 2 }

/-- The end of a request for the used addresses -/
def onUsedIps (usedIps : Entries) : Dialog :=
  ({ d with usedIps } : Dialog).makeValidationRefs.updateAvailable

/-- `change_node_type` -/
def changeNodeType (nodeType : String) : Dialog :=
  ({ d with
    nodeType := some nodeType
    createDuplicate :=
      if nodeType = "Control-Plane" ∨ nodeType = "MinIO" then false
      else d.createDuplicate } : Dialog).updateAvailable

/-- `change_deployment_type`, with `set_baremetal_validation_` -/
def changeDeploymentType (deploymentType : String) : Dialog :=
  { d with
    deploymentType := some deploymentType
    unusedRequests := d.unusedRequests + 1
    macAddress := d.updateMacAddress { d.macAddress with
      uniqueArray := if deploymentType = "Baremetal" then some d.validationMacs else none } }

/-- The end of `api_add_node_` -/
def onAdded : Dialog :=
  if d.createDuplicate then
    let arrays := (d.arrays.modify d.validationIps (· ++ [d.ipAddress.value])).modify
      d.validationHostnames (· ++ [d.hostname.value])
    ({ d with
      availableIps := d.availableIps.filter (· ≠ d.ipAddress.value)
      usedIps := d.usedIps ++ [d.ipAddress.value]
      arrays :=
        if d.macAddress.value.isSome then
          arrays.modify d.validationMacs (· ++ [d.macAddress.value])
        else arrays } : Dialog).initializeNodeFormGroup d.hostname.value d.macAddress.value
  else { d with closed := true }

/-- The form is valid, the fields of a virtual machine aside. -/
structure FormValid : Prop where
  hostname : d.hostname.valid = true
  ipAddress : d.ipAddress.valid = true
  macAddress : d.macAddress.valid = true
  nodeType : d.nodeType.isSome = true
  deploymentType : d.deploymentType.isSome = true

instance : Decidable d.FormValid :=
  decidable_of_iff (d.hostname.valid = true ∧ d.ipAddress.valid = true ∧
      d.macAddress.valid = true ∧ d.nodeType.isSome = true ∧ d.deploymentType.isSome = true)
    ⟨fun ⟨h, i, m, n, t⟩ => ⟨h, i, m, n, t⟩, fun ⟨h, i, m, n, t⟩ => ⟨h, i, m, n, t⟩⟩

end Dialog

/-- The dialog after its first requests -/
def openDialog (nodes setupNodes : List Node)
    (kubernetesServicesCidr controllerInterface : String) (unusedIps usedIps : Entries) : Dialog :=
  let empty : Control := ⟨none, none, true⟩
  let dialog : Dialog :=
    { nodes, setupNodes, kubernetesServicesCidr, controllerInterface, usedIps
      availableIps := unusedIps
      arrays := Heap.empty
      validationHostnames := 0
      validationIps := 0
      validationMacs := 0
      hostname := empty
      ipAddress := empty
      macAddress := empty
      nodeType := none
      deploymentType := none
      createDuplicate := false
      unusedRequests := 0
      usedRequests := 0
      adding := []
      added := []
      closed := false }
  dialog.makeValidationRefs.initializeNodeFormGroup (some "") none

inductive DialogEvent where
  | changeNodeType (nodeType : String)
  | changeDeploymentType (deploymentType : String)
  | hostname (value : String)
  | ipAddress (value : String)
  | macAddress (value : String)
  | changeDuplicateNode (checked : Bool)
  /-- a request for addresses is answered, or fails. -/
  | unusedIps (response : Option Entries)
  | usedIps (response : Option Entries)
  | add
  /-- a node is added, or not. -/
  | added (i : Nat)
  | notAdded (i : Nat)

/-- The event, if it may happen -/
def Dialog.step (d : Dialog) (e : DialogEvent) : Option Dialog :=
  if d.closed then none
  else match e with
    | .changeNodeType nodeType => some (d.changeNodeType nodeType)
    | .changeDeploymentType deploymentType =>
        -- no deployment types are offered before
        if d.nodeType.isSome then some (d.changeDeploymentType deploymentType) else none
    | .hostname value =>
        some { d with hostname := d.updateHostname { d.hostname with value := some value } }
    | .ipAddress value =>
        some { d with ipAddress := d.updateIpAddress { d.ipAddress with value := some value } }
    | .macAddress value =>
        some { d with macAddress := d.updateMacAddress { d.macAddress with value := some value } }
    | .changeDuplicateNode checked =>
        if d.nodeType ≠ some "Control-Plane" ∧ d.nodeType ≠ some "MinIO" then
          some { d with createDuplicate := checked }
        else none
    | .unusedIps response =>
        if 0 < d.unusedRequests then
          some (match response with
            | some availableIps => { d with
                availableIps
                unusedRequests := d.unusedRequests - 1
                usedRequests := d.usedRequests + 1 }
            | none => { d with unusedRequests := d.unusedRequests - 1 })
        else none
    | .usedIps response =>
        if 0 < d.usedRequests then
          let d := { d with usedRequests := d.usedRequests - 1 }
          some (response.elim d d.onUsedIps)
        else none
    | .add =>
        if d.FormValid then
          some { d with adding := d.adding ++ [⟨d.hostname.value, d.ipAddress.value⟩] }
        else none
    | .added i =>
        (d.adding[i]?).map fun submission =>
          ({ d with
            adding := d.adding.eraseIdx i
            added := d.added ++ [submission] } : Dialog).onAdded
    | .notAdded i =>
        if i < d.adding.length then some { d with adding := d.adding.eraseIdx i } else none

/-! ## What a valid form sends -/

/-- The address is one of the block that is stored for Kubernetes. -/
def InKubernetesBlock (kubernetesServicesCidr value : String) : Prop :=
  ∃ address first last ip : IPv4Address, kubernetesServicesCidr = address.print ∧
    ipNetwork27 address = .ok (first, last) ∧ value = ip.print ∧
    first.toNat ≤ ip.toNat ∧ ip.toNat ≤ last.toNat

/-- The host name and the address are those of no node, and the address is not used otherwise. -/
structure Dialog.Free (d : Dialog) (hostname ipAddress : String) : Prop where
  nodes : ∀ node ∈ d.nodes ++ d.setupNodes, hostname ≠ node.hostname ∧
    hostname ≠ node.firstLabel ∧ node.ipAddress ≠ some ipAddress
  added : ∀ submission ∈ d.added, submission.hostname ≠ some hostname ∧
    submission.ipAddress ≠ some ipAddress
  used : some ipAddress ∉ d.usedIps
  kubernetes : ¬InKubernetesBlock d.kubernetesServicesCidr ipAddress

def Dialog.CollisionFree (d : Dialog) : Prop :=
  d.closed = false → d.FormValid → ∃ hostname ipAddress, d.hostname.value = some hostname ∧
    d.ipAddress.value = some ipAddress ∧ d.Free hostname ipAddress

/-- The host name that is typed is not the whole name of a node with a domain; neither it nor the
    address, unless that is used, is one of a control plane, which the checks leave out; the used
    addresses are read before a node is added, and for a known interface; and the form is as it
    was sent when the node has been added. -/
def InStep (d : Dialog) : DialogEvent → Prop
  | .hostname value => (∀ node ∈ d.nodes, value = node.hostname → '.' ∉ value.toList) ∧
      ∀ node ∈ d.setupNodes, value ≠ node.hostname ∧ value ≠ node.firstLabel
  | .ipAddress value => ∀ node ∈ d.setupNodes, node.ipAddress = some value → some value ∈ d.usedIps
  | .usedIps (some _) => d.added = [] ∧ d.controllerInterface ≠ ""
  | .added i => d.createDuplicate = true →
      d.adding[i]? = some ⟨d.hostname.value, d.ipAddress.value⟩
  | _ => True

instance (d : Dialog) : ∀ e, Decidable (InStep d e)
  | .hostname _ => inferInstanceAs (Decidable (_ ∧ _))
  | .ipAddress _ => inferInstanceAs (Decidable (∀ node ∈ d.setupNodes, _ → _))
  | .usedIps (some _) => inferInstanceAs (Decidable (_ ∧ _))
  | .added _ => inferInstanceAs (Decidable (_ → _))
  | .usedIps none | .changeNodeType _ | .changeDeploymentType _ | .macAddress _
  | .changeDuplicateNode _ | .unusedIps _ | .add | .notAdded _ => .isTrue trivial

/-! ## Checks -/

theorem validateFromArray_eq_true {pattern : String → Bool} {uniqueArray : Entries}
    {value : Option String} (h : validateFromArray pattern uniqueArray value = true) :
    ∃ text, value = some text ∧ pattern text = true ∧ some text ∉ uniqueArray := by
  rw [validateFromArray, Bool.and_eq_true, Bool.and_eq_true] at h
  obtain ⟨⟨hunique, hpattern⟩, hrequired⟩ := h
  cases value with
  | none => cases hrequired
  | some text =>
      have hlength : 0 < text.length := of_decide_eq_true hrequired
      rw [patternValidator, if_pos hlength] at hpattern
      refine ⟨text, rfl, hpattern, fun hmem => ?_⟩
      have hcontains : uniqueArray.contains (some text) = true := List.contains_iff_mem.mpr hmem
      rw [uniqueValidator, hcontains, decide_eq_true hlength] at hunique
      cases hunique

/-- What a field that was just checked with its array holds -/
theorem Control.update_valid {arrays : Heap Entries} {pattern : String → Bool} {control : Control}
    {ref : Ref} {entries : Entries} (href : control.uniqueArray = some ref)
    (hget : arrays.get? ref = some entries) (h : (control.update arrays pattern).valid = true) :
    ∃ text, control.value = some text ∧ pattern text = true ∧ some text ∉ entries := by
  simp only [update, href, hget, Option.getD_some] at h
  exact validateFromArray_eq_true h

/-- A name without a dot is its own first label. -/
theorem Node.firstLabel_of_dot_notMem {node : Node} (h : '.' ∉ node.hostname.toList) :
    node.firstLabel = node.hostname := by
  rw [firstLabel, List.splitOn_eq_singleton h]
  exact String.ofList_toList

/-! ## The block for Kubernetes -/

theorem decimal_printOctet : ∀ n : Fin 256,
    DataMethods.decimal (IPv4Address.printOctet n) = some n.val := by
  decide +kernel

/-- An address of the block differs from the first one in the last octet only. -/
theorem octets_of_ipNetwork27 {address first last ip : IPv4Address}
    (h : ipNetwork27 address = .ok (first, last)) (hfirst : first.toNat ≤ ip.toNat)
    (hlast : ip.toNat ≤ last.toNat) : ip.a = address.a ∧ ip.b = address.b ∧ ip.c = address.c ∧
      address.d.val ≤ ip.d.val ∧ ip.d.val < address.d.val + 32 := by
  rw [ipNetwork27] at h
  split at h
  next haligned =>
    cases h
    obtain ⟨⟨a, ha⟩, ⟨b, hb⟩, ⟨c, hc⟩, ⟨d, hd⟩⟩ := ip
    obtain ⟨⟨a', ha'⟩, ⟨b', hb'⟩, ⟨c', hc'⟩, ⟨d', hd'⟩⟩ := address
    simp only [IPv4Address.toNat, Fin.val_add] at hfirst hlast haligned
    simp only [Fin.mk.injEq]
    have hthirtyOne : ((31 : Fin 256) : Nat) = 31 := rfl
    omega
  · cases h

/-- The addresses of the block are those that are left out. -/
theorem mem_saveK8Ips {kubernetesServicesCidr value : String}
    (h : InKubernetesBlock kubernetesServicesCidr value) :
    value ∈ saveK8Ips kubernetesServicesCidr := by
  obtain ⟨address, first, last, ip, rfl, hnetwork, rfl, hfirst, hlast⟩ := h
  obtain ⟨ha, hb, hc, hlow, hhigh⟩ := octets_of_ipNetwork27 hnetwork hfirst hlast
  have hsplit : address.print.toList.splitOn '.' = [IPv4Address.printOctet address.a,
      IPv4Address.printOctet address.b, IPv4Address.printOctet address.c,
      IPv4Address.printOctet address.d] := by
    rw [IPv4Address.print, String.toList_ofList, IPv4Address.splitOn_printChars]
  rw [saveK8Ips, hsplit]
  simp only [decimal_printOctet]
  refine List.mem_map.mpr ⟨ip.d.val, List.mem_range'_1.mpr ⟨hlow, hhigh⟩, ?_⟩
  rw [IPv4Address.print, IPv4Address.printChars_eq, ha, hb, hc]
  rfl

/-! ## The arrays -/

namespace Dialog

/-- All addresses that are in use as far as the dialog knows -/
structure Lists (d : Dialog) (ips : Entries) : Prop where
  nodes : ∀ node ∈ d.nodes, node.ipAddress ∈ ips
  kubernetes : ∀ ip ∈ saveK8Ips d.kubernetesServicesCidr, some ip ∈ ips
  used : ∀ ip ∈ d.usedIps, ip ∈ ips
  added : ∀ submission ∈ d.added, submission.ipAddress ∈ ips

/-- The arrays hold what is in use. -/
structure Arrays (d : Dialog) : Prop where
  refs : [d.validationHostnames, d.validationIps, d.validationMacs].Nodup
  hostnames : d.arrays.get? d.validationHostnames =
    some (d.nodes.map (fun node => some node.firstLabel) ++ d.added.map Submission.hostname)
  ips : ∃ ips, d.arrays.get? d.validationIps = some ips ∧ d.Lists ips

/-- The host name is new, but that it may be one of a node with a domain. -/
structure NewHostname (d : Dialog) (name : String) : Prop where
  notMem : some name ∉
    d.nodes.map (fun node => some node.firstLabel) ++ d.added.map Submission.hostname
  nodes : ∀ node ∈ d.nodes, name = node.hostname → '.' ∉ name.toList
  setupNodes : ∀ node ∈ d.setupNodes, name ≠ node.hostname ∧ name ≠ node.firstLabel

/-- The address is new. -/
structure NewAddress (d : Dialog) (ip : String) : Prop where
  notMem : ∀ ips, d.arrays.get? d.validationIps = some ips → some ip ∉ ips
  setupNodes : ∀ node ∈ d.setupNodes, node.ipAddress = some ip → some ip ∈ d.usedIps

/-- The checks are about the arrays of the moment, and what a field held when it was found valid
    is new still. -/
structure Inv (d : Dialog) : Prop where
  arrays : d.Arrays
  hostnameArray : d.hostname.uniqueArray = some d.validationHostnames
  ipAddressArray : d.ipAddress.uniqueArray = some d.validationIps
  hostname : d.hostname.valid = true →
    ∃ name, d.hostname.value = some name ∧ d.NewHostname name
  ipAddress : d.ipAddress.valid = true → ∃ ip, d.ipAddress.value = some ip ∧ d.NewAddress ip
  asked : 0 < d.unusedRequests + d.usedRequests → d.nodeType.isSome = true

variable {d : Dialog}

theorem NewHostname.ne_firstLabel {name : String} (h : d.NewHostname name) {node : Node}
    (hnode : node ∈ d.nodes) : name ≠ node.firstLabel := by
  rintro rfl
  exact h.notMem (List.mem_append_left _ (List.mem_map_of_mem hnode))

/-- What the invariant says of a valid form -/
theorem Inv.collisionFree (h : d.Inv) : d.CollisionFree := by
  intro _ hvalid
  obtain ⟨name, hname, hnew⟩ := h.hostname hvalid.hostname
  obtain ⟨ip, hip, hnewIp⟩ := h.ipAddress hvalid.ipAddress
  obtain ⟨ips, hget, hlists⟩ := h.arrays.ips
  have hnot := hnewIp.notMem ips hget
  refine ⟨name, ip, hname, hip, ?_⟩
  constructor
  case nodes =>
    intro node hnode
    rcases List.mem_append.mp hnode with hnode | hnode
    · refine ⟨?_, hnew.ne_firstLabel hnode, ?_⟩
      · rintro rfl
        have hdot := hnew.nodes node hnode rfl
        exact hnew.ne_firstLabel hnode (Node.firstLabel_of_dot_notMem hdot).symm
      · intro hused
        exact hnot (hused ▸ hlists.nodes node hnode)
    · obtain ⟨hhostname, hlabel⟩ := hnew.setupNodes node hnode
      refine ⟨hhostname, hlabel, fun hused => ?_⟩
      exact hnot (hlists.used _ (hnewIp.setupNodes node hnode hused))
  case added =>
    intro submission hadded
    constructor
    · intro hused
      exact hnew.notMem (List.mem_append_right _ (List.mem_map.mpr ⟨submission, hadded, hused⟩))
    · intro hused
      exact hnot (hused ▸ hlists.added submission hadded)
  case used => exact fun hused => hnot (hlists.used _ hused)
  case kubernetes => exact fun hblock => hnot (hlists.kubernetes ip (mem_saveK8Ips hblock))

/-! ## Arrays that are made anew -/

theorem makeValidationRefs_arrays (hadded : d.added = []) : d.makeValidationRefs.Arrays := by
  let hostnames : Entries := d.nodes.map fun node => some node.firstLabel
  let ips : Entries := (d.nodes.map Node.ipAddress ++
    (saveK8Ips d.kubernetesServicesCidr).map some ++ d.usedIps).eraseDups
  let macs : Entries := d.nodes.map Node.macAddress
  have hfirst : d.arrays.next < (d.arrays.make hostnames).size := by
    rw [Heap.size_make]
    exact Nat.lt_succ_self _
  have hsecond : (d.arrays.make hostnames).next < ((d.arrays.make hostnames).make ips).size := by
    rw [Heap.size_make]
    exact Nat.lt_succ_self _
  have hboth : d.arrays.next < ((d.arrays.make hostnames).make ips).size := by
    rw [Heap.size_make]
    exact Nat.lt_succ_of_lt hfirst
  have hnext : d.arrays.next + 1 = (d.arrays.make hostnames).next := by
    rw [Heap.next, Heap.next, Heap.size_make]
  constructor
  case refs =>
    show [d.arrays.next, d.arrays.next + 1, d.arrays.next + 2].Nodup
    simp
  case hostnames =>
    show (((d.arrays.make hostnames).make ips).make macs).get? d.arrays.next =
      some (hostnames ++ d.added.map Submission.hostname)
    rw [Heap.get?_make_of_lt macs hboth, Heap.get?_make_of_lt ips hfirst,
      Heap.get?_make_next, hadded, List.map_nil, List.append_nil]
  case ips =>
    refine ⟨ips, ?_, ?_⟩
    · show (((d.arrays.make hostnames).make ips).make macs).get? (d.arrays.next + 1) = some ips
      rw [hnext, Heap.get?_make_of_lt macs hsecond, Heap.get?_make_next]
    · have hmem : ∀ ip, ip ∈ ips ↔ ip ∈ d.nodes.map Node.ipAddress ∨
          ip ∈ (saveK8Ips d.kubernetesServicesCidr).map some ∨ ip ∈ d.usedIps := by
        intro ip
        rw [List.mem_eraseDups, List.mem_append, List.mem_append, or_assoc]
      constructor
      case nodes =>
        intro node hnode
        exact (hmem _).mpr (Or.inl (List.mem_map_of_mem hnode))
      case kubernetes =>
        intro ip hip
        exact (hmem _).mpr (Or.inr (Or.inl (List.mem_map_of_mem hip)))
      case used => exact fun ip hip => (hmem ip).mpr (Or.inr (Or.inr hip))
      case added =>
        show ∀ submission ∈ d.added, submission.ipAddress ∈ ips
        rw [hadded]
        exact fun submission h => absurd h List.not_mem_nil

/-- A new form has no address, and no host name that is new. -/
theorem Arrays.initializeNodeFormGroup (h : d.Arrays)
    (hasked : 0 < d.unusedRequests + d.usedRequests → d.nodeType.isSome = true)
    {hostname macAddress : Option String}
    (hhostname : ∀ entries name, d.arrays.get? d.validationHostnames = some entries →
      hostname = some name → hostnamePattern name = true → some name ∈ entries) :
    (d.initializeNodeFormGroup hostname macAddress).Inv := by
  obtain ⟨ips, hips, hlists⟩ := h.ips
  constructor
  case arrays =>
    exact ⟨h.refs, h.hostnames, ips, hips, hlists.nodes, hlists.kubernetes, hlists.used,
      hlists.added⟩
  case hostnameArray => rfl
  case ipAddressArray => rfl
  case hostname =>
    intro hvalid
    obtain ⟨name, hname, hpattern, hnot⟩ := Control.update_valid rfl h.hostnames hvalid
    exact absurd (hhostname _ name h.hostnames hname hpattern) hnot
  case ipAddress =>
    intro hvalid
    obtain ⟨ip, hip, hpattern, -⟩ := Control.update_valid rfl hips hvalid
    obtain rfl : "" = ip := Option.some.inj hip
    exact absurd hpattern (by decide +kernel)
  case asked => exact hasked

theorem inv_openDialog (nodes setupNodes : List Node)
    (kubernetesServicesCidr controllerInterface : String) (unusedIps usedIps : Entries) :
    (openDialog nodes setupNodes kubernetesServicesCidr controllerInterface unusedIps
      usedIps).Inv := by
  apply Arrays.initializeNodeFormGroup (makeValidationRefs_arrays rfl)
  · intro h
    exact absurd h (Nat.lt_irrefl 0)
  · rintro _ _ - ⟨rfl⟩ hpattern
    exact absurd hpattern (by decide)

/-! ## Events -/

/-- New checks of the two fields, or the old ones where there is nothing to check with -/
theorem Arrays.updateAvailable (h : d.Arrays)
    (hhostname : d.hostname.valid = true →
      ∃ name, d.hostname.value = some name ∧ d.NewHostname name)
    (hready : d.nodeType = none ∨ d.controllerInterface = "" → d.Inv) :
    d.updateAvailable.Inv := by
  cases hnodeType : d.nodeType with
  | none =>
      rw [Dialog.updateAvailable, hnodeType]
      exact hready (Or.inl hnodeType)
  | some nodeType =>
      by_cases hinterface : d.controllerInterface = ""
      · rw [Dialog.updateAvailable, hnodeType]
        simp only [if_pos hinterface]
        exact hready (Or.inr hinterface)
      · rw [Dialog.updateAvailable, hnodeType]
        simp only [if_neg hinterface]
        obtain ⟨ips, hips, hlists⟩ := h.ips
        constructor
        case arrays =>
          exact ⟨h.refs, h.hostnames, ips, hips, hlists.nodes, hlists.kubernetes, hlists.used,
            hlists.added⟩
        case hostnameArray => rfl
        case ipAddressArray => rfl
        case hostname =>
          intro hvalid
          obtain ⟨name, hname, hnew⟩ := hhostname hvalid
          exact ⟨name, hname, hnew.notMem, hnew.nodes, hnew.setupNodes⟩
        case ipAddress =>
          intro hvalid
          obtain ⟨ip, hip, -⟩ := Control.update_valid rfl hips hvalid
          cases hip
        case asked => exact fun _ => rfl

/-- The checks are not about the other fields. -/
theorem Inv.with_others (h : d.Inv) (availableIps : Entries) (macAddress : Control)
    {nodeType : Option String} (deploymentType : Option String) (createDuplicate : Bool)
    {unusedRequests usedRequests : Nat} (adding : List Submission)
    (hasked : 0 < unusedRequests + usedRequests → nodeType.isSome = true) :
    Inv { d with
      availableIps, macAddress, nodeType, deploymentType, createDuplicate, unusedRequests,
      usedRequests, adding } := by
  obtain ⟨ips, hips, hlists⟩ := h.arrays.ips
  constructor
  case arrays =>
    exact ⟨h.arrays.refs, h.arrays.hostnames, ips, hips, hlists.nodes, hlists.kubernetes,
      hlists.used, hlists.added⟩
  case hostnameArray => exact h.hostnameArray
  case ipAddressArray => exact h.ipAddressArray
  case hostname =>
    intro hvalid
    obtain ⟨name, hname, hnew⟩ := h.hostname hvalid
    exact ⟨name, hname, hnew.notMem, hnew.nodes, hnew.setupNodes⟩
  case ipAddress =>
    intro hvalid
    obtain ⟨ip, hip, hnew⟩ := h.ipAddress hvalid
    exact ⟨ip, hip, hnew.notMem, hnew.setupNodes⟩
  case asked => exact hasked

theorem Inv.changeNodeType (h : d.Inv) (nodeType : String) : (d.changeNodeType nodeType).Inv := by
  have hd := h.with_others d.availableIps d.macAddress d.deploymentType
    (if nodeType = "Control-Plane" ∨ nodeType = "MinIO" then false else d.createDuplicate)
    d.adding (fun _ : 0 < d.unusedRequests + d.usedRequests => Option.isSome_some (a := nodeType))
  exact hd.arrays.updateAvailable hd.hostname fun _ => hd

/-- The two fields are changed, and their checks stay. -/
theorem Inv.with_fields (h : d.Inv) (hostname ipAddress : Control)
    (hhostnameArray : hostname.uniqueArray = some d.validationHostnames)
    (hipAddressArray : ipAddress.uniqueArray = some d.validationIps)
    (hhostname : hostname.valid = true → ∃ name, hostname.value = some name ∧ d.NewHostname name)
    (hipAddress : ipAddress.valid = true → ∃ ip, ipAddress.value = some ip ∧ d.NewAddress ip) :
    Inv { d with hostname, ipAddress } := by
  obtain ⟨ips, hips, hlists⟩ := h.arrays.ips
  constructor
  case arrays =>
    exact ⟨h.arrays.refs, h.arrays.hostnames, ips, hips, hlists.nodes, hlists.kubernetes,
      hlists.used, hlists.added⟩
  case hostnameArray => exact hhostnameArray
  case ipAddressArray => exact hipAddressArray
  case hostname =>
    intro hvalid
    obtain ⟨name, hname, hnew⟩ := hhostname hvalid
    exact ⟨name, hname, hnew.notMem, hnew.nodes, hnew.setupNodes⟩
  case ipAddress =>
    intro hvalid
    obtain ⟨ip, hip, hnew⟩ := hipAddress hvalid
    exact ⟨ip, hip, hnew.notMem, hnew.setupNodes⟩
  case asked => exact h.asked

theorem Inv.setHostname (h : d.Inv) {value : String}
    (hnodes : ∀ node ∈ d.nodes, value = node.hostname → '.' ∉ value.toList)
    (hsetup : ∀ node ∈ d.setupNodes, value ≠ node.hostname ∧ value ≠ node.firstLabel) :
    Inv { d with hostname := d.updateHostname { d.hostname with value := some value } } := by
  have harray : ({ d.hostname with value := some value } : Control).uniqueArray =
      some d.validationHostnames := h.hostnameArray
  apply h.with_fields (d.updateHostname { d.hostname with value := some value }) d.ipAddress harray
    h.ipAddressArray ?_ h.ipAddress
  intro hvalid
  obtain ⟨name, hname, -, hnot⟩ := Control.update_valid harray h.arrays.hostnames hvalid
  obtain rfl : value = name := Option.some.inj hname
  exact ⟨value, rfl, hnot, hnodes, hsetup⟩

theorem Inv.setIpAddress (h : d.Inv) {value : String}
    (hsetup : ∀ node ∈ d.setupNodes, node.ipAddress = some value → some value ∈ d.usedIps) :
    Inv { d with ipAddress := d.updateIpAddress { d.ipAddress with value := some value } } := by
  have harray : ({ d.ipAddress with value := some value } : Control).uniqueArray =
      some d.validationIps := h.ipAddressArray
  obtain ⟨ips, hips, -⟩ := h.arrays.ips
  apply h.with_fields d.hostname (d.updateIpAddress { d.ipAddress with value := some value })
    h.hostnameArray harray h.hostname
  intro hvalid
  obtain ⟨ip, hip, -, hnot⟩ := Control.update_valid harray hips hvalid
  obtain rfl : value = ip := Option.some.inj hip
  refine ⟨value, rfl, ?_, hsetup⟩
  intro ips' hips'
  rw [← Option.some.inj (hips.symm.trans hips')]
  exact hnot

/-- The arrays made before a node is added hold the same host names as those before. -/
theorem Inv.onUsedIps (h : d.Inv) (usedIps : Entries) (hadded : d.added = [])
    (hinterface : d.controllerInterface ≠ "") (hnodeType : d.nodeType.isSome = true) :
    (d.onUsedIps usedIps).Inv := by
  have harrays : ({ d with usedIps } : Dialog).makeValidationRefs.Arrays :=
    makeValidationRefs_arrays hadded
  apply harrays.updateAvailable
  · intro hvalid
    obtain ⟨name, hname, hnew⟩ := h.hostname hvalid
    exact ⟨name, hname, hnew.notMem, hnew.nodes, hnew.setupNodes⟩
  · rintro (hnone | hempty)
    · have hnone' : d.nodeType = none := hnone
      rw [hnone'] at hnodeType
      cases hnodeType
    · exact absurd hempty hinterface

/-- What `api_add_node_` does to the arrays of the host names and of the addresses -/
theorem Arrays.get?_pushed (h : d.Arrays) {ips : Entries}
    (hips : d.arrays.get? d.validationIps = some ips) (hostname ip : Option String)
    {arrays : Heap Entries} (harrays : arrays =
      (d.arrays.modify d.validationIps (· ++ [ip])).modify d.validationHostnames (· ++ [hostname]) ∨
      ∃ mac, arrays = ((d.arrays.modify d.validationIps (· ++ [ip])).modify d.validationHostnames
        (· ++ [hostname])).modify d.validationMacs (· ++ [mac])) :
    arrays.get? d.validationHostnames = some
        (d.nodes.map (fun node => some node.firstLabel) ++ d.added.map Submission.hostname ++
          [hostname]) ∧
      arrays.get? d.validationIps = some (ips ++ [ip]) := by
  have hrefs := h.refs
  simp only [List.nodup_cons, List.mem_cons, List.not_mem_nil, or_false, not_or] at hrefs
  obtain ⟨⟨hne, hne'⟩, hne'', -⟩ := hrefs
  have hpushed : ((d.arrays.modify d.validationIps (· ++ [ip])).modify d.validationHostnames
      (· ++ [hostname])).get? d.validationHostnames = some
        (d.nodes.map (fun node => some node.firstLabel) ++ d.added.map Submission.hostname ++
          [hostname]) := by
    rw [Heap.get?_modify_self, Heap.get?_modify_of_ne _ hne, h.hostnames]
    rfl
  have hpushed' : ((d.arrays.modify d.validationIps (· ++ [ip])).modify d.validationHostnames
      (· ++ [hostname])).get? d.validationIps = some (ips ++ [ip]) := by
    rw [Heap.get?_modify_of_ne _ (Ne.symm hne), Heap.get?_modify_self, hips]
    rfl
  rcases harrays with rfl | ⟨mac, rfl⟩
  · exact ⟨hpushed, hpushed'⟩
  · rw [Heap.get?_modify_of_ne _ hne', Heap.get?_modify_of_ne _ hne'']
    exact ⟨hpushed, hpushed'⟩

/-- The form that was sent is the one that is put into the arrays. -/
theorem Inv.onAdded (h : d.Inv) (adding : List Submission) (hduplicate : d.createDuplicate = true) :
    Inv ({ d with adding, added := d.added ++ [⟨d.hostname.value, d.ipAddress.value⟩] } :
      Dialog).onAdded := by
  obtain ⟨ips, hips, hlists⟩ := h.arrays.ips
  rw [Dialog.onAdded]
  simp only [if_pos hduplicate]
  let pushed := (d.arrays.modify d.validationIps (· ++ [d.ipAddress.value])).modify
    d.validationHostnames (· ++ [d.hostname.value])
  let arrays := if d.macAddress.value.isSome = true then
    pushed.modify d.validationMacs (· ++ [d.macAddress.value]) else pushed
  have harrays : arrays = pushed ∨
      ∃ mac, arrays = pushed.modify d.validationMacs (· ++ [mac]) := by
    by_cases hmac : d.macAddress.value.isSome = true
    · exact Or.inr ⟨_, if_pos hmac⟩
    · exact Or.inl (if_neg hmac)
  obtain ⟨hhostnames, hips'⟩ :=
    h.arrays.get?_pushed hips d.hostname.value d.ipAddress.value harrays
  apply Arrays.initializeNodeFormGroup
  · constructor
    case refs => exact h.arrays.refs
    case hostnames =>
      refine hhostnames.trans (congrArg some ?_)
      rw [List.map_append, List.append_assoc]
      rfl
    case ips =>
      refine ⟨_, hips', ?_⟩
      constructor
      case nodes => exact fun node hnode => List.mem_append_left _ (hlists.nodes node hnode)
      case kubernetes => exact fun ip hip => List.mem_append_left _ (hlists.kubernetes ip hip)
      case used =>
        intro ip hip
        rcases List.mem_append.mp hip with hip | hip
        · exact List.mem_append_left _ (hlists.used ip hip)
        · exact List.mem_append_right _ hip
      case added =>
        intro submission hadded
        rcases List.mem_append.mp hadded with hadded | hadded
        · exact List.mem_append_left _ (hlists.added submission hadded)
        · rw [List.mem_singleton.mp hadded]
          exact List.mem_append_right _ (List.mem_singleton_self _)
  · exact h.asked
  · intro entries name hget hname _
    rw [← Option.some.inj (hhostnames.symm.trans hget), ← hname]
    exact List.mem_append_right _ (List.mem_singleton_self _)

/-- What holds along a run: the invariant, until the dialog is closed -/
theorem inv_of_step {e : DialogEvent} {d' : Dialog} (hin : InStep d e) (h : d.step e = some d')
    (hd : d.closed = true ∨ d.Inv) : d'.closed = true ∨ d'.Inv := by
  unfold step at h
  obtain ⟨hopen, h⟩ := Option.ite_none_left_eq_some.mp h
  have hd := hd.resolve_left hopen
  cases e with
  | changeNodeType nodeType => exact Or.inr (Option.some.inj h ▸ hd.changeNodeType nodeType)
  | changeDeploymentType deploymentType =>
      obtain ⟨hnodeType, h⟩ := Option.ite_none_right_eq_some.mp h
      exact Or.inr (Option.some.inj h ▸ hd.with_others _ _ _ _ _ fun _ => hnodeType)
  | hostname value => exact Or.inr (Option.some.inj h ▸ hd.setHostname hin.1 hin.2)
  | ipAddress value => exact Or.inr (Option.some.inj h ▸ hd.setIpAddress hin)
  | macAddress value =>
      exact Or.inr (Option.some.inj h ▸ hd.with_others _ _ _ _ _ hd.asked)
  | changeDuplicateNode checked =>
      obtain ⟨-, h⟩ := Option.ite_none_right_eq_some.mp h
      exact Or.inr (Option.some.inj h ▸ hd.with_others _ _ _ _ _ hd.asked)
  | unusedIps response =>
      obtain ⟨hpending, h⟩ := Option.ite_none_right_eq_some.mp h
      have hnodeType := hd.asked (by omega)
      rw [← Option.some.inj h]
      cases response with
      | none => exact Or.inr (hd.with_others _ _ _ _ _ fun _ => hnodeType)
      | some availableIps => exact Or.inr (hd.with_others _ _ _ _ _ fun _ => hnodeType)
  | usedIps response =>
      obtain ⟨hpending, h⟩ := Option.ite_none_right_eq_some.mp h
      have hnodeType := hd.asked (by omega)
      have hrest := hd.with_others d.availableIps d.macAddress d.deploymentType d.createDuplicate
        d.adding fun _ : 0 < d.unusedRequests + (d.usedRequests - 1) => hnodeType
      rw [← Option.some.inj h]
      cases response with
      | none => exact Or.inr hrest
      | some usedIps => exact Or.inr (hrest.onUsedIps usedIps hin.1 hin.2 hnodeType)
  | add =>
      obtain ⟨-, h⟩ := Option.ite_none_right_eq_some.mp h
      exact Or.inr (Option.some.inj h ▸ hd.with_others _ _ _ _ _ hd.asked)
  | added i =>
      obtain ⟨submission, hsubmission, rfl⟩ := Option.map_eq_some_iff.mp h
      rcases Bool.eq_false_or_eq_true d.createDuplicate with hduplicate | hduplicate
      · have hform := hin hduplicate
        rw [hsubmission] at hform
        rw [Option.some.inj hform]
        exact Or.inr (hd.onAdded _ hduplicate)
      · left
        show (if d.createDuplicate = true then _ else _ : Dialog).closed = true
        rw [hduplicate]
        rfl
  | notAdded i =>
      obtain ⟨-, h⟩ := Option.ite_none_right_eq_some.mp h
      exact Or.inr (Option.some.inj h ▸ hd.with_others _ _ _ _ _ hd.asked)

end Dialog

/-- In every run of such steps the form is valid only for a host name and an address that are
    free. -/
theorem collisionFree_of_after {nodes setupNodes : List Node}
    {kubernetesServicesCidr controllerInterface : String} {unusedIps usedIps : Entries}
    {es : List DialogEvent} {d : Dialog} (h : Steps.after Dialog.step (openDialog nodes setupNodes
      kubernetesServicesCidr controllerInterface unusedIps usedIps) es = some d)
    (halong : Steps.Along Dialog.step InStep (openDialog nodes setupNodes kubernetesServicesCidr
      controllerInterface unusedIps usedIps) es) : d.CollisionFree := by
  have hd : d.closed = true ∨ d.Inv := by
    apply Steps.after_invariant_along (fun _ _ _ hin h hd => Dialog.inv_of_step hin h hd) h halong
    exact Or.inr (Dialog.inv_openDialog ..)
  rcases hd with hclosed | hinv
  · intro hopen
    rw [hclosed] at hopen
    cases hopen
  · exact hinv.collisionFree

/-- A dialog with one node, whose address is used -/
def withServer : Dialog :=
  openDialog [⟨"server1.lan", some "10.40.31.40", none⟩] [] "10.40.31.96" "10.40.31.1"
    [some "10.40.31.50"] [some "10.40.31.40"]

/-- The form is filled in for a sensor. -/
def fillIn : List DialogEvent :=
  [.changeNodeType "Sensor", .changeDeploymentType "Iso", .unusedIps (some [some "10.40.31.50"]),
    .usedIps (some [some "10.40.31.40"]), .hostname "sensor1", .ipAddress "10.40.31.50"]

/-- The sensor is added, and the form is kept for another one. -/
def addAnother : List DialogEvent :=
  fillIn ++ [.changeDuplicateNode true, .add, .added 0, .changeDeploymentType "Baremetal",
    .unusedIps (some []), .usedIps (some [some "10.40.31.40", some "10.40.31.50"]),
    .hostname "sensor1", .ipAddress "10.40.31.51", .macAddress "00:00:00:00:00:01"]

/-- Another deployment type makes the dialog forget the sensor, whose name is valid again. -/
theorem not_collisionFree_of_after : ¬∀ (nodes setupNodes : List Node)
    (kubernetesServicesCidr controllerInterface : String) (unusedIps usedIps : Entries)
    (es : List DialogEvent) (d : Dialog), Steps.after Dialog.step (openDialog nodes setupNodes
      kubernetesServicesCidr controllerInterface unusedIps usedIps) es = some d →
    d.CollisionFree := by
  intro h
  have hend : (Steps.after Dialog.step withServer addAnother).map (fun d =>
      (d.closed, decide d.FormValid, d.hostname.value, d.added.map Submission.hostname)) =
      some (false, true, some "sensor1", [some "sensor1"]) := by
    decide +kernel
  obtain ⟨d, hd, hend⟩ := Option.map_eq_some_iff.mp hend
  simp only [Prod.mk.injEq, decide_eq_true_iff] at hend
  obtain ⟨hclosed, hvalid, hname, hadded⟩ := hend
  obtain ⟨submission, hsubmission, hsensor⟩ := List.map_eq_singleton_iff.mp hadded
  obtain ⟨hostname, ipAddress, hname', -, hfree⟩ := h _ _ _ _ _ _ _ d hd hclosed hvalid
  obtain rfl : "sensor1" = hostname := Option.some.inj (hname.symm.trans hname')
  exact (hfree.added submission (hsubmission ▸ List.mem_singleton_self _)).1 hsensor

/-- The sensor is added, the form is kept, and filled in for a second sensor. -/
def addSecond : List DialogEvent :=
  fillIn ++ [.changeDuplicateNode true, .add, .added 0, .hostname "sensor2",
    .ipAddress "10.40.31.51"]

theorem collisionFree_addSecond : ∃ d, Steps.after Dialog.step withServer addSecond = some d ∧
    d.FormValid ∧ d.hostname.value = some "sensor2" ∧
    d.added.map Submission.hostname = [some "sensor1"] ∧ d.CollisionFree := by
  have hend : (Steps.after Dialog.step withServer addSecond).map (fun d =>
      (decide d.FormValid, d.hostname.value, d.added.map Submission.hostname)) =
      some (true, some "sensor2", [some "sensor1"]) := by
    decide +kernel
  obtain ⟨d, hd, hend⟩ := Option.map_eq_some_iff.mp hend
  simp only [Prod.mk.injEq, decide_eq_true_iff] at hend
  obtain ⟨hvalid, hname, hadded⟩ := hend
  refine ⟨d, hd, hvalid, hname, hadded, collisionFree_of_after hd (by decide +kernel)⟩

end AddNodeDialog

end Tfplenum
