/-
  Tfplenum.Controller.MonitoringInterfaces

  `MonitoringInterfaces.get` of `tools_controller.py`: the interfaces of the sensors,
  out of the saved values of the sensor applications, with the states that the
  devices report.

  A host's entry is appended in the loop over its interfaces, with the interfaces
  gone through by then: as often as it has interfaces (`listingRight_iff`).
-/

import Tfplenum.Controller.TargetHosts
import Tfplenum.Lib.Table

namespace Tfplenum

open Lib

/-! ## Devices -/

structure NetworkDeviceStateModel where
  node : String
  device : String
  state : String
  linkUp : Bool
deriving DecidableEq, Repr

structure NetworkInterfaceModel where
  name : String
  state : Option String
  linkUp : Bool
deriving DecidableEq, Repr

structure InitialDeviceStatesModel where
  node : String
  interfaces : List NetworkInterfaceModel
deriving DecidableEq, Repr

/-- What the shell of a node answers: to `ip address show` of the device, and whether
    `ethtool` detects a link -/
structure DeviceReport where
  returnCode : Int
  stdout : String
  linkUp : Bool
deriving DecidableEq, Repr

/-- The reports of the devices, `none` where the shell raises: there is no connection, or
    `run` does not return for a command that fails. -/
abbrev DeviceReports := String → String → Option DeviceReport

/-- `RemoteNetworkDevice.get_state`, `none` for the empty dictionary -/
def getState (node device : String) (report : DeviceReport) : Option NetworkDeviceStateModel :=
  if report.returnCode = 0 then
    if report.stdout = "" then some ⟨node, device, "down", report.linkUp⟩
    else some ⟨node, device, "up", report.linkUp⟩
  else none

/-- The interface that is added for a device; the empty dictionary raises `KeyError`. -/
def interfaceModel (reports : DeviceReports) (hostname interface : String) :
    Option NetworkInterfaceModel :=
  (reports hostname interface).map fun report =>
    match getState hostname interface report with
    | some retVal => ⟨interface, some retVal.state, retVal.linkUp⟩
    | none => ⟨interface, none, false⟩

/-! ## The endpoint -/

/-- A document of the saved values, as far as it is read -/
structure SensorValues where
  application : String
  nodeHostname : String
  interfaces : List String
deriving DecidableEq, Repr

def monitoringApplications : List String := ["arkime", "zeek", "suricata"]

/-- The loop of the `try`, `none` where it raises `KeyError`; a set is the list of what was
    added to it. -/
def addInterfaces (hostname : String) (nodes : Table String (List String)) :
    List String → Option (Table String (List String))
  | [] => some nodes
  | interface :: interfaces =>
      if (nodes.get? hostname).isSome then
        addInterfaces hostname (nodes.modify hostname (· ++ [interface])) interfaces
      else none

/-- A round of the loop over the documents -/
def mergeDocument (nodes : Table String (List String)) (document : SensorValues) :
    Table String (List String) :=
  match addInterfaces document.nodeHostname nodes document.interfaces with
  | some nodes => nodes
  | none => nodes.upsert document.nodeHostname document.interfaces

/-- The entries that are appended for the interfaces of a host that are left -/
def hostEntries (reports : DeviceReports) (hostname : String)
    (added : List NetworkInterfaceModel) : List String → Option (List InitialDeviceStatesModel)
  | [] => some []
  | interface :: interfaces => do
      let model ← interfaceModel reports hostname interface
      -- `to_dict` copies the interfaces that are there by now
      let entries ← hostEntries reports hostname (added ++ [model]) interfaces
      some (⟨hostname, added ++ [model]⟩ :: entries)

/-- The loop over the hosts -/
def listHosts (order : SetOrder) (reports : DeviceReports) :
    List (String × List String) → Option (List InitialDeviceStatesModel)
  | [] => some []
  | row :: rows => do
      let entries ← hostEntries reports row.1 [] (order.iterate row.2)
      let result ← listHosts order reports rows
      some (entries ++ result)

/-- `MonitoringInterfaces.get`, `none` where the request fails with what the shell raises -/
def monitoringInterfaces (order : SetOrder) (reports : DeviceReports)
    (savedValues : List SensorValues) : Option (List InitialDeviceStatesModel) :=
  let documents := savedValues.filter (·.application ∈ monitoringApplications)
  let nodes := documents.foldl mergeDocument .empty
  listHosts order reports nodes.rows

/-! ## What it is for -/

/-- The documents of a host -/
def documentsOf (savedValues : List SensorValues) (hostname : String) : List SensorValues :=
  savedValues.filter fun document =>
    document.application ∈ monitoringApplications ∧ document.nodeHostname = hostname

/-- The interfaces configured for a host, in all its documents -/
def configured (savedValues : List SensorValues) (hostname : String) : List String :=
  (documentsOf savedValues hostname).flatMap SensorValues.interfaces

/-- Each host has one entry, with each of its interfaces once and in its state. -/
structure ListingRight (reports : DeviceReports) (savedValues : List SensorValues)
    (result : List InitialDeviceStatesModel) : Prop where
  hosts : ∀ hostname, (result.map InitialDeviceStatesModel.node).count hostname =
    if documentsOf savedValues hostname = [] then 0 else 1
  interfaces : ∀ entry ∈ result, ∃ names : List String, names.Nodup ∧
    (∀ name, name ∈ names ↔ name ∈ configured savedValues entry.node) ∧
    entry.interfaces.map some = names.map (interfaceModel reports entry.node)

/-! ## The merged documents -/

theorem get?_of_addInterfaces {hostname : String} {nodes : Table String (List String)}
    {added : List String} (h : nodes.get? hostname = some added) (interfaces : List String) :
    ∃ nodes', addInterfaces hostname nodes interfaces = some nodes' ∧ ∀ key, nodes'.get? key =
      if key = hostname then some (added ++ interfaces) else nodes.get? key := by
  induction interfaces generalizing nodes added with
  | nil =>
      refine ⟨nodes, rfl, fun key => ?_⟩
      split
      · rename_i hkey
        rw [hkey, h, List.append_nil]
      · rfl
  | cons interface interfaces ih =>
      have hnext : (nodes.modify hostname (· ++ [interface])).get? hostname =
          some (added ++ [interface]) := by
        rw [Table.get?_modify, if_pos rfl, h]
        rfl
      obtain ⟨nodes', hadd, hget⟩ := ih hnext
      refine ⟨nodes', ?_, fun key => ?_⟩
      · rw [addInterfaces, h]
        exact hadd
      · rw [hget, Table.get?_modify]
        split
        · rw [List.append_assoc]
          rfl
        · rfl

/-- A document adds its interfaces to those of its host. -/
theorem get?_mergeDocument (nodes : Table String (List String)) (document : SensorValues)
    (key : String) : (mergeDocument nodes document).get? key =
      if key = document.nodeHostname ∧ document.interfaces ≠ [] then
        some ((nodes.get? key).getD [] ++ document.interfaces)
      else nodes.get? key := by
  rw [mergeDocument]
  cases hhost : nodes.get? document.nodeHostname with
  | some added =>
      obtain ⟨nodes', hadd, hget⟩ := get?_of_addInterfaces hhost document.interfaces
      rw [hadd]
      dsimp only
      rw [hget]
      by_cases hkey : key = document.nodeHostname
      · subst hkey
        by_cases hempty : document.interfaces = []
        · simp [hempty, hhost]
        · simp [hempty, hhost]
      · simp [hkey]
  | none =>
      -- the first interface raises, and the host is put in with all of them
      cases hinterfaces : document.interfaces with
      | nil => simp [addInterfaces]
      | cons interface interfaces =>
          rw [addInterfaces, hhost]
          dsimp only [Option.isSome_none]
          rw [if_neg Bool.false_ne_true]
          dsimp only
          rw [Table.get?_upsert]
          by_cases hkey : key = document.nodeHostname
          · subst hkey
            simp [hhost]
          · simp [hkey]

/-- What the loop over the documents leaves for a host -/
theorem get?_foldl_mergeDocument (documents : List SensorValues)
    (nodes : Table String (List String)) (key : String) :
    let names := (documents.filter (·.nodeHostname = key)).flatMap SensorValues.interfaces
    (documents.foldl mergeDocument nodes).get? key =
      if names = [] then nodes.get? key else some ((nodes.get? key).getD [] ++ names) := by
  induction documents generalizing nodes with
  | nil => simp
  | cons document documents ih =>
      dsimp only at ih ⊢
      rw [List.foldl_cons, ih, get?_mergeDocument]
      by_cases hkey : key = document.nodeHostname
      · rw [List.filter_cons_of_pos (by simp [hkey]), List.flatMap_cons]
        by_cases hempty : document.interfaces = []
        · simp [hempty]
        · simp [hkey, hempty]
      · have hother : ¬document.nodeHostname = key := fun h => hkey h.symm
        rw [List.filter_cons_of_neg (by simp [hother])]
        simp only [hkey, false_and, if_false]

/-- The hosts of the saved values with the interfaces that were added for them -/
def savedNodes (savedValues : List SensorValues) : Table String (List String) :=
  (savedValues.filter (·.application ∈ monitoringApplications)).foldl mergeDocument .empty

theorem get?_savedNodes (savedValues : List SensorValues) (hostname : String) :
    (savedNodes savedValues).get? hostname =
      if configured savedValues hostname = [] then none
      else some (configured savedValues hostname) := by
  have hdocuments : (savedValues.filter (·.application ∈ monitoringApplications)).filter
      (·.nodeHostname = hostname) = documentsOf savedValues hostname := by
    rw [documentsOf, List.filter_filter]
    refine List.filter_congr fun document _ => ?_
    rw [Bool.and_comm, Bool.decide_and]
  have hget := get?_foldl_mergeDocument
    (savedValues.filter (·.application ∈ monitoringApplications)) .empty hostname
  dsimp only at hget
  rw [hdocuments] at hget
  exact hget

theorem configured_eq_nil {savedValues : List SensorValues} {hostname : String}
    (h : documentsOf savedValues hostname = []) : configured savedValues hostname = [] := by
  rw [configured, h, List.flatMap_nil]

/-- The rows are the hosts with an interface. -/
theorem mem_rows_savedNodes {savedValues : List SensorValues} {hostname : String}
    {added : List String} : (hostname, added) ∈ (savedNodes savedValues).rows ↔
      configured savedValues hostname ≠ [] ∧ added = configured savedValues hostname := by
  rw [← Table.get?_eq_some_iff, get?_savedNodes]
  by_cases hempty : configured savedValues hostname = []
  · simp [hempty]
  · simp [hempty, eq_comm]

/-! ## The entries -/

/-- A set has one element exactly when one is all that was added to it. -/
theorem SetOrder.iterate_eq_singleton_iff (order : SetOrder) {l : List String} {name : String} :
    order.iterate l = [name] ↔ name ∈ l ∧ ∀ other ∈ l, other = name := by
  constructor
  · intro h
    have hmem : ∀ other, other ∈ l ↔ other = name := by
      intro other
      rw [← order.mem_iff, h, List.mem_singleton]
    exact ⟨(hmem name).mpr rfl, fun other hother => (hmem other).mp hother⟩
  · rintro ⟨hname, hall⟩
    apply List.Perm.eq_singleton
    rw [List.perm_ext_iff_of_nodup (order.nodup l) (List.nodup_singleton name)]
    intro other
    rw [order.mem_iff, List.mem_singleton]
    exact ⟨hall other, fun h => h ▸ hname⟩

variable {order : SetOrder} {reports : DeviceReports}

/-- A host has as many entries as interfaces, all of which were asked for their state. -/
theorem of_hostEntries {hostname : String} {interfaces : List String}
    {added : List NetworkInterfaceModel} {entries : List InitialDeviceStatesModel}
    (h : hostEntries reports hostname added interfaces = some entries) :
    entries.map InitialDeviceStatesModel.node = List.replicate interfaces.length hostname ∧
      ∀ interface ∈ interfaces, (interfaceModel reports hostname interface).isSome = true := by
  induction interfaces generalizing added entries with
  | nil =>
      obtain rfl := Option.some.inj h
      exact ⟨rfl, fun interface hmem => absurd hmem List.not_mem_nil⟩
  | cons interface interfaces ih =>
      obtain ⟨model, hmodel, h⟩ := Option.bind_eq_some_iff.mp h
      obtain ⟨rest, hrest, h⟩ := Option.bind_eq_some_iff.mp h
      obtain rfl := Option.some.inj h
      obtain ⟨hnodes, hreported⟩ := ih hrest
      refine ⟨?_, List.forall_mem_cons.mpr ⟨?_, hreported⟩⟩
      · rw [List.map_cons, hnodes, List.length_cons, List.replicate_succ]
      · rw [hmodel]
        rfl

theorem hostEntries_singleton {hostname interface : String} {model : NetworkInterfaceModel}
    (h : interfaceModel reports hostname interface = some model) :
    hostEntries reports hostname [] [interface] = some [⟨hostname, [model]⟩] := by
  simp [hostEntries, h]

theorem of_listHosts {rows : List (String × List String)} {result : List InitialDeviceStatesModel}
    (h : listHosts order reports rows = some result) :
    ∀ row ∈ rows, ∀ interface ∈ order.iterate row.2,
      (interfaceModel reports row.1 interface).isSome = true := by
  induction rows generalizing result with
  | nil => exact fun row hrow => absurd hrow List.not_mem_nil
  | cons row rows ih =>
      obtain ⟨entries, hentries, h⟩ := Option.bind_eq_some_iff.mp h
      obtain ⟨rest, hrest, -⟩ := Option.bind_eq_some_iff.mp h
      exact List.forall_mem_cons.mpr ⟨(of_hostEntries hentries).2, ih hrest⟩

theorem count_listHosts {rows : List (String × List String)}
    {result : List InitialDeviceStatesModel} (hrows : (rows.map Prod.fst).Nodup)
    (h : listHosts order reports rows = some result) (hostname : String) :
    (result.map InitialDeviceStatesModel.node).count hostname =
      ((rows.lookup hostname).elim 0 fun added => (order.iterate added).length) := by
  induction rows generalizing result with
  | nil =>
      obtain rfl := Option.some.inj h
      rfl
  | cons row rows ih =>
      obtain ⟨entries, hentries, h⟩ := Option.bind_eq_some_iff.mp h
      obtain ⟨rest, hrest, h⟩ := Option.bind_eq_some_iff.mp h
      obtain rfl := Option.some.inj h
      obtain ⟨key, added⟩ := row
      rw [List.map_cons, List.nodup_cons] at hrows
      rw [List.map_append, List.count_append, (of_hostEntries hentries).1, List.count_replicate,
        ih hrows.2 hrest, List.lookup_cons]
      by_cases hhost : hostname = key
      · -- the hosts that come later are others
        subst hhost
        rw [Table.lookup_eq_none_of_notMem hrows.1, beq_self_eq_true, if_pos rfl]
        rfl
      · rw [beq_eq_false_iff_ne.mpr hhost, beq_eq_false_iff_ne.mpr (Ne.symm hhost), if_neg
          Bool.false_ne_true, Nat.zero_add]

/-- A host with one interface has one entry, which is complete. -/
theorem listHosts_of_singletons {rows : List (String × List String)}
    (h : ∀ row ∈ rows, ∃ interface model, order.iterate row.2 = [interface] ∧
      interfaceModel reports row.1 interface = some model) :
    ∃ result, listHosts order reports rows = some result ∧
      ∀ entry ∈ result, ∃ row ∈ rows, ∃ interface model, order.iterate row.2 = [interface] ∧
        interfaceModel reports row.1 interface = some model ∧ entry = ⟨row.1, [model]⟩ := by
  induction rows with
  | nil => exact ⟨[], rfl, fun entry hentry => absurd hentry List.not_mem_nil⟩
  | cons row rows ih =>
      obtain ⟨hrow, hrows⟩ := List.forall_mem_cons.mp h
      obtain ⟨interface, model, hiterate, hmodel⟩ := hrow
      obtain ⟨result, hresult, hentries⟩ := ih hrows
      refine ⟨⟨row.1, [model]⟩ :: result, ?_, List.forall_mem_cons.mpr ⟨?_, ?_⟩⟩
      · rw [listHosts, hiterate, hostEntries_singleton hmodel, hresult]
        rfl
      · exact ⟨row, List.mem_cons_self .., interface, model, hiterate, hmodel, rfl⟩
      · intro entry hentry
        obtain ⟨other, hother, hentry⟩ := hentries entry hentry
        exact ⟨other, List.mem_cons_of_mem _ hother, hentry⟩

/-! ## The listing -/

theorem SetOrder.iterate_nil (order : SetOrder) : order.iterate [] = [] := by
  rw [List.eq_nil_iff_forall_not_mem]
  intro name hname
  exact List.not_mem_nil ((order.mem_iff _ _).mp hname)

/-- A host has an entry for each interface. -/
theorem count_monitoringInterfaces {savedValues : List SensorValues}
    {result : List InitialDeviceStatesModel}
    (h : monitoringInterfaces order reports savedValues = some result) (hostname : String) :
    (result.map InitialDeviceStatesModel.node).count hostname =
      (order.iterate (configured savedValues hostname)).length := by
  have hget := get?_savedNodes savedValues hostname
  change (savedNodes savedValues).rows.lookup hostname = _ at hget
  rw [count_listHosts (savedNodes savedValues).nodup h, hget]
  by_cases hempty : configured savedValues hostname = []
  · rw [hempty, order.iterate_nil]
    rfl
  · rw [if_neg hempty]
    rfl

/-- The interfaces of each host are asked for their state. -/
theorem reported_of_monitoringInterfaces {savedValues : List SensorValues}
    {result : List InitialDeviceStatesModel}
    (h : monitoringInterfaces order reports savedValues = some result)
    {hostname interface : String} (hinterface : interface ∈ configured savedValues hostname) :
    (reports hostname interface).isSome = true := by
  have hrow := mem_rows_savedNodes.mpr ⟨List.ne_nil_of_mem hinterface, rfl⟩
  have hreported := of_listHosts h _ hrow interface ((order.mem_iff _ _).mpr hinterface)
  rw [interfaceModel, Option.isSome_map] at hreported
  exact hreported

/-- The listing is right exactly where each host has one interface, which the shell of the
    host answers for. -/
theorem listingRight_iff (order : SetOrder) (reports : DeviceReports)
    (savedValues : List SensorValues) :
    (∃ result, monitoringInterfaces order reports savedValues = some result ∧
      ListingRight reports savedValues result) ↔
    ∀ hostname, documentsOf savedValues hostname ≠ [] →
      ∃ interface ∈ configured savedValues hostname,
        (∀ other ∈ configured savedValues hostname, other = interface) ∧
        (reports hostname interface).isSome = true := by
  constructor
  · rintro ⟨result, hresult, hright⟩ hostname hdocuments
    have hcount := hright.hosts hostname
    rw [count_monitoringInterfaces hresult, if_neg hdocuments] at hcount
    obtain ⟨interface, hiterate⟩ := List.length_eq_one_iff.mp hcount
    obtain ⟨hinterface, hall⟩ := order.iterate_eq_singleton_iff.mp hiterate
    exact ⟨interface, hinterface, hall, reported_of_monitoringInterfaces hresult hinterface⟩
  · intro hone
    have hrows : ∀ row ∈ (savedNodes savedValues).rows, ∃ interface model,
        order.iterate row.2 = [interface] ∧
          interfaceModel reports row.1 interface = some model := by
      rintro ⟨hostname, added⟩ hrow
      obtain ⟨hne, rfl⟩ := mem_rows_savedNodes.mp hrow
      have hdocuments := mt configured_eq_nil hne
      obtain ⟨interface, hinterface, hall, hreported⟩ := hone hostname hdocuments
      obtain ⟨report, hreport⟩ := Option.isSome_iff_exists.mp hreported
      exact ⟨interface, _, order.iterate_eq_singleton_iff.mpr ⟨hinterface, hall⟩,
        congrArg (Option.map _) hreport⟩
    obtain ⟨result, hresult, hentries⟩ := listHosts_of_singletons hrows
    refine ⟨result, hresult, ?_, ?_⟩
    · intro hostname
      rw [count_monitoringInterfaces hresult]
      by_cases hdocuments : documentsOf savedValues hostname = []
      · rw [if_pos hdocuments, configured_eq_nil hdocuments, order.iterate_nil]
        rfl
      · obtain ⟨interface, hinterface, hall, -⟩ := hone hostname hdocuments
        rw [if_neg hdocuments, order.iterate_eq_singleton_iff.mpr ⟨hinterface, hall⟩]
        rfl
    · intro entry hentry
      obtain ⟨⟨hostname, added⟩, hrow, interface, model, hiterate, hmodel, rfl⟩ :=
        hentries entry hentry
      obtain ⟨-, rfl⟩ := mem_rows_savedNodes.mp hrow
      -- the names are those of the set, in the order in which it is gone through
      refine ⟨_, order.nodup (configured savedValues hostname), order.mem_iff _, ?_⟩
      rw [hiterate]
      show [some model] = [interfaceModel reports hostname interface]
      rw [hmodel]

/-- A sensor with two interfaces has two entries, the first of them without the second
    interface. -/
theorem not_listingRight_twoInterfaces :
    ¬∀ (order : SetOrder) (reports : DeviceReports) (savedValues : List SensorValues),
      (∀ hostname interface, (reports hostname interface).isSome = true) →
      ∃ result, monitoringInterfaces order reports savedValues = some result ∧
        ListingRight reports savedValues result := by
  intro h
  obtain ⟨result, hresult, hright⟩ := h .inserted (fun _ _ => some ⟨0, "", true⟩)
    [⟨"zeek", "sensor1.lan", ["ens192", "ens224"]⟩] fun _ _ => rfl
  have hcount := hright.hosts "sensor1.lan"
  have htwo : monitoringInterfaces .inserted (fun _ _ => some ⟨0, "", true⟩)
      [⟨"zeek", "sensor1.lan", ["ens192", "ens224"]⟩] =
    some [⟨"sensor1.lan", [⟨"ens192", some "down", true⟩]⟩,
      ⟨"sensor1.lan", [⟨"ens192", some "down", true⟩, ⟨"ens224", some "down", true⟩]⟩] := by
    decide
  obtain rfl := Option.some.inj (htwo.symm.trans hresult)
  exact absurd hcount (by decide)

end Tfplenum
