/-
  Tfplenum.Frontend.AgentBuilderChooser

  The target configurations of the page of `agent-builder-chooser.component.ts`, and the
  requests that it sends for all hosts of the selected configuration or for one host.

  A request for one host is made from the configuration that stands in the row of the table:
  its targets are filtered before the credentials are asked for, and stay so whatever becomes
  of the request.  The other requests are what they would be without it where the host is the
  only one of its configuration (`unaffected_of_after`).
-/

import Tfplenum.Controller.AgentBuilderController
import Tfplenum.Lib.Heap
import Tfplenum.Lib.Steps
import Tfplenum.Utils.SanitizeDictionary

namespace Tfplenum

open Lib

namespace AgentBuilderChooser

/-! ## Target configurations -/

/-- `IPTargetListClass`, without its targets -/
structure TargetSettings where
  id : String
  name : String
  protocol : String
deriving DecidableEq, Repr

/-- `IPTargetListInterface`, as it is sent -/
structure IPTargetList where
  settings : TargetSettings
  targets : Option (List Target)
deriving DecidableEq, Repr

/-- `MatTableRowIPTargetListInterface`: the `targets` of its configuration, and the `data` of its
    `host_list`, which are arrays of the same hosts. -/
structure Row where
  settings : TargetSettings
  targets : Option (List Ref)
  hostList : List Ref
deriving DecidableEq, Repr

/-- The hosts and the rows that the page has made, and those that it shows -/
structure Tables where
  hosts : Heap Target
  rows : Heap Row
  /-- `ip_target_configs_mat_table_data` -/
  data : Option (List Ref)
  ipTargetSelection : Option Ref

namespace Tables

variable (tables : Tables)

/-- What a configuration is sent as -/
def json (row : Row) : IPTargetList where
  settings := row.settings
  targets := row.targets.map fun targets => targets.filterMap tables.hosts.get?

/-- The row for a configuration that is received -/
def newRow (config : IPTargetList) : Tables :=
  let targets := config.targets.map fun targets =>
    List.range' tables.hosts.next targets.length
  { tables with
    hosts := (config.targets.getD []).foldl Heap.make tables.hosts
    rows := tables.rows.make ⟨config.settings, targets, targets.getD []⟩ }

/-- `set_ip_target_config_mat_table_data_` -/
def setIpTargetConfigMatTableData (ipTargetLists : List IPTargetList) : Tables :=
  { ipTargetLists.foldl newRow tables with
    data := some (List.range' tables.rows.next ipTargetLists.length)
    ipTargetSelection := none }

/-- `update_ip_targets_list_targets_` -/
def updateIpTargetsListTargets (targets : List Ref) (updated : List Target)
    (hosts : Heap Target) : Heap Target :=
  targets.foldl (fun hosts ref =>
    match (hosts.get? ref).bind fun target => updated.find? (target.hostname = ·.hostname) with
    | some update => hosts.modify ref fun target =>
        { target with state := update.state, lastStateChange := update.lastStateChange }
    | none => hosts) hosts

/-- The rounds of `api_agent_get_ip_target_list_`, of which one without targets is the last -/
def refreshRows (response : List IPTargetList) : List Ref → Heap Target → Heap Target
  | [], hosts => hosts
  | ref :: refs, hosts =>
      match tables.rows.get? ref with
      | none => hosts
      | some row =>
          match response.find? (row.settings.id = ·.settings.id) with
          | none => refreshRows response refs hosts
          | some updated =>
              match row.targets, updated.targets with
              | some targets, some targets' =>
                  refreshRows response refs (updateIpTargetsListTargets targets targets' hosts)
              | some [], none => refreshRows response refs hosts
              | _, _ => hosts

/-- The handler of `api_agent_get_ip_target_list_` -/
def refresh (response : List IPTargetList) : Tables :=
  match tables.data with
  | some data => { tables with hosts := tables.refreshRows response data tables.hosts }
  | none => tables.setIpTargetConfigMatTableData response

/-- `is_host_index_zero_`, for the names of the hosts -/
def isHostIndexZero (u : Unicode) (names : List (Option String)) (name : Option String)
    (hostIndex : Nat) : Bool :=
  match name with
  | some name =>
      names.findIdx? (fun n => n.any fun n => lowerName u n = lowerName u name) = some hostIndex
  | none => false

/-- The handler of `api_agent_add_host_to_ip_target_list_` -/
def addHosts (u : Unicode) (ref : Ref) (responseTargets : List Target) : Tables :=
  let hosts := responseTargets.foldl Heap.make tables.hosts
  let responseTargets := List.range' tables.hosts.next responseTargets.length
  let name (ref : Ref) : Option String := (hosts.get? ref).bind Target.hostname
  { tables with
    hosts
    rows := tables.rows.modify ref fun row =>
      match row.targets with
      | some targets =>
          let all := targets ++ responseTargets
          let distinct := (all.zipIdx.filter fun (host, index) =>
            isHostIndexZero u (all.map name) (name host) index).map Prod.fst
          { row with targets := some distinct, hostList := distinct }
      | none => { row with targets := some responseTargets, hostList := responseTargets } }

/-- The handler of `api_agent_remove_host_from_ip_target_list` -/
def removeHost (ref : Ref) (hostIndex : Nat) : Tables :=
  { tables with
    rows := tables.rows.modify ref fun row =>
      let newHostList := row.hostList.eraseIdx hostIndex
      { row with targets := some newHostList, hostList := newHostList } }

/-- The filter of `agent_uninstall` and `agent_reinstall` -/
def filterTargets (ref : Ref) (targets : List Ref) (host : Target) : Tables :=
  { tables with
    rows := tables.rows.modify ref fun row =>
      { row with
        targets := some (targets.filter fun h =>
          (tables.hosts.get? h).any fun h => h.hostname = host.hostname) } }

end Tables

/-! ## Requests -/

/-- The actions of `perform_agent_action_` -/
inductive Action where
  | install
  | uninstalls
  | uninstall
  | reinstall
deriving DecidableEq, Repr

structure WindowsCredentials where
  userName : String
  password : String
deriving DecidableEq, Repr

/-- `AgentInterface` and `AgentTargetInterface`, before the credentials -/
structure AgentInterface where
  action : Action
  /-- the name of the installer configuration -/
  installerConfig : String
  /-- the row of the configuration -/
  targetConfig : Ref
  target : Option Ref
deriving DecidableEq, Repr

/-- A request as it is sent, and the row that it was made for -/
structure AgentRequest where
  action : Action
  installerConfig : String
  targetConfig : IPTargetList
  windowsDomainCreds : WindowsCredentials
  target : Option Target
  row : Ref
deriving DecidableEq, Repr

def AgentRequest.isSingle (request : AgentRequest) : Bool := request.target.isSome

/-- `[target['hostname'] for target in target_config.pop('targets')]` -/
def targetHostnames (u : Unicode) (config : IPTargetList) : Except PyError (List String) :=
  match config.targets with
  | none => .error (.keyError "targets")
  | some targets => targets.mapM fun target =>
      match target.hostname with
      | some hostname => .ok (stripText u hostname)
      | none => .error (.keyError "hostname")

/-- What a request leads to: the hosts that tasks are created for, or an error message. -/
inductive AgentResponse where
  | tasks (hosts : List String)
  | errorMessage (message : String)
deriving DecidableEq, Repr

/-- `AgentInstall.post` and `AgentUninstall.post`, with the word of their message -/
def postTargets (u : Unicode) (word : String) (config : IPTargetList) :
    Except PyError AgentResponse := do
  let targets ← targetHostnames u config
  if targets.length = 0 then
    return .errorMessage ("Failed to initiate " ++ word ++ " task. No targets were specified " ++
      "for this configuration. Did you forget to add them?")
  return .tasks targets

/-- `AgentReinstall.post` -/
def postReinstall (u : Unicode) (target : Option Target) : Except PyError AgentResponse :=
  match target with
  | none => .error (.keyError "target")
  | some target =>
      match target.hostname with
      | some hostname => .ok (.tasks [stripText u hostname])
      | none => .error (.keyError "hostname")

/-- The response to a request -/
def AgentRequest.post (u : Unicode) (request : AgentRequest) : Except PyError AgentResponse :=
  match request.action with
  | .install => postTargets u "install" request.targetConfig
  | .uninstalls | .uninstall => postTargets u "uninstall" request.targetConfig
  | .reinstall => postReinstall u request.target

/-! ## The page -/

structure Page where
  tables : Tables
  /-- `agent_installer_configuration_selection` -/
  installerSelection : Option String
  /-- the dialog of `get_credentials_` -/
  dialog : Option AgentInterface
  sent : List AgentRequest

inductive PageEvent where
  | updateSelectedAgentInstallerConfig (config : String)
  /-- installer configurations are received. -/
  | setAgentInstallerConfigurationMatTableData
  | updateSelectedIpTarget (row : Ref)
  /-- target configurations are received: the first ones, or after a change of them. -/
  | setIpTargetConfigMatTableData (response : List IPTargetList)
  /-- target configurations are received after a `refresh` of the socket. -/
  | refresh (response : List IPTargetList)
  | addHosts (row : Ref) (responseTargets : List Target)
  | removeHost (row : Ref) (hostIndex : Nat)
  | agentsInstall
  | agentsUninstall
  | agentUninstall (row host : Ref)
  | agentReinstall (row host : Ref)
  /-- the dialog is confirmed, or cancelled. -/
  | closed (credentials : Option WindowsCredentials)
  /-- a request succeeds or fails, and the page says so. -/
  | answered (request : AgentRequest) (succeeded : Bool)

namespace Page

variable (page : Page)

/-- `agents_install` and `agents_uninstall`, whose buttons need both selections -/
def agents (action : Action) : Option Page :=
  match page.dialog, page.installerSelection, page.tables.ipTargetSelection with
  | none, some installerConfig, some row =>
      some { page with dialog := some ⟨action, installerConfig, row, none⟩ }
  | _, _, _ => none

/-- `agent_uninstall` and `agent_reinstall`, from the menu of a host that is shown -/
def agent (action : Action) (ref host : Ref) : Option Page :=
  match page.dialog, page.installerSelection, page.tables.rows.get? ref,
      page.tables.hosts.get? host with
  | none, some installerConfig, some row, some target =>
      if ref ∈ page.tables.data.getD [] ∧ host ∈ row.hostList then
        match row.targets with
        | some targets =>
            some { page with
              tables := page.tables.filterTargets ref targets target
              dialog := some ⟨action, installerConfig, ref, some host⟩ }
        -- `filter` of `undefined`
        | none => some page
      else none
  | _, _, _, _ => none

/-- The request of the dialog, as it is when it is sent -/
def request (agentInterface : AgentInterface) (row : Row)
    (windowsDomainCreds : WindowsCredentials) : AgentRequest where
  action := agentInterface.action
  installerConfig := agentInterface.installerConfig
  targetConfig := page.tables.json row
  windowsDomainCreds
  target := agentInterface.target.bind page.tables.hosts.get?
  row := agentInterface.targetConfig

/-- The end of the dialog of `get_credentials_` -/
def closed (credentials : Option WindowsCredentials) : Option Page :=
  match page.dialog with
  | some agentInterface =>
      match credentials, page.tables.rows.get? agentInterface.targetConfig with
      | some credentials, some row =>
          some { page with
            dialog := none
            sent := page.sent ++ [page.request agentInterface row credentials] }
      | _, _ => some { page with dialog := none }
  | none => none

/-- The event, if it may happen -/
def step (u : Unicode) (page : Page) : PageEvent → Option Page
  | .updateSelectedAgentInstallerConfig config =>
      some { page with installerSelection := some config }
  | .setAgentInstallerConfigurationMatTableData => some { page with installerSelection := none }
  | .updateSelectedIpTarget row =>
      if row ∈ page.tables.data.getD [] then
        some { page with tables := { page.tables with ipTargetSelection := some row } }
      else none
  | .setIpTargetConfigMatTableData response =>
      some { page with tables := page.tables.setIpTargetConfigMatTableData response }
  | .refresh response => some { page with tables := page.tables.refresh response }
  | .addHosts row responseTargets =>
      some { page with tables := page.tables.addHosts u row responseTargets }
  | .removeHost row hostIndex =>
      some { page with tables := page.tables.removeHost row hostIndex }
  | .agentsInstall => page.agents .install
  | .agentsUninstall => page.agents .uninstalls
  | .agentUninstall row host => page.agent .uninstall row host
  | .agentReinstall row host => page.agent .reinstall row host
  | .closed credentials => page.closed credentials
  | .answered request _ => if request ∈ page.sent then some page else none

end Page

/-! ## The hosts of one host's request -/

def Tables.hostname (tables : Tables) (host : Ref) : Option String :=
  (tables.hosts.get? host).bind Target.hostname

/-- The host has a name and is, by it, the only one of the configuration. -/
def Tables.Alone (tables : Tables) (ref host : Ref) : Prop :=
  ∀ row, tables.rows.get? ref = some row → ∃ name, tables.hostname host = some name ∧
    row.targets.map (List.map tables.hostname) = some [some name]

/-- A request for one host names this host alone, and goes with the configuration of its row. -/
structure AgentRequest.ForHost (u : Unicode) (page : Page) (request : AgentRequest) : Prop where
  hosts : ∃ name, request.target.bind Target.hostname = some name ∧
    request.targetConfig.targets.map (List.map Target.hostname) = some [some name] ∧
    request.post u = .ok (.tasks [stripText u name])
  settings : ∃ row, page.tables.rows.get? request.row = some row ∧
    row.settings = request.targetConfig.settings

/-- The page as far as it is about the requests for all hosts of a configuration -/
def Page.batchOnly (page : Page) : Page :=
  { page with
    dialog := page.dialog.filter fun agentInterface => agentInterface.target.isNone
    sent := page.sent.filter fun request => !request.isSingle }

/-- The events of requests for one host -/
def ofSingle (page : Page) : PageEvent → Bool
  | .agentUninstall _ _ | .agentReinstall _ _ => true
  | .closed _ => page.dialog.any fun agentInterface => agentInterface.target.isSome
  | .answered request _ => request.isSingle
  | _ => false

/-- No dialog is open yet, and nothing has been sent. -/
structure Page.Opened (page : Page) : Prop where
  dialog : page.dialog = none
  sent : page.sent = []

/-- Every request for one host is for this host alone, and all else is as in the run without these
    requests. -/
structure Unaffected (u : Unicode) (page : Page) (es : List PageEvent) (page' : Page) : Prop where
  single : ∀ request ∈ page'.sent, request.isSingle = true → request.ForHost u page'
  batch : Steps.after (Page.step u) page (Steps.visible (Page.step u) ofSingle page es) =
    some page'.batchOnly

/-- A request for one host is made, and sent, while the host is the only one of its
    configuration. -/
def InStep (page : Page) : PageEvent → Prop
  | .agentUninstall ref host | .agentReinstall ref host => page.tables.Alone ref host
  | .closed (some _) => ∀ agentInterface host, page.dialog = some agentInterface →
      agentInterface.target = some host → page.tables.Alone agentInterface.targetConfig host
  | _ => True

/-! ## What the page keeps of a row -/

/-- Every row is still there, with its settings. -/
def Tables.Keeps (tables tables' : Tables) : Prop :=
  ∀ ref row, tables.rows.get? ref = some row →
    ∃ row', tables'.rows.get? ref = some row' ∧ row'.settings = row.settings

theorem Tables.Keeps.refl (tables : Tables) : tables.Keeps tables :=
  fun _ row h => ⟨row, h, rfl⟩

theorem Tables.Keeps.trans {a b c : Tables} (hab : a.Keeps b) (hbc : b.Keeps c) : a.Keeps c := by
  intro ref row h
  obtain ⟨row', h', hsettings⟩ := hab ref row h
  obtain ⟨row'', h'', hsettings'⟩ := hbc ref row' h'
  exact ⟨row'', h'', hsettings'.trans hsettings⟩

theorem Tables.keeps_of_modify {tables tables' : Tables} {ref : Ref} {f : Row → Row}
    (h : tables'.rows = tables.rows.modify ref f) (hf : ∀ row, (f row).settings = row.settings) :
    tables.Keeps tables' := by
  intro ref' row hrow
  rw [h]
  by_cases heq : ref' = ref
  · subst heq
    exact ⟨f row, by rw [Heap.get?_modify_self, hrow, Option.map_some], hf row⟩
  · exact ⟨row, by rw [Heap.get?_modify_of_ne f heq, hrow], rfl⟩

theorem Tables.keeps_newRow (tables : Tables) (config : IPTargetList) :
    tables.Keeps (tables.newRow config) := by
  intro ref row h
  exact ⟨row, (Heap.get?_make_of_lt _ (Heap.lt_size_of_get? h)).trans h, rfl⟩

theorem Tables.keeps_setIpTargetConfigMatTableData (tables : Tables)
    (response : List IPTargetList) :
    tables.Keeps (tables.setIpTargetConfigMatTableData response) := by
  suffices h : tables.Keeps (response.foldl Tables.newRow tables) from h
  induction response generalizing tables with
  | nil => exact Tables.Keeps.refl tables
  | cons config response ih => exact (tables.keeps_newRow config).trans (ih _)

theorem Tables.keeps_addHosts (tables : Tables) (u : Unicode) (ref : Ref)
    (responseTargets : List Target) : tables.Keeps (tables.addHosts u ref responseTargets) := by
  apply Tables.keeps_of_modify rfl
  intro row
  split
  · rfl
  · rfl

theorem Tables.keeps_refresh (tables : Tables) (response : List IPTargetList) :
    tables.Keeps (tables.refresh response) := by
  rw [Tables.refresh]
  split
  · exact Tables.Keeps.refl tables
  · exact tables.keeps_setIpTargetConfigMatTableData response

/-! ## What an event does -/

namespace Page

variable {page page' : Page}

theorem agents_eq_some {action : Action} (h : page.agents action = some page') :
    page.dialog = none ∧ ∃ installerConfig row, page.installerSelection = some installerConfig ∧
      page.tables.ipTargetSelection = some row ∧
      page' = { page with dialog := some ⟨action, installerConfig, row, none⟩ } := by
  rw [agents] at h
  split at h
  next installerConfig row hdialog hinstaller hselection =>
    exact ⟨hdialog, installerConfig, row, hinstaller, hselection, (Option.some.inj h).symm⟩
  · cases h

theorem agent_eq_some {action : Action} {ref host : Ref}
    (h : page.agent action ref host = some page') :
    page.dialog = none ∧ ∃ installerConfig row target, page.tables.rows.get? ref = some row ∧
      page.tables.hosts.get? host = some target ∧
      ((row.targets = none ∧ page' = page) ∨ ∃ targets, row.targets = some targets ∧
        page' = { page with
          tables := page.tables.filterTargets ref targets target
          dialog := some ⟨action, installerConfig, ref, some host⟩ }) := by
  rw [agent] at h
  split at h
  next installerConfig row target hdialog hinstaller hrow hhost =>
    refine ⟨hdialog, installerConfig, row, target, hrow, hhost, ?_⟩
    obtain ⟨-, h⟩ := Option.ite_none_right_eq_some.mp h
    split at h
    next targets htargets => exact Or.inr ⟨targets, htargets, (Option.some.inj h).symm⟩
    next htargets => exact Or.inl ⟨htargets, (Option.some.inj h).symm⟩
  · cases h

theorem closed_of_some {agentInterface : AgentInterface} {row : Row}
    (hdialog : page.dialog = some agentInterface)
    (hrow : page.tables.rows.get? agentInterface.targetConfig = some row)
    (credentials : WindowsCredentials) :
    page.closed (some credentials) = some { page with
      dialog := none
      sent := page.sent ++ [page.request agentInterface row credentials] } := by
  simp only [closed, hdialog, hrow]

theorem closed_of_none {agentInterface : AgentInterface} {credentials : Option WindowsCredentials}
    (hdialog : page.dialog = some agentInterface)
    (h : credentials = none ∨ page.tables.rows.get? agentInterface.targetConfig = none) :
    page.closed credentials = some { page with dialog := none } := by
  rcases h with rfl | hrow
  · simp only [closed, hdialog]
  · cases credentials with
    | none => simp only [closed, hdialog]
    | some credentials => simp only [closed, hdialog, hrow]

theorem closed_eq_some {credentials : Option WindowsCredentials}
    (h : page.closed credentials = some page') :
    ∃ agentInterface, page.dialog = some agentInterface ∧
      (((credentials = none ∨ page.tables.rows.get? agentInterface.targetConfig = none) ∧
          page' = { page with dialog := none }) ∨
        ∃ credentials' row, credentials = some credentials' ∧
          page.tables.rows.get? agentInterface.targetConfig = some row ∧
          page' = { page with
            dialog := none
            sent := page.sent ++ [page.request agentInterface row credentials'] }) := by
  cases hdialog : page.dialog with
  | none =>
      rw [closed, hdialog] at h
      cases h
  | some agentInterface =>
      refine ⟨agentInterface, rfl, ?_⟩
      cases credentials with
      | none =>
          rw [closed_of_none hdialog (Or.inl rfl)] at h
          exact Or.inl ⟨Or.inl rfl, (Option.some.inj h).symm⟩
      | some credentials' =>
          cases hrow : page.tables.rows.get? agentInterface.targetConfig with
          | none =>
              rw [closed_of_none hdialog (Or.inr hrow)] at h
              exact Or.inl ⟨Or.inr rfl, (Option.some.inj h).symm⟩
          | some row =>
              rw [closed_of_some hdialog hrow] at h
              exact Or.inr ⟨credentials', row, rfl, rfl, (Option.some.inj h).symm⟩

/-- What a step may be: a change of the tables or of the installer, a dialog that is opened for
    all hosts or for one, the end of a dialog, or the answer to a request. -/
theorem step_cases {u : Unicode} {e : PageEvent} (h : page.step u e = some page') :
    (∃ tables installerSelection, page' = { page with tables, installerSelection } ∧
      page.tables.Keeps tables ∧ ofSingle page e = false ∧
      ∀ dialog sent, step u { page with dialog, sent } e =
        some { page' with dialog, sent }) ∨
    (∃ action, page.agents action = some page' ∧ ofSingle page e = false ∧
      ∀ page, step u page e = page.agents action) ∨
    (∃ action ref host, page.agent action ref host = some page' ∧ ofSingle page e = true ∧
      (InStep page e ↔ page.tables.Alone ref host)) ∨
    (∃ credentials, e = .closed credentials ∧ page.closed credentials = some page') ∨
    ∃ request succeeded, e = .answered request succeeded ∧ request ∈ page.sent ∧ page' = page := by
  cases e with
  | updateSelectedAgentInstallerConfig config =>
      left
      exact ⟨page.tables, _, (Option.some.inj h).symm, Tables.Keeps.refl _, rfl,
        fun _ _ => Option.some.inj h ▸ rfl⟩
  | setAgentInstallerConfigurationMatTableData =>
      left
      exact ⟨page.tables, _, (Option.some.inj h).symm, Tables.Keeps.refl _, rfl,
        fun _ _ => Option.some.inj h ▸ rfl⟩
  | updateSelectedIpTarget row =>
      left
      obtain ⟨hrow, h⟩ := Option.ite_none_right_eq_some.mp h
      exact ⟨_, _, (Option.some.inj h).symm, Tables.Keeps.refl _, rfl,
        fun _ _ => (if_pos hrow).trans (Option.some.inj h ▸ rfl)⟩
  | setIpTargetConfigMatTableData response =>
      left
      exact ⟨_, _, (Option.some.inj h).symm,
        page.tables.keeps_setIpTargetConfigMatTableData response, rfl,
        fun _ _ => Option.some.inj h ▸ rfl⟩
  | refresh response =>
      left
      exact ⟨_, _, (Option.some.inj h).symm, page.tables.keeps_refresh response, rfl,
        fun _ _ => Option.some.inj h ▸ rfl⟩
  | addHosts row responseTargets =>
      left
      exact ⟨_, _, (Option.some.inj h).symm, page.tables.keeps_addHosts u row responseTargets, rfl,
        fun _ _ => Option.some.inj h ▸ rfl⟩
  | removeHost row hostIndex =>
      left
      exact ⟨_, _, (Option.some.inj h).symm, Tables.keeps_of_modify rfl fun _ => rfl, rfl,
        fun _ _ => Option.some.inj h ▸ rfl⟩
  | agentsInstall => exact Or.inr (Or.inl ⟨.install, h, rfl, fun _ => rfl⟩)
  | agentsUninstall => exact Or.inr (Or.inl ⟨.uninstalls, h, rfl, fun _ => rfl⟩)
  | agentUninstall row host =>
      exact Or.inr (Or.inr (Or.inl ⟨.uninstall, row, host, h, rfl, Iff.rfl⟩))
  | agentReinstall row host =>
      exact Or.inr (Or.inr (Or.inl ⟨.reinstall, row, host, h, rfl, Iff.rfl⟩))
  | closed credentials => exact Or.inr (Or.inr (Or.inr (Or.inl ⟨credentials, rfl, h⟩)))
  | answered request succeeded =>
      obtain ⟨hrequest, h⟩ := Option.ite_none_right_eq_some.mp h
      exact Or.inr (Or.inr (Or.inr (Or.inr
        ⟨request, succeeded, rfl, hrequest, (Option.some.inj h).symm⟩)))

theorem keeps_of_step {u : Unicode} {e : PageEvent} (h : page.step u e = some page') :
    page.tables.Keeps page'.tables := by
  rcases step_cases h with ⟨_, _, rfl, hkeeps, -⟩ | ⟨_, hopen, -⟩ | ⟨_, _, _, hopen, -⟩ |
    ⟨_, rfl, hclosed⟩ | ⟨_, _, -, -, rfl⟩
  · exact hkeeps
  · obtain ⟨-, _, _, -, -, rfl⟩ := agents_eq_some hopen
    exact Tables.Keeps.refl _
  · obtain ⟨-, _, _, _, -, -, ⟨-, rfl⟩ | ⟨_, -, rfl⟩⟩ := agent_eq_some hopen
    · exact Tables.Keeps.refl _
    · exact Tables.keeps_of_modify rfl fun _ => rfl
  · obtain ⟨_, -, ⟨-, rfl⟩ | ⟨_, _, -, -, rfl⟩⟩ := closed_eq_some hclosed
    · exact Tables.Keeps.refl _
    · exact Tables.Keeps.refl _
  · exact Tables.Keeps.refl _

/-- Only the end of a dialog sends. -/
theorem sent_of_step {u : Unicode} {e : PageEvent} (h : page.step u e = some page') :
    page'.sent = page.sent ∨
      ∃ credentials agentInterface row, e = .closed (some credentials) ∧
        page.dialog = some agentInterface ∧
        page.tables.rows.get? agentInterface.targetConfig = some row ∧
        page'.sent = page.sent ++ [page.request agentInterface row credentials] := by
  rcases step_cases h with ⟨_, _, rfl, -⟩ | ⟨_, hopen, -⟩ | ⟨_, _, _, hopen, -⟩ |
    ⟨_, rfl, hclosed⟩ | ⟨_, _, -, -, rfl⟩
  · exact Or.inl rfl
  · obtain ⟨-, _, _, -, -, rfl⟩ := agents_eq_some hopen
    exact Or.inl rfl
  · obtain ⟨-, _, _, _, -, -, ⟨-, rfl⟩ | ⟨_, -, rfl⟩⟩ := agent_eq_some hopen
    · exact Or.inl rfl
    · exact Or.inl rfl
  · obtain ⟨agentInterface, hdialog, ⟨-, rfl⟩ | ⟨credentials, row, rfl, hrow, rfl⟩⟩ :=
      closed_eq_some hclosed
    · exact Or.inl rfl
    · exact Or.inr ⟨credentials, agentInterface, row, rfl, hdialog, hrow, rfl⟩
  · exact Or.inl rfl

end Page

/-! ## Requests for one host -/

/-- The host that is alone, and the one target -/
theorem Tables.Alone.spec {tables : Tables} {ref host : Ref} {row : Row}
    (h : tables.Alone ref host) (hrow : tables.rows.get? ref = some row) :
    ∃ name r target, tables.hostname host = some name ∧ row.targets = some [r] ∧
      tables.hosts.get? r = some target ∧ target.hostname = some name := by
  obtain ⟨name, hname, htargets⟩ := h row hrow
  obtain ⟨targets, htargets', hnames⟩ := Option.map_eq_some_iff.mp htargets
  obtain ⟨r, rfl, hr⟩ := List.map_eq_singleton_iff.mp hnames
  obtain ⟨target, htarget, hhostname⟩ := Option.bind_eq_some_iff.mp hr
  exact ⟨name, r, target, hname, htargets', htarget, hhostname⟩

theorem targetHostnames_singleton {u : Unicode} {config : IPTargetList} {target : Target}
    {name : String} (htargets : config.targets = some [target])
    (hname : target.hostname = some name) :
    targetHostnames u config = .ok [stripText u name] := by
  rw [targetHostnames, htargets]
  show [target].mapM _ = _
  rw [List.mapM_cons, hname]
  rfl

theorem postReinstall_some {u : Unicode} {target : Target} {name : String}
    (hname : target.hostname = some name) :
    postReinstall u (some target) = .ok (.tasks [stripText u name]) := by
  simp only [postReinstall, hname]

/-- What is sent for a host that is alone -/
theorem Page.forHost_request {u : Unicode} {page : Page} {agentInterface : AgentInterface}
    {row : Row} {host : Ref} (halone : page.tables.Alone agentInterface.targetConfig host)
    (hhost : agentInterface.target = some host)
    (hrow : page.tables.rows.get? agentInterface.targetConfig = some row)
    (credentials : WindowsCredentials) :
    (page.request agentInterface row credentials).ForHost u page := by
  obtain ⟨name, r, target, hname, htargets, htarget, hhostname⟩ := halone.spec hrow
  obtain ⟨clicked, hclicked, hclickedName⟩ := Option.bind_eq_some_iff.mp hname
  have hconfig : (page.request agentInterface row credentials).targetConfig.targets =
      some [target] := by
    show row.targets.map _ = _
    rw [htargets, Option.map_some, List.filterMap_cons_some htarget]
    rfl
  have hsent : (page.request agentInterface row credentials).target = some clicked := by
    show agentInterface.target.bind _ = _
    rw [hhost, Option.bind_some, hclicked]
  have hhostnames := targetHostnames_singleton (u := u) hconfig hhostname
  constructor
  case hosts =>
    refine ⟨name, ?_, ?_, ?_⟩
    · rw [hsent, Option.bind_some, hclickedName]
    · rw [hconfig, Option.map_some, List.map_singleton, hhostname]
    · rw [AgentRequest.post]
      split
      · rw [postTargets, hhostnames]
        rfl
      · rw [postTargets, hhostnames]
        rfl
      · rw [postTargets, hhostnames]
        rfl
      · rw [hsent, postReinstall_some hclickedName]
  case settings => exact ⟨row, hrow, rfl⟩

theorem AgentRequest.ForHost.of_keeps {u : Unicode} {page page' : Page} {request : AgentRequest}
    (h : request.ForHost u page) (hkeeps : page.tables.Keeps page'.tables) :
    request.ForHost u page' := by
  constructor
  case hosts => exact h.hosts
  case settings =>
    obtain ⟨row, hrow, hsettings⟩ := h.settings
    obtain ⟨row', hrow', hsettings'⟩ := hkeeps _ row hrow
    exact ⟨row', hrow', hsettings'.trans hsettings⟩

theorem Page.forHost_of_step {u : Unicode} {page page' : Page} {e : PageEvent}
    (hin : InStep page e) (h : page.step u e = some page')
    (hpage : ∀ request ∈ page.sent, request.isSingle = true → request.ForHost u page) :
    ∀ request ∈ page'.sent, request.isSingle = true → request.ForHost u page' := by
  intro request hrequest hsingle
  have hkeeps := keeps_of_step h
  obtain hsent | ⟨credentials, agentInterface, row, rfl, hdialog, hrow, hsent⟩ := sent_of_step h
  · rw [hsent] at hrequest
    exact (hpage request hrequest hsingle).of_keeps hkeeps
  · rw [hsent] at hrequest
    rcases List.mem_append.mp hrequest with hold | hnew
    · exact (hpage request hold hsingle).of_keeps hkeeps
    · rw [List.mem_singleton] at hnew
      subst hnew
      cases hhost : agentInterface.target with
      | none =>
          have hnone : (page.request agentInterface row credentials).isSingle = false := by
            rw [AgentRequest.isSingle, request, hhost]
            rfl
          exact absurd (hnone.symm.trans hsingle) Bool.false_ne_true
      | some host =>
          have halone := hin agentInterface host hdialog hhost
          exact (forHost_request halone hhost hrow credentials).of_keeps hkeeps

/-! ## All other requests -/

/-- The filter keeps the one target. -/
theorem Tables.filterTargets_of_alone {tables : Tables} {ref host : Ref} {row : Row}
    {targets : List Ref} {target : Target} (halone : tables.Alone ref host)
    (hrow : tables.rows.get? ref = some row) (hhost : tables.hosts.get? host = some target)
    (htargets : row.targets = some targets) : tables.filterTargets ref targets target = tables := by
  obtain ⟨name, r, target', hname, htargets', htarget', hhostname⟩ := halone.spec hrow
  obtain rfl : targets = [r] := Option.some.inj (htargets.symm.trans htargets')
  have hname' : target.hostname = some name := by
    rw [hostname, hhost, Option.bind_some] at hname
    exact hname
  have hkept : [r].filter (fun h =>
      (tables.hosts.get? h).any fun h => h.hostname = target.hostname) = [r] := by
    apply List.filter_eq_self.mpr
    intro h hh
    rw [List.mem_singleton.mp hh, htarget', Option.any_some, hhostname, hname']
    exact decide_eq_true rfl
  rw [filterTargets, hkept]
  rw [Heap.modify_eq_self]
  intro row' hrow'
  obtain rfl : row = row' := Option.some.inj (hrow.symm.trans hrow')
  rw [← htargets]

theorem Page.isSingle_request_of_none {page : Page} {agentInterface : AgentInterface}
    (h : agentInterface.target = none) (row : Row) (credentials : WindowsCredentials) :
    (page.request agentInterface row credentials).isSingle = false := by
  rw [AgentRequest.isSingle, request, h]
  rfl

theorem Page.isSingle_request_of_alone {page : Page} {agentInterface : AgentInterface} {row : Row}
    {host : Ref} (halone : page.tables.Alone agentInterface.targetConfig host)
    (hhost : agentInterface.target = some host)
    (hrow : page.tables.rows.get? agentInterface.targetConfig = some row)
    (credentials : WindowsCredentials) :
    (page.request agentInterface row credentials).isSingle = true := by
  obtain ⟨name, -, -, hname, -⟩ := halone.spec hrow
  obtain ⟨clicked, hclicked, -⟩ := Option.bind_eq_some_iff.mp hname
  rw [AgentRequest.isSingle, request, hhost, Option.bind_some, hclicked]
  rfl

/-- A step of a request for one host changes nothing that the other requests are about. -/
theorem Page.batchOnly_of_single {u : Unicode} {page page' : Page} {e : PageEvent}
    (hin : InStep page e) (hsingle : ofSingle page e = true) (h : page.step u e = some page') :
    page'.batchOnly = page.batchOnly := by
  rcases step_cases h with ⟨_, _, -, -, hother, -⟩ | ⟨_, -, hother, -⟩ |
    ⟨action, ref, host, hopen, -, halone⟩ | ⟨credentials, rfl, hclosed⟩ | ⟨_, _, -, -, rfl⟩
  · exact absurd (hother.symm.trans hsingle) Bool.false_ne_true
  · exact absurd (hother.symm.trans hsingle) Bool.false_ne_true
  · obtain ⟨hdialog, installerConfig, row, target, hrow, hhost, ⟨-, rfl⟩ |
      ⟨targets, htargets, rfl⟩⟩ := agent_eq_some hopen
    · rfl
    · rw [Tables.filterTargets_of_alone (halone.mp hin) hrow hhost htargets, batchOnly, batchOnly,
        hdialog]
      rfl
  · obtain ⟨agentInterface, hdialog, hend⟩ := closed_eq_some hclosed
    rw [ofSingle, hdialog, Option.any_some] at hsingle
    obtain ⟨host, hhost⟩ := Option.isSome_iff_exists.mp hsingle
    have hhidden : page.dialog.filter (fun ai => ai.target.isNone) = none := by
      rw [hdialog, Option.filter_some, hhost]
      rfl
    rcases hend with ⟨-, rfl⟩ | ⟨credentials, row, rfl, hrow, rfl⟩
    · rw [batchOnly, batchOnly, hhidden]
      rfl
    · have halone := hin agentInterface host hdialog hhost
      have hrequest := isSingle_request_of_alone halone hhost hrow credentials
      simp [batchOnly, hhidden, hrequest]
  · rfl

/-- And every other step does to the rest what it does to the page. -/
theorem Page.step_batchOnly {u : Unicode} {page page' : Page} {e : PageEvent}
    (hsingle : ofSingle page e = false) (h : page.step u e = some page') :
    page.batchOnly.step u e = some page'.batchOnly := by
  rcases step_cases h with ⟨tables, installerSelection, rfl, -, -, hother⟩ |
    ⟨action, hopen, -, hother⟩ | ⟨_, _, _, -, hother, -⟩ | ⟨credentials, rfl, hclosed⟩ |
    ⟨request, succeeded, rfl, hrequest, rfl⟩
  · exact hother _ _
  · obtain ⟨hdialog, installerConfig, row, hinstaller, hselection, rfl⟩ := agents_eq_some hopen
    rw [hother]
    simp [agents, batchOnly, hdialog, hinstaller, hselection, Option.filter_some]
  · exact absurd (hsingle.symm.trans hother) Bool.false_ne_true
  · obtain ⟨agentInterface, hdialog, hend⟩ := closed_eq_some hclosed
    rw [ofSingle, hdialog, Option.any_some, Option.isSome_eq_false_iff,
      Option.isNone_iff_eq_none] at hsingle
    have hshown : page.batchOnly.dialog = some agentInterface := by
      rw [batchOnly, hdialog, Option.filter_some, hsingle]
      rfl
    show page.batchOnly.closed credentials = some page'.batchOnly
    rcases hend with ⟨hend, rfl⟩ | ⟨credentials, row, rfl, hrow, rfl⟩
    · exact closed_of_none hshown hend
    · have hrequest : (page.request agentInterface row credentials).isSingle = false :=
        isSingle_request_of_none hsingle row credentials
      have hsent : (page.sent ++ [page.request agentInterface row credentials]).filter
          (fun request => !request.isSingle) =
            page.batchOnly.sent ++ [page.request agentInterface row credentials] := by
        simp [batchOnly, hrequest]
      refine (closed_of_some hshown hrow credentials).trans (congrArg some ?_)
      show _ = { page with
        dialog := none
        sent := (page.sent ++ [page.request agentInterface row credentials]).filter
          fun request => !request.isSingle }
      rw [hsent]
      rfl
  · have hkept : request ∈ page'.sent.filter fun request => !request.isSingle := by
      apply List.mem_filter.mpr
      exact ⟨hrequest, by rw [show request.isSingle = false from hsingle]; rfl⟩
    exact if_pos hkept

/-! ## A run -/

theorem Page.Opened.batchOnly {page : Page} (h : page.Opened) : page.batchOnly = page := by
  obtain ⟨tables, installerSelection, dialog, sent⟩ := page
  obtain ⟨rfl, rfl⟩ := h
  rfl

/-- In every run in which requests for one host are made while the host is the only one of its
    configuration, each is for this host alone, and all else is as without them. -/
theorem unaffected_of_after (u : Unicode) {page page' : Page} {es : List PageEvent}
    (hopened : page.Opened) (h : Steps.after (Page.step u) page es = some page')
    (halong : Steps.Along (Page.step u) InStep page es) : Unaffected u page es page' := by
  constructor
  case single =>
    apply Steps.after_invariant_along (fun _ _ _ hin h hI => Page.forHost_of_step hin h hI) h halong
    intro request hrequest
    rw [hopened.sent] at hrequest
    exact absurd hrequest List.not_mem_nil
  case batch =>
    have hhidden : ∀ page e page', InStep page e → ofSingle page e = true →
        Page.step u page e = some page' → page'.batchOnly = page.batchOnly :=
      fun _ _ _ hin hsingle h => Page.batchOnly_of_single hin hsingle h
    have hshown : ∀ page e page', ofSingle page e = false → Page.step u page e = some page' →
        Page.step u page.batchOnly e = some page'.batchOnly :=
      fun _ _ _ hsingle h => Page.step_batchOnly hsingle h
    have hrun := Steps.after_visible hhidden hshown h halong
    rw [hopened.batchOnly] at hrun
    exact hrun

/-- A configuration with the hosts in its row, and an installer configuration that is selected -/
def withHosts (hosts : List Target) : Page where
  tables := { (⟨Heap.empty, Heap.empty, none, none⟩ : Tables).setIpTargetConfigMatTableData
    [⟨⟨"5f", "lan", "ntlm"⟩, some hosts⟩] with ipTargetSelection := some 0 }
  installerSelection := some "endpoints"
  dialog := none
  sent := []

theorem opened_withHosts (hosts : List Target) : (withHosts hosts).Opened := ⟨rfl, rfl⟩

def web : Target := ⟨some "web", "Installed", ""⟩

def mail : Target := ⟨some "mail", "Installed", ""⟩

def admin : WindowsCredentials := ⟨"admin", "secret"⟩

/-- The uninstallation of one host is cancelled, and that of all hosts goes to the one. -/
theorem not_unaffected_of_after : ¬∀ (u : Unicode) (page : Page) (es : List PageEvent)
    (page' : Page), page.Opened → Steps.after (Page.step u) page es = some page' →
    Unaffected u page es page' := by
  intro h
  have hbatch := (h Unicode.ascii (withHosts [web, mail])
    [.agentUninstall 0 0, .closed none, .agentsUninstall, .closed (some admin)] _
    (opened_withHosts _) rfl).batch
  have hsent := congrArg (Option.map fun page => page.sent.map (·.targetConfig.targets)) hbatch
  exact absurd hsent (by decide)

/-- The one host of a configuration is uninstalled, and then all hosts are. -/
def uninstallWeb : List PageEvent :=
  [.agentUninstall 0 0, .closed (some admin), .agentsUninstall, .closed (some admin)]

theorem alone_web {page : Page} (hrows : page.tables.rows.get? 0 =
    some ⟨⟨"5f", "lan", "ntlm"⟩, some [0], [0]⟩) (hhosts : page.tables.hosts.get? 0 = some web) :
    page.tables.Alone 0 0 := by
  intro row hrow
  obtain rfl := Option.some.inj (hrows.symm.trans hrow)
  refine ⟨"web", ?_, ?_⟩
  · rw [Tables.hostname, hhosts]
    rfl
  · show some [page.tables.hostname 0] = _
    rw [Tables.hostname, hhosts]
    rfl

theorem unaffected_uninstallWeb : ∃ page', Steps.after (Page.step Unicode.ascii)
    (withHosts [web]) uninstallWeb = some page' ∧ page'.sent.length = 2 ∧
    Unaffected Unicode.ascii (withHosts [web]) uninstallWeb page' := by
  refine ⟨_, rfl, rfl, unaffected_of_after Unicode.ascii (opened_withHosts _) rfl ?_⟩
  refine Steps.along_cons_of_step rfl (alone_web rfl rfl) ?_
  refine Steps.along_cons_of_step rfl ?_ ?_
  · rintro _ _ ⟨rfl⟩ ⟨rfl⟩
    exact alone_web rfl rfl
  refine Steps.along_cons_of_step rfl trivial ?_
  refine Steps.along_cons_of_step rfl ?_ trivial
  rintro _ _ ⟨rfl⟩ hhost
  cases hhost

end AgentBuilderChooser

end Tfplenum
