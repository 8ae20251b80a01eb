/-
  Tfplenum.Service.AgentService

  `WinRunner` of `service/agent_service.py`, which installs or removes the agent
  on Windows hosts, with what it uses of `utils/tfwinrm_util.py` and
  `utils/utils.py`: the inventory written for ansible, and the states recorded
  for the hosts of the configuration once ansible has reported.

  The inventory names a host by the id of its fixed host name, the report is read
  back by the id of the configured one.
-/

import Tfplenum.Controller.AgentBuilderController
import Tfplenum.Lib.Links
import Tfplenum.Lib.PythonInt
import Mathlib.Data.List.Infix

namespace Tfplenum

open Lib

/-! ## Host names -/

/-- `int(text)`, for ASCII text -/
def intOfText (text : List Char) : Option Int := PythonInt.ofAscii text

/-- `is_ipv4_address` -/
def isIpv4Address (s : String) : Bool :=
  let pieces := s.toList.splitOn '.'
  pieces.length = 4 ∧ pieces.all fun p => (intOfText p).any fun n => 0 ≤ n ∧ n < 256

/-- `fix_hostname` -/
def fixHostname (dnsSuffix hostnameOrIp : String) : String :=
  if isIpv4Address hostnameOrIp then hostnameOrIp
  else if 0 < dnsSuffix.length ∧ ¬dnsSuffix.toList <:+: hostnameOrIp.toList then
    hostnameOrIp ++ "." ++ dnsSuffix
  else hostnameOrIp

/-- `host.replace(".", "_")` -/
def hostId (host : String) : String :=
  String.ofList (host.toList.map fun c => if c = '.' then '_' else c)

/-! ## Ansible -/

inductive AgentAction where
  | reinstall
  | uninstall
deriving DecidableEq, Repr

/-- A line of the `[windows_targets]` group. -/
structure InventoryLine where
  id : String
  ansibleHost : String
deriving DecidableEq, Repr

/-- The lines `_create_inventoryfile` writes for the hosts. -/
def inventoryLines (hosts : List String) : List InventoryLine :=
  hosts.map fun host => { id := hostId host, ansibleHost := host }

/-- `stats.summarize(host)`, by what is read of it. -/
structure HostStats where
  failures : Nat
  unreachable : Nat
deriving DecidableEq, Repr

def HostStats.succeeded (stats : HostStats) : Bool := stats.failures = 0 ∧ stats.unreachable = 0

/-- The status code of a playbook run, and what `CallbackModule` has collected. -/
structure PlaybookResult where
  statusCode : Nat
  summary : Table String HostStats
  /-- `results[host]["failed"]` -/
  failed : String → List String

/-- A run of the playbook of an action over an inventory. -/
abbrev Ansible : Type := AgentAction → List InventoryLine → Except PyError PlaybookResult

/-- What is documented of ansible: the report has an entry for every id of the
    inventory, with the outcome on the machine of its last line, and the status
    code is zero only if no host failed or was unreachable. -/
structure Ansible.Documented (ansible : Ansible) (machine : AgentAction → String → HostStats) :
    Prop where
  reported : ∀ action inventory result, ansible action inventory = .ok result → ∀ id stats,
    Links.LastLinked (inventory.map fun line => (machine action line.ansibleHost, [line.id]))
      id stats → result.summary.get? id = some stats
  succeeded : ∀ action inventory result, ansible action inventory = .ok result →
    result.statusCode = 0 → ∀ id stats, result.summary.get? id = some stats →
      stats.succeeded = true

/-- What ends the `try` block of `execute`. -/
inductive AgentError where
  | winrmCommandFailure (callback : PlaybookResult)
  | other (e : PyError)

/-- `execute_win_playbook`, called by `reinstall_agent` and `uninstall_agent` -/
def executeWinPlaybook (ansible : Ansible) (action : AgentAction) (hosts : List String) :
    Except AgentError (Table String HostStats) :=
  match ansible action (inventoryLines hosts) with
  | .error e => .error (.other e)
  | .ok result =>
      if result.statusCode ≠ 0 then .error (.winrmCommandFailure result) else .ok result.summary

/-! ## The runner -/

/-- The hosts a runner is made for; only ntlm takes several at once. -/
inductive HostnameOrIp where
  | one (host : String)
  | many (hosts : List String)

def HostnameOrIp.toList : HostnameOrIp → List String
  | .one host => [host]
  | .many hosts => hosts

/-- A posted notification, by what its text is made from. -/
inductive AgentNotice where
  | inProgress (action : AgentAction) (hosts : List String)
  | success (action : AgentAction) (hosts : List String)
  | failure (action : AgentAction) (hosts : List String) (ansibleError : List String)
  | loginNetworkFailure (action : AgentAction) (host : String) (ansibleError : List String)
  | installerMissing
deriving DecidableEq, Repr

structure AgentState where
  lists : TargetLists
  notices : List AgentNotice

def AgentState.post (notice : AgentNotice) (s : AgentState) : AgentState :=
  { s with notices := s.notices ++ [notice] }

structure WinRunner where
  targetConfigId : String
  overSmb : Bool
  dnsSuffix : String
  action : AgentAction
  hostnameOrIp : HostnameOrIp
  /-- `datetime.utcnow().strftime(DATE_FORMAT_STR)` -/
  dtString : String

/-- How the steps of a run go, other than the playbook. -/
structure AgentSteps where
  /-- `_initalize_winapi` -/
  connect : Except PyError Unit
  /-- `_build_agents` -/
  buildAgents : Except PyError Unit
  installerExists : Bool
  /-- what the first `run_smb_command` does before it runs anything on the host -/
  smbService : Except PyError Unit
  /-- the exit status of `_prep_powershell_script` -/
  prepScript : Except PyError Int
  /-- `_send_over_smb` -/
  sendOverSmb : Except PyError Unit
  /-- the exit status of `_post_ps_script` -/
  postScript : Except PyError Int
  /-- `pull_file` of the log of a host -/
  pullFile : String → Except PyError Unit
  /-- `cleanup_smb_command_operations` with the service there -/
  cleanup : Except PyError Unit

namespace AgentSteps

/-- `_move_agent_installer`: `push_file` looks for the installer once more. -/
def moveAgentInstaller (steps : AgentSteps) : Except PyError Unit :=
  if steps.installerExists then steps.sendOverSmb else .error (.other "WinrmFileNotFound")

/-- What is left over SMB after `_set_installer`. -/
def finishOverSmb (steps : AgentSteps) (hosts : List String) : Except PyError Unit := do
  steps.moveAgentInstaller
  -- `_run_post_operatios_over_smb` prints what the script has to say, and drops the status
  let _ ← steps.postScript
  hosts.forM steps.pullFile

/-- The `finally` over SMB, when the service is there. -/
def cleanedUp (steps : AgentSteps) (r : Except PyError Unit) : Except PyError Unit := do
  steps.cleanup
  r

end AgentSteps

/-- `"targets.$"`: the first target with the host name -/
def replaceTarget (host : String) (new : Target) : List Target → List Target
  | [] => []
  | target :: targets =>
      if target.hostname = some host then new :: targets
      else target :: replaceTarget host new targets

def TargetConfig.setTarget (host : String) (new : Target) (config : TargetConfig) : TargetConfig :=
  { config with targets := config.targets.map (replaceTarget host new) }

namespace WinRunner

/-- `TARGET_STATES` of a host on which the action went through -/
def endState : AgentAction → String
  | .uninstall => "Uninstalled"
  | .reinstall => "Installed"

def errorState : String := "Error"

/-- `_update_single_host_state` -/
def updateSingleHostState (runner : WinRunner) (host newState : String) (s : AgentState) :
    AgentState :=
  let newTarget : Target :=
    { hostname := some host, state := newState, lastStateChange := runner.dtString }
  { s with lists := s.lists.modify runner.targetConfigId (TargetConfig.setTarget host newTarget) }

/-- `_update_windows_host_state` -/
def updateWindowsHostState (runner : WinRunner) (newState : String) (s : AgentState) : AgentState :=
  runner.hostnameOrIp.toList.foldl (fun s host => runner.updateSingleHostState host newState s) s

/-- `_set_installer`, which goes on without an installer -/
def setInstaller (runner : WinRunner) (installerExists : Bool) (s : AgentState) : AgentState :=
  if installerExists then s
  else runner.updateWindowsHostState errorState (s.post .installerMissing)

/-- `_set_end_state` -/
def setEndState (runner : WinRunner) (s : AgentState) : AgentState :=
  (runner.updateWindowsHostState (endState runner.action) s).post
    (.success runner.action runner.hostnameOrIp.toList)

/-- `notify_ansible_failure` -/
def notifyAnsibleFailure (runner : WinRunner) (callback : PlaybookResult) :
    List String → AgentState → AgentState × Except PyError Unit
  | [], s => (s, .ok ())
  | host :: hosts, s =>
      match callback.summary.get? (hostId host) with
      | none => (s, .error (.keyError (hostId host)))
      | some stats =>
          if stats.succeeded then
            runner.notifyAnsibleFailure callback hosts
              (runner.updateSingleHostState host (endState runner.action)
                (s.post (.success runner.action [host])))
          else if 0 < stats.unreachable then
            runner.notifyAnsibleFailure callback hosts
              (runner.updateSingleHostState host errorState
                (s.post (.loginNetworkFailure runner.action host (callback.failed (hostId host)))))
          else
            runner.notifyAnsibleFailure callback hosts
              (runner.updateSingleHostState host errorState
                (s.post (.failure runner.action [host] (callback.failed (hostId host)))))

/-- The hosts of `WindowsConnectionManager` -/
def connectionHosts (runner : WinRunner) : List String :=
  runner.hostnameOrIp.toList.map (fixHostname runner.dnsSuffix)

/-- The `try` block of `execute` over SMB; without the service there is nothing to clean up. -/
def attemptOverSmb (runner : WinRunner) (steps : AgentSteps) (s : AgentState) :
    AgentState × Except PyError Unit :=
  match steps.buildAgents, steps.smbService, steps.prepScript with
  | .error e, _, _ => (s, .error e)
  | .ok _, .error e, _ => (s, .error e)
  | .ok _, .ok _, .error e => (s, steps.cleanedUp (.error e))
  | .ok _, .ok _, .ok _ =>
      (runner.setInstaller steps.installerExists s,
        steps.cleanedUp (steps.finishOverSmb runner.hostnameOrIp.toList))

/-- The `try` block of `execute` up to `_set_end_state` -/
def attempt (runner : WinRunner) (ansible : Ansible) (steps : AgentSteps) (s : AgentState) :
    AgentState × Except AgentError Unit :=
  match steps.connect with
  | .error e => (s, .error (.other e))
  | .ok _ =>
      if runner.overSmb then
        ((runner.attemptOverSmb steps s).1, (runner.attemptOverSmb steps s).2.mapError .other)
      else
        match steps.buildAgents with
        | .error e => (s, .error (.other e))
        | .ok _ =>
            (runner.setInstaller steps.installerExists s,
              (executeWinPlaybook ansible runner.action runner.connectionHosts).map fun _ => ())

/-- The handlers of `execute` that put every host into the error state. -/
def failEveryHost (runner : WinRunner) (s : AgentState) : AgentState :=
  runner.updateWindowsHostState errorState
    (s.post (.failure runner.action runner.hostnameOrIp.toList []))

/-- `execute` -/
def execute (runner : WinRunner) (ansible : Ansible) (steps : AgentSteps) (s : AgentState) :
    AgentState × Except PyError Unit :=
  match runner.attempt ansible steps
      (s.post (.inProgress runner.action runner.hostnameOrIp.toList)) with
  | (s, .ok _) => (runner.setEndState s, .ok ())
  | (s, .error (.other _)) => (runner.failEveryHost s, .ok ())
  | (s, .error (.winrmCommandFailure callback)) =>
      match runner.hostnameOrIp with
      | .one _ => (runner.failEveryHost s, .ok ())
      | .many hosts =>
          if callback.summary.rows.isEmpty then (runner.failEveryHost s, .ok ())
          else runner.notifyAnsibleFailure callback hosts s

end WinRunner

end Tfplenum
