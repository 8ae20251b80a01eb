/-
  Tfplenum.Controller.AgentBuilderController

  `controller/agent_builder_controller.py`: the requests that add hosts to a
  configuration of Windows targets and remove them.

  A request to add hosts reads the configuration, drops the hosts it has already
  and pushes the others.  The host names of a configuration stay different, but for
  the case of their letters, exactly as long as no other request pushes one of the
  names between the read and the push.
-/

import Mathlib.Data.List.Dedup
import Tfplenum.Json
import Tfplenum.Lib.Interleave
import Tfplenum.Lib.Table
import Tfplenum.Lib.Unicode

namespace Tfplenum

open Lib

/-! ## Target configurations -/

/-- A host of a configuration; documents are not checked for the name. -/
structure Target where
  hostname : Option String
  state : String
  lastStateChange : String
deriving DecidableEq, Repr

/-- A configuration, by what the two requests read of it. -/
structure TargetConfig where
  name : String
  targets : Option (List Target)
deriving DecidableEq, Repr

namespace TargetConfig

def hosts (config : TargetConfig) : List Target := config.targets.getD []

/-- `{'$push': {'targets': {'$each': hosts}}}` -/
def push (hosts : List Target) (config : TargetConfig) : TargetConfig :=
  { config with targets := some (config.hosts ++ hosts) }

/-- `{'$pull': {'targets': {'hostname': host}}}` -/
def pull (host : String) (config : TargetConfig) : TargetConfig :=
  { config with targets := config.targets.map (·.filter fun t => t.hostname ≠ some host) }

end TargetConfig

/-- `windows_target_lists`, by `_id` -/
abbrev TargetLists : Type := Table String TargetConfig

/-- The database calls of the two requests. -/
inductive TargetOp where
  /-- `find_one({'_id': id})` -/
  | findOne (id : String)
  /-- `find_one_and_update` by `_id` with a `$push`, answered with the document after it -/
  | push (id : String) (hosts : List Target)
  /-- `update_one` by `_id` with a `$pull`, answered with the modified count -/
  | pull (id : String) (host : String)
deriving DecidableEq

abbrev TargetOp.Res : TargetOp → Type
  | .findOne _ => Option TargetConfig
  | .push _ _ => Option TargetConfig
  | .pull _ _ => Nat

def applyTargetOp : Handler TargetOp TargetOp.Res TargetLists
  | .findOne id, lists => (lists.get? id, lists)
  | .push id hosts, lists =>
      ((lists.get? id).map (TargetConfig.push hosts), lists.modify id (TargetConfig.push hosts))
  | .pull id host, lists =>
      (if (lists.get? id).map (TargetConfig.pull host) = lists.get? id then 0 else 1,
        lists.modify id (TargetConfig.pull host))

abbrev TargetProg (α : Type) : Type := Program TargetOp TargetOp.Res PyError α

/-! ## The requests -/

/-- `ObjectId(text)`, for the 24 hexadecimal digits it is written in -/
def objectId (text : String) : Except PyError String :=
  let isHex (c : Char) : Bool := c.isDigit ∨ c ∈ "abcdefABCDEF".toList
  if text.length = 24 ∧ text.toList.all isHex then
    .ok (String.ofList (text.toList.map Char.toLower))
  else .error (.other "InvalidId")

def lowerName (u : Unicode) (name : String) : String := String.ofList (u.lower name.toList)

/-- The loop of `_is_host_duplicate`; a host without a name ends it. -/
def hasHost (u : Unicode) (hostname : String) : List Target → Bool
  | [] => false
  | oldHost :: targets =>
      match oldHost.hostname with
      | none => false
      | some old =>
          if lowerName u old = lowerName u hostname then true else hasHost u hostname targets

/-- `_is_host_duplicate` -/
def isHostDuplicate (u : Unicode) (config : TargetConfig) (hostname : String) : Bool :=
  match config.targets with
  | none => false
  | some targets => hasHost u hostname targets

/-- `set(hostnames.lower().split('\n'))`, as it is iterated -/
def uniqueHostnames (u : Unicode) (order : SetOrder) (hostnames : String) : List String :=
  order.iterate (((u.lower hostnames.toList).splitOn '\n').map String.ofList)

/-- One round of the loop of `_get_unique_hosts_to_add` -/
def hostToAdd (u : Unicode) (targetConfig : Option TargetConfig) (hostname : String) :
    Option Target :=
  if hostname = "" then none
  else targetConfig.bind fun config =>
    if isHostDuplicate u config hostname then none
    else some ⟨some hostname, "Uninstalled", ""⟩

/-- `_get_unique_hosts_to_add` -/
def getUniqueHostsToAdd (u : Unicode) (order : SetOrder) (targetConfig : Option TargetConfig) :
    Json → Except PyError (List Target)
  | .str hostnames =>
      .ok ((uniqueHostnames u order hostnames).filterMap (hostToAdd u targetConfig))
  | _ => .error (.attributeError "object has no attribute 'lower'")

/-- `len(value)` -/
def jsonLen : Json → Except PyError Nat
  | .str s => .ok s.length
  | .arr items => .ok items.length
  | .obj fields => .ok fields.length
  | _ => .error (.typeError "object has no len()")

/-- `hostnames and len(hostnames) > 0` -/
def hasHostnames (hostnames : Json) : Except PyError Bool :=
  if hostnames.truthy then (jsonLen hostnames).map fun length => decide (0 < length) else .ok false

/-- What the two requests answer. -/
inductive TargetResponse where
  | config (config : TargetConfig)
  | success (message : String)
  | error (message : String) (status : Nat)
deriving DecidableEq, Repr

/-- `AgentTargetHost.post` -/
def AgentTargetHost.post (u : Unicode) (order : SetOrder) (hostsToAdd : Json)
    (targetConfigId : String) : TargetProg TargetResponse := do
  let hostnames ← Program.ofExcept (hostsToAdd.getItem "hostnames")
  let given ← Program.ofExcept (hasHostnames hostnames)
  if given then do
    let id ← Program.ofExcept (objectId targetConfigId)
    let targetConfig ← Program.perform (TargetOp.findOne id)
    let toInsert ← Program.ofExcept (getUniqueHostsToAdd u order targetConfig hostnames)
    let retVal ← Program.perform (TargetOp.push id toInsert)
    match retVal, targetConfig with
    | some config, _ => return .config config
    | none, some config =>
        return .error ("Failed to add a hosts to target configuration " ++ config.name ++ ".") 500
    | none, none => Program.raise (.typeError "'NoneType' object is not subscriptable")
  else Program.raise (.unboundLocalError "target_config")

/-- `DelAgentTargetHost.delete` -/
def DelAgentTargetHost.delete (host targetConfigId : String) : TargetProg TargetResponse := do
  let id ← Program.ofExcept (objectId targetConfigId)
  let modifiedCount ← Program.perform (TargetOp.pull id host)
  if modifiedCount = 1 then
    return .success ("Successfully deleted " ++ host ++ " from the target configuration.")
  else
    return .error ("Failed to delete " ++ host ++ " from the target configuration.") 500

inductive HostRequest where
  | add (hostsToAdd : Json) (targetConfigId : String)
  | remove (host targetConfigId : String)

def HostRequest.program (u : Unicode) (order : SetOrder) :
    HostRequest → TargetProg TargetResponse
  | .add hostsToAdd targetConfigId => AgentTargetHost.post u order hostsToAdd targetConfigId
  | .remove host targetConfigId => DelAgentTargetHost.delete host targetConfigId

/-- Any number of requests over the stored configurations. -/
def hostRequests (u : Unicode) (order : SetOrder) (lists : TargetLists)
    (requests : List HostRequest) :
    Config TargetOp TargetOp.Res PyError TargetResponse TargetLists :=
  ⟨lists, requests.map (HostRequest.program u order)⟩

end Tfplenum
