/-
  Tfplenum.Controller.NodeController

  The requests of `controller/node_controller.py` that create nodes and change
  their state, and the one of `controller/settings_controller.py` that saves the
  general settings.
-/

import Tfplenum.Service.NodeService

namespace Tfplenum

open Lib

/-- What a request is answered with. -/
inductive Response where
  /-- the queued job -/
  | job (jobId : String)
  | message (text : String)
  /-- `e.normalized_messages()`, 400 -/
  | invalid (messages : List (String × List String))
  /-- `post_validation`, 400 -/
  | postValidation (messages : List (String × List String))
  | errorMessage (status : Nat) (text : String)
deriving DecidableEq, Repr

def Response.status : Response → Nat
  | .job _ => 200
  | .message _ => 200
  | .invalid _ => 400
  | .postValidation _ => 400
  | .errorMessage status _ => status

def dbModelNotFound : PyError := .other "DBModelNotFound"

/-! ## Creating a node -/

namespace NewNodeCtrl

/-- A virtual machine gets a MAC address of its own. -/
def assignMac (node : Node) : Prog Node := do
  if node.deploymentType = some DeploymentTypes.virtual then
    let macAddress ← Node.randMac
    pure { node with macAddress := some macAddress }
  else pure node

/-- The body of `post` inside its `try`. -/
def createFromPayload (payload : Json) : Prog Node := do
  let settings ← GeneralSettingsForm.loadFromDb
  let node ← Node.load payload
  match settings with
  | none => Program.raise (.attributeError "'NoneType' object has no attribute 'domain'")
  | some settings => do
      let node := { node with hostname := Node.qualify node.hostname settings.domain }
      let node ← assignMac node
      node.postValidation
      node.create
      sendNotification
      pure node

/-- `NewNodeCtrl.post` -/
def post (payload : Json) : Prog Response := do
  match ← (createFromPayload payload).attempt with
  | .error (.validationError messages) => pure (.invalid messages)
  | .error (.postValidationError messages) => pure (.postValidation messages)
  -- the handler of `DBModelNotFound` logs a variable it has not bound
  | .error e => Program.raise (if e = dbModelNotFound then .unboundLocalError "e" else e)
  -- a virtual machine is created, any other node gets its kickstart profile
  | .ok _ => .job <$> Prog.orRaise (Prog.ask (.enqueue "execute"))

end NewNodeCtrl

/-! ## State of a node -/

/-- The exceptions the state requests answer themselves. -/
def answerErrors (invalidState : String) (p : Prog Response) : Prog Response :=
  p.tryExcept fun e =>
    match e with
    | .valueError _ => pure (.errorMessage 400 invalidState)
    | e =>
        if e = dbModelNotFound then pure (.errorMessage 400 "DBModelNotFound.")
        else Program.raise e

/-- The node gets the entry of the payload and is saved. -/
def NodeVpnCtrl.setStatus (node : Node) (payload : List (String × Json)) : Prog Unit := do
  match payload.lookup "vpn_status" with
  | none => pure ()
  | some status => Node.saveToDb { node with vpnStatus := status }

/-- `NodeVpnCtrl.post` -/
def NodeVpnCtrl.post (hostname : String) (payload : List (String × Json)) : Prog Response :=
  answerErrors "Invalid State." do
    match ← Node.loadFromDbUsingHostname hostname with
    | none => pure (.message "Updated")
    | some node => do
        Program.when (payload ≠ []) do
          setStatus node payload
          sendNotification
        pure (.message "Updated")

namespace NodeStateCtrl

/-- What the payload asks for, by the first entry that is set. -/
inductive Change where
  | error | complete | inprogress | none
deriving DecidableEq

/-- The entry of the payload is set. -/
def isSet (payload : List (String × Json)) (key : String) : Bool :=
  (payload.lookup key).any Json.truthy

def change (payload : List (String × Json)) : Change :=
  if isSet payload "error" then .error
  else if isSet payload "complete" then .complete
  else if isSet payload "inprogress" then .inprogress
  else .none

/-- `text`, by default or from the payload, where it is a text. -/
def errorText (payload : List (String × Json)) : Option String :=
  match payload.lookup "message" with
  | some (.str text) => some text
  | some _ => none
  | none => some "An error has occurred"

/-- A gathering of device facts that is under way is stopped. -/
def cancelGathering (node : Node) (job : NodeJob) (name : String) (c : Change) : Prog Unit := do
  Program.when (name = jobProvision ∧ c = .inprogress ∧ job.doc.inprogress) do
    match ← Prog.orRaise (Prog.ask (.findGatherJob node.id)) with
    | none => pure ()
    | some jobId => Prog.orRaise (Prog.ask (.cancelJob jobId))

/-- The job changes state as the payload asks. -/
def applyChange (node : Node) (job : NodeJob) (name : String) (payload : List (String × Json)) :
    Prog Unit := do
  match change payload with
  | .error => discard (job.setError (errorText payload))
  | .complete => discard job.setComplete
  | .inprogress =>
      if name = jobProvision then
        discard (Prog.orRaise (Prog.ask .loadKitSettings))
        Program.when (node.nodeType = NodeTypes.mip)
          (discard (Prog.orRaise (Prog.ask .loadMipSettings)))
        discard (Prog.orRaise (Prog.ask (.enqueue "gather_device_facts")))
      else
        discard (job.setInprogress none)
  | .none => pure ()

/-- The job of the node with this name changes state. -/
def changeJob (node : Node) (name : String) (payload : List (String × Json)) : Prog Unit := do
  match ← NodeJob.loadJobByNode node name with
  | none => pure ()
  | some job => do
      cancelGathering node job name (change payload)
      let job ← job.setJobState none
      applyChange node job name payload
      sendNotification

/-- `NodeStateCtrl.post` -/
def post (hostname : String) (payload : List (String × Json)) : Prog Response :=
  answerErrors "Invalid state" do
    match ← Node.loadFromDbUsingHostname hostname with
    | none => pure (.message "Updated")
    | some node => do
        Program.when (payload ≠ []) do
          match ← Program.ofExcept ((Json.obj payload).getItem "name") with
          | .str name => changeJob node name payload
          -- a name of another type is that of no job
          | _ => pure ()
        pure (.message "Updated")

end NodeStateCtrl

/-! ## General settings -/

namespace GeneralSettingsCtrl

/-- `GeneralSettings.post` -/
def post (payload : Json) : Prog Response := do
  let saved : Prog Unit := do
    let form ← Program.ofExcept (GeneralSettingsSchema.load payload)
    form.saveToDb
    sendNotification
  match ← saved.attempt with
  | .error (.validationError messages) => pure (.invalid messages)
  | .error (.postValidationError messages) => pure (.postValidation messages)
  | .error e =>
      if e = dbModelNotFound then pure (.errorMessage 400 "DBModelNotFound")
      else Program.raise e
  | .ok _ => .job <$> Prog.orRaise (Prog.ask (.enqueue "execute"))

end GeneralSettingsCtrl

end Tfplenum
