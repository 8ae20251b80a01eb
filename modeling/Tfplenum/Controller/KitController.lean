/-
  Tfplenum.Controller.KitController

  The requests that change which nodes there are, besides `NewNodeCtrl`: looking
  a node up and deleting it by host name, adding a MIP, starting over with a new
  control plane, and refreshing the kit.
-/

import Tfplenum.Controller.NodeController

namespace Tfplenum

open Lib

/-! ## One node by its host name -/

namespace NodeCtrl

/-- The host name of the request under the domain of the settings. -/
def canonicalHostname (hostname : String) : Prog String := do
  match ← GeneralSettingsForm.loadFromDb with
  | none => Program.raise (.attributeError "'NoneType' object has no attribute 'domain'")
  | some settings => pure (Node.qualify hostname settings.domain)

/-- `Node.load_from_db_using_hostname_with_jobs`, which hands out the documents as
    they are stored. -/
def loadWithJobs (hostname : String) :
    Prog (Option ((String × NodeDoc) × List (String × JobDoc))) := do
  match ← Prog.findOne .nodes fun _ node => node.hostname = hostname with
  | none => pure none
  | some row => do
      let jobs ← Prog.find .jobs fun _ job => job.nodeId = row.1
      pure (some (row, jobs))

/-- `NodeCtrl.get`, answered with the node or with 404 -/
def get (hostname : String) : Prog (Option ((String × NodeDoc) × List (String × JobDoc))) := do
  loadWithJobs (← canonicalHostname hostname)

/-- `_remove_node` -/
def removeNode : Prog Response :=
  .job <$> Prog.orRaise (Prog.ask (.enqueue "execute"))

/-- Whether the node has to be removed by a job: it is virtual, or its deployment
    has begun. -/
def needsRemoval (node : Node) (deployJob : Option NodeJob) : Prop :=
  node.deploymentType = some DeploymentTypes.virtual ∨
    ∃ job ∈ deployJob, job.doc.inprogress = true ∨ job.doc.complete = true ∨ job.doc.error = true

instance (node : Node) (deployJob : Option NodeJob) : Decidable (needsRemoval node deployJob) :=
  inferInstanceAs (Decidable (_ ∨ _))

/-- The node and its jobs are deleted at once. -/
def deleteNow (node : Node) : Prog Response := do
  node.delete
  sendNotification
  pure (.message node.hostname)

/-- `NodeCtrl.delete` -/
def delete (hostname : String) : Prog Response := do
  let hostname ← canonicalHostname hostname
  match ← Node.loadFromDbUsingHostname hostname with
  | none => pure (.errorMessage 500 "Node not found.")
  | some node =>
      if node.nodeType = NodeTypes.mip then
        removeNode
      else do
        let deployJob ← NodeJob.loadJobByNode node jobDeploy
        if needsRemoval node deployJob then do
          let apps ← Prog.orRaise (Prog.ask (.getNodeApps node.hostname))
          Program.forEach apps fun _ =>
            discard (Prog.orRaise (Prog.ask (.enqueue "delete_helm_apps")))
          removeNode
        else
          deleteNow node

end NodeCtrl

/-! ## Adding a MIP -/

namespace MipCtrlApi

/-- The payload with its node type replaced. -/
def withType (payload : List (String × Json)) : List (String × Json) :=
  payload.filter (fun entry => entry.1 ≠ "node_type") ++ [("node_type", .str NodeTypes.mip)]

/-- `_add_mip_to_database` -/
def addMipToDatabase (payload : List (String × Json)) : Prog Node := do
  let mip ← Node.load (.obj (withType payload))
  mip.create
  sendNotification
  pure mip

/-- `post_mip` -/
def post (payload : List (String × Json)) : Prog Unit := do
  let mip ← addMipToDatabase payload
  Program.when (mip.deploymentType = some DeploymentTypes.virtual ∨
      mip.deploymentType = some DeploymentTypes.baremetal)
    (discard (Prog.orRaise (Prog.ask (.enqueue "execute"))))

end MipCtrlApi

/-! ## A new control plane -/

/-- `Node.delete_all_from_db` -/
def Node.deleteAllFromDb : Prog Unit := do
  Prog.deleteMany .nodes fun _ _ => true
  generateInventory

namespace ControlPlaneCtrl

def payload (ipAddress : IPv4Address) (macAddress : String) : List (String × Json) :=
  [("hostname", .str "control-plane"), ("node_type", .str NodeTypes.controlPlane),
    ("deployment_type", .str DeploymentTypes.virtual), ("ip_address", .str ipAddress.print),
    ("mac_address", .str macAddress), ("raid0_override", .bool false)]

/-- The address after this one, if there is one. -/
def nextAddress (ip : IPv4Address) : Except PyError IPv4Address :=
  if ip.d.val + 1 < 256 then .ok { ip with d := ip.d + 1 }
  else if ip.c.val + 1 < 256 then .ok { ip with c := ip.c + 1, d := 0 }
  else if ip.b.val + 1 < 256 then .ok { ip with b := ip.b + 1, c := 0, d := 0 }
  else if ip.a.val + 1 < 256 then .ok ⟨ip.a + 1, 0, 0, 0⟩
  else .error (.other "AddressValueError")

/-- `ControlPlaneCtrl.post` inside its `try` -/
def createControlPlane : Prog Unit := do
  Node.deleteAllFromDb
  match ← GeneralSettingsForm.loadFromDb with
  | none =>
      Program.raise (.attributeError "'NoneType' object has no attribute 'controller_interface'")
  | some settings => do
      let ipAddress ← Program.ofExcept (nextAddress settings.controllerInterface)
      let macAddress ← Node.randMac
      let node ← Node.load (.obj (payload ipAddress macAddress))
      let node := { node with hostname := Node.qualify node.hostname settings.domain }
      node.create
      sendNotification

/-- `ControlPlaneCtrl.post` -/
def post : Prog Response := do
  match ← createControlPlane.attempt with
  | .error (.validationError messages) => pure (.invalid messages)
  | .error (.postValidationError messages) => pure (.postValidation messages)
  | .error e =>
      if e = dbModelNotFound then pure (.postValidation [("post_validation", ["DBModelNotFound"])])
      else Program.raise e
  | .ok _ => .job <$> Prog.orRaise (Prog.ask (.enqueue "execute"))

end ControlPlaneCtrl

/-! ## Refreshing the kit -/

/-- What `refresh_kit` does with one node; a sensor is removed by a call of
    `execute`, which leaves the stage at its default. -/
def refreshNode (jobId : String) (polls : Nat) (node : Node) : Prog Unit := do
  if node.nodeType = NodeTypes.sensor then
    discard (NodeService.execute ⟨jobId, .removeNode, jobCreate, node, polls⟩)
  else do
    node.delete
    node.create
    Program.when (node.deploymentType = some DeploymentTypes.baremetal ∨
        node.deploymentType = some DeploymentTypes.virtual)
      (discard (Prog.orRaise (Prog.ask (.enqueue "execute"))))

/-- `refresh_kit` -/
def refreshKit (jobId : String) (polls : Nat) (nodes newControlPlane : List Node) : Prog Unit := do
  Program.forEach nodes (refreshNode jobId polls)
  match newControlPlane with
  | [] => Program.raise .indexError
  | _ :: _ => discard (Prog.orRaise (Prog.ask (.enqueue "execute")))

end Tfplenum
