/-
  Tfplenum.Service.KitRefresh

  `refresh_kit` of `service/node_service.py`: the sensors are removed, each by a
  playbook that is run then and there, the other nodes are deleted and created anew
  with a job for their provisioning, and the control plane is set up at the end.
  Nothing in the loop is caught, so the first exception is the end of it.
-/

import Tfplenum.Lib.History
import Tfplenum.Service.OneOutcome

namespace Tfplenum

open Lib

namespace Playbook

/-! ## Operations -/

inductive RefreshOp where
  /-- a part of an `execute` that is called, or of what else is done for a node -/
  | job (op : ExecOp)
  /-- `execute.delay`, with the stage that it has by default -/
  | delay (execType : ExecType) (node : Node)
  | announce (status message : String)

abbrev RefreshOp.Res : RefreshOp → Type
  | .job op => op.Res
  | .delay _ _ => Except PyError Unit
  | .announce _ _ => Unit

/-- How the calls turn out, with those of the queue. -/
structure RefreshEnv (σ : Type) where
  run : RunEnv σ
  delay : ExecType → Node → σ → Except PyError Unit × σ

variable {σ : Type}

def refreshHandle (env : RefreshEnv σ) : Handler RefreshOp RefreshOp.Res (ExecWorld σ)
  | .job op, w => execHandle env.run op w
  | .delay execType node, w =>
      let (r, s) := env.delay execType node w.inner.env
      (r, { w with inner := { w.inner with env := s } })
  | .announce _ _, w => ((), w)

abbrev RefreshProg (α : Type) : Type := Program RefreshOp RefreshOp.Res PyError α

def called {α : Type} : ExecProg α → RefreshProg α
  | .done a => .done a
  | .raise e => .raise e
  | .call op k => .call (.job op) fun r => called (k r)

def delay (execType : ExecType) (node : Node) : RefreshProg Unit :=
  (Program.perform (.delay execType node)).bind Program.ofExcept

def announce (status message : String) : RefreshProg Unit :=
  .call (.announce status message) .done

/-- `Node.delete` -/
def deleteNode (node : Node) : RunProg Unit := do
  deleteJobs node.id
  ask (.deleteNode node.id)
  ask .generateInventory

/-- `Node.create` -/
def createNode (node : Node) : RunProg Unit := do
  ask (.saveNode node.id)
  if node.nodeType = NodeTypes.sensor ∧ node.deploymentType = some DeploymentTypes.iso then
    saveJob node.id jobCreate .pending
    saveJob node.id jobDeploy .pending
  else
    saveJob node.id jobCreate .pending
    saveJob node.id jobProvision .pending
    saveJob node.id jobDeploy .pending
  ask .generateInventory

end Playbook

/-! ## Refresh -/

open Playbook

/-- Where the backend is installed. -/
structure KitRefresh where
  mipDir : String
  coreDir : String

namespace KitRefresh

/-- `execute(node=node, exec_type=DEPLOYMENT_JOBS.remove_node)` -/
def removal (kit : KitRefresh) (node : Node) : PlaybookRun where
  execType := .removeNode
  stage := jobCreate
  node := .one node
  mipDir := kit.mipDir
  coreDir := kit.coreDir
  polls := 0

/-- One round of the loop. -/
def refreshNode (kit : KitRefresh) (node : Node) : RefreshProg Unit :=
  if node.nodeType = NodeTypes.sensor then
    -- called, not queued: its exception is one of the loop
    (called (kit.removal node).execute).bind fun _ => pure ()
  else do
    called (outside (deleteNode node))
    called (outside (createNode node))
    if node.deploymentType = some DeploymentTypes.baremetal then
      delay .kickstartProfiles node
    else if node.deploymentType = some DeploymentTypes.virtual then
      delay .createVirtual node
    -- the `elif` has no `else`
    else pure ()

/-- `new_control_plane[0]` -/
def startControlPlane : List Node → RefreshProg Unit
  -- the list is subscripted without a look at its length
  | [] => Program.raise .indexError
  | node :: _ => delay .setupControlPlane node

/-- What `refresh_kit` does for the nodes. -/
def refreshNodes (kit : KitRefresh) (nodes : List Node) : RefreshProg Unit := do
  called (outside (ask .pushAppContext))
  announce "STARTED" "Kit Refresh started."
  Program.forEach nodes kit.refreshNode

/-- `refresh_kit` -/
def refreshKit (kit : KitRefresh) (nodes newControlPlane : List Node) : RefreshProg Unit := do
  kit.refreshNodes nodes
  startControlPlane newControlPlane
  announce "COMPLETED" "All refresh jobs started."

end KitRefresh

end Tfplenum
