/-
  Tfplenum.Service.NodeService

  `service/node_service.py`: the status of the kit, the notification that carries
  it with all nodes and jobs, and the jobs of the queue that work on one node.
  A queued job gets its `Node` argument as it was when the job was queued.

  `gather_device_facts` polls the machine until it answers or 90 minutes have
  passed; `polls` is how many polls fit in that time.
-/

import Tfplenum.Models.Nodes

namespace Tfplenum

open Lib

/-! ## Status and notification -/

structure KitStatus where
  controlPlaneDeployed : Bool
  generalSettingsConfigured : Bool
  kitSettingsConfigured : Bool
  esxiSettingsConfigured : Bool
  readyToDeploy : Bool
  baseKitDeployed : Bool
  jobsRunning : Bool
  deployKitRunning : Bool

/-- The local counters of `get_kit_status`. -/
structure KitCounters where
  controlPlaneDeployed : Bool
  deployKitRunning : Bool
  serversProvisioned : Nat
  serversDeployed : Nat
  jobsInprogress : Nat
  jobsPending : Nat

namespace KitCounters

def zero : KitCounters := ⟨false, false, 0, 0, 0, 0⟩

/-- One turn of the inner loop. -/
def count (node : Node) (c : KitCounters) (job : JobDoc) : KitCounters :=
  let c :=
    if job.execType = some "DEPLOYMENT_JOBS.base_kit" then
      { c with deployKitRunning := !(job.complete || job.error) }
    else c
  let isServer := node.nodeType = NodeTypes.server
  if job.name = jobDeploy then
    { c with
      controlPlaneDeployed :=
        c.controlPlaneDeployed || (node.nodeType = NodeTypes.controlPlane && job.complete)
      serversDeployed := c.serversDeployed + if isServer && job.complete then 1 else 0
      jobsInprogress := c.jobsInprogress + if !job.complete && job.inprogress then 1 else 0 }
  else if job.name = jobProvision then
    { c with
      serversProvisioned := c.serversProvisioned + if isServer && job.complete then 1 else 0
      jobsInprogress := c.jobsInprogress + if !job.complete && job.inprogress then 1 else 0
      jobsPending :=
        c.jobsPending + if !job.complete && !job.inprogress && job.pending then 1 else 0 }
  else c

def ofNodes (nodes : List Node) (jobs : List NodeJob) : KitCounters :=
  nodes.foldl (fun c node =>
    (jobs.filter fun job => job.doc.nodeId = node.id).foldl (fun c job => count node c job.doc) c)
    zero

end KitCounters

def getKitStatus : Prog KitStatus := do
  let settings ← GeneralSettingsForm.loadFromDb
  let kitSettings ← Prog.orRaise (Prog.ask .loadKitSettings)
  let esxiSettings ← Prog.orRaise (Prog.ask .loadEsxiSettings)
  let nodes ← Node.loadDipNodesFromDb
  let jobs ← NodeJob.loadAllJobs
  let c := KitCounters.ofNodes nodes jobs
  let general := settings.any fun form => form.jobCompleted = some true
  let kit := kitSettings.any fun form => form.jobCompleted
  let configured := c.controlPlaneDeployed && general && kit && esxiSettings
  return {
    controlPlaneDeployed := c.controlPlaneDeployed
    generalSettingsConfigured := general
    kitSettingsConfigured := kit
    esxiSettingsConfigured := esxiSettings
    readyToDeploy := configured && 2 ≤ c.serversProvisioned && c.jobsInprogress = 0 &&
      c.jobsPending = 0
    baseKitDeployed := configured && 2 ≤ c.serversDeployed
    jobsRunning := 0 < c.jobsInprogress
    deployKitRunning := c.deployKitRunning }

def getAllNodesWithJobs : Prog (List (Node × List NodeJob)) := do
  let nodes ← Node.loadAllFromDb
  Program.mapEach nodes fun node => do
    return (node, ← NodeJob.loadJobsByNode node)

def sendNotification : Prog Unit := do
  let _ ← getKitStatus
  let _ ← getAllNodesWithJobs
  Prog.orRaise (Prog.ask (.emit "kit-status-change"))
  Prog.orRaise (Prog.ask (.emit "node-state-change"))

/-! ## Device facts -/

/-- `update_device_facts_job`; an exception of any kind makes it return false. -/
def updateDeviceFactsJob (node : Node) (password : String) : Prog Bool :=
  Program.tryExcept
    (do
      match ← Prog.orRaise (Prog.ask (.ansibleSetup node.ipAddress.print password)) with
      | none => pure true
      | some facts => do
          Node.saveToDb { node with deviceFacts := facts }
          pure true)
    fun _ => pure false

/-- `execute.delay` for the stage that follows the provisioning of the node. -/
def enqueueDeployment (node : Node) : Prog Unit := do
  if node.nodeType = NodeTypes.mip then
    discard (Prog.orRaise (Prog.ask (.enqueue "execute")))
  else if node.nodeType = NodeTypes.controlPlane ∧
      node.deploymentType = some DeploymentTypes.baremetal then
    discard (Prog.orRaise (Prog.ask (.enqueue "execute")))
  else
    let status ← getKitStatus
    Program.when status.baseKitDeployed (discard (Prog.orRaise (Prog.ask (.enqueue "execute"))))

def completeJob (nodeJob : Option NodeJob) : Prog Unit :=
  match nodeJob with
  | none => pure ()
  | some job => do
      let job ← job.setJobState none
      discard job.setComplete

/-- What `gather_device_facts` does once the machine has answered. -/
def provisioned (node : Node) (nodeJob : Option NodeJob) (facts : List (String × Json)) :
    Prog Unit := do
  let node := { node with deviceFacts := facts }
  node.saveToDb
  completeJob nodeJob
  enqueueDeployment node

def provisioningTimeout (node : Node) : String :=
  "ERROR: Unable to find " ++ node.hostname ++ " provisioning timeout."

/-- One poll; whatever goes wrong in it counts as no answer. -/
def tryDeviceFacts (node : Node) : Option String → Prog (Option (List (String × Json)))
  | none => pure none
  | some password => do
      match ← Prog.ask (.ansibleSetup node.ipAddress.print password) with
      | .ok facts => pure facts
      | .error _ => pure none

def setJobError (nodeJob : Option NodeJob) (message : String) : Prog Unit :=
  match nodeJob with
  | none => pure ()
  | some job => discard (job.setError (some message))

/-- The polling loop, which says whether it failed. -/
def pollDeviceFacts (node : Node) (password : Option String) (nodeJob : Option NodeJob) :
    Nat → Prog Bool
  | 0 => (tryDeviceFacts node password).bind fun
      | some facts => do
          provisioned node nodeJob facts
          pure false
      | none => do
          setJobError nodeJob (provisioningTimeout node)
          pure true
  | polls + 1 => (tryDeviceFacts node password).bind fun
      | some facts => do
          provisioned node nodeJob facts
          pure false
      | none => do
          Prog.orRaise (Prog.ask (.sleep 10))
          pollDeviceFacts node password nodeJob polls

/-- `JobTimeoutException`, by which the queue ends a job that takes too long. -/
def jobTimeout : PyError := .other "JobTimeoutException"

def jobFailed : PyError := .other "JobFailed"

/-- The provision job of the node, set to be in progress, if there is one. -/
def loadProvisionJob (node : Node) (jobId : String) : Prog (Option NodeJob) := do
  match ← NodeJob.loadJobByNode node jobProvision with
  | none => pure none
  | some job => some <$> job.setInprogress (some jobId)

/-- `gather_device_facts`; the time-out of the queue is the one exception it
    handles, with the job as it was last saved. -/
def gatherDeviceFacts (node : Node) (password : Option String) (jobId : String) (polls : Nat) :
    Prog Bool := do
  let nodeJob ← loadProvisionJob node jobId
  Program.tryExcept
    (do
      sendNotification
      let failed ← pollDeviceFacts node password nodeJob polls
      sendNotification
      if failed then Program.raise jobFailed else pure true)
    fun e => do
      Program.when (e = jobTimeout) (setJobError nodeJob (provisioningTimeout node))
      Program.raise e

/-! ## Deployment jobs -/

/-- `DEPLOYMENT_JOBS`, those that work on one node. -/
inductive DeploymentJob where
  | addNode | removeNode | setupControlPlane | kickstartProfiles | mipDeploy
  | createVirtual | provisionVirtual
deriving DecidableEq, Repr

/-- `str(exec_type)`, which is what a job document gets. -/
def DeploymentJob.str : DeploymentJob → String
  | .addNode => "DEPLOYMENT_JOBS.add_node"
  | .removeNode => "DEPLOYMENT_JOBS.remove_node"
  | .setupControlPlane => "DEPLOYMENT_JOBS.setup_control_plane"
  | .kickstartProfiles => "DEPLOYMENT_JOBS.kickstart_profiles"
  | .mipDeploy => "DEPLOYMENT_JOBS.mip_deploy"
  | .createVirtual => "DEPLOYMENT_JOBS.create_virtual"
  | .provisionVirtual => "DEPLOYMENT_JOBS.provision_virtual"

/-- What `execute` is called with for a single node. -/
structure NodeService where
  jobId : String
  execType : DeploymentJob
  stage : String
  node : Node
  /-- for the device facts that some jobs gather at their end -/
  polls : Nat

/-- `update_job`, called from `handle_success` or `handle_failure` -/
def updateJob (node : Node) (stage : String) (success : Bool) : Prog Unit := do
  match ← NodeJob.loadJobByNode node stage with
  | none => pure ()
  | some job =>
      if success then discard job.setComplete
      else discard (job.setError (some "Something broke check the logs."))

namespace NodeService

/-- The kit settings, of which `gather_device_facts` needs the password. -/
def loadKitPassword : Prog (Option String) := do
  let settings ← Prog.orRaise (Prog.ask .loadKitSettings)
  return settings.map KitSettings.password

def jobUpdate (s : NodeService) : Prog Unit := do
  if s.stage = jobRemove then
    NodeJob.createRemoveNodeJob s.node s.jobId
  else
    match ← NodeJob.loadJobByNode s.node s.stage with
    | none => pure ()
    | some job =>
        let job ← job.setJobState (some s.jobId)
        NodeJob.saveToDb ⟨job.id, { job.doc with execType := some s.execType.str }⟩

def updateNodeJobState (s : NodeService) : Prog Unit := do
  s.jobUpdate
  sendNotification

/-- The job queued or run next, by type and stage. -/
def continueWith (s : NodeService) : Prog Unit := do
  match s.execType with
  | .setupControlPlane =>
      Program.when (s.stage = jobCreate) (discard (Prog.orRaise (Prog.ask (.enqueue "execute"))))
      Program.when (s.stage = jobProvision) do
        let password ← loadKitPassword
        discard (gatherDeviceFacts s.node password s.jobId s.polls)
        discard (Prog.orRaise (Prog.ask (.enqueue "execute")))
  | .kickstartProfiles => discard (Prog.orRaise (Prog.ask .loadKitSettings))
  | .removeNode =>
      s.node.delete
      Program.when (s.node.nodeType = NodeTypes.sensor)
        (discard (Prog.orRaise (Prog.ask (.enqueue "perform_rulesync"))))
  | .createVirtual => discard (Prog.orRaise (Prog.ask (.enqueue "execute")))
  | .provisionVirtual =>
      let password ← loadKitPassword
      discard (gatherDeviceFacts s.node password s.jobId s.polls)
  | .addNode | .mipDeploy => pure ()

def handleSuccess (s : NodeService) : Prog Unit := do
  updateJob s.node s.stage true
  s.continueWith

def handleFailure (s : NodeService) : Prog Unit :=
  updateJob s.node s.stage false

/-- Run the playbook, and for a MinIO node set up its bucket after it. -/
def executeJob (s : NodeService) : Prog Bool := do
  let isSuccessful ←
    Prog.orRaise (Prog.ask (.asyncJob s.execType.str s.stage s.node.hostname))
  if isSuccessful ∧ s.node.nodeType = NodeTypes.minio ∧ s.stage = jobDeploy then
    Prog.orRaise (Prog.ask (.setupS3Repository s.node.hostname))
  else
    pure isSuccessful

/-- The body of `execute` inside its `try`. -/
def body (s : NodeService) : Prog Bool := do
  s.updateNodeJobState
  let isSuccessful ← s.executeJob
  Program.when isSuccessful s.handleSuccess
  Program.when (¬isSuccessful) s.handleFailure
  sendNotification
  if isSuccessful then pure true else Program.raise jobFailed

/-- `execute` -/
def execute (s : NodeService) : Prog Bool :=
  s.body.tryExcept fun e => do
    s.handleFailure
    Program.raise e

end NodeService

end Tfplenum
