/-
  Tfplenum.Service.PlaybookRuns

  `execute` of `service/node_service.py`, the job of the queue that runs a playbook
  for a node, for several nodes or for the controller, with `NodeService`, its two
  handlers and what they call.

  Every call that leaves the job may raise; of a job document the model keeps its
  flag.  A run is recorded by the handlers it enters and the notifications it sends.
  Only `execute` and the handlers do the first: what they call is a program of its
  own (`outside`), which cannot.
-/

import Tfplenum.Service.NodeService

namespace Tfplenum

namespace Playbook

open Lib

/-! ## Jobs, outcomes and notifications -/

/-- `DEPLOYMENT_JOBS` -/
inductive ExecType where
  | baseKit | addNode | removeNode | setupControlPlane | kickstartProfiles | setupController
  | setupControllerKitSettings | mipDeploy | createVirtual | provisionVirtual | gatherDeviceFacts
deriving DecidableEq, Repr

/-- `exec_type.value` -/
def ExecType.value : ExecType → String
  | .baseKit => "Base kit"
  | .addNode => "Add Node"
  | .removeNode => "Remove Node"
  | .setupControlPlane => "Setup Control Plane"
  | .kickstartProfiles => "Kickstart Profiles"
  | .setupController => "Setup Controller"
  | .setupControllerKitSettings => "Setup Controller Kit Settings"
  | .mipDeploy => "Deploy MIP"
  | .createVirtual => "Create Virtual Machine"
  | .provisionVirtual => "Provision Virtual Machine"
  | .gatherDeviceFacts => "Gather Device Facts"

/-- Which of `pending`, `inprogress`, `complete` and `error` a job document has set;
    the methods of `NodeJob` set one and clear the others. -/
inductive JobFlag where
  | pending | inprogress | complete | error
deriving DecidableEq, Repr

/-- The two handlers. -/
inductive Outcome where
  | success | failure
deriving DecidableEq, Repr

/-- The flag that `update_job` sets for a handler. -/
def Outcome.flag : Outcome → JobFlag
  | .success => .complete
  | .failure => .error

/-- The status of a handler's notification. -/
def Outcome.status : Outcome → String
  | .success => "COMPLETED"
  | .failure => "ERROR"

/-- A notification that no handler sends, by where it is sent. -/
inductive RunNotice where
  | started (message : String)
  /-- of `gather_device_facts` -/
  | notProvisioned (message : String)
  /-- of `setup_s3_repository` -/
  | repository (status message : String)
  /-- of `setup_s3_repository`, with the text of the exception -/
  | repositoryError (e : PyError)
deriving DecidableEq, Repr

def RunNotice.status : RunNotice → String
  | .started _ => "STARTED"
  | .notProvisioned _ => "ERROR"
  | .repository status _ => status
  | .repositoryError _ => "ERROR"

/-- The statuses of an outcome. -/
def RunNotice.terminal (notice : RunNotice) : Bool :=
  notice.status = Outcome.success.status ∨ notice.status = Outcome.failure.status

/-- The `node` argument of `execute` -/
inductive RunNode where
  | none
  | one (node : Node)
  | many (nodes : List Node)

namespace RunNode

def nodes : RunNode → List Node
  | .none => []
  | .one node => [node]
  | .many nodes => nodes

/-- `if node:` -/
def truthy : RunNode → Bool
  | .none => false
  | .one _ => true
  | .many nodes => !nodes.isEmpty

end RunNode

/-! ## Operations -/

/-- What may raise. -/
inductive RunCall where
  | pushAppContext
  /-- `get_current_job().id` -/
  | currentJobId
  /-- `job.save_meta()` -/
  | saveMeta
  /-- a call to the database on the documents of the jobs -/
  | database
  | sendNotification
  | logToConsole (text : String)
  /-- `GeneralSettingsForm.load_from_db()`, is there one? -/
  | loadGeneralSettings
  | saveGeneralSettings (jobId : Option String) (jobCompleted : Bool)
  /-- `KitSettingsForm.load_from_db()`, by its password -/
  | loadKitSettings
  | saveKitSettings (jobId : Option String) (jobCompleted : Bool)
  | loadMipSettings
  /-- `_generate_inventory` -/
  | generateInventory
  /-- `run_async_command`, answered with the return code -/
  | runCommand (command dir : String)
  /-- the repository settings of a MinIO node, loaded by their schema -/
  | loadRepoSettings (ipAddress password : String)
  /-- connect to MinIO, create the bucket and save the settings -/
  | updateRepository
  /-- `create_device_facts_from_ansible_setup`, answered by whether there are facts -/
  | deviceFacts (host password : String)
  | saveNode (nodeId : String)
  | deleteNode (nodeId : String)
  /-- `get_kit_status()["base_kit_deployed"]` -/
  | baseKitDeployed
  | sleep
  | enqueue (execType : ExecType) (stage : String)
  | enqueueRulesync
deriving DecidableEq

abbrev RunCall.Res : RunCall → Type
  | .currentJobId => String
  | .loadGeneralSettings => Bool
  | .loadKitSettings => Option String
  | .runCommand _ _ => Int
  | .deviceFacts _ _ => Bool
  | .baseKitDeployed => Bool
  | _ => Unit

inductive RunOp where
  /-- `set_and_send`, which does not raise -/
  | notify (notice : RunNotice)
  | loadJob (nodeId name : String)
  | saveJob (nodeId name : String) (flag : JobFlag)
  /-- `mongo_jobs().delete_many({"node_id": ...})` -/
  | deleteJobs (nodeId : String)
  | call (c : RunCall)

abbrev RunOp.Res : RunOp → Type
  | .notify _ => Unit
  | .loadJob _ _ => Except PyError (Option JobFlag)
  | .saveJob _ _ _ => Except PyError Unit
  | .deleteJobs _ => Except PyError Unit
  | .call c => Except PyError c.Res

/-- The jobs, by node and name. -/
abbrev Jobs : Type := String → String → Option JobFlag

def Jobs.set (jobs : Jobs) (nodeId name : String) (flag : JobFlag) : Jobs := fun id n =>
  if id = nodeId ∧ n = name then some flag else jobs id n

def Jobs.delete (jobs : Jobs) (nodeId : String) : Jobs := fun id n =>
  if id = nodeId then none else jobs id n

/-- How the calls turn out; the surroundings have a state of their own. -/
abbrev RunEnv (σ : Type) : Type := (c : RunCall) → σ → Except PyError c.Res × σ

structure RunWorld (σ : Type) where
  jobs : Jobs
  notices : List RunNotice
  env : σ

variable {σ : Type}

/-- A call to the database that raises leaves the documents as they are. -/
def handle (env : RunEnv σ) : Handler RunOp RunOp.Res (RunWorld σ)
  | .notify notice, w => ((), { w with notices := w.notices ++ [notice] })
  | .loadJob nodeId name, w =>
      let (r, s) := env .database w.env
      (r.map fun _ => w.jobs nodeId name, { w with env := s })
  | .saveJob nodeId name flag, w =>
      match env .database w.env with
      | (.ok _, s) => (.ok (), { w with jobs := w.jobs.set nodeId name flag, env := s })
      | (.error e, s) => (.error e, { w with env := s })
  | .deleteJobs nodeId, w =>
      match env .database w.env with
      | (.ok _, s) => (.ok (), { w with jobs := w.jobs.delete nodeId, env := s })
      | (.error e, s) => (.error e, { w with env := s })
  | .call c, w =>
      let (r, s) := env c w.env
      (r, { w with env := s })

abbrev RunProg (α : Type) : Type := Program RunOp RunOp.Res PyError α

def ask (c : RunCall) : RunProg c.Res := (Program.perform (.call c)).bind Program.ofExcept

def notify (notice : RunNotice) : RunProg Unit := .call (.notify notice) .done

/-! ## Job documents -/

/-- `NodeJob.load_job_by_node` and `load_job_by_node_id` -/
def loadJob (nodeId name : String) : RunProg (Option JobFlag) :=
  (Program.perform (.loadJob nodeId name)).bind Program.ofExcept

/-- `set_pending`, `set_inprogress`, `set_complete` and `set_error`, which save the job -/
def saveJob (nodeId name : String) (flag : JobFlag) : RunProg Unit :=
  (Program.perform (.saveJob nodeId name flag)).bind Program.ofExcept

def deleteJobs (nodeId : String) : RunProg Unit :=
  (Program.perform (.deleteJobs nodeId)).bind Program.ofExcept

/-- Another job of the node is set to be pending, if there is one. -/
def resetJob (nodeId name : String) : RunProg Unit := do
  match ← loadJob nodeId name with
  | none => pure ()
  | some _ => saveJob nodeId name .pending

/-- `NodeJob.set_job_state` -/
def setJobState (nodeId name : String) : RunProg Unit := do
  Program.when (name = jobDeploy) (saveJob nodeId name .inprogress)
  Program.when (name = jobProvision ∨ name = jobCreate) (resetJob nodeId jobDeploy)
  Program.when (name = jobProvision) (saveJob nodeId name .inprogress)
  Program.when (name = jobCreate) do
    saveJob nodeId name .inprogress
    resetJob nodeId jobProvision

/-- `NodeJob.create_remove_node_job` -/
def createRemoveNodeJob (nodeId : String) : RunProg Unit := do
  deleteJobs nodeId
  saveJob nodeId jobRemove .inprogress

/-- `update_job` -/
def updateJob (nodeId stage : String) (outcome : Outcome) : RunProg Unit := do
  match ← loadJob nodeId stage with
  | none => pure ()
  | some _ => saveJob nodeId stage outcome.flag

/-! ## Device facts -/

/-- An attribute of a `node` argument that has to be a `Node` -/
def theNode (attr : String) : RunNode → RunProg Node
  | .one node => pure node
  | .none => Program.raise (.attributeError ("'NoneType' object has no attribute '" ++ attr ++ "'"))
  | .many _ => Program.raise (.attributeError ("'list' object has no attribute '" ++ attr ++ "'"))

/-- One poll; whatever goes wrong in it counts as no answer. -/
def tryDeviceFacts (node : Node) : Option String → RunProg Bool
  | none => pure false
  | some password =>
      (ask (.deviceFacts node.ipAddress.print password)).attempt.bind fun
        | .ok found => pure found
        | .error _ => pure false

/-- `execute.delay` for the stage that follows the provisioning of the node. -/
def enqueueDeployment (node : Node) : RunProg Unit :=
  if node.nodeType = NodeTypes.mip then ask (.enqueue .mipDeploy jobDeploy)
  else if node.nodeType = NodeTypes.controlPlane ∧
      node.deploymentType = some DeploymentTypes.baremetal then
    ask (.enqueue .setupControlPlane jobDeploy)
  else do
    let deployed ← ask .baseKitDeployed
    Program.when deployed (ask (.enqueue .addNode jobDeploy))

/-- What `gather_device_facts` does once the machine has answered. -/
def provisioned (node : Node) (hasJob : Bool) : RunProg Unit := do
  ask (.saveNode node.id)
  Program.when hasJob do
    setJobState node.id jobProvision
    saveJob node.id jobProvision .complete
    ask (.logToConsole ("INFO: " ++ node.hostname ++ " successfully provisioned."))
  enqueueDeployment node

/-- The polling loop, which says whether it failed; `polls` is how many polls fit in
    the time there is. -/
def pollDeviceFacts (node : Node) (password : Option String) (hasJob : Bool) : Nat → RunProg Bool
  | 0 => (tryDeviceFacts node password).bind fun
      | true => do
          provisioned node hasJob
          pure false
      | false => do
          ask (.logToConsole (provisioningTimeout node))
          notify (.notProvisioned (provisioningTimeout node))
          Program.when hasJob (saveJob node.id jobProvision .error)
          pure true
  | polls + 1 => (tryDeviceFacts node password).bind fun
      | true => do
          provisioned node hasJob
          pure false
      | false => do
          ask .sleep
          ask (.logToConsole ("INFO: Waiting for node " ++ node.hostname ++ " to provision"))
          pollDeviceFacts node password hasJob polls

/-- `gather_device_facts` up to where it has a notification to send; a time-out of the
    queue finds names that are not bound yet. -/
def beginGathering (node : RunNode) : RunProg (Node × Bool) := do
  let _ ← (ask .currentJobId).tryExcept fun e =>
    Program.raise (if e = jobTimeout then
      .unboundLocalError (if node.truthy then "job" else "node_job") else e)
  let node ← theNode "_id" node
  Program.tryExcept
    (do
      ask .saveMeta
      let nodeJob ← loadJob node.id jobProvision
      Program.when nodeJob.isSome (saveJob node.id jobProvision .inprogress)
      ask .sendNotification
      return (node, nodeJob.isSome))
    fun e => do
      Program.when (e = jobTimeout) do
        ask (.logToConsole (provisioningTimeout node))
        Program.raise (.unboundLocalError "notification")
      Program.raise e

/-- `gather_device_facts` -/
def gatherDeviceFacts (node : RunNode) (password : Option String) (polls : Nat) :
    RunProg Unit := do
  ask .pushAppContext
  let (node, hasJob) ← beginGathering node
  Program.tryExcept
    (do
      let failed ← pollDeviceFacts node password hasJob polls
      ask .sendNotification
      Program.when failed (Program.raise jobFailed))
    fun e => do
      Program.when (e = jobTimeout) do
        ask (.logToConsole (provisioningTimeout node))
        notify (.notProvisioned (provisioningTimeout node))
        Program.when hasJob (saveJob node.id jobProvision .error)
      Program.raise e

/-! ## Handlers -/

/-- What only `execute` and the handlers do. -/
inductive ExecOp where
  /-- a handler is called -/
  | enter (outcome : Outcome)
  /-- the notification of a handler -/
  | report (outcome : Outcome) (message : String)
  | outside (op : RunOp)

abbrev ExecOp.Res : ExecOp → Type
  | .enter _ => Unit
  | .report _ _ => Unit
  | .outside op => op.Res

structure ExecWorld (σ : Type) where
  calls : List Outcome
  reports : List (Outcome × String)
  inner : RunWorld σ

def execHandle (env : RunEnv σ) : Handler ExecOp ExecOp.Res (ExecWorld σ)
  | .enter outcome, w => ((), { w with calls := w.calls ++ [outcome] })
  | .report outcome message, w => ((), { w with reports := w.reports ++ [(outcome, message)] })
  | .outside op, w =>
      let (r, inner) := handle env op w.inner
      (r, { w with inner := inner })

abbrev ExecProg (α : Type) : Type := Program ExecOp ExecOp.Res PyError α

def outside {α : Type} : RunProg α → ExecProg α
  | .done a => .done a
  | .raise e => .raise e
  | .call op k => .call (.outside op) fun r => outside (k r)

end Playbook

/-! ## Node service -/

/-- What `execute` is called with, and where the backend is installed. -/
structure PlaybookRun where
  execType : Playbook.ExecType
  stage : String
  node : Playbook.RunNode
  /-- `str(MIP_DIR)` -/
  mipDir : String
  /-- `str(CORE_DIR)` -/
  coreDir : String
  /-- for the device facts that some jobs gather at their end -/
  polls : Nat

namespace PlaybookRun

open Lib Playbook

variable (run : PlaybookRun)

/-- `job_update` -/
def jobUpdate (node : Node) : RunProg Unit :=
  if run.stage = jobRemove then createRemoveNodeJob node.id
  else do
    match ← loadJob node.id run.stage with
    | none => pure ()
    | some flag => do
        setJobState node.id run.stage
        -- saved once more for its job id and its type
        saveJob node.id run.stage
          (if run.stage ∈ [jobDeploy, jobProvision, jobCreate] then .inprogress else flag)

/-- `update_node_job_state` -/
def updateNodeJobState : RunProg Unit := do
  Program.forEach run.node.nodes run.jobUpdate
  ask .sendNotification

/-- `export ANSIBLE_LOG_PATH=...;ansible-playbook ...` -/
def playbook (log command : String) : String :=
  "export ANSIBLE_LOG_PATH=/var/log/tfplenum/" ++ log ++ ".log;" ++ command

def skipOpenvpn (skip : Bool) : String := if skip then "--skip-tags openvpn" else ""

/-- The command that creates or provisions a virtual machine -/
def virtualCommand (tag : String) : RunProg (Option String) := do
  let node ← theNode "hostname" run.node
  return some (playbook "virtual-node"
    ("ansible-playbook virtual_node_playbook.yml -i inventory -t " ++ tag ++
      "-virtual-machine -i " ++ run.mipDir ++ "/inventory -e node='" ++ node.hostname ++ "'"))

/-- `get_cmd` -/
def getCmd (jobId : String) : RunProg (Option String) := do
  match run.execType with
  | .baseKit =>
      match run.node with
      | .none => Program.raise (.typeError "'NoneType' object is not iterable")
      | .one _ => Program.raise (.typeError "'Node' object is not iterable")
      | .many nodes =>
          return some (playbook "core" ("ansible-playbook site.yml -i inventory " ++
            skipOpenvpn (nodes.any fun n => n.vpnStatus.truthy)))
  | .addNode =>
      let node ← theNode "deployment_type" run.node
      return some (playbook "core"
        ("ansible-playbook add_node.yml -i inventory --limit localhost," ++ node.hostname ++ " " ++
          skipOpenvpn (node.deploymentType = some DeploymentTypes.iso)))
  | .removeNode =>
      let node ← theNode "hostname" run.node
      return some (playbook "remove-node" (" ansible-playbook remove_node.yml -i inventory -i " ++
        run.mipDir ++ "/inventory -e node='" ++ node.hostname ++ "'"))
  | .setupControlPlane =>
      if run.stage = jobDeploy then
        return some (playbook "control-plane"
          "ansible-playbook control_plane_playbook.yml -i inventory -t deploy-control-plane")
      else if run.stage = jobProvision then run.virtualCommand "provision"
      else if run.stage = jobCreate then run.virtualCommand "create"
      else return none
  | .provisionVirtual => run.virtualCommand "provision"
  | .createVirtual => run.virtualCommand "create"
  | .kickstartProfiles =>
      let node ← theNode "hostname" run.node
      return some (playbook "kickstart-profiles"
        ("ansible-playbook kickstart_profiles.yml -i inventory -i " ++ run.mipDir ++
          "/inventory -e node=" ++ node.hostname))
  | .setupController =>
      if ← ask .loadGeneralSettings then
        ask (.saveGeneralSettings (some jobId) false)
        return some (playbook "kit-setting"
          ("ansible-playbook controller_playbook.yml -i inventory -i " ++ run.mipDir ++
            "/inventory"))
      else Program.raise (.attributeError "'NoneType' object has no attribute 'job_id'")
  | .setupControllerKitSettings =>
      match ← ask .loadKitSettings with
      | none => Program.raise (.attributeError "'NoneType' object has no attribute 'job_id'")
      | some _ =>
          ask (.saveKitSettings (some jobId) false)
          ask .generateInventory
          return some (playbook "kit-setting"
            ("ansible-playbook controller_playbook.yml -i inventory -i " ++ run.mipDir ++
              "/inventory -t create-assessor-user,setup_controller_kit_settings"))
  | .mipDeploy =>
      ask .loadMipSettings
      let node ← theNode "hostname" run.node
      return some (playbook "DEPLOYMENT_JOBS.mip_deploy"
        ("ansible-playbook site.yml -i inventory -i " ++ run.coreDir ++
          "/playbooks/inventory/settings.yml --limit localhost," ++ node.hostname ++ " "))
  | .gatherDeviceFacts => return none

/-- The directory the playbook runs in -/
def workingDir : RunProg String :=
  if run.execType = .mipDeploy then do
    let node ← theNode "node_type" run.node
    return if node.nodeType = NodeTypes.mip then run.mipDir else run.coreDir ++ "/playbooks"
  else return run.coreDir ++ "/playbooks"

/-- `_execute_job`; `Popen` takes no `None` for a command. -/
def executeJob (command : Option String) (dir : String) : RunProg Bool :=
  match command with
  | none => Program.raise (.typeError "expected str, bytes or os.PathLike object, not NoneType")
  | some command => do
      let retVal ← ask (.runCommand command dir)
      return retVal = 0

/-- `setup_s3_repository` -/
def setupS3Repository : RunProg Bool := do
  ask .pushAppContext
  notify (.repository "IN_PROGRESS" "Updating the Elastic S3 repository settings.")
  Program.tryExcept
    (do
      ask .updateRepository
      notify (.repository "COMPLETED" "Updated Elastic S3 repository settings.")
      return true)
    fun e => do
      notify (.repositoryError e)
      return false

/-- The bucket of a MinIO node -/
def setUpBucket (node : Node) : RunProg Bool := do
  match ← ask .loadKitSettings with
  | none => Program.raise (.attributeError "'NoneType' object has no attribute 'password'")
  | some password => do
      ask (.loadRepoSettings node.ipAddress.print password)
      ask (.logToConsole "Setting up the S3 bucket.")
      let isSuccessful ← setupS3Repository
      ask (.logToConsole "Completed S3 bucket configuration.")
      return isSuccessful

/-- What has to be done after the playbook of a MinIO node -/
def afterPlaybook (isSuccessful : Bool) : RunProg Bool :=
  match run.node with
  | .one node =>
      if isSuccessful ∧ node.nodeType = NodeTypes.minio ∧ run.stage = jobDeploy then
        setUpBucket node
      else return isSuccessful
  | _ => return isSuccessful

/-- "... on node '...'" -/
def onNode : String :=
  match run.node with
  | .one node => " on node '" ++ node.hostname ++ "'"
  | _ => ""

def startedMessage : String :=
  run.execType.value ++ " " ++ run.stage ++ " job started" ++ run.onNode ++ "."

/-- `msg` of the handlers -/
def handledMessage : Outcome → String
  | .success =>
      run.execType.value ++ " " ++ run.stage ++ " job successfully completed" ++ run.onNode ++ "."
  | .failure => run.execType.value ++ " " ++ run.stage ++ " job failed" ++ run.onNode ++ "."

/-- `execute` from `node_service` to `is_successful` -/
def prepare (jobId : String) : RunProg Bool := do
  Program.when run.node.truthy run.updateNodeJobState
  notify (.started run.startedMessage)
  let command ← run.getCmd jobId
  let dir ← run.workingDir
  let isSuccessful ← executeJob command dir
  run.afterPlaybook isSuccessful

/-- `update_job` for each node -/
def updateJobs (outcome : Outcome) : RunProg Unit :=
  Program.forEach run.node.nodes fun node => Playbook.updateJob node.id run.stage outcome

/-- What the handlers have in common -/
def handled (outcome : Outcome) : ExecProg Unit := do
  Program.call (.enter outcome) .done
  outside (run.updateJobs outcome)
  Program.call (.report outcome (run.handledMessage outcome)) .done

/-- The job queued or run next, by type and stage -/
def continueWith : RunProg Unit := do
  match run.execType with
  | .setupControlPlane =>
      Program.when (run.stage = jobCreate) (ask (.enqueue run.execType jobProvision))
      Program.when (run.stage = jobProvision) do
        let password ← ask .loadKitSettings
        Playbook.gatherDeviceFacts run.node password run.polls
        ask (.enqueue run.execType jobDeploy)
  | .kickstartProfiles => discard (ask .loadKitSettings)
  | .removeNode =>
      let node ← theNode "delete" run.node
      deleteJobs node.id
      ask (.deleteNode node.id)
      ask .generateInventory
      Program.when (node.nodeType = NodeTypes.sensor) (ask .enqueueRulesync)
  | .setupController =>
      if ← ask .loadGeneralSettings then ask (.saveGeneralSettings none true)
      else Program.raise (.attributeError "'NoneType' object has no attribute 'job_completed'")
  | .setupControllerKitSettings =>
      match ← ask .loadKitSettings with
      | none => Program.raise (.attributeError "'NoneType' object has no attribute 'job_completed'")
      | some _ => ask (.saveKitSettings none true)
  | .createVirtual => ask (.enqueue .provisionVirtual jobProvision)
  | .provisionVirtual =>
      let password ← ask .loadKitSettings
      Playbook.gatherDeviceFacts run.node password run.polls
  | .baseKit | .addNode | .mipDeploy | .gatherDeviceFacts => pure ()

/-- `handle_success` -/
def handleSuccess : ExecProg Unit := do
  run.handled .success
  outside run.continueWith

/-- `handle_failure` -/
def handleFailure : ExecProg Unit := run.handled .failure

/-- The `try` block of `execute` from `node_service` on -/
def body (jobId : String) : ExecProg Bool := do
  let isSuccessful ← outside (run.prepare jobId)
  Program.when isSuccessful run.handleSuccess
  Program.when (¬isSuccessful) run.handleFailure
  outside (ask .sendNotification)
  if isSuccessful then pure true else Program.raise jobFailed

/-- What comes before `node_service`; without it the `except` block raises. -/
def beginRun : RunProg String := do
  ask .pushAppContext
  (ask .currentJobId).tryExcept fun _ => Program.raise (.unboundLocalError "node_service")

/-- The `except` block of `execute` -/
def onException (e : PyError) : ExecProg Bool := do
  run.handleFailure
  outside (ask (.logToConsole "An exception occurred"))
  Program.raise e

/-- `execute` -/
def execute : ExecProg Bool := do
  let jobId ← outside beginRun
  (run.body jobId).tryExcept run.onException

end PlaybookRun

end Tfplenum
