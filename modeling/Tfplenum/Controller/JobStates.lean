/-
  Tfplenum.Controller.JobStates

  Every stored job is in exactly one of its four states.  The setters write all
  four flags, so whatever they save is in one state, be the copy in memory as
  stale as it may; a job that is saved otherwise is saved as it was loaded, apart
  from its execution type.  Each program therefore keeps the fact at each of its
  operations, whatever others that keep it do in between.
-/

import Tfplenum.Controller.KitController
import Tfplenum.Controller.NodeInFlight
import Tfplenum.Service.JobService

namespace Tfplenum

open Lib Program

/-- The number of flags that are set. -/
def JobDoc.flags (doc : JobDoc) : Nat :=
  [doc.pending, doc.inprogress, doc.complete, doc.error].count true

/-- Exactly one flag is set. -/
def JobDoc.OneState (doc : JobDoc) : Prop := doc.flags = 1

/-- Every stored job is in exactly one state. -/
def JobsInOneState (w : World) : Prop :=
  ∀ id job, (w.db .jobs).get? id = some job → job.OneState

/-! ## The setters -/

theorem oneState_pendingDoc (doc : JobDoc) : (NodeJob.pendingDoc doc).OneState := rfl

theorem oneState_inprogressDoc (jobId : Option String) (doc : JobDoc) :
    (NodeJob.inprogressDoc jobId doc).OneState := rfl

theorem oneState_completeDoc (doc : JobDoc) : (NodeJob.completeDoc doc).OneState := rfl

theorem oneState_errorDoc (message : Option String) (doc : JobDoc) :
    (NodeJob.errorDoc message doc).OneState := rfl

section Keeps

variable {env : Environment} {α : Type}

/-! ## Operations -/

/-- The program keeps every stored job in one state, and returns a value in `Q`. -/
abbrev KeepsOne (env : Environment) (p : Prog α) (Q : α → Prop) : Prop :=
  p.Keeps (handle env) JobsInOneState Q

theorem keepsOne_of_readsOnly {p : Prog α} (hp : p.Uses Op.readsOnly) :
    KeepsOne env p fun _ => True := by
  refine Keeps.of_uses hp ?_
  intro op w hop hw id job hget
  rw [db_of_readsOnly hop] at hget
  exact hw id job hget

/-- What happens in another collection does not concern the jobs. -/
theorem keepsOne_of_ne (op : DocOp Doc) (hop : op.collection ≠ .jobs) :
    KeepsOne env (Program.perform (Op.db op)) fun _ => True := by
  refine .call ?_ fun _ _ => .done trivial
  intro w hw id job hget
  rw [db_of_ne env w op hop] at hget
  exact hw id job hget

/-- Deleting jobs leaves those that stay as they are. -/
theorem keepsOne_deleteJobs (q : String → JobDoc → Bool) :
    KeepsOne env (Prog.deleteMany .jobs q) fun _ => True := by
  refine .call ?_ fun _ _ => .done trivial
  intro w hw id job hget
  rw [db_deleteMany, Table.get?_remove, Option.filter_eq_some_iff] at hget
  exact hw id job hget.1

theorem keepsOne_saveToDb {job : NodeJob} (hjob : job.doc.OneState) :
    KeepsOne env job.saveToDb fun _ => True := by
  refine .call ?_ fun _ _ => .done trivial
  intro w hw id doc hget
  rw [db_replaceOne, Table.get?_upsert] at hget
  split at hget
  · -- the job that was just saved
    cases hget
    exact hjob
  · exact hw id doc hget

/-- A setter saves a job that is in one state and hands it out. -/
theorem keepsOne_setter {job : NodeJob} (hjob : job.doc.OneState) :
    KeepsOne env (do job.saveToDb; return job) fun job => job.doc.OneState :=
  (keepsOne_saveToDb hjob).bind fun _ _ => .done hjob

theorem keepsOne_setterUnit {job : NodeJob} (hjob : job.doc.OneState) :
    KeepsOne env (discard (do job.saveToDb; return job) : Prog Unit) fun _ => True :=
  UsesWhile.bind (keepsOne_setter hjob) fun _ _ => .done trivial

theorem keepsOne_init {doc : JobDoc} (hdoc : doc.OneState) :
    KeepsOne env (NodeJob.init doc) fun job => job.doc.OneState :=
  .call (fun _ hw => hw) fun _ _ => .done hdoc

theorem keepsOne_initPending (node : Node) (description name : String) :
    KeepsOne env (NodeJob.initPending node description name) fun job => job.doc.OneState := by
  unfold NodeJob.initPending
  refine keepsOne_init ?_
  rfl

/-- What a query finds is in one state. -/
theorem keepsOne_findJob (q : String → JobDoc → Bool) :
    KeepsOne env (Prog.findOne .jobs q) fun o => ∀ row ∈ o, row.2.OneState := by
  refine .call (fun w hw => hw) ?_
  intro w hw
  refine .done ?_
  intro row hrow
  have hfound : (w.db .jobs).findOne q = some row := hrow
  exact hw row.1 row.2 (Table.findOne_eq_some hfound).1

theorem keepsOne_loadJobByNodeId (nodeId jobName : String) :
    KeepsOne env (NodeJob.loadJobByNodeId nodeId jobName) fun o =>
      ∀ job ∈ o, job.doc.OneState := by
  refine (keepsOne_findJob _).bind fun o ho => ?_
  cases o with
  | none =>
      refine .done ?_
      intro job hjob
      cases hjob
  | some row =>
      refine .done ?_
      intro job hjob
      cases hjob
      exact ho row rfl

theorem keepsOne_loadJobsByJobId (jobId : String) :
    KeepsOne env (NodeJob.loadJobsByJobId jobId) fun _ => True := by
  refine (keepsOne_findJob _).bind fun o _ => ?_
  cases o with
  | none => exact .done trivial
  | some row => exact .done trivial

/-! ## Jobs -/

theorem keepsOne_setOtherPending (nodeId jobName : String) :
    KeepsOne env (NodeJob.setOtherPending nodeId jobName) fun _ => True := by
  refine (keepsOne_loadJobByNodeId _ _).bind fun o _ => ?_
  cases o with
  | none => exact .done trivial
  | some job => exact keepsOne_setterUnit (oneState_pendingDoc job.doc)

theorem keepsOne_when {c : Prop} [Decidable c] {p : Prog Unit}
    (hp : KeepsOne env p fun _ => True) : KeepsOne env (Program.when c p) fun _ => True := by
  unfold Program.when
  split
  · exact hp
  · exact .done trivial

theorem keepsOne_setJobState {job : NodeJob} (hjob : job.doc.OneState) (jobId : Option String) :
    KeepsOne env (job.setJobState jobId) fun job => job.doc.OneState := by
  -- each part of the function sets the job in progress or leaves it as it is
  have hset (c : Prop) [Decidable c] {job : NodeJob} (hjob : job.doc.OneState) :
      KeepsOne env (if c then NodeJob.setInprogress job jobId else pure job)
        fun job => job.doc.OneState := by
    split
    · exact keepsOne_setter (oneState_inprogressDoc jobId job.doc)
    · exact .done hjob
  have hother (nodeId jobName : String) :
      KeepsOne env (NodeJob.setOtherPending nodeId jobName) fun _ => True :=
    keepsOne_setOtherPending nodeId jobName
  refine (hset _ hjob).bind fun job hjob => ?_
  refine UsesWhile.bind (keepsOne_when (hother _ _)) fun _ _ => ?_
  refine (hset _ hjob).bind fun job hjob => (hset _ hjob).bind fun job hjob => ?_
  exact UsesWhile.bind (keepsOne_when (hother _ _)) fun _ _ => .done hjob

theorem keepsOne_setJobError (nodeJob : Option NodeJob) (message : String) :
    KeepsOne env (setJobError nodeJob message) fun _ => True := by
  cases nodeJob with
  | none => exact .done trivial
  | some job => exact keepsOne_setterUnit (oneState_errorDoc _ job.doc)

theorem keepsOne_updateJob (node : Node) (stage : String) (success : Bool) :
    KeepsOne env (updateJob node stage success) fun _ => True := by
  refine (keepsOne_loadJobByNodeId _ _).bind fun o _ => ?_
  cases o with
  | none => exact .done trivial
  | some job =>
      dsimp only
      split
      · exact keepsOne_setterUnit (oneState_completeDoc job.doc)
      · exact keepsOne_setterUnit (oneState_errorDoc _ job.doc)

theorem keepsOne_createRemoveNodeJob (node : Node) (jobId : String) :
    KeepsOne env (NodeJob.createRemoveNodeJob node jobId) fun _ => True := by
  refine (keepsOne_deleteJobs _).bind fun _ _ => ?_
  refine UsesWhile.bind (keepsOne_init ?_) fun job hjob => ?_
  · rfl
  · exact keepsOne_saveToDb hjob

theorem keepsOne_createJobs (node : Node) : KeepsOne env node.createJobs fun _ => True := by
  have hinit (description name : String) :
      KeepsOne env (NodeJob.initPending node description name) fun job => job.doc.OneState :=
    keepsOne_initPending node description name
  unfold Node.createJobs
  split
  · refine (hinit _ _).bind fun createdjob hcreated => (hinit _ _).bind fun deployjob hdeploy => ?_
    exact (keepsOne_saveToDb hcreated).bind fun _ _ => keepsOne_saveToDb hdeploy
  · refine (hinit _ _).bind fun createdjob hcreated =>
      (hinit _ _).bind fun installjob hinstall => ?_
    refine (hinit _ _).bind fun deployjob hdeploy => ?_
    refine (keepsOne_saveToDb hcreated).bind fun _ _ => ?_
    exact (keepsOne_saveToDb hinstall).bind fun _ _ => keepsOne_saveToDb hdeploy

/-! ## Nodes -/

theorem keepsOne_generateInventory : KeepsOne env generateInventory fun _ => True :=
  keepsOne_of_readsOnly readsOnly_generateInventory

theorem keepsOne_sendNotification : KeepsOne env sendNotification fun _ => True :=
  keepsOne_of_readsOnly readsOnly_sendNotification

theorem keepsOne_enqueue (function : String) :
    KeepsOne env (discard (Prog.orRaise (Prog.ask (.enqueue function))) : Prog Unit)
      fun _ => True :=
  keepsOne_of_readsOnly (readsOnly_enqueue function)

theorem keepsOne_ask {β : Type} {p : Prog (Except PyError β)} (hp : p.Uses Op.readsOnly) :
    KeepsOne env (Prog.orRaise p) fun _ => True :=
  keepsOne_of_readsOnly (Prog.uses_orRaise hp)

theorem keepsOne_ofExcept {β : Type} (r : Except PyError β) :
    KeepsOne env (Program.ofExcept r) fun _ => True :=
  .ofExcept fun _ _ => trivial

theorem keepsOne_saveNode (node : Node) : KeepsOne env node.saveToDb fun _ => True := by
  have hne : Collection.nodes ≠ .jobs := by decide
  refine (keepsOne_ofExcept _).bind fun doc _ => ?_
  refine UsesWhile.bind (keepsOne_of_ne (.replaceOne .nodes node.id doc) hne) fun _ _ => ?_
  exact keepsOne_generateInventory

theorem keepsOne_create (node : Node) : KeepsOne env node.create fun _ => True := by
  have hne : Collection.nodes ≠ .jobs := by decide
  refine (keepsOne_ofExcept _).bind fun doc _ => ?_
  refine UsesWhile.bind (keepsOne_of_ne (.replaceOne .nodes node.id doc) hne) fun _ _ => ?_
  refine (keepsOne_of_readsOnly (Node.readsOnly_loadDoc _)).bind fun created _ => ?_
  exact (keepsOne_createJobs created).bind fun _ _ => keepsOne_generateInventory

theorem keepsOne_delete (node : Node) : KeepsOne env node.delete fun _ => True := by
  have hne : Collection.nodes ≠ .jobs := by decide
  have hnode : KeepsOne env (discard (Prog.deleteOne .nodes node.id) : Prog Unit) fun _ => True :=
    UsesWhile.bind (keepsOne_of_ne (.deleteOne .nodes node.id) hne) fun _ _ => .done trivial
  refine (keepsOne_deleteJobs _).bind fun _ _ => ?_
  exact hnode.bind fun _ _ => keepsOne_generateInventory

theorem keepsOne_deleteAll : KeepsOne env Node.deleteAllFromDb fun _ => True := by
  have hne : Collection.nodes ≠ .jobs := by decide
  refine UsesWhile.bind (keepsOne_of_ne (.deleteMany .nodes fun _ _ => true) hne) fun _ _ => ?_
  exact keepsOne_generateInventory

/-! ## Device facts -/

theorem keepsOne_completeJob {nodeJob : Option NodeJob} (hjob : ∀ job ∈ nodeJob, job.doc.OneState) :
    KeepsOne env (completeJob nodeJob) fun _ => True := by
  cases nodeJob with
  | none => exact .done trivial
  | some job =>
      refine (keepsOne_setJobState (hjob job rfl) none).bind fun job _ => ?_
      exact keepsOne_setterUnit (oneState_completeDoc job.doc)

theorem keepsOne_provisioned (node : Node) {nodeJob : Option NodeJob}
    (hjob : ∀ job ∈ nodeJob, job.doc.OneState) (facts : List (String × Json)) :
    KeepsOne env (provisioned node nodeJob facts) fun _ => True := by
  refine (keepsOne_saveNode _).bind fun _ _ => (keepsOne_completeJob hjob).bind fun _ _ => ?_
  exact keepsOne_of_readsOnly (readsOnly_enqueueDeployment _)

theorem keepsOne_pollDeviceFacts (node : Node) (password : Option String) {nodeJob : Option NodeJob}
    (hjob : ∀ job ∈ nodeJob, job.doc.OneState) (polls : Nat) :
    KeepsOne env (pollDeviceFacts node password nodeJob polls) fun _ => True := by
  have htry : KeepsOne env (tryDeviceFacts node password) fun _ => True :=
    keepsOne_of_readsOnly (readsOnly_tryDeviceFacts node password)
  have hfound (facts : List (String × Json)) :
      KeepsOne env (do provisioned node nodeJob facts; pure false : Prog Bool) fun _ => True :=
    (keepsOne_provisioned node hjob facts).bind fun _ _ => .done trivial
  induction polls with
  | zero =>
      refine htry.bind fun o _ => ?_
      cases o with
      | none => exact (keepsOne_setJobError nodeJob _).bind fun _ _ => .done trivial
      | some facts => exact hfound facts
  | succ polls ih =>
      refine htry.bind fun o _ => ?_
      cases o with
      | none => exact (keepsOne_ask (Prog.readsOnly_ask _)).bind fun _ _ => ih
      | some facts => exact hfound facts

theorem keepsOne_gatherDeviceFacts (node : Node) (password : Option String) (jobId : String)
    (polls : Nat) : KeepsOne env (gatherDeviceFacts node password jobId polls) fun _ => True := by
  have hload : KeepsOne env (loadProvisionJob node jobId) fun o =>
      ∀ job ∈ o, job.doc.OneState := by
    refine (keepsOne_loadJobByNodeId _ _).bind fun o _ => ?_
    cases o with
    | none =>
        refine .done ?_
        intro job hjob
        cases hjob
    | some job =>
        refine UsesWhile.bind (keepsOne_setter (oneState_inprogressDoc _ job.doc)) ?_
        intro job hjob
        refine .done ?_
        intro job' hjob'
        cases hjob'
        exact hjob
  refine hload.bind fun nodeJob hjob => UsesWhile.tryExcept ?_ fun e => ?_
  · refine keepsOne_sendNotification.bind fun _ _ => ?_
    refine (keepsOne_pollDeviceFacts node password hjob polls).bind fun failed _ => ?_
    refine keepsOne_sendNotification.bind fun _ _ => ?_
    split
    · exact .raise _
    · exact .done trivial
  · refine UsesWhile.bind (keepsOne_when (keepsOne_setJobError _ _)) ?_
    intro _ _
    exact .raise _

/-! ## Playbooks -/

theorem keepsOne_jobUpdate (s : NodeService) : KeepsOne env s.jobUpdate fun _ => True := by
  unfold NodeService.jobUpdate
  split
  · exact keepsOne_createRemoveNodeJob _ _
  · refine (keepsOne_loadJobByNodeId _ _).bind fun o ho => ?_
    cases o with
    | none => exact .done trivial
    | some job =>
        refine (keepsOne_setJobState (ho job rfl) _).bind fun job hjob => ?_
        exact keepsOne_saveToDb hjob

theorem keepsOne_continueWith (s : NodeService) : KeepsOne env s.continueWith fun _ => True := by
  have hpassword : KeepsOne env NodeService.loadKitPassword fun _ => True :=
    keepsOne_of_readsOnly ((Prog.uses_orRaise (Prog.readsOnly_ask _)).bind fun _ => .done _)
  have hgather (password : Option String) :
      KeepsOne env (discard (gatherDeviceFacts s.node password s.jobId s.polls) : Prog Unit)
        fun _ => True :=
    UsesWhile.bind (keepsOne_gatherDeviceFacts _ _ _ _) fun _ _ => .done trivial
  unfold NodeService.continueWith
  split
  · refine UsesWhile.bind (keepsOne_when (keepsOne_enqueue _)) fun _ _ => keepsOne_when ?_
    exact hpassword.bind fun password _ => (hgather password).bind fun _ _ => keepsOne_enqueue _
  · exact UsesWhile.bind (keepsOne_ask (Prog.readsOnly_ask _)) fun _ _ => .done trivial
  · exact (keepsOne_delete _).bind fun _ _ => keepsOne_when (keepsOne_enqueue _)
  · exact keepsOne_enqueue _
  · exact hpassword.bind fun password _ => hgather password
  · exact .done trivial
  · exact .done trivial

theorem keepsOne_execute (s : NodeService) : KeepsOne env s.execute fun _ => True := by
  have hfail : KeepsOne env s.handleFailure fun _ => True := keepsOne_updateJob _ _ _
  refine UsesWhile.tryExcept ?_ fun e => hfail.bind fun _ _ => .raise e
  refine UsesWhile.bind ((keepsOne_jobUpdate s).bind fun _ _ => keepsOne_sendNotification) ?_
  intro _ _
  refine (keepsOne_of_readsOnly s.readsOnly_executeJob).bind fun ok _ => ?_
  refine UsesWhile.bind (keepsOne_when ?_) fun _ _ => ?_
  · exact (keepsOne_updateJob _ _ _).bind fun _ _ => keepsOne_continueWith s
  · refine UsesWhile.bind (keepsOne_when hfail) fun _ _ => ?_
    refine keepsOne_sendNotification.bind fun _ _ => ?_
    split
    · exact .done trivial
    · exact .raise _

theorem keepsOne_forEach {β : Type} {as : List β} {body : β → Prog Unit}
    (hbody : ∀ a, KeepsOne env (body a) fun _ => True) :
    KeepsOne env (Program.forEach as body) fun _ => True := by
  induction as with
  | nil => exact .done trivial
  | cons a as ih => exact (hbody a).bind fun _ _ => ih

theorem keepsOne_kitJobUpdate (s : KitService) (node : Node) :
    KeepsOne env (s.jobUpdate node) fun _ => True := by
  unfold KitService.jobUpdate
  split
  · exact keepsOne_createRemoveNodeJob _ _
  · refine (keepsOne_loadJobByNodeId _ _).bind fun o ho => ?_
    cases o with
    | none => exact .done trivial
    | some job =>
        refine (keepsOne_setJobState (ho job rfl) _).bind fun job hjob => ?_
        exact keepsOne_saveToDb hjob

theorem keepsOne_kitExecute (s : KitService) : KeepsOne env s.execute fun _ => True := by
  have hhandle (success : Bool) : KeepsOne env (s.handle success) fun _ => True :=
    keepsOne_forEach fun node => keepsOne_updateJob node s.stage success
  refine UsesWhile.tryExcept ?_ fun e => (hhandle false).bind fun _ _ => .raise e
  refine UsesWhile.bind (keepsOne_forEach (keepsOne_kitJobUpdate s)) fun _ _ => ?_
  refine keepsOne_sendNotification.bind fun _ _ => ?_
  refine (keepsOne_ask (Prog.readsOnly_ask _)).bind fun ok _ => ?_
  refine (hhandle ok).bind fun _ _ => keepsOne_sendNotification.bind fun _ _ => ?_
  split
  · exact .done trivial
  · exact .raise _

/-! ## Requests -/

theorem keepsOne_discard {p : Prog α} (hp : KeepsOne env p fun _ => True) :
    KeepsOne env (discard p : Prog Unit) fun _ => True :=
  hp.bind fun _ _ => .done trivial

theorem keepsOne_queued :
    KeepsOne env (Response.job <$> Prog.orRaise (Prog.ask (.enqueue "execute"))) fun _ => True :=
  UsesWhile.bind (keepsOne_ask (Prog.readsOnly_ask _)) fun _ _ => .done trivial

theorem keepsOne_loadSettings : KeepsOne env GeneralSettingsForm.loadFromDb fun _ => True :=
  keepsOne_of_readsOnly GeneralSettingsForm.readsOnly_loadFromDb

theorem keepsOne_newNode (payload : Json) :
    KeepsOne env (NewNodeCtrl.post payload) fun _ => True := by
  have hmac (node : Node) : KeepsOne env (NewNodeCtrl.assignMac node) fun _ => True := by
    unfold NewNodeCtrl.assignMac
    split
    · exact UsesWhile.bind (keepsOne_of_readsOnly Node.readsOnly_randMac) fun _ _ => .done trivial
    · exact .done trivial
  have hcreate : KeepsOne env (NewNodeCtrl.createFromPayload payload) fun _ => True := by
    refine keepsOne_loadSettings.bind fun settings _ => ?_
    refine (keepsOne_of_readsOnly (Node.readsOnly_load payload)).bind fun node _ => ?_
    cases settings with
    | none => exact .raise _
    | some settings =>
        refine (hmac _).bind fun node _ => ?_
        refine (keepsOne_of_readsOnly (Node.readsOnly_postValidation node)).bind fun _ _ => ?_
        refine (keepsOne_create node).bind fun _ _ => ?_
        exact keepsOne_sendNotification.bind fun _ _ => .done trivial
  refine hcreate.attempt.bind fun r _ => ?_
  split
  · exact .done trivial
  · exact .done trivial
  · exact .raise _
  · exact keepsOne_queued

theorem keepsOne_mip (payload : List (String × Json)) :
    KeepsOne env (MipCtrlApi.post payload) fun _ => True := by
  have hload : KeepsOne env (Node.load (.obj (MipCtrlApi.withType payload))) fun _ => True :=
    keepsOne_of_readsOnly (Node.readsOnly_load _)
  have hadd : KeepsOne env (MipCtrlApi.addMipToDatabase payload) fun _ => True := by
    unfold MipCtrlApi.addMipToDatabase
    refine hload.bind fun mip _ => (keepsOne_create mip).bind fun _ _ => ?_
    exact keepsOne_sendNotification.bind fun _ _ => .done trivial
  unfold MipCtrlApi.post
  exact hadd.bind fun mip _ => keepsOne_when (keepsOne_enqueue _)

theorem keepsOne_controlPlane : KeepsOne env ControlPlaneCtrl.post fun _ => True := by
  have hcreate : KeepsOne env ControlPlaneCtrl.createControlPlane fun _ => True := by
    refine keepsOne_deleteAll.bind fun _ _ => keepsOne_loadSettings.bind fun settings _ => ?_
    cases settings with
    | none => exact .raise _
    | some settings =>
        refine (keepsOne_ofExcept _).bind fun ipAddress _ => ?_
        refine (keepsOne_of_readsOnly Node.readsOnly_randMac).bind fun macAddress _ => ?_
        refine (keepsOne_of_readsOnly (Node.readsOnly_load _)).bind fun node _ => ?_
        exact (keepsOne_create _).bind fun _ _ => keepsOne_sendNotification
  refine hcreate.attempt.bind fun r _ => ?_
  split
  · exact .done trivial
  · exact .done trivial
  · split
    · exact .done trivial
    · exact .raise _
  · exact keepsOne_queued

theorem keepsOne_refreshKit (jobId : String) (polls : Nat) (nodes newControlPlane : List Node) :
    KeepsOne env (refreshKit jobId polls nodes newControlPlane) fun _ => True := by
  have hnode (node : Node) : KeepsOne env (refreshNode jobId polls node) fun _ => True := by
    unfold refreshNode
    split
    · exact UsesWhile.bind (keepsOne_execute _) fun _ _ => .done trivial
    · refine (keepsOne_delete node).bind fun _ _ => (keepsOne_create node).bind fun _ _ => ?_
      exact keepsOne_when (keepsOne_enqueue _)
  refine UsesWhile.bind (keepsOne_forEach hnode) fun _ _ => ?_
  cases newControlPlane with
  | nil => exact .raise _
  | cons node nodes => exact keepsOne_enqueue _

theorem keepsOne_deleteNode (hostname : String) :
    KeepsOne env (NodeCtrl.delete hostname) fun _ => True := by
  have hname : KeepsOne env (NodeCtrl.canonicalHostname hostname) fun _ => True := by
    refine keepsOne_loadSettings.bind fun settings _ => ?_
    cases settings with
    | none => exact .raise _
    | some settings => exact .done trivial
  refine hname.bind fun hostname _ => ?_
  refine (keepsOne_of_readsOnly (Node.readsOnly_loadFromDbUsingHostname _)).bind fun o _ => ?_
  cases o with
  | none => exact .done trivial
  | some node =>
      dsimp only
      split
      · exact keepsOne_queued
      · refine (keepsOne_loadJobByNodeId _ _).bind fun deployJob _ => ?_
        split
        · refine (keepsOne_ask (Prog.readsOnly_ask _)).bind fun apps _ => ?_
          exact UsesWhile.bind (keepsOne_forEach fun _ => keepsOne_enqueue _) fun _ _ =>
            keepsOne_queued
        · refine UsesWhile.bind (keepsOne_delete node) fun _ _ => ?_
          exact keepsOne_sendNotification.bind fun _ _ => .done trivial

theorem keepsOne_nodeState (hostname : String) (payload : List (String × Json)) :
    KeepsOne env (NodeStateCtrl.post hostname payload) fun _ => True := by
  have hchange {job : NodeJob} (node : Node) (name : String) :
      KeepsOne env (NodeStateCtrl.applyChange node job name payload) fun _ => True := by
    unfold NodeStateCtrl.applyChange
    split
    · exact keepsOne_setterUnit (oneState_errorDoc _ job.doc)
    · exact keepsOne_setterUnit (oneState_completeDoc job.doc)
    · split
      · -- a provision job stays as `set_job_state` left it, and facts are gathered
        have hsettings {β : Type} {p : Prog (Except PyError β)} (hp : p.Uses Op.readsOnly) :
            KeepsOne env (discard (Prog.orRaise p) : Prog Unit) fun _ => True :=
          keepsOne_discard (keepsOne_ask hp)
        refine (hsettings (Prog.readsOnly_ask _)).bind fun _ _ => ?_
        refine UsesWhile.bind (keepsOne_when (hsettings (Prog.readsOnly_ask _))) fun _ _ => ?_
        exact keepsOne_enqueue _
      · exact keepsOne_setterUnit (oneState_inprogressDoc none job.doc)
    · exact .done trivial
  have hjob (node : Node) (name : String) :
      KeepsOne env (NodeStateCtrl.changeJob node name payload) fun _ => True := by
    refine (keepsOne_loadJobByNodeId _ _).bind fun o ho => ?_
    cases o with
    | none => exact .done trivial
    | some job =>
        have hcancel := NodeStateCtrl.readsOnly_cancelGathering node job name
          (NodeStateCtrl.change payload)
        refine UsesWhile.bind (keepsOne_of_readsOnly hcancel) fun _ _ => ?_
        refine (keepsOne_setJobState (ho job rfl) none).bind fun job _ => ?_
        exact (hchange node name).bind fun _ _ => keepsOne_sendNotification
  refine UsesWhile.tryExcept ?_ fun e => ?_
  · refine (keepsOne_of_readsOnly (Node.readsOnly_loadFromDbUsingHostname _)).bind fun o _ => ?_
    cases o with
    | none => exact .done trivial
    | some node =>
        refine UsesWhile.bind (keepsOne_when ?_) fun _ _ => .done trivial
        refine UsesWhile.bind (keepsOne_ofExcept _) fun name _ => ?_
        split
        · exact hjob node _
        · exact .done trivial
  · split
    · exact .done trivial
    · split
      · exact .done trivial
      · exact .raise _

theorem keepsOne_retry (jobId : String) : KeepsOne env (putJobRetry jobId) fun _ => True := by
  refine (keepsOne_ask (Prog.readsOnly_ask _)).bind fun _ _ => ?_
  refine (keepsOne_ask (Prog.readsOnly_ask _)).bind fun _ _ => ?_
  refine (keepsOne_loadJobsByJobId jobId).bind fun o _ => ?_
  cases o with
  | none => exact .raise _
  | some job => exact keepsOne_setterUnit (oneState_inprogressDoc _ job.doc)

theorem keepsOne_deleteJob (jobId : String) :
    KeepsOne env (deleteJobWithJobId jobId) fun _ => True := by
  refine (keepsOne_ask (Prog.readsOnly_ask _)).bind fun _ _ => ?_
  refine (keepsOne_loadJobsByJobId jobId).bind fun o _ => ?_
  cases o with
  | none => exact keepsOne_ask (Prog.readsOnly_ask _)
  | some job =>
      refine UsesWhile.bind (keepsOne_setterUnit (oneState_errorDoc _ job.doc)) fun _ _ => ?_
      exact keepsOne_ask (Prog.readsOnly_ask _)

end Keeps

/-! ## Every operation on jobs -/

/-- A setter of `NodeJob`. -/
inductive JobSetter where
  | jobState (jobId : Option String)
  | pending
  | inprogress (jobId : Option String)
  | complete
  | error (message : Option String)

def JobSetter.apply (job : NodeJob) : JobSetter → Prog NodeJob
  | .jobState jobId => job.setJobState jobId
  | .pending => job.setPending
  | .inprogress jobId => job.setInprogress jobId
  | .complete => job.setComplete
  | .error message => job.setError message

/-- What writes jobs. -/
inductive JobOperation where
  /-- `NewNodeCtrl.post` -/
  | newNode (payload : Json)
  /-- `post_mip` -/
  | mip (payload : List (String × Json))
  /-- `ControlPlaneCtrl.post` -/
  | controlPlane
  | refreshKit (jobId : String) (polls : Nat) (nodes newControlPlane : List Node)
  /-- `NodeCtrl.delete` -/
  | deleteNode (hostname : String)
  | create (node : Node)
  | createRemoveNodeJob (node : Node) (jobId : String)
  /-- a setter, on the job of a node as it was loaded -/
  | setJob (nodeId jobName : String) (change : JobSetter)
  /-- `execute` for one node -/
  | execute (s : NodeService)
  /-- `execute` for the base kit -/
  | kitExecute (s : KitService)
  | gatherDeviceFacts (node : Node) (password : Option String) (jobId : String) (polls : Nat)
  /-- `NodeStateCtrl.post` -/
  | nodeState (hostname : String) (payload : List (String × Json))
  /-- `put_job_retry` -/
  | retry (jobId : String)
  /-- `delete_job_with_job_id` -/
  | deleteJob (jobId : String)

namespace JobOperation

def program : JobOperation → Prog Unit
  | .newNode payload => discard (NewNodeCtrl.post payload)
  | .mip payload => MipCtrlApi.post payload
  | .controlPlane => discard ControlPlaneCtrl.post
  | .refreshKit jobId polls nodes newControlPlane =>
      Tfplenum.refreshKit jobId polls nodes newControlPlane
  | .deleteNode hostname => discard (NodeCtrl.delete hostname)
  | .create node => node.create
  | .createRemoveNodeJob node jobId => NodeJob.createRemoveNodeJob node jobId
  | .setJob nodeId jobName change => do
      match ← NodeJob.loadJobByNodeId nodeId jobName with
      | none => pure ()
      | some job => discard (change.apply job)
  | .execute s => discard s.execute
  | .kitExecute s => discard s.execute
  | .gatherDeviceFacts node password jobId polls =>
      discard (Tfplenum.gatherDeviceFacts node password jobId polls)
  | .nodeState hostname payload => discard (NodeStateCtrl.post hostname payload)
  | .retry jobId => putJobRetry jobId
  | .deleteJob jobId => deleteJobWithJobId jobId

variable {env : Environment}

theorem keepsOne_apply {job : NodeJob} (hjob : job.doc.OneState) (change : JobSetter) :
    KeepsOne env (discard (change.apply job) : Prog Unit) fun _ => True := by
  cases change with
  | jobState jobId =>
      exact UsesWhile.bind (keepsOne_setJobState hjob jobId) fun _ _ => .done trivial
  | pending => exact keepsOne_setterUnit (oneState_pendingDoc job.doc)
  | inprogress jobId => exact keepsOne_setterUnit (oneState_inprogressDoc jobId job.doc)
  | complete => exact keepsOne_setterUnit (oneState_completeDoc job.doc)
  | error message => exact keepsOne_setterUnit (oneState_errorDoc message job.doc)

/-- One case for each operation. -/
theorem keepsOne_program (operation : JobOperation) :
    KeepsOne env operation.program fun _ => True := by
  cases operation with
  | newNode payload => exact keepsOne_discard (keepsOne_newNode payload)
  | mip payload => exact keepsOne_mip payload
  | controlPlane => exact keepsOne_discard keepsOne_controlPlane
  | refreshKit jobId polls nodes newControlPlane =>
      exact keepsOne_refreshKit jobId polls nodes newControlPlane
  | deleteNode hostname => exact keepsOne_discard (keepsOne_deleteNode hostname)
  | create node => exact keepsOne_create node
  | createRemoveNodeJob node jobId => exact keepsOne_createRemoveNodeJob node jobId
  | setJob nodeId jobName change =>
      refine (keepsOne_loadJobByNodeId nodeId jobName).bind fun o ho => ?_
      cases o with
      | none => exact .done trivial
      | some job => exact keepsOne_apply (ho job rfl) change
  | execute s => exact keepsOne_discard (keepsOne_execute s)
  | kitExecute s => exact keepsOne_discard (keepsOne_kitExecute s)
  | gatherDeviceFacts node password jobId polls =>
      exact keepsOne_discard (keepsOne_gatherDeviceFacts node password jobId polls)
  | nodeState hostname payload => exact keepsOne_discard (keepsOne_nodeState hostname payload)
  | retry jobId => exact keepsOne_retry jobId
  | deleteJob jobId => exact keepsOne_deleteJob jobId

end JobOperation

/-- Any number of operations over the stored documents. -/
def jobOperations (w : World) (operations : List JobOperation) :
    Config Op Op.Res PyError Unit World :=
  ⟨w, operations.map JobOperation.program⟩

/-- In every state that any operations reach, however they interleave, every stored
    job has exactly one of its four flags set. -/
theorem jobs_in_one_state (env : Environment) (w : World) (hw : JobsInOneState w)
    (operations : List JobOperation) (es : List (Event Op))
    (c' : Config Op Op.Res PyError Unit World)
    (hrun : Run (handle env) (jobOperations w operations) es c') : JobsInOneState c'.state := by
  refine hrun.keeps_all ?_ hw
  intro i p hi
  have hmem : p ∈ operations.map JobOperation.program := List.mem_of_getElem? hi
  obtain ⟨operation, -, rfl⟩ := List.mem_map.mp hmem
  exact operation.keepsOne_program

/-- A node is created, and before its jobs are all saved a playbook on it starts and
    the machine reports an error. -/
def createAndDeploy : List (Event Op) × Config Op Op.Res PyError Unit World :=
  (jobOperations lanWorld [
    .newNode (.obj (nodeFields "server1")), .execute ⟨"7", .addNode, jobDeploy, server1, 0⟩,
    .nodeState "server1.lan" [("name", .str jobCreate), ("error", .bool true)]]).schedule
      (handle steadyEnv)
      (List.replicate 12 0 ++ [1, 1, 2] ++ List.replicate 40 0 ++ List.replicate 40 2 ++
        List.replicate 40 1)

theorem jobsInOneState_of_createAndDeploy : JobsInOneState createAndDeploy.2.state := by
  refine jobs_in_one_state steadyEnv lanWorld ?_ _ _ _ (run_schedule _ _ _)
  intro id job hget
  cases hget

end Tfplenum
