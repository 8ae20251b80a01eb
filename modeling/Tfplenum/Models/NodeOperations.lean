/-
  Tfplenum.Models.NodeOperations

  The operations that the programs of `Tfplenum.Models.Nodes` and
  `Tfplenum.Service.NodeService` issue: loaders, inventories and the status of the
  kit only read, and everything else is said by which documents it writes.
-/

import Tfplenum.Service.NodeService

namespace Tfplenum

open Lib Program

/-! ## Programs that only read -/

theorem GeneralSettingsForm.readsOnly_loadFromDb : loadFromDb.Uses Op.readsOnly := by
  refine (Prog.readsOnly_findById _).bind fun o => ?_
  cases o with
  | none => exact .done _
  | some doc => exact (uses_ofExcept _).bind fun _ => .done _

theorem GeneralSettingsForm.readsOnly_generateInventory : generateInventory.Uses Op.readsOnly := by
  refine readsOnly_loadFromDb.bind fun o => ?_
  cases o with
  | none => exact .raise _
  | some form => exact Prog.uses_orRaise (Prog.readsOnly_ask _)

namespace Node

theorem readsOnly_randMac : randMac.Uses Op.readsOnly :=
  (Prog.readsOnly_ask _).bind fun _ => .done _

theorem readsOnly_setHostname (hostname : String) : (setHostname hostname).Uses Op.readsOnly := by
  refine GeneralSettingsForm.readsOnly_loadFromDb.bind fun o => ?_
  cases o <;> constructor

theorem readsOnly_setMacAddress (macAddress : Option String) (nodeType : String) :
    (setMacAddress macAddress nodeType).Uses Op.readsOnly := by
  unfold setMacAddress
  split
  · exact readsOnly_randMac.bind fun _ => .done _
  · exact .done _

theorem readsOnly_init (data : NodeSchema.Data) : (init data).Uses Op.readsOnly := by
  unfold init
  split
  · refine Uses.bind ?_ fun id => Uses.bind ?_ fun hostname => Uses.bind ?_ fun mac => .done _
    · split
      · exact Prog.readsOnly_ask _
      · exact .done _
    · exact readsOnly_setHostname _
    · exact readsOnly_setMacAddress _ _
  · exact .raise _

theorem readsOnly_load (payload : Json) : (load payload).Uses Op.readsOnly :=
  (uses_ofExcept _).bind fun data => readsOnly_init data

theorem readsOnly_loadDoc (row : String × NodeDoc) : (loadDoc row).Uses Op.readsOnly :=
  readsOnly_load _

theorem readsOnly_loadNodeTypesFromDb (nodeTypes : List String) :
    (loadNodeTypesFromDb nodeTypes).Uses Op.readsOnly :=
  (Prog.readsOnly_find _).bind fun _ => uses_mapEach fun row _ => readsOnly_loadDoc row

theorem readsOnly_loadAllFromDb : loadAllFromDb.Uses Op.readsOnly :=
  (Prog.readsOnly_find _).bind fun _ => uses_mapEach fun row _ => readsOnly_loadDoc row

theorem readsOnly_loadMinioFromDb : loadMinioFromDb.Uses Op.readsOnly := by
  refine (Prog.readsOnly_findOne _).bind fun o => ?_
  cases o with
  | none => exact .done _
  | some row => exact (readsOnly_loadDoc row).bind fun _ => .done _

theorem readsOnly_loadFromDbUsingHostname (hostname : String) :
    (loadFromDbUsingHostname hostname).Uses Op.readsOnly := by
  refine (Prog.readsOnly_findOne _).bind fun o => ?_
  cases o with
  | none => exact .done _
  | some row => exact (readsOnly_loadDoc row).bind fun _ => .done _

end Node

theorem readsOnly_writeInventory (file : String) : (writeInventory file).Uses Op.readsOnly :=
  Prog.uses_orRaise (Prog.readsOnly_ask _)

theorem readsOnly_generateInventory : generateInventory.Uses Op.readsOnly := by
  refine Uses.bind ?_ fun _ => Uses.bind ?_ fun _ => Uses.bind ?_ fun _ => ?_
  · exact (Node.readsOnly_loadNodeTypesFromDb _).bind fun _ => readsOnly_writeInventory _
  · exact (Node.readsOnly_loadNodeTypesFromDb _).bind fun _ => readsOnly_writeInventory _
  · exact (Node.readsOnly_loadNodeTypesFromDb _).bind fun _ => readsOnly_writeInventory _
  · exact Node.readsOnly_loadMinioFromDb.bind fun _ => readsOnly_writeInventory _

theorem Node.readsOnly_postValidation (node : Node) : node.postValidation.Uses Op.readsOnly := by
  refine (readsOnly_loadNodeTypesFromDb _).bind fun _ => Uses.bind ?_ fun _ => ?_
  · unfold minioErrors
    split
    · refine readsOnly_loadMinioFromDb.bind fun o => ?_
      cases o <;> constructor
    · exact .done _
  · exact Uses.when fun _ => .raise _

theorem NodeJob.readsOnly_loadJobByNodeId (nodeId jobName : String) :
    (loadJobByNodeId nodeId jobName).Uses Op.readsOnly := by
  refine (Prog.readsOnly_findOne _).bind fun o => ?_
  cases o <;> constructor

theorem NodeJob.readsOnly_init (doc : JobDoc) : (init doc).Uses Op.readsOnly :=
  (Prog.readsOnly_ask _).bind fun _ => .done _

theorem readsOnly_getKitStatus : getKitStatus.Uses Op.readsOnly := by
  refine GeneralSettingsForm.readsOnly_loadFromDb.bind fun _ => ?_
  refine Uses.bind (Prog.uses_orRaise (Prog.readsOnly_ask _)) fun _ => ?_
  refine Uses.bind (Prog.uses_orRaise (Prog.readsOnly_ask _)) fun _ => ?_
  refine Uses.bind (Node.readsOnly_loadNodeTypesFromDb _) fun _ => ?_
  exact Uses.bind ((Prog.readsOnly_find _).bind fun _ => .done _) fun _ => .done _

theorem readsOnly_sendNotification : sendNotification.Uses Op.readsOnly := by
  have hall : getAllNodesWithJobs.Uses Op.readsOnly := by
    refine Node.readsOnly_loadAllFromDb.bind fun nodes => uses_mapEach fun node _ => ?_
    exact Uses.bind ((Prog.readsOnly_find _).bind fun _ => .done _) fun _ => .done _
  refine readsOnly_getKitStatus.bind fun _ => hall.bind fun _ => ?_
  exact (Prog.uses_orRaise (Prog.readsOnly_ask _)).bind fun _ =>
    Prog.uses_orRaise (Prog.readsOnly_ask _)

/-! ## Programs that save nodes and jobs -/

/-- An operation that saves a node with `W`, saves a job, or only reads. -/
def Op.saves (W : String → NodeDoc → Prop) (op : Op) : Prop :=
  op.readsOnly ∨ (∃ id doc, op = .db (.replaceOne .nodes id doc) ∧ W id doc) ∨
    ∃ id doc, op = .db (.replaceOne .jobs id doc)

section Saves

variable {α : Type} {W : String → NodeDoc → Prop} {p : Prog α}

theorem saves_of_readsOnly (hp : p.Uses Op.readsOnly) : p.Uses (Op.saves W) :=
  hp.mono fun _ hop => .inl hop

theorem Node.saves_saveToDb {node : Node} (hW : ∀ doc, node.dump = .ok doc → W node.id doc) :
    node.saveToDb.Uses (Op.saves W) := by
  unfold Node.saveToDb
  cases hd : node.dump with
  | error e => exact .raise e
  | ok doc =>
      have hsave : (Prog.replaceOne .nodes node.id doc).Uses (Op.saves W) :=
        (uses_perform _).mpr (.inr (.inl ⟨node.id, doc, rfl, hW doc hd⟩))
      exact hsave.bind fun _ => saves_of_readsOnly readsOnly_generateInventory

namespace NodeJob

theorem saves_saveToDb (job : NodeJob) : job.saveToDb.Uses (Op.saves W) :=
  (uses_perform _).mpr (.inr (.inr ⟨job.id, job.doc, rfl⟩))

/-- Each setter saves the job and hands it out. -/
theorem saves_setter {job : NodeJob} :
    (do saveToDb job; return job : Prog NodeJob).Uses (Op.saves W) :=
  (saves_saveToDb job).bind fun _ => .done _

theorem saves_setOtherPending (nodeId jobName : String) :
    (setOtherPending nodeId jobName).Uses (Op.saves W) := by
  refine (saves_of_readsOnly (readsOnly_loadJobByNodeId _ _)).bind fun o => ?_
  cases o with
  | none => exact .done _
  | some job => exact Uses.bind saves_setter fun _ => .done _

theorem saves_setJobState (job : NodeJob) (jobId : Option String) :
    (job.setJobState jobId).Uses (Op.saves W) := by
  have hset (c : Prop) [Decidable c] (job : NodeJob) :
      (if c then setInprogress job jobId else pure job : Prog NodeJob).Uses (Op.saves W) := by
    split
    · exact saves_setter
    · exact .done _
  refine (hset _ job).bind fun job => ?_
  refine Uses.bind (Uses.when fun _ => saves_setOtherPending _ _) fun _ => ?_
  refine (hset _ job).bind fun job => (hset _ job).bind fun job => ?_
  exact Uses.bind (Uses.when fun _ => saves_setOtherPending _ _) fun _ => .done _

end NodeJob

theorem saves_setJobError (nodeJob : Option NodeJob) (message : String) :
    (setJobError nodeJob message).Uses (Op.saves W) := by
  cases nodeJob with
  | none => exact .done _
  | some job => exact Uses.bind NodeJob.saves_setter fun _ => .done _

theorem saves_completeJob (nodeJob : Option NodeJob) : (completeJob nodeJob).Uses (Op.saves W) := by
  cases nodeJob with
  | none => exact .done _
  | some job =>
      refine Uses.bind (NodeJob.saves_setJobState job none) fun job => ?_
      exact Uses.bind NodeJob.saves_setter fun _ => .done _

theorem readsOnly_enqueue (function : String) :
    (discard (Prog.orRaise (Prog.ask (.enqueue function))) : Prog Unit).Uses Op.readsOnly :=
  Uses.bind (Prog.uses_orRaise (Prog.readsOnly_ask _)) fun _ => .done _

theorem readsOnly_enqueueDeployment (node : Node) : (enqueueDeployment node).Uses Op.readsOnly := by
  unfold enqueueDeployment
  split
  · exact readsOnly_enqueue _
  · split
    · exact readsOnly_enqueue _
    · exact readsOnly_getKitStatus.bind fun _ => Uses.when fun _ => readsOnly_enqueue _

/-! ### Device facts -/

section Facts

variable {node : Node}

/-- The documents saved for a node whose device facts are set are those in `W`. -/
def SavesFacts (W : String → NodeDoc → Prop) (node : Node) : Prop :=
  ∀ facts doc, { node with deviceFacts := facts }.dump = .ok doc → W node.id doc

theorem saves_provisioned (hW : SavesFacts W node) (nodeJob : Option NodeJob)
    (facts : List (String × Json)) : (provisioned node nodeJob facts).Uses (Op.saves W) := by
  refine (Node.saves_saveToDb (hW facts)).bind fun _ => (saves_completeJob nodeJob).bind fun _ => ?_
  exact saves_of_readsOnly (readsOnly_enqueueDeployment _)

theorem readsOnly_tryDeviceFacts (node : Node) (password : Option String) :
    (tryDeviceFacts node password).Uses Op.readsOnly := by
  cases password with
  | none => exact .done _
  | some password =>
      refine (Prog.readsOnly_ask _).bind fun r => ?_
      rcases r with _ | _
      · exact .done _
      · exact .done _

theorem saves_pollDeviceFacts (hW : SavesFacts W node) (password : Option String)
    (nodeJob : Option NodeJob) (polls : Nat) :
    (pollDeviceFacts node password nodeJob polls).Uses (Op.saves W) := by
  have htry := saves_of_readsOnly (W := W) (readsOnly_tryDeviceFacts node password)
  have hfound (facts : List (String × Json)) :
      (do provisioned node nodeJob facts; pure false : Prog Bool).Uses (Op.saves W) :=
    (saves_provisioned hW nodeJob facts).bind fun _ => .done _
  induction polls with
  | zero =>
      refine htry.bind fun o => ?_
      cases o with
      | none => exact (saves_setJobError nodeJob _).bind fun _ => .done _
      | some facts => exact hfound facts
  | succ polls ih =>
      refine htry.bind fun o => ?_
      cases o with
      | none => exact (saves_of_readsOnly (Prog.uses_orRaise
        (Prog.readsOnly_ask _))).bind fun _ => ih
      | some facts => exact hfound facts

theorem saves_gatherDeviceFacts (hW : SavesFacts W node) (password : Option String) (jobId : String)
    (polls : Nat) : (gatherDeviceFacts node password jobId polls).Uses (Op.saves W) := by
  have hnotify := saves_of_readsOnly (W := W) readsOnly_sendNotification
  have hload : (loadProvisionJob node jobId).Uses (Op.saves W) := by
    refine (saves_of_readsOnly (NodeJob.readsOnly_loadJobByNodeId _ _)).bind fun o => ?_
    cases o with
    | none => exact .done _
    | some job => exact Uses.bind NodeJob.saves_setter fun _ => .done _
  refine hload.bind fun nodeJob => Uses.tryExcept ?_ fun e => ?_
  · refine hnotify.bind fun _ =>
      (saves_pollDeviceFacts hW password nodeJob polls).bind fun failed => ?_
    refine hnotify.bind fun _ => ?_
    split
    · exact .raise _
    · exact .done _
  · exact (Uses.when fun _ => saves_setJobError _ _).bind fun _ => .raise _

theorem saves_updateDeviceFactsJob (hW : SavesFacts W node) (password : String) :
    (updateDeviceFactsJob node password).Uses (Op.saves W) := by
  refine Uses.tryExcept ?_ fun _ => .done _
  refine (saves_of_readsOnly (Prog.uses_orRaise (Prog.readsOnly_ask _))).bind fun o => ?_
  cases o with
  | none => exact .done _
  | some facts => exact (Node.saves_saveToDb (hW facts)).bind fun _ => .done _

end Facts

/-! ### Deployment jobs -/

namespace NodeService

variable {s : NodeService}

theorem saves_updateJob (node : Node) (stage : String) (success : Bool) :
    (updateJob node stage success).Uses (Op.saves W) := by
  refine (saves_of_readsOnly (NodeJob.readsOnly_loadJobByNodeId _ _)).bind fun o => ?_
  cases o with
  | none => exact .done _
  | some job =>
      dsimp only
      split
      · exact Uses.bind NodeJob.saves_setter fun _ => .done _
      · exact Uses.bind NodeJob.saves_setter fun _ => .done _

theorem readsOnly_executeJob (s : NodeService) : s.executeJob.Uses Op.readsOnly := by
  refine Uses.bind (Prog.uses_orRaise (Prog.readsOnly_ask _)) fun ok => ?_
  split
  · exact Prog.uses_orRaise (Prog.readsOnly_ask _)
  · exact .done _

theorem saves_jobUpdate (hstage : s.stage ≠ jobRemove) : s.jobUpdate.Uses (Op.saves W) := by
  unfold jobUpdate
  rw [if_neg hstage]
  refine (saves_of_readsOnly (NodeJob.readsOnly_loadJobByNodeId _ _)).bind fun o => ?_
  cases o with
  | none => exact .done _
  | some job => exact Uses.bind (NodeJob.saves_setJobState _ _) fun _ => NodeJob.saves_saveToDb _

theorem saves_continueWith (hW : SavesFacts W s.node) (htype : s.execType ≠ .removeNode) :
    s.continueWith.Uses (Op.saves W) := by
  have hqueue := saves_of_readsOnly (W := W) (readsOnly_enqueue "execute")
  have hpassword : loadKitPassword.Uses (Op.saves W) :=
    saves_of_readsOnly ((Prog.uses_orRaise (Prog.readsOnly_ask _)).bind fun _ => .done _)
  have hgather (password : Option String) :
      (discard (gatherDeviceFacts s.node password s.jobId s.polls) : Prog Unit).Uses (Op.saves W) :=
    Uses.bind (saves_gatherDeviceFacts hW _ _ _) fun _ => .done _
  unfold continueWith
  split
  · refine Uses.bind (Uses.when fun _ => hqueue) fun _ => Uses.when fun _ => ?_
    exact hpassword.bind fun password => (hgather password).bind fun _ => hqueue
  · exact saves_of_readsOnly (Uses.bind (Prog.uses_orRaise (Prog.readsOnly_ask _)) fun _ => .done _)
  · rename_i h
    exact absurd h htype
  · exact hqueue
  · exact hpassword.bind hgather
  · exact .done _
  · exact .done _

theorem saves_execute (hW : SavesFacts W s.node) (htype : s.execType ≠ .removeNode)
    (hstage : s.stage ≠ jobRemove) : s.execute.Uses (Op.saves W) := by
  have hnotify := saves_of_readsOnly (W := W) readsOnly_sendNotification
  have hfail : s.handleFailure.Uses (Op.saves W) := saves_updateJob _ _ _
  refine Uses.tryExcept ?_ fun e => hfail.bind fun _ => .raise e
  refine Uses.bind ((saves_jobUpdate hstage).bind fun _ => hnotify) fun _ => ?_
  refine (saves_of_readsOnly s.readsOnly_executeJob).bind fun ok => ?_
  refine Uses.bind (Uses.when fun _ => ?_) fun _ => ?_
  · exact (saves_updateJob _ _ _).bind fun _ => saves_continueWith hW htype
  · refine Uses.bind (Uses.when fun _ => hfail) fun _ => hnotify.bind fun _ => ?_
    split
    · exact .done _
    · exact .raise _

end NodeService

end Saves

end Tfplenum
