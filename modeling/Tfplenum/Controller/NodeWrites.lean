/-
  Tfplenum.Controller.NodeWrites

  What the requests that change which nodes there are write: jobs, and nodes by
  replacement and by deletion.  `Op.rewrites W` says which documents may replace
  a node, and each program has a lemma that says it does nothing else.
-/

import Tfplenum.Controller.KitController
import Tfplenum.Controller.NodeInFlight

namespace Tfplenum

open Lib Program

/-- The operation deletes nodes. -/
def Op.deletesNodes (op : Op) : Prop :=
  (∃ id, op = .db (.deleteOne .nodes id)) ∨ ∃ q, op = .db (.deleteMany .nodes q)

/-- An operation that only reads, works on the jobs, deletes nodes, or replaces a node
    by a document in `W`. -/
def Op.rewrites (W : String → NodeDoc → Prop) (op : Op) : Prop :=
  op.readsOnly ∨ (∃ dop : DocOp Doc, op = .db dop ∧ dop.collection = .jobs) ∨ op.deletesNodes ∨
    ∃ id doc, op = .db (.replaceOne .nodes id doc) ∧ W id doc

/-- What an operation that stores no node leaves was stored before. -/
theorem nodes_subset_of_deletes {env : Environment} {op : Op} {w : World}
    (hop : op.readsOnly ∨ (∃ dop : DocOp Doc, op = .db dop ∧ dop.collection = .jobs) ∨
      op.deletesNodes) {id : String} {doc : NodeDoc}
    (hget : ((handle env op w).2.db .nodes).get? id = some doc) :
    (w.db .nodes).get? id = some doc := by
  rcases hop with hread | ⟨dop, rfl, hjobs⟩ | ⟨id', rfl⟩ | ⟨q, rfl⟩
  · rwa [db_of_readsOnly hread] at hget
  · have hne : dop.collection ≠ .nodes := by
      rw [hjobs]
      decide
    rwa [db_of_ne env w dop hne] at hget
  · rw [db_deleteOne, Table.get?_erase] at hget
    split at hget
    · cases hget
    · exact hget
  · rw [db_deleteMany, Table.get?_remove, Option.filter_eq_some_iff] at hget
    exact hget.1

section Rewrites

variable {α : Type} {W : String → NodeDoc → Prop} {p : Prog α}

theorem rewrites_of_readsOnly (hp : p.Uses Op.readsOnly) : p.Uses (Op.rewrites W) :=
  hp.mono fun _ hop => .inl hop

theorem rewrites_of_saves (hp : p.Uses (Op.saves W)) : p.Uses (Op.rewrites W) := by
  refine hp.mono fun op hop => ?_
  rcases hop with hread | hnode | ⟨id, doc, rfl⟩
  · exact .inl hread
  · exact .inr (.inr (.inr hnode))
  · exact .inr (.inl ⟨_, rfl, rfl⟩)

theorem rewrites_jobs (op : DocOp Doc) (hop : op.collection = .jobs) :
    (Program.perform (Op.db op) : Prog (Op.Res (Op.db op))).Uses (Op.rewrites W) :=
  .call (.inr (.inl ⟨op, rfl, hop⟩)) fun _ => .done _

theorem rewrites_deletesNodes {op : Op} (hop : op.deletesNodes) :
    (Program.perform op : Prog (Op.Res op)).Uses (Op.rewrites W) :=
  .call (.inr (.inr (.inl hop))) fun _ => .done _

theorem rewrites_createJobs (node : Node) : node.createJobs.Uses (Op.rewrites W) := by
  have hinit (description name : String) :
      (NodeJob.initPending node description name).Uses (Op.rewrites W) :=
    rewrites_of_readsOnly (NodeJob.readsOnly_init _)
  have hsave (job : NodeJob) : job.saveToDb.Uses (Op.rewrites W) :=
    rewrites_jobs (.replaceOne .jobs job.id job.doc) rfl
  unfold Node.createJobs
  split
  · refine (hinit _ _).bind fun createdjob => (hinit _ _).bind fun deployjob => ?_
    exact (hsave _).bind fun _ => hsave _
  · refine (hinit _ _).bind fun createdjob => (hinit _ _).bind fun installjob => ?_
    refine (hinit _ _).bind fun deployjob => (hsave _).bind fun _ => ?_
    exact (hsave _).bind fun _ => hsave _

theorem rewrites_create {node : Node} (hW : ∀ doc, node.dump = .ok doc → W node.id doc) :
    node.create.Uses (Op.rewrites W) := by
  unfold Node.create
  cases hdump : node.dump with
  | error e => exact .raise e
  | ok doc =>
      have hstore : (Prog.replaceOne .nodes node.id doc).Uses (Op.rewrites W) :=
        .call (.inr (.inr (.inr ⟨node.id, doc, rfl, hW doc hdump⟩))) fun _ => .done _
      refine hstore.bind fun _ => ?_
      refine (rewrites_of_readsOnly (Node.readsOnly_loadDoc _)).bind fun created => ?_
      exact (rewrites_createJobs created).bind fun _ =>
        rewrites_of_readsOnly readsOnly_generateInventory

theorem rewrites_delete (node : Node) : node.delete.Uses (Op.rewrites W) := by
  have hnode : (discard (Prog.deleteOne .nodes node.id) : Prog Unit).Uses (Op.rewrites W) :=
    (rewrites_deletesNodes (.inl ⟨node.id, rfl⟩)).bind fun _ => .done _
  have hjobs : (Prog.deleteMany .jobs fun _ job => job.nodeId = node.id).Uses (Op.rewrites W) :=
    rewrites_jobs (.deleteMany .jobs _) rfl
  refine hjobs.bind fun _ => hnode.bind fun _ => ?_
  exact rewrites_of_readsOnly readsOnly_generateInventory

theorem rewrites_deleteAll : Node.deleteAllFromDb.Uses (Op.rewrites W) := by
  have hdrop : (Prog.deleteMany .nodes fun _ _ => true).Uses (Op.rewrites W) :=
    rewrites_deletesNodes (.inr ⟨_, rfl⟩)
  exact hdrop.bind fun _ => rewrites_of_readsOnly readsOnly_generateInventory

/-- A run of `execute` that removes its node stores no node, whatever its stage. -/
theorem rewrites_executeRemove {s : NodeService} (htype : s.execType = .removeNode) :
    s.execute.Uses (Op.rewrites W) := by
  have hnotify : sendNotification.Uses (Op.rewrites W) :=
    rewrites_of_readsOnly readsOnly_sendNotification
  have hend (success : Bool) : (updateJob s.node s.stage success).Uses (Op.rewrites W) :=
    rewrites_of_saves (NodeService.saves_updateJob _ _ _)
  have hstart : s.jobUpdate.Uses (Op.rewrites W) := by
    by_cases hstage : s.stage = jobRemove
    · unfold NodeService.jobUpdate
      rw [if_pos hstage]
      have hjobs : (Prog.deleteMany .jobs fun _ job => job.nodeId = s.node.id).Uses
          (Op.rewrites W) :=
        rewrites_jobs (.deleteMany .jobs _) rfl
      refine hjobs.bind fun _ =>
        (rewrites_of_readsOnly (NodeJob.readsOnly_init _)).bind fun job => ?_
      exact rewrites_jobs (.replaceOne .jobs job.id job.doc) rfl
    · exact rewrites_of_saves (NodeService.saves_jobUpdate hstage)
  have hcontinue : s.continueWith.Uses (Op.rewrites W) := by
    unfold NodeService.continueWith
    rw [htype]
    refine (rewrites_delete s.node).bind fun _ => ?_
    exact rewrites_of_readsOnly (Uses.when fun _ => readsOnly_enqueue _)
  refine Uses.tryExcept ?_ fun e => (hend false).bind fun _ => .raise e
  refine Uses.bind (hstart.bind fun _ => hnotify) fun _ => ?_
  refine (rewrites_of_readsOnly s.readsOnly_executeJob).bind fun ok => ?_
  refine Uses.bind (Uses.when fun _ => (hend true).bind fun _ => hcontinue) fun _ => ?_
  refine Uses.bind (Uses.when fun _ => hend false) fun _ => hnotify.bind fun _ => ?_
  split
  · exact .done _
  · exact .raise _

/-! ## Requests -/

theorem readsOnly_queued :
    (Response.job <$> Prog.orRaise (Prog.ask (.enqueue "execute"))).Uses Op.readsOnly :=
  Uses.bind (Prog.uses_orRaise (Prog.readsOnly_ask _)) fun _ => .done _

theorem NewNodeCtrl.readsOnly_assignMac (node : Node) : (assignMac node).Uses Op.readsOnly := by
  unfold assignMac
  split
  · exact Node.readsOnly_randMac.bind fun _ => .done _
  · exact .done _

/-- A creation stores its node once it has got past its validation. -/
theorem rewrites_newNode (hW : ∀ id doc, W id doc) (payload : Json) :
    (NewNodeCtrl.post payload).Uses (Op.rewrites W) := by
  have hcreate : (NewNodeCtrl.createFromPayload payload).Uses (Op.rewrites W) := by
    refine (rewrites_of_readsOnly GeneralSettingsForm.readsOnly_loadFromDb).bind fun settings => ?_
    refine (rewrites_of_readsOnly (Node.readsOnly_load payload)).bind fun node => ?_
    cases settings with
    | none => exact .raise _
    | some settings =>
        refine (rewrites_of_readsOnly (NewNodeCtrl.readsOnly_assignMac _)).bind fun node => ?_
        refine (rewrites_of_readsOnly (Node.readsOnly_postValidation node)).bind fun _ => ?_
        refine (rewrites_create fun doc _ => hW node.id doc).bind fun _ => ?_
        exact (rewrites_of_readsOnly readsOnly_sendNotification).bind fun _ => .done _
  refine hcreate.attempt.bind fun r => ?_
  split
  · exact .done _
  · exact .done _
  · exact .raise _
  · exact rewrites_of_readsOnly readsOnly_queued

theorem rewrites_mip (hW : ∀ id doc, W id doc) (payload : List (String × Json)) :
    (MipCtrlApi.post payload).Uses (Op.rewrites W) := by
  have hload : (Node.load (.obj (MipCtrlApi.withType payload))).Uses (Op.rewrites W) :=
    rewrites_of_readsOnly (Node.readsOnly_load _)
  have hadd : (MipCtrlApi.addMipToDatabase payload).Uses (Op.rewrites W) := by
    unfold MipCtrlApi.addMipToDatabase
    refine hload.bind fun mip => (rewrites_create fun doc _ => hW mip.id doc).bind fun _ => ?_
    exact (rewrites_of_readsOnly readsOnly_sendNotification).bind fun _ => .done _
  unfold MipCtrlApi.post
  exact hadd.bind fun mip => Uses.when fun _ => rewrites_of_readsOnly (readsOnly_enqueue _)

theorem rewrites_controlPlane (hW : ∀ id doc, W id doc) :
    ControlPlaneCtrl.post.Uses (Op.rewrites W) := by
  have hcreate : ControlPlaneCtrl.createControlPlane.Uses (Op.rewrites W) := by
    refine rewrites_deleteAll.bind fun _ => ?_
    refine (rewrites_of_readsOnly GeneralSettingsForm.readsOnly_loadFromDb).bind fun settings => ?_
    cases settings with
    | none => exact .raise _
    | some settings =>
        refine (uses_ofExcept _).bind fun ipAddress => ?_
        refine (rewrites_of_readsOnly Node.readsOnly_randMac).bind fun macAddress => ?_
        refine (rewrites_of_readsOnly (Node.readsOnly_load _)).bind fun node => ?_
        refine (rewrites_create fun doc _ => hW _ doc).bind fun _ => ?_
        exact rewrites_of_readsOnly readsOnly_sendNotification
  refine hcreate.attempt.bind fun r => ?_
  split
  · exact .done _
  · exact .done _
  · split
    · exact .done _
    · exact .raise _
  · exact rewrites_of_readsOnly readsOnly_queued

theorem rewrites_refreshKit {nodes : List Node}
    (hW : ∀ node ∈ nodes, ∀ doc, node.dump = .ok doc → W node.id doc) (jobId : String) (polls : Nat)
    (newControlPlane : List Node) :
    (refreshKit jobId polls nodes newControlPlane).Uses (Op.rewrites W) := by
  have hnode (node : Node) (hmem : node ∈ nodes) :
      (refreshNode jobId polls node).Uses (Op.rewrites W) := by
    unfold refreshNode
    split
    · exact Uses.bind (rewrites_executeRemove rfl) fun _ => .done _
    · refine (rewrites_delete node).bind fun _ => ?_
      refine (rewrites_create (hW node hmem)).bind fun _ => ?_
      exact Uses.when fun _ => rewrites_of_readsOnly (readsOnly_enqueue _)
  refine Uses.bind (uses_forEach hnode) fun _ => ?_
  cases newControlPlane with
  | nil => exact .raise _
  | cons node nodes => exact rewrites_of_readsOnly (readsOnly_enqueue _)

theorem rewrites_deleteNode (hostname : String) :
    (NodeCtrl.delete hostname).Uses (Op.rewrites W) := by
  have hname : (NodeCtrl.canonicalHostname hostname).Uses Op.readsOnly := by
    refine GeneralSettingsForm.readsOnly_loadFromDb.bind fun settings => ?_
    cases settings with
    | none => exact .raise _
    | some settings => exact .done _
  refine (rewrites_of_readsOnly hname).bind fun hostname => ?_
  refine (rewrites_of_readsOnly (Node.readsOnly_loadFromDbUsingHostname _)).bind fun o => ?_
  cases o with
  | none => exact .done _
  | some node =>
      dsimp only
      split
      · exact rewrites_of_readsOnly readsOnly_queued
      · refine (rewrites_of_readsOnly (NodeJob.readsOnly_loadJobByNodeId _ _)).bind fun job => ?_
        split
        · refine rewrites_of_readsOnly ?_
          refine (Prog.uses_orRaise (Prog.readsOnly_ask _)).bind fun apps => ?_
          exact Uses.bind (uses_forEach fun _ _ => readsOnly_enqueue _) fun _ => readsOnly_queued
        · refine Uses.bind (rewrites_delete node) fun _ => ?_
          exact (rewrites_of_readsOnly readsOnly_sendNotification).bind fun _ => .done _

end Rewrites

end Tfplenum
