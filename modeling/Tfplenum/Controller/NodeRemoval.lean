/-
  Tfplenum.Controller.NodeRemoval

  The removal of a node while other operations hold it.  `execute` for
  `remove_node` ends with `Node.delete`, which deletes the jobs of the node and
  then the node; every other operation saves whole documents with an upsert, so a
  save that comes after the deletion brings the document back.

  The two facts, no job and no node, are each committed by one operation of the
  removal (`commits_jobs`, `commits_node`); what follows in the removal keeps them,
  its error handler included, which would save a job but finds none.
-/

import Tfplenum.Controller.NodeInFlight

namespace Tfplenum

open Lib Program

/-! ## The removal -/

/-- What `NodeCtrl._remove_node` queues. -/
def removal (node : Node) (jobId : String) : NodeService :=
  ⟨jobId, .removeNode, jobRemove, node, 0⟩

/-- The removal as thread 0, among operations on the same or other nodes. -/
def startRemoval (w : World) (node : Node) (jobId : String) (operations : List NodeOperation) :
    Config Op Op.Res PyError Unit World where
  state := w
  threads := discard (removal node jobId).execute :: operations.map NodeOperation.program

/-- No job of the node is stored. -/
def NoJobs (nodeId : String) (w : World) : Prop :=
  ∀ id job, (w.db .jobs).get? id = some job → job.nodeId ≠ nodeId

/-- The node is not stored. -/
def NoNode (nodeId : String) (w : World) : Prop :=
  (w.db .nodes).get? nodeId = none

def DeletesJobs (nodeId : String) (op : Op) : Prop :=
  op = .db (.deleteMany .jobs fun _ job => job.nodeId = nodeId)

def DeletesNode (nodeId : String) (op : Op) : Prop :=
  op = .db (.deleteOne .nodes nodeId)

def SavesJobOf (nodeId : String) (op : Op) : Prop :=
  ∃ id job, op = .db (.replaceOne .jobs id job) ∧ job.nodeId = nodeId

def SavesNode (nodeId : String) (op : Op) : Prop :=
  ∃ doc, op = .db (.replaceOne .nodes nodeId doc)

section Removal

variable {env : Environment} {nodeId : String}

/-! ## What operations do to the two facts -/

theorem noJobs_of_deletesJobs {op : Op} {w : World} (h : DeletesJobs nodeId op) :
    NoJobs nodeId (handle env op w).2 := by
  subst h
  intro id job hget
  rw [db_deleteMany, Table.get?_remove, Option.filter_eq_some_iff] at hget
  simpa using hget.2

theorem noNode_of_deletesNode {op : Op} {w : World} (h : DeletesNode nodeId op) :
    NoNode nodeId (handle env op w).2 := by
  subst h
  rw [NoNode, db_deleteOne, Table.get?_erase, if_pos rfl]

theorem noJobs_of_deleteNode {id : String} {w : World} (hw : NoJobs nodeId w) :
    NoJobs nodeId (handle env (.db (.deleteOne .nodes id)) w).2 := by
  intro id' job hget
  rw [db_of_ne env w (.deleteOne .nodes id) (by decide : Collection.nodes ≠ .jobs)] at hget
  exact hw id' job hget

/-- A save of anything but a job of the node leaves it without jobs. -/
theorem noJobs_of_saves {op : Op} {w : World} (hop : op.saves fun _ _ => True)
    (hsave : ¬ SavesJobOf nodeId op) (hw : NoJobs nodeId w) :
    NoJobs nodeId (handle env op w).2 := by
  rcases hop with hread | ⟨id, doc, rfl, -⟩ | ⟨id, job, rfl⟩
  · intro id job hget
    rw [db_of_readsOnly hread] at hget
    exact hw id job hget
  · intro id' job hget
    rw [db_of_ne env w (.replaceOne .nodes id doc) (by decide : Collection.nodes ≠ .jobs)] at hget
    exact hw id' job hget
  · intro id' job' hget hid
    rw [db_replaceOne, Table.get?_upsert] at hget
    split at hget
    · cases hget
      exact hsave ⟨id, job, rfl, hid⟩
    · exact hw id' job' hget hid

/-- A save of anything but the node leaves it out. -/
theorem noNode_of_saves {op : Op} {w : World} (hop : op.saves fun _ _ => True)
    (hsave : ¬ SavesNode nodeId op) (hw : NoNode nodeId w) :
    NoNode nodeId (handle env op w).2 := by
  unfold NoNode at hw ⊢
  rcases hop with hread | ⟨id, doc, rfl, -⟩ | ⟨id, job, rfl⟩
  · rwa [db_of_readsOnly hread]
  · rw [db_replaceOne, Table.get?_upsert]
    split
    · rename_i hid
      exact absurd ⟨doc, by rw [hid]⟩ hsave
    · exact hw
  · rwa [db_of_ne env w (.replaceOne .jobs id job) (by decide : Collection.jobs ≠ .nodes)]

theorem not_deletesJobs_of_saves {W : String → NodeDoc → Prop} {op : Op} (hop : op.saves W) :
    ¬ DeletesJobs nodeId op := by
  rintro rfl
  rcases hop with hread | ⟨_, _, hop, -⟩ | ⟨_, _, hop⟩
  · cases hread
  · cases hop
  · cases hop

theorem not_deletesNode_of_saves {W : String → NodeDoc → Prop} {op : Op} (hop : op.saves W) :
    ¬ DeletesNode nodeId op := by
  rintro rfl
  rcases hop with hread | ⟨_, _, hop, -⟩ | ⟨_, _, hop⟩
  · cases hread
  · cases hop
  · cases hop

/-! ## What the removal does after the deletions -/

variable {α : Type} {p : Prog α} {node : Node} {jobId : String}

theorem keeps_noJobs_of_readsOnly (hp : p.Uses Op.readsOnly) :
    p.Keeps (handle env) (NoJobs nodeId) fun _ => True := by
  refine Keeps.of_uses hp fun op w hop hw id job hget => ?_
  rw [db_of_readsOnly hop] at hget
  exact hw id job hget

theorem keeps_noNode_of_saves {W : String → NodeDoc → Prop} (hp : p.Uses (Op.saves W))
    (hsave : ∀ op, op.saves W → ¬ SavesNode nodeId op) :
    p.Keeps (handle env) (NoNode nodeId) fun _ => True := by
  refine Keeps.of_uses hp fun op w hop hw => noNode_of_saves ?_ (hsave op hop) hw
  rcases hop with hread | ⟨id, doc, rfl, -⟩ | hjob
  · exact .inl hread
  · exact .inr (.inl ⟨id, doc, rfl, trivial⟩)
  · exact .inr (.inr hjob)

/-- Without jobs none is found, so the handler of a failure has nothing to save. -/
theorem keeps_updateJob (stage : String) (success : Bool) :
    (updateJob node stage success).Keeps (handle env) (NoJobs node.id) fun _ => True := by
  have hload : (NodeJob.loadJobByNode node stage).Keeps (handle env) (NoJobs node.id)
      (· = none) := by
    refine .call (fun w hw => hw) fun w hw => ?_
    have hnone : (w.db .jobs).findOne
        (fun _ job => job.nodeId = node.id ∧ job.name = stage) = none := by
      refine Table.findOne_eq_none_iff.mpr fun id job hget => ?_
      simp [hw id job hget]
    simp only [handle_db, DocOp.apply_findOne, hnone]
    exact .done rfl
  refine hload.bind fun o ho => ?_
  subst ho
  exact .done trivial

/-- The handler of `execute` raises in the end. -/
theorem commits_handler {D : Op → Prop} {I : World → Prop} (s : NodeService) (e : PyError) :
    (s.handleFailure.bind fun _ => .raise e : Prog Bool).Commits (handle env) D I :=
  Commits.bind_right fun _ => .raise e

/-- A job that commits where it succeeds commits: where it does not, it raises. -/
theorem commits_execute {D : Op → Prop} {I : World → Prop} {s : NodeService}
    (hsuccess : s.handleSuccess.Commits (handle env) D I)
    (hkeeps : ∀ {β : Type} {q : Prog β}, q.Uses Op.readsOnly →
      q.Keeps (handle env) I fun _ => True)
    (hfail : s.handleFailure.Keeps (handle env) I fun _ => True)
    (hD : ∀ op, op.saves (fun _ _ => True) → ¬ D op) :
    s.execute.Commits (handle env) D I := by
  have hnotD : ∀ {β : Type} {q : Prog β}, q.Uses (Op.saves fun _ _ => True) →
      q.Uses fun op => ¬ D op :=
    fun hq => hq.mono fun op hop => hD op hop
  have hfailUses : s.handleFailure.Uses (Op.saves fun _ _ => True) :=
    NodeService.saves_updateJob _ _ _
  refine Commits.tryExcept ?_ (fun e => commits_handler s e)
    (fun e => hfail.bind fun _ _ => .raise e) fun e => (hnotD hfailUses).bind fun _ => .raise e
  refine Commits.bind_right fun _ => Commits.bind_right fun ok => ?_
  cases ok with
  | false =>
      refine Commits.bind_right fun _ => Commits.bind_right fun _ => Commits.bind_right fun _ => ?_
      exact .raise _
  | true =>
      have hrest : (do
          Program.when (¬ (true = true)) s.handleFailure
          sendNotification
          if true then pure true else Program.raise jobFailed : Prog Bool).Uses Op.readsOnly :=
        Uses.bind (Uses.when fun h => absurd rfl h) fun _ =>
          readsOnly_sendNotification.bind fun _ => .done _
      exact Commits.bind_left hsuccess (fun _ => hkeeps hrest)
        fun _ => hnotD (saves_of_readsOnly hrest)

/-- `perform_rulesync` is queued for a sensor. -/
theorem readsOnly_afterDelete (node : Node) :
    (Program.when (node.nodeType = NodeTypes.sensor)
      (discard (Prog.orRaise (Prog.ask (.enqueue "perform_rulesync"))))).Uses Op.readsOnly :=
  Uses.when fun _ => readsOnly_enqueue _

/-- The jobs go with the `delete_many` of `Node.delete`. -/
theorem commits_jobs :
    (discard (removal node jobId).execute : Prog Unit).Commits (handle env) (DeletesJobs node.id)
      (NoJobs node.id) := by
  have hinventory : (discard (Prog.deleteOne .nodes node.id) >>= fun _ => generateInventory :
      Prog Unit).Keeps (handle env) (NoJobs node.id) fun _ => True := by
    refine .call (fun w hw => noJobs_of_deleteNode hw) fun w _ => ?_
    exact keeps_noJobs_of_readsOnly readsOnly_generateInventory
  have hinventoryUses : (discard (Prog.deleteOne .nodes node.id) >>= fun _ => generateInventory :
      Prog Unit).Uses fun op => ¬ DeletesJobs node.id op := by
    refine .call (fun h => nomatch h) fun _ => ?_
    exact readsOnly_generateInventory.mono fun op hop =>
      not_deletesJobs_of_saves (W := fun _ _ => True) (.inl hop)
  have hdelete : node.delete.Commits (handle env) (DeletesJobs node.id) (NoJobs node.id) :=
    .commit rfl (fun _ => hinventory) fun _ => hinventoryUses
  have hexecute : (removal node jobId).execute.Commits (handle env) (DeletesJobs node.id)
      (NoJobs node.id) := by
    refine commits_execute (Commits.bind_right fun _ => ?_) keeps_noJobs_of_readsOnly
      (keeps_updateJob _ _) fun op hop => not_deletesJobs_of_saves hop
    refine Commits.bind_left hdelete
      (fun _ => keeps_noJobs_of_readsOnly (readsOnly_afterDelete node)) fun _ => ?_
    exact (readsOnly_afterDelete node).mono fun op hop =>
      not_deletesJobs_of_saves (W := fun _ _ => True) (.inl hop)
  exact hexecute.bind_left (fun _ => .done trivial) fun _ => .done _

/-- The node goes with the `delete_one` after it. -/
theorem commits_node :
    (discard (removal node jobId).execute : Prog Unit).Commits (handle env) (DeletesNode node.id)
      (NoNode node.id) := by
  have hkeeps {β : Type} {q : Prog β} (hq : q.Uses Op.readsOnly) :
      q.Keeps (handle env) (NoNode node.id) fun _ => True := by
    refine Keeps.of_uses hq fun op w hop hw => ?_
    unfold NoNode at hw ⊢
    rwa [db_of_readsOnly hop]
  have hnot {β : Type} {q : Prog β} (hq : q.Uses Op.readsOnly) :
      q.Uses fun op => ¬ DeletesNode node.id op :=
    hq.mono fun op hop => not_deletesNode_of_saves (W := fun _ _ => True) (.inl hop)
  have hdelete : node.delete.Commits (handle env) (DeletesNode node.id) (NoNode node.id) := by
    refine .call fun _ => ?_
    exact .commit rfl (fun _ => hkeeps readsOnly_generateInventory)
      fun _ => hnot readsOnly_generateInventory
  have hfail : (removal node jobId).handleFailure.Keeps (handle env) (NoNode node.id)
      fun _ => True := by
    refine keeps_noNode_of_saves (W := fun _ _ => False) (NodeService.saves_updateJob _ _ _) ?_
    rintro op (hread | ⟨_, _, _, hfalse⟩ | ⟨_, _, rfl⟩) ⟨doc, hop⟩
    · subst hop
      cases hread
    · exact hfalse
    · cases hop
  have hexecute : (removal node jobId).execute.Commits (handle env) (DeletesNode node.id)
      (NoNode node.id) := by
    refine commits_execute (Commits.bind_right fun _ => ?_) hkeeps hfail
      fun op hop => not_deletesNode_of_saves hop
    exact Commits.bind_left hdelete (fun _ => hkeeps (readsOnly_afterDelete node))
      fun _ => hnot (readsOnly_afterDelete node)
  exact hexecute.bind_left (fun _ => .done trivial) fun _ => .done _

end Removal

/-! ## Removals among other operations -/

/-- After the last operation of the removal that is in `D`, no other operation
    performs one in `S`. -/
def NoneAfter (D S : Op → Prop) (es : List (Event Op)) : Prop :=
  ∀ pre op post, es = pre ++ ⟨0, op⟩ :: post → D op →
    (∀ e ∈ post, e.thread = 0 → ¬ D e.op) → ∀ e ∈ post, e.thread ≠ 0 → ¬ S e.op

/-- The other threads only read, and save nodes and jobs. -/
theorem threadsUse_startRemoval (w : World) (node : Node) (jobId : String)
    (operations : List NodeOperation) :
    ThreadsUse (fun i op => i ≠ 0 → op.saves fun _ _ => True)
      (startRemoval w node jobId operations) := by
  intro i p hi
  cases i with
  | zero =>
      -- nothing is said about the removal itself
      have hany {α : Type} (q : Prog α) : q.Uses fun op => 0 ≠ 0 → op.saves fun _ _ => True := by
        induction q with
        | done a => exact .done a
        | raise e => exact .raise e
        | call op k ih => exact .call (fun h => absurd rfl h) ih
      exact hany p
  | succ i =>
      simp only [startRemoval, List.getElem?_cons_succ, List.getElem?_map,
        Option.map_eq_some_iff] at hi
      obtain ⟨operation, -, rfl⟩ := hi
      exact operation.saves_program.mono fun op hop _ => hop

/-- A removal that returned has removed the node and its jobs for good, in every
    interleaving in which no other operation saves one of them afterwards. -/
theorem removed_of_noneAfter {env : Environment} {w : World} {node : Node} {jobId : String}
    {operations : List NodeOperation} {es : List (Event Op)}
    {c : Config Op Op.Res PyError Unit World}
    (hr : Run (handle env) (startRemoval w node jobId operations) es c)
    (hdone : c.threads[0]? = some (.done ()))
    (hjobs : NoneAfter (DeletesJobs node.id) (SavesJobOf node.id) es)
    (hnode : NoneAfter (DeletesNode node.id) (SavesNode node.id) es) :
    NoNode node.id c.state ∧ NoJobs node.id c.state := by
  have huse := threadsUse_startRemoval w node jobId operations
  constructor
  · refine hr.commit rfl commits_node huse (fun op s hop => noNode_of_deletesNode hop)
      ?_ hnode hdone
    exact fun i op s hi hop hsave hs => noNode_of_saves (hop hi) hsave hs
  · refine hr.commit rfl commits_jobs huse (fun op s hop => noJobs_of_deletesJobs hop)
      ?_ hjobs hdone
    exact fun i op s hi hop hsave hs => noJobs_of_saves (hop hi) hsave hs

/-- Once the removal has begun nobody else acts: then nobody saves anything after
    it. -/
theorem noneAfter_of_pairwise {D S : Op → Prop} {es : List (Event Op)}
    (h : (es.map Event.thread).Pairwise fun i j => i = 0 → j = 0) : NoneAfter D S es := by
  rintro pre op post rfl - - e he hne
  rw [List.map_append, List.map_cons, List.pairwise_append, List.pairwise_cons] at h
  exact absurd (h.2.1.1 e.thread (List.mem_map_of_mem he) rfl) hne

/-! ### A removal beside a request -/

/-- The removal of `server1` beside a VPN status request. -/
def removalBesideVpn : Config Op Op.Res PyError Unit World :=
  startRemoval server1World server1 "7" [.vpnStatus "server1.lan" [("vpn_status", .bool true)]]

/-- The request is served, and then the node is removed. -/
def vpnThenRemoval : List (Event Op) × Config Op Op.Res PyError Unit World :=
  removalBesideVpn.schedule (handle steadyEnv) (List.replicate 40 1 ++ List.replicate 60 0)

theorem removed_of_vpnThenRemoval :
    NoNode "n1" vpnThenRemoval.2.state ∧ NoJobs "n1" vpnThenRemoval.2.state := by
  have hdone : vpnThenRemoval.2.value? 0 = some () := by decide +kernel
  have horder : (vpnThenRemoval.1.map Event.thread).Pairwise fun i j => i = 0 → j = 0 := by
    decide +kernel
  have hr : Run (handle steadyEnv) removalBesideVpn vpnThenRemoval.1 vpnThenRemoval.2 :=
    run_schedule _ _ _
  exact removed_of_noneAfter hr (Config.getElem?_of_value? hdone)
    (noneAfter_of_pairwise horder) (noneAfter_of_pairwise horder)

/-- The property without a condition on the interleaving. -/
def RemovalFinal : Prop :=
  ∀ (env : Environment) (w : World) (node : Node) (jobId : String)
    (operations : List NodeOperation) (es : List (Event Op))
    (c : Config Op Op.Res PyError Unit World),
    Run (handle env) (startRemoval w node jobId operations) es c → c.Finished →
      c.threads[0]? = some (.done ()) → NoNode node.id c.state ∧ NoJobs node.id c.state

/-- The request loads the node, the node is removed, and the request saves it. -/
theorem not_removalFinal : ¬ RemovalFinal := by
  intro hclaim
  let r := removalBesideVpn.schedule (handle steadyEnv)
    ([1, 1] ++ List.replicate 60 0 ++ List.replicate 40 1)
  have hdone : r.2.value? 0 = some () := by decide +kernel
  have hfinished : (r.2.threads.all fun p => p.value?.isSome) = true := by decide +kernel
  have hstored : ((r.2.state.db .nodes).get? "n1").isSome = true := by decide +kernel
  have hgone := (hclaim steadyEnv server1World server1 "7" _ _ r.2 (run_schedule _ _ _)
    (Config.finished_of_values hfinished) (Config.getElem?_of_value? hdone)).1
  change (r.2.state.db .nodes).get? "n1" = none at hgone
  rw [hgone] at hstored
  cases hstored

end Tfplenum
