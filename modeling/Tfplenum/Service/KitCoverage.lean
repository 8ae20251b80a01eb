/-
  Tfplenum.Service.KitCoverage

  What a refresh of the kit gets done.  A run of it comes to its end exactly if nothing
  that is called for a node fails: a sensor whose removal fails, or any other
  exception, leaves the nodes behind it as they were and the control plane off.
-/

import Tfplenum.Service.KitRefresh

namespace Tfplenum

open Lib

namespace Playbook

variable {σ : Type} {α : Type}

/-! ## Failures -/

/-- A call that raised, or a command that did not exit with 0. -/
def RunFails : Deed RunOp.Res → Prop
  | ⟨.notify _, _⟩ => False
  | ⟨.loadJob _ _, r⟩ => ∃ e, r = .error e
  | ⟨.saveJob _ _ _, r⟩ => ∃ e, r = .error e
  | ⟨.deleteJobs _, r⟩ => ∃ e, r = .error e
  | ⟨.call (.runCommand _ _), r⟩ => r ≠ .ok (0 : Int)
  | ⟨.call _, r⟩ => ∃ e, r = .error e

def ExecFails : Deed ExecOp.Res → Prop
  | ⟨.enter _, _⟩ => False
  | ⟨.report _ _, _⟩ => False
  | ⟨.outside op, r⟩ => RunFails ⟨op, r⟩

def Fails : Deed RefreshOp.Res → Prop
  | ⟨.job op, r⟩ => ExecFails ⟨op, r⟩
  | ⟨.delay _ _, r⟩ => ∃ e, r = .error e
  | ⟨.announce _ _, _⟩ => False

theorem history_outside (env : RunEnv σ) (p : RunProg α) (w : ExecWorld σ) :
    (outside p).history (execHandle env) w =
      (p.history (handle env) w.inner).map fun d => ⟨.outside d.1, d.2⟩ := by
  induction p generalizing w with
  | done a => rfl
  | raise e => rfl
  | call op k ih =>
      show (Program.call (ExecOp.outside op) _).history _ _ = _
      rw [history_call, history_call, List.map_cons]
      exact congrArg _ (ih _ _)

theorem run_called (env : RefreshEnv σ) (p : ExecProg α) (w : ExecWorld σ) :
    (called p).run (refreshHandle env) w = p.run (execHandle env.run) w := by
  induction p generalizing w with
  | done a => rfl
  | raise e => rfl
  | call op k ih => exact ih _ _

theorem history_called (env : RefreshEnv σ) (p : ExecProg α) (w : ExecWorld σ) :
    (called p).history (refreshHandle env) w =
      (p.history (execHandle env.run) w).map fun d => ⟨.job d.1, d.2⟩ := by
  induction p generalizing w with
  | done a => rfl
  | raise e => rfl
  | call op k ih =>
      show (Program.call (RefreshOp.job op) _).history _ _ = _
      rw [history_call, history_call, List.map_cons]
      exact congrArg _ (ih _ _)

section Strict

variable {env : RunEnv σ} {G : α → Prop}

theorem strict_outside {p : RunProg α} (hp : Strict (handle env) RunFails G p) :
    Strict (execHandle env) ExecFails G (outside p) :=
  hp.of_image (fun _ => Iff.rfl) (fun w => by rw [PlaybookRun.run_outside]) (history_outside env p)

theorem strict_called {env : RefreshEnv σ} {p : ExecProg α}
    (hp : Strict (execHandle env.run) ExecFails G p) :
    Strict (refreshHandle env) Fails G (called p) :=
  hp.of_image (fun _ => Iff.rfl) (fun w => by rw [run_called]) (history_called env p)

/-! ### Calls -/

theorem strict_ask (c : RunCall) (hc : ∀ command dir, c ≠ .runCommand command dir) :
    Strict (handle env) RunFails (fun _ => True) (ask c) := by
  refine Strict.ofExcept (handle env) (.call c) (fun r => r) fun r => ?_
  cases c <;> first | rfl | exact absurd rfl (hc _ _)

theorem strict_runCommand (command dir : String) :
    Strict (handle env) RunFails (fun retVal => retVal = 0) (ask (.runCommand command dir)) := by
  refine Strict.call (fun r hr => ?_) fun r hr s a ha hzero => ?_
  · rw [not_not.mp hr]
    exact .done rfl
  · cases r with
    | error e => cases ha
    | ok a' =>
        cases ha
        exact hr (by rw [hzero])

theorem strict_loadJob (nodeId name : String) :
    Strict (handle env) RunFails (fun _ => True) (loadJob nodeId name) :=
  Strict.ofExcept (handle env) (.loadJob nodeId name) (fun r => r) fun _ => Iff.rfl

theorem strict_saveJob (nodeId name : String) (flag : JobFlag) :
    Strict (handle env) RunFails (fun _ => True) (saveJob nodeId name flag) :=
  Strict.ofExcept (handle env) (.saveJob nodeId name flag) (fun r => r) fun _ => Iff.rfl

theorem strict_deleteJobs (nodeId : String) :
    Strict (handle env) RunFails (fun _ => True) (deleteJobs nodeId) :=
  Strict.ofExcept (handle env) (.deleteJobs nodeId) (fun r => r) fun _ => Iff.rfl

theorem strict_delay {env : RefreshEnv σ} (execType : ExecType) (node : Node) :
    Strict (refreshHandle env) Fails (fun _ => True) (delay execType node) :=
  Strict.ofExcept (refreshHandle env) (.delay execType node) (fun r => r) fun _ => Iff.rfl

theorem strict_resetJob (nodeId name : String) :
    Strict (handle env) RunFails (fun _ => True) (resetJob nodeId name) := by
  refine (strict_loadJob nodeId name).andThen fun job => ?_
  cases job with
  | none => exact .done trivial
  | some flag => exact strict_saveJob _ _ _

theorem strict_setJobState (nodeId name : String) :
    Strict (handle env) RunFails (fun _ => True) (setJobState nodeId name) := by
  refine Strict.andThen (.when fun _ => strict_saveJob _ _ _) fun _ => ?_
  refine Strict.andThen (.when fun _ => strict_resetJob _ _) fun _ => ?_
  refine Strict.andThen (.when fun _ => strict_saveJob _ _ _) fun _ => ?_
  exact .when fun _ => (strict_saveJob _ _ _).andThen fun _ => strict_resetJob _ _

theorem strict_updateJob (nodeId stage : String) (outcome : Outcome) :
    Strict (handle env) RunFails (fun _ => True) (updateJob nodeId stage outcome) := by
  refine (strict_loadJob nodeId stage).andThen fun job => ?_
  cases job with
  | none => exact .done trivial
  | some flag => exact strict_saveJob _ _ _

theorem strict_deleteNode (node : Node) :
    Strict (handle env) RunFails (fun _ => True) (deleteNode node) := by
  refine (strict_deleteJobs _).andThen fun _ => ?_
  refine (strict_ask (.deleteNode node.id) fun _ _ h => by cases h).andThen fun _ => ?_
  exact strict_ask .generateInventory fun _ _ h => by cases h

theorem strict_createNode (node : Node) :
    Strict (handle env) RunFails (fun _ => True) (createNode node) := by
  have hinventory : Strict (handle env) RunFails (fun _ => True) (ask .generateInventory) :=
    strict_ask _ fun _ _ h => by cases h
  refine (strict_ask (.saveNode node.id) fun _ _ h => by cases h).andThen fun _ => ?_
  split
  · refine (strict_saveJob _ _ _).andThen fun _ => ?_
    exact (strict_saveJob _ _ _).andThen fun _ => hinventory
  · refine (strict_saveJob _ _ _).andThen fun _ => ?_
    refine (strict_saveJob _ _ _).andThen fun _ => ?_
    exact (strict_saveJob _ _ _).andThen fun _ => hinventory

end Strict

end Playbook

namespace KitRefresh

open Playbook

variable {σ : Type} {env : RunEnv σ} (kit : KitRefresh) (node : Node)

/-! ### The removal of a node -/

theorem strict_jobUpdate :
    Strict (Playbook.handle env) RunFails (fun _ => True)
      ((kit.removal node).jobUpdate node) := by
  refine (strict_loadJob _ _).andThen fun job => ?_
  cases job with
  | none => exact .done trivial
  | some flag => exact (strict_setJobState _ _).andThen fun _ => strict_saveJob _ _ _

theorem strict_prepare (jobId : String) :
    Strict (Playbook.handle env) RunFails (fun isSuccessful => isSuccessful = true)
      ((kit.removal node).prepare jobId) := by
  have hupdate : Strict (Playbook.handle env) RunFails (fun _ => True)
      (kit.removal node).updateNodeJobState := by
    refine Strict.andThen (.forEach fun n hn => ?_) fun _ =>
      strict_ask .sendNotification fun _ _ h => by cases h
    rw [List.mem_singleton.mp hn]
    exact kit.strict_jobUpdate node
  have hafter (isSuccessful : Bool) :
      (kit.removal node).afterPlaybook isSuccessful = .done isSuccessful := by
    show (if isSuccessful = true ∧ node.nodeType = NodeTypes.minio ∧ jobCreate = jobDeploy then
      PlaybookRun.setUpBucket node else .done isSuccessful) = _
    rw [if_neg fun h => absurd h.2.2 (by decide)]
  refine Strict.andThen (.when fun _ => hupdate) fun _ => ?_
  refine Strict.call (fun _ _ => ?_) fun _ h => h.elim
  show Strict _ _ _ ((PlaybookRun.executeJob (some _) _).bind _)
  refine Strict.bind (G := fun isSuccessful => isSuccessful = true) ?_ ?_ ?_
  · refine Strict.bind (strict_runCommand _ _) (fun retVal hzero => ?_) fun retVal hne s b hb => ?_
    · exact .done (decide_eq_true hzero)
    · cases hb
      simpa using hne
  · intro isSuccessful htrue
    rw [hafter]
    exact .done htrue
  · intro isSuccessful hfalse s b hb
    rw [hafter] at hb
    cases hb
    exact hfalse

theorem strict_handled (outcome : Outcome) :
    Strict (execHandle env) ExecFails (fun _ => True) ((kit.removal node).handled outcome) := by
  have hupdate : Strict (Playbook.handle env) RunFails (fun _ => True)
      ((kit.removal node).updateJobs outcome) := .forEach fun n _ => strict_updateJob _ _ _
  refine Strict.call (fun _ _ => ?_) fun _ h => h.elim
  refine (strict_outside hupdate).andThen fun _ => ?_
  exact Strict.call (fun _ _ => .done trivial) fun _ h => h.elim

theorem strict_continueWith :
    Strict (Playbook.handle env) RunFails (fun _ => True) (kit.removal node).continueWith := by
  show Strict _ _ _ ((deleteJobs node.id).bind _)
  refine (strict_deleteJobs _).andThen fun _ => ?_
  refine (strict_ask (.deleteNode node.id) fun _ _ h => by cases h).andThen fun _ => ?_
  refine (strict_ask .generateInventory fun _ _ h => by cases h).andThen fun _ => ?_
  exact .when fun _ => strict_ask .enqueueRulesync fun _ _ h => by cases h

theorem strict_body (jobId : String) :
    Strict (execHandle env) ExecFails (fun _ => True) ((kit.removal node).body jobId) := by
  have hsend : Strict (execHandle env) ExecFails (fun _ => True)
      (outside (ask .sendNotification)) :=
    strict_outside (strict_ask .sendNotification fun _ _ h => by cases h)
  refine (strict_outside (kit.strict_prepare node jobId)).bind ?_ ?_
  · rintro _ rfl
    refine Strict.andThen (.when fun _ => ?_) fun _ => ?_
    · exact (kit.strict_handled node .success).andThen fun _ =>
        strict_outside (kit.strict_continueWith node)
    · refine Strict.andThen (.when fun _ => kit.strict_handled node .failure) fun _ => ?_
      exact hsend.andThen fun _ => .done trivial
  · intro isSuccessful hfalse s b hb
    cases isSuccessful with
    | true => exact absurd rfl hfalse
    | false =>
        refine absurd hb (Raising.ne_ok ?_)
        refine Raising.bind fun _ => Raising.bind fun _ => Raising.bind fun _ => ?_
        exact Raising.raise _

theorem raising_onException (e : PyError) :
    Raising (execHandle env) ((kit.removal node).onException e) :=
  Raising.bind fun _ => Raising.bind fun _ => Raising.raise _

theorem strict_execute :
    Strict (execHandle env) ExecFails (fun _ => True) (kit.removal node).execute := by
  have hbegin : Strict (Playbook.handle env) RunFails (fun _ => True) PlaybookRun.beginRun := by
    refine (strict_ask .pushAppContext fun _ _ h => by cases h).andThen fun _ => ?_
    exact (strict_ask .currentJobId fun _ _ h => by cases h).tryExcept fun _ => Raising.raise _
  refine (strict_outside hbegin).andThen fun jobId => ?_
  exact (kit.strict_body node jobId).tryExcept (kit.raising_onException node)

/-! ### Rounds -/

variable {env : RefreshEnv σ}

theorem strict_refreshNode :
    Strict (refreshHandle env) Fails (fun _ => True) (kit.refreshNode node) := by
  unfold refreshNode
  split
  · exact (strict_called (kit.strict_execute node)).andThen fun _ => .done trivial
  · refine (strict_called (strict_outside (strict_deleteNode node))).andThen fun _ => ?_
    refine (strict_called (strict_outside (strict_createNode node))).andThen fun _ => ?_
    split
    · exact strict_delay _ _
    · split
      · exact strict_delay _ _
      · exact .done trivial

theorem strict_refreshNodes (nodes : List Node) :
    Strict (refreshHandle env) Fails (fun _ => True) (kit.refreshNodes nodes) := by
  have hpush : Strict (refreshHandle env) Fails (fun _ => True)
      (called (outside (ask .pushAppContext))) :=
    strict_called (strict_outside (strict_ask .pushAppContext fun _ _ h => by cases h))
  refine hpush.andThen fun _ => ?_
  refine Strict.call (fun _ _ => ?_) fun _ h => h.elim
  exact .forEach fun node _ => kit.strict_refreshNode node

theorem strict_refreshKit (nodes newControlPlane : List Node) (hcp : newControlPlane ≠ []) :
    Strict (refreshHandle env) Fails (fun _ => True) (kit.refreshKit nodes newControlPlane) := by
  refine (kit.strict_refreshNodes nodes).andThen fun _ => ?_
  cases newControlPlane with
  | nil => exact absurd rfl hcp
  | cons node _ =>
      refine (strict_delay .setupControlPlane node).andThen fun _ => ?_
      exact Strict.call (fun _ _ => .done trivial) fun _ h => h.elim

end KitRefresh

/-! ## Coverage -/

namespace Playbook

/-- What was done for a node, with its answer. -/
def nodeDeed (op : RunOp) (r : op.Res) : Deed RefreshOp.Res := ⟨.job (.outside op), r⟩

/-- The node is removed: the playbook went through, and the node is deleted with its jobs. -/
structure RemovedIn (node : Node) (l : List (Deed RefreshOp.Res)) : Prop where
  ran : ∃ command dir, nodeDeed (.call (.runCommand command dir)) (.ok (0 : Int)) ∈ l
  jobs : nodeDeed (.deleteJobs node.id) (.ok ()) ∈ l
  node : nodeDeed (.call (.deleteNode node.id)) (.ok ()) ∈ l

/-- The node is deleted and then created. -/
def RecreatedIn (node : Node) (l : List (Deed RefreshOp.Res)) : Prop :=
  ∃ before after, l = before ++ after ∧
    nodeDeed (.call (.deleteNode node.id)) (.ok ()) ∈ before ∧
    nodeDeed (.call (.saveNode node.id)) (.ok ()) ∈ after

/-- A job for the provisioning of the node is started. -/
def Provisions (node : Node) (d : Deed RefreshOp.Res) : Prop :=
  ∃ execType ∈ [ExecType.kickstartProfiles, .createVirtual], d = ⟨.delay execType node, .ok ()⟩

def StartsControlPlane (d : Deed RefreshOp.Res) : Prop :=
  ∃ node, d = ⟨.delay .setupControlPlane node, .ok ()⟩

/-- What is done in the round of a node, unless something fails in it. -/
def CoveredIn (node : Node) (l : List (Deed RefreshOp.Res)) : Prop :=
  (∃ d ∈ l, Fails d) ∨
    if node.nodeType = NodeTypes.sensor then RemovedIn node l
    else RecreatedIn node l ∧ Once (Provisions node) l

/-- There is a round for each node, nothing is provisioned outside of these, and the control
    plane is started once. -/
structure CoversAll (nodes : List Node) (l : List (Deed RefreshOp.Res)) : Prop where
  rounds : ∃ before rounds after, l = before ++ (rounds.flatten ++ after) ∧
    List.Forall₂ CoveredIn nodes rounds ∧
    ∀ node, Free (Provisions node) before ∧ Free (Provisions node) after
  controlPlane : Once StartsControlPlane l

end Playbook

namespace KitRefresh

open Playbook

variable {σ : Type} (env : RefreshEnv σ) (kit : KitRefresh)

/-! ### What is queued -/

theorem uses_called {α : Type} {A : RefreshOp → Prop} (hA : ∀ op, A (.job op)) (p : ExecProg α) :
    (called p).Uses A := by
  induction p with
  | done a => exact .done a
  | raise e => exact .raise e
  | call op k ih => exact .call (hA op) ih

/-- A job that is queued for a node while the nodes are refreshed is for its provisioning, and
    as it is deployed. -/
def QueuesDeployed : RefreshOp → Prop
  | .delay execType node =>
      execType = .kickstartProfiles ∧ node.deploymentType = some DeploymentTypes.baremetal ∨
        execType = .createVirtual ∧ node.deploymentType = some DeploymentTypes.virtual
  | _ => True

theorem uses_refreshNode (node : Node) : (kit.refreshNode node).Uses QueuesDeployed := by
  unfold refreshNode
  split
  · exact (uses_called (fun _ => trivial) _).bind fun _ => .done _
  · refine (uses_called (fun _ => trivial) _).bind fun _ => ?_
    refine (uses_called (fun _ => trivial) _).bind fun _ => ?_
    split
    · rename_i hbaremetal
      exact .call (.inl ⟨rfl, hbaremetal⟩) fun r => Program.uses_ofExcept r
    · split
      · rename_i hvirtual
        exact .call (.inr ⟨rfl, hvirtual⟩) fun r => Program.uses_ofExcept r
      · exact .done _

theorem uses_refreshNodes (nodes : List Node) : (kit.refreshNodes nodes).Uses QueuesDeployed := by
  refine (uses_called (fun _ => trivial) _).bind fun _ => ?_
  refine .call trivial fun _ => ?_
  exact Program.uses_forEach fun node _ => kit.uses_refreshNode node

theorem not_startsControlPlane {op : RefreshOp} (hop : QueuesDeployed op) (r : op.Res) :
    ¬ StartsControlPlane ⟨op, r⟩ := by
  rintro ⟨node, heq⟩
  cases heq
  rcases hop with ⟨h, -⟩ | ⟨h, -⟩ <;> cases h

theorem free_startsControlPlane (nodes : List Node) (w : ExecWorld σ) :
    Free StartsControlPlane ((kit.refreshNodes nodes).history (refreshHandle env) w) :=
  free_history _ _ ((kit.uses_refreshNodes nodes).mono fun _ hop r => not_startsControlPlane hop r)

/-- The end of a refresh: the job is queued or not. -/
theorem finish_eq (node : Node) (nodes : List Node) :
    ((startControlPlane (node :: nodes)).bind fun _ =>
      announce "COMPLETED" "All refresh jobs started.") =
      .call (.delay .setupControlPlane node) fun r => (Program.ofExcept r).bind fun _ =>
        announce "COMPLETED" "All refresh jobs started." := rfl

/-- Only a run in which nothing fails comes to the control plane. -/
theorem free_of_starts {nodes newControlPlane : List Node} {w : ExecWorld σ}
    {d : Deed RefreshOp.Res}
    (hmem : d ∈ (kit.refreshKit nodes newControlPlane).history (refreshHandle env) w)
    (hstarts : StartsControlPlane d) :
    newControlPlane ≠ [] ∧
      Free Fails ((kit.refreshKit nodes newControlPlane).history (refreshHandle env) w) := by
  have hnodes := kit.free_startsControlPlane env nodes w
  rcases hrun : (kit.refreshNodes nodes).run (refreshHandle env) w with ⟨e | u, w'⟩
  · rw [refreshKit, Program.bind_eq, history_bind_error _ hrun] at hmem
    exact absurd hstarts (hnodes d hmem)
  rw [refreshKit, Program.bind_eq, history_bind_ok _ hrun] at hmem
  have hrest := (List.mem_append.mp hmem).resolve_left fun h => hnodes d h hstarts
  cases newControlPlane with
  | nil => cases hrest
  | cons node rest =>
      refine ⟨List.cons_ne_nil _ _, ?_⟩
      rw [← kit.strict_refreshKit _ _ (List.cons_ne_nil _ _) w, refreshKit, Program.bind_eq,
        Program.run_bind_ok _ hrun]
      rw [Program.bind_eq, finish_eq] at hrest ⊢
      rw [history_call] at hrest
      rw [Program.run_call]
      -- the queue has taken the job, since it is started
      rcases hanswer : (refreshHandle env (.delay .setupControlPlane node) w').1 with e | u'
      · rw [hanswer] at hrest
        rw [List.mem_singleton.mp hrest] at hstarts
        obtain ⟨node', heq⟩ := hstarts
        cases heq
      · exact ⟨(), rfl, trivial⟩

/-! ### What is done for a node -/

section Does

variable {env}
variable {B : Deed RunOp.Res → Prop} {B' : Deed RefreshOp.Res → Prop}
variable (hB : ∀ d, B d → B' (nodeDeed d.1 d.2))
include hB

theorem does_called {α : Type} {p : RunProg α} (hp : Does (Playbook.handle env.run) B p) :
    Does (refreshHandle env) B' (called (outside p)) := by
  have hout : Does (execHandle env.run) (fun d => ∃ d', B d' ∧ d = ⟨.outside d'.1, d'.2⟩)
      (outside p) :=
    hp.of_image (fun d hd => ⟨d, hd, rfl⟩) (fun w => by rw [PlaybookRun.run_outside])
      (history_outside env.run p)
  refine hout.of_image ?_ (fun w => by rw [run_called]) (history_called env _)
  rintro _ ⟨d, hd, rfl⟩
  exact hB d hd

/-- What the playbook or the handler of its success does, a removal that returns has done. -/
theorem does_removal (node : Node)
    (hp : (∀ jobId, Does (Playbook.handle env.run) B ((kit.removal node).prepare jobId)) ∨
      Does (Playbook.handle env.run) B (kit.removal node).continueWith) :
    Does (refreshHandle env) B' (called (kit.removal node).execute) := by
  have hout {α : Type} {p : RunProg α} (hp : Does (Playbook.handle env.run) B p) :
      Does (execHandle env.run) (fun d => ∃ d', B d' ∧ d = ⟨.outside d'.1, d'.2⟩) (outside p) :=
    hp.of_image (fun d hd => ⟨d, hd, rfl⟩) (fun w => by rw [PlaybookRun.run_outside])
      (history_outside env.run p)
  have hexecute : Does (execHandle env.run) (fun d => ∃ d', B d' ∧ d = ⟨.outside d'.1, d'.2⟩)
      (kit.removal node).execute := by
    refine Does.bind_right fun jobId => Does.tryExcept ?_ (kit.raising_onException node)
    rcases hp with hprepare | hcontinue
    · exact Does.bind_left (hout (hprepare jobId))
    · refine Does.bind_right fun isSuccessful => ?_
      cases isSuccessful with
      | true => exact Does.bind_left (Does.bind_right fun _ => hout hcontinue)
      | false =>
          refine Does.of_raising (Raising.bind fun _ => Raising.bind fun _ => ?_)
          exact Raising.bind fun _ => Raising.raise _
  refine hexecute.of_image ?_ (fun w => by rw [run_called]) (history_called env _)
  rintro _ ⟨d, hd, rfl⟩
  exact hB d hd

end Does

/-- A call that returns was answered with a value. -/
theorem does_ask {env : RunEnv σ} {α : Type} (c : RunCall) (f : c.Res → RunProg α) :
    Does (Playbook.handle env) (fun d => ∃ r, d = ⟨.call c, .ok r⟩) ((ask c).bind f) := by
  refine Does.bind_left (Does.call fun answer w a ha => ?_)
  cases answer with
  | error e => cases ha
  | ok r => exact ⟨r, rfl⟩

theorem does_deleteJobs {env : RunEnv σ} {α : Type} (nodeId : String) (f : Unit → RunProg α) :
    Does (Playbook.handle env) (· = ⟨.deleteJobs nodeId, .ok ()⟩) ((deleteJobs nodeId).bind f) := by
  refine Does.bind_left (Does.call fun answer w a ha => ?_)
  cases answer with
  | error e => cases ha
  | ok r => rfl

/-- A removal that returns, without a failure, has removed the node. -/
theorem removedIn_of_returns (node : Node) {w : ExecWorld σ} {b : Bool}
    (hreturns : ((called (kit.removal node).execute).run (refreshHandle env) w).1 = .ok b)
    (hfree : Free Fails ((called (kit.removal node).execute).history (refreshHandle env) w)) :
    RemovedIn node ((called (kit.removal node).execute).history (refreshHandle env) w) := by
  -- the playbook ran, the node's jobs and then the node were deleted
  have hran : Does (refreshHandle env) (fun d => ∃ command dir r,
      d = nodeDeed (.call (.runCommand command dir)) (.ok r))
      (called (kit.removal node).execute) := by
    refine kit.does_removal (B := fun d => ∃ command dir r,
      d = ⟨.call (.runCommand command dir), .ok r⟩) ?_ node (.inl fun jobId => ?_)
    · rintro _ ⟨command, dir, r, rfl⟩
      exact ⟨command, dir, r, rfl⟩
    · refine Does.bind_right fun _ => Does.bind_right fun _ => ?_
      refine Does.bind_left (p := PlaybookRun.executeJob (some _) _) ?_
      intro w' b' hb'
      obtain ⟨d, hd, r, rfl⟩ := does_ask (.runCommand _ _) (fun retVal => _) w' b' hb'
      exact ⟨_, hd, _, _, r, rfl⟩
  have hjobs : Does (refreshHandle env) (· = nodeDeed (.deleteJobs node.id) (.ok ()))
      (called (kit.removal node).execute) := by
    refine kit.does_removal (B := (· = ⟨.deleteJobs node.id, .ok ()⟩)) ?_ node (.inr ?_)
    · rintro _ rfl
      rfl
    · exact does_deleteJobs node.id _
  have hnode : Does (refreshHandle env) (· = nodeDeed (.call (.deleteNode node.id)) (.ok ()))
      (called (kit.removal node).execute) := by
    refine kit.does_removal (B := fun d => ∃ r, d = ⟨.call (.deleteNode node.id), .ok r⟩) ?_ node
      (.inr ?_)
    · rintro _ ⟨r, rfl⟩
      rfl
    · exact Does.bind_right (p := deleteJobs node.id) fun _ => does_ask (.deleteNode node.id) _
  obtain ⟨d, hd, command, dir, r, rfl⟩ := hran w b hreturns
  obtain ⟨_, hd', rfl⟩ := hjobs w b hreturns
  obtain ⟨_, hd'', rfl⟩ := hnode w b hreturns
  -- an exit code other than 0 counts as a failure
  have hzero : r = 0 := by
    by_contra hne
    exact hfree _ hd fun h => hne (by cases h; rfl)
  rw [hzero] at hd
  exact ⟨⟨command, dir, hd⟩, hd', hd''⟩

/-- The job for the provisioning is queued, if there is one for the deployment type. -/
theorem once_provisions (node : Node) {execType : ExecType}
    (hexec : execType ∈ [ExecType.kickstartProfiles, .createVirtual])
    {before : List (Deed RefreshOp.Res)} (hbefore : Free (Provisions node) before)
    {w : ExecWorld σ} (hreturns : ((delay execType node).run (refreshHandle env) w).1 = .ok ()) :
    Once (Provisions node) (before ++ (delay execType node).history (refreshHandle env) w) := by
  have hdelay : delay execType node =
      .call (.delay execType node) fun r => Program.ofExcept r := rfl
  rw [hdelay, Program.run_call] at hreturns
  rw [hdelay, history_call]
  rcases hanswer : (refreshHandle env (.delay execType node) w).1 with e | u
  · rw [hanswer] at hreturns
    cases hreturns
  · exact ⟨before, _, [], rfl, ⟨execType, hexec, rfl⟩, hbefore, fun d hd => by cases hd⟩

/-- What is done for a node before something is queued provisions nothing. -/
theorem free_provisions {α : Type} (node : Node) (p : ExecProg α) (w : ExecWorld σ) :
    Free (Provisions node) ((called p).history (refreshHandle env) w) := by
  rw [history_called]
  intro d hd
  obtain ⟨d', -, rfl⟩ := List.mem_map.mp hd
  rintro ⟨execType, -, heq⟩
  cases heq

theorem does_deleteNode (node : Node) :
    Does (refreshHandle env) (· = nodeDeed (.call (.deleteNode node.id)) (.ok ()))
      (called (outside (deleteNode node))) := by
  refine does_called (B := fun d => ∃ r, d = ⟨.call (.deleteNode node.id), .ok r⟩) ?_
    (Does.bind_right fun _ => does_ask (.deleteNode node.id) _)
  rintro _ ⟨r, rfl⟩
  rfl

theorem does_createNode (node : Node) :
    Does (refreshHandle env) (· = nodeDeed (.call (.saveNode node.id)) (.ok ()))
      (called (outside (createNode node))) := by
  refine does_called (B := fun d => ∃ r, d = ⟨.call (.saveNode node.id), .ok r⟩) ?_
    (does_ask (.saveNode node.id) _)
  rintro _ ⟨r, rfl⟩
  rfl

/-- A node that is not a sensor is deleted, created and provisioned, in this order. -/
theorem recreatedIn_of_returns {node : Node} (hsensor : ¬ node.nodeType = NodeTypes.sensor)
    (hdeployed : node.deploymentType = some DeploymentTypes.baremetal ∨
      node.deploymentType = some DeploymentTypes.virtual)
    {w : ExecWorld σ} (hreturns : ((kit.refreshNode node).run (refreshHandle env) w).1 = .ok ()) :
    RecreatedIn node ((kit.refreshNode node).history (refreshHandle env) w) ∧
      Once (Provisions node) ((kit.refreshNode node).history (refreshHandle env) w) := by
  rw [refreshNode, if_neg hsensor] at hreturns ⊢
  simp only [Program.bind_eq] at hreturns ⊢
  obtain ⟨u, w₁, hdelete, hreturns₁, hhistory₁⟩ := exists_of_returns _ _ hreturns
  obtain ⟨u', w₂, hcreate, hreturns₂, hhistory₂⟩ := exists_of_returns _ _ hreturns₁
  obtain ⟨_, hd, rfl⟩ := does_deleteNode env node w u (by rw [hdelete])
  obtain ⟨_, hd', rfl⟩ := does_createNode env node w₁ u' (by rw [hcreate])
  rw [hhistory₁, hhistory₂]
  refine ⟨⟨_, _, rfl, hd, List.mem_append_left _ hd'⟩, ?_⟩
  rw [← List.append_assoc]
  have hbefore : Free (Provisions node)
      ((called (outside (deleteNode node))).history (refreshHandle env) w ++
        (called (outside (createNode node))).history (refreshHandle env) w₁) := by
    intro d hd
    rcases List.mem_append.mp hd with hd | hd
    · exact free_provisions env node _ _ d hd
    · exact free_provisions env node _ _ d hd
  by_cases hbaremetal : node.deploymentType = some DeploymentTypes.baremetal
  · rw [if_pos hbaremetal] at hreturns₂ ⊢
    exact once_provisions env node (by simp) hbefore hreturns₂
  · have hvirtual := hdeployed.resolve_left hbaremetal
    rw [if_neg hbaremetal, if_pos hvirtual] at hreturns₂ ⊢
    exact once_provisions env node (by simp) hbefore hreturns₂

theorem coveredIn_refreshNode {node : Node}
    (hdeployed : node.nodeType ≠ NodeTypes.sensor →
      node.deploymentType = some DeploymentTypes.baremetal ∨
        node.deploymentType = some DeploymentTypes.virtual)
    {w : ExecWorld σ} (hreturns : ((kit.refreshNode node).run (refreshHandle env) w).1 = .ok ()) :
    CoveredIn node ((kit.refreshNode node).history (refreshHandle env) w) := by
  by_cases hfree : Free Fails ((kit.refreshNode node).history (refreshHandle env) w)
  swap
  · -- something has failed
    left
    by_contra hnone
    exact hfree fun d hd hfails => hnone ⟨d, hd, hfails⟩
  right
  -- a sensor is removed in the loop itself, the others are queued
  by_cases hsensor : node.nodeType = NodeTypes.sensor
  · rw [if_pos hsensor]
    rw [refreshNode, if_pos hsensor] at hreturns hfree ⊢
    obtain ⟨b, w', hrun, -, hhistory⟩ := exists_of_returns _ _ hreturns
    rw [hhistory, Program.pure_eq, history_done, List.append_nil] at hfree ⊢
    exact kit.removedIn_of_returns env node (by rw [hrun]) hfree
  · rw [if_neg hsensor]
    exact kit.recreatedIn_of_returns env hsensor (hdeployed hsensor) hreturns

/-! ### Whole runs -/

/-- No job for the provisioning of a node is queued that is not deployed in one of two ways. -/
theorem deployed_of_provisions {nodes newControlPlane : List Node} {w : ExecWorld σ} {node : Node}
    {d : Deed RefreshOp.Res}
    (hmem : d ∈ (kit.refreshKit nodes newControlPlane).history (refreshHandle env) w)
    (hprovisions : Provisions node d) :
    node.deploymentType = some DeploymentTypes.baremetal ∨
      node.deploymentType = some DeploymentTypes.virtual := by
  have huses : (kit.refreshKit nodes newControlPlane).Uses fun op =>
      QueuesDeployed op ∨ ∃ cp, op = .delay .setupControlPlane cp := by
    refine ((kit.uses_refreshNodes nodes).mono fun op hop => .inl hop).bind fun _ => ?_
    refine Program.Uses.bind ?_ fun _ => .call (.inl trivial) fun _ => .done _
    cases newControlPlane with
    | nil => exact .raise _
    | cons cp _ => exact .call (.inr ⟨cp, rfl⟩) fun r => Program.uses_ofExcept r
  by_contra hnot
  refine free_history (B := fun d => ∃ node, Provisions node d ∧
    ¬ (node.deploymentType = some DeploymentTypes.baremetal ∨
      node.deploymentType = some DeploymentTypes.virtual)) (refreshHandle env) w
    (huses.mono ?_) d hmem ⟨node, hprovisions, hnot⟩
  rintro op hop r ⟨node', ⟨execType, hexec, heq⟩, hnot'⟩
  cases heq
  rcases hop with (⟨-, hbaremetal⟩ | ⟨-, hvirtual⟩) | ⟨cp, heq⟩
  · exact hnot' (.inl hbaremetal)
  · exact hnot' (.inr hvirtual)
  · cases heq
    simp at hexec

/-- If the loop comes to its end, there is a round for each node. -/
theorem exists_rounds_refreshNodes {nodes : List Node} {w : ExecWorld σ} {u : Unit}
    (hreturns : ((kit.refreshNodes nodes).run (refreshHandle env) w).1 = .ok u)
    (hdeployed : ∀ node ∈ nodes, node.nodeType ≠ NodeTypes.sensor →
      node.deploymentType = some DeploymentTypes.baremetal ∨
        node.deploymentType = some DeploymentTypes.virtual) :
    ∃ before rounds, (kit.refreshNodes nodes).history (refreshHandle env) w =
        before ++ rounds.flatten ∧ List.Forall₂ CoveredIn nodes rounds ∧
      ∀ node, Free (Provisions node) before := by
  rw [refreshNodes, Program.bind_eq] at hreturns ⊢
  obtain ⟨u', w₁, hpush, hreturns, hhistory₁⟩ := exists_of_returns _ _ hreturns
  rw [hhistory₁]
  show ∃ before rounds, _ ++ (Program.call (RefreshOp.announce _ _) _).history _ _ = _ ∧ _
  rw [history_call]
  have hloop : ((Program.forEach nodes kit.refreshNode).run (refreshHandle env) w₁).1 = .ok u :=
    hreturns
  obtain ⟨rounds, hrounds, hhistory⟩ := exists_rounds _ _ hloop fun node hnode w' hreturns' =>
    kit.coveredIn_refreshNode env (hdeployed node hnode) hreturns'
  refine ⟨(called (outside (ask .pushAppContext))).history (refreshHandle env) w ++
    [⟨.announce "STARTED" "Kit Refresh started.", ()⟩], rounds, ?_, hrounds, fun node d hd => ?_⟩
  · rw [← hhistory, List.append_assoc]
    rfl
  · rcases List.mem_append.mp hd with hd | hd
    · exact free_provisions env node _ _ d hd
    · rw [List.mem_singleton.mp hd]
      rintro ⟨execType, -, heq⟩
      cases heq

/-- A run in which nothing fails does everything for each node and starts the control plane. -/
theorem coversAll_of_free {nodes newControlPlane : List Node} {w : ExecWorld σ}
    (hfree : Free Fails ((kit.refreshKit nodes newControlPlane).history (refreshHandle env) w))
    (hdeployed : ∀ node ∈ nodes, node.nodeType ≠ NodeTypes.sensor →
      node.deploymentType = some DeploymentTypes.baremetal ∨
        node.deploymentType = some DeploymentTypes.virtual)
    (hcp : newControlPlane ≠ []) :
    CoversAll nodes ((kit.refreshKit nodes newControlPlane).history (refreshHandle env) w) := by
  cases newControlPlane with
  | nil => exact absurd rfl hcp
  | cons cp rest =>
      obtain ⟨u, hreturns, -⟩ := (kit.strict_refreshKit nodes (cp :: rest) hcp w).mpr hfree
      rw [refreshKit, Program.bind_eq] at hreturns ⊢
      obtain ⟨u', w', hnodes, hreturns, hhistory₁⟩ := exists_of_returns _ _ hreturns
      rw [Program.bind_eq, finish_eq, Program.run_call] at hreturns
      rw [hhistory₁, Program.bind_eq, finish_eq, history_call]
      have hstarts := kit.free_startsControlPlane env nodes w
      obtain ⟨before, rounds, hhistory, hrounds, hbefore⟩ :=
        kit.exists_rounds_refreshNodes env (by rw [hnodes]) hdeployed
      rcases hanswer : (refreshHandle env (.delay .setupControlPlane cp) w').1 with e | u''
      · rw [hanswer] at hreturns
        cases hreturns
      have hprovisions (node : Node) : Free (Provisions node)
          [(⟨.delay .setupControlPlane cp, .ok u''⟩ : Deed RefreshOp.Res),
            ⟨.announce "COMPLETED" "All refresh jobs started.", ()⟩] := by
        rintro d hd ⟨execType, hexec, rfl⟩
        rcases List.mem_pair.mp hexec with rfl | rfl <;> simp at hd
      refine ⟨⟨before, rounds, _, ?_, hrounds, fun node => ⟨hbefore node, hprovisions node⟩⟩, ?_⟩
      · rw [hhistory, List.append_assoc]
        rfl
      · refine ⟨_, _, _, rfl, ⟨cp, rfl⟩, hstarts, fun d hd => ?_⟩
        rw [List.mem_singleton.mp hd]
        rintro ⟨node, heq⟩
        cases heq

/-- A refresh covers the kit exactly if nothing fails in it, each node that is not a sensor is
    deployed on bare metal or virtually, and there is a control plane. -/
theorem coversAll_iff (nodes newControlPlane : List Node) (w : ExecWorld σ) :
    CoversAll nodes ((kit.refreshKit nodes newControlPlane).history (refreshHandle env) w) ↔
      Free Fails ((kit.refreshKit nodes newControlPlane).history (refreshHandle env) w) ∧
      (∀ node ∈ nodes, node.nodeType ≠ NodeTypes.sensor →
        node.deploymentType = some DeploymentTypes.baremetal ∨
          node.deploymentType = some DeploymentTypes.virtual) ∧
      newControlPlane ≠ [] := by
  constructor
  · rintro ⟨⟨before, rounds, after, hhistory, hrounds, -⟩, first, d, last, hsplit, hstarts, -⟩
    have hmem : d ∈ (kit.refreshKit nodes newControlPlane).history (refreshHandle env) w := by
      rw [hsplit]
      exact List.mem_append_right _ (List.mem_cons_self ..)
    obtain ⟨hcp, hfree⟩ := kit.free_of_starts env hmem hstarts
    refine ⟨hfree, fun node hnode hsensor => ?_, hcp⟩
    obtain ⟨round, hround, hcovered⟩ := exists_of_forall₂ hrounds hnode
    have hsub : ∀ d ∈ round,
        d ∈ (kit.refreshKit nodes newControlPlane).history (refreshHandle env) w := by
      intro d hd
      rw [hhistory]
      exact List.mem_append_right _
        (List.mem_append_left _ (List.mem_flatten.mpr ⟨round, hround, hd⟩))
    rcases hcovered with ⟨d, hd, hfails⟩ | hdone
    · exact absurd hfails (hfree d (hsub d hd))
    · rw [if_neg hsensor] at hdone
      obtain ⟨-, front, job, back, rfl, hprovisions, -⟩ := hdone
      exact kit.deployed_of_provisions env (hsub job (by simp)) hprovisions
  · rintro ⟨hfree, hdeployed, hcp⟩
    exact kit.coversAll_of_free env hfree hdeployed hcp

/-! ### A removal that fails -/

/-- Every playbook fails by its return code. -/
def refused : RefreshEnv Unit where
  run := PlaybookRun.playbookFails
  delay := fun _ _ s => (.ok (), s)

def server2 : Node :=
  { PlaybookRun.sensor9 with
    id := "n2", hostname := "server2.lan", nodeType := NodeTypes.server
    deploymentType := some DeploymentTypes.baremetal }

def controlPlane1 : Node :=
  { server2 with id := "n1", hostname := "control-plane.lan", nodeType := NodeTypes.controlPlane }

/-- The server behind the sensor is left as it was, and so is the control plane. -/
theorem not_coversAll : ¬ ∀ (env : RefreshEnv Unit) (kit : KitRefresh)
    (nodes newControlPlane : List Node) (w : ExecWorld Unit),
      CoversAll nodes ((kit.refreshKit nodes newControlPlane).history (refreshHandle env) w) := by
  intro h
  obtain ⟨front, d, back, hsplit, hstarts, -⟩ := (h refused ⟨"/opt/mip", "/opt/core"⟩
    [PlaybookRun.sensor9, server2] [controlPlane1]
    (PlaybookRun.start (fun _ _ => none) ())).controlPlane
  have hmem : d ∈ front ++ d :: back := List.mem_append_right _ (List.mem_cons_self ..)
  rw [← hsplit] at hmem
  obtain ⟨hcp, hfree⟩ := free_of_starts _ _ hmem hstarts
  obtain ⟨u, hreturns, -⟩ := (strict_refreshKit _ _ _ hcp _).mpr hfree
  have hraises : (((KitRefresh.mk "/opt/mip" "/opt/core").refreshKit
      [PlaybookRun.sensor9, server2] [controlPlane1]).run (refreshHandle refused)
        (PlaybookRun.start (fun _ _ => none) ())).1 = .error jobFailed := by
    rfl
  rw [hraises] at hreturns
  cases hreturns

end KitRefresh

end Tfplenum
