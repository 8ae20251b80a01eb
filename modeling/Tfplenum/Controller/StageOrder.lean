/-
  Tfplenum.Controller.StageOrder

  The runs that work on the stages of a node, each cut into its start and its end:
  `execute` for one node or the kit, `gather_device_facts`, and the status callback
  of the node.  A step is one start or end, performed as a whole.

  No place checks the order of the stages.  It holds as long as every step meets
  `StageStep.Orderly`, and the first one that does not can break it.
-/

import Tfplenum.Controller.JobStates
import Tfplenum.Models.JobStages

namespace Tfplenum

open Lib Program

/-- The stored documents, and the runs of `gather_device_facts` under way, each with
    the provision job as it loaded it. -/
structure StageState where
  world : World
  gathering : List (Node × Option NodeJob)

/-- The start or the end of a run, or a callback. -/
inductive StageStep where
  | executeStart (s : NodeService) (hstage : s.stage ∈ stageNames)
  /-- what `execute` queues or runs after it has set its job is a step of its own -/
  | executeEnd (s : NodeService) (hstage : s.stage ∈ stageNames) (success : Bool)
  | kitStart (s : KitService) (hstage : s.stage ∈ stageNames)
  | kitEnd (s : KitService) (hstage : s.stage ∈ stageNames) (success : Bool)
  | gatherStart (node : Node) (jobId : String)
  /-- the run with this number ends, with the facts of the machine or without -/
  | gatherEnd (run : Nat) (facts : Option (List (String × Json)))
  /-- `NodeStateCtrl.post` -/
  | callback (hostname : String) (payload : List (String × Json))

namespace StageStep

/-- What the end of a run of `gather_device_facts` does. -/
def gathered (node : Node) (nodeJob : Option NodeJob) : Option (List (String × Json)) → Prog Unit
  | some facts => provisioned node nodeJob facts
  | none => setJobError nodeJob (provisioningTimeout node)

def perform (env : Environment) : StageStep → StageState → StageState
  | .executeStart s _, σ => { σ with world := (s.jobUpdate.run (handle env) σ.world).2 }
  | .executeEnd s _ success, σ =>
      { σ with world := ((updateJob s.node s.stage success).run (handle env) σ.world).2 }
  | .kitStart s _, σ =>
      { σ with world := ((Program.forEach s.nodes s.jobUpdate).run (handle env) σ.world).2 }
  | .kitEnd s _ success, σ => { σ with world := ((s.handle success).run (handle env) σ.world).2 }
  | .gatherStart node jobId, σ =>
      match (loadProvisionJob node jobId).run (handle env) σ.world with
      | (.ok nodeJob, w) => ⟨w, σ.gathering ++ [(node, nodeJob)]⟩
      | (.error _, w) => { σ with world := w }
  | .gatherEnd run facts, σ =>
      match σ.gathering[run]? with
      | none => σ
      | some (node, nodeJob) =>
          ⟨((gathered node nodeJob facts).run (handle env) σ.world).2, σ.gathering.eraseIdx run⟩
  | .callback hostname payload, σ =>
      { σ with world := ((NodeStateCtrl.post hostname payload).run (handle env) σ.world).2 }

/-- The step starts or completes a stage only where no earlier one is in progress,
    and reopens the provisioning only where the deployment is idle. -/
def Orderly : StageStep → StageState → Prop
  | .executeStart s _, σ => (stages σ.world).Clear s.node.id s.stage
  | .executeEnd s _ success, σ => success = true → (stages σ.world).Clear s.node.id s.stage
  | .kitStart s _, σ => ∀ node ∈ s.nodes, (stages σ.world).Clear node.id s.stage
  | .kitEnd s _ success, σ =>
      success = true → ∀ node ∈ s.nodes, (stages σ.world).Clear node.id s.stage
  | .gatherStart node _, σ =>
      (stages σ.world).Clear node.id jobProvision ∧ (stages σ.world).Ahead node.id jobProvision
  | .gatherEnd run facts, σ =>
      facts.isSome → ∀ node nodeJob, σ.gathering[run]? = some (node, nodeJob) →
        (stages σ.world).Clear node.id jobProvision
  | .callback hostname payload, σ =>
      NodeStateCtrl.change payload ≠ .error →
        ∀ row name,
          (σ.world.db .nodes).findOne (fun _ node => node.hostname = hostname) = some row →
          payload.lookup "name" = some (.str name) →
            row.1 ≠ "" ∧ (stages σ.world).Clear row.1 name

end StageStep

/-- A run of steps, each of which meets `C` in the state it starts from. -/
inductive StageRun (env : Environment) (C : StageStep → StageState → Prop) :
    StageState → StageState → Prop
  | nil (σ) : StageRun env C σ σ
  | snoc {σ σ' : StageState} (hr : StageRun env C σ σ') (step : StageStep) (hstep : C step σ') :
      StageRun env C σ (step.perform env σ')

/-- The jobs are in order, and each run under way holds a copy of the job it loaded. -/
structure StageState.Good (σ : StageState) : Prop where
  distinct : (stages σ.world).Distinct
  inOrder : (stages σ.world).InOrder
  held : ∀ node job, (node, some job) ∈ σ.gathering →
    job.CopyOf (stages σ.world) node.id jobProvision

/-! ## One step -/

section Steps

variable {env : Environment} {V : Stages} {n s : String}

/-- The same jobs as in `V`, in order. -/
structure Ordered (V : Stages) (w : World) : Prop where
  sameKeys : Stages.SameKeys V (stages w)
  inOrder : (stages w).InOrder

theorem ordered_of_onStages {V' : Stages} {w : World} (hkeys : Stages.SameKeys V V')
    (hV' : V'.InOrder) (hw : OnStages V' w) : Ordered V w := by
  have hw' : stages w = V' := hw
  exact ⟨hw' ▸ hkeys, hw' ▸ hV'⟩

/-- The program keeps the jobs and their order. -/
abbrev KeepsOrder (env : Environment) (V : Stages) {α : Type} (p : Prog α) : Prop :=
  Triple (handle env) (OnStages V) p (fun _ => Ordered V) fun _ => Ordered V

theorem keepsOrder_executeStart (hV : V.Distinct) (ho : V.InOrder) (sv : NodeService)
    (hstage : sv.stage ∈ stageNames) (hclear : V.Clear sv.node.id sv.stage) :
    KeepsOrder env V sv.jobUpdate := by
  have hne : sv.stage ≠ jobRemove := by
    intro h
    rw [h] at hstage
    revert hstage
    decide
  unfold NodeService.jobUpdate
  rw [if_neg hne]
  refine (stages_startJob hV sv.node.id hstage (some sv.jobId) sv.execType.str).post ?_
  rintro _ w (⟨-, hw⟩ | ⟨-, hw⟩)
  · exact ordered_of_onStages (.refl V) ho hw
  · exact ordered_of_onStages Stages.sameKeys_start (ho.start hclear) hw

theorem inOrder_put_end (ho : V.InOrder) {success : Bool} (hclear : success = true → V.Clear n s) :
    (V.put n s (if success then .done else .idle)).InOrder := by
  cases success with
  | true => exact ho.put (fun h => by cases h) fun _ => hclear rfl
  | false => exact ho.putIdle

theorem keepsOrder_updateJob (hV : V.Distinct) (ho : V.InOrder) (node : Node) (stage : String)
    (success : Bool) (hclear : success = true → V.Clear node.id stage) :
    KeepsOrder env V (updateJob node stage success) :=
  (stages_updateJob hV node stage success).post fun _ _ hw =>
    ordered_of_onStages Stages.sameKeys_put (inOrder_put_end ho hclear) hw

theorem keepsOrder_forEach {nodes : List Node} {body : Node → Prog Unit} (hV : V.Distinct)
    (ho : V.InOrder) (C : Stages → Prop) (hC : C V)
    (hbody : ∀ node ∈ nodes, ∀ V' : Stages, V'.Distinct → V'.InOrder → C V' →
      Triple (handle env) (OnStages V') (body node) (fun _ w => Ordered V' w ∧ C (stages w))
        fun _ => Ordered V') :
    KeepsOrder env V (Program.forEach nodes body) := by
  have hloop : Triple (handle env) (fun w => Ordered V w ∧ C (stages w))
      (Program.forEach nodes body) (fun _ w => Ordered V w ∧ C (stages w)) fun _ => Ordered V := by
    refine Triple.forEach fun node hnode => Triple.forall_pre fun w hw => ?_
    have hnext {w' : World} (hw' : Ordered (stages w) w') : Ordered V w' :=
      ⟨hw.1.sameKeys.trans hw'.sameKeys, hw'.inOrder⟩
    refine (hbody node hnode (stages w) (hw.1.sameKeys.distinct hV) hw.1.inOrder
      hw.2).conseq ?_ ?_ ?_
    · rintro w' rfl
      rfl
    · exact fun _ w' hw' => ⟨hnext hw'.1, hw'.2⟩
    · exact fun _ w' hw' => hnext hw'
  refine hloop.conseq ?_ (fun _ w hw => hw.1) fun _ _ hw => hw
  rintro w rfl
  exact ⟨⟨.refl _, ho⟩, hC⟩

/-- No earlier stage of any of the nodes is in progress. -/
def ClearAll (nodes : List Node) (stage : String) (V : Stages) : Prop :=
  ∀ node ∈ nodes, V.Clear node.id stage

theorem keepsOrder_kitStart (hV : V.Distinct) (ho : V.InOrder) (sv : KitService)
    (hstage : sv.stage ∈ stageNames) (hclear : ClearAll sv.nodes sv.stage V) :
    KeepsOrder env V (Program.forEach sv.nodes sv.jobUpdate) := by
  have hne : sv.stage ≠ jobRemove := by
    intro h
    rw [h] at hstage
    revert hstage
    decide
  refine keepsOrder_forEach hV ho (ClearAll sv.nodes sv.stage) hclear ?_
  intro node hnode V' hV' ho' hclear'
  unfold KitService.jobUpdate
  rw [if_neg hne]
  refine (stages_startJob hV' node.id hstage (some sv.jobId) "DEPLOYMENT_JOBS.base_kit").post ?_
  rintro _ w (⟨-, rfl⟩ | ⟨-, hw⟩)
  · exact ⟨⟨.refl _, ho'⟩, hclear'⟩
  · refine ⟨ordered_of_onStages Stages.sameKeys_start (ho'.start (hclear' node hnode)) hw, ?_⟩
    rw [show stages w = _ from hw]
    exact fun node' hnode' => (hclear' node' hnode').start

theorem keepsOrder_kitEnd (hV : V.Distinct) (ho : V.InOrder) (sv : KitService) (success : Bool)
    (hclear : success = true → ClearAll sv.nodes sv.stage V) :
    KeepsOrder env V (sv.handle success) := by
  refine keepsOrder_forEach hV ho (fun V => success = true → ClearAll sv.nodes sv.stage V) hclear ?_
  intro node hnode V' hV' ho' hclear'
  refine (stages_updateJob hV' node sv.stage success).post fun _ w hw => ⟨?_, ?_⟩
  · have hput := inOrder_put_end ho' fun h => hclear' h node hnode
    exact ordered_of_onStages Stages.sameKeys_put hput hw
  · rw [show stages w = _ from hw]
    intro hsuccess node' hnode'
    refine (hclear' hsuccess node' hnode').put fun hx => ?_
    cases success <;> cases hx.2.2

/-- The provision job is reopened without a word to the later stages. -/
theorem keepsOrder_gatherStart (env : Environment) (hV : V.Distinct) (ho : V.InOrder)
    (node : Node) (jobId : String) (hclear : V.Clear node.id jobProvision)
    (hahead : V.Ahead node.id jobProvision) :
    Triple (handle env) (OnStages V) (loadProvisionJob node jobId)
      (fun o w => (∀ job ∈ o, job.CopyOf V node.id jobProvision) ∧ Ordered V w)
      fun _ => Ordered V := by
  refine (stages_loadJobByNodeId node.id jobProvision).bind fun o => Triple.assume fun hfound => ?_
  cases o with
  | none =>
      refine Triple.done fun w hw => ⟨?_, ordered_of_onStages (.refl V) ho hw⟩
      intro job hjob
      cases hjob
  | some job =>
      have hjob := hfound.1 job rfl
      have hcopy : NodeJob.CopyOf V node.id jobProvision
          ⟨job.id, NodeJob.inprogressDoc (some jobId) job.doc⟩ :=
        ⟨hjob.nodeId, hjob.name, hjob.stored⟩
      have hput : (V.put node.id jobProvision .running).InOrder :=
        ho.put (fun _ => hahead) fun _ => hclear
      refine (stages_setter hV hcopy rfl).bind fun job' => Triple.done fun w hw => ⟨?_, ?_⟩
      · rintro job'' ⟨⟩
        rw [hw.1]
        exact hcopy
      · exact ordered_of_onStages Stages.sameKeys_put hput hw.2

/-- A node that is saved is no job. -/
theorem stages_saveNode (node : Node) :
    Triple (handle env) (OnStages V) node.saveToDb (fun _ => OnStages V) fun _ => OnStages V := by
  have hne : Collection.nodes ≠ .jobs := by decide
  refine Triple.bind (Triple.ofExcept (fun _ _ _ hw => hw) fun _ _ _ hw => hw) fun doc => ?_
  refine Triple.bind (Triple.perform fun w hw => ?_) fun _ =>
    stages_of_readsOnly readsOnly_generateInventory
  exact onStages_of_jobs (db_of_ne env w (.replaceOne .nodes node.id doc) hne) hw

theorem keepsOrder_gatherEnd (hV : V.Distinct) (ho : V.InOrder) (node : Node)
    {nodeJob : Option NodeJob} (hjob : ∀ job ∈ nodeJob, job.CopyOf V node.id jobProvision)
    (facts : Option (List (String × Json)))
    (hclear : facts.isSome → V.Clear node.id jobProvision) :
    KeepsOrder env V (StageStep.gathered node nodeJob facts) := by
  have hraise : ∀ (e : PyError) (w : World), OnStages V w → Ordered V w :=
    fun _ _ hw => ordered_of_onStages (.refl V) ho hw
  cases facts with
  | none =>
      cases nodeJob with
      | none => exact Triple.done fun w hw => ordered_of_onStages (.refl V) ho hw
      | some job =>
          have h := hjob job rfl
          have hcopy : NodeJob.CopyOf V node.id jobProvision
              ⟨job.id, NodeJob.errorDoc (some (provisioningTimeout node)) job.doc⟩ :=
            ⟨h.nodeId, h.name, h.stored⟩
          exact (stages_setterUnit hV hcopy rfl).post fun _ _ hw =>
            ordered_of_onStages Stages.sameKeys_put ho.putIdle hw
  | some facts =>
      have hclear := hclear rfl
      let V' := (V.start node.id jobProvision).put node.id jobProvision .done
      have hV' : V'.InOrder := (ho.start hclear).put (fun h => by cases h) fun _ => hclear.start
      have hkeys : Stages.SameKeys V V' := Stages.sameKeys_start.trans Stages.sameKeys_put
      have hcomplete : Triple (handle env) (OnStages V) (completeJob nodeJob)
          (fun _ w => OnStages V w ∨ OnStages V' w) fun _ => Ordered V := by
        cases nodeJob with
        | none => exact Triple.done fun w hw => .inl hw
        | some job =>
            refine (stages_setJobState hV (hjob job rfl) none).bind fun job' => ?_
            refine Triple.assume fun hjob' => ?_
            have h : NodeJob.CopyOf (V.start node.id jobProvision) node.id jobProvision job' :=
              hjob'.1.sameKeys Stages.sameKeys_start
            have hcopy : NodeJob.CopyOf (V.start node.id jobProvision) node.id jobProvision
                ⟨job'.id, NodeJob.completeDoc job'.doc⟩ :=
              ⟨h.nodeId, h.name, h.stored⟩
            exact (stages_setterUnit (Stages.sameKeys_start.distinct hV) hcopy rfl).post
              fun _ _ hw => .inr hw
      have hqueue (V'' : Stages) (hkeys : Stages.SameKeys V V'') (ho'' : V''.InOrder)
          (node : Node) :
          Triple (handle env) (OnStages V'') (enqueueDeployment node) (fun _ => Ordered V)
            fun _ => Ordered V :=
        (stages_of_readsOnly (readsOnly_enqueueDeployment node)).conseq (fun _ hw => hw)
          (fun _ _ hw => ordered_of_onStages hkeys ho'' hw)
          fun _ _ hw => ordered_of_onStages hkeys ho'' hw
      refine Triple.bind ((stages_saveNode _).conseq (fun _ hw => hw) (fun _ _ hw => hw) hraise)
        fun _ => hcomplete.bind fun _ => Triple.forall_pre ?_
      rintro w (hw | hw)
      · exact (hqueue V (.refl V) ho _).pre (by rintro _ rfl; exact hw)
      · exact (hqueue V' hkeys hV' _).pre (by rintro _ rfl; exact hw)

/-- A node that is loaded has the id of the document it was found in. -/
theorem stages_loadNode (env : Environment) (hostname : String) {w : World} (hw : OnStages V w) :
    Triple (handle env) (· = w) (Node.loadFromDbUsingHostname hostname)
      (fun o w' => (∀ node ∈ o, ∃ row,
        (w.db .nodes).findOne (fun _ node => node.hostname = hostname) = some row ∧
          (row.1 ≠ "" → node.id = row.1)) ∧ OnStages V w')
      fun _ => OnStages V := by
  refine Triple.call ?_
  intro w₀ hw₀
  have hw₀ : w = w₀ := hw₀.symm
  subst hw₀
  simp only [handle_db, DocOp.apply_findOne, done_bind]
  cases hrow : (w.db .nodes).findOne fun _ node => node.hostname = hostname with
  | none =>
      refine Triple.done ?_
      rintro _ rfl
      refine ⟨?_, hw⟩
      intro node hnode
      cases hnode
  | some row =>
      obtain ⟨id, doc⟩ := row
      have hload : Triple (handle env) (OnStages V) (Node.loadDoc (id, doc))
          (fun node w' => (id ≠ "" → node.id = id) ∧ OnStages V w') fun _ => OnStages V := by
        rcases Node.loadDoc_cases id doc with ⟨e, he⟩ | ⟨ip, -, hmade⟩
        · rw [he]
          exact Triple.raise fun w' hw' => hw'
        · rw [hmade, Node.init_ofDoc]
          have hid : Triple (handle env) (OnStages V)
              (if id = "" then Prog.ask .uuid4 else pure id)
              (fun id' w' => (id ≠ "" → id' = id) ∧ OnStages V w') fun _ => OnStages V := by
            split
            · rename_i hempty
              refine (stages_of_readsOnly (Prog.readsOnly_ask _)).post fun _ _ hw' => ⟨?_, hw'⟩
              exact fun h => absurd hempty h
            · exact Triple.done fun _ hw' => ⟨fun _ => rfl, hw'⟩
          refine hid.bind fun id' => Triple.assume fun hid' => ?_
          refine (stages_of_readsOnly (Node.readsOnly_setHostname _)).bind fun _ => ?_
          refine (stages_of_readsOnly (Node.readsOnly_setMacAddress _ _)).bind fun _ => ?_
          exact Triple.done fun _ hw' => ⟨hid', hw'⟩
      have hfound := hload.bind (R := fun (o : Option Node) w' => (∀ node ∈ o, ∃ row,
          some (id, doc) = some row ∧ (row.1 ≠ "" → node.id = row.1)) ∧ OnStages V w')
        (f := fun node => .done (some node)) fun node => Triple.done fun w' hw' => ⟨?_, hw'.2⟩
      · exact hfound.pre (by rintro _ rfl; exact hw)
      · rintro node' ⟨⟩
        exact ⟨(id, doc), rfl, hw'.1⟩

/-- What the callback does to a job: the stage is started, and then it may be set to
    what the payload says. -/
theorem keepsOrder_callbackJob (hV : V.Distinct) (ho : V.InOrder) (node : Node) {job : NodeJob}
    {name : String} (hjob : job.CopyOf V n name) (payload : List (String × Json))
    (hclear : NodeStateCtrl.change payload ≠ .error → V.Clear n name) :
    KeepsOrder env V (do
      let job ← job.setJobState none
      NodeStateCtrl.applyChange node job name payload
      sendNotification) := by
  have hkeys : Stages.SameKeys V (V.start n name) := Stages.sameKeys_start
  have hput (x : StageStatus) : Stages.SameKeys V ((V.start n name).put n name x) :=
    hkeys.trans Stages.sameKeys_put
  have hset {job' : NodeJob} (hjob' : job'.CopyOf V n name) {doc : JobDoc}
      (hn : doc.nodeId = job'.doc.nodeId) (hs : doc.name = job'.doc.name)
      (ho' : ((V.start n name).put n name doc.stageJob.status).InOrder) :
      Triple (handle env) (OnStages (V.start n name))
        (discard (do
          NodeJob.saveToDb ⟨job'.id, doc⟩
          return (⟨job'.id, doc⟩ : NodeJob)) : Prog Unit)
        (fun _ => Ordered V) fun _ => Ordered V := by
    have h := hjob'.sameKeys hkeys
    have hcopy : NodeJob.CopyOf (V.start n name) n name ⟨job'.id, doc⟩ :=
      ⟨hn.trans h.nodeId, hs.trans h.name, h.stored⟩
    exact (stages_setterUnit (hkeys.distinct hV) hcopy rfl).post fun _ _ hw =>
      ordered_of_onStages (hput _) ho' hw
  have hnotify : Triple (handle env) (Ordered V) sendNotification (fun _ => Ordered V)
      fun _ => Ordered V := by
    refine Triple.of_uses readsOnly_sendNotification ?_
    intro op w hop hw
    have hsame : stages (handle env op w).2 = stages w :=
      onStages_of_jobs (V := stages w) (by rw [db_of_readsOnly hop]) rfl
    exact ⟨hsame ▸ hw.sameKeys, hsame ▸ hw.inOrder⟩
  refine (stages_setJobState hV hjob none).bind fun job' => Triple.assume fun hjob' => ?_
  refine Triple.bind ?_ fun _ => hnotify
  unfold NodeStateCtrl.applyChange
  cases hchange : NodeStateCtrl.change payload with
  | error => exact hset hjob'.1 rfl rfl ho.startIdle
  | complete =>
      have hcl : V.Clear n name := hclear (by rw [hchange]; intro h; cases h)
      exact hset hjob'.1 rfl rfl ((ho.start hcl).put (fun h => by cases h) fun _ => hcl.start)
  | none =>
      have hcl : V.Clear n name := hclear (by rw [hchange]; intro h; cases h)
      exact Triple.done fun w hw => ordered_of_onStages hkeys (ho.start hcl) hw
  | inprogress =>
      have hcl : V.Clear n name := hclear (by rw [hchange]; intro h; cases h)
      have hstart := ho.start hcl
      dsimp only
      split
      · -- the facts are gathered by a job of the queue
        have hread : (do
            discard (Prog.orRaise (Prog.ask .loadKitSettings))
            Program.when (node.nodeType = NodeTypes.mip)
              (discard (Prog.orRaise (Prog.ask .loadMipSettings)))
            discard (Prog.orRaise (Prog.ask (.enqueue "gather_device_facts"))) : Prog Unit).Uses
              Op.readsOnly := by
          refine Uses.bind (Uses.bind (Prog.uses_orRaise (Prog.readsOnly_ask _))
            fun _ => .done _) ?_
          intro _
          refine Uses.bind (Uses.when fun _ => ?_) fun _ => readsOnly_enqueue _
          exact Uses.bind (Prog.uses_orRaise (Prog.readsOnly_ask _)) fun _ => .done _
        exact (stages_of_readsOnly hread).conseq (fun _ hw => hw)
          (fun _ _ hw => ordered_of_onStages hkeys hstart hw)
          fun _ _ hw => ordered_of_onStages hkeys hstart hw
      · refine hset hjob'.1 rfl rfl ?_
        exact hstart.put (fun _ => ho.ahead_start) fun _ => hcl.start

theorem keepsOrder_changeJob (hV : V.Distinct) (ho : V.InOrder) (node : Node) (name : String)
    (payload : List (String × Json))
    (hclear : NodeStateCtrl.change payload ≠ .error → V.Clear node.id name) :
    KeepsOrder env V (NodeStateCtrl.changeJob node name payload) := by
  refine (stages_loadJobByNodeId node.id name).bind fun o => Triple.assume fun hfound => ?_
  cases o with
  | none => exact Triple.done fun w hw => ordered_of_onStages (.refl V) ho hw
  | some job =>
      have hcancel : Triple (handle env) (OnStages V)
          (NodeStateCtrl.cancelGathering node job name (NodeStateCtrl.change payload))
          (fun _ => OnStages V) fun _ => Ordered V :=
        (stages_of_readsOnly (NodeStateCtrl.readsOnly_cancelGathering _ _ _ _)).conseq
          (fun _ hw => hw) (fun _ _ hw => hw) fun _ _ hw => ordered_of_onStages (.refl V) ho hw
      exact hcancel.bind fun _ =>
        keepsOrder_callbackJob hV ho node (hfound.1 job rfl) payload hclear

theorem keepsOrder_callback (hV : V.Distinct) (ho : V.InOrder) {w : World} (hw : OnStages V w)
    (hostname : String) (payload : List (String × Json))
    (hclear : NodeStateCtrl.change payload ≠ .error → ∀ row name,
      (w.db .nodes).findOne (fun _ node => node.hostname = hostname) = some row →
        payload.lookup "name" = some (.str name) → row.1 ≠ "" ∧ V.Clear row.1 name) :
    Triple (handle env) (· = w) (NodeStateCtrl.post hostname payload) (fun _ => Ordered V)
      fun _ => Ordered V := by
  have hstay : ∀ w', OnStages V w' → Ordered V w' :=
    fun w' hw' => ordered_of_onStages (.refl V) ho hw'
  have hload := (stages_loadNode env hostname hw).conseq (fun _ h => h) (fun _ _ h => h)
    fun _ w' hw' => hstay w' hw'
  refine Triple.tryExcept (hload.bind fun o => Triple.assume fun hnode => ?_) fun e => ?_
  · cases o with
    | none => exact Triple.done fun w' hw' => hstay w' hw'
    | some node =>
        obtain ⟨row, hrow, hid⟩ := hnode node rfl
        refine Triple.bind (Triple.when (fun _ => ?_) fun _ w' hw' => hstay w' hw') fun _ =>
          Triple.done fun _ hw' => hw'
        refine Triple.bind (Triple.ofExcept
          (Q := fun value w' => (Json.obj payload).getItem "name" = .ok value ∧ OnStages V w')
          (fun _ _ h hw' => ⟨h, hw'⟩) fun _ w' _ hw' => hstay w' hw') fun value => ?_
        refine Triple.assume fun hvalue => ?_
        split
        · rename_i name
          refine keepsOrder_changeJob hV ho node name payload fun hchange => ?_
          have hlookup : payload.lookup "name" = some (.str name) := by
            rw [Json.getItem] at hvalue
            split at hvalue
            · rename_i value hvalue'
              cases hvalue
              exact hvalue'
            · cases hvalue
          obtain ⟨hne, hcl⟩ := hclear hchange row name hrow hlookup
          rw [hid hne]
          exact hcl
        · exact Triple.done fun w' hw' => hstay w' hw'
  · split
    · exact Triple.done fun _ hw' => hw'
    · split
      · exact Triple.done fun _ hw' => hw'
      · exact Triple.raise fun _ hw' => hw'

/-- What a triple for the stages says about a run from a state. -/
theorem ordered_run {α : Type} {p : Prog α} {w : World}
    (hp : Triple (handle env) (· = w) p (fun _ => Ordered V) fun _ => Ordered V) :
    Ordered V (p.run (handle env) w).2 :=
  hp.leaves rfl

theorem ordered_run' {α : Type} {p : Prog α} {w : World} (hp : KeepsOrder env (stages w) p) :
    Ordered (stages w) (p.run (handle env) w).2 :=
  ordered_run (hp.pre (by rintro _ rfl; rfl))

end Steps

/-! ## Runs -/

section Runs

variable {env : Environment} {σ σ' : StageState}

/-- A step on the stored documents alone. -/
theorem StageState.Good.setWorld (hσ : σ.Good) {w : World} (hw : Ordered (stages σ.world) w)
    {gathering : List (Node × Option NodeJob)} (hsub : ∀ run ∈ gathering, run ∈ σ.gathering) :
    StageState.Good ⟨w, gathering⟩ where
  distinct := hw.sameKeys.distinct hσ.distinct
  inOrder := hw.inOrder
  held node job hmem := (hσ.held node job (hsub _ hmem)).sameKeys hw.sameKeys

theorem StageStep.good_perform (step : StageStep) (hσ : σ.Good) (hstep : step.Orderly σ) :
    (step.perform env σ).Good := by
  have hV := hσ.distinct
  have ho := hσ.inOrder
  have hall : ∀ run ∈ σ.gathering, run ∈ σ.gathering := fun _ hrun => hrun
  cases step with
  | executeStart s hstage =>
      exact hσ.setWorld (ordered_run' (keepsOrder_executeStart hV ho s hstage hstep)) hall
  | executeEnd s hstage success =>
      exact hσ.setWorld
        (ordered_run' (keepsOrder_updateJob hV ho s.node s.stage success hstep)) hall
  | kitStart s hstage =>
      exact hσ.setWorld (ordered_run' (keepsOrder_kitStart hV ho s hstage hstep)) hall
  | kitEnd s hstage success =>
      exact hσ.setWorld (ordered_run' (keepsOrder_kitEnd hV ho s success hstep)) hall
  | callback hostname payload =>
      exact hσ.setWorld (ordered_run (keepsOrder_callback hV ho rfl hostname payload hstep)) hall
  | gatherStart node jobId =>
      have hstart := (keepsOrder_gatherStart env hV ho node jobId hstep.1 hstep.2).apply
        σ.world rfl
      rcases hr : (loadProvisionJob node jobId).run (handle env) σ.world with ⟨e | nodeJob, w⟩ <;>
        rw [hr] at hstart <;> simp only [StageStep.perform, hr]
      · exact hσ.setWorld hstart hall
      · -- the run that starts holds a copy of the job it loaded
        have hgood := hσ.setWorld hstart.2 hall
        refine ⟨hgood.distinct, hgood.inOrder, ?_⟩
        intro node' job hmem
        rcases List.mem_append.mp hmem with hmem | hmem
        · exact hgood.held node' job hmem
        · cases List.mem_singleton.mp hmem
          exact (hstart.1 job rfl).sameKeys hstart.2.sameKeys
  | gatherEnd run facts =>
      cases hrun : σ.gathering[run]? with
      | none =>
          simp only [StageStep.perform, hrun]
          exact hσ
      | some entry =>
          obtain ⟨node, nodeJob⟩ := entry
          simp only [StageStep.perform, hrun]
          have hmem : (node, nodeJob) ∈ σ.gathering := List.mem_of_getElem? hrun
          have hheld : ∀ job ∈ nodeJob, job.CopyOf (stages σ.world) node.id jobProvision := by
            rintro job ⟨⟩
            exact hσ.held node job hmem
          have hclear : facts.isSome → (stages σ.world).Clear node.id jobProvision :=
            fun hfacts => hstep hfacts node nodeJob hrun
          refine hσ.setWorld (ordered_run' (keepsOrder_gatherEnd hV ho node hheld facts hclear)) ?_
          exact fun _ h => List.mem_of_mem_eraseIdx h

/-- In every state that orderly steps reach, no stage of a node is in progress while a
    later one is in progress or complete. -/
theorem inOrder_of_orderly (env : Environment) (hσ : σ.Good)
    (hrun : StageRun env StageStep.Orderly σ σ') : (stages σ'.world).InOrder := by
  have hgood : σ'.Good := by
    induction hrun with
    | nil => exact hσ
    | snoc _ step hstep ih => exact step.good_perform ih hstep
  exact hgood.inOrder

/-- Nothing has begun, and a node has one job for a stage. -/
structure StageState.Fresh (σ : StageState) : Prop where
  distinct : (stages σ.world).Distinct
  idle : ∀ i j, stages σ.world i = some j → j.status = .idle
  gathering : σ.gathering = []

theorem StageState.Fresh.good (h : σ.Fresh) : σ.Good where
  distinct := h.distinct
  inOrder := fun _ i₂ _ j₂ _ h₂ _ _ _ => h.idle i₂ j₂ h₂
  held := fun node job hmem => by
    rw [h.gathering] at hmem
    cases hmem

/-- The property without a condition on the steps. -/
def StagesInOrder : Prop :=
  ∀ (env : Environment) (σ σ' : StageState), σ.Fresh → StageRun env (fun _ _ => True) σ σ' →
    (stages σ'.world).InOrder

end Runs

/-! ## A node is provisioned once more -/

def server1Job (name : String) : JobDoc where
  message := none
  name := name
  nodeId := "n1"
  pending := true
  complete := false
  inprogress := false
  error := false
  description := none
  jobId := none
  execType := none

/-- `server1` with the jobs it was created with. -/
def freshServer1 : StageState where
  world := {
    db
      | .settings => Table.empty.upsert generalSettingsId lanForm.dump
      | .nodes => Table.empty.upsert "n1" server1Doc
      | .jobs => ((Table.empty.upsert "j1" (server1Job jobCreate)).upsert "j2"
          (server1Job jobProvision)).upsert "j3" (server1Job jobDeploy)
      | _ => Table.empty
    calls := 0 }
  gathering := []

theorem fresh_freshServer1 : freshServer1.Fresh := by
  have hcases (i : String) (j : StageJob) (h : stages freshServer1.world i = some j) :
      (i = "j1" ∧ j = (server1Job jobCreate).stageJob) ∨
        (i = "j2" ∧ j = (server1Job jobProvision).stageJob) ∨
          (i = "j3" ∧ j = (server1Job jobDeploy).stageJob) := by
    obtain ⟨doc, hdoc, rfl⟩ := Option.map_eq_some_iff.mp h
    have hget : (((Table.empty.upsert "j1" (server1Job jobCreate)).upsert "j2"
        (server1Job jobProvision)).upsert "j3" (server1Job jobDeploy)).get? i = some doc := hdoc
    simp only [Table.get?_upsert] at hget
    split at hget
    · exact .inr (.inr ⟨‹_›, congrArg _ (Option.some.inj hget).symm⟩)
    · split at hget
      · exact .inr (.inl ⟨‹_›, congrArg _ (Option.some.inj hget).symm⟩)
      · split at hget
        · exact .inl ⟨‹_›, congrArg _ (Option.some.inj hget).symm⟩
        · cases hget
  refine ⟨?_, ?_, rfl⟩
  · intro i₁ i₂ j₁ j₂ h₁ h₂ _ hname
    rcases hcases i₁ j₁ h₁ with ⟨rfl, rfl⟩ | ⟨rfl, rfl⟩ | ⟨rfl, rfl⟩ <;>
      rcases hcases i₂ j₂ h₂ with ⟨rfl, rfl⟩ | ⟨rfl, rfl⟩ | ⟨rfl, rfl⟩ <;>
        first | rfl | (revert hname; decide)
  · intro i j h
    rcases hcases i j h with ⟨-, rfl⟩ | ⟨-, rfl⟩ | ⟨-, rfl⟩ <;> rfl

/-- The create stage of `server1`. -/
def createService : NodeService := ⟨"1", .kickstartProfiles, jobCreate, server1, 0⟩

theorem jobCreate_mem : createService.stage ∈ stageNames := by decide

/-- The deployment of `server1`. -/
def deployService : NodeService := ⟨"2", .addNode, jobDeploy, server1, 0⟩

theorem jobDeploy_mem : deployService.stage ∈ stageNames := by decide

/-- `server1` is created, provisioned and deployed. -/
def built : List StageStep :=
  [.executeStart createService jobCreate_mem, .executeEnd createService jobCreate_mem true,
    .gatherStart server1 "3", .gatherEnd 0 (some [("hostname", .str "server1")]),
    .executeStart deployService jobDeploy_mem, .executeEnd deployService jobDeploy_mem true]

/-- The state after the first steps. -/
def builtBy (steps : Nat) : StageState :=
  (built.take steps).foldl (fun σ step => step.perform steadyEnv σ) freshServer1

theorem orderly_built : StageRun steadyEnv StageStep.Orderly freshServer1 (builtBy 6) := by
  have hgathering : (builtBy 3).gathering.map (fun run => run.1.id) = ["n1"] := by decide +kernel
  have hend : (StageStep.gatherEnd 0 (some [("hostname", .str "server1")])).Orderly
      (builtBy 3) := by
    intro _ node nodeJob hrun
    have hid : node.id ∈ (builtBy 3).gathering.map fun run => run.1.id :=
      List.mem_map_of_mem (List.mem_of_getElem? hrun)
    rw [hgathering, List.mem_singleton] at hid
    rw [hid]
    decide +kernel
  have hcreate (σ : StageState) : (stages σ.world).Clear server1.id jobCreate :=
    fun _ _ _ _ hbefore => absurd hbefore Stages.not_before_create
  have hprovision : (stages (builtBy 2).world).Clear server1.id jobProvision ∧
      (stages (builtBy 2).world).Ahead server1.id jobProvision := by
    decide +kernel
  have hdeploy : (stages (builtBy 4).world).Clear server1.id jobDeploy := by decide +kernel
  have hdeployed : (stages (builtBy 5).world).Clear server1.id jobDeploy := by decide +kernel
  have hrun₂ : StageRun steadyEnv StageStep.Orderly freshServer1 (builtBy 2) :=
    .snoc (.snoc (.nil _) (.executeStart createService jobCreate_mem) (hcreate _))
      (.executeEnd createService jobCreate_mem true) fun _ => hcreate _
  have hrun₄ : StageRun steadyEnv StageStep.Orderly freshServer1 (builtBy 4) :=
    .snoc (.snoc hrun₂ (.gatherStart server1 "3") hprovision) _ hend
  exact .snoc (.snoc hrun₄ (.executeStart deployService jobDeploy_mem) hdeploy)
    (.executeEnd deployService jobDeploy_mem true) fun _ => hdeployed

theorem inOrder_of_built : (stages (builtBy 6).world).InOrder :=
  inOrder_of_orderly steadyEnv fresh_freshServer1.good orderly_built

/-- Every stage is complete. -/
example : ["j1", "j2", "j3"].map (fun id => (stages (builtBy 6).world id).map StageJob.status) =
    [some .done, some .done, some .done] := by
  decide +kernel

/-- `server1` is deployed, and then its machine asks to be provisioned. -/
def redeployed : StageState :=
  let started := (StageStep.executeStart deployService jobDeploy_mem).perform steadyEnv freshServer1
  let deployed := (StageStep.executeEnd deployService jobDeploy_mem true).perform steadyEnv started
  (StageStep.gatherStart server1 "3").perform steadyEnv deployed

theorem not_stagesInOrder : ¬ StagesInOrder := by
  intro hclaim
  have hrun : StageRun steadyEnv (fun _ _ => True) freshServer1 redeployed :=
    .snoc (.snoc (.snoc (.nil freshServer1) (.executeStart deployService jobDeploy_mem) trivial)
      (.executeEnd deployService jobDeploy_mem true) trivial) (.gatherStart server1 "3") trivial
  have hprovision : stages redeployed.world "j2" = some ⟨"n1", jobProvision, .running⟩ := by
    decide +kernel
  have hdeploy : stages redeployed.world "j3" = some ⟨"n1", jobDeploy, .done⟩ := by
    decide +kernel
  have hidle := hclaim steadyEnv freshServer1 redeployed fresh_freshServer1 hrun "j2" "j3" _ _
    hprovision hdeploy rfl (.inr ⟨rfl, rfl⟩) rfl
  exact absurd hidle (by decide)

end Tfplenum
