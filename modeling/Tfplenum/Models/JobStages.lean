/-
  Tfplenum.Models.JobStages

  The jobs of nodes as stages that follow one another: create, provision, deploy.
  Of each job only its node, its stage and whether it is in progress or complete
  is kept (`Stages`); setting a job is `Stages.put`, and `set_job_state` is
  `Stages.start`.  What the programs do to the stages is said by one triple each.
-/

import Tfplenum.Service.JobService
import Tfplenum.Lib.Hoare
import Tfplenum.Models.NodeOperations

namespace Tfplenum

open Lib Program

/-! ## Stages -/

structure StageStatus where
  inprogress : Bool
  complete : Bool
deriving DecidableEq, Repr

namespace StageStatus

/-- Pending, or ended with an error. -/
def idle : StageStatus := ⟨false, false⟩
def running : StageStatus := ⟨true, false⟩
def done : StageStatus := ⟨false, true⟩

end StageStatus

structure StageJob where
  nodeId : String
  name : String
  status : StageStatus
deriving DecidableEq, Repr

/-- The jobs, by their ids. -/
abbrev Stages := String → Option StageJob

/-- `a` comes before `b`. -/
def StageBefore (a b : String) : Prop :=
  (a = jobCreate ∧ (b = jobProvision ∨ b = jobDeploy)) ∨ (a = jobProvision ∧ b = jobDeploy)

theorem jobProvision_ne_jobCreate : jobProvision ≠ jobCreate := by decide
theorem jobDeploy_ne_jobCreate : jobDeploy ≠ jobCreate := by decide
theorem jobDeploy_ne_jobProvision : jobDeploy ≠ jobProvision := by decide

instance (a b : String) : Decidable (StageBefore a b) := inferInstanceAs (Decidable (_ ∨ _))

theorem StageBefore.ne {a b : String} (h : StageBefore a b) : a ≠ b := by
  rintro rfl
  rcases h with ⟨rfl, h | h⟩ | ⟨rfl, h⟩ <;> revert h <;> decide

namespace Stages

variable {V V' : Stages} {n m s t : String} {x y : StageStatus}

/-- No stage of a node is in progress while a later one is in progress or complete. -/
def InOrder (V : Stages) : Prop :=
  ∀ i₁ i₂ j₁ j₂, V i₁ = some j₁ → V i₂ = some j₂ → j₁.nodeId = j₂.nodeId →
    StageBefore j₁.name j₂.name → j₁.status.inprogress = true → j₂.status = .idle

/-- A node has one job for a stage. -/
def Distinct (V : Stages) : Prop :=
  ∀ i₁ i₂ j₁ j₂, V i₁ = some j₁ → V i₂ = some j₂ → j₁.nodeId = j₂.nodeId → j₁.name = j₂.name →
    i₁ = i₂

/-- No stage of the node before this one is in progress. -/
def Clear (V : Stages) (n s : String) : Prop :=
  ∀ i j, V i = some j → j.nodeId = n → StageBefore j.name s → j.status.inprogress = false

/-- Every stage of the node after this one is idle. -/
def Ahead (V : Stages) (n s : String) : Prop :=
  ∀ i j, V i = some j → j.nodeId = n → StageBefore s j.name → j.status = .idle

/-- The job of the node for the stage, where there is one, gets the status. -/
def put (V : Stages) (n s : String) (x : StageStatus) : Stages := fun i =>
  (V i).map fun j => if j.nodeId = n ∧ j.name = s then { j with status := x } else j

/-- What `set_job_state` does for the stage. -/
def start (V : Stages) (n s : String) : Stages :=
  if s = jobDeploy then V.put n s .running
  else if s = jobProvision then (V.put n jobDeploy .idle).put n s .running
  else if s = jobCreate then ((V.put n jobDeploy .idle).put n s .running).put n jobProvision .idle
  else V

/-! ### Setting a job -/

theorem put_eq_some {i : String} {j : StageJob} (h : V.put n s x i = some j) :
    ∃ k, V i = some k ∧ j.nodeId = k.nodeId ∧ j.name = k.name ∧
      j.status = if k.nodeId = n ∧ k.name = s then x else k.status := by
  obtain ⟨k, hk, rfl⟩ := Option.map_eq_some_iff.mp h
  refine ⟨k, hk, ?_⟩
  split <;> exact ⟨rfl, rfl, rfl⟩

theorem put_put : (V.put n s x).put n s y = V.put n s y := by
  funext i
  simp only [put, Option.map_map]
  congr 1
  funext j
  simp only [Function.comp_apply]
  by_cases h : j.nodeId = n ∧ j.name = s
  · simp [h]
  · simp [h]

theorem put_comm (h : s ≠ t) : (V.put n s x).put m t y = (V.put m t y).put n s x := by
  funext i
  simp only [put, Option.map_map]
  congr 1
  funext j
  simp only [Function.comp_apply]
  by_cases h1 : j.nodeId = n ∧ j.name = s
  · have h2 : ¬(j.nodeId = m ∧ j.name = t) := fun h2 => h (h1.2.symm.trans h2.2)
    rw [if_pos h1, if_neg h2, if_neg h2, if_pos h1]
  · rw [if_neg h1]
    by_cases h2 : j.nodeId = m ∧ j.name = t
    · rw [if_pos h2, if_neg h1]
    · rw [if_neg h2, if_neg h1]

/-- Where every such job has the status already, nothing changes. -/
theorem put_eq_self (h : ∀ i j, V i = some j → j.nodeId = n → j.name = s → j.status = x) :
    V.put n s x = V := by
  funext i
  cases hi : V i with
  | none => simp [put, hi]
  | some j =>
      simp only [put, hi, Option.map_some]
      split
      · rename_i hj
        rw [← h i j hi hj.1 hj.2]
      · rfl

/-- The job that is saved is the one of its node and stage. -/
theorem update_eq_put (hV : V.Distinct) {i : String} (hi : V i = some ⟨n, s, y⟩) :
    (fun i' => if i' = i then some ⟨n, s, x⟩ else V i') = V.put n s x := by
  funext i'
  by_cases h : i' = i
  · subst h
    simp [put, hi]
  · rw [if_neg h]
    cases hi' : V i' with
    | none => simp [put, hi']
    | some j =>
        have hne : ¬(j.nodeId = n ∧ j.name = s) := fun hj => h (hV i' i j _ hi' hi hj.1 hj.2)
        simp [put, hi', hne]

/-! ### Keys stay -/

/-- The same jobs, whatever their status. -/
def SameKeys (V V' : Stages) : Prop :=
  ∀ i, (V' i).map (fun j => (j.nodeId, j.name)) = (V i).map fun j => (j.nodeId, j.name)

theorem SameKeys.refl (V : Stages) : SameKeys V V := fun _ => rfl

theorem SameKeys.trans {V'' : Stages} (h : SameKeys V V') (h' : SameKeys V' V'') : SameKeys V V'' :=
  fun i => (h' i).trans (h i)

theorem sameKeys_put : SameKeys V (V.put n s x) := by
  intro i
  simp only [put, Option.map_map]
  congr 1
  funext j
  simp only [Function.comp_apply]
  split <;> rfl

theorem sameKeys_start : SameKeys V (V.start n s) := by
  unfold start
  split
  · exact sameKeys_put
  · split
    · exact sameKeys_put.trans sameKeys_put
    · split
      · exact (sameKeys_put.trans sameKeys_put).trans sameKeys_put
      · exact .refl V

theorem SameKeys.exists_of_eq_some (h : SameKeys V V') {i : String} {j : StageJob}
    (hi : V' i = some j) : ∃ k, V i = some k ∧ k.nodeId = j.nodeId ∧ k.name = j.name := by
  have hkey := h i
  rw [hi] at hkey
  cases hk : V i with
  | none => simp [hk] at hkey
  | some k =>
      simp only [hk, Option.map_some, Option.some.injEq, Prod.mk.injEq] at hkey
      exact ⟨k, rfl, hkey.1.symm, hkey.2.symm⟩

theorem SameKeys.symm (h : SameKeys V V') : SameKeys V' V := fun i => (h i).symm

theorem SameKeys.distinct (h : SameKeys V V') (hV : V.Distinct) : V'.Distinct := by
  intro i₁ i₂ j₁ j₂ h₁ h₂ hnode hname
  obtain ⟨k₁, hk₁, hn₁, hs₁⟩ := h.exists_of_eq_some h₁
  obtain ⟨k₂, hk₂, hn₂, hs₂⟩ := h.exists_of_eq_some h₂
  refine hV i₁ i₂ k₁ k₂ hk₁ hk₂ ?_ ?_
  · rw [hn₁, hn₂, hnode]
  · rw [hs₁, hs₂, hname]

/-! ### What keeps the order -/

theorem InOrder.put (hV : V.InOrder) (hahead : x.inprogress = true → V.Ahead n s)
    (hclear : x ≠ .idle → V.Clear n s) : (V.put n s x).InOrder := by
  intro i₁ i₂ j₁ j₂ h₁ h₂ hnode hbefore hrun
  obtain ⟨k₁, hk₁, hn₁, hs₁, hx₁⟩ := put_eq_some h₁
  obtain ⟨k₂, hk₂, hn₂, hs₂, hx₂⟩ := put_eq_some h₂
  rw [hs₁, hs₂] at hbefore
  rw [hn₁, hn₂] at hnode
  rw [hx₁] at hrun
  rw [hx₂]
  by_cases hset : k₁.nodeId = n ∧ k₁.name = s
  · -- the earlier stage is the one that was set
    rw [if_pos hset] at hrun
    have hlater : ¬(k₂.nodeId = n ∧ k₂.name = s) :=
      fun h => hbefore.ne (hset.2.trans h.2.symm)
    rw [if_neg hlater]
    exact hahead hrun i₂ k₂ hk₂ (hnode ▸ hset.1) (hset.2 ▸ hbefore)
  · rw [if_neg hset] at hrun
    split
    · -- the later stage is the one that was set
      rename_i hset'
      by_contra hx
      have hfalse := hclear hx i₁ k₁ hk₁ (hnode.trans hset'.1) (hset'.2 ▸ hbefore)
      rw [hrun] at hfalse
      cases hfalse
    · exact hV i₁ i₂ k₁ k₂ hk₁ hk₂ hnode hbefore hrun

theorem InOrder.putIdle (hV : V.InOrder) : (V.put n s .idle).InOrder :=
  hV.put (fun h => by cases h) fun h => absurd rfl h

theorem Clear.put (h : V.Clear n s) (hx : ¬(m = n ∧ StageBefore t s ∧ x.inprogress = true)) :
    (V.put m t x).Clear n s := by
  intro i j hi hn hs
  obtain ⟨k, hk, hkn, hks, hkx⟩ := put_eq_some hi
  rw [hkx]
  split
  · rename_i hset
    have hxf : ¬ x.inprogress = true := by
      intro hrun
      refine hx ⟨?_, ?_, hrun⟩
      · rw [← hset.1, ← hkn, hn]
      · rw [← hset.2, ← hks]
        exact hs
    simpa using hxf
  · exact h i k hk (hkn ▸ hn) (hks ▸ hs)

theorem Clear.putIdle (h : V.Clear n s) : (V.put m t .idle).Clear n s :=
  h.put fun hx => by cases hx.2.2

/-- Starting the stage, of whatever node, does not start an earlier one. -/
theorem Clear.start (h : V.Clear n s) : (V.start m s).Clear n s := by
  have hself {V : Stages} (h : V.Clear n s) : (V.put m s .running).Clear n s :=
    h.put fun hx => hx.2.1.ne rfl
  unfold Stages.start
  split
  · exact hself h
  · split
    · exact hself h.putIdle
    · split
      · exact (hself h.putIdle).putIdle
      · exact h

theorem not_before_create : ¬ StageBefore s jobCreate := by
  rintro (⟨_, h | h⟩ | ⟨_, h⟩) <;> revert h <;> decide

/-- The order before the stage is in progress: the later stages are idle. -/
theorem InOrder.reset (hV : V.InOrder) :
    (s = jobProvision → ((V.put n jobDeploy .idle).InOrder ∧ (V.put n jobDeploy .idle).Ahead n s)) ∧
    (s = jobCreate → ((V.put n jobDeploy .idle).put n jobProvision .idle).InOrder ∧
      ((V.put n jobDeploy .idle).put n jobProvision .idle).Ahead n s) := by
  have hstage {t : String} (h : StageBefore jobProvision t) : t = jobDeploy := by
    rcases h with ⟨h, -⟩ | ⟨-, h⟩
    · exact absurd h jobProvision_ne_jobCreate
    · exact h
  refine ⟨?_, ?_⟩
  · rintro rfl
    refine ⟨hV.putIdle, ?_⟩
    intro i j hi hn hs
    obtain ⟨k, hk, hkn, hks, hkx⟩ := put_eq_some hi
    rw [hkx, if_pos ⟨hkn ▸ hn, hks ▸ hstage hs⟩]
  · rintro rfl
    refine ⟨hV.putIdle.putIdle, ?_⟩
    intro i j hi hn hs
    obtain ⟨k, hk, hkn, hks, hkx⟩ := put_eq_some hi
    obtain ⟨k', hk', hkn', hks', hkx'⟩ := put_eq_some hk
    have hname : j.name = jobProvision ∨ j.name = jobDeploy := by
      rcases hs with ⟨-, h⟩ | ⟨h, -⟩
      · exact h
      · exact absurd h.symm jobProvision_ne_jobCreate
    rw [hkx]
    split
    · rfl
    · rename_i hother
      rcases hname with h | h
      · exact absurd ⟨hkn ▸ hn, hks ▸ h⟩ hother
      · rw [hkx', if_pos ⟨hkn' ▸ hkn ▸ hn, hks' ▸ hks ▸ h⟩]

theorem start_create (V : Stages) (n : String) : V.start n jobCreate =
    ((V.put n jobDeploy .idle).put n jobProvision .idle).put n jobCreate .running := by
  have hne : jobCreate ≠ jobProvision := by decide
  unfold start
  rw [if_neg (by decide), if_neg (by decide), if_pos rfl, put_comm hne]

theorem Ahead.putSelf (h : V.Ahead n s) : (V.put n s x).Ahead n s := by
  intro i j hi hn hs
  obtain ⟨k, hk, hkn, hks, hkx⟩ := put_eq_some hi
  have hother : ¬(k.nodeId = n ∧ k.name = s) := fun h => hs.ne (h.2.symm.trans hks.symm)
  rw [hkx, if_neg hother]
  exact h i k hk (hkn ▸ hn) (hks ▸ hs)

/-- Once a stage is started, the later ones are idle. -/
theorem InOrder.ahead_start (hV : V.InOrder) : (V.start n s).Ahead n s := by
  obtain ⟨hprovision, hcreate⟩ := hV.reset (n := n) (s := s)
  by_cases hc : s = jobCreate
  · have hahead := (hcreate hc).2
    subst hc
    rw [start_create]
    exact hahead.putSelf
  · by_cases hp : s = jobProvision
    · have hahead := (hprovision hp).2
      subst hp
      unfold Stages.start
      rw [if_neg jobDeploy_ne_jobProvision.symm, if_pos rfl]
      exact hahead.putSelf
    · -- nothing comes after any other stage
      intro i j _ _ hs
      rcases hs with ⟨h, -⟩ | ⟨h, -⟩
      · exact absurd h hc
      · exact absurd h hp

/-- Starting a stage keeps the order where no earlier one is in progress. -/
theorem InOrder.start (hV : V.InOrder) (hclear : V.Clear n s) : (V.start n s).InOrder := by
  obtain ⟨hprovision, hcreate⟩ := hV.reset (n := n) (s := s)
  by_cases hc : s = jobCreate
  · obtain ⟨horder, hahead⟩ := hcreate hc
    subst hc
    rw [start_create]
    exact horder.put (fun _ => hahead) fun _ => hclear.putIdle.putIdle
  · unfold Stages.start
    split
    · rename_i hd
      refine hV.put (fun _ => ?_) fun _ => hclear
      -- nothing comes after the deployment
      intro i j _ _ hs
      subst hd
      rcases hs with ⟨h, -⟩ | ⟨h, -⟩
      · exact absurd h jobDeploy_ne_jobCreate
      · exact absurd h jobDeploy_ne_jobProvision
    · split
      · rename_i hp
        obtain ⟨horder, hahead⟩ := hprovision hp
        exact horder.put (fun _ => hahead) fun _ => hclear.putIdle
      · exact hV

/-- A stage that is started and ends with an error keeps the order at once. -/
theorem InOrder.startIdle (hV : V.InOrder) : ((V.start n s).put n s .idle).InOrder := by
  by_cases hc : s = jobCreate
  · subst hc
    rw [start_create, put_put]
    exact hV.putIdle.putIdle.putIdle
  · unfold Stages.start
    split
    · rw [put_put]
      exact hV.putIdle
    · split
      · rw [put_put]
        exact hV.putIdle.putIdle
      · exact hV.putIdle

/-- Started, the stage is in progress. -/
theorem start_put_running (h : s = jobCreate ∨ s = jobProvision ∨ s = jobDeploy) :
    (V.start n s).put n s .running = V.start n s := by
  rcases h with rfl | rfl | rfl
  · rw [start_create, put_put]
  · have hne : jobProvision ≠ jobDeploy := by decide
    unfold start
    rw [if_neg hne, if_pos rfl, put_put]
  · unfold start
    rw [if_pos rfl, put_put]

end Stages

/-! ## What the programs do to the stages -/

def JobDoc.stageJob (doc : JobDoc) : StageJob :=
  ⟨doc.nodeId, doc.name, ⟨doc.inprogress, doc.complete⟩⟩

/-- The stages of the stored jobs. -/
def stages (w : World) : Stages := fun id => ((w.db .jobs).get? id).map JobDoc.stageJob

theorem forall_stages_iff {w : World} {P : StageJob → Prop} :
    (∀ i j, stages w i = some j → P j) ↔ ∀ row ∈ (w.db .jobs).rows, P row.2.stageJob := by
  simp only [stages, Option.map_eq_some_iff, Table.get?_eq_some_iff]
  constructor
  · intro h row hrow
    exact h row.1 _ ⟨row.2, hrow, rfl⟩
  · rintro h i _ ⟨doc, hrow, rfl⟩
    exact h (i, doc) hrow

instance (w : World) (n s : String) : Decidable ((stages w).Clear n s) :=
  decidable_of_iff _ forall_stages_iff.symm

instance (w : World) (n s : String) : Decidable ((stages w).Ahead n s) :=
  decidable_of_iff _ forall_stages_iff.symm

/-- The job in memory is a copy, be it stale, of the job of the node for the stage. -/
structure NodeJob.CopyOf (V : Stages) (n s : String) (job : NodeJob) : Prop where
  nodeId : job.doc.nodeId = n
  name : job.doc.name = s
  stored : ∃ x, V job.id = some ⟨n, s, x⟩

theorem NodeJob.CopyOf.sameKeys {V V' : Stages} {n s : String} {job : NodeJob}
    (h : job.CopyOf V n s) (hkeys : Stages.SameKeys V V') : job.CopyOf V' n s := by
  obtain ⟨x, hx⟩ := h.stored
  obtain ⟨j, hj, hn, hs⟩ := hkeys.symm.exists_of_eq_some hx
  refine ⟨h.nodeId, h.name, j.status, ?_⟩
  rw [hj]
  obtain ⟨⟩ := j
  cases hn
  cases hs
  rfl

section Programs

variable {env : Environment} {V : Stages} {n s : String} {x : StageStatus}
variable {E : PyError → World → Prop}

/-- The stored jobs have these stages. -/
def OnStages (V : Stages) (w : World) : Prop := stages w = V

theorem onStages_of_jobs {w w' : World} (h : w'.db .jobs = w.db .jobs) (hw : OnStages V w) :
    OnStages V w' := by
  rw [← hw]
  funext id
  simp only [stages, h]

theorem stages_of_readsOnly {α : Type} {p : Prog α} (hp : p.Uses Op.readsOnly) :
    Triple (handle env) (OnStages V) p (fun _ => OnStages V) fun _ => OnStages V := by
  refine Triple.of_uses hp ?_
  intro op w hop hw
  exact onStages_of_jobs (by rw [db_of_readsOnly hop]) hw

/-- Saving a copy of a job sets the job. -/
theorem stages_saveToDb (hV : V.Distinct) {job : NodeJob} (hjob : job.CopyOf V n s)
    (hx : job.doc.stageJob.status = x) :
    Triple (handle env) (OnStages V) job.saveToDb (fun _ => OnStages (V.put n s x)) E := by
  obtain ⟨y, hy⟩ := hjob.stored
  have hdoc : job.doc.stageJob = ⟨n, s, x⟩ := by
    rw [← hx, ← hjob.nodeId, ← hjob.name]
    rfl
  refine Triple.perform ?_
  intro w hw
  rw [← Stages.update_eq_put hV hy]
  funext id
  simp only [stages, db_replaceOne, Table.get?_upsert]
  by_cases hid : id = job.id
  · rw [if_pos hid, if_pos hid, Option.map_some, hdoc]
  · rw [if_neg hid, if_neg hid]
    exact congrFun hw id

/-- A setter: the job is changed in memory, saved, and handed out. -/
theorem stages_setter (hV : V.Distinct) {job : NodeJob} (hjob : job.CopyOf V n s)
    (hx : job.doc.stageJob.status = x) :
    Triple (handle env) (OnStages V) (do job.saveToDb; return job)
      (fun job' w => job' = job ∧ OnStages (V.put n s x) w) E :=
  (stages_saveToDb hV hjob hx).bind fun _ => Triple.done fun _ hw => ⟨rfl, hw⟩

theorem stages_setterUnit (hV : V.Distinct) {job : NodeJob} (hjob : job.CopyOf V n s)
    (hx : job.doc.stageJob.status = x) :
    Triple (handle env) (OnStages V) (discard (do job.saveToDb; return job) : Prog Unit)
      (fun _ => OnStages (V.put n s x)) E :=
  (stages_setter hV hjob hx).bind fun _ => Triple.done fun _ hw => hw.2

/-- What loading a job finds. -/
def Stages.Found (V : Stages) (n s : String) (o : Option NodeJob) : Prop :=
  (∀ job ∈ o, job.CopyOf V n s) ∧ (o = none → ∀ x, V.put n s x = V)

/-- The node has a job for the stage. -/
def Stages.Has (V : Stages) (n s : String) : Prop := ∃ i x, V i = some ⟨n, s, x⟩

theorem Stages.Found.not_has (h : V.Found n s none) : ¬V.Has n s := by
  rintro ⟨i, x, hi⟩
  have hput (y : StageStatus) : y = x := by
    have hself := congrFun (h.2 rfl y) i
    rw [put, hi, Option.map_some, if_pos ⟨rfl, rfl⟩] at hself
    exact congrArg StageJob.status (Option.some.inj hself)
  have hsame : StageStatus.running = StageStatus.done := (hput _).trans (hput _).symm
  cases hsame

theorem stages_loadJobByNodeId (n s : String) :
    Triple (handle env) (OnStages V) (NodeJob.loadJobByNodeId n s)
      (fun o w => V.Found n s o ∧ OnStages V w) E := by
  refine Triple.call ?_
  intro w hw
  simp only [handle_db, DocOp.apply_findOne, done_bind]
  have hstored (i : String) : V i = ((w.db .jobs).get? i).map JobDoc.stageJob := by
    rw [← hw]
    rfl
  cases hfind : (w.db .jobs).findOne fun _ job => job.nodeId = n ∧ job.name = s with
  | none =>
      refine Triple.done ?_
      rintro _ rfl
      refine ⟨⟨fun job hjob => (by cases hjob), fun _ x => Stages.put_eq_self ?_⟩, hw⟩
      intro i j hi hn hs
      rw [hstored i] at hi
      obtain ⟨doc, hdoc, rfl⟩ := Option.map_eq_some_iff.mp hi
      have hno := Table.findOne_eq_none_iff.mp hfind i doc hdoc
      exact absurd ⟨hn, hs⟩ (of_decide_eq_false hno)
  | some row =>
      obtain ⟨hget, hq⟩ := Table.findOne_eq_some hfind
      obtain ⟨hn, hs⟩ := of_decide_eq_true hq
      refine Triple.done ?_
      rintro _ rfl
      refine ⟨⟨?_, fun h => by cases h⟩, hw⟩
      rintro job ⟨⟩
      refine ⟨hn, hs, ⟨row.2.inprogress, row.2.complete⟩, ?_⟩
      rw [hstored, hget, Option.map_some, JobDoc.stageJob, hn, hs]

theorem stages_setOtherPending (hV : V.Distinct) (n s : String) :
    Triple (handle env) (OnStages V) (NodeJob.setOtherPending n s)
      (fun _ => OnStages (V.put n s .idle)) E := by
  refine (stages_loadJobByNodeId n s).bind fun o => Triple.assume fun hfound => ?_
  cases o with
  | none =>
      refine Triple.done fun w hw => ?_
      rw [hfound.2 rfl]
      exact hw
  | some job =>
      have hjob := hfound.1 job rfl
      exact stages_setterUnit hV ⟨hjob.nodeId, hjob.name, hjob.stored⟩ rfl

/-- Starting a copy of a job: the job is in progress, in memory too, where it is the
    job of a stage. -/
theorem stages_setJobState (hV : V.Distinct) {job : NodeJob} (hjob : job.CopyOf V n s)
    (jobId : Option String) :
    Triple (handle env) (OnStages V) (job.setJobState jobId)
      (fun job' w => (job'.CopyOf V n s ∧ ((s = jobCreate ∨ s = jobProvision ∨ s = jobDeploy) →
        job'.doc.stageJob.status = .running)) ∧ OnStages (V.start n s) w) E := by
  have hset {V' : Stages} (hkeys : Stages.SameKeys V V') {job : NodeJob} (hjob : job.CopyOf V n s)
      (t : String) :
      Triple (handle env) (OnStages V')
        (if s = t then job.setInprogress jobId else pure job)
        (fun job' w => (job'.CopyOf V n s ∧
          (job.doc.stageJob.status = .running ∨ s = t → job'.doc.stageJob.status = .running)) ∧
            OnStages (if s = t then V'.put n s .running else V') w) E := by
    split
    · have hcopy : NodeJob.CopyOf V' n s ⟨job.id, NodeJob.inprogressDoc jobId job.doc⟩ := by
        have h := hjob.sameKeys hkeys
        exact ⟨h.nodeId, h.name, h.stored⟩
      refine (stages_setter (hkeys.distinct hV) hcopy rfl).post ?_
      rintro job' w ⟨rfl, hw⟩
      exact ⟨⟨⟨hjob.nodeId, hjob.name, hjob.stored⟩, fun _ => rfl⟩, hw⟩
    · rename_i hst
      exact Triple.done fun w hw => ⟨⟨hjob, fun h => h.resolve_right hst⟩, hw⟩
  have hother {V' : Stages} (hkeys : Stages.SameKeys V V') (c : Prop) [Decidable c] (t : String) :
      Triple (handle env) (OnStages V') (Program.when c (NodeJob.setOtherPending n t))
        (fun _ => OnStages (if c then V'.put n t .idle else V')) E := by
    refine Triple.when (fun hc => ?_) fun hc w hw => ?_
    · rw [if_pos hc]
      exact stages_setOtherPending (hkeys.distinct hV) n t
    · rw [if_neg hc]
      exact hw
  have hif {V' : Stages} (hkeys : Stages.SameKeys V V') (c : Prop) [Decidable c] (t : String)
      (x : StageStatus) : Stages.SameKeys V (if c then V'.put n t x else V') := by
    split
    · exact hkeys.trans Stages.sameKeys_put
    · exact hkeys
  have hkeys1 := hif (.refl V) (s = jobDeploy) s .running
  have hkeys2 := hif hkeys1 (s = jobProvision ∨ s = jobCreate) jobDeploy .idle
  have hkeys3 := hif hkeys2 (s = jobProvision) s .running
  have hkeys4 := hif hkeys3 (s = jobCreate) s .running
  unfold NodeJob.setJobState
  rw [hjob.name]
  refine (hset (.refl V) hjob jobDeploy).bind fun job1 => Triple.assume fun hjob1 => ?_
  rw [hjob1.1.name, hjob1.1.nodeId]
  refine (hother hkeys1 _ jobDeploy).bind fun _ => ?_
  refine (hset hkeys2 hjob1.1 jobProvision).bind fun job2 => Triple.assume fun hjob2 => ?_
  rw [hjob2.1.name]
  refine (hset hkeys3 hjob2.1 jobCreate).bind fun job3 => Triple.assume fun hjob3 => ?_
  rw [hjob3.1.name, hjob3.1.nodeId]
  refine (hother hkeys4 _ jobProvision).bind fun _ => Triple.done fun w hw => ⟨⟨hjob3.1, ?_⟩, ?_⟩
  · rintro (h | h | h)
    · exact hjob3.2 (.inr h)
    · exact hjob3.2 (.inl (hjob2.2 (.inr h)))
    · exact hjob3.2 (.inl (hjob2.2 (.inl (hjob1.2 (.inr h)))))
  · -- the stages are those of `start`, by the name of the job
    refine Eq.trans hw ?_
    unfold Stages.start
    by_cases hd : s = jobDeploy
    · subst hd
      simp [jobDeploy_ne_jobProvision, jobDeploy_ne_jobCreate]
    · by_cases hp : s = jobProvision
      · subst hp
        simp [hd, jobProvision_ne_jobCreate]
      · simp [hd, hp]
        split <;> simp_all

/-- Setting an optional job. -/
theorem stages_updateJob (hV : V.Distinct) (node : Node) (stage : String) (success : Bool) :
    Triple (handle env) (OnStages V) (updateJob node stage success)
      (fun _ => OnStages (V.put node.id stage (if success then .done else .idle))) E := by
  refine (stages_loadJobByNodeId node.id stage).bind fun o => Triple.assume fun hfound => ?_
  cases o with
  | none =>
      refine Triple.done fun w hw => ?_
      rw [hfound.2 rfl]
      exact hw
  | some job =>
      have hjob := hfound.1 job rfl
      have hcopy (doc : JobDoc) (hn : doc.nodeId = job.doc.nodeId) (hs : doc.name = job.doc.name) :
          NodeJob.CopyOf V node.id stage ⟨job.id, doc⟩ :=
        ⟨hn.trans hjob.nodeId, hs.trans hjob.name, hjob.stored⟩
      cases success with
      | true => exact stages_setterUnit hV (hcopy (NodeJob.completeDoc job.doc) rfl rfl) rfl
      | false => exact stages_setterUnit hV (hcopy (NodeJob.errorDoc _ job.doc) rfl rfl) rfl

/-- The stages `execute` works on. -/
def stageNames : List String := [jobCreate, jobProvision, jobDeploy]

theorem mem_stageNames : s ∈ stageNames ↔ s = jobCreate ∨ s = jobProvision ∨ s = jobDeploy := by
  simp [stageNames]

/-- A job that starts is saved once more with what executes it. -/
theorem stages_startJob (hV : V.Distinct) (n : String) (hs : s ∈ stageNames)
    (jobId : Option String) (execType : String) :
    Triple (handle env) (OnStages V)
      (do
        match ← NodeJob.loadJobByNodeId n s with
        | none => pure ()
        | some job =>
            let job ← job.setJobState jobId
            NodeJob.saveToDb ⟨job.id, { job.doc with execType := some execType }⟩)
      (fun _ w => (¬V.Has n s ∧ OnStages V w) ∨ (V.Has n s ∧ OnStages (V.start n s) w)) E := by
  refine (stages_loadJobByNodeId n s).bind fun o => Triple.assume fun hfound => ?_
  cases o with
  | none => exact Triple.done fun w hw => .inl ⟨hfound.not_has, hw⟩
  | some job =>
      obtain ⟨x, hx⟩ := (hfound.1 job rfl).stored
      refine (stages_setJobState hV (hfound.1 job rfl) jobId).bind fun job' => ?_
      refine Triple.assume fun hjob' => ?_
      have hcopy : NodeJob.CopyOf (V.start n s) n s job' := hjob'.1.sameKeys Stages.sameKeys_start
      have hsaved : NodeJob.CopyOf (V.start n s) n s
          ⟨job'.id, { job'.doc with execType := some execType }⟩ :=
        ⟨hcopy.nodeId, hcopy.name, hcopy.stored⟩
      have hdistinct : (V.start n s).Distinct := Stages.sameKeys_start.distinct hV
      refine (stages_saveToDb hdistinct hsaved (hjob'.2 (mem_stageNames.mp hs))).post ?_
      refine fun _ w hw => .inr ⟨⟨job.id, x, hx⟩, ?_⟩
      rwa [Stages.start_put_running (mem_stageNames.mp hs)] at hw

end Programs

end Tfplenum
