/-
  Tfplenum.Service.JobFlags

  `execute` is there twice: `NodeService.execute` changes the stored documents of the
  jobs, and `PlaybookRun.execute` keeps of each document its flag.  What both set when
  a job starts and when it ends shows the same jobs.
-/

import Tfplenum.Models.JobStages
import Tfplenum.Service.PlaybookRuns

namespace Tfplenum

open Lib Program

namespace Playbook

def JobFlag.status : JobFlag → StageStatus
  | .inprogress => .running
  | .complete => .done
  | .pending | .error => .idle

/-- The flag is set where there is such a job. -/
def Jobs.put (jobs : Jobs) (n s : String) (flag : JobFlag) : Jobs := fun n' s' =>
  if n' = n ∧ s' = s then (jobs n s).map fun _ => flag else jobs n' s'

/-- What `set_job_state` does for the stage, with the flags it sets. -/
def Jobs.start (jobs : Jobs) (n s : String) : Jobs :=
  if s = jobDeploy then jobs.put n s .inprogress
  else if s = jobProvision then (jobs.put n jobDeploy .pending).put n s .inprogress
  else if s = jobCreate then
    ((jobs.put n jobDeploy .pending).put n s .inprogress).put n jobProvision .pending
  else jobs

/-- The stored jobs have these flags. -/
structure Shows (V : Stages) (jobs : Jobs) : Prop where
  stored : ∀ i j, V i = some j → ∃ flag, jobs j.nodeId j.name = some flag ∧ flag.status = j.status
  flagged : ∀ n s flag, jobs n s = some flag → ∃ i, V i = some ⟨n, s, flag.status⟩

variable {V : Stages} {jobs : Jobs} {n s : String}

theorem Shows.has_iff (h : Shows V jobs) : V.Has n s ↔ (jobs n s).isSome := by
  constructor
  · rintro ⟨i, x, hi⟩
    obtain ⟨flag, hflag, -⟩ := h.stored i _ hi
    rw [hflag]
    rfl
  · intro hsome
    obtain ⟨flag, hflag⟩ := Option.isSome_iff_exists.mp hsome
    obtain ⟨i, hi⟩ := h.flagged n s flag hflag
    exact ⟨i, flag.status, hi⟩

theorem Shows.put (h : Shows V jobs) (n s : String) (flag : JobFlag) :
    Shows (V.put n s flag.status) (jobs.put n s flag) := by
  constructor
  · intro i j' hi
    obtain ⟨j, hj, rfl⟩ := Option.map_eq_some_iff.mp hi
    obtain ⟨old, hold, hstatus⟩ := h.stored i j hj
    by_cases hmine : j.nodeId = n ∧ j.name = s
    · obtain ⟨rfl, rfl⟩ := hmine
      refine ⟨flag, ?_, ?_⟩ <;> simp [Jobs.put, hold]
    · exact ⟨old, by simp [Jobs.put, hmine, hold], by simp [hmine, hstatus]⟩
  · intro n' s' flag' hget
    rw [Jobs.put] at hget
    split at hget
    · rename_i hmine
      obtain ⟨rfl, rfl⟩ := hmine
      obtain ⟨old, hold, rfl⟩ := Option.map_eq_some_iff.mp hget
      obtain ⟨i, hi⟩ := h.flagged n' s' old hold
      exact ⟨i, by simp [Stages.put, hi]⟩
    · rename_i hmine
      obtain ⟨i, hi⟩ := h.flagged n' s' flag' hget
      exact ⟨i, by simp [Stages.put, hi, hmine]⟩

theorem Shows.start (h : Shows V jobs) (n s : String) : Shows (V.start n s) (jobs.start n s) := by
  unfold Stages.start Jobs.start
  split
  · exact h.put n s .inprogress
  split
  · exact (h.put n jobDeploy .pending).put n s .inprogress
  split
  · exact ((h.put n jobDeploy .pending).put n s .inprogress).put n jobProvision .pending
  · exact h

/-! ## Programs on flags -/

theorem Jobs.set_eq_put (h : (jobs n s).isSome) (flag : JobFlag) :
    jobs.set n s flag = jobs.put n s flag := by
  obtain ⟨old, hold⟩ := Option.isSome_iff_exists.mp h
  funext n' s'
  rw [Jobs.set, Jobs.put, hold]
  rfl

theorem Jobs.isSome_put (m t : String) (flag : JobFlag) :
    ((jobs.put m t flag) n s).isSome = (jobs n s).isSome := by
  rw [Jobs.put]
  split
  · rename_i h
    rw [h.1, h.2, Option.isSome_map]
  · rfl

theorem Jobs.isSome_start (m t : String) :
    ((jobs.start m t) n s).isSome = (jobs n s).isSome := by
  unfold Jobs.start
  repeat' split
  all_goals simp only [Jobs.isSome_put]

/-- The job that `set_job_state` sets is in progress. -/
theorem Jobs.start_put (hs : s ∈ stageNames) :
    (jobs.start n s).put n s .inprogress = jobs.start n s := by
  have hput (jobs : Jobs) : (jobs.put n s .inprogress).put n s .inprogress =
      jobs.put n s .inprogress := by
    funext n' s'
    simp only [Jobs.put]
    split <;> simp [Function.comp_def]
  have hother (jobs : Jobs) (hne : s ≠ jobProvision) :
      ((jobs.put n s .inprogress).put n jobProvision .pending).put n s .inprogress =
        (jobs.put n s .inprogress).put n jobProvision .pending := by
    funext n' s'
    simp only [Jobs.put]
    split <;> simp_all [Function.comp_def]
  unfold Jobs.start
  split
  · exact hput _
  split
  · exact hput _
  rename_i hdeploy hprovision
  split
  · exact hother _ hprovision
  · rename_i hcreate
    rcases mem_stageNames.mp hs with h | h | h
    · exact absurd h hcreate
    · exact absurd h hprovision
    · exact absurd h hdeploy

section Flags

variable {σ : Type} {env : RunEnv σ} {E : PyError → RunWorld σ → Prop}

def OnJobs (jobs : Jobs) (v : RunWorld σ) : Prop := v.jobs = jobs

/-- The database answers every call. -/
def Answers (env : RunEnv σ) : Prop := ∀ t, (env .database t).1 = .ok ()

theorem jobs_loadJob (hdb : Answers env) (n s : String) :
    Triple (handle env) (OnJobs jobs) (loadJob n s) (fun o v => o = jobs n s ∧ OnJobs jobs v)
      E := by
  have hanswer : Triple (handle env) (OnJobs jobs) (Program.perform (.loadJob n s))
      (fun r v => r = Except.ok (jobs n s) ∧ OnJobs jobs v) E := by
    refine Triple.perform fun v hv => ⟨?_, hv⟩
    show (env .database v.env).1.map (fun _ => v.jobs n s) = _
    rw [hdb v.env, hv]
    rfl
  exact hanswer.bind fun r => Triple.assume fun hr =>
    Triple.ofExcept (fun o _ ho hv => ⟨Except.ok.inj (ho.symm.trans hr), hv⟩)
      fun _ _ he => by cases he.symm.trans hr

theorem jobs_saveJob (hdb : Answers env) (n s : String) (flag : JobFlag) :
    Triple (handle env) (OnJobs jobs) (saveJob n s flag)
      (fun _ => OnJobs (jobs.set n s flag)) E := by
  have hanswer : Triple (handle env) (OnJobs jobs) (Program.perform (.saveJob n s flag))
      (fun r v => r = Except.ok () ∧ OnJobs (jobs.set n s flag) v) E := by
    refine Triple.perform fun v hv => ?_
    rcases hcall : env .database v.env with ⟨r, t⟩
    have hr := hdb v.env
    rw [hcall] at hr
    cases hr
    rw [handle, hcall]
    exact ⟨rfl, by rw [← hv]; rfl⟩
  exact hanswer.bind fun r => Triple.assume fun hr =>
    Triple.ofExcept (fun _ _ _ hv => hv) fun _ _ he => by cases he.symm.trans hr

theorem jobs_setFound (hdb : Answers env) (n s : String) (flag : JobFlag) :
    Triple (handle env) (OnJobs jobs)
      (do
        match ← loadJob n s with
        | none => pure ()
        | some _ => saveJob n s flag)
      (fun _ => OnJobs (jobs.put n s flag)) E := by
  refine (jobs_loadJob hdb n s).bind fun o => Triple.assume fun ho => ?_
  cases o with
  | none =>
      refine Triple.done fun v hv => hv.trans ?_
      funext n' s'
      rw [Jobs.put, ← ho]
      split
      · rename_i h
        rw [h.1, h.2, ← ho]
        rfl
      · rfl
  | some _ =>
      rw [← Jobs.set_eq_put (by rw [← ho]; rfl)]
      exact jobs_saveJob hdb n s flag

theorem setJobState_eq (n s : String) :
    setJobState n s =
      if s = jobDeploy then saveJob n s .inprogress
      else if s = jobProvision then do
        resetJob n jobDeploy
        saveJob n s .inprogress
      else if s = jobCreate then do
        resetJob n jobDeploy
        saveJob n s .inprogress
        resetJob n jobProvision
      else pure () := by
  have hsaved : ((saveJob n s .inprogress).bind fun _ => .done ()) = saveJob n s .inprogress :=
    bind_done _
  unfold setJobState Program.when
  by_cases hdeploy : s = jobDeploy
  · subst hdeploy
    simp [jobDeploy_ne_jobProvision, jobDeploy_ne_jobCreate, hsaved]
  by_cases hprovision : s = jobProvision
  · subst hprovision
    simp [jobDeploy_ne_jobProvision.symm, jobProvision_ne_jobCreate, hsaved]
  by_cases hcreate : s = jobCreate
  · subst hcreate
    simp [jobDeploy_ne_jobCreate.symm, jobProvision_ne_jobCreate.symm]
  · simp [hdeploy, hprovision, hcreate]

theorem jobs_setJobState (hdb : Answers env) (hsome : (jobs n s).isSome) :
    Triple (handle env) (OnJobs jobs) (setJobState n s) (fun _ => OnJobs (jobs.start n s)) E := by
  have hsave {jobs' : Jobs} (hsome' : (jobs' n s).isSome) :
      Triple (handle env) (OnJobs jobs') (saveJob n s .inprogress)
        (fun _ => OnJobs (jobs'.put n s .inprogress)) E := by
    rw [← Jobs.set_eq_put hsome']
    exact jobs_saveJob hdb n s .inprogress
  have hreset : ((jobs.put n jobDeploy .pending) n s).isSome := by
    rw [Jobs.isSome_put]
    exact hsome
  rw [setJobState_eq, Jobs.start]
  split
  · exact hsave hsome
  split
  · exact (jobs_setFound hdb n jobDeploy .pending).bind fun _ => hsave hreset
  split
  · exact (jobs_setFound hdb n jobDeploy .pending).bind fun _ =>
      (hsave hreset).bind fun _ => jobs_setFound hdb n jobProvision .pending
  · exact Triple.done fun _ hv => hv

theorem jobs_jobUpdate (hdb : Answers env) (run : PlaybookRun) (hs : run.stage ∈ stageNames)
    (node : Node) :
    Triple (handle env) (OnJobs jobs) (run.jobUpdate node)
      (fun _ => OnJobs (if (jobs node.id run.stage).isSome then jobs.start node.id run.stage
        else jobs)) E := by
  have hne : run.stage ≠ jobRemove := by
    intro h
    rw [h] at hs
    revert hs
    decide
  have hmem : run.stage ∈ [jobDeploy, jobProvision, jobCreate] := by
    rcases mem_stageNames.mp hs with h | h | h <;> simp [h]
  rw [PlaybookRun.jobUpdate, if_neg hne]
  refine (jobs_loadJob hdb node.id run.stage).bind fun o => Triple.assume fun ho => ?_
  cases o with
  | none =>
      rw [← ho]
      exact Triple.done fun _ hv => hv
  | some _ =>
      have hsome : (jobs node.id run.stage).isSome := by rw [← ho]; rfl
      rw [if_pos hsome]
      refine (jobs_setJobState hdb hsome).bind fun _ => ?_
      rw [if_pos hmem]
      -- saving the job once more leaves its flag
      refine (jobs_saveJob hdb node.id run.stage .inprogress).post fun _ v hv => ?_
      rw [← Jobs.start_put hs, ← Jobs.set_eq_put ((Jobs.isSome_start _ _).trans hsome)]
      exact hv

theorem jobs_updateJobs (hdb : Answers env) (run : PlaybookRun) {node : Node}
    (hnode : run.node = .one node) (outcome : Outcome) :
    Triple (handle env) (OnJobs jobs) (run.updateJobs outcome)
      (fun _ => OnJobs (jobs.put node.id run.stage outcome.flag)) E := by
  rw [PlaybookRun.updateJobs, hnode, RunNode.nodes, Program.forEach_cons]
  exact (jobs_setFound hdb node.id run.stage outcome.flag).bind fun _ =>
    Triple.done fun _ hv => hv

end Flags

end Playbook

/-! ## The two models -/

section Agree

open Playbook

variable {σ : Type} {env : Environment} {runEnv : RunEnv σ} {w : World} {v : RunWorld σ}

def DeploymentJob.toExecType : DeploymentJob → ExecType
  | .addNode => .addNode
  | .removeNode => .removeNode
  | .setupControlPlane => .setupControlPlane
  | .kickstartProfiles => .kickstartProfiles
  | .mipDeploy => .mipDeploy
  | .createVirtual => .createVirtual
  | .provisionVirtual => .provisionVirtual

/-- The same call of `execute`, where the backend is installed in the directories. -/
def NodeService.toRun (s : NodeService) (mipDir coreDir : String) : PlaybookRun where
  execType := s.execType.toExecType
  stage := s.stage
  node := .one s.node
  mipDir := mipDir
  coreDir := coreDir
  polls := s.polls

/-- A job that starts is set alike in the stored documents and in the flags. -/
theorem shows_jobUpdate (s : NodeService) (hs : s.stage ∈ stageNames)
    (hdb : Answers runEnv) (hV : (stages w).Distinct) (h : Shows (stages w) v.jobs)
    (mipDir coreDir : String) :
    Shows (stages (s.jobUpdate.run (handle env) w).2)
      (((s.toRun mipDir coreDir).jobUpdate s.node).run (Playbook.handle runEnv) v).2.jobs := by
  have hne : s.stage ≠ jobRemove := by
    intro hremove
    rw [hremove] at hs
    revert hs
    decide
  have hflags : (((s.toRun mipDir coreDir).jobUpdate s.node).run (Playbook.handle runEnv)
      v).2.jobs = if (v.jobs s.node.id s.stage).isSome then v.jobs.start s.node.id s.stage
        else v.jobs :=
    (jobs_jobUpdate hdb (s.toRun mipDir coreDir) hs s.node).leaves rfl
  have hstages : (¬(stages w).Has s.node.id s.stage ∧
        stages (s.jobUpdate.run (handle env) w).2 = stages w) ∨
      ((stages w).Has s.node.id s.stage ∧
        stages (s.jobUpdate.run (handle env) w).2 = (stages w).start s.node.id s.stage) := by
    rw [NodeService.jobUpdate, if_neg hne]
    exact (stages_startJob hV s.node.id hs (some s.jobId) s.execType.str).leaves rfl
  rw [hflags]
  rcases hstages with ⟨hnone, hstages⟩ | ⟨hhas, hstages⟩
  · rw [hstages, if_neg (h.has_iff.not.mp hnone)]
    exact h
  · rw [hstages, if_pos (h.has_iff.mp hhas)]
    exact h.start s.node.id s.stage

/-- A job that ends is set alike by the handlers. -/
theorem shows_updateJob (s : NodeService) (success : Bool) (hdb : Answers runEnv)
    (hV : (stages w).Distinct) (h : Shows (stages w) v.jobs) (mipDir coreDir : String) :
    Shows (stages ((updateJob s.node s.stage success).run (handle env) w).2)
      (((s.toRun mipDir coreDir).updateJobs (if success then .success else .failure)).run
        (Playbook.handle runEnv) v).2.jobs := by
  have hflags : (((s.toRun mipDir coreDir).updateJobs (if success then .success else .failure)).run
      (Playbook.handle runEnv) v).2.jobs = v.jobs.put s.node.id s.stage
        (Outcome.flag (if success then .success else .failure)) :=
    (jobs_updateJobs hdb (s.toRun mipDir coreDir) rfl _).leaves rfl
  have hstages : stages ((updateJob s.node s.stage success).run (handle env) w).2 =
      (stages w).put s.node.id s.stage (if success then .done else .idle) :=
    (stages_updateJob hV s.node s.stage success).leaves rfl
  rw [hflags, hstages]
  cases success with
  | true => exact h.put s.node.id s.stage .complete
  | false => exact h.put s.node.id s.stage .error

end Agree

end Tfplenum
