/-
  Tfplenum.Service.JobRequests

  The requests that retry a job of the queue and delete it, over the state of the
  queue and of the node jobs.  A retry requeues the job before it looks for the node
  job; a deletion puts the node job into error whatever the state of the job.
-/

import Tfplenum.Service.JobService

namespace Tfplenum

open Lib

/-! ## The job queue -/

/-- `rq.job.JobStatus` -/
inductive RqStatus where
  | queued | started | deferred | scheduled | finished | failed | stopped | canceled
deriving DecidableEq, Repr

/-- A job of the queue, and whether it is in the registry of failed jobs. -/
structure QueueJob where
  status : RqStatus
  inFailedRegistry : Bool
deriving DecidableEq, Repr

namespace QueueJob

def requeued : QueueJob := ⟨.queued, false⟩

/-- The job is running or waiting. -/
def isActive (job : QueueJob) : Bool := job.status ∈ [.queued, .started, .deferred, .scheduled]

end QueueJob

structure QueueWorld where
  world : World
  queue : Table String QueueJob

def noSuchJobError : PyError := .other "NoSuchJobError"
def invalidJobOperation : PyError := .other "InvalidJobOperation"

/-- The calls to the queue act on its state: `Job.fetch`, `job.requeue`, which takes the job
    out of the registry of failed jobs, and `job.delete`. -/
def handleQueue (env : Environment) : Handler Op Op.Res QueueWorld
  | .external (.fetchJob jobId), s =>
      (if (s.queue.get? jobId).isSome then .ok () else .error noSuchJobError, s)
  | .external (.requeueJob jobId), s =>
      if (s.queue.get? jobId).any QueueJob.inFailedRegistry then
        (.ok (), { s with queue := s.queue.modify jobId fun _ => .requeued })
      else (.error invalidJobOperation, s)
  | .external (.deleteJob jobId), s => (.ok (), { s with queue := s.queue.erase jobId })
  | op, s => ((handle env op s.world).1, { s with world := (handle env op s.world).2 })

namespace QueueWorld

def nodeJobs (s : QueueWorld) : Table String JobDoc := s.world.db .jobs

/-- The node job that `NodeJob.load_jobs_by_job_id` finds. -/
def nodeJob? (s : QueueWorld) (jobId : String) : Option (String × JobDoc) :=
  s.nodeJobs.findOne fun _ job => job.jobId = some jobId

/-- A node job is saved. -/
def save (s : QueueWorld) (id : String) (doc : JobDoc) : QueueWorld :=
  { s with world := { s.world with
    db := Function.update s.world.db .jobs (s.nodeJobs.upsert id doc) } }

/-- What happens in the queue is not seen by the look-up of a node job. -/
theorem nodeJob?_queue (s : QueueWorld) (queue : Table String QueueJob) (jobId : String) :
    nodeJob? { s with queue := queue } jobId = s.nodeJob? jobId := rfl

@[simp] theorem queue_save (s : QueueWorld) (id : String) (doc : JobDoc) :
    (s.save id doc).queue = s.queue := rfl

@[simp] theorem nodeJobs_save (s : QueueWorld) (id : String) (doc : JobDoc) :
    (s.save id doc).nodeJobs = s.nodeJobs.upsert id doc := by
  show Function.update s.world.db .jobs (s.nodeJobs.upsert id doc) .jobs = _
  exact Function.update_self ..

end QueueWorld

/-! ## What the requests do -/

section Requests

variable (env : Environment) (jobId : String) (s : QueueWorld)

theorem run_loadJobsByJobId :
    (NodeJob.loadJobsByJobId jobId).run (handleQueue env) s =
      (.ok ((s.nodeJob? jobId).map fun row => ⟨row.1, row.2⟩), s) := by
  have hfind : (Prog.findOne .jobs fun _ job => job.jobId = some jobId).run (handleQueue env) s =
      (.ok (s.nodeJob? jobId), s) := rfl
  rw [NodeJob.loadJobsByJobId, Program.bind_eq, Program.run_bind, hfind, Program.andThen_ok]
  cases s.nodeJob? jobId with
  | none => rfl
  | some row => rfl

theorem run_fetchJob :
    (Prog.orRaise (Prog.ask (.fetchJob jobId))).run (handleQueue env) s =
      (if (s.queue.get? jobId).isSome then .ok () else .error noSuchJobError, s) := by
  simp [Prog.orRaise, Prog.ask, handleQueue]

theorem run_putJobRetry :
    (putJobRetry jobId).run (handleQueue env) s =
      match s.queue.get? jobId with
      | none => (.error noSuchJobError, s)
      | some job =>
          if job.inFailedRegistry then
            let s := { s with queue := s.queue.modify jobId fun _ => .requeued }
            match s.nodeJob? jobId with
            | none => (.error noSuchNodeJobError, s)
            | some row => (.ok (), s.save row.1 (NodeJob.inprogressDoc (some jobId) row.2))
          else (.error invalidJobOperation, s) := by
  rw [putJobRetry, Program.bind_eq, Program.run_bind, run_fetchJob]
  cases hjob : s.queue.get? jobId with
  | none => rfl
  | some job =>
      rw [if_pos (by rfl), Program.andThen_ok, Program.bind_eq, Program.run_bind]
      -- `requeue` refuses a job that is not in the registry of failed jobs
      cases hfailed : job.inFailedRegistry with
      | false =>
          have hrequeue : (Prog.orRaise (Prog.ask (.requeueJob jobId))).run (handleQueue env) s =
              (.error invalidJobOperation, s) := by
            simp [Prog.orRaise, Prog.ask, handleQueue, hjob, hfailed]
          rw [hrequeue, Program.andThen_error]
          simp only [hfailed, Bool.false_eq_true, if_false]
      | true =>
          have hrequeue : (Prog.orRaise (Prog.ask (.requeueJob jobId))).run (handleQueue env) s =
              (.ok (), { s with queue := s.queue.modify jobId fun _ => .requeued }) := by
            simp [Prog.orRaise, Prog.ask, handleQueue, hjob, hfailed]
          rw [hrequeue, Program.andThen_ok, Program.bind_eq,
            Program.run_bind_ok _ (run_loadJobsByJobId env jobId _)]
          simp only [hfailed, if_true]
          cases QueueWorld.nodeJob? _ jobId <;> rfl

theorem run_deleteJobWithJobId :
    (deleteJobWithJobId jobId).run (handleQueue env) s =
      match s.queue.get? jobId with
      | none => (.error noSuchJobError, s)
      | some _ =>
          let s := { s with queue := s.queue.erase jobId }
          match s.nodeJob? jobId with
          | none => (.ok (), s)
          | some row => (.ok (), s.save row.1 (NodeJob.errorDoc (some "Job killed by User") row.2))
    := by
  rw [deleteJobWithJobId, Program.bind_eq, Program.run_bind, run_fetchJob]
  cases hjob : s.queue.get? jobId with
  | none => rfl
  | some job =>
      rw [if_pos (by rfl), Program.andThen_ok, Program.bind_eq,
        Program.run_bind_ok _ (run_loadJobsByJobId env jobId _)]
      dsimp only
      rw [QueueWorld.nodeJob?_queue s (s.queue.erase jobId)]
      cases s.nodeJob? jobId <;> rfl

end Requests

/-! ## Atomic requests -/

/-- The requests leave the stores as the caller is told: a retry that answers with an error
    changes nothing, and one that succeeds leaves the job queued and its node job in
    progress; a deletion removes exactly the job from the queue, and the node jobs stay as
    they are unless it was running or waiting. -/
structure JobRequestsAtomic (env : Environment) (jobId : String) (s : QueueWorld) : Prop where
  retryError : ∀ e s', (putJobRetry jobId).run (handleQueue env) s = (.error e, s') →
    s'.queue = s.queue ∧ s'.nodeJobs = s.nodeJobs
  retryOk : ∀ s', (putJobRetry jobId).run (handleQueue env) s = (.ok (), s') →
    (s'.queue.get? jobId).map QueueJob.status = some .queued ∧
      ∃ row, s.nodeJob? jobId = some row ∧
        (s'.nodeJobs.get? row.1).map JobDoc.inprogress = some true
  deleteQueue : ∀ r s', (deleteJobWithJobId jobId).run (handleQueue env) s = (r, s') →
    ∀ id, s'.queue.get? id = if id = jobId then none else s.queue.get? id
  deleteNodeJobs : ∀ r s', (deleteJobWithJobId jobId).run (handleQueue env) s = (r, s') →
    (s.queue.get? jobId).any QueueJob.isActive = true ∨ s'.nodeJobs = s.nodeJobs

/-- A failed job has a node job; and a job that neither runs nor waits has none, or one that
    is in error because it was killed. -/
structure HasFittingNodeJob (jobId : String) (s : QueueWorld) : Prop where
  failed : (s.queue.get? jobId).any QueueJob.inFailedRegistry = true →
    (s.nodeJob? jobId).isSome = true
  inactive : ∀ job, s.queue.get? jobId = some job → job.isActive = false →
    ∀ row ∈ s.nodeJob? jobId, NodeJob.errorDoc (some "Job killed by User") row.2 = row.2

section Atomic

variable {env : Environment} {jobId : String} {s : QueueWorld}

theorem get?_nodeJob {row : String × JobDoc} (h : s.nodeJob? jobId = some row) :
    s.nodeJobs.get? row.1 = some row.2 :=
  (Table.findOne_eq_some h).1

/-- Saving a node job over itself changes nothing, saving another one does. -/
theorem nodeJobs_save_eq_self_iff {row : String × JobDoc} (h : s.nodeJob? jobId = some row)
    (doc : JobDoc) : (s.save row.1 doc).nodeJobs = s.nodeJobs ↔ doc = row.2 := by
  have hget := get?_nodeJob h
  rw [QueueWorld.nodeJobs_save]
  constructor
  · intro hsame
    have hdoc : (s.nodeJobs.upsert row.1 doc).get? row.1 = some doc := by
      rw [Table.get?_upsert, if_pos rfl]
    rw [hsame, hget] at hdoc
    exact (Option.some.inj hdoc).symm
  · rintro rfl
    exact Table.upsert_of_get? hget

/-- A deletion, of a job that is there. -/
theorem run_deleteJobWithJobId_of_row {job : QueueJob} (hjob : s.queue.get? jobId = some job)
    {row : String × JobDoc} (hrow : s.nodeJob? jobId = some row) :
    (deleteJobWithJobId jobId).run (handleQueue env) s =
      (.ok (), QueueWorld.save { s with queue := s.queue.erase jobId } row.1
        (NodeJob.errorDoc (some "Job killed by User") row.2)) := by
  rw [run_deleteJobWithJobId, hjob]
  dsimp only
  rw [QueueWorld.nodeJob?_queue, hrow]

theorem HasFittingNodeJob.retryError (h : HasFittingNodeJob jobId s) {e : PyError}
    {s' : QueueWorld} (hrun : (putJobRetry jobId).run (handleQueue env) s = (.error e, s')) :
    s' = s := by
  rw [run_putJobRetry] at hrun
  cases hjob : s.queue.get? jobId with
  | none =>
      rw [hjob] at hrun
      cases hrun
      rfl
  | some job =>
      rw [hjob] at hrun
      dsimp only at hrun
      split at hrun
      · rename_i hfailed
        -- a failed job has a node job, so the retry succeeds
        obtain ⟨row, hrow⟩ := Option.isSome_iff_exists.mp (h.failed (by rw [hjob]; exact hfailed))
        rw [QueueWorld.nodeJob?_queue, hrow] at hrun
        cases hrun
      · cases hrun
        rfl

theorem retryOk {s' : QueueWorld}
    (hrun : (putJobRetry jobId).run (handleQueue env) s = (.ok (), s')) :
    (s'.queue.get? jobId).map QueueJob.status = some .queued ∧
      ∃ row, s.nodeJob? jobId = some row ∧
        (s'.nodeJobs.get? row.1).map JobDoc.inprogress = some true := by
  rw [run_putJobRetry] at hrun
  cases hjob : s.queue.get? jobId with
  | none =>
      rw [hjob] at hrun
      cases hrun
  | some job =>
      rw [hjob] at hrun
      dsimp only at hrun
      split at hrun
      · rw [QueueWorld.nodeJob?_queue] at hrun
        cases hrow : s.nodeJob? jobId with
        | none =>
            rw [hrow] at hrun
            cases hrun
        | some row =>
            rw [hrow] at hrun
            cases hrun
            refine ⟨?_, row, rfl, ?_⟩
            · rw [QueueWorld.queue_save, Table.get?_modify, if_pos rfl, hjob]
              rfl
            · rw [QueueWorld.nodeJobs_save, Table.get?_upsert, if_pos rfl]
              rfl
      · cases hrun

theorem deleteQueue {r : Except PyError Unit} {s' : QueueWorld}
    (hrun : (deleteJobWithJobId jobId).run (handleQueue env) s = (r, s')) (id : String) :
    s'.queue.get? id = if id = jobId then none else s.queue.get? id := by
  rw [run_deleteJobWithJobId] at hrun
  cases hjob : s.queue.get? jobId with
  | none =>
      rw [hjob] at hrun
      cases hrun
      -- the request fails, and there is nothing to delete
      split
      · rename_i hid
        rw [hid, hjob]
      · rfl
  | some job =>
      rw [hjob] at hrun
      dsimp only at hrun
      have hqueue : s'.queue = s.queue.erase jobId := by
        split at hrun <;> cases hrun <;> rfl
      rw [hqueue, Table.get?_erase]

theorem HasFittingNodeJob.deleteNodeJobs (h : HasFittingNodeJob jobId s)
    {r : Except PyError Unit} {s' : QueueWorld}
    (hrun : (deleteJobWithJobId jobId).run (handleQueue env) s = (r, s')) :
    (s.queue.get? jobId).any QueueJob.isActive = true ∨ s'.nodeJobs = s.nodeJobs := by
  cases hjob : s.queue.get? jobId with
  | none =>
      right
      rw [run_deleteJobWithJobId, hjob] at hrun
      cases hrun
      rfl
  | some job =>
      cases hactive : job.isActive with
      | true => exact .inl hactive
      | false =>
          right
          cases hrow : s.nodeJob? jobId with
          | none =>
              rw [run_deleteJobWithJobId, hjob] at hrun
              dsimp only at hrun
              rw [QueueWorld.nodeJob?_queue, hrow] at hrun
              cases hrun
              rfl
          | some row =>
              -- the node job is saved as killed, which has to be what it is already
              rw [run_deleteJobWithJobId_of_row hjob hrow] at hrun
              cases hrun
              exact (nodeJobs_save_eq_self_iff hrow _).mpr (h.inactive job hjob hactive row hrow)

theorem jobRequestsAtomic_iff (env : Environment) (jobId : String) (s : QueueWorld) :
    JobRequestsAtomic env jobId s ↔ HasFittingNodeJob jobId s := by
  constructor
  · intro hatomic
    refine ⟨?_, ?_⟩
    · intro hfailed
      obtain ⟨job, hjob, hregistered⟩ := (Option.any_eq_true _ _).mp hfailed
      by_contra hnone
      rw [Bool.not_eq_true, Option.isSome_eq_false_iff, Option.isNone_iff_eq_none] at hnone
      have hrun : (putJobRetry jobId).run (handleQueue env) s =
          (.error noSuchNodeJobError,
            { s with queue := s.queue.modify jobId fun _ => .requeued }) := by
        rw [run_putJobRetry, hjob]
        dsimp only
        rw [if_pos hregistered, QueueWorld.nodeJob?_queue, hnone]
      -- the answer is an error, and the job has left the registry
      obtain ⟨hqueue, -⟩ := hatomic.retryError _ _ hrun
      have hget := congrArg (fun queue => queue.get? jobId) hqueue
      simp only [Table.get?_modify, if_true, hjob, Option.map_some, Option.some_inj] at hget
      rw [← hget] at hregistered
      cases hregistered
    -- a deletion that must not change the node jobs
    · intro job hjob hinactive row hrow
      rcases hatomic.deleteNodeJobs _ _ (run_deleteJobWithJobId_of_row hjob hrow) with
        hactive | hsame
      · rw [hjob, Option.any_some, hinactive] at hactive
        cases hactive
      · exact (nodeJobs_save_eq_self_iff (s := { s with queue := s.queue.erase jobId }) hrow _).mp
          hsame
  · intro hfitting
    refine ⟨?_, fun _ => retryOk, fun _ _ => deleteQueue, fun _ _ => hfitting.deleteNodeJobs⟩
    intro e s' hrun
    rw [hfitting.retryError hrun]
    exact ⟨rfl, rfl⟩

/-- The deploy job of a node, whose queue job has come to its end. -/
def finishedDeploy : QueueWorld where
  world := {
    db := fun
      | .jobs => Table.empty.upsert "j3" {
          message := none
          name := jobDeploy
          nodeId := "n1"
          pending := false
          complete := true
          inprogress := false
          error := false
          description := some "Deploying Node"
          jobId := some "7f3a"
          execType := some "DEPLOYMENT_JOBS.base_kit" }
      | _ => Table.empty
    calls := 0 }
  queue := Table.empty.upsert "7f3a" ⟨.finished, false⟩

/-- Deleting the finished job puts the completed stage into error. -/
theorem not_jobRequestsAtomic :
    ¬ ∀ (env : Environment) (jobId : String) (s : QueueWorld), JobRequestsAtomic env jobId s := by
  intro hclaim
  have hrun := @run_deleteJobWithJobId_of_row steadyEnv "7f3a" finishedDeploy _ rfl _ rfl
  rcases (hclaim _ _ _).deleteNodeJobs _ _ hrun with hactive | hsame
  · exact absurd hactive (by decide)
  · have hdoc := congrArg (fun jobs => (jobs.get? "j3").map JobDoc.error) hsame
    exact absurd hdoc (by decide)

end Atomic

end Tfplenum
