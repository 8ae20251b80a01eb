/-
  Tfplenum.Service.JobService

  What `service/job_service.py` does with the jobs of nodes: the requests that
  retry a job of the queue or delete it, and the run of the whole kit, which
  updates the jobs of many nodes.
-/

import Tfplenum.Service.NodeService

namespace Tfplenum

open Lib

def noSuchNodeJobError : PyError := .other "NoSuchNodeJobError"

/-- The job of a node that the job of the queue works on. -/
def NodeJob.loadJobsByJobId (jobId : String) : Prog (Option NodeJob) := do
  match ← Prog.findOne .jobs fun _ job => job.jobId = some jobId with
  | none => pure none
  | some row => pure (some ⟨row.1, row.2⟩)

/-- `put_job_retry` -/
def putJobRetry (jobId : String) : Prog Unit := do
  Prog.orRaise (Prog.ask (.fetchJob jobId))
  Prog.orRaise (Prog.ask (.requeueJob jobId))
  match ← NodeJob.loadJobsByJobId jobId with
  | none => Program.raise noSuchNodeJobError
  | some job => discard (job.setInprogress (some jobId))

/-- `delete_job_with_job_id` -/
def deleteJobWithJobId (jobId : String) : Prog Unit := do
  Prog.orRaise (Prog.ask (.fetchJob jobId))
  match ← NodeJob.loadJobsByJobId jobId with
  | none => pure ()
  | some job => discard (job.setError (some "Job killed by User"))
  Prog.orRaise (Prog.ask (.deleteJob jobId))

/-! ## The whole kit -/

/-- What `execute` is called with for a list of nodes. -/
structure KitService where
  jobId : String
  stage : String
  nodes : List Node

namespace KitService

def jobUpdate (s : KitService) (node : Node) : Prog Unit := do
  if s.stage = jobRemove then
    NodeJob.createRemoveNodeJob node s.jobId
  else
    match ← NodeJob.loadJobByNode node s.stage with
    | none => pure ()
    | some job =>
        let job ← job.setJobState (some s.jobId)
        NodeJob.saveToDb ⟨job.id, { job.doc with execType := some "DEPLOYMENT_JOBS.base_kit" }⟩

def handle (s : KitService) (success : Bool) : Prog Unit :=
  Program.forEach s.nodes fun node => updateJob node s.stage success

def body (s : KitService) : Prog Bool := do
  Program.forEach s.nodes s.jobUpdate
  sendNotification
  let isSuccessful ← Prog.orRaise (Prog.ask (.asyncJob "DEPLOYMENT_JOBS.base_kit" s.stage ""))
  s.handle isSuccessful
  sendNotification
  if isSuccessful then pure true else Program.raise jobFailed

/-- `execute` for the base kit -/
def execute (s : KitService) : Prog Bool :=
  s.body.tryExcept fun e => do
    s.handle false
    Program.raise e

end KitService

end Tfplenum
