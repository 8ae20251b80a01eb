/-
  Tfplenum.Service.ReplayJob

  `run_replay_job`: the replayers are executed one after the other, each failure is
  notified, and the last notification is that of a completed job, which stands in the
  `finally` (`replayJob_tells_iff`).
-/

import Tfplenum.Lib.Trace
import Tfplenum.Service.HelmJobs

namespace Tfplenum

open Lib

namespace ReplayJob

/-! ## The job -/

/-- A replayer: the name of its class, and what `execute` comes to, a message, `None`, or an
    exception with its text. -/
structure Replayer where
  typeName : String
  outcome : Except String (Option String)

/-- The members of `NotificationCode` that the job uses -/
inductive NotificationCode where
  | started | inProgress | completed | error | failed

def NotificationCode.name : NotificationCode → String
  | .started => "STARTED"
  | .inProgress => "IN_PROGRESS"
  | .completed => "COMPLETED"
  | .error => "ERROR"
  | .failed => "FAILED"

inductive ReplayOp where
  /-- `replayer.execute(pcap)` -/
  | execute (replayer : Replayer)
  /-- `post_to_websocket_api`, which does not raise -/
  | post (notification : NotificationMessage)

abbrev ReplayOp.Answer : ReplayOp → Type
  | .execute _ => Except String (Option String)
  | .post _ => Unit

abbrev Replay := Program ReplayOp ReplayOp.Answer String

/-- What the operations are answered with -/
def answer : Handler ReplayOp ReplayOp.Answer Unit
  | .execute replayer, s => (replayer.outcome, s)
  | .post _, s => ((), s)

section

variable (notification : NotificationMessage)

/-- The notification with a status and a message -/
def noticeOf (status : NotificationCode) (message : String) : NotificationMessage :=
  { notification with status := status.name, message }

/-- `inline_notify`; the status is the name of a member, so that `set_status` takes it. -/
def inlineNotify (status : NotificationCode) (message : String) : Replay Unit :=
  Program.perform (ReplayOp.post (noticeOf notification status message))

variable (replayMessage : String)

/-- The body of the loop: `continue` in the handler goes on with the next replayer. -/
def executeReplayer (replayer : Replayer) : Replay Unit :=
  Program.tryExcept
    (do
      let message ← Program.call (.execute replayer) Program.ofExcept
      match message with
      | some message =>
          -- an empty message is not told
          if message ≠ "" then
            inlineNotify notification .inProgress
              (replayMessage ++ " is in progress. " ++ message)
      | none => pure ())
    fun e =>
      inlineNotify notification .failed ("Error executing " ++ replayer.typeName ++ ": " ++ e)

/-- `run_replay_job` -/
def runReplayJob (replayers : List Replayer) : Replay Unit :=
  Program.tryFinally
    (Program.tryExcept
      (do
        inlineNotify notification .started (replayMessage ++ " has started.")
        Program.forEach replayers (executeReplayer notification replayMessage))
      fun e => inlineNotify notification .error ("Error running replay: " ++ e))
    (inlineNotify notification .completed (replayMessage ++ " has completed."))

/-- What the job does, in order -/
def events (replayers : List Replayer) : List ReplayOp :=
  (runReplayJob notification replayMessage replayers).trace answer ()

/-! ## What it tells -/

def ReplayOp.executed : ReplayOp → Option Replayer
  | .execute replayer => some replayer
  | .post _ => none

def ReplayOp.posted : ReplayOp → Option NotificationMessage
  | .execute _ => none
  | .post notification => some notification

def Replayer.Succeeds (replayer : Replayer) : Prop := replayer.outcome.isOk = true

instance (replayer : Replayer) : Decidable replayer.Succeeds :=
  inferInstanceAs (Decidable (_ = true))

/-- The notification for a replayer that raises -/
def failureOf (replayer : Replayer) : Option NotificationMessage :=
  match replayer.outcome with
  | .ok _ => none
  | .error e =>
      some (noticeOf notification .failed ("Error executing " ++ replayer.typeName ++ ": " ++ e))

/-- Each replayer is executed once and in order, each that raises has its failure, and the last
    notification says whether all went well. -/
structure Tells (replayers : List Replayer) : Prop where
  executed : (events notification replayMessage replayers).filterMap ReplayOp.executed = replayers
  failures : ((events notification replayMessage replayers).filterMap ReplayOp.posted).filter
    (fun posted => posted.status = NotificationCode.failed.name) =
      replayers.filterMap (failureOf notification)
  last : ∃ last, ((events notification replayMessage replayers).filterMap
      ReplayOp.posted).getLast? = some last ∧
    (last.status = NotificationCode.completed.name ↔ ∀ r ∈ replayers, r.Succeeds) ∧
    ((¬ ∀ r ∈ replayers, r.Succeeds) → last.status = NotificationCode.error.name ∨
      last.status = NotificationCode.failed.name)

end

/-! ## What it does -/

section

variable {notification : NotificationMessage} {replayMessage : String}

/-- What a round of the loop does -/
def roundOf (notification : NotificationMessage) (replayMessage : String) (replayer : Replayer) :
    List ReplayOp :=
  .execute replayer :: match replayer.outcome with
    | .ok (some message) =>
        if message ≠ "" then
          [.post (noticeOf notification .inProgress
            (replayMessage ++ " is in progress. " ++ message))]
        else []
    | .ok none => []
    | .error e => [.post (noticeOf notification .failed
        ("Error executing " ++ replayer.typeName ++ ": " ++ e))]

/-- A round returns, whatever the replayer does. -/
theorem executeReplayer_spec (replayer : Replayer) :
    (executeReplayer notification replayMessage replayer).run answer () = (.ok (), ()) ∧
      (executeReplayer notification replayMessage replayer).trace answer () =
        roundOf notification replayMessage replayer := by
  obtain ⟨typeName, e | _ | message⟩ := replayer
  · exact ⟨rfl, rfl⟩
  · exact ⟨rfl, rfl⟩
  · by_cases hempty : message = ""
    · subst hempty
      exact ⟨rfl, rfl⟩
    · -- the only round with a notification of its own
      constructor <;>
        simp [executeReplayer, inlineNotify, Program.perform, Program.tryExcept, Program.attempt,
          Program.ofExcept, answer, roundOf, hempty]

/-- The start, the rounds and the end -/
theorem events_eq (notification : NotificationMessage) (replayMessage : String)
    (replayers : List Replayer) :
    events notification replayMessage replayers =
      .post (noticeOf notification .started (replayMessage ++ " has started.")) ::
        (replayers.flatMap (roundOf notification replayMessage) ++
          [.post (noticeOf notification .completed (replayMessage ++ " has completed."))]) := by
  let loop : Replay Unit := Program.forEach replayers (executeReplayer notification replayMessage)
  let body : Replay Unit := do
    inlineNotify notification .started (replayMessage ++ " has started.")
    loop
  let handler (e : String) : Replay Unit :=
    inlineNotify notification .error ("Error running replay: " ++ e)
  have hrounds : ∀ replayer ∈ replayers,
      (executeReplayer notification replayMessage replayer).run answer () = (.ok (), ()) :=
    fun replayer _ => (executeReplayer_spec replayer).1
  have hbody : body.run answer () = (.ok (), ()) := Program.run_forEach_of_returns answer hrounds
  have htry : (body.tryExcept handler).run answer () = (.ok (), ()) := by
    rw [Program.run_tryExcept, hbody]
  have htrace : body.trace answer () =
      .post (noticeOf notification .started (replayMessage ++ " has started.")) ::
        replayers.flatMap (roundOf notification replayMessage) := by
    change _ :: loop.trace answer () = _
    rw [Program.trace_forEach_of_returns answer hrounds]
    simp only [(executeReplayer_spec _).2]
  rw [events, runReplayJob, Program.trace_tryFinally_ok answer htry rfl,
    Program.trace_tryExcept_ok answer hbody, htrace]
  rfl

/-- A round executes its replayer and notifies its failure, if it raises. -/
theorem roundOf_spec (replayer : Replayer) :
    (roundOf notification replayMessage replayer).filterMap ReplayOp.executed = [replayer] ∧
      ((roundOf notification replayMessage replayer).filterMap ReplayOp.posted).filter
          (fun posted => posted.status = NotificationCode.failed.name) =
        (failureOf notification replayer).toList := by
  obtain ⟨typeName, e | _ | message⟩ := replayer
  · exact ⟨rfl, rfl⟩
  · exact ⟨rfl, rfl⟩
  · by_cases hempty : message = ""
    · subst hempty
      exact ⟨rfl, rfl⟩
    · have hround : roundOf notification replayMessage ⟨typeName, .ok (some message)⟩ =
          [.execute ⟨typeName, .ok (some message)⟩, .post (noticeOf notification .inProgress
            (replayMessage ++ " is in progress. " ++ message))] := by
        simp [roundOf, hempty]
      rw [hround]
      exact ⟨rfl, rfl⟩

theorem executed_events (notification : NotificationMessage) (replayMessage : String)
    (replayers : List Replayer) :
    (events notification replayMessage replayers).filterMap ReplayOp.executed = replayers := by
  rw [events_eq, List.filterMap_cons_none rfl, List.filterMap_append, List.filterMap_flatMap]
  simp [(roundOf_spec _).1, ReplayOp.executed]

theorem posted_events (notification : NotificationMessage) (replayMessage : String)
    (replayers : List Replayer) :
    (events notification replayMessage replayers).filterMap ReplayOp.posted =
      noticeOf notification .started (replayMessage ++ " has started.") ::
        ((replayers.flatMap (roundOf notification replayMessage)).filterMap ReplayOp.posted ++
          [noticeOf notification .completed (replayMessage ++ " has completed.")]) := by
  rw [events_eq]
  change _ :: List.filterMap _ (_ ++ _) = _
  rw [List.filterMap_append]
  rfl

theorem failures_events (notification : NotificationMessage) (replayMessage : String)
    (replayers : List Replayer) :
    ((events notification replayMessage replayers).filterMap ReplayOp.posted).filter
        (fun posted => posted.status = NotificationCode.failed.name) =
      replayers.filterMap (failureOf notification) := by
  have hrounds : ((replayers.flatMap (roundOf notification replayMessage)).filterMap
      ReplayOp.posted).filter (fun posted => posted.status = NotificationCode.failed.name) =
        replayers.filterMap (failureOf notification) := by
    rw [List.filterMap_flatMap, List.filter_flatMap, List.filterMap_eq_flatMap_toList]
    exact List.flatMap_congr fun replayer _ => (roundOf_spec replayer).2
  rw [posted_events, List.filter_cons, List.filter_append, hrounds]
  simp [noticeOf, NotificationCode.name]

/-- The end has the last word. -/
theorem getLast?_events (notification : NotificationMessage) (replayMessage : String)
    (replayers : List Replayer) :
    ((events notification replayMessage replayers).filterMap ReplayOp.posted).getLast? =
      some (noticeOf notification .completed (replayMessage ++ " has completed.")) := by
  rw [posted_events, ← List.cons_append, List.getLast?_concat]

/-- For every list of replayers and whatever they come to, the job tells it exactly if all of
    them succeed. -/
theorem replayJob_tells_iff (notification : NotificationMessage) (replayMessage : String)
    (replayers : List Replayer) :
    Tells notification replayMessage replayers ↔ ∀ r ∈ replayers, r.Succeeds := by
  constructor
  · intro h
    obtain ⟨last, hlast, hcompleted, -⟩ := h.last
    rw [getLast?_events, Option.some.injEq] at hlast
    subst hlast
    exact hcompleted.mp rfl
  · intro hall
    refine ⟨executed_events .., failures_events .., _, getLast?_events .., ?_, ?_⟩
    · exact iff_of_true rfl hall
    · exact fun hnot => absurd hall hnot

/-- One replayer that fails: the job has failed and then completed. -/
theorem not_tells_failing : ¬ ∀ notification replayMessage replayers,
    Tells notification replayMessage replayers := by
  intro h
  let notification : NotificationMessage :=
    { role := "pcap", action := "", application := "", message := "", status := "",
      exception := "", data := [] }
  obtain ⟨last, hlast, hcompleted, -⟩ :=
    (h notification "Replaying" [⟨"ZeekReplayer", .error "no connection"⟩]).last
  rw [getLast?_events, Option.some.injEq] at hlast
  subst hlast
  exact absurd (hcompleted.mp rfl) (by decide)

end

end ReplayJob

end Tfplenum
