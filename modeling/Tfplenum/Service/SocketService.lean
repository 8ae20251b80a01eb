/-
  Tfplenum.Service.SocketService

  The console of a job: `log_to_console` of `service/socket_service.py` sends every
  line to the sockets and then stores it, `get_job_log` of `service/job_service.py`
  answers with what is stored, and the page of `server-stdout.component.ts` adds
  what its socket hands it and replaces its list by the answer.

  A line reaches the page twice, with nothing that tells the two apart.  The page
  shows every line once exactly if the stored lines in the answer are the lines that
  its socket has handed it by then (`jobLogs_eq_iff`).
-/

import Tfplenum.Common
import Tfplenum.Lib.Steps

namespace Tfplenum

open Lib

/-! ## Lines -/

/-- `JobLogInterface`, and a document of the console -/
structure JobLog where
  jobName : String
  jobid : String
  log : String
  color : String
deriving DecidableEq, Repr

/-- What `log_to_console` makes of a text -/
def JobLog.init (jobName jobid text : String) (color : Option String) : JobLog :=
  let startsWith (start : String) : Bool := start.toList.isPrefixOf text.toList
  let shade :=
    if startsWith "fatal" then "#ff4949"
    else if startsWith "skipping" then "#1eb980"
    else if startsWith "ok" then "#1eb980"
    else if startsWith "changed" then "orange"
    else "white"
  { jobName, jobid
    log := text
    color := match color with
      | some color => if color ≠ "" then color else shade
      | none => shade }

/-- `get_job_log` -/
def getJobLog (console : List JobLog) (jobId : String) : List JobLog :=
  console.filter fun log => log.jobid = jobId

/-! ## The system -/

/-- How far the page has come with `ngOnInit`. -/
inductive Opening where
  | closed
  /-- `setup_websocket_get_socket_on_message_` -/
  | subscribed
  /-- `api_job_logs_` has sent its request -/
  | requested
  /-- the answer is on its way -/
  | answered (response : List JobLog)
  | loaded
deriving DecidableEq, Repr

/-- `ServerStdoutComponent` -/
structure ServerStdout where
  opening : Opening
  jobLogs : List JobLog
deriving DecidableEq, Repr

/-- The handler of a message of the socket; without it the message is gone. -/
def ServerStdout.onMessage (page : ServerStdout) (jobId : String) (response : JobLog) :
    ServerStdout :=
  if page.opening = .closed then page
  else if response.jobid = jobId then { page with jobLogs := page.jobLogs ++ [response] }
  else page

/-- A job that logs, the sockets, the stored lines, and a page for the job. -/
structure JobConsole where
  jobName : String
  jobid : String
  /-- the texts still to be logged, with their colors -/
  pending : List (String × Option String)
  /-- the line that is sent but not stored -/
  emitted : Option JobLog
  /-- the messages on their way to the page -/
  channel : List JobLog
  /-- `mongo_console()` -/
  console : List JobLog
  page : ServerStdout
deriving DecidableEq, Repr

inductive ConsoleEvent where
  /-- `socketio.emit` of the job's next line -/
  | emit
  /-- `insert_one`; an `AutoReconnect` is only noted -/
  | insert (stored : Bool)
  /-- the two halves of `log_to_console` in another job -/
  | otherEmit (log : JobLog)
  | otherInsert (log : JobLog)
  | subscribe
  | request
  /-- `get_job_log` -/
  | answer
  /-- the page gets the answer -/
  | receive
  /-- the page's socket gets the next message -/
  | deliver
deriving DecidableEq, Repr

/-- The event, if it may happen. -/
def JobConsole.step (s : JobConsole) : ConsoleEvent → Option JobConsole
  | .emit =>
      match s.emitted, s.pending with
      | none, line :: pending =>
          let log := JobLog.init s.jobName s.jobid line.1 line.2
          some { s with pending, emitted := some log, channel := s.channel ++ [log] }
      | _, _ => none
  | .insert stored =>
      match s.emitted with
      | some log =>
          some { s with
            emitted := none
            console := if stored then s.console ++ [log] else s.console }
      | none => none
  | .otherEmit log =>
      if log.jobid ≠ s.jobid then some { s with channel := s.channel ++ [log] } else none
  | .otherInsert log =>
      if log.jobid ≠ s.jobid then some { s with console := s.console ++ [log] } else none
  | .subscribe =>
      if s.page.opening = .closed then
        some { s with page := { s.page with opening := .subscribed } }
      else none
  | .request =>
      if s.page.opening = .subscribed then
        some { s with page := { s.page with opening := .requested } }
      else none
  | .answer =>
      if s.page.opening = .requested then
        some { s with page := { s.page with opening := .answered (getJobLog s.console s.jobid) } }
      else none
  | .receive =>
      match s.page.opening with
      | .answered response => some { s with page := { opening := .loaded, jobLogs := response } }
      | _ => none
  | .deliver =>
      match s.channel with
      | response :: channel => some { s with channel, page := s.page.onMessage s.jobid response }
      | [] => none

/-- Before the job logs and the page is opened. -/
structure JobConsole.Initial (s : JobConsole) : Prop where
  emitted : s.emitted = none
  channel : s.channel = []
  console : getJobLog s.console s.jobid = []
  page : s.page = ⟨.closed, []⟩

/-- Everything has been logged and delivered. -/
structure JobConsole.Settled (s : JobConsole) : Prop where
  pending : s.pending = []
  emitted : s.emitted = none
  channel : s.channel = []
  page : s.page.opening = .loaded

/-- The job's lines, in the order in which they are logged. -/
def JobConsole.lines (s : JobConsole) : List JobLog :=
  s.pending.map fun line => JobLog.init s.jobName s.jobid line.1 line.2

/-- What the job's page has still to get over its socket. -/
def JobConsole.toCome (s : JobConsole) : List JobLog :=
  s.channel.filter (fun log => log.jobid = s.jobid) ++ s.lines

/-- The job's lines among the messages that the events deliver. -/
def deliveredLines : JobConsole → List ConsoleEvent → List JobLog
  | _, [] => []
  | s, e :: es =>
      let taken := if e = .deliver then s.channel.take 1 else []
      taken.filter (fun log => log.jobid = s.jobid) ++
        match s.step e with
        | some s' => deliveredLines s' es
        | none => []

/-- The lines that were stored when the server read them for the page are the lines
    that the page's socket had handed it when the answer came. -/
def AnswerFits (s : JobConsole) (es : List ConsoleEvent) : Prop :=
  ∀ pre mid post, es = pre ++ .answer :: (mid ++ .receive :: post) →
    ∀ t, Steps.after JobConsole.step s pre = some t →
      getJobLog t.console s.jobid = deliveredLines s (pre ++ .answer :: mid)

/-! ## Steps -/

theorem jobid_step {s s' : JobConsole} {e : ConsoleEvent} (h : s.step e = some s') :
    s'.jobid = s.jobid := by
  cases e <;> simp only [JobConsole.step] at h <;> split at h <;> cases h <;> rfl

theorem onMessage_opening (page : ServerStdout) (jobId : String) (response : JobLog) :
    (page.onMessage jobId response).opening = page.opening := by
  rw [ServerStdout.onMessage]
  split
  · rfl
  · split <;> rfl

/-- The lines an event delivers were the first of those to come; no other event
    changes what is to come. -/
theorem toCome_step {s s' : JobConsole} {e : ConsoleEvent} (h : s.step e = some s') :
    (if e = .deliver then s.channel.take 1 else []).filter (fun log => log.jobid = s.jobid) ++
      s'.toCome = s.toCome := by
  cases e with
  | emit =>
      simp only [JobConsole.step] at h
      split at h
      · rename_i line pending _ hpending
        cases h
        have hid : (JobLog.init s.jobName s.jobid line.1 line.2).jobid = s.jobid := rfl
        simp [JobConsole.toCome, JobConsole.lines, hpending, hid]
      · cases h
  | otherEmit log =>
      simp only [JobConsole.step] at h
      split at h
      · rename_i hother
        cases h
        simp [JobConsole.toCome, JobConsole.lines, hother]
      · cases h
  | deliver =>
      simp only [JobConsole.step] at h
      split at h
      · rename_i response channel hchannel
        cases h
        -- the head of the channel moves from what is to come to what is delivered
        simp only [JobConsole.toCome, JobConsole.lines, hchannel, if_true, List.take_succ_cons,
          List.take_zero]
        rw [← List.append_assoc, ← List.filter_append, List.singleton_append]
      · cases h
  | insert _ | otherInsert _ | subscribe | request | answer | receive =>
      simp only [JobConsole.step] at h
      split at h
      · cases h
        rfl
      · cases h

/-- What an event does to the page. -/
theorem page_step {s s' : JobConsole} {e : ConsoleEvent} (h : s.step e = some s') :
    (e ≠ .deliver ∧ s'.page = s.page) ∨
    (∃ response channel, e = .deliver ∧ s.channel = response :: channel ∧
      s'.page = s.page.onMessage s.jobid response) ∨
    (s.page.opening = .closed ∧ e = .subscribe ∧
      s'.page = { s.page with opening := .subscribed }) ∨
    (s.page.opening = .subscribed ∧ e = .request ∧
      s'.page = { s.page with opening := .requested }) ∨
    (s.page.opening = .requested ∧ e = .answer ∧
      s'.page = { s.page with opening := .answered (getJobLog s.console s.jobid) }) ∨
    (∃ response, s.page.opening = .answered response ∧ e = .receive ∧
      s'.page = ⟨.loaded, response⟩) := by
  cases e with
  | emit | insert _ | otherEmit _ | otherInsert _ =>
      refine .inl ⟨by simp, ?_⟩
      simp only [JobConsole.step] at h
      split at h
      · cases h
        rfl
      · cases h
  | deliver =>
      simp only [JobConsole.step] at h
      split at h
      · rename_i response channel hchannel
        cases h
        exact .inr (.inl ⟨response, channel, rfl, hchannel, rfl⟩)
      · cases h
  | subscribe =>
      obtain ⟨hopening, h⟩ := Option.ite_none_right_eq_some.mp h
      cases h
      exact .inr (.inr (.inl ⟨hopening, rfl, rfl⟩))
  | request =>
      obtain ⟨hopening, h⟩ := Option.ite_none_right_eq_some.mp h
      cases h
      exact .inr (.inr (.inr (.inl ⟨hopening, rfl, rfl⟩)))
  | answer =>
      obtain ⟨hopening, h⟩ := Option.ite_none_right_eq_some.mp h
      cases h
      exact .inr (.inr (.inr (.inr (.inl ⟨hopening, rfl, rfl⟩))))
  | receive =>
      simp only [JobConsole.step] at h
      split at h
      · rename_i response hopening
        cases h
        exact .inr (.inr (.inr (.inr (.inr ⟨response, hopening, rfl, rfl⟩))))
      · cases h

/-- A page that has its answer shows what it gets from there on. -/
theorem jobLogs_step {s s' : JobConsole} {e : ConsoleEvent} (h : s.step e = some s')
    (hloaded : s.page.opening = .loaded) :
    s'.page.opening = .loaded ∧ s'.page.jobLogs ++ s'.toCome = s.page.jobLogs ++ s.toCome := by
  have hcome := toCome_step h
  rcases page_step h with ⟨hno, hpage⟩ | ⟨response, channel, rfl, hchannel, hpage⟩ |
    ⟨hopening, -⟩ | ⟨hopening, -⟩ | ⟨hopening, -⟩ | ⟨response, hopening, -⟩
  · rw [if_neg hno, List.filter_nil, List.nil_append] at hcome
    rw [hpage, hcome]
    exact ⟨hloaded, rfl⟩
  · rw [hpage, onMessage_opening]
    refine ⟨hloaded, ?_⟩
    rw [← hcome, ← List.append_assoc]
    congr 1
    by_cases hid : response.jobid = s.jobid <;>
      simp [ServerStdout.onMessage, hchannel, hloaded, hid]
  all_goals
    rw [hloaded] at hopening
    cases hopening

/-- An answer on its way stays the same until the page gets it. -/
theorem answered_step {s s' : JobConsole} {e : ConsoleEvent} (h : s.step e = some s')
    {response : List JobLog}
    (hs : s.page.opening = .answered response ∨ s.page.opening = .loaded) :
    s'.page.opening = .answered response ∨ s'.page.opening = .loaded := by
  rcases page_step h with ⟨-, hpage⟩ | ⟨_, _, -, -, hpage⟩ | ⟨hopening, -⟩ | ⟨hopening, -⟩ |
    ⟨hopening, -⟩ | ⟨response', hopening, -, hpage⟩
  · rw [hpage]
    exact hs
  · rw [hpage, onMessage_opening]
    exact hs
  · rw [hopening] at hs
    rcases hs with hs | hs <;> cases hs
  · rw [hopening] at hs
    rcases hs with hs | hs <;> cases hs
  · rw [hopening] at hs
    rcases hs with hs | hs <;> cases hs
  · rw [hpage]
    exact .inr rfl

/-! ## Runs -/

variable {s t : JobConsole} {es : List ConsoleEvent}

theorem jobid_after (h : Steps.after JobConsole.step s es = some t) : t.jobid = s.jobid := by
  induction es generalizing s with
  | nil =>
      cases h
      rfl
  | cons e es ih =>
      obtain ⟨s', hs', h⟩ := Steps.after_cons_eq_some.mp h
      exact (ih h).trans (jobid_step hs')

/-- Of the lines to come, a run delivers the first. -/
theorem deliveredLines_append_toCome (h : Steps.after JobConsole.step s es = some t) :
    deliveredLines s es ++ t.toCome = s.toCome := by
  induction es generalizing s with
  | nil =>
      cases h
      rfl
  | cons e es ih =>
      obtain ⟨s', hs', h⟩ := Steps.after_cons_eq_some.mp h
      rw [deliveredLines, hs', List.append_assoc, ih h]
      exact toCome_step hs'

theorem jobLogs_after (h : Steps.after JobConsole.step s es = some t)
    (hloaded : s.page.opening = .loaded) :
    t.page.jobLogs ++ t.toCome = s.page.jobLogs ++ s.toCome := by
  induction es generalizing s with
  | nil =>
      cases h
      rfl
  | cons e es ih =>
      obtain ⟨s', hs', h⟩ := Steps.after_cons_eq_some.mp h
      obtain ⟨hloaded', hkeep⟩ := jobLogs_step hs' hloaded
      rw [ih h hloaded', hkeep]

/-- A page that ends up loaded has got an answer. -/
theorem exists_receive (h : Steps.after JobConsole.step s es = some t)
    (hs : s.page.opening ≠ .loaded) (ht : t.page.opening = .loaded) :
    ∃ pre post w response, es = pre ++ .receive :: post ∧
      Steps.after JobConsole.step s pre = some w ∧ w.page.opening = .answered response := by
  induction es using List.reverseRecOn generalizing t with
  | nil =>
      cases h
      exact absurd ht hs
  | append_singleton es e ih =>
      obtain ⟨w, hw, he⟩ := Steps.after_append_eq_some.mp h
      rw [Steps.after_cons_eq_some] at he
      obtain ⟨t', he, htt⟩ := he
      cases htt
      -- either it was loaded before the last event, or that is the one
      by_cases hloaded : w.page.opening = .loaded
      · obtain ⟨pre, post, v, response, rfl, hv, hanswered⟩ := ih hw hloaded
        exact ⟨pre, post ++ [e], v, response, by simp, hv, hanswered⟩
      · rcases page_step he with ⟨-, hpage⟩ | ⟨_, _, -, -, hpage⟩ | ⟨-, -, hpage⟩ | ⟨-, -, hpage⟩ |
          ⟨-, -, hpage⟩ | ⟨response, hopening, rfl, -⟩
        · rw [hpage] at ht
          exact absurd ht hloaded
        · rw [hpage, onMessage_opening] at ht
          exact absurd ht hloaded
        · rw [hpage] at ht
          cases ht
        · rw [hpage] at ht
          cases ht
        · rw [hpage] at ht
          cases ht
        · exact ⟨es, [], w, response, rfl, hw, hopening⟩

/-- An answer on its way was read from the console. -/
theorem exists_answer (h : Steps.after JobConsole.step s es = some t)
    (hs : s.page.opening = .closed) {response : List JobLog}
    (ht : t.page.opening = .answered response) :
    ∃ pre mid w, es = pre ++ .answer :: mid ∧ Steps.after JobConsole.step s pre = some w := by
  induction es using List.reverseRecOn generalizing t with
  | nil =>
      cases h
      rw [hs] at ht
      cases ht
  | append_singleton es e ih =>
      obtain ⟨w, hw, he⟩ := Steps.after_append_eq_some.mp h
      rw [Steps.after_cons_eq_some] at he
      obtain ⟨t', he, htt⟩ := he
      cases htt
      -- an answer that was on its way before the last event
      have hearlier (hanswered : w.page.opening = .answered response) :
          ∃ pre mid w, es ++ [e] = pre ++ .answer :: mid ∧
            Steps.after JobConsole.step s pre = some w := by
        obtain ⟨pre, mid, v, rfl, hv⟩ := ih hw hanswered
        exact ⟨pre, mid ++ [e], v, by simp, hv⟩
      rcases page_step he with ⟨-, hpage⟩ | ⟨_, _, -, -, hpage⟩ | ⟨-, -, hpage⟩ | ⟨-, -, hpage⟩ |
        ⟨-, rfl, -⟩ | ⟨response', -, -, hpage⟩
      · rw [hpage] at ht
        exact hearlier ht
      · rw [hpage, onMessage_opening] at ht
        exact hearlier ht
      · rw [hpage] at ht
        cases ht
      · rw [hpage] at ht
        cases ht
      · exact ⟨es, [], w, rfl, hw⟩
      · rw [hpage] at ht
        cases ht

/-- What the page shows in the end: the stored lines it was answered with, and the
    lines its socket had still to hand it when the answer came. -/
theorem jobLogs_of_split {pre mid post : List ConsoleEvent} (hsettled : t.Settled)
    (h : Steps.after JobConsole.step s (pre ++ .answer :: (mid ++ .receive :: post)) = some t)
    {v : JobConsole} (hv : Steps.after JobConsole.step s pre = some v) :
    ∃ w, Steps.after JobConsole.step s (pre ++ .answer :: mid) = some w ∧
      t.page.jobLogs = getJobLog v.console s.jobid ++ w.toCome := by
  obtain ⟨v', hv', h⟩ := Steps.after_append_eq_some.mp h
  cases hv.symm.trans hv'
  obtain ⟨a, ha, h⟩ := Steps.after_cons_eq_some.mp h
  obtain ⟨w, hw, h⟩ := Steps.after_append_eq_some.mp h
  obtain ⟨r, hr, h⟩ := Steps.after_cons_eq_some.mp h
  refine ⟨w, ?_, ?_⟩
  · rw [Steps.after_append_eq_some]
    exact ⟨v, hv, Steps.after_cons_eq_some.mpr ⟨a, ha, hw⟩⟩
  · have hsent : a.page.opening = .answered (getJobLog v.console s.jobid) := by
      obtain ⟨-, ha⟩ := Option.ite_none_right_eq_some.mp ha
      cases ha
      rw [← jobid_after hv]
    -- the same answer is on its way when the page gets it
    have hkept := Steps.after_invariant (fun _ _ _ h hs => answered_step h hs) hw (.inl hsent)
    have hgot : w.page.opening = .answered (getJobLog v.console s.jobid) := by
      refine hkept.resolve_right fun hloaded => ?_
      simp only [JobConsole.step, hloaded] at hr
      cases hr
    have hpage : r.page = ⟨.loaded, getJobLog v.console s.jobid⟩ := by
      simp only [JobConsole.step, hgot] at hr
      cases hr
      rfl
    have hshown := jobLogs_after h (by rw [hpage])
    have hnothing : t.toCome = [] := by
      simp [JobConsole.toCome, JobConsole.lines, hsettled.pending, hsettled.channel]
    have hcome : r.toCome = w.toCome := toCome_step hr
    rw [hnothing, List.append_nil, hpage, hcome] at hshown
    exact hshown

/-- Once everything has been logged and delivered, the page shows every line of the job
    once and in its order, exactly if the stored lines it was answered with are the lines
    its socket had handed it by then. -/
theorem jobLogs_eq_iff (s t : JobConsole) (es : List ConsoleEvent) (hs : s.Initial)
    (h : Steps.after JobConsole.step s es = some t) (ht : t.Settled) :
    t.page.jobLogs = s.lines ↔ AnswerFits s es := by
  have hlines : s.toCome = s.lines := by
    rw [JobConsole.toCome, hs.channel]
    rfl
  -- at every cut, what was delivered and what is to come are the lines
  have hcut {pre mid post : List ConsoleEvent} {v : JobConsole}
      (hes : es = pre ++ .answer :: (mid ++ .receive :: post))
      (hv : Steps.after JobConsole.step s pre = some v) :
      t.page.jobLogs = s.lines ↔
        getJobLog v.console s.jobid = deliveredLines s (pre ++ .answer :: mid) := by
    obtain ⟨w, hw, hshown⟩ := jobLogs_of_split ht (hes ▸ h) hv
    rw [hshown, ← hlines, ← deliveredLines_append_toCome hw, List.append_left_inj]
  constructor
  · intro heq pre mid post hes v hv
    exact (hcut hes hv).mp heq
  · intro hfits
    have hclosed : s.page.opening = .closed := by rw [hs.page]
    have hloading : s.page.opening ≠ .loaded := by
      rw [hclosed]
      decide
    obtain ⟨front, post, w, response, rfl, hw, hanswered⟩ := exists_receive h hloading ht.page
    obtain ⟨pre, mid, v, rfl, hv⟩ := exists_answer hw hclosed hanswered
    have hes : pre ++ .answer :: mid ++ .receive :: post =
        pre ++ .answer :: (mid ++ .receive :: post) := by simp
    exact (hcut hes hv).mpr (hfits pre mid post hes v hv)

/-- A job that is to log one line. -/
def oneLineConsole : JobConsole where
  jobName := "nodes"
  jobid := "6f1c"
  pending := [("ok: [sensor1.lan]", none)]
  emitted := none
  channel := []
  console := []
  page := ⟨.closed, []⟩

theorem initial_oneLineConsole : oneLineConsole.Initial := ⟨rfl, rfl, rfl, rfl⟩

/-- The line is stored before the page asks, and delivered before the answer. -/
def openedAfterwards : List ConsoleEvent :=
  [.emit, .insert true, .subscribe, .deliver, .request, .answer, .receive]

theorem jobLogs_eq_iff_openedAfterwards :
    [JobLog.init "nodes" "6f1c" "ok: [sensor1.lan]" none] = oneLineConsole.lines ↔
      AnswerFits oneLineConsole openedAfterwards :=
  jobLogs_eq_iff oneLineConsole
    { oneLineConsole with
      pending := []
      console := [JobLog.init "nodes" "6f1c" "ok: [sensor1.lan]" none]
      page := ⟨.loaded, [JobLog.init "nodes" "6f1c" "ok: [sensor1.lan]" none]⟩ }
    openedAfterwards initial_oneLineConsole (by decide +kernel) ⟨rfl, rfl, rfl, rfl⟩

/-- The property without a condition on the runs. -/
def ShowsEveryLineOnce : Prop :=
  ∀ (s t : JobConsole) (es : List ConsoleEvent), s.Initial →
    Steps.after JobConsole.step s es = some t → t.Settled → t.page.jobLogs = s.lines

/-- The answer was read before the line was stored, and comes after its message. -/
theorem not_showsEveryLineOnce : ¬ ShowsEveryLineOnce := by
  intro hclaim
  have hshown := hclaim oneLineConsole
    { oneLineConsole with
      pending := []
      console := [JobLog.init "nodes" "6f1c" "ok: [sensor1.lan]" none]
      page := ⟨.loaded, []⟩ }
    [.subscribe, .request, .emit, .answer, .deliver, .receive, .insert true]
    initial_oneLineConsole (by decide +kernel) ⟨rfl, rfl, rfl, rfl⟩
  cases hshown

end Tfplenum
