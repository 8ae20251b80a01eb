/-
  Tfplenum.Service.AgentEnds

  How a run of the agent ends for its hosts: which state is recorded for each, and
  what is reported.  The handlers of `execute` put all hosts into the error state and
  report once, and the loop over a report of ansible does so host by host, under the
  id that it reads back.  A missing installer is reported and not the end of the run,
  and the exit status of the script over SMB is dropped.
-/

import Tfplenum.Service.HostAttribution

namespace Tfplenum

open Lib

/-! ## Operations -/

/-- The steps over SMB from the installer on come to their end, with this exit status of the
    script. -/
structure AgentSteps.Through (steps : AgentSteps) (hosts : List String) (rc : Int) : Prop where
  sent : steps.sendOverSmb = .ok ()
  script : steps.postScript = .ok rc
  pulled : ∀ host ∈ hosts, steps.pullFile host = .ok ()
  cleaned : steps.cleanup = .ok ()

/-- What is documented of ansible, with a report that is only on the ids of the inventory. -/
structure Ansible.Reports (ansible : Ansible) (machine : AgentAction → String → HostStats) : Prop
    extends ansible.Documented machine where
  listed : ∀ action inventory result, ansible action inventory = .ok result → ∀ id stats,
    result.summary.get? id = some stats → ∃ line ∈ inventory, line.id = id

namespace WinRunner

/-- The run comes to `_set_installer`. -/
structure LooksForInstaller (runner : WinRunner) (steps : AgentSteps) : Prop where
  connect : steps.connect = .ok ()
  buildAgents : steps.buildAgents = .ok ()
  prepared : runner.overSmb = true → steps.smbService = .ok () ∧ ∃ rc, steps.prepScript = .ok rc

/-- What ansible has done on the machine of the host. -/
def outcomeOn (runner : WinRunner) (machine : AgentAction → String → HostStats) (host : String) :
    HostStats :=
  machine runner.action (fixHostname runner.dnsSuffix host)

/-- The playbook went through on the host: it ran, its tasks went through there, and it was not
    given up for a reason that lies with none of the hosts. -/
def PlaybookSucceeded (runner : WinRunner) (ansible : Ansible)
    (machine : AgentAction → String → HostStats) (host : String) : Prop :=
  ∃ result, ansible runner.action (inventoryLines runner.connectionHosts) = .ok result ∧
    (runner.outcomeOn machine host).succeeded = true ∧
    (result.statusCode = 0 ∨
      ∃ host' ∈ runner.hostnameOrIp.toList, (runner.outcomeOn machine host').succeeded = false)

/-- The operation succeeded on the host. -/
def OperationSucceeded (runner : WinRunner) (ansible : Ansible)
    (machine : AgentAction → String → HostStats) (steps : AgentSteps) (host : String) : Prop :=
  runner.LooksForInstaller steps ∧ steps.installerExists = true ∧
    if runner.overSmb then steps.Through runner.hostnameOrIp.toList 0
    else runner.PlaybookSucceeded ansible machine host

end WinRunner

/-! ## Reports -/

/-- A notice that the run is over. -/
def AgentNotice.isTerminal : AgentNotice → Bool
  | .inProgress _ _ => false
  | _ => true

/-- The hosts that a notice names, if it does. -/
def AgentNotice.named : AgentNotice → Option (List String)
  | .inProgress _ hosts => some hosts
  | .success _ hosts => some hosts
  | .failure _ hosts _ => some hosts
  | .loginNetworkFailure _ host _ => some [host]
  | .installerMissing => none

/-- What the terminal notices name, one after the other. -/
def AgentState.ended (s : AgentState) : List (Option (List String)) :=
  (s.notices.filter AgentNotice.isTerminal).map AgentNotice.named

/-- One terminal notice for the run, or one for each host of it. -/
def ReportsOnce (hosts : List String) (named : List (Option (List String))) : Prop :=
  named = [some hosts] ∨ named = hosts.map fun host => some [host]

theorem AgentState.ended_post (notice : AgentNotice) (s : AgentState) :
    (s.post notice).ended = s.ended ++ if notice.isTerminal then [notice.named] else [] := by
  unfold ended post
  rw [List.filter_append, List.map_append]
  cases notice <;> rfl

namespace WinRunner

variable {runner : WinRunner} {ansible : Ansible} {steps : AgentSteps} {s : AgentState}

@[simp] theorem ended_updateSingleHostState (host newState : String) (s : AgentState) :
    (runner.updateSingleHostState host newState s).ended = s.ended := rfl

@[simp] theorem ended_updateWindowsHostState (newState : String) (s : AgentState) :
    (runner.updateWindowsHostState newState s).ended = s.ended := by
  unfold updateWindowsHostState
  induction runner.hostnameOrIp.toList generalizing s with
  | nil => rfl
  | cons host hosts ih => rw [List.foldl_cons, ih, ended_updateSingleHostState]

@[simp] theorem ended_inProgress (hosts : List String) (s : AgentState) :
    (s.post (.inProgress runner.action hosts)).ended = s.ended := by
  rw [AgentState.ended_post]
  exact List.append_nil _

@[simp] theorem ended_setEndState (s : AgentState) :
    (runner.setEndState s).ended = s.ended ++ [some runner.hostnameOrIp.toList] := by
  rw [setEndState, AgentState.ended_post, ended_updateWindowsHostState]
  rfl

@[simp] theorem ended_failEveryHost (s : AgentState) :
    (runner.failEveryHost s).ended = s.ended ++ [some runner.hostnameOrIp.toList] := by
  rw [failEveryHost, ended_updateWindowsHostState, AgentState.ended_post]
  rfl

theorem ended_setInstaller (installerExists : Bool) (s : AgentState) :
    (runner.setInstaller installerExists s).ended =
      s.ended ++ if installerExists then [] else [none] := by
  cases installerExists with
  | false =>
      rw [setInstaller, if_neg Bool.false_ne_true, ended_updateWindowsHostState,
        AgentState.ended_post]
      rfl
  | true => rw [setInstaller, if_pos rfl, if_pos rfl, List.append_nil]

theorem ended_reportNotice (callback : PlaybookResult) (host : String) (stats : HostStats)
    (s : AgentState) :
    (s.post (reportNotice runner.action callback host stats)).ended = s.ended ++ [some [host]] := by
  have hterminal : (reportNotice runner.action callback host stats).isTerminal = true := by
    rw [reportNotice]
    split_ifs <;> rfl
  have hnamed : (reportNotice runner.action callback host stats).named = some [host] := by
    rw [reportNotice]
    split_ifs <;> rfl
  rw [AgentState.ended_post, if_pos hterminal, hnamed]

/-- The loop reports on each host, as far as it comes: to a host without an entry. -/
theorem ended_notifyAnsibleFailure (runner : WinRunner) (callback : PlaybookResult)
    (hosts : List String) (s : AgentState) :
    ∃ done, (runner.notifyAnsibleFailure callback hosts s).1.ended =
        s.ended ++ done.map (fun host => some [host]) ∧
      (if ∀ host ∈ hosts, (callback.summary.get? (hostId host)).isSome = true then done = hosts
        else done.length < hosts.length) := by
  induction hosts generalizing s with
  | nil => exact ⟨[], by simp [notifyAnsibleFailure]⟩
  | cons host hosts ih =>
      cases hstats : callback.summary.get? (hostId host) with
      | none =>
          refine ⟨[], ?_, ?_⟩
          · rw [notifyAnsibleFailure, hstats, List.map_nil, List.append_nil]
          · rw [if_neg]
            · exact Nat.succ_pos _
            · intro hall
              have hsome := hall host (List.mem_cons_self ..)
              rw [hstats] at hsome
              cases hsome
      | some stats =>
          rw [notifyAnsibleFailure_cons runner hstats]
          obtain ⟨done, hdone, hlength⟩ := ih (runner.updateSingleHostState host
            (reportedState runner.action stats)
            (s.post (reportNotice runner.action callback host stats)))
          refine ⟨host :: done, ?_, ?_⟩
          · rw [hdone, ended_updateSingleHostState, ended_reportNotice, List.append_assoc]
            rfl
          · simp only [List.forall_mem_cons, hstats, Option.isSome_some, true_and]
            split_ifs at hlength ⊢
            · rw [hlength]
            · exact Nat.succ_lt_succ hlength

/-! ## Runs -/

/-- What is left of the `try` block after `_set_installer`. -/
def finish (runner : WinRunner) (ansible : Ansible) (steps : AgentSteps) :
    Except AgentError Unit :=
  if runner.overSmb then
    (steps.cleanedUp (steps.finishOverSmb runner.hostnameOrIp.toList)).mapError .other
  else (executeWinPlaybook ansible runner.action runner.connectionHosts).map fun _ => ()

theorem attempt_of_looks (h : runner.LooksForInstaller steps) (s : AgentState) :
    runner.attempt ansible steps s =
      (runner.setInstaller steps.installerExists s, runner.finish ansible steps) := by
  rw [attempt, finish, h.connect]
  dsimp only
  cases hsmb : runner.overSmb with
  | false =>
      rw [if_neg Bool.false_ne_true, if_neg Bool.false_ne_true, h.buildAgents]
  | true =>
      obtain ⟨hservice, rc, hprep⟩ := h.prepared hsmb
      rw [if_pos rfl, if_pos rfl, attemptOverSmb, h.buildAgents, hservice, hprep]

theorem cleanedUp_error (steps : AgentSteps) (e : PyError) :
    ∃ e', steps.cleanedUp (.error e) = .error e' := by
  rw [AgentSteps.cleanedUp]
  rcases steps.cleanup with e' | u <;> exact ⟨_, rfl⟩

theorem attempt_of_not_looks (ansible : Ansible) (h : ¬ runner.LooksForInstaller steps)
    (s : AgentState) :
    ∃ e, runner.attempt ansible steps s = (s, .error (.other e)) := by
  rw [attempt]
  rcases hconnect : steps.connect with e | u
  · exact ⟨e, rfl⟩
  rcases hbuild : steps.buildAgents with e | u'
  · cases hsmb : runner.overSmb <;> simp [attemptOverSmb, hbuild, Except.mapError]
  cases hsmb : runner.overSmb with
  | false => exact absurd ⟨hconnect, hbuild, fun h => by rw [hsmb] at h; cases h⟩ h
  | true =>
      rcases hservice : steps.smbService with e | u''
      · simp [attemptOverSmb, hbuild, hservice, Except.mapError]
      rcases hprep : steps.prepScript with e | rc
      · obtain ⟨e', he'⟩ := cleanedUp_error steps e
        simp [attemptOverSmb, hbuild, hservice, hprep, he', Except.mapError]
      · exact absurd ⟨hconnect, hbuild, fun _ => ⟨hservice, rc, hprep⟩⟩ h

/-- Each host that has a state ends with that of the action if the operation succeeded on it
    and with the error state otherwise, and the end is reported once. -/
structure EndsIn (runner : WinRunner) (succeeded : String → Prop) (s s' : AgentState) : Prop where
  states : ∀ host ∈ runner.hostnameOrIp.toList,
    (s.hostState runner.targetConfigId host).isSome = true →
      (succeeded host →
        s'.hostState runner.targetConfigId host = some (endState runner.action)) ∧
      (¬ succeeded host → s'.hostState runner.targetConfigId host = some errorState)
  reported : ∃ named, s'.ended = s.ended ++ named ∧ ReportsOnce runner.hostnameOrIp.toList named

/-- From whatever state, the run ends as it should. -/
def EndsRight (runner : WinRunner) (ansible : Ansible)
    (machine : AgentAction → String → HostStats) (steps : AgentSteps) : Prop :=
  ∀ s, runner.EndsIn (runner.OperationSucceeded ansible machine steps) s
    (runner.execute ansible steps s).1

theorem endState_ne_errorState (action : AgentAction) : endState action ≠ errorState := by
  cases action <;> decide

/-- A state in which a host of the configuration has a state. -/
def listing (runner : WinRunner) (host : String) : AgentState where
  lists := Table.empty.upsert runner.targetConfigId
    { name := "", targets := some [⟨some host, "New", ""⟩] }
  notices := []

theorem isSome_hostState_listing (runner : WinRunner) (host : String) :
    ((runner.listing host).hostState runner.targetConfigId host).isSome = true := by
  simp [AgentState.hostState, listing, TargetConfig.hosts]

/-- A run that records verdicts and reports once ends as it should exactly if the verdicts are
    right. -/
theorem endsRight_iff_of_verdicts {machine : AgentAction → String → HostStats}
    (verdict : String → Bool)
    (hstates : ∀ s, ∀ host ∈ runner.hostnameOrIp.toList,
      (runner.execute ansible steps s).1.hostState runner.targetConfigId host =
        (s.hostState runner.targetConfigId host).map fun _ =>
          if verdict host then endState runner.action else errorState)
    (hreported : ∀ s, ∃ named, (runner.execute ansible steps s).1.ended = s.ended ++ named ∧
      ReportsOnce runner.hostnameOrIp.toList named) :
    runner.EndsRight ansible machine steps ↔ ∀ host ∈ runner.hostnameOrIp.toList,
      (verdict host = true ↔ runner.OperationSucceeded ansible machine steps host) := by
  constructor
  · intro h host hhost
    have hlisted := isSome_hostState_listing runner host
    have hends := (h (runner.listing host)).states host hhost hlisted
    obtain ⟨state, hstate⟩ := Option.isSome_iff_exists.mp hlisted
    rw [hstates _ host hhost, hstate, Option.map_some, Option.some.injEq, Option.some.injEq]
      at hends
    have hne := endState_ne_errorState runner.action
    by_cases hsucceeded : runner.OperationSucceeded ansible machine steps host
    · refine iff_of_true ?_ hsucceeded
      by_contra hverdict
      rw [if_neg hverdict] at hends
      exact hne (hends.1 hsucceeded).symm
    · refine iff_of_false (fun hverdict => ?_) hsucceeded
      rw [if_pos hverdict] at hends
      exact hne (hends.2 hsucceeded)
  · intro h s
    refine ⟨fun host hhost hlisted => ?_, hreported s⟩
    obtain ⟨state, hstate⟩ := Option.isSome_iff_exists.mp hlisted
    rw [hstates _ host hhost, hstate, Option.map_some]
    constructor
    · intro hsucceeded
      rw [if_pos ((h host hhost).mpr hsucceeded)]
    · intro hfailed
      rw [if_neg fun hverdict => hfailed ((h host hhost).mp hverdict)]

/-- Every host is recorded as done. -/
theorem endsRight_iff_of_setEndState {machine : AgentAction → String → HostStats}
    (h : ∀ s, (runner.execute ansible steps s).1 =
      runner.setEndState (s.post (.inProgress runner.action runner.hostnameOrIp.toList))) :
    runner.EndsRight ansible machine steps ↔
      ∀ host ∈ runner.hostnameOrIp.toList,
        runner.OperationSucceeded ansible machine steps host := by
  rw [endsRight_iff_of_verdicts fun _ => true]
  · simp
  · intro s host hhost
    rw [h, setEndState, AgentState.hostState_post, hostState_updateWindowsHostState, if_pos hhost,
      AgentState.hostState_post]
    rfl
  · intro s
    refine ⟨_, ?_, .inl rfl⟩
    rw [h, ended_setEndState, ended_inProgress]

/-- Every host is recorded as an error. -/
theorem endsRight_iff_of_failEveryHost {machine : AgentAction → String → HostStats}
    (h : ∀ s, (runner.execute ansible steps s).1 =
      runner.failEveryHost (s.post (.inProgress runner.action runner.hostnameOrIp.toList))) :
    runner.EndsRight ansible machine steps ↔ ∀ host ∈ runner.hostnameOrIp.toList,
      ¬ runner.OperationSucceeded ansible machine steps host := by
  rw [endsRight_iff_of_verdicts fun _ => false]
  · simp
  · intro s host hhost
    rw [h, failEveryHost, hostState_updateWindowsHostState, if_pos hhost,
      AgentState.hostState_post, AgentState.hostState_post]
    rfl
  · intro s
    refine ⟨_, ?_, .inl rfl⟩
    rw [h, ended_failEveryHost, ended_inProgress]

/-- What comes after `_set_installer` only adds to what is reported. -/
theorem ended_execute_of_looks (ansible : Ansible) (h : runner.LooksForInstaller steps)
    (s : AgentState) :
    ∃ more, (runner.execute ansible steps s).1.ended =
      s.ended ++ (if steps.installerExists then [] else [none]) ++ more := by
  have hinstaller : (runner.setInstaller steps.installerExists
      (s.post (.inProgress runner.action runner.hostnameOrIp.toList))).ended =
        s.ended ++ if steps.installerExists then [] else [none] := by
    rw [ended_setInstaller, ended_inProgress]
  rw [execute, attempt_of_looks h, ← hinstaller]
  rcases runner.finish ansible steps with (callback | e) | u
  · dsimp only
    cases runner.hostnameOrIp with
    | one host => exact ⟨_, ended_failEveryHost _⟩
    | many hosts =>
        dsimp only
        split_ifs
        · exact ⟨_, ended_failEveryHost _⟩
        · obtain ⟨done, hdone, -⟩ := ended_notifyAnsibleFailure runner callback hosts _
          exact ⟨_, hdone⟩
  · exact ⟨_, ended_failEveryHost _⟩
  · exact ⟨_, ended_setEndState _⟩

/-- A run that misses the installer reports that, and then goes on to report its end. -/
theorem not_endsRight_of_missing {machine : AgentAction → String → HostStats}
    (h : runner.LooksForInstaller steps) (hmissing : steps.installerExists = false) :
    ¬ runner.EndsRight ansible machine steps := by
  intro hends
  obtain ⟨named, hnamed, honce⟩ := (hends ⟨Table.empty, []⟩).reported
  obtain ⟨more, hmore⟩ := ended_execute_of_looks ansible h ⟨Table.empty, []⟩
  rw [hnamed, hmissing, if_neg Bool.false_ne_true, List.append_assoc,
    List.append_cancel_left_eq] at hmore
  rw [hmore] at honce
  -- the notice of the missing installer names no host
  rcases honce with hone | heach
  · cases hone
  · cases hhosts : runner.hostnameOrIp.toList with
    | nil =>
        rw [hhosts] at heach
        cases heach
    | cons host hosts =>
        rw [hhosts] at heach
        cases heach

theorem setInstaller_of_exists (hexists : steps.installerExists = true) (s : AgentState) :
    runner.setInstaller steps.installerExists s = s := by
  rw [setInstaller, if_pos hexists]

section Found

variable {machine : AgentAction → String → HostStats} (hlooks : runner.LooksForInstaller steps)
variable (hexists : steps.installerExists = true)

include hlooks hexists

/-- With an installer, the state after the `try` block is that before it. -/
theorem attempt_of_found (s : AgentState) :
    runner.attempt ansible steps s = (s, runner.finish ansible steps) := by
  rw [attempt_of_looks hlooks, setInstaller_of_exists hexists]

theorem endsRight_iff_of_done (h : runner.finish ansible steps = .ok ()) :
    runner.EndsRight ansible machine steps ↔ ∀ host ∈ runner.hostnameOrIp.toList,
      runner.OperationSucceeded ansible machine steps host := by
  refine endsRight_iff_of_setEndState fun s => ?_
  rw [execute, attempt_of_found hlooks hexists, h]

theorem endsRight_iff_of_raised {e : PyError}
    (h : runner.finish ansible steps = .error (.other e)) :
    runner.EndsRight ansible machine steps ↔ ∀ host ∈ runner.hostnameOrIp.toList,
      ¬ runner.OperationSucceeded ansible machine steps host := by
  refine endsRight_iff_of_failEveryHost fun s => ?_
  rw [execute, attempt_of_found hlooks hexists, h]

theorem operationSucceeded_iff_through (hsmb : runner.overSmb = true) (host : String) :
    runner.OperationSucceeded ansible machine steps host ↔
      steps.Through runner.hostnameOrIp.toList 0 := by
  rw [OperationSucceeded, if_pos hsmb]
  exact ⟨fun h => h.2.2, fun h => ⟨hlooks, hexists, h⟩⟩

theorem operationSucceeded_iff_playbook (hsmb : ¬ runner.overSmb = true) (host : String) :
    runner.OperationSucceeded ansible machine steps host ↔
      runner.PlaybookSucceeded ansible machine host := by
  rw [OperationSucceeded, if_neg hsmb]
  exact ⟨fun h => h.2.2, fun h => ⟨hlooks, hexists, h⟩⟩

end Found

/-! ### Over SMB -/

theorem finishOverSmb_eq_ok_iff (hexists : steps.installerExists = true) (hosts : List String) :
    steps.cleanedUp (steps.finishOverSmb hosts) = .ok () ↔ ∃ rc, steps.Through hosts rc := by
  have hpull : (hosts.forM steps.pullFile : Except PyError Unit) = .ok () ↔
      ∀ host ∈ hosts, steps.pullFile host = .ok () := by
    induction hosts with
    | nil => exact iff_of_true rfl (List.forall_mem_nil _)
    | cons host hosts ih =>
        rw [List.forall_mem_cons, ← ih]
        show (steps.pullFile host).bind (fun _ => hosts.forM steps.pullFile) = _ ↔ _
        rcases steps.pullFile host with e | u
        · exact iff_of_false (fun h => by cases h) fun h => by cases h.1
        · exact (and_iff_right rfl).symm
  unfold AgentSteps.cleanedUp AgentSteps.finishOverSmb AgentSteps.moveAgentInstaller
  rw [if_pos hexists]
  constructor
  · intro h
    rcases hcleanup : steps.cleanup with e | u
    · rw [hcleanup] at h
      cases h
    rcases hsent : steps.sendOverSmb with e | u'
    · rw [hcleanup, hsent] at h
      cases h
    rcases hscript : steps.postScript with e | rc
    · rw [hcleanup, hsent, hscript] at h
      cases h
    rw [hcleanup, hsent, hscript] at h
    exact ⟨rc, hsent, hscript, hpull.mp h, hcleanup⟩
  · rintro ⟨rc, hsent, hscript, hpulled, hcleanup⟩
    rw [hcleanup, hsent, hscript]
    exact hpull.mpr hpulled

theorem endsRight_iff_of_overSmb {machine : AgentAction → String → HostStats}
    (hlooks : runner.LooksForInstaller steps) (hexists : steps.installerExists = true)
    (hsmb : runner.overSmb = true) :
    runner.EndsRight ansible machine steps ↔
      ∀ rc, steps.Through runner.hostnameOrIp.toList rc →
        runner.hostnameOrIp.toList = [] ∨ rc = 0 := by
  have hsucceeded (host : String) : runner.OperationSucceeded ansible machine steps host ↔
      steps.Through runner.hostnameOrIp.toList 0 :=
    operationSucceeded_iff_through hlooks hexists hsmb host
  have hthrough := finishOverSmb_eq_ok_iff hexists runner.hostnameOrIp.toList
  have hfinish : runner.finish ansible steps =
      (steps.cleanedUp (steps.finishOverSmb runner.hostnameOrIp.toList)).mapError .other :=
    if_pos hsmb
  rcases hrest : steps.cleanedUp (steps.finishOverSmb runner.hostnameOrIp.toList) with e | u
  · -- a step has raised
    rw [hrest] at hthrough hfinish
    have hnone : ∀ rc, ¬ steps.Through runner.hostnameOrIp.toList rc := by
      intro rc hrc
      cases hthrough.mpr ⟨rc, hrc⟩
    rw [endsRight_iff_of_raised hlooks hexists hfinish]
    exact iff_of_true (fun host _ h => hnone 0 ((hsucceeded host).mp h))
      fun rc hrc => absurd hrc (hnone rc)
  · rw [hrest] at hfinish
    rw [endsRight_iff_of_done hlooks hexists hfinish]
    obtain ⟨rc, hrc⟩ := hthrough.mp hrest
    have hunique : ∀ rc', steps.Through runner.hostnameOrIp.toList rc' → rc' = rc := by
      intro rc' hrc'
      have hsame := hrc'.script.symm.trans hrc.script
      cases hsame
      rfl
    constructor
    · intro h rc' hrc'
      cases hhosts : runner.hostnameOrIp.toList with
      | nil => exact .inl rfl
      | cons host hosts =>
          have hmem : host ∈ runner.hostnameOrIp.toList := by
            rw [hhosts]
            exact List.mem_cons_self ..
          have hzero := (hsucceeded host).mp (h host hmem)
          exact .inr ((hunique _ hrc').trans (hunique _ hzero).symm)
    · intro h host hhost
      rcases h rc hrc with hnil | rfl
      · rw [hnil] at hhost
        cases hhost
      · exact (hsucceeded host).mpr hrc

/-! ### With ansible -/

/-- What the report says under the id that is read back for the host: how it went on the last
    machine of the inventory with that id. -/
def ReadBack (runner : WinRunner) (machine : AgentAction → String → HostStats) (host : String)
    (stats : HostStats) : Prop :=
  Links.LastLinked
    ((inventoryLines runner.connectionHosts).map fun line =>
      (machine runner.action line.ansibleHost, [line.id])) (hostId host) stats

/-- A report that is right for what is made of it: a run without a failure went through on every
    host, and for each of several hosts, some of which failed, what is read back is what happened
    on its own machine. -/
def ReportRight (runner : WinRunner) (machine : AgentAction → String → HostStats)
    (result : PlaybookResult) : Prop :=
  if result.statusCode = 0 then
    ∀ host ∈ runner.hostnameOrIp.toList, (runner.outcomeOn machine host).succeeded = true
  else ∀ hosts, runner.hostnameOrIp = .many hosts → ∀ host ∈ hosts,
    (∃ host' ∈ hosts, (runner.outcomeOn machine host').succeeded = false) ∧
      ∃ stats, runner.ReadBack machine host stats ∧
        stats.succeeded = (runner.outcomeOn machine host).succeeded

theorem mem_rows {machine : AgentAction → String → HostStats} {stats : HostStats}
    {ids : List String} :
    (stats, ids) ∈ (inventoryLines runner.connectionHosts).map (fun line =>
      (machine runner.action line.ansibleHost, [line.id])) ↔
    ∃ host ∈ runner.hostnameOrIp.toList, runner.outcomeOn machine host = stats ∧
      [runner.inventoryId host] = ids := by
  simp [inventoryLines, connectionHosts, outcomeOn, inventoryId]

theorem ReadBack.exists_host {machine : AgentAction → String → HostStats} {host : String}
    {stats : HostStats} (h : runner.ReadBack machine host stats) :
    ∃ host' ∈ runner.hostnameOrIp.toList, runner.outcomeOn machine host' = stats := by
  obtain ⟨ids, hrow, -⟩ := Links.LastLinked.linked h
  obtain ⟨host', hhost', houtcome, -⟩ := mem_rows.mp hrow
  exact ⟨host', hhost', houtcome⟩

/-- The report has what is read back, and no more. -/
theorem get?_eq_some_iff_readBack {machine : AgentAction → String → HostStats}
    {result : PlaybookResult} (hdoc : ansible.Reports machine)
    (hresult : ansible runner.action (inventoryLines runner.connectionHosts) = .ok result)
    (host : String) (stats : HostStats) :
    result.summary.get? (hostId host) = some stats ↔ runner.ReadBack machine host stats := by
  constructor
  · intro hget
    obtain ⟨line, hline, hid⟩ := hdoc.listed _ _ _ hresult _ _ hget
    have hlinked : Links.Linked ((inventoryLines runner.connectionHosts).map fun line =>
        (machine runner.action line.ansibleHost, [line.id])) (hostId host)
        (machine runner.action line.ansibleHost) :=
      ⟨[line.id], List.mem_map_of_mem hline, by rw [hid]; exact List.mem_singleton_self _⟩
    obtain ⟨stats', hlast⟩ := Links.exists_lastLinked hlinked
    have hsame := hdoc.reported _ _ _ hresult _ _ hlast
    rw [hget] at hsame
    cases hsame
    exact hlast
  · exact hdoc.reported _ _ _ hresult _ _

theorem finish_of_result (steps : AgentSteps) {result : PlaybookResult}
    (hsmb : runner.overSmb = false)
    (hresult : ansible runner.action (inventoryLines runner.connectionHosts) = .ok result) :
    runner.finish ansible steps =
      if result.statusCode = 0 then .ok () else .error (.winrmCommandFailure result) := by
  rw [finish, if_neg (by rw [hsmb]; exact Bool.false_ne_true), executeWinPlaybook, hresult]
  dsimp only
  by_cases hzero : result.statusCode = 0
  · rw [if_neg (not_not.mpr hzero), if_pos hzero]
    rfl
  · rw [if_pos hzero, if_neg hzero]
    rfl

/-- Only the report on no host is empty. -/
theorem nil_of_empty_report {machine : AgentAction → String → HostStats} {result : PlaybookResult}
    (hdoc : ansible.Reports machine)
    (hresult : ansible runner.action (inventoryLines runner.connectionHosts) = .ok result)
    (hempty : result.summary.rows.isEmpty = true) : runner.hostnameOrIp.toList = [] := by
  rw [List.eq_nil_iff_forall_not_mem]
  intro host hhost
  have hlinked : Links.Linked ((inventoryLines runner.connectionHosts).map fun line =>
      (machine runner.action line.ansibleHost, [line.id])) (runner.inventoryId host)
      (runner.outcomeOn machine host) :=
    ⟨_, mem_rows.mpr ⟨host, hhost, rfl, rfl⟩, List.mem_singleton_self _⟩
  obtain ⟨stats, hlast⟩ := Links.exists_lastLinked hlinked
  have hrow := Table.get?_eq_some_iff.mp (hdoc.reported _ _ _ hresult _ _ hlast)
  rw [List.isEmpty_iff.mp hempty] at hrow
  cases hrow

section Failed

/-! A run of ansible that has failed. -/

variable {machine : AgentAction → String → HostStats} {result : PlaybookResult}
variable (hresult : ansible runner.action (inventoryLines runner.connectionHosts) = .ok result)
variable (hfailed : ¬ result.statusCode = 0)

include hfailed

theorem reportRight_iff_of_many {hosts : List String} (hhosts : runner.hostnameOrIp = .many hosts) :
    runner.ReportRight machine result ↔ ∀ host ∈ hosts,
      (∃ host' ∈ hosts, (runner.outcomeOn machine host').succeeded = false) ∧
        ∃ stats, runner.ReadBack machine host stats ∧
          stats.succeeded = (runner.outcomeOn machine host).succeeded := by
  rw [ReportRight, if_neg hfailed, hhosts]
  constructor
  · exact fun h => h hosts rfl
  · rintro h _ ⟨⟩
    exact h

include hresult

theorem playbookSucceeded_iff (host : String) :
    runner.PlaybookSucceeded ansible machine host ↔
      (runner.outcomeOn machine host).succeeded = true ∧
        ∃ host' ∈ runner.hostnameOrIp.toList,
          (runner.outcomeOn machine host').succeeded = false := by
  constructor
  · rintro ⟨result', hresult', h⟩
    rw [hresult] at hresult'
    cases hresult'
    rw [or_iff_right hfailed] at h
    exact h
  · rintro ⟨htrue, hother⟩
    exact ⟨result, hresult, htrue, .inr hother⟩

/-- The playbook did not go through on a single host. -/
theorem not_playbookSucceeded_of_one {only : String} (honly : runner.hostnameOrIp = .one only) :
    ∀ host ∈ runner.hostnameOrIp.toList, ¬ runner.PlaybookSucceeded ansible machine host := by
  intro host hhost h
  rw [playbookSucceeded_iff hresult hfailed, honly] at h
  obtain ⟨htrue, host', hhost', hfalse⟩ := h
  rw [honly] at hhost
  rw [List.mem_singleton.mp hhost] at htrue
  rw [List.mem_singleton.mp hhost', htrue] at hfalse
  cases hfalse

/-- The verdicts of the loop are right exactly if what is read back for each host is. -/
theorem verdicts_iff (hdoc : ansible.Reports machine) {outcome : String → HostStats}
    (houtcome : ∀ host ∈ runner.hostnameOrIp.toList,
      result.summary.get? (hostId host) = some (outcome host)) :
    (∀ host ∈ runner.hostnameOrIp.toList,
      ((outcome host).succeeded = true ↔ runner.PlaybookSucceeded ansible machine host)) ↔
    ∀ host ∈ runner.hostnameOrIp.toList,
      (∃ host' ∈ runner.hostnameOrIp.toList,
        (runner.outcomeOn machine host').succeeded = false) ∧
        ∃ stats, runner.ReadBack machine host stats ∧
          stats.succeeded = (runner.outcomeOn machine host).succeeded := by
  have hread := get?_eq_some_iff_readBack hdoc hresult
  have hsucceeded := @playbookSucceeded_iff runner ansible machine result hresult hfailed
  constructor
  · intro h host hhost
    have hback := (hread host _).mp (houtcome host hhost)
    have hother : ∃ host' ∈ runner.hostnameOrIp.toList,
        (runner.outcomeOn machine host').succeeded = false := by
      by_contra hnone
      obtain ⟨host', hhost', hsame⟩ := hback.exists_host
      have htrue : (runner.outcomeOn machine host').succeeded = true := by
        by_contra hfalse
        exact hnone ⟨host', hhost', Bool.not_eq_true _ ▸ hfalse⟩
      rw [hsame] at htrue
      exact hnone ((hsucceeded host).mp ((h host hhost).mp htrue)).2
    refine ⟨hother, _, hback, Bool.eq_iff_iff.mpr ?_⟩
    rw [h host hhost, hsucceeded]
    exact and_iff_left hother
  · intro h host hhost
    obtain ⟨hother, stats, hback, hsame⟩ := h host hhost
    have hstats := (hread host _).mpr hback
    rw [houtcome host hhost] at hstats
    cases hstats
    rw [hsucceeded, hsame]
    exact (and_iff_left hother).symm

end Failed

section Loop

/-! A run that ends with the loop over the report. -/

variable {machine : AgentAction → String → HostStats} {result : PlaybookResult}
variable (hexecute : ∀ s, (runner.execute ansible steps s).1 =
  (runner.notifyAnsibleFailure result runner.hostnameOrIp.toList
    (s.post (.inProgress runner.action runner.hostnameOrIp.toList))).1)

include hexecute

theorem endsRight_iff_of_reported {outcome : String → HostStats}
    (houtcome : ∀ host ∈ runner.hostnameOrIp.toList,
      result.summary.get? (hostId host) = some (outcome host)) :
    runner.EndsRight ansible machine steps ↔ ∀ host ∈ runner.hostnameOrIp.toList,
      ((outcome host).succeeded = true ↔
        runner.OperationSucceeded ansible machine steps host) := by
  refine endsRight_iff_of_verdicts (fun host => (outcome host).succeeded) ?_ ?_
  · intro s host hhost
    obtain ⟨s', hs', hstate⟩ := hostState_notifyAnsibleFailure runner houtcome
      (s.post (.inProgress runner.action runner.hostnameOrIp.toList))
    rw [hexecute, hs', hstate, if_pos hhost, AgentState.hostState_post]
    rfl
  · intro s
    obtain ⟨done, hdone, hlength⟩ := ended_notifyAnsibleFailure runner result
      runner.hostnameOrIp.toList
      (s.post (.inProgress runner.action runner.hostnameOrIp.toList))
    have hall : ∀ host ∈ runner.hostnameOrIp.toList,
        (result.summary.get? (hostId host)).isSome = true := fun host hhost => by
      rw [houtcome host hhost]
      rfl
    rw [if_pos hall] at hlength
    rw [hlength] at hdone
    refine ⟨_, ?_, .inr rfl⟩
    rw [hexecute, hdone, ended_inProgress]

/-- At a host without an entry the loop ends with an exception, and not all are reported on. -/
theorem not_endsRight_of_unreported
    (hmissing : ¬ ∀ host ∈ runner.hostnameOrIp.toList,
      (result.summary.get? (hostId host)).isSome = true) :
    ¬ runner.EndsRight ansible machine steps := by
  intro hends
  obtain ⟨named, hnamed, honce⟩ := (hends ⟨Table.empty, []⟩).reported
  obtain ⟨done, hdone, hlength⟩ := ended_notifyAnsibleFailure runner result
    runner.hostnameOrIp.toList ((⟨Table.empty, []⟩ : AgentState).post
      (.inProgress runner.action runner.hostnameOrIp.toList))
  rw [if_neg hmissing] at hlength
  rw [hexecute, hdone, ended_inProgress, List.append_cancel_left_eq] at hnamed
  rw [← hnamed] at honce
  rcases honce with hone | heach
  · -- one notice would be on the only host
    obtain ⟨host, rfl, hhost⟩ := List.map_eq_singleton_iff.mp hone
    rw [← Option.some.inj hhost] at hlength
    exact lt_irrefl _ hlength
  · have hsame := congrArg List.length heach
    rw [List.length_map, List.length_map] at hsame
    omega

end Loop

section Playbook

variable {machine : AgentAction → String → HostStats} (hdoc : ansible.Reports machine)
variable (hlooks : runner.LooksForInstaller steps) (hexists : steps.installerExists = true)
variable (hsmb : runner.overSmb = false)

include hdoc hlooks hexists hsmb

/-- Several hosts, and a run of ansible that has failed: what is made of its report is right
    exactly if the report is. -/
theorem endsRight_iff_of_many {result : PlaybookResult} {hosts : List String}
    (hresult : ansible runner.action (inventoryLines runner.connectionHosts) = .ok result)
    (hfailed : ¬ result.statusCode = 0) (hhosts : runner.hostnameOrIp = .many hosts) :
    runner.EndsRight ansible machine steps ↔ runner.ReportRight machine result := by
  have hnotSmb : ¬ runner.overSmb = true := ne_true_of_eq_false hsmb
  have hsucceeded (host : String) : runner.OperationSucceeded ansible machine steps host ↔
      runner.PlaybookSucceeded ansible machine host :=
    operationSucceeded_iff_playbook hlooks hexists hnotSmb host
  have hfinish := finish_of_result steps hsmb hresult
  rw [if_neg hfailed] at hfinish
  have htoList : runner.hostnameOrIp.toList = hosts := by
    rw [hhosts]
    rfl
  have hexecute (s : AgentState) : (runner.execute ansible steps s).1 =
      if result.summary.rows.isEmpty then
        runner.failEveryHost (s.post (.inProgress runner.action runner.hostnameOrIp.toList))
      else (runner.notifyAnsibleFailure result runner.hostnameOrIp.toList
        (s.post (.inProgress runner.action runner.hostnameOrIp.toList))).1 := by
    rw [execute, attempt_of_found hlooks hexists, hfinish]
    dsimp only
    rw [hhosts]
    dsimp only
    split_ifs <;> rfl
  rw [reportRight_iff_of_many hfailed hhosts, ← htoList]
  by_cases hempty : result.summary.rows.isEmpty = true
  · have hnil := nil_of_empty_report hdoc hresult hempty
    rw [endsRight_iff_of_failEveryHost fun s => (hexecute s).trans (if_pos hempty), hnil]
    exact iff_of_true (List.forall_mem_nil _) (List.forall_mem_nil _)
  have hloop (s : AgentState) := (hexecute s).trans (if_neg hempty)
  by_cases hall : ∀ host ∈ runner.hostnameOrIp.toList,
      (result.summary.get? (hostId host)).isSome = true
  · -- the loop comes to its end
    have houtcome : ∀ host ∈ runner.hostnameOrIp.toList, result.summary.get? (hostId host) =
        some ((result.summary.get? (hostId host)).getD ⟨0, 0⟩) := by
      intro host hhost
      obtain ⟨stats, hstats⟩ := Option.isSome_iff_exists.mp (hall host hhost)
      rw [hstats, Option.getD_some]
    rw [endsRight_iff_of_reported hloop houtcome]
    simp only [hsucceeded]
    exact verdicts_iff hresult hfailed hdoc houtcome
  · refine iff_of_false (not_endsRight_of_unreported hloop hall) fun h => hall fun host hhost => ?_
    obtain ⟨-, stats, hback, -⟩ := h host hhost
    rw [(get?_eq_some_iff_readBack hdoc hresult host stats).mpr hback]
    rfl

theorem endsRight_iff_of_ansible :
    runner.EndsRight ansible machine steps ↔ ∀ result,
      ansible runner.action (inventoryLines runner.connectionHosts) = .ok result →
        runner.ReportRight machine result := by
  have hnotSmb : ¬ runner.overSmb = true := ne_true_of_eq_false hsmb
  have hsucceeded (host : String) : runner.OperationSucceeded ansible machine steps host ↔
      runner.PlaybookSucceeded ansible machine host :=
    operationSucceeded_iff_playbook hlooks hexists hnotSmb host
  cases hansible : ansible runner.action (inventoryLines runner.connectionHosts) with
  | error e =>
      -- there is no report
      have hfinish : runner.finish ansible steps = .error (.other e) := by
        rw [finish, if_neg hnotSmb, executeWinPlaybook, hansible]
        rfl
      rw [endsRight_iff_of_raised hlooks hexists hfinish]
      refine iff_of_true (fun host _ h => ?_) fun result h => by cases h
      obtain ⟨result, hresult, -⟩ := (hsucceeded host).mp h
      rw [hansible] at hresult
      cases hresult
  | ok result =>
      have hresults : (∀ result', .ok result = (.ok result' : Except PyError PlaybookResult) →
          runner.ReportRight machine result') ↔ runner.ReportRight machine result := by
        constructor
        · exact fun h => h result rfl
        · rintro h _ ⟨⟩
          exact h
      rw [hresults]
      have hfinish := finish_of_result steps hsmb hansible
      by_cases hzero : result.statusCode = 0
      · -- the run went through
        rw [if_pos hzero] at hfinish
        rw [endsRight_iff_of_done hlooks hexists hfinish, ReportRight, if_pos hzero]
        refine forall₂_congr fun host _ => (hsucceeded host).trans ?_
        constructor
        · rintro ⟨result', hresult', htrue, -⟩
          exact htrue
        · exact fun htrue => ⟨result, hansible, htrue, .inl hzero⟩
      · cases hhosts : runner.hostnameOrIp with
        | one host =>
            rw [if_neg hzero] at hfinish
            have hnone := @not_playbookSucceeded_of_one runner ansible machine result hansible
              hzero host hhosts
            rw [endsRight_iff_of_failEveryHost]
            · refine iff_of_true (fun h hmem hop => hnone h hmem ((hsucceeded h).mp hop)) ?_
              rw [ReportRight, if_neg hzero, hhosts]
              intro hosts h
              cases h
            · intro s
              rw [execute, attempt_of_found hlooks hexists, hfinish]
              dsimp only
              rw [hhosts]
        | many hosts => exact endsRight_iff_of_many hdoc hlooks hexists hsmb hansible hzero hhosts

end Playbook

/-- What a run ends with is right: it ends before it looks for the installer, or finds it, and
    then, over SMB, a step raises or the script exits with 0, and otherwise the report is right. -/
structure EndKnown (runner : WinRunner) (ansible : Ansible)
    (machine : AgentAction → String → HostStats) (steps : AgentSteps) : Prop where
  installer : steps.installerExists = true
  overSmb : runner.overSmb = true → ∀ rc, steps.Through runner.hostnameOrIp.toList rc →
    runner.hostnameOrIp.toList = [] ∨ rc = 0
  report : runner.overSmb = false → ∀ result,
    ansible runner.action (inventoryLines runner.connectionHosts) = .ok result →
      runner.ReportRight machine result

theorem endsRight_iff {machine : AgentAction → String → HostStats} (hdoc : ansible.Reports machine)
    (runner : WinRunner) (steps : AgentSteps) :
    runner.EndsRight ansible machine steps ↔
      (runner.LooksForInstaller steps → runner.EndKnown ansible machine steps) := by
  -- what raises before the installer is looked for puts every host into the error state
  by_cases hlooks : runner.LooksForInstaller steps
  · rw [forall_prop_of_true hlooks]
    cases hexists : steps.installerExists with
    | false =>
        refine iff_of_false (not_endsRight_of_missing hlooks hexists) fun h => ?_
        have hinstaller := h.installer
        rw [hexists] at hinstaller
        cases hinstaller
    | true =>
        cases hsmb : runner.overSmb with
        | false =>
            rw [endsRight_iff_of_ansible hdoc hlooks hexists hsmb]
            refine ⟨fun h => ⟨hexists, fun hsmb' => ?_, fun _ => h⟩, fun h => h.report hsmb⟩
            rw [hsmb] at hsmb'
            cases hsmb'
        | true =>
            rw [endsRight_iff_of_overSmb hlooks hexists hsmb]
            refine ⟨fun h => ⟨hexists, fun _ => h, fun hsmb' => ?_⟩, fun h => h.overSmb hsmb⟩
            rw [hsmb] at hsmb'
            cases hsmb'
  · rw [endsRight_iff_of_failEveryHost]
    · exact iff_of_true (fun host _ h => hlooks h.1) fun h => absurd h hlooks
    · intro s
      obtain ⟨e, he⟩ := attempt_of_not_looks ansible hlooks
        (s.post (.inProgress runner.action runner.hostnameOrIp.toList))
      rw [execute, he]

theorem reports_runEverywhere (machine : AgentAction → String → HostStats) :
    (runEverywhere machine).Reports machine where
  toDocumented := documented_runEverywhere machine
  listed := by
    intro action inventory result hresult id stats hstats
    cases hresult
    obtain ⟨ids, hrow, hid⟩ := ((Links.get?_invert_eq_some_iff _ _ _).mp hstats).linked
    obtain ⟨line, hline, hrow⟩ := List.mem_map.mp hrow
    cases hrow
    exact ⟨line, hline, (List.mem_singleton.mp hid).symm⟩

/-- A run whose steps all go well, with or without an installer. -/
def allWell (installerExists : Bool) : AgentSteps where
  connect := .ok ()
  buildAgents := .ok ()
  installerExists := installerExists
  smbService := .ok ()
  prepScript := .ok 0
  sendOverSmb := .ok ()
  postScript := .ok 0
  pullFile := fun _ => .ok ()
  cleanup := .ok ()

theorem endsRight_iff_addresses :
    (domainInstall ["10.40.12.7", "10.40.12.8"]).EndsRight (runEverywhere secondUnreachable)
        secondUnreachable (allWell true) ↔
      ((domainInstall ["10.40.12.7", "10.40.12.8"]).LooksForInstaller (allWell true) →
        (domainInstall ["10.40.12.7", "10.40.12.8"]).EndKnown (runEverywhere secondUnreachable)
          secondUnreachable (allWell true)) :=
  endsRight_iff (reports_runEverywhere _) _ _

/-- Without an installer the run reports that, and then that the host was done or not. -/
theorem not_endsRight :
    ¬ ∀ (runner : WinRunner) ansible machine steps, ansible.Reports machine →
      runner.EndsRight ansible machine steps := by
  intro hall
  have hlooks : (domainInstall ["10.40.12.7"]).LooksForInstaller (allWell false) :=
    ⟨rfl, rfl, fun h => by cases h⟩
  exact not_endsRight_of_missing hlooks rfl
    (hall _ (runEverywhere secondUnreachable) secondUnreachable _ (reports_runEverywhere _))

end WinRunner

end Tfplenum
