/-
  Tfplenum.Service.HostAttribution

  Which host a report of ansible is recorded for.  A run over several hosts
  records for each of them what happened on its own machine, exactly if no host
  name is completed with the domain of the configuration and no two of them agree
  up to dots and underscores.
-/

import Tfplenum.Service.AgentService

namespace Tfplenum

open Lib

/-! ## Ids -/

theorem length_hostId (host : String) : (hostId host).length = host.length := by
  rw [hostId, String.length_ofList, List.length_map, String.length_toList]

/-- The name is left as it is, or the domain is put behind it. -/
theorem fixHostname_eq_self_iff (dnsSuffix host : String) :
    fixHostname dnsSuffix host = host ↔
      isIpv4Address host = true ∨ dnsSuffix = "" ∨ dnsSuffix.toList <:+: host.toList := by
  by_cases hkept : isIpv4Address host = true ∨ dnsSuffix = "" ∨ dnsSuffix.toList <:+: host.toList
  · refine iff_of_true ?_ hkept
    rw [fixHostname]
    rcases hkept with haddress | rfl | hcontains
    · rw [if_pos haddress]
    · simp
    · simp [hcontains]
  · refine iff_of_false ?_ hkept
    obtain ⟨haddress, hsuffix, hcontains⟩ := not_or.mp hkept |>.imp_right not_or.mp
    have hpos : 0 < dnsSuffix.length := by
      rw [Nat.pos_iff_ne_zero, Ne, String.length_eq_zero_iff]
      exact hsuffix
    rw [fixHostname, if_neg haddress, if_pos ⟨hpos, hcontains⟩]
    intro heq
    have hlength := congrArg String.length heq
    simp only [String.length_append] at hlength
    omega

/-- The id read back is the one written only if the name was left as it is. -/
theorem hostId_fixHostname_iff (dnsSuffix host : String) :
    hostId host = hostId (fixHostname dnsSuffix host) ↔ fixHostname dnsSuffix host = host := by
  constructor
  · intro hid
    have hlength : host.length = (fixHostname dnsSuffix host).length := by
      rw [← length_hostId host, hid, length_hostId]
    rw [fixHostname] at hlength ⊢
    split at hlength
    · next haddress => rw [if_pos haddress]
    · next haddress =>
      rw [if_neg haddress]
      split at hlength
      · simp only [String.length_append] at hlength
        omega
      · next hkept => rw [if_neg hkept]
  · intro heq
    rw [heq]

/-! ## Recorded states -/

/-- The state recorded for a host: that of the first target with its name. -/
def AgentState.hostState (s : AgentState) (targetConfigId host : String) : Option String :=
  ((s.lists.get? targetConfigId).bind fun config =>
    config.hosts.find? fun target => target.hostname = some host).map Target.state

@[simp] theorem AgentState.hostState_post (notice : AgentNotice) (s : AgentState)
    (id host : String) :
    (s.post notice).hostState id host = s.hostState id host := rfl

theorem find?_replaceTarget {new : Target} {host : String} (hnew : new.hostname = some host)
    (targets : List Target) (h : String) :
    (replaceTarget host new targets).find? (fun target => target.hostname = some h) =
      if h = host then (targets.find? fun target => target.hostname = some host).map fun _ => new
      else targets.find? fun target => target.hostname = some h := by
  induction targets with
  | nil => simp [replaceTarget]
  | cons target targets ih =>
      rw [replaceTarget]
      by_cases htarget : target.hostname = some host
      · by_cases hh : h = host
        · subst hh
          simp [htarget, hnew]
        · simp [htarget, hnew, hh, Ne.symm hh]
      · by_cases hh : h = host
        · subst hh
          simpa [htarget] using ih
        · by_cases hfound : target.hostname = some h
          · simp [hfound, hh]
          · simpa [htarget, hfound, hh] using ih

theorem hosts_setTarget (host : String) (new : Target) (config : TargetConfig) :
    (config.setTarget host new).hosts = replaceTarget host new config.hosts := by
  simp only [TargetConfig.setTarget, TargetConfig.hosts]
  cases config.targets <;> rfl

namespace WinRunner

variable {runner : WinRunner}

theorem hostState_updateSingleHostState (runner : WinRunner) (host newState : String)
    (s : AgentState) (h : String) :
    (runner.updateSingleHostState host newState s).hostState runner.targetConfigId h =
      if h = host then (s.hostState runner.targetConfigId host).map fun _ => newState
      else s.hostState runner.targetConfigId h := by
  simp only [AgentState.hostState, updateSingleHostState, Table.get?_modify, if_pos]
  cases s.lists.get? runner.targetConfigId with
  | none => simp
  | some config =>
      simp only [Option.map_some, Option.bind_some, hosts_setTarget]
      rw [find?_replaceTarget rfl]
      split <;> simp [Function.comp_def]

/-- What is recorded for a host on which ansible has had the given outcome. -/
def reportedState (action : AgentAction) (stats : HostStats) : String :=
  if stats.succeeded then endState action else errorState

/-- `_update_windows_host_state` records the state for every host of the run. -/
theorem hostState_updateWindowsHostState (runner : WinRunner) (newState : String) (s : AgentState)
    (h : String) :
    (runner.updateWindowsHostState newState s).hostState runner.targetConfigId h =
      if h ∈ runner.hostnameOrIp.toList then
        (s.hostState runner.targetConfigId h).map fun _ => newState
      else s.hostState runner.targetConfigId h := by
  unfold updateWindowsHostState
  induction runner.hostnameOrIp.toList generalizing s with
  | nil => simp
  | cons host hosts ih =>
      rw [List.foldl_cons, ih, hostState_updateSingleHostState]
      by_cases hhost : h = host
      · subst hhost
        simp [Function.comp_def]
      · simp [hhost]

/-- The notice of `notify_ansible_failure` for a host with the given outcome. -/
def reportNotice (action : AgentAction) (callback : PlaybookResult) (host : String)
    (stats : HostStats) : AgentNotice :=
  if stats.succeeded then .success action [host]
  else if 0 < stats.unreachable then
    .loginNetworkFailure action host (callback.failed (hostId host))
  else .failure action [host] (callback.failed (hostId host))

/-- One round of the loop of `notify_ansible_failure`, where the report has an
    entry for the host. -/
theorem notifyAnsibleFailure_cons (runner : WinRunner) {callback : PlaybookResult} {host : String}
    {stats : HostStats} (hstats : callback.summary.get? (hostId host) = some stats)
    (hosts : List String) (s : AgentState) :
    runner.notifyAnsibleFailure callback (host :: hosts) s =
      runner.notifyAnsibleFailure callback hosts (runner.updateSingleHostState host
        (reportedState runner.action stats)
        (s.post (reportNotice runner.action callback host stats))) := by
  rw [notifyAnsibleFailure, hstats]
  dsimp only
  rw [reportedState, reportNotice]
  split_ifs <;> rfl

/-- The loop records for each host the outcome that the report has under the id it
    reads back, if there is one for each of them. -/
theorem hostState_notifyAnsibleFailure (runner : WinRunner) {callback : PlaybookResult}
    {outcome : String → HostStats} {hosts : List String}
    (hstats : ∀ host ∈ hosts, callback.summary.get? (hostId host) = some (outcome host))
    (s : AgentState) :
    ∃ s', runner.notifyAnsibleFailure callback hosts s = (s', .ok ()) ∧
      ∀ h, s'.hostState runner.targetConfigId h =
        if h ∈ hosts then
          (s.hostState runner.targetConfigId h).map fun _ => reportedState runner.action (outcome h)
        else s.hostState runner.targetConfigId h := by
  induction hosts generalizing s with
  | nil => exact ⟨s, rfl, by simp⟩
  | cons host hosts ih =>
      obtain ⟨s', hs', hstate⟩ := ih (fun h hh => hstats h (List.mem_cons_of_mem _ hh))
        (runner.updateSingleHostState host (reportedState runner.action (outcome host))
          (s.post (reportNotice runner.action callback host (outcome host))))
      rw [notifyAnsibleFailure_cons runner (hstats host (List.mem_cons_self ..))]
      refine ⟨s', hs', ?_⟩
      intro h
      rw [hstate, hostState_updateSingleHostState, AgentState.hostState_post]
      by_cases hhost : h = host
      · subst hhost
        simp [Function.comp_def]
      · simp [hhost]

/-- An installer that is missing changes states, but not which hosts have one. -/
theorem hostState_setInstaller (runner : WinRunner) (installerExists : Bool) (s : AgentState)
    (h newState : String) :
    ((runner.setInstaller installerExists s).hostState runner.targetConfigId h).map
        (fun _ => newState) =
      (s.hostState runner.targetConfigId h).map fun _ => newState := by
  rw [setInstaller]
  split
  · rfl
  · rw [hostState_updateWindowsHostState, AgentState.hostState_post]
    split <;> simp [Function.comp_def]

theorem attempt_of_result {ansible : Ansible} {steps : AgentSteps} {result : PlaybookResult}
    (hsmb : runner.overSmb = false) (hconnect : steps.connect = .ok ())
    (hbuild : steps.buildAgents = .ok ())
    (hresult : ansible runner.action (inventoryLines runner.connectionHosts) = .ok result)
    (s : AgentState) :
    runner.attempt ansible steps s =
      (runner.setInstaller steps.installerExists s,
        if result.statusCode ≠ 0 then .error (.winrmCommandFailure result) else .ok ()) := by
  simp only [attempt, hconnect, hsmb, hbuild, executeWinPlaybook, hresult]
  split
  · contradiction
  · split <;> rfl

/-- A run that ansible reports on records for each host the outcome under the id
    that is read back, if the report has one for each of them. -/
theorem hostState_execute {ansible : Ansible} {steps : AgentSteps} {hosts : List String}
    {result : PlaybookResult} {outcome : String → HostStats}
    (hhosts : runner.hostnameOrIp = .many hosts) (hsmb : runner.overSmb = false)
    (hconnect : steps.connect = .ok ()) (hbuild : steps.buildAgents = .ok ())
    (hresult : ansible runner.action (inventoryLines runner.connectionHosts) = .ok result)
    (hstats : ∀ host ∈ hosts, result.summary.get? (hostId host) = some (outcome host))
    (hstatus : result.statusCode = 0 → ∀ host ∈ hosts, (outcome host).succeeded = true)
    (s : AgentState) :
    ∀ h ∈ hosts, (runner.execute ansible steps s).1.hostState runner.targetConfigId h =
      (s.hostState runner.targetConfigId h).map fun _ =>
        reportedState runner.action (outcome h) := by
  intro h hh
  rw [execute, attempt_of_result hsmb hconnect hbuild hresult]
  by_cases hzero : result.statusCode = 0
  · -- every host is recorded as done, and every host is
    have hmem : h ∈ runner.hostnameOrIp.toList := by
      rw [hhosts]
      exact hh
    have hdone : reportedState runner.action (outcome h) = endState runner.action :=
      if_pos (hstatus hzero h hh)
    simp only [hzero, ne_eq, not_true_eq_false, if_false]
    rw [setEndState, AgentState.hostState_post, hostState_updateWindowsHostState, if_pos hmem,
      hostState_setInstaller, hdone, AgentState.hostState_post]
  -- a report with hosts is gone through host by host
  · have hrows : result.summary.rows.isEmpty = false := by
      rw [List.isEmpty_eq_false_iff]
      exact List.ne_nil_of_mem (Table.get?_eq_some_iff.mp (hstats h hh))
    simp only [hzero, ne_eq, not_false_eq_true, if_true, hhosts, hrows]
    obtain ⟨s', hs', hstate⟩ := hostState_notifyAnsibleFailure runner hstats
      (runner.setInstaller steps.installerExists
        (s.post (.inProgress runner.action runner.hostnameOrIp.toList)))
    rw [hhosts] at hs'
    rw [if_neg (by decide), hs', hstate, if_pos hh, hostState_setInstaller,
      AgentState.hostState_post]

/-! ## Attribution -/

/-- The id a configured host has in the inventory. -/
def inventoryId (runner : WinRunner) (host : String) : String :=
  hostId (fixHostname runner.dnsSuffix host)

/-- Reports are attributed to the right hosts: different hosts have different ids
    in the inventory, the ids read back are those written, and a run that ansible
    reports on records for each host what happened on its machine. -/
structure Attributed (runner : WinRunner) (ansible : Ansible)
    (machine : AgentAction → String → HostStats) (hosts : List String) : Prop where
  injective : ∀ h ∈ hosts, ∀ h' ∈ hosts, runner.inventoryId h = runner.inventoryId h' → h = h'
  sameIds : ∀ h ∈ hosts, hostId h = runner.inventoryId h
  recorded : ∀ steps s result, steps.connect = .ok () → steps.buildAgents = .ok () →
    ansible runner.action (inventoryLines runner.connectionHosts) = .ok result →
    ∀ h ∈ hosts, (s.hostState runner.targetConfigId h).isSome = true →
      (runner.execute ansible steps s).1.hostState runner.targetConfigId h =
        some (reportedState runner.action
          (machine runner.action (fixHostname runner.dnsSuffix h)))

/-- With different ids, the last line of an id is the line of its host. -/
theorem lastLinked_of_injective {machine : String → HostStats} {hosts : List String}
    (hinj : ∀ h ∈ hosts, ∀ h' ∈ hosts, runner.inventoryId h = runner.inventoryId h' → h = h')
    {host : String} (hhost : host ∈ hosts) :
    Links.LastLinked
      ((inventoryLines (hosts.map (fixHostname runner.dnsSuffix))).map fun line =>
        (machine line.ansibleHost, [line.id]))
      (runner.inventoryId host) (machine (fixHostname runner.dnsSuffix host)) := by
  have hrows : (inventoryLines (hosts.map (fixHostname runner.dnsSuffix))).map (fun line =>
      (machine line.ansibleHost, [line.id])) =
        hosts.map fun h => (machine (fixHostname runner.dnsSuffix h), [runner.inventoryId h]) := by
    simp [inventoryLines, inventoryId]
  rw [hrows]
  have hlinked : Links.Linked
      (hosts.map fun h => (machine (fixHostname runner.dnsSuffix h), [runner.inventoryId h]))
      (runner.inventoryId host) (machine (fixHostname runner.dnsSuffix host)) :=
    ⟨_, List.mem_map_of_mem hhost, List.mem_singleton_self _⟩
  obtain ⟨stats, hlast⟩ := Links.exists_lastLinked hlinked
  obtain ⟨ids, hrow, hid⟩ := hlast.linked
  obtain ⟨h', hh', hrow⟩ := List.mem_map.mp hrow
  cases hrow
  rw [List.mem_singleton] at hid
  -- the last line of the id is the line of some host, which is this one
  obtain rfl := hinj host hhost h' hh' hid
  exact hlast

theorem attributed_iff {ansible : Ansible} {machine : AgentAction → String → HostStats}
    {hosts : List String} (hdoc : ansible.Documented machine) (hsmb : runner.overSmb = false)
    (hhosts : runner.hostnameOrIp = .many hosts) :
    runner.Attributed ansible machine hosts ↔
      (∀ h ∈ hosts, isIpv4Address h = true ∨ runner.dnsSuffix = "" ∨
        runner.dnsSuffix.toList <:+: h.toList) ∧
      ∀ h ∈ hosts, ∀ h' ∈ hosts, hostId h = hostId h' → h = h' := by
  constructor
  · rintro ⟨hinj, hsame, -⟩
    refine ⟨?_, ?_⟩
    · intro h hh
      exact (fixHostname_eq_self_iff ..).mp ((hostId_fixHostname_iff ..).mp (hsame h hh))
    · intro h hh h' hh' hid
      refine hinj h hh h' hh' ?_
      rw [← hsame h hh, ← hsame h' hh', hid]
  · rintro ⟨hkept, hids⟩
    -- no name is changed on its way into the inventory
    have hfixed : ∀ h ∈ hosts, fixHostname runner.dnsSuffix h = h := fun h hh =>
      (fixHostname_eq_self_iff ..).mpr (hkept h hh)
    have hinj : ∀ h ∈ hosts, ∀ h' ∈ hosts,
        runner.inventoryId h = runner.inventoryId h' → h = h' := by
      intro h hh h' hh' hid
      rw [inventoryId, inventoryId, hfixed h hh, hfixed h' hh'] at hid
      exact hids h hh h' hh' hid
    have hsame : ∀ h ∈ hosts, hostId h = runner.inventoryId h := by
      intro h hh
      rw [inventoryId, hfixed h hh]
    refine ⟨hinj, hsame, ?_⟩
    intro steps s result hconnect hbuild hresult h hh hlisted
    -- the report under the id of a host is about its machine
    have hstats : ∀ host ∈ hosts, result.summary.get? (hostId host) =
        some (machine runner.action (fixHostname runner.dnsSuffix host)) := by
      intro host hhost
      rw [hsame host hhost]
      refine hdoc.reported _ _ _ hresult _ _ ?_
      rw [connectionHosts, hhosts]
      exact lastLinked_of_injective hinj hhost
    have hstatus : result.statusCode = 0 → ∀ host ∈ hosts,
        (machine runner.action (fixHostname runner.dnsSuffix host)).succeeded = true :=
      fun hzero host hhost =>
        hdoc.succeeded _ _ _ hresult hzero _ _ (hstats host hhost)
    rw [hostState_execute hhosts hsmb hconnect hbuild hresult hstats hstatus s h hh]
    obtain ⟨state, hstate⟩ := Option.isSome_iff_exists.mp hlisted
    rw [hstate]
    rfl

/-- An ansible that runs the playbook on every machine of the inventory. -/
def runEverywhere (machine : AgentAction → String → HostStats) : Ansible := fun action inventory =>
  let summary := Links.invert
    (inventory.map fun line => (machine action line.ansibleHost, [line.id]))
  .ok { statusCode := if summary.rows.all (·.2.succeeded) then 0 else 2
        summary := summary
        failed := fun _ => [] }

theorem documented_runEverywhere (machine : AgentAction → String → HostStats) :
    (runEverywhere machine).Documented machine where
  reported := by
    intro action inventory result hresult id stats hlast
    cases hresult
    exact (Links.get?_invert_eq_some_iff _ _ _).mpr hlast
  succeeded := by
    intro action inventory result hresult hstatus id stats hstats
    cases hresult
    have hall : ∀ row ∈ (Links.invert (inventory.map fun line =>
        (machine action line.ansibleHost, [line.id]))).rows, row.2.succeeded = true := by
      simpa using hstatus
    exact hall _ (Table.get?_eq_some_iff.mp hstats)

/-- An install over ntlm in a domain. -/
def domainInstall (hosts : List String) : WinRunner where
  targetConfigId := "5d10f8af8937267d139f804a"
  overSmb := false
  dnsSuffix := "sil.local"
  action := .reinstall
  hostnameOrIp := .many hosts
  dtString := "2023-04-05 10:00:00"

/-- The machine with the second address cannot be reached. -/
def secondUnreachable (_ : AgentAction) (address : String) : HostStats where
  failures := 0
  unreachable := if address = "10.40.12.8" then 1 else 0

theorem attributed_iff_addresses :
    (domainInstall ["10.40.12.7", "10.40.12.8"]).Attributed (runEverywhere secondUnreachable)
        secondUnreachable ["10.40.12.7", "10.40.12.8"] ↔
      (∀ h ∈ ["10.40.12.7", "10.40.12.8"], isIpv4Address h = true ∨
        (domainInstall ["10.40.12.7", "10.40.12.8"]).dnsSuffix = "" ∨
        (domainInstall ["10.40.12.7", "10.40.12.8"]).dnsSuffix.toList <:+: h.toList) ∧
      ∀ h ∈ ["10.40.12.7", "10.40.12.8"], ∀ h' ∈ ["10.40.12.7", "10.40.12.8"],
        hostId h = hostId h' → h = h' :=
  attributed_iff (documented_runEverywhere _) rfl rfl

/-- The report on a host whose name is completed is not found. -/
theorem not_attributed :
    ¬∀ (runner : WinRunner) ansible machine hosts, ansible.Documented machine →
      runner.overSmb = false → runner.hostnameOrIp = .many hosts →
        runner.Attributed ansible machine hosts := by
  intro hall
  have hattributed := hall (domainInstall ["desktop-rgg1jbk", "10.40.12.8"])
    (runEverywhere secondUnreachable) secondUnreachable _ (documented_runEverywhere _) rfl rfl
  exact absurd (hattributed.sameIds "desktop-rgg1jbk" (List.mem_cons_self ..)) (by decide +kernel)

/-- Nothing is recorded then: the loop ends with the `KeyError`. -/
example :
    ((domainInstall ["desktop-rgg1jbk", "10.40.12.8"]).execute (runEverywhere secondUnreachable)
      ⟨.ok (), .ok (), true, .ok (), .ok 0, .ok (), .ok 0, fun _ => .ok (), .ok ()⟩
      ⟨Table.empty, []⟩).2 = .error (.keyError "desktop-rgg1jbk") := by
  rfl

end WinRunner

end Tfplenum
