/-
  Tfplenum.Service.HelmInstall

  `install_helm_apps` of `catalog_service.py`: the installs of a request, the loops
  in which the job waits for them, and the notification at its end, which is always
  that of a success; and `install_helm_command`, which tries an install twice.

  The job ends when as many of the releases that it waits for are deployed as it has
  noted names.  Of the names that are noted some may never be deployed, and an entry
  of the request that cannot be parsed is not noted at all.
-/

import Tfplenum.Lib.Fallible
import Tfplenum.Service.HelmJobs
import Mathlib.Data.List.Infix
import Mathlib.Data.List.Nodup
import Mathlib.Data.List.Perm.Subperm

namespace Tfplenum

open Lib

/-! ## The entries of a request -/

/-- `_build_values`: the last item of a dictionary; without one the names are not bound. -/
def buildValues : Json → Except PyError (String × Json)
  | .obj fields =>
      match fields.getLast? with
      | some item => .ok item
      | none => .error (.unboundLocalError "deployment_name")
  | _ => .error (.unboundLocalError "deployment_name")

/-- The name of a type, as it is in the text of a `TypeError` -/
def Json.typeName : Json → String
  | .null => "NoneType"
  | .bool _ => "bool"
  | .num _ => "int"
  | .str _ => "str"
  | .arr _ => "list"
  | .obj _ => "dict"

/-- The arguments of an install, and what it meets -/
structure InstallEnv extends HelmEnv where
  nodeAffinity : String
  /-- what `%s` makes of a value -/
  text : Json → String

/-- `value_items.get("node_hostname", None)`, or the deployment -/
def nodeHostname (deploymentName : String) (items : List (String × Json)) : Json :=
  match items.lookup "node_hostname" with
  | none => .str deploymentName
  | some .null => .str deploymentName
  | some hostname => hostname

/-- `value_items["nodeSelector"] = {"role": "server"}`, where there is such a key -/
def selectServer (items : List (String × Json)) : List (String × Json) :=
  items.map fun item =>
    if item.1 = "nodeSelector" then (item.1, .obj [("role", .str "server")]) else item

/-- The body of the `try` up to its loop, and the text of an exception that it raises -/
def issueInstall (env : InstallEnv) (deploymentName : String) (items : List (String × Json))
    (run : HelmRun) : HelmRun × Option String :=
  let sensor := "Sensor".toList <:+: env.nodeAffinity.toList
  let hostname := nodeHostname deploymentName items
  let items := if sensor then items else selectServer items
  let label : Except String HelmRun :=
    if sensor then
      match hostname with
      | .str hostname =>
          .ok (run.emit (.kubelet ("kubectl label nodes " ++ hostname ++ " " ++ env.application ++
            "=true --overwrite=true")))
      | hostname => .error ("can only concatenate str (not \"" ++ hostname.typeName ++ "\") to str")
    else .ok run
  match label with
  | .error exc => (run, some exc)
  | .ok run =>
      match env.delay run.looks with
      | some exc => (run, some exc)
      | none =>
          ((run.emit (.install deploymentName hostname items)).emit
            (.saveValues deploymentName items), none)

/-- The release is listed, with whatever status. -/
def showsRelease (deploymentName : String) (apps : List AppState) : Bool :=
  apps.any fun d => d.deploymentName = deploymentName

/-- The name and the message of an entry that can be parsed -/
def noteDeployment (env : InstallEnv) (deploymentName : String) (items : List (String × Json))
    (run : HelmRun) : HelmRun :=
  let run := { run with deploymentNames := run.deploymentNames ++ [some deploymentName] }
  let application := String.ofList (env.unicode.capitalize env.application.toList)
  run.setMessage
    ("Installing " ++ application ++ " on " ++ env.text (nodeHostname deploymentName items))

/-- What is done for an entry that can be parsed -/
def installDeployment (env : InstallEnv) (deploymentName : String) (items : List (String × Json))
    (run : HelmRun) : Waiting HelmRun :=
  match issueInstall env deploymentName items (noteDeployment env deploymentName items run) with
  | (run, some exc) =>
      pure (((run.setException exc).notify env.toHelmEnv "ERROR").emit (.purge deploymentName))
  | (run, none) => do
      let run ← run.await env.toHelmEnv (showsRelease deploymentName)
      pure (run.notify env.toHelmEnv "IN_PROGRESS")

/-- One round of the loop over the values -/
def installValue (env : InstallEnv) (run : HelmRun) (value : Json) :
    ExceptT PyError Waiting HelmRun :=
  match buildValues value with
  | .error e => throw e
  | .ok (deploymentName, valueItems) =>
      if deploymentName ≠ "" && valueItems.truthy then
        match valueItems with
        | .obj items => ExceptT.lift (installDeployment env deploymentName items run)
        -- `value_items.get` stands before the `try`
        | other =>
            throw (.attributeError ("'" ++ other.typeName ++ "' object has no attribute 'get'"))
      else
        pure ((run.setException "Error unable to parse values from request").notify
          env.toHelmEnv "ERROR")

/-- How many of the releases listed have one of the names and are deployed -/
def deployedCount (u : Unicode) (names : List (Option String)) (apps : List AppState) : Nat :=
  (apps.filter fun d => some d.deploymentName ∈ names && d.hasStatus u "deployed").length

/-- `install_helm_apps` -/
def installHelmApps (env : InstallEnv) (values : List Json) : ExceptT PyError Waiting HelmRun := do
  let run ← values.foldlM (installValue env) (HelmRun.start env.toHelmEnv "Installing")
  let run ← ExceptT.lift (run.await env.toHelmEnv fun apps =>
    decide (run.deploymentNames.length ≤ deployedCount env.unicode run.deploymentNames apps))
  pure ((run.setMessage "Install completed.").notify env.toHelmEnv "COMPLETED")

/-! ## The command -/

/-- What `run_command2` gives back -/
structure HelmAnswer where
  stdout : String
  retCode : Int

/-- The arguments of `install_helm_command` and the file of the values, and what it meets -/
structure InstallCommand where
  deploymentName : String
  node : Option String
  chartNamespace : String
  tpath : String
  /-- `_check_chart_name` -/
  chartFound : Bool
  first : HelmAnswer
  retry : HelmAnswer
  /-- `yaml.full_load(stdout.strip())["STATUS"].upper()` -/
  statusOf : String → Except PyError String

/-- The names of `NotificationCode` -/
def notificationCodes : List String :=
  ["UNKNOWN", "DEPLOYED", "SUPERSEDED", "FAILED", "PENDING_INSTALL", "PENDING_UPGRADE",
    "PENDING_ROLLBACK", "UNINSTALLING", "UNINSTALLED", "GREEN", "RED", "STARTED", "IN_PROGRESS",
    "COMPLETED", "ERROR", "INSTALLING", "CANCELLED"]

/-- `str` of a list of strings -/
def quotedList (items : List String) : String :=
  "[" ++ String.intercalate ", " (items.map fun item => "'" ++ item ++ "'") ++ "]"

/-- The install, and once more after an uninstall if it fails -/
def tryInstall (env : HelmEnv) (cmd : InstallCommand) (run : HelmRun) : HelmRun × HelmAnswer :=
  let install := "helm install " ++ cmd.deploymentName ++ " chartmuseum/" ++ env.application ++
    " --namespace " ++ cmd.chartNamespace ++ " --values " ++ cmd.tpath ++ " --wait --wait-for-jobs"
  let run := (run.emit (.helm "helm repo update")).emit (.helm install)
  if cmd.first.retCode ≠ 0 then
    ((run.emit (.helm ("helm uninstall " ++ cmd.deploymentName))).emit (.helm install), cmd.retry)
  else (run, cmd.first)

/-- `install_helm_command` -/
def installHelmCommand (env : HelmEnv) (cmd : InstallCommand) : Except PyError HelmRun :=
  let run := HelmRun.start env "Installing"
  if cmd.chartFound then
    let (run, answer) := tryInstall env cmd run
    if answer.retCode = 0 && answer.stdout ≠ "" then do
      let status ← cmd.statusOf answer.stdout
      if status ∈ notificationCodes then
        match cmd.node with
        | some node =>
            .ok ((run.setMessage ("Installing " ++ env.application ++ " on " ++ node)).notify env
              status)
        | none => .ok (run.notify env status)
      else
        .error (.valueError ("The " ++ status ++ " passed is does not match on of " ++
          quotedList notificationCodes ++ "."))
    else if answer.retCode ≠ 0 && answer.stdout ≠ "" then
      let results := String.ofList (env.unicode.strip answer.stdout.toList)
      .ok (((run.setException results).notify env "ERROR").emit (.purge cmd.deploymentName))
    else .ok run
  else .ok run

theorem purge_mem_tryInstall {env : HelmEnv} {cmd : InstallCommand} {run : HelmRun}
    {deploymentName : String} :
    .purge deploymentName ∈ (tryInstall env cmd run).1.events ↔
      .purge deploymentName ∈ run.events := by
  rw [tryInstall]
  split <;> simp [HelmRun.emit]

theorem answer_tryInstall (env : HelmEnv) (cmd : InstallCommand) (run : HelmRun) :
    (tryInstall env cmd run).2 = if cmd.first.retCode ≠ 0 then cmd.retry else cmd.first := by
  rw [tryInstall]
  split <;> rfl

/-- A release is purged when both tries have failed, and `helm` has said why. -/
theorem purge_mem_events_iff {env : HelmEnv} {cmd : InstallCommand} {run : HelmRun}
    (h : installHelmCommand env cmd = .ok run) :
    .purge cmd.deploymentName ∈ run.events ↔
      cmd.chartFound = true ∧ cmd.first.retCode ≠ 0 ∧ cmd.retry.retCode ≠ 0 ∧
        cmd.retry.stdout ≠ "" := by
  have htried : .purge cmd.deploymentName ∉
      (tryInstall env cmd (HelmRun.start env "Installing")).1.events := by
    rw [purge_mem_tryInstall]
    exact List.not_mem_nil
  have hanswer := answer_tryInstall env cmd (HelmRun.start env "Installing")
  rw [installHelmCommand] at h
  split at h
  · rename_i hfound
    simp only [hfound, true_and]
    generalize tryInstall env cmd (HelmRun.start env "Installing") = tried at h htried hanswer
    obtain ⟨mid, answer⟩ := tried
    simp only at h htried hanswer
    -- it is the answer to the last try that decides
    have hfailed : (cmd.first.retCode ≠ 0 ∧ cmd.retry.retCode ≠ 0 ∧ cmd.retry.stdout ≠ "") ↔
        (answer.retCode ≠ 0 ∧ answer.stdout ≠ "") := by
      rw [hanswer]
      split <;> simp_all
    have hnotify : ∀ (run : HelmRun) (status : String), run.events = mid.events →
        .purge cmd.deploymentName ∉ (run.notify env status).events := by
      intro run status hrun hmem
      rw [HelmRun.notify, hrun, List.mem_append] at hmem
      rcases hmem with hmem | hmem
      · exact htried hmem
      · exact HelmEvent.noConfusion (List.mem_singleton.mp hmem)
    rw [hfailed]
    simp only [Bool.and_eq_true, decide_eq_true_eq] at h
    split at h
    · rename_i hok
      obtain ⟨status, -, hstatus⟩ := Fallible.bind_eq_ok_iff.mp h
      refine iff_of_false ?_ fun hnot => hnot.1 hok.1
      split at hstatus
      · split at hstatus
        all_goals
          rw [← Except.ok.inj hstatus]
          exact hnotify _ _ rfl
      · cases hstatus
    · split at h
      · rename_i hnot
        rw [← Except.ok.inj h]
        exact iff_of_true (List.mem_append_right _ (List.mem_singleton_self _)) hnot
      · rename_i hnot
        rw [← Except.ok.inj h]
        exact iff_of_false htried hnot
  · rename_i hfound
    rw [← Except.ok.inj h]
    simp [hfound, HelmRun.start]

/-! ## What is requested and what is reported -/

/-- The deployment of an entry that can be parsed -/
def requestedName (value : Json) : Option String :=
  match buildValues value with
  | .error _ => none
  | .ok (deploymentName, valueItems) =>
      if deploymentName ≠ "" && valueItems.truthy then
        match valueItems with
        | .obj _ => some deploymentName
        | _ => none
      else none

def requestedNames (values : List Json) : List String := values.filterMap requestedName

/-- From some look on the release is listed as deployed. -/
def Deployed (env : HelmEnv) (deploymentName : String) : Prop :=
  ∃ n, ∀ i, n ≤ i → ∃ d ∈ env.releases i,
    d.deploymentName = deploymentName ∧ d.hasStatus env.unicode "deployed" = true

/-- What every entry asks for is deployed at last. -/
def AllDeployed (env : HelmEnv) (values : List Json) : Prop :=
  ∀ value ∈ values, ∃ deploymentName, requestedName value = some deploymentName ∧
    Deployed env deploymentName

/-- There is one final notification, the last one, which is that of a success exactly if everything
    is deployed and an error otherwise. -/
def Reports (env : HelmEnv) (values : List Json) (run : HelmRun) : Prop :=
  ∃ before final, notices run.events = before ++ [final] ∧
    (∀ notification ∈ before, notification.status ≠ "COMPLETED") ∧
    (final.status = "COMPLETED" ↔ AllDeployed env values) ∧
    (¬ AllDeployed env values → final.status = "ERROR")

/-! ## The loop over the values -/

variable {env : InstallEnv} {values : List Json} {run run' : HelmRun}

/-- The names are noted besides those noted before, and success is not reported yet. -/
structure Notes (run run' : HelmRun) (names : List String) : Prop where
  names : run'.deploymentNames = run.deploymentNames ++ names.map some
  reported : (∀ notification ∈ notices run.events, notification.status ≠ "COMPLETED") →
    ∀ notification ∈ notices run'.events, notification.status ≠ "COMPLETED"

theorem Notes.refl (run : HelmRun) : Notes run run [] := ⟨(List.append_nil _).symm, id⟩

theorem Notes.trans {run'' : HelmRun} {names names' : List String} (h : Notes run run' names)
    (h' : Notes run' run'' names') : Notes run run'' (names ++ names') := by
  refine ⟨?_, fun hrun => h'.reported (h.reported hrun)⟩
  rw [h'.names, h.names, List.map_append, List.append_assoc]

/-- A notification that does not report success -/
theorem notes_notify (run : HelmRun) {status : String} (h : status ≠ "COMPLETED") :
    Notes run (run.notify env.toHelmEnv status) [] := by
  refine ⟨(List.append_nil _).symm, fun hrun notification hmem => ?_⟩
  rw [HelmRun.notify, notices_append, List.mem_append] at hmem
  rcases hmem with hmem | hmem
  · exact hrun notification hmem
  · rw [List.mem_singleton.mp hmem]
    exact h

theorem notes_error (run : HelmRun) (exc : String) :
    Notes run ((run.setException exc).notify env.toHelmEnv "ERROR") [] :=
  ⟨(List.append_nil _).symm, (notes_notify (run.setException exc) (by decide)).reported⟩

/-- An event that is not a notification -/
theorem notes_emit (run : HelmRun) {event : HelmEvent} (h : notices [event] = []) :
    Notes run (run.emit event) [] := by
  refine ⟨(List.append_nil _).symm, fun hrun notification hmem => ?_⟩
  rw [HelmRun.emit, notices_append, h, List.append_nil] at hmem
  exact hrun notification hmem

theorem notes_issueInstall (deploymentName : String) (items : List (String × Json))
    (run : HelmRun) : Notes run (issueInstall env deploymentName items run).1 [] := by
  have hissue : ∀ (hostname : Json) (items : List (String × Json)) (run : HelmRun),
      Notes run ((run.emit (.install deploymentName hostname items)).emit
        (.saveValues deploymentName items)) [] :=
    fun hostname items run => (notes_emit run rfl).trans (notes_emit _ rfl)
  rw [issueInstall]
  -- with a label or without, and by what the queue says
  split
  · exact Notes.refl run
  · rename_i labelled hlabel
    have hlabelled : Notes run labelled [] := by
      split at hlabel
      · split at hlabel
        · rw [← Except.ok.inj hlabel]
          exact notes_emit run rfl
        · cases hlabel
      · rw [← Except.ok.inj hlabel]
        exact Notes.refl run
    split
    · exact hlabelled
    · exact hlabelled.trans (hissue ..)

/-- The name of a deployment is noted, whatever becomes of it. -/
theorem notes_of_installDeployment {deploymentName : String} {items : List (String × Json)}
    (hends : (installDeployment env deploymentName items run).Ends run') :
    Notes run run' [deploymentName] := by
  have hnote : Notes run (noteDeployment env deploymentName items run) [deploymentName] :=
    ⟨rfl, id⟩
  have hissue := hnote.trans (@notes_issueInstall env deploymentName items
    (noteDeployment env deploymentName items run))
  rw [installDeployment] at hends
  split at hends
  · rename_i issued exc heq
    rw [heq] at hissue
    rw [← Waiting.ends_pure.mp hends]
    exact hissue.trans ((notes_error issued exc).trans (notes_emit _ rfl))
  · rename_i issued heq
    rw [heq] at hissue
    obtain ⟨_, hwait, hrun⟩ := Waiting.ends_bind.mp hends
    obtain ⟨j, -, rfl⟩ := HelmRun.ends_await.mp hwait
    rw [← Waiting.ends_pure.mp hrun]
    have hprogress : Notes issued
        (HelmRun.notify env.toHelmEnv { issued with looks := j + 1 } "IN_PROGRESS") [] :=
      ⟨(List.append_nil _).symm, (@notes_notify env { issued with looks := j + 1 } _
        (by decide)).reported⟩
    exact hissue.trans hprogress

/-- A round that does not raise has noted the deployment of its entry, if there is one. -/
theorem notes_of_installValue {value : Json}
    (hends : (installValue env run value).run.Ends (.ok run')) :
    Notes run run' (requestedName value).toList := by
  rw [installValue] at hends
  rw [requestedName]
  cases hbuild : buildValues value with
  | error e =>
      rw [hbuild] at hends
      exact absurd hends Waiting.ends_ok_throw
  | ok item =>
      obtain ⟨deploymentName, valueItems⟩ := item
      rw [hbuild] at hends
      simp only at hends ⊢
      split at hends
      · rename_i hparsed
        rw [if_pos hparsed]
        -- a dictionary, or a value without a `get`
        cases valueItems with
        | obj items => exact notes_of_installDeployment (Waiting.ends_ok_lift.mp hends)
        | _ => exact absurd hends Waiting.ends_ok_throw
      · rename_i hparsed
        rw [if_neg hparsed, ← Waiting.ends_ok_pure.mp hends]
        exact notes_error run _

theorem notes_of_installs (hends : (values.foldlM (installValue env) run).run.Ends (.ok run')) :
    Notes run run' (requestedNames values) := by
  induction values generalizing run with
  | nil =>
      rw [List.foldlM_nil, Waiting.ends_ok_pure] at hends
      rw [← hends]
      exact Notes.refl run
  | cons value values ih =>
      rw [List.foldlM_cons, Waiting.ends_ok_bind] at hends
      obtain ⟨mid, hvalue, hrest⟩ := hends
      have hnames : requestedNames (value :: values) =
          (requestedName value).toList ++ requestedNames values := by
        rw [requestedNames, List.filterMap_cons]
        cases requestedName value <;> rfl
      rw [hnames]
      exact (notes_of_installValue hvalue).trans (ih hrest)

/-! ## The rounds end where the releases are deployed -/

theorem exists_ends_installDeployment {deploymentName : String}
    (hdeployed : Deployed env.toHelmEnv deploymentName) (items : List (String × Json))
    (run : HelmRun) : ∃ run', (installDeployment env deploymentName items run).Ends run' := by
  obtain ⟨n, hn⟩ := hdeployed
  rw [installDeployment]
  split
  · exact ⟨_, Waiting.ends_pure.mpr rfl⟩
  · rename_i issued _
    have hshows : showsRelease deploymentName (env.releases (max n issued.looks)) = true := by
      obtain ⟨d, hd, hname, -⟩ := hn _ (Nat.le_max_left n issued.looks)
      exact List.any_eq_true.mpr ⟨d, hd, decide_eq_true hname⟩
    obtain ⟨j, hj⟩ := @Waiting.exists_first
      (fun i => showsRelease deploymentName (env.releases i)) _ _
      (Nat.le_max_right n issued.looks) hshows
    exact ⟨_, Waiting.ends_bind.mpr
      ⟨_, HelmRun.ends_await.mpr ⟨j, hj, rfl⟩, Waiting.ends_pure.mpr rfl⟩⟩

theorem exists_ends_installValue {value : Json} {deploymentName : String}
    (hname : requestedName value = some deploymentName)
    (hdeployed : Deployed env.toHelmEnv deploymentName) (run : HelmRun) :
    ∃ run', (installValue env run value).run.Ends (.ok run') := by
  rw [requestedName] at hname
  rw [installValue]
  cases hbuild : buildValues value with
  | error e =>
      rw [hbuild] at hname
      cases hname
  | ok item =>
      obtain ⟨name, valueItems⟩ := item
      rw [hbuild] at hname
      simp only at hname ⊢
      split at hname
      · rename_i hparsed
        rw [if_pos hparsed]
        cases valueItems with
        | obj items =>
            obtain rfl := Option.some.inj hname
            obtain ⟨run', hends⟩ := exists_ends_installDeployment hdeployed items run
            exact ⟨run', Waiting.ends_ok_lift.mpr hends⟩
        | _ => cases hname
      · cases hname

theorem exists_ends_installs (hall : AllDeployed env.toHelmEnv values) (run : HelmRun) :
    ∃ run', (values.foldlM (installValue env) run).run.Ends (.ok run') := by
  induction values generalizing run with
  | nil => exact ⟨run, by rw [List.foldlM_nil, Waiting.ends_ok_pure]⟩
  | cons value values ih =>
      rw [AllDeployed, List.forall_mem_cons] at hall
      obtain ⟨⟨deploymentName, hname, hdeployed⟩, hall⟩ := hall
      obtain ⟨mid, hvalue⟩ := exists_ends_installValue hname hdeployed run
      obtain ⟨run', hrest⟩ := ih hall mid
      refine ⟨run', ?_⟩
      rw [List.foldlM_cons]
      exact Waiting.ends_ok_bind.mpr ⟨mid, hvalue, hrest⟩

/-! ## The last loop -/

/-- The names that are counted -/
def countedNames (u : Unicode) (names : List String) (apps : List AppState) : List String :=
  (apps.filter fun d => some d.deploymentName ∈ names.map some && d.hasStatus u "deployed").map
    AppState.deploymentName

section Counted

variable {u : Unicode} {names : List String} {apps : List AppState}

theorem length_countedNames :
    (countedNames u names apps).length = deployedCount u (names.map some) apps :=
  List.length_map _

theorem mem_countedNames {name : String} :
    name ∈ countedNames u names apps ↔
      name ∈ names ∧ ∃ d ∈ apps, d.deploymentName = name ∧ d.hasStatus u "deployed" = true := by
  simp only [countedNames, List.mem_map, List.mem_filter, Bool.and_eq_true, decide_eq_true_eq,
    Option.some.injEq, exists_eq_right]
  constructor
  · rintro ⟨d, ⟨hd, hmem, hstatus⟩, rfl⟩
    exact ⟨hmem, d, hd, rfl, hstatus⟩
  · rintro ⟨hmem, d, hd, rfl, hstatus⟩
    exact ⟨d, ⟨hd, hmem, hstatus⟩, rfl⟩

/-- Where a release is listed once, the count comes to that of the names only if they differ. -/
theorem nodup_of_length_le (happs : (apps.map AppState.deploymentName).Nodup)
    (hle : names.length ≤ deployedCount u (names.map some) apps) : names.Nodup := by
  rw [← length_countedNames] at hle
  have hnodup : (countedNames u names apps).Nodup :=
    happs.sublist (List.filter_sublist.map AppState.deploymentName)
  have hsub : countedNames u names apps ⊆ names := fun name hname => (mem_countedNames.mp hname).1
  -- as many different names among the names as there are
  have hperm := (List.subperm_of_subset hnodup hsub).perm_of_length_le hle
  exact hperm.nodup_iff.mp hnodup

theorem length_le_of_deployed (hnodup : names.Nodup)
    (hall : ∀ name ∈ names, ∃ d ∈ apps, d.deploymentName = name ∧
      d.hasStatus u "deployed" = true) :
    names.length ≤ deployedCount u (names.map some) apps := by
  rw [← length_countedNames]
  have hsub : names ⊆ countedNames u names apps :=
    fun name hname => mem_countedNames.mpr ⟨hname, hall name hname⟩
  exact (List.subperm_of_subset hnodup hsub).length_le

end Counted

/-- The names in an answer of `get_app_state` are some of those that `helm` lists. -/
theorem nodup_releases {env : HelmEnv} {i : Nat}
    (hhelm : (((env.look i).chartReleases.getD []).map ChartRelease.name).Nodup) :
    ((env.releases i).map AppState.deploymentName).Nodup := by
  have hnames : (env.releases i).map AppState.deploymentName =
      (((env.look i).chartReleases.getD []).filter fun chart =>
        matchesApplication env.application chart.name).map ChartRelease.name := by
    rw [HelmEnv.releases, appState, List.map_map]
    rfl
  rw [hnames]
  exact hhelm.sublist (List.filter_sublist.map ChartRelease.name)

/-- The job ends without an exception exactly if the loop over the values does and then, at some
    look, enough releases are deployed. -/
theorem ends_installHelmApps :
    (installHelmApps env values).run.Ends (.ok run') ↔
      ∃ mid, (values.foldlM (installValue env) (HelmRun.start env.toHelmEnv "Installing")).run.Ends
          (.ok mid) ∧
        ∃ j, Waiting.First (fun j => decide (mid.deploymentNames.length ≤
            deployedCount env.unicode mid.deploymentNames (env.releases j))) mid.looks j ∧
          HelmRun.notify env.toHelmEnv
            { mid.setMessage "Install completed." with looks := j + 1 } "COMPLETED" = run' := by
  rw [installHelmApps, Waiting.ends_ok_bind]
  simp only [Waiting.ends_ok_bind, Waiting.ends_ok_lift, HelmRun.ends_await, Waiting.ends_ok_pure]
  constructor
  · rintro ⟨mid, hmid, _, ⟨j, hj, rfl⟩, rfl⟩
    exact ⟨mid, hmid, j, hj, rfl⟩
  · rintro ⟨mid, hmid, j, hj, rfl⟩
    exact ⟨mid, hmid, _, ⟨j, hj, rfl⟩, rfl⟩

/-- Every job that ends reports success once, at the end, and has noted different names. -/
theorem of_ends_installHelmApps
    (hhelm : ∀ i, (((env.look i).chartReleases.getD []).map ChartRelease.name).Nodup)
    (hends : (installHelmApps env values).run.Ends (.ok run')) :
    (requestedNames values).Nodup ∧ ∃ before final, notices run'.events = before ++ [final] ∧
      (∀ notification ∈ before, notification.status ≠ "COMPLETED") ∧
      final.status = "COMPLETED" := by
  obtain ⟨mid, hmid, j, hj, rfl⟩ := ends_installHelmApps.mp hends
  have hnotes := notes_of_installs hmid
  have hnames : mid.deploymentNames = (requestedNames values).map some := hnotes.names
  have hcount := of_decide_eq_true hj.holds
  rw [hnames, List.length_map] at hcount
  refine ⟨nodup_of_length_le (nodup_releases (hhelm j)) hcount, notices mid.events, _,
    notices_append .., hnotes.reported (by simp [HelmRun.start, notices]), rfl⟩

/-- What is reported at the end is success; if that is true, everything is deployed. -/
theorem allDeployed_of_reports
    (hhelm : ∀ i, (((env.look i).chartReleases.getD []).map ChartRelease.name).Nodup)
    (hends : (installHelmApps env values).run.Ends (.ok run'))
    (hreports : Reports env.toHelmEnv values run') : AllDeployed env.toHelmEnv values := by
  obtain ⟨before, final, hnotices, -, hiff, -⟩ := hreports
  obtain ⟨-, before', final', hnotices', -, hcompleted⟩ := of_ends_installHelmApps hhelm hends
  -- the last notification is one and the same
  rw [hnotices] at hnotices'
  obtain ⟨-, hfinal⟩ := List.append_inj' hnotices' rfl
  rw [← (List.cons.inj hfinal).1] at hcompleted
  exact hiff.mp hcompleted

/-- Where everything is deployed and no name is requested twice, the job ends. -/
theorem exists_ends_installHelmApps (hnodup : (requestedNames values).Nodup)
    (hall : AllDeployed env.toHelmEnv values) :
    ∃ run', (installHelmApps env values).run.Ends (.ok run') := by
  obtain ⟨mid, hmid⟩ := exists_ends_installs hall (HelmRun.start env.toHelmEnv "Installing")
  have hnames : mid.deploymentNames = (requestedNames values).map some :=
    (notes_of_installs hmid).names
  -- from some look on all of them are deployed
  have hdeployed : ∀ name ∈ requestedNames values, Deployed env.toHelmEnv name := by
    intro name hname
    obtain ⟨value, hvalue, hrequested⟩ := List.mem_filterMap.mp hname
    obtain ⟨name', hname', hdeployed⟩ := hall value hvalue
    rw [hrequested] at hname'
    obtain rfl := Option.some.inj hname'
    exact hdeployed
  obtain ⟨n, hn⟩ := Waiting.exists_from_forall_mem hdeployed
  have hcount := length_le_of_deployed hnodup (hn _ (Nat.le_max_left n mid.looks))
  obtain ⟨j, hj⟩ := @Waiting.exists_first
    (fun j => decide (mid.deploymentNames.length ≤
      deployedCount env.unicode mid.deploymentNames (env.releases j))) _ _
    (Nat.le_max_right n mid.looks) (by
      rw [hnames, List.length_map]
      exact decide_eq_true hcount)
  exact ⟨_, ends_installHelmApps.mpr ⟨mid, hmid, j, hj, rfl⟩⟩

/-- The job ends with one final notification that says truly whether everything is deployed,
    exactly if no deployment is requested twice and everything is deployed: there is no report
    of a failure. -/
theorem installHelmApps_right_iff (env : InstallEnv) (values : List Json)
    (hhelm : ∀ i, (((env.look i).chartReleases.getD []).map ChartRelease.name).Nodup) :
    (∃ run, (installHelmApps env values).run.Ends (.ok run) ∧ Reports env.toHelmEnv values run) ↔
      (requestedNames values).Nodup ∧ AllDeployed env.toHelmEnv values := by
  constructor
  · rintro ⟨run, hends, hreports⟩
    exact ⟨(of_ends_installHelmApps hhelm hends).1, allDeployed_of_reports hhelm hends hreports⟩
  · rintro ⟨hnodup, hall⟩
    obtain ⟨run, hends⟩ := exists_ends_installHelmApps hnodup hall
    obtain ⟨-, before, final, hnotices, hbefore, hcompleted⟩ := of_ends_installHelmApps hhelm hends
    exact ⟨run, hends, before, final, hnotices, hbefore, iff_of_true hcompleted hall,
      fun hnot => absurd hall hnot⟩

/-- Zeek is installed on two sensors: on the first it is deployed at once, on the second
    from the fourth look on. -/
def laterInstall : InstallEnv where
  unicode := .ascii
  application := "zeek"
  look i := ⟨[], [], some [⟨"sensor1-zeek", "4.0.1", "deployed"⟩,
    ⟨"sensor2-zeek", "4.0.1", if i < 3 then "pending-install" else "deployed"⟩]⟩
  delay _ := none
  nodeAffinity := "Sensor - Any"
  text _ := "sensor1"

/-- The same, where the install fails and is purged. -/
def failedInstall : InstallEnv :=
  { laterInstall with look := fun _ => ⟨[], [], some []⟩ }

def zeekValue (hostname : String) : Json :=
  .obj [(hostname ++ "-zeek", .obj [("node_hostname", .str hostname)])]

def zeekInstall : List Json := [zeekValue "sensor1", zeekValue "sensor2"]

/-- Deployments that come up, one later than the other, are reported. -/
theorem installHelmApps_laterInstall :
    ∃ run, (installHelmApps laterInstall zeekInstall).run.Ends (.ok run) ∧
      Reports laterInstall.toHelmEnv zeekInstall run := by
  have hhelm : ∀ i,
      (((laterInstall.look i).chartReleases.getD []).map ChartRelease.name).Nodup := by
    intro i
    show ["sensor1-zeek", "sensor2-zeek"].Nodup
    decide
  have hstatus (look : CatalogLook) (name : String) :
      (appStateOf .ascii "zeek" look ⟨name, "4.0.1", "deployed"⟩).hasStatus .ascii "deployed" =
        true := by
    have hupper : String.ofList (Unicode.ascii.upperText ("deployed".toList.map fun c =>
        if c = '-' then ' ' else c)) = "DEPLOYED" := by
      decide
    have hlower : Unicode.ascii.lower "DEPLOYED".toList = "deployed".toList := by decide
    rw [AppState.hasStatus, appStateOf, hupper]
    exact decide_eq_true hlower
  have hall : AllDeployed laterInstall.toHelmEnv zeekInstall := by
    intro value hvalue
    rcases List.mem_pair.mp hvalue with rfl | rfl
    · exact ⟨"sensor1-zeek", by decide, 0, fun i _ =>
        ⟨_, List.mem_cons_self, rfl, hstatus (laterInstall.look i) _⟩⟩
    · refine ⟨"sensor2-zeek", by decide, 3, fun i hi =>
        ⟨appStateOf .ascii "zeek" (laterInstall.look i) ⟨"sensor2-zeek", "4.0.1", "deployed"⟩,
          ?_, rfl, hstatus _ _⟩⟩
      have hlook : (laterInstall.look i).chartReleases = some [⟨"sensor1-zeek", "4.0.1",
          "deployed"⟩, ⟨"sensor2-zeek", "4.0.1", "deployed"⟩] := by
        show some [_, (⟨_, _, if i < 3 then _ else _⟩ : ChartRelease)] = _
        rw [if_neg (Nat.not_lt.mpr hi)]
      rw [HelmEnv.releases, appState, hlook]
      exact List.mem_cons_of_mem _ List.mem_cons_self
  exact (installHelmApps_right_iff laterInstall zeekInstall hhelm).mpr ⟨by decide, hall⟩

/-- Of one that does not there is no report at all. -/
theorem installHelmApps_failedInstall :
    ¬ ∀ (env : InstallEnv) (values : List Json),
      (∀ i, (((env.look i).chartReleases.getD []).map ChartRelease.name).Nodup) →
        ∃ run, (installHelmApps env values).run.Ends (.ok run) ∧
          Reports env.toHelmEnv values run := by
  intro h
  have hhelm : ∀ i,
      (((failedInstall.look i).chartReleases.getD []).map ChartRelease.name).Nodup :=
    fun _ => List.nodup_nil
  obtain ⟨run, hends, hreports⟩ := h failedInstall zeekInstall hhelm
  -- then zeek would have to be deployed
  have hall := allDeployed_of_reports hhelm hends hreports
  obtain ⟨name, -, n, hn⟩ := hall _ List.mem_cons_self
  obtain ⟨d, hd, -⟩ := hn n (Nat.le_refl n)
  cases hd

end Tfplenum
