/-
  Tfplenum.Service.HelmUninstall

  `delete_helm_apps` of `catalog_service.py`: the uninstalls of a request, and the
  two kinds of loops in which the job waits for them.

  The release that is uninstalled is the one in the status of a node, if that is
  another one, but the name waited for at the end is always the one in the request.
  Before that the job waits, release by release, until it has seen the status of an
  uninstall that is under way (`SeenUninstalling`), which a fast one never shows.  The
  command that is issued is `deleteHelmCommand`.
-/

import Tfplenum.Service.HelmJobs
import Mathlib.Data.List.Nodup

namespace Tfplenum

open Lib

/-- A node of an uninstall request; a key that is missing is `none`. -/
structure UninstallNode where
  hostname : Option String
  deploymentName : Option String
  /-- `deployment_name` of the status, which is `old_deployment_name` -/
  oldDeploymentName : Option String
deriving DecidableEq, Repr

/-- Neither `None` nor empty -/
def truthy (name : Option String) : Bool := name.any (· ≠ "")

/-- The variable `deployment_to_uninstall` -/
def UninstallNode.deploymentToUninstall (node : UninstallNode) : Option String :=
  if truthy node.deploymentName && truthy node.oldDeploymentName &&
      node.deploymentName ≠ node.oldDeploymentName then
    node.oldDeploymentName
  else node.deploymentName

/-- The release of a node, if `deployment_to_uninstall` is neither `None` nor empty -/
def UninstallNode.release (node : UninstallNode) : Option String :=
  node.deploymentToUninstall.filter (· ≠ "")

/-- The message of a notification about a node -/
def uninstallMessage (application : String) (hostname : Option String) : String :=
  "Uninstalling " ++ application ++ " on " ++ hostname.getD "None"

/-- The release is listed with the status that it has while it is uninstalled. -/
def showsUninstalling (u : Unicode) (release : String) (apps : List AppState) : Bool :=
  apps.any fun d => d.deploymentName = release && d.hasStatus u "uninstalling"

/-- What is done for a release before its uninstall is issued -/
def prepareUninstall (env : HelmEnv) (node : UninstallNode) (run : HelmRun) : HelmRun :=
  -- the name of the request, also where another release is uninstalled
  let run := { run with deploymentNames := run.deploymentNames ++ [node.deploymentName] }
  let run := run.setMessage (uninstallMessage env.application node.hostname)
  match node.hostname.filter (· ≠ "") with
  | some hostname =>
      run.emit (.kubelet ("kubectl label nodes " ++ hostname ++ " " ++ env.application ++ "-"))
  | none => run

/-- One round of the loop over the nodes -/
def uninstallNode (env : HelmEnv) (run : HelmRun) (node : UninstallNode) : Waiting HelmRun :=
  match node.release with
  | none =>
      pure ((run.setException "Error unable to determine deployment name please try again").notify
        env "ERROR")
  | some release =>
      let run := prepareUninstall env node run
      match env.delay run.looks with
      | some exc => pure ((run.setException exc).notify env "ERROR")
      | none => do
          let run := run.emit (.uninstall release node.hostname)
          let run ← run.await env (showsUninstalling env.unicode release)
          pure (run.notify env "IN_PROGRESS")

/-- No release with one of the names is listed. -/
def showsNone (names : List (Option String)) (apps : List AppState) : Bool :=
  !apps.any fun d => names.contains (some d.deploymentName)

/-- What follows when the last loop is left -/
def completeUninstall (env : HelmEnv) (fromHelmDeleteCtrl : Bool) (run : HelmRun) : HelmRun :=
  let run := (run.setMessage "Uninstall completed.").notify env "COMPLETED"
  let application := env.unicode.lower env.application.toList
  if (application = "suricata".toList || application = "zeek".toList) && fromHelmDeleteCtrl then
    run.emit .rulesync
  else run

/-- `delete_helm_apps` -/
def deleteHelmApps (env : HelmEnv) (nodes : List UninstallNode) (fromHelmDeleteCtrl : Bool) :
    Waiting HelmRun := do
  let run ← nodes.foldlM (uninstallNode env) (HelmRun.start env "Uninstalling")
  let run ← run.await env (showsNone run.deploymentNames)
  pure (completeUninstall env fromHelmDeleteCtrl run)

/-! ## What is uninstalled and what is waited for -/

/-- The releases that a request is about -/
def requestedReleases (nodes : List UninstallNode) : List String :=
  nodes.filterMap UninstallNode.release

/-- The names that the last loop waits for -/
def awaitedNames (nodes : List UninstallNode) : List (Option String) :=
  (nodes.filter fun node => node.release.isSome).map UninstallNode.deploymentName

section Cons

variable {node : UninstallNode} {nodes : List UninstallNode}

theorem requestedReleases_of_none (h : node.release = none) :
    requestedReleases (node :: nodes) = [] ++ requestedReleases nodes :=
  List.filterMap_cons_none h

theorem requestedReleases_of_some {release : String} (h : node.release = some release) :
    requestedReleases (node :: nodes) = [release] ++ requestedReleases nodes :=
  List.filterMap_cons_some h

theorem awaitedNames_of_none (h : node.release = none) :
    awaitedNames (node :: nodes) = [] ++ awaitedNames nodes := by
  simp [awaitedNames, h]

theorem awaitedNames_of_some {release : String} (h : node.release = some release) :
    awaitedNames (node :: nodes) = [node.deploymentName] ++ awaitedNames nodes := by
  simp [awaitedNames, h]

end Cons

/-- The releases for which an uninstall was issued -/
def uninstalled (events : List HelmEvent) : List String :=
  events.filterMap fun
    | .uninstall release _ => some release
    | _ => none

@[simp] theorem uninstalled_append (events events' : List HelmEvent) :
    uninstalled (events ++ events') = uninstalled events ++ uninstalled events' :=
  List.filterMap_append

/-- From some look on the release is not listed any more. -/
def Gone (env : HelmEnv) (release : String) : Prop :=
  ∃ n, ∀ i, n ≤ i → ∀ d ∈ env.releases i, d.deploymentName ≠ release

/-- From look `i` on, each release in turn is once seen while it is uninstalled. -/
def SeenUninstalling (env : HelmEnv) : Nat → List UninstallNode → Prop
  | _, [] => True
  | i, node :: nodes =>
      match node.release with
      | none => SeenUninstalling env (i + 1) nodes
      | some release =>
          ∃ j, Waiting.First (fun j => showsUninstalling env.unicode release (env.releases j)) i j ∧
            SeenUninstalling env (j + 2) nodes

/-- What a run ought to come to: one uninstall for each release of the request and for no other,
    all of them and nothing else waited for, and at last the notification of the end. -/
structure Uninstalls (nodes : List UninstallNode) (run : HelmRun) : Prop where
  issued : ∀ release,
    (uninstalled run.events).count release = if release ∈ requestedReleases nodes then 1 else 0
  waits : ∀ name, name ∈ run.deploymentNames ↔ ∃ release ∈ uninstalled run.events,
    some release = name
  completed : ∃ notification, (notices run.events).getLast? = some notification ∧
    notification.status = "COMPLETED" ∧ notification.message = "Uninstall completed."

/-! ## The loop over the nodes -/

variable {env : HelmEnv} {nodes : List UninstallNode} {run run' : HelmRun}

/-- How far the looks, the names waited for and the uninstalls have come. -/
structure Reaches (run run' : HelmRun) (looks : Nat) (names : List (Option String))
    (releases : List String) : Prop where
  looks : run'.looks = looks
  names : run'.deploymentNames = run.deploymentNames ++ names
  issued : uninstalled run'.events = uninstalled run.events ++ releases

theorem Reaches.refl (run : HelmRun) : Reaches run run run.looks [] [] :=
  ⟨rfl, (List.append_nil _).symm, (List.append_nil _).symm⟩

theorem Reaches.trans {run'' : HelmRun} {looks looks' : Nat} {names names' : List (Option String)}
    {releases releases' : List String} (h : Reaches run run' looks names releases)
    (h' : Reaches run' run'' looks' names' releases') :
    Reaches run run'' looks' (names ++ names') (releases ++ releases') := by
  refine ⟨h'.looks, ?_, ?_⟩
  · rw [h'.names, h.names, List.append_assoc]
  · rw [h'.issued, h.issued, List.append_assoc]

theorem reaches_prepareUninstall (node : UninstallNode) (run : HelmRun) :
    Reaches run (prepareUninstall env node run) run.looks [node.deploymentName] [] := by
  rw [prepareUninstall]
  split
  · exact ⟨rfl, rfl, uninstalled_append ..⟩
  · exact ⟨rfl, rfl, (List.append_nil _).symm⟩

/-- A round without a release takes one look, for the notification. -/
theorem uninstallNode_of_none {node : UninstallNode} (h : node.release = none) :
    ∃ run', (uninstallNode env run node).Ends run' ∧ Reaches run run' (run.looks + 1) [] [] := by
  rw [uninstallNode, h]
  exact ⟨_, Waiting.ends_pure.mpr rfl, rfl, (List.append_nil _).symm, uninstalled_append ..⟩

section Release

variable (hqueue : ∀ i, env.delay i = none) {node : UninstallNode} {release : String}
  (h : node.release = some release)
include hqueue h

/-- A round with a release waits for the look that shows its uninstall. -/
theorem ends_uninstallNode :
    (uninstallNode env run node).Ends run' ↔
      ∃ j, Waiting.First (fun j => showsUninstalling env.unicode release (env.releases j))
        run.looks j ∧
          HelmRun.notify env
            { (prepareUninstall env node run).emit (.uninstall release node.hostname) with
              looks := j + 1 } "IN_PROGRESS" = run' := by
  have hlooks : ((prepareUninstall env node run).emit (.uninstall release node.hostname)).looks =
      run.looks :=
    (reaches_prepareUninstall node run).looks
  rw [uninstallNode, h]
  simp only [hqueue, Waiting.ends_bind, HelmRun.ends_await, Waiting.ends_pure, hlooks]
  constructor
  · rintro ⟨_, ⟨j, hj, rfl⟩, rfl⟩
    exact ⟨j, hj, rfl⟩
  · rintro ⟨j, hj, rfl⟩
    exact ⟨_, ⟨j, hj, rfl⟩, rfl⟩

/-- It has issued the uninstall then, and one more look was for the notification. -/
theorem reaches_of_uninstallNode (hends : (uninstallNode env run node).Ends run') :
    ∃ j, Waiting.First (fun j => showsUninstalling env.unicode release (env.releases j))
      run.looks j ∧ Reaches run run' (j + 2) [node.deploymentName] [release] := by
  obtain ⟨j, hj, rfl⟩ := (ends_uninstallNode hqueue h).mp hends
  have hprepare : Reaches run (prepareUninstall env node run) run.looks [node.deploymentName] [] :=
    reaches_prepareUninstall node run
  refine ⟨j, hj, rfl, ?_, ?_⟩
  · exact hprepare.names
  · simp only [HelmRun.notify, HelmRun.emit, uninstalled_append, hprepare.issued]
    simp [uninstalled]

end Release

/-- The loop has come to an end only if every release was seen. -/
theorem reaches_of_uninstalls (hqueue : ∀ i, env.delay i = none)
    (hends : (nodes.foldlM (uninstallNode env) run).Ends run') :
    SeenUninstalling env run.looks nodes ∧
      Reaches run run' run'.looks (awaitedNames nodes) (requestedReleases nodes) := by
  induction nodes generalizing run with
  | nil =>
      obtain rfl := Waiting.ends_foldlM_nil.mp hends
      exact ⟨trivial, Reaches.refl run⟩
  | cons node nodes ih =>
      obtain ⟨mid, hnode, hrest⟩ := Waiting.ends_foldlM_cons.mp hends
      obtain ⟨hseen, hreach⟩ := ih hrest
      rw [SeenUninstalling]
      cases h : node.release with
      | none =>
          obtain ⟨mid', hends', hmid⟩ := @uninstallNode_of_none env run node h
          obtain rfl := hnode.unique hends'
          rw [hmid.looks] at hseen
          refine ⟨hseen, ?_⟩
          rw [awaitedNames_of_none h, requestedReleases_of_none h]
          exact hmid.trans hreach
      | some release =>
          obtain ⟨j, hj, hmid⟩ := reaches_of_uninstallNode hqueue h hnode
          rw [hmid.looks] at hseen
          refine ⟨⟨j, hj, hseen⟩, ?_⟩
          rw [awaitedNames_of_some h, requestedReleases_of_some h]
          exact hmid.trans hreach

/-- And it comes to an end if they are. -/
theorem exists_ends_uninstalls (hqueue : ∀ i, env.delay i = none)
    (hseen : SeenUninstalling env run.looks nodes) :
    ∃ run', (nodes.foldlM (uninstallNode env) run).Ends run' := by
  induction nodes generalizing run with
  | nil => exact ⟨run, Waiting.ends_foldlM_nil.mpr rfl⟩
  | cons node nodes ih =>
      rw [SeenUninstalling] at hseen
      cases h : node.release with
      | none =>
          rw [h] at hseen
          obtain ⟨mid, hnode, hmid⟩ := @uninstallNode_of_none env run node h
          rw [← hmid.looks] at hseen
          obtain ⟨run', hrest⟩ := ih hseen
          exact ⟨run', Waiting.ends_foldlM_cons.mpr ⟨mid, hnode, hrest⟩⟩
      | some release =>
          rw [h] at hseen
          obtain ⟨j, hj, hseen⟩ := hseen
          obtain ⟨mid, hnode, hlooks⟩ :
              ∃ mid, (uninstallNode env run node).Ends mid ∧ mid.looks = j + 2 :=
            ⟨_, (ends_uninstallNode hqueue h).mpr ⟨j, hj, rfl⟩, rfl⟩
          rw [← hlooks] at hseen
          obtain ⟨run', hrest⟩ := ih hseen
          exact ⟨run', Waiting.ends_foldlM_cons.mpr ⟨mid, hnode, hrest⟩⟩

/-! ## The end of the job -/

theorem reaches_completeUninstall (env : HelmEnv) (fromHelmDeleteCtrl : Bool) (run : HelmRun) :
    Reaches run (completeUninstall env fromHelmDeleteCtrl run) (run.looks + 1) [] [] := by
  rw [completeUninstall]
  have hnotify : Reaches run ((run.setMessage "Uninstall completed.").notify env "COMPLETED")
      (run.looks + 1) [] [] :=
    ⟨rfl, (List.append_nil _).symm, uninstalled_append ..⟩
  split
  · exact hnotify.trans ⟨rfl, (List.append_nil _).symm, uninstalled_append ..⟩
  · exact hnotify

/-- The last notification is the one of the end. -/
theorem getLast?_notices_completeUninstall (fromHelmDeleteCtrl : Bool) (run : HelmRun) :
    ∃ notification,
      (notices (completeUninstall env fromHelmDeleteCtrl run).events).getLast? = some notification ∧
      notification.status = "COMPLETED" ∧ notification.message = "Uninstall completed." := by
  refine ⟨((run.setMessage "Uninstall completed.").notify env "COMPLETED").notification, ?_, rfl,
    rfl⟩
  rw [completeUninstall]
  split
  · simp [HelmRun.emit, HelmRun.notify, notices]
  · simp [HelmRun.notify, notices]

/-- The job ends exactly if the loop over the nodes does and then, at some look, none of the
    names waited for is listed. -/
theorem ends_deleteHelmApps {fromHelmDeleteCtrl : Bool} :
    (deleteHelmApps env nodes fromHelmDeleteCtrl).Ends run' ↔
      ∃ mid, (nodes.foldlM (uninstallNode env) (HelmRun.start env "Uninstalling")).Ends mid ∧
        ∃ j, Waiting.First (fun j => showsNone mid.deploymentNames (env.releases j)) mid.looks j ∧
          completeUninstall env fromHelmDeleteCtrl { mid with looks := j + 1 } = run' := by
  rw [deleteHelmApps, Waiting.ends_bind]
  simp only [Waiting.ends_bind, HelmRun.ends_await, Waiting.ends_pure]
  constructor
  · rintro ⟨mid, hmid, _, ⟨j, hj, rfl⟩, rfl⟩
    exact ⟨mid, hmid, j, hj, rfl⟩
  · rintro ⟨mid, hmid, j, hj, rfl⟩
    exact ⟨mid, hmid, _, ⟨j, hj, rfl⟩, rfl⟩

/-- What a job that has come to its end has waited for and uninstalled -/
theorem of_ends_deleteHelmApps (hqueue : ∀ i, env.delay i = none) {fromHelmDeleteCtrl : Bool}
    (hends : (deleteHelmApps env nodes fromHelmDeleteCtrl).Ends run') :
    SeenUninstalling env 0 nodes ∧ run'.deploymentNames = awaitedNames nodes ∧
      uninstalled run'.events = requestedReleases nodes := by
  obtain ⟨mid, hmid, j, -, rfl⟩ := ends_deleteHelmApps.mp hends
  obtain ⟨hseen, hreach⟩ := reaches_of_uninstalls hqueue hmid
  have hend := reaches_completeUninstall env fromHelmDeleteCtrl { mid with looks := j + 1 }
  refine ⟨hseen, ?_, ?_⟩
  · rw [hend.names, List.append_nil]
    exact hreach.names
  · rw [hend.issued, List.append_nil]
    exact hreach.issued

/-- If the releases waited for are gone at last, the job ends when all uninstalls were seen. -/
theorem exists_ends_deleteHelmApps (hqueue : ∀ i, env.delay i = none)
    (hgone : ∀ release, some release ∈ awaitedNames nodes → Gone env release)
    (hseen : SeenUninstalling env 0 nodes) (fromHelmDeleteCtrl : Bool) :
    ∃ run', (deleteHelmApps env nodes fromHelmDeleteCtrl).Ends run' := by
  obtain ⟨mid, hmid⟩ :
      ∃ mid, (nodes.foldlM (uninstallNode env) (HelmRun.start env "Uninstalling")).Ends mid :=
    exists_ends_uninstalls hqueue hseen
  have hnames : mid.deploymentNames = awaitedNames nodes :=
    (reaches_of_uninstalls hqueue hmid).2.names
  -- from some look on none of the names is listed
  have hnone : ∀ name ∈ awaitedNames nodes,
      ∃ n, ∀ i, n ≤ i → ∀ d ∈ env.releases i, some d.deploymentName ≠ name := by
    intro name hname
    cases name with
    | none => exact ⟨0, by simp⟩
    | some release =>
        obtain ⟨n, hn⟩ := hgone release hname
        exact ⟨n, fun i hi d hd heq => hn i hi d hd (Option.some.inj heq)⟩
  obtain ⟨n, hn⟩ := Waiting.exists_from_forall_mem hnone
  have hshows : showsNone mid.deploymentNames (env.releases (max n mid.looks)) = true := by
    simp only [showsNone, hnames, Bool.not_eq_true', List.any_eq_false, List.contains_iff_mem]
    intro d hd hmem
    exact hn _ (Nat.le_max_left ..) _ hmem d hd rfl
  obtain ⟨j, hj⟩ := Waiting.exists_first (p := fun i => showsNone mid.deploymentNames
    (env.releases i)) (Nat.le_max_right n mid.looks) hshows
  exact ⟨_, ends_deleteHelmApps.mpr ⟨mid, hmid, j, hj, rfl⟩⟩

/-- Once the uninstalls have succeeded, the job has issued one for each release of the request,
    has waited for all of them and no other, and has ended, exactly if no release is requested
    twice, the names of the request are those of the releases, and every uninstall was seen
    while it was under way. -/
theorem deleteHelmApps_right_iff (env : HelmEnv) (nodes : List UninstallNode)
    (fromHelmDeleteCtrl : Bool) (hqueue : ∀ i, env.delay i = none)
    (hgone : ∀ release ∈ requestedReleases nodes, Gone env release) :
    (∃ run, (deleteHelmApps env nodes fromHelmDeleteCtrl).Ends run ∧ Uninstalls nodes run) ↔
      (requestedReleases nodes).Nodup ∧
        (∀ name, name ∈ awaitedNames nodes ↔ ∃ release ∈ requestedReleases nodes,
          some release = name) ∧
        SeenUninstalling env 0 nodes := by
  constructor
  · rintro ⟨run, hends, hright⟩
    obtain ⟨hseen, hnames, hissued⟩ := of_ends_deleteHelmApps hqueue hends
    refine ⟨List.nodup_iff_count_le_one.mpr fun release => ?_, ?_, hseen⟩
    · have hcount := hright.issued release
      rw [hissued] at hcount
      rw [hcount]
      split <;> omega
    · have hwaits := hright.waits
      rw [hnames, hissued] at hwaits
      exact hwaits
  · rintro ⟨hnodup, hnames, hseen⟩
    have hgone' : ∀ release, some release ∈ awaitedNames nodes → Gone env release := by
      intro release hmem
      obtain ⟨release', hrelease, heq⟩ := (hnames _).mp hmem
      obtain rfl := Option.some.inj heq
      exact hgone release' hrelease
    obtain ⟨run, hends⟩ := exists_ends_deleteHelmApps hqueue hgone' hseen fromHelmDeleteCtrl
    obtain ⟨-, hawaited, hissued⟩ := of_ends_deleteHelmApps hqueue hends
    refine ⟨run, hends, ?_, ?_, ?_⟩
    · intro release
      rw [hissued]
      exact hnodup.count
    · rw [hawaited, hissued]
      exact hnames
    · obtain ⟨mid, -, j, -, rfl⟩ := ends_deleteHelmApps.mp hends
      exact getLast?_notices_completeUninstall ..

/-- Zeek is uninstalled from a sensor, and the first look comes in time. -/
def slowUninstall : HelmEnv where
  unicode := .ascii
  application := "zeek"
  look
    | 0 => ⟨[], [], some [⟨"sensor1-zeek", "4.0.1", "uninstalling"⟩]⟩
    | _ + 1 => ⟨[], [], some []⟩
  delay _ := none

/-- The same, where the release is gone before the first look. -/
def fastUninstall : HelmEnv := { slowUninstall with look := fun _ => ⟨[], [], some []⟩ }

def zeekNode : UninstallNode where
  hostname := some "sensor1"
  deploymentName := some "sensor1-zeek"
  oldDeploymentName := some "sensor1-zeek"

/-- The job sees the uninstall under way, and ends when the release is gone. -/
theorem deleteHelmApps_slowUninstall :
    ∃ run, (deleteHelmApps slowUninstall [zeekNode] true).Ends run ∧ Uninstalls [zeekNode] run := by
  have hgone : ∀ release ∈ requestedReleases [zeekNode], Gone slowUninstall release := by
    intro release _
    refine ⟨1, fun i hi d hd => ?_⟩
    obtain ⟨k, rfl⟩ := Nat.exists_eq_add_of_le' hi
    exact nomatch hd
  have hseen : SeenUninstalling slowUninstall 0 [zeekNode] :=
    ⟨0, ⟨Nat.le_refl 0, by decide, fun _ _ hk => absurd hk (Nat.not_lt_zero _)⟩, trivial⟩
  have hnames : ∀ name, name ∈ awaitedNames [zeekNode] ↔
      ∃ release ∈ requestedReleases [zeekNode], some release = name := by
    intro name
    rw [show awaitedNames [zeekNode] = [some "sensor1-zeek"] by decide,
      show requestedReleases [zeekNode] = ["sensor1-zeek"] by decide]
    simp [eq_comm]
  exact (deleteHelmApps_right_iff slowUninstall [zeekNode] true (fun _ => rfl) hgone).mpr
    ⟨by decide, hnames, hseen⟩

/-- The job waits for ever to see an uninstall that is over. -/
theorem deleteHelmApps_fastUninstall :
    ¬ ∀ (env : HelmEnv) (nodes : List UninstallNode) (fromHelmDeleteCtrl : Bool),
      (∀ i, env.delay i = none) →
        (∀ release ∈ requestedReleases nodes, Gone env release) →
          ∃ run, (deleteHelmApps env nodes fromHelmDeleteCtrl).Ends run ∧ Uninstalls nodes run := by
  intro h
  obtain ⟨run, hends, -⟩ := h fastUninstall [zeekNode] true (fun _ => rfl)
    fun release _ => ⟨0, fun i _ d hd => nomatch hd⟩
  obtain ⟨⟨j, hj, -⟩, -⟩ := of_ends_deleteHelmApps (fun _ => rfl) hends
  exact Bool.noConfusion hj.holds

end Tfplenum
