/-
  Tfplenum.Service.PodRestarts

  Which pod a synchronisation restarts.  The look-up of a pod by its host and its
  component stops at a pod of the host without labels: subscripting `None` raises a
  `TypeError`, which `KubernetesWrapper` swallows, so the pod counts as not installed.
  It also stops at the first pod with the label, whether or not that one still runs.
  Where the look-up comes to the running pod, it is deleted after the files are pushed
  and before the sensor is recorded as synced.
-/

import Tfplenum.Controller.SyncStates
import Tfplenum.Lib.History
import Tfplenum.Utils.ConnectionMngs

namespace Tfplenum

open Lib

/-! ## The pod of a component -/

/-- The pod was placed on the host, with the component among its labels. -/
def OfComponent (ipAddress component : String) (pod : V1Pod) : Prop :=
  pod.status.hostIp = some ipAddress ∧
    ∃ labels, pod.metadata.labels = some labels ∧ labels.lookup "component" = some component

/-- The pod is one of the component on the host, and runs. -/
def RunsComponent (ipAddress component : String) (pod : V1Pod) : Prop :=
  OfComponent ipAddress component pod ∧ pod.status.phase = some "Running"

/-- A cluster with these pods, whose requests are answered. -/
def answeringPods (pods : List V1Pod) : Handler KubeOp KubeOp.Res Unit
  | .loadKubeConfig, s => (.ok (), s)
  | .listPodForAllNamespaces _ _, s => (.ok pods, s)
  | _, s => (.error (.apiException 404), s)

/-- What `_get_pod_name` comes to in a cluster with these pods. -/
def podNameIn (pods : List V1Pod) (ipAddress component : String) : Except PyError String :=
  ((getPodName ipAddress component).run.run (answeringPods pods) ()).1

/-- The name of a running pod of the component on the host, or a `ValueError` if none runs. -/
structure PodNamed (ipAddress component : String) (pods : List V1Pod) : Prop where
  running : (∃ pod ∈ pods, RunsComponent ipAddress component pod) →
    ∃ pod ∈ pods, RunsComponent ipAddress component pod ∧
      podNameIn pods ipAddress component = .ok pod.metadata.name
  idle : (∀ pod ∈ pods, ¬ RunsComponent ipAddress component pod) →
    ∃ msg, podNameIn pods ipAddress component = .error (.valueError msg)

/-- The first pod of the component on the host, with no pod of the host without labels before
    it. -/
def ComesTo (ipAddress component : String) (pods : List V1Pod) (pod : V1Pod) : Prop :=
  ∃ before after, pods = before ++ pod :: after ∧ OfComponent ipAddress component pod ∧
    ∀ p ∈ before, ¬ OfComponent ipAddress component p ∧
      (p.status.hostIp = some ipAddress → p.metadata.labels.isSome = true)

/-- If a pod of the component runs on the host, then the component has a name, and the first pod
    with its label has the name of one that runs, and no pod of the host without labels before
    it; if none runs, every pod with its label has such a pod before it. -/
structure Findable (ipAddress component : String) (pods : List V1Pod) : Prop where
  running : (∃ pod ∈ pods, RunsComponent ipAddress component pod) → component ≠ "" ∧
    ∃ first, ComesTo ipAddress component pods first ∧
      ∃ pod ∈ pods, RunsComponent ipAddress component pod ∧ pod.metadata.name = first.metadata.name
  idle : (∀ pod ∈ pods, ¬ RunsComponent ipAddress component pod) → component = "" ∨
    ∀ before pod after, pods = before ++ pod :: after → OfComponent ipAddress component pod →
      ∃ p ∈ before, p.status.hostIp = some ipAddress ∧ p.metadata.labels = none

/-! ### The search -/

section Search

variable {ipAddress component : String} {pods : List V1Pod} {pod : V1Pod}

theorem hasComponent_of_none (component : String) (h : pod.metadata.labels = none) :
    ∃ e, hasComponent component pod = .error e := by
  rw [hasComponent, h]
  exact ⟨_, rfl⟩

theorem hasComponent_of_some {labels : Dict} (h : pod.metadata.labels = some labels) :
    hasComponent component pod =
      .ok (decide (component ≠ "" ∧ labels.lookup "component" = some component)) := by
  rw [hasComponent, h, dictItem]
  cases hvalue : labels.lookup "component" with
  | none => simp
  | some value =>
      by_cases heq : component = value
      · subst heq
        simp
      · have hne : ¬ value = component := fun h => heq h.symm
        simp [heq, hne]

/-- One round of the search. -/
theorem findPod_cons (pod : V1Pod) (pods : List V1Pod) :
    findPod ipAddress component (pod :: pods) =
      if pod.status.hostIp = some ipAddress then
        match hasComponent component pod with
        | .error e => .error e
        | .ok true => .ok (some pod.metadata.name)
        | .ok false => findPod ipAddress component pods
      else findPod ipAddress component pods := by
  rw [findPod]
  split_ifs
  · rcases hasComponent component pod with e | b
    · rfl
    · cases b <;> rfl
  · rfl

/-- The first element with a property, past elements with another: it is the head, or the head
    is passed by. -/
theorem exists_first_cons_iff {α : Type} {P Q : α → Prop} {a : α} {as : List α} :
    (∃ before x after, a :: as = before ++ x :: after ∧ P x ∧ ∀ y ∈ before, Q y) ↔
      P a ∨ Q a ∧ ∃ before x after, as = before ++ x :: after ∧ P x ∧ ∀ y ∈ before, Q y := by
  constructor
  · rintro ⟨before, x, after, heq, hx, hbefore⟩
    cases before with
    | nil =>
        cases heq
        exact .inl hx
    | cons y before =>
        cases heq
        rw [List.forall_mem_cons] at hbefore
        exact .inr ⟨hbefore.1, before, x, after, rfl, hx, hbefore.2⟩
  · rintro (ha | ⟨ha, before, x, after, rfl, hx, hbefore⟩)
    · exact ⟨[], a, as, rfl, ha, List.forall_mem_nil _⟩
    · exact ⟨a :: before, x, after, rfl, hx, List.forall_mem_cons.mpr ⟨ha, hbefore⟩⟩

/-- The search comes to the first pod of the component, past pods that do not stop it. -/
theorem findPod_eq_some_iff {name : String} :
    findPod ipAddress component pods = .ok (some name) ↔
      component ≠ "" ∧ ∃ before pod after, pods = before ++ pod :: after ∧
        (OfComponent ipAddress component pod ∧ pod.metadata.name = name) ∧ ∀ p ∈ before,
          ¬ OfComponent ipAddress component p ∧
            (p.status.hostIp = some ipAddress → p.metadata.labels.isSome = true) := by
  induction pods with
  | nil => simp [findPod]
  | cons pod pods ih =>
      rw [exists_first_cons_iff, findPod_cons]
      split_ifs with hhost
      · cases hlabels : pod.metadata.labels with
        | none =>
            -- the exception
            obtain ⟨e, he⟩ := hasComponent_of_none component hlabels
            rw [he]
            refine iff_of_false (fun h => by cases h) ?_
            rintro ⟨-, ⟨⟨-, labels, hruns, -⟩, -⟩ | ⟨⟨-, hpassed⟩, -⟩⟩
            · rw [hlabels] at hruns
              cases hruns
            · cases hpassed hhost
        | some labels =>
            have hruns : OfComponent ipAddress component pod ↔
                labels.lookup "component" = some component := by
              rw [OfComponent, hlabels]
              simp [hhost]
            rw [hasComponent_of_some hlabels]
            by_cases hfound : component ≠ "" ∧ labels.lookup "component" = some component
            · rw [decide_eq_true hfound]
              dsimp only
              rw [Except.ok.injEq, Option.some.injEq, and_iff_right hfound.1]
              simp [hruns.mpr hfound.2]
            · -- the component is another, or has no name
              rw [decide_eq_false hfound]
              dsimp only
              rw [ih]
              refine and_congr_right fun hnamed => ?_
              have hnot : ¬ OfComponent ipAddress component pod :=
                fun h => hfound ⟨hnamed, hruns.mp h⟩
              simp [hnot]
      · have hnot : ¬ OfComponent ipAddress component pod := fun h => hhost h.1
        rw [ih]
        simp [hnot, hhost]

/-- What the wrapper makes of the search: an exception of it counts as none found. -/
theorem podNameIn_eq (pods : List V1Pod) (ipAddress component : String) :
    podNameIn pods ipAddress component = match findPod ipAddress component pods with
      | .ok (some name) => .ok name
      | _ => .error (.valueError s!"Failed to find {component} pod name.") := by
  have henter : loadKubeConfig.run (answeringPods pods) () = (.ok (), ()) := rfl
  have hblock : (getPodName ipAddress component).statement.block.run (answeringPods pods) () =
      match findPod ipAddress component pods with
      | .error e => (.error (e, ()), ())
      | .ok (some name) => (.ok (.returning name), ())
      | .ok none => (.ok (.through ()), ()) := by
    show (withLocals () ((Program.ofExcept (findPod ipAddress component pods)).bind _)).run
      (answeringPods pods) () = _
    rcases findPod ipAddress component pods with e | _ | name <;> rfl
  rw [podNameIn, KubernetesFunction.run]
  -- the block raises, falls through or returns
  rcases hfind : findPod ipAddress component pods with e | _ | name
  · rw [hfind] at hblock
    have hraise : (getPodName ipAddress component).statement.BlockRaises (answeringPods pods) ()
        e () () := ⟨(), henter, hblock⟩
    exact congrArg Prod.fst hraise.run_result
  · rw [hfind] at hblock
    exact congrArg Prod.fst (WithStatement.run_result_of_block henter hblock)
  · rw [hfind] at hblock
    exact congrArg Prod.fst (WithStatement.run_result_of_block henter hblock)

/-- The search ends at the pod it comes to. -/
theorem podNameIn_eq_ok_iff {name : String} :
    podNameIn pods ipAddress component = .ok name ↔ component ≠ "" ∧
      ∃ first, ComesTo ipAddress component pods first ∧ first.metadata.name = name := by
  have hfind : podNameIn pods ipAddress component = .ok name ↔
      findPod ipAddress component pods = .ok (some name) := by
    rw [podNameIn_eq]
    rcases findPod ipAddress component pods with e | _ | name' <;> simp
  rw [hfind, findPod_eq_some_iff]
  refine and_congr_right fun _ => ?_
  constructor
  · rintro ⟨before, pod, after, heq, ⟨hpod, hname⟩, hbefore⟩
    exact ⟨pod, ⟨before, after, heq, hpod, hbefore⟩, hname⟩
  · rintro ⟨pod, ⟨before, after, heq, hpod, hbefore⟩, hname⟩
    exact ⟨before, pod, after, heq, ⟨hpod, hname⟩, hbefore⟩

/-- A search that comes to no pod ends in a `ValueError`. -/
theorem podNameIn_error_iff :
    (∃ msg, podNameIn pods ipAddress component = .error (.valueError msg)) ↔
    component = "" ∨ ∀ first, ¬ ComesTo ipAddress component pods first := by
  have hok : (∃ msg, podNameIn pods ipAddress component = .error (.valueError msg)) ↔
      ¬ ∃ name, podNameIn pods ipAddress component = .ok name := by
    rw [podNameIn_eq]
    rcases findPod ipAddress component pods with e | _ | name <;> simp
  rw [hok]
  simp only [podNameIn_eq_ok_iff]
  constructor
  · intro hnone
    by_cases hname : component = ""
    · exact .inl hname
    · exact .inr fun first hfirst => hnone ⟨_, hname, first, hfirst, rfl⟩
  · rintro (hname | hnone) ⟨name, hcomponent, first, hfirst, -⟩
    · exact hcomponent hname
    · exact hnone first hfirst

/-- A pod of the component is come to, unless a pod of the host without labels is before it. -/
theorem forall_not_comesTo_iff : (∀ first, ¬ ComesTo ipAddress component pods first) ↔
    ∀ before pod after, pods = before ++ pod :: after → OfComponent ipAddress component pod →
      ∃ p ∈ before, p.status.hostIp = some ipAddress ∧ p.metadata.labels = none := by
  classical
  constructor
  · rintro hnone before pod after rfl hpod
    by_contra hlabelled
    -- the first pod of the component, which is this one or comes before it
    have hsome : ((before ++ pod :: after).find? fun p =>
        OfComponent ipAddress component p).isSome = true :=
      List.find?_isSome.mpr ⟨pod, by simp, decide_eq_true hpod⟩
    obtain ⟨first, hfirst⟩ := Option.isSome_iff_exists.mp hsome
    obtain ⟨hof, before', after', heq, hbefore'⟩ := List.find?_eq_some_iff_append.mp hfirst
    have hnot : ∀ p ∈ before', ¬ OfComponent ipAddress component p := by simpa using hbefore'
    have hsub : ∀ p ∈ before', p ∈ before := by
      intro p hp
      rcases List.append_eq_append_iff.mp heq with ⟨c, hc, hrest⟩ | ⟨c, hc, -⟩
      · -- the pod itself would be before the first
        cases c with
        | nil =>
            rw [List.append_nil] at hc
            rwa [← hc]
        | cons q c =>
            cases hrest
            exact absurd hpod (hnot pod (by simp [hc]))
      · exact hc ▸ List.mem_append_left c hp
    refine hnone first ⟨before', after', heq, of_decide_eq_true hof, fun p hp => ⟨hnot p hp, ?_⟩⟩
    intro hhost
    by_contra hlabels
    exact hlabelled ⟨p, hsub p hp, hhost, Option.not_isSome_iff_eq_none.mp hlabels⟩
  · rintro hall first ⟨before, after, heq, hfirst, hbefore⟩
    obtain ⟨p, hp, hhost, hlabels⟩ := hall before first after heq hfirst
    have hsome := (hbefore p hp).2 hhost
    rw [hlabels] at hsome
    cases hsome

/-- The look-up names a running pod of the component exactly if it comes to one. -/
theorem podNamed_iff (ipAddress component : String) (pods : List V1Pod) :
    PodNamed ipAddress component pods ↔ Findable ipAddress component pods := by
  have hidle : (∃ msg, podNameIn pods ipAddress component = .error (.valueError msg)) ↔
      component = "" ∨ ∀ before pod after, pods = before ++ pod :: after →
        OfComponent ipAddress component pod →
          ∃ p ∈ before, p.status.hostIp = some ipAddress ∧ p.metadata.labels = none := by
    rw [podNameIn_error_iff, forall_not_comesTo_iff]
  constructor
  · rintro ⟨hrunning, hnone⟩
    refine ⟨fun hruns => ?_, fun hstill => hidle.mp (hnone hstill)⟩
    obtain ⟨pod, hmem, hpod, hname⟩ := hrunning hruns
    obtain ⟨hcomponent, first, hfirst, hsame⟩ := podNameIn_eq_ok_iff.mp hname
    exact ⟨hcomponent, first, hfirst, pod, hmem, hpod, hsame.symm⟩
  · rintro ⟨hrunning, hnone⟩
    refine ⟨fun hruns => ?_, fun hstill => hidle.mpr (hnone hstill)⟩
    obtain ⟨hcomponent, first, hfirst, pod, hmem, hpod, hsame⟩ := hrunning hruns
    exact ⟨pod, hmem, hpod, podNameIn_eq_ok_iff.mpr ⟨hcomponent, first, hfirst, hsame.symm⟩⟩

end Search

/-! ## Restarts -/

/-- The sensor is recorded as synced in a rule set. -/
def RecordsSynced (hostname : String) (e : Deed Op.Res) : Prop :=
  ∃ id r, e = ⟨.db (.updateOne .ruleset id (RuleSetDoc.pushState ⟨hostname, .synced⟩)), r⟩

/-- A file with what was built is put on the sensor. -/
def Puts (ipAddress location : String) (e : Deed Op.Res) : Prop :=
  ∃ content, e = ⟨.external (.fabricPut ipAddress content location), .ok ()⟩

/-- The archive of the scripts is put on the sensor. -/
def PutsScripts (ipAddress : String) (e : Deed Op.Res) : Prop :=
  e = ⟨.external (.fabricPutFile ipAddress zeekScriptsZip zeekScriptsZip), .ok ()⟩

/-- The pod is deleted. -/
def DeletesPod (ipAddress podName : String) (e : Deed Op.Res) : Prop :=
  e = ⟨.external (.fabricRun ipAddress ("kubectl delete pod " ++ podName)), .ok 0⟩

/-- Each of the files has been put on the sensor. -/
def Pushed (pushes : List (Deed Op.Res → Prop)) (l : List (Deed Op.Res)) : Prop :=
  ∀ push ∈ pushes, ∃ e ∈ l, push e

/-- The pod has been deleted after the files had been put on the sensor. -/
def Restarted (pushes : List (Deed Op.Res → Prop)) (ipAddress podName : String)
    (l : List (Deed Op.Res)) : Prop :=
  ∃ before e after, l = before ++ e :: after ∧ DeletesPod ipAddress podName e ∧ Pushed pushes before

/-- In the run the sensor is recorded as synced only after the pod was restarted, and the pod
    is restarted unless the run raises. -/
def RestartsFirst (env : Environment) (w : World) (p : Prog Unit)
    (pushes : List (Deed Op.Res → Prop)) (ipAddress hostname podName : String) : Prop :=
  Each (RecordsSynced hostname) (Restarted pushes ipAddress podName) (p.history (handle env) w) ∧
    (Ends env p w = true → Restarted pushes ipAddress podName (p.history (handle env) w))

/-- What is put on the sensor for each application. -/
def suricataPushes (ipAddress : String) : List (Deed Op.Res → Prop) :=
  [Puts ipAddress suricataRulesetLoc]

def zeekPushes (ipAddress : String) : List (Deed Op.Res → Prop) :=
  [PutsScripts ipAddress, Puts ipAddress zeekIntelPath, Puts ipAddress zeekSigPath]

/-- The synchronisation restarts every pod of the component that runs on the sensor in a cluster
    with these pods. -/
def SyncRestarts (sync : String → String → Prog Unit)
    (pushes : String → List (Deed Op.Res → Prop)) (ipAddress component : String)
    (pods : List V1Pod) : Prop :=
  ∀ (env : Environment) (w : World) (hostname : String),
    env (.podName ipAddress component) w.calls = podNameIn pods ipAddress component →
    ∀ pod ∈ pods, RunsComponent ipAddress component pod →
      RestartsFirst env w (sync ipAddress hostname) (pushes ipAddress) ipAddress hostname
        pod.metadata.name

/-- The pod that runs on the sensor is found, and restarted by the application it is of. -/
structure RunningRestarted (ipAddress component : String) (pods : List V1Pod) : Prop where
  named : PodNamed ipAddress component pods
  suricata : component = "suricata" →
    SyncRestarts syncSuricataRulesets suricataPushes ipAddress component pods
  zeek : component = "zeek" → SyncRestarts syncZeekItems zeekPushes ipAddress component pods

/-- The pods of Suricata, and of Zeek, that run on the host have one name. -/
def Alone (ipAddress component : String) (pods : List V1Pod) : Prop :=
  component = "suricata" ∨ component = "zeek" → ∀ p ∈ pods, ∀ q ∈ pods,
    RunsComponent ipAddress component p → RunsComponent ipAddress component q →
      p.metadata.name = q.metadata.name

section Restart

variable {env : Environment} {w : World} {ipAddress hostname podName : String}
variable {pushes : List (Deed Op.Res → Prop)}

theorem lasting_restarted : Lasting (Restarted pushes ipAddress podName) := by
  rintro l e ⟨before, deleted, after, rfl, hdeleted, hpushed⟩
  exact ⟨before, deleted, after ++ [e], by simp, hdeleted, hpushed⟩

/-- No part that only reads records anything. -/
theorem not_recordsSynced_of_readsOnly {α : Type} {p : Prog α} (hp : p.Uses Op.readsOnly) :
    p.Uses fun op => ∀ r, ¬ RecordsSynced hostname ⟨op, r⟩ := by
  refine hp.mono fun op hop r => ?_
  rintro ⟨id, r', heq⟩
  cases heq
  cases hop

/-- A part that only reads, before anything is recorded. -/
theorem free_of_readsOnly {α : Type} {p : Prog α} (hp : p.Uses Op.readsOnly)
    {R : List (Deed Op.Res) → Prop} (hR : Lasting R) :
    Triple (logged (handle env)) (fun t => Free (RecordsSynced hostname) t.2 ∧ R t.2) p
      (fun _ t => Free (RecordsSynced hostname) t.2 ∧ R t.2)
      fun _ t => Free (RecordsSynced hostname) t.2 :=
  (Triple.free (not_recordsSynced_of_readsOnly hp) hR).conseq (fun _ h => h) (fun _ _ h => h)
    fun _ _ h => h.1

/-- What an exception leaves, it leaves when it is raised anew. -/
theorem triple_raiseAnew {α : Type} {p : Prog α} {P E : World × List (Deed Op.Res) → Prop}
    {Q : α → World × List (Deed Op.Res) → Prop}
    (hp : Triple (logged (handle env)) P p Q fun _ => E) :
    Triple (logged (handle env)) P (Program.tryExcept p raiseAnew) Q fun _ => E := by
  refine Triple.tryExcept hp fun e => ?_
  cases e <;> exact Triple.raise fun _ h => h

/-- A call of the outside records nothing; the rest goes on after it. -/
theorem free_call {α : Type} {c : External} {k : c.Answer → Prog α}
    {R : List (Deed Op.Res) → Prop} {Q : α → World × List (Deed Op.Res) → Prop}
    {E : PyError → World × List (Deed Op.Res) → Prop}
    (hk : ∀ r, Triple (logged (handle env)) (fun t => Free (RecordsSynced hostname) t.2 ∧
      ∃ l, R l ∧ t.2 = l ++ [⟨.external c, r⟩]) (k r) Q E) :
    Triple (logged (handle env)) (fun t => Free (RecordsSynced hostname) t.2 ∧ R t.2)
      (.call (.external c) k) Q E := by
  refine Triple.logged_call (P := fun l => Free (RecordsSynced hostname) l ∧ R l) fun r => ?_
  refine (hk r).pre ?_
  rintro t ⟨l, hl, hfree, hR⟩
  have hno : ¬ RecordsSynced hostname ⟨.external c, r⟩ := by
    rintro ⟨id, r', heq⟩
    cases heq
  refine ⟨?_, l, hR, hl⟩
  rw [hl]
  exact hfree.append hno

/-- Putting a file on the sensor. -/
theorem free_fabricPut (content location : String) {R : List (Deed Op.Res) → Prop}
    (hR : Lasting R) :
    Triple (logged (handle env)) (fun t => Free (RecordsSynced hostname) t.2 ∧ R t.2)
      (Prog.orRaise (Prog.ask (.fabricPut ipAddress content location)))
      (fun _ t => Free (RecordsSynced hostname) t.2 ∧ R t.2 ∧ ∃ e ∈ t.2, Puts ipAddress location e)
      fun _ t => Free (RecordsSynced hostname) t.2 := by
  refine free_call fun r => ?_
  cases r with
  | error e => exact Triple.raise fun t ht => ht.1
  | ok u =>
      refine Triple.done ?_
      rintro t ⟨hfree, l, hl, heq⟩
      refine ⟨hfree, ?_⟩
      rw [heq]
      exact ⟨hR _ _ hl, _, List.mem_append_right _ (List.mem_singleton_self _), content, rfl⟩

/-- Putting the archive of the scripts there. -/
theorem free_fabricPutFile :
    Triple (logged (handle env)) (fun t => Free (RecordsSynced hostname) t.2 ∧ True)
      (Prog.orRaise (Prog.ask (.fabricPutFile ipAddress zeekScriptsZip zeekScriptsZip)))
      (fun _ t => Free (RecordsSynced hostname) t.2 ∧ ∃ e ∈ t.2, PutsScripts ipAddress e)
      fun _ t => Free (RecordsSynced hostname) t.2 := by
  refine free_call (R := fun _ => True) fun r => ?_
  cases r with
  | error e => exact Triple.raise fun t ht => ht.1
  | ok u =>
      refine Triple.done ?_
      rintro t ⟨hfree, l, -, heq⟩
      refine ⟨hfree, ?_⟩
      rw [heq]
      exact ⟨_, List.mem_append_right _ (List.mem_singleton_self _), rfl⟩

/-- Deleting the pod; the command has to return 0. -/
theorem deletes_runCmdOrRaise :
    Triple (logged (handle env))
      (fun t => Free (RecordsSynced hostname) t.2 ∧ Pushed pushes t.2)
      (runCmdOrRaise ipAddress ("kubectl delete pod " ++ podName))
      (fun _ t => Free (RecordsSynced hostname) t.2 ∧ Restarted pushes ipAddress podName t.2)
      fun _ t => Free (RecordsSynced hostname) t.2 := by
  refine free_call fun r => ?_
  cases r with
  | error e => exact Triple.raise fun t ht => ht.1
  | ok returnCode =>
      refine Triple.when (fun _ => Triple.raise fun t ht => ht.1) fun hzero => ?_
      rintro t ⟨hfree, l, hpushed, heq⟩
      rw [not_not.mp hzero] at heq
      exact ⟨hfree, l, _, [], heq, rfl, hpushed⟩

/-- The scripts are put on the sensor, whatever has to be cleaned up after. -/
theorem free_fabricPutZeekScripts :
    Triple (logged (handle env)) (fun t => Free (RecordsSynced hostname) t.2 ∧ True)
      (fabricPutZeekScripts ipAddress)
      (fun _ t => Free (RecordsSynced hostname) t.2 ∧ ∃ e ∈ t.2, PutsScripts ipAddress e)
      fun _ t => Free (RecordsSynced hostname) t.2 := by
  have hput : Lasting fun l => ∃ e ∈ l, PutsScripts ipAddress e := lasting_exists_mem _
  have htrue : Lasting fun _ : List (Deed Op.Res) => True := fun _ _ h => h
  have hcleanup : Program.Uses Op.readsOnly ((unzipZeekScripts ipAddress).bind fun _ =>
      Prog.orRaise (Prog.ask (.unlink zeekScriptsZip))) :=
    (readsOnly_unzipZeekScripts _).bind fun _ => Prog.uses_orRaise (Prog.readsOnly_ask _)
  refine (free_of_readsOnly (readsOnly_buildZeekScriptsFile _) htrue).bind fun _ => ?_
  refine Triple.tryFinally (triple_raiseAnew ?_) (fun _ => free_of_readsOnly hcleanup hput)
    fun _ => (free_of_readsOnly hcleanup htrue).conseq (fun _ h => ⟨h, trivial⟩)
      (fun _ _ h => h.1) fun _ _ h => h
  refine (free_of_readsOnly (readsOnly_runCmdOrRaise _ _) htrue).bind fun _ => ?_
  refine (free_of_readsOnly (Prog.uses_orRaise (Prog.readsOnly_ask _)) htrue).bind fun _ => ?_
  refine free_fabricPutFile.bind fun _ => ?_
  exact free_of_readsOnly (readsOnly_runCmdOrRaise _ _) hput

/-- A part in which nothing is recorded, before the rest. -/
theorem each_bind {α : Type} {p : Prog α} {f : α → Prog Unit}
    {P : World × List (Deed Op.Res) → Prop}
    {Q : α → World × List (Deed Op.Res) → Prop} {R : Unit → World × List (Deed Op.Res) → Prop}
    {placed : List (Deed Op.Res) → Prop}
    (hp : Triple (logged (handle env)) P p Q fun _ t => Free (RecordsSynced hostname) t.2)
    (hf : ∀ a, Triple (logged (handle env)) (Q a) (f a) R
      fun _ t => Each (RecordsSynced hostname) placed t.2) :
    Triple (logged (handle env)) P (p.bind f) R
      fun _ t => Each (RecordsSynced hostname) placed t.2 :=
  (hp.conseq (fun _ h => h) (fun _ _ h => h) fun _ _ h => h.each).bind hf

/-- Once the files are put on the sensor, the pod is restarted before anything is recorded. -/
theorem each_restartPod (setSynced : Prog Unit) :
    Triple (logged (handle env))
      (fun t => Free (RecordsSynced hostname) t.2 ∧ Pushed pushes t.2)
      (restartPod ipAddress (some podName) setSynced)
      (fun _ t => Each (RecordsSynced hostname) (Restarted pushes ipAddress podName) t.2 ∧
        Restarted pushes ipAddress podName t.2)
      fun _ t => Each (RecordsSynced hostname) (Restarted pushes ipAddress podName) t.2 := by
  refine triple_raiseAnew (each_bind deletes_runCmdOrRaise fun _ => ?_)
  exact (Triple.each lasting_restarted).conseq (fun _ h => ⟨h.1.each, h.2⟩) (fun _ _ h => h)
    fun _ _ h => h.1

/-- What holds of the rest, once the pod is named, holds of the run. -/
theorem restartsFirst_withPodName {component : String} {body : Option String → Prog Unit}
    (hname : env (.podName ipAddress component) w.calls = .ok podName)
    (hbody : Triple (logged (handle env)) (fun t => Free (RecordsSynced hostname) t.2 ∧ True)
      (body (some podName))
      (fun _ t => Each (RecordsSynced hostname) (Restarted pushes ipAddress podName) t.2 ∧
        Restarted pushes ipAddress podName t.2)
      fun _ t => Each (RecordsSynced hostname) (Restarted pushes ipAddress podName) t.2) :
    RestartsFirst env w (withPodName ipAddress component body) pushes ipAddress hostname
      podName := by
  have hrun : Triple (logged (handle env)) (fun t => t = (w, []))
      (withPodName ipAddress component body)
      (fun _ t => Each (RecordsSynced hostname) (Restarted pushes ipAddress podName) t.2 ∧
        Restarted pushes ipAddress podName t.2)
      fun _ t => Each (RecordsSynced hostname) (Restarted pushes ipAddress podName) t.2 := by
    refine Triple.call ?_
    rintro _ rfl
    have hanswer : (logged (handle env) (.external (.podName ipAddress component)) (w, [])).1 =
        .ok podName := hname
    rw [hanswer]
    refine hbody.pre ?_
    rintro _ rfl
    refine ⟨fun e he => ?_, trivial⟩
    rw [List.mem_singleton.mp he]
    rintro ⟨id, r, heq⟩
    cases heq
  have hends : ((withPodName ipAddress component body).run (logged (handle env)) (w, [])).1 =
      ((withPodName ipAddress component body).run (handle env) w).1 :=
    congrArg Prod.fst (run_logged _ _ _ _)
  have hpost := hrun.apply _ rfl
  unfold RestartsFirst Program.history Ends
  generalize (withPodName ipAddress component body).run (logged (handle env)) (w, []) = out
    at hends hpost ⊢
  generalize (withPodName ipAddress component body).run (handle env) w = out' at hends ⊢
  rcases out with ⟨e | u, t⟩
  · rcases out' with ⟨_, t'⟩
    cases hends
    exact ⟨hpost, fun h => by cases h⟩
  · exact ⟨hpost.1, fun _ => hpost.2⟩

theorem restartsFirst_syncSuricataRulesets
    (hname : env (.podName ipAddress "suricata") w.calls = .ok podName) :
    RestartsFirst env w (syncSuricataRulesets ipAddress hostname) (suricataPushes ipAddress)
      ipAddress hostname podName := by
  refine restartsFirst_withPodName hname ?_
  have htrue : Lasting fun _ : List (Deed Op.Res) => True := fun _ _ h => h
  refine each_bind (free_of_readsOnly (readsOnly_buildRulesFile _ _) htrue) fun content => ?_
  refine each_bind (free_fabricPut content suricataRulesetLoc htrue) fun _ => ?_
  refine (each_restartPod _).pre fun t ht => ⟨ht.1, ?_⟩
  exact List.forall_mem_singleton.mpr ht.2.2

theorem restartsFirst_syncZeekItems
    (hname : env (.podName ipAddress "zeek") w.calls = .ok podName) :
    RestartsFirst env w (syncZeekItems ipAddress hostname) (zeekPushes ipAddress)
      ipAddress hostname podName := by
  refine restartsFirst_withPodName hname ?_
  have hscripts : Lasting fun l => ∃ e ∈ l, PutsScripts ipAddress e := lasting_exists_mem _
  have hintel : Lasting fun l => (∃ e ∈ l, PutsScripts ipAddress e) ∧
      ∃ e ∈ l, Puts ipAddress zeekIntelPath e := hscripts.and (lasting_exists_mem _)
  refine each_bind free_fabricPutZeekScripts fun _ => ?_
  refine each_bind (free_of_readsOnly (readsOnly_buildRulesFile _ _) hscripts) fun intel => ?_
  refine each_bind (free_fabricPut intel zeekIntelPath hscripts) fun _ => ?_
  refine each_bind (free_of_readsOnly (readsOnly_buildRulesFile _ _) hintel) fun sigs => ?_
  refine each_bind (free_fabricPut sigs zeekSigPath hintel) fun _ => ?_
  refine (each_restartPod _).pre fun t ht => ⟨ht.1, ?_⟩
  refine List.forall_mem_cons.mpr ⟨ht.2.1.1, List.forall_mem_cons.mpr ⟨ht.2.1.2, ?_⟩⟩
  exact List.forall_mem_singleton.mpr ht.2.2

/-- A synchronisation that restarts the pod it is given restarts the one that runs. -/
theorem syncRestarts_of_podNamed {sync : String → String → Prog Unit}
    {pushes : String → List (Deed Op.Res → Prop)} {component : String} {pods : List V1Pod}
    (hnamed : PodNamed ipAddress component pods)
    (halone : ∀ p ∈ pods, ∀ q ∈ pods, RunsComponent ipAddress component p →
      RunsComponent ipAddress component q → p.metadata.name = q.metadata.name)
    (hsync : ∀ (env : Environment) (w : World) (hostname podName : String),
      env (.podName ipAddress component) w.calls = .ok podName →
      RestartsFirst env w (sync ipAddress hostname) (pushes ipAddress) ipAddress hostname podName) :
    SyncRestarts sync pushes ipAddress component pods := by
  intro env w hostname hanswer pod hmem hpod
  obtain ⟨found, hfound, hruns, hname⟩ := hnamed.running ⟨pod, hmem, hpod⟩
  rw [halone pod hmem found hfound hpod hruns]
  rw [hname] at hanswer
  exact hsync env w hostname _ hanswer

/-! ### No other pod is restarted -/

/-- An environment that finds a pod of this name, and in which everything succeeds. -/
def findingEnv (podName : String) : Environment := fun call n =>
  match call with
  | .podName _ _ => .ok podName
  | call => steadyEnv call n

def noRuleSets : World := ⟨fun _ => Table.empty, 0⟩

/-- The command an operation runs on a host. -/
def Op.command : Op → Option String
  | .external (.fabricRun _ cmd) => some cmd
  | _ => none

/-- The commands that are run, if a pod of this name is found and there are no rule sets. -/
def commandsOf (podName : String) (p : Prog Unit) : List String :=
  (p.history (handle (findingEnv podName)) noRuleSets).filterMap fun e => e.1.command

/-- Deleting the pod is among the commands of a run that restarts it. -/
theorem Restarted.mem_commandsOf {podName' : String} {p : Prog Unit}
    (h : Restarted pushes ipAddress podName' (p.history (handle (findingEnv podName)) noRuleSets)) :
    "kubectl delete pod " ++ podName' ∈ commandsOf podName p := by
  obtain ⟨before, _, after, heq, rfl, -⟩ := h
  rw [commandsOf, heq]
  exact List.mem_filterMap.mpr ⟨_, List.mem_append_right _ (List.mem_cons_self ..), rfl⟩

/-- A command with another beginning deletes no pod. -/
theorem delete_ne {podName' cmd : String} (hcmd : cmd.toList.head? ≠ some 'k') :
    "kubectl delete pod " ++ podName' ≠ cmd := by
  rintro rfl
  rw [String.toList_append] at hcmd
  exact hcmd rfl

theorem delete_inj {podName' : String}
    (h : "kubectl delete pod " ++ podName' = "kubectl delete pod " ++ podName) :
    podName' = podName := by
  have hcmd := congrArg String.toList h
  rwa [String.toList_append, String.toList_append, List.append_right_inj, String.toList_inj] at hcmd

/-- Asking for the name comes first. -/
theorem history_withPodName {component : String} {body : Option String → Prog Unit}
    (hname : env (.podName ipAddress component) w.calls = .ok podName) :
    (withPodName ipAddress component body).history (handle env) w =
      ⟨.external (.podName ipAddress component), .ok podName⟩ ::
        (body (some podName)).history (handle env) ⟨w.db, w.calls + 1⟩ := by
  have hanswer : handle env (.external (.podName ipAddress component)) w =
      (.ok podName, ⟨w.db, w.calls + 1⟩) := Prod.ext hname rfl
  rw [withPodName, Prog.ask]
  show (Program.call (Op.external (.podName ipAddress component)) _).history _ _ = _
  rw [history_call, hanswer]
  rfl

/-- Putting the scripts on the sensor, if there are none. -/
theorem run_fabricPutZeekScripts : (fabricPutZeekScripts ipAddress).run
    (handle (findingEnv podName)) ⟨noRuleSets.db, 1⟩ = (.ok (), ⟨noRuleSets.db, 12⟩) := rfl

theorem eq_of_mem_commandsOf_suricata {podName' : String}
    (h : "kubectl delete pod " ++ podName' ∈
      commandsOf podName (syncSuricataRulesets ipAddress hostname)) : podName' = podName := by
  have hcommands : commandsOf podName (syncSuricataRulesets ipAddress hostname) =
      ["kubectl delete pod " ++ podName] := rfl
  rw [hcommands, List.mem_singleton] at h
  exact delete_inj h

theorem eq_of_mem_commandsOf_zeek {podName' : String}
    (h : "kubectl delete pod " ++ podName' ∈
      commandsOf podName (syncZeekItems ipAddress hostname)) : podName' = podName := by
  have hscripts : ((fabricPutZeekScripts ipAddress).history (handle (findingEnv podName))
      ⟨noRuleSets.db, 1⟩).filterMap (fun e => e.1.command) =
        ["rm -rf " ++ zeekScriptsDir ++ "/*", "mkdir -p " ++ zeekScriptsDir,
          "[[ -f " ++ zeekScriptsZip ++ " ]]",
          "unzip " ++ zeekScriptsZip ++ " -d " ++ zeekScriptsDir,
          "chmod 0744 " ++ zeekScriptsDir, "rm -rf " ++ zeekScriptsZip] := rfl
  have hcommands : commandsOf podName (syncZeekItems ipAddress hostname) =
      ((fabricPutZeekScripts ipAddress).history (handle (findingEnv podName))
        ⟨noRuleSets.db, 1⟩).filterMap (fun e => e.1.command) ++
          ["kubectl delete pod " ++ podName] := by
    rw [commandsOf, syncZeekItems, history_withPodName rfl]
    refine (congrArg (List.filterMap _) (congrArg (List.cons _)
      (history_bind_ok _ run_fabricPutZeekScripts))).trans ?_
    rw [List.filterMap_cons_none rfl, List.filterMap_append]
    rfl
  rw [hcommands, hscripts] at h
  simp only [List.mem_append, List.mem_cons, List.not_mem_nil, or_false] at h
  rcases h with (h | h | h | h | h | h) | h
  all_goals first | exact delete_inj h | exact absurd h (delete_ne (by decide))

end Restart

/-- A pod on the sensor without labels, before that of Suricata. -/
def unlabelledPod : V1Pod where
  metadata := { name := "node-shell" }
  spec := {}
  status := { phase := some "Running", hostIp := some "10.40.12.21" }

def suricataPod : V1Pod where
  metadata := { name := "suricata-x7l2p", labels := some [("component", "suricata")] }
  spec := {}
  status := { phase := some "Running", hostIp := some "10.40.12.21" }

end Tfplenum
