/-
  Tfplenum.Controller.ConfigmapController

  The request of `controller/configmap_controller.py` that saves a config map.

  The service function takes the payload as its argument, and the request calls it
  without one: Python raises before the function runs, `handle_errors` answers with
  the text of the exception, and nothing is saved.  With the payload handed on, a
  replacement that Kubernetes refuses is swallowed by `KubernetesWrapper`, and the
  request reports success with `null`.
-/

import Mathlib.Logic.Function.Basic
import Tfplenum.Service.KubernetesLookups

namespace Tfplenum

open Lib

/-- `ConfigMapSaveModel` -/
structure ConfigMapSaveModel where
  configMap : V1ConfigMap
  associatedPods : List AssociatedPod

/-- `put_config_map(*args)` -/
def callPutConfigMap : List ConfigMapSaveModel → Kube PyError (Option String)
  | [model] => (putConfigMap model.configMap model.associatedPods).run
  | [] => .raise (.typeError
      "put_config_map() missing 1 required positional argument: 'config_map_save_model'")
  | args => .raise (.typeError
      s!"put_config_map() takes 1 positional argument but {args.length} were given")

/-- What a save request is answered with. -/
inductive SaveResponse where
  /-- `ConfigMapSavedModel`, or `null` -/
  | saved (name : Option String)
  | error (status : Nat) (key text : String)
  /-- `FORBIDDEN_RESPONSE` -/
  | forbidden
deriving DecidableEq, Repr

/-- The request reports success. -/
def SaveResponse.Success : SaveResponse → Prop
  | .saved _ => True
  | _ => False

/-- What `handle_errors` answers for an exception, where `str` is the text of one. -/
def errorResponse (str : PyError → String) (e : PyError) : SaveResponse :=
  match e with
  | .postValidationError _ => .error 400 "post_validation" (str e)
  | .other "DBModelNotFound" =>
      .error 400 "error_message" "Requested database object not found."
  | .other "NoSuchJobError" => .error 404 "error_message" "Job does not exist."
  | .other "NoSuchNodeJobError" => .error 404 "error_message" "Node job does not exist."
  | .other "NoSuchLogError" => .error 404 "error_message" (str e)
  | .other "NoSuchLogArchiveError" => .error 404 "error_message" (str e)
  | .other "NotFoundError" => .error 404 "error_message" "Data Object Not Found"
  | .other "FileNotFoundError" => .error 404 "error_message" "File Not Found"
  | .other "ObjectKeyError" => .error 406 "error_message" "Object Keys Error"
  | .other "FailedToUploadFile" =>
      .error 409 "error_message"
        "Failed to upload file. No file was found in the request."
  | .other "ResponseConflictError" => .error 409 "error_message" "Response Conflict"
  | .other "FailedToUploadWinLog" =>
      .error 500 "error_message"
        ("Failed to upload Windows file because Winlogbeat has not been setup for cold " ++
          "log ingest.")
  | .other "InternalServerError" => .error 500 "error_message" "Internal Server Error."
  | _ => .error 500 "error_message" (str e)

/-- What it answers in all. -/
def responseOf (str : PyError → String) : Except PyError (Option String) → SaveResponse
  | .ok name => .saved name
  | .error e => errorResponse str e

/-- `handle_errors` -/
def handleErrors (str : PyError → String) (p : Kube PyError (Option String)) :
    Kube PyError SaveResponse :=
  p.attempt.bind fun r => .done (responseOf str r)

/-- `ConfigMapCtrlApi.put` of a user who is a controller maintainer or is not; the payload
    of the request stays where it is. -/
def ConfigMapCtrlApi.put (str : PyError → String) (isControllerMaintainer : Bool)
    (_payload : ConfigMapSaveModel) : Kube PyError SaveResponse :=
  if isControllerMaintainer then handleErrors str (callPutConfigMap []) else return .forbidden

/-- The same with the payload handed to `put_config_map`. -/
def ConfigMapCtrlApi.putPayload (str : PyError → String) (isControllerMaintainer : Bool)
    (payload : ConfigMapSaveModel) : Kube PyError SaveResponse :=
  if isControllerMaintainer then handleErrors str (callPutConfigMap [payload])
  else return .forbidden

/-! ## The cluster -/

/-- The config maps by namespace and name, the replacements carried out and the restart jobs
    started so far, and how many requests there have been. -/
structure Cluster where
  configMaps : String → String → Option Dict
  replacements : List (String × String × Dict)
  restarts : List (List (String × String))
  requests : Nat

/-- What each request is answered with, and whether a replacement whose answer is an exception
    was carried out all the same. -/
structure Kubernetes where
  answer : (op : KubeOp) → Nat → op.Res
  carriesOut : Nat → Bool

def Cluster.asked (c : Cluster) : Cluster := { c with requests := c.requests + 1 }

def Cluster.replace (name inNamespace : String) (data : Dict) (c : Cluster) : Cluster :=
  { c with
    configMaps := Function.update c.configMaps inNamespace
      (Function.update (c.configMaps inNamespace) name (some data))
    replacements := c.replacements ++ [(inNamespace, name, data)] }

def Cluster.restart (pods : List (String × String)) (c : Cluster) : Cluster :=
  { c with restarts := c.restarts ++ [pods] }

/-- A config map that is not there cannot be replaced. -/
def Kubernetes.handle (k : Kubernetes) : Handler KubeOp KubeOp.Res Cluster
  | .replaceNamespacedConfigMap name inNamespace data, c =>
      if (c.configMaps inNamespace name).isSome then
        match k.answer (.replaceNamespacedConfigMap name inNamespace data) c.requests with
        | .ok () => (.ok (), (c.replace name inNamespace data).asked)
        | .error e =>
            (.error e,
              (if k.carriesOut c.requests then c.replace name inNamespace data else c).asked)
      else (.error (.apiException 404), c.asked)
  | .bouncePods pods, c =>
      match k.answer (.bouncePods pods) c.requests with
      | .ok () => (.ok (), (c.restart pods).asked)
      | .error e => (.error e, c.asked)
  | op, c => (k.answer op c.requests, c.asked)

namespace ConfigMapSaveModel

variable (payload : ConfigMapSaveModel)

def name : String := payload.configMap.metadata.name
def inNamespace : String := payload.configMap.metadata.inNamespace
def data : Dict := payload.configMap.data.getD []

/-- The pods to restart. -/
def pods : List (String × String) :=
  payload.associatedPods.map fun pod => (pod.podName, pod.inNamespace)

/-- The named config map has been replaced by the data of the payload, once. -/
def Replaced (c c' : Cluster) : Prop :=
  c'.configMaps = (c.replace payload.name payload.inNamespace payload.data).configMaps ∧
    c'.replacements = (c.replace payload.name payload.inNamespace payload.data).replacements

end ConfigMapSaveModel

/-- A request reports success exactly if the config map was replaced, and then the restart job
    has been started once, with the pods of the payload; otherwise it reports an error, and
    leaves the config maps as they were and the pods running. -/
structure SaveTruthful (k : Kubernetes) (c : Cluster) (payload : ConfigMapSaveModel)
    (p : Kube PyError SaveResponse) : Prop where
  success_iff : (∃ response, (p.run k.handle c).1 = .ok response ∧ response.Success) ↔
    payload.Replaced c (p.run k.handle c).2
  restarted : (∃ response, (p.run k.handle c).1 = .ok response ∧ response.Success) →
    (p.run k.handle c).2.restarts = c.restarts ++ [payload.pods]
  failed : ¬ payload.Replaced c (p.run k.handle c).2 →
    (∃ response, (p.run k.handle c).1 = .ok response ∧ ¬ response.Success) ∧
      (p.run k.handle c).2.configMaps = c.configMaps ∧
      (p.run k.handle c).2.restarts = c.restarts

/-- The requests of a save are answered, unless the configuration cannot be loaded. -/
structure Kubernetes.Accepts (k : Kubernetes) (c : Cluster) (payload : ConfigMapSaveModel) :
    Prop where
  exists_configMap : (c.configMaps payload.inNamespace payload.name).isSome = true
  replaces : k.answer (.replaceNamespacedConfigMap payload.name payload.inNamespace payload.data)
    (c.requests + 1) = .ok ()
  bounces : k.answer (.bouncePods payload.pods) (c.requests + 2) = .ok ()

/-! ## What a save comes to -/

section Save

variable {k : Kubernetes} {c : Cluster} {payload : ConfigMapSaveModel}
variable {str : PyError → String} {isControllerMaintainer : Bool}

/-- As it is, a request is answered with an error and makes no request of its own. -/
theorem exists_put_eq_done (str : PyError → String) (isControllerMaintainer : Bool)
    (payload : ConfigMapSaveModel) : ∃ response : SaveResponse, ¬ response.Success ∧
    ConfigMapCtrlApi.put str isControllerMaintainer payload = .done response := by
  rw [ConfigMapCtrlApi.put]
  split
  · exact ⟨.error 500 "error_message" (str (.typeError
      "put_config_map() missing 1 required positional argument: 'config_map_save_model'")),
      not_false, rfl⟩
  · exact ⟨.forbidden, not_false, rfl⟩

theorem errorResponse_not_success (str : PyError → String) (e : PyError) :
    ¬ (errorResponse str e).Success := by
  unfold errorResponse
  split <;> exact not_false

theorem run_handleErrors (str : PyError → String) {p : Kube PyError (Option String)}
    {r : Except PyError (Option String)} {c' : Cluster} (hrun : p.run k.handle c = (r, c')) :
    (handleErrors str p).run k.handle c = (.ok (responseOf str r), c') := by
  have hattempt := Program.run_attempt (δ := PyError) k.handle p c
  rw [hrun] at hattempt
  rw [handleErrors, Program.run_bind_ok k.handle hattempt]
  rfl

/-- Making the manager. -/
theorem run_loadKubeConfig : loadKubeConfig.run k.handle c =
    (match k.answer .loadKubeConfig c.requests with
      | .ok () => .ok ()
      | .error _ => .error (.other "ConfigException"), c.asked) := by
  rw [loadKubeConfig, Program.run_call]
  have hanswer : k.handle .loadKubeConfig c = (k.answer .loadKubeConfig c.requests, c.asked) := rfl
  rw [hanswer]
  rcases k.answer .loadKubeConfig c.requests with e | ⟨⟩ <;> rfl

/-- Without a configuration there is no request. -/
theorem run_callPutConfigMap_of_load (payload : ConfigMapSaveModel) {e : PyError}
    (hload : k.answer .loadKubeConfig c.requests = .error e) :
    (callPutConfigMap [payload]).run k.handle c = (.error (.other "ConfigException"), c.asked) := by
  have henter := run_loadKubeConfig (k := k) (c := c)
  rw [hload] at henter
  exact WithStatement.run_result_of_enter henter rfl

/-- The block makes its two requests one after the other. -/
theorem run_block {t : Cluster} : (putConfigMap payload.configMap
    payload.associatedPods).statement.block.run k.handle t =
      match k.handle (.replaceNamespacedConfigMap payload.name payload.inNamespace payload.data) t
      with
      | (.error e, t₁) => (.error (e, ()), t₁)
      | (.ok (), t₁) => match k.handle (.bouncePods payload.pods) t₁ with
        | (.error e, t₂) => (.error (e, ()), t₂)
        | (.ok (), t₂) => (.ok (.returning (some payload.name)), t₂) := by
  show (withLocals () ((request (.replaceNamespacedConfigMap payload.name payload.inNamespace
    payload.data)).bind fun _ => (request (.bouncePods payload.pods)).bind fun _ =>
      .done (Leaves.returning (some payload.name) : Leaves Unit (Option String)))).run
        k.handle t = _
  rcases hreplace : k.handle (.replaceNamespacedConfigMap payload.name payload.inNamespace
    payload.data) t with ⟨e | ⟨⟩, t₁⟩
  · simp [withLocals, request, Program.mapError, hreplace, Program.ofExcept]
    rfl
  · rcases hbounce : k.handle (.bouncePods payload.pods) t₁ with ⟨e | ⟨⟩, t₂⟩
    · simp [withLocals, request, Program.mapError, hreplace, hbounce, Program.ofExcept]
      rfl
    · simp [withLocals, request, Program.mapError, hreplace, hbounce, Program.ofExcept]
      rfl

/-- A replacement restarts nothing. -/
theorem restarts_replace (name inNamespace : String) (data : Dict) (t : Cluster) :
    (k.handle (.replaceNamespacedConfigMap name inNamespace data) t).2.restarts = t.restarts := by
  unfold Kubernetes.handle
  dsimp only
  split
  · split
    · rfl
    · split <;> rfl
  · rfl

/-- A replacement that is answered was of a config map that is there. -/
theorem of_handle_replace {name inNamespace : String} {data : Dict} {t t₁ : Cluster}
    (hreplace : k.handle (.replaceNamespacedConfigMap name inNamespace data) t = (.ok (), t₁)) :
    (t.configMaps inNamespace name).isSome = true ∧
      k.answer (.replaceNamespacedConfigMap name inNamespace data) t.requests = .ok () ∧
      t₁.requests = t.requests + 1 := by
  unfold Kubernetes.handle at hreplace
  dsimp only at hreplace
  split at hreplace
  · rename_i hexists
    split at hreplace
    · rename_i hanswer
      cases hreplace
      exact ⟨hexists, hanswer, rfl⟩
    · cases hreplace
  · cases hreplace

/-- Where both requests are answered the block returns. -/
theorem run_block_of_accepts (haccepts : k.Accepts c payload) :
    (putConfigMap payload.configMap payload.associatedPods).statement.block.run k.handle c.asked =
      (.ok (.returning (some payload.name)),
        ((c.asked.replace payload.name payload.inNamespace payload.data).asked.restart
          payload.pods).asked) := by
  have hreplace : k.handle (.replaceNamespacedConfigMap payload.name payload.inNamespace
      payload.data) c.asked =
        (.ok (), (c.asked.replace payload.name payload.inNamespace payload.data).asked) := by
    have hexists : (c.asked.configMaps payload.inNamespace payload.name).isSome = true :=
      haccepts.exists_configMap
    have hanswer : k.answer (.replaceNamespacedConfigMap payload.name payload.inNamespace
        payload.data) c.asked.requests = .ok () := haccepts.replaces
    simp only [Kubernetes.handle, hexists, hanswer, if_true]
  have hbounce : ∀ t : Cluster, t.requests = c.requests + 2 →
      k.handle (.bouncePods payload.pods) t = (.ok (), (t.restart payload.pods).asked) := by
    intro t ht
    have hanswer : k.answer (.bouncePods payload.pods) t.requests = .ok () :=
      ht ▸ haccepts.bounces
    simp only [Kubernetes.handle, hanswer]
  rw [run_block, hreplace]
  dsimp only
  rw [hbounce _ rfl]

/-- Where one of them is not, no pods are restarted. -/
theorem restarts_block_of_not_accepts (hnot : ¬ k.Accepts c payload) :
    ((putConfigMap payload.configMap payload.associatedPods).statement.block.run k.handle
      c.asked).2.restarts = c.restarts := by
  have hkept := restarts_replace (k := k) payload.name payload.inNamespace payload.data c.asked
  rw [run_block]
  rcases hreplace : k.handle (.replaceNamespacedConfigMap payload.name payload.inNamespace
    payload.data) c.asked with ⟨e | ⟨⟩, t₁⟩
  · rw [hreplace] at hkept
    exact hkept
  · rw [hreplace] at hkept
    -- the replacement went through, so the restart did not
    have hasked := of_handle_replace hreplace
    have hrefused : ∃ e, k.answer (.bouncePods payload.pods) t₁.requests = .error e := by
      rcases hbounce : k.answer (.bouncePods payload.pods) t₁.requests with e | ⟨⟩
      · exact ⟨e, rfl⟩
      · exact absurd ⟨hasked.1, hasked.2.1, hasked.2.2 ▸ hbounce⟩ hnot
    obtain ⟨e, he⟩ := hrefused
    have hbounce : k.handle (.bouncePods payload.pods) t₁ = (.error e, t₁.asked) := by
      simp only [Kubernetes.handle, he]
    dsimp only
    rw [hbounce]
    exact hkept

/-- With a configuration the function returns, whatever its block does. -/
theorem run_callPutConfigMap_of_block {c' : Cluster}
    {r : Except (PyError × Unit) (Leaves Unit (Option String))}
    (hload : k.answer .loadKubeConfig c.requests = .ok ())
    (hblock : (putConfigMap payload.configMap payload.associatedPods).statement.block.run k.handle
      c.asked = (r, c')) :
    ∃ name, (callPutConfigMap [payload]).run k.handle c = (.ok name, c') := by
  have henter := run_loadKubeConfig (k := k) (c := c)
  rw [hload] at henter
  rcases r with ⟨e, ⟨⟩⟩ | l
  · have hraise : (putConfigMap payload.configMap payload.associatedPods).statement.BlockRaises
        k.handle c e () c' := ⟨c.asked, henter, hblock⟩
    exact ⟨none, hraise.run_result⟩
  · cases l with
    | through s => exact ⟨none, WithStatement.run_result_of_block henter hblock⟩
    | returning name => exact ⟨name, WithStatement.run_result_of_block henter hblock⟩

/-- A save that gets to Kubernetes is truthful exactly if it is accepted: it always reports
    success. -/
theorem saveTruthful_of_load_iff (str : PyError → String) (payload : ConfigMapSaveModel)
    (hload : k.answer .loadKubeConfig c.requests = .ok ()) :
    SaveTruthful k c payload (handleErrors str (callPutConfigMap [payload])) ↔
      k.Accepts c payload := by
  rcases hblock : (putConfigMap payload.configMap payload.associatedPods).statement.block.run
    k.handle c.asked with ⟨r, c'⟩
  obtain ⟨name, hcall⟩ := run_callPutConfigMap_of_block hload hblock
  have hrun := run_handleErrors str hcall
  have hsuccess : ∃ response,
      ((handleErrors str (callPutConfigMap [payload])).run k.handle c).1 = .ok response ∧
        response.Success := ⟨.saved name, congrArg Prod.fst hrun, trivial⟩
  constructor
  · intro htruthful
    by_contra hnot
    have hkept := restarts_block_of_not_accepts hnot
    rw [hblock] at hkept
    have hrestarted := htruthful.restarted hsuccess
    rw [hrun, hkept] at hrestarted
    simp at hrestarted
  · intro haccepts
    rw [run_block_of_accepts haccepts] at hblock
    cases hblock
    have hreplaced : payload.Replaced c
        ((handleErrors str (callPutConfigMap [payload])).run k.handle c).2 := by
      rw [hrun]
      exact ⟨rfl, rfl⟩
    refine ⟨iff_of_true hsuccess hreplaced, fun _ => ?_, fun hnot => absurd hreplaced hnot⟩
    rw [hrun]
    rfl

/-- An error that changes nothing is truthful. -/
theorem saveTruthful_of_error {p : Kube PyError SaveResponse} {response : SaveResponse}
    {c' : Cluster} (hrun : p.run k.handle c = (.ok response, c')) (hfailure : ¬ response.Success)
    (hconfigMaps : c'.configMaps = c.configMaps) (hreplacements : c'.replacements = c.replacements)
    (hrestarts : c'.restarts = c.restarts) : SaveTruthful k c payload p := by
  have hno : ¬ ∃ r, (p.run k.handle c).1 = .ok r ∧ r.Success := by
    rintro ⟨r, hr, hsuccess⟩
    rw [hrun] at hr
    cases hr
    exact hfailure hsuccess
  have hnot : ¬ payload.Replaced c (p.run k.handle c).2 := by
    rintro ⟨-, hlogged⟩
    rw [hrun, hreplacements] at hlogged
    simp [Cluster.replace] at hlogged
  refine ⟨iff_of_false hno hnot, fun hsuccess => absurd hsuccess hno, fun _ => ?_⟩
  rw [hrun]
  exact ⟨⟨response, rfl, hfailure⟩, hconfigMaps, hrestarts⟩

end Save

/-- As it is, a save request reports an error and saves nothing.  With its payload handed to
    the service function it is truthful if and only if, once the configuration of a user who
    may save is loaded, Kubernetes and the queue accept what it asks for. -/
theorem saveTruthful_iff (str : PyError → String) (isControllerMaintainer : Bool)
    (payload : ConfigMapSaveModel) (k : Kubernetes) (c : Cluster) :
    (∃ response : SaveResponse, ¬ response.Success ∧
      ConfigMapCtrlApi.put str isControllerMaintainer payload = .done response) ∧
    (SaveTruthful k c payload (ConfigMapCtrlApi.putPayload str isControllerMaintainer payload) ↔
      (isControllerMaintainer = true → k.answer .loadKubeConfig c.requests = .ok () →
        k.Accepts c payload)) := by
  refine ⟨exists_put_eq_done str isControllerMaintainer payload, ?_⟩
  cases isControllerMaintainer with
  | false =>
      have hrun : (ConfigMapCtrlApi.putPayload str false payload).run k.handle c =
          (.ok .forbidden, c) := rfl
      have htruthful : SaveTruthful k c payload (ConfigMapCtrlApi.putPayload str false payload) :=
        saveTruthful_of_error hrun not_false rfl rfl rfl
      exact iff_of_true htruthful fun hfalse => by cases hfalse
  | true =>
      rcases hload : k.answer .loadKubeConfig c.requests with e | ⟨⟩
      · have hrun := run_handleErrors str (run_callPutConfigMap_of_load payload hload)
        have htruthful : SaveTruthful k c payload (ConfigMapCtrlApi.putPayload str true payload) :=
          saveTruthful_of_error hrun (errorResponse_not_success str (.other "ConfigException"))
            rfl rfl rfl
        exact iff_of_true htruthful fun _ hok => by cases hok
      · have hiff := saveTruthful_of_load_iff str payload hload
        exact hiff.trans ⟨fun haccepts _ _ => haccepts, fun h => h rfl rfl⟩

/-! ### A refused replacement -/

/-- The replacement is refused with a conflict. -/
def conflictingKubernetes : Kubernetes where
  answer
    | .loadKubeConfig, _ => .ok ()
    | _, _ => .error (.apiException 409)
  carriesOut _ := false

def zeekConfig : ConfigMapSaveModel where
  configMap := { metadata := { name := "zeek-local-config" }, data := some [("local.zeek", "")] }
  associatedPods := [⟨"zeek-0", "default"⟩]

def zeekCluster : Cluster where
  configMaps inNamespace name :=
    if inNamespace = "default" ∧ name = "zeek-local-config" then some [] else none
  replacements := []
  restarts := []
  requests := 0

/-- The request answers the refused replacement with `null`, which is a success. -/
theorem not_saveTruthful_of_conflict :
    ¬ (∀ (str : PyError → String) (isControllerMaintainer : Bool) (payload : ConfigMapSaveModel)
        (k : Kubernetes) (c : Cluster),
        SaveTruthful k c payload
          (ConfigMapCtrlApi.putPayload str isControllerMaintainer payload)) ∧
      ((ConfigMapCtrlApi.putPayload (fun _ => "") true zeekConfig).run conflictingKubernetes.handle
        zeekCluster).1 = .ok (.saved none) := by
  have hrun : ((ConfigMapCtrlApi.putPayload (fun _ => "") true zeekConfig).run
      conflictingKubernetes.handle zeekCluster).1 = .ok (.saved none) := rfl
  refine ⟨fun hall => ?_, hrun⟩
  have htruthful := hall (fun _ => "") true zeekConfig conflictingKubernetes zeekCluster
  have hreplaced := htruthful.success_iff.mp ⟨_, hrun, trivial⟩
  have hlogged : ([] : List (String × String × Dict)) =
      [("default", "zeek-local-config", [("local.zeek", "")])] := hreplaced.2
  cases hlogged

end Tfplenum
