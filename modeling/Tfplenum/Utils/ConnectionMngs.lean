/-
  Tfplenum.Utils.ConnectionMngs

  `utils/connection_mngs.py` and `utils/kubernetes.py`: the Kubernetes client as
  the backend uses it, the `KubernetesWrapper` context managers, the retrieval of
  a certificate secret and the look-up of a pod name.

  Every request to the Kubernetes API, and every other request that is made
  inside a `with KubernetesWrapper()` block, is an operation that may be answered
  by any value or any exception.
-/

import Tfplenum.Json
import Tfplenum.Lib.WithStatement

namespace Tfplenum

open Lib

/-! ## Objects of the Kubernetes API -/

abbrev Dict := List (String × String)

structure V1ObjectMeta where
  name : String
  inNamespace : String := "default"
  uid : String := ""
  labels : Option Dict := none
  deletionTimestamp : Option String := none

structure V1ContainerStateTerminated where
  exitCode : Int
  signal : Option Int
  reason : Option String

structure V1ContainerState where
  running : Bool := false
  terminated : Option V1ContainerStateTerminated := none
  /-- the reason of a waiting container -/
  waiting : Option (Option String) := none

structure V1ContainerStatus where
  name : String
  restartCount : Nat
  ready : Bool
  state : V1ContainerState

structure V1Condition where
  type : String
  status : String

structure V1PodStatus where
  phase : Option String
  reason : Option String := none
  hostIp : Option String := none
  conditions : Option (List V1Condition) := none
  initContainerStatuses : Option (List V1ContainerStatus) := none
  containerStatuses : Option (List V1ContainerStatus) := none

structure V1Container where
  name : String
  limits : Option Dict := none
  requests : Option Dict := none

structure V1PodSpec where
  nodeName : Option String := none
  subdomain : Option String := none
  containers : List V1Container := []
  initContainers : Option (List V1Container) := none
  /-- the volumes, by the name of the config map each mounts, if it does -/
  volumes : Option (List (Option String)) := none
  /-- the config maps among the sources of the projected volumes -/
  projectedConfigMaps : List String := []

structure V1Pod where
  metadata : V1ObjectMeta
  spec : V1PodSpec
  status : V1PodStatus

structure V1NodeAddress where
  type : String
  address : String

structure V1Node where
  metadata : V1ObjectMeta
  addresses : Option (List V1NodeAddress)
  conditions : Option (List V1Condition)
  capacity : Option Dict
  allocatable : Option Dict
  nodeInfo : Dict

structure V1Service where
  name : String
  /-- the addresses of the load balancer's ingress -/
  ingress : Option (List (Option String))

structure V1ConfigMap where
  metadata : V1ObjectMeta
  data : Option Dict

structure V1Secret where
  data : Option Dict

/-- `value[key]` on a dictionary that may be missing. -/
def dictItem (d : Option Dict) (key : String) : Except PyError String :=
  match d with
  | none => .error (.typeError "'NoneType' object is not subscriptable")
  | some d =>
      match d.lookup key with
      | some value => .ok value
      | none => .error (.keyError key)

/-- Iterating over a list that may be missing. -/
def iterate {α : Type} (l : Option (List α)) : Except PyError (List α) :=
  match l with
  | none => .error (.typeError "'NoneType' object is not iterable")
  | some l => .ok l

/-! ## Requests -/

/-- The requests made inside `with KubernetesWrapper()` blocks. -/
inductive KubeOp where
  | loadKubeConfig
  | listPodForAllNamespaces (labelSelector fieldSelector : Option String)
  | listNamespacedPod (inNamespace labelSelector : String)
  | readNamespacedPod (name inNamespace : String)
  | readNamespacedPodLog (name inNamespace container : String)
  /-- `stream(connect_get_namespaced_pod_exec, …)` -/
  | execInPod (name inNamespace : String) (command : List String)
  | listNode
  /-- answered with the number of events -/
  | listEventForAllNamespaces (fieldSelector : String)
  | listServiceForAllNamespaces
  | listNamespacedService (inNamespace : String)
  | listConfigMapForAllNamespaces
  | replaceNamespacedConfigMap (name inNamespace : String) (data : Dict)
  | readNamespacedSecret (name inNamespace : String)
  /-- `_bounce_pods.delay`, with the name and namespace of each pod -/
  | bouncePods (pods : List (String × String))
  /-- `mongo_metrics().find_one`, answered with the `value` of the document -/
  | findMetric (hostname : Option String) (name : String)
  | createNamespacedSecret (inNamespace name license : String)
  /-- answered with the names of the secrets -/
  | listNamespacedSecret (inNamespace : String)
  | deleteNamespacedSecret (name inNamespace : String)
  /-- `check_elastic_license.delay` -/
  | checkElasticLicense (currentLicense : Json)
  /-- open a file of the controller and write to it -/
  | writeFile (path content : String)
  | sleep (seconds : Nat)

namespace KubeOp

/-- What a request is answered with when it does not raise. -/
abbrev Answer : KubeOp → Type
  | .listPodForAllNamespaces _ _ => List V1Pod
  | .listNamespacedPod _ _ => List V1Pod
  | .readNamespacedPod _ _ => V1Pod
  | .readNamespacedPodLog _ _ _ => String
  | .execInPod _ _ _ => String
  | .listNode => List V1Node
  | .listEventForAllNamespaces _ => Nat
  | .listServiceForAllNamespaces => List V1Service
  | .listNamespacedService _ => List V1Service
  | .listConfigMapForAllNamespaces => List V1ConfigMap
  | .readNamespacedSecret _ _ => V1Secret
  | .listNamespacedSecret _ => List String
  | .findMetric _ _ => Option Json
  | _ => Unit

abbrev Res (op : KubeOp) : Type := Except PyError op.Answer

end KubeOp

abbrev Kube (ε α : Type) := Program KubeOp KubeOp.Res ε α

/-- Make a request. -/
def request (op : KubeOp) : Kube PyError op.Answer :=
  .call op fun r => .ofExcept r

/-- A part of a block at which the locals are `s`. -/
def withLocals {σ α : Type} (s : σ) (p : Kube PyError α) : Kube (PyError × σ) α :=
  p.mapError fun e => (e, s)

/-! ## `KubernetesWrapper` -/

/-- `KubernetesWrapper.__exit__` returns the wrapper, and an object is true;
    `KubernetesWrapper2` inherits the method. -/
def KubernetesWrapper.exitIsTrue : Bool := true

/-- `KubernetesWrapper.__init__`, which raises when there is no usable
    configuration. -/
def loadKubeConfig : Kube PyError Unit :=
  .call .loadKubeConfig fun
    | .ok () => .done ()
    | .error _ => .raise (.other "ConfigException")

/-- A function whose work is one `with KubernetesWrapper()` statement. -/
structure KubernetesFunction where
  Locals : Type
  Value : Type
  statement : WithStatement KubeOp KubeOp.Res PyError Locals Value

namespace KubernetesFunction

/-- `with KubernetesWrapper() as kube_apiv1: block`, then `after`. -/
def make {σ ρ : Type} (locals : σ) (block : Kube (PyError × σ) (Leaves σ ρ))
    (after : σ → Kube PyError ρ) : KubernetesFunction where
  Locals := σ
  Value := ρ
  statement := { enter := loadKubeConfig, locals, block, after }

/-- The function as its callers call it. -/
def run (f : KubernetesFunction) : Kube PyError f.Value :=
  f.statement.result KubernetesWrapper.exitIsTrue

end KubernetesFunction

/-! ## `utils/kubernetes.py` -/

/-- `pod["metadata"]["labels"]["component"] == component`, where a missing key is
    logged and passed over. -/
def hasComponent (component : String) (pod : V1Pod) : Except PyError Bool :=
  match dictItem pod.metadata.labels "component" with
  | .ok value => .ok (value ≠ "" && component = value)
  | .error (.keyError _) => .ok false
  | .error e => .error e

/-- The loop of `_get_pod_name` over the pods. -/
def findPod (ipAddress component : String) : List V1Pod → Except PyError (Option String)
  | [] => .ok none
  | pod :: pods => do
      if pod.status.hostIp = some ipAddress then
        if ← hasComponent component pod then
          return some pod.metadata.name
      findPod ipAddress component pods

/-- `_get_pod_name` -/
def getPodName (ipAddress component : String) : KubernetesFunction :=
  .make ()
    (withLocals () do
      let pods ← request (.listPodForAllNamespaces none none)
      match ← .ofExcept (findPod ipAddress component pods) with
      | some name => return .returning name
      | none => return .through ())
    (fun _ => .raise (.valueError s!"Failed to find {component} pod name."))

def getSuricataPodName (ipAddress : String) : KubernetesFunction :=
  getPodName ipAddress "suricata"

def getZeekPodName (ipAddress : String) : KubernetesFunction :=
  getPodName ipAddress "zeek"

def getArkimePodName (ipAddress : String) : KubernetesFunction :=
  getPodName ipAddress "arkime"

/-! ## `get_kubernetes_certifcate_secret` -/

structure KubernetesSecret where
  caCertificate : String
  tlsCertificate : String
  tlsKey : String

section Secret

/- `b64decode(value).decode("utf-8")` -/
variable (b64decode : String → Except PyError String)

/-- `KubernetesSecret.__init__` -/
def KubernetesSecret.ofResponse (response : V1Secret) : Except PyError KubernetesSecret := do
  let caCertificate ← b64decode (← dictItem response.data "ca.crt")
  let tlsCertificate ← b64decode (← dictItem response.data "tls.crt")
  let tlsKey ← b64decode (← dictItem response.data "tls.key")
  return { caCertificate, tlsCertificate, tlsKey }

/-- What the block of a round makes of the API's answer. -/
def readSecret (secretName inNamespace : String) : Kube PyError KubernetesSecret := do
  let response ← request (.readNamespacedSecret secretName inNamespace)
  .ofExcept (KubernetesSecret.ofResponse b64decode response)

/-- One round of the loop: the secret, or nothing when the next round is due.
    The handler takes an `ApiException` and its `retries == 0` never holds inside
    the loop, so it sleeps. -/
def secretAttempt (secretName inNamespace : String) : KubernetesFunction where
  Locals := Unit
  Value := Option KubernetesSecret
  statement := {
    enter := loadKubeConfig
    locals := ()
    block := do
      let secret ← withLocals () (readSecret b64decode secretName inNamespace)
      return .returning (some secret)
    after := fun _ => return none
    handler := fun e _ =>
      match e with
      | .apiException _ => some (.call (.sleep 10) fun _ => .done none)
      | _ => none }

/-- `while retries != 0`, the round before `retries -= 1`; the loop falls through
    to an implicit `None`. -/
def getKubernetesCertifcateSecret (secretName inNamespace : String) :
    Nat → Kube PyError (Option KubernetesSecret)
  | 0 => return none
  | retries + 1 => do
      match ← (secretAttempt b64decode secretName inNamespace).run with
      | some secret => return some secret
      | none => getKubernetesCertifcateSecret secretName inNamespace retries

end Secret

end Tfplenum
