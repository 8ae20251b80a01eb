/-
  Tfplenum.Service.HealthService

  `service/health_service.py`: the listings of nodes and pods with their state,
  and the look-ups of sensors, application nodes, pod logs and statistics.
-/

import Mathlib.Data.Rat.Defs
import Tfplenum.Utils.ConnectionMngs

namespace Tfplenum

open Lib

/-! ## The state of a pod -/

/-- The first loop of `get_pod_status`, over the init containers from index `i`:
    the reason, and whether the pod is initializing. -/
def initReason (pod : V1Pod) :
    Nat → List V1ContainerStatus → Option String → Except PyError (Option String × Bool)
  | _, [], reason => .ok (reason, false)
  | i, container :: rest, reason =>
      match container.state.terminated with
      | some ⟨0, _, _⟩ => initReason pod (i + 1) rest reason
      | terminated => do
          -- the reasons that are set here are overwritten below, but an absent
          -- reason and the misspelt attribute `container.sate` raise
          if let some ⟨_, _, none⟩ := terminated then
            throw (.typeError "object of type 'NoneType' has no len()")
          if container.state.waiting.isSome then
            throw (.attributeError "'V1ContainerStatus' object has no attribute 'sate'")
          match pod.spec.initContainers with
          | none => throw (.typeError "object of type 'NoneType' has no len()")
          | some initContainers => return (some s!"Init: {i}/{initContainers.length}", true)

/-- One round of the second loop: the reason, and whether a container runs. -/
def containerReason (container : V1ContainerStatus) (reason : Option String)
    (hasRunning : Bool) : Option String × Bool :=
  let waitingReason := container.state.waiting.bind fun r => if r = some "" then none else r
  match waitingReason, container.state.terminated with
  | some r, _ => (some r, hasRunning)
  | none, some ⟨exitCode, signal, r⟩ =>
      if r ≠ none ∧ r ≠ some "" then (r, hasRunning)
      else if signal ≠ some 0 then
        (some ("Signal: " ++ (signal.map toString).getD "None"), hasRunning)
      else (some s!"ExitCode: {exitCode}", hasRunning)
  | none, none => (reason, hasRunning || (container.ready && container.state.running))

/-- `has_pod_ready_condition` and `has_node_ready_condition` -/
def hasReadyCondition (conditions : Option (List V1Condition)) : Except PyError Bool := do
  return (← iterate conditions).any fun c => c.type = "Ready" && c.status = "True"

/-- `get_pod_status` -/
def getPodStatus (pod : V1Pod) : Except PyError String := do
  let first :=
    if pod.status.reason ≠ none ∧ pod.status.reason ≠ some "" then pod.status.reason
    else pod.status.phase
  let (reason, initializing) ← initReason pod 0 (pod.status.initContainerStatuses.getD []) first
  let (reason, hasRunning) :=
    if initializing then (reason, false)
    else (pod.status.containerStatuses.getD []).reverse.foldl
      (fun acc container => containerReason container acc.1 acc.2) (reason, false)
  let reason ←
    if reason = some "Completed" ∧ hasRunning then do
      pure (some (if ← hasReadyCondition pod.status.conditions then "Running" else "NotReady"))
    else pure reason
  let reason :=
    if pod.metadata.deletionTimestamp.isSome then
      if pod.status.reason = some "NodeLost" then some "Unknown" else some "Terminating"
    else reason
  match reason with
  | none => throw (.typeError "object of type 'NoneType' has no len()")
  | some "" => return "Unknown"
  | some reason => return reason

/-- `get_restart_count` -/
def getRestartCount (pod : V1Pod) : Nat :=
  let count := (pod.status.initContainerStatuses.getD []).foldl
    (fun count container => count + container.restartCount) 0
  (pod.status.containerStatuses.getD []).foldl
    (fun count container => count + container.restartCount) count

/-- `get_container_states` -/
def getContainerStates (pod : V1Pod) : List String :=
  (pod.status.containerStatuses.getD []).flatMap fun container =>
    (if container.state.running then [container.name ++ ": running"] else []) ++
    (match container.state.terminated with
      | some t => [container.name ++ ": terminated: " ++ t.reason.getD "None"]
      | none => []) ++
    (match container.state.waiting with
      | some reason => [container.name ++ ": waiting: " ++ reason.getD "None"]
      | none => [])

/-- `is_ready_or_succeeded` -/
def isReadyOrSucceeded (pod : V1Pod) : Except PyError Bool := do
  if pod.status.phase = some "Succeeded" then return true
  if pod.status.phase = some "Running" then
    return !(← iterate pod.status.conditions).any fun c => c.type = "Ready" && c.status = "False"
  return false

/-- `get_event_warnings`, answered with the number of events, or `None` after an
    `ApiException`; falling through returns `None` as well. -/
def getEventWarnings (pod : V1Pod) : KubernetesFunction :=
  .make (ρ := Option Nat) ()
    (withLocals () (Program.tryExcept
      (do
        let fieldSelector := "involvedObject.uid=" ++ pod.metadata.uid ++ ",type=Warning"
        let events ← request (.listEventForAllNamespaces fieldSelector)
        return .returning (some events))
      fun
        | .apiException _ => return .returning none
        | e => .raise e))
    (fun _ => return none)

/-- `get_warnings` -/
def getWarnings (pod : V1Pod) : Kube PyError (Option Nat) := do
  if ← .ofExcept (isReadyOrSucceeded pod) then
    return none
  else
    match ← (getEventWarnings pod).run with
    | some events => return some events
    | none => .raise (.attributeError "'NoneType' object has no attribute 'items'")

structure PodMetrics where
  inNamespace : String
  name : String
  nodeName : Option String
  statusBrief : String
  restartCount : Nat
  states : List String
  resources : List V1Container
  status : V1PodStatus
  warnings : Option Nat

/-- `get_pod_metrics` -/
def getPodMetrics (pod : V1Pod) : Kube PyError PodMetrics := do
  let statusBrief ← .ofExcept (getPodStatus pod)
  let warnings ← getWarnings pod
  return {
    inNamespace := pod.metadata.inNamespace
    name := pod.metadata.name
    nodeName := pod.spec.nodeName
    statusBrief
    restartCount := getRestartCount pod
    states := getContainerStates pod
    resources := pod.spec.containers
    status := pod.status
    warnings := if warnings = some 0 then none else warnings }

/-! ## The state of a node -/

/-- Quantities: the client library's `parse_quantity`, and how a decimal number is
    printed in millis or in gibibytes. -/
structure QuantityOps where
  parseQuantity : String → Except PyError Rat
  convertToM : Rat → String
  convertToGi : Rat → String

section Nodes

variable (q : QuantityOps)

/-- `parse_quantity(d.get(key, 0))` -/
def quantityItem (d : Option Dict) (key : String) : Except PyError Rat :=
  match d with
  | none => .error (.attributeError "'NoneType' object has no attribute 'get'")
  | some d =>
      match d.lookup key with
      | some value => q.parseQuantity value
      | none => .ok 0

structure NodeResources where
  cpu : String
  ephemeralStorage : String
  memory : String
  pods : String

/-- `get_capacity` and `get_allocatable` -/
def nodeResources (d : Option Dict) : Except PyError NodeResources := do
  let cpu ← quantityItem q d "cpu"
  let storage ← quantityItem q d "ephemeral-storage"
  let memory ← quantityItem q d "memory"
  let pods ← dictItem d "pods"
  return {
    cpu := q.convertToM cpu
    ephemeralStorage := q.convertToGi storage
    memory := q.convertToGi memory
    pods }

/-- The loop of `get_remaining`: the CPU and the memory the containers request. -/
def requested : List V1Container → Rat × Rat → Except PyError (Rat × Rat)
  | [], total => .ok total
  | container :: rest, (cpu, memory) =>
      match container.requests with
      | none => requested rest (cpu, memory)
      | some [] => requested rest (cpu, memory)
      | some requests => do
          let moreCpu ← quantityItem q (some requests) "cpu"
          let moreMemory ← quantityItem q (some requests) "memory"
          requested rest (cpu + moreCpu, memory + moreMemory)

/-- `get_remaining`; the memory is taken from the capacity. -/
def getRemaining (node : V1Node) (pods : List V1Pod) : Except PyError (String × String) := do
  let allocatableCpu ← quantityItem q node.allocatable "cpu"
  let allocatableMemory ← quantityItem q node.capacity "memory"
  let (cpu, memory) ← requested q (pods.flatMap (·.spec.containers)) (0, 0)
  return (q.convertToM (allocatableCpu - cpu), q.convertToGi (allocatableMemory - memory))

/-- `get_node_internal_ip` and `get_node_hostname` -/
def getNodeAddress (type : String) (node : V1Node) : Except PyError (Option String) := do
  return ((← iterate node.addresses).find? (·.type = type)).map (·.address)

/-- `get_storage`; the two documents are read before either is used. -/
def getStorage (hostname : Option String) :
    Kube PyError (Option (List (String × Json × Json))) := do
  let root ← request (.findMetric hostname "root_usage")
  let data ← request (.findMetric hostname "data_usage")
  let usage (name : String) : Option Json → Except PyError (List (String × Json × Json))
    | none => .ok []
    | some value => return [(name, ← value.getItem "free", ← value.getItem "percent")]
  let root ← .ofExcept (usage "root" root)
  let data ← .ofExcept (usage "data" data)
  return if (root ++ data).isEmpty then none else some (root ++ data)

/-- `get_memory` -/
def getMemory (hostname : Option String) : Kube PyError (Option (Json × Json)) := do
  match ← request (.findMetric hostname "memory") with
  | none => return none
  | some value => return some (← .ofExcept (value.getItem "available"),
      ← .ofExcept (value.getItem "percent"))

/-- `get_cpu` -/
def getCpu (hostname : Option String) : Kube PyError (Option Json) :=
  request (.findMetric hostname "cpu_percent")

structure NodeMetrics where
  name : String
  address : Option String
  ready : Bool
  type : String
  storage : Option (List (String × Json × Json))
  memory : Option (Json × Json)
  cpu : Option Json
  capacity : NodeResources
  allocatable : NodeResources
  remaining : String × String
  nodeInfo : Dict

/-- `get_node_metrics` -/
def getNodeMetrics (node : V1Node) (pods : List V1Pod) : Kube PyError NodeMetrics := do
  let hostname ← .ofExcept (getNodeAddress "Hostname" node)
  let address ← .ofExcept (getNodeAddress "InternalIP" node)
  let ready ← .ofExcept (hasReadyCondition node.conditions)
  let type ← .ofExcept (dictItem node.metadata.labels "role")
  let storage ← getStorage hostname
  let memory ← getMemory hostname
  let cpu ← getCpu hostname
  let capacity ← .ofExcept (nodeResources q node.capacity)
  let allocatable ← .ofExcept (nodeResources q node.allocatable)
  let remaining ← .ofExcept (getRemaining q node pods)
  return {
    name := node.metadata.name
    address, ready, type, storage, memory, cpu, capacity, allocatable, remaining
    nodeInfo := node.nodeInfo }

/-! ## The listings -/

/-- `get_nodes_status`; falling through returns `None`. -/
def getNodesStatus : KubernetesFunction :=
  .make (ρ := Option (List NodeMetrics)) ()
    (withLocals () do
      let pods ← request (.listPodForAllNamespaces none none)
      let nodes ← request .listNode
      let metrics ← Program.mapEach nodes fun node =>
        getNodeMetrics q node
          (pods.filter fun pod => pod.spec.nodeName = some node.metadata.name)
      return .returning (some metrics))
    (fun _ => return none)

end Nodes

/-- `get_pods_status`; falling through returns `None`. -/
def getPodsStatus : KubernetesFunction :=
  .make (ρ := Option (List PodMetrics)) ()
    (withLocals () do
      let pods ← request (.listPodForAllNamespaces none none)
      let metrics ← Program.mapEach pods getPodMetrics
      return .returning (some metrics))
    (fun _ => return none)

/-- A caller that makes an empty list of `None` and of an empty list. -/
def KubernetesFunction.orEmpty {σ α : Type}
    (w : WithStatement KubeOp KubeOp.Res PyError σ (Option (List α))) : KubernetesFunction where
  Locals := σ
  Value := List α
  statement := w.map fun status => status.getD []

/-- `get_nodes_statuses` -/
def getNodesStatuses (q : QuantityOps) : KubernetesFunction :=
  .orEmpty (getNodesStatus q).statement

/-- `get_pods_statuses` -/
def getPodsStatuses : KubernetesFunction :=
  .orEmpty getPodsStatus.statement

/-! ## Look-ups -/

/-- What `get_kibana_ipaddress` returns: the address, or `ERROR_RESPONSE`. -/
def getKibanaIpaddress : KubernetesFunction where
  Locals := Unit
  Value := Option (Option String)
  statement := {
    enter := loadKubeConfig
    locals := ()
    block := withLocals () do
      let services ← request .listServiceForAllNamespaces
      match services.find? fun service =>
          (service.ingress.getD []) ≠ [] && service.name = "kibana" with
      | some ⟨_, some (ip :: _)⟩ => return .returning (some ip)
      | _ => return .through ()
    after := fun _ => return none
    handler := fun _ _ => some (return none) }

structure AppNode where
  nodeName : Option String
  podName : String

/-- `get_k8s_app_nodes` -/
def getK8sAppNodes (app : String) : KubernetesFunction :=
  .make ([] : List AppNode)
    (do
      let pods ← withLocals [] (request (.listNamespacedPod "default" ("component=" ++ app)))
      let nodes ← Program.foldEach pods [] fun nodes pod =>
        return nodes ++ [{ nodeName := pod.spec.nodeName, podName := pod.metadata.name }]
      return .through nodes)
    (fun nodes => return nodes)

/-- `_exec_command` -/
def execCommand (command : String) : List String := ["/bin/sh", "-c", command]

/-- The shell command that reads a counter out of Suricata's statistics. -/
def statsCommand (counter : String) : String :=
  "cat /var/log/suricata/stats.log | grep " ++ counter ++
  " | awk '\x7bprint $5\x7d' | sort -n | tail -n 1"

/-- `get_suricata_stats`, with Python's `int()`; the locals are the two totals
    once they are parsed. -/
def getSuricataStats (pyInt : String → Except PyError Int) (node : AppNode) :
    KubernetesFunction :=
  let parse (total : String) : Except PyError Int := if total ≠ "" then pyInt total else .ok 0
  .make ((none, none) : Option Int × Option Int)
    (do
      let packets ← withLocals (none, none)
        (request (.execInPod node.podName "default"
          (execCommand (statsCommand "capture.kernel_packets"))))
      let dropped ← withLocals (none, none)
        (request (.execInPod node.podName "default"
          (execCommand (statsCommand "capture.kernel_drops"))))
      let packets ← withLocals (none, none) (.ofExcept (parse packets))
      let dropped ← withLocals (some packets, none) (.ofExcept (parse dropped))
      return .through (some packets, some dropped))
    (fun
      | (some packets, some dropped) => return (packets, dropped)
      | (none, _) => .raise (.unboundLocalError "total_packets_parsed")
      | (_, none) => .raise (.unboundLocalError "total_dropped_parsed"))

/-- `get_sensors` -/
def getSensors : KubernetesFunction :=
  .make ([] : List String)
    (do
      let nodes ← withLocals [] (request .listNode)
      let sensors ← Program.foldEach nodes [] fun sensors node => do
        let role ← withLocals sensors (.ofExcept (dictItem node.metadata.labels "role"))
        return if role = "sensor" then sensors ++ [node.metadata.name] else sensors
      return .through sensors)
    (fun sensors => return sensors)

structure PodLog where
  name : String
  logs : String

/-- `get_pod_logs` -/
def getPodLogs (podName inNamespace : String) : KubernetesFunction :=
  .make ([] : List PodLog)
    (do
      let pod ← withLocals [] (request (.readNamespacedPod podName inNamespace))
      let containers := pod.spec.initContainers.getD [] ++ pod.spec.containers
      let logs ← Program.foldEach containers [] fun logs container => do
        let stdout ← withLocals logs (Program.tryExcept
          (request (.readNamespacedPodLog podName inNamespace container.name))
          fun _ => return "Something went wrong fetching container logs")
        return logs ++ [{ name := container.name, logs := stdout }]
      return .through logs)
    (fun logs => return logs)

end Tfplenum
