/-
  Tfplenum.Service.ScaleLimits

  `get_allowable_scale_count`: how far Elasticsearch may be scaled.  The function goes
  through the server nodes, and for each role adds to a maximum where plenty of the node
  is left, and sets it anew where not.  Quantities are exact, memory is in `Mi`.
-/

import Tfplenum.Service.ScaleService
import Tfplenum.Lib.Table

namespace Tfplenum

open Lib

namespace Scale

/-! ## The roles of the deployment -/

/-- What is read of a role: the count of its node set, and what a pod requests. -/
structure RoleRequest where
  count : Json
  cpu : ℚ
  memory : ℚ

/-- The variables of the roles; those of a role without a node set are not assigned, and its
    count is 0. -/
structure RoleRequests where
  master : Option RoleRequest
  data : Option RoleRequest
  ml : Option RoleRequest
  ingest : Option RoleRequest

def getRequest (key : String) (quantity : Option ℚ) : Except PyError ℚ :=
  match quantity with
  | some q => .ok q
  | none => .error (.keyError key)

/-- The body of the loop over the containers of a node set. -/
def RoleRequests.read (n : NodeSet) (rs : RoleRequests) (c : ElasticContainer) :
    Except PyError RoleRequests :=
  if n.name ∈ ["master", "data", "ml", "ingest"] then do
    -- a later container takes the place of an earlier one
    let memory ← getRequest "memory" c.memory
    let cpu ← getRequest "cpu" c.cpu
    let r := some ⟨n.count, cpu, memory⟩
    return {
      master := if n.name = "master" then r else rs.master
      data := if n.name = "data" then r else rs.data
      ml := if n.name = "ml" then r else rs.ml
      ingest := if n.name = "ingest" then r else rs.ingest }
  else .ok rs

def getContainers (n : NodeSet) : Except PyError (List ElasticContainer) :=
  match n.containers with
  | some containers => .ok containers
  | none => .error (.keyError "podTemplate")

/-- The loop over the node sets. -/
def readRoles (d : ElasticDeploy) : Except PyError RoleRequests :=
  (d.nodeSets?.getD []).foldlM (fun rs n => do
    let containers ← getContainers n
    containers.foldlM (RoleRequests.read n) rs) ⟨none, none, none, none⟩

/-! ## The server nodes -/

/-- A container of a pod, with 0 where it has no request or limit. -/
structure KubeContainer where
  cpuRequest : ℚ
  memoryRequest : ℚ
  cpuLimit : ℚ
  memoryLimit : ℚ

/-- A node of the cluster, with what is allocatable, and the pods that are listed for it. -/
structure KubeNode where
  name : String
  labels : Table String String
  cpu : ℚ
  memory : ℚ
  pods : List (List KubeContainer)

namespace KubeNode

def isServer (n : KubeNode) : Bool := n.labels.get? "role" = some "server"

/-- The sum over all containers of all pods. -/
def sumOf (quantity : KubeContainer → ℚ) (n : KubeNode) : ℚ :=
  (n.pods.flatten.map quantity).sum

end KubeNode

def zeroDivisionError : PyError := .other "ZeroDivisionError"

/-- `amount / whole * 100` -/
def percentOf (amount whole : ℚ) : Except PyError ℚ :=
  if whole = 0 then .error zeroDivisionError else .ok (amount / whole * 100)

/-- What is left of a node. -/
structure Remaining where
  cpu : ℚ
  memory : ℚ

def KubeNode.remaining (n : KubeNode) : Remaining where
  cpu := n.cpu - n.sumOf KubeContainer.cpuRequest
  memory := n.memory - n.sumOf KubeContainer.memoryRequest

/-- The body of the loop over the server nodes. -/
def nodeStats (n : KubeNode) : Except PyError Remaining := do
  -- the percentages are not used, but their divisions raise
  let _ ← percentOf (n.sumOf KubeContainer.cpuRequest) n.cpu
  let _ ← percentOf (n.sumOf KubeContainer.cpuLimit) n.cpu
  let _ ← percentOf (n.sumOf KubeContainer.memoryRequest) n.memory
  let _ ← percentOf (n.sumOf KubeContainer.memoryLimit) n.memory
  return n.remaining

/-- `request` -/
def serverStats (nodes : List KubeNode) : Except PyError (List Remaining) :=
  (nodes.filter KubeNode.isServer).mapM nodeStats

/-! ## The limits -/

def maxPerNode : Int := 3

/-- `int(q)` -/
def truncate (q : ℚ) : Int := q.num.tdiv q.den

/-- How many pods of the role fit into what is left. -/
def fits (r : RoleRequest) (s : Remaining) : Int :=
  min (truncate (s.cpu / r.cpu)) (truncate (s.memory / r.memory))

/-- `min([es_cpu_av, es_mem_av])` -/
def fitOn (r : RoleRequest) (s : Remaining) : Except PyError Int :=
  if r.cpu = 0 ∨ r.memory = 0 then .error zeroDivisionError else .ok (fits r s)

/-- A count in a comparison or a sum of numbers. -/
def intCount : Json → Except PyError Int
  | .num n => .ok n
  | .bool b => .ok (if b then 1 else 0)
  | _ => .error (.typeError "'>' not supported between instances")

/-- The role with its count, if that is above 0. -/
def deployed : Option RoleRequest → Except PyError (Option (Int × RoleRequest))
  | none => .ok none
  | some r =>
      match intCount r.count with
      | .ok k => .ok (if 0 < k then some (k, r) else none)
      | .error e => .error e

/-- The totals, and `data_min` once it is assigned. -/
structure Totals where
  data : Int
  ml : Int
  ingest : Int
  dataMin : Option Int

/-- A total after a node on which `m` pods fit, where `tested` is compared with 0. -/
def nextTotal (k m tested total : Int) : Int :=
  if maxPerNode ≤ m then total + maxPerNode
  else if tested = 0 then k
  else k + m

/-- The part of the role `data`. -/
def limitData (r : Option RoleRequest) (s : Remaining) (t : Totals) : Except PyError Totals := do
  match ← deployed r with
  | none => return t
  | some (k, r) =>
      let dataMin ← fitOn r s
      return { t with data := nextTotal k dataMin dataMin t.data, dataMin := some dataMin }

/-- The part of the role `ml`. -/
def limitMl (r : Option RoleRequest) (s : Remaining) (t : Totals) : Except PyError Totals := do
  match ← deployed r with
  | none => return t
  | some (k, r) =>
      let mlMin ← fitOn r s
      return { t with ml := nextTotal k mlMin mlMin t.ml }

/-- The part of the role `ingest`, which tests `data_min`. -/
def limitIngest (r : Option RoleRequest) (s : Remaining) (t : Totals) : Except PyError Totals := do
  match ← deployed r with
  | none => return t
  | some (k, r) =>
      let ingestMin ← fitOn r s
      if maxPerNode ≤ ingestMin then return { t with ingest := t.ingest + maxPerNode }
      else
        match t.dataMin with
        -- no round of the role `data` has assigned it
        | none => throw (.unboundLocalError "data_min")
        | some dataMin => return { t with ingest := nextTotal k ingestMin dataMin t.ingest }

/-- The body of the loop over `request`. -/
def limitNode (rs : RoleRequests) (t : Totals) (s : Remaining) : Except PyError Totals := do
  let t ← limitData rs.data s t
  let t ← limitMl rs.ml s t
  limitIngest rs.ingest s t

structure ScaleLimits where
  master : Int
  data : Int
  ml : Int
  ingest : Int
  serverNodeCount : Nat
deriving DecidableEq

/-- `get_allowable_scale_count`, on the deployment and the nodes that are read -/
def getAllowableScaleCount (d : ElasticDeploy) (nodes : List KubeNode) :
    Except PyError ScaleLimits := do
  let rs ← readRoles d
  let request ← serverStats nodes
  let t ← request.foldlM (limitNode rs) ⟨0, 0, 0, none⟩
  return {
    -- the only limit that is not computed
    master := 3
    data := t.data
    ml := t.ml
    ingest := t.ingest
    serverNodeCount := request.length }

end Scale

end Tfplenum
