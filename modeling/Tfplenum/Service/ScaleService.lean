/-
  Tfplenum.Service.ScaleService

  `service/scale_service.py` and `models/scale.py`: the deployment of Elasticsearch as
  it is stored, the request that scales it, the counts of the nodes by role, and the
  job that waits for the cluster.
-/

import Tfplenum.Models.Fields
import Mathlib.Algebra.Order.Field.Rat

namespace Tfplenum

open Lib

/-! ## The deployment -/

/-- A container of the pods of a node set, by what it requests, where it does; memory is in
    `Mi`. -/
structure ElasticContainer where
  cpu : Option ℚ
  memory : Option ℚ

/-- An entry of `nodeSets`. -/
structure NodeSet where
  name : String
  count : Json
  /-- `config["node.roles"]` -/
  roles : List String
  /-- `podTemplate["spec"]["containers"]`, if there is one -/
  containers : Option (List ElasticContainer)
  rest : List (String × Json)

structure ElasticSpec where
  nodeSets : Option (List NodeSet)
  rest : List (String × Json)

/-- The document of the deployment; nothing is in it where none is stored. -/
structure ElasticDeploy where
  spec : Option ElasticSpec
  rest : List (String × Json)

namespace ElasticDeploy

/-- The node sets, if there are any to look through. -/
def nodeSets? (d : ElasticDeploy) : Option (List NodeSet) := d.spec.bind ElasticSpec.nodeSets

def mapNodeSets (f : NodeSet → NodeSet) (d : ElasticDeploy) : ElasticDeploy :=
  { d with spec := d.spec.map fun spec =>
      { spec with nodeSets := spec.nodeSets.map fun sets => sets.map f } }

/-- `deployment["spec"]["nodeSets"]` -/
def getNodeSets (d : ElasticDeploy) : Except PyError (List NodeSet) :=
  match d.spec with
  | none => .error (.keyError "spec")
  | some spec =>
      match spec.nodeSets with
      | none => .error (.keyError "nodeSets")
      | some sets => .ok sets

theorem getNodeSets_of_some {d : ElasticDeploy} {sets : List NodeSet}
    (h : d.nodeSets? = some sets) : d.getNodeSets = .ok sets := by
  obtain ⟨_ | ⟨_ | s, _⟩, _⟩ := d
  · cases h
  · cases h
  · exact congrArg Except.ok (Option.some.inj h)

theorem getNodeSets_of_none {d : ElasticDeploy} (h : d.nodeSets? = none) :
    ∃ e, d.getNodeSets = .error e := by
  obtain ⟨_ | ⟨_ | s, _⟩, _⟩ := d
  · exact ⟨_, rfl⟩
  · exact ⟨_, rfl⟩
  · cases h

@[simp] theorem nodeSets?_mapNodeSets (f : NodeSet → NodeSet) (d : ElasticDeploy) :
    (d.mapNodeSets f).nodeSets? = d.nodeSets?.map fun sets => sets.map f := by
  obtain ⟨_ | ⟨_ | s, _⟩, _⟩ := d <;> rfl

theorem mapNodeSets_mapNodeSets (f g : NodeSet → NodeSet) (d : ElasticDeploy) :
    (d.mapNodeSets f).mapNodeSets g = d.mapNodeSets fun n => g (f n) := by
  obtain ⟨_ | ⟨_ | s, _⟩, _⟩ := d <;> simp [mapNodeSets, Function.comp_def]

/-- Two changes of the node sets come to the same just where they do on each of them. -/
theorem mapNodeSets_eq_iff {f g : NodeSet → NodeSet} {d : ElasticDeploy} :
    d.mapNodeSets f = d.mapNodeSets g ↔ ∀ sets ∈ d.nodeSets?, ∀ n ∈ sets, f n = g n := by
  obtain ⟨_ | ⟨_ | s, _⟩, _⟩ := d <;> simp [mapNodeSets, nodeSets?]

/-- A change that leaves each node set as it is. -/
theorem mapNodeSets_eq_self {f : NodeSet → NodeSet} {d : ElasticDeploy}
    (h : ∀ sets ∈ d.nodeSets?, ∀ n ∈ sets, f n = n) : d.mapNodeSets f = d := by
  obtain ⟨_ | ⟨_ | s, _⟩, _⟩ := d
  · rfl
  · rfl
  · have hs : s.map f = s := (List.map_congr_left (h s rfl)).trans (List.map_id' s)
    simp [mapNodeSets, hs]

end ElasticDeploy

/-! ## The request -/

namespace ElasticScaleNodeInSchema

/-- `marsh_fields.Integer(required=True, allow_none=False)` -/
def countField (name : String) : Field Json Int :=
  ⟨name, true, false, Fields.Integer.deserialize, Fields.unchecked⟩

def fieldNames : List String := ["master", "data", "ml", "ingest"]

/-- What `load` has to say against a dictionary. -/
def errors (payload : List (String × Json)) : List (String × List String) :=
  (fieldNames.flatMap fun name => ((countField name).load Fields.isNull payload).errors name) ++
    unknownFields fieldNames payload

end ElasticScaleNodeInSchema

/-- `_get_new_count_from_payload` -/
def getNewCountFromPayload (elastic : List (String × Json)) (name : String) : Json :=
  (elastic.lookup name).getD .null

def NodeSet.scale (name : String) (count : Json) (n : NodeSet) : NodeSet :=
  if n.name = name then { n with count := count } else n

/-- `_scale`, by the deployment it leaves -/
def scale (deployment : ElasticDeploy) (name : String) (count : Json) :
    Except PyError ElasticDeploy :=
  -- a count of 0 is passed over like one that is not given
  if count.truthy then do
    let _ ← deployment.getNodeSets
    return deployment.mapNodeSets (NodeSet.scale name count)
  else .ok deployment

/-- `post_elastic_scale`, by the deployment that is handed to `update` -/
def postElasticScale (payload : List (String × Json)) (deployment : ElasticDeploy) :
    Except PyError ElasticDeploy := do
  let deployment ← scale deployment "master" (getNewCountFromPayload payload "master")
  let deployment ← scale deployment "ml" (getNewCountFromPayload payload "ml")
  let deployment ← scale deployment "data" (getNewCountFromPayload payload "data")
  scale deployment "ingest" (getNewCountFromPayload payload "ingest")

/-- `ScaleElasticCtrlApi.post`, up to the update -/
def scaleElastic (body : Json) (deployment : ElasticDeploy) : Except PyError ElasticDeploy :=
  match body with
  | .obj payload =>
      let errors := ElasticScaleNodeInSchema.errors payload
      if errors = [] then postElasticScale payload deployment
      else .error (.validationError errors)
  | _ => .error (.validationError [("_schema", ["Invalid input type."])])

/-! ## The nodes of the cluster -/

/-- What `parse_nodes` counts. -/
structure NodeTally where
  mdil : Nat
  master : Nat
  data : Nat
  ingest : Nat
  machineLearning : Nat
deriving DecidableEq, Repr

/-- `letter in role` -/
def carries (letter : Char) (role : String) : Bool := role.toList.contains letter

/-- The body of the loop over the nodes. -/
def NodeTally.count (t : NodeTally) (role : String) : NodeTally :=
  -- a node of all three roles is in none of the counts below
  if carries 'm' role && carries 'd' role && carries 'i' role then { t with mdil := t.mdil + 1 }
  else if carries 'm' role then { t with master := t.master + 1 }
  else if carries 'd' role then { t with data := t.data + 1 }
  else if carries 'i' role then { t with ingest := t.ingest + 1 }
  else if carries 'l' role then { t with machineLearning := t.machineLearning + 1 }
  else t

def tallyNodes (roles : List String) : NodeTally := roles.foldl NodeTally.count ⟨0, 0, 0, 0, 0⟩

/-- The counts by role that `parse_nodes` returns. -/
structure NodeCounts where
  master : Nat
  data : Nat
  ml : Nat
  ingest : Nat
deriving DecidableEq, Repr

/-- `parse_nodes`, on the roles of the nodes, if there are any -/
def parseNodes : Option (List String) → NodeCounts
  | none => ⟨0, 0, 0, 0⟩
  | some roles =>
      let t := tallyNodes roles
      -- the source: if data is zero then we are working with an mdil cluster
      { master := if t.master = 0 ∧ t.data = 0 then t.mdil else t.master
        data := t.data
        ml := t.machineLearning
        ingest := t.ingest }

/-! ## The status of the cluster -/

/-- What `get_namespaced_custom_object_status` answers. -/
inductive ElasticResource where
  /-- `None`, without a configuration of Kubernetes -/
  | none
  /-- `"Unknown"`, after an exception -/
  | unknown
  /-- the entries of its status, where it has them -/
  | found (phase : Option String) (availableNodes : Option Int)
deriving DecidableEq

namespace ElasticResource

/-- `resp["status"]["phase"]` -/
def getPhase : ElasticResource → Except PyError String
  | none => .error (.typeError "'NoneType' object is not subscriptable")
  | unknown => .error (.typeError "string indices must be integers")
  | found (some phase) _ => .ok phase
  | found Option.none _ => .error (.keyError "phase")

/-- `resp["status"]["availableNodes"]` -/
def getAvailableNodes : ElasticResource → Except PyError Int
  | none => .error (.typeError "'NoneType' object is not subscriptable")
  | unknown => .error (.typeError "string indices must be integers")
  | found _ (some n) => .ok n
  | found _ Option.none => .error (.keyError "availableNodes")

end ElasticResource

/-- What `es_cluster_status` sees. -/
structure ScalePoll where
  /-- `read()` -/
  deployment : Except PyError ElasticDeploy
  /-- `get_es_nodes()`, by the roles of the nodes -/
  nodes : Option (List String)
  resource : ElasticResource

/-- `total + value` for a JSON value. -/
def addJson (total : Int) : Json → Except PyError Int
  | .num n => .ok (total + n)
  | .bool b => .ok (total + if b then 1 else 0)
  | _ => .error (.typeError "unsupported operand type(s) for +=")

/-- `n == value` for a JSON value. -/
def eqJson (n : Int) : Json → Bool
  | .num m => n = m
  | .bool b => n = if b then 1 else 0
  | _ => false

/-- The counts of the deployment. -/
structure DeployCounts where
  master : Json
  data : Json
  ml : Json
  ingest : Json
  total : Int

def DeployCounts.zero : DeployCounts := ⟨.num 0, .num 0, .num 0, .num 0, 0⟩

/-- The body of the loop over the node sets. -/
def DeployCounts.add (c : DeployCounts) (n : NodeSet) : Except PyError DeployCounts := do
  let total ← addJson c.total n.count
  return {
    master := if n.name = "master" then n.count else c.master
    data := if n.name = "data" then n.count else c.data
    ml := if n.name = "ml" then n.count else c.ml
    ingest := if n.name = "ingest" then n.count else c.ingest
    total := total }

def deployCounts (d : ElasticDeploy) : Except PyError DeployCounts :=
  (d.nodeSets?.getD []).foldlM DeployCounts.add DeployCounts.zero

/-- There are nodes, as many of each role as are deployed. -/
def countsAgree (nodes : Option (List String)) (c : DeployCounts) : Bool :=
  match nodes with
  | some (role :: roles) =>
      let n := parseNodes (some (role :: roles))
      eqJson n.master c.master && eqJson n.data c.data && eqJson n.ml c.ml &&
        eqJson n.ingest c.ingest
  | _ => false

/-- The `try` of `es_cluster_status` -/
def esClusterStatusBody (poll : ScalePoll) : Except PyError String := do
  let deployment ← poll.deployment
  let counts ← deployCounts deployment
  let ready ←
    if countsAgree poll.nodes counts then do
      let phase ← poll.resource.getPhase
      -- the number of nodes is looked at only in this phase
      if phase = "Ready" then do
        let availableNodes ← poll.resource.getAvailableNodes
        pure (decide (availableNodes = counts.total))
      else pure false
    else pure false
  if ready then return "Ready"
  if poll.resource = .none then return "None"
  let phase ← poll.resource.getPhase
  return if phase = "Ready" then "Pending" else phase

/-- `es_cluster_status` -/
def esClusterStatus (poll : ScalePoll) : String :=
  match esClusterStatusBody poll with
  | .ok status => status
  | .error _ => "Unknown"

/-! ## Waiting for the cluster -/

/-- A notification of the job, by where it is sent. -/
inductive ScaleNotice where
  | started
  | inProgress
  | statusIs (status : String)
  | completed
deriving DecidableEq, Repr

namespace ScaleNotice

def message (application : String) : ScaleNotice → String
  | started => application ++ " scaling started."
  | inProgress => application ++ " scaling in progress."
  | statusIs status => application ++ " scaling is " ++ status ++ "."
  | completed => application ++ " scaling completed successfully."

def status : ScaleNotice → String
  | started => "STARTED"
  | inProgress | statusIs _ => "IN_PROGRESS"
  | completed => "COMPLETED"

end ScaleNotice

/-- The loop of `check_scale_status` on the polls from the `i`-th on, `fuel` of them at most;
    it is not through after them if no status was `Ready`. -/
def waitReady (polls : Nat → ScalePoll) : Nat → Nat → String → Option (List ScaleNotice)
  | 0, _, _ => none
  | fuel + 1, i, previousStatus =>
      let status := esClusterStatus (polls i)
      -- a status is announced when it has changed
      let notices := if status ∉ ["Ready", previousStatus] then [.statusIs status] else []
      if status = "Ready" then some notices
      else (waitReady polls fuel (i + 1) status).map (notices ++ ·)

/-- `check_scale_status`, by its notifications, if `fuel` polls of the loop are enough -/
def checkScaleStatus (polls : Nat → ScalePoll) (fuel : Nat) : Option (List ScaleNotice) :=
  (waitReady polls fuel 1 (esClusterStatus (polls 0))).map fun notices =>
    [.started, .inProgress] ++ notices ++ [.completed]

end Tfplenum
