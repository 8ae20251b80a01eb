/-
  Tfplenum.Controller.RuleAssignments

  Rule sets name the sensors they are assigned to by copies of host name and
  address.  Deleting a node leaves the copies behind, and so does whatever renames
  it; the one clean-up is in the uninstallation of two applications.  Assignments
  refer to existing sensors as long as each step spares what they name.
-/

import Tfplenum.Controller.HostNameUniqueness
import Tfplenum.Service.RulesetService

namespace Tfplenum

open Lib Program

/-! ## Assignments -/

/-- The document is that of the sensor, by its host name and its address. -/
structure NodeDoc.IsSensor (doc : NodeDoc) (sensor : SimpleSensor) : Prop where
  nodeType : doc.nodeType = NodeTypes.sensor
  hostname : doc.hostname = sensor.hostname
  address : doc.ipAddress = sensor.managementIp

/-- The sensor is in the node collection. -/
def SensorExists (w : World) (sensor : SimpleSensor) : Prop :=
  ∃ id doc, (w.db .nodes).get? id = some doc ∧ doc.IsSensor sensor

/-- Every assignment names an existing sensor; a rule set that a synchronisation takes
    for those of an address is assigned to a sensor at that address. -/
structure AssignmentsExist (w : World) : Prop where
  named : ∀ id ruleSet, (w.db .ruleset).get? id = some ruleSet → ∀ sensor ∈ ruleSet.assigned,
    SensorExists w sensor
  matched : ∀ id ruleSet ipAddress, (w.db .ruleset).get? id = some ruleSet →
    ruleSet.hasSensor ipAddress = true →
      ∃ sensor ∈ ruleSet.assigned, sensor.managementIp = ipAddress ∧ SensorExists w sensor

theorem assignmentsExist_of_named {w : World}
    (h : ∀ id ruleSet, (w.db .ruleset).get? id = some ruleSet → ∀ sensor ∈ ruleSet.assigned,
      SensorExists w sensor) : AssignmentsExist w := by
  refine ⟨h, ?_⟩
  intro id ruleSet ipAddress hget hmatch
  obtain ⟨sensor, hmem, haddress⟩ := List.any_eq_true.mp hmatch
  exact ⟨sensor, hmem, of_decide_eq_true haddress, h id ruleSet hget sensor hmem⟩

/-! ## Operations -/

/-- What changes rule sets or nodes. -/
inductive AssignmentOperation where
  /-- `Rulesets.post` -/
  | createRuleset (ruleset : RuleSetDoc)
  /-- `Rulesets.put` -/
  | updateRuleset (id : String) (update : RuleSetUpdate)
  /-- `DeleteRuleSet.delete` -/
  | deleteRuleset (id : String)
  /-- `delete_helm_command` -/
  | uninstall (deploymentName application : String) (node : Option String) (chartNamespace : String)
  /-- what changes which nodes there are -/
  | nodes (operation : NodeSetOperation)

def AssignmentOperation.program : AssignmentOperation → Prog Unit
  | .createRuleset ruleset => createRulesetService ruleset
  | .updateRuleset id update => discard (Rulesets.put id update)
  | .deleteRuleset id => discard (DeleteRuleSet.delete id)
  | .uninstall deploymentName application node chartNamespace =>
      deleteHelmCommand deploymentName application node chartNamespace
  | .nodes operation => operation.program

/-- What an operation on a rule set does to the document under an id. -/
inductive RulesetWrite : Op → Prop where
  | create (id : String) (ruleset : RuleSetDoc) :
      RulesetWrite (.db (.insertOne .ruleset id ruleset))
  | update (id : String) (update : RuleSetUpdate) :
      RulesetWrite (.db (.updateOne .ruleset id update.apply))
  | pull (id node : String) :
      RulesetWrite (.db (.updateOne .ruleset id (RuleSetDoc.pullSensor node)))
  | delete (id : String) : RulesetWrite (.db (.deleteOne .ruleset id))
  | deleteRules (q : String → RuleDoc → Bool) : RulesetWrite (.db (.deleteMany .rule q))

/-- An operation on rule sets, or one of those on nodes. -/
def Op.assigns (op : Op) : Prop := RulesetWrite op ∨ op.rewrites fun _ _ => True

theorem assigns_of_readsOnly {α : Type} {p : Prog α} (hp : p.Uses Op.readsOnly) :
    p.Uses Op.assigns :=
  hp.mono fun _ hop => .inr (.inl hop)

theorem assigns_write {op : Op} (hop : RulesetWrite op) :
    (Program.perform op : Prog (Op.Res op)).Uses Op.assigns :=
  .call (.inl hop) fun _ => .done _

theorem assigns_removeSensor (node appTypeToFind : String) :
    (removeSensorFromRulesetAssignment node appTypeToFind).Uses Op.assigns := by
  refine (assigns_of_readsOnly (Prog.readsOnly_find _)).bind fun rulesets => ?_
  refine uses_forEach fun row _ => Uses.when fun _ => ?_
  exact Uses.bind (assigns_write (.pull row.1 node)) fun _ => .done _

theorem AssignmentOperation.assigns_program (operation : AssignmentOperation) :
    operation.program.Uses Op.assigns := by
  cases operation with
  | createRuleset ruleset =>
      refine (assigns_of_readsOnly (Prog.readsOnly_ask _)).bind fun id => ?_
      exact Uses.bind (assigns_write (.create id _)) fun _ => Uses.when fun _ => .raise _
  | updateRuleset id update => exact Uses.bind (assigns_write (.update id update)) fun _ => .done _
  | deleteRuleset id =>
      refine Uses.bind ?_ fun _ => .done _
      refine Uses.bind (assigns_write (.deleteRules _)) fun _ => ?_
      exact Uses.bind (assigns_write (.delete id)) fun _ => .done _
  | uninstall deploymentName application node chartNamespace =>
      refine (assigns_of_readsOnly (Prog.uses_orRaise (Prog.readsOnly_ask _))).bind fun result => ?_
      refine Uses.when fun _ => ?_
      cases node with
      | none => exact .done _
      | some node =>
          unfold unassign
          dsimp only
          split
          · exact assigns_removeSensor node _
          · split
            · exact assigns_removeSensor node _
            · exact .done _
  | nodes operation => exact operation.rewrites_program.mono fun _ hop => .inr hop

def assignmentOperations (w : World) (operations : List AssignmentOperation) :
    Config Op Op.Res PyError Unit World :=
  ⟨w, operations.map AssignmentOperation.program⟩

/-! ## One step -/

/-- What the requests on rule sets are trusted with: they only assign sensors that exist
    at that time. -/
structure AssignsExisting (e : Event Op) (w : World) : Prop where
  created : ∀ id ruleset, e.op = .db (.insertOne .ruleset id ruleset) →
    ∀ sensor ∈ ruleset.assigned, SensorExists w sensor
  updated : ∀ id update sensors, e.op = .db (.updateOne .ruleset id (RuleSetUpdate.apply update)) →
    update.sensors = some (some sensors) → ∀ sensor ∈ sensors, SensorExists w sensor

/-- The step neither deletes the stored node nor gives it another type, name or address. -/
structure Spares (op : Op) (id : String) (doc : NodeDoc) : Prop where
  deleteOne : op ≠ .db (.deleteOne .nodes id)
  deleteMany : ∀ q, op = .db (.deleteMany .nodes q) → q id doc = false
  replaceOne : ∀ doc', op = .db (.replaceOne .nodes id doc') → doc'.nodeType = doc.nodeType ∧
    doc'.hostname = doc.hostname ∧ doc'.ipAddress = doc.ipAddress

/-- For every existing sensor that an assignment names, the step spares a node that is it. -/
def SparesAssigned (e : Event Op) (w : World) : Prop :=
  ∀ rsId ruleSet, (w.db .ruleset).get? rsId = some ruleSet → ∀ sensor ∈ ruleSet.assigned,
    SensorExists w sensor →
      ∃ id doc, (w.db .nodes).get? id = some doc ∧ doc.IsSensor sensor ∧ Spares e.op id doc

section Steps

variable {env : Environment} {op : Op} {w : World}

/-- A spared node is still that sensor. -/
theorem sensorExists_of_spares (hop : op.rewrites fun _ _ => True) {id : String} {doc : NodeDoc}
    {sensor : SimpleSensor} (hget : (w.db .nodes).get? id = some doc) (hdoc : doc.IsSensor sensor)
    (hspares : Spares op id doc) : SensorExists (handle env op w).2 sensor := by
  rcases hop with hread | ⟨dop, rfl, hjobs⟩ | (⟨id', rfl⟩ | ⟨q, rfl⟩) | ⟨id', doc', rfl, -⟩
  · refine ⟨id, doc, ?_, hdoc⟩
    rw [db_of_readsOnly hread]
    exact hget
  · have hne : dop.collection ≠ .nodes := by
      rw [hjobs]
      decide
    refine ⟨id, doc, ?_, hdoc⟩
    rw [db_of_ne env w dop hne]
    exact hget
  · have hid : id ≠ id' := by
      rintro rfl
      exact hspares.deleteOne rfl
    refine ⟨id, doc, ?_, hdoc⟩
    rw [db_deleteOne, Table.get?_erase, if_neg hid]
    exact hget
  · have hq := hspares.deleteMany q rfl
    refine ⟨id, doc, ?_, hdoc⟩
    rw [db_deleteMany, Table.get?_remove, Option.filter_eq_some_iff]
    exact ⟨hget, by simp [hq]⟩
  · by_cases hid : id = id'
    · subst hid
      obtain ⟨htype, hname, haddress⟩ := hspares.replaceOne doc' rfl
      refine ⟨id, doc', ?_, htype.trans hdoc.nodeType, hname.trans hdoc.hostname,
        haddress.trans hdoc.address⟩
      rw [db_replaceOne, Table.get?_upsert, if_pos rfl]
    · refine ⟨id, doc, ?_, hdoc⟩
      rw [db_replaceOne, Table.get?_upsert, if_neg hid]
      exact hget

/-- What is done to nodes is not done to rule sets. -/
theorem rulesets_of_rewrites (hop : op.rewrites fun _ _ => True) :
    (handle env op w).2.db .ruleset = w.db .ruleset := by
  rcases hop with hread | ⟨dop, rfl, hjobs⟩ | (⟨id', rfl⟩ | ⟨q, rfl⟩) | ⟨id', doc', rfl, -⟩
  · rw [db_of_readsOnly hread]
  · have hne : dop.collection ≠ .ruleset := by
      rw [hjobs]
      decide
    exact db_of_ne env w dop hne
  · have hne : Collection.nodes ≠ .ruleset := by decide
    exact db_of_ne env w (.deleteOne .nodes id') hne
  · have hne : Collection.nodes ≠ .ruleset := by decide
    exact db_of_ne env w (.deleteMany .nodes q) hne
  · have hne : Collection.nodes ≠ .ruleset := by decide
    exact db_of_ne env w (.replaceOne .nodes id' doc') hne

theorem RulesetWrite.nodes (hop : RulesetWrite op) :
    (handle env op w).2.db .nodes = w.db .nodes := by
  have hne : Collection.ruleset ≠ .nodes := by decide
  have hne' : Collection.rule ≠ .nodes := by decide
  cases hop with
  | create id ruleset => exact db_of_ne env w (.insertOne .ruleset id ruleset) hne
  | update id update => exact db_of_ne env w (.updateOne .ruleset id _) hne
  | pull id node => exact db_of_ne env w (.updateOne .ruleset id _) hne
  | delete id => exact db_of_ne env w (.deleteOne .ruleset id) hne
  | deleteRules q => exact db_of_ne env w (.deleteMany .rule q) hne'

/-- A sensor a rule set names after a step on rule sets was named before, or exists. -/
theorem RulesetWrite.named (hop : RulesetWrite op) {i : Nat} (hassign : AssignsExisting ⟨i, op⟩ w)
    (hw : AssignmentsExist w) {id : String} {ruleSet : RuleSetDoc}
    (hget : ((handle env op w).2.db .ruleset).get? id = some ruleSet) :
    ∀ sensor ∈ ruleSet.assigned, SensorExists w sensor := by
  cases hop with
  | create id' ruleset =>
      have hstored : ((w.db .ruleset).get? id = some ruleSet) ∨ ruleSet = ruleset := by
        cases hfree : (w.db .ruleset).get? id' with
        | none =>
            have happly := DocOp.apply_insertOne_of_none (d := ruleset) hfree
            simp only [handle_db, happly, Function.update_self, Table.get?_upsert] at hget
            split at hget
            · exact .inr (Option.some.inj hget).symm
            · exact .inl hget
        | some other =>
            have hsome : ((w.db .ruleset).get? id').isSome := by rw [hfree]; rfl
            have happly := DocOp.apply_insertOne_of_some (d := ruleset) hsome
            simp only [handle_db, happly] at hget
            exact .inl hget
      rcases hstored with hold | rfl
      · exact hw.named id ruleSet hold
      · exact hassign.created id' _ rfl
  | update id' update =>
      rw [db_updateOne, Table.get?_modify] at hget
      split at hget
      · obtain ⟨old, hold, rfl⟩ := Option.map_eq_some_iff.mp hget
        intro sensor hmem
        cases hsensors : update.sensors with
        | none =>
            -- the update leaves the assignment out
            refine hw.named id old hold sensor ?_
            simpa [RuleSetDoc.assigned, RuleSetUpdate.apply, hsensors] using hmem
        | some sensors =>
            cases sensors with
            | none => simp [RuleSetDoc.assigned, RuleSetUpdate.apply, hsensors] at hmem
            | some sensors =>
                refine hassign.updated id' update sensors rfl hsensors sensor ?_
                simpa [RuleSetDoc.assigned, RuleSetUpdate.apply, hsensors] using hmem
      · exact hw.named id ruleSet hget
  | pull id' node =>
      rw [db_updateOne, Table.get?_modify] at hget
      split at hget
      · obtain ⟨old, hold, rfl⟩ := Option.map_eq_some_iff.mp hget
        intro sensor hmem
        refine hw.named id old hold sensor ?_
        cases hsensors : old.sensors with
        | none => simp [RuleSetDoc.assigned, RuleSetDoc.pullSensor, hsensors] at hmem
        | some sensors =>
            cases sensors with
            | none => simp [RuleSetDoc.assigned, RuleSetDoc.pullSensor, hsensors] at hmem
            | some sensors =>
                simp only [RuleSetDoc.assigned, RuleSetDoc.pullSensor, hsensors, Option.map_some,
                  Option.getD_some, List.mem_filter] at hmem
                simpa [RuleSetDoc.assigned, hsensors] using hmem.1
      · exact hw.named id ruleSet hget
  | delete id' =>
      rw [db_deleteOne, Table.get?_erase] at hget
      split at hget
      · cases hget
      · exact hw.named id ruleSet hget
  | deleteRules q =>
      have hne : Collection.rule ≠ .ruleset := by decide
      rw [db_of_ne env w (.deleteMany .rule q) hne] at hget
      exact hw.named id ruleSet hget

theorem assignmentsExist_step {i : Nat} (hop : op.assigns) (hassign : AssignsExisting ⟨i, op⟩ w)
    (hspares : SparesAssigned ⟨i, op⟩ w) (hw : AssignmentsExist w) :
    AssignmentsExist (handle env op w).2 := by
  refine assignmentsExist_of_named ?_
  intro rsId ruleSet hget sensor hmem
  rcases hop with hwrite | hnodes
  · obtain ⟨id, doc, hdoc, hsensor⟩ := hwrite.named hassign hw hget sensor hmem
    refine ⟨id, doc, ?_, hsensor⟩
    rw [hwrite.nodes]
    exact hdoc
  · rw [rulesets_of_rewrites hnodes] at hget
    have hexists : SensorExists w sensor := hw.named rsId ruleSet hget sensor hmem
    obtain ⟨id, doc, hdoc, hsensor, hspared⟩ := hspares rsId ruleSet hget sensor hmem hexists
    exact sensorExists_of_spares hnodes hdoc hsensor hspared

end Steps

/-! ## Runs -/

/-- In every run whose requests assign existing sensors and whose steps spare what is
    assigned, assignments refer to existing sensors in every state reached. -/
theorem assignmentsExist_of_sparesAssigned (env : Environment) (w : World)
    (hw : AssignmentsExist w) (operations : List AssignmentOperation) (es : List (Event Op))
    (c' : Config Op Op.Res PyError Unit World)
    (hrun : Run (handle env) (assignmentOperations w operations) es c')
    (hassign : Meets (handle env) AssignsExisting w es)
    (hspares : Meets (handle env) SparesAssigned w es) : AssignmentsExist c'.state := by
  have huse : ThreadsUse (fun _ => Op.assigns) (assignmentOperations w operations) := by
    intro i p hi
    have hmem : p ∈ operations.map AssignmentOperation.program := List.mem_of_getElem? hi
    obtain ⟨operation, -, rfl⟩ := List.mem_map.mp hmem
    exact operation.assigns_program
  exact hrun.invariant huse (hassign.and hspares)
    (fun i op s hop hC hs => assignmentsExist_step hop hC.1 hC.2 hs) hw

/-! ## A sensor is deleted -/

def sensor1Doc : NodeDoc :=
  { server1Doc with hostname := "sensor1.lan", nodeType := NodeTypes.sensor }

def sensor1Rules : RuleSetDoc where
  appType := "Suricata"
  name := "Emerging Threats"
  sensors := some (some [⟨"sensor1.lan", "10.40.12.146"⟩])
  isEnabled := some true
  state := .dirty
  sensorStates := none

/-- One sensor, and one rule set that is assigned to it. -/
def sensor1World : World where
  db
    | .settings => Table.empty.upsert generalSettingsId lanForm.dump
    | .nodes => Table.empty.upsert "n1" sensor1Doc
    | .ruleset => Table.empty.upsert "r1" sensor1Rules
    | _ => Table.empty
  calls := 0

theorem assignmentsExist_sensor1World : AssignmentsExist sensor1World := by
  refine assignmentsExist_of_named ?_
  intro id ruleSet hget sensor hmem
  have hstored : (Table.empty.upsert "r1" sensor1Rules).get? id = some ruleSet := hget
  rw [Table.get?_upsert] at hstored
  split at hstored
  · cases hstored
    cases List.mem_singleton.mp hmem
    exact ⟨"n1", sensor1Doc, rfl, rfl, rfl, rfl⟩
  · cases hstored

/-! ### Checks of the conditions -/

instance (doc : NodeDoc) (sensor : SimpleSensor) : Decidable (doc.IsSensor sensor) :=
  decidable_of_iff (doc.nodeType = NodeTypes.sensor ∧ doc.hostname = sensor.hostname ∧
      doc.ipAddress = sensor.managementIp)
    ⟨fun h => ⟨h.1, h.2.1, h.2.2⟩, fun h => ⟨h.nodeType, h.hostname, h.address⟩⟩

def sensorExists? (w : World) (sensor : SimpleSensor) : Bool :=
  (w.db .nodes).rows.any fun row => decide (row.2.IsSensor sensor)

theorem sensorExists_of_check {w : World} {sensor : SimpleSensor}
    (h : sensorExists? w sensor = true) : SensorExists w sensor := by
  obtain ⟨row, hmem, hsensor⟩ := List.any_eq_true.mp h
  exact ⟨row.1, row.2, Table.get?_eq_some_iff.mpr hmem, of_decide_eq_true hsensor⟩

/-- What the step assigns exists; an update is tried on a rule set without sensors. -/
def assignsExisting? (e : Event Op) (w : World) : Bool :=
  match e.op with
  | .db (.insertOne .ruleset _ ruleset) => ruleset.assigned.all (sensorExists? w)
  | .db (.updateOne .ruleset _ f) =>
      (f ⟨"", "", none, none, .created, none⟩).assigned.all (sensorExists? w)
  | _ => true

theorem assignsExisting_of_check (e : Event Op) (w : World) (h : assignsExisting? e w = true) :
    AssignsExisting e w := by
  refine ⟨?_, ?_⟩
  · intro id ruleset hop sensor hmem
    rw [assignsExisting?, hop] at h
    exact sensorExists_of_check (List.all_eq_true.mp h sensor hmem)
  · intro id update sensors hop hsensors sensor hmem
    rw [assignsExisting?, hop] at h
    refine sensorExists_of_check (List.all_eq_true.mp h sensor ?_)
    simpa [RuleSetDoc.assigned, RuleSetUpdate.apply, hsensors] using hmem

def spares? (op : Op) (id : String) (doc : NodeDoc) : Bool :=
  match op with
  | .db (.deleteOne .nodes id') => id' ≠ id
  | .db (.deleteMany .nodes q) => !q id doc
  | .db (.replaceOne .nodes id' doc') => id' ≠ id ||
      decide (doc'.nodeType = doc.nodeType ∧ doc'.hostname = doc.hostname ∧
        doc'.ipAddress = doc.ipAddress)
  | _ => true

theorem spares_of_check {op : Op} {id : String} {doc : NodeDoc} (h : spares? op id doc = true) :
    Spares op id doc := by
  refine ⟨?_, ?_, ?_⟩
  · rintro rfl
    simp [spares?] at h
  · rintro q rfl
    simpa [spares?] using h
  · rintro doc' rfl
    simpa [spares?] using h

/-- Each sensor that is assigned is a node that the step spares. -/
def sparesAssigned? (e : Event Op) (w : World) : Bool :=
  (w.db .ruleset).rows.all fun row => row.2.assigned.all fun sensor =>
    (w.db .nodes).rows.any fun node =>
      decide (node.2.IsSensor sensor) && spares? e.op node.1 node.2

theorem sparesAssigned_of_check (e : Event Op) (w : World) (h : sparesAssigned? e w = true) :
    SparesAssigned e w := by
  intro rsId ruleSet hget sensor hmem _
  have hrow := List.all_eq_true.mp h (rsId, ruleSet) (Table.get?_eq_some_iff.mp hget)
  obtain ⟨node, hnode, hspared⟩ := List.any_eq_true.mp (List.all_eq_true.mp hrow sensor hmem)
  obtain ⟨hsensor, hspares⟩ := Bool.and_eq_true_iff.mp hspared
  exact ⟨node.1, node.2, Table.get?_eq_some_iff.mpr hnode, of_decide_eq_true hsensor,
    spares_of_check hspares⟩

/-! ### The rule set is assigned to another sensor before -/

/-- A second sensor that has no rule set. -/
def twoSensorsWorld : World where
  db
    | .nodes => (Table.empty.upsert "n1" sensor1Doc).upsert "n2"
        { sensor1Doc with hostname := "sensor2.lan", ipAddress := "10.40.12.147" }
    | c => sensor1World.db c
  calls := 0

theorem assignmentsExist_twoSensorsWorld : AssignmentsExist twoSensorsWorld := by
  refine assignmentsExist_of_named ?_
  intro id ruleSet hget sensor hmem
  obtain ⟨nodeId, doc, hdoc, hsensor⟩ := assignmentsExist_sensor1World.named id ruleSet hget sensor
    hmem
  have hstored : (Table.empty.upsert "n1" sensor1Doc).get? nodeId = some doc := hdoc
  rw [Table.get?_upsert] at hstored
  split at hstored
  · rename_i hid
    subst hid
    exact ⟨"n1", doc, hstored, hsensor⟩
  · cases hstored

/-- The rule set is assigned to `sensor2` alone. -/
def assignToSensor2 : RuleSetUpdate :=
  ⟨none, none, some (some [⟨"sensor2.lan", "10.40.12.147"⟩]), none, none⟩

/-- While `sensor1` is being deleted its rule set is assigned to `sensor2`. -/
def reassignThenDelete : List (Event Op) × Config Op Op.Res PyError Unit World :=
  (assignmentOperations twoSensorsWorld
    [.updateRuleset "r1" assignToSensor2, .nodes (.deleteNode "sensor1")]).schedule
      (handle countingEnv) (List.replicate 2 1 ++ [0] ++ List.replicate 40 1)

/-- `sensor2` is left, and the rule set is assigned to it. -/
theorem assignmentsExist_of_reassignThenDelete :
    AssignmentsExist reassignThenDelete.2.state ∧
      (reassignThenDelete.2.state.db .nodes).rows.map Prod.fst = ["n2"] ∧
      (reassignThenDelete.2.state.db .ruleset).rows.map (fun row => row.2.assigned) =
        [[⟨"sensor2.lan", "10.40.12.147"⟩]] := by
  refine ⟨?_, by decide +kernel, by decide +kernel⟩
  exact assignmentsExist_of_sparesAssigned countingEnv twoSensorsWorld
    assignmentsExist_twoSensorsWorld
    [.updateRuleset "r1" assignToSensor2, .nodes (.deleteNode "sensor1")] _ _ (run_schedule _ _ _)
    (meets_of_check assignsExisting_of_check (by decide +kernel))
    (meets_of_check sparesAssigned_of_check (by decide +kernel))

/-- `sensor1` is deleted while its rule set is assigned to it. -/
def deleteAssigned : List (Event Op) × Config Op Op.Res PyError Unit World :=
  (assignmentOperations sensor1World [.nodes (.deleteNode "sensor1")]).schedule
    (handle countingEnv) (List.replicate 40 0)

/-- The property without a condition on what the steps delete. -/
def AssignmentsAlwaysExist : Prop :=
  ∀ (env : Environment) (w : World), AssignmentsExist w →
    ∀ (operations : List AssignmentOperation) (es : List (Event Op))
      (c' : Config Op Op.Res PyError Unit World),
      Run (handle env) (assignmentOperations w operations) es c' →
        Meets (handle env) AssignsExisting w es → AssignmentsExist c'.state

theorem not_assignmentsAlwaysExist : ¬ AssignmentsAlwaysExist := by
  intro hclaim
  have hexist := hclaim countingEnv sensor1World assignmentsExist_sensor1World _ _ deleteAssigned.2
    (run_schedule _ _ _) (meets_of_check assignsExisting_of_check (by decide +kernel))
  have hassigned : (deleteAssigned.2.state.db .ruleset).get? "r1" = some sensor1Rules := by
    decide +kernel
  have hnodes : (deleteAssigned.2.state.db .nodes).rows.isEmpty = true := by decide +kernel
  obtain ⟨id, doc, hget, -⟩ := hexist.named "r1" sensor1Rules hassigned _ (List.mem_cons_self ..)
  rw [Table.get?_eq_some_iff, List.isEmpty_iff.mp hnodes] at hget
  cases hget

end Tfplenum
