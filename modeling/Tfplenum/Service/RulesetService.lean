/-
  Tfplenum.Service.RulesetService

  The requests on rule sets of `controller/ruleset_controller.py`, and what the
  uninstallation of an application does to their assignments.  A request carries
  what its model describes; the fields of an update that are left out stay.
-/

import Tfplenum.Persistence

namespace Tfplenum

open Lib

/-! ## Rule sets -/

/-- The sensors that are listed. -/
def RuleSetDoc.assigned (doc : RuleSetDoc) : List SimpleSensor := (doc.sensors.getD none).getD []

/-- The rule set is assigned to a sensor of this address. -/
def RuleSetDoc.hasSensor (ipAddress : String) (doc : RuleSetDoc) : Bool :=
  doc.assigned.any fun sensor => sensor.managementIp = ipAddress

/-- `create_ruleset_service` -/
def createRulesetService (ruleset : RuleSetDoc) : Prog Unit := do
  let id ← Prog.ask .uuid4
  let inserted ← Prog.insertOne .ruleset id { ruleset with state := .created }
  Program.when (inserted = false) (Program.raise (.other "DuplicateKeyError"))

/-- The payload of an update, without its `_id`. -/
structure RuleSetUpdate where
  appType : Option String
  name : Option String
  sensors : Option (Option (List SimpleSensor))
  isEnabled : Option Bool
  sensorStates : Option (Option (List SensorState))

/-- `{"$set": ruleset}` -/
def RuleSetUpdate.apply (update : RuleSetUpdate) (doc : RuleSetDoc) : RuleSetDoc where
  appType := update.appType.getD doc.appType
  name := update.name.getD doc.name
  sensors := update.sensors.or doc.sensors
  isEnabled := update.isEnabled.or doc.isEnabled
  state := .dirty
  sensorStates := update.sensorStates.getD doc.sensorStates

/-- `Rulesets.put`, answered with the updated rule set if there is one. -/
def Rulesets.put (id : String) (update : RuleSetUpdate) : Prog (Option RuleSetDoc) :=
  Prog.updateOne .ruleset id update.apply

/-- `DeleteRuleSet.delete`, answered with whether there was such a rule set. -/
def DeleteRuleSet.delete (id : String) : Prog Bool := do
  Prog.deleteMany .rule fun _ rule => rule.ruleSetId = id
  let deletedCount ← Prog.deleteOne .ruleset id
  pure (deletedCount = 1)

/-! ## Uninstalling an application -/

/-- `{'$pull': {"sensors": {"hostname": node}}}` -/
def RuleSetDoc.pullSensor (node : String) (doc : RuleSetDoc) : RuleSetDoc :=
  { doc with
    sensors := doc.sensors.map
      (Option.map fun sensors => sensors.filter fun s => s.hostname ≠ node) }

/-- `_remove_sensor_from_ruleset_assignment` -/
def removeSensorFromRulesetAssignment (node appTypeToFind : String) : Prog Unit := do
  let rulesets ← Prog.find .ruleset fun _ _ => true
  Program.forEach rulesets fun row =>
    Program.when (hasSubstring row.2.appType.toLower appTypeToFind = true)
      (discard (Prog.updateOne .ruleset row.1 (RuleSetDoc.pullSensor node)))

/-- The sensor of a deployment that is gone leaves the rule sets of its application. -/
def unassign (application : String) (node : Option String) : Prog Unit :=
  match node with
  | none => pure ()
  | some node =>
      if hasSubstring application.toLower "suricata" = true then
        removeSensorFromRulesetAssignment node "suricata"
      else if hasSubstring application.toLower "zeek" = true then
        removeSensorFromRulesetAssignment node "zeek"
      else pure ()

/-- `delete_helm_command` -/
def deleteHelmCommand (deploymentName application : String) (node : Option String)
    (chartNamespace : String) : Prog Unit := do
  let result ← Prog.orRaise (Prog.ask (.runCommand
    ("helm delete " ++ deploymentName ++ " --namespace " ++ chartNamespace ++ " --wait")))
  Program.when (result.2 = 0 ∧ result.1 ≠ "") (unassign application node)

end Tfplenum
