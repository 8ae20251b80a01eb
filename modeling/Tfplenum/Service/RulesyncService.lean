/-
  Tfplenum.Service.RulesyncService

  `service/rulesync_service.py`: the files of each sensor are built from the rule
  sets assigned to it and put on the sensor, the outcome is kept as the state of the
  sensor in its rule sets, and the state of each rule set is the worst of these.

  A connection is made by the first call that uses it.  The address and the host
  name among the facts of a node are texts.
-/

import Tfplenum.Models.Nodes
import Tfplenum.Service.RuleService

namespace Tfplenum

open Lib

def suricataRulesetLoc := "/opt/tfplenum/suricata/rules/suricata.rules"
def zeekScriptsDir := "/opt/tfplenum/zeek/scripts/"
def zeekIntelPath := "/opt/tfplenum/zeek/intel.dat"
def zeekSigPath := "/opt/tfplenum/zeek/custom.sig"
def zeekScriptsZip := "/tmp/zeek_scripts.zip"

/-- `_run_cmd_or_raise` -/
def runCmdOrRaise (ipAddress cmd : String) : Prog Unit := do
  let returnCode ← Prog.orRaise (Prog.ask (.fabricRun ipAddress cmd))
  Program.when (returnCode ≠ 0) (Program.raise (.ruleSyncError ("Failed to run " ++ cmd)))

/-- `except RuleSyncError as rule_sync_error: raise RuleSyncError from rule_sync_error` -/
def raiseAnew {α : Type} : PyError → Prog α
  | .ruleSyncError _ => Program.raise (.ruleSyncError "")
  | e => Program.raise e

/-! ## Reading rule sets and rules -/

/-- `_get_rulesets` -/
def getRulesets : Prog (List (String × RuleSetDoc)) := Prog.find .ruleset fun _ _ => true

/-- `mongo_rule().find({"rule_set_id": rule_set_id})` -/
def findRules (ruleSetId : String) : Prog (List (String × RuleDoc)) :=
  Prog.find .rule fun _ rule => rule.ruleSetId = ruleSetId

/-- The rules a file is built from are read twice, once to see whether there are any. -/
def rulesToWrite (ruleSetId : String) : Prog (List (String × RuleDoc)) := do
  let rulesList ← findRules ruleSetId
  if rulesList.isEmpty then pure [] else findRules ruleSetId

/-- `_is_sensor_in_ruleset` -/
def isSensorInRuleset (ipAddress : String) (ruleSet : RuleSetDoc) : Prog Bool := do
  let sensors ← required "sensors" ruleSet.sensors
  pure ((sensors.getD []).any fun sensor => sensor.managementIp = ipAddress)

/-- The rule set goes into the file of the sensor: its type is looked at first, then its
    sensors, and whether it is enabled only if the sensor is among them. -/
def goesIntoFile (ruleType ipAddress : String) (ruleSet : RuleSetDoc) : Prog Bool := do
  if ruleSet.appType = ruleType then
    if ← isSensorInRuleset ipAddress ruleSet then required "isEnabled" ruleSet.isEnabled
    else pure false
  else pure false

/-- The same for the scripts, where the sensors are looked at last. -/
def goesIntoScripts (ipAddress : String) (ruleSet : RuleSetDoc) : Prog Bool := do
  if ruleSet.appType = RuleTypes.zeekScripts then
    if ← required "isEnabled" ruleSet.isEnabled then isSensorInRuleset ipAddress ruleSet
    else pure false
  else pure false

/-- The rule set is of the type, enabled, and assigned to the sensor. -/
def RuleSetDoc.isBuilt (ruleType ipAddress : String) (ruleSet : RuleSetDoc) : Bool :=
  ruleSet.appType = ruleType && ruleSet.hasSensor ipAddress && ruleSet.isEnabled = some true

/-- The keys are there that `goesIntoFile` looks up. -/
def RuleSetDoc.HasKeys (ruleType ipAddress : String) (ruleSet : RuleSetDoc) : Prop :=
  ruleSet.appType = ruleType → ruleSet.sensors.isSome = true ∧
    (ruleSet.hasSensor ipAddress = true → ruleSet.isEnabled.isSome = true)

/-- The keys are there that `goesIntoScripts` looks up. -/
def RuleSetDoc.HasScriptKeys (ruleSet : RuleSetDoc) : Prop :=
  ruleSet.appType = RuleTypes.zeekScripts → ruleSet.isEnabled.isSome = true ∧
    (ruleSet.isEnabled = some true → ruleSet.sensors.isSome = true)

section Keys

variable {ruleType ipAddress : String} {ruleSet : RuleSetDoc}

theorem isSensorInRuleset_of_isSome (h : ruleSet.sensors.isSome = true) :
    isSensorInRuleset ipAddress ruleSet = .done (ruleSet.hasSensor ipAddress) := by
  obtain ⟨sensors, hsensors⟩ := Option.isSome_iff_exists.mp h
  unfold isSensorInRuleset RuleSetDoc.hasSensor RuleSetDoc.assigned
  rw [hsensors]
  rfl

theorem isSensorInRuleset_of_none (h : ruleSet.sensors = none) :
    isSensorInRuleset ipAddress ruleSet = .raise (.keyError "sensors") := by
  rw [isSensorInRuleset, h]
  rfl

/-- With the keys there, a rule set goes into the file if it is built for the sensor. -/
theorem goesIntoFile_of_hasKeys (h : ruleSet.HasKeys ruleType ipAddress) :
    goesIntoFile ruleType ipAddress ruleSet = .done (ruleSet.isBuilt ruleType ipAddress) := by
  unfold goesIntoFile RuleSetDoc.isBuilt
  by_cases htype : ruleSet.appType = ruleType
  · obtain ⟨hsensors, henabled⟩ := h htype
    rw [if_pos htype, isSensorInRuleset_of_isSome hsensors]
    cases hsensor : ruleSet.hasSensor ipAddress with
    | false => simp
    | true =>
        obtain ⟨isEnabled, hisEnabled⟩ := Option.isSome_iff_exists.mp (henabled hsensor)
        cases isEnabled <;> simp [hisEnabled, htype, required]
  · simp [htype]

/-- A key that is missing ends the building of the file. -/
theorem goesIntoFile_of_not_hasKeys (h : ¬ ruleSet.HasKeys ruleType ipAddress) :
    ∃ e, goesIntoFile ruleType ipAddress ruleSet = .raise e := by
  obtain ⟨htype, hkeys⟩ := Classical.not_imp.mp h
  unfold goesIntoFile
  rw [if_pos htype]
  cases hsensors : ruleSet.sensors with
  | none => exact ⟨_, by rw [isSensorInRuleset_of_none hsensors]; rfl⟩
  | some sensors =>
      have hsome : ruleSet.sensors.isSome = true := by rw [hsensors]; rfl
      obtain ⟨hsensor, hisEnabled⟩ := Classical.not_imp.mp fun himp => hkeys ⟨hsome, himp⟩
      refine ⟨.keyError "isEnabled", ?_⟩
      rw [isSensorInRuleset_of_isSome hsome, hsensor]
      simp [Option.not_isSome_iff_eq_none.mp hisEnabled, required]

theorem goesIntoScripts_of_hasScriptKeys (h : ruleSet.HasScriptKeys) :
    goesIntoScripts ipAddress ruleSet =
      .done (ruleSet.isBuilt RuleTypes.zeekScripts ipAddress) := by
  unfold goesIntoScripts RuleSetDoc.isBuilt
  by_cases htype : ruleSet.appType = RuleTypes.zeekScripts
  · obtain ⟨hisEnabled, hsensors⟩ := h htype
    obtain ⟨isEnabled, hsome⟩ := Option.isSome_iff_exists.mp hisEnabled
    cases isEnabled with
    | false => simp [htype, hsome, required]
    | true =>
        simp [htype, hsome, required, isSensorInRuleset_of_isSome (hsensors hsome)]
  · simp [htype]

theorem goesIntoScripts_of_not_hasScriptKeys (h : ¬ ruleSet.HasScriptKeys) :
    ∃ e, goesIntoScripts ipAddress ruleSet = .raise e := by
  obtain ⟨htype, hkeys⟩ := Classical.not_imp.mp h
  unfold goesIntoScripts
  rw [if_pos htype]
  cases hisEnabled : ruleSet.isEnabled with
  | none => exact ⟨_, rfl⟩
  | some isEnabled =>
      have hsome : ruleSet.isEnabled.isSome = true := by rw [hisEnabled]; rfl
      obtain ⟨htrue, hsensors⟩ := Classical.not_imp.mp fun himp => hkeys ⟨hsome, himp⟩
      rw [hisEnabled] at htrue
      cases htrue
      refine ⟨.keyError "sensors", ?_⟩
      simp [required, isSensorInRuleset_of_none (Option.not_isSome_iff_eq_none.mp hsensors)]

end Keys

/-! ## Files -/

/-- The line of an enabled rule; a rule that lacks a field is passed over. -/
def RuleDoc.line (rule : RuleDoc) : String :=
  match rule.isEnabled, rule.rule with
  | some true, some content => content ++ "\n"
  | _, _ => ""

/-- What a rule set adds to the file. -/
def ruleSetText (ruleType ipAddress : String) (ruleSet : String × RuleSetDoc) : Prog String := do
  if ← goesIntoFile ruleType ipAddress ruleSet.2 then
    let rules ← rulesToWrite ruleSet.1
    pure (String.join (rules.map fun rule => rule.2.line))
  else pure ""

/-- The builders of the three files that hold one rule after the other. -/
def buildRulesFile (ruleType ipAddress : String) : Prog String := do
  Prog.orRaise (Prog.ask .makeTemp)
  let texts ← Program.mapEach (← getRulesets) (ruleSetText ruleType ipAddress)
  let content := String.join texts
  pure (if content = "" then "# No rulesets where enabled for this Sensor." else content)

/-- `_build_suricata_rule_file` -/
def buildSuricataRuleFile (ipAddress : String) : Prog String :=
  buildRulesFile RuleTypes.suricata ipAddress

/-- `_build_zeek_intel_file` -/
def buildZeekIntelFile (ipAddress : String) : Prog String :=
  buildRulesFile RuleTypes.zeekIntel ipAddress

/-- `_build_zeek_signatures_file` -/
def buildZeekSignaturesFile (ipAddress : String) : Prog String :=
  buildRulesFile RuleTypes.zeekSignatures ipAddress

/-- `_convert_zeek_ruleset_name` -/
def convertZeekRulesetName (name : String) : String :=
  String.ofList (name.toList.map fun c => if c = ' ' then '_' else c)

/-- `_convert_zeek_rule_name` -/
def convertZeekRuleName (name : String) : String :=
  convertZeekRulesetName (if hasSubstring name ".zeek" then name else name ++ ".zeek")

/-- `rule_name[0:rule_name.rfind(".")]`, of a name with a dot -/
def beforeLastDot (name : String) : String :=
  String.ofList ((name.toList.reverse.dropWhile (· ≠ '.')).drop 1).reverse

/-- `os.path.join` -/
def pathJoin (path name : String) : String :=
  if name.toList.head? = some '/' then name
  else if path = "" ∨ path.toList.getLast? = some '/' then path ++ name
  else path ++ "/" ++ name

/-- Write the script of an enabled rule, and answer the line that loads it.  The file is
    there before the content is looked up. -/
def writeZeekScript (ruleSetName : String) (rule : RuleDoc) : Prog String := do
  if ← required "isEnabled" rule.isEnabled then
    match rule.ruleName with
    | none => pure ""
    | some name => do
        let ruleName := convertZeekRuleName name
        Prog.orRaise (Prog.ask (.writeFile (pathJoin ruleSetName ruleName) (rule.rule.getD "")))
        pure (if rule.rule.isSome then
          "@load custom/" ++ ruleSetName ++ "/" ++ beforeLastDot ruleName ++ "\n" else "")
  else pure ""

/-- The directory of a rule set, and the scripts in it; answered with the lines that load
    them. -/
def ruleSetScripts (ipAddress : String) (ruleSet : String × RuleSetDoc) : Prog String := do
  if ← goesIntoScripts ipAddress ruleSet.2 then
    let ruleSetName := convertZeekRulesetName ruleSet.2.name
    Prog.orRaise (Prog.ask (.makeDirectory ruleSetName))
    let rules ← rulesToWrite ruleSet.1
    let lines ← Program.mapEach rules fun rule => writeZeekScript ruleSetName rule.2
    pure (String.join lines)
  else pure ""

/-- `_build_zeek_scripts_file` -/
def buildZeekScriptsFile (ipAddress : String) : Prog Unit := do
  Prog.orRaise (Prog.ask .makeTemp)
  let loads ← Program.mapEach (← getRulesets) (ruleSetScripts ipAddress)
  let load := String.join loads
  Prog.orRaise (Prog.ask (.writeFile "__load__.zeek"
    (if load = "" then "# No scripts were enabled for this Sensor." else load)))

/-! ## States -/

/-- `_rules_enabled_check` -/
def rulesEnabledCheck (ruleSetId : String) : Prog Bool := do
  let rules ← findRules ruleSetId
  let enabled ← Program.mapEach rules fun rule => required "isEnabled" rule.2.isEnabled
  pure (enabled.any id)

/-- `_check_sensor_states_for_state_obj` -/
def checkSensorStatesForStateObj (ruleSetId : String) (stateObj : SensorState) : Prog Bool := do
  match ← Prog.findById .ruleset ruleSetId with
  | none => Program.raise (.typeError "'NoneType' object is not subscriptable")
  | some ruleSet => do
      let sensorStates ← required "sensor_states" ruleSet.sensorStates
      pure (decide (stateObj ∉ sensorStates))

/-- `{"$push": {"sensor_states": state_obj}}` -/
def RuleSetDoc.pushState (stateObj : SensorState) (doc : RuleSetDoc) : RuleSetDoc :=
  { doc with sensorStates := some (doc.sensorStates.getD [] ++ [stateObj]) }

/-- `_set_states`, for one rule set -/
def setState (hostname ipAddress : String) (state : RulesetState) (appType : String)
    (ruleSet : String × RuleSetDoc) : Prog Unit := do
  let rules ← findRules ruleSet.1
  let hasARuleEnabled ← rulesEnabledCheck ruleSet.1
  if ← goesIntoFile appType ipAddress ruleSet.2 then
    let stateObj : SensorState :=
      ⟨hostname, if rules.isEmpty || !hasARuleEnabled then .error else state⟩
    let isNew ← checkSensorStatesForStateObj ruleSet.1 stateObj
    Program.when (isNew = true)
      (discard (Prog.updateOne .ruleset ruleSet.1 (RuleSetDoc.pushState stateObj)))
  else pure ()

/-- `_set_states` -/
def setStates (hostname ipAddress : String) (state : RulesetState) (appType : String) :
    Prog Unit := do
  Program.forEach (← getRulesets) (setState hostname ipAddress state appType)

/-- `_set_suricata_states` -/
def setSuricataStates (hostname ipAddress : String) (state : RulesetState) : Prog Unit :=
  setStates hostname ipAddress state RuleTypes.suricata

/-- `_set_zeek_script_states`, `_set_zeek_intel_states` and `_set_zeek_signatures_states`,
    which are called together -/
def setZeekStates (hostname ipAddress : String) (state : RulesetState) : Prog Unit := do
  setStates hostname ipAddress state RuleTypes.zeekScripts
  setStates hostname ipAddress state RuleTypes.zeekIntel
  setStates hostname ipAddress state RuleTypes.zeekSignatures

/-- `{"$set": {"sensor_states": []}}` -/
def RuleSetDoc.clearStates (doc : RuleSetDoc) : RuleSetDoc := { doc with sensorStates := some [] }

/-- `_clear_states` -/
def clearStates : Prog Unit := do
  Program.forEach (← getRulesets) fun ruleSet =>
    discard (Prog.updateOne .ruleset ruleSet.1 RuleSetDoc.clearStates)

/-- `_get_worse_state_from_sensor_states` -/
def worseStateFromSensorStates (sensorStates : List SensorState) (rulesLength : Nat) :
    RulesetState :=
  if 0 < sensorStates.length ∧ 0 < rulesLength then
    if sensorStates.any fun sensorState => sensorState.state = .error then .error else .synced
  else .error

/-- `{"$set": {"state": state}}` -/
def RuleSetDoc.withState (state : RulesetState) (doc : RuleSetDoc) : RuleSetDoc :=
  { doc with state := state }

/-- `_update_rule_set_state`, with the sensor states that were read before its rules -/
def updateRuleSetState (ruleSet : String × RuleSetDoc) : Prog Unit :=
  let update : Prog Unit := do
    let rules ← findRules ruleSet.1
    let sensorStates ← required "sensor_states" ruleSet.2.sensorStates
    let state := worseStateFromSensorStates sensorStates rules.length
    discard (Prog.updateOne .ruleset ruleSet.1 (RuleSetDoc.withState state))
  Program.tryExcept update fun _ => pure ()

/-- `_update_rule_set_states` -/
def updateRuleSetStates : Prog Unit := do
  Program.forEach (← getRulesets) updateRuleSetState

/-! ## Sensors -/

/-- Restart the pod, if there is one, and keep the state of the sensor:
    `_set_suricata_rulesets` and `_set_zeek_items`. -/
def restartPod (ipAddress : String) (podName : Option String) (setSynced : Prog Unit) : Prog Unit :=
  let restart : Prog Unit := do
    match podName with
    | some podName => runCmdOrRaise ipAddress ("kubectl delete pod " ++ podName)
    | none => pure ()
    setSynced
  Program.tryExcept restart raiseAnew

/-- `try: pod_name = ... except ValueError: ... finally: ...`; an exception of another kind
    is raised when the last block is through. -/
def withPodName (ipAddress component : String) (body : Option String → Prog Unit) : Prog Unit := do
  match ← Prog.ask (.podName ipAddress component) with
  | .ok podName => body (some podName)
  | .error (.valueError _) => body none
  | .error e => do
      body none
      Program.raise e

/-- `_sync_suricata_rulesets` -/
def syncSuricataRulesets (ipAddress hostname : String) : Prog Unit :=
  withPodName ipAddress "suricata" fun podName => do
    let content ← buildSuricataRuleFile ipAddress
    Prog.orRaise (Prog.ask (.fabricPut ipAddress content suricataRulesetLoc))
    restartPod ipAddress podName (setSuricataStates hostname ipAddress .synced)

/-- `_unzip_zeek_scripts` -/
def unzipZeekScripts (ipAddress : String) : Prog Unit :=
  let test := runCmdOrRaise ipAddress ("[[ -f " ++ zeekScriptsZip ++ " ]]")
  let unzip : Prog Unit := do
    runCmdOrRaise ipAddress ("unzip " ++ zeekScriptsZip ++ " -d " ++ zeekScriptsDir)
    runCmdOrRaise ipAddress ("chmod 0744 " ++ zeekScriptsDir)
    runCmdOrRaise ipAddress ("rm -rf " ++ zeekScriptsZip)
  Program.tryFinally (Program.tryExcept test raiseAnew) unzip

/-- `_fabric_put_zeek_scripts` -/
def fabricPutZeekScripts (ipAddress : String) : Prog Unit := do
  buildZeekScriptsFile ipAddress
  let putScripts : Prog Unit := do
    runCmdOrRaise ipAddress ("rm -rf " ++ zeekScriptsDir ++ "/*")
    Prog.orRaise (Prog.ask (.makeArchive zeekScriptsZip))
    Prog.orRaise (Prog.ask (.fabricPutFile ipAddress zeekScriptsZip zeekScriptsZip))
    runCmdOrRaise ipAddress ("mkdir -p " ++ zeekScriptsDir)
  let cleanup : Prog Unit := do
    unzipZeekScripts ipAddress
    Prog.orRaise (Prog.ask (.unlink zeekScriptsZip))
  Program.tryFinally (Program.tryExcept putScripts raiseAnew) cleanup

/-- `_sync_zeek_items` -/
def syncZeekItems (ipAddress hostname : String) : Prog Unit :=
  withPodName ipAddress "zeek" fun podName => do
    fabricPutZeekScripts ipAddress
    let intel ← buildZeekIntelFile ipAddress
    Prog.orRaise (Prog.ask (.fabricPut ipAddress intel zeekIntelPath))
    let sigs ← buildZeekSignaturesFile ipAddress
    Prog.orRaise (Prog.ask (.fabricPut ipAddress sigs zeekSigPath))
    restartPod ipAddress podName (setZeekStates hostname ipAddress .synced)

/-! ## Synchronisation -/

/-- `_can_sync` -/
def canSync (node : Node) : Bool :=
  node.nodeType = NodeTypes.sensor && !node.deviceFacts.isEmpty

/-- `node.deviceFacts["default_ipv4_settings"]["address"]` and the host name -/
def sensorFacts (node : Node) : Except PyError (String × String) := do
  let settings ← (Json.obj node.deviceFacts).getItem "default_ipv4_settings"
  let address ← settings.getItem "address"
  let hostname ← (Json.obj node.deviceFacts).getItem "hostname"
  pure (← address.toStr, ← hostname.toStr)

/-- One node of `sync_all_rulesets` -/
def syncNode (node : Node) : Prog Unit := do
  let (ipAddress, hostname) ← Program.ofExcept (sensorFacts node)
  Program.tryExcept (syncSuricataRulesets ipAddress hostname) fun _ =>
    setSuricataStates hostname ipAddress .error
  Program.tryExcept (syncZeekItems ipAddress hostname) fun _ =>
    setZeekStates hostname ipAddress .error
  updateRuleSetStates

/-- What follows the loading of the kit settings, without which there is no password. -/
def syncWith (nodes : List Node) : Except PyError (Option KitSettings) → Prog Unit
  | .error e => Program.raise e
  | .ok none => Program.raise .indexError
  | .ok (some _) => Program.forEach nodes syncNode

/-- `sync_all_rulesets` -/
def syncAllRulesets (nodes : List Node) : Prog Unit := do
  syncWith nodes (← Prog.ask .loadKitSettings)

/-- What `sync_rulesets` tries. -/
def syncSensors : Prog Unit := do
  let nodes ← Node.loadAllFromDb
  clearStates
  syncAllRulesets (nodes.filter canSync)

/-- `sync_rulesets` -/
def syncRulesets : Prog Unit := Program.tryExcept syncSensors fun _ => pure ()

/-- `perform_rulesync` -/
def performRulesync : Prog Unit := syncRulesets

/-! ## What only reads -/

theorem readsOnly_findRules (ruleSetId : String) : (findRules ruleSetId).Uses Op.readsOnly :=
  Prog.readsOnly_find _

theorem readsOnly_required {α : Type} (key : String) (value : Option α) :
    (required key value).Uses Op.readsOnly := by
  cases value with
  | none => exact .raise _
  | some value => exact .done value

theorem readsOnly_isSensorInRuleset (ipAddress : String) (ruleSet : RuleSetDoc) :
    (isSensorInRuleset ipAddress ruleSet).Uses Op.readsOnly :=
  (readsOnly_required _ _).bind fun _ => .done _

theorem readsOnly_goesIntoFile (ruleType ipAddress : String) (ruleSet : RuleSetDoc) :
    (goesIntoFile ruleType ipAddress ruleSet).Uses Op.readsOnly := by
  unfold goesIntoFile
  split
  · refine (readsOnly_isSensorInRuleset _ _).bind fun hasSensor => ?_
    split
    · exact readsOnly_required _ _
    · exact .done _
  · exact .done _

theorem readsOnly_goesIntoScripts (ipAddress : String) (ruleSet : RuleSetDoc) :
    (goesIntoScripts ipAddress ruleSet).Uses Op.readsOnly := by
  unfold goesIntoScripts
  split
  · refine (readsOnly_required _ _).bind fun isEnabled => ?_
    split
    · exact readsOnly_isSensorInRuleset _ _
    · exact .done _
  · exact .done _

theorem readsOnly_rulesEnabledCheck (ruleSetId : String) :
    (rulesEnabledCheck ruleSetId).Uses Op.readsOnly := by
  refine (readsOnly_findRules ruleSetId).bind fun rows => ?_
  refine (Program.uses_mapEach fun row _ => readsOnly_required _ _).bind fun enabled => ?_
  exact .done _

theorem readsOnly_checkSensorStates (ruleSetId : String) (stateObj : SensorState) :
    (checkSensorStatesForStateObj ruleSetId stateObj).Uses Op.readsOnly := by
  refine (Prog.readsOnly_findById _).bind fun doc => ?_
  cases doc with
  | none => exact .raise _
  | some doc => exact (readsOnly_required _ _).bind fun states => .done _

theorem readsOnly_runCmdOrRaise (ipAddress cmd : String) :
    (runCmdOrRaise ipAddress cmd).Uses Op.readsOnly := by
  refine (Prog.uses_orRaise (Prog.readsOnly_ask _)).bind fun returnCode => ?_
  exact Program.Uses.when fun _ => .raise _

theorem readsOnly_rulesToWrite (ruleSetId : String) :
    (rulesToWrite ruleSetId).Uses Op.readsOnly := by
  refine (readsOnly_findRules ruleSetId).bind fun rulesList => ?_
  split
  · exact .done _
  · exact readsOnly_findRules ruleSetId

theorem readsOnly_getRulesets : getRulesets.Uses Op.readsOnly := Prog.readsOnly_find _

theorem readsOnly_ruleSetText (ruleType ipAddress : String) (ruleSet : String × RuleSetDoc) :
    (ruleSetText ruleType ipAddress ruleSet).Uses Op.readsOnly := by
  refine (readsOnly_goesIntoFile _ _ _).bind fun isBuilt => ?_
  split
  · exact (readsOnly_rulesToWrite _).bind fun rules => .done _
  · exact .done _

theorem readsOnly_buildRulesFile (ruleType ipAddress : String) :
    (buildRulesFile ruleType ipAddress).Uses Op.readsOnly := by
  refine (Prog.uses_orRaise (Prog.readsOnly_ask _)).bind fun _ => ?_
  refine readsOnly_getRulesets.bind fun ruleSets => ?_
  exact (Program.uses_mapEach fun ruleSet _ => readsOnly_ruleSetText _ _ ruleSet).bind
    fun texts => .done _

theorem readsOnly_writeZeekScript (ruleSetName : String) (rule : RuleDoc) :
    (writeZeekScript ruleSetName rule).Uses Op.readsOnly := by
  refine (readsOnly_required _ _).bind fun isEnabled => ?_
  split
  · cases rule.ruleName with
    | none => exact .done _
    | some name => exact (Prog.uses_orRaise (Prog.readsOnly_ask _)).bind fun _ => .done _
  · exact .done _

theorem readsOnly_ruleSetScripts (ipAddress : String) (ruleSet : String × RuleSetDoc) :
    (ruleSetScripts ipAddress ruleSet).Uses Op.readsOnly := by
  refine (readsOnly_goesIntoScripts _ _).bind fun isBuilt => ?_
  split
  · refine (Prog.uses_orRaise (Prog.readsOnly_ask _)).bind fun _ => ?_
    refine (readsOnly_rulesToWrite _).bind fun rules => ?_
    refine (Program.uses_mapEach fun rule _ => ?_).bind fun lines => .done _
    exact readsOnly_writeZeekScript _ _
  · exact .done _

theorem readsOnly_buildZeekScriptsFile (ipAddress : String) :
    (buildZeekScriptsFile ipAddress).Uses Op.readsOnly := by
  refine (Prog.uses_orRaise (Prog.readsOnly_ask _)).bind fun _ => ?_
  refine readsOnly_getRulesets.bind fun ruleSets => ?_
  exact (Program.uses_mapEach fun ruleSet _ => readsOnly_ruleSetScripts _ ruleSet).bind
    fun loads => Prog.uses_orRaise (Prog.readsOnly_ask _)

theorem uses_raiseAnew {α : Type} {A : Op → Prop} (e : PyError) :
    (raiseAnew e : Prog α).Uses A := by
  cases e <;> exact .raise _

theorem readsOnly_unzipZeekScripts (ipAddress : String) :
    (unzipZeekScripts ipAddress).Uses Op.readsOnly := by
  refine ((readsOnly_runCmdOrRaise _ _).tryExcept uses_raiseAnew).tryFinally ?_
  refine (readsOnly_runCmdOrRaise _ _).bind fun _ => ?_
  exact (readsOnly_runCmdOrRaise _ _).bind fun _ => readsOnly_runCmdOrRaise _ _

theorem readsOnly_fabricPutZeekScripts (ipAddress : String) :
    (fabricPutZeekScripts ipAddress).Uses Op.readsOnly := by
  refine (readsOnly_buildZeekScriptsFile _).bind fun _ => ?_
  refine Program.Uses.tryFinally (Program.Uses.tryExcept ?_ uses_raiseAnew) ?_
  · refine (readsOnly_runCmdOrRaise _ _).bind fun _ => ?_
    refine (Prog.uses_orRaise (Prog.readsOnly_ask _)).bind fun _ => ?_
    refine (Prog.uses_orRaise (Prog.readsOnly_ask _)).bind fun _ => ?_
    exact readsOnly_runCmdOrRaise _ _
  · refine (readsOnly_unzipZeekScripts _).bind fun _ => ?_
    exact Prog.uses_orRaise (Prog.readsOnly_ask _)

/-! ## What a synchronisation writes -/

section Writes

variable {A : Op → Prop}

/-- A kind of operations that has all those of the work on one sensor. -/
structure CoversSync (A : Op → Prop) : Prop where
  reads : ∀ op, op.readsOnly → A op
  push : ∀ id stateObj, A (.db (.updateOne .ruleset id (RuleSetDoc.pushState stateObj)))
  state : ∀ id state, A (.db (.updateOne .ruleset id (RuleSetDoc.withState state)))

variable (hA : CoversSync A)
include hA

theorem CoversSync.of_readsOnly {α : Type} {p : Prog α} (hp : p.Uses Op.readsOnly) : p.Uses A :=
  hp.mono hA.reads

theorem uses_setState (hostname ipAddress ruleType : String) (state : RulesetState)
    (row : String × RuleSetDoc) : (setState hostname ipAddress state ruleType row).Uses A := by
  refine (hA.of_readsOnly (readsOnly_findRules _)).bind fun rows => ?_
  refine (hA.of_readsOnly (readsOnly_rulesEnabledCheck _)).bind fun hasARuleEnabled => ?_
  refine (hA.of_readsOnly (readsOnly_goesIntoFile _ _ _)).bind fun isBuilt => ?_
  split
  · refine (hA.of_readsOnly (readsOnly_checkSensorStates _ _)).bind fun isNew => ?_
    refine Program.Uses.when fun _ => Program.Uses.bind ?_ fun _ => .done _
    exact (Program.uses_perform _).mpr (hA.push _ _)
  · exact .done _

theorem uses_setStates (hostname ipAddress ruleType : String) (state : RulesetState) :
    (setStates hostname ipAddress state ruleType).Uses A :=
  (hA.of_readsOnly readsOnly_getRulesets).bind fun _ =>
    Program.uses_forEach fun row _ => uses_setState hA _ _ _ _ row

theorem uses_setZeekStates (hostname ipAddress : String) (state : RulesetState) :
    (setZeekStates hostname ipAddress state).Uses A :=
  (uses_setStates hA _ _ _ _).bind fun _ => (uses_setStates hA _ _ _ _).bind fun _ =>
    uses_setStates hA _ _ _ _

theorem uses_updateRuleSetStates : updateRuleSetStates.Uses A := by
  refine (hA.of_readsOnly readsOnly_getRulesets).bind fun rows => ?_
  refine Program.uses_forEach fun row _ => Program.Uses.tryExcept ?_ fun _ => .done _
  refine (hA.of_readsOnly (readsOnly_findRules _)).bind fun rules => ?_
  refine (hA.of_readsOnly (readsOnly_required _ _)).bind fun sensorStates => ?_
  refine Program.Uses.bind ?_ fun _ => .done _
  exact (Program.uses_perform _).mpr (hA.state _ _)

theorem uses_restartPod {set : Prog Unit} (hset : set.Uses A) (ipAddress : String)
    (podName : Option String) : (restartPod ipAddress podName set).Uses A := by
  refine Program.Uses.tryExcept ?_ uses_raiseAnew
  cases podName with
  | none => exact hset
  | some podName => exact (hA.of_readsOnly (readsOnly_runCmdOrRaise _ _)).bind fun _ => hset

theorem uses_withPodName {body : Option String → Prog Unit}
    (hbody : ∀ podName, (body podName).Uses A)
    (ipAddress component : String) : (withPodName ipAddress component body).Uses A := by
  refine (hA.of_readsOnly (Prog.readsOnly_ask _)).bind fun answer => ?_
  cases answer with
  | ok podName => exact hbody (some podName)
  | error e =>
      cases e with
      | valueError _ => exact hbody none
      | _ => exact (hbody none).bind fun _ => .raise _

theorem uses_syncSuricataRulesets (ipAddress hostname : String) :
    (syncSuricataRulesets ipAddress hostname).Uses A := by
  refine uses_withPodName hA (fun podName => ?_) _ _
  refine (hA.of_readsOnly (readsOnly_buildRulesFile _ _)).bind fun content => ?_
  refine (hA.of_readsOnly (Prog.uses_orRaise (Prog.readsOnly_ask _))).bind fun _ => ?_
  exact uses_restartPod hA (uses_setStates hA _ _ _ _) _ _

theorem uses_syncZeekItems (ipAddress hostname : String) :
    (syncZeekItems ipAddress hostname).Uses A := by
  refine uses_withPodName hA (fun podName => ?_) _ _
  refine (hA.of_readsOnly (readsOnly_fabricPutZeekScripts _)).bind fun _ => ?_
  refine (hA.of_readsOnly (readsOnly_buildRulesFile _ _)).bind fun intel => ?_
  refine (hA.of_readsOnly (Prog.uses_orRaise (Prog.readsOnly_ask _))).bind fun _ => ?_
  refine (hA.of_readsOnly (readsOnly_buildRulesFile _ _)).bind fun sigs => ?_
  refine (hA.of_readsOnly (Prog.uses_orRaise (Prog.readsOnly_ask _))).bind fun _ => ?_
  exact uses_restartPod hA (uses_setZeekStates hA _ _ _) _ _

/-- What is of this kind is done at a sensor. -/
theorem uses_syncNode (node : Node) : (syncNode node).Uses A := by
  unfold syncNode
  refine (Program.uses_ofExcept _).bind fun facts => ?_
  refine Program.Uses.bind ((uses_syncSuricataRulesets hA _ _).tryExcept fun _ =>
    uses_setStates hA _ _ _ _) fun _ => ?_
  refine Program.Uses.bind ((uses_syncZeekItems hA _ _).tryExcept fun _ =>
    uses_setZeekStates hA _ _ _) fun _ => ?_
  exact uses_updateRuleSetStates hA

end Writes

end Tfplenum
