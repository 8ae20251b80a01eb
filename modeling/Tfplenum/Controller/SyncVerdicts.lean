/-
  Tfplenum.Controller.SyncVerdicts

  What a synchronisation that gets past its sensors makes of a rule set.  Every node
  that can be synchronised then has its outcome, and the rule set is synced if the
  sensors among them that it is assigned to have all received its files.
-/

import Tfplenum.Controller.SyncIsolation

namespace Tfplenum

open Lib

/-! ## Clearing the states -/

/-- The operation is one on the database. -/
def Op.isDb (op : Op) : Prop := ∃ dop, op = .db dop

section Clear

variable {env : Environment} {w w' : World}

theorem uses_clearStates {A : Op → Prop} (hread : ∀ q, A (.db (.find .ruleset q)))
    (hclear : ∀ id, A (.db (.updateOne .ruleset id RuleSetDoc.clearStates))) :
    clearStates.Uses A := by
  refine Program.Uses.bind ((Program.uses_perform _).mpr (hread _)) fun rows => ?_
  refine Program.uses_forEach fun row _ => Program.Uses.bind ?_ fun _ => .done _
  exact (Program.uses_perform _).mpr (hclear row.1)

theorem calls_clearStates (hrun : clearStates.run (handle env) w = (.ok (), w')) :
    w'.calls = w.calls := by
  have huses : clearStates.Uses Op.isDb := uses_clearStates (fun _ => ⟨_, rfl⟩) fun _ => ⟨_, rfl⟩
  have hcalls : Triple (handle env) (fun v => v.calls = w.calls) clearStates
      (fun _ v => v.calls = w.calls) fun _ v => v.calls = w.calls := by
    refine Triple.of_uses huses ?_
    rintro op v ⟨dop, rfl⟩ hv
    exact hv
  exact hcalls.ok rfl hrun

theorem rules_clearStates (hrun : clearStates.run (handle env) w = (.ok (), w')) :
    w'.db .rule = w.db .rule := by
  have hne : Collection.ruleset ≠ .rule := by decide
  have hrules : Triple (handle env) (fun v => v.db .rule = w.db .rule) clearStates
      (fun _ v => v.db .rule = w.db .rule) fun _ v => v.db .rule = w.db .rule := by
    refine Triple.of_uses (uses_clearStates
      (A := fun op => ∃ dop : DocOp Doc, op = .db dop ∧ dop.collection = .ruleset)
      (fun _ => ⟨_, rfl, rfl⟩) fun _ => ⟨_, rfl, rfl⟩) ?_
    rintro op v ⟨dop, rfl, hcollection⟩ hv
    rw [db_of_ne env v dop (hcollection ▸ hne)]
    exact hv
  exact hrules.ok rfl hrun

/-- A rule set that is there afterwards was there before, with other states of sensors. -/
theorem exists_of_clearStates (hrun : clearStates.run (handle env) w = (.ok (), w')) {id : String}
    {doc : RuleSetDoc} (hget : (w'.db .ruleset).get? id = some doc) :
    ∃ old, (w.db .ruleset).get? id = some old ∧ doc = { old with sensorStates := some [] } := by
  cases hold : (w.db .ruleset).get? id with
  | none =>
      have hnone : Triple (handle env) (fun v => (v.db .ruleset).get? id = none) clearStates
          (fun _ v => (v.db .ruleset).get? id = none)
          fun _ v => (v.db .ruleset).get? id = none := by
        refine Triple.of_uses (uses_clearStates (A := Op.syncs) (fun _ => .inl rfl)
          fun id => .inr ⟨id, _, rfl⟩) ?_
        rintro op v (hop | ⟨id', f, rfl⟩) hv
        · rw [db_of_readsOnly hop]
          exact hv
        · rw [db_updateOne, Table.get?_modify, hv, Option.map_none, ite_self]
      rw [hnone.ok hold hrun] at hget
      cases hget
  | some old =>
      have hat : At id old (w.db .rule) ⟨old.state, old.sensorStates⟩ w := ⟨hold, rfl⟩
      have hcleared := (at_clearStates.ok hat hrun).stored
      rw [hget] at hcleared
      exact ⟨old, rfl, Option.some.inj hcleared⟩

end Clear

/-! ## Sensors that get their turn -/

/-- The synchronisation gets past the node: its facts are there, all rules say whether they are
    enabled, and the rule sets have the keys that are looked up. -/
def GetsTurn (w : World) (node : Node) : Prop :=
  ∃ facts, sensorFacts node = .ok facts ∧ ∀ ruleType ∈ ruleTypes, ∀ row ∈ (w.db .ruleset).rows,
    CanTell (w.db .rule) ruleType facts.1 row

/-- The outcome is one at the address of the node. -/
def OutcomeAt (node : Node) (outcome : NodeOutcome) : Prop :=
  ∃ facts, sensorFacts node = .ok facts ∧ outcome.ipAddress = facts.1

section Turns

variable {env : Environment}

/-- With the states of the sensors cleared, the loop gets past such a node. -/
theorem canProcess_of_getsTurn {w w' : World} {node : Node} (hturn : GetsTurn w node)
    (hrun : clearStates.run (handle env) w = (.ok (), w')) :
    CanProcess (skeletons (w'.db .ruleset).rows) (w'.db .rule) node := by
  rw [canProcess_skeletons]
  obtain ⟨facts, hfacts, htell⟩ := hturn
  refine ⟨facts, hfacts, ?_⟩
  rintro ruleType htype ⟨id, doc⟩ hrow
  obtain ⟨old, hold, rfl⟩ := exists_of_clearStates hrun (Table.get?_eq_some_iff.mpr hrow)
  have hbefore := htell ruleType htype (id, old) (Table.get?_eq_some_iff.mp hold)
  rw [rules_clearStates hrun]
  exact ⟨⟨hbefore.enabled, hbefore.keys⟩, fun _ => rfl⟩

/-- In a loop that gets past its nodes each has its outcome. -/
theorem outcomesOf_of_canProcess {sets : List (String × RuleSetDoc)} {rules : Table String RuleDoc}
    {nodes : List Node} (hall : ∀ node ∈ nodes, CanProcess sets rules node) :
    ∀ {w : World}, Fixed sets rules w → List.Forall₂ OutcomeAt nodes (outcomesOf env nodes w) := by
  induction nodes with
  | nil => exact fun _ => .nil
  | cons node nodes ih =>
      intro w hw
      have hnode := hall node (List.mem_cons_self ..)
      obtain ⟨facts, hfacts, -⟩ := id hnode
      rcases hrun : (syncNode node).run (handle env) w with ⟨e | ⟨⟩, w'⟩
      · exact absurd hnode ((syncNode_decides node).error hw hrun).1
      · have hw' := ((syncNode_decides node).ok hw hrun).2
        have houtcomes : outcomesOf env (node :: nodes) w =
            outcomeOf env facts.1 facts.2 w :: outcomesOf env nodes w' := by
          rw [outcomesOf, hfacts, hrun]
        rw [houtcomes]
        exact .cons ⟨facts, hfacts, rfl⟩
          (ih (fun node' hmem => hall node' (List.mem_cons_of_mem _ hmem)) hw')

/-- The outcomes of a synchronisation that gets past its sensors. -/
theorem syncOutcomes_of_getsTurn {w w₁ : World} {nodes : List Node} {settings : KitSettings}
    (hload : Node.loadAllFromDb.run (handle env) w = (.ok nodes, w₁))
    (hsettings : env .loadKitSettings w₁.calls = .ok (some settings))
    (hturn : ∀ node ∈ nodes.filter canSync, GetsTurn w node) :
    List.Forall₂ OutcomeAt (nodes.filter canSync) (syncOutcomes env w) := by
  have hdb : w₁.db = w.db := by
    have hkept : (Node.loadAllFromDb.run (handle env) w).2.db = w.db :=
      db_run_of_readsOnly Node.readsOnly_loadAllFromDb w
    rw [hload] at hkept
    exact hkept
  obtain ⟨w₂, hclear⟩ : ∃ w₂, clearStates.run (handle env) w₁ = (.ok (), w₂) :=
    clearStates_returns w₁
  have hasked : env .loadKitSettings w₂.calls = .ok (some settings) := by
    rw [calls_clearStates hclear]
    exact hsettings
  have houtcomes : syncOutcomes env w =
      outcomesOf env (nodes.filter canSync) { w₂ with calls := w₂.calls + 1 } := by
    rw [syncOutcomes, hload]
    dsimp only
    rw [hclear]
    dsimp only [handle_external]
    rw [hasked, outcomesWith]
  rw [houtcomes]
  refine outcomesOf_of_canProcess (fun node hnode => ?_) (fixed_self w₂ (w₂.calls + 1))
  have hturn₁ : GetsTurn w₁ node := by
    unfold GetsTurn
    rw [hdb]
    exact hturn node hnode
  exact canProcess_of_getsTurn hturn₁ hclear

end Turns

/-- A synchronisation with kit settings that gets past its sensors has an outcome for each of
    them.  An enabled rule set with an enabled rule is synced after it if and only if it is
    assigned to one of them and those it is assigned to have all received its files, and it is
    an error otherwise; if there is no sensor to synchronise its state stays. -/
theorem state_of_syncRulesets (env : Environment) (w w₁ : World) (nodes : List Node)
    (settings : KitSettings) (hload : Node.loadAllFromDb.run (handle env) w = (.ok nodes, w₁))
    (hsettings : env .loadKitSettings w₁.calls = .ok (some settings))
    (hturn : ∀ node ∈ nodes.filter canSync, GetsTurn w node) (id : String) (ruleSet : RuleSetDoc)
    (hstored : (w.db .ruleset).get? id = some ruleSet)
    (hisEnabled : ruleSet.isEnabled = some true)
    (henabled : ∃ row ∈ (w.db .rule).find (fun _ rule => decide (rule.ruleSetId = id)),
      row.2.isEnabled = some true) :
    List.Forall₂ OutcomeAt (nodes.filter canSync) (syncOutcomes env w) ∧
      (nodes.filter canSync = [] →
        stateOf (syncRulesets.run (handle env) w).2 id = some ruleSet.state) ∧
      (nodes.filter canSync ≠ [] →
        (stateOf (syncRulesets.run (handle env) w).2 id = some .synced ↔
            Received ruleSet (syncOutcomes env w)) ∧
          (¬ Received ruleSet (syncOutcomes env w) →
            stateOf (syncRulesets.run (handle env) w).2 id = some .error)) := by
  have houtcomes := syncOutcomes_of_getsTurn hload hsettings hturn
  have hempty : syncOutcomes env w = [] ↔ nodes.filter canSync = [] := by
    rw [← List.length_eq_zero_iff, ← List.length_eq_zero_iff, houtcomes.length_eq]
  have hsame : (syncRulesets.run (handle env) w).2 = (syncSensors.run (handle env) w).2 := by
    rw [syncRulesets, Program.run_tryExcept]
    rcases syncSensors.run (handle env) w with ⟨_ | _, _⟩ <;> rfl
  have hat : At id ruleSet (w.db .rule) ⟨ruleSet.state, ruleSet.sensorStates⟩ w := ⟨hstored, rfl⟩
  obtain ⟨states, hafter⟩ : ∃ states, At id ruleSet (w.db .rule)
      ⟨stateAfter ruleSet ruleSet.state (syncOutcomes env w) ⟨false, false⟩, states⟩
      (syncSensors.run (handle env) w).2 := at_syncSensors henabled hat
  have hstate : stateOf (syncRulesets.run (handle env) w).2 id =
      some (stateAfter ruleSet ruleSet.state (syncOutcomes env w) ⟨false, false⟩) := by
    rw [hsame, stateOf, hafter.stored]
    rfl
  refine ⟨houtcomes, fun hnone => ?_, fun hsome => ?_⟩
  · rw [hstate, stateAfter, if_pos (hempty.mpr hnone)]
  · rw [hstate, stateAfter, if_neg fun h => hsome (hempty.mp h)]
    refine ⟨?_, fun hreceived => ?_⟩
    · rw [Option.some_inj]
      exact verdict_eq_synced_iff hisEnabled _
    · exact congrArg some
        (Tally.verdict_ne_synced fun h => hreceived ((verdict_eq_synced_iff hisEnabled _).mp h))

/-! ## A sensor that is not processed -/

/-- The rule set is assigned to a second sensor. -/
def sensor2Rules : RuleSetDoc :=
  { sensor1Rules with
    sensors := some (some [⟨"sensor1.lan", "10.40.12.146"⟩, ⟨"sensor2.lan", "10.40.12.147"⟩]) }

/-- The second sensor has no facts. -/
def sensor2World : World where
  db
    | .settings => Table.empty.upsert generalSettingsId lanForm.dump
    | .nodes =>
        (Table.empty.upsert "n1" { sensor1Doc with deviceFacts := sensor1Facts }).upsert "n2"
          { sensor1Doc with hostname := "sensor2.lan", ipAddress := "10.40.12.147" }
    | .ruleset => Table.empty.upsert "r1" sensor2Rules
    | .rule =>
        Table.empty.upsert "1" ⟨"r1", some "local", some "alert ip any any -> any any", some true⟩
    | _ => Table.empty
  calls := 0

/-- The rule set is synced, though its second sensor is passed over. -/
theorem state_of_sensor2World :
    stateOf (syncRulesets.run (handle syncEnv) sensor2World).2 "r1" = some .synced := by
  have houtcomes : syncOutcomes syncEnv sensor2World = [⟨"10.40.12.146", true, true⟩] := by
    decide +kernel
  obtain ⟨nodes, w₁, hload, hsome, hturn⟩ : ∃ nodes w₁,
      Node.loadAllFromDb.run (handle syncEnv) sensor2World = (.ok nodes, w₁) ∧
        nodes.filter canSync ≠ [] ∧
          ∀ node ∈ nodes.filter canSync, GetsTurn sensor2World node := by
    refine ⟨_, _, rfl, by decide +kernel, ?_⟩
    intro node hnode
    have hfacts : sensorFacts node = .ok ("10.40.12.146", "sensor1.lan") := by
      revert node
      decide +kernel
    refine ⟨_, hfacts, fun ruleType _ row hrow => ?_⟩
    cases List.mem_singleton.mp hrow
    exact ⟨by decide, fun _ => ⟨rfl, fun _ => rfl⟩⟩
  refine ((state_of_syncRulesets syncEnv sensor2World w₁ nodes ⟨"", true⟩ hload rfl hturn "r1"
    sensor2Rules rfl rfl ⟨_, List.mem_singleton.mpr rfl, rfl⟩).2.2 hsome).1.mpr ?_
  rw [houtcomes]
  refine ⟨⟨_, List.mem_singleton.mpr rfl, by decide⟩, ?_⟩
  intro outcome hmem _
  cases List.mem_singleton.mp hmem
  decide

/-- A rule set is synced if and only if it is assigned to sensors, and all of them have
    received its files. -/
def SyncedIffAllReceived : Prop :=
  ∀ (env : Environment) (w : World) (id : String) (ruleSet : RuleSetDoc),
    (w.db .ruleset).get? id = some ruleSet → ruleSet.isEnabled = some true →
    (∃ row ∈ (w.db .rule).find (fun _ rule => decide (rule.ruleSetId = id)),
      row.2.isEnabled = some true) →
    (stateOf (syncRulesets.run (handle env) w).2 id = some .synced ↔
      ruleSet.assigned ≠ [] ∧ ∀ sensor ∈ ruleSet.assigned, ∃ outcome ∈ syncOutcomes env w,
        outcome.ipAddress = sensor.managementIp ∧ outcome.received ruleSet.appType = true)

theorem not_syncedIffAllReceived : ¬ SyncedIffAllReceived := by
  intro hclaim
  have hiff := hclaim syncEnv sensor2World "r1" sensor2Rules rfl rfl
    ⟨_, List.mem_singleton.mpr rfl, rfl⟩
  have hsynced : stateOf (syncRulesets.run (handle syncEnv) sensor2World).2 "r1" =
      some .synced := by
    decide +kernel
  have houtcomes : syncOutcomes syncEnv sensor2World = [⟨"10.40.12.146", true, true⟩] := by
    decide +kernel
  have hmem : (⟨"sensor2.lan", "10.40.12.147"⟩ : SimpleSensor) ∈ sensor2Rules.assigned := by decide
  obtain ⟨outcome, houtcome, haddress, -⟩ := (hiff.mp hsynced).2 _ hmem
  rw [houtcomes] at houtcome
  cases List.mem_singleton.mp houtcome
  revert haddress
  decide

end Tfplenum
