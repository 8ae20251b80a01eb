/-
  Tfplenum.Controller.SyncStates

  The state of a rule set after a synchronisation.  The sensors that are processed
  leave their states in it, and it is synced if there are any and none of them is an
  error.  Sensors that are not processed leave nothing, whether or not the rule set
  is assigned to them.
-/

import Tfplenum.Controller.DirtyMarks

namespace Tfplenum

open Lib

/-! ## Outcomes -/

/-- What became of one node that was processed: whether the part of each application came
    to its end. -/
structure NodeOutcome where
  ipAddress : String
  suricata : Bool
  zeek : Bool
deriving DecidableEq

/-- The application of the rule type received its files. -/
def NodeOutcome.received (outcome : NodeOutcome) (appType : String) : Bool :=
  if appType = RuleTypes.suricata then outcome.suricata
  else if appType ∈ [RuleTypes.zeekScripts, RuleTypes.zeekIntel, RuleTypes.zeekSignatures] then
    outcome.zeek
  else false

/-- The program comes to its end from the state. -/
def Ends {α : Type} (env : Environment) (p : Prog α) (w : World) : Bool :=
  match p.run (handle env) w with
  | (.ok _, _) => true
  | (.error _, _) => false

/-- The part of Suricata, with its failure caught. -/
def syncSuricata (ipAddress hostname : String) : Prog Unit :=
  Program.tryExcept (syncSuricataRulesets ipAddress hostname) fun _ =>
    setSuricataStates hostname ipAddress .error

/-- The part of Zeek, with its failure caught. -/
def syncZeek (ipAddress hostname : String) : Prog Unit :=
  Program.tryExcept (syncZeekItems ipAddress hostname) fun _ =>
    setZeekStates hostname ipAddress .error

/-- The outcome of a node that is processed from the state. -/
def outcomeOf (env : Environment) (ipAddress hostname : String) (w : World) : NodeOutcome where
  ipAddress := ipAddress
  suricata := Ends env (syncSuricataRulesets ipAddress hostname) w
  zeek := Ends env (syncZeekItems ipAddress hostname)
    ((syncSuricata ipAddress hostname).run (handle env) w).2

/-- The outcomes of the nodes, processed one after the other, as far as the synchronisation
    comes. -/
def outcomesOf (env : Environment) : List Node → World → List NodeOutcome
  | [], _ => []
  | node :: nodes, w =>
      match sensorFacts node, (syncNode node).run (handle env) w with
      | .ok facts, (.ok _, w') => outcomeOf env facts.1 facts.2 w :: outcomesOf env nodes w'
      | _, _ => []

/-- No node is processed without the kit settings. -/
def outcomesWith (env : Environment) (nodes : List Node) :
    Except PyError (Option KitSettings) → World → List NodeOutcome
  | .ok (some _), w => outcomesOf env nodes w
  | _, _ => []

/-- The outcomes of a synchronisation. -/
def syncOutcomes (env : Environment) (w : World) : List NodeOutcome :=
  match Node.loadAllFromDb.run (handle env) w with
  | (.error _, _) => []
  | (.ok nodes, w') =>
      let cleared := (clearStates.run (handle env) w').2
      let asked := handle env (.external .loadKitSettings) cleared
      outcomesWith env (nodes.filter canSync) asked.1 asked.2

/-! ## One rule set during a synchronisation -/

/-- What a synchronisation changes of a rule set. -/
structure Recorded where
  state : RulesetState
  sensorStates : Option (List SensorState)

/-- Add a state, unless it is there. -/
def addState (stateObj : SensorState) (states : List SensorState) : List SensorState :=
  if stateObj ∈ states then states else states ++ [stateObj]

def Recorded.add (stateObj : SensorState) (built : Bool) (r : Recorded) : Recorded :=
  if built then { r with sensorStates := r.sensorStates.map (addState stateObj) } else r

def Recorded.settle (state : RulesetState) (r : Recorded) : Recorded := { r with state := state }

def Recorded.cleared (r : Recorded) : Recorded := { r with sensorStates := some [] }

theorem mem_addState (stateObj : SensorState) (states : List SensorState) :
    stateObj ∈ addState stateObj states := by
  unfold addState
  split
  · assumption
  · simp

theorem addState_addState (stateObj : SensorState) (states : List SensorState) :
    addState stateObj (addState stateObj states) = addState stateObj states := by
  have hmem := mem_addState stateObj states
  conv_lhs => rw [addState, if_pos hmem]

theorem Recorded.add_add (stateObj : SensorState) (built : Bool) (r : Recorded) :
    (r.add stateObj built).add stateObj built = r.add stateObj built := by
  cases built with
  | false => rfl
  | true =>
      have hcomp : addState stateObj ∘ addState stateObj = addState stateObj :=
        funext (addState_addState stateObj)
      simp only [Recorded.add, if_true, Option.map_map, hcomp]

section At

variable {env : Environment} {id : String} {ruleSet : RuleSetDoc} {rules : Table String RuleDoc}
variable {r : Recorded}

/-- The rule set is stored with this record, and the rules are these. -/
structure At (id : String) (ruleSet : RuleSetDoc) (rules : Table String RuleDoc) (r : Recorded)
    (w : World) : Prop where
  stored : (w.db .ruleset).get? id =
    some { ruleSet with state := r.state, sensorStates := r.sensorStates }
  rules : w.db .rule = rules

theorem at_of_readsOnly {α : Type} {p : Prog α} (hp : p.Uses Op.readsOnly) :
    Triple (handle env) (At id ruleSet rules r) p (fun _ => At id ruleSet rules r)
      fun _ => At id ruleSet rules r := by
  refine Triple.of_uses hp ?_
  intro op w hop hw
  have hdb : (handle env op w).2.db = w.db := db_of_readsOnly hop w
  refine ⟨?_, ?_⟩
  · rw [hdb]
    exact hw.stored
  · rw [hdb]
    exact hw.rules

theorem at_findRules {E : PyError → World → Prop} (ruleSetId : String) :
    Triple (handle env) (At id ruleSet rules r) (findRules ruleSetId)
      (fun rows w => rows = rules.find (fun _ rule => decide (rule.ruleSetId = ruleSetId)) ∧
        At id ruleSet rules r w) E := by
  refine Triple.perform ?_
  intro w hw
  refine ⟨?_, hw⟩
  rw [← hw.rules]
  rfl

/-- A rule set that is read is the one at hand, with some record. -/
structure Listed (id : String) (ruleSet : RuleSetDoc) (r : Recorded)
    (rows : List (String × RuleSetDoc)) : Prop where
  mem : id ∈ rows.map Prod.fst
  same : ∀ row ∈ rows, row.1 = id →
    row.2 = { ruleSet with state := r.state, sensorStates := r.sensorStates }

theorem at_getRulesets {E : PyError → World → Prop} :
    Triple (handle env) (At id ruleSet rules r) getRulesets
      (fun rows w => Listed id ruleSet r rows ∧ At id ruleSet rules r w) E := by
  refine Triple.perform ?_
  intro w hw
  refine ⟨⟨?_, ?_⟩, hw⟩
  · have hmem := Table.get?_eq_some_iff.mp hw.stored
    have hfind : (id, _) ∈ (w.db .ruleset).find fun _ _ => true :=
      List.mem_filter.mpr ⟨hmem, rfl⟩
    exact List.mem_map_of_mem hfind
  · rintro ⟨id', doc⟩ hrow rfl
    have hmem : (id', doc) ∈ (w.db .ruleset).rows := (List.mem_filter.mp hrow).1
    have hget := Table.get?_eq_some_iff.mpr hmem
    rw [hw.stored] at hget
    exact (Option.some.inj hget).symm

/-- An update of another rule set leaves this one. -/
theorem at_updateOther {id' : String} (hne : id' ≠ id) (f : RuleSetDoc → RuleSetDoc) :
    Triple (handle env) (At id ruleSet rules r) (Prog.updateOne .ruleset id' f)
      (fun _ => At id ruleSet rules r) fun _ => At id ruleSet rules r := by
  have hrule : Collection.ruleset ≠ .rule := by decide
  refine Triple.perform ?_
  intro w hw
  refine ⟨?_, ?_⟩
  · rw [db_updateOne, Table.get?_modify, if_neg hne.symm]
    exact hw.stored
  · rw [db_of_ne env w (.updateOne .ruleset id' f) hrule]
    exact hw.rules

/-- An update of this rule set, of what a synchronisation changes. -/
theorem at_update {E : PyError → World → Prop} {f : RuleSetDoc → RuleSetDoc} {r' : Recorded}
    (hf : f { ruleSet with state := r.state, sensorStates := r.sensorStates } =
      { ruleSet with state := r'.state, sensorStates := r'.sensorStates }) :
    Triple (handle env) (At id ruleSet rules r) (Prog.updateOne .ruleset id f)
      (fun _ => At id ruleSet rules r') E := by
  have hrule : Collection.ruleset ≠ .rule := by decide
  refine Triple.perform ?_
  intro w hw
  refine ⟨?_, ?_⟩
  · rw [db_updateOne, Table.get?_modify, if_pos rfl, hw.stored, Option.map_some, hf]
  · rw [db_of_ne env w (.updateOne .ruleset id f) hrule]
    exact hw.rules

/-- A loop over the rule sets that were read, whose body changes this one in its turn. -/
theorem at_forEach {rows : List (String × RuleSetDoc)}
    {body : String × RuleSetDoc → Prog Unit} {change : Recorded → Recorded}
    (hchange : ∀ r, change (change r) = change r)
    (hbody : ∀ row ∈ rows, row.1 = id → ∀ r, Triple (handle env) (At id ruleSet rules r) (body row)
      (fun _ => At id ruleSet rules (change r)) fun _ => At id ruleSet rules r)
    (hother : ∀ row ∈ rows, row.1 ≠ id → ∀ r, Triple (handle env) (At id ruleSet rules r)
      (body row) (fun _ => At id ruleSet rules r) fun _ => At id ruleSet rules r) :
    ∀ r, Triple (handle env) (At id ruleSet rules r) (Program.forEach rows body)
      (fun _ => At id ruleSet rules (if id ∈ rows.map Prod.fst then change r else r))
      fun _ w => At id ruleSet rules r w ∨ At id ruleSet rules (change r) w := by
  induction rows with
  | nil => exact fun r => Triple.done fun w hw => hw
  | cons row rows ih =>
      have htail := ih (fun row' hrow' => hbody row' (List.mem_cons_of_mem _ hrow'))
        fun row' hrow' => hother row' (List.mem_cons_of_mem _ hrow')
      intro r
      by_cases hid : row.1 = id
      · have hhead := hbody row (List.mem_cons_self ..) hid r
        refine (hhead.conseq (fun _ hw => hw) (fun _ _ hw => hw) fun _ _ hw => .inl hw).bind
          fun _ => ?_
        refine (htail (change r)).conseq (fun _ hw => hw) ?_ ?_
        · intro _ w hw
          rw [hchange, ite_self] at hw
          rw [List.map_cons, if_pos (by rw [hid]; exact List.mem_cons_self ..)]
          exact hw
        · intro _ w hw
          rw [hchange] at hw
          exact .inr (hw.elim (fun hw => hw) fun hw => hw)
      · have hhead := hother row (List.mem_cons_self ..) hid r
        refine (hhead.conseq (fun _ hw => hw) (fun _ _ hw => hw) fun _ _ hw => .inl hw).bind
          fun _ => ?_
        refine (htail r).post ?_
        intro _ w hw
        have hiff : id ∈ (row :: rows).map Prod.fst ↔ id ∈ rows.map Prod.fst := by
          rw [List.map_cons, List.mem_cons]
          exact or_iff_right (Ne.symm hid)
        simp only [hiff]
        exact hw

/-! ### States of sensors -/

theorem at_checkSensorStates (stateObj : SensorState) :
    Triple (handle env) (At id ruleSet rules r) (checkSensorStatesForStateObj id stateObj)
      (fun isNew w => (∃ states, r.sensorStates = some states ∧
        isNew = decide (stateObj ∉ states)) ∧
        At id ruleSet rules r w) fun _ => At id ruleSet rules r := by
  have hfind : Triple (handle env) (At id ruleSet rules r) (Prog.findById .ruleset id)
      (fun doc w => doc = some { ruleSet with state := r.state, sensorStates := r.sensorStates } ∧
        At id ruleSet rules r w) fun _ => At id ruleSet rules r :=
    Triple.perform fun w hw => ⟨hw.stored, hw⟩
  unfold checkSensorStatesForStateObj
  refine hfind.bind fun doc => Triple.assume fun hdoc => ?_
  rw [hdoc]
  show Triple _ _ ((required "sensor_states" r.sensorStates).bind _) _ _
  cases hstates : r.sensorStates with
  | none => exact Triple.raise fun w hw => hw
  | some states => exact Triple.done fun w hw => ⟨⟨states, rfl, rfl⟩, hw⟩

/-- What is kept in another rule set leaves this one. -/
theorem at_setState_other (hostname ipAddress appType : String) (state : RulesetState)
    {row : String × RuleSetDoc} (hne : row.1 ≠ id) (r : Recorded) :
    Triple (handle env) (At id ruleSet rules r) (setState hostname ipAddress state appType row)
      (fun _ => At id ruleSet rules r) fun _ => At id ruleSet rules r := by
  refine (at_of_readsOnly (readsOnly_findRules _)).bind fun rows => ?_
  refine (at_of_readsOnly (readsOnly_rulesEnabledCheck _)).bind fun hasARuleEnabled => ?_
  refine (at_of_readsOnly (readsOnly_goesIntoFile _ _ _)).bind fun isBuilt => ?_
  split
  · refine (at_of_readsOnly (readsOnly_checkSensorStates _ _)).bind fun isNew => ?_
    refine Triple.when (fun _ => ?_) fun _ w hw => hw
    exact (at_updateOther hne _).bind fun _ => Triple.done fun w hw => hw
  · exact Triple.done fun w hw => hw

/-- The state of another rule set leaves that of this one. -/
theorem at_updateRuleSetState_other {row : String × RuleSetDoc} (hne : row.1 ≠ id) (r : Recorded) :
    Triple (handle env) (At id ruleSet rules r) (updateRuleSetState row)
      (fun _ => At id ruleSet rules r) fun _ => At id ruleSet rules r := by
  refine Triple.tryExcept ?_ fun e => Triple.done fun w hw => hw
  refine (at_of_readsOnly (readsOnly_findRules _)).bind fun rows => ?_
  refine (at_of_readsOnly (readsOnly_required _ _)).bind fun sensorStates => ?_
  exact (at_updateOther hne _).bind fun _ => Triple.done fun w hw => hw

theorem worseState_of_pos {states : List SensorState} {rulesLength : Nat} (hpos : 0 < rulesLength) :
    worseStateFromSensorStates states rulesLength = worseStateFromSensorStates states 1 := by
  simp only [worseStateFromSensorStates, hpos, Nat.zero_lt_one]

section States

variable (henabled : ∃ row ∈ rules.find (fun _ rule => decide (rule.ruleSetId = id)),
  row.2.isEnabled = some true)
include henabled

theorem at_rulesEnabledCheck :
    Triple (handle env) (At id ruleSet rules r) (rulesEnabledCheck id)
      (fun hasARuleEnabled w => hasARuleEnabled = true ∧ At id ruleSet rules r w)
      fun _ => At id ruleSet rules r := by
  refine (at_findRules id).bind fun rows => Triple.assume fun hrows => ?_
  have hrequired : ∀ row ∈ rows, Triple (handle env) (At id ruleSet rules r)
      (required "isEnabled" row.2.isEnabled)
      (fun isEnabled w => row.2.isEnabled = some isEnabled ∧ At id ruleSet rules r w)
      fun _ => At id ruleSet rules r := by
    intro row _
    cases row.2.isEnabled with
    | none => exact Triple.raise fun w hw => hw
    | some isEnabled => exact Triple.done fun w hw => ⟨rfl, hw⟩
  refine (Triple.mapEach hrequired).bind fun enabled => ?_
  refine Triple.assume fun hall => Triple.done fun w hw => ⟨?_, hw⟩
  obtain ⟨row, hmem, htrue⟩ := henabled
  rw [← hrows] at hmem
  obtain ⟨isEnabled, hisEnabled, hsame⟩ := exists_of_forall₂ hall hmem
  rw [htrue] at hsame
  exact List.any_eq_true.mpr ⟨isEnabled, hisEnabled, (Option.some.inj hsame).symm⟩

/-- The state of a sensor is kept in the rule set when it is new. -/
theorem at_setState (hostname ipAddress appType : String) (state : RulesetState)
    {row : String × RuleSetDoc} {r₀ : Recorded} (hid : row.1 = id)
    (hrow : row.2 = { ruleSet with state := r₀.state, sensorStates := r₀.sensorStates })
    (r : Recorded) :
    Triple (handle env) (At id ruleSet rules r) (setState hostname ipAddress state appType row)
      (fun _ => At id ruleSet rules
        (r.add ⟨hostname, state⟩ (ruleSet.isBuilt appType ipAddress)))
      fun _ => At id ruleSet rules r := by
  have hgoes : goesIntoFile appType ipAddress row.2 = goesIntoFile appType ipAddress ruleSet := by
    rw [hrow]
    rfl
  unfold setState
  rw [hid]
  refine (at_findRules id).bind fun rows => Triple.assume fun hrows => ?_
  refine (at_rulesEnabledCheck henabled).bind fun hasARuleEnabled => Triple.assume fun hhas => ?_
  rw [hgoes]
  by_cases hkeys : ruleSet.HasKeys appType ipAddress
  swap
  · obtain ⟨e, hraise⟩ := goesIntoFile_of_not_hasKeys hkeys
    rw [hraise]
    exact Triple.raise fun w hw => hw
  rw [goesIntoFile_of_hasKeys hkeys]
  show Triple _ _ (if ruleSet.isBuilt appType ipAddress then _ else _) _ _
  cases ruleSet.isBuilt appType ipAddress with
  | false => exact Triple.done fun w hw => hw
  | true =>
      have hrows' : rows.isEmpty = false := by
        obtain ⟨rule, hmem, -⟩ := henabled
        rw [hrows, List.isEmpty_eq_false_iff]
        exact List.ne_nil_of_mem hmem
      rw [if_pos rfl]
      rw [hrows', hhas]
      refine (at_checkSensorStates _).bind fun isNew => Triple.assume fun hnew => ?_
      obtain ⟨states, hstates, hisNew⟩ := hnew
      refine Triple.when (fun htrue => ?_) fun hfalse w hw => ?_
      · refine (at_update ?_).bind fun _ => Triple.done fun w hw => hw
        rw [hisNew, decide_eq_true_eq] at htrue
        have hnotMem : (⟨hostname, state⟩ : SensorState) ∉ states := htrue
        simp [Recorded.add, RuleSetDoc.pushState, addState, hstates, hnotMem]
      · rw [hisNew, decide_eq_true_eq, not_not] at hfalse
        have hmem : (⟨hostname, state⟩ : SensorState) ∈ states := hfalse
        have hsame : r.add ⟨hostname, state⟩ true = r := by
          cases r
          simp_all [Recorded.add, addState]
        rw [hsame]
        exact hw

theorem at_setStates (hostname ipAddress appType : String) (state : RulesetState) (r : Recorded) :
    Triple (handle env) (At id ruleSet rules r) (setStates hostname ipAddress state appType)
      (fun _ => At id ruleSet rules
        (r.add ⟨hostname, state⟩ (ruleSet.isBuilt appType ipAddress)))
      fun _ w => At id ruleSet rules r w ∨
        At id ruleSet rules (r.add ⟨hostname, state⟩ (ruleSet.isBuilt appType ipAddress)) w := by
  unfold setStates
  refine at_getRulesets.bind fun rows => Triple.assume fun hlisted => ?_
  refine (at_forEach (Recorded.add_add _ _) ?_ ?_ r).post fun _ w hw => ?_
  · intro row hrow hid r'
    exact at_setState henabled hostname ipAddress appType state hid (hlisted.same row hrow hid) r'
  · intro row _ hne r'
    exact at_setState_other hostname ipAddress appType state hne r'
  · rw [if_pos hlisted.mem] at hw
    exact hw

theorem at_updateRuleSetState {row : String × RuleSetDoc} {state : RulesetState}
    {states : List SensorState} (hid : row.1 = id)
    (hrow : row.2 = { ruleSet with state := state, sensorStates := some states }) (r : Recorded) :
    Triple (handle env) (At id ruleSet rules r) (updateRuleSetState row)
      (fun _ => At id ruleSet rules (r.settle (worseStateFromSensorStates states 1)))
      fun _ => At id ruleSet rules r := by
  have hcaught (e : PyError) : Triple (handle env) (fun _ => False) (.done () : Prog Unit)
      (fun _ => At id ruleSet rules (r.settle (worseStateFromSensorStates states 1)))
      fun _ => At id ruleSet rules r := Triple.done fun w hw => hw.elim
  unfold updateRuleSetState
  rw [hid, hrow]
  refine Triple.tryExcept ?_ hcaught
  refine (at_findRules id).bind fun rows => Triple.assume fun hrows => ?_
  have hpos : 0 < rows.length := by
    obtain ⟨rule, hmem, -⟩ := henabled
    rw [hrows]
    exact List.length_pos_of_mem hmem
  show Triple _ _ ((Prog.updateOne .ruleset id _).bind _) _ _
  rw [worseState_of_pos hpos]
  exact (at_update rfl).bind fun _ => Triple.done fun w hw => hw

/-- The state of the rule set is the worst of those of its sensors. -/
theorem at_updateRuleSetStates (state : RulesetState) (states : List SensorState) :
    Triple (handle env) (At id ruleSet rules ⟨state, some states⟩) updateRuleSetStates
      (fun _ => At id ruleSet rules ⟨worseStateFromSensorStates states 1, some states⟩)
      fun _ _ => True := by
  unfold updateRuleSetStates
  refine at_getRulesets.bind fun rows => Triple.assume fun hlisted => ?_
  have hsettle (r : Recorded) : (r.settle (worseStateFromSensorStates states 1)).settle
      (worseStateFromSensorStates states 1) = r.settle (worseStateFromSensorStates states 1) := rfl
  refine (at_forEach hsettle ?_ ?_ _).conseq (fun _ hw => hw)
    (fun _ w hw => ?_) fun _ _ _ => trivial
  · intro row hrow hid r
    exact at_updateRuleSetState henabled hid (hlisted.same row hrow hid) r
  · intro row _ hne r
    exact at_updateRuleSetState_other hne r
  · rw [if_pos hlisted.mem] at hw
    exact hw

end States

/-- The states of the sensors are cleared. -/
theorem at_clearStates :
    Triple (handle env) (At id ruleSet rules r) clearStates
      (fun _ => At id ruleSet rules r.cleared) fun _ _ => True := by
  have hclear (r : Recorded) : r.cleared.cleared = r.cleared := rfl
  unfold clearStates
  refine at_getRulesets.bind fun rows => Triple.assume fun hlisted => ?_
  refine (at_forEach hclear ?_ ?_ _).conseq (fun _ hw => hw) (fun _ w hw => ?_) fun _ _ _ => trivial
  · intro row _ hid r
    rw [hid]
    exact (at_update rfl).bind fun _ => Triple.done fun w hw => hw
  · intro row _ hne r
    exact (at_updateOther hne _).bind fun _ => Triple.done fun w hw => hw
  · rw [if_pos hlisted.mem] at hw
    exact hw

end At

/-! ## What the sensors have left -/

/-- Whether a sensor has left its state, and whether one has left an error. -/
structure Tally where
  present : Bool
  failed : Bool
deriving DecidableEq

def tally (states : List SensorState) : Tally where
  present := !states.isEmpty
  failed := states.any fun sensorState => sensorState.state = .error

/-- With the state of one more sensor, if its file was built from the rule set. -/
def Tally.add (failed built : Bool) (t : Tally) : Tally where
  present := t.present || built
  failed := t.failed || built && failed

def Tally.verdict (t : Tally) : RulesetState :=
  if t.present && !t.failed then .synced else .error

@[simp] theorem Tally.add_false (failed : Bool) (t : Tally) : t.add failed false = t := by
  simp [Tally.add]

theorem Tally.add_add (failed built built' : Bool) (t : Tally) :
    (t.add failed built).add failed built' = t.add failed (built || built') := by
  cases built <;> cases built' <;> cases failed <;> simp [Tally.add]

/-- An error counts, whatever went before. -/
theorem Tally.add_failed (built : Bool) (t : Tally) :
    (t.add false built).add true built = t.add true built := by
  cases built <;> simp [Tally.add]

theorem tally_addState (stateObj : SensorState) (states : List SensorState) :
    tally (addState stateObj states) =
      (tally states).add (decide (stateObj.state = .error)) true := by
  unfold addState
  split
  · rename_i hmem
    have hpresent : states.isEmpty = false :=
      List.isEmpty_eq_false_iff.mpr (List.ne_nil_of_mem hmem)
    have hfailed : stateObj.state = .error →
        (states.any fun sensorState => sensorState.state = .error) = true := by
      intro herror
      exact List.any_eq_true.mpr ⟨stateObj, hmem, decide_eq_true herror⟩
    by_cases herror : stateObj.state = .error
    · simp [tally, Tally.add, hpresent, hfailed herror]
    · simp [tally, Tally.add, hpresent, herror]
  · simp [tally, Tally.add]

theorem worseState_eq_verdict (states : List SensorState) :
    worseStateFromSensorStates states 1 = (tally states).verdict := by
  cases states with
  | nil => rfl
  | cons sensorState states =>
      simp only [worseStateFromSensorStates, Tally.verdict, tally, List.length_cons,
        Nat.zero_lt_succ, and_self, if_true, List.isEmpty_cons, Bool.not_false, Bool.true_and]
      cases (sensorState :: states).any fun sensorState => sensorState.state = .error <;> rfl

theorem Tally.verdict_eq_synced_iff {t : Tally} :
    t.verdict = .synced ↔ t.present = true ∧ t.failed = false := by
  rcases t with ⟨_ | _, _ | _⟩ <;> decide

/-- The files of Zeek are built from the rule set for the sensor. -/
def RuleSetDoc.isBuiltForZeek (ipAddress : String) (ruleSet : RuleSetDoc) : Bool :=
  ruleSet.isBuilt RuleTypes.zeekScripts ipAddress ||
    ruleSet.isBuilt RuleTypes.zeekIntel ipAddress ||
    ruleSet.isBuilt RuleTypes.zeekSignatures ipAddress

/-- The outcome of a node, as far as it concerns the rule set. -/
def NodeOutcome.count (ruleSet : RuleSetDoc) (outcome : NodeOutcome) (t : Tally) : Tally :=
  (t.add (!outcome.suricata) (ruleSet.isBuilt RuleTypes.suricata outcome.ipAddress)).add
    (!outcome.zeek) (ruleSet.isBuiltForZeek outcome.ipAddress)

def countOutcomes (ruleSet : RuleSetDoc) (outcomes : List NodeOutcome) (t : Tally) : Tally :=
  outcomes.foldl (fun t outcome => outcome.count ruleSet t) t

/-- The state the outcomes come to; without any the rule set keeps what it has. -/
def stateAfter (ruleSet : RuleSetDoc) (state : RulesetState) (outcomes : List NodeOutcome)
    (t : Tally) : RulesetState :=
  if outcomes = [] then state else (countOutcomes ruleSet outcomes t).verdict

section Tallied

variable {env : Environment} {id : String} {ruleSet : RuleSetDoc} {rules : Table String RuleDoc}
variable {state : RulesetState} {t : Tally} {failed built built' : Bool}

/-- The rule set is stored with the state, and with states of sensors that tally. -/
def Tallied (id : String) (ruleSet : RuleSetDoc) (rules : Table String RuleDoc)
    (state : RulesetState) (t : Tally) (w : World) : Prop :=
  ∃ states, tally states = t ∧ At id ruleSet rules ⟨state, some states⟩ w

/-- One more sensor has left its state, or not yet. -/
def Within (id : String) (ruleSet : RuleSetDoc) (rules : Table String RuleDoc)
    (state : RulesetState) (t : Tally) (failed built : Bool) (w : World) : Prop :=
  Tallied id ruleSet rules state t w ∨ Tallied id ruleSet rules state (t.add failed built) w

theorem Within.mono {w : World} (hw : Within id ruleSet rules state t failed built w)
    (himp : built = true → built' = true) : Within id ruleSet rules state t failed built' w := by
  rcases hw with hw | hw
  · exact .inl hw
  · cases built with
    | false =>
        rw [Tally.add_false] at hw
        exact .inl hw
    | true =>
        rw [himp rfl]
        exact .inr hw

theorem Within.after {w : World}
    (hw : Within id ruleSet rules state (t.add failed built) failed built' w) :
    Within id ruleSet rules state t failed (built || built') w := by
  rcases hw with hw | hw
  · have hfirst : Within id ruleSet rules state t failed built w := .inr hw
    exact hfirst.mono fun hbuilt => by rw [hbuilt, Bool.true_or]
  · rw [Tally.add_add] at hw
    exact .inr hw

/-- A program that, before it raises or when it ends, leaves the state of one more sensor. -/
def LeavesState (env : Environment) (id : String) (ruleSet : RuleSetDoc)
    (rules : Table String RuleDoc) (state : RulesetState) (failed built : Bool) (p : Prog Unit) :
    Prop :=
  ∀ t, Triple (handle env) (Tallied id ruleSet rules state t) p
    (fun _ => Tallied id ruleSet rules state (t.add failed built))
    fun _ => Within id ruleSet rules state t failed built

theorem tallied_of_readsOnly {α : Type} {p : Prog α} (hp : p.Uses Op.readsOnly) :
    Triple (handle env) (Tallied id ruleSet rules state t) p
      (fun _ => Tallied id ruleSet rules state t)
      fun _ => Within id ruleSet rules state t failed built := by
  refine Triple.exists_pre fun states => Triple.assume fun htally => ?_
  refine (at_of_readsOnly hp).conseq (fun _ hw => hw) ?_ ?_
  · exact fun _ w hw => ⟨states, htally, hw⟩
  · exact fun _ w hw => .inl ⟨states, htally, hw⟩

/-- A program that leaves the state of the rule set as it is. -/
def KeepsState (env : Environment) (id : String) (ruleSet : RuleSetDoc)
    (rules : Table String RuleDoc) (state : RulesetState) (p : Prog Unit) : Prop :=
  Triple (handle env) (fun w => ∃ t, Tallied id ruleSet rules state t w) p
    (fun _ w => ∃ t, Tallied id ruleSet rules state t w)
    fun _ w => ∃ t, Tallied id ruleSet rules state t w

/-- What only reads may go before. -/
theorem LeavesState.after_read {α : Type} {p : Prog α} {f : α → Prog Unit}
    (hp : p.Uses Op.readsOnly)
    (hf : ∀ a, LeavesState env id ruleSet rules state failed built (f a)) :
    LeavesState env id ruleSet rules state failed built (p.bind f) :=
  fun t => (tallied_of_readsOnly hp).bind fun a => hf a t

/-- Two programs, one after the other. -/
theorem LeavesState.andThen {p : Prog Unit} {q : Prog Unit}
    (hp : LeavesState env id ruleSet rules state failed built p)
    (hq : LeavesState env id ruleSet rules state failed built' q) :
    LeavesState env id ruleSet rules state failed (built || built') (p.bind fun _ => q) := by
  intro t
  refine ((hp t).conseq (fun _ hw => hw) (fun _ _ hw => hw) ?_).bind fun _ => ?_
  · intro _ w hw
    exact hw.mono fun hbuilt => by rw [hbuilt, Bool.true_or]
  · refine (hq (t.add failed built)).conseq (fun _ hw => hw) ?_ ?_
    · intro _ w hw
      rw [Tally.add_add] at hw
      exact hw
    · intro _ w hw
      exact hw.after

/-- An error that is left after a failure counts, whatever was left before. -/
theorem LeavesState.handled {handler : Prog Unit} {w w' : World}
    (hh : LeavesState env id ruleSet rules state true built handler)
    (hw : Within id ruleSet rules state t false built w)
    (hr : handler.run (handle env) w = (.ok (), w')) :
    Tallied id ruleSet rules state (t.add true built) w' := by
  rcases hw with hw | hw
  · exact (hh t).ok hw hr
  · have hpost := (hh (t.add false built)).ok hw hr
    rw [Tally.add_failed] at hpost
    exact hpost

theorem LeavesState.raiseAnew {p : Prog Unit}
    (hp : LeavesState env id ruleSet rules state failed built p) :
    LeavesState env id ruleSet rules state failed built
      (Program.tryExcept p Tfplenum.raiseAnew) := by
  intro t
  refine Triple.tryExcept (hp t) fun e => ?_
  cases e <;> exact Triple.raise fun w hw => hw

theorem LeavesState.restartPod {setSynced : Prog Unit} (ipAddress : String)
    (podName : Option String)
    (hset : LeavesState env id ruleSet rules state failed built setSynced) :
    LeavesState env id ruleSet rules state failed built
      (restartPod ipAddress podName setSynced) := by
  refine LeavesState.raiseAnew ?_
  cases podName with
  | none => exact hset
  | some podName => exact LeavesState.after_read (readsOnly_runCmdOrRaise _ _) fun _ => hset

theorem LeavesState.withPodName {body : Option String → Prog Unit} (ipAddress component : String)
    (hbody : ∀ podName, LeavesState env id ruleSet rules state failed built (body podName)) :
    LeavesState env id ruleSet rules state failed built (withPodName ipAddress component body) := by
  refine LeavesState.after_read (Prog.readsOnly_ask _) fun answer => ?_
  have hraise (e : PyError) : LeavesState env id ruleSet rules state failed built
      ((body none).bind fun _ => Program.raise e) := by
    intro t
    exact (hbody none t).bind fun _ => Triple.raise fun w hw => .inr hw
  cases answer with
  | ok podName => exact hbody (some podName)
  | error e =>
      cases e with
      | valueError _ => exact hbody none
      | _ => exact hraise _

/-! ### The two applications -/

section Applications

variable (henabled : ∃ row ∈ rules.find (fun _ rule => decide (rule.ruleSetId = id)),
  row.2.isEnabled = some true)
include henabled

theorem leaves_setStates (hostname ipAddress appType : String) (sensorState : RulesetState) :
    LeavesState env id ruleSet rules state (decide (sensorState = .error))
      (ruleSet.isBuilt appType ipAddress) (setStates hostname ipAddress sensorState appType) := by
  intro t
  refine Triple.exists_pre fun states => Triple.assume fun htally => ?_
  have hadd : ∀ w, At id ruleSet rules ((⟨state, some states⟩ : Recorded).add
      ⟨hostname, sensorState⟩ (ruleSet.isBuilt appType ipAddress)) w →
      Tallied id ruleSet rules state
        (t.add (decide (sensorState = .error)) (ruleSet.isBuilt appType ipAddress)) w := by
    intro w hw
    cases hbuilt : ruleSet.isBuilt appType ipAddress with
    | false =>
        rw [hbuilt] at hw
        rw [Tally.add_false]
        exact ⟨states, htally, hw⟩
    | true =>
        rw [hbuilt] at hw
        refine ⟨addState ⟨hostname, sensorState⟩ states, ?_, hw⟩
        rw [tally_addState, htally]
  refine (at_setStates henabled hostname ipAddress appType sensorState _).conseq
    (fun _ hw => hw) (fun _ w hw => hadd w hw) fun _ w hw => ?_
  rcases hw with hw | hw
  · exact .inl ⟨states, htally, hw⟩
  · exact .inr (hadd w hw)

theorem leaves_setZeekStates (hostname ipAddress : String) (sensorState : RulesetState) :
    LeavesState env id ruleSet rules state (decide (sensorState = .error))
      (ruleSet.isBuiltForZeek ipAddress) (setZeekStates hostname ipAddress sensorState) := by
  unfold RuleSetDoc.isBuiltForZeek
  rw [Bool.or_assoc]
  refine LeavesState.andThen (leaves_setStates henabled hostname ipAddress _ sensorState) ?_
  exact LeavesState.andThen (leaves_setStates henabled hostname ipAddress _ sensorState)
    (leaves_setStates henabled hostname ipAddress _ sensorState)

theorem leaves_syncSuricataRulesets (ipAddress hostname : String) :
    LeavesState env id ruleSet rules state false (ruleSet.isBuilt RuleTypes.suricata ipAddress)
      (syncSuricataRulesets ipAddress hostname) := by
  refine LeavesState.withPodName _ _ fun podName => ?_
  refine LeavesState.after_read (readsOnly_buildRulesFile _ _) fun content => ?_
  refine LeavesState.after_read (Prog.uses_orRaise (Prog.readsOnly_ask _)) fun _ => ?_
  exact LeavesState.restartPod _ _ (leaves_setStates henabled hostname ipAddress _ .synced)

theorem leaves_syncZeekItems (ipAddress hostname : String) :
    LeavesState env id ruleSet rules state false (ruleSet.isBuiltForZeek ipAddress)
      (syncZeekItems ipAddress hostname) := by
  refine LeavesState.withPodName _ _ fun podName => ?_
  refine LeavesState.after_read (readsOnly_fabricPutZeekScripts _) fun _ => ?_
  refine LeavesState.after_read (readsOnly_buildRulesFile _ _) fun intel => ?_
  refine LeavesState.after_read (Prog.uses_orRaise (Prog.readsOnly_ask _)) fun _ => ?_
  refine LeavesState.after_read (readsOnly_buildRulesFile _ _) fun sigs => ?_
  refine LeavesState.after_read (Prog.uses_orRaise (Prog.readsOnly_ask _)) fun _ => ?_
  exact LeavesState.restartPod _ _ (leaves_setZeekStates henabled hostname ipAddress .synced)

omit henabled in
/-- A part whose failure is caught leaves an error if it fails, and nothing else counts. -/
theorem tallied_guarded {p handler : Prog Unit} {w w' : World}
    (hp : LeavesState env id ruleSet rules state false built p)
    (hh : LeavesState env id ruleSet rules state true built handler)
    (hw : Tallied id ruleSet rules state t w)
    (hr : (Program.tryExcept p fun _ => handler).run (handle env) w = (.ok (), w')) :
    Tallied id ruleSet rules state (t.add (!Ends env p w) built) w' := by
  rw [Program.run_tryExcept] at hr
  have hpost := (hp t).apply w hw
  unfold Ends
  rcases hrun : p.run (handle env) w with ⟨e | u, w₁⟩ <;> rw [hrun] at hr hpost
  · exact hh.handled hpost hr
  · cases hr
    exact hpost

theorem tallied_updateRuleSetStates :
    Triple (handle env) (Tallied id ruleSet rules state t) updateRuleSetStates
      (fun _ => Tallied id ruleSet rules t.verdict t) fun _ _ => True := by
  refine Triple.exists_pre fun states => Triple.assume fun htally => ?_
  refine (at_updateRuleSetStates henabled state states).post fun _ w hw => ?_
  rw [worseState_eq_verdict, htally] at hw
  exact ⟨states, htally, hw⟩

/-- A node that is processed counts by its outcome. -/
theorem tallied_syncNode {node : Node} {facts : String × String} {w w' : World}
    (hfacts : sensorFacts node = .ok facts) (hw : Tallied id ruleSet rules state t w)
    (hr : (syncNode node).run (handle env) w = (.ok (), w')) :
    Tallied id ruleSet rules ((outcomeOf env facts.1 facts.2 w).count ruleSet t).verdict
      ((outcomeOf env facts.1 facts.2 w).count ruleSet t) w' := by
  have hparts : ((syncSuricata facts.1 facts.2).bind fun _ =>
      (syncZeek facts.1 facts.2).bind fun _ => updateRuleSetStates).run (handle env) w =
        (.ok (), w') := by
    rw [← hr, syncNode, hfacts]
    rfl
  obtain ⟨_, w₁, hsuricata, hrest⟩ := Program.exists_of_run_bind _ hparts
  obtain ⟨_, w₂, hzeek, hupdate⟩ := Program.exists_of_run_bind _ hrest
  have hw₁ := tallied_guarded (leaves_syncSuricataRulesets henabled facts.1 facts.2)
    (leaves_setStates henabled facts.2 facts.1 RuleTypes.suricata .error) hw hsuricata
  have hw₂ := tallied_guarded (leaves_syncZeekItems henabled facts.1 facts.2)
    (leaves_setZeekStates henabled facts.2 facts.1 .error) hw₁ hzeek
  have hcount : (outcomeOf env facts.1 facts.2 w).count ruleSet t =
      (t.add (!Ends env (syncSuricataRulesets facts.1 facts.2) w)
        (ruleSet.isBuilt RuleTypes.suricata facts.1)).add
          (!Ends env (syncZeekItems facts.1 facts.2) w₁) (ruleSet.isBuiltForZeek facts.1) := by
    unfold outcomeOf NodeOutcome.count
    rw [hsuricata]
  rw [hcount]
  exact (tallied_updateRuleSetStates henabled).ok hw₂ hupdate

omit henabled in
/-- Whatever sensors leave before a program ends or raises, the state stays. -/
theorem LeavesState.keeps {p : Prog Unit}
    (hp : LeavesState env id ruleSet rules state failed built p) :
    KeepsState env id ruleSet rules state p := by
  refine Triple.exists_pre fun t => ?_
  refine (hp t).conseq (fun _ hw => hw) (fun _ w hw => ⟨_, hw⟩) fun _ w hw => ?_
  rcases hw with hw | hw
  · exact ⟨_, hw⟩
  · exact ⟨_, hw⟩

omit henabled in
theorem KeepsState.tryExcept {p handler : Prog Unit} (hp : KeepsState env id ruleSet rules state p)
    (hh : KeepsState env id ruleSet rules state handler) :
    KeepsState env id ruleSet rules state (Program.tryExcept p fun _ => handler) :=
  Triple.tryExcept hp fun _ => hh

omit henabled in
/-- A failure to write the state of a rule set is caught. -/
theorem updateRuleSetStates_returns (w : World) :
    ∃ w', updateRuleSetStates.run (handle env) w = (.ok (), w') := by
  have hcaught (e : PyError) : Triple (handle env) (fun _ => True) (.done () : Prog Unit)
      (fun _ _ => True) fun _ _ => False := Triple.done fun _ _ => trivial
  have hreturns : Triple (handle env) (fun _ => True) updateRuleSetStates (fun _ _ => True)
      fun _ _ => False := by
    refine Triple.bind (Triple.perform fun _ _ => trivial) fun rows =>
      Triple.forEach fun row _ => ?_
    exact Triple.tryExcept (Triple.total _) hcaught
  have hpost := hreturns.apply w trivial
  rcases hrun : updateRuleSetStates.run (handle env) w with ⟨e | ⟨⟩, w'⟩ <;> rw [hrun] at hpost
  · exact hpost.elim
  · exact ⟨w', rfl⟩

omit henabled in
theorem clearStates_returns (w : World) : ∃ w', clearStates.run (handle env) w = (.ok (), w') := by
  have hreturns : Triple (handle env) (fun _ => True) clearStates (fun _ _ => True)
      fun _ _ => False := by
    refine Triple.bind (Triple.perform fun _ _ => trivial) fun rows =>
      Triple.forEach fun row _ => ?_
    refine Triple.bind (Triple.perform (Q := fun _ _ => True) fun _ _ => trivial) fun _ => ?_
    exact Triple.done fun _ _ => trivial
  have hpost := hreturns.apply w trivial
  rcases hrun : clearStates.run (handle env) w with ⟨e | ⟨⟩, w'⟩ <;> rw [hrun] at hpost
  · exact hpost.elim
  · exact ⟨w', rfl⟩

/-- A node at which the synchronisation breaks off leaves the state as it is. -/
theorem tallied_syncNode_error {node : Node} {e : PyError} {w w' : World}
    (hw : Tallied id ruleSet rules state t w)
    (hr : (syncNode node).run (handle env) w = (.error e, w')) :
    ∃ t', Tallied id ruleSet rules state t' w' := by
  have hkeeps : Triple (handle env) (fun w => ∃ t, Tallied id ruleSet rules state t w)
      (syncNode node) (fun _ _ => True) fun _ w => ∃ t, Tallied id ruleSet rules state t w := by
    unfold syncNode
    cases sensorFacts node with
    | error e => exact Triple.raise fun w hw => hw
    | ok facts =>
        have hsuricata : KeepsState env id ruleSet rules state (syncSuricata facts.1 facts.2) :=
          (leaves_syncSuricataRulesets henabled facts.1 facts.2).keeps.tryExcept
            (leaves_setStates henabled facts.2 facts.1 RuleTypes.suricata .error).keeps
        have hzeek : KeepsState env id ruleSet rules state (syncZeek facts.1 facts.2) :=
          (leaves_syncZeekItems henabled facts.1 facts.2).keeps.tryExcept
            (leaves_setZeekStates henabled facts.2 facts.1 .error).keeps
        refine hsuricata.bind fun _ => hzeek.bind fun _ => ⟨fun w _ => ?_⟩
        obtain ⟨w'', hreturns⟩ := updateRuleSetStates_returns w
        rw [hreturns]
        trivial
  exact hkeeps.error ⟨t, hw⟩ hr

/-- The nodes that are processed count by their outcomes, and the state is what they come to
    if there are any. -/
theorem tallied_nodes (nodes : List Node) :
    ∀ {state : RulesetState} {t : Tally} {w : World}, Tallied id ruleSet rules state t w →
      ∃ t', Tallied id ruleSet rules
        (stateAfter ruleSet state (outcomesOf env nodes w) t) t'
        ((Program.forEach nodes syncNode).run (handle env) w).2 := by
  induction nodes with
  | nil =>
      intro state t w hw
      exact ⟨t, hw⟩
  | cons node nodes ih =>
      intro state t w hw
      rw [Program.forEach_cons]
      rcases hnode : (syncNode node).run (handle env) w with ⟨e | u, w₁⟩
      · have hnone : outcomesOf env (node :: nodes) w = [] := by
          rw [outcomesOf, hnode]
          cases sensorFacts node <;> rfl
        rw [Program.run_bind_error _ hnode, hnone, stateAfter, if_pos rfl]
        exact tallied_syncNode_error henabled hw hnode
      · rw [Program.run_bind_ok _ hnode]
        cases hfacts : sensorFacts node with
        | error e =>
            rw [syncNode, hfacts] at hnode
            cases hnode
        | ok facts =>
            have houtcomes : outcomesOf env (node :: nodes) w =
                outcomeOf env facts.1 facts.2 w :: outcomesOf env nodes w₁ := by
              rw [outcomesOf, hfacts, hnode]
            have hw₁ := tallied_syncNode henabled hfacts hw hnode
            obtain ⟨t', hw'⟩ := ih hw₁
            refine ⟨t', ?_⟩
            rw [houtcomes, stateAfter, if_neg (List.cons_ne_nil _ _)]
            cases hempty : outcomesOf env nodes w₁ with
            | nil =>
                rw [hempty] at hw'
                exact hw'
            | cons outcome outcomes =>
                rw [hempty, stateAfter, if_neg (List.cons_ne_nil _ _)] at hw'
                exact hw'

/-- The synchronisation of a rule set that is stored. -/
theorem at_syncSensors {w : World}
    (hw : At id ruleSet rules ⟨ruleSet.state, ruleSet.sensorStates⟩ w) :
    ∃ states, At id ruleSet rules
      ⟨stateAfter ruleSet ruleSet.state (syncOutcomes env w) ⟨false, false⟩, states⟩
      (syncSensors.run (handle env) w).2 := by
  have hnodes : Triple (handle env) (At id ruleSet rules ⟨ruleSet.state, ruleSet.sensorStates⟩)
      Node.loadAllFromDb (fun _ => At id ruleSet rules ⟨ruleSet.state, ruleSet.sensorStates⟩)
      fun _ => At id ruleSet rules ⟨ruleSet.state, ruleSet.sensorStates⟩ :=
    at_of_readsOnly Node.readsOnly_loadAllFromDb
  unfold syncSensors
  rw [Program.bind_eq]
  rcases hload : Node.loadAllFromDb.run (handle env) w with ⟨e | nodes, w₁⟩
  · have hnone : syncOutcomes env w = [] := by rw [syncOutcomes, hload]
    rw [Program.run_bind_error _ hload, hnone, stateAfter, if_pos rfl]
    exact ⟨_, hnodes.error hw hload⟩
  · obtain ⟨w₂, hclear⟩ : ∃ w₂, clearStates.run (handle env) w₁ = (.ok (), w₂) :=
      clearStates_returns w₁
    have hcleared : Tallied id ruleSet rules ruleSet.state ⟨false, false⟩ w₂ :=
      ⟨[], rfl, at_clearStates.ok (hnodes.ok hw hload) hclear⟩
    rw [Program.run_bind_ok _ hload, Program.bind_eq, Program.run_bind_ok _ hclear]
    have hasked : Tallied id ruleSet rules ruleSet.state ⟨false, false⟩
        (handle env (.external .loadKitSettings) w₂).2 := by
      obtain ⟨states, htally, hat⟩ := hcleared
      exact ⟨states, htally, hat.stored, hat.rules⟩
    have hrun : (syncAllRulesets (nodes.filter canSync)).run (handle env) w₂ =
        (syncWith (nodes.filter canSync) (handle env (.external .loadKitSettings) w₂).1).run
          (handle env) (handle env (.external .loadKitSettings) w₂).2 := rfl
    have houtcomes : syncOutcomes env w = outcomesWith env (nodes.filter canSync)
        (handle env (.external .loadKitSettings) w₂).1
        (handle env (.external .loadKitSettings) w₂).2 := by
      rw [syncOutcomes, hload]
      dsimp only
      rw [hclear]
    rw [hrun, houtcomes]
    cases (handle env (.external .loadKitSettings) w₂).1 with
    | error e =>
        obtain ⟨states, -, hat⟩ := hasked
        exact ⟨_, hat⟩
    | ok settings =>
        cases settings with
        | none =>
            obtain ⟨states, -, hat⟩ := hasked
            exact ⟨_, hat⟩
        | some settings =>
            obtain ⟨t, states, -, hat⟩ := tallied_nodes henabled (nodes.filter canSync) hasked
            exact ⟨_, hat⟩

end Applications

end Tallied

/-! ## What the outcomes come to -/

section Counts

variable {ruleSet : RuleSetDoc}

/-- A sensor the rule set is assigned to. -/
def NodeOutcome.concerns (ruleSet : RuleSetDoc) (outcome : NodeOutcome) : Bool :=
  ruleSet.hasSensor outcome.ipAddress

/-- Of the two applications only the one of the rule set counts. -/
theorem count_eq (hisEnabled : ruleSet.isEnabled = some true) (htype : ruleSet.appType ∈ ruleTypes)
    (outcome : NodeOutcome) (t : Tally) :
    outcome.count ruleSet t =
      t.add (!outcome.received ruleSet.appType) (outcome.concerns ruleSet) := by
  simp only [ruleTypes, List.mem_cons, List.not_mem_nil, or_false] at htype
  unfold NodeOutcome.count NodeOutcome.received NodeOutcome.concerns RuleSetDoc.isBuiltForZeek
    RuleSetDoc.isBuilt
  rcases htype with h | h | h | h <;>
    simp [h, hisEnabled, RuleTypes.suricata, RuleTypes.zeekScripts, RuleTypes.zeekIntel,
      RuleTypes.zeekSignatures]

/-- A rule set of another type counts for no application. -/
theorem count_of_not_ruleType (htype : ruleSet.appType ∉ ruleTypes) (outcome : NodeOutcome)
    (t : Tally) : outcome.count ruleSet t = t := by
  simp only [ruleTypes, List.mem_cons, List.not_mem_nil, or_false, not_or] at htype
  simp [NodeOutcome.count, RuleSetDoc.isBuiltForZeek, RuleSetDoc.isBuilt, htype]

theorem countOutcomes_eq (hisEnabled : ruleSet.isEnabled = some true)
    (htype : ruleSet.appType ∈ ruleTypes) (outcomes : List NodeOutcome) :
    ∀ t, countOutcomes ruleSet outcomes t =
      ⟨t.present || outcomes.any (NodeOutcome.concerns ruleSet),
        t.failed || outcomes.any fun outcome =>
          outcome.concerns ruleSet && !outcome.received ruleSet.appType⟩ := by
  induction outcomes with
  | nil =>
      intro t
      simp [countOutcomes]
  | cons outcome outcomes ih =>
      intro t
      have hstep : countOutcomes ruleSet (outcome :: outcomes) t =
          countOutcomes ruleSet outcomes (outcome.count ruleSet t) := rfl
      rw [hstep, ih, count_eq hisEnabled htype]
      simp only [Tally.add, List.any_cons, Bool.or_assoc]

theorem countOutcomes_of_not_ruleType (htype : ruleSet.appType ∉ ruleTypes)
    (outcomes : List NodeOutcome) (t : Tally) : countOutcomes ruleSet outcomes t = t := by
  induction outcomes with
  | nil => rfl
  | cons outcome outcomes ih =>
      show countOutcomes ruleSet outcomes (outcome.count ruleSet t) = t
      rw [count_of_not_ruleType htype]
      exact ih

theorem received_of_not_ruleType (htype : ruleSet.appType ∉ ruleTypes) (outcome : NodeOutcome) :
    outcome.received ruleSet.appType = false := by
  simp only [ruleTypes, List.mem_cons, List.not_mem_nil, or_false, not_or] at htype
  simp [NodeOutcome.received, htype]

/-- The sensors among those processed that the rule set is assigned to have all received
    the files of its application, and there is one. -/
def Received (ruleSet : RuleSetDoc) (outcomes : List NodeOutcome) : Prop :=
  (∃ outcome ∈ outcomes, outcome.concerns ruleSet = true) ∧
    ∀ outcome ∈ outcomes, outcome.concerns ruleSet = true →
      outcome.received ruleSet.appType = true

theorem verdict_eq_synced_iff (hisEnabled : ruleSet.isEnabled = some true)
    (outcomes : List NodeOutcome) :
    (countOutcomes ruleSet outcomes ⟨false, false⟩).verdict = .synced ↔
      Received ruleSet outcomes := by
  by_cases htype : ruleSet.appType ∈ ruleTypes
  · rw [countOutcomes_eq hisEnabled htype, Tally.verdict_eq_synced_iff]
    simp only [Received, Bool.false_or, List.any_eq_true, List.any_eq_false, Bool.and_eq_true,
      Bool.not_eq_true', not_and, Bool.not_eq_false]
  · rw [countOutcomes_of_not_ruleType htype]
    constructor
    · intro hsynced
      cases hsynced
    · rintro ⟨⟨outcome, hmem, hconcerns⟩, hall⟩
      have hreceived := hall outcome hmem hconcerns
      rw [received_of_not_ruleType htype] at hreceived
      cases hreceived

theorem Tally.verdict_ne_synced {t : Tally} (h : t.verdict ≠ .synced) : t.verdict = .error := by
  unfold Tally.verdict at h ⊢
  split at h
  · exact absurd rfl h
  · rename_i hverdict
    rw [if_neg hverdict]

end Counts

end Tfplenum
