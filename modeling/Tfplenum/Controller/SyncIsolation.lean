/-
  Tfplenum.Controller.SyncIsolation

  What a failure at one sensor does to the synchronisation of the others.  The
  transfers to a sensor are tried, but the look-ups of its facts are not, nor are the
  handlers, which keep its states in the rule sets: a failure there ends the loop.

  Whether the states can be kept depends on what a synchronisation does not change
  (`Fixed`), so it is known beforehand at which sensor the loop ends, if at any.
-/

import Tfplenum.Controller.SyncStates
import Tfplenum.Lib.Trace

namespace Tfplenum

open Lib

/-! ## What a synchronisation does not change -/

/-- A rule set without its state and the states of its sensors, save that it has some. -/
def RuleSetDoc.skeleton (doc : RuleSetDoc) : RuleSetDoc :=
  { doc with state := .created, sensorStates := doc.sensorStates.map fun _ => [] }

@[simp] theorem isBuilt_skeleton (doc : RuleSetDoc) (ruleType ipAddress : String) :
    doc.skeleton.isBuilt ruleType ipAddress = doc.isBuilt ruleType ipAddress := rfl

@[simp] theorem hasKeys_skeleton (doc : RuleSetDoc) (ruleType ipAddress : String) :
    doc.skeleton.HasKeys ruleType ipAddress ↔ doc.HasKeys ruleType ipAddress := Iff.rfl

@[simp] theorem isSome_sensorStates_skeleton (doc : RuleSetDoc) :
    doc.skeleton.sensorStates.isSome = doc.sensorStates.isSome := by
  simp [RuleSetDoc.skeleton]

def skeletons (rows : List (String × RuleSetDoc)) : List (String × RuleSetDoc) :=
  rows.map fun row => (row.1, row.2.skeleton)

/-- The rule sets have these skeletons, and the rules are these. -/
structure Fixed (sets : List (String × RuleSetDoc)) (rules : Table String RuleDoc) (w : World) :
    Prop where
  sets : skeletons (w.db .ruleset).rows = sets
  rules : w.db .rule = rules

section Fixed

variable {env : Environment} {sets : List (String × RuleSetDoc)} {rules : Table String RuleDoc}

/-- A skeleton is that of the rule set that is stored under its `_id`. -/
theorem Fixed.get?_of_skeleton {w : World} (hw : Fixed sets rules w) {row : String × RuleSetDoc}
    (hrow : row ∈ sets) : ∃ doc, (w.db .ruleset).get? row.1 = some doc ∧ doc.skeleton = row.2 := by
  rw [← hw.sets] at hrow
  obtain ⟨⟨id, doc⟩, hmem, rfl⟩ := List.mem_map.mp hrow
  exact ⟨doc, Table.get?_eq_some_iff.mpr hmem, rfl⟩

theorem fixed_of_readsOnly {α : Type} {p : Prog α} (hp : p.Uses Op.readsOnly) :
    Triple (handle env) (Fixed sets rules) p
      (fun _ => Fixed sets rules) fun _ => Fixed sets rules := by
  refine Triple.of_uses hp ?_
  intro op w hop hw
  have hdb : (handle env op w).2.db = w.db := db_of_readsOnly hop w
  constructor
  · rw [hdb]
    exact hw.sets
  · rw [hdb]
    exact hw.rules

/-- An update that keeps the skeleton of the rule set it is made on. -/
theorem Fixed.update {w : World} (hw : Fixed sets rules w) {id : String}
    {f : RuleSetDoc → RuleSetDoc}
    (hf : ∀ doc, (w.db .ruleset).get? id = some doc → (f doc).skeleton = doc.skeleton) :
    Fixed sets rules (handle env (.db (.updateOne .ruleset id f)) w).2 := by
  have hne : Collection.ruleset ≠ .rule := by decide
  constructor
  · rw [← hw.sets, db_updateOne]
    show (List.map _ (w.db .ruleset).rows).map _ = (w.db .ruleset).rows.map _
    rw [List.map_map]
    refine List.map_congr_left ?_
    rintro ⟨id', doc⟩ hmem
    by_cases hid : id' = id
    · subst hid
      have hsame := hf doc (Table.get?_eq_some_iff.mpr hmem)
      simp only [Function.comp_apply, if_true, hsame]
    · simp only [Function.comp_apply, hid, if_false]
  · rw [db_of_ne env w (.updateOne .ruleset id f) hne]
    exact hw.rules

/-! ## Keeping the states of a sensor -/

/-- The state of a sensor can be told from the rule set: all its rules say whether they are
    enabled, and the rule set has the keys that are looked up. -/
structure CanTell (rules : Table String RuleDoc) (ruleType ipAddress : String)
    (row : String × RuleSetDoc) : Prop where
  enabled : ∀ rule ∈ rules.find (fun _ rule => decide (rule.ruleSetId = row.1)),
    rule.2.isEnabled.isSome = true
  keys : row.2.HasKeys ruleType ipAddress

/-- The states of a sensor can be kept in the rule set: they can be told, and if the rule set
    is built for the sensor it has sensor states. -/
structure CanKeep (rules : Table String RuleDoc) (ruleType ipAddress : String)
    (row : String × RuleSetDoc) : Prop extends CanTell rules ruleType ipAddress row where
  states : row.2.isBuilt ruleType ipAddress = true → row.2.sensorStates.isSome = true

@[simp] theorem canKeep_skeleton (rules : Table String RuleDoc) (ruleType ipAddress id : String)
    (doc : RuleSetDoc) :
    CanKeep rules ruleType ipAddress (id, doc.skeleton) ↔
      CanKeep rules ruleType ipAddress (id, doc) := by
  constructor
  · exact fun h => ⟨⟨h.enabled, h.keys⟩, by simpa using h.states⟩
  · exact fun h => ⟨⟨h.enabled, h.keys⟩, by simpa using h.states⟩

/-- The state that is kept: an error, unless a rule of the rule set is enabled. -/
def keptState (rules : Table String RuleDoc) (id hostname : String) (state : RulesetState) :
    SensorState where
  hostname := hostname
  state := if (rules.find fun _ rule => decide (rule.ruleSetId = id)).any
    (fun rule => decide (rule.2.isEnabled = some true)) then state else .error

/-- The rule set has the state of a sensor. -/
def Kept (id : String) (stateObj : SensorState) (w : World) : Prop :=
  ∃ doc, (w.db .ruleset).get? id = some doc ∧ stateObj ∈ doc.sensorStates.getD []

theorem fixed_findRules {E : PyError → World → Prop} (ruleSetId : String) :
    Triple (handle env) (Fixed sets rules) (findRules ruleSetId)
      (fun rows w => rows = rules.find (fun _ rule => decide (rule.ruleSetId = ruleSetId)) ∧
        Fixed sets rules w) E := by
  refine Triple.perform ?_
  intro w hw
  refine ⟨?_, hw⟩
  rw [← hw.rules]
  rfl

theorem any_enabled {rows : List (String × RuleDoc)} {enabled : List Bool}
    (h : List.Forall₂ (fun row isEnabled => row.2.isEnabled = some isEnabled) rows enabled) :
    enabled.any id = rows.any fun rule => decide (rule.2.isEnabled = some true) := by
  induction h with
  | nil => rfl
  | @cons row isEnabled rows enabled hhead _ ih =>
      rw [List.any_cons, List.any_cons, ih, hhead]
      cases isEnabled <;> rfl

/-- The check returns if all rules say whether they are enabled. -/
theorem fixed_rulesEnabledCheck (id : String) :
    Triple (handle env) (Fixed sets rules) (rulesEnabledCheck id)
      (fun hasARuleEnabled w => ((∀ rule ∈ rules.find (fun _ rule => decide (rule.ruleSetId = id)),
          rule.2.isEnabled.isSome = true) ∧
        hasARuleEnabled = (rules.find fun _ rule => decide (rule.ruleSetId = id)).any
          fun rule => decide (rule.2.isEnabled = some true)) ∧ Fixed sets rules w)
      fun _ w => (¬ ∀ rule ∈ rules.find (fun _ rule => decide (rule.ruleSetId = id)),
        rule.2.isEnabled.isSome = true) ∧ Fixed sets rules w := by
  unfold rulesEnabledCheck
  refine (fixed_findRules id).bind fun rows => Triple.assume fun hrows => ?_
  have hrequired : ∀ row ∈ rows, Triple (handle env) (Fixed sets rules)
      (required "isEnabled" row.2.isEnabled)
      (fun isEnabled w => row.2.isEnabled = some isEnabled ∧ Fixed sets rules w)
      fun _ w => (¬ ∀ rule ∈ rows, rule.2.isEnabled.isSome = true) ∧ Fixed sets rules w := by
    intro row hmem
    cases hisEnabled : row.2.isEnabled with
    | none =>
        refine Triple.raise fun w hw => ⟨fun hall => ?_, hw⟩
        have hsome := hall row hmem
        rw [hisEnabled] at hsome
        cases hsome
    | some isEnabled => exact Triple.done fun w hw => ⟨rfl, hw⟩
  rw [← hrows]
  refine (Triple.mapEach hrequired).bind fun enabled => ?_
  refine Triple.assume fun hall => Triple.done fun w hw => ⟨⟨?_, ?_⟩, hw⟩
  · intro rule hmem
    obtain ⟨isEnabled, -, hsome⟩ := exists_of_forall₂ hall hmem
    rw [hsome]
    rfl
  · exact any_enabled hall

/-- The states are looked at if the rule set has any. -/
theorem fixed_checkSensorStates {row : String × RuleSetDoc} (hrow : (row.1, row.2.skeleton) ∈ sets)
    (stateObj : SensorState) :
    Triple (handle env) (Fixed sets rules) (checkSensorStatesForStateObj row.1 stateObj)
      (fun isNew w => row.2.sensorStates.isSome = true ∧ Fixed sets rules w ∧
        ∃ doc, (w.db .ruleset).get? row.1 = some doc ∧ doc.sensorStates.isSome = true ∧
          (isNew = false → stateObj ∈ doc.sensorStates.getD []))
      fun _ w => row.2.sensorStates.isSome = false ∧ Fixed sets rules w := by
  constructor
  intro w hw
  obtain ⟨doc, hget, hskeleton⟩ := hw.get?_of_skeleton hrow
  have hsome : doc.sensorStates.isSome = row.2.sensorStates.isSome := by
    rw [← isSome_sensorStates_skeleton doc, hskeleton, isSome_sensorStates_skeleton]
  have hrun : (checkSensorStatesForStateObj row.1 stateObj).run (handle env) w =
      ((required "sensor_states" doc.sensorStates).bind fun sensorStates =>
        .done (decide (stateObj ∉ sensorStates))).run (handle env) w := by
    have hfind : (Prog.findById .ruleset row.1).run (handle env) w = (.ok (some doc), w) := by
      rw [← hget]
      rfl
    rw [checkSensorStatesForStateObj, Program.bind_eq, Program.run_bind_ok _ hfind]
    rfl
  rw [hrun]
  cases hstates : doc.sensorStates with
  | none =>
      rw [hstates] at hsome
      exact ⟨hsome.symm, hw⟩
  | some states =>
      rw [hstates] at hsome
      refine ⟨hsome.symm, hw, doc, hget, by rw [hstates]; rfl, fun hold => ?_⟩
      rw [hstates]
      simpa using hold

/-- The state of the sensor is kept in the rule set, or it is not for this sensor. -/
theorem fixed_setState (hostname ipAddress ruleType : String) (state : RulesetState)
    {row : String × RuleSetDoc} (hrow : (row.1, row.2.skeleton) ∈ sets) :
    Triple (handle env) (Fixed sets rules) (setState hostname ipAddress state ruleType row)
      (fun _ w => CanKeep rules ruleType ipAddress row ∧ Fixed sets rules w ∧
        (row.2.isBuilt ruleType ipAddress = true →
          Kept row.1 (keptState rules row.1 hostname state) w))
      fun _ w => ¬ CanKeep rules ruleType ipAddress row ∧ Fixed sets rules w := by
  unfold setState
  refine (fixed_findRules row.1).bind fun rows => Triple.assume fun hrows => ?_
  refine ((fixed_rulesEnabledCheck row.1).conseq (fun _ hw => hw) (fun _ _ hw => hw) ?_).bind
    fun hasARuleEnabled => Triple.assume fun hhas => ?_
  · intro _ w hw
    exact ⟨fun hkeep => hw.1 hkeep.enabled, hw.2⟩
  obtain ⟨hall, hany⟩ := hhas
  by_cases hkeys : row.2.HasKeys ruleType ipAddress
  swap
  · obtain ⟨e, hraise⟩ := goesIntoFile_of_not_hasKeys hkeys
    rw [hraise]
    exact Triple.raise fun w hw => ⟨fun hkeep => hkeys hkeep.keys, hw⟩
  rw [goesIntoFile_of_hasKeys hkeys]
  show Triple _ _ (if row.2.isBuilt ruleType ipAddress then _ else _) _ _
  cases hbuilt : row.2.isBuilt ruleType ipAddress with
  | false =>
      refine Triple.done fun w hw => ⟨⟨⟨hall, hkeys⟩, fun h => ?_⟩, hw, fun h => by cases h⟩
      rw [hbuilt] at h
      cases h
  | true =>
      have hobj :
          (⟨hostname, if rows.isEmpty || !hasARuleEnabled then .error else state⟩ : SensorState) =
          keptState rules row.1 hostname state := by
        rw [keptState, ← hany, hrows]
        cases hasARuleEnabled with
        | false => rw [Bool.not_false, Bool.or_true, if_pos rfl, if_neg Bool.false_ne_true]
        | true =>
            have hne := List.any_eq_true.mp hany.symm
            obtain ⟨rule, hmem, -⟩ := hne
            rw [List.isEmpty_eq_false_iff.mpr (List.ne_nil_of_mem hmem)]
            rfl
      rw [if_pos rfl, hobj]
      refine ((fixed_checkSensorStates hrow _).conseq (fun _ hw => hw) (fun _ _ hw => hw) ?_).bind
        fun isNew => ?_
      · intro _ w hw
        refine ⟨fun hkeep => ?_, hw.2⟩
        have hsome := hkeep.states hbuilt
        rw [hw.1] at hsome
        cases hsome
      refine Triple.assume fun hsome => Triple.when (fun hnew => ?_) fun hold w hw => ?_
      · refine Triple.bind (Triple.perform fun w hw => ?_) fun _ => Triple.done fun w hw => hw
        obtain ⟨hfixed, doc, hget, hdoc, -⟩ := hw
        refine ⟨⟨⟨hall, hkeys⟩, fun _ => hsome⟩, hfixed.update fun doc' hget' => ?_, fun _ => ?_⟩
        · rw [hget] at hget'
          cases hget'
          obtain ⟨states, hstates⟩ := Option.isSome_iff_exists.mp hdoc
          simp [RuleSetDoc.skeleton, RuleSetDoc.pushState, hstates]
        · refine ⟨doc.pushState (keptState rules row.1 hostname state), ?_, ?_⟩
          · rw [db_updateOne, Table.get?_modify, if_pos rfl, hget]
            rfl
          · simp [RuleSetDoc.pushState]
      · obtain ⟨hfixed, doc, hget, -, hold'⟩ := hw
        exact ⟨⟨⟨hall, hkeys⟩, fun _ => hsome⟩, hfixed,
          fun _ => ⟨doc, hget, hold' (by simpa using hold)⟩⟩

theorem fixed_getRulesets {E : PyError → World → Prop} :
    Triple (handle env) (Fixed sets rules) getRulesets
      (fun rows w => skeletons rows = sets ∧ Fixed sets rules w) E := by
  refine Triple.perform ?_
  intro w hw
  refine ⟨?_, hw⟩
  rw [← hw.sets]
  show skeletons ((w.db .ruleset).rows.filter fun _ => true) = _
  rw [List.filter_true]

theorem skeleton_mem {rows : List (String × RuleSetDoc)} (h : skeletons rows = sets)
    {row : String × RuleSetDoc} (hrow : row ∈ rows) : (row.1, row.2.skeleton) ∈ sets := by
  rw [← h]
  exact List.mem_map_of_mem (f := fun row : String × RuleSetDoc => (row.1, row.2.skeleton)) hrow

theorem forall_canKeep {rows : List (String × RuleSetDoc)} (h : skeletons rows = sets)
    (ruleType ipAddress : String) :
    (∀ row ∈ rows, CanKeep rules ruleType ipAddress row) ↔
      ∀ row ∈ sets, CanKeep rules ruleType ipAddress row := by
  rw [← h, skeletons, List.forall_mem_map]
  simp only [canKeep_skeleton]

/-- The states of a sensor are kept if they can be in every rule set. -/
theorem fixed_setStates (hostname ipAddress ruleType : String) (state : RulesetState) :
    Triple (handle env) (Fixed sets rules) (setStates hostname ipAddress state ruleType)
      (fun _ w => (∀ row ∈ sets, CanKeep rules ruleType ipAddress row) ∧ Fixed sets rules w)
      fun _ w => (¬ ∀ row ∈ sets, CanKeep rules ruleType ipAddress row) ∧ Fixed sets rules w := by
  unfold setStates
  refine fixed_getRulesets.bind fun rows => Triple.assume fun hrows => ?_
  rw [← forall_canKeep hrows]
  refine Triple.forEach_decides fun row hrow => ?_
  refine (fixed_setState hostname ipAddress ruleType state (skeleton_mem hrows hrow)).post ?_
  intro _ w hw
  exact ⟨hw.1, hw.2.1⟩

/-! ## States that were kept stay -/

/-- An operation that takes no state away from a rule set. -/
def Op.growsStates (op : Op) : Prop :=
  op.readsOnly ∨ ∃ id f, op = .db (.updateOne .ruleset id f) ∧
    ∀ (doc : RuleSetDoc) (stateObj : SensorState),
      stateObj ∈ doc.sensorStates.getD [] → stateObj ∈ (f doc).sensorStates.getD []

theorem coversSync_growsStates : CoversSync Op.growsStates where
  reads _ hop := .inl hop
  push id stateObj' := by
    refine .inr ⟨id, _, rfl, fun doc stateObj hmem => ?_⟩
    simp only [RuleSetDoc.pushState, Option.getD_some]
    exact List.mem_append_left _ hmem
  state id state := .inr ⟨id, _, rfl, fun doc stateObj hmem => hmem⟩

theorem Kept.step {op : Op} (hop : op.growsStates) {id : String} {stateObj : SensorState}
    {w : World} (h : Kept id stateObj w) : Kept id stateObj (handle env op w).2 := by
  obtain ⟨doc, hget, hmem⟩ := h
  rcases hop with hop | ⟨id', f, rfl, hf⟩
  · have hdb : (handle env op w).2.db = w.db := db_of_readsOnly hop w
    rw [Kept, hdb]
    exact ⟨doc, hget, hmem⟩
  · rw [Kept, db_updateOne, Table.get?_modify]
    by_cases hid : id = id'
    · rw [if_pos hid, hget]
      exact ⟨f doc, rfl, hf doc stateObj hmem⟩
    · rw [if_neg hid]
      exact ⟨doc, hget, hmem⟩

theorem kept_of_growsStates {α : Type} {p : Prog α} (hp : p.Uses Op.growsStates) (id : String)
    (stateObj : SensorState) :
    Triple (handle env) (Kept id stateObj) p
      (fun _ => Kept id stateObj) fun _ => Kept id stateObj :=
  Triple.of_uses hp fun _ _ hop hw => hw.step hop

/-- The state of a sensor is kept in each rule set that is built for it. -/
theorem kept_setStates (hostname ipAddress ruleType : String) (state : RulesetState)
    {row : String × RuleSetDoc} (hmem : row ∈ sets)
    (hbuilt : row.2.isBuilt ruleType ipAddress = true) :
    Triple (handle env) (Fixed sets rules) (setStates hostname ipAddress state ruleType)
      (fun _ w => Fixed sets rules w ∧ Kept row.1 (keptState rules row.1 hostname state) w)
      fun _ _ => True := by
  have hstep {row : String × RuleSetDoc} (hrow : (row.1, row.2.skeleton) ∈ sets) :
      Triple (handle env) (Fixed sets rules) (setState hostname ipAddress state ruleType row)
        (fun _ w => Fixed sets rules w ∧ (row.2.isBuilt ruleType ipAddress = true →
          Kept row.1 (keptState rules row.1 hostname state) w)) fun _ _ => True :=
    (fixed_setState hostname ipAddress ruleType state hrow).conseq (fun _ hw => hw)
      (fun _ _ hw => hw.2) fun _ _ _ => trivial
  unfold setStates
  refine fixed_getRulesets.bind fun rows => Triple.assume fun hrows => ?_
  rw [← hrows] at hmem
  obtain ⟨row, hrow, rfl⟩ := List.mem_map.mp hmem
  refine Triple.forEach_establishes hrow ?_ ?_ ?_
  · intro row' hrow'
    refine ((hstep (skeleton_mem hrows hrow')).and (kept_of_growsStates
      (uses_setState coversSync_growsStates hostname ipAddress ruleType state row') row.1 _)).conseq
        (fun _ hw => hw) ?_ fun _ _ _ => trivial
    intro _ w hw
    exact ⟨hw.1.1, hw.2⟩
  · intro row' hrow'
    exact (hstep (skeleton_mem hrows hrow')).post fun _ _ hw => hw.1
  · exact (hstep (skeleton_mem hrows hrow)).post fun _ _ hw => ⟨hw.1, hw.2 hbuilt⟩

/-! ## The part of one application -/

/-- The states can be kept in all rule sets of these types. -/
def Keepable (sets : List (String × RuleSetDoc)) (rules : Table String RuleDoc)
    (ruleTypes : List String) (ipAddress : String) : Prop :=
  ∀ ruleType ∈ ruleTypes, ∀ row ∈ sets, CanKeep rules ruleType ipAddress row

/-- The states of a sensor are kept in each rule set of these types that is built for it. -/
def AllKept (sets : List (String × RuleSetDoc)) (rules : Table String RuleDoc)
    (ruleTypes : List String) (ipAddress hostname : String) (state : RulesetState) (w : World) :
    Prop :=
  ∀ ruleType ∈ ruleTypes, ∀ row ∈ sets, row.2.isBuilt ruleType ipAddress = true →
    Kept row.1 (keptState rules row.1 hostname state) w

theorem allKept_of_growsStates {α : Type} {p : Prog α} (hp : p.Uses Op.growsStates)
    (ruleTypes : List String) (ipAddress hostname : String) (state : RulesetState) :
    Triple (handle env) (AllKept sets rules ruleTypes ipAddress hostname state) p
      (fun _ => AllKept sets rules ruleTypes ipAddress hostname state)
      fun _ => AllKept sets rules ruleTypes ipAddress hostname state :=
  Triple.of_uses hp fun _ _ hop hw ruleType htype row hrow hbuilt =>
    (hw ruleType htype row hrow hbuilt).step hop

/-- A program that keeps the states of a sensor in the rule sets of these types, if they can
    be, and raises if they cannot. -/
structure Keeper (env : Environment) (sets : List (String × RuleSetDoc))
    (rules : Table String RuleDoc) (ruleTypes : List String) (ipAddress hostname : String)
    (set : RulesetState → Prog Unit) :
    Prop where
  decides : ∀ state, Triple (handle env) (Fixed sets rules) (set state)
    (fun _ w => Keepable sets rules ruleTypes ipAddress ∧ Fixed sets rules w)
    fun _ w => ¬ Keepable sets rules ruleTypes ipAddress ∧ Fixed sets rules w
  keeps : ∀ state, Triple (handle env) (Fixed sets rules) (set state)
    (fun _ => AllKept sets rules ruleTypes ipAddress hostname state) fun _ _ => True
  grows : ∀ state, (set state).Uses Op.growsStates

/-- The programs for one type. -/
theorem keeper_setStates (ipAddress hostname ruleType : String) :
    Keeper env sets rules [ruleType] ipAddress hostname
      fun state => setStates hostname ipAddress state ruleType := by
  refine ⟨fun state => ?_, fun state => ?_,
    fun state => uses_setStates coversSync_growsStates _ _ _ _⟩
  · simp only [Keepable, List.forall_mem_singleton]
    exact fixed_setStates hostname ipAddress ruleType state
  · have hrow (row : String × RuleSetDoc) :
        Triple (handle env) (Fixed sets rules) (setStates hostname ipAddress state ruleType)
          (fun _ w => row ∈ sets → row.2.isBuilt ruleType ipAddress = true →
            Kept row.1 (keptState rules row.1 hostname state) w) fun _ _ => True := by
      by_cases hbuilt : row ∈ sets ∧ row.2.isBuilt ruleType ipAddress = true
      · refine (kept_setStates hostname ipAddress ruleType state hbuilt.1 hbuilt.2).post ?_
        exact fun _ _ hw _ _ => hw.2
      · exact (Triple.total _).post fun _ _ _ hmem h => absurd ⟨hmem, h⟩ hbuilt
    refine (Triple.forall_post hrow).post fun _ w hw => ?_
    exact List.forall_mem_singleton.mpr hw

/-- One after the other. -/
theorem Keeper.append {types types' : List String} {ipAddress hostname : String}
    {set set' : RulesetState → Prog Unit} (h : Keeper env sets rules types ipAddress hostname set)
    (h' : Keeper env sets rules types' ipAddress hostname set') :
    Keeper env sets rules (types ++ types') ipAddress hostname
      fun state => (set state).bind fun _ => set' state := by
  have hand : Keepable sets rules (types ++ types') ipAddress ↔
      Keepable sets rules types ipAddress ∧ Keepable sets rules types' ipAddress :=
    List.forall_mem_append
  refine ⟨fun state => ?_, fun state => ?_,
    fun state => (h.grows state).bind fun _ => h'.grows state⟩
  · rw [hand]
    refine ((h.decides state).conseq (fun _ hw => hw) (fun _ _ hw => hw) ?_).bind fun _ => ?_
    · exact fun _ w hw => ⟨fun hboth => hw.1 hboth.1, hw.2⟩
    · refine Triple.assume fun hfirst => (h'.decides state).conseq (fun _ hw => hw) ?_ ?_
      · exact fun _ w hw => ⟨⟨hfirst, hw.1⟩, hw.2⟩
      · exact fun _ w hw => ⟨fun hboth => hw.1 hboth.2, hw.2⟩
  · refine Triple.bind (((h.decides state).and (h.keeps state)).conseq (fun _ hw => ⟨hw, hw⟩)
      (fun _ _ hw => hw) fun _ _ _ => trivial) fun _ => ?_
    refine ((h'.keeps state).and (allKept_of_growsStates (h'.grows state) types ipAddress hostname
      state)).conseq (fun _ hw => ⟨hw.1.2, hw.2⟩) ?_ fun _ _ _ => trivial
    intro _ w hw
    exact List.forall_mem_append.mpr ⟨hw.2, hw.1⟩

theorem keeper_suricata (ipAddress hostname : String) :
    Keeper env sets rules [RuleTypes.suricata] ipAddress hostname
      (setSuricataStates hostname ipAddress) :=
  keeper_setStates ipAddress hostname RuleTypes.suricata

def zeekTypes : List String :=
  [RuleTypes.zeekScripts, RuleTypes.zeekIntel, RuleTypes.zeekSignatures]

theorem keeper_zeek (ipAddress hostname : String) :
    Keeper env sets rules zeekTypes ipAddress hostname (setZeekStates hostname ipAddress) :=
  (keeper_setStates ipAddress hostname RuleTypes.zeekScripts).append
    ((keeper_setStates ipAddress hostname RuleTypes.zeekIntel).append
      (keeper_setStates ipAddress hostname RuleTypes.zeekSignatures))

/-! ### Programs that end in keeping the states -/

/-- What the last part comes to, the program comes to. -/
def EndsIn (env : Environment) (sets : List (String × RuleSetDoc)) (rules : Table String RuleDoc)
    (last p : Prog Unit) : Prop :=
  ∀ Q : World → Prop,
    Triple (handle env) (Fixed sets rules) last (fun _ w => Q w ∧ Fixed sets rules w)
      (fun _ => Fixed sets rules) →
    Triple (handle env) (Fixed sets rules) p (fun _ w => Q w ∧ Fixed sets rules w)
      fun _ => Fixed sets rules

theorem endsIn_self (last : Prog Unit) : EndsIn env sets rules last last := fun _ h => h

theorem EndsIn.after_read {α : Type} {last : Prog Unit} {p : Prog α} {f : α → Prog Unit}
    (hp : p.Uses Op.readsOnly) (hf : ∀ a, EndsIn env sets rules last (f a)) :
    EndsIn env sets rules last (p.bind f) :=
  fun Q h => (fixed_of_readsOnly hp).bind fun a => hf a Q h

theorem EndsIn.raiseAnew {last p : Prog Unit} (hp : EndsIn env sets rules last p) :
    EndsIn env sets rules last (Program.tryExcept p raiseAnew) := by
  intro Q h
  refine Triple.tryExcept (hp Q h) fun e => ?_
  cases e <;> exact Triple.raise fun w hw => hw

theorem EndsIn.restartPod (ipAddress : String) (podName : Option String) (last : Prog Unit) :
    EndsIn env sets rules last (restartPod ipAddress podName last) := by
  refine EndsIn.raiseAnew ?_
  cases podName with
  | none => exact endsIn_self last
  | some podName => exact EndsIn.after_read (readsOnly_runCmdOrRaise _ _) fun _ => endsIn_self last

theorem EndsIn.withPodName {last : Prog Unit} {body : Option String → Prog Unit}
    (ipAddress component : String) (hbody : ∀ podName, EndsIn env sets rules last (body podName)) :
    EndsIn env sets rules last (withPodName ipAddress component body) := by
  refine EndsIn.after_read (Prog.readsOnly_ask _) fun answer => ?_
  have hraise (e : PyError) :
      EndsIn env sets rules last ((body none).bind fun _ => Program.raise e) :=
    fun Q h => (hbody none Q h).bind fun _ => Triple.raise fun w hw => hw.2
  cases answer with
  | ok podName => exact hbody (some podName)
  | error e =>
      cases e with
      | valueError _ => exact hbody none
      | _ => exact hraise _

theorem endsIn_syncSuricataRulesets (ipAddress hostname : String) :
    EndsIn env sets rules (setSuricataStates hostname ipAddress .synced)
      (syncSuricataRulesets ipAddress hostname) := by
  refine EndsIn.withPodName ipAddress "suricata" fun podName => ?_
  refine EndsIn.after_read (readsOnly_buildRulesFile _ _) fun content => ?_
  refine EndsIn.after_read (Prog.uses_orRaise (Prog.readsOnly_ask _)) fun _ => ?_
  exact EndsIn.restartPod ipAddress podName _

theorem endsIn_syncZeekItems (ipAddress hostname : String) :
    EndsIn env sets rules (setZeekStates hostname ipAddress .synced)
      (syncZeekItems ipAddress hostname) := by
  refine EndsIn.withPodName ipAddress "zeek" fun podName => ?_
  refine EndsIn.after_read (readsOnly_fabricPutZeekScripts _) fun _ => ?_
  refine EndsIn.after_read (readsOnly_buildRulesFile _ _) fun intel => ?_
  refine EndsIn.after_read (Prog.uses_orRaise (Prog.readsOnly_ask _)) fun _ => ?_
  refine EndsIn.after_read (readsOnly_buildRulesFile _ _) fun sigs => ?_
  refine EndsIn.after_read (Prog.uses_orRaise (Prog.readsOnly_ask _)) fun _ => ?_
  exact EndsIn.restartPod ipAddress podName _

/-! ### A part with its handler -/

section Part

variable {types : List String} {ipAddress hostname : String} {set : RulesetState → Prog Unit}
variable {p : Prog Unit}

/-- A part returns if and only if the states can be kept. -/
theorem part_decides (hset : Keeper env sets rules types ipAddress hostname set)
    (hp : EndsIn env sets rules (set .synced) p) :
    Triple (handle env) (Fixed sets rules) (Program.tryExcept p fun _ => set .error)
      (fun _ w => Keepable sets rules types ipAddress ∧ Fixed sets rules w)
      fun _ w => ¬ Keepable sets rules types ipAddress ∧ Fixed sets rules w :=
  Triple.tryExcept (hp _ ((hset.decides .synced).conseq (fun _ hw => hw) (fun _ _ hw => hw)
    fun _ _ hw => hw.2)) fun _ => hset.decides .error

/-- A part that returns leaves the states of the sensor. -/
theorem part_keeps (hset : Keeper env sets rules types ipAddress hostname set)
    (hp : EndsIn env sets rules (set .synced) p) {w w' : World} (hw : Fixed sets rules w)
    (hrun : (Program.tryExcept p fun _ => set .error).run (handle env) w = (.ok (), w')) :
    AllKept sets rules types ipAddress hostname (if Ends env p w then .synced else .error) w' := by
  have hsynced : Triple (handle env) (Fixed sets rules) p
      (fun _ v => AllKept sets rules types ipAddress hostname .synced v ∧ Fixed sets rules v)
      fun _ => Fixed sets rules := by
    refine hp _ ⟨fun v hv => ?_⟩
    have hboth := ((hset.decides .synced).and (hset.keeps .synced)).apply v ⟨hv, hv⟩
    rcases hlast : (set .synced).run (handle env) v with ⟨e | ⟨⟩, v'⟩ <;> rw [hlast] at hboth
    · exact hboth.1.2
    · exact ⟨hboth.2, hboth.1.2⟩
  rw [Program.run_tryExcept] at hrun
  have hpost := hsynced.apply w hw
  unfold Ends
  rcases hbody : p.run (handle env) w with ⟨e | ⟨⟩, v⟩ <;> rw [hbody] at hrun hpost
  · exact (hset.keeps .error).ok hpost hrun
  · cases hrun
    exact hpost.1

end Part

/-! ## Nodes -/

/-- The loop gets past the node: its facts are there, and its states can be kept. -/
def CanProcess (sets : List (String × RuleSetDoc)) (rules : Table String RuleDoc) (node : Node) :
    Prop :=
  ∃ facts, sensorFacts node = .ok facts ∧ Keepable sets rules ruleTypes facts.1

/-- With its facts there, both parts have to keep its states. -/
theorem canProcess_iff {node : Node} {facts : String × String} (h : sensorFacts node = .ok facts) :
    CanProcess sets rules node ↔
      Keepable sets rules [RuleTypes.suricata] facts.1 ∧ Keepable sets rules zeekTypes facts.1 := by
  have htypes : ruleTypes = [RuleTypes.suricata] ++ zeekTypes := rfl
  have hand : Keepable sets rules ruleTypes facts.1 ↔
      Keepable sets rules [RuleTypes.suricata] facts.1 ∧ Keepable sets rules zeekTypes facts.1 := by
    rw [htypes]
    exact List.forall_mem_append
  rw [← hand]
  constructor
  · rintro ⟨facts', hfacts', hkeep⟩
    rw [h] at hfacts'
    cases hfacts'
    exact hkeep
  · exact fun hkeep => ⟨facts, h, hkeep⟩

theorem fixed_updateRuleSetStates :
    Triple (handle env) (Fixed sets rules) updateRuleSetStates (fun _ => Fixed sets rules)
      fun _ _ => False := by
  have hfixed : Triple (handle env) (Fixed sets rules) updateRuleSetStates
      (fun _ => Fixed sets rules) fun _ => Fixed sets rules := by
    refine (fixed_of_readsOnly readsOnly_getRulesets).bind fun rows =>
      Triple.forEach fun row _ => ?_
    refine Triple.tryExcept ?_ fun e => Triple.done fun w hw => hw
    refine (fixed_of_readsOnly (readsOnly_findRules _)).bind fun rules' => ?_
    refine (fixed_of_readsOnly (readsOnly_required _ _)).bind fun sensorStates => ?_
    refine Triple.bind (Triple.perform fun w hw => hw.update fun doc _ => ?_) fun _ =>
      Triple.done fun w hw => hw
    rfl
  constructor
  intro w hw
  obtain ⟨w', hrun⟩ := updateRuleSetStates_returns w
  rw [hrun]
  exact hfixed.ok hw hrun

theorem syncNode_decides (node : Node) :
    Triple (handle env) (Fixed sets rules) (syncNode node)
      (fun _ w => CanProcess sets rules node ∧ Fixed sets rules w)
      fun _ w => ¬ CanProcess sets rules node ∧ Fixed sets rules w := by
  unfold syncNode
  cases hfacts : sensorFacts node with
  | error e =>
      refine Triple.raise fun w hw => ⟨?_, hw⟩
      rintro ⟨facts, h, -⟩
      rw [hfacts] at h
      cases h
  | ok facts =>
      rw [canProcess_iff hfacts]
      refine ((part_decides (keeper_suricata facts.1 facts.2)
        (endsIn_syncSuricataRulesets facts.1 facts.2)).conseq (fun _ hw => hw) (fun _ _ hw => hw)
          ?_).bind fun _ => Triple.assume fun hsuricata => ?_
      · exact fun _ w hw => ⟨fun h => hw.1 h.1, hw.2⟩
      refine ((part_decides (keeper_zeek facts.1 facts.2)
        (endsIn_syncZeekItems facts.1 facts.2)).conseq (fun _ hw => hw) (fun _ _ hw => hw)
          ?_).bind fun _ => Triple.assume fun hzeek => ?_
      · exact fun _ w hw => ⟨fun h => hw.1 h.2, hw.2⟩
      refine fixed_updateRuleSetStates.conseq (fun _ hw => hw) ?_ fun _ _ h => h.elim
      exact fun _ w hw => ⟨⟨hsuricata, hzeek⟩, hw⟩

/-! ### States that a node leaves -/

theorem AllKept.after {ruleTypes : List String} {ipAddress hostname : String} {state : RulesetState}
    {p : Prog Unit} {w w' : World} (h : AllKept sets rules ruleTypes ipAddress hostname state w)
    (hp : p.Uses Op.growsStates) (hrun : p.run (handle env) w = (.ok (), w')) :
    AllKept sets rules ruleTypes ipAddress hostname state w' :=
  (allKept_of_growsStates hp ruleTypes ipAddress hostname state).ok h hrun

/-! ### Files that are put on a sensor -/

/-- The operation puts a built file there. -/
def Op.putsAt (ipAddress location : String) (op : Op) : Prop :=
  ∃ content, op = .external (.fabricPut ipAddress content location)

/-- The operation puts the archive of the scripts on the sensor. -/
def Op.putsScripts (ipAddress : String) (op : Op) : Prop :=
  op = .external (.fabricPutFile ipAddress zeekScriptsZip zeekScriptsZip)

section Performs

variable {A : Op → Prop}

theorem performs_orRaise {α : Type} {p : Prog (Except PyError α)}
    (hp : p.Performs (handle env) A) : (Prog.orRaise p).Performs (handle env) A :=
  hp.bind Program.ofExcept

theorem performs_withPodName {body : Option String → Prog Unit} (ipAddress component : String)
    (hbody : ∀ podName, (body podName).Performs (handle env) A) :
    (withPodName ipAddress component body).Performs (handle env) A := by
  refine Program.performs_bind _ fun answer => ?_
  cases answer with
  | ok podName => exact hbody (some podName)
  | error e =>
      cases e with
      | valueError _ => exact hbody none
      | _ => exact (hbody none).bind fun _ => Program.raise _

theorem neverReturns_raiseAnew {α : Type} (e : PyError) :
    (raiseAnew e : Prog α).NeverReturns (handle env) := by
  cases e <;> exact Program.neverReturns_raise _

theorem performs_syncSuricataRulesets (ipAddress hostname : String) :
    (syncSuricataRulesets ipAddress hostname).Performs (handle env)
      (Op.putsAt ipAddress suricataRulesetLoc) := by
  refine performs_withPodName ipAddress "suricata" fun podName => ?_
  refine Program.performs_bind _ fun content => ?_
  exact (performs_orRaise (Program.performs_perform ⟨content, rfl⟩)).bind _

theorem performs_syncZeekItems_scripts (ipAddress hostname : String) :
    (syncZeekItems ipAddress hostname).Performs (handle env) (Op.putsScripts ipAddress) := by
  refine performs_withPodName ipAddress "zeek" fun podName => ?_
  refine Program.Performs.bind (Program.performs_bind _ fun _ => ?_) _
  refine Program.Performs.tryFinally (Program.Performs.tryExcept ?_ neverReturns_raiseAnew) _
  have hput : Op.putsScripts ipAddress
      (.external (.fabricPutFile ipAddress zeekScriptsZip zeekScriptsZip)) := rfl
  refine Program.performs_bind _ fun _ => Program.performs_bind _ fun _ => ?_
  exact (performs_orRaise (Program.performs_perform hput)).bind _

theorem performs_syncZeekItems_intel (ipAddress hostname : String) :
    (syncZeekItems ipAddress hostname).Performs (handle env)
      (Op.putsAt ipAddress zeekIntelPath) := by
  refine performs_withPodName ipAddress "zeek" fun podName => ?_
  refine Program.performs_bind _ fun _ => Program.performs_bind _ fun intel => ?_
  exact (performs_orRaise (Program.performs_perform ⟨intel, rfl⟩)).bind _

theorem performs_syncZeekItems_sigs (ipAddress hostname : String) :
    (syncZeekItems ipAddress hostname).Performs (handle env) (Op.putsAt ipAddress zeekSigPath) := by
  refine performs_withPodName ipAddress "zeek" fun podName => ?_
  refine Program.performs_bind _ fun _ => Program.performs_bind _ fun intel => ?_
  refine Program.performs_bind _ fun _ => Program.performs_bind _ fun sigs => ?_
  exact (performs_orRaise (Program.performs_perform ⟨sigs, rfl⟩)).bind _

end Performs

/-! ## The others -/

/-- What is owed to a node that is processed from the state `v` by a synchronisation that ends in
    `w'`: the files of each application whose part comes to its end are put on it, and its
    states are kept. -/
structure Processed (env : Environment) (node : Node) (ipAddress hostname : String) (v w' : World) :
    Prop where
  suricata : (outcomeOf env ipAddress hostname v).suricata = true →
    ∃ op ∈ (syncNode node).trace (handle env) v, op.putsAt ipAddress suricataRulesetLoc
  zeek : (outcomeOf env ipAddress hostname v).zeek = true →
    ∀ A ∈ [Op.putsScripts ipAddress, Op.putsAt ipAddress zeekIntelPath,
        Op.putsAt ipAddress zeekSigPath],
      ∃ op ∈ (syncNode node).trace (handle env) v, A op
  states : ∀ ruleType ∈ ruleTypes, ∀ row ∈ (v.db .ruleset).rows,
    row.2.isBuilt ruleType ipAddress = true →
      Kept row.1 (keptState (v.db .rule) row.1 hostname
        (if (outcomeOf env ipAddress hostname v).received ruleType then .synced else .error)) w'

/-- The synchronisation comes to its end, and every node with its facts is processed. -/
def Isolated (env : Environment) (nodes : List Node) (w : World) : Prop :=
  ∃ w', (syncAllRulesets nodes).run (handle env) w = (.ok (), w') ∧
    ∀ before node after, nodes = before ++ node :: after →
      ∀ facts, sensorFacts node = .ok facts →
        ∃ v, (Program.forEach before syncNode).run (handle env) { w with calls := w.calls + 1 } =
            (.ok (), v) ∧ Processed env node facts.1 facts.2 v w'

theorem exists_of_ends {α : Type} {p : Prog α} {w : World} (h : Ends env p w = true) :
    ∃ a w', p.run (handle env) w = (.ok a, w') := by
  unfold Ends at h
  rcases hrun : p.run (handle env) w with ⟨e | a, w'⟩
  · rw [hrun] at h
    cases h
  · exact ⟨a, w', rfl⟩

/-- What a part that comes to its end performs is performed by the part with its handler. -/
theorem performed_of_ends {A : Op → Prop} {p : Prog Unit} {handler : PyError → Prog Unit}
    {w : World} (hp : p.Performs (handle env) A) (h : Ends env p w = true) :
    ∃ op ∈ (Program.tryExcept p handler).trace (handle env) w, A op := by
  obtain ⟨a, w', hrun⟩ := exists_of_ends h
  obtain ⟨op, hop, hA⟩ := hp w a w' hrun
  exact ⟨op, Program.mem_trace_tryExcept _ hop _, hA⟩

theorem received_suricata (outcome : NodeOutcome) :
    outcome.received RuleTypes.suricata = outcome.suricata := rfl

theorem received_of_mem_zeekTypes (outcome : NodeOutcome) {ruleType : String}
    (h : ruleType ∈ zeekTypes) : outcome.received ruleType = outcome.zeek := by
  simp only [zeekTypes, List.mem_cons, List.not_mem_nil, or_false] at h
  rcases h with rfl | rfl | rfl <;> rfl

/-- A node whose turn ends has been processed. -/
theorem processed_of_run {node : Node} {facts : String × String} {v v' w' : World}
    (hfacts : sensorFacts node = .ok facts) (hv : Fixed sets rules v)
    (hrun : (syncNode node).run (handle env) v = (.ok (), v'))
    (hlater : ∀ id stateObj, Kept id stateObj v' → Kept id stateObj w') :
    Processed env node facts.1 facts.2 v w' := by
  obtain ⟨ipAddress, hostname⟩ := facts
  have hnode : syncNode node = (syncSuricata ipAddress hostname).bind fun _ =>
      (syncZeek ipAddress hostname).bind fun _ => updateRuleSetStates := by
    rw [syncNode, hfacts]
    rfl
  rw [hnode] at hrun
  obtain ⟨⟨⟩, v₁, hsuricata, hrest⟩ := Program.exists_of_run_bind _ hrun
  obtain ⟨⟨⟩, v₂, hzeek, hupdate⟩ := Program.exists_of_run_bind _ hrest
  have hv₁ : Fixed sets rules v₁ := ((part_decides (keeper_suricata ipAddress hostname)
    (endsIn_syncSuricataRulesets ipAddress hostname)).ok hv hsuricata).2
  have houtcome : (outcomeOf env ipAddress hostname v).zeek =
      Ends env (syncZeekItems ipAddress hostname) v₁ := by
    rw [outcomeOf, hsuricata]
  constructor
  · intro hended
    rw [hnode]
    obtain ⟨op, hop, hputs⟩ :=
      performed_of_ends (performs_syncSuricataRulesets ipAddress hostname) hended
    exact ⟨op, Program.mem_trace_bind _ hop _, hputs⟩
  · intro hended A hA
    rw [houtcome] at hended
    have hperforms : (syncZeekItems ipAddress hostname).Performs (handle env) A := by
      simp only [List.mem_cons, List.not_mem_nil, or_false] at hA
      rcases hA with rfl | rfl | rfl
      · exact performs_syncZeekItems_scripts ipAddress hostname
      · exact performs_syncZeekItems_intel ipAddress hostname
      · exact performs_syncZeekItems_sigs ipAddress hostname
    obtain ⟨op, hop, hputs⟩ := performed_of_ends hperforms hended
    refine ⟨op, ?_, hputs⟩
    rw [hnode, Program.trace_bind_ok _ hsuricata]
    exact List.mem_append_right _ (Program.mem_trace_bind _ hop _)
  · have hfirst := ((part_keeps (keeper_suricata ipAddress hostname)
      (endsIn_syncSuricataRulesets ipAddress hostname) hv hsuricata).after
        (((uses_syncZeekItems coversSync_growsStates ipAddress hostname).tryExcept fun _ =>
          uses_setZeekStates coversSync_growsStates hostname ipAddress .error)) hzeek).after
      (uses_updateRuleSetStates coversSync_growsStates) hupdate
    have hsecond := (part_keeps (keeper_zeek ipAddress hostname)
      (endsIn_syncZeekItems ipAddress hostname) hv₁ hzeek).after
      (uses_updateRuleSetStates coversSync_growsStates) hupdate
    intro ruleType htype row hrow hbuilt
    have hmem : (row.1, row.2.skeleton) ∈ sets := by
      rw [← hv.sets]
      exact skeleton_mem rfl hrow
    rw [hv.rules]
    refine hlater _ _ ?_
    rcases List.mem_cons.mp htype with rfl | htype
    · rw [received_suricata]
      exact hfirst _ (List.mem_singleton.mpr rfl) (row.1, row.2.skeleton) hmem hbuilt
    · rw [received_of_mem_zeekTypes _ htype, houtcome]
      exact hsecond ruleType htype (row.1, row.2.skeleton) hmem hbuilt

/-- The loop comes to its end if and only if it gets past every node. -/
theorem syncNodes_decides (nodes : List Node) :
    Triple (handle env) (Fixed sets rules) (Program.forEach nodes syncNode)
      (fun _ w => (∀ node ∈ nodes, CanProcess sets rules node) ∧ Fixed sets rules w)
      fun _ w => (¬ ∀ node ∈ nodes, CanProcess sets rules node) ∧ Fixed sets rules w :=
  Triple.forEach_decides fun node _ => syncNode_decides node

/-- In a loop that comes to its end, every node has been processed. -/
theorem processed_of_syncNodes {before after : List Node} {node : Node} {facts : String × String}
    {w w' : World} (hfacts : sensorFacts node = .ok facts) (hw : Fixed sets rules w)
    (hrun : (Program.forEach (before ++ node :: after) syncNode).run (handle env) w =
      (.ok (), w')) :
    ∃ v, (Program.forEach before syncNode).run (handle env) w = (.ok (), v) ∧
      Processed env node facts.1 facts.2 v w' := by
  rw [Program.forEach_append, Program.forEach_cons] at hrun
  obtain ⟨⟨⟩, v, hbefore, hrest⟩ := Program.exists_of_run_bind _ hrun
  obtain ⟨⟨⟩, v', hnode, hafter⟩ := Program.exists_of_run_bind _ hrest
  have hv := ((syncNodes_decides before).ok hw hbefore).2
  have hgrows : (Program.forEach after syncNode).Uses Op.growsStates :=
    Program.uses_forEach fun node _ => uses_syncNode coversSync_growsStates node
  exact ⟨v, hbefore, processed_of_run hfacts hv hnode fun id stateObj hkept =>
    (kept_of_growsStates hgrows id stateObj).ok hkept hafter⟩

end Fixed

theorem run_syncAllRulesets (env : Environment) (nodes : List Node) (w : World) :
    (syncAllRulesets nodes).run (handle env) w =
      (syncWith nodes (env .loadKitSettings w.calls)).run (handle env)
        { w with calls := w.calls + 1 } := rfl

theorem fixed_self (w : World) (calls : Nat) :
    Fixed (skeletons (w.db .ruleset).rows) (w.db .rule) { w with calls := calls } := ⟨rfl, rfl⟩

theorem canProcess_skeletons (w : World) (node : Node) :
    CanProcess (skeletons (w.db .ruleset).rows) (w.db .rule) node ↔
      ∃ facts, sensorFacts node = .ok facts ∧
        ∀ ruleType ∈ ruleTypes, ∀ row ∈ (w.db .ruleset).rows,
          CanKeep (w.db .rule) ruleType facts.1 row := by
  have hrows (ruleType ipAddress : String) :
      (∀ row ∈ skeletons (w.db .ruleset).rows, CanKeep (w.db .rule) ruleType ipAddress row) ↔
        ∀ row ∈ (w.db .ruleset).rows, CanKeep (w.db .rule) ruleType ipAddress row :=
    (forall_canKeep rfl ruleType ipAddress).symm
  simp only [CanProcess, Keepable, hrows]

/-- A synchronisation isolates its nodes if and only if the kit settings can be loaded and, at
    every node, the facts are there and its states can be kept: the rules of all rule sets say
    whether they are enabled, the keys of the rule sets that are looked up are there, and each
    rule set that is built for the node has sensor states. -/
theorem isolated_iff (env : Environment) (nodes : List Node) (w : World) :
    Isolated env nodes w ↔
      (∃ settings, env .loadKitSettings w.calls = .ok (some settings)) ∧
        ∀ node ∈ nodes, ∃ facts, sensorFacts node = .ok facts ∧
          ∀ ruleType ∈ ruleTypes, ∀ row ∈ (w.db .ruleset).rows,
            CanKeep (w.db .rule) ruleType facts.1 row := by
  have hfixed := fixed_self w (w.calls + 1)
  simp only [← canProcess_skeletons]
  constructor
  · rintro ⟨w', hrun, -⟩
    rw [run_syncAllRulesets] at hrun
    cases hsettings : env .loadKitSettings w.calls with
    | error e =>
        rw [hsettings] at hrun
        cases hrun
    | ok settings =>
        rw [hsettings] at hrun
        cases settings with
        | none => cases hrun
        | some settings => exact ⟨⟨settings, rfl⟩, ((syncNodes_decides nodes).ok hfixed hrun).1⟩
  · rintro ⟨⟨settings, hsettings⟩, hall⟩
    rcases hloop : (Program.forEach nodes syncNode).run (handle env) { w with calls := w.calls + 1 }
      with ⟨e | ⟨⟩, w'⟩
    · exact absurd hall ((syncNodes_decides nodes).error hfixed hloop).1
    · refine ⟨w', ?_, ?_⟩
      · rw [run_syncAllRulesets, hsettings]
        exact hloop
      · rintro before node after rfl facts hfacts
        exact processed_of_syncNodes hfacts hfixed hloop

/-- A sensor whose facts lack `default_ipv4_settings`, and one with its facts. -/
def withoutSettings : Node :=
  { server1 with nodeType := NodeTypes.sensor, deviceFacts := [("hostname", .str "sensor0.lan")] }

def withFacts : Node :=
  { server1 with nodeType := NodeTypes.sensor, deviceFacts := sensor1Facts }

/-- The first sensor ends the synchronisation, before the second is reached. -/
theorem not_isolated : ¬ ∀ (env : Environment) (nodes : List Node) (w : World),
    (∀ node ∈ nodes, canSync node = true) →
      (∃ settings, env .loadKitSettings w.calls = .ok (some settings)) → Isolated env nodes w := by
  intro h
  have hsync : ∀ node ∈ [withoutSettings, withFacts], canSync node = true := by decide
  obtain ⟨w', hrun, -⟩ := h syncEnv _ sensor1Rule hsync ⟨_, rfl⟩
  have hraises : ((syncAllRulesets [withoutSettings, withFacts]).run (handle syncEnv)
      sensor1Rule).1 = .error (.keyError "default_ipv4_settings") := rfl
  rw [hrun] at hraises
  cases hraises

end Tfplenum
