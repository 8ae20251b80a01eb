/-
  Tfplenum.Controller.RulesetController

  Zeek scripts must not execute commands: a rule is checked for `Exec::` against
  the type its rule set has when the rule is written.  The type of a rule set can
  change afterwards, and then nothing is checked; as long as no request makes a
  rule set one of Zeek scripts over rules that execute commands, no Zeek script
  ever does.
-/

import Tfplenum.Controller.HostNameUniqueness
import Tfplenum.Service.RuleService

namespace Tfplenum

open Lib

/-! ## Rules and the types of their rule sets -/

/-- The types of the rule sets that are stored. -/
def appTypes (w : World) (id : String) : Option String :=
  ((w.db .ruleset).get? id).map RuleSetDoc.appType

/-- Under these types the rule may be stored: if its rule set is one of Zeek scripts, the
    rule executes no commands. -/
def RuleDoc.Permitted (types : String → Option String) (rule : RuleDoc) : Prop :=
  types rule.ruleSetId = some RuleTypes.zeekScripts →
    ∀ content ∈ rule.rule, hasSubstring content "Exec::" = false

/-- No rule of a rule set of Zeek scripts executes commands. -/
def NoExec (w : World) : Prop :=
  ∀ id rule, (w.db .rule).get? id = some rule → rule.Permitted (appTypes w)

/-- The types are these, and every rule is permitted under them. -/
structure Guarded (types : String → Option String) (w : World) : Prop where
  appTypes : Tfplenum.appTypes w = types
  permitted : ∀ id rule, (w.db .rule).get? id = some rule → rule.Permitted types

theorem NoExec.guarded {w : World} (h : NoExec w) : Guarded (appTypes w) w := ⟨rfl, h⟩

theorem Guarded.noExec {types : String → Option String} {w : World} (h : Guarded types w) :
    NoExec w := by
  rw [NoExec, h.appTypes]
  exact h.permitted

/-! ## Programs that keep the types -/

section Programs

variable {env : Environment} {types : String → Option String}

/-- What keeps the types, and rules that are permitted under them. -/
def Keeps (env : Environment) (types : String → Option String) {α : Type} (p : Prog α) : Prop :=
  Triple (handle env) (Guarded types) p (fun _ => Guarded types) fun _ => Guarded types

theorem keeps_of_readsOnly {α : Type} {p : Prog α} (hp : p.Uses Op.readsOnly) :
    Keeps env types p := by
  refine Triple.of_uses hp ?_
  intro op w hop hw
  have hdb : (handle env op w).2.db = w.db := db_of_readsOnly hop w
  refine ⟨?_, ?_⟩
  · rw [← hw.appTypes]
    unfold appTypes
    rw [hdb]
  · rw [hdb]
    exact hw.permitted

theorem Keeps.bind {α β : Type} {p : Prog α} {f : α → Prog β} (hp : Keeps env types p)
    (hf : ∀ a, Keeps env types (f a)) : Keeps env types (p.bind f) :=
  Triple.bind hp hf

theorem keeps_done {α : Type} (a : α) : Keeps env types (.done a : Prog α) :=
  Triple.done fun _ hw => hw

theorem keeps_raise {α : Type} (e : PyError) : Keeps env types (.raise e : Prog α) :=
  Triple.raise fun _ hw => hw

theorem Keeps.tryExcept {α : Type} {p : Prog α} {handler : PyError → Prog α}
    (hp : Keeps env types p) (hh : ∀ e, Keeps env types (handler e)) :
    Keeps env types (p.tryExcept handler) :=
  Triple.tryExcept hp hh

theorem keeps_discard {α : Type} {p : Prog α} (hp : Keeps env types p) :
    Keeps env types (discard p) :=
  hp.bind fun _ => keeps_done _

/-- A rule set is read with the type it has. -/
theorem triple_findRuleset (id : String) :
    Triple (handle env) (Guarded types) (Prog.findById .ruleset id)
      (fun ruleSet w => (∀ doc ∈ ruleSet, types id = some doc.appType) ∧ Guarded types w)
      fun _ => Guarded types := by
  refine Triple.perform ?_
  intro w hw
  refine ⟨?_, hw⟩
  intro doc hdoc
  have hget : (w.db .ruleset).get? id = some doc := hdoc
  rw [← hw.appTypes, appTypes, hget]
  rfl

/-- A permitted rule may be inserted. -/
theorem keeps_insertRule (id : String) {rule : RuleDoc} (hrule : rule.Permitted types) :
    Keeps env types (Prog.insertOne .rule id rule) := by
  refine Triple.perform ?_
  intro w hw
  have hne : Collection.rule ≠ .ruleset := by decide
  refine ⟨?_, ?_⟩
  · rw [← hw.appTypes]
    unfold appTypes
    rw [db_of_ne env w (.insertOne .rule id rule) hne]
  · intro id' rule' hget
    cases hfree : (w.db .rule).get? id with
    | some other =>
        have hsome : ((w.db .rule).get? id).isSome := by rw [hfree]; rfl
        rw [handle_db, DocOp.apply_insertOne_of_some hsome] at hget
        exact hw.permitted id' rule' hget
    | none =>
        rw [handle_db, DocOp.apply_insertOne_of_none hfree] at hget
        dsimp only at hget
        rw [Function.update_self, Table.get?_upsert] at hget
        split at hget
        · cases hget
          exact hrule
        · exact hw.permitted id' rule' hget

/-- A rule may be changed into one that is permitted. -/
theorem triple_updateRule (id : String) {f : RuleDoc → RuleDoc} {P : World → Prop}
    (hf : ∀ w, P w → ∀ rule, (w.db .rule).get? id = some rule → rule.Permitted types →
      (f rule).Permitted types) :
    Triple (handle env) (fun w => P w ∧ Guarded types w) (Prog.updateOne .rule id f)
      (fun _ => Guarded types) fun _ => Guarded types := by
  refine Triple.perform ?_
  rintro w ⟨hP, hw⟩
  have hne : Collection.rule ≠ .ruleset := by decide
  refine ⟨?_, ?_⟩
  · rw [← hw.appTypes]
    unfold appTypes
    rw [db_of_ne env w (.updateOne .rule id f) hne]
  · intro id' rule' hget
    rw [db_updateOne, Table.get?_modify] at hget
    split at hget
    · rename_i hid
      subst hid
      obtain ⟨rule, hrule, rfl⟩ := Option.map_eq_some_iff.mp hget
      exact hf w hP rule hrule (hw.permitted _ rule hrule)
    · exact hw.permitted id' rule' hget

/-- Marking a rule set leaves its type. -/
theorem keeps_dirty (id : String) :
    Keeps env types (Prog.updateOne .ruleset id RuleSetDoc.dirty) := by
  refine Triple.perform ?_
  intro w hw
  have hne : Collection.ruleset ≠ .rule := by decide
  refine ⟨?_, ?_⟩
  · rw [← hw.appTypes]
    funext id'
    unfold appTypes
    rw [db_updateOne, Table.get?_modify]
    split
    · rename_i hid
      subst hid
      rw [Option.map_map]
      rfl
    · rfl
  · intro id' rule' hget
    rw [db_of_ne env w (.updateOne .ruleset id RuleSetDoc.dirty) hne] at hget
    exact hw.permitted id' rule' hget

/-- What is checked against the type of its rule set is permitted, and so is what is stored
    in its place for another type. -/
theorem permitted_of_check {id appType content stored : String} (htype : types id = some appType)
    (hcheck : checkZeekExecModule appType content ≠ true)
    (hstored : appType = RuleTypes.zeekScripts → stored = content) {rule : RuleDoc}
    (hid : rule.ruleSetId = id) (hrule : rule.rule = some stored) : rule.Permitted types := by
  intro hscripts content' hcontent
  rw [hid, htype] at hscripts
  have happType : appType = RuleTypes.zeekScripts := Option.some.inj hscripts
  have hsame : content' = content := by
    rw [hrule] at hcontent
    exact (Option.some.inj hcontent).symm.trans (hstored happType)
  rw [checkZeekExecModule, happType] at hcheck
  rw [hsame]
  simpa using hcheck

theorem keeps_createRuleService {rule : RuleDoc} {rulesetId : String}
    (hrule : RuleDoc.Permitted types { rule with ruleSetId := rulesetId }) :
    Keeps env types (createRuleService rule rulesetId) := by
  refine (keeps_of_readsOnly (Prog.readsOnly_ask _)).bind fun id => ?_
  refine (keeps_insertRule id hrule).bind fun inserted => ?_
  refine Keeps.bind ?_ fun _ => keeps_of_readsOnly (Prog.readsOnly_findById _)
  unfold Program.when
  split
  · exact keeps_raise _
  · exact keeps_done _

theorem keeps_createRuleSrvWrapper {ruleSet : RuleSetOf}
    (htype : types ruleSet.id = some ruleSet.appType) (ruleName ruleContent : String)
    (ignoreErrors byPassValidation : Bool) (header : String) :
    Keeps env types (createRuleSrvWrapper ruleSet ruleName ruleContent ignoreErrors
      byPassValidation header) := by
  unfold createRuleSrvWrapper
  by_cases hcheck : checkZeekExecModule ruleSet.appType ruleContent = true
  · rw [if_pos hcheck]
    exact keeps_raise _
  rw [if_neg hcheck]
  dsimp only
  split
  · exact keeps_createRuleService (permitted_of_check htype hcheck (fun _ => rfl) rfl rfl)
  · refine (keeps_of_readsOnly (readsOnly_validateRule _)).bind fun outcome => ?_
    split
    · refine keeps_createRuleService (permitted_of_check htype hcheck ?_ rfl rfl)
      -- the header is for intel files only
      intro happType
      have hne : ruleSet.appType ≠ RuleTypes.zeekIntel := by
        rw [happType]
        decide
      rw [if_neg hne]
    split
    · exact keeps_done _
    · exact keeps_raise _

theorem keeps_mapEach {α β : Type} {as : List α} {body : α → Prog β}
    (hbody : ∀ a, Keeps env types (body a)) : Keeps env types (Program.mapEach as body) := by
  induction as with
  | nil => exact keeps_done _
  | cons a as ih =>
      refine (hbody a).bind fun b => ?_
      exact ih.bind fun bs => keeps_done _

theorem keeps_ofExcept {α : Type} (r : Except PyError α) :
    Keeps env types (Program.ofExcept r : Prog α) := by
  cases r with
  | ok a => exact keeps_done a
  | error e => exact keeps_raise e

theorem keeps_createRuleFromFile {ruleSet : RuleSetOf}
    (htype : types ruleSet.id = some ruleSet.appType) (file : RuleFile)
    (ignoreErrors byPassValidation : Bool) :
    Keeps env types (createRuleFromFile file ruleSet ignoreErrors byPassValidation) := by
  refine (keeps_ofExcept _).bind fun text => ?_
  split
  · exact keeps_mapEach fun chunk => keeps_createRuleSrvWrapper htype _ _ _ _ _
  · exact (keeps_createRuleSrvWrapper htype _ _ _ _ _).bind fun rule => keeps_done _

theorem keeps_processZipfile {ruleSet : RuleSetOf}
    (htype : types ruleSet.id = some ruleSet.appType) (members : Except PyError (List RuleFile))
    (byPassValidation : Bool) :
    Keeps env types (processZipfile members ruleSet byPassValidation) := by
  refine (keeps_ofExcept _).bind fun files => ?_
  refine (keeps_mapEach fun file => ?_).bind fun rules => keeps_done _
  exact keeps_createRuleFromFile htype file false byPassValidation

theorem keeps_required {α : Type} (key : String) (value : Option α) :
    Keeps env types (required key value) := by
  cases value with
  | none => exact keeps_raise _
  | some value => exact keeps_done value

/-- A request that reads a rule set goes on with the type it has. -/
theorem keeps_findRuleset {β : Type} (id : String) {f : Option RuleSetDoc → Prog β}
    (hf : ∀ ruleSet, (∀ doc ∈ ruleSet, types id = some doc.appType) → Keeps env types (f ruleSet)) :
    Keeps env types ((Prog.findById .ruleset id).bind f) := by
  refine (triple_findRuleset id).bind fun ruleSet => ?_
  exact Triple.assume fun htype => hf ruleSet htype

theorem keeps_upload (ruleSetId : String) (byPassValidation : Option Bool) (upload : Upload) :
    Keeps env types (UploadRule.post ruleSetId byPassValidation upload) := by
  unfold UploadRule.post
  refine keeps_findRuleset ruleSetId fun ruleSet htype => ?_
  cases ruleSet with
  | none => exact keeps_done _
  | some doc =>
      have htype : types ruleSetId = some doc.appType := htype doc rfl
      refine Keeps.tryExcept (Keeps.bind ?_ fun rules => ?_) fun e => ?_
      · unfold createRulesFromUpload
        split
        · exact keeps_processZipfile htype _ _
        · exact keeps_createRuleFromFile htype _ _ _
      · split <;> exact keeps_done _
      · cases e <;> first | exact keeps_done _ | exact keeps_raise _

theorem keeps_createRule (payload : RulePayload) : Keeps env types (RulesCtrl.post payload) := by
  unfold RulesCtrl.post
  refine (keeps_discard (keeps_of_readsOnly (Prog.readsOnly_ask _))).bind fun _ => ?_
  refine (keeps_required _ _).bind fun rulesetId => ?_
  refine (keeps_required _ _).bind fun byPassValidation => ?_
  refine keeps_findRuleset rulesetId fun ruleSet htype => ?_
  cases ruleSet with
  | none => exact keeps_done _
  | some doc =>
      have htype : types rulesetId = some doc.appType := htype doc rfl
      cases hrule : payload.rule with
      | none => exact keeps_raise _
      | some content =>
          show Keeps env types (ite _ _ _)
          split
          · exact keeps_done _
          · rename_i hcheck
            refine (keeps_of_readsOnly (readsOnly_validateUnless _ _)).bind fun outcome => ?_
            dsimp only
            split
            · refine (keeps_createRuleService ?_).bind fun rule => ?_
              · exact permitted_of_check htype hcheck (fun _ => rfl) rfl rfl
              exact (keeps_discard (keeps_dirty _)).bind fun _ => keeps_done _
            split
            · exact keeps_done _
            · exact keeps_done _

theorem keeps_updateRule (payload : RulePayload) : Keeps env types (RulesCtrl.put payload) := by
  unfold RulesCtrl.put
  refine (keeps_required _ _).bind fun rulesetId => ?_
  refine (keeps_required _ _).bind fun idToModify => ?_
  refine (keeps_required _ _).bind fun byPassValidation => ?_
  refine keeps_findRuleset rulesetId fun ruleSet htype => ?_
  cases ruleSet with
  | none => exact keeps_done _
  | some doc =>
      have htype : types rulesetId = some doc.appType := htype doc rfl
      refine (keeps_required _ _).bind fun content => ?_
      split
      · exact keeps_done _
      · rename_i hcheck
        refine (keeps_of_readsOnly (readsOnly_validateUnless _ _)).bind fun outcome => ?_
        have hupdate : Keeps env types
            (Prog.updateOne .rule idToModify (payload.apply rulesetId content)) := by
          refine (triple_updateRule (P := fun _ => True) idToModify ?_).pre fun w hw =>
            ⟨trivial, hw⟩
          intro w _ rule _ _
          exact permitted_of_check htype hcheck (fun _ => rfl) rfl rfl
        split
        · exact keeps_raise _
        · refine hupdate.bind fun updated => ?_
          cases updated with
          | none => exact keeps_done _
          | some _ => exact (keeps_dirty _).bind fun _ => keeps_done _
        · exact keeps_done _

/-- A toggled rule keeps its rule set and its content. -/
theorem keeps_toggleRule (ruleId : String) : Keeps env types (ToggleRule.put ruleId) := by
  have hfind : Triple (handle env) (Guarded types) (Prog.findById .rule ruleId)
      (fun read w => (w.db .rule).get? ruleId = read ∧ Guarded types w) fun _ => Guarded types :=
    Triple.perform fun w hw => ⟨rfl, hw⟩
  unfold ToggleRule.put
  refine hfind.bind fun read => ?_
  cases read with
  | none => exact Triple.raise fun w hw => hw.2
  | some rule =>
      have hrequired : Triple (handle env)
          (fun w => (w.db .rule).get? ruleId = some rule ∧ Guarded types w)
          (required "isEnabled" rule.isEnabled)
          (fun _ w => (w.db .rule).get? ruleId = some rule ∧ Guarded types w)
          fun _ => Guarded types := by
        cases rule.isEnabled with
        | none => exact Triple.raise fun w hw => hw.2
        | some isEnabled => exact Triple.done fun w hw => hw
      refine hrequired.bind fun isEnabled => ?_
      have hupdate : Triple (handle env)
          (fun w => (w.db .rule).get? ruleId = some rule ∧ Guarded types w)
          (Prog.updateOne .rule ruleId (rule.toggled isEnabled)) (fun _ => Guarded types)
          fun _ => Guarded types := by
        refine triple_updateRule ruleId ?_
        intro w hread stored hstored hpermitted
        -- nothing has been written since the rule was read
        have hsame : stored = rule := by
          rw [hread] at hstored
          exact (Option.some.inj hstored).symm
        rw [hsame] at hpermitted ⊢
        exact hpermitted
      refine hupdate.bind fun updated => ?_
      cases updated with
      | none => exact keeps_done _
      | some _ => exact (keeps_dirty _).bind fun _ => keeps_done _

end Programs

/-! ## Sequences of requests -/

inductive RulesetRequest where
  /-- `RulesCtrl.post` -/
  | createRule (payload : RulePayload)
  /-- `RulesCtrl.put` -/
  | updateRule (payload : RulePayload)
  /-- `ToggleRule.put` -/
  | toggleRule (ruleId : String)
  /-- `UploadRule.post` -/
  | upload (ruleSetId : String) (byPassValidation : Option Bool) (uploaded : Upload)
  /-- `Rulesets.post` -/
  | createRuleset (ruleset : RuleSetDoc)
  /-- `Rulesets.put` -/
  | updateRuleset (id : String) (update : RuleSetUpdate)

def RulesetRequest.program : RulesetRequest → Prog Unit
  | .createRule payload => discard (RulesCtrl.post payload)
  | .updateRule payload => discard (RulesCtrl.put payload)
  | .toggleRule ruleId => discard (ToggleRule.put ruleId)
  | .upload ruleSetId byPassValidation uploaded =>
      discard (UploadRule.post ruleSetId byPassValidation uploaded)
  | .createRuleset ruleset => createRulesetService ruleset
  | .updateRuleset id update => discard (Rulesets.put id update)

/-- The state a request leaves, however it ends. -/
def serve (env : Environment) (w : World) (request : RulesetRequest) : World :=
  (request.program.run (handle env) w).2

/-- Some rule of the rule set executes commands. -/
def Executes (w : World) (rulesetId : String) : Prop :=
  ∃ id rule, (w.db .rule).get? id = some rule ∧ rule.ruleSetId = rulesetId ∧
    ∃ content ∈ rule.rule, hasSubstring content "Exec::" = true

/-- The request does not make a rule set one of Zeek scripts over rules that execute
    commands: neither by an update, nor by a new rule set whose identifier such rules have. -/
def SparesExec (env : Environment) (w : World) : RulesetRequest → Prop
  | .createRuleset ruleset =>
      ruleset.appType = RuleTypes.zeekScripts → ¬ Executes w (env .uuid4 w.calls)
  | .updateRuleset id update => update.appType = some RuleTypes.zeekScripts → ¬ Executes w id
  | _ => True

/-- All requests do so, each in the state it is served in. -/
def AllSpareExec (env : Environment) : World → List RulesetRequest → Prop
  | _, [] => True
  | w, request :: requests =>
      SparesExec env w request ∧ AllSpareExec env (serve env w request) requests

theorem noExec_of_keeps {env : Environment} {w : World} {p : Prog Unit} (hw : NoExec w)
    (hp : Keeps env (appTypes w) p) : NoExec (p.run (handle env) w).2 := by
  have hpost := hp.apply w hw.guarded
  rcases hrun : p.run (handle env) w with ⟨_ | _, w'⟩ <;> rw [hrun] at hpost <;>
    exact hpost.noExec

/-- An update of a rule set only matters to its own rules. -/
theorem noExec_updateRuleset {env : Environment} {w : World} (hw : NoExec w) (id : String)
    (update : RuleSetUpdate) (hspares : SparesExec env w (.updateRuleset id update)) :
    NoExec (handle env (.db (.updateOne .ruleset id update.apply)) w).2 := by
  have hne : Collection.ruleset ≠ .rule := by decide
  intro ruleId rule hget hscripts content hcontent
  rw [db_of_ne env w (.updateOne .ruleset id update.apply) hne] at hget
  have hold := hw ruleId rule hget
  unfold appTypes at hscripts
  rw [db_updateOne, Table.get?_modify] at hscripts
  split at hscripts
  · rename_i hid
    cases htype : update.appType with
    | none =>
        -- the update leaves the type out
        refine hold ?_ content hcontent
        rw [appTypes, ← hscripts, Option.map_map, hid]
        congr 1
        funext doc
        simp [RuleSetUpdate.apply, htype]
    | some appType =>
        obtain ⟨doc, hdoc, happly⟩ := Option.map_eq_some_iff.mp hscripts
        obtain ⟨old, hstored, rfl⟩ := Option.map_eq_some_iff.mp hdoc
        have happType : appType = RuleTypes.zeekScripts := by
          simpa [RuleSetUpdate.apply, htype] using happly
        have hnone : ¬ Executes w id := hspares (by rw [htype, happType])
        rw [← Bool.not_eq_true]
        intro hexec
        exact hnone ⟨ruleId, rule, hget, hid, content, hcontent, hexec⟩
  · exact hold hscripts content hcontent

/-- What the creation of a rule set leaves, whether or not its identifier is taken. -/
theorem serve_createRuleset (env : Environment) (w : World) (ruleset : RuleSetDoc) :
    serve env w (.createRuleset ruleset) =
      (handle env
        (.db (.insertOne .ruleset (env .uuid4 w.calls) { ruleset with state := .created }))
        { w with calls := w.calls + 1 }).2 := by
  show ((createRulesetService ruleset).run (handle env) w).2 = _
  unfold createRulesetService
  rw [Program.bind_eq, Prog.ask, Program.perform_bind, Program.run_call, Program.bind_eq,
    Prog.insertOne, Program.perform_bind, Program.run_call]
  unfold Program.when
  split <;> rfl

/-- A new rule set only matters to rules that have its identifier already. -/
theorem noExec_createRuleset {env : Environment} {w : World} (hw : NoExec w)
    (ruleset : RuleSetDoc) (hspares : SparesExec env w (.createRuleset ruleset)) :
    NoExec (serve env w (.createRuleset ruleset)) := by
  rw [serve_createRuleset]
  have hne : Collection.ruleset ≠ .rule := by decide
  intro ruleId rule hget hscripts content hcontent
  rw [db_of_ne env _ (.insertOne .ruleset _ _) hne] at hget
  have hold := hw ruleId rule hget
  unfold appTypes at hscripts
  cases hfree : (w.db .ruleset).get? (env .uuid4 w.calls) with
  | some other =>
      have hsome : ((w.db .ruleset).get? (env .uuid4 w.calls)).isSome := by rw [hfree]; rfl
      rw [handle_db, DocOp.apply_insertOne_of_some hsome] at hscripts
      exact hold hscripts content hcontent
  | none =>
      rw [handle_db, DocOp.apply_insertOne_of_none hfree] at hscripts
      dsimp only at hscripts
      rw [Function.update_self, Table.get?_upsert] at hscripts
      split at hscripts
      · rename_i hid
        have happType : ruleset.appType = RuleTypes.zeekScripts := Option.some.inj hscripts
        have hnone : ¬ Executes w (env .uuid4 w.calls) := hspares happType
        rw [← Bool.not_eq_true]
        intro hexec
        exact hnone ⟨ruleId, rule, hget, hid, content, hcontent, hexec⟩
      · exact hold hscripts content hcontent

theorem noExec_serve {env : Environment} {w : World} (hw : NoExec w) (request : RulesetRequest)
    (hspares : SparesExec env w request) : NoExec (serve env w request) := by
  cases request with
  | createRule payload => exact noExec_of_keeps hw (keeps_discard (keeps_createRule payload))
  | updateRule payload => exact noExec_of_keeps hw (keeps_discard (keeps_updateRule payload))
  | toggleRule ruleId => exact noExec_of_keeps hw (keeps_discard (keeps_toggleRule ruleId))
  | upload ruleSetId byPassValidation uploaded =>
      exact noExec_of_keeps hw (keeps_discard (keeps_upload ruleSetId byPassValidation uploaded))
  | createRuleset ruleset => exact noExec_createRuleset hw ruleset hspares
  | updateRuleset id update => exact noExec_updateRuleset hw id update hspares

/-- In every sequence of requests that spare such rules, no Zeek script executes commands. -/
theorem noExec_of_sparesExec (env : Environment) (requests : List RulesetRequest) :
    ∀ w, NoExec w → AllSpareExec env w requests → NoExec (requests.foldl (serve env) w) := by
  induction requests with
  | nil =>
      intro w hw _
      exact hw
  | cons request requests ih =>
      intro w hw hall
      exact ih _ (noExec_serve hw request hall.1) hall.2

def ruleset (appType : String) : RuleSetDoc where
  appType := appType
  name := "local"
  sensors := none
  isEnabled := true
  state := .created
  sensorStates := none

/-- A rule for the rule set that the first request creates, not validated. -/
def rulePayload (content : String) : RulePayload where
  id := none
  ruleSetId := some "0"
  ruleName := some "local"
  rule := some content
  isEnabled := some true
  byPassValidation := some true

def emptyWorld : World := ⟨fun _ => Table.empty, 0⟩

theorem noExec_emptyWorld : NoExec emptyWorld := by
  intro id rule hget
  have hnone : (emptyWorld.db .rule).get? id = none := rfl
  rw [hnone] at hget
  cases hget

theorem noExec_of_zeekScript :
    NoExec ([.createRuleset (ruleset RuleTypes.zeekScripts),
      .createRule (rulePayload "event f();")].foldl
      (serve countingEnv) emptyWorld) := by
  refine noExec_of_sparesExec countingEnv _ emptyWorld noExec_emptyWorld ⟨?_, trivial, trivial⟩
  rintro - ⟨id, rule, hget, -⟩
  have hnone : (emptyWorld.db .rule).get? id = none := rfl
  rw [hnone] at hget
  cases hget

/-- A rule that executes commands, in a rule set that becomes one of Zeek scripts. -/
def retyped : List RulesetRequest :=
  [.createRuleset (ruleset RuleTypes.suricata),
    .createRule (rulePayload "Exec::run([$cmd=\"id\"]);"),
    .updateRuleset "0" ⟨some RuleTypes.zeekScripts, none, none, none, none⟩]

/-- No Zeek script ever executes commands. -/
def NeverExec : Prop :=
  ∀ (env : Environment) (w : World), NoExec w →
    ∀ requests : List RulesetRequest, NoExec (requests.foldl (serve env) w)

theorem not_neverExec : ¬ NeverExec := by
  intro hclaim
  have hnoExec := hclaim countingEnv emptyWorld noExec_emptyWorld retyped
  have hrule : ((retyped.foldl (serve countingEnv) emptyWorld).db .rule).get? "2" =
      some ⟨"0", some "local", some "Exec::run([$cmd=\"id\"]);", some true⟩ := by
    decide +kernel
  have htype : appTypes (retyped.foldl (serve countingEnv) emptyWorld) "0" =
      some RuleTypes.zeekScripts := by
    decide +kernel
  have hexec : hasSubstring "Exec::run([$cmd=\"id\"]);" "Exec::" = true := by decide +kernel
  have hclean := hnoExec "2" _ hrule htype _ rfl
  rw [hexec] at hclean
  cases hclean

end Tfplenum
