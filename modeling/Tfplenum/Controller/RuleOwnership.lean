/-
  Tfplenum.Controller.RuleOwnership

  Every rule belongs to a rule set that is stored.  The database does not check this:
  it rests on what the requests of `controller/ruleset_controller.py` read before they
  write, and on the order in which a rule set is deleted, its rules before itself.

  A request that writes rules has read its rule set, or the rule that it writes back
  (`Checks`); what it writes from there on belongs to that rule set (`WritesFor`).
-/

import Tfplenum.Controller.RulesetController
import Tfplenum.Lib.Midway

namespace Tfplenum

open Lib

namespace RuleOwnership

/-! ## Requests -/

inductive RuleRequest where
  /-- the requests that create or change a rule or a rule set -/
  | write (request : RulesetRequest)
  /-- `DeleteRule.delete` -/
  | deleteRule (ruleId : String)
  /-- `DeleteRuleSet.delete` -/
  | deleteRuleset (id : String)

def RuleRequest.program : RuleRequest → Prog Unit
  | .write request => request.program
  | .deleteRule ruleId => discard (DeleteRule.delete ruleId)
  | .deleteRuleset id => discard (DeleteRuleSet.delete id)

/-! ## Rules and their rule sets -/

def StoredRuleset (id : String) (w : World) : Prop := ((w.db .ruleset).get? id).isSome = true

/-- Some rule belongs to the rule set. -/
def HasRules (id : String) (w : World) : Prop :=
  ∃ ruleId rule, (w.db .rule).get? ruleId = some rule ∧ rule.ruleSetId = id

/-- Every rule belongs to a rule set that is stored. -/
def Owned (w : World) : Prop := ∀ id, HasRules id w → StoredRuleset id w

/-! ## Operations -/

/-- An operation that brings in no rule, moves none and removes no rule set. -/
def Spares : Op → Prop
  | .external _ => True
  | .db (.insertOne .ruleset _ _) => True
  | .db (.updateOne .ruleset _ _) => True
  | .db (.deleteOne .rule _) => True
  | .db (.deleteMany .rule _) => True
  | .db op => op.reads = true

/-- An operation that brings in or moves rules for this rule set only. -/
def WritesFor (id : String) : Op → Prop
  | .db (.insertOne .rule _ rule) => rule.ruleSetId = id
  | .db (.updateOne .rule _ f) => ∀ rule, (f rule).ruleSetId = id
  | op => Spares op

/-- The operation removes the rule set. -/
def removes (id : String) : Op → Bool
  | .db (.deleteOne .ruleset id') => id' = id
  | _ => false

theorem spares_of_readsOnly {op : Op} (h : op.readsOnly) : Spares op := by
  cases op with
  | external call => trivial
  | db op => cases op <;> first | exact h | cases h

theorem writesFor_of_spares {id : String} {op : Op} (h : Spares op) : WritesFor id op := by
  cases op with
  | external call => trivial
  | db op =>
      cases op with
      | insertOne c id' doc => cases c <;> first | exact h | cases h
      | updateOne c id' f => cases c <;> first | exact h | cases h
      | _ => exact h

/-! ## What an operation leaves -/

section Steps

theorem ruleset_ne_rule : Collection.ruleset ≠ .rule := by decide
theorem rule_ne_ruleset : Collection.rule ≠ .ruleset := by decide

variable {env : Environment} {w : World} {id id' : String} {op : Op}

/-- Rules that were there before belong to the rule sets they belonged to. -/
theorem HasRules.of_subset {w' : World} (h : HasRules id w')
    (hrules : ∀ ruleId rule, (w'.db .rule).get? ruleId = some rule →
      (w.db .rule).get? ruleId = some rule) : HasRules id w := by
  obtain ⟨ruleId, rule, hget, hid⟩ := h
  exact ⟨ruleId, rule, hrules ruleId rule hget, hid⟩

theorem HasRules.of_rule_eq {w' : World} (h : HasRules id w') (heq : w'.db .rule = w.db .rule) :
    HasRules id w :=
  h.of_subset fun _ _ hget => heq ▸ hget

/-- A rule set that has rules after an operation had them before, or is the one for which
    the operation writes. -/
theorem hasRules_of_writesFor (hop : WritesFor id' op) (h : HasRules id (handle env op w).2) :
    HasRules id w ∨ id = id' := by
  cases op with
  | external call => exact .inl h
  | db op =>
      cases op with
      | insertOne c ruleId rule =>
          cases c with
          | ruleset => exact .inl (h.of_rule_eq (db_of_ne env w _ ruleset_ne_rule))
          | rule =>
              obtain ⟨ruleId', rule', hget, hid⟩ := h
              rw [handle_db] at hget
              cases hfree : (w.db .rule).get? ruleId with
              | some other =>
                  have hsome : ((w.db .rule).get? ruleId).isSome := by rw [hfree]; rfl
                  rw [DocOp.apply_insertOne_of_some hsome] at hget
                  exact .inl ⟨ruleId', rule', hget, hid⟩
              | none =>
                  rw [DocOp.apply_insertOne_of_none hfree] at hget
                  dsimp only at hget
                  rw [Function.update_self, Table.get?_upsert] at hget
                  split at hget
                  · cases hget
                    exact .inr (hid.symm.trans hop)
                  · exact .inl ⟨ruleId', rule', hget, hid⟩
          | _ => cases hop
      | updateOne c ruleId f =>
          cases c with
          | ruleset => exact .inl (h.of_rule_eq (db_of_ne env w _ ruleset_ne_rule))
          | rule =>
              obtain ⟨ruleId', rule', hget, hid⟩ := h
              rw [db_updateOne, Table.get?_modify] at hget
              split at hget
              · obtain ⟨rule, -, rfl⟩ := Option.map_eq_some_iff.mp hget
                exact .inr (hid.symm.trans (hop rule))
              · exact .inl ⟨ruleId', rule', hget, hid⟩
          | _ => cases hop
      | deleteOne c ruleId =>
          cases c with
          | rule =>
              refine .inl (h.of_subset fun ruleId' rule hget => ?_)
              rw [db_deleteOne, Table.get?_erase] at hget
              split at hget
              · cases hget
              · exact hget
          | _ => cases hop
      | deleteMany c q =>
          cases c with
          | rule =>
              refine .inl (h.of_subset fun ruleId' rule hget => ?_)
              rw [db_deleteMany, Table.get?_remove] at hget
              exact (Option.filter_eq_some_iff.mp hget).1
          | _ => cases hop
      | replaceOne c ruleId rule => cases hop
      | _ => exact .inl h

/-- What spares rules writes for no rule set. -/
theorem hasRules_of_spares (hop : Spares op) (h : HasRules id (handle env op w).2) :
    HasRules id w := by
  have hne : id ≠ id ++ "_" := by
    intro heq
    have hlength := congrArg String.length heq
    simp at hlength
  exact (hasRules_of_writesFor (writesFor_of_spares hop) h).resolve_right hne

/-- None of these operations removes a rule set. -/
theorem storedRuleset_of_writesFor (hop : WritesFor id' op) (h : StoredRuleset id w) :
    StoredRuleset id (handle env op w).2 := by
  cases op with
  | external call => exact h
  | db op =>
      have hother (hne : op.collection ≠ .ruleset) :
          StoredRuleset id (handle env (.db op) w).2 := by
        rw [StoredRuleset, db_of_ne env w op hne]
        exact h
      cases op with
      | insertOne c setId doc =>
          cases c with
          | ruleset =>
              rw [StoredRuleset, handle_db]
              cases hfree : (w.db .ruleset).get? setId with
              | some other =>
                  have hsome : ((w.db .ruleset).get? setId).isSome := by rw [hfree]; rfl
                  rw [DocOp.apply_insertOne_of_some hsome]
                  exact h
              | none =>
                  rw [DocOp.apply_insertOne_of_none hfree]
                  dsimp only
                  rw [Function.update_self, Table.get?_upsert]
                  split
                  · rfl
                  · exact h
          | rule => exact hother rule_ne_ruleset
          | _ => cases hop
      | updateOne c setId f =>
          cases c with
          | ruleset =>
              rw [StoredRuleset, db_updateOne, Table.get?_modify]
              split
              · rename_i heq
                rw [Option.isSome_map]
                exact heq ▸ h
              · exact h
          | rule => exact hother rule_ne_ruleset
          | _ => cases hop
      | deleteOne c ruleId =>
          cases c with
          | rule => exact hother rule_ne_ruleset
          | _ => cases hop
      | deleteMany c q =>
          cases c with
          | rule => exact hother rule_ne_ruleset
          | _ => cases hop
      | replaceOne c ruleId rule => cases hop
      | _ => exact h

/-- What is written for a rule set that is stored leaves every rule its rule set. -/
theorem owned_of_writesFor (hop : WritesFor id op) (hid : StoredRuleset id w) (hw : Owned w) :
    Owned (handle env op w).2 := by
  intro id' hrules
  refine storedRuleset_of_writesFor hop ?_
  rcases hasRules_of_writesFor hop hrules with hbefore | rfl
  · exact hw id' hbefore
  · exact hid

theorem owned_of_spares (hop : Spares op) (hw : Owned w) : Owned (handle env op w).2 := by
  intro id hrules
  have hwrites : WritesFor id op := writesFor_of_spares hop
  exact storedRuleset_of_writesFor hwrites (hw id (hasRules_of_spares hop hrules))

/-- A rule set without rules may be removed. -/
theorem owned_deleteRuleset (hid : ¬ HasRules id w) (hw : Owned w) :
    Owned (handle env (.db (.deleteOne .ruleset id)) w).2 := by
  intro id' hrules
  have hbefore : HasRules id' w := hrules.of_rule_eq (db_of_ne env w _ ruleset_ne_rule)
  rw [StoredRuleset, db_deleteOne, Table.get?_erase, if_neg]
  · exact hw id' hbefore
  · rintro rfl
    exact hid hbefore

/-- After this no rule belongs to the rule set. -/
theorem not_hasRules_deleteMany :
    ¬ HasRules id
      (handle env (.db (.deleteMany .rule fun _ rule => rule.ruleSetId = id)) w).2 := by
  rintro ⟨ruleId, rule, hget, hid⟩
  rw [db_deleteMany, Table.get?_remove] at hget
  obtain ⟨-, hkept⟩ := Option.filter_eq_some_iff.mp hget
  simp [hid] at hkept

end Steps

/-! ## Programs that check -/

/-- The program writes no rules before it has read their rule set, or a rule of it. -/
inductive Checks {α : Type} : Prog α → Prop
  | done (a : α) : Checks (.done a)
  | raise (e : PyError) : Checks (.raise e)
  | spares {op : Op} {k : op.Res → Prog α} (hop : Spares op) (hk : ∀ r, Checks (k r)) :
      Checks (.call op k)
  | findRuleset {id : String} {k : Option RuleSetDoc → Prog α} (hnone : Checks (k none))
      (hsome : ∀ doc, (k (some doc)).Uses (WritesFor id)) :
      Checks (.call (.db (.findById .ruleset id)) k)
  | findRule {ruleId : String} {k : Option RuleDoc → Prog α} (hnone : Checks (k none))
      (hsome : ∀ rule : RuleDoc, (k (some rule)).Uses (WritesFor rule.ruleSetId)) :
      Checks (.call (.db (.findById .rule ruleId)) k)

theorem checks_of_uses {α : Type} {p : Prog α} (hp : p.Uses Spares) : Checks p := by
  induction hp with
  | done a => exact .done a
  | raise e => exact .raise e
  | call hop _ ih => exact .spares hop ih

theorem Checks.bind {α β : Type} {p : Prog α} {f : α → Prog β} (hp : p.Uses Spares)
    (hf : ∀ a, Checks (f a)) : Checks (p.bind f) := by
  induction hp with
  | done a => exact hf a
  | raise e => exact .raise e
  | call hop _ ih => exact .spares hop ih

/-- What comes after writes nothing. -/
theorem Checks.discard {α : Type} {p : Prog α} (hp : Checks p) : Checks (discard p) := by
  change Checks (p.bind fun _ => .done ())
  induction hp with
  | done a => exact .done ()
  | raise e => exact .raise e
  | spares hop _ ih => exact .spares hop ih
  | findRuleset _ hsome ih => exact .findRuleset ih fun doc => (hsome doc).bind fun _ => .done ()
  | findRule _ hsome ih => exact .findRule ih fun rule => (hsome rule).bind fun _ => .done ()

theorem uses_writesFor_of_readsOnly {α : Type} {id : String} {p : Prog α}
    (hp : p.Uses Op.readsOnly) : p.Uses (WritesFor id) :=
  hp.mono fun _ hop => writesFor_of_spares (spares_of_readsOnly hop)

theorem uses_required {α : Type} {A : Op → Prop} (key : String) (value : Option α) :
    (required key value).Uses A := by
  cases value with
  | none => exact .raise _
  | some value => exact .done value

theorem uses_createRuleService (rule : RuleDoc) (rulesetId : String) :
    (createRuleService rule rulesetId).Uses (WritesFor rulesetId) := by
  refine (uses_writesFor_of_readsOnly (Prog.readsOnly_ask _)).bind fun id => ?_
  refine Program.Uses.bind ((Program.uses_perform _).mpr rfl) fun inserted => ?_
  refine (Program.Uses.when fun _ => .raise _).bind fun _ => ?_
  exact uses_writesFor_of_readsOnly (Prog.readsOnly_findById _)

theorem uses_createRuleSrvWrapper (ruleSet : RuleSetOf) (ruleName ruleContent : String)
    (ignoreErrors byPassValidation : Bool) (header : String) :
    (createRuleSrvWrapper ruleSet ruleName ruleContent ignoreErrors byPassValidation header).Uses
      (WritesFor ruleSet.id) := by
  unfold createRuleSrvWrapper
  split
  · exact .raise _
  dsimp only
  split
  · exact uses_createRuleService _ _
  · refine (uses_writesFor_of_readsOnly (readsOnly_validateRule _)).bind fun outcome => ?_
    split
    · exact uses_createRuleService _ _
    split
    · exact .done _
    · exact .raise _

theorem uses_createRuleFromFile (file : RuleFile) (ruleSet : RuleSetOf)
    (ignoreErrors byPassValidation : Bool) :
    (createRuleFromFile file ruleSet ignoreErrors byPassValidation).Uses
      (WritesFor ruleSet.id) := by
  refine (Program.uses_ofExcept _).bind fun text => ?_
  split
  · exact Program.uses_mapEach fun _ _ => uses_createRuleSrvWrapper _ _ _ _ _ _
  · exact (uses_createRuleSrvWrapper _ _ _ _ _ _).bind fun _ => .done _

theorem uses_createRulesFromUpload (upload : Upload) (ruleSet : RuleSetOf)
    (byPassValidation : Bool) :
    (createRulesFromUpload upload ruleSet byPassValidation).Uses (WritesFor ruleSet.id) := by
  unfold createRulesFromUpload
  split
  · refine (Program.uses_ofExcept _).bind fun files => ?_
    exact (Program.uses_mapEach fun _ _ => uses_createRuleFromFile _ _ _ _).bind fun _ => .done _
  · exact uses_createRuleFromFile _ _ _ _

theorem checks_upload (ruleSetId : String) (byPassValidation : Option Bool) (upload : Upload) :
    Checks (UploadRule.post ruleSetId byPassValidation upload) := by
  refine .findRuleset (.done _) fun doc => ?_
  have hcreate : (createRulesFromUpload upload ⟨ruleSetId, doc.appType⟩
      (byPassValidation.getD false)).Uses (WritesFor ruleSetId) :=
    uses_createRulesFromUpload upload ⟨ruleSetId, doc.appType⟩ _
  refine Program.Uses.tryExcept (hcreate.bind fun rules => ?_) fun e => ?_
  · split <;> exact .done _
  · cases e <;> first | exact .done _ | exact .raise _

theorem checks_createRule (payload : RulePayload) : Checks (RulesCtrl.post payload) := by
  refine Checks.bind (p := discard (Prog.ask .uuid4)) ?_ fun _ => ?_
  · exact ((Program.uses_perform _).mpr trivial).bind fun _ => .done ()
  refine .bind (uses_required _ _) fun rulesetId => ?_
  refine .bind (uses_required _ _) fun byPassValidation => ?_
  refine .findRuleset (.done _) fun doc => ?_
  refine (uses_required _ _).bind fun content => ?_
  split
  · exact .done _
  refine (uses_writesFor_of_readsOnly (readsOnly_validateUnless _ _)).bind fun outcome => ?_
  dsimp only
  split
  · refine (uses_createRuleService _ _).bind fun rule => ?_
    refine Program.Uses.bind ?_ fun _ => .done _
    exact ((Program.uses_perform _).mpr trivial).bind fun _ => .done ()
  split
  · exact .done _
  · exact .done _

theorem checks_updateRule (payload : RulePayload) : Checks (RulesCtrl.put payload) := by
  refine .bind (uses_required _ _) fun rulesetId => ?_
  refine .bind (uses_required _ _) fun idToModify => ?_
  refine .bind (uses_required _ _) fun byPassValidation => ?_
  refine .findRuleset (.done _) fun doc => ?_
  refine (uses_required _ _).bind fun content => ?_
  split
  · exact .done _
  refine (uses_writesFor_of_readsOnly (readsOnly_validateUnless _ _)).bind fun outcome => ?_
  split
  · exact .raise _
  · -- the rule is moved to the rule set that was read
    refine Program.Uses.bind ((Program.uses_perform _).mpr fun _ => rfl) fun updated => ?_
    split
    · exact .done _
    · exact Program.Uses.bind ((Program.uses_perform _).mpr trivial) fun _ => .done _
  · exact .done _

/-- The rule is written back with the rule set it was read with. -/
theorem checks_toggleRule (ruleId : String) : Checks (ToggleRule.put ruleId) := by
  refine .findRule (.raise _) fun rule => ?_
  refine (uses_required _ _).bind fun isEnabled => ?_
  refine Program.Uses.bind ((Program.uses_perform _).mpr fun _ => rfl) fun updated => ?_
  split
  · exact .done _
  · exact Program.Uses.bind ((Program.uses_perform _).mpr trivial) fun _ => .done _

theorem checks_write (request : RulesetRequest) : Checks request.program := by
  cases request with
  | createRule payload => exact (checks_createRule payload).discard
  | updateRule payload => exact (checks_updateRule payload).discard
  | toggleRule ruleId => exact (checks_toggleRule ruleId).discard
  | upload ruleSetId byPassValidation uploaded => exact (checks_upload _ _ _).discard
  | createRuleset ruleset =>
      refine .spares trivial fun id => .spares trivial fun inserted => ?_
      exact checks_of_uses (Program.Uses.when fun _ => .raise _)
  | updateRuleset id update => exact .spares trivial fun _ => .done ()

theorem checks_deleteRule (ruleId : String) : Checks (DeleteRule.delete ruleId) :=
  .spares trivial fun _ => .done _

/-! ## One request at a time -/

section Alone

variable {env : Environment} {α : Type}

/-- What writes for a rule set that is stored may be cut off anywhere. -/
theorem owned_of_uses {id : String} {p : Prog α} (hp : p.Uses (WritesFor id)) {w w' : World}
    (hpass : p.Passes (handle env) w w') (hid : StoredRuleset id w) (hw : Owned w) : Owned w' := by
  have hend : Owned w' ∧ StoredRuleset id w' :=
    hpass.invariant (I := fun v => Owned v ∧ StoredRuleset id v) hp
      (fun op v hop hv => ⟨owned_of_writesFor hop hv.2 hv.1, storedRuleset_of_writesFor hop hv.2⟩)
      ⟨hw, hid⟩
  exact hend.1

/-- A program that checks may be cut off anywhere. -/
theorem owned_of_checks {p : Prog α} (hp : Checks p) {w w' : World}
    (hpass : p.Passes (handle env) w w') (hw : Owned w) : Owned w' := by
  induction hpass with
  | here p w => exact hw
  | @call op k w w' hrest ih =>
      cases hp with
      | spares hop hk => exact ih (hk _) (owned_of_spares hop hw)
      | @findRuleset id _ hnone hsome =>
          cases hget : (w.db .ruleset).get? id with
          | none =>
              have hanswer : (handle env (.db (.findById .ruleset id)) w).1 = none := hget
              rw [hanswer] at ih
              exact ih hnone hw
          | some doc =>
              -- from here on everything is written for a rule set that is stored
              have hanswer : (handle env (.db (.findById .ruleset id)) w).1 = some doc := hget
              have hid : StoredRuleset id w := by rw [StoredRuleset, hget]; rfl
              rw [hanswer] at hrest
              exact owned_of_uses (hsome doc) hrest hid hw
      | @findRule ruleId _ hnone hsome =>
          cases hget : (w.db .rule).get? ruleId with
          | none =>
              have hanswer : (handle env (.db (.findById .rule ruleId)) w).1 = none := hget
              rw [hanswer] at ih
              exact ih hnone hw
          | some rule =>
              -- the rule set of a rule that is stored is stored
              have hanswer : (handle env (.db (.findById .rule ruleId)) w).1 = some rule := hget
              have hid : StoredRuleset rule.ruleSetId w := hw _ ⟨ruleId, rule, hget, rfl⟩
              rw [hanswer] at hrest
              exact owned_of_uses (hsome rule) hrest hid hw

/-- The rules of a rule set are deleted before the rule set itself. -/
theorem owned_of_deleteRuleset {id : String} {w w' : World}
    (hpass : (discard (DeleteRuleSet.delete id)).Passes (handle env) w w') (hw : Owned w) :
    Owned w' := by
  have hrules : Owned (handle env (.db (.deleteMany .rule fun _ rule => rule.ruleSetId = id))
      w).2 := owned_of_spares trivial hw
  cases hpass with
  | here => exact hw
  | call hrest =>
      cases hrest with
      | here => exact hrules
      | call hrest =>
          cases hrest
          exact owned_deleteRuleset not_hasRules_deleteMany hrules

/-- However many requests are served one after the other, and wherever the server is stopped
    in the middle of one, every rule belongs to a rule set that is stored. -/
theorem owned_of_serves {w w' : World} (hs : Serves (handle env) RuleRequest.program w w')
    (hw : Owned w) : Owned w' := by
  refine hs.invariant ?_ hw
  intro request v v' hpass hv
  cases request with
  | write request => exact owned_of_checks (checks_write request) hpass hv
  | deleteRule ruleId => exact owned_of_checks (checks_deleteRule ruleId).discard hpass hv
  | deleteRuleset id => exact owned_of_deleteRuleset hpass hv

end Alone

theorem owned_emptyWorld : Owned emptyWorld := by
  rintro id ⟨ruleId, rule, hget, -⟩
  cases hget

/-- Two rule sets with a rule each. -/
def twoRulesets : List RulesetRequest :=
  [.createRuleset (ruleset RuleTypes.suricata), .createRule (rulePayload "alert ip any"),
    .createRuleset (ruleset RuleTypes.zeekScripts),
    .createRule { rulePayload "event zeek_init()" with ruleSetId := some "3" }]

/-- What the server leaves that is stopped while it deletes the first of two rule sets. -/
def halfDeleted : World :=
  (handle countingEnv (.db (.deleteMany .rule fun _ rule => rule.ruleSetId = "0"))
    (twoRulesets.foldl (serve countingEnv) emptyWorld)).2

theorem owned_halfDeleted : Owned halfDeleted := by
  have hserves : Serves (handle countingEnv) RuleRequest.program emptyWorld halfDeleted := by
    refine .request (.write (.createRuleset (ruleset RuleTypes.suricata)))
      (Program.passes_run _ _) ?_
    refine .request (.write (.createRule (rulePayload "alert ip any"))) (Program.passes_run _ _) ?_
    refine .request (.write (.createRuleset (ruleset RuleTypes.zeekScripts)))
      (Program.passes_run _ _) ?_
    refine .request (.write (.createRule { rulePayload "event zeek_init()" with
      ruleSetId := some "3" })) (Program.passes_run _ _) ?_
    exact .request (.deleteRuleset "0") (.call (.here _ _)) (.refl _)
  exact owned_of_serves hserves owned_emptyWorld

/-- The rule of the second rule set is still stored. -/
example : (halfDeleted.db .rule).rows.map (fun row => row.2.ruleSetId) = ["3"] := by
  decide +kernel

/-! ## Requests that interfere -/

section Interfering

variable {env : Environment}

/-- The operations of the requests. -/
def Requested (op : Op) : Prop := (∃ id, WritesFor id op) ∨ ∃ id, op = .db (.deleteOne .ruleset id)

theorem requested_of_spares {op : Op} (hop : Spares op) : Requested op :=
  .inl ⟨"", writesFor_of_spares hop⟩

theorem uses_requested_of_checks {α : Type} {p : Prog α} (hp : Checks p) : p.Uses Requested := by
  have hwrites {id : String} {q : Prog α} (hq : q.Uses (WritesFor id)) : q.Uses Requested :=
    hq.mono fun op hop => .inl ⟨id, hop⟩
  induction hp with
  | done a => exact .done a
  | raise e => exact .raise e
  | spares hop _ ih => exact .call (requested_of_spares hop) ih
  | findRuleset _ hsome ih =>
      refine .call (requested_of_spares rfl) fun doc => ?_
      cases doc with
      | none => exact ih
      | some doc => exact hwrites (hsome doc)
  | findRule _ hsome ih =>
      refine .call (requested_of_spares rfl) fun rule => ?_
      cases rule with
      | none => exact ih
      | some rule => exact hwrites (hsome rule)

/-- The rule set is not there, and no rule is there for it. -/
def Absent (id : String) (w : World) : Prop := ¬ StoredRuleset id w ∧ ¬ HasRules id w

/-- The operation brings in no first rule of the rule set. -/
def BringsNone (env : Environment) (id : String) (op : Op) : Prop :=
  ∀ w, ¬ HasRules id w → ¬ HasRules id (handle env op w).2

theorem bringsNone_of_writesFor {id id' : String} {op : Op} (hop : WritesFor id' op)
    (hne : id ≠ id') : BringsNone env id op :=
  fun _ hnone hrules => (hasRules_of_writesFor hop hrules).elim hnone hne

theorem bringsNone_of_spares {id : String} {op : Op} (hop : Spares op) : BringsNone env id op :=
  fun _ hnone hrules => hnone (hasRules_of_spares hop hrules)

/-- While a rule set is not there a program that checks finds neither it nor a rule of it. -/
theorem usesWhile_of_checks {α : Type} {id : String} {p : Prog α} (hp : Checks p) :
    p.UsesWhile (handle env) (Absent id) (BringsNone env id) fun _ => True := by
  have hwrites {id' : String} {q : Prog α} (hq : q.Uses (WritesFor id')) (hne : id ≠ id') :
      q.UsesWhile (handle env) (Absent id) (BringsNone env id) fun _ => True :=
    Program.UsesWhile.of_uses (hq.mono fun op hop => bringsNone_of_writesFor hop hne)
  induction hp with
  | done a => exact .done trivial
  | raise e => exact .raise e
  | spares hop _ ih => exact .call (bringsNone_of_spares hop) fun _ _ => ih _
  | @findRuleset id' k hnone hsome ih =>
      refine .call (bringsNone_of_spares rfl) fun w hw => ?_
      change (k ((w.db .ruleset).get? id')).UsesWhile _ _ _ _
      cases hget : (w.db .ruleset).get? id' with
      | none => exact ih
      | some doc =>
          refine hwrites (hsome doc) fun heq => hw.1 ?_
          rw [StoredRuleset, heq, hget]
          rfl
  | @findRule ruleId k hnone hsome ih =>
      refine .call (bringsNone_of_spares rfl) fun w hw => ?_
      change (k ((w.db .rule).get? ruleId)).UsesWhile _ _ _ _
      cases hget : (w.db .rule).get? ruleId with
      | none => exact ih
      | some rule =>
          refine hwrites (hsome rule) fun heq => hw.2 ?_
          exact ⟨ruleId, rule, hget, heq.symm⟩

theorem bringsNone_deleteRuleset (id id' : String) :
    BringsNone env id (.db (.deleteOne .ruleset id')) :=
  fun w hnone hrules => hnone (hrules.of_rule_eq (db_of_ne env w _ ruleset_ne_rule))

theorem usesWhile_program (id : String) (request : RuleRequest) :
    request.program.UsesWhile (handle env) (Absent id) (BringsNone env id) fun _ => True := by
  cases request with
  | write request => exact usesWhile_of_checks (checks_write request)
  | deleteRule ruleId => exact usesWhile_of_checks (checks_deleteRule ruleId).discard
  | deleteRuleset id' =>
      refine .call (bringsNone_of_spares trivial) fun _ _ => ?_
      exact .call (bringsNone_deleteRuleset id id') fun _ _ => .done trivial

theorem uses_program (request : RuleRequest) : request.program.Uses Requested := by
  cases request with
  | write request => exact uses_requested_of_checks (checks_write request)
  | deleteRule ruleId => exact uses_requested_of_checks (checks_deleteRule ruleId).discard
  | deleteRuleset id =>
      refine .call (requested_of_spares trivial) fun _ => ?_
      exact .call (.inr ⟨id, rfl⟩) fun _ => .done ()

/-- A rule set that is stored stays, unless it is the one that is removed. -/
theorem storedRuleset_of_requested {id : String} {op : Op} (hop : Requested op)
    (hkept : removes id op = false) {w : World} (h : StoredRuleset id w) :
    StoredRuleset id (handle env op w).2 := by
  rcases hop with ⟨id', hop⟩ | ⟨id', rfl⟩
  · exact storedRuleset_of_writesFor hop h
  · have hne : id ≠ id' := by
      rintro rfl
      simp [removes] at hkept
    rw [StoredRuleset, db_deleteOne, Table.get?_erase, if_neg hne]
    exact h

/-- In every interleaving of any number of requests, a rule set that has rules is stored,
    unless the rule set itself was deleted in it. -/
theorem storedRuleset_of_notDeleted {requests : List RuleRequest} {w : World}
    {c : Config Op Op.Res PyError Unit World} {es : List (Event Op)} {id : String}
    (hr : Run (handle env) ⟨w, requests.map RuleRequest.program⟩ es c)
    (hkept : ∀ e ∈ es, removes id e.op = false) (hw : HasRules id w → StoredRuleset id w) :
    HasRules id c.state → StoredRuleset id c.state := by
  have hthreads : ThreadsUse (fun _ => Requested)
      (⟨w, requests.map RuleRequest.program⟩ : Config Op Op.Res PyError Unit World) := by
    intro i p hp
    obtain ⟨request, -, rfl⟩ := List.mem_map.mp (List.mem_of_getElem? hp)
    exact uses_program request
  have hevents := hr.forall_event hthreads
  have hend : Absent id c.state ∨ StoredRuleset id c.state := by
    refine hr.changesOver (A := BringsNone env id) ?_ ?_ ?_ ?_
    · intro i p hp
      obtain ⟨request, -, rfl⟩ := List.mem_map.mp (List.mem_of_getElem? hp)
      exact usesWhile_program id request
    · intro op v hop hv
      by_cases hstored : StoredRuleset id (handle env op v).2
      · exact .inr hstored
      · exact .inl ⟨hstored, hop v hv.2⟩
    · exact fun e he v hv => storedRuleset_of_requested (hevents e he) (hkept e he) hv
    · by_cases hstored : StoredRuleset id w
      · exact .inr hstored
      · exact .inl ⟨hstored, fun hrules => hstored (hw hrules)⟩
  intro hrules
  exact hend.resolve_left fun habsent => habsent.2 hrules

end Interfering

/-- A rule is written while its rule set is created. -/
def createdTogether : Config Op Op.Res PyError Unit World where
  state := emptyWorld
  threads := [.write (.createRuleset (ruleset RuleTypes.suricata)),
    .write (.createRule (rulePayload "alert ip any"))].map RuleRequest.program

theorem storedRuleset_of_createdTogether :
    let c := (createdTogether.schedule (handle countingEnv) [0, 1, 0, 1, 1, 1, 1, 1]).2
    HasRules "0" c.state → StoredRuleset "0" c.state := by
  have hkept : ∀ e ∈ (createdTogether.schedule (handle countingEnv) [0, 1, 0, 1, 1, 1, 1, 1]).1,
      removes "0" e.op = false := by
    refine List.forall_mem_iff_forall_getElem.mpr ?_
    decide +kernel
  exact storedRuleset_of_notDeleted (run_schedule _ _ createdTogether) hkept
    fun hrules => (owned_emptyWorld "0" hrules)

end RuleOwnership

end Tfplenum
