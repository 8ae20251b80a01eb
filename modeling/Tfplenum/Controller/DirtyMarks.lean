/-
  Tfplenum.Controller.DirtyMarks

  A synchronisation of the rule sets among requests that update rules and rule sets.
  A request that updates a rule marks its rule set as dirty in a write of its own,
  and the synchronisation writes the state of every rule set without a look at the
  mark: it is lost when that write comes last.  The deletion of a rule, and an update
  that moves it to another rule set, leave no mark on the rule set at all.

  Until it is written the mark is owed by the request; the invariant says that a
  rule set which was updated behind the back of the synchronisation is not synced,
  or some request still owes its mark, or something has come after the last mark that
  the mark should follow.
-/

import Tfplenum.Controller.RuleAssignments
import Tfplenum.Service.RulesyncService

namespace Tfplenum

open Lib

/-! ## Requests -/

inductive UpdateRequest where
  /-- `RulesCtrl.put` -/
  | updateRule (payload : RulePayload)
  /-- `DeleteRule.delete` -/
  | deleteRule (ruleId : String)
  /-- `ToggleRule.put` -/
  | toggleRule (ruleId : String)
  /-- `Rulesets.put` -/
  | updateRuleset (id : String) (update : RuleSetUpdate)

def UpdateRequest.program : UpdateRequest → Prog Unit
  | .updateRule payload => discard (RulesCtrl.put payload)
  | .deleteRule ruleId => discard (DeleteRule.delete ruleId)
  | .toggleRule ruleId => discard (ToggleRule.put ruleId)
  | .updateRuleset id update => discard (Rulesets.put id update)

/-- The synchronisation is the first thread. -/
def syncAmong (w : World) (requests : List UpdateRequest) : Config Op Op.Res PyError Unit World :=
  ⟨w, performRulesync :: requests.map UpdateRequest.program⟩

/-! ## Observing a run -/

/-- The state of a rule set, if it is stored. -/
def stateOf (w : World) (rulesetId : String) : Option RulesetState :=
  ((w.db .ruleset).get? rulesetId).map RuleSetDoc.state

/-- Calls that are part of building a file. -/
def External.builds : External → Bool
  | .makeTemp | .makeDirectory _ | .writeFile _ _ => true
  | _ => false

/-- The operation reads the rules of the rule set. -/
def Op.readsRules (rulesetId : String) : Op → Bool
  | .db (.find .rule q) => q "" ⟨rulesetId, none, none, none⟩
  | _ => false

/-- The operation updates or deletes a rule that belongs to the rule set before or after. -/
def Op.updatesRule (rulesetId : String) (op : Op) (w : World) : Bool :=
  match op with
  | .db (.updateOne .rule id f) =>
      ((w.db .rule).get? id).any fun rule =>
        rule.ruleSetId = rulesetId || (f rule).ruleSetId = rulesetId
  | .db (.deleteOne .rule id) =>
      ((w.db .rule).get? id).any fun rule => rule.ruleSetId = rulesetId
  | _ => false

/-- The operation moves a rule out of the rule set, or deletes it. -/
def Op.removesRule (rulesetId : String) (op : Op) (w : World) : Bool :=
  match op with
  | .db (.updateOne .rule id f) =>
      ((w.db .rule).get? id).any fun rule =>
        rule.ruleSetId = rulesetId && (f rule).ruleSetId ≠ rulesetId
  | .db (.deleteOne .rule id) =>
      ((w.db .rule).get? id).any fun rule => rule.ruleSetId = rulesetId
  | _ => false

/-- The operation writes the state of the rule set: some state does not outlast it. -/
def Op.writesState (rulesetId : String) (op : Op) (w : World) : Bool :=
  match op with
  | .db (.updateOne .ruleset id f) =>
      decide (id = rulesetId) && ((w.db .ruleset).get? id).any fun doc =>
        [RulesetState.created, .dirty, .synced, .error].any fun state =>
          (f (doc.withState state)).state ≠ state
  | _ => false

/-- What has been seen of a run, for one rule set: whether the synchronisation is building a
    file, whether it has read the rules for one, whether a rule has been updated after that,
    and whether anything has come after the last mark that leaves the update unmarked. -/
structure Observed where
  building : Bool
  read : Bool
  overtaken : Bool
  unmarked : Bool

def Observed.start : Observed := ⟨false, false, false, false⟩

/-- A request that writes the state marks the rule set.  A write of the synchronisation after
    an update takes the mark away, and a rule that leaves the rule set while this is synced
    does not bring one. -/
def Observed.next (rulesetId : String) (w : World) (e : Event Op) (o : Observed) : Observed :=
  if e.thread = 0 then
    match e.op with
    | .external call => { o with building := call.builds }
    | .db op =>
        { o with
          read := o.read || o.building && (Op.db op).readsRules rulesetId
          unmarked := o.unmarked || o.overtaken && (Op.db op).writesState rulesetId w }
  else
    { o with
      overtaken := o.overtaken || o.read && e.op.updatesRule rulesetId w
      unmarked := !e.op.writesState rulesetId w && (o.unmarked ||
        o.read && e.op.removesRule rulesetId w && stateOf w rulesetId = some .synced) }

/-- What is seen of all events. -/
def observe (env : Environment) (rulesetId : String) : Observed → World → List (Event Op) → Observed
  | o, _, [] => o
  | o, w, e :: es => observe env rulesetId (o.next rulesetId w e) (handle env e.op w).2 es

/-! ## Programs that mark what they update -/

/-- After each update of a rule, but not after its deletion, the next operation marks its rule
    set as dirty, and no other write makes a rule set synced. -/
inductive Marks {α : Type} : Prog α → Prop
  | done (a : α) : Marks (.done a)
  | raise (e : PyError) : Marks (.raise e)
  | read {op : Op} {k : Op.Res op → Prog α} (hop : op.readsOnly) (hk : ∀ r, Marks (k r)) :
      Marks (.call op k)
  | ruleset {id : String} {f : RuleSetDoc → RuleSetDoc} {k : Option RuleSetDoc → Prog α}
      (hf : ∀ doc, (f doc).state ≠ .synced) (hk : ∀ r, Marks (k r)) :
      Marks (.call (.db (.updateOne .ruleset id f)) k)
  | rule {id rulesetId : String} {f : RuleDoc → RuleDoc} {k : Option RuleDoc → Prog α}
      {k' : RuleDoc → Option RuleSetDoc → Prog α} (hf : ∀ doc, (f doc).ruleSetId = rulesetId)
      (hnone : Marks (k none))
      (hsome : ∀ doc, k (some doc) =
        .call (.db (.updateOne .ruleset rulesetId RuleSetDoc.dirty)) (k' doc))
      (hk : ∀ doc r, Marks (k' doc r)) : Marks (.call (.db (.updateOne .rule id f)) k)
  | deleteRule {id : String} {k : Nat → Prog α} (hk : ∀ r, Marks (k r)) :
      Marks (.call (.db (.deleteOne .rule id)) k)

section Marks

variable {α β : Type} {p : Prog α}

theorem dirty_ne_synced (doc : RuleSetDoc) : doc.dirty.state ≠ .synced := by
  show RulesetState.dirty ≠ .synced
  decide

theorem Marks.bind {f : α → Prog β} (hp : Marks p) (hf : ∀ a, Marks (f a)) :
    Marks (p.bind f) := by
  induction hp with
  | done a => exact hf a
  | raise e => exact .raise e
  | read hop _ ih => exact .read hop ih
  | ruleset hg _ ih => exact .ruleset hg ih
  | @rule id rulesetId g k k' hg _ hsome _ ihnone ih =>
      refine .rule hg ihnone ?_ ih
      intro doc
      show (k (some doc)).bind f = _
      rw [hsome doc]
      rfl
  | deleteRule _ ih => exact .deleteRule ih

theorem marks_of_readsOnly (hp : p.Uses Op.readsOnly) : Marks p := by
  induction hp with
  | done a => exact .done a
  | raise e => exact .raise e
  | call hop _ ih => exact .read hop ih

theorem marks_required (key : String) (value : Option α) : Marks (required key value) :=
  marks_of_readsOnly (readsOnly_required key value)

/-- An update of a rule that is followed by the mark of its rule set. -/
theorem marks_updateRule {id rulesetId : String} {f : RuleDoc → RuleDoc}
    {g : Option RuleDoc → Prog α} {k : Option RuleSetDoc → Prog α}
    (hf : ∀ doc, (f doc).ruleSetId = rulesetId) (hnone : Marks (g none))
    (hsome : ∀ doc, g (some doc) = (Prog.updateOne .ruleset rulesetId RuleSetDoc.dirty).bind k)
    (hk : ∀ r, Marks (k r)) : Marks ((Prog.updateOne .rule id f).bind g) :=
  .rule hf hnone hsome fun _ => hk

theorem marks_put (payload : RulePayload) : Marks (RulesCtrl.put payload) := by
  unfold RulesCtrl.put
  refine (marks_required _ _).bind fun rulesetId => ?_
  refine (marks_required _ _).bind fun idToModify => ?_
  refine (marks_required _ _).bind fun byPassValidation => ?_
  refine (marks_of_readsOnly (Prog.readsOnly_findById _)).bind fun ruleSet => ?_
  cases ruleSet with
  | none => exact .done _
  | some ruleSet =>
      refine (marks_required _ _).bind fun content => ?_
      split
      · exact .done _
      refine (marks_of_readsOnly (readsOnly_validateUnless _ _)).bind fun outcome => ?_
      split
      · exact .raise _
      · exact marks_updateRule (fun _ => rfl) (.done _) (fun _ => rfl) fun _ => .done _
      · exact .done _

theorem marks_toggle (ruleId : String) : Marks (ToggleRule.put ruleId) := by
  unfold ToggleRule.put
  refine (marks_of_readsOnly (Prog.readsOnly_findById _)).bind fun read => ?_
  cases read with
  | none => exact .raise _
  | some rule =>
      refine (marks_required _ _).bind fun isEnabled => ?_
      exact marks_updateRule (fun _ => rfl) (.done _) (fun _ => rfl) fun _ => .done _

theorem UpdateRequest.marks_program (request : UpdateRequest) : Marks request.program := by
  cases request with
  | updateRule payload => exact (marks_put payload).bind fun _ => .done _
  | deleteRule ruleId => exact .deleteRule fun _ => .done _
  | toggleRule ruleId => exact (marks_toggle ruleId).bind fun _ => .done _
  | updateRuleset id update =>
      have hf : ∀ doc, (update.apply doc).state ≠ .synced := dirty_ne_synced
      exact .ruleset hf fun _ => .done _

end Marks

/-! ## Runs -/

section Runs

variable {env : Environment} {rulesetId : String} {c : Config Op Op.Res PyError Unit World}

/-- A request has the mark of the rule set to write next. -/
def Owed (rulesetId : String) (c : Config Op Op.Res PyError Unit World) : Prop :=
  ∃ i k, 0 < i ∧
    c.threads[i]? = some (.call (.db (.updateOne .ruleset rulesetId RuleSetDoc.dirty)) k)

/-- What the synchronisation does: it reads, and updates rule sets. -/
def Op.syncs (op : Op) : Prop :=
  op.readsOnly ∨ ∃ id f, op = .db (.updateOne .ruleset id f)

theorem coversSync_syncs : CoversSync Op.syncs where
  reads _ hop := .inl hop
  push id _ := .inr ⟨id, _, rfl⟩
  state id _ := .inr ⟨id, _, rfl⟩

theorem syncs_performRulesync : performRulesync.Uses Op.syncs := by
  have hA := coversSync_syncs
  refine Program.Uses.tryExcept ?_ fun _ => .done _
  refine (hA.of_readsOnly Node.readsOnly_loadAllFromDb).bind fun nodes => ?_
  refine Program.Uses.bind ?_ fun _ => ?_
  · refine (hA.of_readsOnly readsOnly_getRulesets).bind fun rows => ?_
    refine Program.uses_forEach fun row _ => Program.Uses.bind ?_ fun _ => .done _
    exact (Program.uses_perform _).mpr (.inr ⟨row.1, _, rfl⟩)
  · refine (hA.of_readsOnly (Prog.readsOnly_ask _)).bind fun settings => ?_
    rcases settings with e | _ | settings
    · exact .raise e
    · exact .raise _
    · exact Program.uses_forEach fun node _ => uses_syncNode hA node

/-- The synchronisation updates rule sets only, the requests mark what they update, and a rule
    set that has been overtaken is left unmarked, is not synced, or is owed its mark. -/
structure Marked (rulesetId : String) (o : Observed) (c : Config Op Op.Res PyError Unit World) :
    Prop where
  sync : ∀ p, c.threads[0]? = some p → p.Uses Op.syncs
  requests : ∀ i p, 0 < i → c.threads[i]? = some p → Marks p
  overtaken : o.overtaken = true →
    o.unmarked = true ∨ stateOf c.state rulesetId ≠ some .synced ∨ Owed rulesetId c

theorem stateOf_of_readsOnly {op : Op} (hop : op.readsOnly) (w : World) :
    stateOf (handle env op w).2 rulesetId = stateOf w rulesetId := by
  have hdb : (handle env op w).2.db = w.db := db_of_readsOnly hop w
  unfold stateOf
  rw [hdb]

theorem stateOf_updateRule (w : World) (id : String) (f : RuleDoc → RuleDoc) :
    stateOf (handle env (.db (.updateOne .rule id f)) w).2 rulesetId = stateOf w rulesetId := by
  have hne : Collection.rule ≠ .ruleset := by decide
  unfold stateOf
  rw [db_of_ne env w (.updateOne .rule id f) hne]

theorem stateOf_deleteRule (w : World) (id : String) :
    stateOf (handle env (.db (.deleteOne .rule id)) w).2 rulesetId = stateOf w rulesetId := by
  have hne : Collection.rule ≠ .ruleset := by decide
  unfold stateOf
  rw [db_of_ne env w (.deleteOne .rule id) hne]

/-- An update that does not write the state leaves it. -/
theorem stateOf_of_not_writesState (w : World) {id : String} {f : RuleSetDoc → RuleSetDoc}
    (h : Op.writesState rulesetId (.db (.updateOne .ruleset id f)) w = false) :
    stateOf (handle env (.db (.updateOne .ruleset id f)) w).2 rulesetId = stateOf w rulesetId := by
  unfold stateOf
  rw [db_updateOne, Table.get?_modify]
  split
  · rename_i hid
    subst hid
    cases hget : (w.db .ruleset).get? rulesetId with
    | none => rfl
    | some doc =>
        simp only [Op.writesState, decide_true, Bool.true_and, hget, Option.any_some,
          List.any_eq_false, decide_eq_true_eq, not_not] at h
        have hstate : (f (doc.withState doc.state)).state = doc.state := by
          refine h doc.state ?_
          cases doc.state <;> decide
        exact congrArg some hstate
  · rfl

/-- A rule set whose state is written is not synced, when no such state is written. -/
theorem stateOf_updateRuleset (w : World) {id : String} {f : RuleSetDoc → RuleSetDoc}
    (hf : ∀ doc, (f doc).state ≠ .synced)
    (h : stateOf w rulesetId ≠ some .synced ∨ id = rulesetId) :
    stateOf (handle env (.db (.updateOne .ruleset id f)) w).2 rulesetId ≠ some .synced := by
  unfold stateOf at h ⊢
  rw [db_updateOne, Table.get?_modify]
  split
  · intro hsynced
    rw [Option.map_map] at hsynced
    obtain ⟨doc, -, hstate⟩ := Option.map_eq_some_iff.mp hsynced
    exact hf doc hstate
  · rename_i hid
    rcases h with hstate | rfl
    · exact hstate
    · exact absurd rfl hid

variable {o : Observed} {i : Nat} {op : Op} {k : Op.Res op → Prog Unit}

/-- A mark that another thread owes is still owed. -/
theorem Owed.advance {j : Nat} {k' : Option RuleSetDoc → Prog Unit}
    (hi : c.threads[i]? = some (.call op k)) (hne : i ≠ j) (hj : 0 < j)
    (howed : c.threads[j]? =
      some (.call (.db (.updateOne .ruleset rulesetId RuleSetDoc.dirty)) k')) :
    Owed rulesetId (c.advance (handle env) i op k) := by
  refine ⟨j, k', hj, ?_⟩
  rw [Config.getElem?_advance hi, if_neg hne]
  exact howed

theorem Marked.sync_advance (hc : Marked rulesetId o c)
    (hi : c.threads[i]? = some (.call op k)) :
    ∀ p, (c.advance (handle env) i op k).threads[0]? = some p → p.Uses Op.syncs := by
  intro p hp
  rw [Config.getElem?_advance hi] at hp
  split at hp
  · rename_i hzero
    subst hzero
    cases hp
    exact ((Program.uses_call op k).mp (hc.sync _ hi)).2 _
  · exact hc.sync p hp

theorem Marked.requests_advance (hc : Marked rulesetId o c)
    (hi : c.threads[i]? = some (.call op k)) (hk : 0 < i → ∀ r, Marks (k r)) :
    ∀ j p, 0 < j → (c.advance (handle env) i op k).threads[j]? = some p → Marks p := by
  intro j p hj hp
  rw [Config.getElem?_advance hi] at hp
  split at hp
  · rename_i hij
    cases hp
    exact hk (by omega) _
  · exact hc.requests j p hj hp

/-- Whatever a thread answers, its continuation marks what it updates. -/
theorem Marks.cont {p : Prog Unit} (hp : Marks p) {op : Op} {k : Op.Res op → Prog Unit}
    (heq : p = .call op k) (r : Op.Res op) : Marks (k r) := by
  cases hp with
  | done a => cases heq
  | raise e => cases heq
  | read hop hk =>
      cases heq
      exact hk r
  | ruleset hf hk =>
      cases heq
      exact hk r
  | rule hf hnone hsome hk =>
      cases heq
      cases r with
      | none => exact hnone
      | some doc =>
          rw [hsome doc]
          exact .ruleset dirty_ne_synced (hk doc)
  | deleteRule hk =>
      cases heq
      exact hk r

/-- A request that has updated a rule, and has not moved it, owes the mark of its rule set. -/
theorem owed_of_updatesRule {id ownerId : String} {f : RuleDoc → RuleDoc}
    {k : Option RuleDoc → Prog Unit} {k' : RuleDoc → Option RuleSetDoc → Prog Unit} (hpos : 0 < i)
    (hi : c.threads[i]? = some (.call (.db (.updateOne .rule id f)) k))
    (hf : ∀ doc, (f doc).ruleSetId = ownerId)
    (hsome : ∀ doc, k (some doc) =
      .call (.db (.updateOne .ruleset ownerId RuleSetDoc.dirty)) (k' doc))
    (hupdates : Op.updatesRule rulesetId (.db (.updateOne .rule id f)) c.state = true)
    (hstays : Op.removesRule rulesetId (.db (.updateOne .rule id f)) c.state = false) :
    Owed rulesetId (c.advance (handle env) i (.db (.updateOne .rule id f)) k) := by
  obtain ⟨doc, hdoc, howner⟩ := (Option.any_eq_true _ _).mp hupdates
  have hstay : (f doc).ruleSetId = rulesetId := by
    have hmoves := (Option.any_eq_false _ _).mp hstays doc hdoc
    by_contra hleft
    simp only [hleft, decide_false, Bool.or_false, decide_eq_true_eq] at howner
    simp [howner, hleft] at hmoves
  have hid : ownerId = rulesetId := (hf doc).symm.trans hstay
  have hanswer : (handle env (.db (.updateOne .rule id f)) c.state).1 = some (f doc) := by
    rw [handle_db, DocOp.apply_updateOne]
    show ((c.state.db .rule).get? id).map f = some (f doc)
    rw [hdoc]
    rfl
  refine ⟨i, k' (f doc), hpos, ?_⟩
  rw [Config.getElem?_advance hi, if_pos rfl, hanswer, hsome (f doc), hid]

theorem writesState_of_readsOnly (hop : op.readsOnly) (w : World) :
    op.writesState rulesetId w = false := by
  cases op with
  | external call => rfl
  | db op =>
      cases op with
      | updateOne id f => cases hop
      | _ => rfl

theorem updatesRule_of_readsOnly (hop : op.readsOnly) (w : World) :
    op.updatesRule rulesetId w = false := by
  cases op with
  | external call => rfl
  | db op =>
      cases op with
      | updateOne id f => cases hop
      | deleteOne id => cases hop
      | _ => rfl

/-- A step of the synchronisation: a write of the state leaves an overtaken rule set unmarked,
    and everything else leaves the state. -/
theorem Marked.advance_sync (hc : Marked rulesetId o c) (hi : c.threads[0]? = some (.call op k)) :
    Marked rulesetId (o.next rulesetId c.state ⟨0, op⟩) (c.advance (handle env) 0 op k) := by
  have hovertaken' : (o.next rulesetId c.state ⟨0, op⟩).overtaken = o.overtaken := by
    unfold Observed.next
    rw [if_pos rfl]
    cases op <;> rfl
  have hunmarked' : (o.next rulesetId c.state ⟨0, op⟩).unmarked =
      (o.unmarked || o.overtaken && op.writesState rulesetId c.state) := by
    unfold Observed.next
    rw [if_pos rfl]
    cases op with
    | db op => rfl
    | external call =>
        show o.unmarked = (o.unmarked || o.overtaken && false)
        rw [Bool.and_false, Bool.or_false]
  refine ⟨hc.sync_advance hi, hc.requests_advance hi (by omega), ?_⟩
  rw [hovertaken', hunmarked']
  intro hovertaken
  have hkeeps : op.writesState rulesetId c.state = false →
      stateOf (handle env op c.state).2 rulesetId = stateOf c.state rulesetId := by
    intro hwrites
    rcases ((Program.uses_call op k).mp (hc.sync _ hi)).1 with hop | ⟨id, f, rfl⟩
    · exact stateOf_of_readsOnly hop c.state
    · exact stateOf_of_not_writesState c.state hwrites
  cases hwrites : op.writesState rulesetId c.state with
  | true =>
      left
      rw [hovertaken, Bool.and_self, Bool.or_true]
  | false =>
      rw [Bool.and_false, Bool.or_false]
      rcases hc.overtaken hovertaken with hunmarked | hstate | ⟨j, k', hj, howed⟩
      · exact .inl hunmarked
      · refine .inr (.inl ?_)
        show stateOf (handle env op c.state).2 rulesetId ≠ some .synced
        rw [hkeeps hwrites]
        exact hstate
      · exact .inr (.inr (Owed.advance hi (by omega) hj howed))

/-- A step of a request. -/
theorem Marked.advance_request (hc : Marked rulesetId o c) (hpos : 0 < i)
    (hi : c.threads[i]? = some (.call op k)) :
    Marked rulesetId (o.next rulesetId c.state ⟨i, op⟩) (c.advance (handle env) i op k) := by
  have hne : i ≠ 0 := by omega
  have hmarks := hc.requests i _ hpos hi
  refine ⟨hc.sync_advance hi, hc.requests_advance hi fun _ => hmarks.cont rfl, ?_⟩
  unfold Observed.next
  rw [if_neg hne]
  dsimp only
  intro hovertaken
  by_cases hother : ∃ j k', 0 < j ∧ i ≠ j ∧ c.threads[j]? =
      some (.call (.db (.updateOne .ruleset rulesetId RuleSetDoc.dirty)) k')
  · -- a mark that another request owes stays owed
    obtain ⟨j, k', hj, hij, howed⟩ := hother
    exact .inr (.inr (Owed.advance hi hij hj howed))
  have hbefore : o.overtaken = true → o.unmarked = true ∨ stateOf c.state rulesetId ≠ some .synced ∨
      ∃ k', Program.call op k =
        .call (.db (.updateOne .ruleset rulesetId RuleSetDoc.dirty)) k' := by
    intro hovertaken
    rcases hc.overtaken hovertaken with hunmarked | hstate | ⟨j, k', hj, howed⟩
    · exact .inl hunmarked
    · exact .inr (.inl hstate)
    · by_cases hij : i = j
      · subst hij
        rw [hi] at howed
        exact .inr (.inr ⟨k', Option.some.inj howed⟩)
      · exact absurd ⟨j, k', hj, hij, howed⟩ hother
  cases hmarks with
  | read hop _ =>
      rw [updatesRule_of_readsOnly hop, Bool.and_false, Bool.or_false] at hovertaken
      rw [writesState_of_readsOnly hop]
      rcases hbefore hovertaken with hunmarked | hstate | ⟨k', heq⟩
      · left
        rw [hunmarked]
        rfl
      · refine .inr (.inl ?_)
        show stateOf (handle env op c.state).2 rulesetId ≠ some .synced
        rw [stateOf_of_readsOnly hop]
        exact hstate
      · cases heq
        cases hop
  | @ruleset id f _ hf _ =>
      have hreads : Op.updatesRule rulesetId (.db (.updateOne .ruleset id f)) c.state = false := rfl
      rw [hreads, Bool.and_false, Bool.or_false] at hovertaken
      by_cases hid : id = rulesetId
      · refine .inr (.inl ?_)
        show stateOf (handle env (.db (.updateOne .ruleset id f)) c.state).2 rulesetId ≠
          some .synced
        exact stateOf_updateRuleset c.state hf (.inr hid)
      · have hother :
            Op.writesState rulesetId (.db (.updateOne .ruleset id f)) c.state = false := by
          rw [Op.writesState, decide_eq_false hid, Bool.false_and]
        rcases hbefore hovertaken with hunmarked | hstate | ⟨k', heq⟩
        · left
          rw [hother, hunmarked]
          rfl
        · refine .inr (.inl ?_)
          show stateOf (handle env (.db (.updateOne .ruleset id f)) c.state).2 rulesetId ≠
            some .synced
          exact stateOf_updateRuleset c.state hf (.inl hstate)
        · cases heq
          exact absurd rfl hid
  | @rule id ownerId f k k' hf _ hsome _ =>
      have hstate' : stateOf (c.advance (handle env) i (.db (.updateOne .rule id f)) k).state
          rulesetId = stateOf c.state rulesetId :=
        @stateOf_updateRule env rulesetId c.state id f
      have hwrites : Op.writesState rulesetId (.db (.updateOne .rule id f)) c.state = false := rfl
      rw [hstate', hwrites]
      rcases Bool.or_eq_true_iff.mp hovertaken with hold | hnew
      · rcases hbefore hold with hunmarked | hstate | ⟨k', heq⟩
        · left
          rw [hunmarked]
          rfl
        · exact .inr (.inl hstate)
        · cases heq
      · obtain ⟨hread, hupdates⟩ := Bool.and_eq_true_iff.mp hnew
        by_cases hsynced : stateOf c.state rulesetId = some .synced
        · cases hremoves : Op.removesRule rulesetId (.db (.updateOne .rule id f)) c.state with
          | true =>
              left
              rw [hread, decide_eq_true hsynced, Bool.and_self, Bool.and_self, Bool.or_true]
              rfl
          | false => exact .inr (.inr (owed_of_updatesRule hpos hi hf hsome hupdates hremoves))
        · exact .inr (.inl hsynced)
  | @deleteRule id k _ =>
      have hstate' : stateOf (c.advance (handle env) i (.db (.deleteOne .rule id)) k).state
          rulesetId = stateOf c.state rulesetId :=
        @stateOf_deleteRule env rulesetId c.state id
      have hwrites : Op.writesState rulesetId (.db (.deleteOne .rule id)) c.state = false := rfl
      rw [hstate', hwrites]
      by_cases hsynced : stateOf c.state rulesetId = some .synced
      · left
        rcases Bool.or_eq_true_iff.mp hovertaken with hold | hnew
        · rcases hbefore hold with hunmarked | hstate | ⟨k', heq⟩
          · rw [hunmarked]
            rfl
          · exact absurd hsynced hstate
          · cases heq
        · obtain ⟨hread, hupdates⟩ := Bool.and_eq_true_iff.mp hnew
          have hremoves : Op.removesRule rulesetId (.db (.deleteOne .rule id)) c.state = true :=
            hupdates
          rw [hread, hremoves, decide_eq_true hsynced, Bool.and_self, Bool.and_self, Bool.or_true]
          rfl
      · exact .inr (.inl hsynced)

theorem Marked.advance (hc : Marked rulesetId o c) (hi : c.threads[i]? = some (.call op k)) :
    Marked rulesetId (o.next rulesetId c.state ⟨i, op⟩) (c.advance (handle env) i op k) := by
  rcases Nat.eq_zero_or_pos i with rfl | hpos
  · exact hc.advance_sync hi
  · exact hc.advance_request hpos hi

theorem Marked.run {es : List (Event Op)} {c c' : Config Op Op.Res PyError Unit World}
    (hr : Run (handle env) c es c') :
    ∀ o, Marked rulesetId o c → Marked rulesetId (observe env rulesetId o c.state es) c' := by
  induction hr with
  | nil c => exact fun o hc => hc
  | cons hi _ ih => exact fun o hc => ih _ (hc.advance hi)

theorem marked_syncAmong (w : World) (requests : List UpdateRequest) :
    Marked rulesetId .start (syncAmong w requests) := by
  refine ⟨?_, ?_, ?_⟩
  · intro p hp
    cases hp
    exact syncs_performRulesync
  · intro i p hpos hp
    cases i with
    | zero => omega
    | succ i =>
        have hmem : p ∈ requests.map UpdateRequest.program := List.mem_of_getElem? hp
        obtain ⟨request, -, rfl⟩ := List.mem_map.mp hmem
        exact request.marks_program
  · intro hovertaken
    cases hovertaken

end Runs

/-- In every run in which, for a rule set that has been overtaken, a request's mark follows the
    last write of its state by the synchronisation and the last rule that leaves it while it is
    synced, the rule set is not synced in the end. -/
theorem notSynced_of_markedLast (env : Environment) (w : World) (requests : List UpdateRequest)
    (rulesetId : String) (es : List (Event Op)) (c' : Config Op Op.Res PyError Unit World)
    (hrun : Run (handle env) (syncAmong w requests) es c') (hfinished : c'.Finished)
    (hmarked : (observe env rulesetId .start w es).unmarked = false)
    (hovertaken : (observe env rulesetId .start w es).overtaken = true) :
    stateOf c'.state rulesetId ≠ some .synced := by
  have hinv : Marked rulesetId (observe env rulesetId .start w es) c' :=
    Marked.run hrun .start (marked_syncAmong w requests)
  rcases hinv.overtaken hovertaken with hunmarked | hstate | ⟨i, k, -, howed⟩
  · rw [hmarked] at hunmarked
    cases hunmarked
  · exact hstate
  · exact absurd rfl (hfinished _ (List.mem_of_getElem? howed) _ k)

/-! ## A rule is toggled during a synchronisation -/

def syncEnv : Environment := fun call n =>
  match call with
  | .loadKitSettings => .ok (some ⟨"", true⟩)
  | call => steadyEnv call n

def sensor1Facts : List (String × Json) :=
  [("hostname", .str "sensor1.lan"),
    ("default_ipv4_settings", .obj [("address", .str "10.40.12.146")])]

/-- One sensor with its facts, and one rule in the rule set that is assigned to it. -/
def sensor1Rule : World where
  db
    | .settings => Table.empty.upsert generalSettingsId lanForm.dump
    | .nodes => Table.empty.upsert "n1" { sensor1Doc with deviceFacts := sensor1Facts }
    | .ruleset => Table.empty.upsert "r1" sensor1Rules
    | .rule =>
        Table.empty.upsert "1" ⟨"r1", some "local", some "alert ip any any -> any any", some true⟩
    | _ => Table.empty
  calls := 0

/-- The synchronisation performs that many operations, the first request follows, and when the
    synchronisation has come to its end, the second request. -/
def toggleAfter (operations : Nat) (requests : List UpdateRequest) :
    List (Event Op) × Config Op Op.Res PyError Unit World :=
  (syncAmong sensor1Rule requests).schedule (handle syncEnv)
    (List.replicate operations 0 ++ List.replicate 3 1 ++ List.replicate 40 0 ++
      List.replicate 3 2)

/-- The mark of the first request is written over, that of the second is not. -/
theorem notSynced_of_toggleTwice :
    stateOf (toggleAfter 46 [.toggleRule "1", .toggleRule "1"]).2.state "r1" ≠ some .synced :=
  notSynced_of_markedLast syncEnv sensor1Rule [.toggleRule "1", .toggleRule "1"] "r1"
    (toggleAfter 46 [.toggleRule "1", .toggleRule "1"]).1
    (toggleAfter 46 [.toggleRule "1", .toggleRule "1"]).2 (run_schedule _ _ _)
    (Config.finished_of_values (by decide +kernel)) (by decide +kernel) (by decide +kernel)

/-- No run loses a mark. -/
def NoLostMark : Prop :=
  ∀ (env : Environment) (w : World) (requests : List UpdateRequest) (rulesetId : String)
    (es : List (Event Op)) (c' : Config Op Op.Res PyError Unit World),
    Run (handle env) (syncAmong w requests) es c' → c'.Finished →
      (observe env rulesetId .start w es).overtaken = true →
        stateOf c'.state rulesetId ≠ some .synced

/-- The request comes just before the synchronisation writes the state. -/
theorem not_noLostMark : ¬ NoLostMark := by
  intro hclaim
  have hrun : Run (handle syncEnv) (syncAmong sensor1Rule [.toggleRule "1"])
      (toggleAfter 46 [.toggleRule "1"]).1
      (toggleAfter 46 [.toggleRule "1"]).2 := run_schedule _ _ _
  have hfinished : (toggleAfter 46 [.toggleRule "1"]).2.Finished :=
    Config.finished_of_values (by decide +kernel)
  have hovertaken :
      (observe syncEnv "r1" .start sensor1Rule
        (toggleAfter 46 [.toggleRule "1"]).1).overtaken = true := by
    decide +kernel
  have hsynced : stateOf (toggleAfter 46 [.toggleRule "1"]).2.state "r1" = some .synced := by
    decide +kernel
  exact hclaim syncEnv sensor1Rule _ "r1" _ _ hrun hfinished hovertaken hsynced

end Tfplenum
