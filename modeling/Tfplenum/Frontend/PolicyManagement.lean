/-
  Tfplenum.Frontend.PolicyManagement

  The table of rules on the page of `policy-management.component.ts`, beside the rules
  that the server stores: a rule set is opened, and rules are added, uploaded and deleted.

  The page asks for the rules when a rule set is opened, and afterwards makes the same
  changes to its table as the server made to the stored rules.  A deletion takes out the
  row at the place that the rule had in the list of the rule set, which is another list
  than the table once rules have been uploaded or deleted.  The table has the stored rules
  as long as that is the place of the row, and no answer comes for another rule set or in
  the wrong order (`shown_of_after`).
-/

import Tfplenum.Lib.Heap
import Tfplenum.Lib.Replica
import Tfplenum.Lib.Steps
import Mathlib.Data.List.Nodup
import Mathlib.Data.List.Sort

namespace Tfplenum

open Lib

namespace PolicyManagement

/-! ## Rules and rule sets -/

/-- `RuleClass`, and a document of `mongo_rule()` -/
structure Rule where
  id : String
  ruleName : String
  ruleSetId : String
deriving DecidableEq, Repr

/-- `RuleSetInterface` -/
structure RuleSetInterface where
  id : String
  name : String
  rules : Option (List Rule)
deriving DecidableEq, Repr

/-- `RuleSetClass`, whose rules are an array, or `null` -/
structure RuleSet where
  id : String
  name : String
  rules : Option Ref
deriving DecidableEq, Repr

/-- `naturalSort` of the names, for `localeCompare` -/
def sortByName {α : Type} (localeCompare : String → String → Ordering) (name : α → String)
    (rows : List α) : List α :=
  rows.insertionSort fun a b => localeCompare (name a) (name b) ≠ .gt

theorem perm_sortByName {α : Type} (localeCompare : String → String → Ordering)
    (name : α → String) (rows : List α) : (sortByName localeCompare name rows).Perm rows :=
  List.perm_insertionSort _ rows

/-- The place at which `splice` begins -/
def spliceStart (start : Int) (length : Nat) : Nat :=
  if start < 0 then (length + start).toNat else min start.toNat length

/-- `rows.splice(start, 1)` -/
def spliceOne {α : Type} (start : Int) (rows : List α) : List α :=
  rows.eraseIdx (spliceStart start rows.length)

/-- `findIndex` -/
def findIndex {α : Type} (p : α → Bool) (rows : List α) : Int :=
  match rows.findIdx? p with
  | some i => i
  | none => -1

/-! ## Requests -/

/-- The methods of `RulesService`, with what their handlers on the page have captured -/
inductive Call where
  | getRules (ruleSet : Ref) (ruleSetId : String)
  | createRule (ruleSetId ruleName : String)
  | uploadRuleFile (ruleSetId : String)
  | deleteRule (rule : Rule) (index : Int)
deriving DecidableEq, Repr

def Call.isGetRules : Call → Bool
  | .getRules .. => true
  | _ => false

inductive Response where
  | rules (rules : List Rule)
  | rule (rule : Rule)
  | success
  | error
deriving DecidableEq, Repr

/-- What a request has done to the stored rules, and what is answered -/
structure Effect where
  change : Change Rule
  response : Response
deriving DecidableEq, Repr

/-- What becomes of a request on the server: it fails, or its handler runs, with the ids that
    are made for new rules, and with the pieces of an uploaded file up to one that is rejected. -/
inductive Outcome where
  | failed
  | read
  | created (id : String)
  | uploaded (pieces : List (String × String)) (rejected : Bool)
  | deleted
deriving DecidableEq, Repr

/-- `find({'rule_set_id': rule_set_id})` -/
def rulesOf (stored : List Rule) (ruleSetId : String) : List Rule :=
  stored.filter fun r => r.ruleSetId = ruleSetId

/-- `Rules.get`, `RulesCtrl.post`, `UploadRule.post` and `DeleteRule.delete` -/
def effect (stored : List Rule) : Call → Outcome → Option Effect
  | _, .failed => some ⟨⟨[], []⟩, .error⟩
  | .getRules _ ruleSetId, .read => some ⟨⟨[], []⟩, .rules (rulesOf stored ruleSetId)⟩
  | .createRule ruleSetId ruleName, .created id =>
      let rule : Rule := ⟨id, ruleName, ruleSetId⟩
      some ⟨⟨[rule], []⟩, .rule rule⟩
  | .uploadRuleFile ruleSetId, .uploaded pieces rejected =>
      let rules := pieces.map fun piece => (⟨piece.1, piece.2, ruleSetId⟩ : Rule)
      -- what was stored before a piece is rejected stays so
      some ⟨⟨rules, []⟩, if rejected ∨ rules = [] then .error else .rules rules⟩
  | .deleteRule rule _, .deleted =>
      match stored.find? fun r => r.id = rule.id with
      | some r => some ⟨⟨[], [r]⟩, .success⟩
      | none => some ⟨⟨[], []⟩, .error⟩
  | _, _ => none

/-- A request under way -/
structure Request where
  call : Call
  /-- whether the component that sent it is still there -/
  subscribed : Bool
deriving DecidableEq, Repr

/-- `untilDestroyed`, when the dialog that adds rules is destroyed -/
def Request.unsubscribe (request : Request) : Request :=
  match request.call with
  | .createRule .. => { request with subscribed := false }
  | _ => request

/-- A request that the server has answered -/
structure Answer where
  request : Request
  effect : Effect
  received : Bool
deriving DecidableEq, Repr

/-! ## The system -/

/-- The dialogs of the page -/
inductive Dialog where
  | addRule (ruleSet : Ref)
  | uploadRules (ruleSet : Ref)
  | deleteRule (rule : Rule) (ruleSet : Ref)
deriving DecidableEq, Repr

structure System where
  /-- `mongo_rule()`, and all rules that were ever in it -/
  stored : List Rule
  created : List Rule
  ruleSets : Heap RuleSet
  arrays : Heap (List Rule)
  /-- `rule_sets_data_source.data` -/
  ruleSetsData : List Ref
  /-- `rules_visible_` -/
  rulesVisible : List Bool
  /-- `rules_data_source.data` -/
  rulesData : Ref
  dialog : Option Dialog
  requests : List Request
  /-- in the order in which the server made them -/
  answers : List Answer

inductive PageEvent where
  /-- `api_get_rule_sets_` is answered -/
  | ruleSets (response : List RuleSetInterface)
  | getRules (ruleSet : Ref)
  | addRule (ruleSet : Ref)
  /-- a rule is saved in the dialog -/
  | save (ruleName : String)
  | uploadRulesFile (ruleSet : Ref)
  | deleteRule (rule : Rule) (ruleSet : Ref)
  /-- the dialog is closed, with the button that confirms or otherwise -/
  | closed (confirmed : Bool)
  /-- the server deals with a request -/
  | answer (i : Nat) (outcome : Outcome)
  /-- an answer is lost on its way, and an error comes in its place -/
  | lose (i : Nat)
  /-- the page gets an answer -/
  | receive (i : Nat)

namespace System

variable (s : System)

/-- The ids of the rule sets that are shown -/
def ids : List String := s.ruleSetsData.filterMap fun ref => (s.ruleSets.get? ref).map RuleSet.id

/-- `rules_visible`, for `get_rule_set_index_` -/
def isVisible (id : String) : Bool := s.rulesVisible.getD (s.ids.idxOf id) false

/-- The rule set that is opened -/
def opened : Option String := s.ids.find? s.isVisible

/-- The rows of the table -/
def rules : List Rule := (s.arrays.get? s.rulesData).getD []

/-- The handler of `api_get_rule_sets_` -/
def onRuleSets (localeCompare : String → String → Ordering) (response : List RuleSetInterface) :
    System :=
  let ruleSets := sortByName localeCompare RuleSetInterface.name response
  { s with
    rulesVisible := List.replicate response.length false
    arrays := ruleSets.foldl (fun arrays ruleSet => arrays.make (ruleSet.rules.getD [])) s.arrays
    ruleSets := (ruleSets.zipIdx s.arrays.next).foldl
      (fun heap (ruleSet, array) => heap.make ⟨ruleSet.id, ruleSet.name, some array⟩) s.ruleSets
    ruleSetsData := List.range' s.ruleSets.next ruleSets.length }

def send (call : Call) : System := { s with requests := s.requests ++ [⟨call, true⟩] }

/-- `get_rules` -/
def getRules (ref : Ref) (ruleSet : RuleSet) : System :=
  send { s with
    rulesVisible := (List.replicate s.ruleSetsData.length false).set (s.ids.idxOf ruleSet.id)
      (!s.isVisible ruleSet.id)
    ruleSets := s.ruleSetsData.foldl
      (fun heap ref => heap.modify ref fun ruleSet => { ruleSet with rules := none }) s.ruleSets }
    (.getRules ref ruleSet.id)

/-- The dialog to add a rule is destroyed, and with it what it has subscribed to. -/
def unsubscribe : System :=
  { s with
    dialog := none
    requests := s.requests.map Request.unsubscribe
    answers := s.answers.map fun a => { a with request := a.request.unsubscribe } }

/-- The end of `delete_rule_confirm_dialog` -/
def confirmDeleteRule (rule : Rule) (ref : Ref) : System :=
  match (s.ruleSets.get? ref).bind RuleSet.rules with
  | some array =>
      let rules := (s.arrays.get? array).getD []
      s.send (.deleteRule rule (findIndex (fun r => r.id = rule.id) rules))
  -- `findIndex` of `null`
  | none => s

/-- A dialog is closed -/
def onClosed (confirmed : Bool) : Dialog → System
  | .addRule _ => s.unsubscribe
  | .uploadRules ref =>
      match confirmed, s.ruleSets.get? ref with
      | true, some ruleSet => send { s with dialog := none } (.uploadRuleFile ruleSet.id)
      | _, _ => { s with dialog := none }
  | .deleteRule rule ref =>
      if confirmed then confirmDeleteRule { s with dialog := none } rule ref
      else { s with dialog := none }

/-- The server deals with a request. -/
def onAnswer (i : Nat) (request : Request) (effect : Effect) : System :=
  { s with
    stored := (s.stored.filter fun r => r ∉ effect.change.removed) ++ effect.change.added
    created := s.created ++ effect.change.added
    requests := s.requests.eraseIdx i
    answers := s.answers ++ [⟨request, effect, false⟩] }

/-- The handler of `api_get_rules_` -/
def onRules (localeCompare : String → String → Ordering) (ref : Ref) (response : List Rule) :
    System :=
  { s with
    ruleSets := s.ruleSets.modify ref fun ruleSet => { ruleSet with rules := some s.arrays.next }
    arrays := s.arrays.make (sortByName localeCompare Rule.ruleName response)
    rulesData := s.arrays.next }

/-- The handlers of `api_create_rule_` and, when its dialog is closed, of `add_rule` -/
def onCreated (localeCompare : String → String → Ordering) (response : Rule) : System :=
  unsubscribe { s with
    arrays := s.arrays.modify s.rulesData fun rules =>
      sortByName localeCompare Rule.ruleName (rules ++ [response]) }

/-- The handler of `api_upload_rule_file_` -/
def onUploaded (response : List Rule) : System :=
  { s with arrays := s.arrays.make (s.rules ++ response), rulesData := s.arrays.next }

/-- The handler of `api_delete_rule_` -/
def onDeleted (index : Int) : System :=
  { s with arrays := s.arrays.make (spliceOne index s.rules), rulesData := s.arrays.next }

/-- The handlers of the responses; those of errors show a message. -/
def onResponse (localeCompare : String → String → Ordering) : Call → Response → System
  | .getRules ref _, .rules response => s.onRules localeCompare ref response
  | .createRule .., .rule response => s.onCreated localeCompare response
  | .uploadRuleFile _, .rule response => s.onUploaded [response]
  | .uploadRuleFile _, .rules response => s.onUploaded response
  | .deleteRule _ index, .success => s.onDeleted index
  | _, _ => s

/-- The answer is at the page. -/
def mark (i : Nat) (a : Answer) : System :=
  { s with answers := s.answers.set i { a with received := true } }

/-- The page gets an answer, and has a handler for it as long as it is subscribed. -/
def receive (localeCompare : String → String → Ordering) (i : Nat) (a : Answer) : System :=
  if a.request.subscribed then
    (s.mark i a).onResponse localeCompare a.request.call a.effect.response
  else s.mark i a

/-- An error instead of the answer -/
def lose (i : Nat) (a : Answer) : System :=
  { s with answers := s.answers.set i { a with effect := { a.effect with response := .error } } }

/-- The event, if it may happen; while a dialog is open, nothing else on the page is clicked. -/
def step (localeCompare : String → String → Ordering) (s : System) : PageEvent → Option System
  | .ruleSets response => some (s.onRuleSets localeCompare response)
  | .getRules ref =>
      match s.dialog, s.ruleSets.get? ref with
      | none, some ruleSet => if ref ∈ s.ruleSetsData then some (s.getRules ref ruleSet) else none
      | _, _ => none
  | .addRule ref =>
      match s.dialog, s.ruleSets.get? ref with
      | none, some ruleSet =>
          if ref ∈ s.ruleSetsData ∧ s.isVisible ruleSet.id = true then
            some { s with dialog := some (.addRule ref) }
          else none
      | _, _ => none
  | .save ruleName =>
      match s.dialog with
      | some (.addRule ref) =>
          (s.ruleSets.get? ref).map fun ruleSet => s.send (.createRule ruleSet.id ruleName)
      | _ => none
  | .uploadRulesFile ref =>
      if s.dialog = none ∧ ref ∈ s.ruleSetsData then
        some { s with dialog := some (.uploadRules ref) }
      else none
  | .deleteRule rule ref =>
      match s.dialog, s.ruleSets.get? ref with
      | none, some ruleSet =>
          if ref ∈ s.ruleSetsData ∧ s.isVisible ruleSet.id = true ∧ rule ∈ s.rules then
            some { s with dialog := some (.deleteRule rule ref) }
          else none
      | _, _ => none
  | .closed confirmed => s.dialog.map (s.onClosed confirmed)
  | .answer i outcome =>
      match s.requests[i]? with
      | some request =>
          match effect s.stored request.call outcome with
          | some effect =>
              -- ids are not given twice
              if ((s.created ++ effect.change.added).map Rule.id).Nodup then
                some (s.onAnswer i request effect)
              else none
          | none => none
      | none => none
  | .lose i =>
      match s.answers[i]? with
      | some a => if a.received then none else some (s.lose i a)
      | none => none
  | .receive i =>
      match s.answers[i]? with
      | some a => if a.received then none else some (s.receive localeCompare i a)
      | none => none

/-- The page has been opened, and nothing is on it yet. -/
structure Started : Prop where
  stored : (s.stored.map Rule.id).Nodup
  created : s.created = s.stored
  arrays : s.arrays.get? s.rulesData = some []
  ruleSetsData : s.ruleSetsData = []
  rulesVisible : s.rulesVisible = []
  dialog : s.dialog = none
  requests : s.requests = []
  answers : s.answers = []

/-- All responses have arrived. -/
def Quiet : Prop := s.requests = [] ∧ ∀ a ∈ s.answers, a.received = true

/-- Once all responses have arrived, the table has the stored rules of the opened rule set, each
    once. -/
def Shown : Prop :=
  s.Quiet → ∀ id, s.opened = some id →
    s.rules.Perm (rulesOf s.stored id) ∧ (s.rules.map Rule.id).Nodup

end System

/-- A successful deletion takes out the row of the rule and no other, and a request that fails
    leaves the table as it was. -/
def Exact (localeCompare : String → String → Ordering) (s : System) : PageEvent → Prop
  | .receive i => ∀ a, s.answers[i]? = some a →
      (∀ rule index, a.request.call = .deleteRule rule index → a.effect.response = .success →
        (s.receive localeCompare i a).rules = s.rules.eraseP fun r => r.id = rule.id) ∧
      (a.effect.response = .error → (s.receive localeCompare i a).rules = s.rules)
  | _ => True

/-! ## The condition -/

/-- What the server did for a request in one rule set -/
def Answer.change (id : String) (a : Answer) : Change Rule :=
  a.effect.change.filter fun r => r.ruleSetId = id

namespace System

variable (s : System)

/-- Rules are being read. -/
def reading : Bool :=
  s.requests.any (fun request => request.call.isGetRules) ||
    s.answers.any fun a => !a.received && a.request.call.isGetRules

/-- What the server did in a rule set, and the page has not got yet -/
def pending (id : String) : List (Change Rule) :=
  (s.answers.filter fun a => !a.received).map (Answer.change id)

/-- The table has the rules of the rule set, but for what is on its way. -/
def UpToDate (id : String) : Prop :=
  Change.UpTo (s.pending id) s.rules (rulesOf s.stored id)

/-- What the server did in the rule set before it made the answer has arrived, and what it did
    afterwards has not. -/
def InOrder (i : Nat) (id : String) : Prop :=
  (∀ a ∈ s.answers.take i, a.received = false → (a.change id).Empty) ∧
    ∀ a ∈ s.answers.drop (i + 1), a.received = true → (a.change id).Empty

instance (i : Nat) (id : String) : Decidable (s.InOrder i id) :=
  inferInstanceAs (Decidable (_ ∧ _))

/-- The place at which the deletion takes a row out is that of the rule, or behind the table if
    the rule has no row. -/
def AtPlace (rule : Rule) (index : Int) : Prop :=
  spliceStart index s.rules.length = s.rules.findIdx fun r => r.id = rule.id

instance (rule : Rule) (index : Int) : Decidable (s.AtPlace rule index) :=
  inferInstanceAs (Decidable (_ = _))

/-- The answer does to the table what the request did in the rule set. -/
def Reaches (i : Nat) (a : Answer) (id : String) : Prop :=
  match a.request.call, a.effect.response with
  | .getRules _ ruleSetId, .rules _ => ruleSetId = id ∧ s.InOrder i id
  | .getRules .., _ => s.UpToDate id
  | .uploadRuleFile ruleSetId, .rules _ => ruleSetId = id
  | .createRule .., .rule _ => a.request.subscribed = true ∨ (a.change id).Empty
  | .deleteRule .., .success => ∀ r ∈ a.effect.change.removed, r.ruleSetId = id → r ∈ s.rules
  | _, _ => (a.change id).Empty

end System

/-- A deletion takes the row out at its place.  And unless other rules are still being read, the
    answer is for the opened rule set: its rules are the last that are received, in the order in
    which the server made the answers, and without an error unless the table has them; rules
    that are uploaded belong to it, and so does what is left of a request that fails or is no
    longer waited for; and a rule of it that is deleted has a row. -/
def InStep (s : System) : PageEvent → Prop
  | .receive i => ∀ a, s.answers[i]? = some a →
      (∀ rule index, a.request.call = .deleteRule rule index → a.effect.response = .success →
        s.AtPlace rule index) ∧
      ((s.mark i a).reading = false → ∀ id, s.opened = some id → s.Reaches i a id)
  | _ => True

/-! ## What the server has done -/

/-- What `effect` comes to -/
inductive Served (stored : List Rule) : Call → Effect → Prop where
  | failed (call : Call) : Served stored call ⟨⟨[], []⟩, .error⟩
  | read (ref : Ref) (ruleSetId : String) :
      Served stored (.getRules ref ruleSetId) ⟨⟨[], []⟩, .rules (rulesOf stored ruleSetId)⟩
  | created (rule : Rule) :
      Served stored (.createRule rule.ruleSetId rule.ruleName) ⟨⟨[rule], []⟩, .rule rule⟩
  | uploaded {ruleSetId : String} {rules : List Rule} {response : Response}
      (hrules : ∀ r ∈ rules, r.ruleSetId = ruleSetId)
      (hresponse : response = .rules rules ∨ response = .error) :
      Served stored (.uploadRuleFile ruleSetId) ⟨⟨rules, []⟩, response⟩
  | deleted {rule r : Rule} (index : Int) (hr : r ∈ stored) (hid : r.id = rule.id) :
      Served stored (.deleteRule rule index) ⟨⟨[], [r]⟩, .success⟩

theorem served_of_effect {stored : List Rule} {call : Call} {outcome : Outcome} {e : Effect}
    (h : effect stored call outcome = some e) : Served stored call e := by
  cases outcome with
  | failed =>
      rw [effect] at h
      cases h
      exact .failed call
  | read =>
      cases call with
      | getRules ref ruleSetId =>
          cases h
          exact .read ref ruleSetId
      | _ => cases h
  | created id =>
      cases call with
      | createRule ruleSetId ruleName =>
          cases h
          exact .created ⟨id, ruleName, ruleSetId⟩
      | _ => cases h
  | uploaded pieces rejected =>
      cases call with
      | uploadRuleFile ruleSetId =>
          cases h
          apply Served.uploaded
          · intro r hr
            obtain ⟨piece, -, rfl⟩ := List.mem_map.mp hr
            rfl
          · split
            · exact Or.inr rfl
            · exact Or.inl rfl
      | _ => cases h
  | deleted =>
      cases call with
      | deleteRule rule index =>
          rw [effect] at h
          cases hfind : stored.find? fun r => r.id = rule.id with
          | some r =>
              rw [hfind] at h
              cases h
              have hid := List.find?_some hfind
              exact .deleted index (List.mem_of_find?_eq_some hfind) (of_decide_eq_true hid)
          | none =>
              rw [hfind] at h
              cases h
              exact .failed _
      | _ => cases h

/-- The rules that an answer brings to the page, or that are deleted for it -/
def Answer.rules (a : Answer) : List Rule :=
  a.effect.change.removed ++
    match a.effect.response with
    | .rules rules => rules
    | .rule rule => [rule]
    | _ => []

/-- The answer is one that the server makes, or an error in its place. -/
def Answer.Sound (a : Answer) : Prop :=
  ∃ stored e, Served stored a.request.call e ∧ a.effect.change = e.change ∧
    (a.effect.response = e.response ∨ a.effect.response = .error)

/-- The one answer is the other, later on. -/
structure Answer.Follows (a a' : Answer) : Prop where
  call : a'.request.call = a.request.call
  change : a'.effect.change = a.effect.change
  response : a'.effect.response = a.effect.response ∨ a'.effect.response = .error

theorem Answer.Follows.rfl {a : Answer} : a.Follows a := ⟨Eq.refl _, Eq.refl _, .inl (Eq.refl _)⟩

theorem Answer.Sound.of_follows {a a' : Answer} (ha : a.Sound) (h : a.Follows a') : a'.Sound := by
  obtain ⟨stored, e, hserved, hchange, hresponse⟩ := ha
  refine ⟨stored, e, ?_, h.change.trans hchange, ?_⟩
  · rw [h.call]
    exact hserved
  · rcases h.response with heq | herror
    · rw [heq]
      exact hresponse
    · exact Or.inr herror

theorem Answer.Follows.mem_rules {a a' : Answer} (h : a.Follows a') {r : Rule}
    (hr : r ∈ a'.rules) : r ∈ a.rules := by
  rw [Answer.rules, h.change] at hr
  rcases h.response with heq | herror
  · rw [heq] at hr
    exact hr
  · rw [herror, List.append_nil] at hr
    exact List.mem_append_left _ hr

/-- The answers are the same, later on. -/
abbrev Later : List Answer → List Answer → Prop := List.Forall₂ Answer.Follows

theorem later_refl (answers : List Answer) : Later answers answers :=
  List.forall₂_same.mpr fun _ _ => Answer.Follows.rfl

theorem forall₂_set {α : Type} {R : α → α → Prop} (hrefl : ∀ a, R a a) {l : List α} {i : Nat}
    {a a' : α} (ha : l[i]? = some a) (h : R a a') : List.Forall₂ R l (l.set i a') := by
  induction l generalizing i with
  | nil => cases ha
  | cons b l ih =>
      cases i with
      | zero =>
          cases ha
          exact .cons h (List.forall₂_same.mpr fun b _ => hrefl b)
      | succ i => exact .cons (hrefl b) (ih ha)

theorem Later.getElem? {answers answers' : List Answer} (h : Later answers answers') {i : Nat}
    {a' : Answer} (ha : answers'[i]? = some a') : ∃ a, answers[i]? = some a ∧ a.Follows a' := by
  induction h generalizing i with
  | nil => cases ha
  | @cons b b' l l' hb _ ih =>
      cases i with
      | zero =>
          cases ha
          exact ⟨b, rfl, hb⟩
      | succ i => exact ih ha

theorem Later.mem {answers answers' : List Answer} (h : Later answers answers') {a' : Answer}
    (ha : a' ∈ answers') : ∃ a ∈ answers, a.Follows a' := by
  obtain ⟨i, hi⟩ := List.getElem?_of_mem ha
  obtain ⟨a, ha, hfollows⟩ := h.getElem? hi
  exact ⟨a, List.mem_of_getElem? ha, hfollows⟩

/-- The answers are the same, and those that have arrived are the same ones. -/
abbrev Still : List Answer → List Answer → Prop :=
  List.Forall₂ fun a a' => a.Follows a' ∧ a'.received = a.received

theorem Still.later {answers answers' : List Answer} (h : Still answers answers') :
    Later answers answers' :=
  h.imp fun _ _ => And.left

theorem Still.map_change {answers answers' : List Answer} (h : Still answers answers')
    (id : String) : (answers'.filter fun a => !a.received).map (Answer.change id) =
      (answers.filter fun a => !a.received).map (Answer.change id) := by
  induction h with
  | nil => rfl
  | @cons a a' l l' ha _ ih =>
      rw [List.filter_cons, List.filter_cons, ha.2]
      split
      · rw [List.map_cons, List.map_cons, ih, Answer.change, ha.1.change, Answer.change]
      · exact ih

theorem Still.any_isGetRules {answers answers' : List Answer} (h : Still answers answers') :
    (answers'.any fun a => !a.received && a.request.call.isGetRules) =
      answers.any fun a => !a.received && a.request.call.isGetRules := by
  induction h with
  | nil => rfl
  | cons ha _ ih => rw [List.any_cons, List.any_cons, ih, ha.2, ha.1.call]

theorem Later.map_change {answers answers' : List Answer} (h : Later answers answers')
    (id : String) : answers'.map (Answer.change id) = answers.map (Answer.change id) := by
  induction h with
  | nil => rfl
  | cons hb _ ih => rw [List.map_cons, List.map_cons, ih, Answer.change, hb.change, Answer.change]

namespace System

variable {s t : System}

/-- What is stored, and what is in the answers: the rules that an answer brings are those that
    are stored now, up to what the server did after it. -/
structure Logged (s : System) : Prop where
  created : (s.created.map Rule.id).Nodup
  stored : s.stored.Nodup
  stored_created : ∀ r ∈ s.stored, r ∈ s.created
  sound : ∀ a ∈ s.answers, a.Sound
  known : ∀ a ∈ s.answers, ∀ r ∈ a.rules, r ∈ s.created
  reads : ∀ (i : Nat) a ref id rules, s.answers[i]? = some a →
    a.request.call = .getRules ref id → a.effect.response = .rules rules →
    Change.UpTo ((s.answers.drop (i + 1)).map (Answer.change id)) rules (rulesOf s.stored id)

theorem Logged.of_later (hs : s.Logged) (hstored : t.stored = s.stored)
    (hcreated : t.created = s.created) (hlater : Later s.answers t.answers) : t.Logged := by
  constructor
  case created => exact hcreated ▸ hs.created
  case stored => exact hstored ▸ hs.stored
  case stored_created =>
    rw [hstored, hcreated]
    exact hs.stored_created
  case sound =>
    intro a' ha'
    obtain ⟨a, ha, hfollows⟩ := hlater.mem ha'
    exact (hs.sound a ha).of_follows hfollows
  case known =>
    intro a' ha' r hr
    obtain ⟨a, ha, hfollows⟩ := hlater.mem ha'
    rw [hcreated]
    exact hs.known a ha r (hfollows.mem_rules hr)
  case reads =>
    intro i a' ref id rules ha' hcall hresponse
    obtain ⟨a, ha, hfollows⟩ := hlater.getElem? ha'
    have hsame : a.effect.response = .rules rules := by
      rcases hfollows.response with heq | herror
      · rw [← heq, hresponse]
      · rw [herror] at hresponse
        cases hresponse
    have hdrop : Later (s.answers.drop (i + 1)) (t.answers.drop (i + 1)) :=
      List.forall₂_drop (i + 1) hlater
    rw [hdrop.map_change id, hstored]
    exact hs.reads i a ref id rules ha (hfollows.call ▸ hcall) hsame

/-- What the server takes out is stored, and what it puts in or answers is stored afterwards. -/
theorem removed_of_served {stored : List Rule} {call : Call} {e : Effect}
    (h : Served stored call e) :
    e.change.removed = [] ∨ ∃ r ∈ stored, e.change = ⟨[], [r]⟩ := by
  cases h with
  | deleted index hr hid => exact Or.inr ⟨_, hr, rfl⟩
  | _ => exact Or.inl rfl

theorem leads_onAnswer (hs : s.stored.Nodup) {request : Request} {e : Effect}
    (h : Served s.stored request.call e) (i : Nat) :
    e.change.Leads s.stored (s.onAnswer i request e).stored := by
  show (((s.stored.filter fun r => r ∉ e.change.removed) ++ e.change.added) ++
    e.change.removed).Perm (s.stored ++ e.change.added)
  rcases removed_of_served h with hremoved | ⟨r, hr, hchange⟩
  · have hfilter : (s.stored.filter fun r => r ∉ e.change.removed) = s.stored := by
      rw [hremoved]
      simp
    rw [hfilter, hremoved, List.append_nil]
  · rw [hchange]
    have hfilter : (s.stored.filter fun r' => r' ∉ [r]) = s.stored.erase r := by
      rw [hs.erase_eq_filter]
      apply List.filter_congr
      intro r' _
      by_cases hr' : r' = r <;> simp [hr']
    rw [hfilter, List.append_nil, List.append_nil]
    exact (List.perm_append_singleton r _).trans (List.perm_cons_erase hr).symm

/-- The rules of an answer are stored already, or are stored for it. -/
theorem known_of_served {stored : List Rule} {request : Request} {e : Effect}
    (h : Served stored request.call e) {r : Rule} (hr : r ∈ Answer.rules ⟨request, e, false⟩) :
    r ∈ stored ++ e.change.added := by
  rw [Answer.rules] at hr
  generalize hcall : request.call = call at h
  cases h with
  | failed => cases hr
  | read =>
      rw [List.nil_append] at hr
      exact List.mem_append_left _ (List.mem_of_mem_filter hr)
  | created => exact List.mem_append_right _ hr
  | uploaded _ hresponse =>
      rcases hresponse with rfl | rfl
      · exact List.mem_append_right _ hr
      · cases hr
  | deleted index hstored hid =>
      rw [List.append_nil, List.mem_singleton] at hr
      rw [hr]
      exact List.mem_append_left _ hstored

/-- The rules that are read are those that are stored at that time. -/
theorem rules_of_served {stored : List Rule} {call : Call} {e : Effect} (h : Served stored call e)
    {ref : Ref} {id : String} {rules : List Rule} (hcall : call = .getRules ref id)
    (hresponse : e.response = .rules rules) : rules = rulesOf stored id ∧ e.change = ⟨[], []⟩ := by
  cases h with
  | read =>
      cases hcall
      cases hresponse
      exact ⟨rfl, rfl⟩
  | failed => cases hresponse
  | _ => cases hcall

theorem Logged.onAnswer (hs : s.Logged) {request : Request} {e : Effect} (i : Nat)
    (h : Served s.stored request.call e)
    (hnew : ((s.created ++ e.change.added).map Rule.id).Nodup) :
    (s.onAnswer i request e).Logged := by
  have hdisjoint := List.disjoint_of_nodup_append (hnew.of_map Rule.id)
  have hleads := leads_onAnswer hs.stored h i
  constructor
  case created => exact hnew
  case stored =>
    apply List.Nodup.append (hs.stored.filter _)
    · exact (List.Nodup.of_map Rule.id hnew).of_append_right
    · intro r hr hadded
      exact hdisjoint (hs.stored_created r (List.mem_of_mem_filter hr)) hadded
  case stored_created =>
    intro r hr
    rcases List.mem_append.mp hr with hr | hr
    · exact List.mem_append_left _ (hs.stored_created r (List.mem_of_mem_filter hr))
    · exact List.mem_append_right _ hr
  case sound =>
    intro a ha
    rcases List.mem_append.mp ha with ha | ha
    · exact hs.sound a ha
    · rw [List.mem_singleton.mp ha]
      exact ⟨s.stored, e, h, rfl, Or.inl rfl⟩
  case known =>
    intro a ha r hr
    rcases List.mem_append.mp ha with ha | ha
    · exact List.mem_append_left _ (hs.known a ha r hr)
    · rw [List.mem_singleton.mp ha] at hr
      rcases List.mem_append.mp (known_of_served h hr) with hr | hr
      · exact List.mem_append_left _ (hs.stored_created r hr)
      · exact List.mem_append_right _ hr
  case reads =>
    intro j a ref id rules ha hcall hresponse
    have hchange := hleads.filter fun r => decide (r.ruleSetId = id)
    change (s.answers ++ [_])[j]? = some a at ha
    rcases Nat.lt_or_ge j s.answers.length with hj | hj
    · rw [List.getElem?_append_left hj] at ha
      have hdrop : ((s.onAnswer i request e).answers.drop (j + 1)).map (Answer.change id) =
          (s.answers.drop (j + 1)).map (Answer.change id) ++
            [Answer.change id ⟨request, e, false⟩] := by
        rw [System.onAnswer, List.drop_append_of_le_length hj, List.map_append]
        rfl
      rw [hdrop]
      exact (hs.reads j a ref id rules ha hcall hresponse).change hchange
    · -- the new answer, with nothing after it
      rw [List.getElem?_append_right hj] at ha
      obtain ⟨hj', rfl⟩ : j - s.answers.length = 0 ∧ _ = a := by
        cases hk : j - s.answers.length with
        | zero =>
            rw [hk] at ha
            exact ⟨rfl, Option.some.inj ha⟩
        | succ k =>
            rw [hk] at ha
            cases ha
      obtain ⟨hrules, hempty⟩ := rules_of_served h hcall hresponse
      have hdrop : (s.onAnswer i request e).answers.drop (j + 1) = [] := by
        apply List.drop_eq_nil_of_le
        rw [System.onAnswer, List.length_append, List.length_singleton]
        omega
      have hstored : (s.onAnswer i request e).stored = s.stored := by
        rw [System.onAnswer, hempty]
        simp
      rw [hdrop, hstored, hrules]
      exact Change.UpTo.refl _

/-! ## The page -/

/-- A request that is sent is waited for, unless it stores a rule: that one only while the dialog
    is open that it was sent from, which is one of the opened rule set if any is opened. -/
def Sent (s : System) (request : Request) : Prop :=
  match request.call with
  | .createRule ruleSetId _ => request.subscribed = true →
      (∃ ref, s.dialog = some (.addRule ref)) ∧ ∀ id, s.opened = some id → id = ruleSetId
  | _ => request.subscribed = true

/-- At most one rule set is opened, the dialog that adds rules is one of it, and unless rules are
    being read, the table has its rules but for what is on its way. -/
structure Inv (s : System) : Prop where
  logged : s.Logged
  rules : ∀ r ∈ s.rules, r ∈ s.created
  array : s.rulesData < s.arrays.size
  visible : ∀ j k, s.rulesVisible.getD j false = true → s.rulesVisible.getD k false = true → j = k
  requests : ∀ request ∈ s.requests, s.Sent request
  answers : ∀ a ∈ s.answers, s.Sent a.request
  editor : ∀ ref, s.dialog = some (.addRule ref) → ∃ ruleSet, s.ruleSets.get? ref = some ruleSet ∧
    ∀ id, s.opened = some id → id = ruleSet.id
  upToDate : s.reading = false → ∀ id, s.opened = some id → s.UpToDate id

theorem Inv.get?_rulesData (hs : s.Inv) : s.arrays.get? s.rulesData = some s.rules := by
  cases hget : s.arrays.get? s.rulesData with
  | none => exact absurd hs.array (Nat.not_lt.mpr (Heap.get?_eq_none_iff.mp hget))
  | some rows => rw [System.rules, hget, Option.getD_some]

theorem Sent.of_eq {request : Request} (h : s.Sent request) (hdialog : t.dialog = s.dialog)
    (hopened : t.opened = s.opened) : t.Sent request := by
  unfold Sent at h ⊢
  rw [hdialog, hopened]
  exact h

/-- No request that stores a rule is waited for without its dialog. -/
theorem Sent.of_no_editor {request : Request} (h : s.Sent request)
    (hdialog : ∀ ref, s.dialog ≠ some (.addRule ref)) : t.Sent request := by
  unfold Sent at h ⊢
  cases hcall : request.call with
  | createRule ruleSetId ruleName =>
      rw [hcall] at h
      intro hsubscribed
      obtain ⟨⟨ref, href⟩, -⟩ := h hsubscribed
      exact absurd href (hdialog ref)
  | _ =>
      rw [hcall] at h
      exact h

theorem sent_of_subscribed {call : Call} (h : ∀ id name, call ≠ .createRule id name) :
    s.Sent ⟨call, true⟩ := by
  unfold Sent
  cases call with
  | createRule id name => exact absurd rfl (h id name)
  | _ => rfl

/-- A rule set that is shown as opened is the one that is. -/
theorem Inv.opened_of_visible (hs : s.Inv) {id : String} (hid : id ∈ s.ids)
    (h : s.isVisible id = true) : s.opened = some id := by
  cases hopened : s.opened with
  | none => exact absurd h (List.find?_eq_none.mp hopened id hid)
  | some id' =>
      have hvisible := List.find?_some hopened
      have hindex := hs.visible _ _ hvisible h
      rw [(List.idxOf_inj (List.mem_of_find?_eq_some hopened)).mp hindex]

theorem mem_ids {ref : Ref} {ruleSet : RuleSet} (href : ref ∈ s.ruleSetsData)
    (hget : s.ruleSets.get? ref = some ruleSet) : ruleSet.id ∈ s.ids := by
  apply List.mem_filterMap.mpr
  exact ⟨ref, href, congrArg (Option.map RuleSet.id) hget⟩

theorem upToDate_of_eq {id : String} (hstored : t.stored = s.stored) (hrules : t.rules = s.rules)
    (hpending : t.pending id = s.pending id) : t.UpToDate id ↔ s.UpToDate id := by
  rw [UpToDate, hstored, hrules, hpending, UpToDate]

/-! ## What an event changes -/

/-- The dialog changes, and no request that stores a rule is waited for. -/
theorem Inv.of_dialog (hs : s.Inv) (hdialog : ∀ ref, s.dialog ≠ some (.addRule ref))
    (dialog : Option Dialog) (heditor : ∀ ref, dialog = some (.addRule ref) →
      ∃ ruleSet, s.ruleSets.get? ref = some ruleSet ∧ ∀ id, s.opened = some id → id = ruleSet.id) :
    Inv { s with dialog } := by
  constructor
  case logged => exact hs.logged.of_later rfl rfl (later_refl _)
  case rules => exact hs.rules
  case array => exact hs.array
  case visible => exact hs.visible
  case requests => exact fun request h => (hs.requests request h).of_no_editor hdialog
  case answers => exact fun a ha => (hs.answers a ha).of_no_editor hdialog
  case editor => exact heditor
  case upToDate => exact hs.upToDate

theorem Inv.no_dialog (hs : s.Inv) (hdialog : ∀ ref, s.dialog ≠ some (.addRule ref)) :
    Inv { s with dialog := none } := by
  apply hs.of_dialog hdialog
  intro ref h
  cases h

/-- A request is sent. -/
theorem Inv.send (hs : s.Inv) {call : Call} (hcall : call.isGetRules = false)
    (hsent : s.Sent ⟨call, true⟩) : (s.send call).Inv := by
  have hreading : (s.send call).reading = s.reading := by
    rw [reading, System.send, List.any_append, List.any_cons, List.any_nil, hcall, Bool.or_false,
      Bool.or_false]
    rfl
  constructor
  case logged => exact hs.logged.of_later rfl rfl (later_refl _)
  case rules => exact hs.rules
  case array => exact hs.array
  case visible => exact hs.visible
  case requests =>
    intro request h
    rcases List.mem_append.mp h with h | h
    · exact (hs.requests request h).of_eq rfl rfl
    · rw [List.mem_singleton.mp h]
      exact hsent.of_eq rfl rfl
  case answers => exact fun a ha => (hs.answers a ha).of_eq rfl rfl
  case editor => exact hs.editor
  case upToDate =>
    rw [hreading]
    exact hs.upToDate

theorem eq_of_getD_set {n i j : Nat} {b : Bool}
    (h : ((List.replicate n false).set i b).getD j false = true) : j = i := by
  by_contra hne
  rw [List.getD_eq_getElem?_getD, List.getElem?_set_ne (Ne.symm hne), List.getElem?_replicate] at h
  split at h <;> cases h

/-- Rules are being read once a rule set is opened. -/
theorem Inv.getRules (hs : s.Inv) (hdialog : s.dialog = none) (ref : Ref) (ruleSet : RuleSet) :
    (s.getRules ref ruleSet).Inv := by
  have hno : ∀ ref, s.dialog ≠ some (.addRule ref) := by
    rw [hdialog]
    intro ref h
    cases h
  constructor
  case logged => exact hs.logged.of_later rfl rfl (later_refl _)
  case rules => exact hs.rules
  case array => exact hs.array
  case visible =>
    intro j k hj hk
    exact (eq_of_getD_set hj).trans (eq_of_getD_set hk).symm
  case requests =>
    intro request h
    rcases List.mem_append.mp h with h | h
    · exact (hs.requests request h).of_no_editor hno
    · rw [List.mem_singleton.mp h]
      exact sent_of_subscribed fun _ _ => Call.noConfusion
  case answers => exact fun a ha => (hs.answers a ha).of_no_editor hno
  case editor => exact fun ref h => absurd h (hno ref)
  case upToDate =>
    intro hreading
    have htrue : (s.getRules ref ruleSet).reading = true := by
      rw [reading, System.getRules, System.send, List.any_append]
      simp [Call.isGetRules]
    exact absurd (htrue.symm.trans hreading) Bool.noConfusion

theorem size_foldl_make {α β : Type} (f : β → α) (bs : List β) (h : Heap α) :
    h.size ≤ (bs.foldl (fun h b => h.make (f b)) h).size ∧
      ∀ r < h.size, (bs.foldl (fun h b => h.make (f b)) h).get? r = h.get? r := by
  induction bs generalizing h with
  | nil => exact ⟨Nat.le_refl _, fun _ _ => rfl⟩
  | cons b bs ih =>
      obtain ⟨hsize, hget⟩ := ih (h.make (f b))
      rw [Heap.size_make] at hsize hget
      refine ⟨by rw [List.foldl_cons]; omega, fun r hr => ?_⟩
      rw [List.foldl_cons, hget r (by omega), Heap.get?_make_of_lt _ hr]

/-- No rule set is opened once the rule sets are loaded. -/
theorem Inv.onRuleSets (hs : s.Inv) (localeCompare : String → String → Ordering)
    (response : List RuleSetInterface) : (s.onRuleSets localeCompare response).Inv := by
  have harrays := size_foldl_make (fun ruleSet : RuleSetInterface => ruleSet.rules.getD [])
    (sortByName localeCompare RuleSetInterface.name response) s.arrays
  have hruleSets := size_foldl_make
    (fun ruleSet : RuleSetInterface × Nat =>
      (⟨ruleSet.1.id, ruleSet.1.name, some ruleSet.2⟩ : RuleSet))
    ((sortByName localeCompare RuleSetInterface.name response).zipIdx s.arrays.next) s.ruleSets
  have hfalse : ∀ j, (s.onRuleSets localeCompare response).rulesVisible.getD j false = false := by
    intro j
    show (List.replicate response.length false).getD j false = false
    rw [List.getD_eq_getElem?_getD, List.getElem?_replicate]
    split <;> rfl
  have hopened : (s.onRuleSets localeCompare response).opened = none := by
    apply List.find?_eq_none.mpr
    intro id _
    rw [isVisible, hfalse]
    exact Bool.false_ne_true
  have hsent : ∀ request, s.Sent request → (s.onRuleSets localeCompare response).Sent request := by
    intro request h
    unfold Sent at h ⊢
    cases hcall : request.call with
    | createRule ruleSetId ruleName =>
        rw [hcall] at h
        intro hsubscribed
        refine ⟨(h hsubscribed).1, ?_⟩
        rw [hopened]
        intro id h
        cases h
    | _ =>
        rw [hcall] at h
        exact h
  have hrules : (s.onRuleSets localeCompare response).rules = s.rules :=
    congrArg (Option.getD · []) (harrays.2 s.rulesData hs.array)
  constructor
  case logged => exact hs.logged.of_later rfl rfl (later_refl _)
  case rules =>
    rw [hrules]
    exact hs.rules
  case array => exact Nat.lt_of_lt_of_le hs.array harrays.1
  case visible =>
    intro j k hj _
    rw [hfalse] at hj
    cases hj
  case requests => exact fun request h => hsent request (hs.requests request h)
  case answers => exact fun a ha => hsent a.request (hs.answers a ha)
  case editor =>
    intro ref h
    obtain ⟨ruleSet, hget, -⟩ := hs.editor ref h
    refine ⟨ruleSet, (hruleSets.2 ref (Heap.lt_size_of_get? hget)).trans hget, ?_⟩
    rw [hopened]
    intro id h
    cases h
  case upToDate =>
    intro _ id h
    rw [hopened] at h
    cases h

/-! ### The dialog that adds rules is destroyed -/

theorem call_unsubscribe (request : Request) : request.unsubscribe.call = request.call := by
  unfold Request.unsubscribe
  split <;> rfl

theorem Sent.unsubscribe {request : Request} (h : s.Sent request) :
    t.Sent request.unsubscribe := by
  unfold Sent at h ⊢
  rw [call_unsubscribe]
  cases hcall : request.call with
  | createRule ruleSetId ruleName =>
      intro hsubscribed
      rw [Request.unsubscribe, hcall] at hsubscribed
      cases hsubscribed
  | _ =>
      rw [hcall] at h
      rw [Request.unsubscribe, hcall]
      exact h

theorem still_unsubscribe (s : System) : Still s.answers s.unsubscribe.answers := by
  apply List.forall₂_map_right_iff.mpr
  apply List.forall₂_same.mpr
  exact fun a _ => ⟨⟨call_unsubscribe a.request, rfl, Or.inl rfl⟩, rfl⟩

theorem reading_unsubscribe (s : System) : s.unsubscribe.reading = s.reading := by
  rw [reading, (still_unsubscribe s).any_isGetRules, System.unsubscribe, List.any_map, reading]
  simp [Function.comp_def, call_unsubscribe]

theorem Inv.unsubscribe (hs : s.Inv) : s.unsubscribe.Inv := by
  constructor
  case logged => exact hs.logged.of_later rfl rfl (still_unsubscribe s).later
  case rules => exact hs.rules
  case array => exact hs.array
  case visible => exact hs.visible
  case requests =>
    intro request h
    obtain ⟨request, hmem, rfl⟩ := List.mem_map.mp h
    exact (hs.requests request hmem).unsubscribe
  case answers =>
    intro a h
    obtain ⟨a, hmem, rfl⟩ := List.mem_map.mp h
    exact (hs.answers a hmem).unsubscribe
  case editor =>
    intro ref h
    cases h
  case upToDate =>
    rw [reading_unsubscribe]
    intro hreading id hid
    have hsame : s.unsubscribe.UpToDate id ↔ s.UpToDate id :=
      upToDate_of_eq rfl rfl ((still_unsubscribe s).map_change id)
    exact hsame.mpr (hs.upToDate hreading id hid)

theorem Inv.confirmDeleteRule (hs : s.Inv) (rule : Rule) (ref : Ref) :
    (s.confirmDeleteRule rule ref).Inv := by
  unfold System.confirmDeleteRule
  split
  · exact hs.send rfl (sent_of_subscribed fun _ _ => Call.noConfusion)
  · exact hs

theorem Inv.onClosed (hs : s.Inv) {dialog : Dialog} (hdialog : s.dialog = some dialog)
    (confirmed : Bool) : (s.onClosed confirmed dialog).Inv := by
  cases dialog with
  | addRule ref => exact hs.unsubscribe
  | uploadRules ref =>
      have hno : ∀ ref, s.dialog ≠ some (.addRule ref) := by
        rw [hdialog]
        intro ref h
        cases h
      unfold System.onClosed
      dsimp only
      split
      · exact (hs.no_dialog hno).send rfl (sent_of_subscribed fun _ _ => Call.noConfusion)
      · exact hs.no_dialog hno
  | deleteRule rule ref =>
      have hno : ∀ ref, s.dialog ≠ some (.addRule ref) := by
        rw [hdialog]
        intro ref h
        cases h
      unfold System.onClosed
      dsimp only
      split
      · exact (hs.no_dialog hno).confirmDeleteRule rule ref
      · exact hs.no_dialog hno

/-! ### The server answers, or an answer is lost -/

theorem Inv.onAnswer (hs : s.Inv) {i : Nat} {request : Request} {e : Effect}
    (hi : s.requests[i]? = some request) (h : Served s.stored request.call e)
    (hnew : ((s.created ++ e.change.added).map Rule.id).Nodup) :
    (s.onAnswer i request e).Inv := by
  have hreading : (s.onAnswer i request e).reading = false → s.reading = false := by
    intro hfalse
    rw [reading, Bool.or_eq_false_iff, List.any_eq_false, List.any_eq_false] at hfalse ⊢
    refine ⟨fun q hq => ?_, fun a ha => hfalse.2 a (List.mem_append_left _ ha)⟩
    obtain ⟨j, hj⟩ := List.getElem?_of_mem hq
    by_cases hji : j = i
    · -- the request that is answered: its answer is on the way
      subst hji
      rw [hi, Option.some.injEq] at hj
      rw [← hj]
      exact hfalse.2 ⟨request, e, false⟩ (List.mem_append_right _ List.mem_cons_self)
    · exact hfalse.1 q (List.mem_eraseIdx_iff_getElem?.mpr ⟨j, hji, hj⟩)
  have hpending : ∀ id, (s.onAnswer i request e).pending id =
      s.pending id ++ [Answer.change id ⟨request, e, false⟩] := by
    intro id
    rw [pending, System.onAnswer, List.filter_append, List.map_append]
    rfl
  constructor
  case logged => exact hs.logged.onAnswer i h hnew
  case rules => exact fun r hr => List.mem_append_left _ (hs.rules r hr)
  case array => exact hs.array
  case visible => exact hs.visible
  case requests =>
    exact fun q hq => (hs.requests q (List.mem_of_mem_eraseIdx hq)).of_eq rfl rfl
  case answers =>
    intro a ha
    rcases List.mem_append.mp ha with ha | ha
    · exact (hs.answers a ha).of_eq rfl rfl
    · rw [List.mem_singleton.mp ha]
      exact (hs.requests request (List.mem_of_getElem? hi)).of_eq rfl rfl
  case editor => exact hs.editor
  case upToDate =>
    intro hfalse id hid
    have hleads := (leads_onAnswer hs.logged.stored h i).filter fun r => decide (r.ruleSetId = id)
    rw [UpToDate, hpending]
    exact (hs.upToDate (hreading hfalse) id hid).change hleads

theorem Inv.lose (hs : s.Inv) {i : Nat} {a : Answer} (ha : s.answers[i]? = some a) :
    (s.lose i a).Inv := by
  have hstill : Still s.answers (s.lose i a).answers :=
    forall₂_set (fun _ => ⟨Answer.Follows.rfl, rfl⟩) ha ⟨⟨rfl, rfl, Or.inr rfl⟩, rfl⟩
  have hreading : (s.lose i a).reading = s.reading := by
    rw [reading, hstill.any_isGetRules]
    rfl
  constructor
  case logged => exact hs.logged.of_later rfl rfl hstill.later
  case rules => exact hs.rules
  case array => exact hs.array
  case visible => exact hs.visible
  case requests => exact fun request h => (hs.requests request h).of_eq rfl rfl
  case answers =>
    intro b hb
    rcases List.mem_or_eq_of_mem_set hb with hb | rfl
    · exact (hs.answers b hb).of_eq rfl rfl
    · exact (hs.answers a (List.mem_of_getElem? ha)).of_eq rfl rfl
  case editor => exact hs.editor
  case upToDate =>
    rw [hreading]
    intro hfalse id hid
    have hsame : (s.lose i a).UpToDate id ↔ s.UpToDate id :=
      upToDate_of_eq rfl rfl (hstill.map_change id)
    exact hsame.mpr (hs.upToDate hfalse id hid)

/-! ### An answer arrives -/

theorem any_of_forall₂ {α : Type} {p : α → Bool} {l l' : List α}
    (h : List.Forall₂ (fun a a' => p a' = p a) l l') : l'.any p = l.any p := by
  induction h with
  | nil => rfl
  | cons ha _ ih => rw [List.any_cons, List.any_cons, ha, ih]

section Arrival

variable {i : Nat} {a : Answer}

theorem later_mark (ha : s.answers[i]? = some a) : Later s.answers (s.mark i a).answers :=
  forall₂_set (fun _ => Answer.Follows.rfl) ha ⟨rfl, rfl, Or.inl rfl⟩

/-- One answer less is on its way. -/
theorem perm_pending_mark (ha : s.answers[i]? = some a) (hnot : a.received = false)
    (id : String) : (s.pending id).Perm (a.change id :: (s.mark i a).pending id) := by
  suffices hfilter : ∀ (l : List Answer) (i : Nat), l[i]? = some a →
      (l.filter fun a => !a.received).Perm
        (a :: (l.set i { a with received := true }).filter fun a => !a.received) by
    exact (hfilter s.answers i ha).map (Answer.change id)
  intro l
  induction l with
  | nil =>
      intro i h
      cases h
  | cons b l ih =>
      intro i h
      cases i with
      | zero =>
          cases h
          rw [List.set_cons_zero, List.filter_cons_of_pos (by rw [hnot]; rfl),
            List.filter_cons_of_neg (by simp)]
      | succ i =>
          have hrest := ih i h
          rw [List.set_cons_succ, List.filter_cons, List.filter_cons]
          split
          · exact (hrest.cons b).trans (List.Perm.swap a b _)
          · exact hrest

/-- An answer that brings no rules does not end the reading of rules. -/
theorem reading_mark (ha : s.answers[i]? = some a) (hcall : a.request.call.isGetRules = false) :
    (s.mark i a).reading = s.reading := by
  have hany : (s.mark i a).answers.any (fun a => !a.received && a.request.call.isGetRules) =
      s.answers.any fun a => !a.received && a.request.call.isGetRules := by
    apply any_of_forall₂
    apply forall₂_set (fun _ => by rfl) ha
    rw [hcall, Bool.and_false, Bool.and_false]
  rw [reading, hany]
  rfl

/-- Rules that are received in order are up to date but for what is on its way. -/
theorem upTo_of_inOrder (hs : s.Logged) (ha : s.answers[i]? = some a) {ref : Ref} {id : String}
    {rules : List Rule} (hcall : a.request.call = .getRules ref id)
    (hresponse : a.effect.response = .rules rules) (horder : s.InOrder i id) :
    Change.UpTo ((s.mark i a).pending id) rules (rulesOf s.stored id) := by
  have hlt : i < s.answers.length := (List.getElem?_eq_some_iff.mp ha).1
  have hanswers : (s.mark i a).answers =
      s.answers.take i ++ { a with received := true } :: s.answers.drop (i + 1) := by
    show s.answers.set i _ = _
    rw [List.set_eq_take_append_cons_drop, if_pos hlt]
  rw [pending, hanswers, List.filter_append, List.filter_cons_of_neg (by simp), List.map_append]
  apply (Change.upTo_append_of_empty ?_).mpr
  · apply (Change.upTo_filter ?_).mpr
    · exact hs.reads i a ref id rules ha hcall hresponse
    · intro b hb hreceived
      exact horder.2 b hb (by simpa using hreceived)
  · intro c hc
    obtain ⟨b, hb, rfl⟩ := List.mem_map.mp hc
    obtain ⟨hmem, hreceived⟩ := List.mem_filter.mp hb
    exact horder.1 b hmem (by simpa using hreceived)

/-- The table changes when an answer arrives. -/
theorem Inv.of_table (hs : s.Inv) (ha : s.answers[i]? = some a) {ruleSets : Heap RuleSet}
    {arrays : Heap (List Rule)} {rulesData : Ref} (hruleSets : ∀ ref,
      (ruleSets.get? ref).map RuleSet.id = (s.ruleSets.get? ref).map RuleSet.id)
    {rows : List Rule} (hrows : arrays.get? rulesData = some rows)
    (hcreated : ∀ r ∈ rows, r ∈ s.created)
    (hup : (s.mark i a).reading = false → ∀ id, s.opened = some id →
      Change.UpTo ((s.mark i a).pending id) rows (rulesOf s.stored id)) :
    Inv { s.mark i a with ruleSets, arrays, rulesData } := by
  have hrules : System.rules { s.mark i a with ruleSets, arrays, rulesData } = rows := by
    show (arrays.get? rulesData).getD [] = rows
    rw [hrows, Option.getD_some]
  have hids : System.ids { s.mark i a with ruleSets, arrays, rulesData } = s.ids := by
    show s.ruleSetsData.filterMap (fun ref => (ruleSets.get? ref).map RuleSet.id) = s.ids
    rw [funext hruleSets]
    rfl
  have hopened : System.opened { s.mark i a with ruleSets, arrays, rulesData } = s.opened := by
    unfold System.opened System.isVisible
    rw [hids]
    rfl
  constructor
  case logged => exact hs.logged.of_later rfl rfl (later_mark ha)
  case rules =>
    rw [hrules]
    exact hcreated
  case array => exact Heap.lt_size_of_get? hrows
  case visible => exact hs.visible
  case requests => exact fun request h => (hs.requests request h).of_eq rfl hopened
  case answers =>
    intro b hb
    rcases List.mem_or_eq_of_mem_set hb with hb | rfl
    · exact (hs.answers b hb).of_eq rfl hopened
    · exact (hs.answers a (List.mem_of_getElem? ha)).of_eq rfl hopened
  case editor =>
    intro ref h
    obtain ⟨ruleSet, hget, hid⟩ := hs.editor ref h
    have hsame := hruleSets ref
    rw [hget, Option.map_some, Option.map_eq_some_iff] at hsame
    obtain ⟨ruleSet', hget', hid'⟩ := hsame
    refine ⟨ruleSet', hget', ?_⟩
    rw [hopened, hid']
    exact hid
  case upToDate =>
    intro hreading id h
    rw [hopened] at h
    rw [UpToDate, hrules]
    exact hup hreading id h

end Arrival

theorem eraseIdx_findIdx {α : Type} (p : α → Bool) (l : List α) :
    l.eraseIdx (l.findIdx p) = l.eraseP p := by
  induction l with
  | nil => rfl
  | cons b l ih =>
      rw [List.findIdx_cons, List.eraseP_cons]
      cases p b with
      | true => rfl
      | false =>
          rw [cond_false, cond_false, List.eraseIdx_cons_succ, ih]

theorem spliceOne_of_atPlace {rule : Rule} {index : Int} (h : s.AtPlace rule index) :
    spliceOne index s.rules = s.rules.eraseP fun r => r.id = rule.id := by
  rw [spliceOne, h, eraseIdx_findIdx]

/-- The rows of a table that is up to date are rules of the rule set. -/
theorem ruleSetId_of_upToDate {id : String} (h : s.UpToDate id) {r : Rule} (hr : r ∈ s.rules) :
    r.ruleSetId = id := by
  have hmem := h.subset (List.mem_append_left _ hr)
  rcases List.mem_append.mp hmem with hmem | hmem
  · exact of_decide_eq_true (List.mem_filter.mp hmem).2
  · obtain ⟨c, hc, hr⟩ := List.mem_flatMap.mp hmem
    obtain ⟨a, -, rfl⟩ := List.mem_map.mp hc
    exact of_decide_eq_true (List.mem_filter.mp hr).2

/-- What a deletion takes out of a table that is up to date -/
theorem Inv.leads_deleted (hs : s.Inv) {id : String} (hup : s.UpToDate id) {rule r : Rule}
    {index : Int} (hplace : s.AtPlace rule index) (hid : r.id = rule.id) (hr : r ∈ s.created)
    (hrow : r.ruleSetId = id → r ∈ s.rules) :
    ((⟨[], [r]⟩ : Change Rule).filter fun r => r.ruleSetId = id).Leads s.rules
      (spliceOne index s.rules) := by
  rw [spliceOne_of_atPlace hplace]
  -- no other rule has the id
  have hunique : ∀ x ∈ s.rules, x.id = rule.id → x = r := by
    intro x hx hxid
    exact List.inj_on_of_nodup_map hs.logged.created (hs.rules x hx) hr (hxid.trans hid.symm)
  by_cases hset : r.ruleSetId = id
  · obtain ⟨x, l, l', -, hx, hl, herase⟩ :=
      List.exists_of_eraseP (p := fun x => decide (x.id = rule.id)) (hrow hset)
        (decide_eq_true hid)
    have hxr : x = r := by
      apply hunique x _ (of_decide_eq_true hx)
      rw [hl]
      exact List.mem_append_right _ List.mem_cons_self
    have hfilter : ([r].filter fun r => r.ruleSetId = id) = [r] :=
      List.filter_cons_of_pos (decide_eq_true hset)
    rw [Change.Leads, Change.filter]
    dsimp only
    rw [hfilter, herase, hl, hxr, List.filter_nil, List.append_nil]
    exact (List.perm_append_singleton r (l ++ l')).trans List.perm_middle.symm
  · rw [List.eraseP_of_forall_not]
    · apply Change.Empty.leads
      apply Change.empty_filter
      · exact fun x hx => absurd hx List.not_mem_nil
      · intro x hx
        rw [List.mem_singleton.mp hx]
        exact decide_eq_false hset
    · intro x hx hxid
      rw [hunique x hx (of_decide_eq_true hxid)] at hx
      exact hset (ruleSetId_of_upToDate hup hx)

/-- All that an answer puts in is of the rule set. -/
theorem leads_added {id : String} {rules rows rows' : List Rule}
    (hid : ∀ r ∈ rules, r.ruleSetId = id) (hrows : rows'.Perm (rows ++ rules)) :
    ((⟨rules, []⟩ : Change Rule).filter fun r => r.ruleSetId = id).Leads rows rows' := by
  have hall : (rules.filter fun r => r.ruleSetId = id) = rules :=
    List.filter_eq_self.mpr fun r hr => decide_eq_true (hid r hr)
  rw [Change.Leads, Change.filter, List.filter_nil, hall, List.append_nil]
  exact hrows

section Arrival

variable {i : Nat} {a : Answer} (localeCompare : String → String → Ordering)

/-- The page gets an answer that does not change its table. -/
theorem Inv.mark (hs : s.Inv) (ha : s.answers[i]? = some a) (hnot : a.received = false)
    (hup : (s.mark i a).reading = false → ∀ id, s.opened = some id → s.UpToDate id)
    (hempty : (s.mark i a).reading = false → ∀ id, s.opened = some id → (a.change id).Empty) :
    (s.mark i a).Inv := by
  apply hs.of_table ha (fun _ => rfl) hs.get?_rulesData hs.rules
  intro hreading id hid
  exact (hup hreading id hid).arrive (perm_pending_mark ha hnot id)
    ((hempty hreading id hid).leads s.rules)

/-- The rules of a rule set arrive. -/
theorem Inv.onRules (hs : s.Inv) (ha : s.answers[i]? = some a) {ref : Ref} {ruleSetId : String}
    {response : List Rule} (hcall : a.request.call = .getRules ref ruleSetId)
    (hresponse : a.effect.response = .rules response)
    (hin : (s.mark i a).reading = false → ∀ id, s.opened = some id →
      ruleSetId = id ∧ s.InOrder i id) :
    ((s.mark i a).onRules localeCompare ref response).Inv := by
  have hperm := perm_sortByName localeCompare Rule.ruleName response
  apply hs.of_table ha
  · intro ref'
    by_cases href : ref' = ref
    · subst href
      rw [Heap.get?_modify_self, Option.map_map]
      rfl
    · rw [Heap.get?_modify_of_ne _ href]
      rfl
  · exact Heap.get?_make_next _ _
  · intro r hr
    have hmem : r ∈ a.rules := by
      rw [Answer.rules, hresponse]
      exact List.mem_append_right _ (hperm.mem_iff.mp hr)
    exact hs.logged.known a (List.mem_of_getElem? ha) r hmem
  · intro hreading id hid
    obtain ⟨rfl, horder⟩ := hin hreading id hid
    exact (upTo_of_inOrder hs.logged ha hcall hresponse horder).of_perm hperm

/-- A rule that is stored arrives. -/
theorem Inv.onCreated (hs : s.Inv) (ha : s.answers[i]? = some a) (hnot : a.received = false)
    {response : Rule} (hresponse : a.effect.response = .rule response)
    (hchange : a.effect.change = ⟨[response], []⟩)
    (hin : (s.mark i a).reading = false → ∀ id, s.opened = some id →
      response.ruleSetId = id ∧ s.UpToDate id) :
    ((s.mark i a).onCreated localeCompare response).Inv := by
  have hperm := perm_sortByName localeCompare Rule.ruleName (s.rules ++ [response])
  have hmem : response ∈ a.rules := by
    rw [Answer.rules, hresponse]
    exact List.mem_append_right _ List.mem_cons_self
  have hrows : (s.arrays.modify s.rulesData fun rules =>
      sortByName localeCompare Rule.ruleName (rules ++ [response])).get? s.rulesData =
        some (sortByName localeCompare Rule.ruleName (s.rules ++ [response])) := by
    rw [Heap.get?_modify_self, hs.get?_rulesData]
    rfl
  apply Inv.unsubscribe
  apply hs.of_table ha (fun _ => rfl) hrows
  · intro r hr
    rcases List.mem_append.mp (hperm.mem_iff.mp hr) with hr | hr
    · exact hs.rules r hr
    · rw [List.mem_singleton.mp hr]
      exact hs.logged.known a (List.mem_of_getElem? ha) response hmem
  · intro hreading id hid
    obtain ⟨hset, hup⟩ := hin hreading id hid
    apply hup.arrive (perm_pending_mark ha hnot id)
    rw [Answer.change, hchange]
    apply leads_added _ hperm
    intro r hr
    rw [List.mem_singleton.mp hr]
    exact hset

/-- Rules of a file that are stored arrive. -/
theorem Inv.onUploaded (hs : s.Inv) (ha : s.answers[i]? = some a) (hnot : a.received = false)
    {response : List Rule} (hresponse : a.effect.response = .rules response)
    (hchange : a.effect.change = ⟨response, []⟩)
    (hin : (s.mark i a).reading = false → ∀ id, s.opened = some id →
      (∀ r ∈ response, r.ruleSetId = id) ∧ s.UpToDate id) :
    ((s.mark i a).onUploaded response).Inv := by
  apply hs.of_table ha (fun _ => rfl) (Heap.get?_make_next _ _)
  · intro r hr
    rcases List.mem_append.mp hr with hr | hr
    · exact hs.rules r hr
    · have hmem : r ∈ a.rules := by
        rw [Answer.rules, hresponse]
        exact List.mem_append_right _ hr
      exact hs.logged.known a (List.mem_of_getElem? ha) r hmem
  · intro hreading id hid
    obtain ⟨hset, hup⟩ := hin hreading id hid
    apply hup.arrive (perm_pending_mark ha hnot id)
    rw [Answer.change, hchange]
    exact leads_added hset (List.Perm.refl _)

/-- A rule is deleted. -/
theorem Inv.onDeleted (hs : s.Inv) (ha : s.answers[i]? = some a) (hnot : a.received = false)
    {rule r : Rule} {index : Int} (hchange : a.effect.change = ⟨[], [r]⟩) (hrid : r.id = rule.id)
    (hplace : s.AtPlace rule index)
    (hin : (s.mark i a).reading = false → ∀ id, s.opened = some id →
      (r.ruleSetId = id → r ∈ s.rules) ∧ s.UpToDate id) :
    ((s.mark i a).onDeleted index).Inv := by
  have hmem : r ∈ a.rules := by
    rw [Answer.rules, hchange]
    exact List.mem_append_left _ List.mem_cons_self
  have hr := hs.logged.known a (List.mem_of_getElem? ha) r hmem
  apply hs.of_table ha (fun _ => rfl) (Heap.get?_make_next _ _)
  · exact fun r hr => hs.rules r (List.mem_of_mem_eraseIdx hr)
  · intro hreading id hid
    obtain ⟨hrow, hup⟩ := hin hreading id hid
    apply hup.arrive (perm_pending_mark ha hnot id)
    rw [Answer.change, hchange]
    exact hs.leads_deleted hup hplace hrid hr hrow

end Arrival

/-! ### What an answer brings -/

section Sound

variable {a : Answer}

theorem change_of_getRules (h : a.Sound) {ref : Ref} {ruleSetId : String}
    (hcall : a.request.call = .getRules ref ruleSetId) (id : String) : (a.change id).Empty := by
  obtain ⟨stored, e, hserved, hchange, -⟩ := h
  rw [hcall] at hserved
  have hempty : a.effect.change = ⟨[], []⟩ := by
    rw [hchange]
    cases hserved <;> rfl
  rw [Answer.change, hempty]
  exact ⟨rfl, rfl⟩

theorem change_of_createRule (h : a.Sound) {ruleSetId ruleName : String} {rule : Rule}
    (hcall : a.request.call = .createRule ruleSetId ruleName)
    (hresponse : a.effect.response = .rule rule) :
    a.effect.change = ⟨[rule], []⟩ ∧ rule.ruleSetId = ruleSetId := by
  obtain ⟨stored, e, hserved, hchange, heq | herror⟩ := h
  · rw [hcall] at hserved
    rw [hresponse] at heq
    cases hserved with
    | created =>
        cases heq
        exact ⟨hchange, rfl⟩
    | failed => cases heq
  · rw [hresponse] at herror
    cases herror

theorem change_of_uploadRuleFile (h : a.Sound) {ruleSetId : String}
    (hcall : a.request.call = .uploadRuleFile ruleSetId) (hresponse : a.effect.response ≠ .error) :
    ∃ rules, a.effect.response = .rules rules ∧ a.effect.change = ⟨rules, []⟩ ∧
      ∀ r ∈ rules, r.ruleSetId = ruleSetId := by
  obtain ⟨stored, e, hserved, hchange, heq | herror⟩ := h
  · rw [hcall] at hserved
    rw [heq] at hresponse
    cases hserved with
    | failed => exact absurd rfl hresponse
    | @uploaded _ rules _ hrules hcases =>
        rcases hcases with rfl | rfl
        · exact ⟨rules, heq, hchange, hrules⟩
        · exact absurd rfl hresponse
  · exact absurd herror hresponse

theorem change_of_deleteRule (h : a.Sound) {rule : Rule} {index : Int}
    (hcall : a.request.call = .deleteRule rule index) (hresponse : a.effect.response = .success) :
    ∃ r, a.effect.change = ⟨[], [r]⟩ ∧ r.id = rule.id := by
  obtain ⟨stored, e, hserved, hchange, heq | herror⟩ := h
  · rw [hcall] at hserved
    rw [hresponse] at heq
    cases hserved with
    | failed => cases heq
    | deleted index hr hid => exact ⟨_, hchange, hid⟩
  · rw [hresponse] at herror
    cases herror

end Sound

theorem Sent.subscribed {request : Request} (h : s.Sent request)
    (hcall : ∀ id name, request.call ≠ .createRule id name) : request.subscribed = true := by
  unfold Sent at h
  cases hrequest : request.call with
  | createRule id name => exact absurd hrequest (hcall id name)
  | _ =>
      rw [hrequest] at h
      exact h

section Arrival

variable {i : Nat} {a : Answer} (localeCompare : String → String → Ordering)

/-- An answer without a handler -/
theorem receive_of_handler (h : a.request.subscribed = true →
    (s.mark i a).onResponse localeCompare a.request.call a.effect.response = s.mark i a) :
    s.receive localeCompare i a = s.mark i a := by
  unfold System.receive
  split
  · rename_i hsubscribed
    exact h hsubscribed
  · rfl

theorem Inv.receive (hs : s.Inv) (ha : s.answers[i]? = some a) (hnot : a.received = false)
    (hin : InStep s (.receive i)) : (s.receive localeCompare i a).Inv := by
  obtain ⟨hplace, hreaches⟩ := hin a ha
  have hmem := List.mem_of_getElem? ha
  have hsound := hs.logged.sound a hmem
  have hsent := hs.answers a hmem
  -- unless the answer is one to a reading, the table was up to date before
  have hup : a.request.call.isGetRules = false → (s.mark i a).reading = false →
      ∀ id, s.opened = some id → s.UpToDate id := by
    intro hcall hreading
    rw [reading_mark ha hcall] at hreading
    exact hs.upToDate hreading
  cases hcall : a.request.call with
  | getRules ref ruleSetId =>
      have hsubscribed : a.request.subscribed = true := hsent.subscribed (by simp [hcall])
      have hempty := change_of_getRules hsound hcall
      cases hresponse : a.effect.response with
      | rules response =>
          simp only [Reaches, hcall, hresponse] at hreaches
          rw [System.receive, if_pos hsubscribed, hcall, hresponse]
          exact hs.onRules localeCompare ha hcall hresponse hreaches
      | _ =>
          simp only [Reaches, hcall, hresponse] at hreaches
          rw [System.receive, if_pos hsubscribed, hcall, hresponse]
          exact hs.mark ha hnot hreaches fun _ id _ => hempty id
  | createRule ruleSetId ruleName =>
      have hbefore := hup (by rw [hcall]; rfl)
      cases hresponse : a.effect.response with
      | rule response =>
          simp only [Reaches, hcall, hresponse] at hreaches
          unfold System.receive
          split
          · rename_i hsubscribed
            obtain ⟨hchange, hset⟩ := change_of_createRule hsound hcall hresponse
            unfold Sent at hsent
            rw [hcall] at hsent
            rw [hcall, hresponse]
            apply hs.onCreated localeCompare ha hnot hresponse hchange
            intro hreading id hid
            exact ⟨hset.trans ((hsent hsubscribed).2 id hid).symm, hbefore hreading id hid⟩
          · rename_i hsubscribed
            apply hs.mark ha hnot hbefore
            intro hreading id hid
            exact (hreaches hreading id hid).resolve_left hsubscribed
      | _ =>
          simp only [Reaches, hcall, hresponse] at hreaches
          rw [receive_of_handler localeCompare (by rw [hcall, hresponse]; exact fun _ => rfl)]
          exact hs.mark ha hnot hbefore hreaches
  | uploadRuleFile ruleSetId =>
      have hbefore := hup (by rw [hcall]; rfl)
      have hsubscribed : a.request.subscribed = true := hsent.subscribed (by simp [hcall])
      by_cases herror : a.effect.response = .error
      · simp only [Reaches, hcall, herror] at hreaches
        rw [receive_of_handler localeCompare (by rw [hcall, herror]; exact fun _ => rfl)]
        exact hs.mark ha hnot hbefore hreaches
      · obtain ⟨response, hresponse, hchange, hset⟩ :=
          change_of_uploadRuleFile hsound hcall herror
        simp only [Reaches, hcall, hresponse] at hreaches
        rw [System.receive, if_pos hsubscribed, hcall, hresponse]
        apply hs.onUploaded ha hnot hresponse hchange
        intro hreading id hid
        rw [← hreaches hreading id hid]
        exact ⟨hset, hreaches hreading id hid ▸ hbefore hreading id hid⟩
  | deleteRule rule index =>
      have hbefore := hup (by rw [hcall]; rfl)
      have hsubscribed : a.request.subscribed = true := hsent.subscribed (by simp [hcall])
      cases hresponse : a.effect.response with
      | success =>
          obtain ⟨r, hchange, hrid⟩ := change_of_deleteRule hsound hcall hresponse
          simp only [Reaches, hcall, hresponse, hchange, List.mem_singleton, forall_eq] at hreaches
          rw [System.receive, if_pos hsubscribed, hcall, hresponse]
          apply hs.onDeleted ha hnot hchange hrid (hplace rule index hcall hresponse)
          exact fun hreading id hid => ⟨hreaches hreading id hid, hbefore hreading id hid⟩
      | _ =>
          simp only [Reaches, hcall, hresponse] at hreaches
          rw [receive_of_handler localeCompare (by rw [hcall, hresponse]; exact fun _ => rfl)]
          exact hs.mark ha hnot hbefore hreaches

end Arrival

/-! ## Runs -/

theorem inv_of_step {localeCompare : String → String → Ordering} (hs : s.Inv) {e : PageEvent}
    (hin : InStep s e) (h : step localeCompare s e = some t) : t.Inv := by
  cases e with
  | ruleSets response =>
      cases h
      exact hs.onRuleSets localeCompare response
  | getRules ref =>
      cases hdialog : s.dialog with
      | some dialog => simp [step, hdialog] at h
      | none =>
          cases hget : s.ruleSets.get? ref with
          | none => simp [step, hdialog, hget] at h
          | some ruleSet =>
              simp only [step, hdialog, hget, Option.ite_none_right_eq_some, Option.some.injEq]
                at h
              obtain ⟨-, rfl⟩ := h
              exact hs.getRules hdialog ref ruleSet
  | addRule ref =>
      cases hdialog : s.dialog with
      | some dialog => simp [step, hdialog] at h
      | none =>
          cases hget : s.ruleSets.get? ref with
          | none => simp [step, hdialog, hget] at h
          | some ruleSet =>
              simp only [step, hdialog, hget, Option.ite_none_right_eq_some, Option.some.injEq]
                at h
              obtain ⟨⟨href, hvisible⟩, rfl⟩ := h
              have hopened := hs.opened_of_visible (mem_ids href hget) hvisible
              apply hs.of_dialog (by simp [hdialog])
              rintro _ ⟨⟩
              refine ⟨ruleSet, hget, fun id hid => ?_⟩
              exact Option.some.inj (hid.symm.trans hopened)
  | save ruleName =>
      simp only [step] at h
      split at h
      · rename_i ref hdialog
        obtain ⟨ruleSet, hget, rfl⟩ := Option.map_eq_some_iff.mp h
        apply hs.send rfl
        intro _
        obtain ⟨ruleSet', hget', hopened⟩ := hs.editor ref hdialog
        cases hget.symm.trans hget'
        exact ⟨⟨ref, hdialog⟩, hopened⟩
      · cases h
  | uploadRulesFile ref =>
      simp only [step, Option.ite_none_right_eq_some, Option.some.injEq] at h
      obtain ⟨⟨hdialog, -⟩, rfl⟩ := h
      apply hs.of_dialog (by simp [hdialog])
      rintro _ ⟨⟩
  | deleteRule rule ref =>
      cases hdialog : s.dialog with
      | some dialog => simp [step, hdialog] at h
      | none =>
          cases hget : s.ruleSets.get? ref with
          | none => simp [step, hdialog, hget] at h
          | some ruleSet =>
              simp only [step, hdialog, hget, Option.ite_none_right_eq_some, Option.some.injEq]
                at h
              obtain ⟨-, rfl⟩ := h
              apply hs.of_dialog (by simp [hdialog])
              rintro _ ⟨⟩
  | closed confirmed =>
      obtain ⟨dialog, hdialog, rfl⟩ := Option.map_eq_some_iff.mp h
      exact hs.onClosed hdialog confirmed
  | answer i outcome =>
      simp only [step] at h
      split at h
      · rename_i request hi
        split at h
        · rename_i e he
          split at h
          · rename_i hnew
            cases h
            exact hs.onAnswer hi (served_of_effect he) hnew
          · cases h
        · cases h
      · cases h
  | lose i =>
      simp only [step] at h
      split at h
      · rename_i a ha
        split at h
        · cases h
        · cases h
          exact hs.lose ha
      · cases h
  | receive i =>
      simp only [step] at h
      split at h
      · rename_i a ha
        split at h
        · cases h
        · rename_i hreceived
          cases h
          exact hs.receive localeCompare ha (Bool.eq_false_iff.mpr hreceived) hin
      · cases h

theorem Started.inv (hs : s.Started) : s.Inv := by
  have hopened : s.opened = none := by
    rw [opened, ids, hs.ruleSetsData]
    rfl
  have hrules : s.rules = [] := by
    rw [System.rules, hs.arrays, Option.getD_some]
  constructor
  case logged =>
    constructor
    case created =>
      rw [hs.created]
      exact hs.stored
    case stored => exact hs.stored.of_map Rule.id
    case stored_created =>
      rw [hs.created]
      exact fun _ => id
    case sound =>
      rw [hs.answers]
      exact fun a ha => absurd ha List.not_mem_nil
    case known =>
      rw [hs.answers]
      exact fun a ha => absurd ha List.not_mem_nil
    case reads =>
      intro i a ref id rules ha
      rw [hs.answers] at ha
      cases ha
  case rules =>
    rw [hrules]
    exact fun r hr => absurd hr List.not_mem_nil
  case array => exact Heap.lt_size_of_get? hs.arrays
  case visible =>
    intro j k hj
    rw [hs.rulesVisible] at hj
    cases hj
  case requests =>
    rw [hs.requests]
    exact fun request h => absurd h List.not_mem_nil
  case answers =>
    rw [hs.answers]
    exact fun a ha => absurd ha List.not_mem_nil
  case editor =>
    intro ref h
    rw [hs.dialog] at h
    cases h
  case upToDate =>
    intro _ id h
    rw [hopened] at h
    cases h

/-- As long as the rule set's own list is the array of the table, a deletion that is confirmed
    takes the place of the row. -/
theorem atPlace_of_shared {ref : Ref} {ruleSet : RuleSet} {rule : Rule}
    (hget : s.ruleSets.get? ref = some ruleSet) (hshared : ruleSet.rules = some s.rulesData)
    (hrule : rule ∈ s.rules) : ∃ index, s.AtPlace rule index ∧
      s.confirmDeleteRule rule ref = s.send (.deleteRule rule index) := by
  refine ⟨findIndex (fun r => r.id = rule.id) s.rules, ?_, ?_⟩
  · have hlt : (s.rules.findIdx fun r => r.id = rule.id) < s.rules.length :=
      List.findIdx_lt_length_of_exists ⟨rule, hrule, decide_eq_true rfl⟩
    have hfind := List.findIdx?_eq_some_iff_findIdx_eq.mpr ⟨hlt, rfl⟩
    rw [AtPlace, findIndex, hfind]
    dsimp only
    rw [spliceStart, if_neg (by omega)]
    omega
  · rw [System.confirmDeleteRule, hget, Option.bind_some, hshared]
    rfl

/-- What the invariant says once all responses have arrived -/
theorem Inv.shown (hs : s.Inv) : s.Shown := by
  rintro ⟨hrequests, hreceived⟩ id hid
  have hreading : s.reading = false := by
    rw [reading, hrequests, List.any_nil, Bool.false_or, List.any_eq_false]
    intro a ha
    rw [hreceived a ha]
    exact Bool.false_ne_true
  have hpending : s.pending id = [] := by
    rw [pending, List.map_eq_nil_iff, List.filter_eq_nil_iff]
    intro a ha
    rw [hreceived a ha]
    exact Bool.false_ne_true
  have hup := hs.upToDate hreading id hid
  rw [UpToDate, hpending, Change.upTo_nil] at hup
  refine ⟨hup, (hup.map Rule.id).nodup_iff.mpr ?_⟩
  apply List.Nodup.map_on
  · intro r hr r' hr' hid
    have hcreated := hs.logged.stored_created r (List.mem_of_mem_filter hr)
    have hcreated' := hs.logged.stored_created r' (List.mem_of_mem_filter hr')
    exact List.inj_on_of_nodup_map hs.logged.created hcreated hcreated' hid
  · exact hs.logged.stored.filter _

theorem Inv.exact (localeCompare : String → String → Ordering) (hs : s.Inv) {e : PageEvent}
    (hin : InStep s e) : Exact localeCompare s e := by
  cases e with
  | receive i =>
      intro a ha
      constructor
      · intro rule index hcall hresponse
        have hsubscribed : a.request.subscribed = true :=
          (hs.answers a (List.mem_of_getElem? ha)).subscribed (by simp [hcall])
        rw [System.receive, if_pos hsubscribed, hcall, hresponse,
          ← spliceOne_of_atPlace ((hin a ha).1 rule index hcall hresponse)]
        exact congrArg (Option.getD · []) (Heap.get?_make_next s.arrays _)
      · intro hresponse
        rw [receive_of_handler localeCompare]
        · rfl
        · intro _
          rw [hresponse]
          cases a.request.call <;> rfl
  | _ => trivial

end System

/-! ### A page with three rules -/

def ruleNamed (name : String) : Rule := ⟨name, name, "set"⟩

/-- The rules alpha, beta and gamma of one rule set -/
def threeRules : System where
  stored := ["alpha", "beta", "gamma"].map ruleNamed
  created := ["alpha", "beta", "gamma"].map ruleNamed
  ruleSets := .empty
  arrays := Heap.empty.make []
  ruleSetsData := []
  rulesVisible := []
  rulesData := 0
  dialog := none
  requests := []
  answers := []

/-- The rule set is opened, and its rules arrive. -/
def openedSet : List PageEvent :=
  [.ruleSets [⟨"set", "set", none⟩], .getRules 0, .answer 0 .read, .receive 0]

/-- A rule is deleted, by the answer of this number. -/
def deletion (name : String) (i : Nat) : List PageEvent :=
  [.deleteRule (ruleNamed name) 0, .closed true, .answer 0 .deleted, .receive i]

end PolicyManagement

end Tfplenum
