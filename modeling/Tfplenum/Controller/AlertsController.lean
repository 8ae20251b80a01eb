/-
  Tfplenum.Controller.AlertsController

  `alerts_controller.py`, the webhook that Hive calls when a case changes: it
  builds a Painless script out of the payload, by concatenation, and lets
  Elasticsearch run it on every alert of the case.
-/

import Tfplenum.Json
import Tfplenum.Lib.Painless

namespace Tfplenum

open Lib

/-! ## The handler -/

/-- What the handler takes out of the payload. -/
structure WebhookFields where
  hiveId : Int
  eventKind : Json
  hiveStatus : Json
  hiveImpactStatus : Json
  hiveResolutionStatus : Json

/-- `try: x = value if value else default  except KeyError: pass`, where `x` was
    the default before. -/
def valueOr (default : String) : Except PyError Json → Except PyError Json
  | .ok value => .ok (if value.truthy then value else .str default)
  | .error (.keyError _) => .ok (.str default)
  | .error e => .error e

/-- `value[1:]`, as far as `int()` accepts it. -/
def dropFirst : Json → Except PyError String
  | .str s => .ok (String.ofList (s.toList.drop 1))
  | .arr _ => .error (.typeError "int() argument must be a string")
  | _ => .error (.typeError "object is not subscriptable")

section Webhook

/- Python's `int()` on a string. -/
variable (pyInt : String → Except PyError Int)

/-- The look-ups at the beginning of `webhook`. -/
def webhookFields (event : Json) : Except PyError WebhookFields := do
  let hiveId ← pyInt (← dropFirst (← event.getItem "objectId"))
  let eventKind ← valueOr "alert" (do
    let customFields ← (← event.getItem "object").getItem "customFields"
    (← customFields.getItem "event.kind").getItem "string")
  let hiveStatus ← valueOr "" (do (← event.getItem "details").getItem "status")
  let hiveImpactStatus ← valueOr "" (do (← event.getItem "details").getItem "impactStatus")
  let hiveResolutionStatus ← valueOr ""
    (do (← event.getItem "details").getItem "resolutionStatus")
  return { hiveId, eventKind, hiveStatus, hiveImpactStatus, hiveResolutionStatus }

/-- The script that records the three texts. -/
def updateSource (hiveResolutionStatus hiveStatus hiveImpactStatus : String) : String :=
  "
            ctx._source.event.hive_resolution_status = \"" ++
  hiveResolutionStatus ++
  "\";
            ctx._source.event.hive_status = \"" ++
  hiveStatus ++
  "\";
            ctx._source.event.hive_impact_status = \"" ++
  hiveImpactStatus ++
  "\";
        "

/-- The script for a deleted case. -/
def deleteSource : String :=
  "
                ctx._source.event.remove(\"hive_resolution_status\");
                ctx._source.event.remove(\"hive_status\");
                ctx._source.event.remove(\"hive_impact_status\");
                ctx._source.event.remove(\"hive_id\");
                ctx._source.event.escalated = false;
                ctx._source.event.acknowledged = true;
            "

/-- The kind of script: what the operation, the event kind and the status select. -/
structure Branch where
  isDelete : Bool
  isSignal : Bool
  isResolved : Bool
deriving DecidableEq, Repr

/-- What is appended to the script for a signal. -/
def signalSource (b : Branch) : String :=
  if b.isDelete then
    if b.isSignal then "ctx._source.signal.status = \"closed\";\n" else ""
  else if b.isSignal then
    if b.isResolved then "ctx._source.signal.status = \"closed\"\n"
    else "ctx._source.signal.status = \"in-progress\"\n"
  else ""

/-- The request body of the update. -/
structure UpdateBody where
  /-- `{"match": {"event.hive_id": hive_id}}` -/
  matchHiveId : Int
  /-- the source of the script; its language is always `painless` -/
  source : String

/-- The texts and the branch a script is built from. -/
structure ScriptInput where
  hiveResolutionStatus : String
  hiveStatus : String
  hiveImpactStatus : String
  branch : Branch

/-- The concatenation evaluates its operands from left to right, before the
    operation is looked up. -/
def scriptInput (event : Json) (f : WebhookFields) : Except PyError ScriptInput := do
  let hiveResolutionStatus ← f.hiveResolutionStatus.toStr
  let hiveStatus ← f.hiveStatus.toStr
  let hiveImpactStatus ← f.hiveImpactStatus.toStr
  let operation ← event.getItem "operation"
  return {
    hiveResolutionStatus, hiveStatus, hiveImpactStatus
    branch := {
      isDelete := operation.isStr "delete"
      isSignal := f.eventKind.isStr "signal"
      isResolved := hiveStatus = "Resolved" } }

def scriptSource (s : ScriptInput) : String :=
  (if s.branch.isDelete then deleteSource
    else updateSource s.hiveResolutionStatus s.hiveStatus s.hiveImpactStatus) ++
  signalSource s.branch

/-- Everything the handler takes from the payload: the case number and the input
    of the script. -/
def webhookInput (event : Json) : Except PyError (Int × ScriptInput) := do
  let f ← webhookFields pyInt event
  let s ← scriptInput event f
  return (f.hiveId, s)

/-- The part of `webhook` that builds the body of the update. -/
def webhookBody (event : Json) : Except PyError UpdateBody := do
  let (hiveId, s) ← webhookInput pyInt event
  return { matchHiveId := hiveId, source := scriptSource s }

/-- What Elasticsearch answers to an update by query: how many failures it
    reports, or nothing. -/
abbrev UpdateResult := Option Nat

/-- `webhook`: the answer of the update, or `{}, 400`. -/
def webhook (updateByQuery : UpdateBody → Except PyError UpdateResult) (event : Json) :
    Except PyError (UpdateResult × Nat) := do
  let body ← webhookBody pyInt event
  match ← updateByQuery body with
  | some 0 => return (some 0, 200)
  | _ => return (none, 400)

end Webhook

/-! ## The tokens of the script -/

open Painless (Token)

/-- `ctx._source.event.field`, as tokens. -/
def fieldTokens (object field : String) : List Token :=
  [.word "ctx".toList, .punct '.', .word "_source".toList, .punct '.', .word object.toList,
    .punct '.', .word field.toList]

/-- `ctx._source.object.field = value`, as tokens. -/
def assignTokens (object field : String) (value : Token) : List Token :=
  fieldTokens object field ++ [.punct '=', value]

/-- `ctx._source.event.remove("field");`, as tokens. -/
def removeTokens (field : String) : List Token :=
  fieldTokens "event" "remove" ++ [.punct '(', .str field.toList, .punct ')', .punct ';']

def signalTokens (b : Branch) : List Token :=
  if b.isDelete then
    if b.isSignal then assignTokens "signal" "status" (.str "closed".toList) ++ [.punct ';'] else []
  else if b.isSignal then
    assignTokens "signal" "status"
      (.str (if b.isResolved then "closed" else "in-progress").toList)
  else []

/-- The tokens the script of a branch is meant to have: the payload contributes
    the values of three literals and nothing else. -/
def scriptTokens (s : ScriptInput) : List Token :=
  (if s.branch.isDelete then
      removeTokens "hive_resolution_status" ++ removeTokens "hive_status" ++
      removeTokens "hive_impact_status" ++ removeTokens "hive_id" ++
      assignTokens "event" "escalated" (.word "false".toList) ++ [.punct ';'] ++
      assignTokens "event" "acknowledged" (.word "true".toList) ++ [.punct ';']
    else
      assignTokens "event" "hive_resolution_status" (.str s.hiveResolutionStatus.toList) ++
      [.punct ';'] ++
      assignTokens "event" "hive_status" (.str s.hiveStatus.toList) ++ [.punct ';'] ++
      assignTokens "event" "hive_impact_status" (.str s.hiveImpactStatus.toList) ++
      [.punct ';']) ++
  signalTokens s.branch

/-- Two payloads of one branch give scripts that are meant to differ in the
    values of literals only. -/
theorem scriptTokens_structure {s s' : ScriptInput} (h : s.branch = s'.branch) :
    (scriptTokens s).map Token.kind = (scriptTokens s').map Token.kind := by
  simp only [scriptTokens, h]
  split <;> simp [assignTokens, Token.kind]

/-- The script does to the data what it is meant to: its tokens are those of its
    branch, with each text of the payload as the value of one literal. -/
def DataStaysData (source : String) (s : ScriptInput) : Prop :=
  Painless.tokens source = some (scriptTokens s)

section Pieces

/- The pieces of the two templates, read one by one; a piece that follows a text
   of the payload starts with the quote that closes its literal. -/

open Painless (lexer)

theorem feed_resolution :
    lexer.feed .code "
            ctx._source.event.hive_resolution_status = \"".toList =
      some (.str '"' [], fieldTokens "event" "hive_resolution_status" ++ [.punct '=']) := by
  rw [String.toList_ofList]
  decide +kernel

theorem split_status :
    "\";
            ctx._source.event.hive_status = \"".toList =
      '"' :: ";
            ctx._source.event.hive_status = \"".toList := by
  rw [String.toList_ofList, String.toList_ofList]

theorem feed_status :
    lexer.feed .code ";
            ctx._source.event.hive_status = \"".toList =
      some (.str '"' [], .punct ';' :: (fieldTokens "event" "hive_status" ++ [.punct '='])) := by
  rw [String.toList_ofList]
  decide +kernel

theorem split_impact :
    "\";
            ctx._source.event.hive_impact_status = \"".toList =
      '"' :: ";
            ctx._source.event.hive_impact_status = \"".toList := by
  rw [String.toList_ofList, String.toList_ofList]

theorem feed_impact :
    lexer.feed .code ";
            ctx._source.event.hive_impact_status = \"".toList =
      some (.str '"' [],
        .punct ';' :: (fieldTokens "event" "hive_impact_status" ++ [.punct '='])) := by
  rw [String.toList_ofList]
  decide +kernel

theorem split_end :
    "\";
        ".toList =
      '"' :: ";
        ".toList := by
  rw [String.toList_ofList, String.toList_ofList]

theorem feed_end :
    lexer.feed .code ";
        ".toList = some (.code, [.punct ';']) := by
  rw [String.toList_ofList]
  decide +kernel

theorem feed_deleteSource :
    lexer.feed .code deleteSource.toList =
      some (.code, removeTokens "hive_resolution_status" ++ removeTokens "hive_status" ++
        removeTokens "hive_impact_status" ++ removeTokens "hive_id" ++
        assignTokens "event" "escalated" (.word "false".toList) ++ [.punct ';'] ++
        assignTokens "event" "acknowledged" (.word "true".toList) ++ [.punct ';']) := by
  rw [deleteSource, String.toList_ofList]
  decide +kernel

theorem tokens_signalSource (b : Branch) :
    lexer.tokens .code (signalSource b).toList = some (signalTokens b) := by
  obtain ⟨d, s, r⟩ := b
  cases d <;> cases s <;> cases r <;> decide +kernel

end Pieces

/-- The script that records the three texts, as a template with three holes. -/
def updateHoles (resolution status impact : String) : List Painless.Hole := [
  { piece := "
            ctx._source.event.hive_resolution_status = \"".toList
    before := fieldTokens "event" "hive_resolution_status" ++ [.punct '=']
    value := resolution.toList },
  { piece := ";
            ctx._source.event.hive_status = \"".toList
    before := .punct ';' :: (fieldTokens "event" "hive_status" ++ [.punct '='])
    value := status.toList },
  { piece := ";
            ctx._source.event.hive_impact_status = \"".toList
    before := .punct ';' :: (fieldTokens "event" "hive_impact_status" ++ [.punct '='])
    value := impact.toList }]

theorem updateSource_toList (resolution status impact rest : String) :
    (updateSource resolution status impact ++ rest).toList =
      Painless.fill '"' (";
        ".toList ++ rest.toList) (updateHoles resolution status impact) := by
  delta updateSource
  iterate 7 rewrite [String.toList_append]
  rewrite [split_status, split_impact, split_end]
  iterate 6 rewrite [List.append_assoc]
  rfl

theorem feed_updateHoles (resolution status impact : String) :
    ∀ hole ∈ updateHoles resolution status impact,
      Painless.lexer.feed .code hole.piece = some (.str '"' [], hole.before) := by
  intro hole hmem
  rcases List.mem_cons.mp hmem with rfl | hmem
  · exact feed_resolution
  rcases List.mem_cons.mp hmem with rfl | hmem
  · exact feed_status
  · cases List.mem_singleton.mp hmem
    exact feed_impact

theorem plain_updateHoles_iff (resolution status impact : String) :
    (∀ hole ∈ updateHoles resolution status impact, Painless.Plain '"' hole.value) ↔
      Painless.Plain '"' resolution.toList ∧ Painless.Plain '"' status.toList ∧
        Painless.Plain '"' impact.toList := by
  rw [updateHoles, List.forall_mem_cons, List.forall_mem_cons, List.forall_mem_singleton]

/-- The script of any payload keeps its texts data exactly when they are not
    written into it or each of them is plain. -/
theorem dataStaysData_scriptSource_iff (s : ScriptInput) :
    DataStaysData (scriptSource s) s ↔
      s.branch.isDelete = true ∨
      Painless.Plain '"' s.hiveResolutionStatus.toList ∧
        Painless.Plain '"' s.hiveStatus.toList ∧ Painless.Plain '"' s.hiveImpactStatus.toList := by
  unfold DataStaysData Painless.tokens scriptSource scriptTokens
  cases hdel : s.branch.isDelete with
  | true =>
      simp only [if_true, true_or, iff_true]
      rw [String.toList_append, Lexer.tokens_append feed_deleteSource, tokens_signalSource]
      rfl
  | false =>
      have hq : '\\' ≠ '"' := by decide
      have hlast : Painless.lexer.tokens .code (";
        ".toList ++ (signalSource s.branch).toList) =
          some (.punct ';' :: signalTokens s.branch) := by
        rw [Lexer.tokens_append feed_end, tokens_signalSource]
        rfl
      have hiff := Painless.tokens_fill_iff hq hlast
        (updateHoles s.hiveResolutionStatus s.hiveStatus s.hiveImpactStatus)
        (feed_updateHoles _ _ _)
      rw [← updateSource_toList, plain_updateHoles_iff] at hiff
      simp only [Bool.false_eq_true, if_false, false_or]
      exact hiff

/-! ## The webhook -/

/-- For every payload a script is built from: the script keeps the payload data
    exactly when the case is deleted or none of the three texts contains a double
    quote or a backslash. -/
theorem webhook_dataStaysData_iff (pyInt : String → Except PyError Int) (event : Json)
    (hiveId : Int) (s : ScriptInput) (hinput : webhookInput pyInt event = .ok (hiveId, s)) :
    ∃ body, webhookBody pyInt event = .ok body ∧
      (DataStaysData body.source s ↔
        s.branch.isDelete = true ∨
        Painless.Plain '"' s.hiveResolutionStatus.toList ∧
          Painless.Plain '"' s.hiveStatus.toList ∧
            Painless.Plain '"' s.hiveImpactStatus.toList) := by
  refine ⟨{ matchHiveId := hiveId, source := scriptSource s }, ?_, ?_⟩
  · rw [webhookBody, hinput]
    rfl
  · exact dataStaysData_scriptSource_iff s

/-- An update of case 7 with the given status. -/
def statusEvent (status : String) : Json :=
  .obj [("objectId", .str "~7"), ("operation", .str "update"),
    ("details", .obj [("status", .str status)])]

/-- `int()` on a decimal digit. -/
def digitInt (s : String) : Except PyError Int :=
  match s.toList with
  | [c] => if c.isDigit then .ok (c.toNat - '0'.toNat) else .error (.valueError "int()")
  | _ => .error (.valueError "int()")

/-- The texts of a `statusEvent`. -/
def statusInput (status : String) : ScriptInput where
  hiveResolutionStatus := ""
  hiveStatus := status
  hiveImpactStatus := ""
  branch := { isDelete := false, isSignal := false, isResolved := status = "Resolved" }

theorem webhook_dataStaysData_of_inProgress :
    ∃ body, webhookBody digitInt (statusEvent "InProgress") = .ok body ∧
      (DataStaysData body.source (statusInput "InProgress") ↔
        false = true ∨
        Painless.Plain '"' "".toList ∧ Painless.Plain '"' "InProgress".toList ∧
          Painless.Plain '"' "".toList) :=
  webhook_dataStaysData_iff digitInt (statusEvent "InProgress") 7 (statusInput "InProgress")
    (by rfl)

/-- A status that closes its literal brings a statement of its own. -/
theorem webhook_status_injects :
    ¬ ∀ (pyInt : String → Except PyError Int) (event : Json) (hiveId : Int) (s : ScriptInput),
      webhookInput pyInt event = .ok (hiveId, s) →
      ∃ body, webhookBody pyInt event = .ok body ∧ DataStaysData body.source s := by
  intro hall
  let status := "Open\"; ctx._source.event.escalated = true; ctx._source.event.note = \""
  have hinput : webhookInput digitInt (statusEvent status) = .ok (7, statusInput status) := by rfl
  obtain ⟨body, hbody, hdata⟩ := hall digitInt (statusEvent status) 7 (statusInput status) hinput
  have hsource : body = { matchHiveId := 7, source := scriptSource (statusInput status) } := by
    rw [webhookBody, hinput] at hbody
    cases hbody
    rfl
  rw [hsource, dataStaysData_scriptSource_iff] at hdata
  rcases hdata with hdel | ⟨_, hplain, _⟩
  · cases hdel
  · exact (hplain '"' (by decide +kernel)).1 rfl

end Tfplenum
