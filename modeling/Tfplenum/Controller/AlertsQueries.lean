/-
  Tfplenum.Controller.AlertsQueries

  `alerts_controller.py`, the table of alerts and what is done with one of its rows, and
  the requests that the page makes of a row (`security-alerts.component.ts`).

  What a document matches and which keys it has in a field is Elasticsearch's; a row
  carries the documents of its bucket along.  The scripts of the updates and what Hive is
  told are left out, and an answer without aggregations is one without buckets.
-/

import Mathlib.Data.List.Sort
import Tfplenum.Common
import Tfplenum.Lib.Search
import Tfplenum.Lib.Table
import Tfplenum.Service.RulesetService

namespace Tfplenum

open Lib

/-! ## Elasticsearch -/

/-- The key of a bucket, a count or a flag. -/
inductive Cell where
  | text (s : String)
  | number (n : Int)
  | flag (b : Bool)
deriving DecidableEq, Repr

inductive Clause where
  /-- `{"match": {field: value}}` -/
  | matching (field : String) (value : Cell)
  /-- `{"range": {"@timestamp": {"gte": gte, "lte": lte}}}` -/
  | range (gte lte : String)
deriving DecidableEq, Repr

abbrev Query := BoolQuery Clause

inductive SearchIndex where
  | defaultIndexes | signalIndex | allIndexes
deriving DecidableEq, Repr

/-- The documents and how they are searched. -/
structure Elastic (Doc : Type) where
  /-- the documents of all the indexes -/
  docs : List Doc
  /-- the document is in the index of the signals -/
  isSignal : Doc → Bool
  applies : Clause → Doc → Bool
  /-- the value cannot be matched with the field -/
  refuses : Clause → Bool
  keysOf : String → Doc → List Cell
  /-- the keys of the buckets that are answered, a hundred at most -/
  shown : String → List Doc → List Cell
  /-- the reason of the `RequestError` for a search with aggregations -/
  reason : SearchIndex → Query → List String → Option String
  /-- the order of the hits -/
  ranked : Query → List Doc → List Doc
  /-- `_source.event.hive_id` -/
  hiveId : Doc → Option Cell

section Queries

variable {Doc : Type}

namespace Elastic

variable (es : Elastic Doc)

/-- What the development relies on. -/
structure Documented : Prop where
  /-- no bucket is without documents -/
  shown_bucket : ∀ field docs key, key ∈ es.shown field docs → ∃ d ∈ docs, key ∈ es.keysOf field d
  /-- a key that a field takes as a value matches the documents of its bucket -/
  applies_key : ∀ field key d d', key ∈ es.keysOf field d' →
    es.refuses (.matching field key) = false →
      (es.applies (.matching field key) d = true ↔ key ∈ es.keysOf field d)
  /-- a search with a clause that is refused is refused -/
  refuses_clause : ∀ index query fields, es.reason index query fields = none →
    ∀ c ∈ query.clauses, es.refuses c = false
  mem_ranked : ∀ query docs d, d ∈ es.ranked query docs ↔ d ∈ docs

def docsIn : SearchIndex → List Doc
  | .defaultIndexes => es.docs.filter fun d => !es.isSignal d
  | .signalIndex => es.docs.filter es.isSignal
  | .allIndexes => es.docs

/-- The documents that a query selects. -/
def selected (index : SearchIndex) (query : Query) : List Doc :=
  (es.docsIn index).filter (query.selects es.applies)

/-- `search` without aggregations, and the documents of an `update_by_query` -/
def search (index : SearchIndex) (query : Query) : Except PyError (List Doc) :=
  if query.clauses.any es.refuses then .error (.other "RequestError")
  else .ok (es.ranked query (es.selected index query))

end Elastic

/-! ## The query builders -/

def matchAcknowledge : Clause := .matching "event.acknowledged" (.flag true)
def matchEscalated : Clause := .matching "event.escalated" (.flag true)
def matchResolved : Clause := .matching "event.hive_status" (.text "Resolved")
def matchSignalStatus (status : String) : Clause := .matching "signal.status" (.text status)
def signalNotMatch : Clause := .matching "signal.original_event.kind" (.text "alert")

/-- The query of `build_query_clause`, after its checks. -/
def queryClause (acknowledged escalated startTime endTime : String) (searchKind : Cell)
    (additionalMustClauses : List Clause) (showClosed : String) : Query :=
  let must :=
    [.range startTime endTime] ++ (if showClosed = "yes" then [matchResolved] else []) ++
      additionalMustClauses
  let mustNot := if showClosed = "yes" then [] else [matchResolved]
  let filter := [.matching "event.kind" searchKind]
  if searchKind = .text "signal" then
    { must := must ++
        (if acknowledged = "no" ∧ escalated = "no" then [matchSignalStatus "open"] else []) ++
        (if acknowledged = "yes" then [matchSignalStatus "closed"] else []) ++
        (if showClosed = "yes" then [matchSignalStatus "closed"]
          else if escalated = "yes" then [matchSignalStatus "in-progress"] else [])
      mustNot := mustNot ++ [signalNotMatch]
      filter }
  else
    { must := must ++ (if acknowledged = "yes" then [matchAcknowledge] else []) ++
        (if escalated = "yes" then [matchEscalated] else [])
      mustNot := mustNot ++
        (if acknowledged = "yes" then []
          else if acknowledged = "no" then [matchAcknowledge] else []) ++
        (if escalated = "yes" then [] else if escalated = "no" then [matchEscalated] else [])
      filter }

/-- `build_query_clause`; no caller has further clauses that must not apply. -/
def buildQueryClause (acknowledged escalated startTime endTime : String) (searchKind : Cell)
    (additionalMustClauses : List Clause) (showClosed : String) : Except PyError Query :=
  if acknowledged ∉ ["no", "yes"] then
    .error (.valueError "Invalid value passed in for acknowledge it must be either yes or no")
  else if escalated ∉ ["no", "yes"] then
    .error (.valueError "Invalid value passed in for escalated it must be either yes or no")
  else if showClosed ∉ ["no", "yes"] then
    .error (.valueError "Invalid value passed in for show_closed it must be either yes or no")
  else if searchKind ∉ [.text "alert", .text "signal"] then
    .error (.valueError "Invalid search_kind passed in.")
  else
    .ok (queryClause acknowledged escalated startTime endTime searchKind additionalMustClauses
      showClosed)

/-- The cells of a payload; its form and its links are no cells. -/
abbrev Payload := Table String Cell

/-- The payload as `get_additional_match_clauses` leaves it: that of a signal has its rule's name
    under another name. -/
def turnRuleName (payload : Payload) : Except PyError Payload :=
  if payload.get? "event.kind" = some (.text "signal") then
    match payload.get? "rule.name" with
    | some name => .ok ((payload.erase "rule.name").upsert "signal.rule.name" name)
    | none => .error (.keyError "rule.name")
  else .ok payload

/-- The loop of `get_additional_match_clauses` -/
def additionalMatchClauses (payload : Payload) : List Clause :=
  (payload.rows.filter fun cell => cell.1 ∉ ["form", "count", "links", "kind"]).map fun cell =>
    .matching cell.1 cell.2

/-- `get_field_list` -/
def getFieldList (payload : Payload) : List String :=
  ["@timestamp", "network.community_id"] ++
    (payload.rows.map Prod.fst).filter (· ∉ ["form", "count", "links"])

/-! ## The table -/

/-- The form of the page. -/
structure AlertForm where
  acknowledged : Bool
  escalated : Bool
  showClosed : Bool
  startDatetime : String
  endDatetime : String
deriving DecidableEq, Repr

def yesNo (b : Bool) : String := if b then "yes" else "no"

/-- A row, and the bucket it is from. -/
structure TableRow (Doc : Type) where
  cells : Payload
  /-- the kind that was searched -/
  kind : String
  /-- the fields and keys of the buckets, the outermost first -/
  path : List (String × Cell)
  docs : List Doc

/-- The cells of the next bucket. -/
def TableRow.enter (row : TableRow Doc) (field : String) (key : Cell) (docs : List Doc) :
    TableRow Doc where
  cells := (row.cells.upsert "count" (.number docs.length)).upsert field key
  kind := row.kind
  path := row.path ++ [(field, key)]
  docs := docs

/-- `_get_table_contents` and `_get_row` -/
def getRow : List String → Buckets Cell Doc → TableRow Doc → List (TableRow Doc)
  | field :: fields, .node keys docs inner, row =>
      keys.flatMap fun key =>
        let row := row.enter field key (docs key)
        if fields.isEmpty then [row] else getRow fields (inner key) row
  | _, _, _ => []

/-- `_fix_keyword_issue`, the fields it leaves -/
def fixKeywordIssue (reason : String) (fields : List String) : Except PyError (List String) :=
  let fieldToReplace := ((fields.filter fun field => hasSubstring reason field).getLast?).getD ""
  if fieldToReplace = "" then .error (.other "RequestError")
  else
    .ok (fields.map fun field =>
      if field = fieldToReplace then fieldToReplace ++ ".keyword" else field)

/-- The names that a row gets in the end. -/
def finishRow (searchKind : String) (row : TableRow Doc) : TableRow Doc :=
  let cells :=
    if (row.cells.get? "event.kind").isSome then row.cells
    else row.cells.upsert "event.kind" (.text searchKind)
  let cells :=
    match cells.get? "signal.rule.name" with
    | some name => (cells.erase "signal.rule.name").upsert "rule.name" name
    | none => cells
  { row with cells }

/-- The index in which a kind is searched. -/
def indexOf (searchKind : Cell) : SearchIndex :=
  if searchKind = .text "signal" then .signalIndex else .defaultIndexes

/-- `a < b`, none for a `TypeError`. -/
def Cell.lt? : Cell → Cell → Option Bool
  | .number m, .number n => some (m < n)
  | .text s, .text t => some (s < t)
  | .flag b, .flag c => some (b < c)
  | _, _ => none

/-- `row["count"]` -/
def TableRow.count (row : TableRow Doc) : Cell := (row.cells.get? "count").getD (.number 0)

/-- `sorted(table_rows, key=lambda i: i["count"], reverse=True)` -/
def sortByCount (rows : List (TableRow Doc)) : Except PyError (List (TableRow Doc)) :=
  if rows.all fun row => rows.all fun row' => (row.count.lt? row'.count).isSome then
    .ok (rows.insertionSort fun row row' => row.count.lt? row'.count ≠ some true)
  else .error (.typeError "'<' not supported between instances of 'str' and 'int'")

section Handlers

variable (es : Elastic Doc)

/-- The fields with which the search is answered: a field that the first answer complains of is
    taken as a keyword in the second. -/
def answeredFields (index : SearchIndex) (query : Query) (fields : List String) :
    Except PyError (List String) :=
  match es.reason index query fields with
  | none => .ok fields
  | some reason => do
      let fields ← fixKeywordIssue reason fields
      if (es.reason index query fields).isSome then .error (.other "RequestError") else .ok fields

/-- The search of one kind: the fields it leaves for the next, and its rows. -/
def listKind (form : AlertForm) (searchKind : String) (fields : List String) :
    Except PyError (List String × List (TableRow Doc)) := do
  let fields :=
    if searchKind = "signal" then fields.replace "rule.name" "signal.rule.name" else fields
  let index := indexOf (.text searchKind)
  let query ← buildQueryClause (yesNo form.acknowledged) (yesNo form.escalated)
    form.startDatetime form.endDatetime (.text searchKind) [] (yesNo form.showClosed)
  let fields ← answeredFields es index query fields
  let docs := es.selected index query
  .ok (fields, getRow fields (aggregate es.keysOf es.shown fields docs)
    { cells := .empty, kind := searchKind, path := [], docs })

/-- `AlertsCtrlv2.get` -/
def getAlerts (form : AlertForm) (fields : List String) : Except PyError (List (TableRow Doc)) := do
  let (fields, alerts) ← listKind es form "alert" fields
  let rows := alerts.map (finishRow "alert")
  let (_, signals) ← listKind es form "signal" fields
  sortByCount ((rows ++ signals).map (finishRow "signal"))

/-! ## The requests of a row -/

/-- `payload["event.kind"]`, if the payload has it -/
def searchKindOf (payload : Payload) : Cell := (payload.get? "event.kind").getD (.text "alert")

/-- The query for a payload. -/
def payloadQuery (form : AlertForm) (payload : Payload) (showClosed : String) :
    Except PyError (Payload × Query) := do
  let searchKind := searchKindOf payload
  let payload ← turnRuleName payload
  let query ← buildQueryClause (yesNo form.acknowledged) (yesNo form.escalated)
    form.startDatetime form.endDatetime searchKind (additionalMatchClauses payload) showClosed
  .ok (payload, query)

structure SearchBody where
  query : Query
  size : Int
  source : List String

/-- `int(value)` -/
def Cell.toInt : Cell → Except PyError Int
  | .number n => .ok n
  | .flag b => .ok (if b then 1 else 0)
  | .text s =>
      match s.toInt? with
      | some n => .ok n
      | none => .error (.valueError "invalid literal for int()")

/-- `AlertsDetailedCtrl.post` for the count override 0, the body of its search -/
def alertListBody (form : AlertForm) (payload : Payload) :
    Except PyError (SearchIndex × SearchBody) := do
  let searchKind := searchKindOf payload
  let (payload, query) ← payloadQuery form payload (yesNo form.showClosed)
  let source := getFieldList payload
  match payload.get? "count" with
  | none => .error (.keyError "count")
  | some count => do
      let size ← count.toInt
      .ok (indexOf searchKind, { query, size := min size 5000, source })

/-- What comes of a case that is created. -/
inductive HiveAnswer where
  | created (caseId : String)
  | failed
deriving DecidableEq, Repr

/-- `search` with a body -/
def searchBody (index : SearchIndex) (body : SearchBody) : Except PyError (List Doc) :=
  if body.size < 0 then .error (.other "RequestError") else es.search index body.query

/-- `AlertsAckCtrl.post`, the documents it updates -/
def modifyAlerts (form : AlertForm) (performEscalation : Bool) (hive : HiveAnswer)
    (payload : Payload) : Except PyError (List Doc) := do
  let searchKind := searchKindOf payload
  let (_, query) ← payloadQuery form payload "no"
  if performEscalation then
    match hive with
    | .failed => .ok []
    | .created _ =>
        if form.escalated then .error (.unboundLocalError "ret_val")
        else es.search (indexOf searchKind) query
  else es.search (indexOf searchKind) query

/-- `AlertsDelCtrl.post`, the documents it updates -/
def removeAlerts (form : AlertForm) (payload : Payload) : Except PyError (List Doc) := do
  let (_, query) ← payloadQuery form payload (yesNo form.showClosed)
  let hits ← es.search .allIndexes query
  match hits with
  | [] => .error .indexError
  | hit :: _ =>
      match es.hiveId hit with
      | none => .error (.keyError "event")
      | some hiveId => es.search .allIndexes (.single (.matching "event.hive_id" hiveId))

/-! ## The page -/

/-- What the page offers for a row. -/
inductive AlertAction where
  | drillDown
  /-- and its undoing -/
  | acknowledge
  | escalate
  | remove
deriving DecidableEq, Repr

/-- The cells that are sent. -/
def AlertAction.payload : AlertAction → Payload → Payload
  | .escalate, cells => cells.upsert "event.escalated" (.flag true)
  | _, cells => cells

/-- The documents that the request selects, Hive having created its case. -/
def AlertAction.request (action : AlertAction) (form : AlertForm) (caseId : String)
    (cells : Payload) : Except PyError (List Doc) :=
  let payload := action.payload cells
  match action with
  | .drillDown => do
      let (index, body) ← alertListBody form payload
      searchBody es index body
  | .acknowledge => modifyAlerts es form false (.created caseId) payload
  | .escalate => modifyAlerts es form true (.created caseId) payload
  | .remove => removeAlerts es form payload

end Handlers

end Queries

end Tfplenum
