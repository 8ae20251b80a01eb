/-
  Tfplenum.Service.KitTokensService

  The registry of kits: the requests of `service/kit_tokens_service.py` that create
  and delete a token, the report of a remote agent and the views of what it
  reported, of `service/health_service.py` and `service/health_dashboard_service.py`.

  Ids are those that `ObjectId` takes.  The token and the id of a new document, and
  the time of a report, are what the script, `ObjectId()` and `time.time()` answer
  the request with; times are in microseconds.
-/

import Tfplenum.Json
import Tfplenum.Lib.Interleave
import Tfplenum.Lib.Table

namespace Tfplenum

open Lib

/-! ## Documents -/

/-- A document of `kit_tokens` besides its `_id`. -/
structure KitDoc where
  ipaddress : String
  fields : List (String × Json)

namespace KitDoc

/-- `response[key]` -/
def getItem (doc : KitDoc) (key : String) : Except PyError Json :=
  match doc.fields.lookup key with
  | some value => .ok value
  | none => .error (.keyError key)

def hasAddress (ipaddress : String) : String → KitDoc → Bool :=
  fun _ doc => doc.ipaddress = ipaddress

end KitDoc

/-- `mongo_kit_tokens()`, by `_id` -/
abbrev KitTokens : Type := Table String KitDoc

inductive KitOp where
  /-- `find_one({"ipaddress": ipaddress})` -/
  | findOne (ipaddress : String)
  /-- `insert_one`, answered `false` for a duplicate key -/
  | insertOne (id : String) (doc : KitDoc)
  /-- `replace_one({"ipaddress": ipaddress}, doc)`, answered `false` for a document
      that cannot be stored in the place of the one that is found -/
  | replaceOne (ipaddress : String) (doc : KitDoc)
  /-- `delete_one({"_id": id})`, answered with the deleted count -/
  | deleteOne (id : String)

abbrev KitOp.Res : KitOp → Type
  | .findOne _ => Option (String × KitDoc)
  | .insertOne _ _ => Bool
  | .replaceOne _ _ => Bool
  | .deleteOne _ => Nat

/-- The `_id` of a document is not replaced by another, and one in a report is no
    `ObjectId`; a field of a replacement does not start with a dollar sign. -/
def KitDoc.storable (doc : KitDoc) : Bool :=
  doc.fields.all fun field => field.1 ≠ "_id" ∧ field.1.toList.head? ≠ some '$'

def applyKitOp : Handler KitOp KitOp.Res KitTokens
  | .findOne ipaddress, tokens => (tokens.findOne (KitDoc.hasAddress ipaddress), tokens)
  | .insertOne id doc, tokens =>
      match tokens.insert? id doc with
      | some tokens' => (true, tokens')
      | none => (false, tokens)
  | .replaceOne ipaddress doc, tokens =>
      match tokens.findOne (KitDoc.hasAddress ipaddress) with
      | none => (true, tokens)
      | some row =>
          if doc.storable then (true, tokens.modify row.1 fun _ => doc) else (false, tokens)
  | .deleteOne id, tokens => (if (tokens.get? id).isSome then 1 else 0, tokens.erase id)

abbrev KitProg (α : Type) : Type := Program KitOp KitOp.Res PyError α

/-! ## Tokens -/

/-- `KitTokenSchemaModel` -/
structure KitTokenPayload where
  ipaddress : String
  kitTokenId : Option String
deriving DecidableEq, Repr

inductive KitResponse where
  | kitToken (ipaddress token kitTokenId : String)
  | success (message : String)
  /-- `OK_RESPONSE` -/
  | ok
  /-- `NO_CONTENT` -/
  | noContent
deriving DecidableEq, Repr

/-- The document that `post_kit_tokens` inserts -/
def newKitDoc (payload : KitTokenPayload) (token : String) : KitDoc where
  ipaddress := payload.ipaddress
  fields := (payload.kitTokenId.map fun id => ("kit_token_id", .str id)).toList ++
    [("token", .str token)]

/-- `post_kit_tokens` -/
def postKitTokens (payload : KitTokenPayload) (token objectId : String) : KitProg KitResponse := do
  let found ← Program.perform (KitOp.findOne payload.ipaddress)
  if found.isSome then Program.raise (.other "ResponseConflictError")
  else do
    let inserted ← Program.perform (KitOp.insertOne objectId (newKitDoc payload token))
    if inserted then return .kitToken payload.ipaddress token objectId
    else Program.raise .duplicateKeyError

/-- `delete_kit_tokens` -/
def deleteKitTokens (kitTokenId : String) : KitProg KitResponse := do
  let deletedCount ← Program.perform (KitOp.deleteOne kitTokenId)
  if deletedCount = 0 then Program.raise (.other "NotFoundError")
  else return .success "deleted kit token."

/-! ## Reports -/

/-- `d[key] = value` -/
def setItem (fields : List (String × Json)) (key : String) (value : Json) : List (String × Json) :=
  fields.filter (fun field => field.1 ≠ key) ++ [(key, value)]

/-- What `json.loads` makes of a report that names an address: the address and the
    other fields. -/
structure AgentReport where
  ipaddress : String
  fields : List (String × Json)

/-- `post_remote_agent`; there may be no payload. -/
def postRemoteAgent (payload : Option AgentReport) (time : Int) : KitProg KitResponse :=
  match payload with
  | none => return .noContent
  | some report => do
      let doc : KitDoc := ⟨report.ipaddress, setItem report.fields "timestamp" (.num time)⟩
      let stored ← Program.perform (KitOp.replaceOne report.ipaddress doc)
      if stored then return .ok else Program.raise (.other "WriteError")

/-! ## Views -/

/-- `value if value else []` -/
def orEmpty (value : Json) : Json := if value.truthy then value else .arr []

/-- `find_one(...)[key]`, as the views answer with it -/
def viewField (response : Option KitDoc) (key : String) : Except PyError Json :=
  match response with
  | none => .error (.typeError "'NoneType' object is not subscriptable")
  | some doc => (doc.getItem key).map orEmpty

def KitTokens.byAddress (tokens : KitTokens) (ipaddress : String) : Option KitDoc :=
  (tokens.findOne (KitDoc.hasAddress ipaddress)).map Prod.snd

def getNodesStatusRemote (tokens : KitTokens) (tokenId : String) : Except PyError Json :=
  viewField (tokens.get? tokenId) "node_status"

def getPodsStatusRemote (tokens : KitTokens) (tokenId : String) : Except PyError Json :=
  viewField (tokens.get? tokenId) "pod_status"

/-- `get_elasticsearch_rejects_remote`; for an unknown address it returns nothing. -/
def getElasticsearchRejectsRemote (tokens : KitTokens) (ipaddress : String) :
    Except PyError Json :=
  match tokens.byAddress ipaddress with
  | none => .ok .null
  | some doc => viewField (some doc) "write_rejects"

def getZeekPacketsRemote (tokens : KitTokens) (ipaddress : String) : Except PyError Json :=
  viewField (tokens.byAddress ipaddress) "zeek"

def getSuricataPacketsRemote (tokens : KitTokens) (ipaddress : String) : Except PyError Json :=
  viewField (tokens.byAddress ipaddress) "suricata"

/-- `value[0]` -/
def firstItem : Json → Except PyError Json
  | .arr (value :: _) => .ok value
  | .arr [] => .error .indexError
  | .str text =>
      match text.toList with
      | c :: _ => .ok (.str (String.singleton c))
      | [] => .error .indexError
  | .obj _ => .error (.keyError "0")
  | _ => .error (.typeError "object is not subscriptable")

/-- `data.get("timestamp", 0) > (time.time() - 30)` -/
def isRecent (doc : KitDoc) (time : Int) : Except PyError Bool :=
  match (doc.fields.lookup "timestamp").getD (.num 0) with
  | .num timestamp => .ok (timestamp > time - 30000000)
  | .bool b => .ok ((if b then 1 else 0) > time - 30000000)
  | _ => .error (.typeError "'>' not supported between instances")

/-- One round of the loop of `get_remote_health_dashboard_status` -/
def dashboardSummary (kitTokenId : String) (doc : KitDoc) (time : Int) : Except PyError Json := do
  if ← isRecent doc time then
    let token ← doc.getItem "token"
    let elasticsearchStatus ←
      (← firstItem (← doc.getItem "dashboard_status")).getItem "elasticsearch_status"
    let kibanaStatus ← (← firstItem (← doc.getItem "dashboard_status")).getItem "kibana_status"
    let hostname ← doc.getItem "hostname"
    return .obj [("ipaddress", .str doc.ipaddress), ("token", token),
      ("kit_token_id", .str kitTokenId), ("elasticsearch_status", elasticsearchStatus),
      ("kibana_status", kibanaStatus), ("hostname", hostname)]
  else
    return .obj [("ipaddress", .str doc.ipaddress), ("elasticsearch_status", .null),
      ("token", .null), ("kit_token_id", .null), ("kibana_status", .null), ("hostname", .null)]

/-- `get_remote_health_dashboard_status`, where the clock shows `time id` when it comes to
    the document `id` -/
def getRemoteHealthDashboardStatus (tokens : KitTokens) (time : String → Int) :
    Except PyError (List Json) :=
  tokens.rows.mapM fun row => dashboardSummary row.1 row.2 (time row.1)

/-! ## Requests -/

inductive KitRequest where
  | create (payload : KitTokenPayload) (token objectId : String)
  | delete (kitTokenId : String)
  | report (payload : Option AgentReport) (time : Int)

def KitRequest.program : KitRequest → KitProg KitResponse
  | .create payload token objectId => postKitTokens payload token objectId
  | .delete kitTokenId => deleteKitTokens kitTokenId
  | .report payload time => postRemoteAgent payload time

/-- Any number of requests, from an empty registry. -/
def kitRequests (requests : List KitRequest) :
    Config KitOp KitOp.Res PyError KitResponse KitTokens :=
  ⟨Table.empty, requests.map KitRequest.program⟩

end Tfplenum
