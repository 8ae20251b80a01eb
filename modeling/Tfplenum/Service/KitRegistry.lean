/-
  Tfplenum.Service.KitRegistry

  The registry of kits under any interleaving of creations, deletions and reports.
  Creation looks for the address and inserts in two steps, so an address is
  registered twice exactly if one is inserted that has come in since; a report
  replaces the whole document, token included; and every view indexes fields that
  only a report brings.
-/

import Tfplenum.Service.KitTokensService

namespace Tfplenum

open Lib

variable {requests : List KitRequest}

/-! ## The three parts -/

/-- No two documents have one address. -/
def AddressesUnique (tokens : KitTokens) : Prop :=
  ∀ id id' doc doc', tokens.get? id = some doc → tokens.get? id' = some doc' →
    doc.ipaddress = doc'.ipaddress → id = id'

/-- The token is what was generated for the request that registered the address under
    the id; an `ObjectId` is given to one request only. -/
def Generated (requests : List KitRequest) (id ipaddress : String) (token : Option Json) : Prop :=
  ∃ payload generated, KitRequest.create payload generated id ∈ requests ∧
    payload.ipaddress = ipaddress ∧ token = some (.str generated)

/-- Every document has the token generated when its address was registered. -/
def TokensGenerated (requests : List KitRequest) (tokens : KitTokens) : Prop :=
  ∀ id doc, tokens.get? id = some doc →
    Generated requests id doc.ipaddress (doc.fields.lookup "token")

def Returns {α : Type} (result : Except PyError α) : Prop := ∃ value, result = .ok value

/-- For every registered kit the views return a value, with the clock at `time`. -/
structure ViewsReturn (tokens : KitTokens) (time : String → Int) : Prop where
  nodes : ∀ id doc, tokens.get? id = some doc → Returns (getNodesStatusRemote tokens id)
  pods : ∀ id doc, tokens.get? id = some doc → Returns (getPodsStatusRemote tokens id)
  rejects : ∀ id doc, tokens.get? id = some doc →
    Returns (getElasticsearchRejectsRemote tokens doc.ipaddress)
  zeek : ∀ id doc, tokens.get? id = some doc → Returns (getZeekPacketsRemote tokens doc.ipaddress)
  suricata : ∀ id doc, tokens.get? id = some doc →
    Returns (getSuricataPacketsRemote tokens doc.ipaddress)
  dashboard : Returns (getRemoteHealthDashboardStatus tokens time)

/-! ## When they hold -/

/-- Where a request inserts a document, its address is not registered. -/
def InsertsFreeAddress (e : Event KitOp) (tokens : KitTokens) : Prop :=
  ∀ id doc, e.op = .insertOne id doc → tokens.get? id = none →
    ∀ id' doc', tokens.get? id' = some doc' → doc'.ipaddress ≠ doc.ipaddress

/-- Where a report takes the place of a document, it carries the token generated for
    that document. -/
def ReportCarriesToken (requests : List KitRequest) (e : Event KitOp) (tokens : KitTokens) : Prop :=
  ∀ ipaddress doc, e.op = .replaceOne ipaddress doc → doc.storable = true →
    ∀ row, tokens.findOne (KitDoc.hasAddress ipaddress) = some row →
      Generated requests row.1 doc.ipaddress (doc.fields.lookup "token")

/-- The document has what the dashboard shows of a kit. -/
def KitDoc.HasDashboard (doc : KitDoc) : Prop :=
  ∃ first rest token elasticsearchStatus kibanaStatus hostname,
    doc.fields.lookup "dashboard_status" = some (.arr (.obj first :: rest)) ∧
    first.lookup "elasticsearch_status" = some elasticsearchStatus ∧
    first.lookup "kibana_status" = some kibanaStatus ∧
    doc.fields.lookup "token" = some token ∧ doc.fields.lookup "hostname" = some hostname

/-- Every registered kit has reported the fields that the views index: both states under
    its id, the rejects and packets in the document that is found by its address, and,
    if its report is younger than 30 seconds, those of the dashboard. -/
structure Reported (tokens : KitTokens) (time : String → Int) : Prop where
  states : ∀ id doc, tokens.get? id = some doc →
    (doc.fields.lookup "node_status").isSome = true ∧ (doc.fields.lookup "pod_status").isSome = true
  packets : ∀ id doc, tokens.get? id = some doc →
    ∀ found, tokens.byAddress doc.ipaddress = some found →
      (found.fields.lookup "write_rejects").isSome = true ∧
      (found.fields.lookup "zeek").isSome = true ∧ (found.fields.lookup "suricata").isSome = true
  dashboard : ∀ id doc, tokens.get? id = some doc →
    ∃ recent, isRecent doc (time id) = .ok recent ∧ (recent = true → doc.HasDashboard)

/-! ## Views -/

theorem returns_getItem_iff {doc : KitDoc} {key : String} :
    Returns (doc.getItem key) ↔ (doc.fields.lookup key).isSome = true := by
  rw [Returns, KitDoc.getItem]
  cases doc.fields.lookup key <;> simp

theorem returns_viewField_iff {doc : KitDoc} {key : String} :
    Returns (viewField (some doc) key) ↔ (doc.fields.lookup key).isSome = true := by
  rw [← returns_getItem_iff, viewField, Returns, Returns]
  cases doc.getItem key <;> simp [Except.map]

/-- A kit that is registered is found by its address. -/
theorem exists_byAddress {tokens : KitTokens} {id : String} {doc : KitDoc}
    (h : tokens.get? id = some doc) : ∃ found, tokens.byAddress doc.ipaddress = some found := by
  rw [KitTokens.byAddress]
  cases hfind : tokens.findOne (KitDoc.hasAddress doc.ipaddress) with
  | none =>
      have hno := Table.findOne_eq_none_iff.mp hfind id doc h
      simp [KitDoc.hasAddress] at hno
  | some row => exact ⟨row.2, rfl⟩

theorem returns_bind_iff {α β : Type} {x : Except PyError α} {f : α → Except PyError β} :
    Returns (x >>= f) ↔ ∃ a, x = .ok a ∧ Returns (f a) := by
  cases x with
  | error e => simp [Returns, bind, Except.bind]
  | ok a => simp [Returns, bind, Except.bind]

theorem getItem_eq_ok_iff {doc : KitDoc} {key : String} {value : Json} :
    doc.getItem key = .ok value ↔ doc.fields.lookup key = some value := by
  rw [KitDoc.getItem]
  cases doc.fields.lookup key <;> simp only [Except.ok.injEq, reduceCtorEq, Option.some.injEq]

theorem json_getItem_eq_ok_iff {json value : Json} {key : String} :
    json.getItem key = .ok value ↔
      ∃ fields, json = .obj fields ∧ fields.lookup key = some value := by
  cases json with
  | obj fields =>
      simp only [Json.getItem, Json.obj.injEq, exists_eq_left']
      cases fields.lookup key <;> simp only [Except.ok.injEq, reduceCtorEq, Option.some.injEq]
  | _ => simp [Json.getItem]

/-- The first of a list of which a field is read is an object. -/
theorem firstItem_eq_ok_obj_iff {json : Json} {first : List (String × Json)} :
    firstItem json = .ok (.obj first) ↔ ∃ rest, json = .arr (.obj first :: rest) := by
  cases json with
  | arr items => cases items <;> simp [firstItem]
  | str text =>
      simp only [firstItem]
      split <;> simp
  | _ => simp [firstItem]

theorem returns_dashboardSummary_iff {id : String} {doc : KitDoc} {time : Int} :
    Returns (dashboardSummary id doc time) ↔
      ∃ recent, isRecent doc time = .ok recent ∧ (recent = true → doc.HasDashboard) := by
  rw [dashboardSummary, returns_bind_iff]
  refine exists_congr fun recent => and_congr_right fun _ => ?_
  cases recent with
  | false =>
      refine ⟨fun _ h => ?_, fun _ => ⟨_, rfl⟩⟩
      cases h
  | true =>
      simp only [if_true, returns_bind_iff, getItem_eq_ok_iff, json_getItem_eq_ok_iff, true_implies]
      constructor
      · rintro ⟨token, htoken, status, hstatus, _, hfirst, elastic, ⟨first, rfl, helastic⟩, status',
          hstatus', _, hfirst', kibana, ⟨first', rfl, hkibana⟩, hostname, hhostname, -⟩
        cases hstatus.symm.trans hstatus'
        cases hfirst.symm.trans hfirst'
        obtain ⟨rest, rfl⟩ := firstItem_eq_ok_obj_iff.mp hfirst
        exact ⟨first, rest, token, elastic, kibana, hostname, hstatus, helastic, hkibana, htoken,
          hhostname⟩
      · rintro ⟨first, rest, token, elastic, kibana, hostname, hstatus, helastic, hkibana, htoken,
          hhostname⟩
        exact ⟨token, htoken, _, hstatus, _, rfl, elastic, ⟨first, rfl, helastic⟩, _, hstatus, _,
          rfl, kibana, ⟨first, rfl, hkibana⟩, hostname, hhostname, _, rfl⟩

theorem returns_mapM_iff {α β : Type} {l : List α} {f : α → Except PyError β} :
    Returns (l.mapM f) ↔ ∀ a ∈ l, Returns (f a) := by
  induction l with
  | nil => exact ⟨fun _ a ha => absurd ha List.not_mem_nil, fun _ => ⟨[], rfl⟩⟩
  | cons a l ih =>
      rw [List.mapM_cons, returns_bind_iff, List.forall_mem_cons, ← ih]
      constructor
      · rintro ⟨b, hb, hrest⟩
        obtain ⟨bs, hbs, -⟩ := returns_bind_iff.mp hrest
        exact ⟨⟨b, hb⟩, bs, hbs⟩
      · rintro ⟨⟨b, hb⟩, bs, hbs⟩
        exact ⟨b, hb, returns_bind_iff.mpr ⟨bs, hbs, _, rfl⟩⟩

/-- The views return for every registered kit exactly if every registered kit has reported
    what they index. -/
theorem viewsReturn_iff_reported (tokens : KitTokens) (time : String → Int) :
    ViewsReturn tokens time ↔ Reported tokens time := by
  -- the dashboard is one list of all kits, the other views are asked for one kit
  have hdashboard : Returns (getRemoteHealthDashboardStatus tokens time) ↔
      ∀ id doc, tokens.get? id = some doc →
        ∃ recent, isRecent doc (time id) = .ok recent ∧ (recent = true → doc.HasDashboard) := by
    rw [getRemoteHealthDashboardStatus, returns_mapM_iff]
    simp only [Prod.forall, returns_dashboardSummary_iff, Table.get?_eq_some_iff]
  constructor
  · intro h
    refine ⟨?_, ?_, hdashboard.mp h.dashboard⟩
    · intro id doc hget
      have hnodes := h.nodes id doc hget
      have hpods := h.pods id doc hget
      rw [getNodesStatusRemote, hget, returns_viewField_iff] at hnodes
      rw [getPodsStatusRemote, hget, returns_viewField_iff] at hpods
      exact ⟨hnodes, hpods⟩
    · intro id doc hget found hfound
      have hrejects := h.rejects id doc hget
      have hzeek := h.zeek id doc hget
      have hsuricata := h.suricata id doc hget
      simp only [getElasticsearchRejectsRemote, hfound, returns_viewField_iff] at hrejects
      rw [getZeekPacketsRemote, hfound, returns_viewField_iff] at hzeek
      rw [getSuricataPacketsRemote, hfound, returns_viewField_iff] at hsuricata
      exact ⟨hrejects, hzeek, hsuricata⟩
  · intro h
    -- the packets are looked up by the address of the kit, which finds some document
    have hpackets (id : String) (doc : KitDoc) (hget : tokens.get? id = some doc) :
        ∃ found, tokens.byAddress doc.ipaddress = some found ∧
          (found.fields.lookup "write_rejects").isSome = true ∧
          (found.fields.lookup "zeek").isSome = true ∧
          (found.fields.lookup "suricata").isSome = true := by
      obtain ⟨found, hfound⟩ := exists_byAddress hget
      exact ⟨found, hfound, h.packets id doc hget found hfound⟩
    constructor
    case dashboard => exact hdashboard.mpr h.dashboard
    all_goals intro id doc hget
    case nodes =>
      rw [getNodesStatusRemote, hget, returns_viewField_iff]
      exact (h.states id doc hget).1
    case pods =>
      rw [getPodsStatusRemote, hget, returns_viewField_iff]
      exact (h.states id doc hget).2
    all_goals obtain ⟨found, hfound, hrejects, hzeek, hsuricata⟩ := hpackets id doc hget
    case rejects =>
      simp only [getElasticsearchRejectsRemote, hfound, returns_viewField_iff]
      exact hrejects
    case zeek =>
      rw [getZeekPacketsRemote, hfound, returns_viewField_iff]
      exact hzeek
    case suricata =>
      rw [getSuricataPacketsRemote, hfound, returns_viewField_iff]
      exact hsuricata

/-! ## Steps -/

/-- An insertion is of a document that a request created under that id; a report replaces
    a document by one of the same address. -/
def KitOp.Issued (requests : List KitRequest) : KitOp → Prop
  | .insertOne id doc => ∃ payload token, KitRequest.create payload token id ∈ requests ∧
      doc = newKitDoc payload token
  | .replaceOne ipaddress doc => doc.ipaddress = ipaddress
  | _ => True

theorem issued_program {request : KitRequest} (h : request ∈ requests) :
    request.program.Uses (KitOp.Issued requests) := by
  cases request with
  | create payload token objectId =>
      refine .call trivial fun found => ?_
      simp only [Program.done_bind]
      split
      · exact .raise _
      · refine .call ⟨payload, token, h, rfl⟩ fun inserted => ?_
        simp only [Program.done_bind]
        split
        · exact .done _
        · exact .raise _
  | delete kitTokenId =>
      refine .call trivial fun deletedCount => ?_
      simp only [Program.done_bind]
      split
      · exact .raise _
      · exact .done _
  | report payload time =>
      cases payload with
      | none => exact .done _
      | some report =>
          refine .call rfl fun stored => ?_
          simp only [Program.done_bind]
          split
          · exact .done _
          · exact .raise _

theorem insertOne_cases (id : String) (doc : KitDoc) (tokens : KitTokens) :
    (tokens.get? id = none ∧ (applyKitOp (.insertOne id doc) tokens).2 = tokens.upsert id doc) ∨
    ((tokens.get? id).isSome = true ∧ (applyKitOp (.insertOne id doc) tokens).2 = tokens) := by
  cases hget : tokens.get? id with
  | none =>
      have hk : id ∉ tokens.rows.map Prod.fst := Table.get?_eq_none_iff.mp hget
      simp [applyKitOp, Table.insert?, Table.upsert, hk]
  | some old =>
      have hnone : tokens.insert? id doc = none := Table.insert?_eq_none_iff.mpr (by rw [hget]; rfl)
      simp [applyKitOp, hnone]

theorem replaceOne_cases (ipaddress : String) (doc : KitDoc) (tokens : KitTokens) :
    (∃ row, tokens.findOne (KitDoc.hasAddress ipaddress) = some row ∧ doc.storable = true ∧
      (applyKitOp (.replaceOne ipaddress doc) tokens).2 = tokens.modify row.1 fun _ => doc) ∨
    ((∀ row, tokens.findOne (KitDoc.hasAddress ipaddress) = some row → doc.storable = false) ∧
      (applyKitOp (.replaceOne ipaddress doc) tokens).2 = tokens) := by
  cases hfind : tokens.findOne (KitDoc.hasAddress ipaddress) with
  | none => simp [applyKitOp, hfind]
  | some row =>
      cases hstorable : doc.storable <;> simp [applyKitOp, hfind, hstorable]

theorem get?_of_modify {tokens : KitTokens} {id id' : String} {doc doc' : KitDoc}
    (h : (tokens.modify id fun _ => doc).get? id' = some doc') :
    (id' = id ∧ doc' = doc) ∨ (id' ≠ id ∧ tokens.get? id' = some doc') := by
  rw [Table.get?_modify] at h
  split at h
  · obtain ⟨_, -, rfl⟩ := Option.map_eq_some_iff.mp h
    exact .inl ⟨‹_›, rfl⟩
  · exact .inr ⟨‹_›, h⟩

theorem get?_of_upsert {tokens : KitTokens} {id id' : String} {doc doc' : KitDoc}
    (h : (tokens.upsert id doc).get? id' = some doc') :
    (id' = id ∧ doc' = doc) ∨ (id' ≠ id ∧ tokens.get? id' = some doc') := by
  rw [Table.get?_upsert] at h
  split at h
  · exact .inl ⟨‹_›, (Option.some.inj h).symm⟩
  · exact .inr ⟨‹_›, h⟩

theorem get?_of_erase {tokens : KitTokens} {id id' : String} {doc : KitDoc}
    (h : (tokens.erase id).get? id' = some doc) : tokens.get? id' = some doc := by
  rw [Table.get?_erase] at h
  split at h
  · cases h
  · exact h

/-- Addresses stay unique at a step exactly if it inserts no registered address. -/
theorem addressesUnique_step_iff {t : Nat} {op : KitOp} {tokens : KitTokens}
    (hop : op.Issued requests) (h : AddressesUnique tokens) :
    AddressesUnique (applyKitOp op tokens).2 ↔ InsertsFreeAddress ⟨t, op⟩ tokens := by
  have hother (hno : ∀ id doc, op ≠ .insertOne id doc) : InsertsFreeAddress ⟨t, op⟩ tokens :=
    fun id doc heq => absurd heq (hno id doc)
  cases op with
  | findOne ipaddress => exact iff_of_true h (hother fun id doc heq => by cases heq)
  | deleteOne id =>
      refine iff_of_true ?_ (hother fun id doc heq => by cases heq)
      intro id₁ id₂ doc₁ doc₂ h₁ h₂
      exact h id₁ id₂ doc₁ doc₂ (get?_of_erase h₁) (get?_of_erase h₂)
  | replaceOne ipaddress doc =>
      refine iff_of_true ?_ (hother fun id doc heq => by cases heq)
      rcases replaceOne_cases ipaddress doc tokens with ⟨row, hfind, -, hstate⟩ | ⟨-, hstate⟩
      · -- the document that is found has the address of the one that replaces it
        obtain ⟨hrow, hname⟩ := Table.findOne_eq_some hfind
        have hsame : row.2.ipaddress = doc.ipaddress :=
          (of_decide_eq_true hname).trans (Eq.symm hop)
        rw [hstate]
        intro id₁ id₂ doc₁ doc₂ h₁ h₂ heq
        rcases get?_of_modify h₁ with ⟨rfl, rfl⟩ | ⟨-, hold₁⟩
        · rcases get?_of_modify h₂ with ⟨rfl, -⟩ | ⟨-, hold₂⟩
          · rfl
          · exact h _ _ _ _ hrow hold₂ (hsame.trans heq)
        -- the replaced document has the address of one that was there
        · rcases get?_of_modify h₂ with ⟨rfl, rfl⟩ | ⟨-, hold₂⟩
          · exact h _ _ _ _ hold₁ hrow (heq.trans hsame.symm)
          · exact h _ _ _ _ hold₁ hold₂ heq
      · rw [hstate]
        exact h
  | insertOne id doc =>
      rcases insertOne_cases id doc tokens with ⟨hfree, hstate⟩ | ⟨htaken, hstate⟩
      · rw [hstate]
        constructor
        -- an address that is registered would be there twice
        · intro hunique id' doc' heq _ id'' doc'' hget hname
          cases heq
          have hne : id'' ≠ id := by
            rintro rfl
            rw [hfree] at hget
            cases hget
          refine hne (hunique id'' id doc'' doc ?_ ?_ hname)
          · rw [Table.get?_upsert, if_neg hne, hget]
          · rw [Table.get?_upsert, if_pos rfl]
        · intro hinsert id₁ id₂ doc₁ doc₂ h₁ h₂ heq
          have hnew := hinsert id doc rfl hfree
          rcases get?_of_upsert h₁ with ⟨rfl, rfl⟩ | ⟨-, hold₁⟩
          · rcases get?_of_upsert h₂ with ⟨rfl, -⟩ | ⟨-, hold₂⟩
            · rfl
            · exact absurd heq.symm (hnew id₂ doc₂ hold₂)
          · rcases get?_of_upsert h₂ with ⟨rfl, rfl⟩ | ⟨-, hold₂⟩
            · exact absurd heq (hnew id₁ doc₁ hold₁)
            · exact h _ _ _ _ hold₁ hold₂ heq
      · rw [hstate]
        refine iff_of_true h fun id' doc' heq hfree => ?_
        cases heq
        rw [hfree] at htaken
        cases htaken

theorem lookup_token_newKitDoc (payload : KitTokenPayload) (token : String) :
    (newKitDoc payload token).fields.lookup "token" = some (.str token) := by
  rw [newKitDoc]
  cases payload.kitTokenId with
  | none => rfl
  | some id => simp [List.lookup_cons]

/-- The tokens stay those generated at a step exactly if it puts no report without the
    token in a document's place. -/
theorem tokensGenerated_step_iff {t : Nat} {op : KitOp} {tokens : KitTokens}
    (hop : op.Issued requests) (h : TokensGenerated requests tokens) :
    TokensGenerated requests (applyKitOp op tokens).2 ↔
      ReportCarriesToken requests ⟨t, op⟩ tokens := by
  have hother (hno : ∀ ipaddress doc, op ≠ .replaceOne ipaddress doc) :
      ReportCarriesToken requests ⟨t, op⟩ tokens :=
    fun ipaddress doc heq => absurd heq (hno ipaddress doc)
  cases op with
  | findOne ipaddress => exact iff_of_true h (hother fun ipaddress doc heq => by cases heq)
  | deleteOne id =>
      refine iff_of_true ?_ (hother fun ipaddress doc heq => by cases heq)
      exact fun id' doc hget => h id' doc (get?_of_erase hget)
  | insertOne id doc =>
      refine iff_of_true ?_ (hother fun ipaddress doc heq => by cases heq)
      rcases insertOne_cases id doc tokens with ⟨-, hstate⟩ | ⟨-, hstate⟩
      · rw [hstate]
        intro id' doc' hget
        rcases get?_of_upsert hget with ⟨rfl, rfl⟩ | ⟨-, hget⟩
        -- the token of a new document is the one generated for it
        · obtain ⟨payload, token, hrequest, rfl⟩ := hop
          exact ⟨payload, token, hrequest, rfl, lookup_token_newKitDoc payload token⟩
        · exact h id' doc' hget
      · rw [hstate]
        exact h
  | replaceOne ipaddress doc =>
      rcases replaceOne_cases ipaddress doc tokens
        with ⟨row, hfind, hstorable, hstate⟩ | ⟨hno, hstate⟩
      · rw [hstate]
        constructor
        · intro hafter ipaddress' doc' heq _ row' hfind'
          cases heq
          cases hfind.symm.trans hfind'
          refine hafter row.1 doc ?_
          rw [Table.get?_modify, if_pos rfl, (Table.findOne_eq_some hfind).1]
          rfl
        · intro hcarries id doc' hget
          rcases get?_of_modify hget with ⟨rfl, rfl⟩ | ⟨-, hget⟩
          · exact hcarries ipaddress doc' rfl hstorable row hfind
          · exact h id doc' hget
      · rw [hstate]
        refine iff_of_true h fun ipaddress' doc' heq hstorable row hfind => ?_
        cases heq
        rw [hno row hfind] at hstorable
        cases hstorable

/-! ## Runs -/

/-- What an agent with the token reports. -/
def agentReport : AgentReport where
  ipaddress := "10.40.12.146"
  fields := [("token", .str "eyJ0eXAi"), ("hostname", .str "kit1"), ("node_status", .arr []),
    ("pod_status", .arr []), ("write_rejects", .arr []), ("zeek", .arr []), ("suricata", .arr []),
    ("dashboard_status", .arr [.obj [("elasticsearch_status", .str "green"),
      ("kibana_status", .str "green")]])]

/-- Two kits are registered, and the first of them reports. -/
def twoKits : List KitRequest :=
  [.create ⟨"10.40.12.146", none⟩ "eyJ0eXAi" "64d1f0c2",
    .report (some agentReport) 1659960000000000,
    .create ⟨"10.40.14.20", none⟩ "eyJhbGci" "64d1f0c3"]

/-- The report comes while the second kit has been looked for and is not inserted. -/
def reportedBetween : List (Event KitOp) × Config KitOp KitOp.Res PyError KitResponse KitTokens :=
  (kitRequests twoKits).schedule applyKitOp [0, 2, 0, 1, 2]

/-- Both kits are registered, and one has reported what the dashboard shows of it. -/
example : reportedBetween.2.state.rows.map (fun row => (row.1, (row.2.fields.lookup
    "dashboard_status").isSome)) = [("64d1f0c2", true), ("64d1f0c3", false)] := by
  decide +kernel

/-- A kit is registered, and nothing has been reported yet. -/
def registeredOnly : List (Event KitOp) × Config KitOp KitOp.Res PyError KitResponse KitTokens :=
  (kitRequests [.create ⟨"10.40.12.146", none⟩ "eyJ0eXAi" "64d1f0c2"]).schedule applyKitOp [0, 0]

/-- The three parts in every state, without a condition on the runs. -/
def RegistryIntegrity : Prop :=
  ∀ (requests : List KitRequest) (es : List (Event KitOp))
    (c' : Config KitOp KitOp.Res PyError KitResponse KitTokens),
    Run applyKitOp (kitRequests requests) es c' →
      AddressesUnique c'.state ∧ TokensGenerated requests c'.state ∧
        ∀ time, ViewsReturn c'.state time

end Tfplenum
