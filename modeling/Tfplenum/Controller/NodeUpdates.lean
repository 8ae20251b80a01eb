/-
  Tfplenum.Controller.NodeUpdates

  Operations that load one node, change one field of it and save the whole of it,
  interleaved.  What they are for is a sequence of field updates, each by itself
  atomic (`FieldWrite`, `LastWritten`); what they do is that sequence as long as
  every save finds the stored document, up to the field it sets, as it was loaded
  (`FreshSaves`).

  `Node.Loads` connects the two ends of an operation: a node that was loaded from
  a document dumps to that document.
-/

import Tfplenum.Controller.NodeInFlight

namespace Tfplenum

open Lib Program

/-! ## Field updates -/

/-- The fields the operations change. -/
inductive NodeField where
  | vpnStatus
  | deviceFacts

/-- A field and what is written to it. -/
inductive FieldWrite where
  | vpnStatus (status : Option Bool)
  | deviceFacts (facts : List (String × Json))

namespace NodeField

/-- The document without the field. -/
def clear : NodeField → NodeDoc → NodeDoc
  | .vpnStatus, doc => { doc with vpnStatus := none }
  | .deviceFacts, doc => { doc with deviceFacts := [] }

/-- What a saved document writes to the field. -/
def write : NodeField → NodeDoc → FieldWrite
  | .vpnStatus, doc => .vpnStatus doc.vpnStatus
  | .deviceFacts, doc => .deviceFacts doc.deviceFacts

end NodeField

namespace FieldWrite

def apply : FieldWrite → NodeDoc → NodeDoc
  | .vpnStatus status, doc => { doc with vpnStatus := status }
  | .deviceFacts facts, doc => { doc with deviceFacts := facts }

def vpnStatus? : FieldWrite → Option (Option Bool)
  | .vpnStatus status => some status
  | .deviceFacts _ => none

def deviceFacts? : FieldWrite → Option (List (String × Json))
  | .vpnStatus _ => none
  | .deviceFacts facts => some facts

end FieldWrite

/-- A document that agrees with the stored one up to the field replaces it as a
    write to the field would. -/
theorem NodeField.write_apply {field : NodeField} {doc stored : NodeDoc}
    (h : field.clear doc = field.clear stored) : (field.write doc).apply stored = doc := by
  obtain ⟨⟩ := doc
  obtain ⟨⟩ := stored
  cases field with
  | vpnStatus =>
      simp only [clear, NodeDoc.mk.injEq] at h
      simp only [write, FieldWrite.apply, NodeDoc.mk.injEq]
      tauto
  | deviceFacts =>
      simp only [clear, NodeDoc.mk.injEq] at h
      simp only [write, FieldWrite.apply, NodeDoc.mk.injEq]
      tauto

/-- `doc'` is `doc` with the last value written to each field. -/
structure LastWritten (doc : NodeDoc) (writes : List FieldWrite) (doc' : NodeDoc) : Prop where
  vpnStatus : doc'.vpnStatus = (writes.filterMap FieldWrite.vpnStatus?).getLast?.getD doc.vpnStatus
  deviceFacts :
    doc'.deviceFacts = (writes.filterMap FieldWrite.deviceFacts?).getLast?.getD doc.deviceFacts
  others : doc' = { doc with vpnStatus := doc'.vpnStatus, deviceFacts := doc'.deviceFacts }

theorem LastWritten.nil (doc : NodeDoc) : LastWritten doc [] doc := ⟨rfl, rfl, rfl⟩

theorem LastWritten.snoc {doc doc' : NodeDoc} {writes : List FieldWrite}
    (h : LastWritten doc writes doc') (write : FieldWrite) :
    LastWritten doc (writes ++ [write]) (write.apply doc') := by
  cases write with
  | vpnStatus status =>
      refine ⟨?_, ?_, ?_⟩
      · simp [FieldWrite.apply, FieldWrite.vpnStatus?, List.filterMap_append]
      · simp [FieldWrite.apply, FieldWrite.deviceFacts?, List.filterMap_append, h.deviceFacts]
      · rw [h.others]
        rfl
  | deviceFacts facts =>
      refine ⟨?_, ?_, ?_⟩
      · simp [FieldWrite.apply, FieldWrite.vpnStatus?, List.filterMap_append, h.vpnStatus]
      · simp [FieldWrite.apply, FieldWrite.deviceFacts?, List.filterMap_append]
      · rw [h.others]
        rfl

/-! ## Operations on one node -/

/-- The one field of a node that the operation changes; the job state request saves
    no node. -/
def NodeOperation.field : NodeOperation → NodeField
  | .vpnStatus _ _ => .vpnStatus
  | .nodeState _ _ => .deviceFacts
  | .updateDeviceFacts _ _ => .deviceFacts
  | .gatherDeviceFacts _ _ _ _ => .deviceFacts
  | .deploymentJob _ _ _ _ _ _ _ => .deviceFacts

def startOperations (w : World) (operations : List NodeOperation) :
    Config Op Op.Res PyError Unit World where
  state := w
  threads := operations.map NodeOperation.program

def storedNode (nodeId : String) (w : World) : Option NodeDoc := (w.db .nodes).get? nodeId

/-- The document an operation saves under the id. -/
def savedNode? (nodeId : String) : Op → Option NodeDoc
  | .db (.replaceOne .nodes id doc) => if id = nodeId then some doc else none
  | _ => none

/-- The field updates of the node, in the order of the saves. -/
def writes (operations : List NodeOperation) (nodeId : String) (es : List (Event Op)) :
    List FieldWrite :=
  es.filterMap fun e =>
    match savedNode? nodeId e.op, operations[e.thread]? with
    | some doc, some operation => some (operation.field.write doc)
    | _, _ => none

/-- Whenever an operation saves the node, the stored document is, up to the field
    the operation sets, the one that was stored when the operation loaded it. -/
def FreshSaves (env : Environment) (w : World) (operations : List NodeOperation) (nodeId : String)
    (es : List (Event Op)) : Prop :=
  ∀ pre t load mid save post operation, es = pre ++ ⟨t, load⟩ :: mid ++ ⟨t, save⟩ :: post →
    (∀ e ∈ pre, e.thread ≠ t) → operations[t]? = some operation → (savedNode? nodeId save).isSome →
      (storedNode nodeId (replay (handle env) w (pre ++ ⟨t, load⟩ :: mid))).map
          operation.field.clear =
        (storedNode nodeId (replay (handle env) w pre)).map operation.field.clear

/-- Loading and saving the document changes nothing under the settings: the host
    name is under the domain, the address is written as addresses are printed, a
    MIP has its MAC address. -/
structure NodeDoc.Settled (db : Db) (doc : NodeDoc) : Prop where
  hostname : ∀ sdoc form, settingsDoc db = some sdoc →
    GeneralSettingsSchema.load (.obj (sdoc.fields generalSettingsId)) = .ok form →
      Lib.Pattern.endsWith doc.hostname.toList form.domain.toList = true
  ipAddress : ∀ ip, IPv4Address.parse doc.ipAddress = some ip → ip.print = doc.ipAddress
  macAddress : doc.nodeType = NodeTypes.mip → doc.macAddress.getD "" ≠ ""

theorem NodeDoc.Settled.congr {db db' : Db} {doc doc' : NodeDoc} (h : doc.Settled db)
    (hsettings : db' .settings = db .settings) (hhost : doc'.hostname = doc.hostname)
    (hip : doc'.ipAddress = doc.ipAddress) (hmac : doc'.macAddress = doc.macAddress)
    (htype : doc'.nodeType = doc.nodeType) : doc'.Settled db' := by
  refine ⟨?_, ?_, ?_⟩
  · intro sdoc form hs hform
    rw [settingsDoc, hsettings] at hs
    rw [hhost]
    exact h.hostname sdoc form hs hform
  · rw [hip]
    exact h.ipAddress
  · rw [htype, hmac]
    exact h.macAddress

/-! ## Loading a node -/

section Loads

variable {env : Environment} {nodeId : String} {settings : Table String GeneralSettingsDoc}

/-- The settings stay as they are. -/
def SettingsAre (settings : Table String GeneralSettingsDoc) (w : World) : Prop :=
  w.db .settings = settings

/-- The node with the id was loaded from the document stored under it in `s`: it
    dumps to that document. -/
def Node.Loads (nodeId : String) (s : World) (node : Node) : Prop :=
  node.id = nodeId → ∀ doc, storedNode nodeId s = some doc → doc.Settled s.db → node.dump = .ok doc

/-- What a loader performs: it reads. -/
abbrev Reads {α : Type} (env : Environment) (settings : Table String GeneralSettingsDoc)
    (p : Prog α) (Q : α → Prop) : Prop :=
  p.UsesWhile (handle env) (SettingsAre settings) Op.readsOnly Q

theorem reads_loadSettings :
    Reads env settings GeneralSettingsForm.loadFromDb fun o => ∀ form ∈ o, ∃ sdoc,
      settings.get? generalSettingsId = some sdoc ∧
        GeneralSettingsSchema.load (.obj (sdoc.fields generalSettingsId)) = .ok form := by
  have hfind : Reads env settings (Prog.findById .settings generalSettingsId)
      (· = settings.get? generalSettingsId) := by
    refine .call rfl fun s hs => .done ?_
    rw [← hs]
    rfl
  refine hfind.bind fun o ho => ?_
  cases o with
  | none => exact .done fun form hform => nomatch hform
  | some sdoc =>
      refine UsesWhile.bind (.ofExcept fun form hform => hform) fun form hform => .done ?_
      rintro form' ⟨⟩
      exact ⟨sdoc, ho.symm, hform⟩

variable {s : World} {id : String} {doc : NodeDoc}

theorem reads_setHostname (hs : SettingsAre settings s) :
    Reads env settings (Node.setHostname doc.hostname) fun hostname =>
      doc.Settled s.db → hostname = doc.hostname := by
  refine reads_loadSettings.bind fun o ho => ?_
  cases o with
  | none => exact .raise _
  | some form =>
      obtain ⟨sdoc, hsdoc, hform⟩ := ho form rfl
      refine .done fun hsettled => if_pos (hsettled.hostname sdoc form ?_ hform)
      rw [settingsDoc, hs, hsdoc]

theorem reads_setMacAddress :
    Reads env settings (Node.setMacAddress doc.macAddress doc.nodeType) fun macAddress =>
      doc.Settled s.db → macAddress = doc.macAddress := by
  unfold Node.setMacAddress
  split
  · rename_i hmissing
    have hmac : Reads env settings (some <$> Node.randMac) fun _ => True :=
      .of_uses (Node.readsOnly_randMac.bind fun _ => .done _)
    exact hmac.mono fun _ _ hsettled => absurd hmissing.1 (hsettled.macAddress hmissing.2)
  · exact .done fun _ => rfl

/-- A document is loaded as a node that dumps to it where it is settled, unless the
    node got a new id. -/
theorem reads_loadDoc (hid : ∀ n, env .uuid4 n ≠ nodeId) (hs : SettingsAre settings s)
    (hget : storedNode id s = some doc) :
    Reads env settings (Node.loadDoc (id, doc)) (Node.Loads nodeId s) := by
  refine UsesWhile.bind (.ofExcept fun data hdata => hdata) fun data hdata => ?_
  have hvalid := NodeSchema.valid_of_deserialize hdata
  obtain ⟨ip, hip⟩ := hvalid.ipAddress
  rw [NodeSchema.deserialize_fields hvalid hip] at hdata
  cases hdata
  rw [Node.init_ofDoc]
  have hnewId : Reads env settings (if id = "" then Prog.ask .uuid4 else pure id)
      fun id' => id' = nodeId → id = nodeId := by
    split
    · exact .call trivial fun w _ => .done fun h => absurd h (hid w.calls)
    · exact .done fun h => h
  refine hnewId.bind fun id' hid' => (reads_setHostname hs).bind fun hostname hhost => ?_
  refine (reads_setMacAddress (s := s)).bind fun macAddress hmac => .done ?_
  intro hnode doc' hget' hsettled
  obtain rfl : id = nodeId := hid' hnode
  obtain rfl : doc = doc' := Option.some.inj (hget.symm.trans hget')
  rw [Node.dump, Fields.Bool.serialize_ofOption, hhost hsettled, hmac hsettled]
  simp only [hsettled.ipAddress ip hip]
  rfl

/-- The row a query finds is loaded as the document stored under its id. -/
theorem reads_loadFromDb (hid : ∀ n, env .uuid4 n ≠ nodeId) (hostname : String) :
    (Node.loadFromDbUsingHostname hostname).UsesSince (handle env) (SettingsAre settings)
      Op.readsOnly
      (fun _ => Op.readsOnly) fun s o => ∀ node ∈ o, node.Loads nodeId s := by
  refine .call rfl fun s hs => ?_
  simp only [handle_db, DocOp.apply_findOne, done_bind]
  cases hrow : (s.db .nodes).findOne fun _ node => node.hostname = hostname with
  | none => exact .done fun node hnode => nomatch hnode
  | some row =>
      obtain ⟨id, doc⟩ := row
      have hload := reads_loadDoc hid hs (Table.findOne_eq_some hrow).1
      refine hload.bind fun node hnode => .done ?_
      rintro node' ⟨⟩
      exact hnode

/-! ## What the operations save -/

/-- Saved under the id is the document of `s`, up to the field, where that was
    settled. -/
def SavesField (field : NodeField) (nodeId : String) (s : World) (id : String) (doc : NodeDoc) :
    Prop :=
  id = nodeId → ∀ stored, storedNode nodeId s = some stored → stored.Settled s.db →
    field.clear doc = field.clear stored

theorem savesField_vpnStatus {node : Node} (hnode : node.Loads nodeId s) {status : Json}
    {doc : NodeDoc} (hdump : Node.dump { node with vpnStatus := status } = .ok doc) :
    SavesField .vpnStatus nodeId s node.id doc := by
  intro hid stored hget hsettled
  obtain ⟨_, -, rfl⟩ := Node.eq_of_dump (hnode hid stored hget hsettled)
  obtain ⟨_, -, rfl⟩ := Node.eq_of_dump hdump
  rfl

theorem savesFacts_deviceFacts {node : Node} (hnode : node.Loads nodeId s) :
    SavesFacts (SavesField .deviceFacts nodeId s) node := by
  intro facts doc hdump hid stored hget hsettled
  obtain ⟨status, hstatus, rfl⟩ := Node.eq_of_dump (hnode hid stored hget hsettled)
  obtain ⟨status', hstatus', rfl⟩ := Node.eq_of_dump hdump
  -- the status is written as it was read
  obtain rfl : status = status' := Except.ok.inj (hstatus.symm.trans hstatus')
  rfl

/-- A program that loads a node and then saves it with one field changed. -/
theorem usesSince_load {α : Type} {field : NodeField} (hid : ∀ n, env .uuid4 n ≠ nodeId)
    (hostname : String) {rest : Option Node → Prog α} (hnone : (rest none).Uses Op.readsOnly)
    (hsome : ∀ s node, node.Loads nodeId s →
      (rest (some node)).Uses (Op.saves (SavesField field nodeId s))) :
    ((Node.loadFromDbUsingHostname hostname).bind rest).UsesSince (handle env)
      (SettingsAre settings) Op.readsOnly (fun s => Op.saves (SavesField field nodeId s))
      fun _ _ => True := by
  refine ((reads_loadFromDb hid hostname).weaken fun s op hop => .inl hop).bind fun s o ho => ?_
  cases o with
  | none => exact .of_uses (saves_of_readsOnly hnone)
  | some node => exact .of_uses (hsome s node (ho node rfl))

theorem usesSince_withNode (hid : ∀ n, env .uuid4 n ≠ nodeId) (hostname : String)
    {job : Node → Prog Unit}
    (hjob : ∀ s node, node.Loads nodeId s →
      (job node).Uses (Op.saves (SavesField .deviceFacts nodeId s))) :
    (withNode hostname job).UsesSince (handle env) (SettingsAre settings) Op.readsOnly
      (fun s => Op.saves (SavesField .deviceFacts nodeId s)) fun _ _ => True :=
  usesSince_load hid hostname (.done _) hjob

theorem usesSince_answerErrors {field : NodeField} (invalidState : String) {p : Prog Response}
    (hp : p.UsesSince (handle env) (SettingsAre settings) Op.readsOnly
      (fun s => Op.saves (SavesField field nodeId s)) fun _ _ => True) :
    (discard (answerErrors invalidState p) : Prog Unit).UsesSince (handle env)
      (SettingsAre settings)
      Op.readsOnly (fun s => Op.saves (SavesField field nodeId s)) fun _ _ => True := by
  refine UsesSince.bind (hp.tryExcept fun s e => ?_) fun _ _ _ => .done trivial
  split
  · exact .done trivial
  · split
    · exact .done trivial
    · exact .raise _

/-- Every operation begins with a read, and saves the node it read with its own
    field changed. -/
theorem NodeOperation.usesSince_program (hid : ∀ n, env .uuid4 n ≠ nodeId)
    (operation : NodeOperation) :
    operation.program.UsesSince (handle env) (SettingsAre settings) Op.readsOnly
      (fun s => Op.saves (SavesField operation.field nodeId s)) fun _ _ => True := by
  cases operation with
  | vpnStatus hostname payload =>
      refine usesSince_answerErrors _ (usesSince_load hid hostname (.done _) fun s node hnode => ?_)
      exact NodeVpnCtrl.saves_update fun status doc _ hdump => savesField_vpnStatus hnode hdump
  | nodeState hostname payload =>
      refine usesSince_answerErrors _ (usesSince_load hid hostname (.done _) fun s node hnode => ?_)
      exact NodeStateCtrl.saves_update node payload
  | updateDeviceFacts hostname password =>
      refine usesSince_withNode hid hostname fun s node hnode => Uses.bind ?_ fun _ => .done _
      exact saves_updateDeviceFactsJob (savesFacts_deviceFacts hnode) password
  | gatherDeviceFacts hostname password jobId polls =>
      refine usesSince_withNode hid hostname fun s node hnode => Uses.bind ?_ fun _ => .done _
      exact saves_gatherDeviceFacts (savesFacts_deviceFacts hnode) password jobId polls
  | deploymentJob hostname execType stage jobId polls htype hstage =>
      refine usesSince_withNode hid hostname fun s node hnode => Uses.bind ?_ fun _ => .done _
      exact NodeService.saves_execute (savesFacts_deviceFacts hnode) htype hstage

end Loads

/-! ## Interleaved operations -/

section Runs

variable {env : Environment} {w : World} {operations : List NodeOperation} {nodeId : String}
variable {es : List (Event Op)} {c : Config Op Op.Res PyError Unit World}

/-- Saves leave the settings as they are. -/
theorem settingsAre_of_saves {W : String → NodeDoc → Prop} {op : Op} (hop : op.saves W)
    {settings : Table String GeneralSettingsDoc} {s : World} (hs : SettingsAre settings s) :
    SettingsAre settings (handle env op s).2 := by
  unfold SettingsAre at hs ⊢
  rcases hop with hread | ⟨id, doc, rfl, -⟩ | ⟨id, job, rfl⟩
  · rwa [db_of_readsOnly hread]
  · rwa [db_of_ne env s (.replaceOne .nodes id doc)
      (by decide : Collection.nodes ≠ .settings)]
  · rwa [db_of_ne env s (.replaceOne .jobs id job)
      (by decide : Collection.jobs ≠ .settings)]

theorem eq_replaceOne_of_savedNode? {op : Op} {doc : NodeDoc}
    (h : savedNode? nodeId op = some doc) :
    op = .db (.replaceOne .nodes nodeId doc) := by
  unfold savedNode? at h
  split at h
  · rename_i id doc'
    split at h
    · rename_i hid
      cases h
      rw [hid]
    · cases h
  · cases h

theorem savedNode?_replaceOne (id : String) (doc : NodeDoc) :
    savedNode? nodeId (.db (.replaceOne .nodes id doc)) =
      if id = nodeId then some doc else none := rfl

/-- An operation that does not save the node leaves it as it is. -/
theorem storedNode_of_saves {W : String → NodeDoc → Prop} {op : Op} (hop : op.saves W)
    (hsave : savedNode? nodeId op = none) (s : World) :
    storedNode nodeId (handle env op s).2 = storedNode nodeId s := by
  unfold storedNode
  rcases hop with hread | ⟨id, doc, rfl, -⟩ | ⟨id, job, rfl⟩
  · rw [db_of_readsOnly hread]
  · rw [savedNode?_replaceOne] at hsave
    rw [db_replaceOne, Table.get?_upsert]
    split
    · rename_i hid
      rw [if_pos hid.symm] at hsave
      cases hsave
    · rfl
  · rw [db_of_ne env s (.replaceOne .jobs id job)
      (by decide : Collection.jobs ≠ .nodes)]

/-- What the threads perform. -/
theorem threadsUse_startOperations (w : World) (operations : List NodeOperation) :
    ThreadsUse (fun i op => (operations[i]?).isSome ∧ op.saves fun _ _ => True)
      (startOperations w operations) := by
  intro i p hi
  rw [startOperations, List.getElem?_map, Option.map_eq_some_iff] at hi
  obtain ⟨operation, hoperation, rfl⟩ := hi
  exact operation.saves_program.mono fun op hop => ⟨by rw [hoperation]; rfl, hop⟩

theorem writes_append (es es' : List (Event Op)) :
    writes operations nodeId (es ++ es') =
      writes operations nodeId es ++ writes operations nodeId es' :=
  List.filterMap_append

theorem FreshSaves.of_append {es' : List (Event Op)}
    (h : FreshSaves env w operations nodeId (es ++ es')) :
    FreshSaves env w operations nodeId es := by
  intro pre t load mid save post operation hes
  exact h pre t load mid save (post ++ es') operation (by rw [hes]; simp)

/-- Documents that agree up to a field are settled alike. -/
theorem NodeDoc.Settled.of_clear {db db' : Db} {field : NodeField} {doc doc' : NodeDoc}
    (h : doc.Settled db) (hsettings : db' .settings = db .settings)
    (hclear : field.clear doc' = field.clear doc) : doc'.Settled db' := by
  obtain ⟨⟩ := doc
  obtain ⟨⟩ := doc'
  cases field with
  | vpnStatus =>
      simp only [NodeField.clear, NodeDoc.mk.injEq] at hclear
      exact h.congr hsettings hclear.1 hclear.2.1 hclear.2.2.1 hclear.2.2.2.2.1
  | deviceFacts =>
      simp only [NodeField.clear, NodeDoc.mk.injEq] at hclear
      exact h.congr hsettings hclear.1 hclear.2.1 hclear.2.2.1 hclear.2.2.2.2.1

/-- The first event of a thread that has one. -/
theorem exists_first_event {t : Nat} (h : ∃ e ∈ es, e.thread = t) :
    ∃ pre op mid, es = pre ++ ⟨t, op⟩ :: mid ∧ ∀ e ∈ pre, e.thread ≠ t := by
  have hmem : t ∈ es.map Event.thread := List.mem_map.mpr h
  obtain ⟨as, bs, hes, hfirst⟩ := List.eq_append_cons_of_mem hmem
  obtain ⟨pre, rest, rfl, rfl, hrest⟩ := List.map_eq_append_iff.mp hes
  obtain ⟨e, mid, rfl, rfl, -⟩ := List.map_eq_cons_iff.mp hrest
  exact ⟨pre, e.op, mid, rfl, fun e' he' h' => hfirst (List.mem_map.mpr ⟨e', he', h'⟩)⟩

/-- A fresh save agrees with the stored document up to the field of the operation. -/
theorem clear_eq_of_freshSaves {t : Nat} {doc stored : NodeDoc} {operation : NodeOperation}
    (hr : Run (handle env) (startOperations w operations)
      (es ++ [⟨t, .db (.replaceOne .nodes nodeId doc)⟩]) c)
    (hid : ∀ n, env .uuid4 n ≠ nodeId)
    (hfresh : FreshSaves env w operations nodeId (es ++ [⟨t, .db (.replaceOne .nodes nodeId doc)⟩]))
    (hoperation : operations[t]? = some operation)
    (hstored : storedNode nodeId (replay (handle env) w es) = some stored)
    (hsettled : stored.Settled w.db) :
    operation.field.clear doc = operation.field.clear stored := by
  have hthread : (startOperations w operations).threads[t]? = some operation.program := by
    rw [startOperations, List.getElem?_map, hoperation]
    rfl
  have hprogram : operation.program.UsesSince (handle env) (SettingsAre (w.db .settings))
      Op.readsOnly (fun s => Op.saves (SavesField operation.field nodeId s)) fun _ _ => True :=
    operation.usesSince_program hid
  have huse := hr.forall_event (threadsUse_startOperations w operations)
  have hkeep : ∀ e ∈ es ++ [⟨t, .db (.replaceOne .nodes nodeId doc)⟩], ∀ s,
      SettingsAre (w.db .settings) s → SettingsAre (w.db .settings) (handle env e.op s).2 :=
    fun e he s hs => settingsAre_of_saves (huse e he).2 hs
  by_cases hfirst : ∃ e ∈ es, e.thread = t
  · obtain ⟨pre, load, mid, rfl, hpre⟩ := exists_first_event hfirst
    have hsplit : pre ++ (⟨t, load⟩ : Event Op) :: mid ++
        [⟨t, .db (.replaceOne .nodes nodeId doc)⟩] =
        pre ++ ⟨t, load⟩ :: (mid ++ [⟨t, .db (.replaceOne .nodes nodeId doc)⟩]) := by simp
    rw [hsplit] at hr hkeep
    have hload := (hr.forall_event_since hthread hprogram rfl hkeep hpre).2 _
      (List.mem_append_right mid (List.mem_singleton.mpr rfl)) rfl
    have hagree := hfresh pre t load mid _ [] operation rfl hpre hoperation
      (by rw [savedNode?_replaceOne, if_pos rfl]; rfl)
    rw [hstored, Option.map_some, eq_comm, Option.map_eq_some_iff] at hagree
    obtain ⟨loaded, hloaded, hclear⟩ := hagree
    rcases hload with hread | ⟨_, _, hop, hW⟩ | ⟨_, _, hop⟩
    · cases hread
    · cases hop
      have hsettings : SettingsAre (w.db .settings) (replay (handle env) w pre) :=
        replay_invariant (fun e he => hkeep e (List.mem_append_left _ he)) rfl
      rw [hW rfl loaded hloaded (hsettled.of_clear hsettings hclear), hclear]
    · cases hop
  · -- a save is not the first thing an operation does
    have hidle : ∀ e ∈ es, e.thread ≠ t := fun e he h => hfirst ⟨e, he, h⟩
    exact nomatch (hr.forall_event_since hthread hprogram rfl hkeep hidle).1

/-- In every interleaving of operations whose saves are fresh, each field of the node
    holds what was last written to it, and nothing else has changed. -/
theorem lastWritten_of_freshSaves {doc : NodeDoc}
    (hr : Run (handle env) (startOperations w operations) es c)
    (hid : ∀ n, env .uuid4 n ≠ nodeId) (hdoc : storedNode nodeId w = some doc)
    (hsettled : doc.Settled w.db) (hfresh : FreshSaves env w operations nodeId es) :
    ∃ doc', storedNode nodeId c.state = some doc' ∧
      LastWritten doc (writes operations nodeId es) doc' := by
  induction es using List.reverseRecOn generalizing c with
  | nil =>
      have hstate : c.state = w := hr.state_eq
      exact ⟨doc, by rw [hstate, hdoc], .nil doc⟩
  | append_singleton es e ih =>
      obtain ⟨d, hd, -⟩ := hr.split
      obtain ⟨stored, hstored, hlast⟩ := ih hd hfresh.of_append
      have hstored : storedNode nodeId (replay (handle env) w es) = some stored := by
        rw [← hstored, hd.state_eq]
        rfl
      have hstate : c.state = (handle env e.op (replay (handle env) w es)).2 := by
        rw [hr.state_eq, replay_append]
        rfl
      obtain ⟨hsome, hop⟩ := hr.forall_event (threadsUse_startOperations w operations) e
        (List.mem_append_right _ (List.mem_singleton.mpr rfl))
      obtain ⟨operation, hoperation⟩ := Option.isSome_iff_exists.mp hsome
      cases hsave : savedNode? nodeId e.op with
      | none =>
          have hwrites : writes operations nodeId [e] = [] := by simp [writes, hsave]
          refine ⟨stored, ?_, ?_⟩
          · rw [hstate, storedNode_of_saves hop hsave, hstored]
          · rwa [writes_append, hwrites, List.append_nil]
      | some saved =>
          obtain ⟨t, op⟩ := e
          obtain rfl := eq_replaceOne_of_savedNode? hsave
          have hsettled' : stored.Settled w.db := by
            rw [hlast.others]
            exact hsettled.congr rfl rfl rfl rfl rfl
          have hclear := clear_eq_of_freshSaves hr hid hfresh hoperation hstored hsettled'
          have hwrites : writes operations nodeId [⟨t, .db (.replaceOne .nodes nodeId saved)⟩] =
              [operation.field.write saved] := by
            simp [writes, hsave, hoperation]
          refine ⟨saved, ?_, ?_⟩
          · rw [hstate, storedNode, db_replaceOne, Table.get?_upsert, if_pos rfl]
          · have happ := hlast.snoc (operation.field.write saved)
            rwa [NodeField.write_apply hclear, ← hwrites, ← writes_append] at happ

/-! ### Operations one after the other -/

theorem storedNode_replay {s : World} {mid : List (Event Op)}
    (hmid : ∀ e ∈ mid, (e.op.saves fun _ _ => True) ∧ savedNode? nodeId e.op = none) :
    storedNode nodeId (replay (handle env) s mid) = storedNode nodeId s := by
  refine replay_invariant (I := fun s' => storedNode nodeId s' = storedNode nodeId s) ?_ rfl
  intro e he s' hs'
  rw [storedNode_of_saves (hmid e he).1 (hmid e he).2, hs']

/-- Operations that run one after the other and save the node once each are fresh. -/
theorem freshSaves_of_sorted (hr : Run (handle env) (startOperations w operations) es c)
    (hsorted : (es.map Event.thread).Pairwise (· ≤ ·))
    (honce : ((es.filter fun e => (savedNode? nodeId e.op).isSome).map Event.thread).Nodup) :
    FreshSaves env w operations nodeId es := by
  intro pre t load mid save post operation hes _ _ hsave
  have huse := hr.forall_event (threadsUse_startOperations w operations)
  subst hes
  rw [replay_append]
  refine congrArg _ (storedNode_replay fun e he => ⟨(huse e ?_).2, ?_⟩)
  · exact List.mem_append_left _ (List.mem_append_right _ he)
  -- an event from the load to the save is of the same operation, which saves once
  have hthread : e.thread = t := by
    rcases List.mem_cons.mp he with rfl | he
    · rfl
    · rw [List.append_assoc, List.map_append, List.pairwise_append] at hsorted
      obtain ⟨-, hsorted, -⟩ := hsorted
      rw [List.cons_append, List.map_cons, List.pairwise_cons] at hsorted
      obtain ⟨hle, hsorted⟩ := hsorted
      rw [List.map_append, List.pairwise_append] at hsorted
      have hge := hsorted.2.2 e.thread (List.mem_map_of_mem he) t (by simp)
      have hle := hle e.thread (List.mem_map_of_mem (List.mem_append_left _ he))
      exact Nat.le_antisymm hge hle
  by_contra hsome
  rw [List.filter_append, List.map_append, List.nodup_append] at honce
  refine honce.2.2 t ?_ t ?_ rfl
  · refine List.mem_map.mpr ⟨e, List.mem_filter.mpr ⟨List.mem_append_right _ he, ?_⟩, hthread⟩
    simpa [Option.isSome_iff_ne_none] using hsome
  · exact List.mem_map.mpr ⟨⟨t, save⟩, List.mem_filter.mpr ⟨by simp, hsave⟩, rfl⟩

end Runs

/-! ### A VPN request beside new device facts -/

/-- The machines answer with their facts. -/
def factsEnv : Environment := fun call n =>
  match call with
  | .ansibleSetup _ _ => .ok (some [("hostname", .str "server1")])
  | call => steadyEnv call n

def vpnBesideFacts : List NodeOperation :=
  [.vpnStatus "server1.lan" [("vpn_status", .bool true)], .updateDeviceFacts "server1.lan" "secret"]

theorem uuid4_factsEnv (n : Nat) : factsEnv .uuid4 n ≠ "n1" := by
  intro h
  have huuid : factsEnv .uuid4 n = "0f" := rfl
  rw [huuid] at h
  exact absurd h (by decide)

theorem settled_server1 : server1Doc.Settled server1World.db := by
  refine ⟨?_, ?_, ?_⟩
  · intro sdoc form hs hform
    have hlan : settingsDoc server1World.db = some lanForm.dump := by
      rw [settingsDoc, server1World, Table.get?_upsert, if_pos rfl]
    obtain rfl : lanForm.dump = sdoc := Option.some.inj (hlan.symm.trans hs)
    rw [GeneralSettingsSchema.load_dump (by decide)] at hform
    cases hform
    decide
  · intro ip hip
    have hparse : IPv4Address.parse server1Doc.ipAddress = some ⟨10, 40, 12, 146⟩ := by decide
    rw [hparse] at hip
    cases hip
    decide
  · exact fun h => absurd h (by decide)

/-- The request and then the job. -/
def vpnThenFacts : List (Event Op) × Config Op Op.Res PyError Unit World :=
  (startOperations server1World vpnBesideFacts).schedule (handle factsEnv)
    (List.replicate 40 0 ++ List.replicate 40 1)

theorem lastWritten_of_vpnThenFacts :
    ∃ doc', storedNode "n1" vpnThenFacts.2.state = some doc' ∧
      LastWritten server1Doc (writes vpnBesideFacts "n1" vpnThenFacts.1) doc' := by
  have hsorted : (vpnThenFacts.1.map Event.thread).Pairwise (· ≤ ·) := by decide +kernel
  have honce : ((vpnThenFacts.1.filter fun e => (savedNode? "n1" e.op).isSome).map
      Event.thread).Nodup := by
    decide +kernel
  have hr := run_schedule (handle factsEnv) (List.replicate 40 0 ++ List.replicate 40 1)
    (startOperations server1World vpnBesideFacts)
  exact lastWritten_of_freshSaves hr uuid4_factsEnv rfl settled_server1
    (freshSaves_of_sorted hr hsorted honce)

/-- The property without a condition on the saves. -/
def NoLostUpdate : Prop :=
  ∀ (env : Environment) (w : World) (operations : List NodeOperation) (nodeId : String)
    (doc : NodeDoc) (es : List (Event Op)) (c : Config Op Op.Res PyError Unit World),
    Run (handle env) (startOperations w operations) es c → c.Finished →
      (∀ n, env .uuid4 n ≠ nodeId) → storedNode nodeId w = some doc → doc.Settled w.db →
        ∃ doc', storedNode nodeId c.state = some doc' ∧
          LastWritten doc (writes operations nodeId es) doc'

/-- The request loads the node, the job stores the facts, and the request saves the
    node without them. -/
theorem not_noLostUpdate : ¬ NoLostUpdate := by
  intro hclaim
  let r := (startOperations server1World vpnBesideFacts).schedule (handle factsEnv)
    ([0, 0] ++ List.replicate 40 1 ++ List.replicate 40 0)
  have hfinished : (r.2.threads.all fun p => p.value?.isSome) = true := by decide +kernel
  have hstored : (storedNode "n1" r.2.state).all (fun doc => doc.deviceFacts.isEmpty) = true := by
    decide +kernel
  have hwritten : ((((writes vpnBesideFacts "n1" r.1).filterMap
      FieldWrite.deviceFacts?).getLast?).getD []).isEmpty = false := by
    decide +kernel
  obtain ⟨doc', hget, hlast⟩ := hclaim factsEnv server1World vpnBesideFacts "n1" server1Doc r.1 r.2
    (run_schedule _ _ _) (Config.finished_of_values hfinished) uuid4_factsEnv rfl settled_server1
  rw [hget, Option.all_some, hlast.deviceFacts] at hstored
  have hfacts : server1Doc.deviceFacts = [] := rfl
  rw [hfacts, hwritten] at hstored
  cases hstored

end Tfplenum
