/-
  Tfplenum.Controller.NodeCreation

  The node collection over sequences of creations and of changes of the general
  settings.  `Loadable` says that every stored node document and the settings
  document pass their schemas; from a loadable database every loader returns
  (`Fetches`), so nothing that runs after a node was stored can refuse it.  What
  decides is the document `create` stores: it is loadable if and only if the host
  name is still valid under the domain.
-/

import Tfplenum.Controller.NodeController
import Tfplenum.Lib.Hoare
import Tfplenum.Models.NodeOperations
import Tfplenum.Models.NodeRoundTrip

namespace Tfplenum

open Lib Lib.Pattern

/-! ## Loadable databases -/

def settingsDoc (db : Db) : Option GeneralSettingsDoc := (db .settings).get? generalSettingsId

/-- Every stored document is accepted by the schema it is loaded with. -/
structure Loadable (db : Db) : Prop where
  nodes : ∀ id doc, (db .nodes).get? id = some doc → doc.Valid
  settings : ∀ doc, settingsDoc db = some doc → ∃ form,
    GeneralSettingsSchema.load (.obj (doc.fields generalSettingsId)) = .ok form ∧
      form.domain = doc.domain
  present : ∀ id doc, (db .nodes).get? id = some doc → (settingsDoc db).isSome

/-- `RandMac` draws MAC addresses, printed between quotes. -/
def RandMacValid (env : Environment) : Prop :=
  ∀ n, isMacAddress (stripQuotes (env (.randMac macBase) n)).toList = true

/-- Files can be written, sockets notified, settings read and jobs queued. -/
structure Reliable (env : Environment) : Prop where
  writeInventory : ∀ file n, env (.writeInventory file) n = .ok ()
  loadKitSettings : ∀ n, ∃ settings, env .loadKitSettings n = .ok settings
  loadEsxiSettings : ∀ n, ∃ settings, env .loadEsxiSettings n = .ok settings
  emit : ∀ event n, env (.emit event) n = .ok ()
  enqueue : ∀ function n, ∃ jobId, env (.enqueue function) n = .ok jobId

/-! ## Programs that only fetch -/

/-- The program returns a value in `S` and leaves the database as it is. -/
def Fetches {α : Type} (env : Environment) (db : Db) (p : Prog α) (S : α → Prop) : Prop :=
  Triple (handle env) (fun w => w.db = db) p (fun a w => S a ∧ w.db = db) fun _ _ => False

namespace Fetches

variable {α β : Type} {env : Environment} {db : Db} {p : Prog α} {S S' : α → Prop} {T : β → Prop}

theorem pure {a : α} (ha : S a) : Fetches env db (.done a) S :=
  Triple.done fun _ hw => ⟨ha, hw⟩

theorem bind {f : α → Prog β} (hp : Fetches env db p S) (hf : ∀ a, S a → Fetches env db (f a) T) :
    Fetches env db (p.bind f) T :=
  Triple.bind hp fun a => Triple.assume fun ha => hf a ha

theorem mono (hp : Fetches env db p S) (hS : ∀ a, S a → S' a) : Fetches env db p S' :=
  Triple.post hp fun a _ ha => ⟨hS a ha.1, ha.2⟩

theorem find (c : Collection) (q : String → Doc c → Bool) :
    Fetches env db (Prog.find c q) (· = (db c).find q) := by
  refine Triple.perform fun w hw => ⟨?_, hw⟩
  subst hw
  rfl

theorem findOne (c : Collection) (q : String → Doc c → Bool) :
    Fetches env db (Prog.findOne c q) (· = (db c).findOne q) := by
  refine Triple.perform fun w hw => ⟨?_, hw⟩
  subst hw
  rfl

theorem findById (c : Collection) (id : String) :
    Fetches env db (Prog.findById c id) (· = (db c).get? id) := by
  refine Triple.perform fun w hw => ⟨?_, hw⟩
  subst hw
  rfl

theorem ask (call : External) : Fetches env db (Prog.ask call) fun r => ∃ n, r = env call n :=
  Triple.perform fun w hw => ⟨⟨w.calls, rfl⟩, hw⟩

theorem ofExcept {r : Except PyError α} {a : α} (hr : r = .ok a) (ha : S a) :
    Fetches env db (Program.ofExcept r) S := by
  subst hr
  exact pure ha

/-- A call whose every answer is a value. -/
theorem orRaise {p : Prog (Except PyError α)}
    (hp : Fetches env db p fun r => ∃ a, r = .ok a ∧ S a) :
    Fetches env db (Prog.orRaise p) S :=
  hp.bind fun _ ⟨_, hr, ha⟩ => ofExcept hr ha

theorem mapEach {as : List α} {body : α → Prog β} {R : α → β → Prop}
    (hb : ∀ a ∈ as, Fetches env db (body a) (R a)) :
    Fetches env db (Program.mapEach as body) (List.Forall₂ R as) :=
  Triple.mapEach hb

end Fetches

/-! ## Loading -/

section Loading

variable {env : Environment} {db : Db}

theorem fetches_loadSettings (hl : Loadable db) :
    Fetches env db GeneralSettingsForm.loadFromDb fun o =>
      o.map (·.domain) = (settingsDoc db).map (·.domain) := by
  refine (Fetches.findById .settings generalSettingsId).bind fun o ho => ?_
  subst ho
  cases hdoc : (db .settings).get? generalSettingsId with
  | none => exact Fetches.pure (by rw [settingsDoc, hdoc]; rfl)
  | some doc =>
      obtain ⟨form, hform, hdomain⟩ := hl.settings doc hdoc
      refine Fetches.bind (Fetches.ofExcept hform rfl) fun a ha => ?_
      subst ha
      exact Fetches.pure (by simp [settingsDoc, hdoc, hdomain])

/-- A node made from loaded fields under a domain. -/
structure Node.MadeFrom (data : NodeSchema.Data) (domain : String) (node : Node) : Prop where
  hostname : ∀ hostname, data.hostname = .value hostname →
    node.hostname = Node.qualify hostname domain
  macAddress : ∀ mac ∈ node.macAddress, validateMacAddress mac = []
  nodeType : node.nodeType = data.nodeType.valueD NodeTypes.undefined
  deploymentType : node.deploymentType = data.deploymentType.getD none
  vpnStatus : node.vpnStatus = Fields.ofOption .bool (data.vpnStatus.getD none)
  virtualCpu : node.virtualCpu = data.virtualCpu.getD (some 16)
  virtualMem : node.virtualMem = data.virtualMem.getD (some 16)

/-- A node loaded from a document has its type and its resources. -/
structure Node.Mirrors (row : String × NodeDoc) (node : Node) : Prop where
  nodeType : node.nodeType = row.2.nodeType
  deploymentType : node.deploymentType = row.2.deploymentType
  virtualCpu : node.virtualCpu = row.2.virtualCpu
  virtualMem : node.virtualMem = row.2.virtualMem

theorem fetches_randMac (hmac : RandMacValid env) :
    Fetches env db Node.randMac fun mac => validateMacAddress mac = [] := by
  refine (Fetches.ask (.randMac macBase)).bind fun r ⟨n, hr⟩ => ?_
  subst hr
  refine Fetches.pure ?_
  unfold validateMacAddress validateMacAddressFn
  split
  · rfl
  · rw [if_pos (hmac n)]

theorem fetches_init (hl : Loadable db) (hmac : RandMacValid env) {data : NodeSchema.Data}
    (hc : data.Checked) (herror : data.error = .missing) {sdoc : GeneralSettingsDoc}
    (hs : settingsDoc db = some sdoc) :
    Fetches env db (Node.init data) (Node.MadeFrom data sdoc.domain) := by
  obtain ⟨hostname, hhost, -⟩ := hc.hostname
  obtain ⟨ip, hip⟩ := hc.ipAddress
  have hid : Fetches env db
      (if data.id.valueD "" = "" then Prog.ask .uuid4 else pure (data.id.valueD ""))
      fun _ => True := by
    split
    · exact (Fetches.ask _).mono fun _ _ => trivial
    · exact Fetches.pure trivial
  have hset : Fetches env db (Node.setHostname hostname)
      (· = Node.qualify hostname sdoc.domain) := by
    refine (fetches_loadSettings hl).bind fun o ho => ?_
    rw [hs] at ho
    obtain ⟨form, rfl, hdomain⟩ := Option.map_eq_some_iff.mp ho
    exact Fetches.pure (by rw [hdomain])
  have hsetMac : Fetches env db
      (Node.setMacAddress (data.macAddress.getD none) (data.nodeType.valueD NodeTypes.undefined))
      fun mac => ∀ m ∈ mac, validateMacAddress m = [] := by
    unfold Node.setMacAddress
    split
    · refine Fetches.bind (fetches_randMac hmac) fun mac hm => Fetches.pure ?_
      intro m hmem
      cases hmem
      exact hm
    · refine Fetches.pure ?_
      intro m hmem
      cases hdata : data.macAddress with
      | value mac =>
          rw [hdata] at hmem
          cases hmem
          exact hc.macAddress m hdata
      | missing => rw [hdata] at hmem; cases hmem
      | null => rw [hdata] at hmem; cases hmem
      | invalid messages => rw [hdata] at hmem; cases hmem
  rw [Node.init, herror, hhost, hip]
  refine hid.bind fun id _ => ?_
  refine hset.bind fun name hname => ?_
  refine hsetMac.bind fun mac hm => Fetches.pure ?_
  refine ⟨?_, hm, rfl, rfl, rfl, rfl, rfl⟩
  intro hostname' hh
  rw [hhost] at hh
  cases hh
  exact hname

/-- A valid document is loaded. -/
theorem fetches_loadDoc (hl : Loadable db) (hmac : RandMacValid env) {row : String × NodeDoc}
    (hrow : (db .nodes).get? row.1 = some row.2) :
    Fetches env db (Node.loadDoc row) (Node.Mirrors row) := by
  have hv := hl.nodes row.1 row.2 hrow
  obtain ⟨sdoc, hs⟩ := Option.isSome_iff_exists.mp (hl.present row.1 row.2 hrow)
  obtain ⟨ip, hip⟩ := hv.ipAddress
  have hd : NodeSchema.deserialize (.obj (row.2.fields row.1)) =
      .ok (NodeSchema.Data.ofDoc row.1 row.2 ip) :=
    NodeSchema.deserialize_fields hv hip
  have hinit := fetches_init hl hmac (NodeSchema.checked_of_deserialize hd) rfl hs
  have hload : Node.loadDoc row = Node.init (NodeSchema.Data.ofDoc row.1 row.2 ip) := by
    rw [Node.loadDoc, Node.load, hd]
    rfl
  rw [hload]
  refine hinit.mono fun node hn => ?_
  have hdeployment := hn.deploymentType
  have hcpu := hn.virtualCpu
  have hmem := hn.virtualMem
  simp only [NodeSchema.Data.ofDoc, Loaded.getD_ofOption] at hdeployment hcpu hmem
  exact ⟨hn.nodeType, hdeployment, hcpu, hmem⟩

theorem fetches_find (hl : Loadable db) (hmac : RandMacValid env) (q : String → NodeDoc → Bool) :
    Fetches env db ((Prog.find .nodes q).bind fun rows => Program.mapEach rows Node.loadDoc)
      (List.Forall₂ Node.Mirrors ((db .nodes).find q)) := by
  refine (Fetches.find .nodes q).bind fun rows hrows => ?_
  subst hrows
  refine Fetches.mapEach ?_
  rintro ⟨id, doc⟩ hrow
  have hget : (db .nodes).get? id = some doc := (Table.mem_find.mp hrow).1
  exact fetches_loadDoc hl hmac hget

theorem fetches_loadNodeTypes (hl : Loadable db) (hmac : RandMacValid env)
    (nodeTypes : List String) :
    Fetches env db (Node.loadNodeTypesFromDb nodeTypes)
      (List.Forall₂ Node.Mirrors ((db .nodes).find fun _ node => node.nodeType ∈ nodeTypes)) :=
  fetches_find hl hmac _

theorem fetches_loadAll (hl : Loadable db) (hmac : RandMacValid env) :
    Fetches env db Node.loadAllFromDb
      (List.Forall₂ Node.Mirrors ((db .nodes).find fun _ _ => true)) :=
  fetches_find hl hmac _

theorem fetches_loadMinio (hl : Loadable db) (hmac : RandMacValid env) :
    Fetches env db Node.loadMinioFromDb fun o =>
      o = none → ∀ id doc, (db .nodes).get? id = some doc → doc.nodeType ≠ NodeTypes.minio := by
  refine (Fetches.findOne .nodes _).bind fun row hrow => ?_
  cases row with
  | none =>
      refine Fetches.pure fun _ id doc hdoc htype => ?_
      have hq := Table.findOne_eq_none_iff.mp hrow.symm id doc hdoc
      simp [htype] at hq
  | some row =>
      obtain ⟨id, doc⟩ := row
      have hget : (db .nodes).get? id = some doc := (Table.findOne_eq_some hrow.symm).1
      have hload : Fetches env db (Node.loadDoc (id, doc)) (Node.Mirrors (id, doc)) :=
        fetches_loadDoc hl hmac hget
      refine Fetches.bind hload fun node _ => Fetches.pure ?_
      intro hnone
      cases hnone

end Loading

/-! ## What runs after a node is stored -/

section AfterStoring

variable {env : Environment} {db : Db}

theorem fetches_writeInventory (hr : Reliable env) (file : String) :
    Fetches env db (writeInventory file) fun _ => True := by
  refine Fetches.orRaise ((Fetches.ask _).mono ?_)
  rintro r ⟨n, rfl⟩
  exact ⟨(), hr.writeInventory file n, trivial⟩

theorem fetches_emit (hr : Reliable env) (event : String) :
    Fetches env db (Prog.orRaise (Prog.ask (.emit event))) fun _ => True := by
  refine Fetches.orRaise ((Fetches.ask _).mono ?_)
  rintro r ⟨n, rfl⟩
  exact ⟨(), hr.emit event n, trivial⟩

theorem fetches_enqueue (hr : Reliable env) (function : String) :
    Fetches env db (Prog.orRaise (Prog.ask (.enqueue function))) fun _ => True := by
  refine Fetches.orRaise ((Fetches.ask _).mono ?_)
  rintro r ⟨n, rfl⟩
  obtain ⟨jobId, hjob⟩ := hr.enqueue function n
  exact ⟨jobId, hjob, trivial⟩

theorem fetches_generateInventory (hl : Loadable db) (hmac : RandMacValid env) (hr : Reliable env) :
    Fetches env db generateInventory fun _ => True := by
  have hwrite (file : String) : Fetches env db (writeInventory file) fun _ => True :=
    fetches_writeInventory hr file
  have hnodes : Fetches env db generateNodesInventory fun _ => True :=
    Fetches.bind (fetches_loadNodeTypes hl hmac _) fun _ _ => hwrite _
  have hcp : Fetches env db generateCpInventory fun _ => True :=
    Fetches.bind (fetches_loadNodeTypes hl hmac _) fun _ _ => hwrite _
  have hmips : Fetches env db generateMipNodesInventory fun _ => True :=
    Fetches.bind (fetches_loadNodeTypes hl hmac _) fun _ _ => hwrite _
  have hminio : Fetches env db generateMinioInventory fun _ => True :=
    Fetches.bind (fetches_loadMinio hl hmac) fun _ _ => hwrite _
  exact hnodes.bind fun _ _ => hcp.bind fun _ _ => hmips.bind fun _ _ => hminio

theorem fetches_getKitStatus (hl : Loadable db) (hmac : RandMacValid env) (hr : Reliable env) :
    Fetches env db getKitStatus fun _ => True := by
  refine Fetches.bind (fetches_loadSettings hl) fun _ _ => ?_
  have hkit : Fetches env db (Prog.orRaise (Prog.ask .loadKitSettings)) fun _ => True := by
    refine Fetches.orRaise ((Fetches.ask _).mono ?_)
    rintro r ⟨n, rfl⟩
    obtain ⟨settings, hs⟩ := hr.loadKitSettings n
    exact ⟨settings, hs, trivial⟩
  have hesxi : Fetches env db (Prog.orRaise (Prog.ask .loadEsxiSettings)) fun _ => True := by
    refine Fetches.orRaise ((Fetches.ask _).mono ?_)
    rintro r ⟨n, rfl⟩
    obtain ⟨settings, hs⟩ := hr.loadEsxiSettings n
    exact ⟨settings, hs, trivial⟩
  refine hkit.bind fun _ _ => hesxi.bind fun _ _ => ?_
  refine Fetches.bind (fetches_loadNodeTypes hl hmac _) fun _ _ => ?_
  refine Fetches.bind (S := fun _ => True) ?_ fun _ _ => Fetches.pure trivial
  exact (Fetches.find .jobs _).bind fun _ _ => Fetches.pure trivial

theorem fetches_sendNotification (hl : Loadable db) (hmac : RandMacValid env) (hr : Reliable env) :
    Fetches env db sendNotification fun _ => True := by
  refine Fetches.bind (fetches_getKitStatus hl hmac hr) fun _ _ => ?_
  have hjobs (node : Node) : Fetches env db (NodeJob.loadJobsByNode node) fun _ => True :=
    (Fetches.find .jobs _).bind fun _ _ => Fetches.pure trivial
  have hall : Fetches env db getAllNodesWithJobs fun _ => True := by
    refine Fetches.bind (fetches_loadAll hl hmac) fun nodes _ => ?_
    refine Fetches.mono (Fetches.mapEach (R := fun _ _ => True) fun node _ => ?_) fun _ _ => trivial
    exact (hjobs node).bind fun _ _ => Fetches.pure trivial
  refine hall.bind fun _ _ => ?_
  exact (fetches_emit hr _).bind fun _ _ => fetches_emit hr _

end AfterStoring

/-! ## Validation against the other nodes -/

/-- The new node is a virtual server whose resources differ from those of a stored
    one, or a second MinIO node. -/
def Conflicts (db : Db) (data : NodeSchema.Data) : Prop :=
  (data.nodeType.valueD NodeTypes.undefined = NodeTypes.server ∧
    data.deploymentType.getD none = some DeploymentTypes.virtual ∧
    ∃ id doc, (db .nodes).get? id = some doc ∧ doc.nodeType = NodeTypes.server ∧
      doc.deploymentType = some DeploymentTypes.virtual ∧
      (doc.virtualCpu ≠ data.virtualCpu.getD (some 16) ∨
        doc.virtualMem ≠ data.virtualMem.getD (some 16))) ∨
  (data.nodeType.valueD NodeTypes.undefined = NodeTypes.minio ∧
    ∃ id doc, (db .nodes).get? id = some doc ∧ doc.nodeType = NodeTypes.minio)

/-- No error means that the virtual servers have the resources of the node. -/
theorem Node.eq_of_resourceErrors_eq_nil {node server : Node} {servers : List Node}
    (h : node.resourceErrors servers = []) (hmem : server ∈ servers)
    (hvirtual : server.deploymentType = some DeploymentTypes.virtual) :
    server.virtualCpu = node.virtualCpu ∧ server.virtualMem = node.virtualMem := by
  have hentries (l : List (String × String)) (hl : (l.map Prod.fst).eraseDups = []) : l = [] := by
    cases l with
    | nil => rfl
    | cons e l => simp [List.eraseDups_cons] at hl
  rw [Node.resourceErrors, List.map_eq_nil_iff] at h
  have hnil := hentries _ h
  rw [List.flatMap_eq_nil_iff] at hnil
  have hserver := hnil server (List.mem_filter.mpr ⟨hmem, decide_eq_true hvirtual⟩)
  obtain ⟨hcpu, hmem⟩ := List.append_eq_nil_iff.mp hserver
  constructor
  · by_contra hne
    rw [if_pos hne] at hcpu
    cases hcpu
  · by_contra hne
    rw [if_pos hne] at hmem
    cases hmem

/-- A program that only reads leaves the database as it is, however it ends. -/
theorem triple_of_readsOnly {α : Type} {env : Environment} {db : Db} {p : Prog α}
    (hp : p.Uses Op.readsOnly) :
    Triple (handle env) (fun w => w.db = db) p (fun _ w => w.db = db) fun _ w => w.db = db := by
  refine Triple.of_uses hp fun op w hop hw => ?_
  cases op with
  | db op => exact (DocOp.apply_of_reads hop w.db).trans hw
  | external call => exact hw

section Creating

variable {env : Environment} {db : Db} {data : NodeSchema.Data} {domain : String} {node : Node}

/-- What passes `post_validation` does not conflict with the stored nodes. -/
theorem triple_postValidation (hl : Loadable db) (hmac : RandMacValid env)
    (hn : node.MadeFrom data domain) :
    Triple (handle env) (fun w => w.db = db) node.postValidation
      (fun _ w => ¬ Conflicts db data ∧ w.db = db) fun _ w => w.db = db := by
  have hminio : Fetches env db node.minioErrors fun errors =>
      errors = [] → node.nodeType = NodeTypes.minio →
        ∀ id doc, (db .nodes).get? id = some doc → doc.nodeType ≠ NodeTypes.minio := by
    unfold Node.minioErrors
    split
    · refine Fetches.bind (fetches_loadMinio hl hmac) fun o ho => ?_
      cases o with
      | none => exact Fetches.pure fun _ _ => ho rfl
      | some other =>
          refine Fetches.pure ?_
          intro hnil
          cases hnil
    · rename_i htype
      exact Fetches.pure fun _ h => absurd h htype
  refine Triple.bind ((fetches_loadNodeTypes hl hmac _).conseq (fun _ hw => hw)
    (fun _ _ h => h) fun _ _ h => h.elim) fun servers => Triple.assume fun hservers => ?_
  refine Triple.bind (hminio.conseq (fun _ hw => hw)
    (fun _ _ h => h) fun _ _ h => h.elim) fun minio => Triple.assume fun hm => ?_
  refine Triple.when (fun _ => Triple.raise fun _ hw => hw) fun hnil w hw => ⟨?_, hw⟩
  rw [not_not, List.append_eq_nil_iff] at hnil
  rintro (⟨htype, hvirtual, id, doc, hget, hserver, hdeployment, hdiff⟩ |
    ⟨htype, id, doc, hget, hdoc⟩)
  · have hif := hnil.1
    rw [if_pos ⟨hn.nodeType.trans htype, hn.deploymentType.trans hvirtual⟩] at hif
    have hrow : (id, doc) ∈ (db .nodes).find fun _ node => node.nodeType ∈ [NodeTypes.server] :=
      Table.mem_find.mpr ⟨hget, by simp [hserver]⟩
    obtain ⟨i, hi, hgeti⟩ := List.getElem_of_mem hrow
    obtain ⟨hlen, hall⟩ := List.forall₂_iff_get.mp hservers
    have hmirror := hall i hi (hlen ▸ hi)
    rw [List.get_eq_getElem, hgeti] at hmirror
    obtain ⟨hcpu, hmem⟩ := Node.eq_of_resourceErrors_eq_nil hif (List.get_mem servers _)
      (hmirror.deploymentType.trans hdeployment)
    rw [hmirror.virtualCpu, hn.virtualCpu] at hcpu
    rw [hmirror.virtualMem, hn.virtualMem] at hmem
    rcases hdiff with hdiff | hdiff
    · exact hdiff hcpu
    · exact hdiff hmem
  · exact hm hnil.2 (hn.nodeType.trans htype) id doc hget hdoc

/-! ## Storing -/

theorem Loadable.congr {db' : Db} (hl : Loadable db) (hnodes : db' .nodes = db .nodes)
    (hsettings : db' .settings = db .settings) : Loadable db' where
  nodes id doc hget := hl.nodes id doc (hnodes ▸ hget)
  settings doc hdoc := hl.settings doc (by rw [settingsDoc, hsettings] at hdoc; exact hdoc)
  present id doc hget := by
    rw [settingsDoc, hsettings]
    exact hl.present id doc (hnodes ▸ hget)

/-- A valid document may be stored where there are settings. -/
theorem Loadable.upsert (hl : Loadable db) (hs : (settingsDoc db).isSome) {doc : NodeDoc}
    (hv : doc.Valid) (id : String) :
    Loadable (Function.update db .nodes ((db .nodes).upsert id doc)) := by
  have hsame : (Function.update db .nodes ((db .nodes).upsert id doc)) .settings = db .settings :=
    Function.update_of_ne (by decide) _ _
  refine ⟨?_, ?_, ?_⟩
  · intro id' doc' hget
    rw [Function.update_self, Table.get?_upsert] at hget
    split at hget
    · cases hget
      exact hv
    · exact hl.nodes id' doc' hget
  · intro sdoc hdoc
    rw [settingsDoc, hsame] at hdoc
    exact hl.settings sdoc hdoc
  · intro _ _ _
    rw [settingsDoc, hsame]
    exact hs

/-- A program that fetches from every loadable database keeps it loadable. -/
theorem Fetches.keeps {α : Type} {p : Prog α} {S : α → Prop}
    (hp : ∀ db, Loadable db → Fetches env db p S) :
    Triple (handle env) (fun w => Loadable w.db) p (fun _ w => Loadable w.db) fun _ _ => False := by
  refine Triple.forall_pre fun w hw => (hp w.db hw).conseq ?_ ?_ fun _ _ h => h
  · rintro w' rfl
    rfl
  · rintro a w' ⟨-, hdb⟩
    rw [hdb]
    exact hw

theorem triple_initJob (doc : JobDoc) :
    Triple (handle env) (fun w => Loadable w.db) (NodeJob.init doc) (fun _ w => Loadable w.db)
      fun _ _ => False :=
  Fetches.keeps (S := fun _ => True) fun _ _ =>
    (Fetches.ask .uuid4).bind fun _ _ => Fetches.pure trivial

theorem triple_saveJob (job : NodeJob) :
    Triple (handle env) (fun w => Loadable w.db) job.saveToDb (fun _ w => Loadable w.db)
      fun _ _ => False := by
  have hkeep (w : World) (hw : Loadable w.db) :
      Loadable (Function.update w.db .jobs ((w.db .jobs).upsert job.id job.doc)) :=
    hw.congr (Function.update_of_ne (by decide) _ _) (Function.update_of_ne (by decide) _ _)
  exact Triple.perform hkeep

theorem triple_createJobs (node : Node) :
    Triple (handle env) (fun w => Loadable w.db) node.createJobs (fun _ w => Loadable w.db)
      fun _ _ => False := by
  unfold Node.createJobs
  split
  · refine (triple_initJob _).bind fun created => (triple_initJob _).bind fun deploy => ?_
    exact (triple_saveJob created).bind fun _ => triple_saveJob deploy
  · refine (triple_initJob _).bind fun created => (triple_initJob _).bind fun install => ?_
    refine (triple_initJob _).bind fun deploy => (triple_saveJob created).bind fun _ => ?_
    exact (triple_saveJob install).bind fun _ => triple_saveJob deploy

theorem Fields.Bool.serialize_ofOption (b : Option Bool) :
    Fields.Bool.serialize (Fields.ofOption .bool b) = .ok b := by
  cases b <;> rfl

/-- A made node is dumped to a document that is valid where its host name is. -/
theorem Node.exists_dump (hn : node.MadeFrom data domain) (hc : data.Checked) :
    ∃ doc, node.dump = .ok doc ∧ doc.hostname = node.hostname ∧
      (isHostname node.hostname.toList = true → doc.Valid) := by
  rw [Node.dump, hn.vpnStatus, Fields.Bool.serialize_ofOption]
  refine ⟨_, rfl, rfl, fun hh =>
    ⟨hh, ⟨node.ipAddress, IPv4Address.parse_print _⟩, hn.macAddress, ?_⟩⟩
  rw [show node.nodeType = _ from hn.nodeType]
  exact hc.nodeType

theorem triple_create (hl : Loadable db) (hs : (settingsDoc db).isSome) (hmac : RandMacValid env)
    (hr : Reliable env) (hn : node.MadeFrom data domain) (hc : data.Checked)
    (hh : isHostname node.hostname.toList = true) :
    Triple (handle env) (fun w => w.db = db) node.create (fun _ w => Loadable w.db)
      fun _ _ => False := by
  obtain ⟨doc, hdump, -, hvalid⟩ := Node.exists_dump hn hc
  have hstored := hl.upsert hs (hvalid hh) node.id
  have hget : ((Function.update db .nodes ((db .nodes).upsert node.id doc)) .nodes).get? node.id =
      some doc := by
    rw [Function.update_self, Table.get?_upsert, if_pos rfl]
  have hreplace : Triple (handle env) (fun w => w.db = db) (Prog.replaceOne .nodes node.id doc)
      (fun _ w => w.db = Function.update db .nodes ((db .nodes).upsert node.id doc))
      fun _ _ => False := by
    refine Triple.perform fun w hw => ?_
    subst hw
    rfl
  rw [Node.create, hdump]
  refine hreplace.bind fun _ => ?_
  have hload : Fetches env (Function.update db .nodes ((db .nodes).upsert node.id doc))
      (Node.loadDoc (node.id, doc)) (Node.Mirrors (node.id, doc)) :=
    fetches_loadDoc hstored hmac hget
  refine Triple.bind hload fun created => ?_
  refine Triple.bind ((triple_createJobs created).pre ?_) fun _ => ?_
  · rintro w ⟨-, hw⟩
    rw [hw]
    exact hstored
  · exact Fetches.keeps fun db' hl' => fetches_generateInventory hl' hmac hr

/-! ## Host names under the domain of the settings -/

/-- The host name is still valid once the domain has been appended to it: it ends
    with the domain as it is, or has no newline at its end and is short enough. -/
def HostnameFits (hostname domain : List Char) : Prop :=
  endsWith hostname domain = true ∨
    (hostname.getLast? ≠ some '\n' ∧
      hostname.length ≤ 52 + if domain.getLast? = some '\n' then 1 else 0)

theorem toList_qualify (hostname domain : String) :
    (Node.qualify hostname domain).toList =
      if endsWith hostname.toList domain.toList then hostname.toList
      else hostname.toList ++ '.' :: domain.toList := by
  unfold Node.qualify
  split
  · rfl
  · simp

theorem isHostname_qualify_iff {hostname domain : String}
    (hh : isHostname hostname.toList = true) (hd : isDomain domain.toList = true) :
    isHostname (Node.qualify hostname domain).toList = true ↔
      HostnameFits hostname.toList domain.toList := by
  rw [toList_qualify, HostnameFits]
  split
  · rename_i he
    simp [he, hh]
  · rename_i he
    rw [isHostname_append_iff hh hd]
    simp [he]

/-- Appending the domain once more changes nothing. -/
theorem qualify_qualify (hostname domain : String) :
    Node.qualify (Node.qualify hostname domain) domain = Node.qualify hostname domain := by
  have hends : endsWith (Node.qualify hostname domain).toList domain.toList = true := by
    rw [toList_qualify]
    split
    · assumption
    · rw [endsWith_iff]
      exact ⟨hostname.toList ++ ['.'], by simp⟩
  conv_lhs => rw [Node.qualify, if_pos hends]

theorem Loadable.domain_valid (hl : Loadable db) {sdoc : GeneralSettingsDoc}
    (hs : settingsDoc db = some sdoc) : isDomain sdoc.domain.toList = true := by
  obtain ⟨form, hform, hdomain⟩ := hl.settings sdoc hs
  rw [← hdomain]
  exact GeneralSettingsSchema.isDomain_of_load hform

/-! ## The request -/

/-- The payload gets as far as being stored: the schema accepts it, `Node(**data)`
    takes its fields, and no stored node conflicts with it.  Then its host name
    has to fit under the domain, and what runs after storing has to succeed. -/
def CreationOk (env : Environment) (db : Db) (payload : Json) : Prop :=
  ∀ data sdoc, NodeSchema.deserialize payload = .ok data → data.error = .missing →
    settingsDoc db = some sdoc → ¬ Conflicts db data →
    (∀ hostname, data.hostname = .value hostname →
      HostnameFits hostname.toList sdoc.domain.toList) ∧ Reliable env

theorem triple_assignMac (hmac : RandMacValid env) (hn : node.MadeFrom data domain) :
    Fetches env db (NewNodeCtrl.assignMac node) fun assigned =>
      assigned.MadeFrom data domain ∧ assigned.hostname = node.hostname := by
  unfold NewNodeCtrl.assignMac
  split
  · refine Fetches.bind (fetches_randMac hmac) fun mac hm =>
      Fetches.pure ⟨{ hn with macAddress := ?_ }, rfl⟩
    intro m hmem
    cases hmem
    exact hm
  · exact Fetches.pure ⟨hn, rfl⟩

/-- A creation either ends in an error, before anything was stored, or leaves a
    loadable database. -/
theorem triple_createFromPayload (hl : Loadable db) (hmac : RandMacValid env) {payload : Json}
    (hok : CreationOk env db payload) :
    Triple (handle env) (fun w => w.db = db) (NewNodeCtrl.createFromPayload payload)
      (fun _ w => Reliable env ∧ Loadable w.db) fun _ w => w.db = db := by
  have hfetch {α : Type} {p : Prog α} {S : α → Prop} (hp : Fetches env db p S) :
      Triple (handle env) (fun w => w.db = db) p (fun a w => S a ∧ w.db = db)
        fun _ w => w.db = db :=
    hp.conseq (fun _ hw => hw) (fun _ _ h => h) fun _ _ h => h.elim
  refine (hfetch (fetches_loadSettings hl)).bind fun settings => Triple.assume fun hsettings => ?_
  cases hs : settingsDoc db with
  | none =>
      -- without settings no node is made
      rw [hs, Option.map_none, Option.map_eq_none_iff] at hsettings
      subst hsettings
      exact (triple_of_readsOnly (Node.readsOnly_load payload)).bind fun _ =>
        Triple.raise fun _ hw => hw
  | some sdoc =>
      rw [hs] at hsettings
      obtain ⟨form, rfl, hdomain⟩ := Option.map_eq_some_iff.mp hsettings
      rw [Node.load]
      cases hd : NodeSchema.deserialize payload with
      | error e => exact Triple.raise fun _ hw => hw
      | ok data =>
          have hc := NodeSchema.checked_of_deserialize hd
          by_cases herror : data.error = .missing
          · refine Triple.bind (hfetch (fetches_init hl hmac hc herror hs)) fun node => ?_
            refine Triple.assume fun hn => ?_
            have hqualified : ({ node with
                hostname := Node.qualify node.hostname form.domain } : Node).MadeFrom data
                  sdoc.domain := by
              refine { hn with hostname := fun hostname hhost => ?_ }
              rw [hn.hostname hostname hhost, hdomain, qualify_qualify]
            refine Triple.bind (hfetch (triple_assignMac hmac hqualified)) fun assigned => ?_
            refine Triple.assume fun hassigned => ?_
            obtain ⟨ha, -⟩ := hassigned
            refine Triple.bind (triple_postValidation hl hmac ha) fun _ => ?_
            refine Triple.assume fun hconflict => ?_
            obtain ⟨hfits, hr⟩ := hok data sdoc hd herror hs hconflict
            obtain ⟨hostname, hhost, hvalid⟩ := hc.hostname
            have hname : isHostname assigned.hostname.toList = true := by
              rw [ha.hostname hostname hhost, isHostname_qualify_iff hvalid (hl.domain_valid hs)]
              exact hfits hostname hhost
            have hpresent : (settingsDoc db).isSome := by rw [hs]; rfl
            have hcreate := triple_create hl hpresent hmac hr ha hc hname
            refine Triple.bind (hcreate.conseq (fun _ hw => hw) (fun _ _ h => h)
              fun _ _ h => h.elim) fun _ => ?_
            have hnotify : Triple (handle env) (fun w => Loadable w.db) sendNotification
                (fun _ w => Loadable w.db) fun _ _ => False :=
              Fetches.keeps fun _ hl' => fetches_sendNotification hl' hmac hr
            refine Triple.bind (hnotify.conseq (fun _ hw => hw) (fun _ _ h => h)
              fun _ _ h => h.elim) fun _ => ?_
            exact Triple.done fun w hw => ⟨hr, hw⟩
          · -- an `error` entry is no argument of the constructor
            have hinit : Node.init data = Program.raise (.typeError
                "__init__() got an unexpected keyword argument 'error'") := by
              unfold Node.init
              split
              · rename_i hmissing _ _
                exact absurd hmissing herror
              · rfl
            change Triple (handle env) _ ((Node.init data).bind _) _ _
            rw [hinit]
            exact Triple.raise fun _ hw => hw

theorem triple_post (hl : Loadable db) (hmac : RandMacValid env) {payload : Json}
    (hok : CreationOk env db payload) :
    Triple (handle env) (fun w => w.db = db) (NewNodeCtrl.post payload)
      (fun r w => Loadable w.db ∧ (r.status ≠ 200 → w.db = db)) fun _ w => w.db = db := by
  refine Triple.bind (Triple.attempt (Q := fun r w => match r with
    | .ok _ => Reliable env ∧ Loadable w.db
    | .error _ => w.db = db) (triple_createFromPayload hl hmac hok)) fun r => ?_
  rcases r with e | node
  · have hloadable (w : World) (hw : w.db = db) : Loadable w.db := hw ▸ hl
    cases e with
    | validationError messages => exact Triple.done fun w hw => ⟨hloadable w hw, fun _ => hw⟩
    | postValidationError messages => exact Triple.done fun w hw => ⟨hloadable w hw, fun _ => hw⟩
    | _ => exact Triple.raise fun _ hw => hw
  · refine Triple.assume fun hr => ?_
    have hqueue : Triple (handle env) (fun w => Loadable w.db)
        (Prog.orRaise (Prog.ask (.enqueue "execute"))) (fun _ w => Loadable w.db)
        fun _ _ => False :=
      Fetches.keeps fun db' _ => fetches_enqueue hr "execute"
    refine Triple.bind (hqueue.conseq (fun _ hw => hw) (fun _ _ h => h) fun _ _ h => h.elim) ?_
    exact fun _ => Triple.done fun w hw => ⟨hw, fun hstatus => absurd rfl hstatus⟩

end Creating

/-! ## Changes of the general settings -/

section Settings

variable {env : Environment}

/-- A form that the schema accepted may be stored. -/
theorem Loadable.replaceSettings {db : Db} (hl : Loadable db) {form : GeneralSettingsForm}
    (hd : isDomain form.domain.toList = true) :
    Loadable
      (Function.update db .settings ((db .settings).upsert generalSettingsId form.dump)) := by
  have hnodes : (Function.update db .settings
      ((db .settings).upsert generalSettingsId form.dump)) .nodes = db .nodes :=
    Function.update_of_ne (by decide) _ _
  have hdoc : settingsDoc (Function.update db .settings
      ((db .settings).upsert generalSettingsId form.dump)) = some form.dump := by
    rw [settingsDoc, Function.update_self, Table.get?_upsert, if_pos rfl]
  refine ⟨?_, ?_, ?_⟩
  · intro id doc hget
    rw [hnodes] at hget
    exact hl.nodes id doc hget
  · intro doc hdoc'
    rw [hdoc] at hdoc'
    cases hdoc'
    exact ⟨_, GeneralSettingsSchema.load_dump hd, rfl⟩
  · intro _ _ _
    rw [hdoc]
    rfl

theorem triple_loadable_of_readsOnly (env : Environment) {α : Type} {p : Prog α}
    (hp : p.Uses Op.readsOnly) :
    Triple (handle env) (fun w => Loadable w.db) p (fun _ w => Loadable w.db)
      fun _ w => Loadable w.db := by
  refine Triple.of_uses hp fun op w hop hw => ?_
  cases op with
  | db op =>
      have hsame : (op.apply w.db).2 = w.db := DocOp.apply_of_reads hop w.db
      change Loadable (op.apply w.db).2
      rwa [hsame]
  | external call => exact hw

/-- Saving the general settings keeps the database loadable, however it ends. -/
theorem triple_saveSettings (env : Environment) (payload : Json) :
    Triple (handle env) (fun w => Loadable w.db) (GeneralSettingsCtrl.post payload)
      (fun _ w => Loadable w.db) fun _ w => Loadable w.db := by
  have hqueue := triple_loadable_of_readsOnly env
    (Prog.uses_orRaise (Prog.readsOnly_ask (.enqueue "execute")))
  have hreplace (form : GeneralSettingsForm) (hd : isDomain form.domain.toList = true) :
      Triple (handle env) (fun w => Loadable w.db)
        (Prog.replaceOne .settings generalSettingsId form.dump) (fun _ w => Loadable w.db)
        fun _ w => Loadable w.db :=
    Triple.perform fun w hw => Loadable.replaceSettings hw hd
  refine Triple.bind (Q := fun _ w => Loadable w.db) (Triple.attempt ?_) fun r => ?_
  · cases hload : GeneralSettingsSchema.load payload with
    | error e => exact Triple.raise fun _ hw => hw
    | ok form =>
        have hd := GeneralSettingsSchema.isDomain_of_load hload
        change Triple _ _ (form.saveToDb.bind fun _ => sendNotification) _ _
        refine Triple.bind (Q := fun _ w => Loadable w.db) ?_ fun _ =>
          triple_loadable_of_readsOnly env readsOnly_sendNotification
        refine Triple.bind (Triple.when (Q := fun _ w => Loadable w.db)
          (fun _ => Triple.raise fun _ hw => hw) fun _ _ hw => hw) fun _ => ?_
        refine (hreplace form hd).bind fun _ => ?_
        exact triple_loadable_of_readsOnly env GeneralSettingsForm.readsOnly_generateInventory
  · rcases r with e | node
    · cases e with
      | validationError messages => exact Triple.done fun _ hw => hw
      | postValidationError messages => exact Triple.done fun _ hw => hw
      | _ =>
          dsimp only
          split
          · exact Triple.done fun _ hw => hw
          · exact Triple.raise fun _ hw => hw
    · exact hqueue.bind fun _ => Triple.done fun _ hw => hw

end Settings

/-! ## Sequences of requests -/

inductive NodeRequest where
  | createNode (payload : Json)
  | saveGeneralSettings (payload : Json)

def NodeRequest.program : NodeRequest → Prog Response
  | .createNode payload => NewNodeCtrl.post payload
  | .saveGeneralSettings payload => GeneralSettingsCtrl.post payload

/-- `Served C w w'`: from `w`, requests that each meet `C` when they are served
    lead to `w'`.  The outside may answer each request differently. -/
inductive Served (C : Environment → Db → NodeRequest → Prop) (w : World) : World → Prop
  | start : Served C w w
  | step {w' : World} (env : Environment) (request : NodeRequest) (hw : Served C w w')
      (hC : C env w'.db request) : Served C w (request.program.run (handle env) w').2

/-- The request ended in an error: it raised, or was answered with a status that
    says so. -/
def endsInError : Except PyError Response → Prop
  | .ok r => r.status ≠ 200
  | .error _ => True

/-- Every stored node is accepted by the schema, every loader returns, and a
    creation meeting `C` that ends in an error stores nothing. -/
structure CollectionLoadable (C : Environment → Db → NodeRequest → Prop) (w : World) : Prop where
  accepted : ∀ id doc, (w.db .nodes).get? id = some doc →
    ∃ data, NodeSchema.deserialize (.obj (doc.fields id)) = .ok data
  loaders : ∀ env, RandMacValid env → ∀ q, ∃ nodes w',
    ((Prog.find .nodes q).bind fun rows => Program.mapEach rows Node.loadDoc).run (handle env) w =
      (.ok nodes, w')
  atomic : ∀ env payload, C env w.db (.createNode payload) →
    endsInError ((NewNodeCtrl.post payload).run (handle env) w).1 →
      ((NewNodeCtrl.post payload).run (handle env) w).2.db .nodes = w.db .nodes

/-- What a step may be: random MAC addresses are valid, and a creation meets its
    condition. -/
def StepOk (env : Environment) (db : Db) (request : NodeRequest) : Prop :=
  RandMacValid env ∧ ∀ payload, request = .createNode payload → CreationOk env db payload

/-- Served requests that meet the condition keep the database loadable. -/
theorem Served.loadable {w w' : World} (h0 : Loadable w.db) (h : Served StepOk w w') :
    Loadable w'.db := by
  induction h with
  | start => exact h0
  | @step w' env request _ hC ih =>
      cases request with
      | createNode payload =>
          have hpost := triple_post ih hC.1 (hC.2 payload rfl)
          rcases hr : (NewNodeCtrl.post payload).run (handle env) w' with ⟨e | r, w''⟩
          · have hsame := hpost.error rfl hr
            rw [NodeRequest.program, hr]
            exact hsame ▸ ih
          · rw [NodeRequest.program, hr]
            exact (hpost.ok rfl hr).1
      | saveGeneralSettings payload =>
          have hpost := triple_saveSettings env payload
          rcases hr : (GeneralSettingsCtrl.post payload).run (handle env) w' with ⟨e | r, w''⟩
          · rw [NodeRequest.program, hr]
            exact hpost.error ih hr
          · rw [NodeRequest.program, hr]
            exact hpost.ok ih hr

/-- In every run whose creations meet `CreationOk`, the node collection is
    loadable in every state and failed creations store nothing. -/
theorem collectionLoadable_of_creationOk {w w' : World} (h0 : Loadable w.db)
    (h : Served StepOk w w') : CollectionLoadable StepOk w' := by
  have hl := h.loadable h0
  refine ⟨?_, ?_, ?_⟩
  · intro id doc hget
    exact NodeSchema.accepts_iff_valid.mpr (hl.nodes id doc hget)
  · intro env hmac q
    have hload : Fetches env w'.db ((Prog.find .nodes q).bind fun rows =>
        Program.mapEach rows Node.loadDoc) _ :=
      fetches_find hl hmac q
    rcases hr : ((Prog.find .nodes q).bind fun rows =>
      Program.mapEach rows Node.loadDoc).run (handle env) w' with ⟨e | nodes, w''⟩
    · exact (hload.error rfl hr).elim
    · exact ⟨nodes, w'', rfl⟩
  · intro env payload hC herror
    have hpost := triple_post hl hC.1 (hC.2 payload rfl)
    rcases hr : (NewNodeCtrl.post payload).run (handle env) w' with ⟨e | r, w''⟩
    · rw [hpost.error rfl hr]
    · rw [hr] at herror
      rw [(hpost.ok rfl hr).2 herror]

/-! ### A kit with domain `lan` -/

theorem randMacValid_steadyEnv : RandMacValid steadyEnv := by
  have hmac : isMacAddress (stripQuotes "'00:1b:ea:6e:7f:ff'").toList = true := by decide +kernel
  exact fun _ => hmac

theorem reliable_steadyEnv : Reliable steadyEnv :=
  ⟨fun _ _ => rfl, fun _ => ⟨none, rfl⟩, fun _ => ⟨false, rfl⟩, fun _ _ => rfl,
    fun _ _ => ⟨"1", rfl⟩⟩

def lanForm : GeneralSettingsForm :=
  ⟨generalSettingsId, ⟨10, 40, 12, 145⟩, ⟨255, 255, 255, 0⟩, ⟨10, 40, 12, 1⟩, "lan", "", some false⟩

/-- General settings and no nodes. -/
def lanWorld : World where
  db
    | .settings => Table.empty.upsert generalSettingsId lanForm.dump
    | _ => Table.empty
  calls := 0

theorem settingsDoc_lanWorld : settingsDoc lanWorld.db = some lanForm.dump := by
  rw [settingsDoc, lanWorld, Table.get?_upsert, if_pos rfl]

theorem loadable_lanWorld : Loadable lanWorld.db := by
  have hnone (id : String) : (lanWorld.db .nodes).get? id = none := rfl
  refine ⟨?_, ?_, ?_⟩
  · intro id doc hget
    rw [hnone] at hget
    cases hget
  · intro doc hdoc
    rw [settingsDoc_lanWorld] at hdoc
    cases hdoc
    exact ⟨_, GeneralSettingsSchema.load_dump (by decide), rfl⟩
  · intro id doc hget
    rw [hnone] at hget
    cases hget

def server1 : Node where
  id := "n1"
  hostname := "server1.lan"
  ipAddress := ⟨10, 40, 12, 146⟩
  macAddress := none
  raid0Override := none
  nodeType := NodeTypes.server
  deviceFacts := []
  deploymentType := none
  vpnStatus := .bool false
  virtualCpu := none
  virtualMem := none
  virtualOs := none
  virtualData := none

/-- The document of `server1`. -/
def server1Doc : NodeDoc where
  hostname := "server1.lan"
  ipAddress := "10.40.12.146"
  macAddress := none
  raid0Override := none
  nodeType := NodeTypes.server
  deviceFacts := []
  deploymentType := none
  vpnStatus := some false
  virtualCpu := none
  virtualMem := none
  virtualOs := none
  virtualData := none

/-- General settings and one node. -/
def server1World : World where
  db
    | .settings => Table.empty.upsert generalSettingsId lanForm.dump
    | .nodes => Table.empty.upsert "n1" server1Doc
    | _ => Table.empty
  calls := 0

def nodeFields (hostname : String) : List (String × Json) :=
  [("_id", .str "n1"), ("hostname", .str hostname), ("ip_address", .str "10.40.12.146")]

/-- The node `server1` may be created. -/
theorem stepOk_server1 :
    StepOk steadyEnv lanWorld.db (.createNode (.obj (nodeFields "server1"))) := by
  refine ⟨randMacValid_steadyEnv, fun payload hpayload data sdoc hd _ hs _ => ?_⟩
  refine ⟨fun hostname hhost => ?_, reliable_steadyEnv⟩
  cases hpayload
  rw [settingsDoc_lanWorld] at hs
  cases hs
  rw [NodeSchema.eq_read_of_deserialize hd] at hhost
  have hread : (NodeSchema.read (nodeFields "server1")).hostname = .value "server1" := by
    change NodeSchema.hostnameField.load Fields.isNull (nodeFields "server1") = .value "server1"
    decide +kernel
  rw [hread] at hhost
  cases hhost
  exact .inr (by decide)

theorem collectionLoadable_of_server1 :
    CollectionLoadable StepOk
      ((NewNodeCtrl.post (.obj (nodeFields "server1"))).run (handle steadyEnv) lanWorld).2 :=
  collectionLoadable_of_creationOk loadable_lanWorld
    (.step steadyEnv (.createNode (.obj (nodeFields "server1"))) .start stepOk_server1)

/-- The property without a condition on the payloads, in an environment that is as
    good as can be. -/
def CollectionAlwaysLoadable : Prop :=
  ∀ w w', Loadable w.db →
    Served (fun env _ _ => RandMacValid env ∧ Reliable env) w w' →
      CollectionLoadable (fun env _ _ => RandMacValid env ∧ Reliable env) w'

/-- A name of 53 letters passes the schema, since its own length is added to the
    bound, and is stored as one that does not. -/
theorem not_collectionAlwaysLoadable : ¬ CollectionAlwaysLoadable := by
  intro hclaim
  let payload : Json := .obj (nodeFields (String.ofList (List.replicate 53 'a')))
  let w := ((NewNodeCtrl.post payload).run (handle steadyEnv) lanWorld).2
  have hstored : ((w.db .nodes).get? "n1").any
      (fun doc => !isHostname doc.hostname.toList) = true := by
    decide +kernel
  obtain ⟨doc, hget, hbad⟩ := (Option.any_eq_true _ _).mp hstored
  have haccepted := (hclaim lanWorld w loadable_lanWorld
    (.step steadyEnv (.createNode payload) .start
      ⟨randMacValid_steadyEnv, reliable_steadyEnv⟩)).accepted "n1" doc hget
  have hvalid := (NodeSchema.accepts_iff_valid.mp haccepted).hostname
  rw [hvalid] at hbad
  cases hbad

end Tfplenum
