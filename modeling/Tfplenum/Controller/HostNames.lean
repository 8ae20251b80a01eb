/-
  Tfplenum.Controller.HostNames

  The host name of a node under the domain of the general settings.  `qualify`
  appends the domain unless the name ends with it, whatever stands before: a label
  whose tail is the domain stays as it is, and a name stored under one domain is
  not renamed but lengthened under another.  So names are canonical exactly while
  the domain stays and the label does not end with it.
-/

import Tfplenum.Controller.KitController
import Tfplenum.Controller.NodeCreation

namespace Tfplenum

open Lib Lib.Pattern Program

/-! ## Qualified names -/

theorem append_dot_injective {h d d' : String} (heq : h ++ "." ++ d = h ++ "." ++ d') : d = d' := by
  have hlist := congrArg String.toList heq
  simp only [String.toList_append, List.append_assoc, List.append_cancel_left_eq] at hlist
  exact String.toList_inj.mp hlist

theorem qualify_eq_append_iff {h d : String} :
    Node.qualify h d = h ++ "." ++ d ↔ ¬ endsWith h.toList d.toList = true := by
  unfold Node.qualify
  split
  · rename_i hends
    refine ⟨fun heq => ?_, fun hno => absurd hends hno⟩
    -- the name would be longer than itself
    have hlen := congrArg (fun s => s.toList.length) heq
    simp only [String.toList_append, List.length_append] at hlen
    have hdot : (".".toList).length = 1 := rfl
    omega
  · rename_i hends
    exact ⟨fun _ => hends, fun _ => rfl⟩

/-- The full name is not lengthened. -/
theorem qualify_full (h d : String) : Node.qualify (h ++ "." ++ d) d = h ++ "." ++ d := by
  refine if_pos ?_
  rw [endsWith_iff]
  exact ⟨h.toList ++ ['.'], by simp⟩

/-- Under another domain the full name becomes that of the domain only if it is the
    same domain. -/
theorem eq_of_qualify_full {h d d' : String}
    (heq : Node.qualify (h ++ "." ++ d) d' = h ++ "." ++ d') : d = d' := by
  unfold Node.qualify at heq
  split at heq
  · exact append_dot_injective heq
  · have hlen := congrArg (fun s => s.toList.length) heq
    simp only [String.toList_append, List.length_append] at hlen
    have hdot : (".".toList).length = 1 := rfl
    omega

/-! ## Under the domain of a world -/

/-- The domain of the stored settings, as `load_from_db` reads it. -/
def domainOf (settings : Table String GeneralSettingsDoc) : Option String :=
  match settings.get? generalSettingsId with
  | none => none
  | some doc =>
      match GeneralSettingsSchema.load (.obj (doc.fields generalSettingsId)) with
      | .ok form => some form.domain
      | .error _ => none

section Domain

variable {env : Environment} {w : World} {d : String}

theorem run_loadSettings (env : Environment) (hd : domainOf (w.db .settings) = some d) :
    ∃ form, GeneralSettingsForm.loadFromDb.run (handle env) w = (.ok (some form), w) ∧
      form.domain = d := by
  unfold domainOf at hd
  cases hdoc : (w.db .settings).get? generalSettingsId with
  | none =>
      rw [hdoc] at hd
      cases hd
  | some doc =>
      rw [hdoc] at hd
      dsimp only at hd
      have hfind : (Prog.findById .settings generalSettingsId).run (handle env) w =
          (.ok (some doc), w) := by
        rw [← hdoc]
        rfl
      split at hd
      · rename_i form hform
        cases hd
        refine ⟨form, ?_, rfl⟩
        refine (run_bind_ok _ hfind).trans ?_
        dsimp only
        rw [hform]
        rfl
      · cases hd

theorem run_setHostname (hd : domainOf (w.db .settings) = some d) (hostname : String) :
    (Node.setHostname hostname).run (handle env) w = (.ok (Node.qualify hostname d), w) := by
  obtain ⟨form, hform, rfl⟩ := run_loadSettings env hd
  exact run_bind_ok _ hform

theorem run_canonicalHostname (hd : domainOf (w.db .settings) = some d) (hostname : String) :
    (NodeCtrl.canonicalHostname hostname).run (handle env) w =
      (.ok (Node.qualify hostname d), w) := by
  obtain ⟨form, hform, rfl⟩ := run_loadSettings env hd
  exact run_bind_ok _ hform

/-- In the database nothing is written. -/
theorem triple_ofDoc (env : Environment) {db : Db} (hd : domainOf (db .settings) = some d)
    (id : String) (doc : NodeDoc) (ip : IPv4Address) :
    Triple (handle env) (fun w => w.db = db) (Node.init (.ofDoc id doc ip))
      (fun node w => (node.hostname = Node.qualify doc.hostname d ∧ (id ≠ "" → node.id = id) ∧
        (id = "" → ∃ n, node.id = env .uuid4 n)) ∧ w.db = db)
      fun _ _ => False := by
  have hask (call : External) : Triple (handle env) (fun w => w.db = db) (Prog.ask call)
      (fun _ w => w.db = db) fun _ _ => False :=
    Triple.perform fun _ hw => hw
  have hid : Triple (handle env) (fun w => w.db = db)
      (if id = "" then Prog.ask .uuid4 else pure id)
      (fun id' w => ((id ≠ "" → id' = id) ∧ (id = "" → ∃ n, id' = env .uuid4 n)) ∧ w.db = db)
      fun _ _ => False := by
    split
    · rename_i hempty
      exact Triple.perform fun w hw => ⟨⟨fun h => absurd hempty h, fun _ => ⟨w.calls, rfl⟩⟩, hw⟩
    · rename_i hid
      exact Triple.done fun _ hw => ⟨⟨fun _ => rfl, fun h => absurd h hid⟩, hw⟩
  have hname : Triple (handle env) (fun w => w.db = db) (Node.setHostname doc.hostname)
      (fun hostname w => hostname = Node.qualify doc.hostname d ∧ w.db = db) fun _ _ => False := by
    constructor
    rintro w rfl
    rw [run_setHostname hd]
    exact ⟨rfl, rfl⟩
  have hmac : Triple (handle env) (fun w => w.db = db)
      (Node.setMacAddress doc.macAddress doc.nodeType) (fun _ w => w.db = db) fun _ _ => False := by
    unfold Node.setMacAddress
    split
    · exact Triple.bind ((hask _).bind fun _ => Triple.done fun _ hw => hw) fun _ =>
        Triple.done fun _ hw => hw
    · exact Triple.done fun _ hw => hw
  rw [Node.init_ofDoc]
  refine hid.bind fun id' => Triple.assume fun hid' => ?_
  refine hname.bind fun hostname => Triple.assume fun hhost => ?_
  exact hmac.bind fun mac => Triple.done fun w hw => ⟨⟨hhost, hid'⟩, hw⟩

end Domain

/-! ## Creating a node -/

/-- The operation leaves the collection as it is. -/
def Op.leaves (c : Collection) (op : Op) : Prop :=
  ∀ (env : Environment) (w : World), (handle env op w).2.db c = w.db c

section Leaves

variable {c : Collection}

theorem leaves_of_readsOnly {α : Type} {p : Prog α} (hp : p.Uses Op.readsOnly) :
    p.Uses (Op.leaves c) :=
  hp.mono fun _ hop env w => by rw [db_of_readsOnly hop]

theorem leaves_of_ne (op : DocOp Doc) (hne : op.collection ≠ c) :
    (Program.perform (Op.db op) : Prog (Op.Res (Op.db op))).Uses (Op.leaves c) :=
  .call (fun env w => db_of_ne env w op hne) fun _ => .done _

theorem leaves_createJobs (hc : Collection.jobs ≠ c) (node : Node) :
    node.createJobs.Uses (Op.leaves c) := by
  have hinit (description name : String) :
      (NodeJob.initPending node description name).Uses (Op.leaves c) :=
    leaves_of_readsOnly (NodeJob.readsOnly_init _)
  have hsave (job : NodeJob) : job.saveToDb.Uses (Op.leaves c) :=
    leaves_of_ne (.replaceOne .jobs job.id job.doc) hc
  unfold Node.createJobs
  split
  · refine (hinit _ _).bind fun createdjob => (hinit _ _).bind fun deployjob => ?_
    exact (hsave _).bind fun _ => hsave _
  · refine (hinit _ _).bind fun createdjob => (hinit _ _).bind fun installjob => ?_
    refine (hinit _ _).bind fun deployjob => (hsave _).bind fun _ => ?_
    exact (hsave _).bind fun _ => hsave _

/-- The request that saves the settings writes nothing else. -/
theorem leaves_saveSettings (hc : Collection.settings ≠ c) (payload : Json) :
    (GeneralSettingsCtrl.post payload).Uses (Op.leaves c) := by
  have hsave (form : GeneralSettingsForm) : form.saveToDb.Uses (Op.leaves c) := by
    refine Uses.bind (Uses.when fun _ => .raise _) fun _ => ?_
    refine Uses.bind (leaves_of_ne (.replaceOne .settings generalSettingsId form.dump) hc)
      fun _ => ?_
    exact leaves_of_readsOnly GeneralSettingsForm.readsOnly_generateInventory
  refine Uses.bind (Uses.attempt ?_) fun r => ?_
  · refine Uses.bind (uses_ofExcept _) fun form => (hsave form).bind fun _ => ?_
    exact leaves_of_readsOnly readsOnly_sendNotification
  · split
    · exact .done _
    · exact .done _
    · split
      · exact .done _
      · exact .raise _
    · exact Uses.bind (leaves_of_readsOnly (Prog.uses_orRaise (Prog.readsOnly_ask _))) fun _ =>
        .done _

end Leaves

/-- The node is stored under the name, as a document that can be loaded. -/
structure StoredAs (id name : String) (db : Db) : Prop where
  stored : ∃ doc ip, (db .nodes).get? id = some doc ∧ doc.hostname = name ∧
    Node.loadDoc (id, doc) = Node.init (.ofDoc id doc ip)

section Creation

variable {env : Environment} {db : Db} {h d : String}

/-- A triple for what a program that only reads leaves, whatever it raises. -/
theorem triple_reading {α : Type} {p : Prog α} (hp : p.Uses Op.readsOnly) :
    Triple (handle env) (fun w => w.db = db) p (fun _ w => w.db = db) fun _ _ => True :=
  (triple_of_readsOnly hp).conseq (fun _ hw => hw) (fun _ _ hw => hw) fun _ _ _ => trivial

theorem triple_loadPayload (hd : domainOf (db .settings) = some d) {payload : List (String × Json)}
    (hpayload : payload.lookup "hostname" = some (.str h)) :
    Triple (handle env) (fun w => w.db = db) (Node.load (.obj payload))
      (fun node w => node.hostname = Node.qualify h d ∧ w.db = db) fun _ _ => True := by
  refine Triple.bind (Triple.ofExcept
    (Q := fun data w => NodeSchema.deserialize (.obj payload) = .ok data ∧ w.db = db)
    (fun _ _ hdata hw => ⟨hdata, hw⟩) fun _ _ _ _ => trivial) fun data =>
      Triple.assume fun hdata => ?_
  have hread := NodeSchema.eq_read_of_deserialize hdata
  unfold Node.init
  split
  · rename_i hostname ipAddress _ hhost _
    -- the field holds the text of the payload
    have hname : hostname = h := by
      rw [hread] at hhost
      have hload : NodeSchema.hostnameField.load Fields.isNull payload = .value hostname := hhost
      have hread : NodeSchema.hostnameField.deserialize (.str h) = .ok hostname :=
        Field.deserialize_of_load_eq_value hpayload hload
      cases hread
      rfl
    subst hname
    have hid : (if data.id.valueD "" = "" then Prog.ask .uuid4 else pure (data.id.valueD "") :
        Prog String).Uses Op.readsOnly := by
      split
      · exact Prog.readsOnly_ask _
      · exact .done _
    refine (triple_reading hid).bind fun id => Triple.bind (Q := fun name w =>
      name = Node.qualify hostname d ∧ w.db = db) ?_ fun name => Triple.assume fun hname => ?_
    · constructor
      rintro w rfl
      rw [run_setHostname hd]
      exact ⟨rfl, rfl⟩
    · refine (triple_reading (Node.readsOnly_setMacAddress _ _)).bind fun mac => ?_
      exact Triple.done fun w hw => ⟨hname, hw⟩
  · exact Triple.raise fun _ _ => trivial

theorem triple_createStored (node : Node) :
    Triple (handle env) (fun w => w.db = db) node.create
      (fun _ w => StoredAs node.id node.hostname w.db ∧ w.db .settings = db .settings)
      fun _ _ => True := by
  refine Triple.bind (Triple.ofExcept (Q := fun doc w => node.dump = .ok doc ∧ w.db = db)
    (fun _ _ hdoc hw => ⟨hdoc, hw⟩) fun _ _ _ _ => trivial) fun doc => Triple.assume fun hdoc => ?_
  have hname : doc.hostname = node.hostname := by
    obtain ⟨vpnStatus, -, rfl⟩ := Node.eq_of_dump hdoc
    rfl
  let db' : Db := Function.update db .nodes ((db .nodes).upsert node.id doc)
  have hget : (db' .nodes).get? node.id = some doc := by
    have hnodes : db' .nodes = (db .nodes).upsert node.id doc := Function.update_self ..
    rw [hnodes, Table.get?_upsert, if_pos rfl]
  have hsettings : db' .settings = db .settings := Function.update_of_ne (by decide) _ _
  have hreplace : Triple (handle env) (fun w => w.db = db) (Prog.replaceOne .nodes node.id doc)
      (fun _ w => w.db = db') fun _ _ => True := by
    refine Triple.perform fun w hw => ?_
    subst hw
    rfl
  refine hreplace.bind fun _ => ?_
  rcases Node.loadDoc_cases node.id doc with ⟨e, he⟩ | ⟨ip, -, hload⟩
  · rw [he]
    exact Triple.raise fun _ _ => trivial
  · -- from here on neither nodes nor settings are written
    have hkeep {α : Type} {p : Prog α} (hnodes : p.Uses (Op.leaves .nodes))
        (hset : p.Uses (Op.leaves .settings)) :
        Triple (handle env) (fun w => w.db .nodes = db' .nodes ∧ w.db .settings = db .settings) p
          (fun _ w => w.db .nodes = db' .nodes ∧ w.db .settings = db .settings)
          fun _ _ => True := by
      have h1 : Triple (handle env) (fun w => w.db .nodes = db' .nodes) p
          (fun _ w => w.db .nodes = db' .nodes) fun _ w => w.db .nodes = db' .nodes :=
        Triple.of_uses hnodes fun op w hop hw => (hop env w).trans hw
      have h2 : Triple (handle env) (fun w => w.db .settings = db .settings) p
          (fun _ w => w.db .settings = db .settings) fun _ w => w.db .settings = db .settings :=
        Triple.of_uses hset fun op w hop hw => (hop env w).trans hw
      exact (h1.and h2).conseq (fun _ hw => hw) (fun _ _ hw => hw) fun _ _ _ => trivial
    refine (triple_reading (Node.readsOnly_loadDoc _)).bind fun created => ?_
    refine Triple.pre (P := fun w => w.db .nodes = db' .nodes ∧ w.db .settings = db .settings) ?_ ?_
    · refine (hkeep (leaves_createJobs (by decide) _) (leaves_createJobs (by decide) _)).bind
        fun _ => ?_
      refine (hkeep (leaves_of_readsOnly readsOnly_generateInventory)
        (leaves_of_readsOnly readsOnly_generateInventory)).post fun _ w hw => ⟨⟨doc, ip, ?_⟩, hw.2⟩
      rw [hw.1]
      exact ⟨hget, hname, hload⟩
    · rintro w hw
      rw [hw]
      exact ⟨rfl, hsettings⟩

/-- What a request that creates a node has stored when it goes on. -/
theorem triple_createNamed (env : Environment) (hd : domainOf (db .settings) = some d)
    {payload : List (String × Json)} (hpayload : payload.lookup "hostname" = some (.str h)) :
    Triple (handle env) (fun w => w.db = db) (NewNodeCtrl.createFromPayload (.obj payload))
      (fun node w => StoredAs node.id (Node.qualify h d) w.db ∧ w.db .settings = db .settings)
      fun _ _ => True := by
  have hsettings : Triple (handle env) (fun w => w.db = db) GeneralSettingsForm.loadFromDb
      (fun o w => (∀ form ∈ o, form.domain = d) ∧ w.db = db) fun _ _ => True := by
    constructor
    rintro w rfl
    obtain ⟨form, hform, hdomain⟩ := run_loadSettings env hd
    rw [hform]
    refine ⟨?_, rfl⟩
    rintro form' ⟨⟩
    exact hdomain
  refine hsettings.bind fun o => Triple.assume fun ho => ?_
  refine (triple_loadPayload hd hpayload).bind fun node => Triple.assume fun hnode => ?_
  cases o with
  | none => exact Triple.raise fun _ _ => trivial
  | some form =>
      have hmac (node : Node) : Triple (handle env) (fun w => w.db = db)
          (NewNodeCtrl.assignMac node)
          (fun node' w => node'.hostname = node.hostname ∧ w.db = db) fun _ _ => True := by
        unfold NewNodeCtrl.assignMac
        split
        · exact (triple_reading Node.readsOnly_randMac).bind fun _ =>
            Triple.done fun _ hw => ⟨rfl, hw⟩
        · exact Triple.done fun _ hw => ⟨rfl, hw⟩
      refine (hmac _).bind fun node' => Triple.assume fun hnode' => ?_
      have hname : node'.hostname = Node.qualify h d := by
        rw [hnode', hnode, ho form rfl, qualify_qualify]
      refine (triple_reading (Node.readsOnly_postValidation _)).bind fun _ => ?_
      refine (triple_createStored node').bind fun _ => Triple.forall_pre fun w hw => ?_
      have hnotify : Triple (handle env) (fun w' => w'.db = w.db) sendNotification
          (fun _ w' => w'.db = w.db) fun _ _ => True :=
        triple_reading readsOnly_sendNotification
      refine (hnotify.pre (by rintro _ rfl; rfl)).bind fun _ => Triple.done fun w' hw' => ?_
      rw [hw', ← hname]
      exact hw

end Creation

/-! ## Under the same and under another domain -/

/-- The general settings are saved any number of times. -/
inductive DomainChanges (env : Environment) : World → World → Prop
  | refl (w : World) : DomainChanges env w w
  | snoc {w w' : World} (hr : DomainChanges env w w') (payload : Json) :
      DomainChanges env w ((GeneralSettingsCtrl.post payload).run (handle env) w').2

theorem DomainChanges.nodes {env : Environment} {w w' : World} (hr : DomainChanges env w w') :
    w'.db .nodes = w.db .nodes := by
  induction hr with
  | refl => rfl
  | @snoc w' _ payload ih =>
      have hleaves := leaves_saveSettings (c := .nodes) (by decide) payload
      exact hleaves.run_invariant (handle env) (I := fun s => s.db .nodes = w.db .nodes)
        (fun op s hop hs => (hop env s).trans hs) ih

/-- A node built from the label or from its full name gets the full name. -/
def BuildsFull (env : Environment) (w : World) (h d : String) : Prop :=
  ∀ name ∈ [h, h ++ "." ++ d],
    ((Node.setHostname name).run (handle env) w).1 = .ok (h ++ "." ++ d)

/-- The document stored under the id is loaded as a node of this name. -/
def LoadsAs (env : Environment) (w : World) (id name : String) : Prop :=
  ∃ doc node w', (w.db .nodes).get? id = some doc ∧
    (Node.loadDoc (id, doc)).run (handle env) w = (.ok node, w') ∧ node.hostname = name

/-- Looked up or deleted by the label or by its full name, the document stored under
    the id is among those that match. -/
def FoundBy (env : Environment) (w : World) (h d id : String) : Prop :=
  ∀ name ∈ [h, h ++ "." ++ d], ∃ doc, (w.db .nodes).get? id = some doc ∧
    ((NodeCtrl.canonicalHostname name).run (handle env) w).1 = .ok doc.hostname

/-- What canonical names are for a node with the id that was created from the label
    in `w`, under the domain `d`, and then kept until the domain is `d'`. -/
structure CanonicalNames (env : Environment) (w w' : World) (id h d d' : String) : Prop where
  built : BuildsFull env w h d
  builtAfter : BuildsFull env w' h d'
  reloaded : LoadsAs env w id (h ++ "." ++ d)
  renamed : LoadsAs env w' id (h ++ "." ++ d')
  found : FoundBy env w h d id
  foundAfter : FoundBy env w' h d' id

section Canonical

variable {env : Environment} {w : World} {id h d name : String}

theorem buildsFull_iff (hd : domainOf (w.db .settings) = some d) :
    BuildsFull env w h d ↔ Node.qualify h d = h ++ "." ++ d := by
  simp only [BuildsFull, List.mem_cons, List.not_mem_nil, or_false, forall_eq_or_imp, forall_eq,
    run_setHostname hd, qualify_full, and_true, Except.ok.injEq]

/-- Loading does not rename: it appends the domain to a name that does not end with it. -/
theorem loadsAs_iff (hd : domainOf (w.db .settings) = some d) (hstored : StoredAs id h w.db) :
    LoadsAs env w id name ↔ Node.qualify h d = name := by
  obtain ⟨doc, ip, hget, rfl, hload⟩ := hstored.stored
  have hpost := (triple_ofDoc env hd id doc ip).apply w rfl
  constructor
  · rintro ⟨doc', node, w', hget', hrun, rfl⟩
    cases hget.symm.trans hget'
    rw [hload] at hrun
    rw [hrun] at hpost
    exact hpost.1.1.symm
  · rintro rfl
    rcases hrun : (Node.init (.ofDoc id doc ip)).run (handle env) w with ⟨e | node, w'⟩ <;>
      rw [hrun] at hpost
    · exact hpost.elim
    · exact ⟨doc, node, w', hget, hload ▸ hrun, hpost.1.1⟩

theorem foundBy_iff (hd : domainOf (w.db .settings) = some d) (hstored : StoredAs id name w.db) :
    FoundBy env w h d id ↔ Node.qualify h d = name ∧ h ++ "." ++ d = name := by
  obtain ⟨doc, ip, hget, rfl, hload⟩ := hstored.stored
  simp only [FoundBy, List.mem_cons, List.not_mem_nil, or_false, forall_eq_or_imp, forall_eq,
    run_canonicalHostname hd, qualify_full, hget, Option.some.injEq, Except.ok.injEq,
      exists_eq_left']

end Canonical

/-- The property without a condition on the label and the domains. -/
def NamesCanonical : Prop :=
  ∀ (env : Environment) (w₀ w w' : World) (payload : List (String × Json)) (h d d' : String)
    (node : Node), payload.lookup "hostname" = some (.str h) → '.' ∉ h.toList →
      domainOf (w₀.db .settings) = some d →
        (NewNodeCtrl.createFromPayload (.obj payload)).run (handle env) w₀ = (.ok node, w) →
          DomainChanges env w w' → domainOf (w'.db .settings) = some d' →
            CanonicalNames env w w' node.id h d d'

/-- The request that creates a node of this name, run alone under the domain `lan`. -/
def createUnderLan (hostname : String) : Except PyError Node × World :=
  (NewNodeCtrl.createFromPayload (.obj (nodeFields hostname))).run (handle steadyEnv) lanWorld

theorem domainOf_lanWorld : domainOf (lanWorld.db .settings) = some "lan" := by decide +kernel

end Tfplenum
