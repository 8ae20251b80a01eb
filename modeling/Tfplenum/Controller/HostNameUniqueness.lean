/-
  Tfplenum.Controller.HostNameUniqueness

  Nodes are stored by id and looked up by host name.  None of the requests that
  store a node looks whether its host name is taken.  What a request stores goes by
  its canonical name (`namesFor`), which the payload and the domain decide, so the
  names stay different as long as requests of one name do not meet (`NamesApart`).
-/

import Tfplenum.Controller.HostNames
import Tfplenum.Controller.NodeUpdates
import Tfplenum.Controller.NodeWrites

namespace Tfplenum

open Lib Program

/-- The query of every look-up by host name. -/
def byHostname (hostname : String) : String → NodeDoc → Bool :=
  fun _ node => node.hostname = hostname

/-- Host names are pairwise different, and a look-up finds the node it means. -/
structure HostnamesUnique (w : World) : Prop where
  unique : ∀ id id' doc doc', (w.db .nodes).get? id = some doc →
    (w.db .nodes).get? id' = some doc' →
    doc.hostname = doc'.hostname → id = id'
  found : ∀ id doc, (w.db .nodes).get? id = some doc →
    (w.db .nodes).findOne (byHostname doc.hostname) = some (id, doc)

/-- The second part follows from the first. -/
theorem hostnamesUnique_of_unique {w : World}
    (h : ∀ id id' doc doc', (w.db .nodes).get? id = some doc →
      (w.db .nodes).get? id' = some doc' → doc.hostname = doc'.hostname → id = id') :
    HostnamesUnique w := by
  refine ⟨h, ?_⟩
  intro id doc hget
  cases hfind : (w.db .nodes).findOne (byHostname doc.hostname) with
  | none =>
      have hno := Table.findOne_eq_none_iff.mp hfind id doc hget
      simp [byHostname] at hno
  | some row =>
      obtain ⟨hrow, hname⟩ := Table.findOne_eq_some hfind
      have hid : row.1 = id := h row.1 id row.2 doc hrow hget (of_decide_eq_true hname)
      rw [hid, hget] at hrow
      rw [Option.some.inj hrow, ← hid]

/-! ## Requests -/

/-- What changes which nodes there are. -/
inductive NodeSetOperation where
  /-- `NewNodeCtrl.post` -/
  | newNode (payload : Json)
  /-- `post_mip` -/
  | mip (payload : List (String × Json))
  /-- `ControlPlaneCtrl.post` -/
  | controlPlane
  | refreshKit (jobId : String) (polls : Nat) (nodes newControlPlane : List Node)
  /-- `NodeCtrl.delete` -/
  | deleteNode (hostname : String)
  /-- `execute` for `remove_node` -/
  | removeNode (s : NodeService) (htype : s.execType = .removeNode)

namespace NodeSetOperation

def program : NodeSetOperation → Prog Unit
  | .newNode payload => discard (NewNodeCtrl.post payload)
  | .mip payload => MipCtrlApi.post payload
  | .controlPlane => discard ControlPlaneCtrl.post
  | .refreshKit jobId polls nodes newControlPlane =>
      Tfplenum.refreshKit jobId polls nodes newControlPlane
  | .deleteNode hostname => discard (NodeCtrl.delete hostname)
  | .removeNode s _ => discard s.execute

theorem rewrites_program (operation : NodeSetOperation) :
    operation.program.Uses (Op.rewrites fun _ _ => True) := by
  have hdiscard {α : Type} {p : Prog α} (hp : p.Uses (Op.rewrites fun _ _ => True)) :
      (discard p : Prog Unit).Uses (Op.rewrites fun _ _ => True) :=
    hp.bind fun _ => .done _
  cases operation with
  | newNode payload => exact hdiscard (rewrites_newNode (fun _ _ => trivial) payload)
  | mip payload => exact rewrites_mip (fun _ _ => trivial) payload
  | controlPlane => exact hdiscard (rewrites_controlPlane fun _ _ => trivial)
  | refreshKit jobId polls nodes newControlPlane =>
      exact rewrites_refreshKit (fun _ _ _ _ => trivial) jobId polls newControlPlane
  | deleteNode hostname => exact hdiscard (rewrites_deleteNode hostname)
  | removeNode s htype => exact hdiscard (rewrites_executeRemove htype)

end NodeSetOperation

/-- Any number of requests over the stored documents. -/
def nodeSetOperations (w : World) (operations : List NodeSetOperation) :
    Config Op Op.Res PyError Unit World :=
  ⟨w, operations.map NodeSetOperation.program⟩

/-! ## Steps and runs -/

/-- Where the step stores a node, no other stored node has its host name. -/
def StoresFreeName (e : Event Op) (w : World) : Prop :=
  ∀ id doc, e.op = .db (.replaceOne .nodes id doc) →
    ∀ id' doc', (w.db .nodes).get? id' = some doc' → doc'.hostname = doc.hostname → id' = id

theorem hostnamesUnique_step {env : Environment} {i : Nat} {op : Op} {w : World}
    (hop : op.rewrites fun _ _ => True) (hfree : StoresFreeName ⟨i, op⟩ w)
    (hw : HostnamesUnique w) : HostnamesUnique (handle env op w).2 := by
  refine hostnamesUnique_of_unique ?_
  intro id₁ id₂ doc₁ doc₂ h₁ h₂ hname
  -- where no node is stored, all that is stored was stored before
  have hold (hdel : op.readsOnly ∨ (∃ dop : DocOp Doc, op = .db dop ∧ dop.collection = .jobs) ∨
      op.deletesNodes) : id₁ = id₂ :=
    hw.unique id₁ id₂ doc₁ doc₂ (nodes_subset_of_deletes hdel h₁) (nodes_subset_of_deletes hdel h₂)
      hname
  rcases hop with hread | hjobs | hdelete | ⟨id, doc, rfl, -⟩
  · exact hold (.inl hread)
  · exact hold (.inr (.inl hjobs))
  · exact hold (.inr (.inr hdelete))
  · have hget (id' : String) (doc' : NodeDoc)
        (h : ((handle env (.db (.replaceOne .nodes id doc)) w).2.db .nodes).get? id' = some doc') :
        (id' = id ∧ doc' = doc) ∨ (id' ≠ id ∧ (w.db .nodes).get? id' = some doc') := by
      rw [db_replaceOne, Table.get?_upsert] at h
      split at h
      · exact .inl ⟨‹_›, (Option.some.inj h).symm⟩
      · exact .inr ⟨‹_›, h⟩
    have hnew := hfree id doc rfl
    rcases hget id₁ doc₁ h₁ with ⟨rfl, rfl⟩ | ⟨hne₁, hget₁⟩
    · rcases hget id₂ doc₂ h₂ with ⟨rfl, rfl⟩ | ⟨hne₂, hget₂⟩
      · rfl
      · exact (hnew id₂ doc₂ hget₂ hname.symm).symm
    · rcases hget id₂ doc₂ h₂ with ⟨rfl, rfl⟩ | ⟨hne₂, hget₂⟩
      · exact hnew id₁ doc₁ hget₁ hname
      · exact hw.unique id₁ id₂ doc₁ doc₂ hget₁ hget₂ hname

/-! ## The names of requests -/

/-- The host name of a payload under the domain of the settings. -/
def payloadHostname (settings : Table String GeneralSettingsDoc) (payload : Json) : Option String :=
  match payload with
  | .obj fields =>
      match fields.lookup "hostname" with
      | some (.str hostname) => (domainOf settings).map (Node.qualify hostname)
      | _ => none
  | _ => none

/-- The canonical names under which the request may store a node with the id: those its
    payload, the control plane or the refreshed node has. -/
def NodeSetOperation.namesFor (settings : Table String GeneralSettingsDoc) (id : String) :
    NodeSetOperation → List String
  | .newNode payload => (payloadHostname settings payload).toList
  | .mip payload => (payloadHostname settings (.obj (MipCtrlApi.withType payload))).toList
  | .controlPlane => ((domainOf settings).map (Node.qualify "control-plane")).toList
  | .refreshKit _ _ nodes _ => (nodes.filter (·.id = id)).map (·.hostname)
  | .deleteNode _ => []
  | .removeNode _ _ => []

section Names

variable {env : Environment} {settings : Table String GeneralSettingsDoc}

theorem domainOf_eq {sdoc : GeneralSettingsDoc} {form : GeneralSettingsForm}
    (hdoc : settings.get? generalSettingsId = some sdoc)
    (hform : GeneralSettingsSchema.load (.obj (sdoc.fields generalSettingsId)) = .ok form) :
    domainOf settings = some form.domain := by
  simp only [domainOf, hdoc, hform]

theorem hostname_of_dump {node : Node} {doc : NodeDoc} (h : node.dump = .ok doc) :
    doc.hostname = node.hostname := by
  obtain ⟨vpnStatus, -, rfl⟩ := Node.eq_of_dump h
  rfl

theorem reads_domain : Reads env settings GeneralSettingsForm.loadFromDb fun o =>
    ∀ form ∈ o, domainOf settings = some form.domain := by
  refine reads_loadSettings.mono fun o ho form hform => ?_
  obtain ⟨sdoc, hdoc, hload⟩ := ho form hform
  exact domainOf_eq hdoc hload

/-- The host name of a payload that is accepted is a text. -/
theorem lookup_of_deserialize {payload : Json} {data : NodeSchema.Data} {hostname : String}
    (hdata : NodeSchema.deserialize payload = .ok data)
    (hhost : data.hostname = .value hostname) :
    ∃ fields, payload = .obj fields ∧ fields.lookup "hostname" = some (.str hostname) := by
  cases payload with
  | obj fields =>
      refine ⟨fields, rfl, ?_⟩
      rw [NodeSchema.eq_read_of_deserialize hdata] at hhost
      have hload : NodeSchema.hostnameField.load Fields.isNull fields = .value hostname := hhost
      cases hlookup : fields.lookup "hostname" with
      | none =>
          have hnone : fields.lookup NodeSchema.hostnameField.name = none := hlookup
          simp only [Field.load, hnone] at hload
          split at hload <;> cases hload
      | some value =>
          have htext : Fields.Str.deserialize value = .ok hostname :=
            Field.deserialize_of_load_eq_value hlookup hload
          cases value <;> cases htext
          rfl
  | _ => cases hdata

/-- A node that is loaded from a payload gets the name that is requested. -/
theorem reads_loadPayload (payload : Json) :
    Reads env settings (Node.load payload) fun node =>
      payloadHostname settings payload = some node.hostname := by
  refine UsesWhile.bind (.ofExcept fun data hdata => hdata) fun data hdata => ?_
  unfold Node.init
  split
  swap
  · exact .raise _
  rename_i hostname ipAddress _ hhost _
  obtain ⟨fields, rfl, hlookup⟩ := lookup_of_deserialize hdata hhost
  have hid : Reads env settings
      (if data.id.valueD "" = "" then Prog.ask .uuid4 else pure (data.id.valueD ""))
      fun _ => True := by
    refine .of_uses ?_
    split
    · exact Prog.readsOnly_ask _
    · exact .done _
  have hname : Reads env settings (Node.setHostname hostname) fun name =>
      (domainOf settings).map (Node.qualify hostname) = some name := by
    refine reads_domain.bind fun o ho => ?_
    cases o with
    | none => exact .raise _
    | some form => exact .done (by rw [ho form rfl]; rfl)
  refine hid.bind fun id _ => hname.bind fun name hname => ?_
  refine UsesWhile.bind (.of_uses (Node.readsOnly_setMacAddress _ _)) fun mac _ => .done ?_
  rw [payloadHostname, hlookup]
  exact hname

/-- Under its own domain a name stays as it is. -/
theorem qualify_payloadHostname {payload : Json} {name d : String}
    (hname : payloadHostname settings payload = some name) (hd : domainOf settings = some d) :
    Node.qualify name d = name := by
  unfold payloadHostname at hname
  split at hname
  · split at hname
    · rw [hd, Option.map_some, Option.some.injEq] at hname
      rw [← hname, qualify_qualify]
    · cases hname
  · cases hname

/-- A program that stores a node under the names only. -/
abbrev StoresUnder (env : Environment) (settings : Table String GeneralSettingsDoc)
    (names : String → List String) {α : Type} (p : Prog α) : Prop :=
  p.UsesWhile (handle env) (SettingsAre settings)
    (Op.rewrites fun id doc => doc.hostname ∈ names id) fun _ => True

variable {names : String → List String}

theorem storesUnder_of_readsOnly {α : Type} {p : Prog α} (hp : p.Uses Op.readsOnly) :
    StoresUnder env settings names p :=
  .of_uses (rewrites_of_readsOnly hp)

theorem storesUnder_create {node : Node} (h : node.hostname ∈ names node.id) :
    StoresUnder env settings names node.create := by
  refine .of_uses (rewrites_create fun doc hdump => ?_)
  rwa [hostname_of_dump hdump]

theorem Reads.storing {α : Type} {p : Prog α} {Q : α → Prop} (hp : Reads env settings p Q) :
    p.UsesWhile (handle env) (SettingsAre settings)
      (Op.rewrites fun id doc => doc.hostname ∈ names id) Q :=
  hp.weaken fun _ hop => .inl hop

theorem storesUnder_newNode (payload : Json) :
    StoresUnder env settings (fun _ => (payloadHostname settings payload).toList)
      (NewNodeCtrl.post payload) := by
  have hcreate : StoresUnder env settings (fun _ => (payloadHostname settings payload).toList)
      (NewNodeCtrl.createFromPayload payload) := by
    refine reads_domain.storing.bind fun o ho => ?_
    refine (reads_loadPayload payload).storing.bind fun node hname => ?_
    cases o with
    | none => exact .raise _
    | some form =>
        have hmac (node : Node) : Reads env settings (NewNodeCtrl.assignMac node)
            fun node' => node'.hostname = node.hostname := by
          unfold NewNodeCtrl.assignMac
          split
          · exact UsesWhile.bind (.of_uses Node.readsOnly_randMac) fun _ _ => .done rfl
          · exact .done rfl
        refine (hmac _).storing.bind fun node' hnode' => ?_
        refine UsesWhile.bind (storesUnder_of_readsOnly (Node.readsOnly_postValidation _))
          fun _ _ => ?_
        refine UsesWhile.bind (storesUnder_create ?_) fun _ _ => ?_
        · rw [hnode', qualify_payloadHostname hname (ho form rfl), hname]
          exact List.mem_singleton_self _
        · exact storesUnder_of_readsOnly (readsOnly_sendNotification.bind fun _ => .done _)
  refine UsesWhile.bind hcreate.attempt fun r _ => ?_
  split
  · exact .done trivial
  · exact .done trivial
  · exact .raise _
  · exact storesUnder_of_readsOnly readsOnly_queued

theorem storesUnder_mip (payload : List (String × Json)) :
    StoresUnder env settings
      (fun _ => (payloadHostname settings (.obj (MipCtrlApi.withType payload))).toList)
      (MipCtrlApi.post payload) := by
  have hadd : StoresUnder env settings
      (fun _ => (payloadHostname settings (.obj (MipCtrlApi.withType payload))).toList)
      (MipCtrlApi.addMipToDatabase payload) := by
    refine (reads_loadPayload _).storing.bind fun mip hname => ?_
    refine UsesWhile.bind (storesUnder_create ?_) fun _ _ => ?_
    · rw [hname]
      exact List.mem_singleton_self _
    · exact storesUnder_of_readsOnly (readsOnly_sendNotification.bind fun _ => .done _)
  exact UsesWhile.bind hadd fun mip _ =>
    storesUnder_of_readsOnly (Uses.when fun _ => readsOnly_enqueue _)

theorem storesUnder_controlPlane :
    StoresUnder env settings
      (fun _ => ((domainOf settings).map (Node.qualify "control-plane")).toList)
      ControlPlaneCtrl.post := by
  have hcreate : StoresUnder env settings
      (fun _ => ((domainOf settings).map (Node.qualify "control-plane")).toList)
      ControlPlaneCtrl.createControlPlane := by
    refine UsesWhile.bind (.of_uses rewrites_deleteAll) fun _ _ => ?_
    refine reads_domain.storing.bind fun o ho => ?_
    cases o with
    | none => exact .raise _
    | some form =>
        refine UsesWhile.bind (.ofExcept fun _ _ => trivial) fun ipAddress _ => ?_
        refine UsesWhile.bind (storesUnder_of_readsOnly Node.readsOnly_randMac)
          fun macAddress _ => ?_
        refine (reads_loadPayload _).storing.bind fun node hname => ?_
        refine UsesWhile.bind (storesUnder_create ?_) fun _ _ =>
          storesUnder_of_readsOnly readsOnly_sendNotification
        have hpayload : payloadHostname settings
            (.obj (ControlPlaneCtrl.payload ipAddress macAddress)) =
            (domainOf settings).map (Node.qualify "control-plane") := rfl
        dsimp only
        rw [qualify_payloadHostname hname (ho form rfl), ← hpayload, hname]
        exact List.mem_singleton_self _
  refine UsesWhile.bind hcreate.attempt fun r _ => ?_
  split
  · exact .done trivial
  · exact .done trivial
  · split
    · exact .done trivial
    · exact .raise _
  · exact storesUnder_of_readsOnly readsOnly_queued

/-- A request stores nodes under its canonical names only, as long as the settings stay. -/
theorem storesUnder_program (operation : NodeSetOperation) :
    StoresUnder env settings (operation.namesFor settings) operation.program := by
  cases operation with
  | newNode payload => exact UsesWhile.bind (storesUnder_newNode payload) fun _ _ => .done trivial
  | mip payload => exact storesUnder_mip payload
  | controlPlane => exact UsesWhile.bind storesUnder_controlPlane fun _ _ => .done trivial
  | refreshKit jobId polls nodes newControlPlane =>
      refine .of_uses (rewrites_refreshKit ?_ jobId polls newControlPlane)
      intro node hmem doc hdump
      rw [hostname_of_dump hdump]
      refine List.mem_map_of_mem (List.mem_filter.mpr ⟨hmem, ?_⟩)
      exact decide_eq_true rfl
  | deleteNode hostname =>
      exact .of_uses ((rewrites_deleteNode hostname).bind fun _ => .done _)
  | removeNode s htype => exact .of_uses ((rewrites_executeRemove htype).bind fun _ => .done _)

end Names

/-! ## Requests of one name -/

/-- When a request stores a node, no node that was there at the start under the canonical name of
    the request, and none that a request of that name stored, is still there under another id. -/
def NamesApart (env : Environment) (w : World) (operations : List NodeSetOperation)
    (es : List (Event Op)) : Prop :=
  ∀ pre i id doc post, es = pre ++ ⟨i, .db (.replaceOne .nodes id doc)⟩ :: post →
    ∀ operation ∈ operations[i]?, ∀ name ∈ operation.namesFor (w.db .settings) id,
      (∀ id' doc', id' ≠ id → (w.db .nodes).get? id' = some doc' → doc'.hostname = name →
        ((replay (handle env) w pre).db .nodes).get? id' ≠ some doc') ∧
      ∀ j id' doc', id' ≠ id → ⟨j, .db (.replaceOne .nodes id' doc')⟩ ∈ pre →
        ∀ other ∈ operations[j]?, name ∈ other.namesFor (w.db .settings) id' →
          ((replay (handle env) w pre).db .nodes).get? id' ≠ some doc'

section Runs

variable {env : Environment} {w : World} {operations : List NodeSetOperation}

theorem threadsUse_nodeSetOperations (w : World) (operations : List NodeSetOperation) :
    ThreadsUse (fun _ => Op.rewrites fun _ _ => True) (nodeSetOperations w operations) := by
  intro i p hi
  have hmem : p ∈ operations.map NodeSetOperation.program := List.mem_of_getElem? hi
  obtain ⟨operation, -, rfl⟩ := List.mem_map.mp hmem
  exact operation.rewrites_program

/-- No request writes the settings. -/
theorem settings_of_rewrites {W : String → NodeDoc → Prop} {op : Op} (hop : op.rewrites W)
    (w : World) : (handle env op w).2.db .settings = w.db .settings := by
  have hne : Collection.nodes ≠ .settings := by decide
  rcases hop with hread | ⟨dop, rfl, hjobs⟩ | (⟨id, rfl⟩ | ⟨q, rfl⟩) | ⟨id, doc, rfl, -⟩
  · rw [db_of_readsOnly hread]
  · refine db_of_ne env w dop ?_
    rw [hjobs]
    decide
  · exact db_of_ne env w (.deleteOne .nodes id) hne
  · exact db_of_ne env w (.deleteMany .nodes q) hne
  · exact db_of_ne env w (.replaceOne .nodes id doc) hne

theorem of_rewrites {W : String → NodeDoc → Prop} {id : String} {doc : NodeDoc}
    (hop : Op.rewrites W (.db (.replaceOne .nodes id doc))) : W id doc := by
  rcases hop with hread | ⟨dop, heq, hjobs⟩ | (⟨id', heq⟩ | ⟨q, heq⟩) | ⟨id', doc', heq, hW⟩
  · cases hread
  · cases heq
    cases hjobs
  · cases heq
  · cases heq
  · cases heq
    exact hW

/-- What a thread stores goes by a canonical name of its request. -/
theorem exists_operation_of_event {es : List (Event Op)}
    {c' : Config Op Op.Res PyError Unit World}
    (hrun : Run (handle env) (nodeSetOperations w operations) es c') {e : Event Op} (he : e ∈ es) :
    ∃ operation ∈ operations[e.thread]?,
      e.op.rewrites fun id doc => doc.hostname ∈ operation.namesFor (w.db .settings) id := by
  obtain ⟨p, hp⟩ := hrun.exists_thread e he
  have hthread : (operations.map NodeSetOperation.program)[e.thread]? = some p := hp
  rw [List.getElem?_map, Option.map_eq_some_iff] at hthread
  obtain ⟨operation, hoperation, rfl⟩ := hthread
  refine ⟨operation, hoperation, ?_⟩
  refine hrun.forall_event_while hp (storesUnder_program operation) rfl ?_ e he rfl
  intro e' he' s hs
  exact (settings_of_rewrites
    (hrun.forall_event (threadsUse_nodeSetOperations w operations) e' he') s).trans hs

/-- What is stored was stored at the start or by an event. -/
theorem stored_of_replay {pre : List (Event Op)}
    (hpre : ∀ e ∈ pre, e.op.rewrites fun _ _ => True) {id : String} {doc : NodeDoc}
    (hget : ((replay (handle env) w pre).db .nodes).get? id = some doc) :
    (w.db .nodes).get? id = some doc ∨
      ∃ j, ⟨j, .db (.replaceOne .nodes id doc)⟩ ∈ pre := by
  induction pre using List.reverseRecOn with
  | nil => exact .inl hget
  | append_singleton pre e ih =>
      have hbefore (hold : ((replay (handle env) w pre).db .nodes).get? id = some doc) :
          (w.db .nodes).get? id = some doc ∨
            ∃ j, ⟨j, .db (.replaceOne .nodes id doc)⟩ ∈ pre ++ [e] := by
        rcases ih (fun e' he' => hpre e' (List.mem_append_left _ he')) hold with h | ⟨j, hj⟩
        · exact .inl h
        · exact .inr ⟨j, List.mem_append_left _ hj⟩
      rw [replay_append, replay_cons, replay_nil] at hget
      obtain ⟨i, op⟩ := e
      have hop : op.rewrites fun _ _ => True := hpre ⟨i, op⟩ (by simp)
      rcases hop with hread | hjobs | hdelete | ⟨id', doc', rfl, -⟩
      · exact hbefore (nodes_subset_of_deletes (.inl hread) hget)
      · exact hbefore (nodes_subset_of_deletes (.inr (.inl hjobs)) hget)
      · exact hbefore (nodes_subset_of_deletes (.inr (.inr hdelete)) hget)
      · rw [db_replaceOne, Table.get?_upsert] at hget
        split at hget
        · rename_i hid
          cases hget
          rw [hid]
          exact .inr ⟨i, by simp⟩
        · exact hbefore hget

/-- Where requests of one name do not meet, what is stored has a free name. -/
theorem storesFreeName_of_apart {es pre post : List (Event Op)} {e : Event Op}
    {c' : Config Op Op.Res PyError Unit World}
    (hrun : Run (handle env) (nodeSetOperations w operations) es c')
    (hapart : NamesApart env w operations es) (hes : es = pre ++ e :: post) :
    StoresFreeName e (replay (handle env) w pre) := by
  intro id doc hop id' doc' hget hname
  obtain ⟨i, op⟩ := e
  dsimp only at hop
  subst hop
  have hevents := hrun.forall_event (threadsUse_nodeSetOperations w operations)
  obtain ⟨operation, hoperation, hstores⟩ :=
    exists_operation_of_event hrun (e := ⟨i, .db (.replaceOne .nodes id doc)⟩) (by simp [hes])
  have hmine : doc.hostname ∈ operation.namesFor (w.db .settings) id :=
    of_rewrites hstores
  obtain ⟨hstart, hrequests⟩ := hapart pre i id doc post hes operation hoperation _ hmine
  by_contra hne
  rcases stored_of_replay (fun e he => hevents e (by simp [hes, he])) hget with hfirst | ⟨j, hj⟩
  · exact hstart id' doc' hne hfirst hname hget
  · obtain ⟨other, hother, hstores'⟩ := exists_operation_of_event hrun
      (e := ⟨j, .db (.replaceOne .nodes id' doc')⟩) (by simp [hes, hj])
    have hits : doc'.hostname ∈ other.namesFor (w.db .settings) id' := of_rewrites hstores'
    rw [hname] at hits
    exact hrequests j id' doc' hne hj other hother hits hget

/-- Where each request has one name for a node, names that are always free are those of requests
    that do not meet. -/
theorem namesApart_of_storesFreeName {es : List (Event Op)}
    {c' : Config Op Op.Res PyError Unit World}
    (hrun : Run (handle env) (nodeSetOperations w operations) es c')
    (hone : ∀ operation ∈ operations, ∀ id, ∀ name ∈ operation.namesFor (w.db .settings) id,
      ∀ name' ∈ operation.namesFor (w.db .settings) id, name = name')
    (hfree : Meets (handle env) StoresFreeName w es) : NamesApart env w operations es := by
  -- what an event stores has the name of its request
  have hnamed {i : Nat} {id name : String} {doc : NodeDoc} {operation : NodeSetOperation}
      (he : ⟨i, .db (.replaceOne .nodes id doc)⟩ ∈ es) (hoperation : operation ∈ operations[i]?)
      (hname : name ∈ operation.namesFor (w.db .settings) id) : doc.hostname = name := by
    obtain ⟨operation', hoperation', hstores⟩ := exists_operation_of_event hrun he
    cases Option.mem_unique hoperation hoperation'
    exact hone operation (List.mem_of_getElem? hoperation) id _ (of_rewrites hstores) _ hname
  intro pre i id doc post hes operation hoperation name hname
  have hdoc : doc.hostname = name := hnamed (by simp [hes]) hoperation hname
  rw [hes, meets_append, meets_cons] at hfree
  have hother (id' : String) (doc' : NodeDoc) (hne : id' ≠ id) (hname' : doc'.hostname = name) :
      ((replay (handle env) w pre).db .nodes).get? id' ≠ some doc' := fun hget =>
    hne (hfree.2.1 id doc rfl id' doc' hget (hname'.trans hdoc.symm))
  refine ⟨fun id' doc' hne _ hname' => hother id' doc' hne hname', ?_⟩
  intro j id' doc' hne hj other hmem hname'
  exact hother id' doc' hne (hnamed (by simp [hes, hj]) hmem hname')

end Runs

/-- In every run in which requests of one canonical name do not meet, host names are unique in
    every state reached. -/
theorem hostnamesUnique_of_namesApart (env : Environment) (w : World) (hw : HostnamesUnique w)
    (operations : List NodeSetOperation) (es : List (Event Op))
    (c' : Config Op Op.Res PyError Unit World)
    (hrun : Run (handle env) (nodeSetOperations w operations) es c')
    (hapart : NamesApart env w operations es) : HostnamesUnique c'.state := by
  have hevents := hrun.forall_event (threadsUse_nodeSetOperations w operations)
  have hprefix (pre : List (Event Op)) :
      ∀ post, es = pre ++ post → HostnamesUnique (replay (handle env) w pre) := by
    induction pre using List.reverseRecOn with
    | nil => exact fun _ _ => hw
    | append_singleton pre e ih =>
        intro post hes
        rw [List.append_assoc] at hes
        rw [replay_append]
        exact hostnamesUnique_step (i := e.thread) (hevents e (by simp [hes]))
          (storesFreeName_of_apart hrun hapart hes) (ih _ hes)
  rw [hrun.state_eq]
  exact hprefix es [] (List.append_nil es).symm

theorem hostnamesUnique_lanWorld : HostnamesUnique lanWorld := by
  refine hostnamesUnique_of_unique ?_
  intro id id' doc doc' hget
  cases hget

/-- The environment of `steadyEnv`, with a new identifier for each call. -/
def countingEnv : Environment := fun call n =>
  match call with
  | .uuid4 => toString n
  | call => steadyEnv call n

def newNode (hostname : String) : NodeSetOperation :=
  .newNode (.obj [("hostname", .str hostname), ("ip_address", .str "10.40.12.146")])

/-- `StoresFreeName`, computed. -/
def storesFreeName? (e : Event Op) (w : World) : Bool :=
  match e.op with
  | .db (.replaceOne .nodes id doc) =>
      (w.db .nodes).rows.all fun row => row.2.hostname ≠ doc.hostname || row.1 = id
  | _ => true

theorem storesFreeName_of_check (e : Event Op) (w : World) (h : storesFreeName? e w = true) :
    StoresFreeName e w := by
  intro id doc hop id' doc' hget hname
  rw [storesFreeName?, hop] at h
  have hrow := List.all_eq_true.mp h (id', doc') (Table.get?_eq_some_iff.mp hget)
  simpa [hname] using hrow

/-- A node is created and deleted, and then two requests, served in turn, create it again under
    its full name and another. -/
def recreated : List NodeSetOperation :=
  [newNode "server1", .deleteNode "server1", newNode "server1.lan", newNode "server2"]

def createAgain : List (Event Op) × Config Op Op.Res PyError Unit World :=
  (nodeSetOperations lanWorld recreated).schedule (handle countingEnv)
    (List.replicate 40 0 ++ List.replicate 40 1 ++ (List.replicate 40 [2, 3]).flatten)

theorem hostnamesUnique_of_createAgain : HostnamesUnique createAgain.2.state := by
  have hrun : Run (handle countingEnv) (nodeSetOperations lanWorld recreated) createAgain.1
      createAgain.2 := run_schedule _ _ _
  refine hostnamesUnique_of_namesApart countingEnv lanWorld hostnamesUnique_lanWorld recreated _ _
    hrun (namesApart_of_storesFreeName hrun ?_ ?_)
  · have hnew (hostname id : String) :
        ∀ name ∈ (newNode hostname).namesFor (lanWorld.db .settings) id,
          ∀ name' ∈ (newNode hostname).namesFor (lanWorld.db .settings) id, name = name' := by
      intro name hname name' hname'
      rw [newNode, NodeSetOperation.namesFor, Option.mem_toList] at hname hname'
      exact Option.mem_unique hname hname'
    have hdelete (id : String) : (NodeSetOperation.deleteNode "server1").namesFor
        (lanWorld.db .settings) id = [] := rfl
    simp only [recreated, List.forall_mem_cons, hdelete]
    exact ⟨hnew _, by simp, hnew _, hnew _, by simp⟩
  · exact meets_of_check storesFreeName_of_check (by decide +kernel)

/-- The property without a condition on the steps. -/
def NamesStayUnique : Prop :=
  ∀ (env : Environment) (w : World), HostnamesUnique w →
    ∀ (operations : List NodeSetOperation) (es : List (Event Op))
      (c' : Config Op Op.Res PyError Unit World),
      Run (handle env) (nodeSetOperations w operations) es c' → HostnamesUnique c'.state

/-- Two requests create nodes of one name, one after the other. -/
def createTwice : List (Event Op) × Config Op Op.Res PyError Unit World :=
  (nodeSetOperations lanWorld [newNode "server1", newNode "server1"]).schedule
    (handle countingEnv) (List.replicate 40 0 ++ List.replicate 40 1)

theorem not_namesStayUnique : ¬ NamesStayUnique := by
  intro hclaim
  have hunique := hclaim countingEnv lanWorld hostnamesUnique_lanWorld _ _ createTwice.2
    (run_schedule _ _ _)
  have hfirst : ((createTwice.2.state.db .nodes).get? "0").map NodeDoc.hostname =
      some "server1.lan" := by
    decide +kernel
  have hsecond : ((createTwice.2.state.db .nodes).get? "13").map NodeDoc.hostname =
      some "server1.lan" := by
    decide +kernel
  obtain ⟨doc, hdoc, hname⟩ := Option.map_eq_some_iff.mp hfirst
  obtain ⟨doc', hdoc', hname'⟩ := Option.map_eq_some_iff.mp hsecond
  have hid := hunique.unique "0" "13" doc doc' hdoc hdoc' (hname.trans hname'.symm)
  exact absurd hid (by decide)

end Tfplenum
