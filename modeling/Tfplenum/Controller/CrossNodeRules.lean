/-
  Tfplenum.Controller.CrossNodeRules

  At most one MinIO node, and virtual servers of equal resources: `post_validation`
  checks both against the nodes it reads, and the node is stored later.  A request
  is traced (`Program.Traced`), so that what it stores is known to have passed
  against the states it read; the rules survive as long as no node they concern is
  stored in between (`FreshCreates`).
-/

import Tfplenum.Controller.HostNameUniqueness

namespace Tfplenum

open Lib Program

/-! ## The rules -/

def NodeDoc.IsMinio (doc : NodeDoc) : Prop := doc.nodeType = NodeTypes.minio

def NodeDoc.IsVirtualServer (doc : NodeDoc) : Prop :=
  doc.nodeType = NodeTypes.server ∧ doc.deploymentType = some DeploymentTypes.virtual

/-- One MinIO node at most, and virtual servers with equal resources. -/
structure CrossNodeRules (w : World) : Prop where
  minio : ∀ id id' doc doc', (w.db .nodes).get? id = some doc → (w.db .nodes).get? id' = some doc' →
    doc.IsMinio → doc'.IsMinio → id = id'
  virtual : ∀ id id' doc doc', (w.db .nodes).get? id = some doc →
    (w.db .nodes).get? id' = some doc' → doc.IsVirtualServer → doc'.IsVirtualServer →
      doc.virtualCpu = doc'.virtualCpu ∧ doc.virtualMem = doc'.virtualMem

/-- The operation reads nodes. -/
def Op.readsNodes (op : Op) : Prop :=
  ∃ dop : DocOp Doc, op = .db dop ∧ dop.reads = true ∧ dop.collection = .nodes

/-- The document satisfies the rules beside the nodes of some states in which the
    thread read nodes. -/
structure Validated (m : Memory Op World) (doc : NodeDoc) : Prop where
  minio : doc.IsMinio → ∃ op s, (op, s) ∈ m ∧ op.readsNodes ∧
    ∀ id' doc', (s.db .nodes).get? id' = some doc' → ¬ doc'.IsMinio
  virtual : doc.IsVirtualServer → ∃ op s, (op, s) ∈ m ∧ op.readsNodes ∧
    ∀ id' doc', (s.db .nodes).get? id' = some doc' → doc'.IsVirtualServer →
      doc'.virtualCpu = doc.virtualCpu ∧ doc'.virtualMem = doc.virtualMem

/-- Nodes are only replaced by what was validated. -/
def StoresValidated (m : Memory Op World) (op : Op) : Prop :=
  op.rewrites fun _ doc => Validated m doc

/-! ## What a request stores -/

section Traces

variable {env : Environment} {α : Type} {m : Memory Op World}

abbrev TracedBy (env : Environment) (Q : Memory Op World → α → Prop) (m : Memory Op World)
    (p : Prog α) : Prop :=
  p.Traced (handle env) StoresValidated Q m

theorem traced_of_readsOnly {p : Prog α} (hp : p.Uses Op.readsOnly) :
    TracedBy env (fun m' _ => m <+: m') m p :=
  Traced.of_uses hp fun _ _ hop => .inl hop

/-- What stores no node. -/
theorem traced_of_rewrites {p : Prog α} (hp : p.Uses (Op.rewrites fun _ _ => False)) :
    TracedBy env (fun m' _ => m <+: m') m p := by
  refine Traced.of_uses hp fun m op hop => ?_
  rcases hop with hread | hjobs | hdelete | ⟨_, _, _, hfalse⟩
  · exact .inl hread
  · exact .inr (.inl hjobs)
  · exact .inr (.inr (.inl hdelete))
  · exact hfalse.elim

/-- A loaded node has the type and the resources of its document. -/
theorem traced_loadDoc (row : String × NodeDoc) (m : Memory Op World) :
    TracedBy env (fun m' node => m <+: m' ∧ Node.Mirrors row node) m (Node.loadDoc row) := by
  obtain ⟨id, doc⟩ := row
  rcases Node.loadDoc_cases id doc with ⟨e, he⟩ | ⟨ip, -, hmade⟩
  · rw [he]
    exact .raise m e
  · rw [hmade, Node.init_ofDoc]
    have hid : (if id = "" then Prog.ask .uuid4 else pure id).Uses Op.readsOnly := by
      split
      · exact Prog.readsOnly_ask _
      · exact .done _
    refine (traced_of_readsOnly hid).bind fun m₁ id' h₁ => ?_
    refine (traced_of_readsOnly (Node.readsOnly_setHostname _)).bind fun m₂ hostname h₂ => ?_
    refine (traced_of_readsOnly (Node.readsOnly_setMacAddress _ _)).bind fun m₃ mac h₃ => .done ?_
    exact ⟨(h₁.trans h₂).trans h₃, rfl, rfl, rfl, rfl⟩

/-- What is read of the servers: each one stored then is among the loaded nodes. -/
theorem traced_loadServers (m : Memory Op World) :
    TracedBy env (fun m' servers => m <+: m' ∧ ∃ op s, (op, s) ∈ m' ∧ op.readsNodes ∧
      ∀ id' doc', (s.db .nodes).get? id' = some doc' → doc'.nodeType = NodeTypes.server →
        ∃ server ∈ servers, Node.Mirrors (id', doc') server) m Node.loadAllServersFromDb := by
  refine .call (.inl rfl) fun s => ?_
  have hread : Op.readsNodes (.db (.find .nodes fun _ node =>
      node.nodeType ∈ [NodeTypes.server])) :=
    ⟨_, rfl, rfl, rfl⟩
  refine (Traced.mapEach traced_loadDoc).mono fun m' servers hservers => ?_
  refine ⟨(List.prefix_append m _).trans hservers.1, _, s, ?_, hread, ?_⟩
  · exact hservers.1.subset (List.mem_append_right m (List.mem_singleton_self _))
  · intro id' doc' hget htype
    have hrow : (id', doc') ∈
        (s.db .nodes).find fun _ node => node.nodeType ∈ [NodeTypes.server] := by
      refine Table.mem_find.mpr ⟨hget, ?_⟩
      simp [htype]
    exact exists_of_forall₂ hservers.2 hrow

/-- Where no MinIO node is found, none is stored. -/
theorem traced_loadMinio (m : Memory Op World) :
    TracedBy env (fun m' o => m <+: m' ∧ (o = none → ∃ op s, (op, s) ∈ m' ∧ op.readsNodes ∧
      ∀ id' doc', (s.db .nodes).get? id' = some doc' → ¬ doc'.IsMinio)) m Node.loadMinioFromDb := by
  refine .call (.inl rfl) fun s => ?_
  have hread :
      Op.readsNodes (.db (.findOne .nodes fun _ node => node.nodeType = NodeTypes.minio)) :=
    ⟨_, rfl, rfl, rfl⟩
  simp only [handle_db, DocOp.apply_findOne, done_bind]
  have hm :
      m <+: m ++ [((.db (.findOne .nodes fun _ node => node.nodeType = NodeTypes.minio)), s)] :=
    List.prefix_append m _
  cases hfind : (s.db .nodes).findOne fun _ node => node.nodeType = NodeTypes.minio with
  | none =>
      refine .done ⟨hm, fun _ =>
        ⟨_, s, List.mem_append_right m (List.mem_singleton_self _), hread, ?_⟩⟩
      intro id' doc' hget htype
      have hno := Table.findOne_eq_none_iff.mp hfind id' doc' hget
      have htype' : doc'.nodeType = NodeTypes.minio := htype
      simp [htype'] at hno
  | some row =>
      refine (traced_loadDoc row _).bind fun m' node hm' => .done ⟨hm.trans hm'.1, ?_⟩
      intro hnone
      cases hnone

/-- A document written for a node has its type and its resources. -/
theorem mirrors_of_dump {node : Node} {doc : NodeDoc} (h : node.dump = .ok doc) :
    Node.Mirrors (node.id, doc) node := by
  obtain ⟨vpnStatus, -, rfl⟩ := Node.eq_of_dump h
  exact ⟨rfl, rfl, rfl, rfl⟩

/-- A node that passes `post_validation` satisfies the rules beside the nodes it read. -/
theorem traced_postValidation (node : Node) (m : Memory Op World) :
    TracedBy env (fun m' _ => ∀ doc, node.dump = .ok doc → Validated m' doc) m
      node.postValidation := by
  have hminio (m : Memory Op World) :
      TracedBy env (fun m' errors => m <+: m' ∧ (errors = [] → node.nodeType = NodeTypes.minio →
        ∃ op s, (op, s) ∈ m' ∧ op.readsNodes ∧
          ∀ id' doc', (s.db .nodes).get? id' = some doc' → ¬ doc'.IsMinio)) m node.minioErrors := by
    unfold Node.minioErrors
    split
    · refine (traced_loadMinio m).bind fun m' o ho => ?_
      cases o with
      | none => exact .done ⟨ho.1, fun _ _ => ho.2 rfl⟩
      | some minio =>
          refine .done ⟨ho.1, ?_⟩
          intro herrors
          cases herrors
    · rename_i htype
      exact .done ⟨List.prefix_rfl, fun _ h => absurd h htype⟩
  refine (traced_loadServers m).bind fun m₁ servers hservers => ?_
  refine (hminio m₁).bind fun m₂ minio hminio => ?_
  generalize hresources : (if node.nodeType = NodeTypes.server ∧
      node.deploymentType = some DeploymentTypes.virtual then node.resourceErrors servers else []) =
        resources
  unfold Program.when
  split
  · exact .raise _ _
  · rename_i hpass
    refine .done ?_
    have hnil : resources = [] ∧ minio = [] := by
      rw [ne_eq, not_not] at hpass
      exact List.append_eq_nil_iff.mp hpass
    intro doc hdump
    have hdoc := mirrors_of_dump hdump
    refine ⟨?_, ?_⟩
    · intro htype
      exact hminio.2 hnil.2 (hdoc.nodeType.trans htype)
    · intro hvirtual
      have hnode : node.nodeType = NodeTypes.server ∧
          node.deploymentType = some DeploymentTypes.virtual :=
        ⟨hdoc.nodeType.trans hvirtual.1, hdoc.deploymentType.trans hvirtual.2⟩
      rw [if_pos hnode, hnil.1] at hresources
      obtain ⟨op, s, hmem, hread, hall⟩ := hservers.2
      refine ⟨op, s, hminio.1.subset hmem, hread, ?_⟩
      intro id' doc' hget hvirtual'
      obtain ⟨server, hserver, hmirror⟩ := hall id' doc' hget hvirtual'.1
      have hequal := Node.eq_of_resourceErrors_eq_nil hresources hserver
        (hmirror.deploymentType.trans hvirtual'.2)
      rw [← hmirror.virtualCpu, ← hmirror.virtualMem, hequal.1, hequal.2]
      exact ⟨hdoc.virtualCpu, hdoc.virtualMem⟩

/-- Only the first operation of `create` stores the node. -/
theorem traced_create {node : Node} (hvalid : ∀ doc, node.dump = .ok doc → Validated m doc) :
    TracedBy env (fun _ _ => True) m node.create := by
  unfold Node.create
  cases hdump : node.dump with
  | error e => exact .raise m e
  | ok doc =>
      have hstore : TracedBy env (fun _ _ => True) m (Prog.replaceOne .nodes node.id doc) :=
        .call (.inr (.inr (.inr ⟨node.id, doc, rfl, hvalid doc hdump⟩))) fun _ => .done trivial
      refine hstore.bind fun m₁ _ _ => ?_
      refine (traced_of_readsOnly (Node.readsOnly_loadDoc _)).bind fun m₂ created _ => ?_
      refine (traced_of_rewrites (rewrites_createJobs created)).bind fun m₃ _ _ => ?_
      exact (traced_of_readsOnly readsOnly_generateInventory).mono fun _ _ _ => trivial

theorem traced_newNode (payload : Json) :
    TracedBy env (fun _ _ => True) [] (NewNodeCtrl.post payload) := by
  have hcreate : TracedBy env (fun _ _ => True) [] (NewNodeCtrl.createFromPayload payload) := by
    refine (traced_of_readsOnly GeneralSettingsForm.readsOnly_loadFromDb).bind
      fun m₁ settings _ => ?_
    refine (traced_of_readsOnly (Node.readsOnly_load payload)).bind fun m₂ node _ => ?_
    cases settings with
    | none => exact .raise _ _
    | some settings =>
        refine (traced_of_readsOnly (NewNodeCtrl.readsOnly_assignMac _)).bind fun m₃ node _ => ?_
        refine (traced_postValidation node m₃).bind fun m₄ _ hvalid => ?_
        refine (traced_create hvalid).bind fun m₅ _ _ => ?_
        exact (traced_of_readsOnly readsOnly_sendNotification).bind fun _ _ _ => .done trivial
  refine hcreate.attempt.bind fun m r _ => ?_
  split
  · exact .done trivial
  · exact .done trivial
  · exact .raise _ _
  · exact (traced_of_readsOnly readsOnly_queued).mono fun _ _ _ => trivial

end Traces

/-! ## Requests -/

/-- A create-node request or the removal of a node. -/
inductive CreateOrRemove where
  /-- `NewNodeCtrl.post` -/
  | newNode (payload : Json)
  /-- `NodeCtrl.delete` -/
  | deleteNode (hostname : String)
  /-- `execute` for `remove_node` -/
  | removeNode (s : NodeService) (htype : s.execType = .removeNode)

namespace CreateOrRemove

def program : CreateOrRemove → Prog Unit
  | .newNode payload => discard (NewNodeCtrl.post payload)
  | .deleteNode hostname => discard (NodeCtrl.delete hostname)
  | .removeNode s _ => discard s.execute

theorem traced_program {env : Environment} (operation : CreateOrRemove) :
    TracedBy env (fun _ _ => True) [] operation.program := by
  have hremove {α : Type} {p : Prog α} (hp : p.Uses (Op.rewrites fun _ _ => False)) :
      TracedBy env (fun _ _ => True) [] (discard p : Prog Unit) :=
    (traced_of_rewrites (hp.bind fun _ => .done _)).mono fun _ _ _ => trivial
  cases operation with
  | newNode payload => exact (traced_newNode payload).bind fun _ _ _ => .done trivial
  | deleteNode hostname => exact hremove (rewrites_deleteNode hostname)
  | removeNode s htype => exact hremove (rewrites_executeRemove htype)

end CreateOrRemove

def createsAndRemovals (w : World) (operations : List CreateOrRemove) :
    Config Op Op.Res PyError Unit World :=
  ⟨w, operations.map CreateOrRemove.program⟩

/-! ## Steps and runs -/

/-- A node that the rules are about. -/
def NodeDoc.Ruled (doc : NodeDoc) : Prop := doc.IsMinio ∨ doc.IsVirtualServer

/-- When a request stores its node, every MinIO node and virtual server there is was
    there whenever the request read nodes. -/
def FreshCreates (env : Environment) (w : World) (es : List (Event Op)) : Prop :=
  ∀ pre t id doc post, es = pre ++ ⟨t, .db (.replaceOne .nodes id doc)⟩ :: post →
    ∀ op s, (op, s) ∈ memory (handle env) t w pre → op.readsNodes →
      ∀ id' doc', ((replay (handle env) w pre).db .nodes).get? id' = some doc' → doc'.Ruled →
        (s.db .nodes).get? id' = some doc'

/-- Storing a validated node that is still fresh keeps the rules. -/
theorem crossNodeRules_store {env : Environment} {w : World} {m : Memory Op World} {id : String}
    {doc : NodeDoc} (hw : CrossNodeRules w) (hvalid : Validated m doc)
    (hfresh : ∀ op s, (op, s) ∈ m → op.readsNodes → ∀ id' doc', (w.db .nodes).get? id' = some doc' →
      doc'.Ruled → (s.db .nodes).get? id' = some doc') :
    CrossNodeRules (handle env (.db (.replaceOne .nodes id doc)) w).2 := by
  have hget (id' : String) (doc' : NodeDoc)
      (h : ((handle env (.db (.replaceOne .nodes id doc)) w).2.db .nodes).get? id' = some doc') :
      (id' = id ∧ doc' = doc) ∨ (w.db .nodes).get? id' = some doc' := by
    rw [db_replaceOne, Table.get?_upsert] at h
    split at h
    · exact .inl ⟨‹_›, (Option.some.inj h).symm⟩
    · exact .inr h
  -- beside a new MinIO node no other is stored, and new and old servers agree
  have hminio (id' : String) (doc' : NodeDoc) (hold : (w.db .nodes).get? id' = some doc')
      (hnew : doc.IsMinio) : ¬ doc'.IsMinio := by
    obtain ⟨op, s, hmem, hread, hnone⟩ := hvalid.minio hnew
    exact fun htype => hnone id' doc' (hfresh op s hmem hread id' doc' hold (.inl htype)) htype
  have hvirtual (id' : String) (doc' : NodeDoc) (hold : (w.db .nodes).get? id' = some doc')
      (hnew : doc.IsVirtualServer) (htype : doc'.IsVirtualServer) :
      doc'.virtualCpu = doc.virtualCpu ∧ doc'.virtualMem = doc.virtualMem := by
    obtain ⟨op, s, hmem, hread, hall⟩ := hvalid.virtual hnew
    exact hall id' doc' (hfresh op s hmem hread id' doc' hold (.inr htype)) htype
  refine ⟨?_, ?_⟩
  · intro id₁ id₂ doc₁ doc₂ h₁ h₂ ht₁ ht₂
    rcases hget id₁ doc₁ h₁ with ⟨rfl, rfl⟩ | hold₁
    · rcases hget id₂ doc₂ h₂ with ⟨rfl, rfl⟩ | hold₂
      · rfl
      · exact absurd ht₂ (hminio id₂ doc₂ hold₂ ht₁)
    · rcases hget id₂ doc₂ h₂ with ⟨rfl, rfl⟩ | hold₂
      · exact absurd ht₁ (hminio id₁ doc₁ hold₁ ht₂)
      · exact hw.minio id₁ id₂ doc₁ doc₂ hold₁ hold₂ ht₁ ht₂
  · intro id₁ id₂ doc₁ doc₂ h₁ h₂ ht₁ ht₂
    rcases hget id₁ doc₁ h₁ with ⟨rfl, rfl⟩ | hold₁
    · rcases hget id₂ doc₂ h₂ with ⟨rfl, rfl⟩ | hold₂
      · exact ⟨rfl, rfl⟩
      · have hequal := hvirtual id₂ doc₂ hold₂ ht₁ ht₂
        exact ⟨hequal.1.symm, hequal.2.symm⟩
    · rcases hget id₂ doc₂ h₂ with ⟨rfl, rfl⟩ | hold₂
      · exact hvirtual id₁ doc₁ hold₁ ht₂ ht₁
      · exact hw.virtual id₁ id₂ doc₁ doc₂ hold₁ hold₂ ht₁ ht₂

/-- What stores no node keeps the rules. -/
theorem CrossNodeRules.of_subset {w w' : World} (hw : CrossNodeRules w)
    (hsub : ∀ id doc, (w'.db .nodes).get? id = some doc → (w.db .nodes).get? id = some doc) :
    CrossNodeRules w' where
  minio id id' doc doc' h h' := hw.minio id id' doc doc' (hsub id doc h) (hsub id' doc' h')
  virtual id id' doc doc' h h' := hw.virtual id id' doc doc' (hsub id doc h) (hsub id' doc' h')

/-- In every run in which what is stored is still fresh, both rules hold in every state
    reached. -/
theorem crossNodeRules_of_freshCreates (env : Environment) (w : World) (hw : CrossNodeRules w)
    (operations : List CreateOrRemove) (es : List (Event Op))
    (c' : Config Op Op.Res PyError Unit World)
    (hrun : Run (handle env) (createsAndRemovals w operations) es c')
    (hfresh : FreshCreates env w es) : CrossNodeRules c'.state := by
  refine hrun.invariant_traced (A := StoresValidated) ?_ hw ?_
  · intro i p hi
    have hmem : p ∈ operations.map CreateOrRemove.program := List.mem_of_getElem? hi
    obtain ⟨operation, -, rfl⟩ := List.mem_map.mp hmem
    exact operation.traced_program
  · intro pre e post hes hop hpre
    obtain ⟨t, op⟩ := e
    rcases hop with hread | hjobs | hdelete | ⟨id, doc, hstore, hvalid⟩
    · exact hpre.of_subset fun id doc hget => nodes_subset_of_deletes (.inl hread) hget
    · exact hpre.of_subset fun id doc hget => nodes_subset_of_deletes (.inr (.inl hjobs)) hget
    · exact hpre.of_subset fun id doc hget => nodes_subset_of_deletes (.inr (.inr hdelete)) hget
    · cases hstore
      exact crossNodeRules_store hpre hvalid (hfresh pre t id doc post hes)

/-! ## Virtual servers and MinIO nodes -/

theorem crossNodeRules_lanWorld : CrossNodeRules lanWorld := by
  refine ⟨?_, ?_⟩
  · intro id id' doc doc' hget
    cases hget
  · intro id id' doc doc' hget
    cases hget

section Serial

variable {env : Environment} {w : World} {done es : List (Event Op)} {begun stale : List Nat}
  {e : Event Op}

def Op.changesNodes : Op → Bool
  | .db op => !op.reads && op.collection = .nodes
  | .external _ => false

theorem nodes_of_not_changesNodes {op : Op} (h : op.changesNodes = false) (w : World) :
    (handle env op w).2.db .nodes = w.db .nodes := by
  cases op with
  | external call => rfl
  | db op =>
      rw [Op.changesNodes, Bool.and_eq_false_iff, Bool.not_eq_false', decide_eq_false_iff_not] at h
      rcases h with hreads | hne
      · have hread : (Op.db op).readsOnly := hreads
        rw [db_of_readsOnly hread]
      · exact db_of_ne env w op hne

/-- No request changes the nodes that another has changed since it began: `begun` are those that
    began since the last change, and `stale` those that began before it. -/
def changesCurrent? (begun stale : List Nat) : List (Event Op) → Bool
  | [] => true
  | e :: es =>
      if e.op.changesNodes then
        !stale.contains e.thread && changesCurrent? [] (e.thread :: begun ++ stale) es
      else changesCurrent? (e.thread :: begun) stale es

/-- What the requests that are not stale remember of the nodes is what is stored. -/
structure Current (env : Environment) (w : World) (done : List (Event Op))
    (begun stale : List Nat) : Prop where
  memory : ∀ t, t ∉ stale → ∀ op s, (op, s) ∈ memory (handle env) t w done →
    s.db .nodes = (replay (handle env) w done).db .nodes
  begun : ∀ t, t ∉ stale → t ∉ begun → Lib.memory (handle env) t w done = []

theorem Current.keep (h : Current env w done begun stale) (he : e.op.changesNodes = false) :
    Current env w (done ++ [e]) (e.thread :: begun) stale where
  memory t ht op s hmem := by
    rw [replay_append, replay_cons, replay_nil, nodes_of_not_changesNodes he]
    rw [memory_append_singleton, List.mem_append] at hmem
    rcases hmem with hmem | hmem
    · exact h.memory t ht op s hmem
    · split at hmem
      · cases List.mem_singleton.mp hmem
        rfl
      · cases hmem
  begun t ht hbegun := by
    rw [List.mem_cons, not_or] at hbegun
    rw [memory_append_singleton, h.begun t ht hbegun.2, if_neg (Ne.symm hbegun.1)]
    rfl

/-- Whoever began before a change is stale after it. -/
theorem Current.change (h : Current env w done begun stale) :
    Current env w (done ++ [e]) [] (e.thread :: begun ++ stale) := by
  have hnone (t : Nat) (ht : t ∉ e.thread :: begun ++ stale) :
      Lib.memory (handle env) t w (done ++ [e]) = [] := by
    rw [List.cons_append, List.mem_cons, List.mem_append, not_or, not_or] at ht
    rw [memory_append_singleton, h.begun t ht.2.2 ht.2.1, if_neg (Ne.symm ht.1)]
    rfl
  refine ⟨fun t ht op s hmem => ?_, fun t ht _ => hnone t ht⟩
  rw [hnone t ht] at hmem
  cases hmem

theorem nodes_of_changesCurrent (h : Current env w done begun stale)
    (hes : changesCurrent? begun stale es = true) :
    ∀ pre t id doc post, es = pre ++ ⟨t, .db (.replaceOne .nodes id doc)⟩ :: post →
      ∀ op s, (op, s) ∈ memory (handle env) t w (done ++ pre) →
        s.db .nodes = (replay (handle env) w (done ++ pre)).db .nodes := by
  induction es generalizing done begun stale with
  | nil =>
      intro pre t id doc post heq
      cases pre <;> cases heq
  | cons e es ih =>
      intro pre t id doc post heq
      rw [changesCurrent?] at hes
      cases pre with
      | nil =>
          cases heq
          have hchanges : (Op.db (.replaceOne .nodes id doc)).changesNodes = true := rfl
          rw [if_pos hchanges, Bool.and_eq_true, Bool.not_eq_true'] at hes
          rw [List.append_nil]
          exact h.memory t fun hmem => by simp [hmem] at hes
      | cons first pre =>
          cases heq
          rw [List.append_cons]
          split at hes
          · rw [Bool.and_eq_true] at hes
            exact ih h.change hes.2 pre t id doc post rfl
          · rename_i he
            exact ih (h.keep (Bool.eq_false_iff.mpr he)) hes pre t id doc post rfl

/-- Requests that change the nodes one after the other are fresh. -/
theorem freshCreates_of_changesCurrent (hes : changesCurrent? [] [] es = true) :
    FreshCreates env w es := by
  have hstart : Current env w [] [] [] := ⟨fun _ _ _ _ hmem => (by cases hmem), fun _ _ _ => rfl⟩
  intro pre t id doc post heq op s hmem _ id' doc' hget _
  rw [nodes_of_changesCurrent hstart hes pre t id doc post heq op s hmem]
  exact hget

end Serial

def newServer (hostname ipAddress : String) (virtualCpu : Int) : CreateOrRemove :=
  .newNode (.obj [("hostname", .str hostname), ("ip_address", .str ipAddress),
    ("node_type", .str NodeTypes.server), ("deployment_type", .str DeploymentTypes.virtual),
    ("virtual_cpu", .num virtualCpu), ("virtual_mem", .num 32)])

/-- Three virtual servers are asked for one after the other, the last with other resources. -/
def threeServers : List (Event Op) × Config Op Op.Res PyError Unit World :=
  (createsAndRemovals lanWorld [newServer "server1" "10.40.12.146" 16,
    newServer "server2" "10.40.12.147" 16, newServer "server3" "10.40.12.148" 8]).schedule
    (handle countingEnv) (List.replicate 40 0 ++ List.replicate 40 1 ++ List.replicate 40 2)

theorem crossNodeRules_of_threeServers : CrossNodeRules threeServers.2.state :=
  crossNodeRules_of_freshCreates countingEnv lanWorld crossNodeRules_lanWorld _ _ _
    (run_schedule _ _ _) (freshCreates_of_changesCurrent (by decide +kernel))

/-- The last server is turned away. -/
example : (threeServers.2.state.db .nodes).rows.map (fun row => row.2.hostname) =
    ["server1.lan", "server2.lan"] := by
  decide +kernel

def newMinio (hostname : String) : CreateOrRemove :=
  .newNode (.obj [("hostname", .str hostname), ("ip_address", .str "10.40.12.146"),
    ("node_type", .str NodeTypes.minio)])

/-- The property without a condition on what happens between check and store. -/
def RulesHold : Prop :=
  ∀ (env : Environment) (w : World), CrossNodeRules w →
    ∀ (operations : List CreateOrRemove) (es : List (Event Op))
      (c' : Config Op Op.Res PyError Unit World),
      Run (handle env) (createsAndRemovals w operations) es c' → CrossNodeRules c'.state

/-- The second request is served between the check of the first and its store. -/
def minioTwice : List (Event Op) × Config Op Op.Res PyError Unit World :=
  (createsAndRemovals lanWorld [newMinio "minio1", newMinio "minio2"]).schedule
    (handle countingEnv) (List.replicate 5 0 ++ List.replicate 40 1 ++ List.replicate 40 0)

theorem not_rulesHold : ¬ RulesHold := by
  intro hclaim
  have hrules := hclaim countingEnv lanWorld crossNodeRules_lanWorld _ _ minioTwice.2
    (run_schedule _ _ _)
  have hfirst : ((minioTwice.2.state.db .nodes).get? "0").map NodeDoc.nodeType =
      some NodeTypes.minio := by
    decide +kernel
  have hsecond : ((minioTwice.2.state.db .nodes).get? "1").map NodeDoc.nodeType =
      some NodeTypes.minio := by
    decide +kernel
  obtain ⟨doc, hdoc, htype⟩ := Option.map_eq_some_iff.mp hfirst
  obtain ⟨doc', hdoc', htype'⟩ := Option.map_eq_some_iff.mp hsecond
  have hid := hrules.minio "0" "1" doc doc' hdoc hdoc' htype htype'
  exact absurd hid (by decide)

end Tfplenum
