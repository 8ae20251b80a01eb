/-
  Tfplenum.Controller.DeployableMips

  `Node.load_deployable_mips_from_db` of `models/nodes.py`.

  The loop removes nodes from the list that it goes through, so that it passes over the
  node behind each of them, and it looks at the first deploy job that is found only,
  which may be none (`loadsDeployableMips_iff`).
-/

import Tfplenum.Controller.HostNames
import Tfplenum.Lib.EditingLoop

namespace Tfplenum

open Lib Lib.EditingLoop

/-! ## The loader -/

namespace Node

/-- A round of the loop: `remove` takes out the first equal node, which is the node itself, as
    nodes are told apart by identity. -/
def deployableRound (node : Node) : Prog (Edit Node) := do
  match ← NodeJob.loadJobByNode node jobDeploy with
  | none => Program.raise (.attributeError "'NoneType' object has no attribute 'pending'")
  | some job => pure (if job.doc.pending || job.doc.error then .remove else .keep)

/-- `load_deployable_mips_from_db`; its first loop is `load_mips_from_db`. -/
def loadDeployableMipsFromDb : Prog (List Node) := do
  let retVal ← loadMipsFromDb
  loopFrom deployableRound 0 retVal

end Node

/-! ## What it is for -/

/-- The documents of the MIP nodes -/
def mipRows (db : Db) : List (String × NodeDoc) :=
  (db .nodes).find fun _ node => node.nodeType ∈ [NodeTypes.mip]

/-- The node has a deploy job that is neither pending nor in error. -/
def isDeployable (db : Db) (id : String) : Bool :=
  (db .jobs).rows.any fun row => decide (row.2.nodeId = id ∧ row.2.name = jobDeploy) &&
    (!row.2.pending && !row.2.error)

/-- The loader returns the deployable MIP nodes, each once and in the order of the database. -/
def LoadsDeployableMips (env : Environment) (w : World) : Prop :=
  ∃ nodes, (Node.loadDeployableMipsFromDb.run (handle env) w).1 = .ok nodes ∧
    nodes.map Node.id = ((mipRows w.db).map Prod.fst).filter (isDeployable w.db)

/-- The deploy job that is found for the node -/
def deployJob (db : Db) (id : String) : Option (String × JobDoc) :=
  (db .jobs).findOne fun _ job => job.nodeId = id ∧ job.name = jobDeploy

/-- The node is deployable by another deploy job than the one that is found. -/
def IsOverlooked (db : Db) (id : String) : Prop :=
  isDeployable db id = true ∧ ∃ row, deployJob db id = some row ∧
    (row.2.pending || row.2.error) = true

/-- The database is one for which the loop goes right. -/
structure MipsSpaced (db : Db) : Prop where
  valid : ∀ row ∈ mipRows db, row.2.Valid ∧ row.1 ≠ ""
  settings : mipRows db ≠ [] → (domainOf (db .settings)).isSome
  jobs : ∀ id ∈ (mipRows db).map Prod.fst, (deployJob db id).isSome
  first : ∀ id ∈ ((mipRows db).map Prod.fst).head?, ¬ IsOverlooked db id
  neighbours : ((mipRows db).map Prod.fst).IsChain fun id next =>
    (isDeployable db next = false → isDeployable db id = true) ∧
      (IsOverlooked db next → isDeployable db id = false)

/-! ## The loop -/

/-- What the round does with the node of an id -/
def deployableEdit {α : Type} (db : Db) (id : String) : Except PyError (Edit α) :=
  match deployJob db id with
  | none => .error (.attributeError "'NoneType' object has no attribute 'pending'")
  | some row => .ok (if row.2.pending || row.2.error then .remove else .keep)

theorem run_deployableRound (env : Environment) (w : World) (node : Node) :
    (Node.deployableRound node).run (handle env) w = (deployableEdit w.db node.id, w) := by
  have hfound : (NodeJob.loadJobByNode node jobDeploy).run (handle env) w =
      (.ok ((deployJob w.db node.id).map fun row => ⟨row.1, row.2⟩), w) := by
    have hfind : (Prog.findOne .jobs fun _ job =>
        decide (job.nodeId = node.id ∧ job.name = jobDeploy)).run (handle env) w =
          (.ok (deployJob w.db node.id), w) := rfl
    refine (Program.run_bind_ok _ hfind).trans ?_
    cases deployJob w.db node.id <;> rfl
  rw [deployableEdit]
  refine (Program.run_bind_ok _ hfound).trans ?_
  cases deployJob w.db node.id <;> rfl

theorem map_deployableEdit (db : Db) (id : String) :
    Edit.map Node.id <$> deployableEdit db id = deployableEdit db id := by
  rw [deployableEdit, deployableEdit]
  cases deployJob db id with
  | none => rfl
  | some row =>
      by_cases hbad : (row.2.pending || row.2.error) = true
      · simp [hbad, Functor.map, Except.map, Edit.map]
      · simp [hbad, Functor.map, Except.map, Edit.map]

/-- The ids that are left -/
theorem ids_deployableLoop (env : Environment) (w : World) (nodes : List Node) :
    List.map Node.id <$> ((loopFrom Node.deployableRound 0 nodes).run (handle env) w).1 =
      pass (deployableEdit w.db) (nodes.map Node.id) := by
  rw [loop_eq_pass, (run_pass (run_deployableRound env w) nodes).1]
  exact (map_pass (fun node => map_deployableEdit w.db node.id) nodes).1

/-! ## The nodes -/

/-- The document can be loaded. -/
def LoadsDoc (db : Db) (row : String × NodeDoc) : Prop :=
  row.2.Valid ∧ (domainOf (db .settings)).isSome

/-- The id of the node that is made of a document -/
def HasId (env : Environment) (row : String × NodeDoc) (id : String) : Prop :=
  (row.1 ≠ "" → id = row.1) ∧ (row.1 = "" → ∃ n, id = env .uuid4 n)

/-- Without the domain no node is made. -/
theorem triple_setHostname_none {env : Environment} {db : Db}
    (hd : domainOf (db .settings) = none) (hostname : String) :
    Triple (handle env) (fun w => w.db = db) (Node.setHostname hostname) (fun _ _ => False)
      fun _ _ => True := by
  have hload : Triple (handle env) (fun w => w.db = db) GeneralSettingsForm.loadFromDb
      (fun form _ => form = none) fun _ _ => True := by
    have hfind : Triple (handle env) (fun w => w.db = db)
        (Prog.findById .settings generalSettingsId)
        (fun doc _ => doc = (db .settings).get? generalSettingsId) fun _ _ => True := by
      refine Triple.perform fun w hw => ?_
      subst hw
      rfl
    refine hfind.bind fun doc => ?_
    cases doc with
    | none => exact Triple.done fun _ _ => rfl
    | some doc =>
        refine Triple.bind (Q := fun _ _ => False) (Triple.ofExcept ?_ fun _ _ _ _ => trivial)
          fun _ => Triple.done fun _ h => h.elim
        -- settings that could be read would have a domain
        intro form w hform hdoc
        rw [domainOf, ← hdoc] at hd
        dsimp only at hd
        rw [hform] at hd
        cases hd
  refine hload.bind fun form => ?_
  cases form with
  | none => exact Triple.raise fun _ _ => trivial
  | some form => exact Triple.done fun _ h => nomatch h

theorem triple_loadDoc {env : Environment} {db : Db} (row : String × NodeDoc) :
    Triple (handle env) (fun w => w.db = db) (Node.loadDoc row)
      (fun node w => (LoadsDoc db row ∧ HasId env row node.id) ∧ w.db = db)
      fun _ _ => ¬ LoadsDoc db row := by
  obtain ⟨id, doc⟩ := row
  by_cases hvalid : doc.Valid
  · obtain ⟨ip, hip⟩ := hvalid.ipAddress
    have hload : Node.loadDoc (id, doc) = Node.init (.ofDoc id doc ip) := by
      rw [Node.loadDoc, Node.load, NodeSchema.deserialize_fields hvalid hip]
      rfl
    rw [hload]
    cases hd : domainOf (db .settings) with
    | some d =>
        refine (triple_ofDoc env hd id doc ip).conseq (fun _ hw => hw) ?_ fun _ _ h => h.elim
        rintro node w ⟨⟨-, hid⟩, hw⟩
        have hsome : (domainOf (db .settings)).isSome := by rw [hd]; rfl
        exact ⟨⟨⟨hvalid, hsome⟩, hid⟩, hw⟩
    | none =>
        have hnot : ¬ LoadsDoc db (id, doc) := by
          rintro ⟨-, hsome⟩
          rw [hd] at hsome
          cases hsome
        rw [Node.init_ofDoc]
        refine Triple.bind (Q := fun _ w => w.db = db) ?_ fun id' => ?_
        · split
          · exact Triple.perform fun _ hw => hw
          · exact Triple.done fun _ hw => hw
        · have hname : Triple (handle env) (fun w => w.db = db) (Node.setHostname doc.hostname)
              (fun _ _ => False) fun _ _ => ¬ LoadsDoc db (id, doc) :=
            (triple_setHostname_none hd doc.hostname).conseq (fun _ hw => hw) (fun _ _ h => h)
              fun _ _ _ => hnot
          exact hname.bind fun _ => ⟨fun _ h => h.elim⟩
  · -- the schema rejects the document
    cases hread : NodeSchema.deserialize (.obj (doc.fields id)) with
    | ok data => exact absurd (NodeSchema.accepts_iff_valid.mp ⟨data, hread⟩) hvalid
    | error e =>
        have hload : Node.loadDoc (id, doc) = Program.raise e := by
          rw [Node.loadDoc, Node.load, hread]
          rfl
        rw [hload]
        exact Triple.raise fun _ _ h => hvalid h.1

/-- The MIP nodes come with the ids of their documents, if all of these can be loaded. -/
theorem triple_loadMips {env : Environment} {db : Db} :
    Triple (handle env) (fun w => w.db = db) Node.loadMipsFromDb
      (fun nodes w => List.Forall₂ (fun row node => LoadsDoc db row ∧ HasId env row node.id)
        (mipRows db) nodes ∧ w.db = db)
      fun _ _ => ∃ row ∈ mipRows db, ¬ LoadsDoc db row := by
  have hfind : Triple (handle env) (fun w => w.db = db)
      (Prog.find .nodes fun _ node => node.nodeType ∈ [NodeTypes.mip])
      (fun rows w => rows = mipRows db ∧ w.db = db)
      fun _ _ => ∃ row ∈ mipRows db, ¬ LoadsDoc db row := by
    refine Triple.perform fun w hw => ⟨?_, hw⟩
    subst hw
    rfl
  refine hfind.bind fun rows => Triple.assume fun hrows => ?_
  subst hrows
  refine Triple.mapEach fun row hrow => ?_
  exact (triple_loadDoc row).conseq (fun _ hw => hw) (fun _ _ h => h) fun _ _ h => ⟨row, hrow, h⟩

/-! ## Which nodes are left -/

section Jobs

variable {db : Db} {id : String}

theorem exists_deployableEdit_iff :
    (∃ edit : Edit String, deployableEdit db id = .ok edit) ↔ (deployJob db id).isSome := by
  rw [deployableEdit]
  cases deployJob db id with
  | none => simp
  | some row => simp

theorem lost_iff_isOverlooked :
    Lost (deployableEdit db) (isDeployable db) id ↔ IsOverlooked db id := by
  rw [Lost, IsOverlooked, and_comm, and_congr_right_iff]
  intro _
  rw [deployableEdit]
  cases deployJob db id with
  | none => simp
  | some row =>
      cases hpending : row.2.pending <;> cases herror : row.2.error <;> simp [hpending, herror]

theorem isDeployable_iff : isDeployable db id = true ↔ ∃ jobId job,
    (db .jobs).get? jobId = some job ∧ (job.nodeId = id ∧ job.name = jobDeploy) ∧
      (job.pending || job.error) = false := by
  simp only [isDeployable, List.any_eq_true, Prod.exists, Table.get?_eq_some_iff, Bool.and_eq_true,
    decide_eq_true_eq, Bool.or_eq_false_iff, Bool.not_eq_true']

theorem isDeployable_of_keep (h : deployableEdit db id = .ok (Edit.keep : Edit String)) :
    isDeployable db id = true := by
  rw [deployableEdit] at h
  cases hjob : deployJob db id with
  | none =>
      rw [hjob] at h
      cases h
  | some row =>
      rw [hjob] at h
      obtain ⟨hrow, hmatch⟩ := Table.findOne_eq_some hjob
      refine isDeployable_iff.mpr ⟨row.1, row.2, hrow, of_decide_eq_true hmatch, ?_⟩
      cases hbad : row.2.pending || row.2.error with
      | false => rfl
      | true => simp [hbad] at h

theorem isDeployable_eq_false_of_none (h : deployJob db id = none) :
    isDeployable db id = false := by
  rw [Bool.eq_false_iff, Ne, isDeployable_iff]
  rintro ⟨jobId, job, hget, hmatch, -⟩
  exact absurd hmatch (of_decide_eq_false (Table.findOne_eq_none_iff.mp h jobId job hget))

theorem deployJob_eq_none_of_error {e : PyError}
    (h : (deployableEdit db id : Except PyError (Edit String)) = .error e) :
    deployJob db id = none := by
  rw [deployableEdit] at h
  cases hjob : deployJob db id with
  | none => rfl
  | some row =>
      rw [hjob] at h
      cases h

end Jobs

/-- The loop leaves the deployable ids of a list of different ids. -/
theorem pass_deployableEdit_iff {db : Db} {ids : List String} (hnodup : ids.Nodup) :
    pass (deployableEdit db) ids = .ok (ids.filter (isDeployable db)) ↔
      (∀ id ∈ ids, (deployJob db id).isSome) ∧ (∀ id ∈ ids.head?, ¬ IsOverlooked db id) ∧
        ids.IsChain fun id next => (isDeployable db next = false → isDeployable db id = true) ∧
          (IsOverlooked db next → isDeployable db id = false) := by
  -- the round never puts another node in the place of one
  have hreplace : ∀ id next : String, deployableEdit db id ≠ .ok (.replace next) := by
    intro id next h
    rw [deployableEdit] at h
    cases hjob : deployJob db id with
    | none =>
        rw [hjob] at h
        cases h
    | some row =>
        rw [hjob] at h
        split at h
        · cases h
        · rename_i hbad
          injection h with h
          split at h <;> cases h
  have hpass := (pass_eq_filter_iff hnodup hreplace (fun id => isDeployable_of_keep)
    fun id e h => isDeployable_eq_false_of_none (deployJob_eq_none_of_error h)).1
  have hfollows : Follows (deployableEdit db) (isDeployable db) = fun id next =>
      (isDeployable db next = false → isDeployable db id = true) ∧
        (IsOverlooked db next → isDeployable db id = false) := by
    funext id next
    rw [Follows, lost_iff_isOverlooked]
  simpa only [exists_deployableEdit_iff, lost_iff_isOverlooked, hfollows] using hpass

/-- A loop that ends with deployable ids has found a job for each id. -/
theorem isSome_deployJob_of_pass {db : Db} {ids others : List String}
    (h : pass (deployableEdit db) ids = .ok (others.filter (isDeployable db))) :
    ∀ id ∈ ids, (deployJob db id).isSome := by
  intro id hid
  by_contra hnot
  have hnone : deployJob db id = none := by simpa using hnot
  have herror : (deployableEdit db id : Except PyError (Edit String)) =
      .error (.attributeError "'NoneType' object has no attribute 'pending'") := by
    rw [deployableEdit, hnone]
  -- what the loop raises for would be left in the list
  have hleft := (mem_of_pass herror ids hid).1 _ h
  rw [List.mem_filter, isDeployable_eq_false_of_none hnone] at hleft
  exact nomatch hleft.2

/-- Documents with ids give nodes of these ids. -/
theorem ids_of_loaded {env : Environment} {db : Db} {rows : List (String × NodeDoc)}
    {nodes : List Node}
    (hmade : List.Forall₂ (fun row node => LoadsDoc db row ∧ HasId env row node.id) rows nodes)
    (hids : ∀ row ∈ rows, row.1 ≠ "") : nodes.map Node.id = rows.map Prod.fst := by
  induction hmade with
  | nil => rfl
  | cons hid _ ih =>
      obtain ⟨hne, hrest⟩ := List.forall_mem_cons.mp hids
      rw [List.map_cons, List.map_cons, ih hrest, hid.2.1 hne]

/-- Once the nodes are loaded, the loop decides. -/
theorem loadsDeployableMips_iff_pass {env : Environment} {w w' : World} {nodes : List Node}
    (hrun : Node.loadMipsFromDb.run (handle env) w = (.ok nodes, w')) :
    LoadsDeployableMips env w ↔ pass (deployableEdit w.db) (nodes.map Node.id) =
      .ok (((mipRows w.db).map Prod.fst).filter (isDeployable w.db)) := by
  have hloop : Node.loadDeployableMipsFromDb.run (handle env) w =
      (loopFrom Node.deployableRound 0 nodes).run (handle env) w' := Program.run_bind_ok _ hrun
  rw [LoadsDeployableMips, hloop, ← (triple_loadMips.ok rfl hrun).2, ← ids_deployableLoop]
  cases ((loopFrom Node.deployableRound 0 nodes).run (handle env) w').1 with
  | error e => simp [Functor.map, Except.map]
  | ok nodes => simp [Functor.map, Except.map]

/-- The MIP nodes that can be loaded and looked up are filtered if the nodes without a deploy job
    in order are no neighbours, and those that have one behind another are just behind one of
    them. -/
theorem loadsDeployableMips_iff (env : Environment) (w : World)
    (huuid : ∀ n id job, (w.db .jobs).get? id = some job → job.nodeId ≠ env .uuid4 n) :
    LoadsDeployableMips env w ↔ MipsSpaced w.db := by
  rcases hrun : Node.loadMipsFromDb.run (handle env) w with ⟨e | nodes, w'⟩
  · obtain ⟨row, hrow, hfails⟩ := triple_loadMips.error rfl hrun
    refine iff_of_false ?_ fun h => hfails ?_
    · rintro ⟨nodes, hnodes, -⟩
      have hraises : Node.loadDeployableMipsFromDb.run (handle env) w = (.error e, w') :=
        Program.run_bind_error _ hrun
      rw [hraises] at hnodes
      cases hnodes
    · exact ⟨(h.valid row hrow).1, h.settings (List.ne_nil_of_mem hrow)⟩
  · have hmade := (triple_loadMips.ok rfl hrun).1
    rw [loadsDeployableMips_iff_pass hrun]
    have hparts : ∀ row ∈ mipRows w.db, LoadsDoc w.db row := by
      intro row hrow
      obtain ⟨node, -, hloaded, -⟩ := exists_of_forall₂ hmade hrow
      exact hloaded
    by_cases hids : ∀ row ∈ mipRows w.db, row.1 ≠ ""
    · have hnodup : ((mipRows w.db).map Prod.fst).Nodup :=
        (w.db .nodes).nodup.sublist (List.filter_sublist.map _)
      rw [ids_of_loaded hmade hids, pass_deployableEdit_iff hnodup]
      constructor
      · rintro ⟨hjobs, hfirst, hneighbours⟩
        refine ⟨fun row hrow => ⟨(hparts row hrow).1, hids row hrow⟩, fun hne => ?_, hjobs, hfirst,
          hneighbours⟩
        obtain ⟨row, hrow⟩ := List.exists_mem_of_ne_nil _ hne
        exact (hparts row hrow).2
      · intro h
        exact ⟨h.jobs, h.first, h.neighbours⟩
    · obtain ⟨row, hrow, hempty⟩ : ∃ row ∈ mipRows w.db, row.1 = "" := by
        by_contra hno
        exact hids fun row hrow h => hno ⟨row, hrow, h⟩
      refine iff_of_false ?_ fun h => (h.valid row hrow).2 hempty
      -- the node has a drawn id, which no job has
      obtain ⟨node, hnode, -, hid⟩ := exists_of_forall₂ hmade hrow
      obtain ⟨n, hn⟩ := hid.2 hempty
      intro hpass
      have hsome := isSome_deployJob_of_pass hpass node.id (List.mem_map_of_mem hnode)
      obtain ⟨⟨jobId, job⟩, hjob⟩ := Option.isSome_iff_exists.mp hsome
      obtain ⟨hget, hmatch⟩ := Table.findOne_eq_some hjob
      have hnode' : job.nodeId = node.id := (of_decide_eq_true hmatch).1
      exact huuid n jobId job hget (hnode'.trans hn)

/-! ## Two MIP nodes -/

/-- The document of a MIP node -/
def mipDoc (hostname : String) : NodeDoc :=
  { server1Doc with hostname := hostname, nodeType := NodeTypes.mip }

/-- A deploy job of the node, pending or done -/
def deployJobDoc (nodeId : String) (pending : Bool) : JobDoc where
  message := none
  name := jobDeploy
  nodeId := nodeId
  pending := pending
  complete := !pending
  inprogress := false
  error := false
  description := none
  jobId := none
  execType := none

/-- The MIP nodes m1 and m2, each with one deploy job; that of m1 is pending. -/
def mipWorld (pending2 : Bool) : World where
  db
    | .settings => Table.empty.upsert generalSettingsId lanForm.dump
    | .nodes => ⟨[("m1", mipDoc "mip1.lan"), ("m2", mipDoc "mip2.lan")], by decide⟩
    | .jobs => ⟨[("j1", deployJobDoc "m1" true), ("j2", deployJobDoc "m2" pending2)], by simp⟩
    | _ => Table.empty
  calls := 0

theorem mipRows_mipWorld (pending2 : Bool) : mipRows (mipWorld pending2).db =
    [("m1", mipDoc "mip1.lan"), ("m2", mipDoc "mip2.lan")] := rfl

theorem valid_mipDoc {hostname : String} (h : isHostname hostname.toList = true) :
    (mipDoc hostname).Valid where
  hostname := h
  ipAddress := by
    have hparse : IPv4Address.parse "10.40.12.146" = some ⟨10, 40, 12, 146⟩ := by decide +kernel
    exact ⟨_, hparse⟩
  macAddress := nofun
  nodeType := by
    show NodeTypes.mip ∈ NodeSchema.nodeTypes
    decide

theorem loadsDoc_mipWorld (pending2 : Bool) : ∀ row ∈ mipRows (mipWorld pending2).db,
    LoadsDoc (mipWorld pending2).db row ∧ row.1 ≠ "" := by
  have hdomain : (domainOf ((mipWorld pending2).db .settings)).isSome := by
    change (domainOf (lanWorld.db .settings)).isSome
    rw [domainOf_lanWorld]
    rfl
  have hfirst : isHostname "mip1.lan".toList = true := by decide +kernel
  have hsecond : isHostname "mip2.lan".toList = true := by decide +kernel
  rw [mipRows_mipWorld]
  intro row hrow
  rcases List.mem_cons.mp hrow with rfl | hrow
  · exact ⟨⟨valid_mipDoc hfirst, hdomain⟩, by decide⟩
  · rw [List.mem_singleton.mp hrow]
    exact ⟨⟨valid_mipDoc hsecond, hdomain⟩, by decide⟩

/-- A pending node, and behind it a deployable one -/
theorem loadsDeployableMips_pendingFirst : LoadsDeployableMips steadyEnv (mipWorld false) := by
  have hloads := loadsDoc_mipWorld false
  have hfirst : isDeployable (mipWorld false).db "m1" = false := by decide +kernel
  have hsecond : isDeployable (mipWorld false).db "m2" = true := by decide +kernel
  have huuid : ∀ n id job, ((mipWorld false).db .jobs).get? id = some job →
      job.nodeId ≠ steadyEnv .uuid4 n := by
    intro n id job hget
    have hrow := Table.get?_eq_some_iff.mp hget
    have hrows : ∀ row ∈ ((mipWorld false).db .jobs).rows, row.2.nodeId ≠ "0f" := by
      decide +kernel
    exact hrows _ hrow
  refine (loadsDeployableMips_iff steadyEnv _ huuid).mpr
    ⟨fun row hrow => ⟨(hloads row hrow).1.1, (hloads row hrow).2⟩, fun _ => ?_, ?_, ?_, ?_⟩
  · exact (hloads ("m1", mipDoc "mip1.lan") List.mem_cons_self).1.2
  · decide +kernel
  · rintro id ⟨⟩ ⟨hdeployable, -⟩
    rw [hfirst] at hdeployable
    cases hdeployable
  · refine .cons_cons ⟨?_, fun _ => hfirst⟩ (.singleton _)
    intro h
    rw [hsecond] at h
    cases h

/-- Of two pending nodes, the second one is left. -/
theorem not_loadsDeployableMips_bothPending :
    ¬ LoadsDeployableMips steadyEnv (mipWorld true) := by
  intro h
  rcases hrun : Node.loadMipsFromDb.run (handle steadyEnv) (mipWorld true) with ⟨e | nodes, w'⟩
  · obtain ⟨row, hrow, hfails⟩ := triple_loadMips.error rfl hrun
    exact hfails (loadsDoc_mipWorld true row hrow).1
  · have hids := ids_of_loaded (triple_loadMips.ok rfl hrun).1 fun row hrow =>
      (loadsDoc_mipWorld true row hrow).2
    have hleft : pass (deployableEdit (mipWorld true).db) ["m1", "m2"] = .ok ["m2"] := by
      decide +kernel
    rw [loadsDeployableMips_iff_pass hrun, hids] at h
    exact absurd (hleft.symm.trans h) (by decide +kernel)

end Tfplenum
