/-
  Tfplenum.Service.ScaleRequests

  What a request that scales Elasticsearch changes of the deployment.  A role whose
  count is zero is passed over like one that is not in the request, so the deployment
  is the one requested if the node sets of such a role are empty already.
-/

import Tfplenum.Service.ScaleService

namespace Tfplenum

open Lib ElasticScaleNodeInSchema

/-! ## What a request asks for -/

/-- The node set with the count of its role, if its role is in the request. -/
def NodeSet.withRequested (payload : List (String × Json)) (n : NodeSet) : NodeSet :=
  if n.name ∈ fieldNames then
    match payload.lookup n.name with
    | some count => { n with count := count }
    | none => n
  else n

/-- The deployment with the counts of the request, and nothing else changed. -/
def ElasticDeploy.withRequested (payload : List (String × Json)) (d : ElasticDeploy) :
    ElasticDeploy :=
  d.mapNodeSets (NodeSet.withRequested payload)

/-- The request does not ask for an empty role of which there are nodes, and there are node
    sets to scale if it asks for anything. -/
def Scalable (payload : List (String × Json)) (d : ElasticDeploy) : Prop :=
  match d.nodeSets? with
  | some sets => ∀ n ∈ sets, n.name ∈ fieldNames → payload.lookup n.name = some (.num 0) →
      n.count = .num 0
  | none => ∀ name ∈ fieldNames, payload.lookup name = some (.num 0)

/-! ## Accepted requests -/

/-- What reads as an integer has the truth value of a number other than zero, or is zero. -/
theorem truthy_of_integer {value : Json} {n : Int} (h : Fields.Integer.deserialize value = .ok n) :
    value.truthy = true ∨ value = .num 0 := by
  cases value with
  | num m =>
      by_cases hm : m = 0
      · exact .inr (congrArg Json.num hm)
      · exact .inl (decide_eq_true hm)
  | str s =>
      by_cases hs : s = ""
      · subst hs
        cases h
      · exact .inl (decide_eq_true hs)
  | null => cases h
  | bool b => cases h
  | arr items => cases h
  | obj fields => cases h

variable {payload : List (String × Json)}

/-- An accepted request has a count for each role: zero, or one that is true. -/
theorem exists_count_of_accepted (haccepted : errors payload = []) {name : String}
    (hname : name ∈ fieldNames) :
    ∃ count, payload.lookup name = some count ∧ (count.truthy = true ∨ count = .num 0) := by
  have herrors : ((countField name).load Fields.isNull payload).errors name = [] :=
    List.flatMap_eq_nil_iff.mp (List.append_eq_nil_iff.mp haccepted).1 name hname
  obtain ⟨n, hn⟩ := Field.exists_value_of_required rfl rfl (Loaded.errors_eq_nil_iff.mp herrors)
  cases hcount : payload.lookup name with
  | none =>
      rw [Field.load] at hn
      rw [show (countField name).name = name from rfl, hcount] at hn
      cases hn
  | some count =>
      exact ⟨count, rfl, truthy_of_integer (Field.deserialize_of_load_eq_value hcount hn)⟩

/-! ## The deployment that is sent -/

/-- The node set after one call of `_scale`. -/
def NodeSet.afterScale (payload : List (String × Json)) (name : String) (n : NodeSet) : NodeSet :=
  if (getNewCountFromPayload payload name).truthy then
    n.scale name (getNewCountFromPayload payload name)
  else n

theorem NodeSet.afterScale_of_ne {name : String} {n : NodeSet} (h : n.name ≠ name) :
    n.afterScale payload name = n := by
  rw [afterScale, NodeSet.scale, if_neg h, ite_self]

@[simp] theorem NodeSet.name_afterScale (name : String) (n : NodeSet) :
    (n.afterScale payload name).name = n.name := by
  simp only [afterScale, NodeSet.scale]
  split_ifs <;> rfl

/-- One call, where there are node sets. -/
theorem scale_of_some {d : ElasticDeploy} {sets : List NodeSet} (h : d.nodeSets? = some sets)
    (name : String) :
    scale d name (getNewCountFromPayload payload name) =
      .ok (d.mapNodeSets (NodeSet.afterScale payload name)) := by
  rw [scale]
  split
  · rename_i htruthy
    rw [ElasticDeploy.getNodeSets_of_some h]
    refine congrArg Except.ok (ElasticDeploy.mapNodeSets_eq_iff.mpr fun _ _ n _ => ?_)
    exact (if_pos htruthy).symm
  · rename_i htruthy
    refine congrArg Except.ok (ElasticDeploy.mapNodeSets_eq_self fun _ _ n _ => ?_).symm
    exact if_neg htruthy

/-- All calls: of a role, only its own changes the node set. -/
theorem postElasticScale_of_some {d : ElasticDeploy} {sets : List NodeSet}
    (h : d.nodeSets? = some sets) :
    postElasticScale payload d =
      .ok (d.mapNodeSets fun n =>
        if n.name ∈ fieldNames then n.afterScale payload n.name else n) := by
  have hmap (f : NodeSet → NodeSet) : ∃ sets', (d.mapNodeSets f).nodeSets? = some sets' :=
    ⟨_, (ElasticDeploy.nodeSets?_mapNodeSets f d).trans (congrArg _ h)⟩
  have hstep (f : NodeSet → NodeSet) (name : String) :
      scale (d.mapNodeSets f) name (getNewCountFromPayload payload name) =
        .ok (d.mapNodeSets fun n => (f n).afterScale payload name) := by
    obtain ⟨sets', hsets'⟩ := hmap f
    rw [scale_of_some hsets', ElasticDeploy.mapNodeSets_mapNodeSets]
  simp only [postElasticScale, scale_of_some h, hstep, bind, Except.bind]
  -- of the four calls only that of its own name changes a node set
  refine congrArg Except.ok (ElasticDeploy.mapNodeSets_eq_iff.mpr fun _ _ n _ => ?_)
  by_cases hn : n.name ∈ fieldNames
  · rw [if_pos hn]
    simp only [fieldNames, List.mem_cons, List.not_mem_nil, or_false] at hn
    rcases hn with hn | hn | hn | hn <;> simp [NodeSet.afterScale_of_ne, hn]
  · rw [if_neg hn]
    simp only [fieldNames, List.mem_cons, List.not_mem_nil, or_false, not_or] at hn
    simp [NodeSet.afterScale_of_ne, hn]

/-- A step that returns `d` under a condition and raises otherwise, before the steps left. -/
theorem bind_eq_ok_iff {d : ElasticDeploy} {p : Prop} {e : PyError}
    {step : Except PyError ElasticDeploy} {rest : ElasticDeploy → Except PyError ElasticDeploy}
    (h : p ∧ step = .ok d ∨ ¬ p ∧ step = .error e) :
    (step >>= rest) = .ok d ↔ p ∧ rest d = .ok d := by
  rcases h with ⟨hp, rfl⟩ | ⟨hp, rfl⟩
  · exact (and_iff_right hp).symm
  · exact iff_of_false (fun heq => by cases heq) fun hboth => hp hboth.1

/-- Without node sets, the first call with a count that is true raises. -/
theorem postElasticScale_of_none (haccepted : errors payload = []) {d : ElasticDeploy}
    (h : d.nodeSets? = none) :
    postElasticScale payload d = .ok d ↔
      ∀ name ∈ fieldNames, payload.lookup name = some (.num 0) := by
  obtain ⟨e, herror⟩ := ElasticDeploy.getNodeSets_of_none h
  have hcall (name : String) (hname : name ∈ fieldNames) :
      (payload.lookup name = some (.num 0) ∧
        scale d name (getNewCountFromPayload payload name) = .ok d) ∨
      (payload.lookup name ≠ some (.num 0) ∧
        scale d name (getNewCountFromPayload payload name) = .error e) := by
    obtain ⟨count, hcount, htruthy | rfl⟩ := exists_count_of_accepted haccepted hname
    · right
      refine ⟨?_, ?_⟩
      · rw [hcount]
        rintro heq
        cases heq
        cases htruthy
      · rw [getNewCountFromPayload, hcount, Option.getD_some, scale, if_pos htruthy, herror]
        rfl
    · left
      refine ⟨hcount, ?_⟩
      rw [getNewCountFromPayload, hcount]
      rfl
  rw [postElasticScale, bind_eq_ok_iff (hcall "master" (by decide)),
    bind_eq_ok_iff (hcall "ml" (by decide)), bind_eq_ok_iff (hcall "data" (by decide))]
  have hlast : scale d "ingest" (getNewCountFromPayload payload "ingest") = .ok d ↔
      payload.lookup "ingest" = some (.num 0) := by
    rcases hcall "ingest" (by decide) with ⟨hzero, hscale⟩ | ⟨hzero, hscale⟩
    · exact iff_of_true hscale hzero
    · rw [hscale]
      exact iff_of_false (fun heq => by cases heq) hzero
  rw [hlast]
  -- the schema names `data` before `ml`
  simp only [fieldNames, List.forall_mem_cons, List.not_mem_nil, false_implies, implies_true,
    and_true]
  exact and_congr_right fun _ => and_left_comm

/-! ## Requests that are applied -/

/-- The node set of a role is as requested, unless the request empties it. -/
theorem afterScale_eq_withRequested_iff (haccepted : errors payload = []) {n : NodeSet}
    (hn : n.name ∈ fieldNames) :
    n.afterScale payload n.name = n.withRequested payload ↔
      (payload.lookup n.name = some (.num 0) → n.count = .num 0) := by
  obtain ⟨count, hcount, htruthy | rfl⟩ := exists_count_of_accepted haccepted hn
  -- a count that is true is written
  · refine iff_of_true ?_ ?_
    · rw [NodeSet.afterScale, NodeSet.withRequested, if_pos hn, getNewCountFromPayload, hcount,
        Option.getD_some, if_pos htruthy, NodeSet.scale, if_pos rfl]
    · intro hzero
      rw [hcount] at hzero
      cases hzero
      cases htruthy
  · rw [NodeSet.afterScale, NodeSet.withRequested, if_pos hn, getNewCountFromPayload, hcount]
    obtain ⟨name, c, roles, containers, rest⟩ := n
    simp [Json.truthy]

/-- The deployment that is sent is the one requested exactly where the request is one that
    can be applied. -/
theorem scaleElastic_iff {payload : List (String × Json)} (haccepted : errors payload = [])
    (d : ElasticDeploy) :
    scaleElastic (.obj payload) d = .ok (d.withRequested payload) ↔ Scalable payload d := by
  rw [scaleElastic, if_pos haccepted, Scalable, ElasticDeploy.withRequested]
  cases h : d.nodeSets? with
  | none =>
      have hself : d.mapNodeSets (NodeSet.withRequested payload) = d :=
        ElasticDeploy.mapNodeSets_eq_self fun sets hsets => by
          rw [h] at hsets
          cases hsets
      rw [hself]
      exact postElasticScale_of_none haccepted h
  | some sets =>
      rw [postElasticScale_of_some h, Except.ok.injEq, ElasticDeploy.mapNodeSets_eq_iff, h]
      simp only [Option.mem_def, Option.some.injEq, forall_eq']
      refine forall₂_congr fun n _ => ?_
      by_cases hn : n.name ∈ fieldNames
      · rw [if_pos hn, afterScale_eq_withRequested_iff haccepted hn]
        simp only [hn, true_implies]
      · rw [if_neg hn, NodeSet.withRequested, if_neg hn]
        simp only [hn, false_implies]

/-- A deployment of two node sets with three masters and two data nodes. -/
def threeMasters : ElasticDeploy where
  spec := some {
    nodeSets := some
      [⟨"master", .num 3, ["master"], none, []⟩, ⟨"data", .num 2, ["data"], none, []⟩]
    rest := [] }
  rest := [("kind", .str "Elasticsearch")]

def countsRequest (master data ml ingest : Int) : List (String × Json) :=
  [("master", .num master), ("data", .num data), ("ml", .num ml), ("ingest", .num ingest)]

theorem scaleElastic_iff_more :
    scaleElastic (.obj (countsRequest 3 4 0 0)) threeMasters =
        .ok (threeMasters.withRequested (countsRequest 3 4 0 0)) ↔
      Scalable (countsRequest 3 4 0 0) threeMasters :=
  scaleElastic_iff (by decide) threeMasters

/-- A request for no data nodes leaves both of them. -/
theorem not_scaleElastic :
    ¬ ∀ (payload : List (String × Json)) (d : ElasticDeploy), errors payload = [] →
      scaleElastic (.obj payload) d = .ok (d.withRequested payload) := by
  intro h
  have hzero := h (countsRequest 3 0 0 0) threeMasters (by decide)
  have hsent : scaleElastic (.obj (countsRequest 3 0 0 0)) threeMasters = .ok threeMasters := rfl
  rw [hsent] at hzero
  cases hzero

end Tfplenum
