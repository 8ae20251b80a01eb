/-
  Tfplenum.Controller.AlertsTable

  `_constuct_aggs`, `_get_row` and `_get_table_contents` of `alerts_controller.py`:
  the nested aggregation that is asked for, and the rows of the table that are made
  of the answer.

  A row is a dictionary that the code goes on writing to, so that rows are objects
  of a heap and the table holds references.  A row is handed on only where it is not
  written to any more, or as a copy (`Appends`).
-/

import Tfplenum.Json
import Tfplenum.Lib.Fallible
import Tfplenum.Lib.Heap
import Tfplenum.Lib.Table

namespace Tfplenum

open Lib Fallible

/-! ## Dictionaries -/

/-- `d[key] = value` -/
def Json.setItem : Json → String → Json → Except PyError Json
  | .obj fields, key, value =>
      if key ∈ fields.map Prod.fst then
        .ok (.obj (fields.map fun field => (field.1, if field.1 = key then value else field.2)))
      else .ok (.obj (fields ++ [(key, value)]))
  | _, _, _ => .error (.typeError "object does not support item assignment")

/-- What a `for` loop goes through -/
def Json.iterate : Json → Except PyError (List Json)
  | .arr items => .ok items
  | .obj fields => .ok (fields.map fun field => .str field.1)
  | .str s => .ok (s.toList.map fun c => .str (String.ofList [c]))
  | _ => .error (.typeError "object is not iterable")

/-! ## The request -/

namespace AlertsCtrlv2

/-- `{field: {"terms": {"field": field, "size": 100}}}` -/
def termsOf (field : String) : Json :=
  .obj [(field, .obj [("terms", .obj [("field", .str field), ("size", .num 100)])])]

/-- A change of what `_get_aggs_nested` gives, in place -/
def inAggsNested (change : Json → Except PyError Json) : List String → Json → Except PyError Json
  | [], aggs => change aggs
  | field :: fields, aggs => do
      let inner ← aggs.getItem "aggs"
      let changed ← inAggsNested change fields (← inner.getItem field)
      aggs.setItem "aggs" (← inner.setItem field changed)

/-- One round of the loop of `_constuct_aggs` -/
def addAggs (fields : List String) (aggs : Json) (round : String × Nat) : Except PyError Json :=
  let (field, index) := round
  if index = 0 then aggs.setItem "aggs" (termsOf field)
  else inAggsNested (fun aggsRef => aggsRef.setItem "aggs" (termsOf field)) (fields.take index) aggs

/-- `_constuct_aggs` -/
def constuctAggs (fields : List String) : Except PyError Json :=
  fields.zipIdx.foldlM (addAggs fields) (.obj [])

/-! ## The rows -/

abbrev Row := Table String Json

/-- The rows that were made, and `table_rows` -/
structure TableState where
  heap : Heap Row
  tableRows : List Ref

/-- `row[key] = value` -/
def TableState.setItem (w : TableState) (row : Ref) (key : String) (value : Json) : TableState :=
  { w with heap := w.heap.modify row fun cells => cells.upsert key value }

/-- A dictionary that is made now -/
def TableState.make (w : TableState) (cells : Row) : TableState :=
  { w with heap := w.heap.make cells }

/-- `table_rows.append(row)` -/
def TableState.append (w : TableState) (row : Ref) : TableState :=
  { w with tableRows := w.tableRows ++ [row] }

/-- `row.copy()`, what it copies -/
def TableState.cells (w : TableState) (row : Ref) : Row := (w.heap.get? row).getD default

/-- `row["count"] = bucket["doc_count"]` and `row[field] = bucket["key"]` -/
def enterBucket (field : String) (bucket : Json) (row : Ref) (w : TableState) :
    Except PyError TableState := do
  let docCount ← bucket.getItem "doc_count"
  let key ← bucket.getItem "key"
  return (w.setItem row "count" docCount).setItem row field key

/-- `aggs[field]["buckets"]`, as it is gone through -/
def bucketsOf (field : String) (aggs : Json) : Except PyError (List Json) := do
  (← (← aggs.getItem field).getItem "buckets").iterate

/-- One round of the loop of `_get_row`, which hands on the row that is written to; `inner` is
    the call for the fields that are left. -/
def rowRound (inner : Json → Ref → TableState → Except PyError TableState) (fields : List String)
    (field : String) (loop : Ref × TableState) (bucket : Json) :
    Except PyError (Ref × TableState) := do
  let (row, w) := loop
  let w ← enterBucket field bucket row w
  if fields.isEmpty then return (w.heap.next, (w.append row).make (w.cells row))
  else
    let w ← inner bucket w.heap.next (w.make (w.cells row))
    return (row, w)

/-- `_get_row` -/
def getRow : List String → Json → Ref → TableState → Except PyError TableState
  | [], _, _, _ => .error .indexError
  | field :: fields, aggs, row, w => do
      let buckets ← bucketsOf field aggs
      let loop ← buckets.foldlM (rowRound (getRow fields) fields field) (row, w)
      return loop.2

/-- One round of the loop of `_get_table_contents` -/
def tableRound (fields : List String) (field : String) (w : TableState) (bucket : Json) :
    Except PyError TableState := do
  let row := w.heap.next
  let w ← enterBucket field bucket row (w.make Table.empty)
  if fields.isEmpty then return w.append row else getRow fields bucket row w

/-- `_get_table_contents` -/
def getTableContents (queryPayload : Json) (fields : List String) (w : TableState) :
    Except PyError TableState := do
  let aggs ← queryPayload.getItem "aggregations"
  match fields with
  | [] => .error .indexError
  | field :: fields => do
      let buckets ← bucketsOf field aggs
      buckets.foldlM (tableRound fields field) w

/-! ## The answer -/

/-- An answer of the shape that is asked for: under every aggregation of the request a list of
    buckets, each with its key, its count and what is asked for within it -/
inductive Answers : Json → Json → Prop where
  | innermost {request answer : Json}
      (hnone : request.getItem "aggs" = .error (.keyError "aggs")) : Answers request answer
  | nested {request answer sub agg : Json} {field : String} {buckets : List Json}
      (hasked : request.getItem "aggs" = .ok (.obj [(field, sub)]))
      (hagg : answer.getItem field = .ok agg)
      (hbuckets : agg.getItem "buckets" = .ok (.arr buckets))
      (hkeys : ∀ bucket ∈ buckets, (∃ key, bucket.getItem "key" = .ok key) ∧
        ∃ count, bucket.getItem "doc_count" = .ok count)
      (hinner : ∀ bucket ∈ buckets, Answers sub bucket) : Answers request answer

/-- The value of a key that a bucket has -/
def valueOf (key : String) (bucket : Json) : Json := (bucket.getItem key).toOption.getD .null

/-- The innermost buckets in depth-first order, each with the keys of the buckets on its path -/
def innermostBuckets : List String → Json → List (List (String × Json) × Json)
  | [], bucket => [([], bucket)]
  | field :: fields, aggs =>
      ((bucketsOf field aggs).toOption.getD []).flatMap fun bucket =>
        (innermostBuckets fields bucket).map fun found =>
          ((field, valueOf "key" bucket) :: found.1, found.2)

/-- The row maps each field to its key on the path and `count` to the count, and nothing else. -/
def RowOf (path : List (String × Json)) (count : Json) (row : Row) : Prop :=
  ∀ name, row.get? name = if name = "count" then some count else path.lookup name

/-! ## What is asked for -/

/-- The aggregations of a request, and of an aggregation, for the fields that are left -/
def requested : List String → List (String × Json)
  | [] => []
  | field :: fields =>
      [("aggs", .obj [(field, .obj (("terms", .obj [("field", .str field), ("size", .num 100)]) ::
        requested fields))])]

section
variable {before : List (String × Json)} (hbefore : "aggs" ∉ before.map Prod.fst)
include hbefore

theorem lookup_aggs (value : Json) : (before ++ [("aggs", value)]).lookup "aggs" = some value := by
  have hnone : before.lookup "aggs" = none := by
    rw [List.lookup_eq_none_iff]
    intro entry hentry
    have hne : entry.1 ≠ "aggs" := fun h => hbefore (h ▸ List.mem_map_of_mem hentry)
    simpa using Ne.symm hne
  rw [List.lookup_append, hnone]
  rfl

theorem setItem_aggs_new (value : Json) :
    (Json.obj before).setItem "aggs" value = .ok (.obj (before ++ [("aggs", value)])) := by
  rw [Json.setItem, if_neg hbefore]

theorem setItem_aggs (value value' : Json) :
    (Json.obj (before ++ [("aggs", value)])).setItem "aggs" value' =
      .ok (.obj (before ++ [("aggs", value')])) := by
  have hkeep : before.map (fun entry => (entry.1, if entry.1 = "aggs" then value' else entry.2)) =
      before := by
    conv_rhs => rw [← List.map_id before]
    refine List.map_congr_left fun entry hentry => ?_
    have hne : entry.1 ≠ "aggs" := fun h => hbefore (h ▸ List.mem_map_of_mem hentry)
    rw [if_neg hne]
    rfl
  rw [Json.setItem, if_pos (by simp), List.map_append, hkeep]
  rfl

end

/-- The change of an inner aggregation is written back into the one around it. -/
theorem inAggsNested_cons {change : Json → Except PyError Json} {field : String}
    {fields : List String} {aggs inner sub changed inner' : Json}
    (haggs : aggs.getItem "aggs" = .ok inner) (hsub : inner.getItem field = .ok sub)
    (hchanged : inAggsNested change fields sub = .ok changed)
    (hinner : inner.setItem field changed = .ok inner') :
    inAggsNested change (field :: fields) aggs = aggs.setItem "aggs" inner' := by
  simp only [inAggsNested, haggs, hsub, hchanged, hinner, bind, Except.bind]

/-- One more field is asked for within the last one. -/
theorem inAggsNested_requested (field : String) (fields : List String)
    {before : List (String × Json)} (hbefore : "aggs" ∉ before.map Prod.fst) :
    inAggsNested (fun aggsRef => aggsRef.setItem "aggs" (termsOf field)) fields
        (.obj (before ++ requested fields)) =
      .ok (.obj (before ++ requested (fields ++ [field]))) := by
  induction fields generalizing before with
  | nil =>
      rw [inAggsNested, requested, List.append_nil, setItem_aggs_new hbefore]
      rfl
  | cons first fields ih =>
      have hterms : "aggs" ∉
          [("terms", Json.obj [("field", .str first), ("size", .num 100)])].map Prod.fst := by simp
      have hinner := ih hterms
      have haggs : (Json.obj (before ++ requested (first :: fields))).getItem "aggs" =
          .ok (.obj [(first, .obj (("terms", .obj [("field", .str first), ("size", .num 100)]) ::
            requested fields))]) := by
        rw [requested, Json.getItem, lookup_aggs hbefore]
      have hset : ∀ sub changed : Json,
          (Json.obj [(first, sub)]).setItem first changed = .ok (.obj [(first, changed)]) := by
        intro sub changed
        simp [Json.setItem]
      rw [inAggsNested_cons haggs (by simp [Json.getItem]) hinner (hset _ _)]
      exact setItem_aggs hbefore _ _

theorem foldlM_addAggs (fields rest done : List String) (h : fields = done ++ rest) :
    (rest.zipIdx done.length).foldlM (addAggs fields) (.obj (requested done)) =
      .ok (.obj (requested fields)) := by
  induction rest generalizing done with
  | nil =>
      rw [h, List.append_nil]
      rfl
  | cons field rest ih =>
      have hround : addAggs fields (.obj (requested done)) (field, done.length) =
          .ok (.obj (requested (done ++ [field]))) := by
        have htake : fields.take done.length = done := by rw [h, List.take_left]
        have hnot : "aggs" ∉ ([] : List (String × Json)).map Prod.fst := List.not_mem_nil
        have hnested := inAggsNested_requested field done hnot
        simp only [List.nil_append] at hnested
        simp only [addAggs, htake]
        split
        · -- the first field is asked for in the request itself
          rename_i hzero
          rw [List.length_eq_zero_iff.mp hzero] at hnested ⊢
          exact hnested
        · exact hnested
      rw [List.zipIdx_cons, List.foldlM_cons, hround]
      have hrest := ih (done ++ [field]) (by rw [h, List.append_assoc, List.singleton_append])
      rw [List.length_append, List.length_singleton] at hrest
      exact hrest

theorem constuctAggs_eq (fields : List String) :
    constuctAggs fields = .ok (.obj (requested fields)) :=
  foldlM_addAggs fields fields [] rfl

/-! ## What is answered -/

/-- There are buckets for every field, within the buckets of the field before it. -/
def Shaped : List String → Json → Prop
  | [], _ => True
  | field :: fields, aggs => ∃ buckets, bucketsOf field aggs = .ok buckets ∧
      ∀ bucket ∈ buckets, bucket.getItem "key" = .ok (valueOf "key" bucket) ∧
        bucket.getItem "doc_count" = .ok (valueOf "doc_count" bucket) ∧ Shaped fields bucket

theorem getItem_eq_valueOf {key : String} {bucket value : Json}
    (h : bucket.getItem key = .ok value) : bucket.getItem key = .ok (valueOf key bucket) := by
  rw [valueOf, h]
  rfl

theorem shaped_of_answers {fields : List String} {before : List (String × Json)}
    (hbefore : before.lookup "aggs" = none) {answer : Json}
    (h : Answers (.obj (before ++ requested fields)) answer) : Shaped fields answer := by
  induction fields generalizing before answer with
  | nil => trivial
  | cons field fields ih =>
      have hlookup : (before ++ requested (field :: fields)).lookup "aggs" = some (.obj [(field,
          .obj (("terms", .obj [("field", .str field), ("size", .num 100)]) ::
            requested fields))]) := by
        rw [List.lookup_append, hbefore]
        rfl
      cases h with
      | innermost hnone =>
          rw [Json.getItem, hlookup] at hnone
          cases hnone
      | @nested _ _ sub agg asked buckets hasked hagg hbuckets hkeys hinner =>
          rw [Json.getItem, hlookup] at hasked
          cases hasked
          refine ⟨buckets, ?_, fun bucket hbucket => ?_⟩
          · rw [bucketsOf, hagg]
            show (agg.getItem "buckets" >>= Json.iterate) = _
            rw [hbuckets]
            rfl
          · obtain ⟨⟨key, hkey⟩, count, hcount⟩ := hkeys bucket hbucket
            have hterms : [("terms", Json.obj [("field", .str field), ("size", .num 100)])].lookup
                "aggs" = none := rfl
            exact ⟨getItem_eq_valueOf hkey, getItem_eq_valueOf hcount,
              ih hterms (hinner bucket hbucket)⟩

end AlertsCtrlv2

end Tfplenum
