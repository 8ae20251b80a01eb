/-
  Tfplenum.Controller.AlertsTableRows

  The rows that are made of an answer: one for each innermost bucket, in order, with
  the keys of the buckets on its path and the count of the bucket, and no two of them
  the same object (`table_contents`).

  What a call may write to is the row it is handed and the rows it makes itself
  (`Appends`).  Every round of a loop enters its bucket into the row, then hands the
  row on and goes on with a copy, or hands a copy on and goes on with the row.
-/

import Tfplenum.Controller.AlertsQueries
import Tfplenum.Controller.AlertsTable

namespace Tfplenum.AlertsCtrlv2

open Lib

/-! ## What a call adds -/

/-- The row stands at `ref`. -/
def HasRow (w : TableState) (ref : Ref) (path : List (String × Json)) (bucket : Json) : Prop :=
  ∃ cells, w.heap.get? ref = some cells ∧ RowOf path (valueOf "doc_count" bucket) cells

/-- The rows of the buckets found are added to the table, in order; they are different objects,
    and no object from before is changed but for those of `owned`. -/
structure Appends (owned : List Ref) (found : List (List (String × Json) × Json))
    (refs : List Ref) (w w' : TableState) : Prop where
  keeps : w.heap.Keeps owned w'.heap
  tableRows : w'.tableRows = w.tableRows ++ refs
  nodup : refs.Nodup
  owned_or_new : ∀ ref ∈ refs, ref ∈ owned ∨ w.heap.size ≤ ref
  rows : List.Forall₂ (fun found ref => HasRow w' ref found.1 found.2) found refs

variable {owned owned' refs refs' : List Ref} {found found' : List (List (String × Json) × Json)}
  {w w' w'' : TableState} {row : Ref} {path : List (String × Json)} {field : String} {bucket : Json}

theorem HasRow.lt_size {ref : Ref} (h : HasRow w ref path bucket) : ref < w.heap.size := by
  obtain ⟨cells, hcells, -⟩ := h
  exact Heap.lt_size_of_get? hcells

theorem HasRow.of_keeps {ref : Ref} (h : HasRow w ref path bucket)
    (hkeeps : w.heap.Keeps owned w'.heap) (hnot : ref ∉ owned) : HasRow w' ref path bucket := by
  obtain ⟨cells, hcells, hrow⟩ := h
  exact ⟨cells, (hkeeps.get?_eq ref (Heap.lt_size_of_get? hcells) hnot).trans hcells, hrow⟩

theorem rows_of_keeps
    (hrows : List.Forall₂ (fun found ref => HasRow w ref found.1 found.2) found refs)
    (hkeeps : w.heap.Keeps owned w'.heap) (hnot : ∀ ref ∈ refs, ref ∉ owned) :
    List.Forall₂ (fun found ref => HasRow w' ref found.1 found.2) found refs := by
  induction hrows with
  | nil => exact .nil
  | cons hrow _ ih =>
      rw [List.forall_mem_cons] at hnot
      exact .cons (hrow.of_keeps hkeeps hnot.1) (ih hnot.2)

theorem Appends.lt_size (h : Appends owned found refs w w') : ∀ ref ∈ refs, ref < w'.heap.size := by
  intro ref href
  obtain ⟨i, hi, rfl⟩ := List.getElem_of_mem href
  exact (h.rows.get (h.rows.length_eq ▸ hi) hi).lt_size

/-- A part that adds nothing -/
theorem Appends.none (hkeeps : w.heap.Keeps owned w'.heap) (hrows : w'.tableRows = w.tableRows) :
    Appends owned [] [] w w' where
  keeps := hkeeps
  tableRows := by rw [hrows, List.append_nil]
  nodup := List.nodup_nil
  owned_or_new := fun _ h => absurd h List.not_mem_nil
  rows := .nil

/-- One part after the other: the second may write to what the first may write to or has made,
    but not to a row that the first has added. -/
theorem Appends.trans (h : Appends owned found refs w w') (h' : Appends owned' found' refs' w' w'')
    (howned : ∀ ref ∈ owned', (ref ∈ owned ∨ w.heap.size ≤ ref) ∧ ref ∉ refs) :
    Appends owned (found ++ found') (refs ++ refs') w w'' where
  keeps := h.keeps.trans h'.keeps fun ref href => (howned ref href).1
  tableRows := by rw [h'.tableRows, h.tableRows, List.append_assoc]
  nodup := by
    refine List.nodup_append.mpr ⟨h.nodup, h'.nodup, ?_⟩
    rintro ref href _ href' rfl
    rcases h'.owned_or_new ref href' with hmem | hnew
    · exact (howned ref hmem).2 href
    · exact absurd (h.lt_size ref href) (Nat.not_lt.mpr hnew)
  owned_or_new := by
    intro ref href
    rcases List.mem_append.mp href with href | href
    · exact h.owned_or_new ref href
    · rcases h'.owned_or_new ref href with hmem | hnew
      · exact (howned ref hmem).1
      · exact .inr (Nat.le_trans h.keeps.size_le hnew)
  rows := by
    refine List.rel_append ?_ h'.rows
    exact rows_of_keeps h.rows h'.keeps fun ref href hmem => (howned ref hmem).2 href

/-! ## A row and its bucket -/

/-- What the row holds before the bucket of a field is entered: the keys of the path, and in the
    field and the count what an earlier bucket of the field may have left there -/
def Begun (path : List (String × Json)) (field : String) (cells : Row) : Prop :=
  ∀ name, name ≠ "count" → name ≠ field → cells.get? name = path.lookup name

/-- The cells of a row, with the bucket of a field entered -/
def entered (field : String) (bucket : Json) (cells : Row) : Row :=
  (cells.upsert "count" (valueOf "doc_count" bucket)).upsert field (valueOf "key" bucket)

theorem lookup_singleton_of_ne {name : String} {value : Json} (h : name ≠ field) :
    [(field, value)].lookup name = none := by
  rw [List.lookup_cons, beq_eq_false_iff_ne.mpr h]
  rfl

theorem rowOf_entered {cells : Row} (hbegun : Begun path field cells) (hcount : field ≠ "count")
    (hnew : path.lookup field = none) :
    RowOf (path ++ [(field, valueOf "key" bucket)]) (valueOf "doc_count" bucket)
      (entered field bucket cells) := by
  intro name
  rw [entered, Table.get?_upsert, Table.get?_upsert, List.lookup_append]
  by_cases hname : name = field
  · subst hname
    simp [hcount, hnew]
  · rw [if_neg hname, lookup_singleton_of_ne hname, Option.or_none]
    by_cases hcount' : name = "count"
    · rw [if_pos hcount', if_pos hcount']
    · rw [if_neg hcount', if_neg hcount', hbegun name hcount' hname]

/-- A row with a bucket of a field entered may take the next bucket of the field, -/
theorem begun_of_rowOf {cells : Row} {count key : Json}
    (h : RowOf (path ++ [(field, key)]) count cells) : Begun path field cells := by
  intro name hcount hname
  rw [h name, if_neg hcount, List.lookup_append, lookup_singleton_of_ne hname, Option.or_none]

/-- and a bucket of a field within it. -/
theorem begun_next_of_rowOf {next : String} {cells : Row} {count : Json}
    (h : RowOf path count cells) : Begun path next cells := by
  intro name hcount _
  rw [h name, if_neg hcount]

theorem enterBucket_eq (hkey : bucket.getItem "key" = .ok (valueOf "key" bucket))
    (hcount : bucket.getItem "doc_count" = .ok (valueOf "doc_count" bucket)) :
    enterBucket field bucket row w =
      .ok ((w.setItem row "count" (valueOf "doc_count" bucket)).setItem row field
        (valueOf "key" bucket)) := by
  rw [enterBucket, hkey, hcount]
  rfl

/-- The bucket is entered into the row, and nothing else is changed. -/
theorem exists_enterBucket {cells : Row} (hcells : w.heap.get? row = some cells)
    (hbegun : Begun path field cells) (hfield : field ≠ "count") (hnew : path.lookup field = none)
    (hkey : bucket.getItem "key" = .ok (valueOf "key" bucket))
    (hcount : bucket.getItem "doc_count" = .ok (valueOf "doc_count" bucket)) :
    ∃ w', enterBucket field bucket row w = .ok w' ∧ w.heap.Keeps [row] w'.heap ∧
      w'.heap.size = w.heap.size ∧ w'.tableRows = w.tableRows ∧
        HasRow w' row (path ++ [(field, valueOf "key" bucket)]) bucket := by
  refine ⟨_, enterBucket_eq hkey hcount, ?_, ?_, rfl, entered field bucket cells, ?_, ?_⟩
  · refine (Heap.keeps_modify w.heap row _).trans (Heap.keeps_modify _ row _) ?_
    exact fun ref href => .inl href
  · simp [TableState.setItem]
  · simp [TableState.setItem, hcells, entered]
  · exact rowOf_entered hbegun hfield hnew

/-! ## The rounds -/

/-- The rows of a bucket of a field, below a path -/
def rowsWithin (path : List (String × Json)) (field : String) (fields : List String)
    (bucket : Json) : List (List (String × Json) × Json) :=
  (innermostBuckets fields bucket).map fun found =>
    (path ++ (field, valueOf "key" bucket) :: found.1, found.2)

/-- What a call of `_get_row` for the fields does with a row -/
def AddsRows (fields : List String) (call : Json → Ref → TableState → Except PyError TableState)
    (path : List (String × Json)) (bucket : Json) : Prop :=
  ∀ row w cells, w.heap.get? row = some cells → (∀ field ∈ fields.head?, Begun path field cells) →
    ∃ w' refs, call bucket row w = .ok w' ∧
      Appends [row] ((innermostBuckets fields bucket).map fun found => (path ++ found.1, found.2))
        refs w w'

/-- One round of the loop of `_get_row`: the row that is handed on is not in the table. -/
theorem appends_round {inner : Json → Ref → TableState → Except PyError TableState}
    {fields : List String} {cells : Row}
    (hinner : fields ≠ [] →
      AddsRows fields inner (path ++ [(field, valueOf "key" bucket)]) bucket)
    (hcells : w.heap.get? row = some cells)
    (hbegun : Begun path field cells) (hfield : field ≠ "count") (hnew : path.lookup field = none)
    (hkey : bucket.getItem "key" = .ok (valueOf "key" bucket))
    (hcount : bucket.getItem "doc_count" = .ok (valueOf "doc_count" bucket)) :
    ∃ row' w' refs cells', rowRound inner fields field (row, w) bucket = .ok (row', w') ∧
      Appends [row] (rowsWithin path field fields bucket) refs w w' ∧
      w'.heap.get? row' = some cells' ∧ Begun path field cells' ∧
      (row' = row ∨ w.heap.size ≤ row') ∧ row' ∉ refs := by
  obtain ⟨w₁, hw₁, hkeeps, hsize, hrows, cells₁, hcells₁, hrow₁⟩ :=
    exists_enterBucket hcells hbegun hfield hnew hkey hcount
  have hlt : row < w.heap.size := Heap.lt_size_of_get? hcells
  have hcopy : w₁.cells row = cells₁ := by rw [TableState.cells, hcells₁, Option.getD_some]
  -- what comes after the bucket is entered begins with a copy of the row
  have hmade : w.heap.Keeps [row] (w₁.heap.make cells₁) :=
    hkeeps.trans (Heap.keeps_make [] w₁.heap cells₁) fun _ h => absurd h List.not_mem_nil
  cases fields with
  | nil =>
      -- the row goes into the table, and the copy is handed on
      refine ⟨w₁.heap.next, (w₁.append row).make cells₁, [row], cells₁, ?_, ⟨hmade, ?_, ?_, ?_, ?_⟩,
        Heap.get?_make_next _ _, begun_of_rowOf hrow₁, .inr ?_, ?_⟩
      · rw [rowRound, hw₁, ← hcopy]
        rfl
      · simp [TableState.make, TableState.append, hrows]
      · exact List.nodup_singleton row
      · exact fun ref href => .inl href
      · refine .cons ⟨cells₁, ?_, ?_⟩ .nil
        · exact (Heap.get?_make_of_lt _ (hsize ▸ hlt)).trans hcells₁
        · simpa using hrow₁
      · exact Nat.le_of_eq hsize.symm
      · rw [List.mem_singleton, Heap.next, hsize]
        exact (Nat.ne_of_lt hlt).symm
  | cons next fields =>
      -- the row is kept, and the copy is handed to the call
      obtain ⟨w₂, refs, hw₂, happends⟩ := hinner (List.cons_ne_nil _ _) w₁.heap.next
        (w₁.make cells₁) cells₁ (Heap.get?_make_next _ _) (by
          rintro _ ⟨rfl⟩
          exact begun_next_of_rowOf hrow₁)
      have hnext : row ≠ w₁.heap.next := by
        rw [Heap.next, hsize]
        exact Nat.ne_of_lt hlt
      have hsizes : w.heap.size ≤ (w₁.make cells₁).heap.size := hmade.size_le
      have hwhole : Appends [row] (rowsWithin path field (next :: fields) bucket) refs w w₂ := by
        have hnone : Appends [row] [] [] w (w₁.make cells₁) := .none hmade hrows
        have h := hnone.trans happends fun ref href => by
          rw [List.mem_singleton.mp href]
          exact ⟨.inr (Nat.le_of_eq hsize.symm), List.not_mem_nil⟩
        simpa [rowsWithin] using h
      refine ⟨row, w₂, refs, cells₁, ?_, hwhole, ?_, begun_of_rowOf hrow₁, .inl rfl, ?_⟩
      · rw [← hcopy] at hw₂
        rw [rowRound, hw₁]
        show (inner bucket _ _ >>= _) = _
        rw [hw₂]
        rfl
      · rw [happends.keeps.get?_eq row (Nat.lt_of_lt_of_le hlt hsizes) (by simpa using hnext)]
        exact (Heap.get?_make_of_lt _ (hsize ▸ hlt)).trans hcells₁
      · intro href
        rcases happends.owned_or_new row href with hmem | hnewer
        · exact hnext (List.mem_singleton.mp hmem)
        · exact absurd (Nat.lt_of_lt_of_le hlt hsizes) (Nat.not_lt.mpr hnewer)

/-- The loop of `_get_row` -/
theorem appends_rounds {inner : Json → Ref → TableState → Except PyError TableState}
    {fields : List String} {buckets : List Json}
    (hinner : fields ≠ [] → ∀ bucket ∈ buckets,
      AddsRows fields inner (path ++ [(field, valueOf "key" bucket)]) bucket)
    (hfield : field ≠ "count") (hnew : path.lookup field = none)
    (hkeys : ∀ bucket ∈ buckets, bucket.getItem "key" = .ok (valueOf "key" bucket) ∧
      bucket.getItem "doc_count" = .ok (valueOf "doc_count" bucket)) {cells : Row}
    (hcells : w.heap.get? row = some cells) (hbegun : Begun path field cells) :
    ∃ row' w' refs, buckets.foldlM (rowRound inner fields field) (row, w) = .ok (row', w') ∧
      Appends [row] (buckets.flatMap (rowsWithin path field fields)) refs w w' := by
  induction buckets generalizing row w cells with
  | nil => exact ⟨row, w, [], rfl, .none (.refl _ _) rfl⟩
  | cons bucket buckets ih =>
      rw [List.forall_mem_cons] at hkeys
      obtain ⟨row₁, w₁, refs₁, cells₁, hround, hfirst, hcells₁, hbegun₁, howned, hnot⟩ :=
        appends_round (fun h => hinner h bucket List.mem_cons_self) hcells hbegun hfield hnew
          hkeys.1.1 hkeys.1.2
      obtain ⟨row₂, w₂, refs₂, hrounds, hrest⟩ := ih
        (fun h b hb => hinner h b (List.mem_cons_of_mem _ hb)) hkeys.2 hcells₁ hbegun₁
      refine ⟨row₂, w₂, refs₁ ++ refs₂, ?_, ?_⟩
      · rw [List.foldlM_cons, hround]
        exact hrounds
      · rw [List.flatMap_cons]
        refine hfirst.trans hrest fun ref href => ?_
        rw [List.mem_singleton.mp href]
        exact ⟨howned.imp_left fun h => List.mem_singleton.mpr h, hnot⟩

/-! ## The calls -/

/-- The fields that are left are different, none of them is `count`, and none is on the path. -/
structure FreshFields (fields : List String) (path : List (String × Json)) : Prop where
  nodup : fields.Nodup
  notCount : "count" ∉ fields
  lookup : ∀ field ∈ fields, path.lookup field = none

theorem FreshFields.tail {fields : List String} (h : FreshFields (field :: fields) path)
    (key : Json) : FreshFields fields (path ++ [(field, key)]) := by
  obtain ⟨hhead, hnodup⟩ := List.nodup_cons.mp h.nodup
  refine ⟨hnodup, fun hmem => h.notCount (List.mem_cons_of_mem _ hmem), fun other hother => ?_⟩
  have hne : other ≠ field := by
    rintro rfl
    exact hhead hother
  rw [List.lookup_append, h.lookup other (List.mem_cons_of_mem _ hother),
    lookup_singleton_of_ne hne]
  rfl

/-- `_get_row` adds a row for each innermost bucket. -/
theorem addsRows_getRow (fields : List String) {aggs : Json} (hne : fields ≠ [])
    (hfresh : FreshFields fields path) (hshaped : Shaped fields aggs) :
    AddsRows fields (getRow fields) path aggs := by
  induction fields generalizing path aggs with
  | nil => exact absurd rfl hne
  | cons field fields ih =>
      intro row w cells hcells hbegun
      obtain ⟨buckets, hbuckets, hshape⟩ := hshaped
      have hfield : field ≠ "count" := fun h => hfresh.notCount (h ▸ List.mem_cons_self)
      obtain ⟨row', w', refs, hloop, happends⟩ := appends_rounds
        (fun hne bucket hbucket => ih hne (hfresh.tail _) (hshape bucket hbucket).2.2)
        hfield (hfresh.lookup field List.mem_cons_self)
        (fun bucket hbucket => ⟨(hshape bucket hbucket).1, (hshape bucket hbucket).2.1⟩)
        hcells (hbegun field rfl)
      refine ⟨w', refs, ?_, ?_⟩
      · rw [getRow, hbuckets]
        show (buckets.foldlM (rowRound (getRow fields) fields field) (row, w) >>= _) = _
        rw [hloop]
        rfl
      · have hrows : (innermostBuckets (field :: fields) aggs).map
            (fun found => (path ++ found.1, found.2)) =
              buckets.flatMap (rowsWithin path field fields) := by
          rw [innermostBuckets, hbuckets, List.map_flatMap]
          refine List.flatMap_congr fun bucket _ => ?_
          rw [rowsWithin, List.map_map]
          rfl
        rw [hrows]
        exact happends

/-- One round of the loop of `_get_table_contents` writes to rows of its own. -/
theorem appends_tableRound {fields : List String} (hfresh : FreshFields (field :: fields) [])
    (hkey : bucket.getItem "key" = .ok (valueOf "key" bucket))
    (hcount : bucket.getItem "doc_count" = .ok (valueOf "doc_count" bucket))
    (hshaped : Shaped fields bucket) :
    ∃ w' refs, tableRound fields field w bucket = .ok w' ∧
      Appends [] (rowsWithin [] field fields bucket) refs w w' := by
  have hfield : field ≠ "count" := fun h => hfresh.notCount (h ▸ List.mem_cons_self)
  have hempty : (w.make Table.empty).heap.get? w.heap.next = some Table.empty :=
    Heap.get?_make_next _ _
  have hbegun : Begun [] field Table.empty := fun _ _ _ => rfl
  obtain ⟨w₁, hw₁, hkeeps, hsize, hrows, hrow⟩ := exists_enterBucket hempty hbegun hfield rfl
    hkey hcount
  -- the row did not exist before, so that none of the rows from before is written to
  have hmade : w.heap.Keeps [] w₁.heap :=
    (Heap.keeps_make [] w.heap Table.empty).trans hkeeps fun ref href =>
      .inr (Nat.le_of_eq (List.mem_singleton.mp href).symm)
  cases fields with
  | nil =>
      refine ⟨w₁.append w.heap.next, [w.heap.next], ?_, hmade, ?_, List.nodup_singleton _,
        fun ref href => .inr (Nat.le_of_eq (List.mem_singleton.mp href).symm), .cons hrow .nil⟩
      · rw [tableRound, hw₁]
        rfl
      · simp [TableState.append, hrows, TableState.make]
  | cons next fields =>
      obtain ⟨cells, hcells, hrowOf⟩ := hrow
      obtain ⟨w₂, refs, hw₂, happends⟩ := addsRows_getRow (next :: fields) (List.cons_ne_nil _ _)
        (hfresh.tail (valueOf "key" bucket)) hshaped w.heap.next w₁ cells hcells
        (fun _ _ => begun_next_of_rowOf hrowOf)
      refine ⟨w₂, refs, ?_, ?_⟩
      · rw [tableRound, hw₁]
        exact hw₂
      · have hnone : Appends [] [] [] w w₁ := .none hmade hrows
        have h := hnone.trans happends fun ref href => by
          rw [List.mem_singleton.mp href]
          exact ⟨.inr (Nat.le_refl _), List.not_mem_nil⟩
        simpa [rowsWithin] using h

theorem appends_tableRounds {fields : List String} {buckets : List Json}
    (hfresh : FreshFields (field :: fields) [])
    (hshape : ∀ bucket ∈ buckets, bucket.getItem "key" = .ok (valueOf "key" bucket) ∧
      bucket.getItem "doc_count" = .ok (valueOf "doc_count" bucket) ∧ Shaped fields bucket) :
    ∃ w' refs, buckets.foldlM (tableRound fields field) w = .ok w' ∧
      Appends [] (buckets.flatMap (rowsWithin [] field fields)) refs w w' := by
  induction buckets generalizing w with
  | nil => exact ⟨w, [], rfl, .none (.refl _ _) rfl⟩
  | cons bucket buckets ih =>
      rw [List.forall_mem_cons] at hshape
      obtain ⟨⟨hkey, hcount, hshaped⟩, hrest⟩ := hshape
      obtain ⟨w₁, refs₁, hround, hfirst⟩ := appends_tableRound hfresh hkey hcount hshaped
      obtain ⟨w₂, refs₂, hrounds, hlater⟩ := ih (w := w₁) hrest
      refine ⟨w₂, refs₁ ++ refs₂, ?_, ?_⟩
      · rw [List.foldlM_cons, hround]
        exact hrounds
      · rw [List.flatMap_cons]
        exact hfirst.trans hlater fun ref href => absurd href List.not_mem_nil

/-- `_get_table_contents` adds a row for each innermost bucket. -/
theorem appends_getTableContents {fields : List String} {queryPayload aggs : Json}
    (hne : fields ≠ []) (hfresh : FreshFields fields []) (hshaped : Shaped fields aggs)
    (hpayload : queryPayload.getItem "aggregations" = .ok aggs) :
    ∃ w' refs, getTableContents queryPayload fields w = .ok w' ∧
      Appends [] (innermostBuckets fields aggs) refs w w' := by
  cases fields with
  | nil => exact absurd rfl hne
  | cons field fields =>
      obtain ⟨buckets, hbuckets, hshape⟩ := hshaped
      obtain ⟨w', refs, hloop, happends⟩ := appends_tableRounds (w := w) hfresh hshape
      refine ⟨w', refs, ?_, ?_⟩
      · rw [getTableContents, hpayload]
        show (bucketsOf field aggs >>= fun buckets =>
          buckets.foldlM (tableRound fields field) w) = _
        rw [hbuckets]
        exact hloop
      · rw [innermostBuckets, hbuckets]
        exact happends

/-- An answer of the shape asked for is made into one row for each innermost bucket, in
    depth-first order; the rows are new objects, and no two of them are the same. -/
theorem table_contents {fields : List String} {queryPayload aggs request : Json}
    (hne : fields ≠ []) (hnodup : fields.Nodup) (hcount : "count" ∉ fields)
    (hrequest : constuctAggs fields = .ok request)
    (hpayload : queryPayload.getItem "aggregations" = .ok aggs) (hanswer : Answers request aggs)
    (w : TableState) :
    ∃ w' refs, getTableContents queryPayload fields w = .ok w' ∧
      w'.tableRows = w.tableRows ++ refs ∧
      List.Forall₂ (fun found ref => HasRow w' ref found.1 found.2)
        (innermostBuckets fields aggs) refs ∧
      (∀ ref ∈ refs, w.heap.size ≤ ref) ∧ w.heap.Keeps [] w'.heap ∧
      refs.Pairwise fun ref ref' => ∀ change, (w'.heap.modify ref change).get? ref' =
        w'.heap.get? ref' ∧ (w'.heap.modify ref' change).get? ref = w'.heap.get? ref := by
  have hshaped : Shaped fields aggs := by
    rw [constuctAggs_eq] at hrequest
    cases hrequest
    have hnone : ([] : List (String × Json)).lookup "aggs" = none := rfl
    exact shaped_of_answers hnone hanswer
  obtain ⟨w', refs, hcontents, happends⟩ :=
    appends_getTableContents (w := w) hne ⟨hnodup, hcount, fun _ _ => rfl⟩ hshaped hpayload
  exact ⟨w', refs, hcontents, happends.tableRows, happends.rows,
    fun ref href => (happends.owned_or_new ref href).resolve_left List.not_mem_nil,
    happends.keeps, Heap.independent_of_nodup happends.nodup⟩

/-! ## The rows of aggregated documents -/

section Aggregated

variable {Doc : Type} {keysOf : String → Doc → List Cell} {shown : String → List Doc → List Cell}

def cellJson : Cell → Json
  | .text s => .str s
  | .number n => .num n
  | .flag b => .bool b

/-- The answer to nested aggregations, as Elasticsearch sends it -/
def answerFields : List String → Buckets Cell Doc → List (String × Json)
  | field :: fields, .node keys docs inner =>
      [(field, .obj [("buckets", .arr (keys.map fun key =>
        .obj (("key", cellJson key) :: ("doc_count", .num (docs key).length) ::
          answerFields fields (inner key))))])]
  | _, _ => []

/-- The bucket of a key, with what is asked for within it -/
def bucketOf (keysOf : String → Doc → List Cell) (shown : String → List Doc → List Cell)
    (field : String) (fields : List String) (docs : List Doc) (key : Cell) : Json :=
  .obj ([("key", cellJson key),
      ("doc_count", .num (bucketDocs keysOf [(field, key)] docs).length)] ++
    answerFields fields (aggregate keysOf shown fields (bucketDocs keysOf [(field, key)] docs)))

theorem bucketsOf_answerFields {field : String} {fields : List String} {docs : List Doc}
    {before : List (String × Json)} (hbefore : before.lookup field = none) :
    bucketsOf field (.obj (before ++
        answerFields (field :: fields) (aggregate keysOf shown (field :: fields) docs))) =
      .ok ((shown field docs).map (bucketOf keysOf shown field fields docs)) := by
  rw [bucketsOf, Json.getItem, List.lookup_append, hbefore, aggregate, answerFields, Option.none_or,
    List.lookup_cons_self]
  rfl

/-- No field is called as what a bucket has beside its fields. -/
structure PlainFields (fields : List String) : Prop where
  key : "key" ∉ fields
  docCount : "doc_count" ∉ fields

theorem PlainFields.tail {fields : List String} (h : PlainFields (field :: fields)) :
    PlainFields fields :=
  ⟨fun hmem => h.key (List.mem_cons_of_mem _ hmem),
    fun hmem => h.docCount (List.mem_cons_of_mem _ hmem)⟩

theorem PlainFields.lookup {fields : List String} (h : PlainFields fields) (key count : Json) :
    ∀ field ∈ fields, [("key", key), ("doc_count", count)].lookup field = none := by
  intro field hmem
  have hkey : field ≠ "key" := fun heq => h.key (heq ▸ hmem)
  have hcount : field ≠ "doc_count" := fun heq => h.docCount (heq ▸ hmem)
  rw [List.lookup_cons, beq_eq_false_iff_ne.mpr hkey]
  exact lookup_singleton_of_ne hcount

theorem shaped_answerFields {fields : List String} (hplain : PlainFields fields) {docs : List Doc}
    {before : List (String × Json)} (hbefore : ∀ field ∈ fields, before.lookup field = none) :
    Shaped fields (.obj (before ++ answerFields fields (aggregate keysOf shown fields docs))) := by
  induction fields generalizing docs before with
  | nil => trivial
  | cons field fields ih =>
      refine ⟨_, bucketsOf_answerFields (hbefore field List.mem_cons_self), ?_⟩
      rw [List.forall_mem_map]
      intro key _
      exact ⟨rfl, rfl, ih hplain.tail (hplain.tail.lookup _ _)⟩

/-- The cells of the row are the keys of the path and the count of its documents. -/
def CellsOf (path : List (String × Json)) (row : TableRow Doc) : Prop :=
  ∀ name, (row.cells.get? name).map cellJson =
    if name = "count" then some (.num row.docs.length) else path.lookup name

theorem cellsOf_enter {row : TableRow Doc} {docs : List Doc}
    (hrow : ∀ name, name ≠ "count" → (row.cells.get? name).map cellJson = path.lookup name)
    (key : Cell) (hcount : field ≠ "count") (hnew : path.lookup field = none) :
    CellsOf (path ++ [(field, cellJson key)]) (row.enter field key docs) := by
  intro name
  rw [TableRow.enter, Table.get?_upsert, Table.get?_upsert, List.lookup_append]
  by_cases hname : name = field
  · subst hname
    simp [hcount, hnew]
  · rw [if_neg hname, lookup_singleton_of_ne hname, Option.or_none]
    by_cases hcount' : name = "count"
    · rw [if_pos hcount', if_pos hcount']
      rfl
    · rw [if_neg hcount', if_neg hcount', hrow name hcount']

/-- The innermost buckets of the answer are those that the rows are from, in order. -/
theorem forall₂_getRow {fields : List String} (hne : fields ≠ []) (hplain : PlainFields fields)
    (hfresh : FreshFields fields path) (docs : List Doc) {before : List (String × Json)}
    (hbefore : ∀ field ∈ fields, before.lookup field = none) {row : TableRow Doc}
    (hrow : ∀ name, name ≠ "count" → (row.cells.get? name).map cellJson = path.lookup name) :
    List.Forall₂ (fun found row => valueOf "doc_count" found.2 = .num row.docs.length ∧
        CellsOf (path ++ found.1) row)
      (innermostBuckets fields
        (.obj (before ++ answerFields fields (aggregate keysOf shown fields docs))))
      (Tfplenum.getRow fields (aggregate keysOf shown fields docs) row) := by
  induction fields generalizing path docs before row with
  | nil => exact absurd rfl hne
  | cons field fields ih =>
      have hcount : field ≠ "count" := fun h => hfresh.notCount (h ▸ List.mem_cons_self)
      have hnew := hfresh.lookup field List.mem_cons_self
      rw [innermostBuckets, bucketsOf_answerFields (hbefore field List.mem_cons_self), aggregate,
        Tfplenum.getRow]
      show List.Forall₂ _ (((shown field docs).map _).flatMap _) _
      rw [List.flatMap_map]
      induction shown field docs with
      | nil => exact .nil
      | cons key keys ihkeys =>
          rw [List.flatMap_cons, List.flatMap_cons]
          refine List.rel_append ?_ ihkeys
          have hentered : CellsOf (path ++ [(field, cellJson key)])
              (row.enter field key (bucketDocs keysOf [(field, key)] docs)) :=
            cellsOf_enter hrow key hcount hnew
          rw [List.forall₂_map_left_iff]
          cases fields with
          | nil => exact .cons ⟨rfl, hentered⟩ .nil
          | cons next fields =>
              have hcells : ∀ name, name ≠ "count" →
                  ((row.enter field key (bucketDocs keysOf [(field, key)] docs)).cells.get?
                    name).map cellJson = (path ++ [(field, cellJson key)]).lookup name :=
                fun name hname => by rw [hentered name, if_neg hname]
              have hinner := ih (List.cons_ne_nil _ _) hplain.tail (hfresh.tail (cellJson key))
                (bucketDocs keysOf [(field, key)] docs) (hplain.tail.lookup (cellJson key)
                  (.num (bucketDocs keysOf [(field, key)] docs).length)) hcells
              refine hinner.imp ?_
              rintro found row ⟨hdocs, hcells⟩
              rw [List.append_assoc] at hcells
              exact ⟨hdocs, hcells⟩

theorem forall₂_of_forall₂ {α β γ : Type} {R : α → β → Prop} {S : α → γ → Prop}
    {T : β → γ → Prop} {found : List α} {rows : List β} {refs : List γ}
    (hstep : ∀ found row ref, R found row → S found ref → T row ref)
    (hrows : List.Forall₂ R found rows) (hrefs : List.Forall₂ S found refs) :
    List.Forall₂ T rows refs := by
  induction hrows generalizing refs with
  | nil =>
      cases hrefs
      exact .nil
  | cons hrow _ ih =>
      obtain _ | ⟨href, hrefs⟩ := hrefs
      exact .cons (hstep _ _ _ hrow href) (ih hrefs)

/-- The rows that are made of the answer have the cells of those of `AlertsQueries`, in the same
    order. -/
theorem getTableContents_aggregate {fields : List String} (hne : fields ≠ [])
    (hplain : PlainFields fields) (hfresh : FreshFields fields []) (docs : List Doc) (kind : String)
    (w : TableState) :
    ∃ w' refs, getTableContents (.obj [("aggregations",
          .obj (answerFields fields (aggregate keysOf shown fields docs)))]) fields w = .ok w' ∧
      w'.tableRows = w.tableRows ++ refs ∧
      List.Forall₂ (fun (row : TableRow Doc) ref => ∃ cells, w'.heap.get? ref = some cells ∧
          ∀ name, cells.get? name = (row.cells.get? name).map cellJson)
        (Tfplenum.getRow fields (aggregate keysOf shown fields docs) ⟨.empty, kind, [], docs⟩)
        refs := by
  have hnone : ∀ field ∈ fields, ([] : List (String × Json)).lookup field = none := fun _ _ => rfl
  have hshaped : Shaped fields (.obj (answerFields fields (aggregate keysOf shown fields docs))) :=
    shaped_answerFields hplain hnone
  have hanswered : (Json.obj [("aggregations",
      .obj (answerFields fields (aggregate keysOf shown fields docs)))]).getItem "aggregations" =
      .ok (.obj (answerFields fields (aggregate keysOf shown fields docs))) := rfl
  obtain ⟨w', refs, hcontents, happends⟩ :=
    appends_getTableContents (w := w) hne hfresh hshaped hanswered
  refine ⟨w', refs, hcontents, happends.tableRows,
    forall₂_of_forall₂ (fun found row ref hfound hstored => ?_)
      (forall₂_getRow hne hplain hfresh docs hnone fun _ _ => rfl) happends.rows⟩
  obtain ⟨hdocs, hcells⟩ := hfound
  obtain ⟨cells, hget, hrow⟩ := hstored
  refine ⟨cells, hget, fun name => ?_⟩
  rw [hrow name, hcells name, hdocs]
  rfl

end Aggregated

/-! ## An answer with two levels -/

def bucketJson (key : String) (docCount : Int) (inner : List (String × Json)) : Json :=
  .obj (("key", .str key) :: ("doc_count", .num docCount) :: inner)

def aggJson (field : String) (buckets : List Json) : String × Json :=
  (field, .obj [("buckets", .arr buckets)])

/-- Two kinds, one of which was seen on two hosts and the other on none -/
def twoLevels : Json :=
  .obj [aggJson "event.kind"
    [bucketJson "alert" 3 [aggJson "host.name" [bucketJson "a" 2 [], bucketJson "b" 1 []]],
      bucketJson "signal" 1 [aggJson "host.name" []]]]

theorem bucketJson_keys (key : String) (docCount : Int) (inner : List (String × Json)) :
    (∃ value, (bucketJson key docCount inner).getItem "key" = .ok value) ∧
      ∃ value, (bucketJson key docCount inner).getItem "doc_count" = .ok value :=
  ⟨⟨_, rfl⟩, _, rfl⟩

theorem answers_hosts (key : String) (docCount : Int) {buckets : List Json}
    (h : ∀ bucket ∈ buckets, ∃ key docCount, bucket = bucketJson key docCount []) :
    Answers (.obj (("terms", .obj [("field", .str "event.kind"), ("size", .num 100)]) ::
      requested ["host.name"])) (bucketJson key docCount [aggJson "host.name" buckets]) := by
  refine .nested rfl rfl rfl (fun bucket hbucket => ?_) fun bucket hbucket => ?_
  · obtain ⟨key, docCount, rfl⟩ := h bucket hbucket
    exact bucketJson_keys key docCount []
  · exact .innermost rfl

theorem answers_twoLevels :
    Answers (.obj (requested ["event.kind", "host.name"])) twoLevels := by
  refine .nested rfl rfl rfl ?_ ?_
  · exact List.forall_mem_cons.mpr ⟨bucketJson_keys _ _ _,
      List.forall_mem_singleton.mpr (bucketJson_keys _ _ _)⟩
  · refine List.forall_mem_cons.mpr ⟨answers_hosts _ _ ?_,
      List.forall_mem_singleton.mpr (answers_hosts _ _ (List.forall_mem_nil _))⟩
    exact List.forall_mem_cons.mpr ⟨⟨_, _, rfl⟩, List.forall_mem_singleton.mpr ⟨_, _, rfl⟩⟩

theorem table_contents_twoLevels :
    ∃ w' refs, getTableContents (.obj [("aggregations", twoLevels)])
        ["event.kind", "host.name"] ⟨.empty, []⟩ = .ok w' ∧
      w'.tableRows = [] ++ refs ∧
      List.Forall₂ (fun found ref => HasRow w' ref found.1 found.2)
        (innermostBuckets ["event.kind", "host.name"] twoLevels) refs ∧
      (∀ ref ∈ refs, Heap.empty.size (α := Row) ≤ ref) ∧ Heap.empty.Keeps [] w'.heap ∧
      refs.Pairwise fun ref ref' => ∀ change, (w'.heap.modify ref change).get? ref' =
        w'.heap.get? ref' ∧ (w'.heap.modify ref' change).get? ref = w'.heap.get? ref :=
  table_contents (by simp) (by decide) (by decide) (constuctAggs_eq _) rfl answers_twoLevels
    ⟨.empty, []⟩

end Tfplenum.AlertsCtrlv2
