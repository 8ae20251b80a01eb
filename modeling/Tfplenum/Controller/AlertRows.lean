/-
  Tfplenum.Controller.AlertRows

  When the requests of a row select the documents that the row counts.  Every row is from
  a bucket of the query for its kind; a request selects by the cells of the row, which are
  the keys of the bucket but for what the two sides add and lose.
-/

import Mathlib.Data.List.Dedup
import Tfplenum.Controller.AlertsQueries

namespace Tfplenum

open Lib

section Rows

variable {Doc : Type} (es : Elastic Doc) (form : AlertForm)

/-- The query for the table. -/
def tableQuery (searchKind : Cell) : Query :=
  queryClause (yesNo form.acknowledged) (yesNo form.escalated) form.startDatetime form.endDatetime
    searchKind [] (yesNo form.showClosed)

/-- The query for a row, asked of a kind. -/
def askedQuery (kind : String) (asked : List (String × Cell)) (showClosed : Bool) : Query :=
  queryClause (yesNo form.acknowledged) (yesNo form.escalated) form.startDatetime form.endDatetime
    (.text kind) (asked.map fun p => .matching p.1 p.2) (yesNo showClosed)

/-- The documents of the table. -/
def tableDocs (kind : String) : List Doc :=
  es.selected (indexOf (.text kind)) (tableQuery form (.text kind))

/-- The key of the row in a field, the innermost if there are several. -/
def TableRow.keyOf (row : TableRow Doc) (field : String) : Option Cell :=
  row.path.reverse.lookup field

/-- The cell of the row under a name. -/
def TableRow.cellOf (row : TableRow Doc) (name : String) : Option Cell :=
  if name = "signal.rule.name" then none
  else if name = "rule.name" then (row.keyOf "signal.rule.name").or (row.keyOf "rule.name")
  else if name = "event.kind" then some ((row.keyOf "event.kind").getD (.text row.kind))
  else row.keyOf name

/-- The row is that of a bucket in an answer. -/
structure FromBucket (row : TableRow Doc) : Prop where
  kind : row.kind = "alert" ∨ row.kind = "signal"
  docs : row.docs = bucketDocs es.keysOf row.path (tableDocs es form row.kind)
  nonempty : row.docs ≠ []
  cells : ∀ name, name ≠ "count" → row.cells.get? name = row.cellOf name

/-- What a payload asks for: its cells but for four names, the name of the rule of a signal being
    asked for under another name. -/
def askedValues (payload : Payload) : List (String × Cell) :=
  let payload :=
    if payload.get? "event.kind" = some (.text "signal") then
      match payload.get? "rule.name" with
      | some name => (payload.erase "rule.name").upsert "signal.rule.name" name
      | none => payload
    else payload
  payload.rows.filter fun cell => cell.1 ∉ ["form", "count", "links", "kind"]

/-- The values that are asked for stand for the keys of the row: they are values that their fields
    take, the documents of the row match those that are not among its keys, and the documents
    of the table that match them all have the keys that are not among them. -/
structure SameValues (row : TableRow Doc) (asked : List (String × Cell)) : Prop where
  taken : ∀ p ∈ asked, es.refuses (.matching p.1 p.2) = false
  added : ∀ p ∈ asked, p ∉ row.path → ∀ d ∈ row.docs, es.applies (.matching p.1 p.2) d = true
  lost : ∀ p ∈ row.path, p ∉ asked → ∀ d ∈ tableDocs es form row.kind,
    (∀ a ∈ asked, es.applies (.matching a.1 a.2) d = true) → p.2 ∈ es.keysOf p.1 d

/-- The payload is of the kind of its row, has the name of its rule if it is that of a signal, and
    asks for what the row stands for. -/
structure SameRow (row : TableRow Doc) (payload : Payload) : Prop where
  kind : searchKindOf payload = .text row.kind
  ruleName : row.kind = "signal" → (payload.get? "rule.name").isSome
  values : SameValues es form row (askedValues payload)

/-- The payload has a kind that is searched, and the name of the rule if it is a signal's. -/
structure Searchable (payload : Payload) (kind : String) : Prop where
  known : kind = "alert" ∨ kind = "signal"
  kindCell : searchKindOf payload = .text kind
  ruleName : kind = "signal" → (payload.get? "rule.name").isSome

/-- The first document that the row's values find over all the indexes is of a Hive case whose
    documents are those of the row. -/
structure OneCase (row : TableRow Doc) (kind : String) : Prop where
  processed : Searchable row.cells kind
  taken : ∀ p ∈ askedValues row.cells, es.refuses (.matching p.1 p.2) = false
  case : ∃ hit rest hiveId,
    es.ranked (askedQuery form kind (askedValues row.cells) form.showClosed)
      (es.selected .allIndexes (askedQuery form kind (askedValues row.cells) form.showClosed)) =
        hit :: rest ∧
    es.hiveId hit = some hiveId ∧ es.refuses (.matching "event.hive_id" hiveId) = false ∧
      ∀ d ∈ es.docs, es.applies (.matching "event.hive_id" hiveId) d = true ↔ d ∈ row.docs

/-- The request of the action is processed, and selects the documents of the row. -/
def Denotes (row : TableRow Doc) (action : AlertAction) (caseId : String) : Prop :=
  ∃ docs, action.request es form caseId row.cells = .ok docs ∧ ∀ d, d ∈ docs ↔ d ∈ row.docs

/-- When the request of an action does so. -/
def StandsFor (row : TableRow Doc) : AlertAction → Prop
  | .drillDown =>
      SameRow es form row row.cells ∧
        ∃ count size, row.cells.get? "count" = some count ∧ count.toInt = .ok size ∧ 0 ≤ size
  | .acknowledge => SameRow es form row row.cells ∧ form.showClosed = false
  | .escalate =>
      SameRow es form row (row.cells.upsert "event.escalated" (.flag true)) ∧
        form.showClosed = false ∧ form.escalated = false
  | .remove => ∃ kind, OneCase es form row kind

/-! ## The query builders -/

theorem yesNo_mem (b : Bool) : yesNo b ∈ ["no", "yes"] := by
  cases b <;> decide

theorem buildQueryClause_yesNo (acknowledged escalated showClosed : Bool)
    (startTime endTime : String) (searchKind : Cell) (extra : List Clause) :
    buildQueryClause (yesNo acknowledged) (yesNo escalated) startTime endTime searchKind extra
        (yesNo showClosed) =
      if searchKind ∉ [.text "alert", .text "signal"] then
        .error (.valueError "Invalid search_kind passed in.")
      else
        .ok (queryClause (yesNo acknowledged) (yesNo escalated) startTime endTime searchKind extra
          (yesNo showClosed)) := by
  rw [buildQueryClause, if_neg (not_not.mpr (yesNo_mem _)), if_neg (not_not.mpr (yesNo_mem _)),
    if_neg (not_not.mpr (yesNo_mem _))]

/-- The clauses that are added are further clauses that must apply. -/
theorem selects_queryClause (acknowledged escalated startTime endTime : String) (searchKind : Cell)
    (extra : List Clause) (showClosed : String) (d : Doc) :
    (queryClause acknowledged escalated startTime endTime searchKind extra showClosed).selects
        es.applies d = true ↔
      (queryClause acknowledged escalated startTime endTime searchKind [] showClosed).selects
        es.applies d = true ∧ ∀ c ∈ extra, es.applies c d = true := by
  by_cases hsignal : searchKind = .text "signal"
  · simp only [queryClause, if_pos hsignal, BoolQuery.selects_iff, List.forall_mem_append,
      List.append_nil]
    tauto
  · simp only [queryClause, if_neg hsignal, BoolQuery.selects_iff, List.forall_mem_append,
      List.append_nil]
    tauto

theorem mem_clauses_queryClause (acknowledged escalated startTime endTime : String)
    (searchKind : Cell) (extra : List Clause) (showClosed : String) (c : Clause) :
    c ∈ (queryClause acknowledged escalated startTime endTime searchKind extra showClosed).clauses ↔
      c ∈ (queryClause acknowledged escalated startTime endTime searchKind [] showClosed).clauses ∨
        c ∈ extra := by
  by_cases hsignal : searchKind = .text "signal"
  · simp only [queryClause, if_pos hsignal, BoolQuery.clauses, List.mem_append, List.append_nil]
    tauto
  · simp only [queryClause, if_neg hsignal, BoolQuery.clauses, List.mem_append, List.append_nil]
    tauto

/-! ## The rows of an answer -/

/-- The cells of a row, but for its count, are its keys. -/
def HoldsKeys (row : TableRow Doc) : Prop :=
  ∀ name, name ≠ "count" → row.cells.get? name = row.keyOf name

theorem holdsKeys_enter {row : TableRow Doc} (h : HoldsKeys row) (field : String) (key : Cell)
    (docs : List Doc) : HoldsKeys (row.enter field key docs) := by
  intro name hname
  rw [TableRow.keyOf, TableRow.enter, List.reverse_append, List.reverse_singleton,
    List.singleton_append, List.lookup_cons]
  rw [Table.get?_upsert, Table.get?_upsert, if_neg hname]
  by_cases hfield : name = field
  · rw [if_pos hfield, beq_iff_eq.mpr hfield]
  · rw [if_neg hfield, beq_eq_false_iff_ne.mpr hfield]
    exact h name hname

/-- A row of an answer has the documents of the row it is under that have its keys. -/
theorem mem_getRow (hes : es.Documented) {fields : List String} (start : TableRow Doc)
    {row : TableRow Doc}
    (hrow : row ∈ getRow fields (aggregate es.keysOf es.shown fields start.docs) start) :
    row.kind = start.kind ∧ row.docs ≠ [] ∧ (HoldsKeys start → HoldsKeys row) ∧
      ∃ path, path.map Prod.fst = fields ∧ row.path = start.path ++ path ∧
        row.docs = bucketDocs es.keysOf path start.docs := by
  induction fields generalizing start with
  | nil => cases hrow
  | cons field fields ih =>
      rw [aggregate, getRow] at hrow
      obtain ⟨key, hkey, hmem⟩ := List.mem_flatMap.mp hrow
      dsimp only at hmem
      -- the buckets of the last field are the rows, and those of another field have their own
      by_cases hfields : fields.isEmpty = true
      · rw [if_pos hfields, List.mem_singleton] at hmem
        rw [hmem, List.isEmpty_iff.mp hfields]
        refine ⟨rfl, ?_, fun h => holdsKeys_enter h _ _ _, [(field, key)], rfl, rfl, rfl⟩
        obtain ⟨d, hd, hhas⟩ := hes.shown_bucket field start.docs key hkey
        refine List.ne_nil_of_mem (a := d) (List.mem_filter.mpr ⟨hd, decide_eq_true ?_⟩)
        exact List.forall_mem_singleton.mpr hhas
      · rw [if_neg hfields] at hmem
        obtain ⟨hkind, hdocs, hholds, path, hnames, hpath, heq⟩ :=
          ih (start.enter field key (bucketDocs es.keysOf [(field, key)] start.docs)) hmem
        refine ⟨hkind, hdocs, fun h => hholds (holdsKeys_enter h _ _ _),
          (field, key) :: path, ?_, ?_, ?_⟩
        · rw [List.map_cons, hnames]
        · rw [hpath, TableRow.enter, List.append_assoc]
          rfl
        · rw [heq, TableRow.enter, bucketDocs_append]
          rfl

theorem reason_of_answeredFields {index : SearchIndex} {query : Query}
    {fields fields' : List String} (h : answeredFields es index query fields = .ok fields') :
    es.reason index query fields' = none := by
  rw [answeredFields] at h
  cases hreason : es.reason index query fields with
  | none =>
      rw [hreason] at h
      cases h
      exact hreason
  | some reason =>
      rw [hreason] at h
      obtain ⟨retried, -, h⟩ := exists_of_bind_eq_ok h
      split at h
      · cases h
      · rename_i hnone
        cases h
        exact Option.not_isSome_iff_eq_none.mp hnone

/-- The rows of one kind, and that its query was not refused. -/
theorem listKind_eq_ok (hes : es.Documented) {kind : String} {fields fields' : List String}
    {rows : List (TableRow Doc)} (hlist : listKind es form kind fields = .ok (fields', rows)) :
    (kind = "alert" ∨ kind = "signal") ∧
      (∀ c ∈ (tableQuery form (.text kind)).clauses, es.refuses c = false) ∧
        rows = getRow fields' (aggregate es.keysOf es.shown fields' (tableDocs es form kind))
          { cells := .empty, kind, path := [], docs := tableDocs es form kind } := by
  rw [listKind, buildQueryClause_yesNo] at hlist
  by_cases hkind : Cell.text kind ∉ [Cell.text "alert", Cell.text "signal"]
  · rw [if_pos hkind] at hlist
    cases hlist
  rw [if_neg hkind] at hlist
  obtain ⟨query, hquery, hlist⟩ := exists_of_bind_eq_ok hlist
  cases hquery
  obtain ⟨answered, hanswered, hlist⟩ := exists_of_bind_eq_ok hlist
  cases hlist
  refine ⟨?_, hes.refuses_clause _ _ _ (reason_of_answeredFields es hanswered), rfl⟩
  simpa using not_not.mp hkind

/-- What is found under a name after the names are put right. -/
theorem get?_finishRow (searchKind : String) (row : TableRow Doc) (name : String) :
    (finishRow searchKind row).cells.get? name =
      if name = "signal.rule.name" then none
      else if name = "rule.name" then
        (row.cells.get? "signal.rule.name").or (row.cells.get? "rule.name")
      else if name = "event.kind" then
        some ((row.cells.get? "event.kind").getD (.text searchKind))
      else row.cells.get? name := by
  rw [finishRow]
  dsimp only
  generalize hcells : (if (row.cells.get? "event.kind").isSome = true then row.cells
    else row.cells.upsert "event.kind" (.text searchKind)) = cells
  -- the kind is put in first, and then the name of the rule is turned
  have hkind (name : String) : cells.get? name =
      if name = "event.kind" then some ((row.cells.get? "event.kind").getD (.text searchKind))
      else row.cells.get? name := by
    rw [← hcells]
    by_cases hsome : (row.cells.get? "event.kind").isSome = true
    · obtain ⟨kind, hkind⟩ := Option.isSome_iff_exists.mp hsome
      rw [if_pos hsome, hkind]
      split
      · rename_i hname
        rw [hname, hkind]
        rfl
      · rfl
    · rw [if_neg hsome, Table.get?_upsert, Option.not_isSome_iff_eq_none.mp hsome]
      rfl
  have hsignal : cells.get? "signal.rule.name" = row.cells.get? "signal.rule.name" := by
    rw [hkind, if_neg (by decide)]
  have hrule : cells.get? "rule.name" = row.cells.get? "rule.name" := by
    rw [hkind, if_neg (by decide)]
  rw [hsignal]
  cases hturned : row.cells.get? "signal.rule.name" with
  | none =>
      dsimp only
      rw [Option.none_or]
      split
      · rename_i hname
        rw [hname, hsignal, hturned]
      · split
        · rename_i hname
          rw [hname, hrule]
        · exact hkind name
  | some ruleName =>
      dsimp only
      rw [Table.get?_upsert, Table.get?_erase, Option.some_or]
      by_cases hsignalName : name = "signal.rule.name"
      · rw [if_pos hsignalName, if_pos hsignalName, if_neg (by rw [hsignalName]; decide)]
      · rw [if_neg hsignalName, if_neg hsignalName]
        split
        · rfl
        · exact hkind name

/-- A row that has its names keeps them. -/
theorem cells_finishRow_finishRow (searchKind searchKind' : String) (row : TableRow Doc)
    (name : String) :
    (finishRow searchKind' (finishRow searchKind row)).cells.get? name =
      (finishRow searchKind row).cells.get? name := by
  rw [get?_finishRow searchKind']
  simp only [get?_finishRow searchKind]
  split <;> simp_all

theorem mem_sortByCount {rows rows' : List (TableRow Doc)} (h : sortByCount rows = .ok rows')
    {row : TableRow Doc} (hrow : row ∈ rows') : row ∈ rows := by
  rw [sortByCount] at h
  split at h
  · cases h
    exact (List.mem_insertionSort _).mp hrow
  · cases h

/-- Every row of the table is from a bucket of the query for its kind, and neither query of the
    table was refused. -/
theorem fromBucket_of_getAlerts (hes : es.Documented) {fields : List String}
    {rows : List (TableRow Doc)} (hlist : getAlerts es form fields = .ok rows) {row : TableRow Doc}
    (hrow : row ∈ rows) :
    FromBucket es form row ∧
      ∀ kind, kind = "alert" ∨ kind = "signal" →
        ∀ c ∈ (tableQuery form (.text kind)).clauses, es.refuses c = false := by
  obtain ⟨⟨fields', alerts⟩, halerts, hlist⟩ := exists_of_bind_eq_ok hlist
  obtain ⟨⟨fields₂, signals⟩, hsignals, hlist⟩ := exists_of_bind_eq_ok hlist
  obtain ⟨-, hacceptedAlert, rfl⟩ := listKind_eq_ok es form hes halerts
  obtain ⟨-, hacceptedSignal, rfl⟩ := listKind_eq_ok es form hes hsignals
  obtain ⟨row, hmem, rfl⟩ := List.mem_map.mp (mem_sortByCount hlist hrow)
  -- a finished row, of either query
  have hfrom (kind : String) (hkind : kind = "alert" ∨ kind = "signal") (fields : List String)
      (row : TableRow Doc) (hrow : row ∈ getRow fields
        (aggregate es.keysOf es.shown fields (tableDocs es form kind))
        { cells := .empty, kind, path := [], docs := tableDocs es form kind }) :
      FromBucket es form (finishRow kind row) := by
    obtain ⟨hrowKind, hdocs, hholds, path, -, hpath, heq⟩ := mem_getRow es hes
      { cells := .empty, kind, path := [], docs := tableDocs es form kind } hrow
    dsimp only at hrowKind hpath heq
    subst hrowKind
    rw [List.nil_append] at hpath
    subst hpath
    refine ⟨hkind, heq, hdocs, fun name hname => ?_⟩
    have hcells := hholds fun _ _ => rfl
    rw [get?_finishRow, TableRow.cellOf, hcells _ (by decide), hcells _ (by decide),
      hcells _ (by decide), hcells _ hname]
    rfl
  refine ⟨?_, ?_⟩
  · rcases List.mem_append.mp hmem with hmem | hmem
    -- alerts are finished twice, which changes nothing more
    · obtain ⟨alert, halert, rfl⟩ := List.mem_map.mp hmem
      obtain ⟨hkind, hdocs, hnonempty, hcells⟩ := hfrom "alert" (.inl rfl) _ alert halert
      refine ⟨hkind, hdocs, hnonempty, fun name hname => ?_⟩
      rw [cells_finishRow_finishRow]
      exact hcells name hname
    · exact hfrom "signal" (.inr rfl) _ row hmem
  · rintro kind (rfl | rfl)
    · exact hacceptedAlert
    · exact hacceptedSignal

/-! ## The requests -/

theorem searchKindOf_eq_signal_iff (payload : Payload) :
    searchKindOf payload = .text "signal" ↔ payload.get? "event.kind" = some (.text "signal") := by
  rw [searchKindOf]
  cases payload.get? "event.kind" with
  | none => exact iff_of_false (by decide) (by simp)
  | some kind => exact Option.some_inj.symm

/-- What `get_additional_match_clauses` makes of a payload. -/
theorem turnRuleName_spec (payload : Payload) :
    ((searchKindOf payload = .text "signal" → (payload.get? "rule.name").isSome) ∧
        ∃ turned, turnRuleName payload = .ok turned ∧
          turned.get? "count" = payload.get? "count" ∧
            additionalMatchClauses turned =
              (askedValues payload).map fun p => .matching p.1 p.2) ∨
      (searchKindOf payload = .text "signal" ∧ payload.get? "rule.name" = none) ∧
        turnRuleName payload = .error (.keyError "rule.name") := by
  rw [searchKindOf_eq_signal_iff, turnRuleName, askedValues]
  by_cases hsignal : payload.get? "event.kind" = some (.text "signal")
  · rw [if_pos hsignal, if_pos hsignal]
    cases hname : payload.get? "rule.name" with
    | none => exact .inr ⟨⟨hsignal, rfl⟩, rfl⟩
    | some name =>
        refine .inl ⟨fun _ => rfl, _, rfl, ?_, rfl⟩
        rw [Table.get?_upsert, if_neg (by decide), Table.get?_erase, if_neg (by decide)]
  · rw [if_neg hsignal, if_neg hsignal]
    exact .inl ⟨fun h => absurd h hsignal, _, rfl, rfl, rfl⟩

/-- The query for a payload, or the error. -/
theorem payloadQuery_spec (payload : Payload) (showClosed : Bool) :
    (∃ kind turned, Searchable payload kind ∧
        turned.get? "count" = payload.get? "count" ∧
          payloadQuery form payload (yesNo showClosed) =
            .ok (turned, askedQuery form kind (askedValues payload) showClosed)) ∨
      (¬ ∃ kind, Searchable payload kind) ∧
        ∃ e, payloadQuery form payload (yesNo showClosed) = .error e := by
  rw [payloadQuery]
  rcases turnRuleName_spec payload with
    ⟨hname, turned, hturned, hcount, hclauses⟩ | ⟨⟨hsignal, hname⟩, herror⟩
  · rw [hturned]
    by_cases hkind : searchKindOf payload ∉ [.text "alert", .text "signal"]
    · refine .inr ⟨?_, .valueError "Invalid search_kind passed in.", ?_⟩
      · rintro ⟨kind, hprocessed⟩
        rw [hprocessed.kindCell] at hkind
        rcases hprocessed.known with rfl | rfl <;> exact hkind (by decide)
      · dsimp only [bind, Except.bind]
        rw [buildQueryClause_yesNo, if_pos hkind]
    · obtain ⟨kind, hknown, hcell⟩ : ∃ kind, (kind = "alert" ∨ kind = "signal") ∧
          searchKindOf payload = .text kind := by
        rcases List.mem_cons.mp (not_not.mp hkind) with hcell | hcell
        · exact ⟨"alert", .inl rfl, hcell⟩
        · exact ⟨"signal", .inr rfl, List.mem_singleton.mp hcell⟩
      refine .inl ⟨kind, turned, ⟨hknown, hcell, ?_⟩, hcount, ?_⟩
      · rintro rfl
        exact hname hcell
      · dsimp only [bind, Except.bind]
        rw [buildQueryClause_yesNo, if_neg hkind, hcell, hclauses]
        rfl
  -- a signal without the name of its rule
  · refine .inr ⟨?_, .keyError "rule.name", ?_⟩
    · rintro ⟨kind, hprocessed⟩
      have hkind := hprocessed.kindCell
      rw [hsignal] at hkind
      cases hkind
      have hsome := hprocessed.ruleName rfl
      rw [hname] at hsome
      cases hsome
    · rw [herror]
      rfl

/-- A search answers the documents that its query selects, or a clause of it is refused. -/
theorem search_spec (hes : es.Documented) (index : SearchIndex) (query : Query) :
    ((∀ c ∈ query.clauses, es.refuses c = false) ∧
        ∃ docs, es.search index query = .ok docs ∧ ∀ d, d ∈ docs ↔ d ∈ es.selected index query) ∨
      (∃ c ∈ query.clauses, es.refuses c = true) ∧
        es.search index query = .error (.other "RequestError") := by
  rw [Elastic.search]
  by_cases hrefused : query.clauses.any es.refuses = true
  · rw [if_pos hrefused]
    exact .inr ⟨List.any_eq_true.mp hrefused, rfl⟩
  · rw [if_neg hrefused]
    refine .inl ⟨fun c hc => ?_, _, rfl, hes.mem_ranked query _⟩
    by_contra hc'
    exact hrefused (List.any_eq_true.mpr ⟨c, hc, by simpa using hc'⟩)

theorem mem_selected_askedQuery {index : SearchIndex} {kind : String} {asked : List (String × Cell)}
    {showClosed : Bool} {d : Doc} :
    d ∈ es.selected index (askedQuery form kind asked showClosed) ↔
      d ∈ es.selected index (askedQuery form kind [] showClosed) ∧
        ∀ p ∈ asked, es.applies (.matching p.1 p.2) d = true := by
  rw [Elastic.selected, Elastic.selected, List.mem_filter, List.mem_filter, askedQuery,
    selects_queryClause, and_assoc, List.forall_mem_map]
  rfl

theorem mem_clauses_askedQuery {kind : String} {asked : List (String × Cell)} {showClosed : Bool}
    {c : Clause} :
    c ∈ (askedQuery form kind asked showClosed).clauses ↔
      c ∈ (askedQuery form kind [] showClosed).clauses ∨ ∃ p ∈ asked, c = .matching p.1 p.2 := by
  rw [askedQuery, mem_clauses_queryClause, List.mem_map]
  simp only [eq_comm (a := c)]
  rfl

theorem mem_docs_iff {row : TableRow Doc} (hrow : FromBucket es form row) {d : Doc} :
    d ∈ row.docs ↔ d ∈ tableDocs es form row.kind ∧ HasKeys es.keysOf row.path d := by
  rw [hrow.docs, bucketDocs, List.mem_filter, decide_eq_true_iff]

/-- With the filters of the table, a search for the values that are asked for selects the documents
    of the row if and only if these stand for its keys. -/
theorem search_askedQuery_iff (hes : es.Documented) {row : TableRow Doc}
    (hrow : FromBucket es form row)
    (haccepted : ∀ c ∈ (tableQuery form (.text row.kind)).clauses, es.refuses c = false)
    (asked : List (String × Cell)) :
    (∃ docs, es.search (indexOf (.text row.kind))
        (askedQuery form row.kind asked form.showClosed) = .ok docs ∧
          ∀ d, d ∈ docs ↔ d ∈ row.docs) ↔
      SameValues es form row asked := by
  have hselected (d : Doc) :
      d ∈ es.selected (indexOf (.text row.kind)) (askedQuery form row.kind asked form.showClosed) ↔
        d ∈ tableDocs es form row.kind ∧
          ∀ p ∈ asked, es.applies (.matching p.1 p.2) d = true :=
    mem_selected_askedQuery es form
  obtain ⟨d₀, hd₀⟩ := List.exists_mem_of_ne_nil _ hrow.nonempty
  have hkeys₀ := ((mem_docs_iff es form hrow).mp hd₀).2
  rcases search_spec es hes (indexOf (.text row.kind))
    (askedQuery form row.kind asked form.showClosed) with
    ⟨hnone, docs, hdocs, hmem⟩ | ⟨⟨c, hc, hrefused⟩, herror⟩
  -- the clauses are taken: both selections are in the table, and differ by the values asked for
  · have htaken : ∀ p ∈ asked, es.refuses (.matching p.1 p.2) = false := fun p hp =>
      hnone _ ((mem_clauses_askedQuery form).mpr (.inr ⟨p, hp, rfl⟩))
    constructor
    · rintro ⟨docs', hdocs', hsame⟩
      rw [hdocs] at hdocs'
      cases hdocs'
      refine ⟨htaken, fun p hp _ d hd => ?_, fun p hp _ d hd hasked => ?_⟩
      · exact ((hselected d).mp ((hmem d).mp ((hsame d).mpr hd))).2 p hp
      · have hd' := (hsame d).mp ((hmem d).mpr ((hselected d).mpr ⟨hd, hasked⟩))
        exact ((mem_docs_iff es form hrow).mp hd').2 p hp
    · rintro ⟨-, hadded, hlost⟩
      refine ⟨docs, hdocs, fun d => ?_⟩
      rw [hmem, hselected]
      constructor
      · rintro ⟨htable, hasked⟩
        refine (mem_docs_iff es form hrow).mpr ⟨htable, fun p hp => ?_⟩
        by_cases hin : p ∈ asked
        · exact (hes.applies_key p.1 p.2 d d₀ (hkeys₀ p hp) (htaken p hin)).mp (hasked p hin)
        · exact hlost p hp hin d htable hasked
      · intro hd
        obtain ⟨htable, hkeys⟩ := (mem_docs_iff es form hrow).mp hd
        refine ⟨htable, fun p hp => ?_⟩
        by_cases hin : p ∈ row.path
        · exact (hes.applies_key p.1 p.2 d d (hkeys p hin) (htaken p hp)).mpr (hkeys p hin)
        · exact hadded p hp hin d hd
  · refine iff_of_false ?_ ?_
    · rintro ⟨docs, hdocs, -⟩
      rw [herror] at hdocs
      cases hdocs
    -- the table's own clauses were not refused, so it is a value
    · intro hvalues
      rcases (mem_clauses_askedQuery form).mp hc with hc | ⟨p, hp, rfl⟩
      · rw [haccepted c hc] at hrefused
        cases hrefused
      · rw [hvalues.taken p hp] at hrefused
        cases hrefused

theorem processed_of_sameRow {row : TableRow Doc} (hrow : FromBucket es form row)
    {payload : Payload} (h : SameRow es form row payload) : Searchable payload row.kind :=
  ⟨hrow.kind, h.kind, h.ruleName⟩

/-- What one kind's index has the other's has not. -/
theorem isSignal_of_mem_selected {kind : String} {query : Query} {d : Doc}
    (h : d ∈ es.selected (indexOf (.text kind)) query) :
      es.isSignal d = decide (kind = "signal") := by
  have hin := (List.mem_filter.mp h).1
  by_cases hkind : kind = "signal"
  · rw [indexOf, if_pos (by rw [hkind])] at hin
    rw [(List.mem_filter.mp hin).2, decide_eq_true hkind]
  · rw [indexOf, if_neg (fun h => hkind (Cell.text.inj h))] at hin
    rw [decide_eq_false hkind]
    simpa using (List.mem_filter.mp hin).2

/-- The filter of the closed cases. -/
theorem resolved_of_selects {kind : String} {asked : List (String × Cell)} {showClosed : Bool}
    {d : Doc} (h : (askedQuery form kind asked showClosed).selects es.applies d = true) :
    es.applies matchResolved d = showClosed := by
  obtain ⟨hmust, hmustNot, -⟩ := BoolQuery.selects_iff.mp h
  cases showClosed with
  | true =>
      refine hmust matchResolved ?_
      by_cases hsignal : Cell.text kind = .text "signal"
      · simp [askedQuery, queryClause, yesNo, hsignal]
      · simp [askedQuery, queryClause, yesNo, hsignal]
  | false =>
      refine hmustNot matchResolved ?_
      by_cases hsignal : Cell.text kind = .text "signal"
      · simp [askedQuery, queryClause, yesNo, hsignal]
      · simp [askedQuery, queryClause, yesNo, hsignal]

/-- The search for a payload, with the filters of the table. -/
theorem search_payload_iff (hes : es.Documented) {row : TableRow Doc}
    (hrow : FromBucket es form row)
    (haccepted : ∀ c ∈ (tableQuery form (.text row.kind)).clauses, es.refuses c = false)
    {payload : Payload} {kind : String} (hprocessed : Searchable payload kind) :
    (∃ docs, es.search (indexOf (searchKindOf payload))
        (askedQuery form kind (askedValues payload) form.showClosed) = .ok docs ∧
          ∀ d, d ∈ docs ↔ d ∈ row.docs) ↔
      SameRow es form row payload := by
  rw [hprocessed.kindCell]
  by_cases hkind : kind = row.kind
  · subst hkind
    rw [search_askedQuery_iff es form hes hrow haccepted]
    exact ⟨fun h => ⟨hprocessed.kindCell, hprocessed.ruleName, h⟩, fun h => h.values⟩
  · refine iff_of_false ?_ fun h => hkind (Cell.text.inj (hprocessed.kindCell.symm.trans h.kind))
    rintro ⟨docs, hdocs, hsame⟩
    obtain ⟨d, hd⟩ := List.exists_mem_of_ne_nil _ hrow.nonempty
    rcases search_spec es hes (indexOf (.text kind))
      (askedQuery form kind (askedValues payload) form.showClosed) with
      ⟨-, docs', hdocs', hmem⟩ | ⟨-, herror⟩
    -- a document is of one kind only
    · rw [hdocs] at hdocs'
      cases hdocs'
      have hother := isSignal_of_mem_selected es ((hmem d).mp ((hsame d).mpr hd))
      rw [isSignal_of_mem_selected es ((mem_docs_iff es form hrow).mp hd).1] at hother
      have hknown := hprocessed.known
      have hrowKind := hrow.kind
      grind
    · rw [herror] at hdocs
      cases hdocs

/-- The search for a payload among the cases that are not closed. -/
theorem search_open_iff (hes : es.Documented) {row : TableRow Doc} (hrow : FromBucket es form row)
    (haccepted : ∀ c ∈ (tableQuery form (.text row.kind)).clauses, es.refuses c = false)
    {payload : Payload} {kind : String} (hprocessed : Searchable payload kind) :
    (∃ docs, es.search (indexOf (searchKindOf payload))
        (askedQuery form kind (askedValues payload) false) = .ok docs ∧
          ∀ d, d ∈ docs ↔ d ∈ row.docs) ↔
      SameRow es form row payload ∧ form.showClosed = false := by
  by_cases hclosed : form.showClosed = false
  · rw [and_iff_left hclosed, ← search_payload_iff es form hes hrow haccepted hprocessed, hclosed]
  · refine iff_of_false ?_ fun h => hclosed h.2
    rintro ⟨docs, hdocs, hsame⟩
    obtain ⟨d, hd⟩ := List.exists_mem_of_ne_nil _ hrow.nonempty
    rcases search_spec es hes (indexOf (searchKindOf payload))
      (askedQuery form kind (askedValues payload) false) with ⟨-, docs', hdocs', hmem⟩ | ⟨-, herror⟩
    · rw [hdocs] at hdocs'
      cases hdocs'
      -- the documents of a table of closed cases are not found among the others
      have hopen := resolved_of_selects es form
        (List.mem_filter.mp ((hmem d).mp ((hsame d).mpr hd))).2
      have hin : d ∈ es.selected (indexOf (.text row.kind))
          (askedQuery form row.kind [] form.showClosed) := ((mem_docs_iff es form hrow).mp hd).1
      have htable := resolved_of_selects es form (List.mem_filter.mp hin).2
      exact hclosed (htable.symm.trans hopen)
    · rw [herror] at hdocs
      cases hdocs

/-! ## The actions -/

theorem not_exists_of_error {x : Except PyError (List Doc)} {e : PyError} (h : x = .error e)
    {docs : List Doc} : ¬ ∃ docs', x = .ok docs' ∧ ∀ d, d ∈ docs' ↔ d ∈ docs := by
  rintro ⟨docs', hdocs, -⟩
  rw [h] at hdocs
  cases hdocs

theorem denotes_drillDown_iff (hes : es.Documented) {row : TableRow Doc}
    (hrow : FromBucket es form row)
    (haccepted : ∀ c ∈ (tableQuery form (.text row.kind)).clauses, es.refuses c = false)
    (caseId : String) :
    Denotes es form row .drillDown caseId ↔ StandsFor es form row .drillDown := by
  rw [Denotes, StandsFor, AlertAction.request, alertListBody]
  dsimp only [AlertAction.payload]
  rcases payloadQuery_spec form row.cells form.showClosed with
    ⟨kind, turned, hprocessed, hcount, hquery⟩ | ⟨hprocessed, e, herror⟩
  · rw [hquery]
    dsimp only [bind, Except.bind]
    rw [hcount]
    cases hcell : row.cells.get? "count" with
    | none =>
        -- a row without a count cannot be drilled into
        refine iff_of_false (not_exists_of_error rfl) ?_
        rintro ⟨-, count, size, hcount, -⟩
        cases hcount
    | some count =>
        dsimp only
        cases hsize : count.toInt with
        | error e =>
            refine iff_of_false (not_exists_of_error rfl) ?_
            rintro ⟨-, count', size, hcount', hsize', -⟩
            cases hcount'
            rw [hsize] at hsize'
            cases hsize'
        | ok size =>
            dsimp only
            rw [searchBody]
            dsimp only
            have hiff := search_payload_iff es form hes hrow haccepted hprocessed
            by_cases hneg : min size 5000 < 0
            · rw [if_pos hneg]
              refine iff_of_false (not_exists_of_error rfl) ?_
              rintro ⟨-, count', size', hcount', hsize', hpos⟩
              cases hcount'
              rw [hsize] at hsize'
              cases hsize'
              omega
            · rw [if_neg hneg, hiff]
              have hpos : 0 ≤ size := by omega
              exact ⟨fun h => ⟨h, count, size, rfl, hsize, hpos⟩, fun h => h.1⟩
  · refine iff_of_false (not_exists_of_error (e := e) ?_) ?_
    · rw [herror]
      rfl
    · rintro ⟨hsame, -⟩
      exact hprocessed ⟨row.kind, processed_of_sameRow es form hrow hsame⟩

/-- A modification goes by the documents that are not closed, and an escalation by those that are
    not escalated. -/
theorem modifyAlerts_iff (hes : es.Documented) {row : TableRow Doc} (hrow : FromBucket es form row)
    (haccepted : ∀ c ∈ (tableQuery form (.text row.kind)).clauses, es.refuses c = false)
    (payload : Payload) (performEscalation : Bool) (caseId : String) :
    (∃ docs, modifyAlerts es form performEscalation (.created caseId) payload = .ok docs ∧
        ∀ d, d ∈ docs ↔ d ∈ row.docs) ↔
      SameRow es form row payload ∧ form.showClosed = false ∧
        (performEscalation = true → form.escalated = false) := by
  rw [modifyAlerts]
  rcases payloadQuery_spec form payload false with
    ⟨kind, turned, hprocessed, -, hquery⟩ | ⟨hprocessed, e, herror⟩
  · have hquery : payloadQuery form payload "no" = _ := hquery
    rw [hquery, ← and_assoc, ← search_open_iff es form hes hrow haccepted hprocessed]
    dsimp only [bind, Except.bind]
    -- the flag of the table is asked for, whatever the escalation sets
    by_cases hunbound : performEscalation = true ∧ form.escalated = true
    · rw [if_pos hunbound.1, if_pos hunbound.2]
      refine iff_of_false (not_exists_of_error rfl) fun h => ?_
      have hescalated := h.2 hunbound.1
      rw [hunbound.2] at hescalated
      cases hescalated
    · rw [and_iff_left fun h => Bool.eq_false_iff.mpr fun h' => hunbound ⟨h, h'⟩]
      by_cases hperform : performEscalation = true
      · rw [if_pos hperform, if_neg fun h => hunbound ⟨hperform, h⟩]
      · rw [if_neg hperform]
  · have herror : payloadQuery form payload "no" = _ := herror
    refine iff_of_false (not_exists_of_error (e := e) ?_) ?_
    · rw [herror]
      rfl
    · rintro ⟨hsame, -⟩
      exact hprocessed ⟨row.kind, processed_of_sameRow es form hrow hsame⟩

theorem search_eq_ok {index : SearchIndex} {query : Query}
    (h : ∀ c ∈ query.clauses, es.refuses c = false) :
    es.search index query = .ok (es.ranked query (es.selected index query)) := by
  refine if_neg fun hany => ?_
  obtain ⟨c, hc, hrefused⟩ := List.any_eq_true.mp hany
  rw [h c hc] at hrefused
  cases hrefused

theorem mem_of_mem_selected {index : SearchIndex} {query : Query} {d : Doc}
    (h : d ∈ es.selected index query) : d ∈ es.docs := by
  have hin := (List.mem_filter.mp h).1
  cases index with
  | defaultIndexes => exact (List.mem_filter.mp hin).1
  | signalIndex => exact (List.mem_filter.mp hin).1
  | allIndexes => exact hin

/-- The documents of a case are those of the row. -/
theorem search_hiveId_iff (hes : es.Documented) {row : TableRow Doc} (hrow : FromBucket es form row)
    (hiveId : Cell) :
    (∃ docs, es.search .allIndexes (.single (.matching "event.hive_id" hiveId)) = .ok docs ∧
        ∀ d, d ∈ docs ↔ d ∈ row.docs) ↔
      es.refuses (.matching "event.hive_id" hiveId) = false ∧
        ∀ d ∈ es.docs, es.applies (.matching "event.hive_id" hiveId) d = true ↔ d ∈ row.docs := by
  rcases search_spec es hes .allIndexes (.single (.matching "event.hive_id" hiveId)) with
    ⟨hnone, docs, hdocs, hmem⟩ | ⟨⟨c, hc, hrefused⟩, herror⟩
  · have htaken := hnone (.matching "event.hive_id" hiveId) (List.mem_singleton_self _)
    have hselected (d : Doc) :
        d ∈ docs ↔ d ∈ es.docs ∧ es.applies (.matching "event.hive_id" hiveId) d = true := by
      rw [hmem, Elastic.selected, List.mem_filter, BoolQuery.selects_single]
      rfl
    rw [and_iff_right htaken]
    constructor
    · rintro ⟨docs', hdocs', hsame⟩ d hd
      rw [hdocs] at hdocs'
      cases hdocs'
      rw [← hsame, hselected, and_iff_right hd]
    · intro hcase
      refine ⟨docs, hdocs, fun d => ?_⟩
      rw [hselected]
      constructor
      · rintro ⟨hd, happlies⟩
        exact (hcase d hd).mp happlies
      · intro hd
        have hin := mem_of_mem_selected es ((mem_docs_iff es form hrow).mp hd).1
        exact ⟨hin, (hcase d hin).mpr hd⟩
  · cases List.mem_singleton.mp hc
    refine iff_of_false (not_exists_of_error herror) fun h => ?_
    rw [h.1] at hrefused
    cases hrefused

/-- A search for values that are taken, by a table that is. -/
theorem search_askedQuery_eq_ok (index : SearchIndex) {kind : String}
    {asked : List (String × Cell)} {showClosed : Bool}
    (haccepted : ∀ c ∈ (askedQuery form kind [] showClosed).clauses, es.refuses c = false)
    (htaken : ∀ p ∈ asked, es.refuses (.matching p.1 p.2) = false) :
    es.search index (askedQuery form kind asked showClosed) =
      .ok (es.ranked (askedQuery form kind asked showClosed)
        (es.selected index (askedQuery form kind asked showClosed))) := by
  refine search_eq_ok es fun c hc => ?_
  rcases (mem_clauses_askedQuery form).mp hc with hc | ⟨p, hp, rfl⟩
  · exact haccepted c hc
  · exact htaken p hp

/-- One value that is not taken is enough to refuse the search. -/
theorem search_askedQuery_eq_error (hes : es.Documented) (index : SearchIndex) {kind : String}
    {asked : List (String × Cell)} {showClosed : Bool}
    (htaken : ¬ ∀ p ∈ asked, es.refuses (.matching p.1 p.2) = false) :
    es.search index (askedQuery form kind asked showClosed) =
      .error (.other "RequestError") := by
  rcases search_spec es hes index (askedQuery form kind asked showClosed) with
    ⟨hnone, -⟩ | ⟨-, herror⟩
  · refine absurd (fun p hp => hnone _ ?_) htaken
    exact (mem_clauses_askedQuery form).mpr (.inr ⟨p, hp, rfl⟩)
  · exact herror

theorem removeAlerts_iff (hes : es.Documented) {row : TableRow Doc} (hrow : FromBucket es form row)
    (haccepted : ∀ kind, kind = "alert" ∨ kind = "signal" →
      ∀ c ∈ (tableQuery form (.text kind)).clauses, es.refuses c = false) :
    (∃ docs, removeAlerts es form row.cells = .ok docs ∧ ∀ d, d ∈ docs ↔ d ∈ row.docs) ↔
      ∃ kind, OneCase es form row kind := by
  rw [removeAlerts]
  rcases payloadQuery_spec form row.cells form.showClosed with
    ⟨kind, turned, hprocessed, -, hquery⟩ | ⟨hprocessed, e, herror⟩
  · rw [hquery]
    dsimp only [bind, Except.bind]
    have hunique {kind' : String} (hcase : OneCase es form row kind') : kind' = kind :=
      Cell.text.inj (hcase.processed.kindCell.symm.trans hprocessed.kindCell)
    by_cases htaken : ∀ p ∈ askedValues row.cells, es.refuses (.matching p.1 p.2) = false
    · rw [search_askedQuery_eq_ok es form .allIndexes (haccepted kind hprocessed.known) htaken]
      dsimp only
      cases hhits : es.ranked (askedQuery form kind (askedValues row.cells) form.showClosed)
          (es.selected .allIndexes
            (askedQuery form kind (askedValues row.cells) form.showClosed)) with
      -- without a hit there is no case
      | nil =>
          refine iff_of_false (not_exists_of_error rfl) ?_
          rintro ⟨kind', hcase⟩
          cases hunique hcase
          obtain ⟨hit, rest, hiveId, hfirst, -⟩ := hcase.case
          rw [hhits] at hfirst
          cases hfirst
      | cons hit rest =>
          dsimp only
          cases hid : es.hiveId hit with
          | none =>
              refine iff_of_false (not_exists_of_error rfl) ?_
              rintro ⟨kind', hcase⟩
              cases hunique hcase
              obtain ⟨hit', rest', hiveId, hfirst, hid', -⟩ := hcase.case
              rw [hhits] at hfirst
              cases hfirst
              rw [hid] at hid'
              cases hid'
          -- the case of the first hit stands for all of them
          | some hiveId =>
              dsimp only
              rw [search_hiveId_iff es form hes hrow]
              constructor
              · rintro ⟨htakenId, hcaseDocs⟩
                exact
                  ⟨kind, hprocessed, htaken, hit, rest, hiveId, hhits, hid, htakenId, hcaseDocs⟩
              · rintro ⟨kind', hcase⟩
                cases hunique hcase
                obtain ⟨hit', rest', hiveId', hfirst, hid', htakenId, hcaseDocs⟩ := hcase.case
                rw [hhits] at hfirst
                cases hfirst
                rw [hid] at hid'
                cases hid'
                exact ⟨htakenId, hcaseDocs⟩
    · rw [search_askedQuery_eq_error es form hes .allIndexes htaken]
      refine iff_of_false (not_exists_of_error rfl) ?_
      rintro ⟨kind', hcase⟩
      exact htaken hcase.taken
  · refine iff_of_false (not_exists_of_error (e := e) ?_) ?_
    · rw [herror]
      rfl
    · rintro ⟨kind, hcase⟩
      exact hprocessed ⟨kind, hcase.processed⟩

/-- The request for a row of the table is processed and selects the documents of the row if and
    only if the row stands for them there. -/
theorem denotes_iff (hes : es.Documented) {fields : List String} {rows : List (TableRow Doc)}
    (hlist : getAlerts es form fields = .ok rows) {row : TableRow Doc} (hmem : row ∈ rows)
    (action : AlertAction) (caseId : String) :
    Denotes es form row action caseId ↔ StandsFor es form row action := by
  obtain ⟨hrow, haccepted⟩ := fromBucket_of_getAlerts es form hes hlist hmem
  cases action with
  | drillDown => exact denotes_drillDown_iff es form hes hrow (haccepted _ hrow.kind) caseId
  | acknowledge =>
      have hiff := modifyAlerts_iff es form hes hrow (haccepted _ hrow.kind) row.cells false caseId
      rw [and_iff_left fun h => by cases h] at hiff
      exact hiff
  | escalate =>
      have hiff := modifyAlerts_iff es form hes hrow (haccepted _ hrow.kind)
        (row.cells.upsert "event.escalated" (.flag true)) true caseId
      rw [imp_iff_right rfl] at hiff
      exact hiff
  | remove => exact removeAlerts_iff es form hes hrow haccepted

/-! ## Plain rows -/

/-- No field is grouped by twice, none has a name that is never asked for, and the rule's name is
    that of the kind. -/
structure Plain (row : TableRow Doc) : Prop where
  nodup : (row.path.map Prod.fst).Nodup
  names : ∀ p ∈ row.path, p.1 ∉ ["form", "count", "links", "kind"]
  alertName : row.kind = "alert" → "signal.rule.name" ∉ row.path.map Prod.fst
  signalName : row.kind = "signal" → "rule.name" ∉ row.path.map Prod.fst

theorem keyOf_eq_some_iff {row : TableRow Doc} (hplain : Plain row) {name : String} {key : Cell} :
    row.keyOf name = some key ↔ (name, key) ∈ row.path := by
  rw [TableRow.keyOf, Table.lookup_eq_some_iff, List.mem_reverse]
  rw [List.map_reverse, List.nodup_reverse]
  exact hplain.nodup

theorem keyOf_eq_none {row : TableRow Doc} {name : String} (h : name ∉ row.path.map Prod.fst) :
    row.keyOf name = none := by
  rw [TableRow.keyOf, List.lookup_eq_none_iff]
  intro p hp
  rw [List.mem_reverse] at hp
  exact bne_iff_ne.mpr fun hname => h (List.mem_map.mpr ⟨p, hp, hname.symm⟩)

/-- What a payload asks for, by its cells. -/
theorem mem_askedValues_iff {payload : Payload} {name : String} {value : Cell} :
    (name, value) ∈ askedValues payload ↔
      name ∉ ["form", "count", "links", "kind"] ∧
        (if payload.get? "event.kind" = some (.text "signal") ∧
            (payload.get? "rule.name").isSome then
          if name = "signal.rule.name" then payload.get? "rule.name"
          else if name = "rule.name" then none else payload.get? name
        else payload.get? name) = some value := by
  rw [askedValues, List.mem_filter, ← Table.get?_eq_some_iff, and_comm, decide_eq_true_iff]
  refine and_congr_right fun _ => ?_
  by_cases hsignal : payload.get? "event.kind" = some (.text "signal")
  · rw [if_pos hsignal]
    cases hname : payload.get? "rule.name" with
    | none =>
        rw [if_neg (by simp)]
    | some ruleName =>
        rw [if_pos ⟨hsignal, rfl⟩]
        dsimp only
        rw [Table.get?_upsert, Table.get?_erase]
  · rw [if_neg hsignal, if_neg fun h => hsignal h.1]

/-- A plain row asks for its keys and its kind. -/
theorem mem_askedValues_of_plain {row : TableRow Doc} (hrow : FromBucket es form row)
    (hplain : Plain row) (hkind : searchKindOf row.cells = .text row.kind)
    (hrule : row.kind = "signal" → (row.cells.get? "rule.name").isSome) (p : String × Cell) :
    p ∈ askedValues row.cells ↔ p ∈ row.path ∨ p = ("event.kind", .text row.kind) := by
  obtain ⟨name, value⟩ := p
  have hkindOf := hrow.cells "event.kind" (by decide)
  rw [TableRow.cellOf, if_neg (by decide), if_neg (by decide), if_pos rfl] at hkindOf
  have hkindCell : row.cells.get? "event.kind" = some (.text row.kind) := by
    rw [searchKindOf, hkindOf, Option.getD_some] at hkind
    rw [hkindOf, hkind]
  have hkey (key : Cell) (h : row.keyOf "event.kind" = some key) : key = .text row.kind := by
    rw [hkindCell, h] at hkindOf
    exact (Option.some.inj hkindOf).symm
  -- under every name but one the payload has the key of the row
  have hlookup (hcount : name ≠ "count") :
      (if row.cells.get? "event.kind" = some (.text "signal") ∧
          (row.cells.get? "rule.name").isSome then
        if name = "signal.rule.name" then row.cells.get? "rule.name"
        else if name = "rule.name" then none else row.cells.get? name
      else row.cells.get? name) =
        if name = "event.kind" then some (.text row.kind) else row.keyOf name := by
    have hrest (h₁ : name ≠ "signal.rule.name") (h₂ : name ≠ "rule.name") :
        row.cells.get? name =
          if name = "event.kind" then some (.text row.kind) else row.keyOf name := by
      by_cases hkindName : name = "event.kind"
      · rw [if_pos hkindName, hkindName, hkindCell]
      · rw [if_neg hkindName, hrow.cells name hcount, TableRow.cellOf, if_neg h₁, if_neg h₂,
          if_neg hkindName]
    have hruleName := hrow.cells "rule.name" (by decide)
    rw [TableRow.cellOf, if_neg (by decide), if_pos rfl] at hruleName
    rcases hrow.kind with halert | hsignal
    · rw [if_neg fun h => by rw [hkindCell, halert] at h; exact absurd h.1 (by decide)]
      have hturned := keyOf_eq_none (hplain.alertName halert)
      by_cases h₁ : name = "signal.rule.name"
      · rw [h₁, if_neg (by decide), hturned, hrow.cells _ (by decide), TableRow.cellOf, if_pos rfl]
      · by_cases h₂ : name = "rule.name"
        · rw [h₂, if_neg (by decide), hruleName, hturned, Option.none_or]
        · exact hrest h₁ h₂
    · rw [if_pos ⟨by rw [hkindCell, hsignal], hrule hsignal⟩]
      have hturned := keyOf_eq_none (hplain.signalName hsignal)
      by_cases h₁ : name = "signal.rule.name"
      · rw [if_pos h₁, h₁, if_neg (by decide), hruleName, hturned, Option.or_none]
      · rw [if_neg h₁]
        by_cases h₂ : name = "rule.name"
        · rw [if_pos h₂, h₂, if_neg (by decide), hturned]
        · rw [if_neg h₂]
          exact hrest h₁ h₂
  rw [mem_askedValues_iff]
  constructor
  · rintro ⟨hname, hvalue⟩
    rw [hlookup fun h => hname (by rw [h]; decide)] at hvalue
    by_cases hkindName : name = "event.kind"
    · rw [if_pos hkindName] at hvalue
      exact .inr (by rw [hkindName, Option.some.inj hvalue])
    · rw [if_neg hkindName] at hvalue
      exact .inl ((keyOf_eq_some_iff hplain).mp hvalue)
  · rintro (hpath | heq)
    · have hname : name ∉ ["form", "count", "links", "kind"] := hplain.names _ hpath
      have hvalue := (keyOf_eq_some_iff hplain).mpr hpath
      refine ⟨hname, ?_⟩
      rw [hlookup fun h => hname (by rw [h]; decide)]
      by_cases hkindName : name = "event.kind"
      · rw [if_pos hkindName, ← hkey value (hkindName ▸ hvalue)]
      · rw [if_neg hkindName, hvalue]
    · cases heq
      refine ⟨by decide, ?_⟩
      rw [hlookup (by decide), if_pos rfl]

theorem mem_clauses_eventKind (searchKind : Cell) :
    Clause.matching "event.kind" searchKind ∈ (tableQuery form searchKind).filter := by
  rw [tableQuery, queryClause]
  split <;> exact List.mem_singleton_self _

/-- A plain row stands for its documents if and only if it was not grouped by another kind, has the
    name of its rule if it is a signal's, and has keys that their fields take as values. -/
theorem sameRow_iff_of_plain {row : TableRow Doc} (hrow : FromBucket es form row)
    (haccepted : ∀ c ∈ (tableQuery form (.text row.kind)).clauses, es.refuses c = false)
    (hplain : Plain row) :
    SameRow es form row row.cells ↔
      (∀ key, ("event.kind", key) ∈ row.path → key = .text row.kind) ∧
        (row.kind = "signal" → "signal.rule.name" ∈ row.path.map Prod.fst) ∧
          ∀ p ∈ row.path, es.refuses (.matching p.1 p.2) = false := by
  have hkindCell := hrow.cells "event.kind" (by decide)
  rw [TableRow.cellOf, if_neg (by decide), if_neg (by decide), if_pos rfl] at hkindCell
  have hruleCell := hrow.cells "rule.name" (by decide)
  rw [TableRow.cellOf, if_neg (by decide), if_pos rfl] at hruleCell
  constructor
  · rintro ⟨hkind, hrule, htaken, -, -⟩
    have hmem := mem_askedValues_of_plain es form hrow hplain hkind hrule
    refine ⟨fun key hkey => ?_, fun hsignal => ?_, fun p hp => htaken p ((hmem p).mpr (.inl hp))⟩
    · rw [searchKindOf, hkindCell, (keyOf_eq_some_iff hplain).mpr hkey] at hkind
      exact hkind
    · by_contra hnone
      have hsome := hrule hsignal
      rw [hruleCell, keyOf_eq_none hnone, keyOf_eq_none (hplain.signalName hsignal)] at hsome
      cases hsome
  · rintro ⟨hkeys, hruleName, htaken⟩
    have hkind : searchKindOf row.cells = .text row.kind := by
      rw [searchKindOf, hkindCell]
      cases hkey : row.keyOf "event.kind" with
      | none => rfl
      | some key => exact hkeys key ((keyOf_eq_some_iff hplain).mp hkey)
    have hrule (hsignal : row.kind = "signal") : (row.cells.get? "rule.name").isSome := by
      -- the name is a key of the row
      obtain ⟨⟨name, key⟩, hpath, rfl⟩ := List.mem_map.mp (hruleName hsignal)
      rw [hruleCell, (keyOf_eq_some_iff hplain).mpr hpath]
      rfl
    have hmem := mem_askedValues_of_plain es form hrow hplain hkind hrule
    refine ⟨hkind, hrule, fun p hp => ?_, fun p hp hnot d hd => ?_, fun p hp hnot => ?_⟩
    · rcases (hmem p).mp hp with hp | rfl
      · exact htaken p hp
      · refine haccepted _ (List.mem_append_right _ (mem_clauses_eventKind form _))
    -- the one value that is no key is the kind, which the table has asked for
    · rcases (hmem p).mp hp with hp | rfl
      · exact absurd hp hnot
      · have htable := ((mem_docs_iff es form hrow).mp hd).1
        have hselects := (List.mem_filter.mp htable).2
        exact (BoolQuery.selects_iff.mp hselects).2.2 _ (mem_clauses_eventKind form _)
    · exact absurd ((hmem p).mpr (.inl hp)) hnot

/-- No row of alerts can be escalated: the flag that is asked for is what its documents have not. -/
theorem not_standsFor_escalate {row : TableRow Doc} (hes : es.Documented)
    (hrow : FromBucket es form row) (hkind : row.kind = "alert") :
    ¬ StandsFor es form row .escalate := by
  rintro ⟨⟨-, -, htaken, hadded, -⟩, -, hescalated⟩
  obtain ⟨d, hd⟩ := List.exists_mem_of_ne_nil _ hrow.nonempty
  obtain ⟨htable, hkeys⟩ := (mem_docs_iff es form hrow).mp hd
  have hasked : ("event.escalated", Cell.flag true) ∈
      askedValues (row.cells.upsert "event.escalated" (.flag true)) := by
    rw [mem_askedValues_iff]
    refine ⟨by decide, ?_⟩
    rw [if_neg (c := "event.escalated" = "signal.rule.name") (by decide),
      if_neg (c := "event.escalated" = "rule.name") (by decide), ite_self, Table.get?_upsert,
      if_pos rfl]
  have hmatches : es.applies matchEscalated d = true := by
    by_cases hpath : ("event.escalated", Cell.flag true) ∈ row.path
    · exact (hes.applies_key _ _ d d (hkeys _ hpath) (htaken _ hasked)).mpr (hkeys _ hpath)
    · exact hadded _ hasked hpath d hd
  have hselects := (List.mem_filter.mp htable).2
  have hnot : es.applies matchEscalated d = false := by
    refine (BoolQuery.selects_iff.mp hselects).2.1 matchEscalated ?_
    simp [tableQuery, queryClause, hkind, hescalated, yesNo]
  rw [hmatches] at hnot
  cases hnot

end Rows

/-! ## A signal -/

/-- A document with its fields. -/
structure Document where
  signal : Bool
  fields : List (String × Cell)
deriving DecidableEq

/-- A search over documents whose fields are all keywords, the range being that of all times. -/
def keywordElastic (docs : List Document) : Elastic Document where
  docs := docs
  isSignal d := d.signal
  applies
    | .matching field value, d => (field, value) ∈ d.fields
    | .range _ _, _ => true
  refuses _ := false
  keysOf field d := d.fields.filterMap fun p => if p.1 = field then some p.2 else none
  shown field docs := (docs.flatMap fun d => d.fields.filterMap fun p =>
    if p.1 = field then some p.2 else none).dedup.take 100
  reason _ _ _ := none
  ranked _ docs := docs
  hiveId d := d.fields.lookup "event.hive_id"

theorem documented_keywordElastic (docs : List Document) : (keywordElastic docs).Documented where
  shown_bucket field docs key hkey := by
    have hmem := List.mem_dedup.mp (List.mem_of_mem_take hkey)
    exact List.mem_flatMap.mp hmem
  applies_key field key d d' _ _ := by
    simp [keywordElastic]
  refuses_clause _ _ _ _ _ _ := rfl
  mem_ranked _ _ _ := Iff.rfl

/-- An open signal of the detection engine. -/
def openSignal : Document where
  signal := true
  fields := [("event.kind", .text "signal"), ("event.module", .text "suricata"),
    ("signal.status", .text "open"), ("signal.rule.name", .text "ET SCAN")]

def newAlertsForm : AlertForm where
  acknowledged := false
  escalated := false
  showClosed := false
  startDatetime := "2022-03-01T00:00:00.000Z"
  endDatetime := "2022-03-02T00:00:00.000Z"

/-- Its row, grouped by the module. -/
def moduleRow : TableRow Document where
  cells :=
    { rows := [("count", .number 1), ("event.module", .text "suricata"),
        ("event.kind", .text "signal")]
      nodup := by decide }
  kind := "signal"
  path := [("event.module", .text "suricata")]
  docs := [openSignal]

theorem getAlerts_moduleRow :
    getAlerts (keywordElastic [openSignal]) newAlertsForm ["event.module"] = .ok [moduleRow] := by
  rfl

theorem denotes_moduleRow :
    Denotes (keywordElastic [openSignal]) newAlertsForm moduleRow .drillDown "~24" ↔
      StandsFor (keywordElastic [openSignal]) newAlertsForm moduleRow .drillDown :=
  denotes_iff (keywordElastic [openSignal]) newAlertsForm (documented_keywordElastic [openSignal])
    getAlerts_moduleRow (List.mem_singleton_self moduleRow) .drillDown "~24"

/-- The drill-down of a signal's row without a rule raises. -/
theorem not_denotes :
    ¬ ∀ (Doc : Type) (es : Elastic Doc) (form : AlertForm) (fields : List String)
      (rows : List (TableRow Doc)) (row : TableRow Doc) (action : AlertAction) (caseId : String),
      es.Documented → getAlerts es form fields = .ok rows → row ∈ rows →
        Denotes es form row action caseId := by
  intro h
  obtain ⟨docs, hdocs, -⟩ := h Document (keywordElastic [openSignal]) newAlertsForm ["event.module"]
    [moduleRow] moduleRow .drillDown "~24" (documented_keywordElastic [openSignal])
    getAlerts_moduleRow (List.mem_singleton_self moduleRow)
  have hraises : AlertAction.request (keywordElastic [openSignal]) .drillDown newAlertsForm "~24"
      moduleRow.cells = .error (.keyError "rule.name") := by rfl
  rw [hraises] at hdocs
  cases hdocs

end Tfplenum
