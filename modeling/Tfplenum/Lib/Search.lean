/-
  Tfplenum.Lib.Search

  Documents under boolean queries and nested `terms` aggregations.  What a clause says of
  a document, the keys a document has in a field and the keys that an answer shows are
  parameters; a bucket holds the documents of the query that have its key and those of
  the buckets it is in.
-/

import Mathlib.Data.List.Basic

namespace Tfplenum.Lib

/-! ## Boolean queries -/

structure BoolQuery (Clause : Type) where
  must : List Clause
  mustNot : List Clause
  filter : List Clause
deriving DecidableEq, Repr

namespace BoolQuery

variable {Clause Doc : Type}

def clauses (q : BoolQuery Clause) : List Clause := q.must ++ q.mustNot ++ q.filter

/-- The query selects the document. -/
def selects (applies : Clause → Doc → Bool) (q : BoolQuery Clause) (d : Doc) : Bool :=
  q.must.all (applies · d) && q.mustNot.all (!applies · d) && q.filter.all (applies · d)

/-- The query of one clause. -/
def single (c : Clause) : BoolQuery Clause := ⟨[c], [], []⟩

variable {applies : Clause → Doc → Bool} {q : BoolQuery Clause} {d : Doc}

theorem selects_iff :
    q.selects applies d = true ↔
      (∀ c ∈ q.must, applies c d = true) ∧ (∀ c ∈ q.mustNot, applies c d = false) ∧
        ∀ c ∈ q.filter, applies c d = true := by
  simp only [selects, Bool.and_eq_true, List.all_eq_true, Bool.not_eq_true', and_assoc]

theorem selects_single {c : Clause} : (single c).selects applies d = applies c d := by
  simp [selects, single]

end BoolQuery

/-! ## Aggregations -/

/-- The answer to nested aggregations: the keys of the buckets, and the documents and the inner
    answer of each. -/
inductive Buckets (Key Doc : Type) where
  | leaf
  | node (keys : List Key) (docs : Key → List Doc) (inner : Key → Buckets Key Doc)

section Aggregate

variable {Field Key Doc : Type}

/-- The document has the keys in the fields. -/
def HasKeys (keysOf : Field → Doc → List Key) (path : List (Field × Key)) (d : Doc) : Prop :=
  ∀ p ∈ path, p.2 ∈ keysOf p.1 d

variable [DecidableEq Key]

instance (keysOf : Field → Doc → List Key) (path : List (Field × Key)) (d : Doc) :
    Decidable (HasKeys keysOf path d) :=
  inferInstanceAs (Decidable (∀ p ∈ path, p.2 ∈ keysOf p.1 d))

/-- The documents that have the keys. -/
def bucketDocs (keysOf : Field → Doc → List Key) (path : List (Field × Key)) (docs : List Doc) :
    List Doc :=
  docs.filter fun d => HasKeys keysOf path d

/-- A bucket within a bucket. -/
theorem bucketDocs_append (keysOf : Field → Doc → List Key) (path path' : List (Field × Key))
    (docs : List Doc) :
    bucketDocs keysOf path' (bucketDocs keysOf path docs) =
      bucketDocs keysOf (path ++ path') docs := by
  rw [bucketDocs, bucketDocs, bucketDocs, List.filter_filter]
  congr 1
  funext d
  rw [← Bool.decide_and]
  refine decide_eq_decide.mpr ?_
  rw [and_comm]
  exact List.forall_mem_append.symm

/-- Aggregations nested in the order of the fields, the first outermost. -/
def aggregate (keysOf : Field → Doc → List Key) (shown : Field → List Doc → List Key) :
    List Field → List Doc → Buckets Key Doc
  | [], _ => .leaf
  | field :: fields, docs =>
      .node (shown field docs) (fun key => bucketDocs keysOf [(field, key)] docs) fun key =>
        aggregate keysOf shown fields (bucketDocs keysOf [(field, key)] docs)

end Aggregate

end Tfplenum.Lib
