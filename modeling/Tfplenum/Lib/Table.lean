/-
  Tfplenum.Lib.Table

  Keyed collections in insertion order: a list of rows with pairwise different
  keys, the condition being a field, so that a table with two rows of one key
  cannot be built.  The operations are those of a document collection addressed
  by its primary key; each comes with the lemma that says what `get?` finds
  afterwards, which is all that later proofs use.
-/

import Mathlib.Data.List.Nodup

namespace Tfplenum.Lib

/-- Rows in insertion order, no key twice. -/
structure Table (κ α : Type) where
  rows : List (κ × α)
  nodup : (rows.map Prod.fst).Nodup

namespace Table

variable {κ α : Type}

@[ext] theorem ext {t t' : Table κ α} (h : t.rows = t'.rows) : t = t' := by
  cases t
  cases t'
  simp_all

def empty : Table κ α := ⟨[], List.nodup_nil⟩

instance : Inhabited (Table κ α) := ⟨empty⟩

/-- The rows a query selects, in order. -/
def find (t : Table κ α) (q : κ → α → Bool) : List (κ × α) := t.rows.filter fun r => q r.1 r.2

/-- The first row a query selects. -/
def findOne (t : Table κ α) (q : κ → α → Bool) : Option (κ × α) := t.rows.find? fun r => q r.1 r.2

/-- Add a row for a key that is not there yet. -/
def append (t : Table κ α) (k : κ) (a : α) (hk : k ∉ t.rows.map Prod.fst) : Table κ α where
  rows := t.rows ++ [(k, a)]
  nodup := by
    rw [List.map_append, List.nodup_append]
    refine ⟨t.nodup, by simp, ?_⟩
    rintro x hx y hy rfl
    simp only [List.map_cons, List.map_nil, List.mem_singleton] at hy
    exact hk (hy ▸ hx)

/-- Keep the rows a query does not select. -/
def remove (t : Table κ α) (q : κ → α → Bool) : Table κ α where
  rows := t.rows.filter fun r => !q r.1 r.2
  nodup := t.nodup.sublist (List.filter_sublist.map _)

variable [DecidableEq κ]

/-- The row of a key. -/
def get? (t : Table κ α) (k : κ) : Option α := t.rows.lookup k

/-- Change the value of one key, if it is there. -/
def modify (t : Table κ α) (k : κ) (f : α → α) : Table κ α where
  rows := t.rows.map fun r => (r.1, if r.1 = k then f r.2 else r.2)
  nodup := by simpa [Function.comp_def] using t.nodup

/-- Add a row, unless its key is taken. -/
def insert? (t : Table κ α) (k : κ) (a : α) : Option (Table κ α) :=
  if hk : k ∈ t.rows.map Prod.fst then none else some (t.append k a hk)

/-- Replace the row of a key, or add it. -/
def upsert (t : Table κ α) (k : κ) (a : α) : Table κ α :=
  if hk : k ∈ t.rows.map Prod.fst then t.modify k fun _ => a else t.append k a hk

/-- Remove the row of a key. -/
def erase (t : Table κ α) (k : κ) : Table κ α := t.remove fun k' _ => k' = k

/-! ## What `get?` finds -/

@[simp] theorem get?_empty (k : κ) : (empty : Table κ α).get? k = none := rfl

theorem lookup_eq_some_iff {l : List (κ × α)} (hl : (l.map Prod.fst).Nodup) {k : κ} {a : α} :
    l.lookup k = some a ↔ (k, a) ∈ l := by
  induction l with
  | nil => simp
  | cons r l ih =>
      obtain ⟨k', a'⟩ := r
      simp only [List.map_cons, List.nodup_cons] at hl
      by_cases hkk : k = k'
      · subst hkk
        have hno : (k, a) ∉ l := fun hmem => hl.1 (List.mem_map_of_mem (f := Prod.fst) hmem)
        simp [hno, eq_comm]
      · have hb : (k == k') = false := by simpa using hkk
        simp [List.lookup_cons, hb, ih hl.2, hkk]

theorem get?_eq_some_iff {t : Table κ α} {k : κ} {a : α} :
    t.get? k = some a ↔ (k, a) ∈ t.rows :=
  lookup_eq_some_iff t.nodup

theorem get?_eq_none_iff {t : Table κ α} {k : κ} : t.get? k = none ↔ k ∉ t.rows.map Prod.fst := by
  rw [Option.eq_none_iff_forall_ne_some]
  simp only [ne_eq, get?_eq_some_iff, List.mem_map, Prod.exists, exists_and_right, exists_eq_right,
    not_exists]

theorem isSome_get?_iff {t : Table κ α} {k : κ} :
    (t.get? k).isSome = true ↔ k ∈ t.rows.map Prod.fst := by
  rw [Option.isSome_iff_ne_none, ne_eq, get?_eq_none_iff, not_not]

@[simp] theorem get?_modify (t : Table κ α) (k k' : κ) (f : α → α) :
    (t.modify k f).get? k' = if k' = k then (t.get? k').map f else t.get? k' := by
  change List.lookup k' (t.rows.map _) =
    if k' = k then (t.rows.lookup k').map f else t.rows.lookup k'
  induction t.rows with
  | nil => simp
  | cons r l ih =>
      obtain ⟨k'', a⟩ := r
      simp only [List.map_cons, List.lookup_cons]
      by_cases hk'' : k' = k''
      · subst hk''
        by_cases hk : k' = k <;> simp [hk]
      · have hb : (k' == k'') = false := by simpa using hk''
        simp only [hb]
        exact ih

theorem get?_append (t : Table κ α) (k : κ) (a : α) (hk : k ∉ t.rows.map Prod.fst) (k' : κ) :
    (t.append k a hk).get? k' = if k' = k then some a else t.get? k' := by
  have hnone : t.get? k = none := get?_eq_none_iff.mpr hk
  unfold get? append at *
  simp only [List.lookup_append, List.lookup_cons, List.lookup_nil]
  by_cases hkk : k' = k
  · subst hkk
    simp [hnone]
  · have hb : (k' == k) = false := by simpa using hkk
    simp [hb, hkk]

@[simp] theorem get?_upsert (t : Table κ α) (k k' : κ) (a : α) :
    (t.upsert k a).get? k' = if k' = k then some a else t.get? k' := by
  unfold upsert
  split
  · rename_i hk
    rw [get?_modify]
    split
    · rename_i hkk
      subst hkk
      obtain ⟨b, hb⟩ := Option.isSome_iff_exists.mp
        (Option.isSome_iff_ne_none.mpr fun h => get?_eq_none_iff.mp h hk)
      simp [hb]
    · rfl
  · exact get?_append ..

theorem lookup_eq_none_of_notMem {l : List (κ × α)} {k : κ} (h : k ∉ l.map Prod.fst) :
    l.lookup k = none := by
  rw [List.lookup_eq_none_iff]
  intro r hr
  have hne : k ≠ r.1 := fun heq => h (heq ▸ List.mem_map_of_mem hr)
  simpa using hne

/-- Writing rows of different keys, one after the other. -/
theorem get?_foldl_upsert {rows : List (κ × α)} (hrows : (rows.map Prod.fst).Nodup)
    (base : Table κ α) (key : κ) :
    (rows.foldl (fun cells item => cells.upsert item.1 item.2) base).get? key =
      (rows.lookup key).or (base.get? key) := by
  induction rows generalizing base with
  | nil => rfl
  | cons item rows ih =>
      obtain ⟨name, value⟩ := item
      rw [List.map_cons, List.nodup_cons] at hrows
      rw [List.foldl_cons, ih hrows.2, Table.get?_upsert, List.lookup_cons]
      by_cases hkey : key = name
      · -- the keys that come later are others
        have hnone : rows.lookup name = none := lookup_eq_none_of_notMem hrows.1
        subst hkey
        rw [hnone, if_pos rfl, beq_self_eq_true]
        rfl
      · rw [if_neg hkey, beq_eq_false_iff_ne.mpr hkey]

@[simp] theorem keys_modify (t : Table κ α) (k : κ) (f : α → α) :
    (t.modify k f).rows.map Prod.fst = t.rows.map Prod.fst := by
  simp [modify, Function.comp_def]

/-- The rows are the keys with what is found for them. -/
theorem map_some_rows (t : Table κ α) :
    t.rows.map (fun r => (r.1, some r.2)) =
      (t.rows.map Prod.fst).map fun k => (k, t.get? k) := by
  rw [List.map_map]
  refine List.map_congr_left fun r hr => ?_
  show (r.1, some r.2) = (r.1, t.get? r.1)
  rw [get?_eq_some_iff.mpr hr]

/-- A table is given by its keys, in their order, and what is found for them. -/
theorem ext_get? {t t' : Table κ α} (hkeys : t.rows.map Prod.fst = t'.rows.map Prod.fst)
    (h : ∀ k, t.get? k = t'.get? k) : t = t' := by
  have hrows := t.map_some_rows
  rw [hkeys, funext h, ← t'.map_some_rows] at hrows
  have hinj : Function.Injective fun r : κ × α => (r.1, some r.2) := by
    rintro ⟨k, a⟩ ⟨k', a'⟩ heq
    simpa using heq
  exact ext (List.map_injective_iff.mpr hinj hrows)

/-- Writing back what is there changes nothing. -/
theorem upsert_of_get? {t : Table κ α} {k : κ} {a : α} (h : t.get? k = some a) :
    t.upsert k a = t := by
  have hrow := get?_eq_some_iff.mp h
  have hk : k ∈ t.rows.map Prod.fst := List.mem_map_of_mem hrow
  rw [upsert, dif_pos hk]
  refine ext ?_
  show t.rows.map (fun r => (r.1, if r.1 = k then a else r.2)) = t.rows
  conv_rhs => rw [← List.map_id t.rows]
  refine List.map_congr_left fun r hr => ?_
  obtain ⟨k', b⟩ := r
  by_cases hk' : k' = k
  · subst hk'
    have hb := h.symm.trans (get?_eq_some_iff.mpr hr)
    rw [if_pos rfl, Option.some.inj hb]
    rfl
  · rw [if_neg hk']
    rfl

/-- A row for a free key is added at the end. -/
theorem rows_upsert_of_none {t : Table κ α} {k : κ} (a : α) (h : t.get? k = none) :
    (t.upsert k a).rows = t.rows ++ [(k, a)] := by
  rw [upsert, dif_neg (get?_eq_none_iff.mp h)]
  rfl

theorem insert?_eq_none_iff {t : Table κ α} {k : κ} {a : α} :
    t.insert? k a = none ↔ (t.get? k).isSome := by
  rw [isSome_get?_iff]
  simp [insert?]

@[simp] theorem get?_remove (t : Table κ α) (q : κ → α → Bool) (k : κ) :
    (t.remove q).get? k = (t.get? k).filter fun a => !q k a := by
  ext a
  simp only [get?_eq_some_iff, remove, List.mem_filter, Option.filter_eq_some_iff]

@[simp] theorem get?_erase (t : Table κ α) (k k' : κ) :
    (t.erase k).get? k' = if k' = k then none else t.get? k' := by
  rw [erase, get?_remove]
  split
  · rename_i hk
    subst hk
    simp
  · rename_i hk
    cases t.get? k' <;> simp [hk]

/-- Removing a row that is not there changes nothing. -/
theorem erase_eq_self_iff {t : Table κ α} {k : κ} : t.erase k = t ↔ t.get? k = none := by
  constructor
  · intro h
    rw [← h, get?_erase, if_pos rfl]
  · intro h
    refine ext (List.filter_eq_self.mpr fun r hr => ?_)
    have hne : r.1 ≠ k := fun heq => get?_eq_none_iff.mp h (heq ▸ List.mem_map_of_mem hr)
    simpa using hne

theorem mem_find {t : Table κ α} {q : κ → α → Bool} {k : κ} {a : α} :
    (k, a) ∈ t.find q ↔ t.get? k = some a ∧ q k a = true := by
  simp [find, get?_eq_some_iff]

/-- A change of a row that the query selects neither before nor after does not show. -/
theorem find_modify {t : Table κ α} {q : κ → α → Bool} {k : κ} {f : α → α}
    (h : ∀ a, t.get? k = some a → q k a = false ∧ q k (f a) = false) :
    (t.modify k f).find q = t.find q := by
  have hrows : ∀ r ∈ t.rows, r.1 = k → q k r.2 = false ∧ q k (f r.2) = false := by
    rintro ⟨k', a⟩ hmem rfl
    exact h a (get?_eq_some_iff.mpr hmem)
  change (t.rows.map fun r => (r.1, if r.1 = k then f r.2 else r.2)).filter _ = t.rows.filter _
  generalize t.rows = rows at hrows ⊢
  induction rows with
  | nil => rfl
  | cons r rows ih =>
      have hrest := ih fun r' hr' => hrows r' (List.mem_cons_of_mem _ hr')
      rw [List.map_cons, List.filter_cons, List.filter_cons, hrest]
      by_cases hk : r.1 = k
      · obtain ⟨hq, hqf⟩ := hrows r (List.mem_cons_self ..) hk
        simp [hk, hq, hqf]
      · simp [hk]

/-- What `findOne` hands out is a stored row that the query selects. -/
theorem findOne_eq_some {t : Table κ α} {q : κ → α → Bool} {k : κ} {a : α}
    (h : t.findOne q = some (k, a)) : t.get? k = some a ∧ q k a = true := by
  unfold findOne at h
  exact ⟨get?_eq_some_iff.mpr (List.mem_of_find?_eq_some h), by simpa using List.find?_some h⟩

theorem findOne_eq_none_iff {t : Table κ α} {q : κ → α → Bool} :
    t.findOne q = none ↔ ∀ k a, t.get? k = some a → q k a = false := by
  simp [findOne, get?_eq_some_iff]

end Table

end Tfplenum.Lib
