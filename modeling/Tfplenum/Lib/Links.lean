/-
  Tfplenum.Lib.Links

  A many-to-many relation given as rows, each a key with the values linked to
  it, and its inversion into a dictionary from values to keys.  The dictionary
  has room for one key for each value, and the last one that lists it stays.
-/

import Tfplenum.Lib.Table
import Mathlib.Data.List.Induction

namespace Tfplenum.Lib

namespace Links

variable {κ α : Type}

/-! ## The relation -/

/-- The row of `k` lists `a`. -/
def Linked (rows : List (κ × List α)) (a : α) (k : κ) : Prop :=
  ∃ values, (k, values) ∈ rows ∧ a ∈ values

/-- `k` is the key of the last row that lists `a`. -/
def LastLinked (rows : List (κ × List α)) (a : α) (k : κ) : Prop :=
  ∃ front values back, rows = front ++ (k, values) :: back ∧ a ∈ values ∧ ∀ row ∈ back, a ∉ row.2

theorem LastLinked.linked {rows : List (κ × List α)} {a : α} {k : κ} (h : LastLinked rows a k) :
    Linked rows a k := by
  obtain ⟨front, values, back, rfl, hmem, -⟩ := h
  exact ⟨values, by simp, hmem⟩

theorem not_lastLinked_nil (a : α) (k : κ) : ¬LastLinked ([] : List (κ × List α)) a k := by
  rintro ⟨front, values, back, hrows, -⟩
  simp at hrows

/-- A row added at the end takes over the values it lists. -/
theorem lastLinked_append_of_mem {rows : List (κ × List α)} {values : List α} {a : α} {k k' : κ}
    (hmem : a ∈ values) : LastLinked (rows ++ [(k', values)]) a k ↔ k = k' := by
  constructor
  · rintro ⟨front, listed, back, hrows, -, hback⟩
    -- a row behind the one that lists `a` would be the added row, which lists it too
    cases back using List.reverseRecOn with
    | nil =>
        obtain ⟨-, hlast⟩ := List.append_inj' hrows rfl
        simp only [List.cons.injEq, Prod.mk.injEq, and_true] at hlast
        exact hlast.1.symm
    | append_singleton back row =>
        rw [← List.cons_append, ← List.append_assoc] at hrows
        obtain ⟨-, hlast⟩ := List.append_inj' hrows rfl
        obtain rfl : (k', values) = row := by simpa using hlast
        exact absurd hmem (hback (k', values) (by simp))
  · rintro rfl
    exact ⟨rows, values, [], rfl, hmem, by simp⟩

/-- A row added at the end leaves the values it does not list as they were. -/
theorem lastLinked_append_of_not_mem {rows : List (κ × List α)} {values : List α} {a : α}
    {k k' : κ} (hmem : a ∉ values) :
    LastLinked (rows ++ [(k', values)]) a k ↔ LastLinked rows a k := by
  constructor
  · rintro ⟨front, listed, back, hrows, hlisted, hback⟩
    cases back using List.reverseRecOn with
    | nil =>
        obtain ⟨-, hlast⟩ := List.append_inj' hrows rfl
        simp only [List.cons.injEq, Prod.mk.injEq, and_true] at hlast
        exact absurd (hlast.2 ▸ hlisted) hmem
    | append_singleton back row =>
        rw [← List.cons_append, ← List.append_assoc] at hrows
        obtain ⟨hfront, -⟩ := List.append_inj' hrows rfl
        exact ⟨front, listed, back, hfront, hlisted, fun r hr => hback r (by simp [hr])⟩
  · rintro ⟨front, listed, back, rfl, hlisted, hback⟩
    refine ⟨front, listed, back ++ [(k', values)], by simp, hlisted, ?_⟩
    intro row hrow
    rcases List.mem_append.mp hrow with hrow | hrow
    · exact hback row hrow
    · rw [List.mem_singleton.mp hrow]
      exact hmem

/-- A value that is linked at all has a last key. -/
theorem exists_lastLinked {rows : List (κ × List α)} {a : α} {k : κ} (h : Linked rows a k) :
    ∃ k', LastLinked rows a k' := by
  induction rows using List.reverseRecOn with
  | nil =>
      obtain ⟨values, hrow, -⟩ := h
      cases hrow
  | append_singleton rows row ih =>
      obtain ⟨last, values⟩ := row
      by_cases hmem : a ∈ values
      · exact ⟨last, (lastLinked_append_of_mem hmem).mpr rfl⟩
      · obtain ⟨listed, hrow, hlisted⟩ := h
        rcases List.mem_append.mp hrow with hrow | hrow
        · obtain ⟨k', hk'⟩ := ih ⟨listed, hrow, hlisted⟩
          exact ⟨k', (lastLinked_append_of_not_mem hmem).mpr hk'⟩
        · cases List.mem_singleton.mp hrow
          exact absurd hlisted hmem

/-! ## The dictionary -/

variable [DecidableEq α]

/-- `for a in values: links[a] = k` -/
def assign (links : Table α κ) (row : κ × List α) : Table α κ :=
  row.2.foldl (fun links a => links.upsert a row.1) links

/-- `for k in rows: for a in rows[k]: links[a] = k` -/
def invert (rows : List (κ × List α)) : Table α κ := rows.foldl assign Table.empty

theorem get?_assign (links : Table α κ) (row : κ × List α) (a : α) :
    (assign links row).get? a = if a ∈ row.2 then some row.1 else links.get? a := by
  obtain ⟨k, values⟩ := row
  unfold assign
  induction values generalizing links with
  | nil => simp
  | cons value values ih =>
      rw [List.foldl_cons, ih, Table.get?_upsert]
      by_cases hvalue : a = value
      · subst hvalue
        simp
      · simp [hvalue]

/-- The dictionary finds the last key that lists a value. -/
theorem get?_invert_eq_some_iff (rows : List (κ × List α)) (a : α) (k : κ) :
    (invert rows).get? a = some k ↔ LastLinked rows a k := by
  induction rows using List.reverseRecOn with
  | nil =>
      have hno := not_lastLinked_nil a k
      simp [invert, hno]
  | append_singleton rows row ih =>
      obtain ⟨k', values⟩ := row
      have hassign : invert (rows ++ [(k', values)]) = assign (invert rows) (k', values) := by
        rw [invert, List.foldl_append]
        rfl
      rw [hassign, get?_assign]
      by_cases hmem : a ∈ values
      · rw [if_pos hmem, lastLinked_append_of_mem hmem, Option.some.injEq, eq_comm]
      · rw [if_neg hmem, lastLinked_append_of_not_mem hmem, ih]

end Links

end Tfplenum.Lib
