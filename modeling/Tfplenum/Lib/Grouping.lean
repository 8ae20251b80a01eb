/-
  Tfplenum.Lib.Grouping

  The elements of a list collected in a table under their keys, and lists of groups that
  put a list in another order.
-/

import Tfplenum.Lib.Table

namespace Tfplenum.Lib.Grouping

variable {κ α : Type} [DecidableEq κ]

/-- Add an element to the group of the key, which may be a new one. -/
def push (t : Table κ (List α)) (k : κ) (a : α) : Table κ (List α) :=
  t.upsert k ((t.get? k).getD [] ++ [a])

/-- The group of a key, empty if there is none. -/
def group (t : Table κ (List α)) (k : κ) : List α := (t.get? k).getD []

theorem group_push (t : Table κ (List α)) (k k' : κ) (a : α) :
    group (push t k a) k' = if k = k' then group t k' ++ [a] else group t k' := by
  unfold group push
  rw [Table.get?_upsert]
  by_cases h : k' = k
  · subst h
    simp
  · rw [if_neg h, if_neg (Ne.symm h)]

theorem mem_keys_push (t : Table κ (List α)) (k k' : κ) (a : α) :
    k' ∈ (push t k a).rows.map Prod.fst ↔ k' = k ∨ k' ∈ t.rows.map Prod.fst := by
  rw [← Table.isSome_get?_iff, ← Table.isSome_get?_iff, push, Table.get?_upsert]
  by_cases h : k' = k <;> simp [h]

section PushAll

variable (key : α → κ)

/-- Add the elements of a list, one after the other. -/
def pushAll (t : Table κ (List α)) (l : List α) : Table κ (List α) :=
  l.foldl (fun t a => push t (key a) a) t

theorem group_pushAll (t : Table κ (List α)) (l : List α) (k : κ) :
    group (pushAll key t l) k = group t k ++ l.filter fun a => key a = k := by
  unfold pushAll
  induction l generalizing t with
  | nil => simp
  | cons a l ih =>
      rw [List.foldl_cons, ih, group_push, List.filter_cons]
      by_cases h : key a = k <;> simp [h]

theorem mem_keys_pushAll (t : Table κ (List α)) (l : List α) (k : κ) :
    k ∈ (pushAll key t l).rows.map Prod.fst ↔
      k ∈ t.rows.map Prod.fst ∨ ∃ a ∈ l, key a = k := by
  unfold pushAll
  induction l generalizing t with
  | nil => simp
  | cons a l ih =>
      rw [List.foldl_cons, ih, mem_keys_push, List.exists_mem_cons_iff, or_comm (a := k = key a),
        or_assoc, eq_comm (a := k)]

end PushAll

/-- The groups of different keys, if every element's key is among them, are a partition. -/
theorem flatMap_filter_perm {key : α → κ} {keys : List κ} (hkeys : keys.Nodup) {l : List α}
    (hall : ∀ a ∈ l, key a ∈ keys) :
    (keys.flatMap fun k => l.filter fun a => key a = k).Perm l := by
  induction keys generalizing l with
  | nil =>
      rw [List.eq_nil_iff_forall_not_mem.mpr fun a ha => List.not_mem_nil (hall a ha)]
      exact List.Perm.refl _
  | cons k keys ih =>
      rw [List.nodup_cons] at hkeys
      -- the elements of the other keys are left
      have hrest := ih hkeys.2 (l := l.filter fun a => !decide (key a = k)) (by
        intro a ha
        rw [List.mem_filter] at ha
        exact (List.mem_cons.mp (hall a ha.1)).resolve_left (by simpa using ha.2))
      have hsame : (keys.flatMap fun k' => (l.filter fun a => !decide (key a = k)).filter
          fun a => key a = k') = keys.flatMap fun k' => l.filter fun a => key a = k' := by
        apply List.flatMap_congr
        intro k' hk'
        rw [List.filter_filter]
        apply List.filter_congr
        intro a ha
        have hne : k' ≠ k := fun h => hkeys.1 (h ▸ hk')
        by_cases h : key a = k' <;> simp [h, hne]
      rw [List.flatMap_cons, ← hsame]
      exact (List.Perm.append_left _ hrest).trans (List.filter_append_perm _ l)

end Tfplenum.Lib.Grouping
