/-
  Tfplenum.Lib.DocStore

  A document database: one table of documents per collection, and the driver
  calls on it as operations.  Each operation is atomic, as a single-document
  write and a single read are in the database; anything a program does in
  several calls is several operations.

  `DocOp.apply_of_ne` is the frame rule: an operation on one collection leaves
  the others as they are.
-/

import Mathlib.Logic.Function.Basic
import Tfplenum.Lib.Program
import Tfplenum.Lib.Table

namespace Tfplenum.Lib

/-- A database over the collections `C`, whose documents have the type `Doc c`
    besides their `_id`. -/
abbrev Store {C : Type} (Doc : C → Type) := (c : C) → Table String (Doc c)

/-- The driver calls. -/
inductive DocOp {C : Type} (Doc : C → Type) where
  /-- `list(find(q))` -/
  | find (c : C) (q : String → Doc c → Bool)
  /-- `find_one(q)` -/
  | findOne (c : C) (q : String → Doc c → Bool)
  /-- `find_one({"_id": id})` -/
  | findById (c : C) (id : String)
  /-- `insert_one`, answered `false` for a duplicate key -/
  | insertOne (c : C) (id : String) (d : Doc c)
  /-- `update_one` and `find_one_and_update` by `_id`, answered with the document
      after the update -/
  | updateOne (c : C) (id : String) (f : Doc c → Doc c)
  /-- `find_one_and_replace` by `_id` with `upsert=True` -/
  | replaceOne (c : C) (id : String) (d : Doc c)
  /-- `delete_one` by `_id`, answered with the deleted count -/
  | deleteOne (c : C) (id : String)
  /-- `delete_many` and `drop` -/
  | deleteMany (c : C) (q : String → Doc c → Bool)

namespace DocOp

variable {C : Type} {Doc : C → Type}

/-- What a call answers. -/
abbrev Res : DocOp Doc → Type
  | .find c _ => List (String × Doc c)
  | .findOne c _ => Option (String × Doc c)
  | .findById c _ => Option (Doc c)
  | .insertOne _ _ _ => Bool
  | .updateOne c _ _ => Option (Doc c)
  | .replaceOne _ _ _ => Unit
  | .deleteOne _ _ => Nat
  | .deleteMany _ _ => Unit

/-- The collection a call is made on. -/
def collection : DocOp Doc → C
  | .find c _ => c
  | .findOne c _ => c
  | .findById c _ => c
  | .insertOne c _ _ => c
  | .updateOne c _ _ => c
  | .replaceOne c _ _ => c
  | .deleteOne c _ => c
  | .deleteMany c _ => c

/-- The calls that only read. -/
def reads : DocOp Doc → Bool
  | .find _ _ => true
  | .findOne _ _ => true
  | .findById _ _ => true
  | _ => false

variable [DecidableEq C]

/-- What a call answers and leaves in the database. -/
def apply : (op : DocOp Doc) → Store Doc → Res op × Store Doc
  | .find c q, s => ((s c).find q, s)
  | .findOne c q, s => ((s c).findOne q, s)
  | .findById c id, s => ((s c).get? id, s)
  | .insertOne c id d, s =>
      match (s c).insert? id d with
      | some t => (true, Function.update s c t)
      | none => (false, s)
  | .updateOne c id f, s =>
      (((s c).get? id).map f, Function.update s c ((s c).modify id f))
  | .replaceOne c id d, s => ((), Function.update s c ((s c).upsert id d))
  | .deleteOne c id, s =>
      (if ((s c).get? id).isSome then 1 else 0, Function.update s c ((s c).erase id))
  | .deleteMany c q, s => ((), Function.update s c ((s c).remove q))

@[simp] theorem apply_find (c : C) (q : String → Doc c → Bool) (s : Store Doc) :
    (DocOp.find c q).apply s = ((s c).find q, s) := rfl
@[simp] theorem apply_findOne (c : C) (q : String → Doc c → Bool) (s : Store Doc) :
    (DocOp.findOne c q).apply s = ((s c).findOne q, s) := rfl
@[simp] theorem apply_findById (c : C) (id : String) (s : Store Doc) :
    (DocOp.findById c id : DocOp Doc).apply s = ((s c).get? id, s) := rfl
@[simp] theorem apply_updateOne (c : C) (id : String) (f : Doc c → Doc c) (s : Store Doc) :
    (DocOp.updateOne c id f).apply s =
      (((s c).get? id).map f, Function.update s c ((s c).modify id f)) := rfl
@[simp] theorem apply_replaceOne (c : C) (id : String) (d : Doc c) (s : Store Doc) :
    (DocOp.replaceOne c id d).apply s = ((), Function.update s c ((s c).upsert id d)) := rfl
@[simp] theorem apply_deleteOne (c : C) (id : String) (s : Store Doc) :
    (DocOp.deleteOne c id : DocOp Doc).apply s =
      (if ((s c).get? id).isSome then 1 else 0, Function.update s c ((s c).erase id)) := rfl
@[simp] theorem apply_deleteMany (c : C) (q : String → Doc c → Bool) (s : Store Doc) :
    (DocOp.deleteMany c q).apply s = ((), Function.update s c ((s c).remove q)) := rfl

/-- An insertion under a key that is taken changes nothing. -/
theorem apply_insertOne_of_some {c : C} {id : String} {d : Doc c} {s : Store Doc}
    (hid : ((s c).get? id).isSome) : (DocOp.insertOne c id d).apply s = (false, s) := by
  simp only [apply, Table.insert?_eq_none_iff.mpr hid]

/-- An insertion under a free key adds the document. -/
theorem apply_insertOne_of_none {c : C} {id : String} {d : Doc c} {s : Store Doc}
    (hid : (s c).get? id = none) :
    (DocOp.insertOne c id d).apply s = (true, Function.update s c ((s c).upsert id d)) := by
  have hk : id ∉ (s c).rows.map Prod.fst := Table.get?_eq_none_iff.mp hid
  simp only [apply, Table.insert?, Table.upsert, dif_neg hk]

theorem apply_of_reads {op : DocOp Doc} (h : op.reads = true) (s : Store Doc) :
    (op.apply s).2 = s := by
  cases op <;> first | rfl | simp [reads] at h

/-- The frame rule. -/
theorem apply_of_ne {op : DocOp Doc} {c : C} (h : op.collection ≠ c) (s : Store Doc) :
    (op.apply s).2 c = s c := by
  cases op with
  | insertOne c' id d =>
      simp only [apply]
      split
      · exact Function.update_of_ne (Ne.symm h) _ _
      · rfl
  | find c' q => rfl
  | findOne c' q => rfl
  | findById c' id => rfl
  | updateOne c' id f => exact Function.update_of_ne (Ne.symm h) _ _
  | replaceOne c' id d => exact Function.update_of_ne (Ne.symm h) _ _
  | deleteOne c' id => exact Function.update_of_ne (Ne.symm h) _ _
  | deleteMany c' q => exact Function.update_of_ne (Ne.symm h) _ _

end DocOp

end Tfplenum.Lib
