/-
  Tfplenum.Lib.Noted

  Programs that put notes on record between their operations: notifications, log
  lines, whatever is only ever added.  A part that puts none on record is a program
  over the operations alone (`quiet`); what it answers and does to the state does
  not depend on the notes.
-/

import Tfplenum.Lib.Program

namespace Tfplenum.Lib

variable {Note Op : Type} {Res : Op → Type} {ε σ α : Type}

/-- An operation, or a note that is put on record. -/
inductive NoteOp (Note Op : Type) where
  | note (n : Note)
  | perform (op : Op)

abbrev NoteOp.Answer (Res : Op → Type) : NoteOp Note Op → Type
  | .note _ => Unit
  | .perform op => Res op

/-- The notes so far, beside the state. -/
structure Noted (Note σ : Type) where
  notes : List Note
  state : σ

def NoteOp.handle (h : Handler Op Res σ) :
    Handler (NoteOp Note Op) (NoteOp.Answer Res) (Noted Note σ)
  | .note n, s => ((), { s with notes := s.notes ++ [n] })
  | .perform op, s => ((h op s.state).1, { s with state := (h op s.state).2 })

/-- An operation, or a note in `A`. -/
def NoteOp.Notes (A : Note → Prop) : NoteOp Note Op → Prop
  | .note n => A n
  | .perform _ => True

namespace Program

def note (n : Note) : Program (NoteOp Note Op) (NoteOp.Answer Res) ε Unit := .call (.note n) .done

/-- The program as a part that puts nothing on record. -/
def quiet : Program Op Res ε α → Program (NoteOp Note Op) (NoteOp.Answer Res) ε α
  | .done a => .done a
  | .raise e => .raise e
  | .call op k => .call (.perform op) fun r => quiet (k r)

variable (h : Handler Op Res σ)

@[simp] theorem run_note (n : Note) (s : Noted Note σ) :
    (note n : Program (NoteOp Note Op) (NoteOp.Answer Res) ε Unit).run (NoteOp.handle h) s =
      (.ok (), { s with notes := s.notes ++ [n] }) := rfl

@[simp] theorem run_note_bind (n : Note)
    (f : Unit → Program (NoteOp Note Op) (NoteOp.Answer Res) ε α) (s : Noted Note σ) :
    ((note n).bind f).run (NoteOp.handle h) s =
      (f ()).run (NoteOp.handle h) { s with notes := s.notes ++ [n] } := rfl

theorem run_quiet (p : Program Op Res ε α) (s : Noted Note σ) :
    (quiet p).run (NoteOp.handle h) s =
      ((p.run h s.state).1, { s with state := (p.run h s.state).2 }) := by
  induction p generalizing s with
  | done a => rfl
  | raise e => rfl
  | call op k ih => exact ih _ _

variable {h} {A : Note → Prop}

theorem uses_note {n : Note} (hn : A n) :
    (note n : Program (NoteOp Note Op) (NoteOp.Answer Res) ε Unit).Uses (NoteOp.Notes A) :=
  .call hn fun _ => .done ()

theorem uses_quiet (p : Program Op Res ε α) : (quiet p).Uses (NoteOp.Notes A) := by
  induction p with
  | done a => exact .done a
  | raise e => exact .raise e
  | call op k ih => exact .call trivial ih

/-- A reading of the notes that passes over all notes of a program. -/
theorem filterMap_notes_of_uses {β : Type} {f : Note → Option β}
    {p : Program (NoteOp Note Op) (NoteOp.Answer Res) ε α}
    (hp : p.Uses (NoteOp.Notes fun n => f n = none)) (w : Noted Note σ) :
    (p.run (NoteOp.handle h) w).2.notes.filterMap f = w.notes.filterMap f := by
  refine hp.run_invariant (NoteOp.handle h)
    (I := fun v => v.notes.filterMap f = w.notes.filterMap f) ?_ rfl
  intro op s hop hs
  cases op with
  | note n =>
      change (s.notes ++ [n]).filterMap f = _
      rw [List.filterMap_append, List.filterMap_cons_none hop, List.filterMap_nil, List.append_nil]
      exact hs
  | perform op => exact hs

end Program

end Tfplenum.Lib
