/-
  Tfplenum.Lib.Lines

  The lines of a stream: each ends with the newline, but for the last one, which
  may lack it.  A reader that holds only a part of the stream can cut the first
  line off as soon as it holds its newline (`splitLine`); what it cuts off are the
  lines of the whole stream, whatever comes behind (`lines_append_of_splitLine`).
-/

import Mathlib.Data.List.Basic

namespace Tfplenum.Lib.Lines

variable {α : Type} [DecidableEq α]

/-- The lines of a stream, with their newlines. -/
def lines (newline : α) : List α → List (List α)
  | [] => []
  | b :: bs =>
      if b = newline then [b] :: lines newline bs
      else
        match lines newline bs with
        | [] => [[b]]
        | line :: rest => (b :: line) :: rest

/-- The first line with its newline and what is behind it, if there is a newline. -/
def splitLine (newline : α) : List α → Option (List α × List α)
  | [] => none
  | b :: bs =>
      if b = newline then some ([b], bs)
      else (splitLine newline bs).map fun parts => (b :: parts.1, parts.2)

variable {newline : α}

@[simp] theorem lines_nil : lines newline [] = [] := rfl

theorem splitLine_eq_some {bs line rest : List α} (h : splitLine newline bs = some (line, rest)) :
    bs = line ++ rest ∧ line ≠ [] := by
  induction bs generalizing line with
  | nil => cases h
  | cons b bs ih =>
      rw [splitLine] at h
      split at h
      · cases h
        exact ⟨rfl, List.cons_ne_nil _ _⟩
      · obtain ⟨⟨line', rest'⟩, hsplit, hparts⟩ := Option.map_eq_some_iff.mp h
        cases hparts
        exact ⟨congrArg (b :: ·) (ih hsplit).1, List.cons_ne_nil _ _⟩

/-- A line that has been cut off is the first line of the stream, however the
    stream goes on. -/
theorem lines_append_of_splitLine {bs line rest : List α}
    (h : splitLine newline bs = some (line, rest)) (more : List α) :
    lines newline (bs ++ more) = line :: lines newline (rest ++ more) := by
  induction bs generalizing line with
  | nil => cases h
  | cons b bs ih =>
      rw [splitLine] at h
      rw [List.cons_append, lines]
      split at h
      · next hb =>
        cases h
        rw [if_pos hb]
      · next hb =>
        obtain ⟨⟨line', rest'⟩, hsplit, hparts⟩ := Option.map_eq_some_iff.mp h
        cases hparts
        rw [if_neg hb, ih hsplit]

/-- What has no newline is one line, if it is anything. -/
theorem lines_of_splitLine_eq_none {bs : List α} (h : splitLine newline bs = none) (hne : bs ≠ []) :
    lines newline bs = [bs] := by
  induction bs with
  | nil => exact absurd rfl hne
  | cons b bs ih =>
      rw [splitLine] at h
      split at h
      · cases h
      · next hb =>
        rw [lines, if_neg hb]
        cases bs with
        | nil => rfl
        | cons b' bs =>
            rw [ih (Option.map_eq_none_iff.mp h) (List.cons_ne_nil _ _)]

theorem lines_eq_nil_iff {bs : List α} : lines newline bs = [] ↔ bs = [] := by
  cases bs with
  | nil => exact iff_of_true rfl rfl
  | cons b bs =>
      refine iff_of_false ?_ (List.cons_ne_nil _ _)
      rw [lines]
      split
      · exact List.cons_ne_nil _ _
      · split <;> exact List.cons_ne_nil _ _

end Tfplenum.Lib.Lines
