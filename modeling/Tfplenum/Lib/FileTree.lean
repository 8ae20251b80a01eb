/-
  Tfplenum.Lib.FileTree

  Directories and files of a POSIX system without links: an entry for each place, a
  walk along the names of a path, and the calls that make a directory and open a
  file for writing.  The root is always a directory; a path that does not begin with
  a slash starts at a directory of the caller.

  Errors of permissions and space are not part of it.
-/

import Mathlib.Logic.Function.Basic

namespace Tfplenum.Lib

/-- The names on the way from the root, the last first. -/
abbrev Place := List String

inductive Entry where
  | directory
  | file (content : String)
deriving DecidableEq, Repr

inductive FileError where
  | embeddedNull | nameTooLong | notFound | notADirectory | isADirectory | alreadyExists
deriving DecidableEq, Repr

structure FileTree where
  entry : Place → Option Entry

namespace FileTree

/-- Put an entry at a place. -/
def set (t : FileTree) (p : Place) (e : Entry) : FileTree := ⟨Function.update t.entry p (some e)⟩

@[simp] theorem set_entry_self (t : FileTree) (p : Place) (e : Entry) :
    (t.set p e).entry p = some e :=
  Function.update_self ..

theorem set_entry_of_ne (t : FileTree) {p p' : Place} (e : Entry) (h : p' ≠ p) :
    (t.set p e).entry p' = t.entry p' :=
  Function.update_of_ne h ..

/-- `NAME_MAX` -/
def nameMax : Nat := 255

/-- Walk along names, each of which must be a directory. -/
def walk (t : FileTree) : Place → List String → Except FileError Place
  | p, [] => .ok p
  | p, name :: names =>
      if name = "" ∨ name = "." then t.walk p names
      else if name = ".." then t.walk p.tail names
      else if nameMax < name.utf8ByteSize then .error .nameTooLong
      else
        match t.entry (name :: p) with
        | some .directory => t.walk (name :: p) names
        | some (.file _) => .error .notADirectory
        | none => .error .notFound

/-- The names of a path. -/
def names (path : String) : List String := (path.toList.splitOn '/').map String.ofList

/-- Where a path starts. -/
def start (top : Place) (path : String) : Place := if path.toList.head? = some '/' then [] else top

/-- The place of the directory `mkdir` makes; slashes at the end are ignored. -/
def newDirectory (t : FileTree) (top : Place) (path : String) : Except FileError Place :=
  if '\x00' ∈ path.toList then .error .embeddedNull
  else
    match (names path).reverse.dropWhile (· = "") with
    | [] => .error .alreadyExists
    | last :: before =>
        match t.walk (start top path) before.reverse with
        | .error e => .error e
        | .ok p =>
            if last = "." ∨ last = ".." then .error .alreadyExists
            else if nameMax < last.utf8ByteSize then .error .nameTooLong
            else if (t.entry (last :: p)).isSome then .error .alreadyExists
            else .ok (last :: p)

/-- The place of the file that is opened for writing. -/
def openFile (t : FileTree) (top : Place) (path : String) : Except FileError Place :=
  if '\x00' ∈ path.toList then .error .embeddedNull
  else
    match (names path).reverse with
    | [] => .error .notFound
    | last :: before =>
        match t.walk (start top path) before.reverse with
        | .error e => .error e
        | .ok p =>
            if last = "" ∨ last = "." ∨ last = ".." then .error .isADirectory
            else if nameMax < last.utf8ByteSize then .error .nameTooLong
            else if t.entry (last :: p) = some .directory then .error .isADirectory
            else .ok (last :: p)

/-! ## What the calls leave -/

/-- The second tree has all directories of the first. -/
def Within (t t' : FileTree) : Prop :=
  ∀ p, t.entry p = some .directory → t'.entry p = some .directory

theorem Within.refl (t : FileTree) : t.Within t := fun _ h => h

theorem Within.trans {t t' t'' : FileTree} (h : t.Within t') (h' : t'.Within t'') : t.Within t'' :=
  fun p hp => h' p (h p hp)

/-- A place that is no directory may be written. -/
theorem within_set {t : FileTree} {p : Place} (e : Entry) (h : t.entry p ≠ some .directory) :
    t.Within (t.set p e) := by
  intro p' hp'
  by_cases hp : p' = p
  · subst hp
    exact absurd hp' h
  · rw [set_entry_of_ne t e hp]
    exact hp'

/-- A walk that succeeds does so with more directories. -/
theorem Within.walk {t t' : FileTree} (h : t.Within t') {p q : Place} {names : List String}
    (hwalk : t.walk p names = .ok q) : t'.walk p names = .ok q := by
  induction names generalizing p with
  | nil => exact hwalk
  | cons name names ih =>
      rw [FileTree.walk] at hwalk ⊢
      split
      · rename_i hdot
        rw [if_pos hdot] at hwalk
        exact ih hwalk
      rename_i hdot
      rw [if_neg hdot] at hwalk
      split
      · rename_i hup
        rw [if_pos hup] at hwalk
        exact ih hwalk
      rename_i hup
      rw [if_neg hup] at hwalk
      split
      · rename_i hlong
        rw [if_pos hlong] at hwalk
        cases hwalk
      rename_i hlong
      rw [if_neg hlong] at hwalk
      cases hentry : t.entry (name :: p) with
      | none =>
          rw [hentry] at hwalk
          cases hwalk
      | some e =>
          cases e with
          | file content =>
              rw [hentry] at hwalk
              cases hwalk
          | directory =>
              rw [hentry] at hwalk
              rw [h _ hentry]
              exact ih hwalk

/-- Nothing is at the place of a new directory. -/
theorem entry_newDirectory {t : FileTree} {top p : Place} {path : String}
    (h : t.newDirectory top path = .ok p) : t.entry p = none := by
  unfold newDirectory at h
  split at h
  · cases h
  split at h
  · cases h
  split at h
  · cases h
  rename_i at' _
  split at h
  · cases h
  split at h
  · cases h
  split at h
  · cases h
  · rename_i hnone
    cases h
    simpa using hnone

/-- The last name of a path, and the walk to the directory it is in. -/
structure Leads (t : FileTree) (top : Place) (path last : String) (q : Place)
    (before : List String) :
    Prop where
  noNull : '\x00' ∉ path.toList
  names : (names path).reverse = last :: before
  walk : t.walk (start top path) before.reverse = .ok q
  noDot : ¬ (last = "" ∨ last = "." ∨ last = "..")
  short : ¬ nameMax < last.utf8ByteSize

theorem exists_leads {t : FileTree} {top p : Place} {path : String}
    (h : t.openFile top path = .ok p) :
    ∃ last q before, t.Leads top path last q before ∧ p = last :: q ∧
      t.entry p ≠ some .directory := by
  unfold openFile at h
  split at h
  · cases h
  rename_i hnull
  split at h
  · cases h
  rename_i last before hnames
  split at h
  · cases h
  rename_i q hwalk
  split at h
  · cases h
  rename_i hdot
  split at h
  · cases h
  rename_i hlong
  split at h
  · cases h
  rename_i hdir
  cases h
  exact ⟨last, q, before, ⟨hnull, hnames, hwalk, hdot, hlong⟩, rfl, hdir⟩

theorem Leads.openFile {t : FileTree} {top q : Place} {path last : String} {before : List String}
    (h : t.Leads top path last q before) (hdir : t.entry (last :: q) ≠ some .directory) :
    t.openFile top path = .ok (last :: q) := by
  rw [FileTree.openFile, if_neg h.noNull, h.names]
  dsimp only
  rw [h.walk]
  dsimp only
  rw [if_neg h.noDot, if_neg h.short, if_neg hdir]

/-- No directory is at the place of a file that is opened. -/
theorem entry_openFile {t : FileTree} {top p : Place} {path : String}
    (h : t.openFile top path = .ok p) : t.entry p ≠ some .directory := by
  obtain ⟨_, _, _, _, _, hentry⟩ := exists_leads h
  exact hentry

/-- A path leads to the same place later, as long as no directory is there. -/
theorem Within.openFile {t t' : FileTree} (h : t.Within t') {top p : Place} {path : String}
    (hopen : t.openFile top path = .ok p) (hp : t'.entry p ≠ some .directory) :
    t'.openFile top path = .ok p := by
  obtain ⟨last, q, before, hleads, rfl, -⟩ := exists_leads hopen
  have hleads' : t'.Leads top path last q before := { hleads with walk := h.walk hleads.walk }
  exact hleads'.openFile hp

end FileTree

end Tfplenum.Lib
