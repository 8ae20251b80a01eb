/-
  Tfplenum.Lib.ZipArchive

  Archives by what Python's `zipfile` makes of them, and how one is unpacked into a
  directory: the parts `""`, `"."` and `".."` of a member's name are dropped, so that
  nothing is written outside, and a later member overwrites an earlier one at its place.

  The tree is that of the directory; its root is the directory itself.  Unpacking may raise
  at any member, and what was written before stays.
-/

import Mathlib.Data.Set.Finite.Basic
import Tfplenum.Lib.FileTree

namespace Tfplenum.Lib

/-! ## Archives -/

/-- What reading a member gives when its turn comes. -/
inductive ZipData (ε : Type) where
  | unreadable (e : ε)
  /-- a text, and whether reading raises behind it -/
  | read (text : String) (result : Except ε Unit)

structure ZipMember (ε : Type) where
  filename : String
  data : ZipData ε

inductive UnpackError (ε : Type) where
  | file (e : FileError)
  | data (e : ε)

namespace ZipMember

variable {ε : Type}

/-- The parts of the name that are kept. -/
def names (m : ZipMember ε) : List String :=
  (FileTree.names m.filename).filter fun name => name ≠ "" ∧ name ≠ "." ∧ name ≠ ".."

/-- `is_dir` -/
def isDir (m : ZipMember ε) : Bool := m.filename.toList.getLast? = some '/'

def place (m : ZipMember ε) : Place := m.names.reverse

/-- `getinfo(name)`: the last member of the name -/
def info (members : List (ZipMember ε)) (m : ZipMember ε) : ZipMember ε :=
  (members.reverse.find? fun m' => m'.filename = m.filename).getD m

/-- A regular file that holds the text. -/
def Holds (m : ZipMember ε) (text : String) : Prop := m.data = .read text (.ok ())

theorem info_eq {members : List (ZipMember ε)} {m : ZipMember ε} (hm : m ∈ members) :
    info members m ∈ members ∧ (info members m).filename = m.filename := by
  have hsome : (members.reverse.find? fun m' => m'.filename = m.filename).isSome = true := by
    rw [List.find?_isSome]
    exact ⟨m, List.mem_reverse.mpr hm, by simp⟩
  obtain ⟨m', hfind⟩ := Option.isSome_iff_exists.mp hsome
  have hname := List.find?_some hfind
  rw [info, hfind]
  exact ⟨List.mem_reverse.mp (List.mem_of_find?_eq_some hfind), by simpa using hname⟩

end ZipMember

namespace FileTree

variable {ε : Type} {t t' : FileTree}

/-! ## Unpacking -/

/-- A directory with nothing in it. -/
def empty : FileTree := ⟨fun p => if p = [] then some .directory else none⟩

/-- Make what is missing of the directories on the way, the first first.  A file in the way
    gives one error wherever it stands. -/
def makeDirs : FileTree → Place → List String → Except FileError Place × FileTree
  | t, p, [] => (.ok p, t)
  | t, p, name :: names =>
      if nameMax < name.utf8ByteSize then (.error .nameTooLong, t)
      else
        match t.entry (name :: p) with
        | some .directory => t.makeDirs (name :: p) names
        | some (.file _) => (.error .notADirectory, t)
        | none => (t.set (name :: p) .directory).makeDirs (name :: p) names

/-- Open a file of a directory for writing, and write. -/
def write (t : FileTree) (p : Place) (name text : String) : Except FileError FileTree :=
  if nameMax < name.utf8ByteSize then .error .nameTooLong
  else if t.entry (name :: p) = some .directory then .error .isADirectory
  else .ok (t.set (name :: p) (.file text))

/-- `_extract_member`; a member without a name raises as well. -/
def extractMember (t : FileTree) (m : ZipMember ε) : Except (UnpackError ε) Unit × FileTree :=
  if m.isDir then
    match t.makeDirs [] m.names with
    | (.ok _, t) => (.ok (), t)
    | (.error e, t) => (.error (.file e), t)
  else
    match m.place with
    | [] => (.error (.file .isADirectory), t)
    | name :: upper =>
        match t.makeDirs [] upper.reverse with
        | (.error e, t) => (.error (.file e), t)
        | (.ok p, t) =>
            match m.data with
            | .unreadable e => (.error (.data e), t)
            | .read text result =>
                match t.write p name text with
                | .error e => (.error (.file e), t)
                | .ok t => (result.mapError .data, t)

/-- The loop of `extractall` -/
def extractEach (members : List (ZipMember ε)) :
    List (ZipMember ε) → FileTree → Except (UnpackError ε) Unit × FileTree
  | [], t => (.ok (), t)
  | m :: rest, t =>
      match t.extractMember (m.info members) with
      | (.error e, t) => (.error e, t)
      | (.ok (), t) => extractEach members rest t

/-- `extractall` -/
def unpack (members : List (ZipMember ε)) (t : FileTree) :
    Except (UnpackError ε) Unit × FileTree :=
  extractEach members members t

/-! ## What is left -/

theorem makeDirs_ok {p q : Place} {names : List String} (h : t.makeDirs p names = (.ok q, t')) :
    q = names.reverse ++ p ∧
      ∀ r text, t'.entry r = some (.file text) ↔ t.entry r = some (.file text) := by
  induction names generalizing t p with
  | nil =>
      cases h
      exact ⟨rfl, fun r text => Iff.rfl⟩
  | cons name names ih =>
      rw [makeDirs] at h
      rw [List.reverse_cons, List.append_assoc, List.singleton_append]
      split at h
      · cases h
      split at h
      · exact ih h
      · cases h
      · rename_i hnone
        obtain ⟨hq, hfiles⟩ := ih h
        refine ⟨hq, fun r text => ?_⟩
        rw [hfiles]
        by_cases hr : r = name :: p
        · rw [hr, set_entry_self, hnone]
          simp
        · rw [set_entry_of_ne t _ hr]

/-- What unpacking a member does: it makes a directory, or the directories on the way to a file
    and the file. -/
theorem extractMember_cases {m : ZipMember ε} (h : t.extractMember m = (.ok (), t')) :
    (m.isDir = true ∧ ∃ p, t.makeDirs [] m.names = (.ok p, t')) ∨
      m.isDir = false ∧ ∃ name upper p t₁ text, m.place = name :: upper ∧
        t.makeDirs [] upper.reverse = (.ok p, t₁) ∧ m.Holds text ∧
          t' = t₁.set (name :: p) (.file text) := by
  unfold extractMember at h
  split_ifs at h with hdir
  · left
    split at h
    · rename_i p t₁ hdirs
      cases h
      exact ⟨hdir, p, hdirs⟩
    · cases h
  · right
    rw [Bool.not_eq_true] at hdir
    split at h
    · cases h
    rename_i name upper hplace
    split at h
    · cases h
    rename_i p t₁ hdirs
    split at h
    · cases h
    rename_i text result hdata
    split at h
    · cases h
    rename_i t₂ hwrite
    unfold write at hwrite
    split_ifs at hwrite
    cases hwrite
    -- the text is written before reading may raise
    cases result with
    | error e => cases h
    | ok u =>
        cases h
        exact ⟨hdir, name, upper, p, t₁, text, hplace, hdirs, hdata, rfl⟩

/-- A file is left as it was, but for that of the member. -/
theorem extractMember_ok {m : ZipMember ε} (h : t.extractMember m = (.ok (), t')) (r : Place)
    (text : String) : t'.entry r = some (.file text) ↔
      if m.isDir = false ∧ r = m.place then m.Holds text else t.entry r = some (.file text) := by
  rcases extractMember_cases h with ⟨hdir, p, hdirs⟩ |
    ⟨hdir, name, upper, p, t₁, part, hplace, hdirs, hholds, rfl⟩
  · rw [if_neg (fun hm => by simp [hdir] at hm)]
    exact (makeDirs_ok hdirs).2 r text
  · obtain ⟨hp, hfiles⟩ := makeDirs_ok hdirs
    rw [List.reverse_reverse, List.append_nil] at hp
    simp only [hdir, true_and]
    rw [hplace, hp]
    split_ifs with hr
    · rw [hr, set_entry_self, ZipMember.Holds, hholds]
      simp
    · rw [set_entry_of_ne t₁ _ hr, hfiles]

theorem exists_holds_of_extractMember {m : ZipMember ε} (h : t.extractMember m = (.ok (), t'))
    (hregular : m.isDir = false) : ∃ text, m.Holds text := by
  rcases extractMember_cases h with ⟨hdir, -⟩ | ⟨-, _, _, _, _, text, -, -, hholds, -⟩
  · rw [hregular] at hdir
    cases hdir
  · exact ⟨text, hholds⟩

/-- A member and what is unpacked for it have a place in common. -/
theorem place_info {members : List (ZipMember ε)} {m : ZipMember ε} (hm : m ∈ members) :
    (m.info members).place = m.place ∧ (m.info members).isDir = m.isDir := by
  obtain ⟨-, hname⟩ := ZipMember.info_eq hm
  rw [ZipMember.place, ZipMember.place, ZipMember.names, ZipMember.names, ZipMember.isDir,
    ZipMember.isDir, hname]
  exact ⟨rfl, rfl⟩

section Unpack

variable {members rest : List (ZipMember ε)}

/-- What is a file in the end is one that was unpacked, or was there and is none of them. -/
theorem file_of_extractEach (h : extractEach members rest t = (.ok (), t'))
    (hrest : ∀ m ∈ rest, m ∈ members) {r : Place} {text : String}
    (hfile : t'.entry r = some (.file text)) :
    (∃ m ∈ members, m.isDir = false ∧ m.place = r ∧ m.Holds text) ∨
      t.entry r = some (.file text) ∧ ∀ m ∈ rest, m.isDir = false → m.place ≠ r := by
  induction rest generalizing t with
  | nil =>
      cases h
      exact .inr ⟨hfile, by simp⟩
  | cons m rest ih =>
      rw [List.forall_mem_cons] at hrest
      rw [extractEach] at h
      split at h
      · cases h
      rename_i t₁ hmember
      rcases ih h hrest.2 with hsome | ⟨hbefore, hnone⟩
      · exact .inl hsome
      · obtain ⟨hplace, hdir⟩ := place_info hrest.1
        rw [extractMember_ok hmember, hplace, hdir] at hbefore
        split_ifs at hbefore with hr
        · exact .inl ⟨m.info members, (ZipMember.info_eq hrest.1).1, hdir.trans hr.1,
            hplace.trans hr.2.symm, hbefore⟩
        · refine .inr ⟨hbefore, List.forall_mem_cons.mpr ⟨?_, hnone⟩⟩
          exact fun hregular heq => hr ⟨hregular, heq.symm⟩

/-- What is a file stays one. -/
theorem exists_file_of_extractEach (h : extractEach members rest t = (.ok (), t'))
    (hrest : ∀ m ∈ rest, m ∈ members) {r : Place}
    (hr : (∃ text, t.entry r = some (.file text)) ∨ ∃ m ∈ rest, m.isDir = false ∧ m.place = r) :
    ∃ text, t'.entry r = some (.file text) := by
  induction rest generalizing t with
  | nil =>
      cases h
      simpa using hr
  | cons m rest ih =>
      rw [List.forall_mem_cons] at hrest
      rw [extractEach] at h
      split at h
      · cases h
      rename_i t₁ hmember
      obtain ⟨hplace, hdir⟩ := place_info hrest.1
      apply ih h hrest.2
      by_cases hhere : m.isDir = false ∧ r = m.place
      · obtain ⟨text, htext⟩ := exists_holds_of_extractMember hmember (hdir.trans hhere.1)
        refine .inl ⟨text, ?_⟩
        rw [extractMember_ok hmember, hplace, hdir, if_pos hhere]
        exact htext
      · rcases hr with ⟨text, hbefore⟩ | ⟨m', hm', hregular, hplace'⟩
        · refine .inl ⟨text, ?_⟩
          rw [extractMember_ok hmember, hplace, hdir, if_neg hhere]
          exact hbefore
        · rcases List.mem_cons.mp hm' with rfl | hmem
          · exact absurd ⟨hregular, hplace'.symm⟩ hhere
          · exact .inr ⟨m', hmem, hregular, hplace'⟩

theorem file_of_unpack (h : unpack members t = (.ok (), t')) {r : Place} {text : String}
    (hfile : t'.entry r = some (.file text)) :
    (∃ m ∈ members, m.isDir = false ∧ m.place = r ∧ m.Holds text) ∨
      t.entry r = some (.file text) ∧ ∀ m ∈ members, m.isDir = false → m.place ≠ r :=
  file_of_extractEach h (fun _ hm => hm) hfile

theorem exists_file_of_unpack (h : unpack members t = (.ok (), t')) {m : ZipMember ε}
    (hm : m ∈ members) (hregular : m.isDir = false) :
    ∃ text, t'.entry m.place = some (.file text) :=
  exists_file_of_extractEach h (fun _ hm => hm) (.inr ⟨m, hm, hregular, rfl⟩)

end Unpack

/-! ## Lists of files -/

def IsFinite (t : FileTree) : Prop := {p | t.entry p ≠ none}.Finite

/-- The list names each file once. -/
def Lists (t : FileTree) (files : List Place) : Prop :=
  files.Nodup ∧ ∀ p, p ∈ files ↔ ∃ text, t.entry p = some (.file text)

theorem IsFinite.set (h : t.IsFinite) (p : Place) (e : Entry) : (t.set p e).IsFinite := by
  apply (Set.Finite.insert p h).subset
  intro r hr
  by_cases heq : r = p
  · exact .inl heq
  · refine .inr ?_
    rw [Set.mem_ofPred_eq, set_entry_of_ne t e heq] at hr
    exact hr

theorem IsFinite.makeDirs (h : t.IsFinite) (p : Place) (names : List String) :
    (t.makeDirs p names).2.IsFinite := by
  induction names generalizing t p with
  | nil => exact h
  | cons name names ih =>
      rw [FileTree.makeDirs]
      split_ifs
      · exact h
      split
      · exact ih h _
      · exact h
      · exact ih (h.set _ _) _

theorem IsFinite.extractMember (h : t.IsFinite) (m : ZipMember ε) :
    (t.extractMember m).2.IsFinite := by
  unfold FileTree.extractMember
  split_ifs
  · have hdirs := h.makeDirs [] m.names
    split <;> rename_i hmake <;> rw [hmake] at hdirs <;> exact hdirs
  split
  · exact h
  rename_i name upper hplace
  have hdirs := h.makeDirs [] upper.reverse
  split
  · rename_i hmake
    rw [hmake] at hdirs
    exact hdirs
  rename_i p t₁ hmake
  rw [hmake] at hdirs
  split
  · exact hdirs
  split
  · exact hdirs
  rename_i t₂ hwrite
  unfold write at hwrite
  split_ifs at hwrite
  cases hwrite
  exact hdirs.set _ _

theorem IsFinite.unpack (h : t.IsFinite) (members : List (ZipMember ε)) :
    (FileTree.unpack members t).2.IsFinite := by
  have hrest (rest : List (ZipMember ε)) : (extractEach members rest t).2.IsFinite := by
    induction rest generalizing t with
    | nil => exact h
    | cons m rest ih =>
        rw [extractEach]
        have hmember := h.extractMember (m.info members)
        split
        · rename_i hextract
          rw [hextract] at hmember
          exact hmember
        · rename_i hextract
          rw [hextract] at hmember
          exact ih hmember
  exact hrest members

theorem IsFinite.of_unpack (h : t.IsFinite) {members : List (ZipMember ε)}
    {result : Except (UnpackError ε) Unit} (hunpack : FileTree.unpack members t = (result, t')) :
    t'.IsFinite := by
  have hunpacked := h.unpack members
  rw [hunpack] at hunpacked
  exact hunpacked

theorem isFinite_empty : empty.IsFinite := by
  apply (Set.finite_singleton ([] : Place)).subset
  intro p hp
  by_contra hne
  exact hp (if_neg hne)

/-- The files can be listed. -/
theorem IsFinite.exists_lists (h : t.IsFinite) : ∃ files, t.Lists files := by
  have hfiles : {p | ∃ text, t.entry p = some (.file text)}.Finite := by
    apply h.subset
    rintro p ⟨text, hp⟩ hnone
    rw [hp] at hnone
    cases hnone
  refine ⟨hfiles.toFinset.toList, Finset.nodup_toList _, fun p => ?_⟩
  rw [Finset.mem_toList, Set.Finite.mem_toFinset]
  rfl

/-- The order of a list is free. -/
theorem Lists.perm {files files' : List Place} (h : t.Lists files) (hperm : files'.Perm files) :
    t.Lists files' :=
  ⟨hperm.nodup_iff.mpr h.1, fun p => hperm.mem_iff.trans (h.2 p)⟩

end FileTree

end Tfplenum.Lib
