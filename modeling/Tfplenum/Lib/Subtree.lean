/-
  Tfplenum.Lib.Subtree

  What is below a place of a file system: taken out, removed and put back, and the
  directories made that a path leads through.  A relative path is brought to its normal
  form first; one that does not begin with `".."` then consists of proper names.
-/

import Tfplenum.Lib.ZipArchive

namespace Tfplenum.Lib

namespace FileTree

/-! ## Relative paths -/

/-- One name of a path, on a stack -/
def normStep (stack : List String) (name : String) : List String :=
  if name = "" ∨ name = "." then stack
  else if name = ".." ∧ stack ≠ [] ∧ stack.head? ≠ some ".." then stack.tail
  else name :: stack

/-- `posixpath.normpath` of a relative path, by its names -/
def normpath (path : String) : List String := ((names path).foldl normStep []).reverse

/-- A name that an entry of a directory can have. -/
structure IsProper (name : String) : Prop where
  nonempty : name ≠ ""
  noDot : name ≠ "."
  noUp : name ≠ ".."
  noSlash : '/' ∉ name.toList

theorem notMem_of_mem_splitOn {sep : Char} {cs piece : List Char} (h : piece ∈ cs.splitOn sep) :
    sep ∉ piece := by
  induction cs generalizing piece with
  | nil =>
      rw [List.splitOn_nil, List.mem_singleton] at h
      rw [h]
      exact List.not_mem_nil
  | cons d cs ih =>
      rw [List.splitOn_cons_eq_if_modifyHead] at h
      split at h
      · rcases List.mem_cons.mp h with rfl | h
        · exact List.not_mem_nil
        · exact ih h
      · rename_i hne
        obtain ⟨first, pieces, hsplit⟩ := List.exists_cons_of_ne_nil (List.splitOn_ne_nil sep cs)
        rw [hsplit, List.modifyHead_cons] at h
        rw [hsplit] at ih
        rcases List.mem_cons.mp h with rfl | h
        · rw [List.mem_cons, not_or]
          exact ⟨fun heq => hne (by simp [heq]), ih (List.mem_cons_self ..)⟩
        · exact ih (List.mem_cons_of_mem _ h)

theorem noSlash_of_mem_names {path name : String} (h : name ∈ names path) :
    '/' ∉ name.toList := by
  obtain ⟨piece, hpiece, rfl⟩ := List.mem_map.mp h
  rw [String.toList_ofList]
  exact notMem_of_mem_splitOn hpiece

/-- The names on the stack; the steps up are at the bottom of it. -/
structure NormStack (stack : List String) : Prop where
  proper : ∀ name ∈ stack, name ≠ ".." → IsProper name
  bottom : ".." ∈ stack → stack.getLast? = some ".."

theorem NormStack.step {stack : List String} (h : NormStack stack) {name : String}
    (hname : '/' ∉ name.toList) : NormStack (normStep stack name) := by
  unfold normStep
  split_ifs with hdot hup
  · exact h
  · -- a step up takes the name on top away
    cases stack with
    | nil => exact h
    | cons top stack =>
        rw [List.tail_cons]
        refine ⟨fun name hmem => h.proper name (List.mem_cons_of_mem _ hmem), fun hmem => ?_⟩
        obtain ⟨below, rest, rfl⟩ := List.exists_cons_of_ne_nil (List.ne_nil_of_mem hmem)
        rw [← List.getLast?_cons_cons]
        exact h.bottom (List.mem_cons_of_mem _ hmem)
  · rw [not_or] at hdot
    constructor
    · intro name' hmem hne
      rcases List.mem_cons.mp hmem with rfl | hmem
      · exact ⟨hdot.1, hdot.2, hne, hname⟩
      · exact h.proper name' hmem hne
    · intro hmem
      cases stack with
      | nil => rw [List.mem_singleton.mp hmem, List.getLast?_singleton]
      | cons top stack =>
          rw [List.getLast?_cons_cons]
          apply h.bottom
          rcases List.mem_cons.mp hmem with heq | hmem
          · -- a step up is pushed onto another one only
            have htop : top = ".." := by
              by_contra hne
              exact hup ⟨heq.symm, by simp, by simpa using hne⟩
            rw [htop]
            exact List.mem_cons_self ..
          · exact hmem

theorem isProper_of_mem_normpath {path : String} (hup : (normpath path).head? ≠ some "..")
    {name : String} (h : name ∈ normpath path) : IsProper name := by
  have hstack : ∀ (parts stack : List String), (∀ part ∈ parts, '/' ∉ part.toList) →
      NormStack stack → NormStack (parts.foldl normStep stack) := by
    intro parts
    induction parts with
    | nil => exact fun _ _ h => h
    | cons part parts ih =>
        intro stack hparts h
        rw [List.forall_mem_cons] at hparts
        exact ih _ hparts.2 (h.step hparts.1)
  have hfinal := hstack (names path) [] (fun part hpart => noSlash_of_mem_names hpart)
    ⟨fun name hname => absurd hname List.not_mem_nil, fun hmem => absurd hmem List.not_mem_nil⟩
  rw [normpath, List.head?_reverse] at hup
  rw [normpath, List.mem_reverse] at h
  apply hfinal.proper name h
  rintro rfl
  exact hup (hfinal.bottom h)

/-- One step of a walk along proper names -/
theorem walk_cons_of_isProper (t : FileTree) (p : Place) {name : String} (h : IsProper name)
    (names : List String) :
    t.walk p (name :: names) =
      if nameMax < name.utf8ByteSize then .error .nameTooLong
      else
        match t.entry (name :: p) with
        | some .directory => t.walk (name :: p) names
        | some (.file _) => .error .notADirectory
        | none => .error .notFound :=
  (if_neg (not_or.mpr ⟨h.nonempty, h.noDot⟩)).trans (if_neg h.noUp)

/-! ## Parts of a tree -/

/-- A tree is its entries. -/
theorem eq_of_entry {t t' : FileTree} (h : ∀ q, t.entry q = t'.entry q) : t = t' :=
  congrArg FileTree.mk (funext h)

section Parts

variable {t : FileTree} {p : Place}

/-- The directory at the place, for itself. -/
def below (t : FileTree) (p : Place) : FileTree :=
  ⟨fun q => if q = [] then some .directory else t.entry (q ++ p)⟩

/-- Take out the place and everything below it. -/
def remove (t : FileTree) (p : Place) : FileTree :=
  ⟨fun q => if p <:+ q then none else t.entry q⟩

/-- Take out everything but the root. -/
def clear (t : FileTree) : FileTree := ⟨fun q => if q = [] then t.entry q else none⟩

/-- Put the tree of a directory in the place of what is below. -/
def graft (t : FileTree) (p : Place) (sub : FileTree) : FileTree :=
  ⟨fun q => if p <:+ q ∧ q ≠ p then sub.entry (q.take (q.length - p.length)) else t.entry q⟩

theorem graft_entry_append {q : Place} (hq : q ≠ []) (sub : FileTree) :
    (t.graft p sub).entry (q ++ p) = sub.entry q := by
  have hne : q ++ p ≠ p := fun h => hq (List.append_left_eq_self.mp h)
  have hfront : (q ++ p).take ((q ++ p).length - p.length) = q := by
    rw [List.length_append, Nat.add_sub_cancel, List.take_left]
  unfold graft
  dsimp only
  rw [if_pos ⟨List.suffix_append q p, hne⟩, hfront]

theorem graft_entry_of_not_below {q : Place} (h : p <:+ q → q = p) (sub : FileTree) :
    (t.graft p sub).entry q = t.entry q :=
  if_neg fun hq => hq.2 (h hq.1)

theorem remove_entry_of_not_suffix {q : Place} (h : ¬ p <:+ q) :
    (t.remove p).entry q = t.entry q :=
  if_neg h

theorem remove_entry_of_suffix {q : Place} (h : p <:+ q) : (t.remove p).entry q = none :=
  if_pos h

theorem clear_eq_self_iff : t.clear = t ↔ ∀ q ≠ [], t.entry q = none := by
  constructor
  · intro h q hq
    rw [← h]
    exact if_neg hq
  · intro h
    apply eq_of_entry
    intro q
    by_cases hq : q = []
    · exact if_pos hq
    · exact (if_neg hq).trans (h q hq).symm

/-- What is below a place is replaced by the tree of a directory. -/
def renew (t : FileTree) (p : Place) (sub : FileTree) : FileTree :=
  ((t.remove p).set p .directory).graft p sub

theorem renew_entry_self (sub : FileTree) : (t.renew p sub).entry p = some .directory := by
  rw [renew, graft_entry_of_not_below fun _ => rfl, set_entry_self]

theorem renew_entry_append {q : Place} (hq : q ≠ []) (sub : FileTree) :
    (t.renew p sub).entry (q ++ p) = sub.entry q :=
  graft_entry_append hq sub

theorem renew_entry_of_not_suffix {q : Place} (h : ¬ p <:+ q) (sub : FileTree) :
    (t.renew p sub).entry q = t.entry q := by
  have hne : q ≠ p := fun heq => h (heq ▸ List.suffix_refl q)
  rw [renew, graft_entry_of_not_below fun hq => absurd hq h, set_entry_of_ne _ _ hne,
    remove_entry_of_not_suffix h]

/-- Nothing is changed if the directory was there and had just this in it. -/
theorem renew_eq_self_iff (sub : FileTree) : t.renew p sub = t ↔
    t.entry p = some .directory ∧ ∀ q ≠ [], t.entry (q ++ p) = sub.entry q := by
  constructor
  · intro h
    refine ⟨by rw [← h, renew_entry_self], fun q hq => ?_⟩
    rw [← renew_entry_append hq, h]
  · rintro ⟨hdir, hbelow⟩
    apply eq_of_entry
    intro q
    by_cases hq : p <:+ q
    · obtain ⟨r, rfl⟩ := hq
      by_cases hr : r = []
      · rw [hr, List.nil_append, renew_entry_self, hdir]
      · rw [renew_entry_append hr, hbelow r hr]
    · exact renew_entry_of_not_suffix hq sub

/-- Nothing is below a directory that is new. -/
theorem below_set_remove : ((t.remove p).set p .directory).below p = empty := by
  apply eq_of_entry
  intro q
  unfold below empty
  dsimp only
  split_ifs with hq
  · rfl
  · have hne : q ++ p ≠ p := fun h => hq (List.append_left_eq_self.mp h)
    rw [set_entry_of_ne _ _ hne, remove_entry_of_suffix (List.suffix_append q p)]

/-- Every entry is in a directory. -/
def IsRooted (t : FileTree) : Prop :=
  ∀ name p, t.entry (name :: p) ≠ none → p = [] ∨ t.entry p = some .directory

/-- Where nothing is, nothing is below. -/
theorem IsRooted.remove_of_missing (h : t.IsRooted) (hp : p ≠ []) (hnone : t.entry p = none) :
    t.remove p = t := by
  have hbelow : ∀ q, t.entry (q ++ p) = none := by
    intro q
    induction q with
    | nil => exact hnone
    | cons name q ih =>
        by_contra hsome
        rcases h name (q ++ p) hsome with heq | hdir
        · exact hp (List.append_eq_nil_iff.mp heq).2
        · rw [ih] at hdir
          cases hdir
  apply eq_of_entry
  intro q
  by_cases hq : p <:+ q
  · obtain ⟨r, rfl⟩ := hq
    rw [remove_entry_of_suffix (List.suffix_append r p), hbelow]
  · exact remove_entry_of_not_suffix hq

end Parts

/-! ## Directories on the way -/

/-- `Path.mkdir(parents=True, exist_ok=False)`: the parents that are missing are made, the
    first first -/
def mkdirParents : FileTree → Place → List String → Except FileError Place × FileTree
  | t, _, [] => (.error .alreadyExists, t)
  | t, p, name :: names =>
      if nameMax < name.utf8ByteSize then (.error .nameTooLong, t)
      else
        match t.entry (name :: p) with
        | some .directory => t.mkdirParents (name :: p) names
        -- a file is in the way, as the directory or as one above it
        | some (.file _) => (.error (if names = [] then .alreadyExists else .notADirectory), t)
        | none =>
            if names = [] then (.ok (name :: p), t.set (name :: p) .directory)
            else (t.set (name :: p) .directory).mkdirParents (name :: p) names

/-- The way ends at a file or at a name that no directory can have, before anything is
    missing. -/
def Blocked (t : FileTree) : Place → List String → Prop
  | _, [] => False
  | p, name :: names =>
      nameMax < name.utf8ByteSize ∨ (∃ text, t.entry (name :: p) = some (.file text)) ∨
        t.entry (name :: p) = some .directory ∧ t.Blocked (name :: p) names

section Mkdir

variable {t : FileTree} {p : Place} {names : List String}

theorem mkdirParents_of_blocked (h : t.Blocked p names) :
    ∃ e, t.mkdirParents p names = (.error e, t) := by
  induction names generalizing p with
  | nil => exact absurd h id
  | cons name names ih =>
      rw [mkdirParents]
      by_cases hlong : nameMax < name.utf8ByteSize
      · rw [if_pos hlong]
        exact ⟨_, rfl⟩
      rw [if_neg hlong]
      rcases h with hlong' | ⟨text, hfile⟩ | ⟨hdir, hrest⟩
      · exact absurd hlong' hlong
      · rw [hfile]
        exact ⟨_, rfl⟩
      · rw [hdir]
        exact ih hrest

/-- A way that is blocked is not there. -/
theorem walk_ne_ok_of_blocked (hproper : ∀ name ∈ names, IsProper name) (h : t.Blocked p names)
    (q : Place) : t.walk p names ≠ .ok q := by
  induction names generalizing p with
  | nil => exact absurd h id
  | cons name names ih =>
      rw [List.forall_mem_cons] at hproper
      obtain ⟨hname, hproper⟩ := hproper
      rw [walk_cons_of_isProper _ _ hname]
      by_cases hlong : nameMax < name.utf8ByteSize
      · rw [if_pos hlong]
        exact fun h => nomatch h
      rw [if_neg hlong]
      rcases h with hlong' | ⟨text, hfile⟩ | ⟨hdir, hrest⟩
      · exact absurd hlong' hlong
      · rw [hfile]
        exact fun h => nomatch h
      · rw [hdir]
        exact ih hproper hrest

/-- The directory that is made is the one the names lead to. -/
theorem mkdirParents_ok {t' : FileTree} {q : Place} (h : t.mkdirParents p names = (.ok q, t')) :
    q = names.reverse ++ p := by
  induction names generalizing t p with
  | nil => cases h
  | cons name names ih =>
      rw [mkdirParents] at h
      rw [List.reverse_cons, List.append_assoc, List.singleton_append]
      split at h
      · cases h
      split at h
      · exact ih h
      · cases h
      · split at h
        · rename_i hnil
          cases h
          rw [hnil]
          rfl
        · exact ih h

/-- What is there stays. -/
theorem mkdirParents_entry {q : Place} {e : Entry} (h : t.entry q = some e) :
    (t.mkdirParents p names).2.entry q = some e := by
  induction names generalizing t p with
  | nil => exact h
  | cons name names ih =>
      have hset (hnone : t.entry (name :: p) = none) :
          (t.set (name :: p) .directory).entry q = some e := by
        rw [set_entry_of_ne]
        · exact h
        · rintro rfl
          rw [hnone] at h
          cases h
      rw [mkdirParents]
      split
      · exact h
      split
      · exact ih h
      · exact h
      · rename_i hnone
        split
        · exact hset hnone
        · exact ih (hset hnone)

/-- The way is there, or is blocked, or a directory of it is made. -/
theorem mkdirParents_cases (hproper : ∀ name ∈ names, IsProper name) :
    t.walk p names = .ok (names.reverse ++ p) ∨ t.Blocked p names ∨
      ∃ q, q <:+ names.reverse ++ p ∧ t.entry q = none ∧
        (t.mkdirParents p names).2.entry q = some .directory := by
  induction names generalizing p with
  | nil => exact .inl rfl
  | cons name names ih =>
      rw [List.forall_mem_cons] at hproper
      obtain ⟨hname, hproper⟩ := hproper
      rw [walk_cons_of_isProper _ _ hname, mkdirParents, List.reverse_cons, List.append_assoc,
        List.singleton_append]
      by_cases hlong : nameMax < name.utf8ByteSize
      · exact .inr (.inl (.inl hlong))
      rw [if_neg hlong, if_neg hlong]
      cases hentry : t.entry (name :: p) with
      | none =>
          -- the first that is missing is made, and stays when those below it are
          refine .inr (.inr ⟨name :: p, List.suffix_append .., hentry, ?_⟩)
          dsimp only
          split_ifs
          · exact set_entry_self t _ _
          · exact mkdirParents_entry (set_entry_self t _ _)
      | some e =>
          cases e with
          | file text => exact .inr (.inl (.inr (.inl ⟨text, hentry⟩)))
          | directory =>
              rcases ih hproper with hwalk | hblocked | hmissing
              · exact .inl hwalk
              · exact .inr (.inl (.inr (.inr ⟨hentry, hblocked⟩)))
              · exact .inr (.inr hmissing)

/-- A directory that is taken out is made anew. -/
theorem mkdirParents_remove (hproper : ∀ name ∈ names, IsProper name) (hne : names ≠ [])
    (hwalk : t.walk p names = .ok (names.reverse ++ p)) :
    (t.remove (names.reverse ++ p)).mkdirParents p names =
      (.ok (names.reverse ++ p),
        (t.remove (names.reverse ++ p)).set (names.reverse ++ p) .directory) := by
  induction names generalizing p with
  | nil => exact absurd rfl hne
  | cons name names ih =>
      rw [List.forall_mem_cons] at hproper
      obtain ⟨hname, hproper⟩ := hproper
      rw [walk_cons_of_isProper _ _ hname, List.reverse_cons, List.append_assoc,
        List.singleton_append] at hwalk
      rw [List.reverse_cons, List.append_assoc, List.singleton_append, mkdirParents]
      by_cases hlong : nameMax < name.utf8ByteSize
      · rw [if_pos hlong] at hwalk
        cases hwalk
      rw [if_neg hlong] at hwalk ⊢
      split at hwalk
      · rename_i hdir
        cases names with
        | nil =>
            rw [List.reverse_nil, List.nil_append, remove_entry_of_suffix (List.suffix_refl _)]
            rfl
        | cons name' names =>
            -- what is taken out is below this place, so that the way to it is still there
            have hlonger : ¬ (name' :: names).reverse ++ name :: p <:+ name :: p := by
              intro hsuffix
              have hlength := hsuffix.length_le
              simp only [List.length_append, List.length_reverse, List.length_cons] at hlength
              omega
            rw [remove_entry_of_not_suffix hlonger, hdir]
            exact ih hproper (List.cons_ne_nil _ _) hwalk
      · cases hwalk
      · cases hwalk

/-- The end of a way that is there is a directory. -/
theorem entry_of_walk (hproper : ∀ name ∈ names, IsProper name) (hne : names ≠ []) {q : Place}
    (hwalk : t.walk p names = .ok q) : q = names.reverse ++ p ∧ t.entry q = some .directory := by
  induction names generalizing p with
  | nil => exact absurd rfl hne
  | cons name names ih =>
      rw [List.forall_mem_cons] at hproper
      obtain ⟨hname, hproper⟩ := hproper
      rw [walk_cons_of_isProper _ _ hname] at hwalk
      rw [List.reverse_cons, List.append_assoc, List.singleton_append]
      split at hwalk
      · cases hwalk
      split at hwalk
      · rename_i hdir
        cases names with
        | nil =>
            cases hwalk
            exact ⟨rfl, hdir⟩
        | cons name' names => exact ih hproper (List.cons_ne_nil _ _) hwalk
      · cases hwalk
      · cases hwalk

end Mkdir

end FileTree

end Tfplenum.Lib
