/-
  Tfplenum.Controller.DocsUpload

  `UpdateDocs.post` of `controller/tools_controller.py`, on the tree of the documentation.

  The space name may be the root's own or lead into another space, and the directory is
  deleted before the archive is opened (`docs_confined_iff`).  The root is there.  Links,
  permissions, the space on the disk and the length of whole paths are not part of the tree;
  what becomes of the temporary directory is a parameter.
-/

import Tfplenum.Lib.Subtree
import Tfplenum.Service.ColdLogService

namespace Tfplenum

open Lib FileTree

/-! ## The request -/

structure DocsFile where
  filename : String
  content : String
deriving DecidableEq

/-- `request.files` and `request.form` -/
structure DocsRequest where
  uploadFile : Option DocsFile
  spaceName : Option String

/-- `Path(filename).suffix` -/
def pathSuffix (filename : String) : String :=
  let parts := (names filename).filter fun part => part ≠ "" ∧ part ≠ "."
  let name := (parts.getLast?.getD "").toList
  let ext := name.rtakeWhile (· ≠ '.')
  -- a dot at one of the ends begins no suffix
  if '.' ∈ name ∧ ext ≠ [] ∧ ext.length + 1 < name.length then "." ++ String.ofList ext else ""

/-- The checks before the file is saved -/
def checkUpload (request : DocsRequest) : Except (String × Nat) (DocsFile × String) :=
  match request.uploadFile with
  | none => .error ("Failed to upload file. No file was found in the request.", 400)
  | some file =>
      if pathSuffix file.filename ≠ ".zip" then
        .error ("Failed to upload file. Files must end with the .zip extension.", 400)
      else
        match request.spaceName with
        | none => .error ("Space name is required.", 400)
        | some spaceName =>
            if spaceName = "" then .error ("Space name is required.", 400)
            else if '\x00' ∈ spaceName.toList then
              .error ("Invalid space name: The null character is prohibited.", 400)
            else .ok (file, spaceName)

/-- `safe_join("/var/www/html/docs", pathname)`, by the names below the root -/
def safeJoin (pathname : String) : Option (List String) :=
  if pathname.toList.head? = some '/' then none
  else if (normpath pathname).head? = some ".." then none
  else some (normpath pathname)

/-! ## The tree -/

/-- `shutil.rmtree(path, ignore_errors=True)`; the root is emptied, but it cannot be removed
    under the name `docs/.`. -/
def rmtree (docs : FileTree) (names : List String) : FileTree :=
  if names = [] then docs.clear
  else
    match docs.walk [] names with
    | .ok p => docs.remove p
    -- the error is ignored
    | .error _ => docs

/-- `with zipfile.ZipFile(path) as zip_ref: zip_ref.extractall(...)`, in a directory -/
def extractDocs (zipFile : String → Except PyError (List (ZipMember PyError))) (content : String)
    (dir : FileTree) : Except PyError Unit × FileTree :=
  match zipFile content with
  | .error e => (.error e, dir)
  | .ok members =>
      match FileTree.unpack members dir with
      | (.ok (), dir) => (.ok (), dir)
      | (.error e, dir) => (.error (unpackRaised "" e), dir)

/-- The old directory is removed, and the new one made and filled. -/
def replaceDocs (zipFile : String → Except PyError (List (ZipMember PyError))) (content : String)
    (names : List String) (docs : FileTree) : Except PyError Unit × FileTree :=
  match (rmtree docs names).mkdirParents [] names with
  | (.error e, docs) => (.error (raisedFor ("/".intercalate names) e), docs)
  | (.ok p, docs) =>
      -- where the archive fails, the new directory stays with what was unpacked before
      let unpacked := extractDocs zipFile content (docs.below p)
      (unpacked.1, docs.graft p unpacked.2)

/-- An answer with a message and a status, or an exception. -/
abbrev DocsReply := Except PyError (Except (String × Nat) String)

/-- `UpdateDocs.post`; a notification raises nothing. -/
def UpdateDocs.post (zipFile : String → Except PyError (List (ZipMember PyError)))
    (saved : Except PyError Unit) (request : DocsRequest) (docs : FileTree) :
    DocsReply × FileTree :=
  match checkUpload request with
  | .error refusal => (.ok (.error refusal), docs)
  | .ok (file, spaceName) =>
      match saved with
      | .error e => (.error e, docs)
      | .ok () =>
          match safeJoin spaceName with
          | none =>
              (.ok (.error ("The Space Name passed in is of an invalid value that cannot be " ++
                "safely joined.", 400)), docs)
          | some names =>
              match replaceDocs zipFile file.content names docs with
              | (.ok (), docs) =>
                  (.ok (.ok "Successfully updated confluence documentation!"), docs)
              | (.error e, docs) => (.error e, docs)

/-! ## What is meant -/

/-- The documentation, in which every entry is in a directory. -/
structure Docs where
  tree : FileTree
  rooted : tree.IsRooted

/-- The request has the directory of its own space, directly below the root, and changes
    nothing else; and nothing at all unless it succeeds. -/
structure Confined (request : DocsRequest) (before : FileTree) (outcome : DocsReply × FileTree) :
    Prop where
  frame : ∀ q, outcome.2.entry q ≠ before.entry q →
    ∃ spaceName child, request.spaceName = some spaceName ∧ safeJoin spaceName = some [child] ∧
      IsProper child ∧ [child] <:+ q
  failed : (∀ message, outcome.1 ≠ .ok (.ok message)) → outcome.2 = before

/-- The directory is there already, with just what the archive leaves. -/
def Same (zipFile : String → Except PyError (List (ZipMember PyError))) (content : String)
    (names : List String) (docs : FileTree) : Prop :=
  docs.walk [] names = .ok names.reverse ∧
    ∀ q ≠ [], docs.entry (q ++ names.reverse) = (extractDocs zipFile content .empty).2.entry q

/-- The replacement keeps to the space: the name leads to the root and that is empty, or the way
    is blocked before anything is missing, or the name is that of a space and the archive can be
    unpacked, or there is nothing to change. -/
def KeepsToSpace (zipFile : String → Except PyError (List (ZipMember PyError))) (content : String)
    (names : List String) (docs : FileTree) : Prop :=
  if names = [] then ∀ q ≠ [], docs.entry q = none
  else docs.Blocked [] names ∨
    (names.length = 1 ∧ (extractDocs zipFile content .empty).1 = .ok ()) ∨
      Same zipFile content names docs

/-- The requests that keep to their space. -/
def KeepsToSpaces (zipFile : String → Except PyError (List (ZipMember PyError)))
    (saved : Except PyError Unit) (request : DocsRequest) (docs : FileTree) : Prop :=
  ∀ file spaceName names, checkUpload request = .ok (file, spaceName) → saved = .ok () →
    safeJoin spaceName = some names → KeepsToSpace zipFile file.content names docs

/-! ## The replacement -/

theorem isProper_of_safeJoin {spaceName : String} {names : List String}
    (h : safeJoin spaceName = some names) {name : String} (hname : name ∈ names) :
    IsProper name := by
  unfold safeJoin at h
  split_ifs at h with habs hup
  cases h
  exact isProper_of_mem_normpath hup hname

section Replace

variable {zipFile : String → Except PyError (List (ZipMember PyError))} {content : String}
  {names : List String} {docs : FileTree}

theorem rmtree_of_not_walk (hproper : ∀ name ∈ names, IsProper name) (hne : names ≠ [])
    (hwalk : docs.walk [] names ≠ .ok names.reverse) : rmtree docs names = docs := by
  rw [rmtree, if_neg hne]
  split
  · rename_i p hp
    obtain ⟨rfl, -⟩ := entry_of_walk hproper hne hp
    rw [List.append_nil] at hp
    exact absurd hp hwalk
  · rfl

variable (zipFile content docs) in
/-- The root cannot be made anew. -/
theorem replaceDocs_root : ∃ e, replaceDocs zipFile content [] docs = (.error e, docs.clear) :=
  ⟨_, rfl⟩

theorem replaceDocs_of_blocked (hproper : ∀ name ∈ names, IsProper name) (hne : names ≠ [])
    (h : docs.Blocked [] names) :
    ∃ e, replaceDocs zipFile content names docs = (.error e, docs) := by
  obtain ⟨e, hmkdir⟩ := mkdirParents_of_blocked h
  rw [replaceDocs, rmtree_of_not_walk hproper hne (walk_ne_ok_of_blocked hproper h _), hmkdir]
  exact ⟨_, rfl⟩

/-- A directory that is new is filled with what the archive leaves. -/
theorem replaceDocs_of_made {p : Place} (h : (rmtree docs names).mkdirParents [] names =
    (.ok p, (docs.remove p).set p .directory)) :
    replaceDocs zipFile content names docs =
      ((extractDocs zipFile content .empty).1,
        docs.renew p (extractDocs zipFile content .empty).2) := by
  rw [replaceDocs, h]
  simp only [below_set_remove]
  rfl

theorem replaceDocs_of_walk (hproper : ∀ name ∈ names, IsProper name) (hne : names ≠ [])
    (hwalk : docs.walk [] names = .ok names.reverse) :
    replaceDocs zipFile content names docs =
      ((extractDocs zipFile content .empty).1,
        docs.renew names.reverse (extractDocs zipFile content .empty).2) := by
  apply replaceDocs_of_made
  rw [rmtree, if_neg hne, hwalk]
  have hmade := mkdirParents_remove (t := docs) (p := []) hproper hne
  rw [List.append_nil] at hmade
  exact hmade hwalk

theorem entry_of_new {child : String} (hproper : IsProper child)
    (hwalk : docs.walk [] [child] ≠ .ok [child]) (hblocked : ¬ docs.Blocked [] [child]) :
    ¬ nameMax < child.utf8ByteSize ∧ docs.entry [child] = none := by
  simp only [Blocked, not_or, and_false, not_false_eq_true, and_true] at hblocked
  obtain ⟨hshort, hnoFile⟩ := hblocked
  refine ⟨hshort, ?_⟩
  rw [walk_cons_of_isProper _ _ hproper, if_neg hshort] at hwalk
  cases hentry : docs.entry [child] with
  | none => rfl
  | some e =>
      cases e with
      | file text => exact absurd ⟨text, hentry⟩ hnoFile
      | directory =>
          rw [hentry] at hwalk
          exact absurd rfl hwalk

/-- A space that is new -/
theorem replaceDocs_of_new {child : String} (hproper : IsProper child) (hrooted : docs.IsRooted)
    (hwalk : docs.walk [] [child] ≠ .ok [child]) (hblocked : ¬ docs.Blocked [] [child]) :
    replaceDocs zipFile content [child] docs =
      ((extractDocs zipFile content .empty).1,
        docs.renew [child] (extractDocs zipFile content .empty).2) := by
  obtain ⟨hshort, hmissing⟩ := entry_of_new hproper hwalk hblocked
  apply replaceDocs_of_made
  rw [rmtree_of_not_walk (by simpa using hproper) (by simp) hwalk, mkdirParents, if_neg hshort,
    hmissing, hrooted.remove_of_missing (by simp) hmissing]
  rfl

/-- Of a way that leads nowhere, a directory is made and stays. -/
theorem replaceDocs_of_missing (hproper : ∀ name ∈ names, IsProper name) (hne : names ≠ [])
    (hwalk : docs.walk [] names ≠ .ok names.reverse) (hblocked : ¬ docs.Blocked [] names) :
    (replaceDocs zipFile content names docs).2 ≠ docs := by
  -- a directory that is made on the way is one that was missing before
  rcases mkdirParents_cases (t := docs) (p := []) hproper with hwalk' | hblocked' | hmissing
  · rw [List.append_nil] at hwalk'
    exact absurd hwalk' hwalk
  · exact absurd hblocked' hblocked
  obtain ⟨q, hq, hnone, hmade⟩ := hmissing
  have hentry : (replaceDocs zipFile content names docs).2.entry q = some .directory := by
    rw [replaceDocs, rmtree_of_not_walk hproper hne hwalk]
    split
    · rename_i docs' hmkdir
      rw [hmkdir] at hmade
      exact hmade
    · rename_i p docs' hmkdir
      rw [hmkdir] at hmade
      -- what is unpacked is below the directory, and what was made is on the way to it
      have hp := mkdirParents_ok hmkdir
      rw [graft_entry_of_not_below]
      · exact hmade
      · intro hbelow
        rw [← hp] at hq
        exact hq.eq_of_length_le hbelow.length_le
  intro heq
  rw [heq, hnone] at hentry
  cases hentry

end Replace

/-! ## The whole request -/

section Post

variable {zipFile : String → Except PyError (List (ZipMember PyError))}
  {saved : Except PyError Unit} {request : DocsRequest} {file : DocsFile} {spaceName : String}
  {names : List String} {docs : FileTree} {outcome : DocsReply × FileTree}

theorem spaceName_of_checkUpload (h : checkUpload request = .ok (file, spaceName)) :
    request.spaceName = some spaceName := by
  unfold checkUpload at h
  split at h
  · cases h
  split at h
  · cases h
  split at h
  · cases h
  · rename_i name hname
    split_ifs at h
    cases h
    exact hname

theorem confined_of_eq (h : outcome.2 = docs) : Confined request docs outcome :=
  ⟨fun q hq => absurd (by rw [h]) hq, fun _ => h⟩

/-- A name that is not that of a space may change nothing. -/
theorem Confined.eq_of_not_space (h : Confined request docs outcome)
    (hname : request.spaceName = some spaceName) (hjoin : safeJoin spaceName = some names)
    (hlength : names.length ≠ 1) : outcome.2 = docs := by
  apply eq_of_entry
  intro q
  by_contra hchanged
  obtain ⟨spaceName', child, hname', hjoin', -, -⟩ := h.frame q hchanged
  rw [hname] at hname'
  cases hname'
  rw [hjoin] at hjoin'
  cases hjoin'
  exact hlength rfl

variable (zipFile docs) in
/-- What the replacement leaves is the outcome. -/
theorem post_of_accepted (hcheck : checkUpload request = .ok (file, spaceName))
    (hsaved : saved = .ok ()) (hjoin : safeJoin spaceName = some names) :
    (UpdateDocs.post zipFile saved request docs).2 =
        (replaceDocs zipFile file.content names docs).2 ∧
      ((∀ message, (UpdateDocs.post zipFile saved request docs).1 ≠ .ok (.ok message)) ↔
        (replaceDocs zipFile file.content names docs).1 ≠ .ok ()) := by
  rw [UpdateDocs.post, hcheck, hsaved]
  simp only [hjoin]
  split
  · rename_i docs' hreplace
    rw [hreplace]
    exact ⟨rfl, iff_of_false (fun h => h _ rfl) (fun h => h rfl)⟩
  · rename_i e docs' hreplace
    rw [hreplace]
    exact ⟨rfl, iff_of_true (fun _ h => nomatch h) (fun h => nomatch h)⟩

/-- A directory that is made anew is that of the space, and the archive is unpacked; or it is
    what it was. -/
theorem confined_iff_of_renew {result : Except PyError Unit} {sub : FileTree}
    (hname : request.spaceName = some spaceName) (hjoin : safeJoin spaceName = some names)
    (htree : outcome.2 = docs.renew names.reverse sub)
    (hreply : (∀ message, outcome.1 ≠ .ok (.ok message)) ↔ result ≠ .ok ()) :
    Confined request docs outcome ↔
      names.length = 1 ∧ result = .ok () ∨ docs.renew names.reverse sub = docs := by
  constructor
  · intro h
    refine or_iff_not_imp_left.mpr fun hnot => ?_
    rw [← htree]
    by_cases hresult : result = .ok ()
    · exact h.eq_of_not_space hname hjoin fun hlength => hnot ⟨hlength, hresult⟩
    · exact h.failed (hreply.mpr hresult)
  · rintro (⟨hlength, hresult⟩ | hsame)
    · obtain ⟨child, rfl⟩ := List.length_eq_one_iff.mp hlength
      refine ⟨fun q hq => ⟨spaceName, child, hname, hjoin,
        isProper_of_safeJoin hjoin (List.mem_singleton_self child), ?_⟩,
        fun hfailed => absurd hresult (hreply.mp hfailed)⟩
      by_contra hnot
      exact hq (by rw [htree]; exact renew_entry_of_not_suffix hnot sub)
    · exact confined_of_eq (htree.trans hsame)

/-- An accepted request is confined if the replacement keeps to the space. -/
theorem confined_iff_of_accepted (hrooted : docs.IsRooted)
    (hcheck : checkUpload request = .ok (file, spaceName)) (hsaved : saved = .ok ())
    (hjoin : safeJoin spaceName = some names) :
    Confined request docs (UpdateDocs.post zipFile saved request docs) ↔
      KeepsToSpace zipFile file.content names docs := by
  have hname := spaceName_of_checkUpload hcheck
  have hproper : ∀ name ∈ names, IsProper name := fun name => isProper_of_safeJoin hjoin
  obtain ⟨htree, hreply⟩ := post_of_accepted zipFile docs hcheck hsaved hjoin
  by_cases hnil : names = []
  · -- everything is deleted, and the root cannot be made
    subst hnil
    obtain ⟨e, hreplace⟩ := replaceDocs_root zipFile file.content docs
    rw [hreplace] at htree
    change _ = docs.clear at htree
    rw [KeepsToSpace, if_pos rfl, ← clear_eq_self_iff, ← htree]
    exact ⟨fun h => h.eq_of_not_space hname hjoin (by simp), confined_of_eq⟩
  rw [KeepsToSpace, if_neg hnil]
  by_cases hblocked : docs.Blocked [] names
  · obtain ⟨e, hreplace⟩ := replaceDocs_of_blocked hproper hnil hblocked
    rw [hreplace] at htree
    exact iff_of_true (confined_of_eq htree) (.inl hblocked)
  rw [or_iff_right hblocked]
  by_cases hwalk : docs.walk [] names = .ok names.reverse
  · rw [replaceDocs_of_walk hproper hnil hwalk] at htree hreply
    have hdir := (entry_of_walk hproper hnil hwalk).2
    rw [confined_iff_of_renew hname hjoin htree hreply, renew_eq_self_iff, and_iff_right hdir,
      Same, and_iff_right hwalk]
  -- nothing is in the way: the directory is new, and with it perhaps some above it
  by_cases hlength : names.length = 1
  · obtain ⟨child, rfl⟩ := List.length_eq_one_iff.mp hlength
    have hchild := hproper child (List.mem_singleton_self child)
    have hmissing := (entry_of_new hchild hwalk hblocked).2
    rw [replaceDocs_of_new hchild hrooted hwalk hblocked] at htree hreply
    have hnoDir : ¬ docs.entry [child].reverse = some .directory := by
      rw [List.reverse_singleton, hmissing]
      exact fun h => nomatch h
    rw [confined_iff_of_renew hname hjoin htree hreply, renew_eq_self_iff, Same,
      or_iff_left fun h => hnoDir h.1, or_iff_left fun h => hwalk h.1]
  · have hnot : ¬ Same zipFile file.content names docs := fun h => hwalk h.1
    refine iff_of_false (fun h => ?_) (fun h => ?_)
    · exact replaceDocs_of_missing hproper hnil hwalk hblocked
        (htree ▸ h.eq_of_not_space hname hjoin hlength)
    · rcases h with h | h
      · exact hlength h.1
      · exact hnot h

end Post

/-- For every request and every documentation, the upload is confined to its space exactly if it
    is one that keeps to it. -/
theorem docs_confined_iff (zipFile : String → Except PyError (List (ZipMember PyError)))
    (saved : Except PyError Unit) (request : DocsRequest) (docs : Docs) :
    Confined request docs.tree (UpdateDocs.post zipFile saved request docs.tree) ↔
      KeepsToSpaces zipFile saved request docs.tree := by
  cases hcheck : checkUpload request with
  | error refusal =>
      refine iff_of_true (confined_of_eq ?_) fun file spaceName names h => ?_
      · rw [UpdateDocs.post, hcheck]
      · rw [hcheck] at h
        cases h
  | ok accepted =>
      obtain ⟨file, spaceName⟩ := accepted
      cases hsaved : saved with
      | error e =>
          refine iff_of_true (confined_of_eq ?_) fun _ _ _ _ h => nomatch h
          rw [UpdateDocs.post, hcheck]
      | ok u =>
          cases hjoin : safeJoin spaceName with
          | none =>
              refine iff_of_true (confined_of_eq ?_) fun file' spaceName' names h _ h' => ?_
              · rw [UpdateDocs.post, hcheck]
                simp only [hjoin]
              · rw [hcheck] at h
                cases h
                rw [hjoin] at h'
                cases h'
          | some names =>
              rw [confined_iff_of_accepted docs.rooted hcheck rfl hjoin]
              constructor
              · intro h file' spaceName' names' h' _ hjoin'
                rw [hcheck] at h'
                cases h'
                rw [hjoin] at hjoin'
                cases hjoin'
                exact h
              · exact fun h => h file spaceName names hcheck rfl hjoin

/-- Documentation with one page. -/
def onePage : Docs where
  tree :=
    { entry := fun p =>
        if p = ["guide"] then some .directory
        else if p = ["index.html", "guide"] then some (.file "<html></html>")
        else none }
  rooted := by
    intro name p h
    by_cases hguide : name :: p = ["guide"]
    · exact .inl (List.cons.inj hguide).2
    by_cases hpage : name :: p = ["index.html", "guide"]
    · right
      rw [(List.cons.inj hpage).2]
      rfl
    · dsimp only at h
      rw [if_neg hguide, if_neg hpage] at h
      exact absurd rfl h

/-- What is uploaded is no archive: the old page is gone, and the request raises. -/
theorem not_confined_badArchive :
    ¬ ∀ (zipFile : String → Except PyError (List (ZipMember PyError)))
      (saved : Except PyError Unit) (request : DocsRequest) (docs : Docs),
      Confined request docs.tree (UpdateDocs.post zipFile saved request docs.tree) := by
  intro h
  let zipFile : String → Except PyError (List (ZipMember PyError)) :=
    fun _ => .error (.other "BadZipFile")
  have hconfined := h zipFile (.ok ()) ⟨some ⟨"docs.zip", "no archive"⟩, some "guide"⟩ onePage
  have hraised : (replaceDocs zipFile "no archive" ["guide"] onePage.tree).1 ≠ .ok () := by
    decide +kernel
  have hcheck : checkUpload ⟨some ⟨"docs.zip", "no archive"⟩, some "guide"⟩ =
      .ok (⟨"docs.zip", "no archive"⟩, "guide") := by
    decide +kernel
  obtain ⟨htree, hreply⟩ := post_of_accepted zipFile onePage.tree hcheck rfl
    (by decide +kernel : safeJoin "guide" = some ["guide"])
  have hsame := hconfined.failed (hreply.mpr hraised)
  have hpage : (replaceDocs zipFile "no archive" ["guide"] onePage.tree).2.entry
      ["index.html", "guide"] = none := by
    decide +kernel
  rw [← htree, hsame] at hpage
  cases hpage

end Tfplenum
