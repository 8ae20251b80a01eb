/-
  Tfplenum.Service.PcapRuns

  The captures over whole runs: uploads, deletions and listings, and files that are
  copied into the directory by hand.  Whatever a request ends with, every document that
  is stored describes a file of the directory (`Described`), so that a capture that is
  listed can be replayed.

  Documents are told apart by their names here, which are unique like their ids, and a
  path that is none of the directory is taken for one where there is no file.
-/

import Mathlib.Data.String.Basic
import Tfplenum.Service.PcapUpload

namespace Tfplenum

open Lib

/-! ## Deletion -/

/-- The entry at a path -/
def entryAt (dir : Directory) (path : String) : Option (String × DirEntry) :=
  dir.rows.find? fun row => pathOf row.1 = path

/-- `_remove_from_directory` -/
def removeFromDirectory (dir : Directory) (pcap : PcapModel) (v : PCAPServiceResponse) :
    Except PyError (PCAPServiceResponse × Directory) :=
  match entryAt dir pcap.path with
  | some (_, .directory) => .error (.other "IsADirectoryError")
  | some (name, .file _) => .ok ({ v with success := true, valid := true }, dir.erase name)
  | none =>
      let v := v.warn
        { type := .warning .fileAlreadyRemovedFromDisk
          msg := "The file has already been removed from disk."
          msgType := .msg .warning }
      .ok ({ v with success := true, valid := true }, dir)

/-- `repo.remove(pcap._id)` -/
def PcapRepo.remove (repo : PcapRepo) (pcap : PcapModel) : PcapRepo where
  pcaps := repo.pcaps.filter fun stored => stored.name ≠ pcap.name
  unique key := (repo.unique key).sublist (List.filter_sublist.map _)

section Requests

variable (captures : Captures)

/-- `delete_pcap`, and what it leaves. -/
def deletePcap (s : PcapState) (name : String) :
    Except PyError PCAPServiceResponse × PcapState :=
  match getPcapFromRepo s.repo.pcaps name { name := "delete_pcap" } with
  | (v, none) => (.ok v, s)
  | (v, some pcap) =>
      match removeFromDirectory s.dir pcap v with
      | .error e => (.error e, s)
      | .ok (v, dir) =>
          match syncDirectory captures dir (s.repo.remove pcap) with
          | (.error e, repo) => (.error e, ⟨repo, dir⟩)
          | (.ok _, repo) => (.ok v, ⟨repo, dir⟩)

/-- `sorted(self.repo.get_all(), key=lambda x: x.name)` -/
def sortedByName (pcaps : List PcapModel) : List PcapModel :=
  pcaps.mergeSort fun pcap pcap' => pcap.name ≤ pcap'.name

/-- `get_pcaps_from_directory`, and what it leaves. -/
def getPcapsFromDirectory (s : PcapState) :
    Except PyError (PCAPServiceResponse × List PcapModel) × PcapState :=
  match syncDirectory captures s.dir s.repo with
  | (.error e, repo) => (.error e, ⟨repo, s.dir⟩)
  | (.ok _, repo) =>
      let v : PCAPServiceResponse :=
        { name := "get_pcaps_from_directory", success := true, valid := true }
      (.ok (v, sortedByName repo.pcaps), ⟨repo, s.dir⟩)

inductive PcapRequest where
  /-- `UploadPcap.post`, with what the environment draws and where the file system lists it -/
  | upload (uuid : String) (place : Nat) (name : String) (data : Bytes)
  /-- `DeletePcap.delete` -/
  | delete (name : String)
  /-- `ListPcaps.get` -/
  | list
  /-- someone copies a file into the directory, under a name that is free -/
  | copy (place : Nat) (name : String) (data : Bytes)
deriving DecidableEq

/-- The state a request leaves, however it ends. -/
def servePcap (s : PcapState) : PcapRequest → PcapState
  | .upload uuid place name data => (uploadPcap captures s uuid place name data).2
  | .delete name => (deletePcap captures s name).2
  | .list => (getPcapsFromDirectory captures s).2
  | .copy place name data =>
      match writeNew s.dir place name data with
      | none => s
      | some dir => ⟨s.repo, dir⟩

/-! ## What is stored of what is there -/

/-- The document is that of a capture which the directory has under its name. -/
structure Describes (dir : Directory) (pcap : PcapModel) (content : Bytes) : Prop where
  file : dir.get? pcap.name = some (.file content)
  readable : captures.firstRead content = .packet ∨ captures.firstRead content = .noPacket
  fields : ∃ dates, packetDates captures content = some dates ∧
    pcap = pcapModel captures pcap.name content dates

/-- Every document describes a file of the directory. -/
def Described (s : PcapState) : Prop :=
  ∀ pcap ∈ s.repo.pcaps, ∃ content, Describes captures s.dir pcap content

end Requests

/-! ## Files -/

section Files

variable {dir dir' : Directory} {place : Nat} {name : String} {data : Bytes}

/-- A new file is found, and what was there before. -/
theorem get?_writeNew (h : writeNew dir place name data = some dir') (name' : String) :
    dir'.get? name' = if name' = name then some (.file data) else dir.get? name' := by
  rw [writeNew] at h
  split at h
  · cases h
  rename_i hfree
  split at h
  · cases h
  cases h
  refine Option.ext fun entry => ?_
  rw [Table.get?_eq_some_iff]
  -- the new row stands between those that were there
  have hrows : (name', entry) ∈ dir.rows.take place ++ (name, .file data) :: dir.rows.drop place ↔
      (name', entry) = (name, .file data) ∨ (name', entry) ∈ dir.rows := by
    conv_rhs => rw [← List.take_append_drop place dir.rows]
    simp only [List.mem_append, List.mem_cons]
    tauto
  rw [hrows]
  split
  · rename_i heq
    subst heq
    have hnone : (name', entry) ∉ dir.rows := fun hmem => hfree (List.mem_map_of_mem hmem)
    rw [or_iff_left hnone]
    simp [eq_comm]
  · rename_i hne
    rw [Table.get?_eq_some_iff, or_iff_right]
    rintro heq
    exact hne (congrArg Prod.fst heq)

theorem get?_of_writeNew (h : writeNew dir place name data = some dir') {name' : String}
    {entry : DirEntry} (hget : dir.get? name' = some entry) : dir'.get? name' = some entry := by
  rw [get?_writeNew h, if_neg]
  · exact hget
  · rintro rfl
    rw [writeNew, dif_pos (List.mem_map_of_mem (Table.get?_eq_some_iff.mp hget))] at h
    cases h

/-- The entry at the path of a name is that of the name. -/
theorem entryAt_pathOf {entry : DirEntry} (hget : dir.get? name = some entry) :
    entryAt dir (pathOf name) = some (name, entry) := by
  have hmem := Table.get?_eq_some_iff.mp hget
  rcases hfind : entryAt dir (pathOf name) with _ | ⟨name', entry'⟩
  · have hno := List.find?_eq_none.mp hfind _ hmem
    simp at hno
  · have hname : name' = name := by
      have hpath := List.find?_some hfind
      exact pathOf_injective (by simpa using hpath)
    subst hname
    have hget' := Table.get?_eq_some_iff.mpr (List.mem_of_find?_eq_some hfind)
    rw [hget] at hget'
    rw [Option.some.inj hget']

end Files

section Runs

variable {captures : Captures}

/-! ## Synchronisation -/

/-- What is stored for a file describes it. -/
theorem describes_of_storedFor {dir : Directory} {pcaps : List PcapModel}
    {glob : String × DirEntry} {pcap : PcapModel} (hglob : glob ∈ dir.rows)
    (hstored : storedFor captures pcaps glob = some pcap) :
    ∃ content, Describes captures dir pcap content := by
  rcases glob with ⟨name, _ | content⟩
  · cases hstored
  rw [storedFor] at hstored
  split at hstored
  · rename_i hnew
    obtain ⟨dates, hdates, rfl⟩ := Option.map_eq_some_iff.mp hstored
    refine ⟨content, Table.get?_eq_some_iff.mpr hglob, ?_, dates, hdates, rfl⟩
    exact ((passes_iff captures pcaps name content).mp hnew.2.1).1
  · cases hstored

/-- A pass adds documents behind those that are stored, each of a file of the directory, and
    what it has added stays where it raises. -/
theorem syncEach_adds {dir : Directory} {globs : List (String × DirEntry)}
    (hglobs : globs ⊆ dir.rows) (repo : PcapRepo) (added : Nat) :
    ∃ pcaps, (syncEach captures globs repo added).2.pcaps = repo.pcaps ++ pcaps ∧
      ∀ pcap ∈ pcaps, ∃ content, Describes captures dir pcap content := by
  induction globs generalizing repo added with
  | nil => exact ⟨[], (List.append_nil _).symm, fun _ hmem => nomatch hmem⟩
  | cons glob globs ih =>
      rcases syncEach_cons captures glob globs repo added with
        ⟨-, e, hrun⟩ | ⟨-, repo', hpcaps, hrun⟩
      · rw [hrun]
        exact ⟨[], (List.append_nil _).symm, fun _ hmem => nomatch hmem⟩
      · have hrest : globs ⊆ dir.rows := fun glob' hmem => hglobs (List.mem_cons_of_mem _ hmem)
        obtain ⟨pcaps, hafter, hdescribed⟩ := ih hrest repo'
          (added + (storedFor captures repo.pcaps glob).toList.length)
        rw [hrun, hafter, hpcaps, List.append_assoc]
        refine ⟨_, rfl, fun pcap hmem => ?_⟩
        rcases List.mem_append.mp hmem with hmem | hmem
        · exact describes_of_storedFor (hglobs (List.mem_cons_self ..))
            (Option.mem_toList.mp hmem)
        · exact hdescribed pcap hmem

theorem listed_subset (dir : Directory) : listed dir ⊆ dir.rows := List.filter_subset_self _

theorem syncDirectory_adds (captures : Captures) (dir : Directory) (repo : PcapRepo) :
    ∃ pcaps, (syncDirectory captures dir repo).2.pcaps = repo.pcaps ++ pcaps ∧
      ∀ pcap ∈ pcaps, ∃ content, Describes captures dir pcap content :=
  syncEach_adds (listed_subset dir) repo 0

/-- A synchronisation leaves documents that describe files. -/
theorem described_syncDirectory {dir : Directory} {repo : PcapRepo}
    (h : Described captures ⟨repo, dir⟩) :
    Described captures ⟨(syncDirectory captures dir repo).2, dir⟩ := by
  obtain ⟨pcaps, hafter, hdescribed⟩ := syncDirectory_adds captures dir repo
  intro pcap hmem
  rw [hafter] at hmem
  exact (List.mem_append.mp hmem).elim (h pcap) (hdescribed pcap)

/-! ## One request -/

/-- An upload leaves everything as it was, or writes a new file and synchronises. -/
theorem uploadPcap_leaves (s : PcapState) (uuid : String) (place : Nat) (name : String)
    (data : Bytes) :
    (uploadPcap captures s uuid place name data).2 = s ∨
      ∃ name' dir, writeNew s.dir place name' data = some dir ∧
        (uploadPcap captures s uuid place name data).2 =
          ⟨(syncDirectory captures dir s.repo).2, dir⟩ := by
  by_cases hdata : data = []
  · left
    rw [uploadPcap, validateUpload, if_pos hdata]
  by_cases hdown : TurnedDown captures s uuid name data
  · obtain ⟨v, hrun, -⟩ := uploadPcap_of_turnedDown place hdata hdown
    rw [hrun]
    exact .inl rfl
  obtain ⟨v, v', -, -, hrun⟩ := uploadPcap_of_not_turnedDown place hdata hdown
  rw [hrun]
  cases hwrite : writeNew s.dir place (uploadName captures s.repo.pcaps uuid name) data with
  | none => exact .inl rfl
  | some dir =>
      refine .inr ⟨_, dir, hwrite, ?_⟩
      dsimp only
      rcases syncDirectory captures dir s.repo with ⟨_ | _, _⟩ <;> rfl

/-- A deletion leaves everything as it was, or takes the document and its file away and
    synchronises. -/
theorem deletePcap_leaves {s : PcapState} (hs : Described captures s) (name : String) :
    (∀ pcap ∈ s.repo.pcaps, pcap.name ≠ name) ∧ (deletePcap captures s name).2 = s ∨
      ∃ pcap, pcap ∈ s.repo.pcaps ∧ pcap.name = name ∧ (deletePcap captures s name).2 =
        ⟨(syncDirectory captures (s.dir.erase name) (s.repo.remove pcap)).2,
          s.dir.erase name⟩ := by
  rw [deletePcap, getPcapFromRepo]
  cases hfound : getByKey s.repo.pcaps .name name with
  | none =>
      refine .inl ⟨fun pcap hmem heq => ?_, rfl⟩
      exact getByKey_eq_none_iff.mp hfound (List.mem_map.mpr ⟨pcap, hmem, heq⟩)
  | some pcap =>
      have hmem : pcap ∈ s.repo.pcaps := List.mem_of_find?_eq_some hfound
      have hname : pcap.value .name = name := by simpa using List.find?_some hfound
      change pcap.name = name at hname
      obtain ⟨content, hdescribes⟩ := hs pcap hmem
      -- its file is in the directory, and is a file
      have hentry : entryAt s.dir pcap.path = some (name, .file content) := by
        obtain ⟨dates, -, hfields⟩ := hdescribes.fields
        have hpath : pcap.path = pathOf name := by rw [hfields, ← hname]; rfl
        rw [hpath, ← hname]
        exact entryAt_pathOf hdescribes.file
      refine .inr ⟨pcap, hmem, hname, ?_⟩
      dsimp only
      rw [removeFromDirectory, hentry]
      dsimp only
      rcases syncDirectory captures (s.dir.erase name) (s.repo.remove pcap) with ⟨_ | _, _⟩ <;> rfl

/-- A listing synchronises. -/
theorem getPcapsFromDirectory_leaves (s : PcapState) :
    (getPcapsFromDirectory captures s).2 = ⟨(syncDirectory captures s.dir s.repo).2, s.dir⟩ := by
  rw [getPcapsFromDirectory]
  rcases syncDirectory captures s.dir s.repo with ⟨_ | _, _⟩ <;> rfl

theorem Described.of_files {s : PcapState} {dir : Directory} {repo : PcapRepo}
    (hs : Described captures s) (hrepo : repo.pcaps ⊆ s.repo.pcaps)
    (hdir : ∀ pcap ∈ repo.pcaps, dir.get? pcap.name = s.dir.get? pcap.name) :
    Described captures ⟨repo, dir⟩ := by
  intro pcap hmem
  obtain ⟨content, hdescribes⟩ := hs pcap (hrepo hmem)
  exact ⟨content, (hdir pcap hmem).trans hdescribes.file, hdescribes.readable, hdescribes.fields⟩

/-- A new file leaves the files that are described. -/
theorem Described.writeNew {s : PcapState} {dir : Directory} {place : Nat} {name : String}
    {data : Bytes} (hs : Described captures s) (h : writeNew s.dir place name data = some dir) :
    Described captures ⟨s.repo, dir⟩ := by
  refine hs.of_files (List.Subset.refl _) fun pcap hmem => ?_
  obtain ⟨content, hdescribes⟩ := hs pcap hmem
  exact (get?_of_writeNew h hdescribes.file).trans hdescribes.file.symm

/-- A file may go when its document goes. -/
theorem Described.remove {s : PcapState} (hs : Described captures s) (pcap : PcapModel) :
    Described captures ⟨s.repo.remove pcap, s.dir.erase pcap.name⟩ := by
  refine hs.of_files (List.filter_subset_self _) fun stored hmem => ?_
  have hne : stored.name ≠ pcap.name := by simpa using (List.mem_filter.mp hmem).2
  rw [Table.get?_erase, if_neg hne]

theorem described_serve {s : PcapState} (hs : Described captures s) (request : PcapRequest) :
    Described captures (servePcap captures s request) := by
  cases request with
  | upload uuid place name data =>
      rcases uploadPcap_leaves s uuid place name data with h | ⟨name', dir, hwrite, h⟩
      · rw [servePcap, h]
        exact hs
      · rw [servePcap, h]
        exact described_syncDirectory (hs.writeNew hwrite)
  | delete name =>
      rcases deletePcap_leaves hs name with ⟨-, h⟩ | ⟨pcap, -, rfl, h⟩
      · rw [servePcap, h]
        exact hs
      · rw [servePcap, h]
        exact described_syncDirectory (hs.remove pcap)
  | list =>
      rw [servePcap, getPcapsFromDirectory_leaves]
      exact described_syncDirectory hs
  | copy place name data =>
      rw [servePcap]
      split
      · exact hs
      · rename_i dir hwrite
        exact hs.writeNew hwrite

/-- Over every run, whatever its requests end with, every document that is stored describes a
    file of the directory. -/
theorem described_of_requests {s : PcapState} (hs : Described captures s)
    (requests : List PcapRequest) : Described captures (requests.foldl (servePcap captures) s) := by
  induction requests generalizing s with
  | nil => exact hs
  | cons request requests ih => exact ih (described_serve hs request)

/-! ## A directory with one capture -/

/-- The document of the capture -/
def oneCapture : PcapModel := pcapModel plainCaptures "a.pcap" [1, 2] ("2022-01-01", "2022-01-02")

/-- The capture is in the directory, and stored. -/
def oneStored : PcapState where
  repo := ⟨[oneCapture], fun _ => List.nodup_singleton _⟩
  dir := ⟨[("a.pcap", .file [1, 2])], by decide⟩

theorem described_oneStored : Described plainCaptures oneStored := by
  intro pcap hmem
  rw [List.mem_singleton.mp hmem]
  exact ⟨[1, 2], rfl, .inl rfl, _, rfl, rfl⟩

theorem described_of_threeRequests :
    Described plainCaptures ([.upload "3f2a9c" 0 "new.pcap" [3], .copy 1 "copied.pcap" [3],
      .delete "a.pcap"].foldl (servePcap plainCaptures) oneStored) :=
  described_of_requests described_oneStored _

/-! ## The life of a capture -/

/-- A capture that is not deleted stays, and so does its file. -/
theorem mem_of_serve {s : PcapState} (hs : Described captures s) {pcap : PcapModel}
    (hmem : pcap ∈ s.repo.pcaps) {request : PcapRequest} (hnot : request ≠ .delete pcap.name) :
    pcap ∈ (servePcap captures s request).repo.pcaps ∧
      (servePcap captures s request).dir.get? pcap.name = s.dir.get? pcap.name := by
  obtain ⟨content, hdescribes⟩ := hs pcap hmem
  have hsync (dir : Directory) {repo : PcapRepo} (hrepo : pcap ∈ repo.pcaps) :
      pcap ∈ (syncDirectory captures dir repo).2.pcaps := by
    obtain ⟨pcaps, hafter, -⟩ := syncDirectory_adds captures dir repo
    rw [hafter]
    exact List.mem_append_left _ hrepo
  have hnew {dir : Directory} {place : Nat} {name : String} {data : Bytes}
      (h : writeNew s.dir place name data = some dir) :
      dir.get? pcap.name = s.dir.get? pcap.name :=
    (get?_of_writeNew h hdescribes.file).trans hdescribes.file.symm
  cases request with
  | upload uuid place name data =>
      rcases uploadPcap_leaves s uuid place name data with h | ⟨name', dir, hwrite, h⟩
      · rw [servePcap, h]
        exact ⟨hmem, rfl⟩
      · rw [servePcap, h]
        exact ⟨hsync dir hmem, hnew hwrite⟩
  | delete name =>
      have hname : pcap.name ≠ name := fun heq => hnot (by rw [heq])
      rcases deletePcap_leaves hs name with ⟨-, h⟩ | ⟨removed, -, rfl, h⟩
      · rw [servePcap, h]
        exact ⟨hmem, rfl⟩
      · rw [servePcap, h]
        refine ⟨hsync _ (List.mem_filter.mpr ⟨hmem, by simpa using hname⟩), ?_⟩
        rw [Table.get?_erase, if_neg hname]
  | list =>
      rw [servePcap, getPcapsFromDirectory_leaves]
      exact ⟨hsync _ hmem, rfl⟩
  | copy place name data =>
      rw [servePcap]
      split
      · exact ⟨hmem, rfl⟩
      · rename_i dir hwrite
        exact ⟨hmem, hnew hwrite⟩

/-- After a deletion there is neither a document of the name nor a file, even where the
    synchronisation at its end raises. -/
theorem gone_of_delete {s : PcapState} (hs : Described captures s) {pcap : PcapModel}
    (hmem : pcap ∈ s.repo.pcaps) :
    (∀ stored ∈ (servePcap captures s (.delete pcap.name)).repo.pcaps, stored.name ≠ pcap.name) ∧
      (servePcap captures s (.delete pcap.name)).dir.get? pcap.name = none := by
  rcases deletePcap_leaves hs pcap.name with ⟨hnone, -⟩ | ⟨removed, -, hname, h⟩
  · exact absurd rfl (hnone pcap hmem)
  have hgone : (s.dir.erase pcap.name).get? pcap.name = none := by
    rw [Table.get?_erase, if_pos rfl]
  rw [servePcap, h]
  refine ⟨fun stored hstored => ?_, hgone⟩
  obtain ⟨pcaps, hafter, hdescribed⟩ :=
    syncDirectory_adds captures (s.dir.erase pcap.name) (s.repo.remove removed)
  dsimp only at hstored
  rw [hafter] at hstored
  rcases List.mem_append.mp hstored with hstored | hstored
  · rw [← hname]
    simpa using (List.mem_filter.mp hstored).2
  · -- what the synchronisation adds has a file
    obtain ⟨content, hdescribes⟩ := hdescribed stored hstored
    intro heq
    have hfile := hdescribes.file
    rw [heq, hgone] at hfile
    cases hfile

/-- A capture that is stored lives, with its file, through every run in which it is not deleted,
    and a deletion leaves neither of them. -/
theorem lives_until_deleted {s : PcapState} (hs : Described captures s) {pcap : PcapModel}
    (hmem : pcap ∈ s.repo.pcaps) {requests : List PcapRequest}
    (hnot : PcapRequest.delete pcap.name ∉ requests) :
    let s' := requests.foldl (servePcap captures) s
    let s'' := servePcap captures s' (.delete pcap.name)
    (pcap ∈ s'.repo.pcaps ∧ s'.dir.get? pcap.name = s.dir.get? pcap.name) ∧
      (∀ stored ∈ s''.repo.pcaps, stored.name ≠ pcap.name) ∧ s''.dir.get? pcap.name = none := by
  have hlives : pcap ∈ (requests.foldl (servePcap captures) s).repo.pcaps ∧
      (requests.foldl (servePcap captures) s).dir.get? pcap.name = s.dir.get? pcap.name := by
    induction requests generalizing s with
    | nil => exact ⟨hmem, rfl⟩
    | cons request requests ih =>
        obtain ⟨hother, hrest⟩ := not_or.mp (List.mem_cons.not.mp hnot)
        obtain ⟨hmem', hfile⟩ := mem_of_serve hs hmem (Ne.symm hother)
        obtain ⟨hend, hfile'⟩ := ih (described_serve hs request) hmem' hrest
        exact ⟨hend, hfile'.trans hfile⟩
  exact ⟨hlives, gone_of_delete (described_of_requests hs requests) hlives.1⟩

theorem oneCapture_lives :
    let s' := [.upload "3f2a9c" 0 "a.pcap" [3], .delete "b.pcap"].foldl (servePcap plainCaptures)
      oneStored
    let s'' := servePcap plainCaptures s' (.delete "a.pcap")
    (oneCapture ∈ s'.repo.pcaps ∧ s'.dir.get? "a.pcap" = some (.file [1, 2])) ∧
      (∀ stored ∈ s''.repo.pcaps, stored.name ≠ "a.pcap") ∧ s''.dir.get? "a.pcap" = none :=
  lives_until_deleted described_oneStored (List.mem_singleton_self oneCapture) (by decide)

/-! ## The listing -/

/-- A capture that is stored has the path of the file, or its secured path, for its name. -/
def NameTaken (captures : Captures) (pcaps : List PcapModel) (name : String) : Prop :=
  ∃ pcap ∈ pcaps, pcap.name = pathOf name ∨ pcap.name = secureFilename captures (pathOf name)

/-- The listing has its captures in the order of their names, no name twice, each of a file of
    the directory, and the content of every capture there is but for those that are blocked. -/
structure ListsDirectory (captures : Captures) (dir : Directory) (pcaps : List PcapModel) :
    Prop where
  ascending : (pcaps.map PcapModel.name).Pairwise (· < ·)
  described : ∀ pcap ∈ pcaps, ∃ content, Describes captures dir pcap content
  complete : ∀ name content, dir.get? name = some (.file content) → isListed name = true →
    captures.firstRead content = .packet ∨ captures.firstRead content = .noPacket →
      (packetDates captures content).isSome →
        NameTaken captures pcaps name ∨ ∃ pcap ∈ pcaps, pcap.sha256 = captures.sha256 content

theorem sortedByName_perm (pcaps : List PcapModel) : (sortedByName pcaps).Perm pcaps :=
  List.mergeSort_perm _ _

theorem ascending_sortedByName (repo : PcapRepo) :
    ((sortedByName repo.pcaps).map PcapModel.name).Pairwise (· < ·) := by
  have hsorted : (sortedByName repo.pcaps).Pairwise fun pcap pcap' => pcap.name ≤ pcap'.name := by
    have h : (sortedByName repo.pcaps).Pairwise fun pcap pcap' =>
        decide (pcap.name ≤ pcap'.name) = true := by
      refine List.pairwise_mergeSort (fun a b c hab hbc => ?_) (fun a b => ?_) repo.pcaps
      · rw [decide_eq_true_eq] at hab hbc ⊢
        exact le_trans hab hbc
      · simpa using le_total a.name b.name
    simpa using h
  have hnodup : ((sortedByName repo.pcaps).map PcapModel.name).Nodup :=
    ((sortedByName_perm repo.pcaps).map _).nodup_iff.mpr (repo.unique .name)
  rw [List.pairwise_map]
  refine (hsorted.and (List.pairwise_map.mp hnodup)).imp fun h => ?_
  exact lt_of_le_of_ne h.1 h.2

/-- A document with this name or this path is that of the file. -/
theorem sha256_of_described {dir : Directory} {pcap : PcapModel} {name : String}
    {content content' : Bytes} (h : Describes captures dir pcap content')
    (hget : dir.get? name = some (.file content)) (hname : pcap.name = name) :
    pcap.sha256 = captures.sha256 content := by
  obtain ⟨dates, -, hfields⟩ := h.fields
  have hfile := h.file
  rw [hname, hget] at hfile
  cases hfile
  rw [hfields]
  rfl

/-- What a synchronisation that returns has left out is blocked or stored. -/
theorem complete_of_synced {dir : Directory} {repo repo' : PcapRepo} {added : Nat}
    (hsync : syncDirectory captures dir repo = (.ok added, repo'))
    (hdescribed : Described captures ⟨repo', dir⟩) {name : String} {content : Bytes}
    (hget : dir.get? name = some (.file content)) (hlisted : isListed name = true)
    (hread : captures.firstRead content = .packet ∨ captures.firstRead content = .noPacket)
    (hdates : (packetDates captures content).isSome) :
    NameTaken captures repo'.pcaps name ∨
      ∃ pcap ∈ repo'.pcaps, pcap.sha256 = captures.sha256 content := by
  have hdocs : repo'.pcaps = docsAfter captures repo.pcaps (listed dir) := by
    rcases syncEach_spec captures (listed dir) repo 0 with
      ⟨-, e, repo₂, hrun⟩ | ⟨-, repo₂, n, hdocs, -, hrun⟩
    · rw [syncDirectory, hrun] at hsync
      cases hsync
    · rw [syncDirectory, hrun] at hsync
      cases hsync
      exact hdocs
  have hglob : (name, DirEntry.file content) ∈ listed dir :=
    List.mem_filter.mpr ⟨Table.get?_eq_some_iff.mp hget, hlisted⟩
  have hnone : storedFor captures (docsAfter captures repo.pcaps (listed dir))
      (name, .file content) = none := storedFor_docsAfter captures hglob
  rw [← hdocs] at hnone
  have hfound {key : PcapKey} {value : String} (h : getByKey repo'.pcaps key value ≠ none) :
      ∃ pcap ∈ repo'.pcaps, pcap.value key = value := by
    rw [ne_eq, getByKey_eq_none_iff, not_not] at h
    exact List.mem_map.mp h
  by_contra hcontra
  obtain ⟨hfree, hnew⟩ := not_or.mp hcontra
  -- then the file would have been stored when its turn came
  refine absurd hnone ?_
  rw [storedFor, if_pos]
  · obtain ⟨dates, hdates⟩ := Option.isSome_iff_exists.mp hdates
    rw [hdates]
    exact Option.some_ne_none _
  refine ⟨?_, ?_, ?_, ?_⟩
  · by_contra hpath
    obtain ⟨pcap, hmem, hvalue⟩ := hfound hpath
    obtain ⟨content', hdescribes⟩ := hdescribed pcap hmem
    obtain ⟨dates, -, hfields⟩ := hdescribes.fields
    have hname : pcap.name = name := by
      refine pathOf_injective (Eq.trans ?_ hvalue)
      rw [hfields]
      rfl
    exact hnew ⟨pcap, hmem, sha256_of_described hdescribes hget hname⟩
  · rw [passes_iff]
    refine ⟨hread, ?_, ?_⟩
    · by_contra hname
      obtain ⟨pcap, hmem, hvalue⟩ := hfound hname
      exact hfree ⟨pcap, hmem, .inl hvalue⟩
    · by_contra hname
      obtain ⟨pcap, hmem, hvalue⟩ := hfound hname
      exact hfree ⟨pcap, hmem, .inr hvalue⟩
  · by_contra hsha
    obtain ⟨pcap, hmem, hvalue⟩ := hfound hsha
    exact hnew ⟨pcap, hmem, hvalue⟩
  · by_contra hname
    obtain ⟨pcap, hmem, hvalue⟩ := hfound hname
    obtain ⟨content', hdescribes⟩ := hdescribed pcap hmem
    exact hnew ⟨pcap, hmem, sha256_of_described hdescribes hget hvalue⟩

/-- In every run, a listing that returns lists the directory. -/
theorem listsDirectory_of_requests {s : PcapState} (hs : Described captures s)
    (requests : List PcapRequest) {v : PCAPServiceResponse} {pcaps : List PcapModel}
    {s' : PcapState}
    (hlist : getPcapsFromDirectory captures (requests.foldl (servePcap captures) s) =
      (.ok (v, pcaps), s')) :
    ListsDirectory captures s'.dir pcaps := by
  have hbefore := described_of_requests hs requests
  generalize requests.foldl (servePcap captures) s = t at hlist hbefore
  have hafter : Described captures ⟨(syncDirectory captures t.dir t.repo).2, t.dir⟩ :=
    described_syncDirectory hbefore
  rw [getPcapsFromDirectory] at hlist
  rcases hsync : syncDirectory captures t.dir t.repo with ⟨e | added, repo⟩
  · rw [hsync] at hlist
    cases hlist
  rw [hsync] at hlist hafter
  cases hlist
  have hmem (pcap : PcapModel) : pcap ∈ sortedByName repo.pcaps ↔ pcap ∈ repo.pcaps :=
    (sortedByName_perm repo.pcaps).mem_iff
  refine ⟨ascending_sortedByName repo, fun pcap h => hafter pcap ((hmem pcap).mp h), ?_⟩
  intro name content hget hlisted hread hdates
  rcases complete_of_synced hsync hafter hget hlisted hread hdates with
    ⟨pcap, hpcap, hname⟩ | ⟨pcap, hpcap, hsha⟩
  · exact .inl ⟨pcap, (hmem pcap).mpr hpcap, hname⟩
  · exact .inr ⟨pcap, (hmem pcap).mpr hpcap, hsha⟩

theorem listsDirectory_oneStored :
    ListsDirectory plainCaptures oneStored.dir (sortedByName [oneCapture]) := by
  have hsync : syncDirectory plainCaptures oneStored.dir oneStored.repo =
      (.ok 0, oneStored.repo) := rfl
  have hlist : getPcapsFromDirectory plainCaptures
      ([].foldl (servePcap plainCaptures) oneStored) =
        (.ok ({ name := "get_pcaps_from_directory", success := true, valid := true },
          sortedByName [oneCapture]), oneStored) := by
    rw [List.foldl_nil, getPcapsFromDirectory, hsync]
    rfl
  exact listsDirectory_of_requests described_oneStored [] hlist

end Runs

end Tfplenum
