/-
  Tfplenum.Service.ColdLogService

  `post_coldlog_upload` of `service/cold_log_service.py` and the part of `ColdLogsProcessor`
  that gathers the logs, as far as the files go.

  An archive is unpacked if its name ends in `zip`.  What is unpacked is handed to the job
  unless `.zip` occurs in its path, and the job copies it into one directory under its base
  name, so that files are left out and overwritten (`coldLogs_lossless_iff`).
-/

import Tfplenum.Lib.Fallible
import Tfplenum.Lib.ZipArchive
import Tfplenum.Service.PcapSync
import Tfplenum.Service.ZeekScripts

namespace Tfplenum

open Lib FileTree

/-! ## The upload -/

/-- `TfplenumTempDir`, by what it takes of a `uuid4`; the directory is new. -/
structure TfplenumTempDir where
  front : String
  hex : ∀ c ∈ front.toList, c ∈ "0123456789abcdef".toList

def TfplenumTempDir.filePathStr (dir : TfplenumTempDir) : String := "/root/tfplenum-" ++ dir.front

/-- `ColdLogUploadModel`, by what the files depend on. -/
structure ColdLogUploadModel where
  module : String
  filename : String
  uploadFile : String

namespace ColdLogUploadModel

/-- `from_request`, of a form that is valid -/
def fromRequest (captures : Captures) (module uploadName uploadFile : String) :
    ColdLogUploadModel where
  module := module
  filename := secureFilename captures uploadName
  uploadFile := uploadFile

def isWindows (model : ColdLogUploadModel) : Bool := model.module = "windows"

/-- `is_zip`: what follows the last dot, or the whole name -/
def isZip (model : ColdLogUploadModel) : Bool :=
  model.filename.toList.rtakeWhile (· ≠ '.') = ['z', 'i', 'p']

end ColdLogUploadModel

/-- The path of a file below the directory. -/
def absPath (dir : TfplenumTempDir) (p : Place) : String :=
  dir.filePathStr ++ "/" ++ "/".intercalate p.reverse

/-- `".zip" in path.lower()`; of the characters that are not ASCII, none becomes a part of it. -/
def namesZip (path : String) : Bool :=
  hasSubstring (String.ofList (path.toList.map Char.toLower)) ".zip"

def unpackRaised (path : String) : UnpackError PyError → PyError
  | .file e => raisedFor path e
  | .data e => e

/-- `WinlogbeatInstallModel`, which is loaded for logs of Windows. -/
def checkWinlogbeat (winlogbeat : Except PyError Unit) (model : ColdLogUploadModel) :
    Except PyError Unit :=
  if model.isWindows then
    match winlogbeat with
    | .error (.valueError _) => .error (.other "FailedToUploadWinLog")
    | result => result
  else .ok ()

/-- `upload_file.save(abs_save_path)` -/
def saveUpload (model : ColdLogUploadModel) : Except PyError FileTree :=
  match FileTree.empty.openFile [] model.filename with
  | .ok p => .ok (FileTree.empty.set p (.file model.uploadFile))
  | .error e => .error (raisedFor model.filename e)

/-- `zip_ref.extractall(tmpdirname)` -/
def extractUpload (model : ColdLogUploadModel) (members : List (ZipMember PyError))
    (tree : FileTree) : Except PyError FileTree :=
  match FileTree.unpack members tree with
  | (.ok (), tree) => .ok tree
  | (.error e, _) => .error (unpackRaised model.filename e)

/-- The loop over the files that `os.walk` finds -/
def gatherLogs (dir : TfplenumTempDir) (files : List Place) : List Place :=
  files.filter fun p => !namesZip (absPath dir p)

section Post

variable (zipFile : String → Except PyError (List (ZipMember PyError)))
  (walk : FileTree → List Place) (winlogbeat : Except PyError Unit) (dir : TfplenumTempDir)

/-- `post_coldlog_upload`, with the logs that the job is given and the directory they are in. -/
def postColdlogUpload (model : ColdLogUploadModel) : Except PyError (List Place × FileTree) := do
  checkWinlogbeat winlogbeat model
  let tree ← saveUpload model
  if model.isZip then
    -- `ZipFile` raises where the upload is no archive
    let members ← zipFile model.uploadFile
    let tree ← extractUpload model members tree
    return (gatherLogs dir (walk tree), tree)
  else
    return ([[model.filename]], tree)

end Post

/-! ## The job -/

/-- `log[log.rfind("/") + 1:]` -/
def baseName (log : Place) : String := log.headD ""

/-- `_set_log_names` -/
def setLogNames (logs : List Place) : List String := logs.map baseName

/-- `_copy_logs_to_dir`, into a new directory -/
def copyLogsToDir (tree : FileTree) (logs : List Place) :
    Except PyError (Table String String) :=
  logs.foldlM (fun dir log =>
    match tree.entry log with
    | some (.file text) => .ok (dir.upsert (baseName log) text)
    | some .directory => .error (.other "IsADirectoryError")
    | none => .error (.other "FileNotFoundError")) Table.empty

/-! ## What is meant -/

/-- The file is handed to the job once, and is among those that the processor reads. -/
structure Ingested (logs : List Place) (logDir : Table String String) (p : Place) (text : String) :
    Prop where
  handed : logs.count p = 1
  named : baseName p ∈ setLogNames logs
  present : logDir.get? (baseName p) = some text

/-- The directory is walked in some order. -/
def WalksFiles (walk : FileTree → List Place) : Prop :=
  ∀ t : FileTree, t.IsFinite → t.Lists (walk t)

/-- What is uploaded is ingested: every regular file of it if it can be read as an archive,
    however it is called, and else the upload itself. -/
def UploadIngested (zipFile : String → Except PyError (List (ZipMember PyError)))
    (model : ColdLogUploadModel) (logs : List Place) (logDir : Table String String) : Prop :=
  match zipFile model.uploadFile with
  | .ok members => ∀ m ∈ members, m.isDir = false →
      ∃ text, m.Holds text ∧ Ingested logs logDir m.place text
  | .error _ => Ingested logs logDir [model.filename] model.uploadFile

/-- The job gets what is uploaded, whatever the order of the walk. -/
def Lossless (zipFile : String → Except PyError (List (ZipMember PyError)))
    (winlogbeat : Except PyError Unit) (dir : TfplenumTempDir) (model : ColdLogUploadModel) :
    Prop :=
  ∀ walk, WalksFiles walk → ∃ logs tree logDir,
    postColdlogUpload zipFile walk winlogbeat dir model = .ok (logs, tree) ∧
      copyLogsToDir tree logs = .ok logDir ∧ UploadIngested zipFile model logs logDir

/-- The name is one for a file. -/
def Savable (model : ColdLogUploadModel) : Prop :=
  model.filename ≠ "" ∧ model.filename.utf8ByteSize ≤ nameMax

/-- The path below the directory. -/
def relPath (p : Place) : String := "/".intercalate p.reverse

/-- The archive can be unpacked beside itself, the paths of its files do not name a zip file,
    and of two files with one base name, one cannot be told from the other. -/
structure Separate (model : ColdLogUploadModel) (members : List (ZipMember PyError)) : Prop where
  unpacks : (FileTree.unpack members
    (FileTree.empty.set [model.filename] (.file model.uploadFile))).1 = .ok ()
  unnamed : ∀ m ∈ members, m.isDir = false → namesZip (relPath m.place) = false
  apart : ∀ m ∈ members, m.isDir = false → ∀ m' ∈ members, m'.isDir = false →
    baseName m.place = baseName m'.place → m.data = m'.data
  /-- the archive is handed over as well if its name is `zip` -/
  archive : namesZip model.filename = false → ∀ m ∈ members, m.isDir = false →
    baseName m.place = model.filename →
      m.Holds model.uploadFile ∨ ∃ m' ∈ members, m'.isDir = false ∧ m'.place = [model.filename]

/-- The uploads that the code processes without loss.  An archive that is not called one has
    no regular member, unless that is the archive once more, and what is called an archive is
    one. -/
structure Processable (zipFile : String → Except PyError (List (ZipMember PyError)))
    (model : ColdLogUploadModel) : Prop where
  savable : Savable model
  separate : ∀ members, zipFile model.uploadFile = .ok members → model.isZip = true →
    Separate model members
  empty : ∀ members, zipFile model.uploadFile = .ok members → model.isZip = false →
    ∀ m ∈ members, m.isDir = false → m.place = [model.filename] ∧ m.Holds model.uploadFile
  plain : ∀ e, zipFile model.uploadFile = .error e → model.isZip = false

/-! ## Names -/

theorem namesZip_iff (path : String) :
    namesZip path = true ↔ ['.', 'z', 'i', 'p'] <:+: path.toList.map Char.toLower := by
  have hlower : (String.ofList (path.toList.map Char.toLower)).toList =
      path.toList.map Char.toLower := String.toList_ofList
  rw [namesZip, hasSubstring_iff, hlower]
  rfl

/-- A text that begins with a character is not cut by a front without it. -/
theorem infix_append_iff {c : Char} {cs as bs : List Char} (h : c ∉ as) :
    c :: cs <:+: as ++ bs ↔ c :: cs <:+: bs := by
  induction as with
  | nil => rw [List.nil_append]
  | cons a as ih =>
      obtain ⟨hne, h⟩ := List.ne_and_not_mem_of_not_mem_cons h
      rw [List.cons_append, List.infix_cons_iff, ih h, List.cons_prefix_cons]
      exact or_iff_right (fun hprefix => hne hprefix.1)

/-- The path of the directory has no dot. -/
theorem namesZip_absPath (dir : TfplenumTempDir) (p : Place) :
    namesZip (absPath dir p) = namesZip (relPath p) := by
  have hdot : '.' ∉ (dir.filePathStr ++ "/").toList.map Char.toLower := by
    rw [TfplenumTempDir.filePathStr, String.toList_append, String.toList_append, List.map_append,
      List.map_append]
    simp only [List.mem_append, not_or]
    refine ⟨⟨by decide, ?_⟩, by decide⟩
    intro hmem
    obtain ⟨c, hc, hlower⟩ := List.mem_map.mp hmem
    have hhex : ∀ c ∈ "0123456789abcdef".toList, c.toLower ≠ '.' := by decide
    exact hhex c (dir.hex c hc) hlower
  apply Bool.eq_iff_iff.mpr
  rw [namesZip_iff, namesZip_iff, absPath, relPath, String.toList_append, List.map_append]
  exact infix_append_iff hdot

theorem relPath_singleton (name : String) : relPath [name] = name := by
  rw [relPath, List.reverse_singleton, String.intercalate_singleton]

/-- What `secure_filename` leaves. -/
structure IsSecure (filename : String) : Prop where
  chars : ∀ c ∈ filename.toList, isFilenameChar c = true
  last : ∀ c ∈ filename.toList.getLast?, c ≠ '.'

theorem isSecure_secureFilename (captures : Captures) (uploadName : String) :
    IsSecure (secureFilename captures uploadName) := by
  unfold secureFilename
  constructor
  · intro c hc
    rw [String.toList_ofList] at hc
    have hkept := (List.dropWhile_sublist _).subset ((List.rdropWhile_prefix _ _).subset hc)
    exact (List.mem_filter.mp hkept).2
  · intro c hc
    rw [String.toList_ofList] at hc
    have hne := List.ne_nil_of_mem (List.mem_of_getLast? hc)
    rw [List.getLast?_eq_some_getLast hne] at hc
    have hlast := List.rdropWhile_last_not _ _ hne
    rw [Option.some.inj hc] at hlast
    rintro rfl
    exact hlast rfl

section Saved

variable {model : ColdLogUploadModel}

/-- The upload is alone in the directory. -/
def savedTree (model : ColdLogUploadModel) : FileTree :=
  FileTree.empty.set [model.filename] (.file model.uploadFile)

theorem saveUpload_eq (h : IsSecure model.filename) :
    (Savable model → saveUpload model = .ok (savedTree model)) ∧
      (¬ Savable model → ∃ e, saveUpload model = .error e) := by
  have hslash : '/' ∉ model.filename.toList := by
    intro hmem
    exact absurd (h.chars _ hmem) (by decide)
  have hnull : '\x00' ∉ model.filename.toList := by
    intro hmem
    exact absurd (h.chars _ hmem) (by decide)
  have hnames : names model.filename = [model.filename] := by
    rw [names, List.splitOn_eq_singleton hslash]
    simp
  have hdots : model.filename ≠ "." ∧ model.filename ≠ ".." := by
    constructor
    · intro heq
      exact h.last '.' (by rw [heq]; rfl) rfl
    · intro heq
      exact h.last '.' (by rw [heq]; rfl) rfl
  have hopen : FileTree.empty.openFile [] model.filename =
      if model.filename = "" then .error .isADirectory
      else if nameMax < model.filename.utf8ByteSize then .error .nameTooLong
      else .ok [model.filename] := by
    have hentry : FileTree.empty.entry [model.filename] = none := rfl
    have hstart : start [] model.filename = [] := by
      rw [start, ite_self]
    simp only [openFile, if_neg hnull, hnames, List.reverse_singleton, List.reverse_nil, hstart,
      walk, hdots.1, hdots.2, or_false, hentry, reduceCtorEq, if_false]
  rw [saveUpload, hopen, Savable]
  by_cases hempty : model.filename = ""
  · rw [if_pos hempty]
    exact ⟨fun hsavable => absurd hempty hsavable.1, fun _ => ⟨_, rfl⟩⟩
  rw [if_neg hempty]
  by_cases hlong : nameMax < model.filename.utf8ByteSize
  · rw [if_pos hlong]
    exact ⟨fun hsavable => absurd hlong (Nat.not_lt.mpr hsavable.2), fun _ => ⟨_, rfl⟩⟩
  · rw [if_neg hlong]
    exact ⟨fun _ => rfl, fun hnot => absurd ⟨hempty, Nat.not_lt.mp hlong⟩ hnot⟩

end Saved

/-! ## The copies -/

section Copies

variable {tree : FileTree} {logs : List Place}

/-- The last log is copied last. -/
theorem copyLogsToDir_concat (logs : List Place) {log : Place} {text : String}
    (h : tree.entry log = some (.file text)) :
    copyLogsToDir tree (logs ++ [log]) =
      (copyLogsToDir tree logs).map fun dir => dir.upsert (baseName log) text := by
  rw [copyLogsToDir, List.foldlM_append, ← copyLogsToDir]
  cases copyLogsToDir tree logs with
  | error e => rfl
  | ok dir =>
      simp only [List.foldlM_cons, List.foldlM_nil, h]
      rfl

/-- Every base name is there, with the content of one of its files. -/
theorem exists_copyLogsToDir (h : ∀ log ∈ logs, ∃ text, tree.entry log = some (.file text)) :
    ∃ logDir, copyLogsToDir tree logs = .ok logDir ∧ ∀ log ∈ logs, ∃ log' ∈ logs,
      baseName log' = baseName log ∧ ∃ text, tree.entry log' = some (.file text) ∧
        logDir.get? (baseName log) = some text := by
  induction logs using List.reverseRecOn with
  | nil => exact ⟨Table.empty, rfl, by simp⟩
  | append_singleton logs last ih =>
      obtain ⟨text, hlast⟩ := h last (by simp)
      obtain ⟨logDir, hcopy, hdir⟩ := ih fun log hlog => h log (List.mem_append_left _ hlog)
      refine ⟨logDir.upsert (baseName last) text, ?_, ?_⟩
      · rw [copyLogsToDir_concat _ hlast, hcopy]
        rfl
      · intro log hlog
        by_cases hbase : baseName log = baseName last
        · refine ⟨last, by simp, hbase.symm, text, hlast, ?_⟩
          rw [Table.get?_upsert, if_pos hbase]
        · have hbefore : log ∈ logs := by
            rcases List.mem_append.mp hlog with hmem | hmem
            · exact hmem
            · exact absurd (congrArg baseName (List.mem_singleton.mp hmem)) hbase
          obtain ⟨log', hlog', hsame, text', hfile, hget⟩ := hdir log hbefore
          refine ⟨log', List.mem_append_left _ hlog', hsame, text', hfile, ?_⟩
          rw [Table.get?_upsert, if_neg hbase, hget]

end Copies

/-! ## An archive -/

section Archive

variable {model : ColdLogUploadModel} {members : List (ZipMember PyError)} {tree : FileTree}

theorem savedTree_entry {p : Place} {text : String} :
    (savedTree model).entry p = some (.file text) ↔
      p = [model.filename] ∧ text = model.uploadFile := by
  by_cases hp : p = [model.filename]
  · rw [hp, savedTree, set_entry_self]
    simp [eq_comm]
  · rw [savedTree, set_entry_of_ne _ _ hp, FileTree.empty]
    simp only [hp, false_and, iff_false]
    split_ifs <;> simp

theorem isFinite_savedTree : (savedTree model).IsFinite := isFinite_empty.set _ _

/-- What is unpacked of an archive whose members are apart. -/
theorem file_of_separate (h : Separate model members)
    (hunpack : FileTree.unpack members (savedTree model) = (.ok (), tree))
    {m : ZipMember PyError} (hm : m ∈ members) (hregular : m.isDir = false) :
    ∃ text, m.Holds text ∧ tree.entry m.place = some (.file text) := by
  obtain ⟨text, hfile⟩ := exists_file_of_unpack hunpack hm hregular
  refine ⟨text, ?_, hfile⟩
  rcases file_of_unpack hunpack hfile with ⟨m', hm', hregular', hplace, hholds⟩ | ⟨-, hnone⟩
  · have hsame := h.apart m hm hregular m' hm' hregular' (by rw [hplace])
    rw [ZipMember.Holds, hsame]
    exact hholds
  · exact absurd rfl (hnone m hm hregular)

variable {walk : FileTree → List Place} (dir : TfplenumTempDir)

/-- Each of its files is handed over and copied. -/
theorem ingested_of_separate (h : Separate model members)
    (hunpack : FileTree.unpack members (savedTree model) = (.ok (), tree))
    (hwalk : tree.Lists (walk tree)) :
    ∃ logDir, copyLogsToDir tree (gatherLogs dir (walk tree)) = .ok logDir ∧
      ∀ m ∈ members, m.isDir = false → ∃ text, m.Holds text ∧
        Ingested (gatherLogs dir (walk tree)) logDir m.place text := by
  have hlogs (p : Place) : p ∈ (gatherLogs dir (walk tree)) ↔
      (∃ text, tree.entry p = some (.file text)) ∧ namesZip (relPath p) = false := by
    rw [gatherLogs, List.mem_filter, hwalk.2, namesZip_absPath, Bool.not_eq_true']
  obtain ⟨logDir, hcopy, hdir⟩ := exists_copyLogsToDir fun log hlog => ((hlogs log).mp hlog).1
  refine ⟨logDir, hcopy, fun m hm hregular => ?_⟩
  obtain ⟨text, hholds, hfile⟩ := file_of_separate h hunpack hm hregular
  have hmem := (hlogs m.place).mpr ⟨⟨text, hfile⟩, h.unnamed m hm hregular⟩
  refine ⟨text, hholds, List.count_eq_one_of_mem (hwalk.1.filter _) hmem,
    List.mem_map_of_mem hmem, ?_⟩
  -- the file that is copied last under the base name has the same content
  obtain ⟨log, hlog, hbase, text', hfile', hget⟩ := hdir _ hmem
  have hsame : text' = text := by
    rcases file_of_unpack hunpack hfile' with ⟨m', hm', hregular', rfl, hholds'⟩ | ⟨hsaved, hnone⟩
    · have hdata := h.apart m' hm' hregular' m hm hregular hbase
      rw [ZipMember.Holds, hdata, hholds] at hholds'
      cases hholds'
      rfl
    · obtain ⟨rfl, rfl⟩ := savedTree_entry.mp hsaved
      have hnamed := ((hlogs _).mp hlog).2
      rw [relPath_singleton] at hnamed
      rcases h.archive hnamed m hm hregular hbase.symm with hdata | ⟨m', hm', hregular', hplace⟩
      · rw [ZipMember.Holds, hholds] at hdata
        cases hdata
        rfl
      · exact absurd hplace (hnone m' hm' hregular')
  rw [hget, hsame]

/-- The archive is still there, if nothing is unpacked over it. -/
theorem archive_of_unpack
    (hunpack : FileTree.unpack members (savedTree model) = (.ok (), tree))
    (hnone : ∀ m ∈ members, m.isDir = false → m.place ≠ [model.filename]) :
    tree.entry [model.filename] = some (.file model.uploadFile) := by
  have hsaved : (savedTree model).entry [model.filename] = some (.file model.uploadFile) :=
    savedTree_entry.mpr ⟨rfl, rfl⟩
  obtain ⟨text, hfile⟩ := exists_file_of_extractEach hunpack (fun _ h => h) (.inl ⟨_, hsaved⟩)
  rcases file_of_unpack hunpack hfile with ⟨m, hm, hregular, hplace, -⟩ | ⟨hbefore, -⟩
  · exact absurd hplace (hnone m hm hregular)
  · rw [hfile, (savedTree_entry.mp hbefore).2]

/-- An archive that is not left out is copied over what has its name, where the walk ends
    with it. -/
theorem exists_lists_archive_last {files : List Place} (hfiles : tree.Lists files)
    (hfile : tree.entry [model.filename] = some (.file model.uploadFile))
    (hnamed : namesZip model.filename = false) :
    ∃ files', tree.Lists files' ∧ ∀ logDir,
      copyLogsToDir tree (gatherLogs dir files') = .ok logDir →
        logDir.get? model.filename = some model.uploadFile := by
  have hmem : [model.filename] ∈ files := (hfiles.2 _).mpr ⟨_, hfile⟩
  have hperm : (files.erase [model.filename] ++ [[model.filename]]).Perm files :=
    (List.perm_append_singleton _ _).trans (List.perm_cons_erase hmem).symm
  refine ⟨_, hfiles.perm hperm, fun logDir hcopy => ?_⟩
  have hlast : gatherLogs dir (files.erase [model.filename] ++ [[model.filename]]) =
      gatherLogs dir (files.erase [model.filename]) ++ [[model.filename]] := by
    have hhanded : namesZip (absPath dir [model.filename]) = false := by
      rw [namesZip_absPath, relPath_singleton, hnamed]
    rw [gatherLogs, List.filter_append, ← gatherLogs]
    simp [hhanded]
  rw [hlast, copyLogsToDir_concat _ hfile] at hcopy
  obtain ⟨before, -, rfl⟩ := Fallible.map_eq_ok_iff.mp hcopy
  have hbaseName : baseName [model.filename] = model.filename := rfl
  rw [hbaseName, Table.get?_upsert, if_pos rfl]

/-- Lossless processing keeps the members apart; the archive may be walked over last. -/
theorem separate_of_ingested
    (hunpack : FileTree.unpack members (savedTree model) = (.ok (), tree))
    (h : ∀ files, tree.Lists files → ∃ logDir,
      copyLogsToDir tree (gatherLogs dir files) = .ok logDir ∧
        ∀ m ∈ members, m.isDir = false → ∃ text, m.Holds text ∧
          Ingested (gatherLogs dir files) logDir m.place text) :
    Separate model members := by
  obtain ⟨files, hfiles⟩ := (isFinite_savedTree.of_unpack hunpack).exists_lists
  obtain ⟨logDir, -, hingested⟩ := h files hfiles
  refine ⟨by rw [← savedTree, hunpack], ?_, ?_, ?_⟩
  · -- what is handed over is not left out
    intro m hm hregular
    obtain ⟨text, -, hhanded, -, -⟩ := hingested m hm hregular
    have hmem : m.place ∈ gatherLogs dir files :=
      List.count_pos_iff.mp (by omega)
    have hnamed := (List.mem_filter.mp hmem).2
    rw [namesZip_absPath, Bool.not_eq_true'] at hnamed
    exact hnamed
  · -- the log directory has one content for a name
    intro m hm hregular m' hm' hregular' hbase
    obtain ⟨text, hholds, -, -, hget⟩ := hingested m hm hregular
    obtain ⟨text', hholds', -, -, hget'⟩ := hingested m' hm' hregular'
    rw [hbase, hget'] at hget
    cases hget
    exact hholds.trans hholds'.symm
  · -- an archive that is handed over as well may be copied last
    intro hnamed m hm hregular hbase
    apply or_iff_not_imp_right.mpr
    intro hnone
    push Not at hnone
    obtain ⟨files', hfiles', hlast⟩ :=
      exists_lists_archive_last dir hfiles (archive_of_unpack hunpack hnone) hnamed
    obtain ⟨logDir', hcopy, hingested'⟩ := h files' hfiles'
    obtain ⟨text, hholds, -, -, hget⟩ := hingested' m hm hregular
    rw [hbase, hlast logDir' hcopy] at hget
    cases hget
    exact hholds

end Archive

/-! ## The whole run -/

/-- Every directory can be walked over. -/
theorem WalksFiles.exists_walk : ∃ walk, WalksFiles walk := by
  classical
  refine ⟨fun t => if ht : t.IsFinite then ht.exists_lists.choose else [], ?_⟩
  intro t ht
  dsimp only
  rw [dif_pos ht]
  exact ht.exists_lists.choose_spec

/-- The order of a walk can be chosen for one directory. -/
theorem WalksFiles.exists_walk_eq {tree : FileTree} {files : List Place} (h : tree.Lists files) :
    ∃ walk, WalksFiles walk ∧ walk tree = files := by
  classical
  obtain ⟨walk, hwalk⟩ := WalksFiles.exists_walk
  refine ⟨fun t => if t = tree then files else walk t, ?_, if_pos rfl⟩
  intro t ht
  dsimp only
  split_ifs with heq
  · rw [heq]
    exact h
  · exact hwalk t ht

section Whole

variable {zipFile : String → Except PyError (List (ZipMember PyError))}
  {walk : FileTree → List Place} {winlogbeat : Except PyError Unit} {dir : TfplenumTempDir}
  {model : ColdLogUploadModel}

/-- A file that is no archive is handed over as it is. -/
theorem post_of_not_isZip (haccepted : checkWinlogbeat winlogbeat model = .ok ())
    (hsave : saveUpload model = .ok (savedTree model)) (hzip : model.isZip = false) :
    postColdlogUpload zipFile walk winlogbeat dir model =
      .ok ([[model.filename]], savedTree model) := by
  rw [postColdlogUpload, haccepted, hsave, hzip]
  rfl

theorem post_of_isZip (haccepted : checkWinlogbeat winlogbeat model = .ok ())
    (hsave : saveUpload model = .ok (savedTree model)) (hzip : model.isZip = true)
    {members : List (ZipMember PyError)} (hmembers : zipFile model.uploadFile = .ok members) :
    postColdlogUpload zipFile walk winlogbeat dir model =
      (extractUpload model members (savedTree model)).map fun tree =>
        (gatherLogs dir (walk tree), tree) := by
  rw [postColdlogUpload, haccepted, hsave, hzip, hmembers]
  change (extractUpload model members (savedTree model)) >>= _ = _
  cases extractUpload model members (savedTree model) <;> rfl

theorem extractUpload_eq_ok_iff {members : List (ZipMember PyError)} {tree₀ tree : FileTree} :
    extractUpload model members tree₀ = .ok tree ↔
      FileTree.unpack members tree₀ = (.ok (), tree) := by
  unfold extractUpload
  split
  · rename_i unpacked hunpack
    rw [hunpack, Prod.mk.injEq]
    simp
  · rename_i e unpacked hunpack
    rw [hunpack, Prod.mk.injEq]
    simp

/-- What the job is given of an archive. -/
theorem post_eq_ok_iff (haccepted : checkWinlogbeat winlogbeat model = .ok ())
    (hsave : saveUpload model = .ok (savedTree model)) (hzip : model.isZip = true)
    {members : List (ZipMember PyError)} (hmembers : zipFile model.uploadFile = .ok members)
    {logs : List Place} {tree : FileTree} :
    postColdlogUpload zipFile walk winlogbeat dir model = .ok (logs, tree) ↔
      FileTree.unpack members (savedTree model) = (.ok (), tree) ∧
        logs = gatherLogs dir (walk tree) := by
  rw [post_of_isZip haccepted hsave hzip hmembers, Fallible.map_eq_ok_iff]
  simp only [extractUpload_eq_ok_iff, Prod.mk.injEq]
  constructor
  · rintro ⟨tree', hunpack, rfl, rfl⟩
    exact ⟨hunpack, rfl⟩
  · rintro ⟨hunpack, rfl⟩
    exact ⟨tree, hunpack, rfl, rfl⟩

theorem post_of_not_savable (haccepted : checkWinlogbeat winlogbeat model = .ok ()) {e : PyError}
    (hsave : saveUpload model = .error e) (result : List Place × FileTree) :
    postColdlogUpload zipFile walk winlogbeat dir model ≠ .ok result := by
  rw [postColdlogUpload, haccepted, hsave]
  exact fun h => nomatch h

/-- What is processed was saved. -/
theorem Lossless.savable (h : Lossless zipFile winlogbeat dir model)
    (hsecure : IsSecure model.filename)
    (haccepted : checkWinlogbeat winlogbeat model = .ok ()) : Savable model := by
  by_contra hnot
  obtain ⟨e, he⟩ := (saveUpload_eq hsecure).2 hnot
  obtain ⟨walk, hwalk⟩ := WalksFiles.exists_walk
  obtain ⟨logs, tree, logDir, hpost, -⟩ := h walk hwalk
  exact post_of_not_savable haccepted he _ hpost

/-- The upload alone is copied. -/
theorem ingested_upload_iff {p : Place} {text : String} :
    Ingested [[model.filename]] (Table.empty.upsert model.filename model.uploadFile) p text ↔
      p = [model.filename] ∧ text = model.uploadFile := by
  constructor
  · rintro ⟨hhanded, -, hget⟩
    have hmem : p ∈ [[model.filename]] := List.count_pos_iff.mp (by omega)
    rw [List.mem_singleton] at hmem
    subst hmem
    rw [baseName, List.headD_cons, Table.get?_upsert, if_pos rfl] at hget
    exact ⟨rfl, (Option.some.inj hget).symm⟩
  · rintro ⟨rfl, rfl⟩
    exact ⟨by simp, by simp [setLogNames], by simp [baseName]⟩

/-- Under another name, an upload is processed as a plain file. -/
theorem lossless_iff_of_not_isZip (haccepted : checkWinlogbeat winlogbeat model = .ok ())
    (hsave : saveUpload model = .ok (savedTree model)) (hzip : model.isZip = false) :
    Lossless zipFile winlogbeat dir model ↔
      ∀ members, zipFile model.uploadFile = .ok members → ∀ m ∈ members, m.isDir = false →
        m.place = [model.filename] ∧ m.Holds model.uploadFile := by
  have hcopy : copyLogsToDir (savedTree model) [[model.filename]] =
      .ok (Table.empty.upsert model.filename model.uploadFile) :=
    copyLogsToDir_concat [] (savedTree_entry.mpr ⟨rfl, rfl⟩)
  have hingested : Lossless zipFile winlogbeat dir model ↔ UploadIngested zipFile model
      [[model.filename]] (Table.empty.upsert model.filename model.uploadFile) := by
    constructor
    · intro hlossless
      obtain ⟨walk, hwalk⟩ := WalksFiles.exists_walk
      obtain ⟨logs, tree, logDir, hpost, hcopied, hall⟩ := hlossless walk hwalk
      rw [post_of_not_isZip haccepted hsave hzip] at hpost
      cases hpost
      rw [hcopy] at hcopied
      cases hcopied
      exact hall
    · exact fun hall walk _ => ⟨_, _, _, post_of_not_isZip haccepted hsave hzip, hcopy, hall⟩
  rw [hingested, UploadIngested]
  cases hmembers : zipFile model.uploadFile with
  | error e => simp [ingested_upload_iff]
  | ok members =>
      constructor
      · rintro hall _ heq m hm hregular
        cases heq
        obtain ⟨text, hholds, hone⟩ := hall m hm hregular
        obtain ⟨hplace, rfl⟩ := ingested_upload_iff.mp hone
        exact ⟨hplace, hholds⟩
      · intro hall m hm hregular
        obtain ⟨hplace, hholds⟩ := hall members rfl m hm hregular
        exact ⟨_, hholds, ingested_upload_iff.mpr ⟨hplace, rfl⟩⟩

/-- What is called an archive has to be one. -/
theorem not_lossless_of_not_archive (haccepted : checkWinlogbeat winlogbeat model = .ok ())
    (hsave : saveUpload model = .ok (savedTree model)) (hzip : model.isZip = true) {e : PyError}
    (hmembers : zipFile model.uploadFile = .error e) :
    ¬ Lossless zipFile winlogbeat dir model := by
  intro hlossless
  obtain ⟨walk, hwalk⟩ := WalksFiles.exists_walk
  obtain ⟨logs, tree, logDir, hpost, -⟩ := hlossless walk hwalk
  rw [postColdlogUpload, haccepted, hsave, hzip, hmembers] at hpost
  cases hpost

/-- An archive is processed if its members are apart. -/
theorem lossless_iff_of_isZip (haccepted : checkWinlogbeat winlogbeat model = .ok ())
    (hsave : saveUpload model = .ok (savedTree model)) (hzip : model.isZip = true)
    {members : List (ZipMember PyError)} (hmembers : zipFile model.uploadFile = .ok members) :
    Lossless zipFile winlogbeat dir model ↔ Separate model members := by
  have hpost_iff (walk logs tree) :
      postColdlogUpload zipFile walk winlogbeat dir model = .ok (logs, tree) ↔
        FileTree.unpack members (savedTree model) = (.ok (), tree) ∧
          logs = gatherLogs dir (walk tree) :=
    post_eq_ok_iff haccepted hsave hzip hmembers
  simp only [Lossless, UploadIngested, hmembers]
  constructor
  · intro hlossless
    obtain ⟨walk, hwalk⟩ := WalksFiles.exists_walk
    obtain ⟨logs, tree, logDir, hpost, -⟩ := hlossless walk hwalk
    obtain ⟨hunpack, -⟩ := (hpost_iff ..).mp hpost
    apply separate_of_ingested dir hunpack
    intro files hfiles
    obtain ⟨walk', hwalk', rfl⟩ := WalksFiles.exists_walk_eq hfiles
    obtain ⟨logs', tree', logDir', hpost', hcopy, hingested⟩ := hlossless walk' hwalk'
    obtain ⟨hunpack', rfl⟩ := (hpost_iff ..).mp hpost'
    rw [hunpack] at hunpack'
    cases hunpack'
    exact ⟨logDir', hcopy, hingested⟩
  · intro hseparate walk hwalk
    obtain ⟨tree, hunpack⟩ :
        ∃ tree, FileTree.unpack members (savedTree model) = (.ok (), tree) :=
      ⟨_, Prod.ext hseparate.unpacks rfl⟩
    obtain ⟨logDir, hcopy, hingested⟩ := ingested_of_separate dir hseparate hunpack
      (hwalk tree (isFinite_savedTree.of_unpack hunpack))
    exact ⟨_, tree, logDir, (hpost_iff ..).mpr ⟨hunpack, rfl⟩, hcopy, hingested⟩

end Whole

/-- For every upload that is not refused, what is uploaded is processed without loss exactly if
    it is one that the code keeps. -/
theorem coldLogs_lossless_iff (captures : Captures)
    (zipFile : String → Except PyError (List (ZipMember PyError)))
    (winlogbeat : Except PyError Unit) (dir : TfplenumTempDir)
    (module uploadName uploadFile : String)
    (haccepted : checkWinlogbeat winlogbeat
      (.fromRequest captures module uploadName uploadFile) = .ok ()) :
    Lossless zipFile winlogbeat dir (.fromRequest captures module uploadName uploadFile) ↔
      Processable zipFile (.fromRequest captures module uploadName uploadFile) := by
  have hsecure := isSecure_secureFilename captures uploadName
  generalize hmodel : ColdLogUploadModel.fromRequest captures module uploadName uploadFile = model
    at haccepted
  have hname : IsSecure model.filename := by
    rw [← hmodel]
    exact hsecure
  constructor
  · intro hlossless
    have hsavable := hlossless.savable hname haccepted
    have hsave := (saveUpload_eq hname).1 hsavable
    refine ⟨hsavable, fun members hmembers hzip => ?_, fun members hmembers hzip => ?_,
      fun e hmembers => ?_⟩
    · exact (lossless_iff_of_isZip haccepted hsave hzip hmembers).mp hlossless
    · exact (lossless_iff_of_not_isZip haccepted hsave hzip).mp hlossless members hmembers
    · rw [← Bool.not_eq_true]
      exact fun hzip => not_lossless_of_not_archive haccepted hsave hzip hmembers hlossless
  · intro h
    have hsave := (saveUpload_eq hname).1 h.savable
    cases hzip : model.isZip with
    | false =>
        exact (lossless_iff_of_not_isZip haccepted hsave hzip).mpr fun members hmembers =>
          h.empty members hmembers hzip
    | true =>
        cases hmembers : zipFile model.uploadFile with
        | error e =>
            rw [h.plain e hmembers] at hzip
            cases hzip
        | ok members =>
            exact (lossless_iff_of_isZip haccepted hsave hzip hmembers).mpr
              (h.separate members hmembers hzip)

/-- Nothing is refused where the model of Winlogbeat is saved. -/
theorem checkWinlogbeat_ok (model : ColdLogUploadModel) :
    checkWinlogbeat (.ok ()) model = .ok () := by
  unfold checkWinlogbeat
  split <;> rfl

def newTempDir : TfplenumTempDir := ⟨"a1b2c3", by decide⟩

/-- An archive with the logs of two hosts. -/
def twoHosts : List (ZipMember PyError) :=
  [⟨"host1/access.log", .read "a" (.ok ())⟩, ⟨"host2/access.log", .read "b" (.ok ())⟩]

theorem not_separate_twoHosts (model : ColdLogUploadModel) : ¬ Separate model twoHosts := by
  intro h
  have hregular : ∀ m ∈ twoHosts, m.isDir = false := by
    simp only [twoHosts, List.forall_mem_cons]
    decide +kernel
  have hbase : baseName (twoHosts[0].place) = baseName (twoHosts[1].place) := by decide +kernel
  have hfirst : twoHosts[0] ∈ twoHosts := List.getElem_mem _
  have hsecond : twoHosts[1] ∈ twoHosts := List.getElem_mem _
  have hdata := h.apart _ hfirst (hregular _ hfirst) _ hsecond (hregular _ hsecond) hbase
  simp [twoHosts] at hdata

/-- An upload of logs for Apache. -/
theorem coldLogs_lossless_apache :
    Lossless (fun _ => .ok [⟨"host1/access.log", .read "a" (.ok ())⟩]) (.ok ()) newTempDir
        (.fromRequest plainCaptures "apache" "logs.zip" "PK") ↔
      Processable (fun _ => .ok [⟨"host1/access.log", .read "a" (.ok ())⟩])
        (.fromRequest plainCaptures "apache" "logs.zip" "PK") :=
  coldLogs_lossless_iff plainCaptures _ (.ok ()) newTempDir "apache" "logs.zip" "PK"
    (checkWinlogbeat_ok _)

/-- The job is given both logs and copies them over one another. -/
theorem not_lossless_twoHosts :
    ¬ ∀ (captures : Captures) (zipFile : String → Except PyError (List (ZipMember PyError)))
      (winlogbeat : Except PyError Unit) (dir : TfplenumTempDir)
      (module uploadName uploadFile : String),
      checkWinlogbeat winlogbeat (.fromRequest captures module uploadName uploadFile) = .ok () →
        Lossless zipFile winlogbeat dir
          (.fromRequest captures module uploadName uploadFile) := by
  intro h
  have hsecure : IsSecure
      (ColdLogUploadModel.fromRequest plainCaptures "apache" "logs.zip" "PK").filename :=
    isSecure_secureFilename plainCaptures "logs.zip"
  have hzip : (ColdLogUploadModel.fromRequest plainCaptures "apache" "logs.zip" "PK").isZip =
      true := by
    decide +kernel
  have hlossless := h plainCaptures (fun _ => .ok twoHosts) (.ok ()) newTempDir "apache" "logs.zip"
    "PK" (checkWinlogbeat_ok _)
  have hsave := (saveUpload_eq hsecure).1 (hlossless.savable hsecure (checkWinlogbeat_ok _))
  exact not_separate_twoHosts _
    ((lossless_iff_of_isZip (checkWinlogbeat_ok _) hsave hzip rfl).mp hlossless)

end Tfplenum
