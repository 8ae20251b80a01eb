/-
  Tfplenum.Service.PcapService

  `service/pcap_service.py`: captures are uploaded to a directory, and a
  synchronisation puts those the directory has into the repository.  The directory is
  the default of every call, and exists.

  Scapy, the hash and the normalisation of Unicode are parameters; `PcapReader` raises
  no exception but those that are caught.  Creation dates and ids are left out.
-/

import Mathlib.Data.List.DropRight
import Tfplenum.Common
import Tfplenum.Lib.FileTree
import Tfplenum.Lib.Table
import Tfplenum.Service.RulesetService

namespace Tfplenum

open Lib

abbrev Bytes := List UInt8

/-- What comes of reading the first packet. -/
inductive FirstRead where
  | packet
  /-- `StopIteration` -/
  | noPacket
  /-- `EOFError` -/
  | endOfFile
  /-- `Scapy_Exception` -/
  | unsupported
deriving DecidableEq, Repr

/-- What the service asks of other code. -/
structure Captures where
  sha256 : Bytes → String
  firstRead : Bytes → FirstRead
  /-- `rdpcap`, answered with the times of the packets -/
  rdpcap : Bytes → Except PyError (List Nat)
  /-- `datetime.fromtimestamp(time).strftime(DATE_FORMAT_STR)` -/
  dateOf : Nat → Except PyError String
  /-- `unicodedata.normalize("NFKD", text)` -/
  nfkd : String → String

def pcapUploadDir := "/var/www/html/pcaps"

/-! ## Messages -/

inductive ServiceMsgType where
  | error | warning | info
deriving DecidableEq, Repr

inductive ServiceErrorType where
  | noFileProvided | invalidPcapFile | eofError | pcapRepoError | pcapAlreadyExists
  | pcapExistsInDirectory | pcapExistsInRepo
deriving DecidableEq, Repr

inductive ServiceWarningType where
  | fileExtensionMissing | invalidFileExtension | insecureFileName | fileAlreadyRemovedFromDisk
  | pcapNameExistsInRepo
deriving DecidableEq, Repr

/-- A member of one of the three enumerations. -/
inductive ServiceTag where
  | msg (type : ServiceMsgType)
  | error (type : ServiceErrorType)
  | warning (type : ServiceWarningType)
deriving DecidableEq, Repr

namespace ServiceTag

def isError : ServiceTag → Bool
  | error _ => true
  | _ => false

def isWarning : ServiceTag → Bool
  | warning _ => true
  | _ => false

end ServiceTag

/-- A message, with the assertions of its constructor. -/
structure ServiceMsg where
  type : ServiceTag
  msg : String
  msgType : ServiceTag
  errorChecked : type = .msg .error → msgType.isError = true := by decide
  warningChecked : type = .msg .warning → msgType.isWarning = true := by decide
deriving DecidableEq, Repr

structure PCAPServiceResponse where
  success : Bool := false
  valid : Bool := false
  name : String
  errors : List ServiceMsg := []
  warnings : List ServiceMsg := []
deriving DecidableEq, Repr

namespace PCAPServiceResponse

/-- `v.errors.append(...)` -/
def fail (v : PCAPServiceResponse) (msg : ServiceMsg) : PCAPServiceResponse :=
  { v with errors := v.errors ++ [msg] }

/-- `v.warnings.append(...)` -/
def warn (v : PCAPServiceResponse) (msg : ServiceMsg) : PCAPServiceResponse :=
  { v with warnings := v.warnings ++ [msg] }

end PCAPServiceResponse

/-! ## The repository -/

structure PcapModel where
  name : String
  size : Nat
  path : String
  sha256 : String
  firstPacketDate : String
  lastPacketDate : String
deriving DecidableEq, Repr

inductive PcapKey where
  | name | path | sha256
deriving DecidableEq, Repr

namespace PcapModel

def value (pcap : PcapModel) : PcapKey → String
  | .name => pcap.name
  | .path => pcap.path
  | .sha256 => pcap.sha256

end PcapModel

/-- `get_by_key` -/
def getByKey (pcaps : List PcapModel) (key : PcapKey) (value : String) : Option PcapModel :=
  pcaps.find? fun pcap => pcap.value key = value

/-- The collection, with its unique indexes. -/
structure PcapRepo where
  pcaps : List PcapModel
  unique : ∀ key, (pcaps.map fun pcap => pcap.value key).Nodup

theorem getByKey_eq_none_iff {pcaps : List PcapModel} {key : PcapKey} {value : String} :
    getByKey pcaps key value = none ↔ value ∉ pcaps.map fun pcap => pcap.value key := by
  rw [getByKey, List.find?_eq_none]
  simp

namespace PcapRepo

/-- `add`, none for a `DuplicateKeyError`. -/
def add (repo : PcapRepo) (model : PcapModel) : Option PcapRepo :=
  if h : getByKey repo.pcaps .name model.name = none ∧ getByKey repo.pcaps .path model.path = none ∧
      getByKey repo.pcaps .sha256 model.sha256 = none then
    some
      { pcaps := repo.pcaps ++ [model]
        unique := by
          intro key
          have hnew : getByKey repo.pcaps key (model.value key) = none := by
            cases key with
            | name => exact h.1
            | path => exact h.2.1
            | sha256 => exact h.2.2
          rw [List.map_append, List.nodup_append]
          refine ⟨repo.unique key, List.nodup_singleton _, ?_⟩
          intro value hvalue value' hvalue' heq
          rw [heq, List.mem_singleton.mp hvalue'] at hvalue
          exact getByKey_eq_none_iff.mp hnew hvalue }
  else none

end PcapRepo

/-! ## The directory -/

inductive DirEntry where
  | directory
  | file (content : Bytes)
deriving DecidableEq, Repr

/-- The entries in the order in which the file system lists them. -/
abbrev Directory := Table String DirEntry

/-- `os.path.join(pcap_dir, name)` -/
def pathOf (name : String) : String := pcapUploadDir ++ "/" ++ name

/-- The pattern `*.pcap*` -/
def isListed (name : String) : Bool := hasSubstring name ".pcap" && name.toList.head? ≠ some '.'

/-- `glob.glob(f"{pcap_dir}/*.pcap*")` -/
def listed (dir : Directory) : List (String × DirEntry) := dir.rows.filter fun row => isListed row.1

/-- `open(path, "wb")` and the data written, none for an `OSError`; the file system lists the
    new file at a place of its own. -/
def writeNew (dir : Directory) (place : Nat) (name : String) (data : Bytes) : Option Directory :=
  if h : name ∈ dir.rows.map Prod.fst then none
  else if FileTree.nameMax < name.utf8ByteSize then none
  else
    some
      { rows := dir.rows.take place ++ (name, .file data) :: dir.rows.drop place
        nodup := by
          have hperm : ((dir.rows.take place ++
              (name, DirEntry.file data) :: dir.rows.drop place).map
              Prod.fst).Perm (((name, DirEntry.file data) :: dir.rows).map Prod.fst) := by
            refine List.Perm.map _ ?_
            refine List.perm_middle.trans (List.Perm.cons _ ?_)
            rw [List.take_append_drop]
          rw [hperm.nodup_iff]
          exact List.nodup_cons.mpr ⟨h, dir.nodup⟩ }

/-! ## Names -/

/-- `str.isspace`, for a character in ASCII -/
def isAsciiSpace (c : Char) : Bool :=
  c ∈ [' ', '\t', '\n', '\x0b', '\x0c', '\r', '\x1c', '\x1d', '\x1e', '\x1f']

/-- `[A-Za-z0-9_.-]` -/
def isFilenameChar (c : Char) : Bool := c.isAlphanum || c = '_' || c = '.' || c = '-'

def isDotOrUnderscore (c : Char) : Bool := c = '.' || c = '_'

/-- `secure_filename` -/
def secureFilename (captures : Captures) (filename : String) : String :=
  let ascii := (captures.nfkd filename).toList.filter fun c => c.toNat < 128
  let spaced := ascii.map fun c => if c = '/' then ' ' else c
  let words := (spaced.splitOnP isAsciiSpace).filter (· ≠ [])
  let kept := (['_'].intercalate words).filter isFilenameChar
  String.ofList ((kept.dropWhile isDotOrUnderscore).rdropWhile isDotOrUnderscore)

/-- `os.path.splitext`, of a name without a slash -/
def splitext (name : String) : String × String :=
  let ext := name.toList.rtakeWhile (· ≠ '.')
  let base := name.toList.take (name.toList.length - ext.length - 1)
  if '.' ∉ name.toList ∨ base.all (· = '.') then (name, "")
  else (String.ofList base, "." ++ String.ofList ext)

/-! ## Validation -/

section Validation

variable (captures : Captures)

/-- `_repo_has` -/
def repoHas (pcaps : List PcapModel) (key : PcapKey) (value : String) : Bool :=
  (getByKey pcaps key value).isSome

/-- `_validate_filename`.  `ServiceErrorType` has no `INVALID_FILENAME`. -/
def validateFilename (pcaps : List PcapModel) (name : String) (v : PCAPServiceResponse) :
    Except PyError PCAPServiceResponse :=
  if name = "" then .error (.attributeError "INVALID_FILENAME")
  else
    let v :=
      if ".pcap".toList.isSuffixOf name.toList then v
      else v.warn
        { type := .msg .warning
          msg := "The file does not have a .pcap extension."
          msgType := .warning .invalidFileExtension }
    let secureName := secureFilename captures name
    let v :=
      if secureName = name then v
      else v.warn
        { type := .msg .warning
          msg := "The filename " ++ name ++ " is not secure. It will be changed upon upload."
          msgType := .warning .insecureFileName }
    .ok
      (if repoHas pcaps .name name || repoHas pcaps .name secureName then
        v.fail
          { type := .msg .error
            msg := "A file with the same name already exists in the repo."
            msgType := .error .pcapExistsInRepo }
      else v)

/-- `_validate_file_type` -/
def validateFileType (content : Bytes) (v : PCAPServiceResponse) : PCAPServiceResponse :=
  match captures.firstRead content with
  | .packet => v
  | .noPacket => v
  | .endOfFile =>
      v.fail
        { type := .msg .error
          msg := "The file does not have any packets."
          msgType := .error .eofError }
  | .unsupported =>
      v.fail
        { type := .msg .error
          msg := "The file is not a supported capture file."
          msgType := .error .invalidPcapFile }

/-- `_validate_pcap_file` -/
def validatePcapFile (pcaps : List PcapModel) (name : String) (content : Bytes)
    (v : PCAPServiceResponse) : Except PyError PCAPServiceResponse := do
  let v ← validateFilename captures pcaps name v
  let v := validateFileType captures content v
  pure { v with valid := v.errors.isEmpty }

end Validation

/-! ## Synchronisation -/

section Sync

variable (captures : Captures)

/-- The document of a file. -/
def pcapModel (name : String) (content : Bytes) (dates : String × String) : PcapModel where
  name := name
  size := content.length
  path := pathOf name
  sha256 := captures.sha256 content
  firstPacketDate := dates.1
  lastPacketDate := dates.2

/-- `_get_pcap_file_time_range`, none if there are no packets or a time is zero.  A capture that
    breaks off after its first packet raises, and so does a time that is no date. -/
def getPcapFileTimeRange (content : Bytes) : Except PyError (Option (String × String)) := do
  let packets ← captures.rdpcap content
  match packets.head?, packets.getLast? with
  | some first, some last =>
      if first = 0 ∨ last = 0 then pure none
      else pure (some (← captures.dateOf first, ← captures.dateOf last))
  | _, _ => pure none

/-- `_get_pcap_model`; the errors it notes are not read. -/
def getPcapModel (pcaps : List PcapModel) (name : String) : DirEntry →
    Except PyError (Option PcapModel)
  | .directory => .error (.other "IsADirectoryError")
  | .file content => do
      let psr ← validatePcapFile captures pcaps (pathOf name) content { name := "_get_pcap_model" }
      if psr.valid then
        match getByKey pcaps .sha256 (captures.sha256 content) with
        -- the text of the error asks for the name of a document that is a dictionary
        | some _ => .error (.attributeError "'dict' object has no attribute 'name'")
        | none => do
            let dates ← getPcapFileTimeRange captures content
            pure (dates.map (pcapModel captures name content))
      else pure none

/-- The loop of `_sync_directory` -/
def syncEach : List (String × DirEntry) → PcapRepo → Nat → Except PyError Nat × PcapRepo
  | [], repo, added => (.ok added, repo)
  | (name, entry) :: globs, repo, added =>
      match getByKey repo.pcaps .path (pathOf name) with
      | some _ => syncEach globs repo added
      | none =>
          match getPcapModel captures repo.pcaps name entry with
          | .error e => (.error e, repo)
          | .ok none => syncEach globs repo added
          | .ok (some model) =>
              match repo.add model with
              | some repo => syncEach globs repo (added + 1)
              | none => syncEach globs repo added

/-- `_sync_directory` -/
def syncDirectory (dir : Directory) (repo : PcapRepo) : Except PyError Nat × PcapRepo :=
  syncEach captures (listed dir) repo 0

end Sync

/-! ## Uploads -/

structure PcapState where
  repo : PcapRepo
  dir : Directory

structure UploadFile where
  name : String
  filePath : String
deriving DecidableEq, Repr

/-- What `_validate_upload` returns: the response alone, which its caller cannot unpack, the
    response and `None`, or the response and the file. -/
inductive UploadCheck where
  | bare (v : PCAPServiceResponse)
  | rejected (v : PCAPServiceResponse)
  | accepted (v : PCAPServiceResponse) (file : UploadFile)
deriving DecidableEq, Repr

section Upload

variable (captures : Captures)

/-- `str(uuid4())[:6]` is the environment's. -/
def renamed (uuid : String) (baseName extension : String) : String :=
  if extension ≠ ".pcap" ∧ extension ≠ ".pcapng" then baseName ++ "_" ++ uuid ++ ".pcap"
  else baseName ++ "_" ++ uuid ++ extension

/-- `_validate_upload` -/
def validateUpload (s : PcapState) (uuid name : String) (data : Bytes) : UploadCheck :=
  let v : PCAPServiceResponse := { name := "upload_pcap" }
  if data = [] then
    .bare (v.fail
      { type := .error .noFileProvided
        msg := "No file was provided."
        msgType := .msg .error })
  else
    let fname := secureFilename captures name
    let (baseName, extension) := splitext fname
    let filename :=
      if extension = ".pcap" ∨ extension = ".pcapng" then fname else baseName ++ ".pcap"
    let taken := (getByKey s.repo.pcaps .name filename).isSome
    let oldFileName := filename
    let filename := if taken then renamed uuid baseName extension else filename
    let v :=
      if taken then
        v.warn
          { type := .warning .pcapNameExistsInRepo
            msg := "The filename " ++ oldFileName ++ " is already taken. Renaming to " ++
              filename ++ " pending validation."
            msgType := .msg .warning }
      else v
    let v :=
      match getByKey s.repo.pcaps .sha256 (captures.sha256 data) with
      | some existing =>
          v.fail
            { type := .error .pcapAlreadyExists
              msg := "The uploaded file is identical to `" ++ existing.name ++ "`."
              msgType := .msg .error }
      | none => v
    let v : PCAPServiceResponse :=
      if (s.dir.get? filename).isSome then
        v.fail
          { type := .error .pcapAlreadyExists
            msg := "A file with the same path already exists."
            msgType := .msg .error }
      else v
    if v.errors ≠ [] then .rejected v else .accepted v ⟨filename, pathOf filename⟩

/-- `upload_pcap`, and what it leaves. -/
def uploadPcap (s : PcapState) (uuid : String) (place : Nat) (name : String) (data : Bytes) :
    Except PyError PCAPServiceResponse × PcapState :=
  match validateUpload captures s uuid name data with
  | .bare _ => (.error (.typeError "cannot unpack non-iterable PCAPServiceResponse object"), s)
  | .rejected v => (.ok v, s)
  | .accepted v file =>
      match validatePcapFile captures s.repo.pcaps file.name data v with
      | .error e => (.error e, s)
      | .ok v =>
          let v := { v with success := false }
          if v.valid then
            match writeNew s.dir place file.name data with
            | none => (.error (.other "OSError"), s)
            | some dir =>
                match syncDirectory captures dir s.repo with
                | (.error e, repo) => (.error e, ⟨repo, dir⟩)
                | (.ok added, repo) =>
                    if 0 < added then (.ok { v with success := true }, ⟨repo, dir⟩)
                    else
                      (.ok (v.fail
                        { type := .error .pcapRepoError
                          msg := "Failed to save the file to the directory."
                          msgType := .msg .error }), ⟨repo, dir⟩)
          else (.ok v, s)

end Upload

/-- `_get_pcap_from_repo` -/
def getPcapFromRepo (pcaps : List PcapModel) (name : String) (v : PCAPServiceResponse) :
    PCAPServiceResponse × Option PcapModel :=
  match getByKey pcaps .name name with
  | none =>
      (v.fail
        { type := .error .pcapRepoError
          msg := "There is no pcap named " ++ name ++
            " in the repository. Check the name and the PCAP Directory and try again."
          msgType := .msg .error }, none)
  | some pcap => ({ v with success := true }, some pcap)

end Tfplenum
