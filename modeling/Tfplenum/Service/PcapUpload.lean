/-
  Tfplenum.Service.PcapUpload

  What an upload leaves.  It is turned down with nothing written, or its file is
  written and the whole directory synchronised; then other files of the directory
  have their part in what it answers.
-/

import Tfplenum.Service.PcapSync

namespace Tfplenum

open Lib

section Upload

variable (captures : Captures)

/-- The content is that of a capture in the repository. -/
def Stored (pcaps : List PcapModel) (content : Bytes) : Prop :=
  ∃ model ∈ pcaps, model.sha256 = captures.sha256 content

/-- The name under which an upload is written. -/
def uploadName (pcaps : List PcapModel) (uuid name : String) : String :=
  let fname := secureFilename captures name
  let (baseName, extension) := splitext fname
  let filename :=
    if extension = ".pcap" ∨ extension = ".pcapng" then fname else baseName ++ ".pcap"
  if (getByKey pcaps .name filename).isSome then renamed uuid baseName extension else filename

/-- The content is stored, the path exists, the content cannot be read, or the name is that of a
    capture in the repository. -/
def TurnedDown (s : PcapState) (uuid name : String) (data : Bytes) : Prop :=
  Stored captures s.repo.pcaps data ∨
    (s.dir.get? (uploadName captures s.repo.pcaps uuid name)).isSome ∨
      ¬ ((captures.firstRead data = .packet ∨ captures.firstRead data = .noPacket) ∧
        getByKey s.repo.pcaps .name (uploadName captures s.repo.pcaps uuid name) = none ∧
          getByKey s.repo.pcaps .name
            (secureFilename captures (uploadName captures s.repo.pcaps uuid name)) = none)

/-- The file can be written, no entry of the directory with it is at fault, and a file with its
    content is taken in. -/
def Arrives (s : PcapState) (uuid : String) (place : Nat) (name : String) (data : Bytes) : Prop :=
  ∃ dir, writeNew s.dir place (uploadName captures s.repo.pcaps uuid name) data = some dir ∧
    ∃ taken, TakesIn captures s.repo.pcaps (listed dir) taken ∧
      NoneAtFault captures s.repo.pcaps taken (listed dir) ∧
        HasTaken captures taken (listed dir) data

/-- The upload returns a response; the response is a success just if the content was not stored
    and is now, and without a success nothing is changed. -/
def UploadTruthful (s : PcapState) (uuid : String) (place : Nat) (name : String) (data : Bytes) :
    Prop :=
  ∃ v s', uploadPcap captures s uuid place name data = (.ok v, s') ∧
    (v.success = true ↔
      ¬ Stored captures s.repo.pcaps data ∧ Stored captures s'.repo.pcaps data) ∧
    (v.success = false → s' = s)

/-! ## The name -/

theorem append_pcap_ne_empty (text : String) : text ++ ".pcap" ≠ "" := by
  simp

theorem renamed_ne_empty (uuid baseName extension : String) :
    renamed uuid baseName extension ≠ "" := by
  rw [renamed]
  split
  · exact append_pcap_ne_empty _
  · simp

theorem uploadName_ne_empty (pcaps : List PcapModel) (uuid name : String) :
    uploadName captures pcaps uuid name ≠ "" := by
  rw [uploadName]
  dsimp only
  split
  · rename_i hextension
    split
    · exact renamed_ne_empty _ _ _
    · intro hempty
      rw [hempty] at hextension
      exact absurd hextension (by decide)
  · split
    · exact renamed_ne_empty _ _ _
    · exact append_pcap_ne_empty _

/-! ## The checks before the file is written -/

theorem stored_iff (pcaps : List PcapModel) (content : Bytes) :
    Stored captures pcaps content ↔
      (getByKey pcaps .sha256 (captures.sha256 content)).isSome = true := by
  rw [← Option.ne_none_iff_isSome, ne_eq, getByKey_eq_none_iff, not_not, List.mem_map]
  rfl

/-- The first check turns down what is stored and what has a path that exists. -/
theorem validateUpload_spec (s : PcapState) (uuid name : String) {data : Bytes}
    (hdata : data ≠ []) :
    ((Stored captures s.repo.pcaps data ∨
          (s.dir.get? (uploadName captures s.repo.pcaps uuid name)).isSome) ∧
        ∃ v, validateUpload captures s uuid name data = .rejected v ∧ v.success = false) ∨
      (¬ Stored captures s.repo.pcaps data ∧
          ¬ (s.dir.get? (uploadName captures s.repo.pcaps uuid name)).isSome) ∧
        ∃ v, validateUpload captures s uuid name data =
            .accepted v ⟨uploadName captures s.repo.pcaps uuid name,
              pathOf (uploadName captures s.repo.pcaps uuid name)⟩ ∧
          v.errors = [] ∧ v.success = false := by
  rw [stored_iff, validateUpload, if_neg hdata, uploadName]
  dsimp only
  generalize secureFilename captures name = fname
  generalize (if (splitext fname).2 = ".pcap" ∨ (splitext fname).2 = ".pcapng" then fname
    else (splitext fname).1 ++ ".pcap") = filename
  generalize (if (getByKey s.repo.pcaps .name filename).isSome = true then
    renamed uuid (splitext fname).1 (splitext fname).2 else filename) = kept
  -- a name that is taken makes a warning only
  by_cases htaken : (getByKey s.repo.pcaps .name filename).isSome = true <;>
    cases getByKey s.repo.pcaps .sha256 (captures.sha256 data) <;>
    by_cases hpath : (s.dir.get? kept).isSome = true <;>
    simp [htaken, hpath, PCAPServiceResponse.fail, PCAPServiceResponse.warn]

/-! ## The upload -/

theorem writeNew_ne {dir dir' : Directory} {place : Nat} {name : String} {data : Bytes}
    (h : writeNew dir place name data = some dir') : dir' ≠ dir := by
  rw [writeNew] at h
  split at h
  · cases h
  split at h
  · cases h
  cases h
  intro heq
  have hlength := congrArg (fun dir : Directory => dir.rows.length) heq
  simp only [List.length_append, List.length_cons, List.length_take, List.length_drop] at hlength
  omega

section Cases

variable {captures} {s : PcapState} {uuid : String} {place : Nat} {name : String} {data : Bytes}

/-- What is turned down is answered without a success, and nothing is written. -/
theorem uploadPcap_of_turnedDown (place : Nat) (hdata : data ≠ [])
    (hdown : TurnedDown captures s uuid name data) :
    ∃ v, uploadPcap captures s uuid place name data = (.ok v, s) ∧ v.success = false := by
  rcases validateUpload_spec captures s uuid name hdata with
    ⟨-, v, hcheck, hsuccess⟩ | ⟨⟨hstored, hpath⟩, v, hcheck, herrors, -⟩
  · refine ⟨v, ?_, hsuccess⟩
    rw [uploadPcap, hcheck]
  · obtain ⟨v', hv', hvalid⟩ := exists_validatePcapFile_valid captures s.repo.pcaps data v
      (uploadName_ne_empty captures s.repo.pcaps uuid name)
    rw [and_iff_right herrors] at hvalid
    have hfile : ¬ v'.valid = true := by
      rw [hvalid]
      rcases hdown with hdown | hdown | hdown
      · exact absurd hdown hstored
      · exact absurd hdown hpath
      · exact hdown
    refine ⟨{ v' with success := false }, ?_, rfl⟩
    rw [uploadPcap, hcheck]
    dsimp only
    rw [hv']
    exact if_neg hfile

/-- What is not turned down is written, and the answer is that of the synchronisation. -/
theorem uploadPcap_of_not_turnedDown (place : Nat) (hdata : data ≠ [])
    (hup : ¬ TurnedDown captures s uuid name data) :
    ∃ v v' : PCAPServiceResponse, v.success = true ∧ v'.success = false ∧
      uploadPcap captures s uuid place name data =
        match writeNew s.dir place (uploadName captures s.repo.pcaps uuid name) data with
        | none => (.error (.other "OSError"), s)
        | some dir => match syncDirectory captures dir s.repo with
            | (.error e, repo) => (.error e, ⟨repo, dir⟩)
            | (.ok added, repo) => (.ok (if 0 < added then v else v'), ⟨repo, dir⟩) := by
  rcases validateUpload_spec captures s uuid name hdata with
    ⟨hdown, -⟩ | ⟨-, v, hcheck, herrors, -⟩
  · exact absurd (hdown.imp_right .inl) hup
  obtain ⟨v', hv', hvalid⟩ := exists_validatePcapFile_valid captures s.repo.pcaps data v
    (uploadName_ne_empty captures s.repo.pcaps uuid name)
  rw [and_iff_right herrors] at hvalid
  have hfile : v'.valid = true := hvalid.mpr (by_contra fun hread => hup (.inr (.inr hread)))
  let answer := { v' with success := false }
  refine ⟨{ answer with success := true }, answer.fail
    { type := .error .pcapRepoError
      msg := "Failed to save the file to the directory."
      msgType := .msg .error }, rfl, rfl, ?_⟩
  rw [uploadPcap, hcheck]
  dsimp only
  rw [hv']
  dsimp only
  rw [if_pos hfile]
  rcases writeNew s.dir place (uploadName captures s.repo.pcaps uuid name) data with _ | dir
  · rfl
  · dsimp only
    rcases syncDirectory captures dir s.repo with ⟨e | added, repo⟩
    · rfl
    · dsimp only
      by_cases hadded : 0 < added
      · rw [if_pos hadded, if_pos hadded]
      · rw [if_neg hadded, if_neg hadded]

/-- The upload of a file that is written is truthful if and only if no entry of the directory
    with it is at fault and a file with its content is taken in. -/
theorem uploadTruthful_iff_of_written {dir : Directory} {taken : Set (String × DirEntry)}
    {v v' : PCAPServiceResponse}
    (hstored : ¬ Stored captures s.repo.pcaps data)
    (hwrite : writeNew s.dir place (uploadName captures s.repo.pcaps uuid name) data = some dir)
    (htaken : TakesIn captures s.repo.pcaps (listed dir) taken)
    (hv : v.success = true) (hv' : v'.success = false)
    (hrun : uploadPcap captures s uuid place name data =
      match syncDirectory captures dir s.repo with
      | (.error e, repo) => (.error e, ⟨repo, dir⟩)
      | (.ok added, repo) => (.ok (if 0 < added then v else v'), ⟨repo, dir⟩)) :
    UploadTruthful captures s uuid place name data ↔
      NoneAtFault captures s.repo.pcaps taken (listed dir) ∧
        HasTaken captures taken (listed dir) data := by
  rw [UploadTruthful, hrun, syncDirectory, ← (noneGoesWrong_listed_iff htaken).1]
  rcases syncEach_spec captures (listed dir) s.repo 0 with
    ⟨hwrong, e, repo, hsync⟩ | ⟨hright, repo, n, hdocs, hlength, hsync⟩
  · rw [hsync]
    refine iff_of_false ?_ fun h => hwrong h.1
    rintro ⟨response, s', heq, -⟩
    cases heq
  have hnew : Stored captures repo.pcaps data ↔ HasTaken captures taken (listed dir) data := by
    rw [stored_iff, hdocs, isSome_sha256_docsAfter_iff htaken hright, ← stored_iff]
    exact or_iff_right hstored
  rw [and_iff_right hright, ← hnew, hsync]
  dsimp only
  by_cases hadded : 0 < 0 + n
  · rw [if_pos hadded]
    constructor
    · rintro ⟨response, s', heq, hsuccess, -⟩
      cases heq
      exact (hsuccess.mp hv).2
    · intro hnow
      refine ⟨_, _, rfl, iff_of_true hv ⟨hstored, hnow⟩, fun hfalse => ?_⟩
      rw [hv] at hfalse
      cases hfalse
  · rw [if_neg hadded]
    refine iff_of_false ?_ ?_
    · -- the file stays where it was written
      rintro ⟨response, s', heq, -, hsame⟩
      cases heq
      exact writeNew_ne hwrite (congrArg PcapState.dir (hsame hv'))
    · intro hnow
      have heq : repo.pcaps = s.repo.pcaps := by
        rw [hdocs] at hlength ⊢
        refine ((prefix_docsAfter captures s.repo.pcaps (listed dir)).eq_of_length ?_).symm
        omega
      rw [heq] at hnow
      exact hstored hnow

end Cases

/-- The upload is truthful if and only if there is data, and either it is turned down or what it
    writes arrives. -/
theorem uploadTruthful_iff (s : PcapState) (uuid : String) (place : Nat) (name : String)
    (data : Bytes) :
    UploadTruthful captures s uuid place name data ↔
      data ≠ [] ∧
        (TurnedDown captures s uuid name data ∨ Arrives captures s uuid place name data) := by
  by_cases hdata : data = []
  · refine iff_of_false ?_ fun h => h.1 hdata
    rintro ⟨v, s', hrun, -⟩
    rw [uploadPcap, validateUpload, if_pos hdata] at hrun
    cases hrun
  rw [and_iff_right hdata]
  by_cases hdown : TurnedDown captures s uuid name data
  · obtain ⟨v, hrun, hsuccess⟩ := uploadPcap_of_turnedDown place hdata hdown
    refine iff_of_true ⟨v, s, hrun, ?_, fun _ => rfl⟩ (.inl hdown)
    simp [hsuccess]
  rw [or_iff_right hdown]
  obtain ⟨v, v', hv, hv', hrun⟩ := uploadPcap_of_not_turnedDown place hdata hdown
  cases hwrite : writeNew s.dir place (uploadName captures s.repo.pcaps uuid name) data with
  | none =>
      rw [hwrite] at hrun
      refine iff_of_false ?_ ?_
      · rintro ⟨response, s', heq, -⟩
        rw [hrun] at heq
        cases heq
      · rintro ⟨dir, hdir, -⟩
        rw [hwrite] at hdir
        cases hdir
  | some dir =>
      rw [hwrite] at hrun
      have hstored : ¬ Stored captures s.repo.pcaps data := fun h => hdown (.inl h)
      constructor
      · intro htruthful
        obtain ⟨taken, htaken⟩ := exists_takesIn captures s.repo.pcaps (listed_nodup dir).of_map
        exact ⟨dir, hwrite, taken, htaken,
          (uploadTruthful_iff_of_written hstored hwrite htaken hv hv' hrun).mp htruthful⟩
      · rintro ⟨dir', hdir, taken, htaken, harrives⟩
        rw [hwrite] at hdir
        cases hdir
        exact (uploadTruthful_iff_of_written hstored hwrite htaken hv hv' hrun).mpr harrives

end Upload

/-- An upload without data raises. -/
theorem not_uploadTruthful :
    ¬ ∀ (captures : Captures) (s : PcapState) (uuid : String) (place : Nat) (name : String)
      (data : Bytes), UploadTruthful captures s uuid place name data := by
  intro h
  obtain ⟨v, s', hrun, -⟩ := h plainCaptures ⟨emptyPcaps, copiedCapture⟩ "3f2a9c" 0 "new.pcap" []
  have hraises : (uploadPcap plainCaptures ⟨emptyPcaps, copiedCapture⟩ "3f2a9c" 0 "new.pcap" []).1 =
      .error (.typeError "cannot unpack non-iterable PCAPServiceResponse object") := by
    decide +kernel
  rw [hrun] at hraises
  cases hraises

end Tfplenum
