/-
  Tfplenum.Service.PcapSync

  What a synchronisation does to the repository.  An entry goes wrong when its turn
  comes with its content stored already, or with dates that raise; as long as none
  does, the pass stores the captures that are new, in order, and `docsAfter` is what is
  stored then.

  Where nothing goes wrong these are the files that the listing takes in (`TakesIn`):
  each for which the repository has room, unless the name of one before it is its path
  or its secured path.  Whether the synchronisation is right depends on these files,
  which the directory and the repository decide between them before it starts.
-/

import Tfplenum.Service.PcapService

namespace Tfplenum

open Lib

section Pass

variable (captures : Captures)

/-- The file passes validation. -/
def passes (pcaps : List PcapModel) (name : String) (content : Bytes) : Bool :=
  match validatePcapFile captures pcaps (pathOf name) content { name := "_get_pcap_model" } with
  | .ok psr => psr.valid
  | .error _ => false

/-- The dates of a capture, where they can be determined. -/
def packetDates (content : Bytes) : Option (String × String) :=
  match getPcapFileTimeRange captures content with
  | .ok dates => dates
  | .error _ => none

/-- The capture that is stored for an entry: that of a file the repository does not know by
    its path, nor by its hash, nor by its name. -/
def storedFor (pcaps : List PcapModel) : String × DirEntry → Option PcapModel
  | (_, .directory) => none
  | (name, .file content) =>
      if getByKey pcaps .path (pathOf name) = none ∧ passes captures pcaps name content = true ∧
          getByKey pcaps .sha256 (captures.sha256 content) = none ∧
            getByKey pcaps .name name = none then
        (packetDates captures content).map (pcapModel captures name content)
      else none

/-- What is stored after entries that do not go wrong. -/
def docsAfter (pcaps : List PcapModel) (globs : List (String × DirEntry)) : List PcapModel :=
  globs.foldl (fun pcaps glob => pcaps ++ (storedFor captures pcaps glob).toList) pcaps

/-- An entry that is not known by its path and is a directory, or passes validation with a
    content that is stored or whose dates raise. -/
def GoesWrong (pcaps : List PcapModel) (glob : String × DirEntry) : Prop :=
  getByKey pcaps .path (pathOf glob.1) = none ∧
    (glob.2 = .directory ∨ ∃ content, glob.2 = .file content ∧
      passes captures pcaps glob.1 content = true ∧
        ((getByKey pcaps .sha256 (captures.sha256 content)).isSome ∨
          ∃ e, getPcapFileTimeRange captures content = .error e))

/-- No entry goes wrong when its turn comes. -/
def NoneGoesWrong (pcaps : List PcapModel) (globs : List (String × DirEntry)) : Prop :=
  ∀ before glob after, globs = before ++ glob :: after →
    ¬ GoesWrong captures (docsAfter captures pcaps before) glob

/-! ## Validation -/

theorem pathOf_ne_empty (name : String) : pathOf name ≠ "" := by
  rw [pathOf, String.append_assoc]
  simp [pcapUploadDir]

/-- Two names have two paths. -/
theorem pathOf_injective : Function.Injective pathOf := by
  intro name name' h
  have hlists := congrArg String.toList h
  rw [pathOf, pathOf, String.toList_append, String.toList_append, String.toList_append] at hlists
  exact String.toList_inj.mp (List.append_cancel_left hlists)

/-- The names that are in the repository make the only error of a name. -/
theorem exists_validateFilename (pcaps : List PcapModel) {name : String} (v : PCAPServiceResponse)
    (hname : name ≠ "") :
    ∃ v', validateFilename captures pcaps name v = .ok v' ∧
      (v'.errors = [] ↔ v.errors = [] ∧ getByKey pcaps .name name = none ∧
        getByKey pcaps .name (secureFilename captures name) = none) := by
  rw [validateFilename, if_neg hname]
  refine ⟨_, rfl, ?_⟩
  rw [← Option.not_isSome_iff_eq_none, ← Option.not_isSome_iff_eq_none]
  split
  · rename_i hhas
    refine iff_of_false (List.append_ne_nil_of_right_ne_nil _ (List.cons_ne_nil _ _)) ?_
    rintro ⟨-, hname, hsecure⟩
    rcases Bool.or_eq_true_iff.mp hhas with hhas | hhas
    · exact hname hhas
    · exact hsecure hhas
  · rename_i hhas
    have herrors : ∀ (c d : Prop) [Decidable c] [Decidable d] (m m' : ServiceMsg),
        (if d then (if c then v else v.warn m) else (if c then v else v.warn m).warn m').errors =
          v.errors := by
      intro c d _ _ m m'
      split <;> split <;> rfl
    rw [herrors, iff_self_and]
    exact fun _ => ⟨fun hname => hhas (Bool.or_eq_true_iff.mpr (.inl hname)),
      fun hsecure => hhas (Bool.or_eq_true_iff.mpr (.inr hsecure))⟩

theorem errors_validateFileType (content : Bytes) (v : PCAPServiceResponse) :
    (validateFileType captures content v).errors = [] ↔
      v.errors = [] ∧
        (captures.firstRead content = .packet ∨ captures.firstRead content = .noPacket) := by
  unfold validateFileType
  cases captures.firstRead content <;> simp [PCAPServiceResponse.fail]

/-- The file that is validated is valid if it can be read and neither its name nor its secured
    name is that of a capture that is stored. -/
theorem exists_validatePcapFile_valid (pcaps : List PcapModel) {name : String} (content : Bytes)
    (v : PCAPServiceResponse) (hname : name ≠ "") :
    ∃ v', validatePcapFile captures pcaps name content v = .ok v' ∧
      (v'.valid = true ↔ v.errors = [] ∧
        (captures.firstRead content = .packet ∨ captures.firstRead content = .noPacket) ∧
          getByKey pcaps .name name = none ∧
            getByKey pcaps .name (secureFilename captures name) = none) := by
  obtain ⟨v', hv', herrors⟩ := exists_validateFilename captures pcaps v hname
  rw [validatePcapFile, hv']
  refine ⟨_, rfl, ?_⟩
  rw [List.isEmpty_iff, errors_validateFileType, herrors, and_assoc, and_comm (b := _ ∨ _)]

/-- A file passes if it can be read and neither its path nor its secured path is the name of a
    capture that is stored. -/
theorem passes_iff (pcaps : List PcapModel) (name : String) (content : Bytes) :
    passes captures pcaps name content = true ↔
      (captures.firstRead content = .packet ∨ captures.firstRead content = .noPacket) ∧
        getByKey pcaps .name (pathOf name) = none ∧
          getByKey pcaps .name (secureFilename captures (pathOf name)) = none := by
  obtain ⟨v, hv, hvalid⟩ := exists_validatePcapFile_valid captures pcaps content
    { name := "_get_pcap_model" } (pathOf_ne_empty name)
  rw [passes, hv, hvalid]
  simp

/-! ## One turn -/

theorem getPcapModel_file (pcaps : List PcapModel) (name : String) (content : Bytes) :
    getPcapModel captures pcaps name (.file content) =
      if passes captures pcaps name content then
        match getByKey pcaps .sha256 (captures.sha256 content) with
        | some _ => .error (.attributeError "'dict' object has no attribute 'name'")
        | none => (getPcapFileTimeRange captures content).map
            (Option.map (pcapModel captures name content))
      else .ok none := by
  obtain ⟨v, hv, -⟩ := exists_validatePcapFile_valid captures pcaps content
    { name := "_get_pcap_model" } (pathOf_ne_empty name)
  rw [getPcapModel, passes, hv]
  rfl

theorem storedFor_of_known {pcaps : List PcapModel} {glob : String × DirEntry}
    (hpath : getByKey pcaps .path (pathOf glob.1) ≠ none) :
      storedFor captures pcaps glob = none := by
  rcases glob with ⟨name, _ | content⟩
  · rfl
  · exact if_neg fun h => hpath h.1

/-- A repository takes the capture that is stored for an entry. -/
theorem exists_add {repo : PcapRepo} {name : String} {content : Bytes} {model : PcapModel}
    (hstored : storedFor captures repo.pcaps (name, .file content) = some model) :
    ∃ repo', repo.add model = some repo' ∧ repo'.pcaps = repo.pcaps ++ [model] := by
  rw [storedFor] at hstored
  split at hstored
  · rename_i hnew
    obtain ⟨dates, -, rfl⟩ := Option.map_eq_some_iff.mp hstored
    obtain ⟨hpath, -, hsha, hname⟩ := hnew
    exact ⟨_, dif_pos ⟨hname, hpath, hsha⟩, rfl⟩
  · cases hstored

/-- A file that does not go wrong is stored if it has dates, and is taken if its name is free. -/
theorem syncEach_cons_of_new {repo : PcapRepo} {name : String} {content : Bytes}
    {dates : Option (String × String)}
    (hpath : getByKey repo.pcaps .path (pathOf name) = none)
    (hpasses : passes captures repo.pcaps name content = true)
    (hsha : getByKey repo.pcaps .sha256 (captures.sha256 content) = none)
    (hrange : getPcapFileTimeRange captures content = .ok dates)
    (globs : List (String × DirEntry)) (added : Nat) :
    ∃ repo', repo'.pcaps =
        repo.pcaps ++ (storedFor captures repo.pcaps (name, .file content)).toList ∧
      syncEach captures ((name, .file content) :: globs) repo added =
        syncEach captures globs repo'
          (added + (storedFor captures repo.pcaps (name, .file content)).toList.length) := by
  have hdates : packetDates captures content = dates := by rw [packetDates, hrange]
  have hmodel : getPcapModel captures repo.pcaps name (.file content) =
      .ok (dates.map (pcapModel captures name content)) := by
    rw [getPcapModel_file, if_pos hpasses, hsha, hrange]
    rfl
  rw [syncEach, hpath, hmodel]
  cases dates with
  | none =>
      have hnone : storedFor captures repo.pcaps (name, .file content) = none := by
        rw [storedFor, hdates, Option.map_none, ite_self]
      rw [hnone]
      exact ⟨repo, (List.append_nil _).symm, rfl⟩
  | some dates =>
      rw [Option.map_some]
      dsimp only
      by_cases hname : getByKey repo.pcaps .name name = none
      · have hstored : storedFor captures repo.pcaps (name, .file content) =
            some (pcapModel captures name content dates) := by
          rw [storedFor, if_pos ⟨hpath, hpasses, hsha, hname⟩, hdates, Option.map_some]
        obtain ⟨repo', hadd, hpcaps⟩ := exists_add captures hstored
        rw [hadd, hstored]
        exact ⟨repo', hpcaps, rfl⟩
      · have hnone : storedFor captures repo.pcaps (name, .file content) = none :=
          if_neg fun h => hname h.2.2.2
        have hadd : repo.add (pcapModel captures name content dates) = none :=
          dif_neg fun h => hname h.1
        rw [hadd, hnone]
        exact ⟨repo, (List.append_nil _).symm, rfl⟩

/-- A file that goes wrong raises. -/
theorem exists_getPcapModel_error {pcaps : List PcapModel} {name : String} {content : Bytes}
    (hpasses : passes captures pcaps name content = true)
    (hwrong : (getByKey pcaps .sha256 (captures.sha256 content)).isSome ∨
      ∃ e, getPcapFileTimeRange captures content = .error e) :
    ∃ e, getPcapModel captures pcaps name (.file content) = .error e := by
  rw [getPcapModel_file, if_pos hpasses]
  cases hsha : getByKey pcaps .sha256 (captures.sha256 content) with
  | some stored => exact ⟨_, rfl⟩
  | none =>
      rw [hsha] at hwrong
      obtain ⟨e, he⟩ := hwrong.resolve_left (by simp)
      exact ⟨e, by rw [he]; rfl⟩

/-- One turn of the loop: it raises at an entry that goes wrong, and otherwise goes on with
    what it has to store. -/
theorem syncEach_cons (glob : String × DirEntry) (globs : List (String × DirEntry))
    (repo : PcapRepo) (added : Nat) :
    (GoesWrong captures repo.pcaps glob ∧
        ∃ e, syncEach captures (glob :: globs) repo added = (.error e, repo)) ∨
      ¬ GoesWrong captures repo.pcaps glob ∧
        ∃ repo', repo'.pcaps = repo.pcaps ++ (storedFor captures repo.pcaps glob).toList ∧
          syncEach captures (glob :: globs) repo added =
            syncEach captures globs repo'
              (added + (storedFor captures repo.pcaps glob).toList.length) := by
  rcases glob with ⟨name, entry⟩
  cases hpath : getByKey repo.pcaps .path (pathOf name) with
  | some known =>
      rw [syncEach, hpath]
      refine .inr ⟨fun hwrong => ?_, repo, ?_⟩
      · rw [hwrong.1] at hpath
        cases hpath
      · rw [storedFor_of_known captures (by simp [hpath])]
        exact ⟨(List.append_nil _).symm, rfl⟩
  | none =>
      cases entry with
      | directory =>
          rw [syncEach, hpath]
          exact .inl ⟨⟨hpath, .inl rfl⟩, _, rfl⟩
      | file content =>
          by_cases hpasses : passes captures repo.pcaps name content = true
          · by_cases hwrong : (getByKey repo.pcaps .sha256 (captures.sha256 content)).isSome ∨
                ∃ e, getPcapFileTimeRange captures content = .error e
            · obtain ⟨e, hmodel⟩ := exists_getPcapModel_error captures hpasses hwrong
              rw [syncEach, hpath, hmodel]
              exact .inl ⟨⟨hpath, .inr ⟨content, rfl, hpasses, hwrong⟩⟩, e, rfl⟩
            · have hright : ¬ GoesWrong captures repo.pcaps (name, .file content) := by
                rintro ⟨-, hdir | ⟨content', hfile, -, hwrong'⟩⟩
                · cases hdir
                · cases hfile
                  exact hwrong hwrong'
              obtain ⟨hsha, hrange⟩ := not_or.mp hwrong
              rw [Option.not_isSome_iff_eq_none] at hsha
              rcases hdates : getPcapFileTimeRange captures content with e | dates
              · exact absurd ⟨e, hdates⟩ hrange
              · exact .inr ⟨hright,
                  syncEach_cons_of_new captures hpath hpasses hsha hdates globs added⟩
          · have hright : ¬ GoesWrong captures repo.pcaps (name, .file content) := by
              rintro ⟨-, hdir | ⟨content', hfile, hpasses', -⟩⟩
              · cases hdir
              · cases hfile
                exact hpasses hpasses'
            have hnone : storedFor captures repo.pcaps (name, .file content) = none :=
              if_neg fun h => hpasses h.2.1
            rw [syncEach, hpath]
            dsimp only
            rw [getPcapModel_file, if_neg hpasses, hnone]
            exact .inr ⟨hright, repo, (List.append_nil _).symm, rfl⟩

/-! ## The pass -/

/-- What holds at every turn of a listing holds at the first one and at those after it. -/
theorem forall_turns_cons {P : List (String × DirEntry) → String × DirEntry → Prop}
    {glob : String × DirEntry} {globs : List (String × DirEntry)} :
    (∀ before glob' after, glob :: globs = before ++ glob' :: after → P before glob') ↔
      P [] glob ∧ ∀ before glob' after, globs = before ++ glob' :: after →
        P (glob :: before) glob' := by
  constructor
  · intro h
    refine ⟨h [] glob globs rfl, fun before glob' after heq => ?_⟩
    exact h (glob :: before) glob' after (by rw [heq, List.cons_append])
  · rintro ⟨hhead, htail⟩ before glob' after heq
    cases before with
    | nil =>
        cases heq
        exact hhead
    | cons first before =>
        cases heq
        exact htail before glob' after rfl

theorem noneGoesWrong_cons (pcaps : List PcapModel) (glob : String × DirEntry)
    (globs : List (String × DirEntry)) :
    NoneGoesWrong captures pcaps (glob :: globs) ↔
      ¬ GoesWrong captures pcaps glob ∧
        NoneGoesWrong captures (pcaps ++ (storedFor captures pcaps glob).toList) globs :=
  forall_turns_cons

/-- The loop returns just if no entry goes wrong, with what is new stored. -/
theorem syncEach_spec (globs : List (String × DirEntry)) (repo : PcapRepo) (added : Nat) :
    (¬ NoneGoesWrong captures repo.pcaps globs ∧
        ∃ e repo', syncEach captures globs repo added = (.error e, repo')) ∨
      NoneGoesWrong captures repo.pcaps globs ∧
        ∃ repo' n, repo'.pcaps = docsAfter captures repo.pcaps globs ∧
          repo'.pcaps.length = repo.pcaps.length + n ∧
            syncEach captures globs repo added = (.ok (added + n), repo') := by
  induction globs generalizing repo added with
  | nil =>
      refine .inr ⟨fun before glob after heq => ?_, repo, 0, rfl, rfl, rfl⟩
      have hlength := congrArg List.length heq
      simp at hlength
  | cons glob globs ih =>
      rw [noneGoesWrong_cons]
      rcases syncEach_cons captures glob globs repo added with
        ⟨hwrong, e, hrun⟩ | ⟨hright, repo', hpcaps, hrun⟩
      · exact .inl ⟨fun h => h.1 hwrong, e, repo, hrun⟩
      · rw [hrun]
        rcases ih repo' (added + (storedFor captures repo.pcaps glob).toList.length) with
          ⟨hwrong, e, repo'', hrest⟩ | ⟨hright', repo'', n, hdocs, hlength, hrest⟩
        · rw [hpcaps] at hwrong
          exact .inl ⟨fun h => hwrong h.2, e, repo'', hrest⟩
        · rw [hpcaps] at hright' hdocs hlength
          refine .inr ⟨⟨hright, hright'⟩, repo'',
            (storedFor captures repo.pcaps glob).toList.length + n, hdocs, ?_, ?_⟩
          · rw [hlength, List.length_append, Nat.add_assoc]
          · rw [hrest, Nat.add_assoc]

/-! ## What is stored -/

theorem getByKey_eq_none_of_subset {pcaps pcaps' : List PcapModel} (h : pcaps ⊆ pcaps')
    {key : PcapKey} {value : String} (hnone : getByKey pcaps' key value = none) :
    getByKey pcaps key value = none := by
  rw [getByKey_eq_none_iff] at hnone ⊢
  exact fun hmem => hnone (List.map_subset _ h hmem)

theorem passes_of_subset {pcaps pcaps' : List PcapModel} (h : pcaps ⊆ pcaps') {name : String}
    {content : Bytes} (hpasses : passes captures pcaps' name content = true) :
    passes captures pcaps name content = true := by
  rw [passes_iff] at hpasses ⊢
  exact ⟨hpasses.1, getByKey_eq_none_of_subset h hpasses.2.1,
    getByKey_eq_none_of_subset h hpasses.2.2⟩

theorem prefix_docsAfter (pcaps : List PcapModel) (globs : List (String × DirEntry)) :
    pcaps <+: docsAfter captures pcaps globs := by
  induction globs generalizing pcaps with
  | nil => exact List.prefix_rfl
  | cons glob globs ih => exact (List.prefix_append _ _).trans (ih _)

theorem subset_docsAfter (pcaps : List PcapModel) (globs : List (String × DirEntry)) :
    pcaps ⊆ docsAfter captures pcaps globs :=
  (prefix_docsAfter captures pcaps globs).subset

theorem docsAfter_append (pcaps : List PcapModel) (globs globs' : List (String × DirEntry)) :
    docsAfter captures pcaps (globs ++ globs') =
      docsAfter captures (docsAfter captures pcaps globs) globs' :=
  List.foldl_append ..

/-- What is stored for an entry when its turn comes is stored in the end. -/
theorem mem_docsAfter {pcaps : List PcapModel} {globs before after : List (String × DirEntry)}
    {glob : String × DirEntry} {model : PcapModel} (heq : globs = before ++ glob :: after)
    (hstored : storedFor captures (docsAfter captures pcaps before) glob = some model) :
    model ∈ docsAfter captures pcaps globs := by
  rw [heq, docsAfter_append]
  refine subset_docsAfter captures _ after ?_
  dsimp only
  rw [hstored]
  exact List.mem_append_right _ (List.mem_singleton_self _)

/-- The fields of the capture that is stored for an entry. -/
theorem storedFor_eq_some {pcaps : List PcapModel} {glob : String × DirEntry} {model : PcapModel}
    (hstored : storedFor captures pcaps glob = some model) :
    model.path = pathOf glob.1 ∧ ∃ content, glob.2 = .file content ∧
      model.sha256 = captures.sha256 content := by
  rcases glob with ⟨name, _ | content⟩
  · cases hstored
  · rw [storedFor] at hstored
    split at hstored
    · obtain ⟨dates, -, rfl⟩ := Option.map_eq_some_iff.mp hstored
      exact ⟨rfl, content, rfl, rfl⟩
    · cases hstored

/-- After the pass nothing is left to store. -/
theorem storedFor_docsAfter {pcaps : List PcapModel} {globs : List (String × DirEntry)}
    {glob : String × DirEntry} (hmem : glob ∈ globs) :
    storedFor captures (docsAfter captures pcaps globs) glob = none := by
  obtain ⟨before, after, heq⟩ := List.append_of_mem hmem
  have hsubset : docsAfter captures pcaps before ⊆ docsAfter captures pcaps globs := by
    rw [heq, docsAfter_append]
    exact subset_docsAfter captures _ _
  rcases hstored : storedFor captures (docsAfter captures pcaps globs) glob with _ | model
  · rfl
  rcases glob with ⟨name, _ | content⟩
  · cases hstored
  rw [storedFor] at hstored
  split at hstored
  · rename_i hnew
    obtain ⟨hpath, hpasses, hsha, hname⟩ := hnew
    -- then it would have been stored when its turn came
    have hturn : storedFor captures (docsAfter captures pcaps before) (name, .file content) =
        some model := by
      rw [storedFor, if_pos ⟨getByKey_eq_none_of_subset hsubset hpath,
        passes_of_subset captures hsubset hpasses, getByKey_eq_none_of_subset hsubset hsha,
        getByKey_eq_none_of_subset hsubset hname⟩]
      exact hstored
    have hin := mem_docsAfter captures heq hturn
    have hvalue := (storedFor_eq_some captures hturn).1
    exact absurd (hvalue ▸ List.mem_map_of_mem hin) (getByKey_eq_none_iff.mp hpath)
  · cases hstored

/-- A second pass stores nothing, and goes wrong just at an entry that does so now. -/
theorem noneGoesWrong_docsAfter (pcaps : List PcapModel) (globs : List (String × DirEntry)) :
    (NoneGoesWrong captures (docsAfter captures pcaps globs) globs ↔
        ∀ glob ∈ globs, ¬ GoesWrong captures (docsAfter captures pcaps globs) glob) ∧
      docsAfter captures (docsAfter captures pcaps globs) globs =
        docsAfter captures pcaps globs := by
  have hsame (part : List (String × DirEntry)) (hpart : part ⊆ globs) :
      docsAfter captures (docsAfter captures pcaps globs) part =
        docsAfter captures pcaps globs := by
    induction part with
    | nil => rfl
    | cons glob part ih =>
        rw [docsAfter, List.foldl_cons,
          storedFor_docsAfter captures (hpart (List.mem_cons_self ..)),
          Option.toList_none, List.append_nil]
        exact ih fun glob' hglob' => hpart (List.mem_cons_of_mem _ hglob')
  refine ⟨⟨fun h glob hmem => ?_, fun h before glob after heq => ?_⟩,
    hsame globs (List.Subset.refl _)⟩
  · obtain ⟨before, after, heq⟩ := List.append_of_mem hmem
    have hbefore : before ⊆ globs := heq ▸ List.subset_append_left _ _
    have hright := h before glob after heq
    rw [hsame before hbefore] at hright
    exact hright
  · have hbefore : before ⊆ globs := heq ▸ List.subset_append_left _ _
    rw [hsame before hbefore]
    exact h glob (heq ▸ List.mem_append_right _ (List.mem_cons_self ..))

theorem storedFor_file_eq_some_iff {pcaps : List PcapModel} {name : String} {content : Bytes}
    {model : PcapModel} : storedFor captures pcaps (name, .file content) = some model ↔
      (getByKey pcaps .path (pathOf name) = none ∧ passes captures pcaps name content = true ∧
        getByKey pcaps .sha256 (captures.sha256 content) = none ∧
          getByKey pcaps .name name = none) ∧
      (packetDates captures content).map (pcapModel captures name content) = some model := by
  rw [storedFor]
  split
  · rename_i h
    exact (and_iff_right h).symm
  · rename_i h
    exact iff_of_false (fun hnone => by cases hnone) fun hand => h hand.1

/-! ## What a listing holds -/

/-- The name is the path of the file, or its secured path. -/
def Blocks (name' name : String) : Prop :=
  name' = pathOf name ∨ name' = secureFilename captures (pathOf name)

/-- Of the entries, those that are taken in have other names than the path and the secured path
    of the file. -/
def ClearOf (taken : Set (String × DirEntry)) (others : List (String × DirEntry)) (name : String) :
    Prop :=
  ∀ other ∈ others, other ∈ taken → ¬ Blocks captures other.1 name

/-- The content is that of an entry which is taken in. -/
def HasTaken (taken : Set (String × DirEntry)) (others : List (String × DirEntry))
    (content : Bytes) : Prop :=
  ∃ other ∈ others, other ∈ taken ∧
    ∃ content', other.2 = .file content' ∧ captures.sha256 content' = captures.sha256 content

/-- The files of a listing that are taken in: the repository has room for each of them alone, and
    none before it blocks it. -/
def TakesIn (pcaps : List PcapModel) (globs : List (String × DirEntry))
    (taken : Set (String × DirEntry)) : Prop :=
  ∀ before glob after, globs = before ++ glob :: after →
    (glob ∈ taken ↔
      (storedFor captures pcaps glob).isSome ∧ ClearOf captures taken before glob.1)

/-- Beside the others the entry is at fault: a directory, or a file that is valid and clear of
    them, and whose content the repository or one of them has, or whose dates raise. -/
def AtFault (pcaps : List PcapModel) (taken : Set (String × DirEntry))
    (others : List (String × DirEntry)) (glob : String × DirEntry) : Prop :=
  getByKey pcaps .path (pathOf glob.1) = none ∧
    (glob.2 = .directory ∨ ∃ content, glob.2 = .file content ∧
      (passes captures pcaps glob.1 content = true ∧ ClearOf captures taken others glob.1) ∧
        ((getByKey pcaps .sha256 (captures.sha256 content)).isSome ∨
          HasTaken captures taken others content ∨
            ∃ e, getPcapFileTimeRange captures content = .error e))

/-- No entry is at fault beside those before it. -/
def NoneAtFault (pcaps : List PcapModel) (taken : Set (String × DirEntry))
    (globs : List (String × DirEntry)) : Prop :=
  ∀ before glob after, globs = before ++ glob :: after → ¬ AtFault captures pcaps taken before glob

/-- The documents are those of the repository, and those of the entries that are taken in. -/
def Represents (pcaps : List PcapModel) (taken : Set (String × DirEntry))
    (others : List (String × DirEntry)) (docs : List PcapModel) : Prop :=
  ∀ model, model ∈ docs ↔ model ∈ pcaps ∨
    ∃ other ∈ others, other ∈ taken ∧ storedFor captures pcaps other = some model

section Listing

variable {captures} {pcaps docs : List PcapModel} {globs others : List (String × DirEntry)}
variable {taken : Set (String × DirEntry)}

/-- An entry that is taken in has its document. -/
theorem TakesIn.exists_storedFor (htaken : TakesIn captures pcaps globs taken)
    {glob : String × DirEntry} (hglob : glob ∈ globs) (hin : glob ∈ taken) :
    ∃ model content, storedFor captures pcaps glob = some model ∧ model.name = glob.1 ∧
      model.path = pathOf glob.1 ∧ glob.2 = .file content ∧
        model.sha256 = captures.sha256 content := by
  obtain ⟨before, after, heq⟩ := List.append_of_mem hglob
  obtain ⟨model, hmodel⟩ := Option.isSome_iff_exists.mp ((htaken before glob after heq).mp hin).1
  rcases glob with ⟨name, _ | content⟩
  · cases hmodel
  refine ⟨model, content, hmodel, ?_⟩
  rw [storedFor] at hmodel
  split at hmodel
  · obtain ⟨dates, -, rfl⟩ := Option.map_eq_some_iff.mp hmodel
    exact ⟨rfl, rfl, rfl, rfl⟩
  · cases hmodel

/-- What a look-up finds is in the repository, or is that of an entry which is taken in. -/
theorem Represents.getByKey_eq_none_iff (hdocs : Represents captures pcaps taken others docs)
    {key : PcapKey} {value : String} :
    getByKey docs key value = none ↔ getByKey pcaps key value = none ∧
      ∀ other ∈ others, other ∈ taken → ∀ model, storedFor captures pcaps other = some model →
        model.value key ≠ value := by
  simp only [Tfplenum.getByKey_eq_none_iff, List.mem_map, not_exists, not_and, ne_eq]
  constructor
  · intro hnone
    refine ⟨fun model hmodel => hnone model ((hdocs model).mpr (.inl hmodel)), ?_⟩
    intro other hother hin model hmodel
    exact hnone model ((hdocs model).mpr (.inr ⟨other, hother, hin, hmodel⟩))
  · rintro ⟨hpcaps, hothers⟩ model hmodel
    rcases (hdocs model).mp hmodel with hmodel | ⟨other, hother, hin, hmodel⟩
    · exact hpcaps model hmodel
    · exact hothers other hother hin model hmodel

variable (htaken : TakesIn captures pcaps globs taken) (hothers : others ⊆ globs)
variable (hdocs : Represents captures pcaps taken others docs)
include htaken hothers hdocs

/-- A name is free if the repository does not have it and no other entry does. -/
theorem getByKey_name_eq_none_iff (name : String) :
    getByKey docs .name name = none ↔ getByKey pcaps .name name = none ∧
      ∀ other ∈ others, other ∈ taken → other.1 ≠ name := by
  rw [hdocs.getByKey_eq_none_iff]
  refine and_congr_right fun _ => forall₃_congr fun other hother hin => ?_
  obtain ⟨model, -, hmodel, hname, -⟩ := htaken.exists_storedFor (hothers hother) hin
  rw [hmodel]
  simp [PcapModel.value, hname]

/-- A path is free if the repository does not have it and no other entry has its name. -/
theorem getByKey_path_eq_none_iff (name : String) :
    getByKey docs .path (pathOf name) = none ↔ getByKey pcaps .path (pathOf name) = none ∧
      ∀ other ∈ others, other ∈ taken → other.1 ≠ name := by
  rw [hdocs.getByKey_eq_none_iff]
  refine and_congr_right fun _ => forall₃_congr fun other hother hin => ?_
  obtain ⟨model, -, hmodel, -, hpath, -⟩ := htaken.exists_storedFor (hothers hother) hin
  rw [hmodel]
  simp [PcapModel.value, hpath, pathOf_injective.eq_iff]

theorem getByKey_sha256_eq_none_iff {content : Bytes} :
    getByKey docs .sha256 (captures.sha256 content) = none ↔
      getByKey pcaps .sha256 (captures.sha256 content) = none ∧
        ¬ HasTaken captures taken others content := by
  rw [hdocs.getByKey_eq_none_iff]
  refine and_congr_right fun _ => ?_
  constructor
  · rintro hnone ⟨other, hother, hin, content', hfile, hsame⟩
    obtain ⟨model, content'', hmodel, -, -, hfile', hsha⟩ :=
      htaken.exists_storedFor (hothers hother) hin
    rw [hfile] at hfile'
    cases hfile'
    exact hnone other hother hin model hmodel (hsha.trans hsame)
  · intro hnone other hother hin model hmodel hvalue
    obtain ⟨model', content', hmodel', -, -, hfile, hsha⟩ :=
      htaken.exists_storedFor (hothers hother) hin
    rw [hmodel] at hmodel'
    cases hmodel'
    exact hnone ⟨other, hother, hin, content', hfile, hsha.symm.trans hvalue⟩

/-- A file passes beside the others if it passes alone and they do not block it. -/
theorem passes_docs_iff {name : String} {content : Bytes} :
    passes captures docs name content = true ↔
      passes captures pcaps name content = true ∧ ClearOf captures taken others name := by
  rw [passes_iff, passes_iff, getByKey_name_eq_none_iff htaken hothers hdocs,
    getByKey_name_eq_none_iff htaken hothers hdocs]
  constructor
  · rintro ⟨hread, ⟨hpath, hpath'⟩, hsecure, hsecure'⟩
    refine ⟨⟨hread, hpath, hsecure⟩, fun other hother hin hblocks => ?_⟩
    exact hblocks.elim (hpath' other hother hin) (hsecure' other hother hin)
  · rintro ⟨⟨hread, hpath, hsecure⟩, hclear⟩
    exact ⟨hread, ⟨hpath, fun other hother hin heq => hclear other hother hin (.inl heq)⟩,
      hsecure, fun other hother hin heq => hclear other hother hin (.inr heq)⟩

/-- An entry goes wrong if it is at fault and not taken in itself. -/
theorem goesWrong_docs_iff (glob : String × DirEntry) :
    GoesWrong captures docs glob ↔ AtFault captures pcaps taken others glob ∧
      ∀ other ∈ others, other ∈ taken → other.1 ≠ glob.1 := by
  have hsha (content : Bytes) : (getByKey docs .sha256 (captures.sha256 content)).isSome = true ↔
      (getByKey pcaps .sha256 (captures.sha256 content)).isSome = true ∨
        HasTaken captures taken others content := by
    rw [← Option.ne_none_iff_isSome, ne_eq, getByKey_sha256_eq_none_iff htaken hothers hdocs,
      not_and_or, not_not, ← Option.ne_none_iff_isSome]
  rw [GoesWrong, AtFault, getByKey_path_eq_none_iff htaken hothers hdocs]
  simp only [passes_docs_iff htaken hothers hdocs, hsha, or_assoc]
  exact and_right_comm

omit hothers hdocs

omit htaken in
/-- The entries before an entry have other names. -/
theorem name_ne_of_before {before after : List (String × DirEntry)} {glob other : String × DirEntry}
    (hnodup : (globs.map Prod.fst).Nodup) (heq : globs = before ++ glob :: after)
    (hother : other ∈ before) : other.1 ≠ glob.1 := by
  rw [heq, List.map_append, List.map_cons] at hnodup
  exact (List.nodup_append.mp hnodup).2.2 other.1 (List.mem_map_of_mem hother) glob.1
    (List.mem_cons_self ..)

/-- What is stored for an entry that does not go wrong when its turn comes: it is taken in. -/
theorem storedFor_docs_eq_some_iff {before after : List (String × DirEntry)}
    {glob : String × DirEntry} {model : PcapModel} (hnodup : (globs.map Prod.fst).Nodup)
    (heq : globs = before ++ glob :: after) (hdocs : Represents captures pcaps taken before docs)
    (hright : ¬ GoesWrong captures docs glob) :
    storedFor captures docs glob = some model ↔
      glob ∈ taken ∧ storedFor captures pcaps glob = some model := by
  have hbefore : before ⊆ globs := heq ▸ List.subset_append_left _ _
  have hnames : ∀ other ∈ before, other ∈ taken → other.1 ≠ glob.1 :=
    fun other hother _ => name_ne_of_before hnodup heq hother
  rw [htaken before glob after heq]
  rcases glob with ⟨name, _ | content⟩
  · exact iff_of_false (fun h => by cases h) fun h => by cases h.2
  have hpath := getByKey_path_eq_none_iff htaken hbefore hdocs name
  have hname := getByKey_name_eq_none_iff htaken hbefore hdocs name
  rw [and_iff_left hnames] at hpath hname
  rw [storedFor_file_eq_some_iff, storedFor_file_eq_some_iff, hpath, hname,
    passes_docs_iff htaken hbefore hdocs]
  constructor
  · rintro ⟨⟨hfree, ⟨hpasses, hclear⟩, hsha, hfree'⟩, hmodel⟩
    have hnew := ((getByKey_sha256_eq_none_iff htaken hbefore hdocs).mp hsha).1
    have hstored := (storedFor_file_eq_some_iff captures).mpr
      ⟨⟨hfree, hpasses, hnew, hfree'⟩, hmodel⟩
    exact ⟨⟨Option.isSome_iff_exists.mpr ⟨model, hstored⟩, hclear⟩,
      ⟨hfree, hpasses, hnew, hfree'⟩, hmodel⟩
  · rintro ⟨⟨-, hclear⟩, ⟨hfree, hpasses, -, hfree'⟩, hmodel⟩
    refine ⟨⟨hfree, ⟨hpasses, hclear⟩, ?_, hfree'⟩, hmodel⟩
    -- else the entry would have gone wrong
    by_contra hsha
    refine hright ⟨hpath.mpr hfree, .inr ⟨content, rfl, ?_, .inl ?_⟩⟩
    · exact (passes_docs_iff htaken hbefore hdocs).mpr ⟨hpasses, hclear⟩
    · exact Option.ne_none_iff_isSome.mp hsha

/-- The pass goes wrong nowhere just if no entry is at fault, and then it stores the entries that
    are taken in. -/
theorem noneGoesWrong_iff_of_represents (hnodup : (globs.map Prod.fst).Nodup)
    {before rest : List (String × DirEntry)} (heq : globs = before ++ rest)
    (hdocs : Represents captures pcaps taken before docs) :
    (NoneGoesWrong captures docs rest ↔ ∀ before' glob after, rest = before' ++ glob :: after →
        ¬ AtFault captures pcaps taken (before ++ before') glob) ∧
      (NoneGoesWrong captures docs rest →
        Represents captures pcaps taken globs (docsAfter captures docs rest)) := by
  induction rest generalizing before docs with
  | nil =>
      have hnone : ∀ before' glob after,
          ([] : List (String × DirEntry)) ≠ before' ++ glob :: after := by simp
      refine ⟨iff_of_true (fun b g a h => absurd h (hnone b g a))
        (fun b g a h => absurd h (hnone b g a)), fun _ => ?_⟩
      rw [heq, List.append_nil]
      exact hdocs
  | cons glob rest ih =>
      have hbefore : before ⊆ globs := heq ▸ List.subset_append_left _ _
      have hnames : ∀ other ∈ before, other ∈ taken → other.1 ≠ glob.1 :=
        fun other hother _ => name_ne_of_before hnodup heq hother
      have hwrong := goesWrong_docs_iff htaken hbefore hdocs glob
      rw [and_iff_left hnames] at hwrong
      rw [noneGoesWrong_cons, forall_turns_cons, List.append_nil, ← hwrong]
      by_cases hright : GoesWrong captures docs glob
      · exact ⟨iff_of_false (fun h => h.1 hright) fun h => h.1 hright,
          fun h => absurd hright h.1⟩
      have hnext : Represents captures pcaps taken (before ++ [glob])
          (docs ++ (storedFor captures docs glob).toList) := by
        intro model
        rw [List.mem_append, hdocs model, Option.mem_toList,
          storedFor_docs_eq_some_iff htaken hnodup heq hdocs hright, or_assoc]
        simp only [List.mem_append, List.mem_singleton, or_and_right, exists_or, exists_eq_left]
      obtain ⟨hiff, hafter⟩ := ih (by rw [heq, List.append_assoc]; rfl) hnext
      refine ⟨and_congr_right fun _ => ?_, fun h => hafter h.2⟩
      simpa only [List.append_assoc, List.singleton_append] using hiff

end Listing

/-- Every listing has its files that are taken in. -/
theorem exists_takesIn (pcaps : List PcapModel) {globs : List (String × DirEntry)}
    (hnodup : globs.Nodup) : ∃ taken, TakesIn captures pcaps globs taken := by
  induction globs using List.reverseRecOn with
  | nil => exact ⟨∅, fun before glob after h => by simp at h⟩
  | append_singleton globs last ih =>
      obtain ⟨hglobs, -, hlast⟩ := List.nodup_append.mp hnodup
      obtain ⟨taken, htaken⟩ := ih hglobs
      have hnew : last ∉ globs := fun hmem => hlast last hmem last (List.mem_singleton_self _) rfl
      -- the last entry is added if there is room for it
      let taken' : Set (String × DirEntry) := fun glob => glob ∈ globs ∧ glob ∈ taken ∨
        glob = last ∧ (storedFor captures pcaps last).isSome ∧ ClearOf captures taken globs last.1
      have hin : ∀ glob ∈ globs, (glob ∈ taken' ↔ glob ∈ taken) := by
        intro glob hglob
        refine ⟨?_, fun h => .inl ⟨hglob, h⟩⟩
        rintro (⟨-, h⟩ | ⟨rfl, -⟩)
        · exact h
        · exact absurd hglob hnew
      have hclear : ∀ {others} {name}, others ⊆ globs →
          (ClearOf captures taken' others name ↔ ClearOf captures taken others name) :=
        fun hothers => forall₂_congr fun other hother => by rw [hin other (hothers hother)]
      refine ⟨taken', fun before glob after heq => ?_⟩
      rcases List.eq_nil_or_concat after with rfl | ⟨after', last', rfl⟩
      · obtain ⟨rfl, hsame⟩ := List.append_inj' heq rfl
        cases hsame
        rw [hclear (List.Subset.refl _)]
        refine ⟨?_, fun h => .inr ⟨rfl, h⟩⟩
        rintro (⟨hmem, -⟩ | ⟨-, h⟩)
        · exact absurd hmem hnew
        · exact h
      · rw [List.concat_eq_append, ← List.cons_append, ← List.append_assoc] at heq
        obtain ⟨rfl, -⟩ := List.append_inj' heq rfl
        rw [hin glob (by simp), hclear (List.subset_append_left _ _)]
        exact htaken before glob after' rfl

/-! ## A directory and its repository -/

/-- The synchronisation returns, every valid capture of the directory is stored just once, and
    a second one adds nothing. -/
def SyncsDirectory (dir : Directory) (repo : PcapRepo) : Prop :=
  ∃ added repo', syncDirectory captures dir repo = (.ok added, repo') ∧
    (∀ name content, dir.get? name = some (.file content) →
      passes captures repo.pcaps name content = true → (packetDates captures content).isSome →
        (repo'.pcaps.map PcapModel.sha256).count (captures.sha256 content) = 1) ∧
      syncDirectory captures dir repo' = (.ok 0, repo')

/-- No entry is at fault, neither beside those before it nor, where it is not taken in, beside
    all, and the content of every valid capture is in the repository or is taken in. -/
structure NothingLost (dir : Directory) (repo : PcapRepo) (taken : Set (String × DirEntry)) :
    Prop where
  firstPass : NoneAtFault captures repo.pcaps taken (listed dir)
  secondPass : ∀ glob ∈ listed dir, glob ∉ taken →
    ¬ AtFault captures repo.pcaps taken (listed dir) glob
  stored : ∀ name content, dir.get? name = some (.file content) →
    passes captures repo.pcaps name content = true → (packetDates captures content).isSome →
      (getByKey repo.pcaps .sha256 (captures.sha256 content)).isSome ∨
        HasTaken captures taken (listed dir) content

/-- The hash is stored once or not at all. -/
theorem count_sha256_eq_one_iff (repo : PcapRepo) (sha256 : String) :
    (repo.pcaps.map PcapModel.sha256).count sha256 = 1 ↔
      (getByKey repo.pcaps .sha256 sha256).isSome := by
  have hnodup : (repo.pcaps.map PcapModel.sha256).Nodup := repo.unique .sha256
  rw [← Option.ne_none_iff_isSome, ne_eq, getByKey_eq_none_iff, not_not]
  constructor
  · intro hcount
    have hpos : 0 < (repo.pcaps.map PcapModel.sha256).count sha256 := by omega
    exact List.count_pos_iff.mp hpos
  · exact List.count_eq_one_of_mem hnodup

theorem PcapRepo.ext {repo repo' : PcapRepo} (h : repo.pcaps = repo'.pcaps) : repo = repo' := by
  cases repo
  cases repo'
  cases h
  rfl

theorem listed_nodup (dir : Directory) : ((listed dir).map Prod.fst).Nodup :=
  dir.nodup.sublist (List.filter_sublist.map _)

section Taken

variable {captures} {dir : Directory} {repo : PcapRepo} {taken : Set (String × DirEntry)}
variable (htaken : TakesIn captures repo.pcaps (listed dir) taken)
include htaken

/-- The synchronisation returns just if no entry is at fault beside those before it. -/
theorem noneGoesWrong_listed_iff :
    (NoneGoesWrong captures repo.pcaps (listed dir) ↔
        NoneAtFault captures repo.pcaps taken (listed dir)) ∧
      (NoneGoesWrong captures repo.pcaps (listed dir) →
        Represents captures repo.pcaps taken (listed dir)
          (docsAfter captures repo.pcaps (listed dir))) := by
  have hstart : Represents captures repo.pcaps taken [] repo.pcaps := fun model => by simp
  exact noneGoesWrong_iff_of_represents htaken (listed_nodup dir) rfl hstart

/-- The content is stored in the end if it was before, or is taken in. -/
theorem isSome_sha256_docsAfter_iff
    (hright : NoneGoesWrong captures repo.pcaps (listed dir)) (content : Bytes) :
    (getByKey (docsAfter captures repo.pcaps (listed dir)) .sha256
        (captures.sha256 content)).isSome ↔
      (getByKey repo.pcaps .sha256 (captures.sha256 content)).isSome ∨
        HasTaken captures taken (listed dir) content := by
  have hdocs := (noneGoesWrong_listed_iff htaken).2 hright
  rw [← Option.ne_none_iff_isSome, ne_eq,
    getByKey_sha256_eq_none_iff htaken (List.Subset.refl _) hdocs, not_and_or, not_not,
    ← Option.ne_none_iff_isSome]

/-- After the pass an entry goes wrong if it is at fault beside all, and is not taken in. -/
theorem goesWrong_docsAfter_iff (hright : NoneGoesWrong captures repo.pcaps (listed dir))
    {glob : String × DirEntry} (hglob : glob ∈ listed dir) :
    GoesWrong captures (docsAfter captures repo.pcaps (listed dir)) glob ↔
      glob ∉ taken ∧ AtFault captures repo.pcaps taken (listed dir) glob := by
  have hdocs := (noneGoesWrong_listed_iff htaken).2 hright
  have hother : (∀ other ∈ listed dir, other ∈ taken → other.1 ≠ glob.1) ↔ glob ∉ taken := by
    constructor
    · exact fun h hin => h glob hglob hin rfl
    · intro hnot other hother hin hname
      refine hnot ?_
      rwa [← List.inj_on_of_nodup_map (listed_nodup dir) hother hglob hname]
  rw [goesWrong_docs_iff htaken (List.Subset.refl _) hdocs, hother, and_comm]

/-- The synchronisation is right if and only if nothing is lost. -/
theorem syncsDirectory_iff_of_takesIn :
    SyncsDirectory captures dir repo ↔ NothingLost captures dir repo taken := by
  obtain ⟨hfirst, -⟩ := noneGoesWrong_listed_iff htaken
  obtain ⟨hsecond, hsame⟩ := noneGoesWrong_docsAfter captures repo.pcaps (listed dir)
  rcases syncEach_spec captures (listed dir) repo 0 with
    ⟨hwrong, e, repo', hrun⟩ | ⟨hright, repo', n, hdocs, -, hrun⟩
  · constructor
    · rintro ⟨added, repo₂, hrun', -⟩
      rw [syncDirectory, hrun] at hrun'
      cases hrun'
    · intro h
      exact absurd (hfirst.mpr h.firstPass) hwrong
  · have hagain := syncEach_spec captures (listed dir) repo' 0
    rw [hdocs, hsecond, hsame] at hagain
    constructor
    · rintro ⟨added, repo₂, hrun₁, hcount, hrun₂⟩
      rw [syncDirectory, hrun] at hrun₁
      cases hrun₁
      refine ⟨hfirst.mp hright, fun glob hglob hnot hfault => ?_,
        fun name content hget hpasses hdates => ?_⟩
      · rcases hagain with ⟨-, e, repo₃, hrun₃⟩ | ⟨hright', -⟩
        · rw [syncDirectory, hrun₃] at hrun₂
          cases hrun₂
        · exact hright' glob hglob
            ((goesWrong_docsAfter_iff htaken hright hglob).mpr ⟨hnot, hfault⟩)
      · have hone := (count_sha256_eq_one_iff repo' _).mp (hcount name content hget hpasses hdates)
        rw [hdocs] at hone
        exact (isSome_sha256_docsAfter_iff htaken hright content).mp hone
    · rintro ⟨-, hlater, hall⟩
      refine ⟨0 + n, repo', hrun, fun name content hget hpasses hdates => ?_, ?_⟩
      · rw [count_sha256_eq_one_iff, hdocs]
        exact (isSome_sha256_docsAfter_iff htaken hright content).mpr
          (hall name content hget hpasses hdates)
      · rcases hagain with ⟨hwrong, -⟩ | ⟨-, repo₂, m, hdocs₂, hlength, hrun₂⟩
        · refine absurd (fun glob hglob hgoes => ?_) hwrong
          obtain ⟨hnot, hfault⟩ := (goesWrong_docsAfter_iff htaken hright hglob).mp hgoes
          exact hlater glob hglob hnot hfault
        · have heq : repo₂ = repo' := PcapRepo.ext (hdocs₂.trans hdocs.symm)
          have hzero : m = 0 := by
            rw [hdocs₂] at hlength
            omega
          rw [syncDirectory, hrun₂, heq, hzero]

end Taken

/-- The synchronisation is right if and only if nothing is lost among the files of the listing
    that are taken in. -/
theorem syncsDirectory_iff (dir : Directory) (repo : PcapRepo) :
    SyncsDirectory captures dir repo ↔
      ∃ taken, TakesIn captures repo.pcaps (listed dir) taken ∧
        NothingLost captures dir repo taken := by
  constructor
  · intro hsyncs
    obtain ⟨taken, htaken⟩ := exists_takesIn captures repo.pcaps (listed_nodup dir).of_map
    exact ⟨taken, htaken, (syncsDirectory_iff_of_takesIn htaken).mp hsyncs⟩
  · rintro ⟨taken, htaken, hlost⟩
    exact (syncsDirectory_iff_of_takesIn htaken).mpr hlost

end Pass

/-- Every content is a capture, and its hash tells it from the others. -/
def plainCaptures : Captures where
  sha256 content := String.ofList (content.map fun byte => Char.ofNat byte.toNat)
  firstRead _ := .packet
  rdpcap _ := .ok [1, 2]
  dateOf time := .ok (if time = 1 then "2022-01-01" else "2022-01-02")
  nfkd text := text

/-- One capture under two names. -/
def copiedCapture : Directory where
  rows := [("a.pcap", .file [1, 2]), ("b.pcap", .file [1, 2])]
  nodup := by decide

def emptyPcaps : PcapRepo where
  pcaps := []
  unique _ := List.nodup_nil

/-- The second name of a capture ends the synchronisation. -/
theorem not_syncsDirectory :
    ¬ ∀ (captures : Captures) (dir : Directory) (repo : PcapRepo),
      SyncsDirectory captures dir repo := by
  intro h
  obtain ⟨added, repo', hrun, -⟩ := h plainCaptures copiedCapture emptyPcaps
  have hraises : (syncDirectory plainCaptures copiedCapture emptyPcaps).1 =
      .error (.attributeError "'dict' object has no attribute 'name'") := by decide +kernel
  rw [hrun] at hraises
  cases hraises

end Tfplenum
