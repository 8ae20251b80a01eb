/-
  Tfplenum.PipelineImages.TableOfContents

  `changelog/toc.py` and the two commands of `changelog/commands.py` that write into an
  output directory: a changelog for each release, `UNRELEASED.md` for a branch, and
  `index.md`, which links the changelogs, the newest first.

  A release has its version from the name of a branch, by `str_to_ver`, and its changelog
  has its name from the text of the version; the table of contents has the version again
  from the name of the file.  That text is read as a version with the same text
  (`strToVer_str`), so that the link leads to the file it was made for.
-/

import Mathlib.Data.List.Lex
import Tfplenum.PipelineImages.Logg
import Tfplenum.PipelineImages.NumericVersions
import Tfplenum.Lib.Fallible
import Tfplenum.Lib.Table

namespace Tfplenum

open Lib Lib.Fallible NumericVersions

namespace TableOfContents

abbrev Text := List Char

/-! ## Versions in a list -/

/-- `packaging.version.Version`, with what a list of versions needs: their text and `<`, by
    which they are sorted -/
structure ListedVersions (u : Unicode) (V : Type) extends VersionClass u V where
  /-- `str(version)` -/
  str : V → Text
  str_eq : ∀ components v, (∀ c ∈ components, IsNumber c) → init (dotted components) = .ok v →
    str v = dotted ((release v).map (Nat.toDigits 10))
  isLess : V → V → Bool
  isLess_iff : ∀ v w, isLess v w = true ↔ lt v w
  lt_asymm : ∀ v w, lt v w → ¬lt w v
  lt_or_lt : ∀ v w x, lt v w → lt v x ∨ lt x w
  isDigit_ascii : ∀ c, c.toNat < 128 → u.isDigit c = c.isDigit

section Code

variable {u : Unicode} {V : Type} (Version : ListedVersions u V)

/-- A version that `str_to_ver` has made of a text -/
def Made (v : V) : Prop := ∃ text, strToVer u Version.init (.text text) = .ok (some v)

/-- `sorted(versions, reverse=True)`, which leaves versions in their order that are equal -/
def sortedReverse (versions : List V) : List V :=
  versions.mergeSort fun v w => !Version.isLess v w

/-! ## The output directory -/

/-- What was written into a file -/
inductive Contents where
  | changelog (document : List Block)
  | tableOfContents (links : List (Text × Text))
  | other (text : String)

inductive OutputEntry where
  | directory
  | file (contents : Contents)

abbrev OutputDir := Table Text OutputEntry

/-- `Path.iterdir`, in an order of its own -/
structure IterDir where
  iterdir : OutputDir → List (Text × OutputEntry)
  perm : ∀ dir, (iterdir dir).Perm dir.rows

/-- `Path.is_file` -/
def OutputEntry.isFile : OutputEntry → Bool
  | .directory => false
  | .file _ => true

/-- `Path.suffix` -/
def suffix (name : Text) : Text :=
  match name.reverse.span (· ≠ '.') with
  | (after, '.' :: before) => if after ≠ [] ∧ before ≠ [] then '.' :: after.reverse else []
  | _ => []

/-- `Path.stem` -/
def stem (name : Text) : Text := name.take (name.length - (suffix name).length)

/-- `write_text` -/
def writeText (dir : OutputDir) (name : Text) (contents : Contents) : Except PyError OutputDir :=
  match dir.get? name with
  | some .directory => .error (.other "IsADirectoryError")
  | _ => .ok (dir.upsert name (.file contents))

def indexName : Text := "index.md".toList
def unreleasedName : Text := "UNRELEASED.md".toList

/-- `f"{version}.md"` -/
def fileName (v : V) : Text := Version.str v ++ ".md".toList

/-! ## The table of contents -/

section Toc

variable (iter : IterDir)

/-- The version of a file of the directory -/
def versionOf (row : Text × OutputEntry) : Except PyError (Option V) :=
  if suffix row.1 = ".md".toList ∧ row.2.isFile = true then
    strToVer u Version.init (.text (stem row.1))
  else .ok none

/-- `_parse_directory_for_versions` -/
def parseDirectoryForVersions (dir : OutputDir) : Except PyError (List V) :=
  ((iter.iterdir dir).mapM (versionOf Version)).map fun found => found.filterMap id

/-- `unreleased_file_path`, its name -/
def unreleasedFile (dir : OutputDir) : Option Text :=
  match dir.get? unreleasedName with
  | some (.file _) => some unreleasedName
  | _ => none

/-- `_get_mardown_version_list`: a text and a link for each heading -/
def markdownVersionList (versions : List V) (unreleasedFile : Option Text) : List (Text × Text) :=
  let changelogList := (sortedReverse Version versions).map fun version =>
    (Version.str version, "./".toList ++ fileName Version version)
  match unreleasedFile with
  | some name => (stem name, "./".toList ++ name) :: changelogList
  | none => changelogList

/-- `TableOfContents(output_dir)` and its `save`.  The directory is read when the object is made
    and read again when it is saved, and nothing happens to it in between. -/
def save (out : Option OutputDir) : Except PyError Unit × Option OutputDir :=
  match out with
  | none => (.error (.other "No changelog directory provided."), none)
  | some dir =>
      match parseDirectoryForVersions Version iter dir with
      | .error e => (.error e, some dir)
      | .ok versions =>
          -- sorted by the property, then for the document
          let sortedVersions := sortedReverse Version (sortedReverse Version versions)
          let links := markdownVersionList Version sortedVersions (unreleasedFile dir)
          match writeText dir indexName (.tableOfContents links) with
          | .error e => (.error e, some dir)
          | .ok dir => (.ok (), some dir)

/-! ## The commands -/

/-- `Changelog.save`.  The document is written if there is one; making it may raise. -/
def saveChangelog (out : Option OutputDir) (name : Text)
    (document : Except PyError (Option (List Block))) (overwrite : Bool) :
    Except PyError Unit × Option OutputDir :=
  let dir := out.getD .empty
  if (dir.get? name).isNone ∨ overwrite = true then
    match document with
    | .error e => (.error e, some dir)
    | .ok none => (.ok (), some dir)
    | .ok (some blocks) =>
        match writeText dir name (.changelog blocks) with
        | .error e => (.error e, some dir)
        | .ok dir => (.ok (), some dir)
  else (.ok (), some dir)

/-- A release of `get_releases`, whose version was made of the name of its branch -/
structure VersionedRelease where
  release : Release
  version : V
  made : Made Version version

/-- `for changelog in changelogs: changelog.save()` -/
def saveChangelogs : List (VersionedRelease Version × Changelog) → Option OutputDir →
    Except PyError Unit × Option OutputDir
  | [], out => (.ok (), out)
  | (release, changelog) :: changelogs, out =>
      match saveChangelog out (fileName Version release.version) (.ok (changelog.document u))
          false with
      | (.ok _, out) => saveChangelogs changelogs out
      | (.error e, out) => (.error e, out)

/-- `GenerateReleaseCommand.execute`, with what `get_releases` gives -/
def generateRelease (releases : Except PyError (List (VersionedRelease Version)))
    (out : Option OutputDir) : Except PyError Unit × Option OutputDir :=
  let made := releases >>= fun releases => releases.mapM fun release =>
    (Changelog.init release.release).map fun changelog => (release, changelog)
  match made with
  | .error e => (.error e, out)
  | .ok changelogs =>
      match saveChangelogs Version changelogs out with
      | (.ok _, out) => save Version iter out
      | (.error e, out) => (.error e, out)

/-- `GenerateUnreleasedCommand.execute`: the changelog is made first, its document when it is
    saved. -/
def generateUnreleased (changelog : Except PyError (Except PyError (Option (List Block))))
    (out : Option OutputDir) : Except PyError Unit × Option OutputDir :=
  match changelog with
  | .error e => (.error e, out)
  | .ok document =>
      match saveChangelog out unreleasedName document true with
      | (.ok _, out) => save Version iter out
      | (.error e, out) => (.error e, out)

inductive Command where
  | generateRelease (releases : Except PyError (List (VersionedRelease Version)))
  | generateUnreleased (changelog : Except PyError (Except PyError (Option (List Block))))

/-- A command, whatever it ends with -/
def execute (out : Option OutputDir) : Command Version → Option OutputDir
  | .generateRelease releases => (generateRelease Version iter releases out).2
  | .generateUnreleased changelog => (generateUnreleased Version iter changelog out).2

end Toc

end Code

section Theorems

variable {u : Unicode} {V : Type} {Version : ListedVersions u V}

/-! ## The text of a version -/

/-- Nothing is put behind other numbers of components than two and three. -/
theorem fourComponents_eq_self_iff {components : List Text} :
    fourComponents components = components ↔ components.length ≠ 2 ∧ components.length ≠ 3 := by
  unfold fourComponents
  split
  case isTrue h => exact iff_of_false (by simp) fun hne => hne.1 h
  case isFalse htwo =>
    split
    case isTrue h => exact iff_of_false (by simp) fun hne => hne.2 h
    case isFalse hthree => exact iff_of_true rfl ⟨htwo, hthree⟩

theorem fourComponents_idem (components : List Text) :
    fourComponents (fourComponents components) = fourComponents components := by
  have hlength : (fourComponents components).length ≠ 2 ∧
      (fourComponents components).length ≠ 3 := by
    unfold fourComponents
    split
    case isTrue h => simp [h]
    case isFalse htwo =>
      split
      case isTrue h => simp [h]
      case isFalse hthree => exact ⟨htwo, hthree⟩
  exact fourComponents_eq_self_iff.mpr hlength

/-- A version is made of numbers, and not of two or three. -/
theorem Made.numbers {v : V} (h : Made Version v) : ∃ components : List Text,
    components ≠ [] ∧ (∀ c ∈ components, IsNumber c ∧ c.length ≤ Version.maxStrDigits) ∧
      fourComponents components = components ∧
      Version.init (dotted components) = .ok v ∧ Version.release v = components.map numberOf := by
  obtain ⟨text, htext⟩ := h
  by_cases hother : ∃ c ∈ text.splitOn '.', isdigit u c = false
  · rw [strToVer_of_other hother] at htext
    cases htext
  have hdigit : ∀ c ∈ text.splitOn '.', isdigit u c = true := by
    intro c hc
    rw [← Bool.not_eq_false]
    exact fun hfalse => hother ⟨c, hc, hfalse⟩
  have hinit := (strToVer_eq_some_iff hdigit).mp htext
  obtain ⟨zeros, hzeros, heq, hfour⟩ := fourComponents_spec (text.splitOn '.')
  have hnumeric : Numeric text := by
    -- a component that is no number stays among the four, and is refused
    by_contra hnot
    have hnot' : ∃ c ∈ text.splitOn '.', ¬IsNumber c := by
      by_contra hall
      exact hnot fun c hc => by_contra fun hc' => hall ⟨c, hc, hc'⟩
    obtain ⟨c, hc, hc'⟩ := hnot'
    obtain ⟨e, he⟩ := Version.init_invalid (fourComponents (text.splitOn '.')) (by
      rw [heq]
      intro d hd
      rcases List.mem_append.mp hd with hd | hd
      · exact hdigit d hd
      · rw [hzeros d hd]
        exact IsNumber.isdigit (by decide))
      ⟨c, by rw [heq]; exact List.mem_append_left _ hc, hc'⟩
    rw [hinit] at he
    cases he
  have hfit := length_fourComponents Version.maxStrDigits_pos (hnumeric.fit hinit)
  obtain ⟨w, hw, hrelease⟩ := hnumeric.exists_version (hnumeric.fit hinit)
  rw [hinit] at hw
  cases hw
  refine ⟨fourComponents (text.splitOn '.'), ?_, ?_, fourComponents_idem _, hinit, hrelease⟩
  · rw [heq]
    exact List.append_ne_nil_of_left_ne_nil (List.splitOn_ne_nil '.' text) _
  · exact fun c hc => ⟨hnumeric.fourComponents c hc, hfit c hc⟩

/-- The text of a version is read as a version with that text. -/
theorem strToVer_str {v : V} (h : Made Version v) : ∃ w,
    strToVer u Version.init (.text (Version.str v)) = .ok (some w) ∧
      Version.str w = Version.str v := by
  obtain ⟨components, hne, hnumbers, hfour, hinit, hrelease⟩ := h.numbers
  have hstr := Version.str_eq components v (fun c hc => (hnumbers c hc).1) hinit
  -- the numbers are written without zeros before them, and there are as many as before
  have hwritten : ∀ c ∈ (Version.release v).map (Nat.toDigits 10),
      IsNumber c ∧ c.length ≤ Version.maxStrDigits := by
    rw [hrelease, List.forall_mem_map, List.forall_mem_map]
    intro c hc
    exact ⟨isNumber_toDigits _, length_toDigits_numberOf (hnumbers c hc).1 (hnumbers c hc).2
      Version.maxStrDigits_pos⟩
  have hlength : ((Version.release v).map (Nat.toDigits 10)).length = components.length := by
    rw [List.length_map, hrelease, List.length_map]
  have hne' : (Version.release v).map (Nat.toDigits 10) ≠ [] := by
    intro hnil
    rw [hnil, List.length_nil] at hlength
    exact hne (List.length_eq_zero_iff.mp hlength.symm)
  have hfour' : fourComponents ((Version.release v).map (Nat.toDigits 10)) =
      (Version.release v).map (Nat.toDigits 10) := by
    rw [fourComponents_eq_self_iff] at hfour ⊢
    rw [hlength]
    exact hfour
  obtain ⟨w, hw, hreleaseW⟩ := Version.init_numbers _ hne' hwritten
  have hsplit := splitOn_dotted hne' fun c hc => (hwritten c hc).1.dot_notMem
  refine ⟨w, ?_, ?_⟩
  · rw [hstr, strToVer_eq_some_iff, hsplit, hfour']
    · exact hw
    · rw [hsplit]
      exact fun c hc => (hwritten c hc).1.isdigit
  · have hsame : Version.release w = Version.release v := by
      rw [hreleaseW, List.map_map]
      exact List.map_id'' numberOf_toDigits _
    rw [Version.str_eq _ w (fun c hc => (hwritten c hc).1) hw, hsame, hstr]

theorem str_ne_nil {v : V} (h : Made Version v) : Version.str v ≠ [] := by
  intro hnil
  obtain ⟨w, hw, -⟩ := strToVer_str h
  rw [hnil, strToVer_of_other ⟨[], by simp, rfl⟩] at hw
  cases hw

/-! ## Names of files -/

theorem suffix_md {s : Text} (hs : s ≠ []) : suffix (s ++ ".md".toList) = ".md".toList := by
  have hreverse : (s ++ ".md".toList).reverse = 'd' :: 'm' :: '.' :: s.reverse := by simp
  have hspan : ('d' :: 'm' :: '.' :: s.reverse).span (· ≠ '.') =
      (['d', 'm'], '.' :: s.reverse) := rfl
  rw [suffix, hreverse, hspan]
  exact if_pos ⟨by decide, fun hnil => hs (List.reverse_eq_nil_iff.mp hnil)⟩

theorem stem_md {s : Text} (hs : s ≠ []) : stem (s ++ ".md".toList) = s := by
  rw [stem, suffix_md hs, List.length_append, Nat.add_sub_cancel, List.take_left]

/-- A name with a letter in it is that of no version. -/
theorem strToVer_of_letter {text : Text} (hdot : '.' ∉ text) {c : Char} (hc : c ∈ text)
    (hascii : c.toNat < 128) (hletter : c.isDigit = false) :
    strToVer u Version.init (.text text) = .ok none := by
  refine strToVer_of_other ⟨text, ?_, ?_⟩
  · rw [List.splitOn_eq_singleton hdot]
    exact List.mem_singleton_self text
  · rw [isdigit, Bool.and_eq_false_iff]
    refine .inr (List.all_eq_false.mpr ⟨c, hc, ?_⟩)
    rw [Version.isDigit_ascii c hascii, hletter]
    exact Bool.false_ne_true

/-- A changelog of a release has another name than the two other files. -/
theorem fileName_ne {v : V} (h : Made Version v) {text : Text} (htext : text ≠ [])
    (hnone : strToVer u Version.init (.text text) = .ok none) :
    fileName Version v ≠ text ++ ".md".toList := by
  intro heq
  have hstr : Version.str v = text := by
    rw [← stem_md (str_ne_nil h), ← stem_md htext]
    exact congrArg stem heq
  obtain ⟨w, hw, -⟩ := strToVer_str h
  rw [hstr, hnone] at hw
  cases hw

theorem strToVer_index : strToVer u Version.init (.text "index".toList) = .ok none :=
  strToVer_of_letter (c := 'i') (by decide) (by decide) (by decide) (by decide)

theorem strToVer_unreleased : strToVer u Version.init (.text "UNRELEASED".toList) = .ok none :=
  strToVer_of_letter (c := 'U') (by decide) (by decide) (by decide) (by decide)

theorem fileName_ne_index {v : V} (h : Made Version v) : fileName Version v ≠ indexName :=
  fileName_ne h (by decide) strToVer_index

theorem fileName_ne_unreleased {v : V} (h : Made Version v) :
    fileName Version v ≠ unreleasedName :=
  fileName_ne h (by decide) strToVer_unreleased

/-! ## The links -/

/-- What the two commands write into a directory -/
inductive Wrote (Version : ListedVersions u V) : Text → OutputEntry → Prop
  | release {v : V} (hv : Made Version v) (document : List Block) :
      Wrote Version (fileName Version v) (.file (.changelog document))
  | unreleased (document : List Block) : Wrote Version unreleasedName (.file (.changelog document))
  | index (links : List (Text × Text)) : Wrote Version indexName (.file (.tableOfContents links))

/-- The text and the target of a link to a file -/
def linkTo (name : Text) : Text × Text := (stem name, "./".toList ++ name)

/-- The link of a version -/
def versionLink (Version : ListedVersions u V) (v : V) : Text × Text :=
  (Version.str v, "./".toList ++ fileName Version v)

/-- The links are to the changelogs of the directory, one to each and no other; that to the
    unreleased one comes first, and the versions descend. -/
structure RightLinks (Version : ListedVersions u V) (dir : OutputDir)
    (links : List (Text × Text)) : Prop where
  nodup : links.Nodup
  mem_iff : ∀ link, link ∈ links ↔ ∃ name document,
    dir.get? name = some (.file (.changelog document)) ∧ link = linkTo name
  newest : ∃ versions : List V, (∀ v ∈ versions, Made Version v) ∧
    versions.Pairwise (fun v w => ¬Version.lt v w) ∧
    links = (unreleasedFile dir).toList.map linkTo ++ versions.map (versionLink Version)

/-- The link of a file that is that of a release -/
def releaseLink (row : Text × OutputEntry) : Option (Text × Text) :=
  if row.1 = indexName ∨ row.1 = unreleasedName then none else some (linkTo row.1)

theorem versionOf_md {s : Text} (hs : s ≠ []) (contents : Contents) :
    versionOf Version (s ++ ".md".toList, .file contents) =
      strToVer u Version.init (.text s) := by
  rw [versionOf, if_pos ⟨suffix_md hs, rfl⟩, stem_md hs]

/-- A file of a release is listed with the link that leads to it, the other two are not. -/
theorem Wrote.versionOf {name : Text} {entry : OutputEntry} (h : Wrote Version name entry) :
    ∃ found, versionOf Version (name, entry) = .ok found ∧ (∀ v ∈ found, Made Version v) ∧
      found.map (versionLink Version) = releaseLink (name, entry) := by
  cases h with
  | @release v hv document =>
      obtain ⟨w, hw, hstr⟩ := strToVer_str hv
      have hlink : releaseLink (fileName Version v, .file (.changelog document)) =
          some (linkTo (fileName Version v)) :=
        if_neg (not_or.mpr ⟨fileName_ne_index hv, fileName_ne_unreleased hv⟩)
      refine ⟨some w, (versionOf_md (str_ne_nil hv) _).trans hw, ?_, ?_⟩
      · intro v' hv'
        rw [← Option.some.inj hv']
        exact ⟨_, hw⟩
      · rw [hlink, Option.map_some, versionLink, linkTo, fileName, fileName,
          stem_md (str_ne_nil hv), hstr]
  | unreleased document =>
      refine ⟨none, (versionOf_md (s := "UNRELEASED".toList) (by decide) _).trans ?_, nofun, ?_⟩
      · exact strToVer_unreleased
      · exact (if_pos (.inr rfl)).symm
  | index links =>
      refine ⟨none, (versionOf_md (s := "index".toList) (by decide) _).trans ?_, nofun, ?_⟩
      · exact strToVer_index
      · exact (if_pos (.inl rfl)).symm

theorem filterMap_map_of_forall₂ {α β γ : Type} {as : List α} {bs : List (Option β)}
    {f : α → Option γ} {g : β → γ} (h : List.Forall₂ (fun a b => b.map g = f a) as bs) :
    (bs.filterMap id).map g = as.filterMap f := by
  rw [List.map_filterMap]
  induction h with
  | nil => rfl
  | cons hab _ ih => rw [List.filterMap_cons, List.filterMap_cons, ih, id, hab]

/-- The directory is read without an error, and each file of a release gives its link. -/
theorem exists_parse (iter : IterDir) {dir : OutputDir}
    (h : ∀ name entry, dir.get? name = some entry → Wrote Version name entry) :
    ∃ versions, parseDirectoryForVersions Version iter dir = .ok versions ∧
      (∀ v ∈ versions, Made Version v) ∧
      (versions.map (versionLink Version)).Perm (dir.rows.filterMap releaseLink) := by
  have hrows : ∀ row ∈ iter.iterdir dir, Wrote Version row.1 row.2 := fun row hrow =>
    h row.1 row.2 (Table.get?_eq_some_iff.mpr ((iter.perm dir).mem_iff.mp hrow))
  obtain ⟨found, hfound, hlinks⟩ := exists_mapM_eq_ok_and_iff.mpr fun row hrow =>
    (hrows row hrow).versionOf
  refine ⟨found.filterMap id, ?_, ?_, ?_⟩
  · rw [parseDirectoryForVersions, hfound]
    rfl
  · intro v hv
    obtain ⟨o, ho, rfl⟩ := List.mem_filterMap.mp hv
    obtain ⟨row, hrow, hof⟩ := (mem_of_mapM_eq_ok hfound).2 _ ho
    obtain ⟨found', hfound', hmade, -⟩ := (hrows row hrow).versionOf
    rw [hof] at hfound'
    cases hfound'
    exact hmade v rfl
  · rw [filterMap_map_of_forall₂ (hlinks.imp fun _ _ h => h.2)]
    exact (iter.perm dir).filterMap _

theorem sortedReverse_perm (versions : List V) : (sortedReverse Version versions).Perm versions :=
  List.mergeSort_perm versions _

/-- `<` sorts, and the order is a descending one. -/
theorem pairwise_sortedReverse (versions : List V) :
    (sortedReverse Version versions).Pairwise fun v w => ¬Version.lt v w := by
  have hless (v w : V) : (!Version.isLess v w) = true ↔ ¬Version.lt v w := by
    rw [Bool.not_eq_true', ← Bool.not_eq_true, Version.isLess_iff]
  have hsorted : (sortedReverse Version versions).Pairwise fun v w =>
      (!Version.isLess v w) = true := by
    refine List.pairwise_mergeSort ?_ ?_ versions
    · intro v w x hvw hwx
      rw [hless] at hvw hwx ⊢
      exact fun hvx => (Version.lt_or_lt v x w hvx).elim hvw hwx
    · intro v w
      rw [Bool.or_eq_true, hless, hless]
      by_cases hvw : Version.lt v w
      · exact .inr (Version.lt_asymm v w hvw)
      · exact .inl hvw
  exact hsorted.imp fun {v w} h => (hless v w).mp h

theorem linkTo_injective {name name' : Text} (h : linkTo name = linkTo name') : name = name' :=
  List.append_cancel_left (congrArg Prod.snd h)

/-- Everything in the directory was written by the two commands. -/
def WroteIn (Version : ListedVersions u V) (dir : OutputDir) : Prop :=
  ∀ name entry, dir.get? name = some entry → Wrote Version name entry

/-- The directory has what the commands have written, and an index of it if there is anything. -/
structure Published (Version : ListedVersions u V) (dir : OutputDir) : Prop where
  wrote : WroteIn Version dir
  index : dir.rows = [] ∨ ∃ links, dir.get? indexName = some (.file (.tableOfContents links)) ∧
    RightLinks Version dir links

theorem wroteIn_empty : WroteIn Version .empty := fun _ _ h => by cases h

theorem WroteIn.upsert {dir : OutputDir} (h : WroteIn Version dir) {name : Text}
    {entry : OutputEntry} (hwrote : Wrote Version name entry) :
    WroteIn Version (dir.upsert name entry) := by
  intro name' entry' hget
  rw [Table.get?_upsert] at hget
  split at hget
  next heq =>
    rw [heq, ← Option.some.inj hget]
    exact hwrote
  · exact h name' entry' hget

/-- What was written is written over without an error. -/
theorem WroteIn.writeText {dir : OutputDir} (h : WroteIn Version dir) (name : Text)
    (contents : Contents) :
    writeText dir name contents = .ok (dir.upsert name (.file contents)) := by
  unfold TableOfContents.writeText
  split
  next hdirectory => cases h name _ hdirectory
  · rfl

/-- Every file but the index is a changelog. -/
theorem Wrote.changelog {name : Text} {entry : OutputEntry} (h : Wrote Version name entry)
    (hname : name ≠ indexName) : ∃ document, entry = .file (.changelog document) := by
  cases h with
  | release _ document => exact ⟨document, rfl⟩
  | unreleased document => exact ⟨document, rfl⟩
  | index links => exact absurd rfl hname

theorem mem_releaseLinks {dir : OutputDir} {link : Text × Text} :
    link ∈ dir.rows.filterMap releaseLink ↔ ∃ name entry, dir.get? name = some entry ∧
      name ≠ indexName ∧ name ≠ unreleasedName ∧ link = linkTo name := by
  rw [List.mem_filterMap]
  constructor
  · rintro ⟨⟨name, entry⟩, hrow, hlink⟩
    unfold releaseLink at hlink
    split at hlink
    · cases hlink
    next hne =>
      rw [not_or] at hne
      exact ⟨name, entry, Table.get?_eq_some_iff.mpr hrow, hne.1, hne.2,
        (Option.some.inj hlink).symm⟩
  · rintro ⟨name, entry, hget, hindex, hunreleased, rfl⟩
    exact ⟨(name, entry), Table.get?_eq_some_iff.mp hget,
      if_neg (not_or.mpr ⟨hindex, hunreleased⟩)⟩

/-- Files of different names have different links. -/
theorem nodup_releaseLinks (dir : OutputDir) : (dir.rows.filterMap releaseLink).Nodup := by
  have hkeys := List.pairwise_map.mp dir.nodup
  refine List.pairwise_filterMap.mpr (hkeys.imp fun {row row'} hne link hlink link' hlink' => ?_)
  rintro rfl
  unfold releaseLink at hlink hlink'
  split at hlink
  · cases hlink
  split at hlink'
  · cases hlink'
  rw [← hlink'] at hlink
  exact hne (linkTo_injective (Option.some.inj hlink))

theorem unreleasedFile_eq_some_iff {dir : OutputDir} {name : Text} :
    unreleasedFile dir = some name ↔
      name = unreleasedName ∧ ∃ contents, dir.get? name = some (.file contents) := by
  unfold unreleasedFile
  split
  next contents hget =>
    rw [Option.some.injEq]
    constructor
    · rintro rfl
      exact ⟨rfl, contents, hget⟩
    · exact fun h => h.1.symm
  next hnone =>
    refine iff_of_false (by simp) ?_
    rintro ⟨rfl, contents, hget⟩
    exact hnone contents hget

/-- The links that the table of contents makes of a directory are right for it. -/
theorem rightLinks_save {dir : OutputDir} (h : WroteIn Version dir) {versions : List V}
    (hmade : ∀ v ∈ versions, Made Version v)
    (hlinks : (versions.map (versionLink Version)).Perm (dir.rows.filterMap releaseLink))
    (contents : List (Text × Text)) :
    RightLinks Version (dir.upsert indexName (.file (.tableOfContents contents)))
      (markdownVersionList Version versions (unreleasedFile dir)) := by
  have hunreleased : unreleasedFile (dir.upsert indexName (.file (.tableOfContents contents))) =
      unreleasedFile dir := by
    rw [unreleasedFile, Table.get?_upsert, if_neg (by decide)]
    rfl
  have heq : markdownVersionList Version versions (unreleasedFile dir) =
      (unreleasedFile dir).toList.map linkTo ++
        (sortedReverse Version versions).map (versionLink Version) := by
    unfold markdownVersionList
    cases unreleasedFile dir with
    | none => rfl
    | some name => rfl
  have hperm : ((sortedReverse Version versions).map (versionLink Version)).Perm
      (dir.rows.filterMap releaseLink) := ((sortedReverse_perm versions).map _).trans hlinks
  refine ⟨?_, fun link => ?_, sortedReverse Version versions, ?_, ?_, ?_⟩
  · rw [heq, List.nodup_append']
    refine ⟨?_, hperm.nodup_iff.mpr (nodup_releaseLinks dir), fun link hfirst hlater => ?_⟩
    · cases unreleasedFile dir with
      | none => exact List.nodup_nil
      | some name => exact List.nodup_singleton _
    · obtain ⟨name, hname, rfl⟩ := List.mem_map.mp hfirst
      obtain ⟨name', entry, -, -, hne, hlink⟩ := mem_releaseLinks.mp (hperm.mem_iff.mp hlater)
      have hname' := (unreleasedFile_eq_some_iff.mp (Option.mem_toList.mp hname)).1
      exact hne ((linkTo_injective hlink).symm.trans hname')
  · rw [heq, List.mem_append, List.mem_map, hperm.mem_iff, mem_releaseLinks]
    constructor
    · rintro (⟨name, hname, rfl⟩ | ⟨name, entry, hget, hindex, -, rfl⟩)
      · obtain ⟨rfl, contents', hget⟩ :=
          unreleasedFile_eq_some_iff.mp (Option.mem_toList.mp hname)
        obtain ⟨document, hdocument⟩ := (h _ _ hget).changelog (by decide)
        refine ⟨unreleasedName, document, ?_, rfl⟩
        rw [Table.get?_upsert, if_neg (by decide), hget, hdocument]
      · obtain ⟨document, hdocument⟩ := (h _ _ hget).changelog hindex
        refine ⟨name, document, ?_, rfl⟩
        rw [Table.get?_upsert, if_neg hindex, hget, hdocument]
    · rintro ⟨name, document, hget, rfl⟩
      rw [Table.get?_upsert] at hget
      split at hget
      · cases hget
      next hindex =>
        by_cases hname : name = unreleasedName
        · refine .inl ⟨name, Option.mem_toList.mpr ?_, rfl⟩
          exact unreleasedFile_eq_some_iff.mpr ⟨hname, _, hget⟩
        · exact .inr ⟨name, _, hget, hindex, hname, rfl⟩
  · exact fun v hv => hmade v ((sortedReverse_perm versions).mem_iff.mp hv)
  · exact pairwise_sortedReverse versions
  · rw [hunreleased]
    exact heq

/-! ## What the commands do -/

section Commands

variable (iter : IterDir)

/-- Over a directory with what the commands have written, the index is written. -/
theorem exists_save {dir : OutputDir} (h : WroteIn Version dir) :
    ∃ dir', save Version iter (some dir) = (.ok (), some dir') ∧ Published Version dir' := by
  obtain ⟨versions, hversions, hmade, hlinks⟩ := exists_parse iter h
  have hperm : (sortedReverse Version (sortedReverse Version versions)).Perm versions :=
    (sortedReverse_perm _).trans (sortedReverse_perm versions)
  have hright := rightLinks_save h (fun v hv => hmade v (hperm.mem_iff.mp hv))
    ((hperm.map (versionLink Version)).trans hlinks)
  refine ⟨dir.upsert indexName (.file (.tableOfContents (markdownVersionList Version
    (sortedReverse Version (sortedReverse Version versions)) (unreleasedFile dir)))),
    ?_, h.upsert (.index _), .inr ⟨_, ?_, hright _⟩⟩
  · rw [save, hversions]
    dsimp only
    rw [h.writeText]
  · rw [Table.get?_upsert, if_pos rfl]

/-- A changelog is saved, or there is none to save and the directory is as it was. -/
theorem exists_saveChangelog {out : Option OutputDir} (h : WroteIn Version (out.getD .empty))
    {name : Text} (hname : ∀ document, Wrote Version name (.file (.changelog document)))
    (document : Except PyError (Option (List Block))) (overwrite : Bool) :
    ∃ dir, WroteIn Version dir ∧ (saveChangelog out name document overwrite = (.ok (), some dir) ∨
      ∃ e, document = .error e ∧ dir = out.getD .empty ∧
        saveChangelog out name document overwrite = (.error e, some dir)) := by
  unfold saveChangelog
  dsimp only
  split
  · rcases document with e | _ | blocks
    · exact ⟨_, h, .inr ⟨e, rfl, rfl, rfl⟩⟩
    · exact ⟨_, h, .inl rfl⟩
    · refine ⟨_, h.upsert (hname blocks), .inl ?_⟩
      dsimp only
      rw [h.writeText]
  · exact ⟨_, h, .inl rfl⟩

/-- The loop over the changelogs saves them all. -/
theorem exists_saveChangelogs (changelogs : List (VersionedRelease Version × Changelog))
    {out : Option OutputDir} (h : WroteIn Version (out.getD .empty)) :
    ∃ out', saveChangelogs Version changelogs out = (.ok (), out') ∧
      WroteIn Version (out'.getD .empty) := by
  induction changelogs generalizing out with
  | nil => exact ⟨out, rfl, h⟩
  | cons first changelogs ih =>
      obtain ⟨release, changelog⟩ := first
      obtain ⟨dir, hdir, hsave | ⟨e, he, -⟩⟩ := exists_saveChangelog h
        (.release release.made) (.ok (changelog.document u)) false
      · have hnext : WroteIn Version ((some dir).getD .empty) := hdir
        obtain ⟨out', hout', hwrote⟩ := ih hnext
        refine ⟨out', ?_, hwrote⟩
        rw [saveChangelogs, hsave]
        exact hout'
      · cases he

/-- The directory is published, if there is one. -/
def PublishedAt (Version : ListedVersions u V) (out : Option OutputDir) : Prop :=
  ∀ dir, out = some dir → Published Version dir

theorem PublishedAt.wroteIn {out : Option OutputDir} (h : PublishedAt Version out) :
    WroteIn Version (out.getD .empty) := by
  cases out with
  | none => exact wroteIn_empty
  | some dir => exact (h dir rfl).wrote

/-- A directory that was made without anything in it -/
theorem published_getD {out : Option OutputDir} (h : PublishedAt Version out) :
    Published Version (out.getD .empty) := by
  cases out with
  | none => exact ⟨wroteIn_empty, .inl rfl⟩
  | some dir => exact h dir rfl

/-- A command, whatever it ends with, leaves the index right. -/
theorem publishedAt_execute {out : Option OutputDir} (h : PublishedAt Version out)
    (command : Command Version) : PublishedAt Version (execute Version iter out command) := by
  cases command with
  | generateRelease releases =>
      unfold execute generateRelease
      dsimp only
      split
      · exact h
      next changelogs _ =>
        obtain ⟨out', hout', hwrote⟩ := exists_saveChangelogs changelogs h.wroteIn
        rw [hout']
        cases out' with
        | none => exact nofun
        | some dir =>
            have hdir : WroteIn Version dir := hwrote
            obtain ⟨dir', hdir', hpublished⟩ := exists_save iter hdir
            dsimp only
            rw [hdir']
            rintro _ ⟨⟩
            exact hpublished
  | generateUnreleased changelog =>
      unfold execute generateUnreleased
      cases changelog with
      | error e => exact h
      | ok document =>
          obtain ⟨dir, hdir, hsave | ⟨e, -, rfl, hsave⟩⟩ :=
            exists_saveChangelog h.wroteIn Wrote.unreleased document true
          · obtain ⟨dir', hdir', hpublished⟩ := exists_save iter hdir
            dsimp only
            rw [hsave]
            dsimp only
            rw [hdir']
            rintro _ ⟨⟩
            exact hpublished
          · -- the document could not be made, and the directory has only been made
            dsimp only
            rw [hsave]
            rintro _ ⟨⟩
            exact published_getD h

/-! ## What they leave alone -/

/-- Every file but the index and the unreleased changelog is as it was. -/
def Keeps (out out' : Option OutputDir) : Prop :=
  ∀ dir, out = some dir → ∃ dir', out' = some dir' ∧
    ∀ name entry, name ≠ indexName → name ≠ unreleasedName → dir.get? name = some entry →
      dir'.get? name = some entry

theorem Keeps.refl (out : Option OutputDir) : Keeps out out :=
  fun dir hdir => ⟨dir, hdir, fun _ _ _ _ h => h⟩

theorem Keeps.trans {out out' out'' : Option OutputDir} (h : Keeps out out')
    (h' : Keeps out' out'') : Keeps out out'' := by
  intro dir hdir
  obtain ⟨dir', hdir', hkeeps⟩ := h dir hdir
  obtain ⟨dir'', hdir'', hkeeps'⟩ := h' dir' hdir'
  refine ⟨dir'', hdir'', fun name entry hindex hunreleased hget => ?_⟩
  exact hkeeps' name entry hindex hunreleased (hkeeps name entry hindex hunreleased hget)

theorem keeps_getD (out : Option OutputDir) : Keeps out (some (out.getD .empty)) := by
  rintro dir rfl
  exact ⟨dir, rfl, fun _ _ _ _ h => h⟩

/-- A file is written that is not there yet, or is one of the two. -/
theorem keeps_writeText {dir dir' : OutputDir} {name : Text} {contents : Contents}
    (h : writeText dir name contents = .ok dir')
    (hname : name = indexName ∨ name = unreleasedName ∨ dir.get? name = none) :
    Keeps (some dir) (some dir') := by
  unfold writeText at h
  split at h
  · cases h
  · cases h
    rintro dir ⟨⟩
    refine ⟨_, rfl, fun other entry hindex hunreleased hget => ?_⟩
    rw [Table.get?_upsert, if_neg]
    · exact hget
    · rintro rfl
      rcases hname with hname | hname | hnone
      · exact hindex hname
      · exact hunreleased hname
      · rw [hnone] at hget
        cases hget

theorem keeps_save (out : Option OutputDir) : Keeps out (save Version iter out).2 := by
  unfold save
  split
  · exact .refl _
  · split
    · exact .refl _
    · dsimp only
      split
      · exact .refl _
      next hwrite => exact keeps_writeText hwrite (.inl rfl)

theorem keeps_saveChangelog (out : Option OutputDir) {name : Text}
    (document : Except PyError (Option (List Block))) {overwrite : Bool}
    (hname : name = unreleasedName ∨ overwrite = false) :
    Keeps out (saveChangelog out name document overwrite).2 := by
  refine (keeps_getD out).trans ?_
  unfold saveChangelog
  dsimp only
  split
  next hnew =>
    rcases document with e | _ | blocks
    · exact .refl _
    · exact .refl _
    · dsimp only
      split
      · exact .refl _
      next hwrite =>
        refine keeps_writeText hwrite (.inr ?_)
        rcases hname with hname | hfalse
        · exact .inl hname
        · rw [hfalse] at hnew
          exact .inr (Option.isNone_iff_eq_none.mp (hnew.resolve_right Bool.false_ne_true))
  · exact .refl _

theorem keeps_saveChangelogs (changelogs : List (VersionedRelease Version × Changelog))
    (out : Option OutputDir) : Keeps out (saveChangelogs Version changelogs out).2 := by
  induction changelogs generalizing out with
  | nil => exact .refl _
  | cons first changelogs ih =>
      obtain ⟨release, changelog⟩ := first
      have hfirst : Keeps out (saveChangelog out (fileName Version release.version)
          (.ok (changelog.document u)) false).2 := keeps_saveChangelog out _ (.inr rfl)
      unfold saveChangelogs
      split
      next out' hsave =>
        rw [hsave] at hfirst
        exact hfirst.trans (ih out')
      next e out' hsave =>
        rw [hsave] at hfirst
        exact hfirst

theorem keeps_execute (out : Option OutputDir) (command : Command Version) :
    Keeps out (execute Version iter out command) := by
  cases command with
  | generateRelease releases =>
      unfold execute generateRelease
      dsimp only
      split
      · exact .refl _
      next changelogs _ =>
        have hfirst := keeps_saveChangelogs changelogs out
        split
        next out' hsave =>
          rw [hsave] at hfirst
          exact hfirst.trans (keeps_save iter out')
        next e out' hsave =>
          rw [hsave] at hfirst
          exact hfirst
  | generateUnreleased changelog =>
      unfold execute generateUnreleased
      cases changelog with
      | error e => exact .refl _
      | ok document =>
          have hfirst : Keeps out (saveChangelog out unreleasedName document true).2 :=
            keeps_saveChangelog out document (.inl rfl)
          dsimp only
          split
          next out' hsave =>
            rw [hsave] at hfirst
            exact hfirst.trans (keeps_save iter out')
          next e out' hsave =>
            rw [hsave] at hfirst
            exact hfirst

end Commands

/-! ## Runs -/

/-- Commands one after the other, each with the order in which it finds the directory -/
def run (Version : ListedVersions u V) (out : Option OutputDir)
    (commands : List (IterDir × Command Version)) : Option OutputDir :=
  commands.foldl (fun out command => execute Version command.1 out command.2) out

/-- Whatever commands have run from an empty directory or from none, and whatever they ended
    with: the index links the changelogs that are there, each once, the newest first; and no
    later command changes a changelog of a release. -/
theorem published_of_commands (Version : ListedVersions u V) (madeBefore : Bool)
    (commands : List (IterDir × Command Version)) :
    PublishedAt Version (run Version (if madeBefore then some .empty else none) commands) ∧
      ∀ later, Keeps (run Version (if madeBefore then some .empty else none) commands)
        (run Version (if madeBefore then some .empty else none) (commands ++ later)) := by
  have hrun : ∀ out, PublishedAt Version out → PublishedAt Version (run Version out commands) := by
    induction commands with
    | nil => exact fun _ h => h
    | cons command commands ih =>
        exact fun out h => ih _ (publishedAt_execute command.1 h command.2)
  have hkeeps : ∀ later out, Keeps out (run Version out later) := by
    intro later
    induction later with
    | nil => exact fun out => .refl out
    | cons command later ih =>
        exact fun out => (keeps_execute command.1 out command.2).trans (ih _)
  refine ⟨hrun _ ?_, fun later => ?_⟩
  · cases madeBefore with
    | false => exact nofun
    | true =>
        rintro _ ⟨⟩
        exact ⟨wroteIn_empty, .inl rfl⟩
  · rw [run, run, List.foldl_append]
    exact hkeeps later _

end Theorems

/-! ## Versions that are releases -/

/-- The versions whose text is that of their numbers -/
def listedReleases (u : Unicode) (hascii : ∀ c : Char, c.toNat < 128 → u.isDigit c = c.isDigit) :
    ListedVersions u (List Nat) where
  toVersionClass := releases u (hascii '.' (by decide))
  str release := dotted (release.map (Nat.toDigits 10))
  str_eq _ _ _ _ := rfl
  isLess v w := decide (trimmed v < trimmed w)
  isLess_iff _ _ := decide_eq_true_iff
  lt_asymm _ _ h := lt_asymm h
  lt_or_lt v w x h := by
    rcases lt_or_ge (trimmed v) (trimmed x) with hlt | hge
    · exact .inl hlt
    · exact .inr (lt_of_le_of_lt hge h)
  isDigit_ascii := hascii

end TableOfContents

end Tfplenum
