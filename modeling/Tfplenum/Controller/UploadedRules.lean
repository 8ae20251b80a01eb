/-
  Tfplenum.Controller.UploadedRules

  What an upload of rules stores.  A file is cut into pieces, and every piece is
  checked and stored before the next: `RuleFile.pieces` is the cut,
  `Piece.rejected` the check, `Piece.rule` what is stored.
-/

import Tfplenum.Controller.RulesetController

namespace Tfplenum

open Lib

/-! ## Pieces -/

/-- What `_create_rule_srv_wrapper` is called with. -/
structure Piece where
  name : String
  content : String
  header : String
  byPassValidation : Bool

/-- The header of a file that is cut, and the lines that are cut. -/
def headerAndLines (appType text : String) : List Char × List (List Char) :=
  let lines := readlines text.toList
  if appType = RuleTypes.zeekIntel then (lines.head?.getD [], lines.tail) else ([], lines)

/-- The pieces of a large file. -/
def chunkPieces (filename appType text : String) (byPassValidation : Bool) : List Piece :=
  let cut := headerAndLines appType text
  ((chunksFrom [] cut.2).zipIdx 1).map fun chunk =>
    ⟨getFileName filename chunk.2, String.ofList chunk.1, String.ofList cut.1, byPassValidation⟩

/-- The pieces of a file; validation of a small file is not by-passed. -/
def RuleFile.pieces (file : RuleFile) (appType text : String) (byPassValidation : Bool) :
    List Piece :=
  if chunkSize < file.size then chunkPieces file.name appType text byPassValidation
  else [⟨file.name, text, "", false⟩]

/-- `_create_rule_srv_wrapper` of a piece -/
def Piece.create (ruleSet : RuleSetOf) (ignoreErrors : Bool) (piece : Piece) :
    Prog (Option RuleDoc) :=
  createRuleSrvWrapper ruleSet piece.name piece.content ignoreErrors piece.byPassValidation
    piece.header

/-- A file is created piece by piece. -/
theorem createRuleFromFile_eq (file : RuleFile) (ruleSet : RuleSetOf)
    (ignoreErrors byPassValidation : Bool) :
    createRuleFromFile file ruleSet ignoreErrors byPassValidation =
      (Program.ofExcept file.text).bind fun text =>
        Program.mapEach (file.pieces ruleSet.appType text byPassValidation)
          (Piece.create ruleSet ignoreErrors) := by
  unfold createRuleFromFile RuleFile.pieces
  rw [Program.bind_eq]
  congr 1
  funext text
  by_cases hsize : chunkSize < file.size
  · rw [if_pos hsize, if_pos hsize, chunkPieces, Program.mapEach_map]
    by_cases hintel : ruleSet.appType = RuleTypes.zeekIntel <;>
      simp only [headerAndLines, hintel, if_true, if_false] <;> rfl
  · rw [if_neg hsize, if_neg hsize]
    rfl

/-! ## One piece -/

/-- The content under which a piece is stored. -/
def Piece.stored (appType : String) (piece : Piece) : String :=
  if appType = RuleTypes.zeekIntel ∧ piece.byPassValidation = false then
    piece.header ++ piece.content
  else piece.content

/-- The rule that is stored for a piece. -/
def Piece.rule (ruleSet : RuleSetOf) (piece : Piece) : RuleDoc :=
  ⟨ruleSet.id, some piece.name, some (piece.stored ruleSet.appType), some true⟩

/-- The exceptions of rules that may not be stored. -/
def PyError.isRejection : PyError → Bool
  | .invalidRuleSyntax _ => true
  | .prohibitedExecFunc _ => true
  | _ => false

/-- The validator does not accept the rule. -/
def refuses : Except PyError (Option (Bool × String)) → Bool
  | .ok outcome => !(outcome.getD (false, "Unsupported rule type.")).1
  | .error e => e.isRejection

/-- A piece that may not be stored: a script that executes commands, or a rule that the
    validator, asked about it in this world, does not accept. -/
def Piece.rejected (env : Environment) (w : World) (appType : String) (piece : Piece) : Bool :=
  checkZeekExecModule appType piece.content ||
    (!piece.byPassValidation && refuses ((validateRule appType).run (handle env) w).1)

/-- The rules of the second world are those of the first, and these after them. -/
def AddsRules (w w' : World) (rows : List (String × RuleDoc)) : Prop :=
  (w'.db .rule).rows = (w.db .rule).rows ++ rows

theorem AddsRules.refl (w : World) : AddsRules w w [] := (List.append_nil _).symm

theorem addsRules_of_db {w w' : World} (h : w'.db = w.db) : AddsRules w w' [] := by
  rw [AddsRules, h, List.append_nil]

theorem AddsRules.trans {w w' w'' : World} {rows rows' : List (String × RuleDoc)}
    (h : AddsRules w w' rows) (h' : AddsRules w' w'' rows') : AddsRules w w'' (rows ++ rows') := by
  rw [AddsRules, h', h, List.append_assoc]

section OnePiece

variable (env : Environment) (ruleSet : RuleSetOf) (w : World)

/-- What is left of `create_rule_service` after its identifier is drawn. -/
theorem run_createRuleService_eq (rule : RuleDoc) (ruleSetId : String) :
    (createRuleService rule ruleSetId).run (handle env) w =
      (Program.bind (Prog.insertOne .rule (env .uuid4 w.calls) { rule with ruleSetId := ruleSetId })
        fun inserted => (Program.when (inserted = false) (Program.raise .duplicateKeyError)).bind
          fun _ => Prog.findById .rule (env .uuid4 w.calls)).run (handle env)
            { w with calls := w.calls + 1 } := rfl

/-- A new rule is stored under an identifier that is not taken. -/
theorem run_createRuleService_of_unused {rule : RuleDoc} {ruleSetId : String}
    (hid : (w.db .rule).get? (env .uuid4 w.calls) = none) :
    ∃ w', (createRuleService rule ruleSetId).run (handle env) w =
        (.ok (some { rule with ruleSetId := ruleSetId }), w') ∧ w'.calls = w.calls + 1 ∧
      AddsRules w w' [(env .uuid4 w.calls, { rule with ruleSetId := ruleSetId })] := by
  rw [run_createRuleService_eq, Prog.insertOne, Program.perform_bind, Program.run_call, handle_db,
    DocOp.apply_insertOne_of_none hid]
  refine ⟨_, Prod.ext (congrArg Except.ok ?_) rfl, rfl, Table.rows_upsert_of_none _ hid⟩
  simp

/-- A new rule is stored under its identifier, unless that is taken. -/
theorem run_createRuleService (rule : RuleDoc) (ruleSetId : String) :
    ∃ r w', (createRuleService rule ruleSetId).run (handle env) w = (r, w') ∧
      (r = .ok (some { rule with ruleSetId := ruleSetId }) ∧
          AddsRules w w' [(env .uuid4 w.calls, { rule with ruleSetId := ruleSetId })] ∨
        r = .error .duplicateKeyError ∧ w'.db = w.db) := by
  cases hid : (w.db .rule).get? (env .uuid4 w.calls) with
  | some other =>
      have hsome : ((w.db .rule).get? (env .uuid4 w.calls)).isSome := by rw [hid]; rfl
      rw [run_createRuleService_eq, Prog.insertOne, Program.perform_bind, Program.run_call,
        handle_db, DocOp.apply_insertOne_of_some hsome]
      exact ⟨_, _, rfl, .inr ⟨rfl, rfl⟩⟩
  | none =>
      obtain ⟨w', hrun, -, hadds⟩ := run_createRuleService_of_unused env w hid
      exact ⟨_, w', hrun, .inl ⟨rfl, hadds⟩⟩

/-- How a piece ends: its rule is stored after the others and the piece was not rejected, or
    an exception is raised, a rejection if and only if the piece was rejected, and no rule
    is stored. -/
def PieceEnds (piece : Piece) (r : Except PyError (Option RuleDoc)) (w' : World) : Prop :=
  (∃ doc, r = .ok (some doc)) ∧ piece.rejected env w ruleSet.appType = false ∧
      (∃ id, AddsRules w w' [(id, piece.rule ruleSet)]) ∨
    ∃ e, r = .error e ∧ w'.db = w.db ∧ e.isRejection = piece.rejected env w ruleSet.appType

/-- A piece that is not rejected is stored after its validation, which changes nothing. -/
theorem pieceEnds_of_stored {piece : Piece} {v : World} (hv : v.db = w.db)
    (hnot : piece.rejected env w ruleSet.appType = false) :
    ∃ r w', (createRuleService (piece.rule ruleSet) ruleSet.id).run (handle env) v = (r, w') ∧
      PieceEnds env ruleSet w piece r w' := by
  obtain ⟨r, w', hrun, ⟨hr, hadds⟩ | ⟨hr, hdb⟩⟩ :=
    run_createRuleService env v (piece.rule ruleSet) ruleSet.id
  · rw [AddsRules, hv] at hadds
    exact ⟨r, w', hrun, .inl ⟨⟨_, hr⟩, hnot, _, hadds⟩⟩
  · exact ⟨r, w', hrun, .inr ⟨_, hr, hdb.trans hv, hnot.symm⟩⟩

theorem run_create (piece : Piece) :
    ∃ r w', (piece.create ruleSet false).run (handle env) w = (r, w') ∧
      PieceEnds env ruleSet w piece r w' := by
  unfold Piece.create createRuleSrvWrapper
  by_cases hexec : checkZeekExecModule ruleSet.appType piece.content = true
  · have hrejected : piece.rejected env w ruleSet.appType = true := by simp [Piece.rejected, hexec]
    rw [if_pos hexec]
    exact ⟨_, _, rfl, .inr ⟨_, rfl, rfl, hrejected.symm⟩⟩
  rw [if_neg hexec]
  rw [Bool.not_eq_true] at hexec
  by_cases hpass : piece.byPassValidation = true
  · have hnot : piece.rejected env w ruleSet.appType = false := by
      simp [Piece.rejected, hexec, hpass]
    have hrule : piece.rule ruleSet =
        ⟨ruleSet.id, some piece.name, some piece.content, some true⟩ := by
      simp [Piece.rule, Piece.stored, hpass]
    have hends := pieceEnds_of_stored env ruleSet w rfl hnot
    rw [hrule] at hends
    rw [if_pos hpass]
    exact hends
  have hrule : piece.rule ruleSet = ⟨ruleSet.id, some piece.name,
      some (if ruleSet.appType = RuleTypes.zeekIntel then piece.header ++ piece.content
        else piece.content), some true⟩ := by
    simp [Piece.rule, Piece.stored, hpass]
  rw [if_neg hpass, Program.bind_eq]
  have hdb : ((validateRule ruleSet.appType).run (handle env) w).2.db = w.db :=
    db_run_of_readsOnly (readsOnly_validateRule ruleSet.appType) w
  have hrejected : piece.rejected env w ruleSet.appType =
      refuses ((validateRule ruleSet.appType).run (handle env) w).1 := by
    simp [Piece.rejected, hexec, hpass]
  rcases hvalidate : (validateRule ruleSet.appType).run (handle env) w with ⟨e | outcome, v⟩
  · rw [hvalidate] at hrejected hdb
    rw [Program.run_bind_error _ hvalidate]
    exact ⟨_, _, rfl, .inr ⟨e, rfl, hdb, hrejected.symm⟩⟩
  · rw [hvalidate] at hrejected hdb
    rw [Program.run_bind_ok _ hvalidate]
    cases haccepted : (outcome.getD (false, "Unsupported rule type.")).1 with
    | true =>
        have hnot : piece.rejected env w ruleSet.appType = false := by
          rw [hrejected, refuses, haccepted]
          rfl
        have hends := pieceEnds_of_stored env ruleSet w hdb hnot
        rw [hrule] at hends
        dsimp only
        rw [if_pos haccepted]
        exact hends
    | false =>
        dsimp only
        rw [if_neg (by simp [haccepted]), if_neg (by decide)]
        refine ⟨_, _, rfl, .inr ⟨_, rfl, hdb, ?_⟩⟩
        rw [hrejected, refuses, haccepted]
        rfl

end OnePiece

/-! ## What an upload leaves -/

section UploadEnds

variable (env : Environment)

/-- How a program ends that stores rules.  `first` is whether what it does first is rejected,
    if it does anything: a program that returns has stored a rule, unless it did nothing, and
    one that ends in a rejection has stored none if and only if the first was rejected. -/
structure UploadEnds {α : Type} (w : World) (first : Option Bool) (r : Except PyError α)
    (w' : World) (rows : List (String × RuleDoc)) : Prop where
  adds : AddsRules w w' rows
  ok : ∀ a, r = .ok a → first = none ∧ rows = [] ∧ w' = w ∨ first = some false ∧ rows ≠ []
  error : ∀ e, r = .error e →
    first.isSome = true ∧ (e.isRejection = true → (rows = [] ↔ first = some true))

/-- The program ends so. -/
def UploadEndsWith {α : Type} (w : World) (first : Option Bool) (p : Prog α) : Prop :=
  ∃ rows, UploadEnds w first (p.run (handle env) w).1 (p.run (handle env) w).2 rows

variable {env}

theorem uploadEndsWith_done {α : Type} (w : World) (a : α) :
    UploadEndsWith env w none (.done a) := by
  refine ⟨[], .refl w, fun _ _ => .inl ⟨rfl, rfl, rfl⟩, ?_⟩
  intro e h
  cases h

theorem uploadEndsWith_raise {α : Type} (w : World) (e : PyError) :
    UploadEndsWith env w (some e.isRejection) (.raise e : Prog α) := by
  refine ⟨[], .refl w, ?_, ?_⟩
  · intro a h
    cases h
  · intro e' h
    cases h
    simp

/-- What comes after a program that stored a rule is not the first, and what comes after a
    program that did nothing is. -/
theorem UploadEndsWith.bind {α β : Type} {w : World} {first : Option Bool} {g : World → Option Bool}
    {p : Prog α} {f : α → Prog β} (hp : UploadEndsWith env w first p)
    (hf : ∀ a v, UploadEndsWith env v (g v) (f a)) :
    UploadEndsWith env w (first.or (g w)) (p.bind f) := by
  obtain ⟨rows, hends⟩ := hp
  rcases hrun : p.run (handle env) w with ⟨e | a, v⟩ <;> rw [hrun] at hends
  · obtain ⟨hfirst, hrejection⟩ := hends.error e rfl
    have hor : first.or (g w) = first := by
      obtain ⟨b, rfl⟩ := Option.isSome_iff_exists.mp hfirst
      rfl
    rw [hor, UploadEndsWith, Program.run_bind_error _ hrun]
    refine ⟨rows, hends.adds, ?_, ?_⟩
    · intro b h
      cases h
    · intro e' h
      cases h
      exact ⟨hfirst, hrejection⟩
  rw [UploadEndsWith, Program.run_bind_ok _ hrun]
  obtain ⟨rows', hends'⟩ := hf a v
  refine ⟨rows ++ rows', hends.adds.trans hends'.adds, ?_, ?_⟩
  · intro b h
    rcases hends.ok a rfl with ⟨rfl, rfl, rfl⟩ | ⟨rfl, hrows⟩
    · exact hends'.ok b h
    · exact .inr ⟨rfl, by simp [hrows]⟩
  · intro e h
    obtain ⟨hfirst, hrejection⟩ := hends'.error e h
    rcases hends.ok a rfl with ⟨rfl, rfl, rfl⟩ | ⟨rfl, hrows⟩
    · exact ⟨hfirst, hrejection⟩
    · exact ⟨rfl, fun _ => by simp [hrows]⟩

/-- A return value may be changed. -/
theorem UploadEndsWith.map {α β : Type} {w : World} {first : Option Bool} {p : Prog α}
    (hp : UploadEndsWith env w first p) (f : α → β) :
    UploadEndsWith env w first (p.bind fun a => .done (f a)) := by
  have h := hp.bind (g := fun _ => none) fun a v => uploadEndsWith_done v (f a)
  rwa [Option.or_none] at h

/-- Of a loop, the first body that does anything is the first. -/
theorem uploadEndsWith_mapEach {α β : Type} {as : List α} {body : α → Prog β}
    {first : World → α → Option Bool} (hb : ∀ a w, UploadEndsWith env w (first w a) (body a))
    (w : World) :
    UploadEndsWith env w (as.findSome? (first w)) (Program.mapEach as body) := by
  induction as generalizing w with
  | nil => exact uploadEndsWith_done w []
  | cons a as ih =>
      have h := (hb a w).bind (g := fun v => as.findSome? (first v))
        (f := fun b => (Program.mapEach as body).bind fun bs => .done (b :: bs))
        fun b v => (ih v).map fun bs => b :: bs
      rw [List.findSome?_cons]
      cases hfirst : first w a with
      | none => rwa [hfirst] at h
      | some b => rwa [hfirst] at h

/-! ### Uploads -/

/-- Whether the first piece of a file is rejected, if it has any. -/
def RuleFile.firstRejected (env : Environment) (w : World) (appType : String)
    (byPassValidation : Bool) (file : RuleFile) : Option Bool :=
  match file.text with
  | .error e => some e.isRejection
  | .ok text =>
      (file.pieces appType text byPassValidation).findSome? fun piece =>
        some (piece.rejected env w appType)

/-- The members of an archive that are read. -/
def ruleFilesOf (files : List RuleFile) : List RuleFile :=
  files.filter fun file => doesFileHaveExt file.name ".txt" || doesFileHaveExt file.name ".rules"

/-- Whether the first piece of an upload is rejected, if it has any. -/
def Upload.firstRejected (env : Environment) (w : World) (appType : String)
    (byPassValidation : Bool) (upload : Upload) : Option Bool :=
  if doesFileHaveExt upload.file.name ".zip" then
    match upload.members with
    | .error e => some e.isRejection
    | .ok files =>
        (ruleFilesOf files).findSome? (RuleFile.firstRejected env w appType byPassValidation)
  else upload.file.firstRejected env w appType byPassValidation

theorem uploadEndsWith_create (ruleSet : RuleSetOf) (piece : Piece) (w : World) :
    UploadEndsWith env w (some (piece.rejected env w ruleSet.appType))
      (piece.create ruleSet false) := by
  obtain ⟨r, w', hrun, ⟨⟨doc, rfl⟩, hnot, id, hadds⟩ | ⟨e, rfl, hdb, he⟩⟩ :=
      run_create env ruleSet w piece
  · rw [UploadEndsWith, hrun]
    refine ⟨_, hadds, ?_, ?_⟩
    · intro a _
      exact .inr ⟨by rw [hnot], by simp⟩
    · intro e h
      cases h
  · rw [UploadEndsWith, hrun]
    refine ⟨[], addsRules_of_db hdb, ?_, ?_⟩
    · intro a h
      cases h
    · intro e' h
      cases h
      exact ⟨rfl, fun hrejection => by simp [← he, hrejection]⟩

theorem uploadEndsWith_createRuleFromFile (ruleSet : RuleSetOf) (byPassValidation : Bool)
    (file : RuleFile) (w : World) :
    UploadEndsWith env w (file.firstRejected env w ruleSet.appType byPassValidation)
      (createRuleFromFile file ruleSet false byPassValidation) := by
  rw [createRuleFromFile_eq]
  unfold RuleFile.firstRejected
  cases file.text with
  | error e => exact uploadEndsWith_raise w e
  | ok text => exact uploadEndsWith_mapEach (fun piece v => uploadEndsWith_create ruleSet piece v) w

theorem uploadEndsWith_createRulesFromUpload (ruleSet : RuleSetOf) (byPassValidation : Bool)
    (upload : Upload) (w : World) :
    UploadEndsWith env w (upload.firstRejected env w ruleSet.appType byPassValidation)
      (createRulesFromUpload upload ruleSet byPassValidation) := by
  unfold createRulesFromUpload Upload.firstRejected
  split
  · rw [processZipfile]
    cases upload.members with
    | error e => exact uploadEndsWith_raise w e
    | ok files =>
        exact (uploadEndsWith_mapEach
          (fun file v => uploadEndsWith_createRuleFromFile ruleSet byPassValidation file v) w).map _
  · exact uploadEndsWith_createRuleFromFile ruleSet byPassValidation upload.file w

end UploadEnds

/-- Rules that are added show, unless there are none. -/
theorem AddsRules.eq_iff {w w' : World} {rows : List (String × RuleDoc)} (h : AddsRules w w' rows) :
    w'.db .rule = w.db .rule ↔ rows = [] := by
  constructor
  · intro heq
    rw [AddsRules, heq] at h
    exact List.self_eq_append_right.mp h
  · rintro rfl
    refine Table.ext ?_
    rw [h, List.append_nil]

/-- An upload that ends in a rejection leaves the rules as they were if and only if it is its
    first piece that was rejected. -/
theorem rejectedUpload_unchanged_iff {env : Environment} {upload : Upload} {ruleSet : RuleSetOf}
    {byPassValidation : Bool} {w w' : World} {e : PyError}
    (hrun : (createRulesFromUpload upload ruleSet byPassValidation).run (handle env) w =
      (.error e, w')) (he : e.isRejection = true) :
    w'.db .rule = w.db .rule ↔
      upload.firstRejected env w ruleSet.appType byPassValidation = some true := by
  obtain ⟨rows, hends⟩ := uploadEndsWith_createRulesFromUpload ruleSet byPassValidation upload w
  rw [hrun] at hends
  rw [hends.adds.eq_iff]
  exact (hends.error e rfl).2 he

/-- An archive of two scripts, of which the second executes commands. -/
def twoScripts : Upload where
  file := ⟨"scripts.zip", 300, .error .unicodeError⟩
  members := .ok [⟨"first.txt", 14, .ok "redef x = 1;\n"⟩, ⟨"second.txt", 13, .ok "Exec::run();\n"⟩]

def scriptRules : RuleSetOf := ⟨"s1", RuleTypes.zeekScripts⟩

/-- The first script alone, which executes commands. -/
def execScript : Upload where
  file := ⟨"second.txt", 13, .ok "Exec::run();\n"⟩
  members := .error .unicodeError

theorem rejectedUpload_unchanged_iff_execScript :
    (createRulesFromUpload execScript scriptRules false).run (handle steadyEnv) emptyWorld =
        (.error (.prohibitedExecFunc "Exec module prohibited"), emptyWorld) ∧
      (emptyWorld.db .rule = emptyWorld.db .rule ↔
        execScript.firstRejected steadyEnv emptyWorld RuleTypes.zeekScripts false = some true) := by
  have hrun : (createRulesFromUpload execScript scriptRules false).run
      (handle steadyEnv) emptyWorld =
      (.error (.prohibitedExecFunc "Exec module prohibited"), emptyWorld) := by
    have hname : doesFileHaveExt execScript.file.name ".zip" = false := by decide +kernel
    have hexec : checkZeekExecModule scriptRules.appType "Exec::run();\n" = true := by
      decide +kernel
    rw [createRulesFromUpload, hname]
    simp [createRuleFromFile, createRuleSrvWrapper, execScript, hexec, chunkSize, Program.ofExcept]
  exact ⟨hrun, rejectedUpload_unchanged_iff hrun rfl⟩

/-- The upload of `twoScripts` is rejected, and the first script is stored. -/
theorem rules_twoScripts :
    ((createRulesFromUpload twoScripts scriptRules false).run (handle steadyEnv) emptyWorld).1 =
        .error (.prohibitedExecFunc "Exec module prohibited") ∧
      (((createRulesFromUpload twoScripts scriptRules false).run (handle steadyEnv)
        emptyWorld).2.db .rule).rows.length = 1 := by
  constructor <;> decide +kernel

theorem not_rejectedUpload_unchanged :
    ¬ ∀ (env : Environment) (upload : Upload) (ruleSet : RuleSetOf)
    (byPassValidation : Bool) (w w' : World) (e : PyError),
    (createRulesFromUpload upload ruleSet byPassValidation).run (handle env) w = (.error e, w') →
      e.isRejection = true → w'.db .rule = w.db .rule := by
  intro h
  obtain ⟨he, hlength⟩ := rules_twoScripts
  have hsame := h steadyEnv twoScripts scriptRules false emptyWorld _ _ (Prod.ext he rfl) rfl
  rw [hsame] at hlength
  cases hlength

/-! ## Lines and chunks -/

theorem flatten_readlines (cs : List Char) : (readlines cs).flatten = cs := by
  induction cs with
  | nil => rfl
  | cons c cs ih =>
      rw [readlines]
      split
      · rename_i hc
        rw [List.flatten_cons, ih, hc]
        rfl
      · cases hlines : readlines cs with
        | nil =>
            rw [hlines] at ih
            rw [← ih]
            rfl
        | cons line lines =>
            rw [hlines] at ih
            rw [← ih]
            rfl

/-- A line has a character at least. -/
theorem ne_nil_of_mem_readlines {cs line : List Char} (h : line ∈ readlines cs) : line ≠ [] := by
  induction cs generalizing line with
  | nil => cases h
  | cons c cs ih =>
      rw [readlines] at h
      split at h
      · rcases List.mem_cons.mp h with rfl | h
        · exact List.cons_ne_nil _ _
        · exact ih h
      · cases hlines : readlines cs with
        | nil =>
            rw [hlines] at h
            rw [List.mem_singleton.mp h]
            exact List.cons_ne_nil _ _
        | cons first lines =>
            rw [hlines] at h ih
            rcases List.mem_cons.mp h with rfl | h
            · exact List.cons_ne_nil _ _
            · exact ih (List.mem_cons_of_mem _ h)

/-- The pieces hold the lines, after what was begun. -/
theorem flatten_chunksFrom (partialRule : List Char) (lines : List (List Char)) :
    (chunksFrom partialRule lines).flatten = partialRule ++ lines.flatten := by
  induction lines generalizing partialRule with
  | nil =>
      rw [chunksFrom]
      split
      · simp
      · rename_i hnil
        simp [List.eq_nil_of_length_eq_zero (Nat.eq_zero_of_not_pos hnil)]
  | cons line lines ih =>
      rw [chunksFrom]
      split
      · rw [List.flatten_cons, ih, List.flatten_cons, List.nil_append, List.append_assoc]
      · rw [ih, List.flatten_cons, List.append_assoc]

/-- The header and the pieces hold the text. -/
theorem header_append_chunks (appType text : String) :
    (headerAndLines appType text).1 ++ (chunksFrom [] (headerAndLines appType text).2).flatten =
      text.toList := by
  rw [flatten_chunksFrom, List.nil_append]
  have hlines := flatten_readlines text.toList
  unfold headerAndLines
  cases hread : readlines text.toList with
  | nil =>
      rw [hread] at hlines
      split <;> exact hlines
  | cons line lines =>
      rw [hread] at hlines
      split <;> exact hlines

/-- There is a piece if and only if there is a line to cut. -/
theorem chunksFrom_eq_nil_iff {lines : List (List Char)} (h : ∀ line ∈ lines, line ≠ []) :
    chunksFrom [] lines = [] ↔ lines = [] := by
  constructor
  · intro hchunks
    have hflat := flatten_chunksFrom [] lines
    rw [hchunks, List.nil_append] at hflat
    cases lines with
    | nil => rfl
    | cons line lines =>
        have hline := List.append_eq_nil_iff.mp hflat.symm
        exact absurd hline.1 (h line (List.mem_cons_self ..))
  · rintro rfl
    rfl

/-- Every line but the last ends in a newline. -/
theorem getLast?_of_mem_dropLast_readlines {cs line : List Char}
    (h : line ∈ (readlines cs).dropLast) : line.getLast? = some '\n' := by
  induction cs generalizing line with
  | nil => cases h
  | cons c cs ih =>
      rw [readlines] at h
      split at h
      · cases hlines : readlines cs with
        | nil =>
            rw [hlines] at h
            cases h
        | cons first lines =>
            rw [hlines, List.dropLast_cons_cons] at h
            rw [hlines] at ih
            rcases List.mem_cons.mp h with rfl | h
            · rfl
            · exact ih h
      · cases hlines : readlines cs with
        | nil =>
            rw [hlines] at h
            cases h
        | cons first lines =>
            rw [hlines] at h ih
            cases lines with
            | nil => cases h
            | cons second lines =>
                rw [List.dropLast_cons_cons] at h ih
                rcases List.mem_cons.mp h with rfl | h
                · rw [List.getLast?_cons, ih (List.mem_cons_self ..)]
                  rfl
                · exact ih (List.mem_cons_of_mem _ h)

/-- A part without newlines does not go on after one. -/
theorem infix_append_iff_of_newline {part cs ds : List Char} (hpart : '\n' ∉ part)
    (hcs : cs.getLast? = some '\n') : part <:+: cs ++ ds ↔ part <:+: cs ∨ part <:+: ds := by
  rw [List.infix_append_iff_ne_nil]
  refine or_congr_right (or_iff_left ?_)
  rintro ⟨first, second, hfirst, -, rfl, ⟨before, rfl⟩, -⟩
  -- the newline at the end of the first text would be in the part
  rw [List.getLast?_append, List.getLast?_eq_some_getLast hfirst] at hcs
  refine hpart (List.mem_append_left _ ?_)
  rw [← Option.some.inj hcs]
  exact List.getLast_mem hfirst

/-- A part without newlines is in a chunk if and only if it is in the lines: a chunk ends
    where a line does. -/
theorem exists_infix_chunksFrom_iff {part : List Char} (hne : part ≠ []) (hpart : '\n' ∉ part)
    {lines : List (List Char)} (hlines : ∀ line ∈ lines.dropLast, line.getLast? = some '\n')
    (begun : List Char) :
    (∃ chunk ∈ chunksFrom begun lines, part <:+: chunk) ↔ part <:+: begun ++ lines.flatten := by
  induction lines generalizing begun with
  | nil =>
      rw [chunksFrom, List.flatten_nil, List.append_nil]
      cases begun with
      | nil => simp [hne]
      | cons c begun => simp
  | cons line lines ih =>
      have htail : ∀ line ∈ lines.dropLast, line.getLast? = some '\n' := by
        intro other hmem
        cases lines with
        | nil => cases hmem
        | cons first lines => exact hlines other (List.mem_cons_of_mem _ hmem)
      rw [chunksFrom, List.flatten_cons, ← List.append_assoc]
      split
      · rw [List.exists_mem_cons_iff, ih htail, List.nil_append]
        cases lines with
        | nil => simp [hne]
        | cons first lines =>
            have hend : (begun ++ line).getLast? = some '\n' := by
              rw [List.getLast?_append, hlines line (List.mem_cons_self ..)]
              rfl
            exact (infix_append_iff_of_newline hpart hend).symm
      · exact ih htail _

/-! ## The two paths -/

/-- What is seen of an upload: whether it is accepted, and the `isEnabled` of the rules it
    answers; the calls it made; and the `isEnabled` of the rules that are stored. -/
def observed (r : Except PyError (List (Option RuleDoc)) × World) :
    Except PyError (List (Option (Option Bool))) × Nat × List (Option Bool) :=
  (r.1.map (List.map (Option.map RuleDoc.isEnabled)), r.2.calls,
    (r.2.db .rule).rows.map fun row => row.2.isEnabled)

/-- The pieces of a large file, each as a small file of its own. -/
def chunkFiles (filename appType text : String) (size : Nat) : List RuleFile :=
  (chunkPieces filename appType text false).map fun piece =>
    ⟨piece.name, size, .ok (piece.header ++ piece.content)⟩

/-- The upload of a file on the path of large files is seen as that of its pieces, one after
    the other, on the path of small files. -/
def SeenAsPieces (ruleSet : RuleSetOf) (byPassValidation : Bool) (text : String) : Prop :=
  ∀ (filename : String) (ignoreErrors : Bool) (large small : Nat), chunkSize < large →
    small ≤ chunkSize → ∀ (env : Environment) (w : World),
      observed ((createRuleFromFile ⟨filename, large, .ok text⟩ ruleSet ignoreErrors
          byPassValidation).run (handle env) w) =
        observed (((Program.mapEach (chunkFiles filename ruleSet.appType text small) fun file =>
          createRuleFromFile file ruleSet ignoreErrors byPassValidation).bind fun rules =>
            .done rules.flatten).run (handle env) w)

/-- Whether the validator, asked in this world, accepts the rule. -/
def validates (env : Environment) (appType : String) (w : World) : Bool :=
  match ((validateRule appType).run (handle env) w).1 with
  | .ok outcome => (outcome.getD (false, "")).1
  | .error _ => false

/-- The calls that are made for one rule: those of the validator, and one for its identifier. -/
def afterRule (env : Environment) (appType : String) (w : World) : World :=
  let validated := ((validateRule appType).run (handle env) w).2
  { validated with calls := validated.calls + 1 }

/-- Whether the validator accepts each of so many rules, asked about one after the other. -/
def validatesEach (env : Environment) (appType : String) : Nat → World → Bool
  | 0, _ => true
  | n + 1, w => validates env appType w && validatesEach env appType n (afterRule env appType w)

/-- The identifiers that are drawn from this world on are new ones. -/
structure DrawsNew (env : Environment) (w : World) : Prop where
  unused : ∀ n, w.calls ≤ n → env .uuid4 n ∉ (w.db .rule).rows.map Prod.fst
  distinct : ∀ m n, w.calls ≤ m → m < n → env .uuid4 m ≠ env .uuid4 n

/-- The `isEnabled` of the rules an upload is answered with; an upload without any is answered
    as one that failed. -/
def answered (r : Except PyError (List (Option RuleDoc))) : List (Option (Option Bool)) :=
  match r with
  | .ok rules => rules.map (Option.map RuleDoc.isEnabled)
  | .error _ => []

/-- The upload of a file is accepted on the path of large files if and only if it is on the path
    of small files, where the validator accepts the file if and only if it accepts each of its
    pieces; and the rules of the one are enabled as those of the other are. -/
def AcceptedAlike (ruleSet : RuleSetOf) (byPassValidation : Bool) (text : String) : Prop :=
  ∀ (filename : String) (large small : Nat), chunkSize < large → small ≤ chunkSize →
    ∀ (env : Environment) (w w' : World), DrawsNew env w → DrawsNew env w' →
      validates env ruleSet.appType w = validatesEach env ruleSet.appType
        (chunkPieces filename ruleSet.appType text byPassValidation).length w' →
      let one := answered ((createRuleFromFile ⟨filename, small, .ok text⟩ ruleSet false
        byPassValidation).run (handle env) w).1
      let each := answered ((createRuleFromFile ⟨filename, large, .ok text⟩ ruleSet false
        byPassValidation).run (handle env) w').1
      (one ≠ [] ↔ each ≠ []) ∧ ∀ enabled ∈ one, ∀ enabled' ∈ each, enabled = enabled'

/-- The two paths agree on the contents: as a whole, and piece by piece. -/
structure PathsAgree (ruleSet : RuleSetOf) (byPassValidation : Bool) (text : String) : Prop where
  whole : AcceptedAlike ruleSet byPassValidation text
  pieces : SeenAsPieces ruleSet byPassValidation text

/-- The first piece of a large file. -/
def firstChunk (appType text : String) : Option String :=
  (chunksFrom [] (headerAndLines appType text).2).head?.map String.ofList

theorem createRuleFromFile_large {filename text : String} {large : Nat} (h : chunkSize < large)
    (ruleSet : RuleSetOf) (ignoreErrors byPassValidation : Bool) :
    createRuleFromFile ⟨filename, large, .ok text⟩ ruleSet ignoreErrors byPassValidation =
      Program.mapEach (chunkPieces filename ruleSet.appType text byPassValidation)
        (Piece.create ruleSet ignoreErrors) := by
  have hpieces : RuleFile.pieces ⟨filename, large, .ok text⟩ ruleSet.appType text byPassValidation =
      chunkPieces filename ruleSet.appType text byPassValidation := if_pos h
  rw [createRuleFromFile_eq, ← hpieces]
  rfl

/-- A small file is one piece, which is validated. -/
theorem createRuleFromFile_small {filename text : String} {small : Nat} (h : small ≤ chunkSize)
    (ruleSet : RuleSetOf) (ignoreErrors byPassValidation : Bool) :
    createRuleFromFile ⟨filename, small, .ok text⟩ ruleSet ignoreErrors byPassValidation =
      (Piece.create ruleSet ignoreErrors ⟨filename, text, "", false⟩).bind
        fun rule => .done [rule] := by
  have hpieces : RuleFile.pieces ⟨filename, small, .ok text⟩ ruleSet.appType text byPassValidation =
      [⟨filename, text, "", false⟩] := if_neg (Nat.not_lt.mpr h)
  rw [createRuleFromFile_eq]
  change Program.mapEach (RuleFile.pieces _ _ text _) _ = _
  rw [hpieces]
  rfl

/-- The pieces on the path of small files. -/
theorem mapEach_chunkFiles {filename text : String} {small : Nat} (h : small ≤ chunkSize)
    (ruleSet : RuleSetOf) (ignoreErrors byPassValidation : Bool) :
    ((Program.mapEach (chunkFiles filename ruleSet.appType text small) fun file =>
        createRuleFromFile file ruleSet ignoreErrors byPassValidation).bind fun rules =>
          .done rules.flatten) =
      Program.mapEach (chunkPieces filename ruleSet.appType text false) fun piece =>
        Piece.create ruleSet ignoreErrors
          ⟨piece.name, piece.header ++ piece.content, "", false⟩ := by
  rw [chunkFiles, Program.mapEach_map]
  have hsmall (name content : String) :
      createRuleFromFile ⟨name, small, .ok content⟩ ruleSet ignoreErrors byPassValidation =
        (Piece.create ruleSet ignoreErrors ⟨name, content, "", false⟩).bind
          fun rule => .done [rule] :=
    createRuleFromFile_small h ruleSet ignoreErrors byPassValidation
  simp only [hsmall]
  exact Program.mapEach_singletons _ _

/-- Only an intel file has a header. -/
theorem header_of_mem_chunkPieces {filename appType text : String} {byPassValidation : Bool}
    {piece : Piece} (h : piece ∈ chunkPieces filename appType text byPassValidation)
    (hintel : appType ≠ RuleTypes.zeekIntel) : piece.header = "" := by
  obtain ⟨chunk, -, rfl⟩ := List.mem_map.mp h
  simp [headerAndLines, hintel]

/-- A validated piece with a header is the piece with the header before its content. -/
theorem create_withHeader {filename text : String} {ruleSet : RuleSetOf} {piece : Piece}
    (h : piece ∈ chunkPieces filename ruleSet.appType text false) (ignoreErrors : Bool) :
    Piece.create ruleSet ignoreErrors ⟨piece.name, piece.header ++ piece.content, "", false⟩ =
      Piece.create ruleSet ignoreErrors piece := by
  have hpass : piece.byPassValidation = false := by
    obtain ⟨chunk, -, rfl⟩ := List.mem_map.mp h
    rfl
  by_cases hintel : ruleSet.appType = RuleTypes.zeekIntel
  · have hexec (content : String) : checkZeekExecModule RuleTypes.zeekIntel content = false := rfl
    simp only [Piece.create, createRuleSrvWrapper, hexec, hpass, hintel, String.empty_append,
      Bool.false_eq_true, if_true, if_false]
  · rw [header_of_mem_chunkPieces h hintel]
    simp only [Piece.create, createRuleSrvWrapper, hpass, header_of_mem_chunkPieces h hintel,
      String.empty_append]

theorem mapEach_congr_piece {pieces : List Piece} {f g : Piece → Prog (Option RuleDoc)}
    (h : ∀ piece ∈ pieces, f piece = g piece) :
    Program.mapEach pieces f = Program.mapEach pieces g := by
  induction pieces with
  | nil => rfl
  | cons piece pieces ih =>
      rw [Program.mapEach_cons, Program.mapEach_cons, h piece (List.mem_cons_self ..),
        ih fun piece' hmem => h piece' (List.mem_cons_of_mem _ hmem)]

/-- Rules that are validated are on both paths. -/
theorem seenAsPieces_of_validated (ruleSet : RuleSetOf) (text : String) :
    SeenAsPieces ruleSet false text := by
  intro filename ignoreErrors large small hlarge hsmall env w
  rw [createRuleFromFile_large hlarge, mapEach_chunkFiles hsmall]
  rw [mapEach_congr_piece fun piece hmem => create_withHeader hmem ignoreErrors]

/-- The header that goes with each piece. -/
def fileHeader (appType text : String) : String := String.ofList (headerAndLines appType text).1

theorem fileHeader_of_ne {appType : String} (h : appType ≠ RuleTypes.zeekIntel) (text : String) :
    fileHeader appType text = "" := by
  simp [fileHeader, headerAndLines, h]

theorem chunkPieces_of_none {appType text : String} (h : firstChunk appType text = none)
    (filename : String) (byPassValidation : Bool) :
    chunkPieces filename appType text byPassValidation = [] := by
  simp only [firstChunk, Option.map_eq_none_iff, List.head?_eq_none_iff] at h
  simp [chunkPieces, h]

theorem chunkPieces_of_some {appType text content : String}
    (h : firstChunk appType text = some content) (filename : String) (byPassValidation : Bool) :
    ∃ pieces, chunkPieces filename appType text byPassValidation =
      ⟨getFileName filename 1, content, fileHeader appType text, byPassValidation⟩ :: pieces := by
  unfold firstChunk at h
  cases hchunks : chunksFrom [] (headerAndLines appType text).2 with
  | nil =>
      rw [hchunks] at h
      cases h
  | cons chunk chunks =>
      rw [hchunks] at h
      cases h
      rw [chunkPieces, hchunks]
      exact ⟨_, rfl⟩

/-- If the first piece executes commands, both paths stop at it. -/
theorem seenAsPieces_of_exec {ruleSet : RuleSetOf} {text content : String}
    (hfirst : firstChunk ruleSet.appType text = some content)
    (hexec : checkZeekExecModule ruleSet.appType content = true) (byPassValidation : Bool) :
    SeenAsPieces ruleSet byPassValidation text := by
  intro filename ignoreErrors large small hlarge hsmall env w
  have hscripts : ruleSet.appType ≠ RuleTypes.zeekIntel := by
    intro hintel
    rw [checkZeekExecModule, hintel] at hexec
    exact absurd hexec Bool.false_ne_true
  obtain ⟨pieces, hpieces⟩ := chunkPieces_of_some hfirst filename byPassValidation
  obtain ⟨pieces', hpieces'⟩ := chunkPieces_of_some hfirst filename false
  have hcreate (name header : String) (byPass : Bool) :
      Piece.create ruleSet ignoreErrors ⟨name, content, header, byPass⟩ =
        Program.raise (.prohibitedExecFunc "Exec module prohibited") := by
    rw [Piece.create, createRuleSrvWrapper, if_pos hexec]
  rw [createRuleFromFile_large hlarge, mapEach_chunkFiles hsmall, hpieces, hpieces',
    fileHeader_of_ne hscripts, Program.mapEach_cons, Program.mapEach_cons, String.empty_append,
    hcreate, hcreate]
  rfl

/-- The environment of `steadyEnv`, in which every command fails. -/
def failingCommands : Environment := fun call n =>
  match call with
  | .runCommand _ => .ok ("", 1)
  | call => steadyEnv call n

theorem refuses_failingCommands (appType : String) (w : World) :
    refuses ((validateRule appType).run (handle failingCommands) w).1 = true := by
  unfold validateRule
  split
  · rfl
  split
  · rfl
  split
  · rfl
  split
  · rfl
  · rfl

/-- On the path of small files, the first piece is refused. -/
theorem run_small_failingCommands {ruleSet : RuleSetOf} {text content : String}
    (hfirst : firstChunk ruleSet.appType text = some content) (filename : String) (w : World) :
    ∃ e w', (Program.mapEach (chunkPieces filename ruleSet.appType text false) fun piece =>
        Piece.create ruleSet false ⟨piece.name, piece.header ++ piece.content, "", false⟩).run
          (handle failingCommands) w = (.error e, w') ∧ e.isRejection = true ∧ w'.db = w.db := by
  obtain ⟨pieces, hpieces⟩ := chunkPieces_of_some hfirst filename false
  rw [hpieces, Program.mapEach_cons]
  have hrejected (name content : String) :
      Piece.rejected failingCommands w ruleSet.appType ⟨name, content, "", false⟩ = true := by
    simp [Piece.rejected, refuses_failingCommands]
  obtain ⟨r, w', hrun, ⟨-, hnot, -⟩ | ⟨e, rfl, hdb, he⟩⟩ := run_create failingCommands ruleSet w
    ⟨getFileName filename 1, fileHeader ruleSet.appType text ++ content, "", false⟩
  · rw [hrejected] at hnot
    cases hnot
  · exact ⟨e, w', Program.run_bind_error _ hrun, by rw [he, hrejected], hdb⟩

/-- Where validation is by-passed, a validator that refuses everything tells the paths apart:
    the path of small files still asks it. -/
theorem not_seenAsPieces {ruleSet : RuleSetOf} {text content : String}
    (hfirst : firstChunk ruleSet.appType text = some content)
    (hexec : checkZeekExecModule ruleSet.appType content = false) :
    ¬ SeenAsPieces ruleSet true text := by
  intro hagree
  have hlarge : chunkSize < chunkSize + 1 := Nat.lt_succ_self _
  have hseen := hagree "" false (chunkSize + 1) 0 hlarge (Nat.zero_le _) failingCommands emptyWorld
  obtain ⟨e, v, hrun, he, hdb⟩ := run_small_failingCommands hfirst "" emptyWorld
  rw [mapEach_chunkFiles (Nat.zero_le _), hrun] at hseen
  have hfile : RuleFile.firstRejected failingCommands emptyWorld ruleSet.appType true
      ⟨"", chunkSize + 1, .ok text⟩ = some false := by
    obtain ⟨pieces, hpieces⟩ := chunkPieces_of_some hfirst "" true
    have hcut : RuleFile.pieces ⟨"", chunkSize + 1, .ok text⟩ ruleSet.appType text true = _ :=
      (if_pos hlarge).trans hpieces
    rw [RuleFile.firstRejected]
    dsimp only
    rw [hcut, List.findSome?_cons]
    simp [Piece.rejected, hexec]
  obtain ⟨rows, hends⟩ := uploadEndsWith_createRuleFromFile ruleSet true
    ⟨"", chunkSize + 1, .ok text⟩ emptyWorld
  rw [hfile] at hends
  rcases hlargeRun : (createRuleFromFile ⟨"", chunkSize + 1, .ok text⟩ ruleSet false true).run
    (handle failingCommands) emptyWorld with ⟨e' | rules, v'⟩ <;> rw [hlargeRun] at hseen hends
  · -- the same rejection, but after a rule was stored
    simp only [observed, Except.map, Prod.mk.injEq, Except.error.injEq] at hseen
    obtain ⟨rfl, -, hrows⟩ := hseen
    have hne : rows ≠ [] := by
      rw [ne_eq, (hends.error e' rfl).2 he]
      decide
    rw [hends.adds, hdb, List.map_append] at hrows
    exact hne (List.map_eq_nil_iff.mp (List.append_right_eq_self.mp hrows))
  · simp [observed, Except.map] at hseen

theorem seenAsPieces_iff (ruleSet : RuleSetOf) (byPassValidation : Bool) (text : String) :
    SeenAsPieces ruleSet byPassValidation text ↔
      byPassValidation = false ∨
        ∀ content ∈ firstChunk ruleSet.appType text,
          checkZeekExecModule ruleSet.appType content = true := by
  cases byPassValidation with
  | false => exact ⟨fun _ => .inl rfl, fun _ => seenAsPieces_of_validated ruleSet text⟩
  | true =>
      constructor
      · intro hagree
        refine .inr fun content hfirst => ?_
        rw [← Bool.not_eq_false]
        intro hexec
        exact not_seenAsPieces hfirst hexec hagree
      · rintro (hpass | hexec)
        · cases hpass
        cases hfirst : firstChunk ruleSet.appType text with
        | some content => exact seenAsPieces_of_exec hfirst (hexec content hfirst) true
        | none =>
            intro filename ignoreErrors large small hlarge hsmall env w
            rw [createRuleFromFile_large hlarge, mapEach_chunkFiles hsmall,
              chunkPieces_of_none hfirst, chunkPieces_of_none hfirst]
            rfl

/-! ### Files as a whole -/

def Op.isExternal : Op → Prop
  | .db _ => False
  | .external _ => True

/-- What makes calls only runs alike in worlds that differ in their documents. -/
theorem run_withDb {env : Environment} {α : Type} {p : Prog α} (hp : p.Uses Op.isExternal)
    (w : World) (db : Db) :
    p.run (handle env) { w with db := db } =
      ((p.run (handle env) w).1, { (p.run (handle env) w).2 with db := db }) := by
  induction hp generalizing w with
  | done a => rfl
  | raise e => rfl
  | @call op k hop _ ih =>
      cases op with
      | db op => cases hop
      | external call => exact ih _ { w with calls := w.calls + 1 }

section Whole

variable {env : Environment} {appType : String}

/-- The validator does not read the documents. -/
theorem run_validateRule_withDb (w : World) (db : Db) :
    (validateRule appType).run (handle env) { w with db := db } =
      (((validateRule appType).run (handle env) w).1,
        { ((validateRule appType).run (handle env) w).2 with db := db }) :=
  run_withDb (uses_validateRule (fun _ => trivial) appType) w db

theorem validatesEach_withDb (n : Nat) (w : World) (db : Db) :
    validatesEach env appType n { w with db := db } = validatesEach env appType n w := by
  induction n generalizing w with
  | zero => rfl
  | succ n ih =>
      have hafter : afterRule env appType { w with db := db } =
          { afterRule env appType w with db := db } := by
        rw [afterRule, run_validateRule_withDb]
        rfl
      rw [validatesEach, validatesEach, hafter, ih, validates, run_validateRule_withDb]
      rfl

theorem validatesEach_of_calls {n : Nat} {w v : World} (h : w.calls = v.calls) :
    validatesEach env appType n w = validatesEach env appType n v := by
  have hw : w = { v with db := w.db } := by rw [← h]
  rw [hw, validatesEach_withDb]

theorem calls_le_run {α : Type} (p : Prog α) (w : World) :
    w.calls ≤ (p.run (handle env) w).2.calls := by
  refine (Program.uses_any p).run_invariant (I := fun v => w.calls ≤ v.calls) (handle env) ?_
    (Nat.le_refl _)
  intro op v _ hv
  cases op with
  | db op => exact hv
  | external call => exact Nat.le_succ_of_le hv

/-- Identifiers stay new when one is taken. -/
theorem DrawsNew.step {w v w' : World} {rule : RuleDoc} (h : DrawsNew env w)
    (hle : w.calls ≤ v.calls) (hdb : v.db = w.db) (hcalls : w'.calls = v.calls + 1)
    (hadds : AddsRules v w' [(env .uuid4 v.calls, rule)]) : DrawsNew env w' := by
  refine ⟨?_, ?_⟩
  · intro n hn
    rw [hadds, hdb, List.map_append, List.mem_append, not_or]
    refine ⟨h.unused n (by omega), ?_⟩
    rw [List.map_singleton, List.mem_singleton]
    exact (h.distinct v.calls n hle (by omega)).symm
  · intro m n hm hmn
    exact h.distinct m n (by omega) hmn

variable {ruleSet : RuleSetOf} {piece : Piece} {w : World}

/-- What a piece that is validated does after its check. -/
theorem run_create_of_validated (hpass : piece.byPassValidation = false)
    (hexec : checkZeekExecModule ruleSet.appType piece.content = false)
    (haccepts : validates env ruleSet.appType w = true) (hnew : DrawsNew env w) :
    ∃ doc w', (piece.create ruleSet false).run (handle env) w = (.ok (some doc), w') ∧
      doc.isEnabled = some true ∧ w'.calls = (afterRule env ruleSet.appType w).calls ∧
        DrawsNew env w' := by
  rw [Piece.create, createRuleSrvWrapper, if_neg (by rw [hexec]; exact Bool.false_ne_true),
    if_neg (by rw [hpass]; exact Bool.false_ne_true), Program.bind_eq]
  have hdb : ((validateRule ruleSet.appType).run (handle env) w).2.db = w.db :=
    db_run_of_readsOnly (readsOnly_validateRule ruleSet.appType) w
  have hle : w.calls ≤ ((validateRule ruleSet.appType).run (handle env) w).2.calls :=
    calls_le_run (validateRule ruleSet.appType) w
  rw [afterRule]
  rw [validates] at haccepts
  rcases hvalidate : (validateRule ruleSet.appType).run (handle env) w with ⟨e | outcome, v⟩ <;>
    rw [hvalidate] at haccepts hdb hle
  · cases haccepts
  cases outcome with
  | none => cases haccepts
  | some outcome =>
      have hverdict : outcome.1 = true := haccepts
      have hid : (v.db .rule).get? (env .uuid4 v.calls) = none := by
        rw [hdb]
        exact Table.get?_eq_none_iff.mpr (hnew.unused _ hle)
      rw [Program.run_bind_ok _ hvalidate]
      dsimp only [Option.getD_some]
      rw [if_pos hverdict]
      obtain ⟨w', hrun, hcalls, hadds⟩ := run_createRuleService_of_unused env v hid
      exact ⟨_, w', hrun, rfl, hcalls, hnew.step hle hdb hcalls hadds⟩

theorem run_create_of_not_validates (hpass : piece.byPassValidation = false)
    (haccepts : validates env ruleSet.appType w = false) :
    ∃ e w', (piece.create ruleSet false).run (handle env) w = (.error e, w') := by
  unfold Piece.create createRuleSrvWrapper
  split
  · exact ⟨_, _, rfl⟩
  rw [if_neg (by rw [hpass]; exact Bool.false_ne_true), Program.bind_eq]
  rw [validates] at haccepts
  rcases hvalidate : (validateRule ruleSet.appType).run (handle env) w with ⟨e | outcome, v⟩ <;>
    rw [hvalidate] at haccepts
  · exact ⟨e, v, Program.run_bind_error _ hvalidate⟩
  have hverdict : (outcome.getD (false, "Unsupported rule type.")).1 = false := by
    cases outcome with
    | none => rfl
    | some outcome => exact haccepts
  rw [Program.run_bind_ok _ hvalidate]
  dsimp only
  rw [if_neg (by rw [hverdict]; exact Bool.false_ne_true), if_neg Bool.false_ne_true]
  exact ⟨_, _, rfl⟩

variable {pieces : List Piece}

/-- Pieces that execute no commands are all created if the validator accepts each. -/
theorem run_mapEach_of_validatesEach (hpass : ∀ piece ∈ pieces, piece.byPassValidation = false)
    (hexec : ∀ piece ∈ pieces, checkZeekExecModule ruleSet.appType piece.content = false)
    (haccepts : validatesEach env ruleSet.appType pieces.length w = true) (hnew : DrawsNew env w) :
    ∃ rules w', (Program.mapEach pieces (Piece.create ruleSet false)).run (handle env) w =
        (.ok rules, w') ∧
      rules.map (Option.map RuleDoc.isEnabled) =
        List.replicate pieces.length (some (some true)) := by
  induction pieces generalizing w with
  | nil => exact ⟨[], w, rfl, rfl⟩
  | cons piece pieces ih =>
      rw [List.length_cons, validatesEach, Bool.and_eq_true] at haccepts
      obtain ⟨doc, v, hfirst, henabled, hcalls, hnew'⟩ :=
        run_create_of_validated (hpass piece (List.mem_cons_self ..))
          (hexec piece (List.mem_cons_self ..)) haccepts.1 hnew
      have hrest : validatesEach env ruleSet.appType pieces.length v = true := by
        rw [validatesEach_of_calls hcalls]
        exact haccepts.2
      obtain ⟨rules, w', hrun, hrules⟩ := ih
        (fun other hmem => hpass other (List.mem_cons_of_mem _ hmem))
        (fun other hmem => hexec other (List.mem_cons_of_mem _ hmem)) hrest hnew'
      refine ⟨some doc :: rules, w', ?_, ?_⟩
      · rw [Program.mapEach_cons, Program.run_bind_ok _ hfirst, Program.run_bind_ok _ hrun,
          Program.run_done]
      · rw [List.map_cons, hrules, Option.map_some, henabled]
        rfl

theorem run_mapEach_of_not_validatesEach
    (hpass : ∀ piece ∈ pieces, piece.byPassValidation = false)
    (hexec : ∀ piece ∈ pieces, checkZeekExecModule ruleSet.appType piece.content = false)
    (haccepts : validatesEach env ruleSet.appType pieces.length w = false)
    (hnew : DrawsNew env w) :
    ∃ e w', (Program.mapEach pieces (Piece.create ruleSet false)).run (handle env) w =
      (.error e, w') := by
  induction pieces generalizing w with
  | nil => cases haccepts
  | cons piece pieces ih =>
      rw [List.length_cons, validatesEach] at haccepts
      have hpiece := hpass piece (List.mem_cons_self ..)
      cases hverdict : validates env ruleSet.appType w with
      | false =>
          obtain ⟨e, v, hfirst⟩ := run_create_of_not_validates hpiece hverdict
          exact ⟨e, v, by rw [Program.mapEach_cons, Program.run_bind_error _ hfirst]⟩
      | true =>
          obtain ⟨doc, v, hfirst, -, hcalls, hnew'⟩ :=
            run_create_of_validated hpiece (hexec piece (List.mem_cons_self ..)) hverdict hnew
          rw [hverdict, Bool.true_and, ← validatesEach_of_calls hcalls] at haccepts
          obtain ⟨e, w', hrun⟩ := ih
            (fun other hmem => hpass other (List.mem_cons_of_mem _ hmem))
            (fun other hmem => hexec other (List.mem_cons_of_mem _ hmem)) haccepts hnew'
          exact ⟨e, w', by
            rw [Program.mapEach_cons, Program.run_bind_ok _ hfirst,
              Program.run_bind_error _ hrun]⟩

/-- Of pieces that are all created, none executes commands. -/
theorem exec_of_created {rules : List (Option RuleDoc)} {w' : World}
    (h : (Program.mapEach pieces (Piece.create ruleSet false)).run (handle env) w =
      (.ok rules, w')) :
    ∀ piece ∈ pieces, checkZeekExecModule ruleSet.appType piece.content = false := by
  induction pieces generalizing w w' rules with
  | nil => simp
  | cons piece pieces ih =>
      obtain ⟨rule, v, hpiece, hrest⟩ := Program.exists_of_run_bind _ h
      obtain ⟨rules', v', hpieces, -⟩ := Program.exists_of_run_bind _ hrest
      refine List.forall_mem_cons.mpr ⟨?_, ih hpieces⟩
      obtain ⟨r, u, hrun, ⟨-, hnot, -⟩ | ⟨e, rfl, -⟩⟩ := run_create env ruleSet w piece
      · exact (Bool.or_eq_false_iff.mp hnot).1
      · rw [hpiece] at hrun
        cases hrun

/-- What an upload of pieces is answered with. -/
theorem answered_mapEach_of_exec
    (hexec : ∃ piece ∈ pieces, checkZeekExecModule ruleSet.appType piece.content = true) :
    answered ((Program.mapEach pieces (Piece.create ruleSet false)).run (handle env) w).1 = [] := by
  rcases hrun : (Program.mapEach pieces (Piece.create ruleSet false)).run (handle env) w with
    ⟨e | rules, w'⟩
  · rfl
  · obtain ⟨piece, hmem, hpiece⟩ := hexec
    rw [exec_of_created hrun piece hmem] at hpiece
    cases hpiece

theorem answered_mapEach (hpass : ∀ piece ∈ pieces, piece.byPassValidation = false)
    (hexec : ∀ piece ∈ pieces, checkZeekExecModule ruleSet.appType piece.content = false)
    (hnew : DrawsNew env w) :
    answered ((Program.mapEach pieces (Piece.create ruleSet false)).run (handle env) w).1 =
      if validatesEach env ruleSet.appType pieces.length w then
        List.replicate pieces.length (some (some true)) else [] := by
  cases haccepts : validatesEach env ruleSet.appType pieces.length w with
  | true =>
      obtain ⟨rules, w', hrun, hrules⟩ := run_mapEach_of_validatesEach hpass hexec haccepts hnew
      rw [hrun]
      exact hrules
  | false =>
      obtain ⟨e, w', hrun⟩ := run_mapEach_of_not_validatesEach hpass hexec haccepts hnew
      rw [hrun]
      rfl

end Whole

/-- A script executes commands if and only if one of its pieces does. -/
theorem exec_iff_pieces (filename appType text : String) (byPassValidation : Bool) :
    checkZeekExecModule appType text = true ↔
      ∃ piece ∈ chunkPieces filename appType text byPassValidation,
        checkZeekExecModule appType piece.content = true := by
  by_cases hscripts : appType = RuleTypes.zeekScripts
  swap
  · simp [checkZeekExecModule, hscripts]
  have hcut : (headerAndLines appType text).2 = readlines text.toList := by
    rw [hscripts]
    rfl
  have hcontents : (chunkPieces filename appType text byPassValidation).map Piece.content =
      (chunksFrom [] (readlines text.toList)).map String.ofList := by
    rw [chunkPieces, List.map_map, hcut]
    conv_rhs => rw [← List.zipIdx_map_fst 1 (chunksFrom [] (readlines text.toList)), List.map_map]
    rfl
  have hexec (content : String) : checkZeekExecModule appType content = true ↔
      "Exec::".toList <:+: content.toList := by
    rw [checkZeekExecModule, hscripts, ← hasSubstring_iff]
    simp
  have hchunks : (∃ chunk ∈ chunksFrom [] (readlines text.toList), "Exec::".toList <:+: chunk) ↔
      "Exec::".toList <:+: [] ++ (readlines text.toList).flatten :=
    exists_infix_chunksFrom_iff (by decide) (by decide)
      (fun _ => getLast?_of_mem_dropLast_readlines) []
  rw [List.nil_append, flatten_readlines] at hchunks
  rw [hexec, ← hchunks]
  constructor
  · rintro ⟨chunk, hmem, hchunk⟩
    have hpiece : String.ofList chunk ∈
        (chunkPieces filename appType text byPassValidation).map Piece.content := by
      rw [hcontents]
      exact List.mem_map_of_mem hmem
    obtain ⟨piece, hmem, heq⟩ := List.mem_map.mp hpiece
    refine ⟨piece, hmem, (hexec _).mpr ?_⟩
    have htext : piece.content.toList = chunk := by rw [heq, String.toList_ofList]
    rwa [htext]
  · rintro ⟨piece, hmem, hpiece⟩
    have hmem' := List.mem_map_of_mem (f := Piece.content) hmem
    rw [hcontents] at hmem'
    obtain ⟨chunk, hchunk, heq⟩ := List.mem_map.mp hmem'
    have htext : piece.content.toList = chunk := by rw [← heq, String.toList_ofList]
    rw [hexec, htext] at hpiece
    exact ⟨chunk, hchunk, hpiece⟩

theorem byPassValidation_of_mem_chunkPieces {filename appType text : String}
    {byPassValidation : Bool} {piece : Piece}
    (h : piece ∈ chunkPieces filename appType text byPassValidation) :
    piece.byPassValidation = byPassValidation := by
  obtain ⟨chunk, -, rfl⟩ := List.mem_map.mp h
  rfl

theorem chunkPieces_eq_nil_iff {filename appType text : String} {byPassValidation : Bool} :
    chunkPieces filename appType text byPassValidation = [] ↔ firstChunk appType text = none := by
  constructor
  · intro h
    cases hfirst : firstChunk appType text with
    | none => rfl
    | some content =>
        obtain ⟨pieces, hpieces⟩ := chunkPieces_of_some hfirst filename byPassValidation
        rw [h] at hpieces
        cases hpieces
  · exact fun h => chunkPieces_of_none h filename byPassValidation

section Alike

variable {ruleSet : RuleSetOf} {text : String}

/-- A small file is answered as the one piece it is. -/
theorem answered_small {filename : String} {small : Nat} (h : small ≤ chunkSize)
    (byPassValidation : Bool) (env : Environment) (w : World) :
    answered ((createRuleFromFile ⟨filename, small, .ok text⟩ ruleSet false byPassValidation).run
        (handle env) w).1 =
      answered ((Program.mapEach [⟨filename, text, "", false⟩]
        (Piece.create ruleSet false)).run (handle env) w).1 := by
  rw [createRuleFromFile_small h]
  rfl

/-- A script that executes commands is accepted on neither path. -/
theorem acceptedAlike_of_exec (h : checkZeekExecModule ruleSet.appType text = true)
    (byPassValidation : Bool) : AcceptedAlike ruleSet byPassValidation text := by
  intro filename large small hlarge hsmall env w w' _ _ _
  dsimp only
  rw [answered_small hsmall, createRuleFromFile_large hlarge,
    answered_mapEach_of_exec ⟨_, List.mem_singleton_self _, h⟩,
    answered_mapEach_of_exec ((exec_iff_pieces filename _ _ _).mp h)]
  simp

/-- A type without a validator is accepted of no file. -/
theorem validates_of_notMem (h : ruleSet.appType ∉ ruleTypes) (env : Environment) (w : World) :
    validates env ruleSet.appType w = false := by
  simp only [ruleTypes, List.mem_cons, List.not_mem_nil, or_false, not_or] at h
  obtain ⟨hsuricata, hscripts, hintel, hsignatures⟩ := h
  rw [validates, validateRule, if_neg hsuricata, if_neg hscripts, if_neg hintel, if_neg hsignatures]
  rfl

/-- Files that are validated are accepted alike if there is a piece. -/
theorem acceptedAlike_of_validated
    (h : firstChunk ruleSet.appType text ≠ none ∨ ruleSet.appType ∉ ruleTypes) :
    AcceptedAlike ruleSet false text := by
  cases hexec : checkZeekExecModule ruleSet.appType text with
  | true => exact acceptedAlike_of_exec hexec false
  | false =>
      intro filename large small hlarge hsmall env w w' hnew hnew' haccepts
      have hpieces : ∀ piece ∈ chunkPieces filename ruleSet.appType text false,
          checkZeekExecModule ruleSet.appType piece.content = false := by
        intro piece hmem
        rw [← Bool.not_eq_true]
        intro hpiece
        rw [(exec_iff_pieces filename _ _ _).mpr ⟨piece, hmem, hpiece⟩] at hexec
        cases hexec
      have hone : ∀ piece ∈ [(⟨filename, text, "", false⟩ : Piece)],
          piece.byPassValidation = false ∧
            checkZeekExecModule ruleSet.appType piece.content = false := by
        intro piece hmem
        rw [List.mem_singleton.mp hmem]
        exact ⟨rfl, hexec⟩
      dsimp only
      rw [answered_small hsmall, createRuleFromFile_large hlarge,
        answered_mapEach (fun piece hmem => (hone piece hmem).1)
          (fun piece hmem => (hone piece hmem).2) hnew,
        answered_mapEach (fun _ => byPassValidation_of_mem_chunkPieces) hpieces hnew', ← haccepts]
      have hverdict : validatesEach env ruleSet.appType
          [(⟨filename, text, "", false⟩ : Piece)].length w = validates env ruleSet.appType w := by
        simp [validatesEach]
      rw [hverdict]
      cases haccept : validates env ruleSet.appType w with
      | false => simp
      | true =>
          have hne : chunkPieces filename ruleSet.appType text false ≠ [] := by
            rw [ne_eq, chunkPieces_eq_nil_iff]
            rcases h with hfirst | htype
            · exact hfirst
            · rw [validates_of_notMem htype] at haccept
              cases haccept
          simp [hne]

/-- Without a piece and without a validator, a file is accepted on neither path. -/
theorem acceptedAlike_of_none (hfirst : firstChunk ruleSet.appType text = none)
    (htype : ruleSet.appType ∉ ruleTypes) (byPassValidation : Bool) :
    AcceptedAlike ruleSet byPassValidation text := by
  intro filename large small _ _ env w w' _ _ haccepts
  rw [chunkPieces_of_none hfirst, validates_of_notMem htype] at haccepts
  cases haccepts

/-- The environment of `steadyEnv`, with identifiers that differ. -/
def numberedEnv : Environment := fun call n =>
  match call with
  | .uuid4 => String.ofList (List.replicate n 'f')
  | call => steadyEnv call n

theorem drawsNew_numberedEnv : DrawsNew numberedEnv emptyWorld := by
  refine ⟨fun n _ => List.not_mem_nil, ?_⟩
  intro m n _ hmn heq
  have hlength : (String.ofList (List.replicate m 'f')).toList.length =
      (String.ofList (List.replicate n 'f')).toList.length := by
    rw [show String.ofList (List.replicate m 'f') = String.ofList (List.replicate n 'f') from heq]
  simp only [String.toList_ofList, List.length_replicate] at hlength
  omega

theorem validates_numberedEnv (h : ruleSet.appType ∈ ruleTypes) :
    validates numberedEnv ruleSet.appType emptyWorld = true := by
  simp only [ruleTypes, List.mem_cons, List.not_mem_nil, or_false] at h
  rcases h with h | h | h | h <;> rw [h] <;> rfl

/-- A file without pieces is accepted on the path of small files alone. -/
theorem not_acceptedAlike (hfirst : firstChunk ruleSet.appType text = none)
    (htype : ruleSet.appType ∈ ruleTypes) (byPassValidation : Bool) :
    ¬ AcceptedAlike ruleSet byPassValidation text := by
  intro halike
  have hexec : checkZeekExecModule ruleSet.appType text = false := by
    rw [← Bool.not_eq_true, exec_iff_pieces "" _ _ byPassValidation, chunkPieces_of_none hfirst]
    simp
  have hlarge : chunkSize < chunkSize + 1 := Nat.lt_succ_self _
  have hnil := chunkPieces_of_none hfirst "" byPassValidation
  have haccepts := validates_numberedEnv htype
  have hverdict : validates numberedEnv ruleSet.appType emptyWorld = validatesEach numberedEnv
      ruleSet.appType (chunkPieces "" ruleSet.appType text byPassValidation).length
        emptyWorld := by
    rw [hnil, haccepts]
    rfl
  have hiff := (halike "" (chunkSize + 1) 0 hlarge (Nat.zero_le _) numberedEnv emptyWorld emptyWorld
    drawsNew_numberedEnv drawsNew_numberedEnv hverdict).1
  rw [answered_small (Nat.zero_le _), createRuleFromFile_large hlarge, hnil,
    answered_mapEach (by simp) (by simpa using hexec) drawsNew_numberedEnv] at hiff
  simp [validatesEach, haccepts, answered] at hiff

end Alike

/-- The paths agree if and only if validation is not by-passed, or the first piece executes
    commands; and there is a piece, or no validator for the rules. -/
theorem pathsAgree_iff (ruleSet : RuleSetOf) (byPassValidation : Bool) (text : String) :
    PathsAgree ruleSet byPassValidation text ↔
      (byPassValidation = false ∨ ∀ content ∈ firstChunk ruleSet.appType text,
        checkZeekExecModule ruleSet.appType content = true) ∧
      (firstChunk ruleSet.appType text ≠ none ∨ ruleSet.appType ∉ ruleTypes) := by
  constructor
  · rintro ⟨whole, pieces⟩
    refine ⟨(seenAsPieces_iff _ _ _).mp pieces, ?_⟩
    by_contra hnot
    rw [not_or, not_not, not_not] at hnot
    exact not_acceptedAlike hnot.1 hnot.2 byPassValidation whole
  · rintro ⟨hpieces, hwhole⟩
    refine ⟨?_, (seenAsPieces_iff _ _ _).mpr hpieces⟩
    cases byPassValidation with
    | false => exact acceptedAlike_of_validated hwhole
    | true =>
        have hexec := hpieces.resolve_left (by decide)
        cases hfirst : firstChunk ruleSet.appType text with
        | none =>
            have htype := hwhole.resolve_left fun hne => hne hfirst
            exact acceptedAlike_of_none hfirst htype true
        | some content =>
            obtain ⟨pieces, hcut⟩ := chunkPieces_of_some hfirst "" true
            refine acceptedAlike_of_exec ((exec_iff_pieces "" _ _ true).mpr ?_) true
            rw [hcut]
            exact ⟨_, List.mem_cons_self .., hexec content hfirst⟩

/-! ## The content of a large file -/

/-- Take the header line away from a piece that begins with it. -/
def removeHeader (header content : List Char) : List Char :=
  if header.isPrefixOf content then content.drop header.length else content

/-- The pieces one after the other, the header of the first alone. -/
def withoutHeaders (header : List Char) : List (List Char) → List Char
  | [] => []
  | first :: contents => first ++ (contents.map (removeHeader header)).flatten

/-- The contents hold the text, and each of an intel file begins with its header. -/
def LosesNothing (appType text : String) (contents : List String) : Prop :=
  withoutHeaders (headerAndLines appType text).1 (contents.map String.toList) = text.toList ∧
    (appType = RuleTypes.zeekIntel →
      ∀ content ∈ contents, (headerAndLines appType text).1 <+: content.toList)

/-- The contents of the rules of the second world that come after those of the first. -/
def storedContents (w w' : World) : List String :=
  ((w'.db .rule).rows.drop (w.db .rule).rows.length).filterMap fun row => row.2.rule

/-- Of pieces that are all created, the rules are stored in order. -/
theorem addsRules_of_created {env : Environment} {ruleSet : RuleSetOf} {pieces : List Piece}
    {w w' : World} {rules : List (Option RuleDoc)}
    (h : (Program.mapEach pieces (Piece.create ruleSet false)).run (handle env) w =
      (.ok rules, w')) :
    ∃ rows, AddsRules w w' rows ∧ rows.map Prod.snd = pieces.map (Piece.rule ruleSet) := by
  induction pieces generalizing w rules with
  | nil =>
      cases h
      exact ⟨[], .refl _, rfl⟩
  | cons piece pieces ih =>
      obtain ⟨rule, v, hpiece, hrest⟩ := Program.exists_of_run_bind _ h
      obtain ⟨rules', v', hpieces, hdone⟩ := Program.exists_of_run_bind _ hrest
      cases hdone
      obtain ⟨rows, hadds, hrows⟩ := ih hpieces
      obtain ⟨r, u, hrun, hends⟩ := run_create env ruleSet w piece
      rw [hpiece] at hrun
      cases hrun
      rcases hends with ⟨-, -, id, hadd⟩ | ⟨e, he, -⟩
      · exact ⟨_, hadd.trans hadds, by simp [hrows]⟩
      · cases he

theorem storedContents_of_created {env : Environment} {ruleSet : RuleSetOf} {pieces : List Piece}
    {w w' : World} {rules : List (Option RuleDoc)}
    (h : (Program.mapEach pieces (Piece.create ruleSet false)).run (handle env) w =
      (.ok rules, w')) :
    storedContents w w' = pieces.map (Piece.stored ruleSet.appType) := by
  obtain ⟨rows, hadds, hrows⟩ := addsRules_of_created h
  have hrules : rows.filterMap (fun row => row.2.rule) =
      (rows.map Prod.snd).filterMap RuleDoc.rule := by
    rw [List.filterMap_map]
    rfl
  rw [storedContents, hadds, List.drop_left, hrules, hrows, List.filterMap_map]
  exact congrFun List.filterMap_eq_map pieces

/-- What is stored of the pieces of a large file. -/
theorem map_stored_chunkPieces (filename appType text : String) (byPassValidation : Bool) :
    (chunkPieces filename appType text byPassValidation).map
        (fun piece => (piece.stored appType).toList) =
      (chunksFrom [] (headerAndLines appType text).2).map fun chunk =>
        if appType = RuleTypes.zeekIntel ∧ byPassValidation = false then
          (headerAndLines appType text).1 ++ chunk
        else chunk := by
  rw [chunkPieces, List.map_map]
  conv_rhs => rw [← List.zipIdx_map_fst 1 (chunksFrom [] (headerAndLines appType text).2),
    List.map_map]
  refine List.map_congr_left fun chunk _ => ?_
  simp only [Function.comp_apply, Piece.stored]
  split <;> simp

theorem removeHeader_append (header content : List Char) :
    removeHeader header (header ++ content) = content := by
  rw [removeHeader, if_pos (List.isPrefixOf_iff_prefix.mpr (List.prefix_append _ _)),
    List.drop_left]

/-- Without a header, nothing is taken away. -/
theorem withoutHeaders_nil (contents : List (List Char)) :
    withoutHeaders [] contents = contents.flatten := by
  cases contents with
  | nil => rfl
  | cons first contents =>
      have hid : contents.map (removeHeader []) = contents := by
        conv_rhs => rw [← List.map_id contents]
        exact List.map_congr_left fun content _ => removeHeader_append [] content
      rw [withoutHeaders, hid, List.flatten_cons]

/-- Pieces that begin with the header are those without it, after it. -/
theorem withoutHeaders_map_append {header : List Char} {chunks : List (List Char)}
    (h : chunks ≠ []) :
    withoutHeaders header (chunks.map (header ++ ·)) = header ++ chunks.flatten := by
  cases chunks with
  | nil => exact absurd rfl h
  | cons chunk chunks =>
      rw [List.map_cons, withoutHeaders, List.map_map]
      have hid : chunks.map (removeHeader header ∘ (header ++ ·)) = chunks := by
        conv_rhs => rw [← List.map_id chunks]
        exact List.map_congr_left fun content _ => removeHeader_append header content
      rw [hid, List.flatten_cons, List.append_assoc]

theorem length_withoutHeaders_le (header : List Char) (contents : List (List Char)) :
    (withoutHeaders header contents).length ≤ contents.flatten.length := by
  cases contents with
  | nil => exact Nat.le_refl _
  | cons first contents =>
      have hrest : (contents.map (removeHeader header)).flatten.length ≤
          contents.flatten.length := by
        induction contents with
        | nil => exact Nat.le_refl _
        | cons content contents ih =>
            have hone : (removeHeader header content).length ≤ content.length := by
              unfold removeHeader
              split
              · rw [List.length_drop]
                exact Nat.sub_le _ _
              · exact Nat.le_refl _
            simp only [List.map_cons, List.flatten_cons, List.length_append]
            omega
      simp only [withoutHeaders, List.flatten_cons, List.length_append]
      omega

/-- The header of an intel file is a line of it. -/
theorem header_ne_nil {text : String} (h : text ≠ "") :
    (headerAndLines RuleTypes.zeekIntel text).1 ≠ [] := by
  have hlines := flatten_readlines text.toList
  have hne : text.toList ≠ [] := fun hnil => h (String.toList_eq_nil_iff.mp hnil)
  rw [headerAndLines, if_pos rfl]
  cases hread : readlines text.toList with
  | nil =>
      rw [hread] at hlines
      exact absurd hlines.symm hne
  | cons line lines =>
      have hmem : line ∈ readlines text.toList := by
        rw [hread]
        exact List.mem_cons_self ..
      exact ne_nil_of_mem_readlines hmem

section Contents

variable {appType text : String} {contents : List String}

theorem losesNothing_of_ne (hintel : appType ≠ RuleTypes.zeekIntel)
    (h : contents.map String.toList = chunksFrom [] (headerAndLines appType text).2) :
    LosesNothing appType text contents := by
  have hheader : (headerAndLines appType text).1 = [] := by rw [headerAndLines, if_neg hintel]
  have htext := header_append_chunks appType text
  refine ⟨?_, fun h => absurd h hintel⟩
  rw [h, hheader, withoutHeaders_nil, ← htext, hheader]
  rfl

/-- An empty file has no pieces. -/
theorem losesNothing_empty (h : contents.map String.toList = []) :
    LosesNothing appType "" contents := by
  have hnil : contents = [] := List.map_eq_nil_iff.mp h
  subst hnil
  exact ⟨rfl, fun _ content hmem => by cases hmem⟩

/-- Each piece of a validated intel file begins with the header. -/
theorem losesNothing_of_headers
    (h : contents.map String.toList = (chunksFrom [] (headerAndLines appType text).2).map
      ((headerAndLines appType text).1 ++ ·))
    (hchunks : chunksFrom [] (headerAndLines appType text).2 ≠ []) :
    LosesNothing appType text contents := by
  refine ⟨?_, ?_⟩
  · rw [h, withoutHeaders_map_append hchunks, header_append_chunks]
  · intro _ content hmem
    have hmap : content.toList ∈ contents.map String.toList := List.mem_map_of_mem hmem
    rw [h] at hmap
    obtain ⟨chunk, -, hchunk⟩ := List.mem_map.mp hmap
    exact ⟨chunk, hchunk⟩

/-- Without its header, an intel file lacks a line. -/
theorem not_losesNothing_of_chunks (htext : text ≠ "")
    (h : contents.map String.toList = chunksFrom [] (headerAndLines RuleTypes.zeekIntel text).2) :
    ¬ LosesNothing RuleTypes.zeekIntel text contents := by
  rintro ⟨hcontents, -⟩
  have hle := length_withoutHeaders_le (headerAndLines RuleTypes.zeekIntel text).1
    (contents.map String.toList)
  rw [hcontents, h, ← header_append_chunks RuleTypes.zeekIntel text, List.length_append] at hle
  have hpos := List.length_pos_iff.mpr (header_ne_nil htext)
  omega

end Contents

/-- The pieces of a large file lose nothing if and only if the file is empty, or it is no intel
    file, or it is one that is validated and has a line after its header. -/
theorem losesNothing_chunks_iff {appType text : String} {byPassValidation : Bool}
    {contents : List String}
    (hcontents : contents.map String.toList = (chunksFrom [] (headerAndLines appType text).2).map
      fun chunk => if appType = RuleTypes.zeekIntel ∧ byPassValidation = false then
        (headerAndLines appType text).1 ++ chunk else chunk) :
    LosesNothing appType text contents ↔
      text = "" ∨ appType ≠ RuleTypes.zeekIntel ∨
        byPassValidation = false ∧ (readlines text.toList).tail ≠ [] := by
  by_cases hintel : appType = RuleTypes.zeekIntel
  swap
  · have hplain : contents.map String.toList = chunksFrom [] (headerAndLines appType text).2 := by
      simpa [hintel] using hcontents
    exact ⟨fun _ => .inr (.inl hintel), fun _ => losesNothing_of_ne hintel hplain⟩
  subst hintel
  by_cases htext : text = ""
  · subst htext
    exact ⟨fun _ => .inl rfl, fun _ => losesNothing_empty hcontents⟩
  cases byPassValidation with
  | true =>
      have hplain : contents.map String.toList =
          chunksFrom [] (headerAndLines RuleTypes.zeekIntel text).2 := by
        simpa using hcontents
      simp [htext, not_losesNothing_of_chunks htext hplain]
  | false =>
      have hheaders : contents.map String.toList =
          (chunksFrom [] (headerAndLines RuleTypes.zeekIntel text).2).map
            ((headerAndLines RuleTypes.zeekIntel text).1 ++ ·) := by
        simpa using hcontents
      have hlines : ∀ line ∈ (readlines text.toList).tail, line ≠ [] := fun line hmem =>
        ne_nil_of_mem_readlines (List.mem_of_mem_tail hmem)
      have htail := chunksFrom_eq_nil_iff hlines
      constructor
      · rintro ⟨hall, -⟩
        refine .inr (.inr ⟨rfl, fun hnil => ?_⟩)
        -- without a piece, nothing of the file is stored
        rw [hheaders, headerAndLines, if_pos rfl, htail.mpr hnil] at hall
        exact htext (String.toList_eq_nil_iff.mp hall.symm)
      · rintro (h | h | ⟨-, hne⟩)
        · exact absurd h htext
        · exact absurd rfl h
        · exact losesNothing_of_headers hheaders fun hnil => hne (htail.mp hnil)

/-- Of a large file whose rules are all created, the contents of the rules are the file if and
    only if the file is empty, or it is no intel file, or it is one that is validated and has a
    line after its header. -/
theorem largeUpload_losesNothing_iff {env : Environment} {filename text : String} {size : Nat}
    {ruleSet : RuleSetOf} {byPassValidation : Bool} {w w' : World} {rules : List (Option RuleDoc)}
    (hsize : chunkSize < size)
    (hrun : (createRuleFromFile ⟨filename, size, .ok text⟩ ruleSet false byPassValidation).run
      (handle env) w = (.ok rules, w')) :
    LosesNothing ruleSet.appType text (storedContents w w') ↔
      text = "" ∨ ruleSet.appType ≠ RuleTypes.zeekIntel ∨
        byPassValidation = false ∧ (readlines text.toList).tail ≠ [] := by
  rw [createRuleFromFile_large hsize] at hrun
  refine losesNothing_chunks_iff ?_
  rw [storedContents_of_created hrun, List.map_map]
  exact map_stored_chunkPieces filename ruleSet.appType text byPassValidation

/-! ### Large files -/

theorem readlines_replicate {n : Nat} (h : 0 < n) :
    readlines (List.replicate n 'a') = [List.replicate n 'a'] := by
  induction n with
  | zero => exact absurd h (Nat.lt_irrefl 0)
  | succ n ih =>
      rw [List.replicate_succ, readlines, if_neg (by decide)]
      cases n with
      | zero => rfl
      | succ n => rw [ih (Nat.succ_pos n)]

theorem chunksFrom_line {line : List Char} (h : chunkSize ≤ line.length) :
    chunksFrom [] [line] = [line] := by
  rw [chunksFrom, List.nil_append, if_pos h]
  rfl

/-- A line that makes the file a large one. -/
def longLine : List Char := List.replicate (chunkSize + 1) 'a'

theorem readlines_longLine : readlines longLine = [longLine] :=
  readlines_replicate (Nat.succ_pos chunkSize)

theorem chunksFrom_longLine : chunksFrom [] [longLine] = [longLine] := by
  refine chunksFrom_line ?_
  rw [longLine, List.length_replicate]
  exact Nat.le_succ _

/-- A file of one line, and an intel file of a header and one line. -/
def longFile : String := String.ofList longLine
def headerLine : List Char := ['#', 'f', 'i', 'e', 'l', 'd', 's', '\n']
def longIntelFile : String := String.ofList (headerLine ++ longLine)

theorem headerAndLines_longFile :
    headerAndLines RuleTypes.suricata longFile = ([], [longLine]) := by
  have hlines : readlines longFile.toList = [longLine] := by
    rw [longFile, String.toList_ofList, readlines_longLine]
  rw [headerAndLines, hlines]
  rfl

theorem headerAndLines_longIntelFile :
    headerAndLines RuleTypes.zeekIntel longIntelFile = (headerLine, [longLine]) := by
  have hheader (rest : List Char) :
      readlines (headerLine ++ rest) = headerLine :: readlines rest := rfl
  have hlines : readlines longIntelFile.toList = [headerLine, longLine] := by
    rw [longIntelFile, String.toList_ofList, hheader, readlines_longLine]
  rw [headerAndLines, hlines]
  rfl

def intelRules : RuleSetOf := ⟨"s1", RuleTypes.zeekIntel⟩

/-- The upload of the intel file is accepted, whether it is validated or not. -/
theorem run_longIntelFile (byPassValidation : Bool) :
    ∃ rules w', (createRuleFromFile ⟨"intel.txt", chunkSize + 9, .ok longIntelFile⟩ intelRules false
      byPassValidation).run (handle steadyEnv) emptyWorld = (.ok rules, w') := by
  have hsize : chunkSize < chunkSize + 9 := by decide
  have hpieces (byPass : Bool) :
      chunkPieces "intel.txt" intelRules.appType longIntelFile byPass =
        [⟨getFileName "intel.txt" 1, String.ofList longLine, String.ofList headerLine,
          byPass⟩] := by
    have hcut : headerAndLines intelRules.appType longIntelFile = _ := headerAndLines_longIntelFile
    rw [chunkPieces, hcut, chunksFrom_longLine]
    rfl
  rw [createRuleFromFile_large hsize, hpieces]
  generalize getFileName "intel.txt" 1 = name
  generalize longLine = line
  cases byPassValidation with
  | false => exact ⟨_, _, rfl⟩
  | true => exact ⟨_, _, rfl⟩

theorem losesNothing_longIntelFile :
    ∃ rules w', (createRuleFromFile ⟨"intel.txt", chunkSize + 9, .ok longIntelFile⟩ intelRules false
        false).run (handle steadyEnv) emptyWorld = (.ok rules, w') ∧
      (LosesNothing intelRules.appType longIntelFile (storedContents emptyWorld w') ↔
        longIntelFile = "" ∨ intelRules.appType ≠ RuleTypes.zeekIntel ∨
          false = false ∧ (readlines longIntelFile.toList).tail ≠ []) := by
  obtain ⟨rules, w', hrun⟩ := run_longIntelFile false
  have hsize : chunkSize < chunkSize + 9 := by decide
  have hiff := largeUpload_losesNothing_iff hsize hrun
  exact ⟨rules, w', hrun, hiff⟩

/-- By-passed, the intel file is stored without its header. -/
theorem not_largeUpload_losesNothing : ¬ ∀ (env : Environment) (filename text : String) (size : Nat)
    (ruleSet : RuleSetOf) (byPassValidation : Bool) (w w' : World) (rules : List (Option RuleDoc)),
    chunkSize < size →
    (createRuleFromFile ⟨filename, size, .ok text⟩ ruleSet false byPassValidation).run
        (handle env) w = (.ok rules, w') →
      LosesNothing ruleSet.appType text (storedContents w w') := by
  intro h
  obtain ⟨rules, w', hrun⟩ := run_longIntelFile true
  have hsize : chunkSize < chunkSize + 9 := by decide
  have hall := h steadyEnv "intel.txt" longIntelFile _ intelRules true emptyWorld w' rules hsize
      hrun
  have hne : longIntelFile ≠ "" := by
    rw [longIntelFile, ne_eq, String.ofList_eq_empty_iff]
    exact List.cons_ne_nil _ _
  have hcontents : (storedContents emptyWorld w').map String.toList =
      chunksFrom [] (headerAndLines RuleTypes.zeekIntel longIntelFile).2 := by
    rw [createRuleFromFile_large hsize] at hrun
    rw [storedContents_of_created hrun, List.map_map]
    have hstored := map_stored_chunkPieces "intel.txt" intelRules.appType longIntelFile true
    simp only [Bool.true_eq_false, and_false, if_false, List.map_id'] at hstored
    exact hstored
  exact not_losesNothing_of_chunks hne hcontents hall

def suricataRules : RuleSetOf := ⟨"s1", RuleTypes.suricata⟩

theorem firstChunk_longFile : firstChunk suricataRules.appType longFile = some longFile := by
  have hcut : headerAndLines suricataRules.appType longFile = _ := headerAndLines_longFile
  rw [firstChunk, hcut, chunksFrom_longLine]
  rfl

theorem checkZeekExecModule_suricataRules (content : String) :
    checkZeekExecModule suricataRules.appType content = false := rfl

/-- A Suricata file of one line whose validation is by-passed is validated if it is small. -/
theorem not_pathsAgree_longFile :
    ¬ ∀ (ruleSet : RuleSetOf) (byPassValidation : Bool) (text : String),
      PathsAgree ruleSet byPassValidation text := by
  intro h
  have hagree := (h suricataRules true longFile).pieces
  exact not_seenAsPieces firstChunk_longFile (checkZeekExecModule_suricataRules longFile) hagree

end Tfplenum
