/-
  Tfplenum.Service.ZeekScripts

  The tree of Zeek scripts of a sensor, in a file system.  The builder makes a
  directory for each rule set and writes a script for each rule, under names that
  are those of the rule sets and rules with little changed; `scriptSteps` are the calls
  in order, and `layScripts` is what they come to, by the names alone.
-/

import Tfplenum.Lib.FileTree
import Tfplenum.Service.RuleFiles

namespace Tfplenum

open Lib

/-! ## Calls on the file system -/

inductive ScriptStep where
  /-- `os.mkdir(rule_set_dir)` -/
  | directory (ruleSetName : String)
  /-- a script is opened, and written if the rule has a content -/
  | script (ruleSetName ruleName : String) (content : Option String)
  /-- `rule["isEnabled"]`, of a rule that has none -/
  | keyError
deriving DecidableEq, Repr

namespace ScriptStep

def program : ScriptStep → Prog Unit
  | directory ruleSetName => Prog.orRaise (Prog.ask (.makeDirectory ruleSetName))
  | script ruleSetName ruleName content =>
      Prog.orRaise (Prog.ask (.writeFile (pathJoin ruleSetName ruleName) (content.getD "")))
  | keyError => Program.raise (.keyError "isEnabled")

/-- The line that loads the script. -/
def line : ScriptStep → String
  | script ruleSetName ruleName (some _) =>
      "@load custom/" ++ ruleSetName ++ "/" ++ beforeLastDot ruleName ++ "\n"
  | _ => ""

theorem line_directory (ruleSetName : String) : (directory ruleSetName).line = "" := rfl

theorem line_script (ruleSetName ruleName content : String) :
    (script ruleSetName ruleName (some content)).line =
      "@load custom/" ++ ruleSetName ++ "/" ++ beforeLastDot ruleName ++ "\n" := rfl

end ScriptStep

/-- The calls for one rule. -/
def RuleDoc.scriptSteps (ruleSetName : String) (rule : RuleDoc) : List ScriptStep :=
  match rule.isEnabled, rule.ruleName with
  | none, _ => [.keyError]
  | some true, some name => [.script ruleSetName (convertZeekRuleName name) rule.rule]
  | _, _ => []

/-- The calls for one rule set. -/
def ruleSetSteps (db : Db) (ruleSet : String × RuleSetDoc) : List ScriptStep :=
  .directory (convertZeekRulesetName ruleSet.2.name) ::
    ((db .rule).find fun _ rule => rule.ruleSetId = ruleSet.1).flatMap fun rule =>
      rule.2.scriptSteps (convertZeekRulesetName ruleSet.2.name)

/-- The calls for a sensor. -/
def scriptSteps (db : Db) (ipAddress : String) : List ScriptStep :=
  (builtRuleSets db RuleTypes.zeekScripts ipAddress).flatMap (ruleSetSteps db)

/-! ## The file system -/

/-- The backend, and the file system it is on. -/
structure Files where
  world : World
  tree : FileTree

/-- The exception of a call on a path. -/
def raisedFor (path : String) : FileError → PyError
  | .embeddedNull => .valueError "embedded null byte"
  | .nameTooLong => .other "OSError"
  | .notFound => .other "FileNotFoundError"
  | .notADirectory => .other "NotADirectoryError"
  | .isADirectory => .other "IsADirectoryError"
  | .alreadyExists => .fileExistsError path

/-- The load file in the temporary directory. -/
def loadPlace (top : Place) : Place := "__load__.zeek" :: top

/-- The temporary directory is new, and the load file is opened in it at once. -/
def freshTree (top : Place) (t : FileTree) : FileTree where
  entry p :=
    if p = loadPlace top then some (.file "")
    else if p = top then some .directory
    else if top <:+ p then none
    else t.entry p

def World.tick (w : World) : World := { w with calls := w.calls + 1 }

/-- What an operation answers and does, with the temporary directory at `top`. -/
def handleFiles (env : Environment) (top : Place) : Handler Op Op.Res Files
  | .external .makeTemp, s => (.ok (), ⟨s.world.tick, freshTree top s.tree⟩)
  | .external (.makeDirectory path), s =>
      match s.tree.newDirectory top path with
      | .ok p => (.ok (), ⟨s.world.tick, s.tree.set p .directory⟩)
      | .error e => (.error (raisedFor path e), ⟨s.world.tick, s.tree⟩)
  | .external (.writeFile path content), s =>
      match s.tree.openFile top path with
      | .ok p => (.ok (), ⟨s.world.tick, s.tree.set p (.file content)⟩)
      | .error e => (.error (raisedFor path e), ⟨s.world.tick, s.tree⟩)
  | op, s => ((handle env op s.world).1, ⟨(handle env op s.world).2, s.tree⟩)

/-- What was written: a place, and the content of the rule if it has one. -/
abbrev Written := Place × Option String

/-- The tree the calls leave and the scripts they wrote, if none of them raises. -/
def layScripts (top : Place) : List ScriptStep → FileTree → Option (FileTree × List Written)
  | [], t => some (t, [])
  | .directory ruleSetName :: steps, t =>
      match t.newDirectory top ruleSetName with
      | .ok p => layScripts top steps (t.set p .directory)
      | .error _ => none
  | .script ruleSetName ruleName content :: steps, t =>
      match t.openFile top (pathJoin ruleSetName ruleName) with
      | .ok p =>
          (layScripts top steps (t.set p (.file (content.getD "")))).map fun laid =>
            (laid.1, (p, content) :: laid.2)
      | .error _ => none
  | .keyError :: _, _ => none

/-! ## The builder -/

section Builder

variable (env : Environment) (top : Place)

theorem run_makeDirectory (path : String) (s : Files) :
    (Prog.orRaise (Prog.ask (.makeDirectory path))).run (handleFiles env top) s =
      match s.tree.newDirectory top path with
      | .ok p => (.ok (), ⟨s.world.tick, s.tree.set p .directory⟩)
      | .error e => (.error (raisedFor path e), ⟨s.world.tick, s.tree⟩) := by
  rw [Prog.orRaise, Program.run_bind, Prog.ask, Program.run_perform, Program.andThen_ok,
    Program.run_ofExcept]
  simp only [handleFiles]

theorem run_writeFile (path content : String) (s : Files) :
    (Prog.orRaise (Prog.ask (.writeFile path content))).run (handleFiles env top) s =
      match s.tree.openFile top path with
      | .ok p => (.ok (), ⟨s.world.tick, s.tree.set p (.file content)⟩)
      | .error e => (.error (raisedFor path e), ⟨s.world.tick, s.tree⟩) := by
  rw [Prog.orRaise, Program.run_bind, Prog.ask, Program.run_perform, Program.andThen_ok,
    Program.run_ofExcept]
  simp only [handleFiles]

/-- The calls leave the database. -/
theorem db_run_step (step : ScriptStep) (s : Files) :
    (step.program.run (handleFiles env top) s).2.world.db = s.world.db := by
  cases step with
  | directory ruleSetName =>
      rw [ScriptStep.program, run_makeDirectory]
      split <;> rfl
  | script ruleSetName ruleName content =>
      rw [ScriptStep.program, run_writeFile]
      split <;> rfl
  | keyError => rfl

/-- The calls return just if the scripts can be laid, and leave the tree they are laid in. -/
theorem run_steps (steps : List ScriptStep) (s : Files) :
    ∃ r s', (Program.forEach steps ScriptStep.program).run (handleFiles env top) s = (r, s') ∧
      ((∃ written, r = .ok () ∧ layScripts top steps s.tree = some (s'.tree, written)) ∨
        ∃ e, r = .error e ∧ layScripts top steps s.tree = none) := by
  induction steps generalizing s with
  | nil => exact ⟨_, _, rfl, .inl ⟨[], rfl, rfl⟩⟩
  | cons step steps ih =>
      rw [Program.forEach_cons, Program.run_bind]
      cases step with
      | directory ruleSetName =>
          rw [ScriptStep.program, run_makeDirectory, layScripts]
          cases s.tree.newDirectory top ruleSetName with
          | error e => exact ⟨_, _, rfl, .inr ⟨_, rfl, rfl⟩⟩
          | ok p => exact ih _
      | script ruleSetName ruleName content =>
          rw [ScriptStep.program, run_writeFile, layScripts]
          cases s.tree.openFile top (pathJoin ruleSetName ruleName) with
          | error e => exact ⟨_, _, rfl, .inr ⟨_, rfl, rfl⟩⟩
          | ok p =>
              obtain ⟨r, s', hrun, ⟨written, hr, hlay⟩ | ⟨e, hr, hlay⟩⟩ :=
                ih ⟨s.world.tick, s.tree.set p (.file (content.getD ""))⟩
              · refine ⟨r, s', hrun, .inl ⟨(p, content) :: written, hr, ?_⟩⟩
                simp only [hlay, Option.map_some]
              · refine ⟨r, s', hrun, .inr ⟨e, hr, ?_⟩⟩
                simp only [hlay, Option.map_none]
      | keyError => exact ⟨_, _, rfl, .inr ⟨_, rfl, rfl⟩⟩

/-- What is done for a rule is its calls. -/
theorem writeZeekScript_eq (ruleSetName : String) (rule : RuleDoc) :
    writeZeekScript ruleSetName rule =
      (Program.forEach (rule.scriptSteps ruleSetName) ScriptStep.program).bind fun _ =>
        .done (String.join ((rule.scriptSteps ruleSetName).map ScriptStep.line)) := by
  rcases rule with ⟨ruleSetId, ruleName, content, isEnabled⟩
  cases isEnabled with
  | none => rfl
  | some isEnabled =>
      cases isEnabled with
      | false => rfl
      | true =>
          cases ruleName with
          | none => rfl
          | some ruleName =>
              simp only [RuleDoc.scriptSteps, Program.forEach_cons, Program.forEach_nil,
                ScriptStep.program, List.map_cons, List.map_nil, String.join_cons, String.join_nil,
                String.append_empty, Program.bind_assoc, Program.done_bind]
              -- the line depends on whether there is a script
              cases content with
              | none => rfl
              | some content => rfl

/-- What is done for the rules of a rule set is their calls. -/
theorem mapEach_writeZeekScript (ruleSetName : String) (rules : List (String × RuleDoc)) :
    (Program.mapEach rules fun rule => writeZeekScript ruleSetName rule.2) =
      (Program.forEach (rules.flatMap fun rule => rule.2.scriptSteps ruleSetName)
        ScriptStep.program).bind fun _ =>
          .done (rules.map fun rule =>
            String.join ((rule.2.scriptSteps ruleSetName).map ScriptStep.line)) := by
  induction rules with
  | nil => rfl
  | cons rule rules ih =>
      rw [Program.mapEach_cons, ih, writeZeekScript_eq, List.flatMap_cons, Program.forEach_append]
      simp only [Program.bind_assoc, Program.done_bind, List.map_cons]

theorem run_rulesToWrite_files (ruleSetId : String) (s : Files) :
    (rulesToWrite ruleSetId).run (handleFiles env top) s =
      (.ok ((s.world.db .rule).find fun _ rule => rule.ruleSetId = ruleSetId), s) := by
  have hfind : (findRules ruleSetId).run (handleFiles env top) s =
      (.ok ((s.world.db .rule).find fun _ rule => rule.ruleSetId = ruleSetId), s) := rfl
  rw [rulesToWrite, Program.bind_eq, Program.run_bind_ok _ hfind]
  split
  · rename_i hempty
    rw [List.isEmpty_iff.mp hempty]
    rfl
  · exact hfind

theorem join_map_flatMap {α β : Type} (as : List α) (f : α → List β) (line : β → String) :
    String.join (as.map fun a => String.join ((f a).map line)) =
      String.join ((as.flatMap f).map line) := by
  induction as with
  | nil => rfl
  | cons a as ih => rw [List.map_cons, String.join_cons, ih, List.flatMap_cons, List.map_append,
      String.join_append]

/-- The calls for a rule set, if it is one of those built. -/
def stepsIfBuilt (db : Db) (ipAddress : String) (ruleSet : String × RuleSetDoc) : List ScriptStep :=
  if ruleSet.2.isBuilt RuleTypes.zeekScripts ipAddress then ruleSetSteps db ruleSet else []

theorem flatMap_stepsIfBuilt (db : Db) (ipAddress : String) :
    (db .ruleset).rows.flatMap (stepsIfBuilt db ipAddress) = scriptSteps db ipAddress := by
  rw [scriptSteps, builtRuleSets, Table.find]
  induction (db .ruleset).rows with
  | nil => rfl
  | cons ruleSet rows ih =>
      rw [List.flatMap_cons, ih, List.filter_cons, stepsIfBuilt]
      split <;> simp

/-- What is done for a rule set that has its keys is its calls. -/
theorem run_ruleSetScripts (ipAddress : String) {ruleSet : String × RuleSetDoc}
    (hkeys : ruleSet.2.HasScriptKeys) (s : Files) :
    (ruleSetScripts ipAddress ruleSet).run (handleFiles env top) s =
      ((Program.forEach (stepsIfBuilt s.world.db ipAddress ruleSet) ScriptStep.program).bind
        fun _ =>
          .done (String.join ((stepsIfBuilt s.world.db ipAddress ruleSet).map ScriptStep.line))).run
          (handleFiles env top) s := by
  unfold stepsIfBuilt ruleSetScripts
  rw [goesIntoScripts_of_hasScriptKeys hkeys, Program.bind_eq, Program.done_bind]
  split
  · have hdir := db_run_step env top (.directory (convertZeekRulesetName ruleSet.2.name)) s
    rw [ruleSetSteps, Program.forEach_cons, Program.bind_assoc, Program.run_bind]
    dsimp only
    rw [Program.bind_eq, Program.run_bind, ScriptStep.program]
    rw [ScriptStep.program] at hdir
    rcases hrun : (Prog.orRaise (Prog.ask (.makeDirectory
      (convertZeekRulesetName ruleSet.2.name)))).run (handleFiles env top) s with ⟨e | _, s'⟩
    · rfl
    · rw [hrun] at hdir
      rw [Program.andThen_ok, Program.andThen_ok, Program.bind_eq,
        Program.run_bind_ok _ (run_rulesToWrite_files env top ruleSet.1 s'), hdir,
        mapEach_writeZeekScript, Program.bind_eq, Program.bind_assoc, List.map_cons,
        String.join_cons, ScriptStep.line_directory, String.empty_append]
      simp only [Program.done_bind, Program.pure_eq, join_map_flatMap]
  · rfl

def noScripts := "# No scripts were enabled for this Sensor."

/-- The content of the load file. -/
def loadFile (db : Db) (ipAddress : String) : String :=
  let load := String.join ((scriptSteps db ipAddress).map ScriptStep.line)
  if load = "" then noScripts else load

/-- A file stays a file. -/
theorem file_of_layScripts {steps : List ScriptStep} {t t' : FileTree} {written : List Written}
    (hlay : layScripts top steps t = some (t', written)) {p : Place}
    (hp : ∃ content, t.entry p = some (.file content)) :
    ∃ content, t'.entry p = some (.file content) := by
  induction steps generalizing t written with
  | nil =>
      cases hlay
      exact hp
  | cons step steps ih =>
      cases step with
      | directory ruleSetName =>
          rw [layScripts] at hlay
          split at hlay
          · rename_i q hnew
            refine ih hlay ?_
            obtain ⟨content, hp⟩ := hp
            have hne : p ≠ q := by
              intro heq
              rw [heq, FileTree.entry_newDirectory hnew] at hp
              cases hp
            exact ⟨content, (t.set_entry_of_ne _ hne).trans hp⟩
          · cases hlay
      | script ruleSetName ruleName content =>
          rw [layScripts] at hlay
          split at hlay
          · rename_i q hopen
            obtain ⟨laid, hlaid, heq⟩ := Option.map_eq_some_iff.mp hlay
            cases heq
            refine ih hlaid ?_
            by_cases hq : p = q
            · subst hq
              exact ⟨_, t.set_entry_self p _⟩
            · obtain ⟨content', hp⟩ := hp
              exact ⟨content', (t.set_entry_of_ne _ hq).trans hp⟩
          · cases hlay
      | keyError => cases hlay

theorem openFile_load {t : FileTree}
    (h : ∃ content, t.entry (loadPlace top) = some (.file content)) :
    t.openFile top "__load__.zeek" = .ok (loadPlace top) := by
  have hleads : t.Leads top "__load__.zeek" "__load__.zeek" top [] :=
    ⟨by decide +kernel, by decide +kernel, rfl, by decide, by decide +kernel⟩
  obtain ⟨content, h⟩ := h
  refine hleads.openFile ?_
  rw [show "__load__.zeek" :: top = loadPlace top from rfl, h]
  simp

/-- The rule sets have the keys that the builder looks up. -/
def ScriptKeys (db : Db) : Prop := ∀ ruleSet ∈ (db .ruleset).rows, ruleSet.2.HasScriptKeys

/-- A builder that returns has found the keys in every rule set. -/
theorem scriptKeys_of_returns (ipAddress : String) (db : Db) :
    Triple (handleFiles env top) (fun s => s.world.db = db) (buildZeekScriptsFile ipAddress)
      (fun _ _ => ScriptKeys db) fun _ _ => True := by
  have htemp : Triple (handleFiles env top) (fun s => s.world.db = db)
      (Prog.orRaise (Prog.ask .makeTemp)) (fun _ s => s.world.db = db) fun _ _ => True :=
    Triple.bind (Triple.perform fun s hs => hs) fun r =>
      Triple.ofExcept (fun _ _ _ hs => hs) fun _ _ _ _ => trivial
  have hsets : Triple (handleFiles env top) (fun s => s.world.db = db) getRulesets
      (fun rows _ => rows = (db .ruleset).rows ∧ True) fun _ _ => True := by
    refine Triple.perform fun s hs => ⟨?_, trivial⟩
    rw [← hs]
    exact List.filter_true _
  unfold buildZeekScriptsFile
  refine htemp.bind fun _ => hsets.bind fun rows => Triple.assume fun hrows => ?_
  have hbody : ∀ ruleSet ∈ rows, Triple (handleFiles env top) (fun _ => True)
      (ruleSetScripts ipAddress ruleSet) (fun _ _ => ruleSet.2.HasScriptKeys ∧ True)
      fun _ _ => True := by
    intro ruleSet _
    by_cases hkeys : ruleSet.2.HasScriptKeys
    · exact (Triple.total _).post fun _ _ _ => ⟨hkeys, trivial⟩
    · obtain ⟨e, hraise⟩ := goesIntoScripts_of_not_hasScriptKeys hkeys
      rw [ruleSetScripts, hraise]
      exact Triple.raise fun _ _ => trivial
  refine (Triple.mapEach hbody).bind fun loads => Triple.assume fun hall => ?_
  refine (Triple.total _).post fun _ _ _ ruleSet hmem => ?_
  obtain ⟨load, -, hkeys⟩ := exists_of_forall₂ hall (hrows ▸ hmem)
  exact hkeys

/-- With the keys there the builder returns just if the scripts can be laid, and leaves the tree
    they are laid in, with the load file. -/
theorem run_buildZeekScriptsFile (ipAddress : String) {s : Files} (hkeys : ScriptKeys s.world.db) :
    ∃ r s', (buildZeekScriptsFile ipAddress).run (handleFiles env top) s = (r, s') ∧
      ((∃ t written, r = .ok () ∧
          layScripts top (scriptSteps s.world.db ipAddress) (freshTree top s.tree) =
            some (t, written) ∧
            s'.tree = t.set (loadPlace top) (.file (loadFile s.world.db ipAddress))) ∨
        ∃ e, r = .error e ∧
          layScripts top (scriptSteps s.world.db ipAddress) (freshTree top s.tree) = none) := by
  obtain ⟨s₁, hdb, htree, htemp⟩ : ∃ s₁ : Files, s₁.world.db = s.world.db ∧
      s₁.tree = freshTree top s.tree ∧
        (Prog.orRaise (Prog.ask .makeTemp)).run (handleFiles env top) s = (.ok (), s₁) :=
    ⟨⟨s.world.tick, freshTree top s.tree⟩, rfl, rfl,
      by simp [Prog.orRaise, Prog.ask, handleFiles]⟩
  have hsets : getRulesets.run (handleFiles env top) s₁ = (.ok (s.world.db .ruleset).rows, s₁) := by
    rw [← hdb]
    simp [getRulesets, Prog.find, Table.find, handleFiles]
  have hsteps := Program.run_mapEach_of_steps (handleFiles env top)
    (fun t s' (hs' : s'.world.db = s.world.db) => (db_run_step env top t s').trans hs')
    (fun ruleSet (hmem : ruleSet ∈ (s.world.db .ruleset).rows) s' hs' =>
      hs' ▸ run_ruleSetScripts env top ipAddress (hkeys ruleSet hmem) s') hdb
  have hjoin : String.join ((s.world.db .ruleset).rows.map fun ruleSet =>
      String.join ((stepsIfBuilt s.world.db ipAddress ruleSet).map ScriptStep.line)) =
        String.join ((scriptSteps s.world.db ipAddress).map ScriptStep.line) := by
    rw [join_map_flatMap, flatMap_stepsIfBuilt]
  rw [flatMap_stepsIfBuilt] at hsteps
  rw [buildZeekScriptsFile, Program.bind_eq, Program.run_bind_ok _ htemp, Program.bind_eq,
    Program.run_bind_ok _ hsets, Program.bind_eq, Program.run_bind]
  dsimp only at hsteps ⊢
  rw [hsteps, Program.run_bind]
  obtain ⟨r, s', hrun, ⟨written, rfl, hlay⟩ | ⟨e, rfl, hlay⟩⟩ := run_steps env top
    (scriptSteps s.world.db ipAddress) s₁
  · rw [htree] at hlay
    have hload : s'.tree.openFile top "__load__.zeek" = .ok (loadPlace top) :=
      openFile_load top (file_of_layScripts top hlay ⟨"", if_pos rfl⟩)
    refine ⟨.ok (), ⟨s'.world.tick, s'.tree.set (loadPlace top)
      (.file (loadFile s.world.db ipAddress))⟩, ?_, .inl ⟨s'.tree, written, rfl, hlay, rfl⟩⟩
    rw [hrun, Program.andThen_ok, Program.run_done, Program.andThen_ok, hjoin, run_writeFile, hload,
      loadFile, noScripts]
  · rw [htree] at hlay
    refine ⟨.error e, s', ?_, .inr ⟨e, rfl, hlay⟩⟩
    rw [hrun]
    rfl

end Builder

/-! ## The tree -/

section Tree

variable {top : Place} {t t' : FileTree} {steps : List ScriptStep} {written : List Written}

/-- The directories stay. -/
theorem within_layScripts (hlay : layScripts top steps t = some (t', written)) : t.Within t' := by
  induction steps generalizing t written with
  | nil =>
      cases hlay
      exact .refl _
  | cons step steps ih =>
      cases step with
      | directory ruleSetName =>
          rw [layScripts] at hlay
          split at hlay
          · rename_i p hnew
            have hnone := FileTree.entry_newDirectory hnew
            exact (FileTree.within_set _ (by simp [hnone])).trans (ih hlay)
          · cases hlay
      | script ruleSetName ruleName content =>
          rw [layScripts] at hlay
          split at hlay
          · rename_i p hopen
            obtain ⟨laid, hlaid, heq⟩ := Option.map_eq_some_iff.mp hlay
            cases heq
            exact (FileTree.within_set _ (FileTree.entry_openFile hopen)).trans (ih hlaid)
          · cases hlay
      | keyError => cases hlay

/-- A file that is only written with its own content again keeps it. -/
theorem entry_of_written_same (hlay : layScripts top steps t = some (t', written)) {p : Place}
    {content : String} (hp : t.entry p = some (.file content))
    (hsame : ∀ x ∈ written, x.1 = p → x.2.getD "" = content) :
    t'.entry p = some (.file content) := by
  induction steps generalizing t written with
  | nil =>
      cases hlay
      exact hp
  | cons step steps ih =>
      cases step with
      | directory ruleSetName =>
          rw [layScripts] at hlay
          split at hlay
          · rename_i q hnew
            refine ih hlay ?_ hsame
            have hne : p ≠ q := by
              intro heq
              rw [heq, FileTree.entry_newDirectory hnew] at hp
              cases hp
            exact (t.set_entry_of_ne _ hne).trans hp
          · cases hlay
      | script ruleSetName ruleName text =>
          rw [layScripts] at hlay
          split at hlay
          · rename_i q hopen
            obtain ⟨laid, hlaid, heq⟩ := Option.map_eq_some_iff.mp hlay
            cases heq
            refine ih hlaid ?_ fun x hx => hsame x (List.mem_cons_of_mem _ hx)
            by_cases hq : p = q
            · subst hq
              rw [t.set_entry_self, hsame (p, text) (List.mem_cons_self ..) rfl]
            · exact (t.set_entry_of_ne _ hq).trans hp
          · cases hlay
      | keyError => cases hlay

/-- A file that is only written with one content, at least once, has it. -/
theorem entry_of_written (hlay : layScripts top steps t = some (t', written)) {p : Place}
    {content : String} (hsame : ∀ x ∈ written, x.1 = p → x.2.getD "" = content)
    (hex : ∃ x ∈ written, x.1 = p) : t'.entry p = some (.file content) := by
  induction steps generalizing t written with
  | nil =>
      cases hlay
      obtain ⟨x, hx, -⟩ := hex
      cases hx
  | cons step steps ih =>
      cases step with
      | directory ruleSetName =>
          rw [layScripts] at hlay
          split at hlay
          · exact ih hlay hsame hex
          · cases hlay
      | script ruleSetName ruleName text =>
          rw [layScripts] at hlay
          split at hlay
          · rename_i q hopen
            obtain ⟨laid, hlaid, heq⟩ := Option.map_eq_some_iff.mp hlay
            cases heq
            have hsame' : ∀ x ∈ laid.2, x.1 = p → x.2.getD "" = content :=
              fun x hx => hsame x (List.mem_cons_of_mem _ hx)
            by_cases hq : p = q
            · subst hq
              refine entry_of_written_same hlaid ?_ hsame'
              rw [t.set_entry_self, hsame (p, text) (List.mem_cons_self ..) rfl]
            · obtain ⟨x, hx, hxp⟩ := hex
              rcases List.mem_cons.mp hx with rfl | hx
              · exact absurd hxp.symm hq
              · exact ih hlaid hsame' ⟨x, hx, hxp⟩
          · cases hlay
      | keyError => cases hlay

/-- What was written for the rules that have a content. -/
def complete (written : List Written) : List (Place × String) :=
  written.filterMap fun x => x.2.map (x.1, ·)

/-- The second call spares what the first has written. -/
def KeptApart (x y : Written) : Prop :=
  x.1 = y.1 → x.2 = none ∨ x.2 = some "" ∧ y.2 = none

theorem mem_complete {p : Place} {content : String} :
    (p, content) ∈ complete written ↔ (p, some content) ∈ written := by
  constructor
  · intro hmem
    obtain ⟨⟨q, text⟩, hx, hsome⟩ := List.mem_filterMap.mp hmem
    obtain ⟨content', rfl, heq⟩ := Option.map_eq_some_iff.mp hsome
    cases heq
    exact hx
  · intro hmem
    exact List.mem_filterMap.mpr ⟨_, hmem, rfl⟩

/-- The later calls spare a script if and only if none writes another there and its content is
    there at the end. -/
theorem keptApart_head {p : Place} {text : Option String}
    (hlay : layScripts top steps (t.set p (.file (text.getD ""))) = some (t', written)) :
    (∀ y ∈ written, KeptApart (p, text) y) ↔
      ∀ content, text = some content →
        p ∉ (complete written).map Prod.fst ∧ t'.entry p = some (.file content) := by
  constructor
  · rintro hkept content rfl
    have hnone : ∀ y ∈ written, y.1 = p → content = "" ∧ y.2 = none := by
      intro y hy hyp
      rcases hkept y hy hyp.symm with hcontent | ⟨hcontent, hy⟩
      · cases hcontent
      · exact ⟨Option.some.inj hcontent, hy⟩
    refine ⟨?_, ?_⟩
    · intro hmem
      obtain ⟨⟨q, content'⟩, hx, rfl⟩ := List.mem_map.mp hmem
      cases (hnone _ (mem_complete.mp hx) rfl).2
    · refine entry_of_written_same hlay (t.set_entry_self p _) fun y hy hyp => ?_
      rw [(hnone y hy hyp).1, (hnone y hy hyp).2]
      rfl
  · intro hends y hy hyp
    cases text with
    | none => exact .inl rfl
    | some content =>
        obtain ⟨hfresh, hentry⟩ := hends content rfl
        have hnone : ∀ x ∈ written, x.1 = p → x.2 = none := by
          rintro ⟨q, text⟩ hx rfl
          cases text with
          | none => rfl
          | some content' =>
              exact absurd (List.mem_map_of_mem (mem_complete.mpr hx)) hfresh
        have hempty := entry_of_written hlay
          (fun x hx hxp => congrArg (Option.getD · "") (hnone x hx hxp)) ⟨y, hy, hyp.symm⟩
        rw [hentry] at hempty
        cases hempty
        exact .inr ⟨rfl, hnone y hy hyp.symm⟩

/-- The calls spare each other if and only if each content ends in a file of its own. -/
theorem pairwise_keptApart_iff (hlay : layScripts top steps t = some (t', written)) :
    written.Pairwise KeptApart ↔
      ((complete written).map Prod.fst).Nodup ∧
        ∀ x ∈ complete written, t'.entry x.1 = some (.file x.2) := by
  induction steps generalizing t written with
  | nil =>
      cases hlay
      simp [complete]
  | cons step steps ih =>
      cases step with
      | directory ruleSetName =>
          rw [layScripts] at hlay
          split at hlay
          · exact ih hlay
          · cases hlay
      | script ruleSetName ruleName text =>
          rw [layScripts] at hlay
          split at hlay
          · rename_i p hopen
            obtain ⟨laid, hlaid, heq⟩ := Option.map_eq_some_iff.mp hlay
            cases heq
            rw [List.pairwise_cons, keptApart_head hlaid, ih hlaid]
            cases text with
            | none => simp [complete]
            | some content =>
                have hcomplete : complete ((p, some content) :: laid.2) =
                  (p, content) :: complete laid.2 := rfl
                rw [hcomplete, List.map_cons, List.nodup_cons, List.forall_mem_cons]
                constructor
                · rintro ⟨hhead, hnodup, hentries⟩
                  obtain ⟨hfresh, hentry⟩ := hhead content rfl
                  exact ⟨⟨hfresh, hnodup⟩, hentry, hentries⟩
                · rintro ⟨⟨hfresh, hnodup⟩, hentry, hentries⟩
                  refine ⟨?_, hnodup, hentries⟩
                  rintro content' ⟨⟩
                  exact ⟨hfresh, hentry⟩
          · cases hlay
      | keyError => cases hlay

/-- A script of an enabled rule with all its fields. -/
structure Script where
  ruleSetName : String
  ruleName : String
  text : String
deriving DecidableEq, Repr

namespace Script

/-- The path of the script in the tree. -/
def path (script : Script) : String := pathJoin script.ruleSetName script.ruleName

/-- What the load file calls the script. -/
def loadName (script : Script) : String :=
  script.ruleSetName ++ "/" ++ beforeLastDot script.ruleName

end Script

namespace ScriptStep

def script? : ScriptStep → Option Script
  | script ruleSetName ruleName (some content) => some ⟨ruleSetName, ruleName, content⟩
  | _ => none

end ScriptStep

/-- Every script is at the place its path leads to when all is written. -/
theorem openFile_of_layScripts (hlay : layScripts top steps t = some (t', written))
    {tree : FileTree} (hwithin : t'.Within tree)
    (hfiles : ∀ p, (∃ content, t'.entry p = some (.file content)) →
      tree.entry p ≠ some .directory) :
    ((steps.filterMap ScriptStep.script?).map fun script =>
        (tree.openFile top script.path, script.text)) =
      (complete written).map fun x => (.ok x.1, x.2) := by
  induction steps generalizing t written with
  | nil =>
      cases hlay
      rfl
  | cons step steps ih =>
      cases step with
      | directory ruleSetName =>
          rw [layScripts] at hlay
          split at hlay
          · exact ih hlay
          · cases hlay
      | script ruleSetName ruleName text =>
          rw [layScripts] at hlay
          split at hlay
          · rename_i p hopen
            obtain ⟨laid, hlaid, heq⟩ := Option.map_eq_some_iff.mp hlay
            cases heq
            have hfile := file_of_layScripts top hlaid ⟨_, t.set_entry_self p _⟩
            have hset : t.Within (t.set p (.file (text.getD ""))) :=
              FileTree.within_set _ (FileTree.entry_openFile hopen)
            have hlater := ((hset.trans (within_layScripts hlaid)).trans hwithin).openFile hopen
              (hfiles p hfile)
            cases text with
            | none =>
                have hrest := ih hlaid
                exact hrest
            | some content =>
                have hsteps : (ScriptStep.script ruleSetName ruleName (some content) ::
                    steps).filterMap ScriptStep.script? =
                  ⟨ruleSetName, ruleName, content⟩ :: steps.filterMap ScriptStep.script? := rfl
                have hcomplete : complete ((p, some content) :: laid.2) =
                  (p, content) :: complete laid.2 := rfl
                rw [hsteps, hcomplete, List.map_cons, List.map_cons, ih hlaid, Script.path, hlater]
          · cases hlay
      | keyError => cases hlay

end Tree

/-! ## A faithful tree -/

/-- The scripts of the enabled, complete rules of the enabled rule sets of Zeek scripts that
    are assigned to the sensor. -/
def scripts (db : Db) (ipAddress : String) : List Script :=
  (builtRuleSets db RuleTypes.zeekScripts ipAddress).flatMap fun ruleSet =>
    (writtenRulesOf db ruleSet.1).filterMap fun rule =>
      rule.2.ruleName.map fun ruleName =>
        ⟨convertZeekRulesetName ruleSet.2.name, convertZeekRuleName ruleName, rule.2.rule.getD ""⟩

theorem filterMap_ruleSteps (ruleSetName : String) (rules : List (String × RuleDoc)) :
    ((rules.flatMap fun rule => rule.2.scriptSteps ruleSetName).filterMap ScriptStep.script?) =
      (rules.filter fun rule => rule.2.isWritten).filterMap fun rule =>
        rule.2.ruleName.map fun ruleName =>
          ⟨ruleSetName, convertZeekRuleName ruleName, rule.2.rule.getD ""⟩ := by
  induction rules with
  | nil => rfl
  | cons rule rules ih =>
      rw [List.flatMap_cons, List.filterMap_append, ih, List.filter_cons]
      -- without a name, or not enabled, a rule has neither a step nor a script
      rcases rule with ⟨id, ruleSetId, _ | ruleName, _ | content, _ | _ | _⟩ <;> rfl

/-- The calls that write a script are those for the scripts. -/
theorem filterMap_scriptSteps (db : Db) (ipAddress : String) :
    (scriptSteps db ipAddress).filterMap ScriptStep.script? = scripts db ipAddress := by
  rw [scriptSteps, scripts]
  induction builtRuleSets db RuleTypes.zeekScripts ipAddress with
  | nil => rfl
  | cons ruleSet ruleSets ih =>
      have hhead : (ruleSetSteps db ruleSet).filterMap ScriptStep.script? =
          (((db .rule).find fun _ rule => rule.ruleSetId = ruleSet.1).flatMap fun rule =>
            rule.2.scriptSteps (convertZeekRulesetName ruleSet.2.name)).filterMap
              ScriptStep.script? := rfl
      have hrules : ((db .rule).find fun _ rule => rule.ruleSetId = ruleSet.1).filter
          (fun rule => rule.2.isWritten) = writtenRulesOf db ruleSet.1 := by
        simp only [writtenRulesOf, writtenRules, Table.find, List.filter_filter, Bool.and_comm]
      rw [List.flatMap_cons, List.filterMap_append, ih, hhead, filterMap_ruleSteps, hrules,
        List.flatMap_cons]

/-- The lines that load the scripts. -/
def loadLines (stem : Script → String) (scripts : List Script) : String :=
  String.join (scripts.map fun script => "@load custom/" ++ stem script ++ "\n")

theorem join_map_scriptLine (steps : List ScriptStep) :
    String.join (steps.map ScriptStep.line) =
      loadLines Script.loadName (steps.filterMap ScriptStep.script?) := by
  rw [loadLines]
  induction steps with
  | nil => rfl
  | cons step steps ih =>
      rw [List.map_cons, String.join_cons, ih]
      cases step with
      | directory ruleSetName => rfl
      | script ruleSetName ruleName content =>
          cases content with
          | none => rfl
          | some content =>
              simp only [List.filterMap_cons, ScriptStep.script?, List.map_cons, String.join_cons,
                ScriptStep.line_script, Script.loadName, String.append_assoc]
      | keyError => rfl

theorem loadFile_eq (db : Db) (ipAddress : String) :
    loadFile db ipAddress =
      if scripts db ipAddress = [] then noScripts
      else loadLines Script.loadName (scripts db ipAddress) := by
  rw [loadFile, join_map_scriptLine, filterMap_scriptSteps]
  cases scripts db ipAddress with
  | nil => rfl
  | cons script scripts =>
      have hline : loadLines Script.loadName (script :: scripts) ≠ "" := by
        rw [loadLines, List.map_cons, String.join_cons]
        intro hempty
        have hlength := congrArg String.length hempty
        have hload : "@load custom/".length = 13 := by decide
        have hnone : "".length = 0 := rfl
        rw [String.length_append, String.length_append, String.length_append, hload, hnone]
          at hlength
        omega
      rw [if_neg hline, if_neg (List.cons_ne_nil _ _)]

namespace Script

/-- The name of the file without its extension, on one line. -/
structure NamedBy (script : Script) (stem : String) : Prop where
  relative : script.ruleSetName.toList.head? ≠ some '/' ∧ script.ruleName.toList.head? ≠ some '/'
  file : stem ++ ".zeek" = script.ruleSetName ++ "/" ++ script.ruleName
  oneLine : '\n' ∉ stem.toList

structure WellNamed (script : Script) : Prop where
  relative : script.ruleSetName.toList.head? ≠ some '/' ∧ script.ruleName.toList.head? ≠ some '/'
  extension : ".zeek".toList <:+ script.ruleName.toList
  oneLine : '\n' ∉ script.ruleSetName.toList ∧ '\n' ∉ script.ruleName.toList

theorem beforeLastDot_append (name : String) : beforeLastDot (name ++ ".zeek") = name := by
  rw [beforeLastDot, String.toList_append, List.reverse_append]
  have hext : ".zeek".toList.reverse = ['k', 'e', 'e', 'z', '.'] := by decide +kernel
  rw [hext]
  simp

/-- What ends in the extension after a slash ends in it without. -/
theorem extension_of_append {stem : String} {dir name : String}
    (h : stem ++ ".zeek" = dir ++ "/" ++ name) : ".zeek".toList <:+ name.toList := by
  have hchars : stem.toList ++ ".zeek".toList = dir.toList ++ '/' :: name.toList := by
    have heq := congrArg String.toList h
    simpa using heq
  have hslash : '/' ∉ ".zeek".toList := by decide +kernel
  have hext : ".zeek".toList <:+ dir.toList ++ '/' :: name.toList := hchars ▸ List.suffix_append ..
  rcases List.suffix_or_suffix_of_suffix hext (List.suffix_append ..) with hin | hin
  · rcases List.suffix_cons_iff.mp hin with heq | hin
    · exact absurd (heq ▸ List.mem_cons_self ..) hslash
    · exact hin
  · exact absurd (hin.mem (List.mem_cons_self ..)) hslash

/-- A name names the script just if it is that on the load line, and the script is well named. -/
theorem namedBy_iff (script : Script) (stem : String) :
    script.NamedBy stem ↔ script.WellNamed ∧ stem = script.loadName := by
  have hload {name : String} (hname : name ++ ".zeek" = script.ruleName) :
      script.loadName = script.ruleSetName ++ "/" ++ name := by
    rw [loadName, ← hname, beforeLastDot_append]
  constructor
  · intro hnamed
    have hext := extension_of_append hnamed.file
    obtain ⟨chars, hchars⟩ := hext
    have hname : String.ofList chars ++ ".zeek" = script.ruleName := by
      rw [← String.toList_inj, String.toList_append, String.toList_ofList]
      exact hchars
    have hstem : stem = script.ruleSetName ++ "/" ++ String.ofList chars := by
      have hfile := hnamed.file
      rw [← hname, ← String.append_assoc, String.append_left_inj] at hfile
      exact hfile
    refine ⟨⟨hnamed.relative, ⟨chars, hchars⟩, ?_⟩, hstem.trans (hload hname).symm⟩
    have hline := hnamed.oneLine
    have hzeek : '\n' ∉ ".zeek".toList := by decide +kernel
    rw [hstem] at hline
    rw [← hname]
    simp only [String.toList_append, List.mem_append, not_or] at hline ⊢
    exact ⟨hline.1.1, hline.2, hzeek⟩
  · rintro ⟨hwell, rfl⟩
    obtain ⟨chars, hchars⟩ := hwell.extension
    have hname : String.ofList chars ++ ".zeek" = script.ruleName := by
      rw [← String.toList_inj, String.toList_append, String.toList_ofList]
      exact hchars
    refine ⟨hwell.relative, ?_, ?_⟩
    · rw [hload hname, String.append_assoc, hname]
    · have hslash : '\n' ∉ "/".toList := by decide +kernel
      have hline := hwell.oneLine.2
      rw [← hname] at hline
      rw [hload hname]
      simp only [String.toList_append, List.mem_append, not_or] at hline ⊢
      exact ⟨⟨hwell.oneLine.1, hslash⟩, hline.1⟩

end Script

/-- Each script is in a file of its own in the tree, and the load file names them in order. -/
structure FaithfulTree (top : Place) (scripts : List Script) (tree : FileTree) : Prop where
  files : ∀ script ∈ scripts, ∃ place, tree.openFile top script.path = .ok place ∧
    top <:+ place ∧ tree.entry place = some (.file script.text)
  distinct : (.ok (loadPlace top) :: scripts.map fun script => tree.openFile top script.path).Nodup
  loads : ∃ stem : Script → String, (∀ script ∈ scripts, script.NamedBy (stem script)) ∧
    tree.entry (loadPlace top) =
      some (.file (if scripts = [] then noScripts else loadLines stem scripts))

/-- The builder returns, and leaves a faithful tree. -/
def BuildsFaithfully (env : Environment) (top : Place) (ipAddress : String) (s : Files) : Prop :=
  ∃ s', (buildZeekScriptsFile ipAddress).run (handleFiles env top) s = (.ok (), s') ∧
    FaithfulTree top (scripts s.world.db ipAddress) s'.tree

/-- The keys of the rule sets are there, the calls go through and spare each other, stay in the
    temporary directory and off the load file, and the scripts are well named. -/
def ScriptsApart (db : Db) (ipAddress : String) (top : Place) (t : FileTree) : Prop :=
  ScriptKeys db ∧ ∃ t' written,
    layScripts top (scriptSteps db ipAddress) (freshTree top t) = some (t', written) ∧
    written.Pairwise KeptApart ∧
      (∀ x ∈ complete written, top <:+ x.1 ∧ x.1 ≠ loadPlace top) ∧
        ∀ script ∈ scripts db ipAddress, script.WellNamed

/-- The load file names the scripts just if they are well named. -/
theorem loads_iff {top : Place} {db : Db} {ipAddress : String} (t : FileTree) :
    (∃ stem : Script → String, (∀ script ∈ scripts db ipAddress, script.NamedBy (stem script)) ∧
        (t.set (loadPlace top) (.file (loadFile db ipAddress))).entry (loadPlace top) =
          some (.file (if scripts db ipAddress = [] then noScripts
            else loadLines stem (scripts db ipAddress)))) ↔
      ∀ script ∈ scripts db ipAddress, script.WellNamed := by
  rw [FileTree.set_entry_self, loadFile_eq]
  constructor
  · rintro ⟨stem, hnamed, -⟩ script hscript
    exact ((Script.namedBy_iff _ _).mp (hnamed script hscript)).1
  · intro hwell
    exact ⟨Script.loadName, fun script hscript =>
      (Script.namedBy_iff _ _).mpr ⟨hwell script hscript, rfl⟩, rfl⟩

/-- Places that are found are apart just if the places are. -/
theorem nodup_cons_ok_iff (load : Place) (found : List (Place × String)) :
    (.ok load :: found.map fun x => (.ok x.1 : Except FileError Place)).Nodup ↔
      (∀ x ∈ found, x.1 ≠ load) ∧ (found.map Prod.fst).Nodup := by
  have hmap : (found.map fun x => (.ok x.1 : Except FileError Place)) =
      (found.map Prod.fst).map .ok := by
    rw [List.map_map]
    rfl
  have hfresh : .ok load ∉ (found.map Prod.fst).map (Except.ok : Place → Except FileError Place) ↔
      ∀ x ∈ found, x.1 ≠ load := by
    constructor
    · intro hmem x hx heq
      exact hmem (List.mem_map_of_mem (heq ▸ List.mem_map_of_mem hx))
    · intro hload hmem
      obtain ⟨p, hp, heq⟩ := List.mem_map.mp hmem
      obtain ⟨x, hx, rfl⟩ := List.mem_map.mp hp
      exact hload x hx (Except.ok.inj heq)
  rw [hmap, List.nodup_cons, hfresh, List.nodup_map_iff fun _ _ heq => Except.ok.inj heq]

/-- The tree is faithful just if the contents are in files of their own, in the directory. -/
theorem faithfulTree_iff {top : Place} {db : Db} {ipAddress : String} {t t' : FileTree}
    {written : List Written}
    (hlay : layScripts top (scriptSteps db ipAddress) (freshTree top t) = some (t', written)) :
    FaithfulTree top (scripts db ipAddress)
        (t'.set (loadPlace top) (.file (loadFile db ipAddress))) ↔
      written.Pairwise KeptApart ∧
        (∀ x ∈ complete written, top <:+ x.1 ∧ x.1 ≠ loadPlace top) ∧
          ∀ script ∈ scripts db ipAddress, script.WellNamed := by
  obtain ⟨tree, htree⟩ :
    ∃ tree, tree = t'.set (loadPlace top) (.file (loadFile db ipAddress)) := ⟨_, rfl⟩
  have hother {p : Place} (hp : p ≠ loadPlace top) : tree.entry p = t'.entry p := by
    rw [htree, t'.set_entry_of_ne _ hp]
  have hwithin : t'.Within tree := by
    obtain ⟨content, hload⟩ := file_of_layScripts top hlay ⟨"", if_pos rfl⟩
    rw [htree]
    exact FileTree.within_set _ (by simp [hload])
  have hfiles (p : Place) (hp : ∃ content, t'.entry p = some (.file content)) :
      tree.entry p ≠ some .directory := by
    by_cases hload : p = loadPlace top
    · rw [hload, htree, t'.set_entry_self]
      simp
    · obtain ⟨content, hp⟩ := hp
      rw [hother hload, hp]
      simp
  have hopen := openFile_of_layScripts hlay hwithin hfiles
  rw [filterMap_scriptSteps] at hopen
  have hplaces : (scripts db ipAddress).map (fun script => tree.openFile top script.path) =
      (complete written).map fun x => .ok x.1 := by
    have hfst := congrArg (List.map Prod.fst) hopen
    rw [List.map_map, List.map_map] at hfst
    exact hfst
  have hscripts (P : Except FileError Place × String → Prop) :
      (∀ script ∈ scripts db ipAddress, P (tree.openFile top script.path, script.text)) ↔
        ∀ x ∈ complete written, P (.ok x.1, x.2) := by
    have hall := congrArg (fun l => ∀ y ∈ l, P y) hopen
    simpa only [List.forall_mem_map, eq_iff_iff] using hall
  have hdistinct : (.ok (loadPlace top) :: (scripts db ipAddress).map fun script =>
      tree.openFile top script.path).Nodup ↔
        (∀ x ∈ complete written, x.1 ≠ loadPlace top) ∧
          ((complete written).map Prod.fst).Nodup := by
    rw [hplaces]
    exact nodup_cons_ok_iff (loadPlace top) (complete written)
  rw [pairwise_keptApart_iff hlay, ← htree]
  constructor
  · rintro ⟨hfiles, hnodup, hloads⟩
    have hin := (hscripts fun y => ∃ place, y.1 = .ok place ∧ top <:+ place ∧
      tree.entry place = some (.file y.2)).mp hfiles
    obtain ⟨hload, hnodup⟩ := hdistinct.mp hnodup
    refine ⟨⟨hnodup, fun x hx => ?_⟩, fun x hx => ?_, (loads_iff t').mp (htree ▸ hloads)⟩
    · obtain ⟨place, hplace, -, hentry⟩ := hin x hx
      cases hplace
      exact (hother (hload x hx)).symm.trans hentry
    · obtain ⟨place, hplace, htop, -⟩ := hin x hx
      cases hplace
      exact ⟨htop, hload x hx⟩
  · rintro ⟨⟨hnodup, hentries⟩, hin, hwell⟩
    have hload (x : Place × String) (hx : x ∈ complete written) := (hin x hx).2
    refine ⟨?_, hdistinct.mpr ⟨hload, hnodup⟩, htree ▸ (loads_iff t').mpr hwell⟩
    exact (hscripts fun y => ∃ place, y.1 = .ok place ∧ top <:+ place ∧
      tree.entry place = some (.file y.2)).mpr fun x hx =>
        ⟨x.1, rfl, (hin x hx).1, (hother (hload x hx)).trans (hentries x hx)⟩

/-- The builder leaves a faithful tree if and only if the scripts are kept apart. -/
theorem buildsFaithfully_iff (env : Environment) (top : Place) (ipAddress : String) (s : Files) :
    BuildsFaithfully env top ipAddress s ↔ ScriptsApart s.world.db ipAddress top s.tree := by
  by_cases hkeys : ScriptKeys s.world.db
  swap
  · -- a missing key ends the building
    constructor
    · rintro ⟨s', hrun, -⟩
      exact absurd ((scriptKeys_of_returns env top ipAddress s.world.db).ok rfl hrun) hkeys
    · exact fun hapart => absurd hapart.1 hkeys
  obtain ⟨r, s', hrun, ⟨t, written, rfl, hlay, htree⟩ | ⟨e, rfl, hlay⟩⟩ :=
    run_buildZeekScriptsFile env top ipAddress hkeys
  · have hiff := faithfulTree_iff hlay
    rw [← htree] at hiff
    constructor
    · rintro ⟨s'', hrun', htree'⟩
      rw [hrun] at hrun'
      cases hrun'
      exact ⟨hkeys, t, written, hlay, hiff.mp htree'⟩
    · rintro ⟨-, t'', written', hlay', hapart⟩
      rw [hlay] at hlay'
      cases hlay'
      exact ⟨s', hrun, hiff.mpr hapart⟩
  · constructor
    · rintro ⟨s'', hrun', -⟩
      rw [hrun] at hrun'
      cases hrun'
    · rintro ⟨-, t'', written', hlay', -⟩
      rw [hlay] at hlay'
      cases hlay'

/-! ### Two rule sets of one name -/

def zeekRuleSet (name : String) : RuleSetDoc where
  appType := RuleTypes.zeekScripts
  name := name
  sensors := some (some [⟨"sensor1.lan", "10.40.12.146"⟩])
  isEnabled := some true
  state := .dirty
  sensorStates := none

/-- Two rule sets whose names differ in a space and an underscore. -/
def spacedRuleSets : World where
  db
    | .ruleset =>
        (Table.empty.upsert "r1" (zeekRuleSet "web rules")).upsert "r2" (zeekRuleSet "web_rules")
    | _ => Table.empty
  calls := 0

/-- The directory of the second is there already. -/
theorem not_buildsFaithfully : ¬ ∀ (env : Environment) (top : Place) (ipAddress : String)
    (s : Files),
    BuildsFaithfully env top ipAddress s := by
  intro h
  obtain ⟨s', hrun, -⟩ := h steadyEnv ["tmp7k", "tmp"] "10.40.12.146"
    ⟨spacedRuleSets, ⟨fun _ => none⟩⟩
  have hraises : ((buildZeekScriptsFile "10.40.12.146").run (handleFiles steadyEnv ["tmp7k", "tmp"])
      ⟨spacedRuleSets, ⟨fun _ => none⟩⟩).1 = .error (.fileExistsError "web_rules") := by
    decide +kernel
  rw [hrun] at hraises
  cases hraises

end Tfplenum
