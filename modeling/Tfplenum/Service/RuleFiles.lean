/-
  Tfplenum.Service.RuleFiles

  What the builders of the three line files write.  `ruleLines` is the content as
  two filters over the database.  The builders compute it as long as the rule sets
  of their type have the keys that are looked up; a rule set that was sent without
  its sensors ends the building, of whatever sensor.
-/

import Tfplenum.Lib.Hoare
import Tfplenum.Service.RulesyncService

namespace Tfplenum

open Lib

/-- The files that hold one rule after the other. -/
inductive LineFile where
  | suricata | zeekIntel | zeekSignatures
deriving DecidableEq, Repr

namespace LineFile

/-- The application type of the rule sets that go into the file. -/
def appType : LineFile → String
  | suricata => RuleTypes.suricata
  | zeekIntel => RuleTypes.zeekIntel
  | zeekSignatures => RuleTypes.zeekSignatures

def build : LineFile → String → Prog String
  | suricata => buildSuricataRuleFile
  | zeekIntel => buildZeekIntelFile
  | zeekSignatures => buildZeekSignaturesFile

end LineFile

/-! ## The content -/

/-- A rule with all its fields that is enabled. -/
def RuleDoc.isWritten (rule : RuleDoc) : Bool := rule.isEnabled = some true && rule.rule.isSome

/-- The enabled rule sets of the type that are assigned to the sensor. -/
def builtRuleSets (db : Db) (ruleType ipAddress : String) : List (String × RuleSetDoc) :=
  (db .ruleset).find fun _ ruleSet => ruleSet.isBuilt ruleType ipAddress

/-- The enabled, complete rules. -/
def writtenRules (db : Db) : List (String × RuleDoc) :=
  (db .rule).find fun _ rule => rule.isWritten

/-- The enabled, complete rules of a rule set. -/
def writtenRulesOf (db : Db) (ruleSetId : String) : List (String × RuleDoc) :=
  (writtenRules db).filter fun rule => rule.2.ruleSetId = ruleSetId

/-- The lines of the file, in the order of the database. -/
def ruleLines (db : Db) (ruleType ipAddress : String) : List String :=
  (builtRuleSets db ruleType ipAddress).flatMap fun ruleSet =>
    (writtenRulesOf db ruleSet.1).map fun rule => rule.2.rule.getD "" ++ "\n"

def noRulesets := "# No rulesets where enabled for this Sensor."

/-- The content of the file. -/
def lineFile (db : Db) (ruleType ipAddress : String) : String :=
  if String.join (ruleLines db ruleType ipAddress) = "" then noRulesets
  else String.join (ruleLines db ruleType ipAddress)

/-! ## The placeholder -/

/-- Lines end in a newline. -/
theorem getLast?_join_lines {texts : List String} (h : texts ≠ []) :
    (String.join (texts.map (· ++ "\n"))).toList.getLast? = some '\n' := by
  induction texts with
  | nil => exact absurd rfl h
  | cons text texts ih =>
      rw [List.map_cons, String.join_cons, String.toList_append, List.getLast?_append]
      by_cases hnil : texts = []
      · subst hnil
        simp
      · rw [ih hnil]
        rfl

/-- The lines are those of some texts. -/
theorem exists_ruleLines_eq (db : Db) (ruleType ipAddress : String) :
    ∃ texts : List String, ruleLines db ruleType ipAddress = texts.map (· ++ "\n") := by
  refine ⟨(builtRuleSets db ruleType ipAddress).flatMap fun ruleSet =>
    (writtenRulesOf db ruleSet.1).map fun rule => rule.2.rule.getD "", ?_⟩
  simp only [ruleLines, List.map_flatMap, List.map_map]
  rfl

/-- The placeholder is no content of its own. -/
theorem join_ruleLines_ne_noRulesets (db : Db) (ruleType ipAddress : String) :
    String.join (ruleLines db ruleType ipAddress) ≠ noRulesets := by
  obtain ⟨texts, htexts⟩ := exists_ruleLines_eq db ruleType ipAddress
  rw [htexts]
  intro heq
  by_cases hnil : texts = []
  · subst hnil
    simp [noRulesets] at heq
  · have hlast := getLast?_join_lines hnil
    rw [heq] at hlast
    revert hlast
    decide

theorem lineFile_eq_noRulesets_iff (db : Db) (ruleType ipAddress : String) :
    lineFile db ruleType ipAddress = noRulesets ↔
      String.join (ruleLines db ruleType ipAddress) = "" := by
  unfold lineFile
  split
  · rename_i hnone
    simp [hnone]
  · rename_i hsome
    simp [hsome, join_ruleLines_ne_noRulesets]

/-! ## The builders -/

theorem join_map_line (rules : List (String × RuleDoc)) :
    String.join (rules.map fun rule => rule.2.line) =
      String.join ((rules.filter fun rule => rule.2.isWritten).map fun rule =>
        rule.2.rule.getD "" ++ "\n") := by
  induction rules with
  | nil => rfl
  | cons rule rules ih =>
      rw [List.map_cons, String.join_cons, ih, List.filter_cons]
      rcases rule with ⟨id, ruleSetId, ruleName, _ | content, _ | _ | _⟩ <;>
        simp [RuleDoc.line, RuleDoc.isWritten]

theorem run_findRules (env : Environment) (ruleSetId : String) (w : World) :
    (findRules ruleSetId).run (handle env) w =
      (.ok ((w.db .rule).find fun _ rule => rule.ruleSetId = ruleSetId), w) := rfl

/-- Reading the rules twice is reading them once. -/
theorem run_rulesToWrite (env : Environment) (ruleSetId : String) (w : World) :
    (rulesToWrite ruleSetId).run (handle env) w =
      (.ok ((w.db .rule).find fun _ rule => rule.ruleSetId = ruleSetId), w) := by
  rw [rulesToWrite, Program.bind_eq, Program.run_bind_ok _ (run_findRules env ruleSetId w)]
  split
  · rename_i hempty
    rw [List.isEmpty_iff.mp hempty]
    rfl
  · exact run_findRules env ruleSetId w

theorem join_lines_find (db : Db) (ruleSetId : String) :
    String.join (((db .rule).find fun _ rule => rule.ruleSetId = ruleSetId).map
        fun rule => rule.2.line) =
      String.join ((writtenRulesOf db ruleSetId).map fun rule => rule.2.rule.getD "" ++ "\n") := by
  rw [join_map_line]
  simp only [writtenRulesOf, writtenRules, Table.find, List.filter_filter, Bool.and_comm]

/-- Rule sets that are not built add nothing. -/
theorem join_map_ite {α : Type} (as : List α) (q : α → Bool) (lines : α → List String) :
    String.join (as.map fun a => if q a then String.join (lines a) else "") =
      String.join ((as.filter q).flatMap lines) := by
  induction as with
  | nil => rfl
  | cons a as ih =>
      rw [List.map_cons, String.join_cons, ih, List.filter_cons]
      by_cases hq : q a = true <;> simp [hq]

/-- What a builder does with one rule set that has its keys. -/
theorem run_ruleSetText (env : Environment) {ruleType ipAddress : String} (w : World)
    {ruleSet : String × RuleSetDoc} (hkeys : ruleSet.2.HasKeys ruleType ipAddress) :
    (ruleSetText ruleType ipAddress ruleSet).run (handle env) w =
      (.ok (if ruleSet.2.isBuilt ruleType ipAddress then
        String.join ((writtenRulesOf w.db ruleSet.1).map fun rule => rule.2.rule.getD "" ++ "\n")
      else ""), w) := by
  rw [ruleSetText, goesIntoFile_of_hasKeys hkeys, Program.bind_eq, Program.done_bind]
  split
  · rw [Program.bind_eq, Program.run_bind_ok _ (run_rulesToWrite env ruleSet.1 w),
      Program.pure_eq, Program.run_done, join_lines_find]
  · rfl

/-- The rule sets have the keys that the building of the file looks up. -/
def FileKeys (db : Db) (ruleType ipAddress : String) : Prop :=
  ∀ ruleSet ∈ (db .ruleset).rows, ruleSet.2.HasKeys ruleType ipAddress

theorem run_makeTemp (env : Environment) (w : World) :
    (Prog.orRaise (Prog.ask .makeTemp)).run (handle env) w =
      (env .makeTemp w.calls, { w with calls := w.calls + 1 }) := by
  simp [Prog.orRaise, Prog.ask]

/-- The builders compute the content, and change nothing. -/
theorem run_buildRulesFile (env : Environment) {ruleType ipAddress : String} {w : World}
    (hkeys : FileKeys w.db ruleType ipAddress) :
    (buildRulesFile ruleType ipAddress).run (handle env) w =
      ((env .makeTemp w.calls).map fun _ => lineFile w.db ruleType ipAddress,
        { w with calls := w.calls + 1 }) := by
  rw [buildRulesFile, Program.bind_eq, Program.run_bind, run_makeTemp]
  cases env .makeTemp w.calls with
  | error e => rfl
  | ok _ =>
      have hsets : getRulesets.run (handle env) { w with calls := w.calls + 1 } =
          (.ok (w.db .ruleset).rows, { w with calls := w.calls + 1 }) := by
        simp [getRulesets, Prog.find, Table.find]
      have htexts := Program.run_mapEach_of_pure (handle env)
        fun ruleSet (hmem : ruleSet ∈ (w.db .ruleset).rows) =>
          run_ruleSetText env { w with calls := w.calls + 1 } (hkeys ruleSet hmem)
      rw [Program.andThen_ok, Program.bind_eq, Program.run_bind_ok _ hsets, Program.bind_eq,
        Program.run_bind_ok _ htexts, join_map_ite]
      rfl

/-- A builder that returns has found the keys in every rule set. -/
theorem fileKeys_of_returns (env : Environment) (ruleType ipAddress : String) (db : Db) :
    Triple (handle env) (fun w => w.db = db) (buildRulesFile ruleType ipAddress)
      (fun _ _ => FileKeys db ruleType ipAddress) fun _ _ => True := by
  have hread {α : Type} {p : Prog α} (hp : p.Uses Op.readsOnly) :
      Triple (handle env) (fun w => w.db = db) p (fun _ w => w.db = db) fun _ _ => True :=
    (Triple.of_uses hp fun _ w hop hw => (db_of_readsOnly hop w).trans hw).conseq
      (fun _ hw => hw) (fun _ _ hw => hw) fun _ _ _ => trivial
  have hsets : Triple (handle env) (fun w => w.db = db) getRulesets
      (fun rows w => rows = (db .ruleset).rows ∧ w.db = db) fun _ _ => True := by
    refine Triple.perform fun w hw => ⟨?_, hw⟩
    rw [← hw]
    exact List.filter_true _
  unfold buildRulesFile
  refine (hread (Prog.uses_orRaise (Prog.readsOnly_ask _))).bind fun _ => ?_
  refine hsets.bind fun rows => Triple.assume fun hrows => ?_
  have hbody : ∀ ruleSet ∈ rows, Triple (handle env) (fun w => w.db = db)
      (ruleSetText ruleType ipAddress ruleSet)
      (fun _ w => ruleSet.2.HasKeys ruleType ipAddress ∧ w.db = db) fun _ _ => True := by
    intro ruleSet _
    by_cases hkeys : ruleSet.2.HasKeys ruleType ipAddress
    · exact (hread (readsOnly_ruleSetText _ _ ruleSet)).post fun _ _ hw => ⟨hkeys, hw⟩
    · obtain ⟨e, hraise⟩ := goesIntoFile_of_not_hasKeys hkeys
      rw [ruleSetText, hraise]
      exact Triple.raise fun _ _ => trivial
  refine (Triple.mapEach hbody).bind fun texts => Triple.done fun w hw ruleSet hmem => ?_
  obtain ⟨text, -, hkeys⟩ := exists_of_forall₂ hw.1 (hrows ▸ hmem)
  exact hkeys

/-! ## What the file does not depend on -/

/-- Databases with the same built rule sets, and the same rules to write in these, have
    the same file. -/
theorem lineFile_congr {db db' : Db} {ruleType ipAddress : String}
    (hsets : builtRuleSets db' ruleType ipAddress = builtRuleSets db ruleType ipAddress)
    (hrules : ∀ ruleSet ∈ builtRuleSets db ruleType ipAddress,
      writtenRulesOf db' ruleSet.1 = writtenRulesOf db ruleSet.1) :
    lineFile db' ruleType ipAddress = lineFile db ruleType ipAddress := by
  have hlines : ruleLines db' ruleType ipAddress = ruleLines db ruleType ipAddress := by
    rw [ruleLines, ruleLines, hsets]
    refine List.flatMap_congr fun ruleSet hmem => ?_
    rw [hrules ruleSet hmem]
  rw [lineFile, lineFile, hlines]

/-- The change of one rule set. -/
def changeRuleSet (db : Db) (id : String) (f : RuleSetDoc → RuleSetDoc) : Db :=
  Function.update db .ruleset ((db .ruleset).modify id f)

/-- The change of one rule. -/
def changeRule (db : Db) (id : String) (f : RuleDoc → RuleDoc) : Db :=
  Function.update db .rule ((db .rule).modify id f)

/-- A rule set of another type, of other sensors, or disabled, does not matter. -/
theorem lineFile_changeRuleSet {db : Db} {ruleType ipAddress id : String}
    {f : RuleSetDoc → RuleSetDoc}
    (h : ∀ doc, (db .ruleset).get? id = some doc →
      doc.isBuilt ruleType ipAddress = false ∧ (f doc).isBuilt ruleType ipAddress = false) :
    lineFile (changeRuleSet db id f) ruleType ipAddress = lineFile db ruleType ipAddress := by
  refine lineFile_congr ?_ fun ruleSet _ => ?_
  · rw [builtRuleSets, changeRuleSet, Function.update_self]
    exact Table.find_modify h
  · rw [writtenRulesOf, writtenRules, changeRuleSet, Function.update_of_ne (by decide)]
    rfl

/-- A rule that is disabled, incomplete, or of a rule set that is not built, does not matter. -/
theorem lineFile_changeRule {db : Db} {ruleType ipAddress id : String} {f : RuleDoc → RuleDoc}
    (h : ∀ rule, (db .rule).get? id = some rule → ∀ rule' ∈ [rule, f rule],
      rule'.isWritten = true →
        rule'.ruleSetId ∉ (builtRuleSets db ruleType ipAddress).map Prod.fst) :
    lineFile (changeRule db id f) ruleType ipAddress = lineFile db ruleType ipAddress := by
  have hsets : builtRuleSets (changeRule db id f) ruleType ipAddress =
      builtRuleSets db ruleType ipAddress := by
    rw [builtRuleSets, changeRule, Function.update_of_ne (by decide)]
    rfl
  refine lineFile_congr hsets fun ruleSet hmem => ?_
  have hq (d : Db) : writtenRulesOf d ruleSet.1 =
      (d .rule).find fun _ rule => decide (rule.ruleSetId = ruleSet.1) && rule.isWritten := by
    rw [writtenRulesOf, writtenRules, Table.find, Table.find, List.filter_filter]
  have hnot {rule : RuleDoc} (hw : rule.isWritten = true →
      rule.ruleSetId ∉ (builtRuleSets db ruleType ipAddress).map Prod.fst) :
      (decide (rule.ruleSetId = ruleSet.1) && rule.isWritten) = false := by
    rw [Bool.and_eq_false_imp, decide_eq_true_iff]
    intro heq
    rw [← Bool.not_eq_true]
    intro hwritten
    exact hw hwritten (heq ▸ List.mem_map_of_mem hmem)
  rw [hq, hq, changeRule, Function.update_self]
  refine Table.find_modify fun rule hget => ⟨?_, ?_⟩
  · exact hnot (h rule hget rule (List.mem_cons_self ..))
  · exact hnot (h rule hget (f rule) (List.mem_cons_of_mem _ (List.mem_cons_self ..)))

/-! ## Exact files -/

/-- The builder writes the lines of the enabled, complete rules of the enabled rule sets of its
    type that are assigned to the sensor; it writes the placeholder if and only if there are
    none; and no other rule set or rule matters. -/
structure ExactFile (file : LineFile) (ipAddress : String) (db : Db) : Prop where
  content : ∀ (env : Environment) (calls : Nat),
    (file.build ipAddress).run (handle env) ⟨db, calls⟩ =
      ((env .makeTemp calls).map fun _ => lineFile db file.appType ipAddress, ⟨db, calls + 1⟩)
  placeholder : lineFile db file.appType ipAddress = noRulesets ↔
    String.join (ruleLines db file.appType ipAddress) = ""
  otherRuleSets : ∀ id f, (∀ doc, (db .ruleset).get? id = some doc →
      doc.isBuilt file.appType ipAddress = false ∧ (f doc).isBuilt file.appType ipAddress = false ∧
        (f doc).HasKeys file.appType ipAddress) →
    ∀ (env : Environment) (calls : Nat),
      ((file.build ipAddress).run (handle env) ⟨changeRuleSet db id f, calls⟩).1 =
        ((file.build ipAddress).run (handle env) ⟨db, calls⟩).1
  otherRules : ∀ id f, (∀ rule, (db .rule).get? id = some rule → ∀ rule' ∈ [rule, f rule],
      rule'.isWritten = true →
        rule'.ruleSetId ∉ (builtRuleSets db file.appType ipAddress).map Prod.fst) →
    ∀ (env : Environment) (calls : Nat),
      ((file.build ipAddress).run (handle env) ⟨changeRule db id f, calls⟩).1 =
        ((file.build ipAddress).run (handle env) ⟨db, calls⟩).1

theorem run_build (env : Environment) {file : LineFile} {ipAddress : String} {w : World}
    (hkeys : FileKeys w.db file.appType ipAddress) :
    (file.build ipAddress).run (handle env) w =
      ((env .makeTemp w.calls).map fun _ => lineFile w.db file.appType ipAddress,
        { w with calls := w.calls + 1 }) := by
  cases file <;> exact run_buildRulesFile env hkeys

theorem fileKeys_changeRuleSet {db : Db} {ruleType ipAddress id : String}
    {f : RuleSetDoc → RuleSetDoc} (hkeys : FileKeys db ruleType ipAddress)
    (hf : ∀ doc, (db .ruleset).get? id = some doc → (f doc).HasKeys ruleType ipAddress) :
    FileKeys (changeRuleSet db id f) ruleType ipAddress := by
  rintro ⟨id', doc⟩ hmem
  have hget := Table.get?_eq_some_iff.mpr hmem
  rw [changeRuleSet, Function.update_self, Table.get?_modify] at hget
  split at hget
  · obtain ⟨old, hold, rfl⟩ := Option.map_eq_some_iff.mp hget
    rename_i hid
    exact hf old (hid ▸ hold)
  · exact hkeys (id', doc) (Table.get?_eq_some_iff.mp hget)

/-- The file of a sensor is exact if and only if every rule set of its type has its sensors,
    and says whether it is enabled if the sensor is among them. -/
theorem lineFiles_exact_iff (file : LineFile) (ipAddress : String) (db : Db) :
    ExactFile file ipAddress db ↔ FileKeys db file.appType ipAddress := by
  constructor
  · intro hexact
    have hrun : (buildRulesFile file.appType ipAddress).run (handle steadyEnv) ⟨db, 0⟩ =
        (.ok (lineFile db file.appType ipAddress), ⟨db, 1⟩) := by
      have hcontent := hexact.content steadyEnv 0
      cases file <;> exact hcontent
    exact (fileKeys_of_returns steadyEnv file.appType ipAddress db).ok rfl hrun
  · intro hkeys
    refine ⟨fun env calls => run_build env hkeys, lineFile_eq_noRulesets_iff _ _ _, ?_, ?_⟩
    · intro id f hf env calls
      have hkeys' : FileKeys (changeRuleSet db id f) file.appType ipAddress :=
        fileKeys_changeRuleSet hkeys fun doc hdoc => (hf doc hdoc).2.2
      rw [run_build env hkeys', run_build env hkeys,
        lineFile_changeRuleSet fun doc hdoc => ⟨(hf doc hdoc).1, (hf doc hdoc).2.1⟩]
    · intro id f hf env calls
      have hkeys' : FileKeys (changeRule db id f) file.appType ipAddress := by
        unfold FileKeys
        rw [changeRule, Function.update_of_ne (by decide)]
        exact hkeys
      rw [run_build env hkeys', run_build env hkeys, lineFile_changeRule hf]

/-! ### A rule set without sensors -/

/-- A rule set as it is stored when it is sent with its type and name alone. -/
def bareRuleSet : RuleSetDoc where
  appType := RuleTypes.suricata
  name := "local"
  sensors := none
  isEnabled := none
  state := .created
  sensorStates := none

theorem not_lineFiles_exact : ¬ ∀ (file : LineFile) (ipAddress : String) (db : Db),
    ExactFile file ipAddress db := by
  intro hclaim
  have hcontent := (hclaim .suricata "10.40.12.146"
    (Function.update (fun _ => Table.empty) .ruleset (Table.empty.upsert "r1" bareRuleSet))).content
      steadyEnv 0
  have hraises : ((LineFile.suricata.build "10.40.12.146").run (handle steadyEnv)
      ⟨Function.update (fun _ => Table.empty) .ruleset (Table.empty.upsert "r1" bareRuleSet),
        0⟩).1 = .error (.keyError "sensors") := by
    decide +kernel
  rw [hcontent] at hraises
  cases hraises

end Tfplenum
