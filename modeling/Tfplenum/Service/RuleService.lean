/-
  Tfplenum.Service.RuleService

  The requests on rules of `controller/ruleset_controller.py` and the part of
  `service/ruleset_service.py` behind them: single rules, files that are cut into
  chunks, and archives of files.  The validators run a container over the rule;
  what it answers is up to the environment.
-/

import Tfplenum.Service.RulesetService

namespace Tfplenum

open Lib

namespace RuleTypes
def suricata := "Suricata"
def zeekScripts := "Zeek Scripts"
def zeekIntel := "Zeek Intel"
def zeekSignatures := "Zeek Signatures"
end RuleTypes

def ruleTypes : List String :=
  [RuleTypes.suricata, RuleTypes.zeekScripts, RuleTypes.zeekIntel, RuleTypes.zeekSignatures]

/-- `check_zeek_exec_module` -/
def checkZeekExecModule (ruleType rule : String) : Bool :=
  ruleType = RuleTypes.zeekScripts && hasSubstring rule "Exec::"

/-! ## Validation -/

/-- Pull the image, and run it over the rule in a directory of its own; a run that is not
    accepted is answered with its output. -/
def validateWith (image command : String) (accepted : String × Int → Bool) :
    Prog (Bool × String) := do
  let pulled ← Prog.orRaise (Prog.ask (.runCommand ("docker pull " ++ image)))
  if pulled.2 = 0 then
    let ran ← Prog.orRaise (Prog.ask (.runCommand ("docker run " ++ image ++ command)))
    pure (if accepted ran then (true, "") else (false, ran.1))
  else pure (false, pulled.1)

def validateSuricataRule : Prog (Bool × String) :=
  validateWith "localhost:5000/tfplenum/suricata" " suricata -T" fun ran => ran.2 = 0

def validateZeekScript : Prog (Bool × String) :=
  validateWith "localhost:5000/tfplenum/zeek" " -S custom.zeek" fun ran => ran.2 = 0

/-- An intel file is accepted by its empty output, whatever the return code. -/
def validateZeekIntel : Prog (Bool × String) :=
  validateWith "localhost:5000/tfplenum/zeek" " -r wannacry.pcap local.zeek" fun ran => ran.1 = ""

def validateZeekSignature : Prog (Bool × String) :=
  validateWith "localhost:5000/tfplenum/zeek" " -s custom.sig" fun ran => ran.2 = 0

/-- The validator of a rule type; `none` where there is none. -/
def validateRule (ruleType : String) : Prog (Option (Bool × String)) :=
  if ruleType = RuleTypes.suricata then some <$> validateSuricataRule
  else if ruleType = RuleTypes.zeekScripts then some <$> validateZeekScript
  else if ruleType = RuleTypes.zeekIntel then some <$> validateZeekIntel
  else if ruleType = RuleTypes.zeekSignatures then some <$> validateZeekSignature
  else pure none

/-- What is by-passed is valid. -/
def validateUnless (byPassValidation : Bool) (ruleType : String) : Prog (Option (Bool × String)) :=
  if byPassValidation then pure (some (true, "")) else validateRule ruleType

/-- The validators do nothing but run commands. -/
theorem uses_validateWith {A : Op → Prop} (hA : ∀ command, A (.external (.runCommand command)))
    (image command : String) (accepted : String × Int → Bool) :
    (validateWith image command accepted).Uses A := by
  have hask (command : String) : (Prog.ask (.runCommand command)).Uses A :=
    (Program.uses_perform _).mpr (hA command)
  refine (Prog.uses_orRaise (hask _)).bind fun pulled => ?_
  split
  · exact (Prog.uses_orRaise (hask _)).bind fun ran => .done _
  · exact .done _

theorem uses_validateRule {A : Op → Prop} (hA : ∀ command, A (.external (.runCommand command)))
    (ruleType : String) : (validateRule ruleType).Uses A := by
  unfold validateRule
  split
  · exact (uses_validateWith hA _ _ _).bind fun _ => .done _
  split
  · exact (uses_validateWith hA _ _ _).bind fun _ => .done _
  split
  · exact (uses_validateWith hA _ _ _).bind fun _ => .done _
  split
  · exact (uses_validateWith hA _ _ _).bind fun _ => .done _
  · exact .done _

theorem readsOnly_validateRule (ruleType : String) : (validateRule ruleType).Uses Op.readsOnly :=
  uses_validateRule (fun _ => trivial) ruleType

theorem readsOnly_validateUnless (byPassValidation : Bool) (ruleType : String) :
    (validateUnless byPassValidation ruleType).Uses Op.readsOnly := by
  unfold validateUnless
  split
  · exact .done _
  · exact readsOnly_validateRule ruleType

/-! ## Rules from files -/

/-- `create_rule_service` -/
def createRuleService (rule : RuleDoc) (rulesetId : String) : Prog (Option RuleDoc) := do
  let id ← Prog.ask .uuid4
  let inserted ← Prog.insertOne .rule id { rule with ruleSetId := rulesetId }
  Program.when (inserted = false) (Program.raise .duplicateKeyError)
  Prog.findById .rule id

/-- What the code reads of a rule set it creates rules for. -/
structure RuleSetOf where
  id : String
  appType : String

/-- `_create_rule_srv_wrapper`, with `is_enabled` at its default -/
def createRuleSrvWrapper (ruleSet : RuleSetOf) (ruleName ruleContent : String)
    (ignoreErrors byPassValidation : Bool) (header : String) : Prog (Option RuleDoc) := do
  if checkZeekExecModule ruleSet.appType ruleContent then
    Program.raise (.prohibitedExecFunc "Exec module prohibited")
  else
    let rule (content : String) : RuleDoc := ⟨ruleSet.id, some ruleName, some content, some true⟩
    if byPassValidation then createRuleService (rule ruleContent) ruleSet.id
    else
      let outcome := (← validateRule ruleSet.appType).getD (false, "Unsupported rule type.")
      -- the header of an intel file goes before each of its chunks
      let content :=
        if ruleSet.appType = RuleTypes.zeekIntel then header ++ ruleContent else ruleContent
      if outcome.1 then createRuleService (rule content) ruleSet.id
      else if ignoreErrors then pure none
      else Program.raise (.invalidRuleSyntax ((outcome.2.splitOn "\n").filter (· ≠ "")))

def chunkSize := 5000000

/-- An uploaded file: its size in bytes, and what reading it as text yields. -/
structure RuleFile where
  name : String
  size : Nat
  text : Except PyError String

/-- `readlines` -/
def readlines : List Char → List (List Char)
  | [] => []
  | c :: cs =>
      if c = '\n' then ['\n'] :: readlines cs
      else
        match readlines cs with
        | [] => [[c]]
        | line :: lines => (c :: line) :: lines

/-- The pieces a large file is cut into, with a piece begun: whole lines, until the piece
    is large enough. -/
def chunksFrom (partialRule : List Char) : List (List Char) → List (List Char)
  | [] => if 0 < partialRule.length then [partialRule] else []
  | line :: lines =>
      let partialRule := partialRule ++ line
      if chunkSize ≤ partialRule.length then partialRule :: chunksFrom [] lines
      else chunksFrom partialRule lines

/-- `_get_file_name`; a name without a dot is cut before its last character. -/
def getFileName (filename : String) (count : Nat) : String :=
  let cs := filename.toList
  let pos := if '.' ∈ cs then cs.length - 1 - cs.reverse.idxOf '.' else cs.length - 1
  String.ofList (cs.take pos) ++ "_" ++ toString count ++ String.ofList (cs.drop pos)

/-- `create_rule_from_file`; a small file is validated even when validation is by-passed. -/
def createRuleFromFile (file : RuleFile) (ruleSet : RuleSetOf)
    (ignoreErrors byPassValidation : Bool) : Prog (List (Option RuleDoc)) := do
  let text ← Program.ofExcept file.text
  if chunkSize < file.size then
    let lines := readlines text.toList
    let header := if ruleSet.appType = RuleTypes.zeekIntel then lines.head?.getD [] else []
    let lines := if ruleSet.appType = RuleTypes.zeekIntel then lines.tail else lines
    Program.mapEach ((chunksFrom [] lines).zipIdx 1) fun chunk =>
      createRuleSrvWrapper ruleSet (getFileName file.name chunk.2) (String.ofList chunk.1)
        ignoreErrors byPassValidation (String.ofList header)
  else
    let rule ← createRuleSrvWrapper ruleSet file.name text ignoreErrors false ""
    pure [rule]

/-- `does_file_have_ext`; without a dot the extension is the last character. -/
def doesFileHaveExt (somePath extension : String) : Bool :=
  let cs := somePath.toList
  let ext := if '.' ∈ cs then '.' :: (cs.reverse.takeWhile (· ≠ '.')).reverse
    else cs.drop (cs.length - 1)
  (String.ofList ext).toLower = extension

/-- An upload: the file, and the files that extracting it as an archive yields, in the
    order in which the directory is walked. -/
structure Upload where
  file : RuleFile
  members : Except PyError (List RuleFile)

/-- `process_zipfile` -/
def processZipfile (members : Except PyError (List RuleFile)) (ruleSet : RuleSetOf)
    (byPassValidation : Bool) : Prog (List (Option RuleDoc)) := do
  let files ← Program.ofExcept members
  let ruleFiles := files.filter fun file =>
    doesFileHaveExt file.name ".txt" || doesFileHaveExt file.name ".rules"
  let rules ← Program.mapEach ruleFiles fun file =>
    createRuleFromFile file ruleSet false byPassValidation
  pure rules.flatten

/-- The rules of an upload, by the extension of its file. -/
def createRulesFromUpload (upload : Upload) (ruleSet : RuleSetOf) (byPassValidation : Bool) :
    Prog (List (Option RuleDoc)) :=
  if doesFileHaveExt upload.file.name ".zip" then
    processZipfile upload.members ruleSet byPassValidation
  else createRuleFromFile upload.file ruleSet false byPassValidation

/-! ## Requests -/

inductive RuleResponse where
  | ok
  | error (messages : List String) (status : Nat)
deriving DecidableEq, Repr

def execProhibited : RuleResponse := .error ["Exec module prohibited"] 403

/-- The exceptions `UploadRule.post` answers. -/
def uploadError : PyError → Prog RuleResponse
  | .invalidRuleSyntax _ =>
      pure (.error ["Error loading rulesets: Duplicate or invalid rulesets " ++
        "detected: see /var/log/tfplenum/tfplenum.log for more detail"] 422)
  | .prohibitedExecFunc message => pure (.error [message] 403)
  | e => Program.raise e

/-- `UploadRule.post`, past the reading of the form -/
def UploadRule.post (ruleSetId : String) (byPassValidation : Option Bool) (upload : Upload) :
    Prog RuleResponse := do
  let byPassValidation := byPassValidation.getD false
  match ← Prog.findById .ruleset ruleSetId with
  | none => pure (.error ["Failed to upload rules file for an unknown reason."] 500)
  | some doc =>
      let ruleSet : RuleSetOf := ⟨ruleSetId, doc.appType⟩
      let create : Prog RuleResponse := do
        let rules ← createRulesFromUpload upload ruleSet byPassValidation
        if rules = [] then
          pure (.error ["Failed to upload rules file for an unknown reason."] 500)
        else pure .ok
      Program.tryExcept create uploadError

/-- The payload of a rule. -/
structure RulePayload where
  id : Option String
  ruleSetId : Option String
  ruleName : Option String
  rule : Option String
  isEnabled : Option Bool
  byPassValidation : Option Bool

/-- `payload[key]` -/
def required {α : Type} (key : String) : Option α → Prog α
  | some value => pure value
  | none => Program.raise (.keyError key)

/-- `{"$set": {"state": RULESET_STATES[1]}}` -/
def RuleSetDoc.dirty (doc : RuleSetDoc) : RuleSetDoc := { doc with state := .dirty }

/-- `RulesCtrl.post` -/
def RulesCtrl.post (payload : RulePayload) : Prog RuleResponse := do
  discard (Prog.ask .uuid4)
  let rulesetId ← required "rule_set_id" payload.ruleSetId
  let byPassValidation ← required "byPassValidation" payload.byPassValidation
  let failed : RuleResponse :=
    .error ["Failed to create a rule for ruleset ID " ++ rulesetId ++ "."] 500
  match ← Prog.findById .ruleset rulesetId with
  | none => pure failed
  | some ruleSet => do
      let content ← required "rule" payload.rule
      if checkZeekExecModule ruleSet.appType content then pure execProhibited
      else
        let outcome := (← validateUnless byPassValidation ruleSet.appType).getD (false, "")
        if outcome.1 then
          let rule ← createRuleService
            ⟨rulesetId, payload.ruleName, payload.rule, payload.isEnabled⟩ rulesetId
          discard (Prog.updateOne .ruleset rulesetId RuleSetDoc.dirty)
          pure (if rule.isSome then .ok else failed)
        else if outcome.2 ≠ "" then pure (.error (outcome.2.splitOn "\n") 400)
        else pure failed

/-- `{"$set": rule}`, of an update -/
def RulePayload.apply (payload : RulePayload) (rulesetId content : String) (doc : RuleDoc) :
    RuleDoc where
  ruleSetId := rulesetId
  ruleName := payload.ruleName.or doc.ruleName
  rule := some content
  isEnabled := payload.isEnabled.or doc.isEnabled

/-- `RulesCtrl.put` -/
def RulesCtrl.put (payload : RulePayload) : Prog RuleResponse := do
  let rulesetId ← required "rule_set_id" payload.ruleSetId
  let idToModify ← required "_id" payload.id
  let byPassValidation ← required "byPassValidation" payload.byPassValidation
  let failed : RuleResponse :=
    .error ["Failed to update a rule for ruleset ID " ++ rulesetId ++ "."] 500
  match ← Prog.findById .ruleset rulesetId with
  | none => pure failed
  | some ruleSet => do
      let content ← required "rule" payload.rule
      if checkZeekExecModule ruleSet.appType content then pure execProhibited
      else
        match ← validateUnless byPassValidation ruleSet.appType with
        | none => Program.raise (.unboundLocalError "error_output")
        | some (true, _) => do
            match ← Prog.updateOne .rule idToModify (payload.apply rulesetId content) with
            | none => pure failed
            | some _ => do
                let updated ← Prog.updateOne .ruleset rulesetId RuleSetDoc.dirty
                pure (if updated.isSome then .ok else failed)
        | some (false, errorOutput) => pure (.error (errorOutput.splitOn "\n") 400)

/-- `{'$set': rule}`, of a rule that was read without its content -/
def RuleDoc.toggled (read : RuleDoc) (isEnabled : Bool) (doc : RuleDoc) : RuleDoc where
  ruleSetId := read.ruleSetId
  ruleName := read.ruleName.or doc.ruleName
  rule := doc.rule
  isEnabled := some !isEnabled

/-- `ToggleRule.put` -/
def ToggleRule.put (ruleId : String) : Prog RuleResponse := do
  match ← Prog.findById .rule ruleId with
  | none => Program.raise (.typeError "'NoneType' object is not subscriptable")
  | some rule => do
      let isEnabled ← required "isEnabled" rule.isEnabled
      let failed : RuleResponse :=
        .error ["Failed to update a rule for ruleset ID " ++ rule.ruleSetId ++ "."] 500
      match ← Prog.updateOne .rule ruleId (rule.toggled isEnabled) with
      | none => pure failed
      | some _ => do
          let updated ← Prog.updateOne .ruleset rule.ruleSetId RuleSetDoc.dirty
          pure (if updated.isSome then .ok else failed)

/-- `DeleteRule.delete` -/
def DeleteRule.delete (ruleId : String) : Prog RuleResponse := do
  let deletedCount ← Prog.deleteOne .rule ruleId
  pure (
    if deletedCount = 1 then .ok
    else .error ["Failed to delete a rule for ruleset ID " ++ ruleId ++ "."] 500)

end Tfplenum
