/-
  Tfplenum.PipelineImages.CommitRules

  `vommit/rules/commit_rules.py`: the two rules of the commit linter that look at
  the title of a commit.
-/

import Tfplenum.Lib.Regex
import Tfplenum.Lib.Unicode

namespace Tfplenum

open Lib

/-- `build|ci|chore|sus|docs|feat|fix|perf|refactor|style|test|loc` -/
def commitTypes : List (List Char) :=
  ["build".toList, "ci".toList, "chore".toList, "sus".toList, "docs".toList, "feat".toList,
    "fix".toList, "perf".toList, "refactor".toList, "style".toList, "test".toList, "loc".toList]

/-- `THISISCVAH|AFDCO` -/
def jiraProjects : List (List Char) := ["THISISCVAH".toList, "AFDCO".toList]

/-- `[0-9]` -/
def isTicketDigit (c : Char) : Bool := '0' ≤ c ∧ c ≤ '9'

/-- `COMMIT_TYPE_REGEXP`, with the type it captures -/
def commitTypeRegexp : Regex (List Char) := do
  let _ ← Regex.text ['(']
  let type ← Regex.oneOf commitTypes
  let _ ← Regex.text [')']
  return type

/-- `JIRA_IDENTIFIER_REGEXP`, with the type, the project and the number it captures -/
def jiraIdentifierRegexp (u : Unicode) : Regex (List Char × List Char × List Char) := do
  let _ ← Regex.text ['(']
  let type ← Regex.oneOf commitTypes
  let _ ← Regex.text [')']
  let _ ← Regex.char u.isSpace
  let project ← Regex.oneOf jiraProjects
  let _ ← Regex.text ['-']
  let number ← Regex.between 0 6 isTicketDigit
  let _ ← Regex.text [':']
  let _ ← Regex.char u.isSpace
  return (type, project, number)

structure RuleViolation where
  ruleId : String
  message : String
  content : String
  lineNr : Option Nat
deriving DecidableEq, Repr

/-- `TitleCommitType.validate` -/
def TitleCommitType.validate (title : String) : List RuleViolation :=
  match commitTypeRegexp.first title.toList with
  | some _ => []
  | none =>
      [⟨"UC1", "| COMMIT TYPE NOT ONE OF THE FOLLOWING (build, ci, chore, sus, docs, feat, fix, " ++
        "perf, refactor, style, test, loc)", title, some 0⟩]

/-- `TitleJiraIdentifier.validate` -/
def TitleJiraIdentifier.validate (u : Unicode) (title : String) : List RuleViolation :=
  match (jiraIdentifierRegexp u).first title.toList with
  | some _ => []
  | none =>
      [⟨"UC2", "| INVALID OR MISSING JIRA IDENTIFIER (THISISCVAH-12345, AFDCO-12345)", title,
        none⟩]

/-- The title passes both rules. -/
def TitleAccepted (u : Unicode) (title : String) : Prop :=
  TitleCommitType.validate title = [] ∧ TitleJiraIdentifier.validate u title = []

/-- The type that the linter reads in a title. -/
def commitType (title : String) : Option String :=
  (commitTypeRegexp.first title.toList).map String.ofList

instance (u : Unicode) (title : String) : Decidable (TitleAccepted u title) :=
  inferInstanceAs (Decidable (_ ∧ _))

end Tfplenum
