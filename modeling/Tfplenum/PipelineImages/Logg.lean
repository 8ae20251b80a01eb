/-
  Tfplenum.PipelineImages.Logg

  `changelog/gitrepo.py` and `changelog/logg.py`: the commits that a release keeps,
  and the changelog that is made of them, from the parts of a commit's message to
  the blocks of the document.

  Commits are what the git library gives; the set of summaries of a release is
  iterated in an order of its own.  The changelog is that of a release, not the
  preview of a branch.
-/

import Tfplenum.Common
import Tfplenum.PipelineImages.CommitRules

namespace Tfplenum

open Lib

/-! ## Commits and releases -/

/-- `git.Commit` -/
structure GitCommit where
  hexsha : String
  message : String
  authorName : String
  authorEmail : Option String
deriving DecidableEq, Repr

/-- `summary`: `message.split("\n", 1)[0]` -/
def GitCommit.summary (commit : GitCommit) : String :=
  String.ofList (commit.message.toList.takeWhile (· ≠ '\n'))

/-- `str.startswith` -/
def startsWith (text start : String) : Bool := start.toList.isPrefixOf text.toList

def releasePrefixes : List String := ["(fix)", "(feat)", "(perf)", "(sus)"]

/-- A summary a release keeps: `summary.startswith(prefixes)` -/
def keepsSummary (summary : String) : Bool := releasePrefixes.any (startsWith summary)

/-- `get_commit_summaries`, looked up: the commit that came last under a summary. -/
def commitOf (commits : List GitCommit) (summary : String) : Option GitCommit :=
  commits.reverse.find? fun commit => commit.summary = summary

/-- `Release` -/
structure Release where
  version : String
  releaseDate : String
  latestCommitHash : String
  /-- the commits of both branches but for merges, as `rev_list` gives them -/
  prevBranch : List GitCommit
  releaseBranch : List GitCommit
  /-- `filtered_unique_summaries`, in the order in which the set is iterated -/
  uniqueSummaries : List String
  nodup : uniqueSummaries.Nodup
  mem_iff : ∀ summary, summary ∈ uniqueSummaries ↔
    (summary ∈ releaseBranch.map GitCommit.summary ∧
      summary ∉ prevBranch.map GitCommit.summary) ∧ keepsSummary summary = true

/-- `unique_commits` -/
def Release.uniqueCommits (release : Release) : List GitCommit :=
  release.uniqueSummaries.filterMap (commitOf release.releaseBranch)

/-! ## The parts of a commit -/

/-- `MDCommit.Ticket` -/
structure Ticket where
  ticketPrefix : Option String
  ticketNumber : Option String
  link : Option String
  linkText : Option String
deriving DecidableEq, Repr

def Ticket.init (u : Unicode) (ticketPrefix ticketNumber : String) : Ticket :=
  let upper := String.ofList (u.upperText ticketPrefix.toList)
  let knownPrefix := if upper ∈ ["THISISCVAH", "AFDCO"] then some upper else none
  let knownNumber :=
    if (ticketNumber ≠ "" ∧ ticketNumber.toList.all u.isDigit) ∧
        5 ≤ ticketNumber.length ∧ ticketNumber.length ≤ 6 then some ticketNumber
    else none
  { ticketPrefix := knownPrefix
    ticketNumber := knownNumber
    link :=
      if knownPrefix.isSome ∧ knownNumber.isSome then
        some ("https://jira.levelup.cce.af.mil/browse/" ++ ticketPrefix ++ "-" ++ ticketNumber)
      else none
    linkText := if knownNumber.isSome then some ("#" ++ ticketNumber) else none }

/-- `MDCommit.CommitAuthor` -/
structure CommitAuthor where
  name : String
  email : Option String
  contactLink : String
  contactText : String
deriving DecidableEq, Repr

/-- `str(value)` of a text that may be missing -/
def strOrNone : Option String → String
  | none => "None"
  | some value => value

def CommitAuthor.init (u : Unicode) (name : String) (email : Option String) : CommitAuthor :=
  let dotted := String.ofList (u.lower (name.toList.map fun c => if c = ' ' then '.' else c))
  { name := dotted
    email := email
    contactLink := "mailto:" ++ strOrNone email
    contactText := "@" ++ String.ofList (u.lower dotted.toList) }

/-- Where `str.splitlines` cuts. -/
def isLineBreak (c : Char) : Bool :=
  c ∈ ['\n', '\r', '\x0b', '\x0c', '\x1c', '\x1d', '\x1e', '\u0085', '\u2028', '\u2029']

/-- `str.splitlines`, from the line begun -/
def splitlinesFrom : List Char → List Char → List (List Char)
  | [], [] => []
  | line, [] => [line]
  | line, '\r' :: '\n' :: cs => line :: splitlinesFrom [] cs
  | line, c :: cs =>
      if isLineBreak c then line :: splitlinesFrom [] cs else splitlinesFrom (line ++ [c]) cs

/-- `CommitBody._parse_body` -/
def parseBody (u : Unicode) (body : String) : List String :=
  ((splitlinesFrom [] body.toList).filter fun line => "- ".toList.isPrefixOf line).map
    fun line => String.ofList (u.strip line)

/-- `-(\d+): (.*)$` -/
def numberTitleRegexp (u : Unicode) : Regex (List Char × List Char) := do
  let _ ← Regex.text ['-']
  let ticketNumber ← Regex.atLeast 1 u.isDecimal
  let _ ← Regex.text [':', ' ']
  let title ← Regex.atLeast 0 Regex.dot
  let _ ← Regex.stop
  return (ticketNumber, title)

/-- `(.*?)-(\d+): (.*)$` -/
def ticketTitleRegexp (u : Unicode) : Regex (List Char × List Char × List Char) := do
  let ticketPrefix ← Regex.lazy Regex.dot
  let rest ← numberTitleRegexp u
  return (ticketPrefix, rest)

/-- `\(.*?\) (.*?)-(\d+): (.*)$` -/
def summaryRegexp (u : Unicode) : Regex (List Char × List Char × List Char) := do
  let _ ← Regex.text ['(']
  let _ ← Regex.lazy Regex.dot
  let _ ← Regex.text [')', ' ']
  ticketTitleRegexp u

/-- `MDCommit` -/
structure MDCommit where
  title : Option String
  ticket : Option Ticket
  author : CommitAuthor
  body : List String
deriving DecidableEq, Repr

/-- `_set_commit_ticket_title` -/
def setCommitTicketTitle (u : Unicode) (summary : String) : Option (String × Ticket) :=
  ((summaryRegexp u).first summary.toList).map fun groups =>
    (String.ofList (u.capitalize groups.2.2),
      Ticket.init u (String.ofList groups.1) (String.ofList groups.2.1))

/-- `_parse_commit` -/
def MDCommit.init (u : Unicode) (commit : GitCommit) : MDCommit where
  title := (setCommitTicketTitle u commit.summary).map Prod.fst
  ticket := (setCommitTicketTitle u commit.summary).map Prod.snd
  author := CommitAuthor.init u commit.authorName commit.authorEmail
  body := parseBody u commit.message

/-- `Detail` -/
structure Detail where
  title : String
  ticket : Ticket
  author : CommitAuthor
  body : List String
deriving DecidableEq, Repr

/-- `MDCommit.detail`; none of its parts is empty once it is there. -/
def MDCommit.detail (commit : MDCommit) : Option Detail :=
  match commit.title, commit.ticket with
  | some title, some ticket => some ⟨title, ticket, commit.author, commit.body⟩
  | _, _ => none

/-- `Detail.__str__` -/
def Detail.str (d : Detail) : String :=
  "<details>\n\t<summary>" ++ d.title ++ "\n\t\t<a href=\"" ++ strOrNone d.ticket.link ++ "\">" ++
    strOrNone d.ticket.linkText ++ "</a>\n\t\t<a href=\"" ++ d.author.contactLink ++ "\">" ++
    d.author.contactText ++ "</a>\n\t</summary>\n\n" ++
    String.join (d.body.map fun line => "\t" ++ line ++ "\n") ++ "</details>"

/-! ## Sections -/

/-- `Section` -/
structure Section where
  title : String
  commitPrefix : String
  commits : List GitCommit
deriving DecidableEq, Repr

/-- `_filter_commits`; the section has no commits of its own yet that it could
    fall back on. -/
def filterCommits (className : String) (commits : List GitCommit) (commitPrefix : String) :
    Except PyError (List GitCommit) :=
  if commits = [] then
    .error (.attributeError ("'" ++ className ++ "' object has no attribute '_commits'"))
  else .ok (commits.filter fun commit => startsWith commit.summary commitPrefix)

/-- `Section.__init__` -/
def Section.init (className title : String) (commits : List GitCommit) (commitPrefix : String) :
    Except PyError Section := do
  let commitPrefix :=
    if startsWith commitPrefix "(" ∧ commitPrefix.toList.getLast? = some ')' then commitPrefix
    else "(" ++ commitPrefix ++ ")"
  return ⟨title, commitPrefix, ← filterCommits className commits commitPrefix⟩

def addedSection (commits : List GitCommit) : Except PyError Section :=
  Section.init "AddedSection" "Added" commits "(feat)"

def fixedSection (commits : List GitCommit) : Except PyError Section :=
  Section.init "FixedSection" "Fixed" commits "(fix)"

def changedSection (commits : List GitCommit) : Except PyError Section :=
  Section.init "ChangedSection" "Changed" commits "(sus)"

/-- `SectionFactory.make_sections` -/
def makeSections (commits : List GitCommit) : Except PyError (List Section) := do
  let added ← addedSection commits
  let fixed ← fixedSection commits
  let changed ← changedSection commits
  return [added, fixed, changed].filter fun s => s.commits ≠ []

/-! ## The document -/

/-- What `add_block` appends; the detail of a commit may be `None`. -/
inductive Block where
  | heading (text : String) (level : Nat)
  | raw (text : String)
  | inline (text : String)
  | detail (d : Option Detail)
deriving DecidableEq, Repr

/-- One section in `_add_sections` -/
def Section.blocks (u : Unicode) (s : Section) : List Block :=
  .heading (String.ofList (u.capitalize s.title.toList)) 2 :: .raw "\n" ::
    s.commits.flatMap fun commit => [.detail (MDCommit.init u commit).detail, .raw "\n"]

/-- `Changelog` -/
structure Changelog where
  title : String
  releaseDate : String
  releaseHash : String
  sections : List Section
deriving DecidableEq, Repr

/-- `Changelog._make_sections`, called with the commits that its `commits` falls
    back on -/
def Changelog.makeSections (release : Release) : Except PyError (List Section) :=
  if release.uniqueCommits = [] then .error (.valueError "No commits found for this release.")
  else Tfplenum.makeSections release.uniqueCommits

/-- `Changelog.__init__` -/
def Changelog.init (release : Release) : Except PyError Changelog := do
  return {
    title := "Changelog for " ++ release.version
    releaseDate := release.releaseDate
    releaseHash := release.latestCommitHash
    sections := ← Changelog.makeSections release }

/-- `Changelog.document`: there is none without a section. -/
def Changelog.document (u : Unicode) (changelog : Changelog) : Option (List Block) :=
  if changelog.sections = [] then none
  else some
    (.heading changelog.title 1 :: .raw "\n" ::
      .inline ("Release Date: " ++ changelog.releaseDate) ::
      .inline ("Release Hash: " ++ changelog.releaseHash) :: .raw "\n" ::
      changelog.sections.flatMap (Section.blocks u))

end Tfplenum
