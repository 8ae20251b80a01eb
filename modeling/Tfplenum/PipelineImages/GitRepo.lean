/-
  Tfplenum.PipelineImages.GitRepo

  `changelog/gitrepo.py`: the release branches of the repository, the release that
  is made of a branch and the one before it, the releases between two versions, and
  the commits that are new in a release.

  Branches and commits are what the git library gives.  A branch comes with its
  commits but for merges, as `rev_list` lists them; the sets of summaries are
  iterated in an order of their own.
-/

import Mathlib.Data.List.MinMax
import Mathlib.Data.List.Sort
import Tfplenum.PipelineImages.Logg
import Tfplenum.PipelineImages.VersionHelper

namespace Tfplenum

open Lib

/-! ## Branches -/

/-- `git.Head` -/
structure GitHead where
  name : List Char
  commits : List GitCommit
deriving DecidableEq, Repr

/-- A branch that was given a `version` -/
structure ReleaseBranch (V : Type) where
  head : GitHead
  version : V
deriving DecidableEq, Repr

/-- `Release`, of the branches it is made of -/
structure BranchRelease (V : Type) where
  prevBranch : ReleaseBranch V
  releaseBranch : ReleaseBranch V
deriving DecidableEq, Repr

section
variable {V : Type} [LinearOrder V]

/-- A branch under `release/` and its version, if it is a numeric one -/
def versionedBranch (u : Unicode) (Version : List Char → Except PyError V) (head : GitHead) :
    Except PyError (Option (ReleaseBranch V)) :=
  (strToVer u Version (.text ((head.name.splitOn '/').getD 1 []))).map fun version =>
    version.map fun version => ⟨head, version⟩

/-- `GitRepo.release_branches` -/
def releaseBranches (u : Unicode) (Version : List Char → Except PyError V) (heads : List GitHead) :
    Except PyError (List (ReleaseBranch V)) :=
  let tmpReleaseBranches := heads.filter fun head => "release/".toList.isPrefixOf head.name
  (tmpReleaseBranches.mapM (versionedBranch u Version)).map fun found =>
    (found.filterMap id).insertionSort fun branch branch' => branch.version ≤ branch'.version

/-- `{branch.version: branch for branch in self.release_branches}[version]` -/
def branchMapping (branches : List (ReleaseBranch V)) (version : V) :
    Except PyError (ReleaseBranch V) :=
  match branches.reverse.find? fun branch => branch.version = version with
  | some branch => .ok branch
  | none => .error (.other "KeyError")

/-- `GitRepo._get_prev_and_cur_release_branches` -/
def getPrevAndCurReleaseBranches (branches : List (ReleaseBranch V)) (version : V) :
    Except PyError (ReleaseBranch V × ReleaseBranch V) :=
  match ((branches.map ReleaseBranch.version).filter fun other => other < version).argmax id with
  | none => .error (.valueError "max() arg is an empty sequence")
  | some previousVersion => do
      let previousVersionBranch ← branchMapping branches previousVersion
      let currentVersionBranch ← branchMapping branches version
      return (previousVersionBranch, currentVersionBranch)

/-- `GitRepo.get_release` -/
def getRelease (branches : List (ReleaseBranch V)) (version : V) :
    Except PyError (BranchRelease V) := do
  let (previousBranch, currentBranch) ← getPrevAndCurReleaseBranches branches version
  return ⟨previousBranch, currentBranch⟩

/-- `GitRepo.latest_release` -/
def latestRelease (branches : List (ReleaseBranch V)) :
    Except PyError (Option (BranchRelease V)) :=
  match branches.getLast? with
  | none => .ok none
  | some branch => (getRelease branches branch.version).map some

/-- `self.latest_release.version` -/
def latestVersion (branches : List (ReleaseBranch V)) : Except PyError V := do
  match ← latestRelease branches with
  | none => .error (.attributeError "'NoneType' object has no attribute 'version'")
  | some release => .ok release.releaseBranch.version

/-- A version that may be missing or a text; a text that is not numeric is a missing one. -/
def toBound (u : Unicode) (Version : List Char → Except PyError V) :
    Option (VersionArg V) → Except PyError (Option V)
  | none => .ok none
  | some arg => strToVer u Version arg

/-- `GitRepo.get_available_versions` -/
def getAvailableVersions (u : Unicode) (Version : List Char → Except PyError V)
    (branches : List (ReleaseBranch V)) (minver : Option (VersionArg V)) :
    Except PyError (List V) := do
  match ← toBound u Version minver with
  | some minver =>
      return (branches.tail.map ReleaseBranch.version).filter fun version => minver ≤ version
  | none => return branches.map ReleaseBranch.version

/-- `items[index]` -/
def itemAt {α : Type} (items : List α) (index : Nat) : Except PyError α :=
  match items[index]? with
  | some item => .ok item
  | none => .error .indexError

/-- The first step of `get_releases`: a lower bound at the lowest available version or below it
    becomes the lowest available version. -/
def raisedToLowest (u : Unicode) (Version : List Char → Except PyError V)
    (branches : List (ReleaseBranch V)) : Option V → Except PyError (Option V)
  | none => .ok none
  | some fromVersion => do
      let lowest ← itemAt (← getAvailableVersions u Version branches none) 0
      return some (if fromVersion ≤ lowest then lowest else fromVersion)

/-- The second step of `get_releases`: a bound that is missing is filled in. -/
def filledBounds (u : Unicode) (Version : List Char → Except PyError V)
    (branches : List (ReleaseBranch V)) : Option V → Option V → Except PyError (V × V)
  | none, none => do
      let _ ← itemAt (← getAvailableVersions u Version branches none) 0
      -- the available version is asked for its `version`
      throw (.attributeError "'Version' object has no attribute 'version'")
  | none, some toVersion => do
      let second ← itemAt branches 1
      return (second.version, toVersion)
  | some fromVersion, none => do
      let first ← itemAt
        (← getAvailableVersions u Version branches (some (.version fromVersion))) 0
      let latest ← latestVersion branches
      return (first, latest)
  | some fromVersion, some toVersion => .ok (fromVersion, toVersion)

/-- The last step of `get_releases` -/
def releasesBetween (branches : List (ReleaseBranch V)) (fromVersion toVersion : V) :
    Except PyError (List (BranchRelease V)) :=
  (branches.filter fun branch => fromVersion ≤ branch.version ∧ branch.version ≤ toVersion).mapM
    fun branch => getRelease branches branch.version

/-- `GitRepo.get_releases` -/
def getReleases (u : Unicode) (Version : List Char → Except PyError V)
    (branches : List (ReleaseBranch V)) (fromArg toArg : Option (VersionArg V)) :
    Except PyError (List (BranchRelease V)) := do
  let fromVersion ← toBound u Version fromArg
  let toVersion ← toBound u Version toArg
  let fromVersion ← raisedToLowest u Version branches fromVersion
  let bounds ← filledBounds u Version branches fromVersion toVersion
  releasesBetween branches bounds.1 bounds.2

end

/-! ## Commits -/

/-- `summary.startswith(prefixes)` -/
def acceptsSummary (prefixes : List String) (summary : String) : Bool :=
  prefixes.any (startsWith summary)

/-- `set(get_commit_summaries(branch).keys()) - set(get_commit_summaries(other).keys())`, and of
    it the summaries with an accepted prefix -/
def filteredSummaries (order : SetOrder) (prefixes : List String) (branch other : GitHead) :
    List String :=
  let unfiltered := order.iterate
    ((branch.commits.map GitCommit.summary).filter
      fun summary => summary ∉ other.commits.map GitCommit.summary)
  order.iterate (unfiltered.filter (acceptsSummary prefixes))

/-- `if not prefixes: prefixes = (...)` -/
def acceptedPrefixes (prefixes : List String) : List String :=
  if prefixes.isEmpty then releasePrefixes else prefixes

/-- `Release._get_unique_commits_between_releases` -/
def getUniqueCommitsBetweenReleases (order : SetOrder) (prefixes : List String)
    (previousBranch releaseBranch : GitHead) (regularBranch : Option GitHead) : List GitCommit :=
  let prefixes := acceptedPrefixes prefixes
  let filteredCommits := (filteredSummaries order prefixes releaseBranch previousBranch).filterMap
    (commitOf releaseBranch.commits)
  match regularBranch with
  | none => filteredCommits
  | some regularBranch =>
      let uniqueBranchCommits :=
        ((filteredSummaries order prefixes regularBranch releaseBranch).filter
          fun summary => summary ∉ filteredCommits.map GitCommit.summary).filterMap
          (commitOf regularBranch.commits)
      filteredCommits ++ uniqueBranchCommits

end Tfplenum
