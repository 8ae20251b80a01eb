/-
  Tfplenum.Service.CuratorService

  `service/curator_service.py`: the job of the queue that closes, deletes or backs up
  the indices of a request.  What Elasticsearch answers to a call, an exception
  included, is up to an environment with a state of its own; sending a notification
  does not raise.
-/

import Tfplenum.Json
import Tfplenum.Lib.Noted

namespace Tfplenum

open Lib

/-! ## Requests and notifications -/

/-- The values of `action` that `post_validation` lets pass. -/
inductive CuratorAction where
  | deleteIndices | closeIndices | backupIndices
deriving DecidableEq, Repr

namespace CuratorAction

def value : CuratorAction → String
  | deleteIndices => "DeleteIndices"
  | closeIndices => "CloseIndices"
  | backupIndices => "BackupIndices"

/-- `get_readable_action` -/
def readable : CuratorAction → String
  | deleteIndices => "Delete Indices"
  | closeIndices => "Close Indices"
  | backupIndices => "Backup Indices"

/-- `msg_action` -/
def past : CuratorAction → String
  | deleteIndices => "deleted"
  | closeIndices | backupIndices => "closed"

end CuratorAction

/-- A notification of the job, by where it is sent. -/
inductive CuratorNotice where
  | started (action : CuratorAction)
  | inProgress (action : CuratorAction)
  /-- what has become of an index -/
  | report (action : CuratorAction) (index : String) (success : Bool)
  | backedUp (indices : List String) (snapshotName : String)
  | backupFailed (indices : List String)
  | completed (action : CuratorAction)
deriving DecidableEq, Repr

namespace CuratorNotice

def message : CuratorNotice → String
  | started action => "Curator " ++ action.value ++ " job started."
  | inProgress action => "Curator " ++ action.readable ++ " job in progress."
  | report action index true => "Curator successfully " ++ action.past ++ " " ++ index ++ " index."
  | report action index false => "Curator failed to " ++ action.past ++ " " ++ index ++ " index."
  | backedUp indices snapshotName =>
      "Curator successfully backed up " ++ String.intercalate "," indices ++ ". to snapshot " ++
        snapshotName
  | backupFailed indices => "Curator failed to back up " ++ String.intercalate "," indices ++ "."
  | completed action => "Curator " ++ action.readable ++ " job completed."

def status : CuratorNotice → String
  | started _ => "STARTED"
  | inProgress _ | report _ _ true | backedUp _ _ => "IN_PROGRESS"
  | report _ _ false => "ERROR"
  | backupFailed _ => "FAILED"
  | completed _ => "COMPLETED"

/-- What is reported, of which index. -/
def report? : CuratorNotice → Option (String × Bool)
  | report _ index success => some (index, success)
  | _ => none

end CuratorNotice

/-! ## Calls -/

/-- The calls of the job, each of which may raise. -/
inductive CuratorCall where
  | pushAppContext
  /-- `ElasticWrapper(timeout=120)` -/
  | elasticWrapper
  /-- `client.indices.put_settings` of one setting, to `None` or a truth value -/
  | putSettings (index setting : String) (value : Option Bool)
  /-- `client.indices.get(index=index)[index]["aliases"]`: the aliases in their order, each
      with its `is_write_index` if it has one -/
  | getAliases (index : String)
  | rollover (aliasName : String)
  /-- `client.indices.close`, answered with `acknowledged` -/
  | close (index : String)
  /-- `client.indices.delete`, answered with `acknowledged` -/
  | delete (index : String)
  /-- `RepoSettingsModel.load_from_kubernetes_and_elasticsearch`, by its bucket -/
  | loadRepoSettings
  /-- the name of a snapshot, by the time -/
  | snapshotName
  /-- `client.snapshot.create`, answered with whether the state is `SUCCESS` -/
  | createSnapshot (bucket snapshotName : String) (indices : List String)
  | forcemerge
deriving DecidableEq

abbrev CuratorCall.Answer : CuratorCall → Type
  | .getAliases _ => List (String × Option Bool)
  | .close _ => Bool
  | .delete _ => Bool
  | .loadRepoSettings => String
  | .snapshotName => String
  | .createSnapshot _ _ _ => Bool
  | _ => Unit

abbrev CuratorCall.Res (c : CuratorCall) : Type := Except PyError c.Answer

/-- What the calls are answered, and what becomes of the surroundings. -/
abbrev CuratorEnv (σ : Type) : Type := Handler CuratorCall CuratorCall.Res σ

/-- What sends no notifications. -/
abbrev ElasticProg (α : Type) : Type := Program CuratorCall CuratorCall.Res PyError α

abbrev CuratorProg (α : Type) : Type :=
  Program (NoteOp CuratorNotice CuratorCall) (NoteOp.Answer CuratorCall.Res) PyError α

namespace Curator

def ask (c : CuratorCall) : ElasticProg c.Answer :=
  (Program.perform c).bind Program.ofExcept

/-- A call whose exception is logged. -/
def tryCall (c : CuratorCall) : ElasticProg Unit :=
  Program.tryExcept ((ask c).bind fun _ => .done ()) fun _ => pure ()

/-! ## One index -/

/-- `_remove_index_blocks` -/
def removeIndexBlocks (index : String) : ElasticProg Unit := do
  tryCall (.putSettings index "index.blocks.read_only_allow_delete" none)
  tryCall (.putSettings index "index.blocks.write" none)
  tryCall (.putSettings index "index.blocks.read" none)

/-- The alias that is rolled over: the first one, if it says that the index is its write
    index. -/
def aliasToRollover : List (String × Option Bool) → Option String
  | (aliasName, some true) :: _ => some aliasName
  | _ => none

/-- `_rollover_and_close_action` -/
def rolloverAndCloseAction (index : String) : ElasticProg Bool := do
  let aliases ← ask (.getAliases index)
  match aliasToRollover aliases with
  | some aliasName => ask (.rollover aliasName)
  | none => pure ()
  ask (.close index)

/-- The variables that the iterations share. -/
structure Flags where
  isSuccessfully : Bool
  runForcemerge : Bool

/-- One iteration of the loop. -/
def processIndex (action : CuratorAction) (flags : Flags) (index : String) : CuratorProg Flags := do
  Program.quiet (removeIndexBlocks index)
  let flags ← match action with
    | .deleteIndices => do
        Program.quiet
          (ask (.putSettings index "index.blocks.read_only_allow_delete" (some true)))
        let acknowledged ← Program.quiet (ask (.delete index))
        Program.note (.inProgress action)
        -- the source sets the flags and never takes them back
        pure (if acknowledged then (⟨true, true⟩ : Flags) else flags)
    | .closeIndices | .backupIndices => do
        -- here the answer is assigned either way
        let isSuccessfully ← Program.quiet (rolloverAndCloseAction index)
        pure { flags with isSuccessfully := isSuccessfully }
  Program.note (.report action index flags.isSuccessfully)
  pure flags

/-! ## The job -/

/-- `_backup_indexes`, and the name of the snapshot -/
def backupIndexes (indices : List String) : ElasticProg (Bool × String) := do
  let bucket ← ask .loadRepoSettings
  let snapshotName ← ask .snapshotName
  let successful ← ask (.createSnapshot bucket snapshotName indices)
  return (successful, snapshotName)

/-- What follows the loop for a backup. -/
def backUp (indices : List String) : CuratorProg Unit := do
  let (successful, snapshotName) ← Program.quiet (backupIndexes indices)
  Program.note (if successful then .backedUp indices snapshotName else .backupFailed indices)

/-- `execute_curator`, from the end of the loop on -/
def finish (action : CuratorAction) (indices : List String) (flags : Flags) : CuratorProg Unit := do
  Program.when (action = .backupIndices) (backUp indices)
  Program.note (.completed action)
  Program.when (flags.runForcemerge = true) (Program.quiet (tryCall .forcemerge))

/-- `execute_curator` -/
def executeCurator (action : CuratorAction) (indices : List String) : CuratorProg Unit := do
  Program.quiet (ask .pushAppContext)
  Program.note (.started action)
  Program.quiet (ask .elasticWrapper)
  let flags ← Program.foldEach indices ⟨false, false⟩ (processIndex action)
  finish action indices flags

end Curator

end Tfplenum
