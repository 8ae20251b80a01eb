/-
  Tfplenum.Persistence

  The documents the modelled code stores, the database they are stored in, and
  the operations its programs are made of: driver calls, each atomic, and calls
  to what lies outside the backend (other machines, files, sockets, the job
  queue, identifiers drawn at random), answered by an environment that may
  answer anything and may answer differently each time.
-/

import Tfplenum.Json
import Tfplenum.Lib.DocStore

namespace Tfplenum

open Lib

/-! ## Documents -/

/-- A document of the `nodes` collection, as `NodeSchema.dump` writes it. -/
structure NodeDoc where
  hostname : String
  ipAddress : String
  macAddress : Option String
  raid0Override : Option Bool
  nodeType : String
  deviceFacts : List (String × Json)
  deploymentType : Option String
  vpnStatus : Option Bool
  virtualCpu : Option Int
  virtualMem : Option Int
  virtualOs : Option Int
  virtualData : Option Int

/-- A document of the `jobs` collection, as `JobSchema.dump` writes it. -/
structure JobDoc where
  message : Option String
  name : String
  nodeId : String
  pending : Bool
  complete : Bool
  inprogress : Bool
  error : Bool
  description : Option String
  jobId : Option String
  execType : Option String
deriving DecidableEq

/-- The general settings document, as `GeneralSettingsSchema.dump` writes it. -/
structure GeneralSettingsDoc where
  controllerInterface : String
  netmask : String
  gateway : String
  domain : String
  jobId : String
  jobCompleted : Option Bool
deriving DecidableEq

/-- `RULESET_STATES` -/
inductive RulesetState where
  | created | dirty | synced | error
deriving DecidableEq, Repr

structure SimpleSensor where
  hostname : String
  managementIp : String
deriving DecidableEq, Repr

structure SensorState where
  hostname : String
  state : RulesetState
deriving DecidableEq, Repr

/-- A document of the `ruleset` collection, stored as it was sent: `sensors` may be missing or
    null, `isEnabled` may be missing, and a new rule set has no `sensor_states` before the
    first synchronisation. -/
structure RuleSetDoc where
  appType : String
  name : String
  sensors : Option (Option (List SimpleSensor))
  isEnabled : Option Bool
  state : RulesetState
  sensorStates : Option (List SensorState)
deriving DecidableEq, Repr

/-- A document of the `rule` collection; the code that builds the files reckons
    with rules that lack a field. -/
structure RuleDoc where
  ruleSetId : String
  ruleName : Option String
  rule : Option String
  isEnabled : Option Bool
deriving DecidableEq, Repr

/-- The kit settings document, as `KitSettingsSchema.dump` writes it. -/
structure KitSettingsDoc where
  kubernetesServicesCidr : String
  password : String
  upstreamDns : Option String
  upstreamNtp : Option String
  isGip : Bool
  jobId : String
  jobCompleted : Option Bool
deriving DecidableEq

/-- The MIP settings document, as `MipSettingsSchema.dump` writes it. -/
structure MipSettingsDoc where
  password : String
  userPassword : String
  luksPassword : String
deriving DecidableEq

/-- The ESXi settings document, as `EsxiSettingsSchema.dump` writes it. -/
structure EsxiSettingsDoc where
  ipAddress : String
  username : String
  password : String
  datastore : Option String
  folder : Option String
  datacenter : Option String
  portgroup : Option String
  cluster : Option String
  vcenter : Option Bool
deriving DecidableEq

/-! ## The database -/

/-- The collections; that of the settings holds one document for each of its forms,
    which are told apart by their `_id` and are collections of their own here. -/
inductive Collection where
  | nodes | jobs | settings | ruleset | rule | kitSettings | mipSettings | esxiSettings
deriving DecidableEq, Repr

abbrev Doc : Collection → Type
  | .nodes => NodeDoc
  | .jobs => JobDoc
  | .settings => GeneralSettingsDoc
  | .ruleset => RuleSetDoc
  | .rule => RuleDoc
  | .kitSettings => KitSettingsDoc
  | .mipSettings => MipSettingsDoc
  | .esxiSettings => EsxiSettingsDoc

abbrev Db := Store Doc

instance : Inhabited Db := ⟨fun _ => Table.empty⟩

/-! ## Operations -/

/-- `KitSettingsForm` and `MipSettingsForm`, as far as the jobs read them. -/
structure KitSettings where
  password : String
  jobCompleted : Bool

/-- Calls that leave the backend. -/
inductive External where
  /-- `uuid.uuid4().hex` -/
  | uuid4
  /-- `str(RandMac(base, True))` -/
  | randMac (base : String)
  /-- render a template and write the file -/
  | writeInventory (file : String)
  /-- `KitSettingsForm.load_from_db()` -/
  | loadKitSettings
  /-- `MipSettingsForm.load_from_db()` -/
  | loadMipSettings
  /-- `EsxiSettingsForm.load_from_db()`, is there one? -/
  | loadEsxiSettings
  /-- `socketio.emit(event, ...)` -/
  | emit (event : String)
  /-- `function.delay(...)`, answered with the id of the queued job -/
  | enqueue (function : String)
  /-- the id of a running job of the queue for the node -/
  | findGatherJob (nodeId : String)
  /-- stop a running job of the queue -/
  | cancelJob (jobId : String)
  /-- `create_device_facts_from_ansible_setup(host, password)` -/
  | ansibleSetup (host password : String)
  | sleep (seconds : Nat)
  /-- run the playbook of a deployment job and say whether it succeeded -/
  | asyncJob (execType : String) (stage : String) (hostname : String)
  /-- `setup_s3_repository` for a MinIO node -/
  | setupS3Repository (hostname : String)
  /-- the applications installed on a node -/
  | getNodeApps (hostname : String)
  /-- `Job.fetch` -/
  | fetchJob (jobId : String)
  /-- `job.requeue()` -/
  | requeueJob (jobId : String)
  /-- kill what runs the job and delete it from the queue -/
  | deleteJob (jobId : String)
  /-- `run_command2`, answered with the output and the return code -/
  | runCommand (command : String)
  /-- render the template of an inventory with its context and write the file -/
  | renderInventory (file : String) (context : List (String × Json))
  /-- `tempfile.NamedTemporaryFile` and `tempfile.TemporaryDirectory` -/
  | makeTemp
  /-- `os.mkdir` in the temporary directory -/
  | makeDirectory (path : String)
  /-- `open(path, "w")` in the temporary directory, and the text written -/
  | writeFile (path content : String)
  /-- `make_archive` of the temporary directory -/
  | makeArchive (file : String)
  /-- `os.unlink` -/
  | unlink (file : String)
  /-- `_get_pod_name` -/
  | podName (ipAddress component : String)
  /-- `fabric.put` of a temporary file with this content -/
  | fabricPut (ipAddress content location : String)
  /-- `fabric.put` of a file of this machine -/
  | fabricPutFile (ipAddress file location : String)
  /-- `fabric.run`, answered with the return code -/
  | fabricRun (ipAddress command : String)

abbrev External.Answer : External → Type
  | .uuid4 => String
  | .randMac _ => String
  | .writeInventory _ => Except PyError Unit
  | .loadKitSettings => Except PyError (Option KitSettings)
  | .loadMipSettings => Except PyError (Option KitSettings)
  | .loadEsxiSettings => Except PyError Bool
  | .emit _ => Except PyError Unit
  | .enqueue _ => Except PyError String
  | .findGatherJob _ => Except PyError (Option String)
  | .cancelJob _ => Except PyError Unit
  | .ansibleSetup _ _ => Except PyError (Option (List (String × Json)))
  | .sleep _ => Except PyError Unit
  | .asyncJob _ _ _ => Except PyError Bool
  | .setupS3Repository _ => Except PyError Bool
  | .getNodeApps _ => Except PyError (List String)
  | .fetchJob _ => Except PyError Unit
  | .requeueJob _ => Except PyError Unit
  | .deleteJob _ => Except PyError Unit
  | .runCommand _ => Except PyError (String × Int)
  | .renderInventory _ _ => Except PyError Unit
  | .makeTemp => Except PyError Unit
  | .makeDirectory _ => Except PyError Unit
  | .writeFile _ _ => Except PyError Unit
  | .makeArchive _ => Except PyError Unit
  | .unlink _ => Except PyError Unit
  | .podName _ _ => Except PyError String
  | .fabricPut _ _ _ => Except PyError Unit
  | .fabricPutFile _ _ _ => Except PyError Unit
  | .fabricRun _ _ => Except PyError Int

/-- What a program of the backend can do. -/
inductive Op where
  | db (op : DocOp Doc)
  | external (call : External)

abbrev Op.Res : Op → Type
  | .db op => op.Res
  | .external call => call.Answer

/-- The answer to each call, by the number of calls made before. -/
abbrev Environment := (call : External) → Nat → call.Answer

/-- An environment in which everything outside the backend succeeds. -/
def steadyEnv : Environment := fun call _ =>
  match call with
  | .uuid4 => "0f"
  | .randMac _ => "'00:1b:ea:6e:7f:ff'"
  | .writeInventory _ => .ok ()
  | .loadKitSettings => .ok none
  | .loadMipSettings => .ok none
  | .loadEsxiSettings => .ok false
  | .emit _ => .ok ()
  | .enqueue _ => .ok "1"
  | .findGatherJob _ => .ok none
  | .cancelJob _ => .ok ()
  | .ansibleSetup _ _ => .ok none
  | .sleep _ => .ok ()
  | .asyncJob _ _ _ => .ok true
  | .setupS3Repository _ => .ok true
  | .getNodeApps _ => .ok []
  | .fetchJob _ => .ok ()
  | .requeueJob _ => .ok ()
  | .deleteJob _ => .ok ()
  | .runCommand _ => .ok ("", 0)
  | .renderInventory _ _ => .ok ()
  | .makeTemp => .ok ()
  | .makeDirectory _ => .ok ()
  | .writeFile _ _ => .ok ()
  | .makeArchive _ => .ok ()
  | .unlink _ => .ok ()
  | .podName _ _ => .error (.valueError "")
  | .fabricPut _ _ _ => .ok ()
  | .fabricPutFile _ _ _ => .ok ()
  | .fabricRun _ _ => .ok 0

/-- The database, and how many calls have left the backend. -/
structure World where
  db : Db
  calls : Nat

/-- What an operation answers and does. -/
def handle (env : Environment) : Handler Op Op.Res World
  | .db op, w => ((op.apply w.db).1, { w with db := (op.apply w.db).2 })
  | .external call, w => (env call w.calls, { w with calls := w.calls + 1 })

@[simp] theorem handle_db (env : Environment) (op : DocOp Doc) (w : World) :
    handle env (.db op) w = ((op.apply w.db).1, { w with db := (op.apply w.db).2 }) := rfl
@[simp] theorem handle_external (env : Environment) (call : External) (w : World) :
    handle env (.external call) w = (env call w.calls, { w with calls := w.calls + 1 }) := rfl

section Handle

variable (env : Environment) (w : World) (c : Collection) (id : String)

@[simp] theorem db_updateOne (f : Doc c → Doc c) :
    (handle env (.db (.updateOne c id f)) w).2.db c = (w.db c).modify id f := by
  simp only [handle_db, DocOp.apply_updateOne, Function.update_self]

@[simp] theorem db_replaceOne (d : Doc c) :
    (handle env (.db (.replaceOne c id d)) w).2.db c = (w.db c).upsert id d := by
  simp only [handle_db, DocOp.apply_replaceOne, Function.update_self]

@[simp] theorem db_deleteOne :
    (handle env (.db (.deleteOne c id)) w).2.db c = (w.db c).erase id := by
  simp only [handle_db, DocOp.apply_deleteOne, Function.update_self]

@[simp] theorem db_deleteMany (q : String → Doc c → Bool) :
    (handle env (.db (.deleteMany c q)) w).2.db c = (w.db c).remove q := by
  simp only [handle_db, DocOp.apply_deleteMany, Function.update_self]

variable {c}

/-- The other collections stay as they are. -/
theorem db_of_ne (op : DocOp Doc) (h : op.collection ≠ c) :
    (handle env (.db op) w).2.db c = w.db c :=
  DocOp.apply_of_ne h w.db

end Handle

/-- A program of the backend. -/
abbrev Prog := Program Op Op.Res PyError

/-! ## Programs of one operation -/

namespace Prog

def find (c : Collection) (q : String → Doc c → Bool) : Prog (List (String × Doc c)) :=
  Program.perform (Op.db (.find c q))

def findOne (c : Collection) (q : String → Doc c → Bool) : Prog (Option (String × Doc c)) :=
  Program.perform (Op.db (.findOne c q))

def findById (c : Collection) (id : String) : Prog (Option (Doc c)) :=
  Program.perform (Op.db (.findById c id))

def insertOne (c : Collection) (id : String) (d : Doc c) : Prog Bool :=
  Program.perform (Op.db (.insertOne c id d))

def updateOne (c : Collection) (id : String) (f : Doc c → Doc c) : Prog (Option (Doc c)) :=
  Program.perform (Op.db (.updateOne c id f))

def replaceOne (c : Collection) (id : String) (d : Doc c) : Prog Unit :=
  Program.perform (Op.db (.replaceOne c id d))

def deleteOne (c : Collection) (id : String) : Prog Nat :=
  Program.perform (Op.db (.deleteOne c id))

def deleteMany (c : Collection) (q : String → Doc c → Bool) : Prog Unit :=
  Program.perform (Op.db (.deleteMany c q))

/-- Make a call that does not raise. -/
def ask (call : External) : Prog call.Answer :=
  Program.perform (Op.external call)

/-- Go on with the value of an answer, or raise the exception it carries. -/
def orRaise {α : Type} (p : Prog (Except PyError α)) : Prog α :=
  p.bind Program.ofExcept

end Prog

/-! ## Programs that only read -/

/-- An operation that changes no document. -/
def Op.readsOnly : Op → Prop
  | .db op => op.reads = true
  | .external _ => True

theorem db_of_readsOnly {env : Environment} {op : Op} (h : op.readsOnly) (w : World) :
    (handle env op w).2.db = w.db := by
  cases op with
  | db op => exact DocOp.apply_of_reads h w.db
  | external call => rfl

theorem db_run_of_readsOnly {env : Environment} {α : Type} {p : Prog α} (hp : p.Uses Op.readsOnly)
    (w : World) : (p.run (handle env) w).2.db = w.db :=
  hp.run_invariant (I := fun v => v.db = w.db) (handle env)
    (fun _ v hop hv => (db_of_readsOnly hop v).trans hv) rfl

namespace Prog

variable {α : Type} {c : Collection}

theorem readsOnly_find (q : String → Doc c → Bool) : (find c q).Uses Op.readsOnly := by
  simp [find, Op.readsOnly, DocOp.reads]

theorem readsOnly_findOne (q : String → Doc c → Bool) : (findOne c q).Uses Op.readsOnly := by
  simp [findOne, Op.readsOnly, DocOp.reads]

theorem readsOnly_findById (id : String) : (findById c id).Uses Op.readsOnly := by
  simp [findById, Op.readsOnly, DocOp.reads]

theorem readsOnly_ask (call : External) : (ask call).Uses Op.readsOnly := by
  simp [ask, Op.readsOnly]

theorem uses_orRaise {A : Op → Prop} {p : Prog (Except PyError α)} (hp : p.Uses A) :
    (orRaise p).Uses A :=
  hp.bind fun r => Program.uses_ofExcept r

end Prog

end Tfplenum
