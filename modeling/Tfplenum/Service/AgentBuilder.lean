/-
  Tfplenum.Service.AgentBuilder

  `AgentBuilder` of `service/agent_service.py`, which puts together the installer of a
  configuration: the templates of the chosen packages are rendered into the folders of
  the packages, the folders are copied and zipped.

  The folders are shared by all builds and are not cleaned, so that a build starts with
  what earlier ones have rendered.  None of that gets into its installer if it renders
  every template of its packages again (`installer_of_history`).  A configuration that
  has its own text for one of several templates does not.
-/

import Tfplenum.Lib.Lockstep
import Tfplenum.Lib.Subtree
import Tfplenum.Models.SettingsBase
import Tfplenum.Service.ZeekScripts
import Tfplenum.Utils.ConnectionMngs

namespace Tfplenum.AgentBuilder

open Lib FileTree

/-! ## The file system -/

/-- The entries of the file system. -/
abbrev Disk := Table Place Entry

/-- `AGENT_PKGS_DIR` -/
def agentPkgsDir : Place := ["agent_pkgs", "tfplenum", "opt"]

namespace Disk

def tree (d : Disk) : FileTree := ⟨d.get?⟩

/-- The name of an entry of a directory. -/
def nameIn (dir : Place) : Place × Entry → Option String
  | (name :: parent, _) => if parent = dir then some name else none
  | ([], _) => none

/-- `dir.glob("*")`, by the names -/
def glob (d : Disk) (dir : Place) : List String := d.rows.filterMap (nameIn dir)

/-- The folder a file `appconfig.json` is in, and its text. -/
def appconfigIn : Place × Entry → Option (String × String)
  | (name :: folder :: parent, .file text) =>
      if name = "appconfig.json" ∧ agentPkgsDir <:+ parent then some (folder, text) else none
  | _ => none

/-- `AGENT_PKGS_DIR.rglob("*/appconfig.json")` -/
def appconfigs (d : Disk) : List (String × String) := d.rows.filterMap appconfigIn

/-- A file is written anew. -/
def write (d : Disk) (p : Place) (text : String) : Except PyError Unit × Disk :=
  if d.get? p = some .directory then (.error (raisedFor "" .isADirectory), d)
  else (.ok (), d.upsert p (.file text))

/-- `mkdir(exist_ok=True)` -/
def makeDir (d : Disk) (p : Place) : Except PyError Unit × Disk :=
  match d.get? p with
  | none => (.ok (), d.upsert p .directory)
  | some .directory => (.ok (), d)
  | some (.file _) => (.error (.fileExistsError ""), d)

/-- `path.unlink()` for some entries of a directory -/
def unlinkEach (dir : Place) : List String → Disk → Except PyError Unit × Disk
  | [], d => (.ok (), d)
  | name :: names, d =>
      if d.get? (name :: dir) = some .directory then (.error (raisedFor "" .isADirectory), d)
      else unlinkEach dir names (d.erase (name :: dir))

end Disk

/-- `*.zip` -/
def isZip (name : String) : Bool := ".zip".toList.isSuffixOf name.toList

/-- The files of an installer, by their place below `/tfplenum_agent`. -/
abbrev Archive := Place → Option String

/-- `zip_package` -/
def zipPackage (packageDir : FileTree) : Archive := fun p =>
  match packageDir.entry p with
  | some (.file text) => some text
  | _ => none

structure World where
  disk : Disk
  /-- the temporary directory of the build -/
  agentPath : FileTree
  /-- `/var/www/html/agents/<id>/agent.zip` -/
  installers : Table String Archive

inductive BuildOp where
  | appconfigs
  | glob (dir : Place)
  | stat (p : Place)
  /-- the directory a path below `AGENT_PKGS_DIR` leads to -/
  | walk (names : List String)
  | write (p : Place) (text : String)
  | makeDir (p : Place)
  /-- `for path in dir.glob("*.zip"): path.unlink()` -/
  | unlinkZips (dir : Place)
  /-- `tempfile.TemporaryDirectory()` -/
  | newAgentPath
  | addFile (name text : String)
  /-- `shutil.copytree` into the temporary directory -/
  | copytree (parent : Place) (folder : String)
  | zipPackage (id : String)
  | sendFile (id : String)

abbrev BuildOp.Res : BuildOp → Type
  | .appconfigs => List (String × String)
  | .glob _ => List String
  | .stat _ => Option Entry
  | .walk _ => Except FileError Place
  | .write _ _ | .makeDir _ | .unlinkZips _ | .copytree _ _ => Except PyError Unit
  | .newAgentPath | .addFile _ _ | .zipPackage _ => Unit
  | .sendFile _ => Option Archive

/-- Copy a folder into the temporary directory, where it must not be yet. -/
def World.copytree (w : World) (parent : Place) (folder : String) : Except PyError Unit × World :=
  match w.disk.get? (folder :: parent) with
  | none => (.error (raisedFor "" .notFound), w)
  | some (.file _) => (.error (raisedFor "" .notADirectory), w)
  | some .directory =>
      if (w.agentPath.entry [folder]).isSome then (.error (.fileExistsError folder), w)
      else
        (.ok (), { w with
          agentPath := w.agentPath.renew [folder] (w.disk.tree.below (folder :: parent)) })

def applyBuildOp : Handler BuildOp BuildOp.Res World
  | .appconfigs, w => (w.disk.appconfigs, w)
  | .glob dir, w => (w.disk.glob dir, w)
  | .stat p, w => (w.disk.get? p, w)
  | .walk names, w => (w.disk.tree.walk agentPkgsDir names, w)
  | .write p text, w => ((w.disk.write p text).1, { w with disk := (w.disk.write p text).2 })
  | .makeDir p, w => ((w.disk.makeDir p).1, { w with disk := (w.disk.makeDir p).2 })
  | .unlinkZips dir, w =>
      let unlinked := Disk.unlinkEach dir ((w.disk.glob dir).filter isZip) w.disk
      (unlinked.1, { w with disk := unlinked.2 })
  | .newAgentPath, w => ((), { w with agentPath := FileTree.empty })
  | .addFile name text, w => ((), { w with agentPath := w.agentPath.set [name] (.file text) })
  | .copytree parent folder, w => w.copytree parent folder
  | .zipPackage id, w =>
      ((), { w with installers := w.installers.upsert id (AgentBuilder.zipPackage w.agentPath) })
  | .sendFile id, w => (w.installers.get? id, w)

abbrev BuildProg (α : Type) : Type := Program BuildOp BuildOp.Res PyError α

def write (p : Place) (text : String) : BuildProg Unit := do
  let written ← Program.perform (BuildOp.write p text)
  Program.ofExcept written

/-! ## Requests -/

/-- An entry of `customPackages`: what was filled in for a package, and its own text. -/
structure CustomPackage where
  fields : List (String × String)
  hasEditableConfig : Bool
  configLocation : Option String
  content : Option String
deriving DecidableEq

/-- `template_ctx` -/
inductive TemplateContext where
  | custom (package : CustomPackage)
  | apiToken (token : String)
deriving DecidableEq

structure EndgameLogin where
  serverIp : String
  userName : String
  password : String
  port : String
  sensorId : String

/-- The installer the Endgame server sends, and the key of its API. -/
structure EndgamePackage where
  filename : String
  content : String
  apiKey : String

structure InstallerConfig where
  id : String
  installEndgame : Bool
  endgame : EndgameLogin
  customPackages : Option (List (String × CustomPackage))

/-- The payload, and what the cluster and the Endgame server answer the build. -/
structure BuildRequest where
  installerConfig : InstallerConfig
  /-- `read_namespaced_secret`, with the retries that are left -/
  readSecret : String → Nat → Except PyError KubernetesSecret
  endgameServer : EndgameLogin → Except PyError EndgamePackage

/-- What all builds share. -/
structure BuildEnv where
  unicode : Unicode
  /-- `template.render`, with or without escapes -/
  render : Bool → String → TemplateContext → Except PyError String
  /-- `json.load(_file).get("name", None)` -/
  packageName : String → Except PyError (Option String)
  /-- the files `*.zip` of the beat in the offline repository -/
  offlineZips : String → List (String × String)

/-! ## Rendering -/

section

variable (env : BuildEnv)

/-- `select_autoescape(["html", "xml"])`; a template without a name is escaped. -/
def selectAutoescape : Option String → Bool
  | none => true
  | some name =>
      let lowered := env.unicode.lower name.toList
      ".html".toList.isSuffixOf lowered || ".xml".toList.isSuffixOf lowered

/-- `_create_config`, of the template in a directory; the outcome is written to the directory
    above. -/
def createConfig (name : String) (templateDir : Place) (templateCtx : TemplateContext) :
    BuildProg Unit := do
  let entry ← Program.perform (BuildOp.stat (name :: templateDir))
  match entry with
  | some (.file text) => do
      let templateOut ←
        Program.ofExcept (env.render (selectAutoescape env (some name)) text templateCtx)
      write (name :: templateDir.tail) templateOut
  | _ => Program.raise (.valueError "The template passed in does not exists")

/-- The parts of a `Path`. -/
def pathParts (path : String) : List String :=
  (names path).filter fun name => name ≠ "" ∧ name ≠ "."

/-- `(AGENT_PKGS_DIR / path).exists()` -/
def pathExists (directory : List String) (name : String) : BuildProg Bool := do
  let found ← Program.perform (BuildOp.walk directory)
  match found with
  | .ok dir =>
      if name = ".." then return true
      else if nameMax < name.utf8ByteSize then Program.raise (raisedFor "" .nameTooLong)
      else do
        let entry ← Program.perform (BuildOp.stat (name :: dir))
        return entry.isSome
  | .error .nameTooLong => Program.raise (raisedFor "" .nameTooLong)
  | .error _ => return false

/-- `config_type.capitalize()` -/
def capitalized (configType : String) : String :=
  String.ofList (env.unicode.capitalize configType.toList)

/-- The text a configuration has for a package, and its location, if it has one. -/
def ownContent (config : InstallerConfig) (configType : String) : Option (String × String) :=
  match (config.customPackages.getD []).lookup (capitalized env configType) with
  | some { content := some content, configLocation := some configLocation, .. } =>
      if configLocation.length = 0 then none else some (content, configLocation)
  | _ => none

/-- `_create_config_from_mongo` -/
def createConfigFromMongo (config : InstallerConfig) (configType : String)
    (templateCtx : TemplateContext) : BuildProg Bool :=
  match ownContent env config configType with
  | none => return false
  | some (content, configLocation) => do
      let parts := pathParts (configType ++ "/" ++ configLocation)
      let templateName := parts.getLast?.getD ""
      let found ← pathExists parts.dropLast templateName
      if found then do
        let templateOut ←
          Program.ofExcept (env.render (selectAutoescape env none) content templateCtx)
        let above ← Program.perform (BuildOp.walk (parts.dropLast ++ [".."]))
        match above with
        | .error e => Program.raise (raisedFor "" e)
        | .ok dir =>
            if templateName = ".." then Program.raise (raisedFor "" .isADirectory)
            else do
              write (templateName :: dir) templateOut
              return true
      -- the message names a variable that is assigned later
      else Program.raise (.unboundLocalError "template")

/-! ## Packages -/

/-- `_get_packages`, with the packages that were read before -/
def getPackages : List (String × String) → Table (Option String) String →
    Except PyError (Table (Option String) String)
  | [], packages => .ok packages
  | (folder, text) :: appconfigs, packages => do
      let packageName ← env.packageName text
      getPackages appconfigs (packages.upsert packageName folder)

/-- `_process_templates_dir` -/
def processTemplatesDir (config : InstallerConfig) (applicationName : String) (tplDir : Place)
    (tplContext : TemplateContext) : BuildProg Unit := do
  let entry ← Program.perform (BuildOp.stat tplDir)
  if entry = some .directory then do
    let templates ← Program.perform (BuildOp.glob tplDir)
    Program.forEach templates fun template => do
      let rendered ← createConfigFromMongo env config applicationName tplContext
      Program.when (rendered = false) (createConfig env template tplDir tplContext)
  else return ()

/-- `get_kubernetes_certifcate_secret`; when all retries have failed, there is no secret. -/
def getKubernetesCertifcateSecret (readSecret : String → Nat → Except PyError KubernetesSecret)
    (secretName : String) : Nat → Except PyError (Option KubernetesSecret)
  | 0 => .ok none
  | retries + 1 =>
      match readSecret secretName (retries + 1) with
      | .ok secret => .ok (some secret)
      | .error (.apiException _) => getKubernetesCertifcateSecret readSecret secretName retries
      | .error e => .error e

/-- What a round of the loop comes to. -/
def secretRound : Except PyError KubernetesSecret → Except PyError (Option KubernetesSecret)
  | .ok secret => .ok (some secret)
  | .error (.apiException _) => .ok none
  | .error e => .error e

/-- Where the cluster answers every round as the request says, the secret is the one that the
    request says. -/
theorem run_getKubernetesCertifcateSecret {b64decode : String → Except PyError String} {τ : Type}
    {h : Handler KubeOp KubeOp.Res τ}
    {readSecret : String → Nat → Except PyError KubernetesSecret} {secretName inNamespace : String}
    {state : Nat → τ} (hround : ∀ retries,
      ((secretAttempt b64decode secretName inNamespace).run).run h (state (retries + 1)) =
        (secretRound (readSecret secretName (retries + 1)), state retries)) (retries : Nat) :
    ((Tfplenum.getKubernetesCertifcateSecret b64decode secretName inNamespace retries).run h
        (state retries)).1 = getKubernetesCertifcateSecret readSecret secretName retries := by
  induction retries with
  | zero => rfl
  | succ retries ih =>
      rw [Tfplenum.getKubernetesCertifcateSecret, getKubernetesCertifcateSecret, Program.bind_eq,
        Program.run_bind, hround]
      cases hread : readSecret secretName (retries + 1) with
      | ok secret => rfl
      | error e =>
          cases e with
          | apiException status => exact ih
          | _ => rfl

/-- `KubernetesSecret.write_to_file` -/
def writeToFile (secret : KubernetesSecret) (somePath : Place) : BuildProg Unit := do
  let entry ← Program.perform (BuildOp.stat somePath)
  if entry = some .directory then do
    write ("ca.crt" :: somePath) secret.caCertificate
    write ("tls.crt" :: somePath) secret.tlsCertificate
    write ("tls.key" :: somePath) secret.tlsKey
  else return ()

/-- `_process_kubernetes_dir` -/
def processKubernetesDir (request : BuildRequest) (kubernetesDir : Place)
    (applicationName : String) (folderToCopy : Place) : BuildProg Unit := do
  let entry ← Program.perform (BuildOp.stat kubernetesDir)
  if entry = some .directory then do
    let secret ← Program.ofExcept (getKubernetesCertifcateSecret request.readSecret
      (applicationName ++ "-agent-certificate") 3)
    match secret with
    | some secret => writeToFile secret folderToCopy
    -- this is no `ApiException`
    | none => Program.raise (.attributeError "'NoneType' object has no attribute 'write_to_file'")
  else return ()

/-- `_copy_zip_packages_from_offlinerepo` -/
def copyZipPackagesFromOfflinerepo (applicationName : String) : BuildProg Unit :=
  Program.forEach (env.offlineZips applicationName) fun (fname, content) => do
    let entry ← Program.perform (BuildOp.stat (applicationName :: agentPkgsDir))
    if entry = some .directory then write (fname :: applicationName :: agentPkgsDir) content
    else write (applicationName :: agentPkgsDir) content

/-- `_copy_package` -/
def copyPackage (folder : String) : BuildProg Unit := do
  let copied ← Program.perform (BuildOp.copytree agentPkgsDir folder)
  Program.ofExcept copied

/-- `_package_generic` -/
def packageGeneric (request : BuildRequest) (folder : String) (tplContext : TemplateContext) :
    BuildProg Unit := do
  processTemplatesDir env request.installerConfig folder ("templates" :: folder :: agentPkgsDir)
    tplContext
  processKubernetesDir request ("kubernetes" :: folder :: agentPkgsDir) folder
    (folder :: agentPkgsDir)
  copyZipPackagesFromOfflinerepo env folder
  copyPackage folder

/-- `_package_generic_all` -/
def packageGenericAll (request : BuildRequest) (packages : Table (Option String) String) :
    BuildProg Unit :=
  Program.forEach (request.installerConfig.customPackages.getD []) fun (name, tplContext) =>
    match packages.get? (some name) with
    | none => return ()
    | some folder => packageGeneric env request folder (.custom tplContext)

/-! ## Endgame -/

def endgameDir : Place := "endgame" :: agentPkgsDir

/-- One name of a path that is joined and brought to its normal form. -/
def joinStep (p : Place) (name : String) : Place :=
  if name = "" ∨ name = "." then p else if name = ".." then p.tail else name :: p

/-- `os.path.normpath(os.path.join(dst_folder, filename))` -/
def joinedPath (dstFolder : Place) (filename : String) : Place :=
  (names filename).foldl joinStep (start dstFolder filename)

/-- `_save_installer` -/
def saveInstaller (package : EndgamePackage) (dstFolder : Place) : BuildProg Unit :=
  if package.filename = "" then Program.raise (.valueError "Missing filename")
  -- `_is_direct_parent`
  else if (joinedPath dstFolder package.filename).tail ≠ dstFolder then
    Program.raise (.valueError ("Invalid filename: " ++ package.filename))
  else do
    let made ← Program.perform (BuildOp.makeDir dstFolder)
    Program.ofExcept made
    write (joinedPath dstFolder package.filename) package.content

/-- `text.strip()` -/
def stripped (text : String) : String := String.ofList (env.unicode.strip text.toList)

/-- `_package_endgame` -/
def packageEndgame (request : BuildRequest) : BuildProg Unit :=
  if request.installerConfig.installEndgame then do
    let login := request.installerConfig.endgame
    let unlinked ← Program.perform (BuildOp.unlinkZips endgameDir)
    Program.ofExcept unlinked
    let password ← Program.ofExcept (base64ToString login.password)
    let package ← Program.ofExcept (request.endgameServer
      { login with
        serverIp := stripped env login.serverIp
        userName := stripped env login.userName
        password := password
        port := stripped env login.port })
    saveInstaller package endgameDir
    createConfig env "install.ps1" ("templates" :: endgameDir) (.apiToken package.apiKey)
    createConfig env "uninstall.ps1" ("templates" :: endgameDir) (.apiToken package.apiKey)
    copyPackage "endgame"
  else return ()

/-! ## Builds -/

/-- `shutil.copy2("/opt/tfplenum/agent_pkgs/<name>", agent_path)` -/
def copyScript (name : String) : BuildProg Unit := do
  let entry ← Program.perform (BuildOp.stat (name :: agentPkgsDir))
  match entry with
  | some (.file text) => Program.perform (BuildOp.addFile name text)
  | some .directory => Program.raise (raisedFor "" .isADirectory)
  | none => Program.raise (raisedFor "" .notFound)

/-- `build_agent_if_not_exists`: the constructor of `AgentBuilder` and `build_agent` -/
def buildAgent (request : BuildRequest) : BuildProg Unit := do
  let appconfigs ← Program.perform BuildOp.appconfigs
  let packages ← Program.ofExcept (getPackages env appconfigs .empty)
  Program.perform BuildOp.newAgentPath
  copyScript "install.ps1"
  copyScript "uninstall.ps1"
  packageEndgame env request
  packageGenericAll env request packages
  Program.perform (BuildOp.zipPackage request.installerConfig.id)

/-- `AgentGenerate.post` -/
def AgentGenerate.post (request : BuildRequest) : BuildProg (Option Archive) := do
  buildAgent env request
  Program.perform (BuildOp.sendFile request.installerConfig.id)

/-- What a request is answered. -/
def answer (request : BuildRequest) (w : World) : Except PyError (Option Archive) :=
  ((AgentGenerate.post env request).run applyBuildOp w).1

/-- What requests leave, one after the other, whether they are answered or fail. -/
def afterAll : List BuildRequest → World → World
  | [], w => w
  | request :: requests, w =>
      afterAll requests ((AgentGenerate.post env request).run applyBuildOp w).2

end

end Tfplenum.AgentBuilder
