/-
  Tfplenum.Models.Nodes

  `models/nodes.py`: the node schema with its validators, the `Node` and
  `NodeJob` models, and how they are loaded, created, saved and deleted.  A query
  hands out its documents at once; each of them is then loaded through the
  schema, which reads the general settings once more for every node.
-/

import Tfplenum.Models.GeneralSettings

namespace Tfplenum

open Lib Lib.Pattern

/-! ## Validators -/

/-- `[a-z0-9-.]` -/
def isHostChar (c : Char) : Bool := isDomainChar c || c = '.'

def fqdnLength (value : List Char) : Nat := (lastLabel value).length + 52

/-- `^[a-z]([a-z0-9-.]){4,fqdn_length}$`, the bound being that of the value. -/
def isHostname (value : List Char) : Bool :=
  anchored (word isAsciiLower isHostChar 4 (fqdnLength value)) value

def validateHostnameFn (value : String) : List String :=
  if isHostname value.toList then []
  else ["Hostname must be alphanumeric with a length between 5 and " ++
    toString (fqdnLength value.toList) ++ " characters. " ++
    "Special characters are not allowed with the exception of dashes (IE -)."]

/-- `^([0-9a-fA-F]{2}[:]){5}([0-9a-fA-F]{2})$` -/
def isMacAddress (value : List Char) : Bool :=
  anchored (hexPairs 5) value

def validateMacAddressFn (value : String) : List String :=
  if isMacAddress value.toList then []
  else [value ++ " is not a valid MAC address it must be in xx:xx:xx:xx:xx:xx format. " ++
    "Also, MAC addresses can only contain upper and lower case letters A through F and numbers."]

/-- `validate_mac_address`, which lets an empty address pass. -/
def validateMacAddress (value : String) : List String :=
  if value = "" then [] else validateMacAddressFn value

/-! ## Constants -/

namespace NodeTypes
def server := "Server"
def sensor := "Sensor"
def controlPlane := "Control-Plane"
def serviceNode := "Service"
def mip := "MIP"
def minio := "MinIO"
def undefined := "Undefined"
end NodeTypes

namespace DeploymentTypes
def baremetal := "Baremetal"
def virtual := "Virtual"
def iso := "Iso"
end DeploymentTypes

def jobCreate := "create"
def jobProvision := "provision"
def jobDeploy := "deploy"
def jobRemove := "remove"

def macBase := "00:1b:ea:00:00:00"

/-! ## Schema -/

namespace NodeSchema

def nodeTypes : List String :=
  [NodeTypes.server, NodeTypes.sensor, NodeTypes.undefined, NodeTypes.controlPlane,
    NodeTypes.minio, NodeTypes.mip, NodeTypes.serviceNode]

def idField : Field Json String := ⟨"_id", false, false, Fields.Str.deserialize, Fields.unchecked⟩
def hostnameField : Field Json String :=
  ⟨"hostname", true, false, Fields.Str.deserialize, validateHostnameFn⟩
def ipAddressField : Field Json IPv4Address :=
  ⟨"ip_address", true, false, Fields.IPv4.deserialize, Fields.unchecked⟩
def macAddressField : Field Json String :=
  ⟨"mac_address", false, true, Fields.Str.deserialize, validateMacAddress⟩
def raid0OverrideField : Field Json Bool :=
  ⟨"raid0_override", false, true, Fields.Bool.deserialize, Fields.unchecked⟩
def nodeTypeField : Field Json String :=
  ⟨"node_type", false, false, Fields.Str.deserialize, Fields.oneOf nodeTypes⟩
def errorField : Field Json String :=
  ⟨"error", false, false, Fields.Str.deserialize, Fields.unchecked⟩
def deviceFactsField : Field Json (List (String × Json)) :=
  ⟨"deviceFacts", false, false, Fields.Dict.deserialize, Fields.unchecked⟩
def deploymentTypeField : Field Json String :=
  ⟨"deployment_type", false, true, Fields.Str.deserialize, Fields.unchecked⟩
def vpnStatusField : Field Json Bool :=
  ⟨"vpn_status", false, true, Fields.Bool.deserialize, Fields.unchecked⟩
def virtualField (name : String) : Field Json Int :=
  ⟨name, false, true, Fields.Integer.deserialize, Fields.unchecked⟩

def fieldNames : List String :=
  ["_id", "hostname", "ip_address", "mac_address", "raid0_override", "node_type", "error",
    "deviceFacts", "deployment_type", "vpn_status", "virtual_cpu", "virtual_mem", "virtual_os",
    "virtual_data"]

/-- What loading the fields found. -/
structure Data where
  id : Loaded String
  hostname : Loaded String
  ipAddress : Loaded IPv4Address
  macAddress : Loaded String
  raid0Override : Loaded Bool
  nodeType : Loaded String
  error : Loaded String
  deviceFacts : Loaded (List (String × Json))
  deploymentType : Loaded String
  vpnStatus : Loaded Bool
  virtualCpu : Loaded Int
  virtualMem : Loaded Int
  virtualOs : Loaded Int
  virtualData : Loaded Int

def read (payload : List (String × Json)) : Data where
  id := idField.load Fields.isNull payload
  hostname := hostnameField.load Fields.isNull payload
  ipAddress := ipAddressField.load Fields.isNull payload
  macAddress := macAddressField.load Fields.isNull payload
  raid0Override := raid0OverrideField.load Fields.isNull payload
  nodeType := nodeTypeField.load Fields.isNull payload
  error := errorField.load Fields.isNull payload
  deviceFacts := deviceFactsField.load Fields.isNull payload
  deploymentType := deploymentTypeField.load Fields.isNull payload
  vpnStatus := vpnStatusField.load Fields.isNull payload
  virtualCpu := (virtualField "virtual_cpu").load Fields.isNull payload
  virtualMem := (virtualField "virtual_mem").load Fields.isNull payload
  virtualOs := (virtualField "virtual_os").load Fields.isNull payload
  virtualData := (virtualField "virtual_data").load Fields.isNull payload

def Data.errors (data : Data) : List (String × List String) :=
  data.id.errors "_id" ++ data.hostname.errors "hostname" ++
    data.ipAddress.errors "ip_address" ++ data.macAddress.errors "mac_address" ++
    data.raid0Override.errors "raid0_override" ++ data.nodeType.errors "node_type" ++
    data.error.errors "error" ++ data.deviceFacts.errors "deviceFacts" ++
    data.deploymentType.errors "deployment_type" ++ data.vpnStatus.errors "vpn_status" ++
    data.virtualCpu.errors "virtual_cpu" ++ data.virtualMem.errors "virtual_mem" ++
    data.virtualOs.errors "virtual_os" ++ data.virtualData.errors "virtual_data"

/-- The deserialised fields, before `create_Node`. -/
def deserialize : Json → Except PyError Data
  | .obj payload =>
      let errors := (read payload).errors ++ unknownFields fieldNames payload
      if errors = [] then .ok (read payload) else .error (.validationError errors)
  | _ => .error (.validationError [("_schema", ["Invalid input type."])])

end NodeSchema

/-! ## Nodes -/

/-- A node in memory; `vpnStatus` is whatever was last assigned to it. -/
structure Node where
  id : String
  hostname : String
  ipAddress : IPv4Address
  macAddress : Option String
  raid0Override : Option Bool
  nodeType : String
  deviceFacts : List (String × Json)
  deploymentType : Option String
  vpnStatus : Json
  virtualCpu : Option Int
  virtualMem : Option Int
  virtualOs : Option Int
  virtualData : Option Int

/-- `str(RandMac(...)).strip("'")` -/
def stripQuotes (text : String) : String :=
  String.ofList ((text.toList.dropWhile (· = '\'')).rdropWhile (· = '\''))

namespace Node

def randMac : Prog String := stripQuotes <$> Prog.ask (.randMac macBase)

/-- `hostname`, or `hostname` under `domain` where it does not end with it. -/
def qualify (hostname domain : String) : String :=
  if endsWith hostname.toList domain.toList then hostname else hostname ++ "." ++ domain

/-- `_set_hostname` -/
def setHostname (hostname : String) : Prog String := do
  match ← GeneralSettingsForm.loadFromDb with
  | none => Program.raise (.attributeError "'NoneType' object has no attribute 'domain'")
  | some settings => pure (qualify hostname settings.domain)

/-- `_set_mac_address` -/
def setMacAddress (macAddress : Option String) (nodeType : String) : Prog (Option String) :=
  if macAddress.getD "" = "" ∧ nodeType = NodeTypes.mip then some <$> randMac
  else pure macAddress

/-- `Node(**data)` -/
def init (data : NodeSchema.Data) : Prog Node :=
  match data.error, data.hostname, data.ipAddress with
  | .missing, .value hostname, .value ipAddress => do
      let id ← (if data.id.valueD "" = "" then Prog.ask .uuid4 else pure (data.id.valueD ""))
      let nodeType := data.nodeType.valueD NodeTypes.undefined
      let hostname ← setHostname hostname
      let macAddress ← setMacAddress (data.macAddress.getD none) nodeType
      pure {
        id := id
        hostname := hostname
        ipAddress := ipAddress
        macAddress := macAddress
        raid0Override := data.raid0Override.getD none
        nodeType := nodeType
        deviceFacts := data.deviceFacts.valueD []
        deploymentType := data.deploymentType.getD none
        vpnStatus := Fields.ofOption .bool (data.vpnStatus.getD none)
        virtualCpu := data.virtualCpu.getD (some 16)
        virtualMem := data.virtualMem.getD (some 16)
        virtualOs := data.virtualOs.getD (some 100)
        virtualData := data.virtualData.getD (some 500) }
  | _, _, _ =>
      Program.raise (.typeError "__init__() got an unexpected keyword argument 'error'")

/-- `NodeSchema.load` -/
def load (payload : Json) : Prog Node := do
  init (← Program.ofExcept (NodeSchema.deserialize payload))

/-- `schema.dump(self)`, less the `_id`. -/
def dump (node : Node) : Except PyError NodeDoc := do
  let vpnStatus ← Fields.Bool.serialize node.vpnStatus
  return {
    hostname := node.hostname
    ipAddress := node.ipAddress.print
    macAddress := node.macAddress
    raid0Override := node.raid0Override
    nodeType := node.nodeType
    deviceFacts := node.deviceFacts
    deploymentType := node.deploymentType
    vpnStatus := vpnStatus
    virtualCpu := node.virtualCpu
    virtualMem := node.virtualMem
    virtualOs := node.virtualOs
    virtualData := node.virtualData }

/-- What is dumped differs from the node by the reading of its VPN status. -/
theorem eq_of_dump {node : Node} {doc : NodeDoc} (h : node.dump = .ok doc) :
    ∃ vpnStatus, Fields.Bool.serialize node.vpnStatus = .ok vpnStatus ∧ doc = {
      hostname := node.hostname
      ipAddress := node.ipAddress.print
      macAddress := node.macAddress
      raid0Override := node.raid0Override
      nodeType := node.nodeType
      deviceFacts := node.deviceFacts
      deploymentType := node.deploymentType
      vpnStatus := vpnStatus
      virtualCpu := node.virtualCpu
      virtualMem := node.virtualMem
      virtualOs := node.virtualOs
      virtualData := node.virtualData } := by
  obtain ⟨vpnStatus, hserialize, h⟩ := exists_of_bind_eq_ok h
  exact ⟨vpnStatus, hserialize, (Except.ok.inj h).symm⟩

end Node

/-- The stored document as the driver hands it out. -/
def NodeDoc.fields (doc : NodeDoc) (id : String) : List (String × Json) :=
  [("_id", .str id), ("hostname", .str doc.hostname), ("ip_address", .str doc.ipAddress),
    ("mac_address", Fields.ofOption .str doc.macAddress),
    ("raid0_override", Fields.ofOption .bool doc.raid0Override),
    ("node_type", .str doc.nodeType), ("deviceFacts", .obj doc.deviceFacts),
    ("deployment_type", Fields.ofOption .str doc.deploymentType),
    ("vpn_status", Fields.ofOption .bool doc.vpnStatus),
    ("virtual_cpu", Fields.ofOption .num doc.virtualCpu),
    ("virtual_mem", Fields.ofOption .num doc.virtualMem),
    ("virtual_os", Fields.ofOption .num doc.virtualOs),
    ("virtual_data", Fields.ofOption .num doc.virtualData)]

namespace Node

/-- `schema.load(document)` for a document out of the database. -/
def loadDoc (row : String × NodeDoc) : Prog Node := load (.obj (row.2.fields row.1))

/-! ### Loaders -/

/-- `_load_node_types_from_db`, and the loaders of one type. -/
def loadNodeTypesFromDb (nodeTypes : List String) : Prog (List Node) := do
  Program.mapEach (← Prog.find .nodes fun _ node => node.nodeType ∈ nodeTypes) loadDoc

def loadAllServersSensorsFromDb : Prog (List Node) :=
  loadNodeTypesFromDb [NodeTypes.server, NodeTypes.sensor, NodeTypes.serviceNode]

def loadAllServersFromDb : Prog (List Node) := loadNodeTypesFromDb [NodeTypes.server]

def loadControlPlaneFromDb : Prog (List Node) := loadNodeTypesFromDb [NodeTypes.controlPlane]

def loadMipsFromDb : Prog (List Node) := loadNodeTypesFromDb [NodeTypes.mip]

def loadDipNodesFromDb : Prog (List Node) :=
  loadNodeTypesFromDb
    [NodeTypes.server, NodeTypes.sensor, NodeTypes.serviceNode, NodeTypes.controlPlane]

def loadMinioFromDb : Prog (Option Node) := do
  match ← Prog.findOne .nodes fun _ node => node.nodeType = NodeTypes.minio with
  | none => pure none
  | some row => some <$> loadDoc row

def loadAllFromDb : Prog (List Node) := do
  Program.mapEach (← Prog.find .nodes fun _ _ => true) loadDoc

def loadFromDbUsingHostname (hostname : String) : Prog (Option Node) := do
  match ← Prog.findOne .nodes fun _ node => node.hostname = hostname with
  | none => pure none
  | some row => some <$> loadDoc row

end Node

/-! ### Inventories -/

def writeInventory (file : String) : Prog Unit :=
  Prog.orRaise (Prog.ask (.writeInventory file))

def generateNodesInventory : Prog Unit := do
  let _ ← Node.loadAllServersSensorsFromDb
  writeInventory "nodes.yml"

def generateCpInventory : Prog Unit := do
  let _ ← Node.loadControlPlaneFromDb
  writeInventory "control_plane.yml"

def generateMipNodesInventory : Prog Unit := do
  let _ ← Node.loadMipsFromDb
  writeInventory "mip_nodes.yml"

def generateMinioInventory : Prog Unit := do
  let _ ← Node.loadMinioFromDb
  writeInventory "minio.yml"

/-- `_generate_inventory` -/
def generateInventory : Prog Unit := do
  generateNodesInventory
  generateCpInventory
  generateMipNodesInventory
  generateMinioInventory

/-! ## Jobs -/

/-- A job in memory.  `JobSchema` checks types only, and a document is always the
    dump of a job, so loading a document cannot fail. -/
structure NodeJob where
  id : String
  doc : JobDoc

namespace NodeJob

/-- `NodeJob(...)` without an `_id`. -/
def init (doc : JobDoc) : Prog NodeJob := do
  return ⟨← Prog.ask .uuid4, doc⟩

def saveToDb (job : NodeJob) : Prog Unit := Prog.replaceOne .jobs job.id job.doc

def loadJobByNodeId (nodeId jobName : String) : Prog (Option NodeJob) := do
  match ← Prog.findOne .jobs fun _ job => job.nodeId = nodeId ∧ job.name = jobName with
  | none => pure none
  | some row => pure (some ⟨row.1, row.2⟩)

def loadJobByNode (node : Node) (jobName : String) : Prog (Option NodeJob) :=
  loadJobByNodeId node.id jobName

def loadJobsByNode (node : Node) : Prog (List NodeJob) := do
  let rows ← Prog.find .jobs fun _ job => job.nodeId = node.id
  return rows.map fun row => ⟨row.1, row.2⟩

def loadAllJobs : Prog (List NodeJob) := do
  let rows ← Prog.find .jobs fun _ _ => true
  return rows.map fun row => ⟨row.1, row.2⟩

def pendingDoc (doc : JobDoc) : JobDoc :=
  { doc with
    pending := true, complete := false, inprogress := false, error := false
    message := none, jobId := none }

def inprogressDoc (jobId : Option String) (doc : JobDoc) : JobDoc :=
  { doc with
    pending := false, inprogress := true, complete := false, error := false
    message := none
    jobId := if jobId.getD "" = "" then doc.jobId else jobId }

def completeDoc (doc : JobDoc) : JobDoc :=
  { doc with
    complete := true, pending := false, inprogress := false, error := false, message := none }

def errorDoc (message : Option String) (doc : JobDoc) : JobDoc :=
  { doc with
    error := true, pending := false, inprogress := false, complete := false, message := message }

/-- The setters change the job in memory and save it. -/
def setPending (job : NodeJob) : Prog NodeJob := do
  let job := ⟨job.id, pendingDoc job.doc⟩
  saveToDb job
  return job

def setInprogress (job : NodeJob) (jobId : Option String) : Prog NodeJob := do
  let job := ⟨job.id, inprogressDoc jobId job.doc⟩
  saveToDb job
  return job

def setComplete (job : NodeJob) : Prog NodeJob := do
  let job := ⟨job.id, completeDoc job.doc⟩
  saveToDb job
  return job

def setError (job : NodeJob) (message : Option String) : Prog NodeJob := do
  let job := ⟨job.id, errorDoc message job.doc⟩
  saveToDb job
  return job

/-- Set the job of the node with this name to pending, if there is one. -/
def setOtherPending (nodeId jobName : String) : Prog Unit := do
  match ← loadJobByNodeId nodeId jobName with
  | none => pure ()
  | some job => discard (setPending job)

def setJobState (job : NodeJob) (jobId : Option String) : Prog NodeJob := do
  let job ← (if job.doc.name = jobDeploy then setInprogress job jobId else pure job)
  Program.when (job.doc.name = jobProvision ∨ job.doc.name = jobCreate)
    (setOtherPending job.doc.nodeId jobDeploy)
  let job ← (if job.doc.name = jobProvision then setInprogress job jobId else pure job)
  let job ← (if job.doc.name = jobCreate then setInprogress job jobId else pure job)
  Program.when (job.doc.name = jobCreate) (setOtherPending job.doc.nodeId jobProvision)
  return job

def createRemoveNodeJob (node : Node) (jobId : String) : Prog Unit := do
  Prog.deleteMany .jobs fun _ job => job.nodeId = node.id
  let removeJob ← init {
    nodeId := node.id, jobId := some jobId, description := some "Removing Node", name := jobRemove
    pending := false, error := false, inprogress := true, complete := false, message := none
    execType := none }
  saveToDb removeJob

/-- A job of a node that was just created. -/
def initPending (node : Node) (description name : String) : Prog NodeJob :=
  init {
    nodeId := node.id, jobId := none, description := some description, name := name
    pending := true, error := false, inprogress := false, complete := false, message := none
    execType := none }

end NodeJob

namespace Node

/-! ### Creating, saving and deleting -/

/-- The jobs of a node that was just created. -/
def createJobs (node : Node) : Prog Unit := do
  if node.nodeType = NodeTypes.sensor ∧ node.deploymentType = some DeploymentTypes.iso then
    let createdjob ← NodeJob.initPending node "Creating Node Profiles" jobCreate
    let deployjob ← NodeJob.initPending node "Deploying Node" jobDeploy
    createdjob.saveToDb
    deployjob.saveToDb
  else
    let createdjob ← NodeJob.initPending node "Creating Kickstart Profiles" jobCreate
    let installjob ← NodeJob.initPending node "Installing RHEL8" jobProvision
    let deployjob ← NodeJob.initPending node "Deploying Node" jobDeploy
    createdjob.saveToDb
    installjob.saveToDb
    deployjob.saveToDb

def create (node : Node) : Prog Unit := do
  let doc ← Program.ofExcept node.dump
  Prog.replaceOne .nodes node.id doc
  createJobs (← loadDoc (node.id, doc))
  generateInventory

/-- `save_to_db()`; no caller passes a domain. -/
def saveToDb (node : Node) : Prog Unit := do
  let doc ← Program.ofExcept node.dump
  Prog.replaceOne .nodes node.id doc
  generateInventory

def delete (node : Node) : Prog Unit := do
  Prog.deleteMany .jobs fun _ job => job.nodeId = node.id
  discard (Prog.deleteOne .nodes node.id)
  generateInventory

/-! ### Validation against the other nodes -/

/-- The errors of `post_validation` for the resources of virtual servers, grouped
    by key in the order of their first entry. -/
def resourceErrors (node : Node) (servers : List Node) : List (String × List String) :=
  let virtual := servers.filter fun server => server.deploymentType = some DeploymentTypes.virtual
  let entries := virtual.flatMap fun server =>
    (if server.virtualCpu ≠ node.virtualCpu then
      [("cpu", "CPU Cores must match " ++ server.hostname ++ " resources.  Set CPU Core to " ++
        showOption server.virtualCpu ++ "\n")]
    else []) ++
    (if server.virtualMem ≠ node.virtualMem then
      [("memory", "Memory must match " ++ server.hostname ++ " resources.  Set Memory to " ++
        showOption server.virtualMem ++ "\n")]
    else [])
  (entries.map Prod.fst).eraseDups.map fun key =>
    (key, (entries.filter fun entry => entry.1 = key).map Prod.snd)
where
  showOption : Option Int → String
    | none => "None"
    | some n => toString n

/-- The error of `post_validation` for a second MinIO node. -/
def minioErrors (node : Node) : Prog (List (String × List String)) := do
  if node.nodeType = NodeTypes.minio then
    match ← loadMinioFromDb with
    | none => pure []
    | some _ => pure [("minio", ["MinIO has already been added. Only one is allowed."])]
  else pure []

def postValidation (node : Node) : Prog Unit := do
  let servers ← loadAllServersFromDb
  let resources :=
    if node.nodeType = NodeTypes.server ∧ node.deploymentType = some DeploymentTypes.virtual then
      node.resourceErrors servers
    else []
  let minio ← node.minioErrors
  Program.when (resources ++ minio ≠ []) (Program.raise (.postValidationError (resources ++ minio)))

end Node

end Tfplenum
