/-
  Tfplenum.Models.SettingsForms

  The forms of `models/settings/` that hold passwords, `kit_settings.py`,
  `mip_settings.py` and `esxi_settings.py`: their schemas, and how each form is
  loaded and saved.  A save works on the form itself, so it is modelled with the
  form it leaves and the exception it ends with, if any.
-/

import Tfplenum.Models.Fields
import Tfplenum.Models.SettingsBase
import Tfplenum.Persistence

namespace Tfplenum

open Lib

/-! ## Fields -/

namespace SettingsFields

def strField (name : String) (required allowNone : Bool) : Field Json String :=
  ⟨name, required, allowNone, Fields.Str.deserialize, Fields.unchecked⟩
def ipField (name : String) (required allowNone : Bool) : Field Json IPv4Address :=
  ⟨name, required, allowNone, Fields.IPv4.deserialize, Fields.unchecked⟩
def boolField (name : String) (allowNone : Bool) : Field Json Bool :=
  ⟨name, false, allowNone, Fields.Bool.deserialize, Fields.unchecked⟩

def readPassword (name : String) (payload : List (String × Json)) : Loaded String :=
  (strField name true false).load Fields.isNull payload

/-- `@validates`: the validator is called on a password that was read; what it raises
    besides a `ValidationError` ends the load. -/
def validatePassword : Loaded String → Except PyError (Loaded String)
  | .value value => do
      let errors ← validatePasswordStigs value
      pure (if errors = [] then .value value else .invalid errors)
  | other => .ok other

section Loads

variable {name : String} {required allowNone : Bool} {payload : List (String × Json)}

theorem strField_load {s : String} (h : payload.lookup name = some (.str s)) :
    (strField name required allowNone).load Fields.isNull payload = .value s :=
  Field.load_eq_value h rfl rfl rfl

theorem strField_loadOption {a : Option String}
    (h : payload.lookup name = some (Fields.ofOption .str a)) :
    (strField name required true).load Fields.isNull payload = .ofOption a :=
  Fields.load_ofOption h rfl (fun _ => rfl) (fun _ => rfl) (fun _ _ => rfl)

theorem ipField_load {ip : IPv4Address} (h : payload.lookup name = some (.str ip.print)) :
    (ipField name required allowNone).load Fields.isNull payload = .value ip :=
  Field.load_eq_value h rfl (Fields.IPv4.deserialize_print ip) rfl

theorem ipField_loadOption {ip : Option IPv4Address}
    (h : payload.lookup name = some (Fields.ofOption .str (ip.map IPv4Address.print))) :
    (ipField name required true).load Fields.isNull payload = .ofOption ip := by
  have hprint : Fields.ofOption Json.str (ip.map IPv4Address.print) =
      Fields.ofOption (fun a => Json.str a.print) ip := by
    cases ip <;> rfl
  rw [hprint] at h
  exact Fields.load_ofOption h rfl (fun _ => rfl) Fields.IPv4.deserialize_print (fun _ _ => rfl)

theorem boolField_load {b : Bool} (h : payload.lookup name = some (.bool b)) :
    (boolField name allowNone).load Fields.isNull payload = .value b :=
  Field.load_eq_value h rfl rfl rfl

theorem boolField_loadOption {b : Option Bool}
    (h : payload.lookup name = some (Fields.ofOption .bool b)) :
    (boolField name true).load Fields.isNull payload = .ofOption b :=
  Fields.load_ofOption h rfl (fun _ => rfl) (fun _ => rfl) (fun _ _ => rfl)

end Loads

/-- A validated password was accepted as it stands. -/
theorem accepted_of_validatePassword {loaded : Loaded String} {value : String}
    (h : validatePassword loaded = .ok (.value value)) : validatePasswordStigs value = .ok [] := by
  unfold validatePassword at h
  split at h
  · rename_i read
    cases hstigs : validatePasswordStigs read with
    | error e =>
        rw [hstigs] at h
        cases h
    | ok errors =>
        rw [hstigs] at h
        by_cases herrors : errors = []
        · subst herrors
          cases h
          exact hstigs
        · have heq : Except.ok (Loaded.invalid errors) = Except.ok (ε := PyError)
              (Loaded.value value) := by
            rw [← h]
            simp [bind, Except.bind, pure, Except.pure, herrors]
          cases heq
  · rename_i hvalue
    cases h
    exact absurd rfl (hvalue value)

/-- A password in its stored form is checked as the password it stands for. -/
theorem validatePassword_stringToBase64 (value : String) :
    validatePassword (.value (stringToBase64 value)) =
      .ok (if stigErrors value.toList = [] then .value (stringToBase64 value)
        else .invalid (stigErrors value.toList)) := by
  rw [validatePassword, validatePasswordStigs_stringToBase64]
  rfl

end SettingsFields

open SettingsFields

/-- `TypeError` of a form that lacks an argument. -/
def missingArguments : PyError := .typeError "__init__() missing required positional arguments"

/-! ## Kit settings -/

structure KitSettingsForm where
  id : String
  kubernetesServicesCidr : IPv4Address
  password : String
  upstreamDns : Option IPv4Address
  upstreamNtp : Option IPv4Address
  isGip : Bool
  jobId : String
  jobCompleted : Option Bool
deriving DecidableEq

def kitSettingsId := "kit_settings_form"

namespace KitSettingsSchema

def fieldNames : List String :=
  ["_id", "kubernetes_services_cidr", "password", "upstream_dns", "upstream_ntp", "is_gip",
    "job_id", "job_completed"]

structure Data where
  id : Loaded String
  kubernetesServicesCidr : Loaded IPv4Address
  password : Loaded String
  upstreamDns : Loaded IPv4Address
  upstreamNtp : Loaded IPv4Address
  isGip : Loaded Bool
  jobId : Loaded String
  jobCompleted : Loaded Bool

def read (payload : List (String × Json)) : Except PyError Data := do
  let password ← validatePassword (readPassword "password" payload)
  pure {
    id := (strField "_id" false false).load Fields.isNull payload
    kubernetesServicesCidr :=
      (ipField "kubernetes_services_cidr" true false).load Fields.isNull payload
    password := password
    upstreamDns := (ipField "upstream_dns" false true).load Fields.isNull payload
    upstreamNtp := (ipField "upstream_ntp" false true).load Fields.isNull payload
    isGip := (boolField "is_gip" false).load Fields.isNull payload
    jobId := (strField "job_id" false false).load Fields.isNull payload
    jobCompleted := (boolField "job_completed" true).load Fields.isNull payload }

def Data.errors (data : Data) : List (String × List String) :=
  data.id.errors "_id" ++ data.kubernetesServicesCidr.errors "kubernetes_services_cidr" ++
    data.password.errors "password" ++ data.upstreamDns.errors "upstream_dns" ++
    data.upstreamNtp.errors "upstream_ntp" ++ data.isGip.errors "is_gip" ++
    data.jobId.errors "job_id" ++ data.jobCompleted.errors "job_completed"

/-- `KitSettingsForm(**data)` -/
def createKickstart (data : Data) : Except PyError KitSettingsForm :=
  match data.kubernetesServicesCidr, data.password with
  | .value kubernetesServicesCidr, .value password =>
      .ok {
        id := if data.id.valueD "" = "" then kitSettingsId else data.id.valueD ""
        kubernetesServicesCidr := kubernetesServicesCidr
        password := password
        upstreamDns := data.upstreamDns.getD (some ⟨0, 0, 0, 0⟩)
        upstreamNtp := data.upstreamNtp.getD (some ⟨0, 0, 0, 0⟩)
        isGip := data.isGip.valueD false
        jobId := data.jobId.valueD ""
        jobCompleted := data.jobCompleted.getD (some false) }
  | _, _ => .error missingArguments

/-- `KitSettingsSchema.load` -/
def load : Json → Except PyError KitSettingsForm
  | .obj payload => do
      let data ← read payload
      let errors := data.errors ++ unknownFields fieldNames payload
      if errors = [] then createKickstart data else .error (.validationError errors)
  | _ => .error (.validationError [("_schema", ["Invalid input type."])])

/-- What the schema accepts has a password that the validator accepts. -/
theorem accepted_of_load {payload : Json} {form : KitSettingsForm} (h : load payload = .ok form) :
    validatePasswordStigs form.password = .ok [] := by
  unfold load at h
  split at h
  · rename_i payload
    obtain ⟨data, hread, h⟩ := exists_of_bind_eq_ok h
    dsimp only at h
    split at h
    · unfold createKickstart at h
      split at h
      · rename_i password _ hpassword
        cases h
        unfold read at hread
        obtain ⟨loaded, hvalidate, hread⟩ := exists_of_bind_eq_ok hread
        cases hread
        have hloaded : loaded = .value password := hpassword
        rw [hloaded] at hvalidate
        exact accepted_of_validatePassword hvalidate
      · cases h
    · cases h
  · cases h

end KitSettingsSchema

/-- `schema.dump(self)`, less the `_id`. -/
def KitSettingsForm.dump (form : KitSettingsForm) : KitSettingsDoc where
  kubernetesServicesCidr := form.kubernetesServicesCidr.print
  password := form.password
  upstreamDns := form.upstreamDns.map IPv4Address.print
  upstreamNtp := form.upstreamNtp.map IPv4Address.print
  isGip := form.isGip
  jobId := form.jobId
  jobCompleted := form.jobCompleted

def KitSettingsDoc.fields (doc : KitSettingsDoc) (id : String) : List (String × Json) :=
  [("_id", .str id), ("kubernetes_services_cidr", .str doc.kubernetesServicesCidr),
    ("password", .str doc.password), ("upstream_dns", Fields.ofOption .str doc.upstreamDns),
    ("upstream_ntp", Fields.ofOption .str doc.upstreamNtp), ("is_gip", .bool doc.isGip),
    ("job_id", .str doc.jobId), ("job_completed", Fields.ofOption .bool doc.jobCompleted)]

/-- A stored document is loaded under its own `_id`. -/
theorem KitSettingsSchema.id_of_load {doc : KitSettingsDoc} {form : KitSettingsForm}
    (h : load (.obj (doc.fields kitSettingsId)) = .ok form) : form.id = kitSettingsId := by
  have hfield : (strField "_id" false false).load Fields.isNull (doc.fields kitSettingsId) =
      .value kitSettingsId := strField_load rfl
  rw [load] at h
  obtain ⟨data, hread, h⟩ := exists_of_bind_eq_ok h
  have hid : data.id = .value kitSettingsId := by
    unfold read at hread
    obtain ⟨password, -, hread⟩ := exists_of_bind_eq_ok hread
    cases hread
    exact hfield
  dsimp only at h
  split at h
  · unfold createKickstart at h
    split at h
    · cases h
      rw [hid]
      rfl
    · cases h
  · cases h

/-- `ip_network("{}/27")`, strict: the first and the last address of the block. -/
def ipNetwork27 (address : IPv4Address) : Except PyError (IPv4Address × IPv4Address) :=
  if address.d.val % 32 = 0 then .ok (address, { address with d := address.d + 31 })
  else .error (.valueError (address.print ++ "/27 has host bits set"))

namespace KitSettingsForm

/-- `to_dict` -/
def toDict (form : KitSettingsForm) : List (String × Json) := form.dump.fields form.id

def loadFromDb : Prog (Option KitSettingsForm) := do
  match ← Prog.findById .kitSettings kitSettingsId with
  | none => pure none
  | some doc =>
      let form ← Program.ofExcept (KitSettingsSchema.load (.obj (doc.fields kitSettingsId)))
      let password ← Program.ofExcept (base64ToString form.password)
      pure (some { form with password := password })

/-- `_template_ctx` once `_set_kubernetes_cidr` is done. -/
def templateCtx (form : KitSettingsForm) : Except PyError (List (String × Json)) := do
  let (first, last) ← ipNetwork27 form.kubernetesServicesCidr
  pure (form.toDict ++ [("kubernetes_svc_first_ip", .str first.print),
    ("kubernetes_svc_last_ip", .str last.print)])

/-- `_generate_kit_settings_inventory` -/
def generateInventory : Prog Unit := do
  match ← loadFromDb with
  | none => Program.raise (.attributeError "'NoneType' object has no attribute 'to_dict'")
  | some form =>
      let ctx ← Program.ofExcept form.templateCtx
      Prog.orRaise (Prog.ask (.renderInventory "kit_settings.yml" ctx))

/-- The form with its password encoded. -/
def encoded (form : KitSettingsForm) : KitSettingsForm :=
  { form with password := stringToBase64 form.password }

/-- A stored document is loaded exactly if its password keeps the rules. -/
theorem load_encoded (form : KitSettingsForm) :
    KitSettingsSchema.load (.obj (form.encoded.dump.fields kitSettingsId)) =
      if stigErrors form.password.toList = [] then .ok { form.encoded with id := kitSettingsId }
      else .error (.validationError [("password", stigErrors form.password.toList)]) := by
  have hpassword : readPassword "password" (form.encoded.dump.fields kitSettingsId) =
      .value (stringToBase64 form.password) := strField_load rfl
  have hread : KitSettingsSchema.read (form.encoded.dump.fields kitSettingsId) =
      .ok {
        id := .value kitSettingsId
        kubernetesServicesCidr := .value form.kubernetesServicesCidr
        password := if stigErrors form.password.toList = [] then
          .value (stringToBase64 form.password) else .invalid (stigErrors form.password.toList)
        upstreamDns := .ofOption form.upstreamDns
        upstreamNtp := .ofOption form.upstreamNtp
        isGip := .value form.isGip
        jobId := .value form.jobId
        jobCompleted := .ofOption form.jobCompleted } := by
    rw [KitSettingsSchema.read, hpassword, validatePassword_stringToBase64, strField_load rfl,
      ipField_load rfl, ipField_loadOption rfl, ipField_loadOption rfl, boolField_load rfl,
      strField_load rfl, boolField_loadOption rfl]
    rfl
  have hknown : unknownFields KitSettingsSchema.fieldNames
      (form.encoded.dump.fields kitSettingsId) = [] := by
    rw [unknownFields_eq_nil_iff]
    simp [KitSettingsDoc.fields, KitSettingsSchema.fieldNames]
  rw [KitSettingsSchema.load, hread, hknown]
  by_cases hstigs : stigErrors form.password.toList = []
  · rw [if_pos hstigs, if_pos hstigs]
    simp [KitSettingsSchema.Data.errors, KitSettingsSchema.createKickstart, encoded, kitSettingsId,
      bind, Except.bind]
  · rw [if_neg hstigs, if_neg hstigs]
    simp [KitSettingsSchema.Data.errors, bind, Except.bind]

/-- `save_to_db`; the server refuses to replace a document by one of another `_id`. -/
def saveToDb (form : KitSettingsForm) : Prog (KitSettingsForm × Except PyError Unit) := do
  let form := form.encoded
  if form.id ≠ kitSettingsId then
    pure (form, .error (.other "WriteError"))
  else
    Prog.replaceOne .kitSettings kitSettingsId form.dump
    match base64ToString form.password with
    | .error e => pure (form, .error e)
    | .ok password =>
        let outcome ← Program.attempt generateInventory
        pure ({ form with password := password }, outcome)

end KitSettingsForm

/-! ## MIP settings -/

structure MipSettingsForm where
  id : String
  password : String
  userPassword : String
  luksPassword : String
deriving DecidableEq

def mipSettingsId := "mip_settings_form"

namespace MipSettingsSchema

def fieldNames : List String := ["_id", "password", "user_password", "luks_password"]

structure Data where
  id : Loaded String
  password : Loaded String
  userPassword : Loaded String
  luksPassword : Loaded String

def read (payload : List (String × Json)) : Except PyError Data := do
  let first ← validatePassword (readPassword "password" payload)
  let second ← validatePassword (readPassword "user_password" payload)
  let third ← validatePassword (readPassword "luks_password" payload)
  pure {
    id := (strField "_id" false false).load Fields.isNull payload
    password := first
    userPassword := second
    luksPassword := third }

def Data.errors (data : Data) : List (String × List String) :=
  data.id.errors "_id" ++ data.password.errors "password" ++
    data.userPassword.errors "user_password" ++ data.luksPassword.errors "luks_password"

/-- `MipSettingsForm(**data)` -/
def createKickstart (data : Data) : Except PyError MipSettingsForm :=
  match data.password, data.userPassword, data.luksPassword with
  | .value password, .value userPassword, .value luksPassword =>
      .ok {
        id := if data.id.valueD "" = "" then mipSettingsId else data.id.valueD ""
        password := password
        userPassword := userPassword
        luksPassword := luksPassword }
  | _, _, _ => .error missingArguments

/-- `MipSettingsSchema.load` -/
def load : Json → Except PyError MipSettingsForm
  | .obj payload => do
      let data ← read payload
      let errors := data.errors ++ unknownFields fieldNames payload
      if errors = [] then createKickstart data else .error (.validationError errors)
  | _ => .error (.validationError [("_schema", ["Invalid input type."])])

theorem password_of_read {payload : List (String × Json)} {data : Data}
    (h : read payload = .ok data) :
    validatePassword (readPassword "password" payload) = .ok data.password := by
  unfold read at h
  obtain ⟨first, hfirst, h⟩ := exists_of_bind_eq_ok h
  obtain ⟨second, -, h⟩ := exists_of_bind_eq_ok h
  obtain ⟨third, -, h⟩ := exists_of_bind_eq_ok h
  cases h
  exact hfirst

/-- What the schema accepts has a password that the validator accepts. -/
theorem accepted_of_load {payload : Json} {form : MipSettingsForm} (h : load payload = .ok form) :
    validatePasswordStigs form.password = .ok [] := by
  unfold load at h
  split at h
  · rename_i payload
    obtain ⟨data, hread, h⟩ := exists_of_bind_eq_ok h
    dsimp only at h
    split at h
    · unfold createKickstart at h
      split at h
      · rename_i password _ _ hpassword _ _
        cases h
        have hvalidate : validatePassword (readPassword "password" payload) =
            .ok data.password := password_of_read hread
        rw [hpassword] at hvalidate
        exact accepted_of_validatePassword hvalidate
      · cases h
    · cases h
  · cases h

end MipSettingsSchema

def MipSettingsForm.dump (form : MipSettingsForm) : MipSettingsDoc where
  password := form.password
  userPassword := form.userPassword
  luksPassword := form.luksPassword

def MipSettingsDoc.fields (doc : MipSettingsDoc) (id : String) : List (String × Json) :=
  [("_id", .str id), ("password", .str doc.password), ("user_password", .str doc.userPassword),
    ("luks_password", .str doc.luksPassword)]

namespace MipSettingsForm

def toDict (form : MipSettingsForm) : List (String × Json) := form.dump.fields form.id

def loadFromDb : Prog (Option MipSettingsForm) := do
  match ← Prog.findById .mipSettings mipSettingsId with
  | none => pure none
  | some doc =>
      let form ← Program.ofExcept (MipSettingsSchema.load (.obj (doc.fields mipSettingsId)))
      let password ← Program.ofExcept (base64ToString form.password)
      let userPassword ← Program.ofExcept (base64ToString form.userPassword)
      let luksPassword ← Program.ofExcept (base64ToString form.luksPassword)
      pure (some { form with
        password := password, userPassword := userPassword, luksPassword := luksPassword })

/-- `_generate_mip_settings_inventory` -/
def generateInventory : Prog Unit := do
  match ← loadFromDb with
  | none => Program.raise (.attributeError "'NoneType' object has no attribute 'to_dict'")
  | some form => Prog.orRaise (Prog.ask (.renderInventory "mip_settings.yml" form.toDict))

def encoded (form : MipSettingsForm) : MipSettingsForm :=
  { form with
    password := stringToBase64 form.password
    userPassword := stringToBase64 form.userPassword
    luksPassword := stringToBase64 form.luksPassword }

/-- `save_to_db`, which leaves the passwords of the form encoded. -/
def saveToDb (form : MipSettingsForm) : Prog (MipSettingsForm × Except PyError Unit) := do
  let form := form.encoded
  if form.id ≠ mipSettingsId then
    pure (form, .error (.other "WriteError"))
  else
    Prog.replaceOne .mipSettings mipSettingsId form.dump
    let outcome ← Program.attempt generateInventory
    pure (form, outcome)

end MipSettingsForm

/-! ## ESXi settings -/

structure EsxiSettingsForm where
  id : String
  ipAddress : IPv4Address
  username : String
  password : String
  datastore : Option String
  folder : Option String
  datacenter : Option String
  portgroup : Option String
  cluster : Option String
  vcenter : Option Bool
deriving DecidableEq

def esxiSettingsId := "esxi_settings_form"

namespace EsxiSettingsSchema

def fieldNames : List String :=
  ["_id", "ip_address", "username", "password", "datastore", "folder", "datacenter", "portgroup",
    "cluster", "vcenter"]

structure Data where
  id : Loaded String
  ipAddress : Loaded IPv4Address
  username : Loaded String
  password : Loaded String
  datastore : Loaded String
  folder : Loaded String
  datacenter : Loaded String
  portgroup : Loaded String
  cluster : Loaded String
  vcenter : Loaded Bool

def read (payload : List (String × Json)) : Data where
  id := (strField "_id" false false).load Fields.isNull payload
  ipAddress := (ipField "ip_address" true false).load Fields.isNull payload
  username := (strField "username" true false).load Fields.isNull payload
  password := readPassword "password" payload
  datastore := (strField "datastore" false true).load Fields.isNull payload
  folder := (strField "folder" false true).load Fields.isNull payload
  datacenter := (strField "datacenter" false true).load Fields.isNull payload
  portgroup := (strField "portgroup" false true).load Fields.isNull payload
  cluster := (strField "cluster" false true).load Fields.isNull payload
  vcenter := (boolField "vcenter" true).load Fields.isNull payload

def Data.errors (data : Data) : List (String × List String) :=
  data.id.errors "_id" ++ data.ipAddress.errors "ip_address" ++ data.username.errors "username" ++
    data.password.errors "password" ++ data.datastore.errors "datastore" ++
    data.folder.errors "folder" ++ data.datacenter.errors "datacenter" ++
    data.portgroup.errors "portgroup" ++ data.cluster.errors "cluster" ++
    data.vcenter.errors "vcenter"

/-- `EsxiSettingsForm(**data)` -/
def createEsxi (data : Data) : Except PyError EsxiSettingsForm :=
  match data.ipAddress, data.username, data.password with
  | .value ipAddress, .value username, .value password =>
      .ok {
        id := if data.id.valueD "" = "" then esxiSettingsId else data.id.valueD ""
        ipAddress := ipAddress
        username := username
        password := password
        datastore := data.datastore.getD (some "datastore1")
        folder := data.folder.getD none
        datacenter := data.datacenter.getD none
        portgroup := data.portgroup.getD (some "Internal")
        cluster := data.cluster.getD none
        vcenter := data.vcenter.getD (some false) }
  | _, _, _ => .error missingArguments

/-- `EsxiSettingsSchema.load` -/
def load : Json → Except PyError EsxiSettingsForm
  | .obj payload =>
      let errors := (read payload).errors ++ unknownFields fieldNames payload
      if errors = [] then createEsxi (read payload) else .error (.validationError errors)
  | _ => .error (.validationError [("_schema", ["Invalid input type."])])

end EsxiSettingsSchema

def EsxiSettingsForm.dump (form : EsxiSettingsForm) : EsxiSettingsDoc where
  ipAddress := form.ipAddress.print
  username := form.username
  password := form.password
  datastore := form.datastore
  folder := form.folder
  datacenter := form.datacenter
  portgroup := form.portgroup
  cluster := form.cluster
  vcenter := form.vcenter

def EsxiSettingsDoc.fields (doc : EsxiSettingsDoc) (id : String) : List (String × Json) :=
  [("_id", .str id), ("ip_address", .str doc.ipAddress), ("username", .str doc.username),
    ("password", .str doc.password), ("datastore", Fields.ofOption .str doc.datastore),
    ("folder", Fields.ofOption .str doc.folder),
    ("datacenter", Fields.ofOption .str doc.datacenter),
    ("portgroup", Fields.ofOption .str doc.portgroup),
    ("cluster", Fields.ofOption .str doc.cluster), ("vcenter", Fields.ofOption .bool doc.vcenter)]

/-- A stored document is loaded under its own `_id`. -/
theorem EsxiSettingsSchema.id_of_load {doc : EsxiSettingsDoc} {form : EsxiSettingsForm}
    (h : load (.obj (doc.fields esxiSettingsId)) = .ok form) : form.id = esxiSettingsId := by
  have hfield : (strField "_id" false false).load Fields.isNull (doc.fields esxiSettingsId) =
      .value esxiSettingsId := strField_load rfl
  have hid : (read (doc.fields esxiSettingsId)).id = .value esxiSettingsId := hfield
  rw [load] at h
  split at h
  · unfold createEsxi at h
    split at h
    · cases h
      rw [hid]
      rfl
    · cases h
  · cases h

namespace EsxiSettingsForm

/-- `to_dict`, which names the data center of a host without vCenter. -/
def toDict (form : EsxiSettingsForm) : List (String × Json) :=
  if form.vcenter = some true then form.dump.fields form.id
  else
    { form.dump with
      datacenter := some "ha-datacenter", folder := some "/ha-datacenter/vm" }.fields form.id

def loadFromDb : Prog (Option EsxiSettingsForm) := do
  match ← Prog.findById .esxiSettings esxiSettingsId with
  | none => pure none
  | some doc =>
      let form ← Program.ofExcept (EsxiSettingsSchema.load (.obj (doc.fields esxiSettingsId)))
      let password ← Program.ofExcept (base64ToString form.password)
      pure (some { form with password := password })

/-- `_generate_esxi_inventory` -/
def generateInventory : Prog Unit := do
  match ← loadFromDb with
  | none => Program.raise (.attributeError "'NoneType' object has no attribute 'to_dict'")
  | some form => Prog.orRaise (Prog.ask (.renderInventory "esxi.yml" form.toDict))

def encoded (form : EsxiSettingsForm) : EsxiSettingsForm :=
  { form with password := stringToBase64 form.password }

/-- A stored document is loaded, whatever the password. -/
theorem load_encoded (form : EsxiSettingsForm) :
    EsxiSettingsSchema.load (.obj (form.encoded.dump.fields esxiSettingsId)) =
      .ok { form.encoded with id := esxiSettingsId } := by
  have hread : EsxiSettingsSchema.read (form.encoded.dump.fields esxiSettingsId) =
      { id := .value esxiSettingsId
        ipAddress := .value form.ipAddress
        username := .value form.username
        password := .value (stringToBase64 form.password)
        datastore := .ofOption form.datastore
        folder := .ofOption form.folder
        datacenter := .ofOption form.datacenter
        portgroup := .ofOption form.portgroup
        cluster := .ofOption form.cluster
        vcenter := .ofOption form.vcenter } := by
    rw [EsxiSettingsSchema.read, readPassword, strField_load rfl, ipField_load rfl,
      strField_load rfl, strField_load rfl, strField_loadOption rfl, strField_loadOption rfl,
      strField_loadOption rfl, strField_loadOption rfl, strField_loadOption rfl,
      boolField_loadOption rfl]
    rfl
  have hknown : unknownFields EsxiSettingsSchema.fieldNames
      (form.encoded.dump.fields esxiSettingsId) = [] := by
    rw [unknownFields_eq_nil_iff]
    simp [EsxiSettingsDoc.fields, EsxiSettingsSchema.fieldNames]
  rw [EsxiSettingsSchema.load, hread, hknown]
  simp [EsxiSettingsSchema.Data.errors, EsxiSettingsSchema.createEsxi, encoded, esxiSettingsId]

/-- `save_to_db` -/
def saveToDb (form : EsxiSettingsForm) : Prog (EsxiSettingsForm × Except PyError Unit) := do
  let form := form.encoded
  if form.id ≠ esxiSettingsId then
    pure (form, .error (.other "WriteError"))
  else
    Prog.replaceOne .esxiSettings esxiSettingsId form.dump
    match base64ToString form.password with
    | .error e => pure (form, .error e)
    | .ok password =>
        let outcome ← Program.attempt generateInventory
        pure ({ form with password := password }, outcome)

end EsxiSettingsForm

end Tfplenum
