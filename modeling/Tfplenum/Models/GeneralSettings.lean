/-
  Tfplenum.Models.GeneralSettings

  `models/settings/general_settings.py`: the general settings form with the
  domain of the kit, its schema, and how it is loaded and saved.
-/

import Tfplenum.Models.Fields
import Tfplenum.Persistence

namespace Tfplenum

open Lib Lib.Pattern

/-! ## Schema -/

/-- `[a-z0-9-]` -/
def isDomainChar (c : Char) : Bool := isAsciiLower c || ('0' ≤ c && c ≤ '9') || c = '-'

/-- `^[a-z]([a-z0-9-]){2,39}$` -/
def isDomain (value : List Char) : Bool :=
  anchored (word isAsciiLower isDomainChar 2 39) value

def validateDomain (value : String) : List String :=
  if isDomain value.toList then []
  else ["Domain must be alphanumeric and less than 41 characters. " ++
    "Special characters are not allowed with the exception of dashes (IE -)."]

structure GeneralSettingsForm where
  id : String
  controllerInterface : IPv4Address
  netmask : IPv4Address
  gateway : IPv4Address
  domain : String
  jobId : String
  jobCompleted : Option Bool

def generalSettingsId := "general_settings_form"

namespace GeneralSettingsSchema

def idField : Field Json String := ⟨"_id", false, false, Fields.Str.deserialize, Fields.unchecked⟩
def ipField (name : String) : Field Json IPv4Address :=
  ⟨name, true, false, Fields.IPv4.deserialize, Fields.unchecked⟩
def domainField : Field Json String :=
  ⟨"domain", true, false, Fields.Str.deserialize, validateDomain⟩
def jobIdField : Field Json String :=
  ⟨"job_id", false, false, Fields.Str.deserialize, Fields.unchecked⟩
def jobCompletedField : Field Json Bool :=
  ⟨"job_completed", false, true, Fields.Bool.deserialize, Fields.unchecked⟩

def fieldNames : List String :=
  ["_id", "controller_interface", "netmask", "gateway", "domain", "job_id", "job_completed"]

/-- What loading the fields found. -/
structure Data where
  id : Loaded String
  controllerInterface : Loaded IPv4Address
  netmask : Loaded IPv4Address
  gateway : Loaded IPv4Address
  domain : Loaded String
  jobId : Loaded String
  jobCompleted : Loaded Bool

def read (payload : List (String × Json)) : Data where
  id := idField.load Fields.isNull payload
  controllerInterface := (ipField "controller_interface").load Fields.isNull payload
  netmask := (ipField "netmask").load Fields.isNull payload
  gateway := (ipField "gateway").load Fields.isNull payload
  domain := domainField.load Fields.isNull payload
  jobId := jobIdField.load Fields.isNull payload
  jobCompleted := jobCompletedField.load Fields.isNull payload

def Data.errors (data : Data) : List (String × List String) :=
  data.id.errors "_id" ++ data.controllerInterface.errors "controller_interface" ++
    data.netmask.errors "netmask" ++ data.gateway.errors "gateway" ++
    data.domain.errors "domain" ++ data.jobId.errors "job_id" ++
    data.jobCompleted.errors "job_completed"

/-- `GeneralSettingsForm(**data)` -/
def createKickstart (data : Data) : Except PyError GeneralSettingsForm :=
  match data.controllerInterface, data.netmask, data.gateway, data.domain with
  | .value controllerInterface, .value netmask, .value gateway, .value domain =>
      .ok {
        id := if data.id.valueD "" = "" then generalSettingsId else data.id.valueD ""
        controllerInterface := controllerInterface
        netmask := netmask
        gateway := gateway
        domain := domain
        jobId := data.jobId.valueD ""
        jobCompleted := data.jobCompleted.getD (some false) }
  | _, _, _, _ => .error (.typeError "__init__() missing required positional arguments")

/-- `GeneralSettingsSchema.load`, with `create_kickstart` after it. -/
def load : Json → Except PyError GeneralSettingsForm
  | .obj payload =>
      let errors := (read payload).errors ++ unknownFields fieldNames payload
      if errors = [] then createKickstart (read payload) else .error (.validationError errors)
  | _ => .error (.validationError [("_schema", ["Invalid input type."])])

end GeneralSettingsSchema

/-- `schema.dump(self)`, less the `_id`. -/
def GeneralSettingsForm.dump (form : GeneralSettingsForm) : GeneralSettingsDoc where
  controllerInterface := form.controllerInterface.print
  netmask := form.netmask.print
  gateway := form.gateway.print
  domain := form.domain
  jobId := form.jobId
  jobCompleted := form.jobCompleted

/-- The stored document as the driver hands it out. -/
def GeneralSettingsDoc.fields (doc : GeneralSettingsDoc) (id : String) : List (String × Json) :=
  [("_id", .str id), ("controller_interface", .str doc.controllerInterface),
    ("netmask", .str doc.netmask), ("gateway", .str doc.gateway), ("domain", .str doc.domain),
    ("job_id", .str doc.jobId), ("job_completed", Fields.ofOption .bool doc.jobCompleted)]

/-! ## Loading and saving -/

namespace GeneralSettingsForm

def loadFromDb : Prog (Option GeneralSettingsForm) := do
  match ← Prog.findById .settings generalSettingsId with
  | none => pure none
  | some doc =>
      some <$> Program.ofExcept (GeneralSettingsSchema.load (.obj (doc.fields generalSettingsId)))

def generateInventory : Prog Unit := do
  match ← loadFromDb with
  | none => Program.raise (.attributeError "'NoneType' object has no attribute 'to_dict'")
  | some _ => Prog.orRaise (Prog.ask (.writeInventory "settings.yml"))

/-- `save_to_db`; the server refuses to replace a document by one of another
    `_id`. -/
def saveToDb (form : GeneralSettingsForm) : Prog Unit := do
  Program.when (form.id ≠ generalSettingsId) (Program.raise (.other "WriteError"))
  Prog.replaceOne .settings generalSettingsId form.dump
  generateInventory

end GeneralSettingsForm

/-! ## Round trip -/

/-- What the schema accepts has a domain that its validator accepts. -/
theorem GeneralSettingsSchema.isDomain_of_load {payload : Json} {form : GeneralSettingsForm}
    (h : load payload = .ok form) : isDomain form.domain.toList = true := by
  unfold load at h
  split at h
  · rename_i payload
    dsimp only at h
    split at h
    · unfold createKickstart at h
      split at h
      · rename_i domain _ _ _ hdomain
        cases h
        have hc : validateDomain domain = [] := Field.check_of_load_eq_value hdomain
        unfold validateDomain at hc
        split at hc
        · assumption
        · cases hc
      · cases h
    · cases h
  · cases h

/-- A saved form is loaded again, under the one `_id` it is stored with. -/
theorem GeneralSettingsSchema.load_dump {form : GeneralSettingsForm}
    (hd : isDomain form.domain.toList = true) :
    load (.obj (form.dump.fields generalSettingsId)) =
      .ok { form with id := generalSettingsId } := by
  have hcheck : domainField.check form.domain = [] := if_pos hd
  have hdomain : domainField.load Fields.isNull (form.dump.fields generalSettingsId) =
      .value form.domain :=
    Field.load_eq_value rfl rfl rfl hcheck
  have hip {name : String} {ip : IPv4Address}
      (hname : (form.dump.fields generalSettingsId).lookup name = some (.str ip.print)) :
      (ipField name).load Fields.isNull (form.dump.fields generalSettingsId) = .value ip :=
    Field.load_eq_value hname rfl (Fields.IPv4.deserialize_print ip) rfl
  have hcompleted : jobCompletedField.load Fields.isNull (form.dump.fields generalSettingsId) =
      .ofOption form.jobCompleted := by
    have hlookup : (form.dump.fields generalSettingsId).lookup jobCompletedField.name =
        some (Fields.ofOption .bool form.jobCompleted) := rfl
    exact Fields.load_ofOption hlookup rfl (fun _ => rfl) (fun _ => rfl) (fun _ _ => rfl)
  have hread : read (form.dump.fields generalSettingsId) =
      { id := .value generalSettingsId
        controllerInterface := .value form.controllerInterface
        netmask := .value form.netmask
        gateway := .value form.gateway
        domain := .value form.domain
        jobId := .value form.jobId
        jobCompleted := .ofOption form.jobCompleted } := by
    rw [read, hdomain, hip rfl, hip rfl, hip rfl, hcompleted]
    rfl
  have hknown : unknownFields fieldNames (form.dump.fields generalSettingsId) = [] := by
    rw [unknownFields_eq_nil_iff]
    simp [GeneralSettingsDoc.fields, fieldNames]
  have herrors : (read (form.dump.fields generalSettingsId)).errors = [] := by
    simp [hread, Data.errors]
  rw [load, herrors, hknown, hread]
  simp [createKickstart, generalSettingsId]

end Tfplenum
