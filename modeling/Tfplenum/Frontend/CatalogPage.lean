/-
  Tfplenum.Frontend.CatalogPage

  The page of `catalog-page.component.ts`, once its chart, the statuses and the nodes
  are loaded: a stepper over the process form, the configuration of the nodes and their
  values, which are generated by the backend or merged from saved ones, edited as text
  and submitted as objects.

  The controls of the values form are keyed by deployment name and never removed.
  `make_values_array_` parses those of the selected nodes in place (`parseValues`) and
  hands over all of them; a value is read through its `toString`, which for an object
  is not its text any more.
-/

import Tfplenum.Lib.Steps
import Tfplenum.Lib.Table

namespace Tfplenum

open Lib

/-! ## Values -/

/-- What `JSON.parse` hands out; a number is given by its text. -/
inductive JsValue where
  | null
  | bool (b : Bool)
  | number (text : String)
  | string (s : String)
  | array (items : List JsValue)
  | object (fields : List (String × JsValue))

namespace JsValue

mutual

/-- `String(value)` -/
def text : JsValue → String
  | .null => "null"
  | .bool b => if b then "true" else "false"
  | .number text => text
  | .string s => s
  | .array items => ",".intercalate (itemTexts items)
  | .object _ => "[object Object]"

/-- The texts that are joined for an array -/
def itemTexts : List JsValue → List String
  | [] => []
  | .null :: items => "" :: itemTexts items
  | item :: items => item.text :: itemTexts items

end

/-- `value.toString()`, `none` where it raises `TypeError` -/
def toString? : JsValue → Option String
  | .null => none
  | value => some value.text

/-- `value[name]` for a name that only an object can have, `none` for `undefined` -/
def field : JsValue → String → Option JsValue
  | .object fields, name => fields.lookup name
  | _, _ => none

/-- What a value is as the name of a property -/
def propertyKey : Option JsValue → String
  | some value => value.text
  | none => "undefined"

/-- `notUndefNull` -/
def notUndefNull : JsValue → Bool
  | .null => false
  | _ => true

def isString : JsValue → Bool
  | .string _ => true
  | _ => false

end JsValue

/-- The own properties of an object, in their order, no name twice -/
abbrev JsFields := List (String × JsValue)

/-- `object[name] = value` -/
def JsFields.set (fields : JsFields) (name : String) (value : JsValue) : JsFields :=
  if (fields.lookup name).isSome then
    fields.map fun item => (item.1, if item.1 = name then value else item.2)
  else fields ++ [(name, value)]

/-- `Object.assign({}, base, added)` -/
def JsFields.assign (base added : JsFields) : JsFields :=
  added.foldl (fun fields item => fields.set item.1 item.2) base

/-- `JSON.parse` and `JSON.stringify` with a number of spaces -/
structure JsonText where
  /-- `none` where it raises `SyntaxError` -/
  parse : String → Option JsValue
  stringify : Nat → JsValue → String

/-- `JSON.parse(value.toString())` -/
def JsonText.reads (json : JsonText) (value : JsValue) : Option JsValue :=
  value.toString?.bind json.parse

/-! ## The chart and the nodes -/

inductive FormControlType where
  | textinput
  | textbox
  | textinputlist
  | invisible
  | checkbox
  | interface
  | suricataList
  | zeekList
  | serviceNodeCheckbox
  | other
deriving DecidableEq, Repr

structure FormControlClass where
  name : String
  type : FormControlType
  /-- `null` if there is none -/
  defaultValue : JsValue

inductive CatalogProcess where
  | install
  | reinstall
  | uninstall
deriving DecidableEq, Repr

structure StatusClass where
  hostname : Option String
  deploymentName : String
deriving DecidableEq, Repr

structure NodeClass where
  hostname : String
  nodeType : String
  /-- as the name of a control -/
  deploymentName : String
deriving DecidableEq, Repr

def serverAnyValue : String := "Server - Any"

/-- What the page is about: `chart_info`, `statuses_`, the children of the processes by their
    ids, and whether there is a service node -/
structure CatalogChart where
  id : String
  nodeAffinity : String
  formControls : List FormControlClass
  statuses : List StatusClass
  children : CatalogProcess → List String
  serviceNodeAvailable : Bool

def CatalogChart.serverAny (chart : CatalogChart) : Bool := chart.nodeAffinity = serverAnyValue

/-- No process has a node, and so none can be chosen. -/
def CatalogChart.processDisabled (chart : CatalogChart) : Bool :=
  [CatalogProcess.install, .reinstall, .uninstall].all (chart.children · = [])

/-! ## The controls of the configuration -/

/-- `get_deployment_name_` -/
def CatalogChart.getDeploymentName (chart : CatalogChart) (hostname : String)
    (value : Option JsFields) : JsValue :=
  let newHostname := String.ofList (hostname.toList.takeWhile (· ≠ '.'))
  let deploymentName := if chart.serverAny then chart.id else newHostname ++ "-" ++ chart.id
  -- a saved name that is the same makes no difference
  ((value.bind (·.lookup "deployment_name")).filter JsValue.notUndefNull).getD
    (.string deploymentName)

/-- `get_form_control_`, the value of the control -/
def CatalogChart.getFormControl (chart : CatalogChart) (json : JsonText)
    (formControl : FormControlClass) (hostname : String) (value : Option JsFields) : JsValue :=
  let saved := (value.bind (·.lookup formControl.name)).filter JsValue.notUndefNull
  match formControl.type with
  | .textinput | .textbox | .checkbox | .suricataList | .zeekList =>
      saved.getD formControl.defaultValue
  | .textinputlist =>
      match saved with
      | some (.string s) => .string s
      | some value => .string (json.stringify 0 value)
      | none => formControl.defaultValue
  | .invisible => saved.getD (.string hostname)
  | .interface => saved.getD (.array [])
  | .serviceNodeCheckbox => saved.getD (.bool chart.serviceNodeAvailable)
  | .other => .array []

/-- `addControl`, which keeps a control that is there -/
def addControl (controls : JsFields) (name : String) (value : JsValue) : JsFields :=
  if (controls.lookup name).isSome then controls else controls ++ [(name, value)]

/-- `initialize_config_form_control` -/
def CatalogChart.initializeConfigFormControl (chart : CatalogChart) (json : JsonText)
    (hostname : String) (value : Option JsFields) : JsFields :=
  let controls := chart.formControls.foldl
    (fun controls formControl => addControl controls formControl.name
      (chart.getFormControl json formControl hostname value)) []
  addControl controls "deployment_name" (chart.getDeploymentName hostname value)

/-- `fields['node_hostname']`, if it is a text -/
def JsFields.nodeHostname (fields : JsFields) : Option String :=
  match fields.lookup "node_hostname" with
  | some (.string hostname) => some hostname
  | _ => none

/-- A network of a configuration, which is entered as text, is parsed. -/
def parseNet (json : JsonText) (fields : JsFields) (name : String) : Option JsFields :=
  match (fields.lookup name).filter JsValue.notUndefNull with
  | some value =>
      if value.isString && value.text = "" then some fields
      else (json.reads value).map (fields.set name)
  | none => some fields

/-! ## The component -/

/-- The fields of `CatalogPageComponent`, and how many values files are being generated -/
structure CatalogPageComponent where
  /-- the nodes by their ids -/
  nodes : Table String NodeClass
  /-- `selectedProcess` of `process_form_group` -/
  selectedProcess : Option CatalogProcess
  /-- `selectedNodes` of it -/
  selectedNodes : List String
  /-- the controls of each host -/
  configFormGroup : Option (Table String JsFields)
  /-- the controls by deployment name -/
  valueFormGroup : Table String JsValue
  /-- the `values` of `saved_values_` -/
  savedValues : Option (List JsFields)
  /-- `config_array_`, objects with one key each -/
  configArray : List (String × JsFields)
  generating : Nat

namespace CatalogPageComponent

/-- `initialize_process_form_group_` -/
def initializeProcessFormGroup (page : CatalogPageComponent) : CatalogPageComponent :=
  { page with selectedProcess := none, selectedNodes := [] }

/-- `server_any_value_check_` -/
def serverAnyValueCheck (chart : CatalogChart) (page : CatalogPageComponent) :
    CatalogPageComponent :=
  if chart.serverAny then
    let controlPlane := (page.nodes.rows.filter (·.2.nodeType = "Control-Plane")).map Prod.fst
    { page with
      nodes := controlPlane.foldl
        (fun nodes id => nodes.modify id ({ · with hostname := "server" })) page.nodes
      selectedNodes := if controlPlane.isEmpty then page.selectedNodes else controlPlane }
  else page

/-- `set_deployment_name_` -/
def setDeploymentName (chart : CatalogChart) (page : CatalogPageComponent) :
    CatalogPageComponent :=
  let named (node : NodeClass) (status : StatusClass) : NodeClass :=
    if status.hostname = some node.hostname ∨ status.hostname = none then
      { node with deploymentName := status.deploymentName }
    else node
  { page with
    nodes := page.selectedNodes.foldl
      (fun nodes id => nodes.modify id fun node => chart.statuses.foldl named node) page.nodes }

/-- `is_config_ready` -/
def isConfigReady (chart : CatalogChart) (page : CatalogPageComponent) : Bool :=
  (page.selectedProcess = some .install ∨ page.selectedProcess = some .reinstall) ∧
    (page.selectedNodes ≠ [] ∨ chart.serverAny)

/-- The configuration of a node is added. -/
def addConfig (json : JsonText) (chart : CatalogChart) (page : CatalogPageComponent)
    (id : String) : CatalogPageComponent :=
  let page := page.setDeploymentName chart
  match page.nodes.get? id with
  | some node =>
      let controls := (page.savedValues.getD []).foldl
        (fun controls savedValue =>
          if JsFields.nodeHostname savedValue = some node.hostname then
            chart.initializeConfigFormControl json node.hostname (some savedValue)
          else controls)
        (chart.initializeConfigFormControl json node.hostname none)
      { page with
        configFormGroup := page.configFormGroup.map fun config =>
          (config.insert? node.hostname controls).getD config }
  | none => page

/-- `initialize_config_form_group_` -/
def initializeConfigFormGroup (json : JsonText) (chart : CatalogChart)
    (page : CatalogPageComponent) : CatalogPageComponent :=
  page.selectedNodes.foldl (addConfig json chart) { page with configFormGroup := some .empty }

/-- `set_value_form_group_` -/
def setValueFormGroup (json : JsonText) (hostnameObject : JsValue) (id : String)
    (page : CatalogPageComponent) : CatalogPageComponent :=
  let deploymentName := JsValue.propertyKey (hostnameObject.field "deployment_name")
  { page with
    valueFormGroup :=
      page.valueFormGroup.upsert deploymentName (.string (json.stringify 2 hostnameObject))
    nodes := page.nodes.modify id ({ · with deploymentName := deploymentName }) }

/-- The body of the loops of `compare_values_` -/
def compareValue (json : JsonText) (chart : CatalogChart) (id : String) (savedValue : JsFields)
    (page : CatalogPageComponent) (config : String × JsFields) : CatalogPageComponent :=
  match page.nodes.get? id with
  | some node =>
      let configObject := if config.1 = node.hostname then config.2 else []
      if chart.serverAny ∨ (JsFields.nodeHostname configObject = some node.hostname ∧
          JsFields.nodeHostname savedValue = some node.hostname) then
        page.setValueFormGroup json (.object (savedValue.assign configObject)) id
      else page
  | none => page

/-- `compare_values_` -/
def compareValues (json : JsonText) (chart : CatalogChart) (page : CatalogPageComponent) :
    CatalogPageComponent :=
  page.selectedNodes.foldl (fun page id =>
    (page.savedValues.getD []).foldl (fun page savedValue =>
      page.configArray.foldl (compareValue json chart id savedValue) page) page) page

/-- `api_generate_values_file_` -/
def generateValuesFile (page : CatalogPageComponent) : CatalogPageComponent :=
  { page with generating := page.generating + 1 }

/-- What `get_values_file_` does for a saved value and a node -/
def valuesOf (json : JsonText) (chart : CatalogChart) (savedValue : JsFields)
    (page : CatalogPageComponent) (id : String) : CatalogPageComponent :=
  if chart.serverAny ∨ (JsFields.nodeHostname savedValue).isSome ∧
      JsFields.nodeHostname savedValue = (page.nodes.get? id).map NodeClass.hostname then
    page.compareValues json chart
  else page.generateValuesFile

/-- `get_values_file_`; where there is no configuration, or a network of it does not parse, it
    raises an error before anything changes. -/
def getValuesFile (json : JsonText) (chart : CatalogChart) (page : CatalogPageComponent) :
    CatalogPageComponent :=
  let networks (row : String × JsFields) : Option (String × JsFields) := do
    let fields ← parseNet json row.2 "home_net"
    let fields ← parseNet json fields "external_net"
    some (row.1, fields)
  match page.configFormGroup.bind (·.rows.mapM networks) with
  | some configArray =>
      let page := { page with configArray := configArray }
      match page.savedValues with
      | some savedValues =>
          savedValues.foldl (fun page savedValue =>
            page.selectedNodes.foldl (valuesOf json chart savedValue) page) page
      | none => page.generateValuesFile
  | none => page

/-- `selection_change_stepper` -/
def selectionChangeStepper (json : JsonText) (chart : CatalogChart) (selectedIndex : Nat)
    (page : CatalogPageComponent) : CatalogPageComponent :=
  if selectedIndex = 1 then
    let page := page.serverAnyValueCheck chart
    if page.isConfigReady chart then page.initializeConfigFormGroup json chart else page
  else if selectedIndex = 2 then page.getValuesFile json chart
  else page.initializeProcessFormGroup

/-- The response of `generate_values_file` is about the nodes that are selected by now. -/
def valuesGenerated (json : JsonText) (response : List JsFields) (page : CatalogPageComponent) :
    CatalogPageComponent :=
  page.selectedNodes.foldl (fun page id =>
    response.foldl (fun page object =>
      let hostnameObject := (page.nodes.get? id).bind fun node => object.lookup node.hostname
      match hostnameObject.filter JsValue.notUndefNull with
      | some hostnameObject => page.setValueFormGroup json hostnameObject id
      | none => page) page) page

/-- The deployment names of the selected nodes -/
def names (page : CatalogPageComponent) : List String :=
  (page.selectedNodes.filterMap page.nodes.get?).map NodeClass.deploymentName

end CatalogPageComponent

/-! ## The submission -/

/-- The loop of `make_values_array_` over the selected nodes, and whether it goes through: it
    raises an error for a name without a control and for a value that does not parse, with
    the values before it parsed. -/
def parseValues (json : JsonText) :
    List String → Table String JsValue → Table String JsValue × Bool
  | [], form => (form, true)
  | name :: names, form =>
      match (form.get? name).bind json.reads with
      | some value => parseValues json names (form.modify name fun _ => value)
      | none => (form, false)

/-- `make_values_array_`, the values form that it leaves and the array with an entry for each of
    its keys, unless an error is raised -/
def makeValuesArray (json : JsonText) (names : List String) (form : Table String JsValue) :
    Table String JsValue × Option (List (String × JsValue)) :=
  let (form, parsed) := parseValues json names form
  (form, if parsed then some form.rows else none)

/-- A request to install or reinstall, with the deployment names of the nodes that were
    selected, what the values form showed, and what it was left with -/
structure HelmSubmission (json : JsonText) where
  process : CatalogProcess
  names : List String
  shown : Table String JsValue
  left : Table String JsValue
  values : List (String × JsValue)
  sent : makeValuesArray json names shown = (left, some values)

/-- The page in its stepper, the requests under way (`none` for one to uninstall), and what has
    been submitted by then and has failed -/
structure CatalogPage (json : JsonText) where
  component : CatalogPageComponent
  /-- `api_get_saved_values_` is under way. -/
  savedValuesRequest : Bool
  /-- `selectedIndex` of the stepper -/
  selectedIndex : Nat
  requests : List (Option (HelmSubmission json))
  submitted : List (HelmSubmission json)
  failed : List (HelmSubmission json)
  /-- The catalog has been navigated to. -/
  navigated : Bool

namespace CatalogPage

variable {json : JsonText}

/-- The page with its nodes loaded -/
def init (json : JsonText) (nodes : Table String NodeClass) : CatalogPage json where
  component :=
    { nodes := nodes
      selectedProcess := none
      selectedNodes := []
      configFormGroup := none
      valueFormGroup := .empty
      savedValues := none
      configArray := []
      generating := 0 }
  savedValuesRequest := true
  selectedIndex := 0
  requests := []
  submitted := []
  failed := []
  navigated := false

/-- The last step: there is a step for the configuration if it has controls. -/
def lastIndex (page : CatalogPage json) : Nat :=
  match page.component.configFormGroup with
  | some config => if config.rows.isEmpty then 1 else 2
  | none => 1

/-- `process_form_group` is valid, for which a control that is disabled does not count. -/
def processValid (chart : CatalogChart) (page : CatalogPage json) : Bool :=
  chart.processDisabled ∨
    (page.component.selectedProcess.isSome ∧
      (chart.serverAny ∨ page.component.selectedNodes ≠ []))

/-- An install or a reinstall of `run_chart_action` -/
def submit (process : CatalogProcess) (page : CatalogPage json) : CatalogPage json :=
  let names := page.component.names
  let shown := page.component.valueFormGroup
  match hsent : makeValuesArray json names shown with
  | (left, some values) =>
      let submission := ⟨process, names, shown, left, values, hsent⟩
      { page with
        component := { page.component with valueFormGroup := left }
        requests := page.requests ++ [some submission]
        submitted := page.submitted ++ [submission] }
  | (left, none) => { page with component := { page.component with valueFormGroup := left } }

/-- `run_chart_action` -/
def runChartAction (chart : CatalogChart) (page : CatalogPage json) : CatalogPage json :=
  match page.component.selectedProcess with
  | some .install => page.submit .install
  | some .reinstall => page.submit .reinstall
  | some .uninstall =>
      { page with
        component := (page.component.serverAnyValueCheck chart).setDeploymentName chart
        requests := page.requests ++ [none] }
  | none => { page with navigated := true }

end CatalogPage

/-! ## What may happen -/

inductive CatalogPageEvent where
  | chooseProcess (process : CatalogProcess)
  /-- the nodes that are selected of those of the process -/
  | chooseNodes (ids : List String)
  /-- a header or a button of the stepper -/
  | select (index : Nat)
  /-- the value of a control of the configuration, by the user or for a dependency of the chart
      that is not deployed -/
  | configure (hostname name : String) (value : JsValue)
  /-- the text editor of a node is saved. -/
  | editText (id text : String)
  | run
  | cancel
  | savedValuesLoaded (savedValues : List JsFields)
  | savedValuesFailed
  /-- the values files of some nodes, as objects with the host name as their key -/
  | valuesGenerated (response : List JsFields)
  | generateFailed
  /-- the response to one of the requests, which may come in any order -/
  | responded (k : Nat) (success : Bool)

namespace CatalogPage

variable {json : JsonText}

/-- The event, if the page lets it happen.  Whether the configuration is valid is left open. -/
def step (chart : CatalogChart) (page : CatalogPage json) :
    CatalogPageEvent → Option (CatalogPage json)
  | .chooseProcess process =>
      if !page.navigated ∧ page.selectedIndex = 0 ∧ chart.children process ≠ [] then
        some { page with component := { page.component with selectedProcess := some process } }
      else none
  | .chooseNodes ids =>
      if !page.navigated ∧ page.selectedIndex = 0 ∧ !chart.serverAny ∧
          page.component.selectedProcess.any (ids.isSublist <| chart.children ·) then
        some { page with component := { page.component with selectedNodes := ids } }
      else none
  | .select index =>
      -- the stepper is linear, and announces a change before it makes it
      if !page.navigated ∧ index ≠ page.selectedIndex ∧ index ≤ page.lastIndex ∧
          (index = 0 ∨ page.processValid chart) then
        some { page with
          component := page.component.selectionChangeStepper json chart index
          selectedIndex := index }
      else none
  | .configure hostname name value =>
      if page.navigated then none
      else
        some { page with
          component := { page.component with
            configFormGroup := page.component.configFormGroup.map fun config =>
              config.modify hostname fun controls =>
                if (controls.lookup name).isSome then controls.set name value else controls } }
  | .editText id text =>
      if !page.navigated ∧ page.selectedIndex = page.lastIndex ∧
          id ∈ page.component.selectedNodes then
        -- without a control for the node the editor does not open
        some { page with
          component := { page.component with
            valueFormGroup := match page.component.nodes.get? id with
              | some node => page.component.valueFormGroup.modify node.deploymentName fun _ =>
                  .string text
              | none => page.component.valueFormGroup } }
      else none
  | .run =>
      -- the first step has the button for an uninstall, the last one for every process
      if !page.navigated ∧ (page.selectedIndex = page.lastIndex ∨
          page.selectedIndex = 0 ∧ page.processValid chart ∧
            page.component.selectedProcess = some .uninstall) then
        some (page.runChartAction chart)
      else none
  | .cancel => if page.navigated then none else some { page with navigated := true }
  | .savedValuesLoaded savedValues =>
      if !page.navigated ∧ page.savedValuesRequest then
        some { page with
          savedValuesRequest := false
          component := { page.component with
            savedValues := if savedValues.isEmpty then none else some savedValues } }
      else none
  | .savedValuesFailed =>
      if !page.navigated ∧ page.savedValuesRequest then
        some { page with savedValuesRequest := false }
      else none
  | .valuesGenerated response =>
      if !page.navigated ∧ 0 < page.component.generating then
        let component := { page.component with generating := page.component.generating - 1 }
        some { page with component := component.valuesGenerated json response }
      else none
  | .generateFailed =>
      if !page.navigated ∧ 0 < page.component.generating then
        some { page with
          component := { page.component with generating := page.component.generating - 1 } }
      else none
  | .responded k success =>
      if page.navigated then none
      else
        match page.requests[k]? with
        | some request =>
            let page := { page with requests := page.requests.eraseIdx k }
            if success then some { page with navigated := true }
            else some { page with failed := page.failed ++ request.toList }
        | none => none

end CatalogPage

end Tfplenum
