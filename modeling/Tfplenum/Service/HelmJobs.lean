/-
  Tfplenum.Service.HelmJobs

  What the jobs of `catalog_service.py` that install and uninstall charts share: the
  list of releases as `get_app_state` shows it, the notification that a job changes
  and posts again and again, and the run of a job.

  A job looks at the list of releases many times while other jobs change it.  The
  looks are numbered, and what each of them finds is a parameter of the run.
-/

import Tfplenum.Json
import Tfplenum.Lib.Unicode
import Tfplenum.Lib.Waiting

namespace Tfplenum

open Lib

/-! ## The list of releases -/

/-- An element of `helm list --all -o json` -/
structure ChartRelease where
  name : String
  appVersion : String
  status : String
deriving DecidableEq, Repr

/-- Saved values: the deployment, and the `node_hostname` in its values -/
structure SavedValues where
  deploymentName : String
  nodeHostname : Option String
deriving DecidableEq, Repr

/-- What a call of `get_app_state` finds. -/
structure CatalogLook where
  /-- hostname and node type of the nodes -/
  nodes : List (String × String)
  savedValues : List SavedValues
  /-- `get_helm_list`, which may answer with `None` -/
  chartReleases : Option (List ChartRelease)
deriving DecidableEq, Repr

/-- An element of the answer of `get_app_state` -/
structure AppState where
  application : String
  appVersion : String
  status : String
  deploymentName : String
  hostname : Option String
  nodeType : Option String
deriving DecidableEq, Repr

/-- `re.match(".*{}$".format(application), name)`, for the letters, digits and dashes that the
    names of charts and releases are made of -/
def matchesApplication (application name : String) : Bool :=
  application.toList.isSuffixOf name.toList

/-- One round of the loop of `get_app_state` -/
def appStateOf (u : Unicode) (application : String) (look : CatalogLook) (chart : ChartRelease) :
    AppState :=
  let saved := look.savedValues.find? fun values => values.deploymentName = chart.name
  let nodeHostname := (saved.bind SavedValues.nodeHostname).filter (· ≠ "")
  { application
    appVersion := chart.appVersion
    -- `replace("-", " ").upper()`
    status := String.ofList
      (u.upperText (chart.status.toList.map fun c => if c = '-' then ' ' else c))
    deploymentName := chart.name
    hostname := nodeHostname
    nodeType := nodeHostname.bind fun hostname =>
      (look.nodes.find? fun node => node.1 = hostname).map Prod.snd }

/-- `get_app_state`; a list of releases that is `None` raises inside the `try`. -/
def appState (u : Unicode) (application : String) (look : CatalogLook) : List AppState :=
  ((look.chartReleases.getD []).filter fun chart => matchesApplication application chart.name).map
    (appStateOf u application look)

/-- `d["status"].lower() == status` -/
def AppState.hasStatus (u : Unicode) (status : String) (d : AppState) : Bool :=
  u.lower d.status.toList = status.toList

/-! ## A job -/

/-- `NotificationMessage`, without its timestamp -/
structure NotificationMessage where
  role : String
  action : String
  application : String
  message : String
  status : String
  exception : String
  data : List AppState
deriving DecidableEq, Repr

/-- What a job does besides looking at the list of releases -/
inductive HelmEvent where
  | kubelet (cmd : String)
  | helm (cmd : String)
  /-- `install_helm_command.delay` -/
  | install (deploymentName : String) (node : Json) (valueItems : List (String × Json))
  /-- The saved values of the deployment are replaced. -/
  | saveValues (deploymentName : String) (valueItems : List (String × Json))
  /-- `delete_helm_command.delay` -/
  | uninstall (deploymentName : String) (node : Option String)
  /-- `_purge_helm_app_on_failure` -/
  | purge (deploymentName : String)
  | notice (notification : NotificationMessage)
  /-- `perform_rulesync.delay` -/
  | rulesync

/-- The arguments of a job, and what it meets while it runs -/
structure HelmEnv where
  unicode : Unicode
  application : String
  /-- what each look at the list of releases finds -/
  look : Nat → CatalogLook
  /-- the text of the exception that the queue raises for a command after so many looks -/
  delay : Nat → Option String

/-- The answer of `get_app_state` to a look -/
def HelmEnv.releases (env : HelmEnv) (i : Nat) : List AppState :=
  appState env.unicode env.application (env.look i)

/-- How far a job has come: the looks made, its variables, and what it has done. -/
structure HelmRun where
  looks : Nat
  notification : NotificationMessage
  deploymentNames : List (Option String)
  events : List HelmEvent

namespace HelmRun

/-- A job at its start -/
def start (env : HelmEnv) (action : String) : HelmRun where
  looks := 0
  notification :=
    { role := "catalog", action
      application := String.ofList (env.unicode.capitalize env.application.toList)
      message := "", status := "", exception := "", data := [] }
  deploymentNames := []
  events := []

def emit (run : HelmRun) (event : HelmEvent) : HelmRun :=
  { run with events := run.events ++ [event] }

def setMessage (run : HelmRun) (message : String) : HelmRun :=
  { run with notification := { run.notification with message } }

/-- `set_exception`; `None` leaves the text of an earlier exception. -/
def setException (run : HelmRun) (exception : String) : HelmRun :=
  { run with notification := { run.notification with exception } }

/-- The status and one more look are put into the notification, and it is posted. -/
def notify (env : HelmEnv) (run : HelmRun) (status : String) : HelmRun :=
  let notification := { run.notification with status, data := env.releases run.looks }
  { run with
    looks := run.looks + 1
    notification
    events := run.events ++ [.notice notification] }

/-- The job looks until the list is as wanted. -/
def await (env : HelmEnv) (p : List AppState → Bool) (run : HelmRun) : Waiting HelmRun := do
  let j ← Waiting.await (fun j => p (env.releases j)) run.looks
  pure { run with looks := j + 1 }

theorem ends_await {env : HelmEnv} {p : List AppState → Bool} {run run' : HelmRun} :
    (run.await env p).Ends run' ↔
      ∃ j, Waiting.First (fun j => p (env.releases j)) run.looks j ∧
        { run with looks := j + 1 } = run' := by
  rw [await, Waiting.ends_bind]
  simp only [Waiting.ends_await, Waiting.ends_pure]

end HelmRun

/-- The notifications posted -/
def notices (events : List HelmEvent) : List NotificationMessage :=
  events.filterMap fun
    | .notice notification => some notification
    | _ => none

@[simp] theorem notices_append (events events' : List HelmEvent) :
    notices (events ++ events') = notices events ++ notices events' :=
  List.filterMap_append

end Tfplenum
