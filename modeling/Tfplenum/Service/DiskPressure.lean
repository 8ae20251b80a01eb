/-
  Tfplenum.Service.DiskPressure

  `post_metrics`: the documents of a request are stored, and those that flag a full disk are
  notified.

  An exception ends the round of its document and nothing else.  The remedy is a variable of
  the function, which a round sets for two types of nodes only: at other nodes it is the
  one of an earlier document, or there is no notification (`postMetrics_tells_iff`).
-/

import Tfplenum.Models.Nodes
import Tfplenum.Service.HelmJobs

namespace Tfplenum

open Lib

namespace DiskPressure

/-! ## The function -/

/-- A posted document, and what is read of its value: the text of `value["percent"]`, if it has
    that; a flag that is missing is `none`. -/
structure MetricDocument where
  hostname : String
  name : String
  type : String
  percent : Option String
  diskPressureWarning : Option Bool
  diskPressureCritical : Option Bool
deriving DecidableEq

/-- What the calls of a request come to; for the same document or text they come to the same. -/
structure MetricsEnv where
  /-- `mongo_metrics().find_one_and_replace` -/
  findOneAndReplace : MetricDocument → Except PyError Unit
  /-- `Node.load_from_db_using_hostname`, where `{}` is `none` -/
  loadNode : String → Except PyError (Option Node)
  /-- `socketio.emit` of the event -/
  emit : String → Except PyError Unit

inductive MetricsEvent where
  | stored (document : MetricDocument)
  /-- `set_and_send`, which does not raise -/
  | notice (notification : NotificationMessage)
  /-- `notify_disk_pressure` -/
  | diskPressure (message : String)
deriving DecidableEq

/-- The variables that live on from one document to the next, and what has been done. -/
structure PostMetrics where
  replaced : List MetricDocument
  rem : Option String
  events : List MetricsEvent

namespace MetricDocument

variable (document : MetricDocument)

/-- `disk_pressure_warning` -/
def warning : Bool := document.diskPressureWarning.getD false

/-- `disk_pressure_critical` -/
def critical : Bool := document.diskPressureCritical.getD false

/-- `disk_pressure_type` -/
def pressureType : String := if document.critical then "critical" else "warning"

/-- `disk_name` -/
def diskName : String := if document.name = "root_usage" then "root" else "data"

/-- The text of a notification -/
def message (percent rem : String) : String :=
  "Disk pressure " ++ document.pressureType ++ " on " ++ document.hostname ++ " for " ++
    document.diskName ++ " disk at " ++ percent ++ "%.  Action: " ++ rem

end MetricDocument

/-- The notification with a text -/
def notification (message : String) : NotificationMessage where
  role := "nodes"
  action := "Error"
  application := "disk-pressure"
  message
  status := "ERROR"
  exception := ""
  data := []

def PostMetrics.emit (s : PostMetrics) (event : MetricsEvent) : PostMetrics :=
  { s with events := s.events ++ [event] }

/-- `rem`, after the node is loaded -/
def remAfter (node : Node) (rem : Option String) : Option String :=
  if node.nodeType = NodeTypes.server then some "Delete data from elastic immediately"
  else if node.nodeType = NodeTypes.sensor then some "Delete data from /data immediately"
  else rem

section

variable (env : MetricsEnv)

/-- The part for a flagged document; where it raises, it leaves what it has done. -/
def notifyPressure (document : MetricDocument) (s : PostMetrics) : PostMetrics :=
  match env.loadNode document.hostname with
  | .error _ => s
  -- a dictionary has no `node_type`
  | .ok none => s
  | .ok (some node) =>
      let s := { s with rem := remAfter node s.rem }
      match document.percent, s.rem with
      | some percent, some rem =>
          let s := s.emit (.notice (notification (document.message percent rem)))
          if document.critical then
            match env.emit (document.message percent rem) with
            | .ok () => s.emit (.diskPressure (document.message percent rem))
            | .error _ => s
          else s
      -- no `percent`, or `rem` is not bound
      | _, _ => s

/-- The body of the loop -/
def postMetric (s : PostMetrics) (document : MetricDocument) : PostMetrics :=
  match env.findOneAndReplace document with
  | .error _ => s
  | .ok () =>
      let s := { s with
        replaced := s.replaced ++ [document]
        events := s.events ++ [.stored document] }
      if document.warning || document.critical then notifyPressure env document s else s

/-- `post_metrics` -/
def postMetrics (payload : List MetricDocument) : PostMetrics :=
  payload.foldl (postMetric env) { replaced := [], rem := none, events := [] }

/-! ## What it is for -/

/-- The remedy for a type of nodes, if there is one -/
def remedy (nodeType : String) : Option String :=
  if nodeType = NodeTypes.server then some "Delete data from elastic immediately"
  else if nodeType = NodeTypes.sensor then some "Delete data from /data immediately"
  else none

/-- What is to be done for a document on its own: it is stored, and if it is flagged there is
    one notification with its host and the remedy for that node. -/
def expected (document : MetricDocument) : Option (List MetricsEvent) :=
  if document.warning || document.critical then do
    let node ← (env.loadNode document.hostname).toOption.join
    let percent ← document.percent
    let rem ← remedy node.nodeType
    let message := document.message percent rem
    return [.stored document, .notice (notification message)] ++
      if document.critical then [.diskPressure message] else []
  else some [.stored document]

/-- For each document what is to be done for it, whatever the others are. -/
def Tells (payload : List MetricDocument) : Prop :=
  (postMetrics env payload).replaced = payload ∧
    ∃ done : List (List MetricsEvent), payload.map (expected env) = done.map some ∧
      (postMetrics env payload).events = done.flatten

/-- The document is stored; if it is flagged, it has a percentage and is from a node that has a
    remedy, a server or a sensor; and its event can be sent, if it is critical. -/
structure Told (document : MetricDocument) : Prop where
  stored : env.findOneAndReplace document = .ok ()
  notified : document.warning || document.critical → ∃ node percent rem,
    env.loadNode document.hostname = .ok (some node) ∧ document.percent = some percent ∧
      remedy node.nodeType = some rem ∧
        (document.critical → env.emit (document.message percent rem) = .ok ())

/-! ## One document -/

variable {env} {document : MetricDocument} {s : PostMetrics}

theorem remAfter_of_remedy {node : Node} {rem : String} (h : remedy node.nodeType = some rem)
    (before : Option String) : remAfter node before = some rem := by
  unfold remedy at h
  unfold remAfter
  split_ifs at h ⊢ <;> exact h

/-- What is to be done for a flagged document is given by its node's remedy. -/
theorem expected_eq_some_iff (h : (document.warning || document.critical) = true)
    {done : List MetricsEvent} :
    expected env document = some done ↔ ∃ node percent rem,
      env.loadNode document.hostname = .ok (some node) ∧ document.percent = some percent ∧
        remedy node.nodeType = some rem ∧
          done = [.stored document, .notice (notification (document.message percent rem))] ++
            if document.critical then [.diskPressure (document.message percent rem)] else [] := by
  have hload (node : Node) : (env.loadNode document.hostname).toOption.join = some node ↔
      env.loadNode document.hostname = .ok (some node) := by
    rcases env.loadNode document.hostname with e | _ | node' <;> simp [Except.toOption]
  rw [expected, if_pos h]
  simp only [Option.bind_eq_bind, Option.bind_eq_some_iff, hload, Option.pure_def,
    Option.some.injEq, exists_and_left, eq_comm (b := done)]

/-- The remedy of the node takes the place of any that is bound. -/
theorem events_notifyPressure {node : Node} {percent rem : String}
    (hnode : env.loadNode document.hostname = .ok (some node))
    (hpercent : document.percent = some percent) (hrem : remedy node.nodeType = some rem)
    (hsent : document.critical = true → env.emit (document.message percent rem) = .ok ())
    (s : PostMetrics) :
    (notifyPressure env document s).replaced = s.replaced ∧
      (notifyPressure env document s).events = s.events ++
        .notice (notification (document.message percent rem)) ::
          if document.critical then [.diskPressure (document.message percent rem)] else [] := by
  simp only [notifyPressure, hnode, hpercent, remAfter_of_remedy hrem s.rem]
  by_cases hcritical : document.critical = true
  · simp [hcritical, hsent hcritical, PostMetrics.emit]
  · simp [hcritical, PostMetrics.emit]

/-- A document that can be told is told, whatever was done before. -/
theorem postMetric_of_told (h : Told env document) :
    ∃ done, expected env document = some done ∧ ∀ s : PostMetrics,
      (postMetric env s document).replaced = s.replaced ++ [document] ∧
        (postMetric env s document).events = s.events ++ done := by
  simp only [postMetric, h.stored]
  by_cases hflagged : (document.warning || document.critical) = true
  · obtain ⟨node, percent, rem, hnode, hpercent, hrem, hsent⟩ := h.notified hflagged
    refine ⟨_, (expected_eq_some_iff hflagged).mpr ⟨node, percent, rem, hnode, hpercent, hrem, rfl⟩,
      fun s => ?_⟩
    rw [if_pos hflagged]
    obtain ⟨hreplaced, hevents⟩ := events_notifyPressure hnode hpercent hrem hsent
      { s with replaced := s.replaced ++ [document], events := s.events ++ [.stored document] }
    exact ⟨hreplaced, by simp [hevents]⟩
  · refine ⟨[.stored document], if_neg hflagged, fun s => ?_⟩
    rw [if_neg hflagged]
    exact ⟨rfl, rfl⟩

/-- What has been done could be done: what is stored did not raise, nor did what is sent. -/
def Possible (env : MetricsEnv) : MetricsEvent → Prop
  | .stored document => env.findOneAndReplace document = .ok ()
  | .notice _ => True
  | .diskPressure message => env.emit message = .ok ()

theorem possible_append (last : MetricsEvent) {events : List MetricsEvent}
    (h : ∀ event ∈ events, Possible env event) (hlast : Possible env last) :
    ∀ event ∈ events ++ [last], Possible env event := by
  intro event hmem
  rcases List.mem_append.mp hmem with hmem | hmem
  · exact h event hmem
  · rw [List.mem_singleton.mp hmem]
    exact hlast

theorem possible_notifyPressure (h : ∀ event ∈ s.events, Possible env event) :
    ∀ event ∈ (notifyPressure env document s).events, Possible env event := by
  unfold notifyPressure
  split
  · exact h
  · exact h
  · dsimp only
    split
    · split_ifs
      · split
        case h_1 hsent =>
          exact possible_append (.diskPressure _) (possible_append (.notice _) h trivial) hsent
        case h_2 => exact possible_append (.notice _) h trivial
      · exact possible_append (.notice _) h trivial
    · exact h

theorem possible_postMetric (h : ∀ event ∈ s.events, Possible env event) :
    ∀ event ∈ (postMetric env s document).events, Possible env event := by
  unfold postMetric
  split
  · exact h
  case h_2 hstored =>
    dsimp only
    split_ifs
    · exact possible_notifyPressure (possible_append (.stored _) h hstored)
    · exact possible_append (.stored _) h hstored

/-! ## A request -/

variable {payload : List MetricDocument}

theorem possible_foldl (h : ∀ event ∈ s.events, Possible env event) :
    ∀ event ∈ (payload.foldl (postMetric env) s).events, Possible env event := by
  induction payload generalizing s with
  | nil => exact h
  | cons document payload ih => exact ih (possible_postMetric h)

/-- Documents that can be told are told, one after the other. -/
theorem foldl_postMetric_of_told (h : ∀ document ∈ payload, Told env document) :
    ∃ done : List (List MetricsEvent), payload.map (expected env) = done.map some ∧
      ∀ s : PostMetrics,
        (payload.foldl (postMetric env) s).replaced = s.replaced ++ payload ∧
          (payload.foldl (postMetric env) s).events = s.events ++ done.flatten := by
  induction payload with
  | nil => exact ⟨[], rfl, fun s => by simp⟩
  | cons document payload ih =>
      rw [List.forall_mem_cons] at h
      obtain ⟨first, hfirst, hround⟩ := postMetric_of_told h.1
      obtain ⟨done, hdone, hrounds⟩ := ih h.2
      refine ⟨first :: done, by simp [hfirst, hdone], fun s => ?_⟩
      obtain ⟨hreplaced, hevents⟩ := hrounds (postMetric env s document)
      rw [List.foldl_cons, hreplaced, hevents, (hround s).1, (hround s).2]
      simp

theorem told_of_tells (h : Tells env payload) (hmem : document ∈ payload) : Told env document := by
  obtain ⟨-, done, hexpected, hevents⟩ := h
  have hpossible : ∀ event ∈ done.flatten, Possible env event := by
    rw [← hevents]
    exact possible_foldl (by simp)
  obtain ⟨first, hfirst, hsome⟩ : ∃ first ∈ done, some first = expected env document := by
    rw [← List.mem_map, ← hexpected]
    exact List.mem_map_of_mem hmem
  have hdone : ∀ event ∈ first, Possible env event :=
    fun event hevent => hpossible event (List.mem_flatten_of_mem hfirst hevent)
  by_cases hflagged : (document.warning || document.critical) = true
  · obtain ⟨node, percent, rem, hnode, hpercent, hrem, rfl⟩ :=
      (expected_eq_some_iff hflagged).mp hsome.symm
    have hsent (hcritical : document.critical = true) :
        env.emit (document.message percent rem) = .ok () :=
      hdone (.diskPressure (document.message percent rem)) (by simp [hcritical])
    exact ⟨hdone (.stored document) (by simp),
      fun _ => ⟨node, percent, rem, hnode, hpercent, hrem, hsent⟩⟩
  · rw [expected, if_neg hflagged, Option.some.injEq] at hsome
    subst hsome
    exact ⟨hdone (.stored document) (by simp), fun h => absurd h hflagged⟩

/-- For every request, each document is handled for itself exactly if all can be stored and the
    flagged ones have a percentage and are from servers and sensors. -/
theorem postMetrics_tells_iff (env : MetricsEnv) (payload : List MetricDocument) :
    Tells env payload ↔ ∀ document ∈ payload, Told env document := by
  constructor
  · exact fun h document hmem => told_of_tells h hmem
  · intro h
    obtain ⟨done, hexpected, hrounds⟩ := foldl_postMetric_of_told h
    obtain ⟨hreplaced, hevents⟩ := hrounds { replaced := [], rem := none, events := [] }
    exact ⟨hreplaced, done, hexpected, hevents⟩

end

/-- A full disk -/
def fullDisk (hostname : String) : MetricDocument where
  hostname
  name := "data_usage"
  type := "psutil"
  percent := some "85.0"
  diskPressureWarning := some true
  diskPressureCritical := none

/-- A node with a type -/
def nodeOfType (hostname nodeType : String) : Node where
  id := hostname
  hostname
  ipAddress := ⟨10, 40, 12, 2⟩
  macAddress := none
  raid0Override := none
  nodeType
  deviceFacts := []
  deploymentType := none
  vpnStatus := .null
  virtualCpu := none
  virtualMem := none
  virtualOs := none
  virtualData := none

/-- A kit with a server and a control plane -/
def serverAndControlPlane : MetricsEnv where
  findOneAndReplace _ := .ok ()
  loadNode hostname :=
    if hostname = "server1" then .ok (some (nodeOfType hostname NodeTypes.server))
    else .ok (some (nodeOfType hostname NodeTypes.controlPlane))
  emit _ := .ok ()

/-- The control plane's disk alone is not told of, and after the server's it has the server's
    remedy. -/
theorem not_tells_controlPlane :
    (postMetrics serverAndControlPlane [fullDisk "control-plane"]).events =
        [.stored (fullDisk "control-plane")] ∧
      .notice (notification ("Disk pressure warning on control-plane for data disk at 85.0%." ++
          "  Action: Delete data from elastic immediately")) ∈
        (postMetrics serverAndControlPlane
          [fullDisk "server1", fullDisk "control-plane"]).events ∧
      ¬ ∀ env payload, Tells env payload := by
  refine ⟨by decide, by decide, fun h => ?_⟩
  have htold := told_of_tells (h serverAndControlPlane [fullDisk "control-plane"])
    List.mem_cons_self
  obtain ⟨node, percent, rem, hnode, -, hrem, -⟩ := htold.notified (by decide)
  rw [← Option.some.inj (Except.ok.inj hnode)] at hrem
  have hnone : remedy NodeTypes.controlPlane = none := rfl
  exact absurd (hnone.symm.trans hrem) nofun

end DiskPressure

end Tfplenum
