/-
  Tfplenum.Service.KitStatus

  The flags of `get_kit_status` against what the nodes and jobs say.  All counters
  of its loops add up, so they do not depend on the order of nodes and jobs; the
  flag of the base kit is set by each job that runs it, so it is the last one that
  decides.
-/

import Tfplenum.Service.NodeService
import Mathlib.Data.List.Perm.Basic

namespace Tfplenum

/-! ## The status as a function of nodes and jobs -/

/-- What `get_kit_status` returns, of what it has loaded: whether the settings forms are
    completed, the nodes, and the jobs. -/
def kitStatus (general kit esxi : Bool) (nodes : List Node) (jobs : List NodeJob) : KitStatus :=
  let c := KitCounters.ofNodes nodes jobs
  let configured := c.controlPlaneDeployed && general && kit && esxi
  { controlPlaneDeployed := c.controlPlaneDeployed
    generalSettingsConfigured := general
    kitSettingsConfigured := kit
    esxiSettingsConfigured := esxi
    readyToDeploy := configured && 2 ≤ c.serversProvisioned && c.jobsInprogress = 0 &&
      c.jobsPending = 0
    baseKitDeployed := configured && 2 ≤ c.serversDeployed
    jobsRunning := 0 < c.jobsInprogress
    deployKitRunning := c.deployKitRunning }

theorem getKitStatus_eq : getKitStatus = do
    let settings ← GeneralSettingsForm.loadFromDb
    let kitSettings ← Prog.orRaise (Prog.ask .loadKitSettings)
    let esxiSettings ← Prog.orRaise (Prog.ask .loadEsxiSettings)
    let nodes ← Node.loadDipNodesFromDb
    let jobs ← NodeJob.loadAllJobs
    return kitStatus (settings.any fun form => form.jobCompleted = some true)
      (kitSettings.any fun form => form.jobCompleted) esxiSettings nodes jobs := rfl

/-! ## Jobs of listed nodes -/

/-- One of the four state flags is set. -/
def JobDoc.OneFlag (doc : JobDoc) : Prop :=
  [doc.pending, doc.complete, doc.inprogress, doc.error].count true = 1

instance (doc : JobDoc) : Decidable doc.OneFlag := inferInstanceAs
  (Decidable ([doc.pending, doc.complete, doc.inprogress, doc.error].count true = 1))

def JobDoc.runsBaseKit (doc : JobDoc) : Bool := doc.execType = some "DEPLOYMENT_JOBS.base_kit"

/-- The job is neither complete nor in error. -/
def JobDoc.unfinished (doc : JobDoc) : Bool := !(doc.complete || doc.error)

/-- A deploy or provision job that is in progress. -/
def JobDoc.isRunning (doc : JobDoc) : Bool :=
  (doc.name = jobDeploy || doc.name = jobProvision) && doc.inprogress

/-- The jobs of the nodes, as the two loops go through them. -/
def nodeJobs (nodes : List Node) (jobs : List NodeJob) : List (Node × JobDoc) :=
  nodes.flatMap fun node =>
    (jobs.filter fun job => job.doc.nodeId = node.id).map fun job => (node, job.doc)

theorem mem_nodeJobs {nodes : List Node} {jobs : List NodeJob} {v : Node × JobDoc} :
    v ∈ nodeJobs nodes jobs ↔
      v.1 ∈ nodes ∧ ∃ job ∈ jobs, job.doc.nodeId = v.1.id ∧ job.doc = v.2 := by
  obtain ⟨node, doc⟩ := v
  simp only [nodeJobs, List.mem_flatMap, List.mem_map, List.mem_filter, decide_eq_true_eq,
    Prod.mk.injEq]
  constructor
  · rintro ⟨node', hnode, job, ⟨hjob, hid⟩, rfl, hdoc⟩
    exact ⟨hnode, job, hjob, hid, hdoc⟩
  · rintro ⟨hnode, job, hjob, hid, hdoc⟩
    exact ⟨node, hnode, job, ⟨hjob, hid⟩, rfl, hdoc⟩

theorem nodeJobs_perm {nodes nodes' : List Node} {jobs jobs' : List NodeJob}
    (hnodes : nodes.Perm nodes') (hjobs : jobs.Perm jobs') :
    (nodeJobs nodes jobs).Perm (nodeJobs nodes' jobs') :=
  hnodes.flatMap fun _ _ => (hjobs.filter _).map _

/-- The base-kit jobs of the nodes are all finished, or none of them is. -/
def BaseKitAgrees (nodes : List Node) (jobs : List NodeJob) : Prop :=
  ∀ v ∈ nodeJobs nodes jobs, ∀ v' ∈ nodeJobs nodes jobs,
    v.2.runsBaseKit = true → v'.2.runsBaseKit = true → v.2.unfinished = v'.2.unfinished

/-- The status does not depend on the order of nodes and jobs, and two of its flags are
    what they are named after. -/
structure StatusExact (general kit esxi : Bool) (nodes : List Node) (jobs : List NodeJob) :
    Prop where
  perm : ∀ nodes' jobs', nodes.Perm nodes' → jobs.Perm jobs' →
    kitStatus general kit esxi nodes' jobs' = kitStatus general kit esxi nodes jobs
  deployKitRunning : (kitStatus general kit esxi nodes jobs).deployKitRunning = true ↔
    ∃ node ∈ nodes, ∃ job ∈ jobs, job.doc.nodeId = node.id ∧
      job.doc.runsBaseKit = true ∧ job.doc.unfinished = true
  jobsRunning : (kitStatus general kit esxi nodes jobs).jobsRunning = true ↔
    ∃ node ∈ nodes, ∃ job ∈ jobs, job.doc.nodeId = node.id ∧ job.doc.isRunning = true

/-! ## The counters -/

namespace KitCounters

def visit (c : KitCounters) (v : Node × JobDoc) : KitCounters := count v.1 c v.2

/-- The two loops are one over the jobs of the nodes. -/
theorem ofNodes_eq_foldl (nodes : List Node) (jobs : List NodeJob) :
    ofNodes nodes jobs = (nodeJobs nodes jobs).foldl visit zero := by
  unfold ofNodes nodeJobs
  generalize zero = c
  induction nodes generalizing c with
  | nil => rfl
  | cons node nodes ih =>
      rw [List.foldl_cons, ih, List.flatMap_cons, List.foldl_append, List.foldl_map]
      rfl

/-- What a job adds to the counters: whether it is a deployed control plane, and its part of
    the four numbers. -/
def isDeployedControlPlane (v : Node × JobDoc) : Bool :=
  v.2.name = jobDeploy && v.1.nodeType = NodeTypes.controlPlane && v.2.complete

def addsServer (name : String) (v : Node × JobDoc) : Nat :=
  if v.2.name = name ∧ v.1.nodeType = NodeTypes.server ∧ v.2.complete = true then 1 else 0

def addsInprogress (doc : JobDoc) : Nat :=
  if (doc.name = jobDeploy ∨ doc.name = jobProvision) ∧ doc.complete = false ∧
    doc.inprogress = true then 1 else 0

def addsPending (doc : JobDoc) : Nat :=
  if doc.name = jobProvision ∧ doc.complete = false ∧ doc.inprogress = false ∧
    doc.pending = true then 1 else 0

theorem visit_eq (c : KitCounters) (v : Node × JobDoc) :
    c.visit v = {
      controlPlaneDeployed := c.controlPlaneDeployed || isDeployedControlPlane v
      deployKitRunning := if v.2.runsBaseKit then v.2.unfinished else c.deployKitRunning
      serversProvisioned := c.serversProvisioned + addsServer jobProvision v
      serversDeployed := c.serversDeployed + addsServer jobDeploy v
      jobsInprogress := c.jobsInprogress + addsInprogress v.2
      jobsPending := c.jobsPending + addsPending v.2 } := by
  have hne : jobDeploy ≠ jobProvision := by decide
  unfold visit count JobDoc.runsBaseKit JobDoc.unfinished isDeployedControlPlane addsServer
    addsInprogress addsPending
  by_cases hdeploy : v.2.name = jobDeploy
  -- the branches of the source are by the name of the job
  · by_cases hkit : v.2.execType = some "DEPLOYMENT_JOBS.base_kit" <;> simp [hdeploy, hkit, hne]
  · by_cases hprovision : v.2.name = jobProvision <;>
      by_cases hkit : v.2.execType = some "DEPLOYMENT_JOBS.base_kit" <;>
        simp [hdeploy, hprovision, hkit, hne.symm, and_assoc]

/-- Counts add up, whatever the order; flags of the base kit commute where they agree. -/
theorem visit_comm {v v' : Node × JobDoc} (hagree : v.2.runsBaseKit = true →
    v'.2.runsBaseKit = true → v.2.unfinished = v'.2.unfinished) (c : KitCounters) :
    (c.visit v).visit v' = (c.visit v').visit v := by
  simp only [visit_eq, KitCounters.mk.injEq]
  refine ⟨Bool.or_right_comm .., ?_, ?_, ?_, ?_, ?_⟩
  · by_cases hv : v.2.runsBaseKit = true
    -- only two base-kit jobs write the same flag
    · by_cases hv' : v'.2.runsBaseKit = true
      · simp only [hv, hv', if_true]
        exact (hagree hv hv').symm
      · simp [hv, hv']
    · simp [hv]
  all_goals omega

/-- Something is in progress if a job adds to what is. -/
theorem jobsInprogress_foldl_visit_pos (vs : List (Node × JobDoc)) (c : KitCounters) :
    0 < (vs.foldl visit c).jobsInprogress ↔
      0 < c.jobsInprogress ∨ ∃ v ∈ vs, 0 < addsInprogress v.2 := by
  induction vs generalizing c with
  | nil => simp
  | cons v vs ih =>
      rw [List.foldl_cons, ih, visit_eq, List.exists_mem_cons_iff, ← or_assoc]
      dsimp only
      rw [Nat.add_pos_iff_pos_or_pos]

/-- Where the base-kit jobs agree, the flag is what they all say. -/
theorem deployKitRunning_foldl_visit {vs : List (Node × JobDoc)}
    (hagree : ∀ v ∈ vs, ∀ v' ∈ vs, v.2.runsBaseKit = true → v'.2.runsBaseKit = true →
      v.2.unfinished = v'.2.unfinished) (c : KitCounters) :
    (vs.foldl visit c).deployKitRunning =
      if vs.any (fun v => v.2.runsBaseKit) then
        vs.any fun v => v.2.runsBaseKit && v.2.unfinished
      else c.deployKitRunning := by
  -- over the jobs, from any counters; the last base-kit job decides
  induction vs generalizing c with
  | nil => rfl
  | cons v vs ih =>
      have htail := ih (fun v hv v' hv' => hagree v (List.mem_cons_of_mem _ hv) v'
        (List.mem_cons_of_mem _ hv')) (c.visit v)
      rw [List.foldl_cons, htail, visit_eq, List.any_cons, List.any_cons]
      by_cases hv : v.2.runsBaseKit = true
      · by_cases hrest : vs.any (fun v => v.2.runsBaseKit) = true
        · -- a later base-kit job says the same
          obtain ⟨v', hv', hkit⟩ := List.any_eq_true.mp hrest
          have hsame := hagree v (List.mem_cons_self ..) v' (List.mem_cons_of_mem _ hv') hv hkit
          simp only [hv, hrest, if_true, Bool.true_and, Bool.true_or]
          cases hunfinished : v.2.unfinished with
          | false => rfl
          | true =>
              rw [hunfinished] at hsame
              simp only [Bool.true_or]
              exact List.any_eq_true.mpr ⟨v', hv', by simp [hkit, ← hsame]⟩
        · rw [Bool.not_eq_true] at hrest
          have hnone : vs.any (fun v => v.2.runsBaseKit && v.2.unfinished) = false := by
            rw [List.any_eq_false]
            intro v' hv'
            have hkit := List.any_eq_false.mp hrest v' hv'
            simp [hkit]
          simp [hv, hrest, hnone]
      · rw [Bool.not_eq_true] at hv
        simp only [hv, Bool.false_eq_true, if_false, Bool.false_or, Bool.false_and]

end KitCounters

/-! ## When the status is exact -/

section Exact

variable {general kit esxi : Bool} {nodes : List Node} {jobs : List NodeJob}

theorem jobsRunning_iff (hflags : ∀ job ∈ jobs, job.doc.OneFlag) :
    (kitStatus general kit esxi nodes jobs).jobsRunning = true ↔
      ∃ node ∈ nodes, ∃ job ∈ jobs, job.doc.nodeId = node.id ∧ job.doc.isRunning = true := by
  have hcount : (kitStatus general kit esxi nodes jobs).jobsRunning = true ↔
      ∃ v ∈ nodeJobs nodes jobs, 0 < KitCounters.addsInprogress v.2 := by
    rw [kitStatus, KitCounters.ofNodes_eq_foldl]
    dsimp only
    rw [decide_eq_true_iff, KitCounters.jobsInprogress_foldl_visit_pos]
    simp [KitCounters.zero]
  have hadds (job : NodeJob) (hjob : job ∈ jobs) :
      0 < KitCounters.addsInprogress job.doc ↔ job.doc.isRunning = true := by
    have hone := hflags job hjob
    unfold JobDoc.OneFlag at hone
    unfold KitCounters.addsInprogress JobDoc.isRunning
    -- a job in progress is not complete
    have hcomplete : job.doc.inprogress = true → job.doc.complete = false := by
      intro hinprogress
      rw [hinprogress] at hone
      cases hcomplete : job.doc.complete with
      | false => rfl
      | true =>
          rw [hcomplete] at hone
          simp only [List.count_cons, List.count_nil, beq_self_eq_true, if_true] at hone
          omega
    by_cases hinprogress : job.doc.inprogress = true
    · by_cases hstage : job.doc.name = jobDeploy ∨ job.doc.name = jobProvision
      · simp [hinprogress, hcomplete hinprogress, hstage]
      · simp [hinprogress, hstage]
    · simp [hinprogress]
  rw [hcount]
  constructor
  · rintro ⟨⟨node, doc⟩, hv, hne⟩
    obtain ⟨hnode, job, hjob, hid, rfl⟩ := mem_nodeJobs.mp hv
    exact ⟨node, hnode, job, hjob, hid, (hadds job hjob).mp hne⟩
  · rintro ⟨node, hnode, job, hjob, hid, hrunning⟩
    exact ⟨(node, job.doc), mem_nodeJobs.mpr ⟨hnode, job, hjob, hid, rfl⟩,
      (hadds job hjob).mpr hrunning⟩

theorem deployKitRunning_iff (hagree : BaseKitAgrees nodes jobs) :
    (kitStatus general kit esxi nodes jobs).deployKitRunning = true ↔
      ∃ node ∈ nodes, ∃ job ∈ jobs, job.doc.nodeId = node.id ∧
        job.doc.runsBaseKit = true ∧ job.doc.unfinished = true := by
  have hany : (kitStatus general kit esxi nodes jobs).deployKitRunning = true ↔
      ∃ v ∈ nodeJobs nodes jobs, v.2.runsBaseKit = true ∧ v.2.unfinished = true := by
    rw [kitStatus, KitCounters.ofNodes_eq_foldl]
    dsimp only
    rw [KitCounters.deployKitRunning_foldl_visit hagree]
    split
    · simp
    · rename_i hnone
      refine iff_of_false (by simp [KitCounters.zero]) ?_
      rintro ⟨v, hv, hkit, -⟩
      exact hnone (List.any_eq_true.mpr ⟨v, hv, hkit⟩)
  rw [hany]
  constructor
  · rintro ⟨⟨node, doc⟩, hv, hflag⟩
    obtain ⟨hnode, job, hjob, hid, rfl⟩ := mem_nodeJobs.mp hv
    exact ⟨node, hnode, job, hjob, hid, hflag⟩
  · rintro ⟨node, hnode, job, hjob, hid, hflag⟩
    exact ⟨(node, job.doc), mem_nodeJobs.mpr ⟨hnode, job, hjob, hid, rfl⟩, hflag⟩

theorem kitStatus_perm (hagree : BaseKitAgrees nodes jobs) {nodes' : List Node}
    {jobs' : List NodeJob} (hnodes : nodes.Perm nodes') (hjobs : jobs.Perm jobs') :
    kitStatus general kit esxi nodes' jobs' = kitStatus general kit esxi nodes jobs := by
  have hcounters : KitCounters.ofNodes nodes' jobs' = KitCounters.ofNodes nodes jobs := by
    rw [KitCounters.ofNodes_eq_foldl, KitCounters.ofNodes_eq_foldl]
    refine ((nodeJobs_perm hnodes hjobs).foldl_eq' ?_ _).symm
    exact fun v hv v' hv' c => KitCounters.visit_comm (hagree v hv v' hv') c
  rw [kitStatus, kitStatus, hcounters]

/-- The order of nodes and jobs may be one in which the job is the last. -/
theorem exists_perm_concat {v : Node × JobDoc} (hv : v ∈ nodeJobs nodes jobs) :
    ∃ nodes' jobs' vs, nodes.Perm nodes' ∧ jobs.Perm jobs' ∧
      nodeJobs nodes' jobs' = vs ++ [v] := by
  obtain ⟨node, doc⟩ := v
  obtain ⟨hnode, job, hjob, hid, rfl⟩ := mem_nodeJobs.mp hv
  obtain ⟨nodes₁, nodes₂, rfl⟩ := List.append_of_mem hnode
  obtain ⟨jobs₁, jobs₂, rfl⟩ := List.append_of_mem hjob
  have hlast {α : Type} (xs ys : List α) (x : α) :
      (xs ++ x :: ys).Perm ((xs ++ ys) ++ [x]) := by
    refine List.perm_middle.trans ?_
    exact (List.perm_append_singleton x (xs ++ ys)).symm
  refine ⟨nodes₁ ++ nodes₂ ++ [node], jobs₁ ++ jobs₂ ++ [job],
    nodeJobs (nodes₁ ++ nodes₂) (jobs₁ ++ jobs₂ ++ [job]) ++
      ((jobs₁ ++ jobs₂).filter fun job => job.doc.nodeId = node.id).map fun job => (node, job.doc),
    hlast nodes₁ nodes₂ node, hlast jobs₁ jobs₂ job, ?_⟩
  have hself : [job].filter (fun job => job.doc.nodeId = node.id) = [job] := by
    simp only [List.filter_cons, List.filter_nil]
    rw [if_pos (decide_eq_true hid)]
  rw [nodeJobs, List.flatMap_append, List.flatMap_singleton, List.filter_append _ [job], hself,
    List.map_append, ← List.append_assoc]
  rfl

theorem statusExact_iff (general kit esxi : Bool) {nodes : List Node} {jobs : List NodeJob}
    (hflags : ∀ job ∈ jobs, job.doc.OneFlag) :
    StatusExact general kit esxi nodes jobs ↔ BaseKitAgrees nodes jobs := by
  constructor
  · intro hexact
    by_contra hdisagree
    unfold BaseKitAgrees at hdisagree
    push Not at hdisagree
    obtain ⟨v₁, hv₁, v₂, hv₂, hkit₁, hkit₂, hne⟩ := hdisagree
    -- one of the two is unfinished, the other one finished
    obtain ⟨v, hv, hkit, hunfinished, v', hv', hkit', hfinished⟩ :
        ∃ v ∈ nodeJobs nodes jobs, v.2.runsBaseKit = true ∧ v.2.unfinished = true ∧
          ∃ v' ∈ nodeJobs nodes jobs, v'.2.runsBaseKit = true ∧ v'.2.unfinished = false := by
      cases h₁ : v₁.2.unfinished with
      | true =>
          rw [h₁] at hne
          exact ⟨v₁, hv₁, hkit₁, h₁, v₂, hv₂, hkit₂, by simpa using hne.symm⟩
      | false =>
          rw [h₁] at hne
          exact ⟨v₂, hv₂, hkit₂, by simpa using hne.symm, v₁, hv₁, hkit₁, h₁⟩
    have hrunning : (kitStatus general kit esxi nodes jobs).deployKitRunning = true := by
      obtain ⟨hnode, job, hjob, hid, hdoc⟩ := mem_nodeJobs.mp hv
      refine hexact.deployKitRunning.mpr ⟨v.1, hnode, job, hjob, hid, ?_⟩
      rw [hdoc]
      exact ⟨hkit, hunfinished⟩
    -- in an order in which the finished one comes last the flag is not set
    obtain ⟨nodes', jobs', vs, hnodes, hjobs, hvs⟩ := exists_perm_concat hv'
    have hstopped : (kitStatus general kit esxi nodes' jobs').deployKitRunning = false := by
      rw [kitStatus, KitCounters.ofNodes_eq_foldl, hvs, List.foldl_concat, KitCounters.visit_eq]
      simp [hkit', hfinished]
    rw [hexact.perm nodes' jobs' hnodes hjobs, hrunning] at hstopped
    cases hstopped
  · intro hagree
    exact ⟨fun _ _ => kitStatus_perm hagree, deployKitRunning_iff hagree, jobsRunning_iff hflags⟩

end Exact

/-! ## A node is done before the others -/

def kitNode (id : String) : Node where
  id := id
  hostname := id ++ ".lan"
  ipAddress := ⟨10, 40, 12, 1⟩
  macAddress := none
  raid0Override := none
  nodeType := NodeTypes.server
  deviceFacts := []
  deploymentType := some DeploymentTypes.baremetal
  vpnStatus := .null
  virtualCpu := none
  virtualMem := none
  virtualOs := none
  virtualData := none

def baseKitJob (nodeId : String) (complete : Bool) : NodeJob where
  id := "job-" ++ nodeId
  doc := {
    message := none
    name := jobDeploy
    nodeId := nodeId
    pending := false
    complete := complete
    inprogress := !complete
    error := false
    description := some "Deploying Node"
    jobId := some "7f3a"
    execType := some "DEPLOYMENT_JOBS.base_kit" }

theorem statusExact_iff_running :
    StatusExact true true true [kitNode "server1", kitNode "server2"]
        [baseKitJob "server1" false, baseKitJob "server2" false] ↔
      BaseKitAgrees [kitNode "server1", kitNode "server2"]
        [baseKitJob "server1" false, baseKitJob "server2" false] :=
  statusExact_iff true true true (by decide)

/-- The base kit is still deployed on the first node, and is not reported. -/
theorem not_statusExact :
    ¬ ∀ (general kit esxi : Bool) (nodes : List Node) (jobs : List NodeJob),
      (∀ job ∈ jobs, job.doc.OneFlag) → StatusExact general kit esxi nodes jobs := by
  intro hclaim
  have hexact := hclaim true true true [kitNode "server1", kitNode "server2"]
    [baseKitJob "server1" false, baseKitJob "server2" true] (by decide)
  have hrunning := hexact.deployKitRunning.mpr ⟨kitNode "server1", by simp,
    baseKitJob "server1" false, by simp, by decide, by decide, by decide⟩
  have hstopped : (kitStatus true true true [kitNode "server1", kitNode "server2"]
    [baseKitJob "server1" false, baseKitJob "server2" true]).deployKitRunning = false := by decide
  rw [hstopped] at hrunning
  cases hrunning

end Tfplenum
