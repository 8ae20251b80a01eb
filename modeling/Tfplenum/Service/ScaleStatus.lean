/-
  Tfplenum.Service.ScaleStatus

  When scaling is recognised as finished.  `parse_nodes` puts the nodes that are
  masters, data and ingest nodes at once into a bucket of their own, and gives it up
  where there is another master or data node; the cluster is ready for the waiting job
  if the counts by role come to those of the node sets by name.
-/

import Tfplenum.Service.ScaleService

namespace Tfplenum

open Lib

/-! ## The buckets of the nodes -/

inductive NodeBucket where
  | mdil | master | data | ingest | ml
deriving DecidableEq, Repr

/-- The bucket of a node, by which of the roles m, d, i and l it carries. -/
def bucketOf (m d i l : Bool) : Option NodeBucket :=
  if m && d && i then some .mdil
  else if m then some .master
  else if d then some .data
  else if i then some .ingest
  else if l then some .ml
  else none

def nodeBucket (role : String) : Option NodeBucket :=
  bucketOf (carries 'm' role) (carries 'd' role) (carries 'i' role) (carries 'l' role)

/-- The node carries at least one of the roles. -/
def carriesAny (role : String) : Bool :=
  carries 'm' role || carries 'd' role || carries 'i' role || carries 'l' role

theorem nodeBucket_isSome (role : String) : (nodeBucket role).isSome = carriesAny role := by
  rw [nodeBucket, carriesAny]
  -- a node matters by four letters only
  generalize carries 'm' role = m, carries 'd' role = d, carries 'i' role = i,
    carries 'l' role = l
  revert m d i l
  decide

def NodeTally.get (t : NodeTally) : NodeBucket → Nat
  | .mdil => t.mdil
  | .master => t.master
  | .data => t.data
  | .ingest => t.ingest
  | .ml => t.machineLearning

/-- A node is counted once, in its bucket. -/
theorem NodeTally.get_count (t : NodeTally) (role : String) (b : NodeBucket) :
    (t.count role).get b = t.get b + if nodeBucket role = some b then 1 else 0 := by
  rw [NodeTally.count, nodeBucket]
  generalize carries 'm' role = m, carries 'd' role = d, carries 'i' role = i,
    carries 'l' role = l
  cases m <;> cases d <;> cases i <;> cases l <;> cases b <;> rfl

/-- The loop adds to each bucket the nodes that belong there. -/
theorem NodeTally.get_foldl (roles : List String) (t : NodeTally) (b : NodeBucket) :
    (roles.foldl NodeTally.count t).get b =
      t.get b + roles.countP fun role => nodeBucket role = some b := by
  induction roles generalizing t with
  | nil => rfl
  | cons role roles ih =>
      rw [List.foldl_cons, ih, NodeTally.get_count, List.countP_cons]
      simp only [decide_eq_true_eq]
      omega

theorem get_tallyNodes (roles : List String) (b : NodeBucket) :
    (tallyNodes roles).get b = roles.countP fun role => nodeBucket role = some b := by
  rw [tallyNodes, NodeTally.get_foldl]
  cases b <;> exact Nat.zero_add _

theorem get_tallyNodes_eq_zero_iff (roles : List String) (b : NodeBucket) :
    (tallyNodes roles).get b = 0 ↔ ∀ role ∈ roles, nodeBucket role ≠ some b := by
  rw [get_tallyNodes, List.countP_eq_zero]
  simp only [decide_eq_true_eq, ne_eq]

/-! ## The sum of the counts -/

def NodeCounts.total (c : NodeCounts) : Nat := c.master + c.data + c.ml + c.ingest

/-- There are no nodes of all roles beside dedicated masters or data nodes. -/
def Unmixed (roles : List String) : Prop :=
  (∀ role ∈ roles, nodeBucket role ≠ some .mdil) ∨
    ∀ role ∈ roles, nodeBucket role ≠ some .master ∧ nodeBucket role ≠ some .data

/-- Each node with a role is in one of the buckets. -/
theorem countP_carriesAny (roles : List String) :
    roles.countP carriesAny =
      (tallyNodes roles).mdil + (tallyNodes roles).master + (tallyNodes roles).data +
        (tallyNodes roles).ingest + (tallyNodes roles).machineLearning := by
  have hget := get_tallyNodes roles
  have hm := hget .mdil
  have hma := hget .master
  have hd := hget .data
  have hi := hget .ingest
  have hl := hget .ml
  simp only [NodeTally.get] at hm hma hd hi hl
  rw [hm, hma, hd, hi, hl]
  clear hget hm hma hd hi hl
  induction roles with
  | nil => rfl
  | cons role roles ih =>
      simp only [List.countP_cons, ih, ← nodeBucket_isSome role]
      rcases nodeBucket role with _ | b
      · simp
      · cases b <;> simp <;> omega

/-- The counts come to the number of nodes with a role exactly in an unmixed cluster. -/
theorem total_parseNodes_iff (roles : List String) :
    (parseNodes (some roles)).total = roles.countP carriesAny ↔ Unmixed roles := by
  have hmdil : (tallyNodes roles).mdil = 0 ↔ _ := get_tallyNodes_eq_zero_iff roles .mdil
  have hmaster : (tallyNodes roles).master = 0 ↔ _ := get_tallyNodes_eq_zero_iff roles .master
  have hdata : (tallyNodes roles).data = 0 ↔ _ := get_tallyNodes_eq_zero_iff roles .data
  rw [Unmixed, forall₂_and, ← hmdil, ← hmaster, ← hdata, countP_carriesAny]
  simp only [parseNodes, NodeCounts.total]
  -- the two sides differ by the `mdil` nodes that are dropped
  split <;> omega

/-! ## Deployments whose pods are up -/

/-- The configured count, where it is one. -/
def NodeSet.size (n : NodeSet) : Nat :=
  match n.count with
  | .num k => k.toNat
  | _ => 0

/-- The bucket of the pods of the node set. -/
def NodeSet.bucket (n : NodeSet) : Option NodeBucket :=
  bucketOf ("master" ∈ n.roles) ("data" ∈ n.roles) ("ingest" ∈ n.roles) ("ml" ∈ n.roles)

/-- The roles of a node, as `cat.nodes` abbreviates them. -/
structure HasRoles (role : String) (roles : List String) : Prop where
  master : carries 'm' role = true ↔ "master" ∈ roles
  data : carries 'd' role = true ↔ "data" ∈ roles
  ingest : carries 'i' role = true ↔ "ingest" ∈ roles
  ml : carries 'l' role = true ↔ "ml" ∈ roles

/-- The nodes are the pods of the node sets, each with the roles of its set. -/
inductive PodsOf : List NodeSet → List String → Prop
  | nil : PodsOf [] []
  | cons {n : NodeSet} {sets : List NodeSet} {pods roles : List String}
      (hsize : pods.length = n.size) (hroles : ∀ role ∈ pods, HasRoles role n.roles)
      (hrest : PodsOf sets roles) : PodsOf (n :: sets) (pods ++ roles)

def totalSize (sets : List NodeSet) : Nat := (sets.map NodeSet.size).sum

/-- All pods of the configured node sets are up, and the resource says so. -/
structure AllUp (sets : List NodeSet) (poll : ScalePoll) : Prop where
  deployment : ∃ d, poll.deployment = .ok d ∧ d.nodeSets?.getD [] = sets
  count : ∀ n ∈ sets, ∃ k : Nat, n.count = .num k
  nodes : ∃ roles pods, poll.nodes = some roles ∧ roles.Perm pods ∧ PodsOf sets pods
  resource : poll.resource = .found (some "Ready") (some (totalSize sets))

/-- How many pods are configured for a bucket. -/
def bucketSize (b : NodeBucket) (sets : List NodeSet) : Nat :=
  totalSize (sets.filter fun n => n.bucket = some b)

/-- The count of the last node set of a name, from the count so far on. -/
def lastSize (name : String) : Nat → List NodeSet → Nat
  | count, [] => count
  | count, n :: sets => lastSize name (if n.name = name then n.size else count) sets

/-- There are pods, and by the roles of the node sets there are as many of each kind as the
    node set of that name has. -/
def Recognisable (sets : List NodeSet) : Prop :=
  0 < totalSize sets ∧
    (if bucketSize .master sets = 0 ∧ bucketSize .data sets = 0 then bucketSize .mdil sets
      else bucketSize .master sets) = lastSize "master" 0 sets ∧
    bucketSize .data sets = lastSize "data" 0 sets ∧
    bucketSize .ml sets = lastSize "ml" 0 sets ∧
    bucketSize .ingest sets = lastSize "ingest" 0 sets

instance (sets : List NodeSet) : Decidable (Recognisable sets) :=
  inferInstanceAs (Decidable (_ ∧ _))

/-! ### What is counted -/

theorem HasRoles.nodeBucket {role : String} {n : NodeSet} (h : HasRoles role n.roles) :
    nodeBucket role = n.bucket := by
  have hbool {b : Bool} {p : Prop} [Decidable p] (hbp : b = true ↔ p) : b = decide p := by
    rw [Bool.eq_iff_iff, hbp, decide_eq_true_iff]
  rw [Tfplenum.nodeBucket, NodeSet.bucket, hbool h.master, hbool h.data, hbool h.ingest,
    hbool h.ml]

/-- The pods of a bucket are as many as configured. -/
theorem PodsOf.countP {sets : List NodeSet} {roles : List String} (h : PodsOf sets roles)
    (b : NodeBucket) : roles.countP (fun role => nodeBucket role = some b) = bucketSize b sets := by
  induction h with
  | nil => rfl
  | @cons n sets pods roles hsize hroles _ ih =>
      rw [List.countP_append, ih, bucketSize, bucketSize, List.filter_cons]
      by_cases hb : n.bucket = some b
      · have hall : pods.countP (fun role => nodeBucket role = some b) = pods.length :=
          List.countP_eq_length.mpr fun role hrole => by
            rw [(hroles role hrole).nodeBucket]
            exact decide_eq_true hb
        rw [hall, hsize, if_pos (decide_eq_true hb)]
        rfl
      · have hnone : pods.countP (fun role => nodeBucket role = some b) = 0 :=
          List.countP_eq_zero.mpr fun role hrole => by
            rw [(hroles role hrole).nodeBucket, decide_eq_true_eq]
            exact hb
        rw [hnone, if_neg (by simpa using hb), Nat.zero_add]

theorem PodsOf.length {sets : List NodeSet} {roles : List String} (h : PodsOf sets roles) :
    roles.length = totalSize sets := by
  induction h with
  | nil => rfl
  | cons hsize _ _ ih =>
      rw [List.length_append, hsize, ih]
      rfl

/-- What the loop over the node sets arrives at, from any counts. -/
theorem foldlM_add {sets : List NodeSet} (hcount : ∀ n ∈ sets, ∃ k : Nat, n.count = .num k)
    (master data ml ingest total : Nat) :
    sets.foldlM DeployCounts.add
        ⟨.num master, .num data, .num ml, .num ingest, total⟩ =
      .ok ⟨.num (lastSize "master" master sets), .num (lastSize "data" data sets),
        .num (lastSize "ml" ml sets), .num (lastSize "ingest" ingest sets),
        (total + totalSize sets : Nat)⟩ := by
  -- over the node sets, from any counts: of two sets of a name the last one is kept
  induction sets generalizing master data ml ingest total with
  | nil => rfl
  | cons n sets ih =>
      obtain ⟨k, hk⟩ := hcount n (List.mem_cons_self ..)
      have hsize : n.size = k := by
        rw [NodeSet.size, hk]
        rfl
      have hadd : DeployCounts.add ⟨.num master, .num data, .num ml, .num ingest, total⟩ n =
          .ok ⟨.num (if n.name = "master" then n.size else master : Nat),
            .num (if n.name = "data" then n.size else data : Nat),
            .num (if n.name = "ml" then n.size else ml : Nat),
            .num (if n.name = "ingest" then n.size else ingest : Nat), (total + n.size : Nat)⟩ := by
        rw [DeployCounts.add, hk, hsize]
        simp only [addJson, bind, Except.bind, pure, Except.pure]
        split_ifs <;> simp_all
      rw [List.foldlM_cons, hadd]
      dsimp only [bind, Except.bind]
      rw [ih fun n' hn' => hcount n' (List.mem_cons_of_mem _ hn')]
      rw [totalSize, totalSize, List.map_cons, List.sum_cons, Nat.add_assoc]
      rfl

/-! ### What is recognised -/

/-- The counts agree where there are nodes and each count is the same. -/
theorem countsAgree_iff (roles : List String) (master data ml ingest : Nat) (total : Int) :
    countsAgree (some roles) ⟨.num master, .num data, .num ml, .num ingest, total⟩ = true ↔
      0 < roles.length ∧ (parseNodes (some roles)).master = master ∧
        (parseNodes (some roles)).data = data ∧ (parseNodes (some roles)).ml = ml ∧
        (parseNodes (some roles)).ingest = ingest := by
  cases roles with
  | nil => simp [countsAgree]
  | cons role roles =>
      simp only [countsAgree, eqJson, Bool.and_eq_true, decide_eq_true_eq, Nat.cast_inj,
        List.length_cons, Nat.zero_lt_succ, true_and, and_assoc]

/-- The counts of the deployment, by the sizes of its node sets. -/
def configuredCounts (sets : List NodeSet) : DeployCounts :=
  ⟨.num (lastSize "master" 0 sets), .num (lastSize "data" 0 sets), .num (lastSize "ml" 0 sets),
    .num (lastSize "ingest" 0 sets), totalSize sets⟩

theorem deployCounts_of_count {d : ElasticDeploy} {sets : List NodeSet}
    (hsets : d.nodeSets?.getD [] = sets) (hcount : ∀ n ∈ sets, ∃ k : Nat, n.count = .num k) :
    deployCounts d = .ok (configuredCounts sets) := by
  rw [deployCounts, hsets]
  have hloop := foldlM_add hcount 0 0 0 0 0
  rw [Nat.zero_add] at hloop
  exact hloop

/-- The counts of all pods agree with the deployment where it can be recognised. -/
theorem countsAgree_of_pods {sets : List NodeSet} {roles pods : List String}
    (hperm : roles.Perm pods) (hpods : PodsOf sets pods) :
    countsAgree (some roles) (configuredCounts sets) = true ↔ Recognisable sets := by
  have hget (b : NodeBucket) : (tallyNodes roles).get b = bucketSize b sets := by
    rw [get_tallyNodes, hperm.countP_eq, hpods.countP]
  rw [configuredCounts, countsAgree_iff, hperm.length_eq, hpods.length]
  simp only [parseNodes, Recognisable, ← hget]
  rfl

/-- Where all pods are up, the cluster is ready exactly for node sets that can be
    recognised. -/
theorem esClusterStatus_of_allUp {sets : List NodeSet} {poll : ScalePoll} (hup : AllUp sets poll) :
    esClusterStatus poll = if Recognisable sets then "Ready" else "Pending" := by
  obtain ⟨d, hd, hsets⟩ := hup.deployment
  obtain ⟨roles, pods, hnodes, hperm, hpods⟩ := hup.nodes
  have hagree := countsAgree_of_pods hperm hpods
  have hbody : esClusterStatusBody poll =
      .ok (if Recognisable sets then "Ready" else "Pending") := by
    rw [esClusterStatusBody, hd, hup.resource, hnodes]
    dsimp only [bind, Except.bind]
    rw [deployCounts_of_count hsets hup.count]
    simp only [hagree, ElasticResource.getPhase, ElasticResource.getAvailableNodes]
    by_cases hrec : Recognisable sets
    · simp [hrec, configuredCounts, pure, Except.pure]
    · simp [hrec, pure, Except.pure]
  rw [esClusterStatus, hbody]

theorem esClusterStatus_eq_ready_iff {sets : List NodeSet} {poll : ScalePoll}
    (hup : AllUp sets poll) : esClusterStatus poll = "Ready" ↔ Recognisable sets := by
  rw [esClusterStatus_of_allUp hup]
  split <;> simp_all

/-! ## The end of the loop -/

/-- After enough polls the job is through. -/
def WaitEnds (polls : Nat → ScalePoll) : Prop := ∃ fuel, (checkScaleStatus polls fuel).isSome = true

/-- The loop ends only at a status that is ready. -/
theorem exists_ready_of_waitReady {polls : Nat → ScalePoll} {fuel i : Nat} {previousStatus : String}
    (h : (waitReady polls fuel i previousStatus).isSome = true) :
    ∃ j, i ≤ j ∧ esClusterStatus (polls j) = "Ready" := by
  induction fuel generalizing i previousStatus with
  | zero => cases h
  | succ fuel ih =>
      rw [waitReady] at h
      split at h
      · rename_i hready
        exact ⟨i, Nat.le_refl i, hready⟩
      · rw [Option.isSome_map] at h
        obtain ⟨j, hj, hready⟩ := ih h
        exact ⟨j, by omega, hready⟩

/-- A status that is ready is come to. -/
theorem waitReady_of_ready {polls : Nat → ScalePoll} {i k : Nat}
    (h : esClusterStatus (polls (i + k)) = "Ready") (previousStatus : String) :
    (waitReady polls (k + 1) i previousStatus).isSome = true := by
  induction k generalizing i previousStatus with
  | zero =>
      rw [Nat.add_zero] at h
      rw [waitReady, if_pos h]
      rfl
  | succ k ih =>
      rw [waitReady]
      split
      · rfl
      · rw [Option.isSome_map]
        -- the poll that is ready is one nearer
        refine ih ?_ _
        rw [show i + 1 + k = i + (k + 1) by omega]
        exact h

/-- The job is through after the first status that is ready, if there is one. -/
theorem waitEnds_iff (polls : Nat → ScalePoll) :
    WaitEnds polls ↔ ∃ j, 1 ≤ j ∧ esClusterStatus (polls j) = "Ready" := by
  simp only [WaitEnds, checkScaleStatus, Option.isSome_map]
  constructor
  · rintro ⟨fuel, h⟩
    exact exists_ready_of_waitReady h
  · rintro ⟨j, hj, hready⟩
    obtain ⟨k, rfl⟩ := Nat.exists_eq_add_of_le hj
    exact ⟨k + 1, waitReady_of_ready hready _⟩

/-- The counts come to the nodes exactly in an unmixed cluster; and where all pods are up,
    the status is ready and the job ends exactly for node sets that can be recognised. -/
theorem scaling_recognised_iff (roles : List String) (sets : List NodeSet) (poll : ScalePoll)
    (polls : Nat → ScalePoll) :
    ((parseNodes (some roles)).total = roles.countP carriesAny ↔ Unmixed roles) ∧
    (AllUp sets poll → (esClusterStatus poll = "Ready" ↔ Recognisable sets)) ∧
    ((∀ i, AllUp sets (polls i)) → (WaitEnds polls ↔ Recognisable sets)) := by
  refine ⟨total_parseNodes_iff roles, fun hup => esClusterStatus_eq_ready_iff hup, fun hup => ?_⟩
  rw [waitEnds_iff]
  constructor
  · rintro ⟨j, _, hready⟩
    exact (esClusterStatus_eq_ready_iff (hup j)).mp hready
  · intro hrec
    exact ⟨1, Nat.le_refl 1, (esClusterStatus_eq_ready_iff (hup 1)).mpr hrec⟩

/-- The node sets that the installation configures, of a kit whose masters do everything. -/
example : Recognisable
    [⟨"master", .num 3, ["master", "data", "ingest", "ml"], none, []⟩] := by
  decide

/-- And those of a kit with nodes for each role. -/
example : Recognisable
    [⟨"master", .num 3, ["master"], none, []⟩, ⟨"data", .num 4, ["data", "ingest"], none, []⟩,
      ⟨"ml", .num 2, ["ml"], none, []⟩] := by
  decide

/-- Masters that do everything, beside a node for data. -/
def mixedSets : List NodeSet :=
  [⟨"master", .num 3, ["master", "data", "ingest", "ml"], none, []⟩,
    ⟨"data", .num 1, ["data"], none, []⟩]

/-- All of the four nodes are up. -/
def mixedPoll : ScalePoll where
  deployment := .ok ⟨some ⟨some mixedSets, []⟩, []⟩
  nodes := some ["dilm", "dilm", "d", "dilm"]
  resource := .found (some "Ready") (some 4)

theorem allUp_mixedPoll : AllUp mixedSets mixedPoll := by
  have hall : HasRoles "dilm" ["master", "data", "ingest", "ml"] :=
    ⟨by decide, by decide, by decide, by decide⟩
  have hdata : HasRoles "d" ["data"] := ⟨by decide, by decide, by decide, by decide⟩
  have hpods : PodsOf mixedSets (["dilm", "dilm", "dilm"] ++ (["d"] ++ [])) := by
    refine .cons rfl ?_ (.cons rfl ?_ .nil)
    · intro role hrole
      rw [List.eq_of_mem_replicate (show role ∈ List.replicate 3 "dilm" from hrole)]
      exact hall
    · intro role hrole
      rw [List.mem_singleton.mp hrole]
      exact hdata
  refine ⟨⟨_, rfl, rfl⟩, ?_, ⟨_, _, rfl, ?_, hpods⟩, rfl⟩
  · intro n hn
    rcases List.mem_cons.mp hn with rfl | hn
    · exact ⟨3, rfl⟩
    · rw [List.mem_singleton.mp hn]
      exact ⟨1, rfl⟩
  · decide

/-- The three masters are not counted, and the job waits for them for ever. -/
theorem not_scaling_recognised :
    ¬ (∀ roles, (parseNodes (some roles)).total = roles.countP carriesAny) ∧
    ¬ ∀ sets poll, AllUp sets poll → esClusterStatus poll = "Ready" := by
  constructor
  · intro h
    have hmixed := h ["dilm", "dilm", "d", "dilm"]
    revert hmixed
    decide
  · intro h
    have hready := h mixedSets mixedPoll allUp_mixedPoll
    rw [esClusterStatus_eq_ready_iff allUp_mixedPoll] at hready
    revert hready
    decide

end Tfplenum
