/-
  Tfplenum.Service.ScaleOrder

  What the limits of scaling depend on.  A limit that each server node either adds to or
  sets anew is the same for every order of the nodes only if plenty of the role fits on
  every node, or the same small number on each; the branch of the role `ingest` agrees
  with the others as long as the number of data pods it tests does no harm.
-/

import Tfplenum.Service.ScaleLimits
import Tfplenum.Lib.Hoare
import Tfplenum.Lib.Totals
import Mathlib.Algebra.BigOperators.Group.List.Basic
import Mathlib.Algebra.Order.Ring.Int

namespace Tfplenum

open Lib

namespace Scale

/-! ## What the limits should be -/

/-- The server nodes, by what is left of them. -/
def servers (nodes : List KubeNode) : List Remaining :=
  (nodes.filter KubeNode.isServer).map KubeNode.remaining

/-- The same node with its pods in another order. -/
structure SameNode (n n' : KubeNode) : Prop where
  name : n.name = n'.name
  labels : n.labels = n'.labels
  cpu : n.cpu = n'.cpu
  memory : n.memory = n'.memory
  pods : n.pods.Perm n'.pods

/-- The same nodes, in another order and with their pods in another order. -/
def Rearranged (nodes nodes' : List KubeNode) : Prop :=
  ∃ mid, List.Forall₂ SameNode nodes mid ∧ mid.Perm nodes'

/-- What a node on which `m` pods fit does to the total: `none` adds to it. -/
def verdict (k m : Int) : Option Int := if maxPerNode ≤ m then none else some (k + m)

/-- The limit of a role as a function of its count, its request and what is left of the
    nodes, which is what the branch of the role `data` computes. -/
def roleLimit (r : Option RoleRequest) (l : List Remaining) : Int :=
  match deployed r with
  | .ok (some (k, q)) => runningTotal maxPerNode (fun s => verdict k (fits q s)) l
  | _ => 0

/-- The count of the last node set of the name, or 0. -/
def currentCount (name : String) (d : ElasticDeploy) : Json :=
  (d.nodeSets?.getD []).foldl (fun count n => if n.name = name then n.count else count) (.num 0)

/-- The count is at most the limit. -/
def AtMost (count : Json) (limit : Int) : Prop := ∀ c, intCount count = .ok c → c ≤ limit

/-- The limits are returned, are the same for every order of the nodes and of their pods, are
    at least the current counts, and the same function for the roles data, ml and ingest. -/
def LimitsHold (d : ElasticDeploy) (nodes : List KubeNode) : Prop :=
  ∃ rs limits, readRoles d = .ok rs ∧
    (∀ nodes', Rearranged nodes' nodes → getAllowableScaleCount d nodes' = .ok limits ∧
      limits.data = roleLimit rs.data (servers nodes') ∧
      limits.ml = roleLimit rs.ml (servers nodes') ∧
      limits.ingest = roleLimit rs.ingest (servers nodes')) ∧
    AtMost (currentCount "master" d) limits.master ∧ AtMost (currentCount "data" d) limits.data ∧
    AtMost (currentCount "ml" d) limits.ml ∧ AtMost (currentCount "ingest" d) limits.ingest

/-! ### When they are -/

/-- The server nodes have something to allocate. -/
def Allocatable (nodes : List KubeNode) : Prop :=
  ∀ n ∈ nodes.filter KubeNode.isServer, n.cpu ≠ 0 ∧ n.memory ≠ 0

/-- There is no node to scale the role on, or the role has no pods; or its request can be
    divided by, and either plenty of the role fits on every node, or the same small number
    fits on each. -/
def Steady (count : Json) (r : Option RoleRequest) (l : List Remaining) : Prop :=
  (l = [] ∨ deployed r = .ok none) ∧ AtMost count 0 ∨
  l ≠ [] ∧ ∃ k q, deployed r = .ok (some (k, q)) ∧ q.cpu ≠ 0 ∧ q.memory ≠ 0 ∧
    ((∀ s ∈ l, maxPerNode ≤ fits q s) ∧ AtMost count (l.length * maxPerNode) ∨
      ∃ m < maxPerNode, (∀ s ∈ l, fits q s = m) ∧ AtMost count (k + m))

/-- Where not plenty of ingest pods fit, there are data pods, and testing how many of these
    fit does no harm. -/
def InStep (data ingest : Option RoleRequest) (l : List Remaining) : Prop :=
  l = [] ∨ deployed ingest = .ok none ∨
  ∃ k q, deployed ingest = .ok (some (k, q)) ∧ ((∀ s ∈ l, maxPerNode ≤ fits q s) ∨
    ∃ kd qd, deployed data = .ok (some (kd, qd)) ∧
      ((∀ s ∈ l, fits q s = 0) ∨ ∀ s ∈ l, fits qd s ≠ 0))

/-- The deployment can be read, the server nodes have something to allocate, there are at most
    three masters, and the roles are steady. -/
def LimitsAgree (d : ElasticDeploy) (nodes : List KubeNode) : Prop :=
  ∃ rs, readRoles d = .ok rs ∧ Allocatable nodes ∧
    AtMost (currentCount "master" d) 3 ∧ Steady (currentCount "data" d) rs.data (servers nodes) ∧
    Steady (currentCount "ml" d) rs.ml (servers nodes) ∧
    Steady (currentCount "ingest" d) rs.ingest (servers nodes) ∧
    InStep rs.data rs.ingest (servers nodes)

/-! ## Reading the nodes -/

theorem SameNode.refl (n : KubeNode) : SameNode n n := ⟨rfl, rfl, rfl, rfl, .refl _⟩

theorem SameNode.isServer {n n' : KubeNode} (h : SameNode n n') : n.isServer = n'.isServer := by
  rw [KubeNode.isServer, KubeNode.isServer, h.labels]

theorem SameNode.remaining {n n' : KubeNode} (h : SameNode n n') : n.remaining = n'.remaining := by
  have hsum (quantity : KubeContainer → ℚ) : n.sumOf quantity = n'.sumOf quantity :=
    (h.pods.flatten.map quantity).sum_eq
  rw [KubeNode.remaining, KubeNode.remaining, h.cpu, h.memory, hsum, hsum]

theorem servers_of_forall₂ {nodes mid : List KubeNode} (h : List.Forall₂ SameNode nodes mid) :
    servers nodes = servers mid := by
  induction h with
  | nil => rfl
  | cons hn _ ih =>
      simp only [servers, List.filter_cons, hn.isServer] at ih ⊢
      split
      · rw [List.map_cons, List.map_cons, ih, hn.remaining]
      · exact ih

theorem Rearranged.servers {nodes' nodes : List KubeNode} (h : Rearranged nodes' nodes) :
    (servers nodes').Perm (servers nodes) := by
  obtain ⟨mid, hsame, hperm⟩ := h
  rw [servers_of_forall₂ hsame]
  exact (hperm.filter _).map _

/-- Every order of what is left of the servers comes from an order of the nodes. -/
theorem exists_rearranged {nodes : List KubeNode} {l : List Remaining}
    (h : l.Perm (servers nodes)) : ∃ nodes', Rearranged nodes' nodes ∧ servers nodes' = l := by
  obtain ⟨nodes', hperm, hl⟩ := exists_perm_of_perm_filter_map h
  exact ⟨nodes', ⟨nodes', List.forall₂_same.mpr fun n _ => SameNode.refl n, hperm⟩, hl⟩

/-! ## One role -/

theorem maxPerNode_ne_zero : maxPerNode ≠ 0 := by decide

theorem verdict_eq_none_iff {k m : Int} : verdict k m = none ↔ maxPerNode ≤ m := by
  rw [verdict]
  split <;> simp_all

theorem verdict_eq_some_iff {k m e : Int} : verdict k m = some e ↔ m < maxPerNode ∧ k + m = e := by
  rw [verdict]
  split
  · rename_i h
    simp only [reduceCtorEq, false_iff, not_and]
    omega
  · rename_i h
    simp only [Option.some.injEq, iff_and_self]
    omega

section Role

variable {k : Int} {q : RoleRequest} {l : List Remaining} {count : Json}

/-- The limit of a role does not depend on the order, and is at least the count, if plenty of
    the role fits everywhere, or the same small number. -/
theorem role_iff (hl : l ≠ []) :
    ((∀ l', l'.Perm l → runningTotal maxPerNode (fun s => verdict k (fits q s)) l' =
        runningTotal maxPerNode (fun s => verdict k (fits q s)) l) ∧
      AtMost count (runningTotal maxPerNode (fun s => verdict k (fits q s)) l)) ↔
    ((∀ s ∈ l, maxPerNode ≤ fits q s) ∧ AtMost count (l.length * maxPerNode) ∨
      ∃ m < maxPerNode, (∀ s ∈ l, fits q s = m) ∧ AtMost count (k + m)) := by
  rw [runningTotal_perm_iff maxPerNode_ne_zero]
  simp only [verdict_eq_none_iff, verdict_eq_some_iff]
  constructor
  · rintro ⟨hplenty | ⟨e, he⟩, hcount⟩
    · rw [runningTotal_of_none fun s hs => verdict_eq_none_iff.mpr (hplenty s hs),
        nsmul_eq_mul] at hcount
      exact .inl ⟨hplenty, hcount⟩
    · rw [runningTotal_of_some hl fun s hs => verdict_eq_some_iff.mpr (he s hs)] at hcount
      obtain ⟨s, hs⟩ := List.exists_mem_of_ne_nil l hl
      have hm := he s hs
      -- all nodes set the same total, so the same number fits on each
      refine .inr ⟨e - k, by omega, fun s' hs' => ?_, ?_⟩
      · have hm' := he s' hs'
        omega
      · rw [show k + (e - k) = e by omega]
        exact hcount
  · rintro (⟨hplenty, hcount⟩ | ⟨m, hm, hall, hcount⟩)
    · refine ⟨.inl hplenty, ?_⟩
      rw [runningTotal_of_none fun s hs => verdict_eq_none_iff.mpr (hplenty s hs), nsmul_eq_mul]
      exact hcount
    · have hsome : ∀ s ∈ l, fits q s < maxPerNode ∧ k + fits q s = k + m := fun s hs => by
        rw [hall s hs]
        exact ⟨hm, rfl⟩
      refine ⟨.inr ⟨k + m, hsome⟩, ?_⟩
      rw [runningTotal_of_some hl fun s hs => verdict_eq_some_iff.mpr (hsome s hs)]
      exact hcount

/-- What the branch of the role `ingest` does to the total. -/
def ingestVerdict (k : Int) (q : RoleRequest) (dataMin : Remaining → Int) (s : Remaining) :
    Option Int :=
  if maxPerNode ≤ fits q s then none
  else if dataMin s = 0 then some k
  else some (k + fits q s)

theorem ingestVerdict_eq_verdict_iff {dataMin : Remaining → Int} {s : Remaining} :
    ingestVerdict k q dataMin s = verdict k (fits q s) ↔
      maxPerNode ≤ fits q s ∨ fits q s = 0 ∨ dataMin s ≠ 0 := by
  rw [ingestVerdict, verdict]
  split_ifs with hplenty hzero
  · simp [hplenty]
  · simp [hplenty, hzero, eq_comm]
  · simp [hzero]

/-- The branch computes the limit of the role in every order just where it agrees with the
    other branches on each node, which for a steady role is soon said. -/
theorem ingest_iff (hl : l ≠ []) (dataMin : Remaining → Int) :
    ((∀ l', l'.Perm l →
        runningTotal maxPerNode (ingestVerdict k q dataMin) l' =
          runningTotal maxPerNode (ingestVerdict k q dataMin) l ∧
        runningTotal maxPerNode (ingestVerdict k q dataMin) l' =
          runningTotal maxPerNode (fun s => verdict k (fits q s)) l') ∧
      AtMost count (runningTotal maxPerNode (ingestVerdict k q dataMin) l)) ↔
    ((∀ s ∈ l, maxPerNode ≤ fits q s) ∧ AtMost count (l.length * maxPerNode) ∨
      ∃ m < maxPerNode, (∀ s ∈ l, fits q s = m) ∧ AtMost count (k + m)) ∧
    ((∀ s ∈ l, maxPerNode ≤ fits q s) ∨ (∀ s ∈ l, fits q s = 0) ∨ ∀ s ∈ l, dataMin s ≠ 0) := by
  constructor
  · rintro ⟨hperm, hcount⟩
    have hself := (hperm l (.refl l)).2
    have hsteady := (@role_iff k q l count hl).mp
      ⟨fun l' hl' => by rw [← (hperm l' hl').2, (hperm l' hl').1, hself], hself ▸ hcount⟩
    refine ⟨hsteady, ?_⟩
    rcases hsteady with ⟨hplenty, _⟩ | ⟨m, hm, hall, _⟩
    · exact .inl hplenty
    · right
      have hverdict (s : Remaining) (hs : s ∈ l) : verdict k (fits q s) = some (k + m) := by
        rw [hall s hs]
        exact verdict_eq_some_iff.mpr ⟨hm, rfl⟩
      have hagree : ∀ s ∈ l, fits q s = 0 ∨ dataMin s ≠ 0 := by
        intro s hs
        -- the branch's own total is the same in every order as well
        rcases (runningTotal_perm_iff maxPerNode_ne_zero).mp fun l' hl' => (hperm l' hl').1 with
          hnone | ⟨e, he⟩
        · have hsn := hnone s hs
          rw [ingestVerdict, if_neg (by rw [hall s hs]; omega)] at hsn
          split at hsn <;> cases hsn
        · rw [runningTotal_of_some hl he, runningTotal_of_some hl hverdict] at hself
          have heq : ingestVerdict k q dataMin s = verdict k (fits q s) := by
            rw [he s hs, hverdict s hs, hself]
          rcases ingestVerdict_eq_verdict_iff.mp heq with hplenty | hrest
          · rw [hall s hs] at hplenty
            omega
          · exact hrest
      by_cases hzero : m = 0
      · exact .inl fun s hs => (hall s hs).trans hzero
      · refine .inr fun s hs => (hagree s hs).resolve_left ?_
        rw [hall s hs]
        exact hzero
  · rintro ⟨hsteady, hstep⟩
    have heq : ∀ s ∈ l, ingestVerdict k q dataMin s = verdict k (fits q s) := by
      intro s hs
      refine ingestVerdict_eq_verdict_iff.mpr ?_
      rcases hstep with h | h | h
      · exact .inl (h s hs)
      · exact .inr (.inl (h s hs))
      · exact .inr (.inr (h s hs))
    obtain ⟨hperm, hcount⟩ := (role_iff hl).mpr hsteady
    have htotal (l' : List Remaining) (hl' : l'.Perm l) :
        runningTotal maxPerNode (ingestVerdict k q dataMin) l' =
          runningTotal maxPerNode (fun s => verdict k (fits q s)) l' :=
      runningTotal_congr fun s hs => heq s (hl'.subset hs)
    refine ⟨fun l' hl' => ⟨?_, htotal l' hl'⟩, ?_⟩
    · rw [htotal l' hl', htotal l (.refl l), hperm l' hl']
    · rw [htotal l (.refl l)]
      exact hcount

end Role

/-! ## The loop -/

/-- The role is read without an exception, as not deployed or with its count and a request
    that can be divided by. -/
structure Usable (r : Option RoleRequest) (R : Option (Int × RoleRequest)) : Prop where
  deployed : deployed r = .ok R
  nonzero : ∀ k q, R = some (k, q) → q.cpu ≠ 0 ∧ q.memory ≠ 0

/-- What the rounds of a role make of its total. -/
def roleTotal : Option (Int × RoleRequest) → List Remaining → Int
  | none, _ => 0
  | some (k, q), l => runningTotal maxPerNode (fun s => verdict k (fits q s)) l

/-- What `data_min` is tested to be, and what is assigned to it. -/
def dataMinOn : Option (Int × RoleRequest) → Remaining → Int
  | none, _ => 1
  | some (_, q), s => fits q s

def dataMinAfter : Option (Int × RoleRequest) → Remaining → Option Int → Option Int
  | none, _, dataMin => dataMin
  | some (_, q), s, _ => some (fits q s)

/-- The total of the role `ingest`. -/
def ingestTotal (D : Option (Int × RoleRequest)) : Option (Int × RoleRequest) → List Remaining → Int
  | none, _ => 0
  | some (k, q), l => runningTotal maxPerNode (ingestVerdict k q (dataMinOn D)) l

/-- `data_min` is assigned where it is tested. -/
def DataTested (D I : Option (Int × RoleRequest)) (l : List Remaining) : Prop :=
  ∀ k q, I = some (k, q) → D ≠ none ∨ ∀ s ∈ l, maxPerNode ≤ fits q s

section Parts

variable {r : Option RoleRequest} {R : Option (Int × RoleRequest)} {s : Remaining} {t : Totals}
variable {l : List Remaining}

theorem roleLimit_of_usable (h : Usable r R) : roleLimit r l = roleTotal R l := by
  rw [roleLimit, h.deployed]
  rcases R with _ | ⟨k, q⟩ <;> rfl

theorem fitOn_of_nonzero {q : RoleRequest} (h : q.cpu ≠ 0 ∧ q.memory ≠ 0) :
    fitOn q s = .ok (fits q s) :=
  if_neg (not_or.mpr h)

/-- A total after a round in which the role tests its own number. -/
theorem nextTotal_self (k m total : Int) :
    nextTotal k m m total = match verdict k m with
      | none => total + maxPerNode
      | some e => e := by
  rw [nextTotal, verdict]
  split_ifs with hplenty hzero
  · rfl
  · simp [hzero]
  · rfl

theorem roleTotal_append (k : Int) (q : RoleRequest) :
    roleTotal (some (k, q)) (l ++ [s]) =
      nextTotal k (fits q s) (fits q s) (roleTotal (some (k, q)) l) := by
  rw [nextTotal_self, roleTotal, roleTotal]
  cases h : verdict k (fits q s) with
  | none => exact runningTotal_append_none h
  | some e => exact runningTotal_append_some h

/-- A role is usable, or each round of it raises. -/
theorem usable_or_raises (r : Option RoleRequest) :
    (∃ R, Usable r R) ∨ ∃ e, ∀ s t, limitData r s t = .error e ∧ limitMl r s t = .error e ∧
      limitIngest r s t = .error e := by
  cases hdeployed : deployed r with
  | error e =>
      refine .inr ⟨e, fun s t => ?_⟩
      rw [limitData, limitMl, limitIngest, hdeployed]
      exact ⟨rfl, rfl, rfl⟩
  | ok R =>
      rcases R with _ | ⟨k, q⟩
      · exact .inl ⟨none, hdeployed, fun k q h => by cases h⟩
      · by_cases hzero : q.cpu = 0 ∨ q.memory = 0
        · refine .inr ⟨zeroDivisionError, fun s t => ?_⟩
          have hfit : fitOn q s = .error zeroDivisionError := if_pos hzero
          rw [limitData, limitMl, limitIngest, hdeployed]
          dsimp only [bind, Except.bind]
          rw [hfit]
          exact ⟨rfl, rfl, rfl⟩
        · refine .inl ⟨some (k, q), hdeployed, fun k' q' h => ?_⟩
          cases h
          exact not_or.mp hzero

theorem limitData_of_usable (h : Usable r R) (ht : t.data = roleTotal R l) :
    limitData r s t = .ok { t with
      data := roleTotal R (l ++ [s])
      dataMin := dataMinAfter R s t.dataMin } := by
  rw [limitData, h.deployed]
  rcases R with _ | ⟨k, q⟩
  · dsimp only [bind, Except.bind, pure, Except.pure]
    rw [show roleTotal none (l ++ [s]) = t.data from ht.symm]
    rfl
  · dsimp only [bind, Except.bind, pure, Except.pure]
    rw [fitOn_of_nonzero (h.nonzero k q rfl)]
    dsimp only
    rw [ht, roleTotal_append]
    rfl

theorem limitMl_of_usable (h : Usable r R) (ht : t.ml = roleTotal R l) :
    limitMl r s t = .ok { t with ml := roleTotal R (l ++ [s]) } := by
  rw [limitMl, h.deployed]
  rcases R with _ | ⟨k, q⟩
  · dsimp only [bind, Except.bind, pure, Except.pure]
    rw [show roleTotal none (l ++ [s]) = t.ml from ht.symm]
  · dsimp only [bind, Except.bind, pure, Except.pure]
    rw [fitOn_of_nonzero (h.nonzero k q rfl)]
    dsimp only
    rw [ht, roleTotal_append]

theorem limitIngest_of_usable {D : Option (Int × RoleRequest)} (h : Usable r R)
    (htested : DataTested D R [s]) (hmin : ∀ k q, D = some (k, q) → t.dataMin = some (fits q s))
    (ht : t.ingest = ingestTotal D R l) :
    limitIngest r s t = .ok { t with ingest := ingestTotal D R (l ++ [s]) } := by
  rw [limitIngest, h.deployed]
  rcases R with _ | ⟨k, q⟩
  · dsimp only [bind, Except.bind, pure, Except.pure]
    rw [show ingestTotal D none (l ++ [s]) = t.ingest from ht.symm]
  · dsimp only [bind, Except.bind, pure, Except.pure]
    rw [fitOn_of_nonzero (h.nonzero k q rfl)]
    dsimp only
    by_cases hplenty : maxPerNode ≤ fits q s
    · have hnone : ingestVerdict k q (dataMinOn D) s = none := if_pos hplenty
      rw [if_pos hplenty, ht, ingestTotal, ingestTotal, runningTotal_append_none hnone]
    · rw [if_neg hplenty]
      rcases D with _ | ⟨kd, qd⟩
      · rcases htested k q rfl with hdata | hall
        · exact absurd rfl hdata
        · exact absurd (hall s (List.mem_singleton_self s)) hplenty
      · rw [hmin kd qd rfl]
        dsimp only
        have hsome : ingestVerdict k q (dataMinOn (some (kd, qd))) s =
            some (if fits qd s = 0 then k else k + fits q s) := by
          rw [ingestVerdict, if_neg hplenty, dataMinOn]
          split <;> rfl
        rw [ingestTotal, runningTotal_append_some hsome, nextTotal, if_neg hplenty]

end Parts

section Loop

variable {rs : RoleRequests} {D M I : Option (Int × RoleRequest)} {l : List Remaining}

/-- The loop that does not raise computes the totals. -/
theorem foldlM_limitNode (hD : Usable rs.data D) (hM : Usable rs.ml M) (hI : Usable rs.ingest I)
    (htested : DataTested D I l) :
    ∃ dataMin, l.foldlM (limitNode rs) ⟨0, 0, 0, none⟩ =
      .ok ⟨roleTotal D l, roleTotal M l, ingestTotal D I l, dataMin⟩ := by
  -- the total is that of the nodes so far, so the induction is from the end of the list
  induction l using List.reverseRecOn with
  | nil =>
      refine ⟨none, ?_⟩
      rcases D with _ | ⟨kd, qd⟩ <;> rcases M with _ | ⟨km, qm⟩ <;>
        rcases I with _ | ⟨ki, qi⟩ <;> rfl
  | append_singleton l s ih =>
      obtain ⟨dataMin, hl⟩ := ih fun k q h => (htested k q h).imp_right fun hall s' hs' =>
        hall s' (List.mem_append_left _ hs')
      have hs : DataTested D I [s] := fun k q h => (htested k q h).imp_right fun hall s' hs' =>
        hall s' (List.mem_append_right _ hs')
      rw [List.foldlM_append, hl]
      dsimp only [bind, Except.bind]
      rw [List.foldlM_cons, limitNode]
      dsimp only [bind, Except.bind]
      rw [limitData_of_usable (l := l) hD rfl]
      dsimp only
      rw [limitMl_of_usable (l := l) hM rfl]
      dsimp only
      rw [limitIngest_of_usable (l := l) (D := D) hI hs (fun k q h => by rw [h]; rfl) rfl]
      exact ⟨_, rfl⟩

theorem exists_of_limitNode {s : Remaining} {t t' : Totals} (h : limitNode rs t s = .ok t') :
    ∃ t₁ t₂, limitData rs.data s t = .ok t₁ ∧ limitMl rs.ml s t₁ = .ok t₂ ∧
      limitIngest rs.ingest s t₂ = .ok t' := by
  rw [limitNode] at h
  obtain ⟨t₁, h₁, h⟩ := exists_of_bind_eq_ok h
  obtain ⟨t₂, h₂, h⟩ := exists_of_bind_eq_ok h
  exact ⟨t₁, t₂, h₁, h₂, h⟩

theorem exists_of_foldlM_cons {s : Remaining} {t t' : Totals}
    (h : (s :: l).foldlM (limitNode rs) t = .ok t') :
    ∃ t₁, limitNode rs t s = .ok t₁ ∧ l.foldlM (limitNode rs) t₁ = .ok t' := by
  rw [List.foldlM_cons] at h
  exact exists_of_bind_eq_ok h

/-- Without data pods `data_min` is never assigned, and tested on the first node where not
    plenty of ingest pods fit. -/
theorem plenty_of_foldlM (hD : Usable rs.data none) (hM : Usable rs.ml M) {k : Int}
    {q : RoleRequest} (hI : Usable rs.ingest (some (k, q))) {t t' : Totals} (ht : t.dataMin = none)
    (h : l.foldlM (limitNode rs) t = .ok t') : ∀ s ∈ l, maxPerNode ≤ fits q s := by
  induction l generalizing t with
  | nil => exact List.forall_mem_nil _
  | cons s l ih =>
      obtain ⟨t₁, hs, hrest⟩ := exists_of_foldlM_cons h
      obtain ⟨t₂, t₃, hdata, hml, hingest⟩ := exists_of_limitNode hs
      have ht₂ : t₂ = t := by
        rw [limitData, hD.deployed] at hdata
        cases hdata
        rfl
      have ht₃ : t₃.dataMin = none := by
        rw [limitMl, hM.deployed] at hml
        rcases M with _ | ⟨km, qm⟩
        · cases hml
          rw [ht₂, ht]
        · dsimp only [bind, Except.bind, pure, Except.pure] at hml
          rw [fitOn_of_nonzero (hM.nonzero km qm rfl)] at hml
          cases hml
          rw [ht₂, ht]
      rw [limitIngest, hI.deployed] at hingest
      dsimp only [bind, Except.bind, pure, Except.pure] at hingest
      rw [fitOn_of_nonzero (hI.nonzero k q rfl)] at hingest
      dsimp only at hingest
      rw [ht₃] at hingest
      by_cases hplenty : maxPerNode ≤ fits q s
      · rw [if_pos hplenty] at hingest
        cases hingest
        exact List.forall_mem_cons.mpr ⟨hplenty, ih rfl hrest⟩
      · rw [if_neg hplenty] at hingest
        cases hingest

/-- The loop returns only if the roles are usable and `data_min` is assigned where it is
    tested. -/
theorem usable_of_foldlM (hl : l ≠ []) {t : Totals}
    (h : l.foldlM (limitNode rs) ⟨0, 0, 0, none⟩ = .ok t) :
    ∃ D M I, Usable rs.data D ∧ Usable rs.ml M ∧ Usable rs.ingest I ∧ DataTested D I l := by
  obtain ⟨s, l', rfl⟩ := List.exists_cons_of_ne_nil hl
  obtain ⟨t₁, hs, -⟩ := exists_of_foldlM_cons h
  obtain ⟨t₂, t₃, hdata, hml, hingest⟩ := exists_of_limitNode hs
  rcases usable_or_raises rs.data with ⟨D, hD⟩ | ⟨e, he⟩
  swap
  · rw [(he _ _).1] at hdata
    cases hdata
  rcases usable_or_raises rs.ml with ⟨M, hM⟩ | ⟨e, he⟩
  swap
  · rw [(he _ _).2.1] at hml
    cases hml
  rcases usable_or_raises rs.ingest with ⟨I, hI⟩ | ⟨e, he⟩
  swap
  · rw [(he _ _).2.2] at hingest
    cases hingest
  refine ⟨D, M, I, hD, hM, hI, ?_⟩
  rintro k q rfl
  rcases D with _ | D
  · exact .inr (plenty_of_foldlM hD hM hI rfl h)
  · exact .inl (Option.some_ne_none D)

end Loop

/-! ## The limits -/

section Limits

variable {r data ingest : Option RoleRequest} {D I R : Option (Int × RoleRequest)}
variable {l : List Remaining} {count : Json}

theorem steady_iff (hR : Usable r R) (hl : l ≠ []) :
    ((∀ l', l'.Perm l → roleTotal R l' = roleTotal R l) ∧ AtMost count (roleTotal R l)) ↔
      Steady count r l := by
  rw [Steady, hR.deployed]
  rcases R with _ | ⟨k, q⟩
  · simp [roleTotal, hl]
  · rw [roleTotal]
    simp only [roleTotal]
    rw [role_iff hl]
    obtain ⟨hcpu, hmemory⟩ := hR.nonzero k q rfl
    constructor
    · intro h
      exact .inr ⟨hl, k, q, rfl, hcpu, hmemory, h⟩
    · rintro (⟨hnil | hnone, -⟩ | ⟨-, k', q', heq, -, -, h⟩)
      · exact absurd hnil hl
      · cases hnone
      · cases heq
        exact h

theorem inStep_iff (hD : Usable data D) (hI : Usable ingest I) (htested : DataTested D I l)
    (hl : l ≠ []) :
    ((∀ l', l'.Perm l → ingestTotal D I l' = ingestTotal D I l ∧
        ingestTotal D I l' = roleTotal I l') ∧ AtMost count (ingestTotal D I l)) ↔
      Steady count ingest l ∧ InStep data ingest l := by
  rw [Steady, InStep, hI.deployed, hD.deployed]
  rcases I with _ | ⟨k, q⟩
  · simp [roleTotal, ingestTotal, hl]
  · simp only [roleTotal, ingestTotal]
    rw [ingest_iff hl]
    obtain ⟨hcpu, hmemory⟩ := hI.nonzero k q rfl
    constructor
    · rintro ⟨hsteady, hstep⟩
      refine ⟨.inr ⟨hl, k, q, rfl, hcpu, hmemory, hsteady⟩, .inr (.inr ⟨k, q, rfl, ?_⟩)⟩
      rcases D with _ | ⟨kd, qd⟩
      · rcases htested k q rfl with hdata | hplenty
        · exact absurd rfl hdata
        · exact .inl hplenty
      · exact hstep.imp_right fun h => ⟨kd, qd, rfl, h⟩
    · rintro ⟨hsteady, hstep⟩
      refine ⟨?_, ?_⟩
      · rcases hsteady with ⟨hnil | hnone, -⟩ | ⟨-, k', q', heq, -, -, h⟩
        · exact absurd hnil hl
        · cases hnone
        · cases heq
          exact h
      · rcases hstep with hnil | hnone | ⟨k', q', heq, h⟩
        · exact absurd hnil hl
        · cases hnone
        · cases heq
          refine h.imp_right ?_
          rintro ⟨kd, qd, heq, hdata⟩
          cases heq
          exact hdata

/-- A steady role is usable. -/
theorem Steady.usable (hl : l ≠ []) (h : Steady count r l) : ∃ R, Usable r R := by
  rcases h with ⟨hnil | hnone, -⟩ | ⟨-, k, q, hk, hcpu, hmemory, -⟩
  · exact absurd hnil hl
  · exact ⟨none, hnone, fun k q h => by cases h⟩
  · refine ⟨some (k, q), hk, fun k' q' h => ?_⟩
    cases h
    exact ⟨hcpu, hmemory⟩

theorem InStep.dataTested (hl : l ≠ []) (hD : Usable data D) (hI : Usable ingest I)
    (h : InStep data ingest l) : DataTested D I l := by
  rintro k q rfl
  rcases h with hnil | hnone | ⟨k', q', hk, hplenty | ⟨kd, qd, hkd, -⟩⟩
  · exact absurd hnil hl
  · rw [hI.deployed] at hnone
    cases hnone
  · rw [hI.deployed] at hk
    cases hk
    exact .inr hplenty
  · rw [hD.deployed] at hkd
    cases hkd
    exact .inl (Option.some_ne_none _)

theorem DataTested.perm {l' : List Remaining} (h : DataTested D I l) (hl' : l'.Perm l) :
    DataTested D I l' :=
  fun k q hk => (h k q hk).imp_right fun hall s hs => hall s (hl'.subset hs)

end Limits

/-! ### Reading the statistics -/

theorem nodeStats_eq (n : KubeNode) :
    nodeStats n = if n.cpu ≠ 0 ∧ n.memory ≠ 0 then .ok n.remaining
      else .error zeroDivisionError := by
  rw [nodeStats]
  by_cases hcpu : n.cpu = 0
  · simp [percentOf, hcpu, bind, Except.bind]
  · by_cases hmemory : n.memory = 0
    · simp [percentOf, hcpu, hmemory, bind, Except.bind]
    · simp [percentOf, hcpu, hmemory, bind, Except.bind, pure, Except.pure]

theorem mapM_nodeStats {l : List KubeNode} (h : ∀ n ∈ l, n.cpu ≠ 0 ∧ n.memory ≠ 0) :
    l.mapM nodeStats = .ok (l.map KubeNode.remaining) := by
  induction l with
  | nil => rfl
  | cons n l ih =>
      rw [List.forall_mem_cons] at h
      rw [List.mapM_cons, nodeStats_eq, if_pos h.1]
      dsimp only [bind, Except.bind]
      rw [ih h.2]
      rfl

theorem nonzero_of_mapM {l : List KubeNode} {request : List Remaining}
    (h : l.mapM nodeStats = .ok request) : ∀ n ∈ l, n.cpu ≠ 0 ∧ n.memory ≠ 0 := by
  induction l generalizing request with
  | nil => exact List.forall_mem_nil _
  | cons n l ih =>
      rw [List.mapM_cons] at h
      obtain ⟨left, hleft, h⟩ := exists_of_bind_eq_ok h
      obtain ⟨rest, hrest, -⟩ := exists_of_bind_eq_ok h
      rw [nodeStats_eq] at hleft
      split at hleft
      · rename_i hn
        exact List.forall_mem_cons.mpr ⟨hn, ih hrest⟩
      · cases hleft

theorem serverStats_of_allocatable {nodes : List KubeNode} (h : Allocatable nodes) :
    serverStats nodes = .ok (servers nodes) :=
  mapM_nodeStats h

theorem SameNode.allocatable {nodes mid : List KubeNode} (h : List.Forall₂ SameNode nodes mid)
    (hmid : Allocatable mid) : Allocatable nodes := by
  intro n hn
  obtain ⟨hmem, hserver⟩ := List.mem_filter.mp hn
  obtain ⟨n', hn', hsame⟩ := exists_of_forall₂ h hmem
  rw [hsame.cpu, hsame.memory]
  refine hmid n' (List.mem_filter.mpr ⟨hn', ?_⟩)
  rw [← hsame.isServer]
  exact hserver

theorem Rearranged.allocatable {nodes' nodes : List KubeNode} (h : Rearranged nodes' nodes)
    (hnodes : Allocatable nodes) : Allocatable nodes' := by
  obtain ⟨mid, hsame, hperm⟩ := h
  refine SameNode.allocatable hsame fun n hn => hnodes n ?_
  exact (hperm.filter _).subset hn

theorem Rearranged.refl (nodes : List KubeNode) : Rearranged nodes nodes :=
  ⟨nodes, List.forall₂_same.mpr fun n _ => SameNode.refl n, .refl _⟩

/-! ### The whole -/

/-- What is answered is what the loop comes to on the nodes. -/
theorem getAllowableScaleCount_eq {d : ElasticDeploy} {rs : RoleRequests}
    (hrs : readRoles d = .ok rs) {nodes : List KubeNode} (halloc : Allocatable nodes) :
    getAllowableScaleCount d nodes =
      ((servers nodes).foldlM (limitNode rs) ⟨0, 0, 0, none⟩).map fun t =>
        ⟨3, t.data, t.ml, t.ingest, (servers nodes).length⟩ := by
  rw [getAllowableScaleCount, hrs]
  dsimp only [bind, Except.bind]
  rw [serverStats_of_allocatable halloc]
  dsimp only
  rcases (servers nodes).foldlM (limitNode rs) ⟨0, 0, 0, none⟩ with e | t <;> rfl

/-- An answer needs roles that can be read and nodes with something to allocate. -/
theorem readable_of_ok {d : ElasticDeploy} {nodes : List KubeNode} {limits : ScaleLimits}
    (h : getAllowableScaleCount d nodes = .ok limits) :
    ∃ rs, readRoles d = .ok rs ∧ Allocatable nodes := by
  rw [getAllowableScaleCount] at h
  obtain ⟨rs, hrs, h⟩ := exists_of_bind_eq_ok h
  obtain ⟨request, hstats, -⟩ := exists_of_bind_eq_ok h
  exact ⟨rs, hrs, nonzero_of_mapM hstats⟩

section Whole

variable {d : ElasticDeploy} {nodes : List KubeNode} {rs : RoleRequests}
variable {D M I : Option (Int × RoleRequest)}

/-- The answer where the roles are usable. -/
theorem getAllowableScaleCount_of_usable (hrs : readRoles d = .ok rs) (halloc : Allocatable nodes)
    (hD : Usable rs.data D) (hM : Usable rs.ml M) (hI : Usable rs.ingest I)
    (htested : DataTested D I (servers nodes)) :
    getAllowableScaleCount d nodes = .ok ⟨3, roleTotal D (servers nodes),
      roleTotal M (servers nodes), ingestTotal D I (servers nodes), (servers nodes).length⟩ := by
  obtain ⟨dataMin, hloop⟩ := foldlM_limitNode hD hM hI htested
  rw [getAllowableScaleCount_eq hrs halloc, hloop]
  rfl

/-- What the law comes to where the roles are usable. -/
theorem limitsHold_of_usable_iff (hrs : readRoles d = .ok rs) (halloc : Allocatable nodes)
    (hD : Usable rs.data D) (hM : Usable rs.ml M) (hI : Usable rs.ingest I)
    (htested : DataTested D I (servers nodes)) :
    LimitsHold d nodes ↔ AtMost (currentCount "master" d) 3 ∧
      ((∀ l, l.Perm (servers nodes) → roleTotal D l = roleTotal D (servers nodes)) ∧
        AtMost (currentCount "data" d) (roleTotal D (servers nodes))) ∧
      ((∀ l, l.Perm (servers nodes) → roleTotal M l = roleTotal M (servers nodes)) ∧
        AtMost (currentCount "ml" d) (roleTotal M (servers nodes))) ∧
      ((∀ l, l.Perm (servers nodes) → ingestTotal D I l = ingestTotal D I (servers nodes) ∧
        ingestTotal D I l = roleTotal I l) ∧
        AtMost (currentCount "ingest" d) (ingestTotal D I (servers nodes))) := by
  have hanswer (nodes' : List KubeNode) (h : Rearranged nodes' nodes) :=
    getAllowableScaleCount_of_usable hrs (h.allocatable halloc) hD hM hI (htested.perm h.servers)
  constructor
  · rintro ⟨rs', limits, hrs', hall, hmaster, hdata, hml, hingest⟩
    rw [hrs] at hrs'
    cases hrs'
    have hself := (hall nodes (Rearranged.refl nodes)).1
    rw [hanswer nodes (Rearranged.refl nodes)] at hself
    cases hself
    have hsame (l : List Remaining) (hl : l.Perm (servers nodes)) :
        roleTotal D l = roleTotal D (servers nodes) ∧ roleTotal M l = roleTotal M (servers nodes) ∧
          ingestTotal D I l = ingestTotal D I (servers nodes) ∧
          ingestTotal D I l = roleTotal I l := by
      obtain ⟨nodes', hnodes', rfl⟩ := exists_rearranged hl
      obtain ⟨hok, -, -, hlimit⟩ := hall nodes' hnodes'
      rw [hanswer nodes' hnodes'] at hok
      rw [roleLimit_of_usable hI] at hlimit
      injection hok with hok
      injection hok with _ hdata' hml' hingest' _
      exact ⟨hdata', hml', hingest', hingest'.trans hlimit⟩
    exact ⟨hmaster, ⟨fun l hl => (hsame l hl).1, hdata⟩, ⟨fun l hl => (hsame l hl).2.1, hml⟩,
      ⟨fun l hl => (hsame l hl).2.2, hingest⟩⟩
  · rintro ⟨hmaster, ⟨hDperm, hdata⟩, ⟨hMperm, hml⟩, hIperm, hingest⟩
    refine ⟨rs, ⟨3, roleTotal D (servers nodes), roleTotal M (servers nodes),
      ingestTotal D I (servers nodes), (servers nodes).length⟩, hrs, fun nodes' hnodes' => ?_,
      hmaster, hdata, hml, hingest⟩
    have hperm := hnodes'.servers
    refine ⟨?_, ?_, ?_, ?_⟩
    · rw [hanswer nodes' hnodes', hDperm _ hperm, hMperm _ hperm, (hIperm _ hperm).1,
        hperm.length_eq]
    · rw [roleLimit_of_usable hD]
      exact (hDperm _ hperm).symm
    · rw [roleLimit_of_usable hM]
      exact (hMperm _ hperm).symm
    · rw [roleLimit_of_usable hI]
      exact (hIperm _ hperm).1.symm.trans (hIperm _ hperm).2

theorem roleLimit_nil (r : Option RoleRequest) : roleLimit r [] = 0 := by
  rw [roleLimit]
  split <;> rfl

/-- Without servers there is nothing to scale on. -/
theorem limitsHold_of_nil (hrs : readRoles d = .ok rs) (halloc : Allocatable nodes)
    (hl : servers nodes = []) :
    LimitsHold d nodes ↔ AtMost (currentCount "master" d) 3 ∧ AtMost (currentCount "data" d) 0 ∧
      AtMost (currentCount "ml" d) 0 ∧ AtMost (currentCount "ingest" d) 0 := by
  have hnil (nodes' : List KubeNode) (h : Rearranged nodes' nodes) : servers nodes' = [] :=
    (hl ▸ h.servers).eq_nil
  have hanswer (nodes' : List KubeNode) (h : Rearranged nodes' nodes) :
      getAllowableScaleCount d nodes' = .ok ⟨3, 0, 0, 0, 0⟩ := by
    rw [getAllowableScaleCount_eq hrs (h.allocatable halloc), hnil nodes' h]
    rfl
  constructor
  · rintro ⟨rs', limits, hrs', hall, hcounts⟩
    have hself := (hall nodes (Rearranged.refl nodes)).1
    rw [hanswer nodes (Rearranged.refl nodes)] at hself
    cases hself
    exact hcounts
  · intro hcounts
    refine ⟨rs, ⟨3, 0, 0, 0, 0⟩, hrs, fun nodes' h => ⟨hanswer nodes' h, ?_⟩, hcounts⟩
    rw [hnil nodes' h, roleLimit_nil, roleLimit_nil, roleLimit_nil]
    exact ⟨rfl, rfl, rfl⟩

theorem steady_nil_iff (count : Json) (r : Option RoleRequest) :
    Steady count r [] ↔ AtMost count 0 := by
  simp [Steady]

/-- Where the law holds on some servers, the loop has gone through them. -/
theorem usable_of_limitsHold (hrs : readRoles d = .ok rs) (halloc : Allocatable nodes)
    (hl : servers nodes ≠ []) (h : LimitsHold d nodes) :
    ∃ D M I, Usable rs.data D ∧ Usable rs.ml M ∧ Usable rs.ingest I ∧
      DataTested D I (servers nodes) := by
  obtain ⟨rs', limits, -, hall, -⟩ := h
  have hself := (hall nodes (Rearranged.refl nodes)).1
  rw [getAllowableScaleCount_eq hrs halloc] at hself
  cases hloop : (servers nodes).foldlM (limitNode rs) ⟨0, 0, 0, none⟩ with
  | error e =>
      rw [hloop] at hself
      cases hself
  | ok t => exact usable_of_foldlM hl hloop

theorem usable_of_steady {l : List Remaining} {data ml ingest : Json} (hl : l ≠ [])
    (hdata : Steady data rs.data l) (hml : Steady ml rs.ml l) (hingest : Steady ingest rs.ingest l)
    (hstep : InStep rs.data rs.ingest l) :
    ∃ D M I, Usable rs.data D ∧ Usable rs.ml M ∧ Usable rs.ingest I ∧ DataTested D I l := by
  obtain ⟨D, hD⟩ := hdata.usable hl
  obtain ⟨M, hM⟩ := hml.usable hl
  obtain ⟨I, hI⟩ := hingest.usable hl
  exact ⟨D, M, I, hD, hM, hI, hstep.dataTested hl hD hI⟩

/-- The limits hold exactly where the nodes agree on them. -/
theorem limitsHold_iff (d : ElasticDeploy) (nodes : List KubeNode) :
    LimitsHold d nodes ↔ LimitsAgree d nodes := by
  -- where the roles or the nodes cannot be read, both sides are false
  by_cases hread : ∃ rs, readRoles d = .ok rs ∧ Allocatable nodes
  swap
  · refine iff_of_false ?_ ?_
    · rintro ⟨rs, limits, -, hall, -⟩
      exact hread (readable_of_ok (hall nodes (Rearranged.refl nodes)).1)
    · rintro ⟨rs, hrs, halloc, -⟩
      exact hread ⟨rs, hrs, halloc⟩
  obtain ⟨rs, hrs, halloc⟩ := hread
  have hagree : LimitsAgree d nodes ↔ AtMost (currentCount "master" d) 3 ∧
      Steady (currentCount "data" d) rs.data (servers nodes) ∧
      Steady (currentCount "ml" d) rs.ml (servers nodes) ∧
      Steady (currentCount "ingest" d) rs.ingest (servers nodes) ∧
      InStep rs.data rs.ingest (servers nodes) := by
    constructor
    · rintro ⟨rs', hrs', -, h⟩
      rw [hrs] at hrs'
      cases hrs'
      exact h
    · exact fun h => ⟨rs, hrs, halloc, h⟩
  rw [hagree]
  by_cases hl : servers nodes = []
  · rw [limitsHold_of_nil hrs halloc hl, hl, steady_nil_iff, steady_nil_iff, steady_nil_iff]
    simp [InStep]
  -- with servers, either side makes the roles usable
  by_cases husable : ∃ D M I, Usable rs.data D ∧ Usable rs.ml M ∧ Usable rs.ingest I ∧
      DataTested D I (servers nodes)
  · obtain ⟨D, M, I, hD, hM, hI, htested⟩ := husable
    rw [limitsHold_of_usable_iff hrs halloc hD hM hI htested, steady_iff hD hl, steady_iff hM hl,
      inStep_iff hD hI htested hl]
  · refine iff_of_false (fun h => husable (usable_of_limitsHold hrs halloc hl h)) ?_
    rintro ⟨-, hdata, hml, hingest, hstep⟩
    exact husable (usable_of_steady hl hdata hml hingest hstep)

end Whole

/-- A deployment of one data node that asks for one processor and one `Mi`. -/
def oneDataNode : ElasticDeploy where
  spec := some {
    nodeSets := some [⟨"data", .num 1, ["data"], some [⟨some 1, some 1⟩], []⟩]
    rest := [] }
  rest := []

/-- A server of four processors and as many `Mi`, on which as much is requested. -/
def serverWith (name : String) (requested : ℚ) : KubeNode where
  name := name
  labels := Table.empty.upsert "role" "server"
  cpu := 4
  memory := 4
  pods := [[⟨requested, requested, 0, 0⟩]]

/-- A full node before an empty one leaves room for four data nodes, and after it for one. -/
theorem not_limitsHold : ¬ ∀ d nodes, LimitsHold d nodes := by
  intro h
  obtain ⟨rs, limits, -, hall, -⟩ := h oneDataNode [serverWith "full" 4, serverWith "empty" 0]
  have hfirst := (hall _ (Rearranged.refl _)).1
  have hswap : Rearranged [serverWith "empty" 0, serverWith "full" 4]
      [serverWith "full" 4, serverWith "empty" 0] :=
    ⟨_, List.forall₂_same.mpr fun n _ => SameNode.refl n, .swap _ _ _⟩
  have hlast := (hall _ hswap).1
  have hfour : getAllowableScaleCount oneDataNode [serverWith "full" 4, serverWith "empty" 0] =
      .ok ⟨3, 4, 0, 0, 2⟩ := by
    decide +kernel
  have hone : getAllowableScaleCount oneDataNode [serverWith "empty" 0, serverWith "full" 4] =
      .ok ⟨3, 1, 0, 0, 2⟩ := by
    decide +kernel
  rw [hfour] at hfirst
  rw [hone] at hlast
  rw [← hfirst] at hlast
  cases hlast

end Scale

end Tfplenum
