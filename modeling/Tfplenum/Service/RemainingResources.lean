/-
  Tfplenum.Service.RemainingResources

  What `get_remaining` subtracts from what, on the exact quantities.  The requests are
  summed as they should be, whatever the order; the memory they are taken from is that of
  the node's capacity, not what the node can allocate.
-/

import Mathlib.Algebra.BigOperators.Group.List.Basic
import Mathlib.Algebra.Ring.Rat
import Tfplenum.Lib.Fallible
import Tfplenum.Lib.IPv4
import Tfplenum.Service.HealthService

namespace Tfplenum

open Lib

section Remaining

variable (q : QuantityOps)

/-- The quantities of `get_remaining` before they are formatted: the CPU and the memory. -/
def remaining (node : V1Node) (pods : List V1Pod) : Except PyError (Rat × Rat) := do
  let allocatableCpu ← quantityItem q node.allocatable "cpu"
  let allocatableMemory ← quantityItem q node.capacity "memory"
  let (cpu, memory) ← requested q (pods.flatMap (·.spec.containers)) (0, 0)
  return (allocatableCpu - cpu, allocatableMemory - memory)

/-- `get_remaining` formats them. -/
theorem getRemaining_eq (node : V1Node) (pods : List V1Pod) :
    getRemaining q node pods =
      (remaining q node pods).map fun rest => (q.convertToM rest.1, q.convertToGi rest.2) := by
  unfold getRemaining remaining
  cases quantityItem q node.allocatable "cpu" with
  | error e => rfl
  | ok cpu =>
      cases quantityItem q node.capacity "memory" with
      | error e => rfl
      | ok memory =>
          cases requested q (pods.flatMap (·.spec.containers)) (0, 0) with
          | error e => rfl
          | ok total => rfl

/-! ## What it is for -/

/-- What a container requests of a resource: nothing, if it names none. -/
def requestOf (key : String) (container : V1Container) : Except PyError Rat :=
  match container.requests with
  | none => .ok 0
  | some requests => quantityItem q (some requests) key

/-- What remains is what the node can allocate, less the sum of what the containers of its pods
    request, in whatever order pods and containers come. -/
def AddsUp (node : V1Node) (pods : List V1Pod) : Prop :=
  ∃ (cpu memory : Rat) (cpuOf memoryOf : V1Container → Rat),
    quantityItem q node.allocatable "cpu" = .ok cpu ∧
    quantityItem q node.allocatable "memory" = .ok memory ∧
    (∀ container ∈ pods.flatMap (·.spec.containers),
      requestOf q "cpu" container = .ok (cpuOf container) ∧
        requestOf q "memory" container = .ok (memoryOf container)) ∧
    ∀ pods' : List V1Pod,
      (pods'.flatMap (·.spec.containers)).Perm (pods.flatMap (·.spec.containers)) →
        remaining q node pods' =
          .ok (cpu - ((pods.flatMap (·.spec.containers)).map cpuOf).sum,
            memory - ((pods.flatMap (·.spec.containers)).map memoryOf).sum)

/-- The quantities can be read, and the node can allocate all the memory it has. -/
def Unreserved (node : V1Node) (pods : List V1Pod) : Prop :=
  (∃ cpu, quantityItem q node.allocatable "cpu" = .ok cpu) ∧
  (∃ memory, quantityItem q node.allocatable "memory" = .ok memory ∧
    quantityItem q node.capacity "memory" = .ok memory) ∧
  ∀ container ∈ pods.flatMap (·.spec.containers),
    (∃ cpu, requestOf q "cpu" container = .ok cpu) ∧
      ∃ memory, requestOf q "memory" container = .ok memory

/-! ## The sums -/

variable {q} {containers : List V1Container} {cpuOf memoryOf : V1Container → Rat}

/-- One round of the loop; an empty dictionary is passed over like a missing one. -/
theorem requested_cons {container : V1Container} {cpu memory : Rat}
    (hcpu : requestOf q "cpu" container = .ok cpu)
    (hmemory : requestOf q "memory" container = .ok memory) (total : Rat × Rat) :
    requested q (container :: containers) total =
      requested q containers (total.1 + cpu, total.2 + memory) := by
  obtain ⟨totalCpu, totalMemory⟩ := total
  unfold requestOf at hcpu hmemory
  rw [requested]
  rcases hrequests : container.requests with _ | _ | ⟨item, requests⟩
  · simp only [hrequests, Except.ok.injEq] at hcpu hmemory
    simp [← hcpu, ← hmemory]
  · simp only [hrequests, quantityItem, List.lookup_nil, Except.ok.injEq] at hcpu hmemory
    simp [← hcpu, ← hmemory]
  · simp only [hrequests] at hcpu hmemory
    simp [hcpu, hmemory, bind, Except.bind]

/-- The loop sums what the containers request. -/
theorem requested_eq
    (h : ∀ container ∈ containers, requestOf q "cpu" container = .ok (cpuOf container) ∧
      requestOf q "memory" container = .ok (memoryOf container)) (total : Rat × Rat) :
    requested q containers total =
      .ok (total.1 + (containers.map cpuOf).sum, total.2 + (containers.map memoryOf).sum) := by
  induction containers generalizing total with
  | nil => simp [requested]
  | cons container containers ih =>
      rw [List.forall_mem_cons] at h
      rw [requested_cons h.1.1 h.1.2, ih h.2, List.map_cons, List.map_cons, List.sum_cons,
        List.sum_cons, add_assoc, add_assoc]

variable {node : V1Node} {pods : List V1Pod}

theorem remaining_eq_ok_iff {rest : Rat × Rat} :
    remaining q node pods = .ok rest ↔ ∃ cpu memory total,
      quantityItem q node.allocatable "cpu" = .ok cpu ∧
      quantityItem q node.capacity "memory" = .ok memory ∧
      requested q (pods.flatMap (·.spec.containers)) (0, 0) = .ok total ∧
      rest = (cpu - total.1, memory - total.2) := by
  simp only [remaining, Fallible.bind_eq_ok_iff]
  constructor
  · rintro ⟨cpu, hcpu, memory, hmemory, total, htotal, hrest⟩
    exact ⟨cpu, memory, total, hcpu, hmemory, htotal, (Except.ok.inj hrest).symm⟩
  · rintro ⟨cpu, memory, total, hcpu, hmemory, htotal, rfl⟩
    exact ⟨cpu, hcpu, memory, hmemory, total, htotal, rfl⟩

/-- Both figures are taken less one sum, so they are one number. -/
theorem unreserved_of_addsUp (h : AddsUp q node pods) : Unreserved q node pods := by
  obtain ⟨cpu, memory, cpuOf, memoryOf, hcpu, hmemory, hrequests, hremaining⟩ := h
  refine ⟨⟨cpu, hcpu⟩, ⟨memory, hmemory, ?_⟩,
    fun container hmem => ⟨⟨_, (hrequests container hmem).1⟩, ⟨_, (hrequests container hmem).2⟩⟩⟩
  obtain ⟨cpu', capacity, total, hcpu', hcapacity, htotal, hrest⟩ :=
    remaining_eq_ok_iff.mp (hremaining pods (List.Perm.refl _))
  have hsum := Except.ok.inj ((requested_eq hrequests (0, 0)).symm.trans htotal)
  rw [← hsum] at hrest
  simp only [zero_add, Prod.mk.injEq] at hrest
  have hsame : memory = capacity := sub_left_injective hrest.2
  rw [hsame]
  exact hcapacity

theorem addsUp_of_unreserved (h : Unreserved q node pods) : AddsUp q node pods := by
  obtain ⟨⟨cpu, hcpu⟩, ⟨memory, hmemory, hcapacity⟩, hrequests⟩ := h
  let valueOf (key : String) (container : V1Container) : Rat :=
    (requestOf q key container).toOption.getD 0
  have hvalue (key : String) (container : V1Container)
      (h : ∃ value, requestOf q key container = .ok value) :
      requestOf q key container = .ok (valueOf key container) := by
    obtain ⟨value, hvalue⟩ := h
    simp only [valueOf, hvalue]
    rfl
  have hread : ∀ container ∈ pods.flatMap (·.spec.containers),
      requestOf q "cpu" container = .ok (valueOf "cpu" container) ∧
        requestOf q "memory" container = .ok (valueOf "memory" container) :=
    fun container hmem => ⟨hvalue _ _ (hrequests container hmem).1,
      hvalue _ _ (hrequests container hmem).2⟩
  refine ⟨cpu, memory, valueOf "cpu", valueOf "memory", hcpu, hmemory, hread, ?_⟩
  intro pods' hperm
  -- the sums are those of the pods in any order
  have htotal := requested_eq (fun container hmem => hread container (hperm.mem_iff.mp hmem)) (0, 0)
  apply remaining_eq_ok_iff.mpr
  refine ⟨cpu, memory, _, hcpu, hcapacity, htotal, ?_⟩
  rw [zero_add, zero_add, (hperm.map _).sum_eq, (hperm.map _).sum_eq]

/-- For every node and its pods, the resources add up exactly if the quantities can be read and
    no memory is reserved: the capacity and the allocatable memory are one number. -/
theorem addsUp_iff (q : QuantityOps) (node : V1Node) (pods : List V1Pod) :
    AddsUp q node pods ↔ Unreserved q node pods :=
  ⟨unreserved_of_addsUp, addsUp_of_unreserved⟩

end Remaining

/-- Quantities without a suffix -/
def plainQuantities : QuantityOps where
  parseQuantity s := match IPv4Address.digitsValue s.toList with
    | some n => .ok n
    | none => .error (.valueError ("Invalid number format: " ++ s))
  convertToM r := toString r
  convertToGi r := toString r

/-- A node of 8 GB that keeps 1 GB for the system -/
def reservingNode : V1Node where
  metadata := { name := "server1" }
  addresses := none
  conditions := none
  capacity := some [("cpu", "4"), ("memory", "8000000000")]
  allocatable := some [("cpu", "4"), ("memory", "7000000000")]
  nodeInfo := []

theorem not_addsUp_reserving : ¬ ∀ q node pods, AddsUp q node pods := by
  intro h
  obtain ⟨-, ⟨memory, hmemory, hcapacity⟩, -⟩ :=
    unreserved_of_addsUp (h plainQuantities reservingNode [])
  have hallocatable : quantityItem plainQuantities reservingNode.allocatable "memory" =
      .ok 7000000000 := by
    decide +kernel
  have hall : quantityItem plainQuantities reservingNode.capacity "memory" =
      .ok 8000000000 := by
    decide +kernel
  have hsame := Except.ok.inj (hmemory.symm.trans hallocatable)
  have hother := Except.ok.inj (hcapacity.symm.trans hall)
  rw [hsame] at hother
  exact absurd hother (by decide)

end Tfplenum
