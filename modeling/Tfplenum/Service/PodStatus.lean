/-
  Tfplenum.Service.PodStatus

  The summary of a pod against the algorithm that `get_pod_status` cites, in which an
  absent text is empty, an absent signal is 0 and an absent list has no elements.

  The code leaves the algorithm at an init container: what its state gives is overwritten
  by the count, a waiting one is read through a misspelt attribute, and absent fields raise
  (`getPodStatus_eq_iff`).
-/

import Tfplenum.Lib.Fallible
import Tfplenum.Service.HealthService

namespace Tfplenum

open Lib

/-! ## The cited algorithm -/

namespace V1ContainerStatus

/-- The init container ended with exit code 0. -/
def succeeded (container : V1ContainerStatus) : Bool :=
  container.state.terminated.any fun terminated => terminated.exitCode = 0

/-- What the container waits for, if it does and says so. -/
def waitsFor (container : V1ContainerStatus) : String :=
  (container.state.waiting.getD none).getD ""

/-- The summary at the init container with index `i` of `n`. -/
def initSummary (container : V1ContainerStatus) (i n : Nat) : String :=
  match container.state.terminated with
  | some terminated =>
      if terminated.reason.getD "" ≠ "" then "Init:" ++ terminated.reason.getD ""
      else if terminated.signal.getD 0 ≠ 0 then s!"Init: Signal {terminated.signal.getD 0}"
      else s!"Init: ExitCode {terminated.exitCode}"
  | none =>
      if container.waitsFor ≠ "" ∧ container.waitsFor ≠ "PodInitializing" then
        "Init: " ++ container.waitsFor
      else s!"Init: {i}/{n}"

/-- What a normal container gives as the reason, unless it runs or says nothing. -/
def summary (container : V1ContainerStatus) : Option String :=
  if container.waitsFor ≠ "" then some container.waitsFor
  else container.state.terminated.map fun terminated =>
    if terminated.reason.getD "" ≠ "" then terminated.reason.getD ""
    else if terminated.signal.getD 0 ≠ 0 then s!"Signal: {terminated.signal.getD 0}"
    else s!"ExitCode: {terminated.exitCode}"

/-- A normal container that is ready and runs. -/
def runs (container : V1ContainerStatus) : Bool :=
  container.summary.isNone && (container.ready && container.state.running)

end V1ContainerStatus

namespace V1Pod

variable (pod : V1Pod)

def initStatuses : List V1ContainerStatus := pod.status.initContainerStatuses.getD []

def statuses : List V1ContainerStatus := pod.status.containerStatuses.getD []

/-- The first init container that is not successfully terminated, with its index. -/
def pendingInit : Option (V1ContainerStatus × Nat) :=
  pod.initStatuses.zipIdx.find? fun pending => !pending.1.succeeded

/-- How many init containers the pod has. -/
def initCount : Nat := (pod.spec.initContainers.getD []).length

/-- The first normal container that gives a reason. -/
def deciding : Option V1ContainerStatus :=
  pod.statuses.find? fun container => container.summary.isSome

/-- The reason of the pod itself, or its phase. -/
def ownReason : Option String :=
  if pod.status.reason ≠ none ∧ pod.status.reason ≠ some "" then pod.status.reason
  else pod.status.phase

/-- The reason after the normal containers. -/
def statusesReason : Option String :=
  (pod.deciding.bind V1ContainerStatus.summary).or pod.ownReason

/-- Completed, but for a container that still runs. -/
def StillRuns : Prop :=
  pod.statusesReason = some "Completed" ∧ pod.statuses.any V1ContainerStatus.runs = true

instance : Decidable pod.StillRuns := inferInstanceAs (Decidable (_ ∧ _))

/-- The summary before the overrides. -/
def summary : String :=
  match pod.pendingInit with
  | some (container, i) => container.initSummary i pod.initCount
  | none =>
      if pod.StillRuns then
        if (pod.status.conditions.getD []).any fun c => c.type = "Ready" && c.status = "True" then
          "Running"
        else "NotReady"
      else pod.statusesReason.getD ""

def Deleted : Prop := pod.metadata.deletionTimestamp.isSome = true

instance : Decidable pod.Deleted := inferInstanceAs (Decidable (_ = true))

/-- The last part of the algorithm: a deletion, and the empty text. -/
def overridden (summary : String) : String :=
  if pod.Deleted then
    if pod.status.reason = some "NodeLost" then "Unknown" else "Terminating"
  else if summary = "" then "Unknown" else summary

end V1Pod

/-- The status defined by the algorithm that `get_pod_status` cites. -/
def podStatus (pod : V1Pod) : String := pod.overridden pod.summary

/-! ## Where the code follows it -/

namespace V1ContainerStatus

/-- Terminated without a reason or a signal; the client has `None` for both. -/
def LacksSignal (container : V1ContainerStatus) : Prop :=
  container.waitsFor = "" ∧ container.state.terminated.any
    (fun terminated => terminated.signal.isNone && terminated.reason.getD "" = "") = true

instance (container : V1ContainerStatus) : Decidable container.LacksSignal :=
  inferInstanceAs (Decidable (_ ∧ _))

/-- Code's reading of the init container does not raise. -/
def Readable (container : V1ContainerStatus) (pod : V1Pod) : Prop :=
  container.state.waiting = none ∧
    (∀ terminated, container.state.terminated = some terminated → terminated.reason ≠ none) ∧
      pod.spec.initContainers ≠ none

end V1ContainerStatus

/-- The fields that the code needs are there, and it does not overwrite what it found: no init
    container waits or has failed, unless the failure reads like the count, or the pod is
    being deleted. -/
def V1Pod.Summarised (pod : V1Pod) : Prop :=
  match pod.pendingInit with
  | some (container, i) =>
      container.Readable pod ∧ (pod.Deleted ∨ ∀ terminated,
        container.state.terminated = some terminated →
          terminated.reason = some s!" {i}/{pod.initCount}")
  | none =>
      (pod.StillRuns → pod.status.conditions ≠ none) ∧
        (pod.Deleted ∨ pod.statusesReason ≠ none ∧
          ∀ container, pod.deciding = some container → ¬ container.LacksSignal)

/-! ## Init containers -/

section Init

variable {pod : V1Pod} {reason : Option String} {container : V1ContainerStatus} {i j : Nat}
  {statuses : List V1ContainerStatus}

/-- The loop passes over the successful init containers. -/
theorem initReason_of_succeeded (h : container.succeeded = true) :
    initReason pod i (container :: statuses) reason = initReason pod (i + 1) statuses reason := by
  unfold V1ContainerStatus.succeeded at h
  rw [initReason]
  split
  · rfl
  case h_2 terminated hzero =>
    cases hterminated : container.state.terminated with
    | none => simp [hterminated] at h
    | some t =>
        obtain ⟨exitCode, signal, tReason⟩ := t
        rw [hterminated] at h
        simp only [Option.any_some, decide_eq_true_eq] at h
        subst h
        exact absurd hterminated (hzero signal tReason)

/-- At any other one it ends, with the count or an exception. -/
theorem initReason_of_pending (h : container.succeeded = false) {out : Option String × Bool} :
    initReason pod i (container :: statuses) reason = .ok out ↔
      container.Readable pod ∧ out = (some s!"Init: {i}/{pod.initCount}", true) := by
  unfold V1ContainerStatus.succeeded at h
  rw [initReason, V1ContainerStatus.Readable, V1Pod.initCount]
  split
  case h_1 signal tReason hterminated =>
    simp [hterminated] at h
  · rcases hterminated : container.state.terminated with _ | ⟨exitCode, signal, _ | tReason⟩ <;>
    rcases hwaiting : container.state.waiting with _ | waiting <;>
    rcases hinit : pod.spec.initContainers with _ | initContainers <;>
    simp [bind, Except.bind, pure, Except.pure, throw, throwThe, MonadExceptOf.throw,
      eq_comm]

theorem initReason_of_none (h : ∀ container ∈ statuses, container.succeeded = true) :
    initReason pod i statuses reason = .ok (reason, false) := by
  induction statuses generalizing i with
  | nil => rfl
  | cons container statuses ih =>
      rw [List.forall_mem_cons] at h
      rw [initReason_of_succeeded h.1, ih h.2]

theorem initReason_of_some
    (h : (statuses.zipIdx i).find? (fun pending => !pending.1.succeeded) = some (container, j))
    {out : Option String × Bool} :
    initReason pod i statuses reason = .ok out ↔
      container.Readable pod ∧ out = (some s!"Init: {j}/{pod.initCount}", true) := by
  induction statuses generalizing i with
  | nil => simp at h
  | cons first statuses ih =>
      rw [List.zipIdx_cons, List.find?_cons] at h
      cases hfirst : first.succeeded with
      | true =>
          rw [initReason_of_succeeded hfirst]
          exact ih (by simpa [hfirst] using h)
      | false =>
          obtain ⟨rfl, rfl⟩ : first = container ∧ i = j := by simpa [hfirst] using h
          exact initReason_of_pending hfirst

end Init

/-! ## Normal containers -/

namespace V1ContainerStatus

variable {container : V1ContainerStatus}

/-- The reason as the code gives it: a missing signal is not 0. -/
def codeSummary (container : V1ContainerStatus) : Option String :=
  if container.LacksSignal then some "Signal: None" else container.summary

theorem summary_of_lacksSignal (h : container.LacksSignal) :
    ∃ exitCode : Int, container.summary = some s!"ExitCode: {exitCode}" := by
  obtain ⟨hwaits, hterminated⟩ := h
  cases hstate : container.state.terminated with
  | none => simp [hstate] at hterminated
  | some terminated =>
      use terminated.exitCode
      simp_all [summary]

/-- The code gives a reason where the algorithm does. -/
theorem isSome_codeSummary (container : V1ContainerStatus) :
    container.codeSummary.isSome = container.summary.isSome := by
  unfold codeSummary
  split_ifs with h
  · obtain ⟨exitCode, hsummary⟩ := summary_of_lacksSignal h
    rw [hsummary]
    rfl
  · rfl

/-- The code's test of what the container waits for. -/
theorem waiting_bind :
    (container.state.waiting.bind fun r => if r = some "" then none else r) =
      if container.waitsFor ≠ "" then some container.waitsFor else none := by
  unfold waitsFor
  rcases container.state.waiting with _ | _ | reason
  · rfl
  · rfl
  · by_cases hreason : reason = "" <;> simp [hreason]

/-- One round of the loop. -/
theorem containerReason_eq (reason : Option String) (hasRunning : Bool) :
    containerReason container reason hasRunning =
      (container.codeSummary.or reason, container.runs || hasRunning) := by
  unfold containerReason
  rw [waiting_bind]
  by_cases hwaits : container.waitsFor = ""
  · rcases hstate : container.state.terminated with _ | ⟨exitCode, signal, tReason⟩
    · -- neither waiting for something named nor terminated
      have hnone : container.summary = none := by simp [summary, hwaits, hstate]
      have hlacks : ¬ container.LacksSignal := by simp [LacksSignal, hstate]
      simp [codeSummary, hlacks, hnone, runs, hwaits, Bool.or_comm]
    · have hruns : container.runs = false := by simp [runs, summary, hwaits, hstate]
      by_cases hreason : tReason.getD "" = ""
      · have hempty : ¬ (tReason ≠ none ∧ tReason ≠ some "") := by
          rcases tReason with _ | tReason <;> simp_all
        rcases signal with _ | signal
        · simp [hwaits, codeSummary, LacksSignal, hstate, hruns, hreason, hempty]
        · by_cases hzero : signal = 0
          · simp [hwaits, codeSummary, LacksSignal, summary, hstate, hruns, hreason, hempty, hzero]
          · simp [hwaits, codeSummary, LacksSignal, summary, hstate, hruns, hreason, hempty, hzero]
            rfl
      · obtain ⟨tReason, rfl, hne⟩ : ∃ r, tReason = some r ∧ r ≠ "" := by
          rcases tReason with _ | tReason <;> simp_all
        simp [hwaits, codeSummary, LacksSignal, summary, hstate, hruns, hne]
  · have hsummary : container.summary = some container.waitsFor := by simp [summary, hwaits]
    have hlacks : ¬ container.LacksSignal := fun h => hwaits h.1
    simp [codeSummary, hlacks, hsummary, runs, hwaits]

end V1ContainerStatus

/-- The loop goes from the last container to the first, so that the first reason stays. -/
theorem foldl_containerReason (statuses : List V1ContainerStatus) (reason : Option String) :
    statuses.reverse.foldl (fun acc container => containerReason container acc.1 acc.2)
        (reason, false) =
      ((statuses.findSome? V1ContainerStatus.codeSummary).or reason,
        statuses.any V1ContainerStatus.runs) := by
  rw [List.foldl_reverse]
  induction statuses with
  | nil => rfl
  | cons container statuses ih =>
      rw [List.foldr_cons, ih, V1ContainerStatus.containerReason_eq, List.findSome?_cons,
        List.any_cons]
      cases container.codeSummary <;> rfl

/-- The first reason is that of the first container that gives one. -/
theorem findSome?_eq_deciding {f : V1ContainerStatus → Option String}
    (h : ∀ container, (f container).isSome = container.summary.isSome) (pod : V1Pod) :
    pod.statuses.findSome? f = pod.deciding.bind f := by
  unfold V1Pod.deciding
  induction pod.statuses with
  | nil => rfl
  | cons container statuses ih =>
      rw [List.findSome?_cons, List.find?_cons, ← h container]
      cases hf : f container with
      | none => simpa using ih
      | some reason => simp [hf]

/-! ## The status -/

section Status

variable {pod : V1Pod}

/-- The last part of the code: a deletion, and the length of the reason. -/
def V1Pod.closing (pod : V1Pod) (reason : Option String) : Except PyError String :=
  let reason :=
    if pod.Deleted then
      if pod.status.reason = some "NodeLost" then some "Unknown" else some "Terminating"
    else reason
  match reason with
  | none => throw (.typeError "object of type 'NoneType' has no len()")
  | some "" => return "Unknown"
  | some reason => return reason

theorem closing_eq_ok_iff {reason : Option String} {status : String} :
    pod.closing reason = .ok status ↔
      (pod.Deleted ∨ reason ≠ none) ∧ status = pod.overridden (reason.getD "") := by
  unfold V1Pod.closing V1Pod.overridden
  by_cases hdeleted : pod.Deleted
  · have hok : ∀ text : String, (Except.ok text : Except PyError String) = .ok status ↔
        (pod.Deleted ∨ reason ≠ none) ∧ status = text :=
      fun text => ⟨fun h => ⟨.inl hdeleted, (Except.ok.inj h).symm⟩, fun h => congrArg _ h.2.symm⟩
    simp only [if_pos hdeleted]
    split_ifs
    · exact hok "Unknown"
    · exact hok "Terminating"
  · simp only [hdeleted, if_false, false_or]
    split
    · simp [throw, throwThe, MonadExceptOf.throw]
    · simp [pure, Except.pure, eq_comm]
    case h_3 reason hne =>
      have hne : reason ≠ "" := hne
      rw [Option.getD_some, if_neg hne]
      simp [pure, Except.pure, eq_comm]

/-- The part after the loops. -/
def V1Pod.afterLoops (pod : V1Pod) (reason : Option String) (hasRunning : Bool) :
    Except PyError String := do
  let reason ←
    if reason = some "Completed" ∧ hasRunning then do
      pure (some (if ← hasReadyCondition pod.status.conditions then "Running" else "NotReady"))
    else pure reason
  pod.closing reason

theorem getPodStatus_eq (pod : V1Pod) :
    getPodStatus pod = (do
      let out ← initReason pod 0 pod.initStatuses pod.ownReason
      let last := if out.2 then (out.1, false) else pod.statuses.reverse.foldl
        (fun acc container => containerReason container acc.1 acc.2) (out.1, false)
      pod.afterLoops last.1 last.2) := rfl

theorem overridden_eq_iff {reason summary : String} (hreason : reason ≠ "")
    (hsummary : summary ≠ "") :
    pod.overridden summary = pod.overridden reason ↔ pod.Deleted ∨ summary = reason := by
  unfold V1Pod.overridden
  by_cases hdeleted : pod.Deleted <;> simp [hdeleted, hreason, hsummary]

theorem init_append_count (i n : Nat) : "Init:" ++ s!" {i}/{n}" = s!"Init: {i}/{n}" := by
  have hlabel : "Init: " = "Init:" ++ " " := by decide
  simp only [hlabel, toString, String.append_assoc]

/-- The count goes on with a digit. -/
theorem ne_count {text : String} {c : Char} {rest : List Char}
    (h : text.toList = "Init: ".toList ++ c :: rest) (hc : c.isDigit = false) (i n : Nat) :
    text ≠ s!"Init: {i}/{n}" := by
  rintro rfl
  simp only [toString, String.toList_append, List.append_assoc, List.append_cancel_left_eq,
    Nat.toList_repr] at h
  obtain ⟨d, digits, hdigits⟩ := List.exists_cons_of_ne_nil (Nat.toDigits_ne_nil (n := i) (b := 10))
  have hd : d.isDigit = true :=
    Nat.isDigit_of_mem_toDigits (by decide) (by decide) (hdigits ▸ List.mem_cons_self)
  rw [hdigits, List.cons_append, List.cons.injEq] at h
  rw [h.1, hc] at hd
  contradiction

/-- The summary of an init container that can be read is the count if it did not fail, or if
    its reason ends like the count. -/
theorem initSummary_eq_count_iff {container : V1ContainerStatus} {i : Nat}
    (h : container.Readable pod) :
    container.initSummary i pod.initCount = s!"Init: {i}/{pod.initCount}" ↔
      ∀ terminated, container.state.terminated = some terminated →
        terminated.reason = some s!" {i}/{pod.initCount}" := by
  obtain ⟨hwaiting, hreason, -⟩ := h
  have hwaits : container.waitsFor = "" := by simp [V1ContainerStatus.waitsFor, hwaiting]
  unfold V1ContainerStatus.initSummary
  rcases hstate : container.state.terminated with _ | ⟨exitCode, signal, reason⟩
  · simp [hwaits]
  · obtain ⟨reason, rfl⟩ := Option.ne_none_iff_exists'.mp (hreason _ hstate)
    have hiff : reason = s!" {i}/{pod.initCount}" ↔ ∀ terminated,
        some (V1ContainerStateTerminated.mk exitCode signal (some reason)) = some terminated →
          terminated.reason = some s!" {i}/{pod.initCount}" := by
      simp
    rw [← hiff]
    by_cases hempty : reason = ""
    · -- neither the signal nor the exit code reads like the count, nor does the empty text
      have hcount : reason ≠ s!" {i}/{pod.initCount}" := by
        intro h
        have h := congrArg String.toList (hempty.symm.trans h)
        simp [toString] at h
      refine iff_of_false ?_ hcount
      simp only [hempty, Option.getD_some, ne_eq, not_true_eq_false, if_false]
      by_cases hsignal : signal.getD 0 = 0
      · rw [if_neg (not_not_intro hsignal)]
        exact ne_count (c := 'E') (by simp [toString]; rfl) (by decide) i pod.initCount
      · rw [if_pos hsignal]
        exact ne_count (c := 'S') (by simp [toString]; rfl) (by decide) i pod.initCount
    · simp only [Option.getD_some, ne_eq, hempty, not_false_eq_true, if_true]
      rw [← init_append_count, String.append_right_inj]

theorem initSummary_ne_empty (container : V1ContainerStatus) (i n : Nat) :
    container.initSummary i n ≠ "" := by
  intro h
  have h := congrArg String.toList h
  unfold V1ContainerStatus.initSummary at h
  split at h <;> split_ifs at h <;> simp [toString] at h

/-- At an init container the code gives the count, unless it raises. -/
theorem getPodStatus_of_pending {container : V1ContainerStatus} {i : Nat}
    (h : pod.pendingInit = some (container, i)) :
    getPodStatus pod = .ok (podStatus pod) ↔ pod.Summarised := by
  have hstatus : podStatus pod = pod.overridden (container.initSummary i pod.initCount) := by
    rw [podStatus, V1Pod.summary, h]
  have hcount : s!"Init: {i}/{pod.initCount}" ≠ "" := by
    intro h
    have h := congrArg String.toList h
    simp [toString] at h
  have hloops (reason : Option String) : pod.afterLoops reason false = pod.closing reason := by
    simp [V1Pod.afterLoops]
  rw [V1Pod.Summarised, h, hstatus, getPodStatus_eq, Fallible.bind_eq_ok_iff]
  simp only [initReason_of_some h, and_assoc, exists_and_left, exists_eq_left, if_true, hloops,
    closing_eq_ok_iff]
  apply and_congr_right
  intro hreadable
  rw [← initSummary_eq_count_iff hreadable, Option.getD_some,
    overridden_eq_iff hcount (initSummary_ne_empty container i pod.initCount)]
  simp

theorem afterLoops_of_completed (pod : V1Pod) :
    pod.afterLoops (some "Completed") true = (do
      let ready ← hasReadyCondition pod.status.conditions
      pod.closing (some (if ready then "Running" else "NotReady"))) := by
  rw [V1Pod.afterLoops, if_pos ⟨rfl, rfl⟩]
  cases hasReadyCondition pod.status.conditions <;> rfl

theorem afterLoops_of_not {reason : Option String} {hasRunning : Bool}
    (h : ¬ (reason = some "Completed" ∧ hasRunning = true)) :
    pod.afterLoops reason hasRunning = pod.closing reason := by
  rw [V1Pod.afterLoops, if_neg h]
  rfl

/-- The part after the loops, at the reason of the algorithm. -/
theorem afterLoops_eq_ok_iff (h : pod.pendingInit = none) :
    pod.afterLoops pod.statusesReason (pod.statuses.any V1ContainerStatus.runs) =
        .ok (podStatus pod) ↔
      (pod.StillRuns → pod.status.conditions ≠ none) ∧
        (pod.Deleted ∨ pod.statusesReason ≠ none) := by
  have hsummary : pod.summary = if pod.StillRuns then
      if (pod.status.conditions.getD []).any fun c => c.type = "Ready" && c.status = "True" then
        "Running"
      else "NotReady"
    else pod.statusesReason.getD "" := by
    rw [V1Pod.summary, h]
  rw [podStatus, hsummary]
  by_cases hruns : pod.StillRuns
  · rw [if_pos hruns, hruns.1, hruns.2, afterLoops_of_completed]
    cases hconditions : pod.status.conditions with
    | none => simp [hasReadyCondition, iterate, hruns, bind, Except.bind]
    | some conditions =>
        change pod.closing _ = _ ↔ _
        simp [closing_eq_ok_iff]
  · rw [if_neg hruns, afterLoops_of_not hruns, closing_eq_ok_iff]
    simp [hruns]

theorem exitCode_ne {text : String} (h : text.toList.head? ≠ some 'E') (exitCode : Int) :
    s!"ExitCode: {exitCode}" ≠ text := by
  rintro rfl
  exact h (by simp [toString])

/-- The reason of the code is that of the algorithm, but for a missing signal. -/
theorem getPodStatus_of_initialized (h : pod.pendingInit = none) :
    getPodStatus pod = .ok (podStatus pod) ↔ pod.Summarised := by
  have hinit : initReason pod 0 pod.initStatuses pod.ownReason = .ok (pod.ownReason, false) := by
    apply initReason_of_none
    intro container hmem
    obtain ⟨i, hi⟩ := List.mem_iff_getElem?.mp hmem
    have hpending := List.find?_eq_none.mp h (container, i) (List.mk_mem_zipIdx_iff_getElem?.mpr hi)
    simpa using hpending
  have hcode : getPodStatus pod = pod.afterLoops
      ((pod.deciding.bind V1ContainerStatus.codeSummary).or pod.ownReason)
      (pod.statuses.any V1ContainerStatus.runs) := by
    rw [← findSome?_eq_deciding V1ContainerStatus.isSome_codeSummary, getPodStatus_eq, hinit]
    change (fun last : Option String × Bool => pod.afterLoops last.1 last.2)
      (pod.statuses.reverse.foldl (fun acc container => containerReason container acc.1 acc.2)
        (pod.ownReason, false)) = _
    rw [foldl_containerReason]
  rw [hcode, V1Pod.Summarised, h]
  -- a missing signal is told as `Signal: None`, where the algorithm has the exit code
  by_cases hlacks : ∃ container, pod.deciding = some container ∧ container.LacksSignal
  · obtain ⟨container, hdeciding, hlacks⟩ := hlacks
    obtain ⟨exitCode, hexitCode⟩ := V1ContainerStatus.summary_of_lacksSignal hlacks
    have hcodeSummary : container.codeSummary = some "Signal: None" := if_pos hlacks
    have hreason : pod.statusesReason = some s!"ExitCode: {exitCode}" := by
      rw [V1Pod.statusesReason, hdeciding, Option.bind_some, hexitCode, Option.some_or]
    have hnotRuns : ¬ pod.StillRuns := fun hruns =>
      exitCode_ne (by decide) exitCode (Option.some.inj (hreason.symm.trans hruns.1))
    have hstatus : podStatus pod = pod.overridden s!"ExitCode: {exitCode}" := by
      rw [podStatus, V1Pod.summary, h]
      simp only [if_neg hnotRuns, hreason, Option.getD_some]
    have hsignal : s!"ExitCode: {exitCode}" ≠ "Signal: None" := exitCode_ne (by decide) exitCode
    rw [hdeciding, Option.bind_some, hcodeSummary, Option.some_or,
      afterLoops_of_not (by simp), closing_eq_ok_iff, hstatus, Option.getD_some,
      overridden_eq_iff (by decide) (exitCode_ne (by decide) exitCode), or_iff_left hsignal]
    simp [hnotRuns, hlacks]
  · push Not at hlacks
    have hsame : pod.deciding.bind V1ContainerStatus.codeSummary =
        pod.deciding.bind V1ContainerStatus.summary := by
      cases hdeciding : pod.deciding with
      | none => rfl
      | some container => exact if_neg (hlacks container hdeciding)
    rw [hsame, and_iff_left hlacks]
    exact afterLoops_eq_ok_iff h

/-- For every pod object, the code returns the status of the cited algorithm exactly if the pod
    is one that it summarises. -/
theorem getPodStatus_eq_iff (pod : V1Pod) :
    getPodStatus pod = .ok (podStatus pod) ↔ pod.Summarised := by
  cases h : pod.pendingInit with
  | none => exact getPodStatus_of_initialized h
  | some pending => exact getPodStatus_of_pending h

end Status

/-- A pod with one init container that crashes again and again; the code raises. -/
def crashingPod : V1Pod where
  metadata := { name := "arkime" }
  spec := { initContainers := some [{ name := "init" }] }
  status := {
    phase := some "Pending"
    initContainerStatuses := some [{
      name := "init"
      restartCount := 3
      ready := false
      state := { waiting := some (some "CrashLoopBackOff") } }] }

theorem getPodStatus_crashing :
    podStatus crashingPod = "Init: CrashLoopBackOff" ∧
      ¬ ∀ pod : V1Pod, getPodStatus pod = .ok (podStatus pod) := by
  refine ⟨by decide, fun h => ?_⟩
  have hraises : getPodStatus crashingPod =
      .error (.attributeError "'V1ContainerStatus' object has no attribute 'sate'") := rfl
  rw [h crashingPod] at hraises
  contradiction

end Tfplenum
