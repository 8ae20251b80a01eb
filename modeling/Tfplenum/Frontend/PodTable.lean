/-
  Tfplenum.Frontend.PodTable

  The groups of `pod-table.component.ts`: the pods by node, each group with the status of
  its worst pod.

  `reduce` has no initial value, so that the status of a group with several pods is that of
  the worst but the first (`groups_tell_iff`); and the groups are collected in a plain
  object, whose inherited members are in the way of nodes with their names.
-/

import Tfplenum.Lib.Fallible
import Tfplenum.Lib.Grouping

namespace Tfplenum

open Lib

namespace PodTable

/-! ## The component -/

/-- What the groups read of a pod; `null` is `none`. -/
structure PodStatusClass where
  name : String
  nodeName : Option String
  statusBrief : String
  warnings : Option Nat
deriving DecidableEq

/-- `POD_STATUS_VALUES` -/
def podStatusValues : List String := ["check_circle", "circle", "warning", "error", "sync_problem"]

/-- `UNASSIGNED` -/
def unassigned : String := "Unassigned"

/-- `is_pod_error_state_` -/
def isPodErrorState (sb : String) (warnings : Option Nat) : Bool :=
  (sb = "Failed" || sb = "Error") || warnings.any (0 < ·) &&
    (sb ≠ "Pending" && sb ≠ "NotReady" && sb ≠ "Terminating" && sb ≠ "Unknown" &&
      sb ≠ "ContainerCreating")

/-- `get_pod_icon_status_` -/
def getPodIconStatus (sb : String) (warnings : Option Nat) : String :=
  if sb = "Running" ∨ sb = "Succeeded" ∨ sb = "Completed" then "check_circle"
  else if sb = "Pending" ∨ sb = "ContainerCreating" then "warning"
  else if sb = "Terminating" then "circle"
  else if isPodErrorState sb warnings then "error"
  else "sync_problem"

/-- What `reduce` accumulates: without an initial value it begins with the first pod. -/
inductive GroupStatus where
  | pod (pod : PodStatusClass)
  | icon (status : String)

/-- `POD_STATUS_VALUES.indexOf` -/
def indexOf : GroupStatus → Int
  | .pod _ => -1
  | .icon status => match podStatusValues.idxOf? status with
      | some i => i
      | none => -1

inductive JsError where
  | typeError (message : String)

/-- `generate_group_status_`, for the group at the index -/
def generateGroupStatus : List PodStatusClass → Except JsError GroupStatus
  | [pod] => .ok (.icon (getPodIconStatus pod.statusBrief pod.warnings))
  | [] => .error (.typeError "Reduce of empty array with no initial value")
  | first :: pods => .ok (pods.foldl (fun status pod =>
      let podStatus := GroupStatus.icon (getPodIconStatus pod.statusBrief pod.warnings)
      if indexOf podStatus > indexOf status then podStatus else status) (.pod first))

/-- The members that a plain object inherits; each is there and has no `push`. -/
def objectPrototype : List String :=
  ["constructor", "__defineGetter__", "__defineSetter__", "hasOwnProperty", "__lookupGetter__",
    "__lookupSetter__", "isPrototypeOf", "propertyIsEnumerable", "toString", "valueOf",
    "__proto__", "toLocaleString"]

/-- `current_group` -/
def PodStatusClass.currentGroup (pod : PodStatusClass) : String := pod.nodeName.getD unassigned

/-- `group_reducer` -/
def groupReducer (accumulator : Table String (List PodStatusClass))
    (currentValue : PodStatusClass) : Except JsError (Table String (List PodStatusClass)) :=
  if accumulator.get? currentValue.currentGroup = none ∧
      currentValue.currentGroup ∈ objectPrototype then
    .error (.typeError "accumulator[current_group].push is not a function")
  else .ok (Grouping.push accumulator currentValue.currentGroup currentValue)

structure GroupData where
  groupName : String
  groupStatus : GroupStatus

structure GroupTables where
  filteredGroupData : List (List PodStatusClass)
  groupData : List GroupData

section

variable (localeCompare : String → String → Int)

/-- `generate_groups_`; the names are sorted by `localeCompare`. -/
def generateGroups (pods : Option (List PodStatusClass)) : Except JsError GroupTables :=
  match pods with
  | none => .ok ⟨[], []⟩
  | some pods => do
      let groups ← pods.foldlM groupReducer Table.empty
      let groupNames := (groups.rows.map Prod.fst).mergeSort fun a b => localeCompare a b ≤ 0
      let filteredGroupData := groupNames.map (Grouping.group groups)
      let groupData ← (groupNames.zip filteredGroupData).mapM fun (groupName, pods) => do
        return { groupName, groupStatus := ← generateGroupStatus pods : GroupData }
      return { filteredGroupData, groupData }

/-! ## What the table tells -/

def PodStatusClass.severity (pod : PodStatusClass) : Int :=
  indexOf (.icon (getPodIconStatus pod.statusBrief pod.warnings))

/-- The status of one of the pods, none being worse. -/
def IsWorst (status : String) (pods : List PodStatusClass) : Prop :=
  (∃ pod ∈ pods, getPodIconStatus pod.statusBrief pod.warnings = status) ∧
    ∀ pod ∈ pods, pod.severity ≤ indexOf (.icon status)

/-- The groups are a partition of the pods by node, each with the worst status of its pods. -/
structure Tells (tables : GroupTables) (pods : List PodStatusClass) : Prop where
  partition : tables.filteredGroupData.flatten.Perm pods
  nonempty : [] ∉ tables.filteredGroupData
  nodes : ∀ group ∈ tables.filteredGroupData, ∀ pod ∈ group, ∀ other ∈ pods,
    other ∈ group ↔ other.nodeName = pod.nodeName
  statuses : List.Forall₂
    (fun group data => ∃ status, data.groupStatus = .icon status ∧ IsWorst status group)
    tables.filteredGroupData tables.groupData

/-- The table that is shown for the pods tells their groups. -/
def Right (pods : List PodStatusClass) : Prop :=
  ∃ tables, generateGroups localeCompare (some pods) = .ok tables ∧ Tells tables pods

end

/-- The pods of a group, in their order. -/
def groupOf (pods : List PodStatusClass) (name : String) : List PodStatusClass :=
  pods.filter fun pod => pod.currentGroup = name

/-- No node has the name of an inherited member, or of the group for pods without a node if
    there are such. -/
def Groupable (pods : List PodStatusClass) : Prop :=
  (∀ pod ∈ pods, pod.currentGroup ∉ objectPrototype) ∧
    ((∃ pod ∈ pods, pod.nodeName = none) → ∀ pod ∈ pods, pod.nodeName ≠ some unassigned)

/-- The first of several pods is not worse than all the others. -/
def FirstCovered : List PodStatusClass → Prop
  | first :: second :: pods => ∃ pod ∈ second :: pods, first.severity ≤ pod.severity
  | _ => True

/-- Of several pods, two have the worst status. -/
def WorstTwice (pods : List PodStatusClass) : Prop :=
  pods.length ≤ 1 ∨ ∃ status, IsWorst status pods ∧
    2 ≤ (pods.map fun pod => getPodIconStatus pod.statusBrief pod.warnings).count status

/-! ## One group -/

variable {pods : List PodStatusClass}

/-- Every status of a pod is among the values. -/
theorem severity_nonneg (pod : PodStatusClass) : 0 ≤ pod.severity := by
  unfold PodStatusClass.severity getPodIconStatus
  split_ifs <;> decide

/-- A round of `reduce` takes the status that is worse. -/
theorem foldl_status (status : String) (pods : List PodStatusClass) :
    ∃ worst, pods.foldl (fun status pod =>
        let podStatus := GroupStatus.icon (getPodIconStatus pod.statusBrief pod.warnings)
        if indexOf podStatus > indexOf status then podStatus else status) (.icon status) =
          .icon worst ∧
      (worst = status ∨ ∃ pod ∈ pods, getPodIconStatus pod.statusBrief pod.warnings = worst) ∧
      indexOf (.icon status) ≤ indexOf (.icon worst) ∧
      ∀ pod ∈ pods, pod.severity ≤ indexOf (.icon worst) := by
  induction pods generalizing status with
  | nil => exact ⟨status, rfl, .inl rfl, Int.le_refl _, by simp⟩
  | cons pod pods ih =>
      rw [List.foldl_cons]
      simp only [List.exists_mem_cons_iff, List.forall_mem_cons]
      by_cases hworse : indexOf (.icon (getPodIconStatus pod.statusBrief pod.warnings)) >
          indexOf (.icon status)
      · rw [if_pos hworse]
        obtain ⟨worst, hfold, hmem, hfrom, hrest⟩ :=
          ih (getPodIconStatus pod.statusBrief pod.warnings)
        have hbelow : indexOf (.icon status) ≤ indexOf (.icon worst) := by omega
        exact ⟨worst, hfold, .inr (hmem.imp Eq.symm id), hbelow, hfrom, hrest⟩
      · rw [if_neg hworse]
        obtain ⟨worst, hfold, hmem, hfrom, hrest⟩ := ih status
        have hbelow : pod.severity ≤ indexOf (.icon worst) := by
          unfold PodStatusClass.severity
          omega
        exact ⟨worst, hfold, hmem.imp id .inr, hfrom, hbelow, hrest⟩

/-- The status of a group: of the only pod, or the worst but for the first. -/
theorem generateGroupStatus_spec (h : pods ≠ []) :
    ∃ status, generateGroupStatus pods = .ok (.icon status) ∧
      (IsWorst status pods ↔ FirstCovered pods) := by
  match pods with
  | [pod] =>
      refine ⟨_, rfl, iff_of_true ⟨⟨pod, List.mem_cons_self, rfl⟩, ?_⟩ trivial⟩
      intro other hother
      rw [List.mem_singleton.mp hother]
      exact Int.le_refl _
  | first :: second :: pods =>
      obtain ⟨worst, hfold, hmem, hfrom, hrest⟩ :=
        foldl_status (getPodIconStatus second.statusBrief second.warnings) pods
      have hsecond : indexOf (.icon (getPodIconStatus second.statusBrief second.warnings)) >
          indexOf (.pod first) :=
        Int.lt_of_lt_of_le (Int.negSucc_lt_zero 0) (severity_nonneg second)
      -- the first pod is below every status, so that the second takes its place
      have hstatus : generateGroupStatus (first :: second :: pods) = .ok (.icon worst) := by
        rw [generateGroupStatus, List.foldl_cons, if_pos hsecond, hfold]
        simp
      have hworst : ∃ pod ∈ second :: pods,
          getPodIconStatus pod.statusBrief pod.warnings = worst := by
        rw [List.exists_mem_cons_iff]
        exact hmem.imp Eq.symm id
      refine ⟨worst, hstatus, ?_, ?_⟩
      · -- all are at most as bad as the worst of the rest
        intro hall
        obtain ⟨pod, hmem, hpod⟩ := hworst
        have hfirst := hall.2 first List.mem_cons_self
        rw [← hpod] at hfirst
        exact ⟨pod, hmem, hfirst⟩
      · rintro ⟨pod, hmem, hcovered⟩
        have hothers : ∀ pod ∈ second :: pods, pod.severity ≤ indexOf (.icon worst) :=
          List.forall_mem_cons.mpr ⟨hfrom, hrest⟩
        obtain ⟨other, hother, hicon⟩ := hworst
        have hfirst : first.severity ≤ indexOf (.icon worst) := by
          have hpod := hothers pod hmem
          omega
        exact ⟨⟨other, List.mem_cons_of_mem _ hother, hicon⟩,
          List.forall_mem_cons.mpr ⟨hfirst, hothers⟩⟩

/-! ## All groups -/

section Groups

variable {localeCompare : String → String → Int} {tables : GroupTables}
  {accumulator : Table String (List PodStatusClass)}

/-- No member is in the way, so the pods are collected under their groups. -/
theorem foldlM_groupReducer (h : ∀ pod ∈ pods, pod.currentGroup ∉ objectPrototype) :
    pods.foldlM groupReducer accumulator =
      .ok (Grouping.pushAll PodStatusClass.currentGroup accumulator pods) := by
  induction pods generalizing accumulator with
  | nil => rfl
  | cons pod pods ih =>
      rw [List.forall_mem_cons] at h
      have hstep : groupReducer accumulator pod =
          .ok (Grouping.push accumulator pod.currentGroup pod) := if_neg fun hin => h.1 hin.2
      rw [List.foldlM_cons, hstep]
      exact ih h.2

/-- A member that is in the way stops the reduction. -/
theorem notMem_objectPrototype_of_foldlM {groups : Table String (List PodStatusClass)}
    (hkeys : ∀ key ∈ accumulator.rows.map Prod.fst, key ∉ objectPrototype)
    (h : pods.foldlM groupReducer accumulator = .ok groups) :
    ∀ pod ∈ pods, pod.currentGroup ∉ objectPrototype := by
  induction pods generalizing accumulator with
  | nil => simp
  | cons pod pods ih =>
      rw [List.foldlM_cons, Fallible.bind_eq_ok_iff] at h
      obtain ⟨next, hnext, hrest⟩ := h
      rw [groupReducer] at hnext
      split_ifs at hnext with hin
      have hpod : pod.currentGroup ∉ objectPrototype := by
        intro hproto
        have hsome : accumulator.get? pod.currentGroup ≠ none := fun hnone => hin ⟨hnone, hproto⟩
        have hkey := Table.isSome_get?_iff.mp (Option.isSome_iff_ne_none.mpr hsome)
        exact hkeys _ hkey hproto
      refine List.forall_mem_cons.mpr ⟨hpod, ih ?_ hrest⟩
      intro key hkey
      rw [← Except.ok.inj hnext, Grouping.mem_keys_push] at hkey
      rcases hkey with rfl | hkey
      · exact hpod
      · exact hkeys key hkey

/-- The names of the groups, as they are sorted. -/
def groupNames (localeCompare : String → String → Int) (pods : List PodStatusClass) :
    List String :=
  ((Grouping.pushAll PodStatusClass.currentGroup Table.empty pods).rows.map Prod.fst).mergeSort
    fun a b => localeCompare a b ≤ 0

theorem nodup_groupNames : (groupNames localeCompare pods).Nodup :=
  (List.mergeSort_perm _ _).nodup_iff.mpr (Table.nodup _)

theorem mem_groupNames {name : String} :
    name ∈ groupNames localeCompare pods ↔ ∃ pod ∈ pods, pod.currentGroup = name := by
  rw [groupNames, (List.mergeSort_perm _ _).mem_iff, Grouping.mem_keys_pushAll]
  simp [Table.empty]

theorem group_pushAll_empty (name : String) :
    Grouping.group (Grouping.pushAll PodStatusClass.currentGroup Table.empty pods) name =
      groupOf pods name := by
  rw [Grouping.group_pushAll]
  rfl

/-- The entry of a group, with its status. -/
theorem groupData_eq_ok_iff {name : String} {data : GroupData} :
    (do return { groupName := name,
                 groupStatus := ← generateGroupStatus (groupOf pods name) : GroupData } :
        Except JsError GroupData) = .ok data ↔
      data.groupName = name ∧ generateGroupStatus (groupOf pods name) = .ok data.groupStatus := by
  obtain ⟨groupName, groupStatus⟩ := data
  cases generateGroupStatus (groupOf pods name) <;>
    simp [bind, Except.bind, pure, Except.pure, eq_comm]

/-- Where no member is in the way, the pods are collected by their group names. -/
theorem generateGroups_of_groupable (hproto : ∀ pod ∈ pods, pod.currentGroup ∉ objectPrototype) :
    generateGroups localeCompare (some pods) = (do
      let names := groupNames localeCompare pods
      let groupData ← (names.zip (names.map (groupOf pods))).mapM fun (groupName, pods) => do
        return { groupName, groupStatus := ← generateGroupStatus pods : GroupData }
      return { filteredGroupData := names.map (groupOf pods), groupData }) := by
  have hgroup : groupOf pods =
      Grouping.group (Grouping.pushAll PodStatusClass.currentGroup Table.empty pods) :=
    funext fun name => (group_pushAll_empty name).symm
  rw [generateGroups, foldlM_groupReducer hproto, hgroup]
  rfl

/-- The entries of all groups -/
theorem groupEntries_eq_ok_iff {names : List String} {groupData : List GroupData} :
    ((names.zip (names.map (groupOf pods))).mapM fun (groupName, pods) => do
        return { groupName, groupStatus := ← generateGroupStatus pods : GroupData }) =
        .ok groupData ↔
      List.Forall₂ (fun name data => data.groupName = name ∧
        generateGroupStatus (groupOf pods name) = .ok data.groupStatus) names groupData := by
  rw [← List.map_prod_left_eq_zip, Fallible.mapM_eq_ok_iff, List.forall₂_map_left_iff]
  simp only [groupData_eq_ok_iff]

/-- The table has a group for each group name of a pod, with the pods that have it. -/
theorem generateGroups_eq_ok_iff :
    generateGroups localeCompare (some pods) = .ok tables ↔
      (∀ pod ∈ pods, pod.currentGroup ∉ objectPrototype) ∧
      tables.filteredGroupData = (groupNames localeCompare pods).map (groupOf pods) ∧
      List.Forall₂ (fun name data => data.groupName = name ∧
        generateGroupStatus (groupOf pods name) = .ok data.groupStatus)
        (groupNames localeCompare pods) tables.groupData := by
  constructor
  · intro h
    have hproto : ∀ pod ∈ pods, pod.currentGroup ∉ objectPrototype := by
      rw [generateGroups, Fallible.bind_eq_ok_iff] at h
      obtain ⟨groups, hgroups, -⟩ := h
      exact notMem_objectPrototype_of_foldlM (by simp [Table.empty]) hgroups
    rw [generateGroups_of_groupable hproto, Fallible.bind_eq_ok_iff] at h
    obtain ⟨groupData, hdata, htables⟩ := h
    rw [← Except.ok.inj htables]
    exact ⟨hproto, rfl, groupEntries_eq_ok_iff.mp hdata⟩
  · rintro ⟨hproto, hfiltered, hdata⟩
    rw [generateGroups_of_groupable hproto, Fallible.bind_eq_ok_iff]
    refine ⟨tables.groupData, groupEntries_eq_ok_iff.mpr hdata, ?_⟩
    rw [← hfiltered]
    rfl

theorem groupOf_ne_nil_iff {name : String} :
    groupOf pods name ≠ [] ↔ name ∈ groupNames localeCompare pods := by
  simp [groupOf, mem_groupNames, List.filter_eq_nil_iff]

/-- Without a member in the way, there is a table. -/
theorem exists_generateGroups (h : ∀ pod ∈ pods, pod.currentGroup ∉ objectPrototype) :
    ∃ tables, generateGroups localeCompare (some pods) = .ok tables := by
  have hdata : ∀ name ∈ groupNames localeCompare pods, ∃ data : GroupData,
      (do return { groupName := name,
                   groupStatus := ← generateGroupStatus (groupOf pods name) : GroupData } :
          Except JsError GroupData) = .ok data := by
    intro name hname
    obtain ⟨status, hstatus, -⟩ := generateGroupStatus_spec (groupOf_ne_nil_iff.mpr hname)
    exact ⟨⟨name, .icon status⟩, groupData_eq_ok_iff.mpr ⟨rfl, hstatus⟩⟩
  obtain ⟨groupData, hgroupData⟩ := Fallible.exists_mapM_eq_ok hdata
  rw [Fallible.mapM_eq_ok_iff] at hgroupData
  simp only [groupData_eq_ok_iff] at hgroupData
  exact ⟨⟨_, groupData⟩, generateGroups_eq_ok_iff.mpr ⟨h, rfl, hgroupData⟩⟩

/-- Where the group for pods without a node is no node's, groups are nodes. -/
theorem currentGroup_iff :
    ((∃ pod ∈ pods, pod.nodeName = none) → ∀ pod ∈ pods, pod.nodeName ≠ some unassigned) ↔
      ∀ pod ∈ pods, ∀ other ∈ pods,
        other.currentGroup = pod.currentGroup ↔ other.nodeName = pod.nodeName := by
  constructor
  · intro h pod hpod other hother
    unfold PodStatusClass.currentGroup
    cases hnode : pod.nodeName with
    | none =>
        cases hnode' : other.nodeName with
        | none => simp
        | some node =>
            have hne := h ⟨pod, hpod, hnode⟩ other hother
            simpa [hnode'] using hne
    | some node =>
        cases hnode' : other.nodeName with
        | none =>
            have hne := h ⟨other, hother, hnode'⟩ pod hpod
            simpa [hnode, eq_comm] using hne
        | some node' => simp
  · rintro h ⟨pod, hpod, hnone⟩ other hother hsome
    have hsame := (h pod hpod other hother).mp (by simp [PodStatusClass.currentGroup, hnone, hsome])
    rw [hnone, hsome] at hsame
    contradiction

/-- Each group has the worst status of its pods exactly if its first pod is not worse than all
    others. -/
theorem statuses_iff (h : generateGroups localeCompare (some pods) = .ok tables) :
    List.Forall₂ (fun group data => ∃ status, data.groupStatus = .icon status ∧
        IsWorst status group) tables.filteredGroupData tables.groupData ↔
      ∀ name, FirstCovered (groupOf pods name) := by
  obtain ⟨-, hfiltered, hdata⟩ := generateGroups_eq_ok_iff.mp h
  rw [hfiltered, List.forall₂_map_left_iff, Fallible.forall₂_iff_forall_mem hdata]
  · constructor
    · intro hcovered name
      by_cases hname : name ∈ groupNames localeCompare pods
      · exact hcovered name hname
      · -- there is no such group
        rw [← groupOf_ne_nil_iff, not_not] at hname
        rw [hname]
        trivial
    · exact fun hcovered name _ => hcovered name
  · rintro name hname data ⟨-, hstatus⟩
    obtain ⟨status, hspec, hiff⟩ := generateGroupStatus_spec (groupOf_ne_nil_iff.mpr hname)
    rw [← hiff, ← Except.ok.inj (hspec.symm.trans hstatus)]
    simp

/-- What the table tells, it tells of each group. -/
theorem tells_iff (h : generateGroups localeCompare (some pods) = .ok tables) :
    Tells tables pods ↔
      ((∃ pod ∈ pods, pod.nodeName = none) → ∀ pod ∈ pods, pod.nodeName ≠ some unassigned) ∧
        ∀ name, FirstCovered (groupOf pods name) := by
  obtain ⟨-, hfiltered, -⟩ := generateGroups_eq_ok_iff.mp h
  rw [currentGroup_iff]
  constructor
  · intro htells
    refine ⟨?_, (statuses_iff h).mp htells.statuses⟩
    intro pod hpod other hother
    have hgroup : groupOf pods pod.currentGroup ∈ tables.filteredGroupData := by
      rw [hfiltered]
      exact List.mem_map_of_mem (mem_groupNames.mpr ⟨pod, hpod, rfl⟩)
    rw [← htells.nodes _ hgroup pod (by simp [groupOf, hpod]) other hother]
    simp [groupOf, hother]
  · rintro ⟨hnodes, hcovered⟩
    refine ⟨?_, ?_, ?_, (statuses_iff h).mpr hcovered⟩
    · rw [hfiltered, ← List.flatMap_def]
      exact Grouping.flatMap_filter_perm nodup_groupNames
        fun pod hpod => mem_groupNames.mpr ⟨pod, hpod, rfl⟩
    · rw [hfiltered, List.mem_map]
      rintro ⟨name, hname, hnil⟩
      exact groupOf_ne_nil_iff.mpr hname hnil
    · intro group hgroup pod hpod other hother
      rw [hfiltered, List.mem_map] at hgroup
      obtain ⟨name, -, rfl⟩ := hgroup
      rw [groupOf, List.mem_filter, decide_eq_true_eq] at hpod
      rw [← hnodes pod hpod.1 other hother, hpod.2]
      simp [groupOf, hother]

theorem right_iff :
    Right localeCompare pods ↔ Groupable pods ∧ ∀ name, FirstCovered (groupOf pods name) := by
  constructor
  · rintro ⟨tables, htables, htells⟩
    obtain ⟨hnodes, hcovered⟩ := (tells_iff htables).mp htells
    exact ⟨⟨(generateGroups_eq_ok_iff.mp htables).1, hnodes⟩, hcovered⟩
  · rintro ⟨⟨hproto, hnodes⟩, hcovered⟩
    obtain ⟨tables, htables⟩ : ∃ tables, generateGroups localeCompare (some pods) = .ok tables :=
      exists_generateGroups hproto
    exact ⟨tables, htables, (tells_iff htables).mpr ⟨hnodes, hcovered⟩⟩

end Groups

/-! ## Other orders -/

section Orders

variable {group : List PodStatusClass}

theorem exists_isWorst (h : group ≠ []) : ∃ status, IsWorst status group := by
  obtain ⟨pod, pods, rfl⟩ := List.exists_cons_of_ne_nil h
  obtain ⟨worst, -, hmem, hfrom, hrest⟩ :=
    foldl_status (getPodIconStatus pod.statusBrief pod.warnings) pods
  refine ⟨worst, ?_, List.forall_mem_cons.mpr ⟨hfrom, hrest⟩⟩
  rw [List.exists_mem_cons_iff]
  exact hmem.imp Eq.symm id

/-- Different statuses are at different places. -/
theorem icon_eq_of_severity_eq {pod other : PodStatusClass} (h : pod.severity = other.severity) :
    getPodIconStatus pod.statusBrief pod.warnings =
      getPodIconStatus other.statusBrief other.warnings := by
  have hinj : ∀ s ∈ podStatusValues, ∀ t ∈ podStatusValues,
      indexOf (.icon s) = indexOf (.icon t) → s = t := by
    decide
  have hmem (pod : PodStatusClass) :
      getPodIconStatus pod.statusBrief pod.warnings ∈ podStatusValues := by
    unfold getPodIconStatus
    split_ifs <;> decide
  exact hinj _ (hmem pod) _ (hmem other) h

/-- Whichever pod is first, one of the others has the worst status. -/
theorem WorstTwice.firstCovered (h : WorstTwice group) {group' : List PodStatusClass}
    (hperm : group'.Perm group) : FirstCovered group' := by
  match group' with
  | [] => trivial
  | [_] => trivial
  | first :: second :: rest =>
      rcases h with hshort | ⟨status, ⟨-, hworst⟩, hcount⟩
      · have hlength := hperm.length_eq
        simp only [List.length_cons] at hlength
        omega
      · rw [← (hperm.map _).count_eq, List.map_cons, List.count_cons] at hcount
        have hpos : 0 < ((second :: rest).map fun pod =>
            getPodIconStatus pod.statusBrief pod.warnings).count status := by
          split_ifs at hcount <;> omega
        obtain ⟨pod, hmem, hicon⟩ := List.mem_map.mp (List.count_pos_iff.mp hpos)
        refine ⟨pod, hmem, ?_⟩
        have hfirst := hworst first (hperm.mem_iff.mp List.mem_cons_self)
        rw [← hicon] at hfirst
        exact hfirst

/-- A worst pod that is put first has to have its equal. -/
theorem worstTwice_of_firstCovered
    (h : ∀ group' : List PodStatusClass, group'.Perm group → FirstCovered group') :
    WorstTwice group := by
  rcases Nat.lt_or_ge 1 group.length with hlong | hshort
  · have hne : group ≠ [] := by
      rintro rfl
      simp at hlong
    obtain ⟨status, ⟨first, hfirst, hicon⟩, hworst⟩ := exists_isWorst hne
    have hperm : (first :: group.erase first).Perm group := (List.perm_cons_erase hfirst).symm
    have hfirstCovered := h _ hperm
    cases hrest : group.erase first with
    | nil =>
        have hlength := hperm.length_eq
        simp only [hrest, List.length_cons, List.length_nil] at hlength
        omega
    | cons second rest =>
        rw [hrest] at hfirstCovered hperm
        obtain ⟨pod, hmem, hle⟩ := hfirstCovered
        -- the pod that is not better than the worst has its status
        have hbound := hworst pod (hperm.mem_iff.mp (List.mem_cons_of_mem _ hmem))
        have hsame : pod.severity = first.severity := by
          rw [← hicon] at hbound
          exact Int.le_antisymm hbound hle
        have hcount : 0 < ((second :: rest).map fun pod =>
            getPodIconStatus pod.statusBrief pod.warnings).count status :=
          List.count_pos_iff.mpr (List.mem_map.mpr
            ⟨pod, hmem, (icon_eq_of_severity_eq hsame).trans hicon⟩)
        refine .inr ⟨status, ⟨⟨first, hfirst, hicon⟩, hworst⟩, ?_⟩
        rw [← (hperm.map _).count_eq, List.map_cons, List.count_cons, hicon, beq_self_eq_true]
        exact Nat.succ_le_succ hcount
  · exact .inl hshort

/-- Two pods have the worst status exactly if the first is never worse than the others. -/
theorem worstTwice_iff :
    WorstTwice group ↔ ∀ group' : List PodStatusClass, group'.Perm group → FirstCovered group' :=
  ⟨fun h _ hperm => h.firstCovered hperm, worstTwice_of_firstCovered⟩

theorem groupable_perm {pods' : List PodStatusClass} (h : pods'.Perm pods) :
    Groupable pods' ↔ Groupable pods := by
  simp only [Groupable, h.mem_iff]

/-- A group comes in every order, if the pods do. -/
theorem exists_groupOf_eq {name : String} (h : group.Perm (groupOf pods name)) :
    ∃ pods' : List PodStatusClass, pods'.Perm pods ∧ groupOf pods' name = group := by
  refine ⟨group ++ pods.filter (fun pod => !decide (pod.currentGroup = name)), ?_, ?_⟩
  · exact (h.append_right _).trans (List.filter_append_perm _ pods)
  · have hgroup : ∀ pod ∈ group, pod.currentGroup = name := by
      intro pod hpod
      simpa [groupOf] using (List.mem_filter.mp (h.mem_iff.mp hpod)).2
    rw [groupOf, List.filter_append, List.filter_filter]
    simpa [List.filter_eq_self] using hgroup

/-- For every list of pods, the table tells the groups exactly if each node can be the name of
    a group and the first pod of a group is not worse than all others; and it does so in every
    order of the pods exactly if two pods of each group, of several, have its worst status. -/
theorem groups_tell_iff (localeCompare : String → String → Int) (pods : List PodStatusClass) :
    (Right localeCompare pods ↔
      Groupable pods ∧ ∀ name, FirstCovered (groupOf pods name)) ∧
    ((∀ pods' : List PodStatusClass, pods'.Perm pods → Right localeCompare pods') ↔
      Groupable pods ∧ ∀ name, WorstTwice (groupOf pods name)) := by
  refine ⟨right_iff, ?_, ?_⟩
  · intro hright
    refine ⟨(right_iff.mp (hright pods (List.Perm.refl _))).1, fun name => ?_⟩
    rw [worstTwice_iff]
    intro group hperm
    obtain ⟨pods', hpods', hgroup⟩ := exists_groupOf_eq hperm
    rw [← hgroup]
    exact (right_iff.mp (hright pods' hpods')).2 name
  · rintro ⟨hgroupable, htwice⟩ pods' hperm
    refine right_iff.mpr ⟨(groupable_perm hperm).mpr hgroupable, fun name => ?_⟩
    exact worstTwice_iff.mp (htwice name) _ (hperm.filter _)

/-- A failed pod that comes before one that runs -/
def failedFirst : List PodStatusClass :=
  [{ name := "zeek", nodeName := some "sensor1", statusBrief := "Error", warnings := none },
    { name := "arkime", nodeName := some "sensor1", statusBrief := "Running", warnings := none }]

theorem not_right_failedFirst :
    generateGroupStatus failedFirst = .ok (.icon "check_circle") ∧
      ¬ ∀ localeCompare pods, Right localeCompare pods := by
  refine ⟨rfl, fun h => ?_⟩
  obtain ⟨pod, hmem, hle⟩ :=
    (right_iff.mp (h (fun _ _ => 0) failedFirst)).2 "sensor1"
  rw [List.mem_singleton.mp hmem] at hle
  exact absurd hle (by decide)

end Orders

end PodTable

end Tfplenum
