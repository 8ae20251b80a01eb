/-
  Tfplenum.Service.AssociatedPods

  The pods that `get_associated_pods` lists for a config map, which are restarted when the
  config map is saved.

  The list ends before the first pod without volumes, it has a pod once for each volume
  with a config map of that name, and it does not look at namespaces
  (`getAssociatedPods_exact_iff`).
-/

import Mathlib.Data.List.Basic
import Tfplenum.Service.KubernetesLookups

namespace Tfplenum

open Lib

namespace AssociatedPods

/-! ## Pods and config maps -/

/-- The entry of a pod -/
def entry (item : V1Pod) : AssociatedPod :=
  { podName := item.metadata.name, inNamespace := item.metadata.inNamespace }

/-- How many volumes of the pod are the config map -/
def uses (configMapName : String) (item : V1Pod) : Nat :=
  (item.spec.volumes.getD []).countP fun configMap => configMap = some configMapName

/-- The pod mounts the config map, as a volume or as a source of a projected one. -/
def Mounts (configMapName : String) (item : V1Pod) : Prop :=
  some configMapName ∈ item.spec.volumes.getD [] ∨
    configMapName ∈ item.spec.projectedConfigMaps

instance (configMapName : String) (item : V1Pod) : Decidable (Mounts configMapName item) :=
  inferInstanceAs (Decidable (_ ∨ _))

/-- A config map is mounted by the pods of its own namespace. -/
def Associated (configMap : V1ObjectMeta) (item : V1Pod) : Prop :=
  item.metadata.inNamespace = configMap.inNamespace ∧ Mounts configMap.name item

instance (configMap : V1ObjectMeta) (item : V1Pod) : Decidable (Associated configMap item) :=
  inferInstanceAs (Decidable (_ ∧ _))

/-- The pods that are to be restarted for the config map -/
def associated (configMap : V1ObjectMeta) (items : List V1Pod) : List AssociatedPod :=
  (items.filter fun item => Associated configMap item).map entry

/-- The pods before the first one without volumes -/
def readable (items : List V1Pod) : List V1Pod :=
  items.takeWhile fun item => item.spec.volumes.isSome

/-- The pods from the first one without volumes on -/
def unread (items : List V1Pod) : List V1Pod :=
  items.dropWhile fun item => item.spec.volumes.isSome

/-- What the loop puts into the list -/
def listed (configMapName : String) (items : List V1Pod) : List AssociatedPod :=
  (readable items).flatMap fun item => List.replicate (uses configMapName item) (entry item)

/-- No pod before the first without volumes mounts the config map twice, as a projected volume
    alone, or one of that name in another namespace, and no other pod mounts it. -/
structure Regular (configMap : V1ObjectMeta) (items : List V1Pod) : Prop where
  once : ∀ item ∈ readable items, Associated configMap item → uses configMap.name item = 1
  foreign : ∀ item ∈ readable items,
    item.metadata.inNamespace ≠ configMap.inNamespace → uses configMap.name item = 0
  unread : ∀ item ∈ unread items, ¬Associated configMap item

/-! ## The loop -/

/-- The body of the loop -/
def round (configMapName : String) (before : List AssociatedPod) (item : V1Pod) :
    Kube (PyError × List AssociatedPod) (List AssociatedPod) := do
  let volumes ← withLocals before (.ofExcept (iterate item.spec.volumes))
  return before ++
    (volumes.filter fun configMap => configMap = some configMapName).map fun _ => entry item

variable {τ : Type} {h : Handler KubeOp KubeOp.Res τ}

theorem run_round_of_volumes {item : V1Pod} {volumes : List (Option String)}
    (hvolumes : item.spec.volumes = some volumes) (configMapName : String)
    (before : List AssociatedPod) (t : τ) :
    (round configMapName before item).run h t =
      (.ok (before ++ List.replicate (uses configMapName item) (entry item)), t) := by
  have hentries : ((volumes.filter fun configMap => configMap = some configMapName).map
      fun _ => entry item) = List.replicate (uses configMapName item) (entry item) := by
    rw [List.map_const', uses, hvolumes, Option.getD_some, List.countP_eq_length_filter]
  rw [← hentries, round, hvolumes]
  rfl

theorem run_round_of_none {item : V1Pod} (hvolumes : item.spec.volumes = none)
    (configMapName : String) (before : List AssociatedPod) (t : τ) :
    (round configMapName before item).run h t =
      (.error (.typeError "'NoneType' object is not iterable", before), t) := by
  rw [round, hvolumes]
  rfl

/-- The loop ends at the first pod without volumes, with what it has by then. -/
theorem run_rounds (configMapName : String) (items : List V1Pod) (before : List AssociatedPod)
    (t : τ) :
    (Program.foldEach items before (round configMapName)).run h t =
      (if unread items = [] then .ok (before ++ listed configMapName items)
        else .error (.typeError "'NoneType' object is not iterable",
          before ++ listed configMapName items), t) := by
  induction items generalizing before with
  | nil => simp [Program.foldEach, unread, listed, readable]
  | cons item items ih =>
      rw [Program.foldEach, Program.run_bind]
      cases hvolumes : item.spec.volumes with
      | none =>
          rw [run_round_of_none hvolumes]
          simp [Program.andThen, unread, listed, readable, hvolumes]
      | some volumes =>
          have hsome : item.spec.volumes.isSome = true := by rw [hvolumes]; rfl
          have hunread : unread (item :: items) = unread items :=
            List.dropWhile_cons_of_pos hsome
          have hlisted : listed configMapName (item :: items) =
              List.replicate (uses configMapName item) (entry item) ++
                listed configMapName items := by
            have hreadable : readable (item :: items) = item :: readable items :=
              List.takeWhile_cons_of_pos hsome
            rw [listed, hreadable, List.flatMap_cons]
            rfl
          rw [run_round_of_volumes hvolumes, Program.andThen_ok, ih, hunread, hlisted,
            List.append_assoc]

/-- What stands inside the `with` statement -/
def search (configMapName : String) :
    Kube (PyError × List AssociatedPod) (Leaves (List AssociatedPod) (List AssociatedPod)) := do
  let pods ← withLocals [] (request (.listPodForAllNamespaces none none))
  let associated ← Program.foldEach pods [] (round configMapName)
  return .through associated

theorem run_search (configMapName : String) {items : List V1Pod} {t : τ}
    (hlist : (h (.listPodForAllNamespaces none none) t).1 = .ok items) :
    (search configMapName).run h t =
      Program.andThen h (fun associated => .done (.through associated))
        ((Program.foldEach items [] (round configMapName)).run h
          (h (.listPodForAllNamespaces none none) t).2) := by
  simp only [search, withLocals, request, Program.bind_eq, Program.call_bind, Program.mapError,
    Program.run_call, hlist]
  exact Program.run_bind h (Program.foldEach items [] (round configMapName)) _ _

/-- Whether the loop ends early or not, the function returns what it has listed. -/
theorem run_getAssociatedPods (configMapName : String) {items : List V1Pod} {t : τ}
    (hload : (h .loadKubeConfig t).1 = .ok ())
    (hlist : (h (.listPodForAllNamespaces none none) (h .loadKubeConfig t).2).1 = .ok items) :
    ((getAssociatedPods configMapName).run.run h t).1 = .ok (listed configMapName items) := by
  let w : WithStatement KubeOp KubeOp.Res PyError (List AssociatedPod) (List AssociatedPod) :=
    (getAssociatedPods configMapName).statement
  have henter : w.enter.run h t = (.ok (), (h .loadKubeConfig t).2) := by
    change loadKubeConfig.run h t = _
    rw [loadKubeConfig, Program.run_call, hload]
    rfl
  have hblock : w.block.run h (h .loadKubeConfig t).2 = _ := run_search configMapName hlist
  rw [run_rounds, List.nil_append] at hblock
  by_cases hunread : unread items = []
  · rw [if_pos hunread] at hblock
    exact congrArg Prod.fst (WithStatement.run_result_of_block henter hblock)
  · rw [if_neg hunread] at hblock
    exact congrArg Prod.fst (WithStatement.BlockRaises.run_result ⟨_, henter, hblock⟩)

/-! ## What is listed -/

/-- Each pod is in the list as often as it uses the config map. -/
theorem count_flatMap_replicate {k : V1Pod → Nat} {items : List V1Pod} {item : V1Pod}
    (hnodup : (items.map entry).Nodup) (hmem : item ∈ items) :
    (items.flatMap fun i => List.replicate (k i) (entry i)).count (entry item) = k item := by
  induction items with
  | nil => exact absurd hmem List.not_mem_nil
  | cons first items ih =>
      obtain ⟨hfirst, hrest⟩ := List.nodup_cons.mp hnodup
      rw [List.flatMap_cons, List.count_append]
      rcases List.mem_cons.mp hmem with rfl | hmem
      · have hzero : (items.flatMap fun i => List.replicate (k i) (entry i)).count (entry item) =
            0 := by
          refine List.count_eq_zero.mpr fun hin => ?_
          obtain ⟨i, hi, hin⟩ := List.mem_flatMap.mp hin
          exact hfirst (List.mem_map.mpr ⟨i, hi, (List.eq_of_mem_replicate hin).symm⟩)
        rw [List.count_replicate_self, hzero]
        rfl
      · have hne : entry first ≠ entry item := by
          intro heq
          exact hfirst (heq ▸ List.mem_map_of_mem hmem)
        rw [List.count_replicate, if_neg (by simpa using hne), ih hrest hmem, Nat.zero_add]

theorem associated_eq_flatMap (configMap : V1ObjectMeta) (items : List V1Pod) :
    associated configMap items =
      items.flatMap fun item =>
        List.replicate (if Associated configMap item then 1 else 0) (entry item) := by
  induction items with
  | nil => rfl
  | cons item items ih =>
      rw [List.flatMap_cons, ← ih, associated, List.filter_cons]
      by_cases hitem : Associated configMap item
      · rw [if_pos hitem, if_pos (decide_eq_true hitem)]
        rfl
      · rw [if_neg hitem, if_neg (by simpa using hitem)]
        rfl

theorem uses_eq_zero {configMap : V1ObjectMeta} {item : V1Pod}
    (hsame : item.metadata.inNamespace = configMap.inNamespace)
    (hnot : ¬Associated configMap item) : uses configMap.name item = 0 := by
  refine List.countP_eq_zero.mpr fun volume hvolume => ?_
  rw [decide_eq_true_eq]
  rintro rfl
  exact hnot ⟨hsame, .inl hvolume⟩

variable {configMap : V1ObjectMeta} {items : List V1Pod}

/-- Before the first pod without volumes each pod is used as often as it is meant to be
    listed. -/
theorem uses_eq_iff {item : V1Pod} :
    uses configMap.name item = (if Associated configMap item then 1 else 0) ↔
      (Associated configMap item → uses configMap.name item = 1) ∧
        (item.metadata.inNamespace ≠ configMap.inNamespace → uses configMap.name item = 0) := by
  by_cases hitem : Associated configMap item
  · rw [if_pos hitem]
    exact ⟨fun h => ⟨fun _ => h, fun hne => absurd hitem.1 hne⟩, fun h => h.1 hitem⟩
  · rw [if_neg hitem]
    constructor
    · exact fun h => ⟨fun h' => absurd h' hitem, fun _ => h⟩
    · intro h
      by_cases hsame : item.metadata.inNamespace = configMap.inNamespace
      · exact uses_eq_zero hsame hitem
      · exact h.2 hsame

theorem associated_unread (h : ∀ item ∈ unread items, ¬Associated configMap item) :
    associated configMap (unread items) = [] := by
  rw [associated, List.filter_eq_nil_iff.mpr fun item hitem => by simpa using h item hitem]
  rfl

theorem associated_split (configMap : V1ObjectMeta) (items : List V1Pod) :
    associated configMap items =
      associated configMap (readable items) ++ associated configMap (unread items) := by
  rw [associated, associated, associated, ← List.map_append, ← List.filter_append, readable,
    unread, List.takeWhile_append_dropWhile]

theorem Regular.listed_eq (h : Regular configMap items) :
    listed configMap.name items = associated configMap items := by
  rw [associated_split, associated_unread h.unread, List.append_nil, associated_eq_flatMap, listed]
  refine List.flatMap_congr fun item hitem => ?_
  rw [uses_eq_iff.mpr ⟨h.once item hitem, h.foreign item hitem⟩]

/-- Where no two pods have one name and namespace, the list tells how often each was used. -/
theorem regular_of_perm (hnodup : (items.map entry).Nodup)
    (h : (listed configMap.name items).Perm (associated configMap items)) :
    Regular configMap items := by
  have hsplit : items = readable items ++ unread items :=
    (List.takeWhile_append_dropWhile).symm
  have hnodup' : ((readable items).map entry ++ (unread items).map entry).Nodup := by
    rw [← List.map_append, ← hsplit]
    exact hnodup
  obtain ⟨hread, -, hdisjoint⟩ := List.nodup_append.mp hnodup'
  have hmeant : ∀ item ∈ items, (associated configMap items).count (entry item) =
      if Associated configMap item then 1 else 0 := by
    intro item hitem
    rw [associated_eq_flatMap]
    exact count_flatMap_replicate hnodup hitem
  have huses : ∀ item ∈ readable items,
      uses configMap.name item = if Associated configMap item then 1 else 0 := by
    intro item hitem
    have hmem : item ∈ items := by
      rw [hsplit]
      exact List.mem_append_left _ hitem
    rw [← hmeant item hmem, ← h.count_eq]
    exact (count_flatMap_replicate hread hitem).symm
  refine ⟨fun item hitem => (uses_eq_iff.mp (huses item hitem)).1,
    fun item hitem => (uses_eq_iff.mp (huses item hitem)).2, fun item hitem hassociated => ?_⟩
  -- the list has no entry of a pod behind the first without volumes
  have hmem : item ∈ items := by
    rw [hsplit]
    exact List.mem_append_right _ hitem
  have hcount := hmeant item hmem
  rw [if_pos hassociated, ← h.count_eq] at hcount
  have hlisted : entry item ∈ listed configMap.name items := by
    rw [← List.count_pos_iff, hcount]
    exact Nat.one_pos
  obtain ⟨other, hother, hentry⟩ := List.mem_flatMap.mp hlisted
  exact hdisjoint _ (List.mem_map_of_mem hother) _ (List.mem_map_of_mem hitem)
    (List.eq_of_mem_replicate hentry).symm

/-- Whatever pods the cluster answers with: the pods that mount the config map are listed, each
    once, if the pods are regular, and if no two pods have one name and namespace, only then. -/
theorem getAssociatedPods_exact_iff (configMap : V1ObjectMeta) {t : τ}
    (hload : (h .loadKubeConfig t).1 = .ok ())
    (hlist : (h (.listPodForAllNamespaces none none) (h .loadKubeConfig t).2).1 = .ok items) :
    ∃ pods, ((getAssociatedPods configMap.name).run.run h t).1 = .ok pods ∧
      (Regular configMap items → pods.Perm (associated configMap items)) ∧
        ((items.map entry).Nodup → pods.Perm (associated configMap items) →
          Regular configMap items) :=
  ⟨listed configMap.name items, run_getAssociatedPods configMap.name hload hlist,
    fun h => .of_eq h.listed_eq, regular_of_perm⟩

/-- A cluster that answers with the pods -/
def clusterOf (items : List V1Pod) : Handler KubeOp KubeOp.Res Unit
  | .loadKubeConfig, t => (.ok (), t)
  | .listPodForAllNamespaces _ _, t => (.ok items, t)
  | _, t => (.error (.apiException 404), t)

def podOf (name : String) (volumes : Option (List (Option String))) : V1Pod where
  metadata := { name, inNamespace := "default" }
  spec := { volumes }
  status := { phase := some "Running" }

/-- The cluster has a pod that mounts the config map, one of the same name in another namespace
    and one without volumes. -/
def threePods : List V1Pod :=
  [podOf "web" (some [none, some "settings"]),
    { podOf "web" (some [some "certs"]) with metadata := { name := "web", inNamespace := "mip" } },
    podOf "bare" none]

theorem regular_threePods : Regular { name := "settings" } threePods := by
  refine ⟨?_, ?_, ?_⟩ <;> decide

/-- The pod that mounts the config map is listed. -/
theorem getAssociatedPods_exact_threePods :
    ∃ pods, ((getAssociatedPods "settings").run.run (clusterOf threePods) ()).1 = .ok pods ∧
      pods.Perm [⟨"web", "default"⟩] ∧ (threePods.map entry).Nodup := by
  obtain ⟨pods, hpods, hperm, -⟩ :=
    getAssociatedPods_exact_iff (h := clusterOf threePods) { name := "settings" } rfl rfl
  exact ⟨pods, hpods, hperm regular_threePods, by decide⟩

/-- A pod without volumes before the one that mounts the config map -/
theorem not_getAssociatedPods_exact : ¬ ∀ (configMap : V1ObjectMeta) (items : List V1Pod),
    ∃ pods, ((getAssociatedPods configMap.name).run.run (clusterOf items) ()).1 = .ok pods ∧
      pods.Perm (associated configMap items) := by
  intro h
  obtain ⟨pods, hpods, hperm⟩ := h { name := "settings" }
    [podOf "bare" none, podOf "web" (some [some "settings"])]
  rw [run_getAssociatedPods "settings" rfl rfl] at hpods
  cases hpods
  exact absurd hperm.length_eq (by decide)

end AssociatedPods

end Tfplenum
