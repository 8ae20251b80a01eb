/-
  Tfplenum.Controller.TargetHosts

  The host names of a configuration of Windows targets under any interleaving of
  requests that add hosts and remove them.  What a request pushes it compared with
  the configuration it read, so the names stay different exactly in the runs in
  which no pushed name came in between the read and the push (`Undisturbed`).
-/

import Tfplenum.Controller.AgentBuilderController

namespace Tfplenum

open Lib

variable {u : Unicode} {order : SetOrder}

/-! ## Names -/

/-- The name of a host, but for the case of its letters. -/
def Target.lowered (u : Unicode) (host : Target) : Option String :=
  host.hostname.map (lowerName u)

/-- Every host has a name, and no two have the same one, but for the case of its
    letters. -/
structure TargetConfig.Distinct (u : Unicode) (config : TargetConfig) : Prop where
  named : ∀ host ∈ config.hosts, host.hostname.isSome = true
  nodup : (config.hosts.map (Target.lowered u)).Nodup

/-- The hosts of every configuration are distinct. -/
def HostsDistinct (u : Unicode) (lists : TargetLists) : Prop :=
  ∀ id config, lists.get? id = some config → config.Distinct u

/-- The configuration has a host of that name, but for the case of its letters. -/
def Holds (u : Unicode) (lists : TargetLists) (id name : String) : Prop :=
  ∃ config, lists.get? id = some config ∧
    ∃ host ∈ config.hosts, host.lowered u = some (lowerName u name)

theorem mem_of_mem_splitOn {sep : Char} {cs piece : List Char} (h : piece ∈ cs.splitOn sep) :
    ∀ c ∈ piece, c ∈ cs := by
  induction cs generalizing piece with
  | nil =>
      rw [List.splitOn_nil, List.mem_singleton] at h
      rw [h]
      exact fun c hc => hc
  | cons d cs ih =>
      rw [List.splitOn_cons_eq_if_modifyHead] at h
      split at h
      · rcases List.mem_cons.mp h with rfl | h
        · exact fun c hc => absurd hc List.not_mem_nil
        · exact fun c hc => List.mem_cons_of_mem _ (ih h c hc)
      · obtain ⟨first, pieces, hsplit⟩ := List.exists_cons_of_ne_nil (List.splitOn_ne_nil sep cs)
        rw [hsplit, List.modifyHead_cons] at h
        rw [hsplit] at ih
        rcases List.mem_cons.mp h with rfl | h
        · intro c hc
          rcases List.mem_cons.mp hc with rfl | hc
          · exact List.mem_cons_self ..
          · exact List.mem_cons_of_mem _ (ih (List.mem_cons_self ..) c hc)
        · exact fun c hc => List.mem_cons_of_mem _ (ih (List.mem_cons_of_mem _ h) c hc)

/-- A line of a text in lower case is in lower case. -/
theorem lowerName_of_mem_uniqueHostnames {hostnames hostname : String}
    (h : hostname ∈ uniqueHostnames u order hostnames) : lowerName u hostname = hostname := by
  obtain ⟨piece, hpiece, rfl⟩ := List.mem_map.mp ((order.mem_iff _ _).mp h)
  have hlowered : ∀ c ∈ piece, u.isLowered c = true :=
    fun c hc => u.isLowered_lower _ c (mem_of_mem_splitOn hpiece c hc)
  rw [lowerName, String.toList_ofList, u.lower_of_isLowered _ hlowered]

theorem isHostDuplicate_iff {config : TargetConfig}
    (hnamed : ∀ host ∈ config.hosts, host.hostname.isSome = true) {hostname : String} :
    isHostDuplicate u config hostname = true ↔
      ∃ host ∈ config.hosts, host.lowered u = some (lowerName u hostname) := by
  have hloop (targets : List Target) (h : ∀ host ∈ targets, host.hostname.isSome = true) :
      hasHost u hostname targets = true ↔
        ∃ host ∈ targets, host.lowered u = some (lowerName u hostname) := by
    induction targets with
    | nil => simp [hasHost]
    | cons oldHost targets ih =>
        obtain ⟨hold, hrest⟩ := List.forall_mem_cons.mp h
        obtain ⟨old, hold⟩ := Option.isSome_iff_exists.mp hold
        rw [hasHost, hold, List.exists_mem_cons_iff, ← ih hrest, Target.lowered, hold,
          Option.map_some, Option.some_inj]
        by_cases heq : lowerName u old = lowerName u hostname <;> simp [heq]
  rw [isHostDuplicate, TargetConfig.hosts] at *
  cases htargets : config.targets with
  | none => simp
  | some targets =>
      rw [htargets] at hnamed
      exact hloop targets hnamed

/-! ## The hosts that are pushed -/

/-- A host that is pushed has the name it was looked up by, which the configuration
    that was read does not have. -/
theorem hostToAdd_eq_some {config : Option TargetConfig} {name : String} {host : Target}
    (h : hostToAdd u config name = some host) :
    host = ⟨some name, "Uninstalled", ""⟩ ∧
      ∀ c, config = some c → isHostDuplicate u c name = false := by
  rw [hostToAdd] at h
  split at h
  · cases h
  · obtain ⟨c, rfl, h⟩ := Option.bind_eq_some_iff.mp h
    obtain ⟨hduplicate, hhost⟩ := Option.ite_none_left_eq_some.mp h
    cases hhost
    refine ⟨rfl, fun c' hc => ?_⟩
    cases hc
    exact Bool.eq_false_iff.mpr hduplicate

/-- What a request pushes has pairwise different names in lower case, none of which
    the configuration it read has. -/
theorem getUniqueHostsToAdd_spec {lists : TargetLists} (hlists : HostsDistinct u lists)
    {id : String} {hostnames : Json} {hosts : List Target}
    (h : getUniqueHostsToAdd u order (lists.get? id) hostnames = .ok hosts) :
    (hosts.map (Target.lowered u)).Nodup ∧
      ∀ host ∈ hosts, ∃ name, host.hostname = some name ∧ ¬ Holds u lists id name := by
  cases hostnames with
  | str hostnames =>
      cases h
      constructor
      · rw [List.Nodup, List.pairwise_map, List.pairwise_filterMap]
        -- a pushed name is its own lower case: two that agree there are one name of the set
        refine (order.nodup _).imp_of_mem fun hname hname' hne host hhost host' hhost' heq => hne ?_
        rw [(hostToAdd_eq_some hhost).1, (hostToAdd_eq_some hhost').1, Target.lowered,
          Target.lowered, Option.map_some, Option.map_some, lowerName_of_mem_uniqueHostnames hname,
          lowerName_of_mem_uniqueHostnames hname'] at heq
        exact Option.some.inj heq
      · intro host hhost
        obtain ⟨name, -, hhost⟩ := List.mem_filterMap.mp hhost
        obtain ⟨rfl, hduplicate⟩ := hostToAdd_eq_some hhost
        refine ⟨name, rfl, ?_⟩
        rintro ⟨config, hconfig, hholds⟩
        -- a name that the configuration has is passed over
        have hhas := (isHostDuplicate_iff (hlists id config hconfig).named).mpr hholds
        rw [hduplicate config hconfig] at hhas
        cases hhas
  | null => cases h
  | bool b => cases h
  | num n => cases h
  | arr items => cases h
  | obj fields => cases h

/-- A configuration stays distinct if what is pushed is distinct and new to it. -/
theorem TargetConfig.Distinct.push {config : TargetConfig} (h : config.Distinct u)
    {hosts : List Target} (hnamed : ∀ host ∈ hosts, host.hostname.isSome = true)
    (hnodup : (hosts.map (Target.lowered u)).Nodup)
    (hnew : ∀ old ∈ config.hosts, ∀ host ∈ hosts, old.lowered u ≠ host.lowered u) :
    (config.push hosts).Distinct u := by
  constructor
  · intro host hhost
    rcases List.mem_append.mp hhost with hhost | hhost
    · exact h.named host hhost
    · exact hnamed host hhost
  · change ((config.hosts ++ hosts).map (Target.lowered u)).Nodup
    rw [List.map_append]
    refine List.nodup_append.mpr ⟨h.nodup, hnodup, ?_⟩
    simpa only [List.forall_mem_map] using hnew

theorem TargetConfig.Distinct.pull {config : TargetConfig} (h : config.Distinct u) (host : String) :
    (config.pull host).Distinct u := by
  have hsub : (config.pull host).hosts.Sublist config.hosts := by
    rw [TargetConfig.pull, TargetConfig.hosts, TargetConfig.hosts]
    cases config.targets with
    | none => exact List.Sublist.refl _
    | some targets => exact List.filter_sublist
  exact ⟨fun t ht => h.named t (hsub.subset ht), h.nodup.sublist (hsub.map _)⟩

/-! ## Requests -/

/-- A push comes after a read of its configuration, and pushes what that read left
    to be pushed. -/
def PushesWhatItRead (u : Unicode) (order : SetOrder) (m : Memory TargetOp TargetLists)
    (op : TargetOp) : Prop :=
  ∀ id hosts, op = .push id hosts → ∃ lists hostnames, (TargetOp.findOne id, lists) ∈ m ∧
    getUniqueHostsToAdd u order (lists.get? id) hostnames = .ok hosts

theorem traced_program (request : HostRequest) :
    (request.program u order).Traced applyTargetOp (PushesWhatItRead u order) (fun _ _ => True)
      [] := by
  have hany {m : Memory TargetOp TargetLists} {op : TargetOp}
      (h : ∀ id hosts, op ≠ .push id hosts) :
      PushesWhatItRead u order m op := fun id hosts heq => absurd heq (h id hosts)
  cases request with
  | remove host targetConfigId =>
      refine (Program.Traced.ofExcept (Q := fun _ _ => True) fun _ _ => trivial).bind
        fun m id _ => ?_
      refine .call (hany fun id hosts h => by cases h) fun lists => ?_
      simp only [Program.pure_eq, Program.done_bind]
      split
      · exact .done trivial
      · exact .done trivial
  | add hostsToAdd targetConfigId =>
      -- nothing is read before the configuration
      refine (Program.Traced.ofExcept (Q := fun m _ => m = []) fun _ _ => rfl).bind ?_
      rintro m hostnames rfl
      refine (Program.Traced.ofExcept (Q := fun m _ => m = []) fun _ _ => rfl).bind ?_
      rintro m given rfl
      split
      · refine (Program.Traced.ofExcept (Q := fun m _ => m = []) fun _ _ => rfl).bind ?_
        rintro m id rfl
        refine .call (hany fun id hosts h => by cases h) fun lists => ?_
        simp only [Program.done_bind]
        refine (Program.Traced.ofExcept (Q := fun m toInsert =>
          m = [(TargetOp.findOne id, lists)] ∧
            getUniqueHostsToAdd u order (lists.get? id) hostnames = .ok toInsert)
          fun toInsert h => ⟨rfl, h⟩).bind ?_
        rintro m toInsert ⟨rfl, hinsert⟩
        -- the one push of the request
        refine .call ?_ fun lists' => ?_
        · intro id' hosts heq
          cases heq
          exact ⟨lists, hostnames, List.mem_singleton_self _, hinsert⟩
        · simp only [Program.done_bind]
          split
          · exact .done trivial
          · exact .done trivial
          · exact .raise _ _
      · exact .raise _ _

/-! ## Steps and runs -/

/-- No step pushes a name that came in since its request read the configuration. -/
def Undisturbed (u : Unicode) (lists : TargetLists) (es : List (Event TargetOp)) : Prop :=
  ∀ pre t id hosts post, es = pre ++ ⟨t, .push id hosts⟩ :: post →
    ∀ read, (TargetOp.findOne id, read) ∈ memory applyTargetOp t lists pre →
      ∀ host ∈ hosts, ∀ name, host.hostname = some name →
        Holds u (replay applyTargetOp lists pre) id name → Holds u read id name

/-- What changes one configuration only. -/
theorem hostsDistinct_modify {lists : TargetLists} (h : HostsDistinct u lists) {id : String}
    {f : TargetConfig → TargetConfig}
    (hf : ∀ config, lists.get? id = some config → (f config).Distinct u) :
    HostsDistinct u (lists.modify id f) := by
  intro id' config hconfig
  rw [Table.get?_modify] at hconfig
  split at hconfig
  · rename_i heq
    obtain ⟨old, hold, rfl⟩ := Option.map_eq_some_iff.mp hconfig
    exact hf old (heq ▸ hold)
  · exact h id' config hconfig

/-- A push keeps the hosts distinct if it is of what a state left to be pushed whose
    names the configuration had, as far as it has them now. -/
theorem hostsDistinct_push {lists read : TargetLists} (h : HostsDistinct u lists)
    (hread : HostsDistinct u read) {id : String} {hostnames : Json} {hosts : List Target}
    (hhosts : getUniqueHostsToAdd u order (read.get? id) hostnames = .ok hosts)
    (hold : ∀ host ∈ hosts, ∀ name, host.hostname = some name → Holds u lists id name →
      Holds u read id name) :
    HostsDistinct u (lists.modify id (TargetConfig.push hosts)) := by
  obtain ⟨hnodup, hnew⟩ := getUniqueHostsToAdd_spec hread hhosts
  refine hostsDistinct_modify h fun config hconfig => (h id config hconfig).push ?_ hnodup ?_
  · intro host hhost
    obtain ⟨name, hname, -⟩ := hnew host hhost
    exact Option.isSome_iff_exists.mpr ⟨name, hname⟩
  · intro old hmem host hhost heq
    obtain ⟨name, hname, hno⟩ := hnew host hhost
    refine hno (hold host hhost name hname ⟨config, hconfig, old, hmem, ?_⟩)
    rw [heq, Target.lowered, hname, Option.map_some]

/-- The states a thread remembers are states of the run. -/
theorem mem_memory {t : Nat} {op : TargetOp} {lists read : TargetLists}
    {es : List (Event TargetOp)} (h : (op, read) ∈ memory applyTargetOp t lists es) :
    ∃ pre post, es = pre ++ ⟨t, op⟩ :: post ∧ read = replay applyTargetOp lists pre := by
  induction es generalizing lists with
  | nil => cases h
  | cons e es ih =>
      have hlater (h : (op, read) ∈ memory applyTargetOp t (applyTargetOp e.op lists).2 es) :
          ∃ pre post, e :: es = pre ++ ⟨t, op⟩ :: post ∧ read = replay applyTargetOp lists pre := by
        obtain ⟨pre, post, rfl, rfl⟩ := ih h
        exact ⟨e :: pre, post, rfl, rfl⟩
      rw [memory] at h
      split at h
      · rename_i ht
        rcases List.mem_cons.mp h with heq | h
        · cases heq
          exact ⟨[], es, by rw [← ht]; rfl, rfl⟩
        · exact hlater h
      · exact hlater h

/-- In every interleaving of requests to add hosts and to remove them, the host names
    of every configuration are pairwise different in every state, but for the case of
    their letters, exactly if no request pushes a name that came in since it read the
    configuration. -/
theorem hostsDistinct_iff_undisturbed (u : Unicode) (order : SetOrder) (lists : TargetLists)
    (hlists : HostsDistinct u lists) (requests : List HostRequest) (es : List (Event TargetOp))
    (c' : Config TargetOp TargetOp.Res PyError TargetResponse TargetLists)
    (hrun : Run applyTargetOp (hostRequests u order lists requests) es c') :
    (∀ pre post, es = pre ++ post → HostsDistinct u (replay applyTargetOp lists pre)) ↔
      Undisturbed u lists es := by
  have htraced (i : Nat) (p : TargetProg TargetResponse)
      (hp : (hostRequests u order lists requests).threads[i]? = some p) :
      p.Traced applyTargetOp (PushesWhatItRead u order) (fun _ _ => True) [] := by
    obtain ⟨request, -, rfl⟩ := List.mem_map.mp (List.mem_of_getElem? hp)
    exact traced_program request
  have hpushed {pre post : List (Event TargetOp)} {t : Nat} {id : String} {hosts : List Target}
      (hes : es = pre ++ ⟨t, .push id hosts⟩ :: post) :
      PushesWhatItRead u order (memory applyTargetOp t lists pre) (.push id hosts) := by
    obtain ⟨p, hp⟩ := hrun.exists_thread ⟨t, .push id hosts⟩ (by rw [hes]; simp)
    exact hrun.forall_event_traced hp (htraced t p hp) pre _ post hes
  constructor
  · intro hall pre t id hosts post hes read hread host hhost name hname hholds
    -- the name is in the configuration already: the push stores it a second time
    obtain ⟨config, hconfig, old, hold, heq⟩ := hholds
    have hnext := hall (pre ++ [⟨t, .push id hosts⟩]) post (by rw [hes]; simp)
    rw [replay_append] at hnext
    have hget : ((replay applyTargetOp lists pre).modify id (TargetConfig.push hosts)).get? id =
        some (config.push hosts) := by
      rw [Table.get?_modify, if_pos rfl, hconfig]
      rfl
    have hnodup := (hnext id _ hget).nodup
    change ((config.hosts ++ hosts).map (Target.lowered u)).Nodup at hnodup
    rw [List.map_append, List.nodup_append] at hnodup
    refine absurd heq (hnodup.2.2 _ (List.mem_map_of_mem hold) _ ?_)
    refine List.mem_map.mpr ⟨host, hhost, ?_⟩
    rw [Target.lowered, hname, Option.map_some]
  · intro hundisturbed
    -- what a request read is an earlier state of the run, so all of them are carried along
    have hprefix (pre : List (Event TargetOp)) : ∀ post, es = pre ++ post →
        ∀ front, front <+: pre → HostsDistinct u (replay applyTargetOp lists front) := by
      induction pre using List.reverseRecOn with
      | nil =>
          intro post hes front hfront
          rw [List.prefix_nil.mp hfront]
          exact hlists
      | append_singleton pre e ih =>
          intro post hes front hfront
          rw [List.append_assoc] at hes
          have hfronts := ih _ hes
          have hpre := hfronts pre List.prefix_rfl
          rcases List.prefix_concat_iff.mp hfront with rfl | hfront
          · rw [replay_append]
            obtain ⟨t, op⟩ := e
            cases op with
            | findOne id => exact hpre
            | pull id host =>
                exact hostsDistinct_modify hpre fun config hconfig =>
                  (hpre id config hconfig).pull host
            | push id hosts =>
                obtain ⟨read, hostnames, hread, hhosts⟩ := hpushed hes id hosts rfl
                obtain ⟨front, rest, hsplit, hstate⟩ := mem_memory hread
                have hdistinct : HostsDistinct u read := by
                  rw [hstate]
                  exact hfronts front ⟨_, hsplit.symm⟩
                exact hostsDistinct_push hpre hdistinct hhosts fun host hhost name hname =>
                  hundisturbed pre t id hosts post hes read hread host hhost name hname
          · exact hfronts front hfront
    exact fun pre post hes => hprefix pre post hes pre List.prefix_rfl

/-! ## Two requests at a time -/

/-- A set iterated in the order in which its elements were put in. -/
def SetOrder.inserted : SetOrder where
  iterate l := l.dedup
  nodup := List.nodup_dedup
  mem_iff _ _ := List.mem_dedup

/-- One configuration without hosts. -/
def emptyTargetLists : TargetLists where
  rows := [("5d10f8af8937267d139f804a", ⟨"test", some []⟩)]
  nodup := List.nodup_singleton _

theorem hostsDistinct_emptyTargetLists : HostsDistinct u emptyTargetLists := by
  intro id config hconfig
  have hrow := Table.get?_eq_some_iff.mp hconfig
  rw [emptyTargetLists, List.mem_singleton] at hrow
  cases hrow
  exact ⟨fun host hhost => absurd hhost List.not_mem_nil, List.nodup_nil⟩

def addDesktop (name : String) : HostRequest :=
  .add (.obj [("hostnames", .str name)]) "5d10f8af8937267d139f804a"

/-- Two requests add one host, each in the order the schedule has. -/
def addTwice (schedule : List Nat) :
    List (Event TargetOp) × Config TargetOp TargetOp.Res PyError TargetResponse TargetLists :=
  (hostRequests .ascii .inserted emptyTargetLists
    [addDesktop "DESKTOP-RGG1JBK", addDesktop "desktop-rgg1jbk"]).schedule applyTargetOp schedule

theorem hostsDistinct_iff_undisturbed_addTwice :
    (∀ pre post, (addTwice [0, 0, 1, 1]).1 = pre ++ post →
      HostsDistinct .ascii (replay applyTargetOp emptyTargetLists pre)) ↔
      Undisturbed .ascii emptyTargetLists (addTwice [0, 0, 1, 1]).1 :=
  hostsDistinct_iff_undisturbed .ascii .inserted emptyTargetLists hostsDistinct_emptyTargetLists
    [addDesktop "DESKTOP-RGG1JBK", addDesktop "desktop-rgg1jbk"] (addTwice [0, 0, 1, 1]).1
    (addTwice [0, 0, 1, 1]).2 (run_schedule _ _ _)

/-- The property without a condition on the runs. -/
def HostsStayDistinct : Prop :=
  ∀ (u : Unicode) (order : SetOrder) (lists : TargetLists), HostsDistinct u lists →
    ∀ (requests : List HostRequest) (es : List (Event TargetOp))
      (c' : Config TargetOp TargetOp.Res PyError TargetResponse TargetLists),
      Run applyTargetOp (hostRequests u order lists requests) es c' → HostsDistinct u c'.state

/-- Both requests read the configuration before either pushes. -/
theorem not_hostsStayDistinct : ¬ HostsStayDistinct := by
  intro hclaim
  have hdistinct := hclaim .ascii .inserted emptyTargetLists hostsDistinct_emptyTargetLists _ _
    (addTwice [0, 1, 0, 1]).2 (run_schedule _ _ _)
  have hget : (addTwice [0, 1, 0, 1]).2.state.get? "5d10f8af8937267d139f804a" =
      some ⟨"test", some [⟨some "desktop-rgg1jbk", "Uninstalled", ""⟩,
        ⟨some "desktop-rgg1jbk", "Uninstalled", ""⟩]⟩ := by
    decide +kernel
  have hnodup := (hdistinct _ _ hget).nodup
  revert hnodup
  decide +kernel

end Tfplenum
