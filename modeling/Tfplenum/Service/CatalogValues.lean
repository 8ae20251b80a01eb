/-
  Tfplenum.Service.CatalogValues

  `generate_values` of `catalog_service.py`: the values of a chart, filled in for
  this kit, and the entries that are made of them for the hosts of the configs.

  An entry is a dictionary with a host's values dictionary in it.  Both are objects
  of a heap, since the list of entries is appended to after the loop that makes
  them, with whatever entry the loop has left (`appendConfig`).  What `helm` and the
  cluster answer are parameters.
-/

import Tfplenum.Json
import Tfplenum.Lib.Heap
import Tfplenum.Lib.Table
import Mathlib.Data.List.Forall2

namespace Tfplenum

open Lib

/-- A values dictionary, and the configuration of a host -/
abbrev Values := Table String Json

/-! ## The base values -/

/-- What the service asks for -/
structure CatalogEnv where
  getValues : Except PyError Values
  getDomain : Except PyError Json
  getAuthBase : Except PyError Json
  getElasticNodes : String → Except PyError (List String)
  getLogstashNodes : Except PyError (List String)
  getDriveType : Except PyError Bool
  getControllerIp : Except PyError String

/-- A key that is filled in if the chart has it, and whether what is filled in raises -/
structure FillStep where
  key : String
  value : Except PyError Json
  raises : Bool

def urls (nodes : List String) : Json := .arr (nodes.map Json.str)

/-- The keys that `generate_values` fills in, one after the other -/
def fillSteps (env : CatalogEnv) : List FillStep :=
  [⟨"domain", env.getDomain, false⟩,
    ⟨"auth_base", env.getAuthBase, false⟩,
    -- "Elastic ingest cannot be null"
    ⟨"elastic_ingest_nodes", (env.getElasticNodes "ingest").map urls,
      (env.getElasticNodes "ingest").toOption = some []⟩,
    ⟨"elastic_data_nodes", (env.getElasticNodes "data").map urls, false⟩,
    ⟨"shards", (env.getElasticNodes "data").map fun nodes => .num nodes.length, false⟩,
    ⟨"logstash_nodes", env.getLogstashNodes.map urls, false⟩,
    ⟨"hard_disk_drive", env.getDriveType.map Json.bool, false⟩,
    ⟨"controller_ipaddress", env.getControllerIp.map Json.str, false⟩]

/-- The body of the `try`; what was filled in before an exception stays. -/
def fillIn : List FillStep → Values → Values
  | [], values => values
  | step :: steps, values =>
      if (values.get? step.key).isSome then
        match step.value with
        | .error _ => values
        | .ok value =>
            let values := values.upsert step.key value
            if step.raises then values else fillIn steps values
      else fillIn steps values

/-! ## The entries -/

/-- A config: the configurations of the hosts -/
abbrev HostConfigs := Table String Values

/-- The dictionaries made so far -/
structure EntryStore where
  values : Heap Values
  entries : Heap (Table String Ref)

/-- The local variables of the loops; `sensordict` may be unbound. -/
structure EntryLoop where
  store : EntryStore
  sensordict : Option Ref
  lValues : List Ref

/-- One round of the inner loop -/
def makeEntry (base : Values) (loop : EntryLoop) (item : String × Values) : EntryLoop :=
  let (nodeHostname, value) := item
  let store := loop.store
  -- `sensordict = {}` and `sensordict[node_hostname] = {}`
  let sensordict := store.entries.next
  let entries := (store.entries.make Table.empty).modify sensordict
    fun entry => entry.upsert nodeHostname store.values.next
  let values := store.values.make Table.empty
  -- `c_values = values.copy()`, and every key of the configuration over it
  let cValues := values.next
  let values := value.rows.foldl
    (fun values item => values.modify cValues fun cells => cells.upsert item.1 item.2)
    (values.make base)
  { loop with
    store :=
      { values := values
        entries := entries.modify sensordict fun entry => entry.upsert nodeHostname cValues }
    sensordict := some sensordict }

/-- One round of the outer loop: `l_values.append(sensordict)` is not in the inner one. -/
def appendConfig (base : Values) (loop : EntryLoop) (config : HostConfigs) :
    Except PyError EntryLoop :=
  let loop := config.rows.foldl (makeEntry base) loop
  match loop.sensordict with
  | none => .error (.unboundLocalError "sensordict")
  | some sensordict => .ok { loop with lValues := loop.lValues ++ [sensordict] }

inductive GeneratedValues where
  | entries (lValues : List Ref)
  | values (values : Values)

/-- `generate_values`, with the dictionaries that it has made -/
def generateValues (env : CatalogEnv) (configs : Option (List HostConfigs)) :
    Except PyError (GeneratedValues × EntryStore) :=
  let empty : EntryStore := ⟨.empty, .empty⟩
  match env.getValues with
  | .error _ => .error (.unboundLocalError "values")
  | .ok values =>
      let values := fillIn (fillSteps env) values
      if !(configs.getD []).isEmpty && !values.rows.isEmpty then
        ((configs.getD []).foldlM (appendConfig values) ⟨empty, none, []⟩).map fun loop =>
          (.entries loop.lValues, loop.store)
      else if !values.rows.isEmpty then .ok (.values values, empty)
      else .ok (.entries [], empty)

/-! ## What the entries should be -/

/-- The configured hosts with their configurations, in order -/
def hostPairs (configs : List HostConfigs) : List (String × Values) :=
  configs.flatMap fun config => config.rows

/-- The entry at the first reference is that of the host alone; its values, at the second, are
    the base values overlaid with those of the host. -/
def EntryFor (store : EntryStore) (base : Values) (pair : String × Values) (refs : Ref × Ref) :
    Prop :=
  (∃ entry, store.entries.get? refs.1 = some entry ∧
    ∀ name, entry.get? name = if name = pair.1 then some refs.2 else none) ∧
  ∃ cells, store.values.get? refs.2 = some cells ∧
    ∀ key, cells.get? key = (pair.2.get? key).or (base.get? key)

/-- One entry for each pair, in order; no entry and no values dictionary is there twice. -/
structure RightEntries (base : Values) (configs : List HostConfigs) (lValues : List Ref)
    (store : EntryStore) (placed : List (Ref × Ref)) : Prop where
  refs : placed.map Prod.fst = lValues
  entries : List.Forall₂ (EntryFor store base) (hostPairs configs) placed
  nodup : (placed.map Prod.fst).Nodup
  nodupValues : (placed.map Prod.snd).Nodup

/-- The result has the right entries; plain values have none. -/
def LosesNoValues (base : Values) (configs : List HostConfigs) :
    Except PyError (GeneratedValues × EntryStore) → Prop
  | .ok (.entries lValues, store) => ∃ placed, RightEntries base configs lValues store placed
  | .ok (.values _, _) => hostPairs configs = []
  | .error _ => False

/-! ## An entry -/

theorem foldl_modify (rows : List (String × Json)) (ref : Ref) (values : Heap Values) :
    (rows.foldl (fun values item =>
      values.modify ref fun cells => cells.upsert item.1 item.2) values).get? ref =
        (values.get? ref).map fun cells =>
          rows.foldl (fun cells item => cells.upsert item.1 item.2) cells := by
  induction rows generalizing values with
  | nil => simp
  | cons item rows ih =>
      rw [List.foldl_cons, ih, Heap.get?_modify_self, Option.map_map]
      rfl

theorem keeps_foldl_modify (rows : List (String × Json)) (ref : Ref) (values : Heap Values) :
    values.Keeps [ref] (rows.foldl (fun values item =>
      values.modify ref fun cells => cells.upsert item.1 item.2) values) := by
  induction rows generalizing values with
  | nil => exact .refl _ _
  | cons item rows ih =>
      rw [List.foldl_cons]
      exact (Heap.keeps_modify values ref _).trans (ih _) fun _ h => .inl h

/-- No dictionary from before is changed. -/
structure EntryStore.Keeps (store store' : EntryStore) : Prop where
  values : store.values.Keeps [] store'.values
  entries : store.entries.Keeps [] store'.entries

section
variable {base : Values} {store store' : EntryStore} {pair : String × Values} {refs : Ref × Ref}

theorem EntryFor.lt_size (h : EntryFor store base pair refs) :
    refs.1 < store.entries.size ∧ refs.2 < store.values.size := by
  obtain ⟨⟨entry, hentry, -⟩, cells, hcells, -⟩ := h
  exact ⟨Heap.lt_size_of_get? hentry, Heap.lt_size_of_get? hcells⟩

theorem EntryFor.of_keeps (h : EntryFor store base pair refs) (hkeeps : store.Keeps store') :
    EntryFor store' base pair refs := by
  obtain ⟨hlt, hlt'⟩ := h.lt_size
  obtain ⟨⟨entry, hentry, hnames⟩, cells, hcells, hkeys⟩ := h
  exact ⟨⟨entry, (hkeeps.entries.get?_eq _ hlt List.not_mem_nil).trans hentry, hnames⟩,
    cells, (hkeeps.values.get?_eq _ hlt' List.not_mem_nil).trans hcells, hkeys⟩

/-- A round of the inner loop makes a new entry with new values, and leaves the others alone. -/
theorem entryFor_makeEntry (base : Values) (loop : EntryLoop) (pair : String × Values) :
    ∃ refs : Ref × Ref, (makeEntry base loop pair).sensordict = some refs.1 ∧
      (makeEntry base loop pair).lValues = loop.lValues ∧
      EntryFor (makeEntry base loop pair).store base pair refs ∧
      loop.store.Keeps (makeEntry base loop pair).store ∧
      loop.store.entries.size ≤ refs.1 ∧ loop.store.values.size ≤ refs.2 := by
  obtain ⟨host, config⟩ := pair
  have hmade : ((loop.store.values.make Table.empty).make base).get?
      (loop.store.values.make Table.empty).next = some base := Heap.get?_make_next _ _
  have hentry : (loop.store.entries.make Table.empty).get? loop.store.entries.next =
      some Table.empty := Heap.get?_make_next _ _
  refine ⟨(loop.store.entries.next, (loop.store.values.make Table.empty).next), rfl, rfl,
    ⟨?_, ?_⟩, ⟨?_, ?_⟩, Nat.le_refl _, ?_⟩
  · refine ⟨(Table.empty.upsert host loop.store.values.next).upsert host
      (loop.store.values.make Table.empty).next, ?_, fun name => ?_⟩
    · simp [makeEntry, hentry]
    · rw [Table.get?_upsert, Table.get?_upsert]
      by_cases hname : name = host <;> simp [hname]
  · refine ⟨config.rows.foldl (fun cells item => cells.upsert item.1 item.2) base, ?_,
      fun key => Table.get?_foldl_upsert config.nodup base key⟩
    show (config.rows.foldl _ ((loop.store.values.make Table.empty).make base)).get? _ = _
    rw [foldl_modify, hmade]
    rfl
  · -- the values dictionary that is written to was made in this round
    have hmakes : loop.store.values.Keeps [] ((loop.store.values.make Table.empty).make base) :=
      (Heap.keeps_make [] _ _).trans (Heap.keeps_make [] _ _) fun _ h =>
        absurd h List.not_mem_nil
    refine hmakes.trans (keeps_foldl_modify config.rows _ _) fun ref href => .inr ?_
    rw [List.mem_singleton.mp href, Heap.next, Heap.size_make]
    exact Nat.le_succ _
  · have hmake := Heap.keeps_make [] loop.store.entries Table.empty
    have howned : ∀ ref ∈ [loop.store.entries.next], ref ∈ ([] : List Ref) ∨
        loop.store.entries.size ≤ ref := by
      intro ref href
      exact .inr (Nat.le_of_eq (List.mem_singleton.mp href).symm)
    exact (hmake.trans (Heap.keeps_modify _ _ _) howned).trans (Heap.keeps_modify _ _ _) howned
  · show loop.store.values.size ≤ (loop.store.values.make Table.empty).size
    rw [Heap.size_make]
    exact Nat.le_succ _

end

/-! ## Right entries -/

/-- The loop has made the right entries for the pairs. -/
structure HoldsEntries (base : Values) (pairs : List (String × Values)) (loop : EntryLoop)
    (placed : List (Ref × Ref)) : Prop where
  refs : placed.map Prod.fst = loop.lValues
  entries : List.Forall₂ (EntryFor loop.store base) pairs placed
  nodup : (placed.map Prod.fst).Nodup
  nodupValues : (placed.map Prod.snd).Nodup

theorem forall₂_entryFor_of_keeps {base : Values} {store store' : EntryStore}
    (hkeeps : store.Keeps store') {pairs : List (String × Values)} {placed : List (Ref × Ref)}
    (h : List.Forall₂ (EntryFor store base) pairs placed) :
    List.Forall₂ (EntryFor store' base) pairs placed :=
  h.imp fun _ _ hentry => hentry.of_keeps hkeeps

theorem lt_size_of_forall₂ {base : Values} {store : EntryStore} {pairs : List (String × Values)}
    {placed : List (Ref × Ref)} (h : List.Forall₂ (EntryFor store base) pairs placed) :
    ∀ refs ∈ placed, refs.1 < store.entries.size ∧ refs.2 < store.values.size := by
  induction h with
  | nil => exact List.forall_mem_nil _
  | cons hentry _ ih => exact List.forall_mem_cons.mpr ⟨hentry.lt_size, ih⟩

/-- A new reference is none of those from before. -/
theorem nodup_map_snoc {f : Ref × Ref → Ref} {placed : List (Ref × Ref)} {refs : Ref × Ref}
    {n : Nat} (hnodup : (placed.map f).Nodup) (hold : ∀ refs ∈ placed, f refs < n)
    (hnew : n ≤ f refs) : ((placed ++ [refs]).map f).Nodup := by
  rw [List.map_append, List.nodup_append]
  refine ⟨hnodup, List.nodup_singleton _, ?_⟩
  rintro ref href _ href' rfl
  obtain ⟨before, hbefore, rfl⟩ := List.mem_map.mp href
  have heq : f before = f refs := List.mem_singleton.mp href'
  exact absurd (heq ▸ hold before hbefore) (Nat.not_lt.mpr hnew)

section
variable {base : Values} {pairs : List (String × Values)} {loop : EntryLoop}
  {placed : List (Ref × Ref)}

/-- A config with one host adds the entry of the host. -/
theorem HoldsEntries.appendConfig (h : HoldsEntries base pairs loop placed) {config : HostConfigs}
    {pair : String × Values} (hconfig : config.rows = [pair]) :
    ∃ loop' placed', Tfplenum.appendConfig base loop config = .ok loop' ∧
      HoldsEntries base (pairs ++ [pair]) loop' placed' := by
  obtain ⟨refs, hsensor, hlist, hentry, hkeeps, hnew, hnewValues⟩ :=
    entryFor_makeEntry base loop pair
  have hold := lt_size_of_forall₂ h.entries
  refine ⟨{ makeEntry base loop pair with
      lValues := (makeEntry base loop pair).lValues ++ [refs.1] }, placed ++ [refs], ?_,
    ⟨?_, ?_, ?_, ?_⟩⟩
  · simp [Tfplenum.appendConfig, hconfig, hsensor]
  · rw [List.map_append, h.refs, hlist]
    rfl
  · exact List.rel_append (forall₂_entryFor_of_keeps hkeeps h.entries) (.cons hentry .nil)
  · exact nodup_map_snoc h.nodup (fun refs href => (hold refs href).1) hnew
  · exact nodup_map_snoc h.nodupValues (fun refs href => (hold refs href).2) hnewValues

/-- Configs of one host each come out right. -/
theorem HoldsEntries.foldlM (h : HoldsEntries base pairs loop placed) {configs : List HostConfigs}
    (hone : ∀ config ∈ configs, config.rows.length = 1) :
    ∃ loop' placed', configs.foldlM (Tfplenum.appendConfig base) loop = .ok loop' ∧
      HoldsEntries base (pairs ++ hostPairs configs) loop' placed' := by
  induction configs generalizing pairs loop placed with
  | nil =>
      refine ⟨loop, placed, rfl, ?_⟩
      simpa [hostPairs] using h
  | cons config configs ih =>
      rw [List.forall_mem_cons] at hone
      obtain ⟨pair, hpair⟩ := List.length_eq_one_iff.mp hone.1
      obtain ⟨loop₁, placed₁, hround, hfirst⟩ := h.appendConfig hpair
      obtain ⟨loop₂, placed₂, hrounds, hrest⟩ := ih hfirst hone.2
      refine ⟨loop₂, placed₂, ?_, ?_⟩
      · rw [List.foldlM_cons, hround]
        exact hrounds
      · simpa [hostPairs, hpair] using hrest

end

/-! ## What goes wrong -/

section
variable {base : Values}

theorem lValues_foldl_makeEntry (pairs : List (String × Values)) (loop : EntryLoop) :
    (pairs.foldl (makeEntry base) loop).lValues = loop.lValues := by
  induction pairs generalizing loop with
  | nil => rfl
  | cons pair pairs ih => rw [List.foldl_cons, ih, makeEntry]

/-- A round of the outer loop appends the entry that is there after it. -/
theorem exists_of_appendConfig {loop loop' : EntryLoop} {config : HostConfigs}
    (h : appendConfig base loop config = .ok loop') :
    ∃ sensordict, loop'.sensordict = some sensordict ∧
      loop'.lValues = loop.lValues ++ [sensordict] ∧
        (config.rows = [] → loop.sensordict = some sensordict) := by
  rw [appendConfig] at h
  cases hsensor : (config.rows.foldl (makeEntry base) loop).sensordict with
  | none =>
      simp only [hsensor] at h
      cases h
  | some sensordict =>
      simp only [hsensor] at h
      cases h
      refine ⟨sensordict, rfl, ?_, fun hnil => ?_⟩
      · show (config.rows.foldl (makeEntry base) loop).lValues ++ _ = _
        rw [lValues_foldl_makeEntry]
      · rw [hnil] at hsensor
        exact hsensor

/-- One entry is appended for each config, and a config without hosts repeats the one before. -/
theorem of_foldlM_appendConfig {configs : List HostConfigs} {loop loop' : EntryLoop}
    (h : configs.foldlM (appendConfig base) loop = .ok loop')
    (hlast : ∀ sensordict ∈ loop.sensordict, sensordict ∈ loop.lValues) :
    loop'.lValues.length = loop.lValues.length + configs.length ∧
      (loop'.lValues.Nodup → loop.lValues.Nodup ∧ ∀ config ∈ configs, config.rows ≠ []) := by
  induction configs generalizing loop with
  | nil =>
      cases h
      exact ⟨rfl, fun hnodup => ⟨hnodup, List.forall_mem_nil _⟩⟩
  | cons config configs ih =>
      rw [List.foldlM_cons] at h
      cases hround : appendConfig base loop config with
      | error e =>
          rw [hround] at h
          cases h
      | ok loop₁ =>
          rw [hround] at h
          obtain ⟨sensordict, hsensor, hlist, hempty⟩ := exists_of_appendConfig hround
          obtain ⟨hlength, hnodup⟩ := ih h (by
            rw [hsensor, hlist]
            rintro _ ⟨rfl⟩
            exact List.mem_append_right _ List.mem_cons_self)
          refine ⟨?_, fun hend => ?_⟩
          · rw [hlength, hlist, List.length_append, List.length_cons, List.length_cons,
              List.length_nil]
            omega
          · obtain ⟨hfirst, hrest⟩ := hnodup hend
            rw [hlist] at hfirst
            have hparts := List.nodup_append.mp hfirst
            refine ⟨hparts.1, List.forall_mem_cons.mpr ⟨fun hnil => ?_, hrest⟩⟩
            -- the entry of the config before is in the list already
            have hmem := hlast sensordict (hempty hnil)
            exact hparts.2.2 sensordict hmem sensordict List.mem_cons_self rfl

/-- As many pairs as configs, none of which is empty, are one each. -/
theorem length_eq_one_of_length_hostPairs {configs : List HostConfigs}
    (hlength : (hostPairs configs).length = configs.length)
    (hne : ∀ config ∈ configs, config.rows ≠ []) : ∀ config ∈ configs, config.rows.length = 1 := by
  have hle : ∀ configs : List HostConfigs, (∀ config ∈ configs, config.rows ≠ []) →
      configs.length ≤ (hostPairs configs).length := by
    intro configs hne
    induction configs with
    | nil => exact Nat.zero_le _
    | cons config configs ih =>
        rw [List.forall_mem_cons] at hne
        have hpos := List.length_pos_of_ne_nil hne.1
        have hrest := ih hne.2
        simp only [hostPairs, List.flatMap_cons, List.length_append, List.length_cons] at hrest ⊢
        omega
  induction configs with
  | nil => exact List.forall_mem_nil _
  | cons config configs ih =>
      rw [List.forall_mem_cons] at hne ⊢
      have hpos := List.length_pos_of_ne_nil hne.1
      have hrest := hle configs hne.2
      simp only [hostPairs, List.flatMap_cons, List.length_append, List.length_cons]
        at hlength hrest
      refine ⟨by omega, ih ?_ hne.2⟩
      simp only [hostPairs]
      omega

end

/-- No configuration is lost exactly if every config is of one host, or if the chart has no
    values and there is nothing to configure. -/
theorem losesNothing_iff {env : CatalogEnv} {configs : Option (List HostConfigs)}
    {values base : Values} (hvalues : env.getValues = .ok values)
    (hbase : fillIn (fillSteps env) values = base) :
    LosesNoValues base (configs.getD []) (generateValues env configs) ↔
      if base.rows = [] then hostPairs (configs.getD []) = []
      else ∀ config ∈ configs.getD [], config.rows.length = 1 := by
  generalize hlist : configs.getD [] = list
  simp only [generateValues, hvalues, hbase, hlist]
  by_cases hempty : base.rows = []
  · -- nothing is computed, and the result is the empty list
    simp only [hempty, List.isEmpty_nil, Bool.not_true, Bool.and_false, Bool.false_eq_true,
      if_false, if_true, LosesNoValues]
    constructor
    · rintro ⟨placed, hright⟩
      have hplaced : placed = [] := List.map_eq_nil_iff.mp hright.refs
      have hentries := hright.entries
      rw [hplaced, List.forall₂_nil_right_iff] at hentries
      exact hentries
    · intro hnone
      exact ⟨[], rfl, by rw [hnone]; exact .nil, List.nodup_nil, List.nodup_nil⟩
  · have hfull : (!base.rows.isEmpty) = true := by simpa using hempty
    rw [if_neg hempty]
    simp only [hfull, Bool.and_true]
    by_cases hlist' : list = []
    · -- the plain values
      simp [hlist', LosesNoValues, hostPairs]
    · have hsome : (!list.isEmpty) = true := by simpa using hlist'
      simp only [hsome, if_true]
      constructor
      · intro hright
        cases hrun : list.foldlM (appendConfig base) ⟨⟨.empty, .empty⟩, none, []⟩ with
        | error e =>
            rw [hrun] at hright
            exact hright.elim
        | ok loop =>
            rw [hrun] at hright
            obtain ⟨placed, hright⟩ := hright
            obtain ⟨hlength, hnodup⟩ := of_foldlM_appendConfig hrun (by simp)
            have hne := (hnodup (hright.refs ▸ hright.nodup)).2
            refine length_eq_one_of_length_hostPairs ?_ hne
            rw [hright.entries.length_eq, ← List.length_map Prod.fst, hright.refs, hlength]
            simp
      · intro hone
        have hstart : HoldsEntries base [] ⟨⟨.empty, .empty⟩, none, []⟩ [] :=
          ⟨rfl, .nil, List.nodup_nil, List.nodup_nil⟩
        obtain ⟨loop, placed, hrun, hholds⟩ := hstart.foldlM hone
        rw [hrun]
        exact ⟨placed, hholds.refs, by simpa using hholds.entries, hholds.nodup,
          hholds.nodupValues⟩

/-! ## Two sensors -/

/-- A chart of which nothing is filled in -/
def zeekValues : Values := ⟨[("workers", .num 4)], List.nodup_singleton _⟩

def zeekEnv : CatalogEnv where
  getValues := .ok zeekValues
  getDomain := .ok (.str "lan")
  getAuthBase := .ok (.str "https://controller.lan/auth")
  getElasticNodes := fun _ => .ok []
  getLogstashNodes := .ok []
  getDriveType := .ok false
  getControllerIp := .ok "10.40.12.10"

def sensorValues (workers : Int) : Values := ⟨[("workers", .num workers)], List.nodup_singleton _⟩

def oneSensor (hostname : String) (workers : Int) : HostConfigs :=
  ⟨[(hostname, sensorValues workers)], List.nodup_singleton _⟩

/-- One config with both sensors -/
def twoSensors : HostConfigs :=
  ⟨[("sensor1.lan", sensorValues 2), ("sensor2.lan", sensorValues 8)], by decide⟩

theorem losesNothing_iff_sensors :
    LosesNoValues zeekValues [oneSensor "sensor1.lan" 2, oneSensor "sensor2.lan" 8]
        (generateValues zeekEnv (some [oneSensor "sensor1.lan" 2, oneSensor "sensor2.lan" 8])) ↔
      if zeekValues.rows = [] then
        hostPairs [oneSensor "sensor1.lan" 2, oneSensor "sensor2.lan" 8] = []
      else ∀ config ∈ [oneSensor "sensor1.lan" 2, oneSensor "sensor2.lan" 8],
        config.rows.length = 1 :=
  @losesNothing_iff zeekEnv (some [oneSensor "sensor1.lan" 2, oneSensor "sensor2.lan" 8])
    zeekValues zeekValues rfl rfl

/-- The first of two sensors in one config is lost. -/
theorem generateValues_twoSensors :
    ¬ LosesNoValues zeekValues [twoSensors] (generateValues zeekEnv (some [twoSensors])) := by
  obtain ⟨store, hrun⟩ : ∃ store,
      generateValues zeekEnv (some [twoSensors]) = .ok (.entries [1], store) := ⟨_, rfl⟩
  rw [hrun]
  rintro ⟨placed, hright⟩
  have hlength : (placed.map Prod.fst).length = 2 := by
    rw [List.length_map, ← hright.entries.length_eq]
    rfl
  rw [hright.refs] at hlength
  cases hlength

end Tfplenum
