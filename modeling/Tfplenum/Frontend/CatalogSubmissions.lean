/-
  Tfplenum.Frontend.CatalogSubmissions

  What the catalog page submits, over whole runs of it.

  A submission has an entry for each name of the values form, which no event removes:
  it is right as long as the form has the selected nodes' names only (`right_iff`).
  It leaves objects where it found texts, and `JSON.parse(value.toString())` does not
  give an object back: it can be made again as it was only if all its values are read
  back (`resubmits_iff`).  Of a run, that makes a condition on each step
  (`correct_iff_along`).
-/

import Tfplenum.Frontend.CatalogPage

namespace Tfplenum

open Lib

/-! ## What a submission is to be -/

/-- The object that a value of the form shows -/
def JsonText.shownObject (json : JsonText) : JsValue → Option JsValue
  | .string s => json.parse s
  | value => some value

/-- The value after so many rounds of `JSON.parse(value.toString())` -/
def JsonText.readTimes (json : JsonText) : Nat → JsValue → Option JsValue
  | 0, value => some value
  | n + 1, value => (json.reads value).bind (json.readTimes n)

section

variable {json : JsonText} {chart : CatalogChart}

/-- There is one entry for each of the nodes, with its name and the object shown for it. -/
def HelmSubmission.Right (submission : HelmSubmission json) : Prop :=
  (submission.values.map fun entry => (entry.1, some entry.2)).Perm
    (submission.names.map fun name =>
      (name, (submission.shown.get? name).bind json.shownObject))

/-- From the form that it leaves, the same values are submitted again. -/
def HelmSubmission.Resubmits (submission : HelmSubmission json) : Prop :=
  ∃ left, makeValuesArray json submission.names submission.left = (left, some submission.values)

/-- Every submission by then was right, and those that failed could be made again. -/
structure CatalogPage.Correct (page : CatalogPage json) : Prop where
  right : ∀ submission ∈ page.submitted, submission.Right
  resubmits : ∀ submission ∈ page.failed, submission.Resubmits

/-! ## The condition on a step -/

/-- The values of the names can be read, each as often as it is named. -/
def Readable (json : JsonText) (names : List String) (form : Table String JsValue) : Prop :=
  ∀ name ∈ names, ((form.get? name).bind (json.readTimes (names.count name))).isSome = true

/-- The form has these names only, which are different, and each value is a text or what is
    read of it. -/
structure Clean (json : JsonText) (names : List String) (form : Table String JsValue) :
    Prop where
  named : ∀ name ∈ form.rows.map Prod.fst, name ∈ names
  nodup : names.Nodup
  same : ∀ name ∈ names, ∀ value, form.get? name = some value →
    value.isString = true ∨ json.reads value = some value

/-- The values of the names are what is read of them, as often as they are named. -/
def ValuesReadBack (json : JsonText) (names : List String) (form : Table String JsValue) : Prop :=
  ∀ name ∈ names, ∃ value, form.get? name = some value ∧
    json.readTimes (names.count name) value = some value

/-- An install or a reinstall is run from a clean form, if its values can be read at all, and
    fails only if its values read back. -/
def CatalogPage.Meets (page : CatalogPage json) : CatalogPageEvent → Prop
  | .run => page.component.selectedProcess = some .install ∨
      page.component.selectedProcess = some .reinstall →
        Readable json page.component.names page.component.valueFormGroup →
          Clean json page.component.names page.component.valueFormGroup
  | .responded k false => ∀ submission, page.requests[k]? = some (some submission) →
      ValuesReadBack json submission.names submission.left
  | _ => True

/-! ## The parsed values -/

variable {names : List String} {form : Table String JsValue}

theorem keys_parseValues (names : List String) (form : Table String JsValue) :
    (parseValues json names form).1.rows.map Prod.fst = form.rows.map Prod.fst := by
  induction names generalizing form with
  | nil => rfl
  | cons name names ih =>
      rw [parseValues]
      split
      · rw [ih, Table.keys_modify]
      · rfl

/-- Parsing the first value leaves one round less for its name. -/
theorem readTimes_modify {name : String} {value : JsValue}
    (h : (form.get? name).bind json.reads = some value) (key : String) :
    ((form.modify name fun _ => value).get? key).bind (json.readTimes (names.count key)) =
      (form.get? key).bind (json.readTimes ((name :: names).count key)) := by
  rw [Table.get?_modify]
  by_cases hkey : key = name
  · subst hkey
    obtain ⟨shown, hshown, hread⟩ := Option.bind_eq_some_iff.mp h
    rw [if_pos rfl, hshown, List.count_cons_self]
    show json.readTimes (names.count key) value =
      (json.reads shown).bind (json.readTimes (names.count key))
    rw [hread]
    rfl
  · rw [if_neg hkey, List.count_cons_of_ne (Ne.symm hkey)]

theorem get?_parseValues (h : (parseValues json names form).2 = true) (key : String) :
    (parseValues json names form).1.get? key =
      (form.get? key).bind (json.readTimes (names.count key)) := by
  induction names generalizing form with
  | nil =>
      show form.get? key = (form.get? key).bind some
      rw [Option.bind_fun_some]
  | cons name names ih =>
      rw [parseValues] at h ⊢
      split at h
      · rename_i value hread
        rw [ih h, readTimes_modify hread]
      · exact absurd h Bool.false_ne_true

theorem parseValues_iff : (parseValues json names form).2 = true ↔ Readable json names form := by
  induction names generalizing form with
  | nil => exact ⟨fun _ name hname => absurd hname List.not_mem_nil, fun _ => rfl⟩
  | cons name names ih =>
      rw [parseValues]
      cases hread : (form.get? name).bind json.reads with
      | none =>
          refine ⟨fun h => absurd h Bool.false_ne_true, fun h => ?_⟩
          -- the first round for the name fails already
          have hname := h name List.mem_cons_self
          rw [List.count_cons_self] at hname
          have hnone : (form.get? name).bind (json.readTimes (names.count name + 1)) =
              ((form.get? name).bind json.reads).bind (json.readTimes (names.count name)) :=
            (Option.bind_assoc ..).symm
          rw [hnone, hread] at hname
          exact absurd hname Bool.false_ne_true
      | some value =>
          dsimp only
          rw [ih]
          have hrounds := @readTimes_modify json names form name value hread
          constructor
          · intro h key hkey
            rw [← hrounds key]
            by_cases hlater : key ∈ names
            · exact h key hlater
            · rcases List.mem_cons.mp hkey with rfl | hkey
              · obtain ⟨shown, hshown, -⟩ := Option.bind_eq_some_iff.mp hread
                rw [List.count_eq_zero.mpr hlater, Table.get?_modify, if_pos rfl, hshown]
                rfl
              · exact absurd hkey hlater
          · intro h key hkey
            rw [hrounds key]
            exact h key (List.mem_cons_of_mem _ hkey)

/-- The array is made if the values can be read, and has the form's rows. -/
theorem makeValuesArray_eq_some_iff {left : Table String JsValue}
    {values : List (String × JsValue)} :
    makeValuesArray json names form = (left, some values) ↔
      Readable json names form ∧ (parseValues json names form).1 = left ∧ left.rows = values := by
  rw [← parseValues_iff, makeValuesArray]
  rcases parseValues json names form with ⟨form', parsed⟩
  cases parsed with
  | false => simp
  | true =>
      simp only [if_true, Prod.mk.injEq, Option.some.injEq, true_and]
      exact and_congr_right fun heq => by rw [heq]

/-! ## The names of the values form -/

namespace CatalogPageComponent

variable {component : CatalogPageComponent} {name : String}

/-- The values form has a control of that name. -/
def HasControl (name : String) (component : CatalogPageComponent) : Prop :=
  (component.valueFormGroup.get? name).isSome = true

theorem HasControl.setValueFormGroup (h : HasControl name component) (object : JsValue)
    (id : String) : HasControl name (component.setValueFormGroup json object id) := by
  rw [HasControl, CatalogPageComponent.setValueFormGroup]
  dsimp only
  rw [Table.get?_upsert]
  split
  · rfl
  · exact h

theorem HasControl.compareValue (h : HasControl name component) (id : String)
    (savedValue : JsFields) (config : String × JsFields) :
    HasControl name (component.compareValue json chart id savedValue config) := by
  rw [CatalogPageComponent.compareValue]
  split
  · extract_lets configObject
    split
    · exact h.setValueFormGroup ..
    · exact h
  · exact h

theorem HasControl.compareValues (h : HasControl name component) :
    HasControl name (component.compareValues json chart) := by
  rw [CatalogPageComponent.compareValues]
  -- no round of the three loops takes the control away
  refine List.foldlRecOn (motive := HasControl name) _ _ h fun component h id _ => ?_
  refine List.foldlRecOn (motive := HasControl name) _ _ h fun component h savedValue _ => ?_
  exact List.foldlRecOn (motive := HasControl name) _ _ h fun component h config _ =>
    h.compareValue ..

theorem HasControl.getValuesFile (h : HasControl name component) :
    HasControl name (component.getValuesFile json chart) := by
  rw [CatalogPageComponent.getValuesFile]
  dsimp only
  split
  · split
    · refine List.foldlRecOn (motive := HasControl name) _ _ h fun component h savedValue _ => ?_
      refine List.foldlRecOn (motive := HasControl name) _ _ h fun component h id _ => ?_
      rw [valuesOf]
      split
      · exact h.compareValues
      · exact h
    · exact h
  · exact h

theorem HasControl.initializeConfigFormGroup (h : HasControl name component) :
    HasControl name (component.initializeConfigFormGroup json chart) := by
  rw [CatalogPageComponent.initializeConfigFormGroup]
  refine List.foldlRecOn (motive := HasControl name) _ _ h fun component h id _ => ?_
  rw [addConfig]
  dsimp only
  split
  · exact h
  · exact h

theorem HasControl.serverAnyValueCheck (h : HasControl name component) :
    HasControl name (component.serverAnyValueCheck chart) := by
  rw [CatalogPageComponent.serverAnyValueCheck]
  split
  · exact h
  · exact h

theorem HasControl.selectionChangeStepper (h : HasControl name component) (index : Nat) :
    HasControl name (component.selectionChangeStepper json chart index) := by
  rw [CatalogPageComponent.selectionChangeStepper]
  split
  · dsimp only
    split
    · exact h.serverAnyValueCheck.initializeConfigFormGroup
    · exact h.serverAnyValueCheck
  · split
    · exact h.getValuesFile
    · exact h

theorem HasControl.valuesGenerated (h : HasControl name component) (response : List JsFields) :
    HasControl name (component.valuesGenerated json response) := by
  rw [CatalogPageComponent.valuesGenerated]
  refine List.foldlRecOn (motive := HasControl name) _ _ h fun component h id _ => ?_
  refine List.foldlRecOn (motive := HasControl name) _ _ h fun component h object _ => ?_
  dsimp only
  split
  · exact h.setValueFormGroup ..
  · exact h

end CatalogPageComponent

/-! ## Submissions -/

/-- A value is read as it is shown if it is a text, or what is read of it. -/
theorem reads_eq_shownObject_iff {value read : JsValue} (h : json.reads value = some read) :
    json.shownObject value = some read ↔
      value.isString = true ∨ json.reads value = some value := by
  rw [h]
  cases value with
  | string s => exact ⟨fun _ => .inl rfl, fun _ => h⟩
  | _ =>
      simp only [JsonText.shownObject, JsValue.isString, Bool.false_eq_true, false_or]
      exact eq_comm

/-- A submission is right exactly if the form was clean. -/
theorem HelmSubmission.right_iff (submission : HelmSubmission json) :
    submission.Right ↔ Clean json submission.names submission.shown := by
  obtain ⟨process, names, shown, left, values, hsent⟩ := submission
  obtain ⟨hreadable, rfl, rfl⟩ := makeValuesArray_eq_some_iff.mp hsent
  have hget := get?_parseValues (parseValues_iff.mpr hreadable)
  -- of different names, each value has been read once
  have hread : names.Nodup → ∀ name ∈ names, ∃ value read, shown.get? name = some value ∧
      json.reads value = some read ∧
      (parseValues json names shown).1.get? name = some read := by
    intro hnodup name hname
    obtain ⟨read, hbind⟩ := Option.isSome_iff_exists.mp (hreadable name hname)
    have hleft := (hget name).trans hbind
    rw [List.count_eq_one_of_mem hnodup hname] at hbind
    obtain ⟨value, hvalue, hone⟩ := Option.bind_eq_some_iff.mp hbind
    obtain ⟨read', hread', hzero⟩ := Option.bind_eq_some_iff.mp hone
    obtain rfl := Option.some.inj hzero
    exact ⟨value, read', hvalue, hread', hleft⟩
  show (((parseValues json names shown).1.rows.map fun entry => (entry.1, some entry.2)).Perm
    (names.map fun name => (name, (shown.get? name).bind json.shownObject))) ↔ _
  -- the array has the keys of the form, whether they were parsed or not
  rw [Table.map_some_rows, keys_parseValues]
  constructor
  · intro hperm
    have hnames : (shown.rows.map Prod.fst).Perm names := by
      have hfst := hperm.map Prod.fst
      rw [List.map_map, List.map_map] at hfst
      simpa [Function.comp_def] using hfst
    have hnodup := hnames.nodup_iff.mp shown.nodup
    refine ⟨fun name hname => hnames.mem_iff.mp hname, hnodup, fun name hname value hvalue => ?_⟩
    obtain ⟨shownValue, read, hshown, hreads, hleft⟩ := hread hnodup name hname
    obtain rfl := Option.some.inj (hvalue.symm.trans hshown)
    have hmem := hperm.mem_iff.mpr (List.mem_map_of_mem hname)
    obtain ⟨key, -, heq⟩ := List.mem_map.mp hmem
    obtain ⟨rfl, heq⟩ := Prod.mk.inj heq
    rw [hleft, hvalue] at heq
    exact (reads_eq_shownObject_iff hreads).mp heq.symm
  · rintro ⟨hnamed, hnodup, hsame⟩
    have hnames : (shown.rows.map Prod.fst).Perm names := by
      rw [List.perm_ext_iff_of_nodup shown.nodup hnodup]
      refine fun name => ⟨hnamed name, fun hname => ?_⟩
      obtain ⟨value, -, hvalue, -⟩ := hread hnodup name hname
      exact List.mem_map_of_mem (Table.get?_eq_some_iff.mp hvalue)
    refine (hnames.map _).trans (.of_eq (List.map_congr_left fun name hname => ?_))
    obtain ⟨value, read, hvalue, hreads, hleft⟩ := hread hnodup name hname
    rw [hleft, hvalue, Option.bind_some,
      (reads_eq_shownObject_iff hreads).mpr (hsame name hname value hvalue)]

/-- A submission can be made again exactly if its values read back. -/
theorem HelmSubmission.resubmits_iff (submission : HelmSubmission json) :
    submission.Resubmits ↔ ValuesReadBack json submission.names submission.left := by
  obtain ⟨process, names, shown, left, values, hsent⟩ := submission
  obtain ⟨-, -, rfl⟩ := makeValuesArray_eq_some_iff.mp hsent
  constructor
  · rintro ⟨left', hagain⟩
    -- another round would send what has been left, which is what it reads
    obtain ⟨hreadable, rfl, hrows⟩ := makeValuesArray_eq_some_iff.mp hagain
    have hsame : (parseValues json names left).1 = left := Table.ext hrows
    have hget := get?_parseValues (parseValues_iff.mpr hreadable)
    rw [hsame] at hget
    intro name hname
    obtain ⟨read, hbind⟩ := Option.isSome_iff_exists.mp (hreadable name hname)
    obtain ⟨value, hvalue, hrounds⟩ := Option.bind_eq_some_iff.mp hbind
    have heq := (hget name).trans hbind
    rw [hvalue] at heq
    obtain rfl := Option.some.inj heq
    exact ⟨value, hvalue, hrounds⟩
  · intro hback
    have hreadable : Readable json names left := by
      intro name hname
      obtain ⟨value, hvalue, hrounds⟩ := hback name hname
      rw [hvalue, Option.bind_some, hrounds]
      rfl
    refine ⟨_, makeValuesArray_eq_some_iff.mpr ⟨hreadable, rfl, congrArg Table.rows ?_⟩⟩
    refine Table.ext_get? (keys_parseValues ..) fun key => ?_
    rw [get?_parseValues (parseValues_iff.mpr hreadable)]
    by_cases hkey : key ∈ names
    · obtain ⟨value, hvalue, hrounds⟩ := hback key hkey
      rw [hvalue, Option.bind_some, hrounds]
    · -- no round is made for the other keys
      rw [List.count_eq_zero.mpr hkey]
      exact Option.bind_fun_some _

/-- An object is not read back, as "[object Object]" does not parse: a submission with one for
    a node cannot be made again. -/
theorem HelmSubmission.not_resubmits_of_object (hparse : json.parse "[object Object]" = none)
    {submission : HelmSubmission json} {name : String} {fields : JsFields}
    (hname : name ∈ submission.names)
    (hvalue : submission.left.get? name = some (.object fields)) : ¬submission.Resubmits := by
  rw [submission.resubmits_iff]
  intro hback
  obtain ⟨value, hget, hrounds⟩ := hback name hname
  obtain rfl := Option.some.inj (hvalue.symm.trans hget)
  obtain ⟨n, hn⟩ := Nat.exists_eq_add_of_lt (List.count_pos_iff.mpr hname)
  have hnone : json.reads (.object fields) = none := hparse
  rw [hn, Nat.zero_add, JsonText.readTimes, hnone] at hrounds
  exact absurd hrounds.symm (Option.some_ne_none _)

/-! ## Runs -/

variable {page page' : CatalogPage json}

theorem CatalogPage.hasControl_submit {name : String} (h : page.component.HasControl name)
    (process : CatalogProcess) : (page.submit process).component.HasControl name := by
  have hkeys : ∀ {left values}, makeValuesArray json page.component.names
      page.component.valueFormGroup = (left, values) → (left.get? name).isSome = true := by
    intro left values hmade
    rw [makeValuesArray] at hmade
    obtain ⟨rfl, -⟩ := Prod.mk.inj hmade
    rw [Table.isSome_get?_iff, keys_parseValues, ← Table.isSome_get?_iff]
    exact h
  rw [CatalogPage.submit]
  dsimp only
  split
  · rename_i hsent
    exact hkeys hsent
  · rename_i hsent
    exact hkeys hsent

theorem CatalogPage.hasControl_runChartAction {name : String}
    (h : page.component.HasControl name) :
    (page.runChartAction chart).component.HasControl name := by
  rw [CatalogPage.runChartAction]
  split
  · exact hasControl_submit h .install
  · exact hasControl_submit h .reinstall
  · exact h.serverAnyValueCheck
  · exact h

/-- No step removes a control of the values form. -/
theorem CatalogPage.hasControl_step {name : String} {event : CatalogPageEvent}
    (hstep : page.step chart event = some page') (h : page.component.HasControl name) :
    page'.component.HasControl name := by
  cases event with
  | select index =>
      obtain ⟨-, heq⟩ := Option.ite_none_right_eq_some.mp hstep
      rw [← Option.some.inj heq]
      exact h.selectionChangeStepper index
  | run =>
      obtain ⟨-, heq⟩ := Option.ite_none_right_eq_some.mp hstep
      rw [← Option.some.inj heq]
      exact hasControl_runChartAction h
  | valuesGenerated response =>
      obtain ⟨-, heq⟩ := Option.ite_none_right_eq_some.mp hstep
      rw [← Option.some.inj heq]
      have hless : CatalogPageComponent.HasControl name
        { page.component with generating := page.component.generating - 1 } := h
      exact hless.valuesGenerated response
  | editText id text =>
      -- the text is put into a control that is there
      obtain ⟨-, heq⟩ := Option.ite_none_right_eq_some.mp hstep
      rw [← Option.some.inj heq]
      rw [CatalogPageComponent.HasControl, Table.isSome_get?_iff] at h ⊢
      dsimp only
      split
      · rw [Table.keys_modify]
        exact h
      · exact h
  | responded k success =>
      obtain ⟨-, heq⟩ := Option.ite_none_left_eq_some.mp hstep
      split at heq
      · dsimp only at heq
        split at heq
        · rw [← Option.some.inj heq]
          exact h
        · rw [← Option.some.inj heq]
          exact h
      · cases heq
  | cancel =>
      obtain ⟨-, heq⟩ := Option.ite_none_left_eq_some.mp hstep
      rw [← Option.some.inj heq]
      exact h
  | configure hostname name value =>
      obtain ⟨-, heq⟩ := Option.ite_none_left_eq_some.mp hstep
      rw [← Option.some.inj heq]
      exact h
  | _ =>
      obtain ⟨-, heq⟩ := Option.ite_none_right_eq_some.mp hstep
      rw [← Option.some.inj heq]
      exact h

/-- A control stays in the values form to the end of the run, whichever nodes are selected. -/
theorem CatalogPage.hasControl_after {name : String} {events : List CatalogPageEvent}
    (hrun : Steps.after (CatalogPage.step chart) page events = some page')
    (h : page.component.HasControl name) : page'.component.HasControl name :=
  Steps.after_invariant (I := fun page => page.component.HasControl name)
    (fun _ _ _ => hasControl_step) hrun h

/-- What neither submits anything nor fails changes nothing here. -/
theorem CatalogPage.correct_and_iff {P : Prop} (hsubmitted : page'.submitted = page.submitted)
    (hfailed : page'.failed = page.failed) (hP : P) :
    page'.Correct ↔ page.Correct ∧ P := by
  rw [and_iff_left hP]
  constructor
  · rintro ⟨hright, hresubmits⟩
    exact ⟨hsubmitted ▸ hright, hfailed ▸ hresubmits⟩
  · rintro ⟨hright, hresubmits⟩
    exact ⟨hsubmitted ▸ hright, hfailed ▸ hresubmits⟩

/-- An install or a reinstall keeps the page correct exactly if its form is clean. -/
theorem CatalogPage.correct_submit (process : CatalogProcess) :
    (page.submit process).Correct ↔ page.Correct ∧
      (Readable json page.component.names page.component.valueFormGroup →
        Clean json page.component.names page.component.valueFormGroup) := by
  rw [CatalogPage.submit]
  dsimp only
  split
  · rename_i left values hsent
    have hreadable := (makeValuesArray_eq_some_iff.mp hsent).1
    have hright := HelmSubmission.right_iff ⟨process, _, _, left, values, hsent⟩
    dsimp only at hright
    rw [← hright]
    constructor
    · rintro ⟨hsubmitted, hfailed⟩
      obtain ⟨hbefore, hnow⟩ := List.forall_mem_append.mp hsubmitted
      exact ⟨⟨hbefore, hfailed⟩, fun _ => hnow _ (List.mem_singleton_self _)⟩
    · rintro ⟨⟨hsubmitted, hfailed⟩, hnow⟩
      refine ⟨List.forall_mem_append.mpr ⟨hsubmitted, fun submission hmem => ?_⟩, hfailed⟩
      rw [List.mem_singleton.mp hmem]
      exact hnow hreadable
  · -- nothing is submitted
    rename_i left hsent
    refine correct_and_iff rfl rfl fun hreadable => ?_
    have hmade := makeValuesArray_eq_some_iff.mpr ⟨hreadable, rfl, rfl⟩
    rw [hsent] at hmade
    cases hmade

theorem CatalogPage.correct_runChartAction :
    (page.runChartAction chart).Correct ↔ page.Correct ∧ page.Meets .run := by
  rw [CatalogPage.runChartAction, CatalogPage.Meets]
  cases hprocess : page.component.selectedProcess with
  | none => exact correct_and_iff rfl rfl (by simp)
  | some process =>
      cases process with
      | install => simpa using correct_submit .install
      | reinstall => simpa using correct_submit .reinstall
      | uninstall => exact correct_and_iff rfl rfl (by simp)

/-- A request fails. -/
theorem CatalogPage.correct_failed {k : Nat} {request : Option (HelmSubmission json)}
    (hrequest : page.requests[k]? = some request)
    (hsubmitted : page'.submitted = page.submitted)
    (hfailed : page'.failed = page.failed ++ request.toList) :
    page'.Correct ↔ page.Correct ∧ page.Meets (.responded k false) := by
  rw [CatalogPage.Meets, hrequest]
  cases request with
  | none =>
      rw [Option.toList_none, List.append_nil] at hfailed
      exact correct_and_iff hsubmitted hfailed fun submission h => nomatch h
  | some submission =>
      rw [Option.toList_some] at hfailed
      have hback := submission.resubmits_iff
      constructor
      · rintro ⟨hright, hresubmits⟩
        rw [hfailed, List.forall_mem_append] at hresubmits
        refine ⟨⟨hsubmitted ▸ hright, hresubmits.1⟩, fun other hother => ?_⟩
        obtain rfl := Option.some.inj (Option.some.inj hother)
        exact hback.mp (hresubmits.2 _ (List.mem_singleton_self _))
      · rintro ⟨⟨hright, hresubmits⟩, hmeets⟩
        refine ⟨hsubmitted ▸ hright, ?_⟩
        rw [hfailed, List.forall_mem_append]
        refine ⟨hresubmits, fun other hother => ?_⟩
        rw [List.mem_singleton.mp hother]
        exact hback.mpr (hmeets submission rfl)

/-- A step keeps the page correct exactly if it meets its condition. -/
theorem CatalogPage.correct_step {event : CatalogPageEvent}
    (hstep : page.step chart event = some page') :
    page'.Correct ↔ page.Correct ∧ page.Meets event := by
  cases event with
  | run =>
      obtain ⟨-, heq⟩ := Option.ite_none_right_eq_some.mp hstep
      rw [← Option.some.inj heq]
      exact correct_runChartAction
  | responded k success =>
      obtain ⟨-, heq⟩ := Option.ite_none_left_eq_some.mp hstep
      split at heq
      · rename_i request hrequest
        cases success with
        | true =>
            rw [← Option.some.inj heq]
            exact correct_and_iff rfl rfl trivial
        | false =>
            rw [← Option.some.inj heq]
            exact correct_failed hrequest rfl rfl
      · cases heq
  | cancel =>
      obtain ⟨-, heq⟩ := Option.ite_none_left_eq_some.mp hstep
      rw [← Option.some.inj heq]
      exact correct_and_iff rfl rfl trivial
  | configure hostname name value =>
      obtain ⟨-, heq⟩ := Option.ite_none_left_eq_some.mp hstep
      rw [← Option.some.inj heq]
      exact correct_and_iff rfl rfl trivial
  | _ =>
      obtain ⟨-, heq⟩ := Option.ite_none_right_eq_some.mp hstep
      rw [← Option.some.inj heq]
      exact correct_and_iff rfl rfl trivial

/-- In a run, all submissions are right and those that fail can be made again, exactly if every
    step of it meets its condition. -/
theorem correct_iff_along (json : JsonText) (chart : CatalogChart) (nodes : Table String NodeClass)
    (events : List CatalogPageEvent) (page : CatalogPage json)
    (hrun : Steps.after (CatalogPage.step chart) (.init json nodes) events = some page) :
    page.Correct ↔ Steps.Along (CatalogPage.step chart) CatalogPage.Meets (.init json nodes)
      events := by
  have hinit : (CatalogPage.init json nodes).Correct :=
    ⟨fun submission hmem => absurd hmem List.not_mem_nil,
      fun submission hmem => absurd hmem List.not_mem_nil⟩
  rw [Steps.after_iff_along (fun _ _ _ hstep => CatalogPage.correct_step hstep) hrun]
  exact and_iff_right hinit

end

/-! ## Two sensors -/

/-- The values file of a deployment -/
def exampleValues (deploymentName : String) : JsValue :=
  .object [("deployment_name", .string deploymentName)]

/-- Its text -/
def exampleText (deploymentName : String) : String :=
  "\x7b\n  \"deployment_name\": \"" ++ deploymentName ++ "\"\n\x7d"

/-- `JSON` on the texts of these values files -/
def exampleJson : JsonText where
  parse text :=
    if text = exampleText "sensor1-zeek" then some (exampleValues "sensor1-zeek")
    else if text = exampleText "sensor2-zeek" then some (exampleValues "sensor2-zeek")
    else none
  stringify _ value := exampleText (JsValue.propertyKey (value.field "deployment_name"))

def exampleNodes : Table String NodeClass where
  rows := [("1", ⟨"sensor1.lan", "Sensor", "undefined"⟩),
    ("2", ⟨"sensor2.lan", "Sensor", "undefined"⟩)]
  nodup := by decide

/-- Zeek, which is not installed -/
def exampleChart : CatalogChart where
  id := "zeek"
  nodeAffinity := "Sensor"
  formControls := []
  statuses := []
  children process := if process = .install then ["1", "2"] else []
  serviceNodeAvailable := false

/-- The way through the steps to an install on a sensor -/
def exampleInstall (id hostname deploymentName : String) : List CatalogPageEvent :=
  [.chooseProcess .install, .chooseNodes [id], .select 1, .select 2,
    .valuesGenerated [[(hostname, exampleValues deploymentName)]]]

/-- It is run, and succeeds. -/
def exampleSuccess : List CatalogPageEvent :=
  exampleInstall "1" "sensor1.lan" "sensor1-zeek" ++ [.run, .responded 0 true]

/-- It is run, and fails. -/
def exampleFailure : List CatalogPageEvent :=
  exampleInstall "1" "sensor1.lan" "sensor1-zeek" ++ [.run, .responded 0 false]

/-- The user goes back and chooses the other sensor instead. -/
def exampleOther : List CatalogPageEvent :=
  exampleInstall "1" "sensor1.lan" "sensor1-zeek" ++ [.select 1, .select 0] ++
    exampleInstall "2" "sensor2.lan" "sensor2-zeek" ++ [.run]

theorem correct_iff_along_success :
    ∃ page, Steps.after (CatalogPage.step exampleChart) (.init exampleJson exampleNodes)
        exampleSuccess = some page ∧
      page.submitted.map HelmSubmission.values =
        [[("sensor1-zeek", exampleValues "sensor1-zeek")]] ∧ page.Correct := by
  refine ⟨_, rfl, rfl,
    (correct_iff_along exampleJson exampleChart exampleNodes exampleSuccess _ rfl).mpr ?_⟩
  refine Steps.along_cons_of_step rfl trivial ?_
  refine Steps.along_cons_of_step rfl trivial ?_
  refine Steps.along_cons_of_step rfl trivial ?_
  refine Steps.along_cons_of_step rfl trivial ?_
  refine Steps.along_cons_of_step rfl trivial ?_
  refine Steps.along_cons_of_step rfl ?_ ?_
  · -- the values form has the one text
    refine fun _ _ => ⟨by decide, by decide, fun name hname value hvalue => ?_⟩
    obtain rfl := List.mem_singleton.mp hname
    obtain rfl := Option.some.inj hvalue
    exact .inl rfl
  · exact Steps.along_cons_of_step rfl trivial trivial

/-- The first sensor's entry is submitted for the second one; and the values that failed for the
    first sensor are not submitted again. -/
theorem not_correct_sensors :
    (¬∀ (json : JsonText) (chart : CatalogChart) (nodes : Table String NodeClass)
      (events : List CatalogPageEvent) (page : CatalogPage json),
      Steps.after (CatalogPage.step chart) (.init json nodes) events = some page →
        ∀ submission ∈ page.submitted, submission.Right) ∧
    ¬∀ (json : JsonText) (chart : CatalogChart) (nodes : Table String NodeClass)
      (events : List CatalogPageEvent) (page : CatalogPage json),
      Steps.after (CatalogPage.step chart) (.init json nodes) events = some page →
        ∀ submission ∈ page.failed, submission.Resubmits := by
  constructor
  · intro h
    have hright := h exampleJson exampleChart exampleNodes exampleOther _ rfl _
      (List.mem_singleton_self _)
    -- two entries for one node
    exact absurd hright.length_eq (by decide)
  · intro h
    have hresubmits := h exampleJson exampleChart exampleNodes exampleFailure _ rfl _
      (List.mem_singleton_self _)
    exact HelmSubmission.not_resubmits_of_object (by decide) (List.mem_singleton_self _) rfl
      hresubmits

end Tfplenum
