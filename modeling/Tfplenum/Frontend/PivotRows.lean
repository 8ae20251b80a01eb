/-
  Tfplenum.Frontend.PivotRows

  What the links of a row should say (`LinksRight`), for every reader of Kibana's and of
  Arkime's texts: the conditions of the row, and a time range that contains the window of
  the page.

  The values go into the links as they are.  The links are right if and only if there is
  nothing in the row that means something to the URL, to the state in it or to the query
  (`RowSafe`), and if the window ends with a second and is not longer than what the link of
  an alert looks back to (`WindowSafe`).
-/

import Tfplenum.Frontend.PivotParams

namespace Tfplenum.SecurityAlerts

open Lib Lib.Iso

/-! ## What the links should say -/

/-- The fields of a row and their values -/
def alertFields (updateAlert : AlertRow) : List (Text × Text) :=
  updateAlert.rows.filter (!isColumn ·.1)

/-- The condition of a field; the rule of a signal has a name of its own. -/
def rowCondition (updateAlert : AlertRow) (r : Text × Text) : KueryCondition :=
  ⟨if updateAlert.get? eventKind = some signalKind ∧ r.1 = ruleNameColumnName then
      "signal.rule.name".toList
    else r.1, .phrase r.2⟩

def escalatedCondition : KueryCondition := ⟨"event.escalated".toList, .word "true".toList⟩

def rowConditions (updateAlert : AlertRow) (escalated : Bool) : List KueryCondition :=
  (alertFields updateAlert).map (rowCondition updateAlert) ++
    if escalated then [escalatedCondition] else []

def arkimeConditions (updateAlert : AlertRow) : List ArkimeCondition :=
  (alertFields updateAlert).filterMap fun r => (arkimeField r.1).map fun field => ⟨field, r.2⟩

/-- The range contains the window of the page. -/
def Covers (form : TimeForm) (range : Option (Int × Int)) : Prop :=
  ∃ start stop, range = some (start, stop) ∧ start ≤ form.startDatetime ∧ form.endDatetime ≤ stop

/-- The links of a row, and of an alert of it that is opened in Arkime at some time -/
structure LinksRight (portalLinks : List PortalLink) (updateAlert : AlertRow) (form : TimeForm)
    (communityId : Option Text) (now : Int) : Prop where
  kibana : ∀ k : KibanaReader, k.conditions (getKibanaLink portalLinks updateAlert form) =
    some (rowConditions updateAlert form.escalated)
  kibanaRange : ∀ k : KibanaReader,
    Covers form (k.range (getKibanaLink portalLinks updateAlert form))
  arkime : ∀ url, openAlertInArkimeTab portalLinks updateAlert form = .ok url →
    ∀ a : ArkimeReader, a.conditions url = some (arkimeConditions updateAlert)
  arkimeRange : ∀ url, openAlertInArkimeTab portalLinks updateAlert form = .ok url →
    ∀ a : ArkimeReader, Covers form (a.range url now)
  drillDown : ∀ url, openInArkime portalLinks form communityId = .ok url →
    ∀ a : ArkimeReader, Covers form (a.range url now)

/-! ## When they do -/

/-- A name of a field that means itself in a query, in a state and in a URL -/
structure FieldSafe (field : Text) : Prop where
  word : IsKueryWord field
  rison : IsRisonString field
  survives : Url.Survives field

/-- A value that means itself in quotes, in a state and in a URL -/
structure ValueSafe (value : Text) : Prop where
  phrase : IsKueryPhrase value
  rison : IsRisonString value
  survives : Url.Survives value

structure RowSafe (portalLinks : List PortalLink) (updateAlert : AlertRow) (escalated : Bool) :
    Prop where
  fields : ∀ r ∈ alertFields updateAlert, FieldSafe r.1 ∧ ValueSafe r.2
  nonempty : escalated = true → alertFields updateAlert ≠ []
  arkime : getLink portalLinks arkime ≠ [] → ∀ r ∈ alertFields updateAlert,
    ∀ field, arkimeField r.1 = some field → IsArkimeWord field ∧ IsArkimeWord r.2

/-- The hours that the link of an alert looks back -/
def lookBack (amount : Nat) : TimeInterval → Nat
  | .days => 24 * amount
  | .hours => 1
  | .minutes => max 1 (amount / 60)

structure WindowSafe (portalLinks : List PortalLink) (updateAlert : AlertRow) (form : TimeForm)
    (communityId : Option Text) (now : Int) : Prop where
  years : year form.startDatetime ≤ 9999 ∧ year form.endDatetime ≤ 9999
  seconds : getLink portalLinks arkime ≠ [] →
    (∃ r ∈ alertFields updateAlert, arkimeField r.1 ≠ none) → form.endDatetime % 1000 = 0
  hours : getLink portalLinks arkime ≠ [] → communityId ≠ none →
    now - lookBack form.timeAmount form.timeInterval * 3600000 ≤ form.startDatetime ∧
      form.endDatetime ≤ now

/-! ## The query of a row -/

theorem sliceTo_append {cs sep : Text} {n : Nat} (h : sep.length = n) :
    sliceTo (cs ++ sep) (((cs ++ sep).length : Int) - n) = cs := by
  have hlength : ((cs ++ sep).length : Int) - n = cs.length := by
    rw [List.length_append, h]
    omega
  rw [hlength, sliceTo, if_neg (by omega), Int.toNat_natCast, List.take_left]

/-- The last separator is cut off. -/
theorem sliceTo_flatMap {α : Type} (print : α → Text) {sep : Text} {n : Nat}
    (h : sep.length = n) (as : List α) :
    sliceTo (as.flatMap fun a => print a ++ sep)
        (((as.flatMap fun a => print a ++ sep).length : Int) - n) = joined sep print as := by
  cases as with
  | nil =>
      rw [List.flatMap_nil, sliceTo]
      simp [joined_nil]
  | cons a as =>
      rw [flatMap_append_sep]
      exact sliceTo_append h

theorem flatMap_of_columns (rows : List (Text × Text)) (entry : Text × Text → Text) :
    (rows.flatMap fun r => if isColumn r.1 then [] else entry r) =
      (rows.filter (!isColumn ·.1)).flatMap entry := by
  induction rows with
  | nil => rfl
  | cons r rows ih =>
      rw [List.flatMap_cons, List.filter_cons, ih]
      cases isColumn r.1 <;> rfl

theorem getKibanaQuery_eq (updateAlert : AlertRow) (escalated : Bool) :
    getKibanaQuery updateAlert escalated =
      joined " and ".toList KueryCondition.text
          ((alertFields updateAlert).map (rowCondition updateAlert)) ++
        if escalated then " and event.escalated : true".toList else [] := by
  have hentry : ∀ r : Text × Text,
      (if updateAlert.get? eventKind = some signalKind ∧ r.1 = ruleNameColumnName then
        "signal.rule.name : \"".toList ++ r.2 ++ "\" and ".toList
      else r.1 ++ " : \"".toList ++ r.2 ++ "\" and ".toList) =
      (rowCondition updateAlert r).text ++ " and ".toList := by
    intro r
    have hopen : " : \"".toList = " : ".toList ++ ['"'] := by decide
    have hclose : "\" and ".toList = '"' :: " and ".toList := by decide
    have hrule : "signal.rule.name : \"".toList = "signal.rule.name".toList ++ " : \"".toList := by
      decide
    unfold rowCondition KueryCondition.text KueryValue.text
    split
    · rw [hrule, hopen, hclose]
      simp only [List.append_assoc, List.cons_append, List.nil_append]
    · rw [hopen, hclose]
      simp only [List.append_assoc, List.cons_append, List.nil_append]
  unfold getKibanaQuery
  simp only [hentry, flatMap_of_columns]
  have hmap : ((updateAlert.rows.filter (!isColumn ·.1)).flatMap fun r =>
      (rowCondition updateAlert r).text ++ " and ".toList) =
      ((alertFields updateAlert).map (rowCondition updateAlert)).flatMap fun c =>
        c.text ++ " and ".toList := by
    rw [List.flatMap_map]
    rfl
  have hsep : " and ".toList.length = 5 := rfl
  have hslice := sliceTo_flatMap KueryCondition.text hsep
    ((alertFields updateAlert).map (rowCondition updateAlert))
  rw [hmap]
  split
  · exact congrArg (· ++ _) hslice
  · rw [List.append_nil]
    exact hslice

/-- The conditions of the row, unless the filter has nothing to be added to -/
theorem getKibanaQuery_eq_joined {updateAlert : AlertRow} {escalated : Bool}
    (h : escalated = true → alertFields updateAlert ≠ []) :
    getKibanaQuery updateAlert escalated =
      joined " and ".toList KueryCondition.text (rowConditions updateAlert escalated) := by
  rw [getKibanaQuery_eq, rowConditions]
  cases escalated with
  | false => simp
  | true =>
      have hne : (alertFields updateAlert).map (rowCondition updateAlert) ≠ [] := by
        simpa using h rfl
      rw [if_pos rfl, if_pos rfl, joined_append_singleton hne]
      rfl

/-! ## What may be in a query -/

theorem KibanaApp.survives_queryText_iff (app : KibanaApp) (query : Text) :
    Url.Survives (app.queryText query) ↔ Url.Survives query := by
  have hbefore : ∀ app : KibanaApp,
      ∀ c ∈ app.beforeQuery, (c ≠ '%' && !Url.isReserved c) = true := by
    intro app
    cases app <;> decide +kernel
  have hafter : ∀ app : KibanaApp, Url.isSeparator app.afterQuery = true := by
    intro app
    cases app <;> decide +kernel
  have hnil := Url.survives_separated_iff (hafter app) query []
  rw [List.append_nil] at hnil
  unfold KibanaApp.queryText
  rw [Url.survives_append_of_plain (hbefore app), hnil]
  exact and_iff_left Url.survives_nil

theorem survives_text_iff (field value : Text) :
    Url.Survives (KueryCondition.text ⟨field, .phrase value⟩) ↔
      Url.Survives field ∧ Url.Survives value := by
  have hquotes : KueryCondition.text ⟨field, .phrase value⟩ =
      field ++ (" : \"".toList ++ (value ++ ("\"".toList ++ []))) := by
    have hopen : " : \"".toList = " : ".toList ++ ['"'] := by decide
    unfold KueryCondition.text KueryValue.text
    rw [hopen]
    simp only [List.append_assoc, List.cons_append, List.nil_append]
    rfl
  rw [hquotes, Url.survives_separated_iff (by decide), Url.survives_separated_iff (by decide)]
  exact and_congr_right fun _ => and_iff_left Url.survives_nil

theorem isRisonString_text_iff (field value : Text) :
    IsRisonString (KueryCondition.text ⟨field, .phrase value⟩) ↔
      IsRisonString field ∧ IsRisonString value := by
  have hmem : ∀ c, c ∉ [' ', ':', '"'] → (c ∉ KueryCondition.text ⟨field, .phrase value⟩ ↔
      c ∉ field ∧ c ∉ value) := by
    intro c hc
    have hsep : c ∉ " : ".toList := fun h => hc (by revert h; simp; tauto)
    have hquote : c ∉ ['"'] := fun h => hc (by simp_all)
    unfold KueryCondition.text KueryValue.text
    simp only [List.mem_append, List.mem_cons, not_or]
    simp only [List.mem_singleton] at hquote
    tauto
  constructor
  · rintro ⟨hquote, hmark⟩
    rw [hmem _ (by decide)] at hquote hmark
    exact ⟨⟨hquote.1, hmark.1⟩, ⟨hquote.2, hmark.2⟩⟩
  · rintro ⟨hfield, hvalue⟩
    exact ⟨(hmem _ (by decide)).mpr ⟨hfield.quote, hvalue.quote⟩,
      (hmem _ (by decide)).mpr ⟨hfield.mark, hvalue.mark⟩⟩

/-- A condition that means itself in a query, in a state and in a URL -/
structure ConditionSafe (c : KueryCondition) : Prop where
  good : c.Good
  rison : IsRisonString c.text
  survives : Url.Survives c.text

theorem conditionSafe_phrase_iff (field value : Text) :
    ConditionSafe ⟨field, .phrase value⟩ ↔ FieldSafe field ∧ ValueSafe value := by
  constructor
  · rintro ⟨⟨hfield, hvalue⟩, hrison, hsurvives⟩
    rw [isRisonString_text_iff] at hrison
    rw [survives_text_iff] at hsurvives
    exact ⟨⟨hfield, hrison.1, hsurvives.1⟩, ⟨hvalue, hrison.2, hsurvives.2⟩⟩
  · rintro ⟨hfield, hvalue⟩
    exact ⟨⟨hfield.word, hvalue.phrase⟩,
      (isRisonString_text_iff _ _).mpr ⟨hfield.rison, hvalue.rison⟩,
      (survives_text_iff _ _).mpr ⟨hfield.survives, hvalue.survives⟩⟩

instance (value : Text) : Decidable (ValueSafe value) :=
  decidable_of_iff (IsKueryPhrase value ∧ IsRisonString value ∧ Url.Survives value)
    ⟨fun h => ⟨h.1, h.2.1, h.2.2⟩, fun h => ⟨h.phrase, h.rison, h.survives⟩⟩

instance (field : Text) : Decidable (FieldSafe field) :=
  decidable_of_iff (IsKueryWord field ∧ IsRisonString field ∧ Url.Survives field)
    ⟨fun h => ⟨h.1, h.2.1, h.2.2⟩, fun h => ⟨h.word, h.rison, h.survives⟩⟩

/-- Both names of a rule are safe. -/
theorem conditionSafe_rowCondition_iff (updateAlert : AlertRow) (r : Text × Text) :
    ConditionSafe (rowCondition updateAlert r) ↔ FieldSafe r.1 ∧ ValueSafe r.2 := by
  have hrule : FieldSafe ruleNameColumnName ∧ FieldSafe "signal.rule.name".toList := by
    decide +kernel
  rw [rowCondition, conditionSafe_phrase_iff]
  split
  · rename_i h
    rw [h.2]
    simp only [hrule.1, hrule.2, true_and]
  · rfl

theorem conditionSafe_escalated : ConditionSafe escalatedCondition := by
  have hword : IsKueryWord "event.escalated".toList ∧ IsKueryWord "true".toList := by
    decide +kernel
  have htext : IsRisonString escalatedCondition.text ∧ Url.Survives escalatedCondition.text := by
    decide +kernel
  exact ⟨⟨hword.1, hword.2⟩, htext.1, htext.2⟩

theorem rowConditions_safe_iff (updateAlert : AlertRow) (escalated : Bool) :
    (∀ c ∈ rowConditions updateAlert escalated, ConditionSafe c) ↔
      ∀ r ∈ alertFields updateAlert, FieldSafe r.1 ∧ ValueSafe r.2 := by
  rw [rowConditions, List.forall_mem_append, List.forall_mem_map]
  simp only [conditionSafe_rowCondition_iff]
  refine and_iff_left ?_
  intro c hc
  split at hc
  · rw [List.mem_singleton.mp hc]
    exact conditionSafe_escalated
  · cases hc

theorem conditionsSafe_iff (conditions : List KueryCondition) :
    (∀ c ∈ conditions, ConditionSafe c) ↔
      (∀ c ∈ conditions, c.Good) ∧
        IsRisonString (joined " and ".toList KueryCondition.text conditions) ∧
        Url.Survives (joined " and ".toList KueryCondition.text conditions) := by
  have hquote : '\'' ∉ " and ".toList := by decide
  have hmark : '!' ∉ " and ".toList := by decide
  rw [Url.survives_joined_iff (by decide)]
  constructor
  · intro h
    exact ⟨fun c hc => (h c hc).good,
      ⟨(notMem_joined_iff hquote).mpr fun c hc => (h c hc).rison.quote,
        (notMem_joined_iff hmark).mpr fun c hc => (h c hc).rison.mark⟩,
      fun c hc => (h c hc).survives⟩
  · rintro ⟨hgood, hrison, hsurvives⟩ c hc
    exact ⟨hgood c hc, ⟨(notMem_joined_iff hquote).mp hrison.quote c hc,
      (notMem_joined_iff hmark).mp hrison.mark c hc⟩, hsurvives c hc⟩

/-! ## The Kibana link -/

theorem mem_timesText_iff (app : KibanaApp) (times : Text × Text) (c : Char) :
    c ∈ app.timesText times ↔ c ∈ times.1 ∨ c ∈ times.2 ∨ c ∈ app.timesText ([], []) := by
  cases app with
  | security =>
      have hmem : ∀ a b d e s t : Text,
          c ∈ a ++ (s ++ (b ++ (t ++ (d ++ (s ++ (b ++ (t ++ e))))))) ↔ c ∈ s ∨ c ∈ t ∨
            c ∈ a ++ ([] ++ (b ++ ([] ++ (d ++ ([] ++ (b ++ ([] ++ e))))))) := by
        intro a b d e s t
        simp only [List.mem_append, List.nil_append]
        tauto
      show c ∈ KibanaApp.securityTimes times ↔ _ ∨ _ ∨ c ∈ KibanaApp.securityTimes ([], [])
      unfold KibanaApp.securityTimes
      exact hmem _ _ _ _ _ _
  | discover =>
      have hmem : ∀ a b d s t : Text, c ∈ a ++ (s ++ (b ++ (t ++ d))) ↔
          c ∈ s ∨ c ∈ t ∨ c ∈ a ++ ([] ++ (b ++ ([] ++ d))) := by
        intro a b d s t
        simp only [List.mem_append, List.nil_append]
        tauto
      show c ∈ KibanaApp.discoverTimes times ↔ _ ∨ _ ∨ c ∈ KibanaApp.discoverTimes ([], [])
      unfold KibanaApp.discoverTimes
      exact hmem _ _ _ _ _

/-- There is nothing special in the state around the times. -/
theorem timesText_literal (app : KibanaApp) : ∀ c ∈ app.timesText ([], []),
    Url.stays c = true ∧ c ≠ ' ' ∧ c ≠ '%' ∧ c ≠ '+' := by
  cases app <;> decide +kernel

theorem notMem_timesText {app : KibanaApp} {c : Char} (hliteral : c ∉ app.timesText ([], []))
    (hdates : ∀ time, c ∉ toISOString time) (start stop : Int) :
    c ∉ app.timesText (toISOString start, toISOString stop) := by
  rw [mem_timesText_iff, not_or, not_or]
  exact ⟨hdates _, hdates _, hliteral⟩

theorem space_notMem_timesText (app : KibanaApp) (start stop : Int) :
    ' ' ∉ app.timesText (toISOString start, toISOString stop) :=
  notMem_timesText (fun h => (timesText_literal app _ h).2.1 rfl)
    (notMem_toISOString (by decide) (by decide) (by decide)) start stop

/-- There is nothing special in the state but for the sign of the later years. -/
theorem timesText_facts (form : TimeForm) (app : KibanaApp) :
    (∀ c ∈ app.timesText form.times, Url.stays c = true) ∧ '%' ∉ app.timesText form.times ∧
      ('+' ∉ app.timesText form.times ↔
        year form.startDatetime ≤ 9999 ∧ year form.endDatetime ≤ 9999) := by
  refine ⟨?_, ?_, ?_⟩
  · intro c hc
    rcases (mem_timesText_iff app _ c).mp hc with h | h | h
    · exact stays_of_mem_toISOString c h
    · exact stays_of_mem_toISOString c h
    · exact (timesText_literal app c h).1
  · exact notMem_timesText (fun h => (timesText_literal app _ h).2.2.1 rfl)
      (notMem_toISOString (by decide) (by decide) (by decide)) _ _
  · have hplus : '+' ∉ app.timesText ([], []) := fun h => (timesText_literal app _ h).2.2.2 rfl
    rw [mem_timesText_iff]
    simp only [hplus, or_false, not_or, TimeForm.times, plus_mem_toISOString_iff, not_lt]

section Kibana

variable (portalLinks : List PortalLink) (updateAlert : AlertRow) (form : TimeForm)

/-- Without a field the query begins with the filter's "and", which the reader of nothing else
    does not read. -/
theorem not_conditions_of_empty (hempty : alertFields updateAlert = [])
    (hescalated : form.escalated = true) :
    ¬ KibanaReader.least.conditions (getKibanaLink portalLinks updateAlert form) =
      some (rowConditions updateAlert form.escalated) := by
  intro h
  obtain ⟨app, happ, hparam, -⟩ := getKibanaLink_params portalLinks updateAlert form
  have hquery : getKibanaQuery updateAlert form.escalated =
      " and event.escalated : true".toList := by
    rw [getKibanaQuery_eq, hempty, hescalated]
    rfl
  have hsurvives : Url.Survives (app.queryText " and event.escalated : true".toList) := by
    rw [app.survives_queryText_iff]
    decide
  rw [hquery, hsurvives.cut_eq, hsurvives.decode_eq] at hparam
  unfold KibanaReader.conditions at h
  simp only [happ, hparam, Option.bind_some] at h
  obtain ⟨query, hread, hkuery⟩ := Option.bind_eq_some_iff.mp h
  have htext := ((leastReader_eq_some_iff app.queryText_injective.injOn).mp hread).2
  have hconditions := ((leastReader_eq_some_iff KueryCondition.joined_injOn).mp hkuery).2
  rw [app.queryText_injective htext, rowConditions, hempty, hescalated] at hconditions
  have hne : joined " and ".toList KueryCondition.text [escalatedCondition] ≠
      " and event.escalated : true".toList := by decide
  exact hne hconditions

/-- The query is read as it was put together if and only if every condition is safe. -/
theorem conditions_getKibanaLink_iff :
    (∀ k : KibanaReader, k.conditions (getKibanaLink portalLinks updateAlert form) =
      some (rowConditions updateAlert form.escalated)) ↔
    (∀ r ∈ alertFields updateAlert, FieldSafe r.1 ∧ ValueSafe r.2) ∧
      (form.escalated = true → alertFields updateAlert ≠ []) := by
  obtain ⟨app, happ, hparam, -⟩ := getKibanaLink_params portalLinks updateAlert form
  have hconditions : ∀ k : KibanaReader,
      k.conditions (getKibanaLink portalLinks updateAlert form) =
        (k.query app (Url.decode (Url.cut
          (app.queryText (getKibanaQuery updateAlert form.escalated))))).bind k.kuery := by
    intro k
    unfold KibanaReader.conditions
    simp only [happ, hparam, Option.bind_some]
  rw [← rowConditions_safe_iff updateAlert form.escalated, conditionsSafe_iff]
  constructor
  · intro h
    have hnonempty : form.escalated = true → alertFields updateAlert ≠ [] :=
      fun hescalated hempty =>
        not_conditions_of_empty portalLinks updateAlert form hempty hescalated (h .least)
    refine ⟨?_, hnonempty⟩
    have hleast := (hconditions .least).symm.trans (h .least)
    obtain ⟨query, hread, hkuery⟩ := Option.bind_eq_some_iff.mp hleast
    obtain ⟨hrison, htext⟩ := (leastReader_eq_some_iff app.queryText_injective.injOn).mp hread
    obtain ⟨hgood, hjoined⟩ := (leastReader_eq_some_iff KueryCondition.joined_injOn).mp hkuery
    rw [← getKibanaQuery_eq_joined hnonempty] at hjoined ⊢
    rw [← hjoined] at hrison htext
    exact ⟨hgood, hrison,
      (app.survives_queryText_iff _).mp (Url.decode_cut_eq_self_iff.mp htext.symm)⟩
  · rintro ⟨⟨hgood, hrison, hsurvives⟩, hnonempty⟩ k
    rw [← getKibanaQuery_eq_joined hnonempty] at hrison hsurvives
    rw [hconditions, Url.decode_cut_eq_self_iff.mpr ((app.survives_queryText_iff _).mpr hsurvives),
      k.query_reads app _ hrison, Option.bind_some, getKibanaQuery_eq_joined hnonempty,
      k.kuery_reads _ hgood]

/-- The dates are read as they were written if and only if their years have four digits. -/
theorem range_getKibanaLink_iff
    (hquery : Url.Survives (getKibanaQuery updateAlert form.escalated)) :
    (∀ k : KibanaReader, Covers form (k.range (getKibanaLink portalLinks updateAlert form))) ↔
      year form.startDatetime ≤ 9999 ∧ year form.endDatetime ≤ 9999 := by
  obtain ⟨app, happ, -, hparam⟩ := getKibanaLink_params portalLinks updateAlert form
  obtain ⟨hstays, hpercent, hyears⟩ := timesText_facts form app
  have hcut : Url.cut (app.timesText form.times) = app.timesText form.times :=
    Url.cut_eq_self_iff.mpr hstays
  have hrange : ∀ k : KibanaReader, k.range (getKibanaLink portalLinks updateAlert form) =
      (k.times app (Url.decode (app.timesText form.times))).bind fun times =>
        (k.date times.1).bind fun start => (k.date times.2).map fun stop => (start, stop) := by
    intro k
    unfold KibanaReader.range
    simp only [happ, hparam ((app.survives_queryText_iff _).mpr hquery), hcut, Option.bind_some]
  rw [← hyears]
  constructor
  · intro h hplus
    obtain ⟨start, stop, hread, -⟩ := h .least
    rw [hrange] at hread
    obtain ⟨times, htimes, hdates⟩ := Option.bind_eq_some_iff.mp hread
    obtain ⟨start', hstart, hstop⟩ := Option.bind_eq_some_iff.mp hdates
    obtain ⟨stop', hstop, -⟩ := Option.map_eq_some_iff.mp hstop
    obtain ⟨-, htext⟩ := (leastReader_eq_some_iff app.timesText_injOn).mp htimes
    obtain ⟨-, hstart⟩ := (leastReader_eq_some_iff toISOString_injective.injOn).mp hstart
    obtain ⟨-, hstop⟩ := (leastReader_eq_some_iff toISOString_injective.injOn).mp hstop
    -- the sign has become a space, and no date is written with one
    rw [Url.decode_of_not_hasEscape (Url.hasEscape_of_notMem hpercent)] at htext
    have hspace : ' ' ∈ app.timesText times := by
      rw [htext]
      exact List.mem_map.mpr ⟨'+', hplus, rfl⟩
    have hpair : times = (toISOString start', toISOString stop') := by
      rw [hstart, hstop]
    rw [hpair] at hspace
    exact space_notMem_timesText app start' stop' hspace
  · intro hplus k
    have hdecode : Url.decode (app.timesText form.times) = app.timesText form.times :=
      Url.decode_eq_self_iff.mpr ⟨Url.hasEscape_of_notMem hpercent, hplus⟩
    refine ⟨form.startDatetime, form.endDatetime, ?_, le_rfl, le_rfl⟩
    have hread : k.times app (app.timesText form.times) = some form.times :=
      k.times_reads app _ ⟨isRisonString_toISOString _, isRisonString_toISOString _⟩
    rw [hrange, hdecode, hread, Option.bind_some, TimeForm.times,
      k.date_reads _ form.startIsDate, k.date_reads _ form.endIsDate]
    rfl

end Kibana

/-! ## The Arkime links -/

/-- A condition as it is written in the link -/
def ArkimeCondition.source (c : ArkimeCondition) : Text :=
  c.field ++ ("%20%3D%3D".toList ++ c.value)

theorem expressionPart_eq {updateAlert : AlertRow} {r : Text × Text}
    (h : r ∈ updateAlert.rows) :
    expressionPart updateAlert r.1 =
      ((arkimeField r.1).map fun field => ArkimeCondition.mk field r.2).toList.flatMap
        fun c => c.source ++ "%26%26%20".toList := by
  have hvalue : updateAlert.get? r.1 = some r.2 := Table.get?_eq_some_iff.mpr h
  unfold expressionPart
  cases hfield : arkimeField r.1 with
  | none => rfl
  | some field =>
      simp only [hvalue, ArkimeCondition.source, Option.map_some, Option.toList_some,
        List.flatMap_cons, List.flatMap_nil, List.append_assoc, List.append_nil]

theorem buildArkimeExpression_eq (updateAlert : AlertRow) :
    buildArkimeExpression updateAlert =
      joined "%26%26%20".toList ArkimeCondition.source (arkimeConditions updateAlert) := by
  have hfields : getFields updateAlert = (alertFields updateAlert).map Prod.fst :=
    List.filter_map
  have hparts : ∀ rows : List (Text × Text), (∀ r ∈ rows, r ∈ updateAlert.rows) →
      (rows.map Prod.fst).flatMap (expressionPart updateAlert) =
        (rows.filterMap fun r => (arkimeField r.1).map fun field =>
          ArkimeCondition.mk field r.2).flatMap fun c => c.source ++ "%26%26%20".toList := by
    intro rows hrows
    induction rows with
    | nil => rfl
    | cons r rows ih =>
        rw [List.forall_mem_cons] at hrows
        rw [List.map_cons, List.flatMap_cons, ih hrows.2, expressionPart_eq hrows.1]
        cases hfield : arkimeField r.1 with
        | none => simp [hfield]
        | some field => simp [hfield]
  have hall := hparts (alertFields updateAlert) fun r hr => (List.mem_filter.mp hr).1
  unfold buildArkimeExpression
  rw [hfields, hall]
  exact sliceTo_flatMap ArkimeCondition.source rfl (arkimeConditions updateAlert)

/-- The characters of an expression whose escapes are written out -/
def isEscapedInExpression (c : Char) : Bool := [' ', '=', '&'].contains c

theorem isEscapedInExpression_escapable : Url.Escapable isEscapedInExpression where
  ascii := by
    intro c hc
    rw [isEscapedInExpression, List.contains_iff_mem] at hc
    revert c
    decide
  digits := by
    intro c hc
    rw [isEscapedInExpression, List.contains_iff_mem] at hc
    revert c
    decide
  percent := by decide
  plus := by decide

/-- Words have none of the characters in them that the expression escapes, and are not cut off. -/
theorem IsArkimeWord.plain_iff {text : Text} (h : IsArkimeWord text) : ∀ c ∈ text,
    isEscapedInExpression c = false ∧ Url.stays c = true ∧ c ≠ '%' ∧ c ≠ '+' := by
  intro c hc
  have hnot : ∀ {d : Char}, (d.isAlphanum || ['.', ':', '_', '-'].contains d) = false → c ≠ d := by
    rintro d hd rfl
    exact h.notMem hd hc
  have hstays : Url.stays c = true := by
    simp only [Url.stays, Url.isTabOrNewline]
    simp [hnot (d := '\t') (by decide), hnot (d := '\n') (by decide),
      hnot (d := '\r') (by decide), hnot (d := '#') (by decide), hnot (d := '&') (by decide)]
  have hescaped : isEscapedInExpression c = false := by
    simp [isEscapedInExpression, hnot (d := ' ') (by decide), hnot (d := '=') (by decide),
      hnot (d := '&') (by decide)]
  exact ⟨hescaped, hstays, hnot (by decide), hnot (by decide)⟩

section Arkime

variable {conditions : List ArkimeCondition} (hgood : ∀ c ∈ conditions, c.Good)
include hgood

theorem stays_source : ∀ c ∈ joined "%26%26%20".toList ArkimeCondition.source conditions,
    Url.stays c = true := by
  refine forall_mem_joined (by decide) fun c hc => ?_
  unfold ArkimeCondition.source
  simp only [List.forall_mem_append]
  exact ⟨fun d hd => ((hgood c hc).field.plain_iff d hd).2.1, by decide,
    fun d hd => ((hgood c hc).value.plain_iff d hd).2.1⟩

/-- The expression of words is what it says, decoded. -/
theorem decode_source :
    Url.decode (Url.cut (joined "%26%26%20".toList ArkimeCondition.source conditions)) =
      joined "&& ".toList ArkimeCondition.text conditions := by
  have hsep : Url.escape isEscapedInExpression "&& ".toList = "%26%26%20".toList := by decide
  have hoperator : Url.escape isEscapedInExpression " ==".toList = "%20%3D%3D".toList := by decide
  have hsource : joined "%26%26%20".toList ArkimeCondition.source conditions =
      Url.escape isEscapedInExpression (joined "&& ".toList ArkimeCondition.text conditions) := by
    rw [Url.escape_joined, hsep, joined, joined]
    refine congrArg _ (List.map_congr_left fun c hc => ?_)
    unfold ArkimeCondition.source ArkimeCondition.text
    rw [Url.escape_append, Url.escape_append, hoperator,
      Url.escape_eq_self fun d hd => ((hgood c hc).field.plain_iff d hd).1,
      Url.escape_eq_self fun d hd => ((hgood c hc).value.plain_iff d hd).1]
  have hplain : ∀ c ∈ joined "&& ".toList ArkimeCondition.text conditions, c ≠ '%' ∧ c ≠ '+' := by
    refine forall_mem_joined (by decide) fun c hc => ?_
    unfold ArkimeCondition.text
    simp only [List.forall_mem_append]
    exact ⟨fun d hd => ((hgood c hc).field.plain_iff d hd).2.2, by decide,
      fun d hd => ((hgood c hc).value.plain_iff d hd).2.2⟩
  rw [Url.cut_eq_self_iff.mpr (stays_source hgood), hsource,
    Url.decode_escape isEscapedInExpression_escapable, Url.decode_eq_self_iff]
  exact ⟨Url.hasEscape_of_notMem fun h => (hplain _ h).1 rfl, fun h => (hplain _ h).2 rfl⟩

end Arkime

theorem mem_arkimeConditions {updateAlert : AlertRow} {c : ArkimeCondition} :
    c ∈ arkimeConditions updateAlert ↔
      ∃ r ∈ alertFields updateAlert, arkimeField r.1 = some c.field ∧ r.2 = c.value := by
  rw [arkimeConditions, List.mem_filterMap]
  constructor
  · rintro ⟨r, hr, hmap⟩
    obtain ⟨field, hfield, rfl⟩ := Option.map_eq_some_iff.mp hmap
    exact ⟨r, hr, hfield, rfl⟩
  · rintro ⟨r, hr, hfield, hvalue⟩
    exact ⟨r, hr, by rw [hfield, hvalue]; rfl⟩

theorem arkimeConditions_good_iff (updateAlert : AlertRow) :
    (∀ c ∈ arkimeConditions updateAlert, c.Good) ↔ ∀ r ∈ alertFields updateAlert,
      ∀ field, arkimeField r.1 = some field → IsArkimeWord field ∧ IsArkimeWord r.2 := by
  constructor
  · intro h r hr field hfield
    have hgood := h ⟨field, r.2⟩ (mem_arkimeConditions.mpr ⟨r, hr, hfield, rfl⟩)
    exact ⟨hgood.field, hgood.value⟩
  · intro h c hc
    obtain ⟨r, hr, hfield, hvalue⟩ := mem_arkimeConditions.mp hc
    have hwords := h r hr c.field hfield
    exact ⟨hwords.1, hvalue ▸ hwords.2⟩

theorem arkimeConditions_ne_nil_iff (updateAlert : AlertRow) :
    arkimeConditions updateAlert ≠ [] ↔
      ∃ r ∈ alertFields updateAlert, arkimeField r.1 ≠ none := by
  constructor
  · intro h
    obtain ⟨c, hc⟩ := List.exists_mem_of_ne_nil _ h
    obtain ⟨r, hr, hfield, -⟩ := mem_arkimeConditions.mp hc
    exact ⟨r, hr, by rw [hfield]; exact Option.some_ne_none _⟩
  · rintro ⟨r, hr, hne⟩
    obtain ⟨field, hfield⟩ := Option.ne_none_iff_exists'.mp hne
    exact List.ne_nil_of_mem (mem_arkimeConditions (c := ⟨field, r.2⟩).mpr ⟨r, hr, hfield, rfl⟩)

section Opened

variable (portalLinks : List PortalLink) (updateAlert : AlertRow) (form : TimeForm)

theorem exists_openAlertInArkimeTab_iff :
    (∃ url, openAlertInArkimeTab portalLinks updateAlert form = .ok url) ↔
      getLink portalLinks arkime ≠ [] ∧ arkimeConditions updateAlert ≠ [] := by
  constructor
  · rintro ⟨url, h⟩
    obtain ⟨hinstalled, hexpression, -⟩ := search_of_openAlertInArkimeTab h
    refine ⟨hinstalled, fun hnil => hexpression ?_⟩
    rw [buildArkimeExpression_eq, hnil, joined_nil]
  · rintro ⟨hinstalled, hne⟩
    obtain ⟨c, conditions, hcons⟩ := List.exists_cons_of_ne_nil hne
    have hexpression : buildArkimeExpression updateAlert ≠ [] := by
      rw [buildArkimeExpression_eq, hcons, joined_cons, ArkimeCondition.source]
      simp
    refine ⟨getArkimeLink (getLink portalLinks arkime) (buildArkimeExpression updateAlert) form, ?_⟩
    unfold openAlertInArkimeTab
    simp only
    rw [if_neg hinstalled, if_neg hexpression]

/-- The expression is read as it was put together if and only if all in it are words. -/
theorem conditions_openAlertInArkimeTab_iff :
    (∀ url, openAlertInArkimeTab portalLinks updateAlert form = .ok url →
      ∀ a : ArkimeReader, a.conditions url = some (arkimeConditions updateAlert)) ↔
    (getLink portalLinks arkime ≠ [] → ∀ c ∈ arkimeConditions updateAlert, c.Good) := by
  constructor
  · intro h hinstalled c hc
    obtain ⟨url, hurl⟩ := (exists_openAlertInArkimeTab_iff portalLinks updateAlert form).mpr
      ⟨hinstalled, List.ne_nil_of_mem hc⟩
    have hleast := h url hurl .least
    rw [conditions_of_openAlertInArkimeTab hurl] at hleast
    exact ((leastReader_eq_some_iff ArkimeCondition.joined_injOn).mp hleast).1 c hc
  · intro h url hurl a
    have hgood := h (search_of_openAlertInArkimeTab hurl).1
    rw [conditions_of_openAlertInArkimeTab hurl, buildArkimeExpression_eq, decode_source hgood,
      a.expression_reads _ hgood]

/-- The range of the link ends with the second in which the window ends begins. -/
theorem range_openAlertInArkimeTab_iff (now : Int)
    (hgood : getLink portalLinks arkime ≠ [] → ∀ c ∈ arkimeConditions updateAlert, c.Good) :
    (∀ url, openAlertInArkimeTab portalLinks updateAlert form = .ok url →
      ∀ a : ArkimeReader, Covers form (a.range url now)) ↔
    (getLink portalLinks arkime ≠ [] → arkimeConditions updateAlert ≠ [] →
      form.endDatetime % 1000 = 0) := by
  have hrange : ∀ url, openAlertInArkimeTab portalLinks updateAlert form = .ok url →
      ∀ a : ArkimeReader, (Covers form (a.range url now) ↔ form.endDatetime % 1000 = 0) := by
    intro url hurl a
    have hstays := stays_source (hgood (search_of_openAlertInArkimeTab hurl).1)
    rw [← buildArkimeExpression_eq] at hstays
    rw [range_of_openAlertInArkimeTab hurl hstays, Covers]
    constructor
    · rintro ⟨start, stop, hsome, -, hstop⟩
      cases hsome
      omega
    · intro hseconds
      exact ⟨_, _, rfl, by omega, by omega⟩
  constructor
  · intro h hinstalled hne
    obtain ⟨url, hurl⟩ := (exists_openAlertInArkimeTab_iff portalLinks updateAlert form).mpr
      ⟨hinstalled, hne⟩
    exact (hrange url hurl .least).mp (h url hurl .least)
  · intro h url hurl a
    obtain ⟨hinstalled, hne⟩ :=
      (exists_openAlertInArkimeTab_iff portalLinks updateAlert form).mp ⟨url, hurl⟩
    exact (hrange url hurl a).mpr (h hinstalled hne)

theorem hourAmount_eq_lookBack :
    hourAmount form = lookBack form.timeAmount form.timeInterval := by
  unfold hourAmount
  cases form.timeInterval with
  | days => exact Nat.mul_comm _ _
  | hours => rfl
  | minutes =>
      show (if form.timeAmount > 60 then form.timeAmount / 60 else 1) =
        max 1 (form.timeAmount / 60)
      split <;> omega

/-- The link of an alert covers the window if it looks back that far, and the window is over. -/
theorem range_openInArkime_iff (communityId : Option Text) (now : Int) :
    (∀ url, openInArkime portalLinks form communityId = .ok url →
      ∀ a : ArkimeReader, Covers form (a.range url now)) ↔
    (getLink portalLinks arkime ≠ [] → communityId ≠ none →
      now - lookBack form.timeAmount form.timeInterval * 3600000 ≤ form.startDatetime ∧
        form.endDatetime ≤ now) := by
  have hrange : ∀ url, openInArkime portalLinks form communityId = .ok url →
      ∀ a : ArkimeReader, (Covers form (a.range url now) ↔
        now - lookBack form.timeAmount form.timeInterval * 3600000 ≤ form.startDatetime ∧
          form.endDatetime ≤ now) := by
    intro url hurl a
    rw [range_of_openInArkime hurl, hourAmount_eq_lookBack, Covers]
    constructor
    · rintro ⟨start, stop, hsome, hstart, hstop⟩
      cases hsome
      exact ⟨hstart, hstop⟩
    · rintro ⟨hstart, hstop⟩
      exact ⟨_, _, rfl, hstart, hstop⟩
  constructor
  · intro h hinstalled hne
    obtain ⟨id, rfl⟩ := Option.ne_none_iff_exists'.mp hne
    have hurl : ∃ url, openInArkime portalLinks form (some id) = .ok url := by
      unfold openInArkime
      simp only
      rw [if_neg hinstalled]
      exact ⟨_, rfl⟩
    obtain ⟨url, hurl⟩ := hurl
    exact (hrange url hurl .least).mp (h url hurl .least)
  · intro h url hurl a
    obtain ⟨id, hinstalled, hid, -⟩ := search_of_openInArkime hurl
    refine (hrange url hurl a).mpr (h hinstalled ?_)
    rw [hid]
    exact Option.some_ne_none id

end Opened

/-! ## All links -/

/-- The links are right if and only if the row and the window are safe. -/
theorem linksRight_iff (portalLinks : List PortalLink) (updateAlert : AlertRow) (form : TimeForm)
    (communityId : Option Text) (now : Int) :
    LinksRight portalLinks updateAlert form communityId now ↔
      RowSafe portalLinks updateAlert form.escalated ∧
        WindowSafe portalLinks updateAlert form communityId now := by
  have hsurvives : (∀ r ∈ alertFields updateAlert, FieldSafe r.1 ∧ ValueSafe r.2) →
      (form.escalated = true → alertFields updateAlert ≠ []) →
      Url.Survives (getKibanaQuery updateAlert form.escalated) := by
    intro hfields hnonempty
    rw [← rowConditions_safe_iff updateAlert form.escalated, conditionsSafe_iff] at hfields
    rw [getKibanaQuery_eq_joined hnonempty]
    exact hfields.2.2
  have harkime := arkimeConditions_good_iff updateAlert
  have hne := arkimeConditions_ne_nil_iff updateAlert
  constructor
  · rintro ⟨hkibana, hkibanaRange, harkimeConditions, harkimeRange, hdrillDown⟩
    rw [conditions_getKibanaLink_iff] at hkibana
    rw [range_getKibanaLink_iff _ _ _ (hsurvives hkibana.1 hkibana.2)] at hkibanaRange
    rw [conditions_openAlertInArkimeTab_iff] at harkimeConditions
    rw [range_openAlertInArkimeTab_iff _ _ _ _ harkimeConditions] at harkimeRange
    rw [range_openInArkime_iff] at hdrillDown
    exact ⟨⟨hkibana.1, hkibana.2, fun hinstalled => harkime.mp (harkimeConditions hinstalled)⟩,
      ⟨hkibanaRange, fun hinstalled hmapped => harkimeRange hinstalled (hne.mpr hmapped),
        hdrillDown⟩⟩
  · rintro ⟨⟨hfields, hnonempty, hwords⟩, hyears, hseconds, hhours⟩
    have hgood := fun hinstalled => harkime.mpr (hwords hinstalled)
    exact ⟨(conditions_getKibanaLink_iff _ _ _).mpr ⟨hfields, hnonempty⟩,
      (range_getKibanaLink_iff _ _ _ (hsurvives hfields hnonempty)).mpr hyears,
      (conditions_openAlertInArkimeTab_iff _ _ _).mpr hgood,
      (range_openAlertInArkimeTab_iff _ _ _ _ hgood).mpr
        fun hinstalled hmapped => hseconds hinstalled (hne.mp hmapped),
      (range_openInArkime_iff _ _ _ _).mpr hhours⟩

def arkimePortal : PortalLink := ⟨"https://arkime.lan".toList, by decide, by decide⟩

def zeekRow : AlertRow where
  rows := [(eventModule, zeekModule), (eventKind, alertKind),
    (ruleNameColumnName, "50% (or more)".toList), ("source.ip".toList, "10.0.0.1".toList)]
  nodup := by decide

/-- The form as the page makes it, a day after the beginning of 1970 -/
def dayForm (timeInterval : TimeInterval) (timeAmount : Nat) : TimeForm :=
  ⟨false, 0, 86400000, timeAmount, timeInterval, by decide, by decide⟩

/-- The link of an alert looks back one hour only, if the window is given in hours. -/
theorem not_linksRight_defaultForm :
    ¬ LinksRight [arkimePortal] zeekRow (dayForm .hours 24) (some "1:Zm9v".toList) 86400000 := by
  intro h
  have hinstalled : getLink [arkimePortal] arkime ≠ [] := by decide
  have hstart := ((range_openInArkime_iff _ _ _ _).mp h.drillDown hinstalled (by decide)).1
  revert hstart
  decide

example : RowSafe [arkimePortal] zeekRow false ∧
    WindowSafe [arkimePortal] zeekRow (dayForm .days 1) (some "1:Zm9v".toList) 86400000 :=
  ⟨⟨by decide +kernel, by decide, fun _ => (arkimeConditions_good_iff zeekRow).mp
    (by decide +kernel)⟩, by decide +kernel, by decide +kernel, by decide +kernel⟩

end Tfplenum.SecurityAlerts
