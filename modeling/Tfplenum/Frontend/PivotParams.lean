/-
  Tfplenum.Frontend.PivotParams

  What comes out of the parameters of the links: the state with the query and the state with
  the time range of a Kibana link (`getKibanaLink_params`), the expression and the times of
  the Arkime links.  Each is what is left of the text after it has been cut off at the next
  parameter or the fragment and decoded.
-/

import Tfplenum.Frontend.PivotReaders

namespace Tfplenum.SecurityAlerts

open Lib Lib.Iso

/-! ## Replacements -/

/-- The characters of a security link that are replaced by their escapes -/
def isReplaced (c : Char) : Bool := ['\'', ' ', '(', ')'].contains c

/-- The characters of the times whose escapes are written out -/
def isQuote (c : Char) : Bool := c = '\''

theorem isReplaced_escapable : Url.Escapable isReplaced where
  ascii := by
    intro c hc
    rw [isReplaced, List.contains_iff_mem] at hc
    revert c
    decide
  digits := by
    intro c hc
    rw [isReplaced, List.contains_iff_mem] at hc
    revert c
    decide
  percent := by decide
  plus := by decide

theorem stays_of_isReplaced (c : Char) (hc : isReplaced c = true) : Url.stays c = true := by
  rw [isReplaced, List.contains_iff_mem] at hc
  revert c
  decide

theorem isQuote_escapable : Url.Escapable isQuote where
  ascii := by
    intro c hc
    rw [of_decide_eq_true hc]
    decide
  digits := by
    intro c hc
    rw [of_decide_eq_true hc]
    decide
  percent := by decide
  plus := by decide

theorem stays_of_isQuote (c : Char) (hc : isQuote c = true) : Url.stays c = true := by
  rw [of_decide_eq_true hc]
  decide

theorem replaceAll_cons (c : Char) (replacement : Text) (d : Char) (text : Text) :
    replaceAll c replacement (d :: text) =
      (if d = c then replacement else [d]) ++ replaceAll c replacement text := List.flatMap_cons

theorem replaceAll_append (c : Char) (replacement text text' : Text) :
    replaceAll c replacement (text ++ text') =
      replaceAll c replacement text ++ replaceAll c replacement text' := List.flatMap_append

/-- No replacement has to do with what the ones before it put in. -/
theorem replaceAll_eq_escape (text : Text) :
    replaceAll ')' "%29".toList (replaceAll '(' "%28".toList
      (replaceAll ' ' "%20".toList (replaceAll '\'' "%27".toList text))) =
      Url.escape isReplaced text := by
  induction text with
  | nil => rfl
  | cons c text ih =>
      have hone : replaceAll ')' "%29".toList (replaceAll '(' "%28".toList
          (replaceAll ' ' "%20".toList (if c = '\'' then "%27".toList else [c]))) =
          if isReplaced c then Url.percent c else [c] := by
        by_cases hquote : c = '\''
        · subst hquote
          decide
        by_cases hspace : c = ' '
        · subst hspace
          decide
        by_cases hopen : c = '('
        · subst hopen
          decide
        by_cases hclose : c = ')'
        · subst hclose
          decide
        have hnot : isReplaced c = false := by
          simp [isReplaced, hquote, hspace, hopen, hclose]
        simp [replaceAll, hquote, hspace, hopen, hclose, hnot]
      rw [replaceAll_cons, replaceAll_append, replaceAll_append, replaceAll_append, ih, hone]
      rfl

/-! ## Dates -/

theorem notMem_toISOString {c : Char} (hdigit : c.isDigit = false)
    (hmark : c ∉ ['-', 'T', ':', '.', 'Z']) (hplus : c ≠ '+') (time : Int) :
    c ∉ toISOString time := by
  intro h
  rcases mem_toISOString h with hmem | hmem | ⟨rfl, -⟩
  · rw [hdigit] at hmem
    cases hmem
  · exact hmark hmem
  · exact hplus rfl

theorem stays_of_mem_toISOString {time : Int} : ∀ c ∈ toISOString time, Url.stays c = true := by
  have hmarks : ∀ c ∈ ['-', 'T', ':', '.', 'Z'], Url.stays c = true := by decide
  intro c h
  rcases mem_toISOString h with hdigit | hmark | ⟨rfl, -⟩
  · exact Url.stays_of_isUnescaped (by simp [Url.isUnescaped, Char.isAlphanum, hdigit])
  · exact hmarks c hmark
  · decide

theorem isRisonString_toISOString (time : Int) : IsRisonString (toISOString time) :=
  ⟨notMem_toISOString (by decide) (by decide) (by decide) time,
    notMem_toISOString (by decide) (by decide) (by decide) time⟩

/-! ## The parameters of the Kibana links -/

/-- The window of the page as the times of a state -/
def TimeForm.times (form : TimeForm) : Text × Text :=
  (toISOString form.startDatetime, toISOString form.endDatetime)

/-- The state with the times, as it is written in the links -/
def KibanaApp.securitySource (times : Text × Text) : Text :=
  "(global:(linkTo:!(timeline),timerange:(from:%27".toList ++ (times.1 ++
  ("%27,kind:absolute,to:%27".toList ++ (times.2 ++
  ("%27)),timeline:(linkTo:!(global),timerange:(from:%27".toList ++ (times.1 ++
  ("%27,kind:absolute,to:%27".toList ++ (times.2 ++ "%27)))".toList)))))))

def KibanaApp.discoverSource (times : Text × Text) : Text :=
  ("(filters:!(),query:(language:kuery,query:'')," ++
    "refreshInterval:(pause:!t,value:0),time:(from:%27").toList ++ (times.1 ++
  ("%27,to:%27".toList ++ (times.2 ++ "%27))".toList)))

def KibanaApp.timesSource : KibanaApp → Text × Text → Text
  | security => securitySource
  | discover => discoverSource

/-- The quotes are the same, whether they are escaped or not. -/
theorem KibanaApp.escape_timesSource (app : KibanaApp) (times : Text × Text) :
    Url.escape isQuote (app.timesSource times) = Url.escape isQuote (app.timesText times) := by
  cases app with
  | security =>
      have hfirst : Url.escape isQuote "(global:(linkTo:!(timeline),timerange:(from:%27".toList =
          Url.escape isQuote "(global:(linkTo:!(timeline),timerange:(from:'".toList := by
        decide +kernel
      have hto : Url.escape isQuote "%27,kind:absolute,to:%27".toList =
          Url.escape isQuote "',kind:absolute,to:'".toList := by decide +kernel
      have hsecond :
          Url.escape isQuote "%27)),timeline:(linkTo:!(global),timerange:(from:%27".toList =
          Url.escape isQuote "')),timeline:(linkTo:!(global),timerange:(from:'".toList := by
        decide +kernel
      have hend : Url.escape isQuote "%27)))".toList = Url.escape isQuote "')))".toList := by
        decide +kernel
      show Url.escape isQuote (securitySource times) = Url.escape isQuote (securityTimes times)
      unfold securitySource securityTimes
      simp only [Url.escape_append, hfirst, hto, hsecond, hend]
  | discover =>
      have hfirst :
          Url.escape isQuote ("(filters:!(),query:(language:kuery,query:'')," ++
            "refreshInterval:(pause:!t,value:0),time:(from:%27").toList =
          Url.escape isQuote ("(filters:!(),query:(language:kuery,query:'')," ++
            "refreshInterval:(pause:!t,value:0),time:(from:'").toList := by decide +kernel
      have hto : Url.escape isQuote "%27,to:%27".toList =
          Url.escape isQuote "',to:'".toList := by decide +kernel
      have hend : Url.escape isQuote "%27))".toList = Url.escape isQuote "'))".toList := by
        decide +kernel
      show Url.escape isQuote (discoverSource times) = Url.escape isQuote (discoverTimes times)
      unfold discoverSource discoverTimes
      simp only [Url.escape_append, hfirst, hto, hend]

theorem KibanaApp.decode_cut_timesSource (app : KibanaApp) (times : Text × Text) :
    Url.decode (Url.cut (app.timesSource times)) = Url.decode (Url.cut (app.timesText times)) := by
  rw [← Url.decode_cut_escape isQuote_escapable stays_of_isQuote, escape_timesSource,
    Url.decode_cut_escape isQuote_escapable stays_of_isQuote]

/-- The escapes change neither the name of a parameter nor where it ends. -/
theorem securityLink_eq (kibanaPrefix page query : Text) (times : Text × Text) :
    securityLink kibanaPrefix page query times.1 times.2 =
      Url.escape isReplaced (kibanaPrefix ++ ("/app/security/".toList ++ page)) ++ '?' ::
        ("query".toList ++ '=' ::
          (Url.escape isReplaced (KibanaApp.security.queryText query) ++ '&' ::
            ("timerange".toList ++ '=' ::
              (Url.escape isReplaced (KibanaApp.security.timesSource times))))) := by
  have hquery : "?query=(language:kuery,query:'".toList =
      "?query=".toList ++ KibanaApp.security.beforeQuery := by decide +kernel
  have htimes : "')&timerange=(global:(linkTo:!(timeline),timerange:(from:%27".toList =
      KibanaApp.security.afterQuery ++ ("&timerange=".toList ++
        "(global:(linkTo:!(timeline),timerange:(from:%27".toList) := by decide +kernel
  have hkeep : Url.escape isReplaced "?query=".toList = "?query=".toList := by decide +kernel
  have hkeep' : Url.escape isReplaced "&timerange=".toList = "&timerange=".toList := by
    decide +kernel
  show _ = _ ++ ("?query=".toList ++ (Url.escape isReplaced (KibanaApp.security.beforeQuery ++
    (query ++ KibanaApp.security.afterQuery)) ++ ("&timerange=".toList ++
    Url.escape isReplaced (KibanaApp.securitySource times))))
  unfold securityLink KibanaApp.securitySource
  rw [replaceAll_eq_escape, hquery, htimes]
  simp only [List.append_assoc, Url.escape_append, hkeep, hkeep']

theorem discoverLink_eq (kibanaPrefix query : Text) (times : Text × Text) :
    discoverLink kibanaPrefix query times.1 times.2 =
      (kibanaPrefix ++ "/app/discover".toList) ++ '#' :: ("/".toList ++ '?' ::
        ("_g".toList ++ '=' :: (KibanaApp.discover.timesSource times ++ '&' ::
          ("_a".toList ++ '=' :: KibanaApp.discover.queryText query)))) := by
  have hfirst : ("/app/discover#/?_g=(filters:!(),query:(language:kuery,query:'')," ++
      "refreshInterval:(pause:!t,value:0),time:(from:%27").toList =
      "/app/discover".toList ++ '#' :: ("/".toList ++ '?' :: ("_g".toList ++ '=' ::
        ("(filters:!(),query:(language:kuery,query:'')," ++
          "refreshInterval:(pause:!t,value:0),time:(from:%27").toList)) := by decide +kernel
  have hsecond :
      ("%27))&_a=(columns:!(),filters:!(),index:endgame-dashboard-index-pattern,interval:auto," ++
        "query:(language:kuery,query:'").toList =
      "%27))".toList ++ '&' :: ("_a".toList ++ '=' :: KibanaApp.discover.beforeQuery) := by
    decide +kernel
  have hend : "'),sort:!(!('@timestamp',desc)))".toList = KibanaApp.discover.afterQuery := rfl
  have hsource : KibanaApp.discover.timesSource times = KibanaApp.discoverSource times := rfl
  rw [hsource]
  unfold discoverLink KibanaApp.discoverSource KibanaApp.queryText
  rw [hfirst, hsecond, hend]
  simp only [List.append_assoc, List.cons_append]

theorem isName {name : Text} (h : Url.Survives name) (hequals : '=' ∉ name) : Url.IsName name :=
  h.isName hequals

theorem notMem_escape {c : Char} {text : Text} (h : c ∉ text)
    (hc : ∀ d ∈ ['\'', ' ', '(', ')'], c ∉ Url.percent d) :
    c ∉ Url.escape isReplaced text := by
  intro hmem
  rcases Url.mem_escape hmem with htext | ⟨d, hd, hpercent⟩
  · exact h htext
  · exact hc d (List.contains_iff_mem.mp hd) hpercent

/-- The pages of the security application that there are links to -/
def securityPages : List Text :=
  ["overview".toList, kibanaDetectionsPage, kibanaNetworkExternalPage, kibanaHostsAlertsPage]

section Params

variable {kibanaPrefix : Text} (hsearch : '?' ∉ kibanaPrefix) (hfragment : '#' ∉ kibanaPrefix)
  (query : Text) (times : Text × Text)
include hsearch hfragment

/-- No page of the security application has the path of the discover page. -/
theorem ofUrl_securityLink {page : Text} (hpage : page ∈ securityPages) :
    KibanaApp.ofUrl (securityLink kibanaPrefix page query times.1 times.2) = .security ∧
      Url.search (securityLink kibanaPrefix page query times.1 times.2) =
        Url.beforeFragment ("query".toList ++ '=' ::
          (Url.escape isReplaced (KibanaApp.security.queryText query) ++ '&' ::
            ("timerange".toList ++ '=' ::
              (Url.escape isReplaced (KibanaApp.security.timesSource times))))) := by
  have hplain : ∀ page ∈ securityPages, '?' ∉ "/app/security/".toList ++ page ∧
      '#' ∉ "/app/security/".toList ++ page := by decide +kernel
  have hother : ∀ page ∈ securityPages,
      ¬ "/app/discover".toList <:+ (Url.escape isReplaced
        ("/app/security/".toList ++ page)).filter (!Url.isTabOrNewline ·) ∧
      "/app/discover".toList.length ≤ ((Url.escape isReplaced
        ("/app/security/".toList ++ page)).filter (!Url.isTabOrNewline ·)).length := by
    decide +kernel
  have hquestion : '?' ∉ Url.escape isReplaced
      (kibanaPrefix ++ ("/app/security/".toList ++ page)) := by
    refine notMem_escape ?_ (by decide)
    rw [List.mem_append, not_or]
    exact ⟨hsearch, (hplain page hpage).1⟩
  have hhash : '#' ∉ Url.escape isReplaced
      (kibanaPrefix ++ ("/app/security/".toList ++ page)) := by
    refine notMem_escape ?_ (by decide)
    rw [List.mem_append, not_or]
    exact ⟨hfragment, (hplain page hpage).2⟩
  rw [securityLink_eq]
  refine ⟨?_, Url.search_append hquestion hhash _⟩
  rw [KibanaApp.ofUrl, Url.path_append_search hquestion hhash, Url.escape_append,
    List.filter_append, if_neg]
  intro hsuffix
  exact (hother page hpage).1 (List.suffix_of_suffix_length_le hsuffix
    (List.suffix_append _ _) (hother page hpage).2)

theorem securityLink_query {page : Text} (hpage : page ∈ securityPages) :
    Url.param "query".toList
        (Url.search (securityLink kibanaPrefix page query times.1 times.2)) =
      some (Url.decode (Url.cut (KibanaApp.security.queryText query))) := by
  rw [(ofUrl_securityLink hsearch hfragment query times hpage).2]
  refine (Url.param_first (isName (by decide) (by decide)) (.inr ⟨_, rfl⟩) _).trans ?_
  rw [Url.decode_cut_escape isReplaced_escapable stays_of_isReplaced]

/-- The time range comes after the query, which must not end its own parameter. -/
theorem securityLink_times {page : Text} (hpage : page ∈ securityPages)
    (hquery : Url.Survives (KibanaApp.security.queryText query)) :
    Url.param "timerange".toList
        (Url.search (securityLink kibanaPrefix page query times.1 times.2)) =
      some (Url.decode (Url.cut (KibanaApp.security.timesText times))) := by
  have hstays : ∀ c ∈ Url.escape isReplaced (KibanaApp.security.queryText query),
      Url.stays c = true := by
    intro c hc
    rcases Url.mem_escape hc with hmem | ⟨d, hd, hpercent⟩
    · exact hquery.stays c hmem
    · exact Url.stays_of_mem_percent (isReplaced_escapable.ascii d hd) hpercent
  rw [(ofUrl_securityLink hsearch hfragment query times hpage).2,
    Url.param_skip (isName (by decide) (by decide)) (by decide) hstays,
    Url.param_last (isName (by decide) (by decide)),
    Url.decode_cut_escape isReplaced_escapable stays_of_isReplaced,
    KibanaApp.decode_cut_timesSource]

theorem ofUrl_discoverLink :
    KibanaApp.ofUrl (discoverLink kibanaPrefix query times.1 times.2) = .discover ∧
      Url.search (Url.fragment (discoverLink kibanaPrefix query times.1 times.2)) =
        Url.beforeFragment ("_g".toList ++ '=' :: (KibanaApp.discover.timesSource times ++ '&' ::
          ("_a".toList ++ '=' :: KibanaApp.discover.queryText query))) := by
  have hquestion : '?' ∉ kibanaPrefix ++ "/app/discover".toList := by
    rw [List.mem_append, not_or]
    exact ⟨hsearch, by decide⟩
  have hhash : '#' ∉ kibanaPrefix ++ "/app/discover".toList := by
    rw [List.mem_append, not_or]
    exact ⟨hfragment, by decide⟩
  have hplain : "/app/discover".toList.filter (!Url.isTabOrNewline ·) =
      "/app/discover".toList := by decide
  rw [discoverLink_eq]
  constructor
  · rw [KibanaApp.ofUrl, Url.path_append_fragment hquestion hhash, List.filter_append, hplain,
      if_pos (List.suffix_append _ _)]
  · rw [Url.search_fragment hhash]
    exact Url.search_append (by decide) (by decide) _

end Params

theorem discoverLink_times (query : Text) (times : Text × Text) :
    Url.param "_g".toList
        (Url.beforeFragment ("_g".toList ++ '=' :: (KibanaApp.discover.timesSource times ++ '&' ::
          ("_a".toList ++ '=' :: KibanaApp.discover.queryText query)))) =
      some (Url.decode (Url.cut (KibanaApp.discover.timesText times))) := by
  refine (Url.param_first (isName (by decide) (by decide)) (.inr ⟨_, rfl⟩) _).trans ?_
  rw [KibanaApp.decode_cut_timesSource]

/-- The times are in front of the query, and do not end their parameter. -/
theorem discoverLink_query (query : Text) (form : TimeForm) :
    Url.param "_a".toList
        (Url.beforeFragment ("_g".toList ++ '=' ::
          (KibanaApp.discover.timesSource form.times ++ '&' ::
            ("_a".toList ++ '=' :: KibanaApp.discover.queryText query)))) =
      some (Url.decode (Url.cut (KibanaApp.discover.queryText query))) := by
  have hliteral : (∀ c ∈ ("(filters:!(),query:(language:kuery,query:'')," ++
      "refreshInterval:(pause:!t,value:0),time:(from:%27").toList, Url.stays c = true) ∧
      (∀ c ∈ "%27,to:%27".toList, Url.stays c = true) ∧
      ∀ c ∈ "%27))".toList, Url.stays c = true := by decide +kernel
  have hstays : ∀ c ∈ KibanaApp.discover.timesSource form.times, Url.stays c = true := by
    show ∀ c ∈ KibanaApp.discoverSource form.times, Url.stays c = true
    unfold KibanaApp.discoverSource
    simp only [List.forall_mem_append]
    exact ⟨hliteral.1, stays_of_mem_toISOString, hliteral.2.1, stays_of_mem_toISOString,
      hliteral.2.2⟩
  rw [Url.param_skip (isName (by decide) (by decide)) (by decide) hstays,
    Url.param_last (isName (by decide) (by decide))]

/-! ## The Kibana link -/

theorem getLink_plain (portalLinks : List PortalLink) (search : Text) :
    '?' ∉ getLink portalLinks search ∧ '#' ∉ getLink portalLinks search := by
  rw [getLink]
  have hstep : ∀ (portalLinks : List PortalLink) (link : Text), '?' ∉ link ∧ '#' ∉ link →
      '?' ∉ portalLinks.foldl (fun link portalLink =>
        if search <:+: portalLink.dns then portalLink.dns else link) link ∧
      '#' ∉ portalLinks.foldl (fun link portalLink =>
        if search <:+: portalLink.dns then portalLink.dns else link) link := by
    intro portalLinks
    induction portalLinks with
    | nil => exact fun link h => h
    | cons portalLink portalLinks ih =>
        intro link h
        rw [List.foldl_cons]
        refine ih _ ?_
        split
        · exact ⟨portalLink.noSearch, portalLink.noFragment⟩
        · exact h
  exact hstep portalLinks [] ⟨by simp, by simp⟩

/-- Endgame alerts are shown on the discover page, all others in the security application. -/
theorem getKibanaLink_cases (portalLinks : List PortalLink) (updateAlert : AlertRow)
    (form : TimeForm) :
    (∃ page ∈ securityPages, getKibanaLink portalLinks updateAlert form =
      securityLink (getLink portalLinks kibana) page
        (getKibanaQuery updateAlert form.escalated) form.times.1 form.times.2) ∨
    getKibanaLink portalLinks updateAlert form =
      discoverLink (getLink portalLinks kibana) (getKibanaQuery updateAlert form.escalated)
        form.times.1 form.times.2 := by
  have hpages : "overview".toList ∈ securityPages ∧ kibanaDetectionsPage ∈ securityPages ∧
      kibanaNetworkExternalPage ∈ securityPages ∧ kibanaHostsAlertsPage ∈ securityPages := by
    simp [securityPages]
  obtain ⟨hoverview, hdetections, hnetwork, hhosts⟩ := hpages
  unfold getKibanaLink
  by_cases hsignal : updateAlert.get? eventKind = some signalKind
  · rw [if_pos hsignal]
    exact .inl ⟨_, hdetections, rfl⟩
  by_cases halert : updateAlert.get? eventKind = some alertKind
  · rw [if_neg hsignal, if_pos halert]
    split
    · exact .inl ⟨_, hoverview, rfl⟩
    · split_ifs
      · exact .inl ⟨_, hoverview, rfl⟩
      · exact .inl ⟨_, hnetwork, rfl⟩
      · exact .inr rfl
      · exact .inl ⟨_, hhosts, rfl⟩
      · exact .inl ⟨_, hoverview, rfl⟩
  · rw [if_neg hsignal, if_neg halert]
    exact .inl ⟨_, hoverview, rfl⟩

/-- What comes out of the parameters of the link; the time range does if the query survives. -/
theorem getKibanaLink_params (portalLinks : List PortalLink) (updateAlert : AlertRow)
    (form : TimeForm) : ∃ app,
      KibanaApp.ofUrl (getKibanaLink portalLinks updateAlert form) = app ∧
      Url.param app.queryName (app.params (getKibanaLink portalLinks updateAlert form)) =
        some (Url.decode (Url.cut
          (app.queryText (getKibanaQuery updateAlert form.escalated)))) ∧
      (Url.Survives (app.queryText (getKibanaQuery updateAlert form.escalated)) →
        Url.param app.timesName (app.params (getKibanaLink portalLinks updateAlert form)) =
          some (Url.decode (Url.cut (app.timesText form.times)))) := by
  obtain ⟨hsearch, hfragment⟩ := getLink_plain portalLinks kibana
  rcases getKibanaLink_cases portalLinks updateAlert form with ⟨page, hpage, hlink⟩ | hlink
  · rw [hlink]
    exact ⟨.security, (ofUrl_securityLink hsearch hfragment _ _ hpage).1,
      securityLink_query hsearch hfragment _ _ hpage,
      securityLink_times hsearch hfragment _ _ hpage⟩
  · rw [hlink]
    have hdiscover := ofUrl_discoverLink hsearch hfragment
      (getKibanaQuery updateAlert form.escalated) form.times
    refine ⟨.discover, hdiscover.1, ?_, fun _ => ?_⟩
    · show Url.param "_a".toList (Url.search (Url.fragment _)) = _
      rw [hdiscover.2, discoverLink_query]
    · show Url.param "_g".toList (Url.search (Url.fragment _)) = _
      rw [hdiscover.2, discoverLink_times]

/-! ## The parameters of the Arkime links -/

theorem survives_numberText (n : Int) : Url.Survives (numberText n) := by
  have hdigit : ∀ {k : Nat} {c : Char}, c ∈ Nat.toDigits 10 k → c.isDigit = true :=
    Nat.isDigit_of_mem_toDigits (by decide) (by decide)
  have hmem : ∀ c ∈ numberText n, c = '-' ∨ c.isDigit = true := by
    intro c hc
    rw [numberText] at hc
    split at hc
    · rcases List.mem_cons.mp hc with rfl | hc
      · exact .inl rfl
      · exact .inr (hdigit hc)
    · exact .inr (hdigit hc)
  constructor
  · intro c hc
    rw [Url.not_reserved_iff]
    rcases hmem c hc with rfl | hc
    · decide
    · refine ⟨Url.stays_of_isUnescaped (by simp [Url.isUnescaped, Char.isAlphanum, hc]), ?_⟩
      rintro rfl
      cases hc
  · refine Url.hasEscape_of_notMem fun hc => ?_
    rcases hmem _ hc with h | h <;> cases h

theorem decode_cut_numberText (n : Int) : Url.decode (Url.cut (numberText n)) = numberText n :=
  Url.decode_cut_eq_self_iff.mpr (survives_numberText n)

/-- The search part of the link of a row to Arkime -/
def arkimeSearch (arkimeExpression : Text) (form : TimeForm) : Text :=
  "graphType".toList ++ '=' :: ("lpHisto".toList ++ '&' ::
    ("seriesType".toList ++ '=' :: ("bars".toList ++ '&' ::
      ("expression".toList ++ '=' :: (arkimeExpression ++ '&' ::
        ("startTime".toList ++ '=' :: (numberText (form.startDatetime / 1000) ++ '&' ::
          ("stopTime".toList ++ '=' :: numberText (form.endDatetime / 1000)))))))))

/-- The search part of the link of an alert to Arkime -/
def communitySearch (communityId : Text) (form : TimeForm) : Text :=
  "expression".toList ++ '=' :: (("communityId%20%3D%3D%20%22".toList ++
    (Url.encodeURIComponent communityId ++ "%22".toList)) ++ '&' ::
      ("date".toList ++ '=' :: numberText (hourAmount form)))

theorem search_sessions (portalLinks : List PortalLink) (cs : Text) :
    Url.search ((getLink portalLinks arkime ++ "/sessions".toList) ++ '?' :: cs) =
      Url.beforeFragment cs := by
  obtain ⟨hsearch, hfragment⟩ := getLink_plain portalLinks arkime
  refine Url.search_append ?_ ?_ cs
  · rw [List.mem_append, not_or]
    exact ⟨hsearch, by decide⟩
  · rw [List.mem_append, not_or]
    exact ⟨hfragment, by decide⟩

theorem search_of_openAlertInArkimeTab {portalLinks : List PortalLink} {updateAlert : AlertRow}
    {form : TimeForm} {url : Text}
    (h : openAlertInArkimeTab portalLinks updateAlert form = .ok url) :
    getLink portalLinks arkime ≠ [] ∧ buildArkimeExpression updateAlert ≠ [] ∧
      Url.search url =
        Url.beforeFragment (arkimeSearch (buildArkimeExpression updateAlert) form) := by
  have hmarks : "/sessions?graphType=lpHisto&seriesType=bars&expression=".toList =
      "/sessions".toList ++ '?' :: ("graphType".toList ++ '=' :: ("lpHisto".toList ++ '&' ::
        ("seriesType".toList ++ '=' :: ("bars".toList ++ '&' ::
          ("expression".toList ++ ['=']))))) := by decide +kernel
  have hstart : "&startTime=".toList = '&' :: ("startTime".toList ++ ['=']) := by decide
  have hstop : "&stopTime=".toList = '&' :: ("stopTime".toList ++ ['=']) := by decide
  unfold openAlertInArkimeTab at h
  simp only at h
  split_ifs at h with hinstalled hexpression
  refine ⟨hinstalled, hexpression, ?_⟩
  cases h
  have hlink : getArkimeLink (getLink portalLinks arkime) (buildArkimeExpression updateAlert) form =
      (getLink portalLinks arkime ++ "/sessions".toList) ++ '?' ::
        arkimeSearch (buildArkimeExpression updateAlert) form := by
    unfold getArkimeLink arkimeSearch
    rw [if_neg hinstalled, if_neg hexpression, hmarks, hstart, hstop]
    simp only [List.append_assoc, List.cons_append, List.nil_append]
  rw [hlink, search_sessions]

theorem param_arkimeSearch (arkimeExpression : Text) (form : TimeForm) {name : Text}
    (hgraph : "graphType".toList ≠ name) (hseries : "seriesType".toList ≠ name) :
    Url.param name (Url.beforeFragment (arkimeSearch arkimeExpression form)) =
      Url.param name (Url.beforeFragment ("expression".toList ++ '=' :: (arkimeExpression ++ '&' ::
        ("startTime".toList ++ '=' :: (numberText (form.startDatetime / 1000) ++ '&' ::
          ("stopTime".toList ++ '=' :: numberText (form.endDatetime / 1000))))))) := by
  unfold arkimeSearch
  rw [Url.param_skip (isName (by decide) (by decide)) hgraph (by decide),
    Url.param_skip (isName (by decide) (by decide)) hseries (by decide)]

theorem conditions_of_openAlertInArkimeTab {portalLinks : List PortalLink}
    {updateAlert : AlertRow} {form : TimeForm} {url : Text}
    (h : openAlertInArkimeTab portalLinks updateAlert form = .ok url) (a : ArkimeReader) :
    a.conditions url =
      a.expression (Url.decode (Url.cut (buildArkimeExpression updateAlert))) := by
  have hexpression : Url.param "expression".toList (Url.search url) =
      some (Url.decode (Url.cut (buildArkimeExpression updateAlert))) := by
    rw [(search_of_openAlertInArkimeTab h).2.2, param_arkimeSearch _ _ (by decide) (by decide)]
    exact Url.param_first (isName (by decide) (by decide)) (.inr ⟨_, rfl⟩) _
  rw [ArkimeReader.conditions, hexpression]
  rfl

/-- The times of the window in whole seconds, if the expression does not end its parameter -/
theorem range_of_openAlertInArkimeTab {portalLinks : List PortalLink} {updateAlert : AlertRow}
    {form : TimeForm} {url : Text} (h : openAlertInArkimeTab portalLinks updateAlert form = .ok url)
    (hstays : ∀ c ∈ buildArkimeExpression updateAlert, Url.stays c = true) (a : ArkimeReader)
    (now : Int) :
    a.range url now =
      some (form.startDatetime / 1000 * 1000, form.endDatetime / 1000 * 1000) := by
  have hstart : Url.param "startTime".toList (Url.search url) =
      some (numberText (form.startDatetime / 1000)) := by
    rw [(search_of_openAlertInArkimeTab h).2.2, param_arkimeSearch _ _ (by decide) (by decide),
      Url.param_skip (isName (by decide) (by decide)) (by decide) hstays]
    refine (Url.param_first (isName (by decide) (by decide)) (.inr ⟨_, rfl⟩) _).trans ?_
    rw [decode_cut_numberText]
  have hstop : Url.param "stopTime".toList (Url.search url) =
      some (numberText (form.endDatetime / 1000)) := by
    rw [(search_of_openAlertInArkimeTab h).2.2, param_arkimeSearch _ _ (by decide) (by decide),
      Url.param_skip (isName (by decide) (by decide)) (by decide) hstays,
      Url.param_skip (isName (by decide) (by decide)) (by decide) (survives_numberText _).stays,
      Url.param_last (isName (by decide) (by decide)), decode_cut_numberText]
  unfold ArkimeReader.range
  simp only [hstart, hstop, a.seconds_reads _ trivial, Option.bind_some, Option.map_some]

theorem search_of_openInArkime {portalLinks : List PortalLink} {form : TimeForm}
    {communityId : Option Text} {url : Text}
    (h : openInArkime portalLinks form communityId = .ok url) :
    ∃ id, getLink portalLinks arkime ≠ [] ∧ communityId = some id ∧
      Url.search url = Url.beforeFragment (communitySearch id form) := by
  have hmarks : "/sessions?expression=communityId%20%3D%3D%20%22".toList =
      "/sessions".toList ++ '?' :: ("expression".toList ++ '=' ::
        "communityId%20%3D%3D%20%22".toList) := by decide +kernel
  have hdate : "%22&date=".toList = "%22".toList ++ '&' :: ("date".toList ++ ['=']) := by decide
  unfold openInArkime at h
  simp only at h
  split_ifs at h with hinstalled
  cases communityId with
  | none => cases h
  | some id =>
      refine ⟨id, hinstalled, rfl, ?_⟩
      cases h
      have hlink : getLink portalLinks arkime ++
          "/sessions?expression=communityId%20%3D%3D%20%22".toList ++ Url.encodeURIComponent id ++
          "%22&date=".toList ++ numberText (hourAmount form) =
          (getLink portalLinks arkime ++ "/sessions".toList) ++ '?' :: communitySearch id form := by
        unfold communitySearch
        rw [hmarks, hdate]
        simp only [List.append_assoc, List.cons_append, List.nil_append]
      rw [hlink, search_sessions]

/-- The hours before the link is opened -/
theorem range_of_openInArkime {portalLinks : List PortalLink} {form : TimeForm}
    {communityId : Option Text} {url : Text}
    (h : openInArkime portalLinks form communityId = .ok url) (a : ArkimeReader) (now : Int) :
    a.range url now = some (now - hourAmount form * 3600000, now) := by
  obtain ⟨id, -, -, hsearch⟩ := search_of_openInArkime h
  have hstays : ∀ c ∈ "communityId%20%3D%3D%20%22".toList ++
      (Url.encodeURIComponent id ++ "%22".toList), Url.stays c = true := by
    simp only [List.forall_mem_append]
    exact ⟨by decide, Url.stays_of_mem_encodeURIComponent, by decide⟩
  have hskip : ∀ {name : Text}, "expression".toList ≠ name →
      Url.param name (Url.search url) = Url.param name (Url.beforeFragment
        ("date".toList ++ '=' :: numberText (hourAmount form))) := by
    intro name hname
    rw [hsearch]
    unfold communitySearch
    rw [Url.param_skip (isName (by decide) (by decide)) hname hstays]
  have hstart : Url.param "startTime".toList (Url.search url) = none := by
    rw [hskip (by decide), Url.param_eq_none (isName (by decide) (by decide)) (by decide)
      (survives_numberText _).stays]
  have hdate : Url.param "date".toList (Url.search url) = some (numberText (hourAmount form)) := by
    rw [hskip (by decide), Url.param_last (isName (by decide) (by decide)),
      decode_cut_numberText]
  have hread : a.hours (numberText (hourAmount form)) = some (hourAmount form) :=
    a.hours_reads _ trivial
  unfold ArkimeReader.range
  simp only [hstart, hdate, hread, Option.bind_some, Option.map_some]

end Tfplenum.SecurityAlerts
