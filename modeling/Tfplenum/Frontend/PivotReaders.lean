/-
  Tfplenum.Frontend.PivotReaders

  What Kibana and Arkime read in a link, as far as it is documented: the parameters of the
  URL, the state that is written in them, and the query in it.  Both languages are read as
  conjunctions of conditions, where a word needs no quotes and a phrase is quoted.

  A reader is any function that reads these texts as documented (`KibanaReader`,
  `ArkimeReader`); what it does with others is left open.  There are readers that read
  nothing else (`KibanaReader.least`, `ArkimeReader.least`).
-/

import Tfplenum.Frontend.PivotLinks
import Tfplenum.Lib.ReadBack

namespace Tfplenum.SecurityAlerts

open Lib Lib.Iso

/-! ## Kibana -/

inductive KueryValue where
  | phrase (text : Text)
  | word (text : Text)
deriving DecidableEq

structure KueryCondition where
  field : Text
  value : KueryValue
deriving DecidableEq

def KueryValue.text : KueryValue → Text
  | .phrase text => '"' :: (text ++ ['"'])
  | .word text => text

def KueryCondition.text (c : KueryCondition) : Text := c.field ++ (" : ".toList ++ c.value.text)

def isKuerySpecial (c : Char) : Bool :=
  c.isWhitespace || ['\u00A0', '\\', '(', ')', ':', '<', '>', '"', '*', '{', '}'].contains c

/-- A text that stands for itself without quotes -/
structure IsKueryWord (text : Text) : Prop where
  nonempty : text ≠ []
  plain : ∀ c ∈ text, isKuerySpecial c = false
  keyword : ["and".toList, "or".toList, "not".toList].contains (text.map Char.toLower) = false

instance (text : Text) : Decidable (IsKueryWord text) :=
  decidable_of_iff (text ≠ [] ∧ (∀ c ∈ text, isKuerySpecial c = false) ∧
    ["and".toList, "or".toList, "not".toList].contains (text.map Char.toLower) = false)
    ⟨fun h => ⟨h.1, h.2.1, h.2.2⟩, fun h => ⟨h.nonempty, h.plain, h.keyword⟩⟩

/-- A text that stands for itself in quotes -/
structure IsKueryPhrase (text : Text) : Prop where
  quote : '"' ∉ text
  backslash : '\\' ∉ text

instance (text : Text) : Decidable (IsKueryPhrase text) :=
  decidable_of_iff ('"' ∉ text ∧ '\\' ∉ text)
    ⟨fun h => ⟨h.1, h.2⟩, fun h => ⟨h.quote, h.backslash⟩⟩

def KueryValue.Good : KueryValue → Prop
  | .phrase text => IsKueryPhrase text
  | .word text => IsKueryWord text

structure KueryCondition.Good (c : KueryCondition) : Prop where
  field : IsKueryWord c.field
  value : c.value.Good

/-- A text that stands for itself in the quotes of a state, in Rison -/
structure IsRisonString (text : Text) : Prop where
  quote : '\'' ∉ text
  mark : '!' ∉ text

instance (text : Text) : Decidable (IsRisonString text) :=
  decidable_of_iff ('\'' ∉ text ∧ '!' ∉ text) ⟨fun h => ⟨h.1, h.2⟩, fun h => ⟨h.quote, h.mark⟩⟩

/-- The application that a link opens -/
inductive KibanaApp where
  | security
  | discover
deriving DecidableEq, Repr

namespace KibanaApp

def beforeQuery : KibanaApp → Text
  | security => "(language:kuery,query:'".toList
  | discover =>
      ("(columns:!(),filters:!(),index:endgame-dashboard-index-pattern,interval:auto," ++
        "query:(language:kuery,query:'").toList

def afterQuery : KibanaApp → Text
  | security => "')".toList
  | discover => "'),sort:!(!('@timestamp',desc)))".toList

/-- The state with the query -/
def queryText (app : KibanaApp) (query : Text) : Text :=
  app.beforeQuery ++ (query ++ app.afterQuery)

/-- The state with the time range, from the first to the second -/
def securityTimes (times : Text × Text) : Text :=
  "(global:(linkTo:!(timeline),timerange:(from:'".toList ++ (times.1 ++
  ("',kind:absolute,to:'".toList ++ (times.2 ++
  ("')),timeline:(linkTo:!(global),timerange:(from:'".toList ++ (times.1 ++
  ("',kind:absolute,to:'".toList ++ (times.2 ++ "')))".toList)))))))

def discoverTimes (times : Text × Text) : Text :=
  ("(filters:!(),query:(language:kuery,query:'')," ++
    "refreshInterval:(pause:!t,value:0),time:(from:'").toList ++ (times.1 ++
  ("',to:'".toList ++ (times.2 ++ "'))".toList)))

def timesText : KibanaApp → Text × Text → Text
  | security => securityTimes
  | discover => discoverTimes

/-- The parameters with the states -/
def queryName : KibanaApp → Text
  | security => "query".toList
  | discover => "_a".toList

def timesName : KibanaApp → Text
  | security => "timerange".toList
  | discover => "_g".toList

/-- The discover page has its state in a URL in the fragment. -/
def params : KibanaApp → Text → Text
  | security, url => Url.search url
  | discover, url => Url.search (Url.fragment url)

def ofUrl (url : Text) : KibanaApp :=
  if "/app/discover".toList <:+ Url.path url then discover else security

end KibanaApp

/-- What Kibana reads in the states, in a query and in a date -/
structure KibanaReader where
  query : KibanaApp → Text → Option Text
  times : KibanaApp → Text → Option (Text × Text)
  kuery : Text → Option (List KueryCondition)
  date : Text → Option Int
  query_reads : ∀ app, ReadsBack app.queryText IsRisonString (query app)
  times_reads : ∀ app, ReadsBack app.timesText
    (fun times => IsRisonString times.1 ∧ IsRisonString times.2) (times app)
  kuery_reads : ReadsBack (joined " and ".toList KueryCondition.text)
    (fun conditions => ∀ c ∈ conditions, c.Good) kuery
  date_reads : ReadsBack toISOString IsDate date

namespace KibanaReader

/-- The conditions of the query that a link opens -/
def conditions (k : KibanaReader) (url : Text) : Option (List KueryCondition) :=
  let app := KibanaApp.ofUrl url
  (Url.param app.queryName (app.params url)).bind fun state => (k.query app state).bind k.kuery

/-- The time range that a link opens -/
def range (k : KibanaReader) (url : Text) : Option (Int × Int) :=
  let app := KibanaApp.ofUrl url
  (Url.param app.timesName (app.params url)).bind fun state =>
    (k.times app state).bind fun times =>
      (k.date times.1).bind fun start => (k.date times.2).map fun stop => (start, stop)

end KibanaReader

/-! ## Arkime -/

structure ArkimeCondition where
  field : Text
  value : Text
deriving DecidableEq

def ArkimeCondition.text (c : ArkimeCondition) : Text := c.field ++ (" ==".toList ++ c.value)

/-- A text that stands for itself without quotes -/
structure IsArkimeWord (text : Text) : Prop where
  nonempty : text ≠ []
  plain : ∀ c ∈ text, (c.isAlphanum || ['.', ':', '_', '-'].contains c) = true

instance (text : Text) : Decidable (IsArkimeWord text) :=
  decidable_of_iff (text ≠ [] ∧
    ∀ c ∈ text, (c.isAlphanum || ['.', ':', '_', '-'].contains c) = true)
    ⟨fun h => ⟨h.1, h.2⟩, fun h => ⟨h.nonempty, h.plain⟩⟩

structure ArkimeCondition.Good (c : ArkimeCondition) : Prop where
  field : IsArkimeWord c.field
  value : IsArkimeWord c.value

instance (c : ArkimeCondition) : Decidable c.Good :=
  decidable_of_iff (IsArkimeWord c.field ∧ IsArkimeWord c.value)
    ⟨fun h => ⟨h.1, h.2⟩, fun h => ⟨h.field, h.value⟩⟩

/-- What Arkime reads in an expression, in a time in seconds and in a number of hours -/
structure ArkimeReader where
  expression : Text → Option (List ArkimeCondition)
  seconds : Text → Option Int
  hours : Text → Option Nat
  expression_reads : ReadsBack (joined "&& ".toList ArkimeCondition.text)
    (fun conditions => ∀ c ∈ conditions, c.Good) expression
  seconds_reads : ReadsBack numberText (fun _ => True) seconds
  hours_reads : ReadsBack (fun hours : Nat => numberText hours) (fun _ => True) hours

namespace ArkimeReader

def conditions (a : ArkimeReader) (url : Text) : Option (List ArkimeCondition) :=
  (Url.param "expression".toList (Url.search url)).bind a.expression

/-- The time range that a link opens: the one in seconds, or else the last hours -/
def range (a : ArkimeReader) (url : Text) (now : Int) : Option (Int × Int) :=
  match Url.param "startTime".toList (Url.search url),
      Url.param "stopTime".toList (Url.search url) with
  | some startTime, some stopTime =>
      (a.seconds startTime).bind fun start =>
        (a.seconds stopTime).map fun stop => (start * 1000, stop * 1000)
  | _, _ =>
      ((Url.param "date".toList (Url.search url)).bind a.hours).map fun hours : Nat =>
        (now - hours * 3600000, now)

end ArkimeReader

/-! ## The readers of nothing else -/

theorem IsKueryWord.notMem {text : Text} (h : IsKueryWord text) {c : Char}
    (hc : isKuerySpecial c = true) : c ∉ text := by
  intro hmem
  rw [h.plain c hmem] at hc
  cases hc

theorem KueryCondition.text_ne_nil {c : KueryCondition} (h : c.Good) : c.text ≠ [] := by
  intro htext
  exact h.field.nonempty (List.append_eq_nil_iff.mp htext).1

/-- A phrase ends with its quote, a word where the next condition begins. -/
theorem KueryCondition.selfDelimiting :
    SelfDelimiting " and ".toList KueryCondition.text KueryCondition.Good := by
  rintro ⟨field, value⟩ ⟨field', value'⟩ cs ds ⟨hfield, hvalue⟩ ⟨hfield', hvalue'⟩ hcs hds h
  simp only [KueryCondition.text, List.append_assoc] at h
  have hspace : isKuerySpecial ' ' = true := by decide
  obtain ⟨rfl, hrest⟩ := of_append_cons_eq (hfield.notMem hspace) (hfield'.notMem hspace) h
  have hcolon : [':', ' '] ++ (value.text ++ cs) = [':', ' '] ++ (value'.text ++ ds) := hrest
  have h' := List.append_cancel_left hcolon
  have hne : ∀ {text word cs ds : Text}, IsKueryWord word →
      ('"' :: (text ++ ['"'])) ++ cs ≠ word ++ ds := by
    intro text word cs ds hword heq
    obtain ⟨d, rest, rfl⟩ := List.exists_cons_of_ne_nil hword.nonempty
    have hquote := (List.cons.inj heq).1
    exact hword.notMem (c := '"') (by decide) (hquote ▸ List.mem_cons_self)
  cases value with
  | phrase text =>
      cases value' with
      | phrase text' =>
          simp only [KueryValue.text, List.cons_append, List.append_assoc, List.cons.injEq,
            true_and, List.nil_append] at h'
          obtain ⟨rfl, rfl⟩ := of_append_cons_eq hvalue.quote hvalue'.quote h'
          exact ⟨rfl, rfl⟩
      | word text' => exact absurd h' (hne hvalue')
  | word text =>
      cases value' with
      | phrase text' => exact absurd h'.symm (hne hvalue)
      | word text' =>
          have hcs' : AtEnd (' ' :: "and ".toList) cs := hcs
          have hds' : AtEnd (' ' :: "and ".toList) ds := hds
          obtain ⟨rfl, rfl⟩ := eq_of_append_eq_append (IsKueryWord.notMem hvalue hspace)
            (IsKueryWord.notMem hvalue' hspace) hcs' hds' h'
          exact ⟨rfl, rfl⟩

theorem KueryCondition.joined_injOn :
    Set.InjOn (joined " and ".toList KueryCondition.text) {cs | ∀ c ∈ cs, c.Good} :=
  Lib.joined_injOn (by decide) (fun _ => text_ne_nil) selfDelimiting

theorem KibanaApp.queryText_injective (app : KibanaApp) : Function.Injective app.queryText :=
  fun _ _ h => List.append_cancel_right (List.append_cancel_left h)

/-- The first quote after a time ends it. -/
theorem KibanaApp.timesText_injOn (app : KibanaApp) :
    Set.InjOn app.timesText {times | IsRisonString times.1 ∧ IsRisonString times.2} := by
  rintro ⟨start, stop⟩ ⟨hstart, hstop⟩ ⟨start', stop'⟩ ⟨hstart', hstop'⟩ h
  cases app with
  | security =>
      obtain ⟨rfl, h⟩ := of_append_cons_eq hstart.quote hstart'.quote (List.append_cancel_left h)
      have hto : ",kind:absolute,to:'".toList ++ (stop ++ _) =
        ",kind:absolute,to:'".toList ++ (stop' ++ _) := h
      obtain ⟨rfl, -⟩ := of_append_cons_eq hstop.quote hstop'.quote (List.append_cancel_left hto)
      rfl
  | discover =>
      obtain ⟨rfl, h⟩ := of_append_cons_eq hstart.quote hstart'.quote (List.append_cancel_left h)
      have hto : ",to:'".toList ++ (stop ++ _) = ",to:'".toList ++ (stop' ++ _) := h
      obtain ⟨rfl, -⟩ := of_append_cons_eq hstop.quote hstop'.quote (List.append_cancel_left hto)
      rfl

noncomputable def KibanaReader.least : KibanaReader where
  query := fun app => leastReader app.queryText IsRisonString
  times := fun app => leastReader app.timesText
    fun times => IsRisonString times.1 ∧ IsRisonString times.2
  kuery := leastReader (joined " and ".toList KueryCondition.text) fun cs => ∀ c ∈ cs, c.Good
  date := leastReader toISOString IsDate
  query_reads := fun app => leastReader_readsBack app.queryText_injective.injOn
  times_reads := fun app => leastReader_readsBack app.timesText_injOn
  kuery_reads := leastReader_readsBack KueryCondition.joined_injOn
  date_reads := leastReader_readsBack toISOString_injective.injOn

theorem IsArkimeWord.notMem {text : Text} (h : IsArkimeWord text) {c : Char}
    (hc : (c.isAlphanum || ['.', ':', '_', '-'].contains c) = false) : c ∉ text := by
  intro hmem
  rw [h.plain c hmem] at hc
  cases hc

theorem ArkimeCondition.selfDelimiting :
    SelfDelimiting "&& ".toList ArkimeCondition.text ArkimeCondition.Good := by
  rintro ⟨field, value⟩ ⟨field', value'⟩ cs ds ⟨hfield, hvalue⟩ ⟨hfield', hvalue'⟩ hcs hds h
  simp only [ArkimeCondition.text, List.append_assoc] at h
  obtain ⟨rfl, hrest⟩ := of_append_cons_eq (c := ' ') (hfield.notMem (by decide))
    (hfield'.notMem (by decide)) h
  have hoperator : ['=', '='] ++ (value ++ cs) = ['=', '='] ++ (value' ++ ds) := hrest
  have hcs' : AtEnd ('&' :: "& ".toList) cs := hcs
  have hds' : AtEnd ('&' :: "& ".toList) ds := hds
  obtain ⟨rfl, rfl⟩ := eq_of_append_eq_append (hvalue.notMem (by decide))
    (hvalue'.notMem (by decide)) hcs' hds' (List.append_cancel_left hoperator)
  exact ⟨rfl, rfl⟩

theorem ArkimeCondition.joined_injOn :
    Set.InjOn (joined "&& ".toList ArkimeCondition.text) {cs | ∀ c ∈ cs, c.Good} := by
  refine Lib.joined_injOn (by decide) (fun c hc htext => ?_) selfDelimiting
  exact hc.field.nonempty (List.append_eq_nil_iff.mp htext).1

theorem numberText_injective : Function.Injective numberText := by
  have hread : ∀ n : Nat, Nat.ofDigitChars 10 (Nat.toDigits 10 n) 0 = n :=
    fun _ => Nat.ofDigitChars_ten_toDigits
  have hdigits : ∀ {n n' : Nat}, Nat.toDigits 10 n = Nat.toDigits 10 n' → n = n' := by
    intro n n' h
    rw [← hread n, h, hread n']
  have hminus : ∀ {n : Nat} {cs : Text}, Nat.toDigits 10 n ≠ '-' :: cs := by
    intro n cs h
    have hmem : '-' ∈ Nat.toDigits 10 n := h ▸ List.mem_cons_self
    cases Nat.isDigit_of_mem_toDigits (by decide) (by decide) hmem
  intro n n' h
  simp only [numberText] at h
  split_ifs at h with hn hn' hn'
  · have heq := hdigits (List.cons.inj h).2
    omega
  · exact absurd h.symm hminus
  · exact absurd h hminus
  · have heq := hdigits h
    omega

noncomputable def ArkimeReader.least : ArkimeReader where
  expression := leastReader (joined "&& ".toList ArkimeCondition.text) fun cs => ∀ c ∈ cs, c.Good
  seconds := leastReader numberText fun _ => True
  hours := leastReader (fun hours : Nat => numberText hours) fun _ => True
  expression_reads := leastReader_readsBack ArkimeCondition.joined_injOn
  seconds_reads := leastReader_readsBack numberText_injective.injOn
  hours_reads := leastReader_readsBack
    fun _ _ _ _ h => Int.ofNat_inj.mp (numberText_injective h)

end Tfplenum.SecurityAlerts
