/-
  Tfplenum.Frontend.PivotLinks

  The links of an alert row to Kibana and to Arkime, of
  `security-alerts.component.ts`, and the link of an alert to Arkime, of
  `alert-drilldown-dialog.component.ts`.

  A row maps the fields that the alerts are grouped by to their values; the window of the
  page is in its time form.  The links are put together from texts, some of them with the
  escapes written out.
-/

import Mathlib.Data.List.Infix
import Tfplenum.Lib.IsoDate
import Tfplenum.Lib.Table
import Tfplenum.Lib.UrlText

namespace Tfplenum.SecurityAlerts

open Lib Lib.Iso

abbrev Text := List Char

/-! ## Constants -/

def countColumnName : Text := "count".toList
def formColumnName : Text := "form".toList
def linksColumnName : Text := "links".toList
def ruleNameColumnName : Text := "rule.name".toList
def eventKind : Text := "event.kind".toList
def eventModule : Text := "event.module".toList

def signalKind : Text := "signal".toList
def alertKind : Text := "alert".toList

def endgameModule : Text := "endgame".toList
def suricataModule : Text := "suricata".toList
def zeekModule : Text := "zeek".toList
def systemModule : Text := "system".toList
def sysmonModule : Text := "sysmon".toList

def kibana : Text := "kibana".toList
def arkime : Text := "arkime".toList

def kibanaDetectionsPage : Text := "detections".toList
def kibanaNetworkExternalPage : Text := "network/external-alerts".toList
def kibanaHostsAlertsPage : Text := "hosts/alerts".toList

def naFailedArkimeNotInstalled : Text :=
  "N/A - Failed to create because Arkime is not installed.".toList

/-- `ARKIME_NOT_INSTALLED` of the page, `ARKIME_NOT_INSTALLED_MESSAGE` of the dialog -/
def arkimeNotInstalled : Text :=
  ("Arkime is not installed. Please go to the catalog page and install it if you want this " ++
    "capability to work.").toList

def arkimePivotFailMessage : Text :=
  "Failed to pivot to arkime as community ID does not exist.".toList

def arkimeFieldLookup : List (Text × Text) :=
  [("source.address".toList, "ip.src".toList), ("source.ip".toList, "ip.src".toList),
    ("source.port".toList, "port.src".toList), ("destination.port".toList, "port.dst".toList),
    ("destination.address".toList, "ip.dst".toList), ("destination.ip".toList, "ip.dst".toList)]

/-- What a plain object has besides its own properties, as text -/
def inheritedProperties : List (Text × Text) :=
  ("constructor".toList, "function Object() \x7b [native code] \x7d".toList) ::
    ("__proto__".toList, "[object Object]".toList) ::
    ["hasOwnProperty", "isPrototypeOf", "propertyIsEnumerable", "toLocaleString", "toString",
      "valueOf", "__defineGetter__", "__defineSetter__", "__lookupGetter__",
      "__lookupSetter__"].map fun name =>
        (name.toList, "function ".toList ++ name.toList ++ "() \x7b [native code] \x7d".toList)

/-- `ARKIME_FIELD_LOOKUP[field]` -/
def arkimeField (field : Text) : Option Text :=
  (arkimeFieldLookup ++ inheritedProperties).lookup field

/-! ## The page -/

/-- A portal link is the name of a host, without parameters or a fragment. -/
structure PortalLink where
  dns : Text
  noSearch : '?' ∉ dns
  noFragment : '#' ∉ dns

inductive TimeInterval where
  | days
  | hours
  | minutes
deriving DecidableEq, Repr

/-- What the links read of the time form; dates are milliseconds from the beginning of 1970. -/
structure TimeForm where
  escalated : Bool
  startDatetime : Int
  endDatetime : Int
  timeAmount : Nat
  timeInterval : TimeInterval
  startIsDate : IsDate startDatetime
  endIsDate : IsDate endDatetime

/-- The values of the fields that the alerts are grouped by, and the columns of the page -/
abbrev AlertRow := Table Text Text

/-- `replace` with a pattern for all occurrences of a character -/
def replaceAll (c : Char) (replacement : Text) (text : Text) : Text :=
  text.flatMap fun d => if d = c then replacement else [d]

/-- `slice(0, end)`, where a negative end counts from the end of the text -/
def sliceTo (text : Text) (stop : Int) : Text :=
  if stop < 0 then text.take (text.length + stop).toNat else text.take stop.toNat

/-- `get_link_` -/
def getLink (portalLinks : List PortalLink) (search : Text) : Text :=
  portalLinks.foldl
    (fun link portalLink => if search <:+: portalLink.dns then portalLink.dns else link) []

/-- The columns that are not fields of the alerts -/
def isColumn (field : Text) : Bool :=
  field = countColumnName || field = formColumnName || field = linksColumnName

/-! ## Kibana -/

/-- `get_kibana_query_` -/
def getKibanaQuery (updateAlert : AlertRow) (escalated : Bool) : Text :=
  let entries := updateAlert.rows.flatMap fun r =>
    if isColumn r.1 then []
    else if updateAlert.get? eventKind = some signalKind ∧ r.1 = ruleNameColumnName then
      "signal.rule.name : \"".toList ++ r.2 ++ "\" and ".toList
    else r.1 ++ " : \"".toList ++ r.2 ++ "\" and ".toList
  let query := sliceTo entries (entries.length - 5)
  if escalated then query ++ " and event.escalated : true".toList else query

/-- The link to a page of the security application -/
def securityLink (kibanaPrefix page query startDateTime endDateTime : Text) : Text :=
  let url := kibanaPrefix ++ "/app/security/".toList ++ page ++
    "?query=(language:kuery,query:'".toList ++ query ++
    "')&timerange=(global:(linkTo:!(timeline),timerange:(from:%27".toList ++ startDateTime ++
    "%27,kind:absolute,to:%27".toList ++ endDateTime ++
    "%27)),timeline:(linkTo:!(global),timerange:(from:%27".toList ++ startDateTime ++
    "%27,kind:absolute,to:%27".toList ++ endDateTime ++ "%27)))".toList
  replaceAll ')' "%29".toList (replaceAll '(' "%28".toList
    (replaceAll ' ' "%20".toList (replaceAll '\'' "%27".toList url)))

/-- The link to the discover page, where nothing is replaced -/
def discoverLink (kibanaPrefix query startDateTime endDateTime : Text) : Text :=
  kibanaPrefix ++
    ("/app/discover#/?_g=(filters:!(),query:(language:kuery,query:'')," ++
      "refreshInterval:(pause:!t,value:0),time:(from:%27").toList ++ startDateTime ++
    "%27,to:%27".toList ++ endDateTime ++
    ("%27))&_a=(columns:!(),filters:!(),index:endgame-dashboard-index-pattern,interval:auto," ++
      "query:(language:kuery,query:'").toList ++ query ++
    "'),sort:!(!('@timestamp',desc)))".toList

/-- `get_kibana_link_` -/
def getKibanaLink (portalLinks : List PortalLink) (updateAlert : AlertRow) (form : TimeForm) :
    Text :=
  let kibanaPrefix := getLink portalLinks kibana
  let query := getKibanaQuery updateAlert form.escalated
  let startDateTime := toISOString form.startDatetime
  let endDateTime := toISOString form.endDatetime
  let security := fun page => securityLink kibanaPrefix page query startDateTime endDateTime
  if updateAlert.get? eventKind = some signalKind then security kibanaDetectionsPage
  else if updateAlert.get? eventKind = some alertKind then
    match updateAlert.get? eventModule with
    | none => security "overview".toList
    | some module =>
        if module = [] then security "overview".toList
        else if module = zeekModule ∨ module = suricataModule then
          security kibanaNetworkExternalPage
        else if module = endgameModule then
          -- Endgame alerts are not on the pages of the security application.
          discoverLink kibanaPrefix query startDateTime endDateTime
        else if module = systemModule ∨ module = sysmonModule then security kibanaHostsAlertsPage
        else security "overview".toList
  else security "overview".toList

/-! ## Arkime -/

/-- `get_fields_` -/
def getFields (updateAlert : AlertRow) : List Text :=
  (updateAlert.rows.map Prod.fst).filter (!isColumn ·)

/-- What a field adds to the expression; a value that is a text is never null. -/
def expressionPart (updateAlert : AlertRow) (field : Text) : Text :=
  match arkimeField field, updateAlert.get? field with
  | some arkimeField, some value =>
      arkimeField ++ "%20%3D%3D".toList ++ value ++ "%26%26%20".toList
  | _, _ => []

/-- `build_arkime_expression_` -/
def buildArkimeExpression (updateAlert : AlertRow) : Text :=
  let urlPart := (getFields updateAlert).flatMap (expressionPart updateAlert)
  sliceTo urlPart (urlPart.length - 9)

/-- A whole number in a template -/
def numberText (n : Int) : Text :=
  if n < 0 then '-' :: Nat.toDigits 10 n.natAbs else Nat.toDigits 10 n.toNat

def arkimeFieldNames : Text := ", ".toList.intercalate (arkimeFieldLookup.map Prod.fst)

/-- `get_arkime_link_`: a link, or why there is none -/
def getArkimeLink (arkimePrefix arkimeExpression : Text) (form : TimeForm) : Text :=
  if arkimePrefix = [] then naFailedArkimeNotInstalled
  else if arkimeExpression = [] then
    ("N/A - Failed to create Arkime link because you need one of the following " ++
      "Group By fields: ").toList ++ arkimeFieldNames
  else
    let startTime := form.startDatetime / 1000
    let stopTime := form.endDatetime / 1000
    arkimePrefix ++ "/sessions?graphType=lpHisto&seriesType=bars&expression=".toList ++
      arkimeExpression ++ "&startTime=".toList ++ numberText startTime ++
      "&stopTime=".toList ++ numberText stopTime

/-- `open_alert_in_arkime_tab`: the URL that is opened, or the message that is shown -/
def openAlertInArkimeTab (portalLinks : List PortalLink) (updateAlert : AlertRow)
    (form : TimeForm) : Except Text Text :=
  let arkimePrefix := getLink portalLinks arkime
  let arkimeExpression := buildArkimeExpression updateAlert
  if arkimePrefix = [] then .error arkimeNotInstalled
  else if arkimeExpression = [] then
    .error (("Failed to pivot to Arkime because you need one of the following Group By " ++
      "fields: ").toList ++ arkimeFieldNames)
  else .ok (getArkimeLink arkimePrefix arkimeExpression form)

/-- `hour_amount` of `open_in_arkime`; an interval of hours has no branch. -/
def hourAmount (form : TimeForm) : Nat :=
  if form.timeInterval = .days then form.timeAmount * 24
  else if form.timeInterval = .minutes then
    if form.timeAmount > 60 then form.timeAmount / 60 else 1
  else 1

/-- `open_in_arkime` for an alert with its community id, if it has one -/
def openInArkime (portalLinks : List PortalLink) (form : TimeForm) (communityId : Option Text) :
    Except Text Text :=
  let arkimePrefix := getLink portalLinks arkime
  if arkimePrefix = [] then .error arkimeNotInstalled
  else
    match communityId with
    | none => .error arkimePivotFailMessage
    | some communityId =>
        .ok (arkimePrefix ++ "/sessions?expression=communityId%20%3D%3D%20%22".toList ++
          Url.encodeURIComponent communityId ++ "%22&date=".toList ++
          numberText (hourAmount form))

end Tfplenum.SecurityAlerts
