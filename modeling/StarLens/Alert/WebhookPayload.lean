import StarLens.Alert.SlackText
import StarLens.Alert.Webhook
import StarLens.Foundation.JsonText
import StarLens.Foundation.StableSort
import StarLens.Go.Timestamp

/-! # Alerts on the wire

An alert as the JSON value that the webhook posts and that the alert list holds,
and as whoever gets the text reads it. -/

namespace StarLens.Alert

open Foundation Go

/-! ## Writing -/

/-- encoding/json sorts the keys of a map, which it ranges over first. -/
def labelMembers (order : MapOrder (String × String)) (labels : List (String × String)) :
    List (String × String) :=
  (order.range labels).insertionSort fun left right => !decide (right.1 < left.1)

def labelsJson (order : MapOrder (String × String)) (labels : List (String × String)) : JsonValue :=
  .object ((labelMembers order labels).map fun (key, value) => (key, .string value))

def alertObject (alert : Alert) (labels : Option JsonValue) (firedAt : List Char) : JsonValue :=
  .object ([("key", .string alert.key), ("ruleId", .string alert.ruleID),
    ("severity", .string alert.severity.text), ("title", .string alert.title),
    ("message", .string alert.message)] ++ (labels.map fun labels => ("labels", labels)).toList ++
    [("firedAt", .string (String.ofList firedAt))])

/-- Labels are left out if there are none. An alert whose time has no text has
none either. -/
def alertJson (order : MapOrder (String × String)) (alert : Alert) : Option JsonValue :=
  alert.firedAt.marshal.map
    (alertObject alert (if alert.labels = [] then none else some (labelsJson order alert.labels)))

def alertsJson (order : MapOrder (String × String)) (alerts : List Alert) : Option JsonValue :=
  (alerts.mapM (alertJson order)).map fun items => .object [("alerts", .array items)]

def payload [UnicodeTables] (order : MapOrder (String × String)) (format : String)
    (alert : Alert) : Option (List Char) :=
  if format = webhookFormatSlack then
    some (JsonText.write (.object [("text", .string (slackText order alert))]))
  else
    (alertJson order alert).map fun item =>
      JsonText.write (.object [("alert", item), ("source", .string "starlens")])

/-! ## Reading -/

def readSeverity (text : String) : Option Severity :=
  [Severity.info, .warning, .critical].find? fun severity => severity.text = text

def readString (value : JsonValue) (name : String) : Option String :=
  (value.member name).bind JsonValue.string?

def readLabels : Option JsonValue → Option (List (String × String))
  | none => some []
  | some (.object members) =>
      members.mapM fun (key, value) => value.string?.map fun text => (key, text)
  | _ => none

def readAlert (value : JsonValue) : Option Alert := do
  let key ← readString value "key"
  let ruleID ← readString value "ruleId"
  let severity ← (readString value "severity").bind readSeverity
  let title ← readString value "title"
  let message ← readString value "message"
  let labels ← readLabels (value.member "labels")
  let firedAt ← (readString value "firedAt").bind fun text => Time.unmarshal text.toList
  return { key, ruleID, severity, title, message, labels, firedAt }

def readAlerts (text : List Char) : Option (List Alert) := do
  let value ← JsonText.read text
  match value.member "alerts" with
  | some (.array items) => items.mapM readAlert
  | _ => none

def readPayload (text : List Char) : Option (String × Alert) := do
  let value ← JsonText.read text
  let source ← readString value "source"
  let alert ← (value.member "alert").bind readAlert
  return (source, alert)

def readSlack (text : List Char) : Option String := do
  let value ← JsonText.read text
  readString value "text"

/-! ## Round trips -/

private theorem labelMembers_perm (order : MapOrder (String × String))
    (labels : List (String × String)) : (labelMembers order labels).Perm labels :=
  (List.perm_insertionSort _ _).trans (order.perm labels)

private theorem labelMembers_eq (order order' : MapOrder (String × String))
    {labels : List (String × String)} (distinct : (labels.map Prod.fst).Nodup) :
    labelMembers order labels = labelMembers order' labels := by
  have weak := strictWeak_key (Prod.fst : String × String → String)
  apply weak.insertionSort_eq_of_perm ((order.perm labels).trans (order'.perm labels).symm)
  intro left member right member' before after
  simp only [decide_eq_false_iff_not, not_lt] at before after
  apply List.inj_on_of_nodup_map distinct ((order.perm labels).mem_iff.mp member)
    ((order.perm labels).mem_iff.mp member')
  exact le_antisymm after before

private theorem readSeverity_text (severity : Severity) :
    readSeverity severity.text = some severity := by
  cases severity <;> decide

private theorem readLabels_labelsJson (order : MapOrder (String × String))
    (labels : List (String × String)) :
    readLabels (some (labelsJson order labels)) = some (labelMembers order labels) := by
  rw [labelsJson, readLabels]
  induction labelMembers order labels with
  | nil => rfl
  | cons label labels induction =>
      rw [List.map_cons, List.mapM_cons, induction]
      rfl

private theorem readAlert_object {alert : Alert} {labels : Option JsonValue} {firedAt : List Char}
    {time : Time} {held : List (String × String)} (readTime : Time.unmarshal firedAt = some time)
    (readHeld : readLabels labels = some held) :
    readAlert (alertObject alert labels firedAt) =
      some { alert with labels := held, firedAt := time } := by
  have stamp : (some (String.ofList firedAt)).bind (fun text => Time.unmarshal text.toList) =
      some time := by
    rw [Option.bind_some, String.toList_ofList, readTime]
  have severity : (some alert.severity.text).bind readSeverity = some alert.severity :=
    readSeverity_text alert.severity
  have texts : ∀ name text, (name, text) ∈ [("key", alert.key), ("ruleId", alert.ruleID),
      ("severity", alert.severity.text), ("title", alert.title), ("message", alert.message),
      ("firedAt", String.ofList firedAt)] →
      readString (alertObject alert labels firedAt) name = some text := by
    intro name text member
    simp only [List.mem_cons, Prod.mk.injEq, List.not_mem_nil, or_false] at member
    rcases member with ⟨rfl, rfl⟩ | ⟨rfl, rfl⟩ | ⟨rfl, rfl⟩ | ⟨rfl, rfl⟩ | ⟨rfl, rfl⟩ |
      ⟨rfl, rfl⟩ <;> cases labels <;> rfl
  have labelled : (alertObject alert labels firedAt).member "labels" = labels := by
    cases labels <;> rfl
  rw [readAlert, texts "key" alert.key (by simp), texts "ruleId" alert.ruleID (by simp),
    texts "severity" alert.severity.text (by simp), texts "title" alert.title (by simp),
    texts "message" alert.message (by simp), texts "firedAt" (String.ofList firedAt) (by simp),
    labelled, stamp, severity, readHeld]
  rfl

def received (order : MapOrder (String × String)) (alert : Alert) : Alert :=
  { alert with
    labels := labelMembers order alert.labels
    firedAt := alert.firedAt.utc }

private theorem readAlert_json (order : MapOrder (String × String)) {alert : Alert}
    {value : JsonValue} (written : alertJson order alert = some value) :
    readAlert value = some (received order alert) := by
  rcases Option.map_eq_some_iff.mp written with ⟨firedAt, stamped, rfl⟩
  apply readAlert_object (Time.unmarshal_marshal stamped)
  split
  case isTrue unlabelled =>
      have noLabels := (labelMembers_perm order alert.labels).length_eq
      rw [unlabelled, List.length_nil, List.length_eq_zero_iff] at noLabels
      rw [unlabelled, noLabels, readLabels]
  case isFalse => exact readLabels_labelsJson order alert.labels

theorem sameAlert_received (order : MapOrder (String × String)) (alert : Alert) :
    SameAlert { alert with firedAt := alert.firedAt.utc } (received order alert) :=
  ⟨rfl, (labelMembers_perm order alert.labels).symm⟩

theorem alertJson_order (order order' : MapOrder (String × String)) {alert : Alert}
    (distinct : (alert.labels.map Prod.fst).Nodup) :
    alertJson order alert = alertJson order' alert := by
  rw [alertJson, labelsJson, labelMembers_eq order order' distinct, alertJson, labelsJson]

theorem alertsJson_order (order order' : MapOrder (String × String)) {alerts : List Alert}
    (distinct : ∀ alert ∈ alerts, (alert.labels.map Prod.fst).Nodup) :
    alertsJson order alerts = alertsJson order' alerts := by
  have items : alerts.mapM (alertJson order) = alerts.mapM (alertJson order') := by
    induction alerts with
    | nil => rfl
    | cons alert alerts induction =>
        rw [List.forall_mem_cons] at distinct
        rw [List.mapM_cons, List.mapM_cons, alertJson_order order order' distinct.1,
          induction distinct.2]
  rw [alertsJson, alertsJson, items]

theorem alertsJson_isSome (order : MapOrder (String × String)) {alerts : List Alert}
    (stamped : ∀ alert ∈ alerts, alert.firedAt.marshal.isSome) :
    (alertsJson order alerts).isSome := by
  rw [alertsJson, Option.isSome_map]
  induction alerts with
  | nil => rfl
  | cons alert alerts induction =>
      rw [List.forall_mem_cons] at stamped
      rcases Option.isSome_iff_exists.mp stamped.1 with ⟨text, stamp⟩
      rcases Option.isSome_iff_exists.mp (induction stamped.2) with ⟨items, rest⟩
      rw [List.mapM_cons, alertJson, stamp, rest]
      rfl

theorem readPayload_generic [UnicodeTables] (order : MapOrder (String × String)) {alert : Alert}
    {text : List Char} (written : payload order webhookFormatGeneric alert = some text) :
    readPayload text = some ("starlens", received order alert) := by
  have generic : webhookFormatGeneric ≠ webhookFormatSlack := by decide
  rw [payload, if_neg generic] at written
  rcases Option.map_eq_some_iff.mp written with ⟨item, encoded, rfl⟩
  have source : readString (.object [("alert", item), ("source", .string "starlens")]) "source" =
      some "starlens" := rfl
  have held : (JsonValue.object [("alert", item), ("source", .string "starlens")]).member "alert" =
      some item := rfl
  simp only [readPayload, JsonText.read_write, bind, Option.bind_some, source, held,
    readAlert_json order encoded]
  rfl

theorem readSlack_slack [UnicodeTables] (order : MapOrder (String × String)) (alert : Alert) :
    (payload order webhookFormatSlack alert).bind readSlack = some (slackText order alert) := by
  have held : readString (.object [("text", .string (slackText order alert))]) "text" =
      some (slackText order alert) := rfl
  rw [payload, if_pos rfl, Option.bind_some, readSlack, JsonText.read_write]
  exact held

theorem readAlerts_alertsJson (order : MapOrder (String × String)) {alerts : List Alert}
    {value : JsonValue} (written : alertsJson order alerts = some value) :
    readAlerts (JsonText.write value) = some (alerts.map (received order)) := by
  rcases Option.map_eq_some_iff.mp written with ⟨items, encoded, rfl⟩
  have held : (JsonValue.object [("alerts", .array items)]).member "alerts" =
      some (.array items) := rfl
  simp only [readAlerts, JsonText.read_write, bind, Option.bind_some, held]
  clear written held
  induction alerts generalizing items with
  | nil =>
      cases encoded
      rfl
  | cons alert alerts induction =>
      rw [List.mapM_cons] at encoded
      cases first : alertJson order alert with
      | none =>
          rw [first] at encoded
          cases encoded
      | some item =>
          cases rest : alerts.mapM (alertJson order) with
          | none =>
              rw [first, rest] at encoded
              cases encoded
          | some others =>
              rw [first, rest] at encoded
              cases encoded
              rw [List.mapM_cons, readAlert_json order first, induction others rest]
              rfl

end StarLens.Alert
