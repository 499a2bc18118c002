import StarLens.Alert.WebhookPayload
import StarLens.Server.AlertingRuns
import StarLens.Service.StoppedJobs

/-! # What is read of the alerts

The receivers of a webhook and the alert list in the browser know an alert by
its text only. -/

namespace StarLens.Server

open Alert Api Foundation Go Service
open Foundation.Machine (Each)

def Labelled (alert : Alert) : Prop := (alert.labels.map Prod.fst).Nodup

section Collected

variable [UnicodeTables]

private theorem labelled_of_evaluateAlerts {policy : ClusterAlertPolicy} {topology : Topology}
    {alert : Alert} (raised : alert ∈ evaluateAlerts policy topology) : Labelled alert := by
  rcases evaluateAlerts_split policy topology with ⟨whole, among, split⟩
  rw [split, List.mem_append, List.mem_append] at raised
  rcases raised with (summary | dead) | trailing
  · have one := among.subset summary
    simp only [summaryAlerts, List.mem_cons, List.not_mem_nil, or_false] at one
    rcases one with rfl | rfl | rfl | rfl <;> simp [Labelled, noLeaderAlert, quorumLostAlert,
      idMismatchAlert, noComputeCapacityAlert]
  · rcases List.mem_map.mp dead with ⟨node, -, rfl⟩
    simp [Labelled, nodeDownAlert]
  · rw [journalLagAlerts] at trailing
    split at trailing
    · cases trailing
    · rcases List.mem_filterMap.mp trailing with ⟨fe, -, raises⟩
      cases reported : fe.journalLag with
      | none => simp [reported] at raises
      | some lag =>
          simp only [reported, Option.ite_none_left_eq_some, Option.some.injEq] at raises
          rw [← raises.2.2]
          simp [Labelled, journalLagAlert]

private theorem labelled_of_evaluateRoutineLoadAlerts {policy : RoutineLoadAlertPolicy}
    {snapshot : RoutineLoadSnapshot} {alert : Alert}
    (raised : alert ∈ evaluateRoutineLoadAlerts policy snapshot) : Labelled alert := by
  rcases List.mem_flatMap.mp raised with ⟨job, -, member⟩
  rcases (mem_jobAlerts policy job).mp member with ⟨rule, raises⟩
  rw [Labelled, raised_labels policy job raises, jobLabels]
  split <;> simp

theorem AlertingSteps.labelled {json : JSONText} {client : HTTPClient} {editable : Bool}
    {state : AlertingState} {result : StepResult AlertingState AlertingEvent}
    (taken : AlertingSteps json client editable state result) :
    ∀ alert ∈ result.observation.alerts, Labelled alert := by
  have found_map {Report : Type} (read : Except String Report) (evaluate : Report → List Alert)
      (labelled : ∀ report, ∀ alert ∈ evaluate report, Labelled alert) :
      ∀ alert ∈ found (read.map evaluate), Labelled alert := by
    cases read with
    | error err => exact nofun
    | ok report => exact labelled report
  cases taken with
  | collectCluster => exact found_map _ _ fun _ _ => labelled_of_evaluateAlerts
  | collectLoads _ collects =>
      rcases collects with ⟨read, now, rfl⟩
      exact found_map _ _ fun _ _ => labelled_of_evaluateRoutineLoadAlerts
  | serve | read | dispatch | enter | idle => exact nofun

omit [UnicodeTables] in
theorem RaisedIn.labelled {history : List AlertingEvent} {alert : Alert}
    (raised : RaisedIn history alert)
    (labelled : ∀ event ∈ history, ∀ alert ∈ event.alerts, Labelled alert) : Labelled alert := by
  rcases raised with ⟨before, event, after, rfl, -, member, -⟩
  exact labelled event (by simp) alert member

omit [UnicodeTables] in
theorem Caused.labelled {history : List AlertingEvent} {alert : Alert}
    (caused : Caused history alert)
    (labelled : ∀ event ∈ history, ∀ alert ∈ event.alerts, Labelled alert) : Labelled alert := by
  rcases caused with ⟨firedAt, rfl⟩ | ⟨before, raised, clock, cooldown, channels, after, reading,
    rfl, raisedIn, rfl⟩
  · exact List.nodup_nil
  · exact raisedIn.labelled fun event member => labelled event (List.mem_append_left _ member)

end Collected

/-! ## Texts of alerts -/

section Texts

variable [UnicodeTables]

/-- An alert has one text in each format, and a receiver reads the alert back
from it. One whose time is beyond four-digit years has no generic text. -/
structure Delivered (alert : Alert) : Prop where
  one : ∀ format order order', payload order format alert = payload order' format alert
  slack : ∀ order, (payload order webhookFormatSlack alert).bind readSlack =
    some (slackText order alert)
  generic : alert.firedAt.FourDigitYear → ∀ order,
    ∃ read, (payload order webhookFormatGeneric alert).bind readPayload =
      some ("starlens", read) ∧ SameAlert { alert with firedAt := alert.firedAt.utc } read

structure Listed (alerts : List Alert) : Prop where
  one : ∀ order order', alertsJson order alerts = alertsJson order' alerts
  read : (∀ alert ∈ alerts, alert.firedAt.FourDigitYear) → ∀ order,
    ∃ read, ((alertsJson order alerts).map JsonText.write).bind readAlerts = some read ∧
      List.Forall₂ (fun alert read => SameAlert { alert with firedAt := alert.firedAt.utc } read)
        alerts read

theorem Labelled.delivered {alert : Alert} (labelled : Labelled alert) : Delivered alert := by
  constructor
  · intro format order order'
    rw [payload, payload, alertJson_order order order' labelled,
      slackText_same order order' ⟨rfl, List.Perm.refl _⟩ labelled]
  · exact fun order => readSlack_slack order alert
  · intro inYears order
    rcases Option.isSome_iff_exists.mp ((Time.marshal_isSome_iff _).mpr inYears) with
      ⟨text, stamped⟩
    have written : ∃ body, payload order webhookFormatGeneric alert = some body := by
      rw [payload, if_neg (by decide), alertJson, stamped]
      exact ⟨_, rfl⟩
    rcases written with ⟨body, written⟩
    refine ⟨_, ?_, sameAlert_received order alert⟩
    rw [written, Option.bind_some, readPayload_generic order written]

omit [UnicodeTables] in
theorem listed_of_labelled {alerts : List Alert} (labelled : ∀ alert ∈ alerts, Labelled alert) :
    Listed alerts := by
  constructor
  · exact fun order order' => alertsJson_order order order' labelled
  · intro inYears order
    have stamped := fun alert member => (Time.marshal_isSome_iff _).mpr (inYears alert member)
    rcases Option.isSome_iff_exists.mp (alertsJson_isSome order stamped) with ⟨value, written⟩
    refine ⟨alerts.map (received order), ?_, ?_⟩
    · rw [written, Option.map_some, Option.bind_some, readAlerts_alertsJson order written]
    · rw [List.forall₂_map_right_iff]
      exact List.forall₂_same.mpr fun alert _ => sameAlert_received order alert

end Texts

/-! ## Every alert of every run -/

def TellsOfReadable [UnicodeTables] (_ : List AlertingEvent) : AlertingEvent → Prop
  | .dispatched _ _ _ (some (sent, _)) => Delivered sent
  | .served (.responded _ response) =>
      ∀ alerts, shownAlerts response.body = some alerts →
        Listed alerts ∧ ∀ alert ∈ alerts, Delivered alert
  | _ => True

section Runs

variable [UnicodeTables] {json : JSONText} {client : HTTPClient} {editable : Bool}

structure Collectable (history : List AlertingEvent) (state : AlertingState) : Prop where
  sourced : Sourced history state
  labelled : ∀ event ∈ history, ∀ alert ∈ event.alerts, Labelled alert

theorem Collectable.readable {history : List AlertingEvent} {state : AlertingState}
    (collectable : Collectable history state) {result : StepResult AlertingState AlertingEvent}
    (taken : AlertingSteps json client editable state result)
    (tells : TellsOfCaused history result.observation) :
    TellsOfReadable history result.observation := by
  cases taken with
  | @serve _ served _ _ =>
      cases observed : served.observation with
      | silent => trivial
      | responded id response =>
          intro alerts shown
          rw [observed] at tells
          have labelled (alert : Alert) (member : alert ∈ alerts) : Labelled alert :=
            (tells alerts shown alert member).labelled collectable.labelled
          exact ⟨listed_of_labelled labelled, fun alert member => (labelled alert member).delivered⟩
  | @dispatch alert remaining environment dispatching =>
      have labelled : Labelled alert := RaisedIn.labelled tells collectable.labelled
      rcases state.server.shared.live.manager.dispatch_cases environment.clock alert
        with ⟨last, -, -, suppressed⟩ | ⟨reading, -, fired⟩
      · rw [suppressed]
        trivial
      · rw [fired]
        have stamped : Labelled
            { alert with firedAt := (environment.clock reading).utc } := labelled
        exact stamped.delivered
  | read | collectCluster | collectLoads | enter | idle => trivial

theorem Collectable.delivers {history : List AlertingEvent} {state : AlertingState}
    (collectable : Collectable history state) {id : Nat} {alert : Alert}
    {channels : List Notifier}
    (delivering : state.server.requests id = some (.deliverTest alert channels)) :
    Delivered alert := by
  rcases collectable.sourced.testing id _ alert delivering rfl with ⟨firedAt, rfl⟩
  have labelled : Labelled (testAlert firedAt) := List.nodup_nil
  exact labelled.delivered

theorem Collectable.start {settings : Settings} {files : Files} {server : ServerState}
    (booted : boot settings files = .ok server) : Collectable [] (alertingStart server) :=
  ⟨Sourced.start booted, fun _ member => absurd member List.not_mem_nil⟩

theorem Collectable.step {history : List AlertingEvent} {state : AlertingState}
    (collectable : Collectable history state) {input : AlertingInput}
    {result : StepResult AlertingState AlertingEvent}
    (step : alertingStep json client editable state input = some result) :
    Collectable (history ++ [result.observation]) result.nextState ∧
      TellsOfReadable history result.observation := by
  have taken := alertingStep_steps json client editable step
  rcases collectable.sourced.step step with ⟨sourced, tells⟩
  refine ⟨⟨sourced, ?_⟩, collectable.readable taken tells⟩
  intro event member
  rcases List.mem_append.mp member with earlier | new
  · exact collectable.labelled event earlier
  · rw [List.mem_singleton.mp new]
    exact taken.labelled

/-- Whatever is sent to a channel has one text there, by the poller as by the test
endpoint, and so has whatever a response shows; and from both the alerts are read
back as they were. -/
theorem alerts_are_readable {settings : Settings} {files : Files} {server : ServerState}
    (booted : boot settings files = .ok server) {inputs : List AlertingInput}
    {history : List AlertingEvent} {state : AlertingState}
    (runs : (alertingMachine json client editable).Runs (alertingStart server) inputs history
      state) :
    Each TellsOfReadable history ∧
      ∀ id alert channels, state.server.requests id = some (.deliverTest alert channels) →
        Delivered alert := by
  have readable := runs.each Collectable TellsOfReadable (Collectable.start booted)
    fun _ _ _ _ collectable _ step => collectable.step step
  exact ⟨readable.2, fun _ _ _ delivering => readable.1.delivers delivering⟩

end Runs

def sampleTest : List AlertingInput :=
  [.arrive 0 .testAlert, .advance 0 {}, .advance 0 {}]

private theorem sampleTest_runs :
    ∃ (_ : UnicodeTables) (server : ServerState) (history : List AlertingEvent)
      (state : AlertingState) (alert : Alert) (channels : List Notifier),
      boot (sampleSettings .standard) (fun _ => none) = .ok server ∧
      (alertingMachine sampleJSON sampleClient true).Runs (alertingStart server) sampleTest
        history state ∧
      state.server.requests 0 = some (.deliverTest alert channels) := by
  let tables := UnicodeTables.latin
  exact ⟨tables, _, _, _, _, _, rfl, (Machine.runs_iff_run _).mpr rfl, rfl⟩

theorem alerts_are_readable_sampleRound :
    (∃ (_ : UnicodeTables) (server : ServerState) (before after : List AlertingEvent)
      (state : AlertingState) (response : Response) (alert : Alert),
      (alertingMachine sampleJSON sampleClient true).Runs (alertingStart server) sampleRound
        (before ++ .served (.responded 0 response) :: after) state ∧
      response.body = .alerts [alert] ∧ alert.key = ruleClusterNoLeader ∧
      Listed [alert] ∧ Delivered alert) ∧
    ∃ (_ : UnicodeTables) (server : ServerState) (history : List AlertingEvent)
      (state : AlertingState) (alert : Alert) (channels : List Notifier),
      (alertingMachine sampleJSON sampleClient true).Runs (alertingStart server) sampleTest
        history state ∧
      state.server.requests 0 = some (.deliverTest alert channels) ∧ Delivered alert := by
  constructor
  · rcases sampleRound_runs with ⟨tables, server, history, state, response, alert, booted, runs,
      listed, body, key, -⟩
    rcases List.append_of_mem listed with ⟨before, after, split⟩
    have readable := (alerts_are_readable booted runs).1 before _ after split _
      (congrArg shownAlerts body)
    exact ⟨tables, server, before, after, state, response, alert, split ▸ runs, body, key,
      readable.1, readable.2 alert List.mem_cons_self⟩
  · rcases sampleTest_runs with ⟨tables, server, history, state, alert, channels, booted, runs,
      delivering⟩
    exact ⟨tables, server, history, state, alert, channels, runs, delivering,
      (alerts_are_readable booted runs).2 0 alert channels delivering⟩

end StarLens.Server
