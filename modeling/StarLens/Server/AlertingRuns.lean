import StarLens.Server.Alerting

/-! # Runs of the alerting service

Nothing is shown or sent without a cause, and nothing that was raised is passed
over, whatever the requests do in the meantime. -/

namespace StarLens.Server

open Alert Api Foundation Foundation.Machine Go Service

/-! ## Where alerts come from -/

def AlertingEvent.alerts : AlertingEvent → List Alert
  | collected alerts => found alerts
  | _ => []

/-- The iteration goes on that read the settings last, and polling was enabled
in them. -/
def Polling (history : List AlertingEvent) : Prop :=
  ∃ before settings during, history = before ++ .read settings :: during ∧
    settings.enabled = true ∧ ∀ other, .read other ∉ during

/-- A collector found the alert in the iteration that goes on, which read that
polling is enabled. -/
def RaisedIn (history : List AlertingEvent) (alert : Alert) : Prop :=
  ∃ before event after, history = before ++ event :: after ∧ Polling before ∧
    alert ∈ event.alerts ∧ ∀ settings, .read settings ∉ after

def AlertingEvent.Begins (event : AlertingEvent) : Prop := ∃ settings, event = .read settings

private theorem not_read_mem_concat {events : List AlertingEvent} {event : AlertingEvent}
    (earlier : ∀ settings, .read settings ∉ events) (goesOn : ¬event.Begins) :
    ∀ settings, .read settings ∉ events ++ [event] := by
  intro settings member
  rcases List.mem_append.mp member with before | new
  · exact earlier settings before
  · exact goesOn ⟨settings, (List.mem_singleton.mp new).symm⟩

theorem RaisedIn.extend {history : List AlertingEvent} {alert : Alert}
    (raised : RaisedIn history alert) {event : AlertingEvent} (goesOn : ¬event.Begins) :
    RaisedIn (history ++ [event]) alert := by
  rcases raised with ⟨before, cause, after, rfl, polling, member, same⟩
  exact ⟨before, cause, after ++ [event], by simp, polling, member,
    not_read_mem_concat same goesOn⟩

theorem Polling.extend {history : List AlertingEvent} (polling : Polling history)
    {event : AlertingEvent} (goesOn : ¬event.Begins) : Polling (history ++ [event]) := by
  rcases polling with ⟨before, settings, during, rfl, enabled, last⟩
  exact ⟨before, settings, during ++ [event], by simp, enabled, not_read_mem_concat last goesOn⟩

theorem Polling.raises {history : List AlertingEvent} (polling : Polling history)
    {event : AlertingEvent} {alert : Alert} (member : alert ∈ event.alerts) :
    RaisedIn (history ++ [event]) alert :=
  ⟨history, event, [], rfl, polling, member, fun _ => List.not_mem_nil⟩

/-- An alert of the test endpoint, or the copy of a raised one that its dispatch
has sent, stamped with a time that the dispatch read. -/
def Caused (history : List AlertingEvent) (alert : Alert) : Prop :=
  (∃ firedAt, alert = testAlert firedAt) ∨
    ∃ before raised clock cooldown channels after reading,
      history = before ++ .dispatched raised clock cooldown (some (alert, channels)) :: after ∧
        RaisedIn before raised ∧ alert = { raised with firedAt := (clock reading).utc }

theorem Caused.extend {history : List AlertingEvent} {alert : Alert}
    (caused : Caused history alert) (event : AlertingEvent) :
    Caused (history ++ [event]) alert := by
  rcases caused with test | ⟨before, raised, clock, cooldown, channels, after, reading, rfl, cause⟩
  · exact .inl test
  · exact .inr ⟨before, raised, clock, cooldown, channels, after ++ [event], reading, by simp,
      cause⟩

def PendingRaised (history : List AlertingEvent) : PollerPhase → Prop
  | .collectingCluster => Polling history
  | .collectingLoads cluster =>
      Polling history ∧ ∀ alert ∈ found cluster, RaisedIn history alert
  | .dispatching remaining => ∀ alert ∈ remaining, RaisedIn history alert
  | _ => True

theorem PendingRaised.extend {history : List AlertingEvent} {phase : PollerPhase}
    (pending : PendingRaised history phase) {event : AlertingEvent} (goesOn : ¬event.Begins) :
    PendingRaised (history ++ [event]) phase := by
  cases phase with
  | collectingCluster => exact Polling.extend pending goesOn
  | collectingLoads cluster =>
      exact ⟨pending.1.extend goesOn, fun alert member => (pending.2 alert member).extend goesOn⟩
  | dispatching remaining => exact fun alert member => (pending alert member).extend goesOn
  | reading | waiting | stopped => trivial

/-! ## Rounds -/

/-- What was raised and what was dispatched since the settings were read. -/
structure Round where
  raised : List Alert := []
  dispatched : List Alert := []

def Round.add (round : Round) : AlertingEvent → Round
  | .read _ => {}
  | .collected alerts => { round with raised := round.raised ++ found alerts }
  | .dispatched alert _ _ _ => { round with dispatched := round.dispatched ++ [alert] }
  | _ => round

def roundOf (history : List AlertingEvent) : Round := history.foldl Round.add {}

def InRound (round : Round) : PollerPhase → Prop
  | .collectingCluster => round = {}
  | .collectingLoads cluster => round = { raised := found cluster }
  | .dispatching remaining => round.dispatched ++ remaining = round.raised
  | .reading | .waiting _ | .stopped => round.dispatched = round.raised

private theorem roundOf_concat (history : List AlertingEvent) (event : AlertingEvent) :
    roundOf (history ++ [event]) = (roundOf history).add event :=
  List.foldl_append

theorem InRound.dispatched_prefix {round : Round} {phase : PollerPhase}
    (inRound : InRound round phase) : round.dispatched <+: round.raised := by
  cases phase with
  | collectingCluster =>
      cases inRound
      exact List.nil_prefix
  | collectingLoads cluster =>
      cases inRound
      exact List.nil_prefix
  | dispatching remaining => exact ⟨remaining, inRound⟩
  | reading | waiting due | stopped => exact ⟨[], (List.append_nil _).trans inRound⟩

section AlertingRuns

variable [UnicodeTables] {json : JSONText} {client : HTTPClient} {editable : Bool}

/-! ## The server in a run -/

def AlertingEvent.event? : AlertingEvent → Option Event
  | served event => some event
  | dispatched _ _ _ _ => some .silent
  | _ => none

def AlertingEvent.alert? : AlertingEvent → Option Alert
  | dispatched alert _ _ _ => some alert
  | _ => none

def Input.alert? : Input → Option Alert
  | dispatch alert _ => some alert
  | _ => none

theorem InRound.step {history : List AlertingEvent} {state : AlertingState}
    (inRound : InRound (roundOf history) state.phase) {input : AlertingInput}
    {result : StepResult AlertingState AlertingEvent}
    (step : alertingStep json client editable state input = some result) :
    InRound (roundOf (history ++ [result.observation])) result.nextState.phase := by
  rw [roundOf_concat]
  cases alertingStep_steps json client editable step with
  | serve | idle => exact inRound
  | read reading => cases (pollSettings state.server.shared.settings).enabled <;> rfl
  | collectCluster collecting =>
      rw [collecting] at inRound
      rw [show roundOf history = {} from inRound]
      rfl
  | @collectLoads cluster loads collecting _ =>
      rw [collecting] at inRound
      rw [show roundOf history = { raised := found cluster } from inRound,
        List.flatMap_cons, List.flatMap_singleton]
      rfl
  | dispatch environment dispatching =>
      rw [dispatching] at inRound
      exact (List.append_assoc _ _ _).trans inRound
  | enter enters =>
      cases enters with
      | waiting dispatching =>
          rw [dispatching] at inRound
          exact (List.append_nil _).symm.trans inRound
      | reading waiting | stopped waiting =>
          rw [waiting] at inRound
          exact inRound

/-- At every moment of a run the dispatches of the round are the first of what was
raised in it. -/
theorem dispatched_prefix_raised {server : ServerState} {inputs : List AlertingInput}
    {history : List AlertingEvent} {state : AlertingState}
    (runs : (alertingMachine json client editable).Runs (alertingStart server) inputs history
      state) :
    ∀ before, before <+: history → (roundOf before).dispatched <+: (roundOf before).raised := by
  have whole : InRound (roundOf history) state.phase ∧ ∀ before, before <+: history →
      (roundOf before).dispatched <+: (roundOf before).raised := by
    apply runs.history_invariant fun history state => InRound (roundOf history) state.phase ∧
      ∀ before, before <+: history → (roundOf before).dispatched <+: (roundOf before).raised
    · refine ⟨rfl, fun before start => ?_⟩
      rw [List.prefix_nil.mp start]
      exact List.nil_prefix
    · intro history state input result earlier _ step
      have inRound := earlier.1.step step
      refine ⟨inRound, fun before start => ?_⟩
      rcases List.prefix_concat_iff.mp start with rfl | before
      · exact inRound.dispatched_prefix
      · exact earlier.2 _ before
  exact whole.2

theorem server_run {server : ServerState} {inputs : List AlertingInput}
    {history : List AlertingEvent} {state : AlertingState}
    (runs : (alertingMachine json client editable).Runs (alertingStart server) inputs history
      state) :
    ∃ served, (serverMachine json client editable).Runs server served
        (history.filterMap AlertingEvent.event?) state.server ∧
      served.filterMap Input.alert? = history.filterMap AlertingEvent.alert? := by
  apply runs.history_invariant (fun history state => ∃ served,
    (serverMachine json client editable).Runs server served
        (history.filterMap AlertingEvent.event?) state.server ∧
      served.filterMap Input.alert? = history.filterMap AlertingEvent.alert?)
  · exact ⟨[], .start, rfl⟩
  · intro history state input result before _ step
    rcases before with ⟨served, ran, same⟩
    have idle {event : AlertingEvent} {next : AlertingState} (silent : event.event? = none)
        (quiet : event.alert? = none) (kept : next.server = state.server) :
        ∃ served, (serverMachine json client editable).Runs server served
            ((history ++ [event]).filterMap AlertingEvent.event?) next.server ∧
          served.filterMap Input.alert? =
            (history ++ [event]).filterMap AlertingEvent.alert? := by
      refine ⟨served, ?_, ?_⟩
      · rw [kept, List.filterMap_append]
        simpa [silent] using ran
      · simpa [quiet] using same
    cases alertingStep_steps json client editable step with
    | @serve input result taken apart =>
        refine ⟨served ++ [input], ?_, ?_⟩
        · have grown := ran.extend trivial taken
          rw [List.filterMap_append]
          exact grown
        · have other : input.alert? = none := by
            cases input with
            | dispatch alert environment => exact absurd rfl (apart alert environment)
            | _ => rfl
          rw [List.filterMap_append, List.filterMap_append, same]
          exact congrArg _ (List.filterMap_cons_none other)
    | @dispatch alert remaining environment dispatching =>
        refine ⟨served ++ [.dispatch alert environment], ?_, ?_⟩
        · have taken : (serverMachine json client editable).step state.server
              (.dispatch alert environment) = some ⟨(state.dispatched
                (state.server.shared.live.manager.dispatch environment.clock alert).manager
                remaining).server, .silent⟩ := rfl
          have grown := ran.extend trivial taken
          rw [List.filterMap_append]
          exact grown
        · rw [List.filterMap_append, List.filterMap_append, same]
          rfl
    | read | collectCluster | collectLoads | enter | idle => exact idle rfl rfl rfl

/-- Every run of the service is one of the server, in which the poller does nothing
but dispatch, at every moment the first of the alerts that its collectors have
found since it read the settings, in their order. -/
theorem server_runs {server : ServerState} {inputs : List AlertingInput}
    {history : List AlertingEvent} {state : AlertingState}
    (runs : (alertingMachine json client editable).Runs (alertingStart server) inputs history
      state) :
    (∃ served, (serverMachine json client editable).Runs server served
        (history.filterMap AlertingEvent.event?) state.server ∧
      served.filterMap Input.alert? = history.filterMap AlertingEvent.alert?) ∧
      ∀ before, before <+: history → (roundOf before).dispatched <+: (roundOf before).raised :=
  ⟨server_run runs, dispatched_prefix_raised runs⟩

def Phase.testAlert? : Phase → Option Alert
  | recordTest alert | deliverTest alert _ => some alert
  | _ => none

/-- The alerts that a response shows: the alert list, or what a test has sent. -/
def shownAlerts : Body → Option (List Alert)
  | .alerts alerts => some alerts
  | .test alert _ => some [alert]
  | .config _ | .error _ _ _ => none

structure Records (phase : Phase) (shared : Shared) (after : Shared × Next) : Prop where
  lastFired : after.1.live.manager.lastFired = shared.live.manager.lastFired
  recent : ∀ alert ∈ after.1.live.manager.recent,
    alert ∈ shared.live.manager.recent ∨ phase.testAlert? = some alert
  testing : ∀ next alert, after.2 = .phase next → next.testAlert? = some alert →
    phase.testAlert? = some alert ∨ ∃ firedAt, alert = testAlert firedAt
  shown : ∀ response alerts, after.2 = .respond response →
    shownAlerts response.body = some alerts → ∀ alert ∈ alerts,
      alert ∈ shared.live.manager.recent ∨ phase.testAlert? = some alert

structure Next.Idle (next : Next) : Prop where
  testing : ∀ phase, next = .phase phase → phase.testAlert? = none
  shown : ∀ response, next = .respond response → shownAlerts response.body = none

theorem Records.idle {phase : Phase} {shared shared' : Shared} {next : Next}
    (lastFired : shared'.live.manager.lastFired = shared.live.manager.lastFired)
    (recent : shared'.live.manager.recent = shared.live.manager.recent) (idle : next.Idle) :
    Records phase shared (shared', next) := by
  constructor
  · exact lastFired
  · intro alert member
    rw [recent] at member
    exact .inl member
  · intro entered alert same testing
    rw [idle.testing entered same] at testing
    cases testing
  · intro response alerts same shown
    rw [idle.shown response same] at shown
    cases shown

theorem Component.set_records {component : Component} {live after : Live} {config : Config}
    (ok : component.set live config = .ok after) :
    after.manager.lastFired = live.manager.lastFired ∧
      after.manager.recent = live.manager.recent := by
  cases component with
  | webhook =>
      rw [setWebhook_ok ok]
      exact ⟨rfl, rfl⟩
  | cooldown | loadPolicy | clusterPolicy =>
      cases ok
      exact ⟨rfl, rfl⟩

omit [UnicodeTables] in
private theorem Next.idle_phase {phase : Phase} (untested : phase.testAlert? = none) :
    (Next.phase phase).Idle :=
  ⟨fun entered same => Next.phase.inj same ▸ untested, by simp⟩

omit [UnicodeTables] in
private theorem Next.idle_respond {response : Response}
    (plain : shownAlerts response.body = none) : (Next.respond response).Idle :=
  ⟨by simp, fun answered same => Next.respond.inj same ▸ plain⟩

theorem Phase.advance_records {phase : Phase} {environment : Environment} {shared : Shared}
    {after : Shared × Next}
    (advanced : phase.advance json client editable environment shared = some after) :
    Records phase shared after := by
  cases phase with
  | update patch reset =>
      have updated := Phase.advance_update json client editable advanced
      apply Records.idle (by rw [updated.1]) (by rw [updated.1])
      rcases updated.2 with ⟨effective, -⟩ | ⟨⟨failure, refused⟩, -⟩
      · rw [effective]
        exact Next.idle_phase rfl
      · rw [refused]
        apply Next.idle_respond
        cases failure <;> rfl
  | effective | readView =>
      cases advanced
      exact Records.idle rfl rfl (Next.idle_phase rfl)
  | readOverridden config =>
      cases advanced
      exact Records.idle rfl rfl (Next.idle_respond rfl)
  | apply component config =>
      rw [advance] at advanced
      split at advanced
      case h_1 text failed =>
          cases advanced
          exact Records.idle rfl rfl (Next.idle_respond rfl)
      case h_2 live set =>
          have kept := Component.set_records set
          split at advanced <;>
            (cases advanced; exact Records.idle kept.1 kept.2 (Next.idle_phase rfl))
  | stampTest =>
      cases advanced
      refine ⟨rfl, fun alert member => .inl member, ?_, by simp⟩
      intro entered alert same testing
      cases same
      cases testing
      exact .inr ⟨_, rfl⟩
  | recordTest alert =>
      cases advanced
      refine ⟨rfl, fun other member => ?_, fun entered other same testing => ?_, by simp⟩
      · rcases List.mem_cons.mp (List.mem_of_mem_take member) with rfl | earlier
        · exact .inr rfl
        · exact .inl earlier
      · cases same
        exact .inl testing
  | deliverTest alert channels =>
      simp only [advance, Option.map_eq_some_iff] at advanced
      rcases advanced with ⟨results, -, rfl⟩
      refine ⟨rfl, fun other member => .inl member, by simp, ?_⟩
      intro response alerts same shown other member
      cases same
      cases shown
      exact .inr (congrArg some (List.mem_singleton.mp member).symm)
  | recent =>
      cases advanced
      refine ⟨rfl, fun alert member => .inl member, by simp, ?_⟩
      intro response alerts same shown alert member
      cases same
      cases shown
      exact .inl member

omit [UnicodeTables] in
theorem Request.begin_idle (editable : Bool) (request : Request) :
    (request.begin editable).Idle := by
  cases request with
  | putConfig body =>
      simp only [begin]
      split
      · exact Next.idle_respond rfl
      · split
        · exact Next.idle_respond rfl
        · exact Next.idle_phase rfl
  | getConfig | testAlert | recentAlerts => exact Next.idle_phase rfl

structure Sourced (history : List AlertingEvent) (state : AlertingState) : Prop where
  recent : ∀ alert ∈ state.server.shared.live.manager.recent, Caused history alert
  testing : ∀ id phase alert, state.server.requests id = some phase →
    phase.testAlert? = some alert → ∃ firedAt, alert = testAlert firedAt
  pending : PendingRaised history state.phase

def TellsOfCaused (before : List AlertingEvent) : AlertingEvent → Prop
  | .served (.responded _ response) =>
      ∀ alerts, shownAlerts response.body = some alerts → ∀ alert ∈ alerts, Caused before alert
  | .dispatched alert _ _ _ => RaisedIn before alert
  | _ => True

theorem Sourced.proceed {history : List AlertingEvent} {state : AlertingState}
    (sourced : Sourced history state) {id : Nat} {shared : Shared} {next : Next}
    (recent : ∀ alert ∈ shared.live.manager.recent, Caused history alert)
    (testing : ∀ phase alert, next = .phase phase → phase.testAlert? = some alert →
      ∃ firedAt, alert = testAlert firedAt)
    (shown : ∀ response alerts, next = .respond response →
      shownAlerts response.body = some alerts → ∀ alert ∈ alerts, Caused history alert) :
    Sourced (history ++ [.served (state.server.proceed id shared next).observation])
        { state with server := (state.server.proceed id shared next).nextState } ∧
      TellsOfCaused history (.served (state.server.proceed id shared next).observation) := by
  constructor
  · constructor
    · intro alert member
      rw [ServerState.proceed_shared] at member
      exact (recent alert member).extend _
    · intro request phase alert running test
      rcases ServerState.proceed_phase running with new | ⟨-, earlier⟩
      · exact testing phase alert new test
      · exact sourced.testing request phase alert earlier test
    · exact sourced.pending.extend (by simp [AlertingEvent.Begins])
  · cases answered : (state.server.proceed id shared next).observation with
    | silent => trivial
    | responded other response =>
        intro alerts
        exact shown response alerts (ServerState.proceed_answered answered)

theorem Sourced.serve {history : List AlertingEvent} {state : AlertingState}
    (sourced : Sourced history state) {input : Input} {result : StepResult ServerState Event}
    (taken : serverStep json client editable state.server input = some result)
    (apart : ∀ alert environment, input ≠ .dispatch alert environment) :
    Sourced (history ++ [.served result.observation]) { state with server := result.nextState } ∧
      TellsOfCaused history (.served result.observation) := by
  cases serverStep_steps json client editable taken with
  | @arrive id request idle =>
      have begins := request.begin_idle editable
      apply sourced.proceed sourced.recent
      · intro phase alert same test
        rw [begins.testing phase same] at test
        cases test
      · intro response alerts same shown
        rw [begins.shown response same] at shown
        cases shown
  | @advance id environment phase after running advanced =>
      have records := Phase.advance_records advanced
      have known (alert : Alert) (held : alert ∈ state.server.shared.live.manager.recent ∨
          phase.testAlert? = some alert) : Caused history alert := by
        rcases held with earlier | test
        · exact sourced.recent alert earlier
        · exact .inl (sourced.testing id phase alert running test)
      apply sourced.proceed
      · exact fun alert member => known alert (records.recent alert member)
      · intro next alert same test
        rcases records.testing next alert same test with before | new
        · exact sourced.testing id phase alert running before
        · exact new
      · intro response alerts same shown alert member
        exact known alert (records.shown response alerts same shown alert member)
  | dispatch => exact absurd rfl (apart _ _)

omit [UnicodeTables] in
private theorem mem_recent_dispatch {manager : Manager Notifier} {clock : Nat → Time}
    {alert remembered : Alert}
    (member : remembered ∈ (manager.dispatch clock alert).manager.recent) :
    remembered ∈ manager.recent ∨ ∃ channels reading,
      (manager.dispatch clock alert).fired = some (remembered, channels) ∧
        remembered = { alert with firedAt := (clock reading).utc } := by
  rcases manager.dispatch_cases clock alert with ⟨last, -, -, suppressed⟩ | ⟨reading, -, fired⟩
  · rw [suppressed] at member
    exact .inl member
  · rw [fired] at member ⊢
    rcases List.mem_cons.mp (List.mem_of_mem_take member) with rfl | earlier
    · exact .inr ⟨_, reading, rfl, rfl⟩
    · exact .inl earlier

theorem Sourced.step {history : List AlertingEvent} {state : AlertingState}
    (sourced : Sourced history state) {input : AlertingInput}
    {result : StepResult AlertingState AlertingEvent}
    (step : alertingStep json client editable state input = some result) :
    Sourced (history ++ [result.observation]) result.nextState ∧
      TellsOfCaused history result.observation := by
  have recent (event : AlertingEvent) :
      ∀ alert ∈ state.server.shared.live.manager.recent, Caused (history ++ [event]) alert :=
    fun alert member => (sourced.recent alert member).extend event
  have pending := sourced.pending
  cases alertingStep_steps json client editable step with
  | serve taken apart => exact sourced.serve taken apart
  | read reading =>
      refine ⟨⟨recent _, sourced.testing, ?_⟩, trivial⟩
      cases enabled : (pollSettings state.server.shared.settings).enabled with
      | true => exact ⟨history, _, [], rfl, enabled, nofun⟩
      | false => exact nofun
  | @collectCluster reads now collecting =>
      rw [collecting] at pending
      refine ⟨⟨recent _, sourced.testing,
        Polling.extend pending (by simp [AlertingEvent.Begins]), ?_⟩, trivial⟩
      exact fun alert member => Polling.raises pending member
  | @collectLoads cluster loads collecting _ =>
      rw [collecting] at pending
      refine ⟨⟨recent _, sourced.testing, ?_⟩, trivial⟩
      intro alert member
      rw [List.flatMap_cons, List.flatMap_singleton] at member
      rcases List.mem_append.mp member with clusters | load
      · exact (pending.2 alert clusters).extend (by simp [AlertingEvent.Begins])
      · exact pending.1.raises load
  | @dispatch alert remaining environment dispatching =>
      rw [dispatching] at pending
      have raised : RaisedIn history alert := pending alert List.mem_cons_self
      refine ⟨⟨?_, sourced.testing, ?_⟩, raised⟩
      · intro remembered member
        rcases mem_recent_dispatch member with earlier | ⟨channels, reading, sent, stamped⟩
        · exact recent _ remembered earlier
        · rw [sent]
          exact .inr ⟨history, alert, _, _, channels, [], reading, rfl, raised, stamped⟩
      · intro other member
        exact (pending other (List.mem_cons_of_mem alert member)).extend
          (by simp [AlertingEvent.Begins])
  | enter enters =>
      refine ⟨⟨recent _, sourced.testing, ?_⟩, trivial⟩
      cases enters <;> trivial
  | idle =>
      exact ⟨⟨recent _, sourced.testing, pending.extend (by simp [AlertingEvent.Begins])⟩, trivial⟩

private theorem applyAlertConfig_records {live after : Live} {config : Config}
    (ok : applyAlertConfig live config = .ok after) :
    after.manager.lastFired = live.manager.lastFired ∧
      after.manager.recent = live.manager.recent := by
  rw [applyAlertConfig_eq] at ok
  generalize Component.onward .cooldown = components at ok
  induction components generalizing live with
  | nil =>
      cases ok
      exact ⟨rfl, rfl⟩
  | cons component components induction =>
      rw [List.foldlM_cons] at ok
      cases set : component.set live config with
      | error text => simp [set, bind, Except.bind] at ok
      | ok middle =>
          simp only [set, bind, Except.bind] at ok
          have kept := Component.set_records set
          have rest := induction ok
          exact ⟨rest.1.trans kept.1, rest.2.trans kept.2⟩

private theorem boot_records {settings : Settings} {files : Files} {server : ServerState}
    (booted : boot settings files = .ok server) :
    (∀ key, server.shared.live.manager.lastFired key = none) ∧
      server.shared.live.manager.recent = [] ∧ ∀ id, server.requests id = none := by
  rcases boot_ok booted with ⟨live, applied, rfl⟩
  have records := applyAlertConfig_records applied
  refine ⟨fun key => ?_, records.2, fun id => rfl⟩
  rw [records.1]
  rfl

theorem Sourced.start {settings : Settings} {files : Files} {server : ServerState}
    (booted : boot settings files = .ok server) : Sourced [] (alertingStart server) := by
  rcases boot_records booted with ⟨-, recent, idle⟩
  constructor
  · intro alert member
    rw [alertingStart, recent] at member
    cases member
  · intro id phase alert running
    rw [alertingStart, idle] at running
    cases running
  · trivial

/-- Whatever the poller dispatches was found by a collector in the same iteration,
which had read that polling is enabled. Whatever the alert list shows is a test
alert or the copy that such a dispatch has sent, with the time of the dispatch. -/
theorem alerts_have_causes {settings : Settings} {files : Files} {server : ServerState}
    (booted : boot settings files = .ok server) {inputs : List AlertingInput}
    {history : List AlertingEvent} {state : AlertingState}
    (runs : (alertingMachine json client editable).Runs (alertingStart server) inputs history
      state) :
    Each TellsOfCaused history := by
  refine (runs.each Sourced TellsOfCaused (Sourced.start booted) ?_).2
  exact fun _ _ _ _ sourced _ step => sourced.step step

/-! ## What becomes of alerts -/

def SentIn (history : List AlertingEvent) (key : String) (firedAt : Time) : Prop :=
  ∃ before alert clock cooldown sent channels after,
    history = before ++ .dispatched alert clock cooldown (some (sent, channels)) :: after ∧
      sent.key = key ∧ sent.firedAt = firedAt

omit [UnicodeTables] in
theorem SentIn.extend {history : List AlertingEvent} {key : String} {firedAt : Time}
    (sent : SentIn history key firedAt) (event : AlertingEvent) :
    SentIn (history ++ [event]) key firedAt := by
  rcases sent with ⟨before, alert, clock, cooldown, copy, channels, after, rfl, told⟩
  exact ⟨before, alert, clock, cooldown, copy, channels, after ++ [event], by simp, told⟩

/-- A dispatched alert is sent with the time of the dispatch, or the same key was
sent before and its cooldown has not passed. -/
def Settled (before : List AlertingEvent) : AlertingEvent → Prop
  | .dispatched alert clock _ (some (sent, _)) =>
      ∃ reading, sent = { alert with firedAt := (clock reading).utc }
  | .dispatched alert clock cooldown none =>
      ∃ firedAt, SentIn before alert.key firedAt ∧ (clock 0).sub firedAt < cooldown
  | _ => True

structure Rounds (history : List AlertingEvent) (state : AlertingState) : Prop where
  round : InRound (roundOf history) state.phase
  sent : ∀ key firedAt, state.server.shared.live.manager.lastFired key = some firedAt →
    SentIn history key firedAt

theorem Rounds.settled {history : List AlertingEvent} {state : AlertingState}
    (rounds : Rounds history state) (environment : Environment) (alert : Alert) :
    Settled history (.dispatched alert environment.clock
      state.server.shared.live.manager.cooldown
      (state.server.shared.live.manager.dispatch environment.clock alert).fired) := by
  rcases state.server.shared.live.manager.dispatch_cases environment.clock alert
    with ⟨last, before, recent, suppressed⟩ | ⟨reading, -, fired⟩
  · rw [suppressed]
    exact ⟨last, rounds.sent alert.key last before, recent⟩
  · rw [fired]
    exact ⟨reading, rfl⟩

theorem Rounds.dispatch {history : List AlertingEvent} {state : AlertingState}
    (rounds : Rounds history state) (environment : Environment) (alert : Alert) (key : String)
    (firedAt : Time)
    (remembered : (state.server.shared.live.manager.dispatch environment.clock
      alert).manager.lastFired key = some firedAt) :
    SentIn (history ++ [.dispatched alert environment.clock
      state.server.shared.live.manager.cooldown
      (state.server.shared.live.manager.dispatch environment.clock alert).fired]) key firedAt := by
  rcases state.server.shared.live.manager.dispatch_cases environment.clock alert
    with ⟨last, -, -, suppressed⟩ | ⟨reading, -, fired⟩
  · rw [suppressed] at remembered
    exact (rounds.sent key firedAt remembered).extend _
  · rw [fired] at remembered ⊢
    by_cases same : key = alert.key
    · subst same
      rw [Manager.fire_lastFired, Function.update_self] at remembered
      exact ⟨history, alert, _, _, _, _, [], rfl, rfl, Option.some.inj remembered⟩
    · rw [Manager.fire_lastFired, Function.update_of_ne same] at remembered
      exact (rounds.sent key firedAt remembered).extend _

theorem Rounds.step {history : List AlertingEvent} {state : AlertingState}
    (rounds : Rounds history state) {input : AlertingInput}
    {result : StepResult AlertingState AlertingEvent}
    (step : alertingStep json client editable state input = some result) :
    Rounds (history ++ [result.observation]) result.nextState ∧
      Settled history result.observation := by
  have round := rounds.round.step step
  have sent (event : AlertingEvent) (key : String) (firedAt : Time)
      (remembered : state.server.shared.live.manager.lastFired key = some firedAt) :
      SentIn (history ++ [event]) key firedAt :=
    (rounds.sent key firedAt remembered).extend event
  cases alertingStep_steps json client editable step with
  | @serve input result taken apart =>
      have kept : result.nextState.shared.live.manager.lastFired =
          state.server.shared.live.manager.lastFired := by
        cases serverStep_steps json client editable taken with
        | arrive idle => rw [ServerState.proceed_shared]
        | advance running advanced =>
            rw [ServerState.proceed_shared, (Phase.advance_records advanced).lastFired]
        | dispatch => exact absurd rfl (apart _ _)
      refine ⟨⟨round, fun key firedAt remembered => ?_⟩, trivial⟩
      exact sent _ key firedAt (kept ▸ remembered)
  | @dispatch alert remaining environment dispatching =>
      exact ⟨⟨round, rounds.dispatch environment alert⟩, rounds.settled environment alert⟩
  | read | collectCluster | collectLoads | enter | idle => exact ⟨⟨round, sent _⟩, trivial⟩

/-- Whenever the poller waits, every alert that was raised since it read the
settings has been dispatched once, in the order of the collectors; and every
dispatch of the run sent its alert, unless the same key had been sent within the
cooldown. -/
theorem rounds_are_complete {settings : Settings} {files : Files} {server : ServerState}
    (booted : boot settings files = .ok server) {inputs : List AlertingInput}
    {history : List AlertingEvent} {state : AlertingState}
    (runs : (alertingMachine json client editable).Runs (alertingStart server) inputs history
      state) :
    (∀ due, state.phase = .waiting due →
        (roundOf history).dispatched = (roundOf history).raised) ∧
      Each Settled history := by
  rcases boot_records booted with ⟨fired, -, -⟩
  have start : Rounds [] (alertingStart server) := by
    constructor
    · rfl
    · intro key firedAt remembered
      rw [alertingStart, fired] at remembered
      cases remembered
  have rounds := runs.each Rounds Settled start fun _ _ _ _ rounds _ step => rounds.step step
  refine ⟨fun due waiting => ?_, rounds.2⟩
  have round := rounds.1.round
  rw [waiting] at round
  exact round

end AlertingRuns

/-! ## A round with an alert -/

/-- A cluster without a frontend, and jobs that cannot be read. -/
def sampleRound : List AlertingInput :=
  [.read, .collectCluster ⟨.ok [], .ok [], .error "access denied", .ok []⟩ { wall := 0 },
    .collectLoads (.error "access denied") { wall := 0 }, .dispatch {}, .arm,
    .arrive 0 .recentAlerts, .advance 0 {}]

theorem sampleRound_runs :
    ∃ (_ : UnicodeTables) (server : ServerState) (history : List AlertingEvent)
      (state : AlertingState) (response : Response) (alert : Alert),
      boot (sampleSettings .standard) (fun _ => none) = .ok server ∧
      (alertingMachine sampleJSON sampleClient true).Runs (alertingStart server) sampleRound
        history state ∧
      .served (.responded 0 response) ∈ history ∧ response.body = .alerts [alert] ∧
      alert.key = ruleClusterNoLeader ∧
      (roundOf history).raised.map Alert.key = [ruleClusterNoLeader] ∧
      (history.filterMap AlertingEvent.alert?).map Alert.key = [ruleClusterNoLeader] ∧
      ∃ due, state.phase = .waiting due := by
  let tables := UnicodeTables.latin
  exact ⟨tables, _, _, _, _, _, rfl, (Machine.runs_iff_run _).mpr rfl,
    .tail _ (.tail _ (.tail _ (.tail _ (.tail _ (.tail _ (.head _)))))), rfl, rfl, rfl, rfl, _,
    rfl⟩

theorem server_runs_sampleRound :
    ∃ (_ : UnicodeTables) (server : ServerState) (history : List AlertingEvent)
      (state : AlertingState) (served : List Input),
      (alertingMachine sampleJSON sampleClient true).Runs (alertingStart server) sampleRound
        history state ∧
      (serverMachine sampleJSON sampleClient true).Runs server served
        (history.filterMap AlertingEvent.event?) state.server ∧
      (served.filterMap Input.alert?).map Alert.key = [ruleClusterNoLeader] ∧
      ∀ before, before <+: history → (roundOf before).dispatched <+: (roundOf before).raised := by
  rcases sampleRound_runs with ⟨tables, server, history, state, response, alert, booted, runs,
    -, -, -, -, sent, -⟩
  rcases server_runs runs with ⟨⟨served, ran, same⟩, inOrder⟩
  exact ⟨tables, server, history, state, served, runs, ran, by rw [same, sent], inOrder⟩

theorem alerts_have_causes_sampleRound :
    ∃ (_ : UnicodeTables) (server : ServerState) (before after : List AlertingEvent)
      (state : AlertingState) (response : Response) (alert : Alert),
      (alertingMachine sampleJSON sampleClient true).Runs (alertingStart server) sampleRound
        (before ++ .served (.responded 0 response) :: after) state ∧
      response.body = .alerts [alert] ∧ alert.key = ruleClusterNoLeader ∧
      Caused before alert := by
  rcases sampleRound_runs with ⟨tables, server, history, state, response, alert, booted, runs,
    listed, body, key, -⟩
  rcases List.append_of_mem listed with ⟨before, after, split⟩
  have caused := alerts_have_causes booted runs before _ after split
  exact ⟨tables, server, before, after, state, response, alert, split ▸ runs, body, key,
    caused _ (congrArg shownAlerts body) alert List.mem_cons_self⟩

theorem rounds_are_complete_sampleRound :
    ∃ (_ : UnicodeTables) (server : ServerState) (history : List AlertingEvent)
      (state : AlertingState),
      (alertingMachine sampleJSON sampleClient true).Runs (alertingStart server) sampleRound
        history state ∧
      (roundOf history).dispatched.map Alert.key = [ruleClusterNoLeader] ∧
      Each Settled history := by
  rcases sampleRound_runs with ⟨tables, server, history, state, response, alert, booted, runs,
    -, -, -, raised, -, due, waiting⟩
  have complete := rounds_are_complete booted runs
  exact ⟨tables, server, history, state, runs, by rw [complete.1 due waiting, raised],
    complete.2⟩

end StarLens.Server
