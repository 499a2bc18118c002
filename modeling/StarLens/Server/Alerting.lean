import StarLens.Alert.Collect
import StarLens.Alert.PollerRuns
import StarLens.Server.Requests

/-! # The poller beside the requests

The main function starts the poller with the two collectors of the services and
the manager that the alert endpoints use as well. Requests take their steps
between any two steps of the poller: its collectors read thresholds that a
request may just have set, and it dispatches to channels that a request may just
have replaced. -/

namespace StarLens.Server

open Alert Api Foundation Go Service

/-! ## The collectors -/

section Collectors

variable [UnicodeTables]

/-- `ClusterService.CollectAlerts`, with the thresholds it reads behind the
topology. -/
def collectClusterAlerts (policy : ClusterAlertPolicy) (reads : ClusterReads) (now : Time) :
    Collected :=
  (topology reads now).map (evaluateAlerts policy)

def collectRoutineLoadAlerts (parse : String → Except String Document)
    (policy : RoutineLoadAlertPolicy) (read : Except String RoutineLoadRows) (now : Time) :
    Collected :=
  (routineLoadSnapshot parse read now).map (evaluateRoutineLoadAlerts policy)

end Collectors

/-! ## The steps -/

/-- Where `Poller.Run` is. An iteration that has nothing left to dispatch goes on
to its timer. -/
inductive PollerPhase
  | reading
  | collectingCluster
  | collectingLoads (cluster : Collected)
  | dispatching (remaining : List Alert)
  | waiting (due : Int)
  | stopped

section Steps

variable [UnicodeTables]

structure AlertingState where
  server : ServerState
  /-- What the iteration has read. -/
  settings : PollSettings
  phase : PollerPhase
  /-- The nanoseconds the timers run on. -/
  now : Int
  /-- Whether the context of the poller is done. -/
  done : Bool

inductive AlertingInput
  | arrive (id : Nat) (request : Request)
  | advance (id : Nat) (environment : Environment)
  | read
  | collectCluster (reads : ClusterReads) (now : Time)
  | collectLoads (read : Except String RoutineLoadRows) (now : Time)
  | dispatch (environment : Environment)
  | arm
  | fire
  | signal
  | stop
  | elapse (nanos : Nat)

/-- A dispatch is told of with the clock it read and the cooldown it was decided on. -/
inductive AlertingEvent
  | served (event : Event)
  | read (settings : PollSettings)
  | collected (alerts : Collected)
  | dispatched (alert : Alert) (clock : Nat → Time) (cooldown : Duration)
      (fired : Option (Alert × List Notifier))
  | silent

variable (json : JSONText) (client : HTTPClient) (editable : Bool)

def AlertingState.serve (state : AlertingState) (input : Input) :
    Option (StepResult AlertingState AlertingEvent) :=
  (serverStep json client editable state.server input).map fun result => {
    nextState := { state with server := result.nextState }
    observation := .served result.observation }

def AlertingState.enter (state : AlertingState) (phase : PollerPhase) :
    StepResult AlertingState AlertingEvent where
  nextState := { state with phase }
  observation := .silent

def AlertingState.dispatched (state : AlertingState) (manager : Manager Notifier)
    (remaining : List Alert) : AlertingState :=
  let shared := state.server.shared
  { state with
    server := { state.server with
      shared := { shared with live := { shared.live with manager } } }
    phase := .dispatching remaining }

/-- The accepted steps. `Combine` asks the collector of the cluster first, and a
failure of both is logged and dispatches nothing. -/
def alertingStep (state : AlertingState) :
    AlertingInput → Option (StepResult AlertingState AlertingEvent)
  | .arrive id request => state.serve json client editable (.arrive id request)
  | .advance id environment => state.serve json client editable (.advance id environment)
  | .read =>
      match state.phase with
      | .reading =>
          let settings := pollSettings state.server.shared.settings
          some {
            nextState := { state with
              settings
              phase := if settings.enabled then .collectingCluster else .dispatching [] }
            observation := .read settings }
      | _ => none
  | .collectCluster reads now =>
      match state.phase with
      | .collectingCluster =>
          let cluster := collectClusterAlerts state.server.shared.live.clusterPolicy reads now
          some {
            nextState := { state with phase := .collectingLoads cluster }
            observation := .collected cluster }
      | _ => none
  | .collectLoads read now =>
      match state.phase with
      | .collectingLoads cluster =>
          let loads :=
            collectRoutineLoadAlerts json.parse state.server.shared.live.loadPolicy read now
          some {
            nextState := { state with
              phase :=
                match combine [cluster, loads] with
                | .error _ => .dispatching []
                | .ok alerts => .dispatching alerts }
            observation := .collected loads }
      | _ => none
  | .dispatch environment =>
      match state.phase with
      | .dispatching (alert :: remaining) =>
          let manager := state.server.shared.live.manager
          let result := manager.dispatch environment.clock alert
          some {
            nextState := state.dispatched result.manager remaining
            observation := .dispatched alert environment.clock manager.cooldown result.fired }
      | _ => none
  | .arm =>
      match state.phase with
      | .dispatching [] => some (state.enter (.waiting (state.now + state.settings.timer.toInt)))
      | _ => none
  | .fire =>
      match state.phase with
      | .waiting due => if due ≤ state.now then some (state.enter .reading) else none
      | _ => none
  | .signal => some { nextState := { state with done := true }, observation := .silent }
  | .stop =>
      match state.phase with
      | .waiting _ => if state.done then some (state.enter .stopped) else none
      | _ => none
  | .elapse nanos =>
      some { nextState := { state with now := state.now + nanos }, observation := .silent }

def alertingMachine : Machine AlertingState AlertingInput AlertingEvent where
  step := alertingStep json client editable

def alertingStart (server : ServerState) : AlertingState where
  server
  settings := pollSettings server.shared.settings
  phase := .reading
  now := 0
  done := false

/-! ## What a step does -/

inductive Enters (state : AlertingState) : PollerPhase → Prop
  | waiting {due : Int} : state.phase = .dispatching [] → Enters state (.waiting due)
  | reading {due : Int} : state.phase = .waiting due → Enters state .reading
  | stopped {due : Int} : state.phase = .waiting due → state.done → Enters state .stopped

inductive AlertingSteps (state : AlertingState) :
    StepResult AlertingState AlertingEvent → Prop
  | serve {input : Input} {result : StepResult ServerState Event} :
      serverStep json client editable state.server input = some result →
      (∀ alert environment, input ≠ .dispatch alert environment) →
      AlertingSteps state ⟨{ state with server := result.nextState }, .served result.observation⟩
  | read : state.phase = .reading →
      AlertingSteps state ⟨
        { state with
          settings := pollSettings state.server.shared.settings
          phase :=
            if (pollSettings state.server.shared.settings).enabled then .collectingCluster
            else .dispatching [] },
        .read (pollSettings state.server.shared.settings)⟩
  | collectCluster {reads : ClusterReads} {now : Time} : state.phase = .collectingCluster →
      AlertingSteps state ⟨
        { state with
          phase := .collectingLoads
            (collectClusterAlerts state.server.shared.live.clusterPolicy reads now) },
        .collected (collectClusterAlerts state.server.shared.live.clusterPolicy reads now)⟩
  | collectLoads {cluster loads : Collected} : state.phase = .collectingLoads cluster →
      (∃ read now, loads =
        collectRoutineLoadAlerts json.parse state.server.shared.live.loadPolicy read now) →
      AlertingSteps state ⟨
        { state with phase := .dispatching ([cluster, loads].flatMap found) }, .collected loads⟩
  | dispatch {alert : Alert} {remaining : List Alert} (environment : Environment) :
      state.phase = .dispatching (alert :: remaining) →
      AlertingSteps state ⟨
        state.dispatched
          (state.server.shared.live.manager.dispatch environment.clock alert).manager remaining,
        .dispatched alert environment.clock state.server.shared.live.manager.cooldown
          (state.server.shared.live.manager.dispatch environment.clock alert).fired⟩
  | enter {phase : PollerPhase} : Enters state phase →
      AlertingSteps state ⟨{ state with phase }, .silent⟩
  | idle {now : Int} {done : Bool} :
      AlertingSteps state ⟨{ state with now, done }, .silent⟩

private theorem serve_steps {state : AlertingState} {input : Input}
    {result : StepResult AlertingState AlertingEvent}
    (apart : ∀ alert environment, input ≠ .dispatch alert environment)
    (step : state.serve json client editable input = some result) :
    AlertingSteps json client editable state result := by
  rw [AlertingState.serve, Option.map_eq_some_iff] at step
  rcases step with ⟨served, accepted, rfl⟩
  exact .serve accepted apart

theorem alertingStep_steps {state : AlertingState} {input : AlertingInput}
    {result : StepResult AlertingState AlertingEvent}
    (step : alertingStep json client editable state input = some result) :
    AlertingSteps json client editable state result := by
  cases input with
  | arrive id request => exact serve_steps json client editable (by simp) step
  | advance id environment => exact serve_steps json client editable (by simp) step
  | read =>
      rw [alertingStep] at step
      split at step
      case h_1 reading =>
          cases step
          exact .read reading
      case h_2 => cases step
  | collectCluster reads now =>
      rw [alertingStep] at step
      split at step
      case h_1 collecting =>
          cases step
          exact .collectCluster collecting
      case h_2 => cases step
  | collectLoads read now =>
      rw [alertingStep] at step
      split at step
      case h_1 cluster collecting =>
          cases step
          generalize loads : collectRoutineLoadAlerts json.parse
            state.server.shared.live.loadPolicy read now = collected
          have combined : (match combine [cluster, collected] with
              | .error _ => PollerPhase.dispatching []
              | .ok alerts => .dispatching alerts) =
                .dispatching ([cluster, collected].flatMap found) := by
            rcases combine_cases [cluster, collected] with ⟨err, failed, nothing⟩ | answered
            · rw [failed, nothing]
            · rw [answered]
          rw [combined]
          exact .collectLoads collecting ⟨read, now, loads.symm⟩
      case h_2 => cases step
  | dispatch environment =>
      rw [alertingStep] at step
      split at step
      case h_1 alert remaining dispatching =>
          cases step
          exact .dispatch environment dispatching
      case h_2 => cases step
  | arm =>
      rw [alertingStep] at step
      split at step
      case h_1 dispatching =>
          cases step
          exact .enter (.waiting dispatching)
      case h_2 => cases step
  | fire =>
      rw [alertingStep] at step
      split at step
      case h_1 due waiting =>
          rw [Option.ite_none_right_eq_some] at step
          cases step.2
          exact .enter (.reading waiting)
      case h_2 => cases step
  | signal =>
      cases step
      exact .idle
  | stop =>
      rw [alertingStep] at step
      split at step
      case h_1 due waiting =>
          rw [Option.ite_none_right_eq_some] at step
          cases step.2
          exact .enter (.stopped waiting step.1)
      case h_2 => cases step
  | elapse nanos =>
      cases step
      exact .idle

end Steps

end StarLens.Server
