import StarLens.Api.AlertConfig
import StarLens.Foundation.Execution
import StarLens.Server.Apply

/-! # The alert endpoints under load

Any number of requests to the four alert endpoints are served at once. A
request takes one step for each lock its handler takes, and the steps of
different requests interleave with each other and with the poller. -/

namespace StarLens.Server

open Alert Api Foundation Go Service

inductive Request
  | getConfig
  /-- The body is a patch with its reset flag, or the error of binding it. -/
  | putConfig (body : Except String (Override × Bool))
  | testAlert
  | recentAlerts

inductive Phase
  | update (patch : Override) (reset : Bool)
  | effective
  | apply (component : Component) (config : Config)
  | readView
  | readOverridden (effective : Config)
  | stampTest
  | recordTest (alert : Alert)
  | deliverTest (alert : Alert) (channels : List Notifier)
  | recent

inductive Next
  | phase (phase : Phase)
  | respond (response : Response)

/-- What the outside decides in one step: how the file operations go, how the
deliveries end and what the clock reads. -/
structure Environment where
  files : List (Outcome String String) := []
  attempts : List Attempt := []
  clock : Nat → Time := fun _ => { wall := 0 }

inductive Input
  | arrive (id : Nat) (request : Request)
  | advance (id : Nat) (environment : Environment)
  | dispatch (alert : Alert) (environment : Environment)

inductive Event
  | silent
  | responded (id : Nat) (response : Response)
deriving DecidableEq

/-- What a handler does before its first lock. -/
def Request.begin (editable : Bool) : Request → Next
  | getConfig => .phase .readView
  | putConfig body =>
      if !editable then .respond forbidden
      else
        match body with
        | .error cause => .respond (invalidRequest cause)
        | .ok (patch, reset) => .phase (.update patch reset)
  | testAlert => .phase .stampTest
  | recentAlerts => .phase .recent

section Requests

variable [UnicodeTables]

structure Shared where
  settings : Settings
  files : Files
  live : Live

structure ServerState where
  shared : Shared
  requests : Nat → Option Phase

variable (json : JSONText) (client : HTTPClient) (editable : Bool)

/-- The next step of a handler; none is taken when the process stops in it. -/
def Phase.advance (environment : Environment) (shared : Shared) : Phase → Option (Shared × Next)
  | update patch reset =>
      match (shared.settings.update json patch reset).exec environment.files shared.files with
      | (files, some (settings, none)) =>
          some ({ shared with settings, files }, .phase .effective)
      | (files, some (settings, some failure)) =>
          some ({ shared with settings, files }, .respond (updateFailed failure))
      | (_, none) => none
  | effective => some (shared, .phase (.apply .cooldown shared.settings.effective))
  | apply component config =>
      match component.set shared.live config with
      | .error text => some (shared, .respond (applyFailed text))
      | .ok live =>
          match component.next with
          | some component => some ({ shared with live }, .phase (.apply component config))
          | none => some ({ shared with live }, .phase .readView)
  | readView => some (shared, .phase (.readOverridden shared.settings.effective))
  | readOverridden config =>
      some (shared, .respond {
        status := 200
        body := .config (view editable config shared.settings.overridden) })
  | stampTest => some (shared, .phase (.recordTest (testAlert (environment.clock 0).utc)))
  | recordTest alert =>
      let (manager, channels) := shared.live.manager.test alert
      some ({ shared with live := { shared.live with manager } },
        .phase (.deliverTest alert channels))
  | deliverTest alert channels =>
      (Alert.deliverTest client channels environment.attempts).map fun results =>
        (shared, .respond { status := 200, body := .test alert results })
  | recent =>
      some (shared, .respond { status := 200, body := .alerts shared.live.manager.recent })

def ServerState.proceed (state : ServerState) (id : Nat) (shared : Shared) :
    Next → StepResult ServerState Event
  | .phase phase => {
      nextState := { shared, requests := Function.update state.requests id (some phase) }
      observation := .silent }
  | .respond response => {
      nextState := { shared, requests := Function.update state.requests id none }
      observation := .responded id response }

def Next.phase? : Next → Option Phase
  | .phase rest => some rest
  | .respond _ => none

@[simp] theorem ServerState.proceed_shared (state : ServerState) (id : Nat) (shared : Shared)
    (next : Next) : (state.proceed id shared next).nextState.shared = shared := by
  cases next <;> rfl

@[simp] theorem ServerState.proceed_requests (state : ServerState) (id : Nat) (shared : Shared)
    (next : Next) : (state.proceed id shared next).nextState.requests =
      Function.update state.requests id next.phase? := by
  cases next <;> rfl

theorem ServerState.proceed_phase {state : ServerState} {id request : Nat} {shared : Shared}
    {next : Next} {phase : Phase}
    (running : (state.proceed id shared next).nextState.requests request = some phase) :
    next = .phase phase ∨ request ≠ id ∧ state.requests request = some phase := by
  rw [proceed_requests] at running
  by_cases same : request = id
  · subst same
    rw [Function.update_self] at running
    cases next with
    | phase rest =>
        cases running
        exact .inl rfl
    | respond response => cases running
  · rw [Function.update_of_ne same] at running
    exact .inr ⟨same, running⟩

theorem ServerState.proceed_answered {state : ServerState} {id other : Nat} {shared : Shared}
    {next : Next} {response : Response}
    (answered : (state.proceed id shared next).observation = .responded other response) :
    next = .respond response := by
  cases next with
  | phase rest => cases answered
  | respond given =>
      cases answered
      rfl

def serverStep (state : ServerState) : Input → Option (StepResult ServerState Event)
  | .arrive id request =>
      match state.requests id with
      | some _ => none
      | none => some (state.proceed id state.shared (request.begin editable))
  | .advance id environment =>
      match state.requests id with
      | none => none
      | some phase =>
          (phase.advance json client editable environment state.shared).map fun after =>
            state.proceed id after.1 after.2
  | .dispatch alert environment =>
      let live := state.shared.live
      some {
        nextState := { state with
          shared := { state.shared with
            live := { live with
              manager := (live.manager.dispatch environment.clock alert).manager } } }
        observation := .silent }

inductive Steps (state : ServerState) : Input → StepResult ServerState Event → Prop
  | arrive {id : Nat} {request : Request} : state.requests id = none →
      Steps state (.arrive id request) (state.proceed id state.shared (request.begin editable))
  | advance {id : Nat} {environment : Environment} {phase : Phase} {after : Shared × Next} :
      state.requests id = some phase →
      phase.advance json client editable environment state.shared = some after →
      Steps state (.advance id environment) (state.proceed id after.1 after.2)
  | dispatch {alert : Alert} {environment : Environment} :
      Steps state (.dispatch alert environment) {
        nextState := { state with
          shared := { state.shared with
            live := { state.shared.live with
              manager := (state.shared.live.manager.dispatch environment.clock alert).manager } } }
        observation := .silent }

theorem serverStep_steps {state : ServerState} {input : Input}
    {result : StepResult ServerState Event}
    (step : serverStep json client editable state input = some result) :
    Steps json client editable state input result := by
  cases input with
  | arrive id request =>
      cases running : state.requests id with
      | some phase => simp [serverStep, running] at step
      | none =>
          simp only [serverStep, running, Option.some.injEq] at step
          subst step
          exact .arrive running
  | advance id environment =>
      cases running : state.requests id with
      | none => simp [serverStep, running] at step
      | some phase =>
          simp only [serverStep, running, Option.map_eq_some_iff] at step
          rcases step with ⟨after, advanced, rfl⟩
          exact .advance running advanced
  | dispatch alert environment =>
      simp only [serverStep, Option.some.injEq] at step
      subst step
      exact .dispatch

def serverMachine : Machine ServerState Input Event where
  step := serverStep json client editable

def newLive (config : Config) : Live where
  manager := (Manager.new config.cooldown).register .log
  loadPolicy := {
    errorRowsRatio := config.errorRowsRatio
    errorRowsMinTotal := config.errorRowsMinTotal
    maxOffsetLag := config.maxOffsetLag }
  clusterPolicy := { maxJournalLag := config.maxJournalLag }

/-- Boot with settings that have been loaded: the server starts when they can
be applied. -/
def boot (settings : Settings) (files : Files) : Except String ServerState := do
  let live ← applyAlertConfig (newLive settings.defaults) settings.effective
  return { shared := { settings, files, live }, requests := fun _ => none }

theorem boot_ok {settings : Settings} {files : Files} {start : ServerState}
    (booted : boot settings files = .ok start) :
    ∃ live, applyAlertConfig (newLive settings.defaults) settings.effective = .ok live ∧
      start = { shared := { settings, files, live }, requests := fun _ => none } := by
  rw [boot] at booted
  cases applied : applyAlertConfig (newLive settings.defaults) settings.effective with
  | error text => simp [applied, bind, Except.bind] at booted
  | ok live =>
      simp only [applied, bind, Except.bind, pure, Except.pure, Except.ok.injEq] at booted
      exact ⟨live, rfl, booted.symm⟩

/-! ## Steps of a handler -/

theorem Phase.advance_update {patch : Override} {reset : Bool} {environment : Environment}
    {shared : Shared} {after : Shared × Next}
    (advanced : (update patch reset).advance json client editable environment shared =
      some after) :
    after.1.live = shared.live ∧
      ((after.2 = .phase .effective ∧
          ∃ override, after.1.settings = { shared.settings with override }) ∨
        (∃ failure, after.2 = .respond (updateFailed failure)) ∧
          after.1.settings = shared.settings) := by
  rw [advance] at advanced
  split at advanced
  case h_1 files settings returned =>
      rcases update_ok json returned with ⟨valid, -, rfl, -⟩
      cases advanced
      exact ⟨rfl, .inl ⟨rfl, _, rfl⟩⟩
  case h_2 files settings failure returned =>
      rcases update_error json returned with ⟨rfl, -⟩
      cases advanced
      exact ⟨rfl, .inr ⟨⟨failure, rfl⟩, rfl⟩⟩
  case h_3 => simp at advanced

theorem Phase.advance_apply {component : Component} {config : Config}
    {environment : Environment} {shared : Shared} {after : Shared × Next}
    (advanced : (apply component config).advance json client editable environment shared =
      some after) (known : KnownFormat config.webhookFormat) :
    ∃ live, component.set shared.live config = .ok live ∧ after.1 = { shared with live } ∧
      after.2 = .phase (component.next.elim .readView fun next => .apply next config) := by
  rcases Component.set_of_known known shared.live component with ⟨live, set⟩
  simp only [advance, set] at advanced
  refine ⟨live, set, ?_⟩
  split at advanced
  case h_1 next follows =>
      cases advanced
      simp [follows]
  case h_2 last =>
      cases advanced
      simp [last]

end Requests

/-! ## A server without overrides -/

def sampleSettings [UnicodeTables] (defaults : Config) : Settings where
  defaults
  override := .empty
  path := "alerts.json"

def sampleClient [UnicodeTables] : HTTPClient where
  requestError url := "parse " ++ Strconv.quote url ++ ": invalid URL"
  doError url cause := "Post " ++ Strconv.quote url ++ ": " ++ cause

def putSteps (id : Nat) : List Input :=
  .advance id { files := [.succeed, .succeed, .succeed] } :: List.replicate 7 (.advance id {})

end StarLens.Server
