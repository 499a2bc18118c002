import StarLens.Repository.Pool
import StarLens.Server.AlertingRuns
import StarLens.Server.ApplySafety

/-! # The life of the process

`run` of the server's main function: what it wires before it serves, and how its
goroutines come to an end. -/

namespace StarLens.Server

open Alert Foundation Foundation.Machine Go Repository Service

/-! ## Wiring -/

inductive StartLog
  | connected (addr : String)
  | notReachable (addr : String) (failure : String)
  | overrideFileIgnored (failure : LoadError)
  | alertingConfigured (enabled : Bool) (interval cooldown : Duration) (webhook : Bool)
      (uiEditable : Bool) (overrideFile : String)

section StartUp

variable [UnicodeTables] (json : JSONText) (driver : Config.Driver)

structure Started where
  config : Config.Config
  db : DB driver
  server : ServerState
  logged : List StartLog

def startLogs (config : Config.Config) (ping : Except String Unit) (settings : Settings)
    (failure : Option LoadError) : List StartLog :=
  let reached :=
    match ping with
    | .error failure => .notReachable config.starRocks.addr failure
    | .ok () => .connected config.starRocks.addr
  let effective := settings.effective
  let configured :=
    .alertingConfigured effective.enabled effective.pollInterval effective.cooldown
      (effective.webhookURL != "") config.alert.uiEditable config.alert.overrideFile
  reached :: (failure.toList.map .overrideFileIgnored ++ [configured])

private theorem startLogs_none (config : Config.Config) (ping : Except String Unit)
    (settings : Settings)
    (failure : LoadError) : .overrideFileIgnored failure ∉ startLogs config ping settings none := by
  cases ping <;> simp [startLogs]

private theorem startLogs_some (config : Config.Config) (ping : Except String Unit)
    (settings : Settings) (failure : LoadError) :
    .overrideFileIgnored failure ∈ startLogs config ping settings (some failure) := by
  cases ping <;> simp [startLogs]

/-- `run` up to the two goroutines it starts. A ping that fails and an override
file that cannot be used are logged. -/
def startUp (getenv : String → String) (ping : Except String Unit)
    (outcomes : List (Outcome String String)) (files : Files) :
    Files × Option (Except String (Started driver)) :=
  let wired : Except String (Config.Config × DB driver) := do
    let config ← Config.load driver getenv
    let db ← newDB driver config.starRocks
    return (config, db)
  match wired with
  | .error failure => (files, some (.error failure))
  | .ok (config, db) =>
      let loaded :=
        (loadSettings json config.alert.overrideFile config.alert.defaults).exec outcomes files
      (loaded.1, loaded.2.map fun (settings, failure) =>
        (boot settings loaded.1).map fun server =>
          { config, db, server, logged := startLogs config ping settings failure })

/-- What the override file counts for: all of it, or a warning and nothing. -/
def OverrideRead (files : Files) (started : Started driver) : Prop :=
  let override := started.server.shared.settings.override
  (stored json files started.config.alert.overrideFile = .ok override ∧
      ∀ failure, .overrideFileIgnored failure ∉ started.logged) ∨
    (override = .empty ∧ ∃ failure, .overrideFileIgnored failure ∈ started.logged)

/-- A process that has read its environment starts, whether the cluster answers
and whatever the override file holds, and leaves the files alone; every component
then runs with what the settings say, and no request is under way. What keeps a
process from starting is told by the environment's own error. -/
theorem startUp_result {getenv : String → String} {ping : Except String Unit}
    {outcomes : List (Outcome String String)} {files final : Files}
    {result : Except String (Started driver)}
    (returned : startUp json driver getenv ping outcomes files = (final, some result)) :
    final = files ∧
      match Config.load driver getenv with
      | .error failure => result = .error failure
      | .ok config => ∃ started, result = .ok started ∧ started.config = config ∧
          started.db.opened.addr = started.config.starRocks.addr ∧
          started.server.shared.settings.defaults = config.alert.defaults ∧
          OverrideRead json driver files started ∧
          (∀ component : Component, component.current started.server.shared.live =
            component.wanted started.server.shared.settings.effective) ∧
          started.server.requests = fun _ => none := by
  unfold startUp at returned
  cases loaded : Config.load driver getenv with
  | error failure =>
      simp only [loaded, bind, Except.bind, Prod.mk.injEq, Option.some.injEq] at returned
      exact ⟨returned.1.symm, returned.2.symm⟩
  | ok config =>
      have parts := Config.load_ok loaded
      rcases newDB_of_load parts.1 with ⟨db, opened, dialled, -⟩
      have addressed := newDB_addr opened
      simp only [loaded, opened, bind, Except.bind, pure, Except.pure, Prod.mk.injEq,
        Option.map_eq_some_iff] at returned
      rcases returned with ⟨rfl, ⟨settings, failure⟩, read, rfl⟩
      have meets := loadSettings_meets json files config.alert.overrideFile config.alert.defaults
        outcomes
      rw [← Prod.mk.eta (p := FileProgram.exec _ _ _), read] at meets
      rcases meets with ⟨kept, defaults, path, override⟩
      have known : KnownFormat settings.defaults.webhookFormat := by
        rw [defaults]
        exact Config.loadAlert_knownFormat parts.2.1
      rcases boot_of_known files known with ⟨server, booted, -⟩
      rcases boot_ok booted with ⟨live, applied, rfl⟩
      rw [kept, booted]
      refine ⟨rfl, _, rfl, rfl, dialled.trans addressed, defaults, ?_, ?_, rfl⟩
      · cases failure with
        | none => exact .inl ⟨override, fun failure => startLogs_none config ping settings failure⟩
        | some failure =>
            exact .inr ⟨override, failure, startLogs_some config ping settings failure⟩
      · exact applyAlertConfig_ok applied

end StartUp

theorem startUp_result_unset :
    ∃ (_ : UnicodeTables) (started : Started Driver.sample),
      startUp sampleJSON Driver.sample (onlyDSN "") (.error "connection refused") [.succeed]
        (fun _ => none) = (fun _ => none, some (.ok started)) ∧
      started.db.opened.addr = started.config.starRocks.addr := by
  let tables := UnicodeTables.latin
  rcases load_unset with ⟨config, loaded, -⟩
  rcases newDB_of_load (Config.load_ok loaded).1 with ⟨db, opened, -⟩
  have read := loadSettings_exec sampleJSON (fun _ => none) config.alert.overrideFile
    config.alert.defaults
  have returned : ∃ result, startUp sampleJSON Driver.sample (onlyDSN "")
      (.error "connection refused") [.succeed] (fun _ => none) = (fun _ => none, some result) := by
    unfold startUp
    simp only [loaded, opened, read, bind, Except.bind, pure, Except.pure, Option.map_some]
    exact ⟨_, rfl⟩
  rcases returned with ⟨result, returned⟩
  have whole := (startUp_result sampleJSON Driver.sample returned).2
  rw [loaded] at whole
  rcases whole with ⟨started, rfl, -, addressed, -⟩
  exact ⟨tables, started, returned, addressed⟩

/-! ## Serving and shutting down -/

inductive ServeError
  | serverClosed
  | other (text : String)
deriving DecidableEq

def sentError : Option ServeError → Option String
  | some (.other text) => some text
  | _ => none

inductive MainPhase
  | selecting
  | shuttingDown
  | awaiting
  | exited (err : Option String)
deriving DecidableEq

inductive ServingPhase
  | listening
  | sending (err : Option String)
  | finished
deriving DecidableEq

/-- `serveErr` holds what was sent and not received yet. -/
structure Lifecycle where
  main : MainPhase
  serving : ServingPhase
  serveErr : Option (Option String)
  interrupted : Bool
  inShutdown : Bool
deriving DecidableEq

inductive LifecycleStep
  | signal
  | listenAndServe (err : Option ServeError)
  | send
  | receive
  | shutdown
  | shutdownReturns (err : Option String)
deriving DecidableEq

namespace Lifecycle

/-- `ListenAndServe` never returns nil, and it returns `ErrServerClosed` behind
the call of `Shutdown` only. -/
def canReturn (state : Lifecycle) : Option ServeError → Bool
  | none => false
  | some .serverClosed => state.inShutdown
  | some (.other _) => true

/-- The steps of a process that has not exited. The channel has room for one
error. -/
def advance (state : Lifecycle) : LifecycleStep → Option Lifecycle
  | .signal => some { state with interrupted := true }
  | .listenAndServe err =>
      if state.serving = .listening ∧ state.canReturn err then
        some { state with serving := .sending (sentError err) }
      else none
  | .send =>
      match state.serving, state.serveErr with
      | .sending err, none => some { state with serving := .finished, serveErr := some err }
      | _, _ => none
  | .receive =>
      match state.main, state.serveErr with
      | .selecting, some err | .awaiting, some err =>
          some { state with main := .exited err, serveErr := none }
      | _, _ => none
  | .shutdown =>
      if state.main = .selecting ∧ state.interrupted then
        some { state with main := .shuttingDown, inShutdown := true }
      else none
  | .shutdownReturns none =>
      if state.main = .shuttingDown then some { state with main := .awaiting } else none
  | .shutdownReturns (some err) =>
      if state.main = .shuttingDown then some { state with main := .exited (some err) } else none

def step (state : Lifecycle) (taken : LifecycleStep) :
    Option (StepResult Lifecycle LifecycleStep) :=
  match state.main with
  | .exited _ => none
  | _ => (state.advance taken).map fun nextState => { nextState, observation := taken }

def machine : Machine Lifecycle LifecycleStep LifecycleStep where
  step := step

def start : Lifecycle where
  main := .selecting
  serving := .listening
  serveErr := none
  interrupted := false
  inShutdown := false

inductive Advances (state : Lifecycle) : LifecycleStep → Lifecycle → Prop
  | signal : Advances state .signal { state with interrupted := true }
  | listenAndServe {err : ServeError} : state.serving = .listening →
      (err = .serverClosed → state.inShutdown) →
      Advances state (.listenAndServe (some err))
        { state with serving := .sending (sentError (some err)) }
  | send {err : Option String} : state.serving = .sending err → state.serveErr = none →
      Advances state .send { state with serving := .finished, serveErr := some err }
  | receive {err : Option String} : state.serveErr = some err →
      state.main = .selecting ∨ state.main = .awaiting →
      Advances state .receive { state with main := .exited err, serveErr := none }
  | shutdown : state.main = .selecting → state.interrupted →
      Advances state .shutdown { state with main := .shuttingDown, inShutdown := true }
  | drained : state.main = .shuttingDown →
      Advances state (.shutdownReturns none) { state with main := .awaiting }
  | notDrained {err : String} : state.main = .shuttingDown →
      Advances state (.shutdownReturns (some err)) { state with main := .exited (some err) }

private theorem advance_advances {state after : Lifecycle} {taken : LifecycleStep}
    (advanced : state.advance taken = some after) : Advances state taken after := by
  cases taken with
  | signal =>
      cases advanced
      exact .signal
  | listenAndServe err =>
      rw [advance, Option.ite_none_right_eq_some] at advanced
      rcases advanced with ⟨⟨listening, returns⟩, same⟩
      cases same
      cases err with
      | none => cases returns
      | some err =>
          apply Advances.listenAndServe listening
          intro closed
          rw [closed] at returns
          exact returns
  | send =>
      rw [advance] at advanced
      split at advanced
      case h_1 err sending empty =>
          cases advanced
          exact .send sending empty
      case h_2 => cases advanced
  | receive =>
      rw [advance] at advanced
      split at advanced
      case h_1 err selecting sent =>
          cases advanced
          exact .receive sent (.inl selecting)
      case h_2 err awaiting sent =>
          cases advanced
          exact .receive sent (.inr awaiting)
      case h_3 => cases advanced
  | shutdown =>
      rw [advance, Option.ite_none_right_eq_some] at advanced
      cases advanced.2
      exact .shutdown advanced.1.1 advanced.1.2
  | shutdownReturns err =>
      cases err with
      | none =>
          rw [advance, Option.ite_none_right_eq_some] at advanced
          cases advanced.2
          exact .drained advanced.1
      | some err =>
          rw [advance, Option.ite_none_right_eq_some] at advanced
          cases advanced.2
          exact .notDrained advanced.1

private theorem step_eq_some {state : Lifecycle} {taken : LifecycleStep}
    {result : StepResult Lifecycle LifecycleStep} :
    state.step taken = some result ↔ (∀ err, state.main ≠ .exited err) ∧
      state.advance taken = some result.nextState ∧ result.observation = taken := by
  rw [step]
  split
  case h_1 err exited => simp [exited]
  case h_2 running =>
      rw [Option.map_eq_some_iff]
      constructor
      · intro taken
        rcases taken with ⟨after, advanced, rfl⟩
        exact ⟨fun err exited => running err exited, advanced, rfl⟩
      · intro taken
        rcases taken with ⟨-, advanced, rfl⟩
        exact ⟨result.nextState, advanced, rfl⟩

/-! ## What the exit reports -/

/-- The process exits without an error exactly if it was told to stop, its
connections were drained and the server was closed. An error of the server is
reported unless one of the shutdown is, which is reported as well. -/
structure Reports (history : List LifecycleStep) (err : Option String) : Prop where
  none_iff : err = none ↔ .signal ∈ history ∧ .shutdownReturns none ∈ history ∧
    .listenAndServe (some .serverClosed) ∈ history
  some_iff : ∀ text, err = some text ↔ .shutdownReturns (some text) ∈ history ∨
    (.listenAndServe (some (.other text)) ∈ history ∧
      ∀ failure, .shutdownReturns (some failure) ∉ history)

def MainLived (history : List LifecycleStep) (inShutdown : Bool) : MainPhase → Prop
  | .selecting => inShutdown = false ∧ ∀ err, .shutdownReturns err ∉ history
  | .shuttingDown => .signal ∈ history ∧ inShutdown ∧ ∀ err, .shutdownReturns err ∉ history
  | .awaiting => .signal ∈ history ∧ inShutdown ∧ .shutdownReturns none ∈ history ∧
      ∀ err, .shutdownReturns (some err) ∉ history
  | .exited err => Reports history err

/-- `ListenAndServe` returned once, and this is what is sent of it. -/
def Returned (history : List LifecycleStep) (inShutdown : Bool) (err : Option String) : Prop :=
  ∃ returned, err = sentError (some returned) ∧ (returned = .serverClosed → inShutdown) ∧
    ∀ other, .listenAndServe other ∈ history ↔ other = some returned

/-- The steps of the serving goroutine, by where it is. What was sent is in the
channel until the main goroutine exits with it. -/
def ServingLived (history : List LifecycleStep) (state : Lifecycle) : Prop :=
  match state.serving with
  | .listening => state.serveErr = none ∧ ∀ err, .listenAndServe err ∉ history
  | .sending err => state.serveErr = none ∧ Returned history state.inShutdown err
  | .finished => ∃ err, Returned history state.inShutdown err ∧
      (state.serveErr = some err ∨ ∃ reported, state.main = .exited reported)

structure Lived (history : List LifecycleStep) (state : Lifecycle) : Prop where
  interrupted : state.interrupted → .signal ∈ history
  main : MainLived history state.inShutdown state.main
  serving : ServingLived history state

private theorem lived_start : Lived [] start :=
  ⟨nofun, ⟨rfl, fun _ => List.not_mem_nil⟩, rfl, fun _ => List.not_mem_nil⟩

theorem mem_concat_of_ne {history : List LifecycleStep} {taken other : LifecycleStep}
    (apart : taken ≠ other) : other ∈ history ++ [taken] ↔ other ∈ history := by
  rw [List.mem_append, List.mem_singleton, or_iff_left apart.symm]

theorem MainLived.extend {history : List LifecycleStep} {inShutdown : Bool} {main : MainPhase}
    (lived : MainLived history inShutdown main) (taken : LifecycleStep)
    (running : ∀ err, main ≠ .exited err) (other : ∀ err, taken ≠ .shutdownReturns err) :
    MainLived (history ++ [taken]) inShutdown main := by
  cases main with
  | selecting => exact ⟨lived.1, fun err => by rw [mem_concat_of_ne (other err)]; exact lived.2 err⟩
  | shuttingDown =>
      refine ⟨List.mem_append_left _ lived.1, lived.2.1, fun err => ?_⟩
      rw [mem_concat_of_ne (other err)]
      exact lived.2.2 err
  | awaiting =>
      refine ⟨List.mem_append_left _ lived.1, lived.2.1, List.mem_append_left _ lived.2.2.1,
        fun err => ?_⟩
      rw [mem_concat_of_ne (other (some err))]
      exact lived.2.2.2 err
  | exited err => exact absurd rfl (running err)

theorem Returned.extend {history : List LifecycleStep} {inShutdown inShutdown' : Bool}
    {err : Option String} (returned : Returned history inShutdown err) (taken : LifecycleStep)
    (kept : inShutdown → inShutdown') (other : ∀ err, taken ≠ .listenAndServe err) :
    Returned (history ++ [taken]) inShutdown' err := by
  rcases returned with ⟨serveError, sent, closed, only⟩
  refine ⟨serveError, sent, fun same => kept (closed same), fun given => ?_⟩
  rw [mem_concat_of_ne (other given)]
  exact only given

theorem ServingLived.extend {history : List LifecycleStep} {state after : Lifecycle}
    (lived : ServingLived history state) (taken : LifecycleStep)
    (running : ∀ err, state.main ≠ .exited err) (serving : after.serving = state.serving)
    (serveErr : after.serveErr = state.serveErr) (kept : state.inShutdown → after.inShutdown)
    (other : ∀ err, taken ≠ .listenAndServe err) : ServingLived (history ++ [taken]) after := by
  rw [ServingLived] at lived ⊢
  rw [serving, serveErr]
  cases phase : state.serving with
  | listening =>
      rw [phase] at lived
      refine ⟨lived.1, fun err => ?_⟩
      rw [mem_concat_of_ne (other err)]
      exact lived.2 err
  | sending err =>
      rw [phase] at lived
      exact ⟨lived.1, lived.2.extend taken kept other⟩
  | finished =>
      rw [phase] at lived
      rcases lived with ⟨err, returned, sent | ⟨reported, exited⟩⟩
      · exact ⟨err, returned.extend taken kept other, .inl sent⟩
      · exact absurd exited (running reported)

theorem ServingLived.received {history : List LifecycleStep} {state : Lifecycle}
    (lived : ServingLived history state) (running : ∀ err, state.main ≠ .exited err)
    {err : Option String} (sent : state.serveErr = some err) :
    state.serving = .finished ∧ Returned history state.inShutdown err := by
  rw [ServingLived] at lived
  cases phase : state.serving with
  | listening | sending =>
      rw [phase, sent] at lived
      cases lived.1
  | finished =>
      rw [phase] at lived
      rcases lived with ⟨other, returned, same | ⟨reported, exited⟩⟩
      · rw [sent] at same
        cases same
        exact ⟨rfl, returned⟩
      · exact absurd exited (running reported)

theorem Returned.reports {history : List LifecycleStep} {inShutdown : Bool} {err : Option String}
    (returned : Returned history inShutdown err)
    (drained : ∀ failure, .shutdownReturns (some failure) ∉ history)
    (closed : inShutdown → .signal ∈ history ∧ .shutdownReturns none ∈ history) :
    Reports history err := by
  rcases returned with ⟨serveError, rfl, inside, only⟩
  cases serveError with
  | serverClosed =>
      constructor
      · rcases closed (inside rfl) with ⟨signalled, returned⟩
        exact iff_of_true rfl ⟨signalled, returned, (only _).mpr rfl⟩
      · intro text
        simp [sentError, drained, only]
  | other text => constructor <;> simp [sentError, drained, only, eq_comm]

theorem Lived.step {history : List LifecycleStep} {state : Lifecycle} (lived : Lived history state)
    (running : ∀ err, state.main ≠ .exited err) {taken : LifecycleStep} {after : Lifecycle}
    (advances : Advances state taken after) : Lived (history ++ [taken]) after := by
  have interrupted (on : state.interrupted) : .signal ∈ history ++ [taken] :=
    List.mem_append_left _ (lived.interrupted on)
  cases advances with
  | signal =>
      constructor
      · exact fun _ => List.mem_append_right _ (List.mem_singleton_self _)
      · exact lived.main.extend _ running (by simp)
      · exact lived.serving.extend _ running rfl rfl id (by simp)
  | @listenAndServe err listening inside =>
      refine ⟨interrupted, lived.main.extend _ running (by simp), ?_⟩
      have serving := lived.serving
      rw [ServingLived, listening] at serving
      refine ⟨serving.1, err, rfl, inside, fun other => ?_⟩
      simp [serving.2 other]
  | @send err sending empty =>
      refine ⟨interrupted, lived.main.extend _ running (by simp), err, ?_, .inl rfl⟩
      have serving := lived.serving
      rw [ServingLived, sending] at serving
      exact serving.2.extend .send id (by simp)
  | @receive err sent waiting =>
      rcases lived.serving.received running sent with ⟨finished, returned⟩
      have grown := returned.extend .receive id (by simp)
      refine ⟨interrupted, ?_, ?_⟩
      · have main := lived.main.extend .receive running (by simp)
        rcases waiting with selecting | awaiting
        · rw [selecting] at main
          apply grown.reports (fun failure => main.2 (some failure))
          rw [main.1]
          exact nofun
        · rw [awaiting] at main
          exact grown.reports main.2.2.2 fun _ => ⟨main.1, main.2.2.1⟩
      · rw [ServingLived, finished]
        exact ⟨err, grown, .inr ⟨err, rfl⟩⟩
  | shutdown selecting on =>
      have main := lived.main.extend .shutdown running (by simp)
      rw [selecting] at main
      refine ⟨interrupted, ⟨interrupted on, rfl, main.2⟩, ?_⟩
      exact lived.serving.extend _ running rfl rfl (fun _ => rfl) (by simp)
  | drained shuttingDown =>
      have main := lived.main
      rw [shuttingDown] at main
      refine ⟨interrupted, ⟨List.mem_append_left _ main.1, main.2.1, by simp, ?_⟩, ?_⟩
      · simp [main.2.2]
      · exact lived.serving.extend _ running rfl rfl id (by simp)
  | @notDrained err shuttingDown =>
      have main := lived.main
      rw [shuttingDown] at main
      refine ⟨interrupted, ⟨?_, fun text => ?_⟩, ?_⟩
      · simp [main.2.2]
      · simp [main.2.2, eq_comm]
      · exact lived.serving.extend _ running rfl rfl id (by simp)

private theorem lived_of_runs {inputs history : List LifecycleStep} {state : Lifecycle}
    (runs : machine.Runs start inputs history state) : Lived history state := by
  apply runs.history_invariant Lived lived_start
  intro history state taken result lived _ step
  rcases step_eq_some.mp step with ⟨running, advanced, same⟩
  rw [same]
  exact lived.step running (advance_advances advanced)

/-- However signals, clients and the listener interleave: the process exits
without an error exactly if it was told to stop, its connections were drained and
the server closed; an error that stopped the server is what it exits with, unless
the connections could not be drained, which is what it exits with then. -/
theorem exit_reports {inputs history : List LifecycleStep} {state : Lifecycle}
    (runs : machine.Runs start inputs history state) {err : Option String}
    (exited : state.main = .exited err) : Reports history err := by
  have main := (lived_of_runs runs).main
  rwa [exited] at main

/-! ## That it comes to an end -/

def remaining (state : Lifecycle) : Nat :=
  (match state.main with
    | .selecting => 3
    | .shuttingDown => 2
    | .awaiting => 1
    | .exited _ => 0) +
  match state.serving with
  | .listening => 2
  | .sending _ => 1
  | .finished => 0

theorem Advances.remaining {state after : Lifecycle} {taken : LifecycleStep}
    (advances : Advances state taken after) (own : taken ≠ .signal) :
    after.remaining < state.remaining := by
  cases advances with
  | signal => exact absurd rfl own
  | listenAndServe listening inside => simp [Lifecycle.remaining, listening]
  | send sending empty => simp [Lifecycle.remaining, sending]
  | receive sent waiting =>
      rcases waiting with waiting | waiting <;> simp [Lifecycle.remaining, waiting]
  | shutdown selecting on => simp [Lifecycle.remaining, selecting]
  | drained shuttingDown => simp [Lifecycle.remaining, shuttingDown]
  | notDrained shuttingDown => simp [Lifecycle.remaining, shuttingDown]

/-- Steps that do not wait for a signal, a client or a failure: `Shutdown`
returns within its timeout, and `ListenAndServe` behind its call. -/
def Forthcoming (taken : LifecycleStep) : Prop :=
  taken = .send ∨ taken = .receive ∨ taken = .shutdown ∨ taken = .shutdownReturns none ∨
    taken = .listenAndServe (some .serverClosed)

def Serving (state : Lifecycle) : Prop :=
  state.main = .selecting ∧ state.serving = .listening ∧ state.interrupted = false

/-- The channel is empty for as long as the error has not been sent. -/
theorem Lived.sends {history : List LifecycleStep} {state : Lifecycle}
    (lived : Lived history state) {sent : Option String} (sending : state.serving = .sending sent)
    (running : ∀ err, state.main ≠ .exited err) : (state.step .send).isSome := by
  have serving := lived.serving
  rw [ServingLived, sending] at serving
  have advanced : state.advance .send =
      some { state with serving := .finished, serveErr := some sent } := by
    simp [advance, sending, serving.1]
  cases phase : state.main with
  | exited err => exact absurd phase (running err)
  | selecting | shuttingDown | awaiting => simp [Lifecycle.step, phase, advanced]

theorem Lived.goesOn {history : List LifecycleStep} {state : Lifecycle}
    (lived : Lived history state) :
    (∃ err, state.main = .exited err) ∨ state.Serving ∨
      ∃ taken, Forthcoming taken ∧ (state.step taken).isSome := by
  have serving := lived.serving
  have main := lived.main
  rw [ServingLived] at serving
  cases phase : state.main with
  | exited err => exact .inl ⟨err, rfl⟩
  | shuttingDown =>
      refine .inr (.inr ⟨.shutdownReturns none, .inr (.inr (.inr (.inl rfl))), ?_⟩)
      simp [Lifecycle.step, advance, phase]
  | selecting =>
      right
      cases served : state.serving with
      | listening =>
          cases interrupted : state.interrupted with
          | false => exact .inl ⟨phase, served, interrupted⟩
          | true =>
              refine .inr ⟨.shutdown, .inr (.inr (.inl rfl)), ?_⟩
              simp [Lifecycle.step, advance, phase, interrupted]
      | sending err => exact .inr ⟨.send, .inl rfl, lived.sends served (by simp [phase])⟩
      | finished =>
          simp only [served, phase, reduceCtorEq, exists_false, or_false] at serving
          rcases serving with ⟨err, -, sent⟩
          refine .inr ⟨.receive, .inr (.inl rfl), ?_⟩
          simp [Lifecycle.step, advance, phase, sent]
  | awaiting =>
      rw [phase] at main
      right
      right
      cases served : state.serving with
      | listening =>
          refine ⟨.listenAndServe (some .serverClosed), .inr (.inr (.inr (.inr rfl))), ?_⟩
          simp [Lifecycle.step, advance, phase, served, canReturn, main.2.1]
      | sending err => exact ⟨.send, .inl rfl, lived.sends served (by simp [phase])⟩
      | finished =>
          simp only [served, phase, reduceCtorEq, exists_false, or_false] at serving
          rcases serving with ⟨err, -, sent⟩
          refine ⟨.receive, .inr (.inl rfl), ?_⟩
          simp [Lifecycle.step, advance, phase, sent]

/-- The process takes at most five steps besides signals, and as long as it is
not up and undisturbed it has one to take until it has exited: no goroutine waits
for the other for ever. A send never blocks. -/
theorem shuts_down {inputs history : List LifecycleStep} {state : Lifecycle}
    (runs : machine.Runs start inputs history state) :
    (history.filter (· ≠ .signal)).length ≤ 5 ∧
      ((∃ err, state.main = .exited err) ∨ state.Serving ∨
        ∃ taken, Forthcoming taken ∧ (state.step taken).isSome) ∧
      ∀ sent, state.serving = .sending sent → (∀ err, state.main ≠ .exited err) →
        (state.step .send).isSome := by
  have bounded : (history.filter (· ≠ .signal)).length + state.remaining ≤ 5 := by
    apply runs.history_invariant
      (fun history state => (history.filter (· ≠ .signal)).length + state.remaining ≤ 5)
    · decide
    · intro history state taken result within _ step
      rcases step_eq_some.mp step with ⟨-, advanced, same⟩
      rw [same]
      by_cases own : taken = .signal
      · subst own
        rw [← Option.some.inj advanced]
        simpa [Lifecycle.remaining] using within
      · have less := (advance_advances advanced).remaining own
        have counted : ((history ++ [taken]).filter (· ≠ .signal)).length =
            (history.filter (· ≠ .signal)).length + 1 := by simp [own]
        omega
  have lived := lived_of_runs runs
  exact ⟨by omega, lived.goesOn, fun sent sending running => lived.sends sending running⟩

/-- A signal while a connection is open. -/
def interruptedRun : List LifecycleStep :=
  [.signal, .shutdown, .listenAndServe (some .serverClosed), .send, .shutdownReturns none, .receive]

theorem exit_reports_interruptedRun :
    ∃ history state, machine.Runs start interruptedRun history state ∧
      state.main = .exited none ∧ Reports history none := by
  have runs : machine.Runs start interruptedRun interruptedRun
      { start with
        main := .exited none, serving := .finished, interrupted := true, inShutdown := true } :=
    (runs_iff_run _).mpr rfl
  exact ⟨_, _, runs, rfl, exit_reports runs rfl⟩

theorem shuts_down_interruptedRun :
    ∃ history state, machine.Runs start (interruptedRun.take 3) history state ∧
      (history.filter (· ≠ .signal)).length ≤ 5 ∧ state.serving = .sending none ∧
      (state.step .send).isSome := by
  have runs : machine.Runs start (interruptedRun.take 3) (interruptedRun.take 3)
      { start with
        main := .shuttingDown, serving := .sending none, interrupted := true,
        inShutdown := true } :=
    (runs_iff_run _).mpr rfl
  rcases shuts_down runs with ⟨few, -, sends⟩
  exact ⟨_, _, runs, few, rfl, sends none rfl fun err exited => by cases exited⟩

end Lifecycle

end StarLens.Server
