import StarLens.Server.Requests

/-! # Updates inside of the server

`Update` holds the lock of the settings over all its file operations. Other
requests and the poller go on in the meantime, up to where they need the lock. -/

namespace StarLens.Server

open Alert Api Foundation Foundation.Machine Go

section UpdateLock

variable [UnicodeTables]

structure UpdateHolder where
  id : Nat
  rest : Program (Settings × Option UpdateError)

structure LockedState where
  server : ServerState
  holder : Option UpdateHolder

inductive LockedInput
  | arrive (id : Nat) (request : Request)
  | advance (id : Nat) (environment : Environment)
  | enter (id : Nat)
  | perform (outcome : Outcome String String)
  | leave
  | dispatch (alert : Alert) (environment : Environment)

/-- `Effective` and `Overridden` take the lock too. -/
def Phase.readsSettings : Phase → Bool
  | effective | readView | readOverridden _ => true
  | _ => false

def LockedState.serve (state : LockedState) (served : StepResult ServerState Event) :
    StepResult LockedState Event where
  nextState := { state with server := served.nextState }
  observation := served.observation

/-- What `Put` does with what `Update` returns. -/
def afterUpdate : Option UpdateError → Next
  | none => .phase .effective
  | some failure => .respond (updateFailed failure)

variable (json : JSONText) (client : HTTPClient) (editable : Bool)

/-- The steps of the server, with one step for each file operation of an
`Update`. It validates its patch before it takes the lock. -/
def lockedStep (state : LockedState) : LockedInput → Option (StepResult LockedState Event)
  | .arrive id request =>
      (serverStep json client editable state.server (.arrive id request)).map state.serve
  | .dispatch alert environment =>
      (serverStep json client editable state.server (.dispatch alert environment)).map state.serve
  | .advance id environment =>
      match state.server.requests id with
      | none | some (.update _ _) => none
      | some phase =>
          if phase.readsSettings && state.holder.isSome then none
          else
            (serverStep json client editable state.server (.advance id environment)).map
              state.serve
  | .enter id =>
      match state.server.requests id with
      | some (.update patch reset) =>
          match patch.validated with
          | .error text =>
              some (state.serve (state.server.proceed id state.server.shared
                (afterUpdate (some (.invalid text)))))
          | .ok valid =>
              match state.holder with
              | some _ => none
              | none =>
                  let rest := state.server.shared.settings.commit json valid reset
                  some {
                    nextState := { state with holder := some { id, rest } }
                    observation := .silent }
      | _ => none
  | .perform outcome =>
      match state.holder with
      | some { id, rest := .perform operation next } =>
          match operation.apply outcome state.server.shared.files with
          | (files, some reply) =>
              some {
                nextState := {
                  server := { state.server with shared := { state.server.shared with files } }
                  holder := some { id, rest := next reply } }
                observation := .silent }
          | (_, none) => none
      | _ => none
  | .leave =>
      match state.holder with
      | some { id, rest := .finish (settings, failure) } =>
          some (LockedState.serve { state with holder := none }
            (state.server.proceed id { state.server.shared with settings } (afterUpdate failure)))
      | _ => none

def lockedMachine : Machine LockedState LockedInput Event where
  step := lockedStep json client editable

/-! ## One step for each update -/

/-- To the server of one step an update, the one in its critical section has not
begun: the files are as they were. -/
inductive NotBegun : LockedState → ServerState → Prop
  | free {server : ServerState} : NotBegun ⟨server, none⟩ server
  | held {server : ServerState} {files : Files} {id : Nat}
      {rest : Program (Settings × Option UpdateError)} {patch : Override}
      {valid : ValidOverride} {reset : Bool} {done : List (Outcome String String)}
      (running : server.requests id = some (.update patch reset))
      (validated : patch.validated = .ok valid)
      (performed : ∀ later,
        (server.shared.settings.commit json valid reset).exec (done ++ later) files =
          rest.exec later server.shared.files) :
      NotBegun ⟨server, some ⟨id, rest⟩⟩
        { server with shared := { server.shared with files } }

theorem Phase.advance_files {phase : Phase} {environment : Environment} {shared : Shared}
    {after : Shared × Next} (other : ∀ patch reset, phase ≠ .update patch reset)
    (advanced : phase.advance json client editable environment shared = some after)
    (files : Files) :
    phase.advance json client editable environment { shared with files } =
        some ({ after.1 with files }, after.2) ∧
      after.1.settings = shared.settings ∧ after.1.files = shared.files := by
  cases phase with
  | update patch reset => exact absurd rfl (other patch reset)
  | effective | readView | readOverridden | stampTest | recordTest | recent =>
      cases advanced
      exact ⟨rfl, rfl, rfl⟩
  | apply component config =>
      rw [advance] at advanced
      split at advanced
      case h_1 text failed =>
          cases advanced
          simp [advance, failed]
      case h_2 live set =>
          split at advanced
          case h_1 next follows =>
              cases advanced
              simp [advance, set, follows]
          case h_2 last =>
              cases advanced
              simp [advance, set, last]
  | deliverTest alert channels =>
      simp only [advance, Option.map_eq_some_iff] at advanced
      rcases advanced with ⟨results, delivered, rfl⟩
      simp [advance, delivered]

private theorem serverStep_files {server : ServerState} {input : Input}
    {served : StepResult ServerState Event}
    (step : serverStep json client editable server input = some served)
    (other : ∀ id environment patch reset, input = .advance id environment →
      server.requests id ≠ some (.update patch reset)) (files : Files) :
    serverStep json client editable { server with shared := { server.shared with files } } input =
        some {
          nextState := { served.nextState with
            shared := { served.nextState.shared with files } }
          observation := served.observation } ∧
      served.nextState.shared.settings = server.shared.settings ∧
      served.nextState.shared.files = server.shared.files ∧
      ∀ id patch reset, server.requests id = some (.update patch reset) →
        served.nextState.requests id = some (.update patch reset) := by
  have kept {id : Nat} {patch : Override} {reset : Bool} {next : Next} {shared : Shared}
      {served : Nat} (apart : id ≠ served)
      (running : server.requests id = some (.update patch reset)) :
      (server.proceed served shared next).nextState.requests id = some (.update patch reset) := by
    rw [ServerState.proceed_requests, Function.update_of_ne apart, running]
  cases serverStep_steps json client editable step with
  | @arrive id request idle =>
      refine ⟨?_, by simp, by simp, fun other patch reset running => kept ?_ running⟩
      · simp only [serverStep, idle]
        cases request.begin editable <;> rfl
      · intro same
        rw [same, idle] at running
        cases running
  | @advance id environment phase after running advanced =>
      have update (patch : Override) (reset : Bool) : phase ≠ .update patch reset := by
        intro same
        exact other id environment patch reset rfl (by rw [running, same])
      rcases Phase.advance_files json client editable update advanced files with
        ⟨same, settings, unchanged⟩
      refine ⟨?_, by simp [settings], by simp [unchanged],
        fun other patch reset pending => kept ?_ pending⟩
      · simp only [serverStep, running, same, Option.map_some]
        cases after.2 <;> rfl
      · intro equal
        rw [equal, running] at pending
        exact update patch reset (Option.some.inj pending)
  | dispatch => exact ⟨rfl, rfl, rfl, fun _ _ _ running => running⟩

def Event.response? : Event → Option (Nat × Response)
  | silent => none
  | responded id response => some (id, response)

theorem NotBegun.serve {state : LockedState} {coarse : ServerState}
    (notBegun : NotBegun json state coarse) {input : Input}
    {served : StepResult ServerState Event}
    (step : serverStep json client editable state.server input = some served)
    (other : ∀ id environment patch reset, input = .advance id environment →
      state.server.requests id ≠ some (.update patch reset)) :
    ∃ result, serverStep json client editable coarse input = some result ∧
      served.observation = result.observation ∧
      NotBegun json (state.serve served).nextState result.nextState := by
  cases notBegun with
  | free => exact ⟨served, step, rfl, .free⟩
  | @held server files id rest patch valid reset done running validated performed =>
      rcases serverStep_files json client editable step other files with
        ⟨same, settings, unchanged, kept⟩
      have continued (later : List (Outcome String String)) :
          (served.nextState.shared.settings.commit json valid reset).exec (done ++ later) files =
            rest.exec later served.nextState.shared.files := by
        rw [settings, unchanged]
        exact performed later
      exact ⟨_, same, rfl, .held (kept id patch reset running) validated continued⟩

theorem NotBegun.refuse {state : LockedState} {coarse : ServerState}
    (notBegun : NotBegun json state coarse) {id : Nat} {patch : Override} {reset : Bool}
    (running : state.server.requests id = some (.update patch reset)) {text : String}
    (invalid : patch.validated = .error text) :
    let served := state.server.proceed id state.server.shared
      (afterUpdate (some (.invalid text)))
    ∃ input' result', serverStep json client editable coarse input' = some result' ∧
      (state.serve served).observation.response? = result'.observation.response? ∧
      NotBegun json (state.serve served).nextState result'.nextState := by
  intro served
  have refused (settings : Settings) (files : Files) :
      (settings.update json patch reset).exec [] files =
        (files, some (settings, some (.invalid text))) := by
    rw [Settings.update, invalid]
    rfl
  refine ⟨.advance id {}, ?_⟩
  cases notBegun with
  | free =>
      refine ⟨served, ?_, rfl, .free⟩
      simp only at running
      simp only [serverStep, running, Phase.advance, refused]
      rfl
  | @held server files holder rest held valid reset' done begun validated performed =>
      have apart : holder ≠ id := by
        intro same
        simp only at running
        rw [same, running, Option.some.injEq, Phase.update.injEq] at begun
        rw [begun.1, validated] at invalid
        cases invalid
      have pending : served.nextState.requests holder = some (.update held reset') := by
        rw [ServerState.proceed_requests, Function.update_of_ne apart]
        exact begun
      refine ⟨{
        nextState := { served.nextState with shared := { served.nextState.shared with files } }
        observation := served.observation }, ?_, rfl, .held pending validated performed⟩
      simp only at running
      simp only [serverStep, running, Phase.advance, refused]
      rfl

/-- The whole critical section is one step of the coarse server, when it is left. -/
theorem NotBegun.leave {server : ServerState} {id : Nat} {settings : Settings}
    {failure : Option UpdateError} {coarse : ServerState}
    (notBegun : NotBegun json ⟨server, some ⟨id, .finish (settings, failure)⟩⟩ coarse) :
    ∃ environment, serverStep json client editable coarse (.advance id environment) =
      some (server.proceed id { server.shared with settings } (afterUpdate failure)) := by
  cases notBegun with
  | @held _ files _ _ patch valid reset done running validated performed =>
      have whole : (server.shared.settings.update json patch reset).exec done files =
          (server.shared.files, some (settings, failure)) := by
        have ended := performed []
        rw [List.append_nil] at ended
        rw [Settings.update, validated]
        exact ended
      refine ⟨{ files := done }, ?_⟩
      simp only [serverStep, running, Phase.advance, whole]
      cases failure <;> rfl

theorem NotBegun.enter {state : LockedState} {coarse : ServerState}
    (notBegun : NotBegun json state coarse) {id : Nat} {patch : Override} {reset : Bool}
    {valid : ValidOverride} (running : state.server.requests id = some (.update patch reset))
    (validated : patch.validated = .ok valid) {result : StepResult LockedState Event}
    (step : lockedStep json client editable state (.enter id) = some result) :
    result.observation.response? = none ∧ NotBegun json result.nextState coarse := by
  simp only [lockedStep, running, validated] at step
  cases notBegun with
  | held => cases step
  | free =>
      cases step
      have untouched (later : List (Outcome String String)) :
          (coarse.shared.settings.commit json valid reset).exec ([] ++ later)
              coarse.shared.files =
            (coarse.shared.settings.commit json valid reset).exec later
              coarse.shared.files := rfl
      exact ⟨rfl, .held running validated untouched⟩

private theorem lockedStep_advance {state : LockedState} {id : Nat} {environment : Environment}
    {result : StepResult LockedState Event}
    (step : lockedStep json client editable state (.advance id environment) = some result) :
    ∃ served, serverStep json client editable state.server (.advance id environment) =
        some served ∧
      state.serve served = result ∧
      ∀ patch reset, state.server.requests id ≠ some (.update patch reset) := by
  cases running : state.server.requests id with
  | none => simp [lockedStep, running] at step
  | some phase =>
      by_cases updates : ∃ patch reset, phase = .update patch reset
      · rcases updates with ⟨patch, reset, rfl⟩
        simp [lockedStep, running] at step
      · have goesOn : (serverStep json client editable state.server
            (.advance id environment)).map state.serve = some result := by
          cases phase with
          | update patch reset => exact absurd ⟨patch, reset, rfl⟩ updates
          | effective | readView | readOverridden | apply | stampTest | recordTest
          | deliverTest | recent =>
              simp only [lockedStep, running] at step
              split at step
              · cases step
              · exact step
        rcases Option.map_eq_some_iff.mp goesOn with ⟨served, taken, same⟩
        refine ⟨served, taken, same, fun patch reset pending => ?_⟩
        exact updates ⟨patch, reset, Option.some.inj pending⟩

theorem NotBegun.step {state : LockedState} {coarse : ServerState}
    (notBegun : NotBegun json state coarse) {input : LockedInput}
    {result : StepResult LockedState Event}
    (step : lockedStep json client editable state input = some result) :
    (result.observation.response? = none ∧ NotBegun json result.nextState coarse) ∨
      ∃ input' result', serverStep json client editable coarse input' = some result' ∧
        result.observation.response? = result'.observation.response? ∧
        NotBegun json result.nextState result'.nextState := by
  have together {input : Input} {served : StepResult ServerState Event}
      (step : serverStep json client editable state.server input = some served)
      (other : ∀ id environment patch reset, input = .advance id environment →
        state.server.requests id ≠ some (.update patch reset)) :
      ∃ input' result', serverStep json client editable coarse input' = some result' ∧
        (state.serve served).observation.response? = result'.observation.response? ∧
        NotBegun json (state.serve served).nextState result'.nextState := by
    rcases notBegun.serve json client editable step other with ⟨result', taken, same, next⟩
    exact ⟨input, result', taken, congrArg _ same, next⟩
  cases input with
  | arrive id request =>
      simp only [lockedStep, Option.map_eq_some_iff] at step
      rcases step with ⟨served, taken, rfl⟩
      exact .inr (together taken fun _ _ _ _ same => nomatch same)
  | dispatch alert environment =>
      simp only [lockedStep, Option.map_eq_some_iff] at step
      rcases step with ⟨served, taken, rfl⟩
      exact .inr (together taken fun _ _ _ _ same => nomatch same)
  | advance id environment =>
      rcases lockedStep_advance json client editable step with ⟨served, taken, rfl, other⟩
      apply Or.inr
      apply together taken
      intro id' environment' patch reset same
      cases same
      exact other patch reset
  | enter id =>
      cases running : state.server.requests id with
      | none => simp [lockedStep, running] at step
      | some phase =>
          cases phase with
          | effective | readView | readOverridden | apply | stampTest | recordTest | deliverTest
          | recent => simp [lockedStep, running] at step
          | update patch reset =>
              cases validated : patch.validated with
              | error text =>
                  simp only [lockedStep, running, validated, Option.some.injEq] at step
                  subst step
                  exact .inr (notBegun.refuse json client editable running validated)
              | ok valid =>
                  exact .inl (notBegun.enter json client editable running validated step)
  | perform outcome =>
      cases notBegun with
      | free => simp [lockedStep] at step
      | @held server files id rest patch valid reset done running validated performed =>
          cases rest with
          | finish returned => simp [lockedStep] at step
          | perform operation next =>
              cases applied : operation.apply outcome server.shared.files with
              | mk after reply =>
                  cases reply with
                  | none => simp [lockedStep, applied] at step
                  | some reply =>
                      simp only [lockedStep, applied, Option.some.injEq] at step
                      subst step
                      have continued (later : List (Outcome String String)) :
                          (server.shared.settings.commit json valid reset).exec
                              ((done ++ [outcome]) ++ later) files =
                            (next reply).exec later after := by
                        rw [List.append_assoc, List.singleton_append, performed,
                          FileProgram.exec, applied]
                      exact .inl ⟨rfl, .held running validated continued⟩
  | leave =>
      rcases state with ⟨server, holder⟩
      cases holder with
      | none => simp [lockedStep] at step
      | some holder =>
          rcases holder with ⟨id, rest⟩
          cases rest with
          | perform operation next => simp [lockedStep] at step
          | finish returned =>
              rcases returned with ⟨settings, failure⟩
              simp only [lockedStep, Option.some.injEq] at step
              subst step
              rcases notBegun.leave json client editable with ⟨environment, taken⟩
              exact .inr ⟨_, _, taken, rfl, .free⟩

/-- A server whose updates hold the lock over their file operations, with everything
that goes on in the meantime, answers as one in which each update is one step. -/
theorem updates_are_atomic {server : ServerState} {inputs : List LockedInput}
    {history : List Event} {final : LockedState}
    (runs : (lockedMachine json client editable).Runs ⟨server, none⟩ inputs history final) :
    ∃ served events after, (serverMachine json client editable).Runs server served events after ∧
      history.filterMap Event.response? = events.filterMap Event.response? ∧
      NotBegun json final after := by
  apply runs.simulates Event.response? Event.response? (NotBegun json) .free
  intro state coarse input result notBegun _ step
  exact notBegun.step json client editable step

end UpdateLock

/-- Two requests: one is inside of its update while the other fires a test alert
and waits to read the settings. -/
def overlappingUpdate : List LockedInput :=
  [.arrive 0 (.putConfig (.ok ({ enabled := some false }, false))), .enter 0, .perform .succeed,
    .arrive 1 .testAlert, .arrive 2 .getConfig, .advance 1 {}, .perform .succeed, .advance 1 {},
    .perform .succeed, .leave, .advance 2 {}, .advance 2 {}]

theorem updates_are_atomic_overlappingUpdate :
    ∃ (_ : UnicodeTables) (server : ServerState) (history : List Event) (final : LockedState)
      (served : List Input) (events : List Event) (after : ServerState),
      (lockedMachine sampleJSON sampleClient true).Runs ⟨server, none⟩ overlappingUpdate history
        final ∧
      (serverMachine sampleJSON sampleClient true).Runs server served events after ∧
      history.filterMap Event.response? = events.filterMap Event.response? := by
  let tables := UnicodeTables.latin
  let server : ServerState := {
    shared := { settings := sampleSettings .standard, files := fun _ => none
                live := newLive .standard }
    requests := fun _ => none }
  have runs : ∃ history final,
      (lockedMachine sampleJSON sampleClient true).Runs ⟨server, none⟩ overlappingUpdate history
        final := ⟨_, _, (runs_iff_run _).mpr rfl⟩
  rcases runs with ⟨history, final, runs⟩
  rcases updates_are_atomic sampleJSON sampleClient true runs with
    ⟨served, events, after, ran, same, -⟩
  exact ⟨tables, server, history, final, served, events, after, runs, ran, same⟩

end StarLens.Server
