import StarLens.Alert.OverrideFile
import StarLens.Alert.Poller
import StarLens.Foundation.Execution

/-! # Runs of the poller

`Poller.Run` reads the settings once in each iteration and then waits for a
timer, while updates of the settings come in at any moment. -/

namespace StarLens.Alert

open Foundation Go

variable {Notifier : Type}

structure PollSettings where
  interval : Duration
  enabled : Bool
deriving DecidableEq

def pollSettings [UnicodeTables] (settings : Settings) : PollSettings where
  interval := settings.effective.pollInterval
  enabled := settings.effective.enabled

/-- It guards against an interval that is not positive. -/
def fallbackInterval : Duration := 30000000000

def PollSettings.timer (settings : PollSettings) : Duration :=
  if settings.interval ≤ 0 then fallbackInterval else settings.interval

inductive PollPhase
  | reading
  | evaluating (settings : PollSettings)
  | arming (settings : PollSettings)
  /-- The timer was started at `start` and is due at `due`. -/
  | waiting (start due : Int)
  | stopped

section Poller

variable [UnicodeTables] (json : JSONText) (clock : Nat → Time)

structure PollerState (Notifier : Type) where
  settings : Settings
  files : Files
  manager : Manager Notifier
  readings : Nat
  /-- The nanoseconds the timers run on. -/
  now : Int
  phase : PollPhase

inductive PollInput
  | read
  | evaluate (collected : Except String (List Alert))
  | arm
  | fire
  | cancel
  /-- A call of `Settings.Update`, with the outcomes of its file operations. -/
  | update (patch : Override) (reset : Bool) (outcomes : List (Outcome String String))
  | elapse (nanos : Nat)

inductive PollEvent
  | read (settings : PollSettings)
  | evaluated
  | armed
  | fired
  | cancelled
  | updated (failure : Option UpdateError)
  | elapsed
deriving DecidableEq

/-- The accepted steps. A disabled poller skips the evaluation, and a timer
fires when it is due or later. -/
def pollStep (state : PollerState Notifier) :
    PollInput → Option (StepResult (PollerState Notifier) PollEvent)
  | .read =>
      match state.phase with
      | .reading =>
          let settings := pollSettings state.settings
          some {
            nextState := { state with
              phase := if settings.enabled then .evaluating settings else .arming settings }
            observation := .read settings }
      | _ => none
  | .evaluate collected =>
      match state.phase with
      | .evaluating settings =>
          let evaluation := evaluate clock state.manager state.readings collected
          some {
            nextState := { state with
              manager := evaluation.manager
              readings := evaluation.readings
              phase := .arming settings }
            observation := .evaluated }
      | _ => none
  | .arm =>
      match state.phase with
      | .arming settings =>
          some {
            nextState := { state with
              phase := .waiting state.now (state.now + settings.timer.toInt) }
            observation := .armed }
      | _ => none
  | .fire =>
      match state.phase with
      | .waiting _ due =>
          if due ≤ state.now then
            some { nextState := { state with phase := .reading }, observation := .fired }
          else none
      | _ => none
  | .cancel =>
      match state.phase with
      | .waiting _ _ =>
          some { nextState := { state with phase := .stopped }, observation := .cancelled }
      | _ => none
  | .update patch reset outcomes =>
      match (state.settings.update json patch reset).exec outcomes state.files with
      | (files, some (settings, failure)) =>
          some {
            nextState := { state with settings, files }
            observation := .updated failure }
      | (_, none) => none
  | .elapse nanos =>
      some { nextState := { state with now := state.now + nanos }, observation := .elapsed }

def pollerMachine : Machine (PollerState Notifier) PollInput PollEvent where
  step := pollStep json clock

def pollerStart (settings : Settings) (files : Files) (manager : Manager Notifier) :
    PollerState Notifier where
  settings
  files
  manager
  readings := 0
  now := 0
  phase := .reading

/-! ## The settings in use -/

/-- The loop uses what it read in this iteration: no timer has fired since, the
rules were evaluated since then exactly if `evaluated` says so, and only a
successful update makes `current` differ from what was read. -/
def ReadSince (initial : PollerState Notifier) (history : List PollEvent) (current : Settings)
    (settings : PollSettings) (evaluated : Bool) : Prop :=
  ∃ inputs before after source,
    (pollerMachine json clock).Runs initial inputs before source ∧
    history = before ++ .read (pollSettings source.settings) :: after ∧
    settings = pollSettings source.settings ∧
    PollEvent.fired ∉ after ∧ (PollEvent.evaluated ∈ after ↔ evaluated = true) ∧
    (PollEvent.updated none ∉ after → source.settings = current)

def InUse (initial : PollerState Notifier) (history : List PollEvent) (current : Settings) :
    PollPhase → Prop
  | .reading | .stopped => True
  | .evaluating settings =>
      settings.enabled = true ∧ ReadSince json clock initial history current settings false
  | .arming settings => ReadSince json clock initial history current settings settings.enabled
  | .waiting start due =>
      ∃ settings, ReadSince json clock initial history current settings settings.enabled ∧
        due = start + settings.timer.toInt

section Runs

variable {json : JSONText} {clock : Nat → Time} {initial state : PollerState Notifier}
variable {inputs : List PollInput} {history : List PollEvent} {current next : Settings}
variable {settings : PollSettings} {ticked : Bool} {event : PollEvent}

private theorem readSince_read
    (runs : (pollerMachine json clock).Runs initial inputs history state) :
    ReadSince json clock initial (history ++ [.read (pollSettings state.settings)])
      state.settings (pollSettings state.settings) false :=
  ⟨inputs, history, [], state, runs, rfl, rfl, by simp, by simp, fun _ => rfl⟩

theorem ReadSince.evaluated
    (since : ReadSince json clock initial history current settings false) :
    ReadSince json clock initial (history ++ [.evaluated]) current settings true := by
  rcases since with ⟨earlier, before, after, source, runs, rfl, same, quiet, -, unchanged⟩
  refine ⟨earlier, before, after ++ [.evaluated], source, runs, by simp, same, ?_, ?_, ?_⟩
  · simp [quiet]
  · simp
  · intro unlisted
    exact unchanged fun member => unlisted (List.mem_append_left _ member)

theorem ReadSince.keep
    (since : ReadSince json clock initial history current settings ticked)
    (unfired : event ≠ .fired) (apart : event ≠ .evaluated)
    (kept : event ≠ .updated none → next = current) :
    ReadSince json clock initial (history ++ [event]) next settings ticked := by
  rcases since with ⟨earlier, before, after, source, runs, rfl, same, quiet, ran, unchanged⟩
  refine ⟨earlier, before, after ++ [event], source, runs, by simp, same, ?_, ?_, ?_⟩
  · simp [quiet, Ne.symm unfired]
  · simp [ran, Ne.symm apart]
  · intro unlisted
    rw [List.mem_append, List.mem_singleton, not_or] at unlisted
    rw [unchanged unlisted.1, kept (Ne.symm unlisted.2)]

theorem InUse.keep {phase : PollPhase}
    (inUse : InUse json clock initial history current phase)
    (unfired : event ≠ .fired) (apart : event ≠ .evaluated)
    (kept : event ≠ .updated none → next = current) :
    InUse json clock initial (history ++ [event]) next phase := by
  cases phase with
  | reading | stopped => trivial
  | evaluating settings => exact ⟨inUse.1, inUse.2.keep unfired apart kept⟩
  | arming settings => exact ReadSince.keep inUse unfired apart kept
  | waiting start due =>
      rcases inUse with ⟨settings, since, timed⟩
      exact ⟨settings, since.keep unfired apart kept, timed⟩

theorem InUse.step (runs : (pollerMachine json clock).Runs initial inputs history state)
    (inUse : InUse json clock initial history state.settings state.phase) {input : PollInput}
    {result : StepResult (PollerState Notifier) PollEvent}
    (step : pollStep json clock state input = some result) :
    InUse json clock initial (history ++ [result.observation]) result.nextState.settings
      result.nextState.phase := by
  cases input with
  | read =>
      rw [pollStep] at step
      split at step
      case h_2 => cases step
      case h_1 reading =>
          cases step
          have since := readSince_read runs
          by_cases enabled : (pollSettings state.settings).enabled
          · simp only [if_pos enabled]
            exact ⟨enabled, since⟩
          · simp only [if_neg enabled]
            rw [InUse, Bool.eq_false_iff.mpr enabled]
            exact since
  | evaluate collected =>
      rw [pollStep] at step
      split at step
      case h_2 => cases step
      case h_1 settings phase =>
          cases step
          rw [phase] at inUse
          rw [InUse, inUse.1]
          exact inUse.2.evaluated
  | arm =>
      rw [pollStep] at step
      split at step
      case h_2 => cases step
      case h_1 settings phase =>
          cases step
          rw [phase] at inUse
          exact ⟨settings, ReadSince.keep inUse (by simp) (by simp) fun _ => rfl, rfl⟩
  | fire =>
      rw [pollStep] at step
      split at step
      case h_2 => cases step
      case h_1 begin due phase =>
          split at step
          · cases step
            trivial
          · cases step
  | cancel =>
      rw [pollStep] at step
      split at step
      case h_2 => cases step
      case h_1 begin due phase =>
          cases step
          trivial
  | update patch reset outcomes =>
      rw [pollStep] at step
      split at step
      case h_2 => cases step
      case h_1 files settings failure updated =>
          cases step
          apply inUse.keep (by simp) (by simp)
          intro failed
          cases failure with
          | none => exact absurd rfl failed
          | some text => exact (update_error json updated).1
  | elapse nanos =>
      rw [pollStep] at step
      cases step
      exact inUse.keep (by simp) (by simp) fun _ => rfl

end Runs

end Poller

/-- In every state in which the loop waits, its timer is due after the interval
it read in this iteration, behind the last firing and before it evaluated, or
after the fallback. Until an update succeeds the settings it read are the
effective ones; the effective interval bounds the wait exactly if it is not
shorter than the timer that was read. -/
theorem wait_due_at_read [UnicodeTables] {json : JSONText} {clock : Nat → Time}
    {settings : Settings} {files : Files} {manager : Manager Notifier}
    {inputs : List PollInput} {history : List PollEvent} {state : PollerState Notifier}
    (runs : (pollerMachine json clock).Runs (pollerStart settings files manager)
      inputs history state)
    {start due : Int} (waiting : state.phase = .waiting start due) :
    ∃ earlier before after source,
      (pollerMachine json clock).Runs (pollerStart settings files manager)
        earlier before source ∧
      history = before ++ .read (pollSettings source.settings) :: after ∧
      PollEvent.fired ∉ after ∧
      (PollEvent.evaluated ∈ after ↔ source.settings.effective.enabled = true) ∧
      due = start + (pollSettings source.settings).timer.toInt ∧
      (PollEvent.updated none ∉ after → source.settings = state.settings) ∧
      (due ≤ start + state.settings.effective.pollInterval.toInt ↔
        (pollSettings source.settings).timer ≤ state.settings.effective.pollInterval) := by
  have inUse : InUse json clock (pollerStart settings files manager) history state.settings
      state.phase := by
    clear waiting
    induction runs with
    | start => trivial
    | extend earlier _ step induction => exact induction.step earlier step
  rw [waiting] at inUse
  rcases inUse with
    ⟨read, ⟨earlier, before, after, source, ran, split, rfl, quiet, evaluated, unchanged⟩, timed⟩
  refine ⟨earlier, before, after, source, ran, split, quiet, evaluated, timed, unchanged, ?_⟩
  rw [Int64.le_iff_toInt_le, timed]
  omega

def sampleSettings [UnicodeTables] : Settings where
  defaults := { Config.standard with pollInterval := 600000000000 }
  override := .empty
  path := "alerts.json"

private theorem sample_wait [UnicodeTables] (json : JSONText) :
    ∃ history state, (pollerMachine json fun _ => { wall := 0 }).Runs
        (pollerStart sampleSettings (fun _ => none) (.new 600 : Manager Unit))
        [.read, .evaluate (.ok []), .arm] history state ∧
      state.settings = sampleSettings ∧ state.phase = .waiting 0 600000000000 := by
  have runs : (pollerMachine json fun _ => { wall := 0 }).Runs
      (pollerStart sampleSettings (fun _ => none) (.new 600 : Manager Unit))
      [.read, .evaluate (.ok []), .arm] _ _ :=
    ((pollerMachine json _).runs_iff_run).mpr rfl
  have due : 0 + (PollSettings.timer ⟨600000000000, true⟩).toInt = 600000000000 := by decide
  exact ⟨_, _, runs, rfl, congrArg (PollPhase.waiting 0) due⟩

def shorterInterval : Override := { pollInterval := some "5s" }

/-- The interval is set from ten minutes to five seconds while the loop waits. -/
theorem sample_update [UnicodeTables] :
    ∃ history state, (pollerMachine sampleJSON fun _ => { wall := 0 }).Runs
        (pollerStart sampleSettings (fun _ => none) (.new 600 : Manager Unit))
        [.read, .evaluate (.ok []), .arm,
          .update shorterInterval true [.succeed, .succeed, .succeed]] history state ∧
      PollEvent.updated none ∈ history ∧ state.phase = .waiting 0 600000000000 ∧
      state.settings.effective.enabled ∧
      state.settings.effective.pollInterval = 5000000000 := by
  rcases sample_wait sampleJSON with ⟨history, state, runs, settings, waiting⟩
  let valid : ValidOverride := { value := shorterInterval, valid := rfl }
  have validated : shorterInterval.validated = .ok valid :=
    Override.validated_eq_ok_iff.mpr rfl
  rcases update_succeeds sampleJSON state.files state.settings validated true rfl with
    ⟨files, updated⟩
  let settings' := { state.settings with override := state.settings.merged valid true }
  have step : (pollerMachine sampleJSON fun _ => { wall := 0 }).step state
      (.update shorterInterval true [.succeed, .succeed, .succeed]) =
        some ⟨{ state with settings := settings', files }, .updated none⟩ := by
    simp only [pollerMachine, pollStep, updated, settings']
  refine ⟨_, _, runs.extend trivial step, by simp, waiting, ?_, ?_⟩
  · simp only [settings', settings]
    rfl
  · simp only [settings', settings]
    rfl

theorem wait_due_at_read_sample :
    ∃ (_ : UnicodeTables) (history : List PollEvent) (state source : PollerState Unit),
      (pollerMachine sampleJSON fun _ => { wall := 0 }).Runs
        (pollerStart sampleSettings (fun _ => none) (.new 600))
        [.read, .evaluate (.ok []), .arm,
          .update shorterInterval true [.succeed, .succeed, .succeed]] history state ∧
      PollEvent.updated none ∈ history ∧ state.phase = .waiting 0 600000000000 ∧
      state.settings.effective.pollInterval = 5000000000 ∧
      (pollSettings source.settings).timer.toInt = 600000000000 ∧
      ¬(pollSettings source.settings).timer ≤ state.settings.effective.pollInterval := by
  let tables := UnicodeTables.latin
  rcases sample_update with ⟨history, state, runs, updated, waiting, -, interval⟩
  rcases wait_due_at_read runs waiting with ⟨_, _, _, source, -, -, -, -, due, -, bounds⟩
  refine ⟨tables, history, state, source, runs, updated, waiting, interval, by omega, ?_⟩
  rw [← bounds, interval]
  decide

theorem wait_outlasts_interval :
    ∃ (_ : UnicodeTables), ¬∀ (json : JSONText) (clock : Nat → Time) (settings : Settings)
      (files : Files) (manager : Manager Unit) inputs history state,
      (pollerMachine json clock).Runs (pollerStart settings files manager) inputs history state →
      ∀ start due, state.phase = .waiting start due → state.settings.effective.enabled →
        due ≤ start + state.settings.effective.pollInterval.toInt := by
  let tables := UnicodeTables.latin
  refine ⟨tables, fun bounded => ?_⟩
  rcases sample_update with ⟨history, state, runs, -, waiting, enabled, interval⟩
  have late := bounded _ _ _ _ _ _ _ _ runs 0 600000000000 waiting enabled
  rw [interval] at late
  revert late
  decide

end StarLens.Alert
