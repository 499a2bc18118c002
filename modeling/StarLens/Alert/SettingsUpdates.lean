import StarLens.Alert.OverrideFile
import StarLens.Foundation.Execution
import StarLens.Foundation.Layers

/-! # Runs of `Settings.Update`

Any number of callers share one `Settings`. `Update` validates its patch, waits
for the lock, performs its file operations one by one and releases the lock, so
the steps of different callers interleave. -/

namespace StarLens.Alert

open Foundation Go

inductive UpdateInput
  | call (caller : Nat) (patch : Override) (reset : Bool)
  | lock (caller : Nat)
  | perform (outcome : Outcome String String)
  | unlock

inductive UpdateEvent
  | step
  | returned (caller : Nat) (change : Change Override) (failure : Option UpdateError)

def UpdateEvent.change? : UpdateEvent → Option (Change Override)
  | returned _ change none => some change
  | _ => none

def changes (events : List UpdateEvent) : List (Change Override) :=
  events.filterMap UpdateEvent.change?

theorem changes_step (events : List UpdateEvent) :
    changes (events ++ [.step]) = changes events := by
  simp [changes, UpdateEvent.change?]

private theorem changes_failed (events : List UpdateEvent) (caller : Nat) (change : Change Override)
    (failure : UpdateError) :
    changes (events ++ [.returned caller change (some failure)]) = changes events := by
  simp [changes, UpdateEvent.change?]

private theorem changes_made (events : List UpdateEvent) (caller : Nat) (change : Change Override) :
    changes (events ++ [.returned caller change none]) = changes events ++ [change] := by
  simp [changes, UpdateEvent.change?]

def Layered (start : Override) (made : List (Change Override)) (override : Override) : Prop :=
  ∀ field, override.get field =
    lastSet ((sinceLastReset start made).map fun layer => layer.get field)

theorem layered_start (start : Override) : Layered start [] start := by
  intro field
  cases set : start.get field <;> simp [lastSet, set]

section Updates

variable [UnicodeTables]

structure Holder where
  caller : Nat
  change : Change ValidOverride
  rest : Program (Settings × Option UpdateError)

structure UpdateState where
  settings : Settings
  files : Files
  waiting : Nat → Option (Change ValidOverride)
  holder : Option Holder

def rawChange (change : Change ValidOverride) : Change Override :=
  { layer := change.layer.value, reset := change.reset }

variable (json : JSONText)

def updateStep (state : UpdateState) :
    UpdateInput → Option (StepResult UpdateState UpdateEvent)
  | .call caller patch reset =>
      match state.waiting caller with
      | some _ => none
      | none =>
          match patch.validated with
          | .error text =>
              some {
                nextState := state
                observation :=
                  .returned caller { layer := patch, reset } (some (.invalid text)) }
          | .ok valid =>
              some {
                nextState := { state with
                  waiting := Function.update state.waiting caller
                    (some { layer := valid, reset }) }
                observation := .step }
  | .lock caller =>
      match state.holder, state.waiting caller with
      | none, some change =>
          some {
            nextState := { state with
              waiting := Function.update state.waiting caller none
              holder := some {
                caller, change
                rest := state.settings.commit json change.layer change.reset } }
            observation := .step }
      | _, _ => none
  | .perform outcome =>
      match state.holder with
      | some { caller, change, rest := .perform operation next } =>
          match operation.apply outcome state.files with
          | (files, some reply) =>
              some {
                nextState := { state with
                  files, holder := some { caller, change, rest := next reply } }
                observation := .step }
          | (_, none) => none
      | _ => none
  | .unlock =>
      match state.holder with
      | some { caller, change, rest := .finish (settings, failure) } =>
          some {
            nextState := { state with settings, holder := none }
            observation := .returned caller (rawChange change) failure }
      | _ => none

def updateMachine : Machine UpdateState UpdateInput UpdateEvent where
  step := updateStep json

def updateStart (settings : Settings) (files : Files) : UpdateState where
  settings
  files
  waiting _ := none
  holder := none

theorem Layered.merge {start : Override} {made : List (Change Override)} {settings : Settings}
    (layered : Layered start made settings.override.value) (change : Change ValidOverride) :
    Layered start (made ++ [rawChange change])
      (settings.merged change.layer change.reset).value := by
  intro field
  rw [Settings.merged, ValidOverride.merge_get, sinceLastReset_concat]
  cases reset : change.reset with
  | true => simp [rawChange, reset, ValidOverride.empty_get, lastSet]
  | false =>
      have old := layered field
      simp [rawChange, reset, lastSet_concat, old]

/-- What ties memory and file to the changes made so far. Outside the critical
section the file holds the override in memory; inside, what is left of `commit`
will end either as if it had not been called or with its change made. -/
structure Consistent (start : Settings) (events : List UpdateEvent)
    (state : UpdateState) : Prop where
  defaults : state.settings.defaults = start.defaults
  path : state.settings.path = start.path
  layered : Layered start.override.value (changes events) state.settings.override.value
  file : match state.holder with
    | none => stored json state.files start.path = .ok state.settings.override
    | some holder => holder.rest.Meets state.files (fun _ => True) fun result final =>
        stored json final start.path = .ok result.1.override ∧
          result.1 = match result.2 with
            | some _ => state.settings
            | none => { state.settings with
                override := state.settings.merged holder.change.layer holder.change.reset }

private theorem commit_consistent {files : Files} {settings : Settings}
    (loads : stored json files settings.path = .ok settings.override)
    (change : Change ValidOverride) :
    (settings.commit json change.layer change.reset).Meets files (fun _ => True)
      fun result final => stored json final settings.path = .ok result.1.override ∧
        result.1 = match result.2 with
          | some _ => settings
          | none => { settings with override := settings.merged change.layer change.reset } := by
  refine (commit_meets json files settings change.layer change.reset).weaken
    (fun _ _ => trivial) ?_
  intro result final returned
  rcases result with ⟨after, failure⟩
  cases failure with
  | none =>
      rcases returned with ⟨rfl, encodes⟩
      exact ⟨stored_of_encodes json encodes, rfl⟩
  | some failure =>
      rcases returned with ⟨rfl, same⟩
      exact ⟨(stored_congr json same).trans loads, rfl⟩

theorem Consistent.step {start : Settings} {events : List UpdateEvent} {state : UpdateState}
    (consistent : Consistent json start events state) {input : UpdateInput}
    {result : StepResult UpdateState UpdateEvent}
    (step : updateStep json state input = some result) :
    Consistent json start (events ++ [result.observation]) result.nextState := by
  rcases consistent with ⟨defaults, path, layered, file⟩
  rcases state with ⟨settings, files, waiting, holder⟩
  cases input with
  | call caller patch reset =>
      cases idle : waiting caller with
      | some change => simp [updateStep, idle] at step
      | none =>
          cases validated : patch.validated with
          | error text =>
              simp only [updateStep, idle, validated, Option.some.injEq] at step
              subst step
              exact ⟨defaults, path, by rw [changes_failed]; exact layered, file⟩
          | ok valid =>
              simp only [updateStep, idle, validated, Option.some.injEq] at step
              subst step
              exact ⟨defaults, path, by rw [changes_step]; exact layered, file⟩
  | lock caller =>
      cases holder with
      | some holder => simp [updateStep] at step
      | none =>
          cases wanted : waiting caller with
          | none => simp [updateStep, wanted] at step
          | some change =>
              simp only [updateStep, wanted, Option.some.injEq] at step
              subst step
              refine ⟨defaults, path, by rw [changes_step]; exact layered, ?_⟩
              simp only [← path] at file ⊢
              exact commit_consistent json file change
  | perform outcome =>
      rcases holder with _ | ⟨caller, change, rest⟩
      · simp [updateStep] at step
      · cases rest with
        | finish result => simp [updateStep] at step
        | perform operation next =>
            cases applied : operation.apply outcome files with
            | mk after reply =>
                cases reply with
                | none => simp [updateStep, applied] at step
                | some reply =>
                    simp only [updateStep, applied, Option.some.injEq] at step
                    subst step
                    exact ⟨defaults, path, by rw [changes_step]; exact layered,
                      FileProgram.Meets.resume file applied⟩
  | unlock =>
      rcases holder with _ | ⟨caller, change, rest⟩
      · simp [updateStep] at step
      · cases rest with
        | perform operation next => simp [updateStep] at step
        | finish returned =>
            rcases returned with ⟨after, failure⟩
            simp only [updateStep, Option.some.injEq] at step
            subst step
            rcases (FileProgram.meets_finish _).mp file with ⟨loads, equal⟩
            cases failure with
            | some failure =>
                simp only at equal
                subst equal
                exact ⟨defaults, path, by rw [changes_failed]; exact layered, loads⟩
            | none =>
                simp only at equal
                subst equal
                refine ⟨defaults, path, ?_, loads⟩
                rw [changes_made]
                exact layered.merge change

private theorem runs_consistent {path : String} {config : Config} {files final : Files}
    {outcomes : List (Outcome String String)} {start : Settings}
    (loaded : (loadSettings json path config).exec outcomes files = (final, some (start, none)))
    {inputs : List UpdateInput} {events : List UpdateEvent} {state : UpdateState}
    (runs : (updateMachine json).Runs (updateStart start final) inputs events state) :
    Consistent json start events state := by
  apply runs.history_invariant (Consistent json start)
  · have meets := loadSettings_meets json files path config outcomes
    rw [loaded] at meets
    rcases meets with ⟨rfl, -, samePath, loads⟩
    refine ⟨rfl, rfl, layered_start _, ?_⟩
    simp only [updateStart]
    rw [samePath]
    exact loads
  · intro events state input result consistent _ step
    exact consistent.step json step

def sampleChanges : List (Change Override) :=
  [{ layer := { enabled := some false }, reset := false },
    { layer := { maxJournalLag := some 5 }, reset := true },
    { layer := { maxOffsetLag := some 7 }, reset := false }]

/-- The second caller waits while the first one writes, and the first one comes
back. There is no file to begin with. -/
theorem sample_runs (config : Config) :
    ∃ events state,
      (updateMachine sampleJSON).Runs
        (updateStart { defaults := config, override := .empty, path := "alerts.json" }
          fun _ => none)
        ([.call 0 { enabled := some false } false, .lock 0, .perform .succeed,
            .call 1 { maxJournalLag := some 5 } true, .perform .succeed, .perform .succeed,
            .unlock] ++
          [.lock 1, .perform .succeed, .perform .succeed, .perform .succeed, .unlock] ++
          [.call 0 { maxOffsetLag := some 7 } false, .lock 0, .perform .succeed,
            .perform .succeed, .perform .succeed, .unlock]) events state ∧
      state.holder = none ∧
      changes events = sampleChanges :=
  ⟨_, _, (Machine.runs_iff_run _).mpr rfl, rfl, rfl⟩

/-- After every run each field has the value of the last setting since the last
reset, parsed and never replaced by a fallback, and is listed as overridden
exactly when there is one. -/
theorem settings_follow_history {path : String} {config : Config} {files final : Files}
    {outcomes : List (Outcome String String)} {start : Settings}
    (loaded : (loadSettings json path config).exec outcomes files = (final, some (start, none)))
    {inputs : List UpdateInput} {events : List UpdateEvent} {state : UpdateState}
    (runs : (updateMachine json).Runs (updateStart start final) inputs events state)
    (field : Field) :
    let layers := sinceLastReset start.override.value (changes events)
    (field.name ∈ state.settings.overridden ↔ ∃ layer ∈ layers, (layer.get field).isSome) ∧
      match lastSet (layers.map fun layer => layer.get field) with
      | some raw => field.decode raw = some (state.settings.effective.get field)
      | none => state.settings.effective.get field = config.get field := by
  intro layers
  have consistent := runs_consistent json loaded runs
  have layered := consistent.layered field
  have meets := loadSettings_meets json files path config outcomes
  rw [loaded] at meets
  have defaults : state.settings.defaults = config := consistent.defaults.trans meets.2.1
  constructor
  · rw [Settings.name_mem_overridden, layered, lastSet_isSome]
    simp [layers]
  · cases set : lastSet (layers.map fun layer => layer.get field) with
    | some raw => exact Settings.effective_set (layered.trans set)
    | none =>
        rw [← defaults]
        exact Settings.effective_unset (layered.trans set)

omit [UnicodeTables] in
theorem settings_follow_history_sample :
    ∃ (_ : UnicodeTables) (events : List UpdateEvent) (state : UpdateState),
      changes events = sampleChanges ∧
      ("enabled" ∉ state.settings.overridden ∧ state.settings.effective.enabled = true) ∧
      ("maxJournalLag" ∈ state.settings.overridden ∧
        state.settings.effective.maxJournalLag = 5) ∧
      "maxOffsetLag" ∈ state.settings.overridden ∧
      state.settings.effective.maxOffsetLag = 7 := by
  let tables := UnicodeTables.latin
  rcases sample_runs .standard with ⟨events, state, runs, -, made⟩
  have loaded := loadSettings_exec sampleJSON (fun _ => none) "alerts.json" .standard
  have follows := settings_follow_history sampleJSON loaded runs
  rw [made] at follows
  refine ⟨tables, events, state, made, ⟨?_, (follows .enabled).2⟩, ⟨?_, ?_⟩, ?_, ?_⟩
  · rw [show "enabled" = Field.enabled.name from rfl, (follows .enabled).1]
    decide
  · exact (follows .maxJournalLag).1.mpr ⟨_, .head _, rfl⟩
  · exact (Option.some.inj (follows .maxJournalLag).2).symm
  · exact (follows .maxOffsetLag).1.mpr ⟨_, .tail _ (.head _), rfl⟩
  · exact (Option.some.inj (follows .maxOffsetLag).2).symm

/-- Whenever no `Update` is in its critical section, reading the file again
gives the settings in memory, and these hold every change that was made. -/
theorem reload_agrees {path : String} {config : Config} {files final : Files}
    {outcomes : List (Outcome String String)} {start : Settings}
    (loaded : (loadSettings json path config).exec outcomes files = (final, some (start, none)))
    {inputs : List UpdateInput} {events : List UpdateEvent} {state : UpdateState}
    (runs : (updateMachine json).Runs (updateStart start final) inputs events state)
    (free : state.holder = none) :
    ∃ reloaded,
      (loadSettings json path config).exec [.succeed] state.files =
        (state.files, some (reloaded, none)) ∧
      reloaded.effective = state.settings.effective ∧
      reloaded.overridden = state.settings.overridden ∧
      Layered start.override.value (changes events) reloaded.override.value := by
  have consistent := runs_consistent json loaded runs
  have meets := loadSettings_meets json files path config outcomes
  rw [loaded] at meets
  rcases meets with ⟨-, sameDefaults, samePath, -⟩
  have holds := consistent.file
  rw [free] at holds
  rw [samePath] at holds
  have equal : state.settings =
      { defaults := config, override := state.settings.override, path } := by
    rw [← sameDefaults, ← samePath, ← consistent.defaults, ← consistent.path]
  refine ⟨state.settings, ?_, rfl, rfl, consistent.layered⟩
  rw [loadSettings_exec, holds]
  exact congrArg (fun settings => (state.files, some (settings, none))) equal.symm

end Updates

theorem reload_agrees_sample :
    ∃ (_ : UnicodeTables) (events : List UpdateEvent) (state : UpdateState)
      (reloaded : Settings),
      changes events = sampleChanges ∧
      (loadSettings sampleJSON "alerts.json" .standard).exec [.succeed] state.files =
        (state.files, some (reloaded, none)) ∧
      reloaded.override.value.get .enabled = none ∧
      reloaded.override.value.get .maxJournalLag = some 5 ∧
      reloaded.override.value.get .maxOffsetLag = some 7 := by
  let tables := UnicodeTables.latin
  rcases sample_runs .standard with ⟨events, state, runs, free, made⟩
  have loaded := loadSettings_exec sampleJSON (fun _ => none) "alerts.json" .standard
  rcases reload_agrees sampleJSON loaded runs free with
    ⟨reloaded, loads, -, -, layered⟩
  rw [made] at layered
  exact ⟨_, events, state, reloaded, made, loads, layered .enabled, layered .maxJournalLag,
    layered .maxOffsetLag⟩

end StarLens.Alert
