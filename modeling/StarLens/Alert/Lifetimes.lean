import StarLens.Alert.SettingsUpdates

/-! # The settings over the lifetimes of the process

The process may stop anywhere, in the middle of an `Update` too, and starts
again with what it finds in the override file. -/

namespace StarLens.Alert

open Foundation Foundation.Machine Go

section Lifetimes

variable [UnicodeTables]

def ValidOverride.after (override : ValidOverride) (change : Change ValidOverride) :
    ValidOverride :=
  (if change.reset then .empty else override).merge change.layer

theorem Layered.after {start : Override} {made : List (Change Override)}
    {override : ValidOverride} (layered : Layered start made override.value)
    (change : Change ValidOverride) :
    Layered start (made ++ [rawChange change]) (override.after change).value := by
  let settings : Settings := { defaults := .standard, override, path := "" }
  have inMemory : Layered start made settings.override.value := layered
  exact inMemory.merge change

inductive LifetimeEvent
  | started (settings : Settings) (failure : Option LoadError)
  | running (event : UpdateEvent)
  | stopped (pending : Option (Change ValidOverride))

/-! ## The register

What the override file and the settings in memory are for: an override that
outlives the process. -/

/-- The override that is kept, and the one a running process goes by. -/
structure Register where
  kept : Except LoadError ValidOverride
  inUse : Option ValidOverride

/-- A change is made in both or in none. Only one that was under way when the
process stopped may or may not have been kept. A process that could not read
what is kept starts without overrides, and its next change replaces it. -/
inductive Register.Steps : Register → LifetimeEvent → Register → Prop
  | loads {override : ValidOverride} {settings : Settings} (same : settings.override = override) :
      Steps ⟨.ok override, none⟩ (.started settings none) ⟨.ok override, some override⟩
  | ignores {kept : Except LoadError ValidOverride} {settings : Settings} {failure : LoadError}
      (cause : kept = .error failure ∨ ∃ text, failure = .read text)
      (blank : settings.override = .empty) :
      Steps ⟨kept, none⟩ (.started settings (some failure)) ⟨kept, some .empty⟩
  | stopsAtStart {kept : Except LoadError ValidOverride} :
      Steps ⟨kept, none⟩ (.stopped none) ⟨kept, none⟩
  | goesOn {register : Register} : Steps register (.running .step) register
  | makes {kept : Except LoadError ValidOverride} {override : ValidOverride} {caller : Nat}
      (change : Change ValidOverride) :
      Steps ⟨kept, some override⟩ (.running (.returned caller (rawChange change) none))
        ⟨.ok (override.after change), some (override.after change)⟩
  | refuses {register : Register} {caller : Nat} {change : Change Override}
      {failure : UpdateError} :
      Steps register (.running (.returned caller change (some failure))) register
  | stops {kept : Except LoadError ValidOverride} {override : ValidOverride}
      {pending : Option (Change ValidOverride)} :
      Steps ⟨kept, some override⟩ (.stopped pending) ⟨kept, none⟩
  | stopsKept {kept : Except LoadError ValidOverride} {override : ValidOverride}
      (change : Change ValidOverride) :
      Steps ⟨kept, some override⟩ (.stopped (some change)) ⟨.ok (override.after change), none⟩

/-! ## The process -/

inductive Lifetime
  | down (files : Files)
  | up (state : UpdateState)

inductive LifetimeInput
  | start (defaults : Config) (outcomes : List (Outcome String String))
  | run (input : UpdateInput)
  | stop
  | stopInside (landed : Bool) (leftover : Option String)

variable (json : JSONText) (path : String)

/-- The process stops between two file operations, or inside the one that the
holder of the lock performs. -/
def lifetimeStep :
    Lifetime → LifetimeInput → Option (StepResult Lifetime LifetimeEvent)
  | .down files, .start defaults outcomes =>
      match (loadSettings json path defaults).exec outcomes files with
      | (final, some (settings, failure)) =>
          some {
            nextState := .up (updateStart settings final)
            observation := .started settings failure }
      | (final, none) => some { nextState := .down final, observation := .stopped none }
  | .up state, .run input =>
      (updateStep json state input).map fun result =>
        { nextState := .up result.nextState, observation := .running result.observation }
  | .up state, .stop =>
      some {
        nextState := .down state.files
        observation := .stopped (state.holder.map Holder.change) }
  | .up state, .stopInside landed leftover =>
      match state.holder with
      | some { change, rest := .perform operation _, .. } =>
          let outcome : Outcome String String := .stop landed leftover
          some {
            nextState := .down (operation.apply outcome state.files).1
            observation := .stopped (some change) }
      | _ => none
  | _, _ => none

def lifetimeMachine : Machine Lifetime LifetimeInput LifetimeEvent where
  step := lifetimeStep json path

/-- What is left of a `commit` ends with its change made in the file and in memory,
or in neither; and wherever the process stops, the file has it or has not. -/
def Commits (settings : Settings) (kept : Except LoadError ValidOverride)
    (change : Change ValidOverride) (rest : Program (Settings × Option UpdateError))
    (files : Files) : Prop :=
  rest.Meets files
    (fun final => stored json final path = kept ∨
      stored json final path = .ok (settings.override.after change))
    (fun result final => match result.2 with
      | some _ => result.1 = settings ∧ stored json final path = kept
      | none => result.1 = { settings with override := settings.override.after change } ∧
          stored json final path = .ok (settings.override.after change))

inductive Holds : Lifetime → Register → Prop
  | down {files : Files} : Holds (.down files) ⟨stored json files path, none⟩
  | idle {state : UpdateState} (free : state.holder = none) (same : state.settings.path = path) :
      Holds (.up state) ⟨stored json state.files path, some state.settings.override⟩
  | busy {state : UpdateState} {holder : Holder} {kept : Except LoadError ValidOverride}
      (held : state.holder = some holder) (same : state.settings.path = path)
      (commits : Commits json path state.settings kept holder.change holder.rest state.files) :
      Holds (.up state) ⟨kept, some state.settings.override⟩

private theorem commits_commit {settings : Settings} (same : settings.path = path) (files : Files)
    (change : Change ValidOverride) :
    Commits json path settings (stored json files path) change
      (settings.commit json change.layer change.reset) files := by
  subst same
  apply (commit_meets json files settings change.layer change.reset).weaken
  · intro final stopped
    rcases stopped with same | encodes
    · exact .inl (stored_congr json same)
    · exact .inr (stored_of_encodes json encodes)
  · intro result final returned
    cases failure : result.2 with
    | none =>
        rw [failure] at returned
        exact ⟨returned.1, stored_of_encodes json returned.2⟩
    | some error =>
        rw [failure] at returned
        exact ⟨returned.1, stored_congr json returned.2⟩

private theorem loadSettings_cause (files : Files) (defaults : Config) :
    (loadSettings json path defaults).Meets files (fun _ => True) fun result _ =>
      ∀ failure, result.2 = some failure →
        stored json files path = .error failure ∨ ∃ text, failure = .read text := by
  rw [loadSettings, FileProgram.meets_atomic fun _ => rfl]
  cases content : files path with
  | none => simp [Operation.effect, content]
  | some raw =>
      cases decoded : decodeOverride json raw with
      | error failure => simp [Operation.effect, content, decoded, stored]
      | ok override => simp [Operation.effect, content, decoded]

private theorem started_steps {files final : Files} {defaults : Config}
    {outcomes : List (Outcome String String)} {settings : Settings} {failure : Option LoadError}
    (loaded : (loadSettings json path defaults).exec outcomes files =
      (final, some (settings, failure))) :
    final = files ∧ settings.path = path ∧
      Register.Steps ⟨stored json files path, none⟩ (.started settings failure)
        ⟨stored json files path, some settings.override⟩ := by
  have meets := loadSettings_meets json files path defaults outcomes
  have cause := loadSettings_cause json path files defaults outcomes
  rw [loaded] at meets cause
  rcases meets with ⟨same, -, located, read⟩
  refine ⟨same, located, ?_⟩
  cases failure with
  | none =>
      simp only at read
      rw [read]
      exact .loads rfl
  | some failure =>
      simp only at read
      rw [read]
      exact .ignores (cause failure rfl) read

theorem Commits.finished {settings after : Settings} {kept : Except LoadError ValidOverride}
    {change : Change ValidOverride} {failure : Option UpdateError} {files : Files}
    (commits : Commits json path settings kept change (.finish (after, failure)) files)
    (caller : Nat) :
    Register.Steps ⟨kept, some settings.override⟩
        (.running (.returned caller (rawChange change) failure))
        ⟨stored json files path, some after.override⟩ ∧
      after.path = settings.path := by
  have ended := (FileProgram.meets_finish _).mp commits
  cases failure with
  | some failure =>
      rcases ended with ⟨equal, content⟩
      simp only at equal content
      rw [content, equal]
      exact ⟨.refuses, rfl⟩
  | none =>
      rcases ended with ⟨equal, content⟩
      simp only at equal content
      rw [content, equal]
      exact ⟨.makes change, rfl⟩

private theorem update_steps {state : UpdateState} {register : Register} {input : UpdateInput}
    (holds : Holds json path (.up state) register) {result : StepResult UpdateState UpdateEvent}
    (step : updateStep json state input = some result) :
    ∃ next, register.Steps (.running result.observation) next ∧
      Holds json path (.up result.nextState) next := by
  rcases state with ⟨settings, files, waiting, holder⟩
  cases input with
  | call caller patch reset =>
      cases idle : waiting caller with
      | some change => simp [updateStep, idle] at step
      | none =>
          cases validated : patch.validated with
          | error text =>
              simp only [updateStep, idle, validated, Option.some.injEq] at step
              subst step
              exact ⟨register, .refuses, holds⟩
          | ok valid =>
              simp only [updateStep, idle, validated, Option.some.injEq] at step
              subst step
              refine ⟨register, .goesOn, ?_⟩
              cases holds with
              | idle free same => exact .idle free same
              | busy held same commits => exact .busy held same commits
  | lock caller =>
      cases holds with
      | busy held same commits =>
          simp only at held
          simp [updateStep, held] at step
      | idle free same =>
          simp only at free same
          subst free
          cases wanted : waiting caller with
          | none => simp [updateStep, wanted] at step
          | some change =>
              simp only [updateStep, wanted, Option.some.injEq] at step
              subst step
              exact ⟨_, .goesOn, .busy rfl same (commits_commit json path same files change)⟩
  | perform outcome =>
      cases holds with
      | idle free same =>
          simp only at free
          simp [updateStep, free] at step
      | @busy _ holder kept held same commits =>
          simp only at held same commits
          subst held
          rcases holder with ⟨caller, change, rest⟩
          cases rest with
          | finish returned => simp [updateStep] at step
          | perform operation next =>
              cases applied : operation.apply outcome files with
              | mk after reply =>
                  cases reply with
                  | none => simp [updateStep, applied] at step
                  | some reply =>
                      simp only [updateStep, applied, Option.some.injEq] at step
                      subst step
                      exact ⟨_, .goesOn, .busy rfl same (FileProgram.Meets.resume commits applied)⟩
  | unlock =>
      cases holds with
      | idle free same =>
          simp only at free
          simp [updateStep, free] at step
      | @busy _ holder kept held same commits =>
          simp only at held same commits
          subst held
          rcases holder with ⟨caller, change, rest⟩
          cases rest with
          | perform operation next => simp [updateStep] at step
          | finish returned =>
              rcases returned with ⟨after, failure⟩
              simp only [updateStep, Option.some.injEq] at step
              subst step
              rcases commits.finished json path caller with ⟨steps, located⟩
              exact ⟨_, steps, .idle rfl (located.trans same)⟩

theorem Commits.stopped {state : UpdateState} {holder : Holder}
    {kept : Except LoadError ValidOverride}
    (commits : Commits json path state.settings kept holder.change holder.rest state.files)
    (outcomes : List (Outcome String String)) {final : Files}
    (ended : (holder.rest.exec outcomes state.files).1 = final) :
    ∃ next, Register.Steps ⟨kept, some state.settings.override⟩
        (.stopped (some holder.change)) next ∧
      Holds json path (.down final) next := by
  have content : stored json final path = kept ∨
      stored json final path = .ok (state.settings.override.after holder.change) := by
    have meets := commits outcomes
    cases executed : holder.rest.exec outcomes state.files with
    | mk last result =>
        rw [executed] at meets ended
        simp only at ended
        subst ended
        cases result with
        | none => exact meets
        | some returned =>
            rcases returned with ⟨after, failure⟩
            cases failure with
            | some failure => exact .inl meets.2
            | none => exact .inr meets.2
  rcases content with old | new
  · rw [← old]
    exact ⟨_, .stops, .down⟩
  · refine ⟨_, .stopsKept holder.change, ?_⟩
    rw [← new]
    exact .down

private theorem lifetime_steps {lifetime : Lifetime} {register : Register} {input : LifetimeInput}
    (holds : Holds json path lifetime register) {result : StepResult Lifetime LifetimeEvent}
    (step : lifetimeStep json path lifetime input = some result) :
    ∃ next, register.Steps result.observation next ∧
      Holds json path result.nextState next := by
  cases lifetime with
  | down files =>
      cases holds
      cases input with
      | start defaults outcomes =>
          cases loaded : (loadSettings json path defaults).exec outcomes files with
          | mk final returned =>
              cases returned with
              | none =>
                  simp only [lifetimeStep, loaded, Option.some.injEq] at step
                  subst step
                  have meets := loadSettings_meets json files path defaults outcomes
                  rw [loaded] at meets
                  rw [show final = files from meets]
                  exact ⟨_, .stopsAtStart, .down⟩
              | some returned =>
                  rcases returned with ⟨settings, failure⟩
                  simp only [lifetimeStep, loaded, Option.some.injEq] at step
                  subst step
                  rcases started_steps json path loaded with ⟨same, located, steps⟩
                  subst same
                  exact ⟨_, steps, .idle rfl located⟩
      | run input => simp [lifetimeStep] at step
      | stop => simp [lifetimeStep] at step
      | stopInside landed leftover => simp [lifetimeStep] at step
  | up state =>
      cases input with
      | start defaults outcomes => simp [lifetimeStep] at step
      | run input =>
          simp only [lifetimeStep, Option.map_eq_some_iff] at step
          rcases step with ⟨updated, taken, rfl⟩
          exact update_steps json path holds taken
      | stop =>
          simp only [lifetimeStep, Option.some.injEq] at step
          subst step
          cases holds with
          | idle free same => exact ⟨_, .stops, .down⟩
          | @busy _ holder kept held same commits =>
              rw [held]
              exact commits.stopped json path [] (FileProgram.exec_nil _ _)
      | stopInside landed leftover =>
          cases holds with
          | idle free same => simp [lifetimeStep, free] at step
          | @busy _ holder kept held same commits =>
              rcases holder with ⟨caller, change, rest⟩
              cases rest with
              | finish returned => simp [lifetimeStep, held] at step
              | perform operation next =>
                  simp only [lifetimeStep, held, Option.some.injEq] at step
                  subst step
                  exact commits.stopped json path [.stop landed leftover] rfl

/-- The override file and the settings of one process after the other are a
register: whatever runs and stops in which order, and however file operations
end, a change is in both or in none, and none is half made. -/
theorem lifetimes_refine {files : Files} {inputs : List LifetimeInput}
    {history : List LifetimeEvent} {final : Lifetime}
    (runs : (lifetimeMachine json path).Runs (.down files) inputs history final) :
    ∃ register, Path Register.Steps ⟨stored json files path, none⟩ history register ∧
      Holds json path final register := by
  apply runs.refines (Holds json path) .down
  intro lifetime register input result holds _ step
  exact lifetime_steps json path holds step

/-! ## What survives -/

def LifetimeEvent.change? : LifetimeEvent → Option (Change Override)
  | running event => event.change?
  | _ => none

/-- The changes that were made; one that was under way when the process stopped
counts or does not. -/
inductive Landed : List LifetimeEvent → List (Change Override) → Prop
  | start : Landed [] []
  | made {history : List LifetimeEvent} {landed : List (Change Override)}
      {event : LifetimeEvent} {change : Change Override}
      (before : Landed history landed) (made : event.change? = some change) :
      Landed (history ++ [event]) (landed ++ [change])
  | kept {history : List LifetimeEvent} {landed : List (Change Override)}
      (before : Landed history landed) (change : Change ValidOverride) :
      Landed (history ++ [.stopped (some change)]) (landed ++ [rawChange change])
  | silent {history : List LifetimeEvent} {landed : List (Change Override)}
      {event : LifetimeEvent} (before : Landed history landed) (unchanged : event.change? = none) :
      Landed (history ++ [event]) landed

structure Survives (initial : ValidOverride) (history : List LifetimeEvent) (register : Register) :
    Prop where
  kept : ∃ landed override, Landed history landed ∧ register.kept = .ok override ∧
    Layered initial.value landed override.value
  inUse : ∀ override ∈ register.inUse, register.kept = .ok override

/-- A process that has read the file starts with every change that was made before,
in this order, and with no others but changes that were under way when a process
stopped. -/
def StartsWithChanges (initial : ValidOverride) (history : List LifetimeEvent) :
    LifetimeEvent → Prop
  | .started settings _ => ∃ landed, Landed history landed ∧
      Layered initial.value landed settings.override.value
  | _ => True

theorem Survives.step {initial : ValidOverride} {history : List LifetimeEvent}
    {register next : Register} {event : LifetimeEvent}
    (survives : Survives initial history register) (steps : register.Steps event next)
    (reads : ∀ settings text, event ≠ .started settings (some (.read text))) :
    Survives initial (history ++ [event]) next ∧ StartsWithChanges initial history event := by
  rcases survives with ⟨⟨landed, override, counted, kept, layered⟩, inUse⟩
  cases steps with
  | loads same =>
      cases kept
      subst same
      refine ⟨⟨⟨landed, _, counted.silent rfl, rfl, layered⟩, ?_⟩, landed, counted, layered⟩
      intro override member
      cases member
      rfl
  | ignores cause blank =>
      rcases cause with unreadable | ⟨text, rfl⟩
      · cases kept.symm.trans unreadable
      · exact absurd rfl (reads _ text)
  | stopsAtStart => exact ⟨⟨⟨landed, override, counted.silent rfl, kept, layered⟩, inUse⟩, trivial⟩
  | goesOn => exact ⟨⟨⟨landed, override, counted.silent rfl, kept, layered⟩, inUse⟩, trivial⟩
  | refuses => exact ⟨⟨⟨landed, override, counted.silent rfl, kept, layered⟩, inUse⟩, trivial⟩
  | makes change =>
      have same := inUse _ rfl
      simp only at same kept
      rw [kept, Except.ok.injEq] at same
      subst same
      refine ⟨⟨⟨_, _, counted.made rfl, rfl, layered.after change⟩, ?_⟩, trivial⟩
      intro override member
      cases member
      rfl
  | stops =>
      refine ⟨⟨⟨landed, override, counted.silent rfl, kept, layered⟩, ?_⟩, trivial⟩
      intro override member
      cases member
  | stopsKept change =>
      have same := inUse _ rfl
      simp only at same kept
      rw [kept, Except.ok.injEq] at same
      subst same
      refine ⟨⟨⟨_, _, counted.kept change, rfl, layered.after change⟩, ?_⟩, trivial⟩
      intro override member
      cases member

private theorem survives_of_path {initial : ValidOverride} {history : List LifetimeEvent}
    {register : Register} (path : Path Register.Steps ⟨.ok initial, none⟩ history register)
    (reads : ∀ settings text, .started settings (some (.read text)) ∉ history) :
    Survives initial history register ∧ Each (StartsWithChanges initial) history := by
  induction path with
  | start =>
      apply And.intro
      · exact ⟨⟨[], initial, .start, rfl, layered_start _⟩, by simp⟩
      · intro earlier event later split
        simp at split
  | @extend history event register next path steps induction =>
      have before := induction fun settings text member =>
        reads settings text (List.mem_append_left _ member)
      have read (settings : Settings) (text : String) :
          event ≠ .started settings (some (.read text)) := by
        intro same
        subst same
        exact reads settings text (List.mem_append_right _ (List.mem_singleton_self _))
      have step := before.1.step steps read
      exact ⟨step.1, each_concat before.2 step.2⟩

/-- No change that was answered with success is lost, as long as the read of the
file fails at no start: each start, and the file at the end, has them all. The file
is never left in a state that a start would ignore. -/
theorem changes_survive {files : Files} {initial : ValidOverride}
    (readable : stored json files path = .ok initial) {inputs : List LifetimeInput}
    {history : List LifetimeEvent} {final : Lifetime}
    (runs : (lifetimeMachine json path).Runs (.down files) inputs history final)
    (reads : ∀ settings text, .started settings (some (.read text)) ∉ history) :
    Each (StartsWithChanges initial) history ∧
      ∀ files', final = .down files' → ∃ landed override, Landed history landed ∧
        stored json files' path = .ok override ∧ Layered initial.value landed override.value := by
  have refined := runs.refines (Holds json path) .down fun _ _ _ _ holds _ step =>
    lifetime_steps json path holds step
  rcases refined with ⟨register, steps, holds⟩
  rw [readable] at steps
  rcases survives_of_path steps reads with ⟨survives, each⟩
  refine ⟨each, fun files' down => ?_⟩
  subst down
  cases holds
  exact survives.kept

end Lifetimes

/-- Alerting is switched off, and the process stops inside of the renaming that
would switch it on again. -/
def interruptedUpdate : List LifetimeInput :=
  [.start .standard [.succeed]] ++
    ([.call 0 { enabled := some false } false, .lock 0, .perform .succeed, .perform .succeed,
      .perform .succeed, .unlock, .call 1 { enabled := some true } false, .lock 1,
      .perform .succeed, .perform .succeed].map .run) ++
    [.stopInside true none]

theorem changes_survive_interruptedUpdate :
    ∃ (_ : UnicodeTables) (history : List LifetimeEvent) (files : Files)
      (landed : List (Change Override)) (override : ValidOverride),
      (lifetimeMachine sampleJSON "alerts.json").Runs (.down fun _ => none) interruptedUpdate
        history (.down files) ∧
      Landed history landed ∧ stored sampleJSON files "alerts.json" = .ok override ∧
        Layered ValidOverride.empty.value landed override.value := by
  let tables := UnicodeTables.latin
  have runs : ∃ history files,
      (lifetimeMachine sampleJSON "alerts.json").Runs (.down fun _ => none) interruptedUpdate
        history (.down files) ∧
      ∀ settings text, .started settings (some (.read text)) ∉ history :=
    ⟨_, _, (runs_iff_run _).mpr rfl, by simp⟩
  rcases runs with ⟨history, files, runs, reads⟩
  rcases (changes_survive sampleJSON "alerts.json" rfl runs reads).2 files rfl with
    ⟨landed, override, counted, kept, layered⟩
  exact ⟨tables, history, files, landed, override, runs, counted, kept, layered⟩

theorem lifetimes_refine_interruptedUpdate :
    ∃ (_ : UnicodeTables) (history : List LifetimeEvent) (final : Lifetime)
      (register : Register),
      Path Register.Steps ⟨.ok .empty, none⟩ history register ∧
        Holds sampleJSON "alerts.json" final register := by
  let tables := UnicodeTables.latin
  have runs : ∃ history final,
      (lifetimeMachine sampleJSON "alerts.json").Runs (.down fun _ => none) interruptedUpdate
        history final := ⟨_, _, (runs_iff_run _).mpr rfl⟩
  rcases runs with ⟨history, final, runs⟩
  rcases lifetimes_refine sampleJSON "alerts.json" runs with ⟨register, path, holds⟩
  exact ⟨tables, history, final, register, path, holds⟩

end StarLens.Alert
