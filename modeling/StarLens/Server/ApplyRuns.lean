import StarLens.Server.Requests

/-! # Requests and the running components

Reading the effective configuration and applying it are steps of their own, so
a request may apply a configuration that another one has replaced. This counts
when no request is left that sets the component again. -/

namespace StarLens.Server

open Alert Api Foundation Go Service

def Phase.ahead : Phase → List Component
  | effective => Component.onward .cooldown
  | apply component _ => component.onward
  | _ => []

def Next.ahead : Next → List Component
  | .phase rest => rest.ahead
  | .respond _ => []

section ApplyRuns

variable [UnicodeTables]

def ServerState.SetsLater (state : ServerState) (id : Nat) (component : Component) : Prop :=
  ∃ other phase, other ≠ id ∧ state.requests other = some phase ∧ component ∈ phase.ahead

/-- The step sets no component to a value that has been replaced, unless
another request is going to set it. -/
def NotStale (state : ServerState) : Input → Prop
  | .advance id _ => ∀ component config, state.requests id = some (.apply component config) →
      component.wanted config = component.wanted state.shared.settings.effective ∨
        state.SetsLater id component
  | _ => True

/-- A component has its effective value, or a request is going to set it. -/
structure Followed (state : ServerState) : Prop where
  known : KnownFormat state.shared.settings.defaults.webhookFormat
  snapshots : ∀ id component config, state.requests id = some (.apply component config) →
    KnownFormat config.webhookFormat
  live : ∀ component : Component,
    component.current state.shared.live = component.wanted state.shared.settings.effective ∨
      ∃ id phase, state.requests id = some phase ∧ component ∈ phase.ahead

variable {json : JSONText} {client : HTTPClient} {editable : Bool}

/-- What one step of a handler means for a component: the handler is still
going to set it, has set it to the value of its snapshot, or has nothing to do
with it. -/
structure Progress (phase : Phase) (shared : Shared) (after : Shared × Next) : Prop where
  known : after.1.settings.defaults = shared.settings.defaults
  snapshot : ∀ component config, after.2 = .phase (.apply component config) →
    KnownFormat config.webhookFormat
  component : ∀ component,
    component ∈ after.2.ahead ∨
      after.1.settings = shared.settings ∧
        ((∃ config, phase = .apply component config ∧
            component.current after.1.live = component.wanted config) ∨
          component ∉ phase.ahead ∧ component.current after.1.live = component.current shared.live)

theorem Progress.idle {phase : Phase} {shared : Shared} {after : Shared × Next}
    (settings : after.1.settings = shared.settings)
    (live : ∀ component : Component,
      component.current after.1.live = component.current shared.live)
    (idle : phase.ahead = [])
    (next : ∀ component config, after.2 ≠ .phase (.apply component config)) :
    Progress phase shared after where
  known := by rw [settings]
  snapshot component config same := absurd same (next component config)
  component component := .inr ⟨settings, .inr ⟨by simp [idle], live component⟩⟩

theorem Phase.advance_progress {phase : Phase} {environment : Environment} {shared : Shared}
    {after : Shared × Next}
    (advanced : phase.advance json client editable environment shared = some after)
    (defaults : KnownFormat shared.settings.defaults.webhookFormat)
    (snapshot : ∀ component config, phase = .apply component config →
      KnownFormat config.webhookFormat) : Progress phase shared after := by
  cases phase with
  | update patch reset =>
      rcases advance_update json client editable advanced with
        ⟨live, ⟨next, override, settings⟩ | ⟨⟨failure, next⟩, settings⟩⟩
      · refine ⟨by rw [settings], ?_, fun component => .inl ?_⟩
        · simp [next]
        · rw [next]
          exact Component.mem_onward_cooldown component
      · exact .idle settings (fun component => by rw [live]) rfl (by simp [next])
  | effective =>
      cases advanced
      refine ⟨rfl, ?_, fun component => .inl (Component.mem_onward_cooldown component)⟩
      intro _ _ same
      cases same
      exact Settings.effective_knownFormat defaults
  | apply first config =>
      have known := snapshot first config rfl
      rcases advance_apply json client editable advanced known with ⟨live, set, shared', next⟩
      have sets := Component.set_ok set
      refine ⟨by rw [shared'], ?_, fun component => ?_⟩
      · intro component other same
        rw [next] at same
        cases follows : first.next with
        | none => simp [follows] at same
        | some second =>
            simp only [follows, Option.elim_some, Next.phase.injEq, apply.injEq] at same
            rw [← same.2]
            exact known
      · have ahead : after.2.ahead = first.next.elim [] Component.onward := by
          rw [next]
          cases first <;> rfl
        rw [ahead, shared']
        by_cases here : component = first
        · subst here
          exact .inr ⟨rfl, .inl ⟨config, rfl, by simpa using sets component⟩⟩
        · by_cases member : component ∈ first.next.elim [] Component.onward
          · exact .inl member
          · refine .inr ⟨rfl, .inr ⟨?_, by simpa [here] using sets component⟩⟩
            rw [Phase.ahead, Component.onward_eq, List.mem_cons]
            exact not_or.mpr ⟨here, member⟩
  | recordTest alert =>
      cases advanced
      exact .idle rfl (fun component => by cases component <;> rfl) rfl (by simp)
  | deliverTest alert channels =>
      simp only [advance, Option.map_eq_some_iff] at advanced
      rcases advanced with ⟨results, -, rfl⟩
      exact .idle rfl (fun _ => rfl) rfl (by simp)
  | _ =>
      cases advanced
      exact .idle rfl (fun _ => rfl) rfl (by simp)

/-! ## Runs -/

omit [UnicodeTables] in
theorem Request.begin_ahead (editable : Bool) (request : Request) :
    (request.begin editable).ahead = [] ∧
      ∀ component config, request.begin editable ≠ .phase (.apply component config) := by
  cases request with
  | putConfig body =>
      simp only [begin]
      split
      · exact ⟨rfl, by simp⟩
      · split <;> exact ⟨rfl, by simp⟩
  | _ => exact ⟨rfl, by simp [begin]⟩

private theorem proceed_ahead {state : ServerState} {id : Nat} {shared : Shared} {next : Next}
    {component : Component} :
    (∃ request phase,
        (state.proceed id shared next).nextState.requests request = some phase ∧
          component ∈ phase.ahead) ↔
      component ∈ next.ahead ∨ state.SetsLater id component := by
  constructor
  · intro later
    rcases later with ⟨request, phase, running, member⟩
    rcases ServerState.proceed_phase running with rfl | ⟨different, earlier⟩
    · exact .inl member
    · exact .inr ⟨request, phase, different, earlier, member⟩
  · intro later
    rw [ServerState.proceed_requests]
    rcases later with member | ⟨other, phase, different, running, member⟩
    · cases next with
      | phase rest => exact ⟨id, rest, Function.update_self .., member⟩
      | respond response => simp [Next.ahead] at member
    · exact ⟨other, phase, by rw [Function.update_of_ne different, running], member⟩

structure Applicable (state : ServerState) : Prop where
  known : KnownFormat state.shared.settings.defaults.webhookFormat
  snapshots : ∀ id component config, state.requests id = some (.apply component config) →
    KnownFormat config.webhookFormat

theorem Followed.applicable {state : ServerState} (followed : Followed state) :
    Applicable state :=
  ⟨followed.known, followed.snapshots⟩

theorem Applicable.proceed {state : ServerState} (applicable : Applicable state) {id : Nat}
    {shared : Shared} {next : Next}
    (defaults : shared.settings.defaults = state.shared.settings.defaults)
    (snapshot : ∀ component config, next = .phase (.apply component config) →
      KnownFormat config.webhookFormat) :
    Applicable (state.proceed id shared next).nextState := by
  constructor
  · rw [ServerState.proceed_shared, defaults]
    exact applicable.known
  · intro other component config held
    rcases ServerState.proceed_phase held with new | ⟨-, earlier⟩
    · exact snapshot component config new
    · exact applicable.snapshots other component config earlier

theorem Applicable.step {state : ServerState} (applicable : Applicable state) {input : Input}
    {result : StepResult ServerState Event}
    (step : serverStep json client editable state input = some result) :
    Applicable result.nextState := by
  cases serverStep_steps json client editable step with
  | @arrive id request idle =>
      have begins := Request.begin_ahead editable request
      exact applicable.proceed rfl fun component config new =>
        absurd new (begins.2 component config)
  | @advance id environment phase after running advanced =>
      have progress := Phase.advance_progress advanced applicable.known
        fun component config same =>
          applicable.snapshots id component config (by rw [running, same])
      exact applicable.proceed progress.known progress.snapshot
  | dispatch => exact ⟨applicable.known, applicable.snapshots⟩

theorem Followed.elsewhere {state : ServerState} (followed : Followed state) {id : Nat}
    {component : Component}
    (notAhead : ∀ phase, state.requests id = some phase → component ∉ phase.ahead) :
    component.current state.shared.live = component.wanted state.shared.settings.effective ∨
      state.SetsLater id component := by
  rcases followed.live component with current | ⟨other, phase, held, member⟩
  · exact .inl current
  · refine .inr ⟨other, phase, ?_, held, member⟩
    intro same
    subst same
    exact notAhead phase held member

theorem Followed.proceed {state : ServerState} {id : Nat} {shared : Shared} {next : Next}
    (applicable : Applicable (state.proceed id shared next).nextState)
    (live : ∀ component : Component,
      component.current shared.live = component.wanted shared.settings.effective ∨
        component ∈ next.ahead ∨ state.SetsLater id component) :
    Followed (state.proceed id shared next).nextState := by
  refine ⟨applicable.known, applicable.snapshots, fun component => ?_⟩
  rw [ServerState.proceed_shared, proceed_ahead]
  exact live component

omit [UnicodeTables] in
private theorem current_dispatch (component : Component) (live : Live) (clock : Nat → Time)
    (alert : Alert) :
    component.current { live with manager := (live.manager.dispatch clock alert).manager } =
      component.current live := by
  rcases live.manager.dispatch_cases clock alert with
    ⟨last, -, -, dispatched⟩ | ⟨reading, -, dispatched⟩
  · rw [dispatched]
  · rw [dispatched]
    cases component <;> rfl

theorem Followed.step {state : ServerState} (followed : Followed state) {input : Input}
    (fresh : NotStale state input) {result : StepResult ServerState Event}
    (step : serverStep json client editable state input = some result) :
    Followed result.nextState := by
  have applicable := followed.applicable.step step
  cases serverStep_steps json client editable step with
  | @arrive id request idle =>
      apply Followed.proceed applicable
      intro component
      exact (followed.elsewhere (by simp [idle])).imp_right .inr
  | @advance id environment phase after running advanced =>
      have progress := Phase.advance_progress advanced followed.known
        fun component config same => followed.snapshots id component config (by rw [running, same])
      apply Followed.proceed applicable
      intro component
      rcases progress.component component with
        later | ⟨settings, ⟨config, applied, value⟩ | ⟨notAhead, value⟩⟩
      · exact .inr (.inl later)
      · -- the value set last is current, or another request sets it again
        rw [settings, value]
        exact (fresh component config (by rw [running, applied])).imp_right .inr
      · rw [settings, value]
        refine (followed.elsewhere fun held same => ?_).imp_right .inr
        rw [running, Option.some.injEq] at same
        exact same ▸ notAhead
  | @dispatch alert environment =>
      refine ⟨followed.known, followed.snapshots, fun component => ?_⟩
      rw [current_dispatch]
      exact followed.live component

/-- When no step applies a replaced value for good, the running components
have the effective configuration whenever no request is being served. -/
theorem live_follows_settings {settings : Settings} {files : Files} {start : ServerState}
    (known : KnownFormat settings.defaults.webhookFormat)
    (booted : boot settings files = .ok start)
    {inputs : List Input} {events : List Event} {state : ServerState}
    (runs : (serverMachine json client editable).RunsWithin NotStale start inputs events state)
    (returned : ∀ id, state.requests id = none) (component : Component) :
    component.current state.shared.live = component.wanted state.shared.settings.effective := by
  rcases boot_ok booted with ⟨live, applied, rfl⟩
  have followed := runs.invariant Followed
    ⟨known, by simp, fun component => .inl (applyAlertConfig_ok applied component)⟩
    fun _ _ _ followed fresh step => followed.step fresh step
  rcases followed.live component with current | ⟨id, phase, held, -⟩
  · exact current
  · simp [returned id] at held

private theorem requests_none {start state : ServerState} {inputs : List Input}
    {events : List Event}
    (runs : (serverMachine json client editable).Runs start inputs events state)
    {id : Nat} (idle : start.requests id = none)
    (absent : ∀ request, Input.arrive id request ∉ inputs) : state.requests id = none := by
  have within : (serverMachine json client editable).RunsWithin
      (fun _ input => ∀ request, input ≠ .arrive id request) start inputs events state :=
    runs.of_runs fun _ input member request same => absent request (same ▸ member)
  apply within.invariant (fun state => state.requests id = none) idle
  intro state input result idle other step
  cases serverStep_steps json client editable step with
  | @arrive request asked _ =>
      have different : id ≠ request := fun same => other asked (same ▸ rfl)
      rw [ServerState.proceed_requests, Function.update_of_ne different, idle]
  | @advance request environment phase after running _ =>
      have different : id ≠ request := by
        intro same
        subst same
        simp [idle] at running
      rw [ServerState.proceed_requests, Function.update_of_ne different, idle]
  | dispatch => exact idle

end ApplyRuns

/-! ## Two overlapping requests -/

def lagPatch (lag : Int64) : Override := { maxJournalLag := some lag }

/-- The second request is served in full between the first one's reading and
its application. -/
def overlapping : List Input :=
  [.arrive 0 (.putConfig (.ok (lagPatch 1, false))),
    .arrive 1 (.putConfig (.ok (lagPatch 2, false)))] ++
  ((putSteps 0).take 2 ++ (putSteps 1 ++ (putSteps 0).drop 2))

theorem live_stale_after_overlap :
    ∃ (_ : UnicodeTables) (start : ServerState) (events : List Event) (state : ServerState),
      boot (sampleSettings .standard) (fun _ => none) = .ok start ∧
      (serverMachine sampleJSON sampleClient true).Runs start overlapping events state ∧
      (∀ id, state.requests id = none) ∧
      state.shared.settings.effective.maxJournalLag = 2 ∧
      state.shared.live.clusterPolicy.maxJournalLag = 1 := by
  let tables := UnicodeTables.latin
  have executed : ∃ (start : ServerState) (events : List Event) (state : ServerState),
      boot (sampleSettings .standard) (fun _ => none) = .ok start ∧
      (serverMachine sampleJSON sampleClient true).Runs start overlapping events state ∧
      (start.requests = fun _ => none) ∧ state.requests 0 = none ∧ state.requests 1 = none ∧
      state.shared.settings.effective.maxJournalLag = 2 ∧
      state.shared.live.clusterPolicy.maxJournalLag = 1 :=
    ⟨_, _, _, rfl, (Machine.runs_iff_run _).mpr rfl, rfl, rfl, rfl, rfl, rfl⟩
  rcases executed with
    ⟨start, events, state, booted, runs, idle, first, second, effective, live⟩
  refine ⟨tables, start, events, state, booted, runs, fun id => ?_, effective, live⟩
  by_cases one : id = 0
  · rw [one, first]
  · by_cases two : id = 1
    · rw [two, second]
    · apply requests_none runs (by rw [idle])
      intro request
      simp [overlapping, putSteps, Ne.symm, one, two]

/-- The first request applies what the second one has replaced, before the second
one has read the configuration. -/
def mended : List Input :=
  [.arrive 0 (.putConfig (.ok (lagPatch 1, false))),
    .arrive 1 (.putConfig (.ok (lagPatch 2, false)))] ++
  ((putSteps 0).take 2 ++ ((putSteps 1).take 1 ++ ((putSteps 0).drop 2 ++ (putSteps 1).drop 1)))

theorem live_follows_settings_mended :
    ∃ (_ : UnicodeTables) (start : ServerState) (events : List Event) (state : ServerState),
      boot (sampleSettings .standard) (fun _ => none) = .ok start ∧
      (serverMachine sampleJSON sampleClient true).RunsWithin NotStale start mended events state ∧
      state.shared.settings.effective.maxJournalLag = 2 ∧
      ∀ component : Component, component.current state.shared.live =
        component.wanted state.shared.settings.effective := by
  let tables := UnicodeTables.latin
  have executed : ∃ (start : ServerState) (events : List Event) (state : ServerState),
      boot (sampleSettings .standard) (fun _ => none) = .ok start ∧
      (serverMachine sampleJSON sampleClient true).run start mended = some (events, state) ∧
      (serverMachine sampleJSON sampleClient true).Demands NotStale start mended ∧
      (start.requests = fun _ => none) ∧ state.requests 0 = none ∧ state.requests 1 = none ∧
      state.shared.settings.effective.maxJournalLag = 2 := by
    refine ⟨_, _, _, rfl, rfl, ?_, rfl, rfl, rfl, rfl⟩
    iterate 2 refine And.intro trivial ?_
    -- Both requests have updated the settings, and the first one has read them.
    iterate 3
      refine And.intro (fun component config held => ?_) ?_
      · cases held
    -- It applies them, while the second request is going to read them.
    iterate 4
      refine And.intro (fun component config held => ?_) ?_
      · cases held
        exact .inr ⟨1, .effective, by decide, rfl, by decide⟩
    iterate 3
      refine And.intro (fun component config held => ?_) ?_
      · cases held
    iterate 4
      refine And.intro (fun component config held => ?_) ?_
      · cases held
        exact .inl rfl
    iterate 2
      refine And.intro (fun component config held => ?_) ?_
      · cases held
    trivial
  rcases executed with
    ⟨start, events, state, booted, executed, demands, idle, first, second, effective⟩
  have runs := Machine.runsWithin_of_run _ .start executed demands
  refine ⟨tables, start, events, state, booted, runs, effective, ?_⟩
  apply live_follows_settings (.inl rfl) booted runs
  intro id
  by_cases one : id = 0
  · rw [one, first]
  · by_cases two : id = 1
    · rw [two, second]
    · apply requests_none runs.runs (by rw [idle])
      intro request
      simp [mended, putSteps, Ne.symm, one, two]

end StarLens.Server
