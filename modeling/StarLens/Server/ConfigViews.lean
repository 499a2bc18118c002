import StarLens.Server.ApplyRuns
import StarLens.Server.Secrecy

/-! # Views of the configuration

A view is put together from two reads, `Effective` and `Overridden`, each with
the lock held only for itself. Whether the two tell of the same settings
depends on what is updated in between. -/

namespace StarLens.Server

open Alert Api Foundation Go Service

def viewOf? (response : Response) : Option AlertConfigView :=
  match response.body with
  | .config shown => some shown
  | _ => none

def Next.view? : Next → Option AlertConfigView
  | .phase _ => none
  | .respond response => viewOf? response

section ConfigViews

variable [UnicodeTables]

/-- What the two reads of `view` give in one state of the settings. -/
def snapshot (editable : Bool) (settings : Settings) : AlertConfigView :=
  view editable settings.effective settings.overridden

/-- An `Update` that is kept either leaves the list of overridden fields as it
is, or makes effective what every request between its two reads has read. -/
def KeepsViews (json : JSONText) (state : ServerState) : Input → Prop
  | .advance id environment => ∀ patch reset files settings,
      state.requests id = some (.update patch reset) →
      (state.shared.settings.update json patch reset).exec environment.files
        state.shared.files = (files, some (settings, none)) →
      ∀ other config, state.requests other = some (.readOverridden config) →
        settings.overridden = state.shared.settings.overridden ∨
          config.Alike settings.effective
  | _ => True

variable (json : JSONText) (editable : Bool)

structure Reads (phase : Phase) (environment : Environment) (shared : Shared)
    (after : Shared × Next) : Prop where
  settings : after.1.settings = shared.settings ∨
    ∃ patch reset files, phase = .update patch reset ∧
      (shared.settings.update json patch reset).exec environment.files shared.files =
        (files, some (after.1.settings, none))
  read : ∀ config, after.2 = .phase (.readOverridden config) →
    phase = .readView ∧ config = shared.settings.effective
  shown : ∀ shown, after.2.view? = some shown →
    ∃ config, phase = .readOverridden config ∧
      shown = view editable config shared.settings.overridden

theorem Reads.idle {phase : Phase} {environment : Environment} {shared : Shared}
    {after : Shared × Next} (settings : after.1.settings = shared.settings)
    (read : ∀ config, after.2 ≠ .phase (.readOverridden config)) (silent : after.2.view? = none) :
    Reads json editable phase environment shared after where
  settings := .inl settings
  read config same := absurd same (read config)
  shown shown same := by simp [silent] at same

variable {json : JSONText} {client : HTTPClient} {editable : Bool}

theorem Phase.advance_reads {phase : Phase} {environment : Environment} {shared : Shared}
    {after : Shared × Next}
    (advanced : phase.advance json client editable environment shared = some after) :
    Reads json editable phase environment shared after := by
  cases phase with
  | update patch reset =>
      rw [advance] at advanced
      split at advanced
      case h_1 files settings returned =>
          cases advanced
          exact ⟨.inr ⟨patch, reset, files, rfl, returned⟩, by simp, by simp [Next.view?]⟩
      case h_2 files settings failure returned =>
          cases advanced
          rcases update_error json returned with ⟨same, -⟩
          apply Reads.idle json editable same (by simp)
          cases failure <;> rfl
      case h_3 => simp at advanced
  | apply component config =>
      rw [advance] at advanced
      split at advanced
      case h_1 text failed =>
          cases advanced
          exact .idle json editable rfl (by simp) rfl
      case h_2 live applied =>
          split at advanced <;>
            (cases advanced; exact .idle json editable rfl (by simp) rfl)
  | readView =>
      cases advanced
      refine ⟨.inl rfl, fun config read => ?_, by simp [Next.view?]⟩
      cases read
      exact ⟨rfl, rfl⟩
  | readOverridden config =>
      cases advanced
      refine ⟨.inl rfl, by simp, fun shown same => ?_⟩
      cases same
      exact ⟨config, rfl, rfl⟩
  | deliverTest alert channels =>
      simp only [advance, Option.map_eq_some_iff] at advanced
      rcases advanced with ⟨results, -, rfl⟩
      exact .idle json editable rfl (by simp) rfl
  | _ =>
      cases advanced
      exact .idle json editable rfl (by simp) rfl

omit [UnicodeTables] in
theorem Request.begin_reads (editable : Bool) (request : Request) :
    (∀ config, request.begin editable ≠ .phase (.readOverridden config)) ∧
      (request.begin editable).view? = none := by
  cases request with
  | putConfig body =>
      simp only [begin]
      split
      · exact ⟨by simp, rfl⟩
      · split <;> exact ⟨by simp, rfl⟩
  | _ => exact ⟨by simp [begin], rfl⟩

/-! ## Runs -/

def IsSnapshot (editable : Bool) (states : List ServerState) (shown : AlertConfigView) : Prop :=
  ∃ passed ∈ states, shown = snapshot editable passed.shared.settings

theorem IsSnapshot.extend {states : List ServerState} {shown : AlertConfigView}
    (whole : IsSnapshot editable states shown) (state : ServerState) :
    IsSnapshot editable (states ++ [state]) shown := by
  rcases whole with ⟨passed, member, same⟩
  exact ⟨passed, List.mem_append_left _ member, same⟩

/-- Every view that was shown is a snapshot of a state that was passed, and so
is every view that would be shown now by a request between its two reads. -/
structure Whole (editable : Bool) (states : List ServerState) (events : List Event)
    (state : ServerState) : Prop where
  pending : ∀ id config, state.requests id = some (.readOverridden config) →
    IsSnapshot editable states (view editable config state.shared.settings.overridden)
  shown : ∀ id response shown, .responded id response ∈ events → viewOf? response = some shown →
    IsSnapshot editable states shown

theorem Whole.proceed {states : List ServerState} {events : List Event} {state : ServerState}
    (whole : Whole editable states events state) {id : Nat} {shared : Shared} {next : Next}
    (pending : ∀ other config, other ≠ id →
      state.requests other = some (.readOverridden config) →
      shared.settings.overridden = state.shared.settings.overridden ∨
        config.Alike shared.settings.effective)
    (read : ∀ config, next = .phase (.readOverridden config) →
      config = shared.settings.effective)
    (shown : ∀ shown, next.view? = some shown → IsSnapshot editable states shown) :
    Whole editable (states ++ [(state.proceed id shared next).nextState])
      (events ++ [(state.proceed id shared next).observation])
      (state.proceed id shared next).nextState := by
  have current : IsSnapshot editable (states ++ [(state.proceed id shared next).nextState])
      (snapshot editable shared.settings) :=
    ⟨_, List.mem_append_right _ List.mem_cons_self, by rw [ServerState.proceed_shared]⟩
  constructor
  · intro request config running
    rw [ServerState.proceed_shared]
    rcases ServerState.proceed_phase running with new | ⟨different, earlier⟩
    · rw [read config new]
      exact current
    · rcases pending request config different earlier with same | alike
      · rw [same]
        exact (whole.pending request config earlier).extend _
      · rw [view_alike editable alike]
        exact current
  · intro request response view answered shows
    rw [List.mem_append, List.mem_singleton] at answered
    rcases answered with before | now
    · exact (whole.shown request response view before shows).extend _
    · have next := ServerState.proceed_answered now.symm
      exact (shown view (by rw [next, Next.view?, shows])).extend _

theorem Whole.step {states : List ServerState} {events : List Event} {state : ServerState}
    (whole : Whole editable states events state) {input : Input}
    (keeps : KeepsViews json state input) {result : StepResult ServerState Event}
    (step : serverStep json client editable state input = some result) :
    Whole editable (states ++ [result.nextState]) (events ++ [result.observation])
      result.nextState := by
  cases serverStep_steps json client editable step with
  | @arrive id request idle =>
      have begins := request.begin_reads editable
      refine whole.proceed (fun _ _ _ _ => .inl rfl) ?_ ?_
      · exact fun config same => absurd same (begins.1 config)
      · intro shown same
        simp [begins.2] at same
  | @advance id environment phase after running advanced =>
      have reads := Phase.advance_reads advanced
      apply whole.proceed
      · intro other config _ waiting
        rcases reads.settings with same | ⟨patch, reset, files, updates, returned⟩
        · exact .inl (by rw [same])
        · exact keeps patch reset files after.1.settings (by rw [running, updates]) returned other
            config waiting
      · intro config same
        rcases reads.read config same with ⟨rfl, rfl⟩
        cases advanced
        rfl
      · intro shown same
        rcases reads.shown shown same with ⟨config, rfl, rfl⟩
        exact whole.pending id config running
  | dispatch =>
      constructor
      · intro id config waiting
        exact (whole.pending id config waiting).extend _
      · intro id response shown answered shows
        rw [List.mem_append, List.mem_singleton] at answered
        rcases answered with before | now
        · exact (whole.shown id response shown before shows).extend _
        · cases now

/-- When no update comes between the two reads of a view and changes what both
of them give, every view shown is a snapshot of one state of the settings. -/
theorem views_are_snapshots {settings : Settings} {files : Files} {start : ServerState}
    (booted : boot settings files = .ok start) {inputs : List Input} {events : List Event}
    {state : ServerState}
    (runs : (serverMachine json client editable).RunsWithin (KeepsViews json) start inputs events
      state)
    {id : Nat} {response : Response} {shown : AlertConfigView}
    (answered : .responded id response ∈ events) (body : response.body = .config shown) :
    ∃ passed ∈ (serverMachine json client editable).passed start inputs,
      shown = view editable passed.shared.settings.effective
        passed.shared.settings.overridden := by
  rcases boot_ok booted with ⟨live, -, rfl⟩
  have whole := runs.passed_invariant (Whole editable)
    ⟨by simp, by simp⟩
    fun _ _ _ _ _ whole keeps step => whole.step keeps step
  exact whole.shown id response shown answered (by rw [viewOf?, body])

end ConfigViews

/-! ## A view and an update -/

def between (lag : Int64) : List Input :=
  [.arrive 0 .getConfig, .advance 0 {}, .arrive 1 (.putConfig (.ok (lagPatch lag, false))),
    .advance 1 { files := [.succeed, .succeed, .succeed] }, .advance 0 {}]

/-- The old value with the new list: the field is shown as overridden by the
environment's value. -/
theorem view_torn_by_update :
    ∃ (_ : UnicodeTables) (start state : ServerState) (events : List Event) (response : Response)
      (shown : AlertConfigView),
      boot (sampleSettings .standard) (fun _ => none) = .ok start ∧
      (serverMachine sampleJSON sampleClient true).Runs start (between 5) events state ∧
      .responded 0 response ∈ events ∧ response.body = .config shown ∧
      shown.config.maxJournalLag = 1000 ∧ shown.overridden = ["maxJournalLag"] ∧
      ∀ passed ∈ (serverMachine sampleJSON sampleClient true).passed start (between 5),
        shown ≠ view true passed.shared.settings.effective passed.shared.settings.overridden := by
  let tables := UnicodeTables.latin
  refine ⟨tables, _, _, _, _, _, rfl, (Machine.runs_iff_run _).mpr rfl,
    .tail _ (.tail _ (.tail _ (.tail _ (.head _)))), rfl, rfl, rfl, ?_⟩
  intro passed member same
  let read (state : ServerState) : Int64 × List String :=
    (state.shared.settings.effective.maxJournalLag, state.shared.settings.overridden)
  have torn : (1000, ["maxJournalLag"]) = read passed :=
    congrArg (fun shown => (shown.config.maxJournalLag, shown.overridden)) same
  have whole := List.mem_map_of_mem (f := read) member
  rw [← torn] at whole
  change (1000, ["maxJournalLag"]) ∈ [(1000, []), (1000, []), (1000, []), (1000, []),
    ((5 : Int64), ["maxJournalLag"]), (5, ["maxJournalLag"])] at whole
  revert whole
  decide

/-- An update that says what is effective already. -/
theorem views_are_snapshots_between :
    ∃ (_ : UnicodeTables) (start state : ServerState) (events : List Event) (response : Response)
      (shown : AlertConfigView),
      boot (sampleSettings .standard) (fun _ => none) = .ok start ∧
      (serverMachine sampleJSON sampleClient true).Runs start (between 1000) events state ∧
      .responded 0 response ∈ events ∧ response.body = .config shown ∧
      ∃ passed ∈ (serverMachine sampleJSON sampleClient true).passed start (between 1000),
        shown = view true passed.shared.settings.effective passed.shared.settings.overridden := by
  let tables := UnicodeTables.latin
  have executed : ∃ (start state : ServerState) (events : List Event) (response : Response)
      (shown : AlertConfigView),
      boot (sampleSettings .standard) (fun _ => none) = .ok start ∧
      (serverMachine sampleJSON sampleClient true).run start (between 1000) =
        some (events, state) ∧
      .responded 0 response ∈ events ∧ response.body = .config shown ∧
      (serverMachine sampleJSON sampleClient true).Demands (KeepsViews sampleJSON) start
        (between 1000) := by
    refine ⟨_, _, _, _, _, rfl, rfl, .tail _ (.tail _ (.tail _ (.tail _ (.head _)))), rfl, ?_⟩
    refine And.intro trivial (And.intro ?_ (And.intro trivial (And.intro ?_
      (And.intro ?_ trivial))))
    · intro patch reset files settings running
      cases running
    · intro patch reset files settings running returned other config waiting
      cases running
      rcases update_ok sampleJSON returned with ⟨⟨value, valid⟩, validated, rfl, -⟩
      cases Override.validated_eq_ok_iff.mp validated
      rcases other with _ | _ | other
      · cases waiting
        exact .inr ⟨_, .inl rfl, rfl⟩
      · cases waiting
      · cases waiting
    · intro patch reset files settings running
      cases running
  rcases executed with ⟨start, state, events, response, shown, booted, executed, answered, body,
    demands⟩
  have runs := Machine.runsWithin_of_run _ .start executed demands
  exact ⟨tables, start, state, events, response, shown, booted, runs.runs, answered, body,
    views_are_snapshots booted runs answered body⟩

end StarLens.Server
