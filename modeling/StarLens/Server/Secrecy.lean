import StarLens.Alert.WebhookSecret
import StarLens.Server.Requests

/-! # The secret of the webhook

Two runs that differ in the secret part of webhook URLs, on servers that do so,
answer every request alike. The error of a failed delivery is what carries a
URL into a response. -/

namespace StarLens.Server

open Alert Api Foundation FileProgram Go Service

/-! ## Components -/

def ManagersAlike (manager manager' : Manager Notifier) : Prop :=
  ∃ notifiers' webhook', List.Forall₂ Notifier.Alike manager.notifiers notifiers' ∧
    Option.Rel Notifier.Alike manager.webhook webhook' ∧
    manager' = { manager with notifiers := notifiers', webhook := webhook' }

theorem ManagersAlike.channels {manager manager' : Manager Notifier}
    (alike : ManagersAlike manager manager') :
    List.Forall₂ Notifier.Alike manager.channels manager'.channels := by
  rcases alike with ⟨notifiers', webhook', notifiers, webhook, rfl⟩
  apply List.rel_append notifiers
  simp only
  generalize manager.webhook = channel at webhook
  cases webhook with
  | none => exact .nil
  | some same => exact .cons same .nil

theorem ManagersAlike.recent {manager manager' : Manager Notifier}
    (alike : ManagersAlike manager manager') : manager'.recent = manager.recent := by
  rcases alike with ⟨notifiers', webhook', -, -, rfl⟩
  rfl

theorem ManagersAlike.remember {manager manager' : Manager Notifier}
    (alike : ManagersAlike manager manager') (alert : Alert) :
    ManagersAlike (manager.remember alert) (manager'.remember alert) := by
  rcases alike with ⟨notifiers', webhook', notifiers, webhook, rfl⟩
  exact ⟨notifiers', webhook', notifiers, webhook, rfl⟩

theorem ManagersAlike.dispatch {manager manager' : Manager Notifier}
    (alike : ManagersAlike manager manager') (clock : Nat → Time) (alert : Alert) :
    ManagersAlike (manager.dispatch clock alert).manager
      (manager'.dispatch clock alert).manager := by
  rcases alike with ⟨notifiers', webhook', notifiers, webhook, rfl⟩
  simp only [Manager.dispatch]
  split
  · split <;> exact ⟨notifiers', webhook', notifiers, webhook, rfl⟩
  · exact ⟨notifiers', webhook', notifiers, webhook, rfl⟩

def LivesAlike (live live' : Live) : Prop :=
  ∃ manager', ManagersAlike live.manager manager' ∧ live' = { live with manager := manager' }

private theorem newLive_alike {config config' : Config} (alike : config.Alike config') :
    LivesAlike (newLive config) (newLive config') := by
  rcases alike with ⟨url', -, rfl⟩
  exact ⟨_, ⟨_, _, .cons .log .nil, .none, rfl⟩, rfl⟩

inductive ExceptAlike {Result : Type} (alike : Result → Result → Prop) :
    Except String Result → Except String Result → Prop
  | error (text) : ExceptAlike alike (.error text) (.error text)
  | ok {result result'} : alike result result' → ExceptAlike alike (.ok result) (.ok result')

section Components

variable [UnicodeTables]

private theorem setWebhook_alike {live live' : Live} {config config' : Config}
    (lives : LivesAlike live live') (configs : config.Alike config') :
    ExceptAlike LivesAlike (live.setWebhook config) (live'.setWebhook config') := by
  rcases lives with ⟨_, ⟨notifiers', webhook', notifiers, webhook, rfl⟩, rfl⟩
  rcases configs with ⟨url', same, rfl⟩
  simp only [Live.setWebhook, ← same.empty_iff]
  split
  case isTrue empty => exact .ok ⟨_, ⟨_, _, notifiers, .none, rfl⟩, rfl⟩
  case isFalse present =>
      have present' : url' ≠ "" := fun empty => present (same.empty_iff.mpr empty)
      simp only [newWebhookNotifier, present, present', if_false]
      by_cases unknown : config.webhookFormat != webhookFormatGeneric &&
          config.webhookFormat != webhookFormatSlack
      · simp only [unknown, if_true]
        exact .error _
      · simp only [unknown, Bool.false_eq_true, if_false]
        exact .ok ⟨_, ⟨_, _, notifiers, .some (.webhook _ same), rfl⟩, rfl⟩

theorem Component.set_alike {live live' : Live} {config config' : Config}
    (lives : LivesAlike live live') (configs : config.Alike config') (component : Component) :
    ExceptAlike LivesAlike (component.set live config) (component.set live' config') := by
  cases component with
  | webhook => exact setWebhook_alike lives configs
  | cooldown | loadPolicy | clusterPolicy =>
      rcases lives with ⟨_, ⟨notifiers', webhook', notifiers, webhook, rfl⟩, rfl⟩
      rcases configs with ⟨url', same, rfl⟩
      exact .ok ⟨_, ⟨_, _, notifiers, webhook, rfl⟩, rfl⟩

private theorem applyAlertConfig_alike {live live' : Live} {config config' : Config}
    (lives : LivesAlike live live') (configs : config.Alike config') :
    ExceptAlike LivesAlike (applyAlertConfig live config) (applyAlertConfig live' config') := by
  rw [applyAlertConfig_eq, applyAlertConfig_eq]
  generalize Component.onward .cooldown = components
  induction components generalizing live live' with
  | nil => exact .ok lives
  | cons component components induction =>
      have sets := component.set_alike lives configs
      rw [List.foldlM_cons, List.foldlM_cons]
      generalize component.set live config = applied at sets
      generalize component.set live' config' = applied' at sets
      cases sets with
      | error text => exact .error text
      | ok after => exact induction after

end Components

/-! ## Requests -/

inductive Request.Alike : Request → Request → Prop
  | getConfig : Alike .getConfig .getConfig
  | unreadable (cause) : Alike (.putConfig (.error cause)) (.putConfig (.error cause))
  | putConfig {patch patch'} (reset) : Override.Alike patch patch' →
      Alike (.putConfig (.ok (patch, reset))) (.putConfig (.ok (patch', reset)))
  | testAlert : Alike .testAlert .testAlert
  | recentAlerts : Alike .recentAlerts .recentAlerts

inductive Phase.Alike : Phase → Phase → Prop
  | update {patch patch'} (reset) : Override.Alike patch patch' →
      Alike (.update patch reset) (.update patch' reset)
  | effective : Alike .effective .effective
  | apply (component) {config config'} : Config.Alike config config' →
      Alike (.apply component config) (.apply component config')
  | readView : Alike .readView .readView
  | readOverridden {config config'} : Config.Alike config config' →
      Alike (.readOverridden config) (.readOverridden config')
  | stampTest : Alike .stampTest .stampTest
  | recordTest (alert) : Alike (.recordTest alert) (.recordTest alert)
  | deliverTest (alert) {channels channels'} : List.Forall₂ Notifier.Alike channels channels' →
      Alike (.deliverTest alert channels) (.deliverTest alert channels')
  | recent : Alike .recent .recent

inductive Next.Alike : Next → Next → Prop
  | phase {phase phase'} : Phase.Alike phase phase' → Alike (.phase phase) (.phase phase')
  | respond (response) : Alike (.respond response) (.respond response)

structure Environment.Alike (environment environment' : Environment) : Prop where
  files : List.Forall₂ OutcomeAlike environment.files environment'.files
  attempts : environment.attempts = environment'.attempts
  clock : environment.clock = environment'.clock

inductive Input.Alike : Input → Input → Prop
  | arrive (id) {request request'} : Request.Alike request request' →
      Alike (.arrive id request) (.arrive id request')
  | advance (id) {environment environment'} : Environment.Alike environment environment' →
      Alike (.advance id environment) (.advance id environment')
  | dispatch (alert) {environment environment'} : Environment.Alike environment environment' →
      Alike (.dispatch alert environment) (.dispatch alert environment')

theorem view_alike (editable : Bool) {config config' : Config} (alike : config.Alike config')
    (overridden : List String) :
    view editable config overridden = view editable config' overridden := by
  rcases alike with ⟨url', same, rfl⟩
  have configured : (config.webhookURL != "") = (url' != "") := by
    simp only [bne, Bool.beq_eq_decide_eq, same.empty_iff]
  simp only [view, same.mask, configured]

theorem Request.Alike.begin {request request' : Request} (alike : request.Alike request')
    (editable : Bool) : (request.begin editable).Alike (request'.begin editable) := by
  cases alike with
  | getConfig => exact .phase .readView
  | testAlert => exact .phase .stampTest
  | recentAlerts => exact .phase .recent
  | unreadable cause =>
      simp only [Request.begin]
      split <;> exact .respond _
  | putConfig reset patches =>
      simp only [Request.begin]
      split
      · exact .respond _
      · exact .phase (.update reset patches)

section Secrecy

variable [UnicodeTables]

structure Shared.Alike (shared shared' : Shared) : Prop where
  settings : shared.settings.Alike shared'.settings
  files : SamePaths shared.files shared'.files
  live : LivesAlike shared.live shared'.live

structure ServerState.Alike (state state' : ServerState) : Prop where
  shared : state.shared.Alike state'.shared
  requests : ∀ id, Option.Rel Phase.Alike (state.requests id) (state'.requests id)

variable {json : JSONText} {client : HTTPClient} {editable : Bool}

/-- The step tells no failed delivery to an accepted URL. -/
def Reaches (state : ServerState) : Input → Prop
  | .advance id environment => ∀ alert channels,
      state.requests id = some (.deliverTest alert channels) →
        Reached channels environment.attempts
  | _ => True

theorem Phase.Alike.advance {phase phase' : Phase} (phases : phase.Alike phase')
    {environment environment' : Environment} (decisions : environment.Alike environment')
    {shared shared' : Shared} (alike : shared.Alike shared')
    (reached : ∀ alert channels, phase = .deliverTest alert channels →
      Reached channels environment.attempts)
    {after after' : Shared × Next}
    (advanced : phase.advance json client editable environment shared = some after)
    (advanced' : phase'.advance json client editable environment' shared' = some after') :
    after.1.Alike after'.1 ∧ after.2.Alike after'.2 := by
  rcases alike with ⟨settings, files, live⟩
  cases phases with
  | update reset patches =>
      have results := (settings.update json patches reset).exec files decisions.files
      simp only [Phase.advance] at advanced advanced'
      generalize (shared.settings.update json _ reset).exec _ _ = returned at results advanced
      generalize (shared'.settings.update json _ reset).exec _ _ = returned' at results advanced'
      rcases returned with ⟨final, returned⟩
      rcases returned' with ⟨final', returned'⟩
      rcases results with ⟨sameFiles, outcomes⟩
      cases outcomes with
      | none => simp at advanced
      | @some result result' related =>
          rcases result with ⟨changed, failure⟩
          rcases result' with ⟨changed', failure'⟩
          rcases related with ⟨sameSettings, rfl⟩
          cases failure with
          | none =>
              cases advanced
              cases advanced'
              exact ⟨⟨sameSettings, sameFiles, live⟩, .phase .effective⟩
          | some failure =>
              cases advanced
              cases advanced'
              exact ⟨⟨sameSettings, sameFiles, live⟩, .respond _⟩
  | effective =>
      cases advanced
      cases advanced'
      exact ⟨⟨settings, files, live⟩, .phase (.apply _ settings.effective)⟩
  | apply component configs =>
      have sets := component.set_alike live configs
      simp only [Phase.advance] at advanced advanced'
      generalize component.set shared.live _ = applied at sets advanced
      generalize component.set shared'.live _ = applied' at sets advanced'
      cases sets with
      | error text =>
          cases advanced
          cases advanced'
          exact ⟨⟨settings, files, live⟩, .respond _⟩
      | ok lives =>
          cases follows : component.next with
          | none =>
              simp only [follows] at advanced advanced'
              cases advanced
              cases advanced'
              exact ⟨⟨settings, files, lives⟩, .phase .readView⟩
          | some next =>
              simp only [follows] at advanced advanced'
              cases advanced
              cases advanced'
              exact ⟨⟨settings, files, lives⟩, .phase (.apply next configs)⟩
  | readView =>
      cases advanced
      cases advanced'
      exact ⟨⟨settings, files, live⟩, .phase (.readOverridden settings.effective)⟩
  | readOverridden configs =>
      cases advanced
      cases advanced'
      rw [view_alike editable configs, settings.overridden]
      exact ⟨⟨settings, files, live⟩, .respond _⟩
  | stampTest =>
      cases advanced
      cases advanced'
      rw [decisions.clock]
      exact ⟨⟨settings, files, live⟩, .phase (.recordTest _)⟩
  | recordTest alert =>
      rcases live with ⟨manager', managers, same⟩
      cases advanced
      cases advanced'
      rw [same]
      exact ⟨⟨settings, files, _, managers.remember alert, rfl⟩,
        .phase (.deliverTest alert (managers.remember alert).channels)⟩
  | deliverTest alert channels =>
      have delivered := deliverTest_alike client channels (reached _ _ rfl)
      simp only [Phase.advance, Option.map_eq_some_iff] at advanced advanced'
      rcases advanced with ⟨results, returned, rfl⟩
      rcases advanced' with ⟨results', returned', rfl⟩
      rw [delivered, decisions.attempts, returned', Option.some.injEq] at returned
      rw [returned]
      exact ⟨⟨settings, files, live⟩, .respond _⟩
  | recent =>
      cases advanced
      cases advanced'
      rcases live with ⟨manager', managers, same⟩
      rw [same, managers.recent]
      exact ⟨⟨settings, files, manager', managers, same⟩, .respond _⟩

theorem ServerState.Alike.proceed {state state' : ServerState}
    (requests : ∀ id, Option.Rel Phase.Alike (state.requests id) (state'.requests id)) (id : Nat)
    {shared shared' : Shared} (alike : shared.Alike shared') {next next' : Next}
    (nexts : next.Alike next') :
    (state.proceed id shared next).nextState.Alike (state'.proceed id shared' next').nextState ∧
      (state.proceed id shared next).observation =
        (state'.proceed id shared' next').observation := by
  have updated {phase phase' : Option Phase} (phases : Option.Rel Phase.Alike phase phase')
      (other : Nat) : Option.Rel Phase.Alike (Function.update state.requests id phase other)
        (Function.update state'.requests id phase' other) := by
    by_cases here : other = id
    · subst here
      simpa using phases
    · simpa [here] using requests other
  cases nexts with
  | phase phases => exact ⟨⟨alike, updated (.some phases)⟩, rfl⟩
  | respond response => exact ⟨⟨alike, updated .none⟩, rfl⟩

theorem ServerState.Alike.step {state state' : ServerState} (alike : state.Alike state')
    {input input' : Input} (inputs : input.Alike input') (reaches : Reaches state input)
    {result result' : StepResult ServerState Event}
    (step : serverStep json client editable state input = some result)
    (step' : serverStep json client editable state' input' = some result') :
    result.nextState.Alike result'.nextState ∧ result.observation = result'.observation := by
  have steps := serverStep_steps json client editable step
  have steps' := serverStep_steps json client editable step'
  cases inputs with
  | arrive id requests =>
      cases steps
      cases steps'
      exact proceed alike.requests id alike.shared (requests.begin editable)
  | advance id decisions =>
      cases steps with
      | advance running advanced =>
          cases steps' with
          | advance running' advanced' =>
              have phases := alike.requests id
              rw [running, running', Option.rel_some_some] at phases
              rcases phases.advance decisions alike.shared (fun alert channels same =>
                reaches alert channels (by rw [running, same])) advanced advanced' with
                ⟨shared, nexts⟩
              exact proceed alike.requests id shared nexts
  | dispatch alert decisions =>
      cases steps
      cases steps'
      rcases alike with ⟨⟨settings, files, live⟩, requests⟩
      rcases live with ⟨manager', managers, same⟩
      refine ⟨⟨⟨settings, files, ?_⟩, requests⟩, rfl⟩
      rw [same, decisions.clock]
      exact ⟨_, managers.dispatch _ alert, rfl⟩

private theorem boot_alike {settings settings' : Settings} {files files' : Files}
    (alike : settings.Alike settings') (sameFiles : SamePaths files files')
    {start start' : ServerState} (booted : boot settings files = .ok start)
    (booted' : boot settings' files' = .ok start') : start.Alike start' := by
  rcases boot_ok booted with ⟨live, applied, rfl⟩
  rcases boot_ok booted' with ⟨live', applied', rfl⟩
  have lives := applyAlertConfig_alike (newLive_alike alike.defaults) alike.effective
  rw [applied, applied'] at lives
  cases lives with
  | ok live => exact ⟨⟨alike, sameFiles, live⟩, fun _ => .none⟩

/-- Two servers whose settings differ in the secret of webhook URLs, and that
take inputs that do so, cannot be told apart by their responses, as long as no
test delivery to an accepted URL fails on the way. -/
theorem responses_hide_secret {settings settings' : Settings} {files files' : Files}
    (alike : settings.Alike settings') (sameFiles : SamePaths files files')
    {start start' : ServerState} (booted : boot settings files = .ok start)
    (booted' : boot settings' files' = .ok start')
    {inputs inputs' : List Input} {events events' : List Event} {state state' : ServerState}
    (runs : (serverMachine json client editable).RunsWithin Reaches start inputs events state)
    (runs' : (serverMachine json client editable).Runs start' inputs' events' state')
    (paired : List.Forall₂ Input.Alike inputs inputs') : events = events' :=
  (runs.lockstep ServerState.Alike Input.Alike runs' (boot_alike alike sameFiles booted booted')
    paired fun _ _ _ _ _ _ states pair reaches step step' =>
      states.step pair reaches step step').2

end Secrecy

/-! ## Two URLs of one destination -/

def alphaURL : String := "https://hooks.slack.com/services/alpha"
def betaURL : String := "https://hooks.slack.com/services/beta"

private theorem alpha_beta : SameDestination alphaURL betaURL :=
  .inr ⟨by decide, by decide, by decide⟩

def withWebhook (url : String) : Config := { Config.standard with webhookURL := url }

private theorem samples_alike [UnicodeTables] :
    (sampleSettings (withWebhook alphaURL)).Alike (sampleSettings (withWebhook betaURL)) :=
  ⟨⟨betaURL, alpha_beta, rfl⟩, .refl _, rfl⟩

def testSteps (attempt : Attempt) : List Input :=
  [.arrive 0 .testAlert, .advance 0 {}, .advance 0 {}, .advance 0 { attempts := [attempt] }]

private theorem testSteps_alike (attempt : Attempt) :
    List.Forall₂ Input.Alike (testSteps attempt) (testSteps attempt) := by
  have same (environment : Environment) (files : environment.files = []) :
      environment.Alike environment :=
    ⟨by rw [files]; exact .nil, rfl, rfl⟩
  exact .cons (.arrive 0 .testAlert) (.cons (.advance 0 (same _ rfl))
    (.cons (.advance 0 (same _ rfl)) (.cons (.advance 0 (same _ rfl)) .nil)))

/-- The error of a delivery that fails on the way tells the URL. -/
theorem responses_differ_unreached :
    ∃ (_ : UnicodeTables) (start start' : ServerState) (inputs : List Input)
      (events events' : List Event) (state state' : ServerState),
      (sampleSettings (withWebhook alphaURL)).Alike (sampleSettings (withWebhook betaURL)) ∧
      boot (sampleSettings (withWebhook alphaURL)) (fun _ => none) = .ok start ∧
      boot (sampleSettings (withWebhook betaURL)) (fun _ => none) = .ok start' ∧
      (serverMachine sampleJSON sampleClient true).Runs start inputs events state ∧
      (serverMachine sampleJSON sampleClient true).Runs start' inputs events' state' ∧
      List.Forall₂ Input.Alike inputs inputs ∧ events ≠ events' := by
  let tables := UnicodeTables.latin
  refine ⟨tables, _, _, testSteps (.failed "context deadline exceeded"), _, _, _, _,
    samples_alike, rfl, rfl, (Machine.runs_iff_run _).mpr rfl,
    (Machine.runs_iff_run _).mpr rfl, testSteps_alike _, ?_⟩
  decide

theorem responses_hide_secret_answered :
    ∃ (_ : UnicodeTables) (start start' : ServerState) (events : List Event)
      (state state' : ServerState),
      boot (sampleSettings (withWebhook alphaURL)) (fun _ => none) = .ok start ∧
      boot (sampleSettings (withWebhook betaURL)) (fun _ => none) = .ok start' ∧
      (serverMachine sampleJSON sampleClient true).Runs start
        (testSteps (.answered 404 "404 Not Found")) events state ∧
      (serverMachine sampleJSON sampleClient true).Runs start'
        (testSteps (.answered 404 "404 Not Found")) events state' := by
  let tables := UnicodeTables.latin
  have executed : ∃ (start start' : ServerState) (events events' : List Event)
      (state state' : ServerState),
      boot (sampleSettings (withWebhook alphaURL)) (fun _ => none) = .ok start ∧
      boot (sampleSettings (withWebhook betaURL)) (fun _ => none) = .ok start' ∧
      (serverMachine sampleJSON sampleClient true).run start
        (testSteps (.answered 404 "404 Not Found")) = some (events, state) ∧
      (serverMachine sampleJSON sampleClient true).run start'
        (testSteps (.answered 404 "404 Not Found")) = some (events', state') ∧
      (serverMachine sampleJSON sampleClient true).Demands Reaches start
        (testSteps (.answered 404 "404 Not Found")) := by
    refine ⟨_, _, _, _, _, _, rfl, rfl, rfl, rfl, ?_⟩
    refine And.intro trivial (And.intro ?_ (And.intro ?_ (And.intro ?_ trivial)))
    all_goals
      intro alert channels held
      cases held
    exact ⟨fun _ _ => nofun, trivial⟩
  rcases executed with ⟨start, start', events, events', state, state', booted, booted', executed,
    executed', demands⟩
  have runs := Machine.runsWithin_of_run _ .start executed demands
  have runs' := (Machine.runs_iff_run _).mpr executed'
  have same := responses_hide_secret samples_alike (fun _ => rfl) booted booted' runs runs'
    (testSteps_alike _)
  rw [List.nil_append] at same
  subst same
  exact ⟨tables, start, start', events, state, state', booted, booted', runs.runs, runs'⟩

end StarLens.Server
