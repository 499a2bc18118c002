import Mathlib.Logic.Relation
import StarLens.Server.ApplyRuns
import StarLens.Service.SecondStatement

/-! # Applying never fails

`applyAlertConfig` fails on a webhook whose format is not known. The
environment, the override file and every patch are checked for it each on its
own, and together the checks cover what can become effective. -/

namespace StarLens.Server

open Alert Api Foundation Go Service

def errorCode? (response : Response) : Option String :=
  match response.body with
  | .error code _ _ => some code
  | _ => none

private theorem errorCode?_updateFailed (failure : UpdateError) :
    errorCode? (updateFailed failure) ≠ some "config_apply_failed" := by
  cases failure with
  | invalid text => simp [updateFailed, respondError, errorCode?]
  | persist text => simp [updateFailed, respondError, errorCode?]

def Next.Applied (next : Next) : Prop :=
  ∀ response, next = .respond response → errorCode? response ≠ some "config_apply_failed"

theorem Request.begin_applied (editable : Bool) (request : Request) :
    (request.begin editable).Applied := by
  intro response answered
  cases request with
  | putConfig body =>
      simp only [begin] at answered
      split at answered
      · cases answered
        simp [forbidden, respondError, errorCode?]
      · split at answered
        · cases answered
          simp [invalidRequest, respondError, errorCode?]
        · cases answered
  | _ => cases answered

section ApplySafety

variable [UnicodeTables]

/-- A call of `Update` that returned, whatever the files were. -/
def UpdatesTo (json : JSONText) (before after : Settings) : Prop :=
  ∃ patch reset outcomes files final failure,
    (before.update json patch reset).exec outcomes files = (final, some (after, failure))

theorem UpdatesTo.defaults {json : JSONText} {before after : Settings}
    (updated : UpdatesTo json before after) : after.defaults = before.defaults := by
  rcases updated with ⟨patch, reset, outcomes, files, final, failure, returned⟩
  cases failure with
  | none =>
      rcases update_ok json returned with ⟨valid, -, rfl, -⟩
      rfl
  | some failure => rw [(update_error json returned).1]

private theorem defaults_of_updates {json : JSONText} {before after : Settings}
    (updates : Relation.ReflTransGen (UpdatesTo json) before after) :
    after.defaults = before.defaults := by
  induction updates with
  | refl => rfl
  | tail _ updated induction => rw [updated.defaults, induction]

variable {json : JSONText} {client : HTTPClient} {editable : Bool}

theorem Phase.advance_applied {phase : Phase} {environment : Environment} {shared : Shared}
    {after : Shared × Next}
    (advanced : phase.advance json client editable environment shared = some after)
    (snapshot : ∀ component config, phase = .apply component config →
      KnownFormat config.webhookFormat) : after.2.Applied := by
  intro response answered
  cases phase with
  | update patch reset =>
      rcases advance_update json client editable advanced with
        ⟨-, ⟨next, -⟩ | ⟨⟨failure, next⟩, -⟩⟩
      · rw [next] at answered
        cases answered
      · rw [next] at answered
        cases answered
        exact errorCode?_updateFailed failure
  | apply component config =>
      rcases advance_apply json client editable advanced (snapshot component config rfl) with
        ⟨live, -, -, next⟩
      rw [next] at answered
      cases answered
  | deliverTest alert channels =>
      simp only [advance, Option.map_eq_some_iff] at advanced
      rcases advanced with ⟨results, -, rfl⟩
      cases answered
      simp [errorCode?]
  | readOverridden config =>
      cases advanced
      cases answered
      simp [errorCode?]
  | recent =>
      cases advanced
      cases answered
      simp [errorCode?]
  | _ =>
      cases advanced
      cases answered

theorem Applicable.answered {state : ServerState} (applicable : Applicable state) {input : Input}
    {result : StepResult ServerState Event}
    (step : serverStep json client editable state input = some result) {id : Nat}
    {response : Response} (answered : result.observation = .responded id response) :
    errorCode? response ≠ some "config_apply_failed" := by
  cases serverStep_steps json client editable step with
  | @arrive other request idle =>
      exact request.begin_applied editable response (ServerState.proceed_answered answered)
  | @advance other environment phase after running advanced =>
      apply Phase.advance_applied advanced ?_ response (ServerState.proceed_answered answered)
      intro component config same
      exact applicable.snapshots other component config (by rw [running, same])
  | dispatch => cases answered

private theorem runs_applied {start : ServerState} (applicable : Applicable start)
    {inputs : List Input} {events : List Event} {state : ServerState}
    (runs : (serverMachine json client editable).Runs start inputs events state)
    (id : Nat) (response : Response) (answered : .responded id response ∈ events) :
    errorCode? response ≠ some "config_apply_failed" := by
  have holds := runs.history_invariant
    (fun events state => Applicable state ∧ ∀ id response, .responded id response ∈ events →
      errorCode? response ≠ some "config_apply_failed")
    ⟨applicable, by simp⟩
    (by
      intro events state input result earlier _ step
      refine ⟨earlier.1.step step, fun id response answered => ?_⟩
      rw [List.mem_append, List.mem_singleton] at answered
      rcases answered with before | now
      · exact earlier.2 id response before
      · exact earlier.1.answered step now.symm)
  exact holds.2 id response answered

theorem boot_of_known {settings : Settings} (files : Files)
    (known : KnownFormat settings.defaults.webhookFormat) :
    ∃ start, boot settings files = .ok start ∧ Applicable start := by
  rcases applyAlertConfig_of_known (Settings.effective_knownFormat known)
    (newLive settings.defaults) with ⟨live, applied⟩
  refine ⟨{ shared := { settings, files, live }, requests := fun _ => none }, ?_, known, by simp⟩
  rw [boot, applied]
  rfl

variable (json client)

/-- Whatever the environment and the override file say, when the environment
loads the server boots, what later updates make effective can be applied, and
no request is answered that it could not be. -/
theorem applyAlertConfig_never_fails {driver : Config.Driver} {getenv : String → String}
    {config : Config.Config} (loaded : Config.load driver getenv = .ok config)
    {outcomes : List (Outcome String String)} {files final : Files} {settings : Settings}
    {failure : Option LoadError}
    (read : (loadSettings json config.alert.overrideFile config.alert.defaults).exec outcomes
      files = (final, some (settings, failure))) :
    (∀ later, Relation.ReflTransGen (UpdatesTo json) settings later →
      ∀ live, ∃ after, applyAlertConfig live later.effective = .ok after) ∧
    ∃ start, boot settings final = .ok start ∧
      ∀ inputs events state,
        (serverMachine json client config.alert.uiEditable).Runs start inputs events state →
          ∀ id response, .responded id response ∈ events →
            errorCode? response ≠ some "config_apply_failed" := by
  have meets := loadSettings_meets json files config.alert.overrideFile config.alert.defaults
    outcomes
  rw [read] at meets
  have known : KnownFormat settings.defaults.webhookFormat := by
    rw [meets.2.1]
    exact Config.loadAlert_knownFormat (Config.load_ok loaded).2.1
  constructor
  · intro later updates live
    apply applyAlertConfig_of_known
    apply Settings.effective_knownFormat
    rw [defaults_of_updates updates]
    exact known
  · rcases boot_of_known final known with ⟨start, booted, applicable⟩
    exact ⟨start, booted, fun inputs events state runs => runs_applied applicable runs⟩

end ApplySafety

theorem applyAlertConfig_never_fails_unset :
    ∃ (_ : UnicodeTables) (config : Config.Config) (settings : Settings) (start : ServerState),
      Config.load Driver.sample (onlyDSN "") = .ok config ∧
      boot settings (fun _ => none) = .ok start ∧
      ∀ inputs events state,
        (serverMachine sampleJSON sampleClient config.alert.uiEditable).Runs start inputs events
          state →
        ∀ id response, .responded id response ∈ events →
          errorCode? response ≠ some "config_apply_failed" := by
  let tables := UnicodeTables.latin
  rcases load_unset with ⟨config, loaded, -⟩
  have read := loadSettings_exec sampleJSON (fun _ => none) config.alert.overrideFile
    config.alert.defaults
  have never := applyAlertConfig_never_fails sampleJSON sampleClient loaded read
  rcases never.2 with ⟨start, booted, answers⟩
  exact ⟨tables, config, _, start, loaded, booted, answers⟩

end StarLens.Server
