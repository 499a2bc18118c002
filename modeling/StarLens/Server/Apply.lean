import StarLens.Alert.Webhook
import StarLens.Service.RoutineLoadAlerts

/-! # Applying a configuration

`applyAlertConfig` of the server's main function, call by call. -/

namespace StarLens.Server

open Alert Go Service

structure Live where
  manager : Manager Notifier
  loadPolicy : RoutineLoadAlertPolicy
  clusterPolicy : ClusterAlertPolicy

namespace Live

def setCooldown (live : Live) (config : Config) : Live :=
  { live with manager := live.manager.setCooldown config.cooldown }

def setWebhook [UnicodeTables] (live : Live) (config : Config) : Except String Live :=
  if config.webhookURL = "" then .ok { live with manager := live.manager.setWebhook none }
  else
    match newWebhookNotifier config.webhookURL config.webhookFormat with
    | .error text => .error text
    | .ok webhook => .ok { live with manager := live.manager.setWebhook (some webhook) }

def setPolicy (live : Live) (config : Config) : Live :=
  { live with
    loadPolicy := {
      errorRowsRatio := config.errorRowsRatio
      errorRowsMinTotal := config.errorRowsMinTotal
      maxOffsetLag := config.maxOffsetLag } }

def setAlertPolicy (live : Live) (config : Config) : Live :=
  { live with clusterPolicy := { maxJournalLag := config.maxJournalLag } }

end Live

/-- The four components an application sets, in the order of its calls. -/
inductive Component
  | cooldown
  | webhook
  | loadPolicy
  | clusterPolicy
deriving DecidableEq

def webhookOf (config : Config) : Option Notifier :=
  if config.webhookURL = "" then none
  else some (.webhook config.webhookURL config.webhookFormat)

namespace Component

abbrev Value : Component → Type
  | cooldown => Duration
  | webhook => Option Notifier
  | loadPolicy => RoutineLoadAlertPolicy
  | clusterPolicy => ClusterAlertPolicy

def current (live : Live) : (component : Component) → component.Value
  | cooldown => live.manager.cooldown
  | webhook => live.manager.webhook
  | loadPolicy => live.loadPolicy
  | clusterPolicy => live.clusterPolicy

def wanted (config : Config) : (component : Component) → component.Value
  | cooldown => config.cooldown
  | webhook => webhookOf config
  | loadPolicy => {
      errorRowsRatio := config.errorRowsRatio
      errorRowsMinTotal := config.errorRowsMinTotal
      maxOffsetLag := config.maxOffsetLag }
  | clusterPolicy => { maxJournalLag := config.maxJournalLag }

def set [UnicodeTables] (live : Live) (config : Config) : Component → Except String Live
  | cooldown => .ok (live.setCooldown config)
  | webhook => live.setWebhook config
  | loadPolicy => .ok (live.setPolicy config)
  | clusterPolicy => .ok (live.setAlertPolicy config)

def next : Component → Option Component
  | cooldown => some webhook
  | webhook => some loadPolicy
  | loadPolicy => some clusterPolicy
  | clusterPolicy => none

def onward : Component → List Component
  | cooldown => [cooldown, webhook, loadPolicy, clusterPolicy]
  | webhook => [webhook, loadPolicy, clusterPolicy]
  | loadPolicy => [loadPolicy, clusterPolicy]
  | clusterPolicy => [clusterPolicy]

theorem onward_eq (component : Component) :
    component.onward = component :: component.next.elim [] onward := by
  cases component <;> rfl

theorem mem_onward_cooldown (component : Component) : component ∈ onward cooldown := by
  cases component <;> decide

end Component

def applyAlertConfig [UnicodeTables] (live : Live) (config : Config) : Except String Live := do
  let live := live.setCooldown config
  let live ← live.setWebhook config
  let live := live.setPolicy config
  return live.setAlertPolicy config

section Apply

variable [UnicodeTables] {live after : Live} {config : Config}

theorem applyAlertConfig_eq (live : Live) (config : Config) :
    applyAlertConfig live config =
      (Component.onward .cooldown).foldlM (fun live component => component.set live config)
        live := by
  simp only [applyAlertConfig, Component.onward, List.foldlM_cons, List.foldlM_nil, Component.set]
  rfl

theorem setWebhook_ok (ok : live.setWebhook config = .ok after) :
    after = { live with manager := live.manager.setWebhook (webhookOf config) } := by
  rw [Live.setWebhook] at ok
  split at ok
  case isTrue empty => simpa [webhookOf, empty] using ok.symm
  case isFalse present =>
      simp only [newWebhookNotifier, present, if_false] at ok
      split at ok
      case h_1 => simp at ok
      case h_2 webhook built =>
          split at built
          · simp at built
          · rw [← Except.ok.inj ok, webhookOf, if_neg present, ← Except.ok.inj built]

theorem Component.set_ok {component : Component} (ok : component.set live config = .ok after)
    (other : Component) :
    other.current after =
      if other = component then other.wanted config else other.current live := by
  cases component with
  | webhook =>
      rw [setWebhook_ok ok]
      cases other <;> rfl
  | _ =>
      cases ok
      cases other <;> rfl

theorem Component.set_of_known (known : KnownFormat config.webhookFormat) (live : Live)
    (component : Component) : ∃ after, component.set live config = .ok after := by
  cases component with
  | webhook =>
      simp only [set, Live.setWebhook, newWebhookNotifier]
      split
      · exact ⟨_, rfl⟩
      · rcases known with known | known <;>
          simp [known, webhookFormatGeneric, webhookFormatSlack]
  | _ => exact ⟨_, rfl⟩

theorem applyAlertConfig_of_known (known : KnownFormat config.webhookFormat) (live : Live) :
    ∃ after, applyAlertConfig live config = .ok after := by
  rcases Component.set_of_known known (live.setCooldown config) .webhook with ⟨middle, set⟩
  rw [Component.set] at set
  exact ⟨_, by rw [applyAlertConfig, set]; rfl⟩

theorem applyAlertConfig_ok (ok : applyAlertConfig live config = .ok after)
    (component : Component) : component.current after = component.wanted config := by
  rw [applyAlertConfig] at ok
  cases built : (live.setCooldown config).setWebhook config with
  | error text => simp [built, bind, Except.bind] at ok
  | ok middle =>
      simp only [built, bind, Except.bind, pure, Except.pure, Except.ok.injEq] at ok
      rw [← ok, setWebhook_ok built]
      cases component <;> rfl

end Apply

end StarLens.Server
