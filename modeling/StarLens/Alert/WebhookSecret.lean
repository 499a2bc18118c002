import StarLens.Alert.OverrideFile
import StarLens.Alert.Webhook

/-! # Values up to the secret of a webhook

Two webhook URLs with one destination, and overrides, settings, files and
notifiers that differ in such URLs only. What is computed from them differs in
such URLs only, and what is shown of them does not differ. -/

namespace StarLens.Alert

open Foundation Go

/-- The same URL, or two that are accepted and have one scheme and host. -/
def SameDestination (url url' : String) : Prop :=
  url = url' ∨ isWebURL url ∧ isWebURL url' ∧ URL.parse url = URL.parse url'

namespace SameDestination

variable {url url' : String}

private theorem isWebURL_ne_empty (accepted : isWebURL url) : url ≠ "" := by
  intro same
  subst same
  exact absurd accepted (by decide)

theorem empty_iff (same : SameDestination url url') : url = "" ↔ url' = "" := by
  rcases same with rfl | ⟨accepted, accepted', -⟩
  · exact Iff.rfl
  · exact iff_of_false (isWebURL_ne_empty accepted) (isWebURL_ne_empty accepted')

theorem mask (same : SameDestination url url') : maskWebhookURL url = maskWebhookURL url' := by
  have empty := same.empty_iff
  rcases same with rfl | ⟨-, -, parsed⟩
  · rfl
  · simp only [maskWebhookURL, parsed, empty]

theorem check (same : SameDestination url url') : checkWebhookURL url = checkWebhookURL url' := by
  rcases same with rfl | ⟨accepted, accepted', -⟩
  · rfl
  · simp [checkWebhookURL, accepted, accepted']

end SameDestination

/-! ## Configurations and overrides -/

def Config.Alike (config config' : Config) : Prop :=
  ∃ url', SameDestination config.webhookURL url' ∧ config' = { config with webhookURL := url' }

def Override.Alike (override override' : Override) : Prop :=
  ∃ url', Option.Rel SameDestination override.webhookURL url' ∧
    override' = { override with webhookURL := url' }

namespace Override.Alike

variable {override override' : Override}

theorem refl (override : Override) : override.Alike override := by
  refine ⟨override.webhookURL, ?_, rfl⟩
  cases override.webhookURL with
  | none => exact .none
  | some url => exact .some (.inl rfl)

theorem merge {patch patch' : Override} (alike : override.Alike override')
    (patches : patch.Alike patch') : (override.merge patch).Alike (override'.merge patch') := by
  rcases alike with ⟨url', urls, rfl⟩
  rcases patches with ⟨new', news, rfl⟩
  refine ⟨new'.or url', ?_, rfl⟩
  simp only [Override.merge]
  generalize patch.webhookURL = new at news
  cases news with
  | none => exact urls
  | some same => exact .some same

theorem isEmpty (alike : override.Alike override') : override.isEmpty = override'.isEmpty := by
  rcases alike with ⟨url', urls, rfl⟩
  simp only [Override.isEmpty]
  generalize override.webhookURL = url at urls
  cases urls with
  | none => rfl
  | some same => rfl

theorem marshal (alike : override.Alike override') :
    (∃ text, override.marshal = .error text ∧ override'.marshal = .error text) ∨
      ∃ members members', override.marshal = .ok members ∧ override'.marshal = .ok members' := by
  rcases alike with ⟨url', -, rfl⟩
  simp only [Override.marshal]
  split
  · exact .inl ⟨_, rfl, rfl⟩
  · exact .inl ⟨_, rfl, rfl⟩
  · exact .inr ⟨_, _, rfl, rfl⟩

theorem persist (json : JSONText) (path : String) (alike : override.Alike override') :
    FileProgram.Alike (· = ·) (persist json path override) (persist json path override') := by
  simp only [Alert.persist, ← alike.isEmpty]
  split
  case isTrue empty =>
      refine .perform (.remove _) fun reply => ?_
      cases reply <;> exact .finish rfl
  case isFalse nonempty =>
      rcases alike.marshal with ⟨text, written, written'⟩ | ⟨members, members', written, written'⟩
      · rw [written, written']
        exact .finish rfl
      · rw [written, written']
        refine .perform (.mkdirAll _) fun made => ?_
        split
        · exact .finish rfl
        · refine .perform (.write _ _ _) fun wrote => ?_
          split
          · exact .finish rfl
          · refine .perform (.rename _ _) fun renamed => ?_
            cases renamed <;> exact .finish rfl

section Validation

variable [UnicodeTables]

theorem validate (alike : override.Alike override') : override.validate = override'.validate := by
  rcases alike with ⟨url', urls, rfl⟩
  have checks : override.webhookURL.forM checkWebhookURL = url'.forM checkWebhookURL := by
    generalize override.webhookURL = url at urls
    cases urls with
    | none => rfl
    | some same => exact same.check
  simp only [Override.validate, checks]

theorem validated (alike : override.Alike override') :
    (∃ text, override.validated = .error text ∧ override'.validated = .error text) ∨
      ∃ valid valid', override.validated = .ok valid ∧ override'.validated = .ok valid' ∧
        valid.value.Alike valid'.value := by
  have same := alike.validate
  cases passed : override.validate with
  | error text =>
      refine .inl ⟨text, Override.validated_eq_error_iff.mpr passed,
        Override.validated_eq_error_iff.mpr ?_⟩
      rw [← same, passed]
  | ok done =>
      rw [passed] at same
      exact .inr ⟨⟨override, passed⟩, ⟨override', same.symm⟩,
        Override.validated_eq_ok_iff.mpr rfl, Override.validated_eq_ok_iff.mpr rfl, alike⟩

end Validation

end Override.Alike

section Secret

variable [UnicodeTables]

/-! ## Settings -/

structure Settings.Alike (settings settings' : Settings) : Prop where
  defaults : settings.defaults.Alike settings'.defaults
  override : settings.override.value.Alike settings'.override.value
  path : settings.path = settings'.path

namespace Settings.Alike

variable {settings settings' : Settings}

theorem effective (alike : settings.Alike settings') :
    settings.effective.Alike settings'.effective := by
  rcases alike with ⟨⟨url', defaults, config⟩, ⟨set', sets, override⟩, -⟩
  refine ⟨set'.getD url', ?_, ?_⟩
  · simp only [Settings.effective]
    generalize settings.override.value.webhookURL = set at sets
    cases sets with
    | none => exact defaults
    | some same => exact same
  · simp only [Settings.effective, config, override]

theorem overridden (alike : settings.Alike settings') :
    settings.overridden = settings'.overridden := by
  rcases alike with ⟨-, ⟨set', sets, override⟩, -⟩
  have isSome : settings.override.value.webhookURL.isSome = set'.isSome := by
    generalize settings.override.value.webhookURL = set at sets
    cases sets with
    | none => rfl
    | some same => rfl
  simp only [Settings.overridden, override, isSome]

theorem merged (alike : settings.Alike settings') {patch patch' : ValidOverride}
    (patches : patch.value.Alike patch'.value) (reset : Bool) :
    (settings.merged patch reset).value.Alike (settings'.merged patch' reset).value := by
  cases reset with
  | true => exact (Override.Alike.refl _).merge patches
  | false => exact alike.override.merge patches

theorem update (json : JSONText) (alike : settings.Alike settings') {patch patch' : Override}
    (patches : patch.Alike patch') (reset : Bool) :
    FileProgram.Alike (fun after after' => after.1.Alike after'.1 ∧ after.2 = after'.2)
      (settings.update json patch reset) (settings'.update json patch' reset) := by
  rw [Settings.update, Settings.update]
  rcases patches.validated with ⟨text, failed, failed'⟩ | ⟨valid, valid', passed, passed', values⟩
  · rw [failed, failed']
    exact .finish ⟨alike, rfl⟩
  · rw [passed, passed']
    have merged := alike.merged values reset
    simp only [Settings.commit, ← alike.path]
    apply (merged.persist json _).bind
    intro result _ same
    subst same
    cases result with
    | error failure => exact .finish ⟨alike, rfl⟩
    | ok done => exact .finish ⟨⟨alike.defaults, merged, rfl⟩, rfl⟩

end Settings.Alike

end Secret

/-! ## Notifiers -/

inductive Notifier.Alike : Notifier → Notifier → Prop
  | log : Alike .log .log
  | webhook {url url'} (format) : SameDestination url url' →
      Alike (.webhook url format) (.webhook url' format)

def Reached : List Notifier → List Attempt → Prop
  | .log :: notifiers, attempts => Reached notifiers attempts
  | .webhook url _ :: notifiers, attempt :: attempts =>
      (isWebURL url → ∀ cause, attempt ≠ .failed cause) ∧ Reached notifiers attempts
  | _, _ => True

private theorem sendWebhook_alike (client : HTTPClient) {url url' : String} {attempt : Attempt}
    (same : SameDestination url url') (reached : isWebURL url → ∀ cause, attempt ≠ .failed cause) :
    sendWebhook client url attempt = sendWebhook client url' attempt := by
  rcases same with rfl | ⟨accepted, accepted', parsed⟩
  · rfl
  · cases target : URL.parse url with
    | none => simp [isWebURL, target] at accepted
    | some destination =>
        rw [target] at parsed
        cases attempt with
        | failed cause => exact absurd rfl (reached accepted cause)
        | answered code status => simp only [sendWebhook, target, ← parsed]

theorem deliverTest_alike (client : HTTPClient) {notifiers notifiers' : List Notifier}
    {attempts : List Attempt} (alike : List.Forall₂ Notifier.Alike notifiers notifiers')
    (reached : Reached notifiers attempts) :
    deliverTest client notifiers attempts = deliverTest client notifiers' attempts := by
  induction alike generalizing attempts with
  | nil => rfl
  | cons first _ induction =>
      cases first with
      | log => simp only [deliverTest, induction reached]
      | webhook format same =>
          cases attempts with
          | nil => rfl
          | cons attempt attempts =>
              simp only [deliverTest, Notifier.name, sendWebhook_alike client same reached.1,
                induction reached.2]

end StarLens.Alert
