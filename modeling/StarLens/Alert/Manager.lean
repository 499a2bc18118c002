import StarLens.Go.Time
import Mathlib.Logic.Function.Basic

/-! # The alert manager

Alerts, and the critical sections of `Manager`. Every method takes the lock
once, so each of them is one function on the state behind the lock. -/

set_option linter.dupNamespace false

namespace StarLens.Alert

open Go

inductive Severity
  | info
  | warning
  | critical
deriving DecidableEq

def Severity.text : Severity → String
  | info => "info"
  | warning => "warning"
  | critical => "critical"

structure Alert where
  key : String
  ruleID : String
  severity : Severity
  title : String
  message : String
  labels : List (String × String) := []
  firedAt : Time := { wall := 0 }
deriving DecidableEq

/-- A key is a rule and its subject behind a bar. Both can be read off it as long
as no rule has a bar in its name. -/
theorem subjectKey_inj {rule rule' subject subject' : String} (plain : '|' ∉ rule.toList)
    (plain' : '|' ∉ rule'.toList) :
    rule ++ "|" ++ subject = rule' ++ "|" ++ subject' ↔ rule = rule' ∧ subject = subject' := by
  have cut {text : String} (plain : '|' ∉ text.toList) (rest : String) :
      ((text ++ "|" ++ rest).toList.takeWhile (· != '|'),
        (text ++ "|" ++ rest).toList.dropWhile (· != '|')) = (text.toList, '|' :: rest.toList) := by
    have kept : ∀ char ∈ text.toList, (char != '|') = true := by
      intro char member
      rw [bne_iff_ne]
      exact fun same => plain (same ▸ member)
    have parts := Duration.takeWhile_append_stop kept
      (show ∀ char ∈ ('|' :: rest.toList).head?, (char != '|') = false by simp)
    have split : (text ++ "|" ++ rest).toList = text.toList ++ '|' :: rest.toList := by simp
    rw [split, parts.1, parts.2]
  constructor
  · intro same
    have parts := cut plain subject
    rw [same, cut plain' subject', Prod.mk.injEq, List.cons.injEq] at parts
    exact ⟨String.toList_inj.mp parts.1.symm, String.toList_inj.mp parts.2.2.symm⟩
  · intro same
    rw [same.1, same.2]

theorem subjectKey_ne {rule key subject : String} (plain : '|' ∉ key.toList) :
    rule ++ "|" ++ subject ≠ key := by
  intro same
  apply plain
  rw [← same]
  simp

def recentCapacity : Nat := 100

/-- The manager's state, with the newest alert first in `recent`. -/
structure Manager (Notifier : Type) where
  cooldown : Duration
  notifiers : List Notifier
  webhook : Option Notifier
  lastFired : String → Option Time
  recent : List Alert

def testAlert (firedAt : Time) : Alert where
  key := "test"
  ruleID := "test"
  severity := .info
  title := "StarLens test alert"
  message :=
    "This is a test alert fired manually from StarLens. If you can read this, the channel works."
  firedAt := firedAt

namespace Manager

variable {Notifier : Type}

def new (cooldown : Duration) : Manager Notifier where
  cooldown
  notifiers := []
  webhook := none
  lastFired _ := none
  recent := []

def register (manager : Manager Notifier) (notifier : Notifier) : Manager Notifier :=
  { manager with notifiers := manager.notifiers ++ [notifier] }

def setWebhook (manager : Manager Notifier) (webhook : Option Notifier) : Manager Notifier :=
  { manager with webhook }

def setCooldown (manager : Manager Notifier) (cooldown : Duration) : Manager Notifier :=
  { manager with cooldown }

/-- Every active notifier, the webhook last. -/
def channels (manager : Manager Notifier) : List Notifier :=
  manager.notifiers ++ manager.webhook.toList

def remember (manager : Manager Notifier) (alert : Alert) : Manager Notifier :=
  { manager with recent := (alert :: manager.recent).take recentCapacity }

/-- What the critical section of `Dispatch` leads to: the number of clock
readings taken, and the stamped alert with its channels unless the alert was
suppressed. -/
structure Dispatched (Notifier : Type) where
  manager : Manager Notifier
  readings : Nat
  fired : Option (Alert × List Notifier)

def fire (manager : Manager Notifier) (alert : Alert) (now : Time) :
    Manager Notifier × Alert × List Notifier :=
  let alert := { alert with firedAt := now.utc }
  let manager := { manager with
    lastFired := Function.update manager.lastFired alert.key (some alert.firedAt) }
  let manager := manager.remember alert
  (manager, alert, manager.channels)

/-- `Dispatch` up to the unlock. The clock is read once for the decision, when
there is something to compare with, and once more for the stamp. -/
def dispatch (manager : Manager Notifier) (clock : Nat → Time) (alert : Alert) :
    Dispatched Notifier :=
  match manager.lastFired alert.key with
  | some last =>
      if (clock 0).sub last < manager.cooldown then
        { manager, readings := 1, fired := none }
      else
        let (manager, fired) := manager.fire alert (clock 1)
        { manager, readings := 2, fired := some fired }
  | none =>
      let (manager, fired) := manager.fire alert (clock 0)
      { manager, readings := 1, fired := some fired }

/-- The critical section of `Test`, for the alert it has stamped before. -/
def test (manager : Manager Notifier) (alert : Alert) : Manager Notifier × List Notifier :=
  let manager := manager.remember alert
  (manager, manager.channels)

/-! ## What dispatching does -/

@[simp] theorem fire_lastFired (manager : Manager Notifier) (alert : Alert) (now : Time) :
    (manager.fire alert now).1.lastFired =
      Function.update manager.lastFired alert.key (some now.utc) := rfl

theorem dispatch_cases (manager : Manager Notifier) (clock : Nat → Time) (alert : Alert) :
    (∃ last, manager.lastFired alert.key = some last ∧
      (clock 0).sub last < manager.cooldown ∧
      manager.dispatch clock alert = { manager, readings := 1, fired := none }) ∨
    ∃ reading, (∀ last, manager.lastFired alert.key = some last →
        reading = 1 ∧ ¬(clock 0).sub last < manager.cooldown) ∧
      manager.dispatch clock alert =
        { manager := (manager.fire alert (clock reading)).1
          readings := reading + 1
          fired := some (manager.fire alert (clock reading)).2 } := by
  cases fired : manager.lastFired alert.key with
  | none => exact .inr ⟨0, nofun, by simp [dispatch, fired]⟩
  | some last =>
      by_cases recent : (clock 0).sub last < manager.cooldown
      · exact .inl ⟨last, rfl, recent, by simp [dispatch, fired, recent]⟩
      · refine .inr ⟨1, ?_, by simp [dispatch, fired, recent]⟩
        intro _ same
        cases same
        exact ⟨rfl, recent⟩

end Manager

end StarLens.Alert
