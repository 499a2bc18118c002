import StarLens.Alert.Manager

/-! # The evaluation of the poller

One tick of `Poller.Run`: collect the alerts and dispatch them one after the
other. -/

namespace StarLens.Alert

open Go

variable {Notifier : Type}

/-- One `Dispatch` of an evaluation. The clock reading it is decided on is the
first it takes. -/
structure Verdict (Notifier : Type) where
  alert : Alert
  reading : Nat
  fired : Option (Alert × List Notifier)

structure Evaluation (Notifier : Type) where
  manager : Manager Notifier
  readings : Nat
  verdicts : List (Verdict Notifier)

def dispatchAll (clock : Nat → Time) (manager : Manager Notifier) (readings : Nat) :
    List Alert → Evaluation Notifier
  | [] => { manager, readings, verdicts := [] }
  | alert :: alerts =>
      let result := manager.dispatch (fun reading => clock (readings + reading)) alert
      let rest := dispatchAll clock result.manager (readings + result.readings) alerts
      { rest with
        verdicts := { alert, reading := readings, fired := result.fired } :: rest.verdicts }

/-- One call of `Dispatch`, put down with what became of it. -/
def Evaluation.dispatch (clock : Nat → Time) (evaluation : Evaluation Notifier) (alert : Alert) :
    Evaluation Notifier :=
  let result :=
    evaluation.manager.dispatch (fun reading => clock (evaluation.readings + reading)) alert
  { manager := result.manager
    readings := evaluation.readings + result.readings
    verdicts := evaluation.verdicts ++
      [{ alert, reading := evaluation.readings, fired := result.fired }] }

/-- A failed collection is logged and dispatches nothing. -/
def evaluate (clock : Nat → Time) (manager : Manager Notifier) (readings : Nat)
    (collected : Except String (List Alert)) : Evaluation Notifier :=
  match collected with
  | .error _ => { manager, readings, verdicts := [] }
  | .ok alerts => dispatchAll clock manager readings alerts

section Dispatches

variable (clock : Nat → Time) (manager : Manager Notifier) (readings : Nat)

theorem dispatchAll_alerts (alerts : List Alert) :
    (dispatchAll clock manager readings alerts).verdicts.map Verdict.alert = alerts := by
  induction alerts generalizing manager readings with
  | nil => rfl
  | cons alert alerts induction => simp [dispatchAll, induction]

private theorem foldl_dispatch (evaluation : Evaluation Notifier) (alerts : List Alert) :
    alerts.foldl (Evaluation.dispatch clock) evaluation =
      { dispatchAll clock evaluation.manager evaluation.readings alerts with
        verdicts := evaluation.verdicts ++
          (dispatchAll clock evaluation.manager evaluation.readings alerts).verdicts } := by
  induction alerts generalizing evaluation with
  | nil => simp [dispatchAll]
  | cons alert alerts induction =>
      rw [List.foldl_cons, induction]
      simp [Evaluation.dispatch, dispatchAll]

theorem dispatchAll_eq_foldl (alerts : List Alert) :
    dispatchAll clock manager readings alerts =
      alerts.foldl (Evaluation.dispatch clock) { manager, readings, verdicts := [] } :=
  (foldl_dispatch clock { manager, readings, verdicts := [] } alerts).symm

theorem dispatchAll_append (alerts later : List Alert) :
    ∃ verdicts, (dispatchAll clock manager readings (alerts ++ later)).verdicts =
      (dispatchAll clock manager readings alerts).verdicts ++ verdicts := by
  induction alerts generalizing manager readings with
  | nil => exact ⟨_, rfl⟩
  | cons alert alerts induction =>
      rcases induction _ _ with ⟨verdicts, same⟩
      exact ⟨verdicts, congrArg (_ :: ·) same⟩

theorem Manager.dispatch_frame (clock : Nat → Time) (alert : Alert) :
    (manager.dispatch clock alert).manager.cooldown = manager.cooldown ∧
      ∀ key, key ≠ alert.key →
        (manager.dispatch clock alert).manager.lastFired key = manager.lastFired key := by
  rcases manager.dispatch_cases clock alert with ⟨last, -, -, suppressed⟩ | ⟨reading, -, fired⟩
  · rw [suppressed]
    exact ⟨rfl, fun key different => rfl⟩
  · rw [fired]
    exact ⟨rfl, fun key different => by simp [fire, remember, different]⟩

theorem Manager.dispatch_fired_iff (clock : Nat → Time) (alert : Alert) :
    (manager.dispatch clock alert).fired.isSome ↔
      ∀ last, manager.lastFired alert.key = some last →
        ¬(clock 0).sub last < manager.cooldown := by
  rcases manager.dispatch_cases clock alert
    with ⟨last, before, recent, suppressed⟩ | ⟨reading, decided, fired⟩
  · rw [suppressed]
    constructor
    · simp
    · intro passed
      exact absurd recent (passed last before)
  · rw [fired]
    exact iff_of_true rfl fun last before => (decided last before).2

theorem dispatchAll_fired_iff {alerts : List Alert} (distinct : (alerts.map Alert.key).Nodup)
    (verdict : Verdict Notifier)
    (member : verdict ∈ (dispatchAll clock manager readings alerts).verdicts) :
    verdict.fired.isSome ↔ ∀ last, manager.lastFired verdict.alert.key = some last →
      ¬(clock verdict.reading).sub last < manager.cooldown := by
  induction alerts generalizing manager readings with
  | nil => simp [dispatchAll] at member
  | cons alert alerts induction =>
      rw [List.map_cons, List.nodup_cons] at distinct
      rcases List.mem_cons.mp member with rfl | later
      · exact manager.dispatch_fired_iff _ alert
      · have frame := manager.dispatch_frame (fun reading => clock (readings + reading)) alert
        have listed : verdict.alert ∈ alerts := by
          rw [← dispatchAll_alerts clock _ _ alerts]
          exact List.mem_map_of_mem later
        have other : verdict.alert.key ≠ alert.key := by
          intro same
          exact distinct.1 (same ▸ List.mem_map_of_mem listed)
        rw [induction _ _ distinct.2 later, frame.1, frame.2 _ other]

end Dispatches

end StarLens.Alert
