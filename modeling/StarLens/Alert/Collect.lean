import StarLens.Alert.Poller

/-! # Several collectors

`Combine`: the collectors are asked one after the other, and one that fails does
not suppress what the others found. Only where all of them fail is there an
error. -/

namespace StarLens.Alert

open Go

abbrev Collected := Except String (List Alert)

structure Gathered where
  alerts : List Alert := []
  errs : List String := []
  ok : Nat := 0

def Gathered.add (gathered : Gathered) : Collected → Gathered
  | .error err => { gathered with errs := gathered.errs ++ [err] }
  | .ok found => { gathered with ok := gathered.ok + 1, alerts := gathered.alerts ++ found }

/-- `Combine` of collectors that return these. The joined error has a line for
each. -/
def combine (collectors : List Collected) : Collected :=
  let gathered := collectors.foldl Gathered.add {}
  if gathered.ok = 0 && 0 < gathered.errs.length then
    .error ("\n".intercalate gathered.errs)
  else .ok gathered.alerts

def succeeds : Collected → Bool
  | .error _ => false
  | .ok _ => true

def found : Collected → List Alert
  | .error _ => []
  | .ok alerts => alerts

private theorem foldl_gather (collectors : List Collected) (gathered : Gathered) :
    (collectors.foldl Gathered.add gathered).alerts =
        gathered.alerts ++ collectors.flatMap found ∧
      (collectors.foldl Gathered.add gathered).ok =
        gathered.ok + collectors.countP succeeds ∧
      (collectors.foldl Gathered.add gathered).errs.length =
        gathered.errs.length + collectors.countP fun collector => !succeeds collector := by
  induction collectors generalizing gathered with
  | nil => simp
  | cons collector collectors induction =>
      have rest := induction (gathered.add collector)
      rw [List.foldl_cons, rest.1, rest.2.1, rest.2.2]
      cases collector with
      | error err =>
          refine ⟨rfl, by simp [Gathered.add, succeeds], ?_⟩
          simp only [Gathered.add, succeeds, List.length_append, List.length_singleton,
            List.countP_cons, Bool.not_false, if_true]
          omega
      | ok alerts =>
          refine ⟨by simp [Gathered.add, found], ?_, by simp [Gathered.add, succeeds]⟩
          simp only [Gathered.add, succeeds, List.countP_cons, if_true]
          omega

private theorem flatMap_found_of_all_fail {collectors : List Collected}
    (fail : ∀ collector ∈ collectors, succeeds collector = false) :
    collectors.flatMap found = [] := by
  rw [List.flatMap_eq_nil_iff]
  intro collector member
  cases collector with
  | error err => rfl
  | ok alerts => exact absurd (fail _ member) (by simp [succeeds])

theorem combine_cases (collectors : List Collected) :
    (∃ err, combine collectors = .error err ∧ collectors.flatMap found = []) ∨
      combine collectors = .ok (collectors.flatMap found) := by
  have gathered := foldl_gather collectors {}
  rw [combine]
  split
  case isTrue failed =>
      refine .inl ⟨_, rfl, flatMap_found_of_all_fail ?_⟩
      rw [gathered.2.1, Bool.and_eq_true, decide_eq_true_eq] at failed
      have noneSucceeds : collectors.countP succeeds = 0 := (Nat.zero_add _).symm.trans failed.1
      simpa using List.countP_eq_zero.mp noneSucceeds
  case isFalse => exact .inr (congrArg _ gathered.1)

variable {Notifier : Type}

section Evaluate

variable (clock : Nat → Time) (manager : Manager Notifier) (readings : Nat)

theorem evaluate_combine (collectors : List Collected) :
    evaluate clock manager readings (combine collectors) =
      dispatchAll clock manager readings (collectors.flatMap found) := by
  rcases combine_cases collectors with ⟨err, failed, nothing⟩ | answered
  · rw [failed, nothing]
    rfl
  · rw [answered]
    rfl

theorem flatMap_found_filter (collectors : List Collected) :
    (collectors.filter succeeds).flatMap found = collectors.flatMap found := by
  induction collectors with
  | nil => rfl
  | cons collector collectors induction =>
      cases collector with
      | error err => exact induction
      | ok alerts => exact congrArg (alerts ++ ·) induction

/-- What is dispatched is what the collectors that succeed have found, in their order, one
`Dispatch` after the other. Those that fail might as well not be there, and where all fail
nothing happens. -/
theorem evaluate_combine_frame (collectors : List Collected) :
    evaluate clock manager readings (combine collectors) =
        ((collectors.filter succeeds).flatMap found).foldl (Evaluation.dispatch clock)
          { manager, readings, verdicts := [] } ∧
      (evaluate clock manager readings (combine collectors)).verdicts.map Verdict.alert =
        (collectors.filter succeeds).flatMap found ∧
      evaluate clock manager readings (combine collectors) =
        evaluate clock manager readings (combine (collectors.filter succeeds)) ∧
      ((∀ collector ∈ collectors, succeeds collector = false) →
        evaluate clock manager readings (combine collectors) =
          { manager, readings, verdicts := [] }) := by
  refine ⟨?_, ?_, ?_, ?_⟩
  · rw [evaluate_combine, dispatchAll_eq_foldl, flatMap_found_filter]
  · rw [evaluate_combine, dispatchAll_alerts, flatMap_found_filter]
  · rw [evaluate_combine, evaluate_combine, flatMap_found_filter]
  · intro fail
    rw [evaluate_combine, flatMap_found_of_all_fail fail]
    rfl

end Evaluate

end StarLens.Alert
