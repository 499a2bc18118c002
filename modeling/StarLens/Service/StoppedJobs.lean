import StarLens.Service.RoutineLoadAlerts

/-! # Alerts on stopped jobs

Stopping a job is user intent. The rules on its state are silent about it, the
two threshold rules look at what its row still carries. -/

namespace StarLens.Service

open Go

section Labels

variable [UnicodeTables] (policy : RoutineLoadAlertPolicy) (job : RoutineLoadJob)

theorem raised_labels {rule : RoutineLoadRule} {alert : Alert.Alert}
    (raises : rule.raised policy job = some alert) : alert.labels = jobLabels job := by
  cases rule with
  | paused | cancelled =>
      simp only [RoutineLoadRule.raised, Option.ite_none_right_eq_some,
        Option.some.injEq] at raises
      rw [← raises.2]
      rfl
  | errorRatio =>
      rw [RoutineLoadRule.raised, errorRatioAlert] at raises
      split at raises
      · simp at raises
      · simp only [Option.ite_none_left_eq_some, Option.some.injEq] at raises
        rw [← raises.2.2]
  | offsetLag =>
      rw [RoutineLoadRule.raised, offsetLagAlert] at raises
      split at raises
      · simp at raises
      · simp only [Option.ite_none_left_eq_some, Option.some.injEq] at raises
        rw [← raises.2]

omit [UnicodeTables] in
private theorem state_mem_jobLabels {state : String} :
    ("state", state) ∈ jobLabels job ↔ job.state = state := by
  rw [jobLabels]
  split <;> simp [eq_comm]

end Labels

section Alerts

variable [UnicodeTables] (policy : RoutineLoadAlertPolicy) (snapshot : RoutineLoadSnapshot)

theorem exists_state_iff {state : String} :
    (∃ alert ∈ evaluateRoutineLoadAlerts policy snapshot, ("state", state) ∈ alert.labels) ↔
      ∃ job ∈ snapshot.jobs, job.state = state ∧
        ∃ rule : RoutineLoadRule, rule.applies policy job := by
  constructor
  · intro alerted
    rcases alerted with ⟨alert, member, labelled⟩
    rcases List.mem_flatMap.mp member with ⟨job, listed, member⟩
    rcases (mem_jobAlerts policy job).mp member with ⟨rule, raised⟩
    rw [raised_labels policy job raised, state_mem_jobLabels] at labelled
    have applies := (rule.raised_isSome_iff policy job).mp (by rw [raised]; rfl)
    exact ⟨job, listed, labelled, rule, applies⟩
  · intro applied
    rcases applied with ⟨job, listed, same, rule, applies⟩
    have raises := (rule.raised_isSome_iff policy job).mpr applies
    rcases Option.isSome_iff_exists.mp raises with ⟨alert, raised⟩
    have member := (mem_jobAlerts policy job).mpr ⟨rule, raised⟩
    refine ⟨alert, List.mem_flatMap.mpr ⟨job, listed, member⟩, ?_⟩
    rw [raised_labels policy job raised, state_mem_jobLabels]
    exact same

end Alerts

private theorem stopped_applies_iff {policy : RoutineLoadAlertPolicy} {job : RoutineLoadJob}
    (stopped : job.state = routineLoadStateStopped) :
    (∃ rule : RoutineLoadRule, rule.applies policy job) ↔
      RoutineLoadRule.errorRatio.applies policy job ∨
        RoutineLoadRule.offsetLag.applies policy job := by
  constructor
  · intro applied
    rcases applied with ⟨rule, applies⟩
    cases rule with
    | paused =>
        have different : routineLoadStateStopped ≠ routineLoadStatePaused := by decide
        exact absurd (stopped.symm.trans applies) different
    | cancelled =>
        have different : routineLoadStateStopped ≠ routineLoadStateCancelled := by decide
        exact absurd (stopped.symm.trans applies) different
    | errorRatio => exact .inl applies
    | offsetLag => exact .inr applies
  · intro applied
    rcases applied with applies | applies
    · exact ⟨_, applies⟩
    · exact ⟨_, applies⟩

/-- The alerts of an evaluation leave the stopped jobs out exactly when neither
threshold rule applies to one of them. -/
theorem stopped_silent_iff [UnicodeTables] (policy : RoutineLoadAlertPolicy)
    (snapshot : RoutineLoadSnapshot) :
    (∀ alert ∈ evaluateRoutineLoadAlerts policy snapshot,
      ("state", routineLoadStateStopped) ∉ alert.labels) ↔
      ∀ job ∈ snapshot.jobs, job.state = routineLoadStateStopped →
        ¬RoutineLoadRule.errorRatio.applies policy job ∧
          ¬RoutineLoadRule.offsetLag.applies policy job := by
  have alerted := @exists_state_iff _ policy snapshot routineLoadStateStopped
  constructor
  · intro silent job listed stopped
    rw [← not_or, ← stopped_applies_iff stopped]
    intro applies
    rcases alerted.mpr ⟨job, listed, stopped, applies⟩ with ⟨alert, member, labelled⟩
    exact silent alert member labelled
  · intro quiet alert member labelled
    rcases alerted.mp ⟨alert, member, labelled⟩ with ⟨job, listed, stopped, applies⟩
    rw [stopped_applies_iff stopped] at applies
    have silent := quiet job listed stopped
    exact applies.elim silent.1 silent.2

/-- A job that was stopped with a tenth of its rows in error. -/
def stoppedJob : RoutineLoadJob :=
  { cancelledJob "1001" with
    state := "STOPPED"
    statistics := some { totalRows := 20000, loadedRows := 18000, errorRows := 2000 } }

theorem stopped_job_alerted :
    ∃ (_ : UnicodeTables), ¬∀ (policy : RoutineLoadAlertPolicy) (snapshot : RoutineLoadSnapshot),
      ∀ alert ∈ evaluateRoutineLoadAlerts policy snapshot,
        ("state", routineLoadStateStopped) ∉ alert.labels := by
  let tables := UnicodeTables.latin
  refine ⟨tables, fun claimed => ?_⟩
  let policy : RoutineLoadAlertPolicy :=
    { errorRowsRatio := .round (1 / 100), errorRowsMinTotal := 10000, maxOffsetLag := 0 }
  let snapshot : RoutineLoadSnapshot := {
    collectedAt := { wall := 0 }
    source := "information_schema"
    warnings := []
    summary := summarizeRoutineLoads [stoppedJob]
    jobs := [stoppedJob] }
  have applies : RoutineLoadRule.errorRatio.applies policy stoppedJob :=
    ⟨by decide +kernel, _, rfl, by decide, by decide +kernel⟩
  rcases (exists_state_iff policy snapshot).mpr
      ⟨stoppedJob, List.mem_singleton_self _, rfl, _, applies⟩ with ⟨alert, member, labelled⟩
  exact claimed policy snapshot alert member labelled

end StarLens.Service
