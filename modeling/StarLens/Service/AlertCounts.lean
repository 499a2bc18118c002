import StarLens.Service.RoutineLoadAlerts

/-! # Alerts and summaries

The summaries on the dashboard and the alert rules count the same nodes and
jobs, each with a loop of its own. -/

namespace StarLens.Service

open Alert (Alert Document)
open Go Repository

def raisedBy (rule : String) (alert : Alert) : Bool := alert.ruleID = rule

theorem raisedBy_iff {rule : String} {alert : Alert} :
    raisedBy rule alert ↔ alert.ruleID = rule := decide_eq_true_iff

/-! ## Nodes -/

theorem countP_dead (nodes : List Node) :
    ((nodes.countP fun node => !node.alive : Nat) : Int) =
      nodes.length - nodes.countP Node.alive := by
  have whole : nodes.length = _ := List.length_eq_countP_add_countP Node.alive
  simp only [Bool.not_eq_true, Bool.decide_eq_false] at whole
  omega

def Trails (limit : Int64) (fe : Node) : Prop :=
  fe.alive ∧ fe.role ≠ roleLeader ∧ ∃ lag ∈ fe.journalLag, limit < lag

private theorem maxJournalLag_concat (frontends : List Node) (fe : Node) :
    maxJournalLag (frontends ++ [fe]) =
      match fe.journalLag with
      | some lag =>
          if fe.alive && fe.role != roleLeader &&
              (match maxJournalLag frontends with
                | none => true
                | some value => decide (value < lag)) then
            some lag
          else maxJournalLag frontends
      | none => maxJournalLag frontends := by
  rw [maxJournalLag, List.foldl_append]
  rfl

private theorem maxJournalLag_exceeds_iff (limit : Int64) (frontends : List Node) :
    (∃ lag ∈ maxJournalLag frontends, limit < lag) ↔ ∃ fe ∈ frontends, Trails limit fe := by
  induction frontends using List.reverseRecOn with
  | nil => simp [maxJournalLag]
  | append_singleton frontends fe induction =>
      have split : (∃ other ∈ frontends ++ [fe], Trails limit other) ↔
          (∃ lag ∈ maxJournalLag frontends, limit < lag) ∨ Trails limit fe := by
        rw [induction]
        simp [or_and_right, exists_or]
      rw [split, maxJournalLag_concat]
      cases lag : fe.journalLag with
      | none => simp [Trails, lag]
      | some value =>
          dsimp only
          by_cases counted : fe.alive && fe.role != roleLeader
          · have trails : Trails limit fe ↔ limit < value := by
              rw [Bool.and_eq_true, bne_iff_ne] at counted
              simp [Trails, lag, counted]
            rw [trails, counted, Bool.true_and]
            cases largest : maxJournalLag frontends with
            | none => simp
            | some before =>
                by_cases larger : before < value
                · simp only [larger, decide_true, if_true, Option.mem_def, Option.some.injEq,
                    exists_eq_left']
                  exact ⟨.inr, fun either =>
                    either.elim (fun less => Int64.lt_trans less larger) id⟩
                · simp only [larger, decide_false, Bool.false_eq_true, if_false, Option.mem_def,
                    Option.some.injEq, exists_eq_left']
                  refine ⟨.inl, fun either => either.elim id fun less => ?_⟩
                  exact Int64.lt_of_lt_of_le less (Int64.not_lt.mp larger)
          · have trails : ¬Trails limit fe := by
              intro trails
              apply counted
              rw [Bool.and_eq_true, bne_iff_ne]
              exact ⟨trails.1, trails.2.1⟩
            rw [Bool.not_eq_true] at counted
            rw [counted, Bool.false_and, if_neg Bool.false_ne_true, or_iff_left trails]

theorem ruleID_of_mem_summaryAlerts {summary : TopologySummary} {alert : Alert}
    (listed : alert ∈ summaryAlerts summary) :
    alert.ruleID ≠ ruleClusterNodeDown ∧ alert.ruleID ≠ ruleFrontendJournalLag := by
  have rules : ∀ rule ∈ [ruleClusterNoLeader, ruleClusterQuorumLost, ruleClusterIDMismatch,
      ruleClusterNoComputeCapacity],
      rule ≠ ruleClusterNodeDown ∧ rule ≠ ruleFrontendJournalLag := by
    simp only [List.forall_mem_cons, List.not_mem_nil, false_implies, implies_true, and_true]
    decide
  apply rules
  simp only [summaryAlerts, List.mem_cons, List.not_mem_nil, or_false] at listed
  rcases listed with rfl | rfl | rfl | rfl <;>
    simp [noLeaderAlert, quorumLostAlert, idMismatchAlert, noComputeCapacityAlert]

section Nodes

variable [UnicodeTables]

private theorem countP_nodeDown (policy : ClusterAlertPolicy) (topology : Topology) :
    (evaluateAlerts policy topology).countP (raisedBy ruleClusterNodeDown) =
      (topology.frontends ++ topology.backends ++ topology.computeNodes).countP fun node =>
        !node.alive := by
  rcases evaluateAlerts_split policy topology with ⟨whole, sublist, split⟩
  have others : whole.countP (raisedBy ruleClusterNodeDown) = 0 := by
    rw [List.countP_eq_zero]
    intro alert member
    rw [raisedBy_iff]
    exact (ruleID_of_mem_summaryAlerts (sublist.subset member)).1
  have different : ruleFrontendJournalLag ≠ ruleClusterNodeDown := by decide
  have lags : (journalLagAlerts policy topology.frontends).countP
      (raisedBy ruleClusterNodeDown) = 0 := by
    rw [List.countP_eq_zero]
    intro alert member
    rcases mem_journalLagAlerts.mp member with ⟨-, fe, -, lag, -, -, -, -, rfl⟩
    rw [raisedBy_iff]
    exact different
  have all : (nodeDownAlerts topology).countP (raisedBy ruleClusterNodeDown) =
      (nodeDownAlerts topology).length := by
    rw [List.countP_eq_length]
    intro alert member
    rcases List.mem_map.mp member with ⟨node, -, rfl⟩
    exact raisedBy_iff.mpr rfl
  rw [split, List.countP_append, List.countP_append, others, lags, all, nodeDownAlerts,
    List.length_map, List.countP_eq_length_filter]
  omega

private theorem exists_journalLag_iff (policy : ClusterAlertPolicy) (topology : Topology) :
    (∃ alert ∈ evaluateAlerts policy topology, alert.ruleID = ruleFrontendJournalLag) ↔
      0 < policy.maxJournalLag ∧
        ∃ fe ∈ topology.frontends, Trails policy.maxJournalLag fe := by
  rcases evaluateAlerts_split policy topology with ⟨whole, sublist, split⟩
  rw [split]
  constructor
  · intro raised
    rcases raised with ⟨alert, member, rule⟩
    rw [List.append_assoc, List.mem_append, List.mem_append] at member
    rcases member with member | member | member
    · exact absurd rule (ruleID_of_mem_summaryAlerts (sublist.subset member)).2
    · rcases List.mem_map.mp member with ⟨node, -, rfl⟩
      have different : ruleClusterNodeDown ≠ ruleFrontendJournalLag := by decide
      exact absurd rule different
    · rcases mem_journalLagAlerts.mp member with
        ⟨positive, fe, listed, lag, lagging, alive, follows, exceeds, -⟩
      exact ⟨positive, fe, listed, alive, follows, lag, lagging, exceeds⟩
  · intro trailing
    rcases trailing with ⟨positive, fe, listed, alive, follows, lag, lagging, exceeds⟩
    refine ⟨journalLagAlert policy fe lag, List.mem_append_right _ ?_, rfl⟩
    exact mem_journalLagAlerts.mpr
      ⟨positive, fe, listed, lag, lagging, alive, follows, exceeds, rfl⟩

end Nodes

/-! ## Jobs -/

section Jobs

variable [UnicodeTables]

variable {policy : RoutineLoadAlertPolicy} {rule : RoutineLoadRule} {state : String}

private theorem countP_raised (applies : ∀ job, rule.applies policy job ↔ job.state = state)
    (job : RoutineLoadJob) (other : RoutineLoadRule) :
    (other.raised policy job).toList.countP (raisedBy rule.id) =
      if other = rule ∧ job.state = state then 1 else 0 := by
  have raises := other.raised_isSome_iff policy job
  cases raised : other.raised policy job with
  | none =>
      rw [raised] at raises
      have silent : ¬(other = rule ∧ job.state = state) := by
        intro holds
        rw [holds.1, applies] at raises
        simpa using raises.mpr holds.2
      rw [if_neg silent]
      rfl
  | some alert =>
      rw [raised] at raises
      have same : raisedBy rule.id alert ↔ other = rule ∧ job.state = state := by
        rw [raisedBy_iff, (RoutineLoadRule.raised_key policy job raised).1, RoutineLoadRule.id_inj]
        constructor
        · intro same
          rw [← applies job, ← same]
          exact ⟨rfl, raises.mp rfl⟩
        · exact fun holds => holds.1
      by_cases holds : other = rule ∧ job.state = state
      · simp [holds, same.mpr holds]
      · simp [holds, mt same.mp holds]

private theorem countP_jobAlerts (applies : ∀ job, rule.applies policy job ↔ job.state = state)
    (job : RoutineLoadJob) :
    (jobAlerts policy job).countP (raisedBy rule.id) = if job.state = state then 1 else 0 := by
  rw [jobAlerts_eq, List.countP_flatMap]
  simp only [List.map_cons, List.map_nil, Function.comp_apply, countP_raised applies job]
  cases rule <;> simp

theorem countP_state (jobs : List RoutineLoadJob)
    (applies : ∀ job, rule.applies policy job ↔ job.state = state) :
    (jobs.flatMap (jobAlerts policy)).countP (raisedBy rule.id) =
      jobs.countP fun job => job.state = state := by
  induction jobs with
  | nil => rfl
  | cons job jobs induction =>
      rw [List.flatMap_cons, List.countP_append, countP_jobAlerts applies, induction,
        List.countP_cons]
      simp [add_comm]

end Jobs

private theorem states_le_one (job : RoutineLoadJob) :
    let counts (state : String) : Nat := if job.state = state then 1 else 0
    counts routineLoadStatePaused + counts routineLoadStateCancelled =
        (if job.unhealthy then 1 else 0) ∧
      counts routineLoadStateRunning + counts routineLoadStateNeedSchedule +
        counts routineLoadStatePaused + counts routineLoadStateStopped +
        counts routineLoadStateCancelled ≤ 1 := by
  simp only [RoutineLoadJob.unhealthy, routineLoadStateRunning, routineLoadStateNeedSchedule,
    routineLoadStatePaused, routineLoadStateStopped, routineLoadStateCancelled]
  by_cases running : job.state = "RUNNING"
  · simp [running]
  · by_cases waiting : job.state = "NEED_SCHEDULE"
    · simp [waiting]
    · by_cases paused : job.state = "PAUSED"
      · simp [paused]
      · by_cases stopped : job.state = "STOPPED"
        · simp [stopped]
        · by_cases cancelled : job.state = "CANCELLED" <;>
            simp [running, waiting, paused, stopped, cancelled]

private theorem states_le_total (jobs : List RoutineLoadJob) :
    let summary := summarizeRoutineLoads jobs
    summary.paused + summary.cancelled = summary.unhealthy ∧
      summary.running + summary.needSchedule + summary.paused + summary.stopped +
        summary.cancelled ≤ summary.total := by
  induction jobs with
  | nil => decide
  | cons job jobs induction =>
      have one := states_le_one job
      simp only [summarizeRoutineLoads, List.countP_cons, List.length_cons,
        decide_eq_true_eq] at induction one ⊢
      omega

/-- The alert lists agree with the summaries, whatever the rows. -/
theorem alerts_agree_with_summaries [UnicodeTables] (feRows beRows : List Row)
    (cnRows runMode : Except String (List Row)) (clusterPolicy : ClusterAlertPolicy)
    (parse : String → Except String Document) (loads : RoutineLoadRows)
    (loadPolicy : RoutineLoadAlertPolicy) (now : Time) :
    (∃ result, topology ⟨.ok feRows, .ok beRows, cnRows, runMode⟩ now = .ok result ∧
      let alerts := evaluateAlerts clusterPolicy result
      let summary := result.summary
      (alerts.countP (raisedBy ruleClusterNodeDown) : Int) =
          (summary.frontendTotal - summary.frontendAlive) +
            (summary.backendTotal - summary.backendAlive) +
            (summary.computeTotal - summary.computeAlive) ∧
        ((∃ alert ∈ alerts, alert.ruleID = ruleFrontendJournalLag) ↔
          0 < clusterPolicy.maxJournalLag ∧
            ∃ lag ∈ summary.maxJournalLag, clusterPolicy.maxJournalLag < lag)) ∧
      ∃ snapshot, routineLoadSnapshot parse (.ok loads) now = .ok snapshot ∧
        let alerts := evaluateRoutineLoadAlerts loadPolicy snapshot
        let summary := snapshot.summary
        alerts.countP (raisedBy ruleRoutineLoadPaused) = summary.paused ∧
          alerts.countP (raisedBy ruleRoutineLoadCancelled) = summary.cancelled ∧
          summary.paused + summary.cancelled = summary.unhealthy ∧
          summary.running + summary.needSchedule + summary.paused + summary.stopped +
            summary.cancelled ≤ summary.total := by
  refine ⟨⟨_, rfl, ?_, ?_⟩, ⟨_, rfl, ?_, ?_, states_le_total _⟩⟩
  · rw [countP_nodeDown, List.countP_append, List.countP_append]
    push_cast
    rw [countP_dead, countP_dead, countP_dead]
    rfl
  · rw [exists_journalLag_iff, ← maxJournalLag_exceeds_iff]
    rfl
  · have applies (job : RoutineLoadJob) : RoutineLoadRule.paused.applies loadPolicy job ↔
        job.state = routineLoadStatePaused := Iff.rfl
    exact countP_state _ applies
  · have applies (job : RoutineLoadJob) : RoutineLoadRule.cancelled.applies loadPolicy job ↔
        job.state = routineLoadStateCancelled := Iff.rfl
    exact countP_state _ applies

end StarLens.Service
