import StarLens.Alert.Poller
import StarLens.Service.ClusterAlerts
import StarLens.Service.RoutineLoad

/-! # Routine load alert rules -/

namespace StarLens.Service

open Alert (Alert Manager Verdict dispatchAll)
open Go

def ruleRoutineLoadPaused : String := "routine_load_paused"
def ruleRoutineLoadCancelled : String := "routine_load_cancelled"
def ruleRoutineLoadErrorRatio : String := "routine_load_error_ratio"
def ruleRoutineLoadOffsetLag : String := "routine_load_offset_lag"

structure RoutineLoadAlertPolicy where
  errorRowsRatio : Float64
  errorRowsMinTotal : Int64
  maxOffsetLag : Int64
deriving DecidableEq

def pausedMessage (job : RoutineLoadJob) : String :=
  if job.reasonOfStateChanged != "" then job.reasonOfStateChanged
  else if job.otherMsg != "" then job.otherMsg
  else "StarRocks did not report a reason. Inspect the job with SHOW ROUTINE LOAD."

def jobLabels (job : RoutineLoadJob) : List (String × String) :=
  [("database", job.database), ("job", job.name), ("table", job.table), ("state", job.state)] ++
    if job.dataSourceType != "" then [("source", job.dataSourceType)] else []

def jobSubject (job : RoutineLoadJob) : String := job.database ++ "." ++ job.name

section Alerts

variable [UnicodeTables]

def jobPausedAlert (job : RoutineLoadJob) : Alert where
  key := ruleRoutineLoadPaused ++ "|" ++ jobSubject job
  ruleID := ruleRoutineLoadPaused
  severity := .warning
  title := "Routine load job " ++ Strconv.quote (jobSubject job) ++ " is PAUSED"
  message := pausedMessage job
  labels := jobLabels job

def jobCancelledAlert (job : RoutineLoadJob) : Alert where
  key := ruleRoutineLoadCancelled ++ "|" ++ jobSubject job
  ruleID := ruleRoutineLoadCancelled
  severity := .critical
  title := "Routine load job " ++ Strconv.quote (jobSubject job) ++ " was CANCELLED"
  message := pausedMessage job
  labels := jobLabels job

def stateAlert (job : RoutineLoadJob) : Option Alert :=
  if job.state = routineLoadStatePaused then some (jobPausedAlert job)
  else if job.state = routineLoadStateCancelled then some (jobCancelledAlert job)
  else none

def errorRatioAlert (policy : RoutineLoadAlertPolicy) (job : RoutineLoadJob) : Option Alert :=
  let threshold := policy.errorRowsRatio
  match job.statistics with
  | none => none
  | some statistics =>
      if threshold.le 0 || statistics.totalRows < policy.errorRowsMinTotal then none
      else if statistics.errorRatio.le threshold then none
      else some {
        key := ruleRoutineLoadErrorRatio ++ "|" ++ jobSubject job
        ruleID := ruleRoutineLoadErrorRatio
        severity := .warning
        title :=
          "Routine load job " ++ Strconv.quote (jobSubject job) ++ " error rate is " ++
            Strconv.fixed2 statistics.errorRatio.percent ++ "%"
        message :=
          decimal statistics.errorRows.toInt ++ " of " ++ decimal statistics.totalRows.toInt ++
            " consumed rows failed to load (threshold " ++ Strconv.fixed2 threshold.percent ++
            "%). Check ErrorLogUrls for rejected rows."
        labels := jobLabels job }

def offsetLagAlert (policy : RoutineLoadAlertPolicy) (job : RoutineLoadJob) : Option Alert :=
  match job.offsetLag with
  | none => none
  | some lag =>
      if policy.maxOffsetLag ≤ 0 || lag ≤ policy.maxOffsetLag then none
      else some {
        key := ruleRoutineLoadOffsetLag ++ "|" ++ jobSubject job
        ruleID := ruleRoutineLoadOffsetLag
        severity := .warning
        title :=
          "Routine load job " ++ Strconv.quote (jobSubject job) ++ " is lagging by ~" ++
            decimal lag.toInt ++ " messages"
        message :=
          "Consumption trails the source log end by ~" ++ decimal lag.toInt ++
            " messages (threshold " ++ decimal policy.maxOffsetLag.toInt ++
            "). The job may be under-provisioned or the source is bursting."
        labels := jobLabels job }

def jobAlerts (policy : RoutineLoadAlertPolicy) (job : RoutineLoadJob) : List Alert :=
  (stateAlert job).toList ++ (errorRatioAlert policy job).toList ++
    (offsetLagAlert policy job).toList

def evaluateRoutineLoadAlerts (policy : RoutineLoadAlertPolicy)
    (snapshot : RoutineLoadSnapshot) : List Alert :=
  snapshot.jobs.flatMap (jobAlerts policy)

end Alerts

/-! ## Rules and keys -/

inductive RoutineLoadRule
  | paused
  | cancelled
  | errorRatio
  | offsetLag
deriving DecidableEq

namespace RoutineLoadRule

def id : RoutineLoadRule → String
  | paused => ruleRoutineLoadPaused
  | cancelled => ruleRoutineLoadCancelled
  | errorRatio => ruleRoutineLoadErrorRatio
  | offsetLag => ruleRoutineLoadOffsetLag

def applies (policy : RoutineLoadAlertPolicy) (job : RoutineLoadJob) : RoutineLoadRule → Prop
  | paused => job.state = routineLoadStatePaused
  | cancelled => job.state = routineLoadStateCancelled
  | errorRatio =>
      policy.errorRowsRatio.le 0 = false ∧
        ∃ statistics ∈ job.statistics, policy.errorRowsMinTotal ≤ statistics.totalRows ∧
          statistics.errorRatio.le policy.errorRowsRatio = false
  | offsetLag => 0 < policy.maxOffsetLag ∧ ∃ lag ∈ job.offsetLag, policy.maxOffsetLag < lag

private theorem id_plain (rule : RoutineLoadRule) : '|' ∉ rule.id.toList := by
  cases rule <;> decide

theorem id_inj {rule rule' : RoutineLoadRule} : rule.id = rule'.id ↔ rule = rule' := by
  cases rule <;> cases rule' <;> decide

variable [UnicodeTables] (policy : RoutineLoadAlertPolicy) (job : RoutineLoadJob)

def raised : RoutineLoadRule → Option Alert
  | paused => if job.state = routineLoadStatePaused then some (jobPausedAlert job) else none
  | cancelled =>
      if job.state = routineLoadStateCancelled then some (jobCancelledAlert job) else none
  | errorRatio => errorRatioAlert policy job
  | offsetLag => offsetLagAlert policy job

theorem raised_isSome_iff (rule : RoutineLoadRule) :
    (rule.raised policy job).isSome ↔ rule.applies policy job := by
  cases rule with
  | paused | cancelled => simp [raised, applies]
  | errorRatio =>
      cases statistics : job.statistics with
      | none => simp [raised, errorRatioAlert, applies, statistics]
      | some counts =>
          simp only [raised, errorRatioAlert, applies, statistics, Bool.or_eq_true,
            decide_eq_true_eq, Option.mem_def, Option.some.injEq, exists_eq_left']
          by_cases off : policy.errorRowsRatio.le 0
          · simp [off]
          · by_cases few : counts.totalRows < policy.errorRowsMinTotal
            · simp [few]
            · by_cases low : counts.errorRatio.le policy.errorRowsRatio
              · simp [low]
              · simp [off, few, low, Int64.not_lt.mp few]
  | offsetLag =>
      cases lag : job.offsetLag with
      | none => simp [raised, offsetLagAlert, applies, lag]
      | some messages => simp [raised, offsetLagAlert, applies, lag]

theorem raised_key {rule : RoutineLoadRule} {alert : Alert}
    (raises : rule.raised policy job = some alert) :
    alert.ruleID = rule.id ∧ alert.key = rule.id ++ "|" ++ jobSubject job := by
  cases rule with
  | paused | cancelled =>
      simp only [raised, Option.ite_none_right_eq_some, Option.some.injEq] at raises
      rw [← raises.2]
      exact ⟨rfl, rfl⟩
  | errorRatio =>
      rw [raised, errorRatioAlert] at raises
      split at raises
      · simp at raises
      · simp only [Option.ite_none_left_eq_some, Option.some.injEq] at raises
        rw [← raises.2.2]
        exact ⟨rfl, rfl⟩
  | offsetLag =>
      rw [raised, offsetLagAlert] at raises
      split at raises
      · simp at raises
      · simp only [Option.ite_none_left_eq_some, Option.some.injEq] at raises
        rw [← raises.2]
        exact ⟨rfl, rfl⟩

end RoutineLoadRule

section Keys

variable [UnicodeTables] (policy : RoutineLoadAlertPolicy) (job : RoutineLoadJob)

/-- A job has one state, so at most one of the first two rules applies. -/
theorem stateAlert_eq :
    (stateAlert job).toList = (RoutineLoadRule.paused.raised policy job).toList ++
      (RoutineLoadRule.cancelled.raised policy job).toList := by
  have different : routineLoadStatePaused ≠ routineLoadStateCancelled := by decide
  by_cases paused : job.state = routineLoadStatePaused
  · simp [stateAlert, RoutineLoadRule.raised, paused, different]
  · simp [stateAlert, RoutineLoadRule.raised, paused]

theorem jobAlerts_eq :
    jobAlerts policy job =
      [RoutineLoadRule.paused, .cancelled, .errorRatio, .offsetLag].flatMap fun rule =>
        (rule.raised policy job).toList := by
  simp [jobAlerts, stateAlert_eq policy job, RoutineLoadRule.raised]

theorem mem_jobAlerts {alert : Alert} :
    alert ∈ jobAlerts policy job ↔
      ∃ rule : RoutineLoadRule, rule.raised policy job = some alert := by
  rw [jobAlerts_eq, List.mem_flatMap]
  constructor
  · intro found
    rcases found with ⟨rule, -, raised⟩
    exact ⟨rule, by simpa using raised⟩
  · intro found
    rcases found with ⟨rule, raised⟩
    refine ⟨rule, ?_, by simpa using raised⟩
    cases rule <;> simp

theorem exists_key_iff {key : String} :
    (∃ alert ∈ jobAlerts policy job, alert.key = key) ↔
      ∃ rule : RoutineLoadRule, rule.applies policy job ∧
        rule.id ++ "|" ++ jobSubject job = key := by
  simp only [mem_jobAlerts, ← RoutineLoadRule.raised_isSome_iff, Option.isSome_iff_exists]
  constructor
  · intro found
    rcases found with ⟨alert, ⟨rule, raised⟩, key⟩
    exact ⟨rule, ⟨alert, raised⟩, ((RoutineLoadRule.raised_key policy job raised).2 ▸ key)⟩
  · intro found
    rcases found with ⟨rule, ⟨alert, raised⟩, key⟩
    exact ⟨alert, ⟨rule, raised⟩, (RoutineLoadRule.raised_key policy job raised).2.trans key⟩

end Keys

/-! ## Jobs that share a subject -/

section Subjects

variable [UnicodeTables]

def raisedAlerts (policy : RoutineLoadAlertPolicy) (jobs : List RoutineLoadJob) :
    List (RoutineLoadJob × Alert) :=
  jobs.flatMap fun job => (jobAlerts policy job).map fun alert => (job, alert)

private theorem raisedAlerts_alerts (policy : RoutineLoadAlertPolicy)
    (snapshot : RoutineLoadSnapshot) : (raisedAlerts policy snapshot.jobs).map Prod.snd =
      evaluateRoutineLoadAlerts policy snapshot := by
  simp [raisedAlerts, evaluateRoutineLoadAlerts, List.map_flatMap, Function.comp_def]

/-- No two jobs with different IDs have alerts of one key. -/
def KeysApart (policy : RoutineLoadAlertPolicy) (jobs : List RoutineLoadJob) : Prop :=
  ∀ raised ∈ raisedAlerts policy jobs, ∀ other ∈ raisedAlerts policy jobs,
    raised.1.id ≠ other.1.id → raised.2.key ≠ other.2.key

/-- One dispatch of an evaluation fires, and a later one of its key is
suppressed. -/
def Suppresses {Notifier : Type} (verdicts : List (Verdict Notifier)) (earlier later : Nat) :
    Prop :=
  earlier < later ∧ ∃ fired ∈ verdicts[earlier]?, ∃ suppressed ∈ verdicts[later]?,
    fired.fired.isSome ∧ suppressed.fired = none ∧ fired.alert.key = suppressed.alert.key

private theorem keysApart_iff (policy : RoutineLoadAlertPolicy) (jobs : List RoutineLoadJob) :
    KeysApart policy jobs ↔
      ∀ rule : RoutineLoadRule, ∀ job ∈ jobs, ∀ other ∈ jobs, rule.applies policy job →
        rule.applies policy other → jobSubject job = jobSubject other → job.id = other.id := by
  have member (raised : RoutineLoadJob × Alert) : raised ∈ raisedAlerts policy jobs ↔
      raised.1 ∈ jobs ∧ raised.2 ∈ jobAlerts policy raised.1 := by
    rcases raised with ⟨job, alert⟩
    simp [raisedAlerts]
  constructor
  · intro apart rule job listed other listed' applies applies' same
    by_contra different
    rcases (exists_key_iff policy job).mpr ⟨rule, applies, rfl⟩ with ⟨alert, raised, key⟩
    rcases (exists_key_iff policy other).mpr ⟨rule, applies', rfl⟩ with ⟨alert', raised', key'⟩
    apply apart (job, alert) ((member _).mpr ⟨listed, raised⟩) (other, alert')
      ((member _).mpr ⟨listed', raised'⟩) different
    rw [key, key', same]
  · intro separate raised listed other listed' different same
    rcases (member raised).mp listed with ⟨job, alert⟩
    rcases (member other).mp listed' with ⟨job', alert'⟩
    rcases (exists_key_iff policy raised.1).mp ⟨_, alert, rfl⟩ with ⟨rule, applies, key⟩
    rcases (exists_key_iff policy other.1).mp ⟨_, alert', rfl⟩ with ⟨rule', applies', key'⟩
    rw [← key, ← key', Alert.subjectKey_inj rule.id_plain rule'.id_plain,
      RoutineLoadRule.id_inj] at same
    rcases same with ⟨rfl, subjects⟩
    exact different (separate rule raised.1 job other.1 job' applies applies' subjects)

/-- On a manager on which nothing has fired, only alerts of the same job
suppress each other. -/
def SuppressesOwn (policy : RoutineLoadAlertPolicy) (snapshot : RoutineLoadSnapshot) : Prop :=
  ∀ (Notifier : Type) (manager : Manager Notifier) (clock : Nat → Time) (readings : Nat),
    (∀ key, manager.lastFired key = none) → 0 < manager.cooldown →
    ∀ earlier later,
      Suppresses (dispatchAll clock manager readings
        (evaluateRoutineLoadAlerts policy snapshot)).verdicts earlier later →
      ∀ raised ∈ (raisedAlerts policy snapshot.jobs)[earlier]?,
        ∀ other ∈ (raisedAlerts policy snapshot.jobs)[later]?, raised.1.id = other.1.id

theorem KeysApart.suppressesOwn {policy : RoutineLoadAlertPolicy} {snapshot : RoutineLoadSnapshot}
    (apart : KeysApart policy snapshot.jobs) : SuppressesOwn policy snapshot := by
  intro Notifier manager clock readings fresh positive earlier later suppresses raised listed
    other listed'
  rcases suppresses with ⟨-, fired, taken, suppressed, taken', -, -, key⟩
  -- verdicts and raised alerts are listed in the same order
  have aligned (index : Nat) :
      (dispatchAll clock manager readings
        (evaluateRoutineLoadAlerts policy snapshot)).verdicts[index]?.map Verdict.alert =
        (raisedAlerts policy snapshot.jobs)[index]?.map Prod.snd := by
    rw [← List.getElem?_map, Alert.dispatchAll_alerts, ← raisedAlerts_alerts, List.getElem?_map]
  have first := aligned earlier
  have second := aligned later
  rw [taken, listed] at first
  rw [taken', listed'] at second
  by_contra different
  apply apart raised (List.mem_of_getElem? listed) other (List.mem_of_getElem? listed') different
  rw [← Option.some.inj first, ← Option.some.inj second]
  exact key

/-- The keys tell the jobs apart, and no job silences another one, exactly when
no rule applies to two jobs that share database and name but not the ID. -/
theorem keysApart_and_suppressesOwn_iff (policy : RoutineLoadAlertPolicy)
    (snapshot : RoutineLoadSnapshot) :
    KeysApart policy snapshot.jobs ∧ SuppressesOwn policy snapshot ↔
      ∀ rule : RoutineLoadRule, ∀ job ∈ snapshot.jobs, ∀ other ∈ snapshot.jobs,
        rule.applies policy job → rule.applies policy other →
        job.database ++ "." ++ job.name = other.database ++ "." ++ other.name →
        job.id = other.id := by
  rw [and_iff_left_of_imp KeysApart.suppressesOwn]
  exact keysApart_iff policy snapshot.jobs

end Subjects

private theorem suppresses_of_key_eq (Notifier : Type) {alert other : Alert}
    (same : alert.key = other.key) :
    Suppresses (dispatchAll (fun _ => { wall := 0 }) (.new 600 : Manager Notifier) 0
      [alert, other]).verdicts 0 1 := by
  have early : ({ wall := 0 } : Time).sub ({ wall := 0 } : Time).utc < 600 := by decide
  refine ⟨by decide, _, rfl, _, rfl, rfl, ?_, same⟩
  simp [Manager.dispatch, Manager.new, Manager.fire, Manager.remember, ← same, early]

def cancelledJob (id : String) : RoutineLoadJob where
  id
  name := "orders"
  database := "shop"
  table := "orders"
  state := "CANCELLED"
  dataSourceType := "KAFKA"
  currentTaskNum := some 0
  createTime := ""
  pauseTime := ""
  endTime := ""
  reasonOfStateChanged := ""
  errorLogURLs := ""
  trackingSQL := ""
  otherMsg := ""
  progress := ""
  latestSourcePosition := ""
  offsetLag := none
  statistics := none

/-- A job that was created under the name of an earlier one is cancelled as
well, and nobody hears of it. -/
theorem keys_shared_by_name :
    ∃ (_ : UnicodeTables), ¬∀ (policy : RoutineLoadAlertPolicy) (snapshot : RoutineLoadSnapshot),
      KeysApart policy snapshot.jobs ∧ SuppressesOwn policy snapshot := by
  let tables := UnicodeTables.latin
  refine ⟨tables, fun claimed => ?_⟩
  let jobs := [cancelledJob "1001", cancelledJob "1002"]
  let policy : RoutineLoadAlertPolicy :=
    { errorRowsRatio := .round (1 / 100), errorRowsMinTotal := 10000, maxOffsetLag := 0 }
  have own := (claimed policy {
    collectedAt := { wall := 0 }
    source := "information_schema"
    warnings := []
    summary := summarizeRoutineLoads jobs
    jobs }).2
  have suppresses := suppresses_of_key_eq Unit
    (show (jobCancelledAlert (cancelledJob "1001")).key =
      (jobCancelledAlert (cancelledJob "1002")).key from rfl)
  have same := own Unit (.new 600) (fun _ => { wall := 0 }) 0 (fun key => rfl) (by decide) 0 1
    suppresses (cancelledJob "1001", jobCancelledAlert (cancelledJob "1001")) rfl
    (cancelledJob "1002", jobCancelledAlert (cancelledJob "1002")) rfl
  exact absurd same (by decide)

end StarLens.Service
