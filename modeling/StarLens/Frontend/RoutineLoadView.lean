import StarLens.Foundation.StableSort
import StarLens.Frontend.TopologyView
import StarLens.Go.Representable
import StarLens.Service.AlertCounts

/-! # The routine load page

The page marks jobs by their state and by an error ratio of its own computing.
The alert rules look at the same jobs. -/

namespace StarLens.Frontend

open Alert (Alert Document Severity)
open Foundation Go Service

/-! ## The table of jobs -/

inductive StateTone
  | success
  | primary
  | warning
  | destructive
  | muted
deriving DecidableEq

def statePresentation : List (String × StateTone) :=
  [("RUNNING", .success), ("NEED_SCHEDULE", .primary), ("PAUSED", .warning),
    ("CANCELLED", .destructive), ("STOPPED", .muted)]

structure JobStateBadge where
  text : String
  tone : StateTone

/-- A state that the page does not know is shown as it is. -/
def jobStateBadge (locale : Locale) (state : String) : JobStateBadge :=
  match statePresentation.lookup state with
  | some tone => { text := locale.t ("jobState." ++ state) [], tone }
  | none => { text := orElse state (locale.t "jobState.UNKNOWN" []), tone := .muted }

/-- The operator `>`, on numbers that are float64. -/
def greater (left right : Float64) : Bool := right.lt left

def jsNumber (value : Int64) : Float64 := .round value.toInt

def errorRatioHighlight : Float64 := .round (1 / 100)

def errorRatio : Option RoutineLoadStatistics → Float64
  | none => 0
  | some statistics =>
      if greater (jsNumber statistics.totalRows) 0 then
        .round (Float64.ofInt64 statistics.errorRows / Float64.ofInt64 statistics.totalRows)
      else 0

inductive ErrorRowsTone
  | plain
  | warning
  | destructive
deriving DecidableEq

def errorRowsTone (statistics : Option RoutineLoadStatistics) : ErrorRowsTone :=
  match statistics with
  | none => .plain
  | some counts =>
      if greater (jsNumber counts.errorRows) 0 then
        if greater (errorRatio statistics) errorRatioHighlight then .destructive else .warning
      else .plain

structure JobReason where
  reason : String
  errorLogURL : Option String

structure JobRow where
  key : String
  /-- The red background of the row. -/
  marked : Bool
  name : String
  table : String
  state : JobStateBadge
  source : String
  tasks : String
  loadedRows : String
  errorRows : String
  errorRowsTone : ErrorRowsTone
  lag : String
  /-- The second row of an unhealthy job. -/
  detail : Option JobReason

def jobRow (locale : Locale) (job : RoutineLoadJob) : JobRow where
  key := orElse job.id (job.database ++ "." ++ job.name)
  marked := job.state = "CANCELLED"
  name := job.name
  table := job.database ++ "." ++ job.table
  state := jobStateBadge locale job.state
  source := orElse job.dataSourceType "—"
  tasks := locale.formatInt64 job.currentTaskNum
  loadedRows := locale.formatInt64 (job.statistics.map RoutineLoadStatistics.loadedRows)
  errorRows := locale.formatInt64 (job.statistics.map RoutineLoadStatistics.errorRows)
  errorRowsTone := errorRowsTone job.statistics
  lag :=
    match job.offsetLag with
    | some lag => locale.formatInt64 (some lag)
    | none => "—"
  detail :=
    let reason := orElse job.reasonOfStateChanged job.otherMsg
    if (job.state = "PAUSED" ∨ job.state = "CANCELLED") ∧ reason ≠ "" then
      some {
        reason
        errorLogURL :=
          if job.errorLogURLs = "" then none
          else some (String.ofList (job.errorLogURLs.toList.takeWhile (· != ','))) }
    else none

/-! ## The page -/

structure LoadSummaryRow where
  running : StatCard
  paused : StatCard
  cancelled : StatCard
  errorRows : StatCard

def loadSummaryRow (locale : Locale) (summary : RoutineLoadSummary) : LoadSummaryRow where
  running := {
    label := locale.t "loads.summary.running" []
    value := toString summary.running ++ "/" ++ toString summary.total
    hint :=
      if 0 < summary.needSchedule then
        locale.counted "loads.summary.runningHintWaiting" summary.needSchedule
      else locale.t "loads.summary.runningHintAll" []
    tone := if summary.running = summary.total ∧ 0 < summary.total then .good else .neutral }
  paused := {
    label := locale.t "loads.summary.paused" []
    value := locale.formatNumber (some summary.paused)
    hint :=
      if 0 < summary.paused then locale.t "loads.summary.pausedHint" []
      else locale.t "loads.summary.pausedHintNone" []
    tone := if 0 < summary.paused then .bad else .good }
  cancelled := {
    label := locale.t "loads.summary.cancelled" []
    value := locale.formatNumber (some summary.cancelled)
    hint :=
      if 0 < summary.cancelled then locale.t "loads.summary.cancelledHint" []
      else locale.counted "loads.summary.cancelledHintNone" summary.stopped
    tone := if 0 < summary.cancelled then .bad else .good }
  errorRows := {
    label := locale.t "loads.summary.errorRows" []
    value := locale.formatInt64 (some summary.totalErrorRows)
    hint := locale.t "loads.summary.errorRowsHint" []
    tone := if greater (jsNumber summary.totalErrorRows) 0 then .neutral else .good }

structure RoutineLoadQuery where
  data : Option RoutineLoadSnapshot
  error : Option Thrown
  isPending : Bool
  isError : Bool
  isFetching : Bool

structure LoadsPage where
  staleNotice : Option String
  warnings : List String
  summary : LoadSummaryRow
  jobCount : String
  emptyMessage : Option String
  rows : List JobRow

inductive LoadsScreen
  | skeleton
  | errorState (title : String) (card : Card) (isRetrying : Bool)
  | nothing
  | page (page : LoadsPage)

def loadsPage (locale : Locale) (isError : Bool) (data : RoutineLoadSnapshot) : LoadsPage where
  staleNotice := if isError then some (locale.t "loads.staleNotice" []) else none
  warnings := data.warnings
  summary := loadSummaryRow locale data.summary
  jobCount := toString data.jobs.length
  emptyMessage := if data.jobs.length = 0 then some (locale.t "loads.empty" []) else none
  rows := data.jobs.map (jobRow locale)

def routineLoadView (locale : Locale) (query : RoutineLoadQuery) : LoadsScreen :=
  if query.isPending then .skeleton
  else
    match query.data with
    | none =>
        if query.isError then
          .errorState (locale.t "loads.loadError" []) (describe (query.error.getD .other))
            query.isFetching
        else .nothing
    | some data => .page (loadsPage locale query.isError data)

/-! ## The error ratio -/

theorem greater_zero_iff (value : Int64) :
    greater (jsNumber value) 0 ↔ 0 < value := by
  have sign : 0 < Float64.ofInt64 value ↔ 0 < value := by
    rw [Int64.lt_iff_toInt_lt]
    constructor
    · intro positive
      by_contra small
      have nonpositive : (value.toInt : ℚ) ≤ 0 := by exact_mod_cast not_lt.mp small
      exact absurd positive (not_lt.mpr (Float64.nearest_nonpos nonpositive))
    · intro positive
      have large : (1 : ℚ) ≤ value.toInt := by exact_mod_cast positive
      exact zero_lt_one.trans_le (Float64.one_le_nearest large)
  have range : ∃ exact, jsNumber value = .finite (Float64.nearest value.toInt) exact :=
    Float64.round_toInt rfl
  rcases range with ⟨exact, rounded⟩
  rw [← sign, greater, rounded, Float64.zero_eq, Float64.lt, decide_eq_true_eq]
  rfl

private theorem errorRatio_eq (statistics : RoutineLoadStatistics) :
    errorRatio (some statistics) = statistics.errorRatio := by
  rw [errorRatio, RoutineLoadStatistics.errorRatio]
  by_cases positive : 0 < statistics.totalRows
  · rw [if_pos ((greater_zero_iff _).mpr positive), if_neg (Int64.not_le.mpr positive)]
  · rw [if_neg (mt (greater_zero_iff _).mp positive), if_pos (Int64.not_lt.mp positive)]

private theorem errorRatioHighlight_eq :
    ∃ limit exact, errorRatioHighlight = .finite limit exact ∧ 0 < limit := by
  have small : |(1 / 100 : ℚ)| < Float64.overflow := by
    calc |(1 / 100 : ℚ)| < 2 ^ 64 := by norm_num
      _ < Float64.overflow := Float64.two_pow_lt_overflow
  have least : (2 : ℚ) ^ (-1074 : Int) ≤ 1 / 100 :=
    calc (2 : ℚ) ^ (-1074 : Int) ≤ 2 ^ (-7 : Int) := zpow_le_zpow_right₀ (by norm_num) (by norm_num)
      _ ≤ 1 / 100 := by norm_num
  exact ⟨_, _, Float64.round_of_lt small, Float64.nearest_pos least⟩

private theorem greater_iff {value : Float64} (number : value ≠ .nan) {limit : ℚ}
    (exact : Float64.Exact limit) :
    greater value (.finite limit exact) ↔ value.le (.finite limit exact) = false := by
  cases value with
  | finite value =>
      simp only [greater, Float64.lt, Float64.le, decide_eq_true_eq, decide_eq_false_iff_not,
        not_le]
  | inf negative => cases negative <;> simp [greater, Float64.lt, Float64.le]
  | nan => exact absurd rfl number

private theorem errorRatio_ne_nan (statistics : RoutineLoadStatistics) :
    statistics.errorRatio ≠ .nan := by
  rw [RoutineLoadStatistics.errorRatio]
  split
  · simp [Float64.zero_eq]
  · rw [Float64.round]
    split <;> simp

private theorem errorRows_pos {statistics : RoutineLoadStatistics} {limit : ℚ}
    (nonnegative : 0 ≤ limit)
    {exact : Float64.Exact limit} (above : statistics.errorRatio.le (.finite limit exact) = false) :
    0 < statistics.errorRows := by
  by_contra small
  rw [RoutineLoadStatistics.errorRatio] at above
  have numerator : Float64.ofInt64 statistics.errorRows ≤ 0 := by
    apply Float64.nearest_nonpos
    exact_mod_cast Int64.le_iff_toInt_le.mp (Int64.not_lt.mp small)
  split at above
  case isTrue => simp [Float64.le, nonnegative.not_gt] at above
  case isFalse totals =>
      have denominator : 0 < Float64.ofInt64 statistics.totalRows := by
        have large : (1 : ℚ) ≤ statistics.totalRows.toInt := by
          exact_mod_cast Int64.lt_iff_toInt_lt.mp (Int64.not_le.mp totals)
        exact zero_lt_one.trans_le (Float64.one_le_nearest large)
      have quotient := div_nonpos_of_nonpos_of_nonneg numerator denominator.le
      rw [Float64.round] at above
      split at above
      case isTrue huge =>
          have negative : Float64.ofInt64 statistics.errorRows /
              Float64.ofInt64 statistics.totalRows < 0 := by
            apply lt_of_le_of_ne quotient
            intro zero
            rw [zero, abs_zero] at huge
            have large := Float64.two_pow_lt_overflow
            linarith
          simp [Float64.le, negative] at above
      case isFalse =>
          have rounded := Float64.nearest_nonpos quotient
          simp only [Float64.le, decide_eq_false_iff_not, not_le] at above
          linarith

private theorem errorRowsTone_iff (job : RoutineLoadJob) :
    errorRowsTone job.statistics = .destructive ↔
      ∃ statistics ∈ job.statistics, statistics.errorRatio.le errorRatioHighlight = false := by
  rcases errorRatioHighlight_eq with ⟨limit, exact, same, positive⟩
  cases counted : job.statistics with
  | none => simp [errorRowsTone]
  | some statistics =>
      simp only [errorRowsTone, errorRatio_eq, same, Option.mem_def, Option.some.injEq,
        exists_eq_left']
      rw [← greater_iff (errorRatio_ne_nan statistics)]
      by_cases above : greater statistics.errorRatio (.finite limit exact)
      · have rows := errorRows_pos positive.le
          ((greater_iff (errorRatio_ne_nan statistics) exact).mp above)
        simp [above, (greater_zero_iff _).mpr rows]
      · simp only [above, Bool.false_eq_true, if_false, iff_false]
        split <;> simp

/-! ## The order of the jobs -/

private theorem strictWeak_jobLess : StrictWeak jobLess :=
  strictWeak_then (fun job : RoutineLoadJob => routineLoadStateRank job.state)
    (strictWeak_keys RoutineLoadJob.database RoutineLoadJob.name)

private theorem sortRoutineLoadJobs_ranks (jobs : List RoutineLoadJob) :
    (sortRoutineLoadJobs jobs).Pairwise fun earlier later =>
      routineLoadStateRank earlier.state ≤ routineLoadStateRank later.state := by
  apply (strictWeak_jobLess.pairwise_insertionSort jobs).imp
  intro earlier later order
  by_contra before
  have different : routineLoadStateRank later.state ≠ routineLoadStateRank earlier.state := by
    omega
  simp only [jobLess, if_pos different, Bool.not_eq_true', decide_eq_false_iff_not] at order
  omega

private theorem rank_eq_zero_iff (state : String) :
    routineLoadStateRank state = 0 ↔ state = routineLoadStateCancelled := by
  rw [routineLoadStateRank]
  split
  case isTrue cancelled => simp [cancelled]
  case isFalse other =>
      simp only [other, iff_false]
      split
      · simp
      · split
        · simp
        · split
          · simp
          · split <;> simp

private theorem rank_le_one_iff (job : RoutineLoadJob) :
    routineLoadStateRank job.state ≤ 1 ↔ job.unhealthy := by
  rw [routineLoadStateRank, RoutineLoadJob.unhealthy]
  by_cases cancelled : job.state = routineLoadStateCancelled
  · simp [cancelled]
  · by_cases paused : job.state = routineLoadStatePaused
    · rw [if_neg cancelled, if_pos paused]
      simp [paused]
    · simp only [cancelled, paused, if_false, decide_false, Bool.or_self, Bool.false_eq_true,
        iff_false]
      split
      · simp
      · split
        · simp
        · split <;> simp

private theorem sortRoutineLoadJobs_urgent (jobs : List RoutineLoadJob) :
    (sortRoutineLoadJobs jobs).Pairwise fun earlier later =>
      (later.state = routineLoadStateCancelled → earlier.state = routineLoadStateCancelled) ∧
        (later.unhealthy → earlier.unhealthy) := by
  apply (sortRoutineLoadJobs_ranks jobs).imp
  intro earlier later order
  rw [← rank_eq_zero_iff, ← rank_eq_zero_iff, ← rank_le_one_iff, ← rank_le_one_iff]
  omega

/-! ## The page and the pager -/

section Alerts

variable [UnicodeTables]

structure RowAgrees (policy : RoutineLoadAlertPolicy) (job : RoutineLoadJob) (row : JobRow) :
    Prop where
  marked : row.marked ↔ (RoutineLoadRule.cancelled.raised policy job).isSome
  /-- The second row has the alert's message, if StarRocks gave a reason. -/
  detail : row.detail.map JobReason.reason =
    if job.reasonOfStateChanged ≠ "" ∨ job.otherMsg ≠ "" then
      (stateAlert job).map Alert.message
    else none
  /-- With the default ratio, from the number of rows on from which it counts. -/
  errorRows : policy.errorRowsRatio = errorRatioHighlight →
    ((RoutineLoadRule.errorRatio.raised policy job).isSome ↔
      row.errorRowsTone = .destructive ∧
        ∃ statistics ∈ job.statistics, policy.errorRowsMinTotal ≤ statistics.totalRows)

structure LoadsAgree (policy : RoutineLoadAlertPolicy) (snapshot : RoutineLoadSnapshot)
    (page : LoadsPage) : Prop where
  rows : List.Forall₂ (RowAgrees policy) snapshot.jobs page.rows
  /-- The marked rows come first, and then those of the other unhealthy jobs. -/
  marked : page.rows.Pairwise fun earlier later => later.marked → earlier.marked
  unhealthy : snapshot.jobs.Pairwise fun earlier later => later.unhealthy → earlier.unhealthy
  paused : page.summary.paused.tone = .bad ↔
    ∃ alert ∈ evaluateRoutineLoadAlerts policy snapshot, alert.ruleID = ruleRoutineLoadPaused
  cancelled : page.summary.cancelled.tone = .bad ↔
    ∃ alert ∈ evaluateRoutineLoadAlerts policy snapshot, alert.severity = .critical

private theorem stateAlert_messages (job : RoutineLoadJob) :
    (stateAlert job).map Alert.message =
      if job.state = "PAUSED" ∨ job.state = "CANCELLED" then some (pausedMessage job)
      else none := by
  rw [stateAlert, routineLoadStatePaused, routineLoadStateCancelled]
  by_cases paused : job.state = "PAUSED"
  · simp [paused, jobPausedAlert]
  · by_cases cancelled : job.state = "CANCELLED"
    · simp [cancelled, jobCancelledAlert]
    · simp [paused, cancelled]

private theorem jobRow_agrees (locale : Locale) (policy : RoutineLoadAlertPolicy)
    (job : RoutineLoadJob) : RowAgrees policy job (jobRow locale job) where
  marked := by
    rw [RoutineLoadRule.raised_isSome_iff]
    exact decide_eq_true_iff
  detail := by
    rw [stateAlert_messages]
    simp only [jobRow, orElse, pausedMessage]
    by_cases reason : job.reasonOfStateChanged = ""
    · by_cases other : job.otherMsg = ""
      · simp [reason, other]
      · by_cases urgent : job.state = "PAUSED" ∨ job.state = "CANCELLED" <;>
          simp [reason, other, urgent]
    · by_cases urgent : job.state = "PAUSED" ∨ job.state = "CANCELLED" <;>
        simp [reason, urgent]
  errorRows := by
    intro same
    rw [RoutineLoadRule.raised_isSome_iff]
    change RoutineLoadRule.applies policy job .errorRatio ↔
      errorRowsTone job.statistics = .destructive ∧ _
    rcases errorRatioHighlight_eq with ⟨limit, exact, finite, positive⟩
    have on : errorRatioHighlight.le 0 = false := by
      simp [finite, Float64.zero_eq, Float64.le, positive]
    rw [errorRowsTone_iff, RoutineLoadRule.applies, same]
    simp only [on, true_and]
    cases job.statistics <;> simp [and_comm]

private theorem raised_critical_iff {policy : RoutineLoadAlertPolicy} {job : RoutineLoadJob}
    {rule : RoutineLoadRule} {alert : Alert} (raised : rule.raised policy job = some alert) :
    alert.severity = .critical ↔ alert.ruleID = RoutineLoadRule.cancelled.id := by
  rw [(RoutineLoadRule.raised_key policy job raised).1, RoutineLoadRule.id_inj]
  cases rule with
  | paused =>
      simp only [RoutineLoadRule.raised, Option.ite_none_right_eq_some, Option.some.injEq] at raised
      simp [← raised.2, jobPausedAlert]
  | cancelled =>
      simp only [RoutineLoadRule.raised, Option.ite_none_right_eq_some, Option.some.injEq] at raised
      simp [← raised.2, jobCancelledAlert]
  | errorRatio =>
      rw [RoutineLoadRule.raised, errorRatioAlert] at raised
      split at raised
      · cases raised
      · simp only [Option.ite_none_left_eq_some, Option.some.injEq] at raised
        simp [← raised.2.2]
  | offsetLag =>
      rw [RoutineLoadRule.raised, offsetLagAlert] at raised
      split at raised
      · cases raised
      · simp only [Option.ite_none_left_eq_some, Option.some.injEq] at raised
        simp [← raised.2]

theorem exists_state_iff {policy : RoutineLoadAlertPolicy} {rule : RoutineLoadRule}
    {state : String} (applies : ∀ job, rule.applies policy job ↔ job.state = state)
    (snapshot : RoutineLoadSnapshot) :
    (∃ alert ∈ evaluateRoutineLoadAlerts policy snapshot, alert.ruleID = rule.id) ↔
      0 < snapshot.jobs.countP fun job => job.state = state := by
  rw [← countP_state snapshot.jobs applies, List.countP_pos_iff]
  apply exists_congr
  intro alert
  rw [raisedBy_iff, evaluateRoutineLoadAlerts]

private theorem exists_critical_iff (policy : RoutineLoadAlertPolicy)
    (snapshot : RoutineLoadSnapshot) :
    (∃ alert ∈ evaluateRoutineLoadAlerts policy snapshot, alert.severity = .critical) ↔
      ∃ alert ∈ evaluateRoutineLoadAlerts policy snapshot,
        alert.ruleID = RoutineLoadRule.cancelled.id := by
  apply exists_congr
  intro alert
  apply and_congr_right
  intro member
  rcases List.mem_flatMap.mp member with ⟨job, -, listed⟩
  rcases (mem_jobAlerts policy job).mp listed with ⟨rule, raised⟩
  exact raised_critical_iff raised

private theorem loadsPage_agrees (policy : RoutineLoadAlertPolicy) (locale : Locale)
    (isError : Bool)
    {parse : String → Except String Document} {read : Except String RoutineLoadRows} {now : Time}
    {snapshot : RoutineLoadSnapshot} (ok : routineLoadSnapshot parse read now = .ok snapshot) :
    LoadsAgree policy snapshot (loadsPage locale isError snapshot) := by
  cases read with
  | error failure => cases ok
  | ok loads =>
      cases ok
      have order := sortRoutineLoadJobs_urgent (loads.rows.map (mapRoutineLoadJob parse))
      constructor
      case rows =>
          rw [loadsPage, List.forall₂_map_right_iff, List.forall₂_same]
          exact fun job _ => jobRow_agrees locale policy job
      case marked =>
          rw [loadsPage, List.pairwise_map]
          apply order.imp
          intro earlier later urgent
          simpa [jobRow, routineLoadStateCancelled] using urgent.1
      case unhealthy => exact order.imp And.right
      case paused =>
          rw [show ruleRoutineLoadPaused = RoutineLoadRule.paused.id from rfl,
            exists_state_iff fun _ => Iff.rfl]
          simp [loadsPage, loadSummaryRow, summarizeRoutineLoads]
      case cancelled =>
          rw [exists_critical_iff, exists_state_iff fun _ => Iff.rfl]
          simp [loadsPage, loadSummaryRow, summarizeRoutineLoads]

end Alerts

/-- The page of a snapshot agrees with the alerts of the same snapshot: its rows are
marked, explained and put first where the pager raises alerts on their jobs. -/
theorem loads_agree_with_pager [UnicodeTables] {parse : String → Except String Document}
    {read : Except String RoutineLoadRows} {now : Time} {snapshot : RoutineLoadSnapshot}
    (ok : routineLoadSnapshot parse read now = .ok snapshot) (policy : RoutineLoadAlertPolicy)
    (locale : Locale) {query : RoutineLoadQuery} (data : query.data = some snapshot)
    (loaded : query.isPending = false) :
    ∃ page, routineLoadView locale query = .page page ∧
      (page.staleNotice.isSome ↔ query.isError) ∧ LoadsAgree policy snapshot page := by
  refine ⟨loadsPage locale query.isError snapshot, ?_, ?_, ?_⟩
  · simp [routineLoadView, loaded, data]
  · cases stale : query.isError <;> simp [loadsPage]
  · exact loadsPage_agrees policy locale query.isError ok

def cancelledJob : RoutineLoadRows where
  rows :=
    [[("id", "1"), ("name", "orders"), ("dbname", "sales"), ("state", "RUNNING")],
      [("id", "2"), ("name", "clicks"), ("dbname", "web"), ("state", "CANCELLED"),
        ("othermsg", "topic was deleted")]]
  source := "show_routine_load"
  warnings := []

theorem loads_agree_with_pager_cancelledJob :
    ∃ (_ : UnicodeTables) (snapshot : RoutineLoadSnapshot) (page : LoadsPage),
      routineLoadSnapshot (fun text => .error text) (.ok cancelledJob) { wall := 0 } =
        .ok snapshot ∧
      routineLoadView .plain ⟨some snapshot, none, false, false, false⟩ =
        .page page ∧
      page.rows.map JobRow.marked = [true, false] ∧
      LoadsAgree
        { errorRowsRatio := Alert.Config.standard.errorRowsRatio
          errorRowsMinTotal := Alert.Config.standard.errorRowsMinTotal
          maxOffsetLag := Alert.Config.standard.maxOffsetLag } snapshot page := by
  let tables := UnicodeTables.latin
  have ok : routineLoadSnapshot (fun text => .error text) (.ok cancelledJob) { wall := 0 } =
    .ok _ := rfl
  rcases loads_agree_with_pager ok
    { errorRowsRatio := Alert.Config.standard.errorRowsRatio
      errorRowsMinTotal := Alert.Config.standard.errorRowsMinTotal
      maxOffsetLag := Alert.Config.standard.maxOffsetLag } .plain
    (show RoutineLoadQuery.data ⟨some _, none, false, false, false⟩ = _ from rfl) rfl with
    ⟨page, shown, -, agrees⟩
  refine ⟨tables, _, page, ok, shown, ?_, agrees⟩
  rw [← LoadsScreen.page.inj shown]
  decide

end StarLens.Frontend
