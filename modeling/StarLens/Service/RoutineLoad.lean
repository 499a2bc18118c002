import Mathlib.Data.List.Sort
import StarLens.Alert.OverrideJson
import StarLens.Go.Float
import StarLens.Repository.Row

/-! # Routine load jobs

`RoutineLoadService.Snapshot`: rows of the job table become jobs, and the jobs a
summary. -/

namespace StarLens.Service

open Alert (Document Json)
open Go Repository

/-! ## Jobs -/

def routineLoadStateNeedSchedule : String := "NEED_SCHEDULE"
def routineLoadStateRunning : String := "RUNNING"
def routineLoadStatePaused : String := "PAUSED"
def routineLoadStateStopped : String := "STOPPED"
def routineLoadStateCancelled : String := "CANCELLED"
def routineLoadStateUnknown : String := "UNKNOWN"

structure RoutineLoadStatistics where
  totalRows : Int64 := 0
  loadedRows : Int64 := 0
  errorRows : Int64 := 0
  unselectedRows : Int64 := 0
  receivedBytes : Int64 := 0
  taskExecuteTimeMs : Int64 := 0
  committedTaskNum : Int64 := 0
  abortedTaskNum : Int64 := 0
  loadRowsRate : Float64 := 0
  receivedBytesRate : Float64 := 0
deriving DecidableEq

def RoutineLoadStatistics.errorRatio (statistics : RoutineLoadStatistics) : Float64 :=
  if statistics.totalRows ≤ 0 then 0
  else .round (Float64.ofInt64 statistics.errorRows / Float64.ofInt64 statistics.totalRows)

structure RoutineLoadJob where
  id : String
  name : String
  database : String
  table : String
  state : String
  dataSourceType : String
  currentTaskNum : Option Int64
  createTime : String
  pauseTime : String
  endTime : String
  reasonOfStateChanged : String
  errorLogURLs : String
  trackingSQL : String
  otherMsg : String
  progress : String
  latestSourcePosition : String
  offsetLag : Option Int64
  statistics : Option RoutineLoadStatistics
deriving DecidableEq

def RoutineLoadJob.unhealthy (job : RoutineLoadJob) : Bool :=
  job.state = routineLoadStatePaused || job.state = routineLoadStateCancelled

structure RoutineLoadSummary where
  total : Nat
  running : Nat
  needSchedule : Nat
  paused : Nat
  stopped : Nat
  cancelled : Nat
  unhealthy : Nat
  totalErrorRows : Int64

structure RoutineLoadSnapshot where
  collectedAt : Time
  source : String
  warnings : List String
  summary : RoutineLoadSummary
  jobs : List RoutineLoadJob

/-! ## The JSON columns -/

/-- A column of the statistics: its member name and what its value sets. `none`
is a type error. -/
abbrev StatisticsField :=
  String × (Json → RoutineLoadStatistics → Option RoutineLoadStatistics)

def int64Field (name : String)
    (set : Int64 → RoutineLoadStatistics → RoutineLoadStatistics) : StatisticsField :=
  (name, fun value statistics => value.toInt64?.map fun number => set number statistics)

def floatField (name : String)
    (set : Float64 → RoutineLoadStatistics → RoutineLoadStatistics) : StatisticsField :=
  (name, fun value statistics => value.toFloat64?.map fun number => set number statistics)

def statisticsFields : List StatisticsField :=
  [int64Field "totalRows" fun value statistics => { statistics with totalRows := value },
    int64Field "loadedRows" fun value statistics => { statistics with loadedRows := value },
    int64Field "errorRows" fun value statistics => { statistics with errorRows := value },
    int64Field "unselectedRows" fun value statistics => { statistics with unselectedRows := value },
    int64Field "receivedBytes" fun value statistics => { statistics with receivedBytes := value },
    int64Field "taskExecuteTimeMs" fun value statistics =>
      { statistics with taskExecuteTimeMs := value },
    int64Field "committedTaskNum" fun value statistics =>
      { statistics with committedTaskNum := value },
    int64Field "abortedTaskNum" fun value statistics => { statistics with abortedTaskNum := value },
    floatField "loadRowsRate" fun value statistics => { statistics with loadRowsRate := value },
    floatField "receivedBytesRate" fun value statistics =>
      { statistics with receivedBytesRate := value }]

def statisticsField? (key : String) : Option StatisticsField :=
  (statisticsFields.find? fun field => field.1 = key).or
    (statisticsFields.find? fun field => Alert.Field.foldName field.1 = Alert.Field.foldName key)

/-- One member: an unknown name is skipped, and `null` changes nothing. -/
def RoutineLoadStatistics.unmarshalMember (statistics : RoutineLoadStatistics)
    (member : String × Json) : Option RoutineLoadStatistics :=
  match statisticsField? member.1 with
  | none => some statistics
  | some field => if member.2 = .null then some statistics else field.2 member.2 statistics

section Rows

-- The syntax of encoding/json: the document in a text, or what is wrong with it.
variable (parse : String → Except String Document)

/-- A column that is missing or malformed gives no statistics. -/
def parseRoutineLoadStatistics (raw : String) : Option RoutineLoadStatistics :=
  let raw := Strings.trimSpace raw
  if raw = "" || raw = "NULL" then none
  else
    match parse raw with
    | .ok (.object members) => members.foldlM RoutineLoadStatistics.unmarshalMember {}
    | .ok .null => some {}
    | .ok .other => none
    | .error _ => none

/-- The members of a map: the last one of a name counts. -/
def lastMembers (members : List (String × Json)) : List (String × Json) :=
  members.foldl (fun entries member =>
    member :: entries.filter fun entry => entry.1 != member.1) []

/-- A number that is no float64 makes the map unreadable. -/
def readableNumber : Json → Bool
  | .number value integral => (Json.toFloat64? (.number value integral)).isSome
  | _ => true

/-- Offsets are texts or numbers; other values are skipped. -/
def offset? : Json → Option Int64
  | .string text => Strconv.parseInt text
  | .number value integral =>
      (Json.toFloat64? (.number value integral)).map Float64.toInt64
  | _ => none

def parseOffsetMap (raw : String) : List (String × Int64) :=
  let raw := Strings.trimSpace raw
  if raw = "" || raw = "NULL" || raw.toList.head? != some '\x7b' then []
  else
    match parse raw with
    | .ok (.object members) =>
        if members.all fun member => readableNumber member.2 then
          (lastMembers members).filterMap fun member =>
            (offset? member.2).map fun offset => (member.1, offset)
        else []
    | _ => []

/-- The partitions of both maps with what is left to consume, added up with the
wraparound of int64. -/
def computeOffsetLag (progressRaw latestRaw : String) : Option Int64 :=
  let progress := parseOffsetMap parse progressRaw
  let latest := parseOffsetMap parse latestRaw
  let deltas := latest.filterMap fun entry =>
    (progress.lookup entry.1).map fun consumed => entry.2 - consumed
  if deltas.isEmpty then none
  else some (deltas.foldl (fun lag delta => if 0 < delta then lag + delta else lag) 0)

variable [UnicodeTables]

/-- Unknown states pass as they are. -/
def normalizeRoutineLoadState (raw : String) : String :=
  let state := Strings.toUpper (Strings.trimSpace raw)
  if state = "" then routineLoadStateUnknown else state

/-- Some columns print the literal NULL. -/
def nonNull (text : String) : String := if text = "NULL" then "" else text

def mapRoutineLoadJob (row : Row) : RoutineLoadJob :=
  let progress := nonNull (row.str ["progress"])
  let latestSourcePosition := nonNull (row.str ["latestsourceposition", "latest_source_position"])
  { id := row.str ["id"]
    name := row.str ["name"]
    database := row.str ["dbname", "db_name"]
    table := row.str ["tablename", "table_name"]
    state := normalizeRoutineLoadState (row.str ["state"])
    dataSourceType := Strings.toUpper (row.str ["datasourcetype", "data_source_type"])
    currentTaskNum := row.int64 ["currenttasknum", "current_task_num"]
    createTime := nonNull (row.str ["createtime", "create_time"])
    pauseTime := nonNull (row.str ["pausetime", "pause_time"])
    endTime := nonNull (row.str ["endtime", "end_time"])
    reasonOfStateChanged := nonNull
      (row.str ["reasonofstatechanged", "reasons_of_state_changed", "reason_of_state_changed"])
    errorLogURLs := nonNull (row.str ["errorlogurls", "error_log_urls"])
    trackingSQL := nonNull (row.str ["trackingsql", "tracking_sql"])
    otherMsg := nonNull (row.str ["othermsg", "other_msg"])
    progress
    latestSourcePosition
    offsetLag := computeOffsetLag parse progress latestSourcePosition
    statistics := parseRoutineLoadStatistics parse (row.str ["statistic", "statistics"]) }

end Rows

/-! ## The snapshot -/

def summarizeRoutineLoads (jobs : List RoutineLoadJob) : RoutineLoadSummary where
  total := jobs.length
  running := jobs.countP fun job => job.state = routineLoadStateRunning
  needSchedule := jobs.countP fun job => job.state = routineLoadStateNeedSchedule
  paused := jobs.countP fun job => job.state = routineLoadStatePaused
  stopped := jobs.countP fun job => job.state = routineLoadStateStopped
  cancelled := jobs.countP fun job => job.state = routineLoadStateCancelled
  unhealthy := jobs.countP RoutineLoadJob.unhealthy
  totalErrorRows := jobs.foldl (fun total job =>
    total + (job.statistics.map RoutineLoadStatistics.errorRows).getD 0) 0

def routineLoadStateRank (state : String) : Nat :=
  if state = routineLoadStateCancelled then 0
  else if state = routineLoadStatePaused then 1
  else if state = routineLoadStateNeedSchedule then 2
  else if state = routineLoadStateRunning then 3
  else if state = routineLoadStateStopped then 5
  else 4

def jobLess (left right : RoutineLoadJob) : Bool :=
  if routineLoadStateRank left.state ≠ routineLoadStateRank right.state then
    routineLoadStateRank left.state < routineLoadStateRank right.state
  else if left.database ≠ right.database then left.database < right.database
  else left.name < right.name

/-- Jobs that need attention come first. The sort is stable. -/
def sortRoutineLoadJobs (jobs : List RoutineLoadJob) : List RoutineLoadJob :=
  jobs.insertionSort fun left right => !jobLess right left

/-- What the repository reads, with the path that served it. -/
structure RoutineLoadRows where
  rows : List Row
  source : String
  warnings : List String

section Snapshot

variable (parse : String → Except String Document) [UnicodeTables]

def routineLoadSnapshot (read : Except String RoutineLoadRows) (now : Time) :
    Except String RoutineLoadSnapshot := do
  let result ← read.mapError fun failure =>
    "starrocks unavailable: reading routine load jobs failed: " ++ failure
  let jobs := sortRoutineLoadJobs (result.rows.map (mapRoutineLoadJob parse))
  return {
    collectedAt := now.utc
    source := result.source
    warnings := result.warnings
    summary := summarizeRoutineLoads jobs
    jobs }

end Snapshot

end StarLens.Service
