import StarLens.Go.Maps
import StarLens.Service.RoutineLoadAlerts
import StarLens.Service.RoutineLoadReads

/-! # The columns of a job on both read paths

The two read paths spell the columns of a job differently. A row that has each
column under one of the spellings is mapped to the same job whichever it is. -/

namespace StarLens.Service

open Alert (Document)
open Go Repository

/-! ## Columns -/

inductive JobColumn
  | id
  | name
  | dbName
  | tableName
  | state
  | dataSourceType
  | currentTaskNum
  | createTime
  | pauseTime
  | endTime
  | reasonOfStateChanged
  | errorLogURLs
  | trackingSQL
  | otherMsg
  | progress
  | latestSourcePosition
  | statistic
deriving DecidableEq

namespace JobColumn

def all : List JobColumn :=
  [id, name, dbName, tableName, state, dataSourceType, currentTaskNum, createTime, pauseTime,
    endTime, reasonOfStateChanged, errorLogURLs, trackingSQL, otherMsg, progress,
    latestSourcePosition, statistic]

/-- The key of a column that SHOW ROUTINE LOAD returns. -/
def shown : JobColumn → String
  | id => "id"
  | name => "name"
  | dbName => "dbname"
  | tableName => "tablename"
  | state => "state"
  | dataSourceType => "datasourcetype"
  | currentTaskNum => "currenttasknum"
  | createTime => "createtime"
  | pauseTime => "pausetime"
  | endTime => "endtime"
  | reasonOfStateChanged => "reasonofstatechanged"
  | errorLogURLs => "errorlogurls"
  | trackingSQL => "trackingsql"
  | otherMsg => "othermsg"
  | progress => "progress"
  | latestSourcePosition => "latestsourceposition"
  | statistic => "statistic"

/-- The key of a column of `information_schema.routine_load_jobs`. -/
def listed : JobColumn → String
  | id => "id"
  | name => "name"
  | dbName => "db_name"
  | tableName => "table_name"
  | state => "state"
  | dataSourceType => "data_source_type"
  | currentTaskNum => "current_task_num"
  | createTime => "create_time"
  | pauseTime => "pause_time"
  | endTime => "end_time"
  | reasonOfStateChanged => "reasons_of_state_changed"
  | errorLogURLs => "error_log_urls"
  | trackingSQL => "tracking_sql"
  | otherMsg => "other_msg"
  | progress => "progress"
  | latestSourcePosition => "latest_source_position"
  | statistic => "statistics"

def aliases (column : JobColumn) : List String :=
  match column with
  | id | name | state | progress => [column.shown]
  | reasonOfStateChanged => [column.shown, column.listed, "reason_of_state_changed"]
  | _ => [column.shown, column.listed]

theorem mem_all (column : JobColumn) : column ∈ all := by
  cases column <;> decide

/-- A spelling of the columns is among the names they are read by, and no other
name of a column is the spelling of any. -/
structure Spelling (spelled : JobColumn → String) : Prop where
  distinct : (all.map spelled).Nodup
  named : ∀ column, spelled column ∈ column.aliases
  apart : ∀ column, ∀ other ∈ column.aliases, other ≠ spelled column →
    other ∉ all.map spelled

private theorem spelling_shown : Spelling shown := by
  constructor
  · decide +kernel
  · intro column
    cases column <;> decide +kernel
  · intro column
    cases column <;>
      simp only [aliases, List.forall_mem_cons, List.not_mem_nil, false_implies, implies_true,
        and_true] <;>
      decide +kernel

private theorem spelling_listed : Spelling listed := by
  constructor
  · decide +kernel
  · intro column
    cases column <;> decide +kernel
  · intro column
    cases column <;>
      simp only [aliases, List.forall_mem_cons, List.not_mem_nil, false_implies, implies_true,
        and_true] <;>
      decide +kernel

end JobColumn

/-! ## Rows -/

/-- A row with the values of a job under one spelling, and under no other. -/
structure Keyed (spelled : JobColumn → String) (values : JobColumn → Option String) (row : Row) :
    Prop where
  held : ∀ column, row.lookup (spelled column) = values column
  absent : ∀ column, ∀ other ∈ column.aliases, other ≠ spelled column → row.lookup other = none

def keyedRow (spelled : JobColumn → String) (values : JobColumn → Option String) : Row :=
  filterValues values (JobColumn.all.map fun column => (spelled column, column))

private theorem keyed_keyedRow {spelled : JobColumn → String}
    (spelling : JobColumn.Spelling spelled)
    (values : JobColumn → Option String) : Keyed spelled values (keyedRow spelled values) := by
  have keys : (JobColumn.all.map fun column => (spelled column, column)).map Prod.fst =
      JobColumn.all.map spelled := List.map_map
  have distinct : ((JobColumn.all.map fun column => (spelled column, column)).map
      Prod.fst).Nodup := by
    rw [keys]
    exact spelling.distinct
  constructor
  · intro column
    have found : (JobColumn.all.map fun column => (spelled column, column)).lookup
        (spelled column) = some column :=
      (lookup_eq_some_iff_mem distinct _ _).mpr
        (List.mem_map.mpr ⟨column, column.mem_all, rfl⟩)
    rw [keyedRow, lookup_filterValues values distinct, found, Option.bind_some]
  · intro column other named different
    have absent : (JobColumn.all.map fun column => (spelled column, column)).lookup other =
        none := by
      rw [List.lookup_eq_none_iff]
      intro entry member
      rw [bne_iff_ne]
      intro same
      apply spelling.apart column other named different
      rw [← keys, same]
      exact List.mem_map_of_mem member
    rw [keyedRow, lookup_filterValues values distinct, absent, Option.bind_none]

section Read

variable [UnicodeTables]

def isLower (text : String) : Bool :=
  text.toList.all fun char => ('a' ≤ char && char ≤ 'z') || char = '_'

theorem toLower_of_isLower {text : String} (lower : isLower text) :
    Strings.toLower text = text := by
  have kept : ∀ char ∈ text.toList, Unicode.toLower char = char := by
    intro char member
    have letter := List.all_eq_true.mp lower char member
    simp only [Bool.or_eq_true, Bool.and_eq_true, decide_eq_true_eq] at letter
    have ascii : char ≤ '\x7f' := by
      rcases letter with letter | underscore
      · exact letter.2.trans (by decide)
      · rw [underscore]
        decide
    have notUpper : ¬(char.val ≥ 'A'.val ∧ char.val ≤ 'Z'.val) := by
      intro upper
      rcases letter with letter | underscore
      · exact absurd (letter.1.trans upper.2) (by decide)
      · rw [underscore] at upper
        exact absurd upper (by decide)
    rw [Unicode.toLower, if_pos ascii]
    exact dif_neg notUpper
  have same : text.toList.map Unicode.toLower = text.toList :=
    (List.map_congr_left kept).trans (List.map_id' _)
  rw [Strings.toLower, same, String.ofList_toList]

private theorem toLower_aliases (column : JobColumn) :
    ∀ other ∈ column.aliases, Strings.toLower other = other := by
  have lower : column.aliases.all isLower := by
    cases column <;> decide +kernel
  intro other named
  exact toLower_of_isLower (List.all_eq_true.mp lower other named)

omit [UnicodeTables] in
private theorem findSome?_eq_of_mem {names : List String} {chosen : String} {value : Option String}
    {search : String → Option String}
    (each : ∀ other ∈ names, search other = if other = chosen then value else none)
    (member : chosen ∈ names) : names.findSome? search = value := by
  induction names with
  | nil => exact absurd member List.not_mem_nil
  | cons head tail induction =>
      have first := each head List.mem_cons_self
      have rest : ∀ other ∈ tail, search other = if other = chosen then value else none :=
        fun other later => each other (List.mem_cons_of_mem _ later)
      rw [List.findSome?_cons, first]
      by_cases same : head = chosen
      · rw [if_pos same]
        cases value with
        | none =>
            rw [List.findSome?_eq_none_iff]
            intro other later
            rw [rest other later, ite_self]
        | some found => rfl
      · rw [if_neg same]
        apply induction rest
        rcases List.mem_cons.mp member with found | later
        · exact absurd found.symm same
        · exact later

private theorem str_of_keyed {spelled : JobColumn → String} (spelling : JobColumn.Spelling spelled)
    {values : JobColumn → Option String} {row : Row} (keyed : Keyed spelled values row)
    (column : JobColumn) :
    row.str column.aliases = ((values column).filter fun value => value != "").getD "" := by
  have each : ∀ other ∈ column.aliases,
      (row.lookup (Strings.toLower other)).filter (fun value => value != "") =
        if other = spelled column then (values column).filter fun value => value != ""
        else none := by
    intro other named
    rw [toLower_aliases column other named]
    split
    case isTrue same => rw [same, keyed.held]
    case isFalse different => rw [keyed.absent column other named different, Option.filter_none]
  rw [Row.str, findSome?_eq_of_mem each (spelling.named column)]

private theorem mapRoutineLoadJob_congr (parse : String → Except String Document) {row row' : Row}
    (same : ∀ column : JobColumn, row.str column.aliases = row'.str column.aliases) :
    mapRoutineLoadJob parse row = mapRoutineLoadJob parse row' := by
  have read : ∀ column : JobColumn, ∀ names, names = column.aliases →
      row.str names = row'.str names := by
    intro column names aliases
    rw [aliases]
    exact same column
  simp only [mapRoutineLoadJob, Row.int64]
  rw [read .id ["id"] rfl, read .name ["name"] rfl, read .dbName ["dbname", "db_name"] rfl,
    read .tableName ["tablename", "table_name"] rfl, read .state ["state"] rfl,
    read .dataSourceType ["datasourcetype", "data_source_type"] rfl,
    read .currentTaskNum ["currenttasknum", "current_task_num"] rfl,
    read .createTime ["createtime", "create_time"] rfl,
    read .pauseTime ["pausetime", "pause_time"] rfl, read .endTime ["endtime", "end_time"] rfl,
    read .reasonOfStateChanged
      ["reasonofstatechanged", "reasons_of_state_changed", "reason_of_state_changed"] rfl,
    read .errorLogURLs ["errorlogurls", "error_log_urls"] rfl,
    read .trackingSQL ["trackingsql", "tracking_sql"] rfl,
    read .otherMsg ["othermsg", "other_msg"] rfl, read .progress ["progress"] rfl,
    read .latestSourcePosition ["latestsourceposition", "latest_source_position"] rfl,
    read .statistic ["statistic", "statistics"] rfl]

private theorem mapRoutineLoadJob_of_keyed (parse : String → Except String Document)
    {values : JobColumn → Option String} {row row' : Row}
    (listed : Keyed JobColumn.listed values row) (shown : Keyed JobColumn.shown values row') :
    mapRoutineLoadJob parse row' = mapRoutineLoadJob parse row := by
  apply mapRoutineLoadJob_congr
  intro column
  rw [str_of_keyed JobColumn.spelling_shown shown, str_of_keyed JobColumn.spelling_listed listed]

private theorem map_mapRoutineLoadJob_of_keyed (parse : String → Except String Document)
    {jobValues : List (JobColumn → Option String)} {rows rows' : List Row}
    (listed : List.Forall₂ (Keyed JobColumn.listed) jobValues rows)
    (shown : List.Forall₂ (Keyed JobColumn.shown) jobValues rows') :
    rows'.map (mapRoutineLoadJob parse) = rows.map (mapRoutineLoadJob parse) := by
  induction listed generalizing rows' with
  | nil =>
      cases shown
      rfl
  | cons keyed _ induction =>
      cases shown with
      | cons keyed' rest =>
          rw [List.map_cons, List.map_cons, induction rest,
            mapRoutineLoadJob_of_keyed parse keyed keyed']

/-! ## Snapshots -/

theorem routineLoadSnapshot_ok (parse : String → Except String Document) (loads : RoutineLoadRows)
    (now : Time) :
    routineLoadSnapshot parse (.ok loads) now = .ok {
      collectedAt := now.utc
      source := loads.source
      warnings := loads.warnings
      summary := summarizeRoutineLoads
        (sortRoutineLoadJobs (loads.rows.map (mapRoutineLoadJob parse)))
      jobs := sortRoutineLoadJobs (loads.rows.map (mapRoutineLoadJob parse)) } :=
  rfl

private theorem source_of_sweep {answers : QueryAnswers} {ended : Bool} {failure : String}
    {loads : RoutineLoadRows} (refused : answers 0 infoSchemaRoutineLoadStmt = .error failure)
    (read : (jobs answers ended).1 = .ok loads) : loads.source = routineLoadSourceShow := by
  rw [jobs, refused] at read
  cases ended with
  | true => cases read
  | false =>
      cases databases : answers 1 showDatabasesStmt with
      | error cause =>
          simp only [jobsViaShow, databases] at read
          cases read
      | ok dbRows =>
          have swept := (jobsViaShow_swept answers databases).2
          exact (swept.mapError _).source loads read

/-- The two paths agree on jobs, summary and alerts. A snapshot still tells which of them
served it, and what the sweep could not read. -/
theorem read_paths_agree (parse : String → Except String Document)
    (policy : RoutineLoadAlertPolicy) :
    (∀ values row row', Keyed JobColumn.listed values row → Keyed JobColumn.shown values row' →
      mapRoutineLoadJob parse row' = mapRoutineLoadJob parse row) ∧
    ∀ jobValues answers answers' ended ended' rows failure loads,
      answers 0 infoSchemaRoutineLoadStmt = .ok rows →
      answers' 0 infoSchemaRoutineLoadStmt = .error failure →
      (jobs answers' ended').1 = .ok loads →
      List.Forall₂ (Keyed JobColumn.listed) jobValues rows →
      List.Forall₂ (Keyed JobColumn.shown) jobValues loads.rows →
      ∀ now, ∃ snapshot snapshot',
        routineLoadSnapshot parse (jobs answers ended).1 now = .ok snapshot ∧
        routineLoadSnapshot parse (jobs answers' ended').1 now = .ok snapshot' ∧
        snapshot' = { snapshot with
          source := routineLoadSourceShow
          warnings := loads.warnings } ∧
        evaluateRoutineLoadAlerts policy snapshot' = evaluateRoutineLoadAlerts policy snapshot := by
  constructor
  · intro values row row' listed shown
    exact mapRoutineLoadJob_of_keyed parse listed shown
  · intro jobValues answers answers' ended ended' rows failure loads served refused read listed
      shown now
    have same := map_mapRoutineLoadJob_of_keyed parse listed shown
    have answered : (jobs answers ended).1 =
        .ok { rows, source := routineLoadSourceInfoSchema, warnings := [] } := by
      rw [jobs, served]
    rw [answered, read, routineLoadSnapshot_ok, routineLoadSnapshot_ok, same,
      source_of_sweep refused read]
    exact ⟨_, _, rfl, rfl, rfl, rfl⟩

end Read

def sampleColumns : JobColumn → Option String
  | .id => some "10101"
  | .name => some "orders_load"
  | .dbName => some "shop"
  | .state => some "RUNNING"
  | _ => none

def sampleListed : QueryAnswers := fun _ _ => .ok [keyedRow JobColumn.listed sampleColumns]

def sampleShown : QueryAnswers
  | 0, _ => .error "Unknown table 'routine_load_jobs'"
  | 1, _ => .ok [[("database", "shop")]]
  | _, _ => .ok [keyedRow JobColumn.shown sampleColumns]

private theorem userDatabase?_shop [UnicodeTables] :
    userDatabase? [("database", "shop")] = some "shop" := by
  rw [userDatabase?_eq_some_iff, Row.cell, toLower_of_isLower (by decide),
    toLower_of_isLower (by decide)]
  decide

private theorem jobs_sampleShown [UnicodeTables] :
    (jobs sampleShown false).1 = .ok {
      rows := [keyedRow JobColumn.shown sampleColumns]
      source := routineLoadSourceShow
      warnings := [] } := by
  simp [jobs, sampleShown, jobsViaShow, Sweep.step, userDatabase?_shop, Except.mapError]

/-- The snapshots of one job differ in the path they name. -/
theorem not_same_snapshot :
    ∃ (_ : UnicodeTables), ¬∀ (parse : String → Except String Document) jobValues answers answers'
      ended ended' rows failure loads,
      answers 0 infoSchemaRoutineLoadStmt = .ok rows →
      answers' 0 infoSchemaRoutineLoadStmt = .error failure →
      (jobs answers' ended').1 = .ok loads →
      List.Forall₂ (Keyed JobColumn.listed) jobValues rows →
      List.Forall₂ (Keyed JobColumn.shown) jobValues loads.rows →
      ∀ now, routineLoadSnapshot parse (jobs answers' ended').1 now =
        routineLoadSnapshot parse (jobs answers ended).1 now := by
  let tables := UnicodeTables.latin
  refine ⟨tables, fun claimed => ?_⟩
  have listed := keyed_keyedRow JobColumn.spelling_listed sampleColumns
  have shown := keyed_keyedRow JobColumn.spelling_shown sampleColumns
  have same := claimed (fun _ => .error "unexpected end of JSON input") [sampleColumns]
    sampleListed sampleShown false false _ _ _ rfl rfl jobs_sampleShown (.cons listed .nil)
    (.cons shown .nil) { wall := 0 }
  have answered : (jobs sampleListed false).1 = .ok {
      rows := [keyedRow JobColumn.listed sampleColumns]
      source := routineLoadSourceInfoSchema
      warnings := [] } := rfl
  rw [jobs_sampleShown, answered, routineLoadSnapshot_ok, routineLoadSnapshot_ok] at same
  have sources := congrArg RoutineLoadSnapshot.source (Except.ok.inj same)
  exact absurd sources (by decide)

end StarLens.Service
