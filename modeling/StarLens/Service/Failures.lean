import StarLens.Go.Errors
import StarLens.Service.ColumnShapes
import StarLens.Service.Query

/-! # The errors of the services

Each error wraps a sentinel that tells whose fault it is, and what the repository
reported below it. Of the calls, the texts of their errors are the ones modelled
beside their results. -/

namespace StarLens.Service

open Alert (Document)
open Go Repository

inductive Sentinel
  | unavailable
  | invalidArgument
  | notFound
  | queryEmpty
  | queryBlocked
  | queryFailed
  | queryTimeout
deriving DecidableEq

def Sentinel.text : Sentinel → String
  | unavailable => "starrocks unavailable"
  | invalidArgument => "invalid argument"
  | notFound => "not found"
  | queryEmpty => "query is empty"
  | queryBlocked => "statement blocked by read-only policy"
  | queryFailed => "query failed"
  | queryTimeout => "query timed out"

abbrev Failure := GoError Sentinel

abbrev Failure.text : Failure → String := GoError.text Sentinel.text

def unavailable (context err : String) : Failure :=
  .wraps (Sentinel.unavailable.text ++ ": " ++ context ++ ": " ++ err) (.sentinel .unavailable)
    (.foreign err)

def worded (sentinel : Sentinel) (message : String) : Failure :=
  .wrap (sentinel.text ++ ": " ++ message) (.sentinel sentinel)

private theorem worded_text (sentinel : Sentinel) (message : String) :
    (worded sentinel message).text = sentinel.text ++ ": " ++ message := rfl

def QueryError.failure [UnicodeTables] : QueryError → Failure
  | empty => .sentinel .queryEmpty
  | blocked keyword =>
      worded .queryBlocked (Strconv.quote keyword ++
        " statements are disabled; set QUERY_READ_ONLY=false to allow writes")
  | failed message => worded .queryFailed message
  | timeout => worded .queryTimeout "execution exceeded the QUERY_TIMEOUT budget"
  | unavailable cause => Service.unavailable "executing statement failed" cause

def QueryError.sentinel : QueryError → Sentinel
  | empty => .queryEmpty
  | blocked _ => .queryBlocked
  | failed _ => .queryFailed
  | timeout => .queryTimeout
  | unavailable _ => .unavailable

/-! ## The calls -/

section Calls

variable [UnicodeTables]

def topologyCall (reads : ClusterReads) (now : Time) : Except Failure Topology := do
  let feRows ← reads.frontends.mapError (unavailable "SHOW FRONTENDS failed")
  let beRows ← reads.backends.mapError (unavailable "SHOW BACKENDS failed")
  let cnRows := reads.computeNodes.toOption.getD []
  let frontends := topologyFrontends feRows
  let backends := topologyDataNodes beRows .backend
  let computeNodes := topologyDataNodes cnRows .compute
  return {
    collectedAt := now.utc
    runMode := resolveRunMode reads.runMode
    summary := summarize frontends backends computeNodes
    frontends
    backends
    computeNodes }

def snapshotCall (parse : String → Except String Document)
    (read : Except String RoutineLoadRows) (now : Time) : Except Failure RoutineLoadSnapshot := do
  let result ← read.mapError (unavailable "reading routine load jobs failed")
  let jobs := sortRoutineLoadJobs (result.rows.map (mapRoutineLoadJob parse))
  return {
    collectedAt := now.utc
    source := result.source
    warnings := result.warnings
    summary := summarizeRoutineLoads jobs
    jobs }

/-- `Databases` of the repository, and of the service behind it. -/
def databaseNames (rows : List Row) : List String :=
  (rows.map fun row => row.str ["database"]).filter fun name => name != ""

def databasesCall (read : Except String (List Row)) : Except Failure (List String) := do
  let rows ← read.mapError (unavailable "SHOW DATABASES failed")
  return databaseNames rows

def tablesCall (reader : StorageReader) (database : String) (now : Time) :
    Except Failure TableList := do
  if Strings.trimSpace database = "" then
    throw (worded .invalidArgument "database is required")
  let rows ← (reader (.tables database)).mapError (unavailable "reading tables_config failed")
  return {
    collectedAt := now.utc
    database
    tables := sortTables (rows.map (mapTable reader database)) }

def executeCall (policy : QueryPolicy) (request : QueryRequest)
    (run : QueryCall → Except ExecError QueryResultSet) (expired : Bool) (elapsed : Duration) :
    Except Failure QueryResult :=
  (execute policy request run expired elapsed).mapError QueryError.failure

variable [FoldTables]

def statisticCall (read : Except String (List Row)) (now : Time) :
    Except Failure StorageStatistic := do
  let rows ← read.mapError (unavailable "SHOW PROC '/statistic' failed")
  let out := rows.foldl StorageStatistic.addRow { collectedAt := now.utc }
  return {
    out with
    databases := out.databases.insertionSort fun left right => !databaseLess right left }

def tableDetailCall (reader : StorageReader) (order : MapOrder BackendTabletLoad)
    (database table : String) (now : Time) : Except Failure TableDetail := do
  if Strings.trimSpace database = "" || Strings.trimSpace table = "" then
    throw (worded .invalidArgument "database and table are required")
  let list ← tablesCall reader database now
  match list.tables.find? fun summary => Strings.equalFold summary.name table with
  | none => throw (worded .notFound ("table " ++ database ++ "." ++ table ++ " does not exist"))
  | some summary =>
      return detailOf order summary now (reader (.partitions database summary.name))
        (reader (.tablets summary.id))

end Calls

/-! ## Their results and texts -/

def unreadable {Rows : Type} (read : Except String Rows) : Option Sentinel :=
  match read with
  | .ok _ => none
  | .error _ => some .unavailable

section Texts

variable [UnicodeTables]

theorem QueryError.failure_text (err : QueryError) : err.failure.text = err.text := by
  cases err with
  | empty | failed | timeout | unavailable => rfl
  | blocked keyword =>
      have head : Sentinel.queryBlocked.text ++ ": " = "statement blocked by read-only policy: " :=
        rfl
      rw [failure, worded_text, head, ← String.append_assoc]
      unfold text
      with_reducible rfl

def queryFault (policy : QueryPolicy) (request : QueryRequest)
    (run : QueryCall → Except ExecError QueryResultSet) (expired : Bool) : Option Sentinel :=
  match handed policy request with
  | .error err => some err.sentinel
  | .ok call =>
      match run call with
      | .ok _ => none
      | .error .deadlineExceeded => some .queryTimeout
      | .error (.mysql _) => some (if expired then .queryTimeout else .queryFailed)
      | .error (.other _) => some (if expired then .queryTimeout else .unavailable)

variable [FoldTables]

def hasTable (reader : StorageReader) (database table : String) : Bool :=
  match reader (.tables database) with
  | .ok rows => rows.any fun row => Strings.equalFold (tableName row) table
  | .error _ => false

/-- What is wrong with the request for a table's detail. -/
def detailFault (reader : StorageReader) (database table : String) : Option Sentinel :=
  if Strings.trimSpace database = "" ∨ Strings.trimSpace table = "" then some .invalidArgument
  else
    (unreadable (reader (.tables database))).or
      (if hasTable reader database table then none else some .notFound)

end Texts

end StarLens.Service
