import StarLens.Frontend.ApiError
import StarLens.Frontend.Number
import StarLens.Repository.ResultSet

/-! # The worksheet

From the text in the editor to the grid below it: the request, the service, the
payload and the components that show it. -/

namespace StarLens.Frontend

open Api Foundation Go Repository Service

/-! ## The payload -/

def omitEmpty (name text : String) : List (String × JsonValue) :=
  if text = "" then [] else [(name, .string text)]

def columnJson (column : QueryColumn) : JsonValue :=
  .object ([("name", .string column.name)] ++ omitEmpty "type" column.type)

def cellJson : Option String → JsonValue
  | none => .null
  | some text => .string text

def rowJson (row : List (Option String)) : JsonValue := .array (row.map cellJson)

def resultMembers (result : QueryResult) : List (String × JsonValue) :=
  [("columns", .array (result.columns.map columnJson)), ("rows", .array (result.rows.map rowJson)),
    ("rowCount", .number result.rowCount), ("truncated", .bool result.truncated),
    ("maxRows", .number result.maxRows), ("elapsedMs", .number result.elapsedMs),
    ("statement", .string result.statement)]

def resultJson (result : QueryResult) : JsonValue :=
  .object (resultMembers result ++ omitEmpty "database" result.database)

/-! ## The result in the browser -/

structure ResultColumn where
  name : String
  type : Option String
deriving DecidableEq

structure ResultView where
  columns : List ResultColumn
  rows : List (List (Option String))
  rowCount : Int
  truncated : Bool
  maxRows : Int
  elapsedMs : Int
  statement : String
  database : Option String

def readColumn (value : JsonValue) : Option ResultColumn := do
  let name ← (value.member "name").bind JsonValue.string?
  return { name, type := (value.member "type").bind JsonValue.string? }

def readCell : JsonValue → Option (Option String)
  | .null => some none
  | .string text => some (some text)
  | _ => none

def readRow (row : JsonValue) : Option (List (Option String)) :=
  row.items?.bind fun cells => cells.mapM readCell

def readResult (value : JsonValue) : Option ResultView := do
  let columns ← (value.member "columns").bind JsonValue.items?
  let columns ← columns.mapM readColumn
  let rows ← (value.member "rows").bind JsonValue.items?
  let rows ← rows.mapM readRow
  let rowCount ← (value.member "rowCount").bind JsonValue.number?
  let truncated ← (value.member "truncated").bind JsonValue.bool?
  let maxRows ← (value.member "maxRows").bind JsonValue.number?
  let elapsedMs ← (value.member "elapsedMs").bind JsonValue.number?
  let statement ← (value.member "statement").bind JsonValue.string?
  return {
    columns, rows, rowCount, truncated, maxRows, elapsedMs, statement
    database := (value.member "database").bind JsonValue.string? }

/-! ## The components -/

inductive Cell
  | null
  | text (text : String)
deriving DecidableEq

inductive Grid
  | noRows
  | table (columns : List ResultColumn) (body : List (List Cell))
deriving DecidableEq

def resultCell (cell : Option String) : Cell :=
  match cell with
  | none => .null
  | some text => .text text

def resultsTable (result : ResultView) : Grid :=
  if result.rowCount = 0 then .noRows
  else .table result.columns (result.rows.map fun row => row.map resultCell)

/-- What is below the editor when a run has ended. The notice holds the row
limit; a profile without a database shows the default one. -/
inductive ResultsArea
  | failed (message : String) (detail : Option String)
  | shown (notice : Option Int) (grid : Grid) (statement : String) (database : Option String)
deriving DecidableEq

def visible (text : Option String) : Option String := text.filter fun text => text ≠ ""

def resultsArea : Except ApiError ResultView → ResultsArea
  | .error error => .failed error.message (visible error.detail)
  | .ok result =>
      .shown (if result.truncated then some result.maxRows else none) (resultsTable result)
        result.statement (visible result.database)

def runRequest (sql : String) (database : Option String) (pending : Bool) : Option QueryRequest :=
  if sql.toList.all isSpace || pending then none
  else some { sql, database := database.getD "", maxRows := 0 }

/-- `ShouldBindJSON` of a request that is well formed: the statement is required. -/
def bindQuery (request : QueryRequest) : Except String QueryRequest :=
  if request.sql = "" then
    .error ("Key: 'QueryRequest.SQL' Error:Field validation for 'SQL' failed on the 'required' tag")
  else .ok request

/-- The answer behind the interceptor of the client: none for a payload that is
no result. -/
def received (axiosMessage : String) (axiosCode : Option String) :
    Except Response QueryResult → Option (Except ApiError ResultView)
  | .ok result =>
      ((JsonText.read (JsonText.write (resultJson result))).bind readResult).map Except.ok
  | .error ⟨status, .error code message detail⟩ =>
      some (.error (toApiError
        (answered axiosMessage axiosCode status (errorBody code message detail))))
  | .error _ => none

/-- The milliseconds after which the client gives up. -/
def apiTimeout : Nat := 15000

def timeoutError : AxiosError where
  message := "timeout of 15000ms exceeded"
  code := some "ECONNABORTED"
  response := none

/-- What a request comes to whose answer takes so many milliseconds. -/
def awaited (axiosMessage : String) (axiosCode : Option String) (waited : Nat)
    (answer : Except Response QueryResult) : Option (Except ApiError ResultView) :=
  if apiTimeout < waited then some (.error (toApiError timeoutError))
  else received axiosMessage axiosCode answer

/-! ## From the stream to the grid -/

private theorem readColumn_columnJson (column : QueryColumn) :
    readColumn (columnJson column) =
      some {
        name := column.name
        type := if column.type = "" then none else some column.type } := by
  by_cases untyped : column.type = ""
  · simp only [columnJson, omitEmpty, if_pos untyped]
    rfl
  · simp only [columnJson, omitEmpty, if_neg untyped]
    rfl

private theorem readCell_cellJson (cell : Option String) :
    readCell (cellJson cell) = some cell := by
  cases cell <;> rfl

theorem mapM_map_eq {Item Written Read : Type} {write : Item → Written}
    {read : Written → Option Read} {shown : Item → Read}
    (each : ∀ item, read (write item) = some (shown item)) (items : List Item) :
    (items.map write).mapM read = some (items.map shown) := by
  induction items with
  | nil => rfl
  | cons item items induction =>
      rw [List.map_cons, List.mapM_cons, each, induction]
      rfl

private theorem readRow_rowJson (row : List (Option String)) :
    readRow (rowJson row) = some row := by
  rw [readRow, rowJson, JsonValue.items?, Option.bind_some, mapM_map_eq readCell_cellJson row,
    List.map_id']

def resultView (result : QueryResult) : ResultView where
  columns := result.columns.map fun column =>
    { name := column.name, type := if column.type = "" then none else some column.type }
  rows := result.rows
  rowCount := result.rowCount
  truncated := result.truncated
  maxRows := result.maxRows
  elapsedMs := result.elapsedMs
  statement := result.statement
  database := if result.database = "" then none else some result.database

theorem member_resultJson (result : QueryResult) {name : String} (other : name ≠ "database") :
    (resultJson result).member name = (JsonValue.object (resultMembers result)).member name := by
  rw [resultJson, omitEmpty]
  split
  · rw [List.append_nil]
  · simp only [JsonValue.member, List.reverse_append, List.reverse_singleton, List.singleton_append]
    rw [List.find?_cons_of_neg (by simpa using Ne.symm other)]

private theorem readResult_resultJson (result : QueryResult) :
    readResult (resultJson result) = some (resultView result) := by
  have columns := mapM_map_eq readColumn_columnJson result.columns
  have rows : (result.rows.map rowJson).mapM readRow = some result.rows := by
    have read := mapM_map_eq (fun row => readRow_rowJson row) result.rows
    rw [List.map_id'] at read
    exact read
  have database : ((resultJson result).member "database").bind JsonValue.string? =
      if result.database = "" then none else some result.database := by
    rw [resultJson, omitEmpty]
    split <;> rfl
  have columnsHeld : (resultJson result).member "columns" =
      some (.array (result.columns.map columnJson)) := member_resultJson result (by decide)
  have rowsHeld : (resultJson result).member "rows" = some (.array (result.rows.map rowJson)) :=
    member_resultJson result (by decide)
  have rowCountHeld : (resultJson result).member "rowCount" = some (.number result.rowCount) :=
    member_resultJson result (by decide)
  have truncatedHeld : (resultJson result).member "truncated" = some (.bool result.truncated) :=
    member_resultJson result (by decide)
  have maxRowsHeld : (resultJson result).member "maxRows" = some (.number result.maxRows) :=
    member_resultJson result (by decide)
  have elapsedHeld : (resultJson result).member "elapsedMs" = some (.number result.elapsedMs) :=
    member_resultJson result (by decide)
  have statementHeld : (resultJson result).member "statement" = some (.string result.statement) :=
    member_resultJson result (by decide)
  rw [readResult, columnsHeld, rowsHeld, rowCountHeld, truncatedHeld, maxRowsHeld, elapsedHeld,
    statementHeld, database]
  simp only [Option.bind_some, bind, JsonValue.items?, JsonValue.number?, JsonValue.bool?,
    JsonValue.string?, columns, rows]
  rfl

section Runs

variable [UnicodeTables] (policy : QueryPolicy) (stream : ResultStream) (expired : Bool)
variable (elapsed : Duration) (axiosMessage : String) (axiosCode : Option String)

def answerQuery (request : QueryRequest) : Except Response QueryResult :=
  QueryHandler.execute (bindQuery request) fun req =>
    executeCall (newQueryPolicy policy) req (fun call => collectResultSet stream call.maxRows)
      expired elapsed

def runWorksheet (waited : Nat) (request : QueryRequest) : Option ResultsArea :=
  (awaited axiosMessage axiosCode waited (answerQuery policy stream expired elapsed request)).map
    resultsArea

def tooLate : ResultsArea :=
  .failed "The StarLens API did not respond in time." (some "timeout of 15000ms exceeded")

private theorem runWorksheet_late {waited : Nat} (late : apiTimeout < waited)
    (request : QueryRequest) :
    runWorksheet policy stream expired elapsed axiosMessage axiosCode waited request =
      some tooLate := by
  rw [runWorksheet, awaited, if_pos late]
  rfl

omit [UnicodeTables] in
private theorem runRequest_eq {sql : String} {database : Option String} {pending : Bool}
    {request : QueryRequest} (sent : runRequest sql database pending = some request) :
    request = { sql, database := database.getD "", maxRows := 0 } ∧
      bindQuery request = .ok request := by
  rw [runRequest, Option.ite_none_left_eq_some] at sent
  rcases sent with ⟨nonblank, same⟩
  have same := Option.some.inj same
  subst same
  refine ⟨rfl, if_neg fun empty => nonblank ?_⟩
  rw [show sql = "" from empty]
  rfl

omit [UnicodeTables] in
private theorem visible_omitted (text : String) :
    visible (if text = "" then none else some text) = visible (some text) := by
  by_cases empty : text = ""
  · rw [if_pos empty, empty]
    rfl
  · rw [if_neg empty]

omit [UnicodeTables] in
private theorem collectRows_columns {columns : List QueryColumn} {remaining : Nat}
    {rows : List (List (Option String))} {resultSet : QueryResultSet}
    (collected : collectRows stream columns remaining rows = .ok resultSet) :
    resultSet.columns = columns := by
  induction remaining generalizing rows with
  | zero =>
      rw [collectRows] at collected
      split at collected
      · rw [← Except.ok.inj collected]
      · rw [← Except.ok.inj collected]
      · cases collected
  | succ remaining induction =>
      rw [collectRows] at collected
      split at collected
      · exact induction collected
      · rw [← Except.ok.inj collected]
      · cases collected

def gridOf (stream : ResultStream) (names : List String) (limit : Nat) : Grid :=
  if stream.rows = [] then .noRows
  else
    .table
      ((resultColumns names stream.columnTypes).map fun column =>
        { name := column.name, type := if column.type = "" then none else some column.type })
      ((stream.rows.take limit).map fun row => row.map resultCell)

private theorem handed_request {policy : QueryPolicy} {request : QueryRequest} {call : QueryCall}
    (admitted : handed policy request = .ok call) :
    call.statement = cleanStatement request.sql ∧ call.database = request.database := by
  rw [handed] at admitted
  split at admitted
  · cases admitted
  · split at admitted
    · cases admitted
    · rw [← Except.ok.inj admitted]
      exact ⟨rfl, rfl⟩

private theorem handed_pos {request : QueryRequest} {call : QueryCall}
    (admitted : handed (newQueryPolicy policy) request = .ok call) : 1 ≤ call.maxRows := by
  have positive := newQueryPolicy_pos policy
  rw [handed_maxRows admitted]
  simp only [Bool.or_eq_true, decide_eq_true_eq]
  split <;> omega

private theorem runWorksheet_failed {waited : Nat} (inTime : waited ≤ apiTimeout)
    {request : QueryRequest} {err : QueryError} (bound : bindQuery request = .ok request)
    (failed : execute (newQueryPolicy policy) request
      (fun call => collectResultSet stream call.maxRows) expired elapsed = .error err) :
    ∃ message, runWorksheet policy stream expired elapsed axiosMessage axiosCode waited request =
      some (.failed message (visible (some err.text))) := by
  generalize chosen : err.failure.switch QueryHandler.cases
    (internalError "Failed to execute the statement.") = reply
  refine ⟨reply.message, ?_⟩
  have answer : respond QueryHandler.cases (internalError "Failed to execute the statement.")
      ((Except.error err : Except QueryError QueryResult).mapError QueryError.failure) =
        .error (respondError reply.status reply.code reply.message err.text) := by
    rw [Except.mapError, respond, Except.mapError, chosen, QueryError.failure_text, Reply.response]
  rw [runWorksheet, awaited, if_neg (Nat.not_lt.mpr inTime), answerQuery, bound,
    QueryHandler.execute_ok, executeCall, failed, answer, respondError, received,
    toApiError_answered, Option.map_some, resultsArea, visible_omitted]

private theorem runWorksheet_ok {waited : Nat} (inTime : waited ≤ apiTimeout)
    {request : QueryRequest} {call : QueryCall} (bound : bindQuery request = .ok request)
    (admitted : handed (newQueryPolicy policy) request = .ok call)
    (good : ¬stream.FailsWithin (call.maxRows.toNat + 1)) :
    ∃ names, stream.columnNames = .ok names ∧
      runWorksheet policy stream expired elapsed axiosMessage axiosCode waited request =
        some (.shown (if call.maxRows.toNat < stream.rows.length then some call.maxRows else none)
          (gridOf stream names call.maxRows.toNat) call.statement
          (visible (some call.database))) := by
  rcases collectResultSet_ok good with ⟨resultSet, collected, rows, truncated⟩
  have read := collected
  rw [collectResultSet] at read
  cases named : stream.columnNames with
  | error err =>
      rw [named] at read
      cases read
  | ok names =>
      rw [named] at read
      have columns := collectRows_columns stream read
      refine ⟨names, rfl, ?_⟩
      have answer : execute (newQueryPolicy policy) request
          (fun call => collectResultSet stream call.maxRows) expired elapsed =
          .ok {
            columns := resultColumns names stream.columnTypes
            rows := stream.rows.take call.maxRows.toNat
            rowCount := (stream.rows.take call.maxRows.toNat).length
            truncated := resultSet.truncated
            maxRows := call.maxRows
            elapsedMs := elapsed.toInt.tdiv 1000000
            statement := call.statement
            database := call.database } := by
        unfold execute
        rw [admitted]
        dsimp only
        rw [collected]
        dsimp only
        rw [rows, columns]
      rw [runWorksheet, awaited, if_neg (Nat.not_lt.mpr inTime), answerQuery, bound,
        QueryHandler.execute_ok, executeCall, answer, received.eq_def]
      simp only [respond, Except.mapError, JsonText.read_write, Option.bind_some,
        readResult_resultJson, Option.map_some, resultsArea, resultView]
      have positive := handed_pos policy admitted
      have limited : (stream.rows.take call.maxRows.toNat).length = 0 ↔ stream.rows = [] := by
        rw [List.length_take, ← List.length_eq_zero_iff]
        omega
      simp only [resultsTable, gridOf, visible_omitted, truncated, Int.natCast_eq_zero, limited]

/-- A run shows why its statement is refused, why the result could not be read, or
the first rows of it as the server sent them, with a notice where there are more. -/
inductive Shows (sql : String) (database : Option String) (limit : Int) (stream : ResultStream)
    (expired : Bool) (shown : Option ResultsArea) : Except QueryError QueryCall → Prop
  | refused {err : QueryError}
      (told : ∃ message, shown = some (.failed message (visible (some err.text)))) :
      Shows sql database limit stream expired shown (.error err)
  | sent {call : QueryCall}
      (failed : stream.FailsWithin (limit.toNat + 1) →
        ∃ message err, collectResultSet stream limit = .error err ∧
          shown = some (.failed message (visible (some (classifyExecError expired err).text))))
      (answered : ¬stream.FailsWithin (limit.toNat + 1) →
        ∃ names, stream.columnNames = .ok names ∧
          shown = some (.shown (if limit.toNat < stream.rows.length then some limit else none)
            (gridOf stream names limit.toNat) (cleanStatement sql) (visible database))) :
      Shows sql database limit stream expired shown (.ok call)

private theorem shows_in_time {waited : Nat} (inTime : waited ≤ apiTimeout) {sql : String}
    {database : Option String} {pending : Bool}
    {request : QueryRequest} (sent : runRequest sql database pending = some request) :
    Shows sql database (newQueryPolicy policy).maxRows stream expired
      (runWorksheet policy stream expired elapsed axiosMessage axiosCode waited request)
      (handed (newQueryPolicy policy) request) := by
  have same := (runRequest_eq sent).1
  have bound := (runRequest_eq sent).2
  subst same
  cases admitted : handed (newQueryPolicy policy)
      { sql, database := database.getD "", maxRows := 0 } with
  | error err =>
      apply Shows.refused
      exact runWorksheet_failed policy stream expired elapsed axiosMessage axiosCode inTime bound
        (execute_of_rejected _ expired elapsed admitted)
  | ok call =>
      have limit : call.maxRows = (newQueryPolicy policy).maxRows := by
        rw [handed_maxRows admitted]
        rfl
      rcases handed_request admitted with ⟨statement, scope⟩
      apply Shows.sent
      · intro bad
        rcases collectResultSet_failed bad with ⟨err, failed⟩
        have run : collectResultSet stream call.maxRows = .error err := by rw [limit, failed]
        rcases runWorksheet_failed policy stream expired elapsed axiosMessage axiosCode inTime
          bound (execute_of_failed (fun call => collectResultSet stream call.maxRows) expired
            elapsed admitted run) with ⟨message, shown⟩
        exact ⟨message, err, failed, shown⟩
      · intro good
        have visibleScope : visible (some call.database) = visible database := by
          rw [scope]
          cases database <;> rfl
        rcases runWorksheet_ok policy stream expired elapsed axiosMessage axiosCode inTime bound
          admitted (by rw [limit]; exact good) with ⟨names, named, shown⟩
        rw [limit, statement, visibleScope] at shown
        exact ⟨names, named, shown⟩

/-- What a run of the worksheet shows is what has become of its statement, or that
the answer takes longer than the client waits. -/
theorem worksheet_shows {sql : String} {database : Option String} {pending : Bool}
    {request : QueryRequest} (sent : runRequest sql database pending = some request)
    (waited : Nat) :
    (waited ≤ apiTimeout → Shows sql database (newQueryPolicy policy).maxRows stream expired
      (runWorksheet policy stream expired elapsed axiosMessage axiosCode waited request)
      (handed (newQueryPolicy policy) request)) ∧
    (apiTimeout < waited →
      runWorksheet policy stream expired elapsed axiosMessage axiosCode waited request =
        some tooLate) :=
  ⟨fun inTime => shows_in_time policy stream expired elapsed axiosMessage axiosCode inTime sent,
    fun late => runWorksheet_late policy stream expired elapsed axiosMessage axiosCode late request⟩

end Runs

def sampleStream : ResultStream where
  columnNames := .ok ["v", "w"]
  columnTypes := some ["INT", ""]
  rows := [[some "1", none], [some "2", some ""], [some "3", none]]
  fails := fun _ => none

def samplePolicy : QueryPolicy := { readOnly := false, maxRows := 2, timeout := 0 }

def sampleQuery : QueryRequest :=
  { sql := "SELECT v, w FROM t;", database := "shop", maxRows := 0 }

/-- The same answer after a fifth of a second and after twenty seconds. -/
theorem worksheet_shows_two :
    ∃ _ : UnicodeTables,
      runWorksheet samplePolicy sampleStream false 0 "" none 200 sampleQuery =
        some (.shown (some 2)
          (.table [{ name := "v", type := some "INT" }, { name := "w", type := none }]
            [[.text "1", .null], [.text "2", .text ""]])
          "SELECT v, w FROM t" (some "shop")) ∧
      runWorksheet samplePolicy sampleStream false 0 "" none 20000 sampleQuery =
        some tooLate := by
  let tables := UnicodeTables.latin
  have sent : runRequest "SELECT v, w FROM t;" (some "shop") false = some sampleQuery := rfl
  have admitted : handed (newQueryPolicy samplePolicy) sampleQuery =
      .ok { statement := "SELECT v, w FROM t", database := "shop", maxRows := 2 } := rfl
  have good : ¬sampleStream.FailsWithin 3 := by
    intro fails
    rcases fails with ⟨error, unread⟩ | ⟨index, -, -, failing⟩
    · cases unread
    · cases failing
  have late := (worksheet_shows samplePolicy sampleStream false 0 "" none sent 20000).2 (by decide)
  have shows := (worksheet_shows samplePolicy sampleStream false 0 "" none sent 200).1 (by decide)
  rw [admitted] at shows
  cases shows with
  | sent failed answered =>
      rcases answered good with ⟨names, named, shown⟩
      cases Except.ok.inj named
      exact ⟨tables, shown, late⟩

end StarLens.Frontend
