import StarLens.Go.Strconv
import StarLens.Go.Time

/-! # The SQL worksheet

`QueryService.Execute` and its read-only policy. -/

namespace StarLens.Service

open Go

structure QueryRequest where
  sql : String
  database : String
  maxRows : Int

structure QueryPolicy where
  readOnly : Bool
  maxRows : Int
  timeout : Duration

structure QueryCall where
  statement : String
  database : String
  maxRows : Int
deriving DecidableEq

structure QueryColumn where
  name : String
  type : String

structure QueryResultSet where
  columns : List QueryColumn
  rows : List (List (Option String))
  truncated : Bool

structure QueryResult where
  columns : List QueryColumn
  rows : List (List (Option String))
  rowCount : Nat
  truncated : Bool
  maxRows : Int
  elapsedMs : Int
  statement : String
  database : String

inductive QueryError
  | empty
  | blocked (keyword : String)
  | failed (message : String)
  | timeout
  | unavailable (cause : String)
deriving DecidableEq

/-- How the repository's error looks to `errors.Is` and `errors.As`. -/
inductive ExecError
  | deadlineExceeded
  | mysql (message : String)
  | other (text : String)

def readOnlyKeywords : List String := ["select", "with", "show", "desc", "describe", "explain"]

/-- `NewQueryService` replaces a cap that is not positive. -/
def newQueryPolicy (policy : QueryPolicy) : QueryPolicy :=
  if policy.maxRows ≤ 0 then { policy with maxRows := 1000 } else policy

def cleanStatement (raw : String) : String :=
  Strings.trimRight (Strings.trimSpace raw) "; \t\r\n"

def lineComment : List Char := ['-', '-']
def commentOpen : List Char := ['/', '*']
def commentClose : List Char := ['*', '/']

/-- The loop of `firstKeyword`: the text behind leading whitespace and comments,
`none` for a comment that does not end. A comment's end is searched from its
first character on. Every round drops at least two characters, so the length of
the text is fuel enough. -/
def skipComments : Nat → List Char → Option (List Char)
  | 0, _ => none
  | fuel + 1, text =>
      let rest := text.dropWhile Unicode.isSpace
      if lineComment.isPrefixOf rest then
        match Strings.after ['\n'] rest with
        | some next => skipComments fuel next
        | none => none
      else if commentOpen.isPrefixOf rest then
        match Strings.after commentClose rest with
        | some next => skipComments fuel next
        | none => none
      else some rest

section Policy

variable [UnicodeTables]

def isWordChar (char : Char) : Bool :=
  Unicode.isLetter char || Unicode.isDigit char || char = '_'

def firstKeyword (statement : String) : String :=
  match skipComments (statement.toList.length + 1) statement.toList with
  | none => ""
  | some rest => Strings.toLower (String.ofList (rest.takeWhile isWordChar))

/-- `Execute` up to the call of the repository. -/
def handed (policy : QueryPolicy) (request : QueryRequest) : Except QueryError QueryCall :=
  let statement := cleanStatement request.sql
  if statement = "" then .error .empty
  else if policy.readOnly && !readOnlyKeywords.contains (firstKeyword statement) then
    .error (.blocked (firstKeyword statement))
  else
    .ok {
      statement
      database := request.database
      maxRows :=
        if request.maxRows ≤ 0 || policy.maxRows < request.maxRows then policy.maxRows
        else request.maxRows }

/-- `expired` says that the deadline of the call's context has passed. -/
def classifyExecError (expired : Bool) : ExecError → QueryError
  | .deadlineExceeded => .timeout
  | .mysql message => if expired then .timeout else .failed message
  | .other text => if expired then .timeout else .unavailable text

def execute (policy : QueryPolicy) (request : QueryRequest)
    (run : QueryCall → Except ExecError QueryResultSet) (expired : Bool) (elapsed : Duration) :
    Except QueryError QueryResult :=
  match handed policy request with
  | .error failure => .error failure
  | .ok call =>
      match run call with
      | .error failure => .error (classifyExecError expired failure)
      | .ok resultSet =>
          .ok {
            columns := resultSet.columns
            rows := resultSet.rows
            rowCount := resultSet.rows.length
            truncated := resultSet.truncated
            maxRows := call.maxRows
            elapsedMs := elapsed.toInt.tdiv 1000000
            statement := call.statement
            database := call.database }

section Answers

variable {policy : QueryPolicy} {request : QueryRequest}
variable (run : QueryCall → Except ExecError QueryResultSet) (expired : Bool) (elapsed : Duration)

theorem execute_of_rejected {failure : QueryError}
    (rejected : handed policy request = .error failure) :
    execute policy request run expired elapsed = .error failure := by
  unfold execute
  rw [rejected]

theorem execute_of_failed {call : QueryCall} (ok : handed policy request = .ok call)
    {failure : ExecError} (failed : run call = .error failure) :
    execute policy request run expired elapsed = .error (classifyExecError expired failure) := by
  unfold execute
  rw [ok]
  dsimp only
  rw [failed]

theorem execute_of_ok {call : QueryCall} (ok : handed policy request = .ok call)
    {resultSet : QueryResultSet} (ran : run call = .ok resultSet) :
    ∃ result, execute policy request run expired elapsed = .ok result ∧
      result.rows = resultSet.rows ∧ result.rowCount = resultSet.rows.length ∧
      result.truncated = resultSet.truncated := by
  unfold execute
  rw [ok]
  dsimp only
  rw [ran]
  exact ⟨_, rfl, rfl, rfl, rfl⟩

end Answers

def QueryError.text : QueryError → String
  | empty => "query is empty"
  | blocked keyword =>
      "statement blocked by read-only policy: " ++ Strconv.quote keyword ++
        " statements are disabled; set QUERY_READ_ONLY=false to allow writes"
  | failed message => "query failed: " ++ message
  | timeout => "query timed out: execution exceeded the QUERY_TIMEOUT budget"
  | unavailable cause => "starrocks unavailable: executing statement failed: " ++ cause

end Policy

end StarLens.Service
