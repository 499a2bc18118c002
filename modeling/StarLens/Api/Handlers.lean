import StarLens.Api.AlertConfig
import StarLens.Foundation.JsonText
import StarLens.Go.Timestamp
import StarLens.Service.Failures
import StarLens.Service.NumericPayloads

/-! # The handlers

The endpoints that read from the cluster. Each turns the error of its service
into a status and a code with a switch of its own. -/

namespace StarLens.Api

open Alert (Document)
open Foundation Go Service

def errorBody (code message detail : String) : JsonValue :=
  .object [("error", .object ([("code", .string code), ("message", .string message)] ++
    if detail = "" then [] else [("detail", .string detail)]))]

structure Reply where
  status : Nat
  code : String
  message : String

def Reply.response (reply : Reply) (cause : String) : Response :=
  respondError reply.status reply.code reply.message cause

def starrocksUnavailable (message : String) : Reply := ⟨503, "starrocks_unavailable", message⟩
def internalError (message : String) : Reply := ⟨500, "internal_error", message⟩

/-- What a handler answers to its service: the payload, or the error in the case
of its switch. -/
def respond {Result : Type} (cases : List (Sentinel × Reply)) (default : Reply)
    (call : Except Failure Result) : Except Response Result :=
  call.mapError fun err => (err.switch cases default).response err.text

def HealthHandler.ready (addr : String) (ping : Except String Unit) : Except Response String :=
  match ping with
  | .error err =>
      .error (respondError 503 "starrocks_unreachable"
        ("StarRocks is not reachable at " ++ addr ++ ".") err)
  | .ok () => .ok addr

def ClusterHandler.topology (call : Except Failure Topology) : Except Response Topology :=
  respond
    [(.unavailable, starrocksUnavailable "Could not read cluster topology from StarRocks.")]
    (internalError "Failed to build cluster topology.") call

def RoutineLoadHandler.snapshot (call : Except Failure RoutineLoadSnapshot) :
    Except Response RoutineLoadSnapshot :=
  respond
    [(.unavailable, starrocksUnavailable "Could not read routine load jobs from StarRocks.")]
    (internalError "Failed to build routine load snapshot.") call

/-- `Databases` does not look at the error. -/
def QueryHandler.databases (call : Except Failure (List String)) :
    Except Response (List String) :=
  respond [] (starrocksUnavailable "Could not list databases from StarRocks.") call

def QueryHandler.cases : List (Sentinel × Reply) :=
  [(.queryEmpty, ⟨400, "query_empty", "The statement is empty."⟩),
    (.queryBlocked, ⟨400, "query_blocked",
      "Only read statements are allowed while QUERY_READ_ONLY=true."⟩),
    (.queryFailed, ⟨400, "query_failed", "StarRocks rejected the statement."⟩),
    (.queryTimeout, ⟨504, "query_timeout",
      "The query did not finish within the server's time budget."⟩),
    (.unavailable, starrocksUnavailable "Could not execute the statement against StarRocks.")]

def QueryHandler.execute (bound : Except String QueryRequest)
    (queries : QueryRequest → Except Failure QueryResult) : Except Response QueryResult :=
  match bound with
  | .error err =>
      .error (respondError 400 "invalid_request"
        "Request body must be JSON with a non-empty \"sql\" field." err)
  | .ok req =>
      respond QueryHandler.cases (internalError "Failed to execute the statement.") (queries req)

theorem QueryHandler.execute_ok (req : QueryRequest)
    (queries : QueryRequest → Except Failure QueryResult) :
    QueryHandler.execute (.ok req) queries =
      respond QueryHandler.cases (internalError "Failed to execute the statement.")
        (queries req) := rfl

def respondStorageError (message : String) {Result : Type} :
    Except Failure Result → Except Response Result :=
  respond
    [(.invalidArgument, ⟨400, "invalid_request",
        "The request is missing a required parameter."⟩),
      (.notFound, ⟨404, "not_found", "The requested catalog object does not exist."⟩),
      (.unavailable, starrocksUnavailable message)]
    (internalError message)

def StorageHandler.statistic (call : Except Failure StorageStatistic) :
    Except Response StorageStatistic :=
  respondStorageError "Could not read cluster statistics from StarRocks." call

def StorageHandler.tables (call : Except Failure TableList) : Except Response TableList :=
  respondStorageError "Could not list tables from StarRocks." call

def StorageHandler.tableDetail (call : Except Failure TableDetail) :
    Except Response TableDetail :=
  respondStorageError "Could not read table detail from StarRocks." call

/-! ## The endpoints -/

inductive Endpoint
  | health
  | topology
  | routineLoads
  | databases
  | query (bound : Except String QueryRequest)
  | statistic
  | tables (database : String)
  | tableDetail (database table : String)

inductive Payload
  | health (addr : String)
  | topology (topology : Topology)
  | routineLoads (snapshot : RoutineLoadSnapshot)
  | databases (names : List String)
  | query (result : QueryResult)
  | statistic (statistic : StorageStatistic)
  | tables (list : TableList)
  | tableDetail (detail : TableDetail)

def Payload.floats : Payload → List (Option Float64)
  | .topology nodes => nodes.floats
  | .routineLoads snapshot => snapshot.floats
  | .tableDetail detail => detail.floats
  | .health _ | .databases _ | .query _ | .statistic _ | .tables _ => []

def Payload.collectedAt : Payload → Option Time
  | .topology nodes => some nodes.collectedAt
  | .routineLoads snapshot => some snapshot.collectedAt
  | .statistic counts => some counts.collectedAt
  | .tables list => some list.collectedAt
  | .tableDetail detail => some detail.collectedAt
  | .health _ | .databases _ | .query _ => none

def Payload.hasText (payload : Payload) : Bool :=
  encodable payload.floats && payload.collectedAt.all fun time => time.marshal.isSome

/-- What one request meets. `ended` is whether its context has ended when the
first statement for the jobs fails, `expired` the same of the budget of a query. -/
structure Situation where
  addr : String
  ping : Except String Unit
  starRocks : StarRocks
  ended : Bool
  parse : String → Except String Document
  order : MapOrder BackendTabletLoad
  policy : QueryPolicy
  run : QueryCall → Except ExecError QueryResultSet
  expired : Bool
  elapsed : Duration
  now : Time

section Endpoints

variable [UnicodeTables] [FoldTables] (met : Situation)

def Situation.databases : Except String (List Repository.Row) :=
  met.starRocks.query 0 showDatabasesStmt []

def Situation.statistic : Except String (List Repository.Row) :=
  met.starRocks.query 0 statisticProcStmt []

def Situation.jobs : Except String RoutineLoadRows :=
  (Service.jobs met.starRocks.answers met.ended).1

def Endpoint.serve : Endpoint → Except Response Payload
  | health => (HealthHandler.ready met.addr met.ping).map .health
  | topology =>
      (ClusterHandler.topology (topologyCall met.starRocks.cluster met.now)).map .topology
  | routineLoads =>
      (RoutineLoadHandler.snapshot (snapshotCall met.parse met.jobs met.now)).map .routineLoads
  | databases => (QueryHandler.databases (databasesCall met.databases)).map .databases
  | query bound =>
      (QueryHandler.execute bound fun req =>
        executeCall met.policy req met.run met.expired met.elapsed).map .query
  | statistic => (StorageHandler.statistic (statisticCall met.statistic met.now)).map .statistic
  | tables database =>
      (StorageHandler.tables (tablesCall met.starRocks.storage database met.now)).map .tables
  | tableDetail database table =>
      (StorageHandler.tableDetail
        (tableDetailCall met.starRocks.storage met.order database table met.now)).map .tableDetail

/-- `c.JSON` leaves the body of a status 200 empty where a payload has no text. -/
def Endpoint.answer (endpoint : Endpoint) : Except Response (Option Payload) :=
  (endpoint.serve met).map fun payload => if payload.hasText then some payload else none

def Endpoint.outcome : Endpoint → Except String Payload
  | health => met.ping.map fun _ => .health met.addr
  | topology => (Service.topology met.starRocks.cluster met.now).map .topology
  | routineLoads => (routineLoadSnapshot met.parse met.jobs met.now).map .routineLoads
  | databases =>
      (met.databases.mapError ("starrocks unavailable: SHOW DATABASES failed: " ++ ·)).map
        (.databases ∘ databaseNames)
  | query bound => do
      let req ← bound
      let result ← (execute met.policy req met.run met.expired met.elapsed).mapError
        QueryError.text
      return .query result
  | statistic => (Service.statistic met.statistic met.now).map .statistic
  | tables database => (Service.tables met.starRocks.storage database met.now).map .tables
  | tableDetail database table =>
      (Service.tableDetail met.starRocks.storage met.order database table met.now).map
        (.tableDetail ∘ Prod.fst)

end Endpoints

/-! ## Whose fault it is -/

inductive Fault
  | malformed
  | unreachable
  | service (sentinel : Sentinel)
deriving DecidableEq

def Fault.status : Fault → Nat
  | malformed => 400
  | unreachable => 503
  | service .invalidArgument => 400
  | service .notFound => 404
  | service .queryEmpty => 400
  | service .queryBlocked => 400
  | service .queryFailed => 400
  | service .queryTimeout => 504
  | service .unavailable => 503

def Fault.code : Fault → String
  | malformed => "invalid_request"
  | unreachable => "starrocks_unreachable"
  | service .invalidArgument => "invalid_request"
  | service .notFound => "not_found"
  | service .queryEmpty => "query_empty"
  | service .queryBlocked => "query_blocked"
  | service .queryFailed => "query_failed"
  | service .queryTimeout => "query_timeout"
  | service .unavailable => "starrocks_unavailable"

/-- What is wrong with a request, if anything, where it meets this. -/
def Endpoint.fault [UnicodeTables] [FoldTables] (met : Situation) : Endpoint → Option Fault
  | health =>
      match met.ping with
      | .ok () => none
      | .error _ => some .unreachable
  | topology =>
      ((unreadable met.starRocks.cluster.frontends).or
        (unreadable met.starRocks.cluster.backends)).map .service
  | routineLoads => (unreadable met.jobs).map .service
  | databases => (unreadable met.databases).map .service
  | query (.error _) => some .malformed
  | query (.ok req) => (queryFault met.policy req met.run met.expired).map .service
  | statistic => (unreadable met.statistic).map .service
  | tables database =>
      (if Strings.trimSpace database = "" then some .invalidArgument
        else unreadable (met.starRocks.storage (.tables database))).map .service
  | tableDetail database table => (detailFault met.starRocks.storage database table).map .service

inductive Tells {Result : Type} : Except Response Result → Option Fault → Prop
  | nothing (result : Result) : Tells (.ok result) none
  | fault (fault : Fault) (message detail : String) :
      Tells (.error (respondError fault.status fault.code message detail)) (some fault)

theorem Tells.map {Result Result' : Type} {answer : Except Response Result} {fault : Option Fault}
    (tells : Tells answer fault) (convert : Result → Result') :
    Tells (answer.map convert) fault := by
  cases tells with
  | nothing result => exact .nothing _
  | fault fault message detail => exact .fault fault message detail

def Response.detail : Response → String
  | ⟨_, .error _ _ detail⟩ => detail
  | _ => ""

section Served

variable [UnicodeTables] [FoldTables] (met : Situation)

end Served

end StarLens.Api
