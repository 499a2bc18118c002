import Mathlib.Data.List.Dedup
import Mathlib.Data.List.Sort
import StarLens.Go.Time
import StarLens.Repository.Row

/-! # The cluster topology

`ClusterService.Topology`: rows of the SHOW statements become nodes, and the
nodes a summary. -/

namespace StarLens.Service

open Go Repository

/-! ## Nodes -/

inductive NodeType
  | frontend
  | backend
  | compute
deriving DecidableEq

def NodeType.text : NodeType → String
  | frontend => "FE"
  | backend => "BE"
  | compute => "CN"

def roleLeader : String := "LEADER"
def roleFollower : String := "FOLLOWER"
def roleObserver : String := "OBSERVER"
def roleBackend : String := "BACKEND"
def roleCompute : String := "COMPUTE"
def roleUnknown : String := "UNKNOWN"

inductive NodeStatus
  | healthy
  | down
  | decommissioned
deriving DecidableEq

structure Node where
  id : String
  name : String
  type : NodeType
  role : String
  status : NodeStatus
  alive : Bool
  host : String
  ports : List (String × Int64) := []
  version : String := ""
  startTime : String := ""
  lastHeartbeat : String
  errMsg : String
  warehouse : String := ""
  replayedJournalID : Option Int64
  journalLag : Option Int64 := none
  isHelper : Option Bool := none
  joined : Option Bool := none
  clusterID : String
  tabletNum : Option Int64 := none
  cpuCores : Option Int64 := none
  runningQueries : Option Int64 := none
  diskUsedPercent : Option Float64 := none
  memUsedPercent : Option Float64 := none
  cpuUsedPercent : Option Float64 := none
  dataUsedBytes : Option Int64 := none
  totalBytes : Option Int64 := none
  availableBytes : Option Int64 := none

structure TopologySummary where
  frontendTotal : Nat
  frontendAlive : Nat
  backendTotal : Nat
  backendAlive : Nat
  computeTotal : Nat
  computeAlive : Nat
  leaderHost : String
  electableAlive : Nat
  electableTotal : Nat
  quorumHealthy : Bool
  maxJournalLag : Option Int64
  clusterIDMismatch : Bool
  tabletTotal : Int64
  healthy : Bool

structure Topology where
  collectedAt : Time
  runMode : String
  summary : TopologySummary
  frontends : List Node
  backends : List Node
  computeNodes : List Node

def firstNonEmpty (values : List String) : String :=
  (values.find? fun value => value != "").getD ""

def portLabels : List (String × String) :=
  [("queryport", "query"), ("httpport", "http"), ("editlogport", "editLog"), ("rpcport", "rpc"),
    ("heartbeatport", "heartbeat"), ("beport", "be"), ("brpcport", "brpc"),
    ("starletport", "starlet")]

section Rows

variable [UnicodeTables]

def collectPorts (row : Row) (names : List String) : List (String × Int64) :=
  names.filterMap fun name =>
    match row.int64 [name] with
    | some port => if 0 < port then some ((portLabels.lookup name).getD "", port) else none
    | none => none

/-- Nothing where the release does not report the column. -/
def boolPtr (row : Row) (names : List String) : Option Bool :=
  if row.str names = "" then none else some (row.bool names)

/-- Older releases report FOLLOWER and flag the elected node in a column of
its own. -/
def frontendRole (row : Row) : String :=
  if row.bool ["ismaster", "isleader", "leader", "master"] then roleLeader
  else
    match Strings.toUpper (row.str ["role"]) with
    | "LEADER" | "MASTER" => roleLeader
    | "" => roleUnknown
    | role => role

def mapFrontend (row : Row) : Node :=
  let host := row.str ["ip", "host", "hostname"]
  let name := if row.str ["name"] = "" then host else row.str ["name"]
  let alive := row.bool ["alive"]
  { id := "fe:" ++ firstNonEmpty [name, host, "unknown"]
    name
    type := .frontend
    role := frontendRole row
    status := if alive then .healthy else .down
    alive
    host
    ports := collectPorts row ["queryport", "httpport", "editlogport", "rpcport"]
    version := row.str ["version"]
    startTime := row.str ["starttime", "laststarttime"]
    lastHeartbeat := row.str ["lastheartbeat"]
    errMsg := row.str ["errmsg"]
    replayedJournalID := row.int64 ["replayedjournalid", "replayed_journal_id"]
    isHelper := boolPtr row ["ishelper", "is_helper"]
    joined := boolPtr row ["join", "joined"]
    clusterID := row.str ["clusterid", "cluster_id"] }

def mapDataNode (row : Row) (type : NodeType) : Node :=
  let host := row.str ["ip", "host", "hostname"]
  let nodeID := row.str ["backendid", "computenodeid", "beid", "cnid", "id"]
  let (idPrefix, role) :=
    if type = .compute then ("cn:", roleCompute) else ("be:", roleBackend)
  let alive := row.bool ["alive"]
  let decommissioned := row.bool ["systemdecommissioned"] || row.bool ["clusterdecommissioned"]
  { id := idPrefix ++ firstNonEmpty [nodeID, host, "unknown"]
    name := firstNonEmpty [host, type.text ++ "-" ++ nodeID]
    type
    role
    status := if !alive then .down else if decommissioned then .decommissioned else .healthy
    alive
    host
    ports := collectPorts row ["heartbeatport", "beport", "httpport", "brpcport", "starletport"]
    version := row.str ["version"]
    startTime := row.str ["laststarttime", "starttime"]
    lastHeartbeat := row.str ["lastheartbeat"]
    errMsg := row.str ["errmsg"]
    warehouse := row.str ["warehousename", "warehouse"]
    replayedJournalID := row.int64 ["replayedjournalid", "replayed_journal_id"]
    isHelper := boolPtr row ["ishelper", "is_helper"]
    joined := boolPtr row ["join", "joined"]
    clusterID := row.str ["clusterid", "cluster_id"]
    tabletNum := row.int64 ["tabletnum"]
    cpuCores := row.int64 ["cpucores"]
    runningQueries := row.int64 ["numrunningqueries"]
    diskUsedPercent := row.float64 ["maxdiskusedpct", "usedpct"]
    memUsedPercent := row.float64 ["memusedpct"]
    cpuUsedPercent := row.float64 ["cpuusedpct"]
    dataUsedBytes := row.bytes ["datausedcapacity"]
    totalBytes := row.bytes ["totalcapacity"]
    availableBytes := row.bytes ["availcapacity"] }

end Rows

/-! ## Order and replication lag -/

def roleRank (role : String) : Nat :=
  if role = roleLeader then 0
  else if role = roleFollower then 1
  else if role = roleObserver then 2
  else 3

/-- `sort.SliceStable` with a strict order: inserting from the right keeps the
order of nodes that compare equal. -/
def sortStable (less : Node → Node → Bool) (nodes : List Node) : List Node :=
  nodes.insertionSort fun left right => !less right left

def sortFrontends : List Node → List Node :=
  sortStable fun left right =>
    if roleRank left.role ≠ roleRank right.role then roleRank left.role < roleRank right.role
    else left.name < right.name

def sortBackends : List Node → List Node :=
  sortStable fun left right =>
    if left.host ≠ right.host then left.host < right.host else left.id < right.id

/-- Fill in how far each frontend trails the first live leader that reports a
position. A replica ahead of it counts as caught up. -/
def applyJournalLag (frontends : List Node) : List Node :=
  match (frontends.filter fun fe => fe.role = roleLeader && fe.alive).findSome?
      Node.replayedJournalID with
  | none => frontends
  | some leaderJournal =>
      frontends.map fun fe =>
        match fe.replayedJournalID with
        | none => fe
        | some journal => { fe with journalLag := some (max (leaderJournal - journal) 0) }

theorem sortStable_forall {less : Node → Node → Bool} {nodes : List Node} {holds : Node → Prop}
    (each : ∀ node ∈ nodes, holds node) : ∀ node ∈ sortStable less nodes, holds node := by
  intro node member
  exact each node ((List.perm_insertionSort _ nodes).mem_iff.mp member)

theorem applyJournalLag_forall (holds : Node → Prop) {frontends : List Node}
    (kept : ∀ fe lag, holds fe → holds { fe with journalLag := lag })
    (each : ∀ fe ∈ frontends, holds fe) : ∀ fe ∈ applyJournalLag frontends, holds fe := by
  rw [applyJournalLag]
  split
  · exact each
  · intro fe member
    rcases List.mem_map.mp member with ⟨before, listed, rfl⟩
    split
    · exact each before listed
    · exact kept before _ (each before listed)

/-! ## The summary -/

def isElectable (fe : Node) : Bool := fe.role = roleLeader || fe.role = roleFollower

/-- The loop over the frontends keeps the host of the last live leader. -/
def leaderHost (frontends : List Node) : String :=
  frontends.foldl (fun host fe => if fe.role = roleLeader && fe.alive then fe.host else host) ""

def clusterIDs (frontends : List Node) : List String :=
  ((frontends.map Node.clusterID).filter fun id => id != "").dedup

def maxJournalLag (frontends : List Node) : Option Int64 :=
  frontends.foldl (fun largest fe =>
    match fe.journalLag with
    | some lag =>
        if fe.alive && fe.role != roleLeader &&
            (match largest with | none => true | some value => decide (value < lag)) then
          some lag
        else largest
    | none => largest) none

def tabletTotal (nodes : List Node) : Int64 :=
  nodes.foldl (fun total node => total + node.tabletNum.getD 0) 0

def summarize (frontends backends computeNodes : List Node) : TopologySummary :=
  let frontendAlive := frontends.countP Node.alive
  let backendAlive := backends.countP Node.alive
  let computeAlive := computeNodes.countP Node.alive
  let electableTotal := frontends.countP isElectable
  let electableAlive := frontends.countP fun fe => isElectable fe && fe.alive
  let clusterIDMismatch := decide (1 < (clusterIDs frontends).length)
  let quorumHealthy := decide (0 < electableTotal) && decide (electableTotal / 2 < electableAlive)
  { frontendTotal := frontends.length
    frontendAlive
    backendTotal := backends.length
    backendAlive
    computeTotal := computeNodes.length
    computeAlive
    leaderHost := leaderHost frontends
    electableAlive
    electableTotal
    quorumHealthy
    maxJournalLag := maxJournalLag frontends
    clusterIDMismatch
    tabletTotal := tabletTotal (backends ++ computeNodes)
    healthy :=
      leaderHost frontends != "" && quorumHealthy && !clusterIDMismatch &&
        frontendAlive == frontends.length && backendAlive == backends.length &&
        computeAlive == computeNodes.length &&
        decide (0 < backends.length + computeNodes.length) }

/-! ## The topology -/

structure ClusterReads where
  frontends : Except String (List Row)
  backends : Except String (List Row)
  computeNodes : Except String (List Row)
  runMode : Except String (List Row)

section Service

variable [UnicodeTables]

/-- The `run_mode` item; an empty result is an old release. No letter of the
key has a fold outside ASCII. -/
def resolveRunMode : Except String (List Row) → String
  | .error _ => "unknown"
  | .ok rows =>
      match rows.find? fun row =>
          String.ofList ((row.str ["key"]).toList.map Char.toLower) = "run_mode" with
      | none => "shared_nothing"
      | some row =>
          if Strings.toLower (row.str ["value"]) = "" then "unknown"
          else Strings.toLower (row.str ["value"])

def topologyFrontends (rows : List Row) : List Node :=
  applyJournalLag (sortFrontends (rows.map mapFrontend))

def topologyDataNodes (rows : List Row) (type : NodeType) : List Node :=
  sortBackends (rows.map fun row => mapDataNode row type)

/-- `Topology`: frontends and backends have to be readable, the other two reads
are best effort. -/
def topology (reads : ClusterReads) (now : Time) : Except String Topology := do
  let feRows ← reads.frontends.mapError fun failure =>
    "starrocks unavailable: SHOW FRONTENDS failed: " ++ failure
  let beRows ← reads.backends.mapError fun failure =>
    "starrocks unavailable: SHOW BACKENDS failed: " ++ failure
  let cnRows := reads.computeNodes.toOption.getD []
  let frontends := topologyFrontends feRows
  let backends := topologyDataNodes beRows .backend
  let computeNodes := topologyDataNodes cnRows .compute
  return {
    collectedAt := now.utc
    runMode := resolveRunMode reads.runMode
    summary := summarize frontends backends computeNodes
    frontends
    backends
    computeNodes }

end Service

end StarLens.Service
