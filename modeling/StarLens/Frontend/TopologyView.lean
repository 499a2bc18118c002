import StarLens.Frontend.ApiError
import StarLens.Frontend.Number

/-! # The topology page

The page draws its own conclusions from a topology: which cards are marked, which
figures turn red, and which notices stand above them. The alert rules draw theirs
from the same topology on the server. -/

namespace StarLens.Frontend

open Go Repository Service

/-- The messages of the operator's language, and what the browser's engine has to
say: how numbers are grouped, and how near `Math.log2` comes. -/
structure Locale where
  t : String → List (String × String) → String
  formatNumber : Option Int → String
  log2 : Int → ℚ

def Locale.plain : Locale where
  t key _ := key
  formatNumber _ := "—"
  log2 value := value.toNat.log2

def Locale.counted (locale : Locale) (key : String) (count : Int) : String :=
  locale.t key [("count", toString count)]

/-! ## Formats -/

/-- `toFixed` below 1e21. -/
def toFixed (digits : Nat) (value : ℚ) : String :=
  let scaled := (mathRound (|value| * 10 ^ digits)).toNat
  let behind := Nat.toDigits 10 (scaled % 10 ^ digits)
  let whole := toString (scaled / 10 ^ digits)
  (if value < 0 then "-" else "") ++
    if digits = 0 then whole
    else whole ++ "." ++ String.ofList (List.replicate (digits - behind.length) '0' ++ behind)

/-- `Number::toString` from 1e21 on, where every float64 is whole. -/
def exponential (value : Int) : String :=
  let digits := Nat.toDigits 10 (Number.toInt value).natAbs
  let kept := digits.rdropWhile (· = '0')
  (if value < 0 then "-" else "") ++
    String.ofList (Foundation.JsonText.writeScientific kept (digits.length - 1))

def formatPercent : Option Float64 → String
  | some (.finite value _) =>
      (if 10 ^ 21 ≤ |value| then exponential ⌊value⌋ else toFixed 1 value) ++ "%"
  | some (.inf negative) => (if negative then "-" else "") ++ "Infinity%"
  | some .nan | none => "—"

def byteUnits : List String := ["B", "KB", "MB", "GB", "TB", "PB"]

def formatBytes (locale : Locale) : Option Int → String
  | none => "—"
  | some value =>
      if value ≤ 0 then "0 B"
      else
        let exponent := min ⌊locale.log2 value / 10⌋.toNat (byteUnits.length - 1)
        let scaled : ℚ := value / 1024 ^ exponent
        toFixed (if 100 ≤ scaled ∨ exponent = 0 then 0 else 1) scaled ++ " " ++
          byteUnits.getD exponent ""

/-- A port that is missing, or none, leaves the host alone. -/
def formatEndpoint (host : String) (ports : List (String × Int64)) (preferred : List String) :
    String :=
  let port := preferred.findSome? fun key => (ports.lookup key).filter (· ≠ 0)
  match port with
  | some port => host ++ ":" ++ toString (Number.toInt (Number.ofInt port.toInt))
  | none => host

/-! ## Usage bars -/

inductive UsageTone
  | success
  | warning
  | destructive
deriving DecidableEq

structure UsageBar where
  label : String
  text : String
  /-- What the meter reports; nothing where the percentage is unknown. -/
  valueNow : Option ℚ
  width : ℚ
  tone : UsageTone

def warningThreshold : ℚ := 70
def criticalThreshold : ℚ := 85

/-- `Math.min(100, Math.max(0, percent))`. -/
def clamp : Float64 → Option ℚ
  | .finite value _ => some (min 100 (max 0 value))
  | .inf negative => some (if negative then 0 else 100)
  | .nan => none

def usageBar (label : String) (percent : Option Float64) (caption : Option String) : UsageBar :=
  let known := percent.bind clamp
  let clamped := known.getD 0
  { label
    text :=
      match caption with
      | some caption => caption ++ " · " ++ formatPercent percent
      | none => formatPercent percent
    valueNow := known
    width := clamped
    tone :=
      if criticalThreshold ≤ clamped then .destructive
      else if warningThreshold ≤ clamped then .warning
      else .success }

/-! ## Node cards -/

structure Fact where
  label : String
  value : String

structure JournalLagBadge where
  behind : Bool
  title : String
  text : String

/-- A lag reaches the browser as a number of its own. -/
def journalLagBadge (locale : Locale) (journalLag : Int64) : JournalLagBadge :=
  let lag := Number.ofInt journalLag.toInt
  let behind := decide (0 < lag)
  { behind
    title := locale.t "topology.node.journalLagHint" []
    text :=
      if behind then locale.counted "topology.node.journalBehind" (Number.toInt lag)
      else locale.t "topology.node.journalCaughtUp" [] }

inductive NodeFacts
  | frontend (facts : List Fact) (lag : Option JournalLagBadge)
  | backend (metrics : List Fact) (disk memory : UsageBar)

structure NodeCard where
  key : String
  /-- The red ring around the card, and its red badge. -/
  marked : Bool
  crowned : Bool
  name : String
  endpoint : String
  badge : String
  tag : Option String
  warehouse : Option Fact
  version : Option String
  facts : NodeFacts
  /-- Red where there is one. -/
  errMsg : Option String

def statusLabel : NodeStatus → String
  | .healthy => "nodeStatus.alive"
  | .down => "nodeStatus.down"
  | .decommissioned => "nodeStatus.draining"

/-- What `value || fallback` shows. -/
def orElse (value fallback : String) : String := if value = "" then fallback else value

/-- What `value && …` shows. -/
def shown (value : String) : Option String := if value = "" then none else some value

def Locale.formatInt64 (locale : Locale) (value : Option Int64) : String :=
  locale.formatNumber (value.map fun number => Number.ofInt number.toInt)

def frontendFacts (locale : Locale) (node : Node) : NodeFacts :=
  .frontend
    ([⟨locale.t "topology.node.started" [], orElse node.startTime "—"⟩,
        ⟨locale.t "topology.node.heartbeat" [], orElse node.lastHeartbeat "—"⟩] ++
      if node.replayedJournalID.isSome then
        [⟨locale.t "topology.node.journal" [], locale.formatInt64 node.replayedJournalID⟩]
      else [])
    (if node.role = roleLeader then none else node.journalLag.map (journalLagBadge locale))

def backendFacts (locale : Locale) (node : Node) : NodeFacts :=
  let bytes (value : Option Int64) :=
    formatBytes locale (value.map fun number => Number.ofInt number.toInt)
  let capacity :=
    if node.totalBytes.any (0 < ·) then
      some (bytes node.dataUsedBytes ++ " / " ++ bytes node.totalBytes)
    else none
  .backend
    [⟨locale.t "topology.node.tablets" [], locale.formatInt64 node.tabletNum⟩,
      ⟨locale.t "topology.node.cores" [], locale.formatInt64 node.cpuCores⟩,
      ⟨locale.t "topology.node.queries" [], locale.formatInt64 node.runningQueries⟩]
    (usageBar (locale.t "topology.node.disk" []) node.diskUsedPercent capacity)
    (usageBar (locale.t "topology.node.memory" []) node.memUsedPercent none)

def frontendPorts : List String := ["query", "http"]
def backendPorts : List String := ["heartbeat", "be", "http"]

def nodeCard (locale : Locale) (node : Node) : NodeCard where
  key := node.id
  marked := node.status = .down
  crowned := node.role = roleLeader
  name := node.name
  endpoint :=
    formatEndpoint node.host node.ports
      (if node.type = .frontend then frontendPorts else backendPorts)
  badge := locale.t (statusLabel node.status) []
  tag :=
    match node.type with
    | .frontend => some node.role
    | .compute => some "CN"
    | .backend => none
  warehouse := (shown node.warehouse).map (⟨locale.t "topology.node.warehouse" [], ·⟩)
  version := shown node.version
  facts :=
    if node.type = .frontend then frontendFacts locale node else backendFacts locale node
  errMsg := shown node.errMsg

structure NodeSection where
  title : String
  subtitle : String
  aliveCount : String
  emptyMessage : Option String
  cards : List NodeCard

def nodeSection (locale : Locale) (name : String) (nodes : List Node) (emptyMessage : String) :
    NodeSection :=
  let down := nodes.countP fun node => !node.alive
  { title := locale.t ("topology.sections." ++ name ++ ".title") []
    subtitle := locale.t ("topology.sections." ++ name ++ ".subtitle") []
    aliveCount :=
      locale.t "topology.aliveCount"
        [("alive", toString (nodes.length - down)), ("total", toString nodes.length)]
    emptyMessage :=
      if nodes.length = 0 then
        some (locale.t ("topology.sections." ++ name ++ "." ++ emptyMessage) [])
      else none
    cards := nodes.map (nodeCard locale) }

/-! ## Summary cards -/

inductive CardTone
  | neutral
  | good
  | bad
deriving DecidableEq

structure StatCard where
  label : String
  value : String
  hint : String
  tone : CardTone

structure SummaryCards where
  cluster : StatCard
  feLeader : StatCard
  nodesAlive : StatCard
  tablets : StatCard

def knownRunModes : List String := ["shared_data", "shared_nothing", "unknown"]

def runModeLabel (locale : Locale) (runMode : String) : String :=
  if runMode ∈ knownRunModes then locale.t ("runMode." ++ runMode) [] else runMode

def summaryCards (locale : Locale) (summary : TopologySummary) (runMode : String) :
    SummaryCards :=
  let feDown : Int := summary.frontendTotal - summary.frontendAlive
  let beDown : Int := summary.backendTotal - summary.backendAlive
  let cnDown : Int := summary.computeTotal - summary.computeAlive
  let totalDown := feDown + beDown + cnDown
  let feCount := locale.counted "topology.summary.feCount"
  let beCount := locale.counted "topology.summary.beCount"
  let cnCount := locale.counted "topology.summary.cnCount"
  let aliveParts :=
    [feCount summary.frontendTotal] ++
      (if 0 < summary.backendTotal ∨ runMode ≠ "shared_data" then [beCount summary.backendTotal]
        else []) ++
      (if 0 < summary.computeTotal ∨ runMode = "shared_data" then [cnCount summary.computeTotal]
        else [])
  let downParts :=
    (if 0 < feDown then [feCount feDown] else []) ++
      (if 0 < beDown then [beCount beDown] else []) ++
      (if 0 < cnDown then [cnCount cnDown] else [])
  let mode := [("mode", runModeLabel locale runMode)]
  let alive := summary.frontendAlive + summary.backendAlive + summary.computeAlive
  let total := summary.frontendTotal + summary.backendTotal + summary.computeTotal
  { cluster := {
      label := locale.t "topology.summary.cluster" []
      value :=
        if summary.healthy then locale.t "topology.summary.healthy" []
        else locale.t "topology.summary.degraded" []
      hint :=
        if summary.healthy then locale.t "topology.summary.healthyHint" mode
        else locale.t "topology.summary.degradedHint" mode
      tone := if summary.healthy then .good else .bad }
    feLeader := {
      label := locale.t "topology.summary.feLeader" []
      value := orElse summary.leaderHost (locale.t "topology.summary.none" [])
      hint :=
        if summary.leaderHost ≠ "" then
          locale.t "topology.summary.quorumHint"
            [("alive", toString summary.electableAlive),
              ("total", toString summary.electableTotal)]
        else locale.t "topology.summary.noLeaderHint" []
      tone := if summary.leaderHost ≠ "" ∧ summary.quorumHealthy then .neutral else .bad }
    nodesAlive := {
      label := locale.t "topology.summary.nodesAlive" []
      value := toString alive ++ "/" ++ toString total
      hint :=
        if totalDown = 0 then String.intercalate " · " aliveParts
        else
          locale.t "topology.summary.downSuffix" [("list", String.intercalate ", " downParts)]
      tone := if totalDown = 0 then .good else .bad }
    tablets := {
      label := locale.t "topology.summary.tablets" []
      value := locale.formatNumber (some (Number.ofInt summary.tabletTotal.toInt))
      hint :=
        if runMode = "shared_data" then locale.t "topology.summary.tabletsHintSharedData" []
        else locale.t "topology.summary.tabletsHint" []
      tone := .neutral } }

/-! ## The page -/

structure TopologyQuery where
  data : Option Topology
  error : Option Thrown
  isPending : Bool
  isError : Bool
  isFetching : Bool

structure TopologyPage where
  staleNotice : Option String
  quorumLost : Option String
  clusterIDMismatch : Option String
  summary : SummaryCards
  frontends : NodeSection
  backends : Option NodeSection
  computeNodes : Option NodeSection

inductive TopologyScreen
  | skeleton
  | errorState (title : String) (card : Card) (isRetrying : Bool)
  | nothing
  | page (page : TopologyPage)

def topologyPage (locale : Locale) (isError : Bool) (data : Topology) : TopologyPage where
  staleNotice := if isError then some (locale.t "topology.staleNotice" []) else none
  quorumLost :=
    if !data.summary.quorumHealthy ∧ 0 < data.summary.electableTotal then
      some (locale.t "topology.quorumLost"
        [("alive", toString data.summary.electableAlive),
          ("total", toString data.summary.electableTotal)])
    else none
  clusterIDMismatch :=
    if data.summary.clusterIDMismatch then some (locale.t "topology.clusterIdMismatch" [])
    else none
  summary := summaryCards locale data.summary data.runMode
  frontends := nodeSection locale "frontends" data.frontends "empty"
  backends :=
    if 0 < data.backends.length ∨ data.runMode ≠ "shared_data" then
      some (nodeSection locale "backends" data.backends
        (if data.runMode = "shared_nothing" then "empty" else "emptyNeutral"))
    else none
  computeNodes :=
    if 0 < data.computeNodes.length ∨ data.runMode = "shared_data" then
      some (nodeSection locale "computeNodes" data.computeNodes "empty")
    else none

/-- The last snapshot stays on the screen while polls fail. -/
def topologyView (locale : Locale) (query : TopologyQuery) : TopologyScreen :=
  if query.isPending then .skeleton
  else
    match query.data with
    | none =>
        if query.isError then
          .errorState (locale.t "topology.loadError" []) (describe (query.error.getD .other))
            query.isFetching
        else .nothing
    | some data => .page (topologyPage locale query.isError data)

/-! ## What rows become -/

/-- A card is marked by the status and the figures count the flag. -/
structure Presented (type : NodeType) (node : Node) : Prop where
  type : node.type = type
  down_iff : node.status = .down ↔ node.alive = false

section Nodes

variable [UnicodeTables]

private theorem mapFrontend_presented (row : Row) : Presented .frontend (mapFrontend row) := by
  refine ⟨rfl, ?_⟩
  dsimp only [mapFrontend]
  cases row.bool ["alive"] <;> simp

private theorem mapDataNode_presented (row : Row) (type : NodeType) :
    Presented type (mapDataNode row type) := by
  refine ⟨rfl, ?_⟩
  dsimp only [mapDataNode]
  cases row.bool ["alive"] with
  | false => simp
  | true =>
      simp only [Bool.not_true, Bool.false_eq_true, if_false, Bool.true_eq_false, iff_false]
      split <;> simp

private theorem topologyFrontends_presented (rows : List Row) :
    ∀ fe ∈ topologyFrontends rows, Presented .frontend fe := by
  apply applyJournalLag_forall (Presented .frontend)
    fun _ _ presented => ⟨presented.type, presented.down_iff⟩
  apply sortStable_forall
  intro fe member
  rcases List.mem_map.mp member with ⟨row, -, rfl⟩
  exact mapFrontend_presented row

private theorem topologyDataNodes_presented (rows : List Row) (type : NodeType) :
    ∀ node ∈ topologyDataNodes rows type, Presented type node := by
  apply sortStable_forall
  intro node member
  rcases List.mem_map.mp member with ⟨row, -, rfl⟩
  exact mapDataNode_presented row type

structure Collected (topology : Topology) : Prop where
  summarized : topology.summary =
    summarize topology.frontends topology.backends topology.computeNodes
  frontends : ∀ fe ∈ topology.frontends, Presented .frontend fe
  backends : ∀ node ∈ topology.backends, Presented .backend node
  computeNodes : ∀ node ∈ topology.computeNodes, Presented .compute node

theorem topology_collected {reads : ClusterReads} {now : Time} {result : Topology}
    (ok : topology reads now = .ok result) : Collected result := by
  rcases reads with ⟨fe, be, cn, mode⟩
  cases fe with
  | error failure => cases ok
  | ok feRows =>
      cases be with
      | error failure => cases ok
      | ok beRows =>
          cases ok
          exact ⟨rfl, topologyFrontends_presented feRows,
            topologyDataNodes_presented beRows .backend, topologyDataNodes_presented _ .compute⟩

end Nodes

theorem Collected.down_iff {topology : Topology} (collected : Collected topology) :
    ∀ node ∈ topology.frontends ++ topology.backends ++ topology.computeNodes,
      node.status = .down ↔ node.alive = false := by
  simp only [List.forall_mem_append]
  exact ⟨⟨fun fe member => (collected.frontends fe member).down_iff,
    fun node member => (collected.backends node member).down_iff⟩,
    fun node member => (collected.computeNodes node member).down_iff⟩

/-! ## The cards on the page -/

def TopologyPage.sections (page : TopologyPage) : List NodeSection :=
  page.frontends :: (page.backends.toList ++ page.computeNodes.toList)

def TopologyPage.cards (page : TopologyPage) : List NodeCard :=
  page.sections.flatMap NodeSection.cards

theorem cards_topologyPage (locale : Locale) (isError : Bool) (topology : Topology) :
    (topologyPage locale isError topology).cards =
      (topology.frontends ++ topology.backends ++ topology.computeNodes).map
        (nodeCard locale) := by
  have hidden (visible : Prop) [Decidable visible] (name empty : String) (nodes : List Node)
      (nonempty : 0 < nodes.length → visible) :
      (if visible then some (nodeSection locale name nodes empty) else none).toList.flatMap
        NodeSection.cards = nodes.map (nodeCard locale) := by
    split
    case isTrue => exact List.flatMap_singleton _ _
    case isFalse invisible =>
        have empty' : nodes = [] := by
          rw [← List.length_eq_zero_iff]
          by_contra nonempty'
          exact invisible (nonempty (Nat.pos_of_ne_zero nonempty'))
        rw [empty']
        rfl
  rw [TopologyPage.cards, TopologyPage.sections, List.flatMap_cons, List.flatMap_append,
    List.map_append, List.map_append, List.append_assoc]
  have backends := hidden (0 < topology.backends.length ∨ topology.runMode ≠ "shared_data")
    "backends" (if topology.runMode = "shared_nothing" then "empty" else "emptyNeutral")
    topology.backends Or.inl
  have computeNodes := hidden
    (0 < topology.computeNodes.length ∨ topology.runMode = "shared_data") "computeNodes" "empty"
    topology.computeNodes Or.inl
  exact congrArg₂ (· ++ ·) rfl (congrArg₂ (· ++ ·) backends computeNodes)

theorem marked_topologyPage (locale : Locale) (isError : Bool) {topology : Topology}
    (collected : Collected topology) :
    (topologyPage locale isError topology).cards.filter NodeCard.marked =
      ((topology.frontends ++ topology.backends ++ topology.computeNodes).filter
        fun node => !node.alive).map (nodeCard locale) := by
  rw [cards_topologyPage, List.filter_map]
  congr 1
  apply List.filter_congr
  intro node member
  have down := collected.down_iff node member
  simp only [Function.comp_apply, nodeCard, down]
  cases node.alive <;> rfl

end StarLens.Frontend
