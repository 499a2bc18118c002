import StarLens.Repository.NumericCells
import StarLens.Service.RoutineLoad
import StarLens.Service.Storage

/-! # The numbers in the payloads

JSON has no literal for a float64 that is not finite. One cell of one row is
enough to leave a payload without an encoding. -/

namespace StarLens.Service

open Go Repository

/-! ## The columns -/

structure NumericColumns where
  floats : List (List String)
  capacities : List (List String)

def nodeColumns : NumericColumns where
  floats := [["maxdiskusedpct", "usedpct"], ["memusedpct"], ["cpuusedpct"]]
  capacities := [["datausedcapacity"], ["totalcapacity"], ["availcapacity"]]

def partitionColumns : NumericColumns where
  floats := [["max_cs", "maxcs"], ["avg_cs", "avgcs"]]
  capacities := [["data_size", "datasize"]]

section Rows

variable [UnicodeTables]

def RowExact (columns : NumericColumns) (row : Row) : Prop :=
  (∀ names ∈ columns.floats, row.Float64Exact names) ∧
    ∀ names ∈ columns.capacities, row.BytesExact names

/-- No float of a row spells a special value, and no capacity does or leaves the
range of its integer. -/
def RowPlain (columns : NumericColumns) (row : Row) : Prop :=
  (∀ names ∈ columns.floats, Strconv.special (row.floatText names).toList = none) ∧
    ∀ names ∈ columns.capacities, row.BytesFit names

private theorem rowExact_iff (columns : NumericColumns) (row : Row) :
    RowExact columns row ↔ RowPlain columns row := by
  simp only [RowExact, RowPlain, Row.float64Exact_iff, Row.bytesExact_iff]

end Rows

/-! ## The payloads -/

def Node.floats (node : Node) : List (Option Float64) :=
  [node.diskUsedPercent, node.memUsedPercent, node.cpuUsedPercent]

def Topology.floats (topology : Topology) : List (Option Float64) :=
  (topology.frontends ++ topology.backends ++ topology.computeNodes).flatMap Node.floats

def Partition.floats (partition : Partition) : List (Option Float64) :=
  [partition.maxCompactionScore, partition.avgCompactionScore]

def SkewMeasure.floats (measure : SkewMeasure) : List (Option Float64) :=
  [measure.rowsRatio, measure.bytesRatio]

def TableDetail.floats (detail : TableDetail) : List (Option Float64) :=
  detail.partitions.flatMap Partition.floats ++
    (detail.skew.acrossBackends.floats ++ detail.skew.acrossTablets.floats)

def encodable (floats : List (Option Float64)) : Bool :=
  floats.all fun float => float.all Float64.isFinite

private theorem encodable_append (left right : List (Option Float64)) :
    encodable (left ++ right) = (encodable left && encodable right) :=
  List.all_append

/-! ## Ratios are finite -/

private theorem ratioToMedian_isFinite (values : List Int64) :
    (ratioToMedian values).all Float64.isFinite := by
  rw [ratioToMedian]
  generalize (values.insertionSort fun left right => left ≤ right) = sorted
  by_cases noMedian : median sorted ≤ 0
  · rw [if_pos noMedian]
    rfl
  · have positive : (1 : ℚ) ≤ (median sorted).toInt := by
      have zero : (0 : Int64).toInt = 0 := by decide
      rw [Int64.le_iff_toInt_le, zero, not_le] at noMedian
      exact_mod_cast noMedian
    have denominator : 1 ≤ |Float64.ofInt64 (median sorted)| :=
      (Float64.one_le_nearest positive).trans (le_abs_self _)
    have numerator : |Float64.ofInt64 (sorted.getLastD 0)| ≤ 2 ^ 64 :=
      Float64.abs_nearest_le (Float64.abs_toInt_lt _)
    have ratio : |Float64.ofInt64 (sorted.getLastD 0) / Float64.ofInt64 (median sorted)| <
        Float64.overflow := by
      rw [abs_div]
      exact (div_le_self (abs_nonneg _) denominator).trans_lt
        (numerator.trans_lt Float64.two_pow_lt_overflow)
    rw [if_neg noMedian, Float64.round_of_lt ratio]
    rfl

private theorem measureSkew_encodable (rows bytes : List Int64) :
    encodable (measureSkew rows bytes).floats := by
  rw [measureSkew]
  split
  · rfl
  · simp [encodable, SkewMeasure.floats, ratioToMedian_isFinite]

private theorem computeSkew_encodable (loads : List BackendTabletLoad) (rows bytes : List Int64) :
    encodable ((computeSkew loads rows bytes).acrossBackends.floats ++
      (computeSkew loads rows bytes).acrossTablets.floats) := by
  rw [encodable_append, Bool.and_eq_true]
  constructor
  · rw [computeSkew]
    dsimp only
    split
    · exact measureSkew_encodable _ _
    · rfl
  · exact measureSkew_encodable _ _

/-! ## Rates are finite -/

def RoutineLoadStatistics.floats (statistics : RoutineLoadStatistics) : List (Option Float64) :=
  [some statistics.loadRowsRate, some statistics.receivedBytesRate]

def RoutineLoadJob.floats (job : RoutineLoadJob) : List (Option Float64) :=
  job.statistics.toList.flatMap RoutineLoadStatistics.floats

def RoutineLoadSnapshot.floats (snapshot : RoutineLoadSnapshot) : List (Option Float64) :=
  snapshot.jobs.flatMap RoutineLoadJob.floats

section Payloads

variable [UnicodeTables]

private theorem isFinite_of_exact {row : Row} {names : List String}
    (exact : row.Float64Exact names) :
    (row.float64 names).all Float64.isFinite := by
  cases read : row.float64 names with
  | none => rfl
  | some number =>
      rcases exact number read with ⟨value, -, finite⟩
      cases number with
      | finite value exact => rfl
      | inf negative => cases finite
      | nan => cases finite

private theorem encodable_of_exact {columns : NumericColumns} {row : Row}
    (exact : RowExact columns row) : encodable (columns.floats.map row.float64) := by
  rw [encodable, List.all_map, List.all_eq_true]
  intro names listed
  rw [Function.comp_apply]
  have finite := isFinite_of_exact (exact.1 names listed)
  exact finite

omit [UnicodeTables] in
theorem encodable_flatMap {α : Type} (floats : α → List (Option Float64)) (elements : List α) :
    encodable (elements.flatMap floats) ↔ ∀ element ∈ elements, encodable (floats element) := by
  simp [encodable, List.all_flatMap]

private theorem mapDataNode_floats (row : Row) (type : NodeType) :
    (mapDataNode row type).floats = nodeColumns.floats.map row.float64 := by
  simp only [Node.floats, mapDataNode, nodeColumns, List.map_cons, List.map_nil]

private theorem mapPartition_floats (row : Row) :
    (mapPartition row).floats = partitionColumns.floats.map row.float64 := by
  simp only [Partition.floats, mapPartition, partitionColumns, List.map_cons, List.map_nil]

theorem topologyFrontends_encodable (rows : List Row) :
    ∀ fe ∈ topologyFrontends rows, encodable fe.floats := by
  apply applyJournalLag_forall (fun fe => encodable fe.floats) fun _ _ encoded => encoded
  apply sortStable_forall
  intro fe member
  rcases List.mem_map.mp member with ⟨row, -, rfl⟩
  rfl

private theorem topologyDataNodes_encodable {rows : List Row} (type : NodeType)
    (exact : ∀ row ∈ rows, RowExact nodeColumns row) :
    ∀ node ∈ topologyDataNodes rows type, encodable node.floats := by
  apply sortStable_forall
  intro node member
  rcases List.mem_map.mp member with ⟨row, listed, rfl⟩
  rw [mapDataNode_floats]
  exact encodable_of_exact (exact row listed)

def ClusterReads.dataRows (reads : ClusterReads) : List Row :=
  reads.backends.toOption.getD [] ++ reads.computeNodes.toOption.getD []

private theorem topology_encodable {reads : ClusterReads} {now : Time} {payload : Topology}
    (exact : ∀ row ∈ reads.dataRows, RowExact nodeColumns row)
    (ok : topology reads now = .ok payload) : encodable payload.floats := by
  rcases reads with ⟨frontends, backends, computeNodes, runMode⟩
  cases frontends with
  | error failure => cases ok
  | ok feRows =>
      cases backends with
      | error failure => cases ok
      | ok beRows =>
          cases ok
          have rows := List.forall_mem_append.mp exact
          rw [Topology.floats, encodable_flatMap]
          simp only [List.forall_mem_append]
          exact ⟨⟨topologyFrontends_encodable feRows, topologyDataNodes_encodable .backend rows.1⟩,
            topologyDataNodes_encodable .compute rows.2⟩

private theorem detailOf_partitions (order : MapOrder BackendTabletLoad) (summary : TableSummary)
    (now : Time) (partitionRows tabletRows : Except String (List Row)) :
    (detailOf order summary now partitionRows tabletRows).partitions =
      (partitionRows.toOption.getD []).map mapPartition := by
  cases tabletRows with
  | error failure => cases partitionRows <;> rfl
  | ok rows =>
      cases partitionRows <;>
        exact foldl_addTablet_keeps TableDetail.partitions (fun _ _ => rfl) _ rows

private theorem detailOf_skew_encodable (order : MapOrder BackendTabletLoad)
    (summary : TableSummary) (now : Time) (partitionRows tabletRows : Except String (List Row)) :
    encodable ((detailOf order summary now partitionRows tabletRows).skew.acrossBackends.floats ++
      (detailOf order summary now partitionRows tabletRows).skew.acrossTablets.floats) := by
  cases tabletRows with
  | error failure => cases partitionRows <;> rfl
  | ok rows => cases partitionRows <;> exact computeSkew_encodable _ _ _

private theorem detailOf_encodable (order : MapOrder BackendTabletLoad) (summary : TableSummary)
    (now : Time) {partitionRows : Except String (List Row)}
    (tabletRows : Except String (List Row))
    (exact : ∀ rows, partitionRows = .ok rows → ∀ row ∈ rows, RowExact partitionColumns row) :
    encodable (detailOf order summary now partitionRows tabletRows).floats := by
  rw [TableDetail.floats, encodable_append, Bool.and_eq_true, detailOf_partitions,
    encodable_flatMap]
  refine ⟨fun partition member => ?_, detailOf_skew_encodable order summary now _ tabletRows⟩
  rcases List.mem_map.mp member with ⟨row, listed, same⟩
  cases partitionRows with
  | error failure => simp [Except.toOption] at listed
  | ok rows =>
      rw [← same, mapPartition_floats]
      exact encodable_of_exact (exact rows rfl row listed)

/-- Everything the two payloads take from columns of numbers is missing or exact,
and both can be encoded. -/
structure PayloadsExact (reads : ClusterReads) (now : Time)
    (partitionRows : Except String (List Row)) (detail : TableDetail) : Prop where
  integers : ∀ (row : Row) (names : List String), ∀ number ∈ row.int64 names,
    decimalValue (Strings.trimSpace (row.str names)) = some number.toInt
  nodes : ∀ row ∈ reads.dataRows, RowExact nodeColumns row
  partitions : ∀ rows, partitionRows = .ok rows → ∀ row ∈ rows, RowExact partitionColumns row
  topologyEncodable : ∀ payload, topology reads now = .ok payload → encodable payload.floats
  detailEncodable : encodable detail.floats

/-- The numbers are exact and the payloads have an encoding, exactly where no cell
of a float spells a special value and every capacity fits. -/
theorem payloadsExact_iff (order : MapOrder BackendTabletLoad) (summary : TableSummary)
    (now : Time) (reads : ClusterReads) (partitionRows tabletRows : Except String (List Row)) :
    PayloadsExact reads now partitionRows
        (detailOf order summary now partitionRows tabletRows) ↔
      (∀ row ∈ reads.dataRows, RowPlain nodeColumns row) ∧
        ∀ rows, partitionRows = .ok rows → ∀ row ∈ rows, RowPlain partitionColumns row := by
  simp only [← rowExact_iff]
  constructor
  · intro exact
    exact ⟨exact.nodes, exact.partitions⟩
  · intro rowsExact
    constructor
    · intro row names number read
      exact Row.int64_exact row names read
    · exact rowsExact.1
    · exact rowsExact.2
    · exact fun payload ok => topology_encodable rowsExact.1 ok
    · exact detailOf_encodable order summary now tabletRows rowsExact.2

end Payloads

/-- One backend reports its memory as not a number. -/
theorem payload_without_encoding :
    ∃ (_ : UnicodeTables), ¬∀ (order : MapOrder BackendTabletLoad) (summary : TableSummary)
      (now : Time) (reads : ClusterReads) (partitionRows tabletRows : Except String (List Row)),
      PayloadsExact reads now partitionRows
        (detailOf order summary now partitionRows tabletRows) := by
  let tables := UnicodeTables.latin
  refine ⟨tables, fun claimed => ?_⟩
  let summary : TableSummary := {
    database := "demo", name := "orders", id := "10010", model := "DUP_KEYS", engine := "OLAP"
    partitionKey := "", distributeKey := "id", distributeType := "HASH"
    distributeBucket := some 3 }
  let reads : ClusterReads := {
    frontends := .ok []
    backends := .ok [[("backendid", "10001"), ("memusedpct", "NaN")]]
    computeNodes := .ok []
    runMode := .ok [] }
  have exact := claimed ⟨id, fun _ => .refl _⟩ summary { wall := 0 } reads (.ok []) (.ok [])
  have encoded := exact.topologyEncodable _ rfl
  revert encoded
  decide

end StarLens.Service
