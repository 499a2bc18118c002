import StarLens.Go.Maps
import StarLens.Service.Cluster

/-! # Tables and their tablets

`StorageService.Tables` and `StorageService.TableDetail`: catalog rows become
tables and partitions, and the rows the backends report one tablet each become
loads per backend with the skew between them. -/

namespace StarLens.Service

open Go Repository

/-! ## Tables, partitions and loads -/

structure TableSummary where
  database : String
  name : String
  id : String
  model : String
  engine : String
  partitionKey : String
  distributeKey : String
  distributeType : String
  distributeBucket : Option Int64
  rows : Option Int64 := none
  dataBytes : Option Int64 := none

structure TableList where
  collectedAt : Time
  database : String
  tables : List TableSummary

structure Partition where
  name : String
  rows : Option Int64
  dataBytes : Option Int64
  buckets : Option Int64
  replicationNum : Option Int64
  visibleVersion : Option Int64
  storageMedium : String
  maxCompactionScore : Option Float64
  avgCompactionScore : Option Float64
  balanced : Option Bool

structure BackendTabletLoad where
  backendID : String
  tabletNum : Int64 := 0
  rows : Int64 := 0
  dataBytes : Int64 := 0
  rowsetNum : Int64 := 0
  segmentNum : Int64 := 0

structure SkewMeasure where
  rowsRatio : Option Float64 := none
  bytesRatio : Option Float64 := none
  skewed : Bool := false

structure TabletSkew where
  acrossBackends : SkewMeasure := {}
  acrossTablets : SkewMeasure := {}
  skewed : Bool := false

structure TableDetail where
  collectedAt : Time
  table : TableSummary
  partitions : List Partition := []
  tabletTotal : Int64 := 0
  rowsetTotal : Int64 := 0
  segmentTotal : Int64 := 0
  maxRowsetsPerTablet : Int64 := 0
  maxSegmentsPerTablet : Int64 := 0
  abnormalTablets : Int64 := 0
  backends : List BackendTabletLoad := []
  skew : TabletSkew := {}
  warnings : List String := []

/-! ## Skew -/

def skewThreshold : ℚ := 3 / 2

private theorem exact_skewThreshold : Float64.Exact skewThreshold := by
  refine ⟨⟨3, -1, by norm_num, by norm_num, by norm_num [skewThreshold]⟩, ?_⟩
  calc |skewThreshold| < 2 ^ 64 := by norm_num [skewThreshold]
    _ < Float64.overflow := Float64.two_pow_lt_overflow

/-- The middle element, or the mean of the two in the middle without its
fraction. The values are sorted and there are some. -/
def median (sorted : List Int64) : Int64 :=
  let middle := sorted.length / 2
  if sorted.length % 2 = 0 then
    (sorted.getD (middle - 1) 0 + sorted.getD middle 0) / 2
  else sorted.getD middle 0

def ratioToMedian (values : List Int64) : Option Float64 :=
  let sorted := values.insertionSort fun left right => left ≤ right
  if median sorted ≤ 0 then none
  else
    some (.round (Float64.ofInt64 (sorted.getLastD 0) / Float64.ofInt64 (median sorted)))

def exceedsThreshold (ratio : Option Float64) : Bool :=
  match ratio with
  | none => false
  | some ratio => Float64.lt (.finite skewThreshold exact_skewThreshold) ratio

def measureSkew (rows bytes : List Int64) : SkewMeasure :=
  if rows.length < 2 then {}
  else
    let rowsRatio := ratioToMedian rows
    let bytesRatio := ratioToMedian bytes
    { rowsRatio
      bytesRatio
      skewed := exceedsThreshold rowsRatio || exceedsThreshold bytesRatio }

/-- A single backend has nothing to be uneven with. -/
def computeSkew (loads : List BackendTabletLoad) (tabletRows tabletBytes : List Int64) :
    TabletSkew :=
  let acrossTablets := measureSkew tabletRows tabletBytes
  let acrossBackends :=
    if 2 ≤ loads.length then
      measureSkew (loads.map BackendTabletLoad.rows) (loads.map BackendTabletLoad.dataBytes)
    else {}
  { acrossBackends
    acrossTablets
    skewed := acrossBackends.skewed || acrossTablets.skewed }

/-! ## Tablets -/

section Rows

variable [UnicodeTables]

def mapPartition (row : Row) : Partition where
  name := row.str ["partition_name", "partitionname"]
  rows := row.int64 ["row_count", "rowcount"]
  dataBytes := row.bytes ["data_size", "datasize"]
  buckets := row.int64 ["buckets"]
  replicationNum := row.int64 ["replication_num", "replicationnum"]
  visibleVersion := row.int64 ["visible_version", "visibleversion"]
  storageMedium := row.str ["storage_medium", "storagemedium"]
  maxCompactionScore := row.float64 ["max_cs", "maxcs"]
  avgCompactionScore := row.float64 ["avg_cs", "avgcs"]
  balanced := boolPtr row ["tablet_balanced", "tabletbalanced"]

def tabletBackend (row : Row) : String := row.str ["be_id", "beid"]

/-- A count a tablet's row does not report adds nothing. -/
def intOrZero (row : Row) (names : List String) : Int64 := (row.int64 names).getD 0

def tabletRowCount (row : Row) : Int64 := intOrZero row ["num_row", "numrow"]
def tabletByteCount (row : Row) : Int64 := intOrZero row ["data_size", "datasize"]
def tabletRowsets (row : Row) : Int64 := intOrZero row ["num_rowset", "numrowset"]
def tabletSegments (row : Row) : Int64 := intOrZero row ["num_segment", "numsegment"]

theorem tabletBackend_eq_iff {row : Row} {backend : String} (named : backend ≠ "") :
    tabletBackend row = backend ↔ ["be_id", "beid"].findSome? row.cell = some backend :=
  Row.str_eq_iff named

private theorem intOrZero_eq (row : Row) (names : List String) :
    intOrZero row names =
      ((names.findSome? row.cell).bind fun raw =>
        Strconv.parseInt (Strings.trimSpace raw)).getD 0 := by
  rw [intOrZero, row.int64_eq]

theorem tabletRowCount_eq (row : Row) :
    tabletRowCount row =
      ((["num_row", "numrow"].findSome? row.cell).bind fun raw =>
        Strconv.parseInt (Strings.trimSpace raw)).getD 0 :=
  intOrZero_eq row _

/-- The healthy state is spelled differently across views. -/
def tabletStateOK (state : String) : Bool := state ∈ ["RUNNING", "NORMAL", ""]

def BackendTabletLoad.add (load : BackendTabletLoad) (row : Row) : BackendTabletLoad :=
  { load with
    tabletNum := load.tabletNum + 1
    rows := load.rows + tabletRowCount row
    dataBytes := load.dataBytes + tabletByteCount row
    rowsetNum := load.rowsetNum + tabletRowsets row
    segmentNum := load.segmentNum + tabletSegments row }

def addTablet (loads : List BackendTabletLoad) (row : Row) : List BackendTabletLoad :=
  if loads.any fun load => load.backendID = tabletBackend row then
    loads.map fun load => if load.backendID = tabletBackend row then load.add row else load
  else loads ++ [BackendTabletLoad.add { backendID := tabletBackend row } row]

/-- The totals of a table with one more tablet. A largest count starts at zero,
so that a missing one does not change it. -/
def TableDetail.addTablet (detail : TableDetail) (row : Row) : TableDetail :=
  { detail with
    tabletTotal := detail.tabletTotal + 1
    rowsetTotal := detail.rowsetTotal + tabletRowsets row
    segmentTotal := detail.segmentTotal + tabletSegments row
    maxRowsetsPerTablet := max detail.maxRowsetsPerTablet (tabletRowsets row)
    maxSegmentsPerTablet := max detail.maxSegmentsPerTablet (tabletSegments row)
    abnormalTablets :=
      if tabletStateOK (Strings.toUpper (row.str ["state"])) then detail.abnormalTablets
      else detail.abnormalTablets + 1 }

theorem foldl_addTablet_keeps {α : Type} (field : TableDetail → α)
    (kept : ∀ detail row, field (detail.addTablet row) = field detail) (detail : TableDetail)
    (rows : List Row) : field (rows.foldl TableDetail.addTablet detail) = field detail := by
  induction rows generalizing detail with
  | nil => rfl
  | cons row rows induction => exact (induction (detail.addTablet row)).trans (kept detail row)

/-- Fold the tablets of a table into the loads of their backends and the totals.
The loads are ranged over before they are sorted. -/
def applyTabletLoads (order : MapOrder BackendTabletLoad) (detail : TableDetail)
    (rows : List Row) : TableDetail :=
  let loads := rows.foldl addTablet []
  let backends := (order.range loads).insertionSort fun left right =>
    !decide (right.backendID < left.backendID)
  { rows.foldl TableDetail.addTablet detail with
    backends
    skew := computeSkew backends (rows.map tabletRowCount) (rows.map tabletByteCount) }

end Rows

/-! ## The reads -/

inductive StorageRead
  | tables (database : String)
  | tableSizes (database : String)
  | partitions (database table : String)
  | tablets (tableID : String)
deriving DecidableEq

abbrev StorageReader := StorageRead → Except String (List Row)

section Service

variable [UnicodeTables] (reader : StorageReader)

def tableName (row : Row) : String := row.str ["table_name", "tablename"]

/-- The sizes are read apart from the tables, and a failure leaves them out. The
last row of a name counts. -/
def tableSize? (database name : String) : Option Row :=
  ((reader (.tableSizes database)).toOption.getD []).reverse.find? fun row => tableName row = name

def mapTable (database : String) (row : Row) : TableSummary :=
  let name := tableName row
  let size := tableSize? reader database name
  { database
    name
    id := row.str ["table_id", "tableid"]
    model := row.str ["table_model", "tablemodel"]
    engine := row.str ["table_engine", "tableengine"]
    partitionKey := row.str ["partition_key", "partitionkey"]
    distributeKey := row.str ["distribute_key", "distributekey"]
    distributeType := row.str ["distribute_type", "distributetype"]
    distributeBucket := row.int64 ["distribute_bucket", "distributebucket"]
    rows := size.bind fun size => size.int64 ["table_rows", "tablerows"]
    dataBytes := size.bind fun size => size.int64 ["data_length", "datalength"] }

def sortTables (tables : List TableSummary) : List TableSummary :=
  tables.insertionSort fun left right => !decide (right.name < left.name)

def tables (database : String) (now : Time) : Except String TableList := do
  if Strings.trimSpace database = "" then
    throw "invalid argument: database is required"
  let rows ← (reader (.tables database)).mapError fun failure =>
    "starrocks unavailable: reading tables_config failed: " ++ failure
  return {
    collectedAt := now.utc
    database
    tables := sortTables (rows.map (mapTable reader database)) }

/-- What `TableDetail` makes of a table it has found. Both reads are best
effort. -/
def detailOf (order : MapOrder BackendTabletLoad) (summary : TableSummary) (now : Time)
    (partitionRows tabletRows : Except String (List Row)) : TableDetail :=
  let (partitions, warnings) := match partitionRows with
    | .error failure => ([], ["partition metadata unavailable: " ++ failure])
    | .ok rows => (rows.map mapPartition, [])
  let detail : TableDetail :=
    { collectedAt := now.utc, table := summary, partitions, warnings }
  match tabletRows with
  | .error failure =>
      { detail with warnings := warnings ++ ["tablet detail unavailable: " ++ failure] }
  | .ok rows => applyTabletLoads order detail rows

variable [FoldTables]

def tableDetail (order : MapOrder BackendTabletLoad) (database table : String) (now : Time) :
    Except String (TableDetail × List StorageRead) := do
  if Strings.trimSpace database = "" || Strings.trimSpace table = "" then
    throw "invalid argument: database and table are required"
  let list ← tables reader database now
  match list.tables.find? fun summary => Strings.equalFold summary.name table with
  | none => throw ("not found: table " ++ database ++ "." ++ table ++ " does not exist")
  | some summary =>
      let partitions := .partitions database summary.name
      let tablets := .tablets summary.id
      return (detailOf order summary now (reader partitions) (reader tablets),
        [partitions, tablets])

end Service

end StarLens.Service
