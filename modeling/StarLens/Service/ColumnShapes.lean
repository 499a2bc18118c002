import StarLens.Repository.QueryRows
import StarLens.Service.Cluster
import StarLens.Service.RoutineLoadReads
import StarLens.Service.Statistic

/-! # Releases of the cluster

Releases rename, reorder and add columns. The services read by name, so what
they report depends on the cells under the names they read and on nothing else
of a result. -/

namespace StarLens.Service

open Alert (Document)
open Go Repository

/-! ## The statements -/

def showFrontendsStmt : String := "SHOW FRONTENDS"
def showBackendsStmt : String := "SHOW BACKENDS"
def showComputeNodesStmt : String := "SHOW COMPUTE NODES"
def runModeStmt : String := "ADMIN SHOW FRONTEND CONFIG LIKE 'run_mode'"
def statisticProcStmt : String := "SHOW PROC '/statistic'"

def tablesConfigStmt : String :=
  "SELECT TABLE_SCHEMA, TABLE_NAME, TABLE_ID, TABLE_ENGINE, TABLE_MODEL,\n" ++
    "\t\tPARTITION_KEY, DISTRIBUTE_KEY, DISTRIBUTE_TYPE, DISTRIBUTE_BUCKET\n" ++
    "\t\tFROM information_schema.tables_config WHERE TABLE_SCHEMA = ?"

def tableSizesStmt : String :=
  "SELECT TABLE_NAME, TABLE_ROWS, DATA_LENGTH\n" ++
    "\t\tFROM information_schema.tables WHERE TABLE_SCHEMA = ?"

def partitionsMetaStmt : String :=
  "SELECT PARTITION_NAME, ROW_COUNT, DATA_SIZE, BUCKETS, REPLICATION_NUM,\n" ++
    "\t\tVISIBLE_VERSION, STORAGE_MEDIUM, MAX_CS, AVG_CS, TABLET_BALANCED\n" ++
    "\t\tFROM information_schema.partitions_meta WHERE DB_NAME = ? AND TABLE_NAME = ?"

def beTabletsStmt : String :=
  "SELECT BE_ID, TABLET_ID, PARTITION_ID, NUM_ROW, DATA_SIZE,\n" ++
    "\t\tNUM_ROWSET, NUM_SEGMENT, NUM_VERSION, STATE\n" ++
    "\t\tFROM information_schema.be_tablets WHERE TABLE_ID = ?"

/-- What the cluster answers a statement and its arguments, by how many
statements the call has sent before. -/
abbrev StarRocks := Nat → String → List String → Except String RowStream

section Repositories

variable [UnicodeTables]

def StarRocks.query (starRocks : StarRocks) (sent : Nat) (statement : String) (args : List String) :
    Except String (List Row) :=
  queryRows statement (starRocks sent statement args)

def StarRocks.cluster (starRocks : StarRocks) : ClusterReads where
  frontends := starRocks.query 0 showFrontendsStmt []
  backends := starRocks.query 1 showBackendsStmt []
  computeNodes := starRocks.query 2 showComputeNodesStmt []
  runMode := starRocks.query 3 runModeStmt []

def StarRocks.answers (starRocks : StarRocks) : QueryAnswers :=
  fun sent statement => starRocks.query sent statement []

def StarRocks.storage (starRocks : StarRocks) : StorageReader
  | .tables database => starRocks.query 0 tablesConfigStmt [database]
  | .tableSizes database => starRocks.query 1 tableSizesStmt [database]
  | .partitions database table => starRocks.query 2 partitionsMetaStmt [database, table]
  | .tablets tableID =>
      if tableID = "" then .error "repository: tablet lookup needs a table id"
      else starRocks.query 3 beTabletsStmt [tableID]

end Repositories

/-! ## What is read of them -/

def showFrontendsColumns : List String :=
  ["ismaster", "isleader", "leader", "master", "role", "ip", "host", "hostname", "name", "alive",
    "queryport", "httpport", "editlogport", "rpcport", "version", "starttime", "laststarttime",
    "lastheartbeat", "errmsg", "replayedjournalid", "replayed_journal_id", "ishelper", "is_helper",
    "join", "joined", "clusterid", "cluster_id"]

def dataNodeColumns : List String :=
  ["backendid", "computenodeid", "beid", "cnid", "id", "ip", "host", "hostname", "alive",
    "systemdecommissioned", "clusterdecommissioned", "heartbeatport", "beport", "httpport",
    "brpcport", "starletport", "version", "laststarttime", "starttime", "lastheartbeat", "errmsg",
    "warehousename", "warehouse", "replayedjournalid", "replayed_journal_id", "ishelper",
    "is_helper", "join", "joined", "clusterid", "cluster_id", "tabletnum", "cpucores",
    "numrunningqueries", "maxdiskusedpct", "usedpct", "memusedpct", "cpuusedpct",
    "datausedcapacity", "totalcapacity", "availcapacity"]

def runModeColumns : List String := ["key", "value"]

def routineLoadColumns : List String :=
  ["id", "name", "dbname", "db_name", "tablename", "table_name", "state", "datasourcetype",
    "data_source_type", "currenttasknum", "current_task_num", "createtime", "create_time",
    "pausetime", "pause_time", "endtime", "end_time", "reasonofstatechanged",
    "reasons_of_state_changed", "reason_of_state_changed", "errorlogurls", "error_log_urls",
    "trackingsql", "tracking_sql", "othermsg", "other_msg", "progress", "latestsourceposition",
    "latest_source_position", "statistic", "statistics"]

def showDatabasesColumns : List String := ["database"]

def statisticProcColumns : List String :=
  ["dbid", "db_id", "dbname", "db_name", "database", "tablenum", "table_num", "partitionnum",
    "partition_num", "tabletnum", "tablet_num", "replicanum", "replica_num", "unhealthytabletnum",
    "unhealthy_tablet_num", "inconsistenttabletnum", "inconsistent_tablet_num", "cloningtabletnum",
    "cloning_tablet_num", "errorstatetabletnum", "error_state_tablet_num"]

def tablesConfigColumns : List String :=
  ["table_name", "tablename", "table_id", "tableid", "table_model", "tablemodel", "table_engine",
    "tableengine", "partition_key", "partitionkey", "distribute_key", "distributekey",
    "distribute_type", "distributetype", "distribute_bucket", "distributebucket"]

def tableSizesColumns : List String :=
  ["table_name", "tablename", "table_rows", "tablerows", "data_length", "datalength"]

def partitionsMetaColumns : List String :=
  ["partition_name", "partitionname", "row_count", "rowcount", "data_size", "datasize", "buckets",
    "replication_num", "replicationnum", "visible_version", "visibleversion", "storage_medium",
    "storagemedium", "max_cs", "maxcs", "avg_cs", "avgcs", "tablet_balanced", "tabletbalanced"]

def beTabletsColumns : List String :=
  ["be_id", "beid", "num_row", "numrow", "data_size", "datasize", "num_rowset", "numrowset",
    "num_segment", "numsegment", "state"]

section Alike

variable [UnicodeTables] {columns : List String} {rows rows' : List Row} {row row' : Row}

theorem map_alike {Result : Type} {convert : Row → Result}
    (same : ∀ row row', Alike columns row row' → convert row = convert row')
    (alike : List.Forall₂ (Alike columns) rows rows') : rows.map convert = rows'.map convert := by
  induction alike with
  | nil => rfl
  | cons head _ induction => rw [List.map_cons, List.map_cons, same _ _ head, induction]

private theorem filter_alike {keep : Row → Bool}
    (same : ∀ row row', Alike columns row row' → keep row = keep row')
    (alike : List.Forall₂ (Alike columns) rows rows') :
    List.Forall₂ (Alike columns) (rows.filter keep) (rows'.filter keep) := by
  induction alike with
  | nil => exact .nil
  | @cons row row' _ _ head _ induction =>
      rw [List.filter_cons, List.filter_cons, same row row' head]
      split
      · exact .cons head induction
      · exact induction

private theorem find?_alike {holds : Row → Bool}
    (same : ∀ row row', Alike columns row row' → holds row = holds row')
    (alike : List.Forall₂ (Alike columns) rows rows') :
    (rows.find? holds = none ∧ rows'.find? holds = none) ∨
      ∃ row row', rows.find? holds = some row ∧ rows'.find? holds = some row' ∧
        Alike columns row row' := by
  induction alike with
  | nil => exact .inl ⟨rfl, rfl⟩
  | @cons row row' _ _ head _ induction =>
      rw [List.find?_cons, List.find?_cons, same row row' head]
      split
      · exact .inr ⟨row, row', rfl, rfl, head⟩
      · exact induction

private theorem foldl_alike {State : Type} {add : State → Row → State}
    (same : ∀ state row row', Alike columns row row' → add state row = add state row')
    (alike : List.Forall₂ (Alike columns) rows rows') (state : State) :
    rows.foldl add state = rows'.foldl add state := by
  induction alike generalizing state with
  | nil => rfl
  | cons head _ induction => rw [List.foldl_cons, List.foldl_cons, same _ _ _ head, induction]

private theorem collectPorts_alike {names : List String} (alike : Alike columns row row')
    (read : names ⊆ columns) : collectPorts row names = collectPorts row' names := by
  rw [collectPorts, collectPorts]
  apply List.filterMap_congr
  intro name member
  rw [alike.int64 (List.cons_subset.mpr ⟨read member, List.nil_subset _⟩)]

theorem boolPtr_alike {names : List String} (alike : Alike columns row row')
    (read : names ⊆ columns) : boolPtr row names = boolPtr row' names := by
  rw [boolPtr, boolPtr, alike.str read, alike.bool read]

private theorem mapFrontend_alike (alike : Alike showFrontendsColumns row row') :
    mapFrontend row = mapFrontend row' := by
  simp (disch := decide) only [mapFrontend, frontendRole, collectPorts_alike alike,
    boolPtr_alike alike, alike.str, alike.bool, alike.int64]

private theorem mapDataNode_alike (alike : Alike dataNodeColumns row row') (type : NodeType) :
    mapDataNode row type = mapDataNode row' type := by
  simp (disch := decide) only [mapDataNode, collectPorts_alike alike, boolPtr_alike alike,
    alike.str, alike.bool, alike.int64, alike.float64, alike.bytes]

private theorem mapRoutineLoadJob_alike (parse : String → Except String Document)
    (alike : Alike routineLoadColumns row row') :
    mapRoutineLoadJob parse row = mapRoutineLoadJob parse row' := by
  simp (disch := decide) only [mapRoutineLoadJob, alike.str, alike.int64]

private theorem mapDatabase_alike (alike : Alike statisticProcColumns row row') :
    mapDatabase row = mapDatabase row' := by
  simp (disch := decide) only [mapDatabase, databaseName, intOrZero, alike.str, alike.int64]

private theorem mapPartition_alike (alike : Alike partitionsMetaColumns row row') :
    mapPartition row = mapPartition row' := by
  simp (disch := decide) only [mapPartition, boolPtr_alike alike, alike.str, alike.int64,
    alike.float64, alike.bytes]

theorem tabletCounts_alike (alike : Alike beTabletsColumns row row') :
    tabletRowCount row = tabletRowCount row' ∧ tabletByteCount row = tabletByteCount row' ∧
      tabletRowsets row = tabletRowsets row' ∧ tabletSegments row = tabletSegments row' := by
  simp (disch := decide) only [tabletRowCount, tabletByteCount, tabletRowsets, tabletSegments,
    intOrZero, alike.int64, and_self]

theorem addTablet_alike (loads : List BackendTabletLoad) (alike : Alike beTabletsColumns row row') :
    addTablet loads row = addTablet loads row' := by
  rcases tabletCounts_alike alike with ⟨count, bytes, rowsets, segments⟩
  have backend : tabletBackend row = tabletBackend row' := alike.str (by decide)
  have add (load : BackendTabletLoad) : load.add row = load.add row' := by
    rw [BackendTabletLoad.add, count, bytes, rowsets, segments, BackendTabletLoad.add]
  rw [addTablet, backend, add, addTablet]
  simp only [add]

theorem TableDetail.addTablet_alike (detail : TableDetail)
    (alike : Alike beTabletsColumns row row') :
    detail.addTablet row = detail.addTablet row' := by
  rcases tabletCounts_alike alike with ⟨-, -, rowsets, segments⟩
  rw [TableDetail.addTablet, rowsets, segments, alike.str (by decide), TableDetail.addTablet]

/-! ## The services -/

private theorem topologyDataNodes_alike (type : NodeType)
    (alike : List.Forall₂ (Alike dataNodeColumns) rows rows') :
    topologyDataNodes rows type = topologyDataNodes rows' type := by
  rw [topologyDataNodes, topologyDataNodes,
    map_alike (fun _ _ alike => mapDataNode_alike alike type) alike]

private theorem resolveRunMode_alike {read read' : Except String (List Row)}
    (alike : AnswersAlike runModeColumns read read') :
    resolveRunMode read = resolveRunMode read' := by
  rcases alike.cases with ⟨failure, rfl, rfl⟩ | ⟨rows, rows', rfl, rfl, alike⟩
  · rfl
  · have keyed : ∀ row row', Alike runModeColumns row row' →
        decide (String.ofList ((row.str ["key"]).toList.map Char.toLower) = "run_mode") =
          decide (String.ofList ((row'.str ["key"]).toList.map Char.toLower) = "run_mode") := by
      intro row row' alike
      rw [alike.str (by decide)]
    rw [resolveRunMode, resolveRunMode]
    rcases find?_alike keyed alike with ⟨absent, absent'⟩ | ⟨row, row', found, found', alike⟩
    · rw [absent, absent']
    · rw [found, found']
      dsimp only
      rw [alike.str (by decide)]

private theorem topology_alike {reads reads' : ClusterReads} (now : Time)
    (frontends : AnswersAlike showFrontendsColumns reads.frontends reads'.frontends)
    (backends : AnswersAlike dataNodeColumns reads.backends reads'.backends)
    (computeNodes : AnswersAlike dataNodeColumns reads.computeNodes reads'.computeNodes)
    (runMode : AnswersAlike runModeColumns reads.runMode reads'.runMode) :
    topology reads now = topology reads' now := by
  have mode := resolveRunMode_alike runMode
  have compute : topologyDataNodes (reads.computeNodes.toOption.getD []) .compute =
      topologyDataNodes (reads'.computeNodes.toOption.getD []) .compute := by
    rcases computeNodes.cases with ⟨failure, failed, failed'⟩ | ⟨rows, rows', ok, ok', alike⟩
    · rw [failed, failed']
    · rw [ok, ok']
      exact topologyDataNodes_alike .compute alike
  rcases frontends.cases with ⟨failure, failed, failed'⟩ | ⟨rows, rows', ok, ok', alike⟩
  · simp only [topology, failed, failed', Except.mapError, bind, Except.bind]
  · have frontendNodes : topologyFrontends rows = topologyFrontends rows' := by
      rw [topologyFrontends, topologyFrontends, map_alike (fun _ _ => mapFrontend_alike) alike]
    rcases backends.cases with ⟨failure, failed, failed'⟩ | ⟨beRows, beRows', beOk, beOk', beAlike⟩
    · simp only [topology, ok, ok', failed, failed', Except.mapError, bind, Except.bind]
    · simp only [topology, ok, ok', beOk, beOk', Except.mapError, bind, Except.bind, frontendNodes,
        topologyDataNodes_alike .backend beAlike, compute, mode]

private theorem statistic_alike [FoldTables] {read read' : Except String (List Row)} (now : Time)
    (alike : AnswersAlike statisticProcColumns read read') :
    statistic read now = statistic read' now := by
  rcases alike.cases with ⟨failure, rfl, rfl⟩ | ⟨rows, rows', rfl, rfl, alike⟩
  · rfl
  · have listed : listedDatabases rows = listedDatabases rows' := by
      apply map_alike (fun row row' => mapDatabase_alike)
      apply filter_alike ?_ alike
      intro row row' alike
      rw [isTotalRow, isTotalRow, alike.str (by decide), databaseName, databaseName,
        alike.str (by decide)]
    rw [statistic_ok, statistic_ok, listed]

/-! ## The jobs -/

private theorem userDatabase?_alike (alike : Alike showDatabasesColumns row row') :
    userDatabase? row = userDatabase? row' := by
  rw [userDatabase?, userDatabase?, alike.str (by decide)]

structure Sweep.Matches (sweep sweep' : Sweep) : Prop where
  rows : List.Forall₂ (Alike routineLoadColumns) sweep.rows sweep'.rows
  rest : { sweep with rows := [] } = { sweep' with rows := [] }

section Jobs

variable {answers answers' : QueryAnswers}

theorem Sweep.Matches.step {sweep sweep' : Sweep} (matched : sweep.Matches sweep')
    (shown : ∀ sent database, AnswersAlike routineLoadColumns
      (answers sent (showRoutineLoadStmt database)) (answers' sent (showRoutineLoadStmt database)))
    (alike : Alike showDatabasesColumns row row') :
    (sweep.step answers row).Matches (sweep'.step answers' row') := by
  rcases sweep with ⟨rows, warnings, lastErr, attempted, failed, queried⟩
  rcases sweep' with ⟨rows', warnings', lastErr', attempted', failed', queried'⟩
  rcases matched with ⟨rowsAlike, rest⟩
  cases rest
  rw [Sweep.step, Sweep.step, userDatabase?_alike alike]
  cases userDatabase? row' with
  | none => exact ⟨rowsAlike, rfl⟩
  | some name =>
      dsimp only
      rcases (shown (2 + attempted) name).cases with
        ⟨failure, failed, failed'⟩ | ⟨read, read', ok, ok', readAlike⟩
      · rw [failed, failed']
        exact ⟨rowsAlike, rfl⟩
      · rw [ok, ok']
        exact ⟨List.rel_append rowsAlike readAlike, rfl⟩

theorem Sweep.Matches.foldl {sweep sweep' : Sweep} (matched : sweep.Matches sweep')
    (shown : ∀ sent database, AnswersAlike routineLoadColumns
      (answers sent (showRoutineLoadStmt database)) (answers' sent (showRoutineLoadStmt database)))
    (alike : List.Forall₂ (Alike showDatabasesColumns) rows rows') :
    (rows.foldl (Sweep.step answers) sweep).Matches (rows'.foldl (Sweep.step answers') sweep') := by
  induction alike generalizing sweep sweep' with
  | nil => exact matched
  | cons head _ induction => exact induction (matched.step shown head)

def JobsAlike : Except String RoutineLoadRows → Except String RoutineLoadRows → Prop
  | .ok read, .ok read' => List.Forall₂ (Alike routineLoadColumns) read.rows read'.rows ∧
      read.source = read'.source ∧ read.warnings = read'.warnings
  | .error failure, .error failure' => failure = failure'
  | _, _ => False

private theorem jobsViaShow_alike
    (databases : AnswersAlike showDatabasesColumns (answers 1 showDatabasesStmt)
      (answers' 1 showDatabasesStmt))
    (shown : ∀ sent database, AnswersAlike routineLoadColumns
      (answers sent (showRoutineLoadStmt database))
      (answers' sent (showRoutineLoadStmt database))) :
    JobsAlike (jobsViaShow answers).1 (jobsViaShow answers').1 ∧
      (jobsViaShow answers).2 = (jobsViaShow answers').2 := by
  rw [jobsViaShow, jobsViaShow]
  rcases databases.cases with ⟨failure, failed, failed'⟩ | ⟨rows, rows', ok, ok', alike⟩
  · rw [failed, failed']
    exact ⟨rfl, rfl⟩
  · rw [ok, ok']
    have start : ({} : Sweep).Matches {} := ⟨.nil, rfl⟩
    have swept := start.foldl shown alike
    dsimp only
    generalize rows.foldl (Sweep.step answers) {} = sweep at swept
    generalize rows'.foldl (Sweep.step answers') {} = sweep' at swept
    rcases sweep with ⟨rows, warnings, lastErr, attempted, failed, queried⟩
    rcases sweep' with ⟨rows', warnings', lastErr', attempted', failed', queried'⟩
    rcases swept with ⟨rowsAlike, rest⟩
    cases rest
    refine ⟨?_, rfl⟩
    dsimp only
    split
    · exact rfl
    · exact ⟨rowsAlike, rfl, rfl⟩

private theorem jobs_alike
    (jobRows : AnswersAlike routineLoadColumns (answers 0 infoSchemaRoutineLoadStmt)
      (answers' 0 infoSchemaRoutineLoadStmt))
    (databases : AnswersAlike showDatabasesColumns (answers 1 showDatabasesStmt)
      (answers' 1 showDatabasesStmt))
    (shown : ∀ sent database, AnswersAlike routineLoadColumns
      (answers sent (showRoutineLoadStmt database)) (answers' sent (showRoutineLoadStmt database)))
    (ended : Bool) :
    JobsAlike (jobs answers ended).1 (jobs answers' ended).1 ∧
      (jobs answers ended).2 = (jobs answers' ended).2 := by
  rw [jobs, jobs]
  rcases jobRows.cases with ⟨failure, failed, failed'⟩ | ⟨rows, rows', ok, ok', alike⟩
  · rw [failed, failed']
    dsimp only
    cases ended with
    | true => exact ⟨rfl, rfl⟩
    | false =>
        have shown := jobsViaShow_alike databases shown
        generalize jobsViaShow answers = swept at shown
        generalize jobsViaShow answers' = swept' at shown
        rcases swept with ⟨result, queried⟩
        rcases swept' with ⟨result', queried'⟩
        rcases shown with ⟨alike, same⟩
        cases same
        refine ⟨?_, rfl⟩
        cases result with
        | error failure =>
            cases result' with
            | error failure' =>
                cases alike
                rfl
            | ok read' => cases alike
        | ok read =>
            cases result' with
            | error failure' => cases alike
            | ok read' => exact alike
  · rw [ok, ok']
    exact ⟨⟨alike, rfl, rfl⟩, rfl⟩

theorem routineLoadSnapshot_alike (parse : String → Except String Document)
    {read read' : Except String RoutineLoadRows} (alike : JobsAlike read read') (now : Time) :
    routineLoadSnapshot parse read now = routineLoadSnapshot parse read' now := by
  cases read with
  | error failure =>
      cases read' with
      | error failure' =>
          cases alike
          rfl
      | ok read' => cases alike
  | ok read =>
      cases read' with
      | error failure' => cases alike
      | ok read' =>
          have jobs : read.rows.map (mapRoutineLoadJob parse) =
              read'.rows.map (mapRoutineLoadJob parse) :=
            map_alike (fun _ _ => mapRoutineLoadJob_alike parse) alike.1
          simp only [routineLoadSnapshot, Except.mapError, bind, Except.bind, jobs, alike.2.1,
            alike.2.2]

end Jobs

/-! ## The tables -/

/-- Readers whose answers are alike to those who read these columns of them. -/
structure ReadersAlike (reader reader' : StorageReader) : Prop where
  tables : ∀ database, AnswersAlike tablesConfigColumns (reader (.tables database))
    (reader' (.tables database))
  tableSizes : ∀ database, AnswersAlike tableSizesColumns (reader (.tableSizes database))
    (reader' (.tableSizes database))
  partitions : ∀ database table, AnswersAlike partitionsMetaColumns
    (reader (.partitions database table)) (reader' (.partitions database table))
  tablets : ∀ tableID, AnswersAlike beTabletsColumns (reader (.tablets tableID))
    (reader' (.tablets tableID))

section Tables

variable {reader reader' : StorageReader} (alike : ReadersAlike reader reader')
include alike

private theorem tableSize?_alike (database name : String) :
    (tableSize? reader database name = none ∧ tableSize? reader' database name = none) ∨
      ∃ size size', tableSize? reader database name = some size ∧
        tableSize? reader' database name = some size' ∧ Alike tableSizesColumns size size' := by
  have rows : List.Forall₂ (Alike tableSizesColumns)
      ((reader (.tableSizes database)).toOption.getD []).reverse
      ((reader' (.tableSizes database)).toOption.getD []).reverse := by
    apply List.rel_reverse
    rcases (alike.tableSizes database).cases with
      ⟨failure, failed, failed'⟩ | ⟨rows, rows', ok, ok', rowsAlike⟩
    · rw [failed, failed']
      exact .nil
    · rw [ok, ok']
      exact rowsAlike
  apply find?_alike ?_ rows
  intro row row' alike
  rw [tableName, tableName, alike.str (by decide)]

private theorem mapTable_alike (database : String) {row row' : Row}
    (rowAlike : Alike tablesConfigColumns row row') :
    mapTable reader database row = mapTable reader' database row' := by
  have name : tableName row = tableName row' := rowAlike.str (by decide)
  have sizes : ∀ names : List String, names ⊆ tableSizesColumns →
      ((tableSize? reader database (tableName row')).bind fun size => size.int64 names) =
        (tableSize? reader' database (tableName row')).bind fun size => size.int64 names := by
    intro names read
    rcases tableSize?_alike alike database (tableName row') with
      ⟨absent, absent'⟩ | ⟨size, size', found, found', sizeAlike⟩
    · rw [absent, absent']
    · rw [found, found', Option.bind_some, Option.bind_some, sizeAlike.int64 read]
  simp (disch := decide) only [mapTable, name, sizes, rowAlike.str, rowAlike.int64]

private theorem tables_alike (database : String) (now : Time) :
    tables reader database now = tables reader' database now := by
  rcases (alike.tables database).cases with
    ⟨failure, failed, failed'⟩ | ⟨rows, rows', ok, ok', rowsAlike⟩
  · simp only [tables, failed, failed', Except.mapError, bind, Except.bind]
  · have mapped : rows.map (mapTable reader database) = rows'.map (mapTable reader' database) := by
      clear ok ok'
      induction rowsAlike with
      | nil => rfl
      | cons head _ induction =>
          rw [List.map_cons, List.map_cons, mapTable_alike alike database head, induction]
    simp only [tables, ok, ok', Except.mapError, bind, Except.bind, mapped]

omit alike in
private theorem detailOf_alike (order : MapOrder BackendTabletLoad) (summary : TableSummary)
    (now : Time) {partitions partitions' tablets tablets' : Except String (List Row)}
    (partitionsAlike : AnswersAlike partitionsMetaColumns partitions partitions')
    (tabletsAlike : AnswersAlike beTabletsColumns tablets tablets') :
    detailOf order summary now partitions tablets =
      detailOf order summary now partitions' tablets' := by
  have tabletFold : ∀ detail rows rows', List.Forall₂ (Alike beTabletsColumns) rows rows' →
      applyTabletLoads order detail rows = applyTabletLoads order detail rows' := by
    intro detail rows rows' alike
    rw [applyTabletLoads, applyTabletLoads,
      foldl_alike (fun loads _ _ => addTablet_alike loads) alike,
      foldl_alike (fun detail _ _ => TableDetail.addTablet_alike detail) alike,
      map_alike (fun _ _ alike => (tabletCounts_alike alike).1) alike,
      map_alike (fun _ _ alike => (tabletCounts_alike alike).2.1) alike]
  unfold detailOf
  rcases partitionsAlike.cases with ⟨failure, rfl, rfl⟩ | ⟨rows, rows', rfl, rfl, alike⟩
  · rcases tabletsAlike.cases with ⟨failure, rfl, rfl⟩ | ⟨rows, rows', rfl, rfl, alike⟩
    · rfl
    · exact tabletFold _ rows rows' alike
  · dsimp only
    rw [map_alike (fun _ _ => mapPartition_alike) alike]
    rcases tabletsAlike.cases with ⟨failure, rfl, rfl⟩ | ⟨rows, rows', rfl, rfl, alike⟩
    · rfl
    · exact tabletFold _ rows rows' alike

private theorem tableDetail_alike [FoldTables] (order : MapOrder BackendTabletLoad)
    (database table : String) (now : Time) :
    tableDetail reader order database table now = tableDetail reader' order database table now := by
  have details : ∀ summary : TableSummary,
      detailOf order summary now (reader (.partitions database summary.name))
          (reader (.tablets summary.id)) =
        detailOf order summary now (reader' (.partitions database summary.name))
          (reader' (.tablets summary.id)) := fun summary =>
    detailOf_alike order summary now (alike.partitions database summary.name)
      (alike.tablets summary.id)
  simp only [tableDetail, tables_alike alike, details]

end Tables

/-! ## Whole answers -/

/-- Clusters that answer every statement the same up to the order, the spelling
and the company of the columns that are read. -/
structure SameColumns (starRocks starRocks' : StarRocks) : Prop where
  frontends : ∀ sent, Reshaped showFrontendsColumns (starRocks sent showFrontendsStmt [])
    (starRocks' sent showFrontendsStmt [])
  backends : ∀ sent, Reshaped dataNodeColumns (starRocks sent showBackendsStmt [])
    (starRocks' sent showBackendsStmt [])
  computeNodes : ∀ sent, Reshaped dataNodeColumns (starRocks sent showComputeNodesStmt [])
    (starRocks' sent showComputeNodesStmt [])
  runMode : ∀ sent, Reshaped runModeColumns (starRocks sent runModeStmt [])
    (starRocks' sent runModeStmt [])
  infoSchema : ∀ sent, Reshaped routineLoadColumns (starRocks sent infoSchemaRoutineLoadStmt [])
    (starRocks' sent infoSchemaRoutineLoadStmt [])
  databases : ∀ sent, Reshaped showDatabasesColumns (starRocks sent showDatabasesStmt [])
    (starRocks' sent showDatabasesStmt [])
  routineLoads : ∀ sent database, Reshaped routineLoadColumns
    (starRocks sent (showRoutineLoadStmt database) [])
    (starRocks' sent (showRoutineLoadStmt database) [])
  statistic : ∀ sent, Reshaped statisticProcColumns (starRocks sent statisticProcStmt [])
    (starRocks' sent statisticProcStmt [])
  tables : ∀ sent args, Reshaped tablesConfigColumns (starRocks sent tablesConfigStmt args)
    (starRocks' sent tablesConfigStmt args)
  tableSizes : ∀ sent args, Reshaped tableSizesColumns (starRocks sent tableSizesStmt args)
    (starRocks' sent tableSizesStmt args)
  partitions : ∀ sent args, Reshaped partitionsMetaColumns (starRocks sent partitionsMetaStmt args)
    (starRocks' sent partitionsMetaStmt args)
  tablets : ∀ sent args, Reshaped beTabletsColumns (starRocks sent beTabletsStmt args)
    (starRocks' sent beTabletsStmt args)

theorem SameColumns.storage {starRocks starRocks' : StarRocks}
    (same : SameColumns starRocks starRocks') :
    ReadersAlike starRocks.storage starRocks'.storage := by
  constructor
  · exact fun database => queryRows_alike _ (same.tables 0 [database])
  · exact fun database => queryRows_alike _ (same.tableSizes 1 [database])
  · exact fun database table => queryRows_alike _ (same.partitions 2 [database, table])
  · intro tableID
    simp only [StarRocks.storage]
    split
    · rfl
    · exact queryRows_alike _ (same.tablets 3 [tableID])

/-- Whatever order and case a release gives its columns, and whatever it adds to
them, the topology, the jobs with the statements sent for them, the statistic, the
tables and their details come out the same. -/
theorem reads_by_name [FoldTables] (parse : String → Except String Document)
    (order : MapOrder BackendTabletLoad) {starRocks starRocks' : StarRocks}
    (same : SameColumns starRocks starRocks') (now : Time) :
    topology starRocks.cluster now = topology starRocks'.cluster now ∧
      (∀ ended, routineLoadSnapshot parse (jobs starRocks.answers ended).1 now =
          routineLoadSnapshot parse (jobs starRocks'.answers ended).1 now ∧
        (jobs starRocks.answers ended).2 = (jobs starRocks'.answers ended).2) ∧
      statistic (starRocks.query 0 statisticProcStmt []) now =
        statistic (starRocks'.query 0 statisticProcStmt []) now ∧
      (∀ database, tables starRocks.storage database now = tables starRocks'.storage database now) ∧
      ∀ database table, tableDetail starRocks.storage order database table now =
        tableDetail starRocks'.storage order database table now := by
  refine ⟨?_, fun ended => ?_, ?_, fun database => ?_, fun database table => ?_⟩
  · apply topology_alike now
    · exact queryRows_alike _ (same.frontends 0)
    · exact queryRows_alike _ (same.backends 1)
    · exact queryRows_alike _ (same.computeNodes 2)
    · exact queryRows_alike _ (same.runMode 3)
  · have alike : JobsAlike (jobs starRocks.answers ended).1 (jobs starRocks'.answers ended).1 ∧
        (jobs starRocks.answers ended).2 = (jobs starRocks'.answers ended).2 := by
      apply jobs_alike
      · exact queryRows_alike _ (same.infoSchema 0)
      · exact queryRows_alike _ (same.databases 1)
      · exact fun sent database => queryRows_alike _ (same.routineLoads sent database)
    exact ⟨routineLoadSnapshot_alike parse alike.1 now, alike.2⟩
  · exact statistic_alike now (queryRows_alike _ (same.statistic 0))
  · exact tables_alike same.storage database now
  · exact tableDetail_alike same.storage order database table now

end Alike

def spelled : RowStream where
  columns := .ok ["Name", "Alive"]
  rows := [[some "fe1", some "true"]]
  fails _ := none

def respelled : RowStream where
  columns := .ok ["ALIVE", "name"]
  rows := [[some "true", some "fe1"]]
  fails _ := none

private theorem reshaped_respelled [UnicodeTables] (columns : List String) :
    Reshaped columns (.ok spelled) (.ok respelled) := by
  refine ⟨rfl, ?_, .cons ?_ .nil⟩
  · have distinct : (["name", "alive"] : List String).Nodup := by decide
    exact distinct.filter _
  · exact (List.Perm.swap ("alive", some "true") ("name", some "fe1") []).filter _

theorem reads_by_name_respelled :
    ∃ (_ : UnicodeTables), ∀ parse : String → Except String Document, ∀ now,
      topology (StarRocks.cluster fun _ _ _ => .ok spelled) now =
        topology (StarRocks.cluster fun _ _ _ => .ok respelled) now ∧
      routineLoadSnapshot parse (jobs (StarRocks.answers fun _ _ _ => .ok spelled) false).1 now =
        routineLoadSnapshot parse (jobs (StarRocks.answers fun _ _ _ => .ok respelled) false).1
          now := by
  let tables := UnicodeTables.latin
  let folds : FoldTables := ⟨id⟩
  have same : SameColumns (fun _ _ _ => .ok spelled) (fun _ _ _ => .ok respelled) := by
    constructor <;> intros <;> exact reshaped_respelled _
  refine ⟨tables, fun parse now => ?_⟩
  have read := reads_by_name parse ⟨id, fun _ => .refl _⟩ same now
  exact ⟨read.1, (read.2.1 false).1⟩

end StarLens.Service
