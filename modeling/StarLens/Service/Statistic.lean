import StarLens.Foundation.StableSort
import StarLens.Go.Wraparound
import StarLens.Service.Storage

/-! # The catalog by database

`StorageService.Statistic`: every database with its counters, those that need
attention first, and the totals over all of them. The read appends a summary row
that is not a database. -/

namespace StarLens.Service

open Foundation Go Repository

@[ext]
structure DatabaseStatistic where
  database : String := ""
  tableNum : Int64 := 0
  partitionNum : Int64 := 0
  tabletNum : Int64 := 0
  replicaNum : Int64 := 0
  unhealthyTabletNum : Int64 := 0
  inconsistentTabletNum : Int64 := 0
  cloningTabletNum : Int64 := 0
  errorStateTabletNum : Int64 := 0

/-- A tablet that is being cloned is no reason. -/
def DatabaseStatistic.needsAttention (stat : DatabaseStatistic) : Bool :=
  0 < stat.unhealthyTabletNum || 0 < stat.inconsistentTabletNum || 0 < stat.errorStateTabletNum

structure StorageStatistic where
  collectedAt : Time
  databases : List DatabaseStatistic := []
  totals : DatabaseStatistic := {}

def DatabaseStatistic.add (totals stat : DatabaseStatistic) : DatabaseStatistic :=
  { totals with
    tableNum := totals.tableNum + stat.tableNum
    partitionNum := totals.partitionNum + stat.partitionNum
    tabletNum := totals.tabletNum + stat.tabletNum
    replicaNum := totals.replicaNum + stat.replicaNum
    unhealthyTabletNum := totals.unhealthyTabletNum + stat.unhealthyTabletNum
    inconsistentTabletNum := totals.inconsistentTabletNum + stat.inconsistentTabletNum
    cloningTabletNum := totals.cloningTabletNum + stat.cloningTabletNum
    errorStateTabletNum := totals.errorStateTabletNum + stat.errorStateTabletNum }

def databaseLess (left right : DatabaseStatistic) : Bool :=
  if left.needsAttention ≠ right.needsAttention then left.needsAttention
  else if left.tabletNum ≠ right.tabletNum then right.tabletNum < left.tabletNum
  else left.database < right.database

section Rows

variable [UnicodeTables]

def databaseName (row : Row) : String := row.str ["dbname", "db_name", "database"]

theorem databaseName_eq_iff {row : Row} {name : String} (named : name ≠ "") :
    databaseName row = name ↔
      ["dbname", "db_name", "database"].findSome? row.cell = some name :=
  Row.str_eq_iff named

def mapDatabase (row : Row) : DatabaseStatistic where
  database := databaseName row
  tableNum := intOrZero row ["tablenum", "table_num"]
  partitionNum := intOrZero row ["partitionnum", "partition_num"]
  tabletNum := intOrZero row ["tabletnum", "tablet_num"]
  replicaNum := intOrZero row ["replicanum", "replica_num"]
  unhealthyTabletNum := intOrZero row ["unhealthytabletnum", "unhealthy_tablet_num"]
  inconsistentTabletNum := intOrZero row ["inconsistenttabletnum", "inconsistent_tablet_num"]
  cloningTabletNum := intOrZero row ["cloningtabletnum", "cloning_tablet_num"]
  errorStateTabletNum := intOrZero row ["errorstatetabletnum", "error_state_tablet_num"]

variable [FoldTables]

def isTotalRow (row : Row) : Bool := Strings.equalFold (row.str ["dbid", "db_id"]) "total"

theorem isTotalRow_iff {row : Row} :
    isTotalRow row ↔
      ∃ id, ["dbid", "db_id"].findSome? row.cell = some id ∧ Strings.equalFold id "total" := by
  rw [isTotalRow, row.str_eq]
  cases ["dbid", "db_id"].findSome? row.cell with
  | none => simp [Strings.equalFold]
  | some id => simp

def StorageStatistic.addRow (out : StorageStatistic) (row : Row) : StorageStatistic :=
  if isTotalRow row then out
  else if databaseName row = "" then out
  else
    let stat := mapDatabase row
    { out with databases := out.databases ++ [stat], totals := out.totals.add stat }

def statistic (read : Except String (List Row)) (now : Time) : Except String StorageStatistic := do
  let rows ← read.mapError fun failure =>
    "starrocks unavailable: SHOW PROC '/statistic' failed: " ++ failure
  let out := rows.foldl StorageStatistic.addRow { collectedAt := now.utc }
  return {
    out with
    databases := out.databases.insertionSort fun left right => !databaseLess right left }

/-! ## The rows -/

def listedDatabases (rows : List Row) : List DatabaseStatistic :=
  (rows.filter fun row => !isTotalRow row && databaseName row ≠ "").map mapDatabase

private theorem foldl_addRow (rows : List Row) (out : StorageStatistic) :
    rows.foldl StorageStatistic.addRow out =
      { out with
        databases := out.databases ++ listedDatabases rows
        totals := (listedDatabases rows).foldl DatabaseStatistic.add out.totals } := by
  induction rows generalizing out with
  | nil => simp [listedDatabases]
  | cons row rows induction =>
      rw [List.foldl_cons, induction, StorageStatistic.addRow, listedDatabases, listedDatabases,
        List.filter_cons]
      by_cases total : isTotalRow row
      · simp [total]
      · by_cases unnamed : databaseName row = ""
        · simp [total, unnamed]
        · simp [total, unnamed]

private theorem listedDatabases_perm {rows rows' : List Row} (perm : rows.Perm rows') :
    (listedDatabases rows).Perm (listedDatabases rows') :=
  (perm.filter _).map _

theorem statistic_ok (rows : List Row) (now : Time) :
    statistic (.ok rows) now = .ok {
      collectedAt := now.utc
      databases := (listedDatabases rows).insertionSort fun left right => !databaseLess right left
      totals := (listedDatabases rows).foldl DatabaseStatistic.add {} } := by
  change Except.ok _ = _
  rw [foldl_addRow]
  rfl

end Rows

/-! ## The order -/

private theorem strictWeak_databaseLess : StrictWeak databaseLess := by
  have byName := strictWeak_key DatabaseStatistic.database
  have byTablets := strictWeak_then (fun stat : DatabaseStatistic => -stat.tabletNum.toInt) byName
  have byAttention :=
    strictWeak_then (fun stat : DatabaseStatistic => !stat.needsAttention) byTablets
  have same : databaseLess = fun left right =>
      if (!left.needsAttention) ≠ (!right.needsAttention) then
        decide ((!left.needsAttention) < (!right.needsAttention))
      else if -left.tabletNum.toInt ≠ -right.tabletNum.toInt then
        decide (-left.tabletNum.toInt < -right.tabletNum.toInt)
      else decide (left.database < right.database) := by
    funext left right
    have equal : left.tabletNum = right.tabletNum ↔
        -left.tabletNum.toInt = -right.tabletNum.toInt := by
      rw [neg_inj, Int64.toInt_inj]
    have larger : decide (right.tabletNum < left.tabletNum) =
        decide (-left.tabletNum.toInt < -right.tabletNum.toInt) := by
      simp only [Int64.lt_iff_toInt_lt, neg_lt_neg_iff]
    rw [databaseLess, larger]
    simp only [ne_eq, equal]
    cases left.needsAttention <;> cases right.needsAttention <;> rfl
  rw [same]
  exact byAttention

/-- Those that need attention come before all others, and the larger ones come first
among either. -/
structure InFront (left right : DatabaseStatistic) : Prop where
  attention : right.needsAttention → left.needsAttention
  larger : left.needsAttention = right.needsAttention → right.tabletNum ≤ left.tabletNum

theorem inFront_of_not_less {left right : DatabaseStatistic}
    (after : databaseLess right left = false) : InFront left right := by
  rw [databaseLess] at after
  constructor
  · intro needs
    rw [needs] at after
    cases attention : left.needsAttention with
    | true => rfl
    | false => simp [attention] at after
  · intro same
    by_cases equal : right.tabletNum = left.tabletNum
    · rw [equal]
      exact Int64.le_refl _
    · simp only [same, equal, ne_eq, not_true_eq_false, not_false_eq_true, if_true, if_false,
        decide_eq_false_iff_not] at after
      exact Int64.not_lt.mp after

private theorem database_eq_of_not_less {left right : DatabaseStatistic}
    (after : databaseLess left right = false) (before : databaseLess right left = false) :
    left.database = right.database := by
  have leftFront := inFront_of_not_less before
  have rightFront := inFront_of_not_less after
  have attention : left.needsAttention = right.needsAttention :=
    Bool.eq_iff_iff.mpr ⟨rightFront.attention, leftFront.attention⟩
  have tablets : left.tabletNum = right.tabletNum :=
    Int64.le_antisymm (rightFront.larger attention.symm) (leftFront.larger attention)
  rw [databaseLess] at after before
  simp only [attention, tablets, ne_eq, not_true_eq_false, if_false, decide_eq_false_iff_not,
    not_lt] at after before
  exact le_antisymm before after

/-! ## The tally -/

section Tally

variable [UnicodeTables] [FoldTables]

/-- Exactly the databases are listed, each counter is totalled over them, and those that
need attention are in front. -/
structure Tallied (rows : List Row) (out : StorageStatistic) : Prop where
  listed : out.databases.Perm (listedDatabases rows)
  totals : out.totals = {
    database := ""
    tableNum := total (out.databases.map DatabaseStatistic.tableNum)
    partitionNum := total (out.databases.map DatabaseStatistic.partitionNum)
    tabletNum := total (out.databases.map DatabaseStatistic.tabletNum)
    replicaNum := total (out.databases.map DatabaseStatistic.replicaNum)
    unhealthyTabletNum := total (out.databases.map DatabaseStatistic.unhealthyTabletNum)
    inconsistentTabletNum := total (out.databases.map DatabaseStatistic.inconsistentTabletNum)
    cloningTabletNum := total (out.databases.map DatabaseStatistic.cloningTabletNum)
    errorStateTabletNum := total (out.databases.map DatabaseStatistic.errorStateTabletNum) }
  ordered : out.databases.Pairwise InFront

omit [UnicodeTables] [FoldTables] in
theorem foldl_add_counter (counter : DatabaseStatistic → Int64)
    (adds : ∀ totals stat, counter (DatabaseStatistic.add totals stat) =
      counter totals + counter stat)
    (zero : counter {} = 0) {stats stats' : List DatabaseStatistic} (perm : stats'.Perm stats) :
    counter (stats.foldl DatabaseStatistic.add {}) = total (stats'.map counter) := by
  rw [foldl_adds counter counter adds, zero, Int64.zero_add, total_perm (perm.map counter)]

omit [UnicodeTables] [FoldTables] in
private theorem foldl_add_database (stats : List DatabaseStatistic) :
    (stats.foldl DatabaseStatistic.add {}).database = "" := by
  induction stats using List.reverseRecOn with
  | nil => rfl
  | append_singleton stats stat induction =>
      rw [List.foldl_append]
      exact induction

private theorem tallied_of_ok {rows : List Row} {now : Time} {out : StorageStatistic}
    (answered : statistic (.ok rows) now = .ok out) : Tallied rows out := by
  rw [statistic_ok] at answered
  have same := Except.ok.inj answered
  rw [← same]
  have perm := List.perm_insertionSort
    (fun left right => (!databaseLess right left) = true) (listedDatabases rows)
  constructor
  · exact perm
  · apply DatabaseStatistic.ext
    · exact foldl_add_database _
    · exact foldl_add_counter DatabaseStatistic.tableNum (fun _ _ => rfl) rfl perm
    · exact foldl_add_counter DatabaseStatistic.partitionNum (fun _ _ => rfl) rfl perm
    · exact foldl_add_counter DatabaseStatistic.tabletNum (fun _ _ => rfl) rfl perm
    · exact foldl_add_counter DatabaseStatistic.replicaNum (fun _ _ => rfl) rfl perm
    · exact foldl_add_counter DatabaseStatistic.unhealthyTabletNum (fun _ _ => rfl) rfl perm
    · exact foldl_add_counter DatabaseStatistic.inconsistentTabletNum (fun _ _ => rfl) rfl perm
    · exact foldl_add_counter DatabaseStatistic.cloningTabletNum (fun _ _ => rfl) rfl perm
    · exact foldl_add_counter DatabaseStatistic.errorStateTabletNum (fun _ _ => rfl) rfl perm
  · apply (strictWeak_databaseLess.pairwise_insertionSort _).imp
    intro left right after
    exact inFront_of_not_less (by simpa using after)

omit [UnicodeTables] [FoldTables] in
theorem DatabaseStatistic.add_right_comm (totals stat other : DatabaseStatistic) :
    (totals.add stat).add other = (totals.add other).add stat := by
  apply DatabaseStatistic.ext
  · rfl
  all_goals exact int64_add_right_comm _ _ _

private theorem statistic_perm {rows rows' : List Row} (now : Time)
    (distinct : ((listedDatabases rows).map DatabaseStatistic.database).Nodup)
    (perm : rows.Perm rows') : statistic (.ok rows') now = statistic (.ok rows) now := by
  have listed := listedDatabases_perm perm
  have totals : (listedDatabases rows).foldl DatabaseStatistic.add {} =
      (listedDatabases rows').foldl DatabaseStatistic.add {} :=
    listed.foldl_eq' (fun _ _ _ _ totals => totals.add_right_comm _ _) _
  have sorted := strictWeak_databaseLess.insertionSort_eq_of_perm listed (by
    intro left member right member' after before
    exact List.inj_on_of_nodup_map distinct member member' (database_eq_of_not_less after before))
  rw [statistic_ok, statistic_ok, totals, sorted]

/-- The read is answered with a tally of its rows, the same for all their orders if the names of
the databases are distinct. -/
theorem statistic_tallied (rows : List Row) (now : Time) :
    ∃ out, statistic (.ok rows) now = .ok out ∧ Tallied rows out ∧
      (((listedDatabases rows).map DatabaseStatistic.database).Nodup →
        ∀ rows' : List Row, rows.Perm rows' → statistic (.ok rows') now = .ok out) := by
  refine ⟨_, statistic_ok rows now, tallied_of_ok (statistic_ok rows now), ?_⟩
  intro distinct rows' perm
  rw [statistic_perm now distinct perm, statistic_ok]

end Tally

end StarLens.Service
