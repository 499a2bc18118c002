import StarLens.Foundation.StableSort
import StarLens.Service.Storage

/-! # Which table a detail is about

`TableDetail` looks for a name among the sorted tables and folds the case. It
takes the first table it finds. -/

namespace StarLens.Service

open Foundation Go Repository

section Tables

variable [UnicodeTables] {reader : StorageReader} {database : String} {now : Time}

theorem tables_eq (named : Strings.trimSpace database ≠ "") {rows : List Row}
    (read : reader (.tables database) = .ok rows) :
    tables reader database now =
      .ok {
        collectedAt := now.utc
        database
        tables := sortTables (rows.map (mapTable reader database)) } := by
  rw [tables, if_neg named, read]
  rfl

private theorem tables_ok {list : TableList} (listed : tables reader database now = .ok list) :
    Strings.trimSpace database ≠ "" ∧
      ∃ rows, reader (.tables database) = .ok rows ∧
        list.tables = sortTables (rows.map (mapTable reader database)) := by
  rw [tables] at listed
  by_cases blank : Strings.trimSpace database = ""
  · rw [if_pos blank] at listed
    cases listed
  · cases read : reader (.tables database) with
    | error failure =>
        rw [if_neg blank, read] at listed
        cases listed
    | ok rows =>
        rw [← tables, tables_eq blank read] at listed
        have same := Except.ok.inj listed
        refine ⟨blank, rows, rfl, ?_⟩
        rw [← same]

omit [UnicodeTables] in
private theorem pairwise_sortTables (summaries : List TableSummary) :
    (sortTables summaries).Pairwise fun left right => ¬right.name < left.name := by
  have sorted := (strictWeak_key TableSummary.name).pairwise_insertionSort summaries
  exact sorted.imp fun after => by simpa using after

private theorem detailOf_table (order : MapOrder BackendTabletLoad) (summary : TableSummary)
    (now : Time) (partitionRows tabletRows : Except String (List Row)) :
    (detailOf order summary now partitionRows tabletRows).table = summary := by
  cases tabletRows with
  | error failure => cases partitionRows <;> rfl
  | ok rows =>
      cases partitionRows <;>
        exact foldl_addTablet_keeps TableDetail.table (fun _ _ => rfl) _ rows

variable [FoldTables]

omit [UnicodeTables] in
private theorem equalFold_refl (text : String) : Strings.equalFold text text := by
  simp [Strings.equalFold]

private theorem tableDetail_eq (order : MapOrder BackendTabletLoad) {list : TableList}
    (listed : tables reader database now = .ok list) {table : String}
    (named : Strings.trimSpace table ≠ "") :
    tableDetail reader order database table now =
      match list.tables.find? fun summary => Strings.equalFold summary.name table with
      | none => .error ("not found: table " ++ database ++ "." ++ table ++ " does not exist")
      | some summary =>
          .ok (detailOf order summary now (reader (.partitions database summary.name))
              (reader (.tablets summary.id)),
            [.partitions database summary.name, .tablets summary.id]) := by
  have database' := (tables_ok listed).1
  rw [tableDetail, listed]
  simp only [database', named, decide_false, Bool.or_self, Bool.false_eq_true, if_false]
  change (match list.tables.find? fun summary => Strings.equalFold summary.name table with
    | none => _
    | some summary => _) = _
  cases list.tables.find? fun summary => Strings.equalFold summary.name table <;> rfl

private theorem tableDetail_blank (order : MapOrder BackendTabletLoad) {table : String}
    (blank : Strings.trimSpace table = "") :
    tableDetail reader order database table now =
      .error "invalid argument: database and table are required" := by
  rw [tableDetail, blank]
  simp
  rfl

omit [FoldTables] in
private theorem tables_sorted {list : TableList} (listed : tables reader database now = .ok list)
    {rows : List Row} (read : reader (.tables database) = .ok rows) :
    list.tables.Perm (rows.map (mapTable reader database)) ∧
      list.tables.Pairwise fun left right => ¬right.name < left.name := by
  rcases tables_ok listed with ⟨-, rows', read', sorted⟩
  rw [read] at read'
  rw [← Except.ok.inj read'] at sorted
  rw [sorted]
  exact ⟨List.perm_insertionSort _ _, pairwise_sortTables _⟩

private theorem tableDetail_search_iff (order : MapOrder BackendTabletLoad) {list : TableList}
    (listed : tables reader database now = .ok list) {table : TableSummary}
    (member : table ∈ list.tables) (named : Strings.trimSpace table.name ≠ "") :
    (∀ detail lookups,
        tableDetail reader order database table.name now = .ok (detail, lookups) →
        detail.table = table ∧
          lookups = [.partitions database table.name, .tablets table.id]) ↔
      list.tables.find? (fun summary => Strings.equalFold summary.name table.name) =
        some table := by
  rw [tableDetail_eq order listed named]
  constructor
  · intro identified
    cases search : list.tables.find? fun summary =>
        Strings.equalFold summary.name table.name with
    | none =>
        rw [List.find?_eq_none] at search
        exact absurd (equalFold_refl table.name) (search table member)
    | some summary =>
        have same := (identified _ _ (by rw [search])).1
        rw [detailOf_table] at same
        rw [same]
  · intro search detail lookups ok
    rw [search] at ok
    have same := Except.ok.inj ok
    rw [← (Prod.mk.inj same).1, ← (Prod.mk.inj same).2]
    exact ⟨detailOf_table order table now _ _, rfl⟩

/-- The detail under a listed table's own name is about that table, exactly where
no name that sorts before it folds to the same. -/
theorem tableDetail_identity_iff (order : MapOrder BackendTabletLoad) {list : TableList}
    (listed : tables reader database now = .ok list) {rows : List Row}
    (read : reader (.tables database) = .ok rows) (distinct : (rows.map tableName).Nodup)
    {table : TableSummary} (member : table ∈ list.tables) :
    (∀ detail lookups,
        tableDetail reader order database table.name now = .ok (detail, lookups) →
        detail.table = table ∧
          lookups = [.partitions database table.name, .tablets table.id]) ↔
      Strings.trimSpace table.name = "" ∨
        ∀ row ∈ rows, tableName row < table.name →
          ¬Strings.equalFold (tableName row) table.name := by
  rcases tables_sorted listed read with ⟨perm, sorted⟩
  have names : (list.tables.map TableSummary.name).Nodup := by
    rw [(perm.map TableSummary.name).nodup_iff, List.map_map]
    exact distinct
  have found := find?_eq_some_iff_of_sorted TableSummary.name
    (fun summary => Strings.equalFold summary.name table.name) sorted names member
    (equalFold_refl table.name)
  have others : (∀ other ∈ list.tables, other.name < table.name →
      ¬Strings.equalFold other.name table.name) ↔
        ∀ row ∈ rows, tableName row < table.name →
          ¬Strings.equalFold (tableName row) table.name := by
    simp only [perm.mem_iff, List.forall_mem_map]
    rfl
  by_cases blank : Strings.trimSpace table.name = ""
  · rw [tableDetail_blank order blank]
    simp [blank]
  · rw [tableDetail_search_iff order listed member blank, found, others]
    simp only [blank, false_or]

end Tables

def readTables (rows : List Row) : StorageReader
  | .tables _ => .ok rows
  | _ => .error "access denied"

@[reducible] def foldLatin : FoldTables := ⟨id⟩

def shopTables : List Row :=
  [[("table_name", "orders"), ("table_id", "10010")],
    [("table_name", "Orders"), ("table_id", "10011")],
    [("table_name", "items"), ("table_id", "10012")]]

theorem tableDetail_identity_shop :
    ∃ (_ : UnicodeTables) (_ : FoldTables) (order : MapOrder BackendTabletLoad)
      (list : TableList),
      tables (readTables shopTables) "demo" { wall := 0 } = .ok list ∧
      list.tables.length = 3 ∧
      ∀ table ∈ list.tables,
        (∀ detail lookups,
          tableDetail (readTables shopTables) order "demo" table.name { wall := 0 } =
            .ok (detail, lookups) →
          detail.table = table ∧
            lookups = [.partitions "demo" table.name, .tablets table.id]) ↔
          table.name ≠ "orders" := by
  let tables := UnicodeTables.latin
  let folds := foldLatin
  let order : MapOrder BackendTabletLoad := ⟨id, fun _ => .refl _⟩
  have listed := @tables_eq _ (readTables shopTables) "demo" { wall := 0 } (by decide) _ rfl
  refine ⟨tables, folds, order, _, listed, ?_, fun table member => ?_⟩
  · simp only [sortTables, List.length_insertionSort, List.length_map]
    rfl
  · refine (tableDetail_identity_iff order listed rfl (by decide) member).trans ?_
    simp only [sortTables, List.mem_insertionSort, List.mem_map] at member
    rcases member with ⟨row, read, rfl⟩
    revert row
    decide

/-- Two tables whose names differ in case: the detail of the second is about the
first. -/
theorem tableDetail_of_other_case :
    ∃ (_ : UnicodeTables) (_ : FoldTables), ¬∀ (reader : StorageReader)
      (order : MapOrder BackendTabletLoad) (database : String) (now : Time) (list : TableList)
      (rows : List Row), tables reader database now = .ok list →
      reader (.tables database) = .ok rows → (rows.map tableName).Nodup →
      ∀ table ∈ list.tables, ∀ detail lookups,
        tableDetail reader order database table.name now = .ok (detail, lookups) →
        detail.table = table ∧
          lookups = [.partitions database table.name, .tablets table.id] := by
  let tables := UnicodeTables.latin
  let folds := foldLatin
  refine ⟨tables, folds, fun claimed => ?_⟩
  let order : MapOrder BackendTabletLoad := ⟨id, fun _ => .refl _⟩
  let upper : Row := [("table_name", "Orders"), ("table_id", "10010")]
  let lower : Row := [("table_name", "orders"), ("table_id", "10011")]
  let reader := readTables [upper, lower]
  let summaries := [mapTable reader "demo" upper, mapTable reader "demo" lower]
  have sorted : sortTables summaries = summaries := by
    apply List.Pairwise.insertionSort_eq
    simp only [summaries, List.pairwise_pair]
    decide
  have listed := @tables_eq _ reader "demo" { wall := 0 } (by decide) [upper, lower] rfl
  rw [show [upper, lower].map (mapTable reader "demo") = summaries from rfl, sorted] at listed
  have named : Strings.trimSpace (mapTable reader "demo" lower).name ≠ "" := by decide
  have member : mapTable reader "demo" lower ∈ summaries := by simp [summaries]
  have identified := (tableDetail_search_iff order listed member named).mp
    fun detail lookups ok =>
      claimed reader order "demo" { wall := 0 } _ [upper, lower] listed rfl (by decide) _ member
        detail lookups ok
  have folded : Strings.equalFold (mapTable reader "demo" upper).name
      (mapTable reader "demo" lower).name := by decide
  have search : summaries.find? (fun summary => Strings.equalFold summary.name
      (mapTable reader "demo" lower).name) = some (mapTable reader "demo" upper) :=
    List.find?_cons_of_pos folded
  have same := Option.some.inj (search.symm.trans identified)
  exact absurd (congrArg TableSummary.name same) (by decide)

end StarLens.Service
