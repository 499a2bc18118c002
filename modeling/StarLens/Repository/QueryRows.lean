import StarLens.Go.Maps
import StarLens.Go.Strconv
import StarLens.Repository.Row

/-! # Rows by column name

`QueryRows` materializes the result of a statement: each row becomes a map from
lower-cased column names to trimmed cells. -/

namespace StarLens.Repository

open Go

inductive RowFailure
  | scan (err : String)
  | iterate (err : String)

/-- What the driver delivers for a statement; `none` is NULL. The fetch of any
row can fail, and that of the end behind the last one. -/
structure RowStream where
  columns : Except String (List String)
  rows : List (List (Option String))
  fails : Nat → Option RowFailure

section QueryRows

variable [UnicodeTables]

def rowCell (value : Option String) : String :=
  match value with
  | none => ""
  | some text => Strings.trimSpace text

/-- The map of a row. A later column of a name replaces an earlier one. -/
def makeRow (columns : List String) (values : List (Option String)) : Row :=
  (columns.zip values).foldl
    (fun row cell => (Strings.toLower cell.1, rowCell cell.2) :: row) []

def materialize (fails : Nat → Option RowFailure) (columns : List String) :
    (position : Nat) → List (List (Option String)) → List Row → Except RowFailure (List Row)
  | position, [], out =>
      match fails position with
      | some failure => .error failure
      | none => .ok out
  | position, values :: rows, out =>
      match fails position with
      | some failure => .error failure
      | none => materialize fails columns (position + 1) rows (out ++ [makeRow columns values])

def RowFailure.text (query : String) : RowFailure → String
  | scan err => "repository: scan row for " ++ Strconv.quote query ++ ": " ++ err
  | iterate err => "repository: iterate rows for " ++ Strconv.quote query ++ ": " ++ err

def queryRows (query : String) (answer : Except String RowStream) : Except String (List Row) := do
  let stream ← answer.mapError fun err =>
    "repository: query " ++ Strconv.quote query ++ ": " ++ err
  let columns ← stream.columns.mapError fun err =>
    "repository: read columns for " ++ Strconv.quote query ++ ": " ++ err
  (materialize stream.fails columns 0 stream.rows []).mapError (RowFailure.text query)

/-! ## The cells of a row -/

private theorem makeRow_eq (columns : List String) (values : List (Option String)) :
    makeRow columns values =
      ((columns.zip values).map fun cell => (Strings.toLower cell.1, rowCell cell.2)).reverse := by
  have general : ∀ (cells : List (String × Option String)) (row : Row),
      cells.foldl (fun row cell => (Strings.toLower cell.1, rowCell cell.2) :: row) row =
        (cells.map fun cell => (Strings.toLower cell.1, rowCell cell.2)).reverse ++ row := by
    intro cells
    induction cells with
    | nil => simp
    | cons cell cells induction =>
        intro row
        rw [List.foldl_cons, induction, List.map_cons, List.reverse_cons, List.append_assoc,
          List.singleton_append]
  rw [makeRow, general, List.append_nil]

/-- Rows that the accessors cannot tell apart as long as they read these columns
only. -/
def Alike (columns : List String) (row row' : Row) : Prop :=
  ∀ name ∈ columns, row.cell name = row'.cell name

section Alike

variable {columns names : List String} {row row' : Row}

theorem Alike.str (alike : Alike columns row row') (read : names ⊆ columns) :
    row.str names = row'.str names := by
  have same : names.map row.cell = names.map row'.cell :=
    List.map_congr_left fun name member => alike name (read member)
  rw [Row.str_eq, Row.str_eq, ← Function.id_comp row.cell, ← Function.id_comp row'.cell,
    ← List.findSome?_map, ← List.findSome?_map, same]

theorem Alike.bool (alike : Alike columns row row') (read : names ⊆ columns) :
    row.bool names = row'.bool names := by
  rw [Row.bool, Row.bool, alike.str read]

theorem Alike.int64 (alike : Alike columns row row') (read : names ⊆ columns) :
    row.int64 names = row'.int64 names := by
  rw [Row.int64, Row.int64, alike.str read]

theorem Alike.float64 (alike : Alike columns row row') (read : names ⊆ columns) :
    row.float64 names = row'.float64 names := by
  rw [Row.float64, Row.float64, alike.str read]

theorem Alike.bytes (alike : Alike columns row row') (read : names ⊆ columns) :
    row.bytes names = row'.bytes names := by
  rw [Row.bytes, Row.bytes, alike.str read]

end Alike

/-! ## Other releases -/

def readCells (columns names : List String) (values : List (Option String)) :
    List (String × Option String) :=
  ((names.map Strings.toLower).zip values).filter fun cell =>
    decide (cell.1 ∈ columns.map Strings.toLower)

/-- Two results that have the columns that are read in common, in whatever order,
spelling and company. -/
def RowStream.Reshapes (columns : List String) (stream stream' : RowStream) : Prop :=
  stream.fails = stream'.fails ∧
    match stream.columns, stream'.columns with
    | .ok names, .ok names' =>
        ((names.map Strings.toLower).filter (· ∈ columns.map Strings.toLower)).Nodup ∧
          List.Forall₂ (fun values values' =>
            (readCells columns names values).Perm (readCells columns names' values'))
            stream.rows stream'.rows
    | .error err, .error err' => err = err'
    | _, _ => False

def Reshaped (columns : List String) : Except String RowStream → Except String RowStream → Prop
  | .ok stream, .ok stream' => stream.Reshapes columns stream'
  | .error err, .error err' => err = err'
  | _, _ => False

private theorem lookup_makeRow {columns names : List String} {values : List (Option String)}
    (distinct : ((readCells columns names values).map Prod.fst).Nodup) {name : String}
    (read : name ∈ columns) :
    (makeRow names values).lookup (Strings.toLower name) =
      ((readCells columns names values).lookup (Strings.toLower name)).map rowCell := by
  let cells := (names.map Strings.toLower).zip values
  have row : makeRow names values =
      cells.reverse.map fun cell => (cell.1, rowCell cell.2) := by
    have zipped : cells = (names.zip values).map fun cell => (Strings.toLower cell.1, cell.2) :=
      List.zip_map_left
    rw [makeRow_eq, zipped, ← List.map_reverse, ← List.map_reverse, List.map_map]
    rfl
  have asked : decide (Strings.toLower name ∈ columns.map Strings.toLower) = true :=
    decide_eq_true (List.mem_map_of_mem read)
  rw [row, lookup_map fun _ => rowCell, ← lookup_filter cells.reverse
    (fun name => decide (name ∈ columns.map Strings.toLower)) asked, List.filter_reverse,
    lookup_perm (List.reverse_perm _)]
  · rfl
  · rw [List.map_reverse, List.nodup_reverse]
    exact distinct

private theorem cell_makeRow {columns names : List String} {values : List (Option String)}
    (distinct : ((readCells columns names values).map Prod.fst).Nodup) {name : String}
    (read : name ∈ columns) :
    Row.cell (makeRow names values) name =
      (((readCells columns names values).lookup (Strings.toLower name)).map rowCell).filter
        fun value => value != "" := by
  rw [Row.cell, lookup_makeRow distinct read]

omit [UnicodeTables] in
private theorem map_fst_zip_sublist {First Second : Type} (firsts : List First)
    (seconds : List Second) : ((firsts.zip seconds).map Prod.fst).Sublist firsts := by
  induction firsts generalizing seconds with
  | nil => simp
  | cons first firsts induction =>
      cases seconds with
      | nil => exact List.nil_sublist _
      | cons second seconds => exact (induction seconds).cons_cons first

private theorem keys_readCells (columns names : List String) (values : List (Option String)) :
    ((readCells columns names values).map Prod.fst).Sublist
      ((names.map Strings.toLower).filter (· ∈ columns.map Strings.toLower)) := by
  have keys : (readCells columns names values).map Prod.fst =
      (((names.map Strings.toLower).zip values).map Prod.fst).filter
        (· ∈ columns.map Strings.toLower) := by
    rw [readCells, List.filter_map]
    rfl
  rw [keys]
  exact (map_fst_zip_sublist _ _).filter _

private theorem alike_of_perm {columns names names' : List String}
    {values values' : List (Option String)}
    (distinct : ((names.map Strings.toLower).filter (· ∈ columns.map Strings.toLower)).Nodup)
    (perm : (readCells columns names values).Perm (readCells columns names' values')) :
    Alike columns (makeRow names values) (makeRow names' values') := by
  intro name read
  have keys := (keys_readCells columns names values).nodup distinct
  rw [cell_makeRow keys read, cell_makeRow ((perm.map Prod.fst).nodup_iff.mp keys) read,
    lookup_perm perm keys]

private theorem materialize_alike {columns names names' : List String}
    (distinct : ((names.map Strings.toLower).filter (· ∈ columns.map Strings.toLower)).Nodup)
    (fails : Nat → Option RowFailure) {rows rows' : List (List (Option String))}
    (reshaped : List.Forall₂ (fun values values' =>
      (readCells columns names values).Perm (readCells columns names' values')) rows rows')
    (position : Nat) {out out' : List Row} (alike : List.Forall₂ (Alike columns) out out') :
    (∃ all all', materialize fails names position rows out = .ok all ∧
      materialize fails names' position rows' out' = .ok all' ∧
      List.Forall₂ (Alike columns) all all') ∨
    ∃ failure, materialize fails names position rows out = .error failure ∧
      materialize fails names' position rows' out' = .error failure := by
  induction reshaped generalizing position out out' with
  | nil =>
      cases here : fails position with
      | some failure => exact .inr ⟨failure, by rw [materialize, here], by rw [materialize, here]⟩
      | none => exact .inl ⟨out, out', by rw [materialize, here], by rw [materialize, here], alike⟩
  | @cons values values' rows rows' perm _ induction =>
      cases here : fails position with
      | some failure => exact .inr ⟨failure, by rw [materialize, here], by rw [materialize, here]⟩
      | none =>
          rw [materialize, here, materialize, here]
          apply induction
          exact List.rel_append alike (.cons (alike_of_perm distinct perm) .nil)

/-- Results of a query that failed the same way, or whose rows the accessors
cannot tell apart. -/
def AnswersAlike (columns : List String) :
    Except String (List Row) → Except String (List Row) → Prop
  | .ok rows, .ok rows' => List.Forall₂ (Alike columns) rows rows'
  | .error failure, .error failure' => failure = failure'
  | _, _ => False

theorem AnswersAlike.cases {columns : List String} {answer answer' : Except String (List Row)}
    (alike : AnswersAlike columns answer answer') :
    (∃ failure, answer = .error failure ∧ answer' = .error failure) ∨
      ∃ rows rows', answer = .ok rows ∧ answer' = .ok rows' ∧
        List.Forall₂ (Alike columns) rows rows' := by
  cases answer with
  | error failure =>
      cases answer' with
      | error failure' =>
          cases alike
          exact .inl ⟨failure, rfl, rfl⟩
      | ok rows' => cases alike
  | ok rows =>
      cases answer' with
      | error failure' => cases alike
      | ok rows' => exact .inr ⟨rows, rows', rfl, rfl, alike⟩

theorem queryRows_alike {columns : List String} (query : String)
    {answer answer' : Except String RowStream} (reshaped : Reshaped columns answer answer') :
    AnswersAlike columns (queryRows query answer) (queryRows query answer') := by
  cases answer with
  | error err =>
      cases answer' with
      | error err' =>
          cases reshaped
          rfl
      | ok stream' => cases reshaped
  | ok stream =>
      cases answer' with
      | error err' => cases reshaped
      | ok stream' =>
          rcases stream with ⟨header, rows, fails⟩
          rcases stream' with ⟨header', rows', fails'⟩
          rcases reshaped with ⟨same, reshaped⟩
          cases same
          cases header with
          | error err =>
              cases header' with
              | error err' =>
                  cases reshaped
                  rfl
              | ok names' => cases reshaped
          | ok names =>
              cases header' with
              | error err' => cases reshaped
              | ok names' =>
                  simp only [queryRows, Except.mapError, bind, Except.bind]
                  rcases materialize_alike reshaped.1 fails reshaped.2 0 .nil with
                    ⟨all, all', ok, ok', alike⟩ | ⟨failure, failed, failed'⟩
                  · rw [ok, ok']
                    exact alike
                  · rw [failed, failed']
                    rfl

end QueryRows

end StarLens.Repository
