import StarLens.Service.Query

/-! # Result sets

`collectResultSet` reads a stream of rows up to a cap. One more fetch tells
whether there are more. -/

namespace StarLens.Repository

open Go Service

structure NullString where
  string : String
  valid : Bool

def NullString.scan : Option String → NullString
  | none => { string := "", valid := false }
  | some text => { string := text, valid := true }

def NullString.cell (value : NullString) : Option String :=
  if value.valid then some value.string else none

/-- What the server sends for a statement: the names of the columns, their types
where the driver knows them, and the rows. Reading the names can fail, and so
can the fetch of any row or of the end behind the last one. -/
structure ResultStream where
  columnNames : Except ExecError (List String)
  columnTypes : Option (List String)
  rows : List (List (Option String))
  fails : Nat → Option ExecError

inductive Fetch
  | row (values : List (Option String))
  | done
  | failed (error : ExecError)

/-- `Next` behind the first `position` rows, with the values that `Scan` reads:
a text or a NULL never fails to scan. -/
def ResultStream.fetch (stream : ResultStream) (position : Nat) : Fetch :=
  match stream.fails position with
  | some error => .failed error
  | none =>
      match stream.rows[position]? with
      | some values => .row values
      | none => .done

/-- The loop, with the number of rows it may still take, and the fetch behind
it. -/
def collectRows (stream : ResultStream) (columns : List QueryColumn) :
    (remaining : Nat) → List (List (Option String)) → Except ExecError QueryResultSet
  | 0, rows =>
      match stream.fetch rows.length with
      | .row _ => .ok { columns, rows, truncated := true }
      | .done => .ok { columns, rows, truncated := false }
      | .failed error => .error error
  | remaining + 1, rows =>
      match stream.fetch rows.length with
      | .row values =>
          let row := values.map fun value => (NullString.scan value).cell
          collectRows stream columns remaining (rows ++ [row])
      | .done => .ok { columns, rows, truncated := false }
      | .failed error => .error error

def resultColumns (names : List String) (types : Option (List String)) : List QueryColumn :=
  names.mapIdx fun index name => { name, type := ((types.getD [])[index]?).getD "" }

def collectResultSet (stream : ResultStream) (maxRows : Int) : Except ExecError QueryResultSet := do
  let names ← stream.columnNames
  collectRows stream (resultColumns names stream.columnTypes) maxRows.toNat []

/-! ## The collected rows -/

private theorem cell_scan (value : Option String) : (NullString.scan value).cell = value := by
  cases value <;> rfl

theorem fetch_of_none {stream : ResultStream} {position : Nat}
    (good : stream.fails position = none) :
    stream.fetch position =
      match stream.rows[position]? with
      | some values => .row values
      | none => .done := by
  rw [ResultStream.fetch, good]

private theorem map_cell_scan (values : List (Option String)) :
    (values.map fun value => (NullString.scan value).cell) = values := by
  simp only [cell_scan, List.map_id']

section Collect

variable {stream : ResultStream} {columns : List QueryColumn}

private theorem collectRows_step {position : Nat} (inside : position < stream.rows.length)
    (good : stream.fails position = none) (remaining : Nat) :
    collectRows stream columns (remaining + 1) (stream.rows.take position) =
      collectRows stream columns remaining (stream.rows.take (position + 1)) := by
  have length : (stream.rows.take position).length = position :=
    List.length_take_of_le inside.le
  rw [collectRows, length, fetch_of_none good, List.getElem?_eq_getElem inside]
  dsimp only
  rw [map_cell_scan, List.take_append_getElem inside]

/-- Without a failure the loop takes what there is up to the cap, and the fetch
behind it finds out whether there is more. -/
theorem collectRows_ok (remaining position : Nat) (inside : position ≤ stream.rows.length)
    (good : ∀ index, index ≤ position + remaining → index ≤ stream.rows.length →
      stream.fails index = none) :
    collectRows stream columns remaining (stream.rows.take position) =
      .ok {
        columns
        rows := stream.rows.take (position + remaining)
        truncated := decide (position + remaining < stream.rows.length) } := by
  have length : (stream.rows.take position).length = position := List.length_take_of_le inside
  have here := good position (Nat.le_add_right _ _) inside
  induction remaining generalizing position with
  | zero =>
      rw [collectRows, length, fetch_of_none here]
      rcases Nat.lt_or_eq_of_le inside with more | last
      · simp [more]
      · simp [last]
  | succ remaining induction =>
      rcases Nat.lt_or_eq_of_le inside with more | last
      · have next : position + 1 + remaining = position + (remaining + 1) := by omega
        rw [collectRows_step more here, induction (position + 1) more, next]
        · intro index within
          exact good index (by omega)
        · exact List.length_take_of_le more
        · exact good (position + 1) (by omega) more
      · rw [collectRows, length, fetch_of_none here, last]
        have all : stream.rows.take (stream.rows.length + (remaining + 1)) = stream.rows :=
          List.take_of_length_le (by omega)
        simp [all]

private theorem collectRows_error {position : Nat} (inside : position ≤ stream.rows.length)
    {error : ExecError} (here : stream.fails position = some error) (remaining : Nat) :
    collectRows stream columns remaining (stream.rows.take position) = .error error := by
  have length : (stream.rows.take position).length = position := List.length_take_of_le inside
  have failed : stream.fetch position = .failed error := by rw [ResultStream.fetch, here]
  cases remaining <;> rw [collectRows, length, failed]

private theorem collectRows_failed (remaining position : Nat)
    (inside : position ≤ stream.rows.length)
    (bad : ∃ index, position ≤ index ∧ index ≤ position + remaining ∧
      index ≤ stream.rows.length ∧ (stream.fails index).isSome) :
    ∃ error, collectRows stream columns remaining (stream.rows.take position) = .error error := by
  rcases bad with ⟨index, after, within, listed, failed⟩
  induction remaining generalizing position with
  | zero =>
      have same : index = position := by omega
      rcases Option.isSome_iff_exists.mp failed with ⟨error, here⟩
      rw [same] at here
      exact ⟨error, collectRows_error inside here 0⟩
  | succ remaining induction =>
      cases here : stream.fails position with
      | some error => exact ⟨error, collectRows_error inside here _⟩
      | none =>
          have different : position ≠ index := by
            intro same
            rw [← same, here] at failed
            cases failed
          rw [collectRows_step (by omega) here]
          exact induction (position + 1) (by omega) (by omega) (by omega)

end Collect

def ResultStream.FailsWithin (stream : ResultStream) (fetches : Nat) : Prop :=
  (∃ error, stream.columnNames = .error error) ∨
    ∃ index, index < fetches ∧ index ≤ stream.rows.length ∧ (stream.fails index).isSome

theorem collectResultSet_ok {stream : ResultStream} {maxRows : Int}
    (good : ¬stream.FailsWithin (maxRows.toNat + 1)) :
    ∃ resultSet, collectResultSet stream maxRows = .ok resultSet ∧
      resultSet.rows = stream.rows.take maxRows.toNat ∧
      (resultSet.truncated ↔ maxRows.toNat < stream.rows.length) := by
  rw [ResultStream.FailsWithin, not_or] at good
  cases names : stream.columnNames with
  | error error => exact absurd ⟨error, names⟩ good.1
  | ok names' =>
      have sound : ∀ index, index ≤ 0 + maxRows.toNat → index ≤ stream.rows.length →
          stream.fails index = none := by
        intro index within listed
        by_contra failed
        rw [← ne_eq, Option.ne_none_iff_isSome] at failed
        exact good.2 ⟨index, by omega, listed, failed⟩
      rw [collectResultSet, names]
      refine ⟨_, collectRows_ok maxRows.toNat 0 (Nat.zero_le _) sound, ?_, ?_⟩
      · simp
      · simp

theorem collectResultSet_failed {stream : ResultStream} {maxRows : Int}
    (bad : stream.FailsWithin (maxRows.toNat + 1)) :
    ∃ error, collectResultSet stream maxRows = .error error := by
  rw [collectResultSet]
  cases names : stream.columnNames with
  | error error => exact ⟨error, rfl⟩
  | ok names' =>
      rcases bad with ⟨error, unread⟩ | ⟨index, within, listed, failed⟩
      · rw [names] at unread
        cases unread
      · exact collectRows_failed maxRows.toNat 0 (Nat.zero_le _)
          ⟨index, Nat.zero_le _, by omega, listed, failed⟩

/-! ## Executed requests -/

section Execute

variable [UnicodeTables] {policy : QueryPolicy} {request : QueryRequest}

omit [UnicodeTables] in
theorem newQueryPolicy_pos (policy : QueryPolicy) : 1 ≤ (newQueryPolicy policy).maxRows := by
  have default : (1 : Int) ≤ 1000 := by decide
  rw [newQueryPolicy]
  split
  · exact default
  · omega

theorem handed_maxRows {call : QueryCall} (ok : handed policy request = .ok call) :
    call.maxRows =
      if request.maxRows ≤ 0 || policy.maxRows < request.maxRows then policy.maxRows
      else request.maxRows := by
  rw [handed] at ok
  split at ok
  · cases ok
  · split at ok
    · cases ok
    · have same := Except.ok.inj ok
      rw [← same]

/-- A request gets the first rows of its stream up to a cap within the policy's,
and learns whether there are more. A failure on the way there leaves nothing. -/
theorem execute_collects (policy : QueryPolicy) (request : QueryRequest) (stream : ResultStream)
    (expired : Bool) (elapsed : Duration) {call : QueryCall}
    (ok : handed (newQueryPolicy policy) request = .ok call) :
    (1 ≤ call.maxRows ∧ call.maxRows ≤ (newQueryPolicy policy).maxRows ∧
      (1 ≤ request.maxRows → request.maxRows ≤ (newQueryPolicy policy).maxRows →
        call.maxRows = request.maxRows)) ∧
    (¬stream.FailsWithin (call.maxRows.toNat + 1) →
      ∃ result,
        execute (newQueryPolicy policy) request
          (fun call => collectResultSet stream call.maxRows) expired elapsed = .ok result ∧
        result.rows = stream.rows.take call.maxRows.toNat ∧
        result.rowCount = min stream.rows.length call.maxRows.toNat ∧
        (result.truncated ↔ call.maxRows.toNat < stream.rows.length)) ∧
    (stream.FailsWithin (call.maxRows.toNat + 1) →
      ∃ failure,
        execute (newQueryPolicy policy) request
          (fun call => collectResultSet stream call.maxRows) expired elapsed =
            .error failure) := by
  have positive := newQueryPolicy_pos policy
  have cap := handed_maxRows ok
  refine ⟨?_, fun good => ?_, fun bad => ?_⟩
  · rw [cap]
    simp only [Bool.or_eq_true, decide_eq_true_eq]
    split <;> omega
  · rcases collectResultSet_ok good with ⟨resultSet, collected, rows, truncated⟩
    rcases execute_of_ok (fun call => collectResultSet stream call.maxRows) expired elapsed ok
      collected with ⟨result, answer, sameRows, count, sameTruncated⟩
    refine ⟨result, answer, sameRows.trans rows, ?_, ?_⟩
    · rw [count, rows, List.length_take, min_comm]
    · rw [sameTruncated]
      exact truncated
  · rcases collectResultSet_failed bad with ⟨error, failed⟩
    exact ⟨_, execute_of_failed _ expired elapsed ok failed⟩

end Execute

/-- Three rows under a cap of two, where the fetch of a fourth would fail. -/
theorem execute_collects_two :
    ∃ (_ : UnicodeTables) (result : QueryResult),
      execute (newQueryPolicy { readOnly := false, maxRows := 2, timeout := 0 })
        { sql := "SELECT v FROM t;", database := "", maxRows := 0 }
        (fun call => collectResultSet
          { columnNames := .ok ["v"]
            columnTypes := none
            rows := [[some "1"], [none], [some "3"]]
            fails := fun index => if index = 3 then some .deadlineExceeded else none }
          call.maxRows) false 0 = .ok result ∧
      result.rows = [[some "1"], [none]] ∧ result.truncated := by
  let tables := UnicodeTables.latin
  let stream : ResultStream :=
    { columnNames := .ok ["v"]
      columnTypes := none
      rows := [[some "1"], [none], [some "3"]]
      fails := fun index => if index = 3 then some .deadlineExceeded else none }
  let policy : QueryPolicy := { readOnly := false, maxRows := 2, timeout := 0 }
  have ok : handed (newQueryPolicy policy)
      { sql := "SELECT v FROM t;", database := "", maxRows := 0 } =
        .ok { statement := "SELECT v FROM t", database := "", maxRows := 2 } := by
    rfl
  have good : ¬stream.FailsWithin 3 := by
    intro fails
    rcases fails with ⟨error, unread⟩ | ⟨index, within, -, failed⟩
    · cases unread
    · have different : index ≠ 3 := by omega
      simp [stream, different] at failed
  rcases (execute_collects policy _ stream false 0 ok).2.1 good with
    ⟨result, collected, rows, -, truncated⟩
  exact ⟨tables, result, collected, rows, truncated.mpr (by decide)⟩

end StarLens.Repository
