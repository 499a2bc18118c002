import Mathlib.Data.List.Basic
import StarLens.Repository.QueryRepository
import StarLens.Service.RoutineLoad

/-! # The read paths of the jobs

`RoutineLoadRepository.Jobs`: one statement for all databases, and where the
release does not serve it a sweep over the databases. What a failed database had
is left out with a warning. -/

namespace StarLens.Service

open Go Repository

def infoSchemaRoutineLoadStmt : String := "SELECT * FROM information_schema.routine_load_jobs"
def showDatabasesStmt : String := "SHOW DATABASES"

def showRoutineLoadStmt (database : String) : String :=
  "SHOW ALL ROUTINE LOAD FROM " ++ quoteIdentifier database

def routineLoadSourceInfoSchema : String := "information_schema"
def routineLoadSourceShow : String := "show_routine_load"

def systemDatabases : List String := ["information_schema", "sys", "_statistics_"]

/-- What `QueryRows` returns for the statements of a call, by how many it has
sent before. -/
abbrev QueryAnswers := Nat → String → Except String (List Row)

section Sweep

variable [UnicodeTables] (answers : QueryAnswers)

/-- The sweep between two databases, with the statements it has sent. -/
structure Sweep where
  rows : List Row := []
  warnings : List String := []
  lastErr : String := ""
  attempted : Nat := 0
  failed : Nat := 0
  queried : List String := []

def databaseWarning (name failure : String) : String :=
  "database " ++ Strconv.quote name ++ " could not be read: " ++ failure

/-- The database of a row, unless it is none or never owns a job. -/
def userDatabase? (dbRow : Row) : Option String :=
  let name := dbRow.str ["database"]
  if name = "" || Strings.toLower name ∈ systemDatabases then none else some name

theorem userDatabase?_eq_some_iff {dbRow : Row} {name : String} :
    userDatabase? dbRow = some name ↔
      dbRow.cell "database" = some name ∧ Strings.toLower name ∉ systemDatabases := by
  rw [userDatabase?, dbRow.str_eq, List.findSome?_singleton]
  cases held : dbRow.cell "database" with
  | none => simp
  | some value =>
      simp only [Option.getD_some, Row.cell_ne held, decide_false, Bool.false_or,
        decide_eq_true_eq, Option.ite_none_left_eq_some, Option.some.injEq]
      constructor
      · intro holds
        exact ⟨holds.2, holds.2 ▸ holds.1⟩
      · intro holds
        exact ⟨holds.1 ▸ holds.2, holds.1⟩

/-- Two statements come before the sweep. -/
def Sweep.step (sweep : Sweep) (dbRow : Row) : Sweep :=
  match userDatabase? dbRow with
  | none => sweep
  | some name =>
      let stmt := showRoutineLoadStmt name
      let sent := { sweep with
        attempted := sweep.attempted + 1
        queried := sweep.queried ++ [stmt] }
      match answers (2 + sweep.attempted) stmt with
      | .error failure =>
          { sent with
            failed := sweep.failed + 1
            lastErr := failure
            warnings := sweep.warnings ++ [databaseWarning name failure] }
      | .ok jobRows => { sent with rows := sweep.rows ++ jobRows }

def jobsViaShow : Except String RoutineLoadRows × List String :=
  match answers 1 showDatabasesStmt with
  | .error failure => (.error failure, [showDatabasesStmt])
  | .ok dbRows =>
      let sweep := dbRows.foldl (Sweep.step answers) {}
      let result :=
        if 0 < sweep.attempted && sweep.failed = sweep.attempted then
          .error ("all " ++ toString sweep.attempted ++ " databases failed, last error: " ++
            sweep.lastErr)
        else
          .ok { rows := sweep.rows, source := routineLoadSourceShow, warnings := sweep.warnings }
      (result, showDatabasesStmt :: sweep.queried)

/-- `Jobs`, with the statements it sends. `ended` is whether the context of the
caller has ended when the first of them fails. -/
def jobs (ended : Bool) : Except String RoutineLoadRows × List String :=
  match answers 0 infoSchemaRoutineLoadStmt with
  | .ok rows =>
      (.ok { rows, source := routineLoadSourceInfoSchema, warnings := [] },
        [infoSchemaRoutineLoadStmt])
  | .error infoSchemaErr =>
      if ended then (.error infoSchemaErr, [infoSchemaRoutineLoadStmt])
      else
        let (result, queried) := jobsViaShow answers
        (result.mapError fun showErr =>
          "routine_load_jobs query failed: " ++ infoSchemaErr ++ "\n" ++
            "SHOW ROUTINE LOAD fallback failed: " ++ showErr,
          infoSchemaRoutineLoadStmt :: queried)

/-! ## Outcomes -/

def outcomes (start : Nat) (names : List String) :
    List (String × Except String (List Row)) :=
  names.mapIdx fun index name => (name, answers (start + index) (showRoutineLoadStmt name))

omit [UnicodeTables] in
theorem outcomes_cons (start : Nat) (name : String) (names : List String) :
    outcomes answers start (name :: names) =
      (name, answers start (showRoutineLoadStmt name)) :: outcomes answers (start + 1) names := by
  rw [outcomes, List.mapIdx_cons, outcomes]
  simp only [Nat.add_zero, Nat.add_assoc, Nat.add_comm 1]

omit [UnicodeTables] in
private theorem length_outcomes (start : Nat) (names : List String) :
    (outcomes answers start names).length = names.length :=
  List.length_mapIdx

def readRows (outcome : String × Except String (List Row)) : List Row :=
  match outcome.2 with
  | .error _ => []
  | .ok rows => rows

def warning? (outcome : String × Except String (List Row)) : Option String :=
  match outcome.2 with
  | .error failure => some (databaseWarning outcome.1 failure)
  | .ok _ => none

def readFailed (outcome : String × Except String (List Row)) : Bool := (warning? outcome).isSome

/-- What a sweep has come to after more outcomes, apart from the last failure. -/
structure Sweep.Extends (sweep before : Sweep)
    (outcomes : List (String × Except String (List Row))) : Prop where
  rows : sweep.rows = before.rows ++ outcomes.flatMap readRows
  warnings : sweep.warnings = before.warnings ++ outcomes.filterMap warning?
  attempted : sweep.attempted = before.attempted + outcomes.length
  failed : sweep.failed = before.failed + outcomes.countP readFailed
  queried : sweep.queried = before.queried ++ outcomes.map fun outcome =>
    showRoutineLoadStmt outcome.1

theorem Sweep.Extends.trans {after sweep before : Sweep}
    {outcomes outcomes' : List (String × Except String (List Row))}
    (extends' : after.Extends sweep outcomes') (extend : sweep.Extends before outcomes) :
    after.Extends before (outcomes ++ outcomes') := by
  constructor
  · rw [extends'.rows, extend.rows, List.flatMap_append, List.append_assoc]
  · rw [extends'.warnings, extend.warnings, List.filterMap_append, List.append_assoc]
  · rw [extends'.attempted, extend.attempted, List.length_append, Nat.add_assoc]
  · rw [extends'.failed, extend.failed, List.countP_append, Nat.add_assoc]
  · rw [extends'.queried, extend.queried, List.map_append, List.append_assoc]

theorem Sweep.step_extends (sweep : Sweep) {dbRow : Row} {name : String}
    (user : userDatabase? dbRow = some name) :
    (sweep.step answers dbRow).Extends sweep
      (outcomes answers (2 + sweep.attempted) [name]) := by
  rw [outcomes_cons, Sweep.step, user]
  dsimp only
  cases answers (2 + sweep.attempted) (showRoutineLoadStmt name) with
  | error failure => constructor <;> simp [outcomes, readRows, warning?, readFailed]
  | ok jobRows => constructor <;> simp [outcomes, readRows, warning?, readFailed]

private theorem foldl_sweep (dbRows : List Row) (sweep : Sweep) :
    (dbRows.foldl (Sweep.step answers) sweep).Extends sweep
      (outcomes answers (2 + sweep.attempted) (dbRows.filterMap userDatabase?)) := by
  induction dbRows generalizing sweep with
  | nil => constructor <;> simp [outcomes]
  | cons dbRow dbRows induction =>
      have rest := induction (sweep.step answers dbRow)
      rw [List.foldl_cons]
      cases user : userDatabase? dbRow with
      | none =>
          have skipped : sweep.step answers dbRow = sweep := by rw [Sweep.step, user]
          rw [List.filterMap_cons_none user]
          rw [skipped] at rest ⊢
          exact rest
      | some name =>
          have own := sweep.step_extends answers user
          rw [own.attempted, length_outcomes, List.length_singleton, ← Nat.add_assoc] at rest
          rw [List.filterMap_cons_some user]
          have all := rest.trans own
          rw [outcomes_cons] at all ⊢
          exact all

/-! ## What is returned -/

private theorem length_warnings (outcomes : List (String × Except String (List Row))) :
    (outcomes.filterMap warning?).length = outcomes.countP readFailed := by
  induction outcomes with
  | nil => rfl
  | cons outcome outcomes induction =>
      rw [List.countP_cons, ← induction, readFailed]
      cases failed : warning? outcome with
      | none => rw [List.filterMap_cons_none failed]; rfl
      | some warning => rw [List.filterMap_cons_some failed]; rfl

/-- Nothing could be read, though there was something to read. -/
def AllFailed (outcomes : List (String × Except String (List Row))) : Prop :=
  outcomes ≠ [] ∧ ∀ outcome ∈ outcomes, readFailed outcome

structure Swept (outcomes : List (String × Except String (List Row)))
    (result : Except String RoutineLoadRows) : Prop where
  error : (∃ failure, result = .error failure) ↔ AllFailed outcomes
  rows : ∀ loads, result = .ok loads → loads.rows = outcomes.flatMap readRows
  source : ∀ loads, result = .ok loads → loads.source = routineLoadSourceShow
  warnings : ∀ loads, result = .ok loads → loads.warnings = outcomes.filterMap warning?
  oneEach : ∀ loads, result = .ok loads → loads.warnings.length = outcomes.countP readFailed

theorem Sweep.Extends.allFailed_iff {sweep : Sweep}
    {outcomes : List (String × Except String (List Row))} (extends' : sweep.Extends {} outcomes) :
    (0 < sweep.attempted && sweep.failed = sweep.attempted) = true ↔ AllFailed outcomes := by
  rw [extends'.attempted, extends'.failed, AllFailed, ← List.countP_eq_length,
    ← List.length_pos_iff_ne_nil]
  simp

omit [UnicodeTables] in
private theorem map_outcomes (start : Nat) (names : List String) :
    (outcomes answers start names).map (fun outcome => showRoutineLoadStmt outcome.1) =
      names.map showRoutineLoadStmt := by
  induction names generalizing start with
  | nil => rfl
  | cons name names induction => rw [outcomes_cons, List.map_cons, induction, List.map_cons]

theorem jobsViaShow_swept {dbRows : List Row}
    (databases : answers 1 showDatabasesStmt = .ok dbRows) :
    (jobsViaShow answers).2 =
        showDatabasesStmt :: (dbRows.filterMap userDatabase?).map showRoutineLoadStmt ∧
      Swept (outcomes answers 2 (dbRows.filterMap userDatabase?)) (jobsViaShow answers).1 := by
  have sweep : (dbRows.foldl (Sweep.step answers) {}).Extends {}
      (outcomes answers 2 (dbRows.filterMap userDatabase?)) := foldl_sweep answers dbRows {}
  have failed := sweep.allFailed_iff
  rw [jobsViaShow, databases]
  dsimp only
  constructor
  · rw [sweep.queried, map_outcomes]
    rfl
  · split
    case isTrue all =>
        constructor
        · exact ⟨fun _ => failed.mp all, fun _ => ⟨_, rfl⟩⟩
        all_goals exact nofun
    case isFalse answered =>
        have warnings := sweep.warnings
        constructor
        · exact ⟨nofun, fun all => absurd (failed.mpr all) answered⟩
        all_goals
          intro loads read
          rw [← Except.ok.inj read]
        · exact sweep.rows
        · exact warnings
        · rw [← length_warnings]
          exact congrArg List.length warnings

structure JobsRead (ended : Bool) : Prop where
  infoSchema : ∀ rows, answers 0 infoSchemaRoutineLoadStmt = .ok rows →
    jobs answers ended =
      (.ok { rows, source := routineLoadSourceInfoSchema, warnings := [] },
        [infoSchemaRoutineLoadStmt])
  abandoned : ∀ failure, answers 0 infoSchemaRoutineLoadStmt = .error failure → ended →
    jobs answers ended = (.error failure, [infoSchemaRoutineLoadStmt])
  databases : ∀ failure cause, answers 0 infoSchemaRoutineLoadStmt = .error failure → ¬ended →
    answers 1 showDatabasesStmt = .error cause →
      (∃ failure, (jobs answers ended).1 = .error failure) ∧
        (jobs answers ended).2 = [infoSchemaRoutineLoadStmt, showDatabasesStmt]
  sweep : ∀ failure dbRows, answers 0 infoSchemaRoutineLoadStmt = .error failure → ¬ended →
    answers 1 showDatabasesStmt = .ok dbRows →
      (jobs answers ended).2 = infoSchemaRoutineLoadStmt :: showDatabasesStmt ::
          (dbRows.filterMap userDatabase?).map showRoutineLoadStmt ∧
        Swept (outcomes answers 2 (dbRows.filterMap userDatabase?)) (jobs answers ended).1

theorem Swept.mapError {outcomes : List (String × Except String (List Row))}
    {result : Except String RoutineLoadRows} (swept : Swept outcomes result)
    (wrap : String → String) : Swept outcomes (result.mapError wrap) := by
  cases result with
  | error failure =>
      constructor
      · exact ⟨fun _ => swept.error.mp ⟨failure, rfl⟩, fun _ => ⟨wrap failure, rfl⟩⟩
      all_goals exact nofun
  | ok loads =>
      constructor
      · exact ⟨nofun, fun all => absurd (swept.error.mpr all) nofun⟩
      · exact swept.rows
      · exact swept.source
      · exact swept.warnings
      · exact swept.oneEach

theorem jobs_read (ended : Bool) : JobsRead answers ended := by
  constructor
  · intro rows answered
    rw [jobs, answered]
  · intro failure answered returned
    rw [jobs, answered]
    simp [returned]
  · intro failure cause answered running unlisted
    rw [jobs, answered]
    simp only [running, jobsViaShow, unlisted]
    exact ⟨⟨_, rfl⟩, rfl⟩
  · intro failure dbRows answered running databases
    have swept := jobsViaShow_swept answers databases
    rw [jobs, answered]
    simp only [running]
    constructor
    · exact congrArg _ swept.1
    · exact swept.2.mapError _

end Sweep

end StarLens.Service
