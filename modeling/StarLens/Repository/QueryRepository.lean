import Mathlib.Data.String.Basic

/-! # Worksheet statements on pooled connections

`QueryRepository.Execute` as the steps it takes on its connection. The server's
answer to each statement comes from outside. -/

namespace StarLens.Repository

def quoteIdentifier (name : String) : String :=
  String.ofList ('\x60' ::
    (name.toList.flatMap fun char => if char = '\x60' then ['\x60', '\x60'] else [char]) ++
    ['\x60'])

def useStatement (database : String) : String := "USE " ++ quoteIdentifier database

/-- How a statement ends: executed, refused by the server, or lost together
with the connection, which the driver then reports as bad. -/
inductive Reply
  | executed
  | refused
  | lost
deriving DecidableEq

inductive Stage
  | use
  | query
  | restore
  | close
deriving DecidableEq

/-- An `Execute` call between two of its steps, with the database selected on
its connection. A connection that is not usable is discarded when it is
closed. -/
structure Execution where
  statement : String
  database : String
  selected : String
  usable : Bool
  stage : Stage

def isScoped (defaultDatabase database : String) : Bool :=
  database != "" && database != defaultDatabase

def Execution.start (defaultDatabase statement database selected : String) : Execution where
  statement
  database
  selected
  usable := true
  stage := if isScoped defaultDatabase database then .use else .query

def Execution.poison (execution : Execution) : Execution := { execution with usable := false }

section Steps

variable (selects : String → Option String)

/-- Send a statement: one that is executed selects what `selects` says of it,
and a lost one takes the connection with it. -/
def Execution.send (execution : Execution) (statement : String) : Reply → Execution
  | .executed =>
      { execution with selected := (selects statement).getD execution.selected }
  | .refused => execution
  | .lost => execution.poison

/-- The next step of a call. A database that could not be selected ends the
call at once; otherwise the default database is selected again, and where that
is not possible the connection is poisoned. -/
def Execution.step (defaultDatabase : String) (execution : Execution) (reply : Reply) :
    Option Execution :=
  match execution.stage with
  | .use =>
      some { execution.send selects (useStatement execution.database) reply with
        stage := if reply = .executed then .query else .close }
  | .query =>
      some { execution.send selects execution.statement reply with
        stage := if isScoped defaultDatabase execution.database then .restore else .close }
  | .restore =>
      if defaultDatabase = "" then some { execution.poison with stage := .close }
      else
        match reply with
        | .executed =>
            some { execution.send selects (useStatement defaultDatabase) reply with
              stage := .close }
        | _ => some { execution.poison with stage := .close }
  | .close => none

end Steps

def requested (defaultDatabase database : String) : String :=
  if database = "" then defaultDatabase else database

private theorem requested_of_not_scoped {defaultDatabase database : String}
    (unscoped : isScoped defaultDatabase database = false) :
    requested defaultDatabase database = defaultDatabase := by
  by_cases empty : database = ""
  · simp [requested, empty]
  · have same : database = defaultDatabase := by simpa [isScoped, empty] using unscoped
    simp [requested, same]

private theorem requested_of_scoped {defaultDatabase database : String}
    (chosen : isScoped defaultDatabase database) :
    requested defaultDatabase database = database := by
  have nonempty : database ≠ "" := by
    intro same
    subst same
    simp [isScoped] at chosen
  simp [requested, nonempty]

/-- A call without a database of its own does not select another one. -/
def KeepsDatabase (selects : String → Option String)
    (defaultDatabase statement database : String) : Prop :=
  isScoped defaultDatabase database = false →
    ∀ selected, selects statement = some selected → selected = defaultDatabase

def Execution.Sound (selects : String → Option String) (defaultDatabase : String)
    (execution : Execution) : Prop :=
  KeepsDatabase selects defaultDatabase execution.statement execution.database ∧
    match execution.stage with
    | .use =>
        isScoped defaultDatabase execution.database ∧ execution.selected = defaultDatabase
    | .query => execution.selected = requested defaultDatabase execution.database
    | .restore => True
    | .close => execution.usable → execution.selected = defaultDatabase

section Sound

variable {selects : String → Option String} {defaultDatabase : String}

theorem Execution.Sound.query {execution : Execution}
    (sound : execution.Sound selects defaultDatabase) (stage : execution.stage = .query) :
    execution.selected = requested defaultDatabase execution.database := by
  have state := sound.2
  rw [stage] at state
  exact state

theorem Execution.Sound.close {execution : Execution}
    (sound : execution.Sound selects defaultDatabase) (stage : execution.stage = .close)
    (usable : execution.usable) : execution.selected = defaultDatabase := by
  have state := sound.2
  rw [stage] at state
  exact state usable

theorem Execution.start_sound {statement database : String}
    (keeps : KeepsDatabase selects defaultDatabase statement database) :
    (Execution.start defaultDatabase statement database defaultDatabase).Sound selects
      defaultDatabase := by
  refine ⟨keeps, ?_⟩
  cases chosen : isScoped defaultDatabase database with
  | true => simp [start, chosen]
  | false => simp [start, chosen, requested_of_not_scoped chosen]

theorem KeepsDatabase.getD {statement database : String}
    (keeps : KeepsDatabase selects defaultDatabase statement database)
    (unscoped : isScoped defaultDatabase database = false) :
    (selects statement).getD defaultDatabase = defaultDatabase := by
  cases found : selects statement with
  | none => rfl
  | some selected => exact keeps unscoped selected found

/-- Each step keeps a call sound: `USE` selects the call's database, and the
connection is closed with the default database selected, or discarded. -/
theorem Execution.Sound.step (use : ∀ database, selects (useStatement database) = some database)
    {execution next : Execution} (sound : execution.Sound selects defaultDatabase)
    {reply : Reply} (stepped : execution.step selects defaultDatabase reply = some next) :
    next.Sound selects defaultDatabase := by
  rcases execution with ⟨statement, database, selected, usable, stage⟩
  rcases sound with ⟨keeps, state⟩
  cases stage with
  | use =>
      rcases state with ⟨chosen, rfl⟩
      simp only [Execution.step, Option.some.injEq] at stepped
      subst stepped
      cases reply with
      | executed =>
          refine ⟨keeps, ?_⟩
          simp [send, use, requested_of_scoped chosen]
      | refused => exact ⟨keeps, fun _ => rfl⟩
      | lost => exact ⟨keeps, nofun⟩
  | query =>
      simp only [Execution.step, Option.some.injEq] at stepped
      subst stepped
      simp only at state
      cases chosen : isScoped defaultDatabase database with
      | true => exact ⟨by cases reply <;> exact keeps, by simp⟩
      | false =>
          rw [requested_of_not_scoped chosen] at state
          subst state
          cases reply with
          | executed => exact ⟨keeps, fun _ => keeps.getD chosen⟩
          | refused => exact ⟨keeps, fun _ => rfl⟩
          | lost => exact ⟨keeps, nofun⟩
  | restore =>
      simp only [Execution.step] at stepped
      split at stepped
      · rw [← Option.some.inj stepped]
        exact ⟨keeps, nofun⟩
      · cases reply with
        | executed =>
            rw [← Option.some.inj stepped]
            refine ⟨keeps, fun _ => ?_⟩
            simp [send, use]
        | refused =>
            rw [← Option.some.inj stepped]
            exact ⟨keeps, nofun⟩
        | lost =>
            rw [← Option.some.inj stepped]
            exact ⟨keeps, nofun⟩
  | close => simp [Execution.step] at stepped

end Sound

end StarLens.Repository
