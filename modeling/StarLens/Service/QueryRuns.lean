import StarLens.Foundation.Execution
import StarLens.Repository.QueryRepository
import StarLens.Service.Query

/-! # Runs of the worksheet over the connection pool

Requests run concurrently, each on a connection of its own, which the pool had
idle or opens anew. -/

namespace StarLens.Service

open Foundation Go Repository

/-- A connection is known by the database selected on it. -/
structure PoolState where
  idle : List String
  running : Nat → Option Execution

inductive PoolInput
  /-- Start a request on the idle connection at an index, or on a new one. -/
  | request (id : Nat) (request : QueryRequest) (connection : Option Nat)
  | reply (id : Nat) (reply : Reply)
  /-- Close a call's connection. -/
  | close (id : Nat)
  /-- The pool drops an idle connection. -/
  | drop (connection : Nat)

inductive PoolEvent
  | silent
  | rejected (failure : QueryError)
  /-- A request's statement was sent while `selected` was selected. -/
  | sent (statement database selected : String)
  /-- A connection went back to the pool. -/
  | returned (selected : String)
  | discarded
deriving DecidableEq

section Machine

variable [UnicodeTables] (selects : String → Option String) (defaultDatabase : String)
variable (policy : QueryPolicy)

/-- The connection a request gets, and the connections that stay idle. A new
one has the DSN's database selected. -/
def acquire (idle : List String) : Option Nat → Option (String × List String)
  | none => some (defaultDatabase, idle)
  | some connection => idle[connection]?.map fun selected => (selected, idle.eraseIdx connection)

def poolStep (state : PoolState) : PoolInput → Option (StepResult PoolState PoolEvent)
  | .request id request connection =>
      match handed policy request with
      | .error failure => some { nextState := state, observation := .rejected failure }
      | .ok call =>
          match state.running id, acquire defaultDatabase state.idle connection with
          | none, some (selected, idle) =>
              some {
                nextState := {
                  idle
                  running := Function.update state.running id
                    (some (.start defaultDatabase call.statement call.database selected)) }
                observation := .silent }
          | _, _ => none
  | .reply id reply =>
      match state.running id with
      | none => none
      | some execution =>
          match execution.step selects defaultDatabase reply with
          | none => none
          | some next =>
              some {
                nextState := { state with
                  running := Function.update state.running id (some next) }
                observation :=
                  if execution.stage = .query then
                    .sent execution.statement execution.database execution.selected
                  else .silent }
  | .close id =>
      match state.running id with
      | none => none
      | some execution =>
          if execution.stage = .close then
            let running := Function.update state.running id none
            if execution.usable then
              some {
                nextState := { idle := execution.selected :: state.idle, running }
                observation := .returned execution.selected }
            else some { nextState := { state with running }, observation := .discarded }
          else none
  | .drop connection =>
      some {
        nextState := { state with idle := state.idle.eraseIdx connection }
        observation := .silent }

def poolMachine : Machine PoolState PoolInput PoolEvent where
  step := poolStep selects defaultDatabase policy

def poolStart : PoolState where
  idle := []
  running _ := none

/-- No request that leaves the database to the default carries a statement that
selects another one. -/
def RequestsKeepDatabase : PoolInput → Prop
  | .request _ request _ =>
      ∀ call, handed policy request = .ok call →
        KeepsDatabase selects defaultDatabase call.statement call.database
  | _ => True

def PoolEvent.Clean : PoolEvent → Prop
  | .sent _ database selected => selected = requested defaultDatabase database
  | .returned selected => selected = defaultDatabase
  | _ => True

structure CleanPool (events : List PoolEvent) (state : PoolState) : Prop where
  idle : ∀ selected ∈ state.idle, selected = defaultDatabase
  running : ∀ id execution, state.running id = some execution →
    execution.Sound selects defaultDatabase
  events : ∀ event ∈ events, event.Clean defaultDatabase

end Machine

section Runs

variable [UnicodeTables] {selects : String → Option String} {defaultDatabase : String}
variable {policy : QueryPolicy}

omit [UnicodeTables] in
private theorem acquire_clean {idle rest : List String} {connection : Option Nat}
    {selected : String} (clean : ∀ selected ∈ idle, selected = defaultDatabase)
    (acquired : acquire defaultDatabase idle connection = some (selected, rest)) :
    selected = defaultDatabase ∧ ∀ selected ∈ rest, selected = defaultDatabase := by
  cases connection with
  | none =>
      simp only [acquire, Option.some.injEq, Prod.mk.injEq] at acquired
      rcases acquired with ⟨rfl, rfl⟩
      exact ⟨rfl, clean⟩
  | some connection =>
      rcases Option.map_eq_some_iff.mp acquired with ⟨found, there, equal⟩
      rcases Prod.mk.inj equal with ⟨rfl, rfl⟩
      exact ⟨clean _ (List.mem_of_getElem? there),
        fun other member => clean other (List.mem_of_mem_eraseIdx member)⟩

omit [UnicodeTables] in
theorem forall_update (new : Option Execution) {running : Nat → Option Execution}
    {property : Execution → Prop}
    (every : ∀ id execution, running id = some execution → property execution) (id : Nat)
    (holds : ∀ execution, new = some execution → property execution) :
    ∀ other execution, Function.update running id new other = some execution →
      property execution := by
  intro other execution found
  by_cases same : other = id
  · subst same
    rw [Function.update_self] at found
    exact holds execution found
  · rw [Function.update_of_ne same] at found
    exact every other execution found

theorem CleanPool.step (use : ∀ database, selects (useStatement database) = some database)
    {events : List PoolEvent} {state : PoolState}
    (clean : CleanPool selects defaultDatabase events state) {input : PoolInput}
    (keeps : RequestsKeepDatabase selects defaultDatabase policy input)
    {result : StepResult PoolState PoolEvent}
    (step : poolStep selects defaultDatabase policy state input = some result) :
    CleanPool selects defaultDatabase (events ++ [result.observation]) result.nextState := by
  have observed (cleanEvent : result.observation.Clean defaultDatabase) :
      ∀ event ∈ events ++ [result.observation], event.Clean defaultDatabase := by
    rw [List.forall_mem_append, List.forall_mem_singleton]
    exact ⟨clean.events, cleanEvent⟩
  unfold poolStep at step
  cases input with
  | request id request connection =>
      dsimp only at step
      split at step
      case h_1 failure rejected =>
          rw [← Option.some.inj step] at observed ⊢
          exact ⟨clean.idle, clean.running, observed trivial⟩
      case h_2 call forwarded =>
          split at step
          case h_1 selected idle free acquired =>
              rw [← Option.some.inj step] at observed ⊢
              rcases acquire_clean clean.idle acquired with ⟨rfl, rest⟩
              refine ⟨rest, forall_update _ clean.running id ?_, observed trivial⟩
              intro _ same
              cases same
              exact Execution.start_sound (keeps call forwarded)
          case h_2 => simp at step
  | reply id reply =>
      dsimp only at step
      split at step
      case h_1 => simp at step
      case h_2 execution current =>
          have sound := clean.running id execution current
          split at step
          case h_1 => simp at step
          case h_2 next stepped =>
              rw [← Option.some.inj step] at observed ⊢
              refine ⟨clean.idle, forall_update _ clean.running id ?_, observed ?_⟩
              · intro _ same
                cases same
                exact sound.step use stepped
              · by_cases sends : execution.stage = .query
                · rw [if_pos sends]
                  exact sound.query sends
                · rw [if_neg sends]
                  trivial
  | close id =>
      dsimp only at step
      split at step
      case h_1 => simp at step
      case h_2 execution current =>
          split at step
          case isFalse => simp at step
          case isTrue closing =>
              have gone := forall_update none clean.running id nofun
              split at step
              case isTrue usable =>
                  have restored := (clean.running id execution current).close closing usable
                  rw [← Option.some.inj step] at observed ⊢
                  exact ⟨List.forall_mem_cons.mpr ⟨restored, clean.idle⟩, gone, observed restored⟩
              case isFalse =>
                  rw [← Option.some.inj step] at observed ⊢
                  exact ⟨clean.idle, gone, observed trivial⟩
  | drop connection =>
      dsimp only at step
      rw [← Option.some.inj step] at observed ⊢
      exact ⟨fun selected member => clean.idle selected (List.mem_of_mem_eraseIdx member),
        clean.running, observed trivial⟩

/-- While no request that leaves the database to the default carries a `USE` of
another one, every connection in the pool has the default database selected,
and every statement is sent with the database of its request selected. -/
theorem connections_return_clean (selects : String → Option String) (defaultDatabase : String)
    (policy : QueryPolicy)
    (use : ∀ database, selects (useStatement database) = some database)
    {inputs : List PoolInput} {events : List PoolEvent} {state : PoolState}
    (runs : (poolMachine selects defaultDatabase policy).RunsWithin
      (fun _ input => RequestsKeepDatabase selects defaultDatabase policy input)
      poolStart inputs events state) :
    (∀ selected ∈ state.idle, selected = defaultDatabase) ∧
      ∀ event ∈ events, match event with
        | .sent _ database selected => selected = requested defaultDatabase database
        | .returned selected => selected = defaultDatabase
        | _ => True := by
  have clean : CleanPool selects defaultDatabase events state := by
    apply runs.history_invariant (CleanPool selects defaultDatabase) ⟨nofun, nofun, nofun⟩
    intro events state input result clean keeps step
    exact clean.step use keeps step
  exact ⟨clean.idle, clean.events⟩

end Runs

/-! ## A server -/

def unquote : List Char → Option (List Char)
  | '\x60' :: '\x60' :: text => (unquote text).map fun name => '\x60' :: name
  | ['\x60'] => some []
  | '\x60' :: _ => none
  | [] => none
  | char :: text => (unquote text).map fun name => char :: name

def sampleSelects (statement : String) : Option String :=
  if "use ".toList.isPrefixOf (statement.toList.map Char.toLower) then
    match statement.toList.drop 4 with
    | '\x60' :: text => (unquote text).map String.ofList
    | name => if !name.isEmpty && name.all Char.isAlphanum then some (String.ofList name) else none
  else none

private theorem unquote_quoted (name : List Char) :
    unquote ((name.flatMap fun char => if char = '\x60' then ['\x60', '\x60'] else [char]) ++
      ['\x60']) = some name := by
  induction name with
  | nil => rfl
  | cons char name induction =>
      by_cases quote : char = '\x60'
      · subst quote
        simp [unquote, induction]
      · rw [List.flatMap_cons, if_neg quote, List.append_assoc, List.singleton_append, unquote,
          induction]
        · rfl
        · intro text same
          subst same
          exact absurd rfl quote
        · intro same
          subst same
          exact absurd rfl quote
        · intro same
          subst same
          exact absurd rfl quote

private theorem sampleSelects_use (database : String) :
    sampleSelects (useStatement database) = some database := by
  simp [sampleSelects, useStatement, quoteIdentifier, unquote_quoted]

/-- A request that selects a database of its own gives its connection back with
the default one. -/
theorem connections_return_clean_scoped :
    ∃ (_ : UnicodeTables) (events : List PoolEvent) (state : PoolState),
      events = [.silent, .silent, .sent "DESC orders" "shop" "shop", .silent,
        .returned "information_schema"] ∧
      ∀ selected ∈ state.idle, selected = "information_schema" := by
  let tables := UnicodeTables.latin
  have runs : ∃ events state,
      (poolMachine sampleSelects "information_schema"
        { readOnly := false, maxRows := 1000, timeout := 0 }).Runs poolStart
        [.request 0 { sql := "DESC orders", database := "shop", maxRows := 0 } none,
          .reply 0 .executed, .reply 0 .executed, .reply 0 .executed, .close 0] events state ∧
      events = [.silent, .silent, .sent "DESC orders" "shop" "shop", .silent,
        .returned "information_schema"] :=
    ⟨_, _, (Machine.runs_iff_run _).mpr rfl, by decide⟩
  rcases runs with ⟨events, state, runs, seen⟩
  refine ⟨tables, events, state, seen, (connections_return_clean sampleSelects
    "information_schema" { readOnly := false, maxRows := 1000, timeout := 0 }
    sampleSelects_use (.of_runs runs fun _ input member => ?_)).1⟩
  simp only [List.mem_cons, List.not_mem_nil, or_false] at member
  rcases member with rfl | rfl | rfl | rfl | rfl
  · intro call forwarded unscoped
    have database : call.database = "shop" := by
      rw [← Except.ok.inj forwarded]
    rw [database] at unscoped
    exact absurd unscoped (by decide)
  all_goals trivial

/-- With QUERY_READ_ONLY=false the worksheet takes a `USE` without a database of
its own, and the connection goes back to the pool with that one selected. -/
theorem connections_dirty_after_use :
    ∃ (_ : UnicodeTables), ¬∀ (selects : String → Option String) (defaultDatabase : String)
      (policy : QueryPolicy), (∀ database, selects (useStatement database) = some database) →
      ∀ inputs events state,
        (poolMachine selects defaultDatabase policy).Runs poolStart inputs events state →
        ∀ selected ∈ state.idle, selected = defaultDatabase := by
  let tables := UnicodeTables.latin
  refine ⟨tables, fun clean => ?_⟩
  have runs : ∃ events state,
      (poolMachine sampleSelects "information_schema"
        { readOnly := false, maxRows := 1000, timeout := 0 }).Runs poolStart
        [.request 0 { sql := "USE mysql", database := "", maxRows := 0 } none,
          .reply 0 .executed, .close 0] events state ∧
      state.idle = ["mysql"] :=
    ⟨_, _, (Machine.runs_iff_run _).mpr rfl, rfl⟩
  rcases runs with ⟨events, state, runs, idle⟩
  have same := clean sampleSelects "information_schema" _ sampleSelects_use _ events state runs
    "mysql" (by simp [idle])
  exact absurd same (by decide)

end StarLens.Service
