import Mathlib.Data.List.Forall2
import Mathlib.Logic.Function.Basic

/-! # Programs over fallible files

A program is a tree of file operations. Each operation may succeed, report a
failure, or be the one during which the process stops. `remove` and `rename`
are atomic and leave nothing behind when they fail; a `write` that does not
succeed may leave any content. -/

namespace StarLens.Foundation

inductive Operation (Path Data : Type)
  | read (path : Path)
  | remove (path : Path)
  | mkdirAll (path : Path)
  | write (path : Path) (data : Data)
  | rename (source target : Path)

inductive Reply (Data Failure : Type)
  | done
  | missing
  | contents (data : Data)
  | failed (failure : Failure)

/-- How the environment lets one operation end. `landed` says whether an
atomic operation had taken effect when the process stopped; `leftover` is what
an unfinished write leaves in its file. -/
inductive Outcome (Data Failure : Type)
  | succeed
  | fail (failure : Failure) (leftover : Option Data)
  | stop (landed : Bool) (leftover : Option Data)

abbrev Store (Path Data : Type) := Path → Option Data

namespace Operation

variable {Path Data Failure : Type} [DecidableEq Path]

def effect (Failure : Type) :
    Operation Path Data → Store Path Data → Store Path Data × Reply Data Failure
  | read path, store =>
      match store path with
      | some data => (store, .contents data)
      | none => (store, .missing)
  | remove path, store =>
      match store path with
      | some _ => (Function.update store path none, .done)
      | none => (store, .missing)
  | mkdirAll _, store => (store, .done)
  | write path data, store => (Function.update store path (some data), .done)
  | rename source target, store =>
      match store source with
      | some data =>
          (Function.update (Function.update store source none) target (some data), .done)
      | none => (store, .missing)

def torn : Operation Path Data → Option Data → Store Path Data → Store Path Data
  | write path _, leftover, store => Function.update store path leftover
  | _, _, store => store

/-- No reply means that the process stopped. -/
def apply (operation : Operation Path Data) :
    Outcome Data Failure → Store Path Data → Store Path Data × Option (Reply Data Failure)
  | .succeed, store =>
      ((operation.effect Failure store).1, some (operation.effect Failure store).2)
  | .fail failure leftover, store => (operation.torn leftover store, some (.failed failure))
  | .stop landed leftover, store =>
      (if landed then (operation.effect Failure store).1
        else operation.torn leftover store, none)

end Operation

inductive FileProgram (Path Data Failure Result : Type)
  | finish (result : Result)
  | perform (operation : Operation Path Data)
      (next : Reply Data Failure → FileProgram Path Data Failure Result)

namespace FileProgram

variable {Path Data Failure Result Other : Type}

def bind (next : Result → FileProgram Path Data Failure Other) :
    FileProgram Path Data Failure Result → FileProgram Path Data Failure Other
  | finish result => next result
  | perform operation rest => perform operation fun reply => (rest reply).bind next

variable [DecidableEq Path]

/-- Execute a program while the environment decides each operation in turn.
Running out of decisions means that the process stopped between two
operations. -/
def exec : FileProgram Path Data Failure Result → List (Outcome Data Failure) →
    Store Path Data → Store Path Data × Option Result
  | finish result, _, store => (store, some result)
  | perform _ _, [], store => (store, none)
  | perform operation next, outcome :: outcomes, store =>
      match operation.apply outcome store with
      | (after, some reply) => (next reply).exec outcomes after
      | (after, none) => (after, none)

theorem exec_nil (program : FileProgram Path Data Failure Result) (store : Store Path Data) :
    (program.exec [] store).1 = store := by
  cases program <;> rfl

theorem exec_bind_finish {next : Result → FileProgram Path Data Failure Other}
    (result : Result → Other) (ends : ∀ value, next value = finish (result value))
    (program : FileProgram Path Data Failure Result) (outcomes : List (Outcome Data Failure))
    (store : Store Path Data) :
    (program.bind next).exec outcomes store =
      ((program.exec outcomes store).1, (program.exec outcomes store).2.map result) := by
  induction program generalizing outcomes store with
  | finish value => simp [bind, ends, exec]
  | perform operation rest induction =>
      cases outcomes with
      | nil => rfl
      | cons outcome outcomes =>
          cases applied : operation.apply outcome store with
          | mk after reply =>
              cases reply with
              | none => simp [bind, exec, applied]
              | some reply => simp [bind, exec, applied, induction]

/-- From `store`, whatever the environment decides: the program only returns
in states that satisfy `returned`, and the process only stops in states that
satisfy `stopped`. -/
def Meets (program : FileProgram Path Data Failure Result) (store : Store Path Data)
    (stopped : Store Path Data → Prop) (returned : Result → Store Path Data → Prop) : Prop :=
  ∀ outcomes,
    match program.exec outcomes store with
    | (final, some result) => returned result final
    | (final, none) => stopped final

section Rules

variable {store : Store Path Data} {stopped : Store Path Data → Prop}
variable {returned : Result → Store Path Data → Prop}

@[simp] theorem meets_finish (result : Result) :
    Meets (finish result : FileProgram Path Data Failure Result) store stopped returned ↔
      returned result store := by
  simp [Meets, exec]

theorem meets_perform (operation : Operation Path Data)
    (next : Reply Data Failure → FileProgram Path Data Failure Result) :
    Meets (perform operation next) store stopped returned ↔
      stopped store ∧ ∀ outcome,
        match operation.apply outcome store with
        | (after, some reply) => Meets (next reply) after stopped returned
        | (after, none) => stopped after := by
  constructor
  · intro meets
    refine ⟨meets [], fun outcome => ?_⟩
    cases applied : operation.apply outcome store with
    | mk after reply =>
        cases reply with
        | none => simpa [exec, applied] using meets [outcome]
        | some reply =>
            intro outcomes
            simpa [exec, applied] using meets (outcome :: outcomes)
  · intro holds outcomes
    rcases holds with ⟨before, during⟩
    cases outcomes with
    | nil => exact before
    | cons outcome outcomes =>
        have one := during outcome
        cases applied : operation.apply outcome store with
        | mk after reply =>
            cases reply with
            | none => simpa [exec, applied] using one
            | some reply =>
                simp only [applied] at one
                simpa [exec, applied] using one outcomes

/-- A program that has been started keeps its promise through each of its
steps. -/
theorem Meets.resume {operation : Operation Path Data}
    {next : Reply Data Failure → FileProgram Path Data Failure Result}
    (meets : Meets (perform operation next) store stopped returned)
    {outcome : Outcome Data Failure} {after : Store Path Data} {reply : Reply Data Failure}
    (applied : operation.apply outcome store = (after, some reply)) :
    Meets (next reply) after stopped returned := by
  have step := ((meets_perform operation next).mp meets).2 outcome
  simpa only [applied] using step

theorem Meets.weaken {stopped' : Store Path Data → Prop}
    {returned' : Result → Store Path Data → Prop}
    {program : FileProgram Path Data Failure Result}
    (meets : Meets program store stopped returned)
    (weakerStop : ∀ final, stopped final → stopped' final)
    (weakerReturn : ∀ result final, returned result final → returned' result final) :
    Meets program store stopped' returned' := by
  intro outcomes
  have strong := meets outcomes
  cases executed : program.exec outcomes store with
  | mk final result =>
      cases result with
      | none =>
          simp only [executed] at strong
          exact weakerStop _ strong
      | some result =>
          simp only [executed] at strong
          exact weakerReturn _ _ strong

theorem meets_bind {program : FileProgram Path Data Failure Result}
    {next : Result → FileProgram Path Data Failure Other}
    {returned : Other → Store Path Data → Prop} :
    Meets (program.bind next) store stopped returned ↔
      Meets program store stopped fun result middle =>
        Meets (next result) middle stopped returned := by
  induction program generalizing store with
  | finish result => simp [bind]
  | perform operation rest induction =>
      rw [bind, meets_perform, meets_perform]
      apply and_congr_right
      intro _
      apply forall_congr'
      intro outcome
      cases applied : operation.apply outcome store with
      | mk after reply =>
          cases reply with
          | none => rfl
          | some reply => exact induction reply

theorem meets_atomic {operation : Operation Path Data}
    (intact : ∀ leftover, operation.torn leftover store = store)
    (next : Reply Data Failure → FileProgram Path Data Failure Result) :
    Meets (perform operation next) store stopped returned ↔
      stopped store ∧ stopped (operation.effect Failure store).1 ∧
        Meets (next (operation.effect Failure store).2)
          (operation.effect Failure store).1 stopped returned ∧
        ∀ failure, Meets (next (.failed failure)) store stopped returned := by
  rw [meets_perform]
  constructor
  · intro holds
    rcases holds with ⟨before, during⟩
    refine ⟨before, during (.stop true none), during .succeed, fun failure => ?_⟩
    simpa only [Operation.apply, intact] using during (.fail failure none)
  · intro holds
    rcases holds with ⟨before, after, done, failed⟩
    refine ⟨before, fun outcome => ?_⟩
    cases outcome with
    | succeed => exact done
    | fail failure leftover => simpa only [Operation.apply, intact] using failed failure
    | stop landed leftover =>
        cases landed with
        | false => simpa [Operation.apply, intact] using before
        | true => exact after

theorem meets_write (path : Path) (data : Data)
    (next : Reply Data Failure → FileProgram Path Data Failure Result) :
    Meets (perform (.write path data) next) store stopped returned ↔
      stopped store ∧
        (∀ leftover, stopped (Function.update store path leftover)) ∧
        Meets (next .done) (Function.update store path (some data)) stopped returned ∧
        ∀ failure leftover,
          Meets (next (.failed failure)) (Function.update store path leftover) stopped
            returned := by
  rw [meets_perform]
  constructor
  · intro holds
    rcases holds with ⟨before, during⟩
    exact ⟨before, fun leftover => during (.stop false leftover), during .succeed,
      fun failure leftover => during (.fail failure leftover)⟩
  · intro holds
    rcases holds with ⟨before, inside, done, failed⟩
    refine ⟨before, fun outcome => ?_⟩
    cases outcome with
    | succeed => exact done
    | fail failure leftover => exact failed failure leftover
    | stop landed leftover =>
        cases landed with
        | false => exact inside leftover
        | true => exact inside (some data)

end Rules

/-! ## Two runs

Programs that perform the same operations, but for the data they write, return
the same on files that hold something at the same paths. -/

section Alike

def SamePaths (files files' : Store Path Data) : Prop :=
  ∀ path, (files path).isSome = (files' path).isSome

theorem SamePaths.update {files files' : Store Path Data} (same : SamePaths files files')
    (path : Path) {content content' : Option Data} (alike : content.isSome = content'.isSome) :
    SamePaths (Function.update files path content) (Function.update files' path content') := by
  intro other
  by_cases here : other = path
  · subst here
    simpa using alike
  · simpa [here] using same other

/-- No program here reads a file. -/
inductive OperationAlike : Operation Path Data → Operation Path Data → Prop
  | remove (path) : OperationAlike (.remove path) (.remove path)
  | mkdirAll (path) : OperationAlike (.mkdirAll path) (.mkdirAll path)
  | write (path) (data data' : Data) : OperationAlike (.write path data) (.write path data')
  | rename (source target) : OperationAlike (.rename source target) (.rename source target)

inductive OutcomeAlike : Outcome Data Failure → Outcome Data Failure → Prop
  | succeed : OutcomeAlike .succeed .succeed
  | fail (failure) {leftover leftover'} : leftover.isSome = leftover'.isSome →
      OutcomeAlike (.fail failure leftover) (.fail failure leftover')
  | stop (landed) {leftover leftover'} : leftover.isSome = leftover'.isSome →
      OutcomeAlike (.stop landed leftover) (.stop landed leftover')

inductive Alike (results : Result → Result → Prop) :
    FileProgram Path Data Failure Result → FileProgram Path Data Failure Result → Prop
  | finish {result result'} : results result result' →
      Alike results (finish result) (finish result')
  | perform {operation operation' next next'} : OperationAlike operation operation' →
      (∀ reply, Alike results (next reply) (next' reply)) →
      Alike results (perform operation next) (perform operation' next')

omit [DecidableEq Path] in
theorem SamePaths.both {files files' : Store Path Data} (same : SamePaths files files')
    (path : Path) : files path = none ∧ files' path = none ∨
      ∃ data data', files path = some data ∧ files' path = some data' := by
  have alike := same path
  cases found : files path with
  | none => exact .inl ⟨rfl, by simpa [found] using alike⟩
  | some data =>
      cases found' : files' path with
      | none => simp [found, found'] at alike
      | some data' => exact .inr ⟨data, data', rfl, rfl⟩

theorem OperationAlike.effect (Failure : Type) {operation operation' : Operation Path Data}
    (alike : OperationAlike operation operation') {files files' : Store Path Data}
    (same : SamePaths files files') :
    ∃ after after' reply, operation.effect Failure files = (after, reply) ∧
      operation'.effect Failure files' = (after', reply) ∧ SamePaths after after' := by
  cases alike with
  | remove path =>
      rcases same.both path with ⟨gone, gone'⟩ | ⟨data, data', found, found'⟩
      · exact ⟨files, files', .missing, by simp [Operation.effect, gone],
          by simp [Operation.effect, gone'], same⟩
      · exact ⟨Function.update files path none, Function.update files' path none, .done,
          by simp [Operation.effect, found], by simp [Operation.effect, found'],
          same.update path rfl⟩
  | mkdirAll path => exact ⟨files, files', .done, rfl, rfl, same⟩
  | write path data data' => exact ⟨_, _, .done, rfl, rfl, same.update path rfl⟩
  | rename source target =>
      rcases same.both source with ⟨gone, gone'⟩ | ⟨data, data', found, found'⟩
      · exact ⟨files, files', .missing, by simp [Operation.effect, gone],
          by simp [Operation.effect, gone'], same⟩
      · exact ⟨Function.update (Function.update files source none) target (some data),
          Function.update (Function.update files' source none) target (some data'), .done,
          by simp [Operation.effect, found], by simp [Operation.effect, found'],
          (same.update source rfl).update target rfl⟩

theorem OperationAlike.torn {operation operation' : Operation Path Data}
    (alike : OperationAlike operation operation') {files files' : Store Path Data}
    (same : SamePaths files files') {leftover leftover' : Option Data}
    (left : leftover.isSome = leftover'.isSome) :
    SamePaths (operation.torn leftover files) (operation'.torn leftover' files') := by
  cases alike with
  | remove path | mkdirAll path | rename source target => exact same
  | write path data data' => exact same.update path left

theorem Alike.exec {results : Result → Result → Prop}
    {program program' : FileProgram Path Data Failure Result}
    (alike : Alike results program program')
    {files files' : Store Path Data} (same : SamePaths files files')
    {outcomes outcomes' : List (Outcome Data Failure)}
    (decisions : List.Forall₂ OutcomeAlike outcomes outcomes') :
    SamePaths (program.exec outcomes files).1 (program'.exec outcomes' files').1 ∧
      Option.Rel results (program.exec outcomes files).2 (program'.exec outcomes' files').2 := by
  induction alike generalizing files files' outcomes outcomes' with
  | finish related => exact ⟨same, .some related⟩
  | @perform operation operation' next next' operations _ induction =>
      cases decisions with
      | nil => exact ⟨same, .none⟩
      | @cons outcome outcome' outcomes outcomes' decision decisions =>
          rcases operations.effect Failure same with
            ⟨after, after', reply, effect, effect', sameAfter⟩
          cases decision with
          | succeed =>
              simpa only [FileProgram.exec, Operation.apply, effect, effect'] using
                induction reply sameAfter decisions
          | fail failure left =>
              exact induction (.failed failure) (operations.torn same left) decisions
          | stop landed left =>
              refine ⟨?_, .none⟩
              cases landed with
              | true => simpa [FileProgram.exec, Operation.apply, effect, effect'] using sameAfter
              | false => exact operations.torn same left

omit [DecidableEq Path] in
theorem Alike.bind {results : Result → Result → Prop} {others : Other → Other → Prop}
    {program program' : FileProgram Path Data Failure Result}
    (alike : Alike results program program')
    {next next' : Result → FileProgram Path Data Failure Other}
    (then' : ∀ result result', results result result' →
      Alike others (next result) (next' result')) :
    Alike others (program.bind next) (program'.bind next') := by
  induction alike with
  | finish related => exact then' _ _ related
  | perform operations _ induction => exact .perform operations induction

end Alike

end FileProgram

end StarLens.Foundation
