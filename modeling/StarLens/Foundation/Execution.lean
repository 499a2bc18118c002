import Mathlib.Data.List.Forall2

/-! # Machines and their runs

Any number of callers that take their steps in any order are one machine: an
input names the caller and the step it takes next, and a step taken out of
order is refused. A run is then an interleaving, and a property of every run
is a property of every interleaving. -/

namespace StarLens.Foundation

structure StepResult (State Observation : Type) where
  nextState : State
  observation : Observation

/-- A machine refuses an input by returning `none`. -/
structure Machine (State Input Observation : Type) where
  step : State → Input → Option (StepResult State Observation)

namespace Machine

variable {State Input Observation : Type}

def run (machine : Machine State Input Observation) :
    State → List Input → Option (List Observation × State)
  | state, [] => some ([], state)
  | state, input :: inputs =>
      match machine.step state input with
      | none => none
      | some result =>
          match machine.run result.nextState inputs with
          | none => none
          | some (observations, final) =>
              some (result.observation :: observations, final)

/-- Runs in which every step meets `condition`, a demand on the state before
the step and on its input. -/
inductive RunsWithin (machine : Machine State Input Observation)
    (condition : State → Input → Prop) (initial : State) :
    List Input → List Observation → State → Prop
  | start : RunsWithin machine condition initial [] [] initial
  | extend {inputs observations state input result} :
      RunsWithin machine condition initial inputs observations state →
      condition state input →
      machine.step state input = some result →
      RunsWithin machine condition initial (inputs ++ [input])
        (observations ++ [result.observation]) result.nextState

abbrev Runs (machine : Machine State Input Observation) :
    State → List Input → List Observation → State → Prop :=
  machine.RunsWithin fun _ _ => True

section Rules

variable {machine : Machine State Input Observation}
variable {condition : State → Input → Prop} {initial final : State}
variable {inputs : List Input} {observations : List Observation}

theorem RunsWithin.runs
    (runs : machine.RunsWithin condition initial inputs observations final) :
    machine.Runs initial inputs observations final := by
  induction runs with
  | start => exact .start
  | extend _ _ step induction => exact .extend induction trivial step

theorem RunsWithin.of_runs
    (runs : machine.Runs initial inputs observations final)
    (meets : ∀ state, ∀ input ∈ inputs, condition state input) :
    machine.RunsWithin condition initial inputs observations final := by
  induction runs with
  | start => exact .start
  | extend _ _ step induction =>
      refine .extend (induction fun state input member => ?_) ?_ step
      · exact meets state input (List.mem_append_left _ member)
      · exact meets _ _ (List.mem_append_right _ (List.mem_singleton_self _))

/-- What holds at the start and is kept by every step that meets the
condition holds wherever such a run ends. -/
theorem RunsWithin.invariant (property : State → Prop)
    (runs : machine.RunsWithin condition initial inputs observations final)
    (base : property initial)
    (preserved : ∀ state input result, property state → condition state input →
      machine.step state input = some result → property result.nextState) :
    property final := by
  induction runs with
  | start => exact base
  | extend _ meets step induction => exact preserved _ _ _ induction meets step

theorem RunsWithin.history_invariant
    (property : List Observation → State → Prop)
    (runs : machine.RunsWithin condition initial inputs observations final)
    (base : property [] initial)
    (preserved : ∀ observations state input result, property observations state →
      condition state input → machine.step state input = some result →
      property (observations ++ [result.observation]) result.nextState) :
    property observations final := by
  induction runs with
  | start => exact base
  | extend _ meets step induction => exact preserved _ _ _ _ induction meets step

theorem RunsWithin.last {input : Input}
    (runs : machine.RunsWithin condition initial (inputs ++ [input]) observations final) :
    ∃ before state result, machine.RunsWithin condition initial inputs before state ∧
      condition state input ∧ machine.step state input = some result ∧
      observations = before ++ [result.observation] ∧ final = result.nextState := by
  generalize whole : inputs ++ [input] = taken at runs
  cases runs with
  | start => simp at whole
  | extend earlier meets step =>
      rcases List.append_inj' whole rfl with ⟨rfl, same⟩
      rw [List.singleton_inj] at same
      subst same
      exact ⟨_, _, _, earlier, meets, step, rfl, rfl⟩

theorem forall₂_concat {alike : Input → Input → Prop} {input : Input} {others : List Input}
    (paired : List.Forall₂ alike (inputs ++ [input]) others) :
    ∃ inputs' input', others = inputs' ++ [input'] ∧ List.Forall₂ alike inputs inputs' ∧
      alike input input' := by
  rw [← List.forall₂_reverse_iff, List.reverse_append, List.reverse_singleton,
    List.singleton_append] at paired
  cases turned : others.reverse with
  | nil => simp [turned] at paired
  | cons input' inputs' =>
      rw [turned, List.forall₂_cons] at paired
      refine ⟨inputs'.reverse, input', ?_, ?_, paired.1⟩
      · rw [← List.reverse_cons, ← turned, List.reverse_reverse]
      · rw [← List.forall₂_reverse_iff, List.reverse_reverse]
        exact paired.2

/-- Two runs in lockstep: related inputs on related states lead to related
states and look the same, so the two runs cannot be told apart. -/
theorem RunsWithin.lockstep {initial' final' : State} {inputs' : List Input}
    {observations' : List Observation}
    (states : State → State → Prop) (alike : Input → Input → Prop)
    (runs : machine.RunsWithin condition initial inputs observations final)
    (runs' : machine.Runs initial' inputs' observations' final')
    (start : states initial initial') (paired : List.Forall₂ alike inputs inputs')
    (step : ∀ state state' input input' result result', states state state' →
      alike input input' → condition state input →
      machine.step state input = some result → machine.step state' input' = some result' →
      states result.nextState result'.nextState ∧ result.observation = result'.observation) :
    states final final' ∧ observations = observations' := by
  induction runs generalizing inputs' observations' final' with
  | start =>
      cases paired
      generalize nothing : ([] : List Input) = none at runs'
      cases runs' with
      | start => exact ⟨start, rfl⟩
      | extend _ _ _ => simp at nothing
  | extend before meets taken induction =>
      rcases forall₂_concat paired with ⟨earlier, input', rfl, pairs, pair⟩
      rcases runs'.last with ⟨observations', state', result', before', -, taken', rfl, rfl⟩
      rcases induction before' pairs with ⟨related, same⟩
      rcases step _ _ _ _ _ _ related pair meets taken taken' with ⟨relatedNext, sameNext⟩
      exact ⟨relatedNext, by rw [same, sameNext]⟩

end Rules

def Demands (machine : Machine State Input Observation) (condition : State → Input → Prop) :
    State → List Input → Prop
  | _, [] => True
  | state, input :: inputs =>
      condition state input ∧
        match machine.step state input with
        | none => True
        | some result => machine.Demands condition result.nextState inputs

theorem runsWithin_of_run (machine : Machine State Input Observation)
    {condition : State → Input → Prop} {initial state final : State}
    {earlier inputs : List Input} {before observations : List Observation}
    (runs : machine.RunsWithin condition initial earlier before state)
    (executed : machine.run state inputs = some (observations, final))
    (demands : machine.Demands condition state inputs) :
    machine.RunsWithin condition initial (earlier ++ inputs) (before ++ observations) final := by
  induction inputs generalizing earlier before state observations with
  | nil =>
      simp only [run, Option.some.injEq, Prod.mk.injEq] at executed
      rcases executed with ⟨rfl, rfl⟩
      simpa using runs
  | cons input inputs induction =>
      rw [run] at executed
      cases step : machine.step state input with
      | none => simp [step] at executed
      | some result =>
          simp only [Demands, step] at demands
          cases rest : machine.run result.nextState inputs with
          | none => simp [step, rest] at executed
          | some later =>
              simp only [step, rest, Option.some.injEq, Prod.mk.injEq] at executed
              rcases executed with ⟨rfl, rfl⟩
              have grown := induction (runs.extend demands.1 step) rest demands.2
              simpa using grown

theorem run_append (machine : Machine State Input Observation)
    (state : State) (first second : List Input) :
    machine.run state (first ++ second) =
      (machine.run state first).bind fun middle =>
        (machine.run middle.2 second).map fun last =>
          (middle.1 ++ last.1, last.2) := by
  induction first generalizing state with
  | nil => cases last : machine.run state second <;> simp [run, last]
  | cons input first induction =>
      rw [List.cons_append, run, run]
      cases step : machine.step state input with
      | none => rfl
      | some result =>
          simp only [induction result.nextState]
          cases middle : machine.run result.nextState first with
          | none => rfl
          | some pair =>
              cases last : machine.run pair.2 second <;> simp [last]

/-- Runs are exactly what `run` computes, so a run is determined by its
inputs. -/
theorem runs_iff_run (machine : Machine State Input Observation)
    {initial final : State} {inputs : List Input}
    {observations : List Observation} :
    machine.Runs initial inputs observations final ↔
      machine.run initial inputs = some (observations, final) := by
  constructor
  · intro runs
    induction runs with
    | start => rfl
    | extend _ _ step induction =>
        rw [run_append, induction]
        simp [run, step]
  · intro executed
    have demands (state : State) : machine.Demands (fun _ _ => True) state inputs := by
      clear executed
      induction inputs generalizing state with
      | nil => trivial
      | cons input inputs induction =>
          refine ⟨trivial, ?_⟩
          cases step : machine.step state input with
          | none => trivial
          | some result => exact induction result.nextState
    simpa using machine.runsWithin_of_run .start executed (demands initial)

/-! ## The states of a run -/

def passed (machine : Machine State Input Observation) : State → List Input → List State
  | state, [] => [state]
  | state, input :: inputs =>
      state ::
        match machine.step state input with
        | none => []
        | some result => machine.passed result.nextState inputs

theorem passed_concat {machine : Machine State Input Observation} {initial state : State}
    {inputs : List Input} {observations : List Observation}
    (executed : machine.run initial inputs = some (observations, state)) {input : Input}
    {result : StepResult State Observation} (step : machine.step state input = some result) :
    machine.passed initial (inputs ++ [input]) =
      machine.passed initial inputs ++ [result.nextState] := by
  induction inputs generalizing initial observations with
  | nil =>
      simp only [run, Option.some.injEq, Prod.mk.injEq] at executed
      rw [executed.2]
      simp [passed, step]
  | cons first inputs induction =>
      rw [run] at executed
      cases taken : machine.step initial first with
      | none => simp [taken] at executed
      | some next =>
          cases rest : machine.run next.nextState inputs with
          | none => simp [taken, rest] at executed
          | some later =>
              simp only [taken, rest, Option.some.injEq, Prod.mk.injEq] at executed
              have whole : machine.run next.nextState inputs = some (later.1, state) := by
                rw [rest, ← executed.2]
              simp only [List.cons_append, passed, taken, induction whole]

theorem RunsWithin.passed_invariant {machine : Machine State Input Observation}
    {condition : State → Input → Prop} {initial final : State} {inputs : List Input}
    {observations : List Observation}
    (property : List State → List Observation → State → Prop)
    (runs : machine.RunsWithin condition initial inputs observations final)
    (base : property [initial] [] initial)
    (preserved : ∀ states observations state input result,
      property states observations state → condition state input →
      machine.step state input = some result →
        property (states ++ [result.nextState]) (observations ++ [result.observation])
          result.nextState) :
    property (machine.passed initial inputs) observations final := by
  induction runs with
  | start => exact base
  | extend earlier meets step induction =>
      rw [passed_concat ((runs_iff_run machine).mp earlier.runs) step]
      exact preserved _ _ _ _ _ induction meets step

/-! ## What each observation says of those before it -/

def Each (property : List Observation → Observation → Prop) (observations : List Observation) :
    Prop :=
  ∀ earlier observation later, observations = earlier ++ observation :: later →
    property earlier observation

theorem each_concat {property : List Observation → Observation → Prop}
    {observations : List Observation} {observation : Observation}
    (each : Each property observations) (last : property observations observation) :
    Each property (observations ++ [observation]) := by
  intro earlier told later split
  rcases List.eq_nil_or_concat later with rfl | ⟨middle, youngest, rfl⟩
  · rcases List.append_inj' split rfl with ⟨rfl, same⟩
    rw [← List.singleton_inj.mp same]
    exact last
  · rw [List.concat_eq_append, ← List.cons_append, ← List.append_assoc] at split
    exact each _ _ _ (List.append_inj' split rfl).1

/-- The rule for a property of each observation: it follows, step by step, from
an invariant of the states. -/
theorem RunsWithin.each {machine : Machine State Input Observation}
    {condition : State → Input → Prop} {initial final : State} {inputs : List Input}
    {observations : List Observation}
    (invariant : List Observation → State → Prop)
    (property : List Observation → Observation → Prop)
    (runs : machine.RunsWithin condition initial inputs observations final)
    (base : invariant [] initial)
    (preserved : ∀ observations state input result, invariant observations state →
      condition state input → machine.step state input = some result →
        invariant (observations ++ [result.observation]) result.nextState ∧
          property observations result.observation) :
    invariant observations final ∧ Each property observations := by
  induction runs with
  | start =>
      refine ⟨base, fun earlier told later split => ?_⟩
      simp at split
  | extend _ meets step induction =>
      have kept := preserved _ _ _ _ induction.1 meets step
      exact ⟨kept.1, each_concat induction.2 kept.2⟩

/-! ## A machine and what it is for -/

inductive Path {Abstract : Type} (steps : Abstract → Observation → Abstract → Prop)
    (initial : Abstract) : List Observation → Abstract → Prop
  | start : Path steps initial [] initial
  | extend {observations observation abstract next} :
      Path steps initial observations abstract →
      steps abstract observation next →
      Path steps initial (observations ++ [observation]) next

/-- Forward simulation: what is observed of a run is observed of a path, if every
step of the machine is a step of the relation. -/
theorem RunsWithin.refines {machine : Machine State Input Observation}
    {condition : State → Input → Prop} {initial final : State} {inputs : List Input}
    {observations : List Observation} {Abstract : Type}
    {steps : Abstract → Observation → Abstract → Prop} {abstract : Abstract}
    (simulated : State → Abstract → Prop)
    (runs : machine.RunsWithin condition initial inputs observations final)
    (base : simulated initial abstract)
    (preserved : ∀ state abstract input result, simulated state abstract →
      condition state input → machine.step state input = some result →
        ∃ next, steps abstract result.observation next ∧ simulated result.nextState next) :
    ∃ next, Path steps abstract observations next ∧ simulated final next := by
  induction runs with
  | start => exact ⟨abstract, .start, base⟩
  | extend _ meets step induction =>
      rcases induction with ⟨middle, path, related⟩
      rcases preserved _ _ _ _ related meets step with ⟨next, taken, relatedNext⟩
      exact ⟨next, path.extend taken, relatedNext⟩

/-- Simulation by a machine of larger steps: a step of the small one that shows
nothing may have no counterpart. -/
theorem RunsWithin.simulates {machine : Machine State Input Observation}
    {condition : State → Input → Prop} {initial final : State} {inputs : List Input}
    {observations : List Observation} {State' Input' Observation' Seen : Type}
    {machine' : Machine State' Input' Observation'} {initial' : State'}
    (seen : Observation → Option Seen) (seen' : Observation' → Option Seen)
    (simulated : State → State' → Prop)
    (runs : machine.RunsWithin condition initial inputs observations final)
    (base : simulated initial initial')
    (preserved : ∀ state state' input result, simulated state state' → condition state input →
      machine.step state input = some result →
        (seen result.observation = none ∧ simulated result.nextState state') ∨
        ∃ input' result', machine'.step state' input' = some result' ∧
          seen result.observation = seen' result'.observation ∧
          simulated result.nextState result'.nextState) :
    ∃ inputs' observations' final', machine'.Runs initial' inputs' observations' final' ∧
      observations.filterMap seen = observations'.filterMap seen' ∧ simulated final final' := by
  induction runs with
  | start => exact ⟨[], [], initial', .start, rfl, base⟩
  | extend _ meets step induction =>
      rcases induction with ⟨inputs', observations', state', runs', same, related⟩
      rcases preserved _ _ _ _ related meets step with
        ⟨silent, relatedNext⟩ | ⟨input', result', step', alike, relatedNext⟩
      · refine ⟨inputs', observations', state', runs', ?_, relatedNext⟩
        rw [List.filterMap_append, same]
        simp [silent]
      · refine ⟨_, _, _, runs'.extend trivial step', ?_, relatedNext⟩
        rw [List.filterMap_append, List.filterMap_append, same]
        simp [List.filterMap_cons, alike]

end Machine

end StarLens.Foundation
