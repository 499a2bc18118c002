import StarLens.Alert.ManagerRuns

/-! # Steps of the wall clock

A reading of the system clock has a wall part, which may be set forward or
back, and a monotonic part. The stamp of an alert has lost the monotonic part,
so the cooldown is measured on the wall. -/

namespace StarLens.Alert

open Foundation Go

variable {Notifier : Type}

/-- What `time.Now` returns. -/
structure SystemClock where
  wall : Nat → Int
  mono : Nat → Int
  onward : ∀ reading, mono reading ≤ mono (reading + 1)

def SystemClock.now (clock : SystemClock) (reading : Nat) : Time where
  wall := clock.wall reading
  mono := some (clock.mono reading)

def SystemClock.elapsed (clock : SystemClock) (earlier later : Nat) : Int :=
  clock.mono later - clock.mono earlier

/-- What the wall shows for it, from the least difference `Sub` returns on. -/
def SystemClock.shown (clock : SystemClock) (earlier later : Nat) : Int :=
  max (clock.wall later - clock.wall earlier) (-2 ^ 63)

theorem SystemClock.sub_lt_iff (clock : SystemClock) (earlier later : Nat)
    (cooldown : Duration) :
    (clock.now later).sub (clock.now earlier).utc < cooldown ↔
      clock.shown earlier later < cooldown.toInt := by
  have upper := cooldown.toInt_lt
  rw [Int64.lt_iff_toInt_lt, Time.toInt_sub_plain _ rfl]
  simp only [now, Time.utc, shown]
  omega

def timedMachine (clock : SystemClock) :
    Machine (ManagerState Notifier) (ManagerInput Notifier) (ManagerEvent Notifier × Nat) where
  step state input :=
    (managerStep clock.now state input).map fun result =>
      ⟨result.nextState, result.observation, result.nextState.readings⟩

def firedReading (key : String) (history : List (ManagerEvent Notifier × Nat)) : Option Nat :=
  lastSet (history.map fun entry => (entry.1.stamp? key).map fun _ => entry.2 - 1)

theorem firedReading_concat (key : String) (history : List (ManagerEvent Notifier × Nat))
    (entry : ManagerEvent Notifier × Nat) :
    firedReading key (history ++ [entry]) =
      ((entry.1.stamp? key).map fun _ => entry.2 - 1).or (firedReading key history) := by
  simp [firedReading]

structure Stamped (clock : SystemClock) (initial : Duration)
    (history : List (ManagerEvent Notifier × Nat)) (state : ManagerState Notifier) : Prop where
  cooldown : state.manager.cooldown = currentCooldown initial (history.map Prod.fst)
  lastFired : ∀ key, state.manager.lastFired key =
    (firedReading key history).map fun reading => (clock.now reading).utc

section Runs

variable {clock : SystemClock} {initial : Duration}
variable {history : List (ManagerEvent Notifier × Nat)} {state : ManagerState Notifier}

theorem Stamped.step (stamped : Stamped clock initial history state)
    {input : ManagerInput Notifier}
    {result : StepResult (ManagerState Notifier) (ManagerEvent Notifier)}
    (step : managerStep clock.now state input = some result) :
    Stamped clock initial (history ++ [(result.observation, result.nextState.readings)])
      result.nextState := by
  cases managerStep_change step with
  | @fired alert reading _ _ _ last _ cooldown lastFired =>
      constructor
      · rw [cooldown, stamped.cooldown, List.map_append, List.map_singleton,
          currentCooldown_concat]
        rfl
      · intro key
        rw [lastFired, firedReading_concat]
        by_cases same : alert.key = key
        · subst same
          simp [ManagerEvent.stamp?, last]
        · simp [ManagerEvent.stamp?, same, Ne.symm same, stamped.lastFired key]
  | cooldownSet =>
      constructor
      · rw [List.map_append, List.map_singleton, currentCooldown_concat]
        rfl
      · intro key
        rw [firedReading_concat]
        exact stamped.lastFired key
  | quiet _ cooldown lastFired stampless unset =>
      constructor
      · rw [cooldown, stamped.cooldown, List.map_append, List.map_singleton,
          currentCooldown_concat, unset]
        rfl
      · intro key
        rw [lastFired, firedReading_concat, stampless, stamped.lastFired]
        rfl

end Runs

/-- Wherever a run has led, the next dispatch of a key that has fired is
suppressed by the monotonic time that passed since exactly if the wall and the
monotonic clock agree on whether the cooldown has passed. -/
theorem dispatch_by_elapsed_iff {clock : SystemClock} {initial : Duration}
    {inputs : List (ManagerInput Notifier)} {history : List (ManagerEvent Notifier × Nat)}
    {state : ManagerState Notifier}
    (runs : (timedMachine clock).Runs (managerStart Notifier initial) inputs history state)
    {alert : Alert} {fired : Nat} (before : firedReading alert.key history = some fired) :
    let cooldown := (currentCooldown initial (history.map Prod.fst)).toInt
    ∃ result, managerStep clock.now state (.dispatch alert) = some result ∧
      ((result.observation.fires = false ↔ clock.elapsed fired state.readings < cooldown) ↔
        (clock.shown fired state.readings < cooldown ↔
          clock.elapsed fired state.readings < cooldown)) := by
  have stamped : Stamped clock initial history state := by
    apply runs.history_invariant (Stamped clock initial) ⟨rfl, fun key => rfl⟩
    intro history state input result stamped _ step
    rcases Option.map_eq_some_iff.mp step with ⟨taken, accepted, rfl⟩
    exact stamped.step accepted
  have lastFired := stamped.lastFired alert.key
  rw [before, Option.map_some] at lastFired
  refine ⟨_, rfl, ?_⟩
  rw [← stamped.cooldown, ← clock.sub_lt_iff]
  rcases state.manager.dispatch_cases (fun reading => clock.now (state.readings + reading)) alert
    with ⟨last, same, recent, suppressed⟩ | ⟨reading, decided, result⟩
  · rw [lastFired, Option.some.injEq] at same
    subst same
    rw [suppressed]
    simp only [Nat.add_zero] at recent
    simp [ManagerEvent.fires, recent]
  · have passed := (decided _ lastFired).2
    rw [result]
    simp only [Nat.add_zero] at passed
    simp only [ManagerEvent.fires, Option.isSome_some, Bool.true_eq_false, passed]

def setBack : SystemClock where
  wall reading := if reading = 0 then 1000000000000 else 0
  mono reading := if reading = 0 then 0 else 1200000000000
  onward reading := by
    split
    · split <;> omega
    · rw [if_neg (Nat.succ_ne_zero reading)]

theorem dispatch_by_elapsed_set_back :
    ∃ history state, (timedMachine setBack).Runs (managerStart Unit 600000000000)
        [.dispatch (testAlert { wall := 0 })] history state ∧
      ∃ result, managerStep setBack.now state (.dispatch (testAlert { wall := 0 })) = some result ∧
        ¬(result.observation.fires = false ↔
          setBack.elapsed 0 state.readings < 600000000000) := by
  have runs : (timedMachine setBack).Runs (managerStart Unit 600000000000)
      [.dispatch (testAlert { wall := 0 })] _ _ :=
    ((timedMachine setBack).runs_iff_run).mpr rfl
  rcases dispatch_by_elapsed_iff runs
      (show firedReading (testAlert { wall := 0 }).key _ = some 0 from rfl) with
    ⟨result, step, agree⟩
  refine ⟨_, _, runs, result, step, fun same => ?_⟩
  exact absurd (agree.mp same) (by decide)

/-- With a cooldown of 600 seconds the second dispatch comes 1200 seconds after
the first and is suppressed. -/
theorem dispatch_suppressed_late :
    ¬∀ (clock : SystemClock) (initial : Duration) inputs history state,
      (timedMachine clock).Runs (managerStart Unit initial) inputs history state →
      ∀ alert fired, firedReading alert.key history = some fired →
        ∃ result, managerStep clock.now state (.dispatch alert) = some result ∧
          (result.observation.fires = false ↔
            clock.elapsed fired state.readings <
              (currentCooldown initial (history.map Prod.fst)).toInt) := by
  intro punctual
  have runs : (timedMachine setBack).Runs (managerStart Unit 600000000000)
      [.dispatch (testAlert { wall := 0 })] _ _ :=
    ((timedMachine setBack).runs_iff_run).mpr rfl
  rcases punctual setBack 600000000000 _ _ _ runs (testAlert { wall := 0 }) 0 rfl with
    ⟨result, step, suppressed⟩
  rw [← Option.some.inj step] at suppressed
  revert suppressed
  decide

end StarLens.Alert
