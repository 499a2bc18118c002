import StarLens.Alert.Manager
import StarLens.Foundation.Execution
import StarLens.Foundation.Layers

/-! # Runs of the manager

Callers dispatch, test, list and reconfigure concurrently. `Test` reads the
clock before it takes the lock, so its two steps can be apart. Deliveries happen
outside the lock on a snapshot of the channels. -/

namespace StarLens.Alert

open Foundation Go

variable {Notifier : Type}

structure ManagerState (Notifier : Type) where
  manager : Manager Notifier
  /-- How often the clock has been read. -/
  readings : Nat
  /-- The stamped alerts of `Test` calls that wait for the lock. -/
  testing : Nat → Option Alert

inductive ManagerInput (Notifier : Type)
  | dispatch (alert : Alert)
  | stampTest (caller : Nat)
  | test (caller : Nat)
  | register (notifier : Notifier)
  | setWebhook (webhook : Option Notifier)
  | setCooldown (cooldown : Duration)
  | recent

inductive ManagerEvent (Notifier : Type)
  | dispatched (key : String) (fired : Option (Alert × List Notifier))
  | tested (alert : Alert) (channels : List Notifier)
  | cooldownSet (cooldown : Duration)
  | listed (alerts : List Alert)
  | silent

def managerStep (clock : Nat → Time) (state : ManagerState Notifier) :
    ManagerInput Notifier → Option (StepResult (ManagerState Notifier) (ManagerEvent Notifier))
  | .dispatch alert =>
      let result := state.manager.dispatch (fun reading => clock (state.readings + reading)) alert
      some {
        nextState := { state with
          manager := result.manager, readings := state.readings + result.readings }
        observation := .dispatched alert.key result.fired }
  | .stampTest caller =>
      match state.testing caller with
      | some _ => none
      | none =>
          let alert := testAlert (clock state.readings).utc
          some {
            nextState := { state with
              readings := state.readings + 1
              testing := Function.update state.testing caller (some alert) }
            observation := .silent }
  | .test caller =>
      match state.testing caller with
      | none => none
      | some alert =>
          let (manager, channels) := state.manager.test alert
          some {
            nextState := { state with
              manager, testing := Function.update state.testing caller none }
            observation := .tested alert channels }
  | .register notifier =>
      some {
        nextState := { state with manager := state.manager.register notifier }
        observation := .silent }
  | .setWebhook webhook =>
      some {
        nextState := { state with manager := state.manager.setWebhook webhook }
        observation := .silent }
  | .setCooldown cooldown =>
      some {
        nextState := { state with manager := state.manager.setCooldown cooldown }
        observation := .cooldownSet cooldown }
  | .recent => some { nextState := state, observation := .listed state.manager.recent }

def managerMachine (clock : Nat → Time) :
    Machine (ManagerState Notifier) (ManagerInput Notifier) (ManagerEvent Notifier) where
  step := managerStep clock

def managerStart (Notifier : Type) (cooldown : Duration) : ManagerState Notifier where
  manager := .new cooldown
  readings := 0
  testing _ := none

namespace ManagerEvent

def stamp? (key : String) : ManagerEvent Notifier → Option Time
  | dispatched name (some (alert, _)) => if name = key then some alert.firedAt else none
  | _ => none

def cooldown? : ManagerEvent Notifier → Option Duration
  | cooldownSet cooldown => some cooldown
  | _ => none

def fires : ManagerEvent Notifier → Bool
  | dispatched _ fired => fired.isSome
  | _ => false

end ManagerEvent

def latestStamp (key : String) (events : List (ManagerEvent Notifier)) : Option Time :=
  lastSet (events.map (ManagerEvent.stamp? key))

def stamps (key : String) (events : List (ManagerEvent Notifier)) : List Time :=
  events.filterMap (ManagerEvent.stamp? key)

private theorem stamps_concat (key : String) (events : List (ManagerEvent Notifier))
    (event : ManagerEvent Notifier) :
    stamps key (events ++ [event]) = stamps key events ++ (event.stamp? key).toList := by
  cases stamped : event.stamp? key <;> simp [stamps, stamped]

def currentCooldown (initial : Duration) (events : List (ManagerEvent Notifier)) : Duration :=
  (lastSet (events.map ManagerEvent.cooldown?)).getD initial

theorem latestStamp_concat (key : String) (events : List (ManagerEvent Notifier))
    (event : ManagerEvent Notifier) :
    latestStamp key (events ++ [event]) = (event.stamp? key).or (latestStamp key events) := by
  simp [latestStamp]

theorem currentCooldown_concat (initial : Duration) (events : List (ManagerEvent Notifier))
    (event : ManagerEvent Notifier) :
    currentCooldown initial (events ++ [event]) =
      event.cooldown?.getD (currentCooldown initial events) := by
  cases set : event.cooldown? <;> simp [currentCooldown, set]

structure Tracks (initial : Duration) (events : List (ManagerEvent Notifier))
    (state : ManagerState Notifier) : Prop where
  cooldown : state.manager.cooldown = currentCooldown initial events
  lastFired : ∀ key, state.manager.lastFired key = latestStamp key events

section Runs

variable {clock : Nat → Time} {initial : Duration}
variable {inputs : List (ManagerInput Notifier)} {events : List (ManagerEvent Notifier)}
variable {state : ManagerState Notifier}

/-- What each input does to the state, with its guard. -/
inductive ManagerTaken (clock : Nat → Time) (state : ManagerState Notifier) :
    ManagerInput Notifier → StepResult (ManagerState Notifier) (ManagerEvent Notifier) → Prop
  | suppressed {alert : Alert} {last : Time} :
      state.manager.lastFired alert.key = some last →
      (clock state.readings).sub last < state.manager.cooldown →
      ManagerTaken clock state (.dispatch alert)
        ⟨{ state with readings := state.readings + 1 }, .dispatched alert.key none⟩
  | fired {alert : Alert} {waited : Nat} :
      (∀ last, state.manager.lastFired alert.key = some last →
        ¬(clock state.readings).sub last < state.manager.cooldown) →
      ManagerTaken clock state (.dispatch alert)
        ⟨{ state with
            manager := (state.manager.fire alert (clock (state.readings + waited))).1
            readings := state.readings + waited + 1 },
          .dispatched alert.key
            (some ({ alert with firedAt := (clock (state.readings + waited)).utc },
              state.manager.channels))⟩
  | stamped {caller : Nat} :
      state.testing caller = none →
      ManagerTaken clock state (.stampTest caller)
        ⟨{ state with
            readings := state.readings + 1
            testing := Function.update state.testing caller
              (some (testAlert (clock state.readings).utc)) },
          .silent⟩
  | tested {caller : Nat} {alert : Alert} :
      state.testing caller = some alert →
      ManagerTaken clock state (.test caller)
        ⟨{ state with
            manager := state.manager.remember alert
            testing := Function.update state.testing caller none },
          .tested alert state.manager.channels⟩
  | registered {notifier : Notifier} :
      ManagerTaken clock state (.register notifier)
        ⟨{ state with manager := state.manager.register notifier }, .silent⟩
  | webhookSet {webhook : Option Notifier} :
      ManagerTaken clock state (.setWebhook webhook)
        ⟨{ state with manager := state.manager.setWebhook webhook }, .silent⟩
  | cooldownSet {cooldown : Duration} :
      ManagerTaken clock state (.setCooldown cooldown)
        ⟨{ state with manager := state.manager.setCooldown cooldown }, .cooldownSet cooldown⟩
  | listed : ManagerTaken clock state .recent ⟨state, .listed state.manager.recent⟩

theorem managerStep_taken {input : ManagerInput Notifier}
    {result : StepResult (ManagerState Notifier) (ManagerEvent Notifier)}
    (step : managerStep clock state input = some result) :
    ManagerTaken clock state input result := by
  cases input with
  | dispatch alert =>
      simp only [managerStep, Option.some.injEq] at step
      subst step
      rcases state.manager.dispatch_cases (fun reading => clock (state.readings + reading)) alert
        with ⟨last, before, recent, suppressed⟩ | ⟨reading, decided, fired⟩
      · rw [suppressed]
        exact .suppressed before recent
      · rw [fired]
        exact .fired fun last before => (decided last before).2
  | stampTest caller =>
      cases testing : state.testing caller with
      | some alert => simp [managerStep, testing] at step
      | none =>
          simp only [managerStep, testing, Option.some.injEq] at step
          subst step
          exact .stamped testing
  | test caller =>
      cases testing : state.testing caller with
      | none => simp [managerStep, testing] at step
      | some alert =>
          simp only [managerStep, testing, Option.some.injEq] at step
          subst step
          exact .tested testing
  | register notifier =>
      cases step
      exact .registered
  | setWebhook webhook =>
      cases step
      exact .webhookSet
  | setCooldown cooldown =>
      cases step
      exact .cooldownSet
  | recent =>
      cases step
      exact .listed

inductive ManagerChange (clock : Nat → Time) (state : ManagerState Notifier) :
    ManagerInput Notifier → StepResult (ManagerState Notifier) (ManagerEvent Notifier) → Prop
  /-- The decision is taken on a reading that is not later than the stamp. -/
  | fired {alert : Alert} {reading : Nat} {next : ManagerState Notifier}
      {channels : List Notifier} :
      state.readings ≤ reading → next.readings = reading + 1 →
      (∀ last, state.manager.lastFired alert.key = some last →
        ¬(clock state.readings).sub last < state.manager.cooldown) →
      next.manager.cooldown = state.manager.cooldown →
      next.manager.lastFired =
        Function.update state.manager.lastFired alert.key (some (clock reading).utc) →
      ManagerChange clock state (.dispatch alert)
        ⟨next, .dispatched alert.key
          (some ({ alert with firedAt := (clock reading).utc }, channels))⟩
  | cooldownSet {cooldown : Duration} :
      ManagerChange clock state (.setCooldown cooldown)
        ⟨{ state with manager := state.manager.setCooldown cooldown }, .cooldownSet cooldown⟩
  | quiet {input : ManagerInput Notifier} {next : ManagerState Notifier}
      {event : ManagerEvent Notifier} :
      state.readings ≤ next.readings →
      next.manager.cooldown = state.manager.cooldown →
      next.manager.lastFired = state.manager.lastFired →
      (∀ key, event.stamp? key = none) → event.cooldown? = none →
      ManagerChange clock state input ⟨next, event⟩

theorem managerStep_change {input : ManagerInput Notifier}
    {result : StepResult (ManagerState Notifier) (ManagerEvent Notifier)}
    (step : managerStep clock state input = some result) :
    ManagerChange clock state input result := by
  cases managerStep_taken step with
  | suppressed => exact .quiet (Nat.le_succ _) rfl rfl (fun key => rfl) rfl
  | fired decided => exact .fired (Nat.le_add_right _ _) rfl decided rfl rfl
  | stamped => exact .quiet (Nat.le_succ _) rfl rfl (fun key => rfl) rfl
  | cooldownSet => exact .cooldownSet
  | tested | registered | webhookSet | listed =>
      exact .quiet le_rfl rfl rfl (fun key => rfl) rfl

private theorem runs_track
    (runs : (managerMachine clock).Runs (managerStart Notifier initial) inputs events state) :
    Tracks initial events state := by
  apply runs.history_invariant (Tracks initial) ⟨rfl, fun key => rfl⟩
  intro events state input result tracks _ step
  cases managerStep_change step with
  | @fired alert _ _ _ _ _ _ cooldown lastFired =>
      constructor
      · rw [cooldown, tracks.cooldown, currentCooldown_concat]
        rfl
      · intro key
        rw [lastFired, latestStamp_concat, ← tracks.lastFired]
        by_cases same : alert.key = key
        · subst same
          simp [ManagerEvent.stamp?]
        · simp [ManagerEvent.stamp?, same, Ne.symm same]
  | cooldownSet =>
      constructor
      · rw [currentCooldown_concat]
        rfl
      · intro key
        rw [latestStamp_concat, ← tracks.lastFired]
        rfl
  | quiet _ cooldown lastFired stampless unset =>
      constructor
      · rw [cooldown, tracks.cooldown, currentCooldown_concat, unset]
        rfl
      · intro key
        rw [lastFired, latestStamp_concat, stampless, Option.none_or, tracks.lastFired]

def Onward (clock : Nat → Time) : Prop :=
  ∀ {earlier later : Nat}, earlier ≤ later → (clock earlier).wall ≤ (clock later).wall

theorem onward_of_succ (onwards : ∀ reading, (clock reading).wall ≤ (clock (reading + 1)).wall) :
    Onward clock := by
  intro earlier later order
  exact monotone_nat_of_le_succ onwards order

structure Spaced (clock : Nat → Time) (cooldown : Duration) (key : String)
    (events : List (ManagerEvent Notifier)) (state : ManagerState Notifier) : Prop where
  constant : state.manager.cooldown = cooldown
  lastFired : state.manager.lastFired key = (stamps key events).getLast?
  plain : ∀ stamp ∈ stamps key events, stamp.mono = none
  past : ∀ stamp ∈ stamps key events, stamp.wall ≤ (clock state.readings).wall
  sorted : (stamps key events).Pairwise fun earlier later => earlier.wall ≤ later.wall
  apart : (stamps key events).Pairwise fun earlier later => cooldown ≤ later.sub earlier

section

variable {cooldown : Duration} {key : String} {event : ManagerEvent Notifier}
variable {next : ManagerState Notifier}

theorem Spaced.skip (spaced : Spaced clock cooldown key events state)
    (onward : Onward clock)
    (readings : state.readings ≤ next.readings) (kept : next.manager.cooldown = cooldown)
    (lastFired : next.manager.lastFired key = state.manager.lastFired key)
    (stampless : event.stamp? key = none) :
    Spaced clock cooldown key (events ++ [event]) next := by
  have same : stamps key (events ++ [event]) = stamps key events := by
    simp [stamps_concat, stampless]
  constructor
  · exact kept
  · rw [same, lastFired, spaced.lastFired]
  · rw [same]
    exact spaced.plain
  · rw [same]
    exact fun stamp member => (spaced.past stamp member).trans (onward readings)
  · rw [same]
    exact spaced.sorted
  · rw [same]
    exact spaced.apart

theorem Spaced.wall_le_last (spaced : Spaced clock cooldown key events state) {last : Time}
    (lastFired : state.manager.lastFired key = some last) :
    last ∈ stamps key events ∧ ∀ stamp ∈ stamps key events, stamp.wall ≤ last.wall := by
  rw [spaced.lastFired] at lastFired
  rcases List.getLast?_eq_some_iff.mp lastFired with ⟨older, split⟩
  have sorted := spaced.sorted
  rw [split, List.pairwise_append] at sorted
  rw [split]
  constructor
  · simp
  · rw [List.forall_mem_append, List.forall_mem_singleton]
    constructor
    · intro stamp member
      exact sorted.2.2 stamp member last (List.mem_singleton_self last)
    · exact Int.le_refl _

theorem Spaced.far (spaced : Spaced clock cooldown key events state)
    (onward : Onward clock) {reading : Nat}
    (taken : state.readings ≤ reading)
    (decided : ∀ last, state.manager.lastFired key = some last →
      ¬(clock state.readings).sub last < state.manager.cooldown)
    (earlier : Time) (member : earlier ∈ stamps key events) :
    cooldown ≤ (clock reading).utc.sub earlier := by
  cases lastFired : state.manager.lastFired key with
  | none =>
      rw [spaced.lastFired, List.getLast?_eq_none_iff] at lastFired
      simp [lastFired] at member
  | some last =>
      rcases spaced.wall_le_last lastFired with ⟨lastMember, order⟩
      have enough := decided last lastFired
      rw [spaced.constant, Int64.not_lt] at enough
      exact Int64.le_trans enough (Time.sub_le_sub (spaced.plain last lastMember)
        (spaced.plain earlier member) (onward taken) (order earlier member))

theorem Spaced.stamp (spaced : Spaced clock cooldown key events state)
    (onward : Onward clock) {reading : Nat}
    (taken : state.readings ≤ reading) (before : reading < next.readings)
    (far : ∀ earlier ∈ stamps key events, cooldown ≤ (clock reading).utc.sub earlier)
    (kept : next.manager.cooldown = cooldown)
    (lastFired : next.manager.lastFired key = some (clock reading).utc)
    (stamped : event.stamp? key = some (clock reading).utc) :
    Spaced clock cooldown key (events ++ [event]) next := by
  have grown : stamps key (events ++ [event]) = stamps key events ++ [(clock reading).utc] := by
    simp [stamps_concat, stamped]
  have late : ∀ earlier ∈ stamps key events, earlier.wall ≤ (clock reading).wall :=
    fun earlier member => (spaced.past earlier member).trans (onward taken)
  constructor
  · exact kept
  · rw [grown, List.getLast?_concat, lastFired]
  · rw [grown, List.forall_mem_append, List.forall_mem_singleton]
    exact ⟨spaced.plain, rfl⟩
  · have now := onward before.le
    rw [grown, List.forall_mem_append, List.forall_mem_singleton]
    exact ⟨fun earlier member => (late earlier member).trans now, now⟩
  · rw [grown, List.pairwise_append]
    refine ⟨spaced.sorted, List.pairwise_singleton _ _, fun earlier member later new => ?_⟩
    rw [List.mem_singleton.mp new]
    exact late earlier member
  · rw [grown, List.pairwise_append]
    refine ⟨spaced.apart, List.pairwise_singleton _ _, fun earlier member later new => ?_⟩
    rw [List.mem_singleton.mp new]
    exact far earlier member

theorem Spaced.step (onward : Onward clock)
    (spaced : Spaced clock cooldown key events state) {input : ManagerInput Notifier}
    (constant : ∀ set, input = .setCooldown set → set = cooldown)
    {result : StepResult (ManagerState Notifier) (ManagerEvent Notifier)}
    (step : managerStep clock state input = some result) :
    Spaced clock cooldown key (events ++ [result.observation]) result.nextState := by
  cases managerStep_change step with
  | @fired alert reading _ _ taken last decided kept lastFired =>
      rw [spaced.constant] at kept
      have before := Nat.lt_of_lt_of_eq (Nat.lt_succ_self reading) last.symm
      by_cases same : alert.key = key
      · subst same
        exact spaced.stamp onward taken before (spaced.far onward taken decided) kept
          (by simp [lastFired]) (by simp [ManagerEvent.stamp?])
      · exact spaced.skip onward (taken.trans before.le) kept
          (by simp [lastFired, Ne.symm same]) (by simp [ManagerEvent.stamp?, same])
  | cooldownSet => exact spaced.skip onward le_rfl (constant _ rfl) rfl rfl
  | quiet readings kept lastFired stampless _ =>
      exact spaced.skip onward readings (kept.trans spaced.constant)
        (congrFun lastFired key) (stampless key)

end

end Runs

/-- In every run a dispatch returns true exactly when no dispatch of its key did
before, or the cooldown in force has passed since the stamp of the last that
did. Under a clock that never goes back and one cooldown throughout, the stamps
of a key are at least the cooldown apart. -/
theorem dispatch_iff_cooldown_passed (Notifier : Type) (clock : Nat → Time)
    (initial : Duration) :
    (∀ inputs events state,
      (managerMachine clock).Runs (managerStart Notifier initial)
        inputs events state →
      ∀ alert, ∃ result, managerStep clock state (.dispatch alert) = some result ∧
        (result.observation.fires ↔
          match latestStamp alert.key events with
          | none => True
          | some firedAt =>
              currentCooldown initial events ≤ (clock state.readings).sub firedAt)) ∧
    ((∀ reading, (clock reading).wall ≤ (clock (reading + 1)).wall) →
      ∀ inputs events state,
        (managerMachine clock).RunsWithin
          (fun _ input => ∀ set, input = .setCooldown set → set = initial)
          (managerStart Notifier initial) inputs events state →
        ∀ key, (stamps key events).Pairwise fun earlier later => initial ≤ later.sub earlier) := by
  constructor
  · intro inputs events state runs alert
    have tracks := runs_track runs
    refine ⟨_, rfl, ?_⟩
    rw [← tracks.cooldown, ← tracks.lastFired]
    rcases state.manager.dispatch_cases (fun reading => clock (state.readings + reading)) alert
      with ⟨last, before, recent, suppressed⟩ | ⟨reading, decided, fired⟩
    · rw [suppressed, before]
      simpa [ManagerEvent.fires] using Int64.not_le.mpr recent
    · rw [fired]
      cases before : state.manager.lastFired alert.key with
      | none => simp [ManagerEvent.fires]
      | some last => simpa [ManagerEvent.fires] using Int64.not_lt.mp (decided last before).2
  · intro onwards inputs events state runs key
    refine (runs.history_invariant (Spaced clock initial key) ?_ ?_).apart
    · exact ⟨rfl, rfl, nofun, nofun, .nil, .nil⟩
    · intro events state input result spaced constant step
      exact spaced.step (onward_of_succ onwards) constant step

end StarLens.Alert
