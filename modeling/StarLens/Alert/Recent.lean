import StarLens.Alert.ManagerRuns

/-! # The order of the history

`Dispatch` stamps an alert and records it under one lock. `Test` stamps its
alert before it takes the lock, so others can be recorded in between. -/

namespace StarLens.Alert

open Foundation Go

variable {Notifier : Type}

def NewestFirst (alerts : List Alert) : Prop :=
  alerts.Pairwise fun newer older => ¬older.firedAt.after newer.firedAt

instance (alerts : List Alert) : Decidable (NewestFirst alerts) :=
  inferInstanceAs (Decidable (alerts.Pairwise _))

/-- A `Test` gets the lock before anything stamped later than its alert is
recorded. -/
def TestedInTurn (state : ManagerState Notifier) : ManagerInput Notifier → Prop
  | .test caller => ∀ alert newest, state.testing caller = some alert →
      state.manager.recent.head? = some newest → ¬newest.firedAt.after alert.firedAt
  | _ => True

structure Ordered (clock : Nat → Time) (state : ManagerState Notifier) : Prop where
  newestFirst : NewestFirst state.manager.recent
  plain : ∀ alert ∈ state.manager.recent, alert.firedAt.mono = none
  past : ∀ alert ∈ state.manager.recent, alert.firedAt.wall ≤ (clock state.readings).wall
  testing : ∀ caller alert, state.testing caller = some alert →
    alert.firedAt.mono = none ∧ alert.firedAt.wall ≤ (clock state.readings).wall

section Order

variable {clock : Nat → Time} {state : ManagerState Notifier}

private theorem mem_remember {manager : Manager Notifier} {alert other : Alert}
    (member : other ∈ (manager.remember alert).recent) :
    other = alert ∨ other ∈ manager.recent :=
  List.mem_cons.mp (List.mem_of_mem_take member)

theorem NewestFirst.remember {manager : Manager Notifier} {alert : Alert}
    (newestFirst : NewestFirst manager.recent)
    (latest : ∀ older ∈ manager.recent, ¬older.firedAt.after alert.firedAt) :
    NewestFirst (manager.remember alert).recent := by
  apply List.Pairwise.sublist (List.take_sublist _ _)
  exact List.Pairwise.cons latest newestFirst

theorem NewestFirst.head_of_remember {manager : Manager Notifier} {alert newest : Alert}
    (newestFirst : NewestFirst (manager.remember alert).recent)
    (head : manager.recent.head? = some newest) : ¬newest.firedAt.after alert.firedAt := by
  rcases List.head?_eq_some_iff.mp head with ⟨older, split⟩
  have two : (manager.remember alert).recent =
      alert :: newest :: older.take (recentCapacity - 2) := by
    rw [Manager.remember, split]
    rfl
  rw [two] at newestFirst
  exact (List.pairwise_cons.mp newestFirst).1 newest (List.mem_cons_self ..)

theorem Ordered.not_after {alert : Alert} (ordered : Ordered clock state)
    (plain : alert.firedAt.mono = none)
    (inTurn : ∀ newest, state.manager.recent.head? = some newest →
      ¬newest.firedAt.after alert.firedAt)
    (older : Alert) (member : older ∈ state.manager.recent) :
    ¬older.firedAt.after alert.firedAt := by
  cases recent : state.manager.recent with
  | nil => simp [recent] at member
  | cons newest rest =>
      have newestPlain := ordered.plain newest (by simp [recent])
      have last := inTurn newest (by simp [recent])
      have sorted := ordered.newestFirst
      rw [NewestFirst, recent, List.pairwise_cons] at sorted
      rw [recent] at member
      rw [Time.after_plain _ plain] at last ⊢
      rcases List.mem_cons.mp member with same | later
      · rw [same]
        exact last
      · have order := sorted.1 older later
        rw [Time.after_plain _ newestPlain] at order
        omega

theorem Ordered.wait {next : ManagerState Notifier} (onward : Onward clock)
    (ordered : Ordered clock state) (recent : next.manager.recent = state.manager.recent)
    (later : state.readings ≤ next.readings)
    (testing : ∀ caller alert, next.testing caller = some alert →
      state.testing caller = some alert ∨
        alert.firedAt.mono = none ∧ alert.firedAt.wall ≤ (clock next.readings).wall) :
    Ordered clock next := by
  constructor
  · rw [recent]
    exact ordered.newestFirst
  · rw [recent]
    exact ordered.plain
  · rw [recent]
    exact fun alert member => (ordered.past alert member).trans (onward later)
  · intro caller alert held
    rcases testing caller alert held with held | stamped
    · have stamped := ordered.testing caller alert held
      exact ⟨stamped.1, stamped.2.trans (onward later)⟩
    · exact stamped

theorem Ordered.record {next : ManagerState Notifier} {alert : Alert} (onward : Onward clock)
    (ordered : Ordered clock state)
    (recent : next.manager.recent = (state.manager.remember alert).recent)
    (later : state.readings ≤ next.readings)
    (testing : ∀ caller held, next.testing caller = some held → state.testing caller = some held)
    (plain : alert.firedAt.mono = none) (past : alert.firedAt.wall ≤ (clock next.readings).wall)
    (latest : ∀ older ∈ state.manager.recent, ¬older.firedAt.after alert.firedAt) :
    Ordered clock next := by
  constructor
  · rw [recent]
    exact ordered.newestFirst.remember latest
  · intro other member
    rw [recent] at member
    rcases mem_remember member with rfl | member
    · exact plain
    · exact ordered.plain other member
  · intro other member
    rw [recent] at member
    rcases mem_remember member with rfl | member
    · exact past
    · exact (ordered.past other member).trans (onward later)
  · intro caller held holds
    have stamped := ordered.testing caller held (testing caller held holds)
    exact ⟨stamped.1, stamped.2.trans (onward later)⟩

theorem Ordered.step (onward : Onward clock) (ordered : Ordered clock state)
    {input : ManagerInput Notifier} (inTurn : TestedInTurn state input)
    {result : StepResult (ManagerState Notifier) (ManagerEvent Notifier)}
    (step : managerStep clock state input = some result) : Ordered clock result.nextState := by
  cases managerStep_taken step with
  | suppressed =>
      exact ordered.wait onward rfl (Nat.le_succ state.readings) fun caller alert held => .inl held
  | @fired alert waited =>
      have taken := Nat.le_succ (state.readings + waited)
      refine ordered.record onward rfl ((Nat.le_add_right state.readings waited).trans taken)
        (fun caller held holds => holds) rfl (onward taken) ?_
      intro older member
      rw [Time.after_plain _ rfl]
      have past := ordered.past older member
      exact Int.not_lt.mpr (past.trans (onward (Nat.le_add_right state.readings waited)))
  | stamped =>
      have later := Nat.le_succ state.readings
      refine ordered.wait onward rfl later ?_
      intro other alert held
      simp only [Function.update_apply] at held
      split at held
      · cases held
        exact .inr ⟨rfl, onward later⟩
      · exact .inl held
  | @tested caller alert testing =>
      have stamped := ordered.testing caller alert testing
      refine ordered.record onward rfl le_rfl ?_ stamped.1 stamped.2 ?_
      · intro other alert held
        simp only [Function.update_apply] at held
        split at held
        · cases held
        · exact held
      · exact ordered.not_after stamped.1 fun newest head => inTurn alert newest testing head
  | registered | webhookSet | cooldownSet | listed =>
      exact ordered.wait onward rfl le_rfl fun caller alert held => .inl held

end Order

/-- Under a clock that never goes back the history is ordered as long as every
`Test` records its alert in turn, and the first that does not breaks the
order. -/
theorem recent_newest_first {clock : Nat → Time} {initial : Duration}
    (onwards : ∀ reading, (clock reading).wall ≤ (clock (reading + 1)).wall)
    {inputs : List (ManagerInput Notifier)} {events : List (ManagerEvent Notifier)}
    {state : ManagerState Notifier}
    (runs : (managerMachine clock).RunsWithin TestedInTurn (managerStart Notifier initial)
      inputs events state) :
    NewestFirst state.manager.recent ∧
      ∀ input result, managerStep clock state input = some result →
        (NewestFirst result.nextState.manager.recent ↔ TestedInTurn state input) := by
  have onward : Onward clock := onward_of_succ onwards
  have ordered : Ordered clock state := by
    apply runs.invariant (Ordered clock) ⟨.nil, nofun, nofun, nofun⟩
    intro state input result ordered inTurn step
    exact ordered.step onward inTurn step
  refine ⟨ordered.newestFirst, fun input result step => ?_⟩
  constructor
  · intro newestFirst
    cases input with
    | test caller =>
        intro alert newest testing head
        simp only [managerStep, testing, Option.some.injEq] at step
        subst step
        exact newestFirst.head_of_remember head
    | dispatch _ | stampTest _ | register _ | setWebhook _ | setCooldown _ | recent => trivial
  · intro inTurn
    exact (ordered.step onward inTurn step).newestFirst

theorem recent_newest_first_sample :
    ∃ events state, (managerMachine fun reading => { wall := reading }).RunsWithin TestedInTurn
        (managerStart Unit 600) [.dispatch (testAlert { wall := 0 }), .stampTest 0, .test 0]
        events state ∧
      NewestFirst state.manager.recent := by
  let clock : Nat → Time := fun reading => { wall := reading }
  have onwards : ∀ reading, (clock reading).wall ≤ (clock (reading + 1)).wall := by
    intro reading
    simp only [clock]
    omega
  let inputs : List (ManagerInput Unit) :=
    [.dispatch (testAlert { wall := 0 }), .stampTest 0, .test 0]
  have demands : (managerMachine clock).Demands TestedInTurn (managerStart Unit 600) inputs := by
    refine ⟨trivial, trivial, ?_, trivial⟩
    intro alert newest testing head
    cases testing
    cases head
    decide
  have runs := (managerMachine clock).runsWithin_of_run .start rfl demands
  exact ⟨_, _, runs, (recent_newest_first onwards runs).1⟩

/-- A dispatch gets the lock between the stamp of a `Test` and its record. -/
theorem recent_out_of_order :
    ¬∀ (clock : Nat → Time) (initial : Duration),
      (∀ reading, (clock reading).wall ≤ (clock (reading + 1)).wall) →
      ∀ inputs events state,
        (managerMachine clock).Runs (managerStart Unit initial) inputs events state →
        NewestFirst state.manager.recent := by
  intro ordered
  let clock : Nat → Time := fun reading => { wall := reading }
  have onwards : ∀ reading, (clock reading).wall ≤ (clock (reading + 1)).wall := by
    intro reading
    simp only [clock]
    omega
  have runs : (managerMachine clock).Runs (managerStart Unit 600)
      [.stampTest 0, .dispatch (testAlert { wall := 0 }), .test 0] _ _ :=
    ((managerMachine clock).runs_iff_run).mpr rfl
  have sorted := ordered clock 600 onwards _ _ _ runs
  revert sorted
  decide

end StarLens.Alert
