import StarLens.Alert.ManagerRuns

/-! # Deliveries

`Dispatch` and `Test` take a snapshot of the channels under the lock and send
to them after the unlock, one channel after the other, while other calls take
the lock. -/

namespace StarLens.Alert

open Foundation Go

variable {Notifier : Type}

structure DeliveryState (Notifier : Type) where
  state : ManagerState Notifier
  /-- How many calls have taken their critical section. -/
  calls : Nat
  /-- The calls that have left the lock and not returned, with the channels
  they have still to send to. -/
  deliveries : Nat → Option (Alert × List Notifier)

inductive DeliveryInput (Notifier : Type)
  | call (input : ManagerInput Notifier)
  /-- The next channel is sent to; `failure` is the error of `Send`. -/
  | send (number : Nat) (failure : Option String)
  | finish (number : Nat)

inductive DeliveryEvent (Notifier : Type)
  | called (input : ManagerInput Notifier) (event : ManagerEvent Notifier)
  | sent (number : Nat) (alert : Alert) (notifier : Notifier) (failure : Option String)
  | returned (number : Nat)

def ManagerEvent.delivery? : ManagerEvent Notifier → Option (Alert × List Notifier)
  | .dispatched _ fired => fired
  | .tested alert channels => some (alert, channels)
  | _ => none

/-- A failed `Send` is logged or listed, and the loop goes on. -/
def deliveryStep (clock : Nat → Time) (state : DeliveryState Notifier) :
    DeliveryInput Notifier →
      Option (StepResult (DeliveryState Notifier) (DeliveryEvent Notifier))
  | .call input =>
      (managerStep clock state.state input).map fun result => {
        nextState := {
          state := result.nextState
          calls := state.calls + 1
          deliveries :=
            Function.update state.deliveries state.calls result.observation.delivery? }
        observation := .called input result.observation }
  | .send number failure =>
      match state.deliveries number with
      | some (alert, notifier :: rest) =>
          some {
            nextState := { state with
              deliveries := Function.update state.deliveries number (some (alert, rest)) }
            observation := .sent number alert notifier failure }
      | _ => none
  | .finish number =>
      match state.deliveries number with
      | some (_, []) =>
          some {
            nextState := { state with
              deliveries := Function.update state.deliveries number none }
            observation := .returned number }
      | _ => none

def deliveryMachine (clock : Nat → Time) :
    Machine (DeliveryState Notifier) (DeliveryInput Notifier) (DeliveryEvent Notifier) where
  step := deliveryStep clock

def deliveryStart (Notifier : Type) (cooldown : Duration) : DeliveryState Notifier where
  state := managerStart Notifier cooldown
  calls := 0
  deliveries _ := none

/-! ## What a history says -/

namespace ManagerInput

def registered? : ManagerInput Notifier → Option Notifier
  | .register notifier => some notifier
  | _ => none

def webhook? : ManagerInput Notifier → Option (Option Notifier)
  | .setWebhook webhook => some webhook
  | _ => none

end ManagerInput

namespace DeliveryEvent

def called? : DeliveryEvent Notifier → Option (ManagerInput Notifier × ManagerEvent Notifier)
  | .called input event => some (input, event)
  | _ => none

def sent? (number : Nat) : DeliveryEvent Notifier → Option (Alert × Notifier)
  | .sent sender alert notifier _ => if sender = number then some (alert, notifier) else none
  | _ => none

end DeliveryEvent

def calls (history : List (DeliveryEvent Notifier)) :
    List (ManagerInput Notifier × ManagerEvent Notifier) :=
  history.filterMap DeliveryEvent.called?

def registered (history : List (DeliveryEvent Notifier)) : List Notifier :=
  (calls history).filterMap fun call => call.1.registered?

def installed (history : List (DeliveryEvent Notifier)) : Option Notifier :=
  (lastSet ((calls history).map fun call => call.1.webhook?)).getD none

def recordedAlerts (history : List (DeliveryEvent Notifier)) : List Alert :=
  (calls history).filterMap fun call => call.2.delivery?.map Prod.fst

def sends (number : Nat) (history : List (DeliveryEvent Notifier)) : List (Alert × Notifier) :=
  history.filterMap (DeliveryEvent.sent? number)

def owed (before : List (DeliveryEvent Notifier)) (event : ManagerEvent Notifier) :
    List (Alert × Notifier) :=
  match event.delivery? with
  | none => []
  | some (alert, _) =>
      (registered before ++ (installed before).toList).map fun notifier => (alert, notifier)

def ManagerInput.Records (clock : Nat → Time) :
    ManagerInput Notifier → (recorded : Alert) → Prop
  | .dispatch alert, recorded =>
      ∃ reading, recorded = { alert with firedAt := (clock reading).utc }
  | .test _, recorded => ∃ reading, recorded = testAlert (clock reading).utc
  | _, _ => False

section History

variable (history : List (DeliveryEvent Notifier)) (number : Nat)

@[simp] theorem calls_concat (event : DeliveryEvent Notifier) :
    calls (history ++ [event]) = calls history ++ event.called?.toList := by
  cases called : event.called? <;> simp [calls, called]

@[simp] theorem sends_concat (event : DeliveryEvent Notifier) :
    sends number (history ++ [event]) = sends number history ++ (event.sent? number).toList := by
  cases sent : event.sent? number <;> simp [sends, sent]

private theorem calls_append_cons (before after : List (DeliveryEvent Notifier))
    (input : ManagerInput Notifier) (event : ManagerEvent Notifier) :
    calls (before ++ .called input event :: after) =
      calls before ++ (input, event) :: calls after := by
  simp [calls, DeliveryEvent.called?]

end History

private theorem concat_eq_append_cons {α : Type} {list before after : List α} {last middle : α} :
    list ++ [last] = before ++ middle :: after ↔
      (after = [] ∧ list = before ∧ last = middle) ∨
        ∃ rest, after = rest ++ [last] ∧ list = before ++ middle :: rest := by
  constructor
  · intro same
    rcases List.eq_nil_or_concat after with rfl | ⟨rest, final, rfl⟩
    · rcases List.append_inj' same rfl with ⟨front, back⟩
      exact .inl ⟨rfl, front, List.singleton_inj.mp back⟩
    · rw [List.concat_eq_append, ← List.cons_append, ← List.append_assoc] at same
      rcases List.append_inj' same rfl with ⟨front, back⟩
      rw [List.singleton_inj.mp back, List.concat_eq_append]
      exact .inr ⟨rest, rfl, front⟩
  · intro cases
    rcases cases with ⟨rfl, rfl, rfl⟩ | ⟨rest, rfl, rfl⟩
    · rfl
    · simp

/-! ## One critical section -/

def remembered (recent : List Alert) : Option (Alert × List Notifier) → List Alert
  | none => recent
  | some (alert, _) => (alert :: recent).take recentCapacity

private theorem managerStep_records {clock : Nat → Time} {state : ManagerState Notifier}
    {input : ManagerInput Notifier}
    {result : StepResult (ManagerState Notifier) (ManagerEvent Notifier)}
    (step : managerStep clock state input = some result) :
    result.nextState.manager.notifiers =
        state.manager.notifiers ++ input.registered?.toList ∧
      result.nextState.manager.webhook = input.webhook?.getD state.manager.webhook ∧
      result.nextState.manager.recent =
        remembered state.manager.recent result.observation.delivery? ∧
      ∀ delivery ∈ result.observation.delivery?, delivery.2 = state.manager.channels := by
  cases managerStep_taken step with
  | registered => exact ⟨rfl, rfl, rfl, by simp [ManagerEvent.delivery?]⟩
  | fired | tested =>
      refine ⟨(List.append_nil _).symm, rfl, rfl, fun delivery member => ?_⟩
      rw [← Option.some.inj member]
  | suppressed | stamped | webhookSet | cooldownSet | listed =>
      exact ⟨(List.append_nil _).symm, rfl, rfl, by simp [ManagerEvent.delivery?]⟩

def TestsStamped (clock : Nat → Time) (state : ManagerState Notifier) : Prop :=
  ∀ caller alert, state.testing caller = some alert →
    ∃ reading, alert = testAlert (clock reading).utc

private theorem managerStep_stamps {clock : Nat → Time} {state : ManagerState Notifier}
    (stamped : TestsStamped clock state) {input : ManagerInput Notifier}
    {result : StepResult (ManagerState Notifier) (ManagerEvent Notifier)}
    (step : managerStep clock state input = some result) :
    TestsStamped clock result.nextState ∧
      ∀ delivery ∈ result.observation.delivery?, input.Records clock delivery.1 := by
  cases managerStep_taken step with
  | fired =>
      refine ⟨stamped, fun delivery member => ?_⟩
      rw [← Option.some.inj member]
      exact ⟨_, rfl⟩
  | @stamped caller free =>
      refine ⟨fun other alert waiting => ?_, by simp [ManagerEvent.delivery?]⟩
      by_cases same : other = caller
      · subst same
        exact ⟨state.readings, by simpa [eq_comm] using waiting⟩
      · exact stamped other alert (by simpa [same] using waiting)
  | @tested caller alert testing =>
      refine ⟨fun other alert waiting => ?_, fun delivery member => ?_⟩
      · by_cases same : other = caller
        · simp [same] at waiting
        · exact stamped other alert (by simpa [same] using waiting)
      · rw [← Option.some.inj member]
        exact stamped caller alert testing
  | suppressed | registered | webhookSet | cooldownSet | listed =>
      exact ⟨stamped, by simp [ManagerEvent.delivery?]⟩

/-! ## Runs -/

def unsent : Option (Alert × List Notifier) → List (Alert × Notifier)
  | none => []
  | some (alert, channels) => channels.map fun notifier => (alert, notifier)

/-- The state and the history agree on the channels and on the alerts, and
every call has sent what it owes up to what is unsent of its delivery. -/
structure Delivers (history : List (DeliveryEvent Notifier)) (state : DeliveryState Notifier) :
    Prop where
  calls : state.calls = (calls history).length
  notifiers : state.state.manager.notifiers = registered history
  webhook : state.state.manager.webhook = installed history
  recent : state.state.manager.recent = (recordedAlerts history).reverse.take recentCapacity
  sent : ∀ before input event after, history = before ++ .called input event :: after →
    sends (Alert.calls before).length history ++
      unsent (state.deliveries (Alert.calls before).length) = owed before event
  fresh : ∀ number, state.calls ≤ number →
    state.deliveries number = none ∧ sends number history = []

section Runs

variable {clock : Nat → Time} {initial : Duration}
variable {history : List (DeliveryEvent Notifier)} {state : DeliveryState Notifier}

theorem Delivers.owed (delivers : Delivers history state) {event : ManagerEvent Notifier}
    (channels : ∀ delivery ∈ event.delivery?, delivery.2 = state.state.manager.channels) :
    unsent event.delivery? = owed history event := by
  cases delivery : event.delivery? with
  | none => simp [unsent, Alert.owed, delivery]
  | some pair =>
      have same := channels pair delivery
      rw [Manager.channels, delivers.notifiers, delivers.webhook] at same
      simp [unsent, Alert.owed, delivery, same]

theorem Delivers.call (delivers : Delivers history state) {input : ManagerInput Notifier}
    {result : StepResult (ManagerState Notifier) (ManagerEvent Notifier)}
    (step : managerStep clock state.state input = some result) :
    Delivers (history ++ [.called input result.observation]) {
      state := result.nextState
      calls := state.calls + 1
      deliveries :=
        Function.update state.deliveries state.calls result.observation.delivery? } := by
  rcases managerStep_records step with ⟨notifiers, webhook, recent, channels⟩
  constructor
  · simp [delivers.calls, DeliveryEvent.called?]
  · rw [notifiers, delivers.notifiers]
    cases set : input.registered? <;> simp [registered, DeliveryEvent.called?, set]
  · rw [webhook, delivers.webhook]
    cases set : input.webhook? <;> simp [installed, DeliveryEvent.called?, set]
  · rw [recent, delivers.recent]
    cases delivery : result.observation.delivery? with
    | none => simp [remembered, recordedAlerts, DeliveryEvent.called?, delivery]
    | some pair =>
        simp [remembered, recordedAlerts, DeliveryEvent.called?, delivery, recentCapacity,
          List.take_take]
  · intro before taken event after split
    rcases concat_eq_append_cons.mp split with ⟨rfl, rfl, same⟩ | ⟨rest, rfl, rfl⟩
    · cases same
      have fresh := delivers.fresh state.calls le_rfl
      rw [delivers.calls] at fresh
      simp [delivers.calls, fresh.2, DeliveryEvent.sent?, delivers.owed channels]
    · have earlier : (Alert.calls before).length ≠ state.calls := by
        rw [delivers.calls, calls_append_cons]
        simp
      rw [← delivers.sent before taken event rest rfl, sends_concat]
      simp [DeliveryEvent.sent?, earlier]
  · intro number later
    have after : state.calls + 1 ≤ number := later
    have fresh := delivers.fresh number (by omega)
    have other : number ≠ state.calls := by omega
    simp [fresh, other, DeliveryEvent.sent?]

theorem Delivers.outside (delivers : Delivers history state)
    {event : DeliveryEvent Notifier} {deliveries : Nat → Option (Alert × List Notifier)}
    (uncalled : event.called? = none)
    (moved : ∀ number, (event.sent? number).toList ++ unsent (deliveries number) =
      unsent (state.deliveries number))
    (settled : ∀ number, state.deliveries number = none →
      deliveries number = none ∧ event.sent? number = none) :
    Delivers (history ++ [event]) { state with deliveries } := by
  constructor
  · simp [delivers.calls, uncalled]
  · simp [delivers.notifiers, registered, uncalled]
  · simp [delivers.webhook, installed, uncalled]
  · simp [delivers.recent, recordedAlerts, uncalled]
  · intro before input called after split
    rcases concat_eq_append_cons.mp split with ⟨-, -, rfl⟩ | ⟨rest, rfl, rfl⟩
    · simp [DeliveryEvent.called?] at uncalled
    · rw [← delivers.sent before input called rest rfl, sends_concat, List.append_assoc,
        moved]
  · intro number later
    have fresh := delivers.fresh number later
    have settledAll := settled number fresh.1
    simp [fresh, settledAll]

theorem Delivers.step (delivers : Delivers history state) {input : DeliveryInput Notifier}
    {result : StepResult (DeliveryState Notifier) (DeliveryEvent Notifier)}
    (step : deliveryStep clock state input = some result) :
    Delivers (history ++ [result.observation]) result.nextState := by
  cases input with
  | call input =>
      rcases Option.map_eq_some_iff.mp step with ⟨taken, accepted, rfl⟩
      exact delivers.call accepted
  | send number failure =>
      rw [deliveryStep] at step
      split at step
      case h_1 alert notifier rest pending =>
          cases step
          apply delivers.outside rfl
          · intro other
            by_cases same : number = other
            · subst same
              simp [DeliveryEvent.sent?, unsent, pending]
            · simp [DeliveryEvent.sent?, same, Ne.symm same]
          · intro other settled
            have different : number ≠ other := by
              intro same
              simp [same, settled] at pending
            simp [DeliveryEvent.sent?, different, Ne.symm different, settled]
      case h_2 => cases step
  | finish number =>
      rw [deliveryStep] at step
      split at step
      case h_1 alert pending =>
          cases step
          apply delivers.outside rfl
          · intro other
            by_cases same : number = other
            · subst same
              simp [DeliveryEvent.sent?, unsent, pending]
            · simp [DeliveryEvent.sent?, Ne.symm same]
          · intro other settled
            by_cases same : number = other
            · simp [DeliveryEvent.sent?, same]
            · simp [DeliveryEvent.sent?, Ne.symm same, settled]
      case h_2 => cases step

private theorem records_of_runs {inputs : List (DeliveryInput Notifier)}
    (runs : (deliveryMachine clock).Runs (deliveryStart Notifier initial) inputs history state) :
    ∀ call ∈ calls history, ∀ delivery ∈ call.2.delivery?, call.1.Records clock delivery.1 := by
  have stamps : TestsStamped clock state.state ∧
      ∀ call ∈ calls history, ∀ delivery ∈ call.2.delivery?, call.1.Records clock delivery.1 := by
    apply runs.history_invariant fun history state => TestsStamped clock state.state ∧
      ∀ call ∈ calls history, ∀ delivery ∈ call.2.delivery?, call.1.Records clock delivery.1
    · refine ⟨?_, by simp [calls]⟩
      intro caller alert waiting
      cases waiting
    · intro history state input result holds _ step
      rw [calls_concat]
      cases input with
      | call input =>
          rcases Option.map_eq_some_iff.mp step with ⟨taken, accepted, rfl⟩
          rcases managerStep_stamps holds.1 accepted with ⟨stamped, records⟩
          refine ⟨stamped, fun call member => ?_⟩
          rcases List.mem_append.mp member with earlier | last
          · exact holds.2 call earlier
          · rw [List.mem_singleton.mp last]
            exact records
      | send number failure =>
          simp only [deliveryMachine, deliveryStep] at step
          split at step
          · cases step
            simpa [DeliveryEvent.called?] using holds
          · cases step
      | finish number =>
          simp only [deliveryMachine, deliveryStep] at step
          split at step
          · cases step
            simpa [DeliveryEvent.called?] using holds
          · cases step
  exact stamps.2

end Runs

/-- When every call has returned, each recorded alert was sent once to every
notifier registered before and to the webhook installed then, in this order and
to no other channel; a call that recorded nothing sent nothing. What is recorded is
the alert that was dispatched, with its stamp, or a test alert. The history of the
manager is that of the recorded alerts. -/
theorem deliveries_complete {clock : Nat → Time} {initial : Duration}
    {inputs : List (DeliveryInput Notifier)} {history : List (DeliveryEvent Notifier)}
    {state : DeliveryState Notifier}
    (runs : (deliveryMachine clock).Runs (deliveryStart Notifier initial) inputs history state)
    (returned : ∀ number, state.deliveries number = none) :
    (∀ before input event after, history = before ++ .called input event :: after →
      sends (calls before).length history =
        match event.delivery? with
        | none => []
        | some (alert, _) =>
            (registered before ++ (installed before).toList).map fun notifier =>
              (alert, notifier)) ∧
      (∀ number, (calls history).length ≤ number → sends number history = []) ∧
      (∀ call ∈ calls history, ∀ delivery ∈ call.2.delivery?,
        call.1.Records clock delivery.1) ∧
      (managerStep clock state.state .recent).map StepResult.observation =
        some (.listed ((recordedAlerts history).reverse.take recentCapacity)) := by
  have delivers : Delivers history state := by
    refine runs.history_invariant Delivers ?_ fun history state input result delivers _ step =>
      delivers.step step
    exact ⟨rfl, rfl, rfl, rfl, by simp, fun number later => ⟨rfl, rfl⟩⟩
  refine ⟨?_, ?_, records_of_runs runs, ?_⟩
  · intro before input event after split
    have sent := delivers.sent before input event after split
    rw [returned, unsent, List.append_nil] at sent
    exact sent
  · intro number later
    exact (delivers.fresh number (delivers.calls ▸ later)).2
  · rw [← delivers.recent]
    rfl

/-- Two channels, of which the first fails, and an alert that is suppressed when
it is dispatched again. -/
theorem deliveries_complete_sample :
    ∃ history state, (deliveryMachine fun reading => { wall := reading }).Runs
        (deliveryStart String 600)
        [.call (.register "log"), .call (.setWebhook (some "webhook")),
          .call (.dispatch (testAlert { wall := 0 })), .send 2 (some "disk full"), .send 2 none,
          .finish 2, .call (.dispatch (testAlert { wall := 0 }))] history state ∧
      (sends 2 history).map Prod.snd = ["log", "webhook"] ∧ sends 3 history = [] := by
  have runs : (deliveryMachine fun reading => { wall := reading }).Runs (deliveryStart String 600)
      [.call (.register "log"), .call (.setWebhook (some "webhook")),
        .call (.dispatch (testAlert { wall := 0 })), .send 2 (some "disk full"), .send 2 none,
        .finish 2, .call (.dispatch (testAlert { wall := 0 }))] _ _ :=
    ((deliveryMachine _).runs_iff_run).mpr rfl
  have complete := deliveries_complete runs fun number =>
    match number with
    | 0 | 1 | 2 | 3 => rfl
    | _ + 4 => rfl
  refine ⟨_, _, runs, ?_, ?_⟩
  · exact congrArg (List.map Prod.snd) (complete.1 [_, _] _ _ [_, _, _, _] rfl)
  · exact complete.1 [_, _, _, _, _, _] _ _ [] rfl

end StarLens.Alert
