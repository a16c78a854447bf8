import Ithute.RealtimeRuns

/-!
# Events that are silently dropped

A delivery call commits the `publishing` status before it uses the network,
and the worker never selects that status.  An event is dropped exactly when
a crash takes the last call that delivers it.
-/

namespace Ithute

open TransitionRuns

def EventStatus.final (status : EventStatus) : Bool := status ∈ [.delivered, .expired, .deadLetter]

theorem EventStatus.publishing_iff (status : EventStatus) : status = .publishing ↔
      status.final = false ∧ status.selectable = false := by
  cases status <;> decide

namespace RealtimeState

variable {services : RealtimeServices} {settings : RealtimeSettings}

def PickedUp (state : RealtimeState) (event : RealtimeEvent) : Prop :=
  ∀ now rank limit, event.deliverAt ≤ now → state.events.length ≤ limit →
    event ∈ dueEvents state.events now rank limit

/-- What is neither final nor being processed is left to the worker. -/
def NoEventDropped (state : RealtimeState) : Prop :=
  ∀ event ∈ state.events, event.status.final = false → ¬ state.Processing event.id →
      event.status.selectable = true ∧ state.PickedUp event

/-- No crash takes the last call that delivers an event under way. -/
def CrashSpares (before : RealtimeState) (action : RealtimeAction) (_ : RealtimeState) : Prop :=
  match action with
  | .crash process =>
    ∀ event ∈ before.events, event.status = .publishing →
      ∃ call ∈ before.calls, call.process ≠ process ∧ ∃ attempt, call.phase.attempt = some attempt ∧
          attempt.val.id = event.id
  | _ => True

variable {state : RealtimeState}

theorem pickedUp_of_selectable {event : RealtimeEvent} (member : event ∈ state.events)
    (selectable : event.status.selectable = true) : state.PickedUp event := by
  intro now rank limit due room
  unfold dueEvents
  dsimp only
  rw [List.take_of_length_le, List.mem_insertionSort]
  · simp [member, selectable, due]
  · rw [List.length_insertionSort]
    exact (List.length_filter_le _ _).trans room

def Delivering (state : RealtimeState) : Prop :=
  ∀ event ∈ state.events, event.status = .publishing → state.Processing event.id

theorem noEventDropped_iff (state : RealtimeState) : state.NoEventDropped ↔ state.Delivering := by
  constructor
  · intro kept event member publishing
    by_contra idle
    have selectable := (kept event member (by rw [publishing]; rfl) idle).1
    rw [publishing] at selectable
    cases selectable
  · intro processing event member open_ idle
    have selectable : event.status.selectable = true := by
      by_contra unselectable
      apply idle
      apply processing event member
      rw [EventStatus.publishing_iff]
      exact ⟨open_, by simpa using unselectable⟩
    exact ⟨selectable, pickedUp_of_selectable member selectable⟩

theorem delivering_of_calls {before after : RealtimeState} (delivering : before.Delivering)
    (events : ∀ event ∈ after.events, event.status = .publishing → event ∈ before.events)
    (calls : ∀ call ∈ before.calls, call ∈ after.calls) : after.Delivering := by
  intro event member publishing
  obtain ⟨call, callMem, processes⟩ := delivering event (events event member publishing) publishing
  exact ⟨call, calls call callMem, processes⟩

theorem delivering_request (delivering : state.Delivering) (process : ℕ) (entry : QueueEntry)
    (request : EventRequest) (id random : ℕ) :
    (state.request services settings process entry request id random).Delivering := by
  unfold RealtimeState.request
  split
  · exact delivering
  · rename_i following queued result
    apply delivering_of_calls delivering
    · intro event member publishing
      rcases queueEvent_cases result with ⟨same, -⟩ | ⟨added, new, -⟩
      · rwa [same] at member
      · rw [added, List.mem_append, List.mem_singleton] at member
        rcases member with old | fresh
        · exact old
        · rw [fresh, new] at publishing
          unfold EventRequest.event at publishing
          dsimp only at publishing
          split at publishing <;> cases publishing
    · intro call member
      dsimp only
      split
      · exact List.mem_append_left _ member
      · exact member

variable {index : ℕ} {call : DeliveryCall}

theorem delivering_enter (delivering : state.Delivering)
    (found : state.calls[index]? = some call) : (state.enter index call).Delivering := by
  rcases enter_cases state index call with same | ⟨event, changed, phase, entry, result⟩ |
    ⟨event, changed, phase, entry, result⟩
  · rw [same]
    exact delivering
  · rw [result]
    intro row member publishing
    obtain ⟨stored, storedMem, ⟨-, written⟩ | ⟨-, unwritten⟩⟩ := mem_commitEvent.mp member
    · -- the call writes neither `expired` nor `scheduled` over this row
      have idle : changed.status ≠ .publishing := by
        rcases (RealtimeEvent.enter_returned entry).2 with
          ⟨status, -⟩ | ⟨status, -⟩ <;> simp [status]
      have old : stored.status = .publishing := by
        rw [written] at publishing
        rcases withChanges_status event changed stored with new | old
        · rw [new] at publishing
          exact absurd publishing idle
        · rwa [old] at publishing
      rw [written]
      apply processing_replaceCall found _ (delivering stored storedMem old)
      intro attempt live
      simp [phase, DeliveryPhase.attempt] at live
    · rw [unwritten] at publishing ⊢
      apply processing_replaceCall found _ (delivering stored storedMem publishing)
      intro attempt live
      simp [phase, DeliveryPhase.attempt] at live
  · rw [result]
    intro row member publishing
    obtain ⟨stored, storedMem, ⟨same, written⟩ | ⟨-, unwritten⟩⟩ := mem_commitEvent.mp member
    · refine ⟨_, List.mem_append_right _ (List.mem_singleton_self _), changed, rfl, ?_⟩
      rw [written]
      exact same.symm
    · rw [unwritten] at publishing ⊢
      apply processing_replaceCall found _ (delivering stored storedMem publishing)
      intro attempt live
      simp [phase, DeliveryPhase.attempt] at live

theorem delivering_advance (delivering : state.Delivering)
    (found : state.calls[index]? = some call) (phase : DeliveryPhase)
    (same : phase.attempt = call.phase.attempt) :
    (state.replaceCall index (call.advance phase)).Delivering := by
  intro row member publishing
  apply processing_replaceCall found _ (delivering row member publishing)
  intro event attempt _
  exact ⟨_, List.mem_singleton_self _, same.trans attempt⟩

theorem delivering_publish (delivering : state.Delivering)
    (found : state.calls[index]? = some call) (outcome : NetworkOutcome) :
    (state.publish index call outcome).Delivering := by
  rcases publish_cases state index call outcome with
    same | ⟨event, startedAt, phase, result⟩
  · rw [same]
    exact delivering
  · have advanced := delivering_advance delivering found (.published event startedAt outcome)
      (by rw [phase, DeliveryPhase.attempt_published]; rfl)
    rcases result with ⟨-, sent⟩ | ⟨-, unsent⟩
    · rw [sent]
      exact advanced
    · rw [unsent]
      exact advanced

theorem delivering_push (delivering : state.Delivering)
    (found : state.calls[index]? = some call) (outcome : PushOutcome) :
    (state.push settings index call outcome).Delivering := by
  rcases push_cases settings state index call outcome with
    same | ⟨event, startedAt, recipient, remaining, pushes, phase, pushed⟩
  · rw [same]
    exact delivering
  · have advanced := delivering_advance delivering found (.pushed event startedAt remaining outcome)
      (by rw [phase, DeliveryPhase.attempt_pushed]; rfl)
    rw [pushed]
    exact advanced

theorem delivering_settle (delivering : state.Delivering)
    (found : state.calls[index]? = some call) : (state.settle settings index call).Delivering := by
  rcases settle_cases settings state index call with same |
    ⟨event, changed, attempt, settles, result⟩
  · rw [same]
    exact delivering
  · rw [result]
    intro row member publishing
    obtain ⟨stored, storedMem, ⟨-, written⟩ | ⟨other, unwritten⟩⟩ := mem_commitEvent.mp member
    · -- the attempt has left `publishing`, so its status is written
      have changes : changed.status ≠ event.val.status := by
        rw [event.property]
        exact settles.status_ne
      rw [written, withChanges_status_of_ne changes] at publishing
      exact absurd publishing settles.status_ne
    · rw [unwritten] at publishing ⊢
      apply processing_replaceCall found _ (delivering stored storedMem publishing)
      intro live liveAttempt same
      rw [attempt, Option.some.injEq] at liveAttempt
      rw [settles.result.1, liveAttempt] at other
      exact absurd same.symm other

theorem processing_crash (state : RealtimeState) (process eventId : ℕ) :
    (state.perform services settings (.crash process)).Processing eventId ↔
      ∃ call ∈ state.calls, call.process ≠ process ∧ ∃ attempt, call.phase.attempt = some attempt ∧
          attempt.val.id = eventId := by
  simp only [Processing, perform, List.mem_filter, decide_eq_true_eq, and_assoc]

theorem delivering_perform_iff (before : RealtimeState)
    (action : RealtimeAction) (delivering : before.Delivering) :
    (before.perform services settings action).Delivering ↔ CrashSpares before action
        (before.perform services settings action) := by
  cases action with
  | wait elapsed => exact iff_of_true delivering trivial
  | request process entry request id random =>
    exact iff_of_true (delivering_request delivering process entry request id random) trivial
  | pass process rank limit =>
    refine iff_of_true ?_ trivial
    apply delivering_of_calls delivering
    · exact fun _ member _ => member
    · exact fun _ member => List.mem_append_left _ member
  | enter index =>
    refine iff_of_true (withCall_of delivering ?_) trivial
    exact fun call found => delivering_enter delivering found
  | publish index outcome =>
    refine iff_of_true (withCall_of delivering ?_) trivial
    exact fun call found => delivering_publish delivering found outcome
  | push index outcome =>
    refine iff_of_true (withCall_of delivering ?_) trivial
    exact fun call found => delivering_push delivering found outcome
  | settle index =>
    refine iff_of_true (withCall_of delivering ?_) trivial
    exact fun call found => delivering_settle delivering found
  | crash process =>
    apply forall_congr'
    intro event
    apply imp_congr_right
    intro member
    apply imp_congr_right
    intro publishing
    exact processing_crash before process event.id
  | listen sent =>
    refine iff_of_true ?_ trivial
    unfold perform listen
    dsimp only
    split <;> exact delivering
  | connect => exact iff_of_true delivering trivial
  | disconnect => exact iff_of_true delivering trivial
  | page limit =>
    refine iff_of_true ?_ trivial
    unfold perform page
    dsimp only
    split <;> exact delivering

/-- A run from an empty table drops no event exactly when no crash takes the
last call that delivers an event under way. -/
theorem run_noEventDropped_iff (clock : ℕ) (client : RealtimeClient)
    (actions : List RealtimeAction) : EveryStep (Performs services settings)
        (fun _ _ after => after.NoEventDropped) { clock := clock, client := client } actions ↔
      EveryStep (Performs services settings) CrashSpares
        { clock := clock, client := client } actions := by
  have initial : ({ clock := clock, client := client } : RealtimeState).Delivering := by
    intro event member
    cases member
  have step : ∀ before action after, before.Delivering →
      Performs services settings before action after →
        (after.Delivering ↔ CrashSpares before action after) := by
    intro before action after delivering performs
    rw [performs]
    exact delivering_perform_iff before action delivering
  simp only [noEventDropped_iff]
  exact EveryStep.iff_of_invariant initial step

def paymentRequest : EventRequest where
  applicationId := "ithute-pay"
  eventType := "payment.updated"
  version := 1
  priority := .high
  recipients := [7]
  payload := { title := none, body := none, route := none, data := none }
  ttlSeconds := 3600

/-- The request commits `publishing` and its process crashes. -/
def crashedDelivery : List RealtimeAction :=
  [.request 0 .platformPublishEvent paymentRequest 1 1, .enter 0]

/-- The event stays in `publishing` for good. -/
theorem crashedDelivery_dropsEvent : ¬ EveryStep (Performs keylessServices {})
      (fun _ _ after => after.NoEventDropped)
      { client := { applicationId := "ithute-pay", authUserId := 7 } }
      (crashedDelivery ++ [.crash 0]) := by
  intro kept
  have run := Run.of_foldl (fun state action => perform keylessServices {} state action)
    crashedDelivery { client := { applicationId := "ithute-pay", authUserId := 7 } }
  have final := kept crashedDelivery (.crash 0) [] _ _ rfl run rfl
  have delivering := (noEventDropped_iff _).mp final
  obtain ⟨call, member, -⟩ := delivering _ (List.mem_singleton_self _) rfl
  cases member

end RealtimeState

end Ithute
