import Ithute.RealtimeEvents

/-!
# Runs of Realtime

The event table, the delivery calls under way, the hub and one client.  Any
process may take the next step or crash between two of its steps.
-/

namespace Ithute

open KeysetPaging TransitionRuns

/-- How far a call of `deliver_event` has got, with the row it holds. -/
inductive DeliveryPhase where
  | loaded (event : RealtimeEvent)
  | publishing (event : PublishingEvent) (startedAt : ℕ)
  | pushing (event : PublishingEvent) (startedAt : ℕ) (remaining : List ℕ)
  | failed (event : PublishingEvent) (error : String)

/-- A delivery call of a process, and the rows that its pass has loaded and
delivers next. -/
structure DeliveryCall where
  process : ℕ
  phase : DeliveryPhase
  waiting : List RealtimeEvent

namespace DeliveryPhase

def attempt : DeliveryPhase → Option PublishingEvent
  | .loaded _ => none
  | .publishing event _ => some event
  | .pushing event _ _ => some event
  | .failed event _ => some event

def row? : DeliveryPhase → Option RealtimeEvent
  | .loaded event => some event
  | _ => none

theorem mem_row? {phase : DeliveryPhase} {event : RealtimeEvent} :
    event ∈ phase.row? ↔ phase = .loaded event := by
  cases phase <;> simp [row?]

end DeliveryPhase

namespace DeliveryCall

def pass (process : ℕ) : List RealtimeEvent → List DeliveryCall
  | [] => []
  | event :: waiting => [{ process := process, phase := .loaded event, waiting := waiting }]

def advance (call : DeliveryCall) (phase : DeliveryPhase) : List DeliveryCall :=
  [{ call with phase := phase }]

def next (call : DeliveryCall) : List DeliveryCall := pass call.process call.waiting

end DeliveryCall

/-- A client's paging through `replay_events`. -/
structure ReplayPaging where
  position : WithBot EventCursor
  returned : List ℕ

structure RealtimeClient where
  applicationId : String
  authUserId : ℕ
  connected : Bool := false
  /-- The cursors of the events that have reached the client. -/
  received : List EventCursor := []
  /-- The events published during its last disconnection. -/
  missed : List ℕ := []
  paging : Option ReplayPaging := none

structure RealtimeState where
  clock : ℕ := 0
  events : List RealtimeEvent := []
  calls : List DeliveryCall := []
  /-- Everything that was published to the hub. -/
  publications : List EventWire := []
  /-- How many publications the client's replica has heard. -/
  heard : ℕ := 0
  pushes : List PushMessage := []
  client : RealtimeClient

/-- The endpoints that queue an event deliver it unless it waits. -/
inductive QueueEntry where
  | platformPublishEvent | emitMessageEvent

def QueueEntry.delivers : QueueEntry → EventStatus → Bool
  | .platformPublishEvent, status => status ∈ [.queued]
  | .emitMessageEvent, status => status ∈ [.queued, .retry]

/-- An exception may come after the message went out. -/
inductive NetworkOutcome where
  | succeeds
  | fails (sent : Bool) (error : String)

def NetworkOutcome.sent : NetworkOutcome → Bool
  | .succeeds => true
  | .fails sent _ => sent

/-- `none` is a recipient who is online. -/
abbrev PushOutcome := Option NetworkOutcome

inductive RealtimeAction where
  | wait (elapsed : ℕ)
  | request (process : ℕ) (entry : QueueEntry) (request : EventRequest) (id random : ℕ)
  | pass (process : ℕ) (rank : ℕ → ℕ) (limit : ℕ)
  | enter (call : ℕ)
  | publish (call : ℕ) (outcome : NetworkOutcome)
  | push (call : ℕ) (outcome : PushOutcome)
  | settle (call : ℕ)
  | crash (process : ℕ)
  | listen (sent : Bool)
  | connect
  | disconnect
  | page (limit : ℕ+)

namespace DeliveryPhase

def published (event : PublishingEvent) (startedAt : ℕ) : NetworkOutcome → DeliveryPhase
  | .succeeds =>
    .pushing event startedAt (if event.val.pushEnabled then event.val.recipients else [])
  | .fails _ error => .failed event error

def pushed (event : PublishingEvent) (startedAt : ℕ) (remaining : List ℕ) :
    PushOutcome → DeliveryPhase
  | some (.fails _ error) => .failed event error
  | _ => .pushing event startedAt remaining

@[simp]
theorem attempt_published (event : PublishingEvent) (startedAt : ℕ) (outcome : NetworkOutcome) :
    (published event startedAt outcome).attempt = some event := by
  cases outcome <;> rfl

@[simp]
theorem attempt_pushed (event : PublishingEvent) (startedAt : ℕ)
    (remaining : List ℕ) (outcome : PushOutcome) :
    (pushed event startedAt remaining outcome).attempt = some event := by
  rcases outcome with _ | _ | _ <;> rfl

end DeliveryPhase

namespace RealtimeClient

variable (client : RealtimeClient)

/-- The hub sends a publication to the connections of its audience. -/
def targeted (wire : EventWire) : Bool :=
  decide (wire.applicationId = client.applicationId) &&
    (wire.broadcastConnected || decide (client.authUserId ∈ wire.recipients))

def addressed (event : RealtimeEvent) : Bool :=
  decide (event.applicationId = client.applicationId) &&
    decide (client.authUserId ∈ event.recipients)

def miss (eventId : ℕ) : RealtimeClient :=
  if client.connected then client
  else { client with missed := client.missed ++ [eventId] }

/-- The client reconnects with the greatest cursor it has received. -/
def connect : RealtimeClient :=
  if client.connected then client
  else
    { client with
      connected := true
      paging := some { position := client.received.maximum, returned := [] } }

def disconnect : RealtimeClient :=
  if client.connected then
    { client with connected := false, missed := [], paging := none }
  else client

/-- A publication reaches the client, or the connection is given up. -/
def receive (wire : EventWire) (sent : Bool) : RealtimeClient :=
  if client.connected && client.targeted wire then
    if sent then { client with received := client.received ++ [wire.cursor] }
    else client.disconnect
  else client

def turnPage (paging : ReplayPaging) (page : List RealtimeEvent) : RealtimeClient :=
  { client with
    received := client.received ++ page.map RealtimeEvent.cursor
    paging :=
      if page.isEmpty then none
      else
        some
          { position :=
              nextPosition RealtimeEvent.cursor paging.position page
            returned := paging.returned ++ page.map RealtimeEvent.id } }

end RealtimeClient

namespace RealtimeState

variable (state : RealtimeState)

def replaceCall (index : ℕ) (calls : List DeliveryCall) : RealtimeState :=
  { state with calls := state.calls.eraseIdx index ++ calls }

def commit (loaded changed : RealtimeEvent) : RealtimeState :=
  { state with events := commitEvent loaded changed state.events }

/-- A live call of `deliver_event` processes the event. -/
def Processing (eventId : ℕ) : Prop :=
  ∃ call ∈ state.calls, ∃ event, call.phase.attempt = some event ∧ event.val.id = eventId

def replayPage (paging : ReplayPaging) (limit : ℕ) : List RealtimeEvent :=
  replayEvents state.events state.client.applicationId
    state.client.authUserId paging.position limit state.clock

end RealtimeState

namespace RealtimeState

variable (services : RealtimeServices) (settings : RealtimeSettings)

def request (state : RealtimeState) (process : ℕ) (entry : QueueEntry)
    (request : EventRequest) (id random : ℕ) : RealtimeState :=
  match queueEvent services settings state.events request state.clock id random with
  | .error _ => state
  | .ok (events, event) =>
    { state with
      events := events
      calls :=
        if entry.delivers event.status then
          state.calls ++ DeliveryCall.pass process [event]
        else state.calls }

def enter (state : RealtimeState) (index : ℕ) (call : DeliveryCall) : RealtimeState :=
  match call.phase with
  | .loaded event =>
    match event.enter state.clock with
    | .returned changed => (state.commit event changed).replaceCall index call.next
    | .publishing changed =>
      (state.commit event changed).replaceCall index
        (call.advance (.publishing changed state.clock))
  | _ => state

def publish (state : RealtimeState) (index : ℕ) (call : DeliveryCall)
    (outcome : NetworkOutcome) : RealtimeState :=
  match call.phase with
  | .publishing event startedAt =>
    let advanced := state.replaceCall index (call.advance (.published event startedAt outcome))
    if outcome.sent then
      { advanced with
        publications := state.publications ++ [event.val.wire]
        client := state.client.miss event.val.id }
    else advanced
  | _ => state

/-- The push for the next recipient, unless Push is switched off. -/
def push (state : RealtimeState) (index : ℕ) (call : DeliveryCall)
    (outcome : PushOutcome) : RealtimeState :=
  match call.phase with
  | .pushing event startedAt (recipient :: remaining) =>
    let advanced := state.replaceCall index
      (call.advance (.pushed event startedAt remaining outcome))
    if settings.pushEnabled && outcome.any NetworkOutcome.sent then
      { advanced with
        pushes := state.pushes ++ [event.val.push startedAt recipient] }
    else advanced
  | _ => state

def settle (state : RealtimeState) (index : ℕ) (call : DeliveryCall) : RealtimeState :=
  match call.phase with
  | .pushing event _ [] =>
    (state.commit event (event.val.settleDelivered state.clock)).replaceCall index call.next
  | .failed event error =>
    (state.commit event (event.val.settleFailed settings error state.clock)).replaceCall
        index call.next
  | _ => state

def withCall (state : RealtimeState) (index : ℕ)
    (step : DeliveryCall → RealtimeState) : RealtimeState :=
  match state.calls[index]? with
  | none => state
  | some call => step call

def listen (state : RealtimeState) (sent : Bool) : RealtimeState :=
  match state.publications[state.heard]? with
  | none => state
  | some wire =>
    { state with
      heard := state.heard + 1
      client := state.client.receive wire sent }

def page (state : RealtimeState) (limit : ℕ) : RealtimeState :=
  match state.client.paging with
  | none => state
  | some paging =>
    { state with
      client := state.client.turnPage paging (state.replayPage paging limit) }

def perform (state : RealtimeState) : RealtimeAction → RealtimeState
  | .wait elapsed => { state with clock := state.clock + elapsed }
  | .request process entry request id random =>
    state.request services settings process entry request id random
  | .pass process rank limit =>
    { state with
      calls := state.calls ++ DeliveryCall.pass process
        (dueEvents state.events state.clock rank limit) }
  | .enter index => state.withCall index (state.enter index)
  | .publish index outcome => state.withCall index fun call => state.publish index call outcome
  | .push index outcome =>
    state.withCall index fun call => state.push settings index call outcome
  | .settle index => state.withCall index (state.settle settings index)
  | .crash process =>
    { state with
      calls := state.calls.filter fun call => decide (call.process ≠ process) }
  | .listen sent => state.listen sent
  | .connect => { state with client := state.client.connect }
  | .disconnect => { state with client := state.client.disconnect }
  | .page limit => state.page limit

def Performs (before : RealtimeState) (action : RealtimeAction) (after : RealtimeState) : Prop :=
  after = before.perform services settings action

end RealtimeState

namespace RealtimeState

variable {state : RealtimeState} {index : ℕ} {call : DeliveryCall}

theorem withCall_of {holds : RealtimeState → Prop}
    {step : DeliveryCall → RealtimeState} (unchanged : holds state)
    (stepped : ∀ call, state.calls[index]? = some call → holds (step call)) :
    holds (state.withCall index step) := by
  unfold withCall
  cases found : state.calls[index]? with
  | none => exact unchanged
  | some call => exact stepped call found

theorem enter_cases (state : RealtimeState) (index : ℕ) (call : DeliveryCall) :
    state.enter index call = state ∨ (∃ event changed, call.phase = .loaded event ∧
      event.enter state.clock = .returned changed ∧ state.enter index call =
        (state.commit event changed).replaceCall index call.next) ∨
    (∃ event changed, call.phase = .loaded event ∧ event.enter state.clock = .publishing changed ∧
      state.enter index call = (state.commit event changed).replaceCall index
          (call.advance (.publishing changed state.clock))) := by
  unfold enter
  cases phase : call.phase with
  | loaded event =>
    dsimp only
    cases entry : event.enter state.clock with
    | returned changed => exact .inr (.inl ⟨event, changed, rfl, entry, rfl⟩)
    | publishing changed => exact .inr (.inr ⟨event, changed, rfl, entry, rfl⟩)
  | publishing event startedAt => exact .inl rfl
  | pushing event startedAt remaining => exact .inl rfl
  | failed event error => exact .inl rfl

theorem publish_cases (state : RealtimeState) (index : ℕ)
    (call : DeliveryCall) (outcome : NetworkOutcome) : state.publish index call outcome = state ∨
    ∃ event startedAt, call.phase = .publishing event startedAt ∧ ((outcome.sent = true ∧
        state.publish index call outcome = { state.replaceCall index
              (call.advance (.published event startedAt outcome)) with
            publications := state.publications ++ [event.val.wire]
            client := state.client.miss event.val.id }) ∨
      (outcome.sent = false ∧ state.publish index call outcome = state.replaceCall index
            (call.advance (.published event startedAt outcome)))) := by
  cases phase : call.phase with
  | loaded event => exact .inl (by simp only [publish, phase])
  | publishing event startedAt =>
    refine .inr ⟨event, startedAt, rfl, ?_⟩
    cases sent : outcome.sent with
    | true =>
      refine .inl ⟨rfl, ?_⟩
      simp only [publish, phase, sent, if_true]
    | false =>
      refine .inr ⟨rfl, ?_⟩
      simp only [publish, phase, sent]
      rfl
  | pushing event startedAt remaining => exact .inl (by simp only [publish, phase])
  | failed event error => exact .inl (by simp only [publish, phase])

theorem push_cases (settings : RealtimeSettings) (state : RealtimeState)
    (index : ℕ) (call : DeliveryCall) (outcome : PushOutcome) :
    state.push settings index call outcome = state ∨ ∃ event startedAt recipient remaining pushes,
      call.phase = .pushing event startedAt (recipient :: remaining) ∧
      state.push settings index call outcome = { state.replaceCall index
            (call.advance (.pushed event startedAt remaining outcome)) with
          pushes := pushes } := by
  cases phase : call.phase with
  | loaded event => exact .inl (by simp only [push, phase])
  | publishing event startedAt => exact .inl (by simp only [push, phase])
  | pushing event startedAt remaining =>
    cases remaining with
    | nil => exact .inl (by simp only [push, phase])
    | cons recipient remaining =>
      right
      simp only [push, phase]
      split
      · exact ⟨event, startedAt, recipient, remaining, _, rfl, rfl⟩
      · exact ⟨event, startedAt, recipient, remaining, state.pushes, rfl, rfl⟩
  | failed event error => exact .inl (by simp only [push, phase])

theorem settle_cases (settings : RealtimeSettings) (state : RealtimeState)
    (index : ℕ) (call : DeliveryCall) : state.settle settings index call = state ∨
    ∃ event changed, call.phase.attempt = some event ∧
      Settles settings state.clock event.val changed ∧ state.settle settings index call =
        (state.commit event changed).replaceCall index call.next := by
  cases phase : call.phase with
  | loaded event => exact .inl (by simp only [settle, phase])
  | publishing event startedAt => exact .inl (by simp only [settle, phase])
  | pushing event startedAt remaining =>
    cases remaining with
    | nil => exact .inr ⟨event, _, rfl, .inl rfl, by simp only [settle, phase]⟩
    | cons recipient remaining => exact .inl (by simp only [settle, phase])
  | failed event error =>
    exact .inr ⟨event, _, rfl, .inr ⟨error, rfl⟩, by simp only [settle, phase]⟩

variable {calls : List DeliveryCall}

theorem mem_replaceCall_of_ne {other : DeliveryCall} (found : state.calls[index]? = some call)
    (member : other ∈ state.calls) (different : other ≠ call) :
    other ∈ (state.replaceCall index calls).calls := by
  apply List.mem_append_left
  rw [List.mem_eraseIdx_iff_getElem?]
  obtain ⟨position, at_⟩ := List.getElem?_of_mem member
  refine ⟨position, ?_, at_⟩
  rintro rfl
  rw [found] at at_
  exact different (Option.some.inj at_).symm

theorem mem_of_mem_replaceCall {other : DeliveryCall}
    (member : other ∈ (state.replaceCall index calls).calls) :
    other ∈ state.calls ∨ other ∈ calls := by
  rcases List.mem_append.mp member with old | new
  · exact .inl (List.mem_of_mem_eraseIdx old)
  · exact .inr new

theorem processing_replaceCall {eventId : ℕ}
    (found : state.calls[index]? = some call) (kept : ∀ event, call.phase.attempt = some event →
      event.val.id = eventId → ∃ other ∈ calls, other.phase.attempt = some event)
    (processing : state.Processing eventId) :
    (state.replaceCall index calls).Processing eventId := by
  obtain ⟨other, member, event, attempt, same⟩ := processing
  by_cases replaced : other = call
  · rw [replaced] at attempt
    obtain ⟨next, nextMem, nextAttempt⟩ := kept event attempt same
    exact ⟨next, List.mem_append_right _ nextMem, event, nextAttempt, same⟩
  · exact ⟨other, mem_replaceCall_of_ne found member replaced, event, attempt, same⟩

theorem processing_of_replaceCall {eventId : ℕ}
    (processing : (state.replaceCall index calls).Processing eventId) : state.Processing eventId ∨
      ∃ call ∈ calls, ∃ event, call.phase.attempt = some event ∧ event.val.id = eventId := by
  obtain ⟨call, member, attempt⟩ := processing
  rcases mem_of_mem_replaceCall member with old | new
  · exact .inl ⟨call, old, attempt⟩
  · exact .inr ⟨call, new, attempt⟩

end RealtimeState

end Ithute
