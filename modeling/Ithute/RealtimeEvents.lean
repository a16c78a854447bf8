import Ithute.Library.KeysetPaging
import Ithute.Library.TransitionRuns
import Ithute.RealtimeMessages
import Mathlib.Data.List.MinMax
import Mathlib.Data.PNat.Basic
import Mathlib.Data.Prod.Lex

/-!
# Realtime events

Products queue events in a table.  `deliver_event` publishes an event to the
hub and delegates a push for each recipient who is offline; the worker
delivers the events that are due, and a client replays what it missed.

A call of `deliver_event` is cut where it commits or waits.  The session
keeps the rows it has loaded, and a commit writes the columns that changed
since.  Times are microseconds, and identifiers are numbers.
-/

namespace Ithute

open KeysetPaging

inductive EventStatus where
  | queued | scheduled | publishing | retry | delivered | expired | deadLetter
  deriving DecidableEq

/-- The parts of `f"{micros:020d}-{uuid4().hex}"`.  They have fixed widths,
so the texts are ordered like the pairs. -/
abbrev EventCursor := ℕ ×ₗ ℕ

structure ChatPart where
  conversationId : ℕ
  message : MessageOut

/-- The payload that both callers of `queue_event` build. -/
structure EventPayload where
  title : Option String
  body : Option String
  route : Option String
  data : Option JsonObject
  chat : Option ChatPart := none

structure RealtimeEvent where
  id : ℕ
  cursor : EventCursor
  applicationId : String
  eventType : String
  version : ℕ
  priority : EventPriority
  audienceLabel : Option String
  idempotencyKey : Option String
  requestFingerprint : Option String
  payload : EventPayload
  broadcastConnected : Bool
  pushEnabled : Bool
  status : EventStatus
  attempts : ℕ := 0
  maxAttempts : ℕ
  lastError : Option String := none
  deliverAt : ℕ
  expiresAt : ℕ
  deliveredAt : Option ℕ := none
  createdAt : ℕ
  recipients : List ℕ

structure RealtimeSettings where
  maxEventRecipients : ℕ := 5000
  eventMaxAttempts : ℕ := 5
  eventRetrySeconds : ℕ := 10
  pushEnabled : Bool := true

/-- A time asked for, and the text `isoformat` makes of it. -/
structure RequestedTime where
  instant : ℕ
  isoformat : String

/-- What `queue_event` takes the fingerprint of. -/
structure EventContent where
  applicationId : String
  eventType : String
  version : ℕ
  priority : EventPriority
  recipients : List ℕ
  payload : EventPayload
  ttlSeconds : ℕ
  deliverAt : Option String
  pushEnabled : Bool
  broadcastConnected : Bool
  audienceLabel : Option String

/-- The arguments of `queue_event`. -/
structure EventRequest where
  applicationId : String
  eventType : String
  version : ℕ
  priority : EventPriority
  recipients : List ℕ
  payload : EventPayload
  ttlSeconds : ℕ
  deliverAt : Option RequestedTime := none
  pushEnabled : Bool := false
  broadcastConnected : Bool := false
  audienceLabel : Option String := none
  idempotencyKey : Option String := none

/-- The digest of the canonical JSON text, and the microseconds that the
floating-point timestamp of a time gives. -/
structure RealtimeServices where
  fingerprint : EventContent → String
  cursorMicros : ℕ → ℕ

def keylessServices : RealtimeServices where
  fingerprint := fun _ => ""
  cursorMicros := id

def microsPerSecond : ℕ := 1000000

inductive QueueError where
  | recipientLimit | conflict | integrity

/-- The text of the exceptions that `queue_event` raises itself. -/
def QueueError.message : QueueError → Option String
  | .recipientLimit => some "event recipient limit exceeded"
  | .conflict => some "Idempotency-Key was already used for a different event"
  | .integrity => none

namespace EventRequest

variable (request : EventRequest)

def content : EventContent where
  applicationId := request.applicationId
  eventType := request.eventType
  version := request.version
  priority := request.priority
  recipients := request.recipients.insertionSort (· ≤ ·)
  payload := request.payload
  ttlSeconds := request.ttlSeconds
  deliverAt := request.deliverAt.map RequestedTime.isoformat
  pushEnabled := request.pushEnabled
  broadcastConnected := request.broadcastConnected
  audienceLabel := request.audienceLabel

/-- The row of a new event.  An empty key is stored but never looked up. -/
def event (services : RealtimeServices) (settings : RealtimeSettings)
    (now id random : ℕ) : RealtimeEvent :=
  let scheduled := (request.deliverAt.map RequestedTime.instant).getD now
  { id := id
    cursor := toLex (services.cursorMicros now, random)
    applicationId := request.applicationId
    eventType := request.eventType
    version := request.version
    priority := request.priority
    audienceLabel := request.audienceLabel
    idempotencyKey := request.idempotencyKey
    requestFingerprint :=
      (presentText request.idempotencyKey).map fun _ => services.fingerprint request.content
    payload := request.payload
    broadcastConnected := request.broadcastConnected
    pushEnabled := request.pushEnabled
    status := if now < scheduled then .scheduled else .queued
    maxAttempts := settings.eventMaxAttempts
    deliverAt := scheduled
    expiresAt := scheduled + request.ttlSeconds * microsPerSecond
    createdAt := now
    recipients := request.recipients.eraseDups }

end EventRequest

def existingIdempotentEvent (events : List RealtimeEvent) (applicationId key fingerprint : String) :
    Except QueueError (Option RealtimeEvent) :=
  match events.find? fun event => decide (event.applicationId = applicationId ∧
        event.idempotencyKey = some key) with
  | none => .ok none
  | some existing =>
    if existing.requestFingerprint = some fingerprint then
      .ok (some existing)
    else .error .conflict

def RealtimeEvent.Clashes (first second : RealtimeEvent) : Prop :=
  first.id = second.id ∨ first.cursor = second.cursor ∨
    (first.applicationId = second.applicationId ∧ first.idempotencyKey = second.idempotencyKey ∧
      first.idempotencyKey ≠ none)

instance (first second : RealtimeEvent) : Decidable (first.Clashes second) :=
  inferInstanceAs (Decidable (_ ∨ _ ∨ _))

/-- `none` is the `IntegrityError` of a unique column. -/
def insertEvent (events : List RealtimeEvent) (event : RealtimeEvent) :
    Option (List RealtimeEvent) :=
  if ∃ existing ∈ events, existing.Clashes event then none
  else some (events ++ [event])

section Queueing

variable (services : RealtimeServices) (settings : RealtimeSettings)

def EventRequest.existing (request : EventRequest) (events : List RealtimeEvent) :
    Except QueueError (Option RealtimeEvent) :=
  match presentText request.idempotencyKey with
  | none => .ok none
  | some key =>
    existingIdempotentEvent events request.applicationId key (services.fingerprint request.content)

def queueEvent (events : List RealtimeEvent) (request : EventRequest) (now id random : ℕ) :
    Except QueueError (List RealtimeEvent × RealtimeEvent) :=
  if settings.maxEventRecipients < request.recipients.length then
    .error .recipientLimit
  else
    match request.existing services events with
    | .error error => .error error
    | .ok (some event) => .ok (events, event)
    | .ok none =>
      let event := request.event services settings now id random
      match insertEvent events event with
      | some events => .ok (events, event)
      -- the lookup is made again once the insert has failed
      | none =>
        match request.existing services events with
        | .error error => .error error
        | .ok (some event) => .ok (events, event)
        | .ok none => .error .integrity

theorem mem_of_existing {services : RealtimeServices}
    {request : EventRequest} {events : List RealtimeEvent} {event : RealtimeEvent}
    (found : request.existing services events = .ok (some event)) : event ∈ events := by
  unfold EventRequest.existing at found
  split at found
  · cases found
  · unfold existingIdempotentEvent at found
    split at found
    · cases found
    · rename_i existing first
      split at found
      · cases found
        exact List.mem_of_find?_eq_some first
      · cases found

theorem queueEvent_cases {services : RealtimeServices}
    {settings : RealtimeSettings} {events following : List RealtimeEvent}
    {request : EventRequest} {now id random : ℕ} {event : RealtimeEvent}
    (queued : queueEvent services settings events request now id random = .ok (following, event)) :
    (following = events ∧ request.existing services events = .ok (some event)) ∨
    (following = events ++ [event] ∧ event = request.event services settings now id random ∧
      ∀ existing ∈ events, ¬ existing.Clashes event) := by
  unfold queueEvent at queued
  split at queued
  · cases queued
  · cases found : request.existing services events with
    | error error => simp [found] at queued
    | ok existing =>
      cases existing with
      | some existing =>
        simp only [found, Except.ok.injEq, Prod.mk.injEq] at queued
        obtain ⟨rfl, rfl⟩ := queued
        exact .inl ⟨rfl, rfl⟩
      | none =>
        simp only [found, insertEvent] at queued
        split_ifs at queued with clashes
        simp only [Except.ok.injEq, Prod.mk.injEq] at queued
        obtain ⟨rfl, rfl⟩ := queued
        refine .inr ⟨rfl, rfl, ?_⟩
        intro existing member clash
        exact clashes ⟨existing, member, clash⟩

end Queueing

/-- `event_wire`.  The fields of the protocol hide payload fields of the same
names. -/
structure EventWire where
  payload : EventPayload
  eventType : String
  version : ℕ
  eventId : ℕ
  cursor : EventCursor
  applicationId : String
  priority : EventPriority
  audienceLabel : Option String
  recipients : List ℕ
  broadcastConnected : Bool
  createdAt : ℕ
  expiresAt : ℕ

/-- A request of the push bridge, with the parts of its key and the fields
that it adds to the data of the event. -/
structure PushMessage where
  sourceClientId : String
  eventId : ℕ
  recipientSub : ℕ
  title : String
  body : String
  route : Option String
  data : JsonObject
  eventType : String
  priority : EventPriority
  ttlSeconds : ℕ

namespace RealtimeEvent

variable (event : RealtimeEvent)

def wire : EventWire where
  payload := event.payload
  eventType := event.eventType
  version := event.version
  eventId := event.id
  cursor := event.cursor
  applicationId := event.applicationId
  priority := event.priority
  audienceLabel := event.audienceLabel
  recipients := event.recipients
  broadcastConnected := event.broadcastConnected
  createdAt := event.createdAt
  expiresAt := event.expiresAt

end RealtimeEvent

/-- `max(60, min(ttl_seconds, 604800))`. -/
def clampTtlSeconds (ttlSeconds : ℕ) : ℕ := max 60 (min ttlSeconds 604800)

/-- The request that `notify_event` sends.  The three fields of the event
replace data entries of the same names. -/
def notifyEvent (sourceClientId : String) (recipientSub eventId : ℕ)
    (eventType title body : String) (route : Option String)
    (data : JsonObject) (ttlSeconds : ℕ) (priority : EventPriority) : PushMessage where
  sourceClientId := sourceClientId
  eventId := eventId
  recipientSub := recipientSub
  title := String.ofList (title.toList.take 160)
  body := String.ofList (body.toList.take 500)
  route := route
  data := data.filter fun entry => decide (entry.1 ∉ ["type", "event_id", "priority"])
  eventType := eventType
  priority := priority
  ttlSeconds := clampTtlSeconds ttlSeconds

/-- The push for a recipient of an attempt that started at a time. -/
def RealtimeEvent.push (event : RealtimeEvent) (startedAt recipientSub : ℕ) : PushMessage :=
  notifyEvent event.applicationId recipientSub event.id event.eventType
    ((presentText event.payload.title).getD "Ithute notification")
    ((presentText event.payload.body).getD "You have a new update")
    event.payload.route (event.payload.data.getD [])
    (max 60 ((event.expiresAt - startedAt) / microsPerSecond)) event.priority

/-- The in-memory row of an attempt under way. -/
abbrev PublishingEvent := { event : RealtimeEvent // event.status = .publishing }

/-- How `deliver_event` gets as far as its first commit. -/
inductive DeliveryEntry where
  | returned (event : RealtimeEvent)
  | publishing (event : PublishingEvent)

namespace RealtimeEvent

variable (event : RealtimeEvent)

def enter (now : ℕ) : DeliveryEntry :=
  if event.expiresAt ≤ now then
    .returned { event with
        status := .expired
        lastError := some "event TTL expired before delivery" }
  else if now < event.deliverAt then
    .returned { event with status := .scheduled }
  else
    .publishing ⟨{ event with status := .publishing, attempts := event.attempts + 1 }, rfl⟩

def settleDelivered (now : ℕ) : RealtimeEvent :=
  { event with
    status := .delivered
    deliveredAt := some now
    lastError := none }

def settleFailed (settings : RealtimeSettings) (error : String) (now : ℕ) : RealtimeEvent :=
  let failed := { event with lastError := some (String.ofList (error.toList.take 1000)) }
  if event.maxAttempts ≤ event.attempts then
    { failed with status := .deadLetter }
  else
    { failed with
      status := .retry
      deliverAt := now + settings.eventRetrySeconds * event.attempts * microsPerSecond }

end RealtimeEvent

variable {event changed : RealtimeEvent} {now : ℕ}

theorem RealtimeEvent.enter_returned
    (entry : event.enter now = .returned changed) : changed.id = event.id ∧
      ((changed.status = .expired ∧ event.expiresAt ≤ now) ∨
        (changed.status = .scheduled ∧ now < event.deliverAt)) := by
  unfold RealtimeEvent.enter at entry
  split_ifs at entry with expired early
  · cases entry
    exact ⟨rfl, .inl ⟨rfl, expired⟩⟩
  · cases entry
    exact ⟨rfl, .inr ⟨rfl, early⟩⟩

theorem RealtimeEvent.enter_returned_attempts (entry : event.enter now = .returned changed) :
    changed.attempts = event.attempts := by
  unfold RealtimeEvent.enter at entry
  split_ifs at entry <;> · cases entry; rfl

theorem RealtimeEvent.enter_publishing {changed : PublishingEvent}
    (entry : event.enter now = .publishing changed) : changed.val =
        { event with status := .publishing, attempts := event.attempts + 1 } ∧
      now < event.expiresAt ∧ event.deliverAt ≤ now := by
  unfold RealtimeEvent.enter at entry
  split_ifs at entry with expired early
  cases entry
  exact ⟨rfl, by omega, by omega⟩

def Settles (settings : RealtimeSettings) (now : ℕ) (event changed : RealtimeEvent) : Prop :=
  changed = event.settleDelivered now ∨ ∃ error, changed = event.settleFailed settings error now

variable {settings : RealtimeSettings}

theorem Settles.result (settles : Settles settings now event changed) : changed.id = event.id ∧
      (changed.status = .delivered ∨ (changed.status = .deadLetter ∧
          event.maxAttempts ≤ event.attempts) ∨
        (changed.status = .retry ∧ event.attempts < event.maxAttempts)) := by
  rcases settles with rfl | ⟨error, rfl⟩
  · exact ⟨rfl, .inl rfl⟩
  · unfold RealtimeEvent.settleFailed
    dsimp only
    split
    · rename_i last
      exact ⟨rfl, .inr (.inl ⟨rfl, last⟩)⟩
    · rename_i more
      exact ⟨rfl, .inr (.inr ⟨rfl, by omega⟩)⟩

theorem Settles.attempts
    (settles : Settles settings now event changed) : changed.attempts = event.attempts := by
  rcases settles with rfl | ⟨error, rfl⟩
  · rfl
  · unfold RealtimeEvent.settleFailed
    dsimp only
    split <;> rfl

theorem Settles.status_ne
    (settles : Settles settings now event changed) : changed.status ≠ .publishing := by
  rcases settles.result.2 with status | ⟨status, -⟩ | ⟨status, -⟩ <;>
    simp [status]

/-- The stored row after a commit of the changed row of a session. -/
def RealtimeEvent.withChanges (loaded changed stored : RealtimeEvent) : RealtimeEvent :=
  { stored with
    status := changedColumn loaded.status changed.status stored.status
    attempts := changedColumn loaded.attempts changed.attempts stored.attempts
    lastError := changedColumn loaded.lastError changed.lastError stored.lastError
    deliverAt := changedColumn loaded.deliverAt changed.deliverAt stored.deliverAt
    deliveredAt :=
      changedColumn loaded.deliveredAt changed.deliveredAt stored.deliveredAt }

def commitEvent (loaded changed : RealtimeEvent)
    (events : List RealtimeEvent) : List RealtimeEvent :=
  events.map fun stored =>
    if stored.id = changed.id then loaded.withChanges changed stored
    else stored

theorem commitEvent_map {α : Type*} (column : RealtimeEvent → α)
    (kept : ∀ loaded changed stored : RealtimeEvent,
      column (loaded.withChanges changed stored) = column stored)
    (loaded changed : RealtimeEvent) (events : List RealtimeEvent) :
    (commitEvent loaded changed events).map column = events.map column := by
  unfold commitEvent
  rw [List.map_map]
  apply List.map_congr_left
  intro stored _
  by_cases same : stored.id = changed.id <;> simp [same, kept]

theorem withChanges_status (loaded changed stored : RealtimeEvent) :
    (loaded.withChanges changed stored).status = changed.status ∨
      (loaded.withChanges changed stored).status = stored.status := by
  unfold RealtimeEvent.withChanges changedColumn
  dsimp only
  split
  · exact .inr rfl
  · exact .inl rfl

theorem withChanges_status_of_ne {loaded : RealtimeEvent}
    (different : changed.status ≠ loaded.status) (stored : RealtimeEvent) :
    (loaded.withChanges changed stored).status = changed.status :=
  if_neg different

theorem mem_commitEvent {loaded row : RealtimeEvent} {events : List RealtimeEvent} :
    row ∈ commitEvent loaded changed events ↔ ∃ stored ∈ events,
        (stored.id = changed.id ∧ row = loaded.withChanges changed stored) ∨
          (stored.id ≠ changed.id ∧ row = stored) := by
  unfold commitEvent
  rw [List.mem_map]
  apply exists_congr
  intro stored
  apply and_congr_right
  intro _
  by_cases same : stored.id = changed.id <;> simp [same, eq_comm]

def EventStatus.selectable (status : EventStatus) : Bool := status ∈ [.queued, .scheduled, .retry]

def EventStatus.replayable (status : EventStatus) : Bool :=
  status ∈ [.delivered, .publishing, .retry]

/-- The rows that `process_due_events` loads.  The ranks order rows with
equal times, which the query leaves open. -/
def dueEvents (events : List RealtimeEvent) (now : ℕ) (rank : ℕ → ℕ)
    (limit : ℕ) : List RealtimeEvent :=
  let due := events.filter fun event => event.status.selectable && decide (event.deliverAt ≤ now)
  (due.insertionSort fun first second =>
    toLex (first.deliverAt, rank first.id) ≤ toLex (second.deliverAt, rank second.id)).take limit

/-- The rows that `replay_events` reads for a user. -/
def replayRows (events : List RealtimeEvent) (applicationId : String)
    (authUserId now : ℕ) : List RealtimeEvent :=
  events.filter fun event => decide
    (event.applicationId = applicationId ∧ authUserId ∈ event.recipients ∧
      now < event.expiresAt ∧ event.status.replayable = true)

/-- `replay_events`; the bottom position is a missing `after`. -/
def replayEvents (events : List RealtimeEvent) (applicationId : String)
    (authUserId : ℕ) (after : WithBot EventCursor) (limit now : ℕ) : List RealtimeEvent :=
  pageAfter RealtimeEvent.cursor after limit (replayRows events applicationId authUserId now)

end Ithute
