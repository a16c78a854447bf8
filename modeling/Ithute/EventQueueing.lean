import Ithute.CanonicalJson
import Ithute.RealtimeEvents

/-!
# Queueing events at the same time

A call of `queue_event` is cut between its statements.  An insert keeps its
key until its commit, so that other inserts of the key wait and then fail:
the flush and its commit are one step.
-/

namespace Ithute.EventQueue

open TransitionRuns

/-- The arguments of `queue_event`.  Users are given by the texts of their
UUIDs. -/
structure QueueRequest where
  applicationId : String
  sourceClientId : String
  eventType : String
  version : ℤ
  priority : String
  recipients : List String
  payload : List (String × JsonDocument)
  ttlSeconds : ℕ
  deliverAt : Option RequestedTime := none
  pushEnabled : Bool := false
  broadcastConnected : Bool := false
  audienceLabel : Option String := none
  idempotencyKey : Option String := none

/-- A row of `realtime_events` with its recipients. -/
structure EventRow where
  id : ℕ
  cursor : EventCursor
  applicationId : String
  sourceClientId : String
  eventType : String
  version : ℤ
  priority : String
  audienceLabel : Option String
  idempotencyKey : Option String
  requestFingerprint : Option String
  payloadJson : List Char
  broadcastConnected : Bool
  pushEnabled : Bool
  status : EventStatus
  maxAttempts : ℕ
  deliverAt : ℕ
  expiresAt : ℕ
  recipients : List String

def EventRow.SharesKey (first second : EventRow) : Prop :=
  first.applicationId = second.applicationId ∧ first.idempotencyKey = second.idempotencyKey ∧
    first.idempotencyKey ≠ none

instance (first second : EventRow) : Decidable (first.SharesKey second) :=
  inferInstanceAs (Decidable (_ ∧ _))

/-- The digest of a text, and the microseconds that the floating-point
timestamp of a time gives. -/
structure QueueServices where
  digest : List Char → String
  cursorMicros : ℕ → ℕ

namespace QueueRequest

variable (services : QueueServices) (settings : RealtimeSettings) (request : QueueRequest)

/-- What `_fingerprint` is given, with the keys in the order that it sorts them
into. -/
def fingerprintPayload : JsonDocument :=
  .object
    [("application_id", .text request.applicationId),
      ("audience_label", .ofText request.audienceLabel),
      ("broadcast_connected", .ofBool request.broadcastConnected),
      ("deliver_at", .ofText (request.deliverAt.map RequestedTime.isoformat)),
      ("event_type", .text request.eventType),
      ("payload", (JsonDocument.object request.payload).sortKeys),
      ("priority", .text request.priority),
      ("push_enabled", .ofBool request.pushEnabled),
      ("recipients", .array ((request.recipients.insertionSort (· ≤ ·)).map .text)),
      ("ttl_seconds", .ofInt request.ttlSeconds),
      ("version", .ofInt request.version)]

def fingerprint : String := services.digest request.fingerprintPayload.dumps

def event (now id random : ℕ) : EventRow :=
  let scheduled := (request.deliverAt.map RequestedTime.instant).getD now
  { id := id
    cursor := toLex (services.cursorMicros now, random)
    applicationId := request.applicationId
    sourceClientId := request.sourceClientId
    eventType := request.eventType
    version := request.version
    priority := request.priority
    audienceLabel := request.audienceLabel
    idempotencyKey := request.idempotencyKey
    requestFingerprint :=
      (presentText request.idempotencyKey).map fun _ => request.fingerprint services
    payloadJson := (JsonDocument.object request.payload).dumps
    broadcastConnected := request.broadcastConnected
    pushEnabled := request.pushEnabled
    status := if now < scheduled then .scheduled else .queued
    maxAttempts := settings.eventMaxAttempts
    deliverAt := scheduled
    expiresAt := scheduled + request.ttlSeconds * microsPerSecond
    recipients := request.recipients.eraseDups }

/-- The requests ask for the same event, whatever the order of the recipients
and of the entries of objects. -/
structure SameContent (first second : QueueRequest) : Prop where
  applicationId : first.applicationId = second.applicationId
  eventType : first.eventType = second.eventType
  version : first.version = second.version
  priority : first.priority = second.priority
  recipients : first.recipients.Perm second.recipients
  payload : (JsonDocument.object first.payload).sortKeys =
    (JsonDocument.object second.payload).sortKeys
  ttlSeconds : first.ttlSeconds = second.ttlSeconds
  deliverAt : first.deliverAt.map RequestedTime.isoformat =
    second.deliverAt.map RequestedTime.isoformat
  pushEnabled : first.pushEnabled = second.pushEnabled
  broadcastConnected : first.broadcastConnected = second.broadcastConnected
  audienceLabel : first.audienceLabel = second.audienceLabel

/-- The texts that `_fingerprint` digests are those of the contents. -/
theorem dumps_eq_iff {first second : QueueRequest} :
    first.fingerprintPayload.dumps = second.fingerprintPayload.dumps ↔ SameContent first second := by
  constructor
  · intro same
    have payloads := JsonDocument.dumps_injective same
    simp only [fingerprintPayload, JsonDocument.object.injEq, List.cons.injEq, Prod.mk.injEq,
      JsonDocument.text.injEq, JsonDocument.array.injEq, true_and, and_true] at payloads
    obtain ⟨application, label, broadcast, deliver, type, payload, priority, push, recipients, ttl,
      version⟩ := payloads
    have sorted := List.map_injective_iff.mpr (fun _ _ => JsonDocument.text.inj) recipients
    refine ⟨application, type, JsonDocument.ofInt_injective version, priority, ?_, payload,
      Int.ofNat.inj (JsonDocument.ofInt_injective ttl), JsonDocument.ofText_injective deliver,
      JsonDocument.ofBool_injective push, JsonDocument.ofBool_injective broadcast,
      JsonDocument.ofText_injective label⟩
    exact (List.perm_insertionSort _ _).symm.trans
      (sorted ▸ List.perm_insertionSort _ second.recipients)
  · intro same
    have perm := (List.perm_insertionSort (· ≤ ·) first.recipients).trans
      (same.recipients.trans (List.perm_insertionSort (· ≤ ·) second.recipients).symm)
    have sorted := perm.eq_of_sortedLE List.sortedLE_insertionSort List.sortedLE_insertionSort
    unfold fingerprintPayload
    rw [sorted, same.applicationId, same.eventType, same.version, same.priority, same.payload,
      same.ttlSeconds, same.deliverAt, same.pushEnabled, same.broadcastConnected,
      same.audienceLabel]

end QueueRequest

def existingIdempotentEvent (events : List EventRow) (applicationId key fingerprint : String) :
    Except QueueError (Option EventRow) :=
  match events.find? fun event => decide (event.applicationId = applicationId ∧
        event.idempotencyKey = some key) with
  | none => .ok none
  | some existing =>
    if existing.requestFingerprint = some fingerprint then .ok (some existing)
    else .error .conflict

def QueueRequest.existing (services : QueueServices) (request : QueueRequest)
    (events : List EventRow) : Except QueueError (Option EventRow) :=
  match presentText request.idempotencyKey with
  | none => .ok none
  | some key =>
    existingIdempotentEvent events request.applicationId key (request.fingerprint services)

inductive CallPhase where
  | received
  | missed
  | failed
  | stored (event : EventRow)

structure QueueCall where
  request : QueueRequest
  now : ℕ
  phase : CallPhase := .received
  written : List EventRow := []

structure FinishedCall where
  request : QueueRequest
  result : Except QueueError EventRow
  written : List EventRow

structure QueueState where
  events : List EventRow := []
  calls : List QueueCall := []
  requests : List QueueRequest := []
  finished : List FinishedCall := []

inductive CallOutcome where
  | continues (phase : CallPhase)
  | finishes (result : Except QueueError EventRow)

inductive QueueAction where
  | queueEvent (request : QueueRequest) (now : ℕ)
  | advance (index id random : ℕ)
  | crash (index : ℕ)

namespace QueueState

variable (services : QueueServices) (settings : RealtimeSettings) (state : QueueState)

/-- The next statement of a call, with the row that it commits.  `uuid4` draws
no value twice. -/
def statement (call : QueueCall) (id random : ℕ) : Option EventRow × CallOutcome :=
  match call.phase with
  | .received =>
    if settings.maxEventRecipients < call.request.recipients.length then
      (none, .finishes (.error .recipientLimit))
    else
      match call.request.existing services state.events with
      | .error error => (none, .finishes (.error error))
      | .ok (some event) => (none, .finishes (.ok event))
      | .ok none => (none, .continues .missed)
  | .missed =>
    let event := call.request.event services settings call.now id random
    if ∃ row ∈ state.events, row.id = id ∨ row.cursor = event.cursor then (none, .continues .missed)
    else if ∃ row ∈ state.events, row.SharesKey event then (none, .continues .failed)
    else (some event, .continues (.stored event))
  | .failed =>
    match call.request.existing services state.events with
    | .error error => (none, .finishes (.error error))
    | .ok (some event) => (none, .finishes (.ok event))
    | .ok none => (none, .finishes (.error .integrity))
  | .stored event => (none, .finishes (.ok event))

def advance (call : QueueCall) (id random : ℕ) : QueueState :=
  let result := state.statement services settings call id random
  let written := call.written ++ result.1.toList
  let after := { state with events := state.events ++ result.1.toList }
  match result.2 with
  | .continues phase =>
    { after with calls := state.calls ++ [{ call with phase := phase, written := written }] }
  | .finishes result =>
    { after with finished := state.finished ++ [⟨call.request, result, written⟩] }

def perform : QueueAction → QueueState
  | .queueEvent request now =>
    { state with
      calls := state.calls ++ [{ request := request, now := now }]
      requests := state.requests ++ [request] }
  | .advance index id random =>
    match state.calls[index]? with
    | none => state
    | some call =>
      { state with calls := state.calls.eraseIdx index }.advance services settings call id random
  | .crash index => { state with calls := state.calls.eraseIdx index }

def Performs (before : QueueState) (action : QueueAction) (after : QueueState) : Prop :=
  after = before.perform services settings action

variable {services settings state}

def MadeFor (services : QueueServices) (settings : RealtimeSettings) (event : EventRow)
    (request : QueueRequest) : Prop :=
  ∃ now id random, event = request.event services settings now id random

def Keyed (event : EventRow) (request : QueueRequest) : Prop :=
  event.applicationId = request.applicationId ∧ event.idempotencyKey = request.idempotencyKey

/-- A call under way has committed the row that it is about to return, if any. -/
def PhaseSound (services : QueueServices) (settings : RealtimeSettings) (state : QueueState)
    (call : QueueCall) : Prop :=
  match call.phase with
  | .received | .missed => call.written = []
  | .failed => call.written = [] ∧ ∃ row ∈ state.events, Keyed row call.request
  | .stored event => event ∈ state.events ∧ MadeFor services settings event call.request

def Settled (services : QueueServices) (settings : RealtimeSettings) (state : QueueState)
    (call : FinishedCall) : Prop :=
  presentText call.request.idempotencyKey ≠ none →
    call.request.recipients.length ≤ settings.maxEventRecipients →
      ∃ event ∈ state.events, Keyed event call.request ∧
        if event.requestFingerprint = some (call.request.fingerprint services) then
          call.result = .ok event
        else call.result = .error .conflict ∧ call.written = []

structure Sound (services : QueueServices) (settings : RealtimeSettings) (state : QueueState) :
    Prop where
  keys : state.events.Pairwise fun first second => ¬ first.SharesKey second
  calls : ∀ call ∈ state.calls, call.request ∈ state.requests ∧
    PhaseSound services settings state call
  events : ∀ event ∈ state.events, ∃ first ∈ state.requests, MadeFor services settings event first
  finished : ∀ call ∈ state.finished, call.request ∈ state.requests ∧
    Settled services settings state call

theorem presentText_ne_none {text : Option String} (present : presentText text ≠ none) :
    ∃ key, text = some key ∧ presentText text = some key := by
  obtain ⟨key, isKey⟩ := Option.ne_none_iff_exists'.mp present
  exact ⟨key, (Option.filter_eq_some_iff.mp isKey).1, isKey⟩

theorem existing_cases {request : QueueRequest} (present : presentText request.idempotencyKey ≠ none) :
    ((∀ row ∈ state.events, ¬ Keyed row request) ∧ request.existing services state.events = .ok none) ∨
      ∃ event ∈ state.events, Keyed event request ∧ request.existing services state.events =
        if event.requestFingerprint = some (request.fingerprint services) then .ok (some event)
        else .error .conflict := by
  obtain ⟨key, isKey, isPresent⟩ := presentText_ne_none present
  unfold QueueRequest.existing existingIdempotentEvent Keyed
  rw [isPresent, isKey]
  dsimp only
  split
  · rename_i none
    refine .inl ⟨fun row member keyed => ?_, rfl⟩
    exact List.find?_eq_none.mp none row member (decide_eq_true keyed)
  · rename_i event found
    have keyed := List.find?_some found
    exact .inr ⟨event, List.mem_of_find?_eq_some found, of_decide_eq_true keyed, rfl⟩

theorem settled_of_existing {request : QueueRequest} {result : Except QueueError EventRow}
    (found : request.existing services state.events = result.map some) :
    Settled services settings state ⟨request, result, []⟩ := by
  intro present _
  rcases existing_cases present with ⟨-, missed⟩ | ⟨event, member, keyed, looked⟩
  · rw [missed] at found
    cases result <;> cases found
  · refine ⟨event, member, keyed, ?_⟩
    rw [looked] at found
    split_ifs at found ⊢
    · cases result with
      | error error => cases found
      | ok existing =>
        cases found
        rfl
    · cases result <;> cases found
      exact ⟨rfl, rfl⟩

theorem PhaseSound.grow {after : QueueState} {call : QueueCall}
    (sound : PhaseSound services settings state call)
    (events : ∀ event ∈ state.events, event ∈ after.events) :
    PhaseSound services settings after call := by
  obtain ⟨request, now, phase, written⟩ := call
  unfold PhaseSound at sound ⊢
  cases phase with
  | received => exact sound
  | missed => exact sound
  | failed =>
    obtain ⟨isNone, row, member, keyed⟩ := sound
    exact ⟨isNone, row, events row member, keyed⟩
  | stored event => exact ⟨events event sound.1, sound.2⟩

theorem Settled.grow {after : QueueState} {call : FinishedCall}
    (settled : Settled services settings state call)
    (events : ∀ event ∈ state.events, event ∈ after.events) :
    Settled services settings after call := by
  intro present within
  obtain ⟨event, member, rest⟩ := settled present within
  exact ⟨event, events event member, rest⟩

/-- What a statement leaves: the row that it commits is the first with its key,
and the call is as its phase says. -/
theorem statement_spec {call : QueueCall} {after : QueueState} (id random : ℕ)
    (sound : PhaseSound services settings state call)
    (events : after.events = state.events ++
      (state.statement services settings call id random).1.toList) :
    (∀ event ∈ (state.statement services settings call id random).1,
        MadeFor services settings event call.request ∧
          ∀ row ∈ state.events, ¬ row.SharesKey event) ∧
      match (state.statement services settings call id random).2 with
      | .continues phase => PhaseSound services settings after
          { call with
            phase := phase
            written := call.written ++
              (state.statement services settings call id random).1.toList }
      | .finishes result => Settled services settings after ⟨call.request, result,
          call.written ++ (state.statement services settings call id random).1.toList⟩ := by
  obtain ⟨request, now, phase, written⟩ := call
  have kept : ∀ event ∈ state.events, event ∈ after.events := by
    intro event member
    rw [events]
    exact List.mem_append_left _ member
  -- a call that has written nothing and looks up the key
  have looks {result : Except QueueError EventRow} (isNone : written = [])
      (found : request.existing services state.events = result.map some) :
      Settled services settings after ⟨request, result, written ++ []⟩ := by
    rw [isNone]
    exact (settled_of_existing found).grow kept
  have idle {p : EventRow → Prop} : ∀ event ∈ (none : Option EventRow), p event := by
    rintro event ⟨⟩
  unfold PhaseSound at sound
  unfold statement at events ⊢
  cases phase with
  | received =>
    dsimp only at events ⊢
    split_ifs with limit
    · exact ⟨idle, fun _ within => absurd within (Nat.not_le.mpr limit)⟩
    · cases found : request.existing services state.events with
      | error error => exact ⟨idle, @looks (.error error) sound found⟩
      | ok existing =>
        cases existing with
        | none => exact ⟨idle, (List.append_nil _).trans sound⟩
        | some event => exact ⟨idle, @looks (.ok event) sound found⟩
  | missed =>
    dsimp only at events ⊢
    have nothing : written ++ [] = [] := (List.append_nil _).trans sound
    split_ifs at events ⊢ with drawn clash
    · exact ⟨idle, nothing⟩
    · obtain ⟨row, member, shares⟩ := clash
      exact ⟨idle, nothing, row, kept row member, shares.1, shares.2.1⟩
    · refine ⟨?_, ?_, _, _, _, rfl⟩
      · rintro event ⟨⟩
        exact ⟨⟨_, _, _, rfl⟩, fun row member shares => clash ⟨row, member, shares⟩⟩
      · rw [events]
        exact List.mem_append_right _ List.mem_cons_self
  | failed =>
    obtain ⟨isNone, row, member, keyed⟩ := sound
    dsimp only at events ⊢
    cases found : request.existing services state.events with
    | error error => exact ⟨idle, @looks (.error error) isNone found⟩
    | ok existing =>
      cases existing with
      | some event => exact ⟨idle, @looks (.ok event) isNone found⟩
      | none =>
        refine ⟨idle, fun present _ => ?_⟩
        rcases @existing_cases services state request present with
          ⟨absent, -⟩ | ⟨event, -, -, looked⟩
        · exact absurd keyed (absent row member)
        · rw [found] at looked
          split_ifs at looked
          cases looked
  | stored event =>
    obtain ⟨member, madeAt, drawn, lot, made⟩ := sound
    refine ⟨idle, fun present _ => ?_⟩
    obtain ⟨key, -, isPresent⟩ := presentText_ne_none present
    refine ⟨event, kept event member, made ▸ ⟨rfl, rfl⟩, ?_⟩
    rw [if_pos]
    rw [made, QueueRequest.event]
    dsimp only
    rw [isPresent]
    rfl

theorem Sound.join {call : QueueCall} (sound : Sound services settings state)
    (request : call.request ∈ state.requests) (phase : PhaseSound services settings state call) :
    Sound services settings { state with calls := state.calls ++ [call] } := by
  refine ⟨sound.keys, fun other member => ?_, sound.events, sound.finished⟩
  rcases List.mem_append.mp member with old | new
  · exact sound.calls other old
  · rw [List.mem_singleton.mp new]
    exact ⟨request, phase⟩

theorem Sound.drop (sound : Sound services settings state) (index : ℕ) :
    Sound services settings { state with calls := state.calls.eraseIdx index } :=
  ⟨sound.keys, fun call member => sound.calls call (List.mem_of_mem_eraseIdx member), sound.events,
    sound.finished⟩

theorem Sound.commit {committed : Option EventRow} (sound : Sound services settings state)
    (made : ∀ event ∈ committed, ∃ first ∈ state.requests, MadeFor services settings event first)
    (fresh : ∀ event ∈ committed, ∀ row ∈ state.events, ¬ row.SharesKey event) :
    Sound services settings { state with events := state.events ++ committed.toList } := by
  refine ⟨?_, fun call member => ?_, fun row member => ?_, fun done member => ?_⟩
  · rw [List.pairwise_append]
    refine ⟨sound.keys, ?_, fun row member event isEvent =>
      fresh event (Option.mem_toList.mp isEvent) row member⟩
    cases committed with
    | none => exact List.Pairwise.nil
    | some event => exact List.pairwise_singleton _ _
  · obtain ⟨isRequest, phase⟩ := sound.calls call member
    exact ⟨isRequest, phase.grow fun row rowMem => List.mem_append_left _ rowMem⟩
  · rcases List.mem_append.mp member with old | new
    · exact sound.events row old
    · exact made row (Option.mem_toList.mp new)
  · obtain ⟨doneRequest, settled⟩ := sound.finished done member
    exact ⟨doneRequest, settled.grow fun row rowMem => List.mem_append_left _ rowMem⟩

theorem Sound.advance {call : QueueCall} (sound : Sound services settings state)
    (isRequest : call.request ∈ state.requests) (phase : PhaseSound services settings state call)
    (id random : ℕ) : Sound services settings (state.advance services settings call id random) := by
  obtain ⟨first, left⟩ := @statement_spec services settings state call
    { state with
      events := state.events ++ (state.statement services settings call id random).1.toList }
    id random phase rfl
  have wrote := sound.commit
    (fun event isEvent => ⟨call.request, isRequest, (first event isEvent).1⟩)
    fun event isEvent => (first event isEvent).2
  unfold QueueState.advance
  dsimp only
  cases outcome : (state.statement services settings call id random).2 with
  | continues next =>
    rw [outcome] at left
    exact @Sound.join _ _ _ { call with phase := next, written := _ } wrote isRequest left
  | finishes result =>
    rw [outcome] at left
    refine ⟨wrote.keys, wrote.calls, wrote.events, fun done member => ?_⟩
    rcases List.mem_append.mp member with old | new
    · exact wrote.finished done old
    · rw [List.mem_singleton.mp new]
      exact ⟨isRequest, left⟩

theorem Sound.perform (sound : Sound services settings state) (action : QueueAction) :
    Sound services settings (state.perform services settings action) := by
  cases action with
  | queueEvent request now =>
    have grown : Sound services settings { state with requests := state.requests ++ [request] } := by
      refine ⟨sound.keys, fun call member => ?_, fun event member => ?_, fun done member => ?_⟩
      · obtain ⟨isRequest, phase⟩ := sound.calls call member
        exact ⟨List.mem_append_left _ isRequest, phase⟩
      · obtain ⟨first, firstMem, made⟩ := sound.events event member
        exact ⟨first, List.mem_append_left _ firstMem, made⟩
      · obtain ⟨doneRequest, settled⟩ := sound.finished done member
        exact ⟨List.mem_append_left _ doneRequest, settled⟩
    exact grown.join (List.mem_append_right _ List.mem_cons_self) rfl
  | crash index => exact sound.drop index
  | advance index id random =>
    unfold QueueState.perform
    dsimp only
    cases found : state.calls[index]? with
    | none => exact sound
    | some call =>
      obtain ⟨isRequest, phase⟩ := sound.calls call (List.mem_of_getElem? found)
      exact (sound.drop index).advance isRequest phase id random

/-- In every run a key has at most one row, and each call that finishes with a
key and an admitted number of recipients returns that row if its request has
the same content, and otherwise raises a conflict and has written nothing. -/
theorem run_idempotent {actions : List QueueAction}
    (run : Run (Performs services settings) {} actions state)
    (collisionFree : ∀ first ∈ state.requests, ∀ second ∈ state.requests,
      first.fingerprint services = second.fingerprint services →
        first.fingerprintPayload.dumps = second.fingerprintPayload.dumps) :
    (state.events.Pairwise fun first second => ¬ first.SharesKey second) ∧
      ∀ call ∈ state.finished, presentText call.request.idempotencyKey ≠ none →
        call.request.recipients.length ≤ settings.maxEventRecipients →
          ∃ event ∈ state.events, ∃ first ∈ state.requests, Keyed event call.request ∧
            MadeFor services settings event first ∧
            (QueueRequest.SameContent first call.request → call.result = .ok event) ∧
            (¬ QueueRequest.SameContent first call.request →
              call.result = .error .conflict ∧ call.written = []) := by
  have start : Sound services settings {} := by
    refine ⟨List.Pairwise.nil, ?_, ?_, ?_⟩
    all_goals exact fun _ member => absurd member List.not_mem_nil
  have sound : Sound services settings state := by
    refine run.invariant start fun before action after sound performs => ?_
    rw [show after = _ from performs]
    exact sound.perform action
  refine ⟨sound.keys, fun call member present within => ?_⟩
  obtain ⟨isRequest, settled⟩ := sound.finished call member
  obtain ⟨event, eventMem, keyed, result⟩ := settled present within
  obtain ⟨first, firstMem, made⟩ := sound.events event eventMem
  -- the fingerprint of the row is that of the request that it was made for
  have stored : event.requestFingerprint = some (first.fingerprint services) := by
    obtain ⟨key, -, isPresent⟩ := presentText_ne_none present
    obtain ⟨now, id, random, made⟩ := made
    have sameKey : first.idempotencyKey = call.request.idempotencyKey := by
      rw [← keyed.2, made]
      rfl
    rw [made, QueueRequest.event]
    dsimp only
    rw [sameKey, isPresent]
    rfl
  rw [stored] at result
  refine ⟨event, eventMem, first, firstMem, keyed, made, fun same => ?_, fun other => ?_⟩
  · have prints : first.fingerprint services = call.request.fingerprint services :=
      congrArg services.digest (QueueRequest.dumps_eq_iff.mpr same)
    rwa [if_pos (congrArg some prints)] at result
  · rwa [if_neg fun same => other (QueueRequest.dumps_eq_iff.mp
      (collisionFree first firstMem _ isRequest (Option.some.inj same)))] at result

end QueueState

def orderPaid (recipients : List String) : QueueRequest where
  applicationId := "shop"
  sourceClientId := "shop"
  eventType := "order.paid"
  version := 1
  priority := "normal"
  recipients := recipients
  payload := []
  ttlSeconds := 3600
  idempotencyKey := some "order-7"

def plainServices : QueueServices where
  digest := String.ofList
  cursorMicros := id

namespace QueueState

def reached (settings : RealtimeSettings) (actions : List QueueAction) : QueueState :=
  actions.foldl (fun before action => before.perform plainServices settings action) {}

def inTurn (request : QueueRequest) : List QueueAction :=
  [.queueEvent request 0, .advance 0 0 0, .advance 0 1 1, .advance 0 0 0]

def unkeyed : QueueRequest := { orderPaid ["ann"] with idempotencyKey := some "" }

/-- Two calls both find no row, and a third asks for something else. -/
def racing : List QueueAction :=
  [.queueEvent (orderPaid ["ann", "bob"]) 0, .queueEvent (orderPaid ["bob", "ann"]) 0,
    .advance 0 0 0, .advance 0 0 0, .advance 0 1 1, .advance 0 2 2, .advance 0 0 0,
    .advance 0 0 0, .queueEvent (orderPaid ["ann"]) 0, .advance 0 0 0]

theorem run_idempotent_racing :
    (reached {} racing).events.Pairwise fun first second => ¬ first.SharesKey second :=
  (run_idempotent (Run.of_foldl (fun before action =>
      QueueState.perform plainServices {} before action) racing {})
    fun _ _ _ _ same => String.ofList_injective same).1

/-- The number of recipients is checked before the key is looked up, and an
empty key is not looked up. -/
theorem unchecked_keys :
    (∃ call ∈ (reached { maxEventRecipients := 1 } (inTurn (orderPaid ["ann"]) ++
          [.queueEvent (orderPaid ["ann", "bob"]) 0, .advance 0 0 0])).finished,
        call.request = orderPaid ["ann", "bob"] ∧ call.result = .error .recipientLimit) ∧
      (¬ QueueRequest.SameContent (orderPaid ["ann"]) (orderPaid ["ann", "bob"])) ∧
      ∃ call ∈ (reached {} (inTurn unkeyed ++ [.queueEvent unkeyed 0, .advance 0 0 0,
          .advance 0 2 2, .advance 0 0 0])).finished,
        call.request = unkeyed ∧ call.result = .error .integrity := by
  refine ⟨⟨_, List.mem_append_right _ List.mem_cons_self, rfl, rfl⟩, fun same => ?_,
    ⟨_, List.mem_append_right _ List.mem_cons_self, rfl, rfl⟩⟩
  exact absurd same.recipients.length_eq (by decide)

end QueueState

end Ithute.EventQueue
