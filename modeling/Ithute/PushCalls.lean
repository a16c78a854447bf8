import Ithute.PushTables
import Mathlib.Data.List.Sort

/-!
# Calls of the push service

Requests and passes of the worker run concurrently.  A call is cut at every
statement that reads rows which others may change; a session writes the
columns that it has changed, all at its commit.

The bearer tokens are verified before a call starts.
-/

namespace Ithute.Push

structure PushServices where
  fingerprint : MessageRequest → String
  endpointHash : String → String

structure PushSettings where
  userClients : List String :=
    ["loanhub", "rsl-pos", "mailbox-dns", "ithute-account", "ithute-tutor",
      "ithute-pay", "business-digital-address"]
  maxAttempts : ℕ := 4

def microsPerSecond : ℕ := 1000000

/-- What `apply_auth_event` has read of the row that the event is about. -/
structure LifecycleRead where
  event : AuthLifecycleEventRequest
  subject : LifecycleSubject
  status : Option StatusRow
  revoked : Option RevokedAuthSession

structure Registration where
  principal : UserPrincipal
  request : DeviceRequest
  ciphertext : String

structure QueueRequest where
  request : MessageRequest
  key : Option String

def QueueRequest.keyed (queued : QueueRequest) (row : Message) : Bool :=
  decide (row.sourceClientId = queued.request.sourceClientId ∧ row.idempotencyKey = queued.key)

/-- A pass of the worker: the rows that it has loaded and changed.  The session
loads each message with its status once, and its deliveries once. -/
structure WorkerPass where
  remaining : List Delivery
  settled : List Delivery := []
  sending : Option Delivery := none
  endpoints : List PushEndpoint := []
  messages : List (ℕ × MessageStatus) := []
  collections : List (ℕ × List Delivery) := []
  /-- The endpoints that a provider has called invalid. -/
  invalid : List ℕ := []
  statuses : List (ℕ × MessageStatus) := []

inductive PushCall where
  | eventReceived (event : AuthLifecycleEventRequest) (subject : LifecycleSubject)
  | eventRead (read : LifecycleRead)
  | eventLoaded (read : LifecycleRead) (endpoints : List PushEndpoint)
  | deviceAccount (registration : Registration)
  | deviceApplication (registration : Registration)
  | deviceLive (registration : Registration)
  | deviceFound (registration : Registration) (endpoint : Option PushEndpoint)
  | deviceReady (registration : Registration)
      (endpoint : Option PushEndpoint) (duplicates : List PushEndpoint)
  | messageReceived (queued : QueueRequest)
  | messageChecked (queued : QueueRequest) (userDisabled : Bool)
  | messageSelected (queued : QueueRequest) (endpoints : List PushEndpoint)
  | workerPass (pass : WorkerPass)

structure PushState where
  clock : ℕ := 0
  lifecycleEvents : List AuthLifecycleEventRequest := []
  revokedSessions : ℕ → Option RevokedAuthSession := fun _ => none
  userStates : ℕ → Option StatusRow := fun _ => none
  applicationStates : String → Option StatusRow := fun _ => none
  endpoints : List PushEndpoint := []
  messages : List Message := []
  deliveries : List Delivery := []
  calls : List PushCall := []

inductive PushResponse where
  | refused (status : ℕ) (detail : String)
  | lifecycle (eventId : ℕ) (applied deduplicated : Bool)
  | device (deviceKey applicationId : String) (platform : Platform) (active : Bool) (lastSeenAt : ℕ)
  | message (id : ℕ) (status : MessageStatus) (deliveryCount : ℕ) (deduplicated : Bool)
  | processed (count : ℕ)

inductive PushOutcome where
  | responds (response : PushResponse)
  | continues (call : PushCall)

inductive ProviderOutcome where
  | sent (providerMessageId : Option String)
  | notConfigured (text : String)
  | invalidEndpoint (text : String)
  | permanent (text : String)
  | retryable (text : String)
  | unexpected (typeName : String)

/-- The identifiers that inserts draw, and the answer of a provider. -/
structure StepInput where
  newId : ℕ := 0
  deliveryIds : ℕ → ℕ := id
  outcome : ProviderOutcome := .sent none

namespace PushState

variable (state : PushState)

def refuse (status : ℕ) (detail : String) : PushState × PushOutcome :=
  (state, .responds (.refused status detail))

def continues (call : PushCall) : PushState × PushOutcome := (state, .continues call)

end PushState

def LifecycleSubject.covers : LifecycleSubject → PushEndpoint → Bool
  | .session _ sid _, row => decide (row.authSessionId = some sid)
  | .account sub _, row => decide (row.authUserId = sub)
  | .application clientId _, row => decide (row.applicationId = clientId)

namespace LifecycleRead

variable (read : LifecycleRead)

def applied : Bool :=
  match read.subject with
  | .session _ _ _ =>
    match read.revoked with
    | none => true
    | some row => decide (row.revokedAt ≤ read.event.occurredAt)
  | .account _ _ | .application _ _ =>
    match read.status with
    | none => true
    | some row => decide (row.changedAt ≤ read.event.occurredAt)

/-- A session's endpoints are always loaded, those of an account or of an
application when the event disables it. -/
def loadsEndpoints : Bool :=
  match read.subject with
  | .session _ _ _ => true
  | .account _ active | .application _ active => read.applied && !active

def writeStatus (active : Bool) (stored : Option StatusRow) : Option StatusRow :=
  match read.status with
  | none =>
    some
      { active := active
        changedAt := read.event.occurredAt
        eventId := read.event.eventId }
  | some loaded =>
    if loaded.changedAt ≤ read.event.occurredAt then
      stored.map fun row =>
        { active := changedColumn loaded.active active row.active
          changedAt := changedColumn loaded.changedAt
            read.event.occurredAt row.changedAt
          eventId := changedColumn loaded.eventId read.event.eventId
            row.eventId }
    else stored

def writeRevoked (sub : ℕ) (clientId : String)
    (stored : Option RevokedAuthSession) : Option RevokedAuthSession :=
  match read.revoked with
  | none =>
    some
      { authUserId := sub
        applicationId := clientId
        revokedAt := read.event.occurredAt
        eventId := read.event.eventId }
  | some _ => stored

end LifecycleRead

/-- `endpoint.active = False` for loaded rows: a row that was inactive when it
was loaded is not written. -/
def deactivate (loaded rows : List PushEndpoint) : List PushEndpoint :=
  rows.map fun row =>
    if ∃ endpoint ∈ loaded, endpoint.id = row.id ∧ endpoint.active = true
    then { row with active := false }
    else row

namespace PushState

variable (state : PushState)

def applyAuthEvent (event : AuthLifecycleEventRequest) : PushState × PushOutcome :=
  if ∃ row ∈ state.lifecycleEvents, row.eventId = event.eventId then
    (state, .responds (.lifecycle event.eventId true true))
  else
    match event.subject? with
    | none => state.refuse 500 "Internal Server Error"
    | some subject => state.continues (.eventReceived event subject)

def readSubject (event : AuthLifecycleEventRequest)
    (subject : LifecycleSubject) : LifecycleRead where
  event := event
  subject := subject
  status :=
    match subject with
    | .session _ _ _ => none
    | .account sub _ => state.userStates sub
    | .application clientId _ => state.applicationStates clientId
  revoked :=
    match subject with
    | .session _ sid _ => state.revokedSessions sid
    | _ => none

def loadEndpoints (read : LifecycleRead) : List PushEndpoint :=
  if read.loadsEndpoints then state.endpoints.filter read.subject.covers
  else []

/-- A row that was not found is inserted; the primary key may be taken by
then. -/
def lifecycleClash (read : LifecycleRead) : Bool :=
  decide (∃ row ∈ state.lifecycleEvents, row.eventId = read.event.eventId) ||
    match read.subject with
    | .session _ sid _ => read.revoked.isNone && (state.revokedSessions sid).isSome
    | .account sub _ => read.status.isNone && (state.userStates sub).isSome
    | .application clientId _ => read.status.isNone && (state.applicationStates clientId).isSome

def commitLifecycle (read : LifecycleRead)
    (endpoints : List PushEndpoint) : PushState × PushOutcome :=
  if state.lifecycleClash read then state.refuse 500 "Internal Server Error"
  else
    let recorded :=
      { state with
        lifecycleEvents := state.lifecycleEvents ++ [read.event]
        endpoints := deactivate endpoints state.endpoints }
    let changed :=
      match read.subject with
      | .session sub sid clientId =>
        { recorded with
          revokedSessions := Function.update state.revokedSessions sid
            (read.writeRevoked sub clientId (state.revokedSessions sid)) }
      | .account sub active =>
        { recorded with
          userStates := Function.update state.userStates sub
            (read.writeStatus active (state.userStates sub)) }
      | .application clientId active =>
        { recorded with
          applicationStates := Function.update state.applicationStates
            clientId (read.writeStatus active (state.applicationStates clientId)) }
    (changed, .responds (.lifecycle read.event.eventId read.applied false))

def disabled (row : Option StatusRow) : Bool := row.any fun row => !row.active

def registerDevice (registration : Registration) : PushState × PushOutcome :=
  if disabled (state.userStates registration.principal.sub) then
    state.refuse 401 "central account disabled"
  else state.continues (.deviceAccount registration)

def checkApplication (registration : Registration) : PushState × PushOutcome :=
  if disabled (state.applicationStates registration.principal.clientId) then
    state.refuse 401 "product disabled"
  else state.continues (.deviceApplication registration)

def checkSession (registration : Registration) : PushState × PushOutcome :=
  if (state.revokedSessions registration.principal.sessionId).isSome then
    state.refuse 401 "central session revoked"
  else state.continues (.deviceLive registration)

def findDevice (registration : Registration) : Option PushEndpoint :=
  state.endpoints.find? fun row => decide (row.authUserId = registration.principal.sub ∧
      row.applicationId = registration.principal.clientId ∧
      row.deviceKey = registration.request.deviceKey)

def findDuplicates (services : PushServices) (registration : Registration) : List PushEndpoint :=
  state.endpoints.filter fun row => decide (row.applicationId = registration.principal.clientId ∧
      row.endpointHash = services.endpointHash registration.request.providerEndpoint ∧
      row.active = true)

end PushState

namespace Registration

variable (registration : Registration)

def row (services : PushServices) (newId now : ℕ) : PushEndpoint where
  id := newId
  authUserId := registration.principal.sub
  authSessionId := some registration.principal.sessionId
  applicationId := registration.principal.clientId
  deviceKey := registration.request.deviceKey
  platform := registration.request.platform
  provider := providerFor registration.request.platform
  endpointCiphertext := registration.ciphertext
  endpointHash := services.endpointHash registration.request.providerEndpoint
  lastSeenAt := now

def update (services : PushServices) (now : ℕ) (loaded stored : PushEndpoint) : PushEndpoint :=
  let row := registration.row services loaded.id now
  { stored with
    authSessionId := changedColumn loaded.authSessionId row.authSessionId stored.authSessionId
    platform := changedColumn loaded.platform row.platform stored.platform
    provider := changedColumn loaded.provider row.provider stored.provider
    endpointCiphertext := changedColumn loaded.endpointCiphertext
      row.endpointCiphertext stored.endpointCiphertext
    endpointHash := changedColumn loaded.endpointHash row.endpointHash stored.endpointHash
    active := changedColumn loaded.active true stored.active
    lastSeenAt := changedColumn loaded.lastSeenAt now stored.lastSeenAt }

end Registration

def PushEndpoint.response (row : PushEndpoint) : PushResponse :=
  .device row.deviceKey row.applicationId row.platform row.active row.lastSeenAt

namespace PushState

variable (state : PushState)

def commitDevice (services : PushServices) (registration : Registration)
    (endpoint : Option PushEndpoint) (duplicates : List PushEndpoint)
    (newId : ℕ) : PushState × PushOutcome :=
  match endpoint with
  | none =>
    let row := registration.row services newId state.clock
    if ∃ stored ∈ state.endpoints, stored.id = row.id ∨ (stored.authUserId = row.authUserId ∧
          stored.applicationId = row.applicationId ∧ stored.deviceKey = row.deviceKey) then
      state.refuse 500 "Internal Server Error"
    else
      ({ state with
          endpoints := deactivate duplicates state.endpoints ++ [row] },
        .responds row.response)
  | some loaded =>
    let others := duplicates.filter fun row => decide (row.id ≠ loaded.id)
    let written := (deactivate others state.endpoints).map fun row =>
      if row.id = loaded.id then
        registration.update services state.clock loaded row
      else row
    ({ state with endpoints := written },
      match written.find? fun row => decide (row.id = loaded.id) with
      | some row => .responds row.response
      | none => .responds (.refused 500 "Internal Server Error"))

/-- `existing_message_response`. -/
def existingResponse (services : PushServices) (queued : QueueRequest)
    (existing : Message) : PushOutcome :=
  if existing.requestFingerprint = some (services.fingerprint queued.request) then
    .responds (.message existing.id existing.status (state.deliveries.countP fun row =>
        decide (row.messageId = existing.id)) true)
  else
    .responds (.refused 409 "Idempotency-Key was already used for a different notification")

/-- `clean_idempotency_key`; the inner `none` is a missing key. -/
def cleanKey : Option String → Option (Option String)
  | none => some none
  | some value =>
    let stripped := stripText value
    if stripped = "" ∨ 128 < stripped.length then none
    else some (some stripped)

def requestRefusal? (settings : PushSettings) (request : MessageRequest) : Option (ℕ × String) :=
  if request.delegated then
    if request.sourceClientId ∈ settings.userClients then none
    else some (422, "unapproved target product namespace")
  else if disabled (state.applicationStates request.sourceClientId) then
    some (403, "product disabled")
  else none

def receiveMessage (services : PushServices) (settings : PushSettings)
    (request : MessageRequest) (header : Option String) : PushState × PushOutcome :=
  match state.requestRefusal? settings request with
  | some refusal => state.refuse refusal.1 refusal.2
  | none =>
    match cleanKey header with
    | none => state.refuse 422 "Idempotency-Key must contain 1 to 128 characters"
    | some key =>
      let queued : QueueRequest := { request := request, key := key }
      match key with
      | none => state.continues (.messageReceived queued)
      | some _ =>
        match state.messages.find? queued.keyed with
        | some existing => (state, state.existingResponse services queued existing)
        | none => state.continues (.messageReceived queued)

/-- The endpoints that `queue_message` selects. -/
def liveEndpoints (request : MessageRequest) : List PushEndpoint :=
  state.endpoints.filter fun row => decide (row.authUserId = request.recipientSub ∧
      row.applicationId = request.sourceClientId ∧ row.active = true ∧
      ∃ session ∈ row.authSessionId, (state.revokedSessions session).isSome = false)

/-- The endpoints that `delegated_message` selects. -/
def activeEndpoints (request : MessageRequest) : List PushEndpoint :=
  state.endpoints.filter fun row => decide (row.authUserId = request.recipientSub ∧
      row.applicationId = request.sourceClientId ∧ row.active = true)

def selectEndpoints (queued : QueueRequest) (userDisabled : Bool) : List PushEndpoint :=
  if queued.request.delegated then state.activeEndpoints queued.request
  else if userDisabled then []
  else state.liveEndpoints queued.request

def newMessage (services : PushServices) (queued : QueueRequest)
    (endpoints : List PushEndpoint) (newId : ℕ) : Message where
  id := newId
  sourceClientId := queued.request.sourceClientId
  recipientUserId := queued.request.recipientSub
  idempotencyKey := queued.key
  requestFingerprint := queued.key.map fun _ => services.fingerprint queued.request
  notification := queued.request.notification
  status := if endpoints = [] then .noEndpoints else .queued
  expiresAt := state.clock + queued.request.ttlSeconds * microsPerSecond

def newDeliveries (endpoints : List PushEndpoint) (messageId : ℕ)
    (deliveryIds : ℕ → ℕ) : List Delivery :=
  endpoints.zipIdx.map fun entry =>
    { id := deliveryIds entry.2
      messageId := messageId
      endpointId := entry.1.id
      nextAttemptAt := state.clock }

def commitMessage (services : PushServices) (queued : QueueRequest)
    (endpoints : List PushEndpoint) (newId : ℕ) (deliveryIds : ℕ → ℕ) : PushState × PushOutcome :=
  let message := state.newMessage services queued endpoints newId
  let deliveries := state.newDeliveries endpoints newId deliveryIds
  if ∃ row ∈ state.messages, row.id = newId ∨ (row.sourceClientId = message.sourceClientId ∧
        row.idempotencyKey = message.idempotencyKey ∧ row.idempotencyKey ≠ none) then
    match queued.key with
    | none => state.refuse 500 "Internal Server Error"
    | some _ =>
      match state.messages.find? queued.keyed with
      | none => state.refuse 500 "Internal Server Error"
      | some existing => (state, state.existingResponse services queued existing)
  else if (deliveries.map Delivery.id).Nodup ∧
      ∀ row ∈ state.deliveries, row.id ∉ deliveries.map Delivery.id then
    ({ state with
        messages := state.messages ++ [message]
        deliveries := state.deliveries ++ deliveries },
      .responds (.message newId message.status endpoints.length false))
  else state.refuse 500 "Internal Server Error"

end PushState

/-- `str(exc)[:500]`. -/
def errorText (text : String) : String := String.ofList (text.toList.take 500)

def backoffSeconds : List ℕ := [60, 300, 1800, 7200]

def Delivery.answered (settings : PushSettings) (item : Delivery) (now : ℕ) :
    ProviderOutcome → Delivery
  | .sent providerMessageId =>
    { item with
      status := .delivered
      providerMessageId := providerMessageId
      deliveredAt := some now
      lastError := none }
  | .notConfigured text =>
    { item with
      status := .configurationError
      lastError := some (errorText text) }
  | .invalidEndpoint text | .permanent text =>
    { item with status := .failed, lastError := some (errorText text) }
  | .retryable text =>
    let failed := { item with lastError := some (errorText text) }
    if settings.maxAttempts ≤ item.attempts then
      { failed with status := .failed }
    else
      { failed with
        status := .retry
        nextAttemptAt := now + microsPerSecond *
          backoffSeconds.getD (min (item.attempts - 1) 3) 7200 }
  | .unexpected typeName =>
    let failed :=
      { item with
        lastError := some (errorText ("unexpected provider failure: " ++ typeName)) }
    if settings.maxAttempts ≤ item.attempts then
      { failed with status := .failed }
    else
      { failed with
        status := .retry
        nextAttemptAt := now + microsPerSecond * 60 }

namespace WorkerPass

variable (pass : WorkerPass)

def rows : List Delivery := pass.settled ++ pass.sending.toList ++ pass.remaining

def view (row : Delivery) : Delivery :=
  (pass.rows.find? fun changed => decide (changed.id = row.id)).getD row

/-- `message.deliveries`, which is read where the session has not loaded it. -/
def collection (deliveries : List Delivery) (messageId : ℕ) : List Delivery :=
  match pass.collections.find? fun entry => decide (entry.1 = messageId) with
  | some entry => entry.2
  | none => deliveries.filter fun row => decide (row.messageId = messageId)

def settle (deliveries : List Delivery) (item : Delivery) : WorkerPass :=
  let collection := pass.collection deliveries item.messageId
  let settled :=
    { pass with
      settled := pass.settled ++ [item]
      sending := none
      collections := (item.messageId, collection) :: pass.collections }
  let status := messageStatus (collection.map fun row => (settled.view row).status)
  { settled with
    statuses := (item.messageId, status) :: pass.statuses }

def knows (messageId : ℕ) : Bool := pass.messages.any fun entry => entry.1 = messageId

/-- The status of a message after the commit, which writes it where it differs
from the one that the session has loaded. -/
def newStatus (message : Message) : MessageStatus :=
  match pass.statuses.find? fun entry => decide (entry.1 = message.id),
      pass.messages.find? fun entry => decide (entry.1 = message.id) with
  | some refreshed, some loaded => changedColumn loaded.2 refreshed.2 message.status
  | _, _ => message.status

end WorkerPass

namespace PushState

variable (state : PushState)

def locked : List ℕ :=
  state.calls.flatMap fun call =>
    match call with
    | .workerPass pass => pass.rows.map Delivery.id
    | _ => []

/-- The rows that `run_once` loads.  The ranks order rows with equal times,
which the query leaves open. -/
def dueDeliveries (rank : ℕ → ℕ) : List Delivery :=
  let due := state.deliveries.filter fun row => decide
    ((row.status = .queued ∨ row.status = .retry) ∧
      row.nextAttemptAt ≤ state.clock ∧ row.id ∉ state.locked)
  (due.insertionSort fun first second =>
    first.nextAttemptAt < second.nextAttemptAt ∨ (first.nextAttemptAt = second.nextAttemptAt ∧
        rank first.id ≤ rank second.id)).take 20

def runOnce (rank : ℕ → ℕ) : PushState × PushOutcome :=
  match state.dueDeliveries rank with
  | [] => (state, .responds (.processed 0))
  | due => state.continues (.workerPass { remaining := due })

def loadEndpoint (pass : WorkerPass) (endpointId : ℕ) : Option PushEndpoint :=
  match pass.endpoints.find? fun row => decide (row.id = endpointId) with
  | some row => some row
  | none => state.endpoints.find? fun row => decide (row.id = endpointId)

def takeDelivery (pass : WorkerPass) (item : Delivery)
    (rest : List Delivery) : PushState × PushOutcome :=
  match state.messages.find? fun row => decide (row.id = item.messageId),
      state.loadEndpoint pass item.endpointId with
  | some message, some endpoint =>
    let known :=
      { pass with
        remaining := rest
        endpoints :=
          if endpoint ∈ pass.endpoints then pass.endpoints
          else pass.endpoints ++ [endpoint]
        messages :=
          if pass.knows message.id then pass.messages
          else pass.messages ++ [(message.id, message.status)] }
    if message.expiresAt ≤ state.clock then
      state.continues (.workerPass (known.settle state.deliveries { item with status := .expired }))
    else if endpoint.active = false ∨ endpoint.id ∈ pass.invalid then
      state.continues (.workerPass (known.settle state.deliveries { item with
          status := .failed
          lastError := some "endpoint inactive" }))
    else
      state.continues (.workerPass { known with
          sending := some { item with attempts := item.attempts + 1 } })
  | _, _ => state.refuse 500 "Internal Server Error"

def answerDelivery (settings : PushSettings) (pass : WorkerPass)
    (item : Delivery) (outcome : ProviderOutcome) : PushState × PushOutcome :=
  let answered := pass.settle state.deliveries (item.answered settings state.clock outcome)
  match outcome with
  | .invalidEndpoint _ =>
    state.continues (.workerPass { answered with invalid := item.endpointId :: pass.invalid })
  | _ => state.continues (.workerPass answered)

def commitPass (pass : WorkerPass) : PushState × PushOutcome :=
  ({ state with
      deliveries := state.deliveries.map pass.view
      endpoints := deactivate (pass.endpoints.filter fun row => decide (row.id ∈ pass.invalid))
        state.endpoints
      messages := state.messages.map fun row => { row with status := pass.newStatus row } },
    .responds (.processed pass.settled.length))

def advancePass (settings : PushSettings) (pass : WorkerPass)
    (outcome : ProviderOutcome) : PushState × PushOutcome :=
  match pass.sending, pass.remaining with
  | some item, _ => state.answerDelivery settings pass item outcome
  | none, item :: rest => state.takeDelivery pass item rest
  | none, [] => state.commitPass pass

def advance (services : PushServices) (settings : PushSettings)
    (input : StepInput) : PushCall → PushState × PushOutcome
  | .eventReceived event subject => state.continues (.eventRead (state.readSubject event subject))
  | .eventRead read => state.continues (.eventLoaded read (state.loadEndpoints read))
  | .eventLoaded read endpoints => state.commitLifecycle read endpoints
  | .deviceAccount registration => state.checkApplication registration
  | .deviceApplication registration => state.checkSession registration
  | .deviceLive registration =>
    state.continues (.deviceFound registration (state.findDevice registration))
  | .deviceFound registration endpoint =>
    state.continues (.deviceReady registration endpoint
      (state.findDuplicates services registration))
  | .deviceReady registration endpoint duplicates =>
    state.commitDevice services registration endpoint duplicates input.newId
  | .messageReceived queued =>
    state.continues (.messageChecked queued
      (disabled (state.userStates queued.request.recipientSub)))
  | .messageChecked queued userDisabled =>
    state.continues (.messageSelected queued (state.selectEndpoints queued userDisabled))
  | .messageSelected queued endpoints =>
    state.commitMessage services queued endpoints input.newId input.deliveryIds
  | .workerPass pass => state.advancePass settings pass input.outcome

end PushState

inductive PushAction where
  | wait (elapsed : ℕ)
  | applyAuthEvent (event : AuthLifecycleEventRequest)
  | registerDevice (registration : Registration)
  /-- Either queueing endpoint, with its key header. -/
  | queueMessage (request : MessageRequest) (header : Option String)
  | runOnce (rank : ℕ → ℕ)
  | advance (call : ℕ) (input : StepInput)
  | crash (call : ℕ)

namespace PushState

def resume (result : PushState × PushOutcome) : PushState × Option PushResponse :=
  match result.2 with
  | .responds response => (result.1, some response)
  | .continues call => ({ result.1 with calls := result.1.calls ++ [call] }, none)

def dropCall (state : PushState) (index : ℕ) : PushState :=
  { state with calls := state.calls.eraseIdx index }

def perform (services : PushServices) (settings : PushSettings)
    (state : PushState) : PushAction → PushState × Option PushResponse
  | .wait elapsed => ({ state with clock := state.clock + elapsed }, none)
  | .applyAuthEvent event => resume (state.applyAuthEvent event)
  | .registerDevice registration => resume (state.registerDevice registration)
  | .queueMessage request header => resume (state.receiveMessage services settings request header)
  | .runOnce rank => resume (state.runOnce rank)
  | .advance index input =>
    match state.calls[index]? with
    | some call =>
      resume ((state.dropCall index).advance services settings input call)
    | none => (state, none)
  | .crash index => (state.dropCall index, none)

def Performs (services : PushServices) (settings : PushSettings)
    (before : PushState) (action : PushAction) (after : PushState) : Prop :=
  after = (before.perform services settings action).1

end PushState

end Ithute.Push
