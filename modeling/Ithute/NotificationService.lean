import Ithute.CanonicalJson
import Ithute.Library.InterleavedCalls
import Ithute.PythonValues

/-!
# The notification service

A request of a client becomes a notification with a delivery for each of its
channels.  Workers take the deliveries that are due, hand them to the
providers, and derive the status of a notification from those of its
deliveries.

The statements of a call see what is committed when each of them runs.  Its
writes are seen when it commits, and its row locks last until then.
-/

namespace Ithute

open InterleavedCalls

namespace Notifications

inductive Channel where
  | push
  | email
  | sms

def Channel.text : Channel → String
  | .push => "push"
  | .email => "email"
  | .sms => "sms"

inductive DeliveryStatus where
  | pending
  | retry
  | processing
  | delivered
  | failed
  deriving DecidableEq

inductive NotificationStatus where
  | queued
  | delivered
  | partial_
  | failed
  deriving DecidableEq

/-- A request that has passed its checks. -/
structure NotificationRequest where
  sourceClientId : String
  recipientSub : Option String := none
  recipientEmail : Option String := none
  recipientPhone : Option String := none
  channels : List Channel
  title : String
  body : String
  route : Option String := none
  sound : Option String := some "default"
  data : List (String × JsonDocument) := []
  ttlSeconds : ℕ := 3600
  channels_ne_nil : channels ≠ []
  channels_nodup : channels.Nodup
  pushTarget : .push ∈ channels → recipientSub ≠ none
  emailTarget : .email ∈ channels → presentText recipientEmail ≠ none
  smsTarget : .sms ∈ channels → presentText recipientPhone ≠ none

/-- A row of `notifications`, with what its `data_json` holds. -/
structure Notification where
  id : ℕ
  sourceClientId : String
  idempotencyKey : Option String
  requestFingerprint : Option String
  recipientSub : Option String
  recipientEmail : Option String
  recipientPhone : Option String
  title : String
  body : String
  route : Option String
  sound : Option String
  data : List (String × JsonDocument)
  ttlSeconds : ℕ
  channels : List Channel
  status : NotificationStatus := .queued
  completedAt : Option ℕ := none

/-- A row of `notification_deliveries`; times are in microseconds. -/
structure NotificationDelivery where
  id : ℕ
  notificationId : ℕ
  channel : Channel
  status : DeliveryStatus := .pending
  attemptCount : ℕ := 0
  providerReference : Option String := none
  lastError : Option String := none
  nextAttemptAt : ℕ
  lastAttemptAt : Option ℕ := none
  deliveredAt : Option ℕ := none
  createdAt : ℕ

/-- The digest of `json.dumps` with sorted keys, and `max_attempts`. -/
structure NotificationSettings where
  digest : JsonDocument → String
  maxAttempts : ℕ

/-- What the providers are given. -/
inductive ProviderMessage where
  | email (recipient title body : String)
  | sms (phone body : String)
  | push (sourceClientId recipientSub title body : String) (route : Option String)
      (sound : String) (data : List (String × JsonDocument)) (ttlSeconds : ℕ)
      (idempotencyKey : String)

/-- `_key`; `none` is its refusal. -/
def normalizedKey : Option String → Option (Option String)
  | none => some none
  | some value =>
    let normalized := stripText value
    if normalized = "" ∨ 128 < normalized.length then none else some (some normalized)

/-- `_fingerprint`. -/
def NotificationRequest.fingerprint (settings : NotificationSettings)
    (request : NotificationRequest) : String :=
  settings.digest (.object
    [("body", .text request.body),
      ("channels", .array (request.channels.map fun channel => .text channel.text)),
      ("data", (JsonDocument.object request.data).sortKeys),
      ("recipient_email", .ofText request.recipientEmail),
      ("recipient_phone", .ofText request.recipientPhone),
      ("recipient_sub", .ofText request.recipientSub),
      ("route", .ofText request.route),
      ("sound", .ofText request.sound),
      ("source_client_id", .text request.sourceClientId),
      ("title", .text request.title),
      ("ttl_seconds", .ofInt request.ttlSeconds)])

def NotificationRequest.row (settings : NotificationSettings) (request : NotificationRequest)
    (id : ℕ) (key : Option String) : Notification where
  id := id
  sourceClientId := request.sourceClientId
  idempotencyKey := key
  requestFingerprint := key.map fun _ => request.fingerprint settings
  recipientSub := request.recipientSub
  recipientEmail := presentText request.recipientEmail
  recipientPhone := (presentText request.recipientPhone).map stripText
  title := request.title
  body := request.body
  route := request.route
  sound := request.sound
  data := request.data
  ttlSeconds := request.ttlSeconds
  channels := request.channels

def NotificationRequest.deliveries (request : NotificationRequest)
    (notificationId firstId now : ℕ) : List NotificationDelivery :=
  (request.channels.zipIdx firstId).map fun entry =>
    { id := entry.2, notificationId := notificationId, channel := entry.1
      nextAttemptAt := now, createdAt := now }

/-- The status that `_refresh_notification_status` gives. -/
def derivedStatus (statuses : List DeliveryStatus) : NotificationStatus :=
  if statuses ≠ [] ∧ ∀ status ∈ statuses, status = .delivered then .delivered
  else if .pending ∈ statuses ∨ .retry ∈ statuses ∨ .processing ∈ statuses then .queued
  else if .delivered ∈ statuses then .partial_
  else .failed

/-- `_refresh_notification_status`. -/
def Notification.refreshStatus (notification : Notification) (statuses : List DeliveryStatus)
    (now : ℕ) : Notification :=
  { notification with
    status := derivedStatus statuses
    completedAt := if derivedStatus statuses = .queued then none else some now }

/-- `_deliver` up to the call of the provider. -/
def providerMessage (notification : Notification) (delivery : NotificationDelivery) :
    Except String ProviderMessage :=
  match delivery.channel with
  | .email =>
    match presentText notification.recipientEmail with
    | none => .error "RuntimeError: email target is missing"
    | some recipient => .ok (.email recipient notification.title notification.body)
  | .sms =>
    match presentText notification.recipientPhone with
    | none => .error "RuntimeError: SMS target is missing"
    | some phone => .ok (.sms phone notification.body)
  | .push =>
    match presentText notification.recipientSub with
    | none => .error "RuntimeError: Push recipient identity is missing"
    | some recipient =>
      .ok (.push notification.sourceClientId recipient notification.title
        (String.ofList (notification.body.toList.take 500)) notification.route
        (notification.sound.getD "default") notification.data
        notification.ttlSeconds s!"notification:{notification.id}:push")

def second : ℕ := 1000000

/-- `_backoff`. -/
def backoff (attempt : ℕ) : ℕ := min 900 (5 * 2 ^ (attempt - 1)) * second

namespace NotificationDelivery

variable (delivery : NotificationDelivery)

def isWaiting : Bool := delivery.status = .pending || delivery.status = .retry

/-- The row while its provider is called. -/
def begin (now : ℕ) : NotificationDelivery :=
  { delivery with
    status := .processing
    attemptCount := delivery.attemptCount + 1
    lastAttemptAt := some now }

def fail (settings : NotificationSettings) (error : String) (now : ℕ) : NotificationDelivery :=
  let failed := { delivery with lastError := some (String.ofList (error.toList.take 255)) }
  if settings.maxAttempts ≤ delivery.attemptCount then { failed with status := .failed }
  else
    { failed with
      status := .retry
      nextAttemptAt := now + backoff delivery.attemptCount }

def succeed (reference : String) (now : ℕ) : NotificationDelivery :=
  { delivery with
    status := .delivered
    providerReference := some (String.ofList (reference.toList.take 255))
    lastError := none
    deliveredAt := some now }

end NotificationDelivery

/-- The committed rows and the row locks. -/
structure NotificationStore where
  notifications : List Notification := []
  deliveries : List NotificationDelivery := []
  nextNotification : ℕ := 0
  nextDelivery : ℕ := 0
  now : ℕ := 0
  notificationLock : ℕ → Option ℕ := fun _ => none
  deliveryLock : ℕ → Option ℕ := fun _ => none

inductive Answer where
  | refused (status : ℕ) (detail : String)
  | raised
  | notification (id : ℕ) (deduplicated : Bool)

inductive Call where
  | idle
  /-- A request that has not found its key, one whose insert has failed on it,
  and one that has been answered. -/
  | unseen (request : NotificationRequest) (key : Option String)
  | clashed (request : NotificationRequest) (key : String)
  | answered (request : NotificationRequest) (key : Option String) (answer : Answer)
  /-- A worker that has selected a delivery, one that has locked its
  notification too, one that has been told by the provider, and one that has
  read the statuses. -/
  | selected (delivery : NotificationDelivery)
  | attempting (notification : Notification) (delivery : NotificationDelivery)
  | settled (notification : Notification) (delivery : NotificationDelivery)
  | derived (notification : Notification) (delivery : NotificationDelivery)

inductive Step where
  | tick (passed : ℕ)
  | createNotification (clientId : String) (request : NotificationRequest)
      (idempotencyKey : Option String)
  | insert
  | lookUp
  | select (chosen : ℕ)
  | lockNotification
  /-- The provider returns a reference or raises. -/
  | deliver (outcome : Except String String)
  | readStatuses
  | commit
  | crash

namespace NotificationStore

variable (store : NotificationStore)

def notification? (id : ℕ) : Option Notification :=
  store.notifications.find? fun row => decide (row.id = id)

def existing (clientId key : String) : Option Notification :=
  store.notifications.find? fun row =>
    decide (row.sourceClientId = clientId ∧ row.idempotencyKey = some key)

def deliveriesOf (id : ℕ) : List NotificationDelivery :=
  store.deliveries.filter fun row => decide (row.notificationId = id)

def statusesOf (id : ℕ) : List DeliveryStatus :=
  (store.deliveriesOf id).map NotificationDelivery.status

/-- What a worker selects from: other workers' rows are skipped. -/
def candidates : List NotificationDelivery :=
  store.deliveries.filter fun row =>
    row.isWaiting && decide (row.nextAttemptAt ≤ store.now) &&
      (store.deliveryLock row.id).isNone

/-- The selection has no limit and locks all that it finds. -/
def lockCandidates (caller : ℕ) : NotificationStore :=
  { store with
    deliveryLock := fun id =>
      if id ∈ store.candidates.map NotificationDelivery.id then some caller
      else store.deliveryLock id }

def lockParent (caller id : ℕ) : NotificationStore :=
  { store with notificationLock := Function.update store.notificationLock id (some caller) }

def release (caller : ℕ) : NotificationStore :=
  { store with
    notificationLock := fun id =>
      if store.notificationLock id = some caller then none else store.notificationLock id
    deliveryLock := fun id =>
      if store.deliveryLock id = some caller then none else store.deliveryLock id }

def writeDelivery (delivery : NotificationDelivery) : NotificationStore :=
  { store with
    deliveries := store.deliveries.map fun row => if row.id = delivery.id then delivery else row }

def writeNotification (notification : Notification) : NotificationStore :=
  { store with
    notifications := store.notifications.map fun row =>
      if row.id = notification.id then notification else row }

/-- The insert of a notification with its deliveries, committed. -/
def create (settings : NotificationSettings) (request : NotificationRequest)
    (key : Option String) : NotificationStore :=
  { store with
    notifications := store.notifications ++ [request.row settings store.nextNotification key]
    deliveries := store.deliveries ++
      request.deliveries store.nextNotification store.nextDelivery store.now
    nextNotification := store.nextNotification + 1
    nextDelivery := store.nextDelivery + request.channels.length }

/-- The answer to a request whose key has been found. -/
def answerExisting (settings : NotificationSettings) (request : NotificationRequest)
    (existing : Notification) : Answer :=
  if existing.requestFingerprint ≠ some (request.fingerprint settings) then
    .refused 409 "Idempotency-Key was already used for a different notification"
  else .notification existing.id true

/-- `create_notification` up to its insert. -/
def createNotification (settings : NotificationSettings) (clientId : String)
    (request : NotificationRequest) (idempotencyKey : Option String) : Call :=
  if request.sourceClientId ≠ clientId then
    .answered request none
      (.refused 403 "source_client_id must match authenticated service identity")
  else
    match normalizedKey idempotencyKey with
    | none =>
      .answered request none
        (.refused 422 "Idempotency-Key must contain 1 to 128 characters")
    | some none => .unseen request none
    | some (some key) =>
      match store.existing clientId key with
      | none => .unseen request (some key)
      | some existing =>
        .answered request (some key) (answerExisting settings request existing)

/-- `process_one` and `create_notification`, statement by statement. -/
def perform (settings : NotificationSettings) (caller : ℕ) :
    Step → NotificationStore → Call → NotificationStore × Call
  | .tick passed, store, call => ({ store with now := store.now + passed }, call)
  | .createNotification clientId request idempotencyKey, store, .idle =>
    (store, store.createNotification settings clientId request idempotencyKey)
  | .insert, store, .unseen request none =>
    (store.create settings request none,
      .answered request none (.notification store.nextNotification false))
  | .insert, store, .unseen request (some key) =>
    match store.existing request.sourceClientId key with
    | some _ => (store, .clashed request key)
    | none =>
      (store.create settings request (some key),
        .answered request (some key) (.notification store.nextNotification false))
  | .lookUp, store, .clashed request key =>
    match store.existing request.sourceClientId key with
    | none => (store, .answered request (some key) .raised)
    | some existing =>
      (store, .answered request (some key) (answerExisting settings request existing))
  | .select chosen, store, .idle =>
    match store.candidates.find? fun row => decide (row.id = chosen) with
    | none => (store, .idle)
    | some delivery =>
      -- rows of the same age come in any order
      if ∀ other ∈ store.candidates, delivery.createdAt ≤ other.createdAt then
        (store.lockCandidates caller, .selected delivery)
      else (store, .idle)
  | .lockNotification, store, .selected delivery =>
    match store.notification? delivery.notificationId with
    | none =>
      ((store.writeDelivery
          { delivery with
            status := .failed, lastError := some "notification record missing" }).release caller,
        .idle)
    | some notification =>
      match store.notificationLock notification.id with
      | some _ => (store, .selected delivery)
      | none => (store.lockParent caller notification.id,
          .attempting notification (delivery.begin store.now))
  | .deliver outcome, store, .attempting notification delivery =>
    match providerMessage notification delivery with
    | .error error => (store, .settled notification (delivery.fail settings error store.now))
    | .ok _ =>
      match outcome with
      | .error error => (store, .settled notification (delivery.fail settings error store.now))
      | .ok reference => (store, .settled notification (delivery.succeed reference store.now))
  | .readStatuses, store, .settled notification delivery =>
    let statuses := (store.writeDelivery delivery).statusesOf notification.id
    (store, .derived (notification.refreshStatus statuses store.now) delivery)
  | .commit, store, .derived notification delivery =>
    (((store.writeDelivery delivery).writeNotification notification).release caller, .idle)
  | .crash, store, _ => (store.release caller, .idle)
  | _, store, call => (store, call)

end NotificationStore

end Notifications

end Ithute
