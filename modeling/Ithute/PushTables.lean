import Ithute.PythonValues
import Mathlib.Logic.Function.Basic

/-!
# Tables of the push service

The rows of the push service and the lifecycle events that it takes from
Auth.  A table that is only read by its primary key is a function of the key.
Identifiers are numbers and times are microseconds.
-/

namespace Ithute.Push

inductive AuthEventType where
  | sessionRevoked
  | accountDisabled
  | accountEnabled
  | applicationDisabled
  | applicationEnabled
  deriving DecidableEq

structure AuthLifecycleEventRequest where
  eventId : ℕ
  type : AuthEventType
  sub : Option ℕ
  sid : Option ℕ
  clientId : Option String
  occurredAt : ℕ
  details : JsonObject

/-- What an event is about, with the state it asks for. -/
inductive LifecycleSubject where
  | session (sub sid : ℕ) (clientId : String)
  | account (sub : ℕ) (active : Bool)
  | application (clientId : String) (active : Bool)

/-- The identifiers that the handler of a type asserts; `none` is a failed
assertion. -/
def AuthLifecycleEventRequest.subject?
    (event : AuthLifecycleEventRequest) : Option LifecycleSubject :=
  match event.type with
  | .sessionRevoked =>
    match event.sub, event.sid, event.clientId with
    | some sub, some sid, some clientId => some (.session sub sid clientId)
    | _, _, _ => none
  | .accountDisabled => event.sub.map fun sub => .account sub false
  | .accountEnabled => event.sub.map fun sub => .account sub true
  | .applicationDisabled => event.clientId.map fun clientId => .application clientId false
  | .applicationEnabled => event.clientId.map fun clientId => .application clientId true

/-- The columns of `AuthUserState` and of `ApplicationState` beside the
key. -/
structure StatusRow where
  active : Bool
  changedAt : ℕ
  eventId : ℕ

structure RevokedAuthSession where
  authUserId : ℕ
  applicationId : String
  revokedAt : ℕ
  eventId : ℕ

inductive Platform where
  | android | ios | web
  deriving DecidableEq

inductive Provider where
  | fcm | apns | webpush
  deriving DecidableEq

def providerFor : Platform → Provider
  | .android => .fcm
  | .ios => .apns
  | .web => .webpush

structure PushEndpoint where
  id : ℕ
  authUserId : ℕ
  authSessionId : Option ℕ
  applicationId : String
  deviceKey : String
  platform : Platform
  provider : Provider
  endpointCiphertext : String
  endpointHash : String
  active : Bool := true
  lastSeenAt : ℕ
  deriving DecidableEq

structure Notification where
  title : String
  body : String
  route : Option String
  sound : Option String
  data : JsonObject

inductive MessageStatus where
  | queued | noEndpoints | delivered | failed | partly | processing
  deriving DecidableEq

structure Message where
  id : ℕ
  sourceClientId : String
  recipientUserId : ℕ
  idempotencyKey : Option String
  requestFingerprint : Option String
  notification : Notification
  status : MessageStatus
  expiresAt : ℕ

inductive DeliveryStatus where
  | queued | retry | delivered | failed | configurationError | expired
  deriving DecidableEq

structure Delivery where
  id : ℕ
  messageId : ℕ
  endpointId : ℕ
  status : DeliveryStatus := .queued
  attempts : ℕ := 0
  providerMessageId : Option String := none
  lastError : Option String := none
  nextAttemptAt : ℕ
  deliveredAt : Option ℕ := none

/-- A verified user token, with its subject and its session as UUIDs. -/
structure UserPrincipal where
  clientId : String
  sub : ℕ
  sessionId : ℕ

structure DeviceRequest where
  deviceKey : String
  platform : Platform
  providerEndpoint : String

/-- A request of either queueing endpoint.  The target product of a plain
request is the caller. -/
structure MessageRequest where
  sourceClientId : String
  recipientSub : ℕ
  notification : Notification
  ttlSeconds : ℕ
  delegated : Bool

/-- `refresh_message_status`. -/
def messageStatus (statuses : List DeliveryStatus) : MessageStatus :=
  if statuses = [] then .noEndpoints
  else if ∀ status ∈ statuses, status = .delivered then .delivered
  else if ∀ status ∈ statuses, status ∈
      [DeliveryStatus.failed, .configurationError, .expired] then .failed
  else if .delivered ∈ statuses ∧ ¬ (.queued ∈ statuses ∨ .retry ∈ statuses) then .partly
  else .processing

end Ithute.Push
