import Ithute.PythonJson

/-!
# Tables of the identity service

The rows of users, applications, authorization codes, sessions, invitations
and outgoing lifecycle events.  Identifiers are numbers and times are
microseconds.
-/

namespace Ithute.Auth

structure User where
  id : ℕ
  email : Option String
  phone : Option String
  emailVerified : Bool := false
  phoneVerified : Bool := false
  isActive : Bool := true
  deriving DecidableEq

structure Application where
  id : ℕ
  clientId : String
  isActive : Bool

structure ApplicationRedirectURI where
  applicationId : ℕ
  redirectUri : String

inductive AuthMethod where
  | password | passkey
  deriving DecidableEq

structure AuthorizationCode where
  id : ℕ
  codeHash : String
  userId : ℕ
  clientId : String
  redirectUri : String
  codeChallenge : String
  nonce : String
  scope : String
  authMethod : AuthMethod
  expiresAt : ℕ
  consumedAt : Option ℕ := none

structure AuthSession where
  id : ℕ
  userId : ℕ
  clientId : String
  refreshTokenHash : String
  expiresAt : ℕ
  revokedAt : Option ℕ := none
  revokedReason : Option String := none
  lastSeenAt : ℕ
  authMethod : AuthMethod := .password
  stepUpAt : Option ℕ := none
  deriving DecidableEq

inductive Channel where
  | phone | email
  deriving DecidableEq

inductive InvitationStatus where
  | pending | expired | locked | cancelled | activated
  deriving DecidableEq

structure IdentityInvitation where
  id : ℕ
  sourceClientId : String
  externalReference : String
  email : Option String
  phone : Option String
  preferredChannel : Channel
  challengeTokenHash : String
  challengeCodeHash : String
  status : InvitationStatus := .pending
  activationAttempts : ℕ := 0
  expiresAt : ℕ
  consumedAt : Option ℕ := none
  cancelledAt : Option ℕ := none
  userId : Option ℕ := none

/-- A row of the outbox.  `payload` is the object that `payload_json`
encodes. -/
structure AuthEventOutbox where
  id : ℕ
  eventType : String
  subjectUserId : Option ℕ
  sessionId : Option ℕ
  clientId : Option String
  payload : JsonObject
  createdAt : ℕ

structure Tracked (α : Type) where
  loaded : α
  current : α

def Tracked.fresh {α : Type} (row : α) : Tracked α where
  loaded := row
  current := row

end Ithute.Auth
