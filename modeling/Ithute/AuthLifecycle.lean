import Ithute.AuthTables

/-!
# Producers of lifecycle events

The hook before each flush of an ORM session, and the activation of an
invitation, put rows into the outbox.  A flush that violates a constraint
changes nothing.

The other endpoints that write invitations and the sign-in endpoints put no
rows there; they may store any rows that their own checks let pass.
-/

namespace Ithute.Auth

/-- A row of the outbox before its identifier and its time are drawn. -/
structure NewEvent where
  eventType : String
  subjectUserId : Option ℕ := none
  sessionId : Option ℕ := none
  clientId : Option String := none
  payload : JsonObject

/-- The session objects of a flush and the events that it queues. -/
structure HookState where
  sessions : List (Tracked AuthSession)
  events : List NewEvent := []

namespace HookState

variable (state : HookState)

def object (row : AuthSession) : Tracked AuthSession :=
  (state.sessions.find? fun object => decide (object.current.id = row.id)).getD (Tracked.fresh row)

def put (object : Tracked AuthSession) : HookState :=
  { state with
    sessions := object :: state.sessions.filter fun other =>
      decide (other.current.id ≠ object.current.id) }

def add (event : NewEvent) : HookState := { state with events := state.events ++ [event] }

end HookState

def sessionRevoked (row : AuthSession) (reason : String) (revokedAt : ℕ) : NewEvent where
  eventType := "session.revoked"
  subjectUserId := some row.userId
  sessionId := some row.id
  clientId := some row.clientId
  payload := [("reason", .text reason), ("revoked_at", .text (isoformat revokedAt))]

/-- `reason[:160]`. -/
def reasonText (reason : String) : String := String.ofList (reason.toList.take 160)

def revokeScopeSessions (now : ℕ) (reason : String) (state : HookState)
    (rows : List AuthSession) : HookState :=
  rows.foldl (fun state row =>
    let object := state.object row
    if object.current.revokedAt.isSome then state
    else
      let revoked :=
        { object with
          current :=
            { object.current with
              revokedAt := some now
              revokedReason := some (reasonText reason) } }
      (state.put revoked).add (sessionRevoked object.current (reasonText reason) now)) state

/-- An object of `session.dirty`. -/
inductive DirtyObject where
  | user (object : Tracked User)
  | application (object : Tracked Application)
  | session (id : ℕ)

def userEvent (user : User) : NewEvent where
  eventType := if user.isActive then "account.enabled" else "account.disabled"
  subjectUserId := some user.id
  payload := [("active", .boolean user.isActive)]

def applicationEvent (application : Application) : NewEvent where
  eventType :=
    if application.isActive then "application.enabled"
    else "application.disabled"
  clientId := some application.clientId
  payload := [("active", .boolean application.isActive)]

/-- `obj.revoked_reason or "revoked"`. -/
def revokedReasonOr (row : AuthSession) : String := (presentText row.revokedReason).getD "revoked"

/-- What the hook does for one object.  The rows are those that are stored
when the flush begins. -/
def queueIdentityStatusEvent (now : ℕ) (stored : List AuthSession)
    (state : HookState) : DirtyObject → HookState
  | .user object =>
    if object.loaded.isActive = object.current.isActive then state
    else
      let queued := state.add (userEvent object.current)
      if object.current.isActive then queued
      else
        revokeScopeSessions now "account disabled" queued (stored.filter fun row => decide
            (row.userId = object.current.id ∧ row.revokedAt = none))
  | .application object =>
    if object.loaded.isActive = object.current.isActive then state
    else
      let queued := state.add (applicationEvent object.current)
      if object.current.isActive then queued
      else
        revokeScopeSessions now "application disabled" queued (stored.filter fun row => decide
            (row.clientId = object.current.clientId ∧ row.revokedAt = none))
  | .session id =>
    match state.sessions.find? fun object =>
        decide (object.current.id = id) with
    | none => state
    | some object =>
      match object.current.revokedAt with
      | none => state
      | some revokedAt =>
        if object.loaded.revokedAt = some revokedAt then state
        else
          state.add (sessionRevoked object.current (revokedReasonOr object.current) revokedAt)

def queueIdentityStatusEvents (now : ℕ) (stored : List AuthSession)
    (sessions : List (Tracked AuthSession)) (dirty : List DirtyObject) : HookState :=
  dirty.foldl (queueIdentityStatusEvent now stored) { sessions := sessions }

structure IdentityState where
  clock : ℕ := 0
  users : List User := []
  applications : List Application := []
  sessions : List AuthSession := []
  invitations : List IdentityInvitation := []
  outbox : List AuthEventOutbox := []

structure UnitOfWork where
  sessions : List (Tracked AuthSession)
  dirty : List DirtyObject

namespace IdentityState

variable (state : IdentityState)

def newRows (events : List NewEvent) (ids : ℕ → ℕ) : List AuthEventOutbox :=
  events.zipIdx.map fun entry =>
    { id := ids entry.2
      eventType := entry.1.eventType
      subjectUserId := entry.1.subjectUserId
      sessionId := entry.1.sessionId
      clientId := entry.1.clientId
      payload := entry.1.payload
      createdAt := state.clock }

def Insertable (rows : List AuthEventOutbox) : Prop :=
  (rows.map AuthEventOutbox.id).Nodup ∧
    ∀ stored ∈ state.outbox, stored.id ∉ rows.map AuthEventOutbox.id

instance (rows : List AuthEventOutbox) : Decidable (state.Insertable rows) :=
  inferInstanceAs (Decidable (_ ∧ _))

/-- The session object is a stored row whose identifiers have not changed,
and its reason fits the column. -/
def FitsSession (object : Tracked AuthSession) : Prop :=
  (∃ row ∈ state.sessions, row.id = object.current.id ∧ row.userId = object.current.userId ∧
    row.clientId = object.current.clientId) ∧
  ∀ reason ∈ object.current.revokedReason, reason.length ≤ 160

instance (object : Tracked AuthSession) : Decidable (state.FitsSession object) :=
  inferInstanceAs (Decidable (_ ∧ _))

def FitsDirty : DirtyObject → Prop
  | .user object =>
    object.loaded.id = object.current.id ∧ ∃ row ∈ state.users, row.id = object.current.id
  | .application object => ∃ row ∈ state.applications, row.clientId = object.current.clientId
  | .session _ => True

instance (object : DirtyObject) : Decidable (state.FitsDirty object) := by
  cases object <;> dsimp only [FitsDirty] <;> infer_instance

def Fits (unit : UnitOfWork) : Prop :=
  (∀ object ∈ unit.sessions, state.FitsSession object) ∧
    ∀ object ∈ unit.dirty, state.FitsDirty object

instance (unit : UnitOfWork) : Decidable (state.Fits unit) := inferInstanceAs (Decidable (_ ∧ _))

def writeUser (row : User) : DirtyObject → User
  | .user object =>
    if object.current.id = row.id then
      { row with
        isActive := changedColumn object.loaded.isActive object.current.isActive row.isActive }
    else row
  | _ => row

def writeApplication (row : Application) : DirtyObject → Application
  | .application object =>
    if object.current.clientId = row.clientId then
      { row with
        isActive := changedColumn object.loaded.isActive object.current.isActive row.isActive }
    else row
  | _ => row

def writeSession (objects : List (Tracked AuthSession)) (row : AuthSession) : AuthSession :=
  match objects.find? fun object => decide (object.current.id = row.id) with
  | none => row
  | some object =>
    { row with
      revokedAt := changedColumn object.loaded.revokedAt object.current.revokedAt row.revokedAt
      revokedReason := changedColumn object.loaded.revokedReason
        object.current.revokedReason row.revokedReason }

def flush (unit : UnitOfWork) (ids : ℕ → ℕ) : IdentityState :=
  let hook := queueIdentityStatusEvents state.clock state.sessions unit.sessions unit.dirty
  let rows := state.newRows hook.events ids
  if state.Fits unit ∧ state.Insertable rows then
    { state with
      users := state.users.map fun row => unit.dirty.foldl writeUser row
      applications := state.applications.map fun row => unit.dirty.foldl writeApplication row
      sessions := state.sessions.map (writeSession hook.sessions)
      outbox := state.outbox ++ rows }
  else state

/-- `seed_first_party_clients`, for one entry of the configuration. -/
def seedClient (entry : String) (id : ℕ) : IdentityState :=
  let clientId := stripText entry
  if clientId = "" ∨ 120 < clientId.length ∨
      ∃ row ∈ state.applications, row.clientId = clientId ∨ row.id = id then
    state
  else
    { state with
      applications := state.applications ++ [{ id := id, clientId := clientId, isActive := true }] }

/-- The expression `^[a-z][a-z0-9-]{2,59}$`. -/
def isClientId (text : String) : Bool :=
  match text.toList with
  | [] => false
  | first :: rest =>
    (first.isLower && decide (first.toNat < 0x80)) && decide (2 ≤ rest.length ∧ rest.length ≤ 59) &&
      rest.all fun character =>
        decide (character.toNat < 0x80) &&
          (character.isLower || character.isDigit || character = '-')

/-- `register_application`, without the name and the callbacks. -/
def registerApplication (clientId : String) (id : ℕ) : IdentityState :=
  if isClientId clientId = false ∨
      ∃ row ∈ state.applications, row.clientId = clientId ∨ row.id = id then
    state
  else
    { state with
      applications := state.applications ++
        [{ id := id, clientId := clientId, isActive := false }] }

def registerUser (row : User) : IdentityState :=
  if ∃ stored ∈ state.users, stored.id = row.id then state
  else { state with users := state.users ++ [row] }

def openSession (row : AuthSession) : IdentityState :=
  if (∃ client ∈ state.applications, client.clientId = row.clientId ∧ client.isActive = true) ∧
      ¬ ∃ stored ∈ state.sessions, stored.id = row.id then
    { state with sessions := state.sessions ++ [row] }
  else state

def storeInvitation (row : IdentityInvitation) : IdentityState :=
  { state with
    invitations := row :: state.invitations.filter fun other => decide (other.id ≠ row.id) }

end IdentityState

structure ActivationServices where
  hashSecurityToken : String → String
  verifyPassword : String → String → Bool

structure IdentityInvitationActivationRequest where
  invitationId : ℕ
  code : Option String
  token : Option String
  password : Option String

def maxActivationAttempts : ℕ := 8

inductive ActivationCheck where
  | refused (status : ℕ) (detail : String)
  | replayed (sub : ℕ)
  /-- The refusal commits a change of the invitation. -/
  | records (invitation : IdentityInvitation) (status : ℕ) (detail : String)
  | passes (invitation : IdentityInvitation) (user : Option User)

namespace IdentityInvitation

variable (invitation : IdentityInvitation)

def challengeValid (services : ActivationServices)
    (request : IdentityInvitationActivationRequest) : Bool :=
  ((presentText request.token).any fun token =>
    decide (invitation.challengeTokenHash = services.hashSecurityToken token)) ||
  (presentText request.code).any fun code =>
    services.verifyPassword (stripText code) invitation.challengeCodeHash

def miscounted : IdentityInvitation :=
  let counted :=
    { invitation with
      activationAttempts := invitation.activationAttempts + 1 }
  if maxActivationAttempts ≤ counted.activationAttempts then
    { counted with status := .locked }
  else counted

/-- `_validate_existing_identity_target`; `none` when it passes. -/
def targetRefusal? (user : User) : Option String :=
  match invitation.preferredChannel with
  | .phone =>
    if (presentText invitation.phone).isNone ∨ user.phone ≠ invitation.phone then
      some "existing Ithute identity must be invited through its registered phone"
    else none
  | .email =>
    if (presentText invitation.email).isNone ∨ user.email ≠ invitation.email then
      some "existing Ithute identity must be invited through its registered email"
    else none

def verifies (user : User) : User :=
  match invitation.preferredChannel with
  | .email =>
    if (presentText invitation.email).isSome ∧ user.email = invitation.email then
      { user with emailVerified := true }
    else user
  | .phone =>
    if (presentText invitation.phone).isSome ∧ user.phone = invitation.phone then
      { user with phoneVerified := true }
    else user

end IdentityInvitation

namespace IdentityState

variable (state : IdentityState)

/-- `_resolve_existing_identity`; the outer `none` is its conflict. -/
def resolveExistingIdentity (email phone : Option String) : Option (Option User) :=
  let byEmail := (presentText email).bind fun address =>
    state.users.find? fun row => decide (row.email = some address)
  let byPhone := (presentText phone).bind fun number =>
    state.users.find? fun row => decide (row.phone = some number)
  match byEmail, byPhone with
  | some first, some second => if first.id = second.id then some (some first) else none
  | some first, none => some (some first)
  | none, found => some found

def checkIdentity (invitation : IdentityInvitation)
    (request : IdentityInvitationActivationRequest) : ActivationCheck :=
  match state.resolveExistingIdentity invitation.email invitation.phone with
  | none => .refused 409 "email and phone belong to different Ithute identities"
  | some none =>
    if (presentText request.password).isNone then
      .refused 422 "password is required for a new Ithute identity"
    else .passes invitation none
  | some (some user) =>
    match invitation.targetRefusal? user with
    | some detail => .refused 409 detail
    | none =>
      if user.isActive = false then
        .refused 403 "existing Ithute identity is disabled"
      else .passes invitation (some user)

/-- The checks of `activate_identity_invitation`. -/
def checkActivation (services : ActivationServices)
    (request : IdentityInvitationActivationRequest) : ActivationCheck :=
  match state.invitations.find? fun row =>
      decide (row.id = request.invitationId) with
  | none => .refused 404 "activation invitation not found"
  | some invitation =>
    if invitation.consumedAt.isSome then
      match invitation.userId with
      | none => .refused 409 "invitation already used"
      | some sub => .replayed sub
    else if invitation.cancelledAt.isSome ∨
        invitation.status = .cancelled ∨ invitation.status = .locked then
      .refused 410 "activation invitation is no longer valid"
    else if invitation.expiresAt ≤ state.clock then
      .records { invitation with status := .expired } 410 "activation invitation expired"
    else if maxActivationAttempts ≤ invitation.activationAttempts then
      .records { invitation with status := .locked } 410 "activation invitation is no longer valid"
    else if invitation.challengeValid services request = false then
      .records invitation.miscounted 401 "invalid activation challenge"
    else state.checkIdentity invitation request

def newIdentity (invitation : IdentityInvitation) (id : ℕ) : User where
  id := id
  email := invitation.email
  phone := invitation.phone
  emailVerified := decide (invitation.preferredChannel = .email)
  phoneVerified := decide (invitation.preferredChannel = .phone)

def Registered (row : User) : Prop :=
  ∃ stored ∈ state.users, stored.id = row.id ∨ (stored.email.isSome ∧ stored.email = row.email) ∨
    (stored.phone.isSome ∧ stored.phone = row.phone)

instance (row : User) : Decidable (state.Registered row) :=
  inferInstanceAs (Decidable (∃ stored ∈ state.users, _))

/-- The row that `enqueue_auth_event` adds. -/
def activatedEvent (invitation : IdentityInvitation) (sub : ℕ)
    (existing : Bool) (invitationText : String) : NewEvent where
  eventType := "identity.invitation_activated"
  subjectUserId := some sub
  clientId := some invitation.sourceClientId
  payload :=
    [("existing_identity", .boolean existing),
      ("external_reference", .text invitation.externalReference),
      ("invitation_id", .text invitationText)]

/-- The values that an activation draws, and `str(invitation.id)`. -/
structure ActivationInput where
  userId : ℕ
  eventId : ℕ
  invitationText : String

inductive ActivationResponse where
  | refused (status : ℕ) (detail : String)
  | activated (sub : ℕ) (existingIdentity : Bool)

def commitActivation (invitation : IdentityInvitation)
    (user : Option User) (input : ActivationInput) : IdentityState × ActivationResponse :=
  let row := user.getD (newIdentity invitation input.userId)
  let rows := state.newRows [activatedEvent invitation row.id user.isSome input.invitationText]
    fun _ => input.eventId
  if user = none ∧ state.Registered row then
    (state, .refused 409 "identity contact information is already registered")
  else if state.Insertable rows then
    let users :=
      match user with
      | none => state.users ++ [row]
      | some known => state.users.map fun stored =>
        if stored.id = known.id then invitation.verifies stored else stored
    ({ (state.storeInvitation { invitation with
            userId := some row.id
            status := .activated
            consumedAt := some state.clock }) with
        users := users
        outbox := state.outbox ++ rows },
      .activated row.id user.isSome)
  else (state, .refused 500 "Internal Server Error")

def activateIdentityInvitation (services : ActivationServices)
    (request : IdentityInvitationActivationRequest)
    (input : ActivationInput) : IdentityState × ActivationResponse :=
  match state.checkActivation services request with
  | .refused status detail => (state, .refused status detail)
  | .replayed sub => (state, .activated sub true)
  | .records invitation status detail => (state.storeInvitation invitation, .refused status detail)
  | .passes invitation user => state.commitActivation invitation user input

end IdentityState

inductive IdentityAction where
  | wait (elapsed : ℕ)
  | seedClient (entry : String) (id : ℕ)
  | registerApplication (clientId : String) (id : ℕ)
  | registerUser (row : User)
  | openSession (row : AuthSession)
  | storeInvitation (row : IdentityInvitation)
  | flush (unit : UnitOfWork) (ids : ℕ → ℕ)
  | activate (request : IdentityInvitationActivationRequest) (input : IdentityState.ActivationInput)

namespace IdentityState

def perform (services : ActivationServices) (state : IdentityState) : IdentityAction → IdentityState
  | .wait elapsed => { state with clock := state.clock + elapsed }
  | .seedClient entry id => state.seedClient entry id
  | .registerApplication clientId id => state.registerApplication clientId id
  | .registerUser row => state.registerUser row
  | .openSession row => state.openSession row
  | .storeInvitation row => state.storeInvitation row
  | .flush unit ids => state.flush unit ids
  | .activate request input => (state.activateIdentityInvitation services request input).1

def Performs (services : ActivationServices) (before : IdentityState)
    (action : IdentityAction) (after : IdentityState) : Prop :=
  after = before.perform services action

end IdentityState

end Ithute.Auth
