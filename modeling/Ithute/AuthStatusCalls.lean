import Ithute.AuthCalls
import Ithute.AuthLifecycle

/-!
# Transactions that disable accounts

Sign-ins, both grants, refreshes and logouts run concurrently with the
transactions that set `is_active` of a user or of an application.  A
transaction of the latter kind loads the row, may select the sessions and
revoke them itself, runs the hook of its flush, and commits.  A query sees
what has been committed.
-/

namespace Ithute.Auth

/-- The row whose `is_active` a transaction sets. -/
inductive StatusTarget where
  | user (object : Tracked User)
  | application (object : Tracked Application)

namespace StatusTarget

def dirty : StatusTarget → DirtyObject
  | .user object => .user object
  | .application object => .application object

def owns (session : AuthSession) : StatusTarget → Bool
  | .user object => decide (object.current.id = session.userId)
  | .application object => decide (object.current.clientId = session.clientId)

def disables : StatusTarget → Bool
  | .user object => object.loaded.isActive && !object.current.isActive
  | .application object => object.loaded.isActive && !object.current.isActive

end StatusTarget

structure StatusChange where
  target : StatusTarget
  sessions : List (Tracked AuthSession) := []
  /-- What the hook has left, once it has run. -/
  hook : Option HookState := none

inductive LoginCall where
  | clientFound (clientId : String)
  | signedIn (clientId : String) (user : User) (method : AuthMethod) (now : ℕ)

structure LiveState where
  tokens : TokenState := {}
  outbox : List AuthEventOutbox := []
  logins : List LoginCall := []
  changes : List StatusChange := []

/-- What a statement of a sign-in draws, and whom the credentials name. -/
structure LoginInput where
  signedIn : Option (ℕ × AuthMethod) := none
  newId : ℕ := 0
  newToken : String := ""

namespace LiveState

variable (services : TokenServices) (settings : TokenSettings) (state : LiveState)

def identity : IdentityState where
  clock := state.tokens.clock
  users := state.tokens.users
  applications := state.tokens.applications
  sessions := state.tokens.sessions
  outbox := state.outbox

def login (clientId : String) : LiveState :=
  match state.tokens.activeClient clientId with
  | none => state
  | some _ => { state with logins := state.logins ++ [.clientFound clientId] }

def directSession (clientId : String) (user : User) (method : AuthMethod)
    (now : ℕ) (input : LoginInput) : AuthSession where
  id := input.newId
  userId := user.id
  clientId := clientId
  refreshTokenHash := services.hashRefreshToken input.newToken
  expiresAt := now + settings.refreshTokenDays * 1440 * microsPerMinute
  lastSeenAt := now
  authMethod := method
  stepUpAt := if method = .passkey then some now else none

def dropLogin (index : ℕ) : LiveState := { state with logins := state.logins.eraseIdx index }

def advanceLogin (index : ℕ) (input : LoginInput) : LiveState :=
  match state.logins[index]? with
  | none => state
  | some (.clientFound clientId) =>
    match input.signedIn.bind fun entry =>
        (state.tokens.activeUser entry.1).map fun user =>
          (user, entry.2) with
    | none => state.dropLogin index
    | some (user, method) =>
      { state with
        logins := state.logins.set index (.signedIn clientId user method state.tokens.clock) }
  | some (.signedIn clientId user method now) =>
    let row := directSession services settings clientId user method now input
    if state.tokens.SessionTaken row then state.dropLogin index
    else
      { state.dropLogin index with
        tokens := { state.tokens with sessions := state.tokens.sessions ++ [row] } }

/-- What the hook queues for a commit; of the calls only a logout writes what
the hook looks at. -/
def queuedEvents : AuthCall → List NewEvent
  | .logoutFound row =>
    (queueIdentityStatusEvents state.tokens.clock state.tokens.sessions
      [{ loaded := row
         current :=
          { row with
            revokedAt := some state.tokens.clock
            revokedReason := some "logout" } }]
      [.session row.id]).events
  | _ => []

def advanceToken (index : ℕ) (input : TokenInput) (ids : ℕ → ℕ) : LiveState :=
  match state.tokens.calls[index]? with
  | none => state
  | some call =>
    if state.tokens.waits call then state
    else
      let rows := state.identity.newRows (state.queuedEvents call) ids
      if state.identity.Insertable rows then
        { state with
          tokens := (state.tokens.perform services settings
            (.advance index input)).1
          outbox := state.outbox ++ rows }
      else { state with tokens := state.tokens.dropCall index }

/-- The other actions of the token endpoints.  Sessions that are opened and
rows that are set active elsewhere are actions of their own here. -/
def performToken : TokenAction → LiveState
  | .openSession _ _ | .setUserActive _ _ | .setApplicationActive _ _
  | .advance _ _ => state
  | action =>
    { state with
      tokens := (state.tokens.perform services settings action).1 }

def setUserActive (id : ℕ) (active : Bool) : LiveState :=
  match state.tokens.users.find? fun row => decide (row.id = id) with
  | none => state
  | some row =>
    { state with
      changes := state.changes ++
        [{ target := .user
            { loaded := row, current := { row with isActive := active } } }] }

def setApplicationActive (clientId : String) (active : Bool) : LiveState :=
  match state.tokens.applications.find? fun row =>
      decide (row.clientId = clientId) with
  | none => state
  | some row =>
    { state with
      changes := state.changes ++
        [{ target := .application
            { loaded := row, current := { row with isActive := active } } }] }

/-- `revoke_sessions`, and the loop of `update_application`: the rows are
revoked in the ORM session and nothing is written yet. -/
def revokeSessions (index : ℕ) (reason : String) : LiveState :=
  match state.changes[index]? with
  | none => state
  | some change =>
    if change.sessions = [] ∧ change.hook.isNone then
      let rows := state.tokens.sessions.filter fun row =>
        change.target.owns row && row.revokedAt.isNone
      { state with
        changes := state.changes.set index { change with
            sessions := rows.map fun row =>
              { loaded := row
                current :=
                  { row with
                    revokedAt := some state.tokens.clock
                    revokedReason := some (reasonText reason) } } } }
    else state

/-- The hook of the flush.  `session.dirty` has no order: the row comes after
the first sessions. -/
def runHook (index front : ℕ) : LiveState :=
  match state.changes[index]? with
  | none => state
  | some change =>
    if change.hook.isNone then
      let objects := change.sessions.map fun object => DirtyObject.session object.current.id
      { state with
        changes := state.changes.set index { change with
            hook := some (queueIdentityStatusEvents state.tokens.clock
              state.tokens.sessions change.sessions (objects.take front ++
                change.target.dirty :: objects.drop front)) } }
    else state

def dropChange (index : ℕ) : LiveState := { state with changes := state.changes.eraseIdx index }

/-- The flush and the commit.  It waits while a row that it writes is
locked. -/
def commitChange (index : ℕ) (ids : ℕ → ℕ) : LiveState :=
  match state.changes[index]? with
  | none => state
  | some change =>
    match change.hook with
    | none => state
    | some hook =>
      let rows := state.identity.newRows hook.events ids
      if ∃ object ∈ hook.sessions, state.tokens.locked (.session object.current.id) = true then
        state
      else if state.identity.Insertable rows then
        { state.dropChange index with
          tokens :=
            { state.tokens with
              users := state.tokens.users.map fun row =>
                IdentityState.writeUser row change.target.dirty
              applications := state.tokens.applications.map fun row =>
                IdentityState.writeApplication row change.target.dirty
              sessions := state.tokens.sessions.map (IdentityState.writeSession hook.sessions) }
          outbox := state.outbox ++ rows }
      else state.dropChange index

end LiveState

inductive LiveAction where
  | token (action : TokenAction)
  | advanceToken (call : ℕ) (input : TokenInput) (ids : ℕ → ℕ)
  | login (clientId : String)
  | advanceLogin (login : ℕ) (input : LoginInput)
  | crashLogin (login : ℕ)
  | setUserActive (id : ℕ) (active : Bool)
  | setApplicationActive (clientId : String) (active : Bool)
  | revokeSessions (change : ℕ) (reason : String)
  | runHook (change front : ℕ)
  | commitChange (change : ℕ) (ids : ℕ → ℕ)
  | crashChange (change : ℕ)

namespace LiveState

def perform (services : TokenServices) (settings : TokenSettings)
    (state : LiveState) : LiveAction → LiveState
  | .token action => state.performToken services settings action
  | .advanceToken call input ids => state.advanceToken services settings call input ids
  | .login clientId => state.login clientId
  | .advanceLogin login input => state.advanceLogin services settings login input
  | .crashLogin login => state.dropLogin login
  | .setUserActive id active => state.setUserActive id active
  | .setApplicationActive clientId active => state.setApplicationActive clientId active
  | .revokeSessions change reason => state.revokeSessions change reason
  | .runHook change front => state.runHook change front
  | .commitChange change ids => state.commitChange change ids
  | .crashChange change => state.dropChange change

def Performs (services : TokenServices) (settings : TokenSettings)
    (before : LiveState) (action : LiveAction) (after : LiveState) : Prop :=
  after = before.perform services settings action

end LiveState

end Ithute.Auth
