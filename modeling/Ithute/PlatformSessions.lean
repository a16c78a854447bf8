import Ithute.Library.InterleavedCalls
import Mathlib.Data.Int.Order.Basic

/-!
# Sessions of the platform backend

A sign-in and a refresh hand out a refresh token with a session row and an
access token with the version of the user's sessions.  A revocation marks the
rows that it sees and writes the version it has read plus one.

The statements of a request see what is committed when each of them runs; its
writes are seen when it commits.
-/

namespace Ithute

open TransitionRuns InterleavedCalls

namespace Platform

structure User where
  isActive : Bool := true
  emailVerified : Bool := true
  passwordHash : String
  mfaEnabled : Bool := false
  mfaSecret : Option String := none
  authUserId : Option ℕ := none
  centralAuthEnforced : Bool := false
  sessionVersion : ℕ := 1

/-- A session with its refresh token, which its identifier stands for.
`origin` is how many revocations had been committed when the authentication
that it goes back to was evaluated. -/
structure UserSession where
  id : ℕ
  origin : ℕ
  revokedAt : Option ℤ := none
  expiresAt : ℤ
  deriving DecidableEq

structure AccessToken where
  sv : ℕ
  origin : ℕ
  exp : ℤ

structure AuthTools where
  hashPassword : String → String
  verifyPassword : String → String → Bool
  verifyTotp : String → String → Bool
  accessLifetime : ℤ
  refreshLifetime : ℤ

/-- The committed rows of a user, the access tokens that are about, and how
many revocations have been committed. -/
structure SessionTables where
  user : User
  sessions : List UserSession := []
  accessTokens : List AccessToken := []
  nextId : ℕ := 0
  now : ℤ := 0
  revocations : ℕ := 0

namespace SessionTables

variable (tables : SessionTables)

/-- Whether `refresh` accepts the token of a session. -/
def acceptsRefresh (session : UserSession) : Bool :=
  session.revokedAt.isNone && tables.now < session.expiresAt &&
    tables.user.isActive && tables.user.emailVerified

/-- Whether `get_current_user` accepts an access token. -/
def acceptsAccess (token : AccessToken) : Bool :=
  tables.now < token.exp && token.sv = tables.user.sessionVersion &&
    tables.user.isActive && ! tables.user.centralAuthEnforced

def session? (id : ℕ) : Option UserSession :=
  tables.sessions.find? fun session => decide (session.id = id)

end SessionTables

inductive Revocation where
  | completePasswordReset (newPassword : String)
  | changePassword (currentPassword newPassword : String)
  | mfaEnable (code : String)
  | mfaDisable (code : String)
  | revokeAllSessions
  | enforceCentral (currentPassword : String)
  | enrollCentral (centralSubject : ℕ)
  deriving DecidableEq

section Revocation

variable (tools : AuthTools) (user : User)

def Revocation.accepts : Revocation → Bool
  | .completePasswordReset newPassword =>
    user.isActive && ! user.centralAuthEnforced &&
      ! tools.verifyPassword newPassword user.passwordHash
  | .changePassword currentPassword newPassword =>
    user.isActive && tools.verifyPassword currentPassword user.passwordHash &&
      currentPassword ≠ newPassword
  | .mfaEnable code =>
    user.isActive && user.mfaSecret.any fun secret => tools.verifyTotp secret code
  | .mfaDisable code =>
    user.isActive && user.mfaEnabled && user.mfaSecret.any fun secret =>
      tools.verifyTotp secret code
  | .revokeAllSessions => user.isActive
  | .enforceCentral currentPassword =>
    user.isActive && ! user.centralAuthEnforced && user.authUserId.isSome &&
      tools.verifyPassword currentPassword user.passwordHash
  | .enrollCentral centralSubject =>
    user.isActive && user.authUserId.all fun linked => linked = centralSubject

def Revocation.write : Revocation → User
  | .completePasswordReset newPassword | .changePassword _ newPassword =>
    { user with passwordHash := tools.hashPassword newPassword }
  | .mfaEnable _ => { user with mfaEnabled := true }
  | .mfaDisable _ => { user with mfaEnabled := false, mfaSecret := none }
  | .revokeAllSessions => user
  | .enforceCentral _ => { user with centralAuthEnforced := true }
  | .enrollCentral centralSubject =>
    { user with
      authUserId := some centralSubject, centralAuthEnforced := true }

end Revocation

inductive AuthCall where
  | idle
  /-- A sign-in whose credentials have been accepted. -/
  | authenticated (version origin : ℕ)
  /-- A refresh that has read its session, and one that has read the user
  too. -/
  | sessionRead (sessionId origin : ℕ)
  | refreshing (sessionId version origin : ℕ)
  /-- A revocation that has read the user, and one that has marked the
  sessions that it saw. -/
  | revoking (revocation : Revocation) (version : ℕ)
  | swept (revocation : Revocation) (version : ℕ) (sessionIds : List ℕ) (at_ : ℤ)
  /-- `mfa_setup` before its commit. -/
  | settingUp (secret : String)
  | ended

inductive AuthStep where
  | tick (passed : ℕ)
  /-- The checks of `login`; the second factor covers the recovery code or
  the one-time code, and the step-up. -/
  | login (password : String) (secondFactor : Bool)
  | passkeyAuthVerify (verified : Bool)
  /-- `refresh` up to its check of the session, and its read of the user. -/
  | refresh (token : ℕ)
  | loadUser
  | revoke (revocation : Revocation)
  /-- `_revoke_all_sessions`. -/
  | sweep
  | mfaSetup (secret : String)
  | commit
  deriving DecidableEq

namespace SessionTables

/-- `_new_session` and the tokens that go with it, committed. -/
def mint (tools : AuthTools) (tables : SessionTables) (version origin : ℕ) : SessionTables :=
  { tables with
    sessions := tables.sessions ++
      [{ id := tables.nextId, origin := origin
         expiresAt := tables.now + tools.refreshLifetime }]
    accessTokens := tables.accessTokens ++
      [{ sv := version, origin := origin
         exp := tables.now + tools.accessLifetime }]
    nextId := tables.nextId + 1 }

def revoke (tables : SessionTables) (ids : List ℕ) (now : ℤ) : SessionTables :=
  { tables with
    sessions := tables.sessions.map fun session =>
      if session.id ∈ ids then { session with revokedAt := some now }
      else session }

def perform (tools : AuthTools) (_ : ℕ) :
    AuthStep → SessionTables → AuthCall → SessionTables × AuthCall
  | .tick passed, tables, call => ({ tables with now := tables.now + passed }, call)
  | .login password secondFactor, tables, .idle =>
    let user := tables.user
    if tools.verifyPassword password user.passwordHash && user.isActive &&
        user.emailVerified && ! user.centralAuthEnforced && secondFactor then
      (tables, .authenticated user.sessionVersion tables.revocations)
    else (tables, .ended)
  | .passkeyAuthVerify verified, tables, .idle =>
    let user := tables.user
    if verified && user.isActive && user.emailVerified && ! user.centralAuthEnforced then
      (tables, .authenticated user.sessionVersion tables.revocations)
    else (tables, .ended)
  | .refresh token, tables, .idle =>
    match tables.session? token with
    | none => (tables, .ended)
    | some session =>
      if session.revokedAt.isNone && tables.now < session.expiresAt then
        (tables, .sessionRead session.id session.origin)
      else (tables, .ended)
  | .loadUser, tables, .sessionRead sessionId origin =>
    if tables.user.isActive && tables.user.emailVerified then
      (tables, .refreshing sessionId tables.user.sessionVersion origin)
    else (tables, .ended)
  | .revoke revocation, tables, .idle =>
    if revocation.accepts tools tables.user then
      (tables, .revoking revocation tables.user.sessionVersion)
    else (tables, .ended)
  | .sweep, tables, .revoking revocation version =>
    let seen := tables.sessions.filter fun session => session.revokedAt.isNone
    (tables, .swept revocation version (seen.map UserSession.id) tables.now)
  | .mfaSetup secret, tables, .idle =>
    if tables.user.isActive && ! tables.user.mfaEnabled then (tables, .settingUp secret)
    else (tables, .ended)
  | .commit, tables, .settingUp secret =>
    ({ tables with user := { tables.user with mfaSecret := some secret } }, .ended)
  | .commit, tables, .authenticated version origin => (tables.mint tools version origin, .ended)
  | .commit, tables, .refreshing sessionId version origin =>
    ((tables.revoke [sessionId] tables.now).mint tools version origin, .ended)
  | .commit, tables, .swept revocation version sessionIds at_ =>
    ({ tables.revoke sessionIds at_ with
        user :=
          { revocation.write tools tables.user with
            sessionVersion := version + 1 }
        revocations := tables.revocations + 1 },
      .ended)
  | _, tables, call => (tables, call)

end SessionTables

end Platform

end Ithute
