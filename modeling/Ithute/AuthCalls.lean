import Ithute.AuthTables
import Mathlib.Data.List.Basic

/-!
# Calls for codes and tokens

Authorization requests, both grants of the token endpoint, the refresh
endpoint and logouts run concurrently.  A call is cut at every statement that
reads rows which others may change.  A row that a call has selected for
update stays locked until the call ends, and a commit that writes a locked
row waits.

Passwords and browser cookies are checked elsewhere: a statement is told whom
they name.
-/

namespace Ithute.Auth

structure TokenServices where
  hashRefreshToken : String → String
  hashAuthorizationCode : String → String
  pkceS256 : String → String

/-- Hashes that leave texts as they are. -/
def plainHashes : TokenServices where
  hashRefreshToken := id
  hashAuthorizationCode := id
  pkceS256 := id

structure TokenSettings where
  authorizationCodeMinutes : ℕ := 5
  refreshTokenDays : ℕ := 30
  redirectUris : String → List String := fun _ => []

def microsPerMinute : ℕ := 60000000

structure AuthorizationRequest where
  responseType : String
  clientId : String
  redirectUri : String
  codeChallenge : String
  codeChallengeMethod : String
  scope : String
  state : String
  nonce : String

/-- A token request with the grant `authorization_code`. -/
structure CodeGrant where
  clientId : String
  code : Option String
  redirectUri : Option String
  codeVerifier : Option String

/-- A token request with the grant `refresh_token`. -/
structure RefreshGrant where
  clientId : String
  refreshToken : Option String

structure RefreshRequest where
  refreshToken : String
  clientId : String

/-- An exchange that presents its code, its redirection and its verifier. -/
structure Exchange where
  clientId : String
  code : String
  redirectUri : String
  codeVerifier : String

def isPkceCharacter (character : Char) : Bool :=
  decide (character.toNat < 0x80) && (character.isAlphanum || character = '-' || character = '.' ||
      character = '_' || character = '~')

def validPkceValue (value : String) : Bool :=
  decide (43 ≤ value.length ∧ value.length ≤ 128) && value.toList.all isPkceCharacter

/-- `str.split`. -/
def splitWords (text : String) : List String :=
  ((text.toList.splitOnP fun character =>
    isPythonSpace (Fin.ofNat _ character.toNat)).filter
      fun word => decide (word ≠ [])).map String.ofList

def allowedScopes : List String := ["openid", "profile", "email", "phone"]

/-- The scope of a code; `none` is `invalid_scope`. -/
def normalizedScope (scope : String) : Option String :=
  let words := splitWords scope
  let requested := if words = [] then ["openid"] else words
  if "openid" ∈ requested ∧ ∀ word ∈ requested, word ∈ allowedScopes then
    some (" ".intercalate requested.eraseDups)
  else none

inductive AuthCall where
  | authorizeValidated (request : AuthorizationRequest) (scope : String)
  | authorizeSignedIn (request : AuthorizationRequest) (scope : String)
      (user : User) (method : AuthMethod)
  | codeClient (request : CodeGrant) (client : Application)
  | codeAllowed (exchange : Exchange) (client : Application)
  | codeLocked (exchange : Exchange) (client : Application) (row : AuthorizationCode) (now : ℕ)
  | codeReady (exchange : Exchange) (client : Application)
      (row : AuthorizationCode) (now : ℕ) (user : User)
  | refreshClient (request : RefreshGrant)
  | refreshLocked (token : String) (row : AuthSession) (now : ℕ)
  | refreshReady (token : String) (row : AuthSession) (now : ℕ) (user : User)
  | plainClient (request : RefreshRequest)
  | plainFound (token : String) (row : AuthSession)
  | plainReady (token : String) (row : AuthSession) (user : User)
  | logoutFound (row : AuthSession)

/-- A row that a call has selected for update. -/
inductive RowLock where
  | code (id : ℕ)
  | session (id : ℕ)
  deriving DecidableEq

namespace AuthCall

def lock? : AuthCall → Option RowLock
  | .codeLocked _ _ row _ | .codeReady _ _ row _ _ => some (.code row.id)
  | .refreshLocked _ row _ | .refreshReady _ row _ _ => some (.session row.id)
  | _ => none

def waitsFor? : AuthCall → Option RowLock
  | .plainReady _ row _ | .logoutFound row => some (.session row.id)
  | _ => none

end AuthCall

structure TokenState where
  clock : ℕ := 0
  users : List User := []
  applications : List Application := []
  redirectUris : List ApplicationRedirectURI := []
  codes : List AuthorizationCode := []
  sessions : List AuthSession := []
  calls : List AuthCall := []
  /-- The codes that have created a session, with the session. -/
  redeemed : List (ℕ × ℕ) := []
  /-- The refresh tokens that were returned, with their session. -/
  issued : List (String × ℕ) := []
  /-- The refresh tokens that were exchanged. -/
  exchanged : List String := []

inductive TokenResponse where
  | refused (status : ℕ) (detail : String)
  | loginPage
  | redirected (redirectUri code state : String)
  | tokens (sessionId userId : ℕ) (clientId refreshToken : String)
  | loggedOut

inductive TokenOutcome where
  | responds (response : TokenResponse)
  | continues (call : AuthCall)

structure TokenInput where
  newId : ℕ := 0
  newToken : String := ""
  signedIn : Option (ℕ × AuthMethod) := none

namespace TokenState

variable (state : TokenState)

def refuse (status : ℕ) (detail : String) : TokenState × TokenOutcome :=
  (state, .responds (.refused status detail))

def continues (call : AuthCall) : TokenState × TokenOutcome := (state, .continues call)

def locked (lock : RowLock) : Bool := decide (lock ∈ state.calls.filterMap AuthCall.lock?)

def activeClient (clientId : String) : Option Application :=
  state.applications.find? fun row => decide (row.clientId = clientId ∧ row.isActive = true)

/-- `_require_client_redirect`; the error is its detail. -/
def requireClientRedirect (settings : TokenSettings)
    (clientId redirectUri : String) : Except String Application :=
  match state.activeClient clientId with
  | none => .error "invalid_client"
  | some client =>
    let managed := (state.redirectUris.filter fun row =>
      decide (row.applicationId = client.id)).map ApplicationRedirectURI.redirectUri
    let approved := if managed = [] then settings.redirectUris clientId else managed
    if redirectUri ∈ approved then .ok client
    else .error "invalid_redirect_uri"

def validateAuthorizationRequest (settings : TokenSettings)
    (request : AuthorizationRequest) : Except String String :=
  match state.requireClientRedirect settings request.clientId request.redirectUri with
  | .error detail => .error detail
  | .ok _ =>
    if request.responseType ≠ "code" then
      .error "unsupported_response_type"
    else if request.codeChallengeMethod ≠ "S256" then
      .error "code_challenge_method_must_be_S256"
    else if validPkceValue request.codeChallenge = false then
      .error "invalid_code_challenge"
    else if request.state = "" ∨ 512 < request.state.length then
      .error "state_required"
    else if request.nonce.length < 16 ∨ 512 < request.nonce.length then
      .error "nonce_required"
    else
      match normalizedScope request.scope with
      | none => .error "invalid_scope"
      | some scope => .ok scope

def authorize (settings : TokenSettings) (request : AuthorizationRequest) :
    TokenState × TokenOutcome :=
  match state.validateAuthorizationRequest settings request with
  | .error detail => state.refuse 400 detail
  | .ok scope => state.continues (.authorizeValidated request scope)

def signIn (request : AuthorizationRequest) (scope : String)
    (signedIn : Option (ℕ × AuthMethod)) : TokenState × TokenOutcome :=
  match signedIn with
  | none => (state, .responds .loginPage)
  | some (userId, method) =>
    match state.users.find? fun row => decide (row.id = userId) with
    | none => (state, .responds .loginPage)
    | some user =>
      if user.isActive = false then (state, .responds .loginPage)
      else
        state.continues (.authorizeSignedIn request scope user method)

def issueAuthorizationCode (services : TokenServices)
    (settings : TokenSettings) (request : AuthorizationRequest)
    (scope : String) (user : User) (method : AuthMethod)
    (input : TokenInput) : TokenState × TokenOutcome :=
  let row : AuthorizationCode :=
    { id := input.newId
      codeHash := services.hashAuthorizationCode input.newToken
      userId := user.id
      clientId := request.clientId
      redirectUri := request.redirectUri
      codeChallenge := request.codeChallenge
      nonce := request.nonce
      scope := scope
      authMethod := method
      expiresAt := state.clock + settings.authorizationCodeMinutes * microsPerMinute }
  if ∃ stored ∈ state.codes, stored.id = row.id ∨ stored.codeHash = row.codeHash then
    state.refuse 500 "Internal Server Error"
  else
    ({ state with codes := state.codes ++ [row] },
      .responds (.redirected request.redirectUri input.newToken request.state))

def tokenCode (request : CodeGrant) : TokenState × TokenOutcome :=
  match state.activeClient request.clientId with
  | none => state.refuse 400 "invalid_client"
  | some client => state.continues (.codeClient request client)

def checkExchange (settings : TokenSettings) (request : CodeGrant) : TokenState × TokenOutcome :=
  match presentText request.code, presentText request.redirectUri,
      presentText request.codeVerifier with
  | some code, some redirectUri, some codeVerifier =>
    match state.requireClientRedirect settings request.clientId
        redirectUri with
    | .error detail => state.refuse 400 detail
    | .ok client =>
      if validPkceValue codeVerifier = false then
        state.refuse 400 "invalid_code_verifier"
      else
        state.continues (.codeAllowed
          { clientId := request.clientId
            code := code
            redirectUri := redirectUri
            codeVerifier := codeVerifier } client)
  | _, _, _ => state.refuse 400 "invalid_request"

/-- The row is selected for update; the call waits while it is locked. -/
def lockCode (services : TokenServices) (exchange : Exchange)
    (client : Application) : TokenState × TokenOutcome :=
  match state.codes.find? fun row => decide
      (row.codeHash = services.hashAuthorizationCode exchange.code) with
  | none => state.refuse 400 "invalid_grant"
  | some row =>
    if state.locked (.code row.id) then
      state.continues (.codeAllowed exchange client)
    else if row.clientId ≠ exchange.clientId ∨ row.redirectUri ≠ exchange.redirectUri ∨
        row.consumedAt.isSome ∨ row.expiresAt ≤ state.clock then
      state.refuse 400 "invalid_grant"
    else if services.pkceS256 exchange.codeVerifier ≠ row.codeChallenge then
      state.refuse 400 "invalid_grant"
    else state.continues (.codeLocked exchange client row state.clock)

def activeUser (userId : ℕ) : Option User :=
  (state.users.find? fun row => decide (row.id = userId)).filter User.isActive

def readCodeUser (exchange : Exchange) (client : Application)
    (row : AuthorizationCode) (now : ℕ) : TokenState × TokenOutcome :=
  match state.activeUser row.userId with
  | none => state.refuse 400 "invalid_grant"
  | some user => state.continues (.codeReady exchange client row now user)

def newSession (services : TokenServices) (settings : TokenSettings)
    (exchange : Exchange) (row : AuthorizationCode) (now : ℕ) (user : User)
    (input : TokenInput) : AuthSession where
  id := input.newId
  userId := user.id
  clientId := exchange.clientId
  refreshTokenHash := services.hashRefreshToken input.newToken
  expiresAt := now + settings.refreshTokenDays * 1440 * microsPerMinute
  lastSeenAt := now
  authMethod := row.authMethod
  stepUpAt := if row.authMethod = .passkey then some now else none

def SessionTaken (row : AuthSession) : Prop :=
  ∃ stored ∈ state.sessions, stored.id = row.id ∨ stored.refreshTokenHash = row.refreshTokenHash

instance (row : AuthSession) : Decidable (state.SessionTaken row) :=
  inferInstanceAs (Decidable (∃ stored ∈ state.sessions, _))

def commitCode (services : TokenServices) (settings : TokenSettings)
    (exchange : Exchange) (row : AuthorizationCode) (now : ℕ) (user : User)
    (input : TokenInput) : TokenState × TokenOutcome :=
  let session := newSession services settings exchange row now user input
  if state.SessionTaken session then
    state.refuse 500 "Internal Server Error"
  else
    ({ state with
        codes := state.codes.map fun stored =>
          if stored.id = row.id then
            { stored with consumedAt := some now }
          else stored
        sessions := state.sessions ++ [session]
        redeemed := state.redeemed ++ [(row.id, session.id)]
        issued := state.issued ++ [(input.newToken, session.id)] },
      .responds (.tokens session.id user.id exchange.clientId input.newToken))

/-- A session that no unexpired, unrevoked row stands for is refused. -/
def usableSession (row : AuthSession) (clientId : String) : Bool :=
  decide (row.clientId = clientId ∧ row.revokedAt = none ∧ state.clock < row.expiresAt)

def sessionOf (services : TokenServices) (token : String) : Option AuthSession :=
  state.sessions.find? fun row => decide (row.refreshTokenHash = services.hashRefreshToken token)

def tokenRefresh (request : RefreshGrant) : TokenState × TokenOutcome :=
  match state.activeClient request.clientId with
  | none => state.refuse 400 "invalid_client"
  | some _ => state.continues (.refreshClient request)

def lockSession (services : TokenServices) (request : RefreshGrant) : TokenState × TokenOutcome :=
  match presentText request.refreshToken with
  | none => state.refuse 400 "invalid_request"
  | some token =>
    match state.sessionOf services token with
    | none => state.refuse 400 "invalid_grant"
    | some row =>
      if state.locked (.session row.id) then
        state.continues (.refreshClient request)
      else if state.usableSession row request.clientId then
        state.continues (.refreshLocked token row state.clock)
      else state.refuse 400 "invalid_grant"

def readSessionUser (token : String) (row : AuthSession) (now : ℕ) : TokenState × TokenOutcome :=
  match state.activeUser row.userId with
  | none => state.refuse 400 "invalid_grant"
  | some user => state.continues (.refreshReady token row now user)

/-- `require_client` of the refresh endpoint. -/
def refresh (request : RefreshRequest) : TokenState × TokenOutcome :=
  match state.activeClient request.clientId with
  | none => state.refuse 400 "unknown client"
  | some _ => state.continues (.plainClient request)

def findSession (services : TokenServices) (request : RefreshRequest) : TokenState × TokenOutcome :=
  match state.sessionOf services request.refreshToken with
  | none => state.refuse 401 "invalid refresh token"
  | some row =>
    if state.usableSession row request.clientId then
      state.continues (.plainFound request.refreshToken row)
    else state.refuse 401 "invalid refresh token"

def readPlainUser (token : String) (row : AuthSession) : TokenState × TokenOutcome :=
  match state.activeUser row.userId with
  | none => state.refuse 401 "user unavailable"
  | some user => state.continues (.plainReady token row user)

/-- The commit of either refresh writes what it has changed of the row that
it has loaded. -/
def commitRefresh (services : TokenServices) (token : String)
    (row : AuthSession) (seen : ℕ) (user : User) (input : TokenInput) : TokenState × TokenOutcome :=
  let hash := services.hashRefreshToken input.newToken
  let rotated := fun stored : AuthSession =>
    { stored with
      refreshTokenHash := changedColumn row.refreshTokenHash hash stored.refreshTokenHash
      lastSeenAt := changedColumn row.lastSeenAt seen stored.lastSeenAt }
  if ∃ stored ∈ state.sessions, stored.id ≠ row.id ∧ stored.refreshTokenHash = hash then
    state.refuse 500 "Internal Server Error"
  else
    ({ state with
        sessions := state.sessions.map fun stored =>
          if stored.id = row.id then rotated stored else stored
        issued := state.issued ++ [(input.newToken, row.id)]
        exchanged := state.exchanged ++ [token] },
      .responds (.tokens row.id user.id row.clientId input.newToken))

def logout (services : TokenServices) (token : String) : TokenState × TokenOutcome :=
  match state.sessionOf services token with
  | none => (state, .responds .loggedOut)
  | some row =>
    if row.revokedAt.isSome then (state, .responds .loggedOut)
    else state.continues (.logoutFound row)

def commitLogout (row : AuthSession) : TokenState × TokenOutcome :=
  ({ state with
      sessions := state.sessions.map fun stored =>
        if stored.id = row.id then
          { stored with
            revokedAt := some state.clock
            revokedReason := changedColumn row.revokedReason (some "logout") stored.revokedReason }
        else stored },
    .responds .loggedOut)

def advance (services : TokenServices) (settings : TokenSettings)
    (input : TokenInput) : AuthCall → TokenState × TokenOutcome
  | .authorizeValidated request scope => state.signIn request scope input.signedIn
  | .authorizeSignedIn request scope user method =>
    state.issueAuthorizationCode services settings request scope user method input
  | .codeClient request _ => state.checkExchange settings request
  | .codeAllowed exchange client => state.lockCode services exchange client
  | .codeLocked exchange client row now => state.readCodeUser exchange client row now
  | .codeReady exchange _ row now user =>
    state.commitCode services settings exchange row now user input
  | .refreshClient request => state.lockSession services request
  | .refreshLocked token row now => state.readSessionUser token row now
  | .refreshReady token row now user => state.commitRefresh services token row now user input
  | .plainClient request => state.findSession services request
  | .plainFound token row => state.readPlainUser token row
  | .plainReady token row user => state.commitRefresh services token row state.clock user input
  | .logoutFound row => state.commitLogout row

end TokenState

inductive TokenAction where
  | wait (elapsed : ℕ)
  | authorize (request : AuthorizationRequest)
  | tokenCode (request : CodeGrant)
  | tokenRefresh (request : RefreshGrant)
  | refresh (request : RefreshRequest)
  | logout (token : String)
  | advance (call : ℕ) (input : TokenInput)
  | crash (call : ℕ)
  /-- Another endpoint opens a session and returns its token. -/
  | openSession (row : AuthSession) (token : String)
  | setUserActive (id : ℕ) (active : Bool)
  | setApplicationActive (clientId : String) (active : Bool)

namespace TokenState

def resume (result : TokenState × TokenOutcome) : TokenState × Option TokenResponse :=
  match result.2 with
  | .responds response => (result.1, some response)
  | .continues call => ({ result.1 with calls := result.1.calls ++ [call] }, none)

def dropCall (state : TokenState) (index : ℕ) : TokenState :=
  { state with calls := state.calls.eraseIdx index }

def waits (state : TokenState) (call : AuthCall) : Bool := call.waitsFor?.any state.locked

def openSession (services : TokenServices) (state : TokenState)
    (row : AuthSession) (token : String) : TokenState :=
  let stored :=
    { row with
      refreshTokenHash := services.hashRefreshToken token
      revokedAt := none }
  if state.SessionTaken stored then state
  else
    { state with
      sessions := state.sessions ++ [stored]
      issued := state.issued ++ [(token, row.id)] }

def perform (services : TokenServices) (settings : TokenSettings)
    (state : TokenState) : TokenAction → TokenState × Option TokenResponse
  | .wait elapsed => ({ state with clock := state.clock + elapsed }, none)
  | .authorize request => resume (state.authorize settings request)
  | .tokenCode request => resume (state.tokenCode request)
  | .tokenRefresh request => resume (state.tokenRefresh request)
  | .refresh request => resume (state.refresh request)
  | .logout token => resume (state.logout services token)
  | .advance index input =>
    match state.calls[index]? with
    | none => (state, none)
    | some call =>
      if state.waits call then (state, none)
      else
        resume ((state.dropCall index).advance services settings input call)
  | .crash index => (state.dropCall index, none)
  | .openSession row token => (state.openSession services row token, none)
  | .setUserActive id active =>
    ({ state with
        users := state.users.map fun row =>
          if row.id = id then { row with isActive := active } else row },
      none)
  | .setApplicationActive clientId active =>
    ({ state with
        applications := state.applications.map fun row =>
          if row.clientId = clientId then { row with isActive := active }
          else row },
      none)

end TokenState

end Ithute.Auth
