import Ithute.Library.LockoutCounter
import Ithute.AuthCalls

/-!
# Signing in

The endpoints that take a password or a passkey, the reuse of a browser
session, and the exchange of a code.  A request is one step; what a user,
an administrator or the system owner changes of an account happens between
requests.

Passkey assertions are verified elsewhere: a step is told the verdict.  A
query that may select several rows returns any of them.
-/

namespace Ithute.Auth

open LockoutCounter (Counter Event)

/-- A row of the users table with the columns that sign-in reads. -/
structure Account extends User where
  passwordHash : String
  isPlatformAdmin : Bool := false
  totpEnabled : Bool := false
  totpSecretEncrypted : Option String := none
  failedLoginAttempts : ℕ := 0
  securityVersion : ℕ := 1
  lockedUntil : Option ℕ := none
  lastLoginAt : Option ℕ := none
  lastLoginIp : Option String := none
  deriving DecidableEq

structure MfaRecoveryCode where
  id : ℕ
  userId : ℕ
  codeHash : String
  usedAt : Option ℕ := none

structure AuditEvent where
  userId : Option ℕ
  eventType : String
  success : Bool
  clientId : String
  ipAddress : Option String
  createdAt : ℕ

/-- What `verify_second_factor` finds; it raises when the stored secret
cannot be decrypted. -/
inductive SecondFactor where
  | notRequired | totp | recovery (id : ℕ) | rejected | raises
  deriving DecidableEq

/-- The authentication that a cookie, a code or a session goes back to. -/
inductive Evidence where
  | passkey
  | password (factor : SecondFactor)
  deriving DecidableEq

def Evidence.isStrong : Evidence → Bool
  | .passkey | .password .totp | .password (.recovery _) => true
  | _ => false

structure BrowserCookie where
  token : String
  userId : ℕ
  securityVersion : ℕ
  authMethod : AuthMethod
  expiresAt : ℕ
  origin : Evidence

/-- What a code goes back to, and whether it was issued to a platform
administrator. -/
structure CodeOrigin where
  codeId : ℕ
  evidence : Evidence
  privileged : Bool

structure AccountEvent where
  userId : ℕ
  event : Event
  deriving DecidableEq

structure SignInServices extends TokenServices where
  lower : String → String
  isDigit : Char → Bool
  verifyPassword : String → String → Bool
  decryptTotpSecret : String → Option String
  verifyTotp : String → String → ℕ → Bool
  hashRecoveryCode : String → String

def plainCredentials : SignInServices where
  toTokenServices := plainHashes
  lower := id
  isDigit := Char.isDigit
  verifyPassword := fun password hash => decide (password = hash)
  decryptTotpSecret := some
  verifyTotp := fun secret code _ => decide (code = secret)
  hashRecoveryCode := id

structure SignInSettings extends TokenSettings where
  maxLoginFailures : ℤ := 5
  loginLockMinutes : ℕ := 15
  loginRateWindowSeconds : ℕ := 900
  loginRateMaxFailuresPerIp : ℤ := 50
  browserSessionHours : ℕ := 8

def normalizeEmail (services : SignInServices) (value : String) : Option String :=
  presentText (some (services.lower (stripText value)))

def normalizePhone (services : SignInServices) (value : String) : Option String :=
  let raw := (stripText value).toList
  let lead := if raw.head? = some '+' then ['+'] else []
  let digits := raw.filter services.isDigit
  if digits = [] then none else some (String.ofList (lead ++ digits))

namespace Account

variable (account : Account)

def counter : Counter where
  failures := account.failedLoginAttempts
  lockedUntil := account.lockedUntil

def isLocked (now : ℕ) : Bool := account.counter.isLocked now

def countFailure (settings : SignInSettings) (now : ℕ) : Account :=
  { account with
    failedLoginAttempts := account.failedLoginAttempts + 1
    lockedUntil :=
      if settings.maxLoginFailures ≤ (account.failedLoginAttempts + 1 : ℕ) then
        some (now + settings.loginLockMinutes * microsPerMinute)
      else account.lockedUntil }

def clearFailures : Account := { account with failedLoginAttempts := 0, lockedUntil := none }

end Account

def useRecoveryCode (services : SignInServices)
    (rows : List MfaRecoveryCode) (account : Account) (code : String) : SecondFactor :=
  match rows.find? fun row => decide (row.userId = account.id ∧
        row.codeHash = services.hashRecoveryCode code ∧ row.usedAt = none) with
  | none => .rejected
  | some row => .recovery row.id

def verifySecondFactor (services : SignInServices) (rows : List MfaRecoveryCode) (account : Account)
    (code : Option String) (now : ℕ) : SecondFactor :=
  if account.totpEnabled = false then .notRequired
  else
    match presentText code with
    | none => .rejected
    | some code =>
      match presentText account.totpSecretEncrypted with
      | none => useRecoveryCode services rows account code
      | some encrypted =>
        match services.decryptTotpSecret encrypted with
        | none => .raises
        | some secret =>
          if services.verifyTotp secret code now then .totp
          else useRecoveryCode services rows account code

structure SignInState where
  clock : ℕ := 0
  accounts : List Account := []
  applications : List Application := []
  redirectUris : List ApplicationRedirectURI := []
  recoveryCodes : List MfaRecoveryCode := []
  audits : List AuditEvent := []
  codes : List AuthorizationCode := []
  sessions : List AuthSession := []
  cookies : List BrowserCookie := []
  /-- The wrong guesses that were evaluated and the clearings of the
  counters, newest first. -/
  history : List AccountEvent := []
  /-- The authentications that codes and sessions go back to. -/
  codeOrigins : List CodeOrigin := []
  sessionOrigins : List (ℕ × Evidence) := []

inductive SignInResponse where
  | refused (status : ℕ) (detail : String)
  | page (status : ℕ) (error : Option String)
  | redirected (redirectUri code state : String) (cookie : Option String)
  | tokens (sessionId userId : ℕ) (clientId refreshToken : String)
  | signedIn (cookie : String)

/-- What a request draws, and which of several selected rows it is given. -/
structure SignInInput where
  newId : ℕ := 0
  newToken : String := ""
  newCookie : String := ""
  pick : ℕ := 0

structure LoginRequest where
  identifier : String
  password : String
  clientId : String
  mfaCode : Option String
  ipAddress : Option String

structure CredentialsForm where
  request : AuthorizationRequest
  identifier : String
  password : String
  mfaCode : String
  ipAddress : Option String

structure PasskeyAssertion where
  userId : ℕ
  clientId : String
  verified : Bool
  ipAddress : Option String

namespace SignInState

variable (services : SignInServices) (settings : SignInSettings) (state : SignInState)

def tokens : TokenState where
  clock := state.clock
  users := state.accounts.map Account.toUser
  applications := state.applications
  redirectUris := state.redirectUris
  codes := state.codes
  sessions := state.sessions

def account? (id : ℕ) : Option Account := state.accounts.find? fun row => decide (row.id = id)

/-- An active account by its email or its phone; an absent value selects
the rows without one. -/
def selectUser (identifier : String) (pick : ℕ) : Option Account :=
  let rows := state.accounts.filter fun row => decide
    ((row.email = normalizeEmail services identifier ∨
      row.phone = normalizePhone services identifier) ∧ row.isActive = true)
  rows[pick % rows.length]?

def failedLoginEventTypes : List String :=
  ["login_failed", "mfa_challenge_failed", "oidc_login_failed", "oidc_mfa_failed"]

def loginRateLimited (ipAddress : Option String) : Bool :=
  match presentText ipAddress with
  | none => false
  | some address =>
    decide (0 < settings.loginRateMaxFailuresPerIp) && decide (settings.loginRateMaxFailuresPerIp ≤
        ((state.audits.filter fun row => decide
          (row.ipAddress = some address ∧ row.success = false ∧
            row.eventType ∈ failedLoginEventTypes ∧ state.clock ≤ row.createdAt +
              settings.loginRateWindowSeconds * 1000000)).length : ℕ))

def saveAccount (account : Account) : SignInState :=
  { state with
    accounts := state.accounts.map fun row => if row.id = account.id then account else row }

def recordAudit (eventType : String) (user : Option Account)
    (success : Bool) (clientId : String) (ipAddress : Option String) : SignInState :=
  { state with
    audits := state.audits ++
      [{ userId := user.map fun account => account.id
         eventType := eventType
         success := success
         clientId := clientId
         ipAddress := ipAddress
         createdAt := state.clock }] }

def note (userId : ℕ) (failed : Bool) : SignInState :=
  { state with
    history :=
      { userId := userId, event := { time := state.clock, failed := failed } } :: state.history }

def rejectGuess (user : Account) (eventType clientId : String)
    (ipAddress : Option String) : SignInState :=
  ((state.saveAccount (user.countFailure settings state.clock)).recordAudit
    eventType (some user) false clientId ipAddress).note user.id true

def acceptGuess (user : Account) (factor : SecondFactor) (eventType : String)
    (clientId : String) (ipAddress lastLoginIp : Option String) : SignInState :=
  let cleared : Account :=
    { user.clearFailures with
      lastLoginAt := some state.clock
      lastLoginIp := lastLoginIp }
  let used : SignInState :=
    { state.saveAccount cleared with
      recoveryCodes := state.recoveryCodes.map fun row : MfaRecoveryCode =>
        if factor = .recovery row.id then
          { row with usedAt := some state.clock }
        else row }
  (used.recordAudit eventType (some user) true clientId ipAddress).note user.id false

def insertSession (row : AuthSession) (origin : Evidence) : SignInState :=
  { state with
    sessions := state.sessions ++ [row]
    sessionOrigins := state.sessionOrigins ++ [(row.id, origin)] }

/-- `_issue_authorization_code`; `none` when a unique column refuses it. -/
def issueCode (request : AuthorizationRequest) (scope : String)
    (user : Account) (method : AuthMethod) (origin : Evidence)
    (input : SignInInput) : Option SignInState :=
  match state.tokens.issueAuthorizationCode services.toTokenServices
      settings.toTokenSettings request scope user.toUser method
      { newId := input.newId, newToken := input.newToken } with
  | (tokens, .responds (.redirected _ _ _)) =>
    some { state with
      codes := tokens.codes
      codeOrigins := state.codeOrigins ++
        [{ codeId := input.newId
           evidence := origin
           privileged := user.isPlatformAdmin }] }
  | _ => none

/-- `create_browser_session_token`; its expiry counts whole seconds. -/
def setCookie (user : Account) (method : AuthMethod) (origin : Evidence)
    (input : SignInInput) : SignInState :=
  { state with
    cookies := state.cookies ++
      [{ token := input.newCookie
         userId := user.id
         securityVersion := user.securityVersion
         authMethod := method
         expiresAt := (state.clock + settings.browserSessionHours * 60 *
           microsPerMinute) / 1000000 * 1000000
         origin := origin }] }

def loginSession (user : Account) (clientId : String) (method : AuthMethod)
    (stepUpAt : Option ℕ) (input : SignInInput) : AuthSession where
  id := input.newId
  userId := user.id
  clientId := clientId
  refreshTokenHash := services.hashRefreshToken input.newToken
  expiresAt := state.clock + settings.refreshTokenDays * 1440 * microsPerMinute
  lastSeenAt := state.clock
  authMethod := method
  stepUpAt := stepUpAt

def openSession (user : Account) (factor : SecondFactor)
    (request : LoginRequest) (input : SignInInput) : SignInState × SignInResponse :=
  let row := state.loginSession services settings user request.clientId .password none input
  if state.tokens.SessionTaken row then
    (state, .refused 500 "Internal Server Error")
  else
    ((state.acceptGuess user factor "login_succeeded" request.clientId
        request.ipAddress request.ipAddress).insertSession row (.password factor),
      .tokens row.id user.id request.clientId input.newToken)

/-- `POST /v1/auth/login`. -/
def login (request : LoginRequest) (input : SignInInput) : SignInState × SignInResponse :=
  if (state.tokens.activeClient request.clientId).isNone then
    (state, .refused 400 "unknown client")
  else if state.loginRateLimited settings request.ipAddress then
    (state.recordAudit "login_rate_limited" none false request.clientId request.ipAddress,
      .refused 429 "too many login attempts")
  else
    match state.selectUser services request.identifier input.pick with
    | none =>
      (state.recordAudit "login_failed" none false request.clientId request.ipAddress,
        .refused 401 "invalid credentials")
    | some user =>
      if user.isLocked state.clock then
        (state.recordAudit "login_blocked" (some user) false request.clientId request.ipAddress,
          .refused 401 "invalid credentials")
      else if services.verifyPassword request.password user.passwordHash = false then
        (state.rejectGuess settings user "login_failed" request.clientId request.ipAddress,
          .refused 401 "invalid credentials")
      else
        match verifySecondFactor services state.recoveryCodes user request.mfaCode state.clock with
        | .raises => (state, .refused 500 "Internal Server Error")
        | .rejected =>
          (state.rejectGuess settings user "mfa_challenge_failed"
              request.clientId request.ipAddress, .refused 401 "MFA required or invalid code")
        | factor => state.openSession services settings user factor request input

def browserSession (cookie : Option String) : Option (Account × BrowserCookie) :=
  (presentText cookie).bind fun raw =>
    (state.cookies.find? fun row => decide
        (row.token = raw ∧ state.clock < row.expiresAt)).bind fun claims =>
      (state.account? claims.userId).bind fun user =>
        if user.isActive = false ∨ user.securityVersion ≠ claims.securityVersion then none
        else if user.isPlatformAdmin = true ∧ claims.authMethod ≠ .passkey
          then none
        else some (user, claims)

/-- `GET /oauth/authorize`. -/
def authorizeGet (request : AuthorizationRequest) (cookie : Option String)
    (input : SignInInput) : SignInState × SignInResponse :=
  match state.tokens.validateAuthorizationRequest settings.toTokenSettings
      request with
  | .error detail => (state, .refused 400 detail)
  | .ok scope =>
    match state.browserSession cookie with
    | none => (state, .page 200 none)
    | some (user, claims) =>
      match state.issueCode services settings request scope user
          claims.authMethod claims.origin input with
      | none => (state, .refused 500 "Internal Server Error")
      | some issued =>
        (issued, .redirected request.redirectUri input.newToken
          request.state none)

/-- The end of a successful `POST /oauth/authorize`. -/
def authorizeUser (form : CredentialsForm) (scope : String)
    (user : Account) (factor : SecondFactor) (input : SignInInput) : SignInState × SignInResponse :=
  let accepted := state.acceptGuess user factor "oidc_login_succeeded"
    form.request.clientId form.ipAddress form.ipAddress
  match accepted.issueCode services settings form.request scope user
      .password (.password factor) input with
  | none => (state, .refused 500 "Internal Server Error")
  | some issued =>
    (issued.setCookie settings user .password (.password factor) input,
      .redirected form.request.redirectUri input.newToken
        form.request.state (some input.newCookie))

/-- `POST /oauth/authorize`. -/
def authorizePost (form : CredentialsForm) (input : SignInInput) : SignInState × SignInResponse :=
  match state.tokens.validateAuthorizationRequest settings.toTokenSettings form.request with
  | .error detail => (state, .refused 400 detail)
  | .ok scope =>
    let clientId := form.request.clientId
    if state.loginRateLimited settings form.ipAddress then
      (state.recordAudit "oidc_login_rate_limited" none false clientId form.ipAddress,
        .page 429 (some "Too many sign-in attempts. Wait a few minutes and try again."))
    else
      match state.selectUser services form.identifier input.pick with
      | none =>
        (state.recordAudit "oidc_login_failed" none false clientId form.ipAddress,
          .page 401 (some "The email or password is incorrect."))
      | some user =>
        if user.isLocked state.clock then
          (state.recordAudit "oidc_login_blocked" (some user) false clientId form.ipAddress,
            .page 401 (some "The email or password is incorrect."))
        else if services.verifyPassword form.password user.passwordHash = false then
          (state.rejectGuess settings user "oidc_login_failed" clientId form.ipAddress,
            .page 401 (some "The email or password is incorrect."))
        else if user.isPlatformAdmin then
          (state.recordAudit "privileged_password_login_blocked"
              (some user) false clientId form.ipAddress,
            .page 403 (some "Privileged accounts must sign in with a passkey."))
        else
          match verifySecondFactor services state.recoveryCodes user
              (presentText (some form.mfaCode)) state.clock with
          | .raises => (state, .refused 500 "Internal Server Error")
          | .rejected =>
            (state.rejectGuess settings user "oidc_mfa_failed" clientId form.ipAddress, .page 401
                (some "Enter a valid authenticator or recovery code."))
          | factor =>
            state.authorizeUser services settings form scope user factor input

/-- The end of a successful `POST /v1/admin/authorize`. -/
def stepUpUser (form : CredentialsForm) (scope : String) (user : Account)
    (factor : SecondFactor) (input : SignInInput) : SignInState × SignInResponse :=
  let accepted := state.acceptGuess user factor
    "platform_admin_step_up_succeeded" form.request.clientId form.ipAddress user.lastLoginIp
  match accepted.issueCode services settings form.request scope user
      .password (.password factor) input with
  | none => (state, .refused 500 "Internal Server Error")
  | some issued =>
    (issued, .redirected form.request.redirectUri input.newToken form.request.state none)

def denyStepUp (form : CredentialsForm) (eventType : String)
    (user : Option Account) (status : ℕ) (error : String) : SignInState × SignInResponse :=
  (state.recordAudit eventType user false form.request.clientId
    form.ipAddress, .page status (some error))

/-- `POST /v1/admin/authorize`.  A wrong password is evaluated and not
counted. -/
def stepUpPost (form : CredentialsForm) (input : SignInInput) : SignInState × SignInResponse :=
  match state.tokens.validateAuthorizationRequest settings.toTokenSettings form.request with
  | .error detail => (state, .refused 400 detail)
  | .ok scope =>
    if form.request.clientId ≠ "mailbox-dns" then
      (state, .refused 400 "platform_admin_console_client_required")
    else if state.loginRateLimited settings form.ipAddress then
      (state.recordAudit "platform_admin_step_up_rate_limited" none false
          form.request.clientId form.ipAddress, .refused 429 "too_many_login_attempts")
    else
      match state.selectUser services form.identifier input.pick with
      | none =>
        state.denyStepUp form "platform_admin_step_up_failed" none 401
          "Unable to authorize this platform admin."
      | some user =>
        if user.isLocked state.clock then
          state.denyStepUp form "platform_admin_step_up_failed"
            (some user) 401 "Unable to authorize this platform admin."
        else if services.verifyPassword form.password user.passwordHash = false then
          (state.note user.id true).denyStepUp form "platform_admin_step_up_failed" (some user) 401
            "Unable to authorize this platform admin."
        else if user.isPlatformAdmin = false then
          state.denyStepUp form "platform_admin_step_up_denied" (some user) 403
            "This !thute account is not a platform admin."
        else if user.totpEnabled = false then
          state.denyStepUp form "platform_admin_step_up_mfa_required" (some user) 403
            "Platform administration requires MFA. Enable MFA on your !thute account first."
        else
          match verifySecondFactor services state.recoveryCodes user
              (some form.mfaCode) state.clock with
          | .raises => (state, .refused 500 "Internal Server Error")
          | .rejected =>
            (state.rejectGuess settings user "platform_admin_step_up_mfa_failed"
                form.request.clientId form.ipAddress,
              .page 401 (some "Unable to authorize this platform admin."))
          | factor =>
            state.stepUpUser services settings form scope user factor input

/-- The checks of the grant `authorization_code`: its statements up to the
commit, with nothing in between. -/
def readyCode (request : CodeGrant) :
    Except SignInResponse (Exchange × AuthorizationCode × ℕ × User) :=
  let advance := fun call => (state.tokens.advance services.toTokenServices
    settings.toTokenSettings {} call).2
  match (state.tokens.tokenCode request).2 with
  | .continues required =>
    match advance required with
    | .continues allowed =>
      match advance allowed with
      | .continues locked =>
        match advance locked with
        | .continues (.codeReady exchange _ row now user) => .ok (exchange, row, now, user)
        | _ => .error (.refused 400 "invalid_grant")
      | _ => .error (.refused 400 "invalid_grant")
    | .responds (.refused status detail) => .error (.refused status detail)
    | _ => .error (.refused 400 "invalid_request")
  | .responds (.refused status detail) => .error (.refused status detail)
  | _ => .error (.refused 400 "invalid_client")

def exchangedSession (exchange : Exchange) (row : AuthorizationCode)
    (now : ℕ) (user : User) (input : SignInInput) : AuthSession :=
  TokenState.newSession services.toTokenServices settings.toTokenSettings
    exchange row now user { newId := input.newId, newToken := input.newToken }

/-- The grant `authorization_code` of `POST /oauth/token`. -/
def exchangeCode (request : CodeGrant) (input : SignInInput) : SignInState × SignInResponse :=
  match state.readyCode services settings request with
  | .error response => (state, response)
  | .ok (exchange, row, now, user) =>
    let session := exchangedSession services settings exchange row now user input
    if state.tokens.SessionTaken session then
      (state, .refused 500 "Internal Server Error")
    else
      ({ state with
          codes := state.codes.map fun stored =>
            if stored.id = row.id then
              { stored with consumedAt := some now }
            else stored
          sessions := state.sessions ++ [session]
          sessionOrigins := state.sessionOrigins ++ (state.codeOrigins.filter fun origin =>
              decide (origin.codeId = row.id)).map fun origin => (session.id, origin.evidence) },
        .tokens session.id user.id exchange.clientId input.newToken)

def rejectPasskey (user : Account) (assertion : PasskeyAssertion)
    (clientId : String) : SignInState × SignInResponse :=
  ((state.saveAccount (user.countFailure settings state.clock)).recordAudit
      "login_failed" (some user) false clientId assertion.ipAddress, .refused 401 "invalid passkey")

/-- `POST /v1/auth/passkey/verify`, for a registered passkey. -/
def passkeyVerify (assertion : PasskeyAssertion) (input : SignInInput) :
    SignInState × SignInResponse :=
  if (state.tokens.activeClient assertion.clientId).isNone then
    (state, .refused 400 "invalid_client")
  else if state.loginRateLimited settings assertion.ipAddress then
    (state.recordAudit "login_rate_limited" none false assertion.clientId
        assertion.ipAddress, .refused 429 "too many login attempts")
  else
    match state.account? assertion.userId with
    | none => (state, .refused 401 "user unavailable")
    | some user =>
      if user.isActive = false then
        (state, .refused 401 "user unavailable")
      else if user.isLocked state.clock then
        (state, .refused 401 "invalid passkey")
      else if assertion.verified = false then
        state.rejectPasskey settings user assertion assertion.clientId
      else
        let row := state.loginSession services settings user
          assertion.clientId .passkey (some state.clock) input
        if state.tokens.SessionTaken row then
          (state, .refused 500 "Internal Server Error")
        else
          ((state.acceptGuess user .notRequired
              "passkey_login_succeeded" assertion.clientId
              assertion.ipAddress assertion.ipAddress).insertSession row
                .passkey, .tokens row.id user.id assertion.clientId input.newToken)

/-- `POST /account/passkey-login/verify`, for a registered passkey. -/
def portalPasskeyVerify (assertion : PasskeyAssertion)
    (input : SignInInput) : SignInState × SignInResponse :=
  if state.loginRateLimited settings assertion.ipAddress then
    (state, .refused 429 "too many login attempts")
  else
    match state.account? assertion.userId with
    | none => (state, .refused 401 "invalid passkey")
    | some user =>
      if user.isActive = false ∨ user.isLocked state.clock = true then
        (state, .refused 401 "invalid passkey")
      else if assertion.verified = false then
        state.rejectPasskey settings user assertion "ithute-account"
      else
        ((state.acceptGuess user .notRequired "passkey_login_succeeded"
            "ithute-account" assertion.ipAddress
            assertion.ipAddress).setCookie settings user .passkey .passkey
              input, .signedIn input.newCookie)

end SignInState

/-- What happens to an account outside of sign-in. -/
inductive AccountChange where
  | platformAdmin (admin : Bool)
  | active (isActive : Bool)
  | totp (secret : Option String)
  | password (hash : String)
  /-- `confirm_password_reset`. -/
  | passwordReset (hash : String)
  | unlock

namespace AccountChange

def clears : AccountChange → Bool
  | .passwordReset _ | .unlock => true
  | _ => false

def apply (account : Account) : AccountChange → Account
  | .platformAdmin admin => { account with isPlatformAdmin := admin }
  | .active isActive => { account with isActive := isActive }
  | .totp secret =>
    { account with
      totpEnabled := secret.isSome
      totpSecretEncrypted := secret
      securityVersion := account.securityVersion + 1 }
  | .password hash =>
    { account with
      passwordHash := hash
      securityVersion := account.securityVersion + 1 }
  | .passwordReset hash =>
    { account.clearFailures with
      passwordHash := hash
      securityVersion := account.securityVersion + 1 }
  | .unlock => account.clearFailures

end AccountChange

inductive SignInAction where
  | wait (elapsed : ℕ)
  | login (request : LoginRequest) (input : SignInInput)
  | authorizeGet (request : AuthorizationRequest) (cookie : Option String) (input : SignInInput)
  | authorizePost (form : CredentialsForm) (input : SignInInput)
  | stepUpPost (form : CredentialsForm) (input : SignInInput)
  | exchangeCode (request : CodeGrant) (input : SignInInput)
  | passkeyVerify (assertion : PasskeyAssertion) (input : SignInInput)
  | portalPasskeyVerify (assertion : PasskeyAssertion) (input : SignInInput)
  | change (userId : ℕ) (change : AccountChange)
  | storeRecoveryCodes (userId : ℕ) (rows : List MfaRecoveryCode)
  | setApplicationActive (clientId : String) (active : Bool)

namespace SignInState

def changeAccount (state : SignInState) (userId : ℕ) (change : AccountChange) : SignInState :=
  match state.account? userId with
  | none => state
  | some account =>
    let changed := state.saveAccount (change.apply account)
    if change.clears then changed.note account.id false else changed

def perform (services : SignInServices) (settings : SignInSettings)
    (state : SignInState) : SignInAction → SignInState
  | .wait elapsed => { state with clock := state.clock + elapsed }
  | .login request input => (state.login services settings request input).1
  | .authorizeGet request cookie input =>
    (state.authorizeGet services settings request cookie input).1
  | .authorizePost form input => (state.authorizePost services settings form input).1
  | .stepUpPost form input => (state.stepUpPost services settings form input).1
  | .exchangeCode request input => (state.exchangeCode services settings request input).1
  | .passkeyVerify assertion input => (state.passkeyVerify services settings assertion input).1
  | .portalPasskeyVerify assertion input => (state.portalPasskeyVerify settings assertion input).1
  | .change userId change => state.changeAccount userId change
  | .storeRecoveryCodes userId rows =>
    { state with
      recoveryCodes := (state.recoveryCodes.filter fun row =>
        decide (row.userId ≠ userId)) ++ rows }
  | .setApplicationActive clientId active =>
    { state with
      applications := state.applications.map fun row =>
        if row.clientId = clientId then { row with isActive := active }
        else row }

def Performs (services : SignInServices) (settings : SignInSettings)
    (before : SignInState) (action : SignInAction) (after : SignInState) : Prop :=
  after = before.perform services settings action

end SignInState

end Ithute.Auth
