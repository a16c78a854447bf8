import Ithute.Library.UniqueRows
import Ithute.AuthTokenSteps
import Ithute.AuthSignIn

/-!
# Steps of signing in

What a step does, in the writes that the handlers share.  Every handler is
opened here once.
-/

namespace Ithute.Auth

open LockoutCounter (Counter Event)

@[simp]
theorem Account.countFailure_id (account : Account) (settings : SignInSettings) (now : ℕ) :
    (account.countFailure settings now).id = account.id := rfl

theorem Account.countFailure_counter (account : Account) (settings : SignInSettings) (now : ℕ) :
    (account.countFailure settings now).counter = account.counter.fail settings.maxLoginFailures
        (settings.loginLockMinutes * microsPerMinute) now := rfl

theorem AccountChange.apply_counter (change : AccountChange) (account : Account) :
    (change.apply account).counter = if change.clears then {} else account.counter := by
  cases change <;> rfl

@[simp]
theorem AccountChange.apply_id (change : AccountChange)
    (account : Account) : (change.apply account).id = account.id := by
  cases change <;> rfl

namespace SignInState

section Queries

variable {services : SignInServices} {settings : SignInSettings}
variable {state : SignInState} {input : SignInInput} {user : Account}

theorem account?_spec {id : ℕ} (found : state.account? id = some user) :
    user ∈ state.accounts ∧ user.id = id :=
  UniqueRows.find?_decide found

theorem selectUser_mem {identifier : String} {pick : ℕ}
    (selected : state.selectUser services identifier pick = some user) : user ∈ state.accounts :=
  (List.mem_filter.mp (List.mem_of_getElem? selected)).1

def signedIn (state : SignInState) (user : Account) (lastLoginIp : Option String) : Account :=
  { user.clearFailures with
    lastLoginAt := some state.clock
    lastLoginIp := lastLoginIp }

/-- The row that `_issue_authorization_code` inserts. -/
def codeRow (services : SignInServices) (settings : SignInSettings)
    (state : SignInState) (request : AuthorizationRequest) (scope : String)
    (user : Account) (method : AuthMethod) (input : SignInInput) : AuthorizationCode where
  id := input.newId
  codeHash := services.hashAuthorizationCode input.newToken
  userId := user.id
  clientId := request.clientId
  redirectUri := request.redirectUri
  codeChallenge := request.codeChallenge
  nonce := request.nonce
  scope := scope
  authMethod := method
  expiresAt := state.clock + settings.authorizationCodeMinutes * microsPerMinute

theorem issueCode_spec {request : AuthorizationRequest} {scope : String}
    {method : AuthMethod} {origin : Evidence} {issued : SignInState}
    (issues : state.issueCode services settings request scope user method
      origin input = some issued) : (∀ stored ∈ state.codes, stored.id ≠ input.newId) ∧
      issued = { state with
        codes := state.codes ++ [codeRow services settings state request scope user method input]
        codeOrigins := state.codeOrigins ++
          [{ codeId := input.newId
             evidence := origin
             privileged := user.isPlatformAdmin }] } := by
  unfold issueCode TokenState.issueAuthorizationCode at issues
  dsimp only at issues
  split at issues
  · rename_i tokens _ _ _ result
    split at result
    · simp [TokenState.refuse] at result
    · rename_i fresh
      cases result
      cases issues
      refine ⟨?_, rfl⟩
      intro stored member same
      exact fresh ⟨stored, member, Or.inl same⟩
  · cases issues

theorem browserSession_spec {cookie : Option String} {claims : BrowserCookie}
    (found : state.browserSession cookie = some (user, claims)) :
    user ∈ state.accounts ∧ claims ∈ state.cookies ∧
      (user.isPlatformAdmin = true → claims.authMethod = .passkey) := by
  simp only [browserSession, Option.bind_eq_some_iff] at found
  obtain ⟨raw, _, stored, cookieFound, account, accountFound, checked⟩ := found
  split at checked
  · cases checked
  · split at checked
    · cases checked
    · rename_i allowed
      cases checked
      refine ⟨(account?_spec accountFound).1, (UniqueRows.find?_decide cookieFound).1, ?_⟩
      intro admin
      by_contra method
      exact allowed ⟨admin, method⟩

theorem readyCode_spec {request : CodeGrant} {exchange : Exchange}
    {row : AuthorizationCode} {now : ℕ} {owner : User}
    (ready : state.readyCode services settings request = .ok (exchange, row, now, owner)) :
    row ∈ state.codes ∧ row.consumedAt = none ∧ now = state.clock ∧
      state.clock < row.expiresAt ∧ owner ∈ state.tokens.users ∧ owner.id = row.userId := by
  unfold readyCode at ready
  dsimp only at ready
  split at ready
  · rename_i required _
    split at ready
    · rename_i allowed checked
      split at ready
      · rename_i locked lockedEq
        split at ready
        · rename_i readyEq
          cases ready
          -- no call is under way, so none has to be dropped first
          obtain ⟨source, ownerMem, ownerId, _⟩ :=
            @TokenState.advance_starts _ _ state.tokens _ (.tokenCode request) 0 _ _ readyEq
          cases source
          obtain ⟨_, member, _, _, _, _, unused, nowEq, unexpired, _⟩ :=
            @TokenState.advance_starts _ _ state.tokens _ (.tokenCode request) 0 _ _ lockedEq
          refine ⟨member, unused, nowEq, ?_, ownerMem, ownerId⟩
          rw [nowEq] at unexpired
          exact unexpired
        · cases ready
      · cases ready
    · cases ready
    · cases ready
  · cases ready
  · cases ready

theorem isStrong_verifySecondFactor {code : Option String} {factor : SecondFactor}
    (verified : verifySecondFactor services state.recoveryCodes user code state.clock = factor)
    (notRejected : factor ≠ .rejected) (notRaises : factor ≠ .raises) :
    (Evidence.password factor).isStrong = user.totpEnabled := by
  have secondFactor (rows : List MfaRecoveryCode) (text : String) :
      useRecoveryCode services rows user text = .rejected ∨
        ∃ id, useRecoveryCode services rows user text = .recovery id := by
    unfold useRecoveryCode
    split
    · exact Or.inl rfl
    · exact Or.inr ⟨_, rfl⟩
  unfold verifySecondFactor at verified
  split at verified
  · rename_i disabled
    rw [← verified, disabled]
    rfl
  · rename_i enabled
    rw [Bool.not_eq_false] at enabled
    rw [enabled]
    have used (text : String) (recovered : useRecoveryCode services state.recoveryCodes user text =
          factor) : (Evidence.password factor).isStrong = true := by
      rcases secondFactor state.recoveryCodes text with none | ⟨id, some⟩
      · exact absurd (recovered.symm.trans none) notRejected
      · rw [← recovered, some]
        rfl
    split at verified
    · exact absurd verified.symm notRejected
    · split at verified
      · exact used _ verified
      · split at verified
        · exact absurd verified.symm notRaises
        · split at verified
          · rw [← verified]
            rfl
          · exact used _ verified

end Queries

def passwordSignIn (services : SignInServices) (settings : SignInSettings)
    (state : SignInState) (request : LoginRequest) (input : SignInInput) : Option Account :=
  if (state.tokens.activeClient request.clientId).isNone ∨
      state.loginRateLimited settings request.ipAddress = true then none
  else
    (state.selectUser services request.identifier input.pick).filter
      fun user => !user.isLocked state.clock &&
        services.verifyPassword request.password user.passwordHash

def wrongStepUp (services : SignInServices) (settings : SignInSettings)
    (state : SignInState) (form : CredentialsForm) (input : SignInInput) : Option Account :=
  match state.tokens.validateAuthorizationRequest settings.toTokenSettings form.request with
  | .error _ => none
  | .ok _ =>
    if form.request.clientId ≠ "mailbox-dns" ∨
        state.loginRateLimited settings form.ipAddress = true then none
    else
      (state.selectUser services form.identifier input.pick).filter
        fun user => !user.isLocked state.clock &&
          !services.verifyPassword form.password user.passwordHash

inductive Effect (services : SignInServices) (settings : SignInSettings)
    (before : SignInState) : SignInAction → SignInState → Prop
  | quiet {action : SignInAction} (audits : List AuditEvent) :
      Effect services settings before action { before with audits := audits }
  | waits (elapsed : ℕ) : Effect services settings before (.wait elapsed)
        { before with clock := before.clock + elapsed }
  | configures {action : SignInAction} (recoveryCodes : List MfaRecoveryCode)
      (applications : List Application) : Effect services settings before action { before with
          recoveryCodes := recoveryCodes
          applications := applications }
  | rejects {action : SignInAction} (user : Account)
      (eventType clientId : String) (ipAddress : Option String) (member : user ∈ before.accounts)
      (unlocked : user.isLocked before.clock = false) : Effect services settings before action
        (before.rejectGuess settings user eventType clientId ipAddress)
  | overlooks (user : Account) (form : CredentialsForm)
      (input : SignInInput) (audits : List AuditEvent)
      (wrong : before.wrongStepUp services settings form input = some user) :
      Effect services settings before (.stepUpPost form input)
        { before.note user.id true with audits := audits }
  | rejectsPasskey {action : SignInAction} (user : Account)
      (audits : List AuditEvent) (member : user ∈ before.accounts) :
      Effect services settings before action
        { before.saveAccount (user.countFailure settings before.clock) with
          audits := audits }
  | signsIn (request : LoginRequest) (input : SignInInput) (user : Account)
      (factor : SecondFactor) (member : user ∈ before.accounts)
      (checked : before.passwordSignIn services settings request input = some user)
      (strong : (Evidence.password factor).isStrong = user.totpEnabled)
      (free : ¬ before.tokens.SessionTaken (before.loginSession services
        settings user request.clientId .password none input)) :
      Effect services settings before (.login request input)
        ((before.acceptGuess user factor "login_succeeded" request.clientId
            request.ipAddress request.ipAddress).insertSession
          (before.loginSession services settings user request.clientId
            .password none input) (.password factor))
  | reuses {action : SignInAction} (user : Account)
      (claims : BrowserCookie) (request : AuthorizationRequest)
      (scope : String) (input : SignInInput) (issued : SignInState)
      (member : user ∈ before.accounts) (cookie : claims ∈ before.cookies)
      (allowed : user.isPlatformAdmin = true → claims.authMethod = .passkey)
      (issues : before.issueCode services settings request scope user
        claims.authMethod claims.origin input = some issued) :
      Effect services settings before action issued
  | authorizes {action : SignInAction} (user : Account)
      (factor : SecondFactor) (form : CredentialsForm) (scope : String)
      (input : SignInInput) (issued : SignInState) (member : user ∈ before.accounts)
      (unprivileged : user.isPlatformAdmin = false)
      (issues : (before.acceptGuess user factor "oidc_login_succeeded"
          form.request.clientId form.ipAddress form.ipAddress).issueCode
        services settings form.request scope user .password
          (.password factor) input = some issued) : Effect services settings before action
        (issued.setCookie settings user .password (.password factor) input)
  | stepsUp {action : SignInAction} (user : Account)
      (factor : SecondFactor) (form : CredentialsForm) (scope : String)
      (input : SignInInput) (issued : SignInState) (member : user ∈ before.accounts)
      (strong : (Evidence.password factor).isStrong = true)
      (issues : (before.acceptGuess user factor
          "platform_admin_step_up_succeeded" form.request.clientId
          form.ipAddress user.lastLoginIp).issueCode services settings
        form.request scope user .password (.password factor) input = some issued) :
      Effect services settings before action issued
  | exchanges (request : CodeGrant) (input : SignInInput)
      (exchange : Exchange) (row : AuthorizationCode) (now : ℕ) (owner : User)
      (ready : before.readyCode services settings request = .ok (exchange, row, now, owner))
      (free : ¬ before.tokens.SessionTaken
        (exchangedSession services settings exchange row now owner input)) :
      Effect services settings before (.exchangeCode request input) { before with
          codes := before.codes.map fun stored =>
            if stored.id = row.id then
              { stored with consumedAt := some now }
            else stored
          sessions := before.sessions ++
            [exchangedSession services settings exchange row now owner input]
          sessionOrigins := before.sessionOrigins ++ (before.codeOrigins.filter fun origin =>
              decide (origin.codeId = row.id)).map fun origin => (input.newId, origin.evidence) }
  | signsInByPasskey {action : SignInAction} (user : Account)
      (assertion : PasskeyAssertion) (input : SignInInput) (member : user ∈ before.accounts)
      (free : ¬ before.tokens.SessionTaken (before.loginSession services
        settings user assertion.clientId .passkey (some before.clock) input)) :
      Effect services settings before action
        ((before.acceptGuess user .notRequired "passkey_login_succeeded"
            assertion.clientId assertion.ipAddress assertion.ipAddress).insertSession
          (before.loginSession services settings user assertion.clientId
            .passkey (some before.clock) input) .passkey)
  | opensPortal {action : SignInAction} (user : Account)
      (assertion : PasskeyAssertion) (input : SignInInput) (member : user ∈ before.accounts) :
      Effect services settings before action
        ((before.acceptGuess user .notRequired "passkey_login_succeeded"
            "ithute-account" assertion.ipAddress
            assertion.ipAddress).setCookie settings user .passkey .passkey
          input)
  | changes {action : SignInAction} (user : Account)
      (change : AccountChange) (member : user ∈ before.accounts) :
      Effect services settings before action (if change.clears then
          (before.saveAccount (change.apply user)).note user.id false
        else before.saveAccount (change.apply user))

section Inversion

variable (services : SignInServices) (settings : SignInSettings) (before : SignInState)

theorem login_effect (request : LoginRequest) (input : SignInInput) :
    Effect services settings before (.login request input)
      (before.login services settings request input).1 := by
  unfold login
  split
  · exact Effect.quiet before.audits
  · rename_i client
    split
    · exact Effect.quiet _
    · rename_i rate
      split
      · exact Effect.quiet _
      · rename_i user selected
        have member := selectUser_mem selected
        split
        · exact Effect.quiet _
        · rename_i unlocked
          rw [Bool.not_eq_true] at unlocked
          split
          · exact Effect.rejects user _ _ _ member unlocked
          · rename_i password
            rw [Bool.not_eq_false] at password
            split
            · exact Effect.quiet before.audits
            · exact Effect.rejects user _ _ _ member unlocked
            · rename_i factor notRaises notRejected
              unfold openSession
              dsimp only
              split
              · exact Effect.quiet before.audits
              · rename_i free
                apply Effect.signsIn request input user _ member
                · rw [passwordSignIn, if_neg (by simp_all), selected]
                  simp [unlocked, password]
                · exact isStrong_verifySecondFactor rfl notRejected notRaises
                · exact free

theorem authorizeGet_effect (request : AuthorizationRequest)
    (cookie : Option String) (input : SignInInput) :
    Effect services settings before (.authorizeGet request cookie input)
      (before.authorizeGet services settings request cookie input).1 := by
  unfold authorizeGet
  split
  · exact Effect.quiet before.audits
  · split
    · exact Effect.quiet before.audits
    · rename_i user claims found
      obtain ⟨member, cookieMem, allowed⟩ := browserSession_spec found
      split
      · exact Effect.quiet before.audits
      · rename_i issued issues
        exact Effect.reuses user claims request _ input issued member cookieMem allowed issues

theorem authorizePost_effect (form : CredentialsForm) (input : SignInInput) :
    Effect services settings before (.authorizePost form input)
      (before.authorizePost services settings form input).1 := by
  unfold authorizePost
  split
  · exact Effect.quiet before.audits
  · dsimp only
    split
    · exact Effect.quiet _
    · split
      · exact Effect.quiet _
      · rename_i user selected
        have member := selectUser_mem selected
        split
        · exact Effect.quiet _
        · rename_i unlocked
          rw [Bool.not_eq_true] at unlocked
          split
          · exact Effect.rejects user _ _ _ member unlocked
          · split
            · exact Effect.quiet _
            · rename_i unprivileged
              rw [Bool.not_eq_true] at unprivileged
              split
              · exact Effect.quiet before.audits
              · exact Effect.rejects user _ _ _ member unlocked
              · unfold authorizeUser
                dsimp only
                split
                · exact Effect.quiet before.audits
                · rename_i issued issues
                  exact Effect.authorizes user _ form _ input issued member unprivileged issues

theorem stepUpPost_effect (form : CredentialsForm) (input : SignInInput) :
    Effect services settings before (.stepUpPost form input)
      (before.stepUpPost services settings form input).1 := by
  unfold stepUpPost
  split
  · exact Effect.quiet before.audits
  · rename_i scope valid
    split
    · exact Effect.quiet before.audits
    · rename_i client
      split
      · exact Effect.quiet _
      · rename_i rate
        split
        · exact Effect.quiet _
        · rename_i user selected
          have member := selectUser_mem selected
          split
          · exact Effect.quiet _
          · rename_i unlocked
            rw [Bool.not_eq_true] at unlocked
            split
            · rename_i password
              apply Effect.overlooks user form input
              rw [wrongStepUp, valid]
              dsimp only
              rw [if_neg (by simp_all), selected]
              simp [unlocked, password]
            · split
              · exact Effect.quiet _
              · split
                · exact Effect.quiet _
                · rename_i enabled
                  rw [Bool.not_eq_false] at enabled
                  split
                  · exact Effect.quiet before.audits
                  · exact Effect.rejects user _ _ _ member unlocked
                  · rename_i factor notRaises notRejected
                    unfold stepUpUser
                    dsimp only
                    split
                    · exact Effect.quiet before.audits
                    · rename_i issued issues
                      refine Effect.stepsUp user _ form scope input issued member ?_ issues
                      rw [isStrong_verifySecondFactor rfl notRejected notRaises, enabled]

theorem exchangeCode_effect (request : CodeGrant) (input : SignInInput) :
    Effect services settings before (.exchangeCode request input)
      (before.exchangeCode services settings request input).1 := by
  unfold exchangeCode
  split
  · exact Effect.quiet before.audits
  · rename_i exchange row now owner ready
    dsimp only
    split
    · exact Effect.quiet before.audits
    · rename_i free
      exact Effect.exchanges request input exchange row now owner ready free

theorem passkeyVerify_effect (assertion : PasskeyAssertion) (input : SignInInput) :
    Effect services settings before (.passkeyVerify assertion input)
      (before.passkeyVerify services settings assertion input).1 := by
  unfold passkeyVerify
  split
  · exact Effect.quiet before.audits
  · split
    · exact Effect.quiet _
    · split
      · exact Effect.quiet before.audits
      · rename_i user found
        have member := (account?_spec found).1
        split
        · exact Effect.quiet before.audits
        · split
          · exact Effect.quiet before.audits
          · split
            · exact Effect.rejectsPasskey user _ member
            · dsimp only
              split
              · exact Effect.quiet before.audits
              · rename_i free
                exact Effect.signsInByPasskey user assertion input member free

theorem portalPasskeyVerify_effect (assertion : PasskeyAssertion) (input : SignInInput) :
    Effect services settings before (.portalPasskeyVerify assertion input)
      (before.portalPasskeyVerify settings assertion input).1 := by
  unfold portalPasskeyVerify
  split
  · exact Effect.quiet before.audits
  · split
    · exact Effect.quiet before.audits
    · rename_i user found
      have member := (account?_spec found).1
      split
      · exact Effect.quiet before.audits
      · split
        · exact Effect.rejectsPasskey user _ member
        · exact Effect.opensPortal user assertion input member

theorem changeAccount_effect (userId : ℕ) (change : AccountChange) :
    Effect services settings before (.change userId change)
      (before.changeAccount userId change) := by
  unfold changeAccount
  split
  · exact Effect.quiet before.audits
  · rename_i user found
    exact Effect.changes user change (account?_spec found).1

theorem perform_effect (action : SignInAction) : Effect services settings before action
      (before.perform services settings action) := by
  cases action with
  | wait elapsed => exact Effect.waits elapsed
  | login request input => exact login_effect services settings before request input
  | authorizeGet request cookie input =>
    exact authorizeGet_effect services settings before request cookie input
  | authorizePost form input => exact authorizePost_effect services settings before form input
  | stepUpPost form input => exact stepUpPost_effect services settings before form input
  | exchangeCode request input => exact exchangeCode_effect services settings before request input
  | passkeyVerify assertion input =>
    exact passkeyVerify_effect services settings before assertion input
  | portalPasskeyVerify assertion input =>
    exact portalPasskeyVerify_effect services settings before assertion input
  | change userId change => exact changeAccount_effect services settings before userId change
  | storeRecoveryCodes userId rows => exact Effect.configures _ before.applications
  | setApplicationActive clientId active => exact Effect.configures before.recoveryCodes _

end Inversion

def console : Application where
  id := 1
  clientId := "mailbox-dns"
  isActive := true

def owner : Account where
  id := 7
  email := some "owner"
  phone := some "1"
  passwordHash := "right"

def ownerState : SignInState where
  accounts := [owner]
  applications := [console]
  redirectUris := [{ applicationId := 1, redirectUri := "https://dns" }]

def consoleRequest : AuthorizationRequest where
  responseType := "code"
  clientId := "mailbox-dns"
  redirectUri := "https://dns"
  codeChallenge := "0123456789012345678901234567890123456789012"
  codeChallengeMethod := "S256"
  scope := "openid"
  state := "state"
  nonce := "0123456789012345"

def signedInAfter (state : SignInState) (actions : List SignInAction) : SignInState :=
  actions.foldl (fun state action => state.perform plainCredentials {} action) state

end SignInState

end Ithute.Auth
