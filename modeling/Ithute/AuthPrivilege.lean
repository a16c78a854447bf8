import Ithute.Library.TransitionRuns
import Ithute.AuthSignInSteps

/-!
# Sessions of platform administrators

A code that is issued to a platform administrator goes back to a passkey or
to a verified second factor: a reused cookie must stem from a passkey, the
password page refuses administrators, and a step-up wants both factors.  A
login asks for no second factor where none is enabled, and a code that was
issued on a password alone is still redeemed after its owner becomes an
administrator.
-/

namespace Ithute.Auth

open TransitionRuns

namespace SignInState

def starting (accounts : List Account) (applications : List Application)
    (redirectUris : List ApplicationRedirectURI)
    (recoveryCodes : List MfaRecoveryCode) : SignInState where
  accounts := accounts
  applications := applications
  redirectUris := redirectUris
  recoveryCodes := recoveryCodes

/-- The sessions that a step creates for platform administrators go back to
a passkey, or to a password and a verified second factor. -/
def PrivilegedSessionsStrong (before after : SignInState) : Prop :=
  ∀ session ∈ after.sessions.drop before.sessions.length,
    ∀ account ∈ before.accounts, account.id = session.userId → account.isPlatformAdmin = true →
        (∃ evidence, (session.id, evidence) ∈ after.sessionOrigins) ∧
          ∀ evidence, (session.id, evidence) ∈ after.sessionOrigins → evidence.isStrong = true

/-- A login passes the password check of a platform administrator without a
second factor, and no unique column refuses its session. -/
def PassesByPassword (services : SignInServices) (settings : SignInSettings)
    (state : SignInState) (request : LoginRequest) (input : SignInInput) : Prop :=
  ∃ user, state.passwordSignIn services settings request input = some user ∧
    user.isPlatformAdmin = true ∧ user.totpEnabled = false ∧
    ¬ state.tokens.SessionTaken (state.loginSession services settings user
      request.clientId .password none input)

/-- A code passes the checks of its exchange that was issued on a password
alone before its owner became a platform administrator. -/
def RedeemsPromoted (services : SignInServices) (settings : SignInSettings)
    (state : SignInState) (request : CodeGrant) (input : SignInInput) : Prop :=
  ∃ exchange row now owner, state.readyCode services settings request =
      .ok (exchange, row, now, owner) ∧
    ¬ state.tokens.SessionTaken (exchangedSession services settings exchange row now owner input) ∧
    (∃ account ∈ state.accounts, account.id = owner.id ∧ account.isPlatformAdmin = true) ∧
    ∃ origin ∈ state.codeOrigins, origin.codeId = row.id ∧
      origin.privileged = false ∧ origin.evidence.isStrong = false

def AsksForBoth (services : SignInServices) (settings : SignInSettings)
    (state : SignInState) : SignInAction → Prop
  | .login request input => ¬ state.PassesByPassword services settings request input
  | .exchangeCode request input => ¬ state.RedeemsPromoted services settings request input
  | _ => True

structure PrivilegeInvariant (state : SignInState) : Prop where
  unique : (state.accounts.map fun account => account.id).Nodup
  cookies : ∀ cookie ∈ state.cookies, cookie.authMethod = .passkey → cookie.origin = .passkey
  origins : state.codeOrigins.map CodeOrigin.codeId = state.codes.map fun row => row.id
  privileged : ∀ origin ∈ state.codeOrigins, origin.privileged = true →
    origin.evidence.isStrong = true
  sessions : ∀ entry ∈ state.sessionOrigins, ∃ session ∈ state.sessions, session.id = entry.1

section Steps

variable {services : SignInServices} {settings : SignInSettings} {before after issued : SignInState}

/-- The evidence that a session takes over from the code of its exchange. -/
def redeemedEvidences (state : SignInState) (row : AuthorizationCode) : List Evidence :=
  (state.codeOrigins.filter fun origin => decide (origin.codeId = row.id)).map CodeOrigin.evidence

theorem mem_redeemedEvidences {row : AuthorizationCode} {evidence : Evidence} :
    evidence ∈ before.redeemedEvidences row ↔
      ∃ origin ∈ before.codeOrigins, origin.codeId = row.id ∧ origin.evidence = evidence := by
  simp [redeemedEvidences, and_assoc]

theorem redeemedEvidences_origins (row : AuthorizationCode) (id : ℕ) :
    ((before.codeOrigins.filter fun origin =>
        decide (origin.codeId = row.id)).map fun origin => (id, origin.evidence)) =
      (before.redeemedEvidences row).map fun evidence => (id, evidence) := by
  rw [redeemedEvidences, List.map_map]
  rfl

namespace PrivilegeInvariant

theorem starting {accounts : List Account} {applications : List Application}
    {redirectUris : List ApplicationRedirectURI} {recoveryCodes : List MfaRecoveryCode}
    (unique : (accounts.map fun account => account.id).Nodup) :
    (starting accounts applications redirectUris recoveryCodes).PrivilegeInvariant := by
  refine ⟨unique, ?_, rfl, ?_, ?_⟩ <;> exact fun _ none => nomatch none

theorem keep (invariant : before.PrivilegeInvariant)
    (accounts : after.accounts.map (fun account => account.id) =
      before.accounts.map fun account => account.id) (cookies : after.cookies = before.cookies)
    (codes : after.codes = before.codes) (codeOrigins : after.codeOrigins = before.codeOrigins)
    (sessions : after.sessions = before.sessions)
    (sessionOrigins : after.sessionOrigins = before.sessionOrigins) : after.PrivilegeInvariant where
  unique := by
    rw [accounts]
    exact invariant.unique
  cookies := by
    rw [cookies]
    exact invariant.cookies
  origins := by
    rw [codeOrigins, codes]
    exact invariant.origins
  privileged := by
    rw [codeOrigins]
    exact invariant.privileged
  sessions := by
    rw [sessionOrigins, sessions]
    exact invariant.sessions

theorem save (invariant : before.PrivilegeInvariant) (saved : Account) :
    (before.saveAccount saved).PrivilegeInvariant :=
  invariant.keep (UniqueRows.map_key_replace saved) rfl rfl rfl rfl rfl

theorem accept (invariant : before.PrivilegeInvariant) (user : Account)
    (factor : SecondFactor) (eventType clientId : String) (ipAddress lastLoginIp : Option String) :
    (before.acceptGuess user factor eventType clientId ipAddress lastLoginIp).PrivilegeInvariant :=
  (invariant.save (before.signedIn user lastLoginIp)).keep rfl rfl rfl rfl rfl rfl

theorem issue {request : AuthorizationRequest} {scope : String}
    {user : Account} {method : AuthMethod} {origin : Evidence}
    {input : SignInInput} (invariant : before.PrivilegeInvariant)
    (strong : user.isPlatformAdmin = true → origin.isStrong = true)
    (issues : before.issueCode services settings request scope user method
      origin input = some issued) : issued.PrivilegeInvariant := by
  rw [(issueCode_spec issues).2]
  refine { invariant with origins := ?_, privileged := ?_ }
  · simp [invariant.origins, codeRow]
  · intro entry member privileged
    rcases List.mem_append.mp member with old | new
    · exact invariant.privileged entry old privileged
    · rw [List.mem_singleton.mp new] at privileged ⊢
      exact strong privileged

theorem setCookie (invariant : before.PrivilegeInvariant) (user : Account)
    (method : AuthMethod) (origin : Evidence) (input : SignInInput)
    (passkey : method = .passkey → origin = .passkey) :
    (before.setCookie settings user method origin input).PrivilegeInvariant := by
  refine { invariant with cookies := ?_ }
  intro cookie member sameMethod
  rcases List.mem_append.mp member with old | new
  · exact invariant.cookies cookie old sameMethod
  · rw [List.mem_singleton.mp new] at sameMethod ⊢
    exact passkey sameMethod

theorem insertSession (invariant : before.PrivilegeInvariant)
    (row : AuthSession) (evidences : List Evidence) (accounts : after.accounts = before.accounts)
    (cookies : after.cookies = before.cookies) (codes : after.codes.map (fun row => row.id) =
      before.codes.map fun row => row.id) (codeOrigins : after.codeOrigins = before.codeOrigins)
    (sessions : after.sessions = before.sessions ++ [row])
    (sessionOrigins : after.sessionOrigins = before.sessionOrigins ++
      evidences.map fun evidence => (row.id, evidence)) : after.PrivilegeInvariant where
  unique := by
    rw [accounts]
    exact invariant.unique
  cookies := by
    rw [cookies]
    exact invariant.cookies
  origins := by
    rw [codeOrigins, codes]
    exact invariant.origins
  privileged := by
    rw [codeOrigins]
    exact invariant.privileged
  sessions := by
    rw [sessionOrigins, sessions]
    intro entry member
    rcases List.mem_append.mp member with old | new
    · obtain ⟨session, sessionMem, same⟩ := invariant.sessions entry old
      exact ⟨session, List.mem_append_left _ sessionMem, same⟩
    · obtain ⟨evidence, _, rfl⟩ := List.mem_map.mp new
      exact ⟨row, List.mem_append_right _ (List.mem_singleton_self row), rfl⟩

theorem origin (invariant : before.PrivilegeInvariant)
    {row : AuthorizationCode} (member : row ∈ before.codes) :
    ∃ origin ∈ before.codeOrigins, origin.codeId = row.id := by
  have known : row.id ∈ before.codes.map fun row => row.id := List.mem_map.mpr ⟨row, member, rfl⟩
  rw [← invariant.origins] at known
  exact List.mem_map.mp known

theorem effect {action : SignInAction} (invariant : before.PrivilegeInvariant)
    (effect : Effect services settings before action after) : after.PrivilegeInvariant := by
  cases effect with
  | quiet audits => exact invariant.keep rfl rfl rfl rfl rfl rfl
  | waits elapsed => exact invariant.keep rfl rfl rfl rfl rfl rfl
  | configures codes applications => exact invariant.keep rfl rfl rfl rfl rfl rfl
  | rejects user eventType clientId ipAddress member unlocked =>
    exact (invariant.save (user.countFailure settings before.clock)).keep rfl rfl rfl rfl rfl rfl
  | overlooks user form input audits wrong => exact invariant.keep rfl rfl rfl rfl rfl rfl
  | rejectsPasskey user audits member =>
    exact (invariant.save (user.countFailure settings before.clock)).keep rfl rfl rfl rfl rfl rfl
  | signsIn request input user factor member checked strong free =>
    exact (invariant.accept user factor _ _ _ _).insertSession _
      [.password factor] rfl rfl rfl rfl rfl rfl
  | reuses user claims request scope input issued member cookie allowed issues =>
    refine invariant.issue ?_ issues
    intro admin
    rw [invariant.cookies claims cookie (allowed admin)]
    rfl
  | authorizes user factor form scope input issued member unprivileged issues =>
    refine ((invariant.accept user factor _ _ _ _).issue ?_
      issues).setCookie user _ _ input (fun passkey => nomatch passkey)
    intro admin
    rw [unprivileged] at admin
    cases admin
  | stepsUp user factor form scope input issued member strong issues =>
    exact (invariant.accept user factor _ _ _ _).issue (fun _ => strong) issues
  | exchanges request input exchange row now owner ready free =>
    refine invariant.insertSession (exchangedSession services settings exchange row now owner input)
      (before.redeemedEvidences row) rfl rfl ?_ rfl rfl
      (congrArg _ (redeemedEvidences_origins row input.newId))
    rw [List.map_map]
    apply List.map_congr_left
    intro stored _
    by_cases same : stored.id = row.id
    · simp [same]
    · simp [same]
  | signsInByPasskey user assertion input member free =>
    exact (invariant.accept user _ _ _ _ _).insertSession _ [.passkey] rfl rfl rfl rfl rfl rfl
  | opensPortal user assertion input member =>
    exact (invariant.accept user _ _ _ _ _).setCookie user _ _ input (fun _ => rfl)
  | changes user change member =>
    have saved := invariant.save (change.apply user)
    cases change.clears with
    | true => exact saved.keep rfl rfl rfl rfl rfl rfl
    | false => exact saved

end PrivilegeInvariant

theorem privilegedSessionsStrong_insert {row : AuthSession}
    {evidences : List Evidence} (invariant : before.PrivilegeInvariant)
    (free : ¬ before.tokens.SessionTaken row) (sessions : after.sessions = before.sessions ++ [row])
    (sessionOrigins : after.sessionOrigins = before.sessionOrigins ++
      evidences.map fun evidence => (row.id, evidence)) :
    PrivilegedSessionsStrong before after ↔ ∀ account ∈ before.accounts, account.id = row.userId →
        account.isPlatformAdmin = true → evidences ≠ [] ∧
            ∀ evidence ∈ evidences, evidence.isStrong = true := by
  have known (evidence : Evidence) :
      (row.id, evidence) ∈ after.sessionOrigins ↔ evidence ∈ evidences := by
    rw [sessionOrigins, List.mem_append]
    constructor
    · rintro (old | new)
      · obtain ⟨session, member, same⟩ := invariant.sessions _ old
        exact absurd ⟨session, member, Or.inl same⟩ free
      · obtain ⟨other, member, same⟩ := List.mem_map.mp new
        cases same
        exact member
    · intro member
      exact Or.inr (List.mem_map.mpr ⟨evidence, member, rfl⟩)
  simp only [PrivilegedSessionsStrong, sessions, List.drop_left,
    List.mem_singleton, forall_eq, known, ne_eq,
    List.eq_nil_iff_forall_not_mem, not_forall, not_not]

theorem privilegedSessionsStrong_same (sessions : after.sessions = before.sessions) :
    PrivilegedSessionsStrong before after := by
  simp [PrivilegedSessionsStrong, sessions]

variable {request : LoginRequest} {input : SignInInput}

theorem login_of_passwordSignIn {user : Account}
    (checked : before.passwordSignIn services settings request input = some user)
    (disabled : user.totpEnabled = false)
    (free : ¬ before.tokens.SessionTaken (before.loginSession services
      settings user request.clientId .password none input)) :
    (before.login services settings request input).1 =
      (before.acceptGuess user .notRequired "login_succeeded"
        request.clientId request.ipAddress request.ipAddress).insertSession
          (before.loginSession services settings user request.clientId
            .password none input) (.password .notRequired) := by
  unfold passwordSignIn at checked
  split at checked
  · cases checked
  · rename_i allowed
    obtain ⟨selected, passes⟩ := Option.filter_eq_some_iff.mp checked
    rw [not_or] at allowed
    simp only [Bool.and_eq_true, Bool.not_eq_eq_eq_not, Bool.not_true] at passes
    rw [login, if_neg allowed.1, if_neg allowed.2, selected]
    simp only [passes, Bool.false_eq_true, if_false, verifySecondFactor,
      disabled, if_true, Bool.true_eq_false]
    rw [openSession]
    simp only [if_neg free]

theorem passwordSignIn_mem {user : Account}
    (checked : before.passwordSignIn services settings request input =
      some user) : user ∈ before.accounts := by
  unfold passwordSignIn at checked
  split at checked
  · cases checked
  · exact selectUser_mem (Option.filter_eq_some_iff.mp checked).1

theorem Effect.privileged {action : SignInAction}
    (effect : Effect services settings before action after) (invariant : before.PrivilegeInvariant)
    (asks : before.AsksForBoth services settings action) :
    PrivilegedSessionsStrong before after := by
  cases effect with
  | signsIn request input user factor member checked strong free =>
    rw [@privilegedSessionsStrong_insert _ _ _ [.password factor] invariant free rfl rfl]
    intro account accountMem same admin
    have sameAccount := List.inj_on_of_nodup_map invariant.unique accountMem member same
    rw [sameAccount] at admin
    refine ⟨List.cons_ne_nil _ _, ?_⟩
    intro evidence evidenceMem
    rw [List.mem_singleton.mp evidenceMem, strong]
    by_contra disabled
    rw [Bool.not_eq_true] at disabled
    exact asks ⟨user, checked, admin, disabled, free⟩
  | exchanges request input exchange row now owner ready free =>
    rw [@privilegedSessionsStrong_insert _ _ _ (before.redeemedEvidences row) invariant free rfl
      (congrArg _ (redeemedEvidences_origins row input.newId))]
    intro account accountMem same admin
    constructor
    · obtain ⟨origin, originMem, sameCode⟩ := invariant.origin (readyCode_spec ready).1
      exact List.ne_nil_of_mem (mem_redeemedEvidences.mpr ⟨origin, originMem, sameCode, rfl⟩)
    · intro evidence evidenceMem
      obtain ⟨origin, originMem, sameCode, rfl⟩ := mem_redeemedEvidences.mp evidenceMem
      by_contra weak
      rw [Bool.not_eq_true] at weak
      have unprivileged : origin.privileged = false := by
        by_contra privileged
        rw [Bool.not_eq_false] at privileged
        rw [invariant.privileged origin originMem privileged] at weak
        cases weak
      exact asks ⟨exchange, row, now, owner, ready, free,
        ⟨account, accountMem, same, admin⟩, origin, originMem, sameCode, unprivileged, weak⟩
  | signsInByPasskey user assertion input member free =>
    rw [@privilegedSessionsStrong_insert _ _ _ [.passkey] invariant free rfl rfl]
    intro account _ _ _
    exact ⟨List.cons_ne_nil _ _, by simp [Evidence.isStrong]⟩
  | reuses user claims request scope input issued member cookie allowed issues =>
    rw [(issueCode_spec issues).2]
    exact privilegedSessionsStrong_same rfl
  | authorizes user factor form scope input issued member unprivileged issues =>
    rw [(issueCode_spec issues).2]
    exact privilegedSessionsStrong_same rfl
  | stepsUp user factor form scope input issued member strong issues =>
    rw [(issueCode_spec issues).2]
    exact privilegedSessionsStrong_same rfl
  | changes user change member =>
    apply privilegedSessionsStrong_same
    cases change.clears <;> rfl
  | _ => exact privilegedSessionsStrong_same rfl

theorem login_not_privileged (invariant : before.PrivilegeInvariant)
    (passes : before.PassesByPassword services settings request input) :
    ¬ PrivilegedSessionsStrong before (before.login services settings request input).1 := by
  obtain ⟨user, checked, admin, disabled, free⟩ := passes
  rw [login_of_passwordSignIn checked disabled free,
    @privilegedSessionsStrong_insert _ _ _ [.password .notRequired] invariant free rfl rfl]
  intro strong
  have verified := (strong user (passwordSignIn_mem checked) rfl admin).2
    (.password .notRequired) (List.mem_singleton_self _)
  cases verified

theorem exchange_not_privileged {request : CodeGrant} (invariant : before.PrivilegeInvariant)
    (redeems : before.RedeemsPromoted services settings request input) :
    ¬ PrivilegedSessionsStrong before (before.exchangeCode services settings request input).1 := by
  obtain ⟨exchange, row, now, owner, ready, free,
    ⟨account, accountMem, same, admin⟩, origin, originMem, sameCode, _, weak⟩ := redeems
  unfold exchangeCode
  rw [ready]
  dsimp only
  rw [if_neg free, @privilegedSessionsStrong_insert _ _ _
    (before.redeemedEvidences row) invariant free rfl
    (congrArg _ (redeemedEvidences_origins row input.newId))]
  intro strong
  have verified := (strong account accountMem same admin).2 origin.evidence
    (mem_redeemedEvidences.mpr ⟨origin, originMem, sameCode, rfl⟩)
  rw [weak] at verified
  cases verified

end Steps

/-- From any accounts and along every run, the sessions of platform
administrators go back to a passkey or to both factors if and only if no
administrator without a second factor passes the password check of a login,
and no code is redeemed that was issued on a password alone before its owner
became an administrator. -/
theorem run_privilegedSessionsStrong_iff (services : SignInServices)
    (settings : SignInSettings) {accounts : List Account} (applications : List Application)
    (redirectUris : List ApplicationRedirectURI)
    (recoveryCodes : List MfaRecoveryCode) (actions : List SignInAction)
    (unique : (accounts.map fun account => account.id).Nodup) :
    EveryStep (Performs services settings)
        (fun before _ after => PrivilegedSessionsStrong before after)
        (starting accounts applications redirectUris recoveryCodes) actions ↔
      EveryStep (Performs services settings)
        (fun before action _ => before.AsksForBoth services settings action)
        (starting accounts applications redirectUris recoveryCodes) actions := by
  refine EveryStep.congr_of_invariant (PrivilegeInvariant.starting unique)
    ?_ ?_ (fun _ _ => True.intro)
  · intro before action after invariant move _
    rw [Performs] at move
    rw [move]
    exact invariant.effect (perform_effect services settings before action)
  · intro before action after invariant move
    rw [Performs] at move
    rw [move]
    constructor
    · intro strong
      cases action with
      | login request input => exact fun passes => login_not_privileged invariant passes strong
      | exchangeCode request input =>
        exact fun redeems => exchange_not_privileged invariant redeems strong
      | _ => exact True.intro
    · exact (perform_effect services settings before action).privileged invariant

def administrator : Account :=
  { owner with
    isPlatformAdmin := true
    totpEnabled := true
    totpSecretEncrypted := some "secret" }

def stepUpForm : CredentialsForm where
  request := consoleRequest
  identifier := "owner"
  password := "right"
  mfaCode := "secret"
  ipAddress := none

/-- An administrator steps up, and the console exchanges the code. -/
def consoleSignIn : List SignInAction :=
  [.stepUpPost stepUpForm { newId := 5, newToken := "code" }, .exchangeCode
      { clientId := "mailbox-dns"
        code := some "code"
        redirectUri := some "https://dns"
        codeVerifier := some consoleRequest.codeChallenge }
      { newId := 6, newToken := "refresh" }]

theorem run_privilegedSessionsStrong_iff_console : EveryStep (Performs plainCredentials {})
      (fun before _ after => PrivilegedSessionsStrong before after)
      (starting [administrator] [console] ownerState.redirectUris []) consoleSignIn ∧
    (signedInAfter (starting [administrator] [console]
      ownerState.redirectUris []) consoleSignIn).sessionOrigins = [(6, .password .totp)] := by
  refine ⟨?_, by decide +kernel⟩
  apply (run_privilegedSessionsStrong_iff plainCredentials {} [console]
    ownerState.redirectUris [] consoleSignIn (by decide)).mpr
  unfold consoleSignIn Performs
  rw [EveryStep.cons_iff, EveryStep.cons_iff]
  refine ⟨True.intro, ?_, EveryStep.nil⟩
  rintro ⟨_, _, _, _, _, _, _, origin, member, _, unprivileged, _⟩
  have privileged : ∀ origin ∈ (perform plainCredentials {}
      (starting [administrator] [console] ownerState.redirectUris [])
      (.stepUpPost stepUpForm { newId := 5, newToken := "code" })).codeOrigins,
        origin.privileged = true := by
    decide +kernel
  rw [privileged origin member] at unprivileged
  cases unprivileged

def CodesStrong (state : SignInState) : Prop :=
  (∀ origin ∈ state.codeOrigins, origin.privileged = true → origin.evidence.isStrong = true) ∧
    (∀ row ∈ state.codes, ∃ origin ∈ state.codeOrigins, origin.codeId = row.id) ∧
    ∀ cookie ∈ state.cookies, cookie.authMethod = .passkey → cookie.origin = .passkey

/-- However sessions come about, an authorization code for an administrator is
issued on strong evidence, and a cookie counts as a passkey only after one. -/
theorem run_codesStrong (services : SignInServices) (settings : SignInSettings)
    {accounts : List Account} (applications : List Application)
    (redirectUris : List ApplicationRedirectURI) (recoveryCodes : List MfaRecoveryCode)
    (actions : List SignInAction) (unique : (accounts.map fun account => account.id).Nodup) :
    EveryStep (Performs services settings) (fun _ _ after => after.CodesStrong)
      (starting accounts applications redirectUris recoveryCodes) actions := by
  intro front action back before after split run move
  have invariant : after.PrivilegeInvariant := by
    refine (run.append (.single move)).invariant (.starting unique) ?_
    rintro state action following invariant rfl
    exact invariant.effect (perform_effect services settings state action)
  exact ⟨invariant.privileged, fun row member => invariant.origin member, invariant.cookies⟩

theorem run_codesStrong_console :
    EveryStep (Performs plainCredentials {}) (fun _ _ after => after.CodesStrong)
      (starting [administrator] [console] ownerState.redirectUris []) consoleSignIn :=
  run_codesStrong plainCredentials {} [console] ownerState.redirectUris [] consoleSignIn (by decide)

def ownerLogin : LoginRequest where
  identifier := "owner"
  password := "right"
  clientId := "mailbox-dns"
  mfaCode := none
  ipAddress := none

/-- An administrator without a second factor gets a session by a password
alone. -/
theorem passwordAlone_signsIn :
    let start := starting [{ owner with isPlatformAdmin := true }] [console]
      ownerState.redirectUris []
    Run (Performs plainCredentials {}) start [.login ownerLogin {}]
        (signedInAfter start [.login ownerLogin {}]) ∧
      ¬ PrivilegedSessionsStrong start (signedInAfter start [.login ownerLogin {}]) := by
  refine ⟨Run.of_foldl _ _ _, ?_⟩
  apply login_not_privileged (PrivilegeInvariant.starting (by decide))
  exact ⟨{ owner with isPlatformAdmin := true }, by decide +kernel, rfl, rfl, by decide +kernel⟩

end SignInState

end Ithute.Auth
