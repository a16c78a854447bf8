import Ithute.Library.HeldLocks
import Ithute.Library.UniqueRows
import Ithute.AuthCalls

/-!
# Steps of the token endpoints

A statement that is no commit changes nothing and says what it has read.
Locks on rows are exclusive.
-/

namespace Ithute.Auth

open HeldLocks UniqueRows

namespace AuthCall

def commits : AuthCall → Bool
  | .authorizeSignedIn _ _ _ _ | .codeReady _ _ _ _ _
  | .refreshReady _ _ _ _ | .plainReady _ _ _ | .logoutFound _ => true
  | _ => false

end AuthCall

/-- The request presents the fields of the exchange. -/
def CodeGrant.Presents (request : CodeGrant) (exchange : Exchange) : Prop :=
  request.clientId = exchange.clientId ∧ presentText request.code = some exchange.code ∧
    presentText request.redirectUri = some exchange.redirectUri ∧
    presentText request.codeVerifier = some exchange.codeVerifier

namespace TokenState

section Statements

variable {services : TokenServices} {settings : TokenSettings}
variable {state : TokenState} {input : TokenInput}

theorem activeClient_spec {clientId : String} {client : Application}
    (found : state.activeClient clientId = some client) :
    client ∈ state.applications ∧ client.clientId = clientId ∧ client.isActive = true :=
  find?_decide found

theorem requireClientRedirect_spec {clientId redirectUri : String} {client : Application}
    (required : state.requireClientRedirect settings clientId redirectUri = .ok client) :
    client ∈ state.applications ∧ client.clientId = clientId ∧ client.isActive = true := by
  unfold requireClientRedirect at required
  split at required
  · cases required
  · rename_i found known
    dsimp only at required
    by_cases approved : redirectUri ∈ if (state.redirectUris.filter fun row =>
          decide (row.applicationId = found.id)).map ApplicationRedirectURI.redirectUri = []
        then settings.redirectUris clientId
        else (state.redirectUris.filter fun row =>
          decide (row.applicationId = found.id)).map ApplicationRedirectURI.redirectUri
    · rw [if_pos approved] at required
      cases required
      exact activeClient_spec known
    · rw [if_neg approved] at required
      cases required

theorem activeUser_spec {userId : ℕ} {user : User} (found : state.activeUser userId = some user) :
    user ∈ state.users ∧ user.id = userId ∧ user.isActive = true := by
  obtain ⟨known, active⟩ := Option.filter_eq_some_iff.mp found
  obtain ⟨member, same⟩ := find?_decide known
  exact ⟨member, same, active⟩

theorem sessionOf_spec {token : String} {row : AuthSession}
    (found : state.sessionOf services token = some row) : row ∈ state.sessions ∧
      row.refreshTokenHash = services.hashRefreshToken token :=
  find?_decide found

theorem advance_rest {call : AuthCall} (rest : call.commits = false) :
    (state.advance services settings input call).1 = state := by
  cases call with
  | authorizeValidated request scope =>
    unfold advance signIn
    dsimp only
    repeat' split
    all_goals rfl
  | codeClient request client =>
    unfold advance checkExchange
    dsimp only
    repeat' split
    all_goals rfl
  | codeAllowed exchange client =>
    unfold advance lockCode
    dsimp only
    repeat' split
    all_goals rfl
  | codeLocked exchange client row now =>
    unfold advance readCodeUser
    dsimp only
    split <;> rfl
  | refreshClient request =>
    unfold advance lockSession
    dsimp only
    repeat' split
    all_goals rfl
  | refreshLocked token row now =>
    unfold advance readSessionUser
    dsimp only
    split <;> rfl
  | plainClient request =>
    unfold advance findSession
    dsimp only
    repeat' split
    all_goals rfl
  | plainFound token row =>
    unfold advance readPlainUser
    dsimp only
    split <;> rfl
  | _ => cases rest

theorem advance_commits {call : AuthCall} (commits : call.commits = true) :
    ∃ response, (state.advance services settings input call).2 = .responds response := by
  cases call with
  | authorizeSignedIn request scope user method =>
    unfold advance issueAuthorizationCode
    dsimp only
    split <;> exact ⟨_, rfl⟩
  | codeReady exchange client row now user =>
    unfold advance commitCode
    dsimp only
    split <;> exact ⟨_, rfl⟩
  | refreshReady token row now user =>
    unfold advance commitRefresh
    dsimp only
    split <;> exact ⟨_, rfl⟩
  | plainReady token row user =>
    unfold advance commitRefresh
    dsimp only
    split <;> exact ⟨_, rfl⟩
  | logoutFound row => exact ⟨_, rfl⟩
  | _ => cases commits

/-- How a call comes to be under way: the action, the call that it goes on from, and
the other calls. -/
def Starts (services : TokenServices) (state : TokenState) (action : TokenAction)
    (source : Option AuthCall) (others : List AuthCall) : AuthCall → Prop
  | .codeClient request _ => action = .tokenCode request
  | .codeAllowed exchange client =>
    source = some (.codeAllowed exchange client) ∨
      (∃ request earlier, source = some (.codeClient request earlier) ∧ request.Presents exchange) ∧
        client ∈ state.applications ∧ client.clientId = exchange.clientId ∧ client.isActive = true
  | .codeLocked exchange client row now =>
    source = some (.codeAllowed exchange client) ∧ row ∈ state.codes ∧
      RowLock.code row.id ∉ others.filterMap AuthCall.lock? ∧
      row.codeHash = services.hashAuthorizationCode exchange.code ∧
      row.clientId = exchange.clientId ∧
      row.redirectUri = exchange.redirectUri ∧ row.consumedAt = none ∧
      now = state.clock ∧ now < row.expiresAt ∧
      services.pkceS256 exchange.codeVerifier = row.codeChallenge
  | .codeReady exchange client row now user =>
    source = some (.codeLocked exchange client row now) ∧
      user ∈ state.users ∧ user.id = row.userId ∧ user.isActive = true
  | .refreshLocked token row _ =>
    (∃ request, source = some (.refreshClient request) ∧
      presentText request.refreshToken = some token) ∧ row ∈ state.sessions ∧
      RowLock.session row.id ∉ others.filterMap AuthCall.lock? ∧
      row.refreshTokenHash = services.hashRefreshToken token
  | .refreshReady token row now _ => source = some (.refreshLocked token row now)
  | .plainFound token row =>
    (∃ request, source = some (.plainClient request) ∧ request.refreshToken = token) ∧
      row ∈ state.sessions ∧ row.refreshTokenHash = services.hashRefreshToken token
  | .plainReady token row _ => source = some (.plainFound token row)
  | .logoutFound row => row ∈ state.sessions
  | _ => True

theorem advance_starts {action : TokenAction} {index : ℕ} {call next : AuthCall} (continues :
      ((state.dropCall index).advance services settings input call).2 = .continues next) :
    state.Starts services action (some call) (state.calls.eraseIdx index) next := by
  cases call with
  | authorizeValidated request scope =>
    unfold advance signIn at continues
    dsimp only at continues
    repeat' split at continues
    all_goals cases continues
    trivial
  | codeClient request client =>
    unfold advance checkExchange at continues
    dsimp only at continues
    repeat' split at continues
    all_goals cases continues
    rename_i code redirectUri verifier _ _ required _
    exact .inr ⟨⟨request, client, rfl, rfl, code, redirectUri, verifier⟩,
      requireClientRedirect_spec required⟩
  | codeAllowed exchange client =>
    unfold advance lockCode at continues
    dsimp only at continues
    split at continues
    · cases continues
    · rename_i row found
      obtain ⟨stored, hash⟩ := find?_decide found
      split at continues
      · cases continues
        exact .inl rfl
      · rename_i unlocked
        split at continues
        · cases continues
        · rename_i granted
          split at continues
          · cases continues
          · rename_i verified
            cases continues
            simp only [not_or, Ne, Decidable.not_not, not_le,
              Bool.not_eq_true, Option.isSome_eq_false_iff,
              Option.isNone_iff_eq_none] at granted verified
            refine ⟨rfl, stored, ?_, hash, granted.1, granted.2.1,
              granted.2.2.1, rfl, granted.2.2.2, verified⟩
            exact of_decide_eq_false (Bool.eq_false_of_not_eq_true unlocked)
  | codeLocked exchange client row now =>
    unfold advance readCodeUser at continues
    dsimp only at continues
    split at continues
    · cases continues
    · rename_i user found
      cases continues
      exact ⟨rfl, activeUser_spec found⟩
  | refreshClient request =>
    unfold advance lockSession at continues
    dsimp only at continues
    split at continues
    · cases continues
    · rename_i token presented
      split at continues
      · cases continues
      · rename_i row found
        obtain ⟨stored, hash⟩ := sessionOf_spec found
        split at continues
        · cases continues
          trivial
        · rename_i unlocked
          split at continues
          · cases continues
            exact ⟨⟨request, rfl, presented⟩, stored, of_decide_eq_false
              (Bool.eq_false_of_not_eq_true unlocked), hash⟩
          · cases continues
  | refreshLocked token row now =>
    unfold advance readSessionUser at continues
    dsimp only at continues
    split at continues <;> cases continues
    rfl
  | plainClient request =>
    unfold advance findSession at continues
    dsimp only at continues
    split at continues
    · cases continues
    · rename_i row found
      split at continues <;> cases continues
      exact ⟨⟨request, rfl, rfl⟩, sessionOf_spec found⟩
  | plainFound token row =>
    unfold advance readPlainUser at continues
    dsimp only at continues
    split at continues <;> cases continues
    rfl
  | authorizeSignedIn request scope user method =>
    unfold advance issueAuthorizationCode at continues
    dsimp only at continues
    split at continues <;> cases continues
  | codeReady exchange client row now user =>
    unfold advance commitCode at continues
    dsimp only at continues
    split at continues <;> cases continues
  | refreshReady token row now user =>
    unfold advance commitRefresh at continues
    dsimp only at continues
    split at continues <;> cases continues
  | plainReady token row user =>
    unfold advance commitRefresh at continues
    dsimp only at continues
    split at continues <;> cases continues
  | logoutFound row => cases continues

theorem Starts.lock {action : TokenAction} {call next : AuthCall} {others : List AuthCall}
    (starts : state.Starts services action (some call) others next) :
    next.lock? = none ∨ next.lock? = call.lock? ∨ ∃ lock, next.lock? = some lock ∧
        lock ∉ others.filterMap AuthCall.lock? := by
  cases next with
  | codeLocked exchange client row now => exact .inr (.inr ⟨_, rfl, starts.2.2.1⟩)
  | codeReady exchange client row now user =>
    rw [Option.some.inj starts.1]
    exact .inr (.inl rfl)
  | refreshLocked token row now => exact .inr (.inr ⟨_, rfl, starts.2.2.1⟩)
  | refreshReady token row now user =>
    rw [Option.some.inj starts]
    exact .inr (.inl rfl)
  | _ => exact .inl rfl

theorem advance_directory (call : AuthCall) :
    (state.advance services settings input call).1.users = state.users ∧
      (state.advance services settings input call).1.applications = state.applications := by
  cases commits : call.commits with
  | false =>
    rw [advance_rest commits]
    exact ⟨rfl, rfl⟩
  | true =>
    cases call with
    | authorizeSignedIn request scope user method =>
      unfold advance issueAuthorizationCode
      dsimp only
      split <;> exact ⟨rfl, rfl⟩
    | codeReady exchange client row now user =>
      unfold advance commitCode
      dsimp only
      split <;> exact ⟨rfl, rfl⟩
    | refreshReady token row now user =>
      unfold advance commitRefresh
      dsimp only
      split <;> exact ⟨rfl, rfl⟩
    | plainReady token row user =>
      unfold advance commitRefresh
      dsimp only
      split <;> exact ⟨rfl, rfl⟩
    | logoutFound row => exact ⟨rfl, rfl⟩
    | _ => cases commits

end Statements

inductive CallsStep (services : TokenServices) (state : TokenState) (action : TokenAction) :
    List AuthCall → Prop
  | same : CallsStep services state action state.calls
  | ends (index : ℕ) : CallsStep services state action (state.calls.eraseIdx index)
  | joins (next : AuthCall) (starts : state.Starts services action none [] next) :
      CallsStep services state action (state.calls ++ [next])
  | goesOn (index : ℕ) (call next : AuthCall) (found : state.calls[index]? = some call)
      (starts : state.Starts services action (some call) (state.calls.eraseIdx index) next) :
      CallsStep services state action (state.calls.eraseIdx index ++ [next])

/-- A step without a commit leaves codes, sessions and their history
alone. -/
structure Rests (before after : TokenState) : Prop where
  codes : after.codes = before.codes
  sessions : after.sessions = before.sessions
  redeemed : after.redeemed = before.redeemed
  issued : after.issued = before.issued
  exchanged : after.exchanged = before.exchanged

section Steps

variable {services : TokenServices} {settings : TokenSettings} {state : TokenState}

def advanced? (state : TokenState) : TokenAction → Option AuthCall
  | .advance index _ => state.calls[index]?
  | _ => none

theorem commit_calls {index : ℕ} {input : TokenInput} {call : AuthCall} :
    ((state.dropCall index).advance services settings input call).1.calls =
      state.calls.eraseIdx index := by
  cases commits : call.commits with
  | false =>
    rw [advance_rest commits]
    rfl
  | true =>
    cases call with
    | authorizeSignedIn request scope user method =>
      unfold advance issueAuthorizationCode
      dsimp only
      split <;> rfl
    | codeReady exchange client row now user =>
      unfold advance commitCode
      dsimp only
      split <;> rfl
    | refreshReady token row now user =>
      unfold advance commitRefresh
      dsimp only
      split <;> rfl
    | plainReady token row user =>
      unfold advance commitRefresh
      dsimp only
      split <;> rfl
    | logoutFound row => rfl
    | _ => cases commits

theorem resume_first {action : TokenAction} {result : TokenState × TokenOutcome}
    (same : result.1 = state)
    (starts : ∀ next, result.2 = .continues next → state.Starts services action none [] next) :
    state.Rests (resume result).1 ∧ CallsStep services state action (resume result).1.calls := by
  unfold resume
  rw [same]
  split
  · exact ⟨⟨rfl, rfl, rfl, rfl, rfl⟩, .same⟩
  · rename_i next continues
    exact ⟨⟨rfl, rfl, rfl, rfl, rfl⟩, .joins next (starts next continues)⟩

theorem first_authorize (request : AuthorizationRequest) :
    state.Rests (resume (state.authorize settings request)).1 ∧
      CallsStep services state (.authorize request)
        (resume (state.authorize settings request)).1.calls := by
  apply resume_first
  · unfold authorize
    split <;> rfl
  · intro next continues
    unfold authorize at continues
    split at continues <;> cases continues
    trivial

theorem first_tokenCode (request : CodeGrant) : state.Rests (resume (state.tokenCode request)).1 ∧
      CallsStep services state (.tokenCode request) (resume (state.tokenCode request)).1.calls := by
  apply resume_first
  · unfold tokenCode
    split <;> rfl
  · intro next continues
    unfold tokenCode at continues
    split at continues <;> cases continues
    rfl

theorem first_tokenRefresh (request : RefreshGrant) :
    state.Rests (resume (state.tokenRefresh request)).1 ∧
      CallsStep services state (.tokenRefresh request)
        (resume (state.tokenRefresh request)).1.calls := by
  apply resume_first
  · unfold tokenRefresh
    split <;> rfl
  · intro next continues
    unfold tokenRefresh at continues
    split at continues <;> cases continues
    trivial

theorem first_refresh (request : RefreshRequest) : state.Rests (resume (state.refresh request)).1 ∧
      CallsStep services state (.refresh request) (resume (state.refresh request)).1.calls := by
  apply resume_first
  · unfold refresh
    split <;> rfl
  · intro next continues
    unfold refresh at continues
    split at continues <;> cases continues
    trivial

theorem first_logout (token : String) : state.Rests (resume (state.logout services token)).1 ∧
      CallsStep services state (.logout token) (resume (state.logout services token)).1.calls := by
  apply resume_first
  · unfold logout
    repeat' split
    all_goals rfl
  · intro next continues
    unfold logout at continues
    split at continues
    · cases continues
    · rename_i row found
      split at continues <;> cases continues
      exact (sessionOf_spec found).1

theorem perform_cases (services : TokenServices) (settings : TokenSettings)
    (state : TokenState) (action : TokenAction) :
    (state.Rests (state.perform services settings action).1 ∧ CallsStep services state action
        (state.perform services settings action).1.calls) ∨
    (∃ row token, action = .openSession row token ∧ (state.perform services settings action).1 =
        state.openSession services row token) ∨ ∃ index input call, action = .advance index input ∧
      state.calls[index]? = some call ∧ call.commits = true ∧ state.waits call = false ∧
      (state.perform services settings action).1 =
        ((state.dropCall index).advance services settings input call).1 := by
  have unchanged : state.Rests state := ⟨rfl, rfl, rfl, rfl, rfl⟩
  cases action with
  | wait elapsed => exact .inl ⟨⟨rfl, rfl, rfl, rfl, rfl⟩, .same⟩
  | authorize request => exact .inl (first_authorize request)
  | tokenCode request => exact .inl (first_tokenCode request)
  | tokenRefresh request => exact .inl (first_tokenRefresh request)
  | refresh request => exact .inl (first_refresh request)
  | logout token => exact .inl (first_logout token)
  | crash index => exact .inl ⟨⟨rfl, rfl, rfl, rfl, rfl⟩, .ends index⟩
  | openSession row token => exact .inr (.inl ⟨row, token, rfl, rfl⟩)
  | setUserActive id active => exact .inl ⟨⟨rfl, rfl, rfl, rfl, rfl⟩, .same⟩
  | setApplicationActive clientId active => exact .inl ⟨⟨rfl, rfl, rfl, rfl, rfl⟩, .same⟩
  | advance index input =>
    unfold perform
    dsimp only
    cases found : state.calls[index]? with
    | none => exact .inl ⟨unchanged, .same⟩
    | some call =>
      dsimp only
      cases waiting : state.waits call with
      | true => exact .inl ⟨unchanged, .same⟩
      | false =>
        rw [if_neg (by simp)]
        cases commits : call.commits with
        | true =>
          obtain ⟨response, ended⟩ :=
            @advance_commits services settings (state.dropCall index) input call commits
          refine .inr (.inr ⟨index, input, call, rfl, found, commits, waiting, ?_⟩)
          unfold resume
          rw [ended]
        | false =>
          have same : ((state.dropCall index).advance services
              settings input call).1 = state.dropCall index :=
            advance_rest commits
          refine .inl ?_
          unfold resume
          rw [same]
          split
          · exact ⟨⟨rfl, rfl, rfl, rfl, rfl⟩, .ends index⟩
          · rename_i next continues
            exact ⟨⟨rfl, rfl, rfl, rfl, rfl⟩, .goesOn index call next
              found (advance_starts continues)⟩

variable {action : TokenAction}

theorem Starts.free {others : List AuthCall} {next : AuthCall}
    (starts : state.Starts services action none others next) : next.lock? = none := by
  cases next with
  | codeLocked exchange client row now => cases starts.1
  | codeReady exchange client row now user => cases starts.1
  | refreshLocked token row now =>
    obtain ⟨⟨request, none, -⟩, -⟩ := starts
    cases none
  | refreshReady token row now user => cases starts
  | _ => rfl

theorem CallsStep.exclusive {calls : List AuthCall} (step : CallsStep services state action calls)
    (exclusive : Exclusive AuthCall.lock? state.calls) : Exclusive AuthCall.lock? calls := by
  cases step with
  | same => exact exclusive
  | ends index => exact exclusive.eraseIdx
  | joins next starts => exact exclusive.join starts.free
  | goesOn index call next found starts =>
    rcases starts.lock with free | kept | taken
    · exact exclusive.eraseIdx.join free
    · exact exclusive.keep found kept
    · obtain ⟨lock, takes, untaken⟩ := taken
      exact exclusive.eraseIdx.acquire takes untaken

/-- What holds of the calls under way and of every call that starts holds of
the calls after the step. -/
theorem CallsStep.forall_calls {calls : List AuthCall}
    (step : CallsStep services state action calls) {holds : AuthCall → Prop}
    (earlier : ∀ call ∈ state.calls, holds call) (starting : ∀ source others next,
      (∀ call ∈ source, call ∈ state.calls) → state.Starts services action source others next →
        holds next) : ∀ call ∈ calls, holds call := by
  cases step with
  | same => exact earlier
  | ends index => exact fun call member => earlier call (List.mem_of_mem_eraseIdx member)
  | joins next starts =>
    intro call member
    rcases List.mem_append.mp member with old | new
    · exact earlier call old
    · rw [List.mem_singleton.mp new]
      exact starting none [] next (fun _ none => nomatch none) starts
  | goesOn index source next found starts =>
    intro call member
    rcases List.mem_append.mp member with old | new
    · exact earlier call (List.mem_of_mem_eraseIdx old)
    · rw [List.mem_singleton.mp new]
      refine starting (some source) _ next ?_ starts
      intro other same
      rw [← Option.some.inj same]
      exact List.mem_of_getElem? found

end Steps

end TokenState

end Ithute.Auth
