import Ithute.Library.TransitionRuns
import Ithute.Library.UniqueRows
import Ithute.AuthTokenSteps

/-!
# Authorization codes

An exchange locks the row of its code, checks it, and consumes it together
with the session that it creates.  The lock keeps the checked row as it is
until the commit.
-/

namespace Ithute.Auth

open HeldLocks TransitionRuns

namespace TokenAction

def switches : TokenAction → Bool
  | .setUserActive _ _ | .setApplicationActive _ _ => true
  | _ => false

end TokenAction

namespace TokenState

def Performs (services : TokenServices) (settings : TokenSettings)
    (before : TokenState) (action : TokenAction) (after : TokenState) : Prop :=
  after = (before.perform services settings action).1

def starting (users : List User) (applications : List Application)
    (redirectUris : List ApplicationRedirectURI) : TokenState where
  users := users
  applications := applications
  redirectUris := redirectUris

/-- The exchange presents what the code was issued for, in time. -/
structure Presents (services : TokenServices) (state : TokenState)
    (exchange : Exchange) (row : AuthorizationCode) (now : ℕ) : Prop where
  stored : row ∈ state.codes
  code : row.codeHash = services.hashAuthorizationCode exchange.code
  sameClient : exchange.clientId = row.clientId
  sameRedirect : exchange.redirectUri = row.redirectUri
  verifier : services.pkceS256 exchange.codeVerifier = row.codeChallenge
  unconsumed : row.consumedAt = none
  unexpired : now < row.expiresAt

structure Redeems (services : TokenServices) (before after : TokenState) (exchange : Exchange)
    (row : AuthorizationCode) (now : ℕ) (session : AuthSession) : Prop where
  presents : before.Presents services exchange row now
  owners : session.userId = row.userId ∧ session.clientId = row.clientId
  sessions : after.sessions = before.sessions ++ [session]
  redeemed : after.redeemed = before.redeemed ++ [(row.id, session.id)]
  consumed : ∀ stored ∈ after.codes, stored.id = row.id → stored.consumedAt = some now

def ClientActive (state : TokenState) (clientId : String) : Prop :=
  ∃ stored ∈ state.applications, stored.clientId = clientId ∧ stored.isActive = true

def UserActive (state : TokenState) (userId : ℕ) : Prop :=
  ∃ stored ∈ state.users, stored.id = userId ∧ stored.isActive = true

end TokenState

namespace AuthCall

def exchanges : AuthCall → Bool
  | .codeClient _ _ | .codeAllowed _ _ | .codeLocked _ _ _ _
  | .codeReady _ _ _ _ _ => true
  | _ => false

end AuthCall

namespace TokenState

section Histories

variable (services : TokenServices) (settings : TokenSettings) (start : TokenState)
variable (front : List TokenAction)

/-- At a moment of the run so far. -/
def Past (holds : List TokenAction → TokenState → TokenAction → Prop) : Prop :=
  Happened (Performs services settings) start front holds

/-- A token request of the run presents the exchange, and its client was stored
active when it was read thereafter. -/
def Requested (exchange : Exchange) : Prop :=
  Past services settings start front fun earlier state _ =>
    state.ClientActive exchange.clientId ∧
      Past services settings start earlier fun _ _ action =>
        ∃ request, action = .tokenCode request ∧ request.Presents exchange

/-- Then the row was stored at the time `now`. -/
def Locked (exchange : Exchange) (row : AuthorizationCode) (now : ℕ) : Prop :=
  Past services settings start front fun earlier state _ =>
    (row ∈ state.codes ∧ now = state.clock) ∧ Requested services settings start earlier exchange

/-- And then the user of the row was stored active. -/
def Traced (exchange : Exchange) (row : AuthorizationCode) (now : ℕ) : Prop :=
  Past services settings start front fun earlier state _ =>
    state.UserActive row.userId ∧ Locked services settings start earlier exchange row now

structure CodesSound (before : TokenState) (action : TokenAction) (after : TokenState) : Prop where
  /-- No code has created two sessions. -/
  once : (after.redeemed.map Prod.fst).Nodup
  /-- A code creates a session only for a request that presents it. -/
  redeems : after.redeemed = before.redeemed ∨ ∃ exchange client row now user session,
      before.advanced? action = some (.codeReady exchange client row now user) ∧
      Redeems services before after exchange row now session ∧
      Traced services settings start front exchange row now
  /-- An exchange that creates no session changes nothing. -/
  rejected : (∃ request, action = .tokenCode request) ∨
      (∃ call, before.advanced? action = some call ∧
        call.exchanges = true ∧ after.redeemed = before.redeemed) →
    ∃ calls, after = { before with calls := calls }

/-- What a call of an exchange has read at the moments of the run so far. -/
def TracedCall : AuthCall → Prop
  | .codeClient request _ => Past services settings start front fun _ _ action =>
      action = .tokenCode request
  | .codeAllowed exchange _ => Requested services settings start front exchange
  | .codeLocked exchange _ row now => Locked services settings start front exchange row now
  | .codeReady exchange _ row now _ => Traced services settings start front exchange row now
  | _ => True

end Histories

/-- Where no administrator intervenes, user and client are active when the
session is created. -/
def ActiveAtExchange (before : TokenState) (action : TokenAction) (after : TokenState) : Prop :=
  ∀ exchange client row now user, before.advanced? action =
      some (.codeReady exchange client row now user) → after.redeemed ≠ before.redeemed →
    before.UserActive row.userId ∧ before.ClientActive row.clientId

def HoldsCode (services : TokenServices) (state : TokenState) : AuthCall → Prop
  | .codeLocked exchange _ row now => state.Presents services exchange row now
  | .codeReady exchange _ row now user =>
    state.Presents services exchange row now ∧ user.id = row.userId
  | _ => True

structure CodeInvariant (services : TokenServices) (state : TokenState) : Prop where
  locks : Exclusive AuthCall.lock? state.calls
  ids : state.codes.Pairwise fun first second => first.id ≠ second.id
  calls : ∀ call ∈ state.calls, state.HoldsCode services call
  redeemed : ∀ entry ∈ state.redeemed, ∃ code ∈ state.codes,
    code.id = entry.1 ∧ code.consumedAt ≠ none
  once : (state.redeemed.map Prod.fst).Nodup

section Steps

variable {services : TokenServices} {settings : TokenSettings} {state after : TokenState}

inductive CodesStep (services : TokenServices) (settings : TokenSettings)
    (state : TokenState) (action : TokenAction) (after : TokenState) : Prop
  | same (codes : after.codes = state.codes) (redeemed : after.redeemed = state.redeemed)
  | issues (row : AuthorizationCode) (codes : after.codes = state.codes ++ [row])
      (redeemed : after.redeemed = state.redeemed)
      (fresh : ∀ stored ∈ state.codes, stored.id ≠ row.id)
  | redeems (index : ℕ) (input : TokenInput) (exchange : Exchange)
      (client : Application) (row : AuthorizationCode) (now : ℕ)
      (user : User) (isAdvance : action = .advance index input) (found : state.calls[index]? =
        some (.codeReady exchange client row now user))
      (same : after = (((state.dropCall index).commitCode services settings
        exchange row now user input).1))
      (free : ¬ (state.dropCall index).SessionTaken
        (newSession services settings exchange row now user input))

theorem perform_codes (services : TokenServices) (settings : TokenSettings)
    (state : TokenState) (action : TokenAction) : CodesStep services settings state action
      (state.perform services settings action).1 := by
  rcases perform_cases services settings state action with
    ⟨rests, -⟩ | ⟨row, token, -, same⟩ |
    ⟨index, input, call, isAdvance, found, commits, -, same⟩
  · exact .same rests.codes rests.redeemed
  · rw [same]
    unfold openSession
    dsimp only
    split <;> exact .same rfl rfl
  · rw [same]
    cases call with
    | authorizeSignedIn request scope user method =>
      unfold advance issueAuthorizationCode
      dsimp only
      split
      · exact .same rfl rfl
      · rename_i fresh
        refine .issues _ rfl rfl ?_
        intro stored member sameId
        exact fresh ⟨stored, member, .inl sameId⟩
    | codeReady exchange client row now user =>
      by_cases taken : (state.dropCall index).SessionTaken
          (newSession services settings exchange row now user input)
      · unfold advance commitCode
        dsimp only
        rw [if_pos taken]
        exact .same rfl rfl
      · exact .redeems index input exchange client row now user isAdvance found rfl taken
    | refreshReady token row now user =>
      unfold advance commitRefresh
      dsimp only
      split <;> exact .same rfl rfl
    | plainReady token row user =>
      unfold advance commitRefresh
      dsimp only
      split <;> exact .same rfl rfl
    | logoutFound row => exact .same rfl rfl
    | _ => cases commits

theorem perform_callsStep (services : TokenServices)
    (settings : TokenSettings) (state : TokenState) (action : TokenAction) :
    CallsStep services state action (state.perform services settings action).1.calls := by
  rcases perform_cases services settings state action with
    ⟨-, step⟩ | ⟨row, token, -, same⟩ |
    ⟨index, input, call, -, -, -, -, same⟩
  · exact step
  · have calls : (state.openSession services row token).calls = state.calls := by
      unfold openSession
      dsimp only
      split <;> rfl
    rw [same, calls]
    exact .same
  · rw [same, commit_calls]
    exact .ends index

variable {row : AuthorizationCode}

theorem Presents.of_mem {exchange : Exchange} {now : ℕ}
    (presents : state.Presents services exchange row now) (stored : row ∈ after.codes) :
    after.Presents services exchange row now :=
  { presents with stored := stored }

variable {call : AuthCall}

theorem HoldsCode.keep (holds : state.HoldsCode services call)
    (kept : ∀ row ∈ state.codes, call.lock? = some (.code row.id) → row ∈ after.codes) :
    after.HoldsCode services call := by
  cases call with
  | codeLocked exchange client row now =>
    exact holds.of_mem (kept row holds.stored rfl)
  | codeReady exchange client row now user =>
    exact ⟨holds.1.of_mem (kept row holds.1.stored rfl), holds.2⟩
  | _ => exact holds

variable {action : TokenAction}

theorem Starts.holdsCode {source : Option AuthCall} {others : List AuthCall} {next : AuthCall}
    (earlier : ∀ call ∈ state.calls, state.HoldsCode services call)
    (known : ∀ call ∈ source, call ∈ state.calls)
    (starts : state.Starts services action source others next) :
    state.HoldsCode services next := by
  cases next with
  | codeLocked exchange client row now =>
    obtain ⟨-, stored, -, hash, clientId, redirectUri, unconsumed, -, unexpired, verifier⟩ := starts
    exact
      { stored := stored
        code := hash
        sameClient := clientId.symm
        sameRedirect := redirectUri.symm
        verifier := verifier
        unconsumed := unconsumed
        unexpired := unexpired }
  | codeReady exchange client row now user =>
    obtain ⟨locked, -, sameUser, -⟩ := starts
    exact ⟨earlier _ (known _ locked), sameUser⟩
  | _ => trivial

theorem consume_mem {codes : List AuthorizationCode}
    {id now : ℕ} (member : row ∈ codes) (other : row.id ≠ id) :
    row ∈ codes.map fun stored =>
      if stored.id = id then { stored with consumedAt := some now }
      else stored :=
  List.mem_map.mpr ⟨row, member, if_neg other⟩

theorem commitCode_result {index now : ℕ} {input : TokenInput} {exchange : Exchange} {user : User}
    (free : ¬ (state.dropCall index).SessionTaken
      (newSession services settings exchange row now user input)) :
    ((state.dropCall index).commitCode services settings exchange row now user input).1 =
      { state.dropCall index with
        codes := state.codes.map fun stored =>
          if stored.id = row.id then
            { stored with consumedAt := some now }
          else stored
        sessions := state.sessions ++ [newSession services settings exchange row now user input]
        redeemed := state.redeemed ++ [(row.id, input.newId)]
        issued := state.issued ++ [(input.newToken, input.newId)] } := by
  unfold commitCode
  dsimp only
  rw [if_neg free]
  rfl

theorem CodeInvariant.perform (invariant : state.CodeInvariant services) (action : TokenAction) :
    CodeInvariant services (state.perform services settings action).1 := by
  have calls := perform_callsStep services settings state action
  have locks := calls.exclusive invariant.locks
  -- the calls under way after a step that keeps every code stored
  have holding (kept : ∀ row ∈ state.codes,
      row ∈ (state.perform services settings action).1.codes) :
      ∀ call ∈ (state.perform services settings action).1.calls,
        HoldsCode services (state.perform services settings action).1
          call := by
    intro call member
    refine HoldsCode.keep ?_ fun row stored _ => kept row stored
    exact calls.forall_calls invariant.calls (fun source others next known starts =>
        starts.holdsCode invariant.calls known) call member
  cases perform_codes services settings state action with
  | same codes redeemed =>
    refine ⟨locks, ?_, holding ?_, ?_, ?_⟩
    · rw [codes]
      exact invariant.ids
    · rw [codes]
      exact fun row stored => stored
    · rw [codes, redeemed]
      exact invariant.redeemed
    · rw [redeemed]
      exact invariant.once
  | issues row codes redeemed fresh =>
    refine ⟨locks, ?_, holding ?_, ?_, ?_⟩
    · rw [codes]
      exact UniqueRows.pairwise_insert invariant.ids fresh
    · rw [codes]
      exact fun row stored => List.mem_append_left _ stored
    · rw [codes, redeemed]
      intro entry member
      obtain ⟨code, stored, consumed⟩ := invariant.redeemed entry member
      exact ⟨code, List.mem_append_left _ stored, consumed⟩
    · rw [redeemed]
      exact invariant.once
  | redeems index input exchange client row now user isAdvance found same free =>
    have member := List.mem_of_getElem? found
    obtain ⟨presents, -⟩ := invariant.calls _ member
    rw [same, commitCode_result free] at locks ⊢
    refine ⟨locks, ?_, ?_, ?_, ?_⟩
    · rw [List.pairwise_map]
      refine invariant.ids.imp ?_
      intro first second differ
      split <;> split <;> exact differ
    · intro call callMem
      have alone : RowLock.code row.id ∉ (state.calls.eraseIdx index).filterMap AuthCall.lock? :=
        invariant.locks.apart found rfl
      refine HoldsCode.keep (invariant.calls call (List.mem_of_mem_eraseIdx callMem)) ?_
      intro other stored holdsLock
      apply consume_mem stored
      intro sameId
      rw [sameId] at holdsLock
      exact alone (List.mem_filterMap.mpr ⟨call, callMem, holdsLock⟩)
    · intro entry entryMem
      rcases List.mem_append.mp entryMem with old | new
      · obtain ⟨code, stored, sameId, consumed⟩ := invariant.redeemed entry old
        refine ⟨_, List.mem_map_of_mem stored, ?_, ?_⟩
        · split <;> exact sameId
        · split
          · exact Option.some_ne_none now
          · exact consumed
      · rw [List.mem_singleton.mp new]
        refine ⟨_, List.mem_map_of_mem presents.stored, ?_, ?_⟩
        · rw [if_pos rfl]
        · rw [if_pos rfl]
          exact Option.some_ne_none now
    · rw [List.map_append, List.map_singleton]
      apply List.Nodup.append invariant.once (List.nodup_singleton _)
      rw [List.disjoint_singleton]
      intro again
      obtain ⟨entry, entryMem, sameEntry⟩ := List.mem_map.mp again
      obtain ⟨code, stored, sameId, consumed⟩ := invariant.redeemed entry entryMem
      have ids : (state.codes.map AuthorizationCode.id).Nodup :=
        List.pairwise_map.mpr invariant.ids
      have sameRow : code = row := List.inj_on_of_nodup_map ids stored
        presents.stored (sameId.trans sameEntry)
      rw [sameRow] at consumed
      exact consumed presents.unconsumed

theorem tokenCode_unchanged (request : CodeGrant) :
    ∃ calls, (state.perform services settings (.tokenCode request)).1 =
      { state with calls := calls } := by
  unfold perform tokenCode
  dsimp only
  cases state.activeClient request.clientId with
  | none => exact ⟨_, rfl⟩
  | some client => exact ⟨_, rfl⟩

theorem exchange_unchanged {action : TokenAction}
    (advanced : state.advanced? action = some call) (exchanges : call.exchanges = true)
    (unredeemed : (state.perform services settings action).1.redeemed = state.redeemed) :
    ∃ calls, (state.perform services settings action).1 = { state with calls := calls } := by
  cases action with
  | advance index input =>
    have found : state.calls[index]? = some call := advanced
    have running : state.waits call = false := by cases call <;> first | rfl | cases exchanges
    unfold perform at unredeemed ⊢
    dsimp only at unredeemed ⊢
    rw [found] at unredeemed ⊢
    dsimp only at unredeemed ⊢
    rw [running] at unredeemed ⊢
    rw [if_neg (by simp)] at unredeemed ⊢
    cases commits : call.commits with
    | false =>
      have same : ((state.dropCall index).advance services settings input
          call).1 = state.dropCall index := advance_rest commits
      unfold resume
      rw [same]
      split <;> exact ⟨_, rfl⟩
    | true =>
      cases call with
      | codeReady exchange client row now user =>
        by_cases taken : (state.dropCall index).SessionTaken
            (newSession services settings exchange row now user input)
        · unfold advance commitCode
          dsimp only
          rw [if_pos taken]
          exact ⟨_, rfl⟩
        · unfold advance resume at unredeemed
          dsimp only at unredeemed
          rw [commitCode_result taken] at unredeemed
          have longer : state.redeemed ++ [(row.id, input.newId)] = state.redeemed := by
            split at unredeemed <;> exact unredeemed
          simp at longer
      | authorizeSignedIn _ _ _ _ | refreshReady _ _ _ _
      | plainReady _ _ _ | logoutFound _ => cases exchanges
      | _ => cases commits
  | _ => cases advanced

theorem CodeInvariant.sound (invariant : state.CodeInvariant services)
    (settings : TokenSettings) {start : TokenState} {front : List TokenAction}
    (traced : ∀ call ∈ state.calls, TracedCall services settings start front call)
    (action : TokenAction) : CodesSound services settings start front state action
      (state.perform services settings action).1 := by
  refine ⟨(invariant.perform action).once, ?_, ?_⟩
  · cases perform_codes services settings state action with
    | same codes redeemed => exact .inl redeemed
    | issues row codes redeemed fresh => exact .inl redeemed
    | redeems index input exchange client row now user isAdvance found same free =>
      have member := List.mem_of_getElem? found
      obtain ⟨presents, sameUser⟩ := invariant.calls _ member
      refine .inr ⟨exchange, client, row, now, user,
        newSession services settings exchange row now user input, ?_, ?_, traced _ member⟩
      · rw [isAdvance]
        exact found
      · rw [same, commitCode_result free]
        refine ⟨presents, ⟨sameUser, presents.sameClient⟩, rfl, rfl, ?_⟩
        intro stored storedMem sameId
        obtain ⟨old, oldMem, made⟩ := List.mem_map.mp storedMem
        by_cases here : old.id = row.id
        · rw [if_pos here] at made
          rw [← made]
        · rw [if_neg here] at made
          rw [made] at here
          exact absurd sameId here
  · intro rejected
    rcases rejected with ⟨request, isToken⟩ | ⟨call, advanced, exchanges, unredeemed⟩
    · rw [isToken]
      exact tokenCode_unchanged request
    · exact exchange_unchanged advanced exchanges unredeemed

theorem perform_directory {action : TokenAction} (switches : action.switches = false) :
    (state.perform services settings action).1.users = state.users ∧
      (state.perform services settings action).1.applications = state.applications := by
  have resumed (result : TokenState × TokenOutcome) : (resume result).1.users = result.1.users ∧
        (resume result).1.applications = result.1.applications := by
    unfold resume
    split <;> exact ⟨rfl, rfl⟩
  have first {result : TokenState × TokenOutcome} (same : result.1 = state) :
      (resume result).1.users = state.users ∧
        (resume result).1.applications = state.applications := by
    rw [(resumed result).1, (resumed result).2, same]
    exact ⟨rfl, rfl⟩
  cases action with
  | wait elapsed => exact ⟨rfl, rfl⟩
  | authorize request =>
    apply first
    unfold authorize
    split <;> rfl
  | tokenCode request =>
    apply first
    unfold tokenCode
    split <;> rfl
  | tokenRefresh request =>
    apply first
    unfold tokenRefresh
    split <;> rfl
  | refresh request =>
    apply first
    unfold refresh
    split <;> rfl
  | logout token =>
    apply first
    unfold logout
    repeat' split
    all_goals rfl
  | crash index => exact ⟨rfl, rfl⟩
  | openSession row token =>
    unfold perform openSession
    dsimp only
    split <;> exact ⟨rfl, rfl⟩
  | setUserActive id active => cases switches
  | setApplicationActive clientId active => cases switches
  | advance index input =>
    unfold perform
    dsimp only
    cases found : state.calls[index]? with
    | none => exact ⟨rfl, rfl⟩
    | some call =>
      dsimp only
      split
      · exact ⟨rfl, rfl⟩
      · obtain ⟨users, applications⟩ := @advance_directory services
          settings (state.dropCall index) input call
        rw [(resumed _).1, (resumed _).2, users, applications]
        exact ⟨rfl, rfl⟩

section Histories

variable {start : TokenState} {front : List TokenAction}

theorem TracedCall.later (traced : TracedCall services settings start front call)
    (next : List TokenAction) : TracedCall services settings start (front ++ next) call := by
  cases call with
  | codeClient | codeAllowed | codeLocked | codeReady => exact Happened.later traced next
  | _ => trivial

/-- Every statement of an exchange adds what it reads to what the earlier
ones have read. -/
theorem Starts.traced {source : Option AuthCall} {others : List AuthCall} {next : AuthCall}
    (run : Run (Performs services settings) start front state)
    (earlier : ∀ call ∈ source, TracedCall services settings start front call)
    (starts : state.Starts services action source others next) :
    TracedCall services settings start (front ++ [action]) next := by
  cases next with
  | codeClient request client => exact Happened.last run starts
  | codeAllowed exchange client =>
    rcases starts with waiting | ⟨⟨request, client', waiting, presents⟩, read⟩
    · exact Happened.later (earlier _ waiting) [action]
    · obtain ⟨past, _, later, before, split, reached, asked⟩ := earlier _ waiting
      exact Happened.last run
        ⟨⟨client, read⟩, past, _, later, before, split, reached, request, asked, presents⟩
  | codeLocked exchange client row now =>
    obtain ⟨waiting, stored, -, -, -, -, -, clock, -⟩ := starts
    exact Happened.last run ⟨⟨stored, clock⟩, earlier _ waiting⟩
  | codeReady exchange client row now user =>
    exact Happened.last run ⟨⟨user, starts.2⟩, earlier _ starts.1⟩
  | _ => trivial

theorem Run.traced (run : Run (Performs services settings) start front state)
    (none : start.calls = []) :
    ∀ call ∈ state.calls, TracedCall services settings start front call := by
  induction run with
  | start =>
    rw [none]
    exact fun _ absent => nomatch absent
  | @next front state following action run performs ih =>
    unfold Performs at performs
    rw [performs]
    have earlier : ∀ call ∈ state.calls,
        TracedCall services settings start (front ++ [action]) call :=
      fun call member => (ih call member).later [action]
    exact (perform_callsStep services settings state action).forall_calls earlier
      fun source others next known starts =>
        starts.traced run fun call waiting => ih call (known call waiting)

theorem Run.directory (run : Run (Performs services settings) start front state)
    (unswitched : ∀ action ∈ front, action.switches = false) :
    state.users = start.users ∧ state.applications = start.applications := by
  induction run with
  | start => exact ⟨rfl, rfl⟩
  | @next front state following action run performs ih =>
    obtain ⟨users, applications⟩ := ih fun other member =>
      unswitched other (List.mem_append_left _ member)
    obtain ⟨sameUsers, sameApplications⟩ := @perform_directory services settings state action
      (unswitched action (List.mem_append_right _ (List.mem_singleton_self _)))
    unfold Performs at performs
    rw [performs]
    exact ⟨sameUsers.trans users, sameApplications.trans applications⟩

theorem activeAtExchange (invariant : state.CodeInvariant services) (none : start.calls = [])
    (run : Run (Performs services settings) start front state)
    (unswitched : ∀ action ∈ front, action.switches = false) :
    ActiveAtExchange state action after := by
  intro exchange client row now user advanced _
  have member : AuthCall.codeReady exchange client row now user ∈ state.calls := by
    cases action with
    | advance index input => exact List.mem_of_getElem? advanced
    | _ => cases advanced
  have traced : Traced services settings start front exchange row now :=
    Run.traced run none _ member
  obtain ⟨users, applications⟩ := Run.directory run unswitched
  -- Nothing has changed since the moments of the reads.
  have constant {now : List TokenAction}
      {holds : List TokenAction → TokenState → TokenAction → Prop}
      (within : now ⊆ front) (past : Past services settings start now holds) :
      ∃ earlier then_ action, holds earlier then_ action ∧ earlier ⊆ front ∧
        state.users = then_.users ∧ state.applications = then_.applications := by
    obtain ⟨earlier, action, later, then_, rfl, reached, held⟩ := past
    have inside : earlier ⊆ front := fun _ member => within (List.mem_append_left _ member)
    obtain ⟨thenUsers, thenApplications⟩ := Run.directory reached fun other otherMem =>
      unswitched other (inside otherMem)
    exact ⟨earlier, then_, action, held, inside, users.trans thenUsers.symm,
      applications.trans thenApplications.symm⟩
  obtain ⟨_, _, _, ⟨active, locked⟩, within, sameUsers, -⟩ :=
    constant (List.Subset.refl _) traced
  obtain ⟨_, _, _, ⟨-, requested⟩, inside, -, -⟩ := constant within locked
  obtain ⟨_, _, _, ⟨clientActive, -⟩, -, -, sameClients⟩ := constant inside requested
  constructor
  · unfold UserActive at active ⊢
    rw [sameUsers]
    exact active
  · unfold ClientActive at clientActive ⊢
    rw [sameClients, ← (invariant.calls _ member).1.sameClient]
    exact clientActive

end Histories

end Steps

/-- From any users, clients and callbacks, every step of every run keeps the
promises of codes; without the administrator's switches user and client are
active when the session is created. -/
theorem run_codesSound (services : TokenServices) (settings : TokenSettings)
    (users : List User) (applications : List Application)
    (redirectUris : List ApplicationRedirectURI) (actions : List TokenAction) :
    EveryStepAfter (Performs services settings)
      (CodesSound services settings (starting users applications redirectUris))
      (starting users applications redirectUris) actions ∧
    EveryStep (Performs services settings) ActiveAtExchange
      (starting users applications redirectUris)
      (actions.filter fun action => !action.switches) := by
  have initial : CodeInvariant services (starting users applications redirectUris) :=
    { locks := Exclusive.nil
      ids := List.Pairwise.nil
      calls := fun _ none => nomatch none
      redeemed := fun _ none => nomatch none
      once := List.nodup_nil }
  have invariant {front : List TokenAction} {state : TokenState}
      (run : Run (Performs services settings) (starting users applications redirectUris)
        front state) : CodeInvariant services state := by
    refine run.invariant initial ?_
    intro before action following invariant performs
    unfold Performs at performs
    rw [performs]
    exact invariant.perform action
  constructor
  · intro front action back before after split run performs
    unfold Performs at performs
    rw [performs]
    exact (invariant run).sound settings (Run.traced run rfl) action
  · intro front action back before after split run performs
    refine activeAtExchange (invariant run) rfl run fun other member => ?_
    have kept : other ∈ actions.filter fun action => !action.switches := by
      rw [split]
      exact List.mem_append_left _ member
    simpa using (List.mem_filter.mp kept).2

end TokenState

end Ithute.Auth
