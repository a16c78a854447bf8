import Ithute.Library.TransitionRuns
import Ithute.AuthTokenSteps
import Ithute.AuthDelivery
import Ithute.AuthStatusCalls

/-!
# Sessions of disabled identities

The hook revokes the sessions that it selects.  A session that is committed
after that, or whose checks have passed before the identity was disabled,
stays alive.
-/

namespace Ithute.Auth

open TransitionRuns

def NewEvent.Announces (event : NewEvent) (id : ℕ) : Prop :=
  event.eventType = "session.revoked" ∧ event.sessionId = some id

def Tracked.Revokes (object : Tracked AuthSession) : Prop :=
  object.loaded.revokedAt = none ∧ object.current.revokedAt.isSome = true

/-- Every session object is to be revoked; the revocation is announced, or
will be when the hook comes to the object. -/
def HookState.Sound (pending : List ℕ) (state : HookState) : Prop :=
  ∀ object ∈ state.sessions, object.Revokes ∧ (object.current.id ∈ pending ∨
      ∃ event ∈ state.events, event.Announces object.current.id)

def HookState.Holds (state : HookState) (row : AuthSession) : Prop :=
  ∃ object ∈ state.sessions, object.current.id = row.id

namespace HookState

variable {state : HookState} {pending : List ℕ} {now : ℕ}
variable {stored rows : List AuthSession} {row : AuthSession}

theorem Sound.add (sound : state.Sound pending) (event : NewEvent) :
    (state.add event).Sound pending := by
  intro object member
  obtain ⟨revokes, announced⟩ := sound object member
  refine ⟨revokes, announced.imp_right ?_⟩
  rintro ⟨earlier, earlierMem, announces⟩
  exact ⟨earlier, List.mem_append_left _ earlierMem, announces⟩

theorem object_spec (sound : state.Sound pending) (row : AuthSession) :
    ((state.object row).current.revokedAt.isSome = true ∧ state.Holds row) ∨
      state.object row = Tracked.fresh row := by
  unfold object
  cases found : state.sessions.find? fun object =>
      decide (object.current.id = row.id) with
  | none => exact Or.inr rfl
  | some object =>
    obtain ⟨member, same⟩ := UniqueRows.find?_decide found
    exact Or.inl ⟨(sound object member).1.2, object, member, same⟩

theorem Holds.put {object : Tracked AuthSession} (holds : state.Holds row) :
    (state.put object).Holds row := by
  obtain ⟨held, member, same⟩ := holds
  by_cases replaced : held.current.id = object.current.id
  · exact ⟨object, List.mem_cons_self, replaced.symm.trans same⟩
  · refine ⟨held, List.mem_cons_of_mem _ ?_, same⟩
    exact List.mem_filter.mpr ⟨member, decide_eq_true replaced⟩

theorem revoke_spec (sound : state.Sound pending)
    (unrevoked : row.revokedAt = none) (reason : String) :
    (revokeScopeSessions now reason state [row]).Sound pending ∧
      (revokeScopeSessions now reason state [row]).Holds row ∧ ∀ other, state.Holds other →
        (revokeScopeSessions now reason state [row]).Holds other := by
  simp only [revokeScopeSessions, List.foldl_cons, List.foldl_nil]
  rcases object_spec sound row with ⟨revoked, holds⟩ | fresh
  · rw [if_pos revoked]
    exact ⟨sound, holds, fun _ held => held⟩
  · rw [fresh, Tracked.fresh, unrevoked]
    simp only [Option.isSome_none, Bool.false_eq_true, if_false]
    refine ⟨?_, ⟨_, List.mem_cons_self, rfl⟩, fun other held => held.put⟩
    intro object member
    rcases List.mem_cons.mp member with rfl | old
    · exact ⟨⟨unrevoked, rfl⟩, Or.inr ⟨_, List.mem_append_right _
        (List.mem_singleton_self _), rfl, rfl⟩⟩
    · exact sound.add _ object (List.mem_filter.mp old).1

theorem revokeScopeSessions_spec (sound : state.Sound pending)
    (unrevoked : ∀ row ∈ rows, row.revokedAt = none) (reason : String) :
    (revokeScopeSessions now reason state rows).Sound pending ∧ (∀ row ∈ rows,
        (revokeScopeSessions now reason state rows).Holds row) ∧
      ∀ other, state.Holds other → (revokeScopeSessions now reason state rows).Holds other := by
  induction rows generalizing state with
  | nil => exact ⟨sound, by simp, fun _ held => held⟩
  | cons row rows ih =>
    obtain ⟨soundFirst, holdsRow, keepsFirst⟩ :=
      @revoke_spec _ _ now _ sound (unrevoked row List.mem_cons_self) reason
    obtain ⟨soundRest, holdsRest, keepsRest⟩ := ih soundFirst
      fun other member => unrevoked other (List.mem_cons_of_mem _ member)
    refine ⟨soundRest, ?_, fun other held => keepsRest other (keepsFirst other held)⟩
    intro other member
    rcases List.mem_cons.mp member with rfl | later
    · exact keepsRest _ holdsRow
    · exact holdsRest other later

theorem session_spec {id : ℕ} (sound : state.Sound (id :: pending)) :
    (queueIdentityStatusEvent now stored state (.session id)).Sound pending ∧
      ∀ other, state.Holds other → (queueIdentityStatusEvent now stored state (.session id)).Holds
          other := by
  -- an object whose own turn it is not
  have others (object : Tracked AuthSession) (member : object ∈ state.sessions)
      (apart : object.current.id ≠ id) : object.Revokes ∧ (object.current.id ∈ pending ∨
          ∃ event ∈ state.events, event.Announces object.current.id) := by
    obtain ⟨revokes, awaited | announced⟩ := sound object member
    · exact ⟨revokes, Or.inl ((List.mem_cons.mp awaited).resolve_left apart)⟩
    · exact ⟨revokes, Or.inr announced⟩
  unfold queueIdentityStatusEvent
  dsimp only
  cases found : state.sessions.find? fun object =>
      decide (object.current.id = id) with
  | none =>
    refine ⟨?_, fun _ held => held⟩
    intro object member
    apply others object member
    intro same
    have missed := List.find?_eq_none.mp found object member
    exact missed (decide_eq_true same)
  | some object =>
    obtain ⟨member, same⟩ := UniqueRows.find?_decide found
    obtain ⟨⟨unrevoked, revoked⟩, _⟩ := sound object member
    obtain ⟨revokedAt, written⟩ := Option.isSome_iff_exists.mp revoked
    dsimp only
    rw [written, unrevoked]
    dsimp only
    rw [if_neg (Option.some_ne_none revokedAt).symm]
    refine ⟨?_, fun _ held => held⟩
    intro other otherMem
    by_cases own : other.current.id = id
    · refine ⟨(sound other otherMem).1, Or.inr ⟨_,
        List.mem_append_right _ (List.mem_singleton_self _), rfl, ?_⟩⟩
      rw [own, ← same]
      rfl
    · obtain ⟨revokes, announced⟩ := others other otherMem own
      refine ⟨revokes, announced.imp_right ?_⟩
      rintro ⟨event, eventMem, announces⟩
      exact ⟨event, List.mem_append_left _ eventMem, announces⟩

theorem sessions_spec {ids : List ℕ} (sound : state.Sound (ids ++ pending)) :
    ((ids.map DirtyObject.session).foldl
        (queueIdentityStatusEvent now stored) state).Sound pending ∧
      ∀ other, state.Holds other → ((ids.map DirtyObject.session).foldl
          (queueIdentityStatusEvent now stored) state).Holds other := by
  induction ids generalizing state with
  | nil => exact ⟨sound, fun _ held => held⟩
  | cons id ids ih =>
    obtain ⟨soundFirst, keepsFirst⟩ := @session_spec _ (ids ++ pending) now stored id sound
    obtain ⟨soundRest, keepsRest⟩ := ih soundFirst
    exact ⟨soundRest, fun other held => keepsRest other (keepsFirst other held)⟩

theorem scope_spec (sound : state.Sound pending)
    (chosen : AuthSession → Prop) [DecidablePred chosen] (event : NewEvent) (reason : String) :
    (revokeScopeSessions now reason (state.add event) (stored.filter fun row => decide
          (chosen row ∧ row.revokedAt = none))).Sound pending ∧
      ∀ row ∈ stored, chosen row → row.revokedAt = none →
        (revokeScopeSessions now reason (state.add event) (stored.filter fun row => decide
            (chosen row ∧ row.revokedAt = none))).Holds row := by
  obtain ⟨soundAfter, holds, _⟩ := @revokeScopeSessions_spec _ _ now
    (stored.filter fun row => decide (chosen row ∧ row.revokedAt = none))
    (sound.add event) (by simp) reason
  refine ⟨soundAfter, ?_⟩
  intro row member owned unrevoked
  exact holds row (List.mem_filter.mpr ⟨member, decide_eq_true ⟨owned, unrevoked⟩⟩)

theorem target_spec {target : StatusTarget} (sound : state.Sound pending) :
    (queueIdentityStatusEvent now stored state target.dirty).Sound pending ∧
      (target.disables = true → ∀ row ∈ stored, target.owns row = true → row.revokedAt = none →
          (queueIdentityStatusEvent now stored state target.dirty).Holds row) := by
  cases target with
  | user object =>
    simp only [StatusTarget.dirty, StatusTarget.disables,
      StatusTarget.owns, queueIdentityStatusEvent]
    by_cases same : object.loaded.isActive = object.current.isActive
    · rw [if_pos same]
      exact ⟨sound, by simp [same]⟩
    · rw [if_neg same]
      cases object.current.isActive with
      | true => exact ⟨sound.add _, by simp⟩
      | false =>
        have scope := @scope_spec _ _ now stored sound (fun row => row.userId = object.current.id) _
          (userEvent object.current) "account disabled"
        refine ⟨scope.1, fun _ row member owned => ?_⟩
        exact scope.2 row member (of_decide_eq_true owned).symm
  | application object =>
    simp only [StatusTarget.dirty, StatusTarget.disables,
      StatusTarget.owns, queueIdentityStatusEvent]
    by_cases same : object.loaded.isActive = object.current.isActive
    · rw [if_pos same]
      exact ⟨sound, by simp [same]⟩
    · rw [if_neg same]
      cases object.current.isActive with
      | true => exact ⟨sound.add _, by simp⟩
      | false =>
        have scope := @scope_spec _ _ now stored sound
          (fun row => row.clientId = object.current.clientId) _
          (applicationEvent object.current) "application disabled"
        refine ⟨scope.1, fun _ row member owned => ?_⟩
        exact scope.2 row member (of_decide_eq_true owned).symm

/-- After the hook every session object is to be revoked with an event, and
the sessions of a disabled row all have one. -/
theorem queueIdentityStatusEvents_spec {objects : List (Tracked AuthSession)}
    {target : StatusTarget} (front : ℕ) (revokes : ∀ object ∈ objects, object.Revokes) :
    let ids := objects.map fun object => DirtyObject.session object.current.id
    let hook := queueIdentityStatusEvents now stored objects
      (ids.take front ++ target.dirty :: ids.drop front)
    hook.Sound [] ∧ (target.disables = true →
        ∀ row ∈ stored, target.owns row = true → row.revokedAt = none → hook.Holds row) := by
  let keys := objects.map fun object => object.current.id
  have split : objects.map (fun object =>
      DirtyObject.session object.current.id) = keys.map DirtyObject.session := by
    rw [List.map_map]
    rfl
  have initial : HookState.Sound (keys.take front ++ (keys.drop front ++ []))
      { sessions := objects } := by
    intro object member
    refine ⟨revokes object member, Or.inl ?_⟩
    rw [List.append_nil, List.take_append_drop]
    exact List.mem_map.mpr ⟨object, member, rfl⟩
  dsimp only
  rw [split, ← List.map_take, ← List.map_drop, queueIdentityStatusEvents,
    List.foldl_append, List.foldl_cons]
  obtain ⟨soundFront, _⟩ := @sessions_spec _ _ now stored _ initial
  obtain ⟨soundTarget, holds⟩ := @target_spec _ _ now stored target soundFront
  obtain ⟨soundBack, keeps⟩ := @sessions_spec _ _ now stored _ soundTarget
  exact ⟨soundBack, fun disables row member owned unrevoked =>
    keeps row (holds disables row member owned unrevoked)⟩

end HookState

namespace TokenState

section Logouts

variable {services : TokenServices} {settings : TokenSettings}
variable {state : TokenState} {input : TokenInput} {row : AuthSession}

theorem advance_ne_logoutFound (call : AuthCall) : (state.advance services settings input call).2 ≠
      .continues (.logoutFound row) := by
  cases commits : call.commits with
  | true =>
    obtain ⟨response, ended⟩ := @advance_commits services settings state input call commits
    simp [ended]
  | false =>
    cases call with
    | authorizeValidated request scope =>
      unfold advance signIn
      dsimp only
      repeat' split
      all_goals simp [continues]
    | codeClient request client =>
      unfold advance checkExchange
      dsimp only
      repeat' split
      all_goals simp [continues, refuse]
    | codeAllowed exchange client =>
      unfold advance lockCode
      dsimp only
      repeat' split
      all_goals simp [continues, refuse]
    | codeLocked exchange client row now =>
      unfold advance readCodeUser
      dsimp only
      split <;> simp [continues, refuse]
    | refreshClient request =>
      unfold advance lockSession
      dsimp only
      repeat' split
      all_goals simp [continues, refuse]
    | refreshLocked token row now =>
      unfold advance readSessionUser
      dsimp only
      split <;> simp [continues, refuse]
    | plainClient request =>
      unfold advance findSession
      dsimp only
      repeat' split
      all_goals simp [continues, refuse]
    | plainFound token row =>
      unfold advance readPlainUser
      dsimp only
      split <;> simp [continues, refuse]
    | _ => cases commits

theorem mem_resume {result : TokenState × TokenOutcome} {call : AuthCall}
    (member : call ∈ (resume result).1.calls) :
    call ∈ result.1.calls ∨ result.2 = .continues call := by
  unfold resume at member
  split at member
  · exact Or.inl member
  · rename_i next continues
    rcases List.mem_append.mp member with old | new
    · exact Or.inl old
    · rw [List.mem_singleton.mp new]
      exact Or.inr continues

def Quiet (before after : TokenState) : Prop :=
  ∃ clock calls, after = { before with clock := clock, calls := calls }

theorem quiet_resume {result : TokenState × TokenOutcome}
    (same : result.1 = state) : Quiet state (resume result).1 := by
  unfold resume
  rw [same]
  split
  · exact ⟨state.clock, state.calls, rfl⟩
  · exact ⟨state.clock, _, rfl⟩

theorem logoutFound_unrevoked {action : TokenAction}
    (calls : ∀ row, AuthCall.logoutFound row ∈ state.calls → row.revokedAt = none)
    (member : .logoutFound row ∈ (state.perform services settings action).1.calls) :
    row.revokedAt = none := by
  cases action with
  | authorize request =>
    rcases mem_resume member with old | continues
    · apply calls row
      revert old
      unfold authorize
      split <;> exact fun old => old
    · unfold authorize at continues
      split at continues <;> cases continues
  | tokenCode request =>
    rcases mem_resume member with old | continues
    · apply calls row
      revert old
      unfold tokenCode
      split <;> exact fun old => old
    · unfold tokenCode at continues
      split at continues <;> cases continues
  | tokenRefresh request =>
    rcases mem_resume member with old | continues
    · apply calls row
      revert old
      unfold tokenRefresh
      split <;> exact fun old => old
    · unfold tokenRefresh at continues
      split at continues <;> cases continues
  | refresh request =>
    rcases mem_resume member with old | continues
    · apply calls row
      revert old
      unfold refresh
      split <;> exact fun old => old
    · unfold refresh at continues
      split at continues <;> cases continues
  | logout token =>
    rcases mem_resume member with old | continues
    · apply calls row
      revert old
      unfold logout
      repeat' split
      all_goals exact fun old => old
    · unfold logout at continues
      split at continues
      · cases continues
      · split at continues
        · cases continues
        · rename_i unrevoked
          cases continues
          exact Option.not_isSome_iff_eq_none.mp unrevoked
  | advance index input =>
    unfold perform at member
    dsimp only at member
    split at member
    · exact calls row member
    · split at member
      · exact calls row member
      · rename_i call found notWaiting
        rcases mem_resume member with old | continues
        · rw [commit_calls] at old
          exact calls row (List.mem_of_mem_eraseIdx old)
        · exact absurd continues (advance_ne_logoutFound call)
  | crash index => exact calls row (List.mem_of_mem_eraseIdx member)
  | openSession session token =>
    apply calls row
    revert member
    unfold perform openSession
    dsimp only
    split <;> exact fun old => old
  | wait elapsed => exact calls row member
  | setUserActive id active => exact calls row member
  | setApplicationActive clientId active => exact calls row member

def SameSession (stored session : AuthSession) : Prop :=
  stored.id = session.id ∧ stored.userId = session.userId ∧ stored.clientId = session.clientId

theorem advance_sessions {call : AuthCall} {session : AuthSession} (member : session ∈
      (state.advance services settings input call).1.sessions) :
    (∃ stored ∈ state.sessions, SameSession stored session ∧ (stored.revokedAt = session.revokedAt ∨
        session.revokedAt.isSome = true ∧ ∃ row, call = .logoutFound row ∧ row.id = session.id)) ∨
    ∃ exchange client row now user, call = .codeReady exchange client row now user ∧
      session = newSession services settings exchange row now user input := by
  cases commits : call.commits with
  | false =>
    rw [advance_rest commits] at member
    exact Or.inl ⟨session, member, ⟨rfl, rfl, rfl⟩, Or.inl rfl⟩
  | true =>
    have refreshed {token : String} {row : AuthSession} {seen : ℕ}
        {user : User} (member : session ∈ (state.commitRefresh services
          token row seen user input).1.sessions) :
        ∃ stored ∈ state.sessions, SameSession stored session ∧
          stored.revokedAt = session.revokedAt := by
      unfold commitRefresh at member
      dsimp only at member
      split at member
      · exact ⟨session, member, ⟨rfl, rfl, rfl⟩, rfl⟩
      · obtain ⟨stored, storedMem, rfl⟩ := List.mem_map.mp member
        refine ⟨stored, storedMem, ?_⟩
        split
        · exact ⟨⟨rfl, rfl, rfl⟩, rfl⟩
        · exact ⟨⟨rfl, rfl, rfl⟩, rfl⟩
    cases call with
    | authorizeSignedIn request scope user method =>
      unfold advance issueAuthorizationCode at member
      dsimp only at member
      split at member
      · exact Or.inl ⟨session, member, ⟨rfl, rfl, rfl⟩, Or.inl rfl⟩
      · exact Or.inl ⟨session, member, ⟨rfl, rfl, rfl⟩, Or.inl rfl⟩
    | codeReady exchange client row now user =>
      unfold advance commitCode at member
      dsimp only at member
      split at member
      · exact Or.inl ⟨session, member, ⟨rfl, rfl, rfl⟩, Or.inl rfl⟩
      · rcases List.mem_append.mp member with old | new
        · exact Or.inl ⟨session, old, ⟨rfl, rfl, rfl⟩, Or.inl rfl⟩
        · exact Or.inr ⟨exchange, client, row, now, user, rfl, List.mem_singleton.mp new⟩
    | refreshReady token row now user =>
      obtain ⟨stored, storedMem, same, kept⟩ := refreshed member
      exact Or.inl ⟨stored, storedMem, same, Or.inl kept⟩
    | plainReady token row user =>
      obtain ⟨stored, storedMem, same, kept⟩ := refreshed member
      exact Or.inl ⟨stored, storedMem, same, Or.inl kept⟩
    | logoutFound row =>
      obtain ⟨stored, storedMem, rfl⟩ := List.mem_map.mp member
      refine Or.inl ⟨stored, storedMem, ?_⟩
      split
      · rename_i same
        exact ⟨⟨rfl, rfl, rfl⟩, Or.inr ⟨rfl, row, rfl, same.symm⟩⟩
      · exact ⟨⟨rfl, rfl, rfl⟩, Or.inl rfl⟩
    | _ => cases commits

end Logouts

end TokenState

/-- The flush of the transaction has selected the sessions of the row that it
disables, among them this one or not. -/
def StatusChange.Disabling (change : StatusChange) (session : AuthSession) : Prop :=
  change.hook.isSome = true ∧ change.target.disables = true ∧ change.target.owns session = true

namespace LiveState

open TokenState (SameSession)

def Disabled (state : LiveState) (session : AuthSession) : Prop :=
  (∃ user ∈ state.tokens.users, user.id = session.userId ∧ user.isActive = false) ∨
  ∃ application ∈ state.tokens.applications,
    application.clientId = session.clientId ∧ application.isActive = false

def Announced (state : LiveState) (id : ℕ) : Prop :=
  ∃ row ∈ state.outbox, row.eventType = "session.revoked" ∧ row.sessionId = some id

/-- Every session of a disabled user or client is revoked and announced. -/
def DisabledRevoked (state : LiveState) : Prop :=
  ∀ session ∈ state.tokens.sessions, state.Disabled session →
    session.revokedAt.isSome = true ∧ state.Announced session.id

def committed? (services : TokenServices) (settings : TokenSettings)
    (state : LiveState) : LiveAction → Option AuthSession
  | .advanceToken index input _ =>
    match state.tokens.calls[index]? with
    | some (.codeReady exchange _ row now user) =>
      some (TokenState.newSession services settings exchange row now user input)
    | _ => none
  | .advanceLogin index input =>
    match state.logins[index]? with
    | some (.signedIn clientId user method now) =>
      some (directSession services settings clientId user method now input)
    | _ => none
  | _ => none

/-- A session is committed only while its user and its client are active and
no flush that disables one of them is under way. -/
def Undisturbed (services : TokenServices) (settings : TokenSettings)
    (state : LiveState) (action : LiveAction) : Prop :=
  ∀ session ∈ state.committed? services settings action, ¬ state.Disabled session ∧
      ∀ change ∈ state.changes, ¬ change.Disabling session

structure DisablingInvariant (state : LiveState) : Prop where
  announced : ∀ session ∈ state.tokens.sessions,
    session.revokedAt.isSome = true → state.Announced session.id
  revoked : ∀ session ∈ state.tokens.sessions, state.Disabled session →
    session.revokedAt.isSome = true
  calls : ∀ row, AuthCall.logoutFound row ∈ state.tokens.calls → row.revokedAt = none
  marked : ∀ change ∈ state.changes, ∀ object ∈ change.sessions, object.Revokes
  hooked : ∀ change ∈ state.changes, ∀ hook ∈ change.hook, hook.Sound [] ∧
      (change.target.disables = true →
        ∀ row ∈ state.tokens.sessions, change.target.owns row = true →
          row.revokedAt = none → hook.Holds row)

theorem SameSession.owns {stored session : AuthSession}
    (same : SameSession stored session) (target : StatusTarget) :
    target.owns stored = target.owns session := by
  cases target <;> simp [StatusTarget.owns, same.2.1, same.2.2]

theorem SameSession.disabled {stored session : AuthSession}
    (same : SameSession stored session) (state : LiveState) :
    state.Disabled stored ↔ state.Disabled session := by
  rw [Disabled, Disabled, same.2.1, same.2.2]

theorem Announced.mono {before after : LiveState} {id : ℕ} (announced : before.Announced id)
    (outbox : ∀ row ∈ before.outbox, row ∈ after.outbox) : after.Announced id := by
  obtain ⟨row, member, announces⟩ := announced
  exact ⟨row, outbox row member, announces⟩

theorem announced_of_newRows {before after : LiveState}
    {events : List NewEvent} {ids : ℕ → ℕ} {id : ℕ} (outbox : after.outbox =
      before.outbox ++ before.identity.newRows events ids)
    (queued : ∃ event ∈ events, event.Announces id) : after.Announced id := by
  obtain ⟨event, member, announces⟩ := queued
  obtain ⟨index, found⟩ := List.getElem?_of_mem member
  have entry : (event, index) ∈ events.zipIdx := by simpa [List.mem_zipIdx_iff_getElem?] using found
  rw [Announced, outbox]
  exact ⟨_, List.mem_append_right _ (List.mem_map.mpr ⟨_, entry, rfl⟩), announces⟩

theorem queuedEvents_logoutFound {state : LiveState} {row : AuthSession}
    (unrevoked : row.revokedAt = none) : ∃ event ∈ state.queuedEvents (.logoutFound row),
      event.Announces row.id := by
  simp only [queuedEvents, queueIdentityStatusEvents, List.foldl_cons,
    List.foldl_nil, queueIdentityStatusEvent, List.find?_cons_of_pos, decide_true, unrevoked]
  exact ⟨_, List.mem_append_right _ (List.mem_singleton_self _), rfl, rfl⟩

section Writes

variable {target : StatusTarget} {hook : HookState}

theorem writeUser_spec (user : User) : (IdentityState.writeUser user target.dirty).id = user.id ∧
      ((IdentityState.writeUser user target.dirty).isActive = false →
        user.isActive = false ∨ target.disables = true ∧ ∀ session, user.id = session.userId →
            target.owns session = true) := by
  cases target with
  | application object => exact ⟨rfl, Or.inl⟩
  | user object =>
    simp only [StatusTarget.dirty, StatusTarget.disables,
      StatusTarget.owns, IdentityState.writeUser]
    split
    · rename_i same
      refine ⟨rfl, ?_⟩
      simp only [changedColumn, same]
      cases object.loaded.isActive <;> cases object.current.isActive <;>
        simp
    · exact ⟨rfl, Or.inl⟩

theorem writeApplication_spec (application : Application) :
    (IdentityState.writeApplication application target.dirty).clientId = application.clientId ∧
      ((IdentityState.writeApplication application target.dirty).isActive = false →
        application.isActive = false ∨ target.disables = true ∧
          ∀ session, application.clientId = session.clientId → target.owns session = true) := by
  cases target with
  | user object => exact ⟨rfl, Or.inl⟩
  | application object =>
    simp only [StatusTarget.dirty, StatusTarget.disables,
      StatusTarget.owns, IdentityState.writeApplication]
    split
    · rename_i same
      refine ⟨rfl, ?_⟩
      simp only [changedColumn, same]
      cases object.loaded.isActive <;> cases object.current.isActive <;>
        simp
    · exact ⟨rfl, Or.inl⟩

theorem writeSession_spec (sound : hook.Sound []) (row : AuthSession) :
    SameSession row (IdentityState.writeSession hook.sessions row) ∧
      ((IdentityState.writeSession hook.sessions row).revokedAt = row.revokedAt ∧ ¬ hook.Holds row ∨
        (IdentityState.writeSession hook.sessions row).revokedAt.isSome = true ∧
          ∃ event ∈ hook.events, event.Announces row.id) := by
  unfold IdentityState.writeSession
  split
  · rename_i missing
    refine ⟨⟨rfl, rfl, rfl⟩, Or.inl ⟨rfl, ?_⟩⟩
    rintro ⟨object, member, same⟩
    exact List.find?_eq_none.mp missing object member (decide_eq_true same)
  · rename_i object found
    obtain ⟨member, same⟩ := UniqueRows.find?_decide found
    obtain ⟨⟨unrevoked, revoked⟩, awaited | announced⟩ := sound object member
    · cases awaited
    · refine ⟨⟨rfl, rfl, rfl⟩, Or.inr ⟨?_, by rwa [← same]⟩⟩
      dsimp only
      rw [changedColumn, unrevoked, if_neg]
      · exact revoked
      · intro none
        rw [none] at revoked
        cases revoked

end Writes

namespace DisablingInvariant

variable {services : TokenServices} {settings : TokenSettings} {before after : LiveState}

def Comes (before after : LiveState) (session : AuthSession) : Prop :=
  (∃ stored ∈ before.tokens.sessions, SameSession stored session ∧
    (stored.revokedAt = session.revokedAt ∨
      session.revokedAt.isSome = true ∧ after.Announced session.id)) ∨
  session.revokedAt = none ∧ ¬ before.Disabled session ∧
    ∀ change ∈ before.changes, ¬ change.Disabling session

theorem step (invariant : before.DisablingInvariant)
    (users : after.tokens.users = before.tokens.users)
    (applications : after.tokens.applications = before.tokens.applications)
    (outbox : ∀ row ∈ before.outbox, row ∈ after.outbox)
    (calls : ∀ row, AuthCall.logoutFound row ∈ after.tokens.calls → row.revokedAt = none)
    (changes : ∀ change ∈ after.changes, change ∈ before.changes)
    (sessions : ∀ session ∈ after.tokens.sessions,
      Comes before after session) : after.DisablingInvariant where
  announced := by
    intro session member revoked
    obtain ⟨stored, storedMem, same, kept | new⟩ | ⟨unrevoked, _⟩ := sessions session member
    · rw [← kept] at revoked
      rw [← same.1]
      exact (invariant.announced stored storedMem revoked).mono outbox
    · exact new.2
    · rw [unrevoked] at revoked
      cases revoked
  revoked := by
    intro session member disabled
    have disabledBefore : before.Disabled session := by
      rw [Disabled, users, applications] at disabled
      exact disabled
    obtain ⟨stored, storedMem, same, kept | new⟩ | ⟨_, active, _⟩ := sessions session member
    · rw [← kept]
      exact invariant.revoked stored storedMem
        ((SameSession.disabled same before).mpr disabledBefore)
    · exact new.1
    · exact absurd disabledBefore active
  calls := calls
  marked := fun change member => invariant.marked change (changes change member)
  hooked := by
    intro change member hook ran
    obtain ⟨sound, covers⟩ := invariant.hooked change (changes change member) hook ran
    refine ⟨sound, ?_⟩
    intro disables session sessionMem owns unrevoked
    obtain ⟨stored, storedMem, same, kept | new⟩ | ⟨_, _, apart⟩ := sessions session sessionMem
    · rw [← kept] at unrevoked
      rw [← SameSession.owns same] at owns
      obtain ⟨object, held, sameId⟩ := covers disables stored storedMem owns unrevoked
      exact ⟨object, held, sameId.trans same.1⟩
    · rw [unrevoked] at new
      cases new.1
    · refine absurd ⟨?_, disables, owns⟩ (apart change (changes change member))
      rw [Option.mem_def.mp ran]
      rfl

theorem keep (invariant : before.DisablingInvariant)
    (users : after.tokens.users = before.tokens.users)
    (applications : after.tokens.applications = before.tokens.applications)
    (sessions : after.tokens.sessions = before.tokens.sessions)
    (outbox : after.outbox = before.outbox)
    (calls : ∀ row, AuthCall.logoutFound row ∈ after.tokens.calls → row.revokedAt = none)
    (changes : ∀ change ∈ after.changes, change ∈ before.changes) : after.DisablingInvariant := by
  refine invariant.step users applications (by simp [outbox]) calls changes ?_
  intro session member
  rw [sessions] at member
  exact Or.inl ⟨session, member, ⟨rfl, rfl, rfl⟩, Or.inl rfl⟩

theorem advanceToken (invariant : before.DisablingInvariant) (index : ℕ)
    (input : TokenInput) (ids : ℕ → ℕ) (undisturbed : before.Undisturbed services settings
      (.advanceToken index input ids)) :
    (before.advanceToken services settings index input ids).DisablingInvariant := by
  have calls : ∀ row, AuthCall.logoutFound row ∈ (before.tokens.perform services settings
        (.advance index input)).1.calls → row.revokedAt = none :=
    fun row => TokenState.logoutFound_unrevoked invariant.calls
  unfold LiveState.advanceToken
  split
  · exact invariant
  · rename_i call found
    split
    · exact invariant
    · rename_i notWaiting
      dsimp only
      split
      · have advanced : (before.tokens.perform services settings
            (.advance index input)).1.sessions =
              ((before.tokens.dropCall index).advance services settings input call).1.sessions ∧
            (before.tokens.perform services settings
              (.advance index input)).1.users = before.tokens.users ∧
            (before.tokens.perform services settings (.advance index input)).1.applications =
                before.tokens.applications := by
          obtain ⟨users, applications⟩ := @TokenState.advance_directory services
            settings (before.tokens.dropCall index) input call
          unfold TokenState.perform
          dsimp only
          rw [found]
          dsimp only
          rw [if_neg notWaiting]
          unfold TokenState.resume
          split
          · exact ⟨rfl, users, applications⟩
          · exact ⟨rfl, users, applications⟩
        refine invariant.step advanced.2.1 advanced.2.2
          (fun row member => List.mem_append_left _ member) calls (fun _ member => member) ?_
        intro session member
        rw [advanced.1] at member
        obtain ⟨stored, storedMem, same, kept | ⟨revoked, row, rfl, sameId⟩⟩ |
          ⟨exchange, client, row, now, user, rfl, rfl⟩ := TokenState.advance_sessions member
        · exact Or.inl ⟨stored, storedMem, same, Or.inl kept⟩
        · refine Or.inl ⟨stored, storedMem, same, Or.inr ⟨revoked, ?_⟩⟩
          rw [← sameId]
          exact announced_of_newRows rfl (queuedEvents_logoutFound
            (invariant.calls row (List.mem_of_getElem? found)))
        · refine Or.inr ⟨rfl, undisturbed _ ?_⟩
          unfold committed?
          dsimp only
          rw [found]
          rfl
      · exact invariant.keep rfl rfl rfl rfl (fun row member => invariant.calls row
            (List.mem_of_mem_eraseIdx member)) (fun _ member => member)

theorem performToken (invariant : before.DisablingInvariant) (action : TokenAction) :
    (before.performToken services settings action).DisablingInvariant := by
  have quiet : TokenState.Quiet before.tokens (before.tokens.perform services settings action).1 →
      ({ before with tokens := (before.tokens.perform services settings action).1 } :
        LiveState).DisablingInvariant := by
    rintro ⟨clock, others, same⟩
    have calls : ∀ row, AuthCall.logoutFound row ∈ others → row.revokedAt = none := by
      intro row member
      apply @TokenState.logoutFound_unrevoked services settings before.tokens
        row action invariant.calls
      rw [same]
      exact member
    rw [same]
    exact invariant.keep rfl rfl rfl rfl calls (fun _ member => member)
  cases action with
  | openSession row token => exact invariant
  | setUserActive id active => exact invariant
  | setApplicationActive clientId active => exact invariant
  | advance index input => exact invariant
  | wait elapsed => exact quiet ⟨_, _, rfl⟩
  | crash index => exact quiet ⟨_, _, rfl⟩
  | authorize request =>
    apply quiet
    apply TokenState.quiet_resume
    unfold TokenState.authorize
    split <;> rfl
  | tokenCode request =>
    apply quiet
    apply TokenState.quiet_resume
    unfold TokenState.tokenCode
    split <;> rfl
  | tokenRefresh request =>
    apply quiet
    apply TokenState.quiet_resume
    unfold TokenState.tokenRefresh
    split <;> rfl
  | refresh request =>
    apply quiet
    apply TokenState.quiet_resume
    unfold TokenState.refresh
    split <;> rfl
  | logout token =>
    apply quiet
    apply TokenState.quiet_resume
    unfold TokenState.logout
    repeat' split
    all_goals rfl

theorem advanceLogin (invariant : before.DisablingInvariant) (index : ℕ) (input : LoginInput)
    (undisturbed : before.Undisturbed services settings (.advanceLogin index input)) :
    (before.advanceLogin services settings index input).DisablingInvariant := by
  unfold LiveState.advanceLogin
  split
  · exact invariant
  · split
    · exact invariant.keep rfl rfl rfl rfl invariant.calls (fun _ member => member)
    · exact invariant.keep rfl rfl rfl rfl invariant.calls (fun _ member => member)
  · rename_i clientId user method now found
    dsimp only
    split
    · exact invariant.keep rfl rfl rfl rfl invariant.calls (fun _ member => member)
    · refine invariant.step rfl rfl (fun _ member => member)
        invariant.calls (fun _ member => member) ?_
      intro session member
      rcases List.mem_append.mp member with old | new
      · exact Or.inl ⟨session, old, ⟨rfl, rfl, rfl⟩, Or.inl rfl⟩
      · rw [List.mem_singleton.mp new]
        refine Or.inr ⟨rfl, undisturbed _ ?_⟩
        unfold committed?
        dsimp only
        rw [found]
        rfl

theorem change (invariant : before.DisablingInvariant) (tokens : after.tokens = before.tokens)
    (outbox : after.outbox = before.outbox)
    (changes : ∀ change ∈ after.changes, change ∈ before.changes ∨
      (∀ object ∈ change.sessions, object.Revokes) ∧ ∀ hook ∈ change.hook, hook.Sound [] ∧
        (change.target.disables = true →
          ∀ row ∈ before.tokens.sessions, change.target.owns row = true →
            row.revokedAt = none → hook.Holds row)) : after.DisablingInvariant where
  announced := by
    rw [tokens]
    exact fun session member revoked =>
      (invariant.announced session member revoked).mono (by simp [outbox])
  revoked := by
    intro session member disabled
    rw [tokens] at member
    apply invariant.revoked session member
    rw [Disabled, ← tokens]
    exact disabled
  calls := by
    rw [tokens]
    exact invariant.calls
  marked := by
    intro change member
    rcases changes change member with old | new
    · exact invariant.marked change old
    · exact new.1
  hooked := by
    intro change member
    rw [tokens]
    rcases changes change member with old | new
    · exact invariant.hooked change old
    · exact new.2

theorem begin (invariant : before.DisablingInvariant) (target : StatusTarget) :
    ({ before with changes := before.changes ++ [{ target := target }] } :
      LiveState).DisablingInvariant := by
  refine invariant.change rfl rfl ?_
  intro change member
  rcases List.mem_append.mp member with old | new
  · exact Or.inl old
  · rw [List.mem_singleton.mp new]
    refine Or.inr ⟨?_, ?_⟩ <;> exact fun _ none => nomatch none

theorem revokeSessions (invariant : before.DisablingInvariant) (index : ℕ) (reason : String) :
    (before.revokeSessions index reason).DisablingInvariant := by
  unfold LiveState.revokeSessions
  split
  · exact invariant
  · rename_i change found
    split
    · rename_i untouched
      refine invariant.change rfl rfl ?_
      intro other member
      rcases List.mem_or_eq_of_mem_set member with old | new
      · exact Or.inl old
      · rw [new]
        refine Or.inr ⟨?_, ?_⟩
        · intro object objectMem
          obtain ⟨row, rowMem, rfl⟩ := List.mem_map.mp objectMem
          have chosen := (List.mem_filter.mp rowMem).2
          rw [Bool.and_eq_true, Option.isNone_iff_eq_none] at chosen
          exact ⟨chosen.2, rfl⟩
        · intro hook ran
          rw [Option.mem_def.mp ran] at untouched
          cases untouched.2
    · exact invariant

theorem runHook (invariant : before.DisablingInvariant) (index front : ℕ) :
    (before.runHook index front).DisablingInvariant := by
  unfold LiveState.runHook
  split
  · exact invariant
  · rename_i change found
    split
    · have marked := invariant.marked change (List.mem_of_getElem? found)
      refine invariant.change rfl rfl ?_
      intro other member
      rcases List.mem_or_eq_of_mem_set member with old | new
      · exact Or.inl old
      · rw [new]
        refine Or.inr ⟨marked, ?_⟩
        intro hook ran
        cases ran
        exact HookState.queueIdentityStatusEvents_spec front marked
    · exact invariant

theorem commitChange (invariant : before.DisablingInvariant) (index : ℕ)
    (ids : ℕ → ℕ) : (before.commitChange index ids).DisablingInvariant := by
  have others : ∀ change ∈ before.changes.eraseIdx index, change ∈ before.changes :=
    fun change member => List.mem_of_mem_eraseIdx member
  unfold LiveState.commitChange
  split
  · exact invariant
  · rename_i change found
    have changeMem := List.mem_of_getElem? found
    split
    · exact invariant
    · rename_i hook ran
      obtain ⟨sound, covers⟩ := invariant.hooked change changeMem hook ran
      dsimp only
      split
      · exact invariant
      · split
        · refine ⟨?_, ?_, invariant.calls, fun other member =>
            invariant.marked other (others other member), ?_⟩
          · intro session member revoked
            obtain ⟨row, rowMem, rfl⟩ := List.mem_map.mp member
            obtain ⟨same, ⟨kept, _⟩ | ⟨_, announced⟩⟩ := writeSession_spec sound row
            · rw [kept] at revoked
              rw [← same.1]
              exact (invariant.announced row rowMem revoked).mono fun _ => List.mem_append_left _
            · rw [← same.1]
              exact announced_of_newRows rfl announced
          · intro session member disabled
            obtain ⟨row, rowMem, rfl⟩ := List.mem_map.mp member
            obtain ⟨same, written⟩ := writeSession_spec sound row
            have revoked : row.revokedAt.isSome = true ∨ change.target.disables = true ∧
                  change.target.owns row = true := by
              rcases disabled with ⟨user, userMem, owner, inactive⟩ |
                ⟨application, applicationMem, owner, inactive⟩
              · obtain ⟨stored, storedMem, rfl⟩ := List.mem_map.mp userMem
                obtain ⟨sameId, cause⟩ := @writeUser_spec change.target stored
                rw [sameId, ← same.2.1] at owner
                exact (cause inactive).imp (fun before => invariant.revoked row rowMem
                    (Or.inl ⟨stored, storedMem, owner, before⟩))
                  (fun now => ⟨now.1, now.2 row owner⟩)
              · obtain ⟨stored, storedMem, rfl⟩ := List.mem_map.mp applicationMem
                obtain ⟨sameId, cause⟩ := @writeApplication_spec change.target stored
                rw [sameId, ← same.2.2] at owner
                exact (cause inactive).imp (fun before => invariant.revoked row rowMem
                    (Or.inr ⟨stored, storedMem, owner, before⟩))
                  (fun now => ⟨now.1, now.2 row owner⟩)
            rcases written with ⟨kept, untouched⟩ | ⟨now, _⟩
            · rw [kept]
              rcases revoked with earlier | ⟨disables, owns⟩
              · exact earlier
              · by_contra unrevoked
                exact untouched (covers disables row rowMem owns
                  (Option.not_isSome_iff_eq_none.mp unrevoked))
            · exact now
          · intro other member otherHook otherRan
            obtain ⟨otherSound, otherCovers⟩ := invariant.hooked other
              (others other member) otherHook otherRan
            refine ⟨otherSound, ?_⟩
            intro disables session sessionMem owns unrevoked
            obtain ⟨row, rowMem, rfl⟩ := List.mem_map.mp sessionMem
            obtain ⟨same, ⟨kept, _⟩ | ⟨revoked, _⟩⟩ := writeSession_spec sound row
            · rw [kept] at unrevoked
              rw [← SameSession.owns same] at owns
              obtain ⟨object, held, sameId⟩ := otherCovers disables row rowMem owns unrevoked
              exact ⟨object, held, sameId.trans same.1⟩
            · rw [unrevoked] at revoked
              cases revoked
        · exact invariant.keep rfl rfl rfl rfl invariant.calls others

theorem perform {action : LiveAction} (invariant : before.DisablingInvariant)
    (undisturbed : before.Undisturbed services settings action) :
    (before.perform services settings action).DisablingInvariant := by
  cases action with
  | token action => exact invariant.performToken action
  | advanceToken index input ids => exact invariant.advanceToken index input ids undisturbed
  | login clientId =>
    unfold LiveState.perform LiveState.login
    dsimp only
    split
    · exact invariant
    · exact invariant.keep rfl rfl rfl rfl invariant.calls (fun _ member => member)
  | advanceLogin index input => exact invariant.advanceLogin index input undisturbed
  | crashLogin index =>
    exact invariant.keep rfl rfl rfl rfl invariant.calls (fun _ member => member)
  | setUserActive id active =>
    unfold LiveState.perform LiveState.setUserActive
    dsimp only
    split
    · exact invariant
    · exact invariant.begin _
  | setApplicationActive clientId active =>
    unfold LiveState.perform LiveState.setApplicationActive
    dsimp only
    split
    · exact invariant
    · exact invariant.begin _
  | revokeSessions index reason => exact invariant.revokeSessions index reason
  | runHook index front => exact invariant.runHook index front
  | commitChange index ids => exact invariant.commitChange index ids
  | crashChange index =>
    exact invariant.keep rfl rfl rfl rfl invariant.calls
      fun _ member => List.mem_of_mem_eraseIdx member

end DisablingInvariant

def starting (users : List User) (applications : List Application)
    (redirectUris : List ApplicationRedirectURI) : LiveState where
  tokens :=
    { users := users
      applications := applications
      redirectUris := redirectUris }

theorem DisablingInvariant.starting (users : List User) (applications : List Application)
    (redirectUris : List ApplicationRedirectURI) :
    (starting users applications redirectUris).DisablingInvariant := by
  refine ⟨?_, ?_, ?_, ?_, ?_⟩ <;> exact fun _ none => nomatch none

/-- From any users and clients: while sessions are committed only for active
identities that no flush is disabling, the sessions of a disabled user or
client are revoked and announced in every state. -/
theorem run_disabledRevoked (services : TokenServices)
    (settings : TokenSettings) (users : List User) (applications : List Application)
    (redirectUris : List ApplicationRedirectURI) {state : LiveState} {actions : List LiveAction}
    (run : Run (Performs services settings)
      (starting users applications redirectUris) actions state)
    (undisturbed : EveryStep (Performs services settings)
      (fun before action _ => before.Undisturbed services settings action)
      (starting users applications redirectUris) actions) : state.DisabledRevoked := by
  have invariant : state.DisablingInvariant := by
    refine run.invariant_of_everyStep
      (DisablingInvariant.starting users applications redirectUris) ?_ undisturbed
    intro before action after invariant move undisturbed
    rw [Performs] at move
    rw [move]
    exact invariant.perform undisturbed
  intro session member disabled
  have revoked := invariant.revoked session member disabled
  exact ⟨revoked, invariant.announced session member revoked⟩

def readerState : LiveState :=
  starting [{ id := 7, email := none, phone := none }]
    [{ id := 1, clientId := "loanhub", isActive := true }] []

def livesAfter (actions : List LiveAction) : LiveState :=
  actions.foldl (fun state action => state.perform plainHashes {} action) readerState

def disabledLater : List LiveAction :=
  [.login "loanhub", .advanceLogin 0 { signedIn := some (7, .password) },
    .advanceLogin 0 { newId := 3 }, .setUserActive 7 false,
    .revokeSessions 0 "account disabled by platform admin", .runHook 0 0, .commitChange 0 id]

theorem run_disabledRevoked_later : (livesAfter disabledLater).DisabledRevoked ∧
      (livesAfter disabledLater).tokens.users.map User.isActive = [false] ∧
      (livesAfter disabledLater).tokens.sessions.map
        (fun session => session.revokedAt) = [some 0] := by
  refine ⟨?_, by decide, by decide⟩
  refine run_disabledRevoked plainHashes {} _ _ _ (Run.of_foldl _ _ _) ?_
  unfold disabledLater Performs
  simp only [EveryStep.cons_iff]
  refine ⟨?_, ?_, ?_, ?_, ?_, ?_, ?_, EveryStep.nil⟩ <;> intro session commits
  case refine_3 =>
    refine ⟨?_, fun change none => nomatch none⟩
    cases commits
    unfold Disabled
    decide
  all_goals cases commits

/-- A sign-in commits its session after the user has been disabled. -/
theorem signIn_survives : let actions : List LiveAction :=
      [.login "loanhub", .advanceLogin 0 { signedIn := some (7, .password) },
        .setUserActive 7 false, .runHook 0 0, .commitChange 0 id, .advanceLogin 0 { newId := 3 }]
    Run (Performs plainHashes {}) readerState actions (livesAfter actions) ∧
      ¬ (livesAfter actions).DisabledRevoked := by
  refine ⟨Run.of_foldl _ _ _, ?_⟩
  intro sound
  have session := sound (directSession plainHashes {} "loanhub"
    { id := 7, email := none, phone := none } .password 0 { newId := 3 })
    (by decide) (by unfold Disabled; decide)
  cases session.1

end LiveState

end Ithute.Auth
