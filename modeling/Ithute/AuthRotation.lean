import Ithute.AuthCodes

/-!
# Rotation of refresh tokens

Both refreshes replace the token of a session.  The grant of the token
endpoint keeps the row that it has checked locked until its commit.  The
refresh endpoint takes no lock, so that another refresh can replace the token
between its check and its commit.
-/

namespace Ithute.Auth

open HeldLocks TransitionRuns

namespace AuthCall

def returnsToken : AuthCall → Bool
  | .codeReady _ _ _ _ _ | .refreshReady _ _ _ _ | .plainReady _ _ _ => true
  | _ => false

def presents? : AuthCall → Option String
  | .refreshClient request => presentText request.refreshToken
  | .plainClient request => some request.refreshToken
  | _ => none

end AuthCall

namespace TokenState

/-- No token is exchanged twice, and the session of a returned token that is
neither exchanged nor revoked stores its hash. -/
structure SingleUse (services : TokenServices) (state : TokenState) : Prop where
  once : state.exchanged.Nodup
  current : ∀ entry ∈ state.issued, entry.1 ∉ state.exchanged →
    ∃ session ∈ state.sessions, session.id = entry.2 ∧ (session.revokedAt = none →
        session.refreshTokenHash = services.hashRefreshToken entry.1)

def drawn? (state : TokenState) : TokenAction → Option String
  | .openSession _ token => some token
  | .advance index input =>
    (state.calls[index]?).bind fun call => if call.returnsToken then some input.newToken else none
  | _ => none

/-- A drawn token has a hash of its own, and a presented one shares the hash
of no other token. -/
@[mk_iff]
structure CollisionFree (services : TokenServices) (state : TokenState)
    (action : TokenAction) : Prop where
  drawn : ∀ token ∈ state.drawn? action, ∀ entry ∈ state.issued,
    services.hashRefreshToken entry.1 ≠ services.hashRefreshToken token
  presented : ∀ call ∈ state.calls, ∀ token ∈ call.presents?,
    ∀ entry ∈ state.issued, services.hashRefreshToken entry.1 =
      services.hashRefreshToken token → entry.1 = token

instance (services : TokenServices) (state : TokenState) (action : TokenAction) :
    Decidable (state.CollisionFree services action) :=
  decidable_of_iff _ (collisionFree_iff services state action).symm

/-- The steps in which tokens are random and hashes do not collide. -/
def PerformsFreely (services : TokenServices) (settings : TokenSettings)
    (before : TokenState) (action : TokenAction) (after : TokenState) : Prop :=
  before.CollisionFree services action ∧ after = (before.perform services settings action).1

/-- Where the refresh endpoint commits, the session stores still the hash
that the call has read. -/
def RotatesAlone (state : TokenState) (action : TokenAction) : Prop :=
  ∀ token row user, state.advanced? action = some (.plainReady token row user) →
      state.locked (.session row.id) = false → ∀ stored ∈ state.sessions, stored.id = row.id →
          stored.refreshTokenHash = row.refreshTokenHash

structure TokensSound (services : TokenServices) (state : TokenState) : Prop where
  ids : (state.sessions.map AuthSession.id).Nodup
  distinct : (state.issued.map fun entry => services.hashRefreshToken entry.1).Nodup
  returned : ∀ session ∈ state.sessions, ∃ entry ∈ state.issued, entry.2 = session.id ∧
      services.hashRefreshToken entry.1 = session.refreshTokenHash
  opened : ∀ entry ∈ state.issued, ∃ session ∈ state.sessions, session.id = entry.2
  known : ∀ token ∈ state.exchanged, ∃ entry ∈ state.issued, entry.1 = token
  gone : ∀ token ∈ state.exchanged, ∀ session ∈ state.sessions,
    session.refreshTokenHash ≠ services.hashRefreshToken token
  current : ∀ entry ∈ state.issued, entry.1 ∉ state.exchanged →
    ∃ session ∈ state.sessions, session.id = entry.2 ∧
      session.refreshTokenHash = services.hashRefreshToken entry.1
  once : state.exchanged.Nodup

namespace TokensSound

variable {services : TokenServices} {state after : TokenState}

theorem singleUse (sound : state.TokensSound services) : state.SingleUse services := by
  refine ⟨sound.once, ?_⟩
  intro entry issued unused
  obtain ⟨session, stored, sameId, hash⟩ := sound.current entry issued unused
  exact ⟨session, stored, sameId, fun _ => hash⟩

theorem entry_eq (sound : state.TokensSound services)
    {first second : String × ℕ} (firstMem : first ∈ state.issued)
    (secondMem : second ∈ state.issued) (sameHash : services.hashRefreshToken first.1 =
      services.hashRefreshToken second.1) : first = second :=
  List.inj_on_of_nodup_map sound.distinct firstMem secondMem sameHash

theorem session_eq (sound : state.TokensSound services)
    {first second : AuthSession} (firstMem : first ∈ state.sessions)
    (secondMem : second ∈ state.sessions) (sameId : first.id = second.id) : first = second :=
  List.inj_on_of_nodup_map sound.ids firstMem secondMem sameId

variable {token : String}

theorem session_hash (sound : state.TokensSound services)
    {session : AuthSession} (issued : (token, session.id) ∈ state.issued)
    (unused : token ∉ state.exchanged) (stored : session ∈ state.sessions) :
    session.refreshTokenHash = services.hashRefreshToken token := by
  obtain ⟨other, otherMem, sameId, hash⟩ := sound.current (token, session.id) issued unused
  rw [sound.session_eq otherMem stored sameId] at hash
  exact hash

theorem nil {users : List User} {applications : List Application}
    {redirectUris : List ApplicationRedirectURI} :
    (starting users applications redirectUris).TokensSound services where
  ids := List.nodup_nil
  distinct := List.nodup_nil
  returned := fun _ none => nomatch none
  opened := fun _ none => nomatch none
  known := fun _ none => nomatch none
  gone := fun _ none => nomatch none
  current := fun _ none => nomatch none
  once := List.nodup_nil

theorem add (sound : state.TokensSound services) {session : AuthSession}
    (fresh : ∀ entry ∈ state.issued,
      services.hashRefreshToken entry.1 ≠ services.hashRefreshToken token)
    (unused : ∀ stored ∈ state.sessions, stored.id ≠ session.id)
    (hash : session.refreshTokenHash = services.hashRefreshToken token)
    (sessions : after.sessions = state.sessions ++ [session])
    (issued : after.issued = state.issued ++ [(token, session.id)])
    (exchanged : after.exchanged = state.exchanged) : after.TokensSound services := by
  constructor
  · rw [sessions, List.map_append, List.map_singleton]
    apply List.Nodup.append sound.ids (List.nodup_singleton _)
    rw [List.disjoint_singleton]
    intro again
    obtain ⟨stored, storedMem, sameId⟩ := List.mem_map.mp again
    exact unused stored storedMem sameId
  · rw [issued, List.map_append, List.map_singleton]
    apply List.Nodup.append sound.distinct (List.nodup_singleton _)
    rw [List.disjoint_singleton]
    intro again
    obtain ⟨entry, entryMem, sameHash⟩ := List.mem_map.mp again
    exact fresh entry entryMem sameHash
  · rw [sessions, issued]
    intro stored storedMem
    rcases List.mem_append.mp storedMem with old | new
    · obtain ⟨entry, entryMem, found⟩ := sound.returned stored old
      exact ⟨entry, List.mem_append_left _ entryMem, found⟩
    · rw [List.mem_singleton.mp new]
      exact ⟨_, List.mem_append_right _ (List.mem_singleton_self _), rfl, hash.symm⟩
  · rw [sessions, issued]
    intro entry entryMem
    rcases List.mem_append.mp entryMem with old | new
    · obtain ⟨stored, storedMem, sameId⟩ := sound.opened entry old
      exact ⟨stored, List.mem_append_left _ storedMem, sameId⟩
    · rw [List.mem_singleton.mp new]
      exact ⟨session, List.mem_append_right _ (List.mem_singleton_self _), rfl⟩
  · rw [issued, exchanged]
    intro used usedMem
    obtain ⟨entry, entryMem, same⟩ := sound.known used usedMem
    exact ⟨entry, List.mem_append_left _ entryMem, same⟩
  · rw [sessions, exchanged]
    intro used usedMem stored storedMem
    rcases List.mem_append.mp storedMem with old | new
    · exact sound.gone used usedMem stored old
    · obtain ⟨entry, entryMem, same⟩ := sound.known used usedMem
      rw [List.mem_singleton.mp new, hash, ← same]
      exact (fresh entry entryMem).symm
  · rw [sessions, issued, exchanged]
    intro entry entryMem unusedToken
    rcases List.mem_append.mp entryMem with old | new
    · obtain ⟨stored, storedMem, found⟩ := sound.current entry old unusedToken
      exact ⟨stored, List.mem_append_left _ storedMem, found⟩
    · rw [List.mem_singleton.mp new]
      exact ⟨session, List.mem_append_right _ (List.mem_singleton_self _), rfl, hash⟩
  · rw [exchanged]
    exact sound.once

theorem write (sound : state.TokensSound services) {write : AuthSession → AuthSession}
    (id : ∀ stored, (write stored).id = stored.id) (hash : ∀ stored,
      (write stored).refreshTokenHash = stored.refreshTokenHash)
    (sessions : after.sessions = state.sessions.map write) (issued : after.issued = state.issued)
    (exchanged : after.exchanged = state.exchanged) : after.TokensSound services := by
  constructor
  · rw [sessions, List.map_map]
    have same : AuthSession.id ∘ write = AuthSession.id := funext id
    rw [same]
    exact sound.ids
  · rw [issued]
    exact sound.distinct
  · rw [sessions, issued]
    intro session sessionMem
    obtain ⟨stored, storedMem, rfl⟩ := List.mem_map.mp sessionMem
    rw [id, hash]
    exact sound.returned stored storedMem
  · rw [sessions, issued]
    intro entry entryMem
    obtain ⟨stored, storedMem, sameId⟩ := sound.opened entry entryMem
    exact ⟨write stored, List.mem_map_of_mem storedMem, (id stored).trans sameId⟩
  · rw [issued, exchanged]
    exact sound.known
  · rw [sessions, exchanged]
    intro used usedMem session sessionMem
    obtain ⟨stored, storedMem, rfl⟩ := List.mem_map.mp sessionMem
    rw [hash]
    exact sound.gone used usedMem stored storedMem
  · rw [sessions, issued, exchanged]
    intro entry entryMem unused
    obtain ⟨stored, storedMem, sameId, sameHash⟩ := sound.current entry entryMem unused
    exact ⟨write stored, List.mem_map_of_mem storedMem,
      (id stored).trans sameId, (hash stored).trans sameHash⟩
  · rw [exchanged]
    exact sound.once

theorem rotate (sound : state.TokensSound services) {new : String}
    {id : ℕ} (rotated : AuthSession → AuthSession) (issuedHere : (token, id) ∈ state.issued)
    (unused : token ∉ state.exchanged) (fresh : ∀ entry ∈ state.issued,
      services.hashRefreshToken entry.1 ≠ services.hashRefreshToken new)
    (sameId : ∀ stored, (rotated stored).id = stored.id)
    (hash : ∀ stored, (rotated stored).refreshTokenHash = services.hashRefreshToken new)
    (sessions : after.sessions = state.sessions.map fun stored =>
      if stored.id = id then rotated stored else stored)
    (issued : after.issued = state.issued ++ [(new, id)])
    (exchanged : after.exchanged = state.exchanged ++ [token]) : after.TokensSound services := by
  have writeId (stored : AuthSession) : (if stored.id = id then rotated stored else stored).id =
        stored.id := by
    split
    · exact sameId stored
    · rfl
  -- a session with the hash of the token is the one that is written
  have holder (stored : AuthSession) (storedMem : stored ∈ state.sessions)
      (holds : stored.refreshTokenHash = services.hashRefreshToken token) : stored.id = id := by
    obtain ⟨entry, entryMem, ofSession, sameHash⟩ := sound.returned stored storedMem
    rw [← ofSession, sound.entry_eq entryMem issuedHere (sameHash.trans holds)]
  constructor
  · rw [sessions, List.map_map]
    have same : (AuthSession.id ∘ fun stored =>
        if stored.id = id then rotated stored else stored) = AuthSession.id := funext writeId
    rw [same]
    exact sound.ids
  · rw [issued, List.map_append, List.map_singleton]
    apply List.Nodup.append sound.distinct (List.nodup_singleton _)
    rw [List.disjoint_singleton]
    intro again
    obtain ⟨entry, entryMem, sameHash⟩ := List.mem_map.mp again
    exact fresh entry entryMem sameHash
  · rw [sessions, issued]
    intro session sessionMem
    obtain ⟨stored, storedMem, rfl⟩ := List.mem_map.mp sessionMem
    by_cases here : stored.id = id
    · rw [if_pos here]
      refine ⟨(new, id), List.mem_append_right _ (List.mem_singleton_self _),
        ?_, (hash stored).symm⟩
      rw [sameId, here]
    · rw [if_neg here]
      obtain ⟨entry, entryMem, found⟩ := sound.returned stored storedMem
      exact ⟨entry, List.mem_append_left _ entryMem, found⟩
  · rw [sessions, issued]
    have opened (entry : String × ℕ) (known : ∃ stored ∈ state.sessions, stored.id = entry.2) :
        ∃ session ∈ state.sessions.map fun stored =>
          if stored.id = id then rotated stored else stored, session.id = entry.2 := by
      obtain ⟨stored, storedMem, ofEntry⟩ := known
      exact ⟨_, List.mem_map_of_mem storedMem, (writeId stored).trans ofEntry⟩
    intro entry entryMem
    apply opened
    rcases List.mem_append.mp entryMem with old | new
    · exact sound.opened entry old
    · rw [List.mem_singleton.mp new]
      exact sound.opened (token, id) issuedHere
  · rw [issued, exchanged]
    intro used usedMem
    rcases List.mem_append.mp usedMem with old | new
    · obtain ⟨entry, entryMem, same⟩ := sound.known used old
      exact ⟨entry, List.mem_append_left _ entryMem, same⟩
    · rw [List.mem_singleton.mp new]
      exact ⟨(token, id), List.mem_append_left _ issuedHere, rfl⟩
  · rw [sessions, exchanged]
    intro used usedMem session sessionMem
    obtain ⟨stored, storedMem, rfl⟩ := List.mem_map.mp sessionMem
    have usedIssued : ∃ entry ∈ state.issued, entry.1 = used := by
      rcases List.mem_append.mp usedMem with old | new
      · exact sound.known used old
      · exact ⟨(token, id), issuedHere, (List.mem_singleton.mp new).symm⟩
    by_cases here : stored.id = id
    · obtain ⟨entry, entryMem, same⟩ := usedIssued
      rw [if_pos here, hash, ← same]
      exact (fresh entry entryMem).symm
    · rw [if_neg here]
      rcases List.mem_append.mp usedMem with old | new
      · exact sound.gone used old stored storedMem
      · rw [List.mem_singleton.mp new]
        exact fun holds => here (holder stored storedMem holds)
  · rw [sessions, issued, exchanged]
    intro entry entryMem entryUnused
    rcases List.mem_append.mp entryMem with old | new
    · have before : entry.1 ∉ state.exchanged := fun used =>
        entryUnused (List.mem_append_left _ used)
      have other : entry.1 ≠ token := by
        intro same
        apply entryUnused
        rw [same]
        exact List.mem_append_right _ (List.mem_singleton_self _)
      obtain ⟨stored, storedMem, ofEntry, sameHash⟩ := sound.current entry old before
      refine ⟨stored, List.mem_map.mpr ⟨stored, storedMem, if_neg ?_⟩, ofEntry, sameHash⟩
      intro here
      rw [← here] at issuedHere
      have tokenHash := sound.session_hash issuedHere unused storedMem
      have sameEntry := sound.entry_eq old issuedHere (sameHash.symm.trans tokenHash)
      exact other (congrArg Prod.fst sameEntry)
    · rw [List.mem_singleton.mp new]
      obtain ⟨stored, storedMem, ofEntry⟩ := sound.opened (token, id) issuedHere
      refine ⟨_, List.mem_map_of_mem storedMem, (writeId stored).trans ofEntry, ?_⟩
      rw [if_pos ofEntry]
      exact hash stored
  · rw [exchanged]
    apply List.Nodup.append sound.once (List.nodup_singleton _)
    exact List.disjoint_singleton.mpr unused

end TokensSound

def Found (services : TokenServices) (state : TokenState) (token : String)
    (row : AuthSession) : Prop :=
  row.refreshTokenHash = services.hashRefreshToken token ∧ (token, row.id) ∈ state.issued

def HoldsToken (services : TokenServices) (state : TokenState) : AuthCall → Prop
  | .plainFound token row | .plainReady token row _ => state.Found services token row
  | .refreshLocked token row _ | .refreshReady token row _ _ =>
    state.Found services token row ∧ token ∉ state.exchanged
  | _ => True

structure RotationInvariant (services : TokenServices) (state : TokenState) : Prop where
  locks : Exclusive AuthCall.lock? state.calls
  tables : state.TokensSound services
  calls : ∀ call ∈ state.calls, state.HoldsToken services call

section Steps

variable {services : TokenServices} {settings : TokenSettings} {state after : TokenState}

variable {call : AuthCall}

theorem HoldsToken.keep (holds : state.HoldsToken services call)
    (issued : ∀ entry ∈ state.issued, entry ∈ after.issued)
    (unused : ∀ (token : String) (id : ℕ), (token, id) ∈ state.issued →
      call.lock? = some (.session id) → token ∉ state.exchanged → token ∉ after.exchanged) :
    after.HoldsToken services call := by
  cases call with
  | plainFound token row => exact ⟨holds.1, issued _ holds.2⟩
  | plainReady token row user => exact ⟨holds.1, issued _ holds.2⟩
  | refreshLocked token row now =>
    obtain ⟨⟨hash, returned⟩, before⟩ := holds
    exact ⟨⟨hash, issued _ returned⟩, unused token row.id returned rfl before⟩
  | refreshReady token row now user =>
    obtain ⟨⟨hash, returned⟩, before⟩ := holds
    exact ⟨⟨hash, issued _ returned⟩, unused token row.id returned rfl before⟩
  | _ => trivial

variable {token : String} {row : AuthSession}

/-- A stored session whose hash is that of a presented token was opened or
rotated with that token. -/
theorem TokensSound.found (sound : state.TokensSound services)
    (presented : ∀ entry ∈ state.issued, services.hashRefreshToken entry.1 =
      services.hashRefreshToken token → entry.1 = token) (stored : row ∈ state.sessions)
    (hash : row.refreshTokenHash = services.hashRefreshToken token) :
    state.Found services token row := by
  obtain ⟨entry, entryMem, ofSession, sameHash⟩ := sound.returned row stored
  have same : entry = (token, row.id) :=
    Prod.ext (presented entry entryMem (sameHash.trans hash)) ofSession
  rw [same] at entryMem
  exact ⟨hash, entryMem⟩

variable {action : TokenAction}

theorem Starts.holdsToken {source : Option AuthCall} {others : List AuthCall} {next : AuthCall}
    (invariant : state.RotationInvariant services) (free : state.CollisionFree services action)
    (known : ∀ call ∈ source, call ∈ state.calls)
    (starts : state.Starts services action source others next) :
    state.HoldsToken services next := by
  cases next with
  | plainFound token row =>
    obtain ⟨⟨request, waiting, presents⟩, stored, hash⟩ := starts
    have presented := free.presented _ (known _ waiting) token (congrArg some presents)
    exact invariant.tables.found presented stored hash
  | plainReady token row user =>
    have waiting : source = some (.plainFound token row) := starts
    exact invariant.calls (.plainFound token row) (known _ waiting)
  | refreshLocked token row now =>
    obtain ⟨⟨request, waiting, presents⟩, stored, -, hash⟩ := starts
    have presented := free.presented _ (known _ waiting) token presents
    refine ⟨invariant.tables.found presented stored hash, ?_⟩
    exact fun used => invariant.tables.gone token used row stored hash
  | refreshReady token row now user =>
    have waiting : source = some (.refreshLocked token row now) := starts
    exact invariant.calls (.refreshLocked token row now) (known _ waiting)
  | _ => trivial

/-- What a step makes of sessions and tokens. -/
inductive TokensStep (services : TokenServices) (state : TokenState)
    (action : TokenAction) (after : TokenState) : Prop
  | writes (write : AuthSession → AuthSession) (id : ∀ stored, (write stored).id = stored.id)
      (hash : ∀ stored, (write stored).refreshTokenHash = stored.refreshTokenHash)
      (sessions : after.sessions = state.sessions.map write) (issued : after.issued = state.issued)
      (exchanged : after.exchanged = state.exchanged)
  | adds (session : AuthSession) (token : String) (drawn : state.drawn? action = some token)
      (hash : session.refreshTokenHash = services.hashRefreshToken token)
      (free : ¬ state.SessionTaken session)
      (sessions : after.sessions = state.sessions ++ [session])
      (issued : after.issued = state.issued ++ [(token, session.id)])
      (exchanged : after.exchanged = state.exchanged)
  | rotates (index : ℕ) (call : AuthCall) (token : String)
      (row : AuthSession) (seen : ℕ) (user : User) (input : TokenInput)
      (isAdvance : action = .advance index input) (found : state.calls[index]? = some call)
      (refreshes : call = .refreshReady token row seen user ∨ call = .plainReady token row user ∧
          state.locked (.session row.id) = false)
      (same : after = ((state.dropCall index).commitRefresh services token row seen user input).1)

theorem TokensStep.rests (sessions : after.sessions = state.sessions)
    (issued : after.issued = state.issued) (exchanged : after.exchanged = state.exchanged) :
    TokensStep services state action after := by
  refine .writes (fun stored => stored) (fun _ => rfl) (fun _ => rfl) ?_ issued exchanged
  rw [sessions, List.map_id']

theorem perform_tokens (services : TokenServices) (settings : TokenSettings)
    (state : TokenState) (action : TokenAction) : TokensStep services state action
      (state.perform services settings action).1 := by
  rcases perform_cases services settings state action with
    ⟨rests, -⟩ | ⟨row, token, isOpen, same⟩ |
    ⟨index, input, call, isAdvance, found, commits, running, same⟩
  · exact .rests rests.sessions rests.issued rests.exchanged
  · rw [same]
    unfold openSession
    dsimp only
    split
    · exact .rests rfl rfl rfl
    · rename_i untaken
      refine .adds _ token ?_ rfl untaken rfl rfl rfl
      rw [isOpen]
      rfl
  · rw [same]
    cases call with
    | authorizeSignedIn request scope user method =>
      unfold advance issueAuthorizationCode
      dsimp only
      split <;> exact .rests rfl rfl rfl
    | codeReady exchange client row now user =>
      by_cases taken : (state.dropCall index).SessionTaken
          (newSession services settings exchange row now user input)
      · unfold advance commitCode
        dsimp only
        rw [if_pos taken]
        exact .rests rfl rfl rfl
      · unfold advance
        dsimp only
        rw [commitCode_result taken]
        refine .adds _ input.newToken ?_ rfl taken rfl rfl rfl
        rw [isAdvance]
        unfold drawn?
        dsimp only
        rw [found]
        rfl
    | refreshReady token row now user =>
      exact .rotates index _ token row now user input isAdvance found (.inl rfl) rfl
    | plainReady token row user =>
      exact .rotates index _ token row _ user input isAdvance found (.inr ⟨rfl, running⟩) rfl
    | logoutFound row =>
      refine .writes (fun stored =>
        if stored.id = row.id then
          { stored with
            revokedAt := some state.clock
            revokedReason := changedColumn row.revokedReason (some "logout") stored.revokedReason }
        else stored) ?_ ?_ rfl rfl rfl
      · intro stored
        split <;> rfl
      · intro stored
        split <;> rfl
    | _ => cases commits

theorem commitRefresh_result {index seen : ℕ} {token : String}
    {row : AuthSession} {user : User} {input : TokenInput} (tables : state.TokensSound services)
    (found : state.Found services token row)
    (fresh : ∀ entry ∈ state.issued, services.hashRefreshToken entry.1 ≠
      services.hashRefreshToken input.newToken) :
    ((state.dropCall index).commitRefresh services token row seen user input).1 =
      { state.dropCall index with
        sessions := state.sessions.map fun stored =>
          if stored.id = row.id then
            { stored with
              refreshTokenHash := services.hashRefreshToken input.newToken
              lastSeenAt := changedColumn row.lastSeenAt seen stored.lastSeenAt }
          else stored
        issued := state.issued ++ [(input.newToken, row.id)]
        exchanged := state.exchanged ++ [token] } := by
  have free : ¬ ∃ stored ∈ (state.dropCall index).sessions,
      stored.id ≠ row.id ∧ stored.refreshTokenHash = services.hashRefreshToken input.newToken := by
    intro taken
    obtain ⟨stored, storedMem, -, sameHash⟩ := taken
    obtain ⟨entry, entryMem, -, hash⟩ := tables.returned stored storedMem
    exact fresh entry entryMem (hash.trans sameHash)
  have changed : services.hashRefreshToken input.newToken ≠ row.refreshTokenHash := by
    rw [found.1]
    exact (fresh _ found.2).symm
  unfold commitRefresh
  dsimp only
  rw [if_neg free]
  unfold changedColumn
  simp only [if_neg changed]
  rfl

variable {index seen : ℕ} {user : User}

theorem refresh_found (invariant : state.RotationInvariant services)
    (found : state.calls[index]? = some call)
    (refreshes : call = .refreshReady token row seen user ∨ call = .plainReady token row user ∧
        state.locked (.session row.id) = false) : state.Found services token row := by
  have holds := invariant.calls call (List.mem_of_getElem? found)
  rcases refreshes with locks | ⟨plain, -⟩
  · rw [locks] at holds
    exact holds.1
  · rw [plain] at holds
    exact holds

theorem refresh_alone (locks : Exclusive AuthCall.lock? state.calls)
    (found : state.calls[index]? = some call)
    (refreshes : call = .refreshReady token row seen user ∨ call = .plainReady token row user ∧
        state.locked (.session row.id) = false) :
    RowLock.session row.id ∉ (state.calls.eraseIdx index).filterMap AuthCall.lock? := by
  rcases refreshes with locked | ⟨-, unlocked⟩
  · rw [locked] at found
    exact locks.apart found rfl
  · have free : RowLock.session row.id ∉
        state.calls.filterMap AuthCall.lock? := of_decide_eq_false unlocked
    intro held
    exact free (((List.eraseIdx_sublist _ _).filterMap _).subset held)

theorem refresh_unused {input : TokenInput} (invariant : state.RotationInvariant services)
    (alone : state.RotatesAlone (.advance index input)) (found : state.calls[index]? = some call)
    (refreshes : call = .refreshReady token row seen user ∨ call = .plainReady token row user ∧
        state.locked (.session row.id) = false) : token ∉ state.exchanged := by
  have holds := invariant.calls call (List.mem_of_getElem? found)
  rcases refreshes with locks | ⟨plain, unlocked⟩
  · rw [locks] at holds
    exact holds.2
  · rw [plain] at holds found
    obtain ⟨hash, issued⟩ := holds
    obtain ⟨stored, storedMem, sameId⟩ := invariant.tables.opened _ issued
    have sameHash := alone token row user found unlocked stored storedMem sameId
    intro used
    exact invariant.tables.gone token used stored storedMem (sameHash.trans hash)

theorem drawn?_refresh (input : TokenInput) (found : state.calls[index]? = some call)
    (refreshes : call = .refreshReady token row seen user ∨ call = .plainReady token row user ∧
        state.locked (.session row.id) = false) :
    state.drawn? (.advance index input) = some input.newToken := by
  unfold drawn?
  dsimp only
  rw [found]
  rcases refreshes with locks | ⟨plain, -⟩
  · rw [locks]
    rfl
  · rw [plain]
    rfl

theorem RotationInvariant.perform (invariant : state.RotationInvariant services)
    (free : state.CollisionFree services action) (alone : state.RotatesAlone action) :
    RotationInvariant services (state.perform services settings action).1 := by
  have calls := perform_callsStep services settings state action
  have locks := calls.exclusive invariant.locks
  have started : ∀ call ∈ (state.perform services settings action).1.calls,
      state.HoldsToken services call :=
    calls.forall_calls invariant.calls fun source others next known starts =>
      starts.holdsToken invariant free known
  cases perform_tokens services settings state action with
  | writes write id hash sessions issued exchanged =>
    refine ⟨locks, invariant.tables.write id hash sessions issued exchanged, ?_⟩
    intro call member
    apply (started call member).keep
    · rw [issued]
      exact fun entry entryMem => entryMem
    · rw [exchanged]
      exact fun token id _ _ unused => unused
  | adds session token drawn hash untaken sessions issued exchanged =>
    refine ⟨locks, ?_, ?_⟩
    · refine invariant.tables.add (free.drawn token drawn) ?_ hash sessions issued exchanged
      intro stored storedMem sameId
      exact untaken ⟨stored, storedMem, .inl sameId⟩
    · intro call member
      apply (started call member).keep
      · rw [issued]
        exact fun entry entryMem => List.mem_append_left _ entryMem
      · rw [exchanged]
        exact fun token id _ _ unused => unused
  | rotates index call token row seen user input isAdvance found refreshes same =>
    rw [isAdvance] at alone free
    have fresh := free.drawn input.newToken (drawn?_refresh input found refreshes)
    have foundRow := refresh_found invariant found refreshes
    have unused := refresh_unused invariant alone found refreshes
    rw [same, commitRefresh_result invariant.tables foundRow fresh] at locks ⊢
    refine ⟨locks, ?_, ?_⟩
    · exact invariant.tables.rotate (fun stored =>
          { stored with
            refreshTokenHash := services.hashRefreshToken input.newToken
            lastSeenAt := changedColumn row.lastSeenAt seen stored.lastSeenAt })
        foundRow.2 unused fresh (fun _ => rfl) (fun _ => rfl) rfl rfl rfl
    · intro other member
      have before := invariant.calls other (List.mem_of_mem_eraseIdx member)
      apply before.keep
      · exact fun entry entryMem => List.mem_append_left _ entryMem
      · intro otherToken otherId otherIssued holdsLock otherUnused used
        rcases List.mem_append.mp used with old | new
        · exact otherUnused old
        · rw [List.mem_singleton.mp new] at otherIssued
          have sameEntry := invariant.tables.entry_eq otherIssued foundRow.2 rfl
          have sameId : otherId = row.id := congrArg Prod.snd sameEntry
          rw [sameId] at holdsLock
          exact refresh_alone invariant.locks found refreshes
            (List.mem_filterMap.mpr ⟨other, member, holdsLock⟩)

theorem RotationInvariant.rotatesAlone (invariant : state.RotationInvariant services)
    (free : state.CollisionFree services action)
    (once : (state.perform services settings action).1.exchanged.Nodup) :
    state.RotatesAlone action := by
  intro token row user advanced unlocked stored storedMem sameId
  cases action with
  | advance index input =>
    have found : state.calls[index]? = some (.plainReady token row user) := advanced
    have refreshes : AuthCall.plainReady token row user = .refreshReady token row state.clock user ∨
        AuthCall.plainReady token row user = .plainReady token row user ∧
          state.locked (.session row.id) = false := .inr ⟨rfl, unlocked⟩
    have fresh := free.drawn input.newToken (drawn?_refresh input found refreshes)
    have foundRow := refresh_found invariant found refreshes
    have running : state.waits (.plainReady token row user) = false := unlocked
    have exchanged : (state.perform services settings (.advance index input)).1.exchanged =
          state.exchanged ++ [token] := by
      unfold TokenState.perform
      dsimp only
      rw [found]
      dsimp only
      rw [if_neg (by rw [running]; exact Bool.false_ne_true)]
      have result := @commitRefresh_result services state index state.clock
        token row user input invariant.tables foundRow fresh
      unfold advance resume
      dsimp only
      split
      · exact congrArg TokenState.exchanged result
      · exact congrArg TokenState.exchanged result
    rw [exchanged] at once
    have unused : token ∉ state.exchanged := by
      intro used
      exact List.disjoint_of_nodup_append once used (List.mem_singleton_self token)
    have issued := foundRow.2
    rw [← sameId] at issued
    rw [foundRow.1]
    exact invariant.tables.session_hash issued unused storedMem
  | _ => cases advanced

end Steps

/-- From any users, clients and callbacks and along every run, refresh tokens
are single-use if and only if the refresh endpoint always rotates alone. -/
theorem run_singleUse_iff (services : TokenServices) (settings : TokenSettings) (users : List User)
    (applications : List Application) (redirectUris : List ApplicationRedirectURI)
    (actions : List TokenAction) : EveryStep (PerformsFreely services settings)
        (fun _ _ after => after.SingleUse services)
        (starting users applications redirectUris) actions ↔
      EveryStep (PerformsFreely services settings)
        (fun before action _ => before.RotatesAlone action)
        (starting users applications redirectUris) actions := by
  have initial : RotationInvariant services (starting users applications redirectUris) :=
    ⟨Exclusive.nil, TokensSound.nil, fun _ none => nomatch none⟩
  refine EveryStep.iff_of_stronger initial (fun state invariant => invariant.tables.singleUse) ?_ ?_
  · intro before action after invariant performs alone
    obtain ⟨free, same⟩ := performs
    rw [same]
    exact invariant.perform free alone
  · intro before action after invariant performs single
    obtain ⟨free, same⟩ := performs
    rw [same] at single
    exact invariant.rotatesAlone free single.once

def reader : User := { id := 7, email := none, phone := none }

def loanhub : Application where
  id := 1
  clientId := "loanhub"
  isActive := true

def readerSession : AuthSession where
  id := 3
  userId := 7
  clientId := "loanhub"
  refreshTokenHash := ""
  expiresAt := 100
  lastSeenAt := 0

def overlappingRefreshes : List TokenAction :=
  [.openSession readerSession "first", .refresh { refreshToken := "first", clientId := "loanhub" },
    .refresh { refreshToken := "first", clientId := "loanhub" },
    .advance 0 {}, .advance 0 {}, .advance 0 {}, .advance 0 {},
    .advance 0 { newToken := "second" }, .advance 0 { newToken := "third" }]

def ended (actions : List TokenAction) : TokenState :=
  actions.foldl (fun state action => (state.perform plainHashes {} action).1)
    (starting [reader] [loanhub] [])

/-- A token is exchanged twice, and a token that was returned, not exchanged
and not revoked is no longer stored. -/
theorem rotation_overtaken : Run (PerformsFreely plainHashes {}) (starting [reader] [loanhub] [])
        overlappingRefreshes (ended overlappingRefreshes) ∧
      ¬ (ended overlappingRefreshes).exchanged.Nodup ∧
      ("second", 3) ∈ (ended overlappingRefreshes).issued ∧
      "second" ∉ (ended overlappingRefreshes).exchanged ∧
      ∀ session ∈ (ended overlappingRefreshes).sessions, session.id = 3 ∧
        session.revokedAt = none ∧ session.refreshTokenHash ≠
          plainHashes.hashRefreshToken "second" := by
  refine ⟨?_, by decide, by decide, by decide, by decide⟩
  apply EveryStep.run_guarded
  unfold overlappingRefreshes
  simp only [EveryStep.cons_iff]
  refine ⟨?_, ?_, ?_, ?_, ?_, ?_, ?_, ?_, ?_, EveryStep.nil⟩ <;> decide

end TokenState

end Ithute.Auth
