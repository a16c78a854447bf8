import Ithute.Library.UniqueRows
import Mathlib.Data.List.Nodup
import Ithute.PushLifecycle

/-!
# Revoked sessions and disabled users

A revocation deactivates the endpoints that are bound to its session or its
user.  Registrations, queued messages and passes of the worker that overlap
with it may have checked before.
-/

namespace Ithute.Push

open TransitionRuns

inductive Holder where
  | session (sid : ℕ)
  | user (sub : ℕ)

namespace Holder

def binds : Holder → PushEndpoint → Prop
  | .session sid, row => row.authSessionId = some sid
  | .user sub, row => row.authUserId = sub

def owns : Holder → UserPrincipal → Prop
  | .session sid, principal => principal.sessionId = sid
  | .user sub, principal => principal.sub = sub

@[simp] theorem binds_session (sid : ℕ) (row : PushEndpoint) :
    (Holder.session sid).binds row ↔ row.authSessionId = some sid :=
  Iff.rfl

@[simp] theorem binds_user (sub : ℕ) (row : PushEndpoint) :
    (Holder.user sub).binds row ↔ row.authUserId = sub :=
  Iff.rfl

end Holder

def LifecycleSubject.blocks? : LifecycleSubject → Option Holder
  | .session _ sid _ => some (.session sid)
  | .account sub false => some (.user sub)
  | _ => none

namespace PushState

/-- The session has been revoked, or the latest event of the account disables
it. -/
def Blocked (state : PushState) : Holder → Prop
  | .session sid => ∃ event ∈ state.lifecycleEvents, event.Revokes sid
  | .user sub => ∃ event ∈ state.lifecycleEvents, event.AboutAccount sub ∧ event.enables = false ∧
        ∀ other ∈ state.lifecycleEvents, other.AboutAccount sub →
          other.enables = true → other.occurredAt < event.occurredAt

def Bound (state : PushState) (holder : Holder) (endpointId : ℕ) : Prop :=
  ∃ row ∈ state.endpoints, row.id = endpointId ∧ holder.binds row

end PushState

/-- No delivery is created for an endpoint of a blocked holder, and none is
sent to its provider. -/
structure RevocationFinal (before : PushState) (action : PushAction)
    (after : PushState) : Prop where
  deliveries : ∀ holder, before.Blocked holder → ∀ delivery ∈ after.deliveries,
      (∀ earlier ∈ before.deliveries, earlier.id ≠ delivery.id) →
        ¬ before.Bound holder delivery.endpointId
  sends : ∀ holder, before.Blocked holder → ∀ pass item,
    before.advanced? action = some (.workerPass pass) →
      pass.sending = some item → ¬ before.Bound holder item.endpointId

/-- The commit of the registration leaves an active row that is bound to the
holder, even if the stored rows of the holder are inactive. -/
def PushState.Gains (state : PushState) (holder : Holder)
    (registration : Registration) : Option PushEndpoint → Prop
  | none => holder.owns registration.principal
  | some loaded =>
    (loaded.active = false ∨ loaded.authSessionId ≠ some registration.principal.sessionId) ∧
    ∃ row ∈ state.endpoints, row.id = loaded.id ∧ holder.binds { row with
        authSessionId := changedColumn loaded.authSessionId
          (some registration.principal.sessionId) row.authSessionId }

def PushState.Reaches (state : PushState) (holder : Holder) : PushCall → Prop
  | .messageSelected _ endpoints => ∃ endpoint ∈ endpoints, state.Bound holder endpoint.id
  | .workerPass pass =>
    ∃ endpoint ∈ pass.endpoints, endpoint.active = true ∧ state.Bound holder endpoint.id
  | _ => False

/-- No registration is committed for a blocked holder, and no call under way
holds an active endpoint of the one that a commit blocks. -/
def NoneOverlaps (before : PushState) (action : PushAction) (after : PushState) : Prop :=
  KeepsLatest before action after ∧ match before.advanced? action with
    | some (.deviceReady registration endpoint _) =>
      ∀ holder, before.Blocked holder → ¬ before.Gains holder registration endpoint
    | some (.eventLoaded read endpoints) =>
      before.lifecycleClash read = false → read.applied = true → ∀ holder ∈ read.subject.blocks?,
          (∀ call ∈ before.calls, ¬ before.Reaches holder call) ∧
          ∀ row ∈ before.endpoints, holder.binds row → row.active = true → ∃ loaded ∈ endpoints,
              loaded.id = row.id ∧ loaded.active = true
    | _ => True

namespace PushState

variable {state after : PushState}

theorem SameLifecycle.blocked_iff (same : state.SameLifecycle after)
    (holder : Holder) : after.Blocked holder ↔ state.Blocked holder := by
  unfold Blocked
  rw [same.events]

theorem blocked_of_newer {read : LifecycleRead} {sub : ℕ}
    {endpoints : List PushEndpoint} (invariant : state.LifecycleInvariant)
    (subject : read.subject = .account sub false)
    (reads : state.ReadsStored (.eventLoaded read endpoints)) (skipped : read.applied = false)
    (enabling : ∀ other ∈ state.lifecycleEvents, other.AboutAccount sub →
      other.enables = true → other.occurredAt < read.event.occurredAt) :
    state.Blocked (.user sub) := by
  obtain ⟨-, stored⟩ := reads
  unfold LifecycleRead.applied at skipped
  rw [subject] at stored skipped
  dsimp only at stored skipped
  cases found : read.status with
  | none =>
    rw [found] at skipped
    cases skipped
  | some loaded =>
    rw [found] at skipped
    have older : ¬ loaded.changedAt ≤ read.event.occurredAt := of_decide_eq_false skipped
    obtain ⟨row, rowStored, later⟩ := stored loaded found
    have tells := invariant.accounts sub
    rw [rowStored] at tells
    obtain ⟨latest, member, about, same, bound⟩ := tells
    have time : latest.occurredAt = row.changedAt := congrArg Prod.fst same
    have boundHere : ∀ other ∈ state.lifecycleEvents,
        other.AboutAccount sub → other.occurredAt ≤ row.changedAt := bound
    refine ⟨latest, member, about, ?_, ?_⟩
    · cases value : latest.enables with
      | false => rfl
      | true =>
        have earlier := enabling latest member about value
        omega
    · intro other otherMem otherAbout value
      have earlier := enabling other otherMem otherAbout value
      omega

variable {holder : Holder}

theorem Committed.blocks {read : LifecycleRead} {endpoints : List PushEndpoint}
    (committed : state.Committed read endpoints after) (invariant : state.LifecycleInvariant)
    (reads : state.ReadsStored (.eventLoaded read endpoints))
    (blocked : after.Blocked holder) (unblocked : ¬ state.Blocked holder) :
    read.applied = true ∧ read.subject.blocks? = some holder := by
  have known := reads.1
  cases holder with
  | session sid =>
    obtain ⟨event, member, revokes⟩ := blocked
    rw [committed.events, List.mem_append, List.mem_singleton] at member
    rcases member with old | new
    · exact absurd ⟨event, old, revokes⟩ unblocked
    · rw [new] at revokes
      obtain ⟨sub, clientId, subject⟩ := (revokes_iff known sid).mp revokes
      have stored := reads.2
      unfold LifecycleRead.applied
      rw [subject] at stored ⊢
      refine ⟨?_, rfl⟩
      dsimp only at stored ⊢
      cases found : read.revoked with
      | none => rfl
      | some row =>
        have revoked := stored (by rw [found]; rfl)
        exact absurd ((invariant.sessions sid).mp revoked) unblocked
  | user sub =>
    obtain ⟨event, member, about, disables, latest⟩ := blocked
    rw [committed.events] at member latest
    have enabling : ∀ other ∈ state.lifecycleEvents, other.AboutAccount sub → other.enables = true →
          other.occurredAt < event.occurredAt :=
      fun other otherMem => latest other (List.mem_append_left _ otherMem)
    rw [List.mem_append, List.mem_singleton] at member
    rcases member with old | new
    · exact absurd ⟨event, old, about, disables, enabling⟩ unblocked
    · rw [new] at about disables enabling
      obtain ⟨active, subject⟩ := (aboutAccount_iff known sub).mp about
      have value : active = false := by
        rw [subject] at known
        rw [← AuthLifecycleEventRequest.enables_of_account known]
        exact disables
      rw [value] at subject
      refine ⟨?_, by rw [subject]; rfl⟩
      cases applied : read.applied with
      | true => rfl
      | false => exact absurd (blocked_of_newer invariant subject reads applied enabling) unblocked

structure RevocationInvariant (state : PushState) : Prop where
  lifecycle : state.LifecycleInvariant
  ids : state.endpoints.Pairwise fun first second => first.id ≠ second.id
  sending : ∀ pass, .workerPass pass ∈ state.calls → ∀ item ∈ pass.sending, ∃ row ∈ pass.endpoints,
      row.id = item.endpointId ∧ row.active = true
  unbound : ∀ holder, state.Blocked holder → ∀ row ∈ state.endpoints,
    holder.binds row → row.active = false
  still : ∀ holder, state.Blocked holder → ∀ call ∈ state.calls, ¬ state.Reaches holder call

variable {row : PushEndpoint}

theorem Weakened.binds_iff {old : PushEndpoint}
    (weakened : Weakened old row) (holder : Holder) : holder.binds row ↔ holder.binds old := by
  cases holder with
  | session sid => rw [Holder.binds_session, Holder.binds_session, weakened.session]
  | user sub => rw [Holder.binds_user, Holder.binds_user, weakened.user]

variable {services : PushServices} {call : Option PushCall}

/-- Bound rows of a holder for whom no registration is committed come from
bound rows, and are not activated. -/
theorem bound_of_step {rows : List PushEndpoint} (step : EndpointsStep services state call rows)
    (inactive : ∀ row ∈ state.endpoints, holder.binds row → row.active = false)
    (none : ∀ registration endpoint duplicates,
      call = some (.deviceReady registration endpoint duplicates) →
        ¬ state.Gains holder registration endpoint) :
    ∀ row ∈ rows, holder.binds row → row.active = false ∧
      ∃ old ∈ state.endpoints, old.id = row.id ∧ holder.binds old := by
  obtain ⟨change, inserted, same, changes, insertion⟩ := step
  intro row member binds
  rw [same] at member
  rcases List.mem_append.mp member with changed | new
  · obtain ⟨old, oldMem, made⟩ := List.mem_map.mp changed
    rw [← made] at binds ⊢
    rcases changes old with weakened | registered
    · have oldBinds := (weakened.binds_iff holder).mp binds
      refine ⟨?_, old, oldMem, weakened.id.symm, oldBinds⟩
      have oldInactive := inactive old oldMem oldBinds
      cases active : (change old).active with
      | false => rfl
      | true =>
        rw [weakened.active active] at oldInactive
        cases oldInactive
    · obtain ⟨registration, loaded, duplicates, kept, isCall, sameId,
        weakened, written⟩ := registered
      have gains := none registration (some loaded) duplicates isCall
      -- the row that is written keeps its owner
      have rebinds : holder.binds { old with
          authSessionId := changedColumn loaded.authSessionId
            (some registration.principal.sessionId) old.authSessionId } := by
        rw [written] at binds
        cases holder with
        | session sid =>
          rw [Holder.binds_session] at binds ⊢
          rw [← weakened.session]
          exact binds
        | user sub =>
          rw [Holder.binds_user] at binds ⊢
          rw [← weakened.user]
          exact binds
      have unchanged : loaded.active = true ∧ loaded.authSessionId =
          some registration.principal.sessionId := by
        constructor
        · by_contra inactiveRow
          exact gains ⟨.inl (Bool.eq_false_of_not_eq_true inactiveRow), old,
            oldMem, sameId, rebinds⟩
        · by_contra otherSession
          exact gains ⟨.inr otherSession, old, oldMem, sameId, rebinds⟩
      have oldBinds : holder.binds old := by
        rw [unchanged.2] at rebinds
        unfold changedColumn at rebinds
        rw [if_pos rfl] at rebinds
        exact rebinds
      refine ⟨?_, old, oldMem, ?_, oldBinds⟩
      · have oldInactive := inactive old oldMem oldBinds
        have active : (change old).active = kept.active := by
          rw [written]
          unfold Registration.update
          dsimp only
          rw [unchanged.1]
          exact if_pos rfl
        rw [active]
        cases keptActive : kept.active with
        | false => rfl
        | true =>
          rw [weakened.active keptActive] at oldInactive
          cases oldInactive
      · rw [written]
        exact weakened.id.symm
  · rcases insertion with empty | registered
    · rw [empty] at new
      cases new
    · obtain ⟨registration, duplicates, newId, isCall, isRow, -⟩ := registered
      rw [isRow, List.mem_singleton] at new
      refine absurd ?_ (none registration _ duplicates isCall)
      rw [new] at binds
      cases holder with
      | session sid => exact Option.some.inj binds
      | user sub => exact binds

theorem RowStep.id {now : ℕ} {old : PushEndpoint}
    (step : RowStep services now call old row) : row.id = old.id := by
  rcases step with weakened | registered
  · exact weakened.id
  · obtain ⟨_, _, _, kept, -, -, weakened, written⟩ := registered
    rw [written]
    exact weakened.id

theorem EndpointsStep.ids {rows : List PushEndpoint} (step : EndpointsStep services state call rows)
    (apart : state.endpoints.Pairwise fun first second => first.id ≠ second.id) :
    rows.Pairwise fun first second => first.id ≠ second.id := by
  obtain ⟨change, inserted, same, changes, insertion⟩ := step
  have changed : (state.endpoints.map change).Pairwise
      fun first second => first.id ≠ second.id := by
    rw [List.pairwise_map]
    refine apart.imp ?_
    intro first second differ
    rw [(changes first).id, (changes second).id]
    exact differ
  rw [same]
  rcases insertion with empty | registered
  · rw [empty, List.append_nil]
    exact changed
  · obtain ⟨registration, _, newId, -, isRow, fresh⟩ := registered
    rw [isRow]
    apply UniqueRows.pairwise_insert changed
    intro existing member
    obtain ⟨old, oldMem, made⟩ := List.mem_map.mp member
    rw [← made, (changes old).id]
    exact fresh old oldMem

theorem bound_unique (apart : state.endpoints.Pairwise fun first second => first.id ≠ second.id)
    (member : row ∈ state.endpoints) (bound : state.Bound holder row.id) : holder.binds row := by
  obtain ⟨other, otherMem, sameId, binds⟩ := bound
  have ids : (state.endpoints.map PushEndpoint.id).Nodup := List.pairwise_map.mpr apart
  rw [← List.inj_on_of_nodup_map ids otherMem member sameId]
  exact binds

section Steps

variable {services : PushServices} {settings : PushSettings} {action : PushAction} {holder : Holder}

theorem sending_perform (invariant : state.RevocationInvariant)
    {pass : WorkerPass} (member : .workerPass pass ∈
      (state.perform services settings action).1.calls) :
    ∀ item ∈ pass.sending, ∃ row ∈ pass.endpoints,
      row.id = item.endpointId ∧ row.active = true := by
  rcases perform_calls services settings state action _ member with
    old | starts
  · exact invariant.sending pass old
  · rcases starts with fresh | continued
    · intro item sending
      rw [fresh.2] at sending
      cases sending
    · obtain ⟨earlier, -, -, sending⟩ := continued
      exact sending

theorem starts_still (invariant : state.RevocationInvariant)
    (blocked : state.Blocked holder) {call : PushCall}
    (starts : state.Starts call) : ¬ state.Reaches holder call := by
  have inactive (row : PushEndpoint) (member : row ∈ state.endpoints)
      (active : row.active = true) : ¬ state.Bound holder row.id := by
    intro bound
    have none := invariant.unbound holder blocked row member
      (bound_unique invariant.ids member bound)
    rw [active] at none
    cases none
  intro reaches
  cases call with
  | messageSelected queued endpoints =>
    obtain ⟨userDisabled, selected⟩ := starts
    obtain ⟨endpoint, member, bound⟩ := reaches
    rw [selected] at member
    unfold selectEndpoints at member
    split at member
    · obtain ⟨stored, shown⟩ := List.mem_filter.mp member
      exact inactive endpoint stored (of_decide_eq_true shown).2.2 bound
    · split at member
      · cases member
      · obtain ⟨stored, shown⟩ := List.mem_filter.mp member
        exact inactive endpoint stored (of_decide_eq_true shown).2.2.1 bound
  | workerPass pass =>
    obtain ⟨endpoint, member, active, bound⟩ := reaches
    rcases starts with fresh | continued
    · rw [fresh.1] at member
      cases member
    · obtain ⟨earlier, earlierMem, loaded, -⟩ := continued
      rcases loaded endpoint member with known | stored
      · exact invariant.still holder blocked _ earlierMem ⟨endpoint, known, active, bound⟩
      · exact inactive endpoint stored active bound
  | _ => exact reaches

theorem Reaches.of_bound {call : PushCall} (bound : ∀ endpointId, after.Bound holder endpointId →
      state.Bound holder endpointId)
    (reaches : after.Reaches holder call) : state.Reaches holder call := by
  cases call with
  | messageSelected queued endpoints =>
    obtain ⟨endpoint, member, boundAfter⟩ := reaches
    exact ⟨endpoint, member, bound _ boundAfter⟩
  | workerPass pass =>
    obtain ⟨endpoint, member, active, boundAfter⟩ := reaches
    exact ⟨endpoint, member, active, bound _ boundAfter⟩
  | _ => exact reaches

theorem RevocationInvariant.keep (invariant : state.RevocationInvariant)
    (apart : NoneOverlaps state action (state.perform services settings action).1)
    (blocked : state.Blocked holder) :
    (∀ row ∈ (state.perform services settings action).1.endpoints,
      holder.binds row → row.active = false) ∧
    ∀ call ∈ (state.perform services settings action).1.calls,
      ¬ Reaches (state.perform services settings action).1 holder call := by
  have rows := bound_of_step (perform_endpoints services settings state
    action) (invariant.unbound holder blocked) (by
      intro registration endpoint duplicates isCall
      have registers := apart.2
      rw [isCall] at registers
      exact registers holder blocked)
  refine ⟨fun row member binds => (rows row member binds).1, ?_⟩
  intro call member reaches
  have reached : state.Reaches holder call := by
    apply Reaches.of_bound ?_ reaches
    intro endpointId bound
    obtain ⟨row, rowMem, sameId, binds⟩ := bound
    obtain ⟨-, old, oldMem, oldId, oldBinds⟩ := rows row rowMem binds
    exact ⟨old, oldMem, oldId.trans sameId, oldBinds⟩
  rcases perform_calls services settings state action call member with
    old | starts
  · exact invariant.still holder blocked call old reached
  · exact starts_still invariant blocked starts reached

theorem Committed.quiet {read : LifecycleRead} {endpoints : List PushEndpoint}
    (committed : state.Committed read endpoints after)
    (still : ∀ call ∈ state.calls, ¬ state.Reaches holder call)
    (loaded : ∀ row ∈ state.endpoints, holder.binds row →
      row.active = true → ∃ endpoint ∈ endpoints, endpoint.id = row.id ∧ endpoint.active = true) :
    (∀ row ∈ after.endpoints, holder.binds row → row.active = false) ∧
      ∀ call ∈ after.calls, ¬ after.Reaches holder call := by
  have rows := committed.endpoints
  unfold deactivate at rows
  constructor
  · intro row member binds
    rw [rows] at member
    obtain ⟨old, oldMem, made⟩ := List.mem_map.mp member
    split at made
    · rw [← made]
    · rename_i others
      rw [made] at others oldMem
      cases active : row.active with
      | false => rfl
      | true => exact absurd (loaded row oldMem binds active) others
  · intro call member reaches
    apply still call (committed.calls call member)
    apply Reaches.of_bound ?_ reaches
    intro endpointId bound
    obtain ⟨row, rowMem, sameId, binds⟩ := bound
    rw [rows] at rowMem
    obtain ⟨old, oldMem, made⟩ := List.mem_map.mp rowMem
    refine ⟨old, oldMem, ?_, ?_⟩
    · rw [← sameId, ← made]
      split <;> rfl
    · rw [← made] at binds
      cases holder <;> split at binds <;> exact binds

theorem RevocationInvariant.perform (invariant : state.RevocationInvariant)
    (apart : NoneOverlaps state action (state.perform services settings action).1) :
    (state.perform services settings action).1.RevocationInvariant := by
  have holders (holder : Holder)
      (blocked : (state.perform services settings action).1.Blocked
        holder) :
      (∀ row ∈ (state.perform services settings action).1.endpoints,
        holder.binds row → row.active = false) ∧
      ∀ call ∈ (state.perform services settings action).1.calls,
        ¬ Reaches (state.perform services settings action).1 holder
          call := by
    by_cases earlier : state.Blocked holder
    · exact invariant.keep apart earlier
    · rcases perform_lifecycle services settings state action with
        ⟨index, input, read, endpoints, isAdvance, found, free, committed⟩ | same
      · have reads := invariant.lifecycle.calls _ (List.mem_of_getElem? found)
        obtain ⟨applied, blocks⟩ :=
          committed.blocks invariant.lifecycle reads blocked earlier
        have overlaps := apart.2
        have advanced : state.advanced? action = some (.eventLoaded read endpoints) := by
          rw [isAdvance]
          exact found
        rw [advanced] at overlaps
        obtain ⟨still, loaded⟩ := overlaps free applied holder blocks
        exact committed.quiet still loaded
      · exact absurd ((same.blocked_iff holder).mp blocked) earlier
  exact
    { lifecycle :=
        invariant.lifecycle.perform services settings action apart.1
      ids := (perform_endpoints services settings state action).ids
        invariant.ids
      sending := fun pass member => sending_perform invariant member
      unbound := fun holder blocked => (holders holder blocked).1
      still := fun holder blocked => (holders holder blocked).2 }

theorem RevocationInvariant.final (invariant : state.RevocationInvariant) (action : PushAction) :
    RevocationFinal state action (state.perform services settings action).1 := by
  constructor
  · intro holder blocked delivery member fresh bound
    rcases perform_deliveries services settings state action delivery member with old | created
    · obtain ⟨earlier, earlierMem, sameId⟩ := old
      exact fresh earlier earlierMem sameId
    · obtain ⟨queued, endpoints, isCall, endpoint, endpointMem, sameId⟩ := created
      obtain ⟨index, input, -, found, -⟩ := perform_commit services settings state isCall
      apply invariant.still holder blocked _ (List.mem_of_getElem? found)
      refine ⟨endpoint, endpointMem, ?_⟩
      rw [sameId]
      exact bound
  · intro holder blocked pass item isCall sending bound
    obtain ⟨index, input, -, found, -⟩ := perform_commit services settings state isCall
    have member := List.mem_of_getElem? found
    obtain ⟨row, rowMem, sameId, active⟩ := invariant.sending pass member item sending
    apply invariant.still holder blocked _ member
    refine ⟨row, rowMem, active, ?_⟩
    rw [sameId]
    exact bound

end Steps

theorem revocationInvariant_start : RevocationInvariant ({} : PushState) where
  lifecycle := lifecycleInvariant_start
  ids := List.Pairwise.nil
  sending := fun _ none => nomatch none
  unbound := fun _ _ _ none => nomatch none
  still := fun _ _ _ none => nomatch none

/-- In every run without overlaps revocation is final. -/
theorem run_revocationFinal (services : PushServices)
    (settings : PushSettings) (actions : List PushAction)
    (apart : EveryStep (Performs services settings) NoneOverlaps {} actions) :
    EveryStep (Performs services settings) RevocationFinal {} actions := by
  refine EveryStep.of_invariant revocationInvariant_start ?_ ?_ apart
  · intro before action following invariant performs apartHere
    unfold Performs at performs
    subst performs
    exact invariant.perform apartHere
  · intro before action following invariant performs _
    unfold Performs at performs
    subst performs
    exact invariant.final action

def phone : Registration where
  principal := { clientId := "loanhub", sub := 7, sessionId := 3 }
  request := { deviceKey := "phone", platform := .android, providerEndpoint := "fcm" }
  ciphertext := "sealed"

def revocation : AuthLifecycleEventRequest where
  eventId := 1
  type := .sessionRevoked
  sub := some 7
  sid := some 3
  clientId := some "loanhub"
  occurredAt := 1
  details := []

def greeting : MessageRequest where
  sourceClientId := "loanhub"
  recipientSub := 7
  notification :=
    { title := "Hello", body := "You have mail", route := none,
      sound := none, data := [] }
  ttlSeconds := 60
  delegated := true

def registering : List PushAction :=
  [.registerDevice phone, .advance 0 {}, .advance 0 {}, .advance 0 {}, .advance 0 {}]

def sendingGreeting : List PushAction :=
  [.queueMessage greeting none, .advance 0 {}, .advance 0 {},
    .advance 0 { newId := 20, deliveryIds := fun index => 30 + index }]

/-- The device is registered before the revocation and gets nothing after
it. -/
theorem run_revocationFinal_inTurn : EveryStep (Performs plainServices {}) RevocationFinal {}
      (registering ++ [.advance 0 { newId := 10 }] ++ inTurn revocation ++ sendingGreeting) := by
  apply run_revocationFinal
  unfold Performs registering inTurn sendingGreeting
  simp only [List.cons_append, List.nil_append, EveryStep.cons_iff]
  have elsewhere {before after : PushState} {action : PushAction}
      (keeps : KeepsLatest before action after)
      (rest : ∀ call ∈ before.advanced? action, call.commits = false) :
      NoneOverlaps before action after := by
    refine ⟨keeps, ?_⟩
    split
    · rename_i registration endpoint duplicates isCall
      cases rest _ isCall
    · rename_i read endpoints isCall
      cases rest _ isCall
    · trivial
  refine ⟨elsewhere ?_ ?_, elsewhere ?_ ?_, elsewhere ?_ ?_, elsewhere ?_ ?_,
    elsewhere ?_ ?_, ⟨?_, ?_⟩, elsewhere ?_ ?_, elsewhere ?_ ?_,
    elsewhere ?_ ?_, ⟨?_, ?_⟩, elsewhere ?_ ?_, elsewhere ?_ ?_,
    elsewhere ?_ ?_, ⟨?_, trivial⟩, EveryStep.nil⟩
  case refine_12 =>
    intro holder blocked
    cases holder with
    | session sid =>
      obtain ⟨event, member, -⟩ := blocked
      cases member
    | user sub =>
      obtain ⟨event, member, -⟩ := blocked
      cases member
  case refine_20 =>
    intro free applied holder blocks
    cases blocks
    constructor
    · intro call member reaches
      rw [List.mem_singleton.mp member] at reaches
      exact reaches
    · intro row member _ active
      exact ⟨row, member, rfl, active⟩
  all_goals decide

/-- The session is revoked between the checks of the registration and its
commit. -/
def overlappingRegistration : List PushAction :=
  registering ++ [.applyAuthEvent revocation, .advance 1 {}, .advance 1 {},
    .advance 1 {}, .advance 0 { newId := 10 },
    .queueMessage greeting none, .advance 0 {}, .advance 0 {}]

/-- The session is revoked between the worker's check of the endpoint and the
call of its provider. -/
def overlappingPass : List PushAction :=
  registering ++ [.advance 0 { newId := 10 }] ++ sendingGreeting ++
    [.runOnce id, .advance 0 {}, .applyAuthEvent revocation, .advance 1 {},
      .advance 1 {}, .advance 1 {}]

theorem ended_blocked {actions : List PushAction} {sid : ℕ}
    (events : (ended actions).lifecycleEvents = [revocation]) (revokes : revocation.Revokes sid) :
    (ended actions).Blocked (.session sid) :=
  ⟨revocation, events ▸ List.mem_cons_self, revokes⟩

/-- A delivery is created for the device of a revoked session, and one is
sent to it. -/
theorem revocation_overtaken : ¬ EveryStep (Performs plainServices {}) RevocationFinal {}
      (overlappingRegistration ++ [.advance 0 { newId := 20, deliveryIds := fun _ => 30 }]) ∧
    ¬ EveryStep (Performs plainServices {}) RevocationFinal {}
      (overlappingPass ++ [.advance 0 {}]) := by
  have revokes : revocation.Revokes 3 := ⟨7, "loanhub", rfl⟩
  constructor
  · intro final
    have step := final overlappingRegistration _ [] _ _ rfl (ended_run overlappingRegistration) rfl
    have blocked : (ended overlappingRegistration).Blocked (.session 3) := ended_blocked rfl revokes
    apply step.deliveries (.session 3) blocked
      { id := 30, messageId := 20, endpointId := 10, nextAttemptAt := 0 } List.mem_cons_self
    · intro earlier none
      cases none
    · exact ⟨phone.row plainServices 10 0, List.mem_cons_self, rfl, rfl⟩
  · intro final
    have step := final overlappingPass _ [] _ _ rfl (ended_run overlappingPass) rfl
    have blocked : (ended overlappingPass).Blocked (.session 3) := ended_blocked rfl revokes
    apply step.sends (.session 3) blocked _
      { id := 30, messageId := 20, endpointId := 10, nextAttemptAt := 0,
        attempts := 1 } rfl rfl
    exact ⟨_, List.mem_cons_self, rfl, rfl⟩

end PushState

end Ithute.Push
