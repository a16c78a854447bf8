import Ithute.RealtimeTable

/-!
# Attempts that overlap

Neither the worker's query nor `deliver_event` locks the row of an event, so
two calls may hold the same row.  Attempts are counted and settled correctly
as long as no call starts from a row that has changed since it was loaded.
-/

namespace Ithute

open TransitionRuns

namespace RealtimeState

variable {services : RealtimeServices} {settings : RealtimeSettings}

def publicationCount (state : RealtimeState) (eventId : ℕ) : ℕ :=
  state.publications.countP fun wire => decide (wire.eventId = eventId)

def DeliveredKept (before after : RealtimeState) : Prop :=
  ∀ row ∈ before.events, row.status = .delivered →
    ∀ following ∈ after.events, following.id = row.id → following.status = .delivered

/-- Delivered events stay delivered, and attempts and publications stay
within the limit. -/
structure AttemptsBounded (before after : RealtimeState) : Prop where
  delivered : before.DeliveredKept after
  attempts : ∀ row ∈ after.events, row.attempts ≤ row.maxAttempts
  publications : ∀ row ∈ after.events, after.publicationCount row.id ≤ row.maxAttempts

/-- A call starts from the row as it is stored, and some attempt is
allowed. -/
def FreshEntry (before : RealtimeState) (action : RealtimeAction) (_ : RealtimeState) : Prop :=
  match action with
  | .enter index =>
    ∀ call ∈ before.calls[index]?, ∀ event, call.phase = .loaded event →
      ∀ row ∈ before.events, row.id = event.id →
        row.status = event.status ∧ row.attempts = event.attempts ∧ 0 < row.maxAttempts
  | _ => True

def liveIds (calls : List DeliveryCall) : List ℕ :=
  calls.filterMap fun call => call.phase.attempt.map fun event => event.val.id

def Stored (state : RealtimeState) (event : PublishingEvent) : Prop :=
  ∀ row ∈ state.events, row.id = event.val.id →
    row.status = .publishing ∧ row.attempts = event.val.attempts

structure AttemptInvariant (state : RealtimeState) : Prop where
  table : state.TableInvariant
  single : (liveIds state.calls).Nodup
  live : ∀ call ∈ state.calls, ∀ event, call.phase.attempt = some event →
    event.val.key ∈ state.keys ∧ state.Stored event
  unpublished : ∀ call ∈ state.calls, ∀ event startedAt, call.phase = .publishing event startedAt →
      state.publicationCount event.val.id < event.val.attempts
  attempts : ∀ row ∈ state.events, row.attempts ≤ row.maxAttempts
  remaining : ∀ row ∈ state.events, row.status.selectable = true →
    0 < row.maxAttempts → row.attempts < row.maxAttempts
  counted : ∀ row ∈ state.events, state.publicationCount row.id ≤ row.attempts
  known : ∀ wire ∈ state.publications, wire.eventId ∈ state.events.map RealtimeEvent.id

section Calls

variable {calls : List DeliveryCall} {index : ℕ} {call : DeliveryCall}

theorem liveIds_pass (process : ℕ) (events : List RealtimeEvent) :
    liveIds (DeliveryCall.pass process events) = [] := by
  cases events <;> rfl

theorem liveIds_append (first second : List DeliveryCall) :
    liveIds (first ++ second) = liveIds first ++ liveIds second :=
  List.filterMap_append

theorem liveIds_perm (found : calls[index]? = some call) :
    (liveIds (call :: calls.eraseIdx index)).Perm (liveIds calls) := by
  obtain ⟨inside, rfl⟩ := List.getElem?_eq_some_iff.mp found
  exact (List.getElem_cons_eraseIdx_perm inside).filterMap _

variable {event : PublishingEvent}

theorem liveIds_cons_of_attempt (attempt : call.phase.attempt = some event) :
    liveIds (call :: calls) = event.val.id :: liveIds calls := by
  simp [liveIds, attempt]

theorem mem_liveIds (member : call ∈ calls)
    (attempt : call.phase.attempt = some event) : event.val.id ∈ liveIds calls := by
  rw [liveIds, List.mem_filterMap]
  exact ⟨call, member, by rw [attempt]; rfl⟩

theorem nodup_liveIds_eraseIdx (single : (liveIds calls).Nodup)
    (index : ℕ) : (liveIds (calls.eraseIdx index)).Nodup :=
  single.sublist ((List.eraseIdx_sublist calls index).filterMap _)

theorem ne_of_mem_eraseIdx (single : (liveIds calls).Nodup) (found : calls[index]? = some call)
    (attempt : call.phase.attempt = some event) {other : DeliveryCall}
    (member : other ∈ calls.eraseIdx index) {live : PublishingEvent}
    (otherAttempt : other.phase.attempt = some live) : live.val.id ≠ event.val.id := by
  have distinct := (liveIds_perm found).nodup_iff.mpr single
  rw [liveIds_cons_of_attempt attempt, List.nodup_cons] at distinct
  intro same
  apply distinct.1
  rw [← same]
  exact mem_liveIds member otherAttempt

theorem nodup_liveIds_next (single : (liveIds calls).Nodup) (call : DeliveryCall) :
    (liveIds (calls.eraseIdx index ++ call.next)).Nodup := by
  rw [liveIds_append, DeliveryCall.next, liveIds_pass, List.append_nil]
  exact nodup_liveIds_eraseIdx single index

theorem nodup_liveIds_advance (single : (liveIds calls).Nodup)
    {phase : DeliveryPhase} (attempt : phase.attempt = some event)
    (alone : ∀ other ∈ calls.eraseIdx index, ∀ live,
      other.phase.attempt = some live → live.val.id ≠ event.val.id) :
    (liveIds (calls.eraseIdx index ++ call.advance phase)).Nodup := by
  have advanced : liveIds (call.advance phase) = [event.val.id] := liveIds_cons_of_attempt attempt
  rw [liveIds_append, advanced, List.nodup_append_comm, List.singleton_append, List.nodup_cons]
  refine ⟨?_, nodup_liveIds_eraseIdx single index⟩
  intro member
  obtain ⟨other, otherMem, same⟩ := List.mem_filterMap.mp member
  obtain ⟨live, liveAttempt, liveId⟩ := Option.map_eq_some_iff.mp same
  exact alone other otherMem live liveAttempt liveId

end Calls

section Steps

variable {state : RealtimeState} {index : ℕ} {call : DeliveryCall}

theorem AttemptInvariant.of_same {before after : RealtimeState}
    (invariant : before.AttemptInvariant) (table : after.TableInvariant)
    (events : after.events = before.events)
    (publications : after.publications = before.publications) (single : (liveIds after.calls).Nodup)
    (calls : ∀ call ∈ after.calls, ∀ event, call.phase.attempt = some event → call ∈ before.calls) :
    after.AttemptInvariant where
  table := table
  single := single
  live call member event attempt := by
    unfold keys Stored
    rw [events]
    exact invariant.live call (calls call member event attempt) event attempt
  unpublished call member event startedAt phase := by
    unfold publicationCount
    rw [publications]
    have attempt : call.phase.attempt = some event := by
      rw [phase]
      rfl
    exact invariant.unpublished call (calls call member event attempt) event startedAt phase
  attempts := by
    rw [events]
    exact invariant.attempts
  remaining := by
    rw [events]
    exact invariant.remaining
  counted := by
    unfold publicationCount
    rw [events, publications]
    exact invariant.counted
  known := by
    rw [events, publications]
    exact invariant.known

theorem AttemptInvariant.join (invariant : state.AttemptInvariant)
    (process : ℕ) (events : List RealtimeEvent) (table : { state with
      calls := state.calls ++ DeliveryCall.pass process events }.TableInvariant) :
    { state with
      calls := state.calls ++ DeliveryCall.pass process events }.AttemptInvariant := by
  refine invariant.of_same table rfl rfl ?_ ?_
  · dsimp only
    rw [liveIds_append, liveIds_pass, List.append_nil]
    exact invariant.single
  · intro joined member event attempt
    rcases List.mem_append.mp member with old | new
    · exact old
    · rw [attempt_pass new] at attempt
      cases attempt

theorem AttemptInvariant.insert (invariant : state.AttemptInvariant) {event : RealtimeEvent}
    (fresh : ∀ existing ∈ state.events, ¬ existing.Clashes event) (table : { state with
      events := state.events ++ [event] }.TableInvariant)
    (attempts : event.attempts = 0) :
    { state with events := state.events ++ [event] }.AttemptInvariant := by
  have newId : event.id ∉ state.events.map RealtimeEvent.id := by
    intro known
    obtain ⟨row, member, same⟩ := List.mem_map.mp known
    exact fresh row member (.inl same)
  constructor
  · exact table
  · exact invariant.single
  · intro call member live attempt
    obtain ⟨known, stored⟩ := invariant.live call member live attempt
    refine ⟨?_, ?_⟩
    · unfold keys
      rw [List.map_append]
      exact List.mem_append_left _ known
    · intro row rowMem same
      rcases List.mem_append.mp rowMem with old | new
      · exact stored row old same
      · rw [List.mem_singleton.mp new] at same
        rw [same] at newId
        exact absurd (mem_ids_of_key known) newId
  · exact invariant.unpublished
  · intro row member
    rcases List.mem_append.mp member with old | new
    · exact invariant.attempts row old
    · rw [List.mem_singleton.mp new, attempts]
      exact Nat.zero_le _
  · intro row member selectable positive
    rcases List.mem_append.mp member with old | new
    · exact invariant.remaining row old selectable positive
    · rw [List.mem_singleton.mp new] at positive ⊢
      rw [attempts]
      exact positive
  · intro row member
    rcases List.mem_append.mp member with old | new
    · exact invariant.counted row old
    · rw [List.mem_singleton.mp new]
      have none : state.publicationCount event.id = 0 := by
        rw [publicationCount, List.countP_eq_zero]
        intro wire wireMem
        have known := invariant.known wire wireMem
        intro same
        rw [decide_eq_true_eq] at same
        rw [same] at known
        exact newId known
      exact none.trans_le (Nat.zero_le _)
  · intro wire member
    rw [List.map_append]
    exact List.mem_append_left _ (invariant.known wire member)

/-- What an attempt writes to its row keeps the invariant, when no other
attempt is under way. -/
theorem AttemptInvariant.commit (invariant : state.AttemptInvariant)
    {loaded changed : RealtimeEvent} {calls : List DeliveryCall} (table :
      ((state.commit loaded changed).replaceCall index calls).TableInvariant)
    (single : (liveIds (state.calls.eraseIdx index ++ calls)).Nodup)
    (alone : ∀ other ∈ state.calls.eraseIdx index, ∀ live,
      other.phase.attempt = some live → live.val.id ≠ changed.id)
    (started : ∀ next ∈ calls, ∀ event, next.phase.attempt = some event →
      event.val.key ∈ state.keys ∧ (state.commit loaded changed).Stored event)
    (unpublished : ∀ next ∈ calls, ∀ event startedAt, next.phase = .publishing event startedAt →
        state.publicationCount event.val.id < event.val.attempts)
    (rows : ∀ stored ∈ state.events, stored.id = changed.id →
      stored.attempts ≤ (loaded.withChanges changed stored).attempts ∧
        (loaded.withChanges changed stored).attempts ≤ stored.maxAttempts ∧
        ((loaded.withChanges changed stored).status.selectable = true → 0 < stored.maxAttempts →
            (loaded.withChanges changed stored).attempts < stored.maxAttempts)) :
    ((state.commit loaded changed).replaceCall index calls).AttemptInvariant := by
  have kept : (state.commit loaded changed).keys = state.keys := keys_commit state loaded changed
  constructor
  · exact table
  · exact single
  · intro next member event attempt
    change event.val.key ∈ (state.commit loaded changed).keys ∧
      (state.commit loaded changed).Stored event
    rw [kept]
    rcases List.mem_append.mp member with old | new
    · obtain ⟨known, stored⟩ := invariant.live next (List.mem_of_mem_eraseIdx old) event attempt
      refine ⟨known, ?_⟩
      intro row rowMem same
      obtain ⟨before, beforeMem, ⟨changes, rfl⟩ | ⟨-, rfl⟩⟩ := mem_commitEvent.mp rowMem
      · exact absurd (same.symm.trans changes) (alone next old event attempt)
      · exact stored row beforeMem same
    · exact started next new event attempt
  · intro next member event startedAt phase
    rcases List.mem_append.mp member with old | new
    · exact invariant.unpublished next (List.mem_of_mem_eraseIdx old) event startedAt phase
    · exact unpublished next new event startedAt phase
  · intro row member
    obtain ⟨stored, storedMem, ⟨changes, rfl⟩ | ⟨-, rfl⟩⟩ := mem_commitEvent.mp member
    · exact (rows stored storedMem changes).2.1
    · exact invariant.attempts row storedMem
  · intro row member
    obtain ⟨stored, storedMem, ⟨changes, rfl⟩ | ⟨-, rfl⟩⟩ := mem_commitEvent.mp member
    · exact (rows stored storedMem changes).2.2
    · exact invariant.remaining row storedMem
  · intro row member
    obtain ⟨stored, storedMem, ⟨changes, rfl⟩ | ⟨-, rfl⟩⟩ := mem_commitEvent.mp member
    · exact (invariant.counted stored storedMem).trans (rows stored storedMem changes).1
    · exact invariant.counted row storedMem
  · intro wire member
    change wire.eventId ∈ (state.commit loaded changed).events.map _
    rw [RealtimeState.commit, commitEvent_map _ fun _ _ _ => rfl]
    exact invariant.known wire member

theorem AttemptInvariant.alone_of_fresh (invariant : state.AttemptInvariant)
    {event : RealtimeEvent} (known : event.key ∈ state.keys)
    (selectable : event.status.selectable = true) (fresh : ∀ row ∈ state.events, row.id = event.id →
      row.status = event.status) {other : DeliveryCall} (member : other ∈ state.calls)
    {live : PublishingEvent} (attempt : other.phase.attempt = some live) :
    live.val.id ≠ event.id := by
  intro same
  obtain ⟨row, rowMem, rowId⟩ := List.mem_map.mp (mem_ids_of_key known)
  obtain ⟨-, stored⟩ := invariant.live other member live attempt
  obtain ⟨publishing, -⟩ := stored row rowMem (rowId.trans same.symm)
  rw [fresh row rowMem rowId] at publishing
  rw [publishing] at selectable
  cases selectable

theorem withChanges_attempts_of_eq {loaded changed : RealtimeEvent}
    (same : changed.attempts = loaded.attempts) (stored : RealtimeEvent) :
    (loaded.withChanges changed stored).attempts = stored.attempts :=
  if_pos same

theorem AttemptInvariant.enter (invariant : state.AttemptInvariant)
    (found : state.calls[index]? = some call) (fresh : ∀ event, call.phase = .loaded event →
      ∀ row ∈ state.events, row.id = event.id →
        row.status = event.status ∧ row.attempts = event.attempts ∧ 0 < row.maxAttempts) :
    (state.enter index call).AttemptInvariant := by
  have table := invariant.table.enter found
  rcases enter_cases state index call with same | ⟨event, changed, phase, entry, result⟩ |
    ⟨event, changed, phase, entry, result⟩
  · rw [same]
    exact invariant
  · have loads : event ∈ call.loads := by simp [DeliveryCall.loads, phase]
    obtain ⟨selectable, known⟩ :=
      invariant.table.loaded call (List.mem_of_getElem? found) event loads
    have freshRow := fresh event phase
    obtain ⟨sameId, -⟩ := RealtimeEvent.enter_returned entry
    rw [result] at table ⊢
    apply invariant.commit table (nodup_liveIds_next invariant.single call)
    · intro other member live attempt
      rw [sameId]
      exact invariant.alone_of_fresh known selectable
        (fun row member same => (freshRow row member same).1)
        (List.mem_of_mem_eraseIdx member) attempt
    · intro next member live attempt
      rw [attempt_pass member] at attempt
      cases attempt
    · intro next member live startedAt nextPhase
      have attempt := attempt_pass member
      rw [nextPhase] at attempt
      cases attempt
    · intro stored member same
      have attempts := withChanges_attempts_of_eq
        (RealtimeEvent.enter_returned_attempts entry) stored
      obtain ⟨status, -, -⟩ := freshRow stored member (same.trans sameId)
      rw [attempts]
      refine ⟨le_rfl, invariant.attempts stored member, fun _ => ?_⟩
      apply invariant.remaining stored member
      rw [status]
      exact selectable
  · have loads : event ∈ call.loads := by simp [DeliveryCall.loads, phase]
    obtain ⟨selectable, known⟩ :=
      invariant.table.loaded call (List.mem_of_getElem? found) event loads
    have freshRow := fresh event phase
    obtain ⟨columns, -, -⟩ := RealtimeEvent.enter_publishing entry
    have sameId : changed.val.id = event.id := by rw [columns]
    have attempts : changed.val.attempts = event.attempts + 1 := by rw [columns]
    have written : ∀ stored : RealtimeEvent,
        (event.withChanges changed stored).status = .publishing ∧
          (event.withChanges changed stored).attempts = event.attempts + 1 := by
      intro stored
      refine ⟨?_, ?_⟩
      · rw [withChanges_status_of_ne, changed.property]
        rw [changed.property]
        intro unchanged
        rw [← unchanged] at selectable
        cases selectable
      · rw [← attempts]
        exact if_neg (by omega)
    have others : ∀ other ∈ state.calls.eraseIdx index, ∀ live,
        other.phase.attempt = some live → live.val.id ≠ changed.val.id := by
      intro other member live attempt
      rw [sameId]
      exact invariant.alone_of_fresh known selectable
        (fun row member same => (freshRow row member same).1)
        (List.mem_of_mem_eraseIdx member) attempt
    rw [result] at table ⊢
    apply invariant.commit table (nodup_liveIds_advance invariant.single rfl others) others
    · intro next member live attempt
      rw [DeliveryCall.advance, List.mem_singleton] at member
      rw [member] at attempt
      cases attempt
      refine ⟨?_, ?_⟩
      · have key : changed.val.key = event.key := by
          rw [columns]
          rfl
        rw [key]
        exact known
      · intro row rowMem rowId
        obtain ⟨stored, -, ⟨-, rfl⟩ | ⟨other, rfl⟩⟩ := mem_commitEvent.mp rowMem
        · rw [attempts]
          exact written stored
        · exact absurd rowId other
    · intro next member live startedAt nextPhase
      rw [DeliveryCall.advance, List.mem_singleton] at member
      rw [member] at nextPhase
      cases nextPhase
      obtain ⟨row, rowMem, rowId⟩ := List.mem_map.mp (mem_ids_of_key known)
      obtain ⟨-, rowAttempts, -⟩ := freshRow row rowMem rowId
      have counted := invariant.counted row rowMem
      rw [rowId, rowAttempts, ← sameId] at counted
      omega
    · intro stored member same
      obtain ⟨status, storedAttempts, positive⟩ := freshRow stored member (same.trans sameId)
      have room := invariant.remaining stored member (by rw [status]; exact selectable) positive
      obtain ⟨publishing, more⟩ := written stored
      rw [more, publishing, ← storedAttempts]
      refine ⟨by omega, by omega, ?_⟩
      intro impossible
      cases impossible

theorem AttemptInvariant.advance (invariant : state.AttemptInvariant)
    (found : state.calls[index]? = some call) {event : PublishingEvent}
    (attempt : call.phase.attempt = some event) (phase : DeliveryPhase)
    (same : phase.attempt = some event)
    (past : ∀ live startedAt, phase ≠ .publishing live startedAt) :
    (state.replaceCall index (call.advance phase)).AttemptInvariant := by
  have others : ∀ other ∈ state.calls.eraseIdx index, ∀ live,
      other.phase.attempt = some live → live.val.id ≠ event.val.id :=
    fun _ member _ otherAttempt =>
      ne_of_mem_eraseIdx invariant.single found attempt member otherAttempt
  constructor
  · exact invariant.table.advance found attempt phase same
  · exact nodup_liveIds_advance invariant.single same others
  · intro next member live isLive
    rcases List.mem_append.mp member with old | new
    · exact invariant.live next (List.mem_of_mem_eraseIdx old) live isLive
    · rw [DeliveryCall.advance, List.mem_singleton] at new
      rw [new, same, Option.some.injEq] at isLive
      rw [← isLive]
      exact invariant.live call (List.mem_of_getElem? found) event attempt
  · intro next member live startedAt nextPhase
    rcases List.mem_append.mp member with old | new
    · exact invariant.unpublished next (List.mem_of_mem_eraseIdx old) live startedAt nextPhase
    · rw [DeliveryCall.advance, List.mem_singleton] at new
      rw [new] at nextPhase
      exact absurd nextPhase (past live startedAt)
  · exact invariant.attempts
  · exact invariant.remaining
  · exact invariant.counted
  · exact invariant.known

theorem publicationCount_append (state : RealtimeState) (wire : EventWire) (eventId : ℕ) :
    (state.publications ++ [wire]).countP (fun wire => decide (wire.eventId = eventId)) =
      state.publicationCount eventId + if wire.eventId = eventId then 1 else 0 := by
  rw [List.countP_append, publicationCount]
  by_cases same : wire.eventId = eventId <;> simp [same]

theorem AttemptInvariant.publish (invariant : state.AttemptInvariant)
    (found : state.calls[index]? = some call) (outcome : NetworkOutcome) :
    (state.publish index call outcome).AttemptInvariant := by
  have table := invariant.table.publish found outcome
  rcases publish_cases state index call outcome with
    same | ⟨event, startedAt, phase, result⟩
  · rw [same]
    exact invariant
  · have attempt : call.phase.attempt = some event := by
      rw [phase]
      rfl
    have member := List.mem_of_getElem? found
    have advanced := invariant.advance found attempt (.published event startedAt outcome)
      (DeliveryPhase.attempt_published event startedAt outcome)
      (by cases outcome <;> exact fun _ _ => nofun)
    obtain ⟨known, stored⟩ := invariant.live call member event attempt
    have room := invariant.unpublished call member event startedAt phase
    rcases result with ⟨-, sent⟩ | ⟨-, unsent⟩
    · rw [sent] at table ⊢
      refine ⟨table, advanced.single, advanced.live, ?_, advanced.attempts,
        advanced.remaining, ?_, ?_⟩
      · intro next nextMem live liveStart nextPhase
        have liveAttempt : next.phase.attempt = some live := by
          rw [nextPhase]
          rfl
        change (state.publications ++ [event.val.wire]).countP _ < _
        rw [publicationCount_append, if_neg]
        · exact advanced.unpublished next nextMem live liveStart nextPhase
        · rcases List.mem_append.mp nextMem with old | new
          · exact (ne_of_mem_eraseIdx invariant.single found attempt old liveAttempt).symm
          · rw [DeliveryCall.advance, List.mem_singleton] at new
            rw [new] at nextPhase
            cases outcome <;> cases nextPhase
      · intro row rowMem
        change (state.publications ++ [event.val.wire]).countP _ ≤ _
        rw [publicationCount_append]
        by_cases same : event.val.wire.eventId = row.id
        · have attempts := (stored row rowMem same.symm).2
          have rowId : row.id = event.val.id := same.symm
          rw [if_pos same, attempts, rowId]
          exact room
        · rw [if_neg same]
          exact invariant.counted row rowMem
      · intro wire wireMem
        rcases List.mem_append.mp wireMem with old | new
        · exact invariant.known wire old
        · rw [List.mem_singleton.mp new]
          exact mem_ids_of_key known
    · rw [unsent]
      exact advanced

theorem AttemptInvariant.push (invariant : state.AttemptInvariant)
    (found : state.calls[index]? = some call) (outcome : PushOutcome) :
    (state.push settings index call outcome).AttemptInvariant := by
  have table : (state.push settings index call outcome).TableInvariant :=
    invariant.table.push found outcome
  rcases push_cases settings state index call outcome with
    same | ⟨event, startedAt, recipient, remaining, pushes, phase, pushed⟩
  · rw [same]
    exact invariant
  · have advanced := invariant.advance found
      (show call.phase.attempt = some event by rw [phase]; rfl)
      (.pushed event startedAt remaining outcome)
      (DeliveryPhase.attempt_pushed event startedAt remaining outcome)
      (by rcases outcome with _ | _ | _ <;> exact fun _ _ => nofun)
    rw [pushed] at table ⊢
    exact advanced.of_same table rfl rfl advanced.single fun _ member _ _ => member

theorem AttemptInvariant.settle (invariant : state.AttemptInvariant)
    (found : state.calls[index]? = some call) :
    (state.settle settings index call).AttemptInvariant := by
  have table : (state.settle settings index call).TableInvariant := invariant.table.settle found
  rcases settle_cases settings state index call with same |
    ⟨event, changed, attempt, settles, result⟩
  · rw [same]
    exact invariant
  · obtain ⟨sameId, status⟩ := settles.result
    obtain ⟨known, storedRow⟩ := invariant.live call (List.mem_of_getElem? found) event attempt
    rw [result] at table ⊢
    apply invariant.commit table (nodup_liveIds_next invariant.single call)
    · intro other member live otherAttempt
      rw [sameId]
      exact ne_of_mem_eraseIdx invariant.single found attempt member otherAttempt
    · intro next member live isLive
      rw [attempt_pass member] at isLive
      cases isLive
    · intro next member live startedAt nextPhase
      have none := attempt_pass member
      rw [nextPhase] at none
      cases none
    · intro stored member same
      have rowId : stored.id = event.val.id := same.trans sameId
      obtain ⟨-, attempts⟩ := storedRow stored member rowId
      have key := invariant.table.key_eq known member rowId
      have limit : stored.maxAttempts = event.val.maxAttempts := congrArg (fun key => key.2.2) key
      rw [withChanges_attempts_of_eq settles.attempts stored]
      refine ⟨le_rfl, invariant.attempts stored member, ?_⟩
      intro selectable positive
      have written : (event.val.withChanges changed stored).status = changed.status := by
        apply withChanges_status_of_ne
        rw [event.property]
        exact settles.status_ne
      rw [written] at selectable
      rcases status with status | ⟨status, -⟩ | ⟨-, more⟩
      · rw [status] at selectable
        cases selectable
      · rw [status] at selectable
        cases selectable
      · omega

theorem AttemptInvariant.request (invariant : state.AttemptInvariant)
    (process : ℕ) (entry : QueueEntry) (request : EventRequest) (id random : ℕ) :
    (state.request services settings process entry request id random).AttemptInvariant := by
  have table : (state.request services settings process entry request id random).TableInvariant :=
    invariant.table.request process entry request id random
  unfold RealtimeState.request at table ⊢
  cases queued : queueEvent services settings state.events request state.clock id random with
  | error error => exact invariant
  | ok result =>
    obtain ⟨following, event⟩ := result
    rw [queued] at table
    have inserted : { state with events := following }.AttemptInvariant := by
      rcases queueEvent_cases queued with ⟨same, -⟩ | ⟨added, new, fresh⟩
      · rw [same]
        exact invariant
      · rw [added]
        have attempts : event.attempts = 0 := by
          rw [new]
          rfl
        apply invariant.insert fresh (invariant.table.insert fresh ?_) attempts
        rw [new]
        unfold EventRequest.event
        dsimp only
        split <;> decide
    cases delivers : entry.delivers event.status with
    | true =>
      simp only [delivers, if_true] at table ⊢
      exact inserted.join process [event] table
    | false =>
      simp only [delivers] at table ⊢
      exact inserted

theorem publications_listen (state : RealtimeState) (sent : Bool) :
    (state.listen sent).publications = state.publications := by
  unfold RealtimeState.listen
  split <;> rfl

theorem AttemptInvariant.perform {before : RealtimeState}
    (invariant : before.AttemptInvariant) (action : RealtimeAction)
    (fresh : FreshEntry before action (before.perform services settings action)) :
    (before.perform services settings action).AttemptInvariant := by
  have table : (before.perform services settings action).TableInvariant :=
    invariant.table.perform action
  cases action with
  | request process entry request id random =>
    exact invariant.request process entry request id random
  | pass process rank limit => exact invariant.join process _ table
  | enter index =>
    exact withCall_of invariant fun call found => invariant.enter found (fresh call found)
  | publish index outcome =>
    exact withCall_of invariant fun call found => invariant.publish found outcome
  | push index outcome =>
    exact withCall_of invariant fun call found => invariant.push found outcome
  | settle index => exact withCall_of invariant fun call found => invariant.settle found
  | crash process =>
    refine invariant.of_same table rfl rfl ?_ fun _ member _ _ => List.mem_of_mem_filter member
    exact invariant.single.sublist (List.filter_sublist.filterMap _)
  | wait elapsed =>
    exact invariant.of_same table rfl rfl invariant.single fun _ member _ _ => member
  | listen sent =>
    have same := listen_same before sent
    refine invariant.of_same table same.1 ?_ ?_ ?_
    · exact publications_listen before sent
    · exact same.2.1 ▸ invariant.single
    · exact fun _ member _ _ => same.2.1 ▸ member
  | connect =>
    exact invariant.of_same table rfl rfl invariant.single fun _ member _ _ => member
  | disconnect =>
    exact invariant.of_same table rfl rfl invariant.single fun _ member _ _ => member
  | page limit =>
    unfold RealtimeState.perform RealtimeState.page at table ⊢
    cases isPaging : before.client.paging with
    | none => exact invariant
    | some paging =>
      simp only [isPaging] at table
      exact invariant.of_same table rfl rfl invariant.single fun _ member _ _ => member

end Steps

variable {before : RealtimeState}

theorem deliveredKept_of_events {after : RealtimeState} (table : before.TableInvariant)
    (events : ∀ row ∈ after.events,
      row.id ∈ before.events.map RealtimeEvent.id → row ∈ before.events) :
    before.DeliveredKept after := by
  intro row member delivered following followingMem same
  have known : following.id ∈ before.events.map RealtimeEvent.id :=
    List.mem_map.mpr ⟨row, member, same.symm⟩
  have equal : following = row :=
    List.inj_on_of_nodup_map table.ids (events following followingMem known) member same
  rw [equal]
  exact delivered

theorem deliveredKept_commit {loaded changed : RealtimeEvent} (table : before.TableInvariant)
    (open_ : ∀ row ∈ before.events, row.id = changed.id → row.status ≠ .delivered) :
    before.DeliveredKept (before.commit loaded changed) := by
  intro row member delivered following followingMem same
  obtain ⟨stored, storedMem, written⟩ := mem_commitEvent.mp followingMem
  have storedId : stored.id = row.id := by rcases written with ⟨-, rfl⟩ | ⟨-, rfl⟩ <;> exact same
  have equal : stored = row := List.inj_on_of_nodup_map table.ids storedMem member storedId
  rcases written with ⟨changes, -⟩ | ⟨-, rfl⟩
  · rw [equal] at changes
    exact absurd delivered (open_ row member changes)
  · rw [equal]
    exact delivered

theorem deliveredKept_enter {index : ℕ} {call : DeliveryCall} (invariant : before.AttemptInvariant)
    (found : before.calls[index]? = some call) (fresh : ∀ event, call.phase = .loaded event →
      ∀ row ∈ before.events, row.id = event.id →
        row.status = event.status ∧ row.attempts = event.attempts ∧ 0 < row.maxAttempts) :
    before.DeliveredKept (before.enter index call) := by
  have undelivered : ∀ event changed, call.phase = .loaded event → changed.id = event.id →
        before.DeliveredKept (before.commit event changed) := by
    intro event changed phase sameId
    apply deliveredKept_commit invariant.table
    intro row member same
    have loads : event ∈ call.loads := by simp [DeliveryCall.loads, phase]
    obtain ⟨selectable, -⟩ := invariant.table.loaded call (List.mem_of_getElem? found) event loads
    rw [(fresh event phase row member (same.trans sameId)).1]
    intro delivered
    rw [delivered] at selectable
    cases selectable
  rcases enter_cases before index call with same | ⟨event, changed, phase, entry, result⟩ |
    ⟨event, changed, phase, entry, result⟩
  · rw [same]
    exact deliveredKept_of_events invariant.table fun _ member _ => member
  · rw [result]
    exact undelivered event changed phase (RealtimeEvent.enter_returned entry).1
  · rw [result]
    apply undelivered event changed.val phase
    rw [(RealtimeEvent.enter_publishing entry).1]

theorem deliveredKept_settle {index : ℕ} {call : DeliveryCall} (invariant : before.AttemptInvariant)
    (found : before.calls[index]? = some call) :
    before.DeliveredKept (before.settle settings index call) := by
  rcases settle_cases settings before index call with same |
    ⟨event, changed, attempt, settles, result⟩
  · rw [same]
    exact deliveredKept_of_events invariant.table fun _ member _ => member
  · rw [result]
    have kept : before.DeliveredKept (before.commit event.val changed) := by
      apply deliveredKept_commit invariant.table
      intro row member same
      obtain ⟨-, stored⟩ := invariant.live call (List.mem_of_getElem? found) event attempt
      rw [(stored row member (same.trans settles.result.1)).1]
      decide
    exact kept

theorem deliveredKept_perform (invariant : before.AttemptInvariant) (action : RealtimeAction)
    (fresh : FreshEntry before action (before.perform services settings action)) :
    before.DeliveredKept (before.perform services settings action) := by
  have unchanged : ∀ after : RealtimeState, after.events = before.events →
      before.DeliveredKept after := by
    intro after same
    apply deliveredKept_of_events invariant.table
    intro row member _
    rwa [same] at member
  cases action with
  | request process entry request id random =>
    apply deliveredKept_of_events invariant.table
    intro row member known
    unfold RealtimeState.perform RealtimeState.request at member
    cases queued : queueEvent services settings before.events request before.clock id random with
    | error error =>
      simp only [queued] at member
      exact member
    | ok result =>
      obtain ⟨following, event⟩ := result
      simp only [queued] at member
      rcases queueEvent_cases queued with
        ⟨same, -⟩ | ⟨added, -, fresh⟩
      · rwa [same] at member
      · rw [added] at member
        rcases List.mem_append.mp member with old | new
        · exact old
        · obtain ⟨existing, existingMem, same⟩ := List.mem_map.mp known
          rw [List.mem_singleton.mp new] at same
          exact absurd (.inl same) (fresh existing existingMem)
  | pass process rank limit => exact unchanged _ rfl
  | enter index =>
    exact withCall_of (unchanged before rfl) fun call found =>
      deliveredKept_enter invariant found (fresh call found)
  | publish index outcome =>
    refine withCall_of (unchanged before rfl) fun call _ => ?_
    apply unchanged
    rcases publish_cases before index call outcome with
      same | ⟨event, startedAt, -, ⟨-, result⟩ | ⟨-, result⟩⟩
    · rw [same]
    · rw [result]
      rfl
    · rw [result]
      rfl
  | push index outcome =>
    refine withCall_of (unchanged before rfl) fun call _ => ?_
    apply unchanged
    rcases push_cases settings before index call outcome with
      same | ⟨event, startedAt, recipient, remaining, pushes, -, result⟩
    · rw [same]
    · rw [result]
      rfl
  | settle index =>
    exact withCall_of (unchanged before rfl) fun call found => deliveredKept_settle invariant found
  | crash process => exact unchanged _ rfl
  | wait elapsed => exact unchanged _ rfl
  | listen sent => exact unchanged _ (listen_same before sent).1
  | connect => exact unchanged _ rfl
  | disconnect => exact unchanged _ rfl
  | page limit =>
    apply unchanged
    unfold RealtimeState.perform RealtimeState.page
    dsimp only
    split <;> rfl

theorem AttemptInvariant.empty (clock : ℕ) (client : RealtimeClient) (missed : client.missed = []) :
    ({ clock := clock, client := client } : RealtimeState).AttemptInvariant where
  table := TableInvariant.empty clock client missed
  single := List.nodup_nil
  live call member := by cases member
  unpublished call member := by cases member
  attempts row member := by cases member
  remaining row member := by cases member
  counted row member := by cases member
  known wire member := by cases member

/-- In every run whose calls start from fresh rows, delivered events stay
delivered, and attempts and publications stay within the limit. -/
theorem run_attemptsBounded (clock : ℕ) (applicationId : String)
    (authUserId : ℕ) (actions : List RealtimeAction)
    (fresh : EveryStep (Performs services settings) FreshEntry
      { clock := clock
        client :=
          { applicationId := applicationId, authUserId := authUserId } }
      actions) : EveryStep (Performs services settings)
      (fun before _ after => AttemptsBounded before after)
      { clock := clock
        client :=
          { applicationId := applicationId, authUserId := authUserId } }
      actions := by
  have initial : AttemptInvariant
      { clock := clock
        client :=
          { applicationId := applicationId, authUserId := authUserId } } :=
    AttemptInvariant.empty clock _ rfl
  have preserved : ∀ before action after, AttemptInvariant before →
      Performs services settings before action after →
        FreshEntry before action after → after.AttemptInvariant := by
    intro before action after invariant performs condition
    unfold Performs at performs
    subst performs
    exact invariant.perform action condition
  have bounded : ∀ before action after, AttemptInvariant before →
      Performs services settings before action after → FreshEntry before action after →
          AttemptsBounded before after := by
    intro before action after invariant performs condition
    have following := preserved before action after invariant performs condition
    unfold Performs at performs
    subst performs
    refine ⟨deliveredKept_perform invariant action condition, following.attempts, ?_⟩
    intro row member
    exact (following.counted row member).trans (following.attempts row member)
  exact EveryStep.of_invariant initial preserved bounded fresh

instance (before : RealtimeState) (action : RealtimeAction)
    (after : RealtimeState) : Decidable (FreshEntry before action after) := by
  cases action with
  | enter index =>
    exact decidable_of_iff (∀ call ∈ before.calls[index]?, ∀ event ∈ call.phase.row?,
        ∀ row ∈ before.events, row.id = event.id →
          row.status = event.status ∧ row.attempts = event.attempts ∧ 0 < row.maxAttempts)
      (by simp only [FreshEntry, DeliveryPhase.mem_row?])
  | _ => exact .isTrue trivial

def announcement : EventRequest where
  applicationId := "ithute-tutor"
  eventType := "system.notice"
  version := 1
  priority := .normal
  recipients := []
  payload := { title := none, body := none, route := none, data := none }
  ttlSeconds := 3600
  broadcastConnected := true

def retriedOnce : List RealtimeAction :=
  [.request 0 .platformPublishEvent announcement 1 1, .enter 0,
    .publish 0 (.fails true "redis connection lost"), .settle 0,
    .wait 10000000, .pass 1 id 100, .enter 0, .publish 0 .succeeds, .settle 0]

theorem run_attemptsBounded_retriedOnce : EveryStep (Performs keylessServices {})
      (fun before _ after => AttemptsBounded before after)
      { clock := 0
        client := { applicationId := "ithute-tutor", authUserId := 7 } }
      retriedOnce := by
  apply run_attemptsBounded
  unfold retriedOnce Performs
  simp only [EveryStep.cons_iff]
  refine ⟨?_, ?_, ?_, ?_, ?_, ?_, ?_, ?_, ?_, EveryStep.nil⟩ <;> decide

/-- The worker loads the row before the request commits its attempt. -/
def overlappingCalls : List RealtimeAction :=
  [.request 0 .platformPublishEvent announcement 1 1, .pass 1 id 100,
    .enter 0, .enter 0, .publish 0 .succeeds,
    .publish 0 (.fails false "redis connection lost"), .settle 0]

/-- The delivered event goes back to `retry`. -/
theorem overlappingCalls_undeliver : ¬ EveryStep (Performs keylessServices {})
      (fun before _ after => AttemptsBounded before after)
      { clock := 0
        client := { applicationId := "ithute-tutor", authUserId := 7 } }
      (overlappingCalls ++ [.settle 0]) := by
  intro bounded
  have run := Run.of_foldl (fun state action => perform keylessServices {} state action)
    overlappingCalls
    { clock := 0
      client := { applicationId := "ithute-tutor", authUserId := 7 } }
  have final := bounded overlappingCalls (.settle 0) [] _ _ rfl run rfl
  have delivered := final.delivered _ List.mem_cons_self rfl _ List.mem_cons_self rfl
  cases delivered

end RealtimeState

end Ithute
