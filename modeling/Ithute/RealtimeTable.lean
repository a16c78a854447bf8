import Ithute.RealtimeRuns

/-!
# The event table along runs

Rows are told apart by their identifiers and cursors, calls hold rows of the
table, and no event returns to the queue once it has left it.
-/

namespace Ithute

open TransitionRuns

def RealtimeEvent.key (event : RealtimeEvent) : ℕ × ℕ × ℕ :=
  (event.id, event.expiresAt, event.maxAttempts)

def DeliveryCall.loads (call : DeliveryCall) : List RealtimeEvent :=
  match call.phase with
  | .loaded event => event :: call.waiting
  | _ => call.waiting

namespace RealtimeState

variable {services : RealtimeServices} {settings : RealtimeSettings}

def keys (state : RealtimeState) : List (ℕ × ℕ × ℕ) := state.events.map RealtimeEvent.key

/-- An attempt of the event has started, or the client has missed it. -/
def Begun (state : RealtimeState) (eventId : ℕ) : Prop :=
  eventId ∈ state.client.missed ∨ state.Processing eventId

def LeftQueue (state : RealtimeState) (eventId : ℕ) : Prop :=
  eventId ∈ state.events.map RealtimeEvent.id ∧
    ∀ row ∈ state.events, row.id = eventId → row.status ≠ .queued

/-- The events of `left` have left the queue at an earlier moment of the run. -/
structure TableInvariant (state : RealtimeState) (left : ℕ → Prop := fun _ => False) : Prop where
  ids : (state.events.map RealtimeEvent.id).Nodup
  cursors : (state.events.map RealtimeEvent.cursor).Nodup
  loaded : ∀ call ∈ state.calls, ∀ event ∈ call.loads,
    event.status.selectable = true ∧ event.key ∈ state.keys
  begun : ∀ eventId, state.Begun eventId → state.LeftQueue eventId
  stays : ∀ eventId, left eventId → state.LeftQueue eventId
  expired : ∀ row ∈ state.events, row.status = .expired → row.expiresAt ≤ state.clock

theorem TableInvariant.empty (clock : ℕ) (client : RealtimeClient) (missed : client.missed = []) :
    ({ clock := clock, client := client } : RealtimeState).TableInvariant where
  ids := List.nodup_nil
  cursors := List.nodup_nil
  loaded call member := by cases member
  begun eventId begun := by
    rcases begun with wasMissed | ⟨call, member, -⟩
    · dsimp only at wasMissed
      rw [missed] at wasMissed
      cases wasMissed
    · cases member
  stays _ was := was.elim
  expired row member := by cases member

variable {left : ℕ → Prop}

theorem TableInvariant.of_same {before after : RealtimeState}
    (table : before.TableInvariant left) (events : after.events = before.events)
    (calls : ∀ call ∈ after.calls, call ∈ before.calls) (missed : ∀ eventId ∈ after.client.missed,
      eventId ∈ before.client.missed)
    (clock : before.clock ≤ after.clock) : after.TableInvariant left where
  ids := by
    rw [events]
    exact table.ids
  cursors := by
    rw [events]
    exact table.cursors
  loaded call member event loads := by
    rw [keys, events]
    exact table.loaded call (calls call member) event loads
  begun eventId begun := by
    unfold LeftQueue
    rw [events]
    apply table.begun eventId
    rcases begun with wasMissed | ⟨call, member, attempt⟩
    · exact .inl (missed eventId wasMissed)
    · exact .inr ⟨call, calls call member, attempt⟩
  stays eventId was := by
    unfold LeftQueue
    rw [events]
    exact table.stays eventId was
  expired row member status := by
    rw [events] at member
    exact (table.expired row member status).trans clock

variable {state : RealtimeState} {index : ℕ} {call : DeliveryCall}

theorem TableInvariant.replaceCall {calls : List DeliveryCall} (table : state.TableInvariant left)
    (found : state.calls[index]? = some call)
    (loads : ∀ next ∈ calls, ∀ event ∈ next.loads, event ∈ call.loads)
    (attempts : ∀ next ∈ calls, ∀ event, next.phase.attempt = some event →
      state.LeftQueue event.val.id) : (state.replaceCall index calls).TableInvariant left where
  ids := table.ids
  cursors := table.cursors
  loaded next member event isLoaded := by
    rcases mem_of_mem_replaceCall member with old | new
    · exact table.loaded next old event isLoaded
    · exact table.loaded call (List.mem_of_getElem? found) event (loads next new event isLoaded)
  begun eventId begun := by
    rcases begun with missed | processing
    · exact table.begun eventId (.inl missed)
    · rcases processing_of_replaceCall processing with
        old | ⟨next, new, event, attempt, same⟩
      · exact table.begun eventId (.inr old)
      · exact same ▸ attempts next new event attempt
  stays := table.stays
  expired := table.expired

theorem keys_commit (state : RealtimeState) (loaded changed : RealtimeEvent) :
    (state.commit loaded changed).keys = state.keys :=
  commitEvent_map _ (fun _ _ _ => rfl) loaded changed state.events

theorem LeftQueue.commit {loaded changed : RealtimeEvent} {eventId : ℕ}
    (left : state.LeftQueue eventId) (status : changed.status ≠ .queued) :
    (state.commit loaded changed).LeftQueue eventId := by
  refine ⟨?_, ?_⟩
  · rw [RealtimeState.commit, commitEvent_map _ fun _ _ _ => rfl]
    exact left.1
  · intro row member same
    obtain ⟨stored, storedMem, ⟨-, rfl⟩ | ⟨-, rfl⟩⟩ := mem_commitEvent.mp member
    · rcases withChanges_status loaded changed stored with new | old
      · rwa [new]
      · rw [old]
        exact left.2 stored storedMem same
    · exact left.2 row storedMem same

theorem TableInvariant.commit {loaded changed : RealtimeEvent} (table : state.TableInvariant left)
    (status : changed.status ≠ .queued) (expired : changed.status = .expired →
      ∀ row ∈ state.events, row.id = changed.id → row.expiresAt ≤ state.clock) :
    (state.commit loaded changed).TableInvariant left where
  ids := by
    rw [RealtimeState.commit, commitEvent_map _ fun _ _ _ => rfl]
    exact table.ids
  cursors := by
    rw [RealtimeState.commit, commitEvent_map _ fun _ _ _ => rfl]
    exact table.cursors
  loaded call member event loads := by
    rw [keys_commit]
    exact table.loaded call member event loads
  begun eventId begun := (table.begun eventId begun).commit status
  stays eventId was := (table.stays eventId was).commit status
  expired row member isExpired := by
    obtain ⟨stored, storedMem, ⟨same, rfl⟩ | ⟨-, rfl⟩⟩ := mem_commitEvent.mp member
    · rcases withChanges_status loaded changed stored with new | old
      · exact expired (new ▸ isExpired) stored storedMem same
      · exact table.expired stored storedMem (old ▸ isExpired)
    · exact table.expired row storedMem isExpired

variable {event : RealtimeEvent}

theorem mem_loads_pass {process : ℕ} {events : List RealtimeEvent}
    (member : call ∈ DeliveryCall.pass process events)
    (loads : event ∈ call.loads) : event ∈ events := by
  cases events with
  | nil => cases member
  | cons first waiting =>
    rw [DeliveryCall.pass, List.mem_singleton] at member
    rw [member] at loads
    exact loads

theorem attempt_pass {process : ℕ} {events : List RealtimeEvent}
    (member : call ∈ DeliveryCall.pass process events) :
    call.phase.attempt = none := by
  cases events with
  | nil => cases member
  | cons first waiting =>
    rw [DeliveryCall.pass, List.mem_singleton] at member
    rw [member]
    rfl

theorem mem_loads_of_mem_waiting (member : event ∈ call.waiting) : event ∈ call.loads := by
  unfold DeliveryCall.loads
  split
  · exact List.mem_cons_of_mem _ member
  · exact member

theorem mem_loads_next {next : DeliveryCall}
    (member : next ∈ call.next) (loads : event ∈ next.loads) : event ∈ call.loads :=
  mem_loads_of_mem_waiting (mem_loads_pass member loads)

theorem TableInvariant.join {state : RealtimeState} (table : state.TableInvariant left) (process : ℕ)
    {events : List RealtimeEvent} (loads : ∀ event ∈ events, event.status.selectable = true ∧
      event.key ∈ state.keys) :
    { state with
      calls := state.calls ++ DeliveryCall.pass process events }.TableInvariant left where
  ids := table.ids
  cursors := table.cursors
  loaded call member event isLoaded := by
    rcases List.mem_append.mp member with old | new
    · exact table.loaded call old event isLoaded
    · exact loads event (mem_loads_pass new isLoaded)
  begun eventId begun := by
    rcases begun with missed | ⟨call, member, event, attempt, same⟩
    · exact table.begun eventId (.inl missed)
    · rcases List.mem_append.mp member with old | new
      · exact table.begun eventId (.inr ⟨call, old, event, attempt, same⟩)
      · rw [attempt_pass new] at attempt
        cases attempt
  stays := table.stays
  expired := table.expired

theorem TableInvariant.insert {state : RealtimeState}
    {event : RealtimeEvent} (table : state.TableInvariant left)
    (fresh : ∀ existing ∈ state.events, ¬ existing.Clashes event)
    (status : event.status ≠ .expired) :
    { state with events := state.events ++ [event] }.TableInvariant left := by
  have newId : event.id ∉ state.events.map RealtimeEvent.id := by
    intro known
    obtain ⟨row, member, same⟩ := List.mem_map.mp known
    exact fresh row member (.inl same)
  have newCursor : event.cursor ∉ state.events.map RealtimeEvent.cursor := by
    intro known
    obtain ⟨row, member, same⟩ := List.mem_map.mp known
    exact fresh row member (.inr (.inl same))
  have stays (eventId : ℕ) (was : state.LeftQueue eventId) :
      { state with events := state.events ++ [event] }.LeftQueue eventId := by
    refine ⟨?_, ?_⟩
    · rw [List.map_append]
      exact List.mem_append_left _ was.1
    · intro row member same
      rcases List.mem_append.mp member with old | new
      · exact was.2 row old same
      · rw [List.mem_singleton.mp new] at same
        rw [same] at newId
        exact absurd was.1 newId
  constructor
  · rw [List.map_append, List.map_singleton,
      List.nodup_append_comm, List.singleton_append, List.nodup_cons]
    exact ⟨newId, table.ids⟩
  · rw [List.map_append, List.map_singleton,
      List.nodup_append_comm, List.singleton_append, List.nodup_cons]
    exact ⟨newCursor, table.cursors⟩
  · intro call member loaded loads
    obtain ⟨selectable, known⟩ := table.loaded call member loaded loads
    refine ⟨selectable, ?_⟩
    unfold keys
    rw [List.map_append]
    exact List.mem_append_left _ known
  · exact fun eventId begun => stays eventId (table.begun eventId begun)
  · exact fun eventId was => stays eventId (table.stays eventId was)
  · intro row member isExpired
    rcases List.mem_append.mp member with old | new
    · exact table.expired row old isExpired
    · rw [List.mem_singleton.mp new] at isExpired
      exact absurd isExpired status

theorem mem_keys (member : event ∈ state.events) : event.key ∈ state.keys :=
  List.mem_map_of_mem member

theorem selectable_of_delivers {entry : QueueEntry} {status : EventStatus}
    (delivers : entry.delivers status = true) : status.selectable = true := by
  cases entry <;> cases status <;> first | rfl | cases delivers

theorem TableInvariant.request (table : state.TableInvariant left) (process : ℕ) (entry : QueueEntry)
    (request : EventRequest) (id random : ℕ) :
    (state.request services settings process entry request id random).TableInvariant left := by
  unfold RealtimeState.request
  split
  · exact table
  · rename_i following event queued
    have queuedTable :
        { state with events := following }.TableInvariant left ∧ event ∈ following := by
      rcases queueEvent_cases queued with ⟨same, found⟩ | ⟨added, new, fresh⟩
      · rw [same]
        exact ⟨table, mem_of_existing found⟩
      · rw [added]
        refine ⟨table.insert fresh ?_, by simp⟩
        rw [new]
        unfold EventRequest.event
        dsimp only
        split <;> decide
    split
    · rename_i delivers
      apply queuedTable.1.join process
      intro loaded member
      rw [List.mem_singleton.mp member]
      exact ⟨selectable_of_delivers delivers, mem_keys queuedTable.2⟩
    · exact queuedTable.1

theorem TableInvariant.pass
    (table : state.TableInvariant left) (process : ℕ) (rank : ℕ → ℕ) (limit : ℕ) :
    (state.perform services settings (.pass process rank limit)).TableInvariant left := by
  apply table.join process
  intro event member
  have due := List.mem_of_mem_take member
  rw [List.mem_insertionSort, List.mem_filter, Bool.and_eq_true] at due
  exact ⟨due.2.1, mem_keys due.1⟩

theorem TableInvariant.key_eq (table : state.TableInvariant left) {row : RealtimeEvent}
    (known : event.key ∈ state.keys) (member : row ∈ state.events)
    (same : row.id = event.id) : row.key = event.key := by
  obtain ⟨stored, storedMem, columns⟩ := List.mem_map.mp known
  have storedId : stored.id = event.id := congrArg Prod.fst columns
  have equal : row = stored :=
    List.inj_on_of_nodup_map table.ids member storedMem (same.trans storedId.symm)
  rw [equal]
  exact columns

theorem mem_ids_of_key
    (known : event.key ∈ state.keys) : event.id ∈ state.events.map RealtimeEvent.id := by
  obtain ⟨row, member, columns⟩ := List.mem_map.mp known
  exact List.mem_map.mpr ⟨row, member, congrArg Prod.fst columns⟩

theorem TableInvariant.enter
    (table : state.TableInvariant left) (found : state.calls[index]? = some call) :
    (state.enter index call).TableInvariant left := by
  rcases enter_cases state index call with same | ⟨event, changed, phase, entry, result⟩ |
    ⟨event, changed, phase, entry, result⟩
  · rw [same]
    exact table
  · have loads : event ∈ call.loads := by simp [DeliveryCall.loads, phase]
    obtain ⟨-, known⟩ := table.loaded call (List.mem_of_getElem? found) event loads
    obtain ⟨sameId, status⟩ := RealtimeEvent.enter_returned entry
    have committed : (state.commit event changed).TableInvariant left := by
      apply table.commit
      · rcases status with ⟨status, -⟩ | ⟨status, -⟩ <;> simp [status]
      · intro isExpired row member same
        rcases status with ⟨-, expired⟩ | ⟨scheduled, -⟩
        · have columns := table.key_eq known member (same.trans sameId)
          have expiresAt : row.expiresAt = event.expiresAt := congrArg (fun key => key.2.1) columns
          rw [expiresAt]
          exact expired
        · rw [scheduled] at isExpired
          cases isExpired
    rw [result]
    apply committed.replaceCall found
    · exact fun next member event loads => mem_loads_next member loads
    · intro next member attempt live
      rw [attempt_pass member] at live
      cases live
  · have loads : event ∈ call.loads := by simp [DeliveryCall.loads, phase]
    obtain ⟨selectable, known⟩ := table.loaded call (List.mem_of_getElem? found) event loads
    obtain ⟨columns, -, -⟩ := RealtimeEvent.enter_publishing entry
    have sameId : changed.val.id = event.id := by rw [columns]
    have committed : (state.commit event changed.val).TableInvariant left := by
      apply table.commit
      · rw [changed.property]
        decide
      · intro isExpired
        rw [changed.property] at isExpired
        cases isExpired
    rw [result]
    apply committed.replaceCall found
    · intro next member waiting waits
      rw [DeliveryCall.advance, List.mem_singleton] at member
      rw [member] at waits
      exact mem_loads_of_mem_waiting waits
    · intro next member attempt live
      rw [DeliveryCall.advance, List.mem_singleton] at member
      rw [member] at live
      cases live
      refine ⟨?_, ?_⟩
      · rw [RealtimeState.commit, commitEvent_map _ fun _ _ _ => rfl, sameId]
        exact mem_ids_of_key known
      · intro row rowMem rowId
        obtain ⟨stored, -, ⟨-, rfl⟩ | ⟨other, rfl⟩⟩ := mem_commitEvent.mp rowMem
        · -- the loaded status was selectable, so `publishing` is written
          have changes : changed.val.status ≠ event.status := by
            rw [changed.property]
            intro unchanged
            rw [← unchanged] at selectable
            cases selectable
          rw [withChanges_status_of_ne changes, changed.property]
          decide
        · exact absurd rowId other

theorem TableInvariant.advance (table : state.TableInvariant left)
    (found : state.calls[index]? = some call) {event : PublishingEvent}
    (attempt : call.phase.attempt = some event) (phase : DeliveryPhase)
    (same : phase.attempt = some event) :
    (state.replaceCall index (call.advance phase)).TableInvariant left := by
  apply table.replaceCall found
  · intro next member waiting waits
    rw [DeliveryCall.advance, List.mem_singleton] at member
    rw [member] at waits
    apply mem_loads_of_mem_waiting
    cases phase with
    | loaded loaded => cases same
    | publishing event startedAt => exact waits
    | pushing event startedAt remaining => exact waits
    | failed event error => exact waits
  · intro next member live isLive
    rw [DeliveryCall.advance, List.mem_singleton] at member
    rw [member] at isLive
    rw [same, Option.some.injEq] at isLive
    rw [← isLive]
    exact table.begun event.val.id (.inr ⟨call, List.mem_of_getElem? found, event, attempt, rfl⟩)

theorem TableInvariant.publish (table : state.TableInvariant left)
    (found : state.calls[index]? = some call) (outcome : NetworkOutcome) :
    (state.publish index call outcome).TableInvariant left := by
  rcases publish_cases state index call outcome with
    same | ⟨event, startedAt, phase, result⟩
  · rw [same]
    exact table
  · have attempt : call.phase.attempt = some event := by
      rw [phase]
      rfl
    have advanced := table.advance found attempt (.published event startedAt outcome)
      (DeliveryPhase.attempt_published event startedAt outcome)
    rcases result with ⟨-, sent⟩ | ⟨-, unsent⟩
    · rw [sent]
      refine ⟨advanced.ids, advanced.cursors, advanced.loaded, ?_, advanced.stays, advanced.expired⟩
      intro eventId begun
      rcases begun with missed | processing
      · unfold RealtimeClient.miss at missed
        dsimp only at missed
        split at missed
        · exact advanced.begun eventId (.inl missed)
        · rcases List.mem_append.mp missed with earlier | now
          · exact advanced.begun eventId (.inl earlier)
          · rw [List.mem_singleton.mp now]
            exact table.begun event.val.id
              (.inr ⟨call, List.mem_of_getElem? found, event, attempt, rfl⟩)
      · exact advanced.begun eventId (.inr processing)
    · rw [unsent]
      exact advanced

theorem TableInvariant.push (table : state.TableInvariant left)
    (found : state.calls[index]? = some call) (outcome : PushOutcome) :
    (state.push settings index call outcome).TableInvariant left := by
  rcases push_cases settings state index call outcome with
    same | ⟨event, startedAt, recipient, remaining, pushes, phase, pushed⟩
  · rw [same]
    exact table
  · have advanced := table.advance found (show call.phase.attempt = some event by rw [phase]; rfl)
      (.pushed event startedAt remaining outcome)
      (DeliveryPhase.attempt_pushed event startedAt remaining outcome)
    rw [pushed]
    exact advanced.of_same rfl (fun _ member => member) (fun _ member => member) le_rfl

theorem TableInvariant.settle {state : RealtimeState} {index : ℕ}
    {call : DeliveryCall} (table : state.TableInvariant left)
    (found : state.calls[index]? = some call) :
    (state.settle settings index call).TableInvariant left := by
  rcases settle_cases settings state index call with same |
    ⟨event, changed, attempt, settles, result⟩
  · rw [same]
    exact table
  · have committed : (state.commit event.val changed).TableInvariant left := by
      apply table.commit
      · rcases settles.result.2 with status | ⟨status, -⟩ | ⟨status, -⟩ <;>
          simp [status]
      · intro isExpired
        rcases settles.result.2 with status | ⟨status, -⟩ | ⟨status, -⟩
        all_goals
          rw [status] at isExpired
          cases isExpired
    rw [result]
    apply committed.replaceCall found
    · exact fun next member event loads => mem_loads_next member loads
    · intro next member live isLive
      rw [attempt_pass member] at isLive
      cases isLive

theorem missed_of_disconnect (client : RealtimeClient) :
    ∀ eventId ∈ client.disconnect.missed, eventId ∈ client.missed := by
  intro eventId missed
  unfold RealtimeClient.disconnect at missed
  split at missed
  · cases missed
  · exact missed

theorem listen_same (state : RealtimeState) (sent : Bool) :
    (state.listen sent).events = state.events ∧ (state.listen sent).calls = state.calls ∧
      (∀ eventId ∈ (state.listen sent).client.missed, eventId ∈ state.client.missed) ∧
      state.clock ≤ (state.listen sent).clock := by
  unfold RealtimeState.listen
  split
  · exact ⟨rfl, rfl, fun _ missed => missed, le_rfl⟩
  · refine ⟨rfl, rfl, ?_, le_rfl⟩
    unfold RealtimeClient.receive
    dsimp only
    split
    · split
      · exact fun _ missed => missed
      · exact missed_of_disconnect state.client
    · exact fun _ missed => missed

theorem TableInvariant.perform {before : RealtimeState}
    (table : before.TableInvariant left) (action : RealtimeAction) :
    (before.perform services settings action).TableInvariant left := by
  have kept {index : ℕ} {step : DeliveryCall → RealtimeState}
      (stepped : ∀ call, before.calls[index]? = some call → (step call).TableInvariant left) :
      (before.withCall index step).TableInvariant left :=
    @withCall_of _ _ (fun state => state.TableInvariant left) _ table stepped
  cases action with
  | wait elapsed =>
    exact table.of_same rfl (fun _ member => member) (fun _ member => member) (Nat.le_add_right _ _)
  | request process entry request id random => exact table.request process entry request id random
  | pass process rank limit => exact table.pass process rank limit
  | enter index => exact kept fun call found => table.enter found
  | publish index outcome => exact kept fun call found => table.publish found outcome
  | push index outcome => exact kept fun call found => table.push found outcome
  | settle index => exact kept fun call found => table.settle found
  | crash process =>
    exact table.of_same rfl (fun _ member => List.mem_of_mem_filter member)
      (fun _ member => member) le_rfl
  | listen sent =>
    have same := listen_same before sent
    exact table.of_same same.1 (fun _ member => same.2.1 ▸ member) same.2.2.1 same.2.2.2
  | connect =>
    refine table.of_same rfl (fun _ member => member) ?_ le_rfl
    intro eventId missed
    unfold RealtimeState.perform RealtimeClient.connect at missed
    dsimp only at missed
    split at missed <;> exact missed
  | disconnect =>
    refine table.of_same rfl (fun _ member => member) ?_ le_rfl
    exact missed_of_disconnect before.client
  | page limit =>
    unfold RealtimeState.perform RealtimeState.page
    dsimp only
    split
    · exact table
    · exact table.of_same rfl (fun _ member => member) (fun _ member => member) le_rfl

theorem TableInvariant.run {before : RealtimeState} (table : before.TableInvariant left)
    (actions : List RealtimeAction) :
    (actions.foldl (RealtimeState.perform services settings) before).TableInvariant left := by
  induction actions generalizing before with
  | nil => exact table
  | cons action actions ih => exact ih (table.perform action)

/-- What the table keeps at one moment of a run and until a later one. -/
structure TableKept (first second : RealtimeState) : Prop where
  ids : (first.events.map RealtimeEvent.id).Nodup
  cursors : (first.events.map RealtimeEvent.cursor).Nodup
  begun : ∀ eventId, first.Begun eventId → first.LeftQueue eventId
  stays : ∀ eventId, first.LeftQueue eventId → second.LeftQueue eventId
  expired : ∀ row ∈ first.events, row.status = .expired → row.expiresAt ≤ first.clock

/-- The state that a run from an empty table has reached. -/
def reached (services : RealtimeServices) (settings : RealtimeSettings) (clock : ℕ)
    (applicationId : String) (authUserId : ℕ) (actions : List RealtimeAction) : RealtimeState :=
  actions.foldl (RealtimeState.perform services settings)
    { clock := clock
      client := { applicationId := applicationId, authUserId := authUserId } }

/-- At every two moments of a run: identifiers and cursors are distinct, no
event expires early, one that has been attempted or that the client has missed
has left the queue, and what has left the queue never returns. -/
theorem run_tableKept (clock : ℕ) (applicationId : String) (authUserId : ℕ)
    (front back : List RealtimeAction) :
    TableKept (reached services settings clock applicationId authUserId front)
      (reached services settings clock applicationId authUserId (front ++ back)) := by
  have table : (reached services settings clock applicationId authUserId front).TableInvariant :=
    (TableInvariant.empty clock _ rfl).run front
  unfold reached at table ⊢
  rw [List.foldl_append]
  generalize front.foldl (RealtimeState.perform services settings) _ = first at table ⊢
  have now : first.TableInvariant first.LeftQueue := { table with stays := fun _ was => was }
  exact ⟨table.ids, table.cursors, table.begun, (now.run back).stays, table.expired⟩

end RealtimeState

end Ithute
