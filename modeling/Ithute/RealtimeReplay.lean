import Ithute.RealtimeTable

/-!
# What a reconnecting client replays

A cursor is given when an event is queued, and the event may be published
much later.  Replay after the greatest received cursor then skips it, and a
page also skips an event whose status has left the replayable ones.
-/

namespace Ithute

open KeysetPaging TransitionRuns

namespace RealtimeState

variable {services : RealtimeServices} {settings : RealtimeSettings}

/-- An unexpired event for the client was published while it was away. -/
def AwaitsReplay (state : RealtimeState) (event : RealtimeEvent) : Prop :=
  event.id ∈ state.client.missed ∧ state.client.addressed event = true ∧
    state.clock < event.expiresAt

/-- Paging until a page is empty returns every event that awaits it. -/
def ReplayComplete (before : RealtimeState) (action : RealtimeAction) (_ : RealtimeState) : Prop :=
  match action with
  | .page limit =>
    ∀ paging ∈ before.client.paging, before.replayPage paging limit = [] →
        ∀ event ∈ before.events, before.AwaitsReplay event → event.id ∈ paging.returned
  | _ => True

/-- The page reads up to the event: the rows before it leave room. -/
def PageReaches (state : RealtimeState) (paging : ReplayPaging) (limit : ℕ)
    (event : RealtimeEvent) : Prop :=
  paging.position < event.cursor ∧ rowsBetween RealtimeEvent.cursor paging.position event.cursor
      (replayRows state.events state.client.applicationId
        state.client.authUserId state.clock) < limit

/-- Nothing hides an event that awaits replay: the client reconnects with no
cursor at or above its own, and a page that reaches it does not find it
scheduled again or dead. -/
def ReplayUnobstructed (before : RealtimeState) (action : RealtimeAction)
    (_ : RealtimeState) : Prop :=
  match action with
  | .connect =>
    before.client.connected = false → ∀ event ∈ before.events, before.AwaitsReplay event →
        ∀ cursor ∈ before.client.received, cursor < event.cursor
  | .page limit =>
    ∀ paging ∈ before.client.paging, ∀ event ∈ before.events, before.AwaitsReplay event →
        before.PageReaches paging limit event →
          event.status ≠ .scheduled ∧ event.status ≠ .deadLetter
  | _ => True

/-- A client that pages has every awaited event behind it or ahead. -/
structure ClientInvariant (state : RealtimeState) : Prop where
  away : state.client.connected = false → state.client.paging = none
  ahead : ∀ paging, state.client.paging = some paging →
    ∀ row ∈ state.events, state.AwaitsReplay row →
      row.id ∈ paging.returned ∨ paging.position < row.cursor

variable {state : RealtimeState}

theorem ClientInvariant.of_not_paging
    (idle : state.client.paging = none) : state.ClientInvariant where
  away _ := idle
  ahead paging isPaging := by
    rw [idle] at isPaging
    cases isPaging

/-- Rows that await replay after a step that leaves the client alone awaited
it before. -/
theorem ClientInvariant.of_rows {before after : RealtimeState} (client : before.ClientInvariant)
    (same : after.client = before.client) (rows : ∀ row ∈ after.events, after.AwaitsReplay row →
      ∃ stored ∈ before.events, before.AwaitsReplay stored ∧
        stored.id = row.id ∧ stored.cursor = row.cursor) : after.ClientInvariant where
  away := by
    rw [same]
    exact client.away
  ahead paging isPaging row member awaits := by
    rw [same] at isPaging
    obtain ⟨stored, storedMem, storedAwaits, sameId, sameCursor⟩ := rows row member awaits
    rw [← sameId, ← sameCursor]
    exact client.ahead paging isPaging stored storedMem storedAwaits

theorem ClientInvariant.commit (client : state.ClientInvariant) (loaded changed : RealtimeEvent) :
    (state.commit loaded changed).ClientInvariant := by
  refine client.of_rows rfl ?_
  intro row member awaits
  obtain ⟨stored, storedMem, ⟨-, rfl⟩ | ⟨-, rfl⟩⟩ := mem_commitEvent.mp member
  · exact ⟨stored, storedMem, awaits, rfl, rfl⟩
  · exact ⟨row, storedMem, awaits, rfl, rfl⟩

theorem ClientInvariant.replaceCall
    (client : state.ClientInvariant) (index : ℕ) (calls : List DeliveryCall) :
    (state.replaceCall index calls).ClientInvariant :=
  ⟨client.away, client.ahead⟩

theorem ClientInvariant.request (client : state.ClientInvariant) (table : state.TableInvariant)
    (process : ℕ) (entry : QueueEntry) (request : EventRequest) (id random : ℕ) :
    (state.request services settings process entry request id random).ClientInvariant := by
  unfold RealtimeState.request
  split
  · exact client
  · rename_i following event queued
    refine client.of_rows rfl ?_
    intro row member awaits
    rcases queueEvent_cases queued with ⟨same, -⟩ | ⟨added, new, fresh⟩
    · rw [same] at member
      exact ⟨row, member, awaits, rfl, rfl⟩
    · rw [added] at member
      rcases List.mem_append.mp member with old | new
      · exact ⟨row, old, awaits, rfl, rfl⟩
      · -- a missed event is already in the table
        obtain ⟨known, -⟩ := table.begun row.id (.inl awaits.1)
        obtain ⟨existing, existingMem, same⟩ := List.mem_map.mp known
        rw [List.mem_singleton.mp new] at same
        exact absurd (.inl same) (fresh existing existingMem)

theorem ClientInvariant.publish
    (client : state.ClientInvariant) (index : ℕ) (call : DeliveryCall) (outcome : NetworkOutcome) :
    (state.publish index call outcome).ClientInvariant := by
  rcases publish_cases state index call outcome with
    same | ⟨event, startedAt, -, ⟨-, sent⟩ | ⟨-, unsent⟩⟩
  · rw [same]
    exact client
  · rw [sent]
    cases connected : state.client.connected with
    | true =>
      apply client.of_rows
      · simp [RealtimeClient.miss, connected]
      · intro row member awaits
        refine ⟨row, member, ?_, rfl, rfl⟩
        simpa [AwaitsReplay, RealtimeClient.miss, connected, RealtimeState.replaceCall] using awaits
    | false =>
      apply ClientInvariant.of_not_paging
      simpa [RealtimeClient.miss, connected] using client.away connected
  · rw [unsent]
    exact client.replaceCall index _

theorem ClientInvariant.push
    (client : state.ClientInvariant) (index : ℕ) (call : DeliveryCall) (outcome : PushOutcome) :
    (state.push settings index call outcome).ClientInvariant := by
  rcases push_cases settings state index call outcome with
    same | ⟨event, startedAt, recipient, remaining, pushes, -, pushed⟩
  · rw [same]
    exact client
  · rw [pushed]
    exact ⟨client.away, client.ahead⟩

theorem ClientInvariant.enter (client : state.ClientInvariant) (index : ℕ) (call : DeliveryCall) :
    (state.enter index call).ClientInvariant := by
  rcases enter_cases state index call with
    same | ⟨event, changed, -, -, result⟩ | ⟨event, changed, -, -, result⟩
  · rw [same]
    exact client
  · rw [result]
    exact (client.commit event changed).replaceCall index _
  · rw [result]
    exact (client.commit event changed).replaceCall index _

theorem ClientInvariant.settle {state : RealtimeState}
    (client : state.ClientInvariant) (index : ℕ) (call : DeliveryCall) :
    (state.settle settings index call).ClientInvariant := by
  rcases settle_cases settings state index call with
    same | ⟨event, changed, -, -, result⟩
  · rw [same]
    exact client
  · rw [result]
    exact (client.commit event changed).replaceCall index _

theorem ClientInvariant.disconnect (client : state.ClientInvariant) :
    { state with client := state.client.disconnect }.ClientInvariant := by
  apply ClientInvariant.of_not_paging
  unfold RealtimeClient.disconnect
  dsimp only
  cases connected : state.client.connected with
  | true => rfl
  | false => simpa [connected] using client.away connected

theorem ClientInvariant.listen
    (client : state.ClientInvariant) (sent : Bool) : (state.listen sent).ClientInvariant := by
  unfold RealtimeState.listen
  split
  · exact client
  · unfold RealtimeClient.receive
    split
    · split
      · exact ⟨client.away, client.ahead⟩
      · have gone := client.disconnect
        exact ⟨gone.away, gone.ahead⟩
    · exact ⟨client.away, client.ahead⟩

theorem ClientInvariant.connect (client : state.ClientInvariant)
    (below : state.client.connected = false → ∀ event ∈ state.events, state.AwaitsReplay event →
        ∀ cursor ∈ state.client.received, cursor < event.cursor) :
    { state with client := state.client.connect }.ClientInvariant := by
  unfold RealtimeClient.connect
  cases connected : state.client.connected with
  | true => exact client
  | false =>
    constructor
    · intro disconnected
      cases disconnected
    · intro paging isPaging row member awaits
      cases isPaging
      right
      rw [WithBot.lt_def]
      cases greatest : state.client.received.maximum with
      | bot => simp
      | coe cursor =>
        right
        refine ⟨cursor, row.cursor, ?_, rfl, rfl⟩
        exact below connected row member awaits cursor (List.maximum_mem greatest)

theorem TableInvariant.distinctCursors (table : state.TableInvariant) :
    (replayRows state.events state.client.applicationId
      state.client.authUserId state.clock).Pairwise
        fun first second => first.cursor ≠ second.cursor :=
  (List.pairwise_map.mp table.cursors).filter _

variable {event : RealtimeEvent}

theorem TableInvariant.mem_replayRows (table : state.TableInvariant)
    (member : event ∈ state.events) (awaits : state.AwaitsReplay event)
    (visible : event.status ≠ .scheduled ∧ event.status ≠ .deadLetter) :
    event ∈ replayRows state.events state.client.applicationId
      state.client.authUserId state.clock := by
  obtain ⟨missed, addressed, unexpired⟩ := awaits
  have left : event.status ≠ .queued := (table.begun event.id (.inl missed)).2 event member rfl
  have alive : event.status ≠ .expired := by
    intro expired
    have late := table.expired event member expired
    omega
  have replayable : event.status.replayable = true := by
    cases status : event.status with
    | queued => exact absurd status left
    | scheduled => exact absurd status visible.1
    | deadLetter => exact absurd status visible.2
    | expired => exact absurd status alive
    | publishing => rfl
    | retry => rfl
    | delivered => rfl
  unfold RealtimeClient.addressed at addressed
  rw [Bool.and_eq_true, decide_eq_true_eq, decide_eq_true_eq] at addressed
  unfold replayRows
  rw [List.mem_filter, decide_eq_true_eq]
  exact ⟨member, addressed.1, addressed.2, unexpired, replayable⟩

theorem TableInvariant.mem_replayPage
    (table : state.TableInvariant) {paging : ReplayPaging} {limit : ℕ}
    (member : event ∈ state.events) (awaits : state.AwaitsReplay event)
    (visible : event.status ≠ .scheduled ∧ event.status ≠ .deadLetter)
    (reaches : state.PageReaches paging limit event) : event ∈ state.replayPage paging limit :=
  mem_pageAfter_of_few table.distinctCursors
    (table.mem_replayRows member awaits visible) reaches.1 reaches.2

theorem ClientInvariant.page
    (client : state.ClientInvariant) (table : state.TableInvariant) (limit : ℕ)
    (visible : ∀ paging, state.client.paging = some paging →
      ∀ event ∈ state.events, state.AwaitsReplay event → state.PageReaches paging limit event →
          event.status ≠ .scheduled ∧ event.status ≠ .deadLetter) :
    (state.page limit).ClientInvariant := by
  unfold RealtimeState.page
  cases isPaging : state.client.paging with
  | none => exact client
  | some paging =>
    by_cases empty : (state.replayPage paging limit).isEmpty = true
    · apply ClientInvariant.of_not_paging
      simp [RealtimeClient.turnPage, empty]
    · constructor
      · intro disconnected
        have idle := client.away disconnected
        rw [isPaging] at idle
        cases idle
      · intro next isNext row member awaits
        simp only [RealtimeClient.turnPage, empty] at isNext
        cases isNext
        dsimp only
        rw [List.mem_append]
        rcases client.ahead paging isPaging row member awaits with
          behind | ahead
        · exact .inl (.inl behind)
        · by_cases reaches : state.PageReaches paging limit row
          · left
            right
            have shown := visible paging isPaging row member awaits reaches
            exact List.mem_map_of_mem (table.mem_replayPage member awaits shown reaches)
          · right
            apply nextPosition_lt_of_many ahead
            unfold PageReaches at reaches
            push Not at reaches
            exact reaches ahead

theorem replayComplete_page
    (client : state.ClientInvariant) (table : state.TableInvariant) (limit : ℕ+)
    (visible : ∀ paging, state.client.paging = some paging →
      ∀ event ∈ state.events, state.AwaitsReplay event → state.PageReaches paging limit event →
          event.status ≠ .scheduled ∧ event.status ≠ .deadLetter)
    {paging : ReplayPaging} (isPaging : state.client.paging = some paging)
    (empty : state.replayPage paging limit = [])
    (member : event ∈ state.events) (awaits : state.AwaitsReplay event) :
    event.id ∈ paging.returned := by
  rcases client.ahead paging isPaging event member awaits with
    behind | ahead
  · exact behind
  · have reaches : state.PageReaches paging limit event :=
      ⟨ahead, rowsBetween_lt_of_pageAfter_eq_nil limit.pos empty⟩
    have shown := visible paging isPaging event member awaits reaches
    have onPage := table.mem_replayPage member awaits shown reaches
    rw [empty] at onPage
    cases onPage

structure ReplayInvariant (state : RealtimeState) : Prop where
  table : state.TableInvariant
  client : state.ClientInvariant

theorem ReplayInvariant.perform {before : RealtimeState}
    (invariant : before.ReplayInvariant) (action : RealtimeAction)
    (unobstructed : ReplayUnobstructed before action (before.perform services settings action)) :
    (before.perform services settings action).ReplayInvariant := by
  obtain ⟨table, client⟩ := invariant
  refine ⟨table.perform action, ?_⟩
  cases action with
  | wait elapsed =>
    refine client.of_rows rfl ?_
    intro row member awaits
    obtain ⟨missed, addressed, unexpired⟩ := awaits
    have earlier : before.clock ≤ (before.perform services settings (.wait elapsed)).clock :=
        Nat.le_add_right _ _
    exact ⟨row, member, ⟨missed, addressed, earlier.trans_lt unexpired⟩, rfl, rfl⟩
  | request process entry request id random =>
    exact client.request table process entry request id random
  | pass process rank limit => exact ⟨client.away, client.ahead⟩
  | enter index => exact withCall_of client fun call _ => client.enter index call
  | publish index outcome =>
    exact withCall_of client fun call _ => client.publish index call outcome
  | push index outcome => exact withCall_of client fun call _ => client.push index call outcome
  | settle index => exact withCall_of client fun call _ => client.settle index call
  | crash process => exact ⟨client.away, client.ahead⟩
  | listen sent => exact client.listen sent
  | connect => exact client.connect unobstructed
  | disconnect => exact client.disconnect
  | page limit => exact client.page table limit unobstructed

/-- In every run whose steps hide no awaited event, paging to an empty page
returns every unexpired event that was published while the client was
away. -/
theorem run_replayComplete (clock : ℕ) (applicationId : String)
    (authUserId : ℕ) (actions : List RealtimeAction)
    (unobstructed : EveryStep (Performs services settings) ReplayUnobstructed
      { clock := clock
        client :=
          { applicationId := applicationId, authUserId := authUserId } }
      actions) : EveryStep (Performs services settings) ReplayComplete
      { clock := clock
        client :=
          { applicationId := applicationId, authUserId := authUserId } }
      actions := by
  have initial : ReplayInvariant
      { clock := clock
        client :=
          { applicationId := applicationId, authUserId := authUserId } } :=
    ⟨TableInvariant.empty clock _ rfl, ClientInvariant.of_not_paging rfl⟩
  have preserved : ∀ before action after, ReplayInvariant before →
      Performs services settings before action after →
        ReplayUnobstructed before action after → after.ReplayInvariant := by
    intro before action after invariant performs condition
    unfold Performs at performs
    subst performs
    exact invariant.perform action condition
  have complete : ∀ before action after, ReplayInvariant before →
      Performs services settings before action after → ReplayUnobstructed before action after →
          ReplayComplete before action after := by
    intro before action after invariant _ condition
    cases action with
    | page limit =>
      intro paging isPaging empty event member awaits
      exact replayComplete_page invariant.client invariant.table limit
        condition isPaging empty member awaits
    | _ => trivial
  exact EveryStep.of_invariant initial preserved complete unobstructed

instance (state : RealtimeState) (event : RealtimeEvent) : Decidable (state.AwaitsReplay event) :=
  inferInstanceAs (Decidable (_ ∧ _ ∧ _))

instance (state : RealtimeState) (paging : ReplayPaging) (limit : ℕ) (event : RealtimeEvent) :
    Decidable (state.PageReaches paging limit event) :=
  inferInstanceAs (Decidable (_ ∧ _))

instance (before : RealtimeState) (action : RealtimeAction) (after : RealtimeState) :
    Decidable (ReplayUnobstructed before action after) :=
  match action with
  | .connect => inferInstanceAs (Decidable (_ → ∀ _ ∈ _, _ → ∀ _ ∈ _, _))
  | .page _ => inferInstanceAs (Decidable (∀ _ ∈ _, ∀ _ ∈ _, _ → _ → _))
  | .wait _ | .request _ _ _ _ _ | .pass _ _ _ | .enter _ | .publish _ _
  | .push _ _ | .settle _ | .crash _ | .listen _ | .disconnect => .isTrue trivial

def paymentUpdate (deliverAt : Option RequestedTime) : EventRequest where
  applicationId := "ithute-pay"
  eventType := "payment.updated"
  version := 1
  priority := .high
  recipients := [7]
  payload := { title := none, body := none, route := none, data := none }
  ttlSeconds := 3600
  deliverAt := deliverAt

def readBack : List RealtimeAction :=
  [.request 0 .platformPublishEvent (paymentUpdate none) 1 1, .enter 0,
    .publish 0 .succeeds, .settle 0, .connect, .page 5, .page 5]

theorem run_replayComplete_readBack : EveryStep (Performs keylessServices {}) ReplayComplete
      { clock := 0
        client := { applicationId := "ithute-pay", authUserId := 7 } }
      readBack := by
  apply run_replayComplete
  unfold readBack Performs
  simp only [EveryStep.cons_iff]
  refine ⟨?_, ?_, ?_, ?_, ?_, ?_, ?_, EveryStep.nil⟩ <;> decide

/-- An event waits for its time while a later one reaches the client, and is
published once the client has gone. -/
def scheduledBeforeLive : List RealtimeAction :=
  [.connect, .request 0 .platformPublishEvent
      (paymentUpdate (some ⟨10000000, "1970-01-01T00:00:10+00:00"⟩)) 1 1, .wait 1000000,
    .request 0 .platformPublishEvent (paymentUpdate none) 2 2, .enter 0,
    .publish 0 .succeeds, .listen true, .settle 0, .disconnect,
    .wait 9000000, .pass 1 id 100, .enter 0, .publish 0 .succeeds, .settle 0, .connect]

/-- Replay after the cursor of the later event never returns it. -/
theorem scheduledBeforeLive_incomplete : ¬ EveryStep (Performs keylessServices {}) ReplayComplete
      { clock := 0
        client := { applicationId := "ithute-pay", authUserId := 7 } }
      (scheduledBeforeLive ++ [.page 500]) := by
  intro complete
  have run := Run.of_foldl (fun state action => perform keylessServices {} state action)
    scheduledBeforeLive
    { clock := 0
      client := { applicationId := "ithute-pay", authUserId := 7 } }
  have final := complete scheduledBeforeLive (.page 500) [] _ _ rfl run rfl
  have returned := final _ rfl rfl _ List.mem_cons_self (by decide)
  cases returned

end RealtimeState

end Ithute
