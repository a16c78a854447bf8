import Ithute.PushMessageCommits
import Ithute.PushRevocation

/-!
# Workers side by side

Passes of the worker hold different deliveries, but the message of two
deliveries may be the same.  A pass that ends the last open delivery of a
message while it has read that of another pass as open leaves the message
with a status that nothing changes again.
-/

namespace Ithute.Push

open TransitionRuns

def PushCall.pass? : PushCall → Option WorkerPass
  | .workerPass pass => some pass
  | _ => none

def PushOutcome.pass? : PushOutcome → Option WorkerPass
  | .continues call => call.pass?
  | .responds _ => none

namespace PushState

def passes (state : PushState) : List WorkerPass := state.calls.filterMap PushCall.pass?

variable {state after : PushState} {action : PushAction}

theorem locked_eq (state : PushState) :
    state.locked = state.passes.flatMap fun pass => pass.rows.map Delivery.id := by
  unfold locked passes
  induction state.calls with
  | nil => rfl
  | cons call calls ih =>
    rw [List.flatMap_cons, ih]
    cases call <;> rfl

theorem resume_passes (result : PushState × PushOutcome) :
    (resume result).1.passes = result.1.passes ++ result.2.pass?.toList := by
  unfold resume passes
  cases result.2 with
  | responds response => exact (List.append_nil _).symm
  | continues call =>
    dsimp only [PushOutcome.pass?]
    rw [List.filterMap_append]
    cases call <;> rfl

theorem dropCall_passes {index : ℕ} {call : PushCall} (found : state.calls[index]? = some call) :
    state.passes.Perm (call.pass?.toList ++ (state.dropCall index).passes) := by
  obtain ⟨within, rfl⟩ := List.getElem?_eq_some_iff.mp found
  have apart := (List.getElem_cons_eraseIdx_perm within).symm.filterMap PushCall.pass?
  rw [List.filterMap_cons] at apart
  cases isPass : (state.calls[index]).pass? with
  | none =>
    rw [isPass] at apart
    exact apart
  | some pass =>
    rw [isPass] at apart
    exact apart

/-- A pass that `run_once` begins: its rows are open, and no other pass has
locked them. -/
structure Begins (state : PushState) (pass : WorkerPass) : Prop where
  fresh : pass = { remaining := pass.remaining }
  stored : pass.remaining.Subperm state.deliveries
  rows : ∀ row ∈ pass.remaining, row.status.ended = false ∧ row.id ∉ state.locked

/-- A step that leaves the messages and the deliveries alone. -/
inductive QuietStep (state after : PushState) : Prop
  | drops (gone : List WorkerPass) (passes : state.passes.Perm (gone ++ after.passes))
  | begins (pass : WorkerPass) (begins : state.Begins pass)
      (passes : after.passes = state.passes ++ [pass])
  | moves (pass next : WorkerPass) (rest : List WorkerPass) (moved : Moved state pass next)
      (before : state.passes.Perm (pass :: rest)) (passes : after.passes = rest ++ [next])

def Idle (state : PushState) (action : PushAction) : Prop :=
  ∀ pass, state.advanced? action = some (.workerPass pass) →
    PushCall.commits (.workerPass pass) = false

/-- What a step does to the messages and to the passes of the worker. -/
inductive WorkerStep (state : PushState) (action : PushAction) (after : PushState) : Prop
  | quiet (idle : state.Idle action) (messages : after.messages = state.messages)
      (deliveries : after.deliveries = state.deliveries) (step : state.QuietStep after)
  | inserts (message : Message) (rows : List Delivery) (idle : state.Idle action)
      (inserted : state.Inserted message rows after) (passes : state.passes.Perm after.passes)
  | commits (pass : WorkerPass) (advanced : state.advanced? action = some (.workerPass pass))
      (commits : PushCall.commits (.workerPass pass) = true)
      (committed : state.CommittedBy pass after) (passes : state.passes.Perm (pass :: after.passes))

section Steps

variable (services : PushServices) (settings : PushSettings)

theorem answered_keys (item : Delivery) (now : ℕ) (outcome : ProviderOutcome) :
    (item.answered settings now outcome).id = item.id ∧
      (item.answered settings now outcome).messageId = item.messageId := by
  unfold Delivery.answered
  cases outcome with
  | retryable text =>
    dsimp only
    split <;> exact ⟨rfl, rfl⟩
  | unexpected typeName =>
    dsimp only
    split <;> exact ⟨rfl, rfl⟩
  | _ => exact ⟨rfl, rfl⟩

variable {pass : WorkerPass}

theorem begins_runOnce {rank : ℕ → ℕ}
    (begins : (state.runOnce rank).2.pass? = some pass) : state.Begins pass := by
  unfold runOnce at begins
  cases due : state.dueDeliveries rank with
  | nil =>
    rw [due] at begins
    cases begins
  | cons first rest =>
    rw [due] at begins
    cases begins
    rw [← due]
    unfold dueDeliveries
    refine ⟨rfl, ?_, ?_⟩
    · exact (List.take_sublist _ _).subperm.trans
        ((List.perm_insertionSort _ _).subperm.trans List.filter_sublist.subperm)
    · intro row member
      have sorted := (List.perm_insertionSort _ _).mem_iff.mp (List.mem_of_mem_take member)
      obtain ⟨isOpen, -, free⟩ := of_decide_eq_true (List.mem_filter.mp sorted).2
      refine ⟨?_, free⟩
      rcases isOpen with queued | retry
      · rw [queued]
        rfl
      · rw [retry]
        rfl

theorem loadsMessage {pass next : WorkerPass} {message : Message} {messageId : ℕ}
    (stored : message ∈ state.messages) (isMessage : message.id = messageId)
    (messages : next.messages = if pass.knows message.id then pass.messages
      else pass.messages ++ [(message.id, message.status)]) :
    LoadsMessage state pass next messageId ∧ next.knows messageId = true := by
  subst isMessage
  cases known : pass.knows message.id with
  | true =>
    rw [known, if_pos rfl] at messages
    have same : next.knows = pass.knows := by
      unfold WorkerPass.knows
      rw [messages]
    rw [same]
    exact ⟨⟨fun entry member => .inl (messages ▸ member), fun _ isKnown => same ▸ isKnown⟩, known⟩
  | false =>
    rw [known, if_neg Bool.false_ne_true] at messages
    have knows (other : ℕ) : next.knows other =
        (pass.knows other || decide (message.id = other)) := by
      unfold WorkerPass.knows
      rw [messages, List.any_append]
      simp
    refine ⟨⟨?_, ?_⟩, ?_⟩
    · intro entry member
      rw [messages] at member
      rcases List.mem_append.mp member with old | new
      · exact .inl old
      · rw [List.mem_singleton.mp new]
        exact .inr ⟨message, stored, rfl, rfl⟩
    · intro other isKnown
      rw [knows, isKnown]
      rfl
    · rw [knows, decide_eq_true rfl, Bool.or_true]

theorem moved_settle {pass known : WorkerPass} {item changed : Delivery}
    (rows : pass.rows = pass.settled ++ item :: known.remaining)
    (keys : changed.id = item.id ∧ changed.messageId = item.messageId)
    (settled : known.settled = pass.settled) (collections : known.collections = pass.collections)
    (statuses : known.statuses = pass.statuses)
    (loads : LoadsMessage state pass known item.messageId)
    (knows : pass.sending = some item ∨ known.knows item.messageId = true) :
    Moved state pass (known.settle state.deliveries changed) := by
  have collection : known.collection state.deliveries changed.messageId =
      pass.collection state.deliveries item.messageId := by
    unfold WorkerPass.collection
    rw [collections, keys.2]
  refine .settles ⟨⟨pass.settled, known.remaining, rows, ?_⟩, keys.1, keys.2⟩
    ⟨loads.entries, loads.kept⟩ knows rfl ?_ ?_ ?_
  · change known.settled ++ [changed] ++ [] ++ known.remaining = _
    rw [settled, List.append_nil, List.append_assoc]
    rfl
  · exact congrArg (· ++ [changed]) settled
  · change (changed.messageId, known.collection state.deliveries changed.messageId) ::
      known.collections = _
    rw [collection, collections, keys.2]
  · change (changed.messageId, messageStatus
      ((known.collection state.deliveries changed.messageId).map _)) :: known.statuses = _
    rw [collection, statuses, keys.2]
    rfl

variable {index : ℕ} {next : WorkerPass}

theorem moved_take {item : Delivery} {rest : List Delivery}
    (sending : pass.sending = none) (remaining : pass.remaining = item :: rest)
    (continues : ((state.dropCall index).takeDelivery pass item rest).2.pass? = some next) :
    Moved state pass next := by
  have rows : pass.rows = pass.settled ++ item :: rest := by
    unfold WorkerPass.rows
    rw [sending, remaining, Option.toList_none, List.append_nil]
  unfold takeDelivery at continues
  dsimp only at continues
  split at continues
  · rename_i message endpoint found loaded
    have isMessage : message.id = item.messageId := by simpa using List.find?_some found
    have stored : message ∈ state.messages := List.mem_of_find?_eq_some found
    split at continues
    · cases continues
      refine moved_settle rows ⟨rfl, rfl⟩ rfl rfl rfl ?_ (.inr ?_)
      · exact (loadsMessage stored isMessage rfl).1
      · exact (@loadsMessage _ pass _ _ _ stored isMessage rfl).2
    · split at continues
      · cases continues
        refine moved_settle rows ⟨rfl, rfl⟩ rfl rfl rfl ?_ (.inr ?_)
        · exact (loadsMessage stored isMessage rfl).1
        · exact (@loadsMessage _ pass _ _ _ stored isMessage rfl).2
      · cases continues
        refine @Moved.sends _ _ _ item { item with attempts := item.attempts + 1 }
          ⟨⟨pass.settled, rest, rows, ?_⟩, rfl, rfl⟩ ?_ ?_ rfl rfl rfl rfl rfl
        · exact List.append_assoc _ _ _
        · exact (loadsMessage stored isMessage rfl).1
        · exact (@loadsMessage _ pass _ _ _ stored isMessage rfl).2
  · cases continues

theorem moved_answer {item : Delivery}
    {outcome : ProviderOutcome} (sending : pass.sending = some item)
    (continues : ((state.dropCall index).answerDelivery settings pass item outcome).2.pass? =
      some next) : Moved state pass next := by
  have rows : pass.rows = pass.settled ++ item :: pass.remaining := by
    unfold WorkerPass.rows
    rw [sending, Option.toList_some, List.append_assoc]
    rfl
  have keys := answered_keys settings item state.clock outcome
  unfold answerDelivery at continues
  dsimp only at continues
  split at continues
  · cases continues
    exact @moved_settle _ pass { pass with invalid := item.endpointId :: pass.invalid } _ _ rows keys
      rfl rfl rfl ⟨fun _ member => .inl member, fun _ known => known⟩ (.inl sending)
  · cases continues
    exact moved_settle rows keys rfl rfl rfl
      ⟨fun _ member => .inl member, fun _ known => known⟩ (.inl sending)

theorem moved_advance {outcome : ProviderOutcome}
    (continues : ((state.dropCall index).advancePass settings pass outcome).2.pass? = some next) :
    Moved state pass next := by
  unfold advancePass at continues
  split at continues
  · rename_i item sending
    exact moved_answer settings sending continues
  · rename_i item rest sending remaining
    exact moved_take sending remaining continues
  · cases continues

variable {call : PushCall}

theorem advance_pass?_none (before : PushState) (input : StepInput) (isOther : call.pass? = none) :
    (before.advance services settings input call).2.pass? = none := by
  cases call with
  | workerPass pass => cases isOther
  | eventLoaded read endpoints =>
    unfold advance commitLifecycle
    dsimp only
    split <;> rfl
  | deviceAccount registration =>
    unfold advance checkApplication
    dsimp only
    split <;> rfl
  | deviceApplication registration =>
    unfold advance checkSession
    dsimp only
    split <;> rfl
  | deviceReady registration endpoint duplicates =>
    unfold advance commitDevice
    cases endpoint with
    | none =>
      dsimp only
      split <;> rfl
    | some loaded =>
      dsimp only
      split <;> rfl
  | messageSelected queued endpoints =>
    unfold advance commitMessage existingResponse
    dsimp only
    repeat' split
    all_goals rfl
  | _ => rfl

theorem commitMessage_inserts (queued : QueueRequest) (endpoints : List PushEndpoint) (newId : ℕ)
    (deliveryIds : ℕ → ℕ) :
    (state.commitMessage services queued endpoints newId deliveryIds).1 = state ∨
      ∃ message rows, state.Inserted message rows
        (state.commitMessage services queued endpoints newId deliveryIds).1 := by
  unfold commitMessage
  dsimp only
  split
  · refine .inl ?_
    repeat' split
    all_goals rfl
  · rename_i fresh
    split
    · rename_i newRows
      refine .inr ⟨_, _, rfl, rfl, ?_, newRows, ?_, ?_, ?_⟩
      · intro row member same
        exact fresh ⟨row, member, .inl same⟩
      · intro row member
        unfold newDeliveries at member
        obtain ⟨entry, -, made⟩ := List.mem_map.mp member
        rw [← made]
        exact ⟨rfl, rfl⟩
      · intro empty
        unfold newDeliveries at empty
        rw [List.map_eq_nil_iff, List.zipIdx_eq_nil_iff] at empty
        exact if_pos empty
      · unfold newMessage
        dsimp only
        split <;> rfl
    · exact .inl rfl

theorem quiet_resume {before : PushState} {result : PushState × PushOutcome}
    (isState : result.1.passes = before.passes) (isOther : result.2.pass? = none) :
    before.QuietStep (resume result).1 := by
  refine .drops [] ?_
  rw [resume_passes, isOther, isState, Option.toList_none, List.append_nil]
  exact List.Perm.refl _

theorem resume_messages (result : PushState × PushOutcome) :
    (resume result).1.messages = result.1.messages := by
  unfold resume
  split <;> rfl

theorem advance_messages (before : PushState) (input : StepInput) (isOther : call.pass? = none) :
    ((before.advance services settings input call).1.messages = before.messages ∧
        (before.advance services settings input call).1.deliveries = before.deliveries) ∨
      ∃ message rows, before.Inserted message rows
        (before.advance services settings input call).1 := by
  cases commits : call.commits with
  | false =>
    rw [advance_rest services settings before input commits]
    exact .inl ⟨rfl, rfl⟩
  | true =>
    cases call with
    | workerPass pass => cases isOther
    | eventLoaded read endpoints =>
      refine .inl ?_
      unfold advance commitLifecycle
      dsimp only
      split
      · exact ⟨rfl, rfl⟩
      · cases read.subject <;> exact ⟨rfl, rfl⟩
    | deviceReady registration endpoint duplicates =>
      refine .inl ?_
      unfold advance commitDevice
      cases endpoint with
      | none =>
        dsimp only
        split <;> exact ⟨rfl, rfl⟩
      | some loaded => exact ⟨rfl, rfl⟩
    | messageSelected queued endpoints =>
      rcases commitMessage_inserts services queued endpoints input.newId input.deliveryIds
        with same | inserts
      · refine .inl ?_
        unfold advance
        dsimp only
        rw [same]
        exact ⟨rfl, rfl⟩
      · exact .inr inserts
    | _ => cases commits

theorem pass_workerStep {input : StepInput}
    (found : state.calls[index]? = some (.workerPass pass)) :
    state.WorkerStep (.advance index input)
      (resume ((state.dropCall index).advance services settings input (.workerPass pass))).1 := by
  have passes := dropCall_passes found
  cases commits : PushCall.commits (.workerPass pass) with
  | true =>
    obtain ⟨sending, remaining⟩ := PushCall.commits_workerPass commits
    have isCommit : (state.dropCall index).advance services settings input (.workerPass pass) =
        (state.dropCall index).commitPass pass := by
      unfold advance advancePass
      dsimp only
      rw [sending, remaining]
    rw [isCommit]
    exact .commits pass found commits ⟨rfl, rfl⟩ passes
  | false =>
    have idle : state.Idle (.advance index input) := by
      intro other advanced
      cases found.symm.trans advanced
      exact commits
    have rest := advance_rest services settings (state.dropCall index) input commits
    refine .quiet idle ?_ ?_ ?_
    · rw [resume_messages, rest]
      rfl
    · rw [resume_deliveries, rest]
      rfl
    · have after := resume_passes
        ((state.dropCall index).advance services settings input (.workerPass pass))
      rw [rest] at after
      cases continues :
          ((state.dropCall index).advance services settings input (.workerPass pass)).2.pass? with
      | none =>
        rw [continues, Option.toList_none, List.append_nil] at after
        refine .drops [pass] ?_
        rw [after]
        exact passes
      | some next =>
        rw [continues] at after
        exact .moves pass next _ (moved_advance settings continues) passes after

theorem received_workerStep {result : PushState × PushOutcome} (idle : state.Idle action)
    (same : result.1 = state ∧ result.2.pass? = none) :
    state.WorkerStep action (resume result).1 := by
  refine .quiet idle ?_ ?_ ?_
  · rw [resume_messages, same.1]
  · rw [resume_deliveries, same.1]
  · exact quiet_resume (congrArg passes same.1) same.2

theorem other_workerStep {input : StepInput}
    (found : state.calls[index]? = some call) (isOther : call.pass? = none) :
    state.WorkerStep (.advance index input)
      (resume ((state.dropCall index).advance services settings input call)).1 := by
  have idle : state.Idle (.advance index input) := by
    intro pass advanced
    cases found.symm.trans advanced
    cases isOther
  have before : state.passes.Perm (state.dropCall index).passes := by
    have apart := dropCall_passes found
    rwa [isOther] at apart
  have after : (resume ((state.dropCall index).advance services settings input call)).1.passes =
      (state.dropCall index).passes := by
    rw [resume_passes, advance_pass?_none services settings _ input isOther, Option.toList_none,
      List.append_nil]
    exact congrArg (List.filterMap PushCall.pass?)
      (advance_calls services settings (state.dropCall index) input call)
  rcases advance_messages services settings (state.dropCall index) input isOther with
    same | ⟨message, rows, inserted⟩
  · refine .quiet idle ?_ ?_ (.drops [] (after ▸ before))
    · rw [resume_messages, same.1]
      rfl
    · rw [resume_deliveries, same.2]
      rfl
  · refine .inserts message rows idle ?_ (after ▸ before)
    refine ⟨?_, ?_, inserted.newMessage, inserted.newRows, inserted.ofMessage, inserted.bare,
      inserted.undecided⟩
    · rw [resume_deliveries]
      exact inserted.deliveries
    · rw [resume_messages]
      exact inserted.messages

theorem perform_workerStep (action : PushAction) :
    state.WorkerStep action (state.perform services settings action).1 := by
  have idleElsewhere (none : state.advanced? action = none) : state.Idle action := by
    intro pass advanced
    cases none.symm.trans advanced
  cases action with
  | wait elapsed => exact .quiet (idleElsewhere rfl) rfl rfl (.drops [] (List.Perm.refl _))
  | crash index =>
    refine .quiet (idleElsewhere rfl) rfl rfl ?_
    cases found : state.calls[index]? with
    | none =>
      have same : (state.dropCall index).passes = state.passes := by
        unfold dropCall passes
        rw [List.eraseIdx_of_length_le (List.getElem?_eq_none_iff.mp found)]
      exact .drops [] (same ▸ List.Perm.refl _)
    | some call => exact .drops call.pass?.toList (dropCall_passes found)
  | applyAuthEvent event =>
    apply received_workerStep (idleElsewhere rfl)
    unfold applyAuthEvent
    repeat' split
    all_goals exact ⟨rfl, rfl⟩
  | registerDevice registration =>
    apply received_workerStep (idleElsewhere rfl)
    unfold registerDevice
    split <;> exact ⟨rfl, rfl⟩
  | queueMessage request header =>
    apply received_workerStep (idleElsewhere rfl)
    unfold receiveMessage existingResponse
    dsimp only
    repeat' split
    all_goals exact ⟨rfl, rfl⟩
  | runOnce rank =>
    have same : (state.runOnce rank).1 = state := by
      unfold runOnce
      split <;> rfl
    cases begins : (state.runOnce rank).2.pass? with
    | none => exact received_workerStep (idleElsewhere rfl) ⟨same, begins⟩
    | some pass =>
      have after := resume_passes (state.runOnce rank)
      rw [same, begins] at after
      refine .quiet (idleElsewhere rfl) ?_ ?_ (.begins pass (begins_runOnce begins) after)
      · exact (resume_messages _).trans (congrArg PushState.messages same)
      · exact (resume_deliveries _).trans (congrArg PushState.deliveries same)
  | advance index input =>
    unfold perform
    dsimp only
    split
    · rename_i call found
      cases isPass : call.pass? with
      | none => exact other_workerStep services settings found isPass
      | some pass =>
        cases call with
        | workerPass other => exact pass_workerStep services settings found
        | _ => cases isPass
    · rename_i none
      exact .quiet (idleElsewhere none) rfl rfl (.drops [] (List.Perm.refl _))

end Steps

/-- Between two steps the tables are sound, and passes hold different rows. -/
structure WorkersSound (state : PushState) : Prop where
  tables : MessagesSound state
  locked : (state.passes.flatMap fun pass => pass.rows.map Delivery.id).Nodup
  passes : ∀ pass ∈ state.passes, PassSound state.deliveries pass

theorem statusesOf_congr (deliveries : after.deliveries = state.deliveries) :
    after.statusesOf = state.statusesOf := by
  unfold statusesOf
  rw [deliveries]

theorem StatusesCurrent.congr (current : state.StatusesCurrent)
    (messages : after.messages = state.messages)
    (deliveries : after.deliveries = state.deliveries) : after.StatusesCurrent := by
  unfold StatusesCurrent
  rw [messages, statusesOf_congr deliveries]
  exact current

theorem messagesSound_congr (tables : MessagesSound state)
    (messages : after.messages = state.messages)
    (deliveries : after.deliveries = state.deliveries) : MessagesSound after := by
  refine ⟨?_, ?_, ?_, ?_, ?_⟩
  · exact deliveries ▸ tables.deliveryIds
  · exact messages ▸ tables.messageIds
  · rw [messages, deliveries]
    exact tables.owned
  · rw [messages, statusesOf_congr deliveries]
    exact tables.bare
  · rw [messages, statusesOf_congr deliveries]
    exact tables.final

namespace WorkersSound

theorem of_perm {gone : List WorkerPass} (sound : state.WorkersSound) (tables : MessagesSound after)
    (deliveries : after.deliveries = state.deliveries)
    (passes : state.passes.Perm (gone ++ after.passes)) : after.WorkersSound := by
  have locked := (passes.flatMap_right fun pass => pass.rows.map Delivery.id).nodup_iff.mp
    sound.locked
  rw [List.flatMap_append] at locked
  refine ⟨tables, locked.of_append_right, ?_⟩
  intro pass member
  rw [deliveries]
  exact sound.passes pass (passes.mem_iff.mpr (List.mem_append_right _ member))

theorem begins {pass : WorkerPass} (sound : state.WorkersSound) (tables : MessagesSound after)
    (deliveries : after.deliveries = state.deliveries) (begins : state.Begins pass)
    (passes : after.passes = state.passes ++ [pass]) : after.WorkersSound := by
  have rows : pass.rows = pass.remaining := by
    rw [begins.fresh]
    rfl
  refine ⟨tables, ?_, ?_⟩
  · rw [passes, List.flatMap_append, List.flatMap_singleton, rows]
    refine sound.locked.append ?_ ?_
    · obtain ⟨kept, isKept, part⟩ := begins.stored
      exact (isKept.map Delivery.id).nodup_iff.mp ((part.map Delivery.id).nodup
        sound.tables.deliveryIds)
    · intro id locked own
      rw [← locked_eq] at locked
      obtain ⟨row, rowMem, rfl⟩ := List.mem_map.mp own
      exact (begins.rows row rowMem).2 locked
  · rw [deliveries]
    intro other member
    rw [passes] at member
    rcases List.mem_append.mp member with old | new
    · exact sound.passes other old
    · rw [List.mem_singleton.mp new]
      have held : ∀ row ∈ pass.rows, ∃ stored ∈ state.deliveries, stored.id = row.id ∧
          stored.messageId = row.messageId ∧ stored.status.ended = false := by
        rw [rows]
        exact fun row rowMem =>
          ⟨row, begins.stored.subset rowMem, rfl, rfl, (begins.rows row rowMem).1⟩
      rw [begins.fresh] at held ⊢
      refine ⟨held, ?_, ?_, ?_, ?_, ?_⟩
      · exact fun _ none => absurd none List.not_mem_nil
      · intro item none
        cases none
      · exact fun _ none => absurd none List.not_mem_nil
      · intro messageId entry found
        cases found
      · exact fun _ none => absurd none List.not_mem_nil

theorem moves {pass next : WorkerPass} {rest : List WorkerPass} (sound : state.WorkersSound)
    (tables : MessagesSound after) (deliveries : after.deliveries = state.deliveries)
    (moved : Moved state pass next) (before : state.passes.Perm (pass :: rest))
    (passes : after.passes = rest ++ [next]) : after.WorkersSound := by
  have ids : next.rows.map Delivery.id = pass.rows.map Delivery.id := by
    cases moved with
    | sends rewrites => exact rewrites.ids
    | settles rewrites => exact rewrites.ids
  refine ⟨tables, ?_, ?_⟩
  · have locked := (before.flatMap_right fun pass => pass.rows.map Delivery.id).nodup_iff.mp
      sound.locked
    rw [passes, List.flatMap_append, List.flatMap_singleton, ids]
    rw [List.flatMap_cons] at locked
    exact List.perm_append_comm.nodup_iff.mp locked
  · rw [deliveries]
    intro other member
    rw [passes] at member
    rcases List.mem_append.mp member with old | new
    · exact sound.passes other (before.mem_iff.mpr (List.mem_cons_of_mem _ old))
    · rw [List.mem_singleton.mp new]
      exact (sound.passes pass (before.mem_iff.mpr List.mem_cons_self)).moved sound.tables moved

theorem quiet (sound : state.WorkersSound) (messages : after.messages = state.messages)
    (deliveries : after.deliveries = state.deliveries) (step : state.QuietStep after) :
    after.WorkersSound := by
  have tables := messagesSound_congr sound.tables messages deliveries
  cases step with
  | drops gone passes => exact sound.of_perm tables deliveries passes
  | begins pass begins passes => exact sound.begins tables deliveries begins passes
  | moves pass next rest moved before passes =>
    exact sound.moves tables deliveries moved before passes

theorem committed {pass : WorkerPass} (sound : state.WorkersSound)
    (commits : PushCall.commits (.workerPass pass) = true)
    (committed : state.CommittedBy pass after) (passes : state.passes.Perm (pass :: after.passes)) :
    after.WorkersSound := by
  have locked := (passes.flatMap_right fun pass => pass.rows.map Delivery.id).nodup_iff.mp
    sound.locked
  rw [List.flatMap_cons] at locked
  have own := sound.passes pass (passes.mem_iff.mpr List.mem_cons_self)
  refine ⟨sound.tables.committedBy own commits committed, locked.of_append_right, ?_⟩
  intro other member
  have others := sound.passes other (passes.mem_iff.mpr (List.mem_cons_of_mem _ member))
  refine own.after_commit sound.tables others ?_ committed
  intro row rowMem isOwn
  exact List.disjoint_of_nodup_append locked isOwn
    (List.mem_flatMap.mpr ⟨other, member, List.mem_map_of_mem rowMem⟩)

theorem inserted {message : Message} {rows : List Delivery} (sound : state.WorkersSound)
    (inserted : state.Inserted message rows after) (passes : state.passes.Perm after.passes) :
    after.WorkersSound := by
  refine ⟨sound.tables.inserted inserted, ?_, ?_⟩
  · exact (passes.flatMap_right fun pass => pass.rows.map Delivery.id).nodup_iff.mp sound.locked
  · intro pass member
    exact (sound.passes pass (passes.mem_iff.mpr member)).inserted sound.tables inserted

theorem perform (sound : state.WorkersSound) (step : state.WorkerStep action after) :
    after.WorkersSound := by
  cases step with
  | quiet idle messages deliveries step => exact sound.quiet messages deliveries step
  | inserts message rows idle inserted passes => exact sound.inserted inserted passes
  | commits pass advanced commits committed passes => exact sound.committed commits committed passes

end WorkersSound

theorem Idle.commitsCurrent (idle : state.Idle action) : state.CommitsCurrent action := by
  intro pass advanced commits
  rw [idle pass advanced] at commits
  cases commits

/-- The statuses are right after a step if and only if the step commits no pass
that has read an ended delivery as open. -/
theorem WorkersSound.current_iff (sound : state.WorkersSound) (current : state.StatusesCurrent)
    (step : state.WorkerStep action after) :
    after.StatusesCurrent ↔ state.CommitsCurrent action := by
  cases step with
  | quiet idle messages deliveries step =>
    exact iff_of_true (current.congr messages deliveries) idle.commitsCurrent
  | inserts message rows idle inserted passes =>
    exact iff_of_true (sound.tables.inserted_current current inserted) idle.commitsCurrent
  | commits pass advanced commits committed passes =>
    have own := sound.passes pass (passes.mem_iff.mpr List.mem_cons_self)
    rw [sound.tables.committedBy_current_iff own commits current committed]
    constructor
    · intro condition other isAdvanced _
      cases advanced.symm.trans isAdvanced
      exact condition
    · intro condition
      exact condition pass advanced commits

theorem workersSound_start : WorkersSound {} where
  tables := by
    refine ⟨List.nodup_nil, List.nodup_nil, ?_, ?_, ?_⟩
    · exact fun _ member => absurd member List.not_mem_nil
    · exact fun _ member => absurd member List.not_mem_nil
    · exact fun _ member => absurd member List.not_mem_nil
  locked := List.nodup_nil
  passes := fun _ member => absurd member List.not_mem_nil

/-- The statuses stay right if and only if no commit ends the last open
deliveries of a message in a pass that has read others of them as open. -/
theorem run_statusesCurrent_iff (services : PushServices) (settings : PushSettings)
    (actions : List PushAction) :
    EveryStep (Performs services settings) (fun _ _ after => after.StatusesCurrent) {} actions ↔
      EveryStep (Performs services settings) (fun before action _ => before.CommitsCurrent action)
        {} actions := by
  have start : WorkersSound {} ∧ StatusesCurrent {} :=
    ⟨workersSound_start, fun _ member => absurd member List.not_mem_nil⟩
  refine @EveryStep.iff_of_stronger _ _ _ _ _
    (fun state => state.WorkersSound ∧ state.StatusesCurrent) _ _ start (fun _ both => both.2) ?_ ?_
  · rintro before action after ⟨sound, current⟩ performs condition
    unfold Performs at performs
    subst performs
    have step := @perform_workerStep before services settings action
    exact ⟨sound.perform step, (sound.current_iff current step).mpr condition⟩
  · rintro before action after ⟨sound, current⟩ performs right
    unfold Performs at performs
    subst performs
    have step := @perform_workerStep before services settings action
    exact (sound.current_iff current step).mp right

/-- No two passes ever hold the same delivery, what a pass holds is stored and
open, and a message that has come to its end has ended deliveries only. -/
theorem run_workersApart (services : PushServices) (settings : PushSettings)
    (actions : List PushAction) :
    EveryStep (Performs services settings) (fun _ _ after => after.WorkersSound) {} actions := by
  intro front action back before after split run move
  refine (run.append (.single move)).invariant workersSound_start ?_
  rintro state action following sound rfl
  exact sound.perform (perform_workerStep services settings action)

def tablet : Registration :=
  { phone with request := { phone.request with deviceKey := "tablet", providerEndpoint := "web" } }

def news : MessageRequest := { greeting with ttlSeconds := 3600 }

/-- A message to two devices, which both answer late, one after the other. -/
def retrying : List PushAction :=
  registering ++ [.advance 0 { newId := 10 }, .registerDevice tablet, .advance 0 {}, .advance 0 {},
    .advance 0 {}, .advance 0 {}, .advance 0 { newId := 11 }, .queueMessage news none,
    .advance 0 {}, .advance 0 {}, .advance 0 { newId := 20, deliveryIds := fun index => 30 + index },
    .runOnce id, .advance 0 {}, .advance 0 { outcome := .retryable "busy" }, .wait 1,
    .advance 0 {}, .advance 0 { outcome := .retryable "busy" }, .advance 0 {}]

/-- Two passes each take a delivery, both are sent, and the first is stored. -/
def overlappingPasses : List PushAction :=
  retrying ++ [.wait (60 * microsPerSecond - 1), .runOnce id, .wait 1, .runOnce id, .advance 0 {},
    .advance 0 {}, .advance 0 {}, .advance 0 {}, .advance 0 {}]

/-- Both deliveries have been delivered, and the message is being processed for
ever. -/
theorem overlappingPasses_processing :
    ¬ EveryStep (Performs plainServices {}) (fun _ _ after => after.StatusesCurrent) {}
      (overlappingPasses ++ [.advance 0 {}]) := by
  intro right
  have current := right overlappingPasses (.advance 0 {}) [] _ _ rfl (ended_run overlappingPasses) rfl
  have messages : ((ended overlappingPasses).perform plainServices {} (.advance 0 {})).1.messages.map
      (fun message => (message.id, message.status)) = [(20, .processing)] := by decide
  have statuses : ((ended overlappingPasses).perform plainServices {} (.advance 0 {})).1.statusesOf 20 =
      [.delivered, .delivered] := by decide
  have stored := List.mem_singleton_self (20, MessageStatus.processing)
  rw [← messages] at stored
  obtain ⟨message, member, same⟩ := List.mem_map.mp stored
  obtain ⟨isMessage, processing⟩ := Prod.mk.inj same
  have given := current message member
  rw [isMessage, statuses, processing] at given
  exact absurd (given (by decide)) (by decide)

end PushState

end Ithute.Push
