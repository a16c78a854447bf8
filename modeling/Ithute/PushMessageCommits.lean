import Ithute.PushMessageStatus

/-!
# Commits of the worker

The commit of a pass writes the status that the pass has last given a message.
It is the status of the stored deliveries unless the pass has read, as open, a
delivery that another pass has ended since.
-/

namespace Ithute.Push

namespace PushState

structure CommittedBy (state : PushState) (pass : WorkerPass) (after : PushState) : Prop where
  deliveries : after.deliveries = state.deliveries.map pass.view
  messages : after.messages =
    state.messages.map fun row => { row with status := pass.newStatus row }

structure Inserted (state : PushState) (message : Message) (rows : List Delivery)
    (after : PushState) : Prop where
  deliveries : after.deliveries = state.deliveries ++ rows
  messages : after.messages = state.messages ++ [message]
  newMessage : ∀ row ∈ state.messages, row.id ≠ message.id
  newRows : (rows.map Delivery.id).Nodup ∧ ∀ row ∈ state.deliveries, row.id ∉ rows.map Delivery.id
  ofMessage : ∀ row ∈ rows, row.messageId = message.id ∧ row.status.ended = false
  bare : rows = [] → message.status = .noEndpoints
  undecided : message.status.final = false

end PushState

open Push.PushState

variable {state after : PushState} {pass other : WorkerPass} {message : Message}

namespace PassSound

variable {row : Delivery}

theorem open_of_own (tables : MessagesSound state) (sound : PassSound state.deliveries pass)
    (member : row ∈ state.deliveries) (own : row.id ∈ pass.rows.map Delivery.id) :
    row.status.ended = false ∧ (pass.view row).messageId = row.messageId := by
  obtain ⟨viewMem, viewId⟩ := WorkerPass.view_of_mem own
  obtain ⟨stored, storedMem, sameId, sameMessage, isOpen⟩ := sound.held _ viewMem
  have same : stored = row := tables.delivery_eq storedMem member (sameId.trans viewId)
  exact ⟨same ▸ isOpen, sameMessage.symm.trans (congrArg Delivery.messageId same)⟩

theorem view_messageId (tables : MessagesSound state) (sound : PassSound state.deliveries pass)
    (member : row ∈ state.deliveries) :
    (pass.view row).messageId = row.messageId := by
  by_cases own : row.id ∈ pass.rows.map Delivery.id
  · exact (sound.open_of_own tables member own).2
  · rw [WorkerPass.view_of_not_mem own]

theorem view_of_ended (tables : MessagesSound state) (sound : PassSound state.deliveries pass)
    (member : row ∈ state.deliveries) (ended : row.status.ended = true) :
    pass.view row = row := by
  refine WorkerPass.view_of_not_mem fun own => ?_
  rw [(sound.open_of_own tables member own).1] at ended
  cases ended

theorem filter_view (tables : MessagesSound state) (sound : PassSound state.deliveries pass)
    (messageId : ℕ) :
    (state.deliveries.map pass.view).filter (fun row => decide (row.messageId = messageId)) =
      (state.deliveries.filter fun row => decide (row.messageId = messageId)).map pass.view := by
  rw [List.filter_map]
  refine congrArg (List.map pass.view) (List.filter_congr fun row member => ?_)
  simp only [Function.comp_apply, sound.view_messageId tables member]

end PassSound

namespace PushState

theorem CommittedBy.statusesOf (committed : state.CommittedBy pass after)
    (tables : MessagesSound state) (sound : PassSound state.deliveries pass) (messageId : ℕ) :
    after.statusesOf messageId =
      (state.deliveries.filter fun row => decide (row.messageId = messageId)).map
        fun row => (pass.view row).status := by
  unfold PushState.statusesOf
  rw [committed.deliveries, sound.filter_view tables, List.map_map]
  rfl

theorem CommittedBy.all_ended_iff (committed : state.CommittedBy pass after)
    (tables : MessagesSound state) (sound : PassSound state.deliveries pass) (messageId : ℕ) :
    (∀ status ∈ after.statusesOf messageId, status.ended = true) ↔
      ∀ row ∈ state.deliveries, row.messageId = messageId →
        (pass.view row).status.ended = true := by
  rw [committed.statusesOf tables sound]
  simp only [List.forall_mem_map, List.mem_filter, decide_eq_true_eq, and_imp]

theorem CommittedBy.mem_messages (committed : state.CommittedBy pass after) :
    message ∈ after.messages ↔
      ∃ row ∈ state.messages, { row with status := pass.newStatus row } = message := by
  rw [committed.messages, List.mem_map]

end PushState

theorem PushState.CommittedBy.statusesOf_unseen (committed : state.CommittedBy pass after)
    (tables : MessagesSound state) (sound : PassSound state.deliveries pass) {messageId : ℕ}
    (unseen : ∀ row ∈ state.deliveries, row.messageId = messageId → pass.view row = row) :
    after.statusesOf messageId = state.statusesOf messageId := by
  rw [committed.statusesOf tables sound]
  refine List.map_congr_left fun row rowMem => ?_
  obtain ⟨isStored, isMessage⟩ := List.mem_filter.mp rowMem
  rw [unseen row isStored (of_decide_eq_true isMessage)]

/-- What a pass that refreshes a message knows of it at its commit. -/
structure Refreshed (state : PushState) (pass : WorkerPass) (message : Message)
    (loaded : MessageStatus) (read : List Delivery) : Prop where
  newStatus : pass.newStatus message = changedColumn loaded
    (messageStatus (read.map fun row => (pass.view row).status)) message.status
  undecided : loaded.final = false ∧ message.status.final = false
  collection : pass.collection state.deliveries message.id = read
  nonempty : read ≠ []
  still : List.Forall₂ StillEnded read
    (state.deliveries.filter fun row => decide (row.messageId = message.id))

theorem PassSound.refreshed_or (tables : MessagesSound state)
    (sound : PassSound state.deliveries pass) (commits : PushCall.commits (.workerPass pass) = true)
    (member : message ∈ state.messages) : (∃ entry ∈ pass.statuses, entry.1 = message.id) ∧
        (∃ loaded read, Refreshed state pass message loaded read) ∨
      pass.newStatus message = message.status ∧ (∀ entry ∈ pass.statuses, entry.1 ≠ message.id) ∧
        ∀ row ∈ state.deliveries, row.messageId = message.id → pass.view row = row := by
  cases found : pass.statuses.find? fun entry => decide (entry.1 = message.id) with
  | none =>
    have foreign : ∀ entry ∈ pass.statuses, entry.1 ≠ message.id := by
      intro entry entryMem
      simpa using List.find?_eq_none.mp found entry entryMem
    refine .inr ⟨?_, foreign, ?_⟩
    · unfold WorkerPass.newStatus
      rw [found]
    · intro row rowMem isMessage
      refine WorkerPass.view_of_not_mem fun own => ?_
      -- a row of the pass is settled by its commit, and its message refreshed
      obtain ⟨isSent, isTaken⟩ := PushCall.commits_workerPass commits
      obtain ⟨settled, settledMem, same⟩ := List.mem_map.mp own
      have storedMem := settledMem
      unfold WorkerPass.rows at settledMem
      rw [isSent, isTaken, Option.toList_none, List.append_nil, List.append_nil] at settledMem
      obtain ⟨entry, entryMem, isKey⟩ := sound.settled settled settledMem
      obtain ⟨stored, heldMem, heldId, heldMessage, -⟩ := sound.held settled storedMem
      have equal := tables.delivery_eq heldMem rowMem (heldId.trans same)
      refine foreign entry entryMem ?_
      rw [isKey, ← heldMessage, equal, isMessage]
  | some entry =>
    have isKey : entry.1 = message.id := by simpa using List.find?_some found
    obtain ⟨knows, ⟨settled, settledMem, ofMessage⟩, read, isRead, isStatus⟩ :=
      sound.refreshed message.id entry found
    have readKey : read.1 = message.id := by simpa using List.find?_some isRead
    obtain ⟨⟨stored, storedMem, isStored⟩, still⟩ :=
      sound.collected read (List.mem_of_find?_eq_some isRead)
    rw [readKey] at still isStored
    refine .inl ⟨⟨entry, List.mem_of_find?_eq_some found, isKey⟩, ?_⟩
    cases isLoaded : pass.messages.find? fun entry => decide (entry.1 = message.id) with
    | none =>
      obtain ⟨loaded, loadedMem, same⟩ := List.any_eq_true.mp knows
      have absent := List.find?_eq_none.mp isLoaded loaded loadedMem
      simp_all
    | some loaded =>
      refine ⟨loaded.2, read.2, ?_, ⟨?_, ?_⟩, ?_, ?_, still⟩
      · unfold WorkerPass.newStatus
        rw [found, isLoaded, ← isStatus]
      · exact sound.loaded loaded (List.mem_of_find?_eq_some isLoaded)
      · have isRow : settled ∈ pass.rows :=
          List.mem_append_left _ (List.mem_append_left _ settledMem)
        obtain ⟨held, heldMem, -, heldMessage, isOpen⟩ := sound.held settled isRow
        exact tables.open_message heldMem isOpen member (heldMessage.trans ofMessage)
      · unfold WorkerPass.collection
        rw [isRead]
      · intro empty
        rw [empty] at still
        have none := List.forall₂_nil_left_iff.mp still
        have isIn : stored ∈ state.deliveries.filter fun row =>
            decide (row.messageId = message.id) :=
          List.mem_filter.mpr ⟨storedMem, decide_eq_true isStored⟩
        rw [none] at isIn
        cases isIn

theorem PassSound.message_of_entry (tables : MessagesSound state)
    (sound : PassSound state.deliveries pass) {entry : ℕ × MessageStatus}
    (member : entry ∈ pass.statuses) : ∃ message ∈ state.messages, message.id = entry.1 := by
  cases found : pass.statuses.find? fun other => decide (other.1 = entry.1) with
  | none =>
    have absent := List.find?_eq_none.mp found entry member
    simp at absent
  | some newest =>
    obtain ⟨-, -, read, isRead, -⟩ := sound.refreshed entry.1 newest found
    have readKey : read.1 = entry.1 := by simpa using List.find?_some isRead
    obtain ⟨⟨stored, storedMem, isStored⟩, -⟩ :=
      sound.collected read (List.mem_of_find?_eq_some isRead)
    obtain ⟨message, messageMem, same⟩ := tables.owned stored storedMem
    exact ⟨message, messageMem, same.trans (isStored.trans readKey)⟩

namespace Refreshed

variable {loaded : MessageStatus} {read : List Delivery}

theorem stored_of_read (refreshed : Refreshed state pass message loaded read) {row : Delivery}
    (member : row ∈ read) : ∃ stored,
      (stored ∈ state.deliveries ∧ stored.messageId = message.id) ∧ stored.id = row.id := by
  obtain ⟨stored, storedMem, still⟩ := exists_related refreshed.still member
  obtain ⟨isStored, isMessage⟩ := List.mem_filter.mp storedMem
  exact ⟨stored, ⟨isStored, of_decide_eq_true isMessage⟩, still.id⟩

theorem statuses_eq (refreshed : Refreshed state pass message loaded read)
    (ended : ∀ row ∈ read, (pass.view row).status.ended = true) :
    (state.deliveries.filter fun row => decide (row.messageId = message.id)).map
        (fun row => (pass.view row).status) = read.map fun row => (pass.view row).status := by
  have agree : List.Forall₂ (fun row stored => (pass.view row).status = (pass.view stored).status)
      read (state.deliveries.filter fun row => decide (row.messageId = message.id)) := by
    have related := (List.forall₂_and_left _ _).mpr ⟨ended, refreshed.still⟩
    refine related.imp fun row stored ⟨isEnded, still⟩ => ?_
    by_cases own : row.id ∈ pass.rows.map Delivery.id
    · rw [WorkerPass.view_congr own still.id]
    · rw [WorkerPass.view_of_not_mem own] at isEnded ⊢
      rw [WorkerPass.view_of_not_mem (still.id ▸ own)]
      exact (still.status isEnded).symm
  have equal := List.forall₂_map_right_iff.mpr (List.forall₂_map_left_iff.mpr agree)
  rw [List.forall₂_eq_eq_eq] at equal
  exact equal.symm

/-- The pass writes the status that it gives the message, if it sees no open
delivery there. -/
theorem newStatus_eq (refreshed : Refreshed state pass message loaded read)
    (ended : ∀ row ∈ read, (pass.view row).status.ended = true) :
    pass.newStatus message = messageStatus (read.map fun row => (pass.view row).status) := by
  rw [refreshed.newStatus, changedColumn, if_neg]
  intro same
  have final := (final_messageStatus_iff (List.map_eq_nil_iff.not.mpr refreshed.nonempty)).mpr
    (List.forall_mem_map.mpr ended)
  rw [same, refreshed.undecided.1] at final
  cases final

theorem ended_of_final (refreshed : Refreshed state pass message loaded read)
    (final : (pass.newStatus message).final = true) :
    ∀ row ∈ read, (pass.view row).status.ended = true := by
  rw [refreshed.newStatus, changedColumn] at final
  split_ifs at final with same
  · rw [refreshed.undecided.2] at final
    cases final
  · exact List.forall_mem_map.mp
      ((final_messageStatus_iff (List.map_eq_nil_iff.not.mpr refreshed.nonempty)).mp final)

end Refreshed

namespace MessagesSound

theorem committedBy (tables : MessagesSound state) (sound : PassSound state.deliveries pass)
    (commits : PushCall.commits (.workerPass pass) = true)
    (committed : state.CommittedBy pass after) : MessagesSound after := by
  have emptyBefore {messageId : ℕ} (empty : after.statusesOf messageId = []) :
      state.statusesOf messageId = [] := by
    rw [committed.statusesOf tables sound, List.map_eq_nil_iff] at empty
    rw [PushState.statusesOf, empty]
    rfl
  refine ⟨?_, ?_, ?_, ?_, ?_⟩
  · rw [committed.deliveries, List.map_map]
    have same : Delivery.id ∘ pass.view = Delivery.id := funext (view_id pass)
    rw [same]
    exact tables.deliveryIds
  · rw [committed.messages, List.map_map]
    exact tables.messageIds
  · rw [committed.deliveries]
    intro row member
    obtain ⟨old, oldMem, rfl⟩ := List.mem_map.mp member
    obtain ⟨message, messageMem, same⟩ := tables.owned old oldMem
    refine ⟨_, committed.mem_messages.mpr ⟨message, messageMem, rfl⟩, ?_⟩
    rw [sound.view_messageId tables oldMem]
    exact same
  · intro written member empty
    obtain ⟨message, messageMem, rfl⟩ := committed.mem_messages.mp member
    have before := emptyBefore empty
    rcases sound.refreshed_or tables commits messageMem with
      ⟨-, loaded, read, refreshed⟩ | ⟨unchanged, -, -⟩
    · have related := refreshed.still
      rw [List.map_eq_nil_iff.mp before, List.forall₂_nil_right_iff] at related
      exact absurd related refreshed.nonempty
    · exact unchanged.trans (tables.bare message messageMem before)
  · intro written member final
    obtain ⟨message, messageMem, rfl⟩ := committed.mem_messages.mp member
    have isStatuses := committed.statusesOf tables sound message.id
    rcases sound.refreshed_or tables commits messageMem with
      ⟨-, loaded, read, refreshed⟩ | ⟨unchanged, -, unseen⟩
    · have ended := refreshed.ended_of_final final
      rw [isStatuses, refreshed.statuses_eq ended]
      exact ⟨List.forall_mem_map.mpr ended, refreshed.newStatus_eq ended⟩
    · dsimp only at final ⊢
      rw [unchanged] at final ⊢
      rw [committed.statusesOf_unseen tables sound unseen]
      exact tables.final message messageMem final

/-- The statuses are right after a commit if and only if the pass has read no
delivery as open that has ended since. -/
theorem committedBy_current_iff (tables : MessagesSound state)
    (sound : PassSound state.deliveries pass)
    (commits : PushCall.commits (.workerPass pass) = true) (current : state.StatusesCurrent)
    (committed : state.CommittedBy pass after) : after.StatusesCurrent ↔ ∀ entry ∈ pass.statuses,
      (∀ row ∈ state.deliveries, row.messageId = entry.1 → (pass.view row).status.ended = true) →
        ∀ row ∈ pass.collection state.deliveries entry.1,
          row.status.ended = true ∨ row.id ∈ pass.rows.map Delivery.id := by
  constructor
  · intro right entry entryMem allEnded row rowMem
    obtain ⟨message, messageMem, isKey⟩ := sound.message_of_entry tables entryMem
    rw [← isKey] at allEnded rowMem
    rcases sound.refreshed_or tables commits messageMem with
      ⟨-, loaded, read, refreshed⟩ | ⟨-, foreign, -⟩
    · have given := right _ (committed.mem_messages.mpr ⟨message, messageMem, rfl⟩)
        ((committed.all_ended_iff tables sound message.id).mpr allEnded)
      have final : (pass.newStatus message).final = true := by
        dsimp only at given
        rw [given, final_messageStatus_iff]
        · exact (committed.all_ended_iff tables sound message.id).mpr allEnded
        · rw [committed.statusesOf tables sound]
          intro empty
          have related := refreshed.still
          rw [List.map_eq_nil_iff.mp empty, List.forall₂_nil_right_iff] at related
          exact refreshed.nonempty related
      rw [refreshed.collection] at rowMem
      have ended := refreshed.ended_of_final final row rowMem
      refine or_iff_not_imp_right.mpr fun foreign => ?_
      rwa [WorkerPass.view_of_not_mem foreign] at ended
    · exact absurd isKey.symm (foreign entry entryMem)
  · intro condition written member allEnded
    obtain ⟨message, messageMem, rfl⟩ := committed.mem_messages.mp member
    have stored := (committed.all_ended_iff tables sound message.id).mp allEnded
    rcases sound.refreshed_or tables commits messageMem with
      ⟨⟨entry, entryMem, isKey⟩, loaded, read, refreshed⟩ | ⟨unchanged, -, unseen⟩
    · have ended : ∀ row ∈ read, (pass.view row).status.ended = true := by
        intro row rowMem
        by_cases own : row.id ∈ pass.rows.map Delivery.id
        · obtain ⟨same, sameMem, isRow⟩ := refreshed.stored_of_read rowMem
          rw [← WorkerPass.view_congr own isRow]
          exact stored same sameMem.1 sameMem.2
        · have given := condition entry entryMem (isKey ▸ stored) row
          rw [isKey, refreshed.collection] at given
          rw [WorkerPass.view_of_not_mem own]
          exact (given rowMem).resolve_right own
      rw [committed.statusesOf tables sound, refreshed.statuses_eq ended]
      exact refreshed.newStatus_eq ended
    · dsimp only at allEnded ⊢
      rw [committed.statusesOf_unseen tables sound unseen] at allEnded ⊢
      rw [unchanged]
      exact current message messageMem allEnded

end MessagesSound

theorem PushState.Inserted.filter_other {rows : List Delivery} {messageId : ℕ}
    (inserted : state.Inserted message rows after) (other : messageId ≠ message.id) :
    rows.filter (fun row => decide (row.messageId = messageId)) = [] := by
  rw [List.filter_eq_nil_iff]
  intro row rowMem isOf
  rw [(inserted.ofMessage row rowMem).1] at isOf
  exact other (of_decide_eq_true isOf).symm

namespace PassSound

theorem after_commit (tables : MessagesSound state) (sound : PassSound state.deliveries pass)
    (others : PassSound state.deliveries other)
    (apart : ∀ row ∈ other.rows, row.id ∉ pass.rows.map Delivery.id)
    (committed : state.CommittedBy pass after) : PassSound after.deliveries other := by
  rw [committed.deliveries]
  refine ⟨?_, others.loaded, others.sending, others.settled, others.refreshed, ?_⟩
  · intro row member
    obtain ⟨stored, storedMem, same, held⟩ := others.held row member
    have unseen : pass.view stored = stored := by
      refine WorkerPass.view_of_not_mem ?_
      rw [same]
      exact apart row member
    exact ⟨stored, unseen ▸ List.mem_map_of_mem storedMem, same, held⟩
  · intro entry member
    obtain ⟨⟨stored, storedMem, isEntry⟩, still⟩ := others.collected entry member
    refine ⟨⟨pass.view stored, List.mem_map_of_mem storedMem, ?_⟩, ?_⟩
    · rw [sound.view_messageId tables storedMem]
      exact isEntry
    · rw [sound.filter_view tables, List.forall₂_map_right_iff]
      have flipped : List.Forall₂ (fun stored read => StillEnded read stored)
          (state.deliveries.filter fun row => decide (row.messageId = entry.1)) entry.2 := still.flip
      have related := (List.forall₂_and_left _ _).mpr
        ⟨fun row rowMem => (List.mem_filter.mp rowMem).1, flipped⟩
      refine (related.imp ?_).flip
      rintro stored read ⟨isStored, isStill⟩
      refine ⟨(view_id pass stored).trans isStill.id, fun ended => ?_⟩
      have same := isStill.status ended
      rw [sound.view_of_ended tables isStored (same ▸ ended)]
      exact same

theorem inserted {rows : List Delivery} (tables : MessagesSound state)
    (sound : PassSound state.deliveries pass) (inserted : state.Inserted message rows after) :
    PassSound after.deliveries pass := by
  rw [inserted.deliveries]
  refine ⟨?_, sound.loaded, sound.sending, sound.settled, sound.refreshed, ?_⟩
  · intro row member
    obtain ⟨stored, storedMem, held⟩ := sound.held row member
    exact ⟨stored, List.mem_append_left _ storedMem, held⟩
  · intro entry member
    obtain ⟨⟨stored, storedMem, isEntry⟩, still⟩ := sound.collected entry member
    refine ⟨⟨stored, List.mem_append_left _ storedMem, isEntry⟩, ?_⟩
    obtain ⟨owner, ownerMem, owns⟩ := tables.owned stored storedMem
    rw [List.filter_append, inserted.filter_other, List.append_nil]
    · exact still
    · rw [← isEntry, ← owns]
      exact inserted.newMessage owner ownerMem

end PassSound

namespace MessagesSound

variable {rows : List Delivery}

theorem inserted_statusesOf (tables : MessagesSound state)
    (inserted : state.Inserted message rows after) :
    (∀ row ∈ state.messages, after.statusesOf row.id = state.statusesOf row.id) ∧
      after.statusesOf message.id = rows.map Delivery.status := by
  unfold PushState.statusesOf
  rw [inserted.deliveries]
  constructor
  · intro earlier earlierMem
    rw [List.filter_append, inserted.filter_other (inserted.newMessage earlier earlierMem),
      List.append_nil]
  · have none : state.deliveries.filter (fun row => decide (row.messageId = message.id)) = [] := by
      rw [List.filter_eq_nil_iff]
      intro row rowMem isOf
      obtain ⟨owner, ownerMem, owns⟩ := tables.owned row rowMem
      exact inserted.newMessage owner ownerMem (owns.trans (of_decide_eq_true isOf))
    rw [List.filter_append, none, List.nil_append, List.filter_eq_self.mpr]
    intro row rowMem
    exact decide_eq_true (inserted.ofMessage row rowMem).1

theorem inserted (tables : MessagesSound state) (inserted : state.Inserted message rows after) :
    MessagesSound after := by
  obtain ⟨earlier, own⟩ := tables.inserted_statusesOf inserted
  refine ⟨?_, ?_, ?_, ?_, ?_⟩
  · rw [inserted.deliveries, List.map_append]
    refine tables.deliveryIds.append inserted.newRows.1 ?_
    intro id old new
    obtain ⟨row, rowMem, rfl⟩ := List.mem_map.mp old
    exact inserted.newRows.2 row rowMem new
  · rw [inserted.messages, List.map_append]
    refine tables.messageIds.append (List.nodup_singleton _) ?_
    intro id old new
    obtain ⟨row, rowMem, rfl⟩ := List.mem_map.mp old
    exact inserted.newMessage row rowMem (List.mem_singleton.mp new)
  · rw [inserted.deliveries, inserted.messages]
    intro row member
    rcases List.mem_append.mp member with old | new
    · obtain ⟨owner, ownerMem, owns⟩ := tables.owned row old
      exact ⟨owner, List.mem_append_left _ ownerMem, owns⟩
    · exact ⟨message, by simp, (inserted.ofMessage row new).1.symm⟩
  · rw [inserted.messages]
    intro row member empty
    rcases List.mem_append.mp member with old | new
    · rw [earlier row old] at empty
      exact tables.bare row old empty
    · rw [List.mem_singleton.mp new] at empty ⊢
      rw [own, List.map_eq_nil_iff] at empty
      exact inserted.bare empty
  · rw [inserted.messages]
    intro row member final
    rcases List.mem_append.mp member with old | new
    · rw [earlier row old]
      exact tables.final row old final
    · rw [List.mem_singleton.mp new, inserted.undecided] at final
      cases final

theorem inserted_current (tables : MessagesSound state) (current : state.StatusesCurrent)
    (inserted : state.Inserted message rows after) : after.StatusesCurrent := by
  obtain ⟨earlier, own⟩ := tables.inserted_statusesOf inserted
  intro row member allEnded
  rw [inserted.messages] at member
  rcases List.mem_append.mp member with old | new
  · rw [earlier row old] at allEnded ⊢
    exact current row old allEnded
  · rw [List.mem_singleton.mp new] at allEnded ⊢
    rw [own] at allEnded ⊢
    cases rows with
    | nil => exact inserted.bare rfl
    | cons first rest =>
      have ended := allEnded first.status List.mem_cons_self
      rw [(inserted.ofMessage first List.mem_cons_self).2] at ended
      cases ended

end MessagesSound

end Ithute.Push
