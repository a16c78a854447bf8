import Ithute.Library.UniqueRows
import Ithute.PushLifecycle

/-!
# The status of a message

The worker settles the deliveries of a message and gives the message a status
of their statuses.  Two passes may hold deliveries of one message, and each
has read the deliveries of the other as they were before.
-/

namespace Ithute.Push

open TransitionRuns

def DeliveryStatus.ended : DeliveryStatus → Bool
  | .queued | .retry => false
  | _ => true

/-- A status that `refresh_message_status` gives where all deliveries have
ended. -/
def MessageStatus.final : MessageStatus → Bool
  | .delivered | .failed | .partly => true
  | _ => false

theorem final_messageStatus_iff {statuses : List DeliveryStatus} (nonempty : statuses ≠ []) :
    (messageStatus statuses).final = true ↔ ∀ status ∈ statuses, status.ended = true := by
  unfold messageStatus
  rw [if_neg nonempty]
  split_ifs with delivered failed partly
  · refine iff_of_true rfl fun status member => ?_
    rw [delivered status member]
    rfl
  · refine iff_of_true rfl fun status member => ?_
    have listed := failed status member
    simp only [List.mem_cons, List.not_mem_nil, or_false] at listed
    rcases listed with rfl | rfl | rfl <;> rfl
  · refine iff_of_true rfl fun status member => ?_
    cases status with
    | queued => exact absurd (.inl member) partly.2
    | retry => exact absurd (.inr member) partly.2
    | _ => rfl
  · refine iff_of_false Bool.false_ne_true fun all => ?_
    have ended {status : DeliveryStatus} (member : status ∈ statuses) (is : status.ended = false) :
        False := by
      rw [all status member] at is
      cases is
    have closed : ¬ (DeliveryStatus.queued ∈ statuses ∨ .retry ∈ statuses) := by
      rintro (queued | retry)
      · exact ended queued rfl
      · exact ended retry rfl
    by_cases some : DeliveryStatus.delivered ∈ statuses
    · exact partly ⟨some, closed⟩
    · refine failed fun status member => ?_
      cases status with
      | queued => exact absurd (.inl member) closed
      | retry => exact absurd (.inr member) closed
      | delivered => exact absurd member some
      | _ => decide

namespace PushState

def statusesOf (state : PushState) (messageId : ℕ) : List DeliveryStatus :=
  (state.deliveries.filter fun row => decide (row.messageId = messageId)).map Delivery.status

/-- A message whose deliveries have all ended has the status that they give. -/
def StatusesCurrent (state : PushState) : Prop :=
  ∀ message ∈ state.messages, (∀ status ∈ state.statusesOf message.id, status.ended = true) →
    message.status = messageStatus (state.statusesOf message.id)

/-- A pass that commits the end of the last open deliveries of a message has
read no delivery of another pass as open. -/
def CommitsCurrent (before : PushState) (action : PushAction) : Prop :=
  ∀ pass, before.advanced? action = some (.workerPass pass) →
    PushCall.commits (.workerPass pass) = true → ∀ entry ∈ pass.statuses,
      (∀ row ∈ before.deliveries, row.messageId = entry.1 → (pass.view row).status.ended = true) →
        ∀ row ∈ pass.collection before.deliveries entry.1,
          row.status.ended = true ∨ row.id ∈ pass.rows.map Delivery.id

end PushState

namespace WorkerPass

variable {pass next : WorkerPass} {row other : Delivery}

theorem view_of_not_mem (foreign : row.id ∉ pass.rows.map Delivery.id) : pass.view row = row := by
  have none : pass.rows.find? (fun changed => decide (changed.id = row.id)) = none := by
    rw [List.find?_eq_none]
    intro changed member same
    exact foreign (List.mem_map.mpr ⟨changed, member, of_decide_eq_true same⟩)
  rw [view, none]
  rfl

theorem view_of_mem (own : row.id ∈ pass.rows.map Delivery.id) :
    pass.view row ∈ pass.rows ∧ (pass.view row).id = row.id := by
  obtain ⟨changed, member, same⟩ := List.mem_map.mp own
  cases found : pass.rows.find? fun changed => decide (changed.id = row.id) with
  | none =>
    have absent := List.find?_eq_none.mp found changed member
    simp [same] at absent
  | some seen =>
    rw [view, found]
    exact UniqueRows.find?_decide found

theorem view_congr (own : row.id ∈ pass.rows.map Delivery.id) (same : other.id = row.id) :
    pass.view other = pass.view row := by
  obtain ⟨changed, member, isRow⟩ := List.mem_map.mp own
  cases found : pass.rows.find? fun changed => decide (changed.id = row.id) with
  | none =>
    have absent := List.find?_eq_none.mp found changed member
    simp [isRow] at absent
  | some seen =>
    rw [view, view, same, found]
    rfl

/-- One row of a session changes, but neither its key nor its message. -/
structure Rewrites (pass next : WorkerPass) (item changed : Delivery) : Prop where
  rows : ∃ front back, pass.rows = front ++ item :: back ∧ next.rows = front ++ changed :: back
  id : changed.id = item.id
  messageId : changed.messageId = item.messageId

variable {item changed : Delivery}

theorem Rewrites.ids (rewrites : Rewrites pass next item changed) :
    next.rows.map Delivery.id = pass.rows.map Delivery.id := by
  obtain ⟨front, back, was, is⟩ := rewrites.rows
  rw [was, is]
  simp [rewrites.id]

theorem Rewrites.view_of_ne (rewrites : Rewrites pass next item changed) (apart : row.id ≠ item.id) :
    next.view row = pass.view row := by
  obtain ⟨front, back, was, is⟩ := rewrites.rows
  rw [view, view, was, is, List.find?_append, List.find?_append, List.find?_cons_of_neg,
    List.find?_cons_of_neg]
  · simpa using apart.symm
  · simpa [rewrites.id] using apart.symm

theorem Rewrites.view_status (rewrites : Rewrites pass next item changed)
    (same : changed.status = item.status) (row : Delivery) :
    (next.view row).status = (pass.view row).status := by
  obtain ⟨front, back, was, is⟩ := rewrites.rows
  rw [view, view, was, is, List.find?_append, List.find?_append, List.find?_cons, List.find?_cons,
    rewrites.id]
  cases front.find? fun changed => decide (changed.id = row.id) with
  | some seen => rfl
  | none =>
    cases decide (item.id = row.id) with
    | true => exact same
    | false => rfl

end WorkerPass

structure StillEnded (read stored : Delivery) : Prop where
  id : stored.id = read.id
  status : read.status.ended = true → stored.status = read.status

theorem exists_related {α β : Type*} {related : α → β → Prop} {xs : List α} {ys : List β}
    (pairs : List.Forall₂ related xs ys) {x : α} (member : x ∈ xs) : ∃ y ∈ ys, related x y := by
  obtain ⟨index, within, rfl⟩ := List.mem_iff_getElem.mp member
  have alsoWithin := pairs.length_eq ▸ within
  exact ⟨_, List.getElem_mem alsoWithin, pairs.get within alsoWithin⟩

/-- A pass among the stored rows: it holds open ones, knows the messages that it
has refreshed by statuses that are not final, and has read their deliveries. -/
structure PassSound (deliveries : List Delivery) (pass : WorkerPass) : Prop where
  held : ∀ row ∈ pass.rows, ∃ stored ∈ deliveries, stored.id = row.id ∧
    stored.messageId = row.messageId ∧ stored.status.ended = false
  loaded : ∀ entry ∈ pass.messages, entry.2.final = false
  sending : ∀ item ∈ pass.sending, pass.knows item.messageId = true
  settled : ∀ row ∈ pass.settled, ∃ entry ∈ pass.statuses, entry.1 = row.messageId
  refreshed : ∀ messageId entry,
    pass.statuses.find? (fun entry => decide (entry.1 = messageId)) = some entry →
      pass.knows messageId = true ∧ (∃ row ∈ pass.settled, row.messageId = messageId) ∧
      ∃ read, pass.collections.find? (fun entry => decide (entry.1 = messageId)) = some read ∧
        entry.2 = messageStatus (read.2.map fun row => (pass.view row).status)
  collected : ∀ entry ∈ pass.collections, (∃ stored ∈ deliveries, stored.messageId = entry.1) ∧
    List.Forall₂ StillEnded entry.2 (deliveries.filter fun row => decide (row.messageId = entry.1))

structure LoadsMessage (state : PushState) (pass next : WorkerPass) (messageId : ℕ) : Prop where
  entries : ∀ entry ∈ next.messages, entry ∈ pass.messages ∨
    ∃ message ∈ state.messages, message.id = messageId ∧ message.status = entry.2
  kept : ∀ other, pass.knows other = true → next.knows other = true

inductive Moved (state : PushState) (pass next : WorkerPass) : Prop
  | sends {item changed : Delivery} (rewrites : WorkerPass.Rewrites pass next item changed)
      (loads : LoadsMessage state pass next item.messageId)
      (known : next.knows item.messageId = true) (sending : next.sending = some changed)
      (settled : next.settled = pass.settled) (collections : next.collections = pass.collections)
      (statuses : next.statuses = pass.statuses) (status : changed.status = item.status)
  | settles {item changed : Delivery} (rewrites : WorkerPass.Rewrites pass next item changed)
      (loads : LoadsMessage state pass next item.messageId)
      (known : pass.sending = some item ∨ next.knows item.messageId = true)
      (sending : next.sending = none) (settled : next.settled = pass.settled ++ [changed])
      (collections : next.collections =
        (item.messageId, pass.collection state.deliveries item.messageId) :: pass.collections)
      (statuses : next.statuses = (item.messageId,
        messageStatus ((pass.collection state.deliveries item.messageId).map fun row =>
          (next.view row).status)) :: pass.statuses)

/-- The tables: final statuses are right, and messages without deliveries say
so. -/
structure MessagesSound (state : PushState) : Prop where
  deliveryIds : (state.deliveries.map Delivery.id).Nodup
  messageIds : (state.messages.map Message.id).Nodup
  owned : ∀ row ∈ state.deliveries, ∃ message ∈ state.messages, message.id = row.messageId
  bare : ∀ message ∈ state.messages, state.statusesOf message.id = [] →
    message.status = .noEndpoints
  final : ∀ message ∈ state.messages, message.status.final = true →
    (∀ status ∈ state.statusesOf message.id, status.ended = true) ∧
      message.status = messageStatus (state.statusesOf message.id)

variable {state : PushState} {pass next : WorkerPass}

theorem MessagesSound.delivery_eq (sound : MessagesSound state) {first second : Delivery}
    (firstMem : first ∈ state.deliveries) (secondMem : second ∈ state.deliveries)
    (same : first.id = second.id) : first = second :=
  List.inj_on_of_nodup_map sound.deliveryIds firstMem secondMem same

theorem MessagesSound.open_message (sound : MessagesSound state) {stored : Delivery}
    (storedMem : stored ∈ state.deliveries) (isOpen : stored.status.ended = false)
    {message : Message} (member : message ∈ state.messages) (same : stored.messageId = message.id) :
    message.status.final = false := by
  by_contra final
  have all := (sound.final message member (Bool.eq_true_of_not_eq_false final)).1
  have ended := all stored.status (List.mem_map.mpr
    ⟨stored, List.mem_filter.mpr ⟨storedMem, decide_eq_true same⟩, rfl⟩)
  rw [isOpen] at ended
  cases ended

namespace PassSound

theorem mem_of_collected (sound : PassSound state.deliveries pass) {entry : ℕ × List Delivery}
    (member : entry ∈ pass.collections) {row : Delivery} (rowMem : row ∈ entry.2) :
    ∃ stored ∈ state.deliveries, stored.messageId = entry.1 ∧ StillEnded row stored := by
  obtain ⟨stored, storedMem, still⟩ := exists_related (sound.collected entry member).2 rowMem
  obtain ⟨isStored, isEntry⟩ := List.mem_filter.mp storedMem
  exact ⟨stored, isStored, of_decide_eq_true isEntry, still⟩

variable {item : Delivery}

theorem apart (tables : MessagesSound state) (sound : PassSound state.deliveries pass)
    {row : Delivery} (itemMem : item ∈ pass.rows) {entry : ℕ × List Delivery}
    (member : entry ∈ pass.collections) (rowMem : row ∈ entry.2) (other : entry.1 ≠ item.messageId) :
    row.id ≠ item.id := by
  intro same
  obtain ⟨stored, storedMem, isEntry, still⟩ := sound.mem_of_collected member rowMem
  obtain ⟨own, ownMem, ownId, ownMessage, -⟩ := sound.held item itemMem
  have equal := tables.delivery_eq storedMem ownMem (still.id.trans (same.trans ownId.symm))
  rw [← isEntry, equal, ownMessage] at other
  exact other rfl

theorem loads (tables : MessagesSound state) (sound : PassSound state.deliveries pass)
    (itemMem : item ∈ pass.rows) (loads : LoadsMessage state pass next item.messageId) :
    ∀ entry ∈ next.messages, entry.2.final = false := by
  intro entry member
  rcases loads.entries entry member with known | ⟨message, messageMem, same, status⟩
  · exact sound.loaded entry known
  · obtain ⟨stored, storedMem, -, ofMessage, isOpen⟩ := sound.held item itemMem
    rw [← status]
    exact tables.open_message storedMem isOpen messageMem (ofMessage.trans same.symm)

theorem held_rewrites (sound : PassSound state.deliveries pass) {changed : Delivery}
    (rewrites : WorkerPass.Rewrites pass next item changed) :
    ∀ row ∈ next.rows, ∃ stored ∈ state.deliveries, stored.id = row.id ∧
      stored.messageId = row.messageId ∧ stored.status.ended = false := by
  obtain ⟨front, back, was, is⟩ := rewrites.rows
  intro row member
  rw [is] at member
  rcases List.mem_append.mp member with before | member
  · exact sound.held row (was ▸ List.mem_append_left _ before)
  · rcases List.mem_cons.mp member with rfl | after
    · have stored := sound.held item (was ▸ List.mem_append_right _ List.mem_cons_self)
      rwa [← rewrites.id, ← rewrites.messageId] at stored
    · exact sound.held row (was ▸ List.mem_append_right _ (List.mem_cons_of_mem _ after))

theorem moved (tables : MessagesSound state) (sound : PassSound state.deliveries pass)
    (moved : Moved state pass next) : PassSound state.deliveries next := by
  cases moved with
  | @sends item changed rewrites loads known sending settled collections statuses status =>
    have itemMem : item ∈ pass.rows := by
      obtain ⟨front, back, was, -⟩ := rewrites.rows
      exact was ▸ List.mem_append_right _ List.mem_cons_self
    refine ⟨sound.held_rewrites rewrites, sound.loads tables itemMem loads, ?_, ?_, ?_, ?_⟩
    · intro sent isSent
      rw [sending] at isSent
      cases isSent
      rwa [rewrites.messageId]
    · rw [settled, statuses]
      exact sound.settled
    · intro messageId entry found
      rw [statuses] at found
      obtain ⟨knows, some, read, isRead, isStatus⟩ := sound.refreshed messageId entry found
      rw [settled, collections]
      refine ⟨loads.kept messageId knows, some, read, isRead, ?_⟩
      simp only [isStatus, rewrites.view_status status]
    · rw [collections]
      exact sound.collected
  | @settles item changed rewrites loads known sending settled collections statuses =>
    have itemMem : item ∈ pass.rows := by
      obtain ⟨front, back, was, -⟩ := rewrites.rows
      exact was ▸ List.mem_append_right _ List.mem_cons_self
    refine ⟨sound.held_rewrites rewrites, sound.loads tables itemMem loads, ?_, ?_, ?_, ?_⟩
    · rw [sending]
      intro sent none
      cases none
    · rw [settled, statuses]
      intro row member
      rcases List.mem_append.mp member with old | new
      · obtain ⟨entry, entryMem, same⟩ := sound.settled row old
        exact ⟨entry, List.mem_cons_of_mem _ entryMem, same⟩
      · rw [List.mem_singleton.mp new, rewrites.messageId]
        exact ⟨_, List.mem_cons_self, rfl⟩
    · intro messageId entry found
      rw [statuses, List.find?_cons] at found
      rw [settled, collections, List.find?_cons]
      by_cases same : item.messageId = messageId
      · rw [decide_eq_true same] at found ⊢
        cases found
        refine ⟨?_, ⟨changed, by simp, rewrites.messageId.trans same⟩, _, rfl, rfl⟩
        rw [← same]
        rcases known with isSending | known
        · exact loads.kept _ (sound.sending item isSending)
        · exact known
      · rw [decide_eq_false same] at found ⊢
        obtain ⟨knows, ⟨row, rowMem, isRow⟩, read, isRead, isStatus⟩ :=
          sound.refreshed messageId entry found
        have isKey : read.1 = messageId := by simpa using List.find?_some isRead
        refine ⟨loads.kept messageId knows, ⟨row, List.mem_append_left _ rowMem, isRow⟩, read,
          isRead, ?_⟩
        rw [isStatus]
        refine congrArg messageStatus (List.map_congr_left fun row rowMem => ?_)
        rw [rewrites.view_of_ne (sound.apart tables itemMem (List.mem_of_find?_eq_some isRead) rowMem
          fun equal => same (equal.symm.trans isKey))]
    · rw [collections]
      intro entry member
      rcases List.mem_cons.mp member with rfl | old
      · obtain ⟨stored, storedMem, -, ofMessage, -⟩ := sound.held item itemMem
        refine ⟨⟨stored, storedMem, ofMessage⟩, ?_⟩
        dsimp only [WorkerPass.collection]
        split
        · rename_i read isRead
          have isKey : read.1 = item.messageId := by simpa using List.find?_some isRead
          rw [← isKey]
          exact (sound.collected read (List.mem_of_find?_eq_some isRead)).2
        · exact List.forall₂_same.mpr fun row _ => ⟨rfl, fun _ => rfl⟩
      · exact sound.collected entry old

end PassSound

end Ithute.Push
