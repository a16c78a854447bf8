import Ithute.Library.TransitionRuns
import Ithute.RealtimeChatSteps

/-!
# Read state

Acknowledgements move the state of a receipt from accepted over delivered to
read, and a reading call moves the caller's pointer in the conversation to the
message it is about.
-/

namespace Ithute

open TransitionRuns

def ReceiptState.rank : ReceiptState → ℕ
  | .accepted => 0
  | .delivered => 1
  | .read => 2

theorem ReceiptState.rank_le_two (receiptState : ReceiptState) : receiptState.rank ≤ 2 := by
  cases receiptState <;> decide

/-- The receipt is read exactly where it has the time of it, and then it has
the time of its delivery too. -/
def MessageReceipt.Coherent (row : MessageReceipt) : Prop :=
  (row.state = .read ↔ row.readAt.isSome = true) ∧
    (row.readAt.isSome = true → row.deliveredAt.isSome = true)

theorem ReceiptState.rank_le_delivered (before : ReceiptState) :
    before.rank ≤ (if before = .read then ReceiptState.read else .delivered).rank := by
  cases before <;> decide

theorem MessageReceipt.Coherent.of_read {row : MessageReceipt} (isRead : row.state = .read)
    (delivered : row.deliveredAt.isSome = true) (read : row.readAt.isSome = true) : row.Coherent :=
  ⟨iff_of_true isRead read, fun _ => delivered⟩

theorem MessageReceipt.Coherent.delivered {row : MessageReceipt} (coherent : row.Coherent)
    (now : ℕ) : MessageReceipt.Coherent
      { row with
        state := if row.state = .read then .read else .delivered
        deliveredAt := some (row.deliveredAt.getD now) } := by
  refine ⟨?_, fun _ => rfl⟩
  rw [← coherent.1]
  by_cases isRead : row.state = .read
  · simp [isRead]
  · simp [isRead]

/-- A step of the calls that touch the read state: a send up to its insert, the
insert, its event, a call that stops, and the two calls of a reader. -/
inductive ReadMove where
  | wait (elapsed : ℕ)
  | send (principal : UserPrincipal) (conversationId : ℕ) (payload : MessageCreate)
  | commitSend (call newId : ℕ)
  | emit (call eventId random : ℕ)
  | crash (call : ℕ)
  | acknowledgeMessage (principal : UserPrincipal) (messageId : ℕ) (read : Bool)
  | markRead (principal : UserPrincipal) (conversationId messageId : ℕ)

def ReadMove.action : ReadMove → ChatAction
  | .wait elapsed => .wait elapsed
  | .send principal conversationId payload => .send principal conversationId payload
  | .commitSend call newId => .commitSend call newId
  | .emit call eventId random => .emit call eventId random
  | .crash call => .crash call
  | .acknowledgeMessage principal messageId read =>
    .user principal 0 (.acknowledgeMessage messageId read)
  | .markRead principal conversationId messageId =>
    .user principal 0 (.markRead conversationId messageId)

namespace ChatState

def memberRow? (state : ChatState) (conversationId authUserId : ℕ) : Option ConversationMember :=
  (state.membersOf conversationId).find? fun row => decide (row.authUserId = authUserId)

def CoherentReceipts (state : ChatState) : Prop := ∀ row ∈ state.receipts, row.Coherent

def lastRead? (state : ChatState) (conversationId authUserId : ℕ) : Option Message :=
  ((state.memberRow? conversationId authUserId).bind ConversationMember.lastReadMessageId).bind
    state.message?

/-- Receipts keep their state or move it up, and they are coherent. -/
structure ReceiptsForward (before after : ChatState) : Prop where
  receipts : ∀ messageId authUserId, ∀ row ∈ before.receipt? messageId authUserId,
    ∃ later ∈ after.receipt? messageId authUserId, row.state.rank ≤ later.state.rank
  coherent : after.CoherentReceipts

def PointersForward (before after : ChatState) : Prop :=
  ∀ conversationId authUserId, ∀ earlier ∈ before.lastRead? conversationId authUserId,
    ∀ later ∈ after.lastRead? conversationId authUserId, earlier.createdAt ≤ later.createdAt

structure ReadForward (before after : ChatState) : Prop extends ReceiptsForward before after where
  pointers : PointersForward before after

/-- The caller's pointer is not on a message that is newer than the one to
read. -/
def NotBehind (state : ChatState) (principal : UserPrincipal) (message : Message) : Prop :=
  ∀ conversation ∈ state.conversation? message.conversationId,
    ∀ member ∈ state.member? conversation principal,
      ∀ last ∈ member.lastReadMessageId.bind state.message?, last.createdAt ≤ message.createdAt

/-- A reading call is about a message that is no older than the one that the
caller has read last in the conversation. -/
def ReadsOn (state : ChatState) : ReadMove → Prop
  | .acknowledgeMessage principal messageId true =>
    ∀ message ∈ state.message? messageId, message.applicationId = principal.clientId →
      state.NotBehind principal message
  | .markRead principal conversationId messageId =>
    ∀ message ∈ state.message? messageId, message.conversationId = conversationId →
      state.NotBehind principal message
  | _ => True

section Rows

variable {state : ChatState} {messageId authUserId conversationId : ℕ}

theorem receipt?_saveReceipt (receipt : MessageReceipt) :
    (state.saveReceipt receipt).receipt? messageId authUserId =
      if receipt.messageId = messageId ∧ receipt.authUserId = authUserId then some receipt
      else state.receipt? messageId authUserId := by
  unfold receipt? saveReceipt
  rw [List.find?_append, List.find?_filter]
  by_cases same : receipt.messageId = messageId ∧ receipt.authUserId = authUserId
  · obtain ⟨rfl, rfl⟩ := same
    rw [if_pos ⟨rfl, rfl⟩, List.find?_eq_none.mpr]
    · simp
    · intro row _
      simp
      tauto
  · have none : [receipt].find? (fun row =>
        decide (row.messageId = messageId ∧ row.authUserId = authUserId)) = none := by
      simpa using same
    rw [if_neg same, none, Option.or_none]
    congr 1
    funext row
    by_cases here : row.messageId = messageId ∧ row.authUserId = authUserId
    · obtain ⟨rfl, rfl⟩ := here
      simp
      tauto
    · simp [here]

theorem mem_saveReceipt {receipt row : MessageReceipt}
    (member : row ∈ (state.saveReceipt receipt).receipts) : row = receipt ∨ row ∈ state.receipts := by
  rcases List.mem_append.mp member with kept | new
  · exact .inr (List.mem_of_mem_filter kept)
  · exact .inl (List.mem_singleton.mp new)

theorem memberRow?_eq (state : ChatState) (conversationId authUserId : ℕ) :
    state.memberRow? conversationId authUserId = state.members.find? fun row =>
      decide (row.conversationId = conversationId) && decide (row.authUserId = authUserId) := by
  unfold memberRow? membersOf
  rw [List.find?_filter]
  simp only [Bool.decide_and, Bool.decide_eq_true]

theorem memberRow?_updateMember (member : ConversationMember) :
    (state.updateMember member).memberRow? conversationId authUserId =
      (state.memberRow? conversationId authUserId).map fun row =>
        if member.conversationId = conversationId ∧ member.authUserId = authUserId then member
        else row := by
  rw [memberRow?_eq, memberRow?_eq, updateMember, List.find?_map]
  have keys : (fun row : ConversationMember => decide (row.conversationId = conversationId) &&
        decide (row.authUserId = authUserId)) ∘ (fun row =>
          if row.conversationId = member.conversationId ∧ row.authUserId = member.authUserId
          then member else row) = fun row => decide (row.conversationId = conversationId) &&
        decide (row.authUserId = authUserId) := by
    funext row
    by_cases same : row.conversationId = member.conversationId ∧ row.authUserId = member.authUserId
    · simp [same]
    · simp [same]
  rw [keys]
  refine Option.map_congr fun row found => ?_
  have key := List.find?_some found
  simp only [Bool.and_eq_true, decide_eq_true_eq] at key
  rw [key.1, key.2]
  simp only [eq_comm]

theorem message?_append (message : Message) {id : ℕ} {found : Message}
    (before : state.message? id = some found) :
    (state.messages ++ [message]).find? (fun row => decide (row.id = id)) = some found := by
  rw [List.find?_append]
  unfold message? at before
  rw [before, Option.some_or]

end Rows

section Receipts

variable {state : ChatState} {principal : UserPrincipal} {message : Message}

theorem ReceiptsForward.of_eq {before after : ChatState} (coherent : before.CoherentReceipts)
    (same : after.receipts = before.receipts) : ReceiptsForward before after where
  receipts messageId authUserId row found := ⟨row, by rwa [Option.mem_def, receipt?, same], le_rfl⟩
  coherent := by
    unfold CoherentReceipts
    rw [same]
    exact coherent

theorem receiptsForward_saveReceipt {saved : MessageReceipt} (coherent : state.CoherentReceipts)
    (higher : ∀ row ∈ state.receipt? saved.messageId saved.authUserId,
      row.state.rank ≤ saved.state.rank) (isCoherent : saved.Coherent) :
    ReceiptsForward state (state.saveReceipt saved) where
  receipts messageId authUserId row found := by
    rw [receipt?_saveReceipt]
    split_ifs with same
    · obtain ⟨rfl, rfl⟩ := same
      exact ⟨saved, rfl, higher row found⟩
    · exact ⟨row, found, le_rfl⟩
  coherent row rowMem := by
    rcases mem_saveReceipt rowMem with rfl | kept
    · exact isCoherent
    · exact coherent row kept

theorem receiptsForward_read {saved : MessageReceipt} (coherent : state.CoherentReceipts)
    (isRead : saved.state = .read) (isCoherent : saved.Coherent) (member : ConversationMember) :
    ReceiptsForward state ((state.saveReceipt saved).updateMember member) := by
  have forward : ReceiptsForward state (state.saveReceipt saved) := by
    refine receiptsForward_saveReceipt coherent ?_ isCoherent
    intro row _
    rw [isRead]
    exact row.state.rank_le_two
  exact ⟨forward.receipts, forward.coherent⟩

def receiptOrNew (state : ChatState) (messageId authUserId : ℕ) : MessageReceipt :=
  (state.receipt? messageId authUserId).getD
    { messageId := messageId
      authUserId := authUserId
      state := .accepted
      deliveredAt := none
      readAt := none }

theorem receiptOrNew_keys (messageId authUserId : ℕ) :
    (state.receiptOrNew messageId authUserId).messageId = messageId ∧
      (state.receiptOrNew messageId authUserId).authUserId = authUserId := by
  unfold receiptOrNew
  cases found : state.receipt? messageId authUserId with
  | none => exact ⟨rfl, rfl⟩
  | some row => simpa using List.find?_some found

theorem coherent_receiptOrNew (coherent : state.CoherentReceipts)
    (messageId authUserId : ℕ) : (state.receiptOrNew messageId authUserId).Coherent := by
  unfold receiptOrNew
  cases found : state.receipt? messageId authUserId with
  | none => exact ⟨by simp, by simp⟩
  | some row => exact coherent row (List.mem_of_find?_eq_some found)

theorem acknowledgeMessage_receiptsForward (coherent : state.CoherentReceipts)
    (messageId : ℕ) (read : Bool) :
    ReceiptsForward state (state.acknowledgeMessage principal messageId read).1 := by
  refine withMessage_rule (fun result => ReceiptsForward state result.1)
    (fun _ _ => .of_eq coherent rfl) ?_
  intro message conversation member _ _ _ _
  cases read with
  | true =>
    exact receiptsForward_read coherent rfl (.of_read rfl rfl rfl) _
  | false =>
    have keys := @receiptOrNew_keys state message.id principal.sub
    refine receiptsForward_saveReceipt coherent ?_
      ((coherent_receiptOrNew coherent message.id principal.sub).delivered state.clock)
    intro row isRow
    have stored : state.receipt? (state.receiptOrNew message.id principal.sub).messageId
      (state.receiptOrNew message.id principal.sub).authUserId = some row := isRow
    rw [keys.1, keys.2] at stored
    have same : state.receiptOrNew message.id principal.sub = row := by
      rw [receiptOrNew, stored]
      rfl
    rw [← same]
    exact ReceiptState.rank_le_delivered _

theorem markRead_receiptsForward (coherent : state.CoherentReceipts)
    (conversationId messageId : ℕ) :
    ReceiptsForward state (state.markRead principal conversationId messageId).1 := by
  have unchanged : ReceiptsForward state state := .of_eq coherent rfl
  refine withConversation_rule (fun result => ReceiptsForward state result.1)
    (fun _ _ => unchanged) ?_
  intro conversation member _ _
  dsimp only
  split
  · exact unchanged
  · split
    · exact unchanged
    · exact receiptsForward_read coherent rfl (.of_read rfl rfl rfl) _

theorem coherent_sendReceipts (pending : PendingSend) (newId now : ℕ) :
    ∀ row ∈ pending.receipts newId now, row.Coherent := by
  intro row rowMem
  obtain ⟨recipient, -, rfl⟩ := List.mem_map.mp rowMem
  by_cases own : recipient = pending.principal.sub
  · simp [MessageReceipt.Coherent, own]
  · simp [MessageReceipt.Coherent, own]

theorem commitSend_receiptsForward (coherent : state.CoherentReceipts)
    (pending : PendingSend) (newId : ℕ) :
    ReceiptsForward state (state.commitSend pending newId).1 := by
  have unchanged : ReceiptsForward state state := .of_eq coherent rfl
  unfold commitSend
  dsimp only
  split
  · split
    · exact unchanged
    · exact unchanged
  · constructor
    · intro messageId authUserId row found
      refine ⟨row, ?_, le_rfl⟩
      rw [Option.mem_def, receipt?, List.find?_append]
      change (state.receipt? messageId authUserId).or _ = some row
      rw [Option.mem_def.mp found, Option.some_or]
    · intro row rowMem
      rcases List.mem_append.mp rowMem with kept | new
      · exact coherent row kept
      · exact coherent_sendReceipts pending newId state.clock row new

end Receipts

section Pointers

variable {state : ChatState} {principal : UserPrincipal} {conversation : Conversation}
variable {member : ConversationMember} {message : Message}

theorem PointersForward.of_eq {before after : ChatState} (members : after.members = before.members)
    (messages : after.messages = before.messages) : PointersForward before after := by
  intro conversationId authUserId earlier wasLast later isLast
  have same : after.lastRead? conversationId authUserId =
      before.lastRead? conversationId authUserId := by
    unfold lastRead? memberRow? membersOf message?
    rw [members, messages]
  rw [same] at isLast
  rw [Option.mem_unique wasLast isLast]

theorem id_of_message? {id : ℕ} (found : state.message? id = some message) : message.id = id := by
  simpa using List.find?_some found

theorem memberRow?_of_member? (joined : state.member? conversation principal = some member) :
    state.memberRow? conversation.id principal.sub = some member ∧
      member.conversationId = conversation.id ∧ member.authUserId = principal.sub := by
  unfold member? at joined
  split_ifs at joined
  have listed := List.mem_of_find?_eq_some joined
  have own := List.find?_some joined
  simp only [membersOf, List.mem_filter, decide_eq_true_eq] at listed own
  exact ⟨joined, listed.2, own⟩

/-- A reading call goes forward exactly where the message is not behind the
pointer of the caller. -/
theorem pointersForward_read_iff (saved : MessageReceipt)
    (found : state.message? message.id = some message)
    (joined : state.member? conversation principal = some member) :
    PointersForward state ((state.saveReceipt saved).updateMember
        { member with lastReadMessageId := some message.id }) ↔
      ∀ last ∈ member.lastReadMessageId.bind state.message?,
        last.createdAt ≤ message.createdAt := by
  obtain ⟨own, ofConversation, ofUser⟩ := memberRow?_of_member? joined
  have pointer (conversationId authUserId : ℕ) : ((state.saveReceipt saved).updateMember
        { member with lastReadMessageId := some message.id }).lastRead? conversationId authUserId =
      if conversation.id = conversationId ∧ principal.sub = authUserId then some message
      else state.lastRead? conversationId authUserId := by
    unfold lastRead?
    rw [memberRow?_updateMember]
    dsimp only
    rw [ofConversation, ofUser]
    have rows : (state.saveReceipt saved).memberRow? conversationId authUserId =
      state.memberRow? conversationId authUserId := rfl
    rw [rows]
    split_ifs with here
    · obtain ⟨rfl, rfl⟩ := here
      rw [own]
      exact found
    · rw [Option.map_id']
      rfl
  constructor
  · intro forward last isLast
    refine forward conversation.id principal.sub last ?_ message ?_
    · rw [Option.mem_def, lastRead?, own]
      exact isLast
    · rw [pointer, if_pos ⟨rfl, rfl⟩]
      rfl
  · intro ahead conversationId authUserId earlier wasLast later isLast
    rw [pointer] at isLast
    split_ifs at isLast with here
    · obtain ⟨rfl, rfl⟩ := here
      cases isLast
      rw [Option.mem_def, lastRead?, own] at wasLast
      exact ahead earlier wasLast
    · rw [Option.mem_unique wasLast isLast]

theorem acknowledgeMessage_pointersForward_iff (messageId : ℕ) (read : Bool) :
    PointersForward state (state.acknowledgeMessage principal messageId read).1 ↔
      state.ReadsOn (.acknowledgeMessage principal messageId read) := by
  have unchanged : PointersForward state state := .of_eq rfl rfl
  unfold acknowledgeMessage withMessage
  cases found : state.message? messageId with
  | none => exact iff_of_true unchanged (by cases read <;> simp [ReadsOn, found])
  | some message =>
    have sameId := id_of_message? found
    dsimp only
    by_cases application : message.applicationId = principal.clientId
    · rw [if_pos ⟨application, rfl⟩]
      cases room : state.conversation? message.conversationId with
      | none =>
        exact iff_of_true unchanged (by cases read <;> simp [ReadsOn, found, NotBehind, room])
      | some conversation =>
        dsimp only
        cases joined : state.member? conversation principal with
        | none =>
          refine iff_of_true unchanged ?_
          cases read <;> simp [ReadsOn, found, NotBehind, room, joined]
        | some member =>
          cases read with
          | false => exact iff_of_true unchanged trivial
          | true =>
            refine (pointersForward_read_iff _ (sameId ▸ found) joined).trans ?_
            simp [ReadsOn, found, NotBehind, room, joined, application]
    · rw [if_neg fun allowed => application allowed.1]
      refine iff_of_true unchanged ?_
      cases read
      · trivial
      · intro other isOther application'
        cases found.symm.trans isOther
        exact absurd application' application

theorem markRead_pointersForward_iff (conversationId messageId : ℕ) :
    PointersForward state (state.markRead principal conversationId messageId).1 ↔
      state.ReadsOn (.markRead principal conversationId messageId) := by
  have unchanged : PointersForward state state := .of_eq rfl rfl
  unfold markRead withConversation
  cases room : state.conversation? conversationId with
  | none =>
    refine iff_of_true unchanged ?_
    rintro message _ rfl conversation isRoom
    cases room.symm.trans isRoom
  | some conversation =>
    have roomId := id_of_conversation? room
    dsimp only
    cases joined : state.member? conversation principal with
    | none =>
      refine iff_of_true unchanged ?_
      rintro message _ rfl
      simp [NotBehind, room, joined]
    | some member =>
      dsimp only
      cases found : state.message? messageId with
      | none => exact iff_of_true unchanged (by simp [ReadsOn, found])
      | some message =>
        have sameId := id_of_message? found
        dsimp only
        by_cases inside : message.conversationId = conversation.id
        · rw [if_neg (not_not.mpr inside)]
          refine (pointersForward_read_iff _ (sameId ▸ found) joined).trans ?_
          simp [ReadsOn, found, NotBehind, room, joined, inside, roomId]
        · rw [if_pos inside]
          refine iff_of_true unchanged ?_
          intro other isOther inRoom
          cases found.symm.trans isOther
          exact absurd (inRoom.trans roomId.symm) inside

theorem commitSend_pointersForward (pending : PendingSend) (newId : ℕ) :
    PointersForward state (state.commitSend pending newId).1 := by
  have unchanged : PointersForward state state := .of_eq rfl rfl
  unfold commitSend
  dsimp only
  split
  · split
    · exact unchanged
    · exact unchanged
  · intro conversationId authUserId earlier wasLast later isLast
    obtain ⟨messageId, pointer, found⟩ := Option.bind_eq_some_iff.mp wasLast
    obtain ⟨messageId', pointer', found'⟩ := Option.bind_eq_some_iff.mp isLast
    cases pointer.symm.trans pointer'
    have same := (message?_append (pending.message newId state.clock) found).symm.trans found'
    cases same
    exact le_rfl

end Pointers

def readTables (state : ChatState) : List MessageReceipt × List ConversationMember × List Message :=
  (state.receipts, state.members, state.messages)

inductive ReadEffect (state : ChatState) : ReadMove → ChatState → Prop
  | keeps {move : ReadMove} {after : ChatState} (same : after.readTables = state.readTables)
      (reads : state.ReadsOn move) : ReadEffect state move after
  | inserts {call newId : ℕ} {before after : ChatState} (pending : PendingSend)
      (start : before.readTables = state.readTables)
      (same : after.readTables = (before.commitSend pending newId).1.readTables) :
      ReadEffect state (.commitSend call newId) after
  | acknowledges {principal : UserPrincipal} {messageId : ℕ} {read : Bool} {after : ChatState}
      (same : after.readTables = (state.acknowledgeMessage principal messageId read).1.readTables) :
      ReadEffect state (.acknowledgeMessage principal messageId read) after
  | marks {principal : UserPrincipal} {conversationId messageId : ℕ} {after : ChatState}
      (same : after.readTables = (state.markRead principal conversationId messageId).1.readTables) :
      ReadEffect state (.markRead principal conversationId messageId) after

section Runs

variable {state before after after' : ChatState}

theorem resume_readTables (result : ChatState × CallOutcome) :
    (resume result).1.readTables = result.1.readTables := by
  unfold resume
  split <;> rfl

theorem ReceiptsForward.congr (start : before.readTables = state.readTables)
    (same : after'.readTables = after.readTables) (forward : ReceiptsForward before after) :
    ReceiptsForward state after' := by
  have receipts : before.receipts = state.receipts := congrArg Prod.fst start
  have receipts' : after'.receipts = after.receipts := congrArg Prod.fst same
  constructor
  · unfold receipt?
    rw [← receipts, receipts']
    exact forward.receipts
  · unfold CoherentReceipts
    rw [receipts']
    exact forward.coherent

theorem pointersForward_congr (start : before.readTables = state.readTables)
    (same : after'.readTables = after.readTables) :
    PointersForward state after' ↔ PointersForward before after := by
  simp only [readTables, Prod.mk.injEq] at start same
  unfold PointersForward lastRead? memberRow? membersOf message?
  rw [start.2.1, start.2.2, same.2.1, same.2.2]

variable (services : RealtimeServices) (settings : ChatSettings)

theorem perform_readEffect (move : ReadMove) :
    ReadEffect state move (state.perform services settings move.action).1 := by
  cases move with
  | wait elapsed => exact .keeps rfl trivial
  | send principal conversationId payload =>
    refine .keeps ((resume_readTables _).trans ?_) trivial
    rw [checkSend_state]
  | commitSend call newId =>
    dsimp only [ReadMove.action, perform]
    split
    · exact @ReadEffect.inserts state call newId (state.dropCall call) _ _ rfl (resume_readTables _)
    · exact .keeps rfl trivial
  | emit call eventId random =>
    refine .keeps ?_ trivial
    dsimp only [ReadMove.action, perform]
    split
    · rename_i emission _
      rcases emit_cases services settings (state.dropCall call) emission eventId random with
        failed | ⟨events, event, -, queued⟩
      · rw [failed]
        rfl
      · rw [queued]
        rfl
    · rfl
  | crash call => exact .keeps rfl trivial
  | acknowledgeMessage principal messageId read => exact .acknowledges (resume_readTables _)
  | markRead principal conversationId messageId => exact .marks (resume_readTables _)

theorem ReadEffect.receiptsForward {move : ReadMove} (effect : ReadEffect state move after)
    (coherent : state.CoherentReceipts) : ReceiptsForward state after := by
  cases effect with
  | keeps same _ => exact .of_eq coherent (congrArg Prod.fst same)
  | @inserts call newId before _ pending start same =>
    have receipts : before.receipts = state.receipts := congrArg Prod.fst start
    have coherent' : before.CoherentReceipts := by
      unfold CoherentReceipts
      rw [receipts]
      exact coherent
    exact (commitSend_receiptsForward coherent' pending newId).congr start same
  | acknowledges same => exact (acknowledgeMessage_receiptsForward coherent _ _).congr rfl same
  | marks same => exact (markRead_receiptsForward coherent _ _).congr rfl same

theorem ReadEffect.pointersForward_iff {move : ReadMove} (effect : ReadEffect state move after) :
    PointersForward state after ↔ state.ReadsOn move := by
  cases effect with
  | keeps same reads =>
    exact iff_of_true ((pointersForward_congr rfl same).mpr (.of_eq rfl rfl)) reads
  | @inserts call newId before _ pending start same =>
    exact iff_of_true ((pointersForward_congr start same).mpr
      (commitSend_pointersForward pending newId)) trivial
  | acknowledges same =>
    exact (pointersForward_congr rfl same).trans (acknowledgeMessage_pointersForward_iff _ _)
  | marks same => exact (pointersForward_congr rfl same).trans (markRead_pointersForward_iff _ _)

/-- From receipts that are coherent, every step of a run moves the read state
forward if and only if no reading call of the run is about a message that is
older than the one its caller has read last. -/
theorem run_readForward_iff {start : ChatState} (coherent : start.CoherentReceipts)
    (moves : List ReadMove) : EveryStep (fun before move after =>
          after = (before.perform services settings move.action).1)
        (fun before _ after => ReadForward before after) start moves ↔
      EveryStep (fun before move after => after = (before.perform services settings move.action).1)
        (fun before move _ => before.ReadsOn move) start moves := by
  refine EveryStep.congr_of_invariant coherent ?_ ?_ (fun _ _ => True.intro)
  · rintro state move after coherent rfl _
    exact ((perform_readEffect services settings move).receiptsForward coherent).coherent
  · rintro state move after coherent rfl
    have effect := @perform_readEffect state services settings move
    constructor
    · intro forward
      exact effect.pointersForward_iff.mp forward.pointers
    · intro reads
      exact ⟨effect.receiptsForward coherent, effect.pointersForward_iff.mpr reads⟩

end Runs

def talk : ChatState where
  conversations :=
    [{ id := 1
       applicationId := "app"
       kind := .direct
       title := none
       description := none
       roomKey := none
       createdBySub := some 1
       createdAt := 0
       updatedAt := 0 }]
  members := [newMember 1 (some 1) 1, newMember 1 (some 1) 2]

def writes (body : String) : ReadMove :=
  .send { clientId := "app", sub := 1 } 1
    { body := body
      clientMessageId := none
      data := []
      replyToMessageId := none
      forwardMessageId := none
      mentionSubs := []
      attachments := []
      priority := .normal }

def reads (messageId : ℕ) : ReadMove :=
  .acknowledgeMessage { clientId := "app", sub := 2 } messageId true

/-- A reader who goes through the messages in order only moves forward. -/
theorem run_readForward_iff_inOrder : EveryStep (fun before move after => after = (before.perform
          { fingerprint := fun _ => "", cursorMicros := id } {} move.action).1)
      (fun before _ after => ReadForward before after) talk
      [writes "one", .commitSend 0 10, .wait 60, writes "two", .commitSend 1 11, reads 10,
        reads 11] := by
  have none : talk.CoherentReceipts := fun row rowMem => nomatch rowMem
  apply (run_readForward_iff _ _ none _).mpr
  simp only [EveryStep.cons_iff]
  refine ⟨trivial, trivial, trivial, trivial, trivial, ?_, ?_, EveryStep.nil⟩
  · intro message found _ conversation room member joined last isLast
    cases found
    cases room
    cases joined
    cases isLast
  · intro message found _ conversation room member joined last isLast
    cases found
    cases room
    cases joined
    cases isLast
    decide

/-- A receipt for the older of two messages arrives last. -/
theorem lateReceipt_movesBack : ¬ EveryStep (fun before move after => after = (before.perform
          { fingerprint := fun _ => "", cursorMicros := id } {} move.action).1)
        (fun before _ after => ReadForward before after) talk
        [writes "one", .commitSend 0 10, .wait 60, writes "two", .commitSend 1 11, reads 11,
          reads 10] := by
  intro forward
  simp only [EveryStep.cons_iff] at forward
  have back := forward.2.2.2.2.2.2.1.pointers 1 2 _ rfl _ rfl
  revert back
  decide

end ChatState

end Ithute
