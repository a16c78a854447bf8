import Ithute.Library.TransitionRuns
import Ithute.RealtimeChatSteps

/-!
# What deletion hides

`_message_out` hides the content of a deleted message.  The event of a
message and a forward read the row itself.  Two states that differ only in
the content of a deleted message are compared along the same steps.
-/

namespace Ithute

open TransitionRuns

def Message.setContent (messageId : ℕ) (content : MessageContent) (message : Message) : Message :=
  if message.id = messageId then { message with content := content }
  else message

def PendingSend.setContent (messageId : ℕ) (content : MessageContent)
    (pending : PendingSend) : PendingSend :=
  { pending with
    forwarded := pending.forwarded.map (Message.setContent messageId content) }

def PendingCall.setContent (messageId : ℕ) (content : MessageContent) : PendingCall → PendingCall
  | .send pending => .send (pending.setContent messageId content)
  | .emission queued =>
    .emission { queued with
        message := queued.message.setContent messageId content
        sends := queued.sends.map (PendingSend.setContent messageId content) }

def CallOutcome.setContent (messageId : ℕ) (content : MessageContent) : CallOutcome → CallOutcome
  | .responds response => .responds response
  | .continues call => .continues (call.setContent messageId content)

namespace ChatState

def setContent (messageId : ℕ) (content : MessageContent) (state : ChatState) : ChatState :=
  { state with
    messages := state.messages.map (Message.setContent messageId content)
    pending := state.pending.map (PendingCall.setContent messageId content) }

def Deleted (state : ChatState) (messageId : ℕ) : Prop :=
  (∃ row ∈ state.messages, row.id = messageId) ∧ ∀ row ∈ state.messages, row.id = messageId →
      row.deletedAt.isSome = true

end ChatState

def PendingSend.copies (pending : PendingSend) : Prop :=
  stripText pending.payload.body = "" ∨ pending.payload.data.isEmpty = true ∨
      pending.payload.attachments = []

namespace ChatState

/-- The step queues an event about the message, or inserts a message that
copies from it. -/
def Discloses (messageId : ℕ) (state : ChatState) : ChatAction → Prop
  | .commitSend index _ =>
    ∃ pending, state.pending[index]? = some (.send pending) ∧
      (∃ forwarded ∈ pending.forwarded, forwarded.id = messageId) ∧ pending.copies
  | .emit index _ _ =>
    ∃ emission, state.pending[index]? = some (.emission emission) ∧ emission.message.id = messageId
  | _ => False

end ChatState

section Lookups

variable {messageId : ℕ} {content : MessageContent} {state : ChatState}

@[simp]
theorem setContent_id (message : Message) :
    (message.setContent messageId content).id = message.id := by
  unfold Message.setContent
  split <;> rfl

theorem setContent_of_ne {message : Message} (other : message.id ≠ messageId) :
    message.setContent messageId content = message :=
  if_neg other

theorem setContent_column {α : Type*} (column : Message → α) (same : ∀ message content,
      column { message with content := content } = column message)
    (message : Message) : column (message.setContent messageId content) = column message := by
  unfold Message.setContent
  split
  · exact same message content
  · rfl

theorem messageOut_setContent {message : Message}
    (deleted : message.id = messageId → message.deletedAt.isSome = true) :
    messageOut (message.setContent messageId content) = messageOut message := by
  unfold Message.setContent
  split
  · rename_i same
    simp [messageOut, deleted same]
  · rfl

namespace ChatState

@[simp]
theorem conversations_setContent : (state.setContent messageId content).conversations =
      state.conversations :=
  rfl

@[simp]
theorem reactions_setContent : (state.setContent messageId content).reactions = state.reactions :=
  rfl

@[simp]
theorem pins_setContent : (state.setContent messageId content).pins = state.pins := rfl

@[simp]
theorem events_setContent : (state.setContent messageId content).events = state.events := rfl

@[simp]
theorem clock_setContent : (state.setContent messageId content).clock = state.clock := rfl

@[simp]
theorem memberIds_setContent (conversationId : ℕ) :
    (state.setContent messageId content).memberIds conversationId =
      state.memberIds conversationId :=
  rfl

@[simp]
theorem room?_setContent (applicationId : String) (roomKey : Option String) :
    (state.setContent messageId content).room? applicationId roomKey =
      state.room? applicationId roomKey :=
  rfl

@[simp]
theorem conversation?_setContent (id : ℕ) : (state.setContent messageId content).conversation? id =
      state.conversation? id :=
  rfl

@[simp]
theorem member?_setContent (conversation : Conversation) (principal : UserPrincipal) :
    (state.setContent messageId content).member? conversation principal =
      state.member? conversation principal :=
  rfl

theorem find?_setContent (matches_ : Message → Bool)
    (same : ∀ message, matches_ (message.setContent messageId content) = matches_ message) :
    (state.setContent messageId content).messages.find? matches_ =
      (state.messages.find? matches_).map (Message.setContent messageId content) := by
  unfold setContent
  rw [List.find?_map]
  congr 2
  funext message
  exact same message

@[simp]
theorem message?_setContent (id : ℕ) : (state.setContent messageId content).message? id =
      (state.message? id).map (Message.setContent messageId content) := by
  apply find?_setContent
  simp

@[simp]
theorem clientMessage?_setContent (conversationId : ℕ) (clientMessageId : Option String) :
    (state.setContent messageId content).clientMessage? conversationId clientMessageId =
      (state.clientMessage? conversationId clientMessageId).map
        (Message.setContent messageId content) := by
  unfold clientMessage?
  cases presentText clientMessageId with
  | none => rfl
  | some key =>
    apply find?_setContent
    intro message
    rw [setContent_column Message.conversationId (fun _ _ => rfl),
      setContent_column Message.clientMessageId (fun _ _ => rfl)]

@[simp]
theorem messageClash_setContent (message : Message) :
    (state.setContent messageId content).messageClash message ↔ state.messageClash message := by
  have clashes (row : Message) : ((row.setContent messageId content).id = message.id ∨
        ((row.setContent messageId content).conversationId = message.conversationId ∧
          (row.setContent messageId content).clientMessageId = message.clientMessageId ∧
          (row.setContent messageId content).clientMessageId ≠ none)) ↔
      (row.id = message.id ∨ (row.conversationId = message.conversationId ∧
          row.clientMessageId = message.clientMessageId ∧ row.clientMessageId ≠ none)) := by
    rw [setContent_id, setContent_column Message.conversationId (fun _ _ => rfl),
      setContent_column Message.clientMessageId (fun _ _ => rfl)]
  unfold messageClash setContent
  dsimp only
  simp only [List.mem_map, exists_exists_and_eq_and, clashes]

variable {message : Message}

theorem Deleted.ne_of_fresh (deleted : state.Deleted messageId)
    (fresh : ¬ state.messageClash message) : message.id ≠ messageId := by
  obtain ⟨row, member, same⟩ := deleted.1
  intro equal
  exact fresh ⟨row, member, .inl (same.trans equal.symm)⟩

theorem insertMessage_setContent (other : message.id ≠ messageId) :
    (state.setContent messageId content).insertMessage message =
      (state.insertMessage message).setContent messageId content := by
  unfold insertMessage touchConversation setContent
  simp only [List.map_append, List.map_cons, List.map_nil]
  rw [setContent_of_ne other]

theorem Deleted.of_mem (deleted : state.Deleted messageId) (member : message ∈ state.messages) :
    message.id = messageId → message.deletedAt.isSome = true :=
  deleted.2 message member

theorem messageOut_existing (deleted : state.Deleted messageId)
    {conversationId : ℕ} {clientMessageId : Option String} {existing : Message}
    (found : state.clientMessage? conversationId clientMessageId = some existing) :
    messageOut (existing.setContent messageId content) = messageOut existing :=
  messageOut_setContent (deleted.of_mem (clientMessage?_spec found).1)

end ChatState

end Lookups

namespace ChatState

section Endpoints

variable {messageId : ℕ} {content : MessageContent} {state : ChatState}

def setResult (messageId : ℕ) (content : MessageContent)
    (result : ChatState × CallOutcome) : ChatState × CallOutcome :=
  (result.1.setContent messageId content, result.2.setContent messageId content)

theorem withConversation_setContent {principal : UserPrincipal} {conversationId : ℕ}
    {first second : Conversation → ConversationMember → ChatState × CallOutcome}
    (same : ∀ conversation member, first conversation member =
      setResult messageId content (second conversation member)) :
    (state.setContent messageId content).withConversation principal conversationId first =
      setResult messageId content (state.withConversation principal conversationId second) := by
  unfold withConversation
  rw [conversation?_setContent]
  cases state.conversation? conversationId with
  | none => rfl
  | some conversation =>
    dsimp only
    rw [member?_setContent]
    cases state.member? conversation principal with
    | none => rfl
    | some member => exact same conversation member

theorem withMessage_setContent {principal : UserPrincipal} {id : ℕ} {visible : Message → Bool}
    {first second : Message → Conversation → ConversationMember → ChatState × CallOutcome}
    (unseen : ∀ message, visible (message.setContent messageId content) = visible message)
    (same : ∀ message ∈ state.messages, visible message = true → ∀ conversation member,
        first (message.setContent messageId content) conversation member =
          setResult messageId content (second message conversation member)) :
    (state.setContent messageId content).withMessage principal id visible first =
      setResult messageId content (state.withMessage principal id visible second) := by
  unfold withMessage
  rw [message?_setContent]
  cases found : state.message? id with
  | none => rfl
  | some message =>
    have member := mem_of_message? found
    simp only [Option.map_some, unseen, setContent_column Message.applicationId (fun _ _ => rfl),
      setContent_column Message.conversationId (fun _ _ => rfl)]
    split
    · rename_i shown
      rw [conversation?_setContent]
      cases state.conversation? message.conversationId with
      | none => rfl
      | some conversation =>
        dsimp only
        rw [member?_setContent]
        cases state.member? conversation principal with
        | none => rfl
        | some membership => exact same message member shown.2 conversation membership
    · rfl

variable (principal : UserPrincipal) (conversationId : ℕ)

theorem listMessages_setContent (deleted : state.Deleted messageId)
    (settings : ChatSettings) (principal : UserPrincipal)
    (conversationId : ℕ) (before : Option ℕ) (limit : ℕ+) :
    (state.setContent messageId content).listMessages settings principal
        conversationId before limit =
      setResult messageId content (state.listMessages settings principal conversationId before
          limit) := by
  apply withConversation_setContent
  intro conversation _
  -- The content plays no part in the choice or the order of the rows.
  have shown (row : Message) : decide ((row.setContent messageId content).conversationId =
          conversation.id ∧ ∀ time ∈ before, (row.setContent messageId content).createdAt < time) =
        decide (row.conversationId = conversation.id ∧ ∀ time ∈ before, row.createdAt < time) := by
    rw [setContent_column Message.conversationId (fun _ _ => rfl),
      setContent_column Message.createdAt (fun _ _ => rfl)]
  have rows : (state.setContent messageId content).messages.filter
        (fun row => decide (row.conversationId = conversation.id ∧
          ∀ time ∈ before, row.createdAt < time)) =
      (state.messages.filter (fun row =>
        decide (row.conversationId = conversation.id ∧ ∀ time ∈ before, row.createdAt < time))).map
        (Message.setContent messageId content) := by
    unfold setContent
    rw [List.filter_map]
    congr 2
    funext row
    exact shown row
  have sorted (rows : List Message) :
      (rows.map (Message.setContent messageId content)).insertionSort
          (fun first second => second.createdAt ≤ first.createdAt) =
        (rows.insertionSort fun first second => second.createdAt ≤ first.createdAt).map
            (Message.setContent messageId content) := by
    symm
    apply List.map_insertionSort
    intro first _ second _
    rw [setContent_column Message.createdAt (fun _ _ => rfl),
      setContent_column Message.createdAt (fun _ _ => rfl)]
  dsimp only
  rw [rows, sorted, ← List.map_take, ← List.map_reverse, List.map_map]
  unfold setResult answer CallOutcome.setContent
  congr 3
  apply List.map_congr_left
  intro message member
  apply messageOut_setContent
  apply deleted.of_mem
  have inSorted := List.mem_of_mem_take (List.mem_reverse.mp member)
  exact List.mem_of_mem_filter ((List.mem_insertionSort _).mp inSorted)

theorem updateMessage_setContent {message : Message} (other : message.id ≠ messageId) :
    (state.setContent messageId content).updateMessage message =
      (state.updateMessage message).setContent messageId content := by
  unfold updateMessage setContent
  simp only [List.map_map]
  congr 2
  funext row
  simp only [Function.comp_apply, setContent_id]
  split
  · rw [setContent_of_ne other]
  · rfl

variable (id : ℕ)

theorem editMessage_setContent (deleted : state.Deleted messageId)
    (principal : UserPrincipal) (id : ℕ) (payload : MessageEdit) :
    (state.setContent messageId content).editMessage principal id payload =
      setResult messageId content (state.editMessage principal id payload) := by
  apply withMessage_setContent
  · intro message
    rw [setContent_column Message.deletedAt (fun _ _ => rfl)]
  · intro message member visible _ membership
    have other : message.id ≠ messageId := by
      intro same
      have hidden := deleted.of_mem member same
      rw [Option.isNone_iff_eq_none] at visible
      simp [visible] at hidden
    rw [setContent_of_ne other]
    cases mayModerate message membership principal with
    | false => rfl
    | true =>
      simp only [if_true]
      rw [updateMessage_setContent (by exact other)]
      unfold setResult CallOutcome.setContent PendingCall.setContent
      dsimp only
      rw [setContent_of_ne (by exact other)]
      rfl

theorem deleteMessage_setContent (deleted : state.Deleted messageId)
    (principal : UserPrincipal) (id : ℕ) :
    (state.setContent messageId content).deleteMessage principal id =
      setResult messageId content (state.deleteMessage principal id) := by
  apply withMessage_setContent
  · intro message
    rfl
  · intro message member _ _ membership
    have moderates : mayModerate (message.setContent messageId content) membership
            principal = mayModerate message membership principal := by
      unfold mayModerate
      rw [setContent_column Message.senderSub (fun _ _ => rfl)]
    rw [moderates, setContent_column Message.deletedAt (fun _ _ => rfl)]
    cases mayModerate message membership principal with
    | false => rfl
    | true =>
      simp only [if_true]
      cases kept : message.deletedAt.isNone with
      | false => rfl
      | true =>
        have other : message.id ≠ messageId := by
          intro same
          have hidden := deleted.of_mem member same
          rw [Option.isNone_iff_eq_none] at kept
          simp [kept] at hidden
        simp only [if_true]
        rw [setContent_of_ne other, updateMessage_setContent (by exact other)]
        unfold setResult CallOutcome.setContent PendingCall.setContent
        dsimp only
        rw [setContent_of_ne (by exact other)]
        rfl

theorem acknowledgeMessage_setContent (read : Bool) :
    (state.setContent messageId content).acknowledgeMessage principal id read =
      setResult messageId content (state.acknowledgeMessage principal id read) := by
  apply withMessage_setContent
  · intro message
    rfl
  · intro message _ _ conversation membership
    rw [setContent_id]
    cases read <;> rfl

theorem markRead_setContent :
    (state.setContent messageId content).markRead principal conversationId id =
      setResult messageId content (state.markRead principal conversationId id) := by
  apply withConversation_setContent
  intro conversation membership
  rw [message?_setContent]
  cases state.message? id with
  | none => rfl
  | some message =>
    simp only [Option.map_some, setContent_id,
      setContent_column Message.conversationId (fun _ _ => rfl)]
    split <;> rfl

theorem addReaction_setContent (emoji : String) :
    (state.setContent messageId content).addReaction principal id emoji =
      setResult messageId content (state.addReaction principal id emoji) := by
  apply withMessage_setContent
  · intro message
    rfl
  · intro message _ _ conversation membership
    rw [setContent_id, reactions_setContent]
    cases state.reactions.find? fun row => decide
      (row.messageId = message.id ∧ row.authUserId = principal.sub ∧ row.emoji = emoji) <;> rfl

theorem removeReaction_setContent (emoji : String) :
    (state.setContent messageId content).removeReaction principal id emoji =
      setResult messageId content (state.removeReaction principal id emoji) := by
  apply withMessage_setContent
  · intro message
    rfl
  · intro message _ _ conversation membership
    rw [setContent_id]
    rfl

theorem pinMessage_setContent :
    (state.setContent messageId content).pinMessage principal conversationId id =
      setResult messageId content (state.pinMessage principal conversationId id) := by
  apply withConversation_setContent
  intro conversation membership
  cases mayPin membership with
  | false => rfl
  | true =>
    simp only [if_true]
    rw [message?_setContent]
    cases state.message? id with
    | none => rfl
    | some message =>
      simp only [Option.map_some, setContent_id,
        setContent_column Message.conversationId (fun _ _ => rfl)]
      split
      · rfl
      · rw [pins_setContent]
        cases state.pins.find? fun row => decide (row.conversationId = conversation.id ∧
            row.messageId = message.id) <;> rfl

theorem unpinMessage_setContent :
    (state.setContent messageId content).unpinMessage principal conversationId id =
      setResult messageId content (state.unpinMessage principal conversationId id) := by
  apply withConversation_setContent
  intro conversation membership
  cases mayPin membership <;> rfl

theorem createConversation_setContent (settings : ChatSettings)
    (applicationId : String) (creator : Option ℕ) (payload : ConversationCreate) (newId : ℕ) :
    (state.setContent messageId content).createConversation settings
        applicationId creator payload newId =
      setResult messageId content (state.createConversation settings applicationId creator payload
          newId) := by
  unfold createConversation
  cases payload.refusal? settings creator with
  | some detail => rfl
  | none =>
    dsimp only
    rw [conversations_setContent, room?_setContent]
    split
    · cases state.room? applicationId payload.roomKey <;> rfl
    · rfl

theorem user_setContent (deleted : state.Deleted messageId)
    (settings : ChatSettings) (principal : UserPrincipal) (newId : ℕ) (request : UserRequest) :
    (state.setContent messageId content).user settings principal newId request =
      setResult messageId content (state.user settings principal newId request) := by
  cases request with
  | listConversations => rfl
  | createConversation payload => exact createConversation_setContent ..
  | listMessages conversationId before limit => exact listMessages_setContent deleted ..
  | editMessage id payload => exact editMessage_setContent deleted ..
  | deleteMessage id => exact deleteMessage_setContent deleted ..
  | acknowledgeMessage id read => exact acknowledgeMessage_setContent ..
  | markRead conversationId id => exact markRead_setContent ..
  | addReaction id emoji => exact addReaction_setContent ..
  | removeReaction id emoji => exact removeReaction_setContent ..
  | pinMessage conversationId id => exact pinMessage_setContent ..
  | unpinMessage conversationId id => exact unpinMessage_setContent ..
  | activity conversationId =>
    apply withConversation_setContent
    intro conversation membership
    rfl
  | conversationPresence conversationId =>
    apply withConversation_setContent
    intro conversation membership
    rfl
  | replay after limit => rfl
  | acknowledgeEvent eventId =>
    change acknowledgeEvent _ _ _ = setResult _ _ (acknowledgeEvent _ _ _)
    unfold acknowledgeEvent
    rw [events_setContent]
    split <;> rfl

theorem setContent_emission {queued : Emission}
    (other : queued.message.id ≠ messageId) (unsent : queued.sends = none) :
    (PendingCall.emission queued).setContent messageId content = .emission queued := by
  unfold PendingCall.setContent
  dsimp only
  rw [setContent_of_ne other, unsent, Option.map_none, ← unsent]

theorem insert_setContent (deleted : state.Deleted messageId) {message : Message}
    {taken inserted takenHere insertedHere : ChatState × CallOutcome}
    (whenTaken : takenHere = setResult messageId content taken)
    (whenFresh : message.id ≠ messageId → insertedHere = setResult messageId content inserted) :
    (if (state.setContent messageId content).messageClash message then takenHere
      else insertedHere) =
      setResult messageId content (if state.messageClash message then taken else inserted) := by
  by_cases clash : state.messageClash message
  · rw [if_pos ((messageClash_setContent message).mpr clash), if_pos clash]
    exact whenTaken
  · rw [if_neg (clash ∘ (messageClash_setContent message).mp), if_neg clash]
    exact whenFresh (deleted.ne_of_fresh clash)

theorem platform_setContent (deleted : state.Deleted messageId)
    (services : RealtimeServices) (settings : ChatSettings)
    (applicationId : String) (newId random : ℕ) (request : PlatformRequest) :
    (state.setContent messageId content).platform services settings
        applicationId newId random request =
      setResult messageId content (state.platform services settings applicationId newId random
          request) := by
  cases request with
  | createConversation payload => exact createConversation_setContent ..
  | manageMembers conversationId mutations =>
    unfold platform manageMembers
    dsimp only
    rw [conversation?_setContent]
    cases state.conversation? conversationId with
    | none => rfl
    | some conversation =>
      dsimp only
      split
      · rfl
      · rw [memberIds_setContent]
        split <;> rfl
  | publishConversationEvent conversationId payload =>
    unfold platform publishConversationEvent
    dsimp only
    rw [conversation?_setContent]
    cases state.conversation? conversationId with
    | none => rfl
    | some conversation =>
      dsimp only
      split
      · rfl
      · rw [clientMessage?_setContent]
        cases found : state.clientMessage? conversation.id payload.clientMessageId with
        | some existing =>
          simp only [Option.map_some, messageOut_existing deleted found]
          rfl
        | none =>
          apply insert_setContent deleted
          · rfl
          · intro other
            rw [insertMessage_setContent other]
            unfold setResult CallOutcome.setContent
            dsimp only
            rw [setContent_emission (by exact other) rfl]
            rfl
  | publishEvent payload =>
    unfold platform publishEvent
    dsimp only
    rw [events_setContent, clock_setContent]
    cases queueEvent services settings.events state.events
      (payload.request applicationId) state.clock newId random with
    | ok result => rfl
    | error error => cases error <;> rfl

theorem withReply_setContent {conversationId : ℕ} {replyId : Option ℕ}
    {first second : ChatState × CallOutcome} (same : first = setResult messageId content second) :
    (state.setContent messageId content).withReply conversationId replyId first =
      setResult messageId content (state.withReply conversationId replyId second) := by
  unfold withReply
  cases replyId with
  | none => exact same
  | some replyId =>
    dsimp only
    rw [message?_setContent]
    cases state.message? replyId with
    | none => rfl
    | some reply =>
      rw [Option.map_some]
      dsimp only
      rw [setContent_column Message.conversationId (fun _ _ => rfl)]
      split
      · rfl
      · exact same

theorem withForwarded_setContent {principal : UserPrincipal} {forwardId : Option ℕ}
    {first second : Option Message → ChatState × CallOutcome} (same : ∀ forwarded,
      first (forwarded.map (Message.setContent messageId content)) =
        setResult messageId content (second forwarded)) :
    (state.setContent messageId content).withForwarded principal forwardId first =
      setResult messageId content (state.withForwarded principal forwardId second) := by
  unfold withForwarded
  cases forwardId with
  | none => exact same none
  | some forwardId =>
    dsimp only
    rw [message?_setContent]
    cases state.message? forwardId with
    | none => rfl
    | some forwarded =>
      rw [Option.map_some]
      dsimp only
      rw [setContent_column Message.applicationId (fun _ _ => rfl),
        setContent_column Message.conversationId (fun _ _ => rfl)]
      split
      · rfl
      rw [conversation?_setContent]
      cases state.conversation? forwarded.conversationId with
      | none => rfl
      | some source =>
        dsimp only
        rw [member?_setContent]
        cases state.member? source principal with
        | none => rfl
        | some member => exact same (some forwarded)

theorem checkSend_setContent (deleted : state.Deleted messageId)
    (principal : UserPrincipal) (conversationId : ℕ) (payload : MessageCreate) :
    (state.setContent messageId content).checkSend principal conversationId payload =
      setResult messageId content (state.checkSend principal conversationId payload) := by
  unfold checkSend
  rw [conversation?_setContent]
  cases state.conversation? conversationId with
  | none => rfl
  | some conversation =>
    dsimp only
    split
    · rfl
    rw [member?_setContent]
    cases state.member? conversation principal with
    | none => rfl
    | some member =>
      dsimp only
      split
      · rfl
      rw [clientMessage?_setContent]
      cases found : state.clientMessage? conversation.id payload.clientMessageId with
      | some existing =>
        simp only [Option.map_some, messageOut_existing deleted found]
        rfl
      | none =>
        rw [Option.map_none, memberIds_setContent]
        dsimp only
        split
        · rfl
        apply withReply_setContent
        apply withForwarded_setContent
        intro forwarded
        rfl

theorem commitSend_setContent (deleted : state.Deleted messageId)
    (pending : PendingSend) (newId : ℕ) (own : (∃ forwarded ∈ pending.forwarded,
      forwarded.id = messageId) → ¬ pending.copies) :
    (state.setContent messageId content).commitSend (pending.setContent messageId content) newId =
      setResult messageId content (state.commitSend pending newId) := by
  have sameContent : (pending.setContent messageId content).content = pending.content := by
    unfold PendingSend.content PendingSend.setContent
    cases source : pending.forwarded with
    | none => rfl
    | some forwarded =>
      simp only [Option.map_some]
      by_cases here : forwarded.id = messageId
      · have full := own ⟨forwarded, source, here⟩
        simp only [PendingSend.copies, not_or] at full
        rw [if_neg full.1, if_neg full.1, if_neg full.2.1,
          if_neg full.2.1, if_neg full.2.2, if_neg full.2.2]
      · rw [setContent_of_ne here]
  have sameMessage (now : ℕ) : (pending.setContent messageId content).message newId now =
        pending.message newId now := by
    unfold PendingSend.message
    rw [sameContent]
    rfl
  unfold commitSend
  dsimp only
  rw [sameMessage, clock_setContent]
  apply insert_setContent deleted
  · have lookup : (state.setContent messageId content).clientMessage?
            (pending.setContent messageId content).conversationId
            (pending.setContent messageId content).payload.clientMessageId =
          (state.clientMessage? pending.conversationId pending.payload.clientMessageId).map
              (Message.setContent messageId content) :=
      clientMessage?_setContent _ _
    rw [lookup]
    cases found : state.clientMessage? pending.conversationId pending.payload.clientMessageId with
    | none => rfl
    | some existing =>
      simp only [Option.map_some, messageOut_existing deleted found]
      rfl
  · intro other
    rw [insertMessage_setContent other]
    unfold setResult CallOutcome.setContent PendingCall.setContent
    dsimp only
    rw [setContent_of_ne other]
    rfl

end Endpoints

section Steps

variable {services : RealtimeServices} {settings : ChatSettings}
variable {messageId : ℕ} {content : MessageContent} {state : ChatState}

theorem dropCall_setContent (index : ℕ) : (state.setContent messageId content).dropCall index =
      (state.dropCall index).setContent messageId content := by
  unfold dropCall setContent
  simp only [List.eraseIdx_eq_take_drop_succ, List.map_append, List.map_take, List.map_drop]

theorem resume_setContent (result : ChatState × CallOutcome) :
    resume (setResult messageId content result) = ((resume result).1.setContent messageId content,
        (resume result).2) := by
  obtain ⟨after, outcome⟩ := result
  cases outcome with
  | responds response => rfl
  | continues call =>
    unfold resume setResult CallOutcome.setContent setContent
    simp only [List.map_append, List.map_cons, List.map_nil]

theorem emit_setContent (emission : Emission) (sends : Option PendingSend) (eventId random : ℕ) :
    (state.setContent messageId content).emit services settings
        { emission with sends := sends } eventId random =
      ((state.emit services settings emission eventId random).1.setContent messageId content,
        (state.emit services settings emission eventId random).2) := by
  unfold emit
  rw [events_setContent, clock_setContent, memberIds_setContent]
  have sameRequest (recipients : List ℕ) :
      ({ emission with sends := sends } : Emission).request recipients =
        emission.request recipients := rfl
  dsimp only
  rw [sameRequest]
  cases queueEvent services settings.events state.events
    (emission.request (state.memberIds emission.message.conversationId))
    state.clock eventId random <;> rfl

theorem perform_setContent (deleted : state.Deleted messageId)
    {action : ChatAction} (hides : ¬ state.Discloses messageId action) :
    (state.setContent messageId content).perform services settings action =
      ((state.perform services settings action).1.setContent messageId content,
        (state.perform services settings action).2) := by
  have pendingCall (index : ℕ) : (state.setContent messageId content).pending[index]? =
        state.pending[index]?.map (PendingCall.setContent messageId content) :=
    List.getElem?_map
  cases action with
  | wait elapsed => rfl
  | user principal newId request =>
    unfold perform
    dsimp only
    rw [user_setContent deleted, resume_setContent]
  | send principal conversationId payload =>
    unfold perform
    dsimp only
    rw [checkSend_setContent deleted, resume_setContent]
  | platform applicationId newId random request =>
    unfold perform
    dsimp only
    rw [platform_setContent deleted, resume_setContent]
  | commitSend index newId =>
    unfold perform
    dsimp only
    rw [pendingCall]
    cases found : state.pending[index]? with
    | none => rfl
    | some call =>
      cases call with
      | emission queued => rfl
      | send pending =>
        have own : (∃ forwarded ∈ pending.forwarded, forwarded.id = messageId) → ¬ pending.copies :=
          fun forwards copies => hides ⟨pending, found, forwards, copies⟩
        have stillDeleted : (state.dropCall index).Deleted messageId := deleted
        simp only [Option.map_some, PendingCall.setContent]
        rw [dropCall_setContent, commitSend_setContent stillDeleted pending newId own,
          resume_setContent]
  | emit index eventId random =>
    unfold perform
    dsimp only
    rw [pendingCall]
    cases found : state.pending[index]? with
    | none => rfl
    | some call =>
      cases call with
      | send pending => rfl
      | emission queued =>
        have other : queued.message.id ≠ messageId := fun same => hides ⟨queued, found, same⟩
        simp only [Option.map_some, PendingCall.setContent,
          setContent_of_ne other, dropCall_setContent]
        rw [emit_setContent]
  | deliver loaded changed => rfl
  | crash index =>
    unfold perform
    dsimp only
    rw [dropCall_setContent]

theorem Deleted.perform (deleted : state.Deleted messageId) (action : ChatAction) :
    (state.perform services settings action).1.Deleted messageId := by
  have step := perform_messages services settings state action
  generalize (state.perform services settings action).1 = after at step ⊢
  unfold Deleted
  generalize after.messages = rows at step ⊢
  obtain ⟨⟨row, member, same⟩, hidden⟩ := deleted
  -- rewriting a row that is still shown leaves the deleted one alone
  have rewritten (message : Message) (other : message.id ≠ messageId) :
      (∃ row ∈ (state.updateMessage message).messages, row.id = messageId) ∧
        ∀ row ∈ (state.updateMessage message).messages,
          row.id = messageId → row.deletedAt.isSome = true := by
    unfold updateMessage
    constructor
    · refine ⟨row, List.mem_map.mpr ⟨row, member, ?_⟩, same⟩
      rw [if_neg]
      rw [same]
      exact other.symm
    · intro changed changedMem
      obtain ⟨old, oldMem, rfl⟩ := List.mem_map.mp changedMem
      split
      · intro here
        exact absurd here other
      · exact hidden old oldMem
  have shown {message : Message} (messageMem : message ∈ state.messages)
      (kept : message.deletedAt = none) : message.id ≠ messageId := by
    intro here
    have gone := hidden message messageMem here
    rw [kept] at gone
    cases gone
  cases step with
  | keep => exact ⟨⟨row, member, same⟩, hidden⟩
  | insert message fresh shownHere =>
    constructor
    · exact ⟨row, List.mem_append_left _ member, same⟩
    · intro added addedMem
      rw [List.mem_append, List.mem_singleton] at addedMem
      rcases addedMem with old | new
      · exact hidden added old
      · intro here
        rw [new] at here
        exact absurd ⟨row, member, .inl (same.trans here.symm)⟩ fresh
  | edit allowed message messageMem kept content editedAt =>
    have other := shown messageMem kept
    exact rewritten _ other
  | delete allowed message messageMem kept deletedAt =>
    have other := shown messageMem kept
    exact rewritten _ other

end Steps

def run (services : RealtimeServices) (settings : ChatSettings) :
    ChatState → List ChatAction → ChatState × List (Option ApiResponse)
  | state, [] => (state, [])
  | state, action :: actions =>
    let step := state.perform services settings action
    let rest := run services settings step.1 actions
    (rest.1, step.2 :: rest.2)

def Indistinguishable (services : RealtimeServices)
    (settings : ChatSettings) (messageId : ℕ) (first second : ChatState)
    (actions : List ChatAction) : Prop :=
  let left := run services settings first actions
  let right := run services settings second actions
  left.2 = right.2 ∧ left.1.events = right.1.events ∧
    left.1.messages.filter (fun row => decide (row.id ≠ messageId)) =
      right.1.messages.filter (fun row => decide (row.id ≠ messageId))

section Runs

variable {services : RealtimeServices} {settings : ChatSettings} {messageId : ℕ}

theorem otherMessages_setContent (state : ChatState) (content : MessageContent) :
    (state.setContent messageId content).messages.filter (fun row => decide (row.id ≠ messageId)) =
      state.messages.filter (fun row => decide (row.id ≠ messageId)) := by
  unfold setContent
  rw [List.filter_map]
  have sameRows : ((fun row : Message => decide (row.id ≠ messageId)) ∘
      Message.setContent messageId content) = fun row => decide (row.id ≠ messageId) := by
    funext row
    simp
  rw [sameRows]
  calc
    _ = (state.messages.filter (fun row => decide (row.id ≠ messageId))).map id := by
      apply List.map_congr_left
      intro row member
      apply setContent_of_ne
      simpa using List.of_mem_filter member
    _ = _ := List.map_id _

theorem run_setContent (content : MessageContent) {actions : List ChatAction} {start : ChatState}
    (deleted : start.Deleted messageId) (hides : EveryStep (fun before action after =>
        after = (before.perform services settings action).1)
      (fun before action _ => ¬ before.Discloses messageId action)
      start actions) : run services settings (start.setContent messageId content) actions =
      ((run services settings start actions).1.setContent messageId content,
        (run services settings start actions).2) := by
  induction actions generalizing start with
  | nil => rfl
  | cons action actions ih =>
    obtain ⟨hidesNow, hidesLater⟩ := EveryStep.cons_iff.mp hides
    unfold run
    dsimp only
    rw [perform_setContent deleted hidesNow, ih (deleted.perform action) hidesLater]

/-- Two runs that differ only in a deleted message cannot be told apart as
long as no step queues an event about it or copies from it. -/
theorem run_deletedContentHidden {actions : List ChatAction}
    {start : ChatState} (deleted : start.Deleted messageId) (hides : EveryStep
      (fun before action after => after = (before.perform services settings action).1)
      (fun before action _ => ¬ before.Discloses messageId action) start actions)
    (first second : MessageContent) : Indistinguishable services settings messageId
      (start.setContent messageId first) (start.setContent messageId second) actions := by
  unfold Indistinguishable
  rw [run_setContent first deleted hides, run_setContent second deleted hides]
  dsimp only
  rw [otherMessages_setContent, otherMessages_setContent]
  exact ⟨rfl, rfl, rfl⟩

def smallTalk (content : MessageContent) : ChatState where
  conversations :=
    [{ id := 1
       applicationId := "app"
       kind := .direct
       title := none
       description := none
       roomKey := none
       createdBySub := some 1
       createdAt := 0
       updatedAt := 0 }]
  members :=
    [{ conversationId := 1, authUserId := 1, role := .owner },
      { conversationId := 1, authUserId := 2, role := .member }]
  messages :=
    [{ id := 7
       conversationId := 1
       applicationId := "app"
       senderSub := some 1
       senderClientId := "app"
       senderKind := .user
       messageType := "chat.message"
       version := 1
       priority := .normal
       content := content
       mentions := []
       replyToMessageId := none
       forwardedFromMessageId := none
       clientMessageId := none
       createdAt := 0 }]

/-- The conversation once the message is deleted and before the event of the
deletion is queued. -/
def deletedTalk (content : MessageContent) : ChatState :=
  ((smallTalk content).perform { fingerprint := fun _ => "", cursorMicros := id }
    {} (.user { clientId := "app", sub := 1 } 0 (.deleteMessage 7))).1

theorem deletedTalk_deleted (content : MessageContent) : (deletedTalk content).Deleted 7 := by
  constructor
  · exact ⟨_, List.mem_singleton_self _, rfl⟩
  · intro row member same
    cases List.mem_singleton.mp member
    rfl

/-- Reading the conversation shows nothing of the message. -/
theorem run_deletedContentHidden_reading :
    Indistinguishable { fingerprint := fun _ => "", cursorMicros := id } {} 7
      ((deletedTalk .empty).setContent 7 { body := "meet at noon", data := [], attachments := [] })
      ((deletedTalk .empty).setContent 7 { body := "stay away", data := [], attachments := [] })
      [.user { clientId := "app", sub := 2 } 0 (.listMessages 1 none 50)] :=
  run_deletedContentHidden (deletedTalk_deleted .empty)
    (EveryStep.cons_iff.mpr ⟨by exact not_false, EveryStep.nil⟩) _ _

/-- The event of the deletion carries the text, and a forward copies it. -/
theorem deletedContent_disclosed : ∃ first second : MessageContent, (deletedTalk .empty).Deleted 7 ∧
      ¬ Indistinguishable { fingerprint := fun _ => "", cursorMicros := id }
        {} 7 ((deletedTalk .empty).setContent 7 first)
        ((deletedTalk .empty).setContent 7 second) [.emit 0 1 1] ∧
      ¬ Indistinguishable { fingerprint := fun _ => "", cursorMicros := id }
        {} 7 ((deletedTalk .empty).setContent 7 first)
        ((deletedTalk .empty).setContent 7 second)
        [.send { clientId := "app", sub := 2 } 1
            { body := ""
              clientMessageId := none
              data := []
              replyToMessageId := none
              forwardMessageId := some 7
              mentionSubs := []
              attachments := []
              priority := .normal },
          .commitSend 1 8] := by
  refine ⟨{ body := "meet at noon", data := [], attachments := [] },
    { body := "stay away", data := [], attachments := [] },
    deletedTalk_deleted .empty, ?_, ?_⟩
  · intro same
    have bodies := congrArg (List.map fun event : RealtimeEvent =>
      event.payload.body) same.2.1
    revert bodies
    decide
  · intro same
    have bodies := congrArg (List.map fun message : Message =>
      message.content.body) same.2.2
    revert bodies
    decide

end Runs

end ChatState

end Ithute
