import Ithute.RealtimeChat

/-!
# What chat steps do to messages

The guards of the endpoints are used through their rules.  A step keeps the
messages, inserts one, or edits or deletes one.
-/

namespace Ithute

def UserRequest.rewrites : UserRequest → Bool
  | .editMessage _ _ => true
  | .deleteMessage _ => true
  | _ => false

def ChatAction.rewrites : ChatAction → Bool
  | .user _ _ request => request.rewrites
  | _ => false

namespace ChatState

section Guards

variable {state : ChatState} {principal : UserPrincipal}

section Rules

variable (property : ChatState × CallOutcome → Prop)

theorem withConversation_rule {conversationId : ℕ} {continue_ : Conversation → ConversationMember →
      ChatState × CallOutcome} (refuses : ∀ status detail, property (state.refuse status detail))
    (continues : ∀ conversation member, state.conversation? conversationId = some conversation →
      state.member? conversation principal = some member →
        property (continue_ conversation member)) :
    property (state.withConversation principal conversationId continue_) := by
  unfold withConversation
  cases found : state.conversation? conversationId with
  | none => exact refuses _ _
  | some conversation =>
    dsimp only
    cases joined : state.member? conversation principal with
    | none => exact refuses _ _
    | some member => exact continues conversation member found joined

/-- A message endpoint refuses or goes on with a membership in the
conversation of the message. -/
theorem withMessage_rule {messageId : ℕ} {visible : Message → Bool}
    {continue_ : Message → Conversation → ConversationMember → ChatState × CallOutcome}
    (refuses : ∀ status detail, property (state.refuse status detail))
    (continues : ∀ message conversation member,
      state.message? messageId = some message → visible message = true →
      state.conversation? message.conversationId = some conversation →
      state.member? conversation principal = some member →
        property (continue_ message conversation member)) :
    property (state.withMessage principal messageId visible continue_) := by
  unfold withMessage
  cases found : state.message? messageId with
  | none => exact refuses _ _
  | some message =>
    dsimp only
    split
    · rename_i shown
      cases room : state.conversation? message.conversationId with
      | none => exact refuses _ _
      | some conversation =>
        dsimp only
        cases joined : state.member? conversation principal with
        | none => exact refuses _ _
        | some member =>
          exact continues message conversation member found shown.2 room joined
    · exact refuses _ _

theorem withReply_rule {conversationId : ℕ} {replyId : Option ℕ}
    {continue_ : ChatState × CallOutcome}
    (refuses : ∀ status detail, property (state.refuse status detail))
    (continues : property continue_) :
    property (state.withReply conversationId replyId continue_) := by
  unfold withReply
  split
  · exact continues
  · split
    · exact refuses _ _
    · split
      · exact refuses _ _
      · exact continues

theorem withForwarded_rule {forwardId : Option ℕ}
    {continue_ : Option Message → ChatState × CallOutcome}
    (refuses : ∀ status detail, property (state.refuse status detail))
    (continues : ∀ forwarded, (forwardId = none → forwarded = none) →
      property (continue_ forwarded)) :
    property (state.withForwarded principal forwardId continue_) := by
  unfold withForwarded
  cases forwardId with
  | none => exact continues none fun _ => rfl
  | some forwardId =>
    dsimp only
    split
    · exact refuses _ _
    · split
      · exact refuses _ _
      · split
        · exact refuses _ _
        · split
          · exact refuses _ _
          · exact continues _ fun none => nomatch none

end Rules

theorem mem_of_message? {id : ℕ} {message : Message} (found : state.message? id = some message) :
    message ∈ state.messages :=
  List.mem_of_find?_eq_some found

theorem id_of_conversation? {id : ℕ} {conversation : Conversation}
    (found : state.conversation? id = some conversation) : conversation.id = id := by
  simpa using List.find?_some found

theorem clientMessage?_spec {conversationId : ℕ}
    {clientMessageId : Option String} {message : Message}
    (found : state.clientMessage? conversationId clientMessageId = some message) :
    message ∈ state.messages ∧ message.conversationId = conversationId ∧
      message.clientMessageId = clientMessageId := by
  unfold clientMessage? at found
  cases present : presentText clientMessageId with
  | none =>
    rw [present] at found
    cases found
  | some key =>
    rw [present] at found
    have used : message.conversationId = conversationId ∧ message.clientMessageId = some key := by
      simpa using List.find?_some found
    have same : clientMessageId = some key := (Option.filter_eq_some_iff.mp present).1
    exact ⟨List.mem_of_find?_eq_some found, used.1, used.2.trans same.symm⟩

end Guards

inductive MessagesStep (state : ChatState) (rewrites : Bool) : List Message → Prop
  | keep : MessagesStep state rewrites state.messages
  | insert (message : Message) (fresh : ¬ state.messageClash message)
      (shown : message.deletedAt = none) : MessagesStep state rewrites (state.messages ++ [message])
  | edit (allowed : rewrites = true) (message : Message)
      (member : message ∈ state.messages) (kept : message.deletedAt = none)
      (content : MessageContent) (editedAt : Option ℕ) :
      MessagesStep state rewrites (state.updateMessage
        { message with content := content, editedAt := editedAt }).messages
  | delete (allowed : rewrites = true) (message : Message)
      (member : message ∈ state.messages) (kept : message.deletedAt = none) (deletedAt : ℕ) :
      MessagesStep state rewrites (state.updateMessage
        { message with deletedAt := some deletedAt }).messages

theorem MessagesStep.of_dropCall {state : ChatState} {rewrites : Bool}
    {index : ℕ} {rows : List Message} (step : MessagesStep (state.dropCall index) rewrites rows) :
    MessagesStep state rewrites rows := by
  cases step with
  | keep => exact .keep
  | insert message fresh shown => exact .insert message fresh shown
  | edit allowed message member kept content editedAt =>
    exact @MessagesStep.edit state rewrites allowed message member kept content editedAt
  | delete allowed message member kept deletedAt =>
    exact @MessagesStep.delete state rewrites allowed message member kept deletedAt

def EventsStep (services : RealtimeServices) (settings : ChatSettings)
    (state : ChatState) (rows : List RealtimeEvent) : Prop :=
  rows = state.events ∨ ∃ request now id random event,
      queueEvent services settings.events state.events request now id random = .ok (rows, event)

structure RequestStep (services : RealtimeServices)
    (settings : ChatSettings) (state : ChatState) (rewrites : Bool)
    (result : ChatState × CallOutcome) : Prop where
  messages : MessagesStep state rewrites result.1.messages
  events : EventsStep services settings state result.1.events
  pending : result.1.pending = state.pending
  /-- No request but a send goes on with a send. -/
  sends : ∀ call, result.2 = .continues call →
    ∃ emission, call = .emission emission ∧ emission.sends = none

section Messages

variable (services : RealtimeServices) (settings : ChatSettings) (state : ChatState)

variable {services settings state} in
theorem RequestStep.responds {rewrites : Bool}
    {result : ChatState × CallOutcome} {response : ApiResponse}
    (messages : result.1.messages = state.messages) (events : result.1.events = state.events)
    (pending : result.1.pending = state.pending) (answers : result.2 = .responds response) :
    RequestStep services settings state rewrites result where
  messages := by
    rw [messages]
    exact .keep
  events := .inl events
  pending := pending
  sends := by
    intro call continues
    rw [answers] at continues
    cases continues

theorem createConversation_step (applicationId : String)
    (creator : Option ℕ) (payload : ConversationCreate) (newId : ℕ) :
    RequestStep services settings state false
      (state.createConversation settings applicationId creator payload newId) := by
  unfold createConversation
  cases payload.refusal? settings creator with
  | some detail => exact .responds rfl rfl rfl rfl
  | none =>
    dsimp only
    split
    · cases state.room? applicationId payload.roomKey <;>
        exact .responds rfl rfl rfl rfl
    · exact .responds rfl rfl rfl rfl

theorem user_step (principal : UserPrincipal) (newId : ℕ) (request : UserRequest) :
    RequestStep services settings state request.rewrites
      (state.user settings principal newId request) := by
  have refuses (status : ℕ) (detail : String) : RequestStep services settings state request.rewrites
        (state.refuse status detail) :=
    .responds rfl rfl rfl rfl
  cases request with
  | listConversations => exact .responds rfl rfl rfl rfl
  | createConversation payload =>
    exact createConversation_step services settings state _ _ payload newId
  | listMessages conversationId before limit =>
    refine withConversation_rule _ refuses ?_
    intro conversation member found joined
    exact .responds rfl rfl rfl rfl
  | editMessage id payload =>
    refine withMessage_rule _ refuses ?_
    intro message conversation member found visible room joined
    cases mayModerate message member principal with
    | false => exact .responds rfl rfl rfl rfl
    | true =>
      exact
        { messages := .edit rfl message (mem_of_message? found)
            (Option.isNone_iff_eq_none.mp visible) _ _
          events := .inl rfl
          pending := rfl
          sends := by
            rintro call ⟨⟩
            exact ⟨_, rfl, rfl⟩ }
  | deleteMessage id =>
    refine withMessage_rule _ refuses ?_
    intro message conversation member found visible room joined
    cases mayModerate message member principal with
    | false => exact .responds rfl rfl rfl rfl
    | true =>
      simp only [if_true]
      cases kept : message.deletedAt.isNone with
      | false => exact .responds rfl rfl rfl rfl
      | true =>
        exact
          { messages := .delete rfl message (mem_of_message? found)
              (Option.isNone_iff_eq_none.mp kept) _
            events := .inl rfl
            pending := rfl
            sends := by
              rintro call ⟨⟩
              exact ⟨_, rfl, rfl⟩ }
  | acknowledgeMessage id read =>
    refine withMessage_rule _ refuses ?_
    intro message conversation member found visible room joined
    cases read <;> exact .responds rfl rfl rfl rfl
  | markRead conversationId id =>
    refine withConversation_rule _ refuses ?_
    intro conversation member found joined
    cases state.message? id with
    | none => exact .responds rfl rfl rfl rfl
    | some message =>
      dsimp only
      split <;> exact .responds rfl rfl rfl rfl
  | addReaction id emoji =>
    refine withMessage_rule _ refuses ?_
    intro message conversation member found visible room joined
    dsimp only
    split <;> exact .responds rfl rfl rfl rfl
  | removeReaction id emoji =>
    refine withMessage_rule _ refuses ?_
    intro message conversation member found visible room joined
    exact .responds rfl rfl rfl rfl
  | pinMessage conversationId id =>
    refine withConversation_rule _ refuses ?_
    intro conversation member found joined
    cases mayPin member with
    | false => exact .responds rfl rfl rfl rfl
    | true =>
      simp only [if_true]
      cases state.message? id with
      | none => exact .responds rfl rfl rfl rfl
      | some message =>
        dsimp only
        split
        · exact .responds rfl rfl rfl rfl
        · split <;> exact .responds rfl rfl rfl rfl
  | unpinMessage conversationId id =>
    refine withConversation_rule _ refuses ?_
    intro conversation member found joined
    cases mayPin member <;> exact .responds rfl rfl rfl rfl
  | activity conversationId =>
    refine withConversation_rule _ refuses ?_
    intro conversation member found joined
    exact .responds rfl rfl rfl rfl
  | conversationPresence conversationId =>
    refine withConversation_rule _ refuses ?_
    intro conversation member found joined
    exact .responds rfl rfl rfl rfl
  | replay after limit => exact .responds rfl rfl rfl rfl
  | acknowledgeEvent eventId =>
    change RequestStep services settings state _ (state.acknowledgeEvent principal eventId)
    unfold acknowledgeEvent
    split <;> exact .responds rfl rfl rfl rfl

theorem platform_step (applicationId : String) (newId random : ℕ) (request : PlatformRequest) :
    RequestStep services settings state false
      (state.platform services settings applicationId newId random request) := by
  cases request with
  | createConversation payload =>
    exact createConversation_step services settings state _ _ payload newId
  | manageMembers conversationId mutations =>
    unfold platform manageMembers
    dsimp only
    split
    · exact .responds rfl rfl rfl rfl
    · split
      · exact .responds rfl rfl rfl rfl
      · split <;> exact .responds rfl rfl rfl rfl
  | publishConversationEvent conversationId payload =>
    unfold platform publishConversationEvent
    dsimp only
    split
    · exact .responds rfl rfl rfl rfl
    · split
      · exact .responds rfl rfl rfl rfl
      · split
        · exact .responds rfl rfl rfl rfl
        · split
          · exact .responds rfl rfl rfl rfl
          · rename_i fresh
            exact
              { messages := .insert _ fresh rfl
                events := .inl rfl
                pending := rfl
                sends := by
                  rintro call ⟨⟩
                  exact ⟨_, rfl, rfl⟩ }
  | publishEvent payload =>
    unfold platform publishEvent
    dsimp only
    split
    · rename_i queued
      exact
        { messages := .keep
          events := .inr ⟨_, _, _, _, _, queued⟩
          pending := rfl
          sends := by
            rintro call ⟨⟩ }
    all_goals exact .responds rfl rfl rfl rfl

theorem checkSend_state (principal : UserPrincipal) (conversationId : ℕ) (payload : MessageCreate) :
    (state.checkSend principal conversationId payload).1 = state := by
  unfold checkSend withReply withForwarded refuse answer
  dsimp only
  repeat' split
  all_goals rfl

theorem commitSend_continues {pending : PendingSend} {newId : ℕ} {call : PendingCall}
    (continues : (state.commitSend pending newId).2 = .continues call) :
    ¬ state.messageClash (pending.message newId state.clock) ∧
      (state.commitSend pending newId).1.messages =
        state.messages ++ [pending.message newId state.clock] ∧
      ∃ emission, call = .emission emission ∧ emission.message = pending.message newId state.clock ∧
        emission.eventType = "chat.message" ∧ emission.sends = some pending := by
  unfold commitSend at continues ⊢
  dsimp only at continues ⊢
  split at continues
  · split at continues <;> cases continues
  · rename_i fresh
    cases continues
    rw [if_neg fresh]
    exact ⟨fresh, rfl, _, rfl, rfl, rfl, rfl⟩

variable (pending : PendingSend)

theorem commitSend_messages (newId : ℕ) :
    MessagesStep state false (state.commitSend pending newId).1.messages := by
  unfold commitSend
  dsimp only
  split
  · split <;> exact .keep
  · rename_i fresh
    exact .insert _ fresh rfl

theorem emit_cases (emission : Emission) (eventId random : ℕ) :
    state.emit services settings emission eventId random =
        (state, .refused 500 "Internal Server Error") ∨
      ∃ events event, queueEvent services settings.events state.events (emission.request
              (state.memberIds emission.message.conversationId))
            state.clock eventId random = .ok (events, event) ∧
          state.emit services settings emission eventId random =
            ({ state with events := events }, emission.response) := by
  unfold emit
  cases queueEvent services settings.events state.events
      (emission.request (state.memberIds emission.message.conversationId))
      state.clock eventId random with
  | error error => exact .inl rfl
  | ok queued => exact .inr ⟨queued.1, queued.2, rfl, rfl⟩

theorem emit_messages (emission : Emission) (eventId random : ℕ) :
    (state.emit services settings emission eventId random).1.messages = state.messages := by
  rcases emit_cases services settings state emission eventId random with
    failed | ⟨events, event, -, result⟩
  · rw [failed]
  · rw [result]

theorem commitSend_pending (newId : ℕ) :
    (state.commitSend pending newId).1.pending = state.pending := by
  unfold commitSend
  dsimp only
  split
  · split <;> rfl
  · rfl

theorem commitSend_events (newId : ℕ) :
    (state.commitSend pending newId).1.events = state.events := by
  unfold commitSend
  dsimp only
  split
  · split <;> rfl
  · rfl

theorem mem_resume_pending {result : ChatState × CallOutcome}
    {call : PendingCall} (member : call ∈ (resume result).1.pending) :
    call ∈ result.1.pending ∨ result.2 = .continues call := by
  unfold resume at member
  split at member
  · exact .inl member
  · rename_i other continues
    rcases List.mem_append.mp member with old | new
    · exact .inl old
    · rw [List.mem_singleton.mp new]
      exact .inr continues

theorem resume_messages (result : ChatState × CallOutcome) :
    (resume result).1.messages = result.1.messages := by
  unfold resume
  cases result.2 <;> rfl

variable {services settings state} in
theorem perform_commitSend {index : ℕ} {pending : PendingSend}
    (found : state.pending[index]? = some (.send pending)) (newId : ℕ) :
    state.perform services settings (.commitSend index newId) =
      resume ((state.dropCall index).commitSend pending newId) := by
  unfold perform
  dsimp only
  rw [found]

variable {services settings state} in
theorem perform_emit {index : ℕ} {emission : Emission}
    (found : state.pending[index]? = some (.emission emission)) (eventId random : ℕ) :
    state.perform services settings (.emit index eventId random) =
      (((state.dropCall index).emit services settings emission eventId random).1,
        some ((state.dropCall index).emit services settings emission eventId random).2) := by
  unfold perform
  dsimp only
  rw [found]

theorem perform_messages (action : ChatAction) : MessagesStep state action.rewrites
      (state.perform services settings action).1.messages := by
  cases action with
  | wait elapsed => exact .keep
  | user principal newId request =>
    unfold perform
    rw [resume_messages]
    exact (user_step services settings state principal newId request).messages
  | send principal conversationId payload =>
    unfold perform
    rw [resume_messages, checkSend_state]
    exact .keep
  | platform applicationId newId random request =>
    unfold perform
    rw [resume_messages]
    exact (platform_step services settings state applicationId newId random request).messages
  | commitSend index newId =>
    unfold perform
    dsimp only
    split
    · rw [resume_messages]
      exact (commitSend_messages (state.dropCall index) _ newId).of_dropCall
    · exact .keep
  | emit index eventId random =>
    unfold perform
    dsimp only
    split
    · rw [emit_messages]
      exact .keep
    · exact .keep
  | deliver loaded changed => exact .keep
  | crash index => exact .keep

end Messages

end ChatState

end Ithute
