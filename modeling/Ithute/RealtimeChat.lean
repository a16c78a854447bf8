import Ithute.RealtimeEvents
import Mathlib.Data.Fintype.Basic

/-!
# Chat endpoints

The user and platform endpoints of conversations and messages.  A request
runs up to its commit; sending is cut between its checks and the insert, and
the event of a message is queued in a later transaction.

Rate limits refuse a call before it reads anything, and `_emit_ephemeral`
stores nothing; both are left out.
-/

namespace Ithute

structure UserPrincipal where
  clientId : String
  sub : ℕ

structure ConversationCreate where
  participantSubs : List ℕ
  title : Option String
  description : Option String
  roomKey : Option String
  kind : ConversationKind

structure MessageCreate where
  body : String
  clientMessageId : Option String
  data : JsonObject
  replyToMessageId : Option ℕ
  forwardMessageId : Option ℕ
  mentionSubs : List ℕ
  attachments : List AttachmentRef
  priority : EventPriority

structure MessageEdit where
  body : String
  data : Option JsonObject

inductive MemberAction where
  | add | remove | update
  deriving DecidableEq

structure MemberMutation where
  authUserId : ℕ
  action : MemberAction
  role : Option MemberRole
  muted : Option Bool

structure ConversationEventCreate where
  eventType : String
  version : ℕ
  body : String
  data : JsonObject
  clientMessageId : Option String
  priority : EventPriority

structure PlatformEventCreate where
  eventType : String
  version : ℕ
  recipientSubs : List ℕ
  title : Option String
  body : String
  route : Option String
  data : JsonObject
  priority : EventPriority
  ttlSeconds : ℕ
  deliverAt : Option RequestedTime
  push : Bool
  broadcastConnected : Bool
  audienceLabel : Option String
  idempotencyKey : Option String

inductive UserRequest where
  | listConversations
  | createConversation (payload : ConversationCreate)
  | listMessages (conversationId : ℕ) (before : Option ℕ) (limit : ℕ+)
  | editMessage (messageId : ℕ) (payload : MessageEdit)
  | deleteMessage (messageId : ℕ)
  | acknowledgeMessage (messageId : ℕ) (read : Bool)
  | markRead (conversationId messageId : ℕ)
  | addReaction (messageId : ℕ) (emoji : String)
  | removeReaction (messageId : ℕ) (emoji : String)
  | pinMessage (conversationId messageId : ℕ)
  | unpinMessage (conversationId messageId : ℕ)
  | activity (conversationId : ℕ)
  | conversationPresence (conversationId : ℕ)
  | replay (after : WithBot EventCursor) (limit : ℕ+)
  | acknowledgeEvent (eventId : ℕ)

inductive PlatformRequest where
  | createConversation (payload : ConversationCreate)
  | manageMembers (conversationId : ℕ) (mutations : List MemberMutation)
  | publishConversationEvent (conversationId : ℕ) (payload : ConversationEventCreate)
  | publishEvent (payload : PlatformEventCreate)

structure ChatSettings where
  maxGroupMembers : ℕ := 500
  maxHistoryPageSize : ℕ+ := 200
  maxReplayPageSize : ℕ+ := 500
  events : RealtimeSettings := {}

structure MessageReaction where
  messageId : ℕ
  authUserId : ℕ
  emoji : String
  createdAt : ℕ

structure ConversationPin where
  conversationId : ℕ
  messageId : ℕ
  pinnedBySub : Option ℕ
  createdAt : ℕ

structure PendingSend where
  principal : UserPrincipal
  conversationId : ℕ
  title : Option String
  memberIds : List ℕ
  payload : MessageCreate
  forwarded : Option Message

structure Emission where
  message : Message
  eventType : String
  push : Bool := false
  title : Option String := none
  /-- `body or "You have a new message"` of a new message. -/
  fallbackBody : Option String := none
  /-- The send that goes on with the event. -/
  sends : Option PendingSend := none

inductive PendingCall where
  | send (pending : PendingSend)
  | emission (emission : Emission)

structure ChatState where
  clock : ℕ := 0
  conversations : List Conversation := []
  members : List ConversationMember := []
  messages : List Message := []
  receipts : List MessageReceipt := []
  reactions : List MessageReaction := []
  pins : List ConversationPin := []
  events : List RealtimeEvent := []
  pending : List PendingCall := []

/-- What an endpoint answers.  A receipt, a reaction and a presence list come
with the conversation that they are about. -/
inductive ApiResponse where
  | refused (status : ℕ) (detail : String)
  | noContent
  | conversations (rows : List ConversationOut)
  | conversation (row : ConversationOut)
  | messages (rows : List MessageOut)
  | message (row : MessageOut)
  | receipt (conversationId : ℕ) (row : MessageReceipt)
  | reaction (conversationId : ℕ) (row : MessageReaction)
  | pin (row : ConversationPin)
  | presence (conversationId : ℕ) (authUserIds : List ℕ)
  | events (rows : List RealtimeEvent)
  | eventAck (eventId : ℕ)

/-- A call answers, or goes on in another transaction. -/
inductive CallOutcome where
  | responds (response : ApiResponse)
  | continues (call : PendingCall)

namespace ChatState

variable (state : ChatState)

def conversation? (id : ℕ) : Option Conversation :=
  state.conversations.find? fun row => decide (row.id = id)

def message? (id : ℕ) : Option Message := state.messages.find? fun row => decide (row.id = id)

/-- `_members`. -/
def membersOf (conversationId : ℕ) : List ConversationMember :=
  state.members.filter fun row => decide (row.conversationId = conversationId)

def memberIds (conversationId : ℕ) : List ℕ :=
  (state.membersOf conversationId).map ConversationMember.authUserId

/-- `_member`: the membership of the caller, in its own application. -/
def member? (conversation : Conversation) (principal : UserPrincipal) : Option ConversationMember :=
  if conversation.applicationId = principal.clientId then
    (state.membersOf conversation.id).find? fun row => decide (row.authUserId = principal.sub)
  else none

def conversationOut (conversation : Conversation) : ConversationOut where
  conversation := conversation
  members := state.membersOf conversation.id

def clientMessage? (conversationId : ℕ) (clientMessageId : Option String) : Option Message :=
  match presentText clientMessageId with
  | none => none
  | some key =>
    state.messages.find? fun row => decide (row.conversationId = conversationId ∧
        row.clientMessageId = some key)

def answer (response : ApiResponse) : ChatState × CallOutcome := (state, .responds response)

def refuse (status : ℕ) (detail : String) : ChatState × CallOutcome :=
  state.answer (.refused status detail)

def withConversation (principal : UserPrincipal) (conversationId : ℕ)
    (continue_ : Conversation → ConversationMember →
      ChatState × CallOutcome) : ChatState × CallOutcome :=
  match state.conversation? conversationId with
  | none => state.refuse 404 "conversation not found"
  | some conversation =>
    match state.member? conversation principal with
    | none => state.refuse 404 "conversation not found"
    | some member => continue_ conversation member

def withMessage (principal : UserPrincipal) (messageId : ℕ) (visible : Message → Bool)
    (continue_ : Message → Conversation → ConversationMember →
      ChatState × CallOutcome) : ChatState × CallOutcome :=
  match state.message? messageId with
  | none => state.refuse 404 "message not found"
  | some message =>
    if message.applicationId = principal.clientId ∧ visible message = true then
      match state.conversation? message.conversationId with
      | none => state.refuse 404 "message not found"
      | some conversation =>
        match state.member? conversation principal with
        | none => state.refuse 404 "conversation not found"
        | some member => continue_ message conversation member
    else state.refuse 404 "message not found"

def updateMessage (message : Message) : ChatState :=
  { state with
    messages := state.messages.map fun row => if row.id = message.id then message else row }

def updateMember (member : ConversationMember) : ChatState :=
  { state with
    members := state.members.map fun row =>
      if row.conversationId = member.conversationId ∧ row.authUserId = member.authUserId then member
      else row }

def touchConversation (conversationId : ℕ) : ChatState :=
  { state with
    conversations := state.conversations.map fun row =>
      if row.id = conversationId then { row with updatedAt := state.clock }
      else row }

def saveReceipt (receipt : MessageReceipt) : ChatState :=
  { state with
    receipts :=
      state.receipts.filter (fun row => decide (¬ (row.messageId = receipt.messageId ∧
          row.authUserId = receipt.authUserId))) ++ [receipt] }

def receipt? (messageId authUserId : ℕ) : Option MessageReceipt :=
  state.receipts.find? fun row => decide (row.messageId = messageId ∧ row.authUserId = authUserId)

end ChatState

namespace ConversationCreate

variable (payload : ConversationCreate)

def participants (creator : Option ℕ) : List ℕ :=
  let participantIds := payload.participantSubs.eraseDups
  match creator with
  | none => participantIds
  | some creator =>
    if creator ∈ participantIds then participantIds
    else creator :: participantIds

/-- The checks that `_create_conversation` makes before the insert. -/
def refusal? (settings : ChatSettings) (creator : Option ℕ) : Option String :=
  let participantIds := payload.participants creator
  if participantIds = [] then
    some "at least one conversation member is required"
  else if settings.maxGroupMembers < participantIds.length then
    some "conversation member limit exceeded"
  else if payload.kind = .direct ∧ participantIds.length ≠ 2 then
    some "direct conversations require exactly two members"
  else if (payload.kind = .channel ∨ payload.kind = .system) ∧
      presentText payload.roomKey = none then
    some "channel/system conversations require room_key"
  else none

end ConversationCreate

def ChatState.room? (state : ChatState) (applicationId : String)
    (roomKey : Option String) : Option Conversation :=
  match presentText roomKey with
  | none => none
  | some key =>
    state.conversations.find? fun row => decide
      (row.applicationId = applicationId ∧ row.roomKey = some key)

def newMember (conversationId : ℕ) (creator : Option ℕ) (authUserId : ℕ) : ConversationMember where
  conversationId := conversationId
  authUserId := authUserId
  role := if some authUserId = creator then .owner else .member

/-- `_create_conversation` with the response of both callers.  A room key
that is taken gives the conversation that has taken it. -/
def ChatState.createConversation (settings : ChatSettings)
    (state : ChatState) (applicationId : String) (creator : Option ℕ)
    (payload : ConversationCreate) (newId : ℕ) : ChatState × CallOutcome :=
  match payload.refusal? settings creator with
  | some detail => state.refuse 422 detail
  | none =>
    if (∃ row ∈ state.conversations, row.id = newId) ∨
        (∃ row ∈ state.conversations, row.applicationId = applicationId ∧
          row.roomKey = payload.roomKey ∧ row.roomKey ≠ none) then
      match state.room? applicationId payload.roomKey with
      | some existing => state.answer (.conversation (state.conversationOut existing))
      | none => state.refuse 409 "conversation already exists"
    else
      let conversation : Conversation :=
        { id := newId
          applicationId := applicationId
          kind := payload.kind
          title := payload.title
          description := payload.description
          roomKey := payload.roomKey
          createdBySub := creator
          createdAt := state.clock
          updatedAt := state.clock }
      let created :=
        { state with
          conversations := state.conversations ++ [conversation]
          members := state.members ++ (payload.participants creator).map (newMember newId creator) }
      created.answer (.conversation (created.conversationOut conversation))

namespace ChatState

variable (state : ChatState)

def listConversations (principal : UserPrincipal) : ChatState × CallOutcome :=
  let rows := state.conversations.filter fun row => decide (row.applicationId = principal.clientId ∧
      principal.sub ∈ state.memberIds row.id ∧ row.archived = false)
  state.answer (.conversations ((rows.insertionSort fun first second =>
      second.updatedAt ≤ first.updatedAt).map state.conversationOut))

def listMessages (settings : ChatSettings) (principal : UserPrincipal)
    (conversationId : ℕ) (before : Option ℕ) (limit : ℕ+) : ChatState × CallOutcome :=
  state.withConversation principal conversationId fun conversation _ =>
    let rows := state.messages.filter fun row => decide (row.conversationId = conversation.id ∧
        ∀ time ∈ before, row.createdAt < time)
    let newest := (rows.insertionSort fun first second =>
      second.createdAt ≤ first.createdAt).take (min limit settings.maxHistoryPageSize)
    state.answer (.messages (newest.reverse.map messageOut))

def withReply (conversationId : ℕ) (replyToMessageId : Option ℕ)
    (continue_ : ChatState × CallOutcome) : ChatState × CallOutcome :=
  match replyToMessageId with
  | none => continue_
  | some replyId =>
    match state.message? replyId with
    | none => state.refuse 404 "reply target not found"
    | some reply =>
      if reply.conversationId ≠ conversationId then
        state.refuse 422 "reply target must be in this conversation"
      else continue_

/-- The sender has to be a member where the forwarded message is. -/
def withForwarded (principal : UserPrincipal) (forwardMessageId : Option ℕ)
    (continue_ : Option Message → ChatState × CallOutcome) : ChatState × CallOutcome :=
  match forwardMessageId with
  | none => continue_ none
  | some forwardId =>
    match state.message? forwardId with
    | none => state.refuse 404 "forward source not found"
    | some forwarded =>
      if forwarded.applicationId ≠ principal.clientId then
        state.refuse 404 "forward source not found"
      else
        match state.conversation? forwarded.conversationId with
        | none => state.refuse 404 "forward source not found"
        | some source =>
          match state.member? source principal with
          | none => state.refuse 404 "conversation not found"
          | some _ => continue_ (some forwarded)

/-- The checks of `send_message`. -/
def checkSend (principal : UserPrincipal) (conversationId : ℕ)
    (payload : MessageCreate) : ChatState × CallOutcome :=
  match state.conversation? conversationId with
  | none => state.refuse 404 "conversation not found"
  | some conversation =>
    if conversation.archived then
      state.refuse 404 "conversation not found"
    else
      match state.member? conversation principal with
      | none => state.refuse 404 "conversation not found"
      | some member =>
        if member.role = .viewer then
          state.refuse 403 "viewer cannot send messages"
        else
          match state.clientMessage? conversation.id
              payload.clientMessageId with
          | some existing =>
            state.answer (.message (messageOut existing))
          | none =>
            if ∃ value ∈ payload.mentionSubs, value ∉ state.memberIds conversation.id then
              state.refuse 422
                "mentions must reference conversation members"
            else
              state.withReply conversation.id
                payload.replyToMessageId <|
              state.withForwarded principal
                payload.forwardMessageId fun forwarded =>
              (state, .continues (.send
                { principal := principal
                  conversationId := conversation.id
                  title := conversation.title
                  memberIds := state.memberIds conversation.id
                  payload := payload
                  forwarded := forwarded }))

end ChatState

namespace PendingSend

variable (pending : PendingSend)

def content : MessageContent :=
  let own : MessageContent :=
    { body := stripText pending.payload.body
      data := pending.payload.data
      attachments := pending.payload.attachments }
  match pending.forwarded with
  | none => own
  | some forwarded =>
    { body := if own.body = "" then forwarded.content.body else own.body
      data := if own.data.isEmpty then forwarded.content.data else own.data
      attachments :=
        if own.attachments = [] then forwarded.content.attachments
        else own.attachments }

def message (newId now : ℕ) : Message where
  id := newId
  conversationId := pending.conversationId
  applicationId := pending.principal.clientId
  senderSub := some pending.principal.sub
  senderClientId := pending.principal.clientId
  senderKind := .user
  messageType := "chat.message"
  version := 1
  priority := pending.payload.priority
  content := pending.content
  mentions := pending.payload.mentionSubs
  replyToMessageId := pending.payload.replyToMessageId
  forwardedFromMessageId := pending.payload.forwardMessageId
  clientMessageId := pending.payload.clientMessageId
  createdAt := now

def receipts (newId now : ℕ) : List MessageReceipt :=
  pending.memberIds.eraseDups.map fun recipient =>
    let own := decide (recipient = pending.principal.sub)
    { messageId := newId
      authUserId := recipient
      state := if own then .read else .accepted
      deliveredAt := if own then some now else none
      readAt := if own then some now else none }

end PendingSend

namespace ChatState

variable (state : ChatState)

def messageClash (message : Message) : Prop :=
  ∃ row ∈ state.messages, row.id = message.id ∨ (row.conversationId = message.conversationId ∧
      row.clientMessageId = message.clientMessageId ∧ row.clientMessageId ≠ none)

instance (message : Message) : Decidable (state.messageClash message) :=
  inferInstanceAs (Decidable (∃ _ ∈ _, _ ∨ _ ∧ _ ∧ _))

def insertMessage (message : Message) : ChatState :=
  { state.touchConversation message.conversationId with
    messages := state.messages ++ [message] }

/-- The insert of `send_message`, or what it makes of an
`IntegrityError`. -/
def commitSend (pending : PendingSend) (newId : ℕ) : ChatState × CallOutcome :=
  let message := pending.message newId state.clock
  if state.messageClash message then
    match state.clientMessage? pending.conversationId
        pending.payload.clientMessageId with
    | some existing => state.answer (.message (messageOut existing))
    | none => state.refuse 500 "Internal Server Error"
  else
    let sent := state.insertMessage message
    ({ sent with
        receipts := sent.receipts ++ pending.receipts newId state.clock },
      .continues (.emission
        { message := message
          eventType := "chat.message"
          push := true
          title := some ((presentText pending.title).getD "New message")
          fallbackBody := some "You have a new message"
          sends := some pending }))

def mayModerate (message : Message) (member : ConversationMember)
    (principal : UserPrincipal) : Bool :=
  decide (message.senderSub = some principal.sub) ||
    decide (member.role = .owner ∨ member.role = .admin)

def editMessage (principal : UserPrincipal) (messageId : ℕ)
    (payload : MessageEdit) : ChatState × CallOutcome :=
  state.withMessage principal messageId
    (fun message => message.deletedAt.isNone) fun message _ member =>
      if mayModerate message member principal then
        let edited :=
          { message with
            content :=
              { message.content with
                body := stripText payload.body
                data := payload.data.getD message.content.data }
            editedAt := some state.clock }
        (state.updateMessage edited, .continues (.emission
            { message := edited, eventType := "chat.message.edited" }))
      else state.refuse 403 "message cannot be edited by this user"

def deleteMessage (principal : UserPrincipal) (messageId : ℕ) : ChatState × CallOutcome :=
  state.withMessage principal messageId (fun _ => true) fun message _ member =>
      if mayModerate message member principal then
        if message.deletedAt.isNone then
          let deleted := { message with deletedAt := some state.clock }
          (state.updateMessage deleted, .continues (.emission
              { message := deleted, eventType := "chat.message.deleted" }))
        else state.answer .noContent
      else state.refuse 403 "message cannot be deleted by this user"

def acknowledgeMessage (principal : UserPrincipal) (messageId : ℕ)
    (read : Bool) : ChatState × CallOutcome :=
  state.withMessage principal messageId (fun _ => true)
    fun message conversation member =>
      let receipt := (state.receipt? message.id principal.sub).getD
        { messageId := message.id
          authUserId := principal.sub
          state := .accepted
          deliveredAt := none
          readAt := none }
      let deliveredAt := some (receipt.deliveredAt.getD state.clock)
      if read then
        let saved :=
          { receipt with
            state := .read
            deliveredAt := deliveredAt
            readAt := some state.clock }
        ((state.saveReceipt saved).updateMember
          { member with lastReadMessageId := some message.id }).answer
            (.receipt conversation.id saved)
      else
        let saved :=
          { receipt with
            state := if receipt.state = .read then .read else .delivered
            deliveredAt := deliveredAt }
        (state.saveReceipt saved).answer (.receipt conversation.id saved)

def markRead (principal : UserPrincipal) (conversationId messageId : ℕ) : ChatState × CallOutcome :=
  state.withConversation principal conversationId fun conversation member =>
    match state.message? messageId with
    | none => state.refuse 404 "message not found"
    | some message =>
      if message.conversationId ≠ conversation.id then
        state.refuse 404 "message not found"
      else
        let receipt := state.receipt? message.id principal.sub
        let saved : MessageReceipt :=
          { messageId := message.id
            authUserId := principal.sub
            state := .read
            deliveredAt := some ((receipt.bind MessageReceipt.deliveredAt).getD state.clock)
            readAt := some state.clock }
        ((state.saveReceipt saved).updateMember
          { member with lastReadMessageId := some message.id }).answer .noContent

def addReaction (principal : UserPrincipal) (messageId : ℕ)
    (emoji : String) : ChatState × CallOutcome :=
  state.withMessage principal messageId (fun _ => true) fun message conversation _ =>
      match state.reactions.find? fun row => decide
          (row.messageId = message.id ∧ row.authUserId = principal.sub ∧ row.emoji = emoji) with
      | some reaction => state.answer (.reaction conversation.id reaction)
      | none =>
        let reaction : MessageReaction :=
          { messageId := message.id
            authUserId := principal.sub
            emoji := emoji
            createdAt := state.clock }
        ({ state with
            reactions := state.reactions ++ [reaction] }).answer
          (.reaction conversation.id reaction)

def removeReaction (principal : UserPrincipal) (messageId : ℕ)
    (emoji : String) : ChatState × CallOutcome :=
  state.withMessage principal messageId (fun _ => true) fun message _ _ =>
      ({ state with
          reactions := state.reactions.filter fun row => decide (¬ (row.messageId = message.id ∧
              row.authUserId = principal.sub ∧ row.emoji = emoji)) }).answer .noContent

def mayPin (member : ConversationMember) : Bool :=
  decide (member.role = .owner ∨ member.role = .admin)

def pinMessage (principal : UserPrincipal) (conversationId messageId : ℕ) :
    ChatState × CallOutcome :=
  state.withConversation principal conversationId fun conversation member =>
    if mayPin member then
      match state.message? messageId with
      | none => state.refuse 404 "message not found"
      | some message =>
        if message.conversationId ≠ conversation.id then
          state.refuse 404 "message not found"
        else
          match state.pins.find? fun row => decide (row.conversationId = conversation.id ∧
                row.messageId = message.id) with
          | some pin => state.answer (.pin pin)
          | none =>
            let pin : ConversationPin :=
              { conversationId := conversation.id
                messageId := message.id
                pinnedBySub := some principal.sub
                createdAt := state.clock }
            ({ state with pins := state.pins ++ [pin] }).answer (.pin pin)
    else state.refuse 403 "only conversation owners/admins can pin"

def unpinMessage (principal : UserPrincipal)
    (conversationId messageId : ℕ) : ChatState × CallOutcome :=
  state.withConversation principal conversationId fun conversation member =>
    if mayPin member then
      ({ state with
          pins := state.pins.filter fun row => decide (¬ (row.conversationId = conversation.id ∧
              row.messageId = messageId)) }).answer .noContent
    else state.refuse 403 "only conversation owners/admins can unpin"

def activity (principal : UserPrincipal) (conversationId : ℕ) : ChatState × CallOutcome :=
  state.withConversation principal conversationId fun _ _ => state.answer .noContent

def conversationPresence (principal : UserPrincipal)
    (conversationId : ℕ) : ChatState × CallOutcome :=
  state.withConversation principal conversationId fun conversation _ =>
    state.answer (.presence conversation.id (state.memberIds conversation.id))

def replay (settings : ChatSettings) (principal : UserPrincipal)
    (after : WithBot EventCursor) (limit : ℕ+) : ChatState × CallOutcome :=
  state.answer (.events (replayEvents state.events principal.clientId
    principal.sub after (min limit settings.maxReplayPageSize) state.clock))

def acknowledgeEvent (principal : UserPrincipal) (eventId : ℕ) : ChatState × CallOutcome :=
  if ∃ event ∈ state.events, event.id = eventId ∧ event.applicationId = principal.clientId ∧
      principal.sub ∈ event.recipients then
    state.answer (.eventAck eventId)
  else state.refuse 404 "event not found"

end ChatState

namespace ChatState

variable (state : ChatState)

def addedMember (conversationId : ℕ) (mutation : MemberMutation) : ConversationMember where
  conversationId := conversationId
  authUserId := mutation.authUserId
  role := mutation.role.getD .member
  muted := mutation.muted.getD false

def updateRole (row : ConversationMember) (mutation : MemberMutation) : ConversationMember :=
  if mutation.action = .update ∧ mutation.authUserId = row.authUserId then
    { row with
      role := mutation.role.getD row.role
      muted := mutation.muted.getD row.muted }
  else row

/-- A mutation sees the members as they were before the request; adding one
user twice breaks the unique constraint. -/
def manageMembers (applicationId : String) (conversationId : ℕ)
    (mutations : List MemberMutation) : ChatState × CallOutcome :=
  match state.conversation? conversationId with
  | none => state.refuse 404 "conversation not found"
  | some conversation =>
    if conversation.applicationId ≠ applicationId then
      state.refuse 404 "conversation not found"
    else
      let current := state.memberIds conversation.id
      let added := mutations.filter fun mutation => decide
        (mutation.action = .add ∧ mutation.authUserId ∉ current)
      let removed := fun user : ℕ =>
        ∃ mutation ∈ mutations, mutation.action = .remove ∧ mutation.authUserId = user
      if (added.map MemberMutation.authUserId).Nodup then
        let kept := state.members.filter fun row => decide (row.conversationId ≠ conversation.id ∨
            ¬ removed row.authUserId)
        let changed :=
          { state.touchConversation conversation.id with
            members :=
              kept.map (fun row : ConversationMember =>
                if row.conversationId = conversation.id then
                  mutations.foldl updateRole row
                else row) ++ added.map (addedMember conversation.id) }
        changed.answer (.conversation (changed.conversationOut
          { conversation with updatedAt := state.clock }))
      else state.refuse 500 "Internal Server Error"

def publishConversationEvent (applicationId : String)
    (conversationId : ℕ) (payload : ConversationEventCreate)
    (newId : ℕ) : ChatState × CallOutcome :=
  match state.conversation? conversationId with
  | none => state.refuse 404 "conversation not found"
  | some conversation =>
    if conversation.applicationId ≠ applicationId then
      state.refuse 404 "conversation not found"
    else
      match state.clientMessage? conversation.id
          payload.clientMessageId with
      | some existing => state.answer (.message (messageOut existing))
      | none =>
        let message : Message :=
          { id := newId
            conversationId := conversation.id
            applicationId := applicationId
            senderSub := none
            senderClientId := applicationId
            senderKind := .service
            messageType := payload.eventType
            version := payload.version
            priority := payload.priority
            content :=
              { body := payload.body
                data := payload.data
                attachments := [] }
            mentions := []
            replyToMessageId := none
            forwardedFromMessageId := none
            clientMessageId := payload.clientMessageId
            createdAt := state.clock }
        if state.messageClash message then
          state.refuse 500 "Internal Server Error"
        else
          (state.insertMessage message,
            .continues (.emission
              { message := message
                eventType := payload.eventType }))

end ChatState

def PlatformEventCreate.request (payload : PlatformEventCreate)
    (applicationId : String) : EventRequest where
  applicationId := applicationId
  eventType := payload.eventType
  version := payload.version
  priority := payload.priority
  recipients := payload.recipientSubs
  payload :=
    { title := payload.title
      body := some payload.body
      route := payload.route
      data := some payload.data }
  ttlSeconds := payload.ttlSeconds
  deliverAt := payload.deliverAt
  pushEnabled := payload.push
  broadcastConnected := payload.broadcastConnected
  audienceLabel := payload.audienceLabel
  idempotencyKey := payload.idempotencyKey

/-- `platform_publish_event` up to the delivery of its event. -/
def ChatState.publishEvent (services : RealtimeServices)
    (settings : ChatSettings) (state : ChatState) (applicationId : String)
    (payload : PlatformEventCreate) (newId random : ℕ) : ChatState × CallOutcome :=
  match queueEvent services settings.events state.events
      (payload.request applicationId) state.clock newId random with
  | .ok (events, event) => ({ state with events := events }).answer (.events [event])
  | .error .recipientLimit => state.refuse 422 "event recipient limit exceeded"
  | .error .conflict =>
    state.refuse 409 "Idempotency-Key was already used for a different event"
  | .error .integrity => state.refuse 500 "Internal Server Error"

namespace Emission

variable (emission : Emission)

/-- `edited_at or deleted_at or created_at`. -/
def stamp : ℕ :=
  (emission.message.editedAt.orElse fun _ =>
    emission.message.deletedAt).getD emission.message.createdAt

/-- `body if body is not None else message.body`. -/
def body : String :=
  match emission.fallbackBody with
  | none => emission.message.content.body
  | some fallback => (presentText (some emission.message.content.body)).getD fallback

def request (recipients : List ℕ) : EventRequest where
  applicationId := emission.message.applicationId
  eventType := emission.eventType
  version := emission.message.version
  priority := emission.message.priority
  recipients := recipients
  payload :=
    { title := emission.title
      body := some emission.body
      route := some ("/chat/" ++ toString emission.message.conversationId)
      data := some
        [("conversation_id", .text (toString emission.message.conversationId)),
          ("message_id", .text (toString emission.message.id))]
      chat := some
        { conversationId := emission.message.conversationId
          message := messageOut emission.message } }
  ttlSeconds := 3600
  pushEnabled := emission.push
  idempotencyKey := some
    (emission.eventType ++ ":" ++ toString emission.message.id ++ ":" ++ toString emission.stamp)

def response : ApiResponse :=
  if emission.eventType = "chat.message.deleted" then .noContent
  else .message (messageOut emission.message)

end Emission

/-- `_emit_message_event` up to its commit. -/
def ChatState.emit (services : RealtimeServices) (settings : ChatSettings)
    (state : ChatState) (emission : Emission) (eventId random : ℕ) : ChatState × ApiResponse :=
  match queueEvent services settings.events state.events
      (emission.request (state.memberIds emission.message.conversationId))
      state.clock eventId random with
  | .ok (events, _) => ({ state with events := events }, emission.response)
  | .error _ => (state, .refused 500 "Internal Server Error")

def ChatState.user (settings : ChatSettings) (state : ChatState)
    (principal : UserPrincipal) (newId : ℕ) : UserRequest → ChatState × CallOutcome
  | .listConversations => state.listConversations principal
  | .createConversation payload =>
    state.createConversation settings principal.clientId (some principal.sub) payload newId
  | .listMessages conversationId before limit =>
    state.listMessages settings principal conversationId before limit
  | .editMessage messageId payload => state.editMessage principal messageId payload
  | .deleteMessage messageId => state.deleteMessage principal messageId
  | .acknowledgeMessage messageId read => state.acknowledgeMessage principal messageId read
  | .markRead conversationId messageId => state.markRead principal conversationId messageId
  | .addReaction messageId emoji => state.addReaction principal messageId emoji
  | .removeReaction messageId emoji => state.removeReaction principal messageId emoji
  | .pinMessage conversationId messageId => state.pinMessage principal conversationId messageId
  | .unpinMessage conversationId messageId => state.unpinMessage principal conversationId messageId
  | .activity conversationId => state.activity principal conversationId
  | .conversationPresence conversationId => state.conversationPresence principal conversationId
  | .replay after limit => state.replay settings principal after limit
  | .acknowledgeEvent eventId => state.acknowledgeEvent principal eventId

def ChatState.platform (services : RealtimeServices)
    (settings : ChatSettings) (state : ChatState) (applicationId : String)
    (newId random : ℕ) : PlatformRequest → ChatState × CallOutcome
  | .createConversation payload =>
    state.createConversation settings applicationId none payload newId
  | .manageMembers conversationId mutations =>
    state.manageMembers applicationId conversationId mutations
  | .publishConversationEvent conversationId payload =>
    state.publishConversationEvent applicationId conversationId payload newId
  | .publishEvent payload => state.publishEvent services settings applicationId payload newId random

/-- A step of a call, of the delivery of an event, or a crash that drops a
call. -/
inductive ChatAction where
  | wait (elapsed : ℕ)
  | user (principal : UserPrincipal) (newId : ℕ) (request : UserRequest)
  | send (principal : UserPrincipal) (conversationId : ℕ) (payload : MessageCreate)
  | platform (applicationId : String) (newId random : ℕ) (request : PlatformRequest)
  | commitSend (call newId : ℕ)
  | emit (call eventId random : ℕ)
  | deliver (loaded changed : RealtimeEvent)
  | crash (call : ℕ)

namespace ChatState

def resume (result : ChatState × CallOutcome) : ChatState × Option ApiResponse :=
  match result.2 with
  | .responds response => (result.1, some response)
  | .continues call => ({ result.1 with pending := result.1.pending ++ [call] }, none)

def dropCall (state : ChatState) (index : ℕ) : ChatState :=
  { state with pending := state.pending.eraseIdx index }

def perform (services : RealtimeServices) (settings : ChatSettings)
    (state : ChatState) : ChatAction → ChatState × Option ApiResponse
  | .wait elapsed => ({ state with clock := state.clock + elapsed }, none)
  | .user principal newId request => resume (state.user settings principal newId request)
  | .send principal conversationId payload =>
    resume (state.checkSend principal conversationId payload)
  | .platform applicationId newId random request =>
    resume (state.platform services settings applicationId newId random request)
  | .commitSend index newId =>
    match state.pending[index]? with
    | some (.send pending) => resume ((state.dropCall index).commitSend pending newId)
    | _ => (state, none)
  | .emit index eventId random =>
    match state.pending[index]? with
    | some (.emission emission) =>
      let result := (state.dropCall index).emit services settings emission eventId random
      (result.1, some result.2)
    | _ => (state, none)
  | .deliver loaded changed =>
    ({ state with events := commitEvent loaded changed state.events }, none)
  | .crash index => (state.dropCall index, none)

end ChatState

end Ithute
