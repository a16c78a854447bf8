import Ithute.PythonValues

/-!
# Conversations and messages

The rows of the chat tables, and the responses that are made of them.
-/

namespace Ithute

inductive EventPriority where
  | low | normal | high | critical

inductive ConversationKind where
  | direct | group | channel | system
  deriving DecidableEq

structure Conversation where
  id : ℕ
  applicationId : String
  kind : ConversationKind
  title : Option String
  description : Option String
  roomKey : Option String
  archived : Bool := false
  createdBySub : Option ℕ
  createdAt : ℕ
  updatedAt : ℕ

inductive MemberRole where
  | owner | admin | member | viewer
  deriving DecidableEq

structure ConversationMember where
  conversationId : ℕ
  authUserId : ℕ
  role : MemberRole
  muted : Bool := false
  lastReadMessageId : Option ℕ := none

structure AttachmentRef where
  url : String
  name : String
  contentType : String
  sizeBytes : ℕ
  sha256 : Option String
  thumbnailUrl : Option String

inductive SenderKind where
  | user | service

structure MessageContent where
  body : String
  data : JsonObject
  attachments : List AttachmentRef

structure Message where
  id : ℕ
  conversationId : ℕ
  applicationId : String
  senderSub : Option ℕ
  senderClientId : String
  senderKind : SenderKind
  messageType : String
  version : ℕ
  priority : EventPriority
  content : MessageContent
  mentions : List ℕ
  replyToMessageId : Option ℕ
  forwardedFromMessageId : Option ℕ
  clientMessageId : Option String
  createdAt : ℕ
  editedAt : Option ℕ := none
  deletedAt : Option ℕ := none

inductive ReceiptState where
  | accepted | delivered | read
  deriving DecidableEq

structure MessageReceipt where
  messageId : ℕ
  authUserId : ℕ
  state : ReceiptState
  deliveredAt : Option ℕ
  readAt : Option ℕ

abbrev MessageOut := Message

def MessageContent.empty : MessageContent where
  body := ""
  data := []
  attachments := []

/-- `_message_out`: a deleted message is shown without its content. -/
def messageOut (message : Message) : MessageOut :=
  if message.deletedAt.isSome then
    { message with content := .empty }
  else message

structure ConversationOut where
  conversation : Conversation
  members : List ConversationMember

end Ithute
