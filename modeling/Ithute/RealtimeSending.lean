import Ithute.Library.TransitionRuns
import Ithute.Library.UniqueRows
import Ithute.RealtimeChatSteps

/-!
# What a successful send promises

A send checks its client's identifier, commits the message and queues the
event in three transactions.  A send that finds a message under its
identifier answers with that message, whoever has sent it and whether or not
its event has been queued.
-/

namespace Ithute

open TransitionRuns UniqueRows

namespace MessageCreate

variable (payload : MessageCreate)

def content : MessageContent where
  body := stripText payload.body
  data := payload.data
  attachments := payload.attachments

/-- The message carries what the request submits.  What a forward leaves
empty is filled up. -/
structure Submits (message : MessageOut) : Prop where
  clientMessageId : message.clientMessageId = payload.clientMessageId
  priority : message.priority = payload.priority
  mentions : message.mentions = payload.mentionSubs
  replyTo : message.replyToMessageId = payload.replyToMessageId
  forwards : message.forwardedFromMessageId = payload.forwardMessageId
  content : payload.forwardMessageId = none → message.content = payload.content
  body : payload.content.body ≠ "" → message.content.body = payload.content.body
  data : payload.content.data.isEmpty = false → message.content.data = payload.content.data
  attachments : payload.content.attachments ≠ [] →
    message.content.attachments = payload.content.attachments

end MessageCreate

def RealtimeEvent.Announces (event : RealtimeEvent) (messageId : ℕ) : Prop :=
  event.eventType = "chat.message" ∧ ∃ part ∈ event.payload.chat, part.message.id = messageId

namespace ChatState

structure Own (state : ChatState) (principal : UserPrincipal)
    (payload : MessageCreate) (message : MessageOut) : Prop where
  sender : message.senderSub = some principal.sub
  submits : payload.Submits message
  queued : ∃ event ∈ state.events, event.Announces message.id

/-- One stored row is the message, and none has its identifier or its key. -/
structure StoredOnce (state : ChatState) (message : MessageOut) : Prop where
  stored : message ∈ state.messages
  once : state.messages.countP (fun row => decide (row.id = message.id)) = 1
  onceUnderKey : message.clientMessageId ≠ none → state.messages.countP (fun row => decide
      (row.conversationId = message.conversationId ∧
        row.clientMessageId = message.clientMessageId)) = 1

def Promised (principal : UserPrincipal) (payload : MessageCreate)
    (result : ChatState × Option ApiResponse) : Prop :=
  ∀ message, result.2 = some (.message message) →
    result.1.Own principal payload message ∧ result.1.StoredOnce message

def KeepsPromise (services : RealtimeServices) (settings : ChatSettings)
    (before : ChatState) (action : ChatAction) (_ : ChatState) : Prop :=
  match action with
  | .send principal _ payload =>
    Promised principal payload (before.perform services settings action)
  | .commitSend index _ =>
    ∀ pending, before.pending[index]? = some (.send pending) →
      Promised pending.principal pending.payload (before.perform services settings action)
  | .emit index _ _ =>
    ∀ emission, before.pending[index]? = some (.emission emission) → ∀ pending ∈ emission.sends,
        Promised pending.principal pending.payload (before.perform services settings action)
  | _ => True

/-- What a send finds under its identifier is its own announced message, and
an event that passes for the event of a new message leaves it announced. -/
def FindsOwn (services : RealtimeServices) (settings : ChatSettings)
    (before : ChatState) (action : ChatAction) (_ : ChatState) : Prop :=
  match action with
  | .send principal conversationId payload =>
    ∀ conversation member existing, before.conversation? conversationId = some conversation →
      conversation.archived = false → before.member? conversation principal = some member →
      member.role ≠ .viewer → before.clientMessage? conversation.id payload.clientMessageId =
        some existing → before.Own principal payload existing
  | .commitSend index _ =>
    ∀ pending, before.pending[index]? = some (.send pending) →
      ∀ existing, before.clientMessage? pending.conversationId
          pending.payload.clientMessageId = some existing →
        before.Own pending.principal pending.payload existing
  | .emit index _ _ =>
    ∀ emission, before.pending[index]? = some (.emission emission) → emission.sends ≠ none →
      ∀ event, let recipients := before.memberIds emission.message.conversationId
        recipients.length ≤ settings.events.maxEventRecipients →
        (emission.request recipients).existing services before.events = .ok (some event) →
        ∃ announced ∈ before.events, announced.Announces emission.message.id
  | _ => True

def Fits (state : ChatState) : PendingCall → Prop
  | .send pending => pending.payload.forwardMessageId = none → pending.forwarded = none
  | .emission emission =>
    ∀ pending ∈ emission.sends, emission.message ∈ state.messages ∧
        emission.eventType = "chat.message" ∧
        emission.message.senderSub = some pending.principal.sub ∧
        pending.payload.Submits emission.message

/-- Nothing is edited or deleted, and identifiers and keys are unique. -/
structure SendInvariant (state : ChatState) : Prop where
  ids : state.messages.Pairwise fun first second => first.id ≠ second.id
  keys : state.messages.Pairwise fun first second =>
    ¬ (first.conversationId = second.conversationId ∧
      first.clientMessageId = second.clientMessageId ∧ first.clientMessageId ≠ none)
  shown : ∀ row ∈ state.messages, row.deletedAt = none
  pending : ∀ call ∈ state.pending, state.Fits call

section Invariant

variable {services : RealtimeServices} {settings : ChatSettings} {state : ChatState}

theorem Fits.mono {after : ChatState} {call : PendingCall} (fits : state.Fits call)
    (kept : ∀ message ∈ state.messages, message ∈ after.messages) : after.Fits call := by
  cases call with
  | send pending => exact fits
  | emission emission =>
    intro pending sends
    obtain ⟨stored, rest⟩ := fits pending sends
    exact ⟨kept _ stored, rest⟩

theorem submits_message {pending : PendingSend}
    (fits : state.Fits (.send pending)) (newId now : ℕ) :
    pending.payload.Submits (pending.message newId now) where
  clientMessageId := rfl
  priority := rfl
  mentions := rfl
  replyTo := rfl
  forwards := rfl
  content := by
    intro none
    change pending.content = _
    unfold PendingSend.content
    rw [fits none]
    rfl
  body := by
    intro own
    change pending.content.body = _
    unfold PendingSend.content
    cases pending.forwarded with
    | none => rfl
    | some forwarded => exact if_neg own
  data := by
    intro own
    change pending.content.data = _
    unfold PendingSend.content
    cases pending.forwarded with
    | none => rfl
    | some forwarded =>
      change pending.payload.data.isEmpty = false at own
      dsimp only
      rw [own]
      rfl
  attachments := by
    intro own
    change pending.content.attachments = _
    unfold PendingSend.content
    cases pending.forwarded with
    | none => rfl
    | some forwarded => exact if_neg own

theorem SendInvariant.storedOnce (invariant : state.SendInvariant)
    {message : Message} (stored : message ∈ state.messages) : state.StoredOnce message where
  stored := stored
  once := by
    apply countP_eq_one _ stored (by simp)
    apply invariant.ids.imp
    intro first second apart both
    simp only [decide_eq_true_eq] at both
    exact apart (both.1.trans both.2.symm)
  onceUnderKey := by
    intro key
    apply countP_eq_one _ stored (by simp)
    apply invariant.keys.imp
    intro first second apart both
    simp only [decide_eq_true_eq] at both
    obtain ⟨⟨firstRoom, firstKey⟩, secondRoom, secondKey⟩ := both
    refine apart ⟨firstRoom.trans secondRoom.symm, firstKey.trans secondKey.symm, ?_⟩
    rw [firstKey]
    exact key

theorem SendInvariant.insert (invariant : state.SendInvariant)
    {message : Message} (fresh : ¬ state.messageClash message)
    (shown : message.deletedAt = none) {after : ChatState}
    (messages : after.messages = state.messages ++ [message])
    (pending : ∀ call ∈ after.pending, after.Fits call) : after.SendInvariant where
  ids := by
    rw [messages]
    apply pairwise_insert invariant.ids
    intro existing member same
    exact fresh ⟨existing, member, .inl same⟩
  keys := by
    rw [messages]
    apply pairwise_insert invariant.keys
    intro existing member same
    exact fresh ⟨existing, member, .inr same⟩
  shown := by
    intro row member
    rw [messages, List.mem_append, List.mem_singleton] at member
    rcases member with old | new
    · exact invariant.shown row old
    · rw [new]
      exact shown
  pending := pending

theorem SendInvariant.keep (invariant : state.SendInvariant)
    {after : ChatState} (messages : after.messages = state.messages)
    (pending : ∀ call ∈ after.pending, after.Fits call) : after.SendInvariant where
  ids := by
    rw [messages]
    exact invariant.ids
  keys := by
    rw [messages]
    exact invariant.keys
  shown := by
    rw [messages]
    exact invariant.shown
  pending := pending

theorem fits_of_unsent {emission : Emission} (unsent : emission.sends = none) :
    state.Fits (.emission emission) := by
  intro pending sends
  rw [unsent] at sends
  cases sends

theorem checkSend_fits {principal : UserPrincipal} {conversationId : ℕ}
    {payload : MessageCreate} {call : PendingCall}
    (continues : (state.checkSend principal conversationId payload).2 =
      .continues call) (after : ChatState) : after.Fits call := by
  revert continues
  let fits := fun result : ChatState × CallOutcome => result.2 = .continues call → after.Fits call
  have refuses (status : ℕ) (detail : String) : fits (state.refuse status detail) :=
    fun refused => nomatch refused
  change fits (state.checkSend principal conversationId payload)
  unfold checkSend
  cases state.conversation? conversationId with
  | none => exact refuses _ _
  | some conversation =>
    dsimp only
    split
    · exact refuses _ _
    cases state.member? conversation principal with
    | none => exact refuses _ _
    | some member =>
      dsimp only
      split
      · exact refuses _ _
      cases state.clientMessage? conversation.id payload.clientMessageId with
      | some existing => exact fun answered => nomatch answered
      | none =>
        dsimp only
        split
        · exact refuses _ _
        refine withReply_rule fits refuses ?_
        refine withForwarded_rule fits refuses ?_
        intro forwarded copied continues
        cases continues
        exact copied

theorem pending_of_perform (invariant : state.SendInvariant) (action : ChatAction) :
    ∀ call ∈ (state.perform services settings action).1.pending, state.Fits call ∨
        (state.perform services settings action).1.Fits call := by
  intro call member
  have dropped {index : ℕ} (kept : call ∈ (state.dropCall index).pending) : state.Fits call :=
    invariant.pending call (List.mem_of_mem_eraseIdx kept)
  have requested {rewrites : Bool} {result : ChatState × CallOutcome}
      (step : RequestStep services settings state rewrites result)
      (resumed : call ∈ (resume result).1.pending) : state.Fits call := by
    rcases mem_resume_pending resumed with old | continues
    · rw [step.pending] at old
      exact invariant.pending call old
    · obtain ⟨emission, same, unsent⟩ := step.sends call continues
      rw [same]
      exact fits_of_unsent unsent
  cases action with
  | wait elapsed => exact .inl (invariant.pending call member)
  | user principal newId request =>
    exact .inl (requested (user_step services settings state principal newId request) member)
  | platform applicationId newId random request =>
    exact .inl (requested (platform_step services settings state applicationId newId random
        request) member)
  | send principal conversationId payload =>
    rcases mem_resume_pending member with old | continues
    · rw [checkSend_state] at old
      exact .inl (invariant.pending call old)
    · exact .inl (checkSend_fits continues state)
  | commitSend index newId =>
    unfold perform at member ⊢
    dsimp only at member ⊢
    split at member
    · rename_i pending found
      rcases mem_resume_pending member with old | continues
      · rw [commitSend_pending] at old
        exact .inl (dropped old)
      · obtain ⟨-, inserted, emission, same, message, eventType, sends⟩ :=
          commitSend_continues _ continues
        right
        rw [same]
        intro other otherSends
        rw [sends, Option.mem_some_iff] at otherSends
        rw [← otherSends, message, resume_messages, inserted]
        refine ⟨List.mem_append_right _ (List.mem_singleton_self _), eventType, rfl, ?_⟩
        exact submits_message (invariant.pending _ (List.mem_of_getElem? found)) newId _
    · exact .inl (invariant.pending call member)
  | emit index eventId random =>
    unfold perform at member
    dsimp only at member
    split at member
    · rename_i emission found
      rcases emit_cases services settings (state.dropCall index) emission
        eventId random with failed | ⟨events, event, -, result⟩
      · rw [failed] at member
        exact .inl (dropped member)
      · rw [result] at member
        exact .inl (dropped member)
    · exact .inl (invariant.pending call member)
  | deliver loaded changed => exact .inl (invariant.pending call member)
  | crash index => exact .inl (dropped member)

theorem SendInvariant.perform (invariant : state.SendInvariant)
    {action : ChatAction} (unedited : action.rewrites = false) :
    (state.perform services settings action).1.SendInvariant := by
  have pending : ∀ call ∈ (state.perform services settings action).1.pending, state.Fits call ∨
        (state.perform services settings action).1.Fits call :=
    pending_of_perform invariant action
  have step := perform_messages services settings state action
  generalize (state.perform services settings action).1 = after at pending step ⊢
  generalize rowsAfter : after.messages = rows at step
  have fits (kept : ∀ message ∈ state.messages, message ∈ after.messages) :
      ∀ call ∈ after.pending, after.Fits call := by
    intro call member
    rcases pending call member with old | new
    · exact old.mono kept
    · exact new
  cases step with
  | keep =>
    apply invariant.keep rowsAfter
    apply fits
    rw [rowsAfter]
    exact fun message member => member
  | insert message fresh shown =>
    apply invariant.insert fresh shown rowsAfter
    apply fits
    rw [rowsAfter]
    exact fun message member => List.mem_append_left _ member
  | edit allowed message member kept content editedAt =>
    rw [unedited] at allowed
    cases allowed
  | delete allowed message member kept deletedAt =>
    rw [unedited] at allowed
    cases allowed

end Invariant

section Steps

variable {services : RealtimeServices} {settings : ChatSettings}
variable {state : ChatState} {principal : UserPrincipal} {payload : MessageCreate}

theorem messageOut_of_shown {message : Message}
    (shown : message.deletedAt = none) : messageOut message = message := by
  unfold messageOut
  rw [shown]
  rfl

theorem promised_found_iff (invariant : state.SendInvariant)
    {existing : Message} (stored : existing ∈ state.messages)
    {result : ChatState × Option ApiResponse} (messages : result.1.messages = state.messages)
    (events : result.1.events = state.events)
    (answers : result.2 = some (.message (messageOut existing))) :
    Promised principal payload result ↔ state.Own principal payload existing := by
  have asStored := messageOut_of_shown (invariant.shown existing stored)
  rw [asStored] at answers
  have sameOwn (message : MessageOut) : result.1.Own principal payload message ↔
        state.Own principal payload message := by
    constructor
    · intro own
      refine ⟨own.sender, own.submits, ?_⟩
      rw [← events]
      exact own.queued
    · intro own
      refine ⟨own.sender, own.submits, ?_⟩
      rw [events]
      exact own.queued
  constructor
  · intro promised
    exact (sameOwn existing).mp (promised existing answers).1
  · intro own message answered
    rw [answers] at answered
    cases answered
    have once := invariant.storedOnce stored
    refine ⟨(sameOwn existing).mpr own, ?_, ?_, ?_⟩
    · rw [messages]
      exact once.stored
    · rw [messages]
      exact once.once
    · rw [messages]
      exact once.onceUnderKey

theorem promised_of_no_message {result : ChatState × Option ApiResponse}
    (answers : ∀ message, result.2 ≠ some (.message message)) : Promised principal payload result :=
  fun message answered => absurd answered (answers message)

theorem checkSend_promised_iff (invariant : state.SendInvariant) (conversationId : ℕ) :
    Promised principal payload (resume (state.checkSend principal conversationId payload)) ↔
      ∀ conversation member existing, state.conversation? conversationId = some conversation →
        conversation.archived = false → state.member? conversation principal = some member →
        member.role ≠ .viewer → state.clientMessage? conversation.id payload.clientMessageId =
          some existing → state.Own principal payload existing := by
  have refuses (status : ℕ) (detail : String) :
      Promised principal payload (resume (state.refuse status detail)) :=
    promised_of_no_message fun message same => nomatch same
  unfold checkSend
  cases found : state.conversation? conversationId with
  | none =>
    exact iff_of_true (refuses _ _) fun conversation member existing none => nomatch none
  | some conversation =>
    dsimp only
    cases archived : conversation.archived with
    | true =>
      refine iff_of_true (refuses _ _) ?_
      intro other member existing same open_
      cases same
      rw [archived] at open_
      cases open_
    | false =>
      rw [if_neg Bool.false_ne_true]
      cases joined : state.member? conversation principal with
      | none =>
        refine iff_of_true (refuses _ _) ?_
        intro other member existing same _ joinedHere
        cases same
        rw [joined] at joinedHere
        cases joinedHere
      | some member =>
        dsimp only
        split
        · rename_i viewer
          refine iff_of_true (refuses _ _) ?_
          intro other memberHere existing same _ joinedHere sender
          cases same
          rw [joined] at joinedHere
          cases joinedHere
          exact absurd viewer sender
        · rename_i sender
          cases used : state.clientMessage? conversation.id payload.clientMessageId with
          | some existing =>
            refine (promised_found_iff invariant (clientMessage?_spec used).1 rfl rfl rfl).trans ?_
            constructor
            · intro own other memberHere found_ same _ _ _ usedHere
              cases same
              rw [used] at usedHere
              cases usedHere
              exact own
            · intro own
              exact own conversation member existing rfl archived joined sender used
          | none =>
            refine iff_of_true ?_ ?_
            · let promised := fun result : ChatState × CallOutcome =>
                Promised principal payload (resume result)
              change promised _
              dsimp only
              split
              · exact refuses _ _
              refine withReply_rule promised refuses ?_
              refine withForwarded_rule promised refuses ?_
              intro forwarded _
              exact promised_of_no_message fun message same => nomatch same
            · intro other memberHere found_ same _ _ _ usedHere
              cases same
              rw [used] at usedHere
              cases usedHere

theorem commitSend_promised_iff (invariant : state.SendInvariant)
    (pending : PendingSend) (newId : ℕ) :
    Promised principal payload (resume (state.commitSend pending newId)) ↔
      ∀ existing, state.clientMessage? pending.conversationId
          pending.payload.clientMessageId = some existing →
        state.Own principal payload existing := by
  unfold commitSend
  dsimp only
  split
  · cases used : state.clientMessage? pending.conversationId pending.payload.clientMessageId with
    | none =>
      refine iff_of_true ?_ fun existing none => nomatch none
      exact promised_of_no_message fun message same => nomatch same
    | some existing =>
      refine (promised_found_iff invariant (clientMessage?_spec used).1 rfl rfl rfl).trans ?_
      simp
  · rename_i fresh
    refine iff_of_true (promised_of_no_message fun message same => nomatch same) ?_
    -- a message under the same key would have clashed
    intro existing used
    obtain ⟨stored, room, key⟩ := clientMessage?_spec used
    refine absurd ⟨existing, stored, .inr ⟨room, key, ?_⟩⟩ fresh
    intro missing
    rw [key] at missing
    unfold clientMessage? at used
    rw [missing] at used
    cases used

theorem announces_event {emission : Emission} (eventType : emission.eventType = "chat.message")
    (recipients : List ℕ) (now eventId random : ℕ) :
    ((emission.request recipients).event services settings.events now
      eventId random).Announces emission.message.id := by
  refine ⟨eventType, _, rfl, ?_⟩
  change (messageOut emission.message).id = _
  unfold messageOut
  split <;> rfl

theorem recipients_le_of_queueEvent {events following : List RealtimeEvent}
    {request : EventRequest} {now id random : ℕ} {event : RealtimeEvent}
    (queued : queueEvent services settings.events events request now id
      random = .ok (following, event)) :
    request.recipients.length ≤ settings.events.maxEventRecipients := by
  by_contra many
  unfold queueEvent at queued
  rw [if_pos (Nat.lt_of_not_le many)] at queued
  cases queued

theorem emit_promised_iff (invariant : state.SendInvariant)
    {emission : Emission} {pending : PendingSend} (fits : state.Fits (.emission emission))
    (sends : emission.sends = some pending) (eventId random : ℕ) :
    Promised pending.principal pending.payload
        ((state.emit services settings emission eventId random).1,
          some (state.emit services settings emission eventId random).2) ↔ ∀ event,
        let recipients := state.memberIds emission.message.conversationId
        recipients.length ≤ settings.events.maxEventRecipients →
        (emission.request recipients).existing services state.events = .ok (some event) →
        ∃ announced ∈ state.events, announced.Announces emission.message.id := by
  obtain ⟨stored, eventType, sender, submits⟩ := fits pending sends
  have asStored := messageOut_of_shown (invariant.shown _ stored)
  have response : emission.response = .message emission.message := by
    unfold Emission.response
    rw [eventType, asStored]
    rfl
  have once := invariant.storedOnce stored
  constructor
  · intro promised event recipients few found
    have queued : queueEvent services settings.events state.events
        (emission.request recipients) state.clock eventId random = .ok (state.events, event) := by
      unfold queueEvent
      rw [if_neg (by exact Nat.not_lt.mpr few), found]
    have emitted : state.emit services settings emission eventId random =
          (state, emission.response) := by
      unfold emit
      rw [queued]
    rw [emitted, response] at promised
    exact (promised emission.message rfl).1.queued
  · intro announced
    rcases emit_cases services settings state emission eventId random with
      failed | ⟨events, event, queued, result⟩
    · rw [failed]
      exact promised_of_no_message fun message same => nomatch same
    · rw [result, response]
      intro message answered
      cases answered
      refine ⟨⟨sender, submits, ?_⟩, once.stored, once.once, once.onceUnderKey⟩
      have few := recipients_le_of_queueEvent queued
      rcases queueEvent_cases queued with ⟨same, found⟩ | ⟨added, new, -⟩
      · rw [same]
        exact announced event few found
      · refine ⟨event, ?_, ?_⟩
        · rw [added]
          exact List.mem_append_right _ (List.mem_singleton_self _)
        · rw [new]
          exact announces_event eventType _ _ _ _

theorem keepsPromise_iff (invariant : state.SendInvariant)
    (action : ChatAction) (after : ChatState) : KeepsPromise services settings state action after ↔
      FindsOwn services settings state action after := by
  cases action with
  | wait elapsed => exact Iff.rfl
  | user principal newId request => exact Iff.rfl
  | platform applicationId newId random request => exact Iff.rfl
  | deliver loaded changed => exact Iff.rfl
  | crash index => exact Iff.rfl
  | send principal conversationId payload => exact checkSend_promised_iff invariant conversationId
  | commitSend index newId =>
    unfold KeepsPromise FindsOwn
    apply forall₂_congr
    intro pending found
    have dropped : (state.dropCall index).SendInvariant :=
      invariant.keep rfl fun call member => invariant.pending call (List.mem_of_mem_eraseIdx member)
    rw [perform_commitSend found]
    refine (commitSend_promised_iff dropped pending newId).trans ?_
    apply forall₂_congr
    intro existing used
    exact ⟨fun own => ⟨own.sender, own.submits, own.queued⟩,
      fun own => ⟨own.sender, own.submits, own.queued⟩⟩
  | emit index eventId random =>
    unfold KeepsPromise FindsOwn
    apply forall₂_congr
    intro emission found
    have dropped : (state.dropCall index).SendInvariant :=
      invariant.keep rfl fun call member => invariant.pending call (List.mem_of_mem_eraseIdx member)
    have fits := invariant.pending _ (List.mem_of_getElem? found)
    rw [perform_emit found]
    cases sends : emission.sends with
    | none => simp
    | some pending =>
      constructor
      · intro promised _
        exact (emit_promised_iff dropped fits sends eventId random).mp (promised pending rfl)
      · intro announced other same
        cases same
        exact (emit_promised_iff dropped fits sends eventId random).mpr
          (announced (Option.some_ne_none pending))

end Steps

/-- In a run without edits and deletions every successful answer to a send
keeps the promise if and only if every send that finds a message under its
identifier finds its own announced message. -/
theorem run_sendsPromised_iff (services : RealtimeServices)
    (settings : ChatSettings) {actions : List ChatAction}
    (unedited : ∀ action ∈ actions, action.rewrites = false) : EveryStep (fun before action after =>
          after = (before.perform services settings action).1)
        (KeepsPromise services settings) {} actions ↔
      EveryStep (fun before action after => after = (before.perform services settings action).1)
        (FindsOwn services settings) {} actions := by
  have initial : SendInvariant {} :=
    { ids := List.Pairwise.nil
      keys := List.Pairwise.nil
      shown := fun row member => nomatch member
      pending := fun call member => nomatch member }
  refine EveryStep.congr_of_invariant initial ?_ ?_ unedited
  · intro state action after invariant move keeps
    rw [move]
    exact invariant.perform keeps
  · intro state action after invariant _
    exact keepsPromise_iff invariant action after

def openTalk : ChatAction :=
  .user { clientId := "app", sub := 1 } 1 (.createConversation
    { participantSubs := [2]
      title := none
      description := none
      roomKey := none
      kind := .direct })

def textMessage (clientMessageId body : String) : MessageCreate where
  body := body
  clientMessageId := some clientMessageId
  data := []
  replyToMessageId := none
  forwardMessageId := none
  mentionSubs := []
  attachments := []
  priority := .normal

/-- A send that nothing interrupts keeps the promise. -/
theorem run_sendsPromised_iff_uninterrupted : EveryStep (fun before action after =>
        after = (before.perform
          { fingerprint := fun _ => "", cursorMicros := id } {} action).1)
      (KeepsPromise { fingerprint := fun _ => "", cursorMicros := id } {}) {}
      [openTalk, .send { clientId := "app", sub := 1 } 1 (textMessage "m1" "hello"),
        .commitSend 0 5, .emit 0 6 0] := by
  apply (run_sendsPromised_iff _ _ (by decide)).mpr
  simp only [EveryStep.cons_iff]
  refine ⟨trivial, ?_, ?_, ?_, EveryStep.nil⟩
  · intro conversation member existing _ _ _ _ used
    have stored := (clientMessage?_spec used).1
    cases stored
  · intro pending _ existing used
    have stored := (clientMessage?_spec used).1
    cases stored
  · intro emission _ _ event recipients _ found
    have stored := mem_of_existing found
    cases stored

/-- Two members choose the same identifier, and a client tries again after a
crash between the commits. -/
theorem sends_unpromised : ¬ EveryStep (fun before action after =>
          after = (before.perform
            { fingerprint := fun _ => "", cursorMicros := id } {} action).1)
        (KeepsPromise { fingerprint := fun _ => "", cursorMicros := id } {})
        {}
        [openTalk, .send { clientId := "app", sub := 1 } 1 (textMessage "m1" "yes"),
          .commitSend 0 5, .emit 0 6 0, .send { clientId := "app", sub := 2 } 1
            (textMessage "m1" "no")] ∧ ¬ EveryStep
        (fun before action after =>
          after = (before.perform
            { fingerprint := fun _ => "", cursorMicros := id } {} action).1)
        (KeepsPromise { fingerprint := fun _ => "", cursorMicros := id } {})
        {}
        [openTalk, .send { clientId := "app", sub := 1 } 1 (textMessage "m1" "yes"),
          .commitSend 0 5, .crash 0, .send { clientId := "app", sub := 1 } 1
            (textMessage "m1" "yes")] := by
  constructor
  · intro promised
    simp only [EveryStep.cons_iff] at promised
    have own := (promised.2.2.2.2.1 _ rfl).1
    have sender := own.sender
    revert sender
    decide
  · intro promised
    simp only [EveryStep.cons_iff] at promised
    obtain ⟨event, member, -⟩ := (promised.2.2.2.2.1 _ rfl).1.queued
    cases member

end ChatState

end Ithute
