import Ithute.Library.TransitionRuns
import Ithute.RealtimeChatSteps

/-!
# What responses show of other conversations

Calls run one after another here, each through all of its transactions.  The
endpoints that go through the membership guard answer with data of the
caller's conversations.  Two do not: creating a conversation with a room key
that is taken, and replaying events.
-/

namespace Ithute

open KeysetPaging TransitionRuns

/-- A call with the identifiers that its inserts draw, or a commit of the
delivery of an event. -/
inductive ApiCall where
  | wait (elapsed : ℕ)
  | deliver (loaded changed : RealtimeEvent)
  | user (principal : UserPrincipal) (newId eventId random : ℕ) (request : UserRequest)
  | send (principal : UserPrincipal) (newId eventId random : ℕ)
      (conversationId : ℕ) (payload : MessageCreate)
  | platform (applicationId : String) (newId eventId random : ℕ) (request : PlatformRequest)

namespace ChatState

section Calls

variable (services : RealtimeServices) (settings : ChatSettings)

def finish (eventId random : ℕ) (result : ChatState × CallOutcome) :
    ChatState × Option ApiResponse :=
  match result.2 with
  | .responds response => (result.1, some response)
  | .continues (.emission emission) =>
    let emitted := result.1.emit services settings emission eventId random
    (emitted.1, some emitted.2)
  | .continues (.send _) => (result.1, none)

def call (state : ChatState) : ApiCall → ChatState × Option ApiResponse
  | .wait elapsed => ({ state with clock := state.clock + elapsed }, none)
  | .deliver loaded changed =>
    ({ state with events := commitEvent loaded changed state.events }, none)
  | .user principal newId eventId random request =>
    finish services settings eventId random (state.user settings principal newId request)
  | .send principal newId eventId random conversationId payload =>
    let checked := state.checkSend principal conversationId payload
    match checked.2 with
    | .continues (.send pending) =>
      finish services settings eventId random (checked.1.commitSend pending newId)
    | _ => finish services settings eventId random checked
  | .platform applicationId newId eventId random request =>
    finish services settings eventId random
      (state.platform services settings applicationId newId random request)

end Calls

end ChatState

namespace ChatState

end ChatState

def ApiResponse.conversationIds : ApiResponse → List ℕ
  | .conversations rows => rows.map fun row => row.conversation.id
  | .conversation row => [row.conversation.id]
  | .messages rows => rows.map Message.conversationId
  | .message row => [row.conversationId]
  | .receipt conversationId _ => [conversationId]
  | .reaction conversationId _ => [conversationId]
  | .pin row => [row.conversationId]
  | .presence conversationId _ => [conversationId]
  | .events rows =>
    rows.filterMap fun event => event.payload.chat.map ChatPart.conversationId
  | .refused _ _ => []
  | .noContent => []
  | .eventAck _ => []

@[simp]
theorem messageOut_conversationId (message : Message) :
    (messageOut message).conversationId = message.conversationId := by
  unfold messageOut
  split <;> rfl

theorem Emission.shows_only (emission : Emission) {id : ℕ}
    (member : id ∈ emission.response.conversationIds) : id = emission.message.conversationId := by
  unfold Emission.response at member
  split at member
  · cases member
  · rw [← messageOut_conversationId]
    exact List.mem_singleton.mp member

def UserRequest.unguarded : UserRequest → Bool
  | .createConversation _ => true
  | .replay _ _ => true
  | _ => false

namespace ChatState

/-- The caller is a member, and the conversation is of its application. -/
def Member (state : ChatState) (principal : UserPrincipal) (conversationId : ℕ) : Prop :=
  ∃ conversation ∈ state.conversations, conversation.id = conversationId ∧
      conversation.applicationId = principal.clientId ∧
      ∃ member ∈ state.members, member.conversationId = conversationId ∧
        member.authUserId = principal.sub

instance (state : ChatState) (principal : UserPrincipal) (conversationId : ℕ) :
    Decidable (state.Member principal conversationId) :=
  inferInstanceAs (Decidable (∃ _ ∈ _, _ ∧ _ ∧ ∃ _ ∈ _, _ ∧ _))

def Shows (principal : UserPrincipal) (result : ChatState × Option ApiResponse) : Prop :=
  ∀ response ∈ result.2, ∀ id ∈ response.conversationIds, result.1.Member principal id

/-- The call answers its user with nothing of other conversations. -/
def Isolated (services : RealtimeServices) (settings : ChatSettings)
    (before : ChatState) (call : ApiCall) (_ : ChatState) : Prop :=
  match call with
  | .user principal _ _ _ _ => Shows principal (before.call services settings call)
  | .send principal _ _ _ _ _ => Shows principal (before.call services settings call)
  | _ => True

/-- The event is among the rows that a replay reads for the user. -/
def Replays (settings : ChatSettings) (state : ChatState)
    (principal : UserPrincipal) (after : WithBot EventCursor) (limit : ℕ+)
    (event : RealtimeEvent) : Prop :=
  let rows := replayRows state.events principal.clientId principal.sub state.clock
  event ∈ rows ∧ after < event.cursor ∧ rowsBetween RealtimeEvent.cursor after event.cursor rows <
      min limit settings.maxReplayPageSize

/-- The requests that no guard protects ask for conversations of the
caller. -/
def KeepsOut (settings : ChatSettings) (before : ChatState) (call : ApiCall)
    (_ : ChatState) : Prop :=
  match call with
  | .user principal _ _ _ (.createConversation payload) =>
    payload.refusal? settings (some principal.sub) = none →
      ∀ existing ∈ before.room? principal.clientId payload.roomKey,
        before.Member principal existing.id
  | .user principal _ _ _ (.replay after limit) =>
    ∀ event, before.Replays settings principal after limit event → ∀ part ∈ event.payload.chat,
        before.Member principal part.conversationId
  | _ => True

section Guarded

variable {services : RealtimeServices} {settings : ChatSettings}
variable {state : ChatState} {principal : UserPrincipal}

theorem member_of_guard {conversation : Conversation} {member : ConversationMember} {id : ℕ}
    (found : state.conversation? id = some conversation)
    (joined : state.member? conversation principal = some member) :
    state.Member principal conversation.id := by
  unfold member? at joined
  split_ifs at joined with same
  have memberMem := List.mem_of_find?_eq_some joined
  have user : member.authUserId = principal.sub := by simpa using List.find?_some joined
  have here : member ∈ state.members ∧ member.conversationId = conversation.id := by
    simpa [membersOf] using memberMem
  exact ⟨conversation, List.mem_of_find?_eq_some found, rfl, same, member, here.1, here.2, user⟩

theorem Member.updateMember {id : ℕ} (isMember : state.Member principal id)
    (changed : ConversationMember) : (state.updateMember changed).Member principal id := by
  obtain ⟨conversation, conversationMem, same, application, member,
    memberMem, here, user⟩ := isMember
  refine ⟨conversation, conversationMem, same, application, _,
    List.mem_map_of_mem memberMem, ?_, ?_⟩
  · split
    · rename_i keys
      rw [← keys.1]
      exact here
    · exact here
  · split
    · rename_i keys
      rw [← keys.2]
      exact user
    · exact user

theorem Member.insertMessage {id : ℕ} (isMember : state.Member principal id) (message : Message) :
    (state.insertMessage message).Member principal id := by
  obtain ⟨conversation, conversationMem, same, application, member⟩ := isMember
  refine ⟨_, List.mem_map_of_mem conversationMem, ?_, ?_, member⟩
  · split <;> exact same
  · split <;> exact application

/-- What a call answers or goes on with is of the caller's conversations. -/
def OutcomeShows (principal : UserPrincipal) (result : ChatState × CallOutcome) : Prop :=
  match result.2 with
  | .responds response => ∀ id ∈ response.conversationIds, result.1.Member principal id
  | .continues (.emission emission) => result.1.Member principal emission.message.conversationId
  | .continues (.send pending) => result.1.Member principal pending.conversationId

theorem outcomeShows_refuse (status : ℕ) (detail : String) :
    OutcomeShows principal (state.refuse status detail) := by
  intro id member
  cases member

theorem outcomeShows_noContent : OutcomeShows principal (state.answer .noContent) := by
  intro id member
  cases member

theorem outcomeShows_answer {response : ApiResponse} (id : ℕ)
    (only : response.conversationIds = [id]) (isMember : state.Member principal id) :
    OutcomeShows principal (state.answer response) := by
  intro shown member
  rw [only] at member
  cases List.mem_singleton.mp member
  exact isMember

theorem finish_shows {eventId random : ℕ} {result : ChatState × CallOutcome}
    (shown : OutcomeShows principal result) :
    Shows principal (finish services settings eventId random result) := by
  obtain ⟨after, outcome⟩ := result
  cases outcome with
  | responds response =>
    intro answered same
    cases Option.mem_some_iff.mp same
    exact shown
  | continues pendingCall =>
    cases pendingCall with
    | send pending =>
      intro answered same
      cases same
    | emission emission =>
      intro answered same
      cases Option.mem_some_iff.mp same
      intro id member
      change (after.emit services settings emission eventId random).1.Member principal id
      rcases emit_cases services settings after emission eventId
        random with failed | ⟨events, event, -, queued⟩
      · rw [failed] at member
        cases member
      · rw [queued] at member ⊢
        cases emission.shows_only member
        exact shown

theorem createConversation_shows_iff (payload : ConversationCreate) (newId : ℕ) :
    OutcomeShows principal (state.createConversation settings principal.clientId
          (some principal.sub) payload newId) ↔
      (payload.refusal? settings (some principal.sub) = none →
        ∀ existing ∈ state.room? principal.clientId payload.roomKey,
          state.Member principal existing.id) := by
  unfold createConversation
  cases payload.refusal? settings (some principal.sub) with
  | some detail => simp [outcomeShows_refuse]
  | none =>
    dsimp only
    split
    · cases state.room? principal.clientId payload.roomKey with
      | none => simp [outcomeShows_refuse]
      | some existing =>
        simp [OutcomeShows, answer, ApiResponse.conversationIds, conversationOut]
    · rename_i free
      constructor
      · intro _ _ existing held
        exfalso
        apply free
        right
        unfold room? at held
        cases present : presentText payload.roomKey with
        | none => simp [present] at held
        | some key =>
          rw [present] at held
          have keys : existing.applicationId = principal.clientId ∧
              existing.roomKey = some key := by
            simpa using List.find?_some held
          have same : payload.roomKey = some key := (Option.filter_eq_some_iff.mp present).1
          refine ⟨existing, List.mem_of_find?_eq_some held, keys.1, ?_, ?_⟩
          · rw [keys.2, same]
          · rw [keys.2]
            exact Option.some_ne_none key
      · intro _
        apply outcomeShows_answer newId rfl
        refine ⟨_, List.mem_append_right _ (List.mem_singleton_self _),
          rfl, rfl, newMember newId (some principal.sub) principal.sub, ?_, rfl, rfl⟩
        apply List.mem_append_right
        apply List.mem_map_of_mem
        unfold ConversationCreate.participants
        dsimp only
        split
        · assumption
        · exact List.mem_cons_self

section Endpoints

variable (newId : ℕ)

theorem listConversations_shows :
    OutcomeShows principal (state.user settings principal newId .listConversations) := by
  intro id member
  obtain ⟨out, outMem, rfl⟩ := List.mem_map.mp member
  obtain ⟨conversation, conversationMem, rfl⟩ := List.mem_map.mp outMem
  have listed := List.of_mem_filter ((List.mem_insertionSort _).mp conversationMem)
  have stored := List.mem_of_mem_filter ((List.mem_insertionSort _).mp conversationMem)
  simp only [decide_eq_true_eq] at listed
  obtain ⟨application, joined, -⟩ := listed
  obtain ⟨row, rowMem, user⟩ := List.mem_map.mp joined
  have here : row ∈ state.members ∧ row.conversationId = conversation.id := by
    simpa [membersOf] using rowMem
  exact ⟨conversation, stored, rfl, application, row, here.1, here.2, user⟩

theorem listMessages_shows (conversationId : ℕ) (before : Option ℕ) (limit : ℕ+) :
    OutcomeShows principal
      (state.user settings principal newId (.listMessages conversationId before limit)) := by
  refine withConversation_rule _ outcomeShows_refuse ?_
  intro conversation member found joined id shown
  obtain ⟨out, outMem, rfl⟩ := List.mem_map.mp shown
  obtain ⟨message, messageMem, rfl⟩ := List.mem_map.mp outMem
  have here := List.of_mem_filter ((List.mem_insertionSort _).mp
    (List.mem_of_mem_take (List.mem_reverse.mp messageMem)))
  simp only [decide_eq_true_eq] at here
  rw [messageOut_conversationId, here.1]
  exact member_of_guard found joined

theorem editMessage_shows (id : ℕ) (payload : MessageEdit) :
    OutcomeShows principal (state.user settings principal newId (.editMessage id payload)) := by
  refine withMessage_rule _ outcomeShows_refuse ?_
  intro message conversation member found visible room joined
  have isMember := member_of_guard room joined
  rw [id_of_conversation? room] at isMember
  cases mayModerate message member principal with
  | false => exact outcomeShows_refuse _ _
  | true => exact isMember

theorem deleteMessage_shows (id : ℕ) :
    OutcomeShows principal (state.user settings principal newId (.deleteMessage id)) := by
  refine withMessage_rule _ outcomeShows_refuse ?_
  intro message conversation member found visible room joined
  have isMember := member_of_guard room joined
  rw [id_of_conversation? room] at isMember
  cases mayModerate message member principal with
  | false => exact outcomeShows_refuse _ _
  | true =>
    simp only [if_true]
    cases message.deletedAt.isNone with
    | false => exact outcomeShows_noContent
    | true => exact isMember

theorem pinMessage_shows (conversationId id : ℕ) : OutcomeShows principal
    (state.user settings principal newId (.pinMessage conversationId id)) := by
  refine withConversation_rule _ outcomeShows_refuse ?_
  intro conversation member found joined
  have isMember := member_of_guard found joined
  cases mayPin member with
  | false => exact outcomeShows_refuse _ _
  | true =>
    simp only [if_true]
    cases state.message? id with
    | none => exact outcomeShows_refuse _ _
    | some message =>
      dsimp only
      split
      · exact outcomeShows_refuse _ _
      · split
        · rename_i pin pinned
          have here : pin.conversationId = conversation.id := by
            have keys := List.find?_some pinned
            simp only [decide_eq_true_eq] at keys
            exact keys.1
          rw [← here] at isMember
          exact outcomeShows_answer pin.conversationId rfl isMember
        · exact outcomeShows_answer conversation.id rfl isMember

theorem user_shows {request : UserRequest} (guarded : request.unguarded = false) :
    OutcomeShows principal (state.user settings principal newId request) := by
  have refuses (status : ℕ) (detail : String) :
      OutcomeShows principal (state.refuse status detail) :=
    outcomeShows_refuse status detail
  cases request with
  | listConversations => exact listConversations_shows newId
  | createConversation payload => cases guarded
  | listMessages conversationId before limit =>
    exact listMessages_shows newId conversationId before limit
  | editMessage id payload => exact editMessage_shows newId id payload
  | deleteMessage id => exact deleteMessage_shows newId id
  | acknowledgeMessage id read =>
    refine withMessage_rule _ refuses ?_
    intro message conversation member found visible room joined
    have isMember := member_of_guard room joined
    cases read with
    | false => exact outcomeShows_answer conversation.id rfl isMember
    | true =>
      exact outcomeShows_answer conversation.id rfl (isMember.updateMember _)
  | markRead conversationId id =>
    refine withConversation_rule _ refuses ?_
    intro conversation member found joined
    cases state.message? id with
    | none => exact refuses _ _
    | some message =>
      dsimp only
      split
      · exact refuses _ _
      · exact outcomeShows_noContent
  | addReaction id emoji =>
    refine withMessage_rule _ refuses ?_
    intro message conversation member found visible room joined
    have isMember := member_of_guard room joined
    dsimp only
    split <;> exact outcomeShows_answer conversation.id rfl isMember
  | removeReaction id emoji =>
    refine withMessage_rule _ refuses ?_
    intro message conversation member found visible room joined
    exact outcomeShows_noContent
  | pinMessage conversationId id => exact pinMessage_shows newId conversationId id
  | unpinMessage conversationId id =>
    refine withConversation_rule _ refuses ?_
    intro conversation member found joined
    cases mayPin member with
    | false => exact refuses _ _
    | true => exact outcomeShows_noContent
  | activity conversationId =>
    refine withConversation_rule _ refuses ?_
    intro conversation member found joined
    exact outcomeShows_noContent
  | conversationPresence conversationId =>
    refine withConversation_rule _ refuses ?_
    intro conversation member found joined
    exact outcomeShows_answer conversation.id rfl (member_of_guard found joined)
  | replay after limit => cases guarded
  | acknowledgeEvent eventId =>
    change OutcomeShows principal (state.acknowledgeEvent principal eventId)
    unfold acknowledgeEvent
    split
    · intro id member
      cases member
    · exact refuses _ _

end Endpoints

theorem replay_shows_iff (distinct : state.events.Pairwise fun first second =>
      first.cursor ≠ second.cursor)
    (after : WithBot EventCursor) (limit : ℕ+) :
    OutcomeShows principal (state.replay settings principal after limit) ↔
      ∀ event, state.Replays settings principal after limit event → ∀ part ∈ event.payload.chat,
          state.Member principal part.conversationId := by
  have page (event : RealtimeEvent) :
      event ∈ replayEvents state.events principal.clientId principal.sub
          after (min limit settings.maxReplayPageSize) state.clock ↔
        state.Replays settings principal after limit event :=
    mem_pageAfter_iff (distinct.filter _)
  constructor
  · intro shown event replayed part carried
    apply shown part.conversationId
    apply List.mem_filterMap.mpr
    refine ⟨event, (page event).mpr replayed, ?_⟩
    rw [Option.mem_def.mp carried]
    rfl
  · intro allowed id member
    obtain ⟨event, onPage, carried⟩ := List.mem_filterMap.mp member
    cases chat : event.payload.chat with
    | none => simp [chat] at carried
    | some part =>
      rw [chat, Option.map_some, Option.some.injEq] at carried
      rw [← carried]
      exact allowed event ((page event).mp onPage) part chat

theorem checkSend_shows (conversationId : ℕ) (payload : MessageCreate) : OutcomeShows principal
      (state.checkSend principal conversationId payload) := by
  have refuses (status : ℕ) (detail : String) :
      OutcomeShows principal (state.refuse status detail) :=
    outcomeShows_refuse status detail
  unfold checkSend
  cases found : state.conversation? conversationId with
  | none => exact refuses _ _
  | some conversation =>
    dsimp only
    split
    · exact refuses _ _
    cases joined : state.member? conversation principal with
    | none => exact refuses _ _
    | some member =>
      have isMember := member_of_guard found joined
      dsimp only
      split
      · exact refuses _ _
      cases used : state.clientMessage? conversation.id payload.clientMessageId with
      | some existing =>
        apply outcomeShows_answer conversation.id _ isMember
        rw [← (clientMessage?_spec used).2.1, ← messageOut_conversationId existing]
        rfl
      | none =>
        dsimp only
        split
        · exact refuses _ _
        refine withReply_rule _ refuses ?_
        refine withForwarded_rule _ refuses ?_
        intro forwarded _
        exact isMember

theorem commitSend_shows {pending : PendingSend} (newId : ℕ)
    (isMember : state.Member principal pending.conversationId) :
    OutcomeShows principal (state.commitSend pending newId) := by
  unfold commitSend
  dsimp only
  split
  · cases used : state.clientMessage? pending.conversationId pending.payload.clientMessageId with
    | some existing =>
      apply outcomeShows_answer pending.conversationId _ isMember
      rw [← (clientMessage?_spec used).2.1, ← messageOut_conversationId existing]
      rfl
    | none => exact outcomeShows_refuse _ _
  · exact isMember.insertMessage _

theorem send_shows (newId eventId random conversationId : ℕ) (payload : MessageCreate) :
    Shows principal (state.call services settings
      (.send principal newId eventId random conversationId payload)) := by
  have checked : OutcomeShows principal (state.checkSend principal conversationId payload) :=
    checkSend_shows conversationId payload
  unfold call
  dsimp only
  split
  · rename_i pending continues
    apply finish_shows
    apply commitSend_shows
    unfold OutcomeShows at checked
    rw [continues] at checked
    exact checked
  · exact finish_shows checked

theorem finish_shows_iff {eventId random : ℕ}
    {result : ChatState × CallOutcome} {response : ApiResponse}
    (answers : result.2 = .responds response) :
    Shows principal (finish services settings eventId random result) ↔
      OutcomeShows principal result := by
  constructor
  · intro shown
    unfold finish at shown
    unfold OutcomeShows
    rw [answers] at shown ⊢
    exact shown response rfl
  · exact finish_shows

theorem createConversation_answers (applicationId : String)
    (creator : Option ℕ) (payload : ConversationCreate) (newId : ℕ) :
    ∃ response, (state.createConversation settings applicationId creator
      payload newId).2 = .responds response := by
  unfold createConversation
  cases payload.refusal? settings creator with
  | some detail => exact ⟨_, rfl⟩
  | none =>
    dsimp only
    split
    · cases state.room? applicationId payload.roomKey <;>
        exact ⟨_, rfl⟩
    · exact ⟨_, rfl⟩

end Guarded

section Sequences

variable {services : RealtimeServices} {settings : ChatSettings} {state : ChatState}

def DistinctCursors (state : ChatState) : Prop :=
  state.events.Pairwise fun first second => first.cursor ≠ second.cursor

theorem DistinctCursors.of_step {after : ChatState} (distinct : state.DistinctCursors)
    (step : EventsStep services settings state after.events) : after.DistinctCursors := by
  unfold DistinctCursors
  rcases step with same | ⟨request, now, id, random, event, queued⟩
  · rw [same]
    exact distinct
  · rcases queueEvent_cases queued with ⟨same, -⟩ | ⟨added, -, fresh⟩
    · rw [same]
      exact distinct
    · rw [added, List.pairwise_append]
      refine ⟨distinct, List.pairwise_singleton _ _, ?_⟩
      intro existing member other otherMem equal
      rw [List.mem_singleton.mp otherMem] at equal
      exact fresh existing member (.inr (.inl equal))

theorem DistinctCursors.finish {result : ChatState × CallOutcome}
    (distinct : result.1.DistinctCursors) (eventId random : ℕ) :
    (finish services settings eventId random result).1.DistinctCursors := by
  obtain ⟨after, outcome⟩ := result
  cases outcome with
  | responds response => exact distinct
  | continues pendingCall =>
    cases pendingCall with
    | send pending => exact distinct
    | emission emission =>
      change (after.emit services settings emission eventId random).1.DistinctCursors
      rcases emit_cases services settings after emission eventId
        random with failed | ⟨events, event, queued, result⟩
      · rw [failed]
        exact distinct
      · rw [result]
        exact distinct.of_step (.inr ⟨_, _, _, _, _, queued⟩)

theorem DistinctCursors.call (distinct : state.DistinctCursors) (call : ApiCall) :
    (state.call services settings call).1.DistinctCursors := by
  cases call with
  | wait elapsed => exact distinct
  | deliver loaded changed =>
    unfold DistinctCursors at distinct ⊢
    rw [← List.pairwise_map] at distinct ⊢
    change (List.map RealtimeEvent.cursor
      (commitEvent loaded changed state.events)).Pairwise (· ≠ ·)
    rw [commitEvent_map RealtimeEvent.cursor (fun _ _ _ => rfl)]
    exact distinct
  | user principal newId eventId random request =>
    apply DistinctCursors.finish
    exact distinct.of_step (user_step services settings state principal newId request).events
  | send principal newId eventId random conversationId payload =>
    have checked : (state.checkSend principal conversationId payload).1.DistinctCursors := by
      rw [checkSend_state]
      exact distinct
    unfold ChatState.call
    dsimp only
    split
    · apply DistinctCursors.finish
      unfold DistinctCursors
      rw [commitSend_events]
      exact checked
    · exact checked.finish eventId random
  | platform applicationId newId eventId random request =>
    apply DistinctCursors.finish
    exact distinct.of_step (platform_step services settings state
      applicationId newId random request).events

theorem isolated_iff (distinct : state.DistinctCursors) (call : ApiCall) (after : ChatState) :
    Isolated services settings state call after ↔ KeepsOut settings state call after := by
  cases call with
  | wait elapsed => exact Iff.rfl
  | deliver loaded changed => exact Iff.rfl
  | send principal newId eventId random conversationId payload =>
    exact iff_of_true (send_shows newId eventId random conversationId payload) trivial
  | platform applicationId newId eventId random request => exact Iff.rfl
  | user principal newId eventId random request =>
    cases guarded : request.unguarded with
    | false =>
      have shown : Isolated services settings state
          (.user principal newId eventId random request) after :=
        finish_shows (user_shows newId guarded)
      refine iff_of_true shown ?_
      cases request <;> trivial
    | true =>
      cases request with
      | createConversation payload =>
        obtain ⟨response, answers⟩ : ∃ response,
            (state.createConversation settings principal.clientId
              (some principal.sub) payload newId).2 = .responds response :=
          createConversation_answers _ _ payload newId
        exact (finish_shows_iff answers).trans (createConversation_shows_iff payload newId)
      | replay position limit =>
        exact (finish_shows_iff rfl).trans (replay_shows_iff distinct position limit)
      | _ => cases guarded

/-- In every sequence of calls the responses keep to the caller's
conversations if and only if no call asks for a room of others by its key or
replays an event of a conversation that the caller has left. -/
theorem calls_isolated_iff (services : RealtimeServices)
    (settings : ChatSettings) (calls : List ApiCall) : EveryStep (fun before call after =>
          after = (before.call services settings call).1)
        (Isolated services settings) {} calls ↔
      EveryStep (fun before call after => after = (before.call services settings call).1)
        (KeepsOut settings) {} calls := by
  have initial : DistinctCursors {} := List.Pairwise.nil
  refine EveryStep.congr_of_invariant initial ?_ ?_ (fun call _ => trivial)
  · intro state call after distinct move _
    rw [move]
    exact distinct.call call
  · intro state call after distinct _
    exact isolated_iff distinct call after

def deliveredAs (status : EventStatus) : RealtimeEvent where
  id := 6
  cursor := toLex (0, 0)
  applicationId := "app"
  eventType := "chat.message"
  version := 1
  priority := .normal
  audienceLabel := none
  idempotencyKey := none
  requestFingerprint := none
  payload := { title := none, body := none, route := none, data := none }
  broadcastConnected := false
  pushEnabled := true
  status := status
  maxAttempts := 5
  deliverAt := 0
  expiresAt := 3600 * microsPerSecond
  createdAt := 0
  recipients := [1, 2]

/-- A user who is in no conversation learns of a room by its key, and a user
who has been removed replays what was said before. -/
theorem roomKey_showsRoom : ¬ EveryStep (fun before call after =>
          after = (before.call
            { fingerprint := fun _ => "", cursorMicros := id } {} call).1)
        (Isolated { fingerprint := fun _ => "", cursorMicros := id } {}) {}
        [.user { clientId := "app", sub := 1 } 1 0 0 (.createConversation
            { participantSubs := [2]
              title := some "salaries"
              description := none
              roomKey := some "board"
              kind := .channel }),
          .user { clientId := "app", sub := 3 } 2 0 0 (.createConversation
            { participantSubs := []
              title := none
              description := none
              roomKey := some "board"
              kind := .channel })] ∧ ¬ EveryStep
        (fun before call after =>
          after = (before.call
            { fingerprint := fun _ => "", cursorMicros := id } {} call).1)
        (Isolated { fingerprint := fun _ => "", cursorMicros := id } {}) {}
        [.user { clientId := "app", sub := 1 } 1 0 0 (.createConversation
            { participantSubs := [2]
              title := some "salaries"
              description := none
              roomKey := none
              kind := .group }), .send { clientId := "app", sub := 1 } 5 6 0 1
            { body := "a raise"
              clientMessageId := none
              data := []
              replyToMessageId := none
              forwardMessageId := none
              mentionSubs := []
              attachments := []
              priority := .normal },
          .deliver (deliveredAs .queued) (deliveredAs .delivered),
          .platform "app" 0 0 0 (.manageMembers 1
            [{ authUserId := 2, action := .remove, role := none,
               muted := none }]), .user { clientId := "app", sub := 2 } 0 0 0
            (.replay ⊥ 50)] := by
  constructor
  · intro isolated
    simp only [EveryStep.cons_iff] at isolated
    have shown := isolated.2.1 _ rfl 1 (by decide)
    revert shown
    decide
  · intro isolated
    simp only [EveryStep.cons_iff] at isolated
    have shown := isolated.2.2.2.2.1 _ rfl 1 (by decide)
    revert shown
    decide

end Sequences

end ChatState

end Ithute
