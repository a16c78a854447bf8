import Ithute.Library.TransitionRuns
import Ithute.AuthLifecycle
import Ithute.PushTables
import Mathlib.Data.List.Nodup

/-!
# Delivery of lifecycle events

The worker turns a row of the outbox into a request, and the push service
validates it.  Account, application and session events are accepted; the
event of an activated invitation is of a type that the push service does not
know.
-/

namespace Ithute

namespace Push

/-- The body of `POST` for lifecycle events.  Texts that hold identifiers and
times are kept as what they parse to. -/
structure LifecycleBody where
  eventId : ℕ
  type : String
  sub : Option ℕ
  sid : Option ℕ
  clientId : Option String
  occurredAt : ℕ
  /-- The time has an offset. -/
  aware : Bool
  details : JsonObject

structure ValidationError where
  field : String
  message : String

def authEventTypes : List (String × AuthEventType) :=
  [("session.revoked", .sessionRevoked), ("account.disabled", .accountDisabled),
    ("account.enabled", .accountEnabled), ("application.disabled", .applicationDisabled),
    ("application.enabled", .applicationEnabled)]

def parseEventType (text : String) : Option AuthEventType :=
  (authEventTypes.find? fun entry => decide (entry.1 = text)).map Prod.snd

namespace LifecycleBody

variable (body : LifecycleBody)

def clientIdErrors : List ValidationError :=
  match body.clientId with
  | none => []
  | some clientId =>
    if clientId.length < 1 then
      [{ field := "client_id", message := "string_too_short" }]
    else if 120 < clientId.length then
      [{ field := "client_id", message := "string_too_long" }]
    else []

/-- `sane_event_time`. -/
def timeErrors (now : ℕ) : List ValidationError :=
  if body.aware = false then
    [{ field := "occurred_at"
       message := "occurred_at must include a timezone" }]
  else if now + 300000000 < body.occurredAt then
    [{ field := "occurred_at"
       message := "occurred_at is too far in the future" }]
  else []

/-- `limit_details`. -/
def detailsErrors (floatText : Double → List Char) : List ValidationError :=
  if 4096 < utf8Length (jsonDumps floatText (.object body.details)) then
    [{ field := "details"
       message := "lifecycle event details must not exceed 4 KiB" }]
  else []

def typeErrors : List ValidationError :=
  if (parseEventType body.type).isNone then
    [{ field := "type", message := "literal_error" }]
  else []

def request (type : AuthEventType) : AuthLifecycleEventRequest where
  eventId := body.eventId
  type := type
  sub := body.sub
  sid := body.sid
  clientId := body.clientId
  occurredAt := body.occurredAt
  details := body.details

/-- `required_identifiers`; `none` when it passes. -/
def identifierError? : AuthEventType → Option String
  | .sessionRevoked =>
    if body.sub = none ∨ body.sid = none ∨ (presentText body.clientId).isNone then
      some "session.revoked requires sub, sid and client_id"
    else none
  | .accountDisabled | .accountEnabled =>
    if body.sub = none then
      some "account lifecycle events require sub"
    else if body.sid ≠ none ∨ body.clientId ≠ none then
      some "account lifecycle events may contain only sub"
    else none
  | .applicationDisabled | .applicationEnabled =>
    if (presentText body.clientId).isNone then
      some "application lifecycle events require client_id"
    else if body.sub ≠ none ∨ body.sid ≠ none then
      some "application lifecycle events may contain only client_id"
    else none

/-- `AuthLifecycleEventRequest`. -/
def validate (floatText : Double → List Char) (now : ℕ) :
    Except (List ValidationError) AuthLifecycleEventRequest :=
  let errors := body.typeErrors ++ body.clientIdErrors ++
    body.timeErrors now ++ body.detailsErrors floatText
  match parseEventType body.type, errors with
  | some type, [] =>
    match body.identifierError? type with
    | none => .ok (body.request type)
    | some message => .error [{ field := "", message := message }]
  | _, errors => .error errors

end LifecycleBody

end Push

end Ithute

namespace Ithute

namespace Auth

open TransitionRuns

def payload (row : AuthEventOutbox) : Push.LifecycleBody where
  eventId := row.id
  type := row.eventType
  sub := row.subjectUserId
  sid := row.sessionId
  clientId := row.clientId
  occurredAt := row.createdAt
  aware := true
  details := row.payload

/-- The push service accepts the row, unless its clock is more than five
minutes behind. -/
def Deliverable (floatText : Double → List Char) (row : AuthEventOutbox) : Prop :=
  ∀ now, row.createdAt ≤ now + 300000000 → ∃ event, (payload row).validate floatText now = .ok event

def ValidClientId (clientId : String) : Prop := clientId ≠ "" ∧ clientId.length ≤ 120

inductive Propagates : NewEvent → Prop
  | account (user : User) : Propagates (userEvent user)
  | application (application : Application) (valid : ValidClientId application.clientId) :
      Propagates (applicationEvent application)
  | session (row : AuthSession) (reason : String) (revokedAt : ℕ)
      (valid : ValidClientId row.clientId) (short : reason.length ≤ 160) :
      Propagates (sessionRevoked row reason revokedAt)

theorem validate_ok {body : Push.LifecycleBody} {floatText : Double → List Char} {now : ℕ}
    {type : Push.AuthEventType} (known : Push.parseEventType body.type = some type)
    (client : ∀ clientId ∈ body.clientId, ValidClientId clientId)
    (aware : body.aware = true) (time : body.occurredAt ≤ now + 300000000)
    (size : utf8Length (jsonDumps floatText (.object body.details)) ≤ 4096)
    (identified : body.identifierError? type = none) :
    body.validate floatText now = .ok (body.request type) := by
  have typeErrors : body.typeErrors = [] := by
    unfold Push.LifecycleBody.typeErrors
    rw [known]
    rfl
  have clientErrors : body.clientIdErrors = [] := by
    unfold Push.LifecycleBody.clientIdErrors
    cases found : body.clientId with
    | none => rfl
    | some clientId =>
      obtain ⟨present, short⟩ := client clientId found
      have length : clientId.length ≠ 0 := by
        rw [Ne, String.length_eq_zero_iff]
        exact present
      dsimp only
      rw [if_neg (by omega), if_neg (by omega)]
  have timeErrors : body.timeErrors now = [] := by
    unfold Push.LifecycleBody.timeErrors
    rw [if_neg (by simp [aware]), if_neg (by omega)]
  have detailsErrors : body.detailsErrors floatText = [] := by
    unfold Push.LifecycleBody.detailsErrors
    rw [if_neg (by omega)]
  unfold Push.LifecycleBody.validate
  dsimp only
  rw [known, typeErrors, clientErrors, timeErrors, detailsErrors]
  simp only [List.append_nil]
  rw [identified]

theorem utf8Length_active (floatText : Double → List Char) (active : Bool) :
    utf8Length (jsonDumps floatText (.object [("active", .boolean active)])) ≤ 4096 := by
  cases active <;> exact Nat.le_of_ble_eq_true rfl

theorem utf8Length_revocation (floatText : Double → List Char)
    {reason time : String} (short : reason.length ≤ 160) (shortTime : time.length ≤ 32) :
    utf8Length (jsonDumps floatText (.object
      [("reason", .text reason), ("revoked_at", .text time)])) ≤ 4096 := by
  have reasonSize := utf8Length_jsonString reason
  have timeSize := utf8Length_jsonString time
  have reasonKey : utf8Length (jsonString "reason") = 8 := by decide
  have timeKey : utf8Length (jsonString "revoked_at") = 12 := by decide
  have marks (character : Char) := Char.utf8Size_le_four character
  have comma := marks ','
  have colon := marks ':'
  have opening := marks '\x7b'
  have closing := marks '\x7d'
  simp only [jsonDumps, jsonDumpsEntries, joinTexts, utf8Length_append,
    utf8Length_cons, utf8Length_nil]
  omega

theorem mem_newRows {state : IdentityState} {events : List NewEvent}
    {ids : ℕ → ℕ} {row : AuthEventOutbox} (member : row ∈ state.newRows events ids) :
    ∃ event ∈ events, row.eventType = event.eventType ∧ row.subjectUserId = event.subjectUserId ∧
      row.sessionId = event.sessionId ∧ row.clientId = event.clientId ∧
      row.payload = event.payload := by
  unfold IdentityState.newRows at member
  obtain ⟨entry, entryMem, made⟩ := List.mem_map.mp member
  rw [← made]
  exact ⟨entry.1, List.fst_mem_of_mem_zipIdx entryMem, rfl, rfl, rfl, rfl, rfl⟩

theorem deliverable_of_propagates {floatText : Double → List Char}
    {event : NewEvent} {row : AuthEventOutbox} (propagates : Propagates event)
    (eventType : row.eventType = event.eventType) (sub : row.subjectUserId = event.subjectUserId)
    (sid : row.sessionId = event.sessionId) (client : row.clientId = event.clientId)
    (details : row.payload = event.payload) : Deliverable floatText row := by
  obtain ⟨id, type, subjectUserId, sessionId, clientId, payload, createdAt⟩ := row
  dsimp only at eventType sub sid client details
  subst eventType sub sid client details
  intro now time
  cases propagates with
  | account user =>
    have noClient : ∀ clientId ∈ (userEvent user).clientId,
        ValidClientId clientId := fun _ none => nomatch none
    cases active : user.isActive with
    | true =>
      have known : Push.parseEventType (userEvent user).eventType = some .accountEnabled := by
        unfold userEvent
        rw [active]
        rfl
      exact ⟨_, validate_ok known noClient rfl time (utf8Length_active floatText user.isActive) rfl⟩
    | false =>
      have known : Push.parseEventType (userEvent user).eventType = some .accountDisabled := by
        unfold userEvent
        rw [active]
        rfl
      exact ⟨_, validate_ok known noClient rfl time (utf8Length_active floatText user.isActive) rfl⟩
  | application application valid =>
    have client : ∀ clientId ∈ (applicationEvent application).clientId, ValidClientId clientId := by
      intro clientId same
      cases same
      exact valid
    have present : (presentText (applicationEvent application).clientId).isNone = false := by
      change (Option.filter _ (some application.clientId)).isNone = false
      simp [valid.1]
    cases active : application.isActive with
    | true =>
      have known : Push.parseEventType (applicationEvent application).eventType =
          some .applicationEnabled := by
        unfold applicationEvent
        rw [active]
        rfl
      refine ⟨_, validate_ok known client rfl time
        (utf8Length_active floatText application.isActive) ?_⟩
      unfold Push.LifecycleBody.identifierError? Auth.payload
      dsimp only
      rw [present]
      rfl
    | false =>
      have known : Push.parseEventType (applicationEvent application).eventType =
          some .applicationDisabled := by
        unfold applicationEvent
        rw [active]
        rfl
      refine ⟨_, validate_ok known client rfl time
        (utf8Length_active floatText application.isActive) ?_⟩
      unfold Push.LifecycleBody.identifierError? Auth.payload
      dsimp only
      rw [present]
      rfl
  | session session reason revokedAt valid short =>
    have client : ∀ clientId ∈ (sessionRevoked session reason
        revokedAt).clientId, ValidClientId clientId := by
      intro clientId same
      cases same
      exact valid
    have present : (presentText (sessionRevoked session reason revokedAt).clientId).isNone =
        false := by
      change (Option.filter _ (some session.clientId)).isNone = false
      simp [valid.1]
    have known : Push.parseEventType (sessionRevoked session reason revokedAt).eventType =
        some .sessionRevoked := rfl
    refine ⟨_, validate_ok known client rfl time (utf8Length_revocation floatText short
        (length_isoformat revokedAt)) ?_⟩
    unfold Push.LifecycleBody.identifierError? Auth.payload
    dsimp only
    rw [present]
    rfl

/-- The session objects name a client and have a short reason, and the
queued events are accepted. -/
structure HookValid (state : HookState) : Prop where
  clients : ∀ object ∈ state.sessions, ValidClientId object.current.clientId
  reasons : ∀ object ∈ state.sessions, ∀ reason ∈ object.current.revokedReason, reason.length ≤ 160
  events : ∀ event ∈ state.events, Propagates event

section Hook

variable {state : HookState} {now : ℕ} {stored : List AuthSession}

theorem HookValid.add (valid : HookValid state) {event : NewEvent}
    (propagates : Propagates event) : HookValid (state.add event) := by
  refine ⟨valid.clients, valid.reasons, ?_⟩
  intro other member
  rcases List.mem_append.mp member with old | new
  · exact valid.events other old
  · rw [List.mem_singleton.mp new]
    exact propagates

theorem HookValid.put (valid : HookValid state) {object : Tracked AuthSession}
    (client : ValidClientId object.current.clientId)
    (short : ∀ reason ∈ object.current.revokedReason, reason.length ≤ 160) :
    HookValid (state.put object) := by
  refine ⟨?_, ?_, valid.events⟩
  · intro other member
    rcases List.mem_cons.mp member with same | old
    · rw [same]
      exact client
    · exact valid.clients other (List.mem_filter.mp old).1
  · intro other member
    rcases List.mem_cons.mp member with same | old
    · rw [same]
      exact short
    · exact valid.reasons other (List.mem_filter.mp old).1

theorem HookValid.object_client (valid : HookValid state)
    {row : AuthSession} (client : ValidClientId row.clientId) :
    ValidClientId (state.object row).current.clientId := by
  unfold HookState.object
  cases found : state.sessions.find? fun object =>
      decide (object.current.id = row.id) with
  | none => exact client
  | some object => exact valid.clients object (List.mem_of_find?_eq_some found)

theorem reasonText_length (reason : String) : (reasonText reason).length ≤ 160 := by
  unfold reasonText
  rw [String.length_ofList]
  exact List.length_take_le _ _

theorem HookValid.revokeScopeSessions (valid : HookValid state)
    (reason : String) {rows : List AuthSession}
    (clients : ∀ row ∈ rows, ValidClientId row.clientId) :
    HookValid (revokeScopeSessions now reason state rows) := by
  unfold Auth.revokeScopeSessions
  induction rows generalizing state with
  | nil => exact valid
  | cons row rows ih =>
    rw [List.foldl_cons]
    refine ih ?_ fun other member => clients other (List.mem_cons_of_mem _ member)
    have client := valid.object_client (clients row List.mem_cons_self)
    dsimp only
    split
    · exact valid
    · apply HookValid.add
      · refine valid.put ?_ ?_
        · exact client
        · intro written same
          cases same
          exact reasonText_length reason
      · exact .session _ _ now client (reasonText_length reason)

theorem revokedReasonOr_length {row : AuthSession}
    (short : ∀ reason ∈ row.revokedReason, reason.length ≤ 160) :
    (revokedReasonOr row).length ≤ 160 := by
  unfold revokedReasonOr presentText
  cases reason : row.revokedReason with
  | none => decide
  | some text =>
    rw [Option.filter_some]
    split
    · exact short text reason
    · decide

theorem HookValid.step (valid : HookValid state)
    (clients : ∀ row ∈ stored, ValidClientId row.clientId) {object : DirtyObject}
    (application : ∀ tracked, object = .application tracked →
      ValidClientId tracked.current.clientId) :
    HookValid (queueIdentityStatusEvent now stored state object) := by
  have selected (chosen : AuthSession → Bool) :
      ∀ row ∈ stored.filter chosen, ValidClientId row.clientId :=
    fun row member => clients row (List.mem_filter.mp member).1
  cases object with
  | user tracked =>
    unfold queueIdentityStatusEvent
    dsimp only
    split
    · exact valid
    · have queued := valid.add (.account tracked.current)
      split
      · exact queued
      · exact queued.revokeScopeSessions _ (selected _)
  | application tracked =>
    unfold queueIdentityStatusEvent
    dsimp only
    split
    · exact valid
    · have queued := valid.add (.application tracked.current (application tracked rfl))
      split
      · exact queued
      · exact queued.revokeScopeSessions _ (selected _)
  | session id =>
    unfold queueIdentityStatusEvent
    dsimp only
    split
    · exact valid
    · rename_i tracked found
      have member := List.mem_of_find?_eq_some found
      split
      · exact valid
      · split
        · exact valid
        · exact valid.add (.session _ _ _ (valid.clients tracked member)
            (revokedReasonOr_length (valid.reasons tracked member)))

theorem HookValid.foldl (valid : HookValid state)
    (clients : ∀ row ∈ stored, ValidClientId row.clientId) {dirty : List DirtyObject}
    (applications : ∀ tracked, .application tracked ∈ dirty →
      ValidClientId tracked.current.clientId) :
    HookValid (dirty.foldl (queueIdentityStatusEvent now stored) state) := by
  induction dirty generalizing state with
  | nil => exact valid
  | cons object dirty ih =>
    rw [List.foldl_cons]
    apply ih
    · apply valid.step clients
      intro tracked same
      apply applications tracked
      rw [same]
      exact List.mem_cons_self
    · exact fun tracked member => applications tracked (List.mem_cons_of_mem _ member)

end Hook

namespace IdentityState

variable {state : IdentityState}

/-- The clients of applications and sessions have a name that fits. -/
structure ClientsValid (state : IdentityState) : Prop where
  applications : ∀ row ∈ state.applications, ValidClientId row.clientId
  sessions : ∀ row ∈ state.sessions, ValidClientId row.clientId

theorem validClientId_of_isClientId {clientId : String}
    (checked : isClientId clientId = true) : ValidClientId clientId := by
  unfold isClientId at checked
  have length : clientId.length = clientId.toList.length := String.length_toList.symm
  cases text : clientId.toList with
  | nil =>
    rw [text] at checked
    cases checked
  | cons first rest =>
    rw [text] at checked length
    simp only [Bool.and_eq_true, decide_eq_true_eq] at checked
    rw [List.length_cons] at length
    constructor
    · intro empty
      rw [empty] at text
      cases text
    · omega

theorem writeApplication_foldl_clientId (dirty : List DirtyObject) (row : Application) :
    (dirty.foldl writeApplication row).clientId = row.clientId := by
  induction dirty generalizing row with
  | nil => rfl
  | cons object dirty ih =>
    rw [List.foldl_cons, ih]
    unfold writeApplication
    cases object with
    | application tracked =>
      dsimp only
      split <;> rfl
    | _ => rfl

theorem writeSession_clientId (objects : List (Tracked AuthSession)) (row : AuthSession) :
    (writeSession objects row).clientId = row.clientId := by
  unfold writeSession
  split <;> rfl

theorem ClientsValid.hook (valid : state.ClientsValid) {unit : UnitOfWork}
    (fits : state.Fits unit) : HookValid (queueIdentityStatusEvents state.clock state.sessions
      unit.sessions unit.dirty) := by
  apply HookValid.foldl
  · refine ⟨?_, fun object member => (fits.1 object member).2, fun event none => nomatch none⟩
    intro object member
    obtain ⟨row, rowMem, -, -, same⟩ := (fits.1 object member).1
    rw [← same]
    exact valid.sessions row rowMem
  · exact valid.sessions
  · intro tracked member
    obtain ⟨row, rowMem, same⟩ := fits.2 _ member
    rw [← same]
    exact valid.applications row rowMem

variable (services : ActivationServices)

theorem ClientsValid.perform (valid : state.ClientsValid) (action : IdentityAction) :
    (state.perform services action).ClientsValid := by
  cases action with
  | wait elapsed => exact ⟨valid.applications, valid.sessions⟩
  | seedClient entry id =>
    change (state.seedClient entry id).ClientsValid
    unfold seedClient
    dsimp only
    split
    · exact valid
    · rename_i checked
      simp only [not_or, not_lt] at checked
      refine ⟨?_, valid.sessions⟩
      intro row member
      rcases List.mem_append.mp member with old | new
      · exact valid.applications row old
      · rw [List.mem_singleton.mp new]
        exact ⟨checked.1, checked.2.1⟩
  | registerApplication clientId id =>
    change (state.registerApplication clientId id).ClientsValid
    unfold registerApplication
    split
    · exact valid
    · rename_i checked
      simp only [not_or, Bool.not_eq_false] at checked
      refine ⟨?_, valid.sessions⟩
      intro row member
      rcases List.mem_append.mp member with old | new
      · exact valid.applications row old
      · rw [List.mem_singleton.mp new]
        exact validClientId_of_isClientId checked.1
  | registerUser row =>
    change (state.registerUser row).ClientsValid
    unfold registerUser
    split <;> exact ⟨valid.applications, valid.sessions⟩
  | openSession row =>
    change (state.openSession row).ClientsValid
    unfold openSession
    split
    · rename_i checked
      obtain ⟨⟨client, clientMem, same, -⟩, -⟩ := checked
      refine ⟨valid.applications, ?_⟩
      intro other member
      rcases List.mem_append.mp member with old | new
      · exact valid.sessions other old
      · rw [List.mem_singleton.mp new, ← same]
        exact valid.applications client clientMem
    · exact valid
  | storeInvitation row => exact ⟨valid.applications, valid.sessions⟩
  | flush unit ids =>
    change (state.flush unit ids).ClientsValid
    unfold flush
    dsimp only
    split
    · constructor
      · intro row member
        obtain ⟨old, oldMem, made⟩ := List.mem_map.mp member
        rw [← made, writeApplication_foldl_clientId]
        exact valid.applications old oldMem
      · intro row member
        obtain ⟨old, oldMem, made⟩ := List.mem_map.mp member
        rw [← made, writeSession_clientId]
        exact valid.sessions old oldMem
    · exact valid
  | activate request input =>
    change (state.activateIdentityInvitation services request input).1.ClientsValid
    unfold activateIdentityInvitation
    split
    · exact valid
    · exact valid
    · exact ⟨valid.applications, valid.sessions⟩
    · unfold commitActivation
      dsimp only
      repeat' split
      all_goals exact ⟨valid.applications, valid.sessions⟩

def QueuesDeliverable (floatText : Double → List Char)
    (before : IdentityState) (_ : IdentityAction) (after : IdentityState) : Prop :=
  ∀ row ∈ after.outbox, row ∈ before.outbox ∨ Deliverable floatText row

/-- The step activates an invitation: its checks pass and its rows can be
inserted. -/
def Activates (services : ActivationServices) (before : IdentityState) : IdentityAction → Prop
  | .activate request input =>
    ∃ invitation user, before.checkActivation services request = .passes invitation user ∧
      (user = none → ¬ before.Registered (newIdentity invitation input.userId)) ∧
      ∀ stored ∈ before.outbox, stored.id ≠ input.eventId
  | _ => False

theorem not_deliverable_activated {floatText : Double → List Char} {row : AuthEventOutbox}
    (activated : row.eventType = "identity.invitation_activated") :
    ¬ Deliverable floatText row := by
  intro deliverable
  obtain ⟨event, accepted⟩ := deliverable row.createdAt (by omega)
  have unknown : Push.parseEventType (payload row).type = none := by
    change Push.parseEventType row.eventType = none
    rw [activated]
    rfl
  unfold Push.LifecycleBody.validate at accepted
  dsimp only at accepted
  rw [unknown] at accepted
  cases accepted

theorem ClientsValid.queues (valid : state.ClientsValid) (floatText : Double → List Char)
    {action : IdentityAction} (inactive : ¬ state.Activates services action) :
    state.QueuesDeliverable floatText action (state.perform services action) := by
  intro row member
  cases action with
  | wait elapsed => exact .inl member
  | seedClient entry id =>
    change row ∈ (state.seedClient entry id).outbox at member
    unfold seedClient at member
    dsimp only at member
    split at member <;> exact .inl member
  | registerApplication clientId id =>
    change row ∈ (state.registerApplication clientId id).outbox at member
    unfold registerApplication at member
    split at member <;> exact .inl member
  | registerUser user =>
    change row ∈ (state.registerUser user).outbox at member
    unfold registerUser at member
    split at member <;> exact .inl member
  | openSession session =>
    change row ∈ (state.openSession session).outbox at member
    unfold openSession at member
    split at member <;> exact .inl member
  | storeInvitation invitation => exact .inl member
  | flush unit ids =>
    change row ∈ (state.flush unit ids).outbox at member
    unfold flush at member
    dsimp only at member
    split at member
    · rename_i checked
      rcases List.mem_append.mp member with old | new
      · exact .inl old
      · obtain ⟨event, eventMem, eventType, sub, sid, client, details⟩ := mem_newRows new
        exact .inr (deliverable_of_propagates
          ((valid.hook checked.1).events event eventMem) eventType sub sid client details)
    · exact .inl member
  | activate request input =>
    change row ∈ (state.activateIdentityInvitation services request input).1.outbox at member
    unfold activateIdentityInvitation at member
    split at member
    · exact .inl member
    · exact .inl member
    · exact .inl member
    · rename_i invitation user passes
      unfold commitActivation at member
      dsimp only at member
      split at member
      · exact .inl member
      · rename_i unregistered
        split at member
        · rename_i insertable
          refine absurd ⟨invitation, user, passes, ?_, ?_⟩ inactive
          · intro missing registered
            rw [missing] at unregistered
            exact unregistered ⟨rfl, registered⟩
          · intro stored storedMem same
            exact insertable.2 stored storedMem (by rw [same]; exact List.mem_singleton_self _)
        · exact .inl member

theorem not_queues_of_activates (floatText : Double → List Char) {action : IdentityAction}
    (activates : state.Activates services action) : ¬ state.QueuesDeliverable floatText action
      (state.perform services action) := by
  cases action with
  | activate request input =>
    obtain ⟨invitation, user, passes, unregistered, unused⟩ := activates
    intro queues
    have insertable : state.Insertable (state.newRows [activatedEvent invitation
          (user.getD (newIdentity invitation input.userId)).id
          user.isSome input.invitationText] fun _ => input.eventId) := by
      refine ⟨List.nodup_singleton _, ?_⟩
      intro stored member same
      exact unused stored member (List.mem_singleton.mp same)
    have free : ¬ (user = none ∧ state.Registered
        (user.getD (newIdentity invitation input.userId))) := by
      intro registered
      have taken := registered.2
      rw [registered.1] at taken
      exact unregistered registered.1 taken
    have outbox : (state.perform services
        (.activate request input)).outbox = state.outbox ++ state.newRows [activatedEvent invitation
            (user.getD (newIdentity invitation input.userId)).id
            user.isSome input.invitationText] fun _ => input.eventId := by
      change (state.activateIdentityInvitation services request input).1.outbox = _
      unfold activateIdentityInvitation
      rw [passes]
      dsimp only
      unfold commitActivation
      dsimp only
      rw [if_neg free, if_pos insertable]
    rw [QueuesDeliverable, outbox] at queues
    rcases queues _ (List.mem_append_right _ List.mem_cons_self) with
      old | deliverable
    · exact unused _ old rfl
    · exact not_deliverable_activated rfl deliverable
  | _ => cases activates

/-- Along every run the rows of the outbox are accepted if and only if no
invitation is activated. -/
theorem run_queuesDeliverable_iff (services : ActivationServices)
    (floatText : Double → List Char) (actions : List IdentityAction) :
    EveryStep (Performs services) (QueuesDeliverable floatText) {} actions ↔
      EveryStep (Performs services) (fun before action _ => ¬ before.Activates services action) {}
        actions := by
  have initial : ClientsValid {} :=
    { applications := fun _ none => nomatch none
      sessions := fun _ none => nomatch none }
  have every : ∀ action ∈ actions, (fun _ : IdentityAction => True) action := fun _ _ => trivial
  refine EveryStep.congr_of_invariant initial ?_ ?_ every
  · intro before action after valid performs _
    unfold Performs at performs
    rw [performs]
    exact valid.perform services action
  · intro before action after valid performs
    unfold Performs at performs
    rw [performs]
    constructor
    · intro queues activates
      exact not_queues_of_activates services floatText activates queues
    · exact fun inactive => valid.queues services floatText inactive

def phoneInvitation : IdentityInvitation where
  id := 1
  sourceClientId := "ithute-tutor"
  externalReference := "student-17"
  email := none
  phone := some "+26650000000"
  preferredChannel := .phone
  challengeTokenHash := "token"
  challengeCodeHash := ""
  expiresAt := 100

/-- The event of an activated invitation is never accepted. -/
theorem activation_undeliverable : ¬ EveryStep
      (Performs { hashSecurityToken := id, verifyPassword := fun _ _ => false })
      (QueuesDeliverable fun _ => []) {} [.storeInvitation phoneInvitation, .activate
          { invitationId := 1, code := none, token := some "token",
            password := some "a long password" }
          { userId := 7, eventId := 9, invitationText := "1" }] := by
  intro queues
  unfold Performs at queues
  simp only [EveryStep.cons_iff] at queues
  rcases queues.2.1 _ List.mem_cons_self with old | deliverable
  · cases old
  · exact not_deliverable_activated rfl deliverable

end IdentityState

end Auth

end Ithute
