import Ithute.Library.IdempotencyKeys
import Ithute.RealtimeEvents

/-!
# Pushes of repeated attempts

Each attempt of an event delegates a push for every recipient who is offline.
Push recognises a repeated push by its key and refuses it when the body has
another fingerprint; the body holds the seconds that the event has left.
-/

namespace Ithute

open IdempotencyKeys

/-- The parts of `f"realtime:{source_client_id}:{event_id}:{recipient_sub}"`. -/
abbrev PushKey := String × ℕ × ℕ

def PushMessage.key (message : PushMessage) : PushKey :=
  (message.sourceClientId, message.eventId, message.recipientSub)

/-- The keys that Push has stored with their fingerprints, and the requests
it was sent, those answered with 409 among them. -/
structure PushLog where
  accepted : List (PushKey × String)
  sent : List PushMessage := []
  refused : List PushMessage := []

def PushMessage.request (digest : PushMessage → String)
    (message : PushMessage) : PushKey × String :=
  (message.key, digest message)

/-- `delegated_message`; the flag tells an accepted request from a 409. -/
def delegatedMessage (digest : PushMessage → String) (log : PushLog)
    (message : PushMessage) : PushLog × Bool :=
  match accept log.accepted (message.request digest) with
  | some accepted => ({ log with accepted := accepted, sent := log.sent ++ [message] }, true)
  | none =>
    ({ log with
        sent := log.sent ++ [message]
        refused := log.refused ++ [message] }, false)

/-- What becomes of the push for a recipient: nothing is sent to one who is
online, an error may come before Push takes the request, and the answer may
be lost. -/
inductive PushReach where
  | online
  | fails
  | sent (answered : Bool)

structure PushAttempt where
  startedAt : ℕ
  reaches : List PushReach

section Attempts

variable (digest : PushMessage → String) (event : RealtimeEvent)

def pushRecipients (startedAt : ℕ) : List (ℕ × PushReach) → PushLog → PushLog
  | [], log => log
  | (_, .online) :: recipients, log => pushRecipients startedAt recipients log
  | (_, .fails) :: _, log => log
  | (recipient, .sent answered) :: recipients, log =>
    let answer := delegatedMessage digest log (event.push startedAt recipient)
    if answer.2 && answered then
      pushRecipients startedAt recipients answer.1
    else answer.1

def PushAttempt.recipients (attempt : PushAttempt) : List (ℕ × PushReach) :=
  if event.pushEnabled then event.recipients.zip attempt.reaches else []

def pushAttempts (log : PushLog) (attempts : List PushAttempt) : PushLog :=
  attempts.foldl (fun log attempt =>
    pushRecipients digest event attempt.startedAt (attempt.recipients event) log) log

/-- Pushes with one key have one fingerprint, and none is refused. -/
structure PushesAgree (log : PushLog) : Prop where
  fingerprints : ∀ first ∈ log.sent, ∀ second ∈ log.sent,
    first.key = second.key → digest first = digest second
  unrefused : log.refused = []

def reachedRecipients : List (ℕ × PushReach) → List ℕ
  | [] => []
  | (_, .online) :: recipients => reachedRecipients recipients
  | (_, .fails) :: _ => []
  | (recipient, .sent answered) :: recipients =>
    recipient :: if answered then reachedRecipients recipients else []

def PushAttempt.reached (attempt : PushAttempt) : List ℕ :=
  reachedRecipients (attempt.recipients event)

def RealtimeEvent.secondsLeft (startedAt : ℕ) : ℕ :=
  clampTtlSeconds (max 60 ((event.expiresAt - startedAt) / microsPerSecond))

/-- Attempts that reach a recipient both see the same seconds left. -/
def SecondsAgree (attempts : List PushAttempt) : Prop :=
  ∀ first ∈ attempts, ∀ second ∈ attempts,
    ∀ recipient ∈ first.reached event, recipient ∈ second.reached event →
      event.secondsLeft first.startedAt = event.secondsLeft second.startedAt

def expectedPushes (attempts : List PushAttempt) : List PushMessage :=
  attempts.flatMap fun attempt => (attempt.reached event).map (event.push attempt.startedAt)

/-- What the log becomes when requests are sent one after another. -/
def PushLog.Follows (log following : PushLog) (messages : List PushMessage) : Prop :=
  match acceptAll log.accepted (messages.map (PushMessage.request digest)) with
  | some accepted =>
    following = { log with accepted := accepted, sent := log.sent ++ messages }
  | none => following.refused ≠ []

variable {digest event} {log : PushLog}

theorem refused_delegatedMessage (message : PushMessage)
    (refused : log.refused ≠ []) : (delegatedMessage digest log message).1.refused ≠ [] := by
  unfold delegatedMessage
  split
  · exact refused
  · simp

theorem refused_pushRecipients {startedAt : ℕ} (recipients : List (ℕ × PushReach))
    (refused : log.refused ≠ []) :
    (pushRecipients digest event startedAt recipients log).refused ≠ [] := by
  induction recipients generalizing log with
  | nil => exact refused
  | cons head recipients ih =>
    obtain ⟨recipient, reach⟩ := head
    cases reach with
    | online => exact ih refused
    | fails => exact refused
    | sent answered =>
      have answer : (delegatedMessage digest log (event.push startedAt recipient)).1.refused ≠ [] :=
        refused_delegatedMessage _ refused
      unfold pushRecipients
      dsimp only
      split
      · exact ih answer
      · exact answer

theorem refused_pushAttempts (attempts : List PushAttempt)
    (refused : log.refused ≠ []) : (pushAttempts digest event log attempts).refused ≠ [] := by
  induction attempts generalizing log with
  | nil => exact refused
  | cons attempt attempts ih => exact ih (refused_pushRecipients (attempt.recipients event) refused)

theorem follows_nil (log : PushLog) : log.Follows digest log [] := by
  simp [PushLog.Follows, acceptAll]

theorem follows_append {middle final : PushLog} {first second : List PushMessage}
    (one : log.Follows digest middle first) (two : middle.Follows digest final second)
    (kept : middle.refused ≠ [] → final.refused ≠ []) :
    log.Follows digest final (first ++ second) := by
  unfold PushLog.Follows at one ⊢
  rw [List.map_append, acceptAll_append]
  cases result : acceptAll log.accepted (first.map (PushMessage.request digest)) with
  | none =>
    rw [result] at one
    exact kept one
  | some accepted =>
    rw [result] at one
    dsimp only at one
    rw [one] at two
    unfold PushLog.Follows at two
    simpa only [Option.bind_some, List.append_assoc] using two

theorem follows_delegatedMessage (log : PushLog) (message : PushMessage) :
    log.Follows digest (delegatedMessage digest log message).1 [message] ∧
      ((delegatedMessage digest log message).2 = false →
        (delegatedMessage digest log message).1.refused ≠ [] ∧ ∀ messages, acceptAll log.accepted
            ((message :: messages).map (PushMessage.request digest)) = none) := by
  unfold PushLog.Follows delegatedMessage
  rw [List.map_singleton, acceptAll_singleton]
  cases result : accept log.accepted (message.request digest) with
  | none =>
    refine ⟨by simp, fun _ => ⟨by simp, fun messages => ?_⟩⟩
    rw [List.map_cons, ← List.singleton_append, acceptAll_append, acceptAll_singleton, result]
    rfl
  | some accepted => exact ⟨rfl, nofun⟩

variable (startedAt : ℕ)

theorem follows_pushRecipients (recipients : List (ℕ × PushReach)) (log : PushLog) :
    log.Follows digest (pushRecipients digest event startedAt recipients log)
      ((reachedRecipients recipients).map (event.push startedAt)) := by
  induction recipients generalizing log with
  | nil => exact follows_nil log
  | cons head recipients ih =>
    obtain ⟨recipient, reach⟩ := head
    cases reach with
    | online => exact ih log
    | fails => exact follows_nil log
    | sent answered =>
      have step : log.Follows digest (delegatedMessage digest log
          (event.push startedAt recipient)).1 [event.push startedAt recipient] ∧ _ :=
        follows_delegatedMessage log (event.push startedAt recipient)
      obtain ⟨follows, refusal⟩ := step
      unfold pushRecipients reachedRecipients
      cases answered with
      | false => simpa using follows
      | true =>
        cases accepted : (delegatedMessage digest log (event.push startedAt recipient)).2 with
        | true =>
          simp only [accepted, Bool.and_self, if_true, List.map_cons]
          apply follows_append follows (ih _)
          exact refused_pushRecipients recipients
        | false =>
          obtain ⟨refused, stops⟩ := refusal accepted
          simp only [accepted, Bool.false_and, if_true, List.map_cons]
          unfold PushLog.Follows
          rw [stops]
          exact refused

theorem follows_pushAttempts (log : PushLog) (attempts : List PushAttempt) :
    log.Follows digest (pushAttempts digest event log attempts)
      (expectedPushes event attempts) := by
  induction attempts generalizing log with
  | nil => exact follows_nil log
  | cons attempt attempts ih =>
    rw [expectedPushes, List.flatMap_cons]
    apply follows_append _ (ih _)
    · exact refused_pushAttempts attempts
    · exact follows_pushRecipients attempt.startedAt (attempt.recipients event) log

@[simp]
theorem key_push (recipient : ℕ) : (event.push startedAt recipient).key =
      (event.applicationId, event.id, recipient) :=
  rfl

theorem push_congr {first second : ℕ} (same : event.secondsLeft first = event.secondsLeft second)
    (recipient : ℕ) : event.push first recipient = event.push second recipient := by
  unfold RealtimeEvent.secondsLeft at same
  unfold RealtimeEvent.push notifyEvent
  rw [same]

theorem keysAgree_expectedPushes_iff
    (tells : ∀ first second : PushMessage, digest first = digest second →
      first.ttlSeconds = second.ttlSeconds) (attempts : List PushAttempt) :
    KeysAgree ((expectedPushes event attempts).map (PushMessage.request digest)) ↔
      SecondsAgree event attempts := by
  have members : ∀ message, message ∈ expectedPushes event attempts ↔
      ∃ attempt ∈ attempts, ∃ recipient ∈ attempt.reached event,
        event.push attempt.startedAt recipient = message := by
    intro message
    simp [expectedPushes]
  constructor
  · intro consistent first firstMem second secondMem recipient inFirst inSecond
    have equal := consistent (PushMessage.request digest (event.push first.startedAt recipient))
      (List.mem_map_of_mem ((members _).mpr ⟨first, firstMem, recipient, inFirst, rfl⟩))
      (PushMessage.request digest (event.push second.startedAt recipient))
      (List.mem_map_of_mem ((members _).mpr ⟨second, secondMem, recipient, inSecond, rfl⟩)) rfl
    exact tells _ _ equal
  · intro agree first firstMem second secondMem sameKey
    obtain ⟨firstPush, firstPushMem, rfl⟩ := List.mem_map.mp firstMem
    obtain ⟨secondPush, secondPushMem, rfl⟩ := List.mem_map.mp secondMem
    obtain ⟨one, oneMem, recipient, inOne, rfl⟩ := (members _).mp firstPushMem
    obtain ⟨two, twoMem, other, inTwo, rfl⟩ := (members _).mp secondPushMem
    have same : recipient = other := by simpa [PushMessage.request] using sameKey
    rw [← same] at inTwo ⊢
    have seconds := agree one oneMem two twoMem recipient inOne inTwo
    rw [PushMessage.request, PushMessage.request, push_congr seconds]

theorem consistent_append_iff {accepted : List (PushKey × String)}
    (consistent : KeysAgree accepted) (others : ∀ entry ∈ accepted, entry.1.2.1 ≠ event.id)
    (attempts : List PushAttempt) : KeysAgree (accepted ++ (expectedPushes event attempts).map
        (PushMessage.request digest)) ↔
      KeysAgree ((expectedPushes event attempts).map (PushMessage.request digest)) := by
  have eventId : ∀ request ∈ (expectedPushes event attempts).map
      (PushMessage.request digest), request.1.2.1 = event.id := by
    intro request member
    obtain ⟨message, messageMem, rfl⟩ := List.mem_map.mp member
    simp only [expectedPushes, List.mem_flatMap, List.mem_map] at messageMem
    obtain ⟨attempt, -, recipient, -, rfl⟩ := messageMem
    rfl
  constructor
  · exact fun all => all.of_subset (List.subset_append_right _ _)
  · intro among first firstMem second secondMem sameKey
    rcases List.mem_append.mp firstMem with old | new
    · rcases List.mem_append.mp secondMem with old' | new'
      · exact consistent first old second old' sameKey
      · exact absurd (sameKey ▸ eventId second new') (others first old)
    · rcases List.mem_append.mp secondMem with old' | new'
      · exact absurd (sameKey ▸ eventId first new) (others second old')
      · exact among first new second new' sameKey

/-- The pushes of an event agree over its attempts exactly when attempts that
reach the same recipient see the same seconds left. -/
theorem pushAttempts_agree_iff (tells : ∀ first second : PushMessage, digest first = digest second →
      first.ttlSeconds = second.ttlSeconds)
    {accepted : List (PushKey × String)} (consistent : KeysAgree accepted)
    (others : ∀ entry ∈ accepted, entry.1.2.1 ≠ event.id) (attempts : List PushAttempt) :
    PushesAgree digest (pushAttempts digest event { accepted := accepted } attempts) ↔
      SecondsAgree event attempts := by
  rw [← keysAgree_expectedPushes_iff tells attempts,
    ← consistent_append_iff consistent others attempts, ← acceptAll_isSome_iff consistent]
  have follows : PushLog.Follows digest { accepted := accepted }
      (pushAttempts digest event { accepted := accepted } attempts)
      (expectedPushes event attempts) := follows_pushAttempts _ attempts
  unfold PushLog.Follows at follows
  cases result : acceptAll accepted ((expectedPushes event attempts).map
        (PushMessage.request digest)) with
  | none =>
    simp only [result] at follows
    refine iff_of_false ?_ (by simp)
    exact fun agree => follows agree.unrefused
  | some following =>
    simp only [result] at follows
    refine iff_of_true ?_ rfl
    rw [follows]
    refine ⟨?_, rfl⟩
    have all : KeysAgree (accepted ++ (expectedPushes event attempts).map
        (PushMessage.request digest)) := by
      rw [← acceptAll_isSome_iff consistent, result]
      rfl
    intro first firstMem second secondMem sameKey
    exact all (first.request digest) (List.mem_append_right _ (List.mem_map_of_mem firstMem))
      (second.request digest) (List.mem_append_right _ (List.mem_map_of_mem secondMem)) sameKey

end Attempts

def tallyDigest (message : PushMessage) : String :=
  String.ofList (List.replicate message.ttlSeconds 'x')

theorem tallyDigest_tells (first second : PushMessage)
    (same : tallyDigest first = tallyDigest second) : first.ttlSeconds = second.ttlSeconds := by
  have lengths := congrArg (fun text => text.toList.length) same
  simpa [tallyDigest] using lengths

def pushedEvent (seconds : ℕ) : RealtimeEvent where
  id := 1
  cursor := toLex (0, 1)
  applicationId := "ithute-pay"
  eventType := "payment.updated"
  version := 1
  priority := .high
  audienceLabel := none
  idempotencyKey := none
  requestFingerprint := none
  payload := { title := none, body := none, route := none, data := none }
  broadcastConnected := false
  pushEnabled := true
  status := .queued
  maxAttempts := 5
  deliverAt := 0
  expiresAt := seconds * microsPerSecond
  createdAt := 0
  recipients := [7, 8]

/-- The second recipient's push fails, and the event is retried ten seconds
later. -/
def partialFailure : List PushAttempt :=
  [{ startedAt := 0, reaches := [.sent true, .fails] },
    { startedAt := 10000000, reaches := [.sent true, .sent true] }]

/-- The last minute of an event always counts as sixty seconds. -/
theorem pushAttempts_agree_iff_lastMinute :
    PushesAgree tallyDigest (pushAttempts tallyDigest (pushedEvent 60)
      { accepted := [(("ithute-pay", 2, 7), "")] } partialFailure) ↔
      SecondsAgree (pushedEvent 60) partialFailure := by
  apply pushAttempts_agree_iff tallyDigest_tells
  · intro first firstMem second secondMem _
    rw [List.mem_singleton.mp firstMem, List.mem_singleton.mp secondMem]
  · intro entry member
    rw [List.mem_singleton.mp member]
    decide

/-- The first recipient's push is refused, and the second never gets one. -/
theorem partialFailure_refused :
    ¬ PushesAgree tallyDigest (pushAttempts tallyDigest (pushedEvent 70)
      { accepted := [] } partialFailure) := by
  intro agree
  have refusals := congrArg List.length agree.unrefused
  revert refusals
  decide

end Ithute
