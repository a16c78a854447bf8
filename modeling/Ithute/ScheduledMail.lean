import Mathlib.Data.List.MinMax
import Ithute.PythonValues

/-!
# Scheduled mail

Several worker processes deliver the messages that owners of mailboxes have
scheduled.  A worker claims a row under its lock and delivers it without one,
and so do the requests that cancel a message or retry it read and write.

A session writes only the columns that it has changed, and the database
stamps such a write with the start of its transaction.  What a message says
and whom it is for is left out, since it is handed on as it is.
-/

namespace Ithute

inductive ScheduledMailStatus where
  | queued | sending | sent | failed | cancelled
  deriving DecidableEq

structure ScheduledMail where
  id : ℕ
  mailboxId : ℕ
  connectedAccountId : Option ℕ
  authSecretEncrypted : Option String
  /-- Times are in microseconds. -/
  scheduledAt : ℤ
  status : ScheduledMailStatus := .queued
  error : Option String := none
  sentAt : Option ℤ := none
  updatedAt : ℤ
  deriving DecidableEq

def seconds (count : ℕ) : ℤ := count * 1000000

/-- A session writes the columns that differ from what it has loaded. -/
def ScheduledMail.flush (loaded changed : ScheduledMail) (startedAt : ℤ)
    (stored : ScheduledMail) : ScheduledMail :=
  if changed = loaded then stored
  else
    { stored with
      authSecretEncrypted :=
        if changed.authSecretEncrypted = loaded.authSecretEncrypted then
          stored.authSecretEncrypted
        else changed.authSecretEncrypted
      scheduledAt :=
        if changed.scheduledAt = loaded.scheduledAt then stored.scheduledAt
        else changed.scheduledAt
      status :=
        if changed.status = loaded.status then stored.status
        else changed.status
      error := if changed.error = loaded.error then stored.error else changed.error
      sentAt :=
        if changed.sentAt = loaded.sentAt then stored.sentAt
        else changed.sentAt
      updatedAt := startedAt }

structure ClientTime where
  value : ℤ
  hasTimezone : Bool := true

structure ScheduleIn where
  delaySeconds : Option ℕ := none
  scheduledAt : Option ClientTime := none
  /-- The connected account of the mailbox, and whether it can be used. -/
  account : Option (ℕ × Bool) := none
  delayBounds : ∀ delay ∈ delaySeconds, 16 ≤ delay ∧ delay ≤ 300 := by decide

def ScheduleIn.time (payload : ScheduleIn) (now : ℤ) : Except String ℤ :=
  match payload.delaySeconds with
  | some delay =>
    if payload.scheduledAt.isSome then
      .error "Use either scheduled_at or delay_seconds, not both"
    else .ok (now + seconds delay)
  | none =>
    match payload.scheduledAt with
    | none => .error "scheduled_at or delay_seconds is required"
    | some time =>
      if time.hasTimezone = false then
        .error "scheduled_at must include a timezone"
      else if time.value ≤ now + seconds 15 then
        .error "Schedule mail at least 15 seconds in the future"
      else if now + seconds (365 * 86400) < time.value then
        .error "Scheduled mail cannot be more than one year in the future"
      else .ok time.value

/-- A request that has read its row and found it open. -/
inductive MailRequest where
  | cancel (loaded : ScheduledMail) (startedAt : ℤ)
      (isOpen : loaded.status = .queued ∨ loaded.status = .failed)
  | retry (loaded : ScheduledMail) (startedAt : ℤ) (secret : String)
      (failed : loaded.status = .failed)

def ScheduledMail.cancel (row : ScheduledMail) : ScheduledMail :=
  { row with
    status := .cancelled
    authSecretEncrypted := none }

def ScheduledMail.retry (row : ScheduledMail) (secret : String) (now : ℤ) : ScheduledMail :=
  { row with
    status := .queued
    error := none
    scheduledAt := now + seconds 20
    authSecretEncrypted :=
      match row.connectedAccountId with
      | none => some secret
      | some _ => row.authSecretEncrypted }

/-- How far a worker has come with the job that it has claimed, and what it
has loaded. -/
inductive MailPhase where
  | claimed
  | loaded (row : ScheduledMail) (startedAt : ℤ)
  | refused (row : ScheduledMail) (startedAt : ℤ)
  | submitted (row : ScheduledMail) (startedAt : ℤ)
  deriving DecidableEq

structure MailDelivery where
  worker : ℕ
  jobId : ℕ
  /-- The schedule or retry that the job was claimed for, counted from 1. -/
  order : ℕ
  phase : MailPhase := .claimed

def MailDelivery.key (delivery : MailDelivery) : ℕ × ℕ := (delivery.jobId, delivery.order)

/-- The mail server has not been given the message, and may still be. -/
def MailDelivery.MaySubmit (delivery : MailDelivery) : Prop :=
  match delivery.phase with
  | .claimed | .loaded .. => True
  | .refused .. | .submitted .. => False

instance (delivery : MailDelivery) : Decidable delivery.MaySubmit :=
  match phase : delivery.phase with
  | .claimed | .loaded .. => .isTrue (by simp [MailDelivery.MaySubmit, phase])
  | .refused .. | .submitted .. => .isFalse (by simp [MailDelivery.MaySubmit, phase])

def ScheduledMail.sent (row : ScheduledMail) (now : ℤ) : ScheduledMail :=
  { row with
    status := .sent
    sentAt := some now
    error := none
    authSecretEncrypted := none }

def ScheduledMail.fail (row : ScheduledMail) (error : String) : ScheduledMail :=
  { row with
    status := .failed
    error := some error
    authSecretEncrypted := none }

/-- What a delivery has loaded, what it makes of it in the end, and when its
transaction began, given what the sending has raised. -/
def MailDelivery.outcome (delivery : MailDelivery) (now : ℤ)
    (raised : Option String) : Option (ScheduledMail × ScheduledMail × ℤ) :=
  let failure (error : String) := String.ofList (error.toList.take 5000)
  match delivery.phase with
  | .claimed => none
  | .refused row startedAt =>
    some (row, row.fail "The sending Ithute mailbox is no longer active", startedAt)
  | .loaded row startedAt => some (row, row.fail (failure (raised.getD "")), startedAt)
  | .submitted row startedAt =>
    some (row, match raised with
      | none => row.sent now
      | some error => row.fail (failure error), startedAt)

structure ScheduledMailState where
  nextId : ℕ := 0
  rows : List ScheduledMail := []
  deliveries : List MailDelivery := []
  requests : List MailRequest := []
  /-- The job of every schedule and of every retry. -/
  placed : List ℕ := []
  /-- The job and the order of every message that a mail server accepted. -/
  accepted : List (ℕ × ℕ) := []

/-- What owners ask for and what workers do.  A worker stops at any point, and
a request may never come to its commit. -/
inductive ScheduledMailMove where
  | schedule (mailboxId : ℕ) (payload : ScheduleIn) (secret : String) (now : ℤ)
  | claim (worker : ℕ) (now startedAt : ℤ) (locked : List ℕ)
  | load (worker : ℕ) (startedAt : ℤ) (mailboxActive : Bool)
  | reload (worker : ℕ) (startedAt : ℤ)
  | submit (worker : ℕ)
  | finish (worker : ℕ) (now : ℤ) (raised : Option String)
  | crash (worker : ℕ)
  | cancel (mailboxId jobId : ℕ) (startedAt : ℤ)
  | retry (mailboxId jobId : ℕ) (secret : String) (startedAt : ℤ)
  | commit (position : ℕ) (now : ℤ)

namespace ScheduledMailState

variable (state : ScheduledMailState)

def row? (jobId : ℕ) : Option ScheduledMail := state.rows.find? fun row => row.id = jobId

def delivery? (worker : ℕ) : Option MailDelivery :=
  state.deliveries.find? fun delivery => delivery.worker = worker

def write (jobId : ℕ) (flush : ScheduledMail → ScheduledMail) : List ScheduledMail :=
  state.rows.map fun stored => if stored.id = jobId then flush stored else stored

def advance (worker : ℕ) (phase : MailPhase) : List MailDelivery :=
  state.deliveries.map fun delivery =>
    if delivery.worker = worker then { delivery with phase := phase }
    else delivery

def without (worker : ℕ) : List MailDelivery :=
  state.deliveries.filter fun delivery => delivery.worker ≠ worker

def currentOrder (jobId : ℕ) : ℕ := state.placed.count jobId

def scheduleMessage (mailboxId : ℕ) (payload : ScheduleIn) (secret : String)
    (now : ℤ) : ScheduledMailState :=
  match payload.time now with
  | .error _ => state
  | .ok scheduledAt =>
    if payload.account.any fun account => !account.2 then state
    else
      { state with
        nextId := state.nextId + 1
        rows := state.rows ++
          [{ id := state.nextId
             mailboxId := mailboxId
             connectedAccountId := payload.account.map Prod.fst
             authSecretEncrypted :=
               if payload.account.isSome then none else some secret
             scheduledAt := scheduledAt
             updatedAt := now }]
        placed := state.placed ++ [state.nextId] }

/-- Queries compare times by the computable order. -/
local instance (priority := high) mailTimeOrder : Preorder ℤ :=
  Int.instLinearOrder.toPartialOrder.toPreorder

/-- The job that is due first, but for rows that others have locked. -/
def claimable (now : ℤ) (locked : List ℕ) : Option ScheduledMail :=
  let stale := now - seconds (15 * 60)
  (state.rows.filter fun row =>
    row.scheduledAt ≤ now ∧ (row.status = .queued ∨
        (row.status = .sending ∧ row.updatedAt < stale)) ∧
          row.id ∉ locked).argmin ScheduledMail.scheduledAt

def claimOne (worker : ℕ) (now startedAt : ℤ) (locked : List ℕ) : ScheduledMailState :=
  match state.delivery? worker, state.claimable now locked with
  | none, some row =>
    { state with
      rows := state.write row.id
        (row.flush
          { row with
            status := .sending
            error := none } startedAt)
      deliveries := state.deliveries ++
        [{ worker := worker
           jobId := row.id
           order := state.currentOrder row.id }] }
  | _, _ => state

/-- The start of `_deliver`, up to the message. -/
def load (worker : ℕ) (startedAt : ℤ) (mailboxActive : Bool) : ScheduledMailState :=
  match state.delivery? worker with
  | none => state
  | some delivery =>
    match delivery.phase with
    | .claimed =>
      match state.row? delivery.jobId with
      | none => { state with deliveries := state.without worker }
      | some row =>
        if row.status ≠ .sending then
          { state with deliveries := state.without worker }
        else
          { state with
            deliveries := state.advance worker (if mailboxActive then .loaded row startedAt
              else .refused row startedAt) }
    | .loaded .. | .refused .. | .submitted .. => state

/-- A fresh token of the connected account is committed, after which the
session loads the row again. -/
def reload (worker : ℕ) (startedAt : ℤ) : ScheduledMailState :=
  match state.delivery? worker with
  | none => state
  | some delivery =>
    match delivery.phase, state.row? delivery.jobId with
    | .loaded row _, some stored =>
      if row.connectedAccountId.isSome then
        { state with
          deliveries := state.advance worker (.loaded stored startedAt) }
      else state
    | _, _ => state

def submit (worker : ℕ) : ScheduledMailState :=
  match state.delivery? worker with
  | none => state
  | some delivery =>
    match delivery.phase with
    | .loaded row startedAt =>
      if row.connectedAccountId.isSome ∨ (presentText row.authSecretEncrypted).isSome then
        { state with
          deliveries := state.advance worker (.submitted row startedAt)
          accepted := state.accepted ++ [delivery.key] }
      else state
    | .claimed | .refused .. | .submitted .. => state

/-- The end of `_deliver`, given what the sending has raised. -/
def finish (worker : ℕ) (now : ℤ) (raised : Option String) : ScheduledMailState :=
  match state.delivery? worker with
  | none => state
  | some delivery =>
    match delivery.outcome now raised with
    | none => state
    | some (loaded, changed, startedAt) =>
      { state with
        rows := state.write delivery.jobId (loaded.flush changed startedAt)
        deliveries := state.without worker }

def cancelScheduled (mailboxId jobId : ℕ) (startedAt : ℤ) : ScheduledMailState :=
  match (state.row? jobId).filter fun row => row.mailboxId = mailboxId with
  | none => state
  | some row =>
    if isOpen : row.status = .queued ∨ row.status = .failed then
      { state with
        requests := state.requests ++ [.cancel row startedAt isOpen] }
    else state

def retryScheduled (mailboxId jobId : ℕ) (secret : String) (startedAt : ℤ) : ScheduledMailState :=
  match (state.row? jobId).filter fun row => row.mailboxId = mailboxId with
  | none => state
  | some row =>
    if failed : row.status = .failed then
      { state with
        requests := state.requests ++ [.retry row startedAt secret failed] }
    else state

def commit (position : ℕ) (now : ℤ) : ScheduledMailState :=
  match state.requests[position]? with
  | none => state
  | some (.cancel loaded startedAt _) =>
    { state with
      rows := state.write loaded.id (loaded.flush loaded.cancel startedAt)
      requests := state.requests.eraseIdx position }
  | some (.retry loaded startedAt secret _) =>
    { state with
      rows := state.write loaded.id (loaded.flush (loaded.retry secret now) startedAt)
      requests := state.requests.eraseIdx position
      placed := state.placed ++ [loaded.id] }

def perform : ScheduledMailMove → ScheduledMailState
  | .schedule mailboxId payload secret now => state.scheduleMessage mailboxId payload secret now
  | .claim worker now startedAt locked => state.claimOne worker now startedAt locked
  | .load worker startedAt mailboxActive => state.load worker startedAt mailboxActive
  | .reload worker startedAt => state.reload worker startedAt
  | .submit worker => state.submit worker
  | .finish worker now raised => state.finish worker now raised
  | .crash worker => { state with deliveries := state.without worker }
  | .cancel mailboxId jobId startedAt => state.cancelScheduled mailboxId jobId startedAt
  | .retry mailboxId jobId secret startedAt => state.retryScheduled mailboxId jobId secret startedAt
  | .commit position now => state.commit position now

end ScheduledMailState

end Ithute
