import Ithute.Library.TransitionRuns
import Mathlib.Data.Int.Order.Basic
import Mathlib.Algebra.Order.Ring.Int

/-!
# Sending transactional mail

A request counts the messages of its tenant and of its API key, flushes a row
of its own, submits the message to the mail server and commits.  Others see
the row only then.

The rows that a request counts carry the time at which their transactions
began.
-/

namespace Ithute

open TransitionRuns

inductive TransactionalStatus where
  | submitting | queued | failed
  deriving DecidableEq

structure TransactionalMessage where
  id : ℕ
  tenantId : ℕ
  apiKeyId : ℕ
  status : TransactionalStatus
  /-- `now()` of the transaction, in microseconds. -/
  createdAt : ℤ

structure TransactionalSettings where
  tenantPerMinuteLimit : ℕ := 120
  apiKeyPerMinuteLimit : ℕ := 60
  tenantDailyLimit : ℕ := 10000

/-- The limits in the order in which a request checks them. -/
inductive SendingLimit where
  | tenantMinute | keyMinute | tenantDay
  deriving DecidableEq

namespace SendingLimit

variable (limit : SendingLimit)

def position : ℕ :=
  match limit with
  | tenantMinute => 0
  | keyMinute => 1
  | tenantDay => 2

def period : ℤ :=
  match limit with
  | tenantMinute | keyMinute => 60000000
  | tenantDay => 86400000000

def bound (settings : TransactionalSettings) : ℕ :=
  match limit with
  | tenantMinute => settings.tenantPerMinuteLimit
  | keyMinute => settings.apiKeyPerMinuteLimit
  | tenantDay => settings.tenantDailyLimit

def detail : String :=
  match limit with
  | tenantMinute => "Transactional per-minute tenant sending limit reached"
  | keyMinute => "Transactional per-minute API key sending limit reached"
  | tenantDay => "Transactional daily sending limit reached"

def window (time : ℤ) : ℤ := time / limit.period

/-- `minute_start` and `start`. -/
def windowStart (time : ℤ) : ℤ := limit.window time * limit.period

def subject (tenantId apiKeyId : ℕ) : ℕ :=
  match limit with
  | tenantMinute | tenantDay => tenantId
  | keyMinute => apiKeyId

end SendingLimit

inductive SendStage where
  /-- Its transaction has begun. -/
  | authenticated
  /-- It has read the clock, and passed this many checks. -/
  | counting (passed : ℕ)
  /-- Its row has been flushed. -/
  | submitting
  /-- The exchange with the mail server is over. -/
  | submitted (status : TransactionalStatus)
  | ended (detail : String)
  deriving DecidableEq

structure SendRequest where
  tenantId : ℕ
  apiKeyId : ℕ
  began : ℤ
  current : ℤ
  rowId : ℕ := 0
  /-- When the mail server accepted the message. -/
  acceptedAt : Option ℤ := none
  stage : SendStage := .authenticated

/-- How an exchange with the mail server goes: an exception can come after
the server has accepted the message. -/
inductive SmtpOutcome where
  | accepted | acceptedLost | refused
  deriving DecidableEq

structure SendWorld where
  now : ℤ := 0
  rows : List TransactionalMessage := []
  nextId : ℕ := 0
  requests : List SendRequest := []

inductive SendAction where
  | tick (passed : ℕ)
  /-- A request with a valid key. -/
  | authenticate (tenantId apiKeyId : ℕ)
  | readClock (index : ℕ)
  | count (index : ℕ) (limit : SendingLimit)
  /-- `send_message` up to the flush, or its refusal of the message. -/
  | flush (index : ℕ) (valid : Bool)
  | submit (index : ℕ) (outcome : SmtpOutcome)
  | commit (index : ℕ)
  | crash (index : ℕ)

namespace SendWorld

variable (settings : TransactionalSettings) (world : SendWorld)

def counted (limit : SendingLimit) (subject : ℕ) (within : ℤ → Bool) : ℕ :=
  world.rows.countP fun row =>
    limit.subject row.tenantId row.apiKeyId = subject &&
      within row.createdAt && row.status ≠ .failed

def save (index : ℕ) (request : SendRequest) : SendWorld :=
  { world with requests := world.requests.set index request }

def withRequest (index : ℕ) (act : SendRequest → SendWorld) : SendWorld :=
  match world.requests[index]? with
  | none => world
  | some request => act request

def perform : SendAction → SendWorld
  | .tick passed => { world with now := world.now + passed }
  | .authenticate tenantId apiKeyId =>
    { world with
      requests := world.requests ++
        [{ tenantId := tenantId, apiKeyId := apiKeyId, began := world.now
           current := world.now }] }
  | .readClock index =>
    world.withRequest index fun request =>
      match request.stage with
      | .authenticated =>
        world.save index
          { request with current := world.now, stage := .counting 0 }
      | _ => world
  | .count index limit =>
    world.withRequest index fun request =>
      if request.stage = .counting limit.position then
        let recent := world.counted limit
          (limit.subject request.tenantId request.apiKeyId)
          fun time => limit.windowStart request.current ≤ time
        world.save index
          { request with
            stage :=
              if recent ≥ limit.bound settings then .ended limit.detail
              else .counting (limit.position + 1) }
      else world
  | .flush index valid =>
    world.withRequest index fun request =>
      if request.stage = .counting 3 then
        if valid then
          { world.save index
              { request with rowId := world.nextId, stage := .submitting } with
            nextId := world.nextId + 1 }
        else
          world.save index { request with stage := .ended "422" }
      else world
  | .submit index outcome =>
    world.withRequest index fun request =>
      match request.stage, outcome with
      | .submitting, .accepted =>
        world.save index
          { request with
            acceptedAt := some world.now, stage := .submitted .queued }
      | .submitting, .acceptedLost =>
        world.save index
          { request with
            acceptedAt := some world.now, stage := .submitted .failed }
      | .submitting, .refused =>
        world.save index { request with stage := .submitted .failed }
      | _, _ => world
  | .commit index =>
    world.withRequest index fun request =>
      match request.stage with
      | .submitted status =>
        { world.save index { request with stage := .ended "202" } with
          rows := world.rows ++
            [{ id := request.rowId, tenantId := request.tenantId
               apiKeyId := request.apiKeyId, status := status
               createdAt := request.began }] }
      | _ => world
  | .crash index =>
    world.withRequest index fun request =>
      match request.stage with
      | .ended _ => world
      | _ => world.save index { request with stage := .ended "crashed" }

end SendWorld

end Ithute
