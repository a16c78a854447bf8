import Ithute.Library.EventHistories
import Ithute.Library.TransitionRuns
import Ithute.Library.UniqueRows
import Ithute.PythonValues

/-!
# Security approvals

An owner asks for an approval, another one approves or rejects it, and an
operation consumes it.  Each of these calls reads the row, checks what it has
read, and writes the columns that it has changed when it commits.
-/

namespace Ithute.Security

open EventHistories TransitionRuns UniqueRows

inductive SecurityApprovalStatus where
  | pending | approved | rejected | expired | consumed
  deriving DecidableEq

structure ApprovalTerms where
  action : String
  resourceType : String
  resourceId : String
  /-- What `json.loads(row.payload_json)` gives. -/
  payload : JsonObject
  requestedByUserId : ℕ
  expiresAt : ℕ

structure SecurityApprovalRequest where
  id : ℕ
  terms : ApprovalTerms
  status : SecurityApprovalStatus := .pending
  approvedByUserId : Option ℕ := none
  approvedAt : Option ℕ := none
  consumedAt : Option ℕ := none

structure GuardedOperation where
  action : String
  resourceType : String
  resourceId : String
  payloadMatch : List (String × String)

def falsy : JsonValue → Bool
  | .null | .boolean false | .array [] | .object [] => true
  | .integer value => decide (value = 0)
  | .floating value => decide (value = .finite 0)
  | .text value => decide (value = "")
  | _ => false

/-- `str(value or "")`; the texts of values that are not strings are given. -/
def payloadText (otherText : JsonValue → String) : Option JsonValue → String
  | none => ""
  | some (.text value) => value
  | some value => if falsy value = true then "" else otherText value

def PayloadMatches (otherText : JsonValue → String) (payload : JsonObject)
    (payloadMatch : List (String × String)) : Prop :=
  ∀ entry ∈ payloadMatch, payloadText otherText (payload.lookup entry.1) = entry.2

instance (otherText : JsonValue → String) (payload : JsonObject)
    (payloadMatch : List (String × String)) :
    Decidable (PayloadMatches otherText payload payloadMatch) :=
  inferInstanceAs (Decidable (∀ _ ∈ _, _))

structure ApprovalTerms.Covers (otherText : JsonValue → String)
    (terms : ApprovalTerms) (operation : GuardedOperation) : Prop where
  action : terms.action = operation.action
  resourceType : terms.resourceType = operation.resourceType
  resourceId : terms.resourceId = operation.resourceId
  payload : PayloadMatches otherText terms.payload operation.payloadMatch

/-- A call before its next statement: the read of the row with its checks, or
the commit. -/
inductive ApprovalCall where
  | loadApprove (approvalId userId : ℕ) (owners : List ℕ)
  | commitApprove (row : SecurityApprovalRequest) (userId : ℕ) (owners : List ℕ)
  | commitExpired (row : SecurityApprovalRequest)
  | loadReject (approvalId userId : ℕ)
  | commitReject (row : SecurityApprovalRequest) (userId : ℕ)
  | loadConsume (approvalId : ℕ) (operation : GuardedOperation)
  | commitConsume (row : SecurityApprovalRequest) (operation : GuardedOperation) (consumedAt : ℕ)

/-- What has been committed.  An approval is kept with those who were owners
when the approver was admitted. -/
inductive ApprovalEvent where
  | approved (approvalId userId : ℕ) (owners : List ℕ) (at_ : ℕ)
  | rejected (approvalId userId : ℕ)
  | expired (approvalId : ℕ)
  | authorised (approvalId : ℕ) (operation : GuardedOperation) (at_ : ℕ)

structure ApprovalState where
  rows : List SecurityApprovalRequest := []
  nextId : ℕ := 0
  owners : List ℕ := []
  clock : ℕ := 0
  calls : List ApprovalCall := []
  /-- Kept beside the tables. -/
  history : List ApprovalEvent := []

inductive ApprovalAction where
  | request (terms : ApprovalTerms)
  | beginApprove (approvalId userId : ℕ)
  | beginReject (approvalId userId : ℕ)
  | beginConsume (approvalId : ℕ) (operation : GuardedOperation)
  | advance (index : ℕ)
  | crash (index : ℕ)
  | setOwners (owners : List ℕ)
  | wait (duration : ℕ)

/-- The checks of `approve_security_approval` on the row that it has read;
`none` is an approval that has expired. -/
def checkApprove (row : SecurityApprovalRequest) (userId clock : ℕ) : Except String (Option Unit) :=
  if row.status ≠ .pending then
    .error "security approval is no longer pending"
  else if row.terms.expiresAt ≤ clock then .ok none
  else if row.terms.requestedByUserId = userId then
    .error "requester cannot approve their own security change"
  else .ok (some ())

/-- The checks of `consume_security_approval`. -/
def checkConsume (otherText : JsonValue → String)
    (row : SecurityApprovalRequest) (operation : GuardedOperation)
    (current : ℕ) : Except String Unit :=
  if row.status ≠ .approved ∨ row.approvedAt = none then
    .error "security approval is not approved"
  else if row.terms.expiresAt ≤ current then
    .error "security approval expired"
  else if row.consumedAt.isSome = true then
    .error "security approval was already consumed"
  else if row.terms.action ≠ operation.action ∨ row.terms.resourceType ≠ operation.resourceType ∨
      row.terms.resourceId ≠ operation.resourceId then
    .error "security approval does not match this operation"
  else if ¬ PayloadMatches otherText row.terms.payload operation.payloadMatch then
    .error "security approval payload does not match this operation"
  else .ok ()

namespace ApprovalState

variable (otherText : JsonValue → String) (state : ApprovalState)

def rowOf (id : ℕ) : Option SecurityApprovalRequest :=
  state.rows.find? fun row => decide (row.id = id)

/-- An `UPDATE` of one row, and what it stands for. -/
def committed (id : ℕ) (write : SecurityApprovalRequest → SecurityApprovalRequest)
    (event : ApprovalEvent) : ApprovalState :=
  { state with
    rows := state.rows.map fun row => if row.id = id then write row else row
    history := state.history ++ [event] }

/-- The next statement of a call: the call goes on, commits or is refused. -/
def next : ApprovalCall → Except String (ApprovalCall ⊕ ApprovalState)
  | .loadApprove approvalId userId owners =>
    match state.rowOf approvalId with
    | none => .error "security approval not found"
    | some row => do
        match ← checkApprove row userId state.clock with
        | none => return .inl (.commitExpired row)
        | some _ => return .inl (.commitApprove row userId owners)
  | .commitApprove row userId owners =>
    .ok (.inr (state.committed row.id (fun stored =>
        { stored with
          status := .approved
          approvedByUserId := some userId
          approvedAt := some state.clock })
      (.approved row.id userId owners state.clock)))
  | .commitExpired row =>
    .ok (.inr (state.committed row.id (fun stored => { stored with status := .expired })
      (.expired row.id)))
  | .loadReject approvalId userId =>
    match state.rowOf approvalId with
    | none => .error "security approval not found"
    | some row =>
      if row.status ≠ .pending then
        .error "security approval is no longer pending"
      else .ok (.inl (.commitReject row userId))
  | .commitReject row userId =>
    .ok (.inr (state.committed row.id (fun stored =>
        { stored with
          status := .rejected
          approvedByUserId := some userId
          approvedAt := some state.clock })
      (.rejected row.id userId)))
  | .loadConsume approvalId operation =>
    match state.rowOf approvalId with
    | none => .error "security approval not found"
    | some row => do
        checkConsume otherText row operation state.clock
        return .inl (.commitConsume row operation state.clock)
  | .commitConsume row operation consumedAt =>
    .ok (.inr (state.committed row.id (fun stored =>
        { stored with consumedAt := some consumedAt, status := .consumed })
      (.authorised row.id operation consumedAt)))

def advance (index : ℕ) : ApprovalState :=
  match state.calls[index]? with
  | none => state
  | some call =>
    match state.next otherText call with
    | .ok (.inl following) => { state with calls := state.calls.set index following }
    | .ok (.inr committed) => { committed with calls := state.calls.eraseIdx index }
    | .error _ => { state with calls := state.calls.eraseIdx index }

def perform : ApprovalAction → ApprovalState
  | .request terms =>
    if terms.requestedByUserId ∈ state.owners then
      { state with
        rows := state.rows ++ [{ id := state.nextId, terms := terms }]
        nextId := state.nextId + 1 }
    else state
  | .beginApprove approvalId userId =>
    if userId ∈ state.owners then
      { state with
        calls := state.calls ++ [.loadApprove approvalId userId state.owners] }
    else state
  | .beginReject approvalId userId =>
    if userId ∈ state.owners then
      { state with calls := state.calls ++ [.loadReject approvalId userId] }
    else state
  | .beginConsume approvalId operation =>
    { state with
      calls := state.calls ++ [.loadConsume approvalId operation] }
  | .advance index => state.advance otherText index
  | .crash index => { state with calls := state.calls.eraseIdx index }
  | .setOwners owners => { state with owners := owners }
  | .wait duration => { state with clock := state.clock + duration }

def Performs (before : ApprovalState) (action : ApprovalAction) (after : ApprovalState) : Prop :=
  after = before.perform otherText action

/-- The terms of each approval; they stay as they were asked for. -/
def requests : List (ℕ × ApprovalTerms) := state.rows.map fun row => (row.id, row.terms)

end ApprovalState

def ApprovalEvent.Closes (approvalId : ℕ) : ApprovalEvent → Prop
  | .rejected id _ | .expired id | .authorised id _ _ => id = approvalId
  | .approved _ _ _ _ => False

def ApprovedByOther (approvalId : ℕ) (terms : ApprovalTerms) (front : List ApprovalEvent) : Prop :=
  ∃ userId owners at_, .approved approvalId userId owners at_ ∈ front ∧
    userId ≠ terms.requestedByUserId ∧ userId ∈ owners ∧ at_ < terms.expiresAt

def Warranted (otherText : JsonValue → String)
    (requests : List (ℕ × ApprovalTerms)) (front : List ApprovalEvent) : ApprovalEvent → Prop
  | .authorised approvalId operation at_ =>
    (∃ terms, (approvalId, terms) ∈ requests ∧
      terms.Covers otherText operation ∧ at_ < terms.expiresAt ∧
      ApprovedByOther approvalId terms front) ∧ ∀ event ∈ front, ¬ event.Closes approvalId
  | _ => True

/-- Every operation was authorised by an approval of another owner for this
operation, which was neither rejected nor expired nor used before. -/
def DualControlled (otherText : JsonValue → String) (state : ApprovalState) : Prop :=
  Justified (Warranted otherText state.requests) state.history

namespace ApprovalState

def ReadsHold (state : ApprovalState) : ApprovalCall → Prop
  | .commitApprove row _ _ => ∀ stored ∈ state.rows, stored.id = row.id → stored.status = .pending
  | .commitConsume row _ _ => ∀ stored ∈ state.rows, stored.id = row.id →
      stored.status = .approved ∧ stored.consumedAt = none
  | _ => True

instance (state : ApprovalState) (call : ApprovalCall) : Decidable (state.ReadsHold call) := by
  cases call <;> dsimp only [ReadsHold] <;> infer_instance

/-- Approvals and uses commit on a row that is as they have read it. -/
def CommitsAsRead (state : ApprovalState) : ApprovalAction → Prop
  | .advance index => ∀ call ∈ state.calls[index]?, state.ReadsHold call
  | _ => True

instance (state : ApprovalState) (action : ApprovalAction) :
    Decidable (state.CommitsAsRead action) := by
  cases action <;> dsimp only [CommitsAsRead] <;> infer_instance

end ApprovalState

end Ithute.Security
