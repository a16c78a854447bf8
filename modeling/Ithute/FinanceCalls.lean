import Ithute.FinanceLedger

/-!
# Calls on the finance ledger

A call reads rows, checks what it has read, flushes its writes, synchronises
the status of the invoice, and commits.  Alone it does so at once; together
with others, each statement sees what has been committed before it.
-/

namespace Ithute.Finance

/-- What becomes of the message that `send_invoice` sends. -/
inductive Delivery where
  | accepted
  | approvalRequired (detail : String)
  /-- A `ValueError`. -/
  | invalid (error : String)
  | failed (error : String)
  deriving DecidableEq

inductive LedgerRequest where
  | recordInvoicePayment (invoiceId amountMinor : ℕ) (paymentDate : AccountingDate)
  | reconcileBankRow (transactionId invoiceId : ℕ)
  | createRefund (paymentId amountMinor : ℕ) (refundDate : AccountingDate)
  | createCreditNote (invoiceId amountMinor : ℕ) (today : AccountingDate)
  | deleteFinancePayment (paymentId : ℕ)
  | deleteFinanceInvoice (invoiceId : ℕ)
  | cancelFinanceInvoice (invoiceId : ℕ) (now : ℤ)
  | sendFinanceInvoice (invoiceId : ℕ) (resend : Bool) (delivery : Delivery) (now : ℤ)
  /-- One invoice of `bulk_send_invoices`. -/
  | bulkSendInvoice (invoiceId : ℕ) (resend : Bool) (delivery : Delivery) (now : ℤ)
  | createExpense (expenseDate : AccountingDate) (amountMinor taxMinor : ℕ)
  | voidExpense (expenseId : ℕ)
  deriving DecidableEq

inductive LedgerRead where
  | invoice (id : ℕ)
  | payments (invoiceId : ℕ)
  | creditNotes (invoiceId : ℕ)
  | refunds (invoiceId : ℕ)
  | payment (id : ℕ)
  | openPeriod (date : AccountingDate) (operation : String)
  | paymentRefunds (paymentId : ℕ)
  | transaction (id : ℕ)
  | expense (id : ℕ)
  /-- The row that a failed delivery reads after its rollback. -/
  | failedInvoice (id : ℕ)

structure LoadedRows where
  invoice : Option FinanceInvoice := none
  payments : List FinancePayment := []
  creditNotes : List FinanceCreditNote := []
  refundedMinor : ℕ := 0
  payment : Option FinancePayment := none
  paymentRefundedMinor : ℕ := 0
  transaction : Option FinanceBankTransaction := none
  expense : Option FinanceExpense := none
  failedInvoice : Option FinanceInvoice := none

/-- The invoice whose status is synchronised after the flush. -/
inductive SyncTarget where
  | nothing
  | loaded (invoice : FinanceInvoice)
  | stored (invoiceId : ℕ) (missing : Refusal)

structure LedgerDraft where
  writes : List LedgerWrite
  sync : SyncTarget := .nothing

def LedgerRequest.reads : LedgerRequest → List LedgerRead
  | .recordInvoicePayment invoiceId _ _ | .createCreditNote invoiceId _ _
  | .deleteFinanceInvoice invoiceId =>
    [.invoice invoiceId, .payments invoiceId, .creditNotes invoiceId]
  | .reconcileBankRow transactionId invoiceId =>
    [.transaction transactionId, .invoice invoiceId, .payments invoiceId,
      .creditNotes invoiceId, .refunds invoiceId]
  | .createRefund paymentId _ refundDate =>
    [.payment paymentId, .openPeriod refundDate "recording a refund", .paymentRefunds paymentId]
  | .deleteFinancePayment paymentId => [.payment paymentId]
  | .cancelFinanceInvoice invoiceId _ | .bulkSendInvoice invoiceId _ _ _ => [.invoice invoiceId]
  | .sendFinanceInvoice invoiceId _ (.invalid _) _
  | .sendFinanceInvoice invoiceId _ (.failed _) _ => [.invoice invoiceId, .failedInvoice invoiceId]
  | .sendFinanceInvoice invoiceId _ _ _ => [.invoice invoiceId]
  | .createExpense _ _ _ => []
  | .voidExpense expenseId => [.expense expenseId]

def FinanceLedger.read (ledger : FinanceLedger) (rows : LoadedRows) :
    LedgerRead → Except Refusal LoadedRows
  | .invoice id =>
    match ledger.invoiceOf id with
    | some invoice => .ok { rows with invoice := some invoice }
    | none => .error ⟨404, "Invoice not found"⟩
  | .payments invoiceId => .ok { rows with payments := ledger.paymentsOf invoiceId }
  | .creditNotes invoiceId => .ok { rows with creditNotes := ledger.creditNotesOf invoiceId }
  | .refunds invoiceId => .ok { rows with refundedMinor := ledger.refundedMinor invoiceId }
  | .payment id =>
    match ledger.paymentOf id with
    | some payment => .ok { rows with payment := some payment }
    | none => .error ⟨404, "Payment not found"⟩
  | .openPeriod date operation => (ledger.ensurePeriodOpen date operation).map fun _ => rows
  | .paymentRefunds paymentId =>
    .ok { rows with
      paymentRefundedMinor := ledger.paymentRefundedMinor paymentId }
  | .transaction id =>
    match ledger.transactionOf id with
    | none => .error ⟨404, "Bank transaction not found"⟩
    | some transaction =>
      if transaction.status = .matched then
        .error ⟨409, "Transaction already reconciled"⟩
      else if transaction.amountMinor ≤ 0 then
        .error ⟨400, "Only positive bank credits can be reconciled to invoices"⟩
      else .ok { rows with transaction := some transaction }
  | .expense id =>
    match ledger.expenseOf id with
    | some expense => .ok { rows with expense := some expense }
    | none => .error ⟨404, "Expense not found"⟩
  | .failedInvoice id => .ok { rows with failedInvoice := ledger.invoiceOf id }

/-- `record_invoice_payment` -/
def checkPayment (rows : LoadedRows) (amountMinor : ℕ)
    (paymentDate : AccountingDate) : Except Refusal LedgerDraft :=
  match rows.invoice with
  | none => .error .internal
  | some invoice =>
    if invoice.status = .cancelled then
      .error ⟨409, "Cannot record a payment against a cancelled invoice"⟩
    else
      let alreadyPaid := (rows.payments.map fun row => row.amountMinor).sum
      let credited := (rows.creditNotes.map fun row => row.amountMinor).sum
      let outstanding := invoice.totalMinor - credited - alreadyPaid
      if outstanding ≤ 0 then
        .error ⟨409, "Invoice is already fully settled"⟩
      else if outstanding < amountMinor then
        .error ⟨422, s!"Payment exceeds outstanding balance of {outstanding} minor units"⟩
      else
        .ok
          { writes :=
              [.insertPayment ⟨0, invoice.id, amountMinor, paymentDate⟩]
            sync := .loaded invoice }

/-- `reconcile_bank_row` -/
def checkReconciliation (rows : LoadedRows) : Except Refusal LedgerDraft :=
  match rows.transaction, rows.invoice with
  | some transaction, some invoice =>
    let gross := (rows.payments.map fun row => row.amountMinor).sum
    let credited := (rows.creditNotes.map fun row => row.amountMinor).sum
    let outstanding :=
      invoice.totalMinor - credited - (gross - rows.refundedMinor)
    if outstanding ≤ 0 then
      .error ⟨409, "Invoice has no outstanding balance"⟩
    else
      let amount := min transaction.amountMinor.toNat outstanding
      .ok
        { writes :=
            [.reconcilePayment
              ⟨0, invoice.id, amount, transaction.transactionDate⟩
              transaction]
          sync := .loaded invoice }
  | _, _ => .error .internal

/-- `create_refund` -/
def checkRefund (rows : LoadedRows) (amountMinor : ℕ)
    (refundDate : AccountingDate) : Except Refusal LedgerDraft :=
  match rows.payment with
  | none => .error .internal
  | some payment =>
    let available := payment.amountMinor - rows.paymentRefundedMinor
    if available < amountMinor then
      .error ⟨422, s!"Refund exceeds refundable payment balance of {available} minor units"⟩
    else
      .ok
        { writes :=
            [.insertRefund
              ⟨0, payment.invoiceId, payment.id, amountMinor, refundDate⟩]
          sync := .stored payment.invoiceId .internal }

/-- `create_credit_note` -/
def checkCreditNote (rows : LoadedRows) (amountMinor : ℕ)
    (today : AccountingDate) : Except Refusal LedgerDraft :=
  match rows.invoice with
  | none => .error .internal
  | some invoice =>
    if invoice.status = .cancelled then
      .error
        ⟨409, "Cannot issue a credit note against a cancelled invoice"⟩
    else
      let credited := (rows.creditNotes.map fun row => row.amountMinor).sum
      let remainingCreditable := invoice.totalMinor - credited
      if remainingCreditable < amountMinor then
        .error
          ⟨422, "Credit amount cannot exceed the uncredited invoice total"⟩
      else
        .ok
          { writes :=
              [.insertCreditNote ⟨0, invoice.id, amountMinor, today⟩]
            sync := .loaded invoice }

/-- `cancel_finance_invoice` -/
def checkCancellation (rows : LoadedRows) (now : ℤ) : Except Refusal LedgerDraft :=
  match rows.invoice with
  | none => .error .internal
  | some invoice =>
    if invoice.status = .paid ∨ invoice.status = .credited then
      .error ⟨409, "A settled invoice cannot be cancelled; use the credit-note record and audit trail instead"⟩
    else
      .ok { writes :=
            [.updateInvoice invoice { invoice with
                status := .cancelled
                cancelledAt := some now }] }

/-- `send_invoice` of a message that is accepted. -/
def delivered (invoice : FinanceInvoice) (now : ℤ) : LedgerDraft where
  writes :=
    [.updateInvoice invoice { invoice with
        status := .sent
        sentAt := some now
        lastError := none }]

/-- `_persist_send_failure`, after which the call raises. -/
def persistSendFailure (rows : LoadedRows) (answer : Refusal)
    (error : String) : Except Refusal LedgerDraft :=
  match rows.failedInvoice with
  | none => .error answer
  | some invoice =>
    .ok { writes :=
          [.updateInvoice invoice { invoice with
              status := .failed
              lastError := some (error.take 2000).toString }] }

/-- `send_finance_invoice` -/
def checkSend (rows : LoadedRows) (resend : Bool) (delivery : Delivery)
    (now : ℤ) : Except Refusal LedgerDraft :=
  match rows.invoice with
  | none => .error .internal
  | some invoice =>
    if invoice.status = .paid ∨ invoice.status = .cancelled ∨ invoice.status = .credited then
      .error ⟨409, s!"Invoice is {invoice.status.text} and cannot be sent"⟩
    else if invoice.status = .sent ∧ resend = false then
      .error ⟨409, "Invoice has already been sent; explicitly request a resend if required"⟩
    else
      match delivery with
      | .accepted => .ok (delivered invoice now)
      | .approvalRequired detail => .error ⟨409, detail⟩
      | .invalid error => persistSendFailure rows ⟨409, error⟩ error
      | .failed error =>
        persistSendFailure rows ⟨502, "Invoice email could not be sent: " ++
            (error.take 300).toString⟩ error

/-- One invoice of `bulk_send_invoices`; what is refused is listed in the
answer, and a failed delivery is rolled back. -/
def checkBulkSend (rows : LoadedRows) (resend : Bool) (delivery : Delivery)
    (now : ℤ) : Except Refusal LedgerDraft :=
  match rows.invoice with
  | none => .error .internal
  | some invoice =>
    if invoice.status = .paid ∨ invoice.status = .cancelled ∨ invoice.status = .credited then
      .error ⟨200, s!"Invoice is {invoice.status.text}"⟩
    else if invoice.status = .sent ∧ resend = false then
      .error ⟨200, "Already sent"⟩
    else
      match delivery with
      | .accepted => .ok (delivered invoice now)
      | .approvalRequired error | .invalid error | .failed error =>
        .error ⟨200, (error.take 300).toString⟩

def LedgerRequest.check (request : LedgerRequest) (rows : LoadedRows) :
    Except Refusal LedgerDraft :=
  match request with
  | .recordInvoicePayment _ amountMinor paymentDate =>
    checkPayment rows amountMinor paymentDate
  | .reconcileBankRow _ _ => checkReconciliation rows
  | .createRefund _ amountMinor refundDate =>
    checkRefund rows amountMinor refundDate
  | .createCreditNote _ amountMinor today =>
    checkCreditNote rows amountMinor today
  | .deleteFinancePayment _ =>
    match rows.payment with
    | none => .error .internal
    | some payment =>
      .ok
        { writes := [.deletePayment payment]
          sync :=
            .stored payment.invoiceId ⟨404, "Invoice not found"⟩ }
  | .deleteFinanceInvoice _ =>
    match rows.invoice with
    | none => .error .internal
    | some invoice =>
      .ok
        { writes :=
            [.deleteInvoice invoice rows.payments rows.creditNotes] }
  | .cancelFinanceInvoice _ now => checkCancellation rows now
  | .sendFinanceInvoice _ resend delivery now =>
    checkSend rows resend delivery now
  | .bulkSendInvoice _ resend delivery now =>
    checkBulkSend rows resend delivery now
  | .createExpense expenseDate amountMinor taxMinor =>
    .ok
      { writes :=
          [.insertExpense
            ⟨0, expenseDate, amountMinor, taxMinor, false⟩] }
  | .voidExpense _ =>
    match rows.expense with
    | none => .error .internal
    | some expense => .ok { writes := [.voidExpense expense] }

namespace FinanceLedger

variable (ledger : FinanceLedger)

/-- The writes are flushed: the guard and the constraints pass them. -/
def flush (writes : List LedgerWrite) : Except Refusal FinanceLedger := do
  ledger.guardLockedFinancePeriods writes
  ledger.writeAll writes

def syncedInvoice (view : FinanceLedger) : SyncTarget → Except Refusal (Option FinanceInvoice)
  | .nothing => .ok none
  | .loaded invoice => .ok (some invoice)
  | .stored invoiceId missing =>
    match view.invoiceOf invoiceId with
    | some invoice => .ok (some invoice)
    | none => .error missing

/-- The writes of a draft with the status that is assigned in the same
transaction, flushed at the commit. -/
def synchronise (draft : LedgerDraft) : Except Refusal (List LedgerWrite) := do
  let view ← ledger.writeAll draft.writes
  match ← syncedInvoice view draft.sync with
  | none => return draft.writes
  | some invoice =>
    match view.syncedStatus invoice with
    | none => return draft.writes
    | some status =>
      let assigned := [LedgerWrite.updateInvoice invoice { invoice with status }]
      ledger.guardLockedFinancePeriods assigned
      return draft.writes ++ assigned

def perform (request : LedgerRequest) : Except Refusal FinanceLedger := do
  let rows ← request.reads.foldlM ledger.read {}
  let draft ← request.check rows
  let _ ← ledger.flush draft.writes
  let writes ← ledger.synchronise draft
  ledger.writeAll writes

def setPeriod (year month : ℕ) (locked : Bool) : FinanceLedger :=
  { ledger with
    periods := ledger.periods.map fun row =>
      if row.year = year ∧ row.month = month then { row with locked }
      else row }

def closePeriod (year month : ℕ) : FinanceLedger :=
  if year < 2000 ∨ 2100 < year ∨ month < 1 ∨ 12 < month then ledger
  else if ∃ row ∈ ledger.periods, row.year = year ∧ row.month = month then
    ledger.setPeriod year month true
  else
    { ledger with periods := ledger.periods ++ [⟨year, month, true⟩] }

def openPeriod (year month : ℕ) : FinanceLedger := ledger.setPeriod year month false

end FinanceLedger

inductive LedgerEvent where
  | request (request : LedgerRequest)
  | closePeriod (year month : ℕ)
  | openPeriod (year month : ℕ)

/-- Events one after the other; a refused call leaves the ledger as it is. -/
def FinanceLedger.handle (ledger : FinanceLedger) : LedgerEvent → FinanceLedger
  | .request request =>
    match ledger.perform request with
    | .ok after => after
    | .error _ => ledger
  | .closePeriod year month => ledger.closePeriod year month
  | .openPeriod year month => ledger.openPeriod year month

def FinanceLedger.Handles (before : FinanceLedger) (event : LedgerEvent)
    (after : FinanceLedger) : Prop :=
  after = before.handle event

inductive LedgerCall where
  | reading (request : LedgerRequest) (remaining : List LedgerRead) (rows : LoadedRows)
  | flushed (draft : LedgerDraft)
  | synchronised (writes : List LedgerWrite)

def LedgerCall.next (ledger : FinanceLedger) :
    LedgerCall → Except Refusal (LedgerCall ⊕ FinanceLedger)
  | .reading request (statement :: remaining) rows => do
      let loaded ← ledger.read rows statement
      return .inl (.reading request remaining loaded)
  | .reading request [] rows => do
      let draft ← request.check rows
      let _ ← ledger.flush draft.writes
      return .inl (.flushed draft)
  | .flushed draft => do
      let writes ← ledger.synchronise draft
      return .inl (.synchronised writes)
  | .synchronised writes => do
      let committed ← ledger.writeAll writes
      return .inr committed

structure LedgerState where
  ledger : FinanceLedger
  calls : List LedgerCall := []

inductive LedgerAction where
  | request (request : LedgerRequest)
  | advance (index : ℕ)
  | crash (index : ℕ)
  | closePeriod (year month : ℕ)
  | openPeriod (year month : ℕ)
  deriving DecidableEq

namespace LedgerState

variable (state : LedgerState)

def advance (index : ℕ) : LedgerState :=
  match state.calls[index]? with
  | none => state
  | some call =>
    match call.next state.ledger with
    | .ok (.inl following) => { state with calls := state.calls.set index following }
    | .ok (.inr committed) =>
      { state with
        ledger := committed
        calls := state.calls.eraseIdx index }
    | .error _ => { state with calls := state.calls.eraseIdx index }

def perform : LedgerAction → LedgerState
  | .request request =>
    { state with
      calls := state.calls ++ [.reading request request.reads {}] }
  | .advance index => state.advance index
  | .crash index => { state with calls := state.calls.eraseIdx index }
  | .closePeriod year month => { state with ledger := state.ledger.closePeriod year month }
  | .openPeriod year month => { state with ledger := state.ledger.openPeriod year month }

def Performs (before : LedgerState) (action : LedgerAction) (after : LedgerState) : Prop :=
  after = before.perform action

end LedgerState

end Ithute.Finance
