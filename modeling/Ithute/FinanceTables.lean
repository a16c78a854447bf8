import Ithute.Library.Fallible
import Ithute.PythonValues
import Mathlib.Data.Int.Notation
import Mathlib.Data.List.Basic

/-!
# Finance tables

Invoices, what is paid, refunded and credited on them, bank transactions,
expenses and accounting periods.  A session writes rows and commits them
together; the writes that it flushes must not be dated in a locked period,
and the constraints of the database are checked at the commit.
-/

namespace Ithute.Finance

structure AccountingDate where
  year : ℕ
  month : ℕ
  day : ℕ
  deriving DecidableEq

def AccountingDate.periodKey (date : AccountingDate) : ℕ × ℕ := (date.year, date.month)

/-- A number with zeros in front, as by `:04d`. -/
def zeroPadded (width value : ℕ) : String :=
  String.ofList ((Nat.toDigits 10 value).leftpad width '0')

structure Refusal where
  status : ℕ
  detail : String

/-- An exception that no handler of the call turns into an answer. -/
def Refusal.internal : Refusal := ⟨500, "Internal Server Error"⟩

inductive FinanceInvoiceStatus where
  | draft | sent | failed | partial_ | paid | credited | cancelled
  deriving DecidableEq

def FinanceInvoiceStatus.text : FinanceInvoiceStatus → String
  | .draft => "draft"
  | .sent => "sent"
  | .failed => "failed"
  | .partial_ => "partial"
  | .paid => "paid"
  | .credited => "credited"
  | .cancelled => "cancelled"

structure FinanceInvoice where
  id : ℕ
  totalMinor : ℕ
  status : FinanceInvoiceStatus := .draft
  sentAt : Option ℤ := none
  cancelledAt : Option ℤ := none
  lastError : Option String := none
  dueDate : AccountingDate
  /-- The date of `created_at`. -/
  createdOn : AccountingDate
  deriving DecidableEq

structure FinancePayment where
  id : ℕ
  invoiceId : ℕ
  amountMinor : ℕ
  paymentDate : AccountingDate
  deriving DecidableEq

structure FinanceRefund where
  id : ℕ
  invoiceId : ℕ
  paymentId : ℕ
  amountMinor : ℕ
  refundDate : AccountingDate
  deriving DecidableEq

structure FinanceCreditNote where
  id : ℕ
  invoiceId : ℕ
  amountMinor : ℕ
  createdOn : AccountingDate

inductive BankTransactionStatus where
  | unmatched | matched | ignored
  deriving DecidableEq

structure FinanceBankTransaction where
  id : ℕ
  transactionDate : AccountingDate
  amountMinor : ℤ
  status : BankTransactionStatus := .unmatched
  matchedInvoiceId : Option ℕ := none
  matchedPaymentId : Option ℕ := none
  deriving DecidableEq

structure FinanceExpense where
  id : ℕ
  expenseDate : AccountingDate
  amountMinor : ℕ
  taxMinor : ℕ := 0
  void : Bool := false
  deriving DecidableEq

structure FinanceAccountingPeriod where
  year : ℕ
  month : ℕ
  locked : Bool := false

structure FinanceLedger where
  invoices : List FinanceInvoice := []
  payments : List FinancePayment := []
  refunds : List FinanceRefund := []
  creditNotes : List FinanceCreditNote := []
  transactions : List FinanceBankTransaction := []
  expenses : List FinanceExpense := []
  periods : List FinanceAccountingPeriod := []
  /-- A new row gets an identifier that no row has had. -/
  nextId : ℕ := 0
  /-- Each bank transaction that was reconciled, with its payment; kept beside
  the tables. -/
  reconciled : List (ℕ × ℕ) := []

/-- A row that a session inserts, changes or deletes, as it was loaded. -/
inductive LedgerWrite where
  | insertPayment (row : FinancePayment)
  /-- The payment that reconciles a bank transaction. -/
  | reconcilePayment (row : FinancePayment) (transaction : FinanceBankTransaction)
  | insertRefund (row : FinanceRefund)
  | insertCreditNote (row : FinanceCreditNote)
  | insertExpense (row : FinanceExpense)
  | updateInvoice (loaded saved : FinanceInvoice)
  | voidExpense (loaded : FinanceExpense)
  | deletePayment (loaded : FinancePayment)
  | deleteInvoice (loaded : FinanceInvoice)
      (payments : List FinancePayment) (creditNotes : List FinanceCreditNote)

/-- `_accounting_date` of the rows of a write. -/
def LedgerWrite.accountingDates : LedgerWrite → List AccountingDate
  | .insertPayment row => [row.paymentDate]
  | .reconcilePayment row transaction => [row.paymentDate, transaction.transactionDate]
  | .insertRefund row => [row.refundDate]
  | .insertCreditNote row => [row.createdOn]
  | .insertExpense row => [row.expenseDate]
  | .updateInvoice loaded _ => [loaded.createdOn]
  | .voidExpense loaded => [loaded.expenseDate]
  | .deletePayment loaded => [loaded.paymentDate]
  | .deleteInvoice loaded payments creditNotes =>
    loaded.createdOn :: payments.map (fun row => row.paymentDate) ++
      creditNotes.map fun row => row.createdOn

def FinanceInvoice.written (loaded saved stored : FinanceInvoice) : FinanceInvoice :=
  { stored with
    status := changedColumn loaded.status saved.status stored.status
    sentAt := changedColumn loaded.sentAt saved.sentAt stored.sentAt
    cancelledAt := changedColumn loaded.cancelledAt saved.cancelledAt stored.cancelledAt
    lastError := changedColumn loaded.lastError saved.lastError stored.lastError }

namespace FinanceLedger

variable (ledger : FinanceLedger)

def invoiceOf (id : ℕ) : Option FinanceInvoice :=
  ledger.invoices.find? fun row => decide (row.id = id)

def paymentOf (id : ℕ) : Option FinancePayment :=
  ledger.payments.find? fun row => decide (row.id = id)

def transactionOf (id : ℕ) : Option FinanceBankTransaction :=
  ledger.transactions.find? fun row => decide (row.id = id)

def expenseOf (id : ℕ) : Option FinanceExpense :=
  ledger.expenses.find? fun row => decide (row.id = id)

def paymentsOf (invoiceId : ℕ) : List FinancePayment :=
  ledger.payments.filter fun row => decide (row.invoiceId = invoiceId)

def creditNotesOf (invoiceId : ℕ) : List FinanceCreditNote :=
  ledger.creditNotes.filter fun row => decide (row.invoiceId = invoiceId)

/-- `period_is_locked` -/
def PeriodLocked (key : ℕ × ℕ) : Prop :=
  ∃ period ∈ ledger.periods, (period.year, period.month) = key ∧ period.locked = true

instance (key : ℕ × ℕ) : Decidable (ledger.PeriodLocked key) :=
  inferInstanceAs (Decidable (∃ period ∈ ledger.periods, _))

def lockedDetail (date : AccountingDate) (rest : String) : String :=
  s!"Accounting period {zeroPadded 4 date.year}-{zeroPadded 2 date.month}" ++ " is locked; " ++ rest

/-- `ensure_period_open`, with the answer of its caller. -/
def ensurePeriodOpen (date : AccountingDate) (operation : String) : Except Refusal Unit :=
  if ledger.PeriodLocked date.periodKey then
    .error ⟨409, lockedDetail date (operation ++ " is not allowed")⟩
  else .ok ()

def guardLockedFinancePeriods (writes : List LedgerWrite) : Except Refusal Unit :=
  match (writes.flatMap LedgerWrite.accountingDates).find? fun date =>
      decide (ledger.PeriodLocked date.periodKey) with
  | some date =>
    .error ⟨409, lockedDetail date "financial records in that period are read-only"⟩
  | none => .ok ()

def HasInvoice (id : ℕ) : Prop := ∃ row ∈ ledger.invoices, row.id = id

instance (id : ℕ) : Decidable (ledger.HasInvoice id) :=
  inferInstanceAs (Decidable (∃ row ∈ ledger.invoices, _))

def HasPayment (id : ℕ) : Prop := ∃ row ∈ ledger.payments, row.id = id

instance (id : ℕ) : Decidable (ledger.HasPayment id) :=
  inferInstanceAs (Decidable (∃ row ∈ ledger.payments, _))

def Admits : LedgerWrite → Prop
  | .insertPayment row | .reconcilePayment row _ => ledger.HasInvoice row.invoiceId
  | .insertRefund row => ledger.HasPayment row.paymentId ∧ ledger.HasInvoice row.invoiceId
  | .insertCreditNote row => ledger.HasInvoice row.invoiceId
  | .updateInvoice loaded saved => saved = loaded ∨ ledger.HasInvoice loaded.id
  | .insertExpense _ | .voidExpense _ | .deletePayment _
  | .deleteInvoice _ _ _ => True

instance (write : LedgerWrite) : Decidable (ledger.Admits write) := by
  cases write <;> dsimp only [Admits] <;> infer_instance

def addPayment (row : FinancePayment) : FinanceLedger :=
  { ledger with
    payments := ledger.payments ++ [{ row with id := ledger.nextId }]
    nextId := ledger.nextId + 1 }

/-- A payment goes with its refunds; the transaction that it was matched to
forgets it. -/
def removePayment (id : ℕ) : FinanceLedger :=
  { ledger with
    payments := ledger.payments.filter fun row => decide (row.id ≠ id)
    refunds := ledger.refunds.filter fun row => decide (row.paymentId ≠ id)
    transactions := ledger.transactions.map fun row =>
      if row.matchedPaymentId = some id then
        { row with matchedPaymentId := none }
      else row }

/-- An invoice goes with its payments, their refunds and its credit notes. -/
def removeInvoice (id : ℕ) : FinanceLedger :=
  { ledger with
    invoices := ledger.invoices.filter fun row => decide (row.id ≠ id)
    payments := ledger.payments.filter fun row => decide (row.invoiceId ≠ id)
    refunds := ledger.refunds.filter fun row =>
      decide (row.invoiceId ≠ id ∧ ∀ payment ∈ ledger.paymentsOf id, payment.id ≠ row.paymentId)
    creditNotes := ledger.creditNotes.filter fun row => decide (row.invoiceId ≠ id)
    transactions := ledger.transactions.map fun row =>
      { row with
        matchedInvoiceId :=
          if row.matchedInvoiceId = some id then none
          else row.matchedInvoiceId
        matchedPaymentId :=
          if ∃ payment ∈ ledger.paymentsOf id, row.matchedPaymentId = some payment.id then none
          else row.matchedPaymentId } }

def apply : LedgerWrite → FinanceLedger
  | .insertPayment row => ledger.addPayment row
  | .reconcilePayment row transaction =>
    { ledger.addPayment row with
      transactions := ledger.transactions.map fun stored =>
        if stored.id = transaction.id then
          { stored with
            status := .matched
            matchedInvoiceId := some row.invoiceId
            matchedPaymentId := some ledger.nextId }
        else stored
      reconciled := ledger.reconciled ++ [(transaction.id, ledger.nextId)] }
  | .insertRefund row =>
    { ledger with
      refunds := ledger.refunds ++ [{ row with id := ledger.nextId }]
      nextId := ledger.nextId + 1 }
  | .insertCreditNote row =>
    { ledger with
      creditNotes := ledger.creditNotes ++ [{ row with id := ledger.nextId }]
      nextId := ledger.nextId + 1 }
  | .insertExpense row =>
    { ledger with
      expenses := ledger.expenses ++ [{ row with id := ledger.nextId }]
      nextId := ledger.nextId + 1 }
  | .updateInvoice loaded saved =>
    { ledger with
      invoices := ledger.invoices.map fun stored =>
        if stored.id = loaded.id then loaded.written saved stored
        else stored }
  | .voidExpense loaded =>
    { ledger with
      expenses := ledger.expenses.map fun stored =>
        if stored.id = loaded.id then { stored with void := true }
        else stored }
  | .deletePayment loaded => ledger.removePayment loaded.id
  | .deleteInvoice loaded _ _ => ledger.removeInvoice loaded.id

def write (write : LedgerWrite) : Except Refusal FinanceLedger :=
  if ledger.Admits write then .ok (ledger.apply write)
  else .error .internal

def writeAll (writes : List LedgerWrite) : Except Refusal FinanceLedger :=
  writes.foldlM write ledger

end FinanceLedger

end Ithute.Finance
