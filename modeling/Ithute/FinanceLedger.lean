import Ithute.Library.GroupedTotals
import Ithute.FinanceTables

/-!
# The finance ledger

What an invoice has been paid, refunded and credited is added up from the
rows.  Its status follows from these totals, and from its delivery as long as
nothing has been paid.
-/

namespace Ithute.Finance

open GroupedTotals

namespace FinanceLedger

variable (ledger : FinanceLedger)

def grossPaidMinor (invoiceId : ℕ) : ℕ :=
  total (fun row => row.invoiceId) (fun row => row.amountMinor) ledger.payments invoiceId

def refundedMinor (invoiceId : ℕ) : ℕ :=
  total (fun row => row.invoiceId) (fun row => row.amountMinor) ledger.refunds invoiceId

def paymentRefundedMinor (paymentId : ℕ) : ℕ :=
  total (fun row => row.paymentId) (fun row => row.amountMinor) ledger.refunds paymentId

def creditedMinor (invoiceId : ℕ) : ℕ :=
  total (fun row => row.invoiceId) (fun row => row.amountMinor) ledger.creditNotes invoiceId

/-- `paid_minor`, which is not below zero. -/
def paidMinor (invoiceId : ℕ) : ℕ :=
  ledger.grossPaidMinor invoiceId - ledger.refundedMinor invoiceId

/-- `adjusted_total_minor`, which is not below zero. -/
def adjustedTotalMinor (invoice : FinanceInvoice) : ℕ :=
  invoice.totalMinor - ledger.creditedMinor invoice.id

def outstandingMinor (invoice : FinanceInvoice) : ℕ :=
  ledger.adjustedTotalMinor invoice - ledger.paidMinor invoice.id

def settledStatus (invoice : FinanceInvoice) : Option FinanceInvoiceStatus :=
  let paid := ledger.paidMinor invoice.id
  let credited := ledger.creditedMinor invoice.id
  let adjusted := ledger.adjustedTotalMinor invoice
  if adjusted = 0 ∧ 0 < credited then some .credited
  else if adjusted ≤ paid ∧ 0 < adjusted then some .paid
  else if 0 < paid then some .partial_
  else none

/-- The status that `sync_invoice_payment_status` assigns to a row, if it
assigns one. -/
def syncedStatus (invoice : FinanceInvoice) : Option FinanceInvoiceStatus :=
  if invoice.status = .cancelled then none
  else
    match ledger.settledStatus invoice with
    | some status => some status
    | none =>
      if invoice.sentAt.isSome then some .sent
      else if invoice.status = .paid ∨ invoice.status = .partial_ ∨
          invoice.status = .credited then some .draft
      else none

/-- An invoice that `aging_out` lists. -/
def Aged (invoice : FinanceInvoice) : Prop :=
  invoice.status ≠ .cancelled ∧ invoice.status ≠ .draft ∧
    invoice.status ≠ .failed ∧ 0 < ledger.outstandingMinor invoice

/-- An invoice that `process_due_payment_reminders` looks at. -/
def Reminded (invoice : FinanceInvoice) : Prop :=
  invoice.status ≠ .draft ∧ invoice.status ≠ .failed ∧
    invoice.status ≠ .cancelled ∧ invoice.status ≠ .paid ∧
    invoice.status ≠ .credited ∧ 0 < ledger.outstandingMinor invoice

end FinanceLedger

end Ithute.Finance
