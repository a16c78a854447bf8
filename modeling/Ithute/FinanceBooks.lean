import Mathlib.Data.List.Sort
import Mathlib.Data.String.Basic
import Ithute.FinanceTables
import Ithute.PythonValues

/-!
# The finance books

Invoices with their items and numbers, quotations and pro-forma documents,
credit notes, schedules and approvals.  What is only printed is left out, and
so are the payments beyond their amounts, which the ledger describes.
-/

namespace Ithute.Books

open Finance

/-- A row of `finance_invoice_items` or `finance_document_items`. -/
structure FinanceItem where
  position : ℕ
  description : String
  details : String
  quantity : ℕ
  rateMinor : ℕ
  taxMinor : ℕ
  deriving DecidableEq

structure FinanceInvoice where
  id : ℕ := 0
  invoiceNumber : String
  clientId : Option ℕ
  clientName : String
  recipientEmail : String
  currency : String
  description : String
  details : String
  quantity : ℕ
  rateMinor : ℕ
  taxMinor : ℕ
  subtotalMinor : ℕ
  totalMinor : ℕ
  status : FinanceInvoiceStatus := .draft
  sentAt : Option ℤ := none
  items : List FinanceItem := []
  /-- The amounts of its payments, and what was refunded of them. -/
  payments : List ℕ := []
  refundedMinor : ℕ := 0

inductive DocumentType where
  | quotation | proforma
  deriving DecidableEq

inductive DocumentStatus where
  | draft | sent | accepted | rejected | converted
  deriving DecidableEq

structure FinanceDocument where
  id : ℕ := 0
  documentNumber : String
  documentType : DocumentType
  status : DocumentStatus := .draft
  clientId : Option ℕ
  clientName : String
  recipientEmail : String
  currency : String
  subtotalMinor : ℕ
  taxMinor : ℕ
  totalMinor : ℕ
  convertedInvoiceId : Option ℕ := none
  /-- With the key that the insert of a row has drawn. -/
  itemRows : List (ℕ × FinanceItem) := []

/-- The items are loaded in the order of their positions. -/
def FinanceDocument.items (document : FinanceDocument) : List FinanceItem :=
  (document.itemRows.map fun row => row.2).insertionSort
    fun first second => first.position ≤ second.position

structure FinanceCreditNote where
  id : ℕ := 0
  creditNumber : String
  invoiceId : ℕ
  amountMinor : ℕ

structure FinanceInvoiceSchedule where
  id : ℕ := 0
  clientId : Option ℕ
  clientName : String
  recipientEmail : String
  currency : String
  description : String
  details : String
  quantity : ℕ
  rateMinor : ℕ
  taxMinor : ℕ
  sendDay : ℕ
  enabled : Bool := true
  lastSentPeriod : Option (ℕ × ℕ) := none

inductive ApprovalStatus where
  | pending | approved | rejected
  deriving DecidableEq

def ApprovalStatus.text : ApprovalStatus → String
  | .pending => "pending"
  | .approved => "approved"
  | .rejected => "rejected"

structure FinanceApprovalRequest where
  id : ℕ := 0
  resourceId : ℕ
  status : ApprovalStatus := .pending
  requestedByUserId : ℕ
  decidedByUserId : Option ℕ := none

structure FinanceGovernanceSetting where
  approvalEnabled : Bool := true
  invoiceApprovalThresholdMinor : ℕ := 500000

structure FinanceMessage where
  invoiceId : ℕ
  invoiceNumber : String
  recipient : String
  totalMinor : ℕ
  deriving DecidableEq

structure FinanceBooks where
  clients : List ℕ := []
  invoices : List FinanceInvoice := []
  documents : List FinanceDocument := []
  creditNotes : List FinanceCreditNote := []
  schedules : List FinanceInvoiceSchedule := []
  approvals : List FinanceApprovalRequest := []
  /-- Created with its defaults when it is first read. -/
  setting : FinanceGovernanceSetting := {}
  /-- A new row gets an identifier that no row has had. -/
  nextId : ℕ := 0
  outbox : List FinanceMessage := []
  /-- Each document with an invoice that was created from it; kept beside the
  tables. -/
  conversions : List (ℕ × ℕ) := []

def itemsTotal (items : List FinanceItem) : ℕ :=
  (items.map fun item => item.quantity * item.rateMinor + item.taxMinor).sum

/-- The greatest value of an `INTEGER` column. -/
def integerLimit : ℕ := 2147483647

def FinanceInvoice.Fits (row : FinanceInvoice) : Prop :=
  row.subtotalMinor ≤ integerLimit ∧ row.totalMinor ≤ integerLimit

instance (row : FinanceInvoice) : Decidable row.Fits := inferInstanceAs (Decidable (_ ∧ _))

def FinanceDocument.Fits (row : FinanceDocument) : Prop :=
  row.subtotalMinor ≤ integerLimit ∧ row.taxMinor ≤ integerLimit ∧ row.totalMinor ≤ integerLimit

instance (row : FinanceDocument) : Decidable row.Fits := inferInstanceAs (Decidable (_ ∧ _))

/-- A row that a session inserts, saves or deletes, or a message that it
sends. -/
inductive BookWrite where
  | insertInvoice (row : FinanceInvoice)
  | saveInvoice (row : FinanceInvoice)
  | deleteInvoice (id : ℕ)
  | insertDocument (row : FinanceDocument)
  | saveDocument (row : FinanceDocument)
  | deleteDocument (id : ℕ)
  /-- The invoice that a document is converted to. -/
  | insertConverted (documentId : ℕ) (row : FinanceInvoice)
  | insertCreditNote (row : FinanceCreditNote)
  | insertSchedule (row : FinanceInvoiceSchedule)
  | saveSchedule (row : FinanceInvoiceSchedule)
  | deleteSchedule (id : ℕ)
  | insertApproval (row : FinanceApprovalRequest)
  | saveApproval (row : FinanceApprovalRequest)
  | saveSetting (row : FinanceGovernanceSetting)
  | sendMessage (message : FinanceMessage)

namespace FinanceBooks

variable (books : FinanceBooks)

def invoiceOf (id : ℕ) : Option FinanceInvoice :=
  books.invoices.find? fun row => decide (row.id = id)

def documentOf (id : ℕ) : Option FinanceDocument :=
  books.documents.find? fun row => decide (row.id = id)

def scheduleOf (id : ℕ) : Option FinanceInvoiceSchedule :=
  books.schedules.find? fun row => decide (row.id = id)

def approvalOf (id : ℕ) : Option FinanceApprovalRequest :=
  books.approvals.find? fun row => decide (row.id = id)

def creditedMinor (invoiceId : ℕ) : ℕ :=
  ((books.creditNotes.filter fun row => decide (row.invoiceId = invoiceId)).map
    fun row => row.amountMinor).sum

def invoiceNumbers : List String := books.invoices.map fun row => row.invoiceNumber

def documentNumbers : List String := books.documents.map fun row => row.documentNumber

def creditNumbers : List String := books.creditNotes.map fun row => row.creditNumber

def Admits : BookWrite → Prop
  | .insertInvoice row => row.Fits ∧ row.invoiceNumber ∉ books.invoiceNumbers
  | .saveInvoice row => row.Fits ∧ ∃ stored ∈ books.invoices, stored.id = row.id
  | .insertConverted documentId row =>
    (row.Fits ∧ row.invoiceNumber ∉ books.invoiceNumbers) ∧
      ∃ stored ∈ books.documents, stored.id = documentId
  | .insertDocument row => row.Fits ∧ row.documentNumber ∉ books.documentNumbers
  | .saveDocument row => row.Fits ∧ ∃ stored ∈ books.documents, stored.id = row.id
  | .insertCreditNote row =>
    row.creditNumber ∉ books.creditNumbers ∧ ∃ stored ∈ books.invoices, stored.id = row.invoiceId
  | .insertApproval row => ∀ stored ∈ books.approvals, stored.resourceId ≠ row.resourceId
  | .saveApproval row => ∃ stored ∈ books.approvals, stored.id = row.id
  | .saveSchedule row => ∃ stored ∈ books.schedules, stored.id = row.id
  | .deleteInvoice _ | .deleteDocument _ | .insertSchedule _
  | .deleteSchedule _ | .saveSetting _ | .sendMessage _ => True

instance (write : BookWrite) : Decidable (books.Admits write) := by
  cases write <;> dsimp only [Admits] <;> infer_instance

def apply : BookWrite → FinanceBooks
  | .insertInvoice row =>
    { books with
      invoices := books.invoices ++ [{ row with id := books.nextId }]
      nextId := books.nextId + 1 }
  | .saveInvoice row =>
    { books with
      invoices := books.invoices.map fun stored => if stored.id = row.id then row else stored }
  | .deleteInvoice id =>
    { books with
      invoices := books.invoices.filter fun row => decide (row.id ≠ id)
      creditNotes := books.creditNotes.filter fun row => decide (row.invoiceId ≠ id)
      documents := books.documents.map fun row =>
        if row.convertedInvoiceId = some id then
          { row with convertedInvoiceId := none }
        else row }
  | .insertConverted documentId row =>
    { books with
      invoices := books.invoices ++ [{ row with id := books.nextId }]
      documents := books.documents.map fun stored =>
        if stored.id = documentId then
          { stored with
            convertedInvoiceId := some books.nextId
            status := .converted }
        else stored
      conversions := books.conversions ++ [(documentId, books.nextId)]
      nextId := books.nextId + 1 }
  | .insertDocument row =>
    { books with
      documents := books.documents ++ [{ row with id := books.nextId }]
      nextId := books.nextId + 1 }
  | .saveDocument row =>
    { books with
      documents := books.documents.map fun stored => if stored.id = row.id then row else stored
      nextId := books.nextId + 1 }
  | .deleteDocument id =>
    { books with
      documents := books.documents.filter fun row => decide (row.id ≠ id) }
  | .insertCreditNote row =>
    { books with
      creditNotes := books.creditNotes ++ [{ row with id := books.nextId }]
      nextId := books.nextId + 1 }
  | .insertSchedule row =>
    { books with
      schedules := books.schedules ++ [{ row with id := books.nextId }]
      nextId := books.nextId + 1 }
  | .saveSchedule row =>
    { books with
      schedules := books.schedules.map fun stored => if stored.id = row.id then row else stored }
  | .deleteSchedule id =>
    { books with
      schedules := books.schedules.filter fun row => decide (row.id ≠ id) }
  | .insertApproval row =>
    { books with
      approvals := books.approvals ++ [{ row with id := books.nextId }]
      nextId := books.nextId + 1 }
  | .saveApproval row =>
    { books with
      approvals := books.approvals.map fun stored => if stored.id = row.id then row else stored }
  | .saveSetting row => { books with setting := row }
  | .sendMessage message => { books with outbox := books.outbox ++ [message] }

def write (write : BookWrite) : Except Refusal FinanceBooks :=
  if books.Admits write then .ok (books.apply write)
  else .error .internal

def writeAll (writes : List BookWrite) : Except Refusal FinanceBooks := writes.foldlM write books

end FinanceBooks

end Ithute.Books
