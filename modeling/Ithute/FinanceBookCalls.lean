import Ithute.Library.NumberedSeries
import Ithute.FinanceBooks

/-!
# Calls on the finance books

A call checks what it reads and writes its rows in one transaction.  Numbers
are drawn from the greatest stored number, approvals are asked for when an
invoice is sent, and a document that has been converted answers with the
invoice that it was converted to, as long as that exists.
-/

namespace Ithute.Books

open Finance NumberedSeries

/-- `int(number.rsplit("-", 1)[1])` -/
def counterOf (number : String) : Option ℕ :=
  let digits := afterLast '-' number.toList
  if digits ≠ [] ∧ digits.all Char.isDigit = true then
    some (digitsValue digits)
  else none

def marker (series : String) (year : ℕ) : String := series ++ "-" ++ toString year ++ "-"

def numbersLike (marker : String) (numbers : List String) : List String :=
  numbers.filter fun number => marker.toList.isPrefixOf number.toList

def nextNumber (series : String) (year : ℕ) (numbers : List String) : String :=
  marker series year ++
    zeroPadded 4 (nextCounter counterOf (numbersLike (marker series year) numbers))

def DocumentType.series : DocumentType → String
  | .quotation => "QT"
  | .proforma => "PF"

namespace FinanceBooks

variable (books : FinanceBooks)

def nextInvoiceNumber (year : ℕ) : String := nextNumber "IM" year books.invoiceNumbers

def nextDocumentNumber (documentType : DocumentType) (year : ℕ) : String :=
  nextNumber documentType.series year books.documentNumbers

def nextCreditNumber (year : ℕ) : String := nextNumber "CN" year books.creditNumbers

end FinanceBooks

theorem oneItem_bounds : 1 ≤ 1 ∧ 1 ≤ 10000 := by decide

theorem noTax_bound : 0 ≤ 2000000000 := by decide

structure LineItemInput where
  description : String
  details : String := ""
  quantity : ℕ := 1
  rateMinor : ℕ
  taxMinor : ℕ := 0
  quantity_bounds : 1 ≤ quantity ∧ quantity ≤ 10000 := by first | exact oneItem_bounds | decide
  rate_bound : rateMinor ≤ 2000000000 := by decide
  tax_bound : taxMinor ≤ 2000000000 := by first | exact noTax_bound | decide

/-- `FinanceInvoiceCreate`, and the part of it that `InvoiceEdit` has. -/
structure InvoiceInput where
  clientId : Option ℕ := none
  clientName : String
  recipientEmail : String
  currency : String := "LSL"
  line : LineItemInput

structure DocumentInput where
  documentType : DocumentType
  clientId : Option ℕ := none
  clientName : String
  recipientEmail : String
  currency : String := "LSL"
  items : List LineItemInput
  items_bounds : 1 ≤ items.length ∧ items.length ≤ 8 := by decide

structure ScheduleInput where
  invoice : InvoiceInput
  sendDay : ℕ
  sendDay_bounds : 1 ≤ sendDay ∧ sendDay ≤ 31 := by decide

def lowered (text : String) : String := String.ofList (text.toList.map Char.toLower)

def raised (text : String) : String := String.ofList (text.toList.map Char.toUpper)

def LineItemInput.row (line : LineItemInput) (position : ℕ) : FinanceItem where
  position := position
  description := stripText line.description
  details := stripText line.details
  quantity := line.quantity
  rateMinor := line.rateMinor
  taxMinor := line.taxMinor

/-- `_totals`: subtotal and tax. -/
def lineTotals (items : List LineItemInput) : ℕ × ℕ :=
  ((items.map fun item => item.quantity * item.rateMinor).sum,
    (items.map fun item => item.taxMinor).sum)

/-- `_replace_items` -/
def documentItems (items : List LineItemInput) : List FinanceItem :=
  (items.zipIdx 1).map fun (item, position) => item.row position

/-- What becomes of a message at the mail server. -/
inductive MailOutcome where
  | accepted
  /-- A `ValueError`. -/
  | invalid (error : String)
  | failed (error : String)

inductive BookRequest where
  | createFinanceInvoice (payload : InvoiceInput) (year : ℕ)
  | editDraftInvoice (invoiceId : ℕ) (payload : InvoiceInput)
  | deleteFinanceInvoice (invoiceId : ℕ)
  | cancelFinanceInvoice (invoiceId : ℕ)
  | sendFinanceInvoice (invoiceId : ℕ) (resend : Bool) (mail : MailOutcome) (now : ℤ)
  /-- One invoice of `bulk_send_invoices`, which commits after each. -/
  | bulkSendInvoice (invoiceId : ℕ) (resend : Bool) (mail : MailOutcome) (now : ℤ)
  /-- What the calls on payments and refunds leave on an invoice. -/
  | settleInvoice (invoiceId : ℕ) (payments : List ℕ) (refundedMinor : ℕ)
  | createCreditNote (invoiceId amountMinor year : ℕ)
  | createDocument (payload : DocumentInput) (year : ℕ)
  | createCorporateQuotation (clientName recipientEmail : String)
      (mailboxCount storageGb annualTotalMinor year : ℕ)
  | updateDocument (documentId : ℕ) (payload : DocumentInput)
  | deleteDocument (documentId : ℕ)
  | setDocumentStatus (documentId : ℕ) (accepted : Bool)
  | sendDocument (documentId : ℕ) (mail : MailOutcome)
  | convertDocument (documentId year : ℕ)
  | createSchedule (payload : ScheduleInput)
  | updateSchedule (scheduleId : ℕ) (enabled : Bool)
  | deleteSchedule (scheduleId : ℕ)
  /-- One schedule of `process_due_finance_schedules`, which commits after
  each. -/
  | processSchedule (scheduleId : ℕ) (today : AccountingDate) (mail : MailOutcome) (now : ℤ)
  | updateSettings (approvalEnabled : Bool) (thresholdMinor : ℕ)
  | requestApproval (invoiceId userId : ℕ)
  | decideApproval (approvalId : ℕ) (approved : Bool) (userId : ℕ)

namespace FinanceBooks

variable (books : FinanceBooks)

/-- `invoice_requires_approval` -/
def RequiresApproval (totalMinor : ℕ) : Prop :=
  books.setting.approvalEnabled = true ∧ books.setting.invoiceApprovalThresholdMinor ≤ totalMinor

instance (totalMinor : ℕ) : Decidable (books.RequiresApproval totalMinor) :=
  inferInstanceAs (Decidable (_ ∧ _))

def invoiceApproval (invoiceId : ℕ) : Option FinanceApprovalRequest :=
  books.approvals.find? fun row => decide (row.resourceId = invoiceId)

/-- `ensure_invoice_approved_for_send`, with the text of its error. -/
def ensureInvoiceApprovedForSend (invoice : FinanceInvoice) : Except String Unit :=
  if books.RequiresApproval invoice.totalMinor then
    match books.invoiceApproval invoice.id with
    | none =>
      .error s!"Invoice {invoice.invoiceNumber} requires approval before sending because it exceeds the configured approval threshold"
    | some approval =>
      if approval.status = .approved then .ok ()
      else
        .error s!"Invoice {invoice.invoiceNumber} approval status is {approval.status.text}; it cannot be sent until approved"
  else .ok ()

def requestInvoiceApproval (invoiceId userId : ℕ) : BookWrite :=
  match books.invoiceApproval invoiceId with
  | none => .insertApproval { resourceId := invoiceId, requestedByUserId := userId }
  | some row =>
    .saveApproval { row with
        status := .pending
        requestedByUserId := userId
        decidedByUserId := none }

def checkedClient : Option ℕ → Except Refusal Unit
  | none => .ok ()
  | some id =>
    if id ∈ books.clients then .ok ()
    else .error ⟨404, "Finance client not found"⟩

def loadedInvoice (id : ℕ) : Except Refusal FinanceInvoice :=
  match books.invoiceOf id with
  | some invoice => .ok invoice
  | none => .error ⟨404, "Invoice not found"⟩

def loadedDocument (id : ℕ) : Except Refusal FinanceDocument :=
  match books.documentOf id with
  | some document => .ok document
  | none => .error ⟨404, "Finance document not found"⟩

def checkedCurrency (currency detail : String) : Except Refusal Unit :=
  if raised (stripText currency) = "LSL" then .ok ()
  else .error ⟨422, detail⟩

/-- An invoice of one line, with the item that is inserted after it. -/
def lineInvoice (payload : InvoiceInput) (number : String) : FinanceInvoice :=
  let subtotal := payload.line.quantity * payload.line.rateMinor
  { invoiceNumber := number
    clientId := payload.clientId
    clientName := stripText payload.clientName
    recipientEmail := lowered payload.recipientEmail
    currency := raised (stripText payload.currency)
    description := stripText payload.line.description
    details := stripText payload.line.details
    quantity := payload.line.quantity
    rateMinor := payload.line.rateMinor
    taxMinor := payload.line.taxMinor
    subtotalMinor := subtotal
    totalMinor := subtotal + payload.line.taxMinor
    items := [payload.line.row 1] }

def createFinanceInvoice (payload : InvoiceInput) (year : ℕ) : Except Refusal (List BookWrite) := do
  checkedCurrency payload.currency "Finance invoices currently use LSL"
  books.checkedClient payload.clientId
  let invoice := lineInvoice payload (books.nextInvoiceNumber year)
  if invoice.Fits ∧ invoice.invoiceNumber ∈ books.invoiceNumbers then
    .error ⟨409, "Invoice number collision; please create the invoice again"⟩
  else return [.insertInvoice invoice]

def editedInvoice (invoice : FinanceInvoice) (payload : InvoiceInput) : FinanceInvoice :=
  let subtotal := payload.line.quantity * payload.line.rateMinor
  { invoice with
    clientName := stripText payload.clientName
    recipientEmail := lowered payload.recipientEmail
    description := stripText payload.line.description
    details := stripText payload.line.details
    quantity := payload.line.quantity
    rateMinor := payload.line.rateMinor
    taxMinor := payload.line.taxMinor
    subtotalMinor := subtotal
    totalMinor := subtotal + payload.line.taxMinor
    status := .draft
    items := [payload.line.row 1] }

def editDraftInvoice (invoiceId : ℕ) (payload : InvoiceInput) :
    Except Refusal (List BookWrite) := do
  let invoice ← books.loadedInvoice invoiceId
  if invoice.sentAt.isSome = true ∨ (invoice.status ≠ .draft ∧ invoice.status ≠ .failed) then
    .error ⟨409, "Sent or financially active invoices are locked. Use a credit note or replacement invoice instead."⟩
  else if invoice.payments ≠ [] ∨ ∃ note ∈ books.creditNotes, note.invoiceId = invoiceId then
    .error ⟨409, "Invoices with payments or credit notes are locked"⟩
  else if 1 < invoice.items.length then
    .error ⟨409, "Multi-item converted invoices are locked; edit the source quotation/pro-forma before conversion"⟩
  else return [.saveInvoice (editedInvoice invoice payload)]

/-- `sync_invoice_payment_status` -/
def synced (invoice : FinanceInvoice) (creditedMinor : ℕ) : FinanceInvoice :=
  if invoice.status = .cancelled then invoice
  else
    let paid := invoice.payments.sum - invoice.refundedMinor
    let adjusted := invoice.totalMinor - creditedMinor
    { invoice with
      status :=
        if adjusted = 0 ∧ 0 < creditedMinor then .credited
        else if adjusted ≤ paid ∧ 0 < adjusted then .paid
        else if 0 < paid then .partial_
        else if invoice.sentAt.isSome = true then .sent
        else if invoice.status = .paid ∨ invoice.status = .partial_ ∨
            invoice.status = .credited then .draft
        else invoice.status }

def createCreditNote (invoiceId amountMinor year : ℕ) : Except Refusal (List BookWrite) := do
  let invoice ← books.loadedInvoice invoiceId
  let credited := books.creditedMinor invoiceId
  if invoice.status = .cancelled then
    .error ⟨409, "Cannot issue a credit note against a cancelled invoice"⟩
  else if invoice.totalMinor - credited < amountMinor then
    .error ⟨422, "Credit amount cannot exceed the uncredited invoice total"⟩
  else
    .ok
      [.insertCreditNote
        { creditNumber := books.nextCreditNumber year
          invoiceId := invoiceId
          amountMinor := amountMinor },
        .saveInvoice (synced invoice (credited + amountMinor))]

def settleInvoice (invoiceId : ℕ) (payments : List ℕ) (refundedMinor : ℕ) :
    Except Refusal (List BookWrite) := do
  let invoice ← books.loadedInvoice invoiceId
  return [.saveInvoice (synced { invoice with payments := payments, refundedMinor := refundedMinor }
    (books.creditedMinor invoiceId))]

def cancelFinanceInvoice (invoiceId : ℕ) : Except Refusal (List BookWrite) := do
  let invoice ← books.loadedInvoice invoiceId
  if invoice.status = .paid ∨ invoice.status = .credited then
    .error ⟨409, "A settled invoice cannot be cancelled; use the credit-note record and audit trail instead"⟩
  else return [.saveInvoice { invoice with status := .cancelled }]

def messageOf (invoice : FinanceInvoice) : FinanceMessage where
  invoiceId := invoice.id
  invoiceNumber := invoice.invoiceNumber
  recipient := invoice.recipientEmail
  totalMinor := invoice.totalMinor

def deliveredInvoice (invoice : FinanceInvoice) (now : ℤ) : FinanceInvoice :=
  { invoice with status := .sent, sentAt := some now }

/-- `send_finance_invoice`; a delivery that fails is recorded after a
rollback. -/
def sendFinanceInvoice (invoiceId : ℕ) (resend : Bool) (mail : MailOutcome)
    (now : ℤ) : Except Refusal (List BookWrite) := do
  let invoice ← books.loadedInvoice invoiceId
  if invoice.status = .paid ∨ invoice.status = .cancelled ∨ invoice.status = .credited then
    .error ⟨409, s!"Invoice is {invoice.status.text} and cannot be sent"⟩
  else if invoice.status = .sent ∧ resend = false then
    .error ⟨409, "Invoice has already been sent; explicitly request a resend if required"⟩
  else
    match books.ensureInvoiceApprovedForSend invoice, mail with
    | .error error, _ => .error ⟨409, error⟩
    | .ok _, .accepted =>
      .ok [.sendMessage (messageOf invoice), .saveInvoice (deliveredInvoice invoice now)]
    | .ok _, .invalid _ | .ok _, .failed _ => .ok [.saveInvoice { invoice with status := .failed }]

def bulkSendInvoice (invoiceId : ℕ) (resend : Bool) (mail : MailOutcome)
    (now : ℤ) : Except Refusal (List BookWrite) := do
  let invoice ← books.loadedInvoice invoiceId
  if invoice.status = .paid ∨ invoice.status = .cancelled ∨ invoice.status = .credited then
    .error ⟨200, s!"Invoice is {invoice.status.text}"⟩
  else if invoice.status = .sent ∧ resend = false then
    .error ⟨200, "Already sent"⟩
  else
    match books.ensureInvoiceApprovedForSend invoice, mail with
    | .error error, _ => .error ⟨200, (error.take 300).toString⟩
    | .ok _, .accepted =>
      .ok [.sendMessage (messageOf invoice), .saveInvoice (deliveredInvoice invoice now)]
    | .ok _, .invalid error | .ok _, .failed error => .error ⟨200, (error.take 300).toString⟩

/-- The columns that a payload sets on a document, with its items. -/
def filledDocument (document : FinanceDocument) (payload : DocumentInput)
    (key : ℕ) : FinanceDocument :=
  let (subtotal, tax) := lineTotals payload.items
  { document with
    clientId := payload.clientId
    clientName := stripText payload.clientName
    recipientEmail := lowered payload.recipientEmail
    currency := raised (stripText payload.currency)
    subtotalMinor := subtotal
    taxMinor := tax
    totalMinor := subtotal + tax
    itemRows := (documentItems payload.items).map fun item => (key, item) }

def newDocument (documentType : DocumentType) (number : String) : FinanceDocument where
  documentNumber := number
  documentType := documentType
  clientId := none
  clientName := ""
  recipientEmail := ""
  currency := ""
  subtotalMinor := 0
  taxMinor := 0
  totalMinor := 0

def createDocument (payload : DocumentInput) (year : ℕ) : Except Refusal (List BookWrite) := do
  checkedCurrency payload.currency "Finance documents currently use LSL"
  books.checkedClient payload.clientId
  return [.insertDocument (filledDocument (newDocument payload.documentType
      (books.nextDocumentNumber payload.documentType year)) payload books.nextId)]

def corporateQuotation (clientName recipientEmail : String)
    (mailboxCount storageGb annualTotalMinor : ℕ) (number : String) (key : ℕ) :
    FinanceDocument where
  documentNumber := number
  documentType := .quotation
  clientId := none
  clientName := stripText clientName
  recipientEmail := lowered (stripText recipientEmail)
  currency := "LSL"
  subtotalMinor := annualTotalMinor
  taxMinor := 0
  totalMinor := annualTotalMinor
  itemRows :=
    [(key, { position := 1
             description := s!"iMail Corporate Email Hosting - {mailboxCount} x {storageGb} GB"
             details := s!"Recommended annual package; {mailboxCount * storageGb} GB total allocated mailbox capacity"
             quantity := 1
             rateMinor := annualTotalMinor
             taxMinor := 0 })]

def createCorporateQuotation (clientName recipientEmail : String)
    (mailboxCount storageGb annualTotalMinor year : ℕ) : List BookWrite :=
  [.insertDocument (corporateQuotation clientName recipientEmail mailboxCount
    storageGb annualTotalMinor (books.nextDocumentNumber .quotation year) books.nextId)]

def openDocument (documentId : ℕ) (detail : String) : Except Refusal FinanceDocument := do
  let document ← books.loadedDocument documentId
  if document.status = .converted then .error ⟨409, detail⟩
  else return document

def updateDocument (documentId : ℕ) (payload : DocumentInput) :
    Except Refusal (List BookWrite) := do
  let document ← books.openDocument documentId "Converted documents are locked"
  if document.documentType ≠ payload.documentType then
    .error ⟨409, "Document type cannot be changed after numbering; create a new document instead"⟩
  else
    books.checkedClient payload.clientId
    return [.saveDocument (filledDocument document payload books.nextId)]

def deleteDocument (documentId : ℕ) : Except Refusal (List BookWrite) := do
  let _ ← books.openDocument documentId "Converted documents cannot be deleted"
  return [.deleteDocument documentId]

def setDocumentStatus (documentId : ℕ) (accepted : Bool) : Except Refusal (List BookWrite) := do
  let document ← books.openDocument documentId "Converted documents are locked"
  return [.saveDocument { document with status := if accepted then .accepted else .rejected }]

/-- `send_document_endpoint` -/
def sendDocument (documentId : ℕ) (mail : MailOutcome) : Except Refusal (List BookWrite) := do
  let document ← books.openDocument documentId "Converted documents are locked"
  match mail with
  | .accepted => return [.saveDocument { document with status := .sent }]
  | .invalid error => .error ⟨409, error⟩
  | .failed error =>
    .error ⟨502, "Document email could not be sent: " ++ (error.take 300).toString⟩

def convertedInvoice (document : FinanceDocument) (items : List FinanceItem)
    (number : String) : Except Refusal FinanceInvoice :=
  match items with
  | [] => .error ⟨409, "Document has no line items"⟩
  | first :: _ =>
    .ok
      { invoiceNumber := number
        clientId := document.clientId
        clientName := document.clientName
        recipientEmail := document.recipientEmail
        currency := document.currency
        description := first.description
        details := first.details
        quantity := first.quantity
        rateMinor := first.rateMinor
        taxMinor := document.taxMinor
        subtotalMinor := document.subtotalMinor
        totalMinor := document.totalMinor
        items := items }

/-- The invoice that a document has been converted to, if it still exists. -/
def existingInvoice (document : FinanceDocument) : Option FinanceInvoice :=
  document.convertedInvoiceId.bind books.invoiceOf

/-- `convert_document_to_invoice` -/
def convertDocument (documentId year : ℕ) : Except Refusal (List BookWrite) := do
  let document ← books.loadedDocument documentId
  match books.existingInvoice document with
  | some _ => return []
  | none =>
    let invoice ← convertedInvoice document document.items (books.nextInvoiceNumber year)
    return [.insertConverted documentId invoice]

def monthLength (year month : ℕ) : ℕ :=
  if month = 2 then
    if year % 4 = 0 ∧ (year % 100 ≠ 0 ∨ year % 400 = 0) then 29 else 28
  else if month = 4 ∨ month = 6 ∨ month = 9 ∨ month = 11 then 30
  else 31

def effectiveSendDay (year month requestedDay : ℕ) : ℕ :=
  min (max 1 requestedDay) (monthLength year month)

def createSchedule (payload : ScheduleInput) : Except Refusal (List BookWrite) := do
  let invoice := payload.invoice
  checkedCurrency invoice.currency "Finance invoices currently use LSL"
  books.checkedClient invoice.clientId
  return [.insertSchedule
    { clientId := invoice.clientId
      clientName := stripText invoice.clientName
      recipientEmail := lowered invoice.recipientEmail
      currency := raised (stripText invoice.currency)
      description := stripText invoice.line.description
      details := stripText invoice.line.details
      quantity := invoice.line.quantity
      rateMinor := invoice.line.rateMinor
      taxMinor := invoice.line.taxMinor
      sendDay := payload.sendDay }]

def loadedSchedule (id : ℕ) : Except Refusal FinanceInvoiceSchedule :=
  match books.scheduleOf id with
  | some schedule => .ok schedule
  | none => .error ⟨404, "Invoice schedule not found"⟩

def updateSchedule (scheduleId : ℕ) (enabled : Bool) : Except Refusal (List BookWrite) := do
  let schedule ← books.loadedSchedule scheduleId
  return [.saveSchedule { schedule with enabled := enabled }]

def deleteSchedule (scheduleId : ℕ) : Except Refusal (List BookWrite) := do
  let _ ← books.loadedSchedule scheduleId
  return [.deleteSchedule scheduleId]

def makeInvoice (schedule : FinanceInvoiceSchedule) (year : ℕ) : FinanceInvoice :=
  let subtotal := schedule.quantity * schedule.rateMinor
  { id := books.nextId
    invoiceNumber := books.nextInvoiceNumber year
    clientId := schedule.clientId
    clientName := schedule.clientName
    recipientEmail := schedule.recipientEmail
    currency := schedule.currency
    description := schedule.description
    details := schedule.details
    quantity := schedule.quantity
    rateMinor := schedule.rateMinor
    taxMinor := schedule.taxMinor
    subtotalMinor := subtotal
    totalMinor := subtotal + schedule.taxMinor
    items :=
      [{ position := 1
         description := schedule.description
         details := schedule.details
         quantity := schedule.quantity
         rateMinor := schedule.rateMinor
         taxMinor := schedule.taxMinor }] }

/-- `process_due_finance_schedules`; an exception is rolled back, and the next
schedule follows. -/
def processSchedule (scheduleId : ℕ) (today : AccountingDate)
    (mail : MailOutcome) (now : ℤ) : List BookWrite :=
  match books.scheduleOf scheduleId with
  | none => []
  | some schedule =>
    if schedule.enabled = false ∨ schedule.lastSentPeriod = some today.periodKey ∨ today.day <
          effectiveSendDay today.year today.month schedule.sendDay then []
    else
      let invoice := books.makeInvoice schedule today.year
      if ¬ books.Admits (.insertInvoice invoice) then []
      else
        match books.ensureInvoiceApprovedForSend invoice, mail with
        | .ok _, .accepted =>
          [.sendMessage (messageOf invoice), .insertInvoice (deliveredInvoice invoice now),
            .saveSchedule { schedule with lastSentPeriod := some today.periodKey }]
        | .error _, _ | .ok _, .invalid _ | .ok _, .failed _ => []

def requestApproval (invoiceId userId : ℕ) : Except Refusal (List BookWrite) := do
  let invoice ← books.loadedInvoice invoiceId
  if invoice.status = .paid ∨ invoice.status = .cancelled ∨ invoice.status = .credited then
    .error ⟨409, s!"Invoice is {invoice.status.text} and cannot enter approval"⟩
  else return [books.requestInvoiceApproval invoiceId userId]

def decideApproval (approvalId : ℕ) (approved : Bool) (userId : ℕ) :
    Except Refusal (List BookWrite) := do
  match books.approvalOf approvalId with
  | none => .error ⟨404, "Approval request not found"⟩
  | some row =>
    let _ ← books.loadedInvoice row.resourceId
    return [.saveApproval { row with
        status := if approved then .approved else .rejected
        decidedByUserId := some userId }]

def check : BookRequest → Except Refusal (List BookWrite)
  | .createFinanceInvoice payload year => books.createFinanceInvoice payload year
  | .editDraftInvoice invoiceId payload => books.editDraftInvoice invoiceId payload
  | .deleteFinanceInvoice invoiceId => do
      let _ ← books.loadedInvoice invoiceId
      return [.deleteInvoice invoiceId]
  | .cancelFinanceInvoice invoiceId => books.cancelFinanceInvoice invoiceId
  | .sendFinanceInvoice invoiceId resend mail now =>
    books.sendFinanceInvoice invoiceId resend mail now
  | .bulkSendInvoice invoiceId resend mail now => books.bulkSendInvoice invoiceId resend mail now
  | .settleInvoice invoiceId payments refundedMinor =>
    books.settleInvoice invoiceId payments refundedMinor
  | .createCreditNote invoiceId amountMinor year =>
    books.createCreditNote invoiceId amountMinor year
  | .createDocument payload year => books.createDocument payload year
  | .createCorporateQuotation clientName recipientEmail mailboxCount storageGb
      annualTotalMinor year =>
      .ok (books.createCorporateQuotation clientName recipientEmail
        mailboxCount storageGb annualTotalMinor year)
  | .updateDocument documentId payload => books.updateDocument documentId payload
  | .deleteDocument documentId => books.deleteDocument documentId
  | .setDocumentStatus documentId accepted => books.setDocumentStatus documentId accepted
  | .sendDocument documentId mail => books.sendDocument documentId mail
  | .convertDocument documentId year => books.convertDocument documentId year
  | .createSchedule payload => books.createSchedule payload
  | .updateSchedule scheduleId enabled => books.updateSchedule scheduleId enabled
  | .deleteSchedule scheduleId => books.deleteSchedule scheduleId
  | .processSchedule scheduleId today mail now =>
    .ok (books.processSchedule scheduleId today mail now)
  | .updateSettings approvalEnabled thresholdMinor =>
    .ok [.saveSetting ⟨approvalEnabled, thresholdMinor⟩]
  | .requestApproval invoiceId userId => books.requestApproval invoiceId userId
  | .decideApproval approvalId approved userId => books.decideApproval approvalId approved userId

def perform (request : BookRequest) : Except Refusal FinanceBooks := do
  let writes ← books.check request
  books.writeAll writes

/-- Calls one after the other; a refused call leaves the books as they are. -/
def handle (request : BookRequest) : FinanceBooks :=
  match books.perform request with
  | .ok after => after
  | .error _ => books

def Handles (before : FinanceBooks) (request : BookRequest) (after : FinanceBooks) : Prop :=
  after = before.handle request

end FinanceBooks

end Ithute.Books
