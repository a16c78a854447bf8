import Ithute.Library.UniqueRows
import Ithute.FinanceBookCalls

/-!
# Steps of the finance books

What each call writes when it is not refused, by the rows that it has read.
-/

namespace Ithute.Books

open Fallible Finance UniqueRows

namespace FinanceBooks

variable {books after : FinanceBooks} {id : ℕ}

theorem invoiceOf_spec {invoice : FinanceInvoice}
    (found : books.invoiceOf id = some invoice) : invoice ∈ books.invoices ∧ invoice.id = id :=
  find?_decide found

variable {document : FinanceDocument}

theorem documentOf_spec
    (found : books.documentOf id = some document) : document ∈ books.documents ∧ document.id = id :=
  find?_decide found

theorem approvalOf_spec {approval : FinanceApprovalRequest}
    (found : books.approvalOf id = some approval) : approval ∈ books.approvals ∧ approval.id = id :=
  find?_decide found

theorem invoiceApproval_spec {approval : FinanceApprovalRequest}
    (found : books.invoiceApproval id = some approval) :
    approval ∈ books.approvals ∧ approval.resourceId = id :=
  find?_decide found

theorem loadedInvoice_ok {invoice : FinanceInvoice}
    (loaded : books.loadedInvoice id = .ok invoice) : books.invoiceOf id = some invoice := by
  unfold loadedInvoice at loaded
  split at loaded
  · cases loaded
    assumption
  · cases loaded

theorem loadedDocument_ok
    (loaded : books.loadedDocument id = .ok document) : books.documentOf id = some document := by
  unfold loadedDocument at loaded
  split at loaded
  · cases loaded
    assumption
  · cases loaded

theorem openDocument_ok {detail : String} (opened : books.openDocument id detail = .ok document) :
    books.documentOf id = some document ∧ document.status ≠ .converted := by
  obtain ⟨loaded, read, rest⟩ := bind_ok opened
  obtain ⟨notConverted, rest⟩ := guard_ok rest
  cases rest
  exact ⟨loadedDocument_ok read, notConverted⟩

theorem synced_eq (invoice : FinanceInvoice) (creditedMinor : ℕ) :
    ∃ status, synced invoice creditedMinor = { invoice with status } := by
  unfold synced
  split
  · exact ⟨invoice.status, rfl⟩
  · exact ⟨_, rfl⟩

/-- The writes of a call that is not refused. -/
inductive Checked (books : FinanceBooks) : BookRequest → List BookWrite → Prop
  | create {payload : InvoiceInput} {year : ℕ} : Checked books (.createFinanceInvoice payload year)
        [.insertInvoice (lineInvoice payload (books.nextInvoiceNumber year))]
  | edit {invoiceId : ℕ} {payload : InvoiceInput} {invoice : FinanceInvoice}
      (found : books.invoiceOf invoiceId = some invoice) :
      Checked books (.editDraftInvoice invoiceId payload)
        [.saveInvoice (editedInvoice invoice payload)]
  | deleteInvoice {invoiceId : ℕ} {invoice : FinanceInvoice}
      (found : books.invoiceOf invoiceId = some invoice) :
      Checked books (.deleteFinanceInvoice invoiceId) [.deleteInvoice invoiceId]
  | cancel {invoiceId : ℕ} {invoice : FinanceInvoice}
      (found : books.invoiceOf invoiceId = some invoice) :
      Checked books (.cancelFinanceInvoice invoiceId)
        [.saveInvoice { invoice with status := .cancelled }]
  | send {invoiceId : ℕ} {resend : Bool} {now : ℤ} {invoice : FinanceInvoice}
      (found : books.invoiceOf invoiceId = some invoice)
      (ensured : books.ensureInvoiceApprovedForSend invoice = .ok ()) :
      Checked books (.sendFinanceInvoice invoiceId resend .accepted now)
        [.sendMessage (messageOf invoice), .saveInvoice (deliveredInvoice invoice now)]
  | sendFailed {invoiceId : ℕ} {resend : Bool} {mail : MailOutcome} {now : ℤ}
      {invoice : FinanceInvoice} (found : books.invoiceOf invoiceId = some invoice) :
      Checked books (.sendFinanceInvoice invoiceId resend mail now)
        [.saveInvoice { invoice with status := .failed }]
  | bulkSend {invoiceId : ℕ} {resend : Bool} {now : ℤ} {invoice : FinanceInvoice}
      (found : books.invoiceOf invoiceId = some invoice)
      (ensured : books.ensureInvoiceApprovedForSend invoice = .ok ()) :
      Checked books (.bulkSendInvoice invoiceId resend .accepted now)
        [.sendMessage (messageOf invoice), .saveInvoice (deliveredInvoice invoice now)]
  | settle {invoiceId refundedMinor : ℕ} {payments : List ℕ}
      {invoice : FinanceInvoice} {status : FinanceInvoiceStatus}
      (found : books.invoiceOf invoiceId = some invoice) :
      Checked books (.settleInvoice invoiceId payments refundedMinor)
        [.saveInvoice { invoice with payments, refundedMinor, status }]
  | credit {invoiceId amountMinor year : ℕ} {invoice : FinanceInvoice}
      {status : FinanceInvoiceStatus} (found : books.invoiceOf invoiceId = some invoice) :
      Checked books (.createCreditNote invoiceId amountMinor year) [.insertCreditNote
          { creditNumber := books.nextCreditNumber year
            invoiceId := invoiceId
            amountMinor := amountMinor },
          .saveInvoice { invoice with status }]
  | createDocument {payload : DocumentInput} {year : ℕ} :
      Checked books (.createDocument payload year) [.insertDocument (filledDocument
          (newDocument payload.documentType
            (books.nextDocumentNumber payload.documentType year)) payload books.nextId)]
  | quotation {clientName recipientEmail : String}
      {mailboxCount storageGb annualTotalMinor year : ℕ} : Checked books
        (.createCorporateQuotation clientName recipientEmail mailboxCount
          storageGb annualTotalMinor year)
        [.insertDocument (corporateQuotation clientName recipientEmail
          mailboxCount storageGb annualTotalMinor (books.nextDocumentNumber .quotation year)
          books.nextId)]
  | updateDocument {documentId : ℕ} {payload : DocumentInput} {document : FinanceDocument}
      (found : books.documentOf documentId = some document)
      (notConverted : document.status ≠ .converted) :
      Checked books (.updateDocument documentId payload)
        [.saveDocument (filledDocument document payload books.nextId)]
  | deleteDocument {documentId : ℕ} {document : FinanceDocument}
      (found : books.documentOf documentId = some document)
      (notConverted : document.status ≠ .converted) :
      Checked books (.deleteDocument documentId) [.deleteDocument documentId]
  | documentStatus {documentId : ℕ} {accepted : Bool}
      {document : FinanceDocument} {status : DocumentStatus}
      (found : books.documentOf documentId = some document)
      (notConverted : document.status ≠ .converted) :
      Checked books (.setDocumentStatus documentId accepted)
        [.saveDocument { document with status }]
  | sendDocument {documentId : ℕ} {document : FinanceDocument}
      (found : books.documentOf documentId = some document)
      (notConverted : document.status ≠ .converted) :
      Checked books (.sendDocument documentId .accepted)
        [.saveDocument { document with status := .sent }]
  | convertedBefore {documentId year : ℕ} {document : FinanceDocument} {invoice : FinanceInvoice}
      (found : books.documentOf documentId = some document)
      (existing : books.existingInvoice document = some invoice) :
      Checked books (.convertDocument documentId year) []
  | convert {documentId year : ℕ} {document : FinanceDocument} {invoice : FinanceInvoice}
      (found : books.documentOf documentId = some document)
      (none : books.existingInvoice document = none)
      (converts : convertedInvoice document document.items
        (books.nextInvoiceNumber year) = .ok invoice) :
      Checked books (.convertDocument documentId year) [.insertConverted documentId invoice]
  | createSchedule {payload : ScheduleInput} {row : FinanceInvoiceSchedule} :
      Checked books (.createSchedule payload) [.insertSchedule row]
  | updateSchedule {scheduleId : ℕ} {enabled : Bool} {row : FinanceInvoiceSchedule} :
      Checked books (.updateSchedule scheduleId enabled) [.saveSchedule row]
  | deleteSchedule {scheduleId : ℕ} :
      Checked books (.deleteSchedule scheduleId) [.deleteSchedule scheduleId]
  | skipSchedule {scheduleId : ℕ} {today : AccountingDate} {mail : MailOutcome} {now : ℤ} :
      Checked books (.processSchedule scheduleId today mail now) []
  | processSchedule {scheduleId : ℕ} {today : AccountingDate} {now : ℤ}
      {schedule saved : FinanceInvoiceSchedule}
      (due : books.processSchedule scheduleId today .accepted now ≠ [])
      (ensured : books.ensureInvoiceApprovedForSend
        (books.makeInvoice schedule today.year) = .ok ()) :
      Checked books (.processSchedule scheduleId today .accepted now)
        [.sendMessage (messageOf (books.makeInvoice schedule today.year)),
          .insertInvoice (deliveredInvoice (books.makeInvoice schedule today.year) now),
          .saveSchedule saved]
  | settings {approvalEnabled : Bool} {thresholdMinor : ℕ} :
      Checked books (.updateSettings approvalEnabled thresholdMinor)
        [.saveSetting ⟨approvalEnabled, thresholdMinor⟩]
  | request {invoiceId userId : ℕ} {invoice : FinanceInvoice}
      (found : books.invoiceOf invoiceId = some invoice) :
      Checked books (.requestApproval invoiceId userId)
        [books.requestInvoiceApproval invoiceId userId]
  | decide {approvalId userId : ℕ} {approved : Bool} {row : FinanceApprovalRequest}
      (found : books.approvalOf approvalId = some row) :
      Checked books (.decideApproval approvalId approved userId) [.saveApproval { row with
            status := if approved then .approved else .rejected
            decidedByUserId := some userId }]

variable {request : BookRequest}

section Endpoints

variable {writes : List BookWrite} {invoiceId : ℕ} {resend : Bool} {mail : MailOutcome} {now : ℤ}

theorem checked_edit {payload : InvoiceInput}
    (accepted : books.editDraftInvoice invoiceId payload = .ok writes) :
    Checked books (.editDraftInvoice invoiceId payload) writes := by
  obtain ⟨invoice, loaded, rest⟩ := bind_ok accepted
  replace rest := (guard_ok rest).2
  replace rest := (guard_ok rest).2
  replace rest := (guard_ok rest).2
  cases rest
  exact .edit (loadedInvoice_ok loaded)

theorem checked_send (accepted : books.sendFinanceInvoice invoiceId resend mail now = .ok writes) :
    Checked books (.sendFinanceInvoice invoiceId resend mail now) writes := by
  obtain ⟨invoice, loaded, rest⟩ := bind_ok accepted
  replace rest := (guard_ok rest).2
  replace rest := (guard_ok rest).2
  split at rest
  · cases rest
  · rename_i ensured
    cases rest
    exact .send (loadedInvoice_ok loaded) ensured
  · cases rest
    exact .sendFailed (loadedInvoice_ok loaded)
  · cases rest
    exact .sendFailed (loadedInvoice_ok loaded)

theorem checked_bulkSend (accepted : books.bulkSendInvoice invoiceId resend mail now = .ok writes) :
    Checked books (.bulkSendInvoice invoiceId resend mail now) writes := by
  obtain ⟨invoice, loaded, rest⟩ := bind_ok accepted
  replace rest := (guard_ok rest).2
  replace rest := (guard_ok rest).2
  split at rest
  · cases rest
  · rename_i ensured
    cases rest
    exact .bulkSend (loadedInvoice_ok loaded) ensured
  · cases rest
  · cases rest

theorem checked_credit {amountMinor year : ℕ}
    (accepted : books.createCreditNote invoiceId amountMinor year = .ok writes) :
    Checked books (.createCreditNote invoiceId amountMinor year) writes := by
  obtain ⟨invoice, loaded, rest⟩ := bind_ok accepted
  replace rest := (guard_ok rest).2
  replace rest := (guard_ok rest).2
  cases rest
  obtain ⟨status, same⟩ := synced_eq invoice (books.creditedMinor invoiceId + amountMinor)
  rw [same]
  exact .credit (loadedInvoice_ok loaded)

theorem checked_convert {documentId year : ℕ}
    (accepted : books.convertDocument documentId year = .ok writes) :
    Checked books (.convertDocument documentId year) writes := by
  obtain ⟨document, loaded, rest⟩ := bind_ok accepted
  split at rest
  · rename_i existing
    cases rest
    exact .convertedBefore (loadedDocument_ok loaded) existing
  · rename_i none
    obtain ⟨invoice, converts, rest⟩ := bind_ok rest
    cases rest
    exact .convert (loadedDocument_ok loaded) none converts

theorem checked_schedule {scheduleId : ℕ} {today : AccountingDate} :
    Checked books (.processSchedule scheduleId today mail now)
      (books.processSchedule scheduleId today mail now) := by
  generalize processed : books.processSchedule scheduleId today mail now = writes
  have unfolded := processed
  unfold processSchedule at unfolded
  split at unfolded
  · cases unfolded
    exact .skipSchedule
  · split at unfolded
    · cases unfolded
      exact .skipSchedule
    · dsimp only at unfolded
      split at unfolded
      · cases unfolded
        exact .skipSchedule
      · split at unfolded
        · rename_i ensured
          cases unfolded
          refine .processSchedule ?_ ensured
          rw [processed]
          exact List.cons_ne_nil _ _
        · cases unfolded
          exact .skipSchedule
        · cases unfolded
          exact .skipSchedule
        · cases unfolded
          exact .skipSchedule

end Endpoints

theorem checked_of_check {writes : List BookWrite}
    (accepted : books.check request = .ok writes) : Checked books request writes := by
  cases request with
  | createFinanceInvoice payload year =>
    obtain ⟨_, _, rest⟩ := bind_ok accepted
    obtain ⟨_, _, rest⟩ := bind_ok rest
    replace rest := (guard_ok rest).2
    cases rest
    exact .create
  | editDraftInvoice invoiceId payload => exact checked_edit accepted
  | deleteFinanceInvoice invoiceId =>
    obtain ⟨invoice, loaded, rest⟩ := bind_ok accepted
    cases rest
    exact .deleteInvoice (loadedInvoice_ok loaded)
  | cancelFinanceInvoice invoiceId =>
    obtain ⟨invoice, loaded, rest⟩ := bind_ok accepted
    replace rest := (guard_ok rest).2
    cases rest
    exact .cancel (loadedInvoice_ok loaded)
  | sendFinanceInvoice invoiceId resend mail now => exact checked_send accepted
  | bulkSendInvoice invoiceId resend mail now => exact checked_bulkSend accepted
  | settleInvoice invoiceId payments refundedMinor =>
    obtain ⟨invoice, loaded, rest⟩ := bind_ok accepted
    cases rest
    obtain ⟨status, same⟩ := synced_eq
      { invoice with payments := payments, refundedMinor := refundedMinor }
      (books.creditedMinor invoiceId)
    rw [same]
    exact @Checked.settle books invoiceId refundedMinor payments invoice
      status (loadedInvoice_ok loaded)
  | createCreditNote invoiceId amountMinor year => exact checked_credit accepted
  | createDocument payload year =>
    obtain ⟨_, _, rest⟩ := bind_ok accepted
    obtain ⟨_, _, rest⟩ := bind_ok rest
    cases rest
    exact .createDocument
  | createCorporateQuotation clientName recipientEmail mailboxCount storageGb
      annualTotalMinor year =>
      cases accepted
      exact .quotation
  | updateDocument documentId payload =>
    obtain ⟨document, opened, rest⟩ := bind_ok accepted
    replace rest := (guard_ok rest).2
    obtain ⟨_, _, rest⟩ := bind_ok rest
    cases rest
    exact .updateDocument (openDocument_ok opened).1 (openDocument_ok opened).2
  | deleteDocument documentId =>
    obtain ⟨document, opened, rest⟩ := bind_ok accepted
    cases rest
    exact .deleteDocument (openDocument_ok opened).1 (openDocument_ok opened).2
  | setDocumentStatus documentId status =>
    obtain ⟨document, opened, rest⟩ := bind_ok accepted
    cases rest
    exact .documentStatus (openDocument_ok opened).1 (openDocument_ok opened).2
  | sendDocument documentId mail =>
    obtain ⟨document, opened, rest⟩ := bind_ok accepted
    cases mail with
    | accepted =>
      cases rest
      exact .sendDocument (openDocument_ok opened).1 (openDocument_ok opened).2
    | invalid error | failed error => cases rest
  | convertDocument documentId year => exact checked_convert accepted
  | createSchedule payload =>
    obtain ⟨_, _, rest⟩ := bind_ok accepted
    obtain ⟨_, _, rest⟩ := bind_ok rest
    cases rest
    exact .createSchedule
  | updateSchedule scheduleId enabled =>
    obtain ⟨schedule, _, rest⟩ := bind_ok accepted
    cases rest
    exact .updateSchedule
  | deleteSchedule scheduleId =>
    obtain ⟨schedule, _, rest⟩ := bind_ok accepted
    cases rest
    exact .deleteSchedule
  | processSchedule scheduleId today mail now =>
    cases accepted
    exact checked_schedule
  | updateSettings approvalEnabled thresholdMinor =>
    cases accepted
    exact .settings
  | requestApproval invoiceId userId =>
    obtain ⟨invoice, loaded, rest⟩ := bind_ok accepted
    replace rest := (guard_ok rest).2
    cases rest
    exact .request (loadedInvoice_ok loaded)
  | decideApproval approvalId approved userId =>
    change books.decideApproval approvalId approved userId = .ok writes at accepted
    unfold decideApproval at accepted
    split at accepted
    · cases accepted
    · rename_i row found
      obtain ⟨_, _, rest⟩ := bind_ok accepted
      cases rest
      exact .decide found

variable {write : BookWrite}

theorem write_ok (accepted : books.write write = .ok after) :
    books.Admits write ∧ after = books.apply write := by
  unfold FinanceBooks.write at accepted
  split at accepted
  · rename_i admits
    cases accepted
    exact ⟨admits, rfl⟩
  · cases accepted

theorem writeAll_cons {writes : List BookWrite}
    (accepted : books.writeAll (write :: writes) = .ok after) :
    books.Admits write ∧ (books.apply write).writeAll writes = .ok after := by
  unfold writeAll at accepted
  rw [List.foldlM_cons] at accepted
  obtain ⟨next, written, rest⟩ := bind_ok accepted
  obtain ⟨admits, rfl⟩ := write_ok written
  exact ⟨admits, rest⟩

theorem writeAll_nil (accepted : books.writeAll [] = .ok after) : after = books := by
  cases accepted
  rfl

theorem writeAll_apply {writes : List BookWrite}
    (accepted : books.writeAll writes = .ok after) : after = writes.foldl apply books := by
  induction writes generalizing books with
  | nil => exact writeAll_nil accepted
  | cons write writes ih => exact ih (writeAll_cons accepted).2

theorem perform_ok (accepted : books.perform request = .ok after) :
    ∃ writes, Checked books request writes ∧ books.writeAll writes = .ok after := by
  obtain ⟨writes, checked, written⟩ := bind_ok accepted
  exact ⟨writes, checked_of_check checked, written⟩

theorem writeAll_invariant {holds : FinanceBooks → Prop}
    (preserved : ∀ books write, holds books → books.Admits write → holds (books.apply write))
    {writes : List BookWrite} (initial : holds books)
    (accepted : books.writeAll writes = .ok after) : holds after := by
  induction writes generalizing books with
  | nil =>
    rw [writeAll_nil accepted]
    exact initial
  | cons write writes ih =>
    obtain ⟨admits, rest⟩ := writeAll_cons accepted
    exact ih (preserved books write initial admits) rest

theorem handle_single (checked : books.check request = .ok [write]) (admits : books.Admits write) :
    books.handle request = books.apply write := by
  have written : books.writeAll [write] = .ok (books.apply write) := by
    unfold writeAll
    rw [List.foldlM_cons, show books.write write = .ok _ from if_pos admits]
    rfl
  have performed : books.perform request = .ok (books.apply write) := by
    unfold perform
    rw [checked]
    exact written
  unfold handle
  rw [performed]

theorem handles_cases (step : books.Handles request after) :
    after = books ∨ books.perform request = .ok after := by
  unfold Handles handle at step
  split at step
  · rename_i performed
    rw [step]
    exact .inr performed
  · exact .inl step

structure Identified (books : FinanceBooks) : Prop where
  invoices : Issued (fun row => row.id) books.nextId books.invoices
  documents : Issued (fun row => row.id) books.nextId books.documents
  approvals : Issued (fun row => row.id) books.nextId books.approvals

theorem Identified.of_next (identified : books.Identified)
    (invoices : after.invoices = books.invoices) (documents : after.documents = books.documents)
    (approvals : after.approvals = books.approvals)
    (nextId : books.nextId ≤ after.nextId) : after.Identified := by
  constructor
  · rw [invoices]
    exact identified.invoices.mono nextId
  · rw [documents]
    exact identified.documents.mono nextId
  · rw [approvals]
    exact identified.approvals.mono nextId

theorem Identified.apply (identified : books.Identified) (write : BookWrite) :
    (books.apply write).Identified := by
  have nextLe : books.nextId ≤ books.nextId + 1 := Nat.le_succ _
  cases write with
  | insertInvoice row =>
    exact ⟨identified.invoices.insert rfl, identified.documents.mono nextLe,
      identified.approvals.mono nextLe⟩
  | saveInvoice row =>
    exact ⟨identified.invoices.replace row, identified.documents, identified.approvals⟩
  | deleteInvoice id =>
    refine ⟨identified.invoices.filter _, identified.documents.map ?_, identified.approvals⟩
    intro row _
    split <;> rfl
  | insertConverted documentId row =>
    refine ⟨identified.invoices.insert rfl, ?_, identified.approvals.mono nextLe⟩
    refine (identified.documents.mono nextLe).map ?_
    intro row _
    split <;> rfl
  | insertDocument row =>
    exact ⟨identified.invoices.mono nextLe, identified.documents.insert rfl,
      identified.approvals.mono nextLe⟩
  | saveDocument row =>
    exact ⟨identified.invoices.mono nextLe, (identified.documents.mono nextLe).replace row,
      identified.approvals.mono nextLe⟩
  | deleteDocument id =>
    exact ⟨identified.invoices, identified.documents.filter _, identified.approvals⟩
  | insertApproval row =>
    exact ⟨identified.invoices.mono nextLe, identified.documents.mono nextLe,
      identified.approvals.insert rfl⟩
  | saveApproval row =>
    exact ⟨identified.invoices, identified.documents, identified.approvals.replace row⟩
  | insertCreditNote row | insertSchedule row => exact identified.of_next rfl rfl rfl nextLe
  | saveSchedule row | deleteSchedule id | saveSetting row
  | sendMessage message => exact identified.of_next rfl rfl rfl (Nat.le_refl _)

theorem Identified.perform (identified : books.Identified)
    (accepted : books.perform request = .ok after) : after.Identified := by
  obtain ⟨writes, _, written⟩ := perform_ok accepted
  exact writeAll_invariant (fun _ write holds _ => holds.apply write) identified written

theorem Identified.handles
    (identified : books.Identified) (step : books.Handles request after) : after.Identified := by
  rcases handles_cases step with same | performed
  · rw [same]
    exact identified
  · exact identified.perform performed

end FinanceBooks

end Ithute.Books
