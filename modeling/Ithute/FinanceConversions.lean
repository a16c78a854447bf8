import Ithute.Library.TransitionRuns
import Ithute.FinanceBookRuns

/-!
# Converted documents

The total of an invoice is the sum of its items, and a document becomes one
invoice, as long as what a conversion or an edit, of an invoice or of a
document, has read is what is stored when it commits.
-/

namespace Ithute.Books

open Fallible Finance TransitionRuns UniqueRows

def FinanceInvoice.Balanced (row : FinanceInvoice) : Prop := row.totalMinor = itemsTotal row.items

def FinanceDocument.Balanced (row : FinanceDocument) : Prop := row.totalMinor = itemsTotal row.items

instance (row : FinanceInvoice) : Decidable row.Balanced := inferInstanceAs (Decidable (_ = _))

/-- One invoice at most has been created from each document, a step that
creates one copies the items and the total, and all totals are those of the
items. -/
structure ConvertsOnce (before after : FinanceBooks) : Prop where
  once : (after.conversions.map fun pair => pair.1).Nodup
  copied : ∀ documentId invoiceId,
    after.conversions = before.conversions ++ [(documentId, invoiceId)] →
      ∃ document invoice, after.documentOf documentId = some document ∧
        after.invoiceOf invoiceId = some invoice ∧ invoice.items = document.items ∧
        invoice.totalMinor = document.totalMinor
  balanced : ∀ invoice ∈ after.invoices, invoice.Balanced

/-- What a call has read of the row that it is about to write is what is
stored. -/
def FinanceBooks.ReadsHold (books : FinanceBooks) : BookCall → Prop
  | .convert document items _ =>
    ∀ stored ∈ books.documentOf document.id,
      stored.convertedInvoiceId = document.convertedInvoiceId ∧
        stored.totalMinor = document.totalMinor ∧ stored.items = items
  | .edit invoice items _ =>
    ∀ stored ∈ books.invoiceOf invoice.id,
      stored.totalMinor = invoice.totalMinor ∧ stored.items = items
  | .update document rows _ =>
    ∀ stored ∈ books.documentOf document.id,
      stored.totalMinor = document.totalMinor ∧ stored.itemRows = rows
  | _ => True

instance (books : FinanceBooks) (call : BookCall) : Decidable (books.ReadsHold call) := by
  cases call <;> dsimp only [FinanceBooks.ReadsHold] <;> infer_instance

/-- No document has been converted to the invoice that a call deletes. -/
def FinanceBooks.SparesConverted (books : FinanceBooks) : BookRequest → Prop
  | .deleteFinanceInvoice invoiceId =>
    ∀ document ∈ books.documents, document.convertedInvoiceId ≠ some invoiceId
  | _ => True

instance (books : FinanceBooks) (request : BookRequest) :
    Decidable (books.SparesConverted request) := by
  induction request using BookRequest.casesOn <;>
    dsimp only [FinanceBooks.SparesConverted] <;> infer_instance

/-- A call commits on what it has read, and converted invoices stay. -/
def BookState.CommitsAsRead (state : BookState) : BookAction → Prop
  | .request request => state.books.SparesConverted request
  | .advance index => ∀ call ∈ state.calls[index]?, state.books.ReadsHold call
  | _ => True

instance (state : BookState) (action : BookAction) : Decidable (state.CommitsAsRead action) := by
  cases action <;> dsimp only [BookState.CommitsAsRead] <;> infer_instance

@[simp]
theorem itemsTotal_nil : itemsTotal [] = 0 := rfl

@[simp]
theorem itemsTotal_cons (item : FinanceItem) (items : List FinanceItem) :
    itemsTotal (item :: items) =
      item.quantity * item.rateMinor + item.taxMinor + itemsTotal items := by
  simp [itemsTotal]

theorem itemsTotal_items (document : FinanceDocument) :
    itemsTotal document.items = itemsTotal (document.itemRows.map fun row => row.2) :=
  ((List.perm_insertionSort _ _).map _).sum_eq

theorem itemsTotal_documentItems (items : List LineItemInput) : itemsTotal (documentItems items) =
      (lineTotals items).1 + (lineTotals items).2 := by
  have general (first : ℕ) : itemsTotal ((items.zipIdx first).map fun entry => entry.1.row entry.2) =
        (lineTotals items).1 + (lineTotals items).2 := by
    induction items generalizing first with
    | nil => rfl
    | cons item items ih =>
      have rest := ih (first + 1)
      simp only [lineTotals, List.zipIdx_cons, List.map_cons,
        itemsTotal_cons, List.sum_cons, LineItemInput.row] at rest ⊢
      omega
  exact general 1

theorem itemsTotal_filledDocument (document : FinanceDocument) (payload : DocumentInput) (key : ℕ) :
    itemsTotal ((FinanceBooks.filledDocument document payload key).itemRows.map fun row => row.2) =
      (lineTotals payload.items).1 + (lineTotals payload.items).2 := by
  rw [← itemsTotal_documentItems]
  simp [FinanceBooks.filledDocument]

theorem filledDocument_balanced (document : FinanceDocument) (payload : DocumentInput) (key : ℕ) :
    (FinanceBooks.filledDocument document payload key).Balanced := by
  unfold FinanceDocument.Balanced
  rw [itemsTotal_items, itemsTotal_filledDocument]
  rfl

theorem corporateQuotation_balanced (clientName recipientEmail : String)
    (mailboxCount storageGb annualTotalMinor : ℕ) (number : String) (key : ℕ) :
    (FinanceBooks.corporateQuotation clientName recipientEmail mailboxCount
      storageGb annualTotalMinor number key).Balanced := by
  unfold FinanceDocument.Balanced
  rw [itemsTotal_items]
  simp [FinanceBooks.corporateQuotation]

theorem lineInvoice_balanced (payload : InvoiceInput) (number : String) :
    (FinanceBooks.lineInvoice payload number).Balanced := by
  simp [FinanceInvoice.Balanced, FinanceBooks.lineInvoice, LineItemInput.row]

theorem editedInvoice_balanced (invoice : FinanceInvoice) (payload : InvoiceInput) :
    (FinanceBooks.editedInvoice invoice payload).Balanced := by
  simp [FinanceInvoice.Balanced, FinanceBooks.editedInvoice, LineItemInput.row]

theorem makeInvoice_balanced (books : FinanceBooks) (schedule : FinanceInvoiceSchedule) (year : ℕ) :
    (books.makeInvoice schedule year).Balanced := by
  simp [FinanceInvoice.Balanced, FinanceBooks.makeInvoice]

theorem convertedInvoice_ok {document : FinanceDocument}
    {items : List FinanceItem} {number : String} {invoice : FinanceInvoice}
    (converts : FinanceBooks.convertedInvoice document items number = .ok invoice) :
    invoice.totalMinor = document.totalMinor ∧ invoice.items = items := by
  unfold FinanceBooks.convertedInvoice at converts
  split at converts
  · cases converts
  · cases converts
    exact ⟨rfl, rfl⟩

theorem writtenEdit_balanced {loaded stored : FinanceInvoice}
    {items : List FinanceItem} (payload : InvoiceInput)
    (short : items.length ≤ 1) (total : stored.totalMinor = loaded.totalMinor)
    (sameItems : stored.items = items) : (writtenEdit loaded items payload stored).Balanced := by
  have written : (writtenEdit loaded items payload stored).items = [payload.line.row 1] := by
    change writtenItems items (payload.line.row 1) stored.items = _
    rw [sameItems]
    cases items with
    | nil => rfl
    | cons item rest =>
      have none : rest = [] := by simpa using short
      rw [none]
      change [item.written (payload.line.row 1) item] = _
      simp [FinanceItem.written, changedColumn_self]
  have saved : (writtenEdit loaded items payload stored).totalMinor =
      payload.line.quantity * payload.line.rateMinor + payload.line.taxMinor := by
    change changedColumn loaded.totalMinor _ stored.totalMinor = _
    rw [total, changedColumn_self]
    rfl
  unfold FinanceInvoice.Balanced
  rw [written, saved]
  simp [LineItemInput.row]

theorem writtenUpdate_balanced {loaded stored : FinanceDocument} {rows : List (ℕ × FinanceItem)}
    (payload : DocumentInput) (key : ℕ) (total : stored.totalMinor = loaded.totalMinor)
    (sameRows : stored.itemRows = rows) :
    (writtenUpdate loaded rows payload key stored).Balanced := by
  have written : (writtenUpdate loaded rows payload key stored).itemRows =
      (FinanceBooks.filledDocument loaded payload key).itemRows := by
    change (stored.itemRows.filter fun row => decide (row ∉ rows)) ++ _ = _
    rw [sameRows, List.filter_eq_nil_iff.mpr, List.nil_append]
    exact fun row member absent => of_decide_eq_true absent member
  have saved : (writtenUpdate loaded rows payload key stored).totalMinor =
      (lineTotals payload.items).1 + (lineTotals payload.items).2 := by
    change changedColumn loaded.totalMinor _ stored.totalMinor = _
    rw [total, changedColumn_self]
    rfl
  unfold FinanceDocument.Balanced
  rw [itemsTotal_items, written, itemsTotal_filledDocument, saved]

namespace FinanceBooks

variable {books after : FinanceBooks} {request : BookRequest}

/-- Totals are those of the items, and each recorded conversion is the one
that its document refers to. -/
structure Sound (books : FinanceBooks) : Prop where
  identified : books.Identified
  invoices : ∀ row ∈ books.invoices, row.Balanced
  documents : ∀ row ∈ books.documents, row.Balanced
  unconverted : ∀ row ∈ books.documents, row.status ≠ .converted → row.convertedInvoiceId = none
  existing : ∀ row ∈ books.documents, ∀ id, row.convertedInvoiceId = some id →
      ∃ invoice ∈ books.invoices, invoice.id = id
  once : (books.conversions.map fun pair => pair.1).Nodup
  recorded : ∀ pair ∈ books.conversions, ∃ row ∈ books.documents,
    row.id = pair.1 ∧ row.convertedInvoiceId = some pair.2

def Keeps (books : FinanceBooks) : BookWrite → Prop
  | .insertInvoice row | .saveInvoice row => row.Balanced
  | .deleteInvoice id => ∀ row ∈ books.documents, row.convertedInvoiceId ≠ some id
  | .insertDocument row => row.Balanced ∧ row.convertedInvoiceId = none
  | .saveDocument row =>
    (row.Balanced ∧ (row.status ≠ .converted → row.convertedInvoiceId = none)) ∧
      ∃ stored ∈ books.documents,
        stored.id = row.id ∧ stored.convertedInvoiceId = row.convertedInvoiceId
  | .deleteDocument id =>
    ∀ stored ∈ books.documents, stored.id = id → stored.convertedInvoiceId = none
  | .insertConverted documentId row =>
    row.Balanced ∧ (∀ pair ∈ books.conversions, pair.1 ≠ documentId) ∧
      ∃ stored ∈ books.documents, stored.id = documentId
  | _ => True

namespace Sound

theorem insertInvoice (sound : books.Sound) {row : FinanceInvoice}
    (balanced : row.Balanced) : (books.apply (.insertInvoice row)).Sound where
  identified := sound.identified.apply _
  invoices := by
    intro stored member
    rcases List.mem_append.mp member with old | new
    · exact sound.invoices stored old
    · rw [List.mem_singleton.mp new]
      exact balanced
  documents := sound.documents
  unconverted := sound.unconverted
  existing := by
    intro document member id refers
    obtain ⟨invoice, invoiceMem, same⟩ := sound.existing document member id refers
    exact ⟨invoice, List.mem_append_left _ invoiceMem, same⟩
  once := sound.once
  recorded := sound.recorded

theorem saveInvoice (sound : books.Sound) {row : FinanceInvoice}
    (balanced : row.Balanced) : (books.apply (.saveInvoice row)).Sound where
  identified := sound.identified.apply _
  invoices := by
    apply forall_replace
    · exact fun stored member _ => sound.invoices stored member
    · exact balanced
  documents := sound.documents
  unconverted := sound.unconverted
  existing := by
    intro document member id refers
    obtain ⟨invoice, invoiceMem, same⟩ := sound.existing document member id refers
    refine ⟨_, List.mem_map_of_mem invoiceMem, ?_⟩
    split
    · rename_i here
      exact here.symm.trans same
    · exact same
  once := sound.once
  recorded := sound.recorded

theorem deleteInvoice (sound : books.Sound) {id : ℕ}
    (spared : ∀ row ∈ books.documents, row.convertedInvoiceId ≠ some id) :
    (books.apply (.deleteInvoice id)).Sound := by
  have documents : (books.apply (.deleteInvoice id)).documents = books.documents := by
    refine (List.map_congr_left ?_).trans (List.map_id' books.documents)
    intro row member
    rw [if_neg (spared row member)]
  refine ⟨sound.identified.apply _, ?_, ?_, ?_, ?_, sound.once, ?_⟩
  · intro row member
    exact sound.invoices row (List.mem_filter.mp member).1
  · rw [documents]
    exact sound.documents
  · rw [documents]
    exact sound.unconverted
  · rw [documents]
    intro row member other refers
    obtain ⟨invoice, invoiceMem, rfl⟩ := sound.existing row member other refers
    refine ⟨invoice, List.mem_filter.mpr ⟨invoiceMem, decide_eq_true ?_⟩, rfl⟩
    rintro rfl
    exact spared row member refers
  · rw [documents]
    exact sound.recorded

theorem insertDocument (sound : books.Sound) {row : FinanceDocument}
    (balanced : row.Balanced) (unconverted : row.convertedInvoiceId = none) :
    (books.apply (.insertDocument row)).Sound where
  identified := sound.identified.apply _
  invoices := sound.invoices
  documents := by
    intro stored member
    rcases List.mem_append.mp member with old | new
    · exact sound.documents stored old
    · rw [List.mem_singleton.mp new]
      exact balanced
  unconverted := by
    intro stored member notConverted
    rcases List.mem_append.mp member with old | new
    · exact sound.unconverted stored old notConverted
    · rw [List.mem_singleton.mp new]
      exact unconverted
  existing := by
    intro stored member id refers
    rcases List.mem_append.mp member with old | new
    · exact sound.existing stored old id refers
    · rw [List.mem_singleton.mp new] at refers
      cases unconverted.symm.trans refers
  once := sound.once
  recorded := by
    intro pair member
    obtain ⟨stored, storedMem, same⟩ := sound.recorded pair member
    exact ⟨stored, List.mem_append_left _ storedMem, same⟩

theorem saveDocument (sound : books.Sound) {row stored : FinanceDocument} (balanced : row.Balanced)
    (unconverted : row.status ≠ .converted → row.convertedInvoiceId = none)
    (storedMem : stored ∈ books.documents) (sameId : stored.id = row.id)
    (sameReference : stored.convertedInvoiceId = row.convertedInvoiceId) :
    (books.apply (.saveDocument row)).Sound where
  identified := sound.identified.apply _
  invoices := sound.invoices
  documents := by
    apply forall_replace
    · exact fun stored member _ => sound.documents stored member
    · exact balanced
  unconverted := by
    apply forall_replace
    · exact fun stored member _ => sound.unconverted stored member
    · exact unconverted
  existing := by
    apply forall_replace
    · exact fun stored member _ => sound.existing stored member
    · rw [← sameReference]
      exact sound.existing stored storedMem
  once := sound.once
  recorded := by
    intro pair member
    obtain ⟨other, otherMem, otherId, refers⟩ := sound.recorded pair member
    refine ⟨_, List.mem_map_of_mem otherMem, ?_⟩
    split
    · rename_i here
      have same := sound.identified.documents.eq_of_key otherMem storedMem (here.trans sameId.symm)
      rw [← sameReference, ← same]
      exact ⟨here.symm.trans otherId, refers⟩
    · exact ⟨otherId, refers⟩

theorem deleteDocument (sound : books.Sound) {id : ℕ}
    (before : ∀ stored ∈ books.documents, stored.id = id → stored.convertedInvoiceId = none) :
    (books.apply (.deleteDocument id)).Sound where
  identified := sound.identified.apply _
  invoices := sound.invoices
  documents row member := sound.documents row (List.mem_filter.mp member).1
  unconverted row member := sound.unconverted row (List.mem_filter.mp member).1
  existing row member := sound.existing row (List.mem_filter.mp member).1
  once := sound.once
  recorded := by
    intro pair member
    obtain ⟨stored, storedMem, sameId, refers⟩ := sound.recorded pair member
    refine ⟨stored, List.mem_filter.mpr ⟨storedMem, decide_eq_true ?_⟩, sameId, refers⟩
    intro same
    cases (before stored storedMem same).symm.trans refers

theorem insertConverted (sound : books.Sound) {documentId : ℕ}
    {row : FinanceInvoice} (balanced : row.Balanced)
    (fresh : ∀ pair ∈ books.conversions, pair.1 ≠ documentId)
    (stored : ∃ document ∈ books.documents, document.id = documentId) :
    (books.apply (.insertConverted documentId row)).Sound where
  identified := sound.identified.apply _
  invoices := by
    intro invoice member
    rcases List.mem_append.mp member with old | new
    · exact sound.invoices invoice old
    · rw [List.mem_singleton.mp new]
      exact balanced
  documents := by
    intro document member
    obtain ⟨earlier, earlierMem, rfl⟩ := List.mem_map.mp member
    split
    · exact sound.documents earlier earlierMem
    · exact sound.documents earlier earlierMem
  unconverted := by
    intro document member notConverted
    obtain ⟨earlier, earlierMem, rfl⟩ := List.mem_map.mp member
    by_cases here : earlier.id = documentId
    · rw [if_pos here] at notConverted
      exact absurd rfl notConverted
    · rw [if_neg here] at notConverted ⊢
      exact sound.unconverted earlier earlierMem notConverted
  existing := by
    intro document member id refers
    obtain ⟨earlier, earlierMem, rfl⟩ := List.mem_map.mp member
    by_cases here : earlier.id = documentId
    · rw [if_pos here] at refers
      exact ⟨_, List.mem_append_right _ (List.mem_singleton.mpr rfl), Option.some.inj refers⟩
    · rw [if_neg here] at refers
      obtain ⟨invoice, invoiceMem, same⟩ := sound.existing earlier earlierMem id refers
      exact ⟨invoice, List.mem_append_left _ invoiceMem, same⟩
  once := by
    change ((books.conversions ++ [(documentId, books.nextId)]).map fun pair => pair.1).Nodup
    rw [List.map_append, List.map_singleton]
    refine pairwise_insert sound.once ?_
    intro id member
    obtain ⟨pair, pairMem, rfl⟩ := List.mem_map.mp member
    exact fresh pair pairMem
  recorded := by
    intro pair member
    rcases List.mem_append.mp member with old | new
    · obtain ⟨document, documentMem, sameId, refers⟩ := sound.recorded pair old
      refine ⟨document, List.mem_map.mpr ⟨document, documentMem, ?_⟩, sameId, refers⟩
      rw [if_neg]
      exact fun same => fresh pair old (sameId.symm.trans same)
    · obtain ⟨document, documentMem, sameId⟩ := stored
      rw [List.mem_singleton.mp new]
      refine ⟨_, List.mem_map_of_mem documentMem, ?_, ?_⟩
      · rw [if_pos sameId]
        exact sameId
      · rw [if_pos sameId]

theorem of_same (sound : books.Sound) (identified : after.Identified)
    (invoices : after.invoices = books.invoices) (documents : after.documents = books.documents)
    (conversions : after.conversions = books.conversions) : after.Sound where
  identified := identified
  invoices := invoices ▸ sound.invoices
  documents := documents ▸ sound.documents
  unconverted := documents ▸ sound.unconverted
  existing := by
    rw [invoices, documents]
    exact sound.existing
  once := conversions ▸ sound.once
  recorded := by
    rw [conversions, documents]
    exact sound.recorded

theorem apply (sound : books.Sound) {write : BookWrite}
    (keeps : books.Keeps write) : (books.apply write).Sound := by
  cases write with
  | insertInvoice row => exact sound.insertInvoice keeps
  | saveInvoice row => exact sound.saveInvoice keeps
  | deleteInvoice id => exact sound.deleteInvoice keeps
  | insertDocument row => exact sound.insertDocument keeps.1 keeps.2
  | saveDocument row =>
    obtain ⟨⟨balanced, unconverted⟩, stored, member, sameId, reference⟩ := keeps
    exact sound.saveDocument balanced unconverted member sameId reference
  | deleteDocument id => exact sound.deleteDocument keeps
  | insertConverted documentId row => exact sound.insertConverted keeps.1 keeps.2.1 keeps.2.2
  | insertCreditNote row | insertSchedule row | saveSchedule row
  | deleteSchedule id | insertApproval row | saveApproval row
  | saveSetting row | sendMessage message =>
    exact sound.of_same (sound.identified.apply _) rfl rfl rfl

end Sound

def Copies (before after : FinanceBooks) : Prop :=
  ∀ documentId invoiceId, after.conversions = before.conversions ++ [(documentId, invoiceId)] →
      ∃ document invoice, after.documentOf documentId = some document ∧
        after.invoiceOf invoiceId = some invoice ∧ invoice.items = document.items ∧
        invoice.totalMinor = document.totalMinor

theorem Copies.of_same (same : after.conversions = books.conversions) : Copies books after := by
  intro documentId invoiceId appended
  rw [same] at appended
  simp at appended

variable {document : FinanceDocument}

theorem Copies.insertConverted (sound : books.Sound) {documentId : ℕ} {row : FinanceInvoice}
    (found : books.documentOf documentId = some document)
    (total : row.totalMinor = document.totalMinor) (items : row.items = document.items) :
    Copies books (books.apply (.insertConverted documentId row)) := by
  intro otherId invoiceId appended
  have pair : [(documentId, books.nextId)] = [(otherId, invoiceId)] :=
    List.append_cancel_left appended
  cases pair
  have foundId := (documentOf_spec found).2
  have later : (books.apply (.insertConverted documentId row)).documentOf
      documentId = some { document with
        convertedInvoiceId := some books.nextId
        status := .converted } := by
    refine (UniqueRows.find?_map found ?_ ?_).trans ?_
    · rw [if_pos foundId]
      exact decide_eq_true foundId
    · intro other _ matches_
      split at matches_ <;> exact matches_
    · rw [if_pos foundId]
  have inserted : (books.apply (.insertConverted documentId row)).invoiceOf
      books.nextId = some { row with id := books.nextId } := by
    change (books.invoices ++ [_]).find? _ = _
    have none : (books.invoices.find? fun stored =>
        decide (stored.id = books.nextId)) = none := by
      rw [List.find?_eq_none]
      intro stored member same
      have below := sound.identified.invoices.below stored member
      have equal := of_decide_eq_true same
      omega
    rw [List.find?_append, none]
    simp
  exact ⟨_, _, later, inserted, items, total⟩

theorem Sound.invoice (sound : books.Sound) {id : ℕ} {invoice : FinanceInvoice}
    (found : books.invoiceOf id = some invoice) : invoice.Balanced :=
  sound.invoices invoice (invoiceOf_spec found).1

theorem Sound.keeps_document (sound : books.Sound) {id : ℕ} {saved : FinanceDocument}
    (found : books.documentOf id = some document) (notConverted : document.status ≠ .converted)
    (balanced : saved.Balanced) (sameId : saved.id = document.id)
    (sameReference : saved.convertedInvoiceId = document.convertedInvoiceId) :
    books.Keeps (.saveDocument saved) := by
  have documentMem := (documentOf_spec found).1
  have none := sound.unconverted document documentMem notConverted
  exact ⟨⟨balanced, fun _ => sameReference.trans none⟩,
    document, documentMem, sameId.symm, sameReference.symm⟩

theorem Sound.not_recorded (sound : books.Sound)
    (member : document ∈ books.documents) (missing : ∀ id, document.convertedInvoiceId = some id →
      ∀ invoice ∈ books.invoices, invoice.id ≠ id) :
    ∀ pair ∈ books.conversions, pair.1 ≠ document.id := by
  intro pair recorded same
  obtain ⟨row, rowMem, rowId, refers⟩ := sound.recorded pair recorded
  have equal := sound.identified.documents.eq_of_key rowMem member (rowId.trans same)
  obtain ⟨invoice, invoiceMem, invoiceId⟩ := sound.existing row rowMem pair.2 refers
  rw [equal] at refers
  exact missing pair.2 refers invoice invoiceMem invoiceId

theorem existingInvoice_none
    (none : books.existingInvoice document = none) : ∀ id, document.convertedInvoiceId = some id →
      ∀ invoice ∈ books.invoices, invoice.id ≠ id := by
  intro id refers invoice member same
  unfold existingInvoice at none
  rw [refers] at none
  have found := List.find?_eq_none.mp none invoice member
  exact found (decide_eq_true same)

theorem Sound.perform (sound : books.Sound) (spares : books.SparesConverted request)
    (accepted : books.perform request = .ok after) : after.Sound ∧ Copies books after := by
  obtain ⟨writes, checked, written⟩ := perform_ok accepted
  obtain rfl := writeAll_apply written
  cases checked with
  | create => exact ⟨sound.insertInvoice (lineInvoice_balanced _ _), .of_same rfl⟩
  | edit found => exact ⟨sound.saveInvoice (editedInvoice_balanced _ _), .of_same rfl⟩
  | cancel found | sendFailed found | settle found =>
    have balanced := sound.invoice found
    exact ⟨sound.saveInvoice balanced, .of_same rfl⟩
  | send found ensured | bulkSend found ensured | credit found =>
    refine ⟨?_, .of_same rfl⟩
    have balanced := sound.invoice found
    rw [List.foldl_cons, List.foldl_cons, List.foldl_nil]
    refine Sound.apply (Sound.apply sound ?_) ?_
    · exact True.intro
    · exact balanced
  | deleteInvoice found => exact ⟨sound.deleteInvoice spares, .of_same rfl⟩
  | createDocument =>
    exact ⟨sound.insertDocument (filledDocument_balanced _ _ _) rfl, .of_same rfl⟩
  | quotation =>
    exact ⟨sound.insertDocument (corporateQuotation_balanced _ _ _ _ _ _ _) rfl, .of_same rfl⟩
  | updateDocument found notConverted =>
    exact ⟨sound.apply (sound.keeps_document found notConverted
      (filledDocument_balanced _ _ _) rfl rfl), .of_same rfl⟩
  | documentStatus found notConverted | sendDocument found notConverted =>
    refine ⟨?_, .of_same rfl⟩
    have balanced := sound.documents _ (documentOf_spec found).1
    rw [List.foldl_cons, List.foldl_nil]
    exact sound.apply (sound.keeps_document found notConverted balanced rfl rfl)
  | deleteDocument found notConverted =>
    refine ⟨?_, .of_same rfl⟩
    apply sound.deleteDocument
    intro stored member same
    obtain ⟨foundMem, foundId⟩ := documentOf_spec found
    rw [sound.identified.documents.eq_of_key member foundMem (same.trans foundId.symm)]
    exact sound.unconverted _ foundMem notConverted
  | convertedBefore found existing | skipSchedule => exact ⟨sound, .of_same rfl⟩
  | convert found none converts =>
    obtain ⟨total, items⟩ := convertedInvoice_ok converts
    obtain ⟨foundMem, foundId⟩ := documentOf_spec found
    refine ⟨?_, .insertConverted sound found total items⟩
    refine sound.insertConverted ?_ ?_ ⟨_, foundMem, foundId⟩
    · unfold FinanceInvoice.Balanced
      rw [total, items]
      exact sound.documents _ foundMem
    · rw [← foundId]
      exact sound.not_recorded foundMem (existingInvoice_none none)
  | @processSchedule scheduleId today now schedule saved due ensured =>
    refine ⟨?_, .of_same rfl⟩
    rw [List.foldl_cons, List.foldl_cons, List.foldl_cons, List.foldl_nil]
    refine Sound.apply (Sound.apply (Sound.apply sound ?_) ?_) ?_
    · exact True.intro
    · exact makeInvoice_balanced books schedule today.year
    · exact True.intro
  | createSchedule | updateSchedule | deleteSchedule | settings
  | decide found =>
    refine ⟨?_, .of_same rfl⟩
    rw [List.foldl_cons, List.foldl_nil]
    exact sound.apply True.intro
  | request found =>
    rw [List.foldl_cons, List.foldl_nil]
    unfold requestInvoiceApproval
    split <;> exact ⟨sound.apply True.intro, .of_same rfl⟩

/-- An invoice keeps its identifier, and a new one gets a later one. -/
structure Evolves (before after : FinanceBooks) : Prop where
  nextId : before.nextId ≤ after.nextId
  invoices : ∀ invoice ∈ after.invoices, (∃ earlier ∈ before.invoices, earlier.id = invoice.id) ∨
      before.nextId ≤ invoice.id

namespace Evolves

theorem of_subset (nextId : books.nextId ≤ after.nextId)
    (subset : ∀ invoice ∈ after.invoices, invoice ∈ books.invoices) : Evolves books after :=
  ⟨nextId, fun invoice member => .inl ⟨invoice, subset invoice member, rfl⟩⟩

theorem refl (books : FinanceBooks) : Evolves books books :=
  .of_subset (Nat.le_refl _) fun _ member => member

theorem trans {middle : FinanceBooks} (first : Evolves books middle)
    (second : Evolves middle after) : Evolves books after := by
  refine ⟨Nat.le_trans first.nextId second.nextId, ?_⟩
  intro invoice member
  rcases second.invoices invoice member with ⟨middle, middleMem, same⟩ | new
  · rw [← same]
    exact first.invoices middle middleMem
  · exact .inr (Nat.le_trans first.nextId new)

theorem insert {row : FinanceInvoice} (nextId : after.nextId = books.nextId + 1)
    (invoices : after.invoices = books.invoices ++ [{ row with id := books.nextId }]) :
    Evolves books after := by
  refine ⟨by omega, ?_⟩
  intro invoice member
  rw [invoices] at member
  rcases List.mem_append.mp member with old | new
  · exact .inl ⟨invoice, old, rfl⟩
  · rw [List.mem_singleton.mp new]
    exact .inr (Nat.le_refl _)

theorem apply (books : FinanceBooks) (write : BookWrite) : Evolves books (books.apply write) := by
  have same (invoice : FinanceInvoice) (member : invoice ∈ books.invoices) :
      invoice ∈ books.invoices := member
  cases write with
  | insertInvoice row | insertConverted documentId row => exact .insert rfl rfl
  | saveInvoice row =>
    refine ⟨Nat.le_refl _, ?_⟩
    intro invoice member
    obtain ⟨stored, storedMem, rfl⟩ := List.mem_map.mp member
    refine .inl ⟨stored, storedMem, ?_⟩
    split
    · rename_i here
      exact here
    · rfl
  | deleteInvoice id =>
    exact .of_subset (Nat.le_refl _) fun invoice member => (List.mem_filter.mp member).1
  | insertDocument row | saveDocument row | insertCreditNote row | insertSchedule row
  | insertApproval row => exact .of_subset (Nat.le_succ _) same
  | deleteDocument id | saveSchedule row
  | deleteSchedule id | saveApproval row | saveSetting row
  | sendMessage message => exact .of_subset (Nat.le_refl _) same

theorem writeAll {writes : List BookWrite}
    (written : books.writeAll writes = .ok after) : Evolves books after :=
  writeAll_invariant (fun middle write sofar _ =>
    sofar.trans (apply middle write)) (refl books) written

theorem handles (step : books.Handles request after) : Evolves books after := by
  rcases handles_cases step with same | performed
  · rw [same]
    exact refl books
  · obtain ⟨writes, _, written⟩ := perform_ok performed
    exact writeAll written

end Evolves

/-- What a call that has read rows knows of the books, for as long as it
runs. -/
def CallFits (books : FinanceBooks) : BookCall → Prop
  | .loadItems document _ | .loadConverted document _ _ =>
    ∀ id, document.convertedInvoiceId = some id → id < books.nextId
  | .drawNumber document _ _ =>
    ∀ id, document.convertedInvoiceId = some id →
      id < books.nextId ∧ ∀ invoice ∈ books.invoices, invoice.id ≠ id
  | .convert document items invoice =>
    (∀ id, document.convertedInvoiceId = some id →
      id < books.nextId ∧ ∀ invoice ∈ books.invoices, invoice.id ≠ id) ∧
    invoice.totalMinor = document.totalMinor ∧ invoice.items = items
  | .edit _ items _ => items.length ≤ 1
  | _ => True

theorem Evolves.still_missing (evolves : Evolves books after) {id : ℕ}
    (missing : id < books.nextId ∧ ∀ invoice ∈ books.invoices, invoice.id ≠ id) :
    id < after.nextId ∧ ∀ invoice ∈ after.invoices, invoice.id ≠ id := by
  refine ⟨Nat.lt_of_lt_of_le missing.1 evolves.nextId, ?_⟩
  rintro invoice member rfl
  rcases evolves.invoices invoice member with ⟨earlier, old, same⟩ | new
  · exact missing.2 earlier old same
  · exact absurd missing.1 (Nat.not_lt.mpr new)

theorem CallFits.evolves {call : BookCall} (fits : books.CallFits call)
    (evolves : Evolves books after) : after.CallFits call := by
  cases call with
  | loadItems document year | loadConverted document items year =>
    exact fun id refers => Nat.lt_of_lt_of_le (fits id refers) evolves.nextId
  | drawNumber document items year => exact fun id refers => evolves.still_missing (fits id refers)
  | convert document items invoice =>
    exact ⟨fun id refers => evolves.still_missing (fits.1 id refers), fits.2⟩
  | loadDocument documentId year | loadInvoice invoiceId payload
  | loadInvoiceRows invoice payload | edit invoice items payload | openDocument documentId payload
  | loadDocumentRows document payload | update document rows payload => exact fits

theorem CallFits.next {call following : BookCall} (sound : books.Sound) (fits : books.CallFits call)
    (next : call.next books = .ok (.inl following)) : books.CallFits following := by
  cases call with
  | loadDocument documentId year =>
    obtain ⟨document, loaded, rest⟩ := bind_ok next
    cases rest
    intro id refers
    obtain ⟨invoice, invoiceMem, same⟩ := sound.existing document
      (documentOf_spec (loadedDocument_ok loaded)).1 id refers
    rw [← same]
    exact sound.identified.invoices.below invoice invoiceMem
  | loadItems document year =>
    cases next
    exact fits
  | loadConverted document items year =>
    rcases BookCall.next_loadConverted next with ended | ⟨none, goesOn⟩
    · cases ended
    · cases goesOn
      exact fun id refers => ⟨fits id refers, existingInvoice_none none id refers⟩
  | drawNumber document items year =>
    obtain ⟨invoice, converts, rest⟩ := bind_ok next
    cases rest
    exact ⟨fits, convertedInvoice_ok converts⟩
  | convert document items invoice =>
    obtain ⟨_, _, impossible⟩ := bind_ok next
    cases impossible
  | loadInvoice invoiceId payload | openDocument documentId payload =>
    obtain ⟨_, _, rest⟩ := bind_ok next
    cases rest
    exact True.intro
  | loadInvoiceRows invoice payload =>
    obtain ⟨short, goesOn⟩ := BookCall.next_loadInvoiceRows next
    cases goesOn
    exact short
  | loadDocumentRows document payload =>
    replace next := (guard_ok next).2
    obtain ⟨_, _, rest⟩ := bind_ok (guard_ok next).2
    cases rest
    exact True.intro
  | edit invoice items payload | update document rows payload =>
    obtain ⟨_, _, rest⟩ := bind_ok next
    obtain ⟨_, _, impossible⟩ := bind_ok rest
    cases impossible

theorem Sound.commit {call : BookCall} (sound : books.Sound)
    (fits : books.CallFits call) (holds : books.ReadsHold call)
    (next : call.next books = .ok (.inr after)) :
    after.Sound ∧ Copies books after ∧ Evolves books after := by
  cases call with
  | loadDocument documentId year | drawNumber document items year
  | loadInvoice invoiceId payload | openDocument documentId payload =>
    obtain ⟨_, _, impossible⟩ := bind_ok next
    cases impossible
  | loadItems document year => cases next
  | loadConverted document items year =>
    rcases BookCall.next_loadConverted next with ended | ⟨_, goesOn⟩
    · cases ended
      exact ⟨sound, .of_same rfl, .refl books⟩
    · cases goesOn
  | convert document items invoice =>
    obtain ⟨committed, written, same⟩ := bind_ok next
    cases same
    obtain ⟨⟨_, some_, someMem, someId⟩, rest⟩ := writeAll_cons written
    rw [writeAll_nil rest]
    obtain ⟨missing, total, sameItems⟩ := fits
    cases found : books.documentOf document.id with
    | none =>
      have absent := List.find?_eq_none.mp found some_ someMem
      exact absurd (decide_eq_true someId) absent
    | some stored =>
      obtain ⟨storedMem, storedId⟩ := documentOf_spec found
      obtain ⟨reference, storedTotal, storedItems⟩ := holds stored found
      have totalEq := total.trans storedTotal.symm
      have itemsEq := sameItems.trans storedItems.symm
      refine ⟨?_, .insertConverted sound found totalEq itemsEq, .apply books _⟩
      refine sound.insertConverted ?_ ?_ ⟨stored, storedMem, storedId⟩
      · unfold FinanceInvoice.Balanced
        rw [totalEq, itemsEq]
        exact sound.documents stored storedMem
      · rw [← storedId]
        apply sound.not_recorded storedMem
        intro id refers
        exact (missing id (reference.symm.trans refers)).2
  | loadInvoiceRows invoice payload => cases (BookCall.next_loadInvoiceRows next).2
  | loadDocumentRows document payload =>
    replace next := (guard_ok next).2
    obtain ⟨_, _, impossible⟩ := bind_ok (guard_ok next).2
    cases impossible
  | edit invoice items payload =>
    obtain ⟨stored, loaded, rest⟩ := bind_ok next
    obtain ⟨committed, written, same⟩ := bind_ok rest
    cases same
    unfold storedInvoice at loaded
    split at loaded
    · rename_i found
      cases loaded
      obtain ⟨total, sameItems⟩ := holds stored found
      obtain ⟨_, rest⟩ := writeAll_cons written
      rw [writeAll_nil rest]
      refine ⟨?_, .of_same rfl, .apply books _⟩
      exact sound.saveInvoice (writtenEdit_balanced payload fits total sameItems)
    · cases loaded
  | update document rows payload =>
    obtain ⟨stored, loaded, rest⟩ := bind_ok next
    obtain ⟨committed, written, same⟩ := bind_ok rest
    cases same
    unfold storedDocument at loaded
    split at loaded
    · rename_i found
      cases loaded
      obtain ⟨total, sameRows⟩ := holds stored found
      obtain ⟨_, rest⟩ := writeAll_cons written
      rw [writeAll_nil rest]
      have storedMem := (documentOf_spec found).1
      refine ⟨?_, .of_same rfl, .apply books _⟩
      exact sound.saveDocument (writtenUpdate_balanced payload _ total sameRows)
        (sound.unconverted stored storedMem) storedMem rfl rfl
    · cases loaded

end FinanceBooks

namespace BookState

variable {state after : BookState} {action : BookAction}

structure Sound (state : BookState) : Prop where
  books : state.books.Sound
  calls : ∀ call ∈ state.calls, state.books.CallFits call

theorem Sound.performs (sound : state.Sound) (move : state.Performs action after)
    (commits : state.CommitsAsRead action) :
    after.Sound ∧ FinanceBooks.Copies state.books after.books := by
  have same : FinanceBooks.Copies state.books state.books := .of_same rfl
  rw [show after = state.perform action from move]
  cases action with
  | request request =>
    change BookState.Sound { state with books := state.books.handle request } ∧
      FinanceBooks.Copies state.books (state.books.handle request)
    have handled : state.books.Handles request (state.books.handle request) := rfl
    have evolves := FinanceBooks.Evolves.handles handled
    have calls : ∀ call ∈ state.calls, (state.books.handle request).CallFits call :=
      fun call member => (sound.calls call member).evolves evolves
    rcases FinanceBooks.handles_cases handled with kept | performed
    · rw [kept]
      exact ⟨sound, same⟩
    · obtain ⟨soundAfter, copies⟩ := sound.books.perform commits performed
      exact ⟨⟨soundAfter, calls⟩, copies⟩
  | beginConversion documentId year | beginEdit invoiceId payload
  | beginUpdate documentId payload =>
    refine ⟨⟨sound.books, ?_⟩, same⟩
    intro call member
    rcases List.mem_append.mp member with old | new
    · exact sound.calls call old
    · rw [List.mem_singleton.mp new]
      exact True.intro
  | advance index =>
    change (state.advance index).Sound ∧ FinanceBooks.Copies state.books (state.advance index).books
    rcases state.advance_cases index with
      kept | dropped | ⟨call, following, found, next, stepped⟩ |
        ⟨call, committed, found, next, stepped⟩
    · rw [kept]
      exact ⟨sound, same⟩
    · rw [dropped]
      exact ⟨⟨sound.books, fun call member => sound.calls call
        (List.mem_of_mem_eraseIdx member)⟩, same⟩
    · rw [stepped]
      refine ⟨⟨sound.books, ?_⟩, same⟩
      intro other member
      rcases List.mem_or_eq_of_mem_set member with old | new
      · exact sound.calls other old
      · rw [new]
        exact (sound.calls call (List.mem_of_getElem? found)).next sound.books next
    · rw [stepped]
      obtain ⟨soundAfter, copies, evolves⟩ := sound.books.commit
        (sound.calls call (List.mem_of_getElem? found)) (commits call found) next
      refine ⟨⟨soundAfter, ?_⟩, copies⟩
      exact fun other member => (sound.calls other
        (List.mem_of_mem_eraseIdx member)).evolves evolves
  | crash index =>
    exact ⟨⟨sound.books, fun call member => sound.calls call
      (List.mem_of_mem_eraseIdx member)⟩, same⟩

end BookState

/-- In every run from empty books in which conversions and edits commit on
what is stored, and converted invoices are not deleted, one invoice at most
comes of each document, as a copy of it, and all totals are those of the
items. -/
theorem convertsOnce_of_commitsAsRead (clients : List ℕ)
    (setting : FinanceGovernanceSetting) (actions : List BookAction)
    (commits : EveryStep BookState.Performs (fun before action _ => before.CommitsAsRead action)
      { books := { clients := clients, setting := setting } } actions) :
    EveryStep BookState.Performs (fun before _ after => ConvertsOnce before.books after.books)
      { books := { clients := clients, setting := setting } } actions := by
  have empty : BookState.Sound { books := { clients := clients, setting := setting } } := by
    refine ⟨⟨⟨.nil, .nil, .nil⟩, ?_, ?_, ?_, ?_, List.nodup_nil, ?_⟩, ?_⟩ <;>
      exact fun _ member => absurd member List.not_mem_nil
  refine EveryStep.of_invariant empty ?_ ?_ commits
  · exact fun _ _ _ sound move here => (sound.performs move here).1
  · intro before action after sound move here
    obtain ⟨soundAfter, copies⟩ := sound.performs move here
    exact ⟨soundAfter.books.once, copies, soundAfter.books.invoices⟩

def supportInvoice (quantity rateMinor : ℕ)
    (quantity_bounds : 1 ≤ quantity ∧ quantity ≤ 10000 := by first | exact oneItem_bounds | decide)
    (rate_bound : rateMinor ≤ 2000000000 := by decide) : InvoiceInput where
  clientName := "Thaba School"
  recipientEmail := "office@thaba.example"
  line :=
    { description := "Support"
      quantity := quantity
      rateMinor := rateMinor
      quantity_bounds := quantity_bounds
      rate_bound := rate_bound }

theorem supportRate_bound : 45000 ≤ 2000000000 := by decide

def supportQuotation : DocumentInput where
  documentType := .quotation
  clientName := "Thaba School"
  recipientEmail := "office@thaba.example"
  items :=
    [{ description := "Support", quantity := 2, rateMinor := 45000, rate_bound := supportRate_bound },
      { description := "Hosting", rateMinor := 120000, taxMinor := 18000 }]

/-- Two conversions have both found the document unconverted; the second draws
its number after the first has committed. -/
def convertedTogether : List BookAction :=
  [.request (.createDocument supportQuotation 2026),
    .beginConversion 0 2026, .beginConversion 0 2026, .advance 0, .advance 0, .advance 0,
    .advance 1, .advance 1, .advance 1, .advance 0, .advance 0, .advance 0]

/-- One edit changes the quantity and another the rate of the invoice that both
have read. -/
def editedTogether : List BookAction :=
  [.request (.createFinanceInvoice (supportInvoice 1 45000) 2026),
    .beginEdit 0 (supportInvoice 2 45000), .beginEdit 0 (supportInvoice 1 60000),
    .advance 0, .advance 0, .advance 1, .advance 1, .advance 0]

/-- Each of two edits of a document deletes only the items that it has read,
and a conversion copies those of both. -/
def updatedTogether : List BookAction :=
  [.request (.createDocument supportQuotation 2026),
    .beginUpdate 0 supportQuotation, .beginUpdate 0 supportQuotation,
    .advance 0, .advance 0, .advance 1, .advance 1, .advance 0, .advance 0,
    .beginConversion 0 2026, .advance 0, .advance 0, .advance 0, .advance 0]

/-- Overlapping conversions create two invoices of one document, and
overlapping edits of an invoice or a document leave a total that the items do
not add up to. -/
theorem conversions_overlap : (¬ EveryStep BookState.Performs
      (fun before _ after => ConvertsOnce before.books after.books)
      { books := {} } (convertedTogether ++ [.advance 0])) ∧
    (¬ EveryStep BookState.Performs (fun before _ after => ConvertsOnce before.books after.books)
      { books := {} } (editedTogether ++ [.advance 0])) ∧
    ¬ EveryStep BookState.Performs (fun before _ after => ConvertsOnce before.books after.books)
      { books := {} } (updatedTogether ++ [.advance 0]) := by
  refine ⟨?_, ?_, ?_⟩
  · intro holds
    have converted := (holds convertedTogether (.advance 0) [] _ _ rfl
      (Run.of_foldl BookState.perform _ _) rfl).once
    exact absurd converted (by decide)
  · intro holds
    have edited := (holds editedTogether (.advance 0) [] _ _ rfl
      (Run.of_foldl BookState.perform _ _) rfl).balanced
    exact absurd edited (by decide)
  · intro holds
    have copied := (holds updatedTogether (.advance 0) [] _ _ rfl
      (Run.of_foldl BookState.perform _ _) rfl).balanced
    exact absurd copied (by decide)

/-- An edit of a document, a conversion and an edit of an invoice beside each
other, and a second conversion that finds the invoice of the first. -/
def convertedAndEdited : List BookAction :=
  [.request (.createFinanceInvoice (supportInvoice 1 45000) 2026),
    .request (.createDocument supportQuotation 2026),
    .beginUpdate 1 supportQuotation, .advance 0, .advance 0, .advance 0,
    .beginConversion 1 2026, .beginEdit 0 (supportInvoice 2 60000),
    .advance 0, .advance 1, .advance 0, .advance 1, .advance 0, .advance 0, .advance 1, .advance 0,
    .beginConversion 1 2026, .advance 0, .advance 0, .advance 0]

theorem convertsOnce_convertedAndEdited : EveryStep BookState.Performs
      (fun before _ after => ConvertsOnce before.books after.books)
      { books := {} } convertedAndEdited ∧
    (convertedAndEdited.foldl BookState.perform { books := {} }).books.conversions = [(1, 3)] :=
  ⟨convertsOnce_of_commitsAsRead [] {} convertedAndEdited
    (EveryStep.of_stepByStep (by decide)), by decide⟩

end Ithute.Books
