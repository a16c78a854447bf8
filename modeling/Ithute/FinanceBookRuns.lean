import Ithute.FinanceBookSteps

/-!
# Conversions and edits beside other calls

A conversion reads the document and then its items, looks for the invoice that
the document has been converted to, draws a number, and commits what it has
made of what it has read.  An edit of an invoice writes the columns that it
has changed, and one of a document also deletes the item rows that it has
read and inserts its own.  Each statement sees what has been committed before
it.
-/

namespace Ithute.Books

open Finance

/-- A conversion, or an edit of an invoice or a document, before its next
statement. -/
inductive BookCall where
  | loadDocument (documentId year : ℕ)
  | loadItems (document : FinanceDocument) (year : ℕ)
  | loadConverted (document : FinanceDocument) (items : List FinanceItem) (year : ℕ)
  | drawNumber (document : FinanceDocument) (items : List FinanceItem) (year : ℕ)
  | convert (document : FinanceDocument) (items : List FinanceItem) (invoice : FinanceInvoice)
  | loadInvoice (invoiceId : ℕ) (payload : InvoiceInput)
  | loadInvoiceRows (invoice : FinanceInvoice) (payload : InvoiceInput)
  | edit (invoice : FinanceInvoice) (items : List FinanceItem) (payload : InvoiceInput)
  | openDocument (documentId : ℕ) (payload : DocumentInput)
  | loadDocumentRows (document : FinanceDocument) (payload : DocumentInput)
  | update (document : FinanceDocument) (rows : List (ℕ × FinanceItem)) (payload : DocumentInput)

/-- An item is written in the columns that the session has changed. -/
def FinanceItem.written (loaded saved stored : FinanceItem) : FinanceItem where
  position := changedColumn loaded.position saved.position stored.position
  description := changedColumn loaded.description saved.description stored.description
  details := changedColumn loaded.details saved.details stored.details
  quantity := changedColumn loaded.quantity saved.quantity stored.quantity
  rateMinor := changedColumn loaded.rateMinor saved.rateMinor stored.rateMinor
  taxMinor := changedColumn loaded.taxMinor saved.taxMinor stored.taxMinor

/-- The first item is written, or an item is added if none was read. -/
def writtenItems (loaded : List FinanceItem) (saved : FinanceItem)
    (stored : List FinanceItem) : List FinanceItem :=
  match loaded, stored with
  | [], _ => stored ++ [saved]
  | _ :: _, [] => []
  | item :: _, first :: rest => item.written saved first :: rest

/-- An invoice is written in the columns that an edit has changed. -/
def writtenEdit (loaded : FinanceInvoice) (items : List FinanceItem)
    (payload : InvoiceInput) (stored : FinanceInvoice) : FinanceInvoice :=
  let saved := FinanceBooks.editedInvoice loaded payload
  { stored with
    clientName := changedColumn loaded.clientName saved.clientName stored.clientName
    recipientEmail := changedColumn loaded.recipientEmail saved.recipientEmail stored.recipientEmail
    description := changedColumn loaded.description saved.description stored.description
    details := changedColumn loaded.details saved.details stored.details
    quantity := changedColumn loaded.quantity saved.quantity stored.quantity
    rateMinor := changedColumn loaded.rateMinor saved.rateMinor stored.rateMinor
    taxMinor := changedColumn loaded.taxMinor saved.taxMinor stored.taxMinor
    subtotalMinor := changedColumn loaded.subtotalMinor saved.subtotalMinor stored.subtotalMinor
    totalMinor := changedColumn loaded.totalMinor saved.totalMinor stored.totalMinor
    status := changedColumn loaded.status saved.status stored.status
    items := writtenItems items (payload.line.row 1) stored.items }

/-- A document is written in the columns that an edit has changed, and the
item rows that the edit has read make way for its own. -/
def writtenUpdate (loaded : FinanceDocument) (rows : List (ℕ × FinanceItem))
    (payload : DocumentInput) (key : ℕ) (stored : FinanceDocument) : FinanceDocument :=
  let saved := FinanceBooks.filledDocument loaded payload key
  { stored with
    clientId := changedColumn loaded.clientId saved.clientId stored.clientId
    clientName := changedColumn loaded.clientName saved.clientName stored.clientName
    recipientEmail := changedColumn loaded.recipientEmail saved.recipientEmail stored.recipientEmail
    currency := changedColumn loaded.currency saved.currency stored.currency
    subtotalMinor := changedColumn loaded.subtotalMinor saved.subtotalMinor stored.subtotalMinor
    taxMinor := changedColumn loaded.taxMinor saved.taxMinor stored.taxMinor
    totalMinor := changedColumn loaded.totalMinor saved.totalMinor stored.totalMinor
    itemRows := (stored.itemRows.filter fun row => decide (row ∉ rows)) ++ saved.itemRows }

namespace FinanceBooks

variable (books : FinanceBooks)

def itemsOf (invoiceId : ℕ) : List FinanceItem :=
  match books.invoiceOf invoiceId with
  | some stored => stored.items
  | none => []

def paymentsOf (invoiceId : ℕ) : List ℕ :=
  match books.invoiceOf invoiceId with
  | some stored => stored.payments
  | none => []

def documentItemsOf (documentId : ℕ) : List FinanceItem :=
  match books.documentOf documentId with
  | some stored => stored.items
  | none => []

def documentRowsOf (documentId : ℕ) : List (ℕ × FinanceItem) :=
  match books.documentOf documentId with
  | some stored => stored.itemRows
  | none => []

/-- The row that an `UPDATE` of an invoice meets. -/
def storedInvoice (id : ℕ) : Except Refusal FinanceInvoice :=
  match books.invoiceOf id with
  | some stored => .ok stored
  | none => .error .internal

def storedDocument (id : ℕ) : Except Refusal FinanceDocument :=
  match books.documentOf id with
  | some stored => .ok stored
  | none => .error .internal

end FinanceBooks

def BookCall.next (books : FinanceBooks) : BookCall → Except Refusal (BookCall ⊕ FinanceBooks)
  | .loadDocument documentId year => do
      let document ← books.loadedDocument documentId
      return .inl (.loadItems document year)
  | .loadItems document year =>
    .ok (.inl (.loadConverted document (books.documentItemsOf document.id) year))
  | .loadConverted document items year =>
    match books.existingInvoice document with
    | some _ => .ok (.inr books)
    | none => .ok (.inl (.drawNumber document items year))
  | .drawNumber document items year => do
      let invoice ← FinanceBooks.convertedInvoice document items (books.nextInvoiceNumber year)
      return .inl (.convert document items invoice)
  | .convert document _ invoice => do
      let committed ← books.writeAll [.insertConverted document.id invoice]
      return .inr committed
  | .loadInvoice invoiceId payload => do
      let invoice ← books.loadedInvoice invoiceId
      return .inl (.loadInvoiceRows invoice payload)
  | .loadInvoiceRows invoice payload =>
    if invoice.sentAt.isSome = true ∨ (invoice.status ≠ .draft ∧ invoice.status ≠ .failed) then
      .error ⟨409, "Sent or financially active invoices are locked. Use a credit note or replacement invoice instead."⟩
    else if books.paymentsOf invoice.id ≠ [] ∨
        ∃ note ∈ books.creditNotes, note.invoiceId = invoice.id then
      .error ⟨409, "Invoices with payments or credit notes are locked"⟩
    else if 1 < (books.itemsOf invoice.id).length then
      .error ⟨409, "Multi-item converted invoices are locked; edit the source quotation/pro-forma before conversion"⟩
    else .ok (.inl (.edit invoice (books.itemsOf invoice.id) payload))
  | .edit invoice items payload => do
      let stored ← books.storedInvoice invoice.id
      let committed ← books.writeAll [.saveInvoice (writtenEdit invoice items payload stored)]
      return .inr committed
  | .openDocument documentId payload => do
      let document ← books.loadedDocument documentId
      return .inl (.loadDocumentRows document payload)
  | .loadDocumentRows document payload =>
    if document.status = .converted then .error ⟨409, "Converted documents are locked"⟩
    else if document.documentType ≠ payload.documentType then
      .error ⟨409, "Document type cannot be changed after numbering; create a new document instead"⟩
    else do
      books.checkedClient payload.clientId
      return .inl (.update document (books.documentRowsOf document.id) payload)
  | .update document rows payload => do
      let stored ← books.storedDocument document.id
      let committed ← books.writeAll
        [.saveDocument (writtenUpdate document rows payload books.nextId stored)]
      return .inr committed

theorem BookCall.next_loadConverted {books : FinanceBooks}
    {document : FinanceDocument} {items : List FinanceItem} {year : ℕ}
    {result : BookCall ⊕ FinanceBooks}
    (next : (BookCall.loadConverted document items year).next books = .ok result) :
    result = .inr books ∨ books.existingInvoice document = none ∧
      result = .inl (.drawNumber document items year) := by
  unfold BookCall.next at next
  dsimp only at next
  cases existing : books.existingInvoice document with
  | some invoice =>
    rw [existing] at next
    exact .inl (Except.ok.inj next).symm
  | none =>
    rw [existing] at next
    exact .inr ⟨rfl, (Except.ok.inj next).symm⟩

theorem BookCall.next_loadInvoiceRows {books : FinanceBooks}
    {invoice : FinanceInvoice} {payload : InvoiceInput} {result : BookCall ⊕ FinanceBooks}
    (next : (BookCall.loadInvoiceRows invoice payload).next books = .ok result) :
    (books.itemsOf invoice.id).length ≤ 1 ∧
      result = .inl (.edit invoice (books.itemsOf invoice.id) payload) := by
  unfold BookCall.next at next
  dsimp only at next
  split at next
  · cases next
  · split at next
    · cases next
    · split at next
      · cases next
      · rename_i short
        exact ⟨Nat.not_lt.mp short, (Except.ok.inj next).symm⟩

structure BookState where
  books : FinanceBooks
  calls : List BookCall := []

inductive BookAction where
  /-- A call that runs alone. -/
  | request (request : BookRequest)
  | beginConversion (documentId year : ℕ)
  | beginEdit (invoiceId : ℕ) (payload : InvoiceInput)
  | beginUpdate (documentId : ℕ) (payload : DocumentInput)
  | advance (index : ℕ)
  | crash (index : ℕ)

namespace BookState

variable (state : BookState)

def advance (index : ℕ) : BookState :=
  match state.calls[index]? with
  | none => state
  | some call =>
    match call.next state.books with
    | .ok (.inl following) => { state with calls := state.calls.set index following }
    | .ok (.inr committed) =>
      { state with
        books := committed
        calls := state.calls.eraseIdx index }
    | .error _ => { state with calls := state.calls.eraseIdx index }

def perform : BookAction → BookState
  | .request request => { state with books := state.books.handle request }
  | .beginConversion documentId year =>
    { state with calls := state.calls ++ [.loadDocument documentId year] }
  | .beginEdit invoiceId payload =>
    { state with calls := state.calls ++ [.loadInvoice invoiceId payload] }
  | .beginUpdate documentId payload =>
    { state with calls := state.calls ++ [.openDocument documentId payload] }
  | .advance index => state.advance index
  | .crash index => { state with calls := state.calls.eraseIdx index }

def Performs (before : BookState) (action : BookAction) (after : BookState) : Prop :=
  after = before.perform action

theorem advance_cases (index : ℕ) : state.advance index = state ∨ state.advance index =
        { state with calls := state.calls.eraseIdx index } ∨
      (∃ call following, state.calls[index]? = some call ∧
        call.next state.books = .ok (.inl following) ∧ state.advance index =
          { state with calls := state.calls.set index following }) ∨
      ∃ call committed, state.calls[index]? = some call ∧
        call.next state.books = .ok (.inr committed) ∧ state.advance index = { state with
            books := committed
            calls := state.calls.eraseIdx index } := by
  unfold advance
  split
  · exact .inl rfl
  · rename_i call found
    split
    · rename_i following next
      exact .inr (.inr (.inl ⟨call, following, found, next, rfl⟩))
    · rename_i committed next
      exact .inr (.inr (.inr ⟨call, committed, found, next, rfl⟩))
    · exact .inr (.inl rfl)

end BookState

end Ithute.Books
