import Ithute.FinanceRows

/-!
# Checked calls

What a call has checked when it writes is stated once, by the rows that it
has read.  The writes that follow are its own and the status of its invoice.
-/

namespace Ithute.Finance

open Fallible

/-- What a call has checked when it writes, by the rows that it has read. -/
inductive Checked (rows : LoadedRows) : LedgerRequest → LedgerDraft → Prop
  | payment {invoiceId amountMinor : ℕ} {paymentDate : AccountingDate}
      {invoice : FinanceInvoice} (loaded : rows.invoice = some invoice)
      (active : invoice.status ≠ .cancelled) (open_ : 0 < invoice.totalMinor -
        (rows.creditNotes.map fun row => row.amountMinor).sum -
        (rows.payments.map fun row => row.amountMinor).sum)
      (covered : amountMinor ≤ invoice.totalMinor -
        (rows.creditNotes.map fun row => row.amountMinor).sum -
        (rows.payments.map fun row => row.amountMinor).sum) :
      Checked rows (.recordInvoicePayment invoiceId amountMinor paymentDate)
        ⟨[.insertPayment ⟨0, invoice.id, amountMinor, paymentDate⟩], .loaded invoice⟩
  | reconciliation {transactionId invoiceId outstanding : ℕ}
      {transaction : FinanceBankTransaction} {invoice : FinanceInvoice}
      (found : rows.transaction = some transaction) (loaded : rows.invoice = some invoice)
      (balance : outstanding = invoice.totalMinor -
        (rows.creditNotes.map fun row => row.amountMinor).sum -
        ((rows.payments.map fun row => row.amountMinor).sum - rows.refundedMinor))
      (open_ : 0 < outstanding) :
      Checked rows (.reconcileBankRow transactionId invoiceId) ⟨[.reconcilePayment
            ⟨0, invoice.id, min transaction.amountMinor.toNat outstanding,
              transaction.transactionDate⟩ transaction], .loaded invoice⟩
  | refund {paymentId amountMinor : ℕ} {refundDate : AccountingDate}
      {payment : FinancePayment} (loaded : rows.payment = some payment) (covered : amountMinor ≤
        payment.amountMinor - rows.paymentRefundedMinor) :
      Checked rows (.createRefund paymentId amountMinor refundDate) ⟨[.insertRefund
            ⟨0, payment.invoiceId, payment.id, amountMinor, refundDate⟩],
          .stored payment.invoiceId .internal⟩
  | creditNote {invoiceId amountMinor : ℕ} {today : AccountingDate}
      {invoice : FinanceInvoice} (loaded : rows.invoice = some invoice)
      (active : invoice.status ≠ .cancelled) (covered : amountMinor ≤ invoice.totalMinor -
        (rows.creditNotes.map fun row => row.amountMinor).sum) :
      Checked rows (.createCreditNote invoiceId amountMinor today)
        ⟨[.insertCreditNote ⟨0, invoice.id, amountMinor, today⟩], .loaded invoice⟩
  | paymentDeletion {paymentId : ℕ} {payment : FinancePayment}
      (loaded : rows.payment = some payment) : Checked rows (.deleteFinancePayment paymentId)
        ⟨[.deletePayment payment], .stored payment.invoiceId ⟨404, "Invoice not found"⟩⟩
  | invoiceDeletion {invoiceId : ℕ} {invoice : FinanceInvoice}
      (loaded : rows.invoice = some invoice) : Checked rows (.deleteFinanceInvoice invoiceId)
        ⟨[.deleteInvoice invoice rows.payments rows.creditNotes], .nothing⟩
  | cancellation {invoiceId : ℕ} {now : ℤ} {invoice : FinanceInvoice}
      (loaded : rows.invoice = some invoice) (unpaid : invoice.status ≠ .paid)
      (uncredited : invoice.status ≠ .credited) : Checked rows (.cancelFinanceInvoice invoiceId now)
        ⟨[.updateInvoice invoice { invoice with status := .cancelled, cancelledAt := some now }],
          .nothing⟩
  | sent {invoiceId : ℕ} {resend : Bool} {now : ℤ} {invoice : FinanceInvoice}
      (loaded : rows.invoice = some invoice) (unpaid : invoice.status ≠ .paid)
      (active : invoice.status ≠ .cancelled) (uncredited : invoice.status ≠ .credited)
      (again : invoice.status = .sent → resend = true) :
      Checked rows (.sendFinanceInvoice invoiceId resend .accepted now) (delivered invoice now)
  | sendFailed {invoiceId : ℕ} {resend : Bool} {delivery : Delivery} {now : ℤ}
      {error : String} {invoice failed : FinanceInvoice} (loaded : rows.invoice = some invoice)
      (reloaded : rows.failedInvoice = some failed) (unpaid : invoice.status ≠ .paid)
      (active : invoice.status ≠ .cancelled) (uncredited : invoice.status ≠ .credited)
      (again : invoice.status = .sent → resend = true)
      (raised : delivery = .invalid error ∨ delivery = .failed error) :
      Checked rows (.sendFinanceInvoice invoiceId resend delivery now) ⟨[.updateInvoice failed
            { failed with
              status := .failed
              lastError := some (error.take 2000).toString }], .nothing⟩
  | bulkSent {invoiceId : ℕ} {resend : Bool} {now : ℤ}
      {invoice : FinanceInvoice} (loaded : rows.invoice = some invoice)
      (unpaid : invoice.status ≠ .paid) (active : invoice.status ≠ .cancelled)
      (uncredited : invoice.status ≠ .credited) (again : invoice.status = .sent → resend = true) :
      Checked rows (.bulkSendInvoice invoiceId resend .accepted now) (delivered invoice now)
  | expense {expenseDate : AccountingDate} {amountMinor taxMinor : ℕ} :
      Checked rows (.createExpense expenseDate amountMinor taxMinor)
        ⟨[.insertExpense ⟨0, expenseDate, amountMinor, taxMinor, false⟩], .nothing⟩
  | voided {expenseId : ℕ} {expense : FinanceExpense} (loaded : rows.expense = some expense) :
      Checked rows (.voidExpense expenseId) ⟨[.voidExpense expense], .nothing⟩

variable {request : LedgerRequest} {rows : LoadedRows} {draft : LedgerDraft}

theorem checked_payment {invoiceId amountMinor : ℕ} {paymentDate : AccountingDate}
    (accepted : checkPayment rows amountMinor paymentDate = .ok draft) :
    Checked rows (.recordInvoicePayment invoiceId amountMinor paymentDate) draft := by
  unfold checkPayment at accepted
  split at accepted
  · cases accepted
  · rename_i invoice loaded
    obtain ⟨active, accepted⟩ := guard_ok accepted
    obtain ⟨open_, accepted⟩ := guard_ok accepted
    obtain ⟨within, accepted⟩ := guard_ok accepted
    cases accepted
    exact .payment loaded active (Nat.lt_of_not_le open_) (Nat.le_of_not_lt within)

theorem checked_reconciliation {transactionId invoiceId : ℕ}
    (accepted : checkReconciliation rows = .ok draft) :
    Checked rows (.reconcileBankRow transactionId invoiceId) draft := by
  unfold checkReconciliation at accepted
  split at accepted
  · rename_i transaction invoice found loaded
    obtain ⟨open_, accepted⟩ := guard_ok accepted
    cases accepted
    exact .reconciliation found loaded rfl (Nat.lt_of_not_le open_)
  · cases accepted

theorem checked_refund {paymentId amountMinor : ℕ} {refundDate : AccountingDate}
    (accepted : checkRefund rows amountMinor refundDate = .ok draft) :
    Checked rows (.createRefund paymentId amountMinor refundDate) draft := by
  unfold checkRefund at accepted
  split at accepted
  · cases accepted
  · rename_i payment loaded
    obtain ⟨within, accepted⟩ := guard_ok accepted
    cases accepted
    exact .refund loaded (Nat.le_of_not_lt within)

theorem checked_creditNote {invoiceId amountMinor : ℕ} {today : AccountingDate}
    (accepted : checkCreditNote rows amountMinor today = .ok draft) :
    Checked rows (.createCreditNote invoiceId amountMinor today) draft := by
  unfold checkCreditNote at accepted
  split at accepted
  · cases accepted
  · rename_i invoice loaded
    obtain ⟨active, accepted⟩ := guard_ok accepted
    obtain ⟨within, accepted⟩ := guard_ok accepted
    cases accepted
    exact .creditNote loaded active (Nat.le_of_not_lt within)

theorem checked_cancellation {invoiceId : ℕ} {now : ℤ}
    (accepted : checkCancellation rows now = .ok draft) :
    Checked rows (.cancelFinanceInvoice invoiceId now) draft := by
  unfold checkCancellation at accepted
  split at accepted
  · cases accepted
  · rename_i invoice loaded
    obtain ⟨unsettled, accepted⟩ := guard_ok accepted
    cases accepted
    exact .cancellation loaded (fun paid => unsettled (.inl paid))
      fun credited => unsettled (.inr credited)

/-- The guards of a delivery. -/
theorem sendable_of_guards {status : FinanceInvoiceStatus} {resend : Bool}
    (unsettled : ¬ (status = .paid ∨ status = .cancelled ∨ status = .credited))
    (again : ¬ (status = .sent ∧ resend = false)) :
    status ≠ .paid ∧ status ≠ .cancelled ∧ status ≠ .credited ∧
      (status = .sent → resend = true) := by
  simp only [not_or] at unsettled
  refine ⟨unsettled.1, unsettled.2.1, unsettled.2.2, fun sent => ?_⟩
  rw [← Bool.not_eq_false]
  exact fun single => again ⟨sent, single⟩

theorem checked_send {invoiceId : ℕ} {resend : Bool} {delivery : Delivery} {now : ℤ}
    (accepted : checkSend rows resend delivery now = .ok draft) :
    Checked rows (.sendFinanceInvoice invoiceId resend delivery now) draft := by
  unfold checkSend at accepted
  split at accepted
  · cases accepted
  · rename_i invoice loaded
    obtain ⟨unsettled, accepted⟩ := guard_ok accepted
    obtain ⟨again, accepted⟩ := guard_ok accepted
    obtain ⟨unpaid, active, uncredited, resends⟩ := sendable_of_guards unsettled again
    have persisted (answer : Refusal) (error : String) (raised : delivery = .invalid error ∨
          delivery = .failed error) (kept : persistSendFailure rows answer error = .ok draft) :
        Checked rows (.sendFinanceInvoice invoiceId resend delivery now) draft := by
      unfold persistSendFailure at kept
      split at kept
      · cases kept
      · rename_i failed reloaded
        cases kept
        exact .sendFailed loaded reloaded unpaid active uncredited resends raised
    cases delivery with
    | accepted =>
      cases accepted
      exact .sent loaded unpaid active uncredited resends
    | approvalRequired detail => cases accepted
    | invalid error => exact persisted _ error (.inl rfl) accepted
    | failed error => exact persisted _ error (.inr rfl) accepted

theorem checked_bulkSend {invoiceId : ℕ} {resend : Bool} {delivery : Delivery} {now : ℤ}
    (accepted : checkBulkSend rows resend delivery now = .ok draft) :
    Checked rows (.bulkSendInvoice invoiceId resend delivery now) draft := by
  unfold checkBulkSend at accepted
  split at accepted
  · cases accepted
  · rename_i invoice loaded
    obtain ⟨unsettled, accepted⟩ := guard_ok accepted
    obtain ⟨again, accepted⟩ := guard_ok accepted
    obtain ⟨unpaid, active, uncredited, resends⟩ := sendable_of_guards unsettled again
    cases delivery with
    | accepted =>
      cases accepted
      exact .bulkSent loaded unpaid active uncredited resends
    | approvalRequired detail | invalid error | failed error => cases accepted

theorem checked_of_check (accepted : request.check rows = .ok draft) :
    Checked rows request draft := by
  cases request with
  | recordInvoicePayment invoiceId amountMinor paymentDate => exact checked_payment accepted
  | reconcileBankRow transactionId invoiceId => exact checked_reconciliation accepted
  | createRefund paymentId amountMinor refundDate => exact checked_refund accepted
  | createCreditNote invoiceId amountMinor today => exact checked_creditNote accepted
  | cancelFinanceInvoice invoiceId now => exact checked_cancellation accepted
  | sendFinanceInvoice invoiceId resend delivery now => exact checked_send accepted
  | bulkSendInvoice invoiceId resend delivery now => exact checked_bulkSend accepted
  | deleteFinancePayment paymentId =>
    unfold LedgerRequest.check at accepted
    dsimp only at accepted
    split at accepted
    · cases accepted
    · rename_i payment loaded
      cases accepted
      exact .paymentDeletion loaded
  | deleteFinanceInvoice invoiceId =>
    unfold LedgerRequest.check at accepted
    dsimp only at accepted
    split at accepted
    · cases accepted
    · rename_i invoice loaded
      cases accepted
      exact .invoiceDeletion loaded
  | createExpense expenseDate amountMinor taxMinor =>
    cases accepted
    exact .expense
  | voidExpense expenseId =>
    unfold LedgerRequest.check at accepted
    dsimp only at accepted
    split at accepted
    · cases accepted
    · rename_i expense loaded
      cases accepted
      exact .voided loaded

theorem Checked.single (checked : Checked rows request draft) :
    ∃ write, draft.writes = [write] := by
  cases checked <;> exact ⟨_, rfl⟩

variable {ledger : FinanceLedger}

theorem Checked.known (checked : Checked rows request draft) (known : rows.KnownTo ledger) :
    ∀ write ∈ draft.writes, write.KnownTo ledger := by
  intro write member
  cases checked with
  | refund loaded covered =>
    rw [List.mem_singleton.mp member]
    exact ⟨_, known.payment _ loaded, rfl, rfl⟩
  | paymentDeletion loaded =>
    rw [List.mem_singleton.mp member]
    exact known.payment _ loaded
  | voided loaded =>
    rw [List.mem_singleton.mp member]
    exact known.expense _ loaded
  | payment | reconciliation | creditNote | invoiceDeletion | cancellation
  | sent | sendFailed | bulkSent | expense =>
    rw [List.mem_singleton.mp member]
    exact True.intro

namespace FinanceLedger

variable {ledger after : FinanceLedger} {writes : List LedgerWrite}

theorem guard_ok_iff : ledger.guardLockedFinancePeriods writes = .ok () ↔
      ∀ write ∈ writes, ∀ date ∈ write.accountingDates, ¬ ledger.PeriodLocked date.periodKey := by
  unfold guardLockedFinancePeriods
  split
  · rename_i date found
    have locked : ledger.PeriodLocked date.periodKey := by simpa using List.find?_some found
    obtain ⟨write, member, dated⟩ := List.mem_flatMap.mp (List.mem_of_find?_eq_some found)
    constructor
    · intro passed
      cases passed
    · intro open_
      exact absurd locked (open_ write member date dated)
  · rename_i none
    constructor
    · intro _ write member date dated locked
      have tested := List.find?_eq_none.mp none date (List.mem_flatMap.mpr ⟨write, member, dated⟩)
      exact tested (decide_eq_true locked)
    · intro _
      rfl

theorem flush_ok {view : FinanceLedger}
    (flushed : ledger.flush writes = .ok view) : ledger.guardLockedFinancePeriods writes = .ok () ∧
      ledger.writeAll writes = .ok view := by
  obtain ⟨_, passed, written⟩ := bind_ok flushed
  exact ⟨passed, written⟩

theorem synchronise_spec {draft : LedgerDraft} (synced : ledger.synchronise draft = .ok writes) :
    ∃ view, ledger.writeAll draft.writes = .ok view ∧
      ∃ target, syncedInvoice view draft.sync = .ok target ∧ ((writes = draft.writes ∧
            ∀ invoice, target = some invoice → view.syncedStatus invoice = none) ∨
          ∃ invoice status, target = some invoice ∧ view.syncedStatus invoice = some status ∧
            ledger.guardLockedFinancePeriods
              [.updateInvoice invoice { invoice with status }] = .ok () ∧
            writes = draft.writes ++ [.updateInvoice invoice { invoice with status }]) := by
  obtain ⟨view, viewed, rest⟩ := bind_ok synced
  obtain ⟨target, found, assigned⟩ := bind_ok rest
  refine ⟨view, viewed, target, found, ?_⟩
  split at assigned
  · cases assigned
    refine .inl ⟨rfl, ?_⟩
    intro invoice none
    cases none
  · rename_i invoice
    split at assigned
    · rename_i unassigned
      cases assigned
      refine .inl ⟨rfl, ?_⟩
      intro other same
      cases same
      exact unassigned
    · rename_i status isStatus
      obtain ⟨_, passed, same⟩ := bind_ok assigned
      cases same
      exact .inr ⟨invoice, status, rfl, isStatus, passed, rfl⟩

end FinanceLedger

def LedgerRequest.ReadsAlone (ledger : FinanceLedger) (rows : LoadedRows) : LedgerRequest → Prop
  | .recordInvoicePayment invoiceId _ _ | .createCreditNote invoiceId _ _
  | .deleteFinanceInvoice invoiceId =>
    ∃ invoice, ledger.invoiceOf invoiceId = some invoice ∧ rows =
        { invoice := some invoice
          payments := ledger.paymentsOf invoiceId
          creditNotes := ledger.creditNotesOf invoiceId }
  | .reconcileBankRow transactionId invoiceId =>
    ∃ transaction invoice, ledger.transactionOf transactionId = some transaction ∧
      transaction.status ≠ .matched ∧ 0 < transaction.amountMinor ∧
      ledger.invoiceOf invoiceId = some invoice ∧ rows =
        { transaction := some transaction
          invoice := some invoice
          payments := ledger.paymentsOf invoiceId
          creditNotes := ledger.creditNotesOf invoiceId
          refundedMinor := ledger.refundedMinor invoiceId }
  | .createRefund paymentId _ refundDate =>
    ∃ payment, ledger.paymentOf paymentId = some payment ∧
      ¬ ledger.PeriodLocked refundDate.periodKey ∧ rows =
        { payment := some payment
          paymentRefundedMinor := ledger.paymentRefundedMinor paymentId }
  | .deleteFinancePayment paymentId =>
    ∃ payment, ledger.paymentOf paymentId = some payment ∧ rows = { payment := some payment }
  | .cancelFinanceInvoice invoiceId _ | .bulkSendInvoice invoiceId _ _ _ =>
    ∃ invoice, ledger.invoiceOf invoiceId = some invoice ∧ rows = { invoice := some invoice }
  | .sendFinanceInvoice invoiceId _ _ _ =>
    ∃ invoice, ledger.invoiceOf invoiceId = some invoice ∧ rows.invoice = some invoice ∧
      ∀ failed, rows.failedInvoice = some failed → failed = invoice
  | .createExpense _ _ _ => rows = {}
  | .voidExpense expenseId =>
    ∃ expense, ledger.expenseOf expenseId = some expense ∧ rows = { expense := some expense }

namespace FinanceLedger

variable {ledger : FinanceLedger} {rows loaded : LoadedRows} {id : ℕ}

theorem read_invoice_ok (read : ledger.read rows (.invoice id) = .ok loaded) :
    ∃ invoice, ledger.invoiceOf id = some invoice ∧
      loaded = { rows with invoice := some invoice } := by
  unfold FinanceLedger.read at read
  dsimp only at read
  split at read
  · rename_i invoice found
    cases read
    exact ⟨invoice, found, rfl⟩
  · cases read

theorem read_payment_ok (read : ledger.read rows (.payment id) = .ok loaded) :
    ∃ payment, ledger.paymentOf id = some payment ∧
      loaded = { rows with payment := some payment } := by
  unfold FinanceLedger.read at read
  dsimp only at read
  split at read
  · rename_i payment found
    cases read
    exact ⟨payment, found, rfl⟩
  · cases read

theorem read_expense_ok (read : ledger.read rows (.expense id) = .ok loaded) :
    ∃ expense, ledger.expenseOf id = some expense ∧
      loaded = { rows with expense := some expense } := by
  unfold FinanceLedger.read at read
  dsimp only at read
  split at read
  · rename_i expense found
    cases read
    exact ⟨expense, found, rfl⟩
  · cases read

theorem read_transaction_ok (read : ledger.read rows (.transaction id) = .ok loaded) :
    ∃ transaction, ledger.transactionOf id = some transaction ∧
      transaction.status ≠ .matched ∧ 0 < transaction.amountMinor ∧
      loaded = { rows with transaction := some transaction } := by
  unfold FinanceLedger.read at read
  dsimp only at read
  split at read
  · cases read
  · rename_i transaction found
    split at read
    · cases read
    · rename_i unmatched
      split at read
      · cases read
      · rename_i positive
        cases read
        exact ⟨transaction, found, unmatched, Int.not_le.mp positive, rfl⟩

theorem read_openPeriod_ok {date : AccountingDate} {operation : String}
    (read : ledger.read rows (.openPeriod date operation) = .ok loaded) :
    ¬ ledger.PeriodLocked date.periodKey ∧ loaded = rows := by
  change (ledger.ensurePeriodOpen date operation).map (fun _ => rows) = .ok loaded at read
  unfold ensurePeriodOpen at read
  split at read
  · cases read
  · rename_i isOpen
    cases read
    exact ⟨isOpen, rfl⟩

theorem readsAlone {request : LedgerRequest}
    (read : request.reads.foldlM ledger.read {} = .ok rows) : request.ReadsAlone ledger rows := by
  cases request with
  | recordInvoicePayment invoiceId amountMinor paymentDate
  | createCreditNote invoiceId amountMinor today
  | deleteFinanceInvoice invoiceId =>
    obtain ⟨_, first, rest⟩ := bind_ok read
    obtain ⟨invoice, found, rfl⟩ := read_invoice_ok first
    cases rest
    exact ⟨invoice, found, rfl⟩
  | reconcileBankRow transactionId invoiceId =>
    obtain ⟨_, first, rest⟩ := bind_ok read
    obtain ⟨transaction, found, unmatched, positive, rfl⟩ :=
      read_transaction_ok first
    obtain ⟨_, second, rest⟩ := bind_ok rest
    obtain ⟨invoice, invoiceFound, rfl⟩ := read_invoice_ok second
    cases rest
    exact ⟨transaction, invoice, found, unmatched, positive, invoiceFound, rfl⟩
  | createRefund paymentId amountMinor refundDate =>
    obtain ⟨_, first, rest⟩ := bind_ok read
    obtain ⟨payment, found, rfl⟩ := read_payment_ok first
    obtain ⟨_, second, rest⟩ := bind_ok rest
    obtain ⟨isOpen, rfl⟩ := read_openPeriod_ok second
    cases rest
    exact ⟨payment, found, isOpen, rfl⟩
  | deleteFinancePayment paymentId =>
    obtain ⟨_, first, rest⟩ := bind_ok read
    obtain ⟨payment, found, rfl⟩ := read_payment_ok first
    cases rest
    exact ⟨payment, found, rfl⟩
  | cancelFinanceInvoice invoiceId now
  | bulkSendInvoice invoiceId resend delivery now =>
    obtain ⟨_, first, rest⟩ := bind_ok read
    obtain ⟨invoice, found, rfl⟩ := read_invoice_ok first
    cases rest
    exact ⟨invoice, found, rfl⟩
  | sendFinanceInvoice invoiceId resend delivery now =>
    cases delivery with
    | accepted | approvalRequired detail =>
      obtain ⟨_, first, rest⟩ := bind_ok read
      obtain ⟨invoice, found, rfl⟩ := read_invoice_ok first
      cases rest
      exact ⟨invoice, found, rfl, by rintro _ ⟨⟩⟩
    | invalid error | failed error =>
      obtain ⟨_, first, rest⟩ := bind_ok read
      obtain ⟨invoice, found, rfl⟩ := read_invoice_ok first
      cases rest
      refine ⟨invoice, found, rfl, ?_⟩
      intro failed reloaded
      exact Option.some.inj (reloaded.symm.trans found)
  | createExpense expenseDate amountMinor taxMinor =>
    cases read
    rfl
  | voidExpense expenseId =>
    obtain ⟨_, first, rest⟩ := bind_ok read
    obtain ⟨expense, found, rfl⟩ := read_expense_ok first
    cases rest
    exact ⟨expense, found, rfl⟩

end FinanceLedger

theorem FinanceLedger.perform_spec {after : FinanceLedger}
    (accepted : ledger.perform request = .ok after) : ∃ rows draft writes,
      request.reads.foldlM ledger.read {} = .ok rows ∧ Checked rows request draft ∧
      ledger.guardLockedFinancePeriods draft.writes = .ok () ∧
      ledger.synchronise draft = .ok writes ∧ ledger.writeAll writes = .ok after := by
  obtain ⟨rows, read, rest⟩ := bind_ok accepted
  obtain ⟨draft, checked, rest⟩ := bind_ok rest
  obtain ⟨_, flushed, rest⟩ := bind_ok rest
  obtain ⟨writes, synced, written⟩ := bind_ok rest
  exact ⟨rows, draft, writes, read, checked_of_check checked, (flush_ok flushed).1, synced, written⟩

variable {view : FinanceLedger} {writes : List LedgerWrite}

theorem FinanceLedger.perform_eq (read : request.reads.foldlM ledger.read {} = .ok rows)
    (checked : request.check rows = .ok draft)
    (guarded : ledger.guardLockedFinancePeriods draft.writes = .ok ())
    (viewed : ledger.writeAll draft.writes = .ok view)
    (synced : ledger.synchronise draft = .ok writes) :
    ledger.perform request = ledger.writeAll writes := by
  have flushed : ledger.flush draft.writes = .ok view := by
    unfold flush
    rw [guarded]
    exact viewed
  unfold perform
  rw [read]
  change (do
    let draft ← request.check rows
    let _ ← ledger.flush draft.writes
    let writes ← ledger.synchronise draft
    ledger.writeAll writes) = _
  rw [checked]
  change (do
    let _ ← ledger.flush draft.writes
    let writes ← ledger.synchronise draft
    ledger.writeAll writes) = _
  rw [flushed]
  change (do
    let writes ← ledger.synchronise draft
    ledger.writeAll writes) = _
  rw [synced]
  rfl

theorem FinanceLedger.synchronise_assigned
    {invoice : FinanceInvoice} {status : FinanceInvoiceStatus}
    (viewed : ledger.writeAll writes = .ok view)
    (assigned : view.syncedStatus invoice = some status) (guarded : ledger.guardLockedFinancePeriods
      [.updateInvoice invoice { invoice with status }] = .ok ()) :
    ledger.synchronise ⟨writes, .loaded invoice⟩ =
      .ok (writes ++ [.updateInvoice invoice { invoice with status }]) := by
  unfold synchronise
  dsimp only
  have loaded : view.syncedInvoice (.loaded invoice) = .ok (some invoice) := rfl
  simp only [viewed, loaded, assigned, guarded, bind, Except.bind, pure, Except.pure]

theorem FinanceLedger.synchronise_unassigned {invoice : FinanceInvoice}
    (viewed : ledger.writeAll writes = .ok view) (unassigned : view.syncedStatus invoice = none) :
    ledger.synchronise ⟨writes, .loaded invoice⟩ = .ok writes := by
  unfold synchronise
  dsimp only
  have loaded : view.syncedInvoice (.loaded invoice) = .ok (some invoice) := rfl
  simp only [viewed, loaded, unassigned, bind, Except.bind, pure, Except.pure]

theorem FinanceLedger.closePeriod_spec (ledger : FinanceLedger) (year month : ℕ) : ∃ periods,
      ledger.closePeriod year month = { ledger with periods } := by
  unfold closePeriod
  split
  · exact ⟨ledger.periods, rfl⟩
  · split
    · exact ⟨_, rfl⟩
    · exact ⟨_, rfl⟩

namespace LedgerState

variable {state : LedgerState} {index : ℕ}

theorem advance_cases (state : LedgerState) (index : ℕ) :
    (state.calls[index]? = none ∧ state.advance index = state) ∨ state.advance index =
        { state with calls := state.calls.eraseIdx index } ∨
      (∃ call following, state.calls[index]? = some call ∧
        call.next state.ledger = .ok (.inl following) ∧ state.advance index =
          { state with calls := state.calls.set index following }) ∨
      ∃ writes committed, state.calls[index]? = some (.synchronised writes) ∧
        state.ledger.writeAll writes = .ok committed ∧ state.advance index = { state with
            ledger := committed
            calls := state.calls.eraseIdx index } := by
  unfold advance
  split
  · rename_i none
    exact .inl ⟨none, rfl⟩
  · rename_i call found
    split
    · rename_i following next
      exact .inr (.inr (.inl ⟨call, following, found, next, rfl⟩))
    · rename_i committed next
      refine .inr (.inr (.inr ?_))
      cases call with
      | reading request remaining rows =>
        cases remaining with
        | nil =>
          obtain ⟨draft, _, rest⟩ := bind_ok next
          obtain ⟨_, _, impossible⟩ := bind_ok rest
          cases impossible
        | cons statement remaining =>
          obtain ⟨_, _, impossible⟩ := bind_ok next
          cases impossible
      | flushed draft =>
        obtain ⟨_, _, impossible⟩ := bind_ok next
        cases impossible
      | synchronised writes =>
        obtain ⟨_, written, same⟩ := bind_ok next
        cases same
        exact ⟨writes, committed, found, written, rfl⟩
    · exact .inr (.inl rfl)

theorem next_known {ledger : FinanceLedger} {call following : LedgerCall}
    (identified : ledger.Identified) (known : call.KnownTo ledger)
    (next : call.next ledger = .ok (.inl following)) : following.KnownTo ledger := by
  cases call with
  | reading request remaining rows =>
    cases remaining with
    | nil =>
      obtain ⟨draft, accepted, rest⟩ := bind_ok next
      obtain ⟨_, _, same⟩ := bind_ok rest
      cases same
      exact (checked_of_check accepted).known known
    | cons statement remaining =>
      obtain ⟨loaded, accepted, same⟩ := bind_ok next
      cases same
      exact FinanceLedger.read_known identified known accepted
  | flushed draft =>
    obtain ⟨writes, synced, same⟩ := bind_ok next
    cases same
    obtain ⟨_, _, _, _, spec⟩ := FinanceLedger.synchronise_spec synced
    rcases spec with ⟨rfl, _⟩ | ⟨invoice, status, _, _, _, rfl⟩
    · exact known
    · intro write member
      rcases List.mem_append.mp member with old | new
      · exact known write old
      · rw [List.mem_singleton.mp new]
        exact True.intro
  | synchronised writes =>
    obtain ⟨_, _, impossible⟩ := bind_ok next
    cases impossible

/-- The rows that the calls name are the rows that they have loaded. -/
structure Known (state : LedgerState) : Prop where
  identified : state.ledger.Identified
  calls : ∀ call ∈ state.calls, call.KnownTo state.ledger

theorem Known.periods (known : state.Known) (periods : List FinanceAccountingPeriod) :
    Known { state with ledger := { state.ledger with periods } } := by
  refine ⟨⟨known.identified.invoices, known.identified.payments,
    known.identified.paymentIds, known.identified.expenses, known.identified.expenseIds⟩, ?_⟩
  intro call member
  exact @FinanceLedger.Evolves.call state.ledger _ call (.of_eq rfl rfl rfl)
    (known.calls call member)

theorem Known.perform (known : state.Known) (action : LedgerAction) :
    (state.perform action).Known := by
  cases action with
  | request request =>
    refine ⟨known.identified, ?_⟩
    intro call member
    rcases List.mem_append.mp member with old | new
    · exact known.calls call old
    · rw [List.mem_singleton.mp new]
      exact FinanceLedger.nothing_known state.ledger
  | advance index =>
    change (state.advance index).Known
    rcases state.advance_cases index with
      ⟨_, same⟩ | dropped | ⟨call, following, found, next, same⟩ |
        ⟨writes, committed, found, written, same⟩
    · rw [same]
      exact known
    · rw [dropped]
      exact ⟨known.identified, fun call member =>
        known.calls call (List.mem_of_mem_eraseIdx member)⟩
    · rw [same]
      refine ⟨known.identified, ?_⟩
      intro other member
      rcases List.mem_or_eq_of_mem_set member with old | new
      · exact known.calls other old
      · rw [new]
        exact next_known known.identified (known.calls call (List.mem_of_getElem? found)) next
    · rw [same]
      refine ⟨FinanceLedger.writeAll_identified known.identified written, ?_⟩
      intro call member
      exact (FinanceLedger.writeAll_evolves written).call
        (known.calls call (List.mem_of_mem_eraseIdx member))
  | crash index =>
    exact ⟨known.identified, fun call member => known.calls call (List.mem_of_mem_eraseIdx member)⟩
  | closePeriod year month =>
    obtain ⟨periods, same⟩ := state.ledger.closePeriod_spec year month
    change Known { state with ledger := state.ledger.closePeriod year month }
    rw [same]
    exact known.periods periods
  | openPeriod year month => exact known.periods _

end LedgerState

end Ithute.Finance
