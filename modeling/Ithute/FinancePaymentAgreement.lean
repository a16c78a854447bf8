import Ithute.Library.UniqueRows
import Ithute.FinanceConservation

/-!
# The two payment entry points

A payment is recorded, or a bank credit is reconciled.  Recording subtracts
what was paid before refunds and refuses a cancelled invoice; reconciling
subtracts what was paid after refunds and does not look at the status.
-/

namespace Ithute.Finance

open TransitionRuns GroupedTotals

/-- A payment is accepted and lowers the outstanding balance by its amount. -/
def FinanceLedger.LowersOutstanding (ledger : FinanceLedger)
    (invoice : FinanceInvoice) (amountMinor : ℕ) (result : Except Refusal FinanceLedger) : Prop :=
  ∃ after, result = .ok after ∧ ∃ later, after.invoiceOf invoice.id = some later ∧
      after.outstandingMinor later + amountMinor = ledger.outstandingMinor invoice

def Refused (result : Except Refusal FinanceLedger) : Prop := ∃ refusal, result = .error refusal

/-- Recording a payment and reconciling a bank credit of the same amount are
both accepted, or both refused when the invoice is cancelled. -/
def FinanceLedger.EntryPointsAgree (ledger : FinanceLedger)
    (invoice : FinanceInvoice) (amountMinor : ℕ)
    (paymentDate : AccountingDate) (transactionId : ℕ) : Prop :=
  if invoice.status = .cancelled then
    Refused (ledger.perform (.recordInvoicePayment invoice.id amountMinor paymentDate)) ∧
      Refused (ledger.perform (.reconcileBankRow transactionId invoice.id))
  else
    ledger.LowersOutstanding invoice amountMinor (ledger.perform
        (.recordInvoicePayment invoice.id amountMinor paymentDate)) ∧
      ledger.LowersOutstanding invoice amountMinor
        (ledger.perform (.reconcileBankRow transactionId invoice.id))

/-- The amount is not above what is left of the total when refunds are not
counted, and the periods are open; for a cancelled invoice the period of the
bank credit is locked. -/
def FinanceLedger.EntryPointsMeet (ledger : FinanceLedger)
    (invoice : FinanceInvoice) (amountMinor : ℕ)
    (paymentDate transactionDate : AccountingDate) : Prop :=
  if invoice.status = .cancelled then
    ledger.PeriodLocked transactionDate.periodKey
  else
    amountMinor ≤ ledger.adjustedTotalMinor invoice - ledger.grossPaidMinor invoice.id ∧
      ¬ ledger.PeriodLocked paymentDate.periodKey ∧
      ¬ ledger.PeriodLocked transactionDate.periodKey ∧
      ¬ ledger.PeriodLocked invoice.createdOn.periodKey

instance (ledger : FinanceLedger) (invoice : FinanceInvoice)
    (amountMinor : ℕ) (paymentDate transactionDate : AccountingDate) :
    Decidable (ledger.EntryPointsMeet invoice amountMinor paymentDate transactionDate) := by
  unfold FinanceLedger.EntryPointsMeet
  infer_instance

def LedgerWrite.addedPayment : LedgerWrite → Option FinancePayment
  | .insertPayment row | .reconcilePayment row _ => some row
  | _ => none

namespace FinanceLedger

variable {ledger after : FinanceLedger} {invoice : FinanceInvoice}
variable {row : FinancePayment} {write : LedgerWrite} {amountMinor : ℕ}

theorem Sound.refunded_le_gross (sound : ledger.Sound) (invoiceId : ℕ) :
    ledger.refundedMinor invoiceId ≤ ledger.grossPaidMinor invoiceId :=
  total_parts_le sound.identified.payments sound.linked sound.conserved.refunded

theorem addedPayment_totals (adds : write.addedPayment = some row) (invoiceId : ℕ) :
    (ledger.apply write).grossPaidMinor invoiceId = ledger.grossPaidMinor invoiceId +
          (if row.invoiceId = invoiceId then row.amountMinor else 0) ∧
      (ledger.apply write).refundedMinor invoiceId = ledger.refundedMinor invoiceId ∧
      (ledger.apply write).creditedMinor invoiceId = ledger.creditedMinor invoiceId ∧
      (ledger.apply write).invoices = ledger.invoices := by
  cases write with
  | insertPayment other | reconcilePayment other transaction =>
    cases adds
    exact ⟨grossPaidMinor_addPayment row invoiceId, rfl, rfl, rfl⟩
  | insertRefund | insertCreditNote | insertExpense | updateInvoice
  | voidExpense | deletePayment | deleteInvoice => cases adds

theorem Sound.outstanding_addedPayment (sound : ledger.Sound) (adds : write.addedPayment = some row)
    (same : row.invoiceId = invoice.id)
    (within : row.amountMinor ≤ ledger.outstandingMinor invoice) :
    (ledger.apply write).outstandingMinor invoice + row.amountMinor =
      ledger.outstandingMinor invoice := by
  have refunds := sound.refunded_le_gross invoice.id
  obtain ⟨gross, refunded, credited, _⟩ := @addedPayment_totals ledger row write adds invoice.id
  rw [if_pos same] at gross
  unfold outstandingMinor adjustedTotalMinor paidMinor at within ⊢
  rw [gross, refunded, credited]
  omega

theorem syncedStatus_of_paid (active : invoice.status ≠ .cancelled)
    (paid : 0 < ledger.paidMinor invoice.id) :
    ∃ status, ledger.syncedStatus invoice = some status := by
  unfold syncedStatus settledStatus
  rw [if_neg active]
  dsimp only
  split
  · exact ⟨_, rfl⟩
  · rename_i unsettled
    rw [if_pos paid] at unsettled
    split at unsettled
    · cases unsettled
    · split at unsettled <;> cases unsettled

theorem Sound.paid_addedPayment (sound : ledger.Sound) (adds : write.addedPayment = some row)
    (same : row.invoiceId = invoice.id) (positive : 0 < row.amountMinor) :
    0 < (ledger.apply write).paidMinor invoice.id := by
  have refunds := sound.refunded_le_gross invoice.id
  obtain ⟨gross, refunded, _⟩ := @addedPayment_totals ledger row write adds invoice.id
  rw [if_pos same] at gross
  unfold paidMinor
  omega

theorem invoiceOf_updateInvoice {saved : FinanceInvoice}
    (found : ledger.invoiceOf invoice.id = some invoice) :
    ∃ later, (ledger.apply (.updateInvoice invoice saved)).invoiceOf
        invoice.id = some later ∧ later.id = invoice.id ∧
      later.totalMinor = invoice.totalMinor := by
  refine ⟨invoice.written saved invoice, ?_, rfl, rfl⟩
  have mapped := @UniqueRows.find?_map FinanceInvoice ledger.invoices invoice
    (fun row => decide (row.id = invoice.id)) (fun stored => if stored.id = invoice.id then
      invoice.written saved stored else stored) found (by simp [ FinanceInvoice.written]) (by
      intro other _ written
      by_cases same : other.id = invoice.id
      · exact decide_eq_true same
      · rw [if_neg same] at written
        exact written)
  rw [if_pos rfl] at mapped
  exact mapped

theorem Sound.perform_payment {request : LedgerRequest} {rows : LoadedRows} (sound : ledger.Sound)
    (found : ledger.invoiceOf invoice.id = some invoice)
    (read : request.reads.foldlM ledger.read {} = .ok rows)
    (checked : request.check rows = .ok ⟨[write], .loaded invoice⟩)
    (adds : write.addedPayment = some row)
    (same : row.invoiceId = invoice.id) (positive : 0 < row.amountMinor)
    (within : row.amountMinor ≤ ledger.outstandingMinor invoice)
    (datesOpen : ∀ date ∈ write.accountingDates, ¬ ledger.PeriodLocked date.periodKey)
    (createdOpen : invoice.status ≠ .cancelled →
      ¬ ledger.PeriodLocked invoice.createdOn.periodKey) :
    ledger.LowersOutstanding invoice row.amountMinor (ledger.perform request) := by
  have hasInvoice : ledger.HasInvoice row.invoiceId :=
    ⟨invoice, (invoiceOf_spec found).1, same.symm⟩
  have admits : ledger.Admits write := by
    cases write with
    | insertPayment other | reconcilePayment other transaction =>
      cases adds
      exact hasInvoice
    | insertRefund | insertCreditNote | insertExpense | updateInvoice
    | voidExpense | deletePayment | deleteInvoice => cases adds
  have viewed := writeAll_single admits
  have guarded : ledger.guardLockedFinancePeriods [write] = .ok () := by
    rw [guard_ok_iff]
    intro other member
    rw [List.mem_singleton.mp member]
    exact datesOpen
  have lowered := sound.outstanding_addedPayment adds same within
  have invoices := (@addedPayment_totals ledger row write adds invoice.id).2.2.2
  have foundThere : (ledger.apply write).invoiceOf invoice.id = some invoice := by
    unfold invoiceOf at found ⊢
    rw [invoices, found]
  by_cases cancelled : invoice.status = .cancelled
  · have unassigned : (ledger.apply write).syncedStatus invoice = none := by
      unfold syncedStatus
      rw [if_pos cancelled]
    refine ⟨ledger.apply write, ?_, invoice, foundThere, lowered⟩
    exact (perform_eq read checked guarded viewed
      (synchronise_unassigned viewed unassigned)).trans viewed
  · obtain ⟨status, assigned⟩ := syncedStatus_of_paid cancelled
      (sound.paid_addedPayment adds same positive)
    have guardedStatus : ledger.guardLockedFinancePeriods
        [.updateInvoice invoice { invoice with status }] = .ok () := by
      rw [guard_ok_iff]
      intro other member date dated
      rw [List.mem_singleton.mp member] at dated
      rw [List.mem_singleton.mp dated]
      exact createdOpen cancelled
    have written : ledger.writeAll ([write] ++ [.updateInvoice invoice { invoice with status }]) =
          .ok ((ledger.apply write).apply (.updateInvoice invoice { invoice with status })) := by
      have stored : (ledger.apply write).HasInvoice invoice.id :=
        ⟨invoice, (invoiceOf_spec foundThere).1, rfl⟩
      rw [writeAll_append viewed]
      exact writeAll_single (.inr stored)
    obtain ⟨later, laterFound, sameId, sameTotal⟩ :=
      @invoiceOf_updateInvoice (ledger.apply write) invoice { invoice with status } foundThere
    refine ⟨_, (perform_eq read checked guarded viewed
      (synchronise_assigned viewed assigned guardedStatus)).trans written, later, laterFound, ?_⟩
    rw [← lowered]
    unfold outstandingMinor adjustedTotalMinor
    rw [sameId, sameTotal]
    rfl

theorem Sound.payment_guards {request : LedgerRequest} {rows : LoadedRows} (sound : ledger.Sound)
    (read : request.reads.foldlM ledger.read {} = .ok rows)
    (drafted : ∀ draft, Checked rows request draft → draft = ⟨[write], .loaded invoice⟩)
    (adds : write.addedPayment = some row)
    (same : row.invoiceId = invoice.id) (positive : 0 < row.amountMinor)
    (accepted : ledger.perform request = .ok after) : (∀ date ∈ write.accountingDates,
      ¬ ledger.PeriodLocked date.periodKey) ∧
    (invoice.status ≠ .cancelled → ¬ ledger.PeriodLocked invoice.createdOn.periodKey) := by
  obtain ⟨others, draft, writes, otherRead, checked, guarded, synced, _⟩ := perform_spec accepted
  cases read.symm.trans otherRead
  cases drafted draft checked
  rw [guard_ok_iff] at guarded
  refine ⟨guarded write List.mem_cons_self, ?_⟩
  intro active
  obtain ⟨view, viewed, target, isTarget, spec⟩ := synchronise_spec synced
  cases isTarget
  obtain ⟨_, rfl⟩ := writeAll_single_ok viewed
  obtain ⟨status, assigned⟩ := syncedStatus_of_paid active
    (sound.paid_addedPayment adds same positive)
  rcases spec with ⟨_, unassigned⟩ | ⟨other, status', isOther, _, passed, _⟩
  · rw [unassigned invoice rfl] at assigned
    cases assigned
  · cases isOther
    rw [guard_ok_iff] at passed
    exact passed _ List.mem_cons_self _ List.mem_cons_self

variable {paymentDate : AccountingDate} {transaction : FinanceBankTransaction}

theorem reads_recordInvoicePayment (found : ledger.invoiceOf invoice.id = some invoice) :
    (LedgerRequest.recordInvoicePayment invoice.id amountMinor
        paymentDate).reads.foldlM ledger.read {} = .ok
        { invoice := some invoice
          payments := ledger.paymentsOf invoice.id
          creditNotes := ledger.creditNotesOf invoice.id } := by
  change (do
    let rows ← ledger.read {} (.invoice invoice.id)
    [LedgerRead.payments invoice.id, .creditNotes invoice.id].foldlM
      ledger.read rows) = _
  have read : ledger.read {} (.invoice invoice.id) = .ok { invoice := some invoice } := by
    unfold FinanceLedger.read
    dsimp only
    rw [found]
  rw [read]
  rfl

theorem reads_reconcileBankRow (transactionFound : ledger.transactionOf transaction.id =
      some transaction) (unmatched : transaction.status ≠ .matched)
    (positive : 0 < transaction.amountMinor) (found : ledger.invoiceOf invoice.id = some invoice) :
    (LedgerRequest.reconcileBankRow transaction.id invoice.id).reads.foldlM ledger.read {} = .ok
        { transaction := some transaction
          invoice := some invoice
          payments := ledger.paymentsOf invoice.id
          creditNotes := ledger.creditNotesOf invoice.id
          refundedMinor := ledger.refundedMinor invoice.id } := by
  have first : ledger.read {} (.transaction transaction.id) =
      .ok { transaction := some transaction } := by
    unfold FinanceLedger.read
    dsimp only
    rw [transactionFound]
    dsimp only
    rw [if_neg unmatched, if_neg (Int.not_le.mpr positive)]
  have second (rows : LoadedRows) : ledger.read rows (.invoice invoice.id) =
        .ok { rows with invoice := some invoice } := by
    unfold FinanceLedger.read
    dsimp only
    rw [found]
  change (do
    let rows ← ledger.read {} (.transaction transaction.id)
    let rows ← ledger.read rows (.invoice invoice.id)
    [LedgerRead.payments invoice.id, .creditNotes invoice.id,
      .refunds invoice.id].foldlM ledger.read rows) = _
  rw [first]
  change (do
    let rows ← ledger.read { transaction := some transaction } (.invoice invoice.id)
    [LedgerRead.payments invoice.id, .creditNotes invoice.id,
      .refunds invoice.id].foldlM ledger.read rows) = _
  rw [second]
  rfl

theorem refused_iff {result : Except Refusal FinanceLedger} :
    Refused result ↔ ∀ after, result ≠ .ok after := by
  cases result with
  | error refusal => exact ⟨fun _ _ => nofun, fun _ => ⟨refusal, rfl⟩⟩
  | ok ledger =>
    constructor
    · rintro ⟨_, ⟨⟩⟩
    · intro never
      exact absurd rfl (never ledger)

theorem recordInvoicePayment_checked (found : ledger.invoiceOf invoice.id = some invoice)
    (accepted : ledger.perform (.recordInvoicePayment invoice.id amountMinor
      paymentDate) = .ok after) : invoice.status ≠ .cancelled ∧
      amountMinor ≤ ledger.adjustedTotalMinor invoice - ledger.grossPaidMinor invoice.id := by
  obtain ⟨rows, draft, writes, read, checked, _⟩ := perform_spec accepted
  cases read.symm.trans (reads_recordInvoicePayment found)
  cases checked with
  | payment loaded active open_ covered =>
    cases loaded
    exact ⟨active, covered⟩

/-- Recording is accepted if the amount is covered before refunds, the
invoice is not cancelled, and the periods are open. -/
theorem Sound.lowers_recordInvoicePayment_iff (sound : ledger.Sound)
    (found : ledger.invoiceOf invoice.id = some invoice) (positive : 0 < amountMinor)
    (within : amountMinor ≤ ledger.outstandingMinor invoice) :
    ledger.LowersOutstanding invoice amountMinor (ledger.perform
        (.recordInvoicePayment invoice.id amountMinor paymentDate)) ↔ invoice.status ≠ .cancelled ∧
        amountMinor ≤ ledger.adjustedTotalMinor invoice - ledger.grossPaidMinor invoice.id ∧
        ¬ ledger.PeriodLocked paymentDate.periodKey ∧
        ¬ ledger.PeriodLocked invoice.createdOn.periodKey := by
  have read := @reads_recordInvoicePayment ledger invoice amountMinor paymentDate found
  constructor
  · rintro ⟨after, accepted, _⟩
    obtain ⟨active, covered⟩ := recordInvoicePayment_checked found accepted
    obtain ⟨datesOpen, createdOpen⟩ := @payment_guards ledger after invoice
      ⟨0, invoice.id, amountMinor, paymentDate⟩
      (.insertPayment ⟨0, invoice.id, amountMinor, paymentDate⟩) _ _ sound
      read (by
        intro draft checked
        cases checked with
        | payment loaded active open_ covered =>
          cases loaded
          rfl) rfl rfl positive accepted
    exact ⟨active, covered, datesOpen _ List.mem_cons_self, createdOpen active⟩
  · rintro ⟨active, covered, dateOpen, createdOpen⟩
    refine @perform_payment ledger invoice ⟨0, invoice.id, amountMinor, paymentDate⟩
      (.insertPayment ⟨0, invoice.id, amountMinor, paymentDate⟩) _ _ sound
      found read ?_ rfl rfl positive within ?_ fun _ => createdOpen
    · change amountMinor ≤ invoice.totalMinor -
        ((ledger.creditNotesOf invoice.id).map fun row =>
          row.amountMinor).sum -
        ((ledger.paymentsOf invoice.id).map fun row =>
          row.amountMinor).sum at covered
      unfold LedgerRequest.check checkPayment
      dsimp only
      rw [if_neg active, if_neg (by omega), if_neg (by omega)]
    · intro date member
      rw [List.mem_singleton.mp member]
      exact dateOpen

/-- A bank credit of an amount that is not above the outstanding balance. -/
structure Creditable (ledger : FinanceLedger) (invoice : FinanceInvoice)
    (amountMinor : ℕ) (transaction : FinanceBankTransaction) : Prop where
  found : ledger.transactionOf transaction.id = some transaction
  unmatched : transaction.status ≠ .matched
  amount : transaction.amountMinor = amountMinor
  positive : 0 < amountMinor
  within : amountMinor ≤ ledger.outstandingMinor invoice

theorem Creditable.check (creditable : ledger.Creditable invoice amountMinor transaction) :
    (LedgerRequest.reconcileBankRow transaction.id invoice.id).check
        { transaction := some transaction
          invoice := some invoice
          payments := ledger.paymentsOf invoice.id
          creditNotes := ledger.creditNotesOf invoice.id
          refundedMinor := ledger.refundedMinor invoice.id } =
      .ok ⟨[.reconcilePayment ⟨0, invoice.id, amountMinor, transaction.transactionDate⟩
            transaction], .loaded invoice⟩ := by
  have within := creditable.within
  have positive := creditable.positive
  change amountMinor ≤ invoice.totalMinor -
    ((ledger.creditNotesOf invoice.id).map fun row => row.amountMinor).sum -
    (((ledger.paymentsOf invoice.id).map fun row => row.amountMinor).sum -
      ledger.refundedMinor invoice.id) at within
  unfold LedgerRequest.check checkReconciliation
  dsimp only
  rw [if_neg (by omega), creditable.amount, Int.toNat_natCast, Nat.min_eq_left within]

theorem Sound.reconcileBankRow_guards (sound : ledger.Sound)
    (found : ledger.invoiceOf invoice.id = some invoice)
    (creditable : ledger.Creditable invoice amountMinor transaction)
    (accepted : ledger.perform (.reconcileBankRow transaction.id invoice.id) = .ok after) :
    ¬ ledger.PeriodLocked transaction.transactionDate.periodKey ∧ (invoice.status ≠ .cancelled →
        ¬ ledger.PeriodLocked invoice.createdOn.periodKey) := by
  have positive : 0 < transaction.amountMinor := by
    rw [creditable.amount]
    exact Int.natCast_pos.mpr creditable.positive
  have read := reads_reconcileBankRow creditable.found creditable.unmatched positive found
  obtain ⟨datesOpen, createdOpen⟩ := @payment_guards ledger after invoice
    ⟨0, invoice.id, amountMinor, transaction.transactionDate⟩ (.reconcilePayment
      ⟨0, invoice.id, amountMinor, transaction.transactionDate⟩ transaction)
    _ _ sound read (by
      intro draft checked
      cases checked with
      | reconciliation transactionFound loaded balance open_ =>
        cases transactionFound
        cases loaded
        have within := creditable.within
        rename_i outstanding
        have same : min transaction.amountMinor.toNat outstanding = amountMinor := by
          rw [creditable.amount, Int.toNat_natCast, balance]
          exact Nat.min_eq_left within
        rw [same]) rfl rfl creditable.positive accepted
  exact ⟨datesOpen _ List.mem_cons_self, createdOpen⟩

/-- Reconciling is accepted if the periods are open; that of a cancelled
invoice is not looked at. -/
theorem Sound.lowers_reconcileBankRow_iff (sound : ledger.Sound)
    (found : ledger.invoiceOf invoice.id = some invoice)
    (creditable : ledger.Creditable invoice amountMinor transaction) :
    ledger.LowersOutstanding invoice amountMinor (ledger.perform
        (.reconcileBankRow transaction.id invoice.id)) ↔
      ¬ ledger.PeriodLocked transaction.transactionDate.periodKey ∧ (invoice.status ≠ .cancelled →
          ¬ ledger.PeriodLocked invoice.createdOn.periodKey) := by
  constructor
  · rintro ⟨after, accepted, _⟩
    exact sound.reconcileBankRow_guards found creditable accepted
  · rintro ⟨dateOpen, createdOpen⟩
    have positive : 0 < transaction.amountMinor := by
      rw [creditable.amount]
      exact Int.natCast_pos.mpr creditable.positive
    refine @perform_payment ledger invoice ⟨0, invoice.id, amountMinor, transaction.transactionDate⟩
      (.reconcilePayment ⟨0, invoice.id, amountMinor, transaction.transactionDate⟩
        transaction) _ _ sound found
      (reads_reconcileBankRow creditable.found creditable.unmatched positive
        found) creditable.check rfl rfl creditable.positive
      creditable.within ?_ createdOpen
    intro date member
    rcases List.mem_cons.mp member with rfl | member
    · exact dateOpen
    · rw [List.mem_singleton.mp member]
      exact dateOpen

theorem Sound.entryPoints_iff (sound : ledger.Sound)
    (found : ledger.invoiceOf invoice.id = some invoice)
    (creditable : ledger.Creditable invoice amountMinor transaction) :
    ledger.EntryPointsAgree invoice amountMinor paymentDate transaction.id ↔
      ledger.EntryPointsMeet invoice amountMinor paymentDate transaction.transactionDate := by
  have recording := @lowers_recordInvoicePayment_iff ledger invoice
    amountMinor paymentDate sound found creditable.positive creditable.within
  have reconciling := sound.lowers_reconcileBankRow_iff found creditable
  unfold EntryPointsAgree EntryPointsMeet
  split
  · rename_i cancelled
    constructor
    · rintro ⟨_, refused⟩
      by_contra unlocked
      obtain ⟨after, accepted, _⟩ := reconciling.mpr
        ⟨unlocked, fun active => absurd cancelled active⟩
      exact refused_iff.mp refused after accepted
    · intro locked
      refine ⟨refused_iff.mpr ?_, refused_iff.mpr ?_⟩
      · intro after accepted
        exact (recordInvoicePayment_checked found accepted).1 cancelled
      · intro after accepted
        exact (sound.reconcileBankRow_guards found creditable accepted).1 locked
  · rename_i active
    rw [recording, reconciling]
    constructor
    · rintro ⟨⟨_, covered, dateOpen, _⟩, transactionOpen, createdOpen⟩
      exact ⟨covered, dateOpen, transactionOpen, createdOpen active⟩
    · rintro ⟨covered, dateOpen, transactionOpen, createdOpen⟩
      exact ⟨⟨active, covered, dateOpen, createdOpen⟩, transactionOpen, fun _ => createdOpen⟩

end FinanceLedger

/-- In every ledger that events lead to, the two entry points agree on an
amount that is not above the outstanding balance if and only if the amount is
covered before refunds and the periods are open, or the invoice is cancelled
and the period of the bank credit is locked. -/
theorem entryPoints_agree_iff (start : FinanceLedger) (sound : start.Sound)
    (events : List LedgerEvent) (ledger : FinanceLedger)
    (reached : Run FinanceLedger.Handles start events ledger) (invoice : FinanceInvoice)
    (found : ledger.invoiceOf invoice.id = some invoice) (amountMinor : ℕ)
    (paymentDate : AccountingDate) (transaction : FinanceBankTransaction)
    (creditable : ledger.Creditable invoice amountMinor transaction) :
    ledger.EntryPointsAgree invoice amountMinor paymentDate transaction.id ↔
      ledger.EntryPointsMeet invoice amountMinor paymentDate transaction.transactionDate := by
  have soundHere : ledger.Sound := by
    refine reached.invariant sound ?_
    intro before event after holds move
    rw [show after = before.handle event from move]
    exact holds.handle event
  exact soundHere.entryPoints_iff found creditable

/-- The invoice of `billedLedger` with a bank credit of 40. -/
def creditLedger : FinanceLedger :=
  { billedLedger with
    transactions :=
      [{ id := 2
         transactionDate := fourthOfMay
         amountMinor := 40 }] }

theorem creditLedger_sound : creditLedger.Sound where
  conserved := by
    refine ⟨by decide, by decide, by decide, ?_⟩
    intro id
    exact Nat.zero_le 1
  identified := ⟨by decide, by decide, by decide, by decide, by decide⟩
  linked _ member := absurd member List.not_mem_nil
  matched _ member := absurd member List.not_mem_nil

def creditedInvoice (status : FinanceInvoiceStatus) (cancelledAt : Option ℤ) : FinanceInvoice where
  id := 1
  totalMinor := 100
  status := status
  sentAt := some 0
  cancelledAt := cancelledAt
  dueDate := ⟨2026, 6, 1⟩
  createdOn := fourthOfMay

def refundedLedger : FinanceLedger :=
  [LedgerEvent.request (.recordInvoicePayment 1 100 fourthOfMay),
    .request (.createRefund 3 40 fourthOfMay)].foldl FinanceLedger.handle creditLedger

def cancelledLedger : FinanceLedger :=
  [LedgerEvent.request (.cancelFinanceInvoice 1 5)].foldl FinanceLedger.handle creditLedger

/-- What was refunded can be reconciled again but not recorded, and a
cancelled invoice can still be reconciled. -/
theorem refundedLedger_disagrees :
    refundedLedger.outstandingMinor (creditedInvoice .partial_ none) = 40 ∧
      refundedLedger.perform (.recordInvoicePayment 1 40 fourthOfMay) =
        .error ⟨409, "Invoice is already fully settled"⟩ ∧
      ((refundedLedger.perform (.reconcileBankRow 2 1)).toOption.map
        fun ledger => ledger.paidMinor 1) = some 100 ∧
      ¬ refundedLedger.EntryPointsAgree (creditedInvoice .partial_ none) 40 fourthOfMay 2 ∧
      ((cancelledLedger.perform (.reconcileBankRow 2 1)).toOption.map
        fun ledger => ledger.paidMinor 1) = some 40 ∧ ¬ cancelledLedger.EntryPointsAgree
        (creditedInvoice .cancelled (some 5)) 40 fourthOfMay 2 := by
  refine ⟨by decide, rfl, by decide, ?_, by decide, ?_⟩
  · rintro ⟨⟨after, accepted, _⟩, _⟩
    cases accepted
  · rintro ⟨_, refusal, refused⟩
    cases refused

theorem entryPoints_agree_unrefunded :
    creditLedger.EntryPointsAgree (creditedInvoice .sent none) 40 fourthOfMay 2 :=
  (entryPoints_agree_iff creditLedger creditLedger_sound [] creditLedger
    .start (creditedInvoice .sent none) (by decide) 40 fourthOfMay
    { id := 2
      transactionDate := fourthOfMay
      amountMinor := 40 }
    ⟨by decide, by decide, by decide, by decide, by decide⟩).mpr (by decide)

end Ithute.Finance
