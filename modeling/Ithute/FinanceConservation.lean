import Ithute.Library.TransitionRuns
import Ithute.FinanceChecks

/-!
# Conservation

Each call checks the amount that it writes against sums that it has read
before.  As long as the balance still covers the amount when a call commits,
no invoice is paid or credited beyond its total, no payment is refunded beyond
its amount, and no bank transaction is reconciled twice.
-/

namespace Ithute.Finance

open TransitionRuns GroupedTotals

namespace FinanceLedger

/-- Payments minus refunds stay within the total of an invoice, refunds within
their payment, credit notes within the total, and a bank transaction has one
payment at most. -/
structure Conserved (ledger : FinanceLedger) : Prop where
  paid : ∀ invoice ∈ ledger.invoices, ledger.paidMinor invoice.id ≤ invoice.totalMinor
  refunded : ∀ payment ∈ ledger.payments,
    ledger.paymentRefundedMinor payment.id ≤ payment.amountMinor
  credited : ∀ invoice ∈ ledger.invoices, ledger.creditedMinor invoice.id ≤ invoice.totalMinor
  reconciled : ∀ id, (ledger.reconciled.filter fun entry => decide (entry.1 = id)).length ≤ 1

/-- A conserved ledger whose rows refer to each other as they should. -/
structure Sound (ledger : FinanceLedger) : Prop where
  conserved : ledger.Conserved
  identified : ledger.Identified
  linked : ∀ refund ∈ ledger.refunds, ∃ payment ∈ ledger.payments,
    payment.id = refund.paymentId ∧ payment.invoiceId = refund.invoiceId
  matched : ∀ entry ∈ ledger.reconciled, ∀ row ∈ ledger.transactions,
    row.id = entry.1 → row.status = .matched

end FinanceLedger

/-- The balance that the ledger reports covers the amount of a write. -/
def LedgerWrite.Covered (ledger : FinanceLedger) : LedgerWrite → Prop
  | .insertPayment row => ∀ invoice ∈ ledger.invoices, invoice.id = row.invoiceId →
        row.amountMinor ≤ ledger.outstandingMinor invoice
  | .reconcilePayment row transaction =>
    (∀ invoice ∈ ledger.invoices, invoice.id = row.invoiceId →
      row.amountMinor ≤ ledger.outstandingMinor invoice) ∧
    ∃ stored ∈ ledger.transactions, stored.id = transaction.id ∧ stored.status ≠ .matched
  | .insertRefund row => ∀ payment ∈ ledger.payments, payment.id = row.paymentId → row.amountMinor ≤
          payment.amountMinor - ledger.paymentRefundedMinor payment.id
  | .insertCreditNote row => ∀ invoice ∈ ledger.invoices, invoice.id = row.invoiceId →
        row.amountMinor ≤ invoice.totalMinor - ledger.creditedMinor invoice.id
  | .insertExpense _ | .updateInvoice _ _ | .voidExpense _
  | .deletePayment _ | .deleteInvoice _ _ _ => True

instance (ledger : FinanceLedger) (write : LedgerWrite) : Decidable (write.Covered ledger) := by
  induction write using LedgerWrite.casesOn <;> dsimp only [LedgerWrite.Covered] <;> infer_instance

/-- A call commits while the balances still cover what it writes. -/
def LedgerState.CommitsCovered (state : LedgerState) : LedgerAction → Prop
  | .advance index =>
    match state.calls[index]? with
    | some (.synchronised writes) =>
      FinanceLedger.EachPasses (fun ledger write => write.Covered ledger) state.ledger writes
    | _ => True
  | _ => True

instance (state : LedgerState) (action : LedgerAction) :
    Decidable (state.CommitsCovered action) := by
  unfold LedgerState.CommitsCovered
  split
  · split <;> infer_instance
  · infer_instance

namespace FinanceLedger

variable {ledger : FinanceLedger}

theorem grossPaidMinor_addPayment (row : FinancePayment) (invoiceId : ℕ) :
    (ledger.addPayment row).grossPaidMinor invoiceId = ledger.grossPaidMinor invoiceId +
        if row.invoiceId = invoiceId then row.amountMinor else 0 := by
  unfold grossPaidMinor addPayment
  rw [total_append, total_single]

theorem Sound.paymentRefunded_missing (sound : ledger.Sound) {id : ℕ}
    (missing : ∀ row ∈ ledger.payments, row.id ≠ id) : ledger.paymentRefundedMinor id = 0 := by
  apply total_eq_zero
  intro refund member same
  obtain ⟨payment, paymentMem, sameId, _⟩ := sound.linked refund member
  exact missing payment paymentMem (sameId.trans same)

theorem Sound.addPayment (sound : ledger.Sound) {row : FinancePayment}
    (within : ∀ invoice ∈ ledger.invoices, invoice.id = row.invoiceId →
      row.amountMinor ≤ ledger.outstandingMinor invoice) : (ledger.addPayment row).Sound where
  conserved :=
    { paid := by
        intro invoice member
        have before := sound.conserved.paid invoice member
        have added := @grossPaidMinor_addPayment ledger row invoice.id
        have refunds : (ledger.addPayment row).refundedMinor invoice.id =
            ledger.refundedMinor invoice.id := rfl
        unfold paidMinor at before ⊢
        rw [added, refunds]
        split
        · rename_i same
          have room := within invoice member same.symm
          unfold outstandingMinor adjustedTotalMinor paidMinor at room
          omega
        · exact before
      refunded := by
        intro payment member
        rcases List.mem_append.mp member with old | new
        · exact sound.conserved.refunded payment old
        · rw [List.mem_singleton.mp new]
          have none : ledger.paymentRefundedMinor ledger.nextId = 0 := by
            apply sound.paymentRefunded_missing
            intro stored storedMem same
            have below := sound.identified.paymentIds stored storedMem
            omega
          change ledger.paymentRefundedMinor ledger.nextId ≤ _
          omega
      credited := sound.conserved.credited
      reconciled := sound.conserved.reconciled }
  identified := addPayment_identified sound.identified row
  linked refund member := by
    obtain ⟨payment, paymentMem, same⟩ := sound.linked refund member
    exact ⟨payment, List.mem_append_left _ paymentMem, same⟩
  matched := sound.matched

theorem Sound.reconcilePayment (sound : ledger.Sound) {row : FinancePayment}
    {transaction : FinanceBankTransaction}
    (covered : (LedgerWrite.reconcilePayment row transaction).Covered ledger) :
    (ledger.apply (.reconcilePayment row transaction)).Sound := by
  obtain ⟨within, stored, storedMem, same, unmatched⟩ := covered
  have added := sound.addPayment within
  have fresh : ∀ entry ∈ ledger.reconciled, entry.1 ≠ transaction.id := by
    intro entry member sameId
    exact unmatched (sound.matched entry member stored storedMem (same.trans sameId.symm))
  refine ⟨⟨added.conserved.paid, added.conserved.refunded, added.conserved.credited, ?_⟩,
    sound.identified.apply (.reconcilePayment row transaction), added.linked, ?_⟩
  · intro id
    change ((ledger.reconciled ++ [(transaction.id, ledger.nextId)]).filter
      fun entry => decide (entry.1 = id)).length ≤ 1
    rw [List.filter_append, List.length_append]
    by_cases here : transaction.id = id
    · have none : ledger.reconciled.filter (fun entry => decide (entry.1 = id)) = [] := by
        rw [List.filter_eq_nil_iff]
        intro entry member
        simpa [← here] using fresh entry member
      simp [none, here]
    · have before := sound.conserved.reconciled id
      simpa [here] using before
  · intro entry entryMem row rowMem sameId
    obtain ⟨earlier, earlierMem, rfl⟩ := List.mem_map.mp rowMem
    by_cases here : earlier.id = transaction.id
    · rw [if_pos here]
    · rw [if_neg here] at sameId ⊢
      rcases List.mem_append.mp entryMem with old | new
      · exact sound.matched entry old earlier earlierMem sameId
      · rw [List.mem_singleton.mp new] at sameId
        exact absurd sameId here

theorem Sound.insertRefund (sound : ledger.Sound) {row : FinanceRefund}
    (known : (LedgerWrite.insertRefund row).KnownTo ledger)
    (admits : ledger.Admits (.insertRefund row))
    (covered : (LedgerWrite.insertRefund row).Covered ledger) :
    (ledger.apply (.insertRefund row)).Sound := by
  obtain ⟨loaded, ⟨_, only⟩, sameId, sameInvoice⟩ := known
  obtain ⟨stored, storedMem, storedId⟩ := admits.1
  have isLoaded := only stored storedMem (storedId.trans sameId.symm)
  refine ⟨⟨?_, ?_, sound.conserved.credited, sound.conserved.reconciled⟩,
    sound.identified.apply (.insertRefund row), ?_, sound.matched⟩
  · intro invoice member
    have before := sound.conserved.paid invoice member
    have gross : (ledger.apply (.insertRefund row)).grossPaidMinor invoice.id =
        ledger.grossPaidMinor invoice.id := rfl
    have refunds : ledger.refundedMinor invoice.id ≤
        (ledger.apply (.insertRefund row)).refundedMinor invoice.id := by
      change _ ≤ total _ _ (ledger.refunds ++ [_]) invoice.id
      rw [total_append]
      exact Nat.le_add_right _ _
    unfold paidMinor at before ⊢
    omega
  · intro payment member
    have before := sound.conserved.refunded payment member
    have added : (ledger.apply (.insertRefund row)).paymentRefundedMinor
        payment.id = ledger.paymentRefundedMinor payment.id +
          if row.paymentId = payment.id then row.amountMinor else 0 := by
      change total _ _ (ledger.refunds ++ [_]) payment.id = _
      rw [total_append, total_single]
      rfl
    rw [added]
    split
    · rename_i same
      have room := covered payment member same.symm
      omega
    · exact before
  · intro refund member
    rcases List.mem_append.mp member with old | new
    · exact sound.linked refund old
    · rw [List.mem_singleton.mp new]
      refine ⟨stored, storedMem, storedId, ?_⟩
      rw [isLoaded]
      exact sameInvoice

theorem Sound.insertCreditNote (sound : ledger.Sound) {row : FinanceCreditNote}
    (covered : (LedgerWrite.insertCreditNote row).Covered ledger) :
    (ledger.apply (.insertCreditNote row)).Sound := by
  refine ⟨⟨sound.conserved.paid, sound.conserved.refunded, ?_, sound.conserved.reconciled⟩,
    sound.identified.apply (.insertCreditNote row), sound.linked, sound.matched⟩
  intro invoice member
  have before := sound.conserved.credited invoice member
  have added : (ledger.apply (.insertCreditNote row)).creditedMinor
      invoice.id = ledger.creditedMinor invoice.id +
        if row.invoiceId = invoice.id then row.amountMinor else 0 := by
    change total _ _ (ledger.creditNotes ++ [_]) invoice.id = _
    rw [total_append, total_single]
    rfl
  rw [added]
  split
  · rename_i same
    have room := covered invoice member same.symm
    omega
  · exact before

theorem Sound.updateInvoice (sound : ledger.Sound) (loaded saved : FinanceInvoice) :
    (ledger.apply (.updateInvoice loaded saved)).Sound := by
  have origin : ∀ invoice ∈ (ledger.apply (.updateInvoice loaded saved)).invoices,
      ∃ stored ∈ ledger.invoices, stored.id = invoice.id ∧
        stored.totalMinor = invoice.totalMinor := by
    intro invoice member
    obtain ⟨stored, storedMem, rfl⟩ := List.mem_map.mp member
    refine ⟨stored, storedMem, ?_⟩
    split <;> exact ⟨rfl, rfl⟩
  refine ⟨⟨?_, sound.conserved.refunded, ?_, sound.conserved.reconciled⟩,
    sound.identified.apply (.updateInvoice loaded saved), sound.linked, sound.matched⟩
  · intro invoice member
    obtain ⟨stored, storedMem, sameId, sameTotal⟩ := origin invoice member
    rw [← sameId, ← sameTotal]
    exact sound.conserved.paid stored storedMem
  · intro invoice member
    obtain ⟨stored, storedMem, sameId, sameTotal⟩ := origin invoice member
    rw [← sameId, ← sameTotal]
    exact sound.conserved.credited stored storedMem

theorem Sound.removePayment (sound : ledger.Sound) (id : ℕ) : (ledger.removePayment id).Sound := by
  have kept : ∀ payment ∈ (ledger.removePayment id).payments,
      payment ∈ ledger.payments ∧ payment.id ≠ id := by
    intro payment member
    obtain ⟨old, other⟩ := List.mem_filter.mp member
    exact ⟨old, by simpa using other⟩
  refine ⟨⟨?_, ?_, sound.conserved.credited, sound.conserved.reconciled⟩, ?_, ?_, ?_⟩
  · intro invoice member
    have before := sound.conserved.paid invoice member
    by_cases found : ∃ payment ∈ ledger.payments, payment.id = id
    · obtain ⟨payment, paymentMem, rfl⟩ := found
      have within := sound.conserved.refunded payment paymentMem
      have gross : ledger.grossPaidMinor invoice.id =
          (ledger.removePayment payment.id).grossPaidMinor invoice.id +
            if payment.invoiceId = invoice.id then payment.amountMinor
            else 0 :=
        total_remove sound.identified.payments paymentMem
      have split : ledger.refundedMinor invoice.id =
          total (fun row => row.invoiceId) (fun row => row.amountMinor)
              (ledger.refunds.filter fun row => decide (row.paymentId = payment.id)) invoice.id +
            (ledger.removePayment payment.id).refundedMinor invoice.id := by
        have parts := @total_split FinanceRefund ℕ _
          (fun row => row.invoiceId) (fun row => row.amountMinor) ledger.refunds invoice.id
          fun row => decide (row.paymentId = payment.id)
        simp only [← decide_not] at parts
        exact parts
      have own := @total_parts_of_single FinancePayment FinanceRefund ℕ _
        (fun row => row.invoiceId) invoice.id ℕ _ (fun row => row.paymentId) (fun row => row.id)
        (fun row => row.invoiceId) (fun row => row.amountMinor) ledger.refunds payment (by
          intro refund refundMem same
          obtain ⟨other, otherMem, sameId, sameInvoice⟩ := sound.linked refund refundMem
          have isPayment : other = payment :=
            List.inj_on_of_nodup_map sound.identified.payments otherMem
              paymentMem (sameId.trans same)
          rw [← sameInvoice, isPayment])
      rw [own] at split
      unfold paymentRefundedMinor at within
      unfold paidMinor at before ⊢
      split at gross
      · rename_i same
        rw [if_pos same] at split
        omega
      · rename_i other
        rw [if_neg other] at split
        omega
    · have gross : (ledger.removePayment id).grossPaidMinor invoice.id =
          ledger.grossPaidMinor invoice.id := by
        apply total_filter_of_kept
        intro payment paymentMem _
        exact decide_eq_true fun same => found ⟨payment, paymentMem, same⟩
      have refunds : (ledger.removePayment id).refundedMinor invoice.id =
          ledger.refundedMinor invoice.id := by
        apply total_filter_of_kept
        intro refund refundMem _
        obtain ⟨payment, paymentMem, sameId, _⟩ := sound.linked refund refundMem
        exact decide_eq_true fun same => found ⟨payment, paymentMem, sameId.trans same⟩
      unfold paidMinor at before ⊢
      rw [gross, refunds]
      exact before
  · intro payment member
    exact Nat.le_trans (total_filter_le _)
      (sound.conserved.refunded payment (kept payment member).1)
  · exact removePayment_identified sound.identified id
  · intro refund member
    obtain ⟨old, other⟩ := List.mem_filter.mp member
    obtain ⟨payment, paymentMem, sameId, sameInvoice⟩ := sound.linked refund old
    refine ⟨payment, List.mem_filter.mpr ⟨paymentMem, ?_⟩, sameId, sameInvoice⟩
    rw [sameId]
    exact other
  · intro entry entryMem row rowMem sameId
    obtain ⟨earlier, earlierMem, rfl⟩ := List.mem_map.mp rowMem
    by_cases here : earlier.matchedPaymentId = some id
    · rw [if_pos here] at sameId ⊢
      exact sound.matched entry entryMem earlier earlierMem sameId
    · rw [if_neg here] at sameId ⊢
      exact sound.matched entry entryMem earlier earlierMem sameId

theorem Sound.removeInvoice (sound : ledger.Sound) (id : ℕ) : (ledger.removeInvoice id).Sound := by
  have keptRefund : ∀ refund ∈ ledger.refunds, refund.invoiceId ≠ id →
      refund ∈ (ledger.removeInvoice id).refunds := by
    intro refund member other
    refine List.mem_filter.mpr ⟨member, decide_eq_true ⟨other, ?_⟩⟩
    intro payment paymentMem same
    obtain ⟨paymentOld, ofInvoice⟩ := List.mem_filter.mp paymentMem
    obtain ⟨linked, linkedMem, sameId, sameInvoice⟩ := sound.linked refund member
    have isPayment : linked = payment :=
      List.inj_on_of_nodup_map sound.identified.payments linkedMem paymentOld
        (sameId.trans same.symm)
    rw [← sameInvoice, isPayment] at other
    exact other (by simpa using ofInvoice)
  refine ⟨⟨?_, ?_, ?_, sound.conserved.reconciled⟩, ?_, ?_, ?_⟩
  · intro invoice member
    obtain ⟨old, other⟩ := List.mem_filter.mp member
    have different : invoice.id ≠ id := by simpa using other
    have before := sound.conserved.paid invoice old
    have gross : (ledger.removeInvoice id).grossPaidMinor invoice.id =
        ledger.grossPaidMinor invoice.id := by
      apply total_filter_of_kept
      intro payment _ same
      exact decide_eq_true (same ▸ different)
    have refunds : (ledger.removeInvoice id).refundedMinor invoice.id =
        ledger.refundedMinor invoice.id := by
      apply total_filter_of_kept
      intro refund refundMem same
      have here := keptRefund refund refundMem (same ▸ different)
      exact (List.mem_filter.mp here).2
    unfold paidMinor at before ⊢
    rw [gross, refunds]
    exact before
  · intro payment member
    exact Nat.le_trans (total_filter_le _)
      (sound.conserved.refunded payment (List.mem_filter.mp member).1)
  · intro invoice member
    exact Nat.le_trans (total_filter_le _)
      (sound.conserved.credited invoice (List.mem_filter.mp member).1)
  · exact removeInvoice_identified sound.identified id
  · intro refund member
    obtain ⟨old, other⟩ := List.mem_filter.mp member
    obtain ⟨payment, paymentMem, sameId, sameInvoice⟩ := sound.linked refund old
    refine ⟨payment, List.mem_filter.mpr ⟨paymentMem, ?_⟩, sameId, sameInvoice⟩
    rw [sameInvoice]
    exact decide_eq_true (of_decide_eq_true other).1
  · intro entry entryMem row rowMem sameId
    obtain ⟨earlier, earlierMem, rfl⟩ := List.mem_map.mp rowMem
    exact sound.matched entry entryMem earlier earlierMem sameId

theorem Sound.apply {write : LedgerWrite} (sound : ledger.Sound)
    (known : write.KnownTo ledger) (admits : ledger.Admits write)
    (covered : write.Covered ledger) : (ledger.apply write).Sound := by
  cases write with
  | insertPayment row => exact sound.addPayment covered
  | reconcilePayment row transaction => exact sound.reconcilePayment covered
  | insertRefund row => exact sound.insertRefund known admits covered
  | insertCreditNote row => exact sound.insertCreditNote covered
  | updateInvoice loaded saved => exact sound.updateInvoice loaded saved
  | insertExpense row | voidExpense loaded =>
    exact ⟨⟨sound.conserved.paid, sound.conserved.refunded,
      sound.conserved.credited, sound.conserved.reconciled⟩,
      sound.identified.apply _, sound.linked, sound.matched⟩
  | deletePayment loaded => exact sound.removePayment loaded.id
  | deleteInvoice loaded payments creditNotes => exact sound.removeInvoice loaded.id

theorem Sound.writeAll {after : FinanceLedger} {writes : List LedgerWrite}
    (sound : ledger.Sound) (known : ∀ write ∈ writes, write.KnownTo ledger)
    (covered : EachPasses (fun ledger write => write.Covered ledger) ledger writes)
    (accepted : ledger.writeAll writes = .ok after) : after.Sound := by
  have knownThere : EachPasses (fun _ write => write.KnownTo ledger) ledger
      writes := .of_forall fun _ => known
  have step (middle : FinanceLedger) (write : LedgerWrite)
      (sofar : middle.Sound ∧ Evolves ledger middle) (admits : middle.Admits write)
      (passes : write.Covered middle ∧ write.KnownTo ledger) :
      (middle.apply write).Sound ∧ Evolves ledger (middle.apply write) :=
    ⟨sofar.1.apply (sofar.2.write passes.2) admits passes.1,
      sofar.2.trans (apply_evolves middle write)⟩
  exact (writeAll_invariant step ⟨sound, .refl ledger⟩ accepted (covered.and knownThere)).1

theorem Sound.periods (sound : ledger.Sound) (periods : List FinanceAccountingPeriod) :
    Sound { ledger with periods } :=
  ⟨⟨sound.conserved.paid, sound.conserved.refunded, sound.conserved.credited,
    sound.conserved.reconciled⟩, ⟨sound.identified.invoices, sound.identified.payments,
      sound.identified.paymentIds, sound.identified.expenses,
      sound.identified.expenseIds⟩, sound.linked, sound.matched⟩

theorem Identified.invoice_eq {invoice other : FinanceInvoice} {id : ℕ}
    (identified : ledger.Identified) (found : ledger.invoiceOf id = some invoice)
    (member : other ∈ ledger.invoices) (same : other.id = invoice.id) : other = invoice :=
  List.inj_on_of_nodup_map identified.invoices member (invoiceOf_spec found).1 same

theorem checked_covered {request : LedgerRequest} {rows : LoadedRows}
    {draft : LedgerDraft} (identified : ledger.Identified) (alone : request.ReadsAlone ledger rows)
    (checked : Checked rows request draft) : ∀ write ∈ draft.writes, write.Covered ledger := by
  intro write only
  cases checked with
  | @payment invoiceId amountMinor paymentDate invoice loaded active open_ covered =>
    obtain ⟨stored, found, rfl⟩ := alone
    cases loaded
    rw [List.mem_singleton.mp only]
    intro other member same
    rw [identified.invoice_eq found member same]
    have sameId := (invoiceOf_spec found).2
    change amountMinor ≤ invoice.totalMinor -
      ledger.creditedMinor invoiceId - ledger.grossPaidMinor invoiceId at covered
    rw [← sameId] at covered
    change amountMinor ≤ ledger.outstandingMinor invoice
    unfold outstandingMinor adjustedTotalMinor paidMinor
    omega
  | @reconciliation transactionId invoiceId outstanding transaction invoice
      found loaded balance open_ =>
      obtain ⟨storedTransaction, stored, transactionFound, unmatched, _, invoiceFound, rfl⟩ := alone
      cases found
      cases loaded
      rw [List.mem_singleton.mp only]
      constructor
      · intro other member same
        rw [identified.invoice_eq invoiceFound member same]
        have sameId := (invoiceOf_spec invoiceFound).2
        change outstanding = invoice.totalMinor - ledger.creditedMinor invoiceId -
            (ledger.grossPaidMinor invoiceId - ledger.refundedMinor invoiceId) at balance
        rw [← sameId] at balance
        change min transaction.amountMinor.toNat outstanding ≤ _
        unfold outstandingMinor adjustedTotalMinor paidMinor
        omega
      · exact ⟨transaction, (transactionOf_spec transactionFound).1, rfl, unmatched⟩
  | @refund paymentId amountMinor refundDate payment loaded covered =>
    obtain ⟨stored, found, _, rfl⟩ := alone
    cases loaded
    rw [List.mem_singleton.mp only]
    obtain ⟨paymentMem, sameId⟩ := paymentOf_spec found
    intro other member same
    rw [List.inj_on_of_nodup_map identified.payments member paymentMem same, sameId]
    exact covered
  | @creditNote invoiceId amountMinor today invoice loaded active covered =>
    obtain ⟨stored, found, rfl⟩ := alone
    cases loaded
    rw [List.mem_singleton.mp only]
    intro other member same
    rw [identified.invoice_eq found member same, (invoiceOf_spec found).2]
    exact covered
  | paymentDeletion | invoiceDeletion | cancellation | sent | sendFailed
  | bulkSent | expense | voided =>
    rw [List.mem_singleton.mp only]
    exact True.intro

theorem Sound.perform {after : FinanceLedger} {request : LedgerRequest}
    (sound : ledger.Sound) (accepted : ledger.perform request = .ok after) : after.Sound := by
  obtain ⟨rows, draft, writes, read, checked, _, synced, written⟩ := perform_spec accepted
  have known := checked.known (reads_known sound.identified (nothing_known ledger) read)
  have covered : EachPasses (fun ledger write => write.Covered ledger) ledger
      draft.writes := by
    have each := checked_covered sound.identified (readsAlone read) checked
    obtain ⟨write, single⟩ := checked.single
    rw [single] at each ⊢
    exact ⟨each write List.mem_cons_self, True.intro⟩
  obtain ⟨_, _, _, _, spec⟩ := synchronise_spec synced
  rcases spec with ⟨rfl, _⟩ | ⟨invoice, status, _, _, _, rfl⟩
  · exact sound.writeAll known covered written
  · have assigned (ledger : FinanceLedger) :
        (LedgerWrite.updateInvoice invoice { invoice with status }).Covered
          ledger := True.intro
    refine sound.writeAll ?_ (covered.concat assigned) written
    intro write member
    rcases List.mem_append.mp member with old | new
    · exact known write old
    · rw [List.mem_singleton.mp new]
      exact True.intro

theorem Sound.handle (sound : ledger.Sound) (event : LedgerEvent) :
    (ledger.handle event).Sound := by
  cases event with
  | request request =>
    unfold FinanceLedger.handle
    dsimp only
    split
    · rename_i accepted
      exact sound.perform accepted
    · exact sound
  | closePeriod year month =>
    obtain ⟨periods, same⟩ := ledger.closePeriod_spec year month
    change (ledger.closePeriod year month).Sound
    rw [same]
    exact sound.periods periods
  | openPeriod year month => exact sound.periods _

end FinanceLedger

namespace LedgerState

variable {state : LedgerState}

theorem perform_sound {action : LedgerAction} (sound : state.ledger.Sound)
    (known : state.Known) (covered : state.CommitsCovered action) :
    (state.perform action).ledger.Sound := by
  cases action with
  | request request | crash index => exact sound
  | advance index =>
    change (state.advance index).ledger.Sound
    rcases state.advance_cases index with
      ⟨_, same⟩ | dropped | ⟨call, following, found, next, same⟩ |
        ⟨writes, committed, found, written, same⟩
    · rw [same]
      exact sound
    · rw [dropped]
      exact sound
    · rw [same]
      exact sound
    · rw [same]
      unfold CommitsCovered at covered
      dsimp only at covered
      rw [found] at covered
      exact sound.writeAll (known.calls _ (List.mem_of_getElem? found)) covered written
  | closePeriod year month => exact sound.handle (.closePeriod year month)
  | openPeriod year month => exact sound.handle (.openPeriod year month)

end LedgerState

/-- Along every run whose calls commit while the balances still cover what
they write, every committed state is conserved. -/
theorem run_conserved (ledger : FinanceLedger) (sound : ledger.Sound) (actions : List LedgerAction)
    (covered : EveryStep LedgerState.Performs (fun before action _ => before.CommitsCovered action)
      { ledger := ledger } actions) :
    EveryStep LedgerState.Performs (fun _ _ after => after.ledger.Conserved)
      { ledger := ledger } actions := by
  have initial : ledger.Sound ∧ LedgerState.Known { ledger := ledger } :=
    ⟨sound, sound.identified, fun _ member => absurd member List.not_mem_nil⟩
  have step (before : LedgerState) (action : LedgerAction)
      (after : LedgerState) (holds : before.ledger.Sound ∧ before.Known)
      (move : before.Performs action after) (coveredHere : before.CommitsCovered action) :
      after.ledger.Sound ∧ after.Known := by
    rw [show after = before.perform action from move]
    exact ⟨LedgerState.perform_sound holds.1 holds.2 coveredHere, holds.2.perform action⟩
  refine EveryStep.of_invariant initial step ?_ covered
  intro before action after holds move coveredHere
  exact (step before action after holds move coveredHere).1.conserved

def fourthOfMay : AccountingDate := ⟨2026, 5, 4⟩

def billedLedger : FinanceLedger where
  invoices :=
    [{ id := 1
       totalMinor := 100
       status := .sent
       sentAt := some 0
       dueDate := ⟨2026, 6, 1⟩
       createdOn := fourthOfMay }]
  transactions :=
    [{ id := 2
       transactionDate := fourthOfMay
       amountMinor := 100 }]
  nextId := 3

theorem billedLedger_sound : billedLedger.Sound where
  conserved := by
    refine ⟨by decide, by decide, by decide, ?_⟩
    intro id
    exact Nat.zero_le 1
  identified := ⟨by decide, by decide, by decide, by decide, by decide⟩
  linked _ member := absurd member List.not_mem_nil
  matched _ member := absurd member List.not_mem_nil

/-- Calls that come one after the other pay and refund nothing twice. -/
theorem handled_conserved (ledger : FinanceLedger) (sound : ledger.Sound)
    (events : List LedgerEvent) : (events.foldl FinanceLedger.handle ledger).Sound := by
  induction events generalizing ledger with
  | nil => exact sound
  | cons event events ih => exact ih (ledger.handle event) (sound.handle event)

theorem handled_conserved_paidTwice :
    (([60, 60].map fun amount => LedgerEvent.request (.recordInvoicePayment 1 amount fourthOfMay)).foldl
      FinanceLedger.handle billedLedger).Sound :=
  handled_conserved billedLedger billedLedger_sound _

def overlapping (first second : LedgerRequest) (statements : ℕ) : List LedgerAction :=
  [.request first, .request second] ++
    (List.replicate statements [.advance 0, .advance 1]).flatten ++ [.advance 0, .advance 0]

def overlappingPayments : List LedgerAction :=
  overlapping (.recordInvoicePayment 1 100 fourthOfMay) (.recordInvoicePayment 1 100 fourthOfMay) 5

def overlappingReconciliations : List LedgerAction :=
  overlapping (.reconcileBankRow 2 1) (.reconcileBankRow 2 1) 7

/-- Both payments are recorded, and the bank credit is matched twice. -/
theorem overlappingPayments_exceed : (overlappingPayments.foldl LedgerState.perform
        { ledger := billedLedger }).ledger.paidMinor 1 = 200 ∧
      (overlappingReconciliations.foldl LedgerState.perform
        { ledger := billedLedger }).ledger.reconciled = [(2, 3), (2, 4)] ∧
      ¬ EveryStep LedgerState.Performs (fun _ _ after => after.ledger.Conserved)
        { ledger := billedLedger } overlappingPayments := by
  refine ⟨by decide, by decide, ?_⟩
  intro conserved
  have last := conserved overlappingPayments.dropLast (.advance 0) [] _ _
    (by decide) (Run.of_foldl _ _ _) rfl
  exact absurd last.paid (by decide)

/-- Two calls of which the second begins when the first has committed. -/
def successivePayments : List LedgerAction :=
  .request (.recordInvoicePayment 1 60 fourthOfMay) :: List.replicate 6 (.advance 0) ++
    .request (.reconcileBankRow 2 1) :: List.replicate 8 (.advance 0)

theorem run_conserved_successive :
    EveryStep LedgerState.Performs (fun _ _ after => after.ledger.Conserved)
        { ledger := billedLedger } successivePayments ∧
      (successivePayments.foldl LedgerState.perform
        { ledger := billedLedger }).ledger.paidMinor 1 = 100 := by
  refine ⟨run_conserved billedLedger billedLedger_sound _ ?_, by decide⟩
  exact EveryStep.of_stepByStep (by decide)

end Ithute.Finance
