import Ithute.FinancePaymentAgreement

/-!
# Statuses and the ledger

A call that changes the totals of an invoice synchronises its status.  A
delivery writes the status without looking at the totals, so it is a delivery
of a partly paid invoice that makes the two differ.
-/

namespace Ithute.Finance

open TransitionRuns GroupedTotals

namespace FinanceLedger

/-- The stored status is the one that synchronising leaves, or the totals
settle nothing and the invoice is a draft, sent or failed. -/
def StatusFollows (ledger : FinanceLedger) (invoice : FinanceInvoice) : Prop :=
  (ledger.syncedStatus invoice).getD invoice.status = invoice.status ∨
    ledger.settledStatus invoice = none ∧ (invoice.status = .draft ∨ invoice.status = .sent ∨
        invoice.status = .failed)

instance (ledger : FinanceLedger) (invoice : FinanceInvoice) :
    Decidable (ledger.StatusFollows invoice) :=
  inferInstanceAs (Decidable (_ ∨ _))

/-- The statuses follow the ledger, and what is partly paid is aged and
reminded of. -/
structure StatusesFollow (ledger : FinanceLedger) : Prop where
  follows : ∀ invoice ∈ ledger.invoices, ledger.StatusFollows invoice
  listed : ∀ invoice ∈ ledger.invoices, invoice.status ≠ .cancelled →
    0 < ledger.paidMinor invoice.id → 0 < ledger.outstandingMinor invoice →
      ledger.Aged invoice ∧ ledger.Reminded invoice

end FinanceLedger

/-- A message is sent for an invoice, whatever becomes of it; a bulk delivery
that fails is rolled back. -/
def LedgerRequest.Delivers : LedgerRequest → ℕ → Prop
  | .sendFinanceInvoice invoiceId _ delivery _, id =>
    invoiceId = id ∧ ∀ detail, delivery ≠ .approvalRequired detail
  | .bulkSendInvoice invoiceId _ delivery _, id => invoiceId = id ∧ delivery = .accepted
  | _, _ => False

def FinanceLedger.DeliversPartial (ledger : FinanceLedger) : LedgerEvent → Prop
  | .request request => ∃ invoice ∈ ledger.invoices,
      request.Delivers invoice.id ∧ invoice.status = .partial_ ∧
        ¬ ledger.PeriodLocked invoice.createdOn.periodKey
  | _ => False

namespace FinanceLedger

variable {ledger before after view : FinanceLedger} {invoice : FinanceInvoice} {write : LedgerWrite}

theorem settledStatus_partial (paid : 0 < ledger.paidMinor invoice.id)
    (open_ : 0 < ledger.outstandingMinor invoice) :
    ledger.settledStatus invoice = some .partial_ := by
  unfold outstandingMinor at open_
  unfold settledStatus
  dsimp only
  rw [if_neg (by omega), if_neg (by omega), if_pos paid]

variable {status : FinanceInvoiceStatus}

theorem settledStatus_cases (settled : ledger.settledStatus invoice = some status) :
    status = .credited ∨ status = .paid ∨ status = .partial_ := by
  unfold settledStatus at settled
  dsimp only at settled
  split at settled
  · exact .inl (Option.some.inj settled).symm
  · split at settled
    · exact .inr (.inl (Option.some.inj settled).symm)
    · split at settled
      · exact .inr (.inr (Option.some.inj settled).symm)
      · cases settled

theorem statusFollows_iff : ledger.StatusFollows invoice ↔ invoice.status = .cancelled ∨
      (∃ status, ledger.settledStatus invoice = some status ∧ invoice.status = status) ∨
      ledger.settledStatus invoice = none ∧ (invoice.status = .draft ∨ invoice.status = .sent ∨
          invoice.status = .failed) := by
  unfold StatusFollows syncedStatus
  by_cases cancelled : invoice.status = .cancelled
  · simp [cancelled]
  · rw [if_neg cancelled]
    cases settled : ledger.settledStatus invoice with
    | some status => simp [cancelled, eq_comm]
    | none =>
      cases stored : invoice.status with
      | draft | sent | failed => simp
      | cancelled => exact absurd stored cancelled
      | partial_ | paid | credited => cases sent : invoice.sentAt <;> simp

theorem statusesFollow_of_follows
    (follows : ∀ invoice ∈ ledger.invoices, ledger.StatusFollows invoice) :
    ledger.StatusesFollow where
  follows := follows
  listed invoice member active paid open_ := by
    have settled := settledStatus_partial paid open_
    rcases statusFollows_iff.mp (follows invoice member) with
      cancelled | ⟨status, isStatus, same⟩ | ⟨none, _⟩
    · exact absurd cancelled active
    · have isPartial : invoice.status = .partial_ := by
        rw [same]
        exact Option.some.inj (isStatus.symm.trans settled)
      unfold Aged Reminded
      simp [isPartial, open_]
    · rw [none] at settled
      cases settled

structure KeepsTotals (before after : FinanceLedger) (id : ℕ) : Prop where
  gross : after.grossPaidMinor id = before.grossPaidMinor id
  refunded : after.refundedMinor id = before.refundedMinor id
  credited : after.creditedMinor id = before.creditedMinor id

theorem KeepsTotals.settledStatus (kept : KeepsTotals before after invoice.id) :
    after.settledStatus invoice = before.settledStatus invoice := by
  unfold FinanceLedger.settledStatus adjustedTotalMinor paidMinor
  rw [kept.gross, kept.refunded, kept.credited]

theorem KeepsTotals.statusFollows (kept : KeepsTotals before after invoice.id)
    (follows : before.StatusFollows invoice) : after.StatusFollows invoice := by
  rw [statusFollows_iff] at follows ⊢
  rw [kept.settledStatus]
  exact follows

def Touches : LedgerWrite → ℕ → Prop
  | .insertPayment row, id | .reconcilePayment row _, id => row.invoiceId = id
  | .insertRefund row, id => row.invoiceId = id
  | .insertCreditNote row, id => row.invoiceId = id
  | .deletePayment loaded, id => loaded.invoiceId = id
  | .deleteInvoice loaded _ _, id => loaded.id = id
  | .updateInvoice _ _, _ | .insertExpense _, _ | .voidExpense _, _ => False

theorem total_append_other {α : Type} {key amount : α → ℕ} {rows : List α}
    {row : α} {sought : ℕ} (other : key row ≠ sought) : total key amount (rows ++ [row]) sought =
      total key amount rows sought := by
  rw [total_append, total_single, if_neg other, Nat.add_zero]

theorem Sound.keepsTotals (sound : ledger.Sound)
    (known : write.KnownTo ledger) {id : ℕ} (other : ¬ Touches write id) :
    KeepsTotals ledger (ledger.apply write) id := by
  cases write with
  | insertPayment row | reconcilePayment row transaction =>
    exact ⟨total_append_other other, rfl, rfl⟩
  | insertRefund row => exact ⟨rfl, total_append_other other, rfl⟩
  | insertCreditNote row => exact ⟨rfl, rfl, total_append_other other⟩
  | insertExpense row | updateInvoice loaded saved | voidExpense loaded => exact ⟨rfl, rfl, rfl⟩
  | deletePayment loaded =>
    obtain ⟨_, only⟩ := known
    refine ⟨?_, ?_, rfl⟩
    · apply total_filter_of_kept
      intro payment member same
      refine decide_eq_true ?_
      intro sameId
      rw [only payment member sameId] at same
      exact other same
    · apply total_filter_of_kept
      intro refund member same
      refine decide_eq_true ?_
      intro sameId
      obtain ⟨payment, paymentMem, isPayment, sameInvoice⟩ := sound.linked refund member
      rw [only payment paymentMem (isPayment.trans sameId)] at sameInvoice
      exact other (sameInvoice.trans same)
  | deleteInvoice loaded payments creditNotes =>
    have different : id ≠ loaded.id := Ne.symm other
    refine ⟨?_, ?_, ?_⟩
    · apply total_filter_of_kept
      intro payment _ same
      exact decide_eq_true (same ▸ different)
    · apply total_filter_of_kept
      intro refund member same
      refine decide_eq_true ⟨same ▸ different, ?_⟩
      intro payment paymentMem isPayment
      obtain ⟨paymentOld, ofInvoice⟩ := List.mem_filter.mp paymentMem
      obtain ⟨linked, linkedMem, sameId, sameInvoice⟩ := sound.linked refund member
      have isLinked : linked = payment :=
        List.inj_on_of_nodup_map sound.identified.payments linkedMem
          paymentOld (sameId.trans isPayment.symm)
      rw [← sameInvoice, isLinked] at same
      exact different (same ▸ of_decide_eq_true ofInvoice)
    · apply total_filter_of_kept
      intro note _ same
      exact decide_eq_true (same ▸ different)

theorem mem_updateInvoice {sentAt cancelledAt : Option ℤ} {lastError : Option String}
    {row : FinanceInvoice} (identified : ledger.Identified)
    (found : ledger.invoiceOf invoice.id = some invoice)
    (member : row ∈ (ledger.apply (.updateInvoice invoice
      { invoice with status, sentAt, cancelledAt, lastError })).invoices) :
    row ∈ ledger.invoices ∧ row.id ≠ invoice.id ∨
      row = { invoice with status, sentAt, cancelledAt, lastError } := by
  obtain ⟨stored, storedMem, rfl⟩ := List.mem_map.mp member
  by_cases same : stored.id = invoice.id
  · right
    rw [if_pos same, identified.invoice_eq found storedMem same]
    unfold FinanceInvoice.written
    simp only [changedColumn_self]
  · left
    rw [if_neg same]
    exact ⟨storedMem, same⟩

theorem mem_updateInvoice_self {saved : FinanceInvoice}
    (found : ledger.invoiceOf invoice.id = some invoice)
    (written : invoice.written saved invoice = saved) :
    saved ∈ (ledger.apply (.updateInvoice invoice saved)).invoices := by
  refine List.mem_map.mpr ⟨invoice, (invoiceOf_spec found).1, ?_⟩
  rw [if_pos rfl, written]

theorem statusFollows_assigned (assigned : ledger.syncedStatus invoice = some status) :
    ledger.StatusFollows { invoice with status } := by
  rw [statusFollows_iff]
  have settledSame : ledger.settledStatus { invoice with status } =
      ledger.settledStatus invoice := rfl
  rw [settledSame]
  unfold syncedStatus at assigned
  split at assigned
  · cases assigned
  · split at assigned
    · rename_i settled isSettled
      cases assigned
      exact .inr (.inl ⟨status, isSettled, rfl⟩)
    · rename_i none
      refine .inr (.inr ⟨none, ?_⟩)
      split at assigned
      · exact .inr (.inl (Option.some.inj assigned).symm)
      · split at assigned
        · exact .inl (Option.some.inj assigned).symm
        · cases assigned

theorem Sound.follows_synchronised {writes : List LedgerWrite}
    {target : SyncTarget} (sound : ledger.Sound)
    (follows : ledger.StatusesFollow) (known : write.KnownTo ledger)
    (sameInvoices : (ledger.apply write).invoices = ledger.invoices)
    (synced : ledger.synchronise ⟨[write], target⟩ = .ok writes)
    (targets : ∀ view found, view.invoices = ledger.invoices →
      syncedInvoice view target = .ok found → ∃ invoice, found = some invoice ∧
          view.invoiceOf invoice.id = some invoice ∧ ∀ id, Touches write id → id = invoice.id)
    (written : ledger.writeAll writes = .ok after) : after.StatusesFollow := by
  obtain ⟨view, viewed, found, isFound, spec⟩ := synchronise_spec synced
  obtain ⟨_, rfl⟩ := writeAll_single_ok viewed
  obtain ⟨invoice, rfl, stored, touched⟩ := targets _ found sameInvoices isFound
  have keptOther (row : FinanceInvoice) (member : row ∈ ledger.invoices)
      (other : row.id ≠ invoice.id) : (ledger.apply write).StatusFollows row := by
    have kept := sound.keepsTotals known (fun touches => other (touched row.id touches))
    exact kept.statusFollows (follows.follows row member)
  apply statusesFollow_of_follows
  rcases spec with ⟨rfl, unassigned⟩ | ⟨assignedTo, status, same, assigned, _, rfl⟩
  · cases viewed.symm.trans written
    intro row member
    rw [sameInvoices] at member
    by_cases same : row.id = invoice.id
    · have isInvoice := sound.identified.apply write |>.invoice_eq stored
        (sameInvoices ▸ member) same
      rw [isInvoice]
      left
      rw [unassigned invoice rfl]
      rfl
    · exact keptOther row member same
  · cases same
    have updated : ledger.writeAll ([write] ++ [.updateInvoice invoice { invoice with status }]) =
          (ledger.apply write).writeAll [.updateInvoice invoice { invoice with status }] :=
      writeAll_append viewed
    obtain ⟨_, rfl⟩ := writeAll_single_ok (updated.symm.trans written)
    intro row member
    rcases mem_updateInvoice (sound.identified.apply write) stored member with
      ⟨old, other⟩ | rfl
    · exact keptOther row (sameInvoices ▸ old) other
    · exact statusFollows_assigned assigned

theorem Sound.follows_updateInvoice {sentAt cancelledAt : Option ℤ} {lastError : Option String}
    (sound : ledger.Sound) (follows : ledger.StatusesFollow)
    (found : ledger.invoiceOf invoice.id = some invoice) (allowed : status = .cancelled ∨
      ledger.settledStatus invoice = none ∧ (status = .draft ∨ status = .sent ∨ status = .failed)) :
    (ledger.apply (.updateInvoice invoice { invoice with
        status, sentAt, cancelledAt, lastError })).StatusesFollow := by
  apply statusesFollow_of_follows
  intro row member
  rcases mem_updateInvoice sound.identified found member with
    ⟨old, other⟩ | rfl
  · exact follows.follows row old
  · rw [statusFollows_iff]
    rcases allowed with cancelled | none
    · exact .inl cancelled
    · exact .inr (.inr none)

theorem synchronise_nothing {writes synced : List LedgerWrite}
    (accepted : ledger.synchronise ⟨writes, .nothing⟩ = .ok synced) : synced = writes := by
  obtain ⟨_, _, target, isTarget, spec⟩ := synchronise_spec accepted
  cases isTarget
  rcases spec with ⟨same, _⟩ | ⟨_, _, isNone, _⟩
  · exact same
  · cases isNone

theorem targets_loaded (found : ledger.invoiceOf invoice.id = some invoice)
    (touched : ∀ id, Touches write id → id = invoice.id)
    (view : FinanceLedger) (target : Option FinanceInvoice)
    (sameInvoices : view.invoices = ledger.invoices)
    (isTarget : syncedInvoice view (.loaded invoice) = .ok target) :
    ∃ invoice, target = some invoice ∧ view.invoiceOf invoice.id = some invoice ∧
      ∀ id, Touches write id → id = invoice.id := by
  cases isTarget
  refine ⟨invoice, rfl, ?_, touched⟩
  unfold invoiceOf at found ⊢
  rw [sameInvoices, found]

theorem targets_stored {invoiceId : ℕ} {missing : Refusal}
    (touched : ∀ id, Touches write id → id = invoiceId)
    (view : FinanceLedger) (target : Option FinanceInvoice)
    (isTarget : syncedInvoice view (.stored invoiceId missing) = .ok target) :
    ∃ invoice, target = some invoice ∧ view.invoiceOf invoice.id = some invoice ∧
      ∀ id, Touches write id → id = invoice.id := by
  unfold syncedInvoice at isTarget
  dsimp only at isTarget
  split at isTarget
  · rename_i invoice found
    cases isTarget
    have same := (invoiceOf_spec found).2
    refine ⟨invoice, rfl, ?_, ?_⟩
    · rw [same]
      exact found
    · intro id touches
      rw [same]
      exact touched id touches
  · cases isTarget

theorem unsettled_of_sendable (follows : ledger.StatusFollows invoice)
    (active : invoice.status ≠ .cancelled) (unpaid : invoice.status ≠ .paid)
    (uncredited : invoice.status ≠ .credited) (notPartial : invoice.status ≠ .partial_) :
    ledger.settledStatus invoice = none := by
  rcases statusFollows_iff.mp follows with
    cancelled | ⟨status, settled, same⟩ | ⟨none, _⟩
  · exact absurd cancelled active
  · rcases settledStatus_cases settled with rfl | rfl | rfl
    · exact absurd same uncredited
    · exact absurd same unpaid
    · exact absurd same notPartial
  · exact none

theorem Sound.follows_untouched (sound : ledger.Sound)
    (follows : ledger.StatusesFollow) (known : write.KnownTo ledger)
    (untouched : ∀ row ∈ (ledger.apply write).invoices,
      row ∈ ledger.invoices ∧ ¬ Touches write row.id) : (ledger.apply write).StatusesFollow := by
  apply statusesFollow_of_follows
  intro row member
  obtain ⟨old, other⟩ := untouched row member
  exact (sound.keepsTotals known other).statusFollows (follows.follows row old)

variable {request : LedgerRequest}

theorem Sound.perform_follows (sound : ledger.Sound) (follows : ledger.StatusesFollow)
    (undelivered : ¬ ledger.DeliversPartial (.request request))
    (accepted : ledger.perform request = .ok after) : after.StatusesFollow := by
  obtain ⟨rows, draft, writes, read, checked, guarded, synced, written⟩ := perform_spec accepted
  have alone := readsAlone read
  have known := checked.known (reads_known sound.identified (nothing_known ledger) read)
  rw [guard_ok_iff] at guarded
  -- a delivery writes the status of an invoice of which nothing is settled
  have delivery (invoice : FinanceInvoice) (stored : invoice ∈ ledger.invoices)
      (delivers : request.Delivers invoice.id)
      (unpaid : invoice.status ≠ .paid) (active : invoice.status ≠ .cancelled)
      (uncredited : invoice.status ≠ .credited)
      (open_ : ¬ ledger.PeriodLocked invoice.createdOn.periodKey) :
      ledger.settledStatus invoice = none :=
    unsettled_of_sendable (follows.follows invoice stored) active unpaid uncredited fun isPartial =>
        undelivered ⟨invoice, stored, delivers, isPartial, open_⟩
  cases checked with
  | payment loaded active open_ covered =>
    obtain ⟨invoice, found, rfl⟩ := alone
    cases loaded
    have sameId := (invoiceOf_spec found).2
    exact sound.follows_synchronised follows (known _ List.mem_cons_self) rfl synced
      (targets_loaded (sameId ▸ found) fun id touches => touches.symm) written
  | reconciliation transactionFound loaded balance open_ =>
    obtain ⟨transaction, invoice, _, _, _, found, rfl⟩ := alone
    cases loaded
    have sameId := (invoiceOf_spec found).2
    exact sound.follows_synchronised follows (known _ List.mem_cons_self) rfl synced
      (targets_loaded (sameId ▸ found) fun id touches => touches.symm) written
  | creditNote loaded active covered =>
    obtain ⟨invoice, found, rfl⟩ := alone
    cases loaded
    have sameId := (invoiceOf_spec found).2
    exact sound.follows_synchronised follows (known _ List.mem_cons_self) rfl synced
      (targets_loaded (sameId ▸ found) fun id touches => touches.symm) written
  | @refund paymentId amountMinor refundDate payment loaded covered =>
    have touched (id : ℕ) (touches : Touches (.insertRefund
        ⟨0, payment.invoiceId, payment.id, amountMinor, refundDate⟩) id) :
        id = payment.invoiceId := Eq.symm touches
    exact sound.follows_synchronised follows (known _ List.mem_cons_self) rfl synced
      (fun view target _ => targets_stored touched view target) written
  | @paymentDeletion paymentId payment loaded =>
    have touched (id : ℕ) (touches : Touches (.deletePayment payment) id) :
        id = payment.invoiceId := Eq.symm touches
    exact sound.follows_synchronised follows (known _ List.mem_cons_self) rfl synced
      (fun view target _ => targets_stored touched view target) written
  | invoiceDeletion loaded =>
    cases synchronise_nothing synced
    obtain ⟨_, rfl⟩ := writeAll_single_ok written
    refine sound.follows_untouched follows (known _ List.mem_cons_self) ?_
    intro row member
    obtain ⟨old, other⟩ := List.mem_filter.mp member
    exact ⟨old, fun touches => of_decide_eq_true other touches.symm⟩
  | cancellation loaded unpaid uncredited =>
    obtain ⟨invoice, found, rfl⟩ := alone
    cases loaded
    cases synchronise_nothing synced
    obtain ⟨_, rfl⟩ := writeAll_single_ok written
    have sameId := (invoiceOf_spec found).2
    exact sound.follows_updateInvoice follows (sameId ▸ found) (.inl rfl)
  | sent loaded unpaid active uncredited again =>
    obtain ⟨invoice, found, isLoaded, _⟩ := alone
    obtain rfl := Option.some.inj (isLoaded.symm.trans loaded)
    cases synchronise_nothing synced
    obtain ⟨_, rfl⟩ := writeAll_single_ok written
    obtain ⟨stored, sameId⟩ := invoiceOf_spec found
    refine sound.follows_updateInvoice follows (sameId ▸ found)
      (.inr ⟨delivery invoice stored ⟨sameId.symm, by simp⟩ unpaid active
        uncredited ?_, .inr (.inl rfl)⟩)
    exact guarded _ List.mem_cons_self _ List.mem_cons_self
  | sendFailed loaded reloaded unpaid active uncredited again raised =>
    obtain ⟨invoice, found, isLoaded, isFailed⟩ := alone
    obtain rfl := Option.some.inj (isLoaded.symm.trans loaded)
    obtain rfl := (isFailed _ reloaded).symm
    cases synchronise_nothing synced
    obtain ⟨_, rfl⟩ := writeAll_single_ok written
    obtain ⟨stored, sameId⟩ := invoiceOf_spec found
    refine sound.follows_updateInvoice follows (sameId ▸ found)
      (.inr ⟨delivery invoice stored ⟨sameId.symm, ?_⟩ unpaid active
        uncredited ?_, .inr (.inr rfl)⟩)
    · intro detail required
      rcases raised with rfl | rfl <;> cases required
    · exact guarded _ List.mem_cons_self _ List.mem_cons_self
  | bulkSent loaded unpaid active uncredited again =>
    obtain ⟨invoice, found, rfl⟩ := alone
    obtain rfl := Option.some.inj loaded
    cases synchronise_nothing synced
    obtain ⟨_, rfl⟩ := writeAll_single_ok written
    obtain ⟨stored, sameId⟩ := invoiceOf_spec found
    refine sound.follows_updateInvoice follows (sameId ▸ found)
      (.inr ⟨delivery invoice stored ⟨sameId.symm, rfl⟩ unpaid active
        uncredited ?_, .inr (.inl rfl)⟩)
    exact guarded _ List.mem_cons_self _ List.mem_cons_self
  | expense | voided loaded =>
    cases synchronise_nothing synced
    obtain ⟨_, rfl⟩ := writeAll_single_ok written
    exact sound.follows_untouched follows (known _ List.mem_cons_self)
      fun row member => ⟨member, id⟩

theorem perform_delivery (identified : ledger.Identified) (stored : invoice ∈ ledger.invoices)
    (delivers : request.Delivers invoice.id) (isPartial : invoice.status = .partial_)
    (open_ : ¬ ledger.PeriodLocked invoice.createdOn.periodKey) : ∃ saved, ledger.perform request =
        .ok (ledger.apply (.updateInvoice invoice saved)) ∧
      invoice.written saved invoice = saved ∧ saved.id = invoice.id ∧
      saved.totalMinor = invoice.totalMinor ∧ (saved.status = .sent ∨ saved.status = .failed) := by
  have found : ledger.invoiceOf invoice.id = some invoice :=
    UniqueRows.find?_key identified.invoices stored
  have commits {rows : LoadedRows} {saved : FinanceInvoice}
      (read : request.reads.foldlM ledger.read {} = .ok rows) (checked : request.check rows =
        .ok ⟨[.updateInvoice invoice saved], .nothing⟩) :
      ledger.perform request = .ok (ledger.apply (.updateInvoice invoice saved)) := by
    have viewed := writeAll_single (show ledger.Admits (.updateInvoice invoice saved) from
        .inr ⟨invoice, stored, rfl⟩)
    have guarded : ledger.guardLockedFinancePeriods [.updateInvoice invoice saved] = .ok () := by
      rw [guard_ok_iff]
      intro write member date dated
      rw [List.mem_singleton.mp member] at dated
      rw [List.mem_singleton.mp dated]
      exact open_
    have synced : ledger.synchronise ⟨[.updateInvoice invoice saved], .nothing⟩ =
          .ok [.updateInvoice invoice saved] := by
      unfold synchronise
      dsimp only
      rw [viewed]
      rfl
    exact (perform_eq read checked guarded viewed synced).trans viewed
  have readInvoice (rows : LoadedRows) : ledger.read rows (.invoice invoice.id) =
        .ok { rows with invoice := some invoice } := by
    unfold FinanceLedger.read
    dsimp only
    rw [found]
  have sendable : ¬ (invoice.status = .paid ∨ invoice.status = .cancelled ∨
      invoice.status = .credited) := by
    simp [isPartial]
  have fresh (resend : Bool) : ¬ (invoice.status = .sent ∧ resend = false) := by simp [isPartial]
  have written (status : FinanceInvoiceStatus) (sentAt : Option ℤ) (lastError : Option String) :
      invoice.written { invoice with status, sentAt, lastError } invoice =
        { invoice with status, sentAt, lastError } := by
    unfold FinanceInvoice.written
    simp only [changedColumn_self]
  cases request with
  | sendFinanceInvoice invoiceId resend delivery now =>
    obtain ⟨rfl, notRequired⟩ := delivers
    cases delivery with
    | accepted =>
      refine ⟨_, @commits { invoice := some invoice } _ ?_ ?_,
        written .sent (some now) none, rfl, rfl, .inl rfl⟩
      · change ledger.read {} (.invoice invoice.id) >>= pure = _
        rw [readInvoice]
        rfl
      · unfold LedgerRequest.check checkSend
        dsimp only
        rw [if_neg sendable, if_neg (fresh resend)]
        rfl
    | approvalRequired detail => exact absurd rfl (notRequired detail)
    | invalid error | failed error =>
      refine ⟨_, @commits { invoice := some invoice, failedInvoice := some invoice } _ ?_ ?_,
        written .failed invoice.sentAt (some (error.take 2000).toString), rfl, rfl, .inr rfl⟩
      · change (do
          let rows ← ledger.read {} (.invoice invoice.id)
          let rows ← ledger.read rows (.failedInvoice invoice.id)
          pure rows) = _
        rw [readInvoice]
        change ledger.read { invoice := some invoice } (.failedInvoice invoice.id) >>= pure = _
        unfold FinanceLedger.read
        dsimp only
        rw [found]
        rfl
      · unfold LedgerRequest.check checkSend
        dsimp only
        rw [if_neg sendable, if_neg (fresh resend)]
        rfl
  | bulkSendInvoice invoiceId resend delivery now =>
    obtain ⟨rfl, rfl⟩ := delivers
    refine ⟨_, @commits { invoice := some invoice } _ ?_ ?_,
      written .sent (some now) none, rfl, rfl, .inl rfl⟩
    · change ledger.read {} (.invoice invoice.id) >>= pure = _
      rw [readInvoice]
      rfl
    · unfold LedgerRequest.check checkBulkSend
      dsimp only
      rw [if_neg sendable, if_neg (fresh resend)]
      rfl
  | recordInvoicePayment | reconcileBankRow | createRefund | createCreditNote
  | deleteFinancePayment | deleteFinanceInvoice | cancelFinanceInvoice
  | createExpense | voidExpense => cases delivers

theorem delivery_unfollowed (identified : ledger.Identified) (follows : ledger.StatusesFollow)
    (delivers : ledger.DeliversPartial (.request request)) :
    ¬ (ledger.handle (.request request)).StatusesFollow := by
  obtain ⟨invoice, stored, delivered, isPartial, open_⟩ := delivers
  obtain ⟨saved, performed, written, sameId, sameTotal, isDelivered⟩ :=
    perform_delivery identified stored delivered isPartial open_
  have settled : ledger.settledStatus invoice = some .partial_ := by
    rcases statusFollows_iff.mp (follows.follows invoice stored) with
      cancelled | ⟨status, settled, same⟩ | ⟨_, unsettled⟩
    · rw [isPartial] at cancelled
      cases cancelled
    · rw [settled, ← same, isPartial]
    · simp [isPartial] at unsettled
  intro after
  have handled : ledger.handle (.request request) =
      ledger.apply (.updateInvoice invoice saved) := by
    unfold handle
    dsimp only
    rw [performed]
  rw [handled] at after
  have found : ledger.invoiceOf invoice.id = some invoice :=
    UniqueRows.find?_key identified.invoices stored
  have settledAfter : (ledger.apply (.updateInvoice invoice
      saved)).settledStatus saved = some .partial_ := by
    rw [← settled]
    unfold settledStatus adjustedTotalMinor
    rw [sameId, sameTotal]
    rfl
  rcases statusFollows_iff.mp (after.follows saved (mem_updateInvoice_self found written)) with
    cancelled | ⟨status, isSettled, same⟩ | ⟨none, _⟩
  · rw [cancelled] at isDelivered
    simp at isDelivered
  · rw [settledAfter] at isSettled
    cases isSettled
    rw [same] at isDelivered
    simp at isDelivered
  · rw [settledAfter] at none
    cases none

theorem Sound.handle_follows (sound : ledger.Sound)
    (follows : ledger.StatusesFollow) {event : LedgerEvent}
    (undelivered : ¬ ledger.DeliversPartial event) : (ledger.handle event).StatusesFollow := by
  have periods (periods : List FinanceAccountingPeriod) : StatusesFollow { ledger with periods } :=
    statusesFollow_of_follows fun invoice member =>
      (KeepsTotals.mk rfl rfl rfl).statusFollows (follows.follows invoice member)
  cases event with
  | request request =>
    unfold FinanceLedger.handle
    dsimp only
    split
    · rename_i accepted
      exact sound.perform_follows follows undelivered accepted
    · exact follows
  | closePeriod year month =>
    obtain ⟨changed, same⟩ := ledger.closePeriod_spec year month
    change (ledger.closePeriod year month).StatusesFollow
    rw [same]
    exact periods changed
  | openPeriod year month => exact periods _

end FinanceLedger

/-- In every sequence of calls the statuses follow the ledger throughout if and
only if no delivery is made of an invoice that is partly paid then. -/
theorem run_statusesFollow_iff (ledger : FinanceLedger)
    (sound : ledger.Sound) (follows : ledger.StatusesFollow) (events : List LedgerEvent) :
    EveryStep FinanceLedger.Handles (fun _ _ after => after.StatusesFollow) ledger events ↔
      EveryStep FinanceLedger.Handles (fun before event _ => ¬ before.DeliversPartial event) ledger
        events := by
  have preserved (before : FinanceLedger) (event : LedgerEvent) (after : FinanceLedger)
      (holds : before.Sound ∧ before.StatusesFollow) (move : before.Handles event after)
      (undelivered : ¬ before.DeliversPartial event) : after.Sound ∧ after.StatusesFollow := by
    rw [show after = before.handle event from move]
    exact ⟨holds.1.handle event, holds.1.handle_follows holds.2 undelivered⟩
  refine EveryStep.iff_of_stronger ⟨sound, follows⟩ (fun _ holds => holds.2) preserved ?_
  intro before event after holds move followsAfter delivers
  rw [show after = before.handle event from move] at followsAfter
  cases event with
  | request request =>
    exact FinanceLedger.delivery_unfollowed holds.1.identified holds.2 delivers followsAfter
  | closePeriod | openPeriod => exact delivers

def partlyPaid : List LedgerEvent := [.request (.recordInvoicePayment 1 60 fourthOfMay)]

def resentEvents (delivery : Delivery) : List LedgerEvent :=
  partlyPaid ++ [.request (.sendFinanceInvoice 1 true delivery 7)]

/-- A partly paid invoice that is sent again is stored as sent, or as failed
and then not aged. -/
theorem resentEvents_unfollowed : (((resentEvents .accepted).foldl FinanceLedger.handle
        billedLedger).invoices.map fun row => row.status) = [.sent] ∧
      (((resentEvents (.failed "timeout")).foldl FinanceLedger.handle
        billedLedger).invoices.map fun row => row.status) = [.failed] ∧
      ¬ EveryStep FinanceLedger.Handles (fun _ _ after => after.StatusesFollow) billedLedger
        (resentEvents .accepted) ∧
      ¬ EveryStep FinanceLedger.Handles (fun _ _ after => after.StatusesFollow) billedLedger
        (resentEvents (.failed "timeout")) := by
  refine ⟨by decide, by decide, ?_, ?_⟩
  · intro follows
    have last := follows partlyPaid (.request (.sendFinanceInvoice 1 true .accepted 7)) [] _ _ rfl
      (Run.of_foldl _ _ _) rfl
    exact absurd last.follows (by decide)
  · intro follows
    have last := follows partlyPaid
      (.request (.sendFinanceInvoice 1 true (.failed "timeout") 7)) [] _ _
      rfl (Run.of_foldl _ _ _) rfl
    exact absurd last.follows (by decide)

theorem run_statusesFollow_paid : EveryStep FinanceLedger.Handles
      (fun _ _ after => after.StatusesFollow) billedLedger partlyPaid := by
  refine (run_statusesFollow_iff billedLedger billedLedger_sound
    (FinanceLedger.statusesFollow_of_follows (by decide)) _).mpr ?_
  refine EveryStep.of_stepByStep ⟨?_, True.intro⟩
  rintro ⟨_, _, delivers, _⟩
  exact delivers

end Ithute.Finance
