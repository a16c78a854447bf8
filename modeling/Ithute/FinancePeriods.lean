import Ithute.Library.OwnedRows
import Ithute.Library.TransitionRuns
import Ithute.FinanceChecks

/-!
# Locked periods

The guard looks at the rows that a session flushes.  It does not see rows
that the database removes with them, and it reads the lock before the commit.
As long as neither happens, what is dated in a locked period stays.
-/

namespace Ithute.Finance

open Fallible TransitionRuns OwnedRows

/-- What `period_close_summary` answers. -/
structure PeriodSummary where
  invoiceCount : ℕ
  grossInvoicedMinor : ℕ
  netInvoicedMinor : ℕ
  grossCollectedMinor : ℕ
  refundedMinor : ℕ
  netCollectedMinor : ℕ
  outstandingMinor : ℕ
  unsettledInvoiceCount : ℕ

namespace FinanceLedger

variable (ledger : FinanceLedger) (period : ℕ × ℕ)

def paymentsIn : List FinancePayment :=
  ledger.payments.filter fun row => decide (row.paymentDate.periodKey = period)

def refundsIn : List FinanceRefund :=
  ledger.refunds.filter fun row => decide (row.refundDate.periodKey = period)

def expensesIn : List FinanceExpense :=
  ledger.expenses.filter fun row => decide (row.expenseDate.periodKey = period)

def periodCloseSummary : PeriodSummary :=
  let rows := ledger.invoices.filter fun row =>
    decide (row.createdOn.periodKey = period ∧ row.status ≠ .cancelled)
  let grossCollected := ((ledger.paymentsIn period).map fun row => row.amountMinor).sum
  let refunded := ((ledger.refundsIn period).map fun row => row.amountMinor).sum
  { invoiceCount := rows.length
    grossInvoicedMinor := (rows.map fun row => row.totalMinor).sum
    netInvoicedMinor := (rows.map ledger.adjustedTotalMinor).sum
    grossCollectedMinor := grossCollected
    refundedMinor := refunded
    netCollectedMinor := grossCollected - refunded
    outstandingMinor := (rows.map ledger.outstandingMinor).sum
    unsettledInvoiceCount := rows.countP fun row => decide (0 < ledger.outstandingMinor row) }

end FinanceLedger

/-- The payments, refunds and expenses of a period are the same, and so is
what the summary says of them. -/
structure PeriodKept (period : ℕ × ℕ) (before after : FinanceLedger) : Prop where
  payments : after.paymentsIn period = before.paymentsIn period
  refunds : after.refundsIn period = before.refundsIn period
  expenses : after.expensesIn period = before.expensesIn period
  grossCollected : (after.periodCloseSummary period).grossCollectedMinor =
    (before.periodCloseSummary period).grossCollectedMinor
  refunded : (after.periodCloseSummary period).refundedMinor =
    (before.periodCloseSummary period).refundedMinor

def LedgerWrite.DatedIn (write : LedgerWrite) (period : ℕ × ℕ) : Prop :=
  ∃ date ∈ write.accountingDates, date.periodKey = period

def LedgerCall.HoldsIn (period : ℕ × ℕ) : LedgerCall → Prop
  | .reading _ _ _ => False
  | .flushed draft => ∃ write ∈ draft.writes, write.DatedIn period
  | .synchronised writes => ∃ write ∈ writes, write.DatedIn period

/-- The database removes a row that is dated in a period together with the
rows that are deleted. -/
def LedgerWrite.CascadesIn (ledger : FinanceLedger) (period : ℕ × ℕ) : LedgerWrite → Prop
  | .deletePayment loaded => ∃ refund ∈ ledger.refunds,
      refund.paymentId = loaded.id ∧ refund.refundDate.periodKey = period
  | .deleteInvoice loaded payments _ =>
    (∃ payment ∈ ledger.paymentsOf loaded.id, payment ∉ payments ∧
      payment.paymentDate.periodKey = period) ∨
    ∃ refund ∈ ledger.refunds, (refund.invoiceId = loaded.id ∨
        ∃ payment ∈ ledger.paymentsOf loaded.id, payment.id = refund.paymentId) ∧
      refund.refundDate.periodKey = period
  | _ => False

namespace LedgerState

def CommitsWithin (state : LedgerState) : LedgerAction → Prop
  | .advance index => ∀ writes, state.calls[index]? = some (.synchronised writes) →
        FinanceLedger.EachPasses (fun ledger write => ∀ period, state.ledger.PeriodLocked period →
            ¬ write.CascadesIn ledger period) state.ledger writes
  | _ => True

/-- A period is locked while no call has flushed rows dated in it. -/
def LocksQuietly (before after : LedgerState) : Prop :=
  ∀ period, ¬ before.ledger.PeriodLocked period → after.ledger.PeriodLocked period →
      ∀ call ∈ before.calls, ¬ call.HoldsIn period

/-- A call that would change what is dated in a period is refused, and the
rows stay as they are. -/
def RefusesIn (state : LedgerState) (period : ℕ × ℕ) : Prop :=
  ∀ index request rows draft, state.calls[index]? = some (.reading request [] rows) →
    request.check rows = .ok draft → (∃ write ∈ draft.writes, write.DatedIn period) →
      state.advance index = { state with calls := state.calls.eraseIdx index }

end LedgerState

section Decidable

instance LedgerWrite.DatedIn.decidable (write : LedgerWrite)
    (period : ℕ × ℕ) : Decidable (write.DatedIn period) :=
  inferInstanceAs (Decidable (∃ date ∈ write.accountingDates, _))

instance LedgerCall.HoldsIn.decidable (period : ℕ × ℕ) :
    (call : LedgerCall) → Decidable (call.HoldsIn period)
  | .reading _ _ _ => .isFalse id
  | .flushed draft => inferInstanceAs (Decidable (∃ write ∈ draft.writes, _))
  | .synchronised writes => inferInstanceAs (Decidable (∃ write ∈ writes, _))

instance LedgerWrite.CascadesIn.decidable (ledger : FinanceLedger) (period : ℕ × ℕ) :
    (write : LedgerWrite) → Decidable (write.CascadesIn ledger period)
  | .deletePayment _ => inferInstanceAs (Decidable (∃ refund ∈ ledger.refunds, _ ∧ _))
  | .deleteInvoice loaded _ _ =>
    inferInstanceAs (Decidable ((∃ payment ∈ ledger.paymentsOf loaded.id, _ ∧ _) ∨
      ∃ refund ∈ ledger.refunds, (_ ∨ ∃ payment ∈ ledger.paymentsOf loaded.id, _) ∧ _))
  | .insertPayment _ | .reconcilePayment _ _ | .insertRefund _
  | .insertCreditNote _ | .insertExpense _ | .voidExpense _
  | .updateInvoice _ _ => .isFalse id

theorem FinanceLedger.forall_locked_iff {ledger : FinanceLedger} {holds : ℕ × ℕ → Prop} :
    (∀ period, ledger.PeriodLocked period → holds period) ↔
      ∀ row ∈ ledger.periods, row.locked = true → holds (row.year, row.month) := by
  constructor
  · exact fun all row member locked => all _ ⟨row, member, rfl, locked⟩
  · rintro all _ ⟨row, member, rfl, locked⟩
    exact all row member locked

instance LedgerState.CommitsWithin.decidable (state : LedgerState)
    (action : LedgerAction) : Decidable (state.CommitsWithin action) :=
  match action with
  | .advance index =>
    match found : state.calls[index]? with
    | some (.synchronised writes) =>
      have (ledger : FinanceLedger) (write : LedgerWrite) :=
        decidable_of_iff _ (@FinanceLedger.forall_locked_iff state.ledger
          fun period => ¬ write.CascadesIn ledger period).symm
      decidable_of_iff (FinanceLedger.EachPasses _ state.ledger writes)
        ⟨fun passes _ same => by cases found.symm.trans same; exact passes,
          fun passes => passes writes found⟩
    | some (.reading _ _ _) | some (.flushed _) | none =>
      .isTrue fun _ same => by cases found.symm.trans same
  | .request _ | .crash _ | .closePeriod _ _ | .openPeriod _ _ => .isTrue True.intro

instance LedgerState.LocksQuietly.decidable (before after : LedgerState) :
    Decidable (before.LocksQuietly after) :=
  decidable_of_iff _ ((@FinanceLedger.forall_locked_iff after.ledger
    fun period => ¬ before.ledger.PeriodLocked period →
      ∀ call ∈ before.calls, ¬ call.HoldsIn period).symm.trans
    ⟨fun all period opened locked => all period locked opened,
      fun all period locked opened => all period opened locked⟩)

end Decidable

/-- Between the closing of a period and its reopening nothing that is dated in
it changes. -/
def LockedPeriodsKept (start : LedgerState) (actions : List LedgerAction) : Prop :=
  ∀ period front middle back first second, actions = front ++ middle ++ back →
    Run LedgerState.Performs start front first → Run LedgerState.Performs first middle second →
    first.ledger.PeriodLocked period → EveryStep LedgerState.Performs
      (fun _ _ after => after.ledger.PeriodLocked period) first middle →
      PeriodKept period first.ledger second.ledger ∧ second.RefusesIn period

theorem PeriodKept.of_rows {period : ℕ × ℕ} {before after : FinanceLedger}
    (payments : after.paymentsIn period = before.paymentsIn period)
    (refunds : after.refundsIn period = before.refundsIn period)
    (expenses : after.expensesIn period = before.expensesIn period) :
    PeriodKept period before after where
  payments := payments
  refunds := refunds
  expenses := expenses
  grossCollected := by
    unfold FinanceLedger.periodCloseSummary
    dsimp only
    rw [payments]
  refunded := by
    unfold FinanceLedger.periodCloseSummary
    dsimp only
    rw [refunds]

namespace PeriodKept

variable {period : ℕ × ℕ} {before middle after ledger : FinanceLedger} {write : LedgerWrite}

theorem refl (period : ℕ × ℕ) (ledger : FinanceLedger) : PeriodKept period ledger ledger :=
  .of_rows rfl rfl rfl

theorem trans (first : PeriodKept period before middle) (second : PeriodKept period middle after) :
    PeriodKept period before after :=
  .of_rows (second.payments.trans first.payments) (second.refunds.trans first.refunds)
    (second.expenses.trans first.expenses)

theorem apply (known : write.KnownTo ledger) (elsewhere : ¬ write.DatedIn period)
    (within : ¬ write.CascadesIn ledger period) :
    PeriodKept period ledger (ledger.apply write) := by
  have dated (date : AccountingDate) (listed : date ∈ write.accountingDates) :
      date.periodKey ≠ period :=
    fun same => elsewhere ⟨date, listed, same⟩
  cases write with
  | insertPayment row | reconcilePayment row transaction =>
    exact .of_rows (filter_append_of_other (decide_eq_false
      (dated row.paymentDate List.mem_cons_self))) rfl rfl
  | insertRefund row =>
    exact .of_rows rfl (filter_append_of_other (decide_eq_false
      (dated row.refundDate List.mem_cons_self))) rfl
  | insertExpense row =>
    exact .of_rows rfl rfl (filter_append_of_other (decide_eq_false
      (dated row.expenseDate List.mem_cons_self)))
  | insertCreditNote row | updateInvoice loaded saved => exact .of_rows rfl rfl rfl
  | voidExpense loaded =>
    obtain ⟨_, only⟩ := known
    refine .of_rows rfl rfl (filter_map_of_kept ?_ ?_)
    · intro row member inPeriod
      rw [if_neg]
      intro same
      apply dated loaded.expenseDate List.mem_cons_self
      rw [← only row member same]
      exact of_decide_eq_true inPeriod
    · intro row member other
      split
      · exact other
      · exact other
  | deletePayment loaded =>
    obtain ⟨_, only⟩ := known
    refine .of_rows (filter_filter_of_kept ?_) (filter_filter_of_kept ?_) rfl
    · intro row member inPeriod
      refine decide_eq_true ?_
      intro same
      apply dated loaded.paymentDate List.mem_cons_self
      rw [← only row member same]
      exact of_decide_eq_true inPeriod
    · intro row member inPeriod
      refine decide_eq_true ?_
      intro same
      exact within ⟨row, member, same, of_decide_eq_true inPeriod⟩
  | deleteInvoice loaded payments creditNotes =>
    refine .of_rows (filter_filter_of_kept ?_) (filter_filter_of_kept ?_) rfl
    · intro row member inPeriod
      refine decide_eq_true ?_
      intro same
      have ofInvoice : row ∈ ledger.paymentsOf loaded.id :=
        List.mem_filter.mpr ⟨member, decide_eq_true same⟩
      by_cases listed : row ∈ payments
      · refine dated row.paymentDate ?_ (of_decide_eq_true inPeriod)
        unfold LedgerWrite.accountingDates
        rw [List.mem_append]
        exact .inl (List.mem_cons_of_mem _ (List.mem_map_of_mem listed))
      · exact within (.inl ⟨row, ofInvoice, listed, of_decide_eq_true inPeriod⟩)
    · intro row member inPeriod
      refine decide_eq_true ⟨?_, ?_⟩
      · intro same
        exact within (.inr ⟨row, member, .inl same, of_decide_eq_true inPeriod⟩)
      · intro payment ofInvoice same
        exact within (.inr ⟨row, member, .inr ⟨payment, ofInvoice, same⟩,
          of_decide_eq_true inPeriod⟩)

theorem writeAll {writes : List LedgerWrite} (known : ∀ write ∈ writes, write.KnownTo ledger)
    (elsewhere : ∀ write ∈ writes, ¬ write.DatedIn period) (within : FinanceLedger.EachPasses
      (fun ledger write => ¬ write.CascadesIn ledger period) ledger writes)
    (accepted : ledger.writeAll writes = .ok after) : PeriodKept period ledger after := by
  have there : FinanceLedger.EachPasses (fun _ write =>
      write.KnownTo ledger ∧ ¬ write.DatedIn period) ledger writes :=
    .of_forall fun _ write member => ⟨known write member, elsewhere write member⟩
  have step (sofar : FinanceLedger) (write : LedgerWrite) (holds : PeriodKept period ledger sofar ∧
        FinanceLedger.Evolves ledger sofar)
      (_ : sofar.Admits write)
      (passes : ¬ write.CascadesIn sofar period ∧ write.KnownTo ledger ∧ ¬ write.DatedIn period) :
      PeriodKept period ledger (sofar.apply write) ∧
        FinanceLedger.Evolves ledger (sofar.apply write) :=
    ⟨holds.1.trans (apply (holds.2.write passes.2.1) passes.2.2 passes.1),
      holds.2.trans (FinanceLedger.apply_evolves sofar write)⟩
  exact (FinanceLedger.writeAll_invariant step
    ⟨refl period ledger, .refl ledger⟩ accepted (within.and there)).1

end PeriodKept

namespace FinanceLedger

variable {ledger after : FinanceLedger} {period : ℕ × ℕ}

theorem apply_periods (ledger : FinanceLedger) (write : LedgerWrite) :
    (ledger.apply write).periods = ledger.periods := by
  cases write <;> rfl

theorem writeAll_locked {writes : List LedgerWrite}
    (accepted : ledger.writeAll writes = .ok after) :
    after.PeriodLocked period ↔ ledger.PeriodLocked period := by
  have same : after.periods = ledger.periods :=
    @writeAll_invariant ledger after (fun sofar => sofar.periods = ledger.periods) (fun _ _ => True)
      (fun sofar write holds _ _ => (apply_periods sofar write).trans holds)
      writes rfl accepted (.of_forall fun _ _ _ => True.intro)
  unfold PeriodLocked
  rw [same]

theorem not_datedIn_of_guard {writes : List LedgerWrite}
    (guarded : ledger.guardLockedFinancePeriods writes = .ok ())
    (locked : ledger.PeriodLocked period) : ∀ write ∈ writes, ¬ write.DatedIn period := by
  rw [guard_ok_iff] at guarded
  rintro write member ⟨date, listed, rfl⟩
  exact guarded write member date listed locked

end FinanceLedger

theorem LedgerCall.next_holds {ledger : FinanceLedger} {period : ℕ × ℕ}
    {call following : LedgerCall} (locked : ledger.PeriodLocked period)
    (elsewhere : ¬ call.HoldsIn period) (next : call.next ledger = .ok (.inl following)) :
    ¬ following.HoldsIn period := by
  cases call with
  | reading request remaining rows =>
    cases remaining with
    | nil =>
      obtain ⟨draft, _, rest⟩ := bind_ok next
      obtain ⟨_, flushed, same⟩ := bind_ok rest
      cases same
      rintro ⟨write, member, dated⟩
      exact FinanceLedger.not_datedIn_of_guard
        (FinanceLedger.flush_ok flushed).1 locked write member dated
    | cons statement remaining =>
      obtain ⟨_, _, same⟩ := bind_ok next
      cases same
      exact id
  | flushed draft =>
    obtain ⟨writes, synced, same⟩ := bind_ok next
    cases same
    obtain ⟨_, _, _, _, spec⟩ := FinanceLedger.synchronise_spec synced
    rintro ⟨write, member, dated⟩
    rcases spec with ⟨rfl, _⟩ | ⟨invoice, status, _, _, guarded, rfl⟩
    · exact elsewhere ⟨write, member, dated⟩
    · rcases List.mem_append.mp member with old | new
      · exact elsewhere ⟨write, old, dated⟩
      · exact FinanceLedger.not_datedIn_of_guard guarded locked write new dated
  | synchronised writes =>
    obtain ⟨_, _, impossible⟩ := bind_ok next
    cases impossible

namespace LedgerState

variable {state : LedgerState} {action : LedgerAction}

structure Quiet (state : LedgerState) : Prop where
  known : state.Known
  holds : ∀ period, state.ledger.PeriodLocked period → ∀ call ∈ state.calls, ¬ call.HoldsIn period

variable {period : ℕ × ℕ}

theorem openPeriod_locked {year month : ℕ}
    (locked : (state.ledger.openPeriod year month).PeriodLocked period) :
    state.ledger.PeriodLocked period := by
  obtain ⟨row, member, same, isLocked⟩ := locked
  obtain ⟨stored, storedMem, rfl⟩ := List.mem_map.mp member
  by_cases here : stored.year = year ∧ stored.month = month
  · rw [if_pos here] at isLocked
    cases isLocked
  · rw [if_neg here] at same isLocked
    exact ⟨stored, storedMem, same, isLocked⟩

theorem Quiet.perform (quiet : state.Quiet) (locks : state.LocksQuietly (state.perform action)) :
    (state.perform action).Quiet := by
  refine ⟨quiet.known.perform action, ?_⟩
  intro period locked
  cases action with
  | request request =>
    intro call member
    rcases List.mem_append.mp member with old | new
    · exact quiet.holds period locked call old
    · rw [List.mem_singleton.mp new]
      exact id
  | advance index =>
    change (state.advance index).ledger.PeriodLocked period at locked
    change ∀ call ∈ (state.advance index).calls, _
    rcases state.advance_cases index with
      ⟨_, same⟩ | dropped | ⟨call, following, found, next, same⟩ |
        ⟨writes, committed, found, written, same⟩
    · rw [same] at locked ⊢
      exact quiet.holds period locked
    · rw [dropped] at locked ⊢
      exact fun call member => quiet.holds period locked call (List.mem_of_mem_eraseIdx member)
    · rw [same] at locked ⊢
      intro other member
      rcases List.mem_or_eq_of_mem_set member with old | new
      · exact quiet.holds period locked other old
      · rw [new]
        exact LedgerCall.next_holds locked
          (quiet.holds period locked call (List.mem_of_getElem? found)) next
    · rw [same] at locked ⊢
      exact fun call member => quiet.holds period
        ((FinanceLedger.writeAll_locked written).mp locked) call (List.mem_of_mem_eraseIdx member)
  | crash index =>
    exact fun call member => quiet.holds period locked call (List.mem_of_mem_eraseIdx member)
  | closePeriod year month =>
    intro call member
    by_cases before : state.ledger.PeriodLocked period
    · exact quiet.holds period before call member
    · exact locks period before locked call member
  | openPeriod year month => exact quiet.holds period (openPeriod_locked locked)

theorem Quiet.periodKept (quiet : state.Quiet)
    (locked : state.ledger.PeriodLocked period) (within : state.CommitsWithin action) :
    PeriodKept period state.ledger (state.perform action).ledger := by
  cases action with
  | request request | crash index => exact .refl period _
  | advance index =>
    change PeriodKept period state.ledger (state.advance index).ledger
    rcases state.advance_cases index with
      ⟨_, same⟩ | dropped | ⟨call, following, found, next, same⟩ |
        ⟨writes, committed, found, written, same⟩
    · rw [same]
      exact .refl period _
    · rw [dropped]
      exact .refl period _
    · rw [same]
      exact .refl period _
    · rw [same]
      have member := List.mem_of_getElem? found
      have elsewhere : ∀ write ∈ writes, ¬ write.DatedIn period :=
        fun write listed dated => quiet.holds period locked _ member ⟨write, listed, dated⟩
      refine .writeAll (quiet.known.calls _ member) elsewhere ?_ written
      exact (within writes found).mono fun _ _ passes => passes period locked
  | closePeriod year month =>
    obtain ⟨periods, same⟩ := state.ledger.closePeriod_spec year month
    change PeriodKept period state.ledger (state.ledger.closePeriod year month)
    rw [same]
    exact .of_rows rfl rfl rfl
  | openPeriod year month => exact .of_rows rfl rfl rfl

theorem refusesIn (locked : state.ledger.PeriodLocked period) : state.RefusesIn period := by
  rintro index request rows draft found checked ⟨write, member, dated⟩
  rcases state.advance_cases index with
    ⟨none, _⟩ | dropped | ⟨call, following, here, next, _⟩ | ⟨writes, committed, here, _, _⟩
  · cases found.symm.trans none
  · exact dropped
  · cases found.symm.trans here
    obtain ⟨other, accepted, rest⟩ := bind_ok next
    cases checked.symm.trans accepted
    obtain ⟨_, flushed, _⟩ := bind_ok rest
    exact absurd dated (FinanceLedger.not_datedIn_of_guard
      (FinanceLedger.flush_ok flushed).1 locked write member)
  · cases found.symm.trans here

end LedgerState

/-- In every run that locks periods while no call has flushed rows dated in
them, and whose commits cascade into no locked period, what is dated in a
period stays from its closing to its reopening. -/
theorem lockedPeriods_kept (ledger : FinanceLedger)
    (identified : ledger.Identified) (actions : List LedgerAction)
    (quiet : EveryStep LedgerState.Performs (fun before action after =>
        before.LocksQuietly after ∧ before.CommitsWithin action)
      { ledger := ledger } actions) : LockedPeriodsKept { ledger := ledger } actions := by
  have initial : LedgerState.Quiet { ledger := ledger } :=
    ⟨⟨identified, fun _ member => absurd member List.not_mem_nil⟩,
      fun _ _ _ member => absurd member List.not_mem_nil⟩
  have preserved (before : LedgerState) (action : LedgerAction)
      (after : LedgerState) (holds : before.Quiet) (move : before.Performs action after)
      (here : before.LocksQuietly after ∧ before.CommitsWithin action) : after.Quiet := by
    rw [show after = before.perform action from move] at here ⊢
    exact holds.perform here.1
  intro period front middle back first second split reached later locked stays
  rw [split] at quiet
  have quietFirst := reached.invariant_of_everyStep initial preserved quiet.of_prefix.of_prefix
  have quietMiddle := quiet.of_prefix.of_suffix reached
  have kept (before : LedgerState) (action : LedgerAction) (after : LedgerState)
      (holds : before.Quiet ∧ before.ledger.PeriodLocked period ∧
        PeriodKept period first.ledger before.ledger)
      (move : before.Performs action after)
      (here : (before.LocksQuietly after ∧ before.CommitsWithin action) ∧
        after.ledger.PeriodLocked period) : after.Quiet ∧ after.ledger.PeriodLocked period ∧
        PeriodKept period first.ledger after.ledger := by
    refine ⟨preserved before action after holds.1 move here.1, here.2, ?_⟩
    rw [show after = before.perform action from move]
    exact holds.2.2.trans (holds.1.periodKept holds.2.1 here.1.2)
  have held := @Run.invariant_of_everyStep _ _ _ _ _ _
    (fun state => state.Quiet ∧ state.ledger.PeriodLocked period ∧
      PeriodKept period first.ledger state.ledger) _
    ⟨quietFirst, locked, .refl period first.ledger⟩ kept later
    (EveryStep.and_iff.mpr ⟨quietMiddle, stays⟩)
  exact ⟨held.2.2, LedgerState.refusesIn held.2.1⟩

def aprilDate : AccountingDate := ⟨2026, 4, 30⟩

def mayDate : AccountingDate := ⟨2026, 5, 4⟩

/-- An invoice that has been paid in April and partly refunded in May. -/
def repaidLedger : FinanceLedger where
  invoices :=
    [{ id := 1
       totalMinor := 100
       status := .partial_
       sentAt := some 0
       dueDate := ⟨2026, 6, 1⟩
       createdOn := aprilDate }]
  payments := [⟨2, 1, 100, aprilDate⟩]
  refunds := [⟨3, 1, 2, 40, mayDate⟩]
  nextId := 4

def deletedUnderRefund : List LedgerAction :=
  [.closePeriod 2026 5, .request (.deleteFinancePayment 2), .advance 0,
    .advance 0, .advance 0, .advance 0]

/-- An expense of May is flushed, and May is closed before it commits. -/
def committedLate : List LedgerAction :=
  [.request (.createExpense mayDate 70 10), .advance 0, .closePeriod 2026 5, .advance 0, .advance 0]

/-- The refund of May disappears with the payment, and the expense of May
appears after the closing. -/
theorem lockedPeriods_changed : ((deletedUnderRefund.foldl LedgerState.perform
        { ledger := repaidLedger }).ledger.periodCloseSummary (2026, 5)).refundedMinor = 0 ∧
      ¬ LockedPeriodsKept { ledger := repaidLedger } deletedUnderRefund ∧
      ¬ LockedPeriodsKept { ledger := repaidLedger } committedLate := by
  refine ⟨by decide, ?_, ?_⟩
  · intro kept
    have changed := (kept (2026, 5) [.closePeriod 2026 5]
      [.request (.deleteFinancePayment 2), .advance 0, .advance 0,
        .advance 0, .advance 0] [] _ _ rfl
      (Run.of_foldl _ _ _) (Run.of_foldl _ _ _) (by decide)
      (EveryStep.of_stepByStep (by decide))).1.refunds
    exact absurd changed (by decide)
  · intro kept
    have changed := (kept (2026, 5) [.request (.createExpense mayDate 70 10), .advance 0,
        .closePeriod 2026 5] [.advance 0, .advance 0] [] _ _ rfl
      (Run.of_foldl _ _ _) (Run.of_foldl _ _ _) (by decide)
      (EveryStep.of_stepByStep (by decide))).1.expenses
    exact absurd changed (by decide)

/-- A refund of May is refused while May is closed, and an expense of June is
recorded. -/
def keptWhileClosed : List LedgerAction :=
  [.closePeriod 2026 5, .request (.createRefund 2 5 mayDate), .advance 0,
    .advance 0, .request (.createExpense ⟨2026, 6, 1⟩ 70 10), .advance 0,
    .advance 0, .advance 0, .openPeriod 2026 5]

theorem lockedPeriods_kept_while_closed :
    LockedPeriodsKept { ledger := repaidLedger } keptWhileClosed ∧
      (keptWhileClosed.foldl LedgerState.perform { ledger := repaidLedger }).ledger.expenses =
          [⟨4, ⟨2026, 6, 1⟩, 70, 10, false⟩] := by
  refine ⟨lockedPeriods_kept repaidLedger ?_ _ ?_, by decide⟩
  · exact ⟨by decide, by decide, by decide, by decide, by decide⟩
  · exact EveryStep.of_stepByStep (by decide)

end Ithute.Finance
