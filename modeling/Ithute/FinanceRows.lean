import Ithute.Library.UniqueRows
import Ithute.FinanceCalls

/-!
# Loaded rows

A payment or an expense that a call has loaded may be gone when the call
commits, but no other row has its identifier.  So a write that names a row by
its identifier meets the row that was loaded, or none.
-/

namespace Ithute.Finance

open Fallible UniqueRows

namespace FinanceLedger

variable {ledger before middle after : FinanceLedger} {id : ℕ}

theorem invoiceOf_spec {invoice : FinanceInvoice}
    (found : ledger.invoiceOf id = some invoice) : invoice ∈ ledger.invoices ∧ invoice.id = id :=
  find?_decide found

theorem paymentOf_spec {payment : FinancePayment}
    (found : ledger.paymentOf id = some payment) : payment ∈ ledger.payments ∧ payment.id = id :=
  find?_decide found

theorem expenseOf_spec {expense : FinanceExpense}
    (found : ledger.expenseOf id = some expense) : expense ∈ ledger.expenses ∧ expense.id = id :=
  find?_decide found

theorem transactionOf_spec {transaction : FinanceBankTransaction}
    (found : ledger.transactionOf id = some transaction) :
    transaction ∈ ledger.transactions ∧ transaction.id = id :=
  find?_decide found

/-- Invoices, payments and expenses have identifiers of their own. -/
structure Identified (ledger : FinanceLedger) : Prop where
  invoices : (ledger.invoices.map fun row => row.id).Nodup
  payments : (ledger.payments.map fun row => row.id).Nodup
  paymentIds : ∀ row ∈ ledger.payments, row.id < ledger.nextId
  expenses : (ledger.expenses.map fun row => row.id).Nodup
  expenseIds : ∀ row ∈ ledger.expenses, row.id < ledger.nextId

/-- Rows are removed, rows with new identifiers are added, and those that
stay keep what never changes. -/
structure Evolves (before after : FinanceLedger) : Prop where
  nextId : before.nextId ≤ after.nextId
  payments : ∀ row ∈ after.payments, row ∈ before.payments ∨ before.nextId ≤ row.id
  expenses : ∀ row ∈ after.expenses, (∃ earlier ∈ before.expenses, earlier.id = row.id ∧
      earlier.expenseDate = row.expenseDate) ∨ before.nextId ≤ row.id

theorem Evolves.of_eq (nextId : after.nextId = before.nextId)
    (payments : after.payments = before.payments) (expenses : after.expenses = before.expenses) :
    Evolves before after where
  nextId := Nat.le_of_eq nextId.symm
  payments _ member := .inl (payments ▸ member)
  expenses row member := .inl ⟨row, expenses ▸ member, rfl, rfl⟩

theorem Evolves.refl (ledger : FinanceLedger) : Evolves ledger ledger := .of_eq rfl rfl rfl

theorem Evolves.trans (first : Evolves before middle)
    (second : Evolves middle after) : Evolves before after where
  nextId := Nat.le_trans first.nextId second.nextId
  payments row member := by
    rcases second.payments row member with old | new
    · exact first.payments row old
    · exact .inr (Nat.le_trans first.nextId new)
  expenses row member := by
    rcases second.expenses row member with ⟨earlier, old, sameId, sameDate⟩ | new
    · rcases first.expenses earlier old with ⟨first', old', sameId', date'⟩ | new
      · exact .inl ⟨first', old', sameId'.trans sameId, date'.trans sameDate⟩
      · exact .inr (sameId ▸ new)
    · exact .inr (Nat.le_trans first.nextId new)

theorem addPayment_identified (identified : ledger.Identified)
    (row : FinancePayment) : (ledger.addPayment row).Identified := by
  refine ⟨identified.invoices, ?_, ?_, identified.expenses, ?_⟩
  · unfold addPayment
    rw [List.map_append, List.nodup_append]
    refine ⟨identified.payments, List.nodup_singleton _, ?_⟩
    intro id old other new same
    obtain ⟨stored, member, rfl⟩ := List.mem_map.mp old
    have below := identified.paymentIds stored member
    simp only [List.map_cons, List.map_nil, List.mem_singleton] at new
    omega
  · intro stored member
    change stored.id < ledger.nextId + 1
    rcases List.mem_append.mp member with old | new
    · exact Nat.lt_succ_of_lt (identified.paymentIds stored old)
    · rw [List.mem_singleton.mp new]
      exact Nat.lt_succ_self _
  · intro stored member
    exact Nat.lt_succ_of_lt (identified.expenseIds stored member)

theorem addPayment_evolves (ledger : FinanceLedger) (row : FinancePayment) :
    Evolves ledger (ledger.addPayment row) where
  nextId := Nat.le_succ _
  payments stored member := by
    rcases List.mem_append.mp member with old | new
    · exact .inl old
    · rw [List.mem_singleton.mp new]
      exact .inr (Nat.le_refl _)
  expenses stored member := .inl ⟨stored, member, rfl, rfl⟩

theorem removePayment_identified (identified : ledger.Identified) (id : ℕ) :
    (ledger.removePayment id).Identified :=
  ⟨identified.invoices, identified.payments.sublist (List.filter_sublist.map _),
    fun stored member => identified.paymentIds stored (List.mem_filter.mp member).1,
    identified.expenses, identified.expenseIds⟩

theorem removeInvoice_identified (identified : ledger.Identified) (id : ℕ) :
    (ledger.removeInvoice id).Identified :=
  ⟨identified.invoices.sublist (List.filter_sublist.map _),
    identified.payments.sublist (List.filter_sublist.map _), fun stored member =>
      identified.paymentIds stored (List.mem_filter.mp member).1,
    identified.expenses, identified.expenseIds⟩

theorem Identified.apply (identified : ledger.Identified)
    (write : LedgerWrite) : (ledger.apply write).Identified := by
  cases write with
  | insertPayment row => exact addPayment_identified identified row
  | reconcilePayment row transaction =>
    have added := addPayment_identified identified row
    exact ⟨added.invoices, added.payments, added.paymentIds, added.expenses, added.expenseIds⟩
  | insertRefund row | insertCreditNote row =>
    exact ⟨identified.invoices, identified.payments, fun stored member =>
        Nat.lt_succ_of_lt (identified.paymentIds stored member), identified.expenses,
      fun stored member => Nat.lt_succ_of_lt (identified.expenseIds stored member)⟩
  | insertExpense row =>
    refine ⟨identified.invoices, identified.payments, fun stored member =>
        Nat.lt_succ_of_lt (identified.paymentIds stored member), ?_, ?_⟩
    · unfold FinanceLedger.apply
      dsimp only
      rw [List.map_append, List.nodup_append]
      refine ⟨identified.expenses, List.nodup_singleton _, ?_⟩
      intro id old other new same
      obtain ⟨stored, member, rfl⟩ := List.mem_map.mp old
      have below := identified.expenseIds stored member
      simp only [List.map_cons, List.map_nil, List.mem_singleton] at new
      omega
    · intro stored member
      change stored.id < ledger.nextId + 1
      rcases List.mem_append.mp member with old | new
      · exact Nat.lt_succ_of_lt (identified.expenseIds stored old)
      · rw [List.mem_singleton.mp new]
        exact Nat.lt_succ_self _
  | updateInvoice loaded saved =>
    refine ⟨?_, identified.payments, identified.paymentIds,
      identified.expenses, identified.expenseIds⟩
    have ids : (ledger.apply (.updateInvoice loaded saved)).invoices.map
        (fun row => row.id) = ledger.invoices.map fun row => row.id := by
      unfold FinanceLedger.apply
      dsimp only
      rw [List.map_map]
      apply List.map_congr_left
      intro stored _
      dsimp only [Function.comp]
      split <;> rfl
    rw [ids]
    exact identified.invoices
  | voidExpense loaded =>
    have ids : (ledger.apply (.voidExpense loaded)).expenses.map
        (fun row => row.id) = ledger.expenses.map fun row => row.id := by
      unfold FinanceLedger.apply
      dsimp only
      rw [List.map_map]
      apply List.map_congr_left
      intro stored _
      dsimp only [Function.comp]
      split <;> rfl
    refine ⟨identified.invoices, identified.payments, identified.paymentIds, ?_, ?_⟩
    · rw [ids]
      exact identified.expenses
    · intro stored member
      have listed : stored.id ∈ ledger.expenses.map fun row => row.id :=
        ids ▸ List.mem_map_of_mem member
      obtain ⟨earlier, old, same⟩ := List.mem_map.mp listed
      rw [← same]
      exact identified.expenseIds earlier old
  | deletePayment loaded => exact removePayment_identified identified loaded.id
  | deleteInvoice loaded payments creditNotes => exact removeInvoice_identified identified loaded.id

theorem apply_evolves (ledger : FinanceLedger) (write : LedgerWrite) :
    Evolves ledger (ledger.apply write) := by
  cases write with
  | insertPayment row => exact addPayment_evolves ledger row
  | reconcilePayment row transaction =>
    have added := addPayment_evolves ledger row
    exact ⟨added.nextId, added.payments, added.expenses⟩
  | insertRefund row | insertCreditNote row =>
    exact ⟨Nat.le_succ _, fun stored member => .inl member,
      fun stored member => .inl ⟨stored, member, rfl, rfl⟩⟩
  | insertExpense row =>
    refine ⟨Nat.le_succ _, fun stored member => .inl member, ?_⟩
    intro stored member
    rcases List.mem_append.mp member with old | new
    · exact .inl ⟨stored, old, rfl, rfl⟩
    · rw [List.mem_singleton.mp new]
      exact .inr (Nat.le_refl _)
  | updateInvoice loaded saved => exact .of_eq rfl rfl rfl
  | voidExpense loaded =>
    refine ⟨Nat.le_refl _, fun stored member => .inl member, ?_⟩
    intro stored member
    obtain ⟨earlier, old, rfl⟩ := List.mem_map.mp member
    refine .inl ⟨earlier, old, ?_⟩
    split <;> exact ⟨rfl, rfl⟩
  | deletePayment loaded =>
    exact ⟨Nat.le_refl _, fun stored member => .inl (List.mem_filter.mp member).1,
      fun stored member => .inl ⟨stored, member, rfl, rfl⟩⟩
  | deleteInvoice loaded payments creditNotes =>
    exact ⟨Nat.le_refl _, fun stored member => .inl (List.mem_filter.mp member).1,
      fun stored member => .inl ⟨stored, member, rfl, rfl⟩⟩

/-- Each write of a session passes a test on the ledger that it meets. -/
def EachPasses (passes : FinanceLedger → LedgerWrite → Prop) :
    FinanceLedger → List LedgerWrite → Prop
  | _, [] => True
  | ledger, write :: writes => passes ledger write ∧ EachPasses passes (ledger.apply write) writes

instance EachPasses.decidable {passes : FinanceLedger → LedgerWrite → Prop}
    [∀ ledger write, Decidable (passes ledger write)]
    (ledger : FinanceLedger) (writes : List LedgerWrite) :
    Decidable (EachPasses passes ledger writes) :=
  match writes with
  | [] => .isTrue True.intro
  | write :: writes =>
    have := @EachPasses.decidable passes _ (ledger.apply write) writes
    inferInstanceAs (Decidable (_ ∧ _))

variable {writes : List LedgerWrite}

theorem EachPasses.of_forall {passes : FinanceLedger → LedgerWrite → Prop}
    (all : ∀ ledger, ∀ write ∈ writes, passes ledger write) : EachPasses passes ledger writes := by
  induction writes generalizing ledger with
  | nil => exact True.intro
  | cons first rest ih =>
    exact ⟨all ledger first List.mem_cons_self, ih fun ledger write member =>
        all ledger write (List.mem_cons_of_mem _ member)⟩

theorem EachPasses.mono {first second : FinanceLedger → LedgerWrite → Prop}
    (here : EachPasses first ledger writes)
    (weaker : ∀ ledger write, first ledger write → second ledger write) :
    EachPasses second ledger writes := by
  induction writes generalizing ledger with
  | nil => exact True.intro
  | cons write rest ih => exact ⟨weaker ledger write here.1, ih here.2⟩

theorem EachPasses.and {first second : FinanceLedger → LedgerWrite → Prop}
    (here : EachPasses first ledger writes) (there : EachPasses second ledger writes) :
    EachPasses (fun ledger write => first ledger write ∧ second ledger write) ledger writes := by
  induction writes generalizing ledger with
  | nil => exact True.intro
  | cons write rest ih => exact ⟨⟨here.1, there.1⟩, ih here.2 there.2⟩

theorem EachPasses.concat {passes : FinanceLedger → LedgerWrite → Prop}
    {last : LedgerWrite} (here : EachPasses passes ledger writes)
    (always : ∀ ledger, passes ledger last) : EachPasses passes ledger (writes ++ [last]) := by
  induction writes generalizing ledger with
  | nil => exact ⟨always ledger, True.intro⟩
  | cons write rest ih => exact ⟨here.1, ih here.2⟩

variable {write : LedgerWrite}

theorem write_ok (accepted : ledger.write write = .ok after) :
    ledger.Admits write ∧ after = ledger.apply write := by
  unfold FinanceLedger.write at accepted
  split at accepted
  · rename_i admits
    cases accepted
    exact ⟨admits, rfl⟩
  · cases accepted

theorem writeAll_single (admits : ledger.Admits write) :
    ledger.writeAll [write] = .ok (ledger.apply write) := by
  unfold writeAll FinanceLedger.write
  rw [List.foldlM_cons, if_pos admits]
  rfl

theorem writeAll_single_ok (accepted : ledger.writeAll [write] = .ok after) :
    ledger.Admits write ∧ after = ledger.apply write := by
  unfold writeAll at accepted
  rw [List.foldlM_cons] at accepted
  obtain ⟨next, written, rest⟩ := bind_ok accepted
  cases rest
  exact write_ok written

theorem writeAll_append {front back : List LedgerWrite}
    (accepted : ledger.writeAll front = .ok middle) :
    ledger.writeAll (front ++ back) = middle.writeAll back := by
  unfold writeAll at accepted ⊢
  rw [List.foldlM_append, accepted]
  rfl

theorem writeAll_invariant {holds : FinanceLedger → Prop}
    {passes : FinanceLedger → LedgerWrite → Prop}
    (preserved : ∀ ledger write, holds ledger → ledger.Admits write →
      passes ledger write → holds (ledger.apply write))
    {writes : List LedgerWrite} (initial : holds ledger)
    (accepted : ledger.writeAll writes = .ok after)
    (each : EachPasses passes ledger writes) : holds after := by
  induction writes generalizing ledger with
  | nil =>
    cases accepted
    exact initial
  | cons first rest ih =>
    unfold writeAll at accepted
    rw [List.foldlM_cons] at accepted
    obtain ⟨next, written, continued⟩ := bind_ok accepted
    obtain ⟨admits, rfl⟩ := write_ok written
    exact ih (preserved ledger first initial admits each.1) continued each.2

theorem writeAll_identified (identified : ledger.Identified)
    (accepted : ledger.writeAll writes = .ok after) : after.Identified :=
  @writeAll_invariant ledger after Identified (fun _ _ => True)
    (fun _ write holds _ _ => holds.apply write) writes identified accepted
    (.of_forall fun _ _ _ => True.intro)

theorem writeAll_evolves (accepted : ledger.writeAll writes = .ok after) : Evolves ledger after :=
  @writeAll_invariant ledger after (Evolves ledger) (fun _ _ => True)
    (fun middle write sofar _ _ => sofar.trans (apply_evolves middle write))
    writes (.refl ledger) accepted (.of_forall fun _ _ _ => True.intro)

end FinanceLedger

def FinancePayment.KnownTo (ledger : FinanceLedger) (loaded : FinancePayment) : Prop :=
  loaded.id < ledger.nextId ∧ ∀ stored ∈ ledger.payments, stored.id = loaded.id → stored = loaded

def FinanceExpense.KnownTo (ledger : FinanceLedger) (loaded : FinanceExpense) : Prop :=
  loaded.id < ledger.nextId ∧ ∀ stored ∈ ledger.expenses, stored.id = loaded.id →
      stored.expenseDate = loaded.expenseDate

def LedgerWrite.KnownTo (ledger : FinanceLedger) : LedgerWrite → Prop
  | .insertRefund row => ∃ loaded : FinancePayment,
      loaded.KnownTo ledger ∧ loaded.id = row.paymentId ∧ loaded.invoiceId = row.invoiceId
  | .deletePayment loaded => loaded.KnownTo ledger
  | .voidExpense loaded => loaded.KnownTo ledger
  | .insertPayment _ | .reconcilePayment _ _ | .insertCreditNote _
  | .insertExpense _ | .updateInvoice _ _ | .deleteInvoice _ _ _ => True

structure LoadedRows.KnownTo (ledger : FinanceLedger) (rows : LoadedRows) : Prop where
  payment : ∀ payment, rows.payment = some payment → payment.KnownTo ledger
  expense : ∀ expense, rows.expense = some expense → expense.KnownTo ledger

def LedgerCall.KnownTo (ledger : FinanceLedger) : LedgerCall → Prop
  | .reading _ _ rows => rows.KnownTo ledger
  | .flushed draft => ∀ write ∈ draft.writes, write.KnownTo ledger
  | .synchronised writes => ∀ write ∈ writes, write.KnownTo ledger

namespace FinanceLedger

variable {ledger before after : FinanceLedger}

theorem Evolves.payment {loaded : FinancePayment}
    (evolves : Evolves before after) (known : loaded.KnownTo before) : loaded.KnownTo after := by
  refine ⟨Nat.lt_of_lt_of_le known.1 evolves.nextId, ?_⟩
  intro stored member same
  rcases evolves.payments stored member with old | new
  · exact known.2 stored old same
  · have below := known.1
    omega

theorem Evolves.expense {loaded : FinanceExpense}
    (evolves : Evolves before after) (known : loaded.KnownTo before) : loaded.KnownTo after := by
  refine ⟨Nat.lt_of_lt_of_le known.1 evolves.nextId, ?_⟩
  intro stored member same
  rcases evolves.expenses stored member with
    ⟨earlier, old, sameId, sameDate⟩ | new
  · rw [← sameDate]
    exact known.2 earlier old (sameId.trans same)
  · have below := known.1
    omega

theorem Evolves.write {write : LedgerWrite} (evolves : Evolves before after)
    (known : write.KnownTo before) : write.KnownTo after := by
  cases write with
  | insertRefund row =>
    obtain ⟨loaded, loadedKnown, same, sameInvoice⟩ := known
    exact ⟨loaded, evolves.payment loadedKnown, same, sameInvoice⟩
  | deletePayment loaded => exact evolves.payment known
  | voidExpense loaded => exact evolves.expense known
  | insertPayment row | reconcilePayment row transaction
  | insertCreditNote row | insertExpense row | updateInvoice loaded saved
  | deleteInvoice loaded payments creditNotes => exact True.intro

theorem Evolves.call {call : LedgerCall} (evolves : Evolves before after)
    (known : call.KnownTo before) : call.KnownTo after := by
  cases call with
  | reading request remaining rows =>
    exact ⟨fun payment found => evolves.payment (known.payment payment found),
      fun expense found => evolves.expense (known.expense expense found)⟩
  | flushed draft | synchronised writes =>
    exact fun write member => evolves.write (known write member)

theorem Identified.paymentOf {id : ℕ} {payment : FinancePayment} (identified : ledger.Identified)
    (found : ledger.paymentOf id = some payment) : payment.KnownTo ledger := by
  obtain ⟨member, _⟩ := paymentOf_spec found
  refine ⟨identified.paymentIds payment member, ?_⟩
  intro stored storedMem same
  exact List.inj_on_of_nodup_map identified.payments storedMem member same

theorem Identified.expenseOf {id : ℕ} {expense : FinanceExpense} (identified : ledger.Identified)
    (found : ledger.expenseOf id = some expense) : expense.KnownTo ledger := by
  obtain ⟨member, _⟩ := expenseOf_spec found
  refine ⟨identified.expenseIds expense member, ?_⟩
  intro stored storedMem same
  rw [List.inj_on_of_nodup_map identified.expenses storedMem member same]

theorem read_known {statement : LedgerRead} {rows loaded : LoadedRows}
    (identified : ledger.Identified) (known : rows.KnownTo ledger)
    (accepted : ledger.read rows statement = .ok loaded) : loaded.KnownTo ledger := by
  cases statement with
  | payment id =>
    unfold FinanceLedger.read at accepted
    dsimp only at accepted
    split at accepted
    · rename_i payment found
      cases accepted
      refine ⟨?_, known.expense⟩
      intro other same
      cases same
      exact identified.paymentOf found
    · cases accepted
  | expense id =>
    unfold FinanceLedger.read at accepted
    dsimp only at accepted
    split at accepted
    · rename_i expense found
      cases accepted
      refine ⟨known.payment, ?_⟩
      intro other same
      cases same
      exact identified.expenseOf found
    · cases accepted
  | invoice id =>
    unfold FinanceLedger.read at accepted
    dsimp only at accepted
    split at accepted
    · cases accepted
      exact ⟨known.payment, known.expense⟩
    · cases accepted
  | transaction id =>
    unfold FinanceLedger.read at accepted
    dsimp only at accepted
    split at accepted
    · cases accepted
    · split at accepted
      · cases accepted
      · split at accepted
        · cases accepted
        · cases accepted
          exact ⟨known.payment, known.expense⟩
  | openPeriod date operation =>
    change (ledger.ensurePeriodOpen date operation).map (fun _ => rows) = .ok loaded at accepted
    unfold ensurePeriodOpen at accepted
    split at accepted
    · cases accepted
    · cases accepted
      exact known
  | payments invoiceId | creditNotes invoiceId | refunds invoiceId
  | paymentRefunds paymentId | failedInvoice id =>
    cases accepted
    exact ⟨known.payment, known.expense⟩

theorem reads_known {statements : List LedgerRead} {rows loaded : LoadedRows}
    (identified : ledger.Identified) (known : rows.KnownTo ledger)
    (read : statements.foldlM ledger.read rows = .ok loaded) : loaded.KnownTo ledger := by
  induction statements generalizing rows with
  | nil =>
    cases read
    exact known
  | cons statement rest ih =>
    rw [List.foldlM_cons] at read
    obtain ⟨next, first, later⟩ := bind_ok read
    exact ih (read_known identified known first) later

theorem nothing_known (ledger : FinanceLedger) : LoadedRows.KnownTo ledger {} where
  payment _ found := nomatch found
  expense _ found := nomatch found

end FinanceLedger

end Ithute.Finance
