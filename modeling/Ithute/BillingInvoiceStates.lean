import Ithute.Library.TransitionRuns
import Ithute.Library.UniqueRows
import Ithute.BillingPaymentEvents

/-!
# Invoices under payment events

A failed payment opens its invoice before the subscription is looked up, so
that a rejected event may have written the invoice.  Paid invoices are kept
apart by the transitions, and void ones are not.
-/

namespace Ithute.Billing

open TransitionRuns

namespace PaymentState

variable {services : PaymentServices} {state before after : PaymentState}
variable {delivery : PaymentDelivery} {id : ℕ}

def RejectionIntact (services : PaymentServices) (state : PaymentState)
    (delivery : PaymentDelivery) (id : ℕ) : Prop :=
  ∀ error, (state.processPaymentEvent services delivery id).2 = .error error →
      (state.processPaymentEvent services delivery id).1.invoices = state.invoices ∧
        (state.processPaymentEvent services delivery id).1.subscriptions = state.subscriptions

/-- A new event reports a failed payment of a draft, void or uncollectible
invoice, and its tenant has no subscription. -/
def Reopens (services : PaymentServices) (state : PaymentState)
    (delivery : PaymentDelivery) (id : ℕ) : Prop :=
  state.eventOf services delivery = none ∧ ∃ tenantId invoiceId row,
      payloadId services delivery.tenantId = some tenantId ∧
      payloadId services delivery.invoiceId = some invoiceId ∧
      state.Insertable (newEvent services delivery tenantId invoiceId id) ∧
      state.Concerns delivery tenantId invoiceId row ∧ PaymentFails delivery.eventType ∧
      row.status ≠ .paid ∧ row.status ≠ .open_ ∧ tenantId.bind state.subscriptionOf = none

theorem writeInvoice_eq_iff {row saved : BillingInvoice}
    (unique : (state.invoices.map fun row => row.id).Nodup)
    (member : row ∈ state.invoices) (same : saved.id = row.id) :
    (state.writeInvoice saved).invoices = state.invoices ↔ saved = row :=
  UniqueRows.map_replace_eq_iff unique member same

/-- The flush has stored the event, and the rest of the call is decided by
the invoice that it concerns. -/
theorem settle_intact_iff {event : BillingPaymentEvent}
    (unique : (state.invoices.map fun row => row.id).Nodup) :
    (∀ error, (state.settle delivery event).2 = .error error →
      (state.settle delivery event).1.invoices = state.invoices ∧
        (state.settle delivery event).1.subscriptions = state.subscriptions) ↔
      ¬ ∃ row, state.Concerns delivery event.tenantId event.invoiceId row ∧
        PaymentFails delivery.eventType ∧ row.status ≠ .paid ∧ row.status ≠ .open_ ∧
        event.tenantId.bind state.subscriptionOf = none := by
  rcases settle_spec state delivery event with
    ⟨written, transition, settled⟩ | ⟨written, error, transition, settled⟩
  · rw [settled]
    refine ⟨?_, fun _ error rejected => nomatch rejected⟩
    rintro _ ⟨row, concerns, fails, unpaid, _, missing⟩
    cases transition with
    | pays other written found type invoices events applied =>
      rw [type] at fails
      exact not_paymentFails_paid fails
    | opens other written found type unpaid known invoices events applied =>
      rw [missing] at known
      cases known
    | keeps written quiet invoices events applied => exact unpaid ((quiet row concerns.2.1).2 fails)
  · rw [settled]
    cases transition with
    | refuses error quiet =>
      refine ⟨?_, fun _ _ _ => ⟨rfl, rfl⟩⟩
      rintro _ ⟨row, concerns, fails, unpaid, _⟩
      exact unpaid (quiet row concerns fails)
    | leavesOpen row error concerns type unpaid missing =>
      have stored : row ∈ state.invoices := by
        obtain ⟨sought, _, found⟩ := Option.bind_eq_some_iff.mp concerns.2.1
        exact (invoice?_spec found).1
      have unwritten_iff := @writeInvoice_eq_iff state row
        { row with status := .open_ } unique stored rfl
      constructor
      · rintro intact ⟨other, otherConcerns, _, _, closed, _⟩
        have same := otherConcerns.2.1.symm.trans concerns.2.1
        cases same
        have unchanged := unwritten_iff.mp (intact error rfl).1
        rw [← unchanged] at closed
        exact closed rfl
      · intro unchanged _ _
        have opened : row.status = .open_ := by
          by_contra closed
          exact unchanged ⟨row, concerns, type, unpaid, closed, missing⟩
        refine ⟨unwritten_iff.mpr ?_, rfl⟩
        rw [← opened]

theorem rejectionIntact_iff (unique : (state.invoices.map fun row => row.id).Nodup) :
    RejectionIntact services state delivery id ↔ ¬ state.Reopens services delivery id := by
  have spec := processPaymentEvent_spec services state delivery id
  unfold RejectionIntact
  cases result : state.processPaymentEvent services delivery id with
  | mk after answer =>
    rw [result] at spec
    dsimp only at spec ⊢
    cases spec with
    | refuses error unmatched unstored =>
      refine ⟨?_, fun _ _ _ => ⟨rfl, rfl⟩⟩
      rintro _ ⟨missing, tenantId, invoiceId, row, tenant, invoice, insertable, _⟩
      exact unstored tenantId invoiceId missing tenant invoice insertable
    | answers existing found sameContent =>
      refine ⟨?_, fun _ error rejected => nomatch rejected⟩
      rintro _ ⟨missing, _⟩
      rw [found] at missing
      cases missing
    | settles tenantId invoiceId missing tenant invoice insertable =>
      have reopens_iff : state.Reopens services delivery id ↔
          ∃ row, state.Concerns delivery tenantId invoiceId row ∧ PaymentFails delivery.eventType ∧
            row.status ≠ .paid ∧ row.status ≠ .open_ ∧
            tenantId.bind state.subscriptionOf = none := by
        constructor
        · rintro ⟨_, otherTenant, otherInvoice, row, sameTenant, sameInvoice, _, rest⟩
          rw [tenant] at sameTenant
          rw [invoice] at sameInvoice
          cases sameTenant
          cases sameInvoice
          exact ⟨row, rest⟩
        · rintro ⟨row, rest⟩
          exact ⟨missing, tenantId, invoiceId, row, tenant, invoice, insertable, rest⟩
      rw [reopens_iff]
      exact settle_intact_iff unique

def Accepts (services : PaymentServices) (before : PaymentState)
    (action : PaymentAction) (after : PaymentState) : Prop :=
  Performs services before action after ∧ match action with
    | .deliver delivery id => ∃ response,
        (before.processPaymentEvent services delivery id).2 = .ok response
    | _ => True

/-- A paid or void invoice is not open later, and a void one not paid. -/
def Settled (before after : PaymentState) : Prop :=
  ∀ id row later, before.invoice? id = some row → after.invoice? id = some later →
      (row.status = .paid ∨ row.status = .void → later.status ≠ .open_) ∧
        (row.status = .void → later.status ≠ .paid)

def KeepsStatus (statuses : InvoiceStatus → Prop) (before after : PaymentState) : Prop :=
  ∀ id row, before.invoice? id = some row → statuses row.status →
    ∃ later, after.invoice? id = some later ∧ later.status = row.status

def Final (status : InvoiceStatus) : Prop := status = .paid ∨ status = .void

/-- A new event reports that a void invoice was paid, or was not. -/
def MovesVoid (services : PaymentServices) (state : PaymentState) : PaymentAction → Prop
  | .deliver delivery _ =>
    state.eventOf services delivery = none ∧ (delivery.eventType = "invoice.paid" ∨
        PaymentFails delivery.eventType) ∧
      ∃ invoiceId row, payloadId services delivery.invoiceId = some invoiceId ∧
        invoiceId.bind state.invoice? = some row ∧ row.status = .void
  | _ => False

namespace KeepsStatus

variable {statuses : InvoiceStatus → Prop}

theorem refl (state : PaymentState) : KeepsStatus statuses state state :=
  fun _ row found _ => ⟨row, found, rfl⟩

theorem trans {first second third : PaymentState} (here : KeepsStatus statuses first second)
    (there : KeepsStatus statuses second third) : KeepsStatus statuses first third := by
  intro id row found final
  obtain ⟨later, laterFound, same⟩ := here id row found final
  rw [← same] at final
  obtain ⟨last, lastFound, sameLast⟩ := there id later laterFound final
  exact ⟨last, lastFound, sameLast.trans same⟩

theorem settled (keeps : KeepsStatus Final before after) : before.Settled after := by
  intro id row later found laterFound
  constructor
  · intro final opened
    obtain ⟨other, otherFound, same⟩ := keeps id row found final
    cases laterFound.symm.trans otherFound
    rw [opened] at same
    rcases final with paid | void
    · rw [paid] at same
      cases same
    · rw [void] at same
      cases same
  · intro void paid
    obtain ⟨other, otherFound, same⟩ := keeps id row found (.inr void)
    cases laterFound.symm.trans otherFound
    rw [paid, void] at same
    cases same

theorem of_invoices (invoices : after.invoices = before.invoices) :
    KeepsStatus statuses before after := by
  intro id row found _
  refine ⟨row, ?_, rfl⟩
  unfold invoice?
  rw [invoices]
  exact found

end KeepsStatus

variable (row : BillingInvoice) {saved : BillingInvoice}

theorem invoice?_written (written : after.invoices = (before.writeInvoice saved).invoices)
    (same : saved.id = row.id) (found : before.invoice? row.id = some row) (sought : ℕ) :
    after.invoice? sought = if sought = row.id then some saved else before.invoice? sought := by
  have replaced := @UniqueRows.find?_replace BillingInvoice before.invoices ℕ
    _ (fun row => row.id) saved sought
  unfold invoice? at found ⊢
  rw [← same] at found ⊢
  rw [written]
  refine replaced.trans ?_
  split
  · rename_i here
    rw [here, found]
    rfl
  · rfl

theorem keepsStatus_written {statuses : InvoiceStatus → Prop}
    (written : after.invoices = (before.writeInvoice saved).invoices)
    (same : saved.id = row.id) (found : before.invoice? row.id = some row)
    (kept : statuses row.status → saved.status = row.status) :
    KeepsStatus statuses before after := by
  intro id other otherFound final
  rw [invoice?_written row written same found id]
  split
  · rename_i here
    rw [here, found] at otherFound
    cases otherFound
    exact ⟨saved, rfl, kept final⟩
  · exact ⟨other, otherFound, rfl⟩

theorem not_settled_written (written : after.invoices = (before.writeInvoice saved).invoices)
    (same : saved.id = row.id) (found : before.invoice? row.id = some row)
    (void : row.status = .void) (moved : saved.status = .open_ ∨ saved.status = .paid) :
    ¬ before.Settled after := by
  intro settled
  have later : after.invoice? row.id = some saved := by
    rw [invoice?_written row written same found, if_pos rfl]
  have here := settled row.id row saved found later
  rcases moved with opened | paid
  · exact here.1 (.inr void) opened
  · exact here.2 void paid

theorem settle_final {event : BillingPaymentEvent} {response : BillingPaymentEvent × Bool}
    (accepted : (state.settle delivery event).2 = .ok response) :
    (¬ (∃ row, event.invoiceId.bind state.invoice? = some row ∧
        row.status = .void ∧ (delivery.eventType = "invoice.paid" ∨
          PaymentFails delivery.eventType)) →
      KeepsStatus Final state (state.settle delivery event).1) ∧
    ∀ row, event.invoiceId.bind state.invoice? = some row →
      row.status = .void → (delivery.eventType = "invoice.paid" ∨ PaymentFails delivery.eventType) →
      ¬ state.Settled (state.settle delivery event).1 := by
  have same_id {row : BillingInvoice} (found : event.invoiceId.bind state.invoice? = some row) :
      state.invoice? row.id = some row := by
    obtain ⟨sought, _, looked⟩ := Option.bind_eq_some_iff.mp found
    rw [(invoice?_spec looked).2]
    exact looked
  rcases settle_spec state delivery event with
    ⟨written, transition, settled⟩ | ⟨written, error, transition, settled⟩
  · rw [settled]
    cases transition with
    | pays row written found type invoices events applied =>
      constructor
      · intro quiet
        refine keepsStatus_written row invoices rfl (same_id found) ?_
        rintro (paid | void)
        · exact paid.symm
        · exact absurd ⟨row, found, void, .inl type⟩ quiet
      · intro other otherFound void _
        cases otherFound.symm.trans found
        exact not_settled_written row invoices rfl (same_id found) void (.inr rfl)
    | opens row written found type unpaid known invoices events applied =>
      constructor
      · intro quiet
        refine keepsStatus_written row invoices rfl (same_id found) ?_
        rintro (paid | void)
        · exact absurd paid unpaid
        · exact absurd ⟨row, found, void, .inr type⟩ quiet
      · intro other otherFound void _
        cases otherFound.symm.trans found
        exact not_settled_written row invoices rfl (same_id found) void (.inl rfl)
    | keeps written quiet invoices events applied =>
      refine ⟨fun _ => .of_invoices invoices, ?_⟩
      rintro row found void (paid | fails)
      · exact absurd paid (quiet row found).1
      · rw [(quiet row found).2 fails] at void
        cases void
  · rw [settled] at accepted
    cases accepted

/-- An accepted step keeps final states if and only if it does not move a
void invoice. -/
theorem accepts_final {action : PaymentAction} (accepts : Accepts services before action after) :
    (¬ MovesVoid services before action → KeepsStatus Final before after) ∧
      (before.Settled after → ¬ MovesVoid services before action) := by
  obtain ⟨move, accepted⟩ := accepts
  rw [Performs] at move
  rw [move]
  cases action with
  | deliver delivery id =>
    obtain ⟨response, accepted⟩ := accepted
    have spec := processPaymentEvent_spec services before delivery id
    unfold perform MovesVoid
    dsimp only
    cases result : before.processPaymentEvent services delivery id with
    | mk after answer =>
      rw [result] at spec accepted
      dsimp only at spec accepted ⊢
      cases spec with
      | refuses error unmatched unstored => cases accepted
      | answers existing found sameContent =>
        refine ⟨fun _ => .refl before, ?_⟩
        rintro _ ⟨missing, _⟩
        rw [found] at missing
        cases missing
      | settles tenantId invoiceId missing tenant invoice insertable =>
        obtain ⟨keeps, moves⟩ := settle_final accepted
        constructor
        · intro quiet
          apply keeps
          rintro ⟨row, found, void, type⟩
          exact quiet ⟨missing, type, invoiceId, row, invoice, found, void⟩
        · rintro settled ⟨_, type, other, row, parsed, found, void⟩
          rw [invoice] at parsed
          cases parsed
          exact moves row found void type settled
  | wait elapsed => exact ⟨fun _ => .of_invoices rfl, fun _ moves => moves⟩
  | createTenant id => exact ⟨fun _ => .of_invoices rfl, fun _ moves => moves⟩
  | createInvoice created =>
    refine ⟨fun _ => ?_, fun _ moves => moves⟩
    unfold perform
    dsimp only
    split
    · intro id row found _
      refine ⟨row, ?_, rfl⟩
      unfold invoice? at found ⊢
      rw [List.find?_append, found]
      rfl
    · exact .refl before
  | createSubscription created =>
    refine ⟨fun _ => ?_, fun _ moves => moves⟩
    unfold perform
    dsimp only
    split <;> exact .of_invoices rfl

/-- Final states last between any two moments of a run of accepted events. -/
def StaysSettled (services : PaymentServices) (start : PaymentState)
    (actions : List PaymentAction) : Prop :=
  ∀ front middle back first second, actions = front ++ middle ++ back →
    Run (Accepts services) start front first →
      Run (Accepts services) first middle second → first.Settled second

theorem staysSettled_iff (services : PaymentServices) (start : PaymentState)
    (actions : List PaymentAction) : StaysSettled services start actions ↔
      EveryStep (Accepts services) (fun before action _ => ¬ MovesVoid services before action) start
        actions := by
  constructor
  · intro stays front action back before after split run move
    refine (accepts_final move).2 ?_
    refine stays front [action] back before after ?_ run (Run.single move)
    rw [split]
    simp
  · intro meets front middle back first second split run later
    have everyStep : EveryStep (Accepts services)
        (fun before _ after => KeepsStatus Final before after) start actions :=
      EveryStep.of_invariant True.intro (fun _ _ _ _ _ _ => True.intro)
        (fun _ _ _ _ move quiet => (accepts_final move).1 quiet) meets
    exact (everyStep.between KeepsStatus.refl
      (fun _ _ _ => KeepsStatus.trans) split run later).settled

/-- A rejected event leaves the rows as they were if and only if it does not
open an invoice first, and final states last along a run of accepted events
if and only if no event moves a void invoice. -/
theorem processPaymentEvent_intact_iff (services : PaymentServices) (start : PaymentState)
    (unique : (start.invoices.map fun row => row.id).Nodup) :
    (∀ delivery id, RejectionIntact services start delivery id ↔
      ¬ start.Reopens services delivery id) ∧
    ∀ actions, StaysSettled services start actions ↔ EveryStep (Accepts services)
        (fun before action _ => ¬ MovesVoid services before action) start actions :=
  ⟨fun _ _ => rejectionIntact_iff unique, staysSettled_iff services start⟩

def voided : PaymentState := starting [1] [{ id := 1, tenantId := 1, status := .void }] []

def failure : PaymentDelivery :=
  { activation with
    eventType := "invoice.payment_failed"
    invoiceId := some "1" }

theorem processPaymentEvent_intact_iff_voided : RejectionIntact plainPayments voided activation 5 ∧
      StaysSettled plainPayments voided [] := by
  have decided := processPaymentEvent_intact_iff plainPayments voided (by decide)
  refine ⟨(decided.1 activation 5).mpr ?_, (decided.2 []).mpr .nil⟩
  rintro ⟨_, _, _, _, _, _, _, _, fails, _⟩
  exact absurd fails (by unfold PaymentFails; decide)

/-- A rejected event opens a void invoice, and so does an accepted one. -/
theorem failure_opensVoid : ¬ RejectionIntact plainPayments voided failure 5 ∧
      ¬ StaysSettled plainPayments { voided with subscriptions := [lateSubscription] }
        [.deliver failure 5] := by
  constructor
  · intro intact
    have unchanged := (intact "Subscription not found" rfl).1
    exact absurd unchanged (by decide)
  · intro stays
    have moved : Accepts plainPayments { voided with subscriptions := [lateSubscription] }
        (.deliver failure 5) _ := ⟨rfl, _, rfl⟩
    have settled := stays [] [.deliver failure 5] [] _ _ rfl Run.start (Run.single moved)
    exact (settled 1 _ _ rfl rfl).1 (.inr rfl) rfl

end PaymentState

end Ithute.Billing
