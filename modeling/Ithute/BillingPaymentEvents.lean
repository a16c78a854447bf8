import Ithute.Library.TransitionRuns
import Ithute.Library.UniqueRows
import Ithute.BillingPayments

/-!
# What becomes of payment events

A delivery is acknowledged twice over: when its transition was applied, and
when its event is stored, applied or not.  A failing delivery commits what it
has written before its check.
-/

namespace Ithute.Billing

open TransitionRuns

namespace PaymentState

variable {services : PaymentServices} {state before after : PaymentState}
variable {delivery : PaymentDelivery} {id : ℕ}

theorem invoice?_spec {invoice : BillingInvoice} (found : state.invoice? id = some invoice) :
    invoice ∈ state.invoices ∧ invoice.id = id :=
  UniqueRows.find?_decide found

theorem eventOf_spec {event : BillingPaymentEvent}
    (found : state.eventOf services delivery = some event) :
    event ∈ state.events ∧ event.provider = providerOf services delivery ∧
      event.eventId = delivery.eventId :=
  UniqueRows.find?_decide found

theorem eventOf_none (missing : state.eventOf services delivery = none) :
    ∀ row ∈ state.events, (row.provider, row.eventId) ≠
      (providerOf services delivery, delivery.eventId) := by
  intro row member same
  rw [Prod.mk.injEq] at same
  exact List.find?_eq_none.mp missing row member (decide_eq_true same)

def PaymentFails (eventType : String) : Prop :=
  eventType = "invoice.payment_failed" ∨ eventType = "invoice.past_due"

def Concerns (state : PaymentState) (delivery : PaymentDelivery)
    (tenantId invoiceId : Option ℕ) (row : BillingInvoice) : Prop :=
  delivery.signatureValid = true ∧ invoiceId.bind state.invoice? = some row ∧
    ∀ tenant ∈ tenantId, row.tenantId = tenant

/-- What a transition writes of the invoices, and when it raises. -/
inductive Transition (state : PaymentState) (delivery : PaymentDelivery)
    (tenantId invoiceId : Option ℕ) : PaymentState → Option String → Prop
  | refuses (error : String) (quiet : ∀ row, state.Concerns delivery tenantId invoiceId row →
        PaymentFails delivery.eventType → row.status = .paid) :
      Transition state delivery tenantId invoiceId state (some error)
  | leavesOpen (row : BillingInvoice) (error : String)
      (concerns : state.Concerns delivery tenantId invoiceId row)
      (type : PaymentFails delivery.eventType) (unpaid : row.status ≠ .paid)
      (missing : tenantId.bind state.subscriptionOf = none) :
      Transition state delivery tenantId invoiceId
        (state.writeInvoice { row with status := .open_ }) (some error)
  | pays (row : BillingInvoice) (written : PaymentState)
      (found : invoiceId.bind state.invoice? = some row)
      (type : delivery.eventType = "invoice.paid")
      (invoices : written.invoices = (state.writeInvoice
        { row with status := .paid, paidAt := some state.clock }).invoices)
      (events : written.events = state.events)
      (applied : written.applied = state.applied) :
      Transition state delivery tenantId invoiceId written none
  | opens (row : BillingInvoice) (written : PaymentState)
      (found : invoiceId.bind state.invoice? = some row) (type : PaymentFails delivery.eventType)
      (unpaid : row.status ≠ .paid) (known : (tenantId.bind state.subscriptionOf).isSome = true)
      (invoices : written.invoices = (state.writeInvoice { row with status := .open_ }).invoices)
      (events : written.events = state.events) (applied : written.applied = state.applied) :
      Transition state delivery tenantId invoiceId written none
  | keeps (written : PaymentState) (quiet : ∀ row, invoiceId.bind state.invoice? = some row →
        delivery.eventType ≠ "invoice.paid" ∧
          (PaymentFails delivery.eventType → row.status = .paid))
      (invoices : written.invoices = state.invoices)
      (events : written.events = state.events)
      (applied : written.applied = state.applied) :
      Transition state delivery tenantId invoiceId written none

theorem not_paymentFails_paid : ¬ PaymentFails "invoice.paid" := by
  unfold PaymentFails
  decide

theorem transition_spec (state : PaymentState) (delivery : PaymentDelivery)
    (tenantId invoiceId : Option ℕ) : Transition state delivery tenantId invoiceId
      (state.transition delivery tenantId invoiceId).1
      (state.transition delivery tenantId invoiceId).2 := by
  unfold transition
  split
  · rename_i invalid
    refine .refuses _ fun row concerns _ => ?_
    rw [concerns.1] at invalid
    cases invalid
  · rename_i valid
    rw [Bool.not_eq_false] at valid
    dsimp only
    split
    · rename_i foreign
      refine .refuses _ fun row concerns _ => ?_
      obtain ⟨other, otherFound, tenant, tenantMem, differs⟩ := foreign
      rw [Option.mem_def, concerns.2.1] at otherFound
      cases otherFound
      exact absurd (concerns.2.2 tenant tenantMem) differs
    · rename_i owner
      have owned (row : BillingInvoice) (found : invoiceId.bind state.invoice? = some row) :
          state.Concerns delivery tenantId invoiceId row := by
        refine ⟨valid, found, ?_⟩
        intro tenant tenantMem
        by_contra other
        exact owner ⟨row, found, tenant, tenantMem, other⟩
      split
      · rename_i type
        split
        · refine .refuses _ fun row _ fails => ?_
          rw [type] at fails
          exact absurd fails not_paymentFails_paid
        · rename_i row found
          split
          · exact .pays row _ found type rfl rfl rfl
          · exact .pays row _ found type rfl rfl rfl
      · rename_i notPaid
        split
        · rename_i type
          split
          · rename_i missing
            split
            · rename_i none
              refine .refuses _ fun row concerns _ => ?_
              rw [concerns.2.1] at none
              cases none
            · rename_i row found
              split
              · rename_i paid
                refine .refuses _ fun other concerns _ => ?_
                rw [concerns.2.1] at found
                cases found
                exact paid
              · rename_i unpaid
                exact .leavesOpen row _ (owned row found) type unpaid missing
          · rename_i subscription known
            have someKnown : (tenantId.bind state.subscriptionOf).isSome = true := by
              rw [known]
              rfl
            split
            · rename_i none
              refine .keeps _ (fun row found => ?_) rfl rfl rfl
              rw [found] at none
              cases none
            · rename_i row found
              split
              · rename_i paid
                refine .keeps _ (fun other otherFound => ?_) rfl rfl rfl
                rw [found] at otherFound
                cases otherFound
                exact ⟨notPaid, fun _ => paid⟩
              · rename_i unpaid
                exact .opens row _ found type unpaid someKnown rfl rfl rfl
        · rename_i notFails
          split
          · split
            · exact .refuses _ fun row _ fails => absurd fails notFails
            · exact .keeps _ (fun row _ =>
                ⟨notPaid, fun fails => absurd fails notFails⟩) rfl rfl rfl
          · split
            · split
              · exact .refuses _ fun row _ fails => absurd fails notFails
              · exact .keeps _ (fun row _ =>
                  ⟨notPaid, fun fails => absurd fails notFails⟩) rfl rfl rfl
            · exact .refuses _ fun row _ fails => absurd fails notFails

theorem Transition.tables {tenantId invoiceId : Option ℕ}
    {written : PaymentState} {error : Option String}
    (spec : Transition state delivery tenantId invoiceId written error) :
    written.events = state.events ∧ written.applied = state.applied := by
  cases spec with
  | refuses error quiet => exact ⟨rfl, rfl⟩
  | leavesOpen row error concerns type unpaid missing => exact ⟨rfl, rfl⟩
  | pays row written found type invoices events applied => exact ⟨events, applied⟩
  | opens row written found type unpaid known invoices events applied => exact ⟨events, applied⟩
  | keeps written quiet invoices events applied => exact ⟨events, applied⟩

inductive Processes (services : PaymentServices) (state : PaymentState)
    (delivery : PaymentDelivery) (id : ℕ) : PaymentState →
    Except String (BillingPaymentEvent × Bool) → Prop
  | refuses (error : String) (unmatched : ∀ existing,
        state.eventOf services delivery = some existing →
          ¬ (existing.payloadHash = services.payloadHash delivery.rawBody ∧
            existing.eventType = delivery.eventType))
      (unstored : ∀ tenantId invoiceId, state.eventOf services delivery = none →
        payloadId services delivery.tenantId = some tenantId →
        payloadId services delivery.invoiceId = some invoiceId → ¬ state.Insertable
            (newEvent services delivery tenantId invoiceId id)) :
      Processes services state delivery id state (.error error)
  | answers (existing : BillingPaymentEvent)
      (found : state.eventOf services delivery = some existing)
      (sameContent : existing.payloadHash = services.payloadHash delivery.rawBody ∧
          existing.eventType = delivery.eventType) :
      Processes services state delivery id state (.ok (existing, true))
  | settles (tenantId invoiceId : Option ℕ) (missing : state.eventOf services delivery = none)
      (tenant : payloadId services delivery.tenantId = some tenantId)
      (invoice : payloadId services delivery.invoiceId = some invoiceId)
      (insertable : state.Insertable (newEvent services delivery tenantId invoiceId id)) :
      Processes services state delivery id (state.settle delivery
          (newEvent services delivery tenantId invoiceId id)).1
        (state.settle delivery (newEvent services delivery tenantId invoiceId id)).2

theorem processPaymentEvent_spec (services : PaymentServices)
    (state : PaymentState) (delivery : PaymentDelivery) (id : ℕ) :
    Processes services state delivery id (state.processPaymentEvent services delivery id).1
      (state.processPaymentEvent services delivery id).2 := by
  unfold processPaymentEvent
  split
  · rename_i existing found
    split
    · rename_i differs
      refine .refuses _ ?_ fun _ _ missing => ?_
      · intro other otherFound same
        rw [found] at otherFound
        cases otherFound
        exact differs.elim (fun hash => hash same.1) fun type => type same.2
      · rw [found] at missing
        cases missing
    · rename_i sameContent
      rw [not_or, not_not, not_not] at sameContent
      exact .answers existing found sameContent
  · rename_i missing
    have unmatched : ∀ existing, state.eventOf services delivery = some existing →
          ¬ (existing.payloadHash = services.payloadHash delivery.rawBody ∧
            existing.eventType = delivery.eventType) := by
      intro existing found
      rw [missing] at found
      cases found
    split
    · rename_i tenantId invoiceId tenant invoice
      dsimp only
      split
      · rename_i insertable
        exact .settles tenantId invoiceId missing tenant invoice insertable
      · rename_i unstored
        refine .refuses _ unmatched fun otherTenant otherInvoice _ => ?_
        intro tenantParsed invoiceParsed
        rw [tenant] at tenantParsed
        rw [invoice] at invoiceParsed
        cases tenantParsed
        cases invoiceParsed
        exact unstored
    · rename_i unparsed
      exact .refuses _ unmatched fun tenantId invoiceId _ tenant invoice =>
        (unparsed tenantId invoiceId tenant invoice).elim

def appliedEvent (state : PaymentState) (event : BillingPaymentEvent) : BillingPaymentEvent :=
  { event with processed := true, processedAt := some state.clock }

def failedEvent (event : BillingPaymentEvent) (error : String) : BillingPaymentEvent :=
  { event with
    errorMessage := some (String.ofList (error.toList.take 500)) }

theorem settle_spec (state : PaymentState) (delivery : PaymentDelivery)
    (event : BillingPaymentEvent) :
    (∃ written, Transition state delivery event.tenantId event.invoiceId written none ∧
      state.settle delivery event = ({ written with
            events := state.events ++ [state.appliedEvent event]
            applied := state.applied ++ [(event.provider, event.eventId)] },
          .ok (state.appliedEvent event, false))) ∨
    ∃ written error, Transition state delivery event.tenantId event.invoiceId written (some error) ∧
      state.settle delivery event = ({ written with
            events := state.events ++ [failedEvent event error] },
          .error error) := by
  have spec := transition_spec state delivery event.tenantId event.invoiceId
  unfold settle
  cases result : state.transition delivery event.tenantId event.invoiceId with
  | mk written error =>
    rw [result] at spec
    obtain ⟨events, applied⟩ := spec.tables
    dsimp only at spec events applied
    cases error with
    | none =>
      refine Or.inl ⟨written, spec, ?_⟩
      rw [← events, ← applied]
      rfl
    | some text =>
      refine Or.inr ⟨written, text, spec, ?_⟩
      rw [← events]
      rfl

/-- A delivery that is answered without an error has its event applied,
once. -/
def Acknowledges (services : PaymentServices) (before : PaymentState)
    (action : PaymentAction) (after : PaymentState) : Prop :=
  match action with
  | .deliver delivery id => ∀ event duplicate, (before.processPaymentEvent services delivery id).2 =
          .ok (event, duplicate) → (event ∈ after.events ∧ event.processed = true) ∧
          after.applied.count (event.provider, event.eventId) = 1
  | _ => True

/-- A delivery does not repeat one that has failed after its event was
stored. -/
def RepeatsNoFailure (services : PaymentServices) (state : PaymentState) : PaymentAction → Prop
  | .deliver delivery _ => ∀ existing, state.eventOf services delivery = some existing →
        existing.payloadHash = services.payloadHash delivery.rawBody →
          existing.eventType = delivery.eventType → existing.processed = true
  | _ => True

/-- The events that are stored as processed are those that were applied. -/
structure EventsSound (state : PaymentState) : Prop where
  once : ∀ row ∈ state.events, row.processed = true →
    state.applied.count (row.provider, row.eventId) = 1
  stored : ∀ key ∈ state.applied, ∃ row ∈ state.events, (row.provider, row.eventId) = key

namespace EventsSound

theorem keep (sound : before.EventsSound) (events : after.events = before.events)
    (applied : after.applied = before.applied) : after.EventsSound where
  once := by
    rw [events, applied]
    exact sound.once
  stored := by
    rw [events, applied]
    exact sound.stored

theorem insert (sound : before.EventsSound) {event : BillingPaymentEvent}
    (fresh : ∀ row ∈ before.events, (row.provider, row.eventId) ≠ (event.provider, event.eventId))
    (events : after.events = before.events ++ [event]) (applied : after.applied = before.applied ++
      if event.processed then [(event.provider, event.eventId)] else []) :
    after.EventsSound ∧ (event.processed = true →
      after.applied.count (event.provider, event.eventId) = 1) := by
  have unapplied : (event.provider, event.eventId) ∉ before.applied := by
    intro member
    obtain ⟨row, rowMem, same⟩ := sound.stored _ member
    exact fresh row rowMem same
  have here : event.processed = true → after.applied.count (event.provider, event.eventId) = 1 := by
    intro processed
    rw [applied, if_pos processed, List.count_append, List.count_eq_zero_of_not_mem unapplied]
    simp
  refine ⟨⟨?_, ?_⟩, here⟩
  · rw [events]
    intro row member processed
    rcases List.mem_append.mp member with old | new
    · have other := fresh row old
      rw [applied, List.count_append, sound.once row old processed]
      split
      · simp [Ne.symm other]
      · simp
    · rw [List.mem_singleton.mp new] at processed ⊢
      exact here processed
  · rw [events, applied]
    intro key member
    rcases List.mem_append.mp member with old | new
    · obtain ⟨row, rowMem, same⟩ := sound.stored key old
      exact ⟨row, List.mem_append_left _ rowMem, same⟩
    · split at new
      · rw [List.mem_singleton.mp new]
        exact ⟨event, List.mem_append_right _ (List.mem_singleton_self _), rfl⟩
      · cases new

/-- A call keeps the events sound.  It acknowledges only what it has applied,
unless it is answered from a row that is not processed. -/
theorem deliver (sound : before.EventsSound) (delivery : PaymentDelivery) (id : ℕ) :
    (before.processPaymentEvent services delivery id).1.EventsSound ∧
      (Acknowledges services before (.deliver delivery id)
          (before.processPaymentEvent services delivery id).1 ↔
        before.RepeatsNoFailure services (.deliver delivery id)) := by
  have spec := processPaymentEvent_spec services before delivery id
  unfold Acknowledges RepeatsNoFailure
  dsimp only
  cases result : before.processPaymentEvent services delivery id with
  | mk after answer =>
    rw [result] at spec
    dsimp only at spec ⊢
    cases spec with
    | refuses error unmatched unstored =>
      refine ⟨sound, fun _ existing found sameHash sameType => ?_,
        fun _ event duplicate answered => nomatch answered⟩
      exact absurd ⟨sameHash, sameType⟩ (unmatched existing found)
    | answers existing found sameContent =>
      refine ⟨sound, ?_, ?_⟩
      · intro acknowledged other otherFound _ _
        rw [found] at otherFound
        cases otherFound
        exact (acknowledged existing true rfl).1.2
      · intro repeats event duplicate answered
        cases answered
        have processed := repeats existing found sameContent.1 sameContent.2
        have stored := (eventOf_spec found).1
        exact ⟨⟨stored, processed⟩, sound.once existing stored processed⟩
    | settles tenantId invoiceId missing tenant invoice insertable =>
      have fresh := eventOf_none missing
      have repeats : ∀ existing, before.eventOf services delivery = some existing →
            existing.payloadHash = services.payloadHash delivery.rawBody →
              existing.eventType = delivery.eventType → existing.processed = true := by
        intro existing found
        rw [missing] at found
        cases found
      rcases settle_spec before delivery (newEvent services delivery tenantId invoiceId id) with
        ⟨written, transition, settled⟩ |
        ⟨written, error, transition, settled⟩
      · rw [settled]
        obtain ⟨kept, once⟩ := @insert before { written with
            events := before.events ++ [before.appliedEvent
              (newEvent services delivery tenantId invoiceId id)]
            applied := before.applied ++ [(providerOf services delivery, delivery.eventId)] }
          sound _ fresh rfl rfl
        refine ⟨kept, fun _ => repeats, ?_⟩
        intro _ event duplicate answered
        cases answered
        exact ⟨⟨List.mem_append_right _ (List.mem_singleton_self _), rfl⟩, once rfl⟩
      · rw [settled]
        have unchanged : written.applied = before.applied ++
            if (failedEvent (newEvent services delivery tenantId invoiceId id) error).processed then
              [(providerOf services delivery, delivery.eventId)]
            else [] := by
          rw [transition.tables.2]
          simp [failedEvent, newEvent]
        obtain ⟨kept, _⟩ := @insert before { written with
            events := before.events ++ [failedEvent
              (newEvent services delivery tenantId invoiceId id) error] }
          sound _ fresh rfl unchanged
        exact ⟨kept, fun _ => repeats, fun _ event duplicate answered => nomatch answered⟩

theorem perform (sound : before.EventsSound) (action : PaymentAction) :
    (before.perform services action).EventsSound ∧
      (Acknowledges services before action (before.perform services action) ↔
        before.RepeatsNoFailure services action) := by
  cases action with
  | deliver delivery id => exact sound.deliver delivery id
  | wait elapsed => exact ⟨sound.keep rfl rfl, Iff.rfl⟩
  | createTenant id => exact ⟨sound.keep rfl rfl, Iff.rfl⟩
  | createInvoice row =>
    refine ⟨?_, Iff.rfl⟩
    unfold PaymentState.perform
    dsimp only
    split <;> exact sound.keep rfl rfl
  | createSubscription row =>
    refine ⟨?_, Iff.rfl⟩
    unfold PaymentState.perform
    dsimp only
    split <;> exact sound.keep rfl rfl

end EventsSound

def starting (tenants : List ℕ) (invoices : List BillingInvoice)
    (subscriptions : List TenantSubscription) : PaymentState where
  tenants := tenants
  invoices := invoices
  subscriptions := subscriptions

/-- From any tenants, invoices and subscriptions and along every run, every
acknowledged event is applied once if and only if no delivery repeats one
that has failed after its event was stored. -/
theorem run_acknowledges_iff (services : PaymentServices)
    (tenants : List ℕ) (invoices : List BillingInvoice) (subscriptions : List TenantSubscription)
    (actions : List PaymentAction) : EveryStep (Performs services) (Acknowledges services)
        (starting tenants invoices subscriptions) actions ↔
      EveryStep (Performs services) (fun before action _ => before.RepeatsNoFailure services action)
        (starting tenants invoices subscriptions) actions := by
  have initial : (starting tenants invoices subscriptions).EventsSound := by
    refine ⟨?_, ?_⟩ <;> exact fun _ none => nomatch none
  refine EveryStep.congr_of_invariant initial ?_ ?_ (fun _ _ => True.intro)
  · intro before action after sound move _
    rw [Performs] at move
    rw [move]
    exact (sound.perform action).1
  · intro before action after sound move
    rw [Performs] at move
    rw [move]
    exact (sound.perform action).2

def eventKey (row : BillingPaymentEvent) : String × String := (row.provider, row.eventId)

/-- Each event is stored once, and those that were applied are the processed
ones, in their order. -/
structure AppliedOnce (state : PaymentState) : Prop where
  stored : (state.events.map eventKey).Nodup
  applied : state.applied = (state.events.filter fun row => row.processed).map eventKey

theorem AppliedOnce.insert (once : before.AppliedOnce) (event : BillingPaymentEvent)
    (fresh : ∀ row ∈ before.events, (row.provider, row.eventId) ≠ (event.provider, event.eventId))
    (events : after.events = before.events ++ [event])
    (applied : after.applied = before.applied ++
      if event.processed then [eventKey event] else []) : after.AppliedOnce where
  stored := by
    rw [events, List.map_append, List.map_singleton]
    refine UniqueRows.pairwise_insert once.stored ?_
    intro key member
    obtain ⟨row, rowMem, rfl⟩ := List.mem_map.mp member
    exact fresh row rowMem
  applied := by
    rw [applied, once.applied, events, List.filter_append, List.map_append]
    cases processed : event.processed <;> simp [processed]

theorem AppliedOnce.deliver (once : before.AppliedOnce) (delivery : PaymentDelivery) (id : ℕ) :
    (before.processPaymentEvent services delivery id).1.AppliedOnce := by
  have spec := processPaymentEvent_spec services before delivery id
  generalize before.processPaymentEvent services delivery id = result at spec ⊢
  obtain ⟨after, answer⟩ := result
  cases spec with
  | refuses | answers => exact once
  | settles tenantId invoiceId missing tenant invoice insertable =>
    have fresh := eventOf_none missing
    rcases settle_spec before delivery (newEvent services delivery tenantId invoiceId id) with
      ⟨written, transition, settled⟩ | ⟨written, error, transition, settled⟩
    · rw [settled]
      exact once.insert (before.appliedEvent (newEvent services delivery tenantId invoiceId id))
        fresh rfl rfl
    · rw [settled]
      refine once.insert (failedEvent (newEvent services delivery tenantId invoiceId id) error)
        fresh rfl ?_
      simpa [failedEvent, newEvent] using transition.tables.2

/-- Whatever is delivered again, a provider's event is applied once at most. -/
theorem run_appliedOnce (services : PaymentServices) (tenants : List ℕ)
    (invoices : List BillingInvoice) (subscriptions : List TenantSubscription)
    (actions : List PaymentAction) : EveryStep (Performs services)
      (fun _ _ after => after.AppliedOnce ∧ after.applied.Nodup)
      (starting tenants invoices subscriptions) actions := by
  intro front action back before after split run move
  have begun : (starting tenants invoices subscriptions).AppliedOnce := ⟨List.nodup_nil, rfl⟩
  have once : after.AppliedOnce := by
    refine (run.append (.single move)).invariant begun ?_
    rintro state action following once rfl
    cases action with
    | deliver delivery id => exact once.deliver delivery id
    | wait elapsed | createTenant id => exact ⟨once.stored, once.applied⟩
    | createInvoice row | createSubscription row =>
      unfold perform
      dsimp only
      split <;> exact ⟨once.stored, once.applied⟩
  refine ⟨once, ?_⟩
  rw [once.applied]
  exact once.stored.sublist (List.filter_sublist.map eventKey)

def plainPayments : PaymentServices where
  payloadHash text := text
  parseUuid text := if text = "1" then some 1 else none
  lower text := text

def activation : PaymentDelivery where
  provider := "dpo"
  eventId := "evt-1"
  eventType := "subscription.active"
  tenantId := some "1"
  rawBody := "body"

def lateSubscription : TenantSubscription where
  id := 2
  tenantId := 1
  planId := 3
  currentPeriodStart := 0
  currentPeriodEnd := 10

/-- The event has come before the subscription.  Its redelivery is
acknowledged, and nothing was ever applied. -/
theorem failedEvent_acknowledged : let actions : List PaymentAction :=
      [.deliver activation 5, .createSubscription lateSubscription]
    ∃ before event, Run (Performs plainPayments) (starting [1] [] []) actions before ∧
      (before.processPaymentEvent plainPayments activation 6).2 = .ok (event, true) ∧
      event.processed = false ∧ before.applied = [] ∧
      ¬ EveryStep (Performs plainPayments) (Acknowledges plainPayments)
        (starting [1] [] []) (actions ++ [.deliver activation 6]) := by
  intro actions
  have run : Run (Performs plainPayments) (starting [1] [] []) actions _ := Run.of_foldl _ actions _
  have answered : ∃ event, ((actions.foldl (perform plainPayments)
      (starting [1] [] [])).processPaymentEvent plainPayments activation
        6).2 = .ok (event, true) ∧ event.processed = false :=
    ⟨_, rfl, by decide⟩
  obtain ⟨event, result, unprocessed⟩ := answered
  refine ⟨_, event, run, result, unprocessed, by decide, ?_⟩
  intro acknowledges
  have here := acknowledges actions (.deliver activation 6) [] _ _ rfl run rfl event true result
  rw [unprocessed] at here
  cases here.1.2

end PaymentState

end Ithute.Billing
