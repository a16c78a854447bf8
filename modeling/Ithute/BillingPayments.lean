import Ithute.Library.TransitionRuns
import Ithute.Library.UniqueRows
import Ithute.PythonValues
import Ithute.BillingTables

/-!
# Payment events

A delivery stores its event before it is applied.  When a check fails, the
event and what has been written until then are committed, and the error is
raised again.  A delivery of a stored event is answered from its row.
-/

namespace Ithute.Billing

open TransitionRuns

/-- `sha256` of a body, and `UUID` of a text. -/
structure PaymentServices where
  payloadHash : String → String
  parseUuid : String → Option ℕ
  lower : String → String

/-- A call of `process_payment_event`; the identifiers of the payload are
given where they are not false, as `str` shows them. -/
structure PaymentDelivery where
  provider : String
  eventId : String
  eventType : String
  tenantId : Option String := none
  invoiceId : Option String := none
  rawBody : String
  signatureValid : Bool := true
  graceDays : ℤ := 7

structure PaymentState where
  clock : ℤ := 0
  tenants : List ℕ := []
  invoices : List BillingInvoice := []
  subscriptions : List TenantSubscription := []
  events : List BillingPaymentEvent := []
  /-- The events whose transition was applied. -/
  applied : List (String × String) := []

namespace PaymentState

variable (services : PaymentServices) (state : PaymentState)

def subscriptionOf (tenantId : ℕ) : Option TenantSubscription :=
  state.subscriptions.find? fun row => decide (row.tenantId = tenantId)

def invoice? (id : ℕ) : Option BillingInvoice :=
  state.invoices.find? fun row => decide (row.id = id)

def writeInvoice (invoice : BillingInvoice) : PaymentState :=
  { state with
    invoices := state.invoices.map fun row => if row.id = invoice.id then invoice else row }

def writeSubscription (subscription : TenantSubscription) : PaymentState :=
  { state with
    subscriptions := state.subscriptions.map fun row =>
      if row.id = subscription.id then subscription else row }

def activate (subscription : TenantSubscription) : PaymentState :=
  state.writeSubscription { subscription with
      status := .active
      pastDueSince := none
      graceEndsAt := none }

def markPastDue (subscription : TenantSubscription) (graceDays : ℤ) : PaymentState :=
  state.writeSubscription { subscription with
      status := .pastDue
      pastDueSince := subscription.pastDueSince.or (some state.clock)
      graceEndsAt := some (state.clock + days graceDays) }

def cancel (subscription : TenantSubscription) : PaymentState :=
  state.writeSubscription { subscription with status := .canceled, graceEndsAt := none }

/-- The body of the `try` statement: what it has written, and the error that
it raises. -/
def transition (delivery : PaymentDelivery) (tenantId invoiceId : Option ℕ) :
    PaymentState × Option String :=
  if delivery.signatureValid = false then
    (state, some "Invalid webhook signature")
  else
    let invoice := invoiceId.bind state.invoice?
    let subscription := tenantId.bind state.subscriptionOf
    if ∃ row ∈ invoice, ∃ tenant ∈ tenantId, row.tenantId ≠ tenant then
      (state, some "Invoice does not belong to webhook tenant")
    else if delivery.eventType = "invoice.paid" then
      match invoice with
      | none => (state, some "Invoice not found")
      | some row =>
        let paid := state.writeInvoice { row with status := .paid, paidAt := some state.clock }
        match subscription with
        | none => (paid, none)
        | some known => (paid.activate known, none)
    else if delivery.eventType = "invoice.payment_failed" ∨
        delivery.eventType = "invoice.past_due" then
      let opened :=
        match invoice with
        | none => state
        | some row =>
          if row.status = .paid then state
          else state.writeInvoice { row with status := .open_ }
      match subscription with
      | none => (opened, some "Subscription not found")
      | some known => (opened.markPastDue known delivery.graceDays, none)
    else if delivery.eventType = "subscription.canceled" then
      match subscription with
      | none => (state, some "Subscription not found")
      | some known => (state.cancel known, none)
    else if delivery.eventType = "subscription.active" then
      match subscription with
      | none => (state, some "Subscription not found")
      | some known => (state.activate known, none)
    else
      (state, some ("Unsupported billing event type: " ++ delivery.eventType))

def fits (length : ℕ) (text : String) : Bool :=
  decide (text.length ≤ length ∧ Char.ofNat 0 ∉ text.toList)

/-- The identifiers of the payload; a text that is no UUID raises. -/
def payloadId (text : Option String) : Option (Option ℕ) :=
  match text with
  | none => some none
  | some text => (services.parseUuid text).map some

def providerOf (delivery : PaymentDelivery) : String := services.lower (stripText delivery.provider)

def eventOf (delivery : PaymentDelivery) : Option BillingPaymentEvent :=
  state.events.find? fun row => decide (row.provider = providerOf services delivery ∧
      row.eventId = delivery.eventId)

def newEvent (delivery : PaymentDelivery) (tenantId invoiceId : Option ℕ)
    (id : ℕ) : BillingPaymentEvent where
  id := id
  provider := providerOf services delivery
  eventId := delivery.eventId
  eventType := delivery.eventType
  payloadHash := services.payloadHash delivery.rawBody
  signatureValid := delivery.signatureValid
  tenantId := tenantId
  invoiceId := invoiceId

def Insertable (event : BillingPaymentEvent) : Prop :=
  (fits 40 event.provider ∧ fits 180 event.eventId ∧ fits 120 event.eventType) ∧
  (∀ tenant ∈ event.tenantId, tenant ∈ state.tenants) ∧
  (∀ invoice ∈ event.invoiceId, invoice ∈ state.invoices.map fun row => row.id) ∧
  ∀ stored ∈ state.events, stored.id ≠ event.id

instance (event : BillingPaymentEvent) : Decidable (state.Insertable event) :=
  inferInstanceAs (Decidable (_ ∧ _))

/-- The `try` statement and its handler, once the event is stored. -/
def settle (delivery : PaymentDelivery) (event : BillingPaymentEvent) :
    PaymentState × Except String (BillingPaymentEvent × Bool) :=
  match state.transition delivery event.tenantId event.invoiceId with
  | (written, none) =>
    let done := { event with processed := true, processedAt := some state.clock }
    ({ written with
        events := written.events ++ [done]
        applied := written.applied ++ [(event.provider, event.eventId)] },
      .ok (done, false))
  | (written, some error) =>
    ({ written with
        events := written.events ++ [{ event with
              errorMessage := some (String.ofList (error.toList.take 500)) }] },
      .error error)

def processPaymentEvent (delivery : PaymentDelivery) (id : ℕ) :
    PaymentState × Except String (BillingPaymentEvent × Bool) :=
  match state.eventOf services delivery with
  | some existing =>
    if existing.payloadHash ≠ services.payloadHash delivery.rawBody ∨
        existing.eventType ≠ delivery.eventType then
      (state, .error "Webhook event_id was reused with different content")
    else (state, .ok (existing, true))
  | none =>
    match payloadId services delivery.tenantId, payloadId services delivery.invoiceId with
    | some tenantId, some invoiceId =>
      let event := newEvent services delivery tenantId invoiceId id
      if state.Insertable event then state.settle delivery event
      else (state, .error "the event cannot be stored")
    | _, _ => (state, .error "badly formed hexadecimal UUID string")

end PaymentState

inductive PaymentAction where
  | wait (elapsed : ℕ)
  | deliver (delivery : PaymentDelivery) (id : ℕ)
  | createTenant (id : ℕ)
  | createInvoice (row : BillingInvoice)
  | createSubscription (row : TenantSubscription)

namespace PaymentState

def perform (services : PaymentServices) (state : PaymentState) : PaymentAction → PaymentState
  | .wait elapsed => { state with clock := state.clock + elapsed }
  | .deliver delivery id => (state.processPaymentEvent services delivery id).1
  | .createTenant id => { state with tenants := id :: state.tenants }
  | .createInvoice row =>
    if row.tenantId ∈ state.tenants ∧ row.id ∉ state.invoices.map fun row => row.id then
      { state with invoices := state.invoices ++ [row] }
    else state
  | .createSubscription row =>
    if row.tenantId ∈ state.tenants ∧ ∀ stored ∈ state.subscriptions,
          stored.id ≠ row.id ∧ stored.tenantId ≠ row.tenantId then
      { state with subscriptions := state.subscriptions ++ [row] }
    else state

def Performs (services : PaymentServices) (before : PaymentState)
    (action : PaymentAction) (after : PaymentState) : Prop :=
  after = before.perform services action

end PaymentState

end Ithute.Billing
