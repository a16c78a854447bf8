import Ithute.Library.TransitionRuns
import Ithute.BillingPayments

/-!
# DPO checkouts

A checkout stores the token that the provider has issued on the invoice, over
the one that was stored before.  A callback looks the invoice up by its token,
asks the provider, and settles the invoice when the provider confirms.
-/

namespace Ithute.Billing

open TransitionRuns

structure HttpError where
  statusCode : ℕ
  detail : String

inductive ProviderAnswer (α : Type) where
  | configurationError (message : String)
  | requestError (message : String)
  | answers (value : α)

def ProviderAnswer.toExcept {α : Type} : ProviderAnswer α → Except HttpError α
  | .configurationError message => .error ⟨503, message⟩
  | .requestError message => .error ⟨502, message⟩
  | .answers value => .ok value

/-- The tags and texts below the root of a response, or why there is none. -/
abbrev ProviderResponse := Except String (List (String × String))

/-- `root.findtext(tag) or ""`. -/
def findtext (fields : List (String × String)) (tag : String) : String :=
  (fields.lookup tag).getD ""

def dpoCreateToken (configured : Bool) (response : ProviderResponse) : ProviderAnswer String :=
  if configured = false then
    .configurationError "DPO Pay is not configured"
  else
    match response with
    | .error failure => .requestError ("DPO Pay request failed: " ++ failure)
    | .ok fields =>
      let result := findtext fields "Result"
      if result ≠ "000" then
        .requestError ("DPO Pay rejected transaction (" ++ result ++
          "): " ++ findtext fields "ResultExplanation")
      else if findtext fields "TransToken" = "" then
        .requestError "DPO Pay response did not contain TransToken"
      else .answers (findtext fields "TransToken")

/-- `dpo_verify_token`; of two fields of one tag the last one stays. -/
def dpoVerifyToken (configured : Bool) (response : ProviderResponse) :
    ProviderAnswer (List (String × String)) :=
  if configured = false then
    .configurationError "DPO Pay is not configured"
  else
    match response with
    | .error failure => .requestError ("DPO Pay verification failed: " ++ failure)
    | .ok fields => .answers fields.reverse

/-- `sha256` of the sorted items of a verification. -/
structure CheckoutServices where
  verificationHash : List (String × String) → String

structure CheckoutState where
  tables : PaymentState := {}
  issued : List (String × ℕ) := []

inductive CallbackRequest where
  | returned (transactionToken transToken : Option String)
  | pushed (queryTransactionToken queryTransToken formTransactionToken
      formTransToken : Option String)

def firstTruthy (fields : List (Option String)) : Option String :=
  fields.findSome? fun field => field.filter (· ≠ "")

def CallbackRequest.token : CallbackRequest → Option String
  | .returned transactionToken transToken => firstTruthy [transactionToken, transToken]
  | .pushed queryTransactionToken queryTransToken formTransactionToken formTransToken =>
    firstTruthy [queryTransactionToken, queryTransToken, formTransactionToken, formTransToken]

structure CallbackReceipt where
  invoiceId : ℕ
  invoiceNumber : String
  paid : Bool
  providerResult : Option String
  providerExplanation : Option String

namespace PaymentState

variable (state : PaymentState)

def subscription? (id : ℕ) : Option TenantSubscription :=
  state.subscriptions.find? fun row => decide (row.id = id)

def invoiceOfToken (token : String) : Option BillingInvoice :=
  state.invoices.find? fun row => decide (row.providerInvoiceId = some token)

def paidInvoice (invoice : BillingInvoice) : BillingInvoice :=
  { invoice with status := .paid, paidAt := some state.clock }

def confirmedSubscription (subscription : TenantSubscription) : TenantSubscription :=
  { subscription with
    status := .active
    pastDueSince := none
    graceEndsAt := none
    provider := "dpo" }

def confirm (invoice : BillingInvoice) : PaymentState :=
  let paid := state.writeInvoice (state.paidInvoice invoice)
  match invoice.subscriptionId.bind state.subscription? with
  | none => paid
  | some subscription => paid.writeSubscription (confirmedSubscription subscription)

/-- `str` of a field that may be missing. -/
def fieldText (field : Option String) : String := field.getD "None"

def verificationEvent (services : CheckoutServices) (invoice : BillingInvoice)
    (token : String) (verification : List (String × String)) (id : ℕ) : BillingPaymentEvent where
  id := id
  provider := "dpo"
  eventId := token ++ ":" ++ fieldText (verification.lookup "Result") ++
    ":" ++ findtext verification "TransactionApproval"
  eventType := "verifyToken"
  payloadHash := services.verificationHash verification
  signatureValid := true
  processed := true
  tenantId := some invoice.tenantId
  invoiceId := some invoice.id
  processedAt := some state.clock

/-- The event is inserted unless one of its key is stored; a commit that
cannot insert it fails. -/
def recordVerification (event : BillingPaymentEvent) : Option PaymentState :=
  if ∃ stored ∈ state.events, stored.provider = event.provider ∧ stored.eventId = event.eventId then
    some state
  else if state.Insertable event then
    some { state with events := state.events ++ [event] }
  else none

end PaymentState

namespace CheckoutState

variable (services : CheckoutServices) (state : CheckoutState)

/-- `create_dpo_checkout` of a member who may manage the billing. -/
def createDpoCheckout (tenantId invoiceId : ℕ) (provider : ProviderAnswer String) :
    CheckoutState × Except HttpError String :=
  match state.tables.invoice? invoiceId with
  | none => (state, .error ⟨404, "Invoice not found"⟩)
  | some invoice =>
    if invoice.tenantId ≠ tenantId then
      (state, .error ⟨404, "Invoice not found"⟩)
    else if invoice.status = .paid then
      (state, .error ⟨409, "Invoice is already paid"⟩)
    else if invoice.status ≠ .open_ ∧ invoice.status ≠ .draft then
      (state, .error ⟨409, "Invoice cannot be paid in its current state"⟩)
    else
      match provider.toExcept with
      | .error failure => (state, .error failure)
      | .ok token =>
        if PaymentState.fits 160 token then
          let linked := { invoice with providerInvoiceId := some token }
          let saved :=
            if invoice.status = .draft then
              { linked with
                status := .open_
                finalizedAt := some state.tables.clock }
            else linked
          ({ tables := state.tables.writeInvoice saved
             issued := state.issued ++ [(token, invoice.id)] },
            .ok token)
        else (state, .error ⟨500, "Internal Server Error"⟩)

def completeDpoPayment (token : String)
    (provider : ProviderAnswer (List (String × String))) (id : ℕ) :
    CheckoutState × Except HttpError CallbackReceipt :=
  match state.tables.invoiceOfToken token with
  | none =>
    (state, .error ⟨404, "DPO transaction is not linked to an invoice"⟩)
  | some invoice =>
    match provider.toExcept with
    | .error failure => (state, .error failure)
    | .ok verification =>
      match state.tables.recordVerification
          (state.tables.verificationEvent services invoice token
            verification id) with
      | none => (state, .error ⟨500, "Internal Server Error"⟩)
      | some recorded =>
        let confirmed := verification.lookup "Result" = some "000"
        let written :=
          if confirmed then recorded.confirm invoice else recorded
        ({ state with tables := written },
          .ok
            { invoiceId := invoice.id
              invoiceNumber := invoice.invoiceNumber
              paid := decide (confirmed ∨ invoice.status = .paid)
              providerResult := verification.lookup "Result"
              providerExplanation :=
                verification.lookup "ResultExplanation" })

def dpoCallback (request : CallbackRequest)
    (provider : ProviderAnswer (List (String × String))) (id : ℕ) :
    CheckoutState × Except HttpError CallbackReceipt :=
  match request.token with
  | none => (state, .error ⟨422, "Missing DPO transaction token"⟩)
  | some token => state.completeDpoPayment services token provider id

/-- A subscription is canceled, as an event of its provider does. -/
def cancelSubscription (tenantId : ℕ) : CheckoutState :=
  match state.tables.subscriptionOf tenantId with
  | none => state
  | some subscription => { state with tables := state.tables.cancel subscription }

def voidInvoice (id : ℕ) : CheckoutState :=
  match state.tables.invoice? id with
  | none => state
  | some invoice =>
    { state with
      tables := state.tables.writeInvoice { invoice with status := .void } }

end CheckoutState

inductive CheckoutAction where
  | wait (elapsed : ℕ)
  | checkout (tenantId invoiceId : ℕ) (configured : Bool) (response : ProviderResponse)
  | callback (request : CallbackRequest) (configured : Bool) (response : ProviderResponse) (id : ℕ)
  | cancel (tenantId : ℕ)
  | voidInvoice (id : ℕ)

namespace CheckoutState

def perform (services : CheckoutServices) (state : CheckoutState) : CheckoutAction → CheckoutState
  | .wait elapsed =>
    { state with
      tables := { state.tables with clock := state.tables.clock + elapsed } }
  | .checkout tenantId invoiceId configured response =>
    (state.createDpoCheckout tenantId invoiceId (dpoCreateToken configured response)).1
  | .callback request configured response id =>
    (state.dpoCallback services request (dpoVerifyToken configured response) id).1
  | .cancel tenantId => state.cancelSubscription tenantId
  | .voidInvoice id => state.voidInvoice id

def TokensFresh (state : CheckoutState) : CheckoutAction → Prop
  | .checkout _ _ configured response => ∀ token,
      dpoCreateToken configured response = .answers token →
        (∀ entry ∈ state.issued, entry.1 ≠ token) ∧ ∀ row ∈ state.tables.invoices,
            row.providerInvoiceId ≠ some token
  | _ => True

def Performs (services : CheckoutServices) (before : CheckoutState)
    (action : CheckoutAction) (after : CheckoutState) : Prop :=
  before.TokensFresh action ∧ after = before.perform services action

end CheckoutState

end Ithute.Billing
