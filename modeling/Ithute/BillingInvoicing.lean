import Mathlib.Algebra.BigOperators.Group.List.Basic
import Mathlib.Algebra.Order.Ring.Int
import Ithute.BillingTables

/-!
# Generating invoices

Both generators look for an invoice of the period, compute its amounts,
commit with the captured usage, and then insert the invoice.  Each is given
in its two parts: what is computed before the commit, and what is written
after it on rows that are read again.
-/

namespace Ithute.Billing

structure BillingState where
  plans : List BillingPlan := []
  addons : List BillingAddon := []
  tenantAddons : List TenantAddon := []
  subscriptions : List TenantSubscription := []
  contracts : List BillingContract := []
  invoices : List BillingInvoice := []

/-- `tenant_usage`: counts, and bytes for the metrics in gigabytes. -/
abbrev TenantUsage := OverageMetric → ℤ

def overageMetrics : List OverageMetric :=
  [.mailboxes, .domains, .storageGb, .apiKeys, .hostedProjects,
    .hostingStorageGb, .hostingDatabaseCount, .hostingDatabaseStorageGb, .hostingSourceStorageGb]

def mebibyte : ℤ := 1024 * 1024

/-- `_GIB`. -/
def gibibyte : ℤ := 1024 * 1024 * 1024

/-- `_limits`, for the metrics. -/
def BillingPlan.limit (plan : BillingPlan) : OverageMetric → ℤ
  | .mailboxes => plan.capacity .includedMailboxes
  | .domains => plan.capacity .includedDomains
  | .storageGb => plan.capacity .includedStorageMb * mebibyte
  | .apiKeys => plan.capacity .maxApiKeys
  | .hostedProjects => plan.capacity .includedHostedProjects
  | .hostingStorageGb => plan.capacity .hostingStorageMb * mebibyte
  | .hostingDatabaseCount => plan.capacity .hostingDatabaseLimit
  | .hostingDatabaseStorageGb => plan.capacity .hostingDatabaseStorageMb * mebibyte
  | .hostingSourceStorageGb => plan.capacity .hostingSourceStorageMb * mebibyte

/-- Whether the specs of `calculate_overage` turn bytes into gigabytes. -/
def OverageMetric.bytesToGb : OverageMetric → Bool
  | .storageGb | .hostingStorageGb | .hostingDatabaseStorageGb
  | .hostingSourceStorageGb => true
  | _ => false

def billableUnits (used included : ℤ) (bytesToGb : Bool) : ℤ :=
  let extra := max 0 (used - included)
  if bytesToGb = false then extra
  else if extra ≠ 0 then (extra + gibibyte - 1) / gibibyte
  else 0

/-- `estimated_minor` of `calculate_overage`. -/
def calculateOverage (plan : BillingPlan) (usage : TenantUsage) : ℤ :=
  (overageMetrics.map fun metric =>
    let units := billableUnits (usage metric) (plan.limit metric) metric.bytesToGb
    if plan.allowMeteredOverages then units * plan.overageMinor metric
    else 0).sum

def basePrice (plan : BillingPlan) (interval : String) : ℤ :=
  if interval = "annual" then
    plan.annualPriceMinor.getD (plan.monthlyPriceMinor * 12)
  else plan.monthlyPriceMinor

namespace BillingState

variable (state : BillingState)

def plan? (id : ℕ) : Option BillingPlan := state.plans.find? fun row => decide (row.id = id)

def addon? (id : ℕ) : Option BillingAddon := state.addons.find? fun row => decide (row.id = id)

/-- `get_subscription`. -/
def subscriptionOf (tenantId : ℕ) : Option TenantSubscription :=
  state.subscriptions.find? fun row => decide (row.tenantId = tenantId)

def subscription? (id : ℕ) : Option TenantSubscription :=
  state.subscriptions.find? fun row => decide (row.id = id)

def contractOf (tenantId : ℕ) : Option BillingContract :=
  state.contracts.find? fun row => decide (row.tenantId = tenantId)

def writeSubscription (saved : TenantSubscription) : BillingState :=
  { state with
    subscriptions := state.subscriptions.map fun row => if row.id = saved.id then saved else row }

def writeContract (saved : BillingContract) : BillingState :=
  { state with
    contracts := state.contracts.map fun row =>
      if row.tenantId = saved.tenantId then saved else row }

def addInvoice (invoice : BillingInvoice) : BillingState :=
  { state with invoices := state.invoices ++ [invoice] }

def getOrCreateContract (tenantId : ℕ) : BillingState × BillingContract :=
  match state.contractOf tenantId with
  | some contract => (state, contract)
  | none =>
    let contract : BillingContract := { tenantId := tenantId }
    ({ state with contracts := state.contracts ++ [contract] }, contract)

/-- The invoice that `generate_invoice` returns again. -/
def tenantPeriodInvoice (subscription : TenantSubscription) : Option BillingInvoice :=
  state.invoices.find? fun row => decide (row.tenantId = subscription.tenantId ∧
      row.periodStart = some subscription.currentPeriodStart ∧
      row.periodEnd = some subscription.currentPeriodEnd ∧ row.status ≠ .void)

/-- What `generate_invoice` holds at the commit of the captured usage. -/
structure InvoiceDraft where
  subscriptionId : ℕ
  planId : ℕ
  overageMinor : ℤ

/-- `generate_invoice`, up to the commit of the captured usage. -/
def draftInvoice (tenantId : ℕ) (usage : TenantUsage) :
    Except String (BillingInvoice ⊕ InvoiceDraft) :=
  match state.subscriptionOf tenantId with
  | none => .error "Tenant has no subscription"
  | some subscription =>
    match state.plan? subscription.planId with
    | none => .error "Subscription billing plan is unavailable"
    | some plan =>
      match state.tenantPeriodInvoice subscription with
      | some existing => .ok (.inl existing)
      | none =>
        .ok (.inr
          { subscriptionId := subscription.id
            planId := plan.id
            overageMinor := calculateOverage plan usage })

/-- `generate_invoice`, after the commit: the subscription and the plan are
read again. -/
def insertInvoice (draft : InvoiceDraft) (now dueDays : ℤ) (number : String)
    (id : ℕ) : Option (BillingState × BillingInvoice) :=
  match state.subscription? draft.subscriptionId, state.plan? draft.planId with
  | some subscription, some plan =>
    let total := plan.monthlyPriceMinor + draft.overageMinor
    let invoice : BillingInvoice :=
      { id := id
        tenantId := subscription.tenantId
        subscriptionId := some subscription.id
        invoiceNumber := number
        currency := plan.currency
        baseAmountMinor := plan.monthlyPriceMinor
        overageAmountMinor := draft.overageMinor
        subtotalMinor := total
        totalMinor := total
        status := .open_
        periodStart := some subscription.currentPeriodStart
        periodEnd := some subscription.currentPeriodEnd
        dueAt := some (now + days dueDays)
        finalizedAt := some now }
    some (state.addInvoice invoice, invoice)
  | _, _ => none

def periodInvoice (subscription : TenantSubscription) : Option BillingInvoice :=
  state.invoices.find? fun row => decide (row.subscriptionId = some subscription.id ∧
      row.periodStart = some subscription.currentPeriodStart ∧
      row.periodEnd = some subscription.currentPeriodEnd ∧ row.status ≠ .void)

/-- The assignments of `_addon_setup_fees` with their add-ons. -/
def unappliedAddons (tenantId : ℕ) : List (TenantAddon × BillingAddon) :=
  state.tenantAddons.filterMap fun assignment =>
    if assignment.tenantId = tenantId ∧ assignment.status = "active" ∧
        assignment.setupFeeApplied = false then
      ((state.addon? assignment.addonId).filter fun addon =>
        addon.isActive).map fun addon => (assignment, addon)
    else none

/-- What `generate_contract_invoice` holds at the commit of the captured
usage. -/
structure ContractDraft where
  subscriptionId : ℕ
  tenantId : ℕ
  planId : ℕ
  /-- The set-up fee of the package is part of the subtotal. -/
  planSetup : Bool
  addonAssignments : List ℕ
  fixedSubtotal : ℤ
  overageAmount : ℤ
  subtotal : ℤ
  creditUsed : ℤ
  total : ℤ

def discountOf (contract : BillingContract) (subtotal : ℤ) : ℤ :=
  min subtotal ((subtotal * max 0 (min 100 contract.discountPercent)) / 100)

def creditUsedOf (contract : BillingContract) (afterDiscount : ℤ) : ℤ :=
  min afterDiscount (max 0 contract.creditBalanceMinor)

/-- `generate_contract_invoice`, up to the commit of the captured usage. -/
def draftContractInvoice (subscription : TenantSubscription)
    (contract : BillingContract) (usage : TenantUsage) :
    Except String (BillingInvoice ⊕ ContractDraft) :=
  match state.periodInvoice subscription with
  | some existing => .ok (.inl existing)
  | none =>
    match state.plan? subscription.planId with
    | none => .error "Subscription billing plan is unavailable"
    | some plan =>
      let planSetup :=
        if contract.setupFeeApplied then 0 else plan.setupFeeMinor
      let assignments := state.unappliedAddons subscription.tenantId
      let addonSetup := (assignments.map fun entry =>
        entry.2.setupFeeMinor * entry.1.quantity).sum
      let fixedSubtotal :=
        basePrice plan contract.billingInterval + planSetup + addonSetup
      let overageAmount := calculateOverage plan usage
      let subtotal := fixedSubtotal + overageAmount
      let afterDiscount :=
        max 0 (subtotal - discountOf contract subtotal)
      let creditUsed := creditUsedOf contract afterDiscount
      .ok (.inr
        { subscriptionId := subscription.id
          tenantId := subscription.tenantId
          planId := plan.id
          planSetup := !contract.setupFeeApplied
          addonAssignments := assignments.map fun entry => entry.1.id
          fixedSubtotal := fixedSubtotal
          overageAmount := overageAmount
          subtotal := subtotal
          creditUsed := creditUsed
          total := max 0 (afterDiscount - creditUsed) })

/-- The assignments whose set-up fee is part of an invoice are marked. -/
def markAddons (assignments : List ℕ) : BillingState :=
  { state with
    tenantAddons := state.tenantAddons.map fun row =>
      if row.id ∈ assignments then { row with setupFeeApplied := true }
      else row }

/-- The invoice of a draft, on the rows that are read after the commit. -/
def ContractDraft.invoice (draft : ContractDraft)
    (subscription : TenantSubscription) (plan : BillingPlan)
    (contract : BillingContract) (now : ℤ) (number : String) (id : ℕ) : BillingInvoice where
  id := id
  tenantId := subscription.tenantId
  subscriptionId := some subscription.id
  invoiceNumber := number
  currency := plan.currency
  baseAmountMinor := draft.fixedSubtotal
  overageAmountMinor := draft.overageAmount
  creditUsedMinor := draft.creditUsed
  subtotalMinor := draft.subtotal
  totalMinor := draft.total
  status := if draft.total > 0 then .open_ else .paid
  periodStart := some subscription.currentPeriodStart
  periodEnd := some subscription.currentPeriodEnd
  dueAt := some (subscription.currentPeriodEnd + days contract.graceDays)
  finalizedAt := some now
  paidAt := if draft.total = 0 then some now else none

def ContractDraft.charge (draft : ContractDraft)
    (subscription : TenantSubscription) (contract : BillingContract) : BillingContract :=
  { contract with
    setupFeeApplied := true
    creditBalanceMinor := contract.creditBalanceMinor - draft.creditUsed
    nextInvoiceAt := some (subscription.currentPeriodEnd - days contract.invoiceLeadDays) }

/-- `generate_contract_invoice`, after the commit: the subscription, the plan
and the contract are read again. -/
def insertContractInvoice (draft : ContractDraft) (now : ℤ)
    (number : String) (id : ℕ) : Option (BillingState × BillingInvoice) :=
  match state.subscription? draft.subscriptionId, state.plan? draft.planId,
      state.contractOf draft.tenantId with
  | some subscription, some plan, some contract =>
    let invoice := draft.invoice subscription plan contract now number id
    let charged := (state.addInvoice invoice).writeContract (draft.charge subscription contract)
    some (charged.markAddons draft.addonAssignments, invoice)
  | _, _, _ => none

end BillingState

end Ithute.Billing
