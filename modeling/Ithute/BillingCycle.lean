import Mathlib.Data.List.Sort
import Ithute.BillingEffectivePlan

/-!
# Plan changes and the billing cycle

A pass visits the subscriptions in the order of their period ends.  A visit
creates the contract and looks for the invoice of the period, generates it
when it is due, and then decides what becomes of the subscription.
-/

namespace Ithute.Billing

/-- What a tenant has used up of a package, as its failures name it. -/
def OverageMetric.label : OverageMetric → String
  | .mailboxes => "mailboxes"
  | .domains => "domains"
  | .storageGb => "mail storage"
  | .apiKeys => "API keys"
  | .hostedProjects => "hosted projects"
  | .hostingStorageGb => "application storage"
  | .hostingDatabaseCount => "databases"
  | .hostingDatabaseStorageGb => "database storage"
  | .hostingSourceStorageGb => "source storage"

/-- The failures of `target_plan_fits_current_usage`. -/
def targetPlanFailures (usage : TenantUsage) (target : BillingPlan) : List String :=
  (overageMetrics.filter fun metric =>
    decide (usage metric > target.limit metric)).map fun metric =>
      metric.label ++ ": " ++ toString (usage metric) ++
        " used exceeds target limit " ++ toString (target.limit metric)

def periodDelta (interval : String) : ℤ := days (if interval = "annual" then 365 else 30)

def TenantSubscription.changedTo (subscription : TenantSubscription)
    (target : BillingPlan) : TenantSubscription :=
  { subscription with
    basePlanId := some target.id
    pendingPlanId := none
    pendingPlanEffectiveAt := none }

def TenantSubscription.renewed (subscription : TenantSubscription)
    (interval : String) : TenantSubscription :=
  { subscription with
    currentPeriodStart := subscription.currentPeriodEnd
    currentPeriodEnd := subscription.currentPeriodEnd + periodDelta interval
    status := .active
    pastDueSince := none
    graceEndsAt := none }

namespace BillingState

variable (state : BillingState)

def beginVisit (subscription : TenantSubscription) :
    BillingState × BillingContract × Option BillingInvoice :=
  let (created, contract) := state.getOrCreateContract subscription.tenantId
  let normal :=
    if contract.billingInterval = "monthly" ∨ contract.billingInterval = "annual" then contract
    else { contract with billingInterval := "annual" }
  (created.writeContract normal, normal, state.periodInvoice subscription)

def invoiceDue (contract : BillingContract)
    (subscription : TenantSubscription) (invoice : Option BillingInvoice) (now : ℤ) : Bool :=
  contract.autoRenew && invoice.isNone && decide (now ≥ subscription.currentPeriodEnd -
      days (max 0 contract.invoiceLeadDays)) &&
    decide (subscription.status = .trialing ∨
      subscription.status = .active ∨ subscription.status = .pastDue)

/-- The add-ons that `_apply_period_end_changes` cancels. -/
def EndsWithPeriod (tenantId : ℕ) (row : TenantAddon) : Prop :=
  row.tenantId = tenantId ∧ row.status = "active" ∧ row.cancelAtPeriodEnd = true

instance (tenantId : ℕ) (row : TenantAddon) : Decidable (EndsWithPeriod tenantId row) :=
  inferInstanceAs (Decidable (_ ∧ _))

def pendingTarget (subscription : TenantSubscription) (now : ℤ)
    (usage : TenantUsage) : Option BillingPlan :=
  if ∀ effectiveAt ∈ subscription.pendingPlanEffectiveAt, effectiveAt ≤ now then
    (subscription.pendingPlanId.bind state.plan?).filter fun target =>
      decide (target.lifecycleState = "sellable" ∧ target.isActive = true ∧
        targetPlanFailures usage target = [])
  else none

def cancelEnding (tenantId : ℕ) (now : ℤ) : BillingState :=
  { state with
    tenantAddons := state.tenantAddons.map fun row =>
      if EndsWithPeriod tenantId row then
        { row with
          status := "canceled"
          canceledAt := some now
          cancelAtPeriodEnd := false
          currentPeriodEnd := some now }
      else row }

/-- `_apply_period_end_changes`; the rebuild reads what is stored, which are
the rows before the changes. -/
def applyPeriodEndChanges (subscription : TenantSubscription) (now : ℤ)
    (usage : TenantUsage) (freshId : ℕ) : Except String (BillingState × Bool × ℕ) :=
  let tenantId := subscription.tenantId
  let ending := state.tenantAddons.countP fun row => decide (EndsWithPeriod tenantId row)
  let canceled := state.cancelEnding tenantId now
  match state.pendingTarget subscription now usage with
  | some target =>
    let held := canceled.writeSubscription (subscription.changedTo target)
    (state.rebuildEffectivePlan held tenantId freshId).map fun rebuilt => (rebuilt.1, true, ending)
  | none =>
    if ending = 0 then .ok (state, false, 0)
    else
      (state.rebuildEffectivePlan canceled tenantId freshId).map
        fun rebuilt => (rebuilt.1, false, ending)

structure CycleCounters where
  scanned : ℕ := 0
  invoicesCreated : ℕ := 0
  renewed : ℕ := 0
  pastDue : ℕ := 0
  canceled : ℕ := 0
  planChangesApplied : ℕ := 0
  addonsCanceled : ℕ := 0

def extendAddons (tenantId : ℕ) (start finish : ℤ) : BillingState :=
  { state with
    tenantAddons := state.tenantAddons.map fun row =>
      if row.tenantId = tenantId ∧ row.status = "active" then
        { row with
          currentPeriodStart := some start
          currentPeriodEnd := some finish }
      else row }

/-- The next period begins, for the subscription, its active add-ons and its
contract. -/
def renew (subscription : TenantSubscription) (contract : BillingContract) : BillingState :=
  let renewed := subscription.renewed contract.billingInterval
  let extended := (state.writeSubscription renewed).extendAddons
    subscription.tenantId renewed.currentPeriodStart renewed.currentPeriodEnd
  extended.writeContract { contract with
      nextInvoiceAt := some (renewed.currentPeriodEnd - days (max 0 contract.invoiceLeadDays)) }

def finishVisit (subscription : TenantSubscription)
    (contract : BillingContract) (invoice : Option BillingInvoice) (now : ℤ)
    (usage : TenantUsage) (freshId : ℕ) (counters : CycleCounters) :
    Except String (BillingState × CycleCounters) :=
  if now < subscription.currentPeriodEnd then .ok (state, counters)
  else if subscription.cancelAtPeriodEnd = true ∨ contract.autoRenew = false then
    .ok (state.writeSubscription { subscription with status := .canceled },
      { counters with canceled := counters.canceled + 1 })
  else if ∃ row ∈ invoice, row.status = .paid then
    match state.applyPeriodEndChanges subscription now usage freshId with
    | .error failure => .error failure
    | .ok (changed, planChanged, addonsCanceled) =>
      -- the rows are those of the session, which the changes have flushed
      let current := (changed.subscriptionOf subscription.tenantId).getD subscription
      .ok (changed.renew current contract, { counters with
          planChangesApplied := counters.planChangesApplied + if planChanged then 1 else 0
          addonsCanceled := counters.addonsCanceled + addonsCanceled
          renewed := counters.renewed + 1 })
  else if subscription.status ≠ .pastDue then
    .ok (state.writeSubscription { subscription with
        status := .pastDue
        pastDueSince := some now
        graceEndsAt := some (now + days (max 0 contract.graceDays)) },
      { counters with pastDue := counters.pastDue + 1 })
  else .ok (state, counters)

structure VisitInputs where
  usage : TenantUsage
  invoiceId : ℕ
  invoiceNumber : String
  planId : ℕ

def visit (subscriptionId : ℕ) (now : ℤ) (inputs : VisitInputs) (counters : CycleCounters) :
    Except String (BillingState × CycleCounters) :=
  match state.subscription? subscriptionId with
  | none => .error "Instance has been deleted"
  | some subscription =>
    let scanned := { counters with scanned := counters.scanned + 1 }
    let (begun, contract, invoice) := state.beginVisit subscription
    if invoiceDue contract subscription invoice now then
      match begun.draftContractInvoice subscription contract inputs.usage with
      | .error failure => .error failure
      | .ok (.inl existing) =>
        begun.finishVisit subscription contract (some existing) now inputs.usage inputs.planId
          { scanned with invoicesCreated := scanned.invoicesCreated + 1 }
      | .ok (.inr draft) =>
        match begun.insertContractInvoice draft now inputs.invoiceNumber inputs.invoiceId with
        | none => .error "Instance has been deleted"
        | some (inserted, created) =>
          inserted.finishVisit subscription
            ((inserted.contractOf subscription.tenantId).getD contract)
            (some created) now inputs.usage inputs.planId { scanned with
              invoicesCreated := scanned.invoicesCreated + 1 }
    else
      begun.finishVisit subscription contract invoice now inputs.usage inputs.planId scanned

def visitOrder : List ℕ :=
  (state.subscriptions.insertionSort fun first second =>
    first.currentPeriodEnd ≤ second.currentPeriodEnd).map fun row => row.id

def runBillingCycle (now : ℤ) (inputs : ℕ → VisitInputs) :
    Except String (BillingState × CycleCounters) :=
  state.visitOrder.foldlM (fun progress subscriptionId =>
    progress.1.visit subscriptionId now (inputs subscriptionId) progress.2)
    (state, {})

end BillingState

end Ithute.Billing
