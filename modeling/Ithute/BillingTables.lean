import Mathlib.Data.Int.Order.Basic

/-!
# Tables of the billing service

The rows of plans, add-ons, subscriptions, contracts, invoices and payment
events.  Identifiers are numbers, amounts are in minor units and times are
microseconds.
-/

namespace Ithute.Billing

/-- `CAPACITY_FIELDS`. -/
inductive CapacityField where
  | includedMailboxes | includedDomains | includedStorageMb | maxApiKeys
  | includedHostedProjects | hostingStorageMb | hostingMemoryMbPerProject
  | hostingCpuMillicoresPerProject | hostingPidsPerProject
  | hostingDatabaseLimit | hostingDatabaseStorageMb
  | hostingSourceStorageMb
  deriving DecidableEq

/-- The metrics of `_overage_rates`. -/
inductive OverageMetric where
  | mailboxes | domains | storageGb | apiKeys | hostedProjects
  | hostingStorageGb | hostingDatabaseCount | hostingDatabaseStorageGb
  | hostingSourceStorageGb
  deriving DecidableEq

structure BillingPlan where
  id : ℕ
  code : String
  name : String
  currency : String := "LSL"
  monthlyPriceMinor : ℤ
  annualPriceMinor : Option ℤ := none
  setupFeeMinor : ℤ := 0
  capacity : CapacityField → ℤ
  allowMeteredOverages : Bool := false
  overageMinor : OverageMetric → ℤ := fun _ => 0
  customerVisible : Bool := true
  isActive : Bool := true
  lifecycleState : String := "sellable"

structure BillingAddon where
  id : ℕ
  code : String
  monthlyPriceMinor : ℤ := 0
  annualPriceMinor : Option ℤ := none
  setupFeeMinor : ℤ := 0
  resourceKey : String
  amountPerQuantity : ℤ
  maxQuantity : ℤ := 100
  customerVisible : Bool := true
  isActive : Bool := true

structure TenantAddon where
  id : ℕ
  tenantId : ℕ
  addonId : ℕ
  quantity : ℤ := 1
  status : String := "pending"
  activatedAt : Option ℤ := none
  canceledAt : Option ℤ := none
  cancelAtPeriodEnd : Bool := false
  setupFeeApplied : Bool := false
  currentPeriodStart : Option ℤ := none
  currentPeriodEnd : Option ℤ := none

inductive SubscriptionStatus where
  | trialing | active | pastDue | canceled
  deriving DecidableEq

structure TenantSubscription where
  id : ℕ
  tenantId : ℕ
  planId : ℕ
  basePlanId : Option ℕ := none
  pendingPlanId : Option ℕ := none
  pendingPlanEffectiveAt : Option ℤ := none
  status : SubscriptionStatus := .trialing
  currentPeriodStart : ℤ
  currentPeriodEnd : ℤ
  cancelAtPeriodEnd : Bool := false
  provider : String := "manual"
  pastDueSince : Option ℤ := none
  graceEndsAt : Option ℤ := none
  deriving DecidableEq

structure BillingContract where
  tenantId : ℕ
  billingInterval : String := "annual"
  autoRenew : Bool := true
  invoiceLeadDays : ℤ := 14
  graceDays : ℤ := 7
  discountPercent : ℤ := 0
  creditBalanceMinor : ℤ := 0
  setupFeeApplied : Bool := false
  nextInvoiceAt : Option ℤ := none

inductive InvoiceStatus where
  | draft | open_ | paid | void | uncollectible
  deriving DecidableEq

structure BillingInvoice where
  id : ℕ
  tenantId : ℕ
  subscriptionId : Option ℕ := none
  invoiceNumber : String := ""
  currency : String := "LSL"
  baseAmountMinor : ℤ := 0
  overageAmountMinor : ℤ := 0
  /-- `credit_used_minor` of the usage breakdown. -/
  creditUsedMinor : ℤ := 0
  subtotalMinor : ℤ := 0
  totalMinor : ℤ := 0
  status : InvoiceStatus := .draft
  periodStart : Option ℤ := none
  periodEnd : Option ℤ := none
  dueAt : Option ℤ := none
  paidAt : Option ℤ := none
  finalizedAt : Option ℤ := none
  providerInvoiceId : Option String := none
  deriving DecidableEq

structure BillingPaymentEvent where
  id : ℕ
  provider : String
  eventId : String
  eventType : String
  payloadHash : String
  signatureValid : Bool := false
  processed : Bool := false
  tenantId : Option ℕ := none
  invoiceId : Option ℕ := none
  processedAt : Option ℤ := none
  errorMessage : Option String := none

def microsPerDay : ℤ := 86400000000

/-- `timedelta(days=days)`. -/
def days (count : ℤ) : ℤ := count * microsPerDay

end Ithute.Billing
