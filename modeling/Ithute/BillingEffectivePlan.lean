import Mathlib.Data.Nat.Digits.Defs
import Ithute.BillingInvoicing

/-!
# Effective plans

The package of a subscription and its active add-ons are merged into a plan
of the tenant.  The session does not flush before a query: a row matches as
it is stored, and comes with the attributes that the session holds.
-/

namespace Ithute.Billing

/-- `RESOURCE_FIELDS`. -/
def resourceField : String → Option CapacityField
  | "mailboxes" => some .includedMailboxes
  | "domains" => some .includedDomains
  | "mail_storage_mb" => some .includedStorageMb
  | "api_keys" => some .maxApiKeys
  | "hosted_projects" => some .includedHostedProjects
  | "hosting_storage_mb" => some .hostingStorageMb
  | "database_count" => some .hostingDatabaseLimit
  | "database_storage_mb" => some .hostingDatabaseStorageMb
  | "source_storage_mb" => some .hostingSourceStorageMb
  | _ => none

/-- The digits of `UUID.hex`. -/
def hexDigits : List Char :=
  ['0', '1', '2', '3', '4', '5', '6', '7', '8', '9', 'a', 'b', 'c', 'd', 'e', 'f']

/-- `UUID.hex`. -/
def uuidHex (id : ℕ) : String :=
  let digits := Nat.digits 16 id
  String.ofList ((digits ++ List.replicate (32 - digits.length) 0).reverse.map
      fun digit => hexDigits.getD digit '0')

def effectiveCode (tenantId : ℕ) : String := "effective-" ++ uuidHex tenantId

abbrev AddonRow := TenantAddon × BillingAddon

def addonAmount (rows : List AddonRow) (field : CapacityField) : ℤ :=
  (rows.map fun entry =>
    if resourceField entry.2.resourceKey = some field then
      entry.2.amountPerQuantity * entry.1.quantity
    else 0).sum

def addonMonthly (rows : List AddonRow) : ℤ :=
  (rows.map fun entry => entry.2.monthlyPriceMinor * entry.1.quantity).sum

def addonAnnual (rows : List AddonRow) : Option ℤ :=
  rows.foldl (fun annual entry =>
    match entry.2.annualPriceMinor with
    | none => none
    | some price => annual.map (· + price * entry.1.quantity)) (some 0)

def effectivePlan (base : BillingPlan) (rows : List AddonRow) (id : ℕ)
    (code lifecycleState : String) : BillingPlan where
  id := id
  code := code
  name := base.name ++ " + add-ons"
  currency := base.currency
  monthlyPriceMinor := base.monthlyPriceMinor + addonMonthly rows
  annualPriceMinor :=
    match base.annualPriceMinor, addonAnnual rows with
    | some price, some annual => some (price + annual)
    | _, _ => none
  setupFeeMinor := base.setupFeeMinor
  capacity := fun field => base.capacity field + addonAmount rows field
  allowMeteredOverages := base.allowMeteredOverages
  overageMinor := base.overageMinor
  customerVisible := false
  isActive := true
  lifecycleState := lifecycleState

namespace BillingState

def tenantAddon? (state : BillingState) (id : ℕ) : Option TenantAddon :=
  state.tenantAddons.find? fun row => decide (row.id = id)

def planByCode (state : BillingState) (code : String) : Option BillingPlan :=
  state.plans.find? fun row => decide (row.code = code)

/-- The rows of `active_addon_totals`. -/
def activeAddons (stored held : BillingState) (tenantId : ℕ) : List AddonRow :=
  stored.tenantAddons.filterMap fun row =>
    if row.tenantId = tenantId ∧ row.status = "active" then
      (held.tenantAddon? row.id).bind fun assignment =>
        ((stored.addon? row.addonId).filter fun addon =>
          addon.isActive).map fun addon => (assignment, addon)
    else none

def writeEffective (state : BillingState) (base : BillingPlan)
    (rows : List AddonRow) (code : String) (freshId : ℕ) : BillingState × BillingPlan :=
  match state.planByCode code with
  | some stored =>
    let effective := effectivePlan base rows stored.id code stored.lifecycleState
    ({ state with
        plans := state.plans.map fun row =>
          if row.id = effective.id then effective else row }, effective)
  | none =>
    let effective := effectivePlan base rows freshId code "sellable"
    ({ state with plans := state.plans ++ [effective] }, effective)

/-- `rebuild_effective_plan`, and its flush of what the session holds. -/
def rebuildEffectivePlan (stored held : BillingState) (tenantId freshId : ℕ) :
    Except String (BillingState × Option BillingPlan) :=
  match held.subscriptionOf tenantId with
  | none => .ok (held, none)
  | some subscription =>
    -- `_base_plan_id` reads the stored column, and fills it when empty
    let baseId := ((stored.subscriptionOf tenantId).bind fun row =>
      row.basePlanId).getD subscription.planId
    let based :=
      { subscription with
        basePlanId := subscription.basePlanId.or (some baseId) }
    match held.plan? baseId with
    | none => .error "Subscription base package no longer exists"
    | some base =>
      match activeAddons stored held tenantId with
      | [] =>
        .ok (held.writeSubscription { based with planId := base.id }, some base)
      | entry :: entries =>
        let (written, effective) := held.writeEffective base
          (entry :: entries) (effectiveCode tenantId) freshId
        .ok (written.writeSubscription { based with planId := effective.id }, some effective)

end BillingState

end Ithute.Billing
