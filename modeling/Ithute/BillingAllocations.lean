import Mathlib.Algebra.Order.BigOperators.Group.List
import Ithute.BillingCancellation

/-!
# Allocations

Three functions admit the resources of a tenant, and the overage is computed
by a fourth.  The admission of databases and sources falls back to other
fields where the limit of a plan is zero; the overage does not.
-/

namespace Ithute.Billing

/-- An entry of `calculate_overage`. -/
structure OverageItem where
  metric : OverageMetric
  units : ℤ
  rateMinor : ℤ
  amountMinor : ℤ

def BillingPlan.overUnits (plan : BillingPlan) (usage : TenantUsage) (metric : OverageMetric) : ℤ :=
  billableUnits (usage metric) (plan.limit metric) metric.bytesToGb

/-- `items` of `calculate_overage`. -/
def overageItems (plan : BillingPlan) (usage : TenantUsage) : List OverageItem :=
  overageMetrics.filterMap fun metric =>
    let units := plan.overUnits usage metric
    if units ≠ 0 then
      some
        { metric := metric
          units := units
          rateMinor := plan.overageMinor metric
          amountMinor :=
            if plan.allowMeteredOverages then
              units * plan.overageMinor metric
            else 0 }
    else none

/-- `unpriced_metrics` of `calculate_overage`. -/
def unpricedMetrics (plan : BillingPlan) (usage : TenantUsage) : List OverageMetric :=
  overageMetrics.filter fun metric => decide
    (plan.overUnits usage metric ≠ 0 ∧ plan.allowMeteredOverages = true ∧
      plan.overageMinor metric ≤ 0)

structure HostingLimits where
  databaseCount : ℤ
  databaseStorageBytes : ℤ
  sourceStorageBytes : ℤ

/-- `or` of numbers. -/
def orElse (value fallback : ℤ) : ℤ := if value ≠ 0 then value else fallback

def effectiveLimits (plan : BillingPlan) : HostingLimits :=
  let projects := plan.capacity .includedHostedProjects
  if projects ≤ 0 then
    { databaseCount := 0, databaseStorageBytes := 0, sourceStorageBytes := 0 }
  else
    let databaseLimit := orElse (plan.capacity .hostingDatabaseLimit) (max 1 (projects * 2))
    let databaseStorageMb :=
      orElse (plan.capacity .hostingDatabaseStorageMb) (plan.capacity .hostingStorageMb)
    let sourceStorageMb :=
      orElse (plan.capacity .hostingSourceStorageMb) (plan.capacity .hostingStorageMb)
    { databaseCount := max 0 databaseLimit
      databaseStorageBytes := max 0 databaseStorageMb * mebibyte
      sourceStorageBytes := max 0 sourceStorageMb * mebibyte }

namespace BillingState

variable (state : BillingState) (tenantId : ℕ) (usage : TenantUsage)

/-- The plan of `hosting_resource_meter`. -/
def meteredPlan : Option BillingPlan :=
  (state.subscriptionOf tenantId).bind fun subscription =>
    (state.plan? subscription.planId).filter fun plan => plan.isActive

def databaseAllocationAllowed (requestedMb : ℤ) : Bool × String :=
  match state.meteredPlan tenantId with
  | none => (false, "Organization has no active hosting package")
  | some plan =>
    let limits := effectiveLimits plan
    let requestedBytes := requestedMb * mebibyte
    let countOver := decide (usage .hostingDatabaseCount + 1 > limits.databaseCount)
    let storageOver :=
      decide (usage .hostingDatabaseStorageGb + requestedBytes > limits.databaseStorageBytes)
    if !countOver && !storageOver then (true, "within plan")
    else
      let countPriced := !countOver || decide (plan.overageMinor .hostingDatabaseCount > 0)
      let storagePriced :=
        !storageOver || decide (plan.overageMinor .hostingDatabaseStorageGb > 0)
      if plan.allowMeteredOverages && countPriced && storagePriced then
        (true, "metered overage")
      else if countOver then
        (false, "Hosted database count limit reached")
      else (false, "Hosted database storage limit reached")

def sourceAllocationAllowed (requestedBytes : ℤ) : Bool × String :=
  match state.meteredPlan tenantId with
  | none => (false, "Organization has no active hosting package")
  | some plan =>
    let limits := effectiveLimits plan
    let isOver :=
      decide (usage .hostingSourceStorageGb + requestedBytes > limits.sourceStorageBytes)
    if !isOver then (true, "within plan")
    else if plan.allowMeteredOverages && decide (plan.overageMinor .hostingSourceStorageGb > 0) then
      (true, "metered overage")
    else (false, "Hosted source storage limit reached")

end BillingState

/-- An allocation, by the function that decides on it. -/
inductive Allocation where
  | resource (name : String) (requestedBytes : ℕ)
  | database (requestedMb : ℕ)
  | source (requestedBytes : ℕ)

def countOf : String → Option OverageMetric
  | "domain" => some .domains
  | "mailbox" => some .mailboxes
  | "api_key" => some .apiKeys
  | "hosting_project" => some .hostedProjects
  | "hosting_database" => some .hostingDatabaseCount
  | _ => none

def storageOf : String → Option OverageMetric
  | "mailbox" | "storage" => some .storageGb
  | "hosting_project" | "hosting_storage" => some .hostingStorageGb
  | "hosting_database" | "hosting_database_storage" => some .hostingDatabaseStorageGb
  | "hosting_source_storage" => some .hostingSourceStorageGb
  | _ => none

def Allocation.adds : Allocation → OverageMetric → ℤ
  | .resource name requested, metric =>
    if countOf name = some metric then 1
    else if storageOf name = some metric then requested
    else 0
  | .database _, .hostingDatabaseCount => 1
  | .database requestedMb, .hostingDatabaseStorageGb => requestedMb * mebibyte
  | .source requested, .hostingSourceStorageGb => requested
  | _, _ => 0

namespace BillingState

def permits (state : BillingState) (tenantId : ℕ) (usage : TenantUsage)
    (now : ℤ) : Allocation → Option String
  | .resource name requested =>
    match state.entitlementDecision tenantId name requested now usage with
    | .ok decision => if decision.allowed then some decision.reason else none
    | .error _ => none
  | .database requestedMb =>
    let (allowed, reason) := state.databaseAllocationAllowed tenantId usage requestedMb
    if allowed then some reason else none
  | .source requested =>
    let (allowed, reason) := state.sourceAllocationAllowed tenantId usage requested
    if allowed then some reason else none

def Serves (state : BillingState) (tenantId : ℕ) (plan : BillingPlan) : Prop :=
  ∃ subscription, state.subscriptionOf tenantId = some subscription ∧
    state.plan? subscription.planId = some plan

end BillingState

/-- A history of permitted allocations on a plan, with the usage that it
results in and whether each of them was within the plan. -/
inductive Admitted (tenantId : ℕ) (plan : BillingPlan) : List Allocation → TenantUsage → Bool → Prop
  | start : Admitted tenantId plan [] (fun _ => 0) true
  | next {history : List Allocation} {usage : TenantUsage} {within : Bool}
      {state : BillingState} {now : ℤ} {allocation : Allocation}
      {reason : String} (before : Admitted tenantId plan history usage within)
      (serves : state.Serves tenantId plan)
      (permitted : state.permits tenantId usage now allocation = some reason) :
      Admitted tenantId plan (history ++ [allocation])
        (fun metric => usage metric + allocation.adds metric)
        (within && decide (reason = "within plan"))

/-- The overage lists nothing unpriced, and nothing at all after a history
within the plan. -/
def OverageAgrees (plan : BillingPlan) (usage : TenantUsage) (within : Bool) : Prop :=
  unpricedMetrics plan usage = [] ∧ (within = true →
      calculateOverage plan usage = 0 ∧ overageItems plan usage = [])

def BillingPlan.FallsBack (plan : BillingPlan) : OverageMetric → Prop
  | .hostingDatabaseCount => plan.limit .hostingDatabaseCount < (effectiveLimits plan).databaseCount
  | .hostingDatabaseStorageGb =>
    plan.limit .hostingDatabaseStorageGb < (effectiveLimits plan).databaseStorageBytes
  | .hostingSourceStorageGb =>
    plan.limit .hostingSourceStorageGb < (effectiveLimits plan).sourceStorageBytes
  | _ => False

variable {plan : BillingPlan} {usage : TenantUsage} {metric : OverageMetric}

theorem overUnits_eq_zero : plan.overUnits usage metric = 0 ↔ usage metric ≤ plan.limit metric := by
  unfold BillingPlan.overUnits billableUnits
  dsimp only
  split
  · omega
  · split
    · rename_i extra
      have positive : 0 < max 0 (usage metric - plan.limit metric) := by omega
      have units : 1 ≤ (max 0 (usage metric - plan.limit metric) + gibibyte - 1) / gibibyte := by
        unfold gibibyte
        omega
      omega
    · omega

theorem limit_nonneg (capacities : ∀ field, 0 ≤ plan.capacity field)
    (metric : OverageMetric) : 0 ≤ plan.limit metric := by
  unfold BillingPlan.limit mebibyte
  split
  all_goals
    have notNegative := capacities
    first
    | exact notNegative _
    | exact mul_nonneg (notNegative _) (by decide)

theorem mem_overageMetrics (metric : OverageMetric) : metric ∈ overageMetrics := by
  cases metric <;> decide

theorem unpricedMetrics_eq_nil : unpricedMetrics plan usage = [] ↔
      ∀ metric, plan.limit metric < usage metric →
        plan.allowMeteredOverages = true → 0 < plan.overageMinor metric := by
  unfold unpricedMetrics
  rw [List.filter_eq_nil_iff]
  constructor
  · intro none metric isOver metered
    have here := none metric (mem_overageMetrics metric)
    simp only [decide_eq_true_eq, ne_eq, overUnits_eq_zero, not_and, not_le] at here
    exact here isOver metered
  · intro priced metric _
    simp only [decide_eq_true_eq, ne_eq, overUnits_eq_zero, not_and, not_le]
    exact priced metric

theorem overageItems_eq_nil : overageItems plan usage = [] ↔
      ∀ metric, usage metric ≤ plan.limit metric := by
  unfold overageItems
  rw [List.filterMap_eq_nil_iff]
  constructor
  · intro none metric
    have here := none metric (mem_overageMetrics metric)
    dsimp only at here
    split at here
    · cases here
    · rename_i units
      exact overUnits_eq_zero.mp (not_not.mp units)
  · intro within metric _
    exact if_neg (not_not.mpr (overUnits_eq_zero.mpr (within metric)))

theorem calculateOverage_eq_sum : calculateOverage plan usage =
      ((overageItems plan usage).map fun item => item.amountMinor).sum := by
  unfold calculateOverage overageItems
  induction overageMetrics with
  | nil => rfl
  | cons metric metrics ih =>
    rw [List.map_cons, List.sum_cons, ih, List.filterMap_cons]
    unfold BillingPlan.overUnits
    dsimp only
    by_cases none : billableUnits (usage metric) (plan.limit metric)
        metric.bytesToGb = 0
    · simp [none]
    · simp [none]

variable {requested : ℤ} {name : String}

theorem withinPlan_limits (within : withinPlan plan usage requested name = some true) :
    (∀ metric, countOf name = some metric → usage metric + 1 ≤ plan.limit metric) ∧
    ∀ metric, storageOf name = some metric → usage metric + requested ≤ plan.limit metric := by
  unfold withinPlan at within
  split at within <;>
    simp_all [countOf, storageOf]

theorem canMeterResource_limits (metered : canMeterResource plan usage requested name = true) :
    plan.allowMeteredOverages = true ∧ (∀ metric, countOf name = some metric →
      usage metric + 1 ≤ plan.limit metric ∨ 0 < plan.overageMinor metric) ∧
    ∀ metric, storageOf name = some metric → usage metric + requested ≤ plan.limit metric ∨
        0 < plan.overageMinor metric := by
  unfold canMeterResource at metered
  rw [Bool.and_eq_true] at metered
  obtain ⟨on, metered⟩ := metered
  refine ⟨on, ?_⟩
  split at metered <;>
    simp only [meters, Bool.and_eq_true, Bool.or_eq_true, decide_eq_true_eq,
      reduceCtorEq] at metered <;>
    simp_all [countOf, storageOf]

theorem resource_adds {requested : ℕ} (bound : OverageMetric → ℤ → Prop)
    (count : ∀ metric, countOf name = some metric → bound metric 1)
    (storage : ∀ metric, storageOf name = some metric → bound metric requested)
    (asked : (Allocation.resource name requested).adds metric ≠ 0) :
    bound metric ((Allocation.resource name requested).adds metric) := by
  unfold Allocation.adds at asked ⊢
  dsimp only at asked ⊢
  split
  · rename_i counted
    exact count metric counted
  · rename_i uncounted
    rw [if_neg uncounted] at asked
    split
    · rename_i stored
      exact storage metric stored
    · rename_i unstored
      rw [if_neg unstored] at asked
      exact absurd rfl asked

structure Keeps (plan : BillingPlan) (usage : TenantUsage)
    (allocation : Allocation) (reason : String) : Prop where
  within : reason = "within plan" → ∀ metric, ¬ plan.FallsBack metric → allocation.adds metric ≠ 0 →
      usage metric + allocation.adds metric ≤ plan.limit metric
  metered : reason ≠ "within plan" → plan.allowMeteredOverages = true ∧
    ∀ metric, ¬ plan.FallsBack metric → allocation.adds metric ≠ 0 →
      usage metric + allocation.adds metric ≤ plan.limit metric ∨ 0 < plan.overageMinor metric

variable {state : BillingState} {tenantId : ℕ} {now : ℤ} {reason : String}

theorem entitlementDecision_allowed
    {decision : EntitlementDecision} (serves : state.Serves tenantId plan)
    (decided : state.entitlementDecision tenantId name requested now usage =
      .ok decision) (allowed : decision.allowed = true) :
    withinPlan plan usage requested name = some true ∧ decision.reason = "within plan" ∨
      canMeterResource plan usage requested name = true ∧ decision.reason = "metered overage" := by
  obtain ⟨subscription, found, planFound⟩ := serves
  unfold BillingState.entitlementDecision at decided
  rw [found] at decided
  dsimp only at decided
  rw [planFound] at decided
  split at decided
  · cases decided
    cases allowed
  · rename_i active
    cases (Option.filter_eq_some_iff.mp active).1
    split at decided
    · cases decided
      cases allowed
    · split at decided
      · cases decided
        cases allowed
      · split at decided
        · cases decided
        · rename_i within
          cases decided
          exact .inl ⟨within, rfl⟩
        · split at decided
          · rename_i metered
            cases decided
            exact .inr ⟨metered, rfl⟩
          · cases decided
            cases allowed

theorem resource_keeps {requested : ℕ} (serves : state.Serves tenantId plan)
    (permitted : state.permits tenantId usage now (.resource name requested) = some reason) :
    Keeps plan usage (.resource name requested) reason := by
  unfold BillingState.permits at permitted
  dsimp only at permitted
  split at permitted
  · rename_i decision decided
    split at permitted
    · rename_i allowed
      cases permitted
      rcases entitlementDecision_allowed serves decided allowed with
        ⟨within, same⟩ | ⟨metered, same⟩
      · obtain ⟨count, storage⟩ := withinPlan_limits within
        refine ⟨fun _ metric _ asked => ?_, fun other => absurd same other⟩
        exact resource_adds (fun metric added =>
          usage metric + added ≤ plan.limit metric) count storage asked
      · obtain ⟨on, count, storage⟩ := canMeterResource_limits metered
        refine ⟨fun isWithin => ?_, fun _ => ⟨on, fun metric _ asked => ?_⟩⟩
        · rw [same] at isWithin
          exact absurd isWithin (by decide)
        · exact resource_adds (fun metric added =>
            usage metric + added ≤ plan.limit metric ∨
              0 < plan.overageMinor metric) count storage asked
    · cases permitted
  · cases permitted

theorem meteredPlan_of_serves {found : BillingPlan} (serves : state.Serves tenantId plan)
    (metered : state.meteredPlan tenantId = some found) : found = plan := by
  obtain ⟨subscription, here, planFound⟩ := serves
  unfold BillingState.meteredPlan at metered
  rw [here, Option.bind_some, planFound] at metered
  exact (Option.some.inj (Option.filter_eq_some_iff.mp metered).1).symm

theorem databaseAllocationAllowed_spec {requestedMb : ℤ} (serves : state.Serves tenantId plan)
    (allowed : state.databaseAllocationAllowed tenantId usage requestedMb = (true, reason)) :
    reason = "within plan" ∧ usage .hostingDatabaseCount + 1 ≤
          (effectiveLimits plan).databaseCount ∧
        usage .hostingDatabaseStorageGb + requestedMb * mebibyte ≤
          (effectiveLimits plan).databaseStorageBytes ∨
      reason = "metered overage" ∧ plan.allowMeteredOverages = true ∧
        (usage .hostingDatabaseCount + 1 ≤ (effectiveLimits plan).databaseCount ∨
          0 < plan.overageMinor .hostingDatabaseCount) ∧
        (usage .hostingDatabaseStorageGb + requestedMb * mebibyte ≤
            (effectiveLimits plan).databaseStorageBytes ∨
          0 < plan.overageMinor .hostingDatabaseStorageGb) := by
  unfold BillingState.databaseAllocationAllowed at allowed
  split at allowed
  · cases allowed
  · rename_i found metered
    cases meteredPlan_of_serves serves metered
    dsimp only at allowed
    split_ifs at allowed with under priced
    · cases allowed
      simp only [Bool.and_eq_true, Bool.not_eq_true', decide_eq_false_iff_not,
        not_lt, gt_iff_lt] at under
      exact .inl ⟨rfl, under⟩
    · cases allowed
      simp only [Bool.and_eq_true, Bool.or_eq_true, Bool.not_eq_true',
        decide_eq_false_iff_not, decide_eq_true_eq, not_lt, gt_iff_lt] at priced
      exact .inr ⟨rfl, priced.1.1, priced.1.2, priced.2⟩
    · cases allowed
    · cases allowed

theorem database_keeps {requestedMb : ℕ} (serves : state.Serves tenantId plan)
    (permitted : state.permits tenantId usage now (.database requestedMb) =
      some reason) : Keeps plan usage (.database requestedMb) reason := by
  have allowed : state.databaseAllocationAllowed tenantId usage requestedMb = (true, reason) := by
    unfold BillingState.permits at permitted
    dsimp only at permitted
    split at permitted
    · rename_i isAllowed
      exact Prod.ext isAllowed (Option.some.inj permitted)
    · cases permitted
  rcases databaseAllocationAllowed_spec serves allowed with
    ⟨rfl, count, storage⟩ | ⟨rfl, on, count, storage⟩
  · refine ⟨fun _ metric bounded asked => ?_, fun other => absurd rfl other⟩
    cases metric <;> simp only [Allocation.adds, ne_eq, not_true_eq_false,
      BillingPlan.FallsBack, not_lt] at asked bounded ⊢
    · exact count.trans bounded
    · exact storage.trans bounded
  · refine ⟨fun same => absurd same (by decide), fun _ => ⟨on, fun metric bounded asked => ?_⟩⟩
    cases metric <;> simp only [Allocation.adds, ne_eq, not_true_eq_false,
      BillingPlan.FallsBack, not_lt] at asked bounded ⊢
    · exact count.imp_left fun here => here.trans bounded
    · exact storage.imp_left fun here => here.trans bounded

theorem sourceAllocationAllowed_spec (serves : state.Serves tenantId plan)
    (allowed : state.sourceAllocationAllowed tenantId usage requested = (true, reason)) :
    reason = "within plan" ∧ usage .hostingSourceStorageGb + requested ≤
          (effectiveLimits plan).sourceStorageBytes ∨
      reason = "metered overage" ∧ plan.allowMeteredOverages = true ∧
        0 < plan.overageMinor .hostingSourceStorageGb := by
  unfold BillingState.sourceAllocationAllowed at allowed
  split at allowed
  · cases allowed
  · rename_i found metered
    cases meteredPlan_of_serves serves metered
    dsimp only at allowed
    split_ifs at allowed with under priced
    · cases allowed
      simp only [Bool.not_eq_true', decide_eq_false_iff_not, not_lt, gt_iff_lt] at under
      exact .inl ⟨rfl, under⟩
    · cases allowed
      simp only [Bool.and_eq_true, decide_eq_true_eq, gt_iff_lt] at priced
      exact .inr ⟨rfl, priced⟩
    · cases allowed

theorem source_keeps {requested : ℕ} (serves : state.Serves tenantId plan)
    (permitted : state.permits tenantId usage now (.source requested) =
      some reason) : Keeps plan usage (.source requested) reason := by
  have allowed : state.sourceAllocationAllowed tenantId usage requested = (true, reason) := by
    unfold BillingState.permits at permitted
    dsimp only at permitted
    split at permitted
    · rename_i isAllowed
      exact Prod.ext isAllowed (Option.some.inj permitted)
    · cases permitted
  rcases sourceAllocationAllowed_spec serves allowed with
    ⟨rfl, under⟩ | ⟨rfl, on, priced⟩
  · refine ⟨fun _ metric bounded asked => ?_, fun other => absurd rfl other⟩
    cases metric <;> simp only [Allocation.adds, ne_eq, not_true_eq_false,
      BillingPlan.FallsBack, not_lt] at asked bounded ⊢
    exact under.trans bounded
  · refine ⟨fun same => absurd same (by decide), fun _ => ⟨on, fun metric bounded asked => ?_⟩⟩
    cases metric <;> simp only [Allocation.adds, ne_eq, not_true_eq_false] at asked ⊢
    exact .inr priced

theorem permits_keeps {allocation : Allocation} (serves : state.Serves tenantId plan)
    (permitted : state.permits tenantId usage now allocation = some reason) :
    Keeps plan usage allocation reason := by
  cases allocation with
  | resource name requested => exact resource_keeps serves permitted
  | database requestedMb => exact database_keeps serves permitted
  | source requested => exact source_keeps serves permitted

theorem Allocation.adds_nonneg (allocation : Allocation)
    (metric : OverageMetric) : 0 ≤ allocation.adds metric := by
  unfold Allocation.adds mebibyte
  split <;> positivity

structure Accounted (plan : BillingPlan) (history : List Allocation)
    (usage : TenantUsage) (within : Bool) : Prop where
  asked : ∀ metric, usage metric = (history.map fun allocation => allocation.adds metric).sum
  metered : within = false → plan.allowMeteredOverages = true
  bounded : ∀ metric, ¬ plan.FallsBack metric → usage metric ≤ plan.limit metric ∨
      within = false ∧ 0 < plan.overageMinor metric

theorem Admitted.accounted {history : List Allocation} {within : Bool}
    (limits : ∀ metric, 0 ≤ plan.limit metric)
    (admitted : Admitted tenantId plan history usage within) :
    Accounted plan history usage within := by
  induction admitted with
  | start =>
    refine ⟨fun metric => rfl, fun metered => absurd metered (by decide),
      fun metric _ => .inl (limits metric)⟩
  | @next history usage within state now allocation reason before serves permitted ih =>
    have keeps := permits_keeps serves permitted
    refine ⟨?_, ?_, ?_⟩
    · intro metric
      rw [List.map_append, List.sum_append, ← ih.asked metric]
      simp
    · intro left
      rw [Bool.and_eq_false_iff] at left
      rcases left with earlier | here
      · exact ih.metered earlier
      · exact (keeps.metered (of_decide_eq_false here)).1
    · intro metric bounded
      rcases eq_or_ne (allocation.adds metric) 0 with nothing | asked
      · rw [nothing, add_zero]
        refine (ih.bounded metric bounded).imp_right fun earlier => ?_
        exact ⟨by rw [earlier.1, Bool.false_and], earlier.2⟩
      · by_cases here : reason = "within plan"
        · exact .inl (keeps.within here metric bounded asked)
        · have left : (within && decide (reason = "within plan")) = false := by
            rw [decide_eq_false here, Bool.and_false]
          exact ((keeps.metered here).2 metric bounded asked).imp_right
            fun priced => ⟨left, priced⟩

/-- A fallback is not made use of, or what it allows is priced and part of a
history that is not within the plan. -/
def FallbackPriced (plan : BillingPlan) (history : List Allocation) (within : Bool) : Prop :=
  ∀ metric, plan.FallsBack metric → (∀ allocation ∈ history, allocation.adds metric = 0) ∨
      plan.allowMeteredOverages = true ∧ 0 < plan.overageMinor metric ∧ within = false

theorem BillingPlan.FallsBack.limit_eq_zero (limits : ∀ metric, 0 ≤ plan.limit metric)
    (fallsBack : plan.FallsBack metric) : plan.limit metric = 0 := by
  have notNegative := limits metric
  have kept {value fallback : ℤ} (limit : 0 ≤ value)
      (more : value < max 0 (orElse value fallback)) : value = 0 := by
    unfold orElse at more
    split at more
    · omega
    · omega
  unfold BillingPlan.FallsBack effectiveLimits at fallsBack
  cases metric <;> simp only [BillingPlan.limit, mebibyte] at *
  · split at fallsBack
    · dsimp only at fallsBack
      omega
    · exact kept notNegative fallsBack
  · split at fallsBack
    · dsimp only at fallsBack
      omega
    · rw [kept (by omega) (lt_of_mul_lt_mul_right fallsBack (by decide)), zero_mul]
  · split at fallsBack
    · dsimp only at fallsBack
      omega
    · rw [kept (by omega) (lt_of_mul_lt_mul_right fallsBack (by decide)), zero_mul]

/-- The overage agrees with a permitted history if and only if no fallback is
made use of, but where it is priced and the history is not within the plan. -/
theorem overageAgrees_iff {history : List Allocation} {within : Bool}
    (capacities : ∀ field, 0 ≤ plan.capacity field)
    (admitted : Admitted tenantId plan history usage within) : OverageAgrees plan usage within ↔
      FallbackPriced plan history within := by
  have limits := limit_nonneg capacities
  have accounted := admitted.accounted limits
  unfold OverageAgrees
  rw [unpricedMetrics_eq_nil]
  constructor
  · rintro ⟨priced, nothing⟩ metric fallsBack
    have limit := fallsBack.limit_eq_zero limits
    by_cases used : ∀ allocation ∈ history, allocation.adds metric = 0
    · exact .inl used
    · right
      have isOver : plan.limit metric < usage metric := by
        rw [limit, accounted.asked metric]
        refine lt_of_le_of_ne (List.sum_nonneg ?_) ?_
        · intro added member
          obtain ⟨allocation, _, rfl⟩ := List.mem_map.mp member
          exact allocation.adds_nonneg metric
        · intro none
          refine used fun allocation member => ?_
          refine List.all_zero_of_le_zero_le_of_sum_eq_zero ?_ none.symm
            (List.mem_map_of_mem member)
          intro added addedMem
          obtain ⟨other, _, rfl⟩ := List.mem_map.mp addedMem
          exact other.adds_nonneg metric
      have left : within = false := by
        rw [← Bool.not_eq_true]
        intro all
        exact absurd (overageItems_eq_nil.mp (nothing all).2 metric) (not_le.mpr isOver)
      have on := accounted.metered left
      exact ⟨on, priced metric isOver on, left⟩
  · intro fallback
    have bounded (metric : OverageMetric) : usage metric ≤ plan.limit metric ∨
          within = false ∧ 0 < plan.overageMinor metric := by
      by_cases fallsBack : plan.FallsBack metric
      · rcases fallback metric fallsBack with unused | ⟨_, priced, left⟩
        · left
          rw [accounted.asked metric, List.map_congr_left unused]
          simpa using limits metric
        · exact .inr ⟨left, priced⟩
      · exact accounted.bounded metric fallsBack
    refine ⟨?_, ?_⟩
    · intro metric isOver _
      rcases bounded metric with under | ⟨_, priced⟩
      · exact absurd isOver (not_lt.mpr under)
      · exact priced
    · intro all
      have nothing : overageItems plan usage = [] := by
        refine overageItems_eq_nil.mpr fun metric => ?_
        rcases bounded metric with under | ⟨left, _⟩
        · exact under
        · rw [all] at left
          cases left
      refine ⟨?_, nothing⟩
      rw [calculateOverage_eq_sum, nothing]
      rfl

/-- A plan with one project, whose databases have no limits of their own. -/
def projectPlan : BillingPlan where
  id := 3
  code := "basic"
  name := "Basic"
  monthlyPriceMinor := 1000
  capacity
    | .includedDomains => 2
    | .includedHostedProjects => 1
    | .hostingStorageMb => 1024
    | _ => 0
  allowMeteredOverages := true

def projectTenant : BillingState where
  plans := [projectPlan]
  subscriptions :=
    [{ id := 2
       tenantId := 1
       planId := 3
       status := .active
       currentPeriodStart := 0
       currentPeriodEnd := 10 }]

theorem projectTenant_serves : projectTenant.Serves 1 projectPlan := ⟨_, rfl, rfl⟩

theorem projectPlan_capacities (field : CapacityField) : 0 ≤ projectPlan.capacity field := by
  cases field <;> decide

theorem domain_admitted : Admitted 1 projectPlan [.resource "domain" 0]
      (fun metric => 0 + (Allocation.resource "domain" 0).adds metric) true :=
  .next .start projectTenant_serves (rfl : projectTenant.permits 1 _ 0 (.resource "domain" 0) =
      some "within plan")

theorem overageAgrees_domain : OverageAgrees projectPlan
      (fun metric => 0 + (Allocation.resource "domain" 0).adds metric) true := by
  refine (overageAgrees_iff projectPlan_capacities domain_admitted).mpr ?_
  intro metric fallsBack
  left
  intro allocation member
  rw [List.mem_singleton.mp member]
  cases metric <;> first | rfl | exact fallsBack.elim

/-- A database is admitted within the plan, and its count and its storage are
over the limits and unpriced. -/
theorem database_unpriced : Admitted 1 projectPlan [.database 128]
        (fun metric => 0 + (Allocation.database 128).adds metric) true ∧ unpricedMetrics projectPlan
        (fun metric => 0 + (Allocation.database 128).adds metric) =
          [.hostingDatabaseCount, .hostingDatabaseStorageGb] ∧
      ((overageItems projectPlan fun metric =>
        0 + (Allocation.database 128).adds metric).map fun item =>
          (item.metric, item.units)) =
        [(.hostingDatabaseCount, 1), (.hostingDatabaseStorageGb, 1)] ∧ ¬ OverageAgrees projectPlan
        (fun metric => 0 + (Allocation.database 128).adds metric) true := by
  refine ⟨.next .start projectTenant_serves
    (rfl : projectTenant.permits 1 _ 0 (.database 128) =
      some "within plan"), by decide, by decide, ?_⟩
  intro agrees
  exact absurd agrees.1 (by decide)

end Ithute.Billing
