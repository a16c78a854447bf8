import Ithute.Library.TransitionRuns
import Ithute.BillingVisits

/-!
# Canceled subscriptions

A visit looks at the dates, the contract and the invoice before the status,
so that a canceled subscription whose period is over is renewed, or gets a
new grace period.
-/

namespace Ithute.Billing

open TransitionRuns OwnedRows

structure EntitlementDecision where
  allowed : Bool
  reason : String
  meteredOverage : Bool := false

/-- The checks of `entitlement_decision`. -/
def withinPlan (plan : BillingPlan) (usage : TenantUsage) (requested : ℤ) : String → Option Bool
  | "domain" => some (decide (usage .domains + 1 ≤ plan.limit .domains))
  | "mailbox" => some (decide (usage .mailboxes + 1 ≤ plan.limit .mailboxes ∧
        usage .storageGb + requested ≤ plan.limit .storageGb))
  | "storage" => some (decide (usage .storageGb + requested ≤ plan.limit .storageGb))
  | "api_key" => some (decide (usage .apiKeys + 1 ≤ plan.limit .apiKeys))
  | "hosting_project" => some (decide (plan.limit .hostedProjects > 0 ∧
        usage .hostedProjects + 1 ≤ plan.limit .hostedProjects ∧
        usage .hostingStorageGb + requested ≤ plan.limit .hostingStorageGb))
  | "hosting_storage" => some (decide
      (usage .hostingStorageGb + requested ≤ plan.limit .hostingStorageGb))
  | "hosting_database" => some (decide
      (usage .hostingDatabaseCount + 1 ≤ plan.limit .hostingDatabaseCount ∧
        usage .hostingDatabaseStorageGb + requested ≤ plan.limit .hostingDatabaseStorageGb))
  | "hosting_database_storage" => some (decide (usage .hostingDatabaseStorageGb + requested ≤
        plan.limit .hostingDatabaseStorageGb))
  | "hosting_source_storage" => some (decide (usage .hostingSourceStorageGb + requested ≤
        plan.limit .hostingSourceStorageGb))
  | _ => none

def meters (plan : BillingPlan) (usage : TenantUsage) (requested : ℤ)
    (count storage : OverageMetric) : Bool :=
  (decide (usage count + 1 ≤ plan.limit count) || decide (plan.overageMinor count > 0)) &&
    (decide (usage storage + requested ≤ plan.limit storage) ||
      decide (plan.overageMinor storage > 0))

def canMeterResource (plan : BillingPlan) (usage : TenantUsage)
    (requested : ℤ) (resource : String) : Bool :=
  plan.allowMeteredOverages && match resource with
    | "domain" => decide (plan.overageMinor .domains > 0)
    | "api_key" => decide (plan.overageMinor .apiKeys > 0)
    | "storage" => decide (plan.overageMinor .storageGb > 0)
    | "hosting_storage" => decide (plan.overageMinor .hostingStorageGb > 0)
    | "hosting_database_storage" => decide (plan.overageMinor .hostingDatabaseStorageGb > 0)
    | "hosting_source_storage" => decide (plan.overageMinor .hostingSourceStorageGb > 0)
    | "mailbox" => meters plan usage requested .mailboxes .storageGb
    | "hosting_project" => meters plan usage requested .hostedProjects .hostingStorageGb
    | "hosting_database" =>
      meters plan usage requested .hostingDatabaseCount .hostingDatabaseStorageGb
    | _ => false

namespace BillingState

def entitlementDecision (state : BillingState) (tenantId : ℕ)
    (resource : String) (requested now : ℤ) (usage : TenantUsage) :
    Except String EntitlementDecision :=
  match state.subscriptionOf tenantId with
  | none => .ok { allowed := false, reason := "No active subscription" }
  | some subscription =>
    match (state.plan? subscription.planId).filter fun plan =>
        plan.isActive with
    | none =>
      .ok { allowed := false, reason := "Billing plan is unavailable" }
    | some plan =>
      if subscription.status = .canceled then
        .ok { allowed := false, reason := "Subscription is canceled" }
      else if subscription.status = .pastDue ∧
          ∀ graceEndsAt ∈ subscription.graceEndsAt, graceEndsAt ≤ now then
        .ok
          { allowed := false
            reason := "Payment grace period has expired" }
      else
        match withinPlan plan usage requested resource with
        | none =>
          .error ("Unknown entitlement resource: " ++ resource)
        | some true => .ok { allowed := true, reason := "within plan" }
        | some false =>
          if canMeterResource plan usage requested resource then
            .ok
              { allowed := true
                reason := "metered overage"
                meteredOverage := true }
          else
            .ok
              { allowed := false
                reason := resource ++ " entitlement limit reached" }

variable {state before middle after : BillingState}
variable {tenantId freshId : ℕ} {subscription : TenantSubscription}
variable {contract : BillingContract} {now : ℤ} {usage : TenantUsage}

theorem entitlementDecision_canceled {resource : String} {requested : ℤ}
    {decision : EntitlementDecision} (keyed : state.Keyed)
    (member : subscription ∈ state.subscriptions) (canceled : subscription.status = .canceled)
    (decided : state.entitlementDecision subscription.tenantId resource
      requested now usage = .ok decision) : decision.allowed = false := by
  unfold entitlementDecision at decided
  rw [keyed.subscriptionOf member] at decided
  dsimp only at decided
  split at decided
  · cases decided
    rfl
  · rw [if_pos canceled] at decided
    cases decided
    rfl

/-- The period of a subscription is over, and nothing but its status keeps it
from being renewed. -/
def Leaves (state : BillingState) (row : TenantSubscription) (now : ℤ) : Prop :=
  row.currentPeriodEnd ≤ now ∧ row.cancelAtPeriodEnd = false ∧
    ∀ contract, state.contractOf row.tenantId = some contract → contract.autoRenew = true

theorem beginVisit_autoRenew (state : BillingState) (subscription : TenantSubscription) :
    (state.beginVisit subscription).2.1.autoRenew = true ↔
      ∀ contract, state.contractOf subscription.tenantId = some contract →
        contract.autoRenew = true := by
  have same : (state.beginVisit subscription).2.1.autoRenew =
      (state.getOrCreateContract subscription.tenantId).2.autoRenew := by
    unfold beginVisit
    dsimp only
    split <;> rfl
  rw [same]
  unfold getOrCreateContract
  split
  · rename_i contract found
    constructor
    · intro renews other otherFound
      cases found.symm.trans otherFound
      exact renews
    · exact fun renews => renews contract found
  · rename_i missing
    refine ⟨fun _ contract found => ?_, fun _ => rfl⟩
    rw [missing] at found
    cases found

theorem invoiceDue_canceled {invoice : Option BillingInvoice}
    (canceled : subscription.status = .canceled) :
    invoiceDue contract subscription invoice now = false := by
  unfold invoiceDue
  rw [canceled]
  simp

variable {counters : CycleCounters}

theorem finishVisit_canceled {invoice : Option BillingInvoice}
    {counted : CycleCounters} (keyed : state.Keyed)
    (member : subscription ∈ state.subscriptions) (canceled : subscription.status = .canceled)
    (finished : state.finishVisit subscription contract invoice now usage
      freshId counters = .ok (after, counted)) :
    ∃ later ∈ after.subscriptions, later.id = subscription.id ∧
      (subscription.currentPeriodEnd ≤ now ∧ subscription.cancelAtPeriodEnd = false ∧
            contract.autoRenew = true → later.status ≠ .canceled) ∧
      (¬ (subscription.currentPeriodEnd ≤ now ∧ subscription.cancelAtPeriodEnd = false ∧
            contract.autoRenew = true) → later = subscription) := by
  unfold finishVisit at finished
  split at finished
  · rename_i early
    cases finished
    exact ⟨subscription, member, rfl, fun isOver => absurd isOver.1 (not_le.mpr early), fun _ => rfl⟩
  · rename_i isOver
    rw [not_lt] at isOver
    split at finished
    · rename_i ends
      cases finished
      refine ⟨_, mem_writeSubscription member rfl, rfl, ?_, ?_⟩
      · rintro ⟨_, stays, renews⟩
        rw [stays, renews] at ends
        simp at ends
      · intro _
        rw [← canceled]
    · rename_i renews
      rw [not_or, Bool.not_eq_true, Bool.not_eq_false] at renews
      have leaves : subscription.currentPeriodEnd ≤ now ∧ subscription.cancelAtPeriodEnd = false ∧
            contract.autoRenew = true := ⟨isOver, renews⟩
      split at finished
      · split at finished
        · cases finished
        · rename_i changed planChanged ended changes
          obtain ⟨current, found, currentMem, sameId, _⟩ :=
            (applyPeriodEndChanges_only keyed member changes).subscriptionOf keyed member
          cases finished
          rw [found, Option.getD_some]
          refine ⟨current.renewed contract.billingInterval,
            mem_writeSubscription currentMem rfl, sameId, ?_, fun stays => absurd leaves stays⟩
          intro _ still
          cases still
      · split at finished
        · cases finished
          refine ⟨_, mem_writeSubscription member rfl, rfl, ?_, fun stays => absurd leaves stays⟩
          intro _ still
          cases still
        · rename_i pastDue
          rw [not_not, canceled] at pastDue
          cases pastDue

theorem visit_canceled {inputs : VisitInputs} {counted : CycleCounters} (keyed : state.Keyed)
    (member : subscription ∈ state.subscriptions) (canceled : subscription.status = .canceled)
    (visited : state.visit subscription.id now inputs counters = .ok (after, counted)) :
    ∃ later ∈ after.subscriptions, later.id = subscription.id ∧
      (state.Leaves subscription now → later.status ≠ .canceled) ∧
      (¬ state.Leaves subscription now → later = subscription) := by
  have begun := beginVisit_only state subscription
  have begunMem : subscription ∈ (state.beginVisit subscription).1.subscriptions := by
    rw [beginVisit_subscriptions]
    exact member
  unfold visit at visited
  rw [keyed.subscription? member] at visited
  dsimp only at visited
  rw [invoiceDue_canceled canceled] at visited
  unfold Leaves
  rw [← beginVisit_autoRenew]
  exact finishVisit_canceled (begun.keyed keyed) begunMem canceled visited

/-- The passes of the cycle, and whatever else happens between them. -/
inductive CycleAction where
  | pass (now : ℤ) (inputs : ℕ → VisitInputs)
  | other (rows : BillingState)

def CyclePerforms (before : BillingState) (action : CycleAction) (after : BillingState) : Prop :=
  match action with
  | .pass now inputs => ∃ counters, before.runBillingCycle now inputs = .ok (after, counters)
  | .other rows => rows.Keyed ∧ after = rows

/-- A canceled subscription is the same after a pass, and its tenant is
entitled to nothing. -/
def KeepsCanceled (before : BillingState) (action : CycleAction) (after : BillingState) : Prop :=
  match action with
  | .pass _ _ => ∀ row ∈ before.subscriptions, row.status = .canceled →
      (∃ later ∈ after.subscriptions, later.id = row.id ∧ later.status = .canceled ∧
        later.currentPeriodStart = row.currentPeriodStart ∧
        later.currentPeriodEnd = row.currentPeriodEnd) ∧
      ∀ resource requested now usage decision,
        after.entitlementDecision row.tenantId resource requested now
          usage = .ok decision → decision.allowed = false
  | .other _ => True

/-- A pass finds no canceled subscription that it takes for a running
one. -/
def FindsSettled (state : BillingState) : CycleAction → Prop
  | .pass now _ => ∀ row ∈ state.subscriptions, row.status = .canceled → ¬ state.Leaves row now
  | .other _ => True

theorem Leaves.of_contract {row : TenantSubscription} (same : after.contractOf row.tenantId =
      before.contractOf row.tenantId) : after.Leaves row now ↔ before.Leaves row now := by
  unfold Leaves
  rw [same]

/-- A pass keeps what is canceled if and only if it finds none that it takes
for a running subscription. -/
theorem pass_keepsCanceled_iff {inputs : ℕ → VisitInputs} (keyed : before.Keyed)
    (passed : before.runBillingCycle now inputs = .ok (after, counters)) :
    KeepsCanceled before (.pass now inputs) after ↔ before.FindsSettled (.pass now inputs) := by
  have keyedAfter : after.Keyed := visits_keyed keyed passed
  constructor
  · intro keeps row member canceled leaves
    obtain ⟨early, late, _, _, kept, visited, later⟩ := runBillingCycle_visit keyed member passed
    obtain ⟨changed, changedMem, same, left, _⟩ :=
      visit_canceled kept.keyed kept.member canceled visited
    obtain ⟨found, foundMem, foundId, still, _⟩ := (keeps row member canceled).1
    have final := later changed changedMem same
    have equal : found = changed :=
      List.inj_on_of_nodup_map keyedAfter.subscriptions foundMem final.member
        (foundId.trans same.symm)
    rw [equal] at still
    exact left ((Leaves.of_contract kept.contract).mpr leaves) still
  · intro settled row member canceled
    obtain ⟨early, late, _, _, kept, visited, later⟩ := runBillingCycle_visit keyed member passed
    obtain ⟨changed, changedMem, same, _, stays⟩ :=
      visit_canceled kept.keyed kept.member canceled visited
    have unchanged : changed = row := stays fun leaves =>
      settled row member canceled ((Leaves.of_contract kept.contract).mp leaves)
    have final := later changed changedMem same
    rw [unchanged] at final
    refine ⟨⟨row, final.member, rfl, canceled, rfl, rfl⟩, ?_⟩
    intro resource requested moment used decision decided
    exact entitlementDecision_canceled keyedAfter final.member canceled decided

/-- Along every run, passes keep what is canceled if and only if each finds,
among the canceled subscriptions, none whose period is over, that is not to
be canceled with its period and whose contract renews. -/
theorem run_keepsCanceled_iff (start : BillingState) (keyed : start.Keyed)
    (actions : List CycleAction) : EveryStep CyclePerforms KeepsCanceled start actions ↔
      EveryStep CyclePerforms (fun before action _ => before.FindsSettled action) start
        actions := by
  refine EveryStep.congr_of_invariant keyed ?_ ?_ (fun _ _ => True.intro)
  · intro before action after keyedBefore move _
    cases action with
    | pass now inputs =>
      obtain ⟨counters, passed⟩ := move
      exact visits_keyed keyedBefore passed
    | other rows =>
      rw [move.2]
      exact move.1
  · intro before action after keyedBefore move
    cases action with
    | pass now inputs =>
      obtain ⟨counters, passed⟩ := move
      exact pass_keepsCanceled_iff keyedBefore passed
    | other rows => exact Iff.rfl

def basicPlan : BillingPlan where
  id := 3
  code := "basic"
  name := "Basic"
  monthlyPriceMinor := 1000
  capacity _ := 5

def canceledState : BillingState where
  plans := [basicPlan]
  subscriptions :=
    [{ id := 2
       tenantId := 1
       planId := 3
       status := .canceled
       currentPeriodStart := 0
       currentPeriodEnd := 10 }]

def noInputs (_ : ℕ) : VisitInputs where
  usage _ := 0
  invoiceId := 9
  invoiceNumber := "ITH-9"
  planId := 8

theorem canceledState_keyed : canceledState.Keyed := ⟨by decide, by decide, by decide⟩

theorem run_keepsCanceled_iff_early : EveryStep CyclePerforms KeepsCanceled canceledState
      [.pass 5 noInputs] := by
  refine (run_keepsCanceled_iff canceledState canceledState_keyed _).mpr ?_
  intro front action back before after split run move
  cases front with
  | nil =>
    cases split
    cases run.eq_start
    intro row member _ leaves
    rw [List.mem_singleton.mp member] at leaves
    exact absurd leaves.1 (by decide)
  | cons head front => simp at split

/-- A pass gives a canceled subscription a grace period, and its tenant is
entitled to a domain again. -/
theorem canceled_pastDue : ∃ after counters decision,
      canceledState.runBillingCycle 20 noInputs = .ok (after, counters) ∧
      (after.subscriptions.map fun row => row.status) = [.pastDue] ∧
      after.entitlementDecision 1 "domain" 0 21 (fun _ => 0) = .ok decision ∧
      decision.allowed = true ∧ ¬ EveryStep CyclePerforms KeepsCanceled canceledState
        [.pass 20 noInputs] := by
  refine ⟨_, _, _, rfl, by decide, rfl, by decide, ?_⟩
  intro keeps
  have here := keeps [] (.pass 20 noInputs) [] _ _ rfl Run.start ⟨_, rfl⟩
  have denied := (here _ List.mem_cons_self rfl).2 "domain" 0 21 (fun _ => 0) _ rfl
  exact absurd denied (by decide)

end BillingState

end Ithute.Billing
