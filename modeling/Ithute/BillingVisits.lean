import Ithute.Library.OwnedRows
import Ithute.Library.UniqueRows
import Ithute.BillingCycle

/-!
# What a visit touches

A visit writes the rows of its own tenant: its subscription, its contract and
its add-ons.  The rows of the other tenants stay as they are.
-/

namespace Ithute.Billing

open OwnedRows

namespace BillingState

variable {state stored held before middle after : BillingState}
variable {tenantId freshId : ℕ} {subscription : TenantSubscription}
variable {contract : BillingContract} {now : ℤ} {usage : TenantUsage}

structure Keyed (state : BillingState) : Prop where
  subscriptions : (state.subscriptions.map fun row => row.id).Nodup
  tenants : (state.subscriptions.map fun row => row.tenantId).Nodup
  tenantAddons : (state.tenantAddons.map fun row => row.id).Nodup

structure TenantOnly (tenantId : ℕ) (before after : BillingState) : Prop where
  subscriptions : ChangesOnly (fun row => row.id) (fun row => row.tenantId)
    tenantId before.subscriptions after.subscriptions
  tenantAddons : ChangesOnly (fun row => row.id) (fun row => row.tenantId)
    tenantId before.tenantAddons after.tenantAddons
  contracts : ∀ other, other ≠ tenantId → after.contractOf other = before.contractOf other

namespace TenantOnly

theorem of_eq (subscriptions : after.subscriptions = before.subscriptions)
    (tenantAddons : after.tenantAddons = before.tenantAddons)
    (contracts : after.contracts = before.contracts) : TenantOnly tenantId before after where
  subscriptions := subscriptions ▸ .refl _
  tenantAddons := tenantAddons ▸ .refl _
  contracts other _ := by
    unfold contractOf
    rw [contracts]

theorem refl (state : BillingState) : TenantOnly tenantId state state := of_eq rfl rfl rfl

theorem trans (first : TenantOnly tenantId before middle)
    (second : TenantOnly tenantId middle after) : TenantOnly tenantId before after where
  subscriptions := first.subscriptions.trans second.subscriptions
  tenantAddons := first.tenantAddons.trans second.tenantAddons
  contracts other apart := (second.contracts other apart).trans (first.contracts other apart)

theorem keyed (only : TenantOnly tenantId before after) (keyed : before.Keyed) : after.Keyed where
  subscriptions := by
    rw [only.subscriptions.keys]
    exact keyed.subscriptions
  tenants := by
    rw [only.subscriptions.owners]
    exact keyed.tenants
  tenantAddons := by
    rw [only.tenantAddons.keys]
    exact keyed.tenantAddons

end TenantOnly

theorem subscriptionOf_spec (found : state.subscriptionOf tenantId = some subscription) :
    subscription ∈ state.subscriptions ∧ subscription.tenantId = tenantId :=
  UniqueRows.find?_decide found

variable {id : ℕ}

theorem subscription?_spec (found : state.subscription? id = some subscription) :
    subscription ∈ state.subscriptions ∧ subscription.id = id :=
  UniqueRows.find?_decide found

theorem contractOf_spec (found : state.contractOf tenantId = some contract) :
    contract ∈ state.contracts ∧ contract.tenantId = tenantId :=
  UniqueRows.find?_decide found

theorem Keyed.subscriptionOf (keyed : state.Keyed) (member : subscription ∈ state.subscriptions) :
    state.subscriptionOf subscription.tenantId = some subscription :=
  UniqueRows.find?_key keyed.tenants member

theorem Keyed.subscription? (keyed : state.Keyed) (member : subscription ∈ state.subscriptions) :
    state.subscription? subscription.id = some subscription :=
  UniqueRows.find?_key keyed.subscriptions member

theorem writeSubscription_only (saved : TenantSubscription)
    (keyed : state.Keyed) (member : subscription ∈ state.subscriptions)
    (sameId : saved.id = subscription.id) (sameTenant : saved.tenantId = subscription.tenantId) :
    TenantOnly subscription.tenantId state (state.writeSubscription saved) where
  subscriptions := by
    refine .map ?_
    intro row rowMem
    split
    · rename_i same
      have isSubscription : row = subscription :=
        List.inj_on_of_nodup_map keyed.subscriptions rowMem member (same.trans sameId)
      rw [isSubscription]
      exact ⟨sameId, sameTenant, fun other => absurd rfl other⟩
    · exact .refl row
  tenantAddons := .refl _
  contracts _ _ := rfl

theorem mem_writeSubscription {saved : TenantSubscription}
    (member : subscription ∈ state.subscriptions) (sameId : saved.id = subscription.id) :
    saved ∈ (state.writeSubscription saved).subscriptions :=
  List.mem_map.mpr ⟨subscription, member, if_pos sameId.symm⟩

theorem writeContract_only (contract : BillingContract) (owner : contract.tenantId = tenantId) :
    TenantOnly tenantId state (state.writeContract contract) where
  subscriptions := .refl _
  tenantAddons := .refl _
  contracts other apart := by
    rw [← owner] at apart
    have replaced := @UniqueRows.find?_replace BillingContract
      state.contracts ℕ _ (fun row => row.tenantId) contract other
    rw [if_neg apart] at replaced
    exact replaced

theorem getOrCreateContract_only (state : BillingState) (tenantId : ℕ) :
    TenantOnly tenantId state (state.getOrCreateContract tenantId).1 := by
  unfold getOrCreateContract
  split
  · exact .refl state
  · refine ⟨.refl _, .refl _, ?_⟩
    intro other apart
    unfold contractOf
    rw [List.find?_append]
    cases found : state.contracts.find? fun row =>
        decide (row.tenantId = other) with
    | none => simp [Ne.symm apart]
    | some row => simp

theorem getOrCreateContract_tenantId (state : BillingState) (tenantId : ℕ) :
    (state.getOrCreateContract tenantId).2.tenantId = tenantId := by
  unfold getOrCreateContract
  split
  · rename_i contract found
    exact (contractOf_spec found).2
  · rfl

theorem getOrCreateContract_subscriptions (state : BillingState) (tenantId : ℕ) :
    (state.getOrCreateContract tenantId).1.subscriptions = state.subscriptions := by
  unfold getOrCreateContract
  split <;> rfl

theorem mapAddons_only {write : TenantAddon → TenantAddon} (kept : ∀ row ∈ state.tenantAddons,
      KeptRow (fun row => row.id) (fun row => row.tenantId) tenantId row (write row)) :
    TenantOnly tenantId state { state with tenantAddons := state.tenantAddons.map write } where
  subscriptions := .refl _
  tenantAddons := .map kept
  contracts _ _ := rfl

theorem writeEffective_tables (state : BillingState) (base : BillingPlan)
    (rows : List AddonRow) (code : String) (freshId : ℕ) :
    (state.writeEffective base rows code freshId).1 = { state with
        plans := (state.writeEffective base rows code freshId).1.plans } := by
  unfold writeEffective
  split <;> rfl

theorem rebuildEffectivePlan_spec {plan : Option BillingPlan}
    (rebuilt : stored.rebuildEffectivePlan held tenantId freshId = .ok (after, plan)) :
    (held.subscriptionOf tenantId = none ∧ after = held) ∨ ∃ subscription baseId planId plans,
        held.subscriptionOf tenantId = some subscription ∧
        after = { held with plans := plans }.writeSubscription
          { subscription with basePlanId := baseId, planId := planId } := by
  unfold rebuildEffectivePlan at rebuilt
  split at rebuilt
  · rename_i missing
    cases rebuilt
    exact .inl ⟨missing, rfl⟩
  · rename_i subscription found
    refine .inr ⟨subscription, ?_⟩
    dsimp only at rebuilt
    split at rebuilt
    · cases rebuilt
    · rename_i base baseFound
      split at rebuilt
      · cases rebuilt
        exact ⟨_, _, held.plans, found, rfl⟩
      · rename_i entry entries rows
        have tables := writeEffective_tables held base (entry :: entries)
          (effectiveCode tenantId) freshId
        generalize held.writeEffective base (entry :: entries)
          (effectiveCode tenantId) freshId = result at rebuilt tables
        cases rebuilt
        rw [tables]
        exact ⟨_, _, _, found, rfl⟩

theorem rebuildEffectivePlan_only {plan : Option BillingPlan} (keyed : held.Keyed)
    (rebuilt : stored.rebuildEffectivePlan held tenantId freshId = .ok (after, plan)) :
    TenantOnly tenantId held after := by
  rcases rebuildEffectivePlan_spec rebuilt with
    ⟨_, same⟩ | ⟨subscription, baseId, planId, plans, found, same⟩
  · rw [same]
    exact .refl held
  · obtain ⟨member, owner⟩ := subscriptionOf_spec found
    rw [same, ← owner]
    have planned : TenantOnly subscription.tenantId held
        { held with plans := plans } := .of_eq rfl rfl rfl
    exact planned.trans (writeSubscription_only _ (planned.keyed keyed) member rfl rfl)

theorem map_ok {α β : Type} {call : Except String α} {view : α → β}
    {result : β} (mapped : call.map view = .ok result) :
    ∃ value, call = .ok value ∧ view value = result := by
  cases call with
  | error failure => cases mapped
  | ok value =>
    cases mapped
    exact ⟨value, rfl, rfl⟩

theorem cancelEnding_only (state : BillingState) (tenantId : ℕ) (now : ℤ) :
    TenantOnly tenantId state (state.cancelEnding tenantId now) := by
  refine mapAddons_only ?_
  intro row _
  split
  · rename_i ends
    exact ⟨rfl, rfl, fun other => absurd ends.1 other⟩
  · exact .refl row

theorem extendAddons_only (state : BillingState) (tenantId : ℕ) (start finish : ℤ) :
    TenantOnly tenantId state (state.extendAddons tenantId start finish) := by
  refine mapAddons_only ?_
  intro row _
  split
  · rename_i active
    exact ⟨rfl, rfl, fun other => absurd active.1 other⟩
  · exact .refl row

theorem applyPeriodEndChanges_only {planChanged : Bool} {ended : ℕ}
    (keyed : state.Keyed) (member : subscription ∈ state.subscriptions)
    (changed : state.applyPeriodEndChanges subscription now usage freshId =
      .ok (after, planChanged, ended)) : TenantOnly subscription.tenantId state after := by
  have canceled := cancelEnding_only state subscription.tenantId now
  unfold applyPeriodEndChanges at changed
  dsimp only at changed
  split at changed
  · rename_i target _
    have written := canceled.trans (writeSubscription_only (subscription.changedTo target)
        (canceled.keyed keyed) member rfl rfl)
    obtain ⟨result, rebuilt, same⟩ := map_ok changed
    cases same
    exact written.trans (rebuildEffectivePlan_only (written.keyed keyed) rebuilt)
  · split at changed
    · cases changed
      exact .refl state
    · obtain ⟨result, rebuilt, same⟩ := map_ok changed
      cases same
      exact canceled.trans (rebuildEffectivePlan_only (canceled.keyed keyed) rebuilt)

theorem renew_only (keyed : state.Keyed) (member : subscription ∈ state.subscriptions)
    (owner : contract.tenantId = subscription.tenantId) : TenantOnly subscription.tenantId state
      (state.renew subscription contract) := by
  unfold renew
  dsimp only
  have written := writeSubscription_only
    (subscription.renewed contract.billingInterval) keyed member rfl rfl
  exact written.trans ((extendAddons_only _ _ _ _).trans (writeContract_only _ owner))

theorem beginVisit_tenantId (state : BillingState) (subscription : TenantSubscription) :
    (state.beginVisit subscription).2.1.tenantId = subscription.tenantId := by
  have owner := getOrCreateContract_tenantId state subscription.tenantId
  unfold beginVisit
  dsimp only
  split <;> exact owner

theorem beginVisit_subscriptions (state : BillingState) (subscription : TenantSubscription) :
    (state.beginVisit subscription).1.subscriptions = state.subscriptions :=
  getOrCreateContract_subscriptions state subscription.tenantId

theorem beginVisit_only (state : BillingState) (subscription : TenantSubscription) :
    TenantOnly subscription.tenantId state (state.beginVisit subscription).1 := by
  unfold beginVisit
  dsimp only
  have owner := getOrCreateContract_tenantId state subscription.tenantId
  refine (getOrCreateContract_only state _).trans ?_
  split
  · exact writeContract_only _ owner
  · exact writeContract_only _ owner

theorem TenantOnly.subscriptionOf {who : ℕ}
    (only : TenantOnly who before after) (keyed : before.Keyed)
    (member : subscription ∈ before.subscriptions) :
    ∃ later, after.subscriptionOf subscription.tenantId = some later ∧
      later ∈ after.subscriptions ∧ later.id = subscription.id ∧
      later.tenantId = subscription.tenantId := by
  obtain ⟨later, laterMem, kept⟩ := only.subscriptions.later member
  have sameTenant : later.tenantId = subscription.tenantId := kept.owner_eq
  refine ⟨later, ?_, laterMem, kept.key_eq, sameTenant⟩
  rw [← sameTenant]
  exact (only.keyed keyed).subscriptionOf laterMem

variable {counters : CycleCounters}

theorem finishVisit_only {invoice : Option BillingInvoice} {counted : CycleCounters}
    (keyed : state.Keyed) (member : subscription ∈ state.subscriptions)
    (owner : contract.tenantId = subscription.tenantId)
    (finished : state.finishVisit subscription contract invoice now usage
      freshId counters = .ok (after, counted)) : TenantOnly subscription.tenantId state after := by
  unfold finishVisit at finished
  split at finished
  · cases finished
    exact .refl state
  · split at finished
    · cases finished
      exact writeSubscription_only _ keyed member rfl rfl
    · split at finished
      · split at finished
        · cases finished
        · rename_i changed planChanged ended changes
          have only := applyPeriodEndChanges_only keyed member changes
          obtain ⟨later, found, laterMem, _, sameTenant⟩ := only.subscriptionOf keyed member
          cases finished
          rw [found, Option.getD_some, ← sameTenant]
          rw [← sameTenant] at only owner
          exact only.trans (renew_only (only.keyed keyed) laterMem owner)
      · split at finished
        · cases finished
          exact writeSubscription_only _ keyed member rfl rfl
        · cases finished
          exact .refl state

theorem mem_unappliedAddons {entry : AddonRow} (member : entry ∈ state.unappliedAddons tenantId) :
    entry.1 ∈ state.tenantAddons ∧ entry.1.tenantId = tenantId ∧
      entry.1.setupFeeApplied = false := by
  obtain ⟨row, rowMem, found⟩ := List.mem_filterMap.mp member
  split at found
  · rename_i unapplied
    obtain ⟨addon, _, same⟩ := Option.map_eq_some_iff.mp found
    rw [← same]
    exact ⟨rowMem, unapplied.1, unapplied.2.2⟩
  · cases found

variable {draft : ContractDraft}

theorem draftContractInvoice_spec
    (drafted : state.draftContractInvoice subscription contract usage = .ok (.inr draft)) :
    state.periodInvoice subscription = none ∧ draft.subscriptionId = subscription.id ∧
      draft.tenantId = subscription.tenantId ∧ draft.planSetup = !contract.setupFeeApplied ∧
      draft.addonAssignments = (state.unappliedAddons
        subscription.tenantId).map (fun entry => entry.1.id) ∧ ∃ afterDiscount, 0 ≤ afterDiscount ∧
        draft.creditUsed = creditUsedOf contract afterDiscount := by
  unfold draftContractInvoice at drafted
  split at drafted
  · cases drafted
  · rename_i unbilled
    split at drafted
    · cases drafted
    · cases drafted
      exact ⟨unbilled, rfl, rfl, rfl, rfl, _, le_max_left _ _, rfl⟩

theorem markAddons_only {assignments : List ℕ}
    (owned : ∀ row ∈ state.tenantAddons, row.id ∈ assignments → row.tenantId = tenantId) :
    TenantOnly tenantId state (state.markAddons assignments) := by
  refine mapAddons_only ?_
  intro row rowMem
  split
  · rename_i marked
    exact ⟨rfl, rfl, fun other => absurd (owned row rowMem marked) other⟩
  · exact .refl row

theorem insertContractInvoice_only {number : String} {invoice : BillingInvoice}
    (owned : ∀ row ∈ state.tenantAddons, row.id ∈ draft.addonAssignments →
      row.tenantId = draft.tenantId)
    (inserted : state.insertContractInvoice draft now number id = some (after, invoice)) :
    TenantOnly draft.tenantId state after ∧ after.subscriptions = state.subscriptions := by
  unfold insertContractInvoice at inserted
  split at inserted
  · rename_i subscription plan contract _ _ found
    cases inserted
    refine ⟨?_, rfl⟩
    have billed : TenantOnly draft.tenantId state (state.addInvoice
        (draft.invoice subscription plan contract now number id)) :=
      .of_eq rfl rfl rfl
    have charged (state : BillingState) : TenantOnly draft.tenantId state
        (state.writeContract (draft.charge subscription contract)) :=
      writeContract_only _ (contractOf_spec found).2
    exact (billed.trans (charged _)).trans (markAddons_only owned)
  · cases inserted

theorem insertContractInvoice_spec {number : String} {invoice : BillingInvoice}
    (inserted : state.insertContractInvoice draft now number id = some (after, invoice)) :
    ∃ subscription plan contract, state.subscription? draft.subscriptionId = some subscription ∧
      state.contractOf draft.tenantId = some contract ∧
      invoice = draft.invoice subscription plan contract now number id ∧
      after = ((state.addInvoice invoice).writeContract
        (draft.charge subscription contract)).markAddons draft.addonAssignments := by
  unfold insertContractInvoice at inserted
  split at inserted
  · rename_i subscription plan contract found _ contractFound
    cases inserted
    exact ⟨subscription, plan, contract, found, contractFound, rfl, rfl⟩
  · cases inserted

theorem unappliedAddons_owned (keyed : state.Keyed) {row : TenantAddon}
    (member : row ∈ state.tenantAddons) (listed : row.id ∈ (state.unappliedAddons tenantId).map
      fun entry => entry.1.id) : row.tenantId = tenantId := by
  obtain ⟨entry, entryMem, same⟩ := List.mem_map.mp listed
  obtain ⟨stored, owner, _⟩ := mem_unappliedAddons entryMem
  rw [← List.inj_on_of_nodup_map keyed.tenantAddons stored member same]
  exact owner

theorem visit_only {inputs : VisitInputs} {counted : CycleCounters}
    (keyed : state.Keyed) (member : subscription ∈ state.subscriptions)
    (visited : state.visit subscription.id now inputs counters = .ok (after, counted)) :
    TenantOnly subscription.tenantId state after := by
  have begun := beginVisit_only state subscription
  have begunMem : subscription ∈ (state.beginVisit subscription).1.subscriptions := by
    rw [beginVisit_subscriptions]
    exact member
  have owner := beginVisit_tenantId state subscription
  unfold visit at visited
  rw [keyed.subscription? member] at visited
  dsimp only at visited
  split at visited
  · split at visited
    · cases visited
    · exact begun.trans (finishVisit_only (begun.keyed keyed) begunMem owner visited)
    · rename_i draft drafted
      split at visited
      · cases visited
      · rename_i inserted created insertion
        obtain ⟨_, _, sameTenant, _, listed, _⟩ := draftContractInvoice_spec drafted
        obtain ⟨only, sameSubscriptions⟩ := insertContractInvoice_only (by
            intro row rowMem marked
            rw [listed] at marked
            rw [sameTenant]
            exact unappliedAddons_owned (begun.keyed keyed) rowMem marked)
          insertion
        rw [sameTenant] at only
        have through := begun.trans only
        rw [← sameSubscriptions] at begunMem
        refine through.trans (finishVisit_only (through.keyed keyed) begunMem ?_ visited)
        cases found : inserted.contractOf subscription.tenantId with
        | none => exact owner
        | some contract => exact (contractOf_spec found).2
  · exact begun.trans (finishVisit_only (begun.keyed keyed) begunMem owner visited)

def visits (now : ℤ) (inputs : ℕ → VisitInputs)
    (progress : BillingState × CycleCounters) (ids : List ℕ) :
    Except String (BillingState × CycleCounters) :=
  ids.foldlM (fun progress subscriptionId =>
    progress.1.visit subscriptionId now (inputs subscriptionId) progress.2)
    progress

variable {inputs : ℕ → VisitInputs} {ids : List ℕ}

theorem visits_cons {progress finished : BillingState × CycleCounters} :
    visits now inputs progress (id :: ids) = .ok finished ↔
      ∃ visited, progress.1.visit id now (inputs id) progress.2 =
        .ok visited ∧ visits now inputs visited ids = .ok finished := by
  unfold visits
  rw [List.foldlM_cons]
  cases visited : progress.1.visit id now (inputs id) progress.2 with
  | error failure => simp [bind, Except.bind]
  | ok result => simp [bind, Except.bind]

theorem visits_append {progress finished : BillingState × CycleCounters}
    {front back : List ℕ} : visits now inputs progress (front ++ back) = .ok finished ↔
      ∃ halfway, visits now inputs progress front = .ok halfway ∧
        visits now inputs halfway back = .ok finished := by
  unfold visits
  rw [List.foldlM_append]
  cases first : front.foldlM (fun progress subscriptionId =>
      progress.1.visit subscriptionId now (inputs subscriptionId) progress.2)
      progress with
  | error failure => simp [bind, Except.bind]
  | ok result => simp [bind, Except.bind]

variable {result : BillingState × CycleCounters}

theorem visit_stored {inputs : VisitInputs}
    (visited : state.visit id now inputs counters = .ok result) :
    ∃ subscription ∈ state.subscriptions, subscription.id = id := by
  unfold visit at visited
  split at visited
  · cases visited
  · rename_i subscription found
    exact ⟨subscription, (subscription?_spec found).1, (subscription?_spec found).2⟩

structure KeepsOther (row : TenantSubscription) (before after : BillingState) : Prop where
  keyed : after.Keyed
  member : row ∈ after.subscriptions
  contract : after.contractOf row.tenantId = before.contractOf row.tenantId

theorem visits_other {row : TenantSubscription} (keyed : state.Keyed)
    (member : row ∈ state.subscriptions) (unvisited : row.id ∉ ids)
    (visited : visits now inputs (state, counters) ids = .ok result) :
    KeepsOther row state result.1 := by
  induction ids generalizing state counters with
  | nil =>
    cases visited
    exact ⟨keyed, member, rfl⟩
  | cons id ids ih =>
    obtain ⟨⟨middle, counted⟩, first, rest⟩ := visits_cons.mp visited
    obtain ⟨subscription, subscriptionMem, rfl⟩ := visit_stored first
    rw [List.mem_cons, not_or] at unvisited
    have apart : row.tenantId ≠ subscription.tenantId := by
      intro same
      have equal := List.inj_on_of_nodup_map keyed.tenants member subscriptionMem same
      exact unvisited.1 (congrArg TenantSubscription.id equal)
    have only := visit_only keyed subscriptionMem first
    have later := ih (only.keyed keyed) (only.subscriptions.mem_other member apart) unvisited.2 rest
    exact ⟨later.keyed, later.member, later.contract.trans (only.contracts _ apart)⟩

theorem visits_keyed (keyed : state.Keyed)
    (visited : visits now inputs (state, counters) ids = .ok result) : result.1.Keyed := by
  induction ids generalizing state counters with
  | nil =>
    cases visited
    exact keyed
  | cons id ids ih =>
    obtain ⟨⟨middle, counted⟩, first, rest⟩ := visits_cons.mp visited
    obtain ⟨subscription, subscriptionMem, rfl⟩ := visit_stored first
    exact ih ((visit_only keyed subscriptionMem first).keyed keyed) rest

theorem visitOrder_perm (state : BillingState) :
    state.visitOrder.Perm (state.subscriptions.map fun row => row.id) :=
  (List.perm_insertionSort _ state.subscriptions).map _

/-- A pass visits each subscription once: up to its visit and after it, its
row is kept. -/
theorem runBillingCycle_visit {row : TenantSubscription}
    (keyed : state.Keyed) (member : row ∈ state.subscriptions)
    (passed : state.runBillingCycle now inputs = .ok result) :
    ∃ before after counters counted, KeepsOther row state before ∧
      before.visit row.id now (inputs row.id) counters = .ok (after, counted) ∧
      ∀ later ∈ after.subscriptions, later.id = row.id → KeepsOther later after result.1 := by
  have visited : visits now inputs (state, {}) state.visitOrder = .ok result := passed
  have nodup : state.visitOrder.Nodup := (visitOrder_perm state).nodup_iff.mpr keyed.subscriptions
  have listed : row.id ∈ state.visitOrder :=
    (visitOrder_perm state).mem_iff.mpr (List.mem_map_of_mem member)
  obtain ⟨front, back, split⟩ := List.append_of_mem listed
  rw [split] at visited nodup
  rw [List.nodup_append] at nodup
  obtain ⟨⟨before, counters⟩, first, rest⟩ := visits_append.mp visited
  obtain ⟨⟨after, counted⟩, here, later⟩ := visits_cons.mp rest
  have kept : KeepsOther row state before := by
    refine visits_other keyed member ?_ first
    exact fun visitedBefore => nodup.2.2 row.id visitedBefore row.id List.mem_cons_self rfl
  refine ⟨before, after, counters, counted, kept, here, ?_⟩
  intro found foundMem same
  have only := visit_only kept.keyed kept.member here
  refine visits_other (only.keyed kept.keyed) foundMem ?_ later
  rw [same]
  exact (List.nodup_cons.mp nodup.2.1).1

end BillingState

end Ithute.Billing
