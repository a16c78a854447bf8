import Ithute.Library.TransitionRuns
import Ithute.Library.UniqueRows
import Ithute.BillingCharging

/-!
# Charged once

A fee is included when its flag is not set, and sets it.  As long as what a
draft was computed from has not changed when its invoice is inserted, periods
and fees are charged once and the credit covers what is used of it.
-/

namespace Ithute.Billing

open TransitionRuns OwnedRows

namespace BillingState

variable {state stored held before middle after : BillingState}
variable {tenantId freshId : ℕ} {subscription : TenantSubscription}
variable {contract : BillingContract} {now : ℤ} {usage : TenantUsage}

/-- The rows of a tenant are written, its invoices and charges are not. -/
structure KeepsCharges (tenantId : ℕ) (before after : BillingState) : Prop where
  only : TenantOnly tenantId before after
  invoices : after.invoices = before.invoices
  credit : after.creditOf tenantId = before.creditOf tenantId
  planApplied : before.PlanApplied tenantId → after.PlanApplied tenantId
  addonApplied : ∀ id, before.AddonApplied id → after.AddonApplied id

namespace KeepsCharges

theorem of_eq (only : TenantOnly tenantId before after)
    (invoices : after.invoices = before.invoices) (contracts : after.contracts = before.contracts)
    (tenantAddons : after.tenantAddons = before.tenantAddons) :
    KeepsCharges tenantId before after := by
  refine ⟨only, invoices, ?_, ?_, ?_⟩
  · unfold creditOf contractOf
    rw [contracts]
  · unfold PlanApplied contractOf
    rw [contracts]
    exact id
  · unfold AddonApplied
    rw [tenantAddons]
    exact fun _ => id

theorem refl (state : BillingState) : KeepsCharges tenantId state state :=
  of_eq (.refl state) rfl rfl rfl

theorem trans (first : KeepsCharges tenantId before middle)
    (second : KeepsCharges tenantId middle after) : KeepsCharges tenantId before after where
  only := first.only.trans second.only
  invoices := second.invoices.trans first.invoices
  credit := second.credit.trans first.credit
  planApplied applied := second.planApplied (first.planApplied applied)
  addonApplied id applied := second.addonApplied id (first.addonApplied id applied)

theorem mapAddons {write : TenantAddon → TenantAddon} (kept : ∀ row ∈ state.tenantAddons,
      KeptRow (fun row => row.id) (fun row => row.tenantId) tenantId row (write row))
    (flags : ∀ row, (write row).setupFeeApplied = row.setupFeeApplied) :
    KeepsCharges tenantId state { state with tenantAddons := state.tenantAddons.map write } := by
  refine ⟨mapAddons_only kept, rfl, rfl, id, ?_⟩
  rintro id ⟨row, member, same, applied⟩
  refine ⟨write row, List.mem_map_of_mem member, ?_, ?_⟩
  · exact (kept row member).key_eq.trans same
  · rw [flags, applied]

end KeepsCharges

theorem contractOf_writeContract (saved : BillingContract)
    (found : state.contractOf tenantId = some contract) (owner : saved.tenantId = tenantId) :
    (state.writeContract saved).contractOf tenantId = some saved := by
  have replaced := @UniqueRows.find?_replace BillingContract state.contracts
    ℕ _ (fun row => row.tenantId) saved tenantId
  unfold contractOf at found
  rw [if_pos owner.symm, found] at replaced
  exact replaced

theorem writeContract_charges (saved : BillingContract)
    (found : state.contractOf tenantId = some contract) (owner : saved.tenantId = tenantId)
    (flag : saved.setupFeeApplied = contract.setupFeeApplied)
    (credit : saved.creditBalanceMinor = contract.creditBalanceMinor) :
    KeepsCharges tenantId state (state.writeContract saved) := by
  have written := contractOf_writeContract saved found owner
  refine ⟨writeContract_only saved owner, rfl, ?_, ?_, fun _ => id⟩
  · unfold creditOf
    rw [written, found]
    exact credit
  · rintro ⟨other, otherFound, applied⟩
    cases found.symm.trans otherFound
    exact ⟨saved, written, flag.trans applied⟩

theorem writeSubscription_charges (saved : TenantSubscription)
    (keyed : state.Keyed) (member : subscription ∈ state.subscriptions)
    (sameId : saved.id = subscription.id) (sameTenant : saved.tenantId = subscription.tenantId) :
    KeepsCharges subscription.tenantId state (state.writeSubscription saved) :=
  .of_eq (writeSubscription_only saved keyed member sameId sameTenant) rfl rfl rfl

theorem getOrCreateContract_charges (state : BillingState) (tenantId : ℕ) :
    KeepsCharges tenantId state (state.getOrCreateContract tenantId).1 ∧
      (state.getOrCreateContract tenantId).1.contractOf tenantId =
        some (state.getOrCreateContract tenantId).2 := by
  have only := getOrCreateContract_only state tenantId
  unfold getOrCreateContract at only ⊢
  split
  · rename_i contract found
    exact ⟨.refl state, found⟩
  · rename_i missing
    have created : contractOf { state with
        contracts := state.contracts ++ [{ tenantId := tenantId }] }
        tenantId = some { tenantId := tenantId } := by
      unfold contractOf at missing ⊢
      rw [List.find?_append, missing]
      simp
    refine ⟨⟨?_, rfl, ?_, ?_, fun _ => id⟩, created⟩
    · rw [missing] at only
      exact only
    · unfold creditOf
      rw [missing, created]
      rfl
    · rintro ⟨contract, found, _⟩
      rw [missing] at found
      cases found

theorem beginVisit_charges (state : BillingState) (subscription : TenantSubscription) :
    KeepsCharges subscription.tenantId state (state.beginVisit subscription).1 ∧
      (state.beginVisit subscription).1.contractOf subscription.tenantId =
        some (state.beginVisit subscription).2.1 := by
  obtain ⟨created, found⟩ := getOrCreateContract_charges state subscription.tenantId
  have owner := getOrCreateContract_tenantId state subscription.tenantId
  unfold beginVisit
  dsimp only
  split
  · exact ⟨created.trans (writeContract_charges _ found owner rfl rfl),
      contractOf_writeContract _ found owner⟩
  · exact ⟨created.trans (writeContract_charges _ found owner rfl rfl),
      contractOf_writeContract _ found owner⟩

theorem rebuildEffectivePlan_charges {plan : Option BillingPlan} (keyed : held.Keyed)
    (rebuilt : stored.rebuildEffectivePlan held tenantId freshId = .ok (after, plan)) :
    KeepsCharges tenantId held after ∧ after.contracts = held.contracts := by
  have only := rebuildEffectivePlan_only keyed rebuilt
  rcases rebuildEffectivePlan_spec rebuilt with
    ⟨_, same⟩ | ⟨_, _, _, _, _, same⟩
  · rw [same]
    exact ⟨.refl held, rfl⟩
  · rw [same] at only ⊢
    exact ⟨.of_eq only rfl rfl rfl, rfl⟩

theorem cancelEnding_charges (state : BillingState) (tenantId : ℕ) (now : ℤ) :
    KeepsCharges tenantId state (state.cancelEnding tenantId now) := by
  refine .mapAddons ?_ ?_
  · intro row _
    split
    · rename_i ends
      exact ⟨rfl, rfl, fun other => absurd ends.1 other⟩
    · exact .refl row
  · intro row
    split <;> rfl

theorem extendAddons_charges (state : BillingState) (tenantId : ℕ) (start finish : ℤ) :
    KeepsCharges tenantId state (state.extendAddons tenantId start finish) := by
  refine .mapAddons ?_ ?_
  · intro row _
    split
    · rename_i active
      exact ⟨rfl, rfl, fun other => absurd active.1 other⟩
    · exact .refl row
  · intro row
    split <;> rfl

theorem applyPeriodEndChanges_charges {planChanged : Bool} {ended : ℕ}
    (keyed : state.Keyed) (member : subscription ∈ state.subscriptions)
    (changed : state.applyPeriodEndChanges subscription now usage freshId =
      .ok (after, planChanged, ended)) :
    KeepsCharges subscription.tenantId state after ∧ after.contracts = state.contracts := by
  have canceled := cancelEnding_charges state subscription.tenantId now
  unfold applyPeriodEndChanges at changed
  dsimp only at changed
  split at changed
  · rename_i target _
    have written := canceled.trans (writeSubscription_charges (subscription.changedTo target)
        (canceled.only.keyed keyed) member rfl rfl)
    obtain ⟨result, rebuilt, same⟩ := map_ok changed
    cases same
    obtain ⟨kept, contracts⟩ := rebuildEffectivePlan_charges (written.only.keyed keyed) rebuilt
    exact ⟨written.trans kept, contracts⟩
  · split at changed
    · cases changed
      exact ⟨.refl state, rfl⟩
    · obtain ⟨result, rebuilt, same⟩ := map_ok changed
      cases same
      obtain ⟨kept, contracts⟩ := rebuildEffectivePlan_charges (canceled.only.keyed keyed) rebuilt
      exact ⟨canceled.trans kept, contracts⟩

theorem finishVisit_charges {invoice : Option BillingInvoice}
    {counters counted : CycleCounters} (keyed : state.Keyed)
    (member : subscription ∈ state.subscriptions)
    (found : state.contractOf subscription.tenantId = some contract)
    (finished : state.finishVisit subscription contract invoice now usage
      freshId counters = .ok (after, counted)) :
    KeepsCharges subscription.tenantId state after := by
  have owner := (contractOf_spec found).2
  unfold finishVisit at finished
  split at finished
  · cases finished
    exact .refl state
  · split at finished
    · cases finished
      exact writeSubscription_charges _ keyed member rfl rfl
    · split at finished
      · split at finished
        · cases finished
        · rename_i changed planChanged ended changes
          obtain ⟨kept, contracts⟩ := applyPeriodEndChanges_charges keyed member changes
          obtain ⟨current, currentFound, currentMem, _, sameTenant⟩ :=
            kept.only.subscriptionOf keyed member
          cases finished
          rw [currentFound, Option.getD_some]
          have stillFound : changed.contractOf current.tenantId = some contract := by
            rw [sameTenant]
            unfold contractOf at found ⊢
            rw [contracts, found]
          rw [← sameTenant] at kept ⊢
          have written := writeSubscription_charges (current.renewed contract.billingInterval)
            (kept.only.keyed keyed) currentMem rfl rfl
          have extended := extendAddons_charges (changed.writeSubscription
              (current.renewed contract.billingInterval))
            current.tenantId
            (current.renewed contract.billingInterval).currentPeriodStart
            (current.renewed contract.billingInterval).currentPeriodEnd
          refine ((kept.trans written).trans extended).trans ?_
          exact writeContract_charges _ stillFound (owner.trans sameTenant.symm) rfl rfl
      · split at finished
        · cases finished
          exact writeSubscription_charges _ keyed member rfl rfl
        · cases finished
          exact .refl state

variable {who : ℕ}

theorem TenantOnly.subscriptionOf_earlier
    (only : TenantOnly who before after) (keyed : before.Keyed)
    (found : after.subscriptionOf tenantId = some subscription) :
    ∃ earlier, before.subscriptionOf tenantId = some earlier ∧ earlier.id = subscription.id := by
  obtain ⟨member, owner⟩ := subscriptionOf_spec found
  obtain ⟨earlier, earlierMem, kept⟩ := only.subscriptions.earlier member
  have sameTenant : subscription.tenantId = earlier.tenantId := kept.owner_eq
  refine ⟨earlier, ?_, kept.key_eq.symm⟩
  rw [← owner, sameTenant]
  exact keyed.subscriptionOf earlierMem

structure ContractDraft.DraftOf (draft : ContractDraft) (credit : ℤ)
    (tenantId : ℕ) (state : BillingState) : Prop where
  tenant : draft.tenantId = tenantId
  subscription : ∃ row, state.subscriptionOf tenantId = some row ∧ row.id = draft.subscriptionId
  stored : ∀ id ∈ draft.addonAssignments, ∃ row ∈ state.tenantAddons,
    row.id = id ∧ row.tenantId = tenantId
  distinct : draft.addonAssignments.Nodup
  covered : draft.creditUsed ≤ max 0 credit

/-- A call is for the subscription of its tenant, and its draft was computed
from what it has read. -/
def PendingCall.Drafted (tenantId : ℕ) (state : BillingState) : PendingCall → Prop
  | .package draft => ∃ row, state.subscriptionOf tenantId = some row ∧
      row.id = draft.subscriptionId
  | .contract draft credit _ | .cycle draft credit _ => draft.DraftOf credit tenantId state

theorem TenantOnly.subscriptionOf_later {id : ℕ}
    (only : TenantOnly who before after) (keyed : before.Keyed)
    (found : ∃ row, before.subscriptionOf tenantId = some row ∧ row.id = id) :
    ∃ row, after.subscriptionOf tenantId = some row ∧ row.id = id := by
  obtain ⟨row, here, same⟩ := found
  obtain ⟨member, owner⟩ := subscriptionOf_spec here
  obtain ⟨later, laterFound, _, sameId, _⟩ := only.subscriptionOf keyed member
  rw [owner] at laterFound
  exact ⟨later, laterFound, sameId.trans same⟩

variable {draft : ContractDraft}

theorem ContractDraft.DraftOf.keep {credit : ℤ} (draftOf : draft.DraftOf credit tenantId before)
    (only : TenantOnly who before after) (keyed : before.Keyed) :
    draft.DraftOf credit tenantId after := by
  refine { draftOf with
    subscription := only.subscriptionOf_later keyed draftOf.subscription
    stored := ?_ }
  intro id listed
  obtain ⟨row, member, same, owner⟩ := draftOf.stored id listed
  obtain ⟨later, laterMem, kept⟩ := only.tenantAddons.later member
  exact ⟨later, laterMem, kept.key_eq.trans same, kept.owner_eq.trans owner⟩

theorem PendingCall.Drafted.keep {call : PendingCall} (drafted : call.Drafted tenantId before)
    (only : TenantOnly who before after) (keyed : before.Keyed) : call.Drafted tenantId after := by
  cases call with
  | package draft => exact only.subscriptionOf_later keyed drafted
  | contract draft credit now => exact ContractDraft.DraftOf.keep drafted only keyed
  | cycle draft credit now => exact ContractDraft.DraftOf.keep drafted only keyed

theorem unappliedAddons_nodup (keyed : state.Keyed) : ((state.unappliedAddons tenantId).map
      fun entry => entry.1.id).Nodup := by
  refine List.Nodup.sublist ?_ keyed.tenantAddons
  unfold unappliedAddons
  generalize state.tenantAddons = rows
  induction rows with
  | nil => exact .slnil
  | cons row rows ih =>
    rw [List.filterMap_cons, List.map_cons]
    split
    · exact ih.cons _
    · rename_i entry found
      have same : entry.1 = row := by
        split at found
        · obtain ⟨addon, _, made⟩ := Option.map_eq_some_iff.mp found
          rw [← made]
        · cases found
      rw [List.map_cons, same]
      exact ih.cons_cons _

theorem draftContractInvoice_draftOf
    (keyed : state.Keyed) (member : subscription ∈ state.subscriptions)
    (drafted : state.draftContractInvoice subscription contract usage = .ok (.inr draft)) :
    draft.DraftOf contract.creditBalanceMinor subscription.tenantId state := by
  obtain ⟨_, sameId, sameTenant, _, listed, afterDiscount, _, used⟩ :=
    draftContractInvoice_spec drafted
  refine ⟨sameTenant, ⟨subscription, keyed.subscriptionOf member, sameId.symm⟩, ?_, ?_, ?_⟩
  · intro id marked
    rw [listed] at marked
    obtain ⟨entry, entryMem, same⟩ := List.mem_map.mp marked
    obtain ⟨stored, owner, _⟩ := mem_unappliedAddons entryMem
    exact ⟨entry.1, stored, same, owner⟩
  · rw [listed]
    exact unappliedAddons_nodup keyed
  · rw [used]
    exact min_le_right _ _

theorem ContractDraft.mem_setupFees {fee : SetupFee} :
    fee ∈ draft.setupFees ↔ fee = .plan ∧ draft.planSetup = true ∨
        ∃ id ∈ draft.addonAssignments, .addon id = fee := by
  unfold setupFees
  cases draft.planSetup with
  | true => simp
  | false => simp

theorem ContractDraft.setupFees_nodup
    (distinct : draft.addonAssignments.Nodup) : draft.setupFees.Nodup := by
  have addons : (draft.addonAssignments.map SetupFee.addon).Nodup :=
    distinct.map fun first second same => SetupFee.addon.inj same
  unfold setupFees
  cases draft.planSetup with
  | true => simp [addons]
  | false => simpa using addons

theorem AddonApplied.markAddons {id : ℕ} (assignments : List ℕ) (applied : state.AddonApplied id) :
    (state.markAddons assignments).AddonApplied id := by
  obtain ⟨row, member, same, flag⟩ := applied
  refine ⟨_, List.mem_map_of_mem member, ?_, ?_⟩
  · split <;> exact same
  · split
    · rfl
    · exact flag

theorem addonApplied_marked {id : ℕ} {assignments : List ℕ}
    (stored : ∃ row ∈ state.tenantAddons, row.id = id ∧
      row.tenantId = tenantId) (listed : id ∈ assignments) :
    (state.markAddons assignments).AddonApplied id := by
  obtain ⟨row, member, same, _⟩ := stored
  rw [← same] at listed
  refine ⟨{ row with setupFeeApplied := true }, ?_, same, rfl⟩
  exact List.mem_map.mpr ⟨row, member, if_pos listed⟩

/-- An invoice that charges the period of a subscription as it is now. -/
def Bills (invoice : BillingInvoice) (subscription : TenantSubscription) : Prop :=
  invoice.tenantId = subscription.tenantId ∧ invoice.subscriptionId = some subscription.id ∧
    invoice.periodStart = some subscription.currentPeriodStart ∧
    invoice.periodEnd = some subscription.currentPeriodEnd

theorem periods_addInvoice {invoice : BillingInvoice}
    (periods : state.invoices.Pairwise fun first second => ¬ SamePeriod first second)
    (bills : Bills invoice subscription) (unbilled : state.periodInvoice subscription = none) :
    (state.addInvoice invoice).invoices.Pairwise fun first second =>
      ¬ SamePeriod first second := by
  obtain ⟨_, sameId, sameStart, sameEnd⟩ := bills
  refine UniqueRows.pairwise_insert periods ?_
  rintro row member ⟨_, sameSubscription, sameFirst, sameLast, charged, _⟩
  have missing := List.find?_eq_none.mp unbilled row member
  simp only [decide_eq_true_eq, not_and] at missing
  exact missing (sameSubscription.trans sameId) (sameFirst.trans sameStart)
    (sameLast.trans sameEnd) charged

theorem periodInvoice_of_tenant (owned : ∀ row ∈ state.invoices,
      row.subscriptionId = some subscription.id → row.tenantId = subscription.tenantId)
    (unbilled : state.tenantPeriodInvoice subscription = none) :
    state.periodInvoice subscription = none := by
  unfold tenantPeriodInvoice at unbilled
  unfold periodInvoice
  rw [List.find?_eq_none] at unbilled ⊢
  intro row member
  have missing := unbilled row member
  simp only [decide_eq_true_eq, not_and] at missing ⊢
  intro same
  exact missing (owned row member same)

theorem creditUsed_addInvoice {invoice : BillingInvoice} (owner : invoice.tenantId = tenantId) :
    (state.addInvoice invoice).creditUsed tenantId =
      state.creditUsed tenantId + invoice.creditUsedMinor := by
  unfold creditUsed addInvoice
  simp [owner]

end BillingState

open BillingState

structure ChargeSound (tenantId : ℕ) (granted : ℤ) (state : ChargeState) : Prop where
  keyed : state.tables.Keyed
  owned : ∀ row ∈ state.tables.invoices, ∀ subscription,
    state.tables.subscriptionOf tenantId = some subscription →
      row.subscriptionId = some subscription.id → row.tenantId = tenantId
  periods : state.tables.invoices.Pairwise fun first second => ¬ SamePeriod first second
  credit : 0 ≤ state.tables.creditOf tenantId
  conserved : state.tables.creditOf tenantId + state.tables.creditUsed tenantId = granted
  distinct : (state.setups.map fun entry => entry.1).Nodup
  planApplied : SetupFee.plan ∈ state.setups.map (fun entry => entry.1) →
    state.tables.PlanApplied tenantId
  addonApplied : ∀ id, SetupFee.addon id ∈ state.setups.map (fun entry => entry.1) →
      state.tables.AddonApplied id
  calls : ∀ call ∈ state.calls, call.Drafted tenantId state.tables

namespace ChargeSound

variable {tenantId : ℕ} {granted : ℤ} {state : ChargeState} {tables : BillingState}

theorem chargedOnce (sound : ChargeSound tenantId granted state) :
    ChargedOnce tenantId granted state where
  periods := sound.periods
  credit := sound.credit
  conserved := sound.conserved
  setups fee := by
    refine UniqueRows.length_filter_le_one sound.distinct fee ?_
    intro entry _ included
    simp only [decide_eq_true_eq] at included
    exact included.1

theorem keep (sound : ChargeSound tenantId granted state)
    (kept : KeepsCharges tenantId state.tables tables) :
    ChargeSound tenantId granted { state with tables := tables } where
  keyed := kept.only.keyed sound.keyed
  owned row member subscription found same := by
    obtain ⟨earlier, earlierFound, sameId⟩ := kept.only.subscriptionOf_earlier sound.keyed found
    rw [kept.invoices] at member
    rw [← sameId] at same
    exact sound.owned row member earlier earlierFound same
  periods := by
    rw [kept.invoices]
    exact sound.periods
  credit := by
    rw [kept.credit]
    exact sound.credit
  conserved := by
    have used : tables.creditUsed tenantId = state.tables.creditUsed tenantId := by
      unfold creditUsed
      rw [kept.invoices]
    rw [kept.credit, used]
    exact sound.conserved
  distinct := sound.distinct
  planApplied recorded := kept.planApplied (sound.planApplied recorded)
  addonApplied id recorded := kept.addonApplied id (sound.addonApplied id recorded)
  calls call member := (sound.calls call member).keep kept.only sound.keyed

theorem queue {call : PendingCall} (sound : ChargeSound tenantId granted state)
    (drafted : call.Drafted tenantId state.tables) : ChargeSound tenantId granted
      { state with calls := state.calls ++ [call] } := by
  refine { sound with calls := ?_ }
  intro other member
  rcases List.mem_append.mp member with old | new
  · exact sound.calls other old
  · rw [List.mem_singleton.mp new]
    exact drafted

theorem drop (sound : ChargeSound tenantId granted state) (index : ℕ) : ChargeSound tenantId granted
      { state with calls := state.calls.eraseIdx index } :=
  { sound with
    calls := fun call member => sound.calls call (List.mem_of_mem_eraseIdx member) }

theorem writeInvoices {invoices : List BillingInvoice} (sound : ChargeSound tenantId granted state)
    (owned : ∀ row ∈ invoices, ∀ subscription,
      state.tables.subscriptionOf tenantId = some subscription →
        row.subscriptionId = some subscription.id → row.tenantId = tenantId)
    (periods : invoices.Pairwise fun first second => ¬ SamePeriod first second)
    (used : creditUsed { state.tables with invoices := invoices } tenantId =
      state.tables.creditUsed tenantId) : ChargeSound tenantId granted
      { state with tables := { state.tables with invoices := invoices } } := by
  have only : TenantOnly tenantId state.tables
      { state.tables with invoices := invoices } := .of_eq rfl rfl rfl
  refine { sound with
    keyed := only.keyed sound.keyed
    owned := owned
    periods := periods
    conserved := ?_
    calls := fun call member => (sound.calls call member).keep only sound.keyed }
  rw [used]
  exact sound.conserved

theorem setInvoices {write : BillingInvoice → BillingInvoice}
    (sound : ChargeSound tenantId granted state)
    (kept : ∀ row, ∃ status, write row = { row with status := status } ∧
      (row.status = .void → status = .void)) :
    ChargeSound tenantId granted (state.setInvoices write) := by
  refine sound.writeInvoices ?_ ?_ ?_
  · intro row member subscription found same
    obtain ⟨stored, storedMem, rfl⟩ := List.mem_map.mp member
    obtain ⟨status, written, _⟩ := kept stored
    rw [written] at same ⊢
    exact sound.owned stored storedMem subscription found same
  · refine List.pairwise_map.mpr (sound.periods.imp ?_)
    rintro first second apart ⟨isSome, sameId, sameStart, sameEnd, firstCharged, secondCharged⟩
    obtain ⟨_, firstWritten, firstVoid⟩ := kept first
    obtain ⟨_, secondWritten, secondVoid⟩ := kept second
    rw [firstWritten] at isSome sameId sameStart sameEnd firstCharged
    rw [secondWritten] at sameId sameStart sameEnd secondCharged
    exact apart ⟨isSome, sameId, sameStart, sameEnd, fun void => firstCharged (firstVoid void),
      fun void => secondCharged (secondVoid void)⟩
  · unfold creditUsed
    rw [List.filter_map, List.map_map]
    have sameOwner : (fun row => decide (row.tenantId = tenantId)) ∘
        write = fun row => decide (row.tenantId = tenantId) := by
      ext row
      obtain ⟨status, written, _⟩ := kept row
      simp [written]
    have sameCredit : (fun row : BillingInvoice => row.creditUsedMinor) ∘
        write = fun row => row.creditUsedMinor := by
      ext row
      obtain ⟨status, written, _⟩ := kept row
      simp [written]
    rw [sameOwner, sameCredit]

theorem subscription_eq {id : ℕ} {row subscription : TenantSubscription}
    (keyed : tables.Keyed) (found : tables.subscriptionOf tenantId = some row) (same : row.id = id)
    (again : tables.subscription? id = some subscription) : subscription = row := by
  have here := keyed.subscription? (subscriptionOf_spec found).1
  rw [same, again] at here
  exact Option.some.inj here

variable {now : ℤ}

theorem package {draft : InvoiceDraft} {dueDays : ℤ} {number : String}
    {id : ℕ} {invoice : BillingInvoice} (sound : ChargeSound tenantId granted state)
    (drafted : (PendingCall.package draft).Drafted tenantId state.tables)
    (upToDate : (PendingCall.package draft).UpToDate tenantId state.tables)
    (inserted : state.tables.insertInvoice draft now dueDays number id = some (tables, invoice)) :
    ChargeSound tenantId granted { state with tables := tables } := by
  obtain ⟨row, found, same⟩ := drafted
  obtain ⟨_, owner⟩ := subscriptionOf_spec found
  unfold insertInvoice at inserted
  split at inserted
  · rename_i subscription plan again _
    rw [subscription_eq sound.keyed found same again] at inserted
    cases inserted
    have unbilled : state.tables.periodInvoice row = none := by
      refine periodInvoice_of_tenant ?_ (upToDate row found)
      intro stored storedMem bills
      rw [owner]
      exact sound.owned stored storedMem row found bills
    refine sound.writeInvoices ?_ ?_ ?_
    · intro stored member subscription here bills
      rcases List.mem_append.mp member with old | new
      · exact sound.owned stored old subscription here bills
      · rw [List.mem_singleton.mp new]
        exact owner
    · exact periods_addInvoice sound.periods ⟨rfl, rfl, rfl, rfl⟩ unbilled
    · exact (creditUsed_addInvoice owner).trans (add_zero _)
  · cases inserted

theorem contract {draft : ContractDraft} {credit : ℤ} {number : String}
    {id : ℕ} {invoice : BillingInvoice} (sound : ChargeSound tenantId granted state)
    (draftOf : draft.DraftOf credit tenantId state.tables)
    (upToDate : (PendingCall.contract draft credit now).UpToDate tenantId state.tables)
    (inserted : state.tables.insertContractInvoice draft now number id = some (tables, invoice)) :
    ChargeSound tenantId granted (state.charged tables draft id) := by
  obtain ⟨unbilled, planUnapplied, addonsUnapplied, covered⟩ := upToDate
  obtain ⟨row, found, same⟩ := draftOf.subscription
  obtain ⟨_, owner⟩ := subscriptionOf_spec found
  have marksOwn : ∀ row ∈ state.tables.tenantAddons,
      row.id ∈ draft.addonAssignments → row.tenantId = draft.tenantId := by
    intro stored storedMem marked
    obtain ⟨entry, entryMem, sameId, entryOwner⟩ :=
      draftOf.stored stored.id marked
    rw [List.inj_on_of_nodup_map sound.keyed.tenantAddons storedMem entryMem
      sameId.symm, entryOwner, draftOf.tenant]
  obtain ⟨only, _⟩ := insertContractInvoice_only marksOwn inserted
  obtain ⟨subscription, plan, contract, again, contractFound, made, written⟩ :=
    insertContractInvoice_spec inserted
  rw [subscription_eq sound.keyed found same again] at made written
  rw [draftOf.tenant] at contractFound
  have charged : tables.contractOf tenantId = some (draft.charge row contract) := by
    rw [written]
    exact @contractOf_writeContract (state.tables.addInvoice invoice) tenantId
      contract _ contractFound (contractOf_spec contractFound).2
  have creditBefore : state.tables.creditOf tenantId = contract.creditBalanceMinor := by
    unfold creditOf
    rw [contractFound]
    rfl
  have creditAfter : tables.creditOf tenantId = contract.creditBalanceMinor - draft.creditUsed := by
    unfold creditOf
    rw [charged]
    rfl
  have usedAfter : tables.creditUsed tenantId =
      state.tables.creditUsed tenantId + draft.creditUsed := by
    have added := @creditUsed_addInvoice state.tables tenantId invoice
    rw [made] at added
    rw [written, made]
    exact added owner
  have notNegative := sound.credit
  have conserved := sound.conserved
  have drafted := draftOf.covered
  have recorded : (state.charged tables draft id).setups.map
      (fun entry => entry.1) = state.setups.map (fun entry => entry.1) ++ draft.setupFees := by
    unfold ChargeState.charged
    simp [Function.comp_def]
  refine
    { keyed := only.keyed sound.keyed
      owned := ?_
      periods := ?_
      credit := ?_
      conserved := ?_
      distinct := ?_
      planApplied := fun _ => ⟨_, charged, rfl⟩
      addonApplied := ?_
      calls := fun call member =>
        (sound.calls call member).keep only sound.keyed }
  · intro stored member subscription here bills
    have invoices : tables.invoices = state.tables.invoices ++ [invoice] := by
      rw [written]
      rfl
    have subscriptions : tables.subscriptionOf tenantId = state.tables.subscriptionOf tenantId := by
      rw [written]
      rfl
    have earlier := subscriptions.symm.trans here
    rcases List.mem_append.mp (invoices ▸ member) with old | new
    · exact sound.owned stored old subscription earlier bills
    · rw [List.mem_singleton.mp new, made]
      exact owner
  · have bills : Bills invoice row := by
      rw [made]
      exact ⟨rfl, rfl, rfl, rfl⟩
    change tables.invoices.Pairwise _
    rw [written]
    exact periods_addInvoice sound.periods bills (unbilled row found)
  · change 0 ≤ tables.creditOf tenantId
    omega
  · change tables.creditOf tenantId + tables.creditUsed tenantId = granted
    omega
  · rw [recorded, List.nodup_append]
    refine ⟨sound.distinct, draft.setupFees_nodup draftOf.distinct, ?_⟩
    rintro fee old other new rfl
    rcases draft.mem_setupFees.mp new with ⟨rfl, setup⟩ | ⟨addon, listed, rfl⟩
    · exact planUnapplied setup (sound.planApplied old)
    · exact addonsUnapplied addon listed (sound.addonApplied addon old)
  · intro addon member
    change tables.AddonApplied addon
    rw [recorded] at member
    rw [written]
    rcases List.mem_append.mp member with old | new
    · exact AddonApplied.markAddons _ (sound.addonApplied addon old)
    · rcases draft.mem_setupFees.mp new with ⟨isPlan, _⟩ | ⟨same, listed, isAddon⟩
      · cases isPlan
      · cases isAddon
        exact addonApplied_marked (draftOf.stored addon listed) listed

variable {usage : TenantUsage}

theorem beginPackage (sound : ChargeSound tenantId granted state) :
    ChargeSound tenantId granted (state.beginPackage tenantId usage) := by
  unfold ChargeState.beginPackage
  split
  · rename_i draft drafted
    refine sound.queue ?_
    unfold draftInvoice at drafted
    split at drafted
    · cases drafted
    · rename_i subscription found
      split at drafted
      · cases drafted
      · split at drafted
        · cases drafted
        · cases drafted
          exact ⟨subscription, found, rfl⟩
  · exact sound

theorem beginContract (sound : ChargeSound tenantId granted state) :
    ChargeSound tenantId granted (state.beginContract tenantId now usage) := by
  unfold ChargeState.beginContract
  split
  · exact sound
  · rename_i subscription found
    obtain ⟨member, owner⟩ := subscriptionOf_spec found
    obtain ⟨kept, _⟩ := getOrCreateContract_charges state.tables tenantId
    have created := sound.keep kept
    have stored : subscription ∈ (state.tables.getOrCreateContract tenantId).1.subscriptions := by
      rw [getOrCreateContract_subscriptions]
      exact member
    dsimp only
    split
    · rename_i draft drafted
      refine created.queue ?_
      have draftOf := draftContractInvoice_draftOf created.keyed stored drafted
      rw [owner] at draftOf
      exact draftOf
    · exact created
    · exact sound

theorem finish {subscription : TenantSubscription}
    {contract : BillingContract} {invoice : Option BillingInvoice}
    {planId : ℕ} (sound : ChargeSound tenantId granted state)
    (kept : KeepsCharges tenantId state.tables tables)
    (member : subscription ∈ tables.subscriptions) (owner : subscription.tenantId = tenantId)
    (found : tables.contractOf tenantId = some contract) : ChargeSound tenantId granted
      (state.finish tables subscription contract invoice now usage planId) := by
  unfold ChargeState.finish
  split
  · rename_i finished
    rw [← owner] at kept found sound ⊢
    exact sound.keep (kept.trans (finishVisit_charges (kept.only.keyed sound.keyed) member found
        finished))
  · exact sound

theorem beginCycle {planId : ℕ}
    (sound : ChargeSound tenantId granted state) : ChargeSound tenantId granted
      (state.beginCycle tenantId now usage planId) := by
  unfold ChargeState.beginCycle
  split
  · exact sound
  · rename_i subscription found
    obtain ⟨member, owner⟩ := subscriptionOf_spec found
    obtain ⟨kept, contractFound⟩ := beginVisit_charges state.tables subscription
    rw [owner] at kept contractFound
    have begun := sound.keep kept
    have stored : subscription ∈ (state.tables.beginVisit subscription).1.subscriptions := by
      rw [beginVisit_subscriptions]
      exact member
    dsimp only
    split
    · split
      · rename_i draft drafted
        refine begun.queue ?_
        have draftOf := draftContractInvoice_draftOf begun.keyed stored drafted
        rw [owner] at draftOf
        exact draftOf
      · exact sound.finish kept stored owner contractFound
      · exact sound
    · exact sound.finish kept stored owner contractFound

theorem complete {call : PendingCall} {inputs : ResumeInputs}
    (sound : ChargeSound tenantId granted state) (drafted : call.Drafted tenantId state.tables)
    (upToDate : call.UpToDate tenantId state.tables) :
    ChargeSound tenantId granted (state.complete tenantId inputs call) := by
  cases call with
  | package draft =>
    unfold ChargeState.complete
    dsimp only
    split
    · rename_i inserted
      exact sound.package drafted upToDate inserted
    · exact sound
  | contract draft credit now =>
    unfold ChargeState.complete
    dsimp only
    split
    · rename_i inserted
      exact sound.contract drafted upToDate inserted
    · exact sound
  | cycle draft credit now =>
    unfold ChargeState.complete
    dsimp only
    split
    · rename_i tables created inserted
      have charged := sound.contract drafted upToDate inserted
      split
      · rename_i subscription contract found contractFound
        obtain ⟨member, rfl⟩ := subscriptionOf_spec found
        split
        · rename_i finished
          exact charged.keep (finishVisit_charges charged.keyed member contractFound finished)
        · exact sound
      · exact sound
    · exact sound

/-- A step of the calls, if a call is completed on what its draft was computed
from. -/
theorem perform {action : ChargeAction} (sound : ChargeSound tenantId granted state)
    (undisturbed : state.Undisturbed tenantId action) :
    ChargeSound tenantId granted (state.perform tenantId action) := by
  cases action with
  | beginPackage usage => exact sound.beginPackage
  | beginContract now usage => exact sound.beginContract
  | beginCycle now usage planId => exact sound.beginCycle
  | resume index inputs =>
    unfold ChargeState.perform ChargeState.resume
    dsimp only
    split
    · exact sound
    · rename_i call found
      exact (sound.drop index).complete (sound.calls call (List.mem_of_getElem? found))
        (undisturbed call found)
  | crash index => exact sound.drop index
  | pay invoiceId =>
    refine sound.setInvoices ?_
    intro row
    split
    · rename_i isOpen
      refine ⟨.paid, rfl, ?_⟩
      intro void
      rw [isOpen.2] at void
      cases void
    · exact ⟨row.status, rfl, id⟩
  | void invoiceId =>
    refine sound.setInvoices ?_
    intro row
    split
    · exact ⟨.void, rfl, fun _ => rfl⟩
    · exact ⟨row.status, rfl, id⟩

end ChargeSound

structure BillingState.Chargeable (tenantId : ℕ) (tables : BillingState) : Prop where
  keyed : tables.Keyed
  owned : ∀ row ∈ tables.invoices, ∀ subscription,
    tables.subscriptionOf tenantId = some subscription →
      row.subscriptionId = some subscription.id → row.tenantId = tenantId
  periods : tables.invoices.Pairwise fun first second => ¬ SamePeriod first second
  credit : 0 ≤ tables.creditOf tenantId

def BillingState.granted (tables : BillingState) (tenantId : ℕ) : ℤ :=
  tables.creditOf tenantId + tables.creditUsed tenantId

theorem BillingState.Chargeable.sound {tenantId : ℕ} {tables : BillingState}
    (chargeable : tables.Chargeable tenantId) :
    ChargeSound tenantId (tables.granted tenantId) { tables := tables } where
  keyed := chargeable.keyed
  owned := chargeable.owned
  periods := chargeable.periods
  credit := chargeable.credit
  conserved := rfl
  distinct := .nil
  planApplied recorded := absurd recorded List.not_mem_nil
  addonApplied _ recorded := absurd recorded List.not_mem_nil
  calls _ member := absurd member List.not_mem_nil

/-- Along every run whose calls are completed on what their drafts were
computed from, each period and each fee is charged once, the credit is not
negative, and what is removed from it is what the invoices use. -/
theorem run_chargedOnce (tenantId : ℕ) (tables : BillingState)
    (chargeable : tables.Chargeable tenantId) (actions : List ChargeAction)
    (undisturbed : EveryStep (ChargeState.Performs tenantId)
      (fun before action _ => before.Undisturbed tenantId action) { tables := tables } actions) :
    EveryStep (ChargeState.Performs tenantId) (fun _ _ after =>
        ChargedOnce tenantId (tables.granted tenantId) after)
      { tables := tables } actions := by
  have step (before : ChargeState) (action : ChargeAction) (after : ChargeState)
      (sound : ChargeSound tenantId (tables.granted tenantId) before)
      (move : ChargeState.Performs tenantId before action after)
      (undisturbedHere : before.Undisturbed tenantId action) :
      ChargeSound tenantId (tables.granted tenantId) after := by
    rw [show after = before.perform tenantId action from move]
    exact sound.perform undisturbedHere
  refine EveryStep.of_invariant chargeable.sound step ?_ undisturbed
  intro before action after sound move undisturbedHere
  exact (step before action after sound move undisturbedHere).chargedOnce

def creditedState : BillingState where
  plans :=
    [{ id := 3
       code := "basic"
       name := "Basic"
       monthlyPriceMinor := 1000
       setupFeeMinor := 30
       capacity := fun _ => 5 }]
  addons :=
    [{ id := 5
       code := "mailboxes"
       setupFeeMinor := 20
       resourceKey := "mailboxes"
       amountPerQuantity := 10 }]
  tenantAddons := [{ id := 6, tenantId := 1, addonId := 5, status := "active" }]
  subscriptions :=
    [{ id := 2
       tenantId := 1
       planId := 3
       status := .active
       currentPeriodStart := 0
       currentPeriodEnd := 10 }]
  contracts :=
    [{ tenantId := 1
       billingInterval := "monthly"
       creditBalanceMinor := 50 }]

theorem creditedState_chargeable : creditedState.Chargeable 1 where
  keyed := ⟨by decide, by decide, by decide⟩
  owned _ member := absurd member List.not_mem_nil
  periods := .nil
  credit := by decide

def overlappingCalls : List ChargeAction :=
  [.beginContract 5 fun _ => 0, .beginContract 5 fun _ => 0,
    .resume 0 { invoiceId := 8 }, .resume 0 { invoiceId := 9 }]

/-- Both calls insert an invoice of the period, both include the fees, and
both use the credit. -/
theorem overlappingCalls_charge : ((overlappingCalls.foldl (ChargeState.perform · 1 ·)
        { tables := creditedState }).tables.invoices.map fun row =>
      (row.id, row.periodStart, row.status, row.creditUsedMinor)) =
        [(8, some 0, .open_, 50), (9, some 0, .open_, 50)] ∧
      (overlappingCalls.foldl (ChargeState.perform · 1 ·) { tables := creditedState }).setups =
        [(.plan, 8), (.addon 6, 8), (.plan, 9), (.addon 6, 9)] ∧
      (overlappingCalls.foldl (ChargeState.perform · 1 ·)
        { tables := creditedState }).tables.creditOf 1 = -50 ∧ ¬ EveryStep (ChargeState.Performs 1)
        (fun _ _ after => ChargedOnce 1 (creditedState.granted 1) after)
        { tables := creditedState } overlappingCalls := by
  refine ⟨by decide, by decide, by decide, ?_⟩
  intro charged
  have last := charged [.beginContract 5 fun _ => 0, .beginContract 5 fun _ => 0,
      .resume 0 { invoiceId := 8 }] _ [] _ _ rfl (Run.of_foldl _ _ _) rfl
  exact absurd last.credit (by decide)

theorem run_chargedOnce_single : EveryStep (ChargeState.Performs 1)
      (fun _ _ after => ChargedOnce 1 (creditedState.granted 1) after) { tables := creditedState }
      [.beginContract 5 fun _ => 0, .resume 0 { invoiceId := 8 }] := by
  refine run_chargedOnce 1 creditedState creditedState_chargeable _ ?_
  refine (@EveryStep.cons_iff ChargeState ChargeAction _ _
    (ChargeState.perform · 1 ·) _ _).mpr ⟨True.intro, ?_⟩
  refine (@EveryStep.cons_iff ChargeState ChargeAction _ _
    (ChargeState.perform · 1 ·) _ _).mpr ⟨?_, EveryStep.nil⟩
  intro call found
  cases found
  refine ⟨?_, ?_, ?_, by decide⟩
  · intro subscription here
    cases here
    rfl
  · rintro _ ⟨contract, here, applied⟩
    cases here
    cases applied
  · rintro id _ ⟨row, member, _, applied⟩
    rw [List.mem_singleton.mp member] at applied
    cases applied

end Ithute.Billing
