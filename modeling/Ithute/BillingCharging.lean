import Ithute.Library.TransitionRuns
import Ithute.BillingVisits

/-!
# Charging a period

The calls that generate invoices of one tenant interleave at their commits.
Between its two parts a call holds its draft; a crash drops it.  The fees that
an invoice includes are recorded beside the tables.
-/

namespace Ithute.Billing

open TransitionRuns

inductive SetupFee where
  | plan
  | addon (assignmentId : ℕ)
  deriving DecidableEq

namespace BillingState

/-- The credit of a tenant, which is none before there is a contract. -/
def creditOf (state : BillingState) (tenantId : ℕ) : ℤ :=
  (state.contractOf tenantId).elim 0 fun contract => contract.creditBalanceMinor

def creditUsed (state : BillingState) (tenantId : ℕ) : ℤ :=
  ((state.invoices.filter fun row => decide (row.tenantId = tenantId)).map
    fun row => row.creditUsedMinor).sum

def PlanApplied (state : BillingState) (tenantId : ℕ) : Prop :=
  ∃ contract, state.contractOf tenantId = some contract ∧ contract.setupFeeApplied = true

def AddonApplied (state : BillingState) (id : ℕ) : Prop :=
  ∃ row ∈ state.tenantAddons, row.id = id ∧ row.setupFeeApplied = true

def ContractDraft.setupFees (draft : ContractDraft) : List SetupFee :=
  (if draft.planSetup then [.plan] else []) ++ draft.addonAssignments.map .addon

/-- A call between its two parts, with the credit that its draft was
computed from. -/
inductive PendingCall where
  | package (draft : InvoiceDraft)
  | contract (draft : ContractDraft) (credit now : ℤ)
  | cycle (draft : ContractDraft) (credit now : ℤ)

end BillingState

open BillingState

structure ChargeState where
  tables : BillingState
  calls : List PendingCall := []
  /-- The fees that were included, with the invoice that includes them. -/
  setups : List (SetupFee × ℕ) := []

structure ResumeInputs where
  now : ℤ := 0
  dueDays : ℤ := 14
  number : String := ""
  invoiceId : ℕ
  usage : TenantUsage := fun _ => 0
  planId : ℕ := 0

inductive ChargeAction where
  | beginPackage (usage : TenantUsage)
  | beginContract (now : ℤ) (usage : TenantUsage)
  | beginCycle (now : ℤ) (usage : TenantUsage) (planId : ℕ)
  | resume (index : ℕ) (inputs : ResumeInputs)
  | crash (index : ℕ)
  | pay (invoiceId : ℕ)
  | void (invoiceId : ℕ)

namespace ChargeState

variable (state : ChargeState) (tenantId : ℕ)

/-- `generate_invoice`, to the commit of the captured usage. -/
def beginPackage (usage : TenantUsage) : ChargeState :=
  match state.tables.draftInvoice tenantId usage with
  | .ok (.inr draft) => { state with calls := state.calls ++ [.package draft] }
  | _ => state

/-- `generate_contract_invoice` of the contract of the tenant, to the commit
of the captured usage. -/
def beginContract (now : ℤ) (usage : TenantUsage) : ChargeState :=
  match state.tables.subscriptionOf tenantId with
  | none => state
  | some subscription =>
    let (created, contract) := state.tables.getOrCreateContract tenantId
    match created.draftContractInvoice subscription contract usage with
    | .ok (.inr draft) =>
      { state with
        tables := created
        calls := state.calls ++ [.contract draft contract.creditBalanceMinor now] }
    | .ok (.inl _) => { state with tables := created }
    | .error _ => state

def finish (tables : BillingState) (subscription : TenantSubscription)
    (contract : BillingContract) (invoice : Option BillingInvoice)
    (now : ℤ) (usage : TenantUsage) (planId : ℕ) : ChargeState :=
  match tables.finishVisit subscription contract invoice now usage planId {} with
  | .ok (finished, _) => { state with tables := finished }
  | .error _ => state

/-- `run_billing_cycle`, to the commit of the captured usage or to its end. -/
def beginCycle (now : ℤ) (usage : TenantUsage) (planId : ℕ) : ChargeState :=
  match state.tables.subscriptionOf tenantId with
  | none => state
  | some subscription =>
    let (begun, contract, invoice) := state.tables.beginVisit subscription
    if invoiceDue contract subscription invoice now then
      match begun.draftContractInvoice subscription contract usage with
      | .ok (.inr draft) =>
        { state with
          tables := begun
          calls := state.calls ++ [.cycle draft contract.creditBalanceMinor now] }
      | .ok (.inl existing) =>
        state.finish begun subscription contract (some existing) now usage planId
      | .error _ => state
    else
      state.finish begun subscription contract invoice now usage planId

def charged (tables : BillingState) (draft : ContractDraft) (invoiceId : ℕ) : ChargeState :=
  { state with
    tables := tables
    setups := state.setups ++ draft.setupFees.map fun fee => (fee, invoiceId) }

/-- The second part of a call; one that raises has written nothing. -/
def complete (inputs : ResumeInputs) : PendingCall → ChargeState
  | .package draft =>
    match state.tables.insertInvoice draft inputs.now inputs.dueDays
        inputs.number inputs.invoiceId with
    | some (inserted, _) => { state with tables := inserted }
    | none => state
  | .contract draft _ now =>
    match state.tables.insertContractInvoice draft now inputs.number inputs.invoiceId with
    | some (inserted, _) => state.charged inserted draft inputs.invoiceId
    | none => state
  | .cycle draft _ now =>
    match state.tables.insertContractInvoice draft now inputs.number inputs.invoiceId with
    | some (inserted, created) =>
      match inserted.subscriptionOf tenantId, inserted.contractOf tenantId with
      | some subscription, some contract =>
        match inserted.finishVisit subscription contract
            (some created) now inputs.usage inputs.planId {} with
        | .ok (finished, _) => state.charged finished draft inputs.invoiceId
        | .error _ => state
      | _, _ => state
    | none => state

def resume (index : ℕ) (inputs : ResumeInputs) : ChargeState :=
  match state.calls[index]? with
  | none => state
  | some call =>
    ({ state with calls := state.calls.eraseIdx index }).complete tenantId inputs call

def setInvoices (write : BillingInvoice → BillingInvoice) : ChargeState :=
  { state with
    tables := { state.tables with invoices := state.tables.invoices.map write } }

def perform : ChargeAction → ChargeState
  | .beginPackage usage => state.beginPackage tenantId usage
  | .beginContract now usage => state.beginContract tenantId now usage
  | .beginCycle now usage planId => state.beginCycle tenantId now usage planId
  | .resume index inputs => state.resume tenantId index inputs
  | .crash index => { state with calls := state.calls.eraseIdx index }
  | .pay invoiceId =>
    state.setInvoices fun row =>
      if row.id = invoiceId ∧ row.status = .open_ then
        { row with status := .paid }
      else row
  | .void invoiceId =>
    state.setInvoices fun row => if row.id = invoiceId then { row with status := .void } else row

def Performs (before : ChargeState) (action : ChargeAction) (after : ChargeState) : Prop :=
  after = before.perform tenantId action

end ChargeState

def SamePeriod (first second : BillingInvoice) : Prop :=
  first.subscriptionId.isSome = true ∧ first.subscriptionId = second.subscriptionId ∧
    first.periodStart = second.periodStart ∧ first.periodEnd = second.periodEnd ∧
    first.status ≠ .void ∧ second.status ≠ .void

/-- Each period and each fee is charged once, and the credit is conserved. -/
structure ChargedOnce (tenantId : ℕ) (granted : ℤ) (state : ChargeState) : Prop where
  periods : state.tables.invoices.Pairwise fun first second => ¬ SamePeriod first second
  setups : ∀ fee, (state.setups.filter fun entry => decide
    (entry.1 = fee ∧ ∃ row ∈ state.tables.invoices,
      row.id = entry.2 ∧ row.status ≠ .void)).length ≤ 1
  credit : 0 ≤ state.tables.creditOf tenantId
  conserved : state.tables.creditOf tenantId + state.tables.creditUsed tenantId = granted

/-- What the draft of a call was computed from still holds: there is no
invoice of the period, the fees of the draft are not applied, and the credit
is not less. -/
def BillingState.PendingCall.UpToDate (tenantId : ℕ) (tables : BillingState) : PendingCall → Prop
  | .package _ => ∀ subscription, tables.subscriptionOf tenantId = some subscription →
        tables.tenantPeriodInvoice subscription = none
  | .contract draft credit _ | .cycle draft credit _ =>
    (∀ subscription, tables.subscriptionOf tenantId = some subscription →
        tables.periodInvoice subscription = none) ∧
    (draft.planSetup = true → ¬ tables.PlanApplied tenantId) ∧
    (∀ id ∈ draft.addonAssignments, ¬ tables.AddonApplied id) ∧ credit ≤ tables.creditOf tenantId

def ChargeState.Undisturbed (tenantId : ℕ) (state : ChargeState) : ChargeAction → Prop
  | .resume index _ => ∀ call, state.calls[index]? = some call → call.UpToDate tenantId state.tables
  | _ => True

end Ithute.Billing
