import Ithute.Library.TransitionRuns
import Ithute.Library.UniqueRows
import Ithute.BillingInvoiceStates
import Ithute.BillingCheckout

/-!
# Confirmed checkouts

A confirmation is settled again each time its callback comes, whatever the
state of the invoice.  A token reaches its invoice until a second checkout
has stored another one.
-/

namespace Ithute.Billing

open TransitionRuns

theorem ProviderAnswer.toExcept_ok {α : Type} {provider : ProviderAnswer α}
    {value : α} (answered : provider.toExcept = .ok value) : provider = .answers value := by
  cases provider with
  | configurationError message => cases answered
  | requestError message => cases answered
  | answers other =>
    cases answered
    rfl

namespace CheckoutState

variable {services : CheckoutServices} {before after : CheckoutState}

/-- A callback whose invoice is paid changes no invoice and no
subscription. -/
def ReplayUnchanged (before : CheckoutState) (action : CheckoutAction)
    (after : CheckoutState) : Prop :=
  match action with
  | .callback request _ _ _ => ∀ token row, request.token = some token →
      before.tables.invoiceOfToken token = some row → row.status = .paid →
        after.tables.invoices = before.tables.invoices ∧
          after.tables.subscriptions = before.tables.subscriptions
  | _ => True

def VoidUnpaid (before after : CheckoutState) : Prop :=
  ∀ id row later, before.tables.invoice? id = some row →
    row.status = .void → after.tables.invoice? id = some later → later.status ≠ .paid

def TokensReach (state : CheckoutState) : Prop :=
  ∀ entry ∈ state.issued, ∃ row, state.tables.invoiceOfToken entry.1 = some row ∧ row.id = entry.2

structure UniqueIds (state : CheckoutState) : Prop where
  invoices : (state.tables.invoices.map fun row => row.id).Nodup
  subscriptions : (state.tables.subscriptions.map fun row => row.id).Nodup

def Confirms (services : CheckoutServices) (state : CheckoutState)
    (action : CheckoutAction) (row : BillingInvoice) : Prop :=
  match action with
  | .callback request configured response id =>
    ∃ token verification, request.token = some token ∧
      state.tables.invoiceOfToken token = some row ∧
      dpoVerifyToken configured response = .answers verification ∧
      verification.lookup "Result" = some "000" ∧
      (state.tables.recordVerification (state.tables.verificationEvent
        services row token verification id)).isSome = true
  | _ => False

/-- A confirmation of a paid invoice would change it or its subscription. -/
def Rewrites (services : CheckoutServices) (state : CheckoutState)
    (action : CheckoutAction) : Prop :=
  ∃ row, Confirms services state action row ∧ row.status = .paid ∧
    (row.paidAt ≠ some state.tables.clock ∨
      ∃ subscription ∈ row.subscriptionId.bind state.tables.subscription?,
        PaymentState.confirmedSubscription subscription ≠ subscription)

def PaysVoid (services : CheckoutServices) (state : CheckoutState)
    (action : CheckoutAction) : Prop :=
  ∃ row, Confirms services state action row ∧ row.status = .void

def Links (state : CheckoutState) (action : CheckoutAction)
    (row : BillingInvoice) (token : String) : Prop :=
  match action with
  | .checkout tenantId invoiceId configured response =>
    state.tables.invoice? invoiceId = some row ∧ row.tenantId = tenantId ∧
      (row.status = .open_ ∨ row.status = .draft) ∧
      dpoCreateToken configured response = .answers token ∧ PaymentState.fits 160 token = true
  | _ => False

def Overwrites (state : CheckoutState) (action : CheckoutAction) : Prop :=
  ∃ row token, state.Links action row token ∧ ∃ entry ∈ state.issued, entry.2 = row.id

variable {action : CheckoutAction} {row : BillingInvoice}

theorem Confirms.called {state : CheckoutState} (confirms : Confirms services state action row) :
    ∃ request configured response id, action = .callback request configured response id := by
  cases action with
  | callback request configured response id => exact ⟨_, _, _, _, rfl⟩
  | wait elapsed => exact confirms.elim
  | checkout tenantId invoiceId configured response => exact confirms.elim
  | cancel tenantId => exact confirms.elim
  | voidInvoice id => exact confirms.elim

theorem Confirms.same {state : CheckoutState} {action : CheckoutAction}
    {row other : BillingInvoice} (here : Confirms services state action row)
    (there : Confirms services state action other) : other = row := by
  obtain ⟨_, _, _, _, rfl⟩ := here.called
  obtain ⟨token, _, presented, found, _⟩ := here
  obtain ⟨_, _, otherPresented, otherFound, _⟩ := there
  cases presented.symm.trans otherPresented
  exact Option.some.inj (otherFound.symm.trans found)

variable {token : String}

theorem Links.called {state : CheckoutState} (links : state.Links action row token) :
    ∃ tenantId invoiceId configured response,
      action = .checkout tenantId invoiceId configured response := by
  cases action with
  | checkout tenantId invoiceId configured response => exact ⟨_, _, _, _, rfl⟩
  | wait elapsed => exact links.elim
  | callback request configured response id => exact links.elim
  | cancel tenantId => exact links.elim
  | voidInvoice id => exact links.elim

/-- What a step does to the invoices, the subscriptions and the tokens. -/
inductive Effect (services : CheckoutServices) (before : CheckoutState)
    (action : CheckoutAction) (after : CheckoutState) : Prop
  | keeps (unconfirmed : ∀ row, ¬ Confirms services before action row)
      (unlinked : ∀ row token, ¬ before.Links action row token)
      (invoices : after.tables.invoices = before.tables.invoices) (subscriptions :
        after.tables.subscriptions = before.tables.subscriptions)
      (issued : after.issued = before.issued) : Effect services before action after
  | cancels (known : TenantSubscription) (called : ∃ tenantId, action = .cancel tenantId)
      (invoices : after.tables.invoices = before.tables.invoices)
      (subscriptions : after.tables.subscriptions = (before.tables.cancel known).subscriptions)
      (issued : after.issued = before.issued) : Effect services before action after
  | voids (row : BillingInvoice) (called : ∃ id, action = .voidInvoice id)
      (found : before.tables.invoice? row.id = some row) (invoices : after.tables.invoices =
        (before.tables.writeInvoice { row with status := .void }).invoices)
      (subscriptions : after.tables.subscriptions = before.tables.subscriptions)
      (issued : after.issued = before.issued) : Effect services before action after
  | links (row saved : BillingInvoice) (token : String) (linked : before.Links action row token)
      (found : before.tables.invoice? row.id = some row) (same : saved.id = row.id)
      (stored : saved.providerInvoiceId = some token) (opened : saved.status = .open_)
      (invoices : after.tables.invoices = (before.tables.writeInvoice saved).invoices)
      (subscriptions : after.tables.subscriptions = before.tables.subscriptions)
      (issued : after.issued = before.issued ++ [(token, row.id)]) :
      Effect services before action after
  | confirms (row : BillingInvoice) (confirmed : Confirms services before action row)
      (member : row ∈ before.tables.invoices)
      (invoices : after.tables.invoices = (before.tables.writeInvoice
        (before.tables.paidInvoice row)).invoices)
      (subscriptions : after.tables.subscriptions = (before.tables.confirm row).subscriptions)
      (issued : after.issued = before.issued) : Effect services before action after

variable {tables : PaymentState}

theorem invoiceOfToken_spec (found : tables.invoiceOfToken token = some row) :
    row ∈ tables.invoices ∧ row.providerInvoiceId = some token :=
  UniqueRows.find?_decide found

theorem recordVerification_spec {recorded : PaymentState} {event : BillingPaymentEvent}
    (recording : tables.recordVerification event = some recorded) :
    recorded = { tables with events := recorded.events } := by
  unfold PaymentState.recordVerification at recording
  split at recording
  · cases recording
    rfl
  · split at recording
    · cases recording
      rfl
    · cases recording

theorem confirm_invoices (tables : PaymentState) (row : BillingInvoice) :
    (tables.confirm row).invoices = (tables.writeInvoice (tables.paidInvoice row)).invoices := by
  unfold PaymentState.confirm
  dsimp only
  split <;> rfl

theorem confirm_subscriptions (tables : PaymentState) (row : BillingInvoice) :
    (tables.confirm row).subscriptions = (row.subscriptionId.bind tables.subscription?).elim
        tables.subscriptions fun known =>
          (tables.writeSubscription (PaymentState.confirmedSubscription known)).subscriptions := by
  unfold PaymentState.confirm
  dsimp only
  cases row.subscriptionId.bind tables.subscription? <;> rfl

theorem dpoCallback_effect (services : CheckoutServices)
    (before : CheckoutState) (request : CallbackRequest) (configured : Bool)
    (response : ProviderResponse) (id : ℕ) :
    Effect services before (.callback request configured response id)
      (before.dpoCallback services request (dpoVerifyToken configured response) id).1 := by
  have keeps (refused : ∀ row, ¬ Confirms services before
      (.callback request configured response id) row) :
      Effect services before (.callback request configured response id)
        before :=
    .keeps refused (fun _ _ linked => linked) rfl rfl rfl
  unfold dpoCallback
  split
  · rename_i missing
    refine keeps ?_
    rintro row ⟨token, verification, presented, _⟩
    rw [missing] at presented
    cases presented
  · rename_i token presented
    unfold completeDpoPayment
    split
    · rename_i missing
      refine keeps ?_
      rintro row ⟨other, verification, otherPresented, found, _⟩
      cases presented.symm.trans otherPresented
      rw [missing] at found
      cases found
    · rename_i row found
      split
      · rename_i failure failed
        refine keeps ?_
        rintro other ⟨_, verification, _, _, answered, _⟩
        rw [answered] at failed
        cases failed
      · rename_i verification verified
        have answered := ProviderAnswer.toExcept_ok verified
        split
        · rename_i unrecorded
          refine keeps ?_
          rintro other ⟨otherToken, otherVerification, otherPresented,
            otherFound, otherAnswered, _, recorded⟩
          cases presented.symm.trans otherPresented
          cases found.symm.trans otherFound
          cases answered.symm.trans otherAnswered
          rw [unrecorded] at recorded
          cases recorded
        · rename_i recorded recording
          have unchanged := recordVerification_spec recording
          dsimp only
          split
          · rename_i confirmed
            refine .confirms row ?_ (invoiceOfToken_spec found).1 ?_ ?_ rfl
            · refine ⟨token, verification, presented, found, answered, confirmed, ?_⟩
              rw [recording]
              rfl
            · dsimp only
              rw [unchanged, confirm_invoices]
              rfl
            · dsimp only
              rw [unchanged, confirm_subscriptions, confirm_subscriptions]
              rfl
          · rename_i unconfirmed
            refine .keeps ?_ (fun _ _ linked => linked) ?_ ?_ rfl
            · rintro other ⟨otherToken, otherVerification, otherPresented,
                otherFound, otherAnswered, confirmed, _⟩
              cases answered.symm.trans otherAnswered
              exact unconfirmed confirmed
            · dsimp only
              rw [unchanged]
            · dsimp only
              rw [unchanged]

theorem createDpoCheckout_effect (services : CheckoutServices)
    (before : CheckoutState) (tenantId invoiceId : ℕ) (configured : Bool)
    (response : ProviderResponse) :
    Effect services before (.checkout tenantId invoiceId configured response)
      (before.createDpoCheckout tenantId invoiceId (dpoCreateToken configured response)).1 := by
  have keeps (refused : ∀ row token, ¬ before.Links
      (.checkout tenantId invoiceId configured response) row token) : Effect services before
        (.checkout tenantId invoiceId configured response) before :=
    .keeps (fun _ confirmed => confirmed) refused rfl rfl rfl
  unfold createDpoCheckout
  split
  · rename_i missing
    refine keeps ?_
    rintro row token ⟨found, _⟩
    rw [missing] at found
    cases found
  · rename_i row found
    split
    · rename_i foreign
      refine keeps ?_
      rintro other token ⟨otherFound, owner, _⟩
      cases found.symm.trans otherFound
      exact foreign owner
    · rename_i owner
      rw [not_not] at owner
      split
      · rename_i paid
        refine keeps ?_
        rintro other token ⟨otherFound, _, payable, _⟩
        cases found.symm.trans otherFound
        rw [paid] at payable
        rcases payable with opened | draft
        · cases opened
        · cases draft
      · split
        · rename_i unpayable
          refine keeps ?_
          rintro other token ⟨otherFound, _, payable, _⟩
          cases found.symm.trans otherFound
          exact payable.elim unpayable.1 unpayable.2
        · rename_i payable
          rw [not_and_or, not_not, not_not] at payable
          split
          · rename_i failure failed
            refine keeps ?_
            rintro other token ⟨_, _, _, answered, _⟩
            rw [answered] at failed
            cases failed
          · rename_i token created
            have answered := ProviderAnswer.toExcept_ok created
            split
            · rename_i fitting
              dsimp only
              refine .links row _ token ⟨found, owner, payable, answered,
                fitting⟩ ?_ ?_ ?_ ?_ rfl rfl rfl
              · rw [(PaymentState.invoice?_spec found).2]
                exact found
              · split <;> rfl
              · split <;> rfl
              · split
                · rfl
                · rename_i notDraft
                  exact payable.resolve_right notDraft
            · rename_i tooLong
              refine keeps ?_
              rintro other otherToken ⟨_, _, _, otherAnswered, fitting⟩
              cases answered.symm.trans otherAnswered
              exact tooLong fitting

theorem perform_effect (services : CheckoutServices)
    (before : CheckoutState) (action : CheckoutAction) :
    Effect services before action (before.perform services action) := by
  cases action with
  | wait elapsed =>
    exact .keeps (fun _ confirmed => confirmed) (fun _ _ linked => linked) rfl rfl rfl
  | checkout tenantId invoiceId configured response =>
    exact createDpoCheckout_effect services before tenantId invoiceId configured response
  | callback request configured response id =>
    exact dpoCallback_effect services before request configured response id
  | cancel tenantId =>
    unfold perform cancelSubscription
    dsimp only
    split
    · exact .keeps (fun _ confirmed => confirmed) (fun _ _ linked => linked) rfl rfl rfl
    · rename_i known found
      exact .cancels known ⟨tenantId, rfl⟩ rfl rfl rfl
  | voidInvoice id =>
    unfold perform CheckoutState.voidInvoice
    dsimp only
    split
    · exact .keeps (fun _ confirmed => confirmed) (fun _ _ linked => linked) rfl rfl rfl
    · rename_i row found
      refine .voids row ⟨id, rfl⟩ ?_ rfl rfl rfl
      rw [(PaymentState.invoice?_spec found).2]
      exact found

theorem subscription?_spec {id : ℕ}
    {row : TenantSubscription} (found : tables.subscription? id = some row) :
    row ∈ tables.subscriptions :=
  List.mem_of_find?_eq_some found

theorem UniqueIds.effect (unique : before.UniqueIds)
    (effect : Effect services before action after) : after.UniqueIds := by
  have written (saved : BillingInvoice) : ((before.tables.writeInvoice saved).invoices.map
        fun row => row.id).Nodup := by
    refine (congrArg List.Nodup ?_).mpr unique.invoices
    exact UniqueRows.map_key_replace saved
  have writtenSubscription (saved : TenantSubscription) :
      ((before.tables.writeSubscription saved).subscriptions.map fun row => row.id).Nodup := by
    refine (congrArg List.Nodup ?_).mpr unique.subscriptions
    exact UniqueRows.map_key_replace saved
  cases effect with
  | keeps unconfirmed unlinked invoices subscriptions issued =>
    exact ⟨invoices ▸ unique.invoices, subscriptions ▸ unique.subscriptions⟩
  | cancels known called invoices subscriptions issued =>
    exact ⟨invoices ▸ unique.invoices, subscriptions ▸ writtenSubscription _⟩
  | voids row called found invoices subscriptions issued =>
    exact ⟨invoices ▸ written _, subscriptions ▸ unique.subscriptions⟩
  | links row saved token linked found same stored opened invoices subscriptions issued =>
    exact ⟨invoices ▸ written _, subscriptions ▸ unique.subscriptions⟩
  | confirms row confirmed member invoices subscriptions issued =>
    refine ⟨invoices ▸ written _, ?_⟩
    rw [subscriptions, confirm_subscriptions]
    cases row.subscriptionId.bind before.tables.subscription? with
    | none => exact unique.subscriptions
    | some known => exact writtenSubscription _

theorem confirm_unchanged_iff (unique : before.UniqueIds)
    (member : row ∈ before.tables.invoices) (paid : row.status = .paid) :
    ((before.tables.confirm row).invoices = before.tables.invoices ∧
      (before.tables.confirm row).subscriptions = before.tables.subscriptions) ↔
      ¬ (row.paidAt ≠ some before.tables.clock ∨
        ∃ known ∈ row.subscriptionId.bind before.tables.subscription?,
          PaymentState.confirmedSubscription known ≠ known) := by
  have invoice_iff : (before.tables.confirm row).invoices =
      before.tables.invoices ↔ row.paidAt = some before.tables.clock := by
    have unchanged_iff := @PaymentState.writeInvoice_eq_iff before.tables row
      (before.tables.paidInvoice row) unique.invoices member rfl
    rw [confirm_invoices, unchanged_iff]
    unfold PaymentState.paidInvoice
    constructor
    · intro same
      rw [← same]
    · intro same
      rw [← paid, ← same]
  have subscription_iff : (before.tables.confirm row).subscriptions = before.tables.subscriptions ↔
        ∀ known ∈ row.subscriptionId.bind before.tables.subscription?,
          PaymentState.confirmedSubscription known = known := by
    rw [confirm_subscriptions]
    cases found : row.subscriptionId.bind before.tables.subscription? with
    | none => simp
    | some known =>
      obtain ⟨sought, _, looked⟩ := Option.bind_eq_some_iff.mp found
      have unchanged_iff := @UniqueRows.map_replace_eq_iff _ _ known ℕ _
        (fun row => row.id) unique.subscriptions (subscription?_spec looked)
        (PaymentState.confirmedSubscription known) rfl
      simpa [PaymentState.writeSubscription] using unchanged_iff
  rw [invoice_iff, subscription_iff, not_or, not_not, not_exists]
  simp only [not_and, not_not]

/-- A callback of a paid invoice changes nothing if and only if it does not
rewrite the payment. -/
theorem Effect.replayUnchanged_iff
    (effect : Effect services before action after) (unique : before.UniqueIds) :
    ReplayUnchanged before action after ↔ ¬ Rewrites services before action := by
  cases effect with
  | keeps unconfirmed unlinked invoices subscriptions issued =>
    refine ⟨fun _ ⟨row, confirmed, _⟩ => unconfirmed row confirmed, fun _ => ?_⟩
    cases action <;>
      first
      | exact True.intro
      | exact fun _ _ _ _ _ => ⟨invoices, subscriptions⟩
  | cancels known called invoices subscriptions issued =>
    obtain ⟨tenantId, rfl⟩ := called
    exact ⟨fun _ ⟨row, confirmed, _⟩ => confirmed, fun _ => True.intro⟩
  | voids row called found invoices subscriptions issued =>
    obtain ⟨id, rfl⟩ := called
    exact ⟨fun _ ⟨row, confirmed, _⟩ => confirmed, fun _ => True.intro⟩
  | links row saved token linked found same stored opened invoices subscriptions issued =>
    obtain ⟨_, _, _, _, rfl⟩ := linked.called
    exact ⟨fun _ ⟨row, confirmed, _⟩ => confirmed, fun _ => True.intro⟩
  | confirms row confirmed member invoices subscriptions issued =>
    rw [← confirm_invoices] at invoices
    obtain ⟨request, configured, response, id, rfl⟩ := confirmed.called
    have ⟨token, _, presented, found, _⟩ := confirmed
    constructor
    · rintro unchanged ⟨other, otherConfirmed, paid, differs⟩
      cases confirmed.same otherConfirmed
      have here := unchanged token row presented found paid
      rw [invoices, subscriptions] at here
      exact (confirm_unchanged_iff unique member paid).mp here differs
    · intro notRewrites other otherRow otherPresented otherFound paid
      cases presented.symm.trans otherPresented
      cases found.symm.trans otherFound
      rw [invoices, subscriptions]
      refine (confirm_unchanged_iff unique member paid).mpr ?_
      exact fun differs => notRewrites ⟨row, confirmed, paid, differs⟩

theorem Effect.void (effect : Effect services before action after)
    (unique : before.UniqueIds) : (¬ PaysVoid services before action →
      PaymentState.KeepsStatus (· = .void) before.tables after.tables) ∧
    (VoidUnpaid before after → ¬ PaysVoid services before action) := by
  cases effect with
  | keeps unconfirmed unlinked invoices subscriptions issued =>
    exact ⟨fun _ => .of_invoices invoices, fun _ ⟨row, confirmed, _⟩ => unconfirmed row confirmed⟩
  | cancels known called invoices subscriptions issued =>
    obtain ⟨tenantId, rfl⟩ := called
    exact ⟨fun _ => .of_invoices invoices, fun _ ⟨row, confirmed, _⟩ => confirmed⟩
  | voids row called found invoices subscriptions issued =>
    obtain ⟨id, rfl⟩ := called
    refine ⟨fun _ => ?_, fun _ ⟨row, confirmed, _⟩ => confirmed⟩
    exact PaymentState.keepsStatus_written row invoices rfl found Eq.symm
  | links row saved token linked found same stored opened invoices subscriptions issued =>
    obtain ⟨_, _, _, _, rfl⟩ := linked.called
    refine ⟨fun _ => ?_, fun _ ⟨row, confirmed, _⟩ => confirmed⟩
    refine PaymentState.keepsStatus_written row invoices same found ?_
    intro void
    obtain ⟨_, _, payable, _⟩ := linked
    rw [void] at payable
    rcases payable with opened | draft
    · cases opened
    · cases draft
  | confirms row confirmed member invoices subscriptions issued =>
    have found : before.tables.invoice? row.id = some row :=
      UniqueRows.find?_key unique.invoices member
    constructor
    · intro unpaid
      refine PaymentState.keepsStatus_written row invoices rfl found ?_
      exact fun void => absurd ⟨row, confirmed, void⟩ unpaid
    · rintro kept ⟨other, otherConfirmed, void⟩
      rw [confirmed.same otherConfirmed] at void
      have later := PaymentState.invoice?_written row invoices rfl found row.id
      rw [if_pos rfl] at later
      exact kept row.id row _ found void later rfl

variable {saved : BillingInvoice}

/-- A token reaches its invoice after another row was written, or the same
with the token. -/
theorem invoiceOfToken_written {found : BillingInvoice}
    (written : after.tables.invoices = (before.tables.writeInvoice saved).invoices)
    (reached : before.tables.invoiceOfToken token = some found)
    (still : found.id = saved.id → saved.providerInvoiceId = some token)
    (unmatched : ∀ other ∈ before.tables.invoices, other.id = saved.id →
      saved.providerInvoiceId = some token → other.providerInvoiceId = some token) :
    ∃ later, after.tables.invoiceOfToken token = some later ∧ later.id = found.id := by
  refine ⟨if found.id = saved.id then saved else found, ?_, ?_⟩
  · unfold PaymentState.invoiceOfToken at reached ⊢
    rw [written]
    refine UniqueRows.find?_map reached ?_ ?_
    · split
      · rename_i same
        exact decide_eq_true (still same)
      · exact decide_eq_true (invoiceOfToken_spec reached).2
    · intro other otherMem matched
      split at matched
      · rename_i same
        exact decide_eq_true (unmatched other otherMem same (of_decide_eq_true matched))
      · exact matched
  · split
    · rename_i same
      exact same.symm
    · rfl

theorem TokensReach.written
    (reach : before.TokensReach) (unique : before.UniqueIds) (written : after.tables.invoices =
      (before.tables.writeInvoice saved).invoices) (issued : after.issued = before.issued)
    (member : row ∈ before.tables.invoices) (same : saved.id = row.id)
    (token : saved.providerInvoiceId = row.providerInvoiceId) : after.TokensReach := by
  have isRow (other : BillingInvoice) (otherMem : other ∈ before.tables.invoices)
      (sameId : other.id = saved.id) : other = row :=
    List.inj_on_of_nodup_map unique.invoices otherMem member (sameId.trans same)
  intro entry entryMem
  rw [issued] at entryMem
  obtain ⟨found, reached, owner⟩ := reach entry entryMem
  obtain ⟨foundMem, stored⟩ := invoiceOfToken_spec reached
  obtain ⟨later, laterReached, sameOwner⟩ := invoiceOfToken_written written reached
    (fun sameId => by rw [token, ← isRow found foundMem sameId, stored])
    (fun other otherMem sameId matched => by rw [isRow other otherMem sameId, ← token, matched])
  exact ⟨later, laterReached, sameOwner.trans owner⟩

/-- The tokens reach their invoices after a checkout if and only if its
invoice had none. -/
theorem tokensReach_link_iff
    (reach : before.TokensReach) (fresh : (∀ entry ∈ before.issued, entry.1 ≠ token) ∧
      ∀ stored ∈ before.tables.invoices, stored.providerInvoiceId ≠ some token)
    (member : row ∈ before.tables.invoices) (same : saved.id = row.id)
    (linked : saved.providerInvoiceId = some token)
    (written : after.tables.invoices = (before.tables.writeInvoice saved).invoices)
    (issued : after.issued = before.issued ++ [(token, row.id)]) :
    after.TokensReach ↔ ¬ ∃ entry ∈ before.issued, entry.2 = row.id := by
  have stored_of {other : BillingInvoice} (otherMem : other ∈ after.tables.invoices) :
      other = saved ∨ other.id ≠ row.id ∧ other ∈ before.tables.invoices := by
    rw [written] at otherMem
    obtain ⟨stored, storedMem, rfl⟩ := List.mem_map.mp otherMem
    split
    · exact .inl rfl
    · rename_i differs
      rw [same] at differs
      exact .inr ⟨differs, storedMem⟩
  constructor
  · rintro reachAfter ⟨entry, entryMem, owner⟩
    have later := reachAfter entry (by
      rw [issued]
      exact List.mem_append_left _ entryMem)
    obtain ⟨found, reached, sameOwner⟩ := later
    obtain ⟨foundMem, stored⟩ := invoiceOfToken_spec reached
    rcases stored_of foundMem with isSaved | ⟨differs, _⟩
    · rw [isSaved, linked] at stored
      exact fresh.1 entry entryMem (Option.some.inj stored).symm
    · exact differs (sameOwner.trans owner)
  · intro unlinked entry entryMem
    rw [issued] at entryMem
    rcases List.mem_append.mp entryMem with old | new
    · obtain ⟨found, reached, owner⟩ := reach entry old
      have apart : ¬ saved.providerInvoiceId = some entry.1 := by
        rw [linked]
        intro equal
        exact fresh.1 entry old (Option.some.inj equal).symm
      obtain ⟨later, laterReached, sameOwner⟩ := invoiceOfToken_written written reached
        (fun sameId => absurd ⟨entry, old, owner.symm.trans (sameId.trans same)⟩ unlinked)
        (fun _ _ _ matched => absurd matched apart)
      exact ⟨later, laterReached, sameOwner.trans owner⟩
    · rw [List.mem_singleton.mp new]
      have savedMem : saved ∈ after.tables.invoices := by
        rw [written]
        exact List.mem_map.mpr ⟨row, member, if_pos same.symm⟩
      cases reached : after.tables.invoiceOfToken token with
      | none =>
        have missing := List.find?_eq_none.mp reached saved savedMem
        exact absurd (decide_eq_true linked) missing
      | some found =>
        obtain ⟨foundMem, stored⟩ := invoiceOfToken_spec reached
        rcases stored_of foundMem with isSaved | ⟨_, foundBefore⟩
        · exact ⟨found, rfl, by rw [isSaved, same]⟩
        · exact absurd stored (fresh.2 found foundBefore)

theorem Effect.tokensReach_iff (effect : Effect services before action after)
    (unique : before.UniqueIds) (reach : before.TokensReach) (fresh : before.TokensFresh action) :
    after.TokensReach ↔ ¬ before.Overwrites action := by
  have unwritten (invoices : after.tables.invoices = before.tables.invoices)
      (issued : after.issued = before.issued) : after.TokensReach := by
    intro entry entryMem
    rw [issued] at entryMem
    unfold PaymentState.invoiceOfToken
    rw [invoices]
    exact reach entry entryMem
  cases effect with
  | keeps unconfirmed unlinked invoices subscriptions issued =>
    exact ⟨fun _ ⟨row, token, linked, _⟩ => unlinked row token linked,
      fun _ => unwritten invoices issued⟩
  | cancels known called invoices subscriptions issued =>
    obtain ⟨tenantId, rfl⟩ := called
    exact ⟨fun _ ⟨row, token, linked, _⟩ => linked, fun _ => unwritten invoices issued⟩
  | voids row called found invoices subscriptions issued =>
    obtain ⟨id, rfl⟩ := called
    exact ⟨fun _ ⟨row, token, linked, _⟩ => linked, fun _ => reach.written unique invoices issued
        (PaymentState.invoice?_spec found).1 rfl rfl⟩
  | confirms row confirmed member invoices subscriptions issued =>
    obtain ⟨_, _, _, _, rfl⟩ := confirmed.called
    exact ⟨fun _ ⟨row, token, linked, _⟩ => linked,
      fun _ => reach.written unique invoices issued member rfl rfl⟩
  | links row saved token linked found same stored opened invoices subscriptions issued =>
    have member := (PaymentState.invoice?_spec found).1
    obtain ⟨_, _, _, _, rfl⟩ := linked.called
    rw [tokensReach_link_iff reach (fresh token linked.2.2.2.1)
      member same stored invoices issued, not_iff_not]
    constructor
    · exact fun earlier => ⟨row, token, linked, earlier⟩
    · rintro ⟨other, otherToken, otherLinked, earlier⟩
      cases linked.1.symm.trans otherLinked.1
      exact earlier

def StaysUnpaid (services : CheckoutServices) (start : CheckoutState)
    (actions : List CheckoutAction) : Prop :=
  ∀ front middle back first second, actions = front ++ middle ++ back →
    Run (Performs services) start front first →
      Run (Performs services) first middle second → VoidUnpaid first second

/-- Payments are confirmed once: replays change nothing, void invoices are
not paid, and every token that was issued reaches its invoice. -/
structure ConfirmsOnce (services : CheckoutServices) (start : CheckoutState)
    (actions : List CheckoutAction) : Prop where
  replays : EveryStep (Performs services) ReplayUnchanged start actions
  voids : StaysUnpaid services start actions
  tokens : EveryStep (Performs services) (fun _ _ after => after.TokensReach) start actions

structure Careful (services : CheckoutServices) (state : CheckoutState)
    (action : CheckoutAction) : Prop where
  replays : ¬ Rewrites services state action
  voids : ¬ PaysVoid services state action
  tokens : ¬ state.Overwrites action

theorem Performs.effect (move : Performs services before action after) :
    Effect services before action after := by
  rw [move.2]
  exact perform_effect services before action

variable (start : CheckoutState)

theorem run_replays_iff (unique : start.UniqueIds)
    (actions : List CheckoutAction) : EveryStep (Performs services) ReplayUnchanged start actions ↔
      EveryStep (Performs services) (fun before action _ => ¬ Rewrites services before action) start
        actions := by
  refine EveryStep.congr_of_invariant unique ?_ ?_ (fun _ _ => True.intro)
  · exact fun _ _ _ uniqueHere move _ => uniqueHere.effect move.effect
  · exact fun _ _ _ uniqueHere move => move.effect.replayUnchanged_iff uniqueHere

theorem run_tokens_iff (unique : start.UniqueIds)
    (reach : start.TokensReach) (actions : List CheckoutAction) :
    EveryStep (Performs services) (fun _ _ after => after.TokensReach) start actions ↔
      EveryStep (Performs services) (fun before action _ => ¬ before.Overwrites action) start
        actions := by
  refine @EveryStep.iff_of_stronger _ _ _ _ _ (fun state => state.UniqueIds ∧ state.TokensReach) _ _
    ⟨unique, reach⟩ (fun _ holds => holds.2) ?_ ?_
  · intro before action after holds move kept
    exact ⟨holds.1.effect move.effect, (move.effect.tokensReach_iff holds.1
      holds.2 move.1).mpr kept⟩
  · intro before action after holds move reached
    exact (move.effect.tokensReach_iff holds.1 holds.2 move.1).mp reached

theorem staysUnpaid_iff (unique : start.UniqueIds)
    (actions : List CheckoutAction) : StaysUnpaid services start actions ↔
      EveryStep (Performs services) (fun before action _ => ¬ PaysVoid services before action) start
        actions := by
  constructor
  · intro stays front action back before after split run move
    have uniqueHere : before.UniqueIds :=
      run.invariant unique fun _ _ _ unique move => unique.effect move.effect
    refine (move.effect.void uniqueHere).2 ?_
    refine stays front [action] back before after ?_ run (Run.single move)
    rw [split]
    simp
  · intro meets front middle back first second split run later
    have kept : EveryStep (Performs services) (fun before _ after =>
        PaymentState.KeepsStatus (· = .void) before.tables after.tables)
        start actions :=
      EveryStep.of_invariant unique (fun _ _ _ unique move _ => unique.effect move.effect)
        (fun _ _ _ unique move quiet => (move.effect.void unique).1 quiet) meets
    have between := @EveryStep.between _ _ _ _ _
      (fun before after => PaymentState.KeepsStatus (· = .void) before.tables after.tables)
      (fun state => PaymentState.KeepsStatus.refl state.tables)
      (fun _ _ _ => PaymentState.KeepsStatus.trans) kept _ _ _ _ _ split run later
    intro id row found rowFound void laterFound paid
    obtain ⟨other, otherFound, same⟩ := between id row rowFound void
    cases laterFound.symm.trans otherFound
    rw [paid, void] at same
    cases same

/-- From any tables whose tokens reach their invoices and along every run,
payments are confirmed once if and only if no confirmation reaches an invoice
that is paid and would change, none reaches a void invoice, and no checkout
is for an invoice that has had one. -/
theorem run_confirmsOnce_iff (services : CheckoutServices)
    (start : CheckoutState) (unique : start.UniqueIds)
    (reach : start.TokensReach) (actions : List CheckoutAction) :
    ConfirmsOnce services start actions ↔ EveryStep (Performs services)
        (fun before action _ => Careful services before action) start actions := by
  have careful_iff : EveryStep (Performs services)
      (fun before action _ => Careful services before action) start
      actions ↔ EveryStep (Performs services) (fun before action _ =>
        ¬ Rewrites services before action ∧ ¬ PaysVoid services before action ∧
            ¬ before.Overwrites action) start actions :=
    EveryStep.congr fun _ _ _ _ =>
      ⟨fun careful => ⟨careful.replays, careful.voids, careful.tokens⟩,
        fun ⟨replays, voids, tokens⟩ => ⟨replays, voids, tokens⟩⟩
  rw [careful_iff, EveryStep.and_iff, EveryStep.and_iff,
    ← run_replays_iff start unique, ← staysUnpaid_iff start unique,
    ← run_tokens_iff start unique reach]
  exact ⟨fun once => ⟨once.replays, once.voids, once.tokens⟩,
    fun ⟨replays, voids, tokens⟩ => ⟨replays, voids, tokens⟩⟩

def plainCheckouts : CheckoutServices where
  verificationHash _ := ""

def checkoutStart : CheckoutState where
  tables := PaymentState.starting [1]
    [{ id := 1, tenantId := 1, subscriptionId := some 2, status := .open_ }]
    [PaymentState.lateSubscription]

def created (token : String) : CheckoutAction :=
  .checkout 1 1 true (.ok [("Result", "000"), ("TransToken", token)])

def confirmation (id : ℕ) : CheckoutAction :=
  .callback (.returned (some "first") none) true (.ok [("Result", "000")]) id

theorem checkoutStart_uniqueIds : checkoutStart.UniqueIds := ⟨by decide, by decide⟩

theorem checkoutStart_reach : checkoutStart.TokensReach := fun _ none => nomatch none

theorem run_confirmsOnce_iff_created :
    ConfirmsOnce plainCheckouts checkoutStart [created "first"] := by
  refine (run_confirmsOnce_iff plainCheckouts checkoutStart
    checkoutStart_uniqueIds checkoutStart_reach _).mpr ?_
  intro front action back before after split run move
  cases front with
  | nil =>
    cases split
    cases run.eq_start
    refine ⟨?_, ?_, ?_⟩
    · exact fun ⟨_, confirmed, _⟩ => confirmed
    · exact fun ⟨_, confirmed, _⟩ => confirmed
    · exact fun ⟨_, _, _, _, issued, _⟩ => nomatch issued
  | cons head front => simp at split

theorem created_performs : Performs plainCheckouts checkoutStart (created "first")
      (checkoutStart.perform plainCheckouts (created "first")) := by
  refine ⟨?_, rfl⟩
  intro token answered
  have first : token = "first" := by
    cases answered
    rfl
  rw [first]
  exact ⟨by decide, by decide⟩

/-- A confirmation comes again after a cancellation, comes for a void
invoice, or comes with the token of the first of two checkouts. -/
theorem replay_reactivates : (∃ before after, Run (Performs plainCheckouts) checkoutStart
        [created "first", confirmation 10, .cancel 1] before ∧
      Performs plainCheckouts before (confirmation 11) after ∧
      (before.tables.subscriptions.map fun row => row.status) = [.canceled] ∧
      (after.tables.subscriptions.map fun row => row.status) = [.active] ∧
      ¬ ReplayUnchanged before (confirmation 11) after) ∧
    ¬ StaysUnpaid plainCheckouts checkoutStart [created "first", .voidInvoice 1, confirmation 10] ∧
    ¬ EveryStep (Performs plainCheckouts) (fun _ _ after => after.TokensReach)
      checkoutStart [created "first", created "second"] := by
  have linked := Run.single created_performs
  have performs (before : CheckoutState) (action : CheckoutAction)
      (fresh : before.TokensFresh action) : Performs plainCheckouts before action
        (before.perform plainCheckouts action) := ⟨fresh, rfl⟩
  refine ⟨?_, ?_, ?_⟩
  · have confirmed := linked.next (performs _ (confirmation 10) True.intro)
    have canceled := confirmed.next (performs _ (.cancel 1) True.intro)
    refine ⟨_, _, canceled, performs _ _ True.intro, by decide, by decide, ?_⟩
    intro unchanged
    have same := (unchanged "first" _ rfl rfl rfl).2
    exact absurd same (by decide)
  · intro stays
    have voided := linked.next (performs _ (.voidInvoice 1) True.intro)
    have confirms (before : CheckoutState) :=
      Run.single (performs before (confirmation 10) True.intro)
    exact stays [created "first", .voidInvoice 1] [confirmation 10] [] _ _ rfl
      voided (confirms _) 1 _ _ rfl rfl rfl rfl
  · intro reaches
    have fresh : (checkoutStart.perform plainCheckouts
        (created "first")).TokensFresh (created "second") := by
      intro token answered
      have second : token = "second" := by
        cases answered
        rfl
      rw [second]
      exact ⟨by decide, by decide⟩
    have reached := reaches [created "first"] (created "second") [] _ _ rfl
      linked (performs _ _ fresh) ("first", 1) (by decide)
    exact absurd reached (by decide)

end CheckoutState

end Ithute.Billing
