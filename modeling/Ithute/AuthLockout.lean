import Ithute.Library.TransitionRuns
import Ithute.AuthSignInSteps

/-!
# The lock of an account

Every wrong guess that a handler counts is evaluated while the account is not
locked, and the last of them locks it.  A step-up evaluates a wrong password
without counting it.
-/

namespace Ithute.Auth

open LockoutCounter TransitionRuns

def eventsOf (history : List AccountEvent) (userId : ℕ) : List Event :=
  (history.filter fun entry => decide (entry.userId = userId)).map AccountEvent.event

theorem eventsOf_cons_self (userId : ℕ) (event : Event) (history : List AccountEvent) :
    eventsOf ({ userId := userId, event := event } :: history) userId =
      event :: eventsOf history userId := by
  simp [eventsOf]

theorem eventsOf_cons_other {userId other : ℕ} (apart : other ≠ userId)
    (event : Event) (history : List AccountEvent) :
    eventsOf ({ userId := userId, event := event } :: history) other = eventsOf history other := by
  simp [eventsOf, apart.symm]

def SignInSettings.lockPeriod (settings : SignInSettings) : ℕ :=
  settings.loginLockMinutes * microsPerMinute

def Account.Tracked (settings : SignInSettings) (now : ℕ)
    (history : List AccountEvent) (account : Account) : Prop :=
  Tracks settings.maxLoginFailures settings.lockPeriod now account.counter
    (eventsOf history account.id)

namespace SignInState

/-- No period without a sign-in or a reset holds more wrong guesses against
one account than the lock allows. -/
def GuessesBounded (settings : SignInSettings) (state : SignInState) : Prop :=
  ∀ userId, Bounded settings.maxLoginFailures settings.lockPeriod (eventsOf state.history userId)

structure LockInvariant (settings : SignInSettings) (state : SignInState) : Prop where
  tracked : ∀ account ∈ state.accounts, account.Tracked settings state.clock state.history
  bounded : state.GuessesBounded settings

def Overlooks (services : SignInServices) (settings : SignInSettings)
    (state : SignInState) : SignInAction → Prop
  | .stepUpPost form input => (state.wrongStepUp services settings form input).isSome = true
  | _ => False

namespace LockInvariant

variable {services : SignInServices} {settings : SignInSettings} {before after : SignInState}

theorem start (positive : 0 < settings.maxLoginFailures)
    (fresh : before.history = []) : before.LockInvariant settings where
  tracked := by
    intro account _
    rw [Account.Tracked, fresh]
    exact Tracks.none (by omega)
  bounded := by
    intro userId
    rw [fresh]
    exact (@Tracks.none _ _ 0 {} (by omega)).bounded

theorem keep (invariant : before.LockInvariant settings)
    (accounts : after.accounts = before.accounts) (history : after.history = before.history)
    (clock : before.clock ≤ after.clock) : after.LockInvariant settings where
  tracked := by
    rw [accounts, history]
    intro account member
    exact (invariant.tracked account member).wait clock
  bounded := by
    intro userId
    rw [history]
    exact invariant.bounded userId

theorem save {saved : Account} (invariant : before.LockInvariant settings)
    (accounts : after.accounts = (before.saveAccount saved).accounts)
    (clock : after.clock = before.clock) (others : ∀ userId, userId ≠ saved.id →
      eventsOf after.history userId = eventsOf before.history userId)
    (tracked : saved.Tracked settings before.clock after.history) :
    after.LockInvariant settings where
  tracked := by
    rw [accounts, clock]
    refine @UniqueRows.forall_replace Account _ ℕ _ (fun row => row.id) _ saved ?_ tracked
    intro account member apart
    rw [Account.Tracked, others account.id apart]
    exact invariant.tracked account member
  bounded := by
    intro userId
    by_cases same : userId = saved.id
    · rw [same]
      exact tracked.bounded
    · rw [others userId same]
      exact invariant.bounded userId

theorem reject {user : Account} (invariant : before.LockInvariant settings)
    (positive : 0 < settings.maxLoginFailures) (member : user ∈ before.accounts)
    (unlocked : user.isLocked before.clock = false) (accounts : after.accounts = (before.saveAccount
      (user.countFailure settings before.clock)).accounts) (clock : after.clock = before.clock)
    (history : after.history =
      { userId := user.id
        event := { time := before.clock, failed := true } } ::
          before.history) : after.LockInvariant settings := by
  refine invariant.save accounts clock ?_ ?_
  · intro userId apart
    rw [Account.countFailure_id] at apart
    rw [history, eventsOf_cons_other apart]
  · rw [Account.Tracked, history, Account.countFailure_counter,
      Account.countFailure_id, eventsOf_cons_self]
    exact (invariant.tracked user member).fail positive unlocked

theorem clear {user saved : Account} (invariant : before.LockInvariant settings)
    (positive : 0 < settings.maxLoginFailures) (member : user ∈ before.accounts)
    (accounts : after.accounts = (before.saveAccount saved).accounts)
    (same : saved.id = user.id) (cleared : saved.counter = {}) (clock : after.clock = before.clock)
    (history : after.history =
      { userId := user.id
        event := { time := before.clock, failed := false } } ::
          before.history) : after.LockInvariant settings := by
  refine invariant.save accounts clock ?_ ?_
  · intro userId apart
    rw [history, eventsOf_cons_other (same ▸ apart)]
  · rw [Account.Tracked, history, cleared, same, eventsOf_cons_self]
    exact (invariant.tracked user member).clear positive

theorem signIn {user : Account} (invariant : before.LockInvariant settings)
    (positive : 0 < settings.maxLoginFailures)
    (member : user ∈ before.accounts) (lastLoginIp : Option String) (accounts : after.accounts =
      (before.saveAccount (before.signedIn user lastLoginIp)).accounts)
    (clock : after.clock = before.clock) (history : after.history =
      { userId := user.id
        event := { time := before.clock, failed := false } } ::
          before.history) : after.LockInvariant settings :=
  invariant.clear positive member accounts rfl rfl clock history

theorem silent {user saved : Account} (invariant : before.LockInvariant settings)
    (member : user ∈ before.accounts)
    (accounts : after.accounts = (before.saveAccount saved).accounts) (same : saved.id = user.id)
    (counted : saved.counter = user.counter ∨
      saved.counter = user.counter.fail settings.maxLoginFailures settings.lockPeriod before.clock)
    (clock : after.clock = before.clock) (history : after.history = before.history) :
    after.LockInvariant settings := by
  refine invariant.save accounts clock (fun _ _ => by rw [history]) ?_
  have tracked := invariant.tracked user member
  rw [Account.Tracked, history, same]
  rcases counted with kept | failed
  · rw [kept]
    exact tracked
  · rw [failed]
    exact tracked.bump

theorem effect {action : SignInAction} (invariant : before.LockInvariant settings)
    (positive : 0 < settings.maxLoginFailures)
    (counted : ¬ before.Overlooks services settings action)
    (effect : Effect services settings before action after) : after.LockInvariant settings := by
  cases effect with
  | quiet audits => exact invariant.keep rfl rfl (Nat.le_refl _)
  | waits elapsed => exact invariant.keep rfl rfl (Nat.le_add_right _ _)
  | configures codes applications => exact invariant.keep rfl rfl (Nat.le_refl _)
  | rejects user eventType clientId ipAddress member unlocked =>
    exact invariant.reject positive member unlocked rfl rfl rfl
  | overlooks user form input audits wrong => exact absurd (by rw [Overlooks, wrong]; rfl) counted
  | rejectsPasskey user audits member =>
    have counter := user.countFailure_counter settings before.clock
    exact @silent _ before _ user (user.countFailure settings before.clock)
      invariant member rfl rfl (Or.inr counter) rfl rfl
  | signsIn request input user factor member checked strong free =>
    exact invariant.signIn positive member request.ipAddress rfl rfl rfl
  | reuses user claims request scope input issued member cookie allowed issues =>
    rw [(issueCode_spec issues).2]
    exact invariant.keep rfl rfl (Nat.le_refl _)
  | authorizes user factor form scope input issued member unprivileged issues =>
    rw [(issueCode_spec issues).2]
    exact invariant.signIn positive member form.ipAddress rfl rfl rfl
  | stepsUp user factor form scope input issued member strong issues =>
    rw [(issueCode_spec issues).2]
    exact invariant.signIn positive member user.lastLoginIp rfl rfl rfl
  | exchanges request input exchange row now owner ready free =>
    exact invariant.keep rfl rfl (Nat.le_refl _)
  | signsInByPasskey user assertion input member free =>
    exact invariant.signIn positive member assertion.ipAddress rfl rfl rfl
  | opensPortal user assertion input member =>
    exact invariant.signIn positive member assertion.ipAddress rfl rfl rfl
  | changes user change member =>
    have counter := change.apply_counter user
    cases clears : change.clears with
    | true =>
      rw [clears, if_pos rfl] at counter
      exact @clear _ before _ user (change.apply user) invariant positive
        member rfl (change.apply_id user) counter rfl rfl
    | false =>
      rw [clears, if_neg Bool.false_ne_true] at counter
      exact @silent _ before _ user (change.apply user) invariant member
        rfl (change.apply_id user) (Or.inl counter) rfl rfl

end LockInvariant

/-- Unless a step-up evaluates a wrong password, an account sees at most as
many wrong guesses as the lock allows in any period without a sign-in or a
reset. -/
theorem run_guessesBounded (services : SignInServices)
    (settings : SignInSettings) {start state : SignInState} {actions : List SignInAction}
    (positive : 0 < settings.maxLoginFailures) (fresh : start.history = [])
    (run : Run (Performs services settings) start actions state)
    (counted : EveryStep (Performs services settings)
      (fun before action _ => ¬ before.Overlooks services settings action)
      start actions) : state.GuessesBounded settings := by
  have invariant : state.LockInvariant settings := by
    refine run.invariant_of_everyStep (LockInvariant.start positive fresh) ?_ counted
    intro before action after invariant move counted
    rw [Performs] at move
    rw [move]
    exact invariant.effect positive counted (perform_effect services settings before action)
  exact invariant.bounded

def wrongForm : CredentialsForm where
  request := consoleRequest
  identifier := "owner"
  password := "wrong"
  mfaCode := "0"
  ipAddress := none

def wrongLogin : LoginRequest where
  identifier := "owner"
  password := "wrong"
  clientId := "mailbox-dns"
  mfaCode := none
  ipAddress := none

theorem run_guessesBounded_locked : GuessesBounded {} (signedInAfter ownerState
      (List.replicate 8 (.login wrongLogin {}))) := by
  refine run_guessesBounded plainCredentials {} (by decide) rfl (Run.of_foldl _ _ _) ?_
  intro front action back before after split _ _
  have member : action ∈ List.replicate 8 (.login wrongLogin {}) := by
    rw [split]
    simp
  rw [List.eq_of_mem_replicate member]
  exact id

/-- Six step-ups in a row evaluate a wrong password. -/
theorem stepUps_unbounded : Run (Performs plainCredentials {}) ownerState
        (List.replicate 6 (.stepUpPost wrongForm {})) (signedInAfter ownerState
          (List.replicate 6 (.stepUpPost wrongForm {}))) ∧
      ¬ GuessesBounded {} (signedInAfter ownerState
        (List.replicate 6 (.stepUpPost wrongForm {}))) := by
  refine ⟨Run.of_foldl _ _ _, ?_⟩
  intro bounded
  have history : (signedInAfter ownerState (List.replicate 6 (.stepUpPost wrongForm {}))).history =
        List.replicate 6 { userId := 7, event := { time := 0, failed := true } } := by
    decide +kernel
  have here := bounded 7 0
  rw [history] at here
  exact absurd here (by decide +kernel)

end SignInState

end Ithute.Auth
