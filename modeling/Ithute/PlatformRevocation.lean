import Ithute.PlatformSessions

/-!
# Revocations of all sessions

A revocation is final when no session is committed between its sweep and its
commit, no other revocation between its read of the user and its commit, and
no sign-in or refresh commits after a revocation that its evaluation has not
seen.
-/

namespace Ithute

open TransitionRuns InterleavedCalls

namespace Platform

/-- The requests of a user and the tables they work on. -/
abbrev SessionWorld := Interleaved ℕ SessionTables AuthCall

def SessionWorld.start (user : User) (now : ℤ) : SessionWorld where
  shared := { user := user, now := now }
  calls _ := .idle

abbrev SessionWorld.next (tools : AuthTools) (world : SessionWorld)
    (move : ℕ × AuthStep) : SessionWorld :=
  world.act (SessionTables.perform tools) move

namespace SessionTables

/-- No token of an authentication that a committed revocation follows is
accepted. -/
structure RevocationFinal (tables : SessionTables) : Prop where
  sessions : ∀ session ∈ tables.sessions, session.origin < tables.revocations →
      tables.acceptsRefresh session = false
  accessTokens : ∀ token ∈ tables.accessTokens,
    token.origin < tables.revocations → tables.acceptsAccess token = false

/-- The commit of a sign-in or refresh follows no revocation that it has not
seen; that of a revocation follows no other since it read the user, and no
session that its sweep has missed. -/
def CalmCommit (tables : SessionTables) : AuthCall → Prop
  | .authenticated _ origin | .refreshing _ _ origin => origin = tables.revocations
  | .swept _ version sessionIds _ =>
    version = tables.user.sessionVersion ∧ ∀ session ∈ tables.sessions, session.revokedAt = none →
        session.id ∈ sessionIds
  | _ => True

instance CalmCommit.decidable (tables : SessionTables) (call : AuthCall) :
    Decidable (tables.CalmCommit call) :=
  match call with
  | .authenticated _ _ | .refreshing _ _ _ => inferInstanceAs (Decidable (_ = _))
  | .swept _ _ _ _ => inferInstanceAs (Decidable (_ ∧ ∀ _ ∈ _, _ → _))
  | .idle | .sessionRead _ _ | .revoking _ _ | .settingUp _ | .ended => .isTrue trivial

def Calm (before : SessionWorld) (move : ℕ × AuthStep) (_ : SessionWorld) : Prop :=
  move.2 = .commit → before.shared.CalmCommit (before.calls move.1)

instance Calm.decidable (before after : SessionWorld)
    (move : ℕ × AuthStep) : Decidable (Calm before move after) :=
  inferInstanceAs (Decidable (_ → _))

variable {base : ℕ} {tables after : SessionTables} {call : AuthCall}
variable {tools : AuthTools} {caller : ℕ}

/-- The version counts the revocations, and what is accepted goes back to an
authentication after the last of them. -/
structure OrderlySessions (base : ℕ) (tables : SessionTables) : Prop where
  version : tables.user.sessionVersion = base + tables.revocations
  sessions : ∀ session ∈ tables.sessions, session.revokedAt = none →
    session.origin = tables.revocations
  accessTokens : ∀ token ∈ tables.accessTokens, token.sv = base + token.origin

/-- A request has the version of a moment not before the authentication that
it goes back to. -/
def Dates (base : ℕ) (tables : SessionTables) (_ : ℕ) : AuthCall → Prop
  | .authenticated version origin => version = base + origin
  | .refreshing _ version origin =>
    ∃ epoch, version = base + epoch ∧ origin ≤ epoch ∧ epoch ≤ tables.revocations
  | .sessionRead _ origin => origin ≤ tables.revocations
  | .idle | .revoking _ _ | .swept _ _ _ _ | .settingUp _ | .ended => True

theorem Dates.later (dates : Dates base tables caller call)
    (later : tables.revocations ≤ after.revocations) : Dates base after caller call := by
  cases call with
  | refreshing sessionId version origin =>
    obtain ⟨epoch, at_, since, until_⟩ := dates
    exact ⟨epoch, at_, since, Nat.le_trans until_ later⟩
  | sessionRead sessionId origin => exact Nat.le_trans dates later
  | authenticated => exact dates
  | idle | revoking | swept | settingUp | ended => trivial

theorem OrderlySessions.final (orderly : OrderlySessions base tables) : RevocationFinal tables where
  sessions session member earlier := by
    cases revoked : session.revokedAt with
    | some at_ => simp [acceptsRefresh, revoked]
    | none =>
      have current := orderly.sessions session member revoked
      omega
  accessTokens token member earlier := by
    have version := orderly.version
    have minted := orderly.accessTokens token member
    have different : token.sv ≠ tables.user.sessionVersion := by omega
    simp [acceptsAccess, different]

theorem OrderlySessions.mint {version : ℕ} (orderly : OrderlySessions base tables)
    (current : version = base + tables.revocations) :
    OrderlySessions base (tables.mint tools version tables.revocations) where
  version := orderly.version
  sessions session member live := by
    rcases List.mem_append.mp member with earlier | new
    · exact orderly.sessions session earlier live
    · rw [List.mem_singleton] at new
      rw [new]
      rfl
  accessTokens token member := by
    rcases List.mem_append.mp member with earlier | new
    · exact orderly.accessTokens token earlier
    · rw [List.mem_singleton] at new
      rw [new]
      exact current

theorem OrderlySessions.revoke {ids : List ℕ} {now : ℤ} (orderly : OrderlySessions base tables) :
    OrderlySessions base (tables.revoke ids now) where
  version := orderly.version
  sessions session member live := by
    obtain ⟨stored, storedMem, rfl⟩ := List.mem_map.mp member
    split_ifs at live ⊢ with swept
    exact orderly.sessions stored storedMem live
  accessTokens := orderly.accessTokens

theorem revoked_of_swept {ids : List ℕ} {now : ℤ} {session : UserSession}
    (swept : ∀ session ∈ tables.sessions, session.revokedAt = none → session.id ∈ ids)
    (member : session ∈ (tables.revoke ids now).sessions) : session.revokedAt ≠ none := by
  obtain ⟨stored, storedMem, rfl⟩ := List.mem_map.mp member
  split_ifs with here
  · nofun
  · exact fun live => here (swept stored storedMem live)

structure Leaves (base : ℕ) (tables : SessionTables) (caller : ℕ)
    (result : SessionTables × AuthCall) : Prop where
  orderly : OrderlySessions base result.1
  dates : Dates base result.1 caller result.2
  later : tables.revocations ≤ result.1.revocations

theorem Leaves.of_call (orderly : OrderlySessions base tables)
    (dates : Dates base tables caller call) : Leaves base tables caller (tables, call) :=
  ⟨orderly, dates, Nat.le_refl _⟩

theorem perform_commit (orderly : OrderlySessions base tables)
    (dates : Dates base tables caller call) (calm : tables.CalmCommit call) :
    Leaves base tables caller (perform tools caller .commit tables call) := by
  cases call with
  | authenticated version origin =>
    cases calm
    exact ⟨orderly.mint dates, trivial, Nat.le_refl _⟩
  | refreshing sessionId version origin =>
    cases calm
    obtain ⟨epoch, at_, since, until_⟩ := dates
    have current : version = base + tables.revocations := by omega
    have revoked : OrderlySessions base (tables.revoke [sessionId] tables.now) := orderly.revoke
    exact ⟨revoked.mint current, trivial, Nat.le_refl _⟩
  | swept revocation version sessionIds at_ =>
    obtain ⟨same, swept⟩ := calm
    have before := orderly.version
    refine ⟨⟨?_, ?_, orderly.accessTokens⟩, trivial, Nat.le_succ _⟩
    · dsimp only [perform]
      omega
    · intro session member live
      exact absurd live (revoked_of_swept swept member)
  | settingUp secret =>
    exact ⟨⟨orderly.version, orderly.sessions, orderly.accessTokens⟩, trivial, Nat.le_refl _⟩
  | idle | sessionRead | revoking | ended => exact Leaves.of_call orderly dates

theorem perform_leaves {step : AuthStep} (orderly : OrderlySessions base tables)
    (dates : Dates base tables caller call) (calm : step = .commit → tables.CalmCommit call) :
    Leaves base tables caller (perform tools caller step tables call) := by
  cases step with
  | commit => exact perform_commit orderly dates (calm rfl)
  | tick passed =>
    exact ⟨⟨orderly.version, orderly.sessions, orderly.accessTokens⟩,
      dates.later (Nat.le_refl _), Nat.le_refl _⟩
  | login password secondFactor =>
    cases call with
    | idle =>
      dsimp only [perform]
      split
      · exact Leaves.of_call orderly orderly.version
      · exact Leaves.of_call orderly trivial
    | _ => exact Leaves.of_call orderly dates
  | passkeyAuthVerify verified =>
    cases call with
    | idle =>
      dsimp only [perform]
      split
      · exact Leaves.of_call orderly orderly.version
      · exact Leaves.of_call orderly trivial
    | _ => exact Leaves.of_call orderly dates
  | refresh token =>
    cases call with
    | idle =>
      dsimp only [perform]
      split
      · exact Leaves.of_call orderly trivial
      · rename_i session found
        split_ifs with accepted
        · simp only [Bool.and_eq_true, Option.isNone_iff_eq_none] at accepted
          exact Leaves.of_call orderly (Nat.le_of_eq (orderly.sessions session
              (List.mem_of_find?_eq_some found) accepted.1))
        · exact Leaves.of_call orderly trivial
    | _ => exact Leaves.of_call orderly dates
  | loadUser =>
    cases call with
    | sessionRead sessionId origin =>
      dsimp only [perform]
      split
      · exact Leaves.of_call orderly ⟨tables.revocations, orderly.version, dates, Nat.le_refl _⟩
      · exact Leaves.of_call orderly trivial
    | _ => exact Leaves.of_call orderly dates
  | revoke _ | mfaSetup _ =>
    cases call with
    | idle =>
      dsimp only [perform]
      split
      · exact Leaves.of_call orderly trivial
      · exact Leaves.of_call orderly trivial
    | _ => exact Leaves.of_call orderly dates
  | sweep =>
    cases call with
    | revoking => exact Leaves.of_call orderly trivial
    | _ => exact Leaves.of_call orderly dates

abbrev OrderlyWorld (base : ℕ) (world : SessionWorld) : Prop :=
  Sound (OrderlySessions base) (Dates base) world

theorem OrderlyWorld.next {world : SessionWorld} {move : ℕ × AuthStep}
    (orderly : OrderlyWorld base world)
    (calm : move.2 = .commit → world.shared.CalmCommit (world.calls move.1)) :
    OrderlyWorld base (world.next tools move) := by
  have leaves : Leaves base world.shared move.1
      (perform tools move.1 move.2 world.shared (world.calls move.1)) :=
    perform_leaves orderly.shared (orderly.calls move.1) calm
  exact orderly.act leaves.orderly leaves.dates
    fun other call different dates => dates.later leaves.later

theorem OrderlyWorld.start {user : User} {now : ℤ} :
    OrderlyWorld user.sessionVersion (.start user now) where
  shared := ⟨rfl, fun _ member => absurd member List.not_mem_nil,
    fun _ member => absurd member List.not_mem_nil⟩
  calls _ := trivial

/-- Revocations are final along every run whose commits are calm. -/
theorem revocations_final (tools : AuthTools) (user : User) (now : ℤ) (moves : List (ℕ × AuthStep))
    (calm : EveryStep (fun before move after => after = SessionWorld.next tools before move) Calm
      (.start user now) moves) :
    EveryStep (fun before move after => after = SessionWorld.next tools before move)
      (fun _ _ after => RevocationFinal after.shared) (.start user now) moves := by
  have begun : OrderlyWorld user.sessionVersion (.start user now) := .start
  refine EveryStep.of_invariant begun ?_ ?_ calm
  · rintro before move after orderly rfl meets
    exact orderly.next meets
  · rintro before move after orderly rfl meets
    exact (orderly.next meets).shared.final

def plainTools : AuthTools where
  hashPassword password := password
  verifyPassword password stored := password = stored
  verifyTotp secret code := secret = code
  accessLifetime := 10
  refreshLifetime := 100

def signedOut : User where
  passwordHash := "old"

def changedBetween : List (ℕ × AuthStep) :=
  [(0, .login "old" true), (0, .commit), (1, .revoke (.changePassword "old" "new")),
    (1, .sweep), (1, .commit), (2, .login "new" true), (2, .commit)]

theorem changedBetween_final : EveryStep (fun before move after =>
        after = SessionWorld.next plainTools before move)
      (fun _ _ after => RevocationFinal after.shared)
      (.start signedOut 0) changedBetween :=
  revocations_final plainTools signedOut 0 changedBetween
    (EveryStep.of_stepByStep (by decide +kernel))

/-- The sign-in is evaluated before the change and commits after it. -/
def changedMeanwhile : List (ℕ × AuthStep) :=
  [(0, .login "old" true), (1, .revoke (.changePassword "old" "new")),
    (1, .sweep), (1, .commit), (0, .commit)]

theorem changedMeanwhile_survives : ¬ ∀ (tools : AuthTools) (user : User) (now : ℤ)
        (moves : List (ℕ × AuthStep)), EveryStep (fun before move after =>
            after = SessionWorld.next tools before move)
          (fun _ _ after => RevocationFinal after.shared)
          (.start user now) moves := by
  intro always
  have final := always plainTools signedOut 0 changedMeanwhile
    changedMeanwhile.dropLast (0, .commit) [] _ _ rfl (Run.of_foldl _ _ _) rfl
  have refused := final.sessions { id := 0, origin := 0, expiresAt := 100 }
    (by decide +kernel) (by decide +kernel)
  revert refused
  decide +kernel

end SessionTables

end Platform

end Ithute
