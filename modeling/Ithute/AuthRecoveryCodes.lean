import Ithute.Library.TransitionRuns
import Ithute.AuthTokenSteps
import Ithute.AuthSignIn

/-!
# Recovery codes

Requests that present a recovery code run concurrently with one another and
with the requests that replace the codes.  A request loads its user, checks
its code, and commits; one that replaces the codes deletes those that it
finds before it commits.  The query for a code takes no lock, and the rows
that a `DELETE` has found stay locked until its commit.

Identifiers are drawn in turn.
-/

namespace Ithute.Auth

open TransitionRuns

def SecondFactor.passing : SecondFactor → Option SecondFactor
  | .rejected | .raises => none
  | factor => some factor

inductive RecoveryOperation where
  /-- A login, an authorization or a change of passkeys. -/
  | signIn (code : Option String)
  /-- `disable_mfa`. -/
  | disable (code : Option String)
  /-- `portal_mfa_recovery_codes`. -/
  | regenerateInPortal (code : Option String)
  /-- `regenerate_recovery_codes`. -/
  | regenerate (code : String)
  /-- `confirm_mfa`. -/
  | confirm (code : String)

namespace RecoveryOperation

/-- The account has a secret and the code is the one of the moment. -/
def passesTotp (services : SignInServices) (account : Account) (code : String) (now : ℕ) : Bool :=
  ((presentText account.totpSecretEncrypted).bind services.decryptTotpSecret).any fun secret =>
      services.verifyTotp secret code now

/-- The factor by which the request passes; `none` refuses it. -/
def check (services : SignInServices) (rows : List MfaRecoveryCode)
    (account : Account) (now : ℕ) : RecoveryOperation → Option SecondFactor
  | .signIn code | .disable code => (verifySecondFactor services rows account code now).passing
  | .regenerateInPortal code =>
    if account.totpEnabled = false ∨ (presentText account.totpSecretEncrypted).isNone then none
    else (verifySecondFactor services rows account code now).passing
  | .regenerate code =>
    if account.totpEnabled = true ∧ passesTotp services account code now = true then some .totp
    else none
  | .confirm code =>
    if account.totpEnabled = false ∧ passesTotp services account code now = true then some .totp
    else none

def replaces : RecoveryOperation → Bool
  | .signIn _ => false
  | _ => true

def stores (codes : List String) : RecoveryOperation → List String
  | .signIn _ | .disable _ => []
  | _ => codes

def apply (account : Account) : RecoveryOperation → Account
  | .disable _ =>
    { account with
      totpEnabled := false
      totpSecretEncrypted := none
      securityVersion := account.securityVersion + 1 }
  | .confirm _ =>
    { account with
      totpEnabled := true
      securityVersion := account.securityVersion + 1 }
  | _ => account

end RecoveryOperation

inductive RecoveryCall where
  | loaded (operation : RecoveryOperation) (account : Account)
  | checked (operation : RecoveryOperation) (account : Account) (factor : SecondFactor)
  /-- The `DELETE` has found its rows and waits for their locks. -/
  | deleting (operation : RecoveryOperation) (account : Account)
      (factor : SecondFactor) (found : List ℕ)
  | deleted (operation : RecoveryOperation) (account : Account)
      (factor : SecondFactor) (found : List ℕ)

namespace RecoveryCall

def held : RecoveryCall → List ℕ
  | .deleted _ _ _ found => found
  | _ => []

def passed? : RecoveryCall → Option (Account × ℕ)
  | .checked _ account (.recovery id) | .deleting _ account (.recovery id) _
  | .deleted _ account (.recovery id) _ => some (account, id)
  | _ => none

end RecoveryCall

structure RecoveryState where
  clock : ℕ := 0
  accounts : List Account := []
  rows : List MfaRecoveryCode := []
  nextId : ℕ := 0
  calls : List RecoveryCall := []
  /-- The codes by which committed requests have passed. -/
  accepted : List ℕ := []
  /-- The codes that were stored before a replacement was committed. -/
  retired : List ℕ := []

namespace RecoveryState

variable (services : SignInServices) (state : RecoveryState)

def dropCall (index : ℕ) : RecoveryState := { state with calls := state.calls.eraseIdx index }

def setCall (index : ℕ) (call : RecoveryCall) : RecoveryState :=
  { state with calls := state.calls.set index call }

def begin (operation : RecoveryOperation) (userId : ℕ) : RecoveryState :=
  match state.accounts.find? fun row => decide (row.id = userId) with
  | none => state
  | some account => { state with calls := state.calls ++ [.loaded operation account] }

def locked (id : ℕ) : Bool := state.calls.any fun call => decide (id ∈ call.held)

/-- The commit of a request that keeps the codes.  An update that finds no
row fails. -/
def commitSignIn (index : ℕ) : SecondFactor → RecoveryState
  | .recovery id =>
    if ∃ row ∈ state.rows, row.id = id then
      if state.locked id then state
      else
        { state.dropCall index with
          rows := state.rows.map fun row =>
            if row.id = id then { row with usedAt := some state.clock }
            else row
          accepted := state.accepted ++ [id] }
    else state.dropCall index
  | _ => state.dropCall index

def newRows (userId : ℕ) (codes : List String) : List MfaRecoveryCode :=
  codes.zipIdx.map fun entry =>
    { id := state.nextId + entry.2
      userId := userId
      codeHash := services.hashRecoveryCode entry.1 }

def writeAccount (loaded changed stored : Account) : Account :=
  if stored.id = loaded.id then
    { stored with
      totpEnabled := changedColumn loaded.totpEnabled changed.totpEnabled stored.totpEnabled
      totpSecretEncrypted := changedColumn loaded.totpSecretEncrypted
        changed.totpSecretEncrypted stored.totpSecretEncrypted
      securityVersion := changedColumn loaded.securityVersion
        changed.securityVersion stored.securityVersion }
  else stored

def spent : SecondFactor → List ℕ
  | .recovery id => [id]
  | _ => []

/-- The commit of a replacement.  A code that the request has passed with is
not updated: its row was deleted. -/
def commitReplacement (index : ℕ) (operation : RecoveryOperation)
    (account : Account) (factor : SecondFactor) (found : List ℕ)
    (codes : List String) : RecoveryState :=
  let kept := state.rows.filter fun row => decide (row.id ∉ found)
  let stored := state.newRows services account.id (operation.stores codes)
  if (stored.map MfaRecoveryCode.codeHash).Nodup ∧ ∀ row ∈ kept, row.userId = account.id →
        row.codeHash ∉ stored.map MfaRecoveryCode.codeHash then
    { state.dropCall index with
      accounts := state.accounts.map (writeAccount account (operation.apply account))
      rows := kept ++ stored
      nextId := state.nextId + (operation.stores codes).length
      accepted := state.accepted ++ spent factor
      retired := state.retired ++ (state.rows.filter fun row =>
        decide (row.userId = account.id)).map MfaRecoveryCode.id }
  else state.dropCall index

def advance (index : ℕ) (codes : List String) : RecoveryState :=
  match state.calls[index]? with
  | none => state
  | some (.loaded operation account) =>
    match operation.check services state.rows account state.clock with
    | none => state.dropCall index
    | some factor => state.setCall index (.checked operation account factor)
  | some (.checked operation account factor) =>
    if operation.replaces then
      state.setCall index (.deleting operation account factor ((state.rows.filter fun row =>
          decide (row.userId = account.id)).map MfaRecoveryCode.id))
    else state.commitSignIn index factor
  | some (.deleting operation account factor found) =>
    if ∃ id ∈ found, state.locked id = true ∧ id ∈ state.rows.map MfaRecoveryCode.id then state
    else state.setCall index (.deleted operation account factor found)
  | some (.deleted operation account factor found) =>
    state.commitReplacement services index operation account factor found codes

/-- `enroll_mfa`. -/
def enroll (userId : ℕ) (secret : String) : RecoveryState :=
  { state with
    accounts := state.accounts.map fun row =>
      if row.id = userId ∧ row.totpEnabled = false then
        { row with totpSecretEncrypted := some secret }
      else row }

end RecoveryState

inductive RecoveryAction where
  | wait (elapsed : ℕ)
  | begin (operation : RecoveryOperation) (userId : ℕ)
  | advance (call : ℕ) (codes : List String)
  | crash (call : ℕ)
  | enroll (userId : ℕ) (secret : String)

namespace RecoveryState

def perform (services : SignInServices) (state : RecoveryState) : RecoveryAction → RecoveryState
  | .wait elapsed => { state with clock := state.clock + elapsed }
  | .begin operation userId => state.begin operation userId
  | .advance call codes => state.advance services call codes
  | .crash call => state.dropCall call
  | .enroll userId secret => state.enroll userId secret

def Performs (services : SignInServices) (before : RecoveryState)
    (action : RecoveryAction) (after : RecoveryState) : Prop :=
  after = before.perform services action

def AcceptsOnce (before after : RecoveryState) : Prop :=
  after.accepted.Nodup ∧ ∀ id ∈ after.accepted, id ∈ before.accepted ∨ id ∉ before.retired

/-- A commit whose request has passed with a code finds the code stored and
unused, and a replacement has deleted every code of its user. -/
def Undisturbed (state : RecoveryState) : RecoveryAction → Prop
  | .advance index _ =>
    match state.calls[index]? with
    | some (.checked (.signIn _) _ (.recovery id)) =>
      state.locked id = false → ∀ row ∈ state.rows, row.id = id → row.usedAt = none
    | some (.deleted _ account factor found) =>
      (∀ id ∈ spent factor, ∃ row ∈ state.rows, row.id = id ∧ row.usedAt = none) ∧
      ∀ row ∈ state.rows, row.userId = account.id → row.id ∈ found
    | _ => True
  | _ => True

structure RecoveryInvariant (state : RecoveryState) : Prop where
  unused : ∀ row ∈ state.rows, row.usedAt = none → row.id ∉ state.accepted
  current : ∀ row ∈ state.rows, row.id ∉ state.retired
  once : state.accepted.Nodup
  unique : (state.rows.map fun row => row.id).Nodup
  drawn : ∀ row ∈ state.rows, row.id < state.nextId
  acceptedDrawn : ∀ id ∈ state.accepted, id < state.nextId
  retiredDrawn : ∀ id ∈ state.retired, id < state.nextId
  passed : ∀ call ∈ state.calls, ∀ entry ∈ call.passed?, entry.2 < state.nextId ∧
      ∀ row ∈ state.rows, row.id = entry.2 → row.userId = entry.1.id

section Checks

variable {services : SignInServices} {rows : List MfaRecoveryCode} {account : Account} {now id : ℕ}

theorem useRecoveryCode_spec {code : String}
    (used : useRecoveryCode services rows account code = .recovery id) :
    ∃ row ∈ rows, row.id = id ∧ row.userId = account.id := by
  unfold useRecoveryCode at used
  split at used
  · cases used
  · rename_i row found
    cases used
    obtain ⟨member, chosen⟩ := UniqueRows.find?_decide found
    exact ⟨row, member, rfl, chosen.1⟩

theorem verifySecondFactor_spec {code : Option String}
    (verified : verifySecondFactor services rows account code now =
      .recovery id) : ∃ row ∈ rows, row.id = id ∧ row.userId = account.id := by
  unfold verifySecondFactor at verified
  split at verified
  · cases verified
  · split at verified
    · cases verified
    · split at verified
      · exact useRecoveryCode_spec verified
      · split at verified
        · cases verified
        · split at verified
          · cases verified
          · exact useRecoveryCode_spec verified

theorem check_spec {operation : RecoveryOperation}
    (passes : operation.check services rows account now = some (.recovery id)) :
    ∃ row ∈ rows, row.id = id ∧ row.userId = account.id := by
  have passing {code : Option String}
      (passes : (verifySecondFactor services rows account code now).passing = some (.recovery id)) :
      ∃ row ∈ rows, row.id = id ∧ row.userId = account.id := by
    apply verifySecondFactor_spec
    cases verified : verifySecondFactor services rows account code now <;>
      simp_all [SecondFactor.passing]
  cases operation with
  | signIn code => exact passing passes
  | disable code => exact passing passes
  | regenerateInPortal code =>
    unfold RecoveryOperation.check at passes
    dsimp only at passes
    split at passes
    · cases passes
    · exact passing passes
  | regenerate code => simp [RecoveryOperation.check] at passes
  | confirm code => simp [RecoveryOperation.check] at passes

end Checks

section Steps

variable {services : SignInServices} {before after : RecoveryState}

theorem AcceptsOnce.same (invariant : before.RecoveryInvariant)
    (accepted : after.accepted = before.accepted) : AcceptsOnce before after := by
  rw [AcceptsOnce, accepted]
  exact ⟨invariant.once, fun id member => Or.inl member⟩

theorem acceptsOnce_of_fresh {ids : List ℕ} (invariant : before.RecoveryInvariant)
    (accepted : after.accepted = before.accepted ++ ids) (single : ids.Nodup)
    (fresh : ∀ id ∈ ids, ∃ row ∈ before.rows,
      row.id = id ∧ row.usedAt = none) : AcceptsOnce before after := by
  rw [AcceptsOnce, accepted]
  constructor
  · refine List.nodup_append.mpr ⟨invariant.once, single, ?_⟩
    intro old oldMem new newMem same
    obtain ⟨row, member, sameId, unused⟩ := fresh new newMem
    apply invariant.unused row member unused
    rw [sameId, ← same]
    exact oldMem
  · intro id member
    rcases List.mem_append.mp member with old | new
    · exact Or.inl old
    · obtain ⟨row, rowMem, rfl, _⟩ := fresh id new
      exact Or.inr (invariant.current row rowMem)

theorem RecoveryInvariant.keep (invariant : before.RecoveryInvariant)
    (rows : after.rows = before.rows) (nextId : after.nextId = before.nextId)
    (accepted : after.accepted = before.accepted) (retired : after.retired = before.retired)
    (calls : ∀ call ∈ after.calls, call ∈ before.calls ∨
      ∀ entry ∈ call.passed?, entry.2 < before.nextId ∧
        ∀ row ∈ before.rows, row.id = entry.2 → row.userId = entry.1.id) :
    after.RecoveryInvariant := by
  refine ⟨?_, ?_, ?_, ?_, ?_, ?_, ?_, ?_⟩
  · rw [rows, accepted]
    exact invariant.unused
  · rw [rows, retired]
    exact invariant.current
  · rw [accepted]
    exact invariant.once
  · rw [rows]
    exact invariant.unique
  · rw [rows, nextId]
    exact invariant.drawn
  · rw [accepted, nextId]
    exact invariant.acceptedDrawn
  · rw [retired, nextId]
    exact invariant.retiredDrawn
  · rw [rows, nextId]
    intro call member
    rcases calls call member with old | new
    · exact invariant.passed call old
    · exact new

theorem RecoveryInvariant.dropCall (invariant : before.RecoveryInvariant)
    (index : ℕ) : (before.dropCall index).RecoveryInvariant :=
  invariant.keep rfl rfl rfl rfl fun _ member => Or.inl (List.mem_of_mem_eraseIdx member)

theorem RecoveryInvariant.setCall (invariant : before.RecoveryInvariant)
    (index : ℕ) (call : RecoveryCall) (passed : ∀ entry ∈ call.passed?, entry.2 < before.nextId ∧
      ∀ row ∈ before.rows, row.id = entry.2 → row.userId = entry.1.id) :
    (before.setCall index call).RecoveryInvariant := by
  refine invariant.keep rfl rfl rfl rfl ?_
  intro other member
  rcases List.mem_or_eq_of_mem_set member with old | new
  · exact Or.inl old
  · rw [new]
    exact Or.inr passed

theorem mem_used {rows : List MfaRecoveryCode} {row : MfaRecoveryCode} {id now : ℕ}
    (member : row ∈ rows.map fun row : MfaRecoveryCode =>
      if row.id = id then { row with usedAt := some now } else row) :
    ∃ stored ∈ rows, stored.id = row.id ∧ stored.userId = row.userId ∧
      (row.usedAt = none → stored.usedAt = none ∧ stored.id ≠ id) := by
  obtain ⟨stored, storedMem, rfl⟩ := List.mem_map.mp member
  refine ⟨stored, storedMem, ?_⟩
  by_cases same : stored.id = id
  · simp [same]
  · simp [same]

theorem RecoveryInvariant.commitSignIn (invariant : before.RecoveryInvariant)
    {index : ℕ} {operation : RecoveryOperation} {account : Account} {factor : SecondFactor}
    (found : before.calls[index]? = some (.checked operation account factor))
    (unused : ∀ id, factor = .recovery id → before.locked id = false →
      ∀ row ∈ before.rows, row.id = id → row.usedAt = none) :
    (before.commitSignIn index factor).RecoveryInvariant ∧
      AcceptsOnce before (before.commitSignIn index factor) := by
  have dropped := And.intro (invariant.dropCall index)
    (@AcceptsOnce.same before (before.dropCall index) invariant rfl)
  cases factor with
  | recovery id =>
    unfold RecoveryState.commitSignIn
    dsimp only
    split
    · rename_i stored
      split
      · exact ⟨invariant, AcceptsOnce.same invariant rfl⟩
      · rename_i unlocked
        obtain ⟨row, member, same⟩ := stored
        have accepts : AcceptsOnce before { before.dropCall index with
              rows := before.rows.map fun row =>
                if row.id = id then
                  { row with usedAt := some before.clock }
                else row
              accepted := before.accepted ++ [id] } := by
          refine acceptsOnce_of_fresh invariant rfl (List.nodup_singleton id) ?_
          intro other otherMem
          rw [List.mem_singleton.mp otherMem]
          exact ⟨row, member, same,
            unused id rfl (Bool.eq_false_of_not_eq_true unlocked) row member same⟩
        refine ⟨⟨?_, ?_, accepts.1, ?_, ?_, ?_, invariant.retiredDrawn, ?_⟩, accepts⟩
        · intro written writtenMem notUsed used
          obtain ⟨stored, storedMem, sameId, _, before⟩ := mem_used writtenMem
          obtain ⟨storedUnused, other⟩ := before notUsed
          rcases List.mem_append.mp used with old | new
          · rw [← sameId] at old
            exact invariant.unused stored storedMem storedUnused old
          · exact other (sameId.trans (List.mem_singleton.mp new))
        · intro written writtenMem
          obtain ⟨stored, storedMem, sameId, _⟩ := mem_used writtenMem
          rw [← sameId]
          exact invariant.current stored storedMem
        · have ids := invariant.unique
          dsimp only
          rw [List.map_map]
          refine (List.map_congr_left fun stored _ => ?_) ▸ ids
          by_cases here : stored.id = id
          · simp [here]
          · simp [here]
        · intro written writtenMem
          obtain ⟨stored, storedMem, sameId, _⟩ := mem_used writtenMem
          rw [← sameId]
          exact invariant.drawn stored storedMem
        · intro other otherMem
          rcases List.mem_append.mp otherMem with old | new
          · exact invariant.acceptedDrawn other old
          · rw [List.mem_singleton.mp new, ← same]
            exact invariant.drawn row member
        · intro call callMem entry passes
          obtain ⟨drawn, owned⟩ := invariant.passed call
            (List.mem_of_mem_eraseIdx callMem) entry passes
          refine ⟨drawn, ?_⟩
          intro written writtenMem sameEntry
          obtain ⟨stored, storedMem, sameId, sameUser, _⟩ := mem_used writtenMem
          rw [← sameUser]
          exact owned stored storedMem (sameId.trans sameEntry)
    · exact dropped
  | _ => exact dropped

theorem mem_newRows {userId : ℕ} {codes : List String} {row : MfaRecoveryCode}
    (member : row ∈ before.newRows services userId codes) :
    before.nextId ≤ row.id ∧ row.id < before.nextId + codes.length := by
  obtain ⟨entry, entryMem, rfl⟩ := List.mem_map.mp member
  have bound := List.snd_lt_of_mem_zipIdx entryMem
  dsimp only
  omega

theorem newRows_unique (userId : ℕ) (codes : List String) :
    ((before.newRows services userId codes).map fun row => row.id).Nodup := by
  have indices : (before.newRows services userId codes).map (fun row => row.id) =
        (codes.zipIdx.map Prod.snd).map fun index =>
          before.nextId + index := by
    rw [newRows, List.map_map, List.map_map]
    rfl
  rw [indices, List.zipIdx_map_snd]
  refine List.Nodup.map ?_ List.nodup_range'
  intro first second same
  dsimp only at same
  omega

theorem RecoveryInvariant.commitReplacement (invariant : before.RecoveryInvariant) {index : ℕ}
    {operation : RecoveryOperation} {account : Account}
    {factor : SecondFactor} {found : List ℕ} (codes : List String) (deleted : before.calls[index]? =
      some (.deleted operation account factor found))
    (stored : ∀ id ∈ spent factor, ∃ row ∈ before.rows, row.id = id ∧ row.usedAt = none)
    (all : ∀ row ∈ before.rows, row.userId = account.id → row.id ∈ found) :
    (before.commitReplacement services index operation account factor found
        codes).RecoveryInvariant ∧
      AcceptsOnce before (before.commitReplacement services index operation
        account factor found codes) := by
  unfold RecoveryState.commitReplacement
  dsimp only
  split
  · have passes : ∀ id ∈ spent factor, id < before.nextId ∧
        ∀ row ∈ before.rows, row.id = id → row.userId = account.id := by
      intro id member
      cases factor with
      | recovery code =>
        rw [List.mem_singleton.mp member]
        exact invariant.passed _ (List.mem_of_getElem? deleted) (account, code) rfl
      | _ => cases member
    have single : (spent factor).Nodup := by cases factor <;> simp [spent]
    -- a code that is kept is of another user
    have kept {row : MfaRecoveryCode} (member : row ∈
        before.rows.filter fun row => decide (row.id ∉ found)) :
        row ∈ before.rows ∧ row.id ∉ found := by
      simpa using member
    refine ⟨⟨?_, ?_, ?_, ?_, ?_, ?_, ?_, ?_⟩, acceptsOnce_of_fresh invariant rfl single stored⟩
    · intro row member unused accepted
      rcases List.mem_append.mp member with old | new
      · obtain ⟨rowMem, notFound⟩ := kept old
        rcases List.mem_append.mp accepted with earlier | now
        · exact invariant.unused row rowMem unused earlier
        · exact notFound (all row rowMem ((passes row.id now).2 row rowMem rfl))
      · have bound := (mem_newRows new).1
        rcases List.mem_append.mp accepted with earlier | now
        · have := invariant.acceptedDrawn row.id earlier
          omega
        · have := (passes row.id now).1
          omega
    · intro row member retired
      rcases List.mem_append.mp member with old | new
      · obtain ⟨rowMem, notFound⟩ := kept old
        rcases List.mem_append.mp retired with earlier | now
        · exact invariant.current row rowMem earlier
        · obtain ⟨other, otherMem, same⟩ := List.mem_map.mp now
          obtain ⟨otherStored, owner⟩ : other ∈ before.rows ∧ other.userId = account.id := by
            simpa using otherMem
          exact notFound (same ▸ all other otherStored owner)
      · have bound := (mem_newRows new).1
        rcases List.mem_append.mp retired with earlier | now
        · have := invariant.retiredDrawn row.id earlier
          omega
        · obtain ⟨other, otherMem, same⟩ := List.mem_map.mp now
          have := invariant.drawn other (List.mem_filter.mp otherMem).1
          omega
    · exact (acceptsOnce_of_fresh invariant rfl single stored).1
    · dsimp only
      rw [List.map_append]
      refine List.nodup_append.mpr ⟨?_, newRows_unique account.id (operation.stores codes), ?_⟩
      · exact (List.filter_sublist.map _).nodup invariant.unique
      · intro first firstMem second secondMem same
        obtain ⟨row, rowMem, rfl⟩ := List.mem_map.mp firstMem
        obtain ⟨other, otherMem, rfl⟩ := List.mem_map.mp secondMem
        have drawn := invariant.drawn row (kept rowMem).1
        have fresh := (mem_newRows otherMem).1
        omega
    · intro row member
      rcases List.mem_append.mp member with old | new
      · have := invariant.drawn row (kept old).1
        dsimp only
        omega
      · exact (mem_newRows new).2
    · intro id member
      dsimp only
      rcases List.mem_append.mp member with earlier | now
      · have := invariant.acceptedDrawn id earlier
        omega
      · have := (passes id now).1
        omega
    · intro id member
      dsimp only
      rcases List.mem_append.mp member with earlier | now
      · have := invariant.retiredDrawn id earlier
        omega
      · obtain ⟨other, otherMem, rfl⟩ := List.mem_map.mp now
        have := invariant.drawn other (List.mem_filter.mp otherMem).1
        omega
    · intro call callMem entry passed
      obtain ⟨drawn, owned⟩ := invariant.passed call (List.mem_of_mem_eraseIdx callMem) entry passed
      refine ⟨by dsimp only; omega, ?_⟩
      intro row member same
      rcases List.mem_append.mp member with old | new
      · exact owned row (kept old).1 same
      · have := (mem_newRows new).1
        omega
  · exact ⟨invariant.dropCall index, AcceptsOnce.same invariant rfl⟩

theorem RecoveryInvariant.advance (invariant : before.RecoveryInvariant)
    (index : ℕ) (codes : List String) (undisturbed : before.Undisturbed (.advance index codes)) :
    (before.advance services index codes).RecoveryInvariant ∧
      AcceptsOnce before (before.advance services index codes) := by
  unfold RecoveryState.advance
  unfold Undisturbed at undisturbed
  dsimp only at undisturbed
  split
  · exact ⟨invariant, AcceptsOnce.same invariant rfl⟩
  · rename_i operation account found
    split
    · exact ⟨invariant.dropCall index, AcceptsOnce.same invariant rfl⟩
    · rename_i factor passes
      refine ⟨invariant.setCall index _ ?_, AcceptsOnce.same invariant rfl⟩
      intro entry passed
      cases factor with
      | recovery id =>
        cases passed
        obtain ⟨row, member, rfl, owner⟩ := check_spec passes
        refine ⟨invariant.drawn row member, ?_⟩
        intro other otherMem same
        rw [List.inj_on_of_nodup_map invariant.unique otherMem member same]
        exact owner
      | _ => cases passed
  · rename_i operation account factor found
    have passed := invariant.passed _ (List.mem_of_getElem? found)
    split
    · refine ⟨invariant.setCall index _ ?_, AcceptsOnce.same invariant rfl⟩
      cases factor <;> exact passed
    · rename_i keeps
      apply invariant.commitSignIn found
      intro id recovered
      rw [found, recovered] at undisturbed
      cases operation with
      | signIn code => exact undisturbed
      | _ => exact absurd rfl keeps
  · rename_i operation account factor ids found
    have passed := invariant.passed _ (List.mem_of_getElem? found)
    split
    · exact ⟨invariant, AcceptsOnce.same invariant rfl⟩
    · refine ⟨invariant.setCall index _ ?_, AcceptsOnce.same invariant rfl⟩
      cases factor <;> exact passed
  · rename_i operation account factor ids found
    rw [found] at undisturbed
    exact invariant.commitReplacement codes found undisturbed.1 undisturbed.2

theorem RecoveryInvariant.perform {action : RecoveryAction} (invariant : before.RecoveryInvariant)
    (undisturbed : before.Undisturbed action) : (before.perform services action).RecoveryInvariant ∧
      AcceptsOnce before (before.perform services action) := by
  cases action with
  | wait elapsed =>
    exact ⟨invariant.keep rfl rfl rfl rfl fun _ => Or.inl, AcceptsOnce.same invariant rfl⟩
  | begin operation userId =>
    unfold RecoveryState.perform RecoveryState.begin
    dsimp only
    split
    · exact ⟨invariant, AcceptsOnce.same invariant rfl⟩
    · refine ⟨invariant.keep rfl rfl rfl rfl ?_, AcceptsOnce.same invariant rfl⟩
      intro call member
      rcases List.mem_append.mp member with old | new
      · exact Or.inl old
      · rw [List.mem_singleton.mp new]
        exact Or.inr fun _ none => nomatch none
  | advance index codes => exact invariant.advance index codes undisturbed
  | crash index => exact ⟨invariant.dropCall index, AcceptsOnce.same invariant rfl⟩
  | enroll userId secret =>
    exact ⟨invariant.keep rfl rfl rfl rfl fun _ => Or.inl, AcceptsOnce.same invariant rfl⟩

end Steps

def starting (accounts : List Account) : RecoveryState where
  accounts := accounts

theorem RecoveryInvariant.starting (accounts : List Account) :
    (starting accounts).RecoveryInvariant := by
  refine ⟨?_, ?_, List.nodup_nil, List.nodup_nil, ?_, ?_, ?_, ?_⟩ <;>
    exact fun _ none => nomatch none

/-- From any accounts: while every commit finds the code of its request
stored and unused, and every replacement has deleted all the codes of its
user, each code is accepted at most once and never after it was retired. -/
theorem run_acceptsOnce (services : SignInServices)
    (accounts : List Account) {actions : List RecoveryAction}
    (undisturbed : EveryStep (Performs services) (fun before action _ => before.Undisturbed action)
      (starting accounts) actions) :
    EveryStep (Performs services) (fun before _ after => AcceptsOnce before after)
      (starting accounts) actions := by
  refine EveryStep.of_invariant (RecoveryInvariant.starting accounts) ?_ ?_ undisturbed
  · intro before action after invariant move undisturbed
    rw [Performs] at move
    rw [move]
    exact (invariant.perform undisturbed).1
  · intro before action after invariant move undisturbed
    rw [Performs] at move
    rw [move]
    exact (invariant.perform undisturbed).2

def enrolled : Account where
  id := 7
  email := none
  phone := none
  passwordHash := ""
  totpSecretEncrypted := some "secret"

def acceptedAfter (actions : List RecoveryAction) : RecoveryState :=
  actions.foldl (fun state action => state.perform plainCredentials action) (starting [enrolled])

def confirmed : List RecoveryAction :=
  [.begin (.confirm "secret") 7, .advance 0 [], .advance 0 [], .advance 0 [], .advance 0 ["code"]]

def signedInOnce : List RecoveryAction :=
  confirmed ++ [.begin (.signIn (some "code")) 7, .advance 0 [], .advance 0 [],
      .begin (.signIn (some "code")) 7, .advance 0 []]

theorem run_acceptsOnce_signedIn : EveryStep (Performs plainCredentials)
        (fun before _ after => AcceptsOnce before after) (starting [enrolled]) signedInOnce ∧
      (acceptedAfter signedInOnce).accepted = [0] ∧
      (acceptedAfter signedInOnce).calls.length = 0 := by
  refine ⟨run_acceptsOnce plainCredentials [enrolled] ?_, by decide, by decide⟩
  unfold signedInOnce confirmed Performs
  simp only [List.cons_append, List.nil_append, EveryStep.cons_iff]
  refine ⟨?_, ?_, ?_, ?_, ?_, ?_, ?_, ?_, ?_, ?_, EveryStep.nil⟩
  case refine_5 => exact ⟨by simp [spent], fun _ none => nomatch none⟩
  case refine_8 =>
    have unused : ∀ row ∈ (acceptedAfter confirmed).rows, row.usedAt = none := by decide
    exact fun _ row member _ => unused row member
  all_goals exact True.intro

def overlappingSignIns : List RecoveryAction :=
  confirmed ++ [.begin (.signIn (some "code")) 7, .begin (.signIn (some "code")) 7,
      .advance 0 [], .advance 1 [], .advance 0 []]

/-- Both requests pass with the code. -/
theorem code_acceptedTwice : Run (Performs plainCredentials) (starting [enrolled])
        (overlappingSignIns ++ [.advance 0 []])
        (acceptedAfter (overlappingSignIns ++ [.advance 0 []])) ∧
      ¬ AcceptsOnce (acceptedAfter overlappingSignIns)
        (acceptedAfter (overlappingSignIns ++ [.advance 0 []])) := by
  refine ⟨Run.of_foldl _ _ _, ?_⟩
  rintro ⟨once, _⟩
  revert once
  decide

end RecoveryState

end Ithute.Auth
