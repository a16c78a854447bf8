import Ithute.Library.InterleavedCalls
import Ithute.Library.UniqueRows

/-!
# The SMTP credential of a tenant's transactional mail

The mail server checks a login against the hash of a row, and a sender logs in
with the secret encrypted beside it.  A call that finds no usable row writes
both anew in a session of its own, and then looks at the row again.

A write holds its row from the flush to the commit, which makes another
writer wait.
-/

namespace Ithute

open TransitionRuns InterleavedCalls

structure SmtpCredential where
  id : ℕ
  tenantId : ℕ
  username : String
  passwordHash : String
  secretEncrypted : Option String := none
  systemManaged : Bool := false
  active : Bool := true

/-- What `sha512_crypt` and Fernet compute, with the randomness that they
draw; `none` is an exception. -/
structure SecretTools where
  hash : ℕ → String → String
  verify : String → String → Option Bool
  encrypt : ℕ → String → String
  decrypt : String → Option String

structure SecretTools.Lawful (tools : SecretTools) : Prop where
  verify_hash : ∀ salt raw, tools.verify raw (tools.hash salt raw) = some true
  hash_ne : ∀ salt raw, tools.hash salt raw ≠ ""
  decrypt_encrypt : ∀ salt raw, tools.decrypt (tools.encrypt salt raw) = some raw
  encrypt_ne : ∀ salt raw, tools.encrypt salt raw ≠ ""

/-- `_strong_secret`, with the random characters in it. -/
def strongSecret (token : String) : String := "Tx!" ++ token ++ "aA9"

/-- `_SHA512_CRYPT_PREFIX`. -/
def sha512CryptMark : String := "{SHA512-CRYPT}"

section Usable

variable (tools : SecretTools)

def hashMailboxPassword (salt : ℕ) (raw : String) : String := sha512CryptMark ++ tools.hash salt raw

def secretMatchesPasswordHash (credential : SmtpCredential) (raw : String) : Bool :=
  let stored :=
    if sha512CryptMark.toList.isPrefixOf credential.passwordHash.toList then
      String.ofList (credential.passwordHash.toList.drop sha512CryptMark.toList.length)
    else credential.passwordHash
  if stored = "" then false else (tools.verify raw stored).getD false

def credentialIsUsable (credential : SmtpCredential) (raw : String) : Bool :=
  credential.active && credential.systemManaged && credential.secretEncrypted.getD "" ≠ "" &&
      secretMatchesPasswordHash tools credential raw

/-- The secret that a call takes from a row without writing it anew. -/
def usableSecret (credential : SmtpCredential) : Option String :=
  match credential.secretEncrypted with
  | none => none
  | some text =>
    if text = "" then none
    else
      let raw := (tools.decrypt text).getD ""
      if raw ≠ "" && credentialIsUsable tools credential raw then some raw
      else none

end Usable

/-- A write that has been flushed and not committed. -/
inductive CredentialWrite where
  | insert (row : SmtpCredential)
  | update (id : ℕ) (write : SmtpCredential → SmtpCredential)

/-- The committed rows, and the write of the session that holds the row. -/
structure CredentialTable where
  rows : List SmtpCredential
  nextId : ℕ
  writing : Option (ℕ × CredentialWrite) := none

/-- Where a call stands: `loaded` is the row that its caller's session has
loaded, `read` the one that the session of the provisioning has. -/
inductive CredentialCall where
  | idle
  | provisioning (attempt : ℕ) (loaded : Option ℕ)
  | rotating (attempt : ℕ) (loaded : Option ℕ) (read : Option SmtpCredential)
  | flushed (loaded : Option ℕ) (credentialId : ℕ) (raw : String)
  | provisioned (loaded : Option ℕ) (credentialId : ℕ) (raw : String)
  | returned (raw : String)
  | failed (error : String)
  | crashed

inductive CredentialStep where
  /-- `ensure_system_credential` up to its check of the row. -/
  | ensure
  /-- `_provision_system_credential` up to its check of the row. -/
  | query
  | flush (token : String) (salt : ℕ)
  | commit
  /-- The check of the row that the provisioning has left. -/
  | check
  | crash

namespace CredentialTable

variable (tools : SecretTools) (tenantId : ℕ) (username : String) (table : CredentialTable)

def systemRow : Option SmtpCredential :=
  table.rows.find? fun row => decide (row.username = username)

def row? (id : ℕ) : Option SmtpCredential := table.rows.find? fun row => decide (row.id = id)

def apply : CredentialWrite → List SmtpCredential
  | .insert row => table.rows ++ [row]
  | .update id write => table.rows.map fun row => if row.id = id then write row else row

def newRow (raw : String) (salt : ℕ) : SmtpCredential where
  id := table.nextId
  tenantId := tenantId
  username := username
  passwordHash := hashMailboxPassword tools salt raw
  secretEncrypted := some (tools.encrypt salt raw)
  systemManaged := true

/-- The columns that a rotation changes; a flag that was read as set is not
among them. -/
def rotate (read : SmtpCredential) (raw : String) (salt : ℕ)
    (row : SmtpCredential) : SmtpCredential :=
  { row with
    passwordHash := hashMailboxPassword tools salt raw
    secretEncrypted := some (tools.encrypt salt raw)
    systemManaged := read.systemManaged.not || row.systemManaged
    active := read.active.not || row.active }

def perform (caller : ℕ) : CredentialStep → CredentialTable → CredentialCall →
      CredentialTable × CredentialCall
  | .ensure, table, .idle =>
    match table.systemRow username with
    | none => (table, .provisioning 0 none)
    | some row =>
      match usableSecret tools row with
      | some raw => (table, .returned raw)
      | none => (table, .provisioning 0 (some row.id))
  | .query, table, .provisioning attempt loaded =>
    match table.systemRow username with
    | none => (table, .rotating attempt loaded none)
    | some row =>
      match usableSecret tools row with
      | some raw => (table, .provisioned loaded row.id raw)
      | none => (table, .rotating attempt loaded (some row))
  | .flush token salt, table, .rotating attempt loaded none =>
    let raw := strongSecret token
    if (table.systemRow username).isSome then
      -- the unique constraint on the user name
      (table, if attempt = 0 then .provisioning 1 loaded
        else .failed "IntegrityError")
    else if table.writing.isSome then
      (table, .rotating attempt loaded none)
    else
      ({ table with
          nextId := table.nextId + 1
          writing := some (caller, .insert (table.newRow tools tenantId username raw salt)) },
        .flushed loaded table.nextId raw)
  | .flush token salt, table, .rotating attempt loaded (some read) =>
    let raw := strongSecret token
    if table.writing.isSome then
      (table, .rotating attempt loaded (some read))
    else
      ({ table with
          writing := some (caller, .update read.id (rotate tools read raw salt)) },
        .flushed loaded read.id raw)
  | .commit, table, .flushed loaded credentialId raw =>
    match table.writing with
    | none => (table, .flushed loaded credentialId raw)
    | some (_, write) =>
      ({ table with rows := table.apply write, writing := none },
        .provisioned loaded credentialId raw)
  | .check, table, .provisioned loaded credentialId raw =>
    match table.row? (loaded.getD credentialId) with
    | none =>
      (table, .failed "Committed transactional SMTP credential is not visible to the caller")
    | some row =>
      if row.secretEncrypted.getD "" = "" then
        (table, .failed "Committed transactional SMTP credential is not visible to the caller")
      else if credentialIsUsable tools row raw then (table, .returned raw)
      else
        (table, .failed "Committed transactional SMTP credential is internally inconsistent")
  | .crash, table, call =>
    ({ table with
        writing := table.writing.filter fun held => held.1 ≠ caller },
      match call with
      | .returned raw => .returned raw
      | .failed error => .failed error
      | _ => .crashed)
  | _, table, call => (table, call)

end CredentialTable

section Runs

variable (tools : SecretTools) (tenantId : ℕ) (username : String)

/-- The calls of a tenant and the table they work on. -/
abbrev CredentialWorld := Interleaved ℕ CredentialTable CredentialCall

def CredentialWorld.start (rows : List SmtpCredential) (nextId : ℕ) : CredentialWorld where
  shared := { rows := rows, nextId := nextId }
  calls _ := .idle

abbrev CredentialWorld.next (world : CredentialWorld)
    (move : ℕ × CredentialStep) : CredentialWorld :=
  world.act (CredentialTable.perform tools tenantId username) move

def CredentialCall.inProgress : CredentialCall → Bool
  | .provisioning _ _ | .rotating _ _ _ | .flushed _ _ _ => true
  | _ => false

def CredentialCall.secret? : CredentialCall → Option String
  | .provisioned _ _ raw | .returned raw => some raw
  | _ => none

/-- A row whose hash and encrypted secret are of the same secret. -/
def CredentialTable.Consistent (table : CredentialTable) : Prop :=
  ∃ row, table.systemRow username = some row ∧ (usableSecret tools row).isSome

structure KeepsCredentials (startRows : List SmtpCredential) (world : CredentialWorld) : Prop where
  unique : (world.shared.rows.filter fun row => decide (row.username = username)).length ≤ 1
  written : world.shared.rows = startRows ∨ world.shared.Consistent tools username
  accepted : (∀ caller, (world.calls caller).inProgress = false) →
    ∀ caller raw, (world.calls caller).secret? = some raw →
      ∃ row, world.shared.systemRow username = some row ∧ credentialIsUsable tools row raw = true

def FailsInconsistent (before : CredentialWorld)
    (move : ℕ × CredentialStep) (after : CredentialWorld) : Prop :=
  ∀ error, after.calls move.1 = .failed error → before.calls move.1 = .failed error ∨
      ¬ before.shared.Consistent tools username

def CredentialStep.flushes : CredentialStep → Bool
  | .flush _ _ => true
  | _ => false

def CredentialCall.rotates : CredentialCall → Bool
  | .rotating _ _ (some _) => true
  | _ => false

/-- A rotation is flushed only onto a row that is still unusable. -/
def RotatesUnusable (before : CredentialWorld) (move : ℕ × CredentialStep)
    (_ : CredentialWorld) : Prop :=
  move.2.flushes = true → (before.calls move.1).rotates = true →
    before.shared.writing = none → ¬ before.shared.Consistent tools username

instance CredentialTable.Consistent.decidable (table : CredentialTable) :
    Decidable (table.Consistent tools username) :=
  decidable_of_iff (((table.systemRow username).bind (usableSecret tools)).isSome = true) <| by
      unfold CredentialTable.Consistent
      cases table.systemRow username <;> simp

instance RotatesUnusable.decidable (before after : CredentialWorld) (move : ℕ × CredentialStep) :
    Decidable (RotatesUnusable tools username before move after) :=
  inferInstanceAs (Decidable (_ → _ → _ → ¬ _))

variable {tools tenantId username} {row read : SmtpCredential} {raw token : String} {salt : ℕ}

theorem strongSecret_ne : strongSecret token ≠ "" := by
  intro empty
  have characters := congrArg String.toList empty
  simp [strongSecret] at characters

theorem hashMailboxPassword_toList : (hashMailboxPassword tools salt raw).toList =
      sha512CryptMark.toList ++ (tools.hash salt raw).toList := by
  simp [hashMailboxPassword]

theorem usableSecret_of_written (lawful : tools.Lawful) (present : raw ≠ "")
    (hashed : row.passwordHash = hashMailboxPassword tools salt raw)
    (encrypted : row.secretEncrypted = some (tools.encrypt salt raw))
    (managed : row.systemManaged = true) (active : row.active = true) :
    usableSecret tools row = some raw := by
  have stored : (String.ofList ((hashMailboxPassword tools salt raw).toList.drop
        sha512CryptMark.toList.length)) = tools.hash salt raw := by
    rw [hashMailboxPassword_toList, List.drop_left, String.ofList_toList]
  have marked : sha512CryptMark.toList.isPrefixOf
      (hashMailboxPassword tools salt raw).toList = true := by
    rw [hashMailboxPassword_toList, List.isPrefixOf_iff_prefix]
    exact List.prefix_append _ _
  have verified : secretMatchesPasswordHash tools row raw = true := by
    unfold secretMatchesPasswordHash
    rw [hashed]
    dsimp only
    rw [if_pos marked, stored, if_neg (lawful.hash_ne salt raw), lawful.verify_hash]
    rfl
  unfold usableSecret
  rw [encrypted]
  dsimp only
  rw [if_neg (lawful.encrypt_ne salt raw), lawful.decrypt_encrypt]
  simp [credentialIsUsable, present, managed, active, encrypted, verified, lawful.encrypt_ne]

theorem credentialIsUsable_of_secret (usable : usableSecret tools row = some raw) :
    credentialIsUsable tools row raw = true := by
  unfold usableSecret at usable
  split at usable
  · cases usable
  · dsimp only at usable
    split_ifs at usable with empty passes
    cases usable
    rw [Bool.and_eq_true] at passes
    exact passes.2

theorem CredentialTable.newRow_secret (lawful : tools.Lawful)
    (table : CredentialTable) (present : raw ≠ "") :
    usableSecret tools (table.newRow tools tenantId username raw salt) = some raw :=
  usableSecret_of_written lawful present rfl rfl rfl rfl

theorem rotate_secret (lawful : tools.Lawful) (present : raw ≠ "")
    (managed : read.systemManaged = true → row.systemManaged = true)
    (active : read.active = true → row.active = true) :
    usableSecret tools (CredentialTable.rotate tools read raw salt row) = some raw := by
  refine usableSecret_of_written lawful present rfl rfl ?_ ?_
  · dsimp only [CredentialTable.rotate]
    cases flag : read.systemManaged with
    | false => rfl
    | true => simpa using managed flag
  · dsimp only [CredentialTable.rotate]
    cases flag : read.active with
    | false => rfl
    | true => simpa using active flag

end Runs

section Steps

variable {tools : SecretTools} {tenantId : ℕ} {username : String} {startRows : List SmtpCredential}
variable {table after : CredentialTable} {row read : SmtpCredential}
variable {caller : ℕ} {raw token : String} {salt : ℕ}

/-- The row of a later table: it is the same row, its flags stay set and its
secret stays, once it is usable. -/
structure SameRow (tools : SecretTools) (row later : SmtpCredential) : Prop where
  id : later.id = row.id
  managed : row.systemManaged = true → later.systemManaged = true
  active : row.active = true → later.active = true
  secret : ∀ raw, usableSecret tools row = some raw → usableSecret tools later = some raw

def KeepsRow (tools : SecretTools) (username : String) (table after : CredentialTable) : Prop :=
  ∀ row, table.systemRow username = some row →
    ∃ later, after.systemRow username = some later ∧ SameRow tools row later

theorem SameRow.refl : SameRow tools row row :=
  ⟨rfl, fun set => set, fun set => set, fun _ usable => usable⟩

theorem KeepsRow.of_rows (same : after.rows = table.rows) :
    KeepsRow tools username table after := by
  intro row found
  refine ⟨row, ?_, SameRow.refl⟩
  unfold CredentialTable.systemRow at found ⊢
  rw [same]
  exact found

/-- The rows have identifiers of their own, and the tenant has one. -/
structure OrderlyRows (username : String) (rows : List SmtpCredential) (nextId : ℕ) : Prop where
  issued : UniqueRows.Issued SmtpCredential.id nextId rows
  apart : rows.Pairwise fun first second =>
    ¬ (decide (first.username = username) = true ∧ decide (second.username = username) = true)

structure GoodWrite (tools : SecretTools) (username : String)
    (table : CredentialTable) (write : CredentialWrite) : Prop where
  orderly : OrderlyRows username (table.apply write) table.nextId
  consistent : { table with
    rows := table.apply write, writing := none }.Consistent tools username
  keeps : KeepsRow tools username table { table with rows := table.apply write, writing := none }

structure OrderlyTable (tools : SecretTools) (username : String)
    (startRows : List SmtpCredential) (table : CredentialTable) : Prop where
  rows : OrderlyRows username table.rows table.nextId
  written : table.rows = startRows ∨ table.Consistent tools username
  writing : ∀ holder write, table.writing = some (holder, write) →
    GoodWrite tools username table write

def Loads (username : String) (table : CredentialTable) (id : ℕ) : Prop :=
  ∃ row, table.systemRow username = some row ∧ row.id = id

def Accepts (tools : SecretTools) (username : String)
    (table : CredentialTable) (raw : String) : Prop :=
  ∃ row, table.systemRow username = some row ∧ usableSecret tools row = some raw

/-- The row of the tenant is the one that was read, with its flags. -/
def Reads (username : String) (table : CredentialTable) (read : SmtpCredential) : Prop :=
  ∃ row, table.systemRow username = some row ∧ row.id = read.id ∧
    (read.systemManaged = true → row.systemManaged = true) ∧
      (read.active = true → row.active = true)

def Stands (tools : SecretTools) (username : String)
    (table : CredentialTable) (caller : ℕ) : CredentialCall → Prop
  | .idle | .crashed => True
  | .provisioning attempt loaded =>
    (attempt ≠ 0 → ∃ id, Loads username table id) ∧ ∀ id ∈ loaded, Loads username table id
  | .rotating attempt loaded read =>
    (attempt ≠ 0 → read ≠ none) ∧ (∀ row ∈ read, Reads username table row) ∧
        ∀ id ∈ loaded, Loads username table id
  | .flushed loaded id raw =>
    (∃ write, table.writing = some (caller, write) ∧
      Accepts tools username { table with rows := table.apply write } raw ∧
        Loads username { table with rows := table.apply write } id) ∧
      ∀ id ∈ loaded, Loads username table id
  | .provisioned loaded id raw =>
    Accepts tools username table raw ∧ Loads username table (loaded.getD id)
  | .returned raw => Accepts tools username table raw
  | .failed _ => False

theorem Loads.keep {id : ℕ} (loads : Loads username table id)
    (keeps : KeepsRow tools username table after) : Loads username after id := by
  obtain ⟨row, found, named⟩ := loads
  obtain ⟨later, stays, same⟩ := keeps row found
  exact ⟨later, stays, same.id.trans named⟩

theorem Accepts.keep (accepts : Accepts tools username table raw)
    (keeps : KeepsRow tools username table after) : Accepts tools username after raw := by
  obtain ⟨row, found, usable⟩ := accepts
  obtain ⟨later, stays, same⟩ := keeps row found
  exact ⟨later, stays, same.secret raw usable⟩

theorem Reads.keep (reads : Reads username table read)
    (keeps : KeepsRow tools username table after) : Reads username after read := by
  obtain ⟨row, found, named, managed, active⟩ := reads
  obtain ⟨later, stays, same⟩ := keeps row found
  exact ⟨later, stays, same.id.trans named,
    fun set => same.managed (managed set), fun set => same.active (active set)⟩

theorem Stands.keep {call : CredentialCall} (stands : Stands tools username table caller call)
    (keeps : KeepsRow tools username table after)
    (writes : ∀ write, table.writing = some (caller, write) →
      after.rows = table.rows ∧ after.writing = table.writing) :
    Stands tools username after caller call := by
  cases call with
  | idle | crashed => trivial
  | provisioning attempt loaded =>
    refine ⟨fun again => ?_, fun id member => (stands.2 id member).keep keeps⟩
    obtain ⟨id, loads⟩ := stands.1 again
    exact ⟨id, loads.keep keeps⟩
  | rotating attempt loaded read =>
    exact ⟨stands.1, fun row member => (stands.2.1 row member).keep keeps,
      fun id member => (stands.2.2 id member).keep keeps⟩
  | flushed loaded id raw =>
    obtain ⟨⟨write, held, accepts, loads⟩, loadeds⟩ := stands
    obtain ⟨rows, writing⟩ := writes write held
    refine ⟨⟨write, writing.trans held, ?_, ?_⟩, fun id member => (loadeds id member).keep keeps⟩
    · unfold Accepts CredentialTable.systemRow CredentialTable.apply at accepts ⊢
      rw [rows]
      exact accepts
    · unfold Loads CredentialTable.systemRow CredentialTable.apply at loads ⊢
      rw [rows]
      exact loads
  | provisioned loaded id raw => exact ⟨stands.1.keep keeps, stands.2.keep keeps⟩
  | returned raw => exact Accepts.keep stands keeps
  | failed error => exact stands

theorem systemRow_username (found : table.systemRow username = some row) :
    row.username = username := by
  simpa using List.find?_some found

theorem systemRow_mem (found : table.systemRow username = some row) : row ∈ table.rows :=
  List.mem_of_find?_eq_some found

theorem row?_of_loads {id : ℕ} (orderly : OrderlyRows username table.rows
    table.nextId) (found : table.systemRow username = some row)
    (named : row.id = id) : table.row? id = some row := by
  unfold CredentialTable.row?
  rw [← named]
  exact UniqueRows.find?_key orderly.issued.unique (systemRow_mem found)

theorem goodWrite_insert (lawful : tools.Lawful) (present : raw ≠ "")
    (orderly : OrderlyRows username table.rows table.nextId)
    (absent : table.systemRow username = none) :
    let write := CredentialWrite.insert (table.newRow tools tenantId username raw salt)
    let flushed := { table with
      nextId := table.nextId + 1, writing := some (caller, write) }
    GoodWrite tools username flushed write ∧
      Accepts tools username { flushed with rows := flushed.apply write } raw ∧
        Loads username { flushed with rows := flushed.apply write }
          table.nextId := by
  intro write flushed
  have found : { flushed with rows := flushed.apply write }.systemRow
      username = some (table.newRow tools tenantId username raw salt) := by
    unfold CredentialTable.systemRow at absent ⊢
    dsimp only [flushed, write, CredentialTable.apply]
    rw [List.find?_append, absent]
    simp [CredentialTable.newRow]
  have secret : usableSecret tools (table.newRow tools tenantId username raw salt) = some raw :=
    table.newRow_secret lawful present
  refine ⟨⟨⟨?_, ?_⟩, ⟨_, found, ?_⟩, ?_⟩, ⟨_, found, secret⟩, ⟨_, found, rfl⟩⟩
  · exact orderly.issued.insert rfl
  · refine UniqueRows.pairwise_insert orderly.apart ?_
    rintro existing member ⟨named, -⟩
    unfold CredentialTable.systemRow at absent
    exact List.find?_eq_none.mp absent existing member named
  · rw [secret]
    rfl
  · intro row here
    unfold CredentialTable.systemRow at absent here
    dsimp only [flushed] at here
    rw [absent] at here
    cases here

theorem goodWrite_update (lawful : tools.Lawful) (present : raw ≠ "")
    (orderly : OrderlyRows username table.rows table.nextId) (reads : Reads username table read)
    (unusable : ¬ table.Consistent tools username) :
    let write := CredentialWrite.update read.id (CredentialTable.rotate tools read raw salt)
    let flushed := { table with writing := some (caller, write) }
    GoodWrite tools username flushed write ∧
      Accepts tools username { flushed with rows := flushed.apply write } raw ∧
        Loads username { flushed with rows := flushed.apply write }
          read.id := by
  intro write flushed
  obtain ⟨row, found, named, managed, active⟩ := reads
  have secret : usableSecret tools (CredentialTable.rotate tools read raw salt row) = some raw :=
    rotate_secret lawful present managed active
  have later : { flushed with rows := flushed.apply write }.systemRow
      username = some (CredentialTable.rotate tools read raw salt row) := by
    have mapped : (table.rows.map fun other =>
          if other.id = read.id then
            CredentialTable.rotate tools read raw salt other
          else other).find? (fun row => decide (row.username = username)) =
        some (if row.id = read.id then
          CredentialTable.rotate tools read raw salt row else row) := by
      apply UniqueRows.find?_map found
      · rw [if_pos named]
        have named := systemRow_username found
        simp [CredentialTable.rotate, named]
      · intro other _ matched
        split_ifs at matched <;> exact matched
    rw [if_pos named] at mapped
    exact mapped
  refine ⟨⟨⟨?_, ?_⟩, ⟨_, later, ?_⟩, ?_⟩, ⟨_, later, secret⟩, ⟨_, later, named⟩⟩
  · apply orderly.issued.map
    intro other _
    split_ifs <;> rfl
  · dsimp only [flushed, write, CredentialTable.apply]
    rw [List.pairwise_map]
    refine orderly.apart.imp ?_
    intro first second apart
    split_ifs <;> exact apart
  · rw [secret]
    rfl
  · intro other here
    have same : other = row := by
      rw [show flushed.systemRow username = table.systemRow username from rfl, found] at here
      cases here
      rfl
    subst same
    refine ⟨_, later, rfl, ?_, ?_, ?_⟩
    · intro set
      simp [CredentialTable.rotate, set]
    · intro set
      simp [CredentialTable.rotate, set]
    · intro old usable
      refine absurd ⟨other, found, ?_⟩ unusable
      rw [usable]
      rfl

end Steps

section Calm

variable {tools : SecretTools} {tenantId : ℕ} {username : String}
variable {startRows : List SmtpCredential} {table : CredentialTable}
variable {caller : ℕ} {call : CredentialCall}

def CalmStep (tools : SecretTools) (username : String)
    (table : CredentialTable) (call : CredentialCall) (step : CredentialStep) : Prop :=
  step.flushes = true → call.rotates = true → table.writing = none →
    ¬ table.Consistent tools username

structure StepLeaves (tools : SecretTools) (username : String)
    (startRows : List SmtpCredential) (table : CredentialTable) (caller : ℕ)
    (result : CredentialTable × CredentialCall) : Prop where
  orderly : OrderlyTable tools username startRows result.1
  stands : Stands tools username result.1 caller result.2
  keeps : KeepsRow tools username table result.1
  others : ∀ other write, other ≠ caller → table.writing = some (other, write) →
      result.1.rows = table.rows ∧ result.1.writing = table.writing

theorem StepLeaves.of_call (orderly : OrderlyTable tools username startRows
    table) (stands : Stands tools username table caller call) :
    StepLeaves tools username startRows table caller (table, call) :=
  ⟨orderly, stands, KeepsRow.of_rows rfl, fun _ _ _ _ => ⟨rfl, rfl⟩⟩

theorem loads_of_systemRow {row : SmtpCredential} (found : table.systemRow username = some row) :
    Loads username table row.id :=
  ⟨row, found, rfl⟩

theorem perform_ensure (orderly : OrderlyTable tools username startRows table) :
    StepLeaves tools username startRows table caller
      (CredentialTable.perform tools tenantId username caller .ensure table .idle) := by
  unfold CredentialTable.perform
  dsimp only
  split
  · exact StepLeaves.of_call orderly ⟨fun again => absurd rfl again, nofun⟩
  · rename_i row found
    split
    · rename_i raw usable
      exact StepLeaves.of_call orderly ⟨row, found, usable⟩
    · refine StepLeaves.of_call orderly ⟨fun again => absurd rfl again, ?_⟩
      rintro id ⟨⟩
      exact loads_of_systemRow found

variable {loaded : Option ℕ}

theorem perform_query {attempt : ℕ} (orderly : OrderlyTable tools username startRows table)
    (stands : Stands tools username table caller (.provisioning attempt loaded)) :
    StepLeaves tools username startRows table caller
      (CredentialTable.perform tools tenantId username caller .query table
        (.provisioning attempt loaded)) := by
  unfold CredentialTable.perform
  dsimp only
  split
  · rename_i absent
    refine StepLeaves.of_call orderly ⟨fun again => ?_, nofun, stands.2⟩
    obtain ⟨id, row, found, -⟩ := stands.1 again
    rw [absent] at found
    cases found
  · rename_i row found
    split
    · rename_i raw usable
      refine StepLeaves.of_call orderly ⟨⟨row, found, usable⟩, ?_⟩
      cases loaded with
      | none => exact loads_of_systemRow found
      | some id => exact stands.2 id rfl
    · refine StepLeaves.of_call orderly ⟨fun _ => nofun, ?_, stands.2⟩
      rintro _ ⟨⟩
      exact ⟨row, found, rfl, fun set => set, fun set => set⟩

theorem StepLeaves.of_flush {id nextId : ℕ} {raw : String}
    {write : CredentialWrite} (orderly : OrderlyTable tools username startRows table)
    (free : table.writing = none) (loads : ∀ id ∈ loaded, Loads username table id)
    (later : table.nextId ≤ nextId) (good : let flushed := { table with
          nextId := nextId, writing := some (caller, write) }
      GoodWrite tools username flushed write ∧
        Accepts tools username { flushed with rows := flushed.apply write } raw ∧
          Loads username { flushed with rows := flushed.apply write } id) :
    StepLeaves tools username startRows table caller
      ({ table with nextId := nextId, writing := some (caller, write) },
        .flushed loaded id raw) where
  orderly := by
    refine ⟨⟨orderly.rows.issued.mono later, orderly.rows.apart⟩, orderly.written, ?_⟩
    rintro _ _ ⟨⟩
    exact good.1
  stands := ⟨⟨write, rfl, good.2⟩, loads⟩
  keeps := KeepsRow.of_rows rfl
  others other write _ held := by
    rw [free] at held
    cases held

theorem perform_flush {attempt : ℕ}
    {read : Option SmtpCredential} {token : String} {salt : ℕ} (lawful : tools.Lawful)
    (orderly : OrderlyTable tools username startRows table)
    (stands : Stands tools username table caller (.rotating attempt loaded read))
    (calm : CalmStep tools username table (.rotating attempt loaded read) (.flush token salt)) :
    StepLeaves tools username startRows table caller
      (CredentialTable.perform tools tenantId username caller
        (.flush token salt) table (.rotating attempt loaded read)) := by
  cases read with
  | none =>
    unfold CredentialTable.perform
    dsimp only
    split_ifs with present first held
    · obtain ⟨row, found⟩ := Option.isSome_iff_exists.mp present
      exact StepLeaves.of_call orderly ⟨fun _ => ⟨row.id, loads_of_systemRow found⟩, stands.2.2⟩
    · exact absurd rfl (stands.1 first)
    · exact StepLeaves.of_call orderly stands
    · refine StepLeaves.of_flush orderly (by simpa using held) stands.2.2 (Nat.le_succ _) ?_
      exact goodWrite_insert lawful strongSecret_ne orderly.rows (by simpa using present)
  | some row =>
    unfold CredentialTable.perform
    dsimp only
    split_ifs with held
    · exact StepLeaves.of_call orderly stands
    · have free : table.writing = none := by simpa using held
      refine StepLeaves.of_flush orderly free stands.2.2 (Nat.le_refl _) ?_
      exact goodWrite_update lawful strongSecret_ne orderly.rows
        (stands.2.1 row rfl) (calm rfl rfl free)

theorem perform_commit {id : ℕ} {raw : String}
    (orderly : OrderlyTable tools username startRows table)
    (stands : Stands tools username table caller (.flushed loaded id raw)) :
    StepLeaves tools username startRows table caller
      (CredentialTable.perform tools tenantId username caller .commit table
        (.flushed loaded id raw)) := by
  obtain ⟨⟨write, held, accepts, loads⟩, loadeds⟩ := stands
  have good := orderly.writing caller write held
  unfold CredentialTable.perform
  dsimp only
  rw [held]
  dsimp only
  refine ⟨⟨good.orderly, .inr good.consistent, nofun⟩, ⟨accepts, ?_⟩, good.keeps, ?_⟩
  · cases loaded with
    | none => exact loads
    | some id => exact (loadeds id rfl).keep good.keeps
  · intro other write different taken
    rw [held] at taken
    cases taken
    exact absurd rfl different

theorem perform_check {id : ℕ} {raw : String}
    (orderly : OrderlyTable tools username startRows table)
    (stands : Stands tools username table caller (.provisioned loaded id raw)) :
    StepLeaves tools username startRows table caller
      (CredentialTable.perform tools tenantId username caller .check table
        (.provisioned loaded id raw)) := by
  obtain ⟨⟨row, found, usable⟩, other, same, named⟩ := stands
  rw [found] at same
  cases same
  have passes := credentialIsUsable_of_secret usable
  have encrypted : row.secretEncrypted.getD "" ≠ "" := by
    unfold credentialIsUsable at passes
    simp only [Bool.and_eq_true, decide_eq_true_eq] at passes
    exact passes.1.2
  unfold CredentialTable.perform
  dsimp only
  rw [row?_of_loads orderly.rows found named]
  dsimp only
  rw [if_neg encrypted, if_pos passes]
  exact StepLeaves.of_call orderly ⟨row, found, usable⟩

theorem perform_crash (orderly : OrderlyTable tools username startRows table)
    (stands : Stands tools username table caller call) :
    StepLeaves tools username startRows table caller
      (CredentialTable.perform tools tenantId username caller .crash table call) := by
  have keeps : KeepsRow tools username table { table with
        writing := table.writing.filter fun held => held.1 ≠ caller } :=
    KeepsRow.of_rows rfl
  unfold CredentialTable.perform
  refine ⟨⟨orderly.rows, orderly.written, ?_⟩, ?_, keeps, ?_⟩
  · intro holder write held
    have good := orderly.writing holder write (Option.filter_eq_some_iff.mp held).1
    exact ⟨good.orderly, good.consistent, good.keeps⟩
  · cases call with
    | returned raw => exact Accepts.keep stands keeps
    | failed error => exact stands
    | idle | provisioning | rotating | flushed | provisioned | crashed => trivial
  · intro other write different held
    refine ⟨rfl, ?_⟩
    dsimp only
    rw [held]
    simp [different]

theorem perform_leaves (lawful : tools.Lawful) {step : CredentialStep}
    (orderly : OrderlyTable tools username startRows table)
    (stands : Stands tools username table caller call)
    (calm : CalmStep tools username table call step) :
    StepLeaves tools username startRows table caller
      (CredentialTable.perform tools tenantId username caller step table call) := by
  cases step with
  | crash => exact perform_crash orderly stands
  | ensure =>
    cases call with
    | idle => exact perform_ensure orderly
    | _ => exact StepLeaves.of_call orderly stands
  | query =>
    cases call with
    | provisioning => exact perform_query orderly stands
    | _ => exact StepLeaves.of_call orderly stands
  | flush token salt =>
    cases call with
    | rotating => exact perform_flush lawful orderly stands calm
    | _ => exact StepLeaves.of_call orderly stands
  | commit =>
    cases call with
    | flushed => exact perform_commit orderly stands
    | _ => exact StepLeaves.of_call orderly stands
  | check =>
    cases call with
    | provisioned => exact perform_check orderly stands
    | _ => exact StepLeaves.of_call orderly stands

/-- The invariant of the calls of a tenant and their table. -/
abbrev OrderlyCalls (tools : SecretTools) (username : String)
    (startRows : List SmtpCredential) (world : CredentialWorld) : Prop :=
  Sound (OrderlyTable tools username startRows) (Stands tools username) world

theorem OrderlyCalls.next (lawful : tools.Lawful) {world : CredentialWorld}
    {move : ℕ × CredentialStep} (orderly : OrderlyCalls tools username startRows world)
    (calm : CalmStep tools username world.shared (world.calls move.1) move.2) :
    OrderlyCalls tools username startRows (world.next tools tenantId username move) := by
  have leaves : StepLeaves tools username startRows world.shared move.1
      (CredentialTable.perform tools tenantId username move.1 move.2
        world.shared (world.calls move.1)) :=
    perform_leaves lawful orderly.shared (orderly.calls move.1) calm
  exact orderly.act leaves.orderly leaves.stands fun other call different
    stands => stands.keep leaves.keeps fun write held => leaves.others other write different held

theorem OrderlyCalls.start {nextId : ℕ} (rows : OrderlyRows username startRows nextId) :
    OrderlyCalls tools username startRows (.start startRows nextId) where
  shared := ⟨rows, .inl rfl, nofun⟩
  calls _ := trivial

theorem OrderlyCalls.keepsCredentials {world : CredentialWorld}
    (orderly : OrderlyCalls tools username startRows world) :
    KeepsCredentials tools username startRows world where
  unique := UniqueRows.length_filter_le_one_of_apart orderly.shared.rows.apart
  written := orderly.shared.written
  accepted _ caller raw secret := by
    have stands := orderly.calls caller
    have accepts : Accepts tools username world.shared raw := by
      cases here : world.calls caller with
      | provisioned loaded id other =>
        rw [here] at secret stands
        cases secret
        exact stands.1
      | returned other =>
        rw [here] at secret stands
        cases secret
        exact stands
      | idle | provisioning | rotating | flushed | failed | crashed =>
        rw [here] at secret
        cases secret
    obtain ⟨row, found, usable⟩ := accepts
    exact ⟨row, found, credentialIsUsable_of_secret usable⟩

end Calm

/-- The credentials of a tenant along every run of concurrent calls in which
each rotation meets an unusable row. -/
theorem credentials_kept (tools : SecretTools) (tenantId : ℕ)
    (username : String) (startRows : List SmtpCredential) (nextId : ℕ)
    (actions : List (ℕ × CredentialStep)) (lawful : tools.Lawful)
    (rows : OrderlyRows username startRows nextId) (calm : EveryStep (fun before move after =>
        after = CredentialWorld.next tools tenantId username before move)
      (RotatesUnusable tools username) (.start startRows nextId) actions) :
    EveryStep (fun before move after =>
        after = CredentialWorld.next tools tenantId username before move)
      (fun before move after =>
        KeepsCredentials tools username startRows after ∧
          FailsInconsistent tools username before move after)
      (.start startRows nextId) actions := by
  have next {before after : CredentialWorld} {move : ℕ × CredentialStep}
      (orderly : OrderlyCalls tools username startRows before)
      (moved : after = CredentialWorld.next tools tenantId username before move)
      (meets : RotatesUnusable tools username before move after) :
      OrderlyCalls tools username startRows after := by
    rw [moved]
    exact orderly.next lawful meets
  have begun : OrderlyCalls tools username startRows
      (.start startRows nextId) := OrderlyCalls.start rows
  refine EveryStep.of_invariant begun ?_ ?_ calm
  · exact fun _ _ _ orderly moved meets => next orderly moved meets
  · intro before move after orderly moved meets
    have later := next orderly moved meets
    refine ⟨later.keepsCredentials, fun error failed => ?_⟩
    have stands := later.calls move.1
    rw [failed] at stands
    exact stands.elim

/-- Hashes and ciphertexts that are the secrets themselves, marked. -/
def plainSecrets : SecretTools where
  hash _ raw := "$" ++ raw
  verify raw stored := some (stored = "$" ++ raw)
  encrypt _ raw := "=" ++ raw
  decrypt text := some (String.ofList (text.toList.drop 1))

theorem plainSecrets_lawful : plainSecrets.Lawful where
  verify_hash salt raw := by simp [plainSecrets]
  hash_ne salt raw same := by
    have characters := congrArg String.toList same
    simp [plainSecrets] at characters
  decrypt_encrypt salt raw := by simp [plainSecrets]
  encrypt_ne salt raw same := by
    have characters := congrArg String.toList same
    simp [plainSecrets] at characters

def driftedRow : SmtpCredential where
  id := 1
  tenantId := 7
  username := "api"
  passwordHash := "{SHA512-CRYPT}$old"
  secretEncrypted := some "=new"
  systemManaged := true

theorem driftedRow_orderly : OrderlyRows "api" [driftedRow] 2 := ⟨⟨by decide, by decide⟩, by decide⟩

/-- Two calls find the drifted row; the second looks again when the first has
rotated it. -/
def oneRotation : List (ℕ × CredentialStep) :=
  [(0, .ensure), (1, .ensure), (0, .query), (0, .flush "a" 0), (0, .commit),
    (0, .check), (1, .query), (1, .check)]

theorem oneRotation_kept : EveryStep (fun before move after =>
        after = CredentialWorld.next plainSecrets 7 "api" before move)
      (fun before move after =>
        KeepsCredentials plainSecrets "api" [driftedRow] after ∧
          FailsInconsistent plainSecrets "api" before move after)
      (.start [driftedRow] 2) oneRotation :=
  credentials_kept plainSecrets 7 "api" [driftedRow] 2 oneRotation
    plainSecrets_lawful driftedRow_orderly (EveryStep.of_stepByStep (by decide +kernel))

def twoRotations : List (ℕ × CredentialStep) :=
  [(0, .ensure), (1, .ensure), (0, .query), (1, .query), (0, .flush "a" 0),
    (0, .commit), (0, .check), (1, .flush "b" 0), (1, .commit)]

/-- The secret that the first has handed out is then refused. -/
theorem twoRotations_refuses : ¬ ∀ (tools : SecretTools) (tenantId : ℕ) (username : String)
        (startRows : List SmtpCredential) (nextId : ℕ)
        (actions : List (ℕ × CredentialStep)), tools.Lawful →
        OrderlyRows username startRows nextId → EveryStep (fun before move after =>
              after = CredentialWorld.next tools tenantId username before move)
            (fun before move after =>
              KeepsCredentials tools username startRows after ∧
                FailsInconsistent tools username before move after)
            (.start startRows nextId) actions := by
  intro always
  have kept := always plainSecrets 7 "api" [driftedRow] 2 twoRotations
    plainSecrets_lawful driftedRow_orderly twoRotations.dropLast (1, .commit)
    [] _ _ rfl (Run.of_foldl _ _ _) rfl
  obtain ⟨row, found, passes⟩ := kept.1.accepted
    (fun caller => by rcases caller with _ | _ | caller <;> rfl) 0 (strongSecret "a") (by rfl)
  have refused : ((((twoRotations.dropLast.foldl (CredentialWorld.next plainSecrets 7 "api")
        (.start [driftedRow] 2)).next plainSecrets 7 "api"
          (1, .commit)).shared.systemRow "api").all fun row =>
      ! credentialIsUsable plainSecrets row (strongSecret "a")) = true := by
    decide +kernel
  rw [found, Option.all_some, passes] at refused
  cases refused

end Ithute
