import Ithute.DatabaseFailover

/-!
# The database variables of a project

Provisioning describes a new database before its host is known, and the
report of an agent describes the database that has become ready, but for its
engine.  As long as what is reported has the engine that the variables name,
they describe one database of the project once every host is known.
-/

namespace Ithute

open UniqueRows RewrittenRows TransitionRuns

def lookupVariable (rows : List EnvironmentVariable) (projectId : ℕ)
    (key : String) : Option String :=
  (rows.find? fun row => row.isFor projectId key).map EnvironmentVariable.encryptedValue

section Variables

variable {flushed current : List EnvironmentVariable}
variable {projectId otherId : ℕ} {key other encrypted : String} {secret : Bool}

theorem isFor_iff {row : EnvironmentVariable} : row.isFor projectId key = true ↔
      row.projectId = projectId ∧ row.key = key := by
  simp [EnvironmentVariable.isFor]

theorem lookup_setVariable_other (apart : (otherId, other) ≠ (projectId, key)) :
    lookupVariable (setVariable flushed current projectId key encrypted secret) otherId other =
      lookupVariable current otherId other := by
  have unlike {row : EnvironmentVariable}
      (isKey : row.isFor projectId key = true) : row.isFor otherId other = false := by
    rw [← Bool.not_eq_true]
    intro isOther
    rw [isFor_iff] at isKey isOther
    apply apart
    rw [← isOther.1, ← isOther.2, isKey.1, isKey.2]
  unfold lookupVariable setVariable
  split_ifs
  · induction current with
    | nil => rfl
    | cons first rest ih =>
      rw [List.map_cons, List.find?_cons, List.find?_cons]
      by_cases isKey : first.isFor projectId key = true
      · have written : EnvironmentVariable.isFor
            { first with encryptedValue := encrypted, isSecret := secret }
            otherId other = false := unlike isKey
        rw [if_pos isKey, written, unlike isKey]
        exact ih
      · rw [if_neg isKey]
        cases first.isFor otherId other with
        | true => rfl
        | false => exact ih
  · rw [List.find?_append]
    have missing : EnvironmentVariable.isFor
        { projectId := projectId
          key := key
          encryptedValue := encrypted
          isSecret := secret } otherId other = false :=
      unlike (isFor_iff.mpr ⟨rfl, rfl⟩)
    simp [missing]

theorem lookup_setVariable_same (known : lookupVariable current projectId key = none ↔
      lookupVariable flushed projectId key = none) :
    lookupVariable (setVariable flushed current projectId key encrypted
      secret) projectId key = some encrypted := by
  unfold lookupVariable at known ⊢
  rw [Option.map_eq_none_iff, Option.map_eq_none_iff] at known
  unfold setVariable
  split_ifs with stored
  · have present : (current.find? fun row => row.isFor projectId key) ≠ none := by
      rw [Ne, known, List.find?_eq_none]
      simpa using stored
    clear known
    induction current with
    | nil => simp at present
    | cons first rest ih =>
      rw [List.map_cons, List.find?_cons]
      by_cases isKey : first.isFor projectId key = true
      · have written : EnvironmentVariable.isFor
            { first with encryptedValue := encrypted, isSecret := secret }
            projectId key = true := isKey
        rw [if_pos isKey, written]
        rfl
      · rw [List.find?_cons, Bool.eq_false_of_not_eq_true isKey] at present
        rw [if_neg isKey, Bool.eq_false_of_not_eq_true isKey]
        exact ih present
  · have absent : (current.find? fun row => row.isFor projectId key) = none := by
      rw [known, List.find?_eq_none]
      simpa using stored
    rw [List.find?_append, absent]
    simp [EnvironmentVariable.isFor]

variable {store : SecretStore} {entries : List (String × String × Bool)}

theorem lookup_writeVariables_other
    (apart : ∀ entry ∈ entries, (otherId, other) ≠ (projectId, entry.1))
    (current : List EnvironmentVariable) :
    lookupVariable (writeVariables store flushed projectId entries current)
        otherId other = lookupVariable current otherId other := by
  induction entries generalizing current with
  | nil => rfl
  | cons entry rest ih =>
    have later := ih (fun next member =>
      apart next (List.mem_cons_of_mem _ member))
      (setVariable flushed current projectId entry.1 (store.encryptSecret entry.2.1) entry.2.2)
    rw [lookup_setVariable_other (apart entry List.mem_cons_self)] at later
    exact later

theorem lookup_writeVariables_same (distinct : (entries.map fun entry => entry.1).Nodup)
    (known : ∀ entry ∈ entries, lookupVariable current projectId entry.1 = none ↔
        lookupVariable flushed projectId entry.1 = none) :
    ∀ entry ∈ entries, lookupVariable (writeVariables store flushed projectId entries current)
        projectId entry.1 = some (store.encryptSecret entry.2.1) := by
  induction entries generalizing current with
  | nil => simp
  | cons first rest ih =>
    rw [List.map_cons, List.nodup_cons] at distinct
    have apart : ∀ entry ∈ rest, (projectId, entry.1) ≠ (projectId, first.1) := by
      intro entry member same
      rw [Prod.mk.injEq] at same
      exact distinct.1 (List.mem_map.mpr ⟨entry, member, same.2⟩)
    intro entry member
    rcases List.mem_cons.mp member with rfl | later
    · refine (lookup_writeVariables_other
        (fun next nextMem => (apart next nextMem).symm) _).trans ?_
      exact lookup_setVariable_same (known entry List.mem_cons_self)
    · refine ih distinct.2 ?_ entry later
      intro next nextMem
      rw [lookup_setVariable_other (apart next nextMem)]
      exact known next (List.mem_cons_of_mem _ nextMem)

def normalizedEntries (entries : List (String × String × Bool)) : List (String × String × Bool) :=
  entries.map fun entry => ((environmentKey entry.1).getD entry.1, entry.2)

theorem upsertAll_ok {written : List EnvironmentVariable}
    (upserted : upsertAll store flushed projectId entries current = .ok written) :
    written = writeVariables store flushed projectId (normalizedEntries entries) current := by
  induction entries generalizing current with
  | nil =>
    cases upserted
    rfl
  | cons entry rest ih =>
    obtain ⟨key, value, secret⟩ := entry
    unfold upsertAll at upserted
    split at upserted
    · cases upserted
    · rename_i next isNext
      unfold upsertEnv at isNext
      split at isNext
      · cases isNext
      · rename_i normalized isKey
        split_ifs at isNext
        cases isNext
        rw [ih upserted, normalizedEntries, normalizedEntries, List.map_cons]
        simp only [isKey, Option.getD_some]
        rfl

end Variables

def databaseKeys : List String :=
  ["DATABASE_ENGINE", "DATABASE_HOST", "DATABASE_PORT", "DATABASE_NAME",
    "DATABASE_USER", "DATABASE_PASSWORD", "DATABASE_URL"]

theorem environmentKey_databaseKeys : ∀ key ∈ databaseKeys, environmentKey key = some key := by
  decide

def HostedDatabases.value (state : HostedDatabases) (store : SecretStore)
    (projectId : ℕ) (key : String) : Option String :=
  (lookupVariable state.tables.environment projectId key).bind store.decryptSecret

/-- The variables hold the connection of a database with its current
password. -/
structure DescribesConnection (store : SecretStore)
    (value : String → Option String) (row : ManagedDatabase) : Prop where
  name : value "DATABASE_NAME" = some row.databaseName
  user : value "DATABASE_USER" = some row.username
  port : value "DATABASE_PORT" = some (toString row.internalPort)
  password : ∃ password, store.decryptSecret row.encryptedPassword =
    some password ∧ value "DATABASE_PASSWORD" = some password
  host : ∃ host, presentText row.internalHost = some host ∧ value "DATABASE_HOST" = some host
  url : ∃ host password, presentText row.internalHost = some host ∧
    store.decryptSecret row.encryptedPassword = some password ∧
      value "DATABASE_URL" = some (databaseUrl row host password)

def HostedDatabases.Describes (store : SecretStore) (projectId : ℕ) (state : HostedDatabases)
    (row : ManagedDatabase) : Prop :=
  state.value store projectId "DATABASE_ENGINE" = some row.engine.name ∧
    DescribesConnection store (state.value store projectId) row

/-- All variables describe one database of the project, or none is set. -/
def WholeOrAbsent (store : SecretStore) (projectId : ℕ) (state : HostedDatabases) : Prop :=
  (∀ key ∈ databaseKeys, state.value store projectId key = none) ∨
    ∃ row ∈ state.tables.databases, row.projectId = some projectId ∧
      state.Describes store projectId row

/-- A database of the project whose host no report has named. -/
def AwaitsHost (projectId : ℕ) (row : ManagedDatabase) : Prop :=
  row.projectId = some projectId ∧ presentText row.internalHost = none

instance (projectId : ℕ) (row : ManagedDatabase) : Decidable (AwaitsHost projectId row) :=
  inferInstanceAs (Decidable (_ ∧ _))

/-- What a successful report on a database of the project has to meet: it
deletes a database that the variables do not describe, it suspends one where
it is, or the variables name the engine of the database while no other one of
the project awaits its host. -/
def ReportsDescribed (store : SecretStore) (projectId : ℕ) (before : HostedDatabases)
    (payload : DatabaseAgentStatus) (row : ManagedDatabase) : Prop :=
  (row.operation = .delete → presentText row.internalHost ≠ none ∧
    before.value store projectId "DATABASE_USER" ≠ some row.username) ∧
  (row.operation = .suspend → (∀ host ∈ presentText payload.host, row.internalHost = some host) ∧
    ∀ port ∈ payload.port, row.internalPort = port) ∧
  (row.operation ≠ .delete → row.operation ≠ .suspend →
    before.value store projectId "DATABASE_ENGINE" = some row.engine.name ∨
      ∃ other ∈ before.tables.databases, other.id ≠ row.id ∧ AwaitsHost projectId other)

/-- The requests of the project set none of the variables themselves, and the
reports on its databases meet their condition. -/
def KeepsVariables (store : SecretStore) (projectId : ℕ)
    (before : HostedDatabases) (move : DatabaseMove) (_ : HostedDatabases) : Prop :=
  match move with
  | .provision request => request.project.id = projectId → ∀ entry ∈ request.environment,
      ∀ key ∈ databaseKeys, environmentKey entry.1 ≠ some key
  | .report databaseId payload => payload.success = true → ∀ row ∈ before.tables.databases,
      row.id = databaseId → row.projectId = some projectId →
        ReportsDescribed store projectId before payload row
  | _ => True

instance (store : SecretStore) (projectId : ℕ) (before : HostedDatabases)
    (payload : DatabaseAgentStatus) (row : ManagedDatabase) :
    Decidable (ReportsDescribed store projectId before payload row) :=
  inferInstanceAs (Decidable ((_ → _ ∧ _) ∧ (_ → _ ∧ _) ∧ (_ → _ → _ ∨ _)))

instance (store : SecretStore) (projectId : ℕ) (before after : HostedDatabases)
    (move : DatabaseMove) : Decidable (KeepsVariables store projectId before move after) :=
  match move with
  | .provision request => inferInstanceAs (Decidable (request.project.id = projectId → _))
  | .report _ payload => inferInstanceAs (Decidable (payload.success = true → _))
  | .create _ | .rotate _ _ _ | .suspend _ _ | .resume _ _ | .delete _ _ | .claim _ _
  | .execute _ _ | .lose _ => .isTrue trivial

section Moves

variable {store : SecretStore} {projectId : ℕ}
variable {before after : HostedDatabases} {move : DatabaseMove}

structure SameConnection (before after : ManagedDatabase) : Prop where
  same : SameDatabase before after
  encryptedPassword : after.encryptedPassword = before.encryptedPassword
  internalHost : after.internalHost = before.internalHost
  internalPort : after.internalPort = before.internalPort

theorem SameConnection.refl (row : ManagedDatabase) : SameConnection row row :=
  ⟨SameDatabase.refl row, rfl, rfl, rfl⟩

theorem connectionVariables_keys (row : ManagedDatabase) (host : String)
    (password : Option String) : ∀ entry ∈ connectionVariables row host password,
      entry.1 ≠ "DATABASE_ENGINE" := by
  cases password <;> simp [connectionVariables]

variable {key : String}

theorem lookup_upsertAll_other {flushed current written : List EnvironmentVariable}
    {entries : List (String × String × Bool)} {otherId : ℕ}
    (upserted : upsertAll store flushed projectId entries current = .ok written)
    (apart : otherId ≠ projectId ∨ ∀ entry ∈ entries, (environmentKey entry.1).getD entry.1 ≠ key) :
    lookupVariable written otherId key = lookupVariable current otherId key := by
  rw [upsertAll_ok upserted]
  apply lookup_writeVariables_other
  intro entry member same
  obtain ⟨original, originalMem, rfl⟩ := List.mem_map.mp member
  rw [Prod.mk.injEq] at same
  dsimp only at same
  rcases apart with apart | apart
  · exact apart same.1
  · exact apart original originalMem same.2.symm

variable {row : ManagedDatabase}

theorem lookup_reconcile_other {environment : List EnvironmentVariable} {otherId : ℕ}
    (apart : row.projectId ≠ some otherId ∨ key = "DATABASE_ENGINE") :
    lookupVariable (reconcileEnvironment store environment row) otherId key =
      lookupVariable environment otherId key := by
  unfold reconcileEnvironment
  split
  · rename_i id host attached _
    split_ifs
    · apply lookup_writeVariables_other
      intro entry member same
      rw [Prod.mk.injEq] at same
      rcases apart with apart | isEngine
      · exact apart (attached.trans (congrArg some same.1.symm))
      · exact connectionVariables_keys row host _ entry member (same.2.symm.trans isEngine)
    · rfl
  · rfl

/-- The variables of the project describe a database that becomes ready on a
known host. -/
theorem reconcile_describes {environment : List EnvironmentVariable}
    (attached : row.projectId = some projectId) (ready : row.status = .ready)
    {host : String} (known : presentText row.internalHost = some host)
    {password : String} (decrypts : store.decryptSecret row.encryptedPassword = some password) :
    DescribesConnection store (fun key =>
      (lookupVariable (reconcileEnvironment store environment row) projectId key).bind
        store.decryptSecret) row := by
  have written : reconcileEnvironment store environment row =
      writeVariables store environment projectId (connectionVariables row host (some password))
        environment := by
    simp [reconcileEnvironment, attached, known, ready, decrypts]
  have values : ∀ entry ∈ connectionVariables row host (some password),
      (lookupVariable (reconcileEnvironment store environment row) projectId entry.1).bind
        store.decryptSecret = some entry.2.1 := by
    intro entry member
    rw [written, lookup_writeVariables_same (by simp [connectionVariables])
      (fun _ _ => Iff.rfl) entry member]
    exact store.decrypt_encrypt entry.2.1
  refine ⟨?_, ?_, ?_, ⟨password, decrypts, ?_⟩, ⟨host, known, ?_⟩,
    ⟨host, password, known, decrypts, ?_⟩⟩
  · exact values (_, row.databaseName, false) (by simp [connectionVariables])
  · exact values (_, row.username, true) (by simp [connectionVariables])
  · exact values (_, toString row.internalPort, false) (by simp [connectionVariables])
  · exact values (_, password, true) (by simp [connectionVariables])
  · exact values (_, host, false) (by simp [connectionVariables])
  · exact values (_, databaseUrl row host password, true) (by simp [connectionVariables])

variable {first second : ManagedDatabase}

theorem Asks.connection {queued : ManagedDatabase}
    (asks : Asks store move row queued) : SameConnection row queued := by
  cases asks <;> exact ⟨⟨rfl, rfl, rfl, rfl, rfl, rfl, rfl⟩, rfl, rfl, rfl⟩

theorem FailedRow.connection {failed : ManagedDatabase}
    (fails : FailedRow row failed) : SameConnection row failed :=
  ⟨fails.same, fails.encryptedPassword, fails.internalHost, fails.internalPort⟩

theorem databaseUrl_congr (connection : SameConnection first second) (host password : String) :
    databaseUrl second host password = databaseUrl first host password := by
  simp [databaseUrl, connection.same.engine, connection.same.username,
    connection.internalPort, connection.same.databaseName]

theorem DescribesConnection.later {value : String → Option String}
    (describes : DescribesConnection store value first) (connection : SameConnection first second) :
    DescribesConnection store value second := by
  obtain ⟨name, user, port, password, host, url⟩ := describes
  constructor
  · rw [connection.same.databaseName]
    exact name
  · rw [connection.same.username]
    exact user
  · rw [connection.internalPort]
    exact port
  · rw [connection.encryptedPassword]
    exact password
  · rw [connection.internalHost]
    exact host
  · obtain ⟨host, password, isHost, decrypts, isUrl⟩ := url
    rw [connection.internalHost, connection.encryptedPassword]
    refine ⟨host, password, isHost, decrypts, ?_⟩
    rw [databaseUrl_congr connection]
    exact isUrl

theorem DescribesConnection.congr {first second : String → Option String}
    (describes : DescribesConnection store first row)
    (same : ∀ key ∈ databaseKeys, second key = first key) :
    DescribesConnection store second row := by
  obtain ⟨name, user, port, password, host, url⟩ := describes
  constructor
  · exact (same _ (by decide)).trans name
  · exact (same _ (by decide)).trans user
  · exact (same _ (by decide)).trans port
  · exact password.imp fun _ known => ⟨known.1, (same _ (by decide)).trans known.2⟩
  · exact host.imp fun _ known => ⟨known.1, (same _ (by decide)).trans known.2⟩
  · obtain ⟨host, password, isHost, decrypts, isUrl⟩ := url
    exact ⟨host, password, isHost, decrypts, (same _ (by decide)).trans isUrl⟩

/-- A database of the project awaits its host, or its variables are whole or
absent. -/
def VariablesSettle (store : SecretStore) (projectId : ℕ) (state : HostedDatabases) : Prop :=
  (∃ row ∈ state.tables.databases, AwaitsHost projectId row) ∨ WholeOrAbsent store projectId state

/-- The variables stay, and so do the databases of the project but for one
that is neither described nor awaits its host. -/
theorem VariablesSettle.kept {gone : ManagedDatabase → Prop}
    (settles : VariablesSettle store projectId before)
    (values : ∀ key ∈ databaseKeys, lookupVariable after.tables.environment projectId key =
      lookupVariable before.tables.environment projectId key)
    (rows : ∀ row ∈ before.tables.databases, row.projectId = some projectId → ¬ gone row →
      ∃ later ∈ after.tables.databases, SameConnection row later)
    (spared : ∀ row, gone row → presentText row.internalHost ≠ none ∧
      before.value store projectId "DATABASE_USER" ≠ some row.username) :
    VariablesSettle store projectId after := by
  have same : ∀ key ∈ databaseKeys,
      after.value store projectId key = before.value store projectId key := by
    intro key isKey
    rw [HostedDatabases.value, values key isKey, HostedDatabases.value]
  rcases settles with
    ⟨row, member, attached, awaits⟩ | absent | ⟨row, member, attached, engine, connection⟩
  · obtain ⟨later, laterMem, kept⟩ := rows row member attached fun isGone =>
      (spared row isGone).1 awaits
    exact .inl ⟨later, laterMem, kept.same.projectId.trans attached, kept.internalHost ▸ awaits⟩
  · exact .inr (.inl fun key isKey => (same key isKey).trans (absent key isKey))
  · obtain ⟨later, laterMem, kept⟩ := rows row member attached fun isGone =>
      (spared row isGone).2 connection.user
    refine .inr (.inr ⟨later, laterMem, kept.same.projectId.trans attached, ?_, ?_⟩)
    · rw [same _ (by decide), kept.same.engine]
      exact engine
    · exact (connection.congr same).later kept

theorem VariablesSettle.moved (settles : VariablesSettle store projectId before)
    (values : ∀ key ∈ databaseKeys, lookupVariable after.tables.environment projectId key =
      lookupVariable before.tables.environment projectId key)
    (rows : ∀ row ∈ before.tables.databases, row.projectId = some projectId →
      ∃ later ∈ after.tables.databases, SameConnection row later) :
    VariablesSettle store projectId after :=
  @VariablesSettle.kept _ _ _ _ (fun _ => False) settles values
    (fun row member attached _ => rows row member attached) fun _ => False.elim

variable {tables : DatabaseTables}

theorem kept_save (consistent : tables.Consistent) {saved : ManagedDatabase}
    (member : row ∈ tables.databases) (connection : SameConnection row saved) :
    ∀ stored ∈ tables.databases,
      ∃ later ∈ (tables.save saved).databases, SameConnection stored later := by
  intro stored storedMem
  by_cases same : stored.id = saved.id
  · have equal := consistent.eq_of_id storedMem member (same.trans connection.same.id)
    exact ⟨saved, List.mem_map.mpr ⟨stored, storedMem, if_pos same⟩, equal ▸ connection⟩
  · exact ⟨stored, List.mem_map.mpr ⟨stored, storedMem, if_neg same⟩, SameConnection.refl stored⟩

variable {payload : DatabaseAgentStatus} {completed : ManagedDatabase}

theorem Completes.status (completes : Completes row payload completed) :
    completed.status = if row.operation = .suspend then .suspended else .ready := by
  cases completes <;> rfl

/-- A suspended database keeps its connection where the report names no other
host or port. -/
theorem Completes.connection (completes : Completes row payload completed)
    (suspend : row.operation = .suspend)
    (host : ∀ host ∈ presentText payload.host, row.internalHost = some host)
    (port : ∀ port ∈ payload.port, row.internalPort = port) : SameConnection row completed := by
  cases completes with
  | rotated rotate => exact absurd (suspend.symm.trans rotate) (by decide)
  | other =>
    refine ⟨⟨rfl, rfl, rfl, rfl, rfl, rfl, rfl⟩, rfl, ?_, ?_⟩
    · cases given : presentText payload.host with
      | none => simp only [ManagedDatabase.complete, given]
      | some named => simp only [ManagedDatabase.complete, given, host named given]
    · cases given : payload.port with
      | none => simp [ManagedDatabase.complete, given]
      | some named => simp [ManagedDatabase.complete, given, port named given]

/-- The report on a database of the project that becomes ready. -/
theorem VariablesSettle.reported (attached : row.projectId = some projectId)
    (member : row ∈ before.tables.databases)
    (completes : Completes row payload completed) (kept : row.operation ≠ .suspend)
    (usable : completed.Usable store)
    (environment : after.tables.environment =
      reconcileEnvironment store before.tables.environment completed)
    (databases : after.tables.databases = (before.tables.save completed).databases)
    (engine : before.value store projectId "DATABASE_ENGINE" = some row.engine.name ∨
      ∃ other ∈ before.tables.databases, other.id ≠ row.id ∧ AwaitsHost projectId other) :
    VariablesSettle store projectId after := by
  have stored : completed ∈ after.tables.databases := by
    rw [databases]
    exact List.mem_map.mpr ⟨row, member, if_pos completes.same.id.symm⟩
  have attachedLater := completes.same.projectId.trans attached
  rcases engine with engine | ⟨other, otherMem, apart, awaits⟩
  · cases known : presentText completed.internalHost with
    | none => exact .inl ⟨completed, stored, attachedLater, known⟩
    | some host =>
      obtain ⟨password, decrypts⟩ := Option.ne_none_iff_exists'.mp usable.password
      have ready : completed.status = .ready := completes.status.trans (if_neg kept)
      refine .inr (.inr ⟨completed, stored, attachedLater, ?_, ?_⟩)
      · rw [HostedDatabases.value, environment, lookup_reconcile_other (.inr rfl),
          completes.same.engine]
        exact engine
      · unfold HostedDatabases.value
        rw [environment]
        exact reconcile_describes attachedLater ready known decrypts
  · refine .inl ⟨other, ?_, awaits⟩
    rw [databases]
    exact List.mem_map.mpr ⟨other, otherMem, if_neg (completes.same.id ▸ apart)⟩

theorem VariablesSettle.next (sound : before.Sound store)
    (settles : VariablesSettle store projectId before)
    (moved : DatabaseMoved store before move after)
    (keeps : KeepsVariables store projectId before move after) :
    VariablesSettle store projectId after := by
  have consistent := sound.consistent.tables
  have same (row : ManagedDatabase) (rows : List ManagedDatabase) (member : row ∈ rows) :
      ∃ later ∈ rows, SameConnection row later := ⟨row, member, SameConnection.refl row⟩
  cases moved with
  | idle | dismissed => exact settles
  | executed found unfinished =>
    rw [HostedDatabases.execute_eq found unfinished]
    exact settles
  | created makes inserted =>
    rw [(DatabaseTables.insert_ok inserted).1]
    exact settles.moved (fun _ _ => rfl) fun row member _ =>
      same row _ (List.mem_append_left _ member)
  | @provisioned request row tables written environment accepted asked makes inserted upserted
      flushed described =>
    rw [(DatabaseTables.insert_ok inserted).1]
    by_cases here : request.project.id = projectId
    · have awaits : presentText row.internalHost = none := by
        rw [makes.internalHost]
        rfl
      exact .inl ⟨row, List.mem_append_right _ (List.mem_singleton_self row),
        makes.projectId.trans (congrArg some here), awaits⟩
    · refine settles.moved (fun key _ => ?_) fun row member _ =>
        same row _ (List.mem_append_left _ member)
      exact (lookup_upsertAll_other described (.inl (Ne.symm here))).trans
        (lookup_upsertAll_other upserted (.inl (Ne.symm here)))
  | @configured request environment accepted without upserted flushed =>
    refine settles.moved (fun key isKey => ?_) fun row member _ => same row _ member
    apply lookup_upsertAll_other upserted
    by_cases here : request.project.id = projectId
    · right
      intro entry member written
      obtain ⟨original, originalMem, rfl⟩ := List.mem_map.mp member
      have spares := keeps here original originalMem key isKey
      cases normalized : environmentKey original.1 with
      | none =>
        rw [normalized, Option.getD_none] at written
        rw [written, environmentKey_databaseKeys key isKey] at normalized
        cases normalized
      | some stored =>
        rw [normalized, Option.getD_some] at written
        exact spares (normalized.trans (congrArg some written))
    · exact .inl (Ne.symm here)
  | queued member asks =>
    exact settles.moved (fun _ _ => rfl) fun row rowMem _ =>
      kept_save consistent member asks.connection row rowMem
  | unclaimed member _ _ _ fails =>
    exact settles.moved (fun _ _ => rfl) fun row rowMem _ =>
      kept_save consistent member fails.connection row rowMem
  | claimed member =>
    refine settles.moved (fun _ _ => rfl) fun row rowMem _ =>
      kept_save consistent member ?_ row rowMem
    exact ⟨⟨rfl, rfl, rfl, rfl, rfl, rfl, rfl⟩, rfl, rfl, rfl⟩
  | failed reported _ fails =>
    exact settles.moved (fun _ _ => rfl) fun row rowMem _ =>
      kept_save consistent reported.member fails.connection row rowMem
  | @deleted databaseId payload job row reported claimed successful delete =>
    refine @VariablesSettle.kept _ _ _ _ (fun stored => stored = row ∧ row.projectId = some projectId)
      settles (fun _ _ => rfl) ?_ ?_
    · intro stored storedMem attached here
      refine same stored _ (List.mem_filter.mpr ⟨storedMem, ?_⟩)
      rw [decide_eq_true_eq]
      intro sameId
      have equal := consistent.eq_of_id storedMem reported.member sameId
      exact here ⟨equal, equal ▸ attached⟩
    · rintro stored ⟨rfl, attached⟩
      exact (keeps claimed stored reported.member reported.id attached).1 delete
  | @completed databaseId payload job row completed reported claimed successful kept completes =>
    by_cases attached : row.projectId = some projectId
    · obtain ⟨-, suspends, describes⟩ :=
        keeps claimed row reported.member reported.id attached
      by_cases suspend : row.operation = .suspend
      · obtain ⟨host, port⟩ := suspends suspend
        refine settles.moved (fun key _ => ?_) fun stored storedMem _ =>
          kept_save consistent reported.member (completes.connection suspend host port)
            stored storedMem
        have suspended : completed.status ≠ .ready := by simp [completes.status, suspend]
        unfold reconcileEnvironment
        split
        · rw [if_neg suspended]
        · rfl
      · exact VariablesSettle.reported attached reported.member completes suspend
          (completes.usable (sound.usable row reported.member)) rfl rfl (describes kept suspend)
    · refine settles.moved (fun key _ => ?_) ?_
      · exact lookup_reconcile_other (.inl (completes.same.projectId ▸ attached))
      · intro stored storedMem isAttached
        have apart : stored.id ≠ completed.id := by
          intro sameId
          have equal := consistent.eq_of_id storedMem reported.member
            (sameId.trans completes.same.id)
          exact attached (equal ▸ isAttached)
        exact same stored _ (List.mem_map.mpr ⟨stored, storedMem, if_neg apart⟩)

end Moves

def stateAfter (store : SecretStore) (moves : List DatabaseMove) : HostedDatabases :=
  moves.foldl (fun state move => state.perform store move) (.fresh [])

def provisionShop (engine : DatabaseEngine) (suffix : String) : ProvisionRequest where
  tenantId := 1
  project := DatabaseWorld.strandedHome
  applicationNode := .ok 1
  databaseEngine := some engine
  selectNode := .ok
  suffix := suffix
  password := "a-password-of-some-length"
  now := 0

/-- A database is provisioned, and its password is rotated. -/
def rotatedShop : List DatabaseMove :=
  .provision (provisionShop .postgresql "0a1b2c3d") :: createsOldest 0 ++
    .rotate 1 0 "another-password-of-some-length" :: createsOldest 0

/-- Between two operations on the first database, one of another engine is
provisioned. -/
def twoEngines : List DatabaseMove :=
  .provision (provisionShop .postgresql "0a1b2c3d") :: createsOldest 0 ++
    .provision (provisionShop .mysql "4e5f6a7b") :: createsOldest 1 ++
      .rotate 1 0 "another-password-of-some-length" :: createsOldest 0

end Ithute
