import Ithute.Library.UniqueRows
import Ithute.DatabaseNodes
import Ithute.Library.RewrittenRows

/-!
# What moves on databases do

Every move leaves the system as it is, adds a row, queues an operation on a
row, claims it, runs it, or writes back what an agent reports.
-/

namespace Ithute

structure SameDatabase (before after : ManagedDatabase) : Prop where
  id : after.id = before.id
  tenantId : after.tenantId = before.tenantId
  projectId : after.projectId = before.projectId
  nodeId : after.nodeId = before.nodeId
  engine : after.engine = before.engine
  databaseName : after.databaseName = before.databaseName
  username : after.username = before.username

theorem SameDatabase.refl (row : ManagedDatabase) : SameDatabase row row :=
  ⟨rfl, rfl, rfl, rfl, rfl, rfl, rfl⟩

/-- What a request for a database has chosen; placement and naming may have
refused. -/
structure DatabasePlacement where
  tenantId : ℕ
  projectId : Option ℕ
  engine : DatabaseEngine
  node : Except String ℕ
  name : Except String String
  password : String

def HostingDatabaseCreate.placement (request : HostingDatabaseCreate) : DatabasePlacement where
  tenantId := request.tenantId
  projectId := request.project.map ProjectHome.id
  engine := request.engine
  node := request.selectNode request.preferredNode
  name := safeDbName request.name
  password := request.password

def ProvisionRequest.placement (request : ProvisionRequest)
    (engine : DatabaseEngine) : DatabasePlacement where
  tenantId := request.tenantId
  projectId := some request.project.id
  engine := engine
  node :=
    match request.project.nodeId.elim request.applicationNode .ok with
    | .error error => .error error
    | .ok home => request.selectNode home
  name :=
    safeDbName ((presentText request.databaseName).getD (request.project.slug ++ "_db"))
  password := request.password

section Moves

variable (store : SecretStore)

structure DatabasePlacement.Makes (placement : DatabasePlacement)
    (tables : DatabaseTables) (row : ManagedDatabase) : Prop where
  id : row.id = tables.nextId
  tenantId : row.tenantId = placement.tenantId
  projectId : row.projectId = placement.projectId
  engine : row.engine = placement.engine
  node : placement.node = .ok row.nodeId
  name : placement.name = .ok row.databaseName
  status : row.status = .queued
  operation : row.operation = .provision
  encryptedPassword : row.encryptedPassword = store.encryptSecret placement.password
  pending : row.pendingEncryptedPassword = none
  internalHost : row.internalHost = none

/-- A request that queues an operation on a row. -/
inductive Asks : DatabaseMove → ManagedDatabase → ManagedDatabase → Prop
  | rotate {tenantId databaseId : ℕ} {password : String}
      {row : ManagedDatabase} (ready : row.status = .ready) :
      Asks (.rotate tenantId databaseId password) row ({ row with
          pendingEncryptedPassword := some (store.encryptSecret password) }.queue .rotate)
  | suspend {tenantId databaseId : ℕ} {row : ManagedDatabase} (ready : row.status = .ready) :
      Asks (.suspend tenantId databaseId) row (row.queue .suspend)
  | resume {tenantId databaseId : ℕ} {row : ManagedDatabase} (suspended : row.status = .suspended) :
      Asks (.resume tenantId databaseId) row (row.queue .resume)
  | delete {tenantId databaseId : ℕ} {row : ManagedDatabase}
      (idle : row.status ≠ .queued ∧ row.status ≠ .working ∧ row.status ≠ .deleting)
      (found : row.id = databaseId) (tenant : row.tenantId = tenantId) :
      Asks (.delete tenantId databaseId) row (row.queue .delete)

variable {row : ManagedDatabase}

theorem Asks.idle {move : DatabaseMove} {queued : ManagedDatabase}
    (asks : Asks store move row queued) : row.status ≠ .working := by
  cases asks with
  | rotate ready => simp [ready]
  | suspend ready => simp [ready]
  | resume suspended => simp [suspended]
  | delete idle => exact idle.2.1

theorem Asks.same {move : DatabaseMove} {row queued : ManagedDatabase}
    (asks : Asks store move row queued) : SameDatabase row queued := by
  cases asks <;> exact ⟨rfl, rfl, rfl, rfl, rfl, rfl, rfl⟩

def ManagedDatabase.credential (row : ManagedDatabase) : Option String :=
  if row.operation = .rotate then presentText row.pendingEncryptedPassword
  else some row.encryptedPassword

def ManagedDatabase.Unusable (row : ManagedDatabase) : Prop :=
  if row.operation = .rotate then
    ∀ encrypted ∈ presentText row.pendingEncryptedPassword, store.decryptSecret encrypted = none
  else store.decryptSecret row.encryptedPassword = none

structure FailedRow (row failed : ManagedDatabase) : Prop where
  same : SameDatabase row failed
  status : failed.status = .failed
  operation : failed.operation = .none
  encryptedPassword : failed.encryptedPassword = row.encryptedPassword
  internalHost : failed.internalHost = row.internalHost
  internalPort : failed.internalPort = row.internalPort
  pending : ∀ encrypted ∈ failed.pendingEncryptedPassword, encrypted ∈ row.pendingEncryptedPassword

/-- The row that takes the place of one whose job has been completed. -/
inductive Completes (row : ManagedDatabase) (payload : DatabaseAgentStatus) : ManagedDatabase → Prop
  | rotated {pending : String} (rotate : row.operation = .rotate)
      (prepared : row.pendingEncryptedPassword = some pending) : Completes row payload ({ row with
          encryptedPassword := pending
          pendingEncryptedPassword := none }.complete payload)
  | other (operation : row.operation ≠ .rotate) : Completes row payload (row.complete payload)

structure Reported (before : HostedDatabases) (databaseId : ℕ)
    (job : DatabaseJob) (row : ManagedDatabase) : Prop where
  job : before.job? databaseId = some job
  member : row ∈ before.tables.databases
  id : row.id = databaseId
  working : row.status = .working
  operation : row.operation ≠ .none

theorem Completes.same {row completed : ManagedDatabase} {payload : DatabaseAgentStatus}
    (completes : Completes row payload completed) : SameDatabase row completed := by
  cases completes <;> exact ⟨rfl, rfl, rfl, rfl, rfl, rfl, rfl⟩

inductive DatabaseMoved (before : HostedDatabases) : DatabaseMove → HostedDatabases → Prop
  | idle {move : DatabaseMove} : DatabaseMoved before move before
  | created {request : HostingDatabaseCreate} {row : ManagedDatabase} {tables : DatabaseTables}
      (makes : request.placement.Makes store before.tables row)
      (inserted : before.tables.insert row = .ok tables) :
      DatabaseMoved before (.create request) { before with tables := tables }
  | provisioned {request : ProvisionRequest} {row : ManagedDatabase} {tables : DatabaseTables}
      {written environment : List EnvironmentVariable}
      (accepted : (provisionProject store before.tables request).toBool = true)
      (asked : request.databaseEngine = some row.engine) (makes :
        (request.placement row.engine).Makes store before.tables row)
      (inserted : before.tables.insert row = .ok tables)
      (upserted : upsertAll store before.tables.environment request.project.id
        (request.environment.map fun entry => (entry.1, entry.2, true))
        before.tables.environment = .ok written)
      (flushed : (written.map fun row => (row.projectId, row.key)).Nodup)
      (described : upsertAll store written request.project.id
        (provisionedVariables row request.password) written = .ok environment) :
      DatabaseMoved before (.provision request)
        { before with tables := { tables with environment := environment } }
  | configured {request : ProvisionRequest} {environment : List EnvironmentVariable}
      (accepted : (provisionProject store before.tables request).toBool = true)
      (without : request.databaseEngine = none)
      (upserted : upsertAll store before.tables.environment request.project.id
        (request.environment.map fun entry => (entry.1, entry.2, true))
        before.tables.environment = .ok environment)
      (flushed : (environment.map fun row => (row.projectId, row.key)).Nodup) :
      DatabaseMoved before (.provision request) { before with
          tables := { before.tables with environment := environment } }
  | queued {move : DatabaseMove} {row queued : ManagedDatabase}
      (member : row ∈ before.tables.databases) (asks : Asks store move row queued) :
      DatabaseMoved before move { before with tables := before.tables.save queued }
  | unclaimed {nodeId : ℕ} {locked : List ℕ} {row failed : ManagedDatabase}
      (member : row ∈ before.tables.databases) (operation : row.operation ≠ .none)
      (waiting : row.status = .queued ∨ row.status = .deleting)
      (unusable : row.Unusable store) (fails : FailedRow row failed) :
      DatabaseMoved before (.claim nodeId locked)
        { before with tables := before.tables.save failed }
  | claimed {nodeId : ℕ} {locked : List ℕ} {row : ManagedDatabase} {password : String}
      (member : row ∈ before.tables.databases) (operation : row.operation ≠ .none)
      (waiting : row.status = .queued ∨ row.status = .deleting)
      (credential : row.credential.bind store.decryptSecret = some password) :
      DatabaseMoved before (.claim nodeId locked) { before with
          tables := before.tables.save { row with status := .working }
          jobs := before.jobs ++ [{ work := row.work password }] }
  | executed {databaseId statements : ℕ} {job : DatabaseJob}
      (found : before.job? databaseId = some job) (unfinished : job.outcome = none) :
      DatabaseMoved before (.execute databaseId statements) (before.execute databaseId statements)
  | failed {databaseId : ℕ} {payload : DatabaseAgentStatus}
      {job : DatabaseJob} {row failed : ManagedDatabase}
      (reported : Reported before databaseId job row)
      (unsuccessful : ¬ (payload.success = true ∧ job.outcome = some true) ∨
        row.operation = .rotate ∧ row.pendingEncryptedPassword = none)
      (fails : FailedRow row failed) :
      DatabaseMoved before (.report databaseId payload) { before with
          tables := before.tables.save failed
          jobs := before.withoutJob databaseId }
  | deleted {databaseId : ℕ} {payload : DatabaseAgentStatus}
      {job : DatabaseJob} {row : ManagedDatabase} (reported : Reported before databaseId job row)
      (claimed : payload.success = true) (successful : job.outcome = some true)
      (delete : row.operation = .delete) :
      DatabaseMoved before (.report databaseId payload) { before with
          tables := { before.tables with
            databases := before.tables.databases.filter fun stored => stored.id ≠ row.id }
          jobs := before.withoutJob databaseId }
  | completed {databaseId : ℕ} {payload : DatabaseAgentStatus}
      {job : DatabaseJob} {row completed : ManagedDatabase}
      (reported : Reported before databaseId job row) (claimed : payload.success = true)
      (successful : job.outcome = some true) (kept : row.operation ≠ .delete)
      (completes : Completes row payload completed) :
      DatabaseMoved before (.report databaseId payload) { before with
          tables := { before.tables.save completed with
            environment := reconcileEnvironment store before.tables.environment completed }
          jobs := before.withoutJob databaseId }
  | dismissed {databaseId : ℕ} {move : DatabaseMove} (isOver : move = .lose databaseId ∨
        ∃ payload, move = .report databaseId payload) :
      DatabaseMoved before move { before with jobs := before.withoutJob databaseId }

variable {store} {tables : DatabaseTables}

theorem DatabaseTables.database?_spec {id : ℕ} (found : tables.database? id = some row) :
    row ∈ tables.databases ∧ row.id = id :=
  UniqueRows.find?_decide found

theorem filter_database?_spec {id : ℕ} {selected : ManagedDatabase → Bool}
    (found : (tables.database? id).filter selected = some row) :
    row ∈ tables.databases ∧ row.id = id ∧ selected row = true := by
  rw [Option.filter_eq_some_iff] at found
  obtain ⟨member, same⟩ := DatabaseTables.database?_spec found.1
  exact ⟨member, same, found.2⟩

variable (before : HostedDatabases)

theorem withDatabase_moved {move : DatabaseMove}
    {tenantId databaseId : ℕ} {request : ManagedDatabase → Except String ManagedDatabase}
    (asks : ∀ row queued, row.id = databaseId → row.tenantId = tenantId →
      request row = .ok queued → Asks store move row queued) :
    DatabaseMoved store before move (before.accepted
      (withDatabase before.tables tenantId databaseId request)) := by
  unfold withDatabase
  split
  · exact .idle
  · rename_i row found
    obtain ⟨member, same, tenant⟩ := filter_database?_spec found
    cases answer : request row with
    | error error => exact .idle
    | ok queued =>
      exact .queued member (asks row queued same (by simpa using tenant) answer)

theorem create_moved (request : HostingDatabaseCreate) :
    DatabaseMoved store before (.create request) (before.perform store (.create request)) := by
  unfold HostedDatabases.perform createHostingDatabase
  dsimp only
  split
  · exact .idle
  · split_ifs
    · exact .idle
    · exact .idle
    · exact .idle
    · split
      · exact .idle
      · split
        · exact .idle
        · rename_i node placed _ databaseName named
          split_ifs
          · exact .idle
          · generalize rowEq : ManagedDatabase.mk _ _ _ _ _ _ _ _ _ _ _ _ _
              _ _ _ _ = row
            have makes : request.placement.Makes store before.tables row := by
              subst rowEq
              unfold HostingDatabaseCreate.placement
              constructor
              case node => exact placed
              case name =>
                dsimp only
                exact named
              all_goals rfl
            cases inserted : before.tables.insert row with
            | error error => exact .idle
            | ok tables => exact .created makes inserted

theorem flushEnvironment_ok {rows flushed : List EnvironmentVariable}
    (ok : flushEnvironment rows = .ok flushed) : flushed = rows ∧
      (rows.map fun row => (row.projectId, row.key)).Nodup := by
  unfold flushEnvironment at ok
  split_ifs at ok with unique
  cases ok
  exact ⟨rfl, unique⟩

theorem provisionDatabase_ok {after : DatabaseTables}
    {request : ProvisionRequest} {written : List EnvironmentVariable}
    {home : ℕ} {engine : DatabaseEngine}
    (at_ : request.project.nodeId.elim request.applicationNode .ok = .ok home)
    (ok : provisionDatabase store tables request written home engine = .ok after) :
    ∃ row inserted environment, row.engine = engine ∧
        (request.placement row.engine).Makes store tables row ∧ tables.insert row = .ok inserted ∧
            (written.map fun row => (row.projectId, row.key)).Nodup ∧
              upsertAll store written request.project.id
                (provisionedVariables row request.password) written = .ok environment ∧
                after = { inserted with environment := environment } := by
  unfold provisionDatabase at ok
  split at ok
  · cases ok
  · split at ok
    · cases ok
    · rename_i databaseName named
      split_ifs at ok
      split at ok
      · cases ok
      · rename_i node placed
        dsimp only at ok
        split at ok
        · cases ok
        · cases ok
        · rename_i inserted flushed isInserted isFlushed
          obtain ⟨rfl, unique⟩ := flushEnvironment_ok isFlushed
          split at ok
          · cases ok
          · rename_i environment described
            cases ok
            refine ⟨_, inserted, environment, rfl, ?_, isInserted, unique, described, rfl⟩
            unfold ProvisionRequest.placement
            constructor
            case node =>
              dsimp only
              rw [at_]
              exact placed
            case name =>
              dsimp only
              exact named
            all_goals rfl

theorem provisionProject_ok {next : DatabaseTables} {request : ProvisionRequest}
    (ok : provisionProject store tables request = .ok next) : ∃ written,
      upsertAll store tables.environment request.project.id
          (request.environment.map fun entry => (entry.1, entry.2, true))
          tables.environment = .ok written ∧
        (written.map fun row => (row.projectId, row.key)).Nodup ∧
        ((request.databaseEngine = none ∧ next = { tables with environment := written }) ∨
          ∃ row inserted environment, request.databaseEngine = some row.engine ∧
              (request.placement row.engine).Makes store tables row ∧
                tables.insert row = .ok inserted ∧ upsertAll store written request.project.id
                    (provisionedVariables row request.password) written = .ok environment ∧
                    next = { inserted with environment := environment }) := by
  unfold provisionProject at ok
  split_ifs at ok
  split at ok
  · cases ok
  · rename_i home isHome
    split at ok
    · cases ok
    · rename_i written upserted
      dsimp only at ok
      split at ok
      · cases ok
      · cases ok
      · rename_i provisioned isProvisioned _
        split at ok
        · cases ok
        · rename_i flushed isFlushed
          cases ok
          obtain ⟨rfl, unique⟩ := flushEnvironment_ok isFlushed
          refine ⟨written, upserted, ?_⟩
          split at isProvisioned
          · rename_i without
            cases isProvisioned
            exact ⟨unique, .inl ⟨without, rfl⟩⟩
          · rename_i engine asked
            obtain ⟨row, inserted, environment, rfl, makes, isInserted,
              uniqueWritten, described, rfl⟩ :=
              provisionDatabase_ok isHome isProvisioned
            exact ⟨uniqueWritten, .inr ⟨row, inserted, environment, asked,
              makes, isInserted, described, rfl⟩⟩

theorem provision_moved (request : ProvisionRequest) :
    DatabaseMoved store before (.provision request)
      (before.perform store (.provision request)) := by
  dsimp only [HostedDatabases.perform]
  cases result : provisionProject store before.tables request with
  | error error => exact .idle
  | ok next =>
    have accepted : (provisionProject store before.tables request).toBool = true := by
      rw [result]
      rfl
    obtain ⟨written, upserted, unique, ⟨without, rfl⟩ |
      ⟨row, inserted, environment, asked, makes, isInserted, described,
        rfl⟩⟩ := provisionProject_ok result
    · exact .configured accepted without upserted unique
    · exact .provisioned accepted asked makes isInserted upserted unique described

theorem claim_moved (nodeId : ℕ) (locked : List ℕ) :
    DatabaseMoved store before (.claim nodeId locked)
      (before.perform store (.claim nodeId locked)) := by
  unfold HostedDatabases.perform HostedDatabases.claim claimDatabaseOperation
  dsimp only
  cases claimable : before.tables.claimable nodeId locked with
  | none => exact .idle
  | some row =>
    have selected := List.argmin_mem claimable
    rw [List.mem_filter, decide_eq_true_eq] at selected
    obtain ⟨member, -, operation, waiting, -⟩ := selected
    dsimp only
    cases credential : (if row.operation = .rotate then
        presentText row.pendingEncryptedPassword
      else some row.encryptedPassword) with
    | none =>
      have fails : FailedRow row (row.fail "Pending rotation credential is missing") :=
        ⟨⟨rfl, rfl, rfl, rfl, rfl, rfl, rfl⟩, rfl, rfl, rfl, rfl, rfl, fun _ kept => kept⟩
      refine .unclaimed member operation waiting ?_ fails
      unfold ManagedDatabase.Unusable
      split_ifs at credential ⊢ with rotate
      rw [credential]
      simp
    | some encrypted =>
      dsimp only
      cases decrypted : store.decryptSecret encrypted with
      | none =>
        refine .unclaimed member operation waiting ?_
          ⟨⟨rfl, rfl, rfl, rfl, rfl, rfl, rfl⟩, rfl, rfl, rfl, rfl, rfl, by simp⟩
        unfold ManagedDatabase.Unusable
        split_ifs at credential ⊢ with rotate
        · rw [credential]
          simpa using decrypted
        · cases credential
          exact decrypted
      | some password =>
        refine .claimed member operation waiting ?_
        unfold ManagedDatabase.credential
        rw [credential]
        exact decrypted

theorem report_moved (databaseId : ℕ) (payload : DatabaseAgentStatus) :
    DatabaseMoved store before (.report databaseId payload)
      (before.perform store (.report databaseId payload)) := by
  unfold HostedDatabases.perform HostedDatabases.report
  dsimp only
  cases found : before.job? databaseId with
  | none => exact .idle
  | some job =>
    unfold reportDatabaseOperation DatabaseJob.report
    dsimp only
    split
    · exact .dismissed (.inr ⟨payload, rfl⟩)
    · rename_i row located
      obtain ⟨member, same, -⟩ := filter_database?_spec located
      by_cases idle : row.status ≠ .working ∨ row.operation = .none
      · rw [if_pos idle]
        exact .dismissed (.inr ⟨payload, rfl⟩)
      · rw [if_neg idle]
        have reported : Reported before databaseId job row :=
          ⟨found, member, same, by tauto, by tauto⟩
        by_cases unsuccessful : (payload.success && decide (job.outcome = some true)) = false
        · rw [if_pos unsuccessful]
          refine .failed reported (.inl (by simpa using unsuccessful)) ?_
          split_ifs
          · exact ⟨⟨rfl, rfl, rfl, rfl, rfl, rfl, rfl⟩, rfl, rfl, rfl, rfl, rfl, by simp⟩
          · exact ⟨⟨rfl, rfl, rfl, rfl, rfl, rfl, rfl⟩, rfl, rfl, rfl, rfl, rfl, fun _ kept => kept⟩
        · rw [if_neg unsuccessful]
          rw [Bool.not_eq_false, Bool.and_eq_true, decide_eq_true_eq] at unsuccessful
          obtain ⟨claimed, successful⟩ := unsuccessful
          split_ifs with delete rotate
          · exact .deleted reported claimed successful delete
          · split
            · rename_i missing
              exact .failed reported (.inr ⟨rotate, missing⟩)
                ⟨⟨rfl, rfl, rfl, rfl, rfl, rfl, rfl⟩, rfl, rfl, rfl, rfl, rfl, fun _ kept => kept⟩
            · rename_i pending prepared
              exact .completed reported claimed successful delete (.rotated rotate prepared)
          · exact .completed reported claimed successful delete (.other rotate)

theorem perform_moved (move : DatabaseMove) :
    DatabaseMoved store before move (before.perform store move) := by
  cases move with
  | create request => exact create_moved before request
  | provision request => exact provision_moved before request
  | rotate tenantId databaseId password =>
    apply withDatabase_moved
    intro row queued same tenant answer
    unfold rotateDatabasePassword at answer
    split_ifs at answer with busy
    cases answer
    exact .rotate (by tauto)
  | suspend tenantId databaseId =>
    apply withDatabase_moved
    intro row queued same tenant answer
    unfold suspendDatabase at answer
    split_ifs at answer with busy
    cases answer
    exact .suspend (by tauto)
  | resume tenantId databaseId =>
    apply withDatabase_moved
    intro row queued same tenant answer
    unfold resumeDatabase at answer
    split_ifs at answer with busy
    cases answer
    exact .resume (by tauto)
  | delete tenantId databaseId =>
    apply withDatabase_moved
    intro row queued same tenant answer
    unfold deleteHostingDatabase at answer
    split_ifs at answer with busy
    cases answer
    exact .delete (by tauto) same tenant
  | claim nodeId locked => exact claim_moved before nodeId locked
  | execute databaseId statements =>
    cases found : before.job? databaseId with
    | none =>
      have idle : before.perform store (.execute databaseId statements) = before := by
        simp [HostedDatabases.perform, HostedDatabases.execute, found]
      rw [idle]
      exact .idle
    | some job =>
      cases finished : job.outcome with
      | none => exact .executed found finished
      | some outcome =>
        have idle : before.perform store (.execute databaseId statements) = before := by
          simp [HostedDatabases.perform, HostedDatabases.execute, found, finished]
        rw [idle]
        exact .idle
  | report databaseId payload => exact report_moved before databaseId payload
  | lose databaseId => exact .dismissed (.inl rfl)

end Moves

end Ithute
