import Ithute.DatabaseRuns

/-!
# Isolation of tenants

The control plane keeps the names of databases apart for each tenant, and
the servers of a node share them among all tenants.  Where no request gives
a tenant a name on a node that reaches a database of another tenant, logins
reach and deletions drop only what belongs to their tenant.
-/

namespace Ithute

open UniqueRows RewrittenRows TransitionRuns

/-- Every login reaches only databases of the tenant that it was issued
to. -/
def HostedDatabases.Isolated (state : HostedDatabases) : Prop :=
  ∀ login ∈ state.servers.logins, ∀ stored ∈ state.servers.stored, login.grantedOn stored →
      ∀ holder ∈ stored.holders, holder.tenantId = login.tenantId

def StoredDatabase.sameName (first second : StoredDatabase) : Bool :=
  first.nodeId = second.nodeId && first.engine = second.engine && first.name = second.name

def droppedDatabases (before after : HostedDatabases) : List StoredDatabase :=
  before.servers.stored.filter fun stored => !after.servers.stored.any stored.sameName

def DatabaseMove.runs (job : DatabaseJob) : DatabaseMove → Bool
  | .execute databaseId _ => job.databaseId = databaseId
  | _ => false

/-- A database is dropped only for the tenant of every row that refers to
it. -/
def DropsOnlyOwn (before : HostedDatabases) (move : DatabaseMove)
    (after : HostedDatabases) : Prop :=
  ∀ stored ∈ droppedDatabases before after, ∃ job ∈ before.jobs,
    move.runs job = true ∧ ∀ row ∈ before.tables.databases,
      stored.IsOf row → row.tenantId = job.work.tenantId

def IsolatesTenants (before : HostedDatabases) (move : DatabaseMove)
    (after : HostedDatabases) : Prop :=
  after.Isolated ∧ DropsOnlyOwn before move after

/-- A grant on the name of one covers the other, on one node and engine. -/
def ManagedDatabase.Reaches (first second : ManagedDatabase) : Prop :=
  first.nodeId = second.nodeId ∧ first.engine = second.engine ∧
    first.engine.covers first.databaseName second.databaseName = true

def Separated (rows : List ManagedDatabase) : Prop :=
  ∀ first ∈ rows, ∀ second ∈ rows, first.Reaches second → first.tenantId = second.tenantId

def DatabaseMove.placement : DatabaseMove → Option DatabasePlacement
  | .create request => some request.placement
  | .provision request => request.databaseEngine.map request.placement
  | _ => none

/-- The requested name and the name of a row reach each other on one
node. -/
def DatabasePlacement.Meets (placement : DatabasePlacement) (row : ManagedDatabase) : Prop :=
  placement.node = .ok row.nodeId ∧ placement.engine = row.engine ∧ match placement.name with
    | .error _ => False
    | .ok name =>
      row.engine.covers name row.databaseName = true ∨
        row.engine.covers row.databaseName name = true

/-- No database is asked for whose name meets that of another tenant's on
the node. -/
def SeparatesTenants (before : HostedDatabases) (move : DatabaseMove)
    (_ : HostedDatabases) : Prop :=
  ∀ placement ∈ move.placement, ∀ row ∈ before.tables.databases,
    row.tenantId ≠ placement.tenantId → ¬ placement.Meets row

theorem DatabaseEngine.covers_refl (engine : DatabaseEngine) (name : String) :
    engine.covers name name = true := by
  cases engine with
  | postgresql => simp [covers]
  | mysql =>
    simp only [covers, decide_true, Bool.true_and, List.all_eq_true]
    intro letters member
    rw [List.zip_eq_zipWith, List.zipWith_self] at member
    obtain ⟨letter, -, rfl⟩ := List.mem_map.mp member
    simp

variable {store : SecretStore} {before after : HostedDatabases}
variable {move : DatabaseMove} {rows : List ManagedDatabase}

theorem StoredDatabase.IsOf.reaches {stored : StoredDatabase}
    {first second : ManagedDatabase} (isFirst : stored.IsOf first)
    (isSecond : stored.IsOf second) : first.Reaches second := by
  refine ⟨isFirst.nodeId.symm.trans isSecond.nodeId, isFirst.engine.symm.trans isSecond.engine, ?_⟩
  rw [← isFirst.name, ← isSecond.name]
  exact first.engine.covers_refl stored.name

theorem isolated_of_separated {state : HostedDatabases}
    (recorded : state.servers.Recorded state.tables.databases)
    (separated : Separated state.tables.databases) : state.Isolated := by
  intro login loginMem stored storedMem granted holder holds
  obtain ⟨own, ownMem, isOwn⟩ := recorded.logins login loginMem
  obtain ⟨other, otherMem, isOther, holderOf⟩ := recorded.holders stored storedMem holder holds
  obtain ⟨nodeId, engine, name, nameMem, covers⟩ := granted
  have reaches : own.Reaches other := by
    refine ⟨?_, ?_, ?_⟩
    · rw [← isOwn.nodeId, ← isOther.nodeId, nodeId]
    · rw [← isOwn.engine, ← isOther.engine, engine]
    · rw [← isOwn.engine, ← isOther.name, ← isOwn.grants name nameMem]
      exact covers
  rw [holderOf.tenantId, isOwn.tenantId]
  exact (separated own ownMem other otherMem reaches).symm

namespace DatabaseWork

variable {work : DatabaseWork}

theorem sameName_refl (stored : StoredDatabase) : stored.sameName stored = true := by
  simp [StoredDatabase.sameName]

theorem statement_keeps {servers later : DatabaseServers} {next : DatabaseStatement}
    (runs : work.statement servers next = some later)
    {stored : StoredDatabase} (member : stored ∈ servers.stored)
    (other : work.isDatabase stored = false) : stored ∈ later.stored := by
  cases next with
  | openDatabase =>
    dsimp only [statement] at runs
    split_ifs at runs
    · cases runs
      refine List.mem_map.mpr ⟨stored, member, ?_⟩
      rw [other]
      rfl
    · cases runs
      exact List.mem_append.mpr (.inl member)
  | dropDatabase =>
    dsimp only [statement] at runs
    cases runs
    exact List.mem_filter.mpr ⟨member, by simp [other]⟩
  | dropLogin =>
    dsimp only [statement] at runs
    cases runs
    exact member
  | putLogin | grantAccess | setPassword | disableLogin | enableLogin =>
    dsimp only [statement] at runs
    split_ifs at runs <;> cases runs <;> exact member

theorem runStatements_keeps (program : List DatabaseStatement)
    (servers : DatabaseServers) {stored : StoredDatabase} (member : stored ∈ servers.stored)
    (other : work.isDatabase stored = false) :
    stored ∈ (work.runStatements program servers).1.stored := by
  induction program generalizing servers with
  | nil => exact member
  | cons next rest ih =>
    unfold runStatements
    cases runs : work.statement servers next with
    | none => exact member
    | some later => exact ih later (statement_keeps runs member other)

end DatabaseWork

theorem dropped_of_moved (moved : DatabaseMoved store before move after)
    {stored : StoredDatabase} (dropped : stored ∈ droppedDatabases before after) :
    ∃ job ∈ before.jobs, move.runs job = true ∧ job.work.isDatabase stored = true := by
  obtain ⟨member, gone⟩ := List.mem_filter.mp dropped
  rw [Bool.not_eq_true', List.any_eq_false] at gone
  have kept (member' : stored ∈ after.servers.stored) : False :=
    gone stored member' (DatabaseWork.sameName_refl stored)
  cases moved with
  | @executed databaseId statements job found unfinished =>
    obtain ⟨jobMem, same⟩ := HostedDatabases.job?_spec found
    refine ⟨job, jobMem, by simpa [DatabaseMove.runs] using same, ?_⟩
    by_contra other
    apply kept
    rw [HostedDatabases.execute_eq found unfinished]
    exact DatabaseWork.runStatements_keeps _ _ member (by simpa using other)
  | _ => exact (kept member).elim

theorem Separated.added {row : ManagedDatabase} (separated : Separated rows)
    (apart : ∀ other ∈ rows, row.Reaches other ∨ other.Reaches row →
      other.tenantId = row.tenantId) : Separated (rows ++ [row]) := by
  intro first firstMem second secondMem reaches
  rcases List.mem_append.mp firstMem with oldFirst | newFirst
  · rcases List.mem_append.mp secondMem with oldSecond | newSecond
    · exact separated first oldFirst second oldSecond reaches
    · rw [List.mem_singleton.mp newSecond] at reaches ⊢
      exact apart first oldFirst (.inr reaches)
  · rw [List.mem_singleton.mp newFirst] at reaches ⊢
    rcases List.mem_append.mp secondMem with oldSecond | newSecond
    · exact (apart second oldSecond (.inl reaches)).symm
    · rw [List.mem_singleton.mp newSecond]

theorem Separated.rewritten {later : List ManagedDatabase} (separated : Separated rows)
    (rewrites : Rewrites SameDatabase rows later) : Separated later := by
  intro first firstMem second secondMem reaches
  obtain ⟨first', firstMem', sameFirst⟩ := rewrites.earlier firstMem
  obtain ⟨second', secondMem', sameSecond⟩ := rewrites.earlier secondMem
  rw [sameFirst.tenantId, sameSecond.tenantId]
  apply separated first' firstMem' second' secondMem'
  unfold ManagedDatabase.Reaches at reaches ⊢
  rw [sameFirst.nodeId, sameSecond.nodeId, sameFirst.engine,
    sameSecond.engine, sameFirst.databaseName, sameSecond.databaseName] at reaches
  exact reaches

theorem DatabasePlacement.Makes.apart {placement : DatabasePlacement}
    {tables : DatabaseTables} {row : ManagedDatabase} (makes : placement.Makes store tables row)
    (separates : ∀ other ∈ tables.databases,
      other.tenantId ≠ placement.tenantId → ¬ placement.Meets other) :
    ∀ other ∈ tables.databases, row.Reaches other ∨ other.Reaches row →
      other.tenantId = row.tenantId := by
  intro other member reaches
  by_contra apart
  rw [makes.tenantId] at apart
  apply separates other member apart
  unfold Meets
  rw [makes.node, makes.name, ← makes.engine]
  rcases reaches with ⟨nodeId, engine, covers⟩ | ⟨nodeId, engine, covers⟩
  · exact ⟨congrArg Except.ok nodeId, engine, .inl (engine ▸ covers)⟩
  · exact ⟨congrArg Except.ok nodeId.symm, engine.symm, .inr covers⟩

theorem separated_of_moved (consistent : before.Consistent)
    (separated : Separated before.tables.databases) (moved : DatabaseMoved store before move after)
    (separates : SeparatesTenants before move after) : Separated after.tables.databases := by
  have written {row saved : ManagedDatabase} (member : row ∈ before.tables.databases)
      (same : SameDatabase row saved) : Separated (before.tables.save saved).databases :=
    separated.rewritten (consistent.tables.save_rewrites member same)
  cases moved with
  | idle | configured | dismissed => exact separated
  | executed found unfinished =>
    rw [HostedDatabases.execute_eq found unfinished]
    exact separated
  | created makes inserted =>
    rw [(DatabaseTables.insert_ok inserted).1]
    exact separated.added (makes.apart (separates _ rfl))
  | provisioned _ asked makes inserted =>
    rw [(DatabaseTables.insert_ok inserted).1]
    refine separated.added (makes.apart (separates _ ?_))
    simp [DatabaseMove.placement, asked]
  | queued member asks => exact written member asks.same
  | unclaimed member _ _ _ fails => exact written member fails.same
  | claimed member => exact written member ⟨rfl, rfl, rfl, rfl, rfl, rfl, rfl⟩
  | failed reported _ fails => exact written reported.member fails.same
  | completed reported _ _ _ completes => exact written reported.member completes.same
  | deleted =>
    intro first firstMem second secondMem
    exact separated first (List.mem_filter.mp firstMem).1 second (List.mem_filter.mp secondMem).1

/-- Servers hold what rows record, and no names of two tenants meet. -/
structure HostedDatabases.Apart (state : HostedDatabases) : Prop where
  consistent : state.Consistent
  separated : Separated state.tables.databases

/-- In every run in which no tenant is given a name that meets another
tenant's on a node, logins reach and deletions drop only what belongs to
their tenant. -/
theorem isolates_of_separates (store : SecretStore)
    (environment : List EnvironmentVariable) (moves : List DatabaseMove)
    (separates : EveryStep (HostedDatabases.Performs store) SeparatesTenants
      (HostedDatabases.fresh environment) moves) :
    EveryStep (HostedDatabases.Performs store) IsolatesTenants
      (HostedDatabases.fresh environment) moves := by
  have initial : (HostedDatabases.fresh environment).Apart :=
    ⟨HostedDatabases.fresh_consistent environment,
      fun first member => absurd member List.not_mem_nil⟩
  refine EveryStep.of_invariant initial ?_ ?_ separates
  · rintro before move after ⟨consistent, separated⟩ performs separatesHere
    rw [performs] at separatesHere ⊢
    exact ⟨consistent.perform store move, separated_of_moved consistent
      separated (perform_moved before move) separatesHere⟩
  · rintro before move after ⟨consistent, separated⟩ performs separatesHere
    have moved : DatabaseMoved store before move after := by
      rw [performs]
      exact perform_moved before move
    refine ⟨isolated_of_separated (consistent.moved moved).recorded
      (separated_of_moved consistent separated moved separatesHere), ?_⟩
    intro stored dropped
    obtain ⟨job, jobMem, runs, isDatabase⟩ := dropped_of_moved moved dropped
    refine ⟨job, jobMem, runs, ?_⟩
    intro row member isOf
    obtain ⟨own, ownMem, -, jobOf, -⟩ := consistent.working job jobMem
    have isOwn : stored.IsOf own := by
      simp only [DatabaseWork.isDatabase, Bool.and_eq_true, decide_eq_true_eq] at isDatabase
      obtain ⟨⟨nodeId, engine⟩, name⟩ := isDatabase
      exact ⟨nodeId.trans jobOf.nodeId, engine.trans jobOf.engine, name.trans jobOf.databaseName⟩
    rw [jobOf.tenantId]
    exact separated row member own ownMem (isOf.reaches isOwn)

instance (state : HostedDatabases) : Decidable state.Isolated :=
  inferInstanceAs (Decidable (∀ login ∈ state.servers.logins,
    ∀ stored ∈ state.servers.stored, login.grantedOn stored →
      ∀ holder ∈ stored.holders, holder.tenantId = login.tenantId))

instance (placement : DatabasePlacement) (row : ManagedDatabase) :
    Decidable (placement.Meets row) :=
  match named : placement.name with
  | .error _ => .isFalse (by simp [DatabasePlacement.Meets, named])
  | .ok name =>
    decidable_of_iff (placement.node = .ok row.nodeId ∧ placement.engine = row.engine ∧
        (row.engine.covers name row.databaseName = true ∨
          row.engine.covers row.databaseName name = true))
      (by simp [DatabasePlacement.Meets, named])

instance (before : HostedDatabases) (move : DatabaseMove) (after : HostedDatabases) :
    Decidable (SeparatesTenants before move after) :=
  inferInstanceAs (Decidable (∀ placement ∈ move.placement,
    ∀ row ∈ before.tables.databases, row.tenantId ≠ placement.tenantId → ¬ placement.Meets row))

def markedSecrets : SecretStore where
  encryptSecret := fun secret => String.ofList ('#' :: secret.toList)
  decryptSecret := fun stored =>
    match stored.toList with
    | '#' :: secret => some (String.ofList secret)
    | _ => none
  decrypt_encrypt := by simp
  encrypt_ne_empty := by simp

def requestOf (tenantId : ℕ) (name suffix : String)
    (nameLength : 2 ≤ name.length ∧ name.length ≤ 48) : HostingDatabaseCreate where
  tenantId := tenantId
  project := none
  engine := .postgresql
  name := name
  selectNode := fun _ => .ok 1
  suffix := suffix
  password := "a-password-of-some-length"
  now := tenantId
  nameLength := nameLength

theorem shopName_bounds : 2 ≤ "shop".length ∧ "shop".length ≤ 48 := by decide

def createsOldest (databaseId : ℕ) : List DatabaseMove :=
  [.claim 1 [], .execute databaseId 4,
    .report databaseId { success := true, host := some "10.0.0.1" }]

def sharedName : List DatabaseMove :=
  [.create (requestOf 1 "shop" "0a1b2c3d" shopName_bounds),
    .create (requestOf 2 "shop" "4e5f6a7b" shopName_bounds)] ++ createsOldest 0 ++ [.claim 1 []]

/-- The login of the second tenant is granted the database of the first. -/
theorem sharedName_reaches : ¬ EveryStep (HostedDatabases.Performs markedSecrets) IsolatesTenants
      (HostedDatabases.fresh []) (sharedName ++ [.execute 1 4]) := by
  intro everyStep
  have run := Run.of_foldl (fun state move => HostedDatabases.perform state markedSecrets move)
    sharedName (HostedDatabases.fresh [])
  have isolates := everyStep sharedName (.execute 1 4) [] _ _ rfl run rfl
  exact absurd isolates.1 (by decide)

def ownNames : List DatabaseMove :=
  [.create (requestOf 1 "shop" "0a1b2c3d" shopName_bounds),
    .create (requestOf 2 "store" "4e5f6a7b" (by decide))] ++ createsOldest 0 ++ createsOldest 1 ++
        [.delete 1 0, .claim 1 [], .execute 0 2, .report 0 { success := true }]

theorem ownNames_isolates : EveryStep (HostedDatabases.Performs markedSecrets) IsolatesTenants
      (HostedDatabases.fresh []) ownNames :=
  isolates_of_separates markedSecrets [] ownNames (EveryStep.of_stepByStep (by decide))

end Ithute
