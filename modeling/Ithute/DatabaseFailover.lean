import Ithute.DatabaseIsolation
import Ithute.HostingFailoverSafety

/-!
# What failover sees of databases

Failover counts the databases of a project by the status of their rows.  A
row whose operation has failed or whose deletion has been asked for is not
counted, whether or not the database still exists on its node.
-/

namespace Ithute

open UniqueRows RewrittenRows TransitionRuns HostingWorld

structure ManagedDatabase.Usable (store : SecretStore) (row : ManagedDatabase) : Prop where
  password : store.decryptSecret row.encryptedPassword ≠ none
  pending : ∀ encrypted ∈ row.pendingEncryptedPassword,
    encrypted ≠ "" ∧ store.decryptSecret encrypted ≠ none
  rotation : row.operation = .rotate → row.pendingEncryptedPassword ≠ none

section Credentials

variable {store : SecretStore} {before after : HostedDatabases}
variable {move : DatabaseMove} {row saved : ManagedDatabase}

theorem ManagedDatabase.Usable.not_unusable (usable : row.Usable store) : ¬ row.Unusable store := by
  unfold ManagedDatabase.Unusable
  split_ifs with rotate
  · intro unusable
    cases pending : row.pendingEncryptedPassword with
    | none => exact usable.rotation rotate pending
    | some encrypted =>
      obtain ⟨present, decrypts⟩ := usable.pending encrypted pending
      apply decrypts
      apply unusable
      simp [pending, presentText, present]
  · exact usable.password

theorem FailedRow.usable (fails : FailedRow row saved)
    (usable : row.Usable store) : saved.Usable store := by
  refine ⟨?_, ?_, ?_⟩
  · rw [fails.encryptedPassword]
    exact usable.password
  · intro encrypted member
    exact usable.pending encrypted (fails.pending encrypted member)
  · intro rotate
    rw [fails.operation] at rotate
    cases rotate

theorem Asks.usable (asks : Asks store move row saved)
    (usable : row.Usable store) : saved.Usable store := by
  cases asks with
  | rotate =>
    refine ⟨usable.password, ?_, by simp [ManagedDatabase.queue]⟩
    rintro encrypted (_ | _)
    exact ⟨store.encrypt_ne_empty _, by simp [store.decrypt_encrypt]⟩
  | suspend | resume | delete =>
    exact ⟨usable.password, usable.pending, fun rotate => by cases rotate⟩

theorem Completes.usable {payload : DatabaseAgentStatus}
    (completes : Completes row payload saved) (usable : row.Usable store) : saved.Usable store := by
  cases completes with
  | rotated rotate prepared =>
    refine ⟨(usable.pending _ prepared).2, ?_, fun rotate => by cases rotate⟩
    rintro encrypted (_ | _)
  | other => exact ⟨usable.password, usable.pending, fun rotate => by cases rotate⟩

theorem usable_insert {placement : DatabasePlacement} {tables : DatabaseTables}
    (makes : placement.Makes store tables row)
    (usable : ∀ row ∈ tables.databases, row.Usable store) :
    ∀ other ∈ tables.databases ++ [row], other.Usable store := by
  intro other member
  rcases List.mem_append.mp member with old | new
  · exact usable other old
  · rw [List.mem_singleton.mp new]
    refine ⟨?_, by simp [makes.pending], ?_⟩
    · rw [makes.encryptedPassword, store.decrypt_encrypt]
      simp
    · intro rotate
      rw [makes.operation] at rotate
      cases rotate

theorem usable_of_moved (moved : DatabaseMoved store before move after)
    (usable : ∀ row ∈ before.tables.databases, row.Usable store) :
    ∀ row ∈ after.tables.databases, row.Usable store := by
  have written {saved : ManagedDatabase} (savedUsable : saved.Usable store) :
      ∀ row ∈ (before.tables.save saved).databases, row.Usable store :=
    forall_replace (fun other member _ => usable other member) savedUsable
  cases moved with
  | idle | configured | dismissed => exact usable
  | executed found unfinished =>
    rw [HostedDatabases.execute_eq found unfinished]
    exact usable
  | created makes inserted | provisioned _ _ makes inserted =>
    rw [(DatabaseTables.insert_ok inserted).1]
    exact usable_insert makes usable
  | queued member asks => exact written (asks.usable (usable _ member))
  | unclaimed member _ _ _ fails => exact written (fails.usable (usable _ member))
  | claimed member =>
    obtain ⟨password, pending, rotation⟩ := usable _ member
    exact written ⟨password, pending, rotation⟩
  | failed reported _ fails => exact written (fails.usable (usable _ reported.member))
  | completed reported _ _ _ completes =>
    exact written (completes.usable (usable _ reported.member))
  | deleted =>
    intro row member
    exact usable row (List.mem_filter.mp member).1

structure HostedDatabases.Sound (store : SecretStore) (state : HostedDatabases) : Prop where
  consistent : state.Consistent
  usable : ∀ row ∈ state.tables.databases, row.Usable store

theorem HostedDatabases.Sound.fresh (store : SecretStore) (environment : List EnvironmentVariable) :
    (HostedDatabases.fresh environment).Sound store :=
  ⟨fresh_consistent environment, fun _ member => absurd member List.not_mem_nil⟩

theorem HostedDatabases.Sound.moved (sound : before.Sound store)
    (moved : DatabaseMoved store before move after) : after.Sound store :=
  ⟨sound.consistent.moved moved, usable_of_moved moved sound.usable⟩

end Credentials

def HostedDatabases.Holds (state : HostedDatabases) (row : ManagedDatabase) : Prop :=
  ∃ stored ∈ state.servers.stored, ∃ holder ∈ stored.holders, holder.databaseId = row.id

instance (state : HostedDatabases) (row : ManagedDatabase) : Decidable (state.Holds row) :=
  inferInstanceAs (Decidable (∃ stored ∈ state.servers.stored,
    ∃ holder ∈ stored.holders, holder.databaseId = row.id))

/-- Every database that exists on its node has a status that counts. -/
def HostedDatabases.CountsLive (state : HostedDatabases) : Prop :=
  ∀ row ∈ state.tables.databases, state.Holds row → row.status.live = true

/-- No deletion is asked for and no failure is reported of a database that
exists on its node. -/
def SparesLive (before : HostedDatabases) : DatabaseMove → Prop
  | .delete tenantId databaseId =>
    ∀ row ∈ before.tables.databases, row.id = databaseId →
      row.tenantId = tenantId → row.status ≠ .queued →
        row.status ≠ .working → row.status ≠ .deleting → ¬ before.Holds row
  | .report databaseId payload =>
    ∀ job ∈ before.jobs, job.databaseId = databaseId →
      ¬ (payload.success = true ∧ job.outcome = some true) →
        ∀ row ∈ before.tables.databases, row.id = databaseId → ¬ before.Holds row
  | _ => True

section Live

variable {store : SecretStore} {before after : HostedDatabases}
variable {move : DatabaseMove} {row saved : ManagedDatabase}

theorem countsLive_save (counts : before.CountsLive) (same : SameDatabase row saved)
    (live : before.Holds row → saved.status.live = true) :
    ∀ other ∈ (before.tables.save saved).databases,
      before.Holds other → other.status.live = true := by
  refine forall_replace (fun other member _ => counts other member) ?_
  unfold HostedDatabases.Holds at live ⊢
  rw [same.id]
  exact live

theorem countsLive_of_moved (consistent : before.Consistent)
    (usable : ∀ row ∈ before.tables.databases, row.Usable store)
    (counts : before.CountsLive) (moved : DatabaseMoved store before move after)
    (spares : SparesLive before move) : after.CountsLive := by
  have made {placement : DatabasePlacement} {row : ManagedDatabase}
      (makes : placement.Makes store before.tables row) :
      ∀ other ∈ before.tables.databases ++ [row], before.Holds other →
        other.status.live = true := by
    intro other member holds
    rcases List.mem_append.mp member with old | new
    · exact counts other old holds
    · rw [List.mem_singleton.mp new, makes.status]
      rfl
  cases moved with
  | idle | configured | dismissed => exact counts
  | created makes inserted | provisioned _ _ makes inserted =>
    rw [(DatabaseTables.insert_ok inserted).1]
    exact made makes
  | queued member asks =>
    refine countsLive_save counts asks.same ?_
    cases asks with
    | rotate | suspend | resume => exact fun _ => rfl
    | delete idle found tenant =>
      intro holds
      exact absurd holds (spares _ member found tenant idle.1 idle.2.1 idle.2.2)
  | unclaimed member _ _ unusable => exact absurd unusable (usable _ member).not_unusable
  | claimed member =>
    refine countsLive_save counts ⟨rfl, rfl, rfl, rfl, rfl, rfl, rfl⟩ ?_
    exact fun _ => rfl
  | @executed databaseId statements job found unfinished =>
    intro row member holds
    rw [HostedDatabases.execute_eq found unfinished] at member holds
    obtain ⟨jobMem, -⟩ := HostedDatabases.job?_spec found
    obtain ⟨own, ownMem, working, isOf, -⟩ := consistent.working job jobMem
    obtain ⟨stored, storedMem, holder, holderMem, same⟩ := holds
    rcases (job.run_touches statements before.servers).holders stored
        storedMem holder holderMem with
      ⟨-, rfl⟩ | ⟨earlier, earlierMem, -, -, -, held⟩
    · have equal : own = row :=
        consistent.tables.eq_of_id ownMem member (isOf.databaseId.symm.trans same)
      rw [← equal, working]
      rfl
    · exact counts row member ⟨earlier, earlierMem, holder, held, same⟩
  | failed reported unsuccessful fails =>
    refine countsLive_save counts fails.same ?_
    intro holds
    rcases unsuccessful with unsuccessful | ⟨rotate, missing⟩
    · obtain ⟨jobMem, same⟩ := HostedDatabases.job?_spec reported.job
      exact absurd holds (spares _ jobMem same unsuccessful _ reported.member reported.id)
    · exact absurd missing ((usable _ reported.member).rotation rotate)
  | completed reported _ _ _ completes =>
    refine countsLive_save counts completes.same ?_
    intro _
    cases completes <;>
      · dsimp only [ManagedDatabase.complete]
        split <;> rfl
  | deleted =>
    intro row member holds
    exact counts row (List.mem_filter.mp member).1 holds

end Live

section Visits

variable (services : HostingServices)

/-- The visit is dangerous, and the project has a database that counts. -/
def VisitMoment.LosesDatabase (moment : VisitMoment) : Prop :=
  moment.Dangerous services ∧ ∃ database ∈ moment.world.databases,
    database.projectId = some moment.project.id ∧ database.status.live = true

def WithoutDatabase (databases : List HostingDatabase) (projectId : ℕ) : Prop :=
  ∀ database ∈ databases, database.projectId = some projectId → database.status.live = false

/-- Every added deployment that resets data is for a project without a
database that counts. -/
def ResetsWithoutDatabase (before after : HostingWorld) : Prop :=
  ∀ deployment ∈ newDeployments before after, deployment.resetDataVolume = true →
      WithoutDatabase before.databases deployment.projectId

theorem withoutDatabase_of_safe {before after : HostingWorld} (safe : ResetsOnlySafe before after) :
    ResetsWithoutDatabase before after :=
  fun deployment member resets => (safe deployment member resets).2

theorem resetsWithoutDatabase_trans {first second third : HostingWorld}
    (one : Extends first second) (two : Extends second third)
    (resetsFirst : ResetsWithoutDatabase first second)
    (resetsSecond : ResetsWithoutDatabase second third) : ResetsWithoutDatabase first third := by
  intro deployment member
  rw [one.newDeployments_trans two] at member
  rcases List.mem_append.mp member with early | late
  · exact resetsFirst deployment early
  · rw [← one.databases]
    exact resetsSecond deployment late

variable {world : HostingWorld}

theorem visitProject_adds {project : HostingProject}
    (current : world.policyOf project.id = some project.failoverPolicy)
    (sourceNodeId : ℕ) (now : ℤ) : ∀ deployment ∈ newDeployments world
        (visitProject services now sourceNodeId world project).1,
      deployment.projectId = project.id := by
  obtain ⟨prepares, queues, settles⟩ := visitProject_phases services current sourceNodeId now
  have unchanged {first second : HostingWorld} (keeps : Keeps first second) :
      newDeployments first second = [] := by
    simp [newDeployments, keeps.2]
  intro deployment member
  rw [(prepares.1.trans queues).newDeployments_trans settles.1,
    prepares.1.newDeployments_trans queues, unchanged prepares,
    unchanged settles, List.nil_append, List.append_nil] at member
  unfold visitQueued at member
  dsimp only at member
  split_ifs at member
  · rcases queueReplacement_cases services (visitStart world project sourceNodeId now) now none with
      ⟨-, previous, target, queued⟩ | ⟨-, attempt, waiting, -⟩
    · rw [queued, Relocation.deployments_deploy, List.mem_singleton] at member
      rw [member]
      rfl
    · rw [waiting, unchanged (keeps_settle _ attempt)] at member
      cases member
  · rw [unchanged ⟨Extends.refl _, rfl⟩] at member
    cases member

theorem visitProject_withoutDatabase {project : HostingProject}
    (current : world.policyOf project.id = some project.failoverPolicy) (sourceNodeId : ℕ) (now : ℤ)
    (calm : ¬ VisitMoment.LosesDatabase services ⟨world, sourceNodeId, project⟩) :
    ResetsWithoutDatabase world (visitProject services now sourceNodeId world project).1 := by
  by_cases dangerous : Dangerous services world sourceNodeId project
  · intro deployment member _ database databaseMem attached
    rw [visitProject_adds services current sourceNodeId now deployment member] at attached
    by_contra live
    exact calm ⟨dangerous, database, databaseMem, attached, by simpa using live⟩
  · exact withoutDatabase_of_safe
      ((visitProject_spec services current sourceNodeId now).2.mpr dangerous)

theorem visitProjects_withoutDatabase (now : ℤ) (sourceNodeId : ℕ)
    (projects : List HostingProject) (current : ∀ project ∈ projects,
      world.policyOf project.id = some project.failoverPolicy)
    (calm : ∀ moment ∈ projectMoments services now sourceNodeId world projects,
      ¬ moment.LosesDatabase services) :
    ResetsWithoutDatabase world (visitProjects services now sourceNodeId world projects) := by
  induction projects generalizing world with
  | nil => exact withoutDatabase_of_safe (Extends.resetsOnlySafe_of_eq rfl)
  | cons project projects ih =>
    have here := current project List.mem_cons_self
    have first := (visitProject_spec services here sourceNodeId now).1
    have later : ∀ other ∈ projects,
        ((visitProject services now sourceNodeId world project).1).policyOf
          other.id = some other.failoverPolicy := by
      intro other member
      rw [first.policies]
      exact current other (List.mem_cons_of_mem project member)
    have rest := (visitProjects_spec services now sourceNodeId projects later).1
    refine resetsWithoutDatabase_trans first rest ?_ (ih later ?_)
    · exact visitProject_withoutDatabase services here sourceNodeId now (calm _ List.mem_cons_self)
    · exact fun moment member => calm moment (List.mem_cons_of_mem _ member)

theorem visitSources_withoutDatabase (now : ℤ) (states : List HostingNodeRow) (pass : FailoverPass)
    (calm : ∀ moment ∈ sourceMoments services now pass.world states,
      ¬ moment.LosesDatabase services) :
    ResetsWithoutDatabase pass.world (states.foldl (visitSource services now) pass).world := by
  induction states generalizing pass with
  | nil => exact withoutDatabase_of_safe (Extends.resetsOnlySafe_of_eq rfl)
  | cons state states ih =>
    have current : ∀ project ∈ sourceProjects pass.world state,
        pass.world.policyOf project.id = some project.failoverPolicy :=
      fun project => current_of_sourceProjects
    have first := (visitProjects_spec services now state.id
      (sourceProjects pass.world state) current).1
    have rest := (visitSources_spec services now states (visitSource services now pass state)).1
    have later := ih (visitSource services now pass state)
    rw [visitSource_world] at rest later
    refine resetsWithoutDatabase_trans first rest ?_ (later ?_)
    · refine visitProjects_withoutDatabase services now state.id _ current ?_
      exact fun moment member => calm moment (List.mem_append.mpr (.inl member))
    · exact fun moment member => calm moment (List.mem_append.mpr (.inr member))

def SparesCounted (failoverAfterSeconds : ℤ) (before : HostingWorld) : HostingAction → Prop
  | .reconcile now limit =>
    ∀ moment ∈ reconcileMoments services failoverAfterSeconds now limit
      before, ¬ moment.LosesDatabase services
  | _ => True

theorem perform_withoutDatabase (failoverAfterSeconds : ℤ)
    (before : HostingWorld) (action : HostingAction)
    (spares : SparesCounted services failoverAfterSeconds before action) :
    ResetsWithoutDatabase before (before.perform services failoverAfterSeconds action) := by
  have safe := (perform_resetsOnlySafe_iff services failoverAfterSeconds before action _ rfl).mpr
  cases action with
  | reconcile now limit =>
    have first := (visitSources_spec services now
      (before.unhealthyNodes (now - max failoverAfterSeconds 60 * 10 ^ 6)
        limit) { world := before }).1
    have rest := reconcile_keeps services failoverAfterSeconds now limit before
    refine resetsWithoutDatabase_trans first rest.1 ?_ ?_
    · exact visitSources_withoutDatabase services now
        (before.unhealthyNodes (now - max failoverAfterSeconds 60 * 10 ^ 6)
          limit) { world := before } spares
    · exact withoutDatabase_of_safe (Extends.resetsOnlySafe_of_eq rest.2)
  | _ => exact withoutDatabase_of_safe (safe trivial)

end Visits

def ManagedDatabase.hosting (row : ManagedDatabase) : HostingDatabase where
  id := row.id
  projectId := row.projectId
  engine := row.engine.name
  status := row.status
  createdAt := row.createdAt

structure DatabaseWorld where
  databases : HostedDatabases
  world : HostingWorld

inductive DatabaseAction where
  | database (move : DatabaseMove)
  | hosting (action : HostingAction)

namespace DatabaseWorld

def reading (databases : HostedDatabases) (world : HostingWorld) : DatabaseWorld where
  databases := databases
  world :=
    { world with
      databases := databases.tables.databases.map ManagedDatabase.hosting }

def perform (store : SecretStore) (services : HostingServices)
    (failoverAfterSeconds : ℤ) (state : DatabaseWorld) : DatabaseAction → DatabaseWorld
  | .database move => reading (state.databases.perform store move) state.world
  | .hosting action =>
    reading state.databases (state.world.perform services failoverAfterSeconds action)

def Performs (store : SecretStore) (services : HostingServices)
    (failoverAfterSeconds : ℤ) (before : DatabaseWorld)
    (action : DatabaseAction) (after : DatabaseWorld) : Prop :=
  after = before.perform store services failoverAfterSeconds action

/-- Every database of a project that exists on its node is counted, and a
new attempt leaves the project to its operators. -/
def SeesLive (state : DatabaseWorld) : Prop :=
  ∀ row ∈ state.databases.tables.databases, state.databases.Holds row →
    ∀ project : HostingProject, row.projectId = some project.id →
      (state.world.managedDatabaseDependency project).isSome = true ∧ ∀ sourceNodeId now,
          state.world.attempt project.id sourceNodeId = none →
            (prepareAttempt state.world project sourceNodeId now).2.status = .recoveryRequired

/-- No deployment resets a project that has a database on a node. -/
def ResetsNoLive (before after : DatabaseWorld) : Prop :=
  ∀ deployment ∈ newDeployments before.world after.world, deployment.resetDataVolume = true →
      ∀ row ∈ before.databases.tables.databases, before.databases.Holds row →
        row.projectId ≠ some deployment.projectId

/-- Failover sees every database, and resets no project that has one. -/
def GuardsDatabases (before : DatabaseWorld) (_ : DatabaseAction) (after : DatabaseWorld) : Prop :=
  after.SeesLive ∧ ResetsNoLive before after

def SparesDatabases (services : HostingServices) (failoverAfterSeconds : ℤ)
    (before : DatabaseWorld) (action : DatabaseAction) (_ : DatabaseWorld) : Prop :=
  match action with
  | .database move => SparesLive before.databases move
  | .hosting action => SparesCounted services failoverAfterSeconds before.world action

structure Counted (store : SecretStore) (state : DatabaseWorld) : Prop where
  sound : state.databases.Sound store
  counts : state.databases.CountsLive
  reads : state.world.databases = state.databases.tables.databases.map ManagedDatabase.hosting

variable {store : SecretStore} {services : HostingServices}
variable {failoverAfterSeconds : ℤ} {state before after : DatabaseWorld}

theorem prepareAttempt_recovery {world : HostingWorld} {project : HostingProject} {sourceNodeId : ℕ}
    (managed : (world.managedDatabaseDependency project).isSome = true)
    (first : world.attempt project.id sourceNodeId = none) (now : ℤ) :
    (prepareAttempt world project sourceNodeId now).2.status = .recoveryRequired := by
  unfold prepareAttempt
  rw [first]
  dsimp only
  split_ifs
  · rfl
  · obtain ⟨database, found⟩ := Option.isSome_iff_exists.mp managed
    rw [found]
    rfl

theorem Counted.seesLive (counted : state.Counted store) : state.SeesLive := by
  intro row member holds project attached
  have managed : (state.world.managedDatabaseDependency project).isSome = true := by
    rw [Option.isSome_iff_ne_none, Ne, managedDatabaseDependency_eq_none, counted.reads]
    intro unseen
    have idle := unseen row.hosting (List.mem_map.mpr ⟨row, member, rfl⟩) attached
    have live := counted.counts row member holds
    rw [ManagedDatabase.hosting, live] at idle
    cases idle
  exact ⟨managed, fun sourceNodeId now first => prepareAttempt_recovery managed first now⟩

theorem Counted.performed (counted : before.Counted store) {action : DatabaseAction}
    (performs : Performs store services failoverAfterSeconds before action after)
    (spares : SparesDatabases services failoverAfterSeconds before action
      after) : after.Counted store := by
  rw [performs]
  cases action with
  | database move =>
    have moved : DatabaseMoved store before.databases move (before.databases.perform store move) :=
      perform_moved before.databases move
    exact ⟨counted.sound.moved moved,
      countsLive_of_moved counted.sound.consistent counted.sound.usable
        counted.counts moved spares, rfl⟩
  | hosting action => exact ⟨counted.sound, counted.counts, rfl⟩

theorem Counted.resetsNoLive (counted : before.Counted store) {action : DatabaseAction}
    (performs : Performs store services failoverAfterSeconds before action after)
    (spares : SparesDatabases services failoverAfterSeconds before action
      after) : ResetsNoLive before after := by
  rw [performs]
  cases action with
  | database move =>
    intro deployment member
    simp [perform, reading, newDeployments] at member
  | hosting action =>
    intro deployment member resets row rowMem holds attached
    have without := perform_withoutDatabase services failoverAfterSeconds
      before.world action spares deployment member resets
    rw [counted.reads] at without
    have idle := without row.hosting (List.mem_map.mpr ⟨row, rowMem, rfl⟩) attached
    have live := counted.counts row rowMem holds
    rw [ManagedDatabase.hosting, live] at idle
    cases idle

/-- In every run in which databases on nodes are neither asked to be deleted
nor reported as failed, and no pass goes on with an attempt that is older
than a database, failover sees every database. -/
theorem guards_of_spares (store : SecretStore) (services : HostingServices)
    (failoverAfterSeconds : ℤ) (environment : List EnvironmentVariable)
    (world : HostingWorld) (actions : List DatabaseAction)
    (spares : EveryStep (Performs store services failoverAfterSeconds)
      (SparesDatabases services failoverAfterSeconds)
      (reading (.fresh environment) world) actions) :
    EveryStep (Performs store services failoverAfterSeconds) GuardsDatabases
      (reading (.fresh environment) world) actions := by
  have initial : (reading (.fresh environment) world).Counted store :=
    ⟨.fresh store environment, fun row member => absurd member List.not_mem_nil, rfl⟩
  refine EveryStep.of_invariant initial ?_ ?_ spares
  · intro before action after counted performs sparesHere
    exact counted.performed performs sparesHere
  · intro before action after counted performs sparesHere
    exact ⟨(counted.performed performs sparesHere).seesLive,
      counted.resetsNoLive performs sparesHere⟩

instance (before after : DatabaseWorld) : Decidable (ResetsNoLive before after) :=
  inferInstanceAs (Decidable (∀ deployment ∈ newDeployments _ _, deployment.resetDataVolume = true →
      ∀ row ∈ before.databases.tables.databases, before.databases.Holds row →
        row.projectId ≠ some deployment.projectId))

def sparedWorld : HostingWorld :=
  { strandedWorld with
    nodes := [{ spareRow true with id := 1 }, spareRow true] }

def strandedHome : ProjectHome where
  id := 3
  tenantId := 1
  nodeId := some 1
  slug := "shop"
  suspended := false

def attached : List DatabaseAction :=
  (.create { requestOf 1 "shop" "0a1b2c3d" shopName_bounds with
      project := some strandedHome } :: createsOldest 0).map .database

def suspensionFails : List DatabaseAction :=
  attached ++ [.database (.suspend 1 0), .database (.claim 1 []),
      .database (.execute 0 0), .database (.report 0 { success := false }),
      .hosting (.setNode drainedRow)]

/-- The next pass resets the data of the project. -/
theorem suspensionFails_resets :
    ¬ EveryStep (Performs markedSecrets openPlacement 300) GuardsDatabases
      (reading (.fresh []) sparedWorld)
      (suspensionFails ++ [.hosting (.reconcile 600000000 200)]) := by
  intro everyStep
  have run := Run.of_foldl
    (fun state action => perform markedSecrets openPlacement 300 state action)
    suspensionFails (reading (.fresh []) sparedWorld)
  have guards := everyStep suspensionFails (.hosting (.reconcile 600000000 200)) [] _ _ rfl run rfl
  exact absurd guards.2 (by decide)

instance (world : HostingWorld) (project : HostingProject)
    (sourceNodeId : ℕ) (preferred : Option ℕ) :
    Decidable (ReadyToQueue services world project sourceNodeId preferred) :=
  match eligible : eligibleTarget services world project sourceNodeId preferred with
  | .error _ => .isFalse (by simp [ReadyToQueue, eligible])
  | .ok target =>
    decidable_of_iff (world.activeDeployment project.id = none ∧
        (world.lastHealthy project.id).isSome ∧
          (world.node? target).any HostingNodeRow.hasAgent = true)
      (by simp [ReadyToQueue, eligible])

instance (world : HostingWorld) (sourceNodeId : ℕ) (project : HostingProject) :
    Decidable (Dangerous services world sourceNodeId project) :=
  match existing : world.attempt project.id sourceNodeId with
  | none => .isFalse (by simp [Dangerous, existing])
  | some attempt =>
    decidable_of_iff (attempt.status = .pending ∧
        ReadyToQueue services world project attempt.sourceNodeId none ∧
          ¬ world.SafeToReset project.id)
      (by simp [Dangerous, existing])

instance (moment : VisitMoment) : Decidable (moment.LosesDatabase services) :=
  inferInstanceAs (Decidable (Dangerous services _ _ _ ∧ ∃ database ∈ moment.world.databases, _))

instance (before : HostedDatabases) (move : DatabaseMove) : Decidable (SparesLive before move) :=
  match move with
  | .delete .. => inferInstanceAs (Decidable (∀ _ ∈ _, _))
  | .report .. => inferInstanceAs (Decidable (∀ _ ∈ _, _))
  | .create .. | .provision .. | .rotate .. | .suspend .. | .resume ..
  | .claim .. | .execute .. | .lose .. => .isTrue trivial

instance (world : HostingWorld) (action : HostingAction) :
    Decidable (SparesCounted services failoverAfterSeconds world action) :=
  match action with
  | .reconcile .. => inferInstanceAs (Decidable (∀ _ ∈ _, _))
  | .relocate .. | .setPolicy .. | .attachDatabase .. | .setDatabaseStatus ..
  | .setProjectStatus .. | .setNode .. | .deploy .. | .reportDeployment .. => .isTrue trivial

instance (before : DatabaseWorld) (action : DatabaseAction) (after : DatabaseWorld) :
    Decidable (SparesDatabases services failoverAfterSeconds before action after) :=
  match action with
  | .database move => inferInstanceAs (Decidable (SparesLive before.databases move))
  | .hosting action =>
    inferInstanceAs (Decidable (SparesCounted services failoverAfterSeconds before.world action))

def suspensionSucceeds : List DatabaseAction :=
  attached ++ [.database (.suspend 1 0), .database (.claim 1 []),
      .database (.execute 0 1), .database (.report 0 { success := true }),
      .hosting (.setNode drainedRow), .hosting (.reconcile 600000000 200),
      .hosting (.reconcile 660000000 200)]

theorem suspensionSucceeds_guards :
    EveryStep (Performs markedSecrets openPlacement 300) GuardsDatabases
      (reading (.fresh []) sparedWorld) suspensionSucceeds :=
  guards_of_spares markedSecrets openPlacement 300 [] sparedWorld
    suspensionSucceeds (EveryStep.of_stepByStep (by decide))

end DatabaseWorld

end Ithute
