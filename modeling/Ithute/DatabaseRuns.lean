import Ithute.DatabaseRecords
import Ithute.Library.TransitionRuns

/-!
# Runs of the database system

Every move keeps what the servers hold recorded, keeps the jobs of agents on
rows that wait for them, and removes a row only when nothing of it is left
on its node.
-/

namespace Ithute

open UniqueRows RewrittenRows TransitionRuns

structure DatabaseJob.Gone (job : DatabaseJob) (servers : DatabaseServers) : Prop where
  holders : ∀ stored ∈ servers.stored, ∀ holder ∈ stored.holders, holder.databaseId ≠ job.databaseId
  logins : ∀ login ∈ servers.logins, login.username ≠ job.work.username

structure HostedDatabases.Consistent (state : HostedDatabases) : Prop where
  tables : state.tables.Consistent
  jobs : (state.jobs.map DatabaseJob.databaseId).Nodup
  working : ∀ job ∈ state.jobs, ∃ row ∈ state.tables.databases,
    row.status = .working ∧ job.work.IsOf row ∧ job.work.operation = row.operation
  recorded : state.servers.Recorded state.tables.databases
  dropped : ∀ job ∈ state.jobs, job.work.operation = .delete →
    job.outcome = some true → job.Gone state.servers

namespace HostedDatabases

variable {store : SecretStore} {before after : HostedDatabases}
variable {move : DatabaseMove} {row saved : ManagedDatabase} {databaseId : ℕ} {job : DatabaseJob}

theorem job?_spec (found : before.job? databaseId = some job) :
    job ∈ before.jobs ∧ job.databaseId = databaseId :=
  find?_decide found

theorem mem_withoutJob (member : job ∈ before.withoutJob databaseId) :
    job ∈ before.jobs ∧ job.databaseId ≠ databaseId := by
  simpa [withoutJob] using member

theorem withoutJob_sublist (databaseId : ℕ) : (before.withoutJob databaseId).Sublist before.jobs :=
  List.filter_sublist

theorem gone_of_deleted {tables : DatabaseTables} {servers : DatabaseServers}
    (isOf : job.work.IsOf row) (consistent : tables.Consistent) (member : row ∈ tables.databases)
    (recorded : servers.Recorded tables.databases) (deleted : (∀ stored ∈ servers.stored,
        job.work.isDatabase stored = false) ∧
      ∀ login ∈ servers.logins, job.work.isLogin login = false) : job.Gone servers := by
  constructor
  · intro stored storedMem holder holds same
    obtain ⟨found, foundMem, storedOf, holderOf⟩ := recorded.holders stored storedMem holder holds
    have equal : found = row :=
      consistent.eq_of_id foundMem member
        (holderOf.databaseId.symm.trans (same.trans isOf.databaseId))
    subst equal
    have missing := deleted.1 stored storedMem
    simp [DatabaseWork.isDatabase, storedOf.nodeId, storedOf.engine,
      storedOf.name, isOf.nodeId, isOf.engine, isOf.databaseName] at missing
  · intro login loginMem same
    obtain ⟨found, foundMem, loginOf⟩ := recorded.logins login loginMem
    have equal : found = row :=
      consistent.eq_of_username foundMem member
        (loginOf.username.symm.trans (same.trans isOf.username))
    subst equal
    have missing := deleted.2 login loginMem
    simp [DatabaseWork.isLogin, loginOf.nodeId, loginOf.engine,
      loginOf.username, isOf.nodeId, isOf.engine, isOf.username] at missing

def finished (state : HostedDatabases) (databaseId : ℕ) (outcome : Bool) : List DatabaseJob :=
  state.jobs.map fun other =>
    if other.databaseId = databaseId then
      { other with outcome := some outcome }
    else other

theorem execute_eq {statements : ℕ}
    (found : before.job? databaseId = some job) (unfinished : job.outcome = none) :
    before.execute databaseId statements = { before with
        servers := (job.run statements before.servers).1
        jobs := before.finished databaseId (job.run statements before.servers).2 } := by
  simp [execute, found, unfinished, finished]

theorem finished_ids (state : HostedDatabases) (databaseId : ℕ) (outcome : Bool) :
    (state.finished databaseId outcome).map DatabaseJob.databaseId =
      state.jobs.map DatabaseJob.databaseId := by
  unfold finished
  rw [List.map_map]
  apply List.map_congr_left
  intro other _
  dsimp only [Function.comp]
  split <;> rfl

theorem finished_mem {outcome : Bool} (member : job ∈ before.finished databaseId outcome) :
    ∃ earlier ∈ before.jobs, job.work = earlier.work ∧
      ((earlier.databaseId = databaseId ∧ job.outcome = some outcome) ∨
        (earlier.databaseId ≠ databaseId ∧ job.outcome = earlier.outcome)) := by
  obtain ⟨earlier, earlierMem, rfl⟩ := List.mem_map.mp member
  refine ⟨earlier, earlierMem, ?_⟩
  by_cases here : earlier.databaseId = databaseId
  · rw [if_pos here]
    exact ⟨rfl, .inl ⟨here, rfl⟩⟩
  · rw [if_neg here]
    exact ⟨rfl, .inr ⟨here, rfl⟩⟩

namespace Consistent

variable (consistent : before.Consistent)
include consistent

theorem not_working (member : row ∈ before.tables.databases) (idle : row.status ≠ .working) :
    ∀ job ∈ before.jobs, job.databaseId ≠ row.id := by
  intro job jobMem same
  obtain ⟨found, foundMem, working, isOf, -⟩ := consistent.working job jobMem
  apply idle
  rw [consistent.tables.eq_of_id member foundMem (same.symm.trans isOf.databaseId)]
  exact working

theorem reported {databaseId : ℕ} {job : DatabaseJob}
    (reported : Reported before databaseId job row) : job ∈ before.jobs ∧ job.work.IsOf row ∧
      job.work.operation = row.operation := by
  obtain ⟨jobMem, same⟩ := job?_spec reported.job
  obtain ⟨found, foundMem, -, isOf, operation⟩ := consistent.working job jobMem
  have equal : found = row :=
    consistent.tables.eq_of_id foundMem reported.member
      (isOf.databaseId.symm.trans (same.trans reported.id.symm))
  rw [equal] at isOf operation
  exact ⟨jobMem, isOf, operation⟩

theorem rewritten (member : row ∈ before.tables.databases) (same : SameDatabase row saved)
    (nextId : after.tables.nextId = before.tables.nextId)
    (databases : after.tables.databases = (before.tables.save saved).databases)
    (servers : after.servers = before.servers) (jobs : after.jobs.Sublist before.jobs)
    (others : ∀ job ∈ after.jobs, job.databaseId ≠ row.id) : after.Consistent := by
  have rewrites : Rewrites SameDatabase before.tables.databases
      after.tables.databases := by
    rw [databases]
    exact consistent.tables.save_rewrites member same
  refine ⟨consistent.tables.moved (.kept nextId rewrites),
    consistent.jobs.sublist (jobs.map _), ?_, ⟨?_, ?_⟩, ?_⟩
  · intro job jobMem
    obtain ⟨found, foundMem, working, isOf, operation⟩ :=
      consistent.working job (jobs.subset jobMem)
    refine ⟨found, ?_, working, isOf, operation⟩
    rw [databases]
    refine List.mem_map.mpr ⟨found, foundMem, if_neg ?_⟩
    rw [same.id, ← isOf.databaseId]
    exact others job jobMem
  · intro stored storedMem holder holds
    rw [servers] at storedMem
    obtain ⟨found, foundMem, isOf, holderOf⟩ :=
      consistent.recorded.holders stored storedMem holder holds
    obtain ⟨later, laterMem, version⟩ := rewrites.later foundMem
    exact ⟨later, laterMem, isOf.later version, holderOf.later version⟩
  · intro login loginMem
    rw [servers] at loginMem
    obtain ⟨found, foundMem, isOf⟩ := consistent.recorded.logins login loginMem
    obtain ⟨later, laterMem, version⟩ := rewrites.later foundMem
    exact ⟨later, laterMem, isOf.later version⟩
  · intro job jobMem delete done
    rw [servers]
    exact consistent.dropped job (jobs.subset jobMem) delete done

theorem added {tables : DatabaseTables} (id : row.id = before.tables.nextId)
    (inserted : before.tables.insert row = .ok tables) (environment : List EnvironmentVariable) :
    Consistent { before with tables := { tables with environment := environment } } := by
  obtain ⟨rfl, name, username⟩ := DatabaseTables.insert_ok inserted
  have old {other : ManagedDatabase} (member : other ∈ before.tables.databases) :
      other ∈ before.tables.databases ++ [row] :=
    List.mem_append.mpr (.inl member)
  refine ⟨consistent.tables.moved
    (.added row id rfl rfl name username), consistent.jobs, ?_, ⟨?_, ?_⟩, consistent.dropped⟩
  · intro job jobMem
    obtain ⟨found, foundMem, facts⟩ := consistent.working job jobMem
    exact ⟨found, old foundMem, facts⟩
  · intro stored storedMem holder holds
    obtain ⟨found, foundMem, facts⟩ := consistent.recorded.holders stored storedMem holder holds
    exact ⟨found, old foundMem, facts⟩
  · intro login loginMem
    obtain ⟨found, foundMem, isOf⟩ := consistent.recorded.logins login loginMem
    exact ⟨found, old foundMem, isOf⟩

theorem configured (environment : List EnvironmentVariable) : Consistent { before with
        tables := { before.tables with environment := environment } } :=
  ⟨⟨consistent.tables.issued, consistent.tables.names,
    consistent.tables.usernames⟩, consistent.jobs, consistent.working,
      consistent.recorded, consistent.dropped⟩

theorem dismissed (databaseId : ℕ) :
    Consistent { before with jobs := before.withoutJob databaseId } := by
  refine ⟨consistent.tables, consistent.jobs.sublist ((withoutJob_sublist databaseId).map _), ?_,
      consistent.recorded, ?_⟩
  · intro job jobMem
    exact consistent.working job (mem_withoutJob jobMem).1
  · intro job jobMem
    exact consistent.dropped job (mem_withoutJob jobMem).1

theorem claimed {password : String} (member : row ∈ before.tables.databases)
    (idle : row.status ≠ .working) : Consistent { before with
        tables := before.tables.save { row with status := .working }
        jobs := before.jobs ++ [{ work := row.work password }] } := by
  have others := consistent.not_working member idle
  have same : SameDatabase row { row with status := .working } :=
    ⟨rfl, rfl, rfl, rfl, rfl, rfl, rfl⟩
  have written : Consistent { before with
        tables := before.tables.save { row with status := .working } } :=
    consistent.rewritten member same rfl rfl rfl (List.Sublist.refl _) others
  refine ⟨written.tables, ?_, ?_, written.recorded, ?_⟩
  · rw [List.map_append, List.map_singleton]
    refine pairwise_insert consistent.jobs ?_
    intro databaseId taken
    obtain ⟨job, jobMem, rfl⟩ := List.mem_map.mp taken
    exact others job jobMem
  · intro job jobMem
    rcases List.mem_append.mp jobMem with old | new
    · exact written.working job old
    · rw [List.mem_singleton.mp new]
      refine ⟨{ row with status := .working }, ?_, rfl, ⟨rfl, rfl, rfl, rfl, rfl, rfl⟩, rfl⟩
      exact List.mem_map.mpr ⟨row, member, if_pos rfl⟩
  · intro job jobMem delete done
    rcases List.mem_append.mp jobMem with old | new
    · exact written.dropped job old delete done
    · rw [List.mem_singleton.mp new] at done
      cases done

theorem deleted {databaseId : ℕ} {job : DatabaseJob} (about : Reported before databaseId job row)
    (successful : job.outcome = some true) (delete : row.operation = .delete) : Consistent
      { before with
        tables := { before.tables with
          databases := before.tables.databases.filter fun stored => stored.id ≠ row.id }
        jobs := before.withoutJob databaseId } := by
  obtain ⟨jobMem, isOf, operation⟩ := consistent.reported about
  have gone := consistent.dropped job jobMem (operation.trans delete) successful
  have kept {other : ManagedDatabase}
      (member : other ∈ before.tables.databases) (apart : other.id ≠ row.id) :
      other ∈ before.tables.databases.filter fun stored =>
        stored.id ≠ row.id :=
    List.mem_filter.mpr ⟨member, by simpa using apart⟩
  refine ⟨consistent.tables.moved (.removed row.id rfl rfl),
    consistent.jobs.sublist ((withoutJob_sublist databaseId).map _), ?_, ⟨?_, ?_⟩, ?_⟩
  · intro other otherMem
    obtain ⟨old, apart⟩ := mem_withoutJob otherMem
    obtain ⟨found, foundMem, working, otherOf, facts⟩ := consistent.working other old
    refine ⟨found, kept foundMem ?_, working, otherOf, facts⟩
    rw [← otherOf.databaseId, about.id]
    exact apart
  · intro stored storedMem holder holds
    obtain ⟨found, foundMem, storedOf, holderOf⟩ :=
      consistent.recorded.holders stored storedMem holder holds
    refine ⟨found, kept foundMem ?_, storedOf, holderOf⟩
    have apart := gone.holders stored storedMem holder holds
    rw [holderOf.databaseId] at apart
    exact fun equal => apart (equal.trans isOf.databaseId.symm)
  · intro login loginMem
    obtain ⟨found, foundMem, loginOf⟩ := consistent.recorded.logins login loginMem
    refine ⟨found, kept foundMem ?_, loginOf⟩
    intro equal
    apply gone.logins login loginMem
    rw [loginOf.username, isOf.username, consistent.tables.eq_of_id foundMem about.member equal]
  · intro other otherMem
    exact consistent.dropped other (mem_withoutJob otherMem).1

theorem executed {databaseId statements : ℕ} {job : DatabaseJob}
    (found : before.job? databaseId = some job) (unfinished : job.outcome = none) :
    (before.execute databaseId statements).Consistent := by
  obtain ⟨jobMem, same⟩ := job?_spec found
  obtain ⟨row, member, working, isOf, operation⟩ := consistent.working job jobMem
  have touches := job.run_touches statements before.servers
  have deletes := job.run_deleted statements before.servers
  rw [execute_eq found unfinished]
  generalize job.run statements before.servers = result at touches deletes
  have recorded := consistent.recorded.touched consistent.tables.usernames member isOf touches
  refine ⟨consistent.tables, ?_, ?_, recorded, ?_⟩
  · exact (finished_ids before databaseId result.2).symm ▸ consistent.jobs
  · intro other otherMem
    obtain ⟨earlier, earlierMem, work, -⟩ := finished_mem otherMem
    rw [work]
    exact consistent.working earlier earlierMem
  · intro other otherMem delete done
    obtain ⟨earlier, earlierMem, work, outcome⟩ := finished_mem otherMem
    rw [work] at delete
    rcases outcome with ⟨here, outcome⟩ | ⟨apart, outcome⟩
    · have equal : earlier = job :=
        List.inj_on_of_nodup_map consistent.jobs earlierMem jobMem (here.trans same.symm)
      subst equal
      rw [done, Option.some.injEq] at outcome
      exact gone_of_deleted (work ▸ isOf) consistent.tables member recorded
        (work ▸ deletes delete outcome.symm)
    · rw [done] at outcome
      have gone := consistent.dropped earlier earlierMem delete outcome.symm
      obtain ⟨otherRow, otherRowMem, -, otherOf, -⟩ := consistent.working earlier earlierMem
      have id : other.databaseId = earlier.databaseId := congrArg DatabaseWork.databaseId work
      constructor
      · intro stored storedMem holder holds
        rw [id]
        rcases touches.holders stored storedMem holder holds with
          ⟨-, rfl⟩ | ⟨old, oldMem, -, -, -, held⟩
        · exact fun equal => apart (equal.symm.trans same)
        · exact gone.holders old oldMem holder held
      · intro login loginMem
        rw [work]
        rcases touches.logins login loginMem with
          ⟨isLogin, -⟩ | ⟨old, oldMem, version, -⟩
        · intro equal
          simp only [DatabaseWork.isLogin, Bool.and_eq_true, decide_eq_true_eq] at isLogin
          apply apart
          rw [← same, DatabaseJob.databaseId, DatabaseJob.databaseId,
            otherOf.databaseId, isOf.databaseId,
            consistent.tables.eq_of_username otherRowMem member]
          rw [← otherOf.username, ← isOf.username, ← equal]
          exact isLogin.2
        · rw [version.username]
          exact gone.logins old oldMem

theorem moved (moved : DatabaseMoved store before move after) : after.Consistent := by
  cases moved with
  | idle => exact consistent
  | created makes inserted => exact consistent.added makes.id inserted _
  | provisioned _ _ makes inserted => exact consistent.added makes.id inserted _
  | configured => exact consistent.configured _
  | queued member asks =>
    refine consistent.rewritten member asks.same rfl rfl rfl (List.Sublist.refl _) ?_
    exact consistent.not_working member asks.idle
  | unclaimed member _ waiting _ fails =>
    refine consistent.rewritten member fails.same rfl rfl rfl (List.Sublist.refl _) ?_
    refine consistent.not_working member ?_
    rcases waiting with waits | waits <;> simp [waits]
  | claimed member _ waiting _ =>
    refine consistent.claimed member ?_
    rcases waiting with waits | waits <;> simp [waits]
  | executed found unfinished => exact consistent.executed found unfinished
  | failed reported _ fails =>
    refine consistent.rewritten reported.member fails.same rfl rfl rfl (withoutJob_sublist _) ?_
    intro job jobMem
    rw [reported.id]
    exact (mem_withoutJob jobMem).2
  | deleted reported _ successful delete => exact consistent.deleted reported successful delete
  | completed reported _ _ _ completes =>
    refine consistent.rewritten reported.member completes.same rfl rfl rfl (withoutJob_sublist _) ?_
    intro job jobMem
    rw [reported.id]
    exact (mem_withoutJob jobMem).2
  | dismissed => exact consistent.dismissed _

theorem perform (store : SecretStore) (move : DatabaseMove) :
    (before.perform store move).Consistent :=
  consistent.moved (perform_moved before move)

end Consistent

theorem fresh_consistent (environment : List EnvironmentVariable) :
    (fresh environment).Consistent :=
  ⟨⟨Issued.nil, List.nodup_nil, List.nodup_nil⟩, List.nodup_nil,
    by simp [fresh], ⟨by simp [fresh], by simp [fresh]⟩, by simp [fresh]⟩

def Performs (store : SecretStore) (before : HostedDatabases)
    (move : DatabaseMove) (after : HostedDatabases) : Prop :=
  after = before.perform store move

theorem run_consistent {environment : List EnvironmentVariable}
    {moves : List DatabaseMove} {state : HostedDatabases}
    (run : Run (Performs store) (fresh environment) moves state) : state.Consistent := by
  refine run.invariant (fresh_consistent environment) ?_
  intro before move after consistent performs
  rw [performs]
  exact consistent.perform store move

/-- Whatever fails on the way, what a server holds is of a row, with its
tenant and its grants, each database has a holder, an operation under way is
that of a working row, and no database has two of them. -/
theorem serversRecorded (store : SecretStore) (environment : List EnvironmentVariable)
    (moves : List DatabaseMove) : EveryStep (Performs store) (fun _ _ after =>
        after.servers.Recorded after.tables.databases ∧
        (∀ stored ∈ after.servers.stored, ∃ row ∈ after.tables.databases, stored.IsOf row) ∧
        (after.jobs.map DatabaseJob.databaseId).Nodup ∧
        ∀ job ∈ after.jobs, ∃ row ∈ after.tables.databases,
          row.status = .working ∧ job.work.IsOf row ∧ job.work.operation = row.operation)
      (fresh environment) moves := by
  intro front move back before after split run step
  have consistent : after.Consistent := run_consistent (run.append (.single step))
  exact ⟨consistent.recorded, fun _ member => consistent.recorded.stored member,
    consistent.jobs, consistent.working⟩

end HostedDatabases

end Ithute
