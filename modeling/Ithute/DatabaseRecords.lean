import Ithute.DatabaseSteps
import Ithute.Library.UniqueRows

/-!
# Databases and their rows

What the servers of a node hold is recorded: every database was opened for a
row, every login belongs to one, and an agent works only on rows that wait
for it.
-/

namespace Ithute

open UniqueRows RewrittenRows

def ManagedDatabase.ownName (row : ManagedDatabase) : ℕ × DatabaseEngine × String :=
  (row.tenantId, row.engine, row.databaseName)

structure DatabaseTables.Consistent (tables : DatabaseTables) : Prop where
  issued : Issued ManagedDatabase.id tables.nextId tables.databases
  names : (tables.databases.map ManagedDatabase.ownName).Nodup
  usernames : (tables.databases.map ManagedDatabase.username).Nodup

inductive RowsMoved (before after : DatabaseTables) : Prop
  | kept (nextId : after.nextId = before.nextId)
      (rewrites : Rewrites SameDatabase before.databases after.databases)
  | added (row : ManagedDatabase) (id : row.id = before.nextId)
      (nextId : after.nextId = before.nextId + 1)
      (databases : after.databases = before.databases ++ [row])
      (name : row.ownName ∉ before.databases.map ManagedDatabase.ownName) (username :
        row.username ∉ before.databases.map ManagedDatabase.username)
  | removed (id : ℕ) (nextId : after.nextId = before.nextId) (databases : after.databases =
        before.databases.filter fun row => row.id ≠ id)

namespace DatabaseTables

variable {tables after : DatabaseTables} {row saved : ManagedDatabase}

theorem insert_ok (inserted : tables.insert row = .ok after) : after = { tables with
      nextId := tables.nextId + 1
      databases := tables.databases ++ [row] } ∧
    row.ownName ∉ tables.databases.map ManagedDatabase.ownName ∧
    row.username ∉ tables.databases.map ManagedDatabase.username := by
  unfold insert at inserted
  split_ifs at inserted with sameName sameUser
  cases inserted
  refine ⟨rfl, ?_, ?_⟩
  · rintro member
    obtain ⟨stored, storedMem, same⟩ := List.mem_map.mp member
    apply sameName
    rw [List.any_eq_true]
    refine ⟨stored, storedMem, ?_⟩
    simp only [ManagedDatabase.ownName, Prod.mk.injEq] at same
    simp [same]
  · rintro member
    obtain ⟨stored, storedMem, same⟩ := List.mem_map.mp member
    apply sameUser
    rw [List.any_eq_true]
    exact ⟨stored, storedMem, by simpa using same⟩

namespace Consistent

variable (consistent : tables.Consistent)
include consistent

theorem save_rewrites (member : row ∈ tables.databases) (same : SameDatabase row saved) :
    Rewrites SameDatabase tables.databases (tables.save saved).databases :=
  Rewrites.replace consistent.issued.unique SameDatabase.refl member same.id same

theorem eq_of_id {other : ManagedDatabase} (member : row ∈ tables.databases)
    (otherMem : other ∈ tables.databases) (same : row.id = other.id) : row = other :=
  consistent.issued.eq_of_key member otherMem same

theorem eq_of_username {other : ManagedDatabase}
    (member : row ∈ tables.databases) (otherMem : other ∈ tables.databases)
    (same : row.username = other.username) : row = other :=
  List.inj_on_of_nodup_map consistent.usernames member otherMem same

theorem moved (moved : RowsMoved tables after) : after.Consistent := by
  cases moved with
  | kept nextId rewrites =>
    have ids : after.databases.map ManagedDatabase.id = tables.databases.map ManagedDatabase.id :=
      rewrites.column fun _ _ same => same.id
    refine ⟨⟨?_, ?_⟩, ?_, ?_⟩
    · rw [ids]
      exact consistent.issued.unique
    · intro row member
      obtain ⟨earlier, earlierMem, same⟩ := rewrites.earlier member
      rw [same.id, nextId]
      exact consistent.issued.below earlier earlierMem
    · rw [rewrites.column fun first second same => by
        simp [ManagedDatabase.ownName, same.tenantId, same.engine, same.databaseName]]
      exact consistent.names
    · rw [rewrites.column fun _ _ same => same.username]
      exact consistent.usernames
  | added row id nextId databases name username =>
    refine ⟨?_, ?_, ?_⟩
    · rw [nextId, databases]
      exact consistent.issued.insert id
    · rw [databases, List.map_append, List.map_singleton]
      exact List.nodup_append.mpr ⟨consistent.names, by simp, by
        simpa using fun other otherMem same => name (List.mem_map.mpr ⟨other, otherMem, same⟩)⟩
    · rw [databases, List.map_append, List.map_singleton]
      exact List.nodup_append.mpr ⟨consistent.usernames, by simp, by
        simpa using fun other otherMem same => username (List.mem_map.mpr ⟨other, otherMem, same⟩)⟩
  | removed id nextId databases =>
    have shorter : after.databases.Sublist tables.databases := by
      rw [databases]
      exact List.filter_sublist
    refine ⟨?_, ?_, ?_⟩
    · rw [nextId, databases]
      exact consistent.issued.filter _
    · exact consistent.names.sublist (shorter.map _)
    · exact consistent.usernames.sublist (shorter.map _)

end Consistent

end DatabaseTables

structure DatabaseWork.IsOf (work : DatabaseWork) (row : ManagedDatabase) : Prop where
  databaseId : work.databaseId = row.id
  tenantId : work.tenantId = row.tenantId
  nodeId : work.nodeId = row.nodeId
  engine : work.engine = row.engine
  databaseName : work.databaseName = row.databaseName
  username : work.username = row.username

structure StoredDatabase.IsOf (stored : StoredDatabase) (row : ManagedDatabase) : Prop where
  nodeId : stored.nodeId = row.nodeId
  engine : stored.engine = row.engine
  name : stored.name = row.databaseName

structure DatabaseHolder.IsOf (holder : DatabaseHolder) (row : ManagedDatabase) : Prop where
  databaseId : holder.databaseId = row.id
  tenantId : holder.tenantId = row.tenantId

structure DatabaseLogin.IsOf (login : DatabaseLogin) (row : ManagedDatabase) : Prop where
  nodeId : login.nodeId = row.nodeId
  engine : login.engine = row.engine
  username : login.username = row.username
  tenantId : login.tenantId = row.tenantId
  grants : ∀ granted ∈ login.grants, granted = row.databaseName

section Versions

variable {before after : ManagedDatabase} (same : SameDatabase before after)
include same

theorem StoredDatabase.IsOf.later {stored : StoredDatabase}
    (isOf : stored.IsOf before) : stored.IsOf after :=
  ⟨isOf.nodeId.trans same.nodeId.symm, isOf.engine.trans same.engine.symm,
    isOf.name.trans same.databaseName.symm⟩

theorem DatabaseHolder.IsOf.later {holder : DatabaseHolder}
    (isOf : holder.IsOf before) : holder.IsOf after :=
  ⟨isOf.databaseId.trans same.id.symm, isOf.tenantId.trans same.tenantId.symm⟩

theorem DatabaseLogin.IsOf.later {login : DatabaseLogin}
    (isOf : login.IsOf before) : login.IsOf after :=
  ⟨isOf.nodeId.trans same.nodeId.symm, isOf.engine.trans same.engine.symm,
    isOf.username.trans same.username.symm,
    isOf.tenantId.trans same.tenantId.symm, fun granted member =>
      (isOf.grants granted member).trans same.databaseName.symm⟩

end Versions

structure DatabaseServers.Recorded (servers : DatabaseServers)
    (rows : List ManagedDatabase) : Prop where
  holders : ∀ stored ∈ servers.stored, ∀ holder ∈ stored.holders,
    ∃ row ∈ rows, stored.IsOf row ∧ holder.IsOf row
  logins : ∀ login ∈ servers.logins, ∃ row ∈ rows, login.IsOf row

theorem DatabaseServers.Recorded.stored {servers : DatabaseServers} {rows : List ManagedDatabase}
    (recorded : servers.Recorded rows) {stored : StoredDatabase} (member : stored ∈ servers.stored) :
    ∃ row ∈ rows, stored.IsOf row := by
  obtain ⟨holder, holds⟩ := List.exists_mem_of_ne_nil _ stored.holders_ne_nil
  obtain ⟨row, rowMem, isOf, -⟩ := recorded.holders stored member holder holds
  exact ⟨row, rowMem, isOf⟩

namespace DatabaseWork

variable {work : DatabaseWork} {row : ManagedDatabase}

structure SameLogin (before after : DatabaseLogin) : Prop where
  nodeId : after.nodeId = before.nodeId
  engine : after.engine = before.engine
  username : after.username = before.username
  tenantId : after.tenantId = before.tenantId

theorem SameLogin.refl (login : DatabaseLogin) : SameLogin login login := ⟨rfl, rfl, rfl, rfl⟩

theorem SameLogin.trans {first second third : DatabaseLogin}
    (earlier : SameLogin first second) (later : SameLogin second third) : SameLogin first third :=
  ⟨later.nodeId.trans earlier.nodeId, later.engine.trans earlier.engine,
    later.username.trans earlier.username, later.tenantId.trans earlier.tenantId⟩

theorem SameLogin.isLogin {before after : DatabaseLogin} (same : SameLogin before after) :
    work.isLogin after = work.isLogin before := by
  simp [DatabaseWork.isLogin, same.nodeId, same.engine, same.username]

structure Touches (work : DatabaseWork) (before after : DatabaseServers) : Prop where
  holders : ∀ stored ∈ after.stored, ∀ holder ∈ stored.holders,
    (work.isDatabase stored = true ∧ holder = work.holder) ∨
      ∃ earlier ∈ before.stored, earlier.nodeId = stored.nodeId ∧
        earlier.engine = stored.engine ∧ earlier.name = stored.name ∧ holder ∈ earlier.holders
  logins : ∀ login ∈ after.logins, (work.isLogin login = true ∧ login.tenantId = work.tenantId ∧
      ∀ granted ∈ login.grants, granted = work.databaseName) ∨
    ∃ earlier ∈ before.logins, SameLogin earlier login ∧
      ∀ granted ∈ login.grants, granted ∈ earlier.grants ∨
        (work.isLogin earlier = true ∧ granted = work.databaseName)

theorem Touches.refl (servers : DatabaseServers) : work.Touches servers servers :=
  ⟨fun stored member _ holds => .inr ⟨stored, member, rfl, rfl, rfl, holds⟩,
    fun login member => .inr ⟨login, member, SameLogin.refl login, fun _ granted => .inl granted⟩⟩

theorem Touches.trans {first second third : DatabaseServers} (earlier : work.Touches first second)
    (later : work.Touches second third) : work.Touches first third := by
  constructor
  · intro stored member holder holds
    rcases later.holders stored member holder holds with
      own | ⟨middle, middleMem, nodeId, engine, name, holdsMiddle⟩
    · exact .inl own
    · rcases earlier.holders middle middleMem holder holdsMiddle with
        ⟨isDatabase, own⟩ | ⟨first, firstMem, nodeId', engine', name', held⟩
      · left
        refine ⟨?_, own⟩
        simpa [DatabaseWork.isDatabase, nodeId, engine, name] using isDatabase
      · exact .inr ⟨first, firstMem, nodeId'.trans nodeId,
          engine'.trans engine, name'.trans name, held⟩
  · intro login member
    rcases later.logins login member with
      own | ⟨middle, middleMem, same, granted⟩
    · exact .inl own
    · rcases earlier.logins middle middleMem with
        ⟨isLogin, tenant, own⟩ | ⟨first, firstMem, same', granted'⟩
      · left
        refine ⟨same.isLogin.trans isLogin, same.tenantId.trans tenant, ?_⟩
        intro name has
        rcases granted name has with old | ⟨-, new⟩
        · exact own name old
        · exact new
      · refine .inr ⟨first, firstMem, same'.trans same, ?_⟩
        intro name has
        rcases granted name has with old | ⟨isLogin, new⟩
        · exact granted' name old
        · exact .inr ⟨same'.isLogin ▸ isLogin, new⟩

variable {servers : DatabaseServers} {edit : DatabaseLogin → DatabaseLogin}

theorem touches_map (same : ∀ login, SameLogin login (edit login))
    (grants : ∀ login, ∀ granted ∈ (edit login).grants, granted ∈ login.grants ∨
        (work.isLogin login = true ∧ granted = work.databaseName)) :
    work.Touches servers { servers with logins := servers.logins.map edit } := by
  refine ⟨(Touches.refl servers).holders, ?_⟩
  intro login member
  obtain ⟨earlier, earlierMem, rfl⟩ := List.mem_map.mp member
  exact .inr ⟨earlier, earlierMem, same earlier, grants earlier⟩

theorem editLogin_touches (same : ∀ login, SameLogin login (edit login))
    (grants : ∀ login, ∀ granted ∈ (edit login).grants,
      granted ∈ login.grants ∨ granted = work.databaseName) :
    work.Touches servers (work.editLogin servers edit) := by
  apply touches_map
  · intro login
    split
    · exact same login
    · exact SameLogin.refl login
  · intro login granted member
    split at member
    · rename_i isLogin
      rcases grants login granted member with old | new
      · exact .inl old
      · exact .inr ⟨isLogin, new⟩
    · exact .inl member

theorem editLogin_touches_of_kept (same : ∀ login, SameLogin login (edit login))
    (grants : ∀ login, (edit login).grants = login.grants) :
    work.Touches servers (work.editLogin servers edit) := by
  apply editLogin_touches same
  intro login granted member
  rw [grants login] at member
  exact .inl member

theorem statement_touches {after : DatabaseServers} {next : DatabaseStatement}
    (runs : work.statement servers next = some after) : work.Touches servers after := by
  cases next with
  | putLogin =>
    dsimp only [statement] at runs
    split_ifs at runs
    · cases runs
      exact editLogin_touches_of_kept (fun _ => ⟨rfl, rfl, rfl, rfl⟩) fun _ => rfl
    · cases runs
      refine ⟨(Touches.refl servers).holders, ?_⟩
      intro login member
      rcases List.mem_append.mp member with old | new
      · exact (Touches.refl servers).logins login old
      · left
        rw [List.mem_singleton.mp new]
        simp [isLogin]
  | openDatabase =>
    dsimp only [statement] at runs
    split_ifs at runs
    · cases runs
      refine ⟨?_, (Touches.refl servers).logins⟩
      intro stored member holder holds
      obtain ⟨earlier, earlierMem, rfl⟩ := List.mem_map.mp member
      by_cases isDatabase : work.isDatabase earlier = true
      · rw [if_pos isDatabase] at holds ⊢
        rcases List.mem_append.mp holds with old | new
        · exact .inr ⟨earlier, earlierMem, rfl, rfl, rfl, old⟩
        · exact .inl ⟨isDatabase, List.mem_singleton.mp new⟩
      · rw [if_neg isDatabase] at holds ⊢
        exact .inr ⟨earlier, earlierMem, rfl, rfl, rfl, holds⟩
    · cases runs
      refine ⟨?_, (Touches.refl servers).logins⟩
      intro stored member holder holds
      rcases List.mem_append.mp member with old | new
      · exact (Touches.refl servers).holders stored old holder holds
      · left
        rw [List.mem_singleton.mp new] at holds ⊢
        exact ⟨by simp [isDatabase], List.mem_singleton.mp holds⟩
  | grantAccess =>
    dsimp only [statement] at runs
    split_ifs at runs
    cases runs
    refine editLogin_touches (fun _ => ⟨rfl, rfl, rfl, rfl⟩) ?_
    intro login granted member
    simpa using member
  | setPassword =>
    dsimp only [statement] at runs
    split_ifs at runs
    cases runs
    exact editLogin_touches_of_kept (fun _ => ⟨rfl, rfl, rfl, rfl⟩) fun _ => rfl
  | disableLogin =>
    dsimp only [statement] at runs
    split_ifs at runs
    cases runs
    exact editLogin_touches_of_kept (fun _ => ⟨rfl, rfl, rfl, rfl⟩) fun _ => rfl
  | enableLogin =>
    dsimp only [statement] at runs
    split_ifs at runs
    cases runs
    exact editLogin_touches_of_kept (fun _ => ⟨rfl, rfl, rfl, rfl⟩) fun _ => rfl
  | dropDatabase =>
    dsimp only [statement] at runs
    cases runs
    constructor
    · intro stored member holder holds
      exact (Touches.refl servers).holders stored (List.mem_filter.mp member).1 holder holds
    · cases work.engine with
      | mysql => exact (Touches.refl servers).logins
      | postgresql =>
        have revoked : work.Touches servers
            { servers with logins := servers.logins.map work.revoke } := by
          apply touches_map
          · intro login
            unfold revoke
            split <;> exact ⟨rfl, rfl, rfl, rfl⟩
          · intro login granted member
            unfold revoke at member
            split at member
            · exact .inl (List.mem_filter.mp member).1
            · exact .inl member
        exact revoked.logins
  | dropLogin =>
    dsimp only [statement] at runs
    cases runs
    refine ⟨(Touches.refl servers).holders, ?_⟩
    intro login member
    exact (Touches.refl servers).logins login (List.mem_filter.mp member).1

theorem runStatements_touches (program : List DatabaseStatement) (servers : DatabaseServers) :
    work.Touches servers (work.runStatements program servers).1 := by
  induction program generalizing servers with
  | nil => exact Touches.refl servers
  | cons next rest ih =>
    unfold runStatements
    cases runs : work.statement servers next with
    | none => exact Touches.refl servers
    | some after => exact (statement_touches runs).trans (ih after)

end DatabaseWork

theorem DatabaseJob.run_touches (job : DatabaseJob) (statements : ℕ) (servers : DatabaseServers) :
    job.work.Touches servers (job.run statements servers).1 :=
  DatabaseWork.runStatements_touches _ servers

theorem DatabaseJob.run_deleted (job : DatabaseJob) (statements : ℕ)
    (servers : DatabaseServers) (delete : job.work.operation = .delete)
    (whole : (job.run statements servers).2 = true) :
    (∀ stored ∈ (job.run statements servers).1.stored, job.work.isDatabase stored = false) ∧
    ∀ login ∈ (job.run statements servers).1.logins, job.work.isLogin login = false := by
  have program : job.work.program = [.dropDatabase, .dropLogin] := by
    unfold DatabaseWork.program
    rw [delete]
    cases job.work.engine <;> rfl
  dsimp only [DatabaseJob.run] at whole ⊢
  simp only [Bool.and_eq_true, decide_eq_true_eq] at whole
  obtain ⟨⟨-, valid⟩, length⟩ := whole
  rw [List.take_of_length_le length, if_pos valid, program]
  constructor
  · intro stored member
    simpa using (List.mem_filter.mp member).2
  · intro login member
    simpa using (List.mem_filter.mp member).2

theorem DatabaseServers.Recorded.touched {work : DatabaseWork}
    {before after : DatabaseServers} {rows : List ManagedDatabase}
    {row : ManagedDatabase} (recorded : before.Recorded rows)
    (unique : (rows.map ManagedDatabase.username).Nodup)
    (member : row ∈ rows) (isOf : work.IsOf row)
    (touches : work.Touches before after) : after.Recorded rows := by
  constructor
  · intro stored storedMem holder holds
    rcases touches.holders stored storedMem holder holds with
      ⟨isDatabase, rfl⟩ | ⟨earlier, earlierMem, nodeId, engine, name, held⟩
    · refine ⟨row, member, ?_, ⟨isOf.databaseId, isOf.tenantId⟩⟩
      simp only [DatabaseWork.isDatabase, Bool.and_eq_true, decide_eq_true_eq] at isDatabase
      obtain ⟨⟨nodeId, engine⟩, name⟩ := isDatabase
      exact ⟨nodeId.trans isOf.nodeId, engine.trans isOf.engine, name.trans isOf.databaseName⟩
    · obtain ⟨other, otherMem, isOther, holderOf⟩ := recorded.holders earlier earlierMem holder held
      exact ⟨other, otherMem, ⟨nodeId ▸ isOther.nodeId,
        engine ▸ isOther.engine, name ▸ isOther.name⟩, holderOf⟩
  · intro login loginMem
    have ofRow (isLogin : work.isLogin login = true) :
        login.nodeId = row.nodeId ∧ login.engine = row.engine ∧ login.username = row.username := by
      simp only [DatabaseWork.isLogin, Bool.and_eq_true, decide_eq_true_eq] at isLogin
      obtain ⟨⟨nodeId, engine⟩, username⟩ := isLogin
      exact ⟨nodeId.trans isOf.nodeId, engine.trans isOf.engine, username.trans isOf.username⟩
    rcases touches.logins login loginMem with
      ⟨isLogin, tenant, own⟩ | ⟨earlier, earlierMem, same, granted⟩
    · obtain ⟨nodeId, engine, username⟩ := ofRow isLogin
      exact ⟨row, member, nodeId, engine, username, tenant.trans isOf.tenantId, fun name has =>
          (own name has).trans isOf.databaseName⟩
    · obtain ⟨other, otherMem, isOther⟩ := recorded.logins earlier earlierMem
      refine ⟨other, otherMem, same.nodeId.trans isOther.nodeId, same.engine.trans isOther.engine,
        same.username.trans isOther.username, same.tenantId.trans isOther.tenantId, ?_⟩
      intro name has
      rcases granted name has with old | ⟨isLogin, new⟩
      · exact isOther.grants name old
      · rw [← same.isLogin] at isLogin
        have equal : other = row := by
          apply List.inj_on_of_nodup_map unique otherMem member
          rw [← isOther.username, ← same.username]
          exact (ofRow isLogin).2.2
        rw [equal, new, isOf.databaseName]

end Ithute
