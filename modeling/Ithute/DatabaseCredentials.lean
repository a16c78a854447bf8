import Ithute.DatabaseFailover

/-!
# Stored and live credentials

A rotation changes the password on the server first and the stored one when
its success is reported.  A row that is ready has the password that the
server accepts.  A row whose agent is gone stays claimed, and nothing ever
moves it on.
-/

namespace Ithute

open UniqueRows RewrittenRows TransitionRuns

def DatabaseLogin.isFor (login : DatabaseLogin) (row : ManagedDatabase) : Bool :=
  login.nodeId = row.nodeId && login.engine = row.engine && login.username = row.username

/-- The passwords of the logins of a row, and whether they can be used. -/
def DatabaseServers.logsIn (servers : DatabaseServers)
    (row : ManagedDatabase) : List (String × Bool) :=
  (servers.logins.filter fun login => login.isFor row).map fun login =>
    (login.password, login.enabled)

/-- The server accepts the stored password of the row, and no other. -/
def HostedDatabases.Accepts (state : HostedDatabases) (store : SecretStore)
    (row : ManagedDatabase) : Prop :=
  ∃ password, store.decryptSecret row.encryptedPassword = some password ∧
    state.servers.logsIn row = [(password, true)]

section Statements

variable {work : DatabaseWork} {row : ManagedDatabase} {servers later : DatabaseServers}

theorem isLogin_eq_isFor (isOf : work.IsOf row) (login : DatabaseLogin) :
    work.isLogin login = login.isFor row := by
  simp [DatabaseWork.isLogin, DatabaseLogin.isFor, isOf.nodeId, isOf.engine, isOf.username]

theorem isFor_congr {before after : DatabaseLogin} (same : DatabaseWork.SameLogin before after) :
    after.isFor row = before.isFor row := by
  simp [DatabaseLogin.isFor, same.nodeId, same.engine, same.username]

theorem logsIn_map {write : DatabaseLogin → DatabaseLogin} {column : String × Bool → String × Bool}
    (same : ∀ login, DatabaseWork.SameLogin login (write login))
    (columns : ∀ login, login.isFor row = true → ((write login).password, (write login).enabled) =
        column (login.password, login.enabled)) :
    ({ servers with logins := servers.logins.map write } :
        DatabaseServers).logsIn row = (servers.logsIn row).map column := by
  unfold DatabaseServers.logsIn
  have kept : (servers.logins.map write).filter (fun login => login.isFor row) =
      (servers.logins.filter fun login => login.isFor row).map write := by
    rw [List.filter_map]
    congr 1
    apply List.filter_congr
    intro login _
    exact isFor_congr (same login)
  dsimp only
  rw [kept, List.map_map, List.map_map]
  apply List.map_congr_left
  intro login member
  exact columns login (List.mem_filter.mp member).2

theorem logsIn_editLogin (isOf : work.IsOf row) {edit : DatabaseLogin → DatabaseLogin}
    {column : String × Bool → String × Bool}
    (same : ∀ login, DatabaseWork.SameLogin login (edit login))
    (columns : ∀ login, ((edit login).password, (edit login).enabled) =
      column (login.password, login.enabled)) :
    (work.editLogin servers edit).logsIn row = (servers.logsIn row).map column := by
  apply logsIn_map
  · intro login
    split
    · exact same login
    · exact DatabaseWork.SameLogin.refl login
  · intro login own
    rw [isLogin_eq_isFor isOf, if_pos own]
    exact columns login

theorem isFor_of_isLogin (apart : work.username ≠ row.username)
    {login : DatabaseLogin} (own : work.isLogin login = true) : login.isFor row = false := by
  simp only [DatabaseWork.isLogin, Bool.and_eq_true, decide_eq_true_eq] at own
  simp [DatabaseLogin.isFor, own.2, apart]

theorem logsIn_editLogin_other (apart : work.username ≠ row.username)
    {edit : DatabaseLogin → DatabaseLogin}
    (same : ∀ login, DatabaseWork.SameLogin login (edit login)) :
    (work.editLogin servers edit).logsIn row = servers.logsIn row := by
  have edited : (work.editLogin servers edit).logsIn row = (servers.logsIn row).map id := by
    apply logsIn_map
    · intro login
      split
      · exact same login
      · exact DatabaseWork.SameLogin.refl login
    · intro login here
      rw [if_neg]
      · rfl
      · intro own
        rw [isFor_of_isLogin apart own] at here
        cases here
  rw [edited, List.map_id]

theorem sameLogin_revoke (login : DatabaseLogin) :
    DatabaseWork.SameLogin login (work.revoke login) := by
  unfold DatabaseWork.revoke
  split <;> exact ⟨rfl, rfl, rfl, rfl⟩

variable {next : DatabaseStatement}

theorem logsIn_statement_other (apart : work.username ≠ row.username)
    (runs : work.statement servers next = some later) : later.logsIn row = servers.logsIn row := by
  cases next with
  | putLogin =>
    dsimp only [DatabaseWork.statement] at runs
    split_ifs at runs
    · cases runs
      exact logsIn_editLogin_other apart fun _ => ⟨rfl, rfl, rfl, rfl⟩
    · cases runs
      simp [DatabaseServers.logsIn, DatabaseLogin.isFor, apart]
  | openDatabase =>
    dsimp only [DatabaseWork.statement] at runs
    split_ifs at runs <;> cases runs <;> rfl
  | grantAccess | setPassword | disableLogin | enableLogin =>
    dsimp only [DatabaseWork.statement] at runs
    split_ifs at runs
    cases runs
    exact logsIn_editLogin_other apart fun _ => ⟨rfl, rfl, rfl, rfl⟩
  | dropDatabase =>
    dsimp only [DatabaseWork.statement] at runs
    cases runs
    cases work.engine with
    | mysql => rfl
    | postgresql =>
      have revoked : ({ servers with
            logins := servers.logins.map work.revoke } : DatabaseServers).logsIn row =
          (servers.logsIn row).map id := by
        apply logsIn_map sameLogin_revoke
        intro login _
        unfold DatabaseWork.revoke
        split <;> rfl
      rw [List.map_id] at revoked
      exact revoked
  | dropLogin =>
    dsimp only [DatabaseWork.statement] at runs
    cases runs
    unfold DatabaseServers.logsIn
    rw [List.filter_filter]
    congr 1
    apply List.filter_congr
    intro login _
    by_cases own : work.isLogin login = true
    · simp [isFor_of_isLogin apart own]
    · simp [own]

theorem logsIn_run_other (apart : work.username ≠ row.username)
    (program : List DatabaseStatement) (servers : DatabaseServers) :
    (work.runStatements program servers).1.logsIn row = servers.logsIn row := by
  induction program generalizing servers with
  | nil => rfl
  | cons next rest ih =>
    unfold DatabaseWork.runStatements
    cases runs : work.statement servers next with
    | none => rfl
    | some later => exact (ih later).trans (logsIn_statement_other apart runs)

def DatabaseWork.column (work : DatabaseWork) (next : DatabaseStatement)
    (login : String × Bool) : String × Bool :=
  match next with
  | .setPassword =>
    (work.password, match work.engine with
      | .postgresql => true
      | .mysql => login.2)
  | .disableLogin => (login.1, false)
  | .enableLogin => (login.1, true)
  | _ => login

theorem logsIn_statement_own (isOf : work.IsOf row) (edits : next ≠ .putLogin ∧ next ≠ .dropLogin)
    (runs : work.statement servers next = some later) :
    later.logsIn row = (servers.logsIn row).map (work.column next) := by
  cases next with
  | putLogin => exact absurd rfl edits.1
  | dropLogin => exact absurd rfl edits.2
  | openDatabase =>
    dsimp only [DatabaseWork.statement] at runs
    split_ifs at runs <;> cases runs <;> exact (List.map_id _).symm
  | grantAccess | setPassword | disableLogin | enableLogin =>
    dsimp only [DatabaseWork.statement] at runs
    split_ifs at runs
    cases runs
    exact logsIn_editLogin isOf (fun _ => ⟨rfl, rfl, rfl, rfl⟩) fun _ => rfl
  | dropDatabase =>
    dsimp only [DatabaseWork.statement] at runs
    cases runs
    cases work.engine with
    | mysql => exact (List.map_id _).symm
    | postgresql =>
      apply logsIn_map sameLogin_revoke
      intro login _
      unfold DatabaseWork.revoke
      split <;> rfl

theorem logsIn_putLogin (isOf : work.IsOf row) (absent : servers.logsIn row = [])
    (runs : work.statement servers .putLogin = some later) :
    later.logsIn row = [(work.password, true)] := by
  have missing : servers.logins.any work.isLogin = false := by
    rw [List.any_eq_false]
    intro login member own
    rw [isLogin_eq_isFor isOf] at own
    have seen : (login.password, login.enabled) ∈ servers.logsIn row :=
      List.mem_map.mpr ⟨login, List.mem_filter.mpr ⟨member, own⟩, rfl⟩
    rw [absent] at seen
    cases seen
  dsimp only [DatabaseWork.statement] at runs
  rw [missing] at runs
  cases runs
  unfold DatabaseServers.logsIn at absent ⊢
  rw [List.filter_append, List.map_append, absent]
  simp [DatabaseLogin.isFor, isOf.nodeId, isOf.engine, isOf.username]

theorem runStatements_cons {rest : List DatabaseStatement}
    (whole : (work.runStatements (next :: rest) servers).2 = true) :
    ∃ middle, work.statement servers next = some middle ∧
      work.runStatements (next :: rest) servers = work.runStatements rest middle := by
  cases runs : work.statement servers next with
  | none =>
    rw [DatabaseWork.runStatements, runs] at whole
    cases whole
  | some middle => exact ⟨middle, rfl, by rw [DatabaseWork.runStatements, runs]⟩

theorem logsIn_run_own (isOf : work.IsOf row) {program : List DatabaseStatement}
    (edits : ∀ next ∈ program, next ≠ .putLogin ∧ next ≠ .dropLogin)
    (whole : (work.runStatements program servers).2 = true) :
    (work.runStatements program servers).1.logsIn row =
      program.foldl (fun logins next => logins.map (work.column next)) (servers.logsIn row) := by
  induction program generalizing servers with
  | nil => rfl
  | cons next rest ih =>
    obtain ⟨middle, runs, equal⟩ := runStatements_cons whole
    rw [equal] at whole ⊢
    rw [ih (fun other member => edits other (List.mem_cons_of_mem _ member))
      whole, logsIn_statement_own isOf (edits next List.mem_cons_self) runs]
    rfl

/-- The logins that an operation finds, where the stored password is this
one. -/
def DatabaseOperation.Awaits (operation : DatabaseOperation)
    (password : String) (logins : List (String × Bool)) : Prop :=
  match operation with
  | .provision => logins = []
  | .rotate | .suspend => logins = [(password, true)]
  | .resume => logins = [(password, false)]
  | .delete | .none => True

def DatabaseOperation.Leaves (operation : DatabaseOperation)
    (password : String) (logins : List (String × Bool)) : Prop :=
  match operation with
  | .provision | .rotate | .resume => logins = [(password, true)]
  | .suspend => logins = [(password, false)]
  | .delete | .none => True

theorem provision_leaves (isOf : work.IsOf row) (operation : work.operation = .provision)
    (absent : servers.logsIn row = [])
    (whole : (work.runStatements work.program servers).2 = true) :
    (work.runStatements work.program servers).1.logsIn row = [(work.password, true)] := by
  have granted {program : List DatabaseStatement} {middle : DatabaseServers}
      (grants : ∀ next ∈ program, next = .openDatabase ∨ next = .grantAccess)
      (made : middle.logsIn row = [(work.password, true)])
      (ran : (work.runStatements program middle).2 = true) :
      (work.runStatements program middle).1.logsIn row = [(work.password, true)] := by
    rw [logsIn_run_own isOf _ ran, made]
    · clear ran made
      induction program with
      | nil => rfl
      | cons next rest ih =>
        have kept : work.column next = id := by
          rcases grants next List.mem_cons_self with rfl | rfl <;> rfl
        rw [List.foldl_cons, kept, List.map_id]
        exact ih fun other member => grants other (List.mem_cons_of_mem _ member)
    · intro next member
      rcases grants next member with rfl | rfl <;> simp
  unfold DatabaseWork.program at whole ⊢
  rw [operation] at whole ⊢
  cases engine : work.engine with
  | postgresql =>
    rw [engine] at whole
    obtain ⟨made, put, equal⟩ := runStatements_cons whole
    dsimp only [DatabaseWork.postgresOperation] at whole ⊢
    rw [equal] at whole ⊢
    exact granted (by simp) (logsIn_putLogin isOf absent put) whole
  | mysql =>
    rw [engine] at whole
    obtain ⟨opened, opens, equal⟩ := runStatements_cons whole
    dsimp only [DatabaseWork.mysqlOperation] at whole ⊢
    rw [equal] at whole ⊢
    obtain ⟨made, put, equal⟩ := runStatements_cons whole
    rw [equal] at whole ⊢
    have stillAbsent : opened.logsIn row = [] := by
      rw [logsIn_statement_own isOf (by simp) opens, absent]
      rfl
    exact granted (by simp) (logsIn_putLogin isOf stillAbsent put) whole

theorem program_leaves (isOf : work.IsOf row) {stored : String}
    (awaits : work.operation.Awaits stored (servers.logsIn row))
    (current : work.operation ≠ .rotate → work.password = stored)
    (whole : (work.runStatements work.program servers).2 = true) :
    work.operation.Leaves work.password
      ((work.runStatements work.program servers).1.logsIn row) := by
  have single {next : DatabaseStatement} {found left : String × Bool}
      (program : work.program = [next]) (edits : next ≠ .putLogin ∧ next ≠ .dropLogin)
      (finds : servers.logsIn row = [found]) (makes : work.column next found = left) :
      (work.runStatements work.program servers).1.logsIn row = [left] := by
    rw [logsIn_run_own isOf _ whole, program, finds, ← makes]
    · rfl
    · rw [program]
      simpa using edits
  have programIs {next : DatabaseStatement}
      (postgres : DatabaseWork.postgresOperation work.operation = [next])
      (mysql : DatabaseWork.mysqlOperation work.operation = [next]) : work.program = [next] := by
    unfold DatabaseWork.program
    cases work.engine
    · exact postgres
    · exact mysql
  cases operation : work.operation with
  | none | delete => trivial
  | provision =>
    rw [operation] at awaits
    exact provision_leaves isOf operation awaits whole
  | rotate =>
    rw [operation] at awaits programIs
    refine single (programIs rfl rfl) (by simp) awaits ?_
    cases engine : work.engine <;> simp [DatabaseWork.column, engine]
  | suspend =>
    rw [operation] at awaits programIs current
    refine single (programIs rfl rfl) (by simp) awaits ?_
    rw [current (by simp)]
    rfl
  | resume =>
    rw [operation] at awaits programIs current
    refine single (programIs rfl rfl) (by simp) awaits ?_
    rw [current (by simp)]
    rfl

theorem run_leaves {job : DatabaseJob} {statements : ℕ} {stored : String} (isOf : job.work.IsOf row)
    (awaits : job.work.operation.Awaits stored (servers.logsIn row))
    (current : job.work.operation ≠ .rotate → job.work.password = stored)
    (whole : (job.run statements servers).2 = true) : job.work.operation.Leaves job.work.password
      ((job.run statements servers).1.logsIn row) := by
  unfold DatabaseJob.run at whole ⊢
  simp only [Bool.and_eq_true, decide_eq_true_eq] at whole
  obtain ⟨⟨ran, valid⟩, enough⟩ := whole
  dsimp only
  rw [List.take_of_length_le enough, if_pos valid] at ran ⊢
  exact program_leaves isOf awaits current ran

end Statements

def ManagedDatabase.Credible (row : ManagedDatabase) (store : SecretStore)
    (servers : DatabaseServers) : Prop :=
  ∃ stored, store.decryptSecret row.encryptedPassword = some stored ∧ match row.status with
    | .ready => servers.logsIn row = [(stored, true)]
    | .suspended => servers.logsIn row = [(stored, false)]
    | .queued => row.operation.Awaits stored (servers.logsIn row)
    | .deleting => row.operation = .delete
    | .working => row.operation ≠ .none
    | .deleted | .failed => True

structure DatabaseJob.Credible (job : DatabaseJob) (store : SecretStore)
    (servers : DatabaseServers) (row : ManagedDatabase) : Prop where
  credential : row.credential.bind store.decryptSecret = some job.work.password
  finds : job.outcome = none → ∀ stored, store.decryptSecret row.encryptedPassword = some stored →
      job.work.operation.Awaits stored (servers.logsIn row)
  leaves : job.outcome = some true →
    job.work.operation.Leaves job.work.password (servers.logsIn row)

structure HostedDatabases.Credible (store : SecretStore) (state : HostedDatabases) : Prop where
  sound : state.Sound store
  rows : ∀ row ∈ state.tables.databases, row.Credible store state.servers
  jobs : ∀ job ∈ state.jobs, ∀ row ∈ state.tables.databases,
    job.databaseId = row.id → job.Credible store state.servers row

section Moves

variable {store : SecretStore} {before after : HostedDatabases}
variable {move : DatabaseMove} {row saved : ManagedDatabase}

theorem logsIn_same {servers : DatabaseServers} (same : SameDatabase row saved) :
    servers.logsIn saved = servers.logsIn row := by
  have isFor : (fun login : DatabaseLogin => login.isFor saved) = fun login => login.isFor row := by
    funext login
    simp [DatabaseLogin.isFor, same.nodeId, same.engine, same.username]
  simp only [DatabaseServers.logsIn, isFor]

theorem DatabaseJob.Credible.password_eq {servers : DatabaseServers}
    {job : DatabaseJob} {stored : String} (about : job.Credible store servers row)
    (operation : job.work.operation = row.operation)
    (decrypts : store.decryptSecret row.encryptedPassword = some stored)
    (kept : job.work.operation ≠ .rotate) : job.work.password = stored := by
  have credential := about.credential
  rw [ManagedDatabase.credential, if_neg (operation ▸ kept),
    Option.bind_some, decrypts] at credential
  exact (Option.some.inj credential).symm

namespace HostedDatabases.Credible

variable (credible : before.Credible store)
include credible

theorem rewritten (moved : DatabaseMoved store before move after) (same : SameDatabase row saved)
    (databases : after.tables.databases = (before.tables.save saved).databases)
    (servers : after.servers = before.servers)
    (jobs : ∀ job ∈ after.jobs, job ∈ before.jobs ∧ job.databaseId ≠ row.id)
    (here : saved.Credible store before.servers) : after.Credible store := by
  refine ⟨credible.sound.moved moved, ?_, ?_⟩
  · rw [databases, servers]
    exact forall_replace (fun other otherMem _ => credible.rows other otherMem) here
  · rw [databases, servers]
    intro job jobMem
    obtain ⟨old, apart⟩ := jobs job jobMem
    refine forall_replace (fun other otherMem _ => credible.jobs job old other otherMem) ?_
    intro about
    exact absurd (about.trans same.id) apart

theorem added {tables : DatabaseTables} {placement : DatabasePlacement}
    (makes : placement.Makes store before.tables row)
    (inserted : before.tables.insert row = .ok tables) (environment : List EnvironmentVariable) :
    Credible store { before with tables := { tables with environment := environment } } := by
  have consistent := credible.sound.consistent
  have sound : Sound store
      { before with tables := { tables with environment := environment } } := by
    refine ⟨consistent.added makes.id inserted environment, ?_⟩
    rw [(DatabaseTables.insert_ok inserted).1]
    exact usable_insert makes credible.sound.usable
  obtain ⟨rfl, -, username⟩ := DatabaseTables.insert_ok inserted
  refine ⟨sound, ?_, ?_⟩
  · intro other member
    rcases List.mem_append.mp member with old | new
    · exact credible.rows other old
    · rw [List.mem_singleton.mp new]
      refine ⟨placement.password, ?_, ?_⟩
      · rw [makes.encryptedPassword]
        exact store.decrypt_encrypt placement.password
      · rw [makes.status, makes.operation]
        change before.servers.logsIn row = []
        rw [DatabaseServers.logsIn, List.map_eq_nil_iff, List.filter_eq_nil_iff]
        intro login loginMem own
        obtain ⟨found, foundMem, isOf⟩ := consistent.recorded.logins login loginMem
        simp only [DatabaseLogin.isFor, Bool.and_eq_true, decide_eq_true_eq] at own
        exact username (List.mem_map.mpr ⟨found, foundMem, isOf.username.symm.trans own.2⟩)
  · intro job jobMem other member about
    rcases List.mem_append.mp member with old | new
    · exact credible.jobs job jobMem other old about
    · obtain ⟨found, foundMem, -, isOf, -⟩ := consistent.working job jobMem
      have below := consistent.tables.issued.below found foundMem
      rw [List.mem_singleton.mp new, makes.id] at about
      rw [← isOf.databaseId] at below
      exact absurd about (Nat.ne_of_lt below)

theorem dismissed (databaseId : ℕ) : Credible store
      { before with jobs := before.withoutJob databaseId } :=
  ⟨⟨credible.sound.consistent.dismissed databaseId, credible.sound.usable⟩,
    credible.rows, fun job jobMem => credible.jobs job (mem_withoutJob jobMem).1⟩

theorem queued (member : row ∈ before.tables.databases)
    (asks : Asks store move row saved) : saved.Credible store before.servers := by
  obtain ⟨stored, decrypts, logins⟩ := credible.rows row member
  refine ⟨stored, ?_⟩
  cases asks with
  | rotate ready | suspend ready =>
    rw [ready] at logins
    exact ⟨decrypts, logins⟩
  | resume suspended =>
    rw [suspended] at logins
    exact ⟨decrypts, logins⟩
  | delete => exact ⟨decrypts, rfl⟩

theorem claimed {password : String} (member : row ∈ before.tables.databases)
    (operation : row.operation ≠ .none) (waiting : row.status = .queued ∨ row.status = .deleting)
    (credential : row.credential.bind store.decryptSecret = some password) : Credible store
      { before with
        tables := before.tables.save { row with status := .working }
        jobs := before.jobs ++ [{ work := row.work password }] } := by
  have moved : DatabaseMoved store before (.claim row.nodeId []) _ :=
    .claimed member operation waiting credential
  obtain ⟨stored, decrypts, logins⟩ := credible.rows row member
  have idle : row.status ≠ .working := by rcases waiting with waits | waits <;> simp [waits]
  refine ⟨credible.sound.moved moved, ?_, ?_⟩
  · exact forall_replace (fun other otherMem _ => credible.rows other otherMem)
      ⟨stored, decrypts, operation⟩
  · intro job jobMem
    rcases List.mem_append.mp jobMem with old | new
    · refine forall_replace (fun other otherMem _ => credible.jobs job old other otherMem) ?_
      intro about
      exact absurd about (credible.sound.consistent.not_working member idle job old)
    · rw [List.mem_singleton.mp new]
      refine forall_replace ?_ ?_
      · intro other _ apart about
        exact absurd about.symm apart
      · intro _
        refine ⟨credential, ?_, by simp⟩
        intro _ found again
        cases decrypts.symm.trans again
        rcases waiting with waits | waits
        · rw [waits] at logins
          exact logins
        · rw [waits] at logins
          dsimp only [ManagedDatabase.work]
          rw [logins]
          trivial

/-- A job that has run has left its row as its operation does, and other
rows as they were. -/
theorem executed {databaseId statements : ℕ} {job : DatabaseJob}
    (found : before.job? databaseId = some job) (unfinished : job.outcome = none) :
    (before.execute databaseId statements).Credible store := by
  have moved : DatabaseMoved store before (.execute databaseId statements)
      (before.execute databaseId statements) := .executed found unfinished
  have sound := credible.sound.moved moved
  have consistent := credible.sound.consistent
  obtain ⟨jobMem, same⟩ := job?_spec found
  obtain ⟨own, ownMem, working, isOf, operation⟩ := consistent.working job jobMem
  have others {row : ManagedDatabase} (member : row ∈ before.tables.databases)
      (apart : row.id ≠ own.id) : (job.run statements before.servers).1.logsIn row =
        before.servers.logsIn row := by
    apply logsIn_run_other
    rw [isOf.username]
    intro equal
    exact apart (congrArg ManagedDatabase.id
      (consistent.tables.eq_of_username ownMem member equal)).symm
  rw [execute_eq found unfinished] at sound ⊢
  refine ⟨sound, ?_, ?_⟩
  · intro row member
    obtain ⟨stored, decrypts, logins⟩ := credible.rows row member
    refine ⟨stored, decrypts, ?_⟩
    by_cases equal : row.id = own.id
    · rw [consistent.tables.eq_of_id member ownMem equal, working] at logins ⊢
      exact logins
    · dsimp only
      rw [others member equal]
      exact logins
  · intro other otherMem row member about
    obtain ⟨earlier, earlierMem, work, outcome⟩ := finished_mem otherMem
    have id : earlier.databaseId = row.id :=
      (congrArg DatabaseWork.databaseId work).symm.trans about
    have held := credible.jobs earlier earlierMem row member id
    rcases outcome with ⟨here, outcome⟩ | ⟨apart, outcome⟩
    · have equal : earlier = job :=
        List.inj_on_of_nodup_map consistent.jobs earlierMem jobMem (here.trans same.symm)
      subst equal
      have equal : row = own :=
        consistent.tables.eq_of_id member ownMem (id.symm.trans isOf.databaseId)
      subst equal
      refine ⟨work ▸ held.credential, by simp [outcome], ?_⟩
      intro done
      rw [outcome, Option.some.injEq] at done
      rw [work]
      obtain ⟨stored, decrypts, -⟩ := credible.rows row member
      exact run_leaves isOf (held.finds unfinished stored decrypts)
        (held.password_eq operation decrypts) done
    · have elsewhere : row.id ≠ own.id := by
        rw [← id, ← isOf.databaseId]
        intro equal
        exact apart (equal.trans same)
      refine ⟨work ▸ held.credential, ?_, ?_⟩
      · rw [outcome, work]
        dsimp only
        rw [others member elsewhere]
        exact held.finds
      · rw [outcome, work]
        dsimp only
        rw [others member elsewhere]
        exact held.leaves

theorem removed {databaseId : ℕ} (moved : DatabaseMoved store before move { before with
        tables := { before.tables with
          databases := before.tables.databases.filter fun stored => stored.id ≠ row.id }
        jobs := before.withoutJob databaseId }) :
    Credible store { before with
        tables := { before.tables with
          databases := before.tables.databases.filter fun stored => stored.id ≠ row.id }
        jobs := before.withoutJob databaseId } := by
  refine ⟨credible.sound.moved moved, ?_, ?_⟩
  · intro other member
    exact credible.rows other (List.mem_filter.mp member).1
  · intro job jobMem other member
    exact credible.jobs job (mem_withoutJob jobMem).1 other (List.mem_filter.mp member).1

theorem completed {databaseId : ℕ} {payload : DatabaseAgentStatus}
    {job : DatabaseJob} (reported : Reported before databaseId job row)
    (successful : job.outcome = some true) (kept : row.operation ≠ .delete)
    (completes : Completes row payload saved) : saved.Credible store before.servers := by
  obtain ⟨jobMem, isOf, operation⟩ := credible.sound.consistent.reported reported
  have held := credible.jobs job jobMem row reported.member isOf.databaseId
  have leaves := held.leaves successful
  have credential := held.credential
  have active := reported.operation
  rw [operation] at leaves
  have sameLogins : before.servers.logsIn saved = before.servers.logsIn row :=
    logsIn_same completes.same
  refine ⟨job.work.password, ?_⟩
  cases completes with
  | rotated rotate prepared =>
    obtain ⟨present, -⟩ := (credible.sound.usable row reported.member).pending _ prepared
    rw [rotate] at leaves
    rw [ManagedDatabase.credential, if_pos rotate, prepared] at credential
    refine ⟨?_, ?_⟩
    · simpa [presentText, present, Option.filter, ManagedDatabase.complete] using credential
    · simp only [ManagedDatabase.complete, rotate, reduceCtorEq, if_false]
      exact sameLogins.trans leaves
  | other other =>
    rw [ManagedDatabase.credential, if_neg other] at credential
    refine ⟨credential, ?_⟩
    cases asked : row.operation with
    | none => exact absurd asked active
    | delete => exact absurd asked kept
    | rotate => exact absurd asked other
    | provision | resume =>
      rw [asked] at leaves
      simp only [ManagedDatabase.complete, asked, reduceCtorEq, if_false]
      exact sameLogins.trans leaves
    | suspend =>
      rw [asked] at leaves
      simp only [ManagedDatabase.complete, asked, if_true]
      exact sameLogins.trans leaves

theorem moved (moved : DatabaseMoved store before move after) : after.Credible store := by
  have failed {row failed : ManagedDatabase}
      (member : row ∈ before.tables.databases) (fails : FailedRow row failed) :
      failed.Credible store before.servers := by
    obtain ⟨stored, decrypts, -⟩ := credible.rows row member
    refine ⟨stored, fails.encryptedPassword ▸ decrypts, ?_⟩
    rw [fails.status]
    trivial
  have reportedOn {databaseId : ℕ} {job : DatabaseJob}
      {row : ManagedDatabase} (reported : Reported before databaseId job row) :
      ∀ other ∈ before.withoutJob databaseId, other ∈ before.jobs ∧ other.databaseId ≠ row.id := by
    intro other otherMem
    rw [reported.id]
    exact mem_withoutJob otherMem
  cases moved with
  | idle => exact credible
  | created makes inserted => exact credible.added makes inserted _
  | provisioned _ _ makes inserted => exact credible.added makes inserted _
  | configured =>
    exact ⟨⟨credible.sound.consistent.configured _, credible.sound.usable⟩,
      credible.rows, credible.jobs⟩
  | queued member asks =>
    exact credible.rewritten (.queued member asks) asks.same rfl rfl
      (fun job jobMem => ⟨jobMem, credible.sound.consistent.not_working
        member asks.idle job jobMem⟩)
      (credible.queued member asks)
  | unclaimed member _ _ unusable =>
    exact absurd unusable (credible.sound.usable _ member).not_unusable
  | claimed member operation waiting credential =>
    exact credible.claimed member operation waiting credential
  | executed found unfinished => exact credible.executed found unfinished
  | failed reported unsuccessful fails =>
    exact credible.rewritten (.failed reported unsuccessful fails)
      fails.same rfl rfl (reportedOn reported) (failed reported.member fails)
  | @deleted databaseId payload job row reported claimed successful delete =>
    have moved : DatabaseMoved store before (.report databaseId payload) _ :=
      .deleted reported claimed successful delete
    exact credible.removed moved
  | completed reported claimed successful kept completes =>
    exact credible.rewritten (.completed reported claimed successful kept completes)
      completes.same rfl rfl (reportedOn reported)
      (credible.completed reported successful kept completes)
  | dismissed => exact credible.dismissed _

end HostedDatabases.Credible

end Moves

def HostedDatabases.Waits (state : HostedDatabases) (databaseId : ℕ) : Prop :=
  ∃ row ∈ state.tables.databases, row.id = databaseId ∧ row.status = .working

instance (state : HostedDatabases) (databaseId : ℕ) : Decidable (state.Waits databaseId) :=
  inferInstanceAs (Decidable (∃ row ∈ state.tables.databases,
    row.id = databaseId ∧ row.status = .working))

structure HostedDatabases.Abandoned (state : HostedDatabases) (databaseId : ℕ) : Prop where
  waits : state.Waits databaseId
  jobs : ∀ job ∈ state.jobs, job.databaseId ≠ databaseId

def HostedDatabases.CanLeave (state : HostedDatabases) (store : SecretStore)
    (databaseId : ℕ) : Prop :=
  ∃ moves after, Run (HostedDatabases.Performs store) state moves after ∧ ¬ after.Waits databaseId

/-- Ready rows have the password that their server accepts, and no row waits
in vain. -/
structure HostedDatabases.CredentialsAgree (store : SecretStore)
    (state : HostedDatabases) : Prop where
  ready : ∀ row ∈ state.tables.databases, row.operation = .none →
    row.status = .ready → state.Accepts store row
  waiting : ∀ row ∈ state.tables.databases, row.status = .working → state.CanLeave store row.id

def KeepsClaims (before : HostedDatabases) : DatabaseMove → Prop
  | .lose databaseId => ∀ job ∈ before.jobs, job.databaseId ≠ databaseId
  | _ => True

namespace HostedDatabases

variable {store : SecretStore} {before after : HostedDatabases}
variable {move : DatabaseMove} {databaseId : ℕ}

theorem waits_save {saved : ManagedDatabase} (waits : before.Waits databaseId)
    (apart : saved.id ≠ databaseId) : ∃ row ∈ (before.tables.save saved).databases,
      row.id = databaseId ∧ row.status = .working := by
  obtain ⟨row, member, same, working⟩ := waits
  refine ⟨row, List.mem_map.mpr ⟨row, member, if_neg ?_⟩, same, working⟩
  rw [same]
  exact apart.symm

theorem waits_insert {tables : DatabaseTables} {row : ManagedDatabase}
    (waits : before.Waits databaseId) (inserted : before.tables.insert row = .ok tables) :
    ∃ row ∈ tables.databases, row.id = databaseId ∧ row.status = .working := by
  rw [(DatabaseTables.insert_ok inserted).1]
  obtain ⟨found, member, facts⟩ := waits
  exact ⟨found, List.mem_append.mpr (.inl member), facts⟩

theorem Abandoned.moved (abandoned : before.Abandoned databaseId) (consistent : before.Consistent)
    (moved : DatabaseMoved store before move after) : after.Abandoned databaseId := by
  obtain ⟨waits, jobs⟩ := abandoned
  have apart {row : ManagedDatabase} (member : row ∈ before.tables.databases)
      (idle : row.status ≠ .working) : row.id ≠ databaseId := by
    obtain ⟨found, foundMem, same, working⟩ := waits
    intro equal
    apply idle
    rw [consistent.tables.eq_of_id member foundMem (equal.trans same.symm)]
    exact working
  have reportedApart {otherId : ℕ} {job : DatabaseJob} {row : ManagedDatabase}
      (reported : Reported before otherId job row) : row.id ≠ databaseId := by
    obtain ⟨jobMem, same⟩ := job?_spec reported.job
    rw [reported.id, ← same]
    exact jobs job jobMem
  have without {otherId : ℕ} : ∀ job ∈ before.withoutJob otherId, job.databaseId ≠ databaseId :=
    fun job jobMem => jobs job (mem_withoutJob jobMem).1
  cases moved with
  | idle => exact ⟨waits, jobs⟩
  | created _ inserted | provisioned _ _ _ inserted =>
    obtain ⟨row, member, facts⟩ := waits_insert waits inserted
    exact ⟨⟨row, member, facts⟩, jobs⟩
  | configured => exact ⟨waits, jobs⟩
  | queued member asks =>
    refine ⟨waits_save waits ?_, jobs⟩
    rw [asks.same.id]
    exact apart member asks.idle
  | unclaimed member _ waiting _ fails =>
    refine ⟨waits_save waits ?_, jobs⟩
    rw [fails.same.id]
    apply apart member
    rcases waiting with waits | waits <;> simp [waits]
  | claimed member _ waiting =>
    have other := apart member (by rcases waiting with waits | waits <;> simp [waits])
    refine ⟨waits_save waits other, ?_⟩
    intro job jobMem
    rcases List.mem_append.mp jobMem with old | new
    · exact jobs job old
    · rw [List.mem_singleton.mp new]
      exact other
  | executed found unfinished =>
    rw [execute_eq found unfinished]
    refine ⟨waits, ?_⟩
    intro job jobMem
    obtain ⟨earlier, earlierMem, work, -⟩ := finished_mem jobMem
    rw [DatabaseJob.databaseId, work]
    exact jobs earlier earlierMem
  | failed reported _ fails =>
    refine ⟨waits_save waits ?_, without⟩
    rw [fails.same.id]
    exact reportedApart reported
  | deleted reported =>
    refine ⟨?_, without⟩
    obtain ⟨found, foundMem, same, working⟩ := waits
    refine ⟨found, List.mem_filter.mpr ⟨foundMem, ?_⟩, same, working⟩
    rw [same, decide_eq_true_eq]
    exact (reportedApart reported).symm
  | completed reported _ _ _ completes =>
    refine ⟨waits_save waits ?_, without⟩
    rw [completes.same.id]
    exact reportedApart reported
  | dismissed => exact ⟨waits, without⟩

theorem Abandoned.run {moves : List DatabaseMove}
    (abandoned : before.Abandoned databaseId) (consistent : before.Consistent)
    (run : Run (HostedDatabases.Performs store) before moves after) :
    after.Consistent ∧ after.Abandoned databaseId := by
  induction run with
  | start => exact ⟨consistent, abandoned⟩
  | @next moves state following move run performs ih =>
    obtain ⟨consistentHere, abandonedHere⟩ := ih
    rw [performs]
    have moved : DatabaseMoved store state move (state.perform store move) :=
      perform_moved state move
    exact ⟨consistentHere.moved moved, abandonedHere.moved consistentHere moved⟩

theorem Abandoned.stays (abandoned : before.Abandoned databaseId)
    (consistent : before.Consistent) : ¬ before.CanLeave store databaseId := by
  rintro ⟨moves, finish, run, left⟩
  exact left (abandoned.run consistent run).2.waits

theorem reportDatabaseOperation_ends (store : SecretStore)
    {tables : DatabaseTables} {row : ManagedDatabase} {nodeId : ℕ} (payload : DatabaseAgentStatus)
    (located : (tables.database? databaseId).filter (fun row => row.nodeId = nodeId) = some row)
    (working : row.status = .working) (active : row.operation ≠ .none) :
    ∃ reported, reportDatabaseOperation store tables nodeId databaseId payload = .ok reported ∧
      ∀ other ∈ reported.databases, other.id = row.id → other.status ≠ .working := by
  have saved (saved : ManagedDatabase) (id : saved.id = row.id) (status : saved.status ≠ .working) :
      ∀ other ∈ (tables.save saved).databases, other.id = row.id → other.status ≠ .working := by
    refine forall_replace ?_ fun _ => status
    intro other _ apart same
    exact absurd (same.trans id.symm) apart
  have completes (completed : ManagedDatabase) (id : completed.id = row.id) :
      ∀ other ∈ (completeOperation store tables completed payload).databases,
        other.id = row.id → other.status ≠ .working := by
    refine saved (completed.complete payload) id ?_
    dsimp only [ManagedDatabase.complete]
    split_ifs <;> simp
  have claimed : ¬ (row.status ≠ .working ∨ row.operation = .none) := by simp [working, active]
  unfold reportDatabaseOperation
  rw [located]
  dsimp only
  rw [if_neg claimed]
  split_ifs
  · exact ⟨_, rfl, saved _ rfl (by simp [ManagedDatabase.fail])⟩
  · exact ⟨_, rfl, saved _ rfl (by simp [ManagedDatabase.fail])⟩
  · refine ⟨_, rfl, ?_⟩
    intro other member same
    have apart := (List.mem_filter.mp member).2
    simp [same] at apart
  · split
    · exact ⟨_, rfl, saved _ rfl (by simp [ManagedDatabase.fail])⟩
    · exact ⟨_, rfl, completes _ rfl⟩
  · exact ⟨_, rfl, completes _ rfl⟩

theorem Credible.report_ends (credible : before.Credible store)
    {job : DatabaseJob} (jobMem : job ∈ before.jobs) (payload : DatabaseAgentStatus) :
    ¬ (before.perform store (.report job.databaseId payload)).Waits job.databaseId := by
  have consistent := credible.sound.consistent
  obtain ⟨row, member, working, isOf, -⟩ := consistent.working job jobMem
  obtain ⟨stored, -, active⟩ := credible.rows row member
  rw [working] at active
  have found : before.job? job.databaseId = some job := find?_key consistent.jobs jobMem
  have same : job.databaseId = row.id := isOf.databaseId
  have located : (before.tables.database? job.databaseId).filter
      (fun row => row.nodeId = job.work.nodeId) = some row := by
    rw [same, DatabaseTables.database?, find?_key consistent.tables.issued.unique member]
    simp [Option.filter, isOf.nodeId]
  obtain ⟨reported, accepted, ended⟩ := reportDatabaseOperation_ends
    store (job.report payload) located working active
  dsimp only [HostedDatabases.perform, HostedDatabases.report]
  rw [found]
  dsimp only
  rw [accepted]
  rintro ⟨other, otherMem, sameId, stillWorking⟩
  exact ended other otherMem (sameId.trans same) stillWorking

theorem Credible.canLeave (credible : before.Credible store)
    {job : DatabaseJob} (jobMem : job ∈ before.jobs) : before.CanLeave store job.databaseId :=
  ⟨[.report job.databaseId { success := false }], _, Run.single rfl, credible.report_ends jobMem _⟩

theorem Credible.fresh (store : SecretStore) (environment : List EnvironmentVariable) :
    (HostedDatabases.fresh environment).Credible store :=
  ⟨Sound.fresh store environment, fun _ member => absurd member
    List.not_mem_nil, fun _ jobMem => absurd jobMem List.not_mem_nil⟩

structure Attended (store : SecretStore) (state : HostedDatabases) : Prop where
  credible : state.Credible store
  worked : ∀ row ∈ state.tables.databases, row.status = .working →
    ∃ job ∈ state.jobs, job.databaseId = row.id

theorem Credible.ready_accepts (credible : before.Credible store) :
    ∀ row ∈ before.tables.databases, row.operation = .none →
      row.status = .ready → before.Accepts store row := by
  intro row member _ ready
  obtain ⟨stored, decrypts, logins⟩ := credible.rows row member
  rw [ready] at logins
  exact ⟨stored, decrypts, logins⟩

theorem Attended.credentialsAgree (attended : before.Attended store) :
    before.CredentialsAgree store := by
  refine ⟨attended.credible.ready_accepts, ?_⟩
  intro row member working
  obtain ⟨job, jobMem, same⟩ := attended.worked row member working
  rw [← same]
  exact attended.credible.canLeave jobMem

theorem Attended.moved (attended : before.Attended store)
    (moved : DatabaseMoved store before move after) (keeps : KeepsClaims before move)
    (ends : ∀ databaseId payload, move = .report databaseId payload →
      (∃ job ∈ before.jobs, job.databaseId = databaseId) →
        ¬ after.Waits databaseId) : after.Attended store := by
  obtain ⟨credible, worked⟩ := attended
  refine ⟨credible.moved moved, ?_⟩
  have written {saved : ManagedDatabase} (idle : saved.status ≠ .working) :
      ∀ row ∈ (before.tables.save saved).databases,
        row.status = .working → ∃ job ∈ before.jobs, job.databaseId = row.id :=
    forall_replace (fun row member _ => worked row member) fun working => absurd working idle
  have inserted {placement : DatabasePlacement} {row : ManagedDatabase} {tables : DatabaseTables}
      (makes : placement.Makes store before.tables row)
      (inserted : before.tables.insert row = .ok tables) : ∀ row ∈ tables.databases,
        row.status = .working → ∃ job ∈ before.jobs, job.databaseId = row.id := by
    rw [(DatabaseTables.insert_ok inserted).1]
    intro other member working
    rcases List.mem_append.mp member with old | new
    · exact worked other old working
    · rw [List.mem_singleton.mp new, makes.status] at working
      cases working
  -- the jobs of other rows outlast the end of one job
  have without {databaseId : ℕ} {rows : List ManagedDatabase}
      (kept : ∀ row ∈ rows, row.status = .working → ∃ job ∈ before.jobs, job.databaseId = row.id)
      (ended : ∀ row ∈ rows, row.status = .working →
        (∃ job ∈ before.jobs, job.databaseId = databaseId) → row.id ≠ databaseId) :
      ∀ row ∈ rows, row.status = .working →
        ∃ job ∈ before.withoutJob databaseId, job.databaseId = row.id := by
    intro row member working
    obtain ⟨job, jobMem, same⟩ := kept row member working
    refine ⟨job, ?_, same⟩
    rw [withoutJob, List.mem_filter, decide_eq_true_eq]
    refine ⟨jobMem, fun equal => ?_⟩
    exact ended row member working ⟨job, jobMem, equal⟩ (same.symm.trans equal)
  have settles {databaseId : ℕ} {payload : DatabaseAgentStatus}
      (report : move = .report databaseId payload) :
      ∀ row ∈ after.tables.databases, row.status = .working →
        (∃ job ∈ before.jobs, job.databaseId = databaseId) → row.id ≠ databaseId := by
    intro row member working agent same
    exact ends databaseId payload report agent ⟨row, member, same, working⟩
  cases moved with
  | idle | configured => exact worked
  | created makes insertion => exact inserted makes insertion
  | provisioned _ _ makes insertion => exact fun row member => inserted makes insertion row member
  | queued member asks =>
    apply written
    cases asks <;> simp [ManagedDatabase.queue]
  | unclaimed _ _ _ _ fails =>
    apply written
    simp [fails.status]
  | claimed member =>
    refine forall_replace ?_ ?_
    · intro other otherMem _ working
      obtain ⟨job, jobMem, same⟩ := worked other otherMem working
      exact ⟨job, List.mem_append.mpr (.inl jobMem), same⟩
    · intro _
      exact ⟨_, List.mem_append.mpr (.inr (List.mem_singleton.mpr rfl)), rfl⟩
  | executed found unfinished =>
    rw [execute_eq found unfinished]
    intro row member working
    obtain ⟨job, jobMem, same⟩ := worked row member working
    have kept : row.id ∈ before.jobs.map DatabaseJob.databaseId :=
      List.mem_map.mpr ⟨job, jobMem, same⟩
    rw [← finished_ids before] at kept
    exact List.mem_map.mp kept
  | failed reported _ fails =>
    refine without (written ?_) (settles rfl)
    simp [fails.status]
  | deleted =>
    refine without ?_ (settles rfl)
    intro row member
    exact worked row (List.mem_filter.mp member).1
  | completed _ _ _ _ completes =>
    refine without (written ?_) (settles rfl)
    cases completes <;>
      · dsimp only [ManagedDatabase.complete]
        split_ifs <;> simp
  | dismissed isOver =>
    rcases isOver with rfl | ⟨payload, report⟩
    · refine without worked ?_
      rintro row member working ⟨job, jobMem, same⟩
      exact absurd same (keeps job jobMem)
    · exact without worked (settles report)

theorem Attended.perform (attended : before.Attended store) (keeps : KeepsClaims before move) :
    (before.perform store move).Attended store := by
  refine attended.moved (perform_moved before move) keeps ?_
  rintro databaseId payload rfl ⟨job, jobMem, rfl⟩
  exact attended.credible.report_ends jobMem payload

theorem Attended.keepsClaims (attended : before.Attended store)
    (agree : (before.perform store move).CredentialsAgree store) : KeepsClaims before move := by
  cases move with
  | lose databaseId =>
    rintro job jobMem rfl
    have consistent := attended.credible.sound.consistent
    obtain ⟨row, member, working, isOf, -⟩ := consistent.working job jobMem
    have abandoned : (before.perform store (.lose job.databaseId)).Abandoned row.id := by
      refine ⟨⟨row, member, rfl, working⟩, ?_⟩
      intro other otherMem
      have same : job.databaseId = row.id := isOf.databaseId
      rw [← same]
      exact (mem_withoutJob otherMem).2
    exact abandoned.stays (consistent.perform store _) (agree.waiting row member working)
  | create | provision | rotate | suspend | resume | delete | claim
  | execute | report => trivial

theorem credentialsAgree_iff (store : SecretStore)
    (environment : List EnvironmentVariable) (moves : List DatabaseMove) :
    EveryStep (HostedDatabases.Performs store) (fun _ _ after => after.CredentialsAgree store)
        (HostedDatabases.fresh environment) moves ↔
      EveryStep (HostedDatabases.Performs store) (fun before move _ => KeepsClaims before move)
        (HostedDatabases.fresh environment) moves := by
  have start : (HostedDatabases.fresh environment).Attended store :=
    ⟨Credible.fresh store environment, fun _ member => absurd member List.not_mem_nil⟩
  refine EveryStep.iff_of_stronger start (fun _ attended => attended.credentialsAgree) ?_ ?_
  · intro before move after attended performs keeps
    rw [performs]
    exact attended.perform keeps
  · intro before move after attended performs agree
    rw [performs] at agree
    exact attended.keepsClaims agree

end HostedDatabases

def claimLost : List DatabaseMove :=
  [.create (requestOf 1 "shop" "0a1b2c3d" shopName_bounds), .claim 1 [], .execute 0 4]

/-- The database exists, and its row waits for ever. -/
theorem claimLost_waits : ¬ EveryStep (HostedDatabases.Performs markedSecrets)
      (fun _ _ after => after.CredentialsAgree markedSecrets)
      (HostedDatabases.fresh []) (claimLost ++ [.lose 0]) := by
  intro everyStep
  have run := Run.of_foldl (fun state move => HostedDatabases.perform state markedSecrets move)
    claimLost (HostedDatabases.fresh [])
  have consistent := HostedDatabases.run_consistent run
  have agree := everyStep claimLost (.lose 0) [] _ _ rfl run rfl
  have abandoned : ((claimLost.foldl (fun state move =>
      HostedDatabases.perform state markedSecrets move)
        (HostedDatabases.fresh [])).perform markedSecrets
          (.lose 0)).Abandoned 0 := ⟨by decide, by decide⟩
  obtain ⟨row, member, same, working⟩ := abandoned.waits
  have leaves := agree.waiting row member working
  rw [same] at leaves
  exact abandoned.stays (consistent.perform markedSecrets _) leaves

end Ithute
