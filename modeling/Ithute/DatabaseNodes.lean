import Ithute.ManagedDatabases

/-!
# Databases on nodes

The agent of a node runs the statements of an operation against the database
servers of its node.  A server knows databases and logins by name only, and
all tenants of the node share the names.

An agent creates every database for the hosting administrator, so the owner
that provisioning and deletion look for is always the expected one.
-/

namespace Ithute

structure DatabaseHolder where
  databaseId : ℕ
  tenantId : ℕ

structure StoredDatabase where
  nodeId : ℕ
  engine : DatabaseEngine
  name : String
  holders : List DatabaseHolder
  holders_ne_nil : holders ≠ []

structure DatabaseLogin where
  nodeId : ℕ
  engine : DatabaseEngine
  username : String
  /-- The tenant that the login was issued to. -/
  tenantId : ℕ
  password : String
  enabled : Bool := true
  /-- The names of the databases that were granted to it. -/
  grants : List String := []

structure DatabaseServers where
  stored : List StoredDatabase
  logins : List DatabaseLogin

/-- A grant of MySQL is on a pattern, in which an underscore stands for any
letter. -/
def DatabaseEngine.covers : DatabaseEngine → String → String → Bool
  | .postgresql, granted, name => granted = name
  | .mysql, granted, name =>
    granted.toList.length = name.toList.length &&
      (granted.toList.zip name.toList).all fun letters => letters.1 = '_' || letters.1 = letters.2

def DatabaseLogin.grantedOn (login : DatabaseLogin) (stored : StoredDatabase) : Prop :=
  login.nodeId = stored.nodeId ∧ login.engine = stored.engine ∧
    ∃ granted ∈ login.grants, login.engine.covers granted stored.name = true

instance (login : DatabaseLogin) (stored : StoredDatabase) : Decidable (login.grantedOn stored) :=
  inferInstanceAs (Decidable (_ ∧ _ ∧ ∃ granted ∈ login.grants, _))

inductive DatabaseStatement where
  | putLogin | openDatabase | grantAccess | setPassword
  | disableLogin | enableLogin | dropDatabase | dropLogin

namespace DatabaseWork

variable (work : DatabaseWork)

def isDatabase (stored : StoredDatabase) : Bool :=
  stored.nodeId = work.nodeId && stored.engine = work.engine && stored.name = work.databaseName

def isLogin (login : DatabaseLogin) : Bool :=
  login.nodeId = work.nodeId && login.engine = work.engine && login.username = work.username

def holder : DatabaseHolder where
  databaseId := work.databaseId
  tenantId := work.tenantId

def editLogin (servers : DatabaseServers)
    (edit : DatabaseLogin → DatabaseLogin) : DatabaseServers :=
  { servers with
    logins := servers.logins.map fun login => if work.isLogin login then edit login else login }

/-- The password of a login that exists; PostgreSQL enables it again. -/
def withPassword (login : DatabaseLogin) : DatabaseLogin :=
  { login with
    password := work.password
    enabled :=
      match work.engine with
      | .postgresql => true
      | .mysql => login.enabled }

def revoke (login : DatabaseLogin) : DatabaseLogin :=
  if login.nodeId = work.nodeId && login.engine = work.engine then
    { login with
      grants := login.grants.filter fun granted => granted ≠ work.databaseName }
  else login

/-- What a statement does; `none` is an error of the server. -/
def statement (servers : DatabaseServers) : DatabaseStatement → Option DatabaseServers
  | .putLogin =>
    if servers.logins.any work.isLogin then
      some (work.editLogin servers fun login =>
        { login with password := work.password, enabled := true })
    else
      some { servers with
        logins := servers.logins ++
          [{ nodeId := work.nodeId
             engine := work.engine
             username := work.username
             tenantId := work.tenantId
             password := work.password }] }
  | .openDatabase =>
    if servers.stored.any work.isDatabase then
      some { servers with
        stored := servers.stored.map fun stored =>
          if work.isDatabase stored then
            { stored with
              holders := stored.holders ++ [work.holder]
              holders_ne_nil := by simp }
          else stored }
    else
      some { servers with
        stored := servers.stored ++
          [{ nodeId := work.nodeId
             engine := work.engine
             name := work.databaseName
             holders := [work.holder]
             holders_ne_nil := by simp }] }
  | .grantAccess =>
    if servers.logins.any work.isLogin then
      some (work.editLogin servers fun login =>
        { login with grants := login.grants ++ [work.databaseName] })
    else none
  | .setPassword =>
    if servers.logins.any work.isLogin then
      some (work.editLogin servers work.withPassword)
    else none
  | .disableLogin =>
    if servers.logins.any work.isLogin then
      some (work.editLogin servers fun login =>
        { login with enabled := false })
    else none
  | .enableLogin =>
    if servers.logins.any work.isLogin then
      some (work.editLogin servers fun login =>
        { login with enabled := true })
    else none
  | .dropDatabase =>
    -- MySQL keeps the grants on a name whose database is gone
    some
      { stored := servers.stored.filter fun stored =>
          !work.isDatabase stored
        logins :=
          match work.engine with
          | .mysql => servers.logins
          | .postgresql => servers.logins.map work.revoke }
  | .dropLogin =>
    some { servers with
      logins := servers.logins.filter fun login => !work.isLogin login }

def postgresOperation : DatabaseOperation → List DatabaseStatement
  | .provision => [.putLogin, .openDatabase, .grantAccess, .grantAccess]
  | .rotate => [.setPassword]
  | .suspend => [.disableLogin]
  | .resume => [.enableLogin]
  | .delete => [.dropDatabase, .dropLogin]
  | .none => []

def mysqlOperation : DatabaseOperation → List DatabaseStatement
  | .provision => [.openDatabase, .putLogin, .grantAccess]
  | .rotate => [.setPassword]
  | .suspend => [.disableLogin]
  | .resume => [.enableLogin]
  | .delete => [.dropDatabase, .dropLogin]
  | .none => []

def program : List DatabaseStatement :=
  match work.engine with
  | .postgresql => postgresOperation work.operation
  | .mysql => mysqlOperation work.operation

def runStatements : List DatabaseStatement → DatabaseServers → DatabaseServers × Bool
  | [], servers => (servers, true)
  | next :: rest, servers =>
    match work.statement servers next with
    | none => (servers, false)
    | some after => runStatements rest after

/-- `validate_database_work`. -/
def valid : Bool :=
  work.operation ≠ .none && (work.databaseName.toList.head?.any Char.isLower &&
      work.databaseName.toList.all databaseLetter &&
        2 ≤ work.databaseName.length && work.databaseName.length ≤ 63) &&
    (work.username.toList.head?.any Char.isAlpha && work.username.toList.all (fun letter =>
        letter.isAlphanum || letter = '_') &&
        2 ≤ work.username.length && work.username.length ≤ 63) &&
    20 ≤ work.password.length && work.password.length ≤ 256

end DatabaseWork

/-- An operation that an agent has claimed, and whether all of it has run. -/
structure DatabaseJob where
  work : DatabaseWork
  outcome : Option Bool := none

namespace DatabaseJob

variable (job : DatabaseJob)

def databaseId : ℕ := job.work.databaseId

/-- The first statements of a job, and whether they are all of it. -/
def run (statements : ℕ) (servers : DatabaseServers) : DatabaseServers × Bool :=
  let program := if job.work.valid then job.work.program else []
  let result := job.work.runStatements (program.take statements) servers
  (result.1, result.2 && job.work.valid && program.length ≤ statements)

/-- An agent reports success only of a job that has run to its end. -/
def report (payload : DatabaseAgentStatus) : DatabaseAgentStatus :=
  { payload with success := payload.success && job.outcome = some true }

end DatabaseJob

structure HostedDatabases where
  tables : DatabaseTables
  servers : DatabaseServers
  jobs : List DatabaseJob

/-- What tenants ask for and what agents do.  An agent runs the statements
of an operation as far as nothing fails, and reports; what it has claimed is
lost when it stops. -/
inductive DatabaseMove where
  | create (request : HostingDatabaseCreate)
  | provision (request : ProvisionRequest)
  | rotate (tenantId databaseId : ℕ) (password : String)
  | suspend (tenantId databaseId : ℕ)
  | resume (tenantId databaseId : ℕ)
  | delete (tenantId databaseId : ℕ)
  | claim (nodeId : ℕ) (locked : List ℕ)
  | execute (databaseId statements : ℕ)
  | report (databaseId : ℕ) (payload : DatabaseAgentStatus)
  | lose (databaseId : ℕ)

namespace HostedDatabases

variable (state : HostedDatabases)

def job? (databaseId : ℕ) : Option DatabaseJob :=
  state.jobs.find? fun job => job.databaseId = databaseId

def withoutJob (databaseId : ℕ) : List DatabaseJob :=
  state.jobs.filter fun job => job.databaseId ≠ databaseId

def accepted (result : Except String DatabaseTables) : HostedDatabases :=
  match result with
  | .error _ => state
  | .ok tables => { state with tables := tables }

def claim (store : SecretStore) (nodeId : ℕ) (locked : List ℕ) : HostedDatabases :=
  match claimDatabaseOperation store state.tables nodeId locked with
  | (tables, none) => { state with tables := tables }
  | (tables, some work) =>
    { state with
      tables := tables
      jobs := state.jobs ++ [{ work := work }] }

def execute (databaseId statements : ℕ) : HostedDatabases :=
  match state.job? databaseId with
  | none => state
  | some job =>
    if job.outcome.isSome then state
    else
      let result := job.run statements state.servers
      { state with
        servers := result.1
        jobs := state.jobs.map fun other =>
          if other.databaseId = databaseId then
            { other with outcome := some result.2 }
          else other }

def report (store : SecretStore) (databaseId : ℕ)
    (payload : DatabaseAgentStatus) : HostedDatabases :=
  match state.job? databaseId with
  | none => state
  | some job =>
    { state.accepted (reportDatabaseOperation store state.tables
        job.work.nodeId databaseId (job.report payload)) with
      jobs := state.withoutJob databaseId }

def perform (store : SecretStore) : DatabaseMove → HostedDatabases
  | .create request => state.accepted (createHostingDatabase store state.tables request)
  | .provision request => state.accepted (provisionProject store state.tables request)
  | .rotate tenantId databaseId password =>
    state.accepted (withDatabase state.tables tenantId databaseId
      (rotateDatabasePassword store password))
  | .suspend tenantId databaseId =>
    state.accepted (withDatabase state.tables tenantId databaseId suspendDatabase)
  | .resume tenantId databaseId =>
    state.accepted (withDatabase state.tables tenantId databaseId resumeDatabase)
  | .delete tenantId databaseId =>
    state.accepted (withDatabase state.tables tenantId databaseId deleteHostingDatabase)
  | .claim nodeId locked => state.claim store nodeId locked
  | .execute databaseId statements => state.execute databaseId statements
  | .report databaseId payload => state.report store databaseId payload
  | .lose databaseId => { state with jobs := state.withoutJob databaseId }

/-- No database yet; other parts have set variables of their own. -/
def fresh (environment : List EnvironmentVariable) : HostedDatabases where
  tables :=
    { nextId := 0
      databases := []
      environment := environment }
  servers :=
    { stored := []
      logins := [] }
  jobs := []

end HostedDatabases

end Ithute
