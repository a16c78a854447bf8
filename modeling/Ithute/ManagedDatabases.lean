import Ithute.HostingFailover

/-!
# Managed databases

A tenant asks for a database, alone or with the provisioning of a project,
and a node agent creates it.  The control plane keeps a row for every
database, with the operation that is queued on it, and writes the
`DATABASE_` variables of the project.

Requests carry what they have read of other tables: the row of the project,
the allowance of the tenant and the answer of placement.  Times at which an
operation was claimed or completed are left out, since nothing reads them.
-/

namespace Ithute

inductive DatabaseEngine where
  | postgresql | mysql
  deriving DecidableEq

def DatabaseEngine.name : DatabaseEngine → String
  | .postgresql => "postgresql"
  | .mysql => "mysql"

def DatabaseEngine.port : DatabaseEngine → ℕ
  | .postgresql => 5432
  | .mysql => 3306

inductive DatabaseOperation where
  | none | provision | rotate | suspend | resume | delete
  deriving DecidableEq

structure ManagedDatabase where
  id : ℕ
  tenantId : ℕ
  projectId : Option ℕ
  nodeId : ℕ
  engine : DatabaseEngine
  engineVersion : Option String := none
  databaseName : String
  username : String
  encryptedPassword : String
  pendingEncryptedPassword : Option String := none
  internalHost : Option String := none
  internalPort : ℕ
  storageMb : ℕ
  status : HostingDatabaseStatus := .queued
  operation : DatabaseOperation := .provision
  failureMessage : Option String := none
  createdAt : ℤ

structure EnvironmentVariable where
  projectId : ℕ
  key : String
  encryptedValue : String
  isSecret : Bool

structure DatabaseTables where
  nextId : ℕ
  databases : List ManagedDatabase
  environment : List EnvironmentVariable

structure ProjectHome where
  id : ℕ
  tenantId : ℕ
  nodeId : Option ℕ
  slug : String
  suspended : Bool

structure SecretStore where
  encryptSecret : String → String
  decryptSecret : String → Option String
  decrypt_encrypt : ∀ secret, decryptSecret (encryptSecret secret) = some secret
  encrypt_ne_empty : ∀ secret, encryptSecret secret ≠ ""

def databaseLetter (letter : Char) : Bool := letter.isLower || letter.isDigit || letter = '_'

/-- `re.sub(r"[^a-z0-9_]+", "_", text)`. -/
def underscored : List Char → List Char
  | [] => []
  | letter :: rest =>
    if databaseLetter letter then letter :: underscored rest
    else
      match rest with
      | [] => ['_']
      | next :: _ =>
        if databaseLetter next then '_' :: underscored rest
        else underscored rest

def safeDbName (value : String) : Except String String :=
  let lowered := (stripText value).toList.flatMap lowerLetter
  let stripped := ((underscored lowered).dropWhile (· = '_')).rdropWhile (· = '_')
  let name := stripped.take 48
  if 2 ≤ name.length ∧ name.head?.any Char.isLower then
    .ok (String.ofList name)
  else
    .error "Database name must begin with a letter and contain only lowercase letters, numbers and underscores"

def databaseUsername (databaseName suffix : String) : String :=
  String.ofList (("ith_" ++ String.ofList (databaseName.toList.take 32) ++
    "_" ++ suffix).toList.take 63)

def EnvironmentVariable.isFor (row : EnvironmentVariable) (projectId : ℕ) (key : String) : Bool :=
  row.projectId = projectId && row.key = key

/-- `str.upper`, where it gives ASCII letters. -/
def upperLetter (letter : Char) : List Char :=
  if letter = '\u00DF' then ['S', 'S']
  else if letter = '\u0131' then ['I']
  else if letter = '\u017F' then ['S']
  else if letter = '\uFB00' then ['F', 'F']
  else if letter = '\uFB01' then ['F', 'I']
  else if letter = '\uFB02' then ['F', 'L']
  else if letter = '\uFB03' then ['F', 'F', 'I']
  else if letter = '\uFB04' then ['F', 'F', 'L']
  else if letter = '\uFB05' then ['S', 'T']
  else if letter = '\uFB06' then ['S', 'T']
  else [letter.toUpper]

def environmentKey (key : String) : Option String :=
  let normalized := (stripText key).toList.flatMap upperLetter
  if normalized.head?.any (fun first => first.isUpper || first = '_') ∧ normalized.length ≤ 128 ∧
      normalized.all (fun letter =>
        letter.isUpper || letter.isDigit || letter = '_') then
    some (String.ofList normalized)
  else none

/-- Writes one variable; the session has not flushed what it added. -/
def setVariable (flushed current : List EnvironmentVariable)
    (projectId : ℕ) (key encrypted : String) (secret : Bool) : List EnvironmentVariable :=
  if flushed.any fun row => row.isFor projectId key then
    current.map fun row =>
      if row.isFor projectId key then
        { row with encryptedValue := encrypted, isSecret := secret }
      else row
  else
    current ++
      [{ projectId := projectId
         key := key
         encryptedValue := encrypted
         isSecret := secret }]

def flushEnvironment (rows : List EnvironmentVariable) : Except String (List EnvironmentVariable) :=
  if (rows.map fun row => (row.projectId, row.key)).Nodup then .ok rows
  else .error "duplicate key value violates uq_hosting_env_project_key"

section Requests

variable (store : SecretStore)

def upsertEnv (flushed : List EnvironmentVariable) (projectId : ℕ)
    (current : List EnvironmentVariable) (key value : String)
    (secret : Bool) : Except String (List EnvironmentVariable) :=
  match environmentKey key with
  | none => .error ("Invalid environment key: " ++ key)
  | some normalized =>
    if 10000 < value.length then
      .error ("Environment value for " ++ normalized ++ " is too large")
    else
      .ok (setVariable flushed current projectId normalized (store.encryptSecret value) secret)

def upsertAll (flushed : List EnvironmentVariable) (projectId : ℕ) :
    List (String × String × Bool) → List EnvironmentVariable →
      Except String (List EnvironmentVariable)
  | [], current => .ok current
  | (key, value, secret) :: rest, current =>
    match upsertEnv store flushed projectId current key value secret with
    | .error error => .error error
    | .ok next => upsertAll flushed projectId rest next

def writeVariables (flushed : List EnvironmentVariable) (projectId : ℕ)
    (entries : List (String × String × Bool))
    (current : List EnvironmentVariable) : List EnvironmentVariable :=
  entries.foldl (fun current entry =>
    setVariable flushed current projectId entry.1 (store.encryptSecret entry.2.1) entry.2.2) current

namespace DatabaseTables

variable (tables : DatabaseTables)

def database? (id : ℕ) : Option ManagedDatabase := tables.databases.find? fun row => row.id = id

def save (row : ManagedDatabase) : DatabaseTables :=
  { tables with
    databases := tables.databases.map fun stored => if stored.id = row.id then row else stored }

/-- The constraints on the names of databases and of their users. -/
def insert (row : ManagedDatabase) : Except String DatabaseTables :=
  if tables.databases.any fun stored =>
      stored.tenantId = row.tenantId && stored.engine = row.engine &&
        stored.databaseName = row.databaseName then
    .error "duplicate key value violates uq_hosting_database_tenant_engine_name"
  else if tables.databases.any fun stored => stored.username = row.username then
    .error "duplicate key value violates uq_hosting_database_username"
  else
    .ok { tables with
      nextId := tables.nextId + 1
      databases := tables.databases ++ [row] }

end DatabaseTables

theorem usualStorage_bounds : 128 ≤ 1024 ∧ 1024 ≤ 102400 := by decide

structure HostingDatabaseCreate where
  tenantId : ℕ
  project : Option ProjectHome
  engine : DatabaseEngine
  name : String
  storageMb : ℕ := 1024
  engineVersion : Option String := none
  nodeId : Option ℕ := none
  platformOwner : Bool := false
  /-- Why the allowance of the tenant does not cover the request. -/
  overAllowance : Option String := none
  /-- The node that placement selects, given the preferred one. -/
  selectNode : Option ℕ → Except String ℕ
  suffix : String
  password : String
  now : ℤ
  nameLength : 2 ≤ name.length ∧ name.length ≤ 48 := by decide
  storageBounds : 128 ≤ storageMb ∧ storageMb ≤ 102400 := by first | exact usualStorage_bounds | decide

def HostingDatabaseCreate.preferredNode (request : HostingDatabaseCreate) : Option ℕ :=
  match request.project.bind ProjectHome.nodeId with
  | some home => some home
  | none => if request.platformOwner then request.nodeId else none

def createHostingDatabase (tables : DatabaseTables)
    (request : HostingDatabaseCreate) : Except String DatabaseTables :=
  match request.overAllowance with
  | some reason => .error reason
  | none =>
    if request.project.any fun project =>
        project.tenantId ≠ request.tenantId then
      .error "Hosted project not found"
    else if request.nodeId.isSome ∧ request.platformOwner = false then
      .error "Only the platform owner can override automatic database placement"
    else if (request.project.bind ProjectHome.nodeId).any fun home =>
        request.nodeId.any fun wanted => wanted ≠ home then
      .error "A project database must remain on the same hosting node as its application"
    else
      match request.selectNode request.preferredNode with
      | .error error => .error error
      | .ok node =>
        match safeDbName request.name with
        | .error error => .error error
        | .ok databaseName =>
          if tables.databases.any fun stored =>
              stored.tenantId = request.tenantId &&
                stored.engine = request.engine &&
                  stored.databaseName = databaseName then
            .error "A database with this name and engine already exists"
          else
            tables.insert
              { id := tables.nextId
                tenantId := request.tenantId
                projectId := request.project.map ProjectHome.id
                nodeId := node
                engine := request.engine
                engineVersion := request.engineVersion
                databaseName := databaseName
                username := databaseUsername databaseName request.suffix
                encryptedPassword :=
                  store.encryptSecret request.password
                internalPort := request.engine.port
                storageMb := request.storageMb
                createdAt := request.now }

structure ProvisionRequest where
  tenantId : ℕ
  project : ProjectHome
  /-- Where placement puts a project that has no node. -/
  applicationNode : Except String ℕ
  environment : List (String × String) := []
  databaseEngine : Option DatabaseEngine := none
  databaseName : Option String := none
  databaseStorageMb : ℕ := 1024
  overAllowance : Option String := none
  selectNode : ℕ → Except String ℕ
  /-- Why its source, its build or its domain does not allow the request. -/
  held : Option String := none
  suffix : String
  password : String
  now : ℤ
  nameLength : ∀ name ∈ databaseName, name.length ≤ 48 := by decide
  storageBounds : 128 ≤ databaseStorageMb ∧ databaseStorageMb ≤ 102400 := by
    first | exact usualStorage_bounds | decide

/-- The variables that describe a database before its host is known. -/
def provisionedVariables (row : ManagedDatabase) (password : String) :
    List (String × String × Bool) :=
  [("DATABASE_ENGINE", row.engine.name, false), ("DATABASE_NAME", row.databaseName, false),
    ("DATABASE_USER", row.username, true), ("DATABASE_PASSWORD", password, true),
    ("DATABASE_PORT", toString row.internalPort, false)]

/-- The part of a provisioning that asks for a database.  The variables that
the request names itself are flushed with the new row. -/
def provisionDatabase (tables : DatabaseTables) (request : ProvisionRequest)
    (written : List EnvironmentVariable) (home : ℕ)
    (engine : DatabaseEngine) : Except String DatabaseTables :=
  match request.overAllowance with
  | some reason => .error reason
  | none =>
    match safeDbName ((presentText request.databaseName).getD (request.project.slug ++ "_db")) with
    | .error error => .error error
    | .ok databaseName =>
      if tables.databases.any fun stored =>
          stored.tenantId = request.tenantId && stored.engine = engine &&
              stored.databaseName = databaseName then
        .error "A database with this name and engine already exists"
      else
        match request.selectNode home with
        | .error error => .error error
        | .ok node =>
          let row : ManagedDatabase :=
            { id := tables.nextId
              tenantId := request.tenantId
              projectId := some request.project.id
              nodeId := node
              engine := engine
              databaseName := databaseName
              username := databaseUsername databaseName request.suffix
              encryptedPassword := store.encryptSecret request.password
              internalPort := engine.port
              storageMb := request.databaseStorageMb
              createdAt := request.now }
          match tables.insert row, flushEnvironment written with
          | .error error, _ | _, .error error => .error error
          | .ok inserted, .ok flushed =>
            match upsertAll store flushed request.project.id
                (provisionedVariables row request.password) flushed with
            | .error error => .error error
            | .ok environment => .ok { inserted with environment := environment }

def provisionProject (tables : DatabaseTables) (request : ProvisionRequest) :
    Except String DatabaseTables :=
  if request.project.tenantId ≠ request.tenantId then
    .error "Hosted project not found"
  else if request.project.suspended then
    .error "Resume the project before provisioning it"
  else
    match request.project.nodeId.elim request.applicationNode .ok with
    | .error error => .error error
    | .ok home =>
      match upsertAll store tables.environment request.project.id
          (request.environment.map fun entry => (entry.1, entry.2, true)) tables.environment with
      | .error error => .error error
      | .ok written =>
        let provisioned : Except String DatabaseTables :=
          match request.databaseEngine with
          | none => .ok { tables with environment := written }
          | some engine => provisionDatabase store tables request written home engine
        match provisioned, request.held with
        | .error error, _ => .error error
        | .ok _, some reason => .error reason
        | .ok next, none =>
          match flushEnvironment next.environment with
          | .error error => .error error
          | .ok _ => .ok next

def ManagedDatabase.queue (row : ManagedDatabase)
    (operation : DatabaseOperation) : ManagedDatabase :=
  { row with
    operation := operation
    failureMessage := none
    status := if operation = .delete then .deleting else .queued }

def withDatabase (tables : DatabaseTables) (tenantId databaseId : ℕ)
    (request : ManagedDatabase → Except String ManagedDatabase) : Except String DatabaseTables :=
  match (tables.database? databaseId).filter fun row =>
      row.tenantId = tenantId with
  | none => .error "Hosted database not found"
  | some row =>
    match request row with
    | .error error => .error error
    | .ok queued => .ok (tables.save queued)

def rotateDatabasePassword (password : String) (row : ManagedDatabase) :
    Except String ManagedDatabase :=
  if row.status ≠ .ready ∨ row.operation ≠ .none then
    .error "Database password can be rotated only while the database is ready and idle"
  else
    .ok ({ row with
      pendingEncryptedPassword := some (store.encryptSecret password) }.queue .rotate)

def suspendDatabase (row : ManagedDatabase) : Except String ManagedDatabase :=
  if row.status ≠ .ready ∨ row.operation ≠ .none then
    .error "Only a ready idle database can be suspended"
  else .ok (row.queue .suspend)

def resumeDatabase (row : ManagedDatabase) : Except String ManagedDatabase :=
  if row.status ≠ .suspended ∨ row.operation ≠ .none then
    .error "Only a suspended idle database can be resumed"
  else .ok (row.queue .resume)

def deleteHostingDatabase (row : ManagedDatabase) : Except String ManagedDatabase :=
  if row.status = .queued ∨ row.status = .working ∨ row.status = .deleting then
    .error "Database already has an operation in progress"
  else .ok (row.queue .delete)

def ManagedDatabase.fail (row : ManagedDatabase) (message : String) : ManagedDatabase :=
  { row with
    status := .failed
    operation := .none
    failureMessage := some message }

structure DatabaseWork where
  databaseId : ℕ
  tenantId : ℕ
  nodeId : ℕ
  operation : DatabaseOperation
  engine : DatabaseEngine
  databaseName : String
  username : String
  password : String

def ManagedDatabase.work (row : ManagedDatabase) (password : String) : DatabaseWork where
  databaseId := row.id
  tenantId := row.tenantId
  nodeId := row.nodeId
  operation := row.operation
  engine := row.engine
  databaseName := row.databaseName
  username := row.username
  password := password

/-- Queries compare times by the computable order. -/
local instance (priority := high) databaseTimeOrder : Preorder ℤ :=
  Int.instLinearOrder.toPartialOrder.toPreorder

/-- The oldest operation of a node, but for rows that others have locked. -/
def DatabaseTables.claimable (tables : DatabaseTables) (nodeId : ℕ)
    (locked : List ℕ) : Option ManagedDatabase :=
  (tables.databases.filter fun row =>
    row.nodeId = nodeId ∧ row.operation ≠ .none ∧ (row.status = .queued ∨ row.status = .deleting) ∧
        row.id ∉ locked).argmin ManagedDatabase.createdAt

def claimDatabaseOperation (tables : DatabaseTables) (nodeId : ℕ)
    (locked : List ℕ) : DatabaseTables × Option DatabaseWork :=
  match tables.claimable nodeId locked with
  | none => (tables, none)
  | some row =>
    let encrypted :=
      if row.operation = .rotate then
        presentText row.pendingEncryptedPassword
      else some row.encryptedPassword
    match encrypted with
    | none =>
      (tables.save (row.fail "Pending rotation credential is missing"), none)
    | some encrypted =>
      match store.decryptSecret encrypted with
      | none =>
        (tables.save { row.fail "Database credential could not be decrypted" with
            pendingEncryptedPassword := none }, none)
      | some password =>
        (tables.save { row with status := .working }, some (row.work password))

structure DatabaseAgentStatus where
  success : Bool
  host : Option String := none
  port : Option ℕ := none
  engineVersion : Option String := none
  message : Option String := none

def databaseUrl (row : ManagedDatabase) (host password : String) : String :=
  row.engine.name ++ "://" ++ row.username ++ ":" ++ password ++ "@" ++
    host ++ ":" ++ toString row.internalPort ++ "/" ++ row.databaseName

def connectionVariables (row : ManagedDatabase) (host : String)
    (password : Option String) : List (String × String × Bool) :=
  [("DATABASE_HOST", host, false), ("DATABASE_PORT", toString row.internalPort, false),
    ("DATABASE_NAME", row.databaseName, false), ("DATABASE_USER", row.username, true)] ++
  match password with
  | none => []
  | some password =>
    [("DATABASE_PASSWORD", password, true), ("DATABASE_URL", databaseUrl row host password, true)]

/-- The variables of the project follow a database that is ready. -/
def reconcileEnvironment (environment : List EnvironmentVariable)
    (row : ManagedDatabase) : List EnvironmentVariable :=
  match row.projectId, presentText row.internalHost with
  | some projectId, some host =>
    if row.status = .ready then
      writeVariables store environment projectId (connectionVariables row host
          (store.decryptSecret row.encryptedPassword)) environment
    else environment
  | _, _ => environment

def ManagedDatabase.complete (row : ManagedDatabase)
    (payload : DatabaseAgentStatus) : ManagedDatabase :=
  { row with
    internalHost :=
      match presentText payload.host with
      | some host => some host
      | none => row.internalHost
    internalPort := payload.port.getD row.internalPort
    engineVersion :=
      match presentText payload.engineVersion with
      | some version => some version
      | none => row.engineVersion
    status := if row.operation = .suspend then .suspended else .ready
    operation := .none
    failureMessage := none }

def completeOperation (tables : DatabaseTables) (row : ManagedDatabase)
    (payload : DatabaseAgentStatus) : DatabaseTables :=
  let completed := row.complete payload
  { tables.save completed with
    environment := reconcileEnvironment store tables.environment completed }

def reportDatabaseOperation (tables : DatabaseTables)
    (nodeId databaseId : ℕ) (payload : DatabaseAgentStatus) : Except String DatabaseTables :=
  match (tables.database? databaseId).filter fun row =>
      row.nodeId = nodeId with
  | none => .error "Database operation not found for this hosting node"
  | some row =>
    if row.status ≠ .working ∨ row.operation = .none then
      .error "Database does not have a claimed operation"
    else if payload.success = false then
      let message := stripText ((presentText payload.message).getD
        "Hosting node reported database operation failure")
      let failed := row.fail (String.ofList (message.toList.take 2000))
      .ok (tables.save (if row.operation = .rotate then
          { failed with pendingEncryptedPassword := none }
        else failed))
    else if row.operation = .delete then
      .ok { tables with
        databases := tables.databases.filter fun stored => stored.id ≠ row.id }
    else if row.operation = .rotate then
      match row.pendingEncryptedPassword with
      | none =>
        .ok (tables.save (row.fail
          "Hosting node completed rotation but pending credential is missing"))
      | some pending =>
        .ok (completeOperation store tables { row with
            encryptedPassword := pending
            pendingEncryptedPassword := none } payload)
    else .ok (completeOperation store tables row payload)

end Requests

end Ithute
