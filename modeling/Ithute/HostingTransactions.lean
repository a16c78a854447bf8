import Ithute.HostingFailoverSafety
import Ithute.HostingRollouts

/-!
# Transactions on a hosted project

Customers, builders, agents, operators and failover work on a project at the
same time.  A request for a deployment and a relocation lock the row of the
project from their first read to their commit, and a claim locks its
deployment.  A build that has succeeded and a pass of failover lock neither.

Each query sees what is committed when it runs.  A row that has been loaded
keeps its values for the rest of the transaction, and a commit writes the
columns that differ from those that were loaded.  A pass is followed project
by project.  Placement locks the nodes as well, which rules out some of the
orders that are possible here.
-/

namespace Ithute

/-- What a column holds after an `UPDATE` of the columns that were changed. -/
def rewritten {Value : Type} [DecidableEq Value] (loaded current stored : Value) : Value :=
  if current = loaded then stored else current

structure ProjectEdit where
  loaded : HostingProject
  current : HostingProject

def ProjectEdit.apply (edit : ProjectEdit) (stored : HostingProject) : HostingProject :=
  { stored with
    nodeId := rewritten edit.loaded.nodeId edit.current.nodeId stored.nodeId
    imageRef := rewritten edit.loaded.imageRef edit.current.imageRef stored.imageRef
    status := rewritten edit.loaded.status edit.current.status stored.status }

/-- An attempt that a transaction has created or loaded. -/
inductive AttemptEdit where
  | created (row : HostingFailoverAttempt)
  | loaded (before row : HostingFailoverAttempt)

namespace AttemptEdit

def current : AttemptEdit → HostingFailoverAttempt
  | .created row => row
  | .loaded _ row => row

def set (row : HostingFailoverAttempt) : AttemptEdit → AttemptEdit
  | .created _ => .created row
  | .loaded before _ => .loaded before row

def update (loaded current stored : HostingFailoverAttempt) : HostingFailoverAttempt :=
  { stored with
    targetNodeId := rewritten loaded.targetNodeId current.targetNodeId stored.targetNodeId
    deploymentId := rewritten loaded.deploymentId current.deploymentId stored.deploymentId
    status := rewritten loaded.status current.status stored.status
    reason := rewritten loaded.reason current.reason stored.reason
    edgeStatus := rewritten loaded.edgeStatus current.edgeStatus stored.edgeStatus
    startedAt := rewritten loaded.startedAt current.startedAt stored.startedAt
    completedAt := rewritten loaded.completedAt current.completedAt stored.completedAt }

def write (attempts : List HostingFailoverAttempt) :
    Option AttemptEdit → List HostingFailoverAttempt
  | none => attempts
  | some (.created row) => attempts ++ [row]
  | some (.loaded before row) =>
    attempts.map fun stored => if stored.id = before.id then update before row stored else stored

end AttemptEdit

structure HostingSession where
  projectId : ℕ
  /-- The transaction holds the row of the project. -/
  locked : Bool := false
  project : Option ProjectEdit := none
  /-- The attempt that a relocation supersedes, and what it becomes. -/
  superseded : Option (HostingFailoverAttempt × HostingFailoverAttempt) := none
  attempt : Option AttemptEdit := none
  deployment : Option HostingDeployment := none
  retirement : Option RetireOperation := none
  /-- A deployment that the transaction holds, as it is to be written. -/
  claimed : Option HostingDeployment := none
  /-- The agent gets the deployment to run. -/
  handsOut : Bool := false

namespace HostingSession

variable (session : HostingSession) (tables : HostingWorld)

def duplicates : Bool :=
  (session.deployment.any fun added =>
    tables.deployments.any fun row =>
      row.id = added.id ∨ (row.projectId = added.projectId ∧
          row.releaseNumber = added.releaseNumber)) ||
  (session.attempt.any fun edit =>
    match edit with
    | .created added => tables.attempts.any fun row => row.id = added.id
    | .loaded _ _ => false) ||
  (session.retirement.any fun added => tables.retirements.any fun row => row.id = added.id)

def writesProject : Bool :=
  session.project.any fun edit =>
    edit.current.nodeId ≠ edit.loaded.nodeId ∨ edit.current.imageRef ≠ edit.loaded.imageRef ∨
        edit.current.status ≠ edit.loaded.status

def writeProjects : List HostingProject :=
  match session.project with
  | none => tables.projects
  | some edit =>
    tables.projects.map fun row => if row.id = session.projectId then edit.apply row else row

def settleClaim : List HostingDeployment :=
  match session.claimed with
  | none => tables.deployments
  | some claimed => (tables.saveDeployment claimed).deployments

def writeDeployments : List HostingDeployment :=
  session.settleClaim tables ++ session.deployment.toList

def supersede : List HostingFailoverAttempt :=
  AttemptEdit.write tables.attempts (session.superseded.map fun edit => .loaded edit.1 edit.2)

def writeAttempts : List HostingFailoverAttempt :=
  AttemptEdit.write (session.supersede tables) session.attempt

def write : HostingWorld :=
  { tables with
    projects := session.writeProjects tables
    deployments := session.writeDeployments tables
    attempts := session.writeAttempts tables
    retirements := tables.retirements ++ session.retirement.toList }.flush

end HostingSession

/-- A new image, or the one of an earlier deployment. -/
inductive DeploymentRequest where
  | release (imageRef imageDigest : String) (sourceCommit : Option String)
  | rollback (deploymentId : ℕ)

structure Release where
  imageRef : String
  imageDigest : String
  sourceCommit : Option String
  previousDeploymentId : Option ℕ

namespace HostingWorld

variable (world : HostingWorld)

def releaseFor (projectId : ℕ) : DeploymentRequest → Except String Release
  | .release imageRef imageDigest sourceCommit =>
    .ok
      { imageRef := imageRef
        imageDigest := imageDigest
        sourceCommit := sourceCommit
        previousDeploymentId :=
          (world.lastHealthy projectId).map HostingDeployment.id }
  | .rollback deploymentId =>
    match world.deployments.find? fun deployment =>
        deployment.id = deploymentId ∧ deployment.projectId = projectId ∧
          deployment.status = .healthy with
    | none =>
      .error
        "Rollback target must be a healthy deployment from this project"
    | some target =>
      .ok
        { imageRef := target.imageRef
          imageDigest := target.imageDigest
          sourceCommit := target.sourceCommit
          previousDeploymentId :=
            (world.lastHealthy projectId).map HostingDeployment.id }

/-- The checks that come before a deployment is numbered; they give its
node. -/
def checkDeployment (project : HostingProject) : Except String ℕ :=
  match project.nodeId with
  | none => .error "Project is not assigned to a hosting node"
  | some nodeId =>
    if project.status = .suspended then
      .error "Resume the project before requesting a deployment"
    else if (world.activeDeployment project.id).isSome then
      .error "This project already has a deployment in progress"
    else if (world.node? nodeId).any HostingNodeRow.hasAgent then .ok nodeId
    else
      .error "The assigned hosting node does not have an agent credential yet"

def numberedDeployment (project : HostingProject) (nodeId : ℕ)
    (release : Release) (now : ℤ) : HostingDeployment where
  id := world.nextId
  projectId := project.id
  nodeId := some nodeId
  previousDeploymentId := release.previousDeploymentId
  releaseNumber := world.nextReleaseNumber project.id
  imageRef := release.imageRef
  imageDigest := release.imageDigest
  sourceCommit := release.sourceCommit
  createdAt := now

end HostingWorld

section Relocations

variable (services : HostingServices)

/-- The end of `_queue_replacement`, once no deployment is in progress. -/
def placeReplacement (relocation : Relocation) (now : ℤ)
    (preferredTargetNodeId : Option ℕ) : Relocation :=
  let world := relocation.world
  let attempt := relocation.attempt
  match world.lastHealthy relocation.project.id with
  | none =>
    relocation.settle { attempt with
        status := .recoveryRequired
        reason := some "No previously healthy immutable deployment is available for relocation." }
  | some previous =>
    match eligibleTarget services world relocation.project
        attempt.sourceNodeId preferredTargetNodeId with
    | .error error => relocation.settle { attempt with reason := some error }
    | .ok target =>
      if (world.node? target).any HostingNodeRow.hasAgent then
        relocation.deploy (replacementDeployment relocation previous target now) target
      else
        relocation.settle { attempt with
            reason := some "Selected replacement node has no hosting agent credential." }

def heldBack (attempt : HostingFailoverAttempt) : HostingFailoverAttempt :=
  { attempt with
    reason := some "Waiting for the project's current deployment operation to finish." }

def supersededAttempt (attempt : HostingFailoverAttempt) (now : ℤ) : HostingFailoverAttempt :=
  { attempt with
    status := .superseded
    completedAt := some now
    reason := some "Superseded by an explicit stateless relocation request." }

/-- The checks of a relocation on request, with the attempt it supersedes and
the one it begins. -/
def openRelocation (world : HostingWorld) (project : HostingProject) (reason : String) (now : ℤ) :
    Except String (Option (HostingFailoverAttempt × HostingFailoverAttempt) ×
        HostingFailoverAttempt) :=
  match project.nodeId with
  | none => .error "Project is not assigned to a hosting node"
  | some nodeId =>
    if project.failoverPolicy ≠ .statelessAuto then
      .error "Project must explicitly use stateless_auto before it can be relocated"
    else if project.status = .suspended then
      .error "Suspended projects cannot be relocated"
    else
      match supersedeRecovery world project nodeId now with
      | .error error => .error error
      | .ok cleared =>
        if (cleared.managedDatabaseDependency project).isSome then
          .error "Project has an Ithute-managed database and cannot use application-only relocation until database failover is available"
        else if (cleared.lastHealthy project.id).isNone then
          .error "Project has no healthy immutable deployment to relocate"
        else
          .ok (((world.attempt project.id nodeId).map fun existing =>
              (existing, supersededAttempt existing now)),
            (cleared.createAttempt project nodeId .pending (some reason) (some now) now).2)

end Relocations

inductive HostingCall where
  /-- A request for a deployment has loaded its project. -/
  | deploying (locked : Bool) (project : HostingProject) (request : DeploymentRequest) (now : ℤ)
  /-- The request has passed its checks. -/
  | numbering (locked : Bool) (project : HostingProject) (nodeId : ℕ) (release : Release) (now : ℤ)
  /-- A relocation has loaded its project. -/
  | relocating (project : HostingProject)
      (preferredTargetNodeId : Option ℕ) (reason : String) (now : ℤ)
  /-- A pass has loaded a project of a failed node. -/
  | visiting (project : HostingProject) (sourceNodeId : ℕ) (now : ℤ)
  /-- A pending attempt has not yet asked for the deployment in progress. -/
  | waiting (session : HostingSession) (project : HostingProject)
      (attempt : AttemptEdit) (preferredTargetNodeId : Option ℕ) (now : ℤ)
  /-- It has found none in progress. -/
  | placing (session : HostingSession) (project : HostingProject)
      (attempt : AttemptEdit) (preferredTargetNodeId : Option ℕ) (now : ℤ)
  /-- A pass goes on with a staged attempt. -/
  | continuing (attempt : HostingFailoverAttempt) (now : ℤ)
  | finalizing (session : HostingSession) (project : HostingProject)
      (attempt : AttemptEdit) (now : ℤ)
  | committing (session : HostingSession)
  /-- A node claims a retire operation, or has it refused. -/
  | retiring (operation : RetireOperation) (refused : Bool)

namespace HostingCall

def lockedProject : HostingCall → Option ℕ
  | .deploying locked project _ _ | .numbering locked project _ _ _ =>
    if locked then some project.id else none
  | .relocating project _ _ _ => some project.id
  | .waiting session .. | .placing session .. | .finalizing session ..
  | .committing session => if session.locked then some session.projectId else none
  | .visiting .. | .continuing .. | .retiring .. => none

def lockedDeployment : HostingCall → Option ℕ
  | .committing session => session.claimed.map HostingDeployment.id
  | _ => none

def lockedOperation : HostingCall → Option ℕ
  | .retiring operation _ => some operation.id
  | _ => none

end HostingCall

def HostingSession.opened (project : HostingProject) (locked : Bool) : HostingSession where
  projectId := project.id
  locked := locked
  project := some { loaded := project, current := project }

namespace HostingSession

variable (session : HostingSession)

def setProject (project : HostingProject) : HostingSession :=
  { session with
    project := session.project.map fun edit => { edit with current := project } }

def keepAttempt (attempt : AttemptEdit) : HostingSession := { session with attempt := some attempt }

end HostingSession

def HostingSession.finish (session : HostingSession) (tables : HostingWorld)
    (attempt : AttemptEdit) (relocation : Relocation) : HostingSession :=
  { (session.setProject relocation.project).keepAttempt (attempt.set relocation.attempt) with
    deployment := (HostingWorld.newDeployments tables relocation.world).head?
    retirement := (relocation.world.retirements.drop tables.retirements.length).head? }

section Steps

variable (services : HostingServices) (tables : HostingWorld)

def HostingCall.forAttempt (session : HostingSession)
    (project : HostingProject) (attempt : AttemptEdit) (now : ℤ) : HostingCall :=
  match attempt.current.status with
  | .pending => .waiting session project attempt none now
  | .deploying | .edgePending => .finalizing session project attempt now
  | _ => .committing (session.keepAttempt attempt)

def HostingCall.next : HostingCall → Except String HostingCall
  | .deploying locked project request now => do
      let release ← tables.releaseFor project.id request
      let nodeId ← tables.checkDeployment project
      return .numbering locked project nodeId release now
  | .numbering locked project nodeId release now =>
    .ok (.committing
      { (HostingSession.opened project locked).setProject
          { project with status := .deploying } with
        deployment :=
          some (tables.numberedDeployment project nodeId release now) })
  | .relocating project preferred reason now => do
      let (superseded, attempt) ← openRelocation tables project reason now
      return .waiting
        { HostingSession.opened project true with superseded := superseded }
        project (.created attempt) preferred now
  | .visiting project sourceNodeId now =>
    let prepared := prepareAttempt tables project sourceNodeId now
    .ok (.forAttempt (.opened project false) project
      (if (tables.attempt project.id sourceNodeId).isSome then
        .loaded prepared.2 prepared.2
      else .created prepared.2) now)
  | .waiting session project attempt preferred now =>
    if (tables.activeDeployment project.id).isSome then
      if session.locked then
        .error "Waiting for the project's current deployment operation to finish."
      else
        .ok (.committing
          (session.keepAttempt (attempt.set (heldBack attempt.current))))
    else .ok (.placing session project attempt preferred now)
  | .placing session project attempt preferred now =>
    let placed := placeReplacement services
      ⟨tables, attempt.current, project⟩ now preferred
    if session.locked ∧ placed.attempt.deploymentId.isNone then
      .error ((presentText placed.attempt.reason).getD
        "Replacement deployment could not be queued")
    else
      -- a replacement that was just queued is not finalised
      .ok (.committing (session.finish tables attempt placed))
  | .continuing attempt now =>
    match tables.project? attempt.projectId with
    | none =>
      .ok (.committing
        { projectId := attempt.projectId
          attempt := some (.loaded attempt
            { attempt with
              status := .failed
              reason := some "Hosted project no longer exists."
              completedAt := some now }) })
    | some project =>
      if project.nodeId = attempt.targetNodeId then
        .ok (.committing (.opened project false))
      else
        .ok (.finalizing (.opened project false) project
          (.loaded attempt attempt) now)
  | .finalizing session project attempt now =>
    .ok (.committing (session.finish tables attempt
      (finalizeAttempt services ⟨tables, attempt.current, project⟩ now)))
  | .committing session => .ok (.committing session)
  | .retiring operation refused => .ok (.retiring operation refused)

end Steps

structure HostingState where
  tables : HostingWorld
  calls : List HostingCall := []
  /-- The retire operations that agents carry out. -/
  claimedOperations : List ℕ := []
  /-- The deployments that agents were given, kept beside the tables. -/
  handedOut : List HostingDeployment := []

inductive HostingMove where
  | deploy (projectId : ℕ) (request : DeploymentRequest) (now : ℤ)
  | finishBuild (projectId : ℕ) (request : DeploymentRequest) (now : ℤ)
  | relocate (projectId : ℕ) (preferredTargetNodeId : Option ℕ) (reason : String) (now : ℤ)
  | visit (sourceNodeId projectId : ℕ) (now limit : ℤ)
  | resolve (attemptId : ℕ) (now : ℤ)
  | goOn (attemptId : ℕ) (now : ℤ)
  | claim (nodeId : ℕ) (environment : Except String (List (String × String)))
  | claimOperation (nodeId operationId : ℕ)
  | advance (index : ℕ)
  | crash (index : ℕ)
  | report (nodeId deploymentId : ℕ) (payload : AgentStatusUpdate)
  | reportOperation (nodeId operationId : ℕ)
  | suspend (projectId : ℕ)
  | resume (projectId : ℕ)
  | setPolicy (projectId : ℕ) (policy : FailoverPolicy)
      (confirmLocalDataDisposable : Bool) (now : ℤ)
  | setNode (row : HostingNodeRow)
  | attachDatabase (projectId : ℕ) (engine : String) (now : ℤ)
  | setDatabaseStatus (databaseId : ℕ) (status : HostingDatabaseStatus)

namespace HostingState

variable (state : HostingState)

def projectFree (projectId : ℕ) : Bool :=
  projectId ∉ state.calls.filterMap HostingCall.lockedProject

def deploymentFree (deploymentId : ℕ) : Bool :=
  deploymentId ∉ state.calls.filterMap HostingCall.lockedDeployment

def operationFree (operationId : ℕ) : Bool :=
  operationId ∉ state.calls.filterMap HostingCall.lockedOperation

def start (call : HostingCall) : HostingState := { state with calls := state.calls ++ [call] }

/-- A transaction that first loads a project, once it may lock the row. -/
def startOn (projectId : ℕ) (locks : Bool) (call : HostingProject → HostingCall) : HostingState :=
  match state.tables.project? projectId with
  | none => state
  | some project =>
    if locks ∧ ¬ state.projectFree projectId then state
    else state.start (call project)

/-- A write of committed tables, once the row of the project is free. -/
def write (projectId : ℕ) (write : HostingWorld → HostingWorld) : HostingState :=
  if state.projectFree projectId then
    { state with tables := write state.tables }
  else state

def visited (failoverAfterSeconds : ℤ) (sourceNodeId projectId : ℕ)
    (now limit : ℤ) : Option HostingProject :=
  if (state.tables.unhealthyNodes (now - max failoverAfterSeconds 60 * 10 ^ 6)
        limit).any fun row => row.id = sourceNodeId then
    match state.tables.node? sourceNodeId with
    | none => none
    | some source =>
      if source.hosted.node.status ≠ .draining ∨ source.hosted.node.acceptsNewProjects then none
      else
        (state.tables.projectsOn sourceNodeId).find? fun project => project.id = projectId
  else none

/-- The claim of a deployment, from its read of the project to its commit. -/
def claimSession (deployment : HostingDeployment)
    (environment : Except String (List (String × String))) : HostingSession :=
  match state.tables.project? deployment.projectId with
  | none =>
    { projectId := deployment.projectId
      claimed := some { deployment with
          status := .failed
          failureMessage := some "Project is unavailable or suspended" } }
  | some project =>
    let opened := HostingSession.opened project false
    if project.status = .suspended then
      { opened with
        claimed := some { deployment with
            status := .failed
            failureMessage := some "Project is unavailable or suspended" } }
    else
      match environment with
      | .error _ =>
        { opened.setProject { project with status := .failed } with
          claimed := some { deployment with
              status := .failed
              failureMessage := some "Project environment could not be decrypted" } }
      | .ok _ =>
        { opened.setProject { project with status := .deploying } with
          claimed := some { deployment with status := .claimed }
          handsOut := true }

/-- Queries compare times by the computable order. -/
local instance (priority := high) sessionTimeOrder : Preorder ℤ :=
  Int.instLinearOrder.toPartialOrder.toPreorder

/-- The oldest deployment that waits for a node and that no claim holds. -/
def unclaimedDeployment (nodeId : ℕ) : Option HostingDeployment :=
  (state.tables.deployments.filter fun deployment =>
    deployment.nodeId = some nodeId ∧ deployment.status = .queued ∧
      state.deploymentFree deployment.id).argmin HostingDeployment.createdAt

def beginClaim (nodeId : ℕ) (environment : Except String (List (String × String))) : HostingState :=
  match state.tables.agentNode nodeId, state.unclaimedDeployment nodeId with
  | .ok _, some deployment => state.start (.committing (state.claimSession deployment environment))
  | _, _ => state

/-- A queued retire operation that the scheduler admits.  The claim is
refused on the node of the project. -/
def beginClaimOperation (nodeId operationId : ℕ) : HostingState :=
  match state.tables.retirements.find? fun operation =>
      operation.id = operationId ∧ operation.nodeId = nodeId ∧
        operation.active ∧ operationId ∉ state.claimedOperations ∧
          state.operationFree operationId with
  | none => state
  | some operation =>
    state.start (.retiring operation ((state.tables.project? operation.projectId).all fun project =>
        project.nodeId = some nodeId))

def closeOperation (operationId : ℕ) : HostingState :=
  { state with
    tables :=
      { state.tables with
        retirements := state.tables.retirements.map fun row =>
          if row.id = operationId then { row with active := false } else row }
    claimedOperations := state.claimedOperations.filter fun id => id ≠ operationId }

def beginResolve (attemptId : ℕ) (now : ℤ) : HostingState :=
  match state.tables.attempt? attemptId with
  | none => state
  | some attempt =>
    if (attempt.status = .pending ∨ attempt.status = .recoveryRequired) ∧
        attempt.deploymentId = none ∧ (state.tables.node? attempt.sourceNodeId).any
          HostingNodeRow.drained = false then
      state.start (.committing
        { projectId := attempt.projectId
          attempt := some (.loaded attempt
            { attempt with
              status := .resolvedBySourceRecovery
              reason := some
                "Source node recovered before a replacement deployment was staged."
              completedAt := some now }) })
    else state

def beginGoOn (attemptId : ℕ) (now : ℤ) : HostingState :=
  match state.tables.attempt? attemptId with
  | none => state
  | some attempt =>
    if attempt.status = .deploying ∨ attempt.status = .edgePending then
      state.start (.continuing attempt now)
    else state

def replaceCall (index : ℕ) (following : Option HostingCall) : HostingState :=
  { state with calls := state.calls.eraseIdx index ++ following.toList }

def commit (index : ℕ) (session : HostingSession) : HostingState :=
  if session.writesProject ∧ session.locked = false ∧
      ¬ state.projectFree session.projectId then state
  else if session.duplicates state.tables then state.replaceCall index none
  else
    { state.replaceCall index none with
      tables := session.write state.tables
      handedOut := state.handedOut ++ (if session.handsOut then session.claimed.toList else []) }

/-- One more transaction step; every step may use up an identifier. -/
def advance (services : HostingServices) (index : ℕ) : HostingState :=
  match state.calls[index]? with
  | none => state
  | some (.committing session) => state.commit index session
  | some (.retiring operation refused) =>
    let ended := state.replaceCall index none
    if refused then ended.closeOperation operation.id
    else
      { ended with
        claimedOperations := ended.claimedOperations ++ [operation.id] }
  | some call =>
    match call.next services state.tables with
    | .error _ => state.replaceCall index none
    | .ok following =>
      { state.replaceCall index (some following) with
        tables := { state.tables with nextId := state.tables.nextId + 1 } }

def setStatus (projectId : ℕ) (status : HostingProjectStatus) : HostingState :=
  state.write projectId fun tables => tables.setProjectStatus projectId status

/-- A report waits for the rows of its deployment and its project. -/
def report (validateTrustedOrigin : String → OriginCheck)
    (nodeId deploymentId : ℕ) (payload : AgentStatusUpdate) : HostingState :=
  match state.tables.reported nodeId deploymentId with
  | .error _ => state
  | .ok (deployment, project) =>
    if state.deploymentFree deployment.id then
      state.write project.id fun tables =>
        (tables.reportDeploymentStatus validateTrustedOrigin nodeId deploymentId payload).1
    else state

def reportOperation (nodeId operationId : ℕ) : HostingState :=
  if operationId ∈ state.claimedOperations ∧ state.tables.retirements.any fun row =>
        row.id = operationId ∧ row.nodeId = nodeId then
    state.closeOperation operationId
  else state

def perform (services : HostingServices) (validateTrustedOrigin : String → OriginCheck)
    (failoverAfterSeconds : ℤ) : HostingMove → HostingState
  | .deploy projectId request now =>
    state.startOn projectId true fun project => .deploying true project request now
  | .finishBuild projectId request now =>
    state.startOn projectId false fun project => .deploying false project request now
  | .relocate projectId preferred reason now =>
    state.startOn projectId true fun project => .relocating project preferred reason now
  | .visit sourceNodeId projectId now limit =>
    match state.visited failoverAfterSeconds sourceNodeId projectId now limit with
    | none => state
    | some project => state.start (.visiting project sourceNodeId now)
  | .resolve attemptId now => state.beginResolve attemptId now
  | .goOn attemptId now => state.beginGoOn attemptId now
  | .claim nodeId environment => state.beginClaim nodeId environment
  | .claimOperation nodeId operationId => state.beginClaimOperation nodeId operationId
  | .advance index => state.advance services index
  | .crash index => state.replaceCall index none
  | .report nodeId deploymentId payload =>
    state.report validateTrustedOrigin nodeId deploymentId payload
  | .reportOperation nodeId operationId => state.reportOperation nodeId operationId
  | .suspend projectId => state.setStatus projectId .suspended
  | .resume projectId => state.setStatus projectId .configured
  | .setPolicy projectId policy confirmed now =>
    state.write projectId fun tables =>
      tables.orUnchanged (updateProjectFailoverPolicy tables projectId policy confirmed now)
  | .setNode row => { state with tables := state.tables.setNode row }
  | .attachDatabase projectId engine now =>
    { state with tables := state.tables.attachDatabase projectId engine now }
  | .setDatabaseStatus databaseId status =>
    { state with
      tables := state.tables.setDatabaseStatus databaseId status }

end HostingState

end Ithute
