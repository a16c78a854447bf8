import Ithute.HostingNodeHealth
import Ithute.Library.TransitionRuns
import Ithute.PythonValues
import Mathlib.Data.List.MinMax
import Mathlib.Data.List.Sort

/-!
# Application failover

`run_application_failover_reconcile` moves the projects of a drained node to
another node.  It records an attempt for each project, queues a replacement
deployment that resets the data volume, and cuts over once the replacement
is healthy.

The session does not flush before a query: a query selects rows by their
flushed values and returns them with their current ones.  Identifiers are
numbers that are handed out once.
-/

namespace Ithute

inductive FailoverPolicy where
  | manual | statelessAuto
  deriving DecidableEq

inductive HostingProjectStatus where
  | configured | deploying | running | failed | suspended
  deriving DecidableEq

structure HostingProject where
  id : ℕ
  nodeId : Option ℕ
  storageMb : ℕ
  memoryMb : ℕ
  cpuMillicores : ℕ
  imageRef : Option String
  status : HostingProjectStatus
  failoverPolicy : FailoverPolicy
  createdAt : ℤ
  deriving DecidableEq

inductive HostingDatabaseStatus where
  | queued | working | ready | suspended | deleting | deleted | failed
  deriving DecidableEq

structure HostingDatabase where
  id : ℕ
  projectId : Option ℕ
  engine : String
  status : HostingDatabaseStatus
  createdAt : ℤ

inductive HostingDeploymentStatus where
  | queued | claimed | running | healthy | failed | canceled
  deriving DecidableEq

structure HostingDeployment where
  id : ℕ
  projectId : ℕ
  nodeId : Option ℕ
  previousDeploymentId : Option ℕ
  releaseNumber : ℕ
  imageRef : String
  imageDigest : String
  sourceCommit : Option String
  resetDataVolume : Bool := false
  status : HostingDeploymentStatus := .queued
  failureMessage : Option String := none
  originUrl : Option String := none
  createdAt : ℤ

inductive FailoverAttemptStatus where
  | pending | deploying | edgePending | recoveryRequired | failed
  | completed | superseded | resolvedBySourceRecovery
  deriving DecidableEq

structure HostingFailoverAttempt where
  id : ℕ
  projectId : ℕ
  sourceNodeId : ℕ
  targetNodeId : Option ℕ := none
  deploymentId : Option ℕ := none
  status : FailoverAttemptStatus
  reason : Option String
  edgeStatus : Option String := none
  createdAt : ℤ
  startedAt : Option ℤ := none
  completedAt : Option ℤ := none

/-- A `retire` operation on a node that a project has left. -/
structure RetireOperation where
  id : ℕ
  projectId : ℕ
  nodeId : ℕ
  active : Bool
  createdAt : ℤ

structure HostingNodeRow where
  id : ℕ
  hosted : HostedNode
  hasAgent : Bool

inductive FailoverAudit where
  | replacementQueued (attemptId sourceNodeId targetNodeId deploymentId : ℕ) (releaseNumber : ℕ)
  | failed (attemptId : ℕ) (targetNodeId : Option ℕ) (reason : Option String)
  | completed (attemptId sourceNodeId : ℕ) (targetNodeId : Option ℕ)
      (previousProjectNodeId : Option ℕ) (deploymentId : Option ℕ)
      (edgeStatus : String) (retirementId : ℕ)

/-- The tables that failover reads and writes, rows in order of creation.
Projects and attempts are also kept as last flushed. -/
structure HostingWorld where
  nextId : ℕ
  projects : List HostingProject
  flushedProjects : List HostingProject
  databases : List HostingDatabase
  deployments : List HostingDeployment
  attempts : List HostingFailoverAttempt
  flushedAttempts : List HostingFailoverAttempt
  retirements : List RetireOperation
  nodes : List HostingNodeRow
  audits : List FailoverAudit

/-- Queries compare times by the computable order. -/
local instance (priority := high) timeOrder : Preorder ℤ :=
  Int.instLinearOrder.toPartialOrder.toPreorder

def HostingDeploymentStatus.active : HostingDeploymentStatus → Bool
  | .queued | .claimed | .running => true
  | .healthy | .failed | .canceled => false

def FailoverAttemptStatus.active : FailoverAttemptStatus → Bool
  | .pending | .deploying | .edgePending => true
  | _ => false

def HostingDatabaseStatus.live : HostingDatabaseStatus → Bool
  | .deleting | .deleted | .failed => false
  | _ => true

namespace HostingWorld

variable (world : HostingWorld)

def project? (id : ℕ) : Option HostingProject := world.projects.find? fun project => project.id = id

def attempt? (id : ℕ) : Option HostingFailoverAttempt :=
  world.attempts.find? fun attempt => attempt.id = id

def deployment? (id : ℕ) : Option HostingDeployment :=
  world.deployments.find? fun deployment => deployment.id = id

def node? (id : ℕ) : Option HostingNodeRow := world.nodes.find? fun row => row.id = id

def lastHealthy (projectId : ℕ) : Option HostingDeployment :=
  (world.deployments.filter fun deployment =>
    deployment.projectId = projectId ∧ deployment.status = .healthy).argmax
      HostingDeployment.releaseNumber

def activeDeployment (projectId : ℕ) : Option HostingDeployment :=
  (world.deployments.filter fun deployment =>
    deployment.projectId = projectId ∧ deployment.status.active).argmax HostingDeployment.createdAt

def attempt (projectId sourceNodeId : ℕ) : Option HostingFailoverAttempt :=
  ((world.flushedAttempts.filter fun attempt =>
    attempt.projectId = projectId ∧ attempt.sourceNodeId = sourceNodeId ∧
      (attempt.status.active ∨ attempt.status = .recoveryRequired ∨
        attempt.status = .failed)).argmax HostingFailoverAttempt.createdAt).bind
    fun attempt => world.attempt? attempt.id

def managedDatabaseDependency (project : HostingProject) : Option HostingDatabase :=
  (world.databases.filter fun database =>
    database.projectId = some project.id ∧ database.status.live).argmin HostingDatabase.createdAt

def nextReleaseNumber (projectId : ℕ) : ℕ :=
  ((world.deployments.filter fun deployment =>
    deployment.projectId = projectId).map HostingDeployment.releaseNumber).foldl max 0 + 1

def flush : HostingWorld :=
  { world with
    flushedProjects := world.projects
    flushedAttempts := world.attempts }

def saveProject (project : HostingProject) : HostingWorld :=
  { world with
    projects := world.projects.map fun row => if row.id = project.id then project else row }

def saveAttempt (attempt : HostingFailoverAttempt) : HostingWorld :=
  { world with
    attempts := world.attempts.map fun row => if row.id = attempt.id then attempt else row }

def audit (entry : FailoverAudit) : HostingWorld := { world with audits := world.audits ++ [entry] }

def createAttempt (project : HostingProject) (sourceNodeId : ℕ)
    (status : FailoverAttemptStatus) (reason : Option String) (startedAt : Option ℤ) (now : ℤ) :
    HostingWorld × HostingFailoverAttempt :=
  let row : HostingFailoverAttempt :=
    { id := world.nextId
      projectId := project.id
      sourceNodeId := sourceNodeId
      status := status
      reason := reason
      createdAt := now
      startedAt := startedAt }
  ({ world with
      nextId := world.nextId + 1
      attempts := world.attempts ++ [row] }.flush, row)

end HostingWorld

structure RankedNode where
  nodeId : ℕ
  name : String
  eligible : Bool
  reasons : List String

structure EdgeState where
  status : Option String
  error : Option String

/-- Placement ranks nodes for a project, and the edge takes over an origin
or refuses it. -/
structure HostingServices where
  rankNodes : HostingWorld → HostingProject → List RankedNode
  reconcileProjectEdge : HostingWorld → HostingProject → String → Except String EdgeState

section Attempts

variable (services : HostingServices)

def eligibleTarget (world : HostingWorld) (project : HostingProject)
    (sourceNodeId : ℕ) (preferredTargetNodeId : Option ℕ) : Except String ℕ :=
  let ranked := services.rankNodes world project
  match preferredTargetNodeId with
  | some preferred =>
    match ranked.find? fun row => row.nodeId = preferred with
    | none => .error "Requested replacement node does not exist."
    | some candidate =>
      if candidate.nodeId = sourceNodeId then
        .error "Replacement node must be different from the current node."
      else if !candidate.eligible then
        .error ("Requested replacement node is not eligible: " ++
          "; ".intercalate candidate.reasons)
      else .ok candidate.nodeId
  | none =>
    let others := ranked.filter fun row => row.nodeId ≠ sourceNodeId
    match others.find? RankedNode.eligible with
    | some candidate => .ok candidate.nodeId
    | none =>
      let details := (others.map fun row =>
        row.name ++ ": " ++ if row.reasons = [] then "not eligible"
          else ", ".intercalate row.reasons).take 5
      .error ("No healthy replacement node has enough safe capacity." ++ if details = [] then ""
        else " Checked: " ++ " | ".intercalate details)

def prepareAttempt (world : HostingWorld) (project : HostingProject)
    (sourceNodeId : ℕ) (now : ℤ) : HostingWorld × HostingFailoverAttempt :=
  match world.attempt project.id sourceNodeId with
  | some existing => (world, existing)
  | none =>
    if project.failoverPolicy ≠ .statelessAuto then
      world.createAttempt project sourceNodeId .recoveryRequired
        (some "Automatic relocation is disabled. Project local /data may contain state.") none now
    else
      match world.managedDatabaseDependency project with
      | some database =>
        world.createAttempt project sourceNodeId .recoveryRequired
          (some ("Managed " ++ database.engine ++
            " database is attached to this project. Database replication/failover must be resolved before application relocation."))
          none now
      | none =>
        match world.lastHealthy project.id with
        | none =>
          world.createAttempt project sourceNodeId .recoveryRequired
            (some "No previously healthy immutable deployment is available for relocation.")
            none now
        | some _ =>
          world.createAttempt project sourceNodeId .pending none (some now) now

structure Relocation where
  world : HostingWorld
  attempt : HostingFailoverAttempt
  project : HostingProject

def Relocation.settle (relocation : Relocation) (attempt : HostingFailoverAttempt) : Relocation :=
  { relocation with
    world := relocation.world.saveAttempt attempt
    attempt := attempt }

def replacementDeployment (relocation : Relocation)
    (previous : HostingDeployment) (target : ℕ) (now : ℤ) : HostingDeployment where
  id := relocation.world.nextId
  projectId := relocation.project.id
  nodeId := some target
  previousDeploymentId := some previous.id
  releaseNumber := relocation.world.nextReleaseNumber relocation.project.id
  imageRef := previous.imageRef
  imageDigest := previous.imageDigest
  sourceCommit := previous.sourceCommit
  resetDataVolume := true
  status := .queued
  createdAt := now

def Relocation.deploy (relocation : Relocation)
    (deployment : HostingDeployment) (target : ℕ) : Relocation :=
  let attempt : HostingFailoverAttempt :=
    { relocation.attempt with
      targetNodeId := some target
      deploymentId := some deployment.id
      status := .deploying
      reason := none }
  let project := { relocation.project with status := .deploying }
  let world :=
    { relocation.world with
      nextId := relocation.world.nextId + 1
      deployments := relocation.world.deployments ++ [deployment] }.flush
  { world := ((world.saveAttempt attempt).saveProject project).audit
      (.replacementQueued attempt.id attempt.sourceNodeId target deployment.id
        deployment.releaseNumber)
    attempt := attempt
    project := project }

def queueReplacement (relocation : Relocation) (now : ℤ)
    (preferredTargetNodeId : Option ℕ) : Relocation :=
  let world := relocation.world
  let attempt := relocation.attempt
  let project := relocation.project
  if (world.activeDeployment project.id).isSome then
    relocation.settle { attempt with
        reason := some "Waiting for the project's current deployment operation to finish." }
  else
    match world.lastHealthy project.id with
    | none =>
      relocation.settle { attempt with
          status := .recoveryRequired
          reason := some "No previously healthy immutable deployment is available for relocation." }
    | some previous =>
      match eligibleTarget services world project attempt.sourceNodeId preferredTargetNodeId with
      | .error error => relocation.settle { attempt with reason := some error }
      | .ok target =>
        if (world.node? target).any HostingNodeRow.hasAgent then
          relocation.deploy (replacementDeployment relocation previous target now) target
        else
          relocation.settle { attempt with
              reason := some "Selected replacement node has no hosting agent credential." }

def queueSourceRetirement (world : HostingWorld) (project : HostingProject)
    (sourceNodeId : ℕ) (now : ℤ) : HostingWorld × RetireOperation :=
  match (world.retirements.filter fun row =>
      row.projectId = project.id ∧ row.nodeId = sourceNodeId ∧
        row.active).argmax RetireOperation.createdAt with
  | some existing => (world, existing)
  | none =>
    let row : RetireOperation :=
      { id := world.nextId
        projectId := project.id
        nodeId := sourceNodeId
        active := true
        createdAt := now }
    ({ world with
        nextId := world.nextId + 1
        retirements := world.retirements ++ [row] }.flush, row)

def statusAfterFailure (world : HostingWorld) (sourceNodeId : ℕ) : HostingProjectStatus :=
  if (world.node? sourceNodeId).any fun row => row.hosted.node.status = .active then .running
  else .failed

def Relocation.failedAttempt (relocation : Relocation)
    (deployment : HostingDeployment) (now : ℤ) : HostingFailoverAttempt :=
  { relocation.attempt with
    status := .failed
    reason := some ((presentText deployment.failureMessage).getD "Replacement deployment failed.")
    completedAt := some now }

def Relocation.failedProject (relocation : Relocation) : HostingProject :=
  { relocation.project with
    status := statusAfterFailure relocation.world relocation.attempt.sourceNodeId }

def Relocation.fail (relocation : Relocation)
    (deployment : HostingDeployment) (now : ℤ) : Relocation :=
  let attempt := relocation.failedAttempt deployment now
  let project := relocation.failedProject
  { world := ((relocation.world.saveAttempt attempt).saveProject project).audit
      (.failed attempt.id attempt.targetNodeId attempt.reason)
    attempt := attempt
    project := project }

def Relocation.cutOver (relocation : Relocation)
    (deployment : HostingDeployment) : HostingProject :=
  { relocation.project with
    nodeId := relocation.attempt.targetNodeId
    imageRef := some deployment.imageRef
    status := .running }

def Relocation.completedAttempt (relocation : Relocation)
    (edgeStatus : String) (now : ℤ) : HostingFailoverAttempt :=
  { relocation.attempt with
    edgeStatus := some edgeStatus
    status := .completed
    reason := none
    completedAt := some now }

def Relocation.complete (relocation : Relocation)
    (deployment : HostingDeployment) (edgeStatus : String) (now : ℤ) : Relocation :=
  let project := relocation.cutOver deployment
  let attempt := relocation.completedAttempt edgeStatus now
  let retired := queueSourceRetirement
    ((relocation.world.saveAttempt attempt).saveProject project) project attempt.sourceNodeId now
  { world := retired.1.audit (.completed attempt.id attempt.sourceNodeId attempt.targetNodeId
        relocation.project.nodeId attempt.deploymentId edgeStatus retired.2.id)
    attempt := attempt
    project := project }

def finalizeAttempt (relocation : Relocation) (now : ℤ) : Relocation :=
  let world := relocation.world
  let attempt := relocation.attempt
  match attempt.deploymentId.bind world.deployment? with
  | none =>
    relocation.settle { attempt with
        status := .failed
        reason := some "Replacement deployment record is missing."
        completedAt := some now }
  | some deployment =>
    if deployment.status = .failed then relocation.fail deployment now
    else if deployment.status ≠ .healthy then relocation
    else
      match presentText deployment.originUrl with
      | none => relocation
      | some originUrl =>
        match services.reconcileProjectEdge world relocation.project originUrl with
        | .error error =>
          relocation.settle { attempt with
              status := .edgePending
              edgeStatus := some "pending_origin"
              reason := some error }
        | .ok edge =>
          let edgeStatus := (presentText edge.status).getD "unknown"
          if edgeStatus ≠ "active" ∧ edgeStatus ≠ "not_requested" then
            relocation.settle { attempt with
                edgeStatus := some edgeStatus
                status := .edgePending
                reason := some ((presentText edge.error).getD
                    ("Waiting for edge state: " ++ edgeStatus)) }
          else relocation.complete deployment edgeStatus now

structure FailoverCounts where
  created : ℕ := 0
  queued : ℕ := 0
  completed : ℕ := 0
  failed : ℕ := 0
  recoveryRequired : ℕ := 0
  pending : ℕ := 0

def FailoverCounts.add (first second : FailoverCounts) : FailoverCounts where
  created := first.created + second.created
  queued := first.queued + second.queued
  completed := first.completed + second.completed
  failed := first.failed + second.failed
  recoveryRequired := first.recoveryRequired + second.recoveryRequired
  pending := first.pending + second.pending

def visitProject (now : ℤ) (sourceNodeId : ℕ) (world : HostingWorld)
    (project : HostingProject) : HostingWorld × FailoverCounts :=
  let existing := world.attempt project.id sourceNodeId
  let prepared := prepareAttempt world project sourceNodeId now
  let start : Relocation := ⟨prepared.1, prepared.2, project⟩
  let queued :=
    if start.attempt.status = .pending then
      queueReplacement services start now none
    else start
  let settled :=
    if queued.attempt.status = .deploying ∨ queued.attempt.status = .edgePending then
      finalizeAttempt services queued now
    else queued
  let finalized :=
    queued.attempt.status = .deploying ∨ queued.attempt.status = .edgePending
  (settled.world,
    { created := if existing.isNone then 1 else 0
      queued :=
        if start.attempt.status = .pending ∧ queued.attempt.deploymentId.isSome ∧
          queued.attempt.deploymentId ≠ start.attempt.deploymentId then 1
        else 0
      completed :=
        if finalized ∧ settled.attempt.status = .completed then 1 else 0
      failed := if finalized ∧ settled.attempt.status = .failed then 1 else 0
      recoveryRequired :=
        if settled.attempt.status = .recoveryRequired then 1 else 0
      pending := if settled.attempt.status.active then 1 else 0 })

def HostingNodeRow.drained (row : HostingNodeRow) : Bool :=
  row.hosted.node.status = .draining && !row.hosted.node.acceptsNewProjects &&
    row.hosted.health.any fun state =>
      state.automationEnabled && state.healthStatus = .unhealthy &&
        state.lastTransition = some .autoDrained

def HostingWorld.unhealthyNodes (world : HostingWorld) (cutoff : ℤ)
    (limit : ℤ) : List HostingNodeRow :=
  (world.nodes.filter fun row =>
    row.hosted.health.any fun state =>
      state.automationEnabled && state.healthStatus = .unhealthy &&
        state.unhealthySince.any (fun since => since ≤ cutoff) &&
        state.lastTransition = some .autoDrained).take
    (max 1 (min limit 1000)).toNat

def HostingWorld.projectsOn (world : HostingWorld) (nodeId : ℕ) : List HostingProject :=
  ((world.flushedProjects.filter fun project =>
    project.nodeId = some nodeId ∧ project.status ≠ .suspended).insertionSort
      fun first second => first.createdAt ≤ second.createdAt).filterMap
    fun project => world.project? project.id

structure FailoverPass where
  world : HostingWorld
  counts : FailoverCounts := {}

def visitInPass (now : ℤ) (sourceNodeId : ℕ) (pass : FailoverPass)
    (project : HostingProject) : FailoverPass :=
  let (world, counts) := visitProject services now sourceNodeId pass.world project
  { world := world, counts := pass.counts.add counts }

def visitSource (now : ℤ) (pass : FailoverPass) (state : HostingNodeRow) : FailoverPass :=
  match pass.world.node? state.id with
  | none => pass
  | some source =>
    if source.hosted.node.status ≠ .draining ∨ source.hosted.node.acceptsNewProjects then pass
    else
      (pass.world.projectsOn source.id).foldl (visitInPass services now source.id) pass

/-- An attempt that has staged nothing is over once its node recovers. -/
def resolveAttempt (now : ℤ) (world : HostingWorld)
    (attempt : HostingFailoverAttempt) : HostingWorld :=
  if (world.node? attempt.sourceNodeId).any HostingNodeRow.drained then world
  else
    world.saveAttempt { attempt with
        status := .resolvedBySourceRecovery
        reason := some "Source node recovered before a replacement deployment was staged."
        completedAt := some now }

def continueAttempt (now : ℤ) (world : HostingWorld)
    (attempt : HostingFailoverAttempt) : HostingWorld × FailoverCounts :=
  match world.project? attempt.projectId with
  | none =>
    (world.saveAttempt
      { attempt with
        status := .failed
        reason := some "Hosted project no longer exists."
        completedAt := some now }, {})
  | some project =>
    if project.nodeId = attempt.targetNodeId then (world, {})
    else
      let settled := finalizeAttempt services ⟨world, attempt, project⟩ now
      let changed := attempt.status ≠ settled.attempt.status
      (settled.world,
        { completed :=
            if changed ∧ settled.attempt.status = .completed then 1 else 0
          failed :=
            if changed ∧ settled.attempt.status = .failed then 1 else 0 })

def continueInPass (now : ℤ) (pass : FailoverPass)
    (attempt : HostingFailoverAttempt) : FailoverPass :=
  let (world, counts) := continueAttempt services now pass.world attempt
  { world := world, counts := pass.counts.add counts }

def HostingWorld.unresolvedAttempts (world : HostingWorld) (limit : ℤ) :
    List HostingFailoverAttempt :=
  ((world.flushedAttempts.filter fun attempt =>
    (attempt.status = .pending ∨ attempt.status = .recoveryRequired) ∧
      attempt.deploymentId = none).take (max 1 (min limit 1000)).toNat).filterMap
    fun attempt => world.attempt? attempt.id

def HostingWorld.stagedAttempts (world : HostingWorld) (limit : ℤ) : List HostingFailoverAttempt :=
  ((world.flushedAttempts.filter fun attempt =>
    attempt.status = .deploying ∨ attempt.status = .edgePending).take
      (max 1 (min limit 1000)).toNat).filterMap
    fun attempt => world.attempt? attempt.id

structure FailoverReport where
  sources : ℕ
  counts : FailoverCounts
  failoverAfterSeconds : ℤ

def runApplicationFailoverReconcile (failoverAfterSeconds : ℤ) (now : ℤ)
    (limit : ℤ) (world : HostingWorld) : HostingWorld × FailoverReport :=
  let cutoff := now - max failoverAfterSeconds 60 * 10 ^ 6
  let states := world.unhealthyNodes cutoff limit
  let visited :=
    states.foldl (visitSource services now) { world := world }
  let resolved :=
    { visited with
      world := (visited.world.unresolvedAttempts limit).foldl
        (resolveAttempt now) visited.world }
  let continued :=
    (resolved.world.stagedAttempts limit).foldl
      (continueInPass services now) resolved
  (continued.world.flush,
    { sources := states.length
      counts := continued.counts
      failoverAfterSeconds := failoverAfterSeconds })

/-- A request takes the place of an attempt that waits for recovery. -/
def supersedeRecovery (world : HostingWorld) (project : HostingProject)
    (nodeId : ℕ) (now : ℤ) : Except String HostingWorld :=
  match world.attempt project.id nodeId with
  | none => .ok world
  | some existing =>
    if existing.status = .recoveryRequired ∨ existing.status = .failed then
      .ok (world.saveAttempt { existing with
          status := .superseded
          completedAt := some now
          reason := some "Superseded by an explicit stateless relocation request." })
    else
      .error "A failover or recovery action already exists for this project"

/-- Moving a project on request; a refusal rolls everything back. -/
def requestProjectRelocation (world : HostingWorld) (project : HostingProject)
    (preferredTargetNodeId : Option ℕ) (reason : String) (now : ℤ) : Except String HostingWorld :=
  match project.nodeId with
  | none => .error "Project is not assigned to a hosting node"
  | some nodeId =>
    if project.failoverPolicy ≠ .statelessAuto then
      .error "Project must explicitly use stateless_auto before it can be relocated"
    else if project.status = .suspended then
      .error "Suspended projects cannot be relocated"
    else
      match supersedeRecovery world project nodeId now with
      | .error error => .error error
      | .ok cleared =>
        if (cleared.managedDatabaseDependency project).isSome then
          .error "Project has an Ithute-managed database and cannot use application-only relocation until database failover is available"
        else if (cleared.lastHealthy project.id).isNone then
          .error "Project has no healthy immutable deployment to relocate"
        else
          let created :=
            cleared.createAttempt project nodeId .pending (some reason) (some now) now
          let queued :=
            queueReplacement services ⟨created.1, created.2, project⟩ now preferredTargetNodeId
          if queued.attempt.deploymentId.isNone then
            .error ((presentText queued.attempt.reason).getD
              "Replacement deployment could not be queued")
          else .ok queued.world.flush

end Attempts

/-- Changing the policy of a project; opting in to stateless failover
supersedes attempts that wait for recovery. -/
def updateProjectFailoverPolicy (world : HostingWorld) (projectId : ℕ)
    (policy : FailoverPolicy) (confirmLocalDataDisposable : Bool) (now : ℤ) :
    Except String HostingWorld :=
  match world.project? projectId with
  | none => .error "Hosted project not found"
  | some project =>
    if policy = .statelessAuto ∧ confirmLocalDataDisposable = false then
      .error "Confirm that project-local /data is disposable before enabling stateless automatic failover"
    else
      let saved := world.saveProject { project with failoverPolicy := policy }
      let superseded :=
        if policy = .statelessAuto ∧ project.nodeId.isSome then
          { saved with
            attempts := saved.attempts.map fun row =>
              if row.projectId = projectId ∧ some row.sourceNodeId = project.nodeId ∧
                  row.status = .recoveryRequired then
                { row with
                  status := .superseded
                  completedAt := some now
                  reason := some "Superseded after explicit stateless auto-failover opt-in." }
              else row }
        else saved
      .ok superseded.flush

def createDeployment (world : HostingWorld) (project : HostingProject)
    (imageRef imageDigest : String) (sourceCommit : Option String)
    (previousDeploymentId : Option ℕ) (now : ℤ) : Except String HostingWorld :=
  match project.nodeId with
  | none => .error "Project is not assigned to a hosting node"
  | some nodeId =>
    if project.status = .suspended then
      .error "Resume the project before requesting a deployment"
    else if (world.activeDeployment project.id).isSome then
      .error "This project already has a deployment in progress"
    else if (world.node? nodeId).any HostingNodeRow.hasAgent then
      let deployment : HostingDeployment :=
        { id := world.nextId
          projectId := project.id
          nodeId := some nodeId
          previousDeploymentId := previousDeploymentId
          releaseNumber := world.nextReleaseNumber project.id
          imageRef := imageRef
          imageDigest := imageDigest
          sourceCommit := sourceCommit
          createdAt := now }
      let added :=
        { world with
          nextId := world.nextId + 1
          deployments := world.deployments ++ [deployment] }
      .ok (added.saveProject { project with status := .deploying }).flush
    else
      .error "The assigned hosting node does not have an agent credential yet"

/-- What passes, customers, operators and agents do, each in a transaction
of its own. -/
inductive HostingAction where
  | reconcile (now limit : ℤ)
  | relocate (now : ℤ) (projectId : ℕ) (preferredTargetNodeId : Option ℕ) (reason : String)
  | setPolicy (now : ℤ) (projectId : ℕ) (policy : FailoverPolicy)
      (confirmLocalDataDisposable : Bool)
  | attachDatabase (now : ℤ) (projectId : ℕ) (engine : String)
  | setDatabaseStatus (databaseId : ℕ) (status : HostingDatabaseStatus)
  | setProjectStatus (projectId : ℕ) (status : HostingProjectStatus)
  | setNode (row : HostingNodeRow)
  | deploy (now : ℤ) (projectId : ℕ) (imageRef imageDigest : String)
      (sourceCommit : Option String) (previousDeploymentId : Option ℕ)
  | reportDeployment (deploymentId : ℕ) (status : HostingDeploymentStatus)
      (originUrl failureMessage : Option String)

namespace HostingWorld

variable (world : HostingWorld)

def orUnchanged : Except String HostingWorld → HostingWorld
  | .error _ => world
  | .ok next => next

def withProject (projectId : ℕ)
    (request : HostingProject → Except String HostingWorld) : HostingWorld :=
  match world.project? projectId with
  | none => world
  | some project => world.orUnchanged (request project)

def attachDatabase (projectId : ℕ) (engine : String) (now : ℤ) : HostingWorld :=
  { world with
    nextId := world.nextId + 1
    databases := world.databases ++
      [{ id := world.nextId
         projectId := some projectId
         engine := engine
         status := .queued
         createdAt := now }] }

def setDatabaseStatus (databaseId : ℕ) (status : HostingDatabaseStatus) : HostingWorld :=
  { world with
    databases := world.databases.map fun row =>
      if row.id = databaseId then { row with status := status } else row }

def setProjectStatus (projectId : ℕ) (status : HostingProjectStatus) : HostingWorld :=
  let updated : HostingWorld :=
    { world with
      projects := world.projects.map fun row =>
        if row.id = projectId then { row with status := status } else row }
  updated.flush

def setNode (node : HostingNodeRow) : HostingWorld :=
  { world with
    nodes := world.nodes.map fun row => if row.id = node.id then node else row }

def reportDeployment (deploymentId : ℕ) (status : HostingDeploymentStatus)
    (originUrl failureMessage : Option String) : HostingWorld :=
  { world with
    deployments := world.deployments.map fun row =>
      if row.id = deploymentId then
        { row with
          status := status
          originUrl := originUrl
          failureMessage := failureMessage }
      else row }

def perform (services : HostingServices) (failoverAfterSeconds : ℤ) : HostingAction → HostingWorld
  | .reconcile now limit =>
    (runApplicationFailoverReconcile services failoverAfterSeconds now limit world).1
  | .relocate now projectId preferred reason =>
    world.withProject projectId fun project =>
      requestProjectRelocation services world project preferred reason now
  | .setPolicy now projectId policy confirmed =>
    world.orUnchanged (updateProjectFailoverPolicy world projectId policy confirmed now)
  | .attachDatabase now projectId engine => world.attachDatabase projectId engine now
  | .setDatabaseStatus databaseId status => world.setDatabaseStatus databaseId status
  | .setProjectStatus projectId status => world.setProjectStatus projectId status
  | .setNode row => world.setNode row
  | .deploy now projectId imageRef imageDigest sourceCommit previous =>
    world.withProject projectId fun project =>
      createDeployment world project imageRef imageDigest sourceCommit previous now
  | .reportDeployment deploymentId status originUrl failureMessage =>
    world.reportDeployment deploymentId status originUrl failureMessage

end HostingWorld

end Ithute
