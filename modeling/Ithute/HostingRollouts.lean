import Ithute.HostingFailover
import Ithute.Library.TransitionRuns

/-!
# Rollouts

A deployment is queued for the node of its project, claimed by the agent
there and reported running, healthy or failed.  Each report also writes the
project, and a failover attempt that waits for the deployment decides what
is written.
-/

namespace Ithute

inductive AgentStatus where
  | running | healthy | failed
  deriving DecidableEq

structure AgentStatusUpdate where
  status : AgentStatus
  message : Option String := none
  originUrl : Option String := none

/-- What `validate_trusted_origin` makes of an address: the origin, a
rejection, or an exception that no report handles. -/
inductive OriginCheck where
  | trusted (origin : String)
  | rejected (detail : String)
  | malformed

structure DeploymentManifest where
  deployment : HostingDeployment
  project : HostingProject
  environment : List (String × String)

namespace HostingWorld

variable (world : HostingWorld)

def saveDeployment (deployment : HostingDeployment) : HostingWorld :=
  { world with
    deployments := world.deployments.map fun row =>
      if row.id = deployment.id then deployment else row }

def agentNode (nodeId : ℕ) : Except String HostingNodeRow :=
  match world.node? nodeId with
  | none => .error "Hosting node is unavailable"
  | some node =>
    if node.hosted.node.status = .offline then
      .error "Hosting node is unavailable"
    else .ok node

def waitingAttempt (deploymentId : ℕ) : Option HostingFailoverAttempt :=
  world.attempts.find? fun attempt =>
    attempt.deploymentId = some deploymentId ∧ attempt.status.active

def queueDeployment (project : HostingProject)
    (imageRef imageDigest : String) (sourceCommit : Option String)
    (now : ℤ) : Except String HostingWorld :=
  createDeployment world project imageRef imageDigest sourceCommit
    ((world.lastHealthy project.id).map HostingDeployment.id) now

def rollbackDeployment (project : HostingProject) (deploymentId : ℕ)
    (now : ℤ) : Except String HostingWorld :=
  match world.deployments.find? fun deployment =>
      deployment.id = deploymentId ∧ deployment.projectId = project.id ∧
        deployment.status = .healthy with
  | none => .error "Rollback target must be a healthy deployment from this project"
  | some target =>
    createDeployment world project target.imageRef target.imageDigest target.sourceCommit
      ((world.lastHealthy project.id).map HostingDeployment.id) now

/-- Queries compare times by the computable order. -/
local instance (priority := high) claimTimeOrder : Preorder ℤ :=
  Int.instLinearOrder.toPartialOrder.toPreorder

def queuedDeployment (nodeId : ℕ) : Option HostingDeployment :=
  (world.deployments.filter fun deployment =>
    deployment.nodeId = some nodeId ∧ deployment.status = .queued).argmin
      HostingDeployment.createdAt

/-- The deployment is failed for the agent's poll, which hands out none. -/
def failClaim (deployment : HostingDeployment) (message : String) : HostingWorld :=
  world.saveDeployment { deployment with
      status := .failed
      failureMessage := some message }

/-- The agent of a node polls; the environment of a project is decrypted or
not. -/
def claimDeployment (environmentOf : ℕ → Except String (List (String × String)))
    (nodeId : ℕ) : HostingWorld × Except String (Option DeploymentManifest) :=
  match world.agentNode nodeId with
  | .error detail => (world, .error detail)
  | .ok _ =>
    match world.queuedDeployment nodeId with
    | none => (world, .ok none)
    | some deployment =>
      match world.project? deployment.projectId with
      | none =>
        (world.failClaim deployment "Project is unavailable or suspended", .ok none)
      | some project =>
        if project.status = .suspended then
          (world.failClaim deployment "Project is unavailable or suspended", .ok none)
        else
          match environmentOf project.id with
          | .error _ =>
            (((world.failClaim deployment "Project environment could not be decrypted").saveProject
                  { project with status := .failed }).flush,
              .error "Project environment could not be prepared")
          | .ok environment =>
            let claimed := { deployment with status := .claimed }
            let started := { project with status := .deploying }
            (((world.saveDeployment claimed).saveProject started).flush, .ok (some
                { deployment := claimed
                  project := started
                  environment := environment }))

def settleDeployment (deployment : HostingDeployment)
    (project : HostingProject) : HostingWorld × Except String HostingDeployment :=
  (((world.saveDeployment deployment).saveProject project).flush, .ok deployment)

def reportSuspended (deployment : HostingDeployment) (payload : AgentStatusUpdate) :
    HostingWorld × Except String HostingDeployment :=
  let stopped : HostingDeployment :=
    if deployment.status = .claimed ∨ deployment.status = .running then
      { deployment with
        status := .failed
        failureMessage := some "Project was suspended before deployment completed" }
    else deployment
  (world.saveDeployment stopped, if payload.status = .failed then .ok stopped
    else .error "Suspended project cannot accept deployment promotion")

def reportRunning (deployment : HostingDeployment) (project : HostingProject) :
    HostingWorld × Except String HostingDeployment :=
  if deployment.status = .claimed ∨ deployment.status = .running then
    world.settleDeployment { deployment with status := .running }
      { project with status := .deploying }
  else
    (world, .error "Deployment cannot enter running state from its current state")

def promotedStatus (deploymentId : ℕ) : HostingProjectStatus :=
  if (world.waitingAttempt deploymentId).isSome then .deploying else .running

def promote (deployment : HostingDeployment) (project : HostingProject) :
    HostingWorld × Except String HostingDeployment :=
  world.settleDeployment deployment { project with
      imageRef := some deployment.imageRef
      status := world.promotedStatus deployment.id }

def rejectedStatus (deploymentId : ℕ) : HostingProjectStatus :=
  match world.waitingAttempt deploymentId with
  | none => .failed
  | some attempt => statusAfterFailure world attempt.sourceNodeId

def reportHealthy (validateTrustedOrigin : String → OriginCheck)
    (deployment : HostingDeployment) (project : HostingProject) (payload : AgentStatusUpdate) :
    HostingWorld × Except String HostingDeployment :=
  if deployment.status = .claimed ∨ deployment.status = .running ∨ deployment.status = .healthy then
    let healthy :=
      { deployment with
        status := .healthy
        failureMessage := none }
    match presentText payload.originUrl with
    | none => world.promote healthy project
    | some originUrl =>
      match validateTrustedOrigin originUrl with
      | .trusted origin => world.promote { healthy with originUrl := some origin } project
      | .rejected detail =>
        world.settleDeployment { healthy with
            status := .failed
            failureMessage := some ("Hosting origin handoff rejected: " ++ detail) }
          { project with status := world.rejectedStatus deployment.id }
      | .malformed => (world, .error "Internal Server Error")
  else
    (world, .error "Deployment cannot become healthy from its current state")

def failureText (message : Option String) : String :=
  String.ofList ((stripText ((presentText message).getD
      "Node agent reported deployment failure")).toList.take 2000)

def failedStatus (deployment : HostingDeployment) : HostingProjectStatus :=
  match world.waitingAttempt deployment.id with
  | some attempt => statusAfterFailure world attempt.sourceNodeId
  | none =>
    if (world.lastHealthy deployment.projectId).isSome then .running
    else .failed

def reportFailed (deployment : HostingDeployment) (project : HostingProject)
    (payload : AgentStatusUpdate) : HostingWorld × Except String HostingDeployment :=
  if deployment.status = .claimed ∨ deployment.status = .running then
    world.settleDeployment { deployment with
        status := .failed
        failureMessage := some (failureText payload.message) }
      { project with status := world.failedStatus deployment }
  else
    (world, .error "Deployment cannot fail from its current state")

def reported (nodeId deploymentId : ℕ) : Except String (HostingDeployment × HostingProject) :=
  match world.agentNode nodeId with
  | .error detail => .error detail
  | .ok _ =>
    match world.deployments.find? fun deployment =>
        deployment.id = deploymentId ∧ deployment.nodeId = some nodeId with
    | none => .error "Deployment not found for this hosting node"
    | some deployment =>
      match world.project? deployment.projectId with
      | none => .error "Hosted project not found"
      | some project => .ok (deployment, project)

def reportDeploymentStatus (validateTrustedOrigin : String → OriginCheck)
    (nodeId deploymentId : ℕ) (payload : AgentStatusUpdate) :
    HostingWorld × Except String HostingDeployment :=
  match world.reported nodeId deploymentId with
  | .error detail => (world, .error detail)
  | .ok (deployment, project) =>
    if project.status = .suspended then
      world.reportSuspended deployment payload
    else
      match payload.status with
      | .running => world.reportRunning deployment project
      | .healthy => world.reportHealthy validateTrustedOrigin deployment project payload
      | .failed => world.reportFailed deployment project payload

end HostingWorld

end Ithute
