import Ithute.HostingRollouts
import Ithute.HostingFailoverSafety
import Ithute.Library.SuccessiveRows
import Ithute.Library.UniqueRows

/-!
# The outcome of a deployment

A deployment is settled once it is healthy, failed or canceled, and its
project shows the image of the newest healthy one.  A healthy deployment may
be reported healthy again, and it is then promoted again, whatever has been
released since.
-/

namespace Ithute

open SuccessiveRows TransitionRuns UniqueRows

/-- What customers, failover, agents and operators do, call after call. -/
inductive RolloutAction where
  | deploy (now : ℤ) (projectId : ℕ) (imageRef imageDigest : String) (sourceCommit : Option String)
  | rollback (now : ℤ) (projectId deploymentId : ℕ)
  | replace (now : ℤ) (attemptId : ℕ) (preferredTargetNodeId : Option ℕ)
  | claim (nodeId : ℕ) (environment : Except String (List (String × String)))
  | report (nodeId deploymentId : ℕ) (payload : AgentStatusUpdate)
  | setProjectStatus (projectId : ℕ) (status : HostingProjectStatus)
  | setNode (row : HostingNodeRow)
  | setAttempts (attempts : List HostingFailoverAttempt)

namespace HostingWorld

def replaceDeployment (services : HostingServices) (world : HostingWorld)
    (attemptId : ℕ) (preferredTargetNodeId : Option ℕ) (now : ℤ) : HostingWorld :=
  match world.attempt? attemptId with
  | none => world
  | some attempt =>
    match world.project? attempt.projectId with
    | none => world
    | some project =>
      if attempt.status = .pending then
        (queueReplacement services ⟨world, attempt, project⟩ now preferredTargetNodeId).world.flush
      else world

def setAttempts (world : HostingWorld) (attempts : List HostingFailoverAttempt) : HostingWorld :=
  { world with
    attempts := attempts
    flushedAttempts := attempts }

def rollout (services : HostingServices)
    (validateTrustedOrigin : String → OriginCheck) (world : HostingWorld) :
    RolloutAction → HostingWorld
  | .deploy now projectId imageRef imageDigest sourceCommit =>
    world.withProject projectId fun project =>
      world.queueDeployment project imageRef imageDigest sourceCommit now
  | .rollback now projectId deploymentId =>
    world.withProject projectId fun project => world.rollbackDeployment project deploymentId now
  | .replace now attemptId preferred => replaceDeployment services world attemptId preferred now
  | .claim nodeId environment => (world.claimDeployment (fun _ => environment) nodeId).1
  | .report nodeId deploymentId payload =>
    (world.reportDeploymentStatus validateTrustedOrigin nodeId deploymentId payload).1
  | .setProjectStatus projectId status => world.setProjectStatus projectId status
  | .setNode row => world.setNode row
  | .setAttempts attempts => world.setAttempts attempts

def Superseded (world : HostingWorld) (deployment : HostingDeployment) : Prop :=
  ∃ newer ∈ world.deployments, newer.projectId = deployment.projectId ∧
    deployment.releaseNumber < newer.releaseNumber

def NewestHealthy (world : HostingWorld) (projectId : ℕ) (deployment : HostingDeployment) : Prop :=
  deployment ∈ world.deployments ∧ deployment.projectId = projectId ∧ deployment.status = .healthy ∧
    ∀ other ∈ world.deployments, other.projectId = projectId → other.status = .healthy →
        other.releaseNumber ≤ deployment.releaseNumber

/-- Every project shows the image of its newest healthy deployment. -/
def ShowsNewest (world : HostingWorld) : Prop :=
  ∀ project ∈ world.projects, ∀ deployment, world.NewestHealthy project.id deployment →
      project.imageRef = some deployment.imageRef

def KeepsOutcomes (before after : HostingWorld) : Prop :=
  ∀ id deployment, before.deployment? id = some deployment → deployment.status.active = false →
      ∃ later, after.deployment? id = some later ∧ later.status = deployment.status

/-- A report on a release that has a newer one changes neither the status nor
the image of the project. -/
def IgnoresLate (before : HostingWorld) (action : RolloutAction) (after : HostingWorld) : Prop :=
  match action with
  | .report nodeId deploymentId _ =>
    ∀ deployment project, before.reported nodeId deploymentId = .ok (deployment, project) →
        before.Superseded deployment → ∃ later, after.project? project.id = some later ∧
            later.status = project.status ∧ later.imageRef = project.imageRef
  | _ => True

structure SettledOnce (before : HostingWorld) (action : RolloutAction)
    (after : HostingWorld) : Prop where
  outcomes : KeepsOutcomes before after
  image : after.ShowsNewest
  late : IgnoresLate before action after

/-- The origin of a repeated report is not rejected and, once a newer release
exists, the project shows what the report writes. -/
def QuietRepeat (validateTrustedOrigin : String → OriginCheck)
    (world : HostingWorld) (deployment : HostingDeployment)
    (project : HostingProject) (payload : AgentStatusUpdate) : Prop :=
  match (presentText payload.originUrl).map validateTrustedOrigin with
  | some (.rejected _) => False
  | some .malformed => True
  | _ =>
    world.Superseded deployment → project.imageRef = some deployment.imageRef ∧
        project.status = world.promotedStatus deployment.id

/-- A deployment that is healthy already is reported healthy only quietly. -/
def RepeatsQuietly (validateTrustedOrigin : String → OriginCheck)
    (before : HostingWorld) (action : RolloutAction) : Prop :=
  match action with
  | .report nodeId deploymentId payload =>
    ∀ deployment project, before.reported nodeId deploymentId = .ok (deployment, project) →
        project.status ≠ .suspended → payload.status = .healthy → deployment.status = .healthy →
            QuietRepeat validateTrustedOrigin before deployment project payload
  | _ => True

structure SameRelease (stored saved : HostingDeployment) : Prop where
  id : saved.id = stored.id
  projectId : saved.projectId = stored.projectId
  nodeId : saved.nodeId = stored.nodeId
  releaseNumber : saved.releaseNumber = stored.releaseNumber
  imageRef : saved.imageRef = stored.imageRef

theorem SameRelease.refl (deployment : HostingDeployment) : SameRelease deployment deployment :=
  ⟨rfl, rfl, rfl, rfl, rfl⟩

structure Continues (stored saved : HostingDeployment) : Prop extends SameRelease stored saved where
  outcome : stored.status.active = false → saved.status = stored.status

def images (world : HostingWorld) : List (ℕ × Option String) :=
  world.projects.map fun project => (project.id, project.imageRef)

/-- Identifiers are unique, the active deployment of a project is its newest,
and every project shows its newest healthy one. -/
structure Orderly (world : HostingWorld) : Prop where
  projects : (world.projects.map HostingProject.id).Nodup
  issued : Issued HostingDeployment.id world.nextId world.deployments
  successive : Successive HostingDeployment.projectId
    HostingDeployment.releaseNumber (fun row => row.status.active) world.deployments
  image : world.ShowsNewest

section Writes

variable {world after : HostingWorld} {stored saved : HostingDeployment} {project : HostingProject}

theorem projects_of_images (same : after.images = world.images) :
    after.projects.map HostingProject.id = world.projects.map HostingProject.id := by
  have ids (rows : List HostingProject) : rows.map HostingProject.id =
        (rows.map fun row => (row.id, row.imageRef)).map Prod.fst := by
    simp
  rw [ids after.projects, ids world.projects]
  exact congrArg (List.map Prod.fst) same

theorem exists_of_images (same : after.images = world.images) (member : project ∈ after.projects) :
    ∃ earlier ∈ world.projects, earlier.id = project.id ∧ earlier.imageRef = project.imageRef := by
  have shown : (project.id, project.imageRef) ∈ world.images := by
    rw [← same]
    exact List.mem_map_of_mem member
  obtain ⟨earlier, earlierMem, equal⟩ := List.mem_map.mp shown
  exact ⟨earlier, earlierMem, congrArg Prod.fst equal, congrArg Prod.snd equal⟩

theorem images_saveProject (unique : (world.projects.map HostingProject.id).Nodup)
    {earlier : HostingProject} (member : earlier ∈ world.projects) (id : project.id = earlier.id)
    (imageRef : project.imageRef = earlier.imageRef) :
    (world.saveProject project).images = world.images := by
  apply map_column_replace unique member id
  rw [id, imageRef]

theorem continues_write (orderly : world.Orderly)
    (member : stored ∈ world.deployments) (continues : Continues stored saved)
    {row : HostingDeployment} (rowMem : row ∈ world.deployments) :
    Continues row (if row.id = saved.id then saved else row) := by
  by_cases same : row.id = saved.id
  · have equal := orderly.issued.eq_of_key rowMem member (same.trans continues.id)
    rw [if_pos same, equal]
    exact continues
  · rw [if_neg same]
    exact ⟨.refl row, fun _ => rfl⟩

theorem Orderly.issued_save (orderly : world.Orderly) (saved : HostingDeployment) :
    Issued HostingDeployment.id world.nextId (world.saveDeployment saved).deployments :=
  orderly.issued.replace saved

theorem Orderly.successive_save (orderly : world.Orderly) (member : stored ∈ world.deployments)
    (continues : Continues stored saved) :
    Successive HostingDeployment.projectId HostingDeployment.releaseNumber
      (fun row => row.status.active) (world.saveDeployment saved).deployments := by
  apply orderly.successive.map
  · exact fun row rowMem => (continues_write orderly member continues rowMem).projectId
  · exact fun row rowMem => (continues_write orderly member continues rowMem).releaseNumber
  · intro row rowMem settled
    rw [(continues_write orderly member continues rowMem).outcome settled]
    exact settled

theorem keepsOutcomes_save (orderly : world.Orderly) (member : stored ∈ world.deployments)
    (continues : Continues stored saved) (deployments : after.deployments =
      (world.saveDeployment saved).deployments) : world.KeepsOutcomes after := by
  intro id deployment found settled
  have shown : after.deployment? id = if id = saved.id then
      (world.deployment? id).map fun _ => saved
    else world.deployment? id := by
    unfold deployment?
    rw [deployments]
    exact find?_replace saved id
  rw [shown, found]
  by_cases same : id = saved.id
  · have foundId : deployment.id = id := by simpa using List.find?_some found
    have equal := orderly.issued.eq_of_key (List.mem_of_find?_eq_some found) member
      (foundId.trans (same.trans continues.id))
    rw [if_pos same]
    refine ⟨saved, rfl, ?_⟩
    rw [equal] at settled ⊢
    exact continues.outcome settled
  · rw [if_neg same]
    exact ⟨deployment, rfl, rfl⟩

/-- The newest healthy deployment of a project for which the write neither
adds nor takes a healthy one. -/
theorem newestHealthy_save (orderly : world.Orderly) (member : stored ∈ world.deployments)
    (continues : Continues stored saved) (deployments : after.deployments =
      (world.saveDeployment saved).deployments) {projectId : ℕ} {deployment : HostingDeployment}
    (healthy : stored.projectId = projectId → (saved.status = .healthy ↔ stored.status = .healthy))
    (newest : after.NewestHealthy projectId deployment) :
    ∃ earlier, world.NewestHealthy projectId earlier ∧ earlier.imageRef = deployment.imageRef := by
  have written (row : HostingDeployment) (rowMem : row ∈ world.deployments) :
      (if row.id = saved.id then saved else row) ∈ after.deployments := by
    rw [deployments]
    exact List.mem_map_of_mem rowMem
  have still (row : HostingDeployment) (rowMem : row ∈ world.deployments)
      (owner : row.projectId = projectId) :
      (if row.id = saved.id then saved else row).status = .healthy ↔ row.status = .healthy := by
    by_cases same : row.id = saved.id
    · have equal := orderly.issued.eq_of_key rowMem member (same.trans continues.id)
      rw [if_pos same, equal]
      exact healthy (by rw [← equal, owner])
    · rw [if_neg same]
  obtain ⟨deploymentMem, owner, status, greatest⟩ := newest
  rw [deployments] at deploymentMem
  obtain ⟨row, rowMem, rfl⟩ := List.mem_map.mp deploymentMem
  have kept := continues_write orderly member continues rowMem
  have rowOwner := kept.projectId.symm.trans owner
  refine ⟨row, ⟨rowMem, rowOwner, (still row rowMem rowOwner).mp status, ?_⟩, kept.imageRef.symm⟩
  intro other otherMem otherOwner otherStatus
  have otherKept := continues_write orderly member continues otherMem
  have le := greatest _ (written other otherMem) (otherKept.projectId.trans otherOwner)
    ((still other otherMem otherOwner).mpr otherStatus)
  rw [otherKept.releaseNumber, kept.releaseNumber] at le
  exact le

theorem newestHealthy_promoted (orderly : world.Orderly) (member : stored ∈ world.deployments)
    (continues : Continues stored saved) (deployments : after.deployments =
      (world.saveDeployment saved).deployments)
    (current : ¬ world.Superseded stored) (healthy : saved.status = .healthy)
    {deployment : HostingDeployment} (newest : after.NewestHealthy stored.projectId deployment) :
    deployment = saved := by
  have successive := orderly.successive_save member continues
  obtain ⟨deploymentMem, owner, -, greatest⟩ := newest
  have savedMem : saved ∈ after.deployments := by
    rw [deployments]
    exact List.mem_map.mpr ⟨stored, member, if_pos continues.id.symm⟩
  have atLeast := greatest saved savedMem continues.projectId healthy
  rw [deployments] at deploymentMem savedMem
  refine successive.eq_of_number deploymentMem savedMem
    (owner.trans continues.projectId.symm) (Nat.le_antisymm ?_ atLeast)
  obtain ⟨row, rowMem, rfl⟩ := List.mem_map.mp deploymentMem
  have kept := continues_write orderly member continues rowMem
  rw [kept.releaseNumber, continues.releaseNumber]
  by_contra greater
  exact current ⟨row, rowMem, kept.projectId.symm.trans owner, by omega⟩

end Writes

/-- The tables after a call are orderly, and outcomes have stayed. -/
structure Advances (before after : HostingWorld) : Prop where
  orderly : after.Orderly
  outcomes : before.KeepsOutcomes after

section Effects

variable {world after : HostingWorld} {stored saved : HostingDeployment} {project : HostingProject}

theorem lt_nextReleaseNumber {deployment : HostingDeployment}
    (member : deployment ∈ world.deployments) : deployment.releaseNumber <
      world.nextReleaseNumber deployment.projectId := by
  have bound (numbers : List ℕ) (start number : ℕ) (here : number ≤ start ∨ number ∈ numbers) :
      number ≤ numbers.foldl max start := by
    induction numbers generalizing start with
    | nil => simpa using here
    | cons first rest ih =>
      apply ih
      rcases here with below | inList
      · exact .inl (by omega)
      · rcases List.mem_cons.mp inList with same | later
        · exact .inl (by omega)
        · exact .inr later
  unfold nextReleaseNumber
  apply Nat.lt_succ_of_le
  apply bound
  right
  exact List.mem_map_of_mem (List.mem_filter.mpr ⟨member, by simp⟩)

theorem activeDeployment_eq_none {projectId : ℕ} : world.activeDeployment projectId = none ↔
      ∀ deployment ∈ world.deployments, deployment.projectId = projectId →
        deployment.status.active = false := by
  simp [activeDeployment, List.argmax_eq_none, List.filter_eq_nil_iff]

theorem Advances.of_same (orderly : world.Orderly)
    (deployments : after.deployments = world.deployments) (images : after.images = world.images)
    (nextId : world.nextId ≤ after.nextId) : Advances world after := by
  constructor
  · constructor
    · rw [projects_of_images images]
      exact orderly.projects
    · rw [deployments]
      exact orderly.issued.mono nextId
    · rw [deployments]
      exact orderly.successive
    · intro project member deployment newest
      obtain ⟨earlier, earlierMem, id, imageRef⟩ := exists_of_images images member
      unfold NewestHealthy at newest
      rw [deployments, ← id] at newest
      rw [← imageRef]
      exact orderly.image earlier earlierMem deployment newest
  · intro id deployment found _
    refine ⟨deployment, ?_, rfl⟩
    unfold deployment?
    rw [deployments]
    exact found

theorem Advances.refl (orderly : world.Orderly) : Advances world world :=
  of_same orderly rfl rfl (Nat.le_refl _)

theorem Advances.add (orderly : world.Orderly) {added : HostingDeployment}
    (deployments : after.deployments = world.deployments ++ [added])
    (images : after.images = world.images) (nextId : after.nextId = world.nextId + 1)
    (id : added.id = world.nextId) (status : added.status = .queued)
    (release : added.releaseNumber = world.nextReleaseNumber added.projectId)
    (idle : world.activeDeployment added.projectId = none) : Advances world after := by
  constructor
  · constructor
    · rw [projects_of_images images]
      exact orderly.projects
    · rw [deployments, nextId]
      exact orderly.issued.insert id
    · rw [deployments]
      apply orderly.successive.append
      · intro row rowMem owner
        rw [release, ← owner]
        exact lt_nextReleaseNumber rowMem
      · exact activeDeployment_eq_none.mp idle
    · intro project member deployment newest
      obtain ⟨earlier, earlierMem, projectId, imageRef⟩ := exists_of_images images member
      obtain ⟨deploymentMem, owner, healthy, greatest⟩ := newest
      rw [deployments] at deploymentMem greatest
      have old : deployment ∈ world.deployments := by
        rcases List.mem_append.mp deploymentMem with old | new
        · exact old
        · rw [List.mem_singleton.mp new, status] at healthy
          cases healthy
      rw [← imageRef]
      apply orderly.image earlier earlierMem deployment
      rw [projectId]
      exact ⟨old, owner, healthy, fun other otherMem =>
        greatest other (List.mem_append_left _ otherMem)⟩
  · intro sought deployment found _
    refine ⟨deployment, ?_, rfl⟩
    unfold deployment? at found ⊢
    rw [deployments, List.find?_append, found]
    rfl

theorem Advances.save (orderly : world.Orderly) (member : stored ∈ world.deployments)
    (continues : Continues stored saved) (deployments : after.deployments =
      (world.saveDeployment saved).deployments) (images : after.images = world.images)
    (nextId : after.nextId = world.nextId)
    (healthy : saved.status = .healthy ↔ stored.status = .healthy) : Advances world after := by
  constructor
  · constructor
    · rw [projects_of_images images]
      exact orderly.projects
    · rw [deployments, nextId]
      exact orderly.issued_save saved
    · rw [deployments]
      exact orderly.successive_save member continues
    · intro project projectMem deployment newest
      obtain ⟨earlier, earlierMem, id, imageRef⟩ := exists_of_images images projectMem
      obtain ⟨shown, newestBefore, sameImage⟩ := newestHealthy_save orderly
        member continues deployments (fun _ => healthy) newest
      rw [← id] at newestBefore
      rw [← imageRef, ← sameImage]
      exact orderly.image earlier earlierMem shown newestBefore
  · exact keepsOutcomes_save orderly member continues deployments

theorem Advances.promote (orderly : world.Orderly) (member : stored ∈ world.deployments)
    (continues : Continues stored saved) (healthy : saved.status = .healthy)
    (current : ¬ world.Superseded stored) (deployments : after.deployments =
      (world.saveDeployment saved).deployments) (nextId : after.nextId = world.nextId)
    (projects : after.projects = (world.saveProject project).projects)
    (id : project.id = stored.projectId) (imageRef : project.imageRef = some saved.imageRef) :
    Advances world after := by
  constructor
  · constructor
    · rw [projects, show (world.saveProject project).projects.map
          HostingProject.id = world.projects.map HostingProject.id from
        map_key_replace project]
      exact orderly.projects
    · rw [deployments, nextId]
      exact orderly.issued_save saved
    · rw [deployments]
      exact orderly.successive_save member continues
    · intro shown shownMem deployment newest
      rw [projects] at shownMem
      obtain ⟨row, rowMem, rfl⟩ := List.mem_map.mp shownMem
      by_cases same : row.id = project.id
      · rw [if_pos same] at newest ⊢
        rw [id] at newest
        rw [newestHealthy_promoted orderly member continues deployments current healthy newest]
        exact imageRef
      · rw [if_neg same] at newest ⊢
        obtain ⟨earlier, newestBefore, sameImage⟩ := newestHealthy_save
          orderly member continues deployments
          (fun owner => absurd (owner.symm.trans id.symm) same) newest
        rw [← sameImage]
        exact orderly.image row rowMem earlier newestBefore
  · exact keepsOutcomes_save orderly member continues deployments

end Effects

section Calls

variable {world after : HostingWorld} {project : HostingProject} {deployment : HostingDeployment}

theorem project?_spec {id : ℕ} (found : world.project? id = some project) :
    project ∈ world.projects ∧ project.id = id :=
  find?_decide found

theorem images_setStatus (orderly : world.Orderly)
    (member : project ∈ world.projects) (status : HostingProjectStatus) :
    (world.saveProject { project with status := status }).images = world.images :=
  images_saveProject orderly.projects member rfl rfl

theorem Advances.createDeployment (orderly : world.Orderly)
    (member : project ∈ world.projects) {imageRef imageDigest : String}
    {sourceCommit : Option String} {previous : Option ℕ} {now : ℤ}
    (accepted : Ithute.createDeployment world project imageRef imageDigest
      sourceCommit previous now = .ok after) : Advances world after := by
  unfold Ithute.createDeployment at accepted
  split at accepted
  · cases accepted
  · rename_i nodeId _
    split_ifs at accepted with suspended busy agent
    have idle : world.activeDeployment project.id = none := by simpa using busy
    cases accepted
    exact Advances.add orderly rfl (images_setStatus orderly member .deploying) rfl rfl rfl rfl idle

theorem Advances.withProject (orderly : world.Orderly) (projectId : ℕ)
    {request : HostingProject → Except String HostingWorld}
    (advances : ∀ project after, project ∈ world.projects →
      request project = .ok after → Advances world after) :
    Advances world (world.withProject projectId request) := by
  unfold HostingWorld.withProject
  split
  · exact refl orderly
  · rename_i project found
    cases made : request project with
    | error detail => exact refl orderly
    | ok after => exact advances project after (project?_spec found).1 made

theorem Advances.rollbackDeployment (orderly : world.Orderly)
    (member : project ∈ world.projects) {deploymentId : ℕ} {now : ℤ}
    (accepted : world.rollbackDeployment project deploymentId now =
      .ok after) : Advances world after := by
  unfold HostingWorld.rollbackDeployment at accepted
  split at accepted
  · cases accepted
  · exact createDeployment orderly member accepted

theorem Advances.replaceDeployment (services : HostingServices)
    (orderly : world.Orderly) (attemptId : ℕ) (preferred : Option ℕ) (now : ℤ) : Advances world
      (HostingWorld.replaceDeployment services world attemptId preferred now) := by
  unfold HostingWorld.replaceDeployment
  split
  · exact refl orderly
  · rename_i attempt _
    split
    · exact refl orderly
    · rename_i project found
      split
      · rcases queueReplacement_cases services ⟨world, attempt, project⟩ now preferred with
          ⟨ready, previous, target, queued⟩ | ⟨-, written, waiting, -⟩
        · rw [queued]
          exact add orderly rfl (images_setStatus orderly
            (project?_spec found).1 .deploying) rfl rfl rfl rfl ready.1
        · rw [waiting]
          exact of_same orderly rfl rfl (Nat.le_refl _)
      · exact refl orderly

variable {saved : HostingDeployment}

theorem Continues.of_active {stored : HostingDeployment} (inProgress : stored.status.active = true)
    (same : SameRelease stored saved) : Continues stored saved :=
  ⟨same, fun settled => by
    rw [inProgress] at settled
    cases settled⟩

theorem not_healthy_of_active (inProgress : deployment.status.active = true) :
    deployment.status ≠ .healthy := by
  intro healthy
  rw [healthy] at inProgress
  cases inProgress

theorem Advances.stop (orderly : world.Orderly) (member : deployment ∈ world.deployments)
    (inProgress : deployment.status.active = true) (continues : Continues deployment saved)
    (unhealthy : saved.status ≠ .healthy) : Advances world (world.saveDeployment saved) :=
  save orderly member continues rfl rfl rfl ⟨fun healthy => absurd healthy unhealthy,
      fun healthy => absurd healthy (not_healthy_of_active inProgress)⟩

theorem Advances.progress (orderly : world.Orderly) (member : deployment ∈ world.deployments)
    (inProgress : deployment.status.active = true)
    (projectMem : project ∈ world.projects) {status : HostingProjectStatus}
    (continues : Continues deployment saved) (unhealthy : saved.status ≠ .healthy) :
    Advances world (((world.saveDeployment saved).saveProject
      { project with status := status }).flush) :=
  save orderly member continues rfl (images_setStatus orderly projectMem status) rfl
    ⟨fun healthy => absurd healthy unhealthy,
      fun healthy => absurd healthy (not_healthy_of_active inProgress)⟩

theorem queuedDeployment_spec {nodeId : ℕ}
    (found : world.queuedDeployment nodeId = some deployment) :
    deployment ∈ world.deployments ∧ deployment.status = .queued := by
  have chosen : deployment ∈ world.deployments.filter fun row =>
      row.nodeId = some nodeId ∧ row.status = .queued :=
    List.argmin_mem (Option.mem_def.mpr found)
  obtain ⟨member, selected⟩ := List.mem_filter.mp chosen
  simp only [decide_eq_true_eq] at selected
  exact ⟨member, selected.2⟩

theorem Advances.claimDeployment (orderly : world.Orderly)
    (environmentOf : ℕ → Except String (List (String × String))) (nodeId : ℕ) :
    Advances world (world.claimDeployment environmentOf nodeId).1 := by
  unfold HostingWorld.claimDeployment
  split
  · exact refl orderly
  · split
    · exact refl orderly
    · rename_i deployment found
      obtain ⟨member, queued⟩ := queuedDeployment_spec found
      have inProgress : deployment.status.active = true := by
        rw [queued]
        rfl
      split
      · exact stop orderly member inProgress
          (.of_active inProgress ⟨rfl, rfl, rfl, rfl, rfl⟩) (by simp)
      · rename_i project owner
        have owned := (project?_spec owner).1
        split
        · exact stop orderly member inProgress
            (.of_active inProgress ⟨rfl, rfl, rfl, rfl, rfl⟩) (by simp)
        · split
          · exact progress orderly member inProgress owned
              (.of_active inProgress ⟨rfl, rfl, rfl, rfl, rfl⟩) (by simp)
          · exact progress orderly member inProgress owned
              (.of_active inProgress ⟨rfl, rfl, rfl, rfl, rfl⟩) (by simp)

end Calls

section Reports

variable {validateTrustedOrigin : String → OriginCheck}
variable {world after : HostingWorld} {project : HostingProject}
variable {deployment : HostingDeployment} {payload : AgentStatusUpdate} {nodeId deploymentId : ℕ}

theorem reported_spec (reported : world.reported nodeId deploymentId = .ok (deployment, project)) :
    deployment ∈ world.deployments ∧ deployment.id = deploymentId ∧
      world.project? deployment.projectId = some project := by
  unfold HostingWorld.reported at reported
  split at reported
  · cases reported
  · split at reported
    · cases reported
    · rename_i found
      split at reported
      · cases reported
      · rename_i owner
        cases reported
        have selected := List.find?_some found
        simp only [decide_eq_true_eq] at selected
        exact ⟨List.mem_of_find?_eq_some found, selected.1, owner⟩

inductive ReportEffect (validateTrustedOrigin : String → OriginCheck)
    (world : HostingWorld) (deployment : HostingDeployment)
    (project : HostingProject) (payload : AgentStatusUpdate) : HostingWorld → Prop
  | refused : ReportEffect validateTrustedOrigin world deployment project payload world
  | stopped {saved : HostingDeployment} (continues : Continues deployment saved)
      (healthy : saved.status = .healthy ↔ deployment.status = .healthy) :
      ReportEffect validateTrustedOrigin world deployment project payload
        (world.saveDeployment saved)
  | progressed {saved : HostingDeployment} {status : HostingProjectStatus}
      (here : project.status ≠ .suspended) (inProgress : deployment.status.active = true)
      (continues : Continues deployment saved) (unhealthy : saved.status ≠ .healthy) :
      ReportEffect validateTrustedOrigin world deployment project payload
        (((world.saveDeployment saved).saveProject { project with status := status }).flush)
  | rejected {saved : HostingDeployment} {status : HostingProjectStatus}
      (detail : String) (here : project.status ≠ .suspended) (reported : payload.status = .healthy)
      (again : deployment.status = .healthy)
      (check : (presentText payload.originUrl).map validateTrustedOrigin = some (.rejected detail))
      (same : SameRelease deployment saved) (failed : saved.status = .failed) :
      ReportEffect validateTrustedOrigin world deployment project payload
        (((world.saveDeployment saved).saveProject { project with status := status }).flush)
  | promoted {saved : HostingDeployment} (here : project.status ≠ .suspended)
      (reported : payload.status = .healthy) (continues : Continues deployment saved)
      (healthy : saved.status = .healthy) (trusted : ∀ check, (presentText payload.originUrl).map
        validateTrustedOrigin = some check → ∃ origin, check = .trusted origin)
      (current : deployment.status.active = true ∨ deployment.status = .healthy) :
      ReportEffect validateTrustedOrigin world deployment project payload
        (((world.saveDeployment saved).saveProject { project with
            imageRef := some saved.imageRef
            status := world.promotedStatus deployment.id }).flush)

theorem active_of_started (started : deployment.status = .claimed ∨
    deployment.status = .running) : deployment.status.active = true := by
  rcases started with status | status <;> rw [status] <;> rfl

theorem reportSuspended_effect : ReportEffect validateTrustedOrigin world deployment project payload
      (world.reportSuspended deployment payload).1 := by
  unfold reportSuspended
  dsimp only
  split
  · rename_i started
    have inProgress := active_of_started started
    exact .stopped (.of_active inProgress ⟨rfl, rfl, rfl, rfl, rfl⟩)
      ⟨fun healthy => (by cases healthy),
        fun healthy => absurd healthy (not_healthy_of_active inProgress)⟩
  · exact .stopped ⟨.refl deployment, fun _ => rfl⟩ Iff.rfl

theorem reportRunning_effect (here : project.status ≠ .suspended) :
    ReportEffect validateTrustedOrigin world deployment project payload
      (world.reportRunning deployment project).1 := by
  unfold reportRunning
  split
  · rename_i started
    have inProgress := active_of_started started
    exact .progressed here inProgress (.of_active inProgress ⟨rfl, rfl, rfl, rfl, rfl⟩) (by simp)
  · exact .refused

theorem reportFailed_effect (here : project.status ≠ .suspended) :
    ReportEffect validateTrustedOrigin world deployment project payload
      (world.reportFailed deployment project payload).1 := by
  unfold reportFailed
  split
  · rename_i started
    have inProgress := active_of_started started
    exact .progressed here inProgress (.of_active inProgress ⟨rfl, rfl, rfl, rfl, rfl⟩) (by simp)
  · exact .refused

theorem reportHealthy_effect (here : project.status ≠ .suspended)
    (reported : payload.status = .healthy) :
    ReportEffect validateTrustedOrigin world deployment project payload
      (world.reportHealthy validateTrustedOrigin deployment project payload).1 := by
  unfold reportHealthy
  split
  · rename_i accepted
    have current : deployment.status.active = true ∨ deployment.status = .healthy := by
      rcases accepted with status | status | status
      · exact .inl (active_of_started (.inl status))
      · exact .inl (active_of_started (.inr status))
      · exact .inr status
    have continues (origin : Option String) : Continues deployment { deployment with
          status := .healthy
          failureMessage := none
          originUrl := origin } := by
      refine ⟨⟨rfl, rfl, rfl, rfl, rfl⟩, fun settled => ?_⟩
      rcases current with inProgress | healthy
      · rw [inProgress] at settled
        cases settled
      · exact healthy.symm
    dsimp only
    cases present : presentText payload.originUrl with
    | none =>
      exact .promoted here reported (continues _) rfl (by simp [present]) current
    | some originUrl =>
      dsimp only
      cases check : validateTrustedOrigin originUrl with
      | trusted origin =>
        exact .promoted here reported (continues _) rfl (by simp [present, check]) current
      | malformed => exact .refused
      | rejected detail =>
        rcases current with inProgress | healthy
        · exact .progressed here inProgress
            (.of_active inProgress ⟨rfl, rfl, rfl, rfl, rfl⟩) (by simp)
        · exact .rejected detail here reported healthy
            (by simp [present, check]) ⟨rfl, rfl, rfl, rfl, rfl⟩ rfl
  · exact .refused

theorem report_effect (reported : world.reported nodeId deploymentId = .ok (deployment, project)) :
    ReportEffect validateTrustedOrigin world deployment project payload
      (world.reportDeploymentStatus validateTrustedOrigin nodeId deploymentId payload).1 := by
  unfold reportDeploymentStatus
  rw [reported]
  dsimp only
  split
  · exact reportSuspended_effect
  · rename_i here
    split
    · exact reportRunning_effect here
    · rename_i status
      exact reportHealthy_effect here status
    · exact reportFailed_effect here

theorem promoted_again (reported : world.reported nodeId deploymentId = .ok (deployment, project))
    (here : project.status ≠ .suspended) (status : payload.status = .healthy)
    (again : deployment.status = .healthy) (trusted : ∀ check, (presentText payload.originUrl).map
      validateTrustedOrigin = some check → ∃ origin, check = .trusted origin) :
    ∃ saved : HostingDeployment, saved.imageRef = deployment.imageRef ∧
      (world.reportDeploymentStatus validateTrustedOrigin nodeId deploymentId
        payload).1 = ((world.saveDeployment saved).saveProject { project with
            imageRef := some saved.imageRef
            status := world.promotedStatus deployment.id }).flush := by
  simp only [reportDeploymentStatus, reported, here, if_false, status,
    reportHealthy, again, reduceCtorEq, or_true, if_true]
  cases present : presentText payload.originUrl with
  | none =>
    refine ⟨_, ?_, rfl⟩
    rfl
  | some originUrl =>
    obtain ⟨origin, check⟩ := trusted (validateTrustedOrigin originUrl) (by rw [present]; rfl)
    dsimp only
    rw [check]
    refine ⟨_, ?_, rfl⟩
    rfl

theorem rejected_again (reported : world.reported nodeId deploymentId = .ok (deployment, project))
    (here : project.status ≠ .suspended) (status : payload.status = .healthy)
    (again : deployment.status = .healthy) {detail : String}
    (check : (presentText payload.originUrl).map validateTrustedOrigin = some (.rejected detail)) :
    ∃ (saved : HostingDeployment) (projectStatus : HostingProjectStatus),
      saved.id = deployment.id ∧ saved.status = .failed ∧
      (world.reportDeploymentStatus validateTrustedOrigin nodeId deploymentId
        payload).1 = ((world.saveDeployment saved).saveProject
          { project with status := projectStatus }).flush := by
  obtain ⟨originUrl, present, rejected⟩ := Option.map_eq_some_iff.mp check
  simp only [reportDeploymentStatus, reported, here, if_false, status,
    reportHealthy, again, reduceCtorEq, or_true, if_true, present, rejected]
  refine ⟨_, _, ?_, ?_, rfl⟩ <;> rfl

theorem deployment?_of_mem (orderly : world.Orderly) (member : deployment ∈ world.deployments) :
    world.deployment? deployment.id = some deployment :=
  find?_key orderly.issued.unique member

theorem not_keepsOutcomes (orderly : world.Orderly) (member : deployment ∈ world.deployments)
    (settled : deployment.status.active = false)
    {saved : HostingDeployment} (id : saved.id = deployment.id)
    (other : saved.status ≠ deployment.status) (deployments : after.deployments =
      (world.saveDeployment saved).deployments) : ¬ world.KeepsOutcomes after := by
  intro keeps
  have found := deployment?_of_mem orderly member
  obtain ⟨later, shown, same⟩ := keeps deployment.id deployment found settled
  unfold deployment? at found shown
  rw [deployments, saveDeployment, find?_replace, found, if_pos id.symm] at shown
  cases shown
  exact other same

theorem project?_save (saved : HostingProject) {id : ℕ}
    (found : world.project? id = some project) (same : saved.id = project.id)
    (projects : after.projects = (world.saveProject saved).projects) :
    after.project? project.id = some saved := by
  have foundId := (project?_spec found).2
  unfold project? at found ⊢
  rw [projects, saveProject, find?_replace, foundId, found, if_pos (foundId ▸ same.symm)]
  rfl

theorem RepeatsQuietly.unchanged (quiet : RepeatsQuietly validateTrustedOrigin world
      (.report nodeId deploymentId payload))
    (reported : world.reported nodeId deploymentId = .ok (deployment, project))
    (here : project.status ≠ .suspended) (status : payload.status = .healthy)
    (again : deployment.status = .healthy) (trusted : ∀ check, (presentText payload.originUrl).map
      validateTrustedOrigin = some check → ∃ origin, check = .trusted origin)
    (superseded : world.Superseded deployment) : project.imageRef = some deployment.imageRef ∧
      project.status = world.promotedStatus deployment.id := by
  have known := quiet deployment project reported here status again
  unfold QuietRepeat at known
  cases check : (presentText payload.originUrl).map validateTrustedOrigin with
  | none =>
    rw [check] at known
    exact known superseded
  | some outcome =>
    obtain ⟨origin, same⟩ := trusted outcome check
    rw [check, same] at known
    exact known superseded

theorem not_superseded_of_active (orderly : world.Orderly) (member : deployment ∈ world.deployments)
    (inProgress : deployment.status.active = true) : ¬ world.Superseded deployment := by
  rintro ⟨newer, newerMem, owner, greater⟩
  have le := orderly.successive.le_of_open member newerMem owner.symm inProgress
  omega

theorem report_settledOnce (orderly : world.Orderly)
    (quiet : RepeatsQuietly validateTrustedOrigin world (.report nodeId deploymentId payload)) :
    Advances world (world.reportDeploymentStatus validateTrustedOrigin nodeId
        deploymentId payload).1 ∧ IgnoresLate world (.report nodeId deploymentId payload)
        (world.reportDeploymentStatus validateTrustedOrigin nodeId deploymentId payload).1 := by
  cases found : world.reported nodeId deploymentId with
  | error detail =>
    have unchanged : (world.reportDeploymentStatus validateTrustedOrigin
        nodeId deploymentId payload).1 = world := by
      simp only [reportDeploymentStatus, found]
    rw [unchanged]
    refine ⟨.refl orderly, ?_⟩
    intro deployment project reported
    rw [found] at reported
    cases reported
  | ok pair =>
    obtain ⟨deployment, project⟩ := pair
    obtain ⟨member, -, owner⟩ := reported_spec found
    obtain ⟨projectMem, projectId⟩ := project?_spec owner
    have shown : world.project? project.id = some project := by
      rw [projectId]
      exact owner
    have late {after : HostingWorld} (kept : world.Superseded deployment →
          ∃ later, after.project? project.id = some later ∧ later.status = project.status ∧
            later.imageRef = project.imageRef) :
        IgnoresLate world (.report nodeId deploymentId payload) after := by
      intro other otherProject reported
      rw [found] at reported
      cases reported
      exact kept
    have effect : ReportEffect validateTrustedOrigin world deployment
        project payload (world.reportDeploymentStatus validateTrustedOrigin
          nodeId deploymentId payload).1 := report_effect found
    generalize (world.reportDeploymentStatus validateTrustedOrigin nodeId
      deploymentId payload).1 = after at effect ⊢
    cases effect with
    | refused => exact ⟨.refl orderly, late fun _ => ⟨project, shown, rfl, rfl⟩⟩
    | stopped continues healthy =>
      exact ⟨.save orderly member continues rfl rfl rfl healthy,
        late fun _ => ⟨project, shown, rfl, rfl⟩⟩
    | progressed here inProgress continues unhealthy =>
      exact ⟨.progress orderly member inProgress projectMem continues unhealthy,
        late fun superseded => absurd superseded
          (not_superseded_of_active orderly member inProgress)⟩
    | rejected detail here status again check same failed =>
      have known := quiet deployment project found here status again
      unfold QuietRepeat at known
      rw [check] at known
      exact known.elim
    | @promoted saved here status continues healthy trusted current =>
      by_cases superseded : world.Superseded deployment
      · have again := current.resolve_left fun inProgress =>
          not_superseded_of_active orderly member inProgress superseded
        obtain ⟨image, projectStatus⟩ := quiet.unchanged found here status again trusted superseded
        have sameImage := congrArg some continues.imageRef
        refine ⟨.save orderly member continues rfl
          (images_saveProject orderly.projects projectMem rfl (sameImage.trans image.symm)) rfl
          ⟨fun _ => again, fun _ => healthy⟩, late fun _ => ?_⟩
        exact ⟨_, project?_save { project with
              imageRef := some saved.imageRef
              status := world.promotedStatus deployment.id }
            owner rfl rfl, projectStatus.symm, sameImage.trans image.symm⟩
      · exact ⟨.promote orderly member continues healthy superseded rfl rfl rfl projectId rfl,
          late fun older => absurd older superseded⟩

theorem repeatsQuietly_of_settledOnce (orderly : world.Orderly)
    (settles : SettledOnce world (.report nodeId deploymentId payload)
      (world.reportDeploymentStatus validateTrustedOrigin nodeId deploymentId payload).1) :
    RepeatsQuietly validateTrustedOrigin world (.report nodeId deploymentId payload) := by
  intro deployment project found here status again
  obtain ⟨member, -, owner⟩ := reported_spec found
  have settled : deployment.status.active = false := by
    rw [again]
    rfl
  have promoted (trusted : ∀ check, (presentText payload.originUrl).map
      validateTrustedOrigin = some check → ∃ origin,
        check = .trusted origin) (superseded : world.Superseded deployment) :
      project.imageRef = some deployment.imageRef ∧
        project.status = world.promotedStatus deployment.id := by
    obtain ⟨saved, image, written⟩ := promoted_again found here status again trusted
    obtain ⟨later, shown, sameStatus, sameImage⟩ := settles.late deployment project found superseded
    rw [written] at shown
    have same := shown.symm.trans (project?_save { project with
        imageRef := some saved.imageRef
        status := world.promotedStatus deployment.id } owner rfl rfl)
    cases same
    exact ⟨sameImage.symm.trans (congrArg some image), sameStatus.symm⟩
  unfold QuietRepeat
  cases check : (presentText payload.originUrl).map validateTrustedOrigin with
  | none => exact promoted (by simp [check])
  | some outcome =>
    cases outcome with
    | trusted origin => exact promoted (by simp [check])
    | malformed => exact True.intro
    | rejected detail =>
      obtain ⟨saved, projectStatus, id, failed, written⟩ :=
        rejected_again found here status again check
      have outcomes := settles.outcomes
      rw [written] at outcomes
      exact not_keepsOutcomes orderly member settled id (by simp [failed, again]) rfl outcomes

end Reports

section Runs

variable (services : HostingServices) (validateTrustedOrigin : String → OriginCheck)

def RollsOut (before : HostingWorld) (action : RolloutAction) (after : HostingWorld) : Prop :=
  after = before.rollout services validateTrustedOrigin action

theorem rollout_settledOnce {before after : HostingWorld}
    {action : RolloutAction} (orderly : before.Orderly)
    (move : RollsOut services validateTrustedOrigin before action after)
    (quiet : RepeatsQuietly validateTrustedOrigin before action) :
    after.Orderly ∧ SettledOnce before action after := by
  have advances : Advances before after ∧ IgnoresLate before action after := by
    rw [move]
    cases action with
    | report nodeId deploymentId payload => exact report_settledOnce orderly quiet
    | deploy now projectId imageRef imageDigest sourceCommit =>
      exact ⟨.withProject orderly projectId fun project after member made =>
        .createDeployment orderly member made, True.intro⟩
    | rollback now projectId deploymentId =>
      exact ⟨.withProject orderly projectId fun project after member made =>
        .rollbackDeployment orderly member made, True.intro⟩
    | replace now attemptId preferred =>
      exact ⟨.replaceDeployment services orderly attemptId preferred now, True.intro⟩
    | claim nodeId environment => exact ⟨.claimDeployment orderly _ nodeId, True.intro⟩
    | setProjectStatus projectId status =>
      refine ⟨.of_same orderly rfl ?_ (Nat.le_refl _), True.intro⟩
      simp only [rollout, setProjectStatus, flush, images, List.map_map]
      apply List.map_congr_left
      intro row _
      dsimp only [Function.comp]
      split <;> rfl
    | setNode row => exact ⟨.of_same orderly rfl rfl (Nat.le_refl _), True.intro⟩
    | setAttempts attempts => exact ⟨.of_same orderly rfl rfl (Nat.le_refl _), True.intro⟩
  exact ⟨advances.1.orderly, advances.1.outcomes, advances.1.orderly.image, advances.2⟩

theorem Orderly.start {world : HostingWorld}
    (projects : (world.projects.map HostingProject.id).Nodup)
    (none : world.deployments = []) : world.Orderly := by
  refine ⟨projects, none ▸ Issued.nil, none ▸ Successive.nil, ?_⟩
  intro project _ deployment newest
  have member := newest.1
  rw [none] at member
  cases member

/-- Outcomes are settled once exactly in the runs whose repeated reports are
quiet. -/
theorem settledOnce_iff_repeatsQuietly {start : HostingWorld}
    (projects : (start.projects.map HostingProject.id).Nodup)
    (none : start.deployments = []) (actions : List RolloutAction) :
    EveryStep (RollsOut services validateTrustedOrigin) SettledOnce start actions ↔
      EveryStep (RollsOut services validateTrustedOrigin)
        (fun before action _ => RepeatsQuietly validateTrustedOrigin before
          action) start actions := by
  have initial := Orderly.start projects none
  have needed (before after : HostingWorld) (action : RolloutAction) (orderly : before.Orderly)
      (move : RollsOut services validateTrustedOrigin before action after)
      (settles : SettledOnce before action after) :
      RepeatsQuietly validateTrustedOrigin before action := by
    cases action with
    | report nodeId deploymentId payload =>
      rw [move] at settles
      exact repeatsQuietly_of_settledOnce orderly settles
    | deploy | rollback | replace | claim | setProjectStatus | setNode
    | setAttempts => exact True.intro
  constructor
  · intro everyStep
    refine EveryStep.of_invariant initial ?_ ?_ everyStep
    · exact fun before action after orderly move settles =>
        (rollout_settledOnce services validateTrustedOrigin orderly move
          (needed before after action orderly move settles)).1
    · exact fun before action after orderly move settles =>
        needed before after action orderly move settles
  · intro everyStep
    refine EveryStep.of_invariant initial ?_ ?_ everyStep
    · exact fun before action after orderly move quiet =>
        (rollout_settledOnce services validateTrustedOrigin orderly move quiet).1
    · exact fun before action after orderly move quiet =>
        (rollout_settledOnce services validateTrustedOrigin orderly move quiet).2

end Runs

instance (world : HostingWorld) (deployment : HostingDeployment) :
    Decidable (world.Superseded deployment) :=
  inferInstanceAs (Decidable (∃ _ ∈ _, _ ∧ _))

instance (validateTrustedOrigin : String → OriginCheck)
    (world : HostingWorld) (deployment : HostingDeployment)
    (project : HostingProject) (payload : AgentStatusUpdate) :
    Decidable (QuietRepeat validateTrustedOrigin world deployment project payload) := by
  dsimp only [QuietRepeat]
  split <;> infer_instance

instance (validateTrustedOrigin : String → OriginCheck)
    (before : HostingWorld) (action : RolloutAction) :
    Decidable (RepeatsQuietly validateTrustedOrigin before action) :=
  match action with
  | .report nodeId deploymentId payload =>
    match found : before.reported nodeId deploymentId with
    | .error _ => .isTrue (by simp [RepeatsQuietly, found])
    | .ok (deployment, project) =>
      decidable_of_iff (project.status ≠ .suspended → payload.status = .healthy →
          deployment.status = .healthy → QuietRepeat validateTrustedOrigin before deployment project
              payload)
        (by simp [RepeatsQuietly, found])
  | .deploy .. | .rollback .. | .replace .. | .claim .. | .setProjectStatus ..
  | .setNode _ | .setAttempts _ => .isTrue True.intro

def privateOrigin (origin : String) : OriginCheck :=
  if origin = "http://10.20.0.5:20001" then .trusted origin
  else .rejected "Hosting origin IP is outside the configured trusted origin networks"

def firstImage : String :=
  "ghcr.io/ithute-stak/hosted-shop@sha256:" ++
    "0a1b0a1b0a1b0a1b0a1b0a1b0a1b0a1b0a1b0a1b0a1b0a1b0a1b0a1b0a1b0a1b"

def secondImage : String :=
  "ghcr.io/ithute-stak/hosted-shop@sha256:" ++
    "2c3d2c3d2c3d2c3d2c3d2c3d2c3d2c3d2c3d2c3d2c3d2c3d2c3d2c3d2c3d2c3d"

def rolloutWorld : HostingWorld where
  nextId := 10
  projects := [{ strandedProject with nodeId := some 2, status := .configured }]
  flushedProjects := [{ strandedProject with nodeId := some 2, status := .configured }]
  databases := []
  deployments := []
  attempts := []
  flushedAttempts := []
  retirements := []
  nodes := [spareRow true]
  audits := []

def healthyReport : AgentStatusUpdate where
  status := .healthy
  originUrl := some "http://10.20.0.5:20001"

def releasedTwice : List RolloutAction :=
  [.deploy 1 3 firstImage "sha256:0a1b" none, .claim 2 (.ok []), .report 2 10 healthyReport,
    .deploy 2 3 secondImage "sha256:2c3d" none, .claim 2 (.ok []), .report 2 11 healthyReport]

theorem settledOnce_releasedTwice :
    EveryStep (RollsOut openPlacement privateOrigin) SettledOnce rolloutWorld releasedTwice :=
  (settledOnce_iff_repeatsQuietly openPlacement privateOrigin (by decide) rfl
    releasedTwice).mpr (EveryStep.of_stepByStep (by decide))

/-- The first release is reported healthy once more, and the project shows its
image again. -/
theorem lateReport_reverts : ¬ EveryStep (RollsOut openPlacement privateOrigin) SettledOnce
      rolloutWorld (releasedTwice ++ [.report 2 10 healthyReport]) := by
  intro everyStep
  have settles := everyStep releasedTwice (.report 2 10 healthyReport) [] _ _
    rfl (Run.of_foldl (rollout openPlacement privateOrigin) releasedTwice rolloutWorld) rfl
  obtain ⟨later, shown, -, image⟩ := settles.late _ _ rfl (by decide)
  have reverted := congrArg (Option.map HostingProject.imageRef) shown
  have kept := reverted.trans (congrArg some image)
  revert kept
  decide

end HostingWorld

end Ithute
