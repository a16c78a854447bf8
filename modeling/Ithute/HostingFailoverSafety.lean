import Ithute.HostingFailover

/-!
# Replacements that reset data

A replacement deployment resets the data volume of its project.  The checks
that make this safe are made when an attempt is created, and a pending
attempt may be queued passes later without them.
-/

namespace Ithute

open TransitionRuns

namespace HostingWorld

def policyOf (world : HostingWorld) (projectId : ℕ) : Option FailoverPolicy :=
  (world.project? projectId).map HostingProject.failoverPolicy

/-- The project may lose its local data: it opted in to stateless failover
and has no live managed database. -/
def SafeToReset (world : HostingWorld) (projectId : ℕ) : Prop :=
  world.policyOf projectId = some .statelessAuto ∧
    ∀ database ∈ world.databases, database.projectId = some projectId → database.status.live = false

def newDeployments (before after : HostingWorld) : List HostingDeployment :=
  after.deployments.drop before.deployments.length

/-- Every added deployment that resets data is for a safe project. -/
def ResetsOnlySafe (before after : HostingWorld) : Prop :=
  ∀ deployment ∈ newDeployments before after, deployment.resetDataVolume = true →
      before.SafeToReset deployment.projectId

variable (world : HostingWorld) (project : HostingProject)

theorem managedDatabaseDependency_eq_none : world.managedDatabaseDependency project = none ↔
      ∀ database ∈ world.databases, database.projectId = some project.id →
        database.status.live = false := by
  simp [managedDatabaseDependency, List.argmin_eq_none, List.filter_eq_nil_iff]

/-- Deployments are only added, and neither policies nor databases
change. -/
structure Extends (before after : HostingWorld) : Prop where
  deployments : before.deployments <+: after.deployments
  databases : after.databases = before.databases
  policies : ∀ id, after.policyOf id = before.policyOf id

namespace Extends

variable {first second third : HostingWorld}

theorem refl (world : HostingWorld) : Extends world world := ⟨List.prefix_rfl, rfl, fun _ => rfl⟩

theorem trans (one : Extends first second) (two : Extends second third) : Extends first third :=
  ⟨one.deployments.trans two.deployments, two.databases.trans one.databases,
    fun id => (two.policies id).trans (one.policies id)⟩

theorem safeToReset (extends' : Extends first second) (id : ℕ) :
    second.SafeToReset id ↔ first.SafeToReset id := by
  unfold SafeToReset
  rw [extends'.databases, extends'.policies]

theorem resetsOnlySafe_of_eq (same : second.deployments = first.deployments) :
    ResetsOnlySafe first second := by
  intro deployment member
  simp [newDeployments, same] at member

theorem newDeployments_trans (one : Extends first second) (two : Extends second third) :
    newDeployments first third = newDeployments first second ++ newDeployments second third := by
  obtain ⟨added, deployments⟩ := one.deployments
  obtain ⟨added', deployments'⟩ := two.deployments
  simp [newDeployments, ← deployments', ← deployments]

theorem resetsOnlySafe_trans (one : Extends first second) (two : Extends second third) :
    ResetsOnlySafe first third ↔ ResetsOnlySafe first second ∧ ResetsOnlySafe second third := by
  unfold ResetsOnlySafe
  rw [newDeployments_trans one two]
  simp only [List.forall_mem_append, one.safeToReset]

end Extends

theorem project?_saveProject (id : ℕ) :
    (world.saveProject project).project? id = (world.project? id).map fun row =>
        if row.id = project.id then project else row := by
  unfold project? saveProject
  rw [List.find?_map]
  congr 2
  funext row
  by_cases same : row.id = project.id <;> simp [same]

theorem policyOf_saveProject {world : HostingWorld} {project : HostingProject}
    (current : world.policyOf project.id = some project.failoverPolicy) (id : ℕ) :
    (world.saveProject project).policyOf id = world.policyOf id := by
  unfold policyOf at current ⊢
  rw [project?_saveProject]
  cases found : world.project? id with
  | none => rfl
  | some row =>
    have rowId : row.id = id := by simpa using List.find?_some found
    by_cases same : row.id = project.id
    · rw [← same, rowId, found] at current
      simpa [same] using current.symm
    · simp [same]

theorem extends_saveAttempt (attempt : HostingFailoverAttempt) :
    Extends world (world.saveAttempt attempt) :=
  ⟨List.prefix_rfl, rfl, fun _ => rfl⟩

theorem extends_flush : Extends world world.flush :=
  ⟨List.prefix_rfl, rfl, fun _ => rfl⟩

theorem extends_audit (entry : FailoverAudit) : Extends world (world.audit entry) :=
  ⟨List.prefix_rfl, rfl, fun _ => rfl⟩

theorem extends_createAttempt (sourceNodeId : ℕ)
    (status : FailoverAttemptStatus) (reason : Option String) (startedAt : Option ℤ) (now : ℤ) :
    Extends world (world.createAttempt project sourceNodeId status reason startedAt now).1 :=
  ⟨List.prefix_rfl, rfl, fun _ => rfl⟩

theorem extends_saveProject {world : HostingWorld} {project : HostingProject}
    (current : world.policyOf project.id = some project.failoverPolicy) :
    Extends world (world.saveProject project) :=
  ⟨List.prefix_rfl, rfl, policyOf_saveProject current⟩

end HostingWorld

open HostingWorld

def ReadyToQueue (services : HostingServices) (world : HostingWorld)
    (project : HostingProject) (sourceNodeId : ℕ) (preferredTargetNodeId : Option ℕ) : Prop :=
  world.activeDeployment project.id = none ∧ (world.lastHealthy project.id).isSome ∧ ∃ target,
      eligibleTarget services world project sourceNodeId preferredTargetNodeId = .ok target ∧
        (world.node? target).any HostingNodeRow.hasAgent = true

section Visits

variable (services : HostingServices) (now : ℤ)

theorem queueReplacement_cases (relocation : Relocation) (now : ℤ) (preferred : Option ℕ) :
    (ReadyToQueue services relocation.world relocation.project
        relocation.attempt.sourceNodeId preferred ∧
      ∃ previous target, queueReplacement services relocation now preferred = relocation.deploy
            (replacementDeployment relocation previous target now) target) ∨
    (¬ ReadyToQueue services relocation.world relocation.project
        relocation.attempt.sourceNodeId preferred ∧
      ∃ attempt, queueReplacement services relocation now preferred = relocation.settle attempt ∧
        attempt.deploymentId = relocation.attempt.deploymentId) := by
  unfold ReadyToQueue
  cases active : relocation.world.activeDeployment relocation.project.id with
  | some deployment =>
    refine .inr ⟨by simp, ?_⟩
    simp only [queueReplacement, active, Option.isSome_some, if_true]
    exact ⟨_, rfl, rfl⟩
  | none =>
    cases healthy : relocation.world.lastHealthy relocation.project.id with
    | none =>
      refine .inr ⟨by simp, ?_⟩
      simp only [queueReplacement, active, healthy, Option.isSome_none]
      exact ⟨_, rfl, rfl⟩
    | some previous =>
      cases eligible : eligibleTarget services relocation.world
          relocation.project relocation.attempt.sourceNodeId preferred with
      | error error =>
        refine .inr ⟨by simp, ?_⟩
        simp only [queueReplacement, active, healthy, eligible, Option.isSome_none]
        exact ⟨_, rfl, rfl⟩
      | ok target =>
        by_cases agent : (relocation.world.node? target).any HostingNodeRow.hasAgent = true
        · refine .inl ⟨by simp [agent], previous, target, ?_⟩
          simp only [queueReplacement, active, healthy, eligible, agent,
            Option.isSome_none, if_true]
          rfl
        · refine .inr ⟨by simp [agent], ?_⟩
          simp only [queueReplacement, active, healthy, eligible, agent, Option.isSome_none]
          exact ⟨_, rfl, rfl⟩

/-- The project of a relocation has the policy that the tables give it. -/
def Relocation.Current (relocation : Relocation) : Prop :=
  relocation.world.policyOf relocation.project.id = some relocation.project.failoverPolicy

theorem Relocation.extends_settle (relocation : Relocation) (attempt : HostingFailoverAttempt) :
    Extends relocation.world (relocation.settle attempt).world :=
  extends_saveAttempt relocation.world attempt

variable {relocation : Relocation}

theorem Relocation.extends_deploy
    (current : relocation.Current) (deployment : HostingDeployment) (target : ℕ) :
    Extends relocation.world (relocation.deploy deployment target).world :=
  ⟨List.prefix_append _ _, rfl, policyOf_saveProject current⟩

theorem Relocation.deployments_deploy (relocation : Relocation)
    (deployment : HostingDeployment) (target : ℕ) : newDeployments relocation.world
      (relocation.deploy deployment target).world = [deployment] := by
  simp [newDeployments, Relocation.deploy, HostingWorld.audit, saveProject, saveAttempt, flush]

theorem extends_queueReplacement
    (current : relocation.Current) (now : ℤ) (preferred : Option ℕ) : Extends relocation.world
      (queueReplacement services relocation now preferred).world := by
  rcases queueReplacement_cases services relocation now preferred with
    ⟨-, previous, target, queued⟩ | ⟨-, attempt, waiting, -⟩
  · rw [queued]
    exact Relocation.extends_deploy current _ target
  · rw [waiting]
    exact relocation.extends_settle attempt

theorem current_queueReplacement (current : relocation.Current) (now : ℤ) (preferred : Option ℕ) :
    (queueReplacement services relocation now preferred).Current := by
  have kept := (extends_queueReplacement services current now preferred).policies
  unfold Relocation.Current at current ⊢
  rcases queueReplacement_cases services relocation now preferred with
    ⟨-, previous, target, queued⟩ | ⟨-, attempt, waiting, -⟩
  · rw [queued] at kept ⊢
    exact (kept _).trans current
  · rw [waiting] at kept ⊢
    exact (kept _).trans current

def Keeps (before after : HostingWorld) : Prop :=
  Extends before after ∧ after.deployments = before.deployments

theorem keeps_queueSourceRetirement (world : HostingWorld)
    (project : HostingProject) (sourceNodeId : ℕ) (now : ℤ) :
    Keeps world (queueSourceRetirement world project sourceNodeId now).1 := by
  unfold queueSourceRetirement
  split
  · exact ⟨Extends.refl world, rfl⟩
  · exact ⟨⟨List.prefix_rfl, rfl, fun _ => rfl⟩, rfl⟩

theorem Keeps.trans {first second third : HostingWorld}
    (one : Keeps first second) (two : Keeps second third) : Keeps first third :=
  ⟨one.1.trans two.1, two.2.trans one.2⟩

theorem keeps_settle (relocation : Relocation) (attempt : HostingFailoverAttempt) :
    Keeps relocation.world (relocation.settle attempt).world :=
  ⟨relocation.extends_settle attempt, rfl⟩

variable {world : HostingWorld} {project : HostingProject}

theorem keeps_save (current : world.policyOf project.id = some project.failoverPolicy)
    (attempt : HostingFailoverAttempt) :
    Keeps world ((world.saveAttempt attempt).saveProject project) :=
  ⟨(extends_saveAttempt world attempt).trans (extends_saveProject current), rfl⟩

theorem keeps_fail (current : relocation.Current) (deployment : HostingDeployment) (now : ℤ) :
    Keeps relocation.world (relocation.fail deployment now).world := by
  have saved : Keeps relocation.world ((relocation.world.saveAttempt
        (relocation.failedAttempt deployment now)).saveProject relocation.failedProject) := by
    apply keeps_save
    exact current
  exact saved.trans ⟨extends_audit _ _, rfl⟩

theorem keeps_complete (current : relocation.Current) (deployment : HostingDeployment)
    (edgeStatus : String) (now : ℤ) : Keeps relocation.world
      (relocation.complete deployment edgeStatus now).world := by
  have saved : Keeps relocation.world ((relocation.world.saveAttempt
        (relocation.completedAttempt edgeStatus now)).saveProject
          (relocation.cutOver deployment)) := by
    apply keeps_save
    exact current
  have retired := keeps_queueSourceRetirement ((relocation.world.saveAttempt
      (relocation.completedAttempt edgeStatus now)).saveProject (relocation.cutOver deployment))
    (relocation.cutOver deployment) relocation.attempt.sourceNodeId now
  exact (saved.trans retired).trans ⟨extends_audit _ _, rfl⟩

theorem keeps_finalizeAttempt (current : relocation.Current) (now : ℤ) :
    Keeps relocation.world (finalizeAttempt services relocation now).world := by
  have unchanged : Keeps relocation.world relocation.world := ⟨Extends.refl _, rfl⟩
  unfold finalizeAttempt
  dsimp only
  split
  · exact keeps_settle relocation _
  · split_ifs
    · exact keeps_fail current _ now
    · exact unchanged
    · split
      · exact unchanged
      · split
        · exact keeps_settle relocation _
        · split_ifs
          · exact keeps_settle relocation _
          · exact keeps_complete current _ _ now

theorem keeps_prepareAttempt (world : HostingWorld)
    (project : HostingProject) (sourceNodeId : ℕ) (now : ℤ) :
    Keeps world (prepareAttempt world project sourceNodeId now).1 := by
  unfold prepareAttempt
  split
  · exact ⟨Extends.refl _, rfl⟩
  · split_ifs
    · exact ⟨extends_createAttempt world project _ _ _ _ now, rfl⟩
    · split
      · exact ⟨extends_createAttempt world project _ _ _ _ now, rfl⟩
      · split <;>
          exact ⟨extends_createAttempt world project _ _ _ _ now, rfl⟩

theorem prepareAttempt_existing {sourceNodeId : ℕ} {attempt : HostingFailoverAttempt}
    (existing : world.attempt project.id sourceNodeId = some attempt) (now : ℤ) :
    prepareAttempt world project sourceNodeId now = (world, attempt) := by
  simp [prepareAttempt, existing]

theorem pending_prepareAttempt {sourceNodeId : ℕ} {now : ℤ}
    (current : world.policyOf project.id = some project.failoverPolicy)
    (pending : (prepareAttempt world project sourceNodeId now).2.status = .pending) :
    (∃ attempt, world.attempt project.id sourceNodeId = some attempt ∧ attempt.status = .pending ∧
      prepareAttempt world project sourceNodeId now = (world, attempt)) ∨
    world.SafeToReset project.id := by
  cases existing : world.attempt project.id sourceNodeId with
  | some attempt =>
    have same := prepareAttempt_existing existing now
    rw [same] at pending
    exact .inl ⟨attempt, rfl, pending, same⟩
  | none =>
    right
    by_cases automatic : project.failoverPolicy = .statelessAuto
    · cases managed : world.managedDatabaseDependency project with
      | some database =>
        simp [prepareAttempt, existing, automatic, managed, createAttempt] at pending
      | none =>
        refine ⟨?_, ?_⟩
        · rw [current, automatic]
        · exact (managedDatabaseDependency_eq_none world project).mp managed
    · simp [prepareAttempt, existing, automatic, createAttempt] at pending

/-- The state before a visit in which a replacement is queued for a project
that may not lose its data. -/
def Dangerous (world : HostingWorld) (sourceNodeId : ℕ) (project : HostingProject) : Prop :=
  ∃ attempt, world.attempt project.id sourceNodeId = some attempt ∧ attempt.status = .pending ∧
    ReadyToQueue services world project attempt.sourceNodeId none ∧ ¬ world.SafeToReset project.id

/-- Queueing resets only safe projects exactly when it waits or the project
is safe. -/
theorem queueReplacement_resetsOnlySafe_iff (relocation : Relocation)
    (now : ℤ) (preferred : Option ℕ) : ResetsOnlySafe relocation.world
        (queueReplacement services relocation now preferred).world ↔
      (ReadyToQueue services relocation.world relocation.project
          relocation.attempt.sourceNodeId preferred →
        relocation.world.SafeToReset relocation.project.id) := by
  rcases queueReplacement_cases services relocation now preferred with
    ⟨ready, previous, target, queued⟩ | ⟨notReady, attempt, waiting, -⟩
  · unfold ResetsOnlySafe
    rw [queued, relocation.deployments_deploy]
    simp [ready, replacementDeployment]
  · rw [waiting]
    constructor
    · intro _ ready
      exact absurd ready notReady
    · intro _
      exact Extends.resetsOnlySafe_of_eq (keeps_settle relocation attempt).2

def visitStart (world : HostingWorld) (project : HostingProject)
    (sourceNodeId : ℕ) (now : ℤ) : Relocation :=
  let prepared := prepareAttempt world project sourceNodeId now
  ⟨prepared.1, prepared.2, project⟩

/-- The relocation of a visit after its chance to queue a replacement. -/
def visitQueued (world : HostingWorld) (project : HostingProject)
    (sourceNodeId : ℕ) (now : ℤ) : Relocation :=
  let start := visitStart world project sourceNodeId now
  if start.attempt.status = .pending then
    queueReplacement services start now none
  else start

theorem visitProject_phases (current : world.policyOf project.id = some project.failoverPolicy)
    (sourceNodeId : ℕ) (now : ℤ) : Keeps world (visitStart world project sourceNodeId now).world ∧
      Extends (visitStart world project sourceNodeId now).world
        (visitQueued services world project sourceNodeId now).world ∧
      Keeps (visitQueued services world project sourceNodeId now).world
        (visitProject services now sourceNodeId world project).1 := by
  have prepares : Keeps world (visitStart world project sourceNodeId now).world :=
    keeps_prepareAttempt world project sourceNodeId now
  have startCurrent : (visitStart world project sourceNodeId now).Current :=
    (prepares.1.policies _).trans current
  have queues : Extends (visitStart world project sourceNodeId now).world
        (visitQueued services world project sourceNodeId now).world ∧
      (visitQueued services world project sourceNodeId now).Current := by
    unfold visitQueued
    dsimp only
    split_ifs
    · exact ⟨extends_queueReplacement services startCurrent now none,
        current_queueReplacement services startCurrent now none⟩
    · exact ⟨Extends.refl _, startCurrent⟩
  refine ⟨prepares, queues.1, ?_⟩
  have afterEq : (visitProject services now sourceNodeId world project).1 =
      (if (visitQueued services world project sourceNodeId now).attempt.status = .deploying ∨
          (visitQueued services world project sourceNodeId now).attempt.status = .edgePending then
        finalizeAttempt services (visitQueued services world project sourceNodeId now) now
      else visitQueued services world project sourceNodeId now).world := rfl
  rw [afterEq]
  split_ifs
  · exact keeps_finalizeAttempt services queues.2 now
  · exact ⟨Extends.refl _, rfl⟩

theorem visitProject_spec (current : world.policyOf project.id = some project.failoverPolicy)
    (sourceNodeId : ℕ) (now : ℤ) :
    let after := (visitProject services now sourceNodeId world project).1
    Extends world after ∧ (ResetsOnlySafe world after ↔
        ¬ Dangerous services world sourceNodeId project) := by
  intro after
  obtain ⟨prepares, queues, settles⟩ := visitProject_phases services current sourceNodeId now
  refine ⟨(prepares.1.trans queues).trans settles.1, ?_⟩
  rw [Extends.resetsOnlySafe_trans (prepares.1.trans queues) settles.1,
    Extends.resetsOnlySafe_trans prepares.1 queues]
  simp only [Extends.resetsOnlySafe_of_eq prepares.2,
    Extends.resetsOnlySafe_of_eq settles.2, true_and, and_true]
  unfold visitQueued
  dsimp only
  by_cases pending : (visitStart world project sourceNodeId now).attempt.status = .pending
  · rw [if_pos pending, queueReplacement_resetsOnlySafe_iff]
    rcases pending_prepareAttempt current pending with
      ⟨attempt, existing, attemptPending, same⟩ | safe
    · have startSame : visitStart world project sourceNodeId now = ⟨world, attempt, project⟩ := by
        rw [visitStart, same]
      rw [startSame]
      constructor
      · rintro whenReady ⟨other, found, -, ready, unsafe'⟩
        rw [existing, Option.some.injEq] at found
        subst found
        exact unsafe' (whenReady ready)
      · intro calm ready
        by_contra unsafe'
        exact calm ⟨attempt, existing, attemptPending, ready, unsafe'⟩
    · have safeStart := (prepares.1.safeToReset project.id).mpr safe
      constructor
      · rintro - ⟨attempt, -, -, -, unsafe'⟩
        exact unsafe' safe
      · intro _ _
        exact safeStart
  · rw [if_neg pending]
    constructor
    · rintro - ⟨attempt, existing, attemptPending, -⟩
      apply pending
      rw [visitStart, prepareAttempt_existing existing]
      exact attemptPending
    · intro _
      exact Extends.resetsOnlySafe_of_eq rfl

structure VisitMoment where
  world : HostingWorld
  sourceNodeId : ℕ
  project : HostingProject

def VisitMoment.Dangerous (moment : VisitMoment) : Prop :=
  Ithute.Dangerous services moment.world moment.sourceNodeId moment.project

def visitProjects (now : ℤ) (sourceNodeId : ℕ) (world : HostingWorld)
    (projects : List HostingProject) : HostingWorld :=
  projects.foldl (fun world project =>
      (visitProject services now sourceNodeId world project).1) world

def projectMoments (now : ℤ) (sourceNodeId : ℕ) :
    HostingWorld → List HostingProject → List VisitMoment
  | _, [] => []
  | world, project :: projects =>
    ⟨world, sourceNodeId, project⟩ :: projectMoments now sourceNodeId
        (visitProject services now sourceNodeId world project).1 projects

def sourceProjects (world : HostingWorld) (state : HostingNodeRow) : List HostingProject :=
  match world.node? state.id with
  | none => []
  | some source =>
    if source.hosted.node.status ≠ .draining ∨ source.hosted.node.acceptsNewProjects then []
    else world.projectsOn source.id

def sourceMoments (now : ℤ) : HostingWorld → List HostingNodeRow → List VisitMoment
  | _, [] => []
  | world, state :: states =>
    let projects := sourceProjects world state
    projectMoments services now state.id world projects ++
      sourceMoments now (visitProjects services now state.id world projects) states

def reconcileMoments (failoverAfterSeconds now limit : ℤ)
    (world : HostingWorld) : List VisitMoment :=
  sourceMoments services now world
    (world.unhealthyNodes (now - max failoverAfterSeconds 60 * 10 ^ 6) limit)

theorem visitSource_world (pass : FailoverPass) (state : HostingNodeRow) :
    (visitSource services now pass state).world = visitProjects services now state.id pass.world
        (sourceProjects pass.world state) := by
  unfold visitSource sourceProjects
  cases found : pass.world.node? state.id with
  | none => rfl
  | some source =>
    have sourceId : source.id = state.id := by simpa using List.find?_some found
    simp only [sourceId]
    split_ifs
    · rfl
    · exact (List.foldl_hom FailoverPass.world (fun _ _ => rfl)).symm

theorem current_of_project? {id : ℕ} (found : world.project? id = some project) :
    world.policyOf project.id = some project.failoverPolicy := by
  have projectId : project.id = id := by simpa using List.find?_some found
  rw [projectId, policyOf, found]
  rfl

theorem current_of_sourceProjects {state : HostingNodeRow}
    (member : project ∈ sourceProjects world state) :
    world.policyOf project.id = some project.failoverPolicy := by
  unfold sourceProjects at member
  split at member
  · cases member
  · split_ifs at member
    · cases member
    · obtain ⟨row, -, found⟩ := List.mem_filterMap.mp member
      exact current_of_project? found

theorem visitProjects_spec (sourceNodeId : ℕ)
    (projects : List HostingProject) (current : ∀ project ∈ projects,
      world.policyOf project.id = some project.failoverPolicy) :
    let after := visitProjects services now sourceNodeId world projects
    Extends world after ∧ (ResetsOnlySafe world after ↔
        ∀ moment ∈ projectMoments services now sourceNodeId world projects,
          ¬ moment.Dangerous services) := by
  induction projects generalizing world with
  | nil =>
    refine ⟨Extends.refl world, ?_⟩
    simp only [projectMoments, List.not_mem_nil, false_implies, implies_true, iff_true]
    exact Extends.resetsOnlySafe_of_eq rfl
  | cons project projects ih =>
    intro after
    obtain ⟨first, firstSafe⟩ := visitProject_spec services
      (current project List.mem_cons_self) sourceNodeId now
    have later : ∀ other ∈ projects,
        ((visitProject services now sourceNodeId world project).1).policyOf
          other.id = some other.failoverPolicy := by
      intro other member
      rw [first.policies]
      exact current other (List.mem_cons_of_mem project member)
    obtain ⟨rest, restSafe⟩ := ih later
    have together := Extends.resetsOnlySafe_trans first rest
    rw [firstSafe, restSafe] at together
    refine ⟨first.trans rest, together.trans ?_⟩
    simp [projectMoments, VisitMoment.Dangerous]

theorem visitSources_spec (states : List HostingNodeRow) (pass : FailoverPass) :
    let after := (states.foldl (visitSource services now) pass).world
    Extends pass.world after ∧ (ResetsOnlySafe pass.world after ↔
        ∀ moment ∈ sourceMoments services now pass.world states, ¬ moment.Dangerous services) := by
  induction states generalizing pass with
  | nil =>
    refine ⟨Extends.refl pass.world, ?_⟩
    simp only [sourceMoments, List.not_mem_nil, false_implies, implies_true, iff_true]
    exact Extends.resetsOnlySafe_of_eq rfl
  | cons state states ih =>
    intro after
    obtain ⟨first, firstSafe⟩ := visitProjects_spec services now state.id
      (sourceProjects pass.world state) (fun project => current_of_sourceProjects)
    obtain ⟨rest, restSafe⟩ := ih (visitSource services now pass state)
    rw [visitSource_world] at rest restSafe
    have together := Extends.resetsOnlySafe_trans first rest
    rw [firstSafe, restSafe] at together
    refine ⟨first.trans rest, together.trans ?_⟩
    simp [sourceMoments, or_imp, forall_and]

theorem keeps_resolveAttempt (world : HostingWorld) (attempt : HostingFailoverAttempt) :
    Keeps world (resolveAttempt now world attempt) := by
  unfold resolveAttempt
  split_ifs
  · exact ⟨Extends.refl world, rfl⟩
  · exact ⟨extends_saveAttempt world _, rfl⟩

theorem keeps_continueAttempt (world : HostingWorld) (attempt : HostingFailoverAttempt) :
    Keeps world (continueAttempt services now world attempt).1 := by
  unfold continueAttempt
  cases found : world.project? attempt.projectId with
  | none => exact ⟨extends_saveAttempt world _, rfl⟩
  | some project =>
    dsimp only
    by_cases settled : project.nodeId = attempt.targetNodeId
    · rw [if_pos settled]
      exact ⟨Extends.refl world, rfl⟩
    · rw [if_neg settled]
      have current : Relocation.Current ⟨world, attempt, project⟩ := current_of_project? found
      exact keeps_finalizeAttempt services current now

theorem keeps_foldl {α State : Type*} {world : State → HostingWorld} {step : State → α → State}
    (body : ∀ state item, Keeps (world state) (world (step state item)))
    (items : List α) (state : State) : Keeps (world state) (world (items.foldl step state)) := by
  induction items generalizing state with
  | nil => exact ⟨Extends.refl (world state), rfl⟩
  | cons item items ih => exact (body state item).trans (ih (step state item))

variable (failoverAfterSeconds : ℤ)

theorem reconcile_keeps (now limit : ℤ) (world : HostingWorld) : Keeps
      ((world.unhealthyNodes (now - max failoverAfterSeconds 60 * 10 ^ 6)
        limit).foldl (visitSource services now) { world := world }).world
      (runApplicationFailoverReconcile services failoverAfterSeconds now limit world).1 := by
  set visited := (world.unhealthyNodes (now - max failoverAfterSeconds 60 * 10 ^ 6) limit).foldl
      (visitSource services now) { world := world } with visitedEq
  set resolved := (visited.world.unresolvedAttempts limit).foldl
    (resolveAttempt now) visited.world with resolvedEq
  have resolves : Keeps visited.world resolved := by
    have body : ∀ (state : HostingWorld) attempt,
        Keeps (id state) (id (resolveAttempt now state attempt)) :=
      keeps_resolveAttempt now
    exact keeps_foldl body _ visited.world
  have continues : Keeps resolved
      (((resolved.stagedAttempts limit).foldl (continueInPass services now)
        { visited with world := resolved }).world) := by
    have body : ∀ (pass : FailoverPass) attempt,
        Keeps pass.world (continueInPass services now pass attempt).world :=
      fun pass attempt => keeps_continueAttempt services now pass.world attempt
    exact keeps_foldl body _ { visited with world := resolved }
  exact (resolves.trans continues).trans ⟨extends_flush _, rfl⟩

theorem reconcile_spec (now limit : ℤ) (world : HostingWorld) :
    let after := (runApplicationFailoverReconcile services failoverAfterSeconds now limit world).1
    Extends world after ∧ (ResetsOnlySafe world after ↔
        ∀ moment ∈ reconcileMoments services failoverAfterSeconds now limit
          world, ¬ moment.Dangerous services) := by
  obtain ⟨visits, visitsSafe⟩ := visitSources_spec services now
    (world.unhealthyNodes (now - max failoverAfterSeconds 60 * 10 ^ 6) limit) { world := world }
  have rest := reconcile_keeps services failoverAfterSeconds now limit world
  have together := Extends.resetsOnlySafe_trans visits rest.1
  simp only [Extends.resetsOnlySafe_of_eq rest.2, and_true] at together
  exact ⟨visits.trans rest.1, together.trans visitsSafe⟩

theorem keeps_supersedeRecovery {cleared : HostingWorld} {nodeId : ℕ} {now : ℤ}
    (accepted : supersedeRecovery world project nodeId now = .ok cleared) :
    Keeps world cleared := by
  unfold supersedeRecovery at accepted
  split at accepted
  · cases accepted
    exact ⟨Extends.refl world, rfl⟩
  · split at accepted
    · cases accepted
      exact ⟨extends_saveAttempt world _, rfl⟩
    · cases accepted

variable {after : HostingWorld}

theorem requestProjectRelocation_resetsOnlySafe {preferred : Option ℕ} {reason : String} {now : ℤ}
    (current : world.policyOf project.id = some project.failoverPolicy)
    (accepted : requestProjectRelocation services world project preferred reason now = .ok after) :
    ResetsOnlySafe world after := by
  unfold requestProjectRelocation at accepted
  split at accepted
  · cases accepted
  · rename_i nodeId _
    split_ifs at accepted with manual suspended
    split at accepted
    · cases accepted
    · rename_i cleared superseded
      split_ifs at accepted with managed unhealthy
      dsimp only at accepted
      split at accepted
      · cases accepted
      · cases accepted
        have clears := keeps_supersedeRecovery superseded
        set created := cleared.createAttempt project nodeId .pending
          (some reason) (some now) now with createdEq
        have creates : Keeps cleared created.1 :=
          ⟨extends_createAttempt cleared project nodeId .pending (some reason) (some now) now, rfl⟩
        have prepares := clears.trans creates
        have start : Relocation.Current ⟨created.1, created.2, project⟩ :=
          (prepares.1.policies _).trans current
        have queues := extends_queueReplacement services start now preferred
        have automatic : project.failoverPolicy = .statelessAuto := by simpa using manual
        have free : ∀ database ∈ created.1.databases, database.projectId = some project.id →
              database.status.live = false := by
          apply (managedDatabaseDependency_eq_none cleared project).mp
          simpa using managed
        have safe : created.1.SafeToReset project.id := ⟨by rw [start, automatic], free⟩
        have queuesSafe :=
          (queueReplacement_resetsOnlySafe_iff services
            ⟨created.1, created.2, project⟩ now preferred).mpr fun _ => safe
        have flushes := extends_flush (queueReplacement services ⟨created.1, created.2, project⟩ now
            preferred).world
        rw [Extends.resetsOnlySafe_trans prepares.1 (queues.trans flushes),
          Extends.resetsOnlySafe_trans queues flushes]
        exact ⟨Extends.resetsOnlySafe_of_eq prepares.2, queuesSafe,
          Extends.resetsOnlySafe_of_eq rfl⟩

theorem orUnchanged_cases (world : HostingWorld) (request : Except String HostingWorld) :
    world.orUnchanged request = world ∨ request = .ok (world.orUnchanged request) := by
  cases request with
  | error error => exact .inl rfl
  | ok after => exact .inr rfl

theorem withProject_cases (world : HostingWorld) (projectId : ℕ)
    (request : HostingProject → Except String HostingWorld) :
    world.withProject projectId request = world ∨ ∃ project,
        world.policyOf project.id = some project.failoverPolicy ∧
        request project = .ok (world.withProject projectId request) := by
  unfold withProject
  cases found : world.project? projectId with
  | none => exact .inl rfl
  | some project =>
    rcases orUnchanged_cases world (request project) with
      refused | accepted
    · exact .inl refused
    · exact .inr ⟨project, current_of_project? found, accepted⟩

theorem updateProjectFailoverPolicy_deployments
    {projectId : ℕ} {policy : FailoverPolicy} {confirmed : Bool} {now : ℤ}
    (accepted : updateProjectFailoverPolicy world projectId policy confirmed now = .ok after) :
    after.deployments = world.deployments := by
  unfold updateProjectFailoverPolicy at accepted
  split at accepted
  · cases accepted
  · split at accepted
    · cases accepted
    · dsimp only at accepted
      split at accepted <;> · cases accepted; rfl

theorem createDeployment_resetsOnlySafe {imageRef imageDigest : String}
    {sourceCommit : Option String} {previous : Option ℕ} {now : ℤ}
    (accepted : createDeployment world project imageRef imageDigest
      sourceCommit previous now = .ok after) : ResetsOnlySafe world after := by
  unfold createDeployment at accepted
  split at accepted
  · cases accepted
  · split_ifs at accepted
    cases accepted
    intro deployment member resets
    simp only [newDeployments, flush, saveProject, List.drop_left, List.mem_singleton] at member
    rw [member] at resets
    cases resets

theorem reportDeployment_resetsOnlySafe (world : HostingWorld)
    (deploymentId : ℕ) (status : HostingDeploymentStatus)
    (originUrl failureMessage : Option String) :
    ResetsOnlySafe world (world.reportDeployment deploymentId status originUrl failureMessage) := by
  have none : newDeployments world (world.reportDeployment deploymentId status
      originUrl failureMessage) = [] := by
    unfold newDeployments reportDeployment
    rw [List.drop_eq_nil_of_le]
    rw [List.length_map]
  unfold ResetsOnlySafe
  rw [none]
  simp

def Performs (failoverAfterSeconds : ℤ) (before : HostingWorld)
    (action : HostingAction) (after : HostingWorld) : Prop :=
  after = before.perform services failoverAfterSeconds action

def AvoidsDanger (failoverAfterSeconds : ℤ) (before : HostingWorld)
    (action : HostingAction) (_ : HostingWorld) : Prop :=
  match action with
  | .reconcile now limit =>
    ∀ moment ∈ reconcileMoments services failoverAfterSeconds now limit
      before, ¬ moment.Dangerous services
  | _ => True

theorem perform_resetsOnlySafe_iff
    (before : HostingWorld) (action : HostingAction) (after : HostingWorld)
    (performs : Performs services failoverAfterSeconds before action after) :
    ResetsOnlySafe before after ↔
      AvoidsDanger services failoverAfterSeconds before action after := by
  unfold Performs at performs
  subst performs
  cases action with
  | reconcile now limit => exact (reconcile_spec services failoverAfterSeconds now limit before).2
  | relocate now projectId preferred reason =>
    refine iff_of_true ?_ trivial
    change ResetsOnlySafe before (before.withProject _ _)
    rcases withProject_cases before projectId _ with
      refused | ⟨project, current, accepted⟩
    · rw [refused]
      exact Extends.resetsOnlySafe_of_eq rfl
    · exact requestProjectRelocation_resetsOnlySafe services current accepted
  | setPolicy now projectId policy confirmed =>
    refine iff_of_true ?_ trivial
    apply Extends.resetsOnlySafe_of_eq
    rcases orUnchanged_cases before (updateProjectFailoverPolicy before
      projectId policy confirmed now) with refused | accepted
    · exact congrArg HostingWorld.deployments refused
    · exact updateProjectFailoverPolicy_deployments accepted
  | attachDatabase now projectId engine =>
    exact iff_of_true (Extends.resetsOnlySafe_of_eq rfl) trivial
  | setDatabaseStatus databaseId status =>
    exact iff_of_true (Extends.resetsOnlySafe_of_eq rfl) trivial
  | setProjectStatus projectId status =>
    exact iff_of_true (Extends.resetsOnlySafe_of_eq rfl) trivial
  | setNode row => exact iff_of_true (Extends.resetsOnlySafe_of_eq rfl) trivial
  | deploy now projectId imageRef imageDigest sourceCommit previous =>
    refine iff_of_true ?_ trivial
    change ResetsOnlySafe before (before.withProject _ _)
    rcases withProject_cases before projectId _ with
      refused | ⟨project, -, accepted⟩
    · rw [refused]
      exact Extends.resetsOnlySafe_of_eq rfl
    · exact createDeployment_resetsOnlySafe accepted
  | reportDeployment deploymentId status originUrl failureMessage =>
    exact iff_of_true (reportDeployment_resetsOnlySafe before deploymentId
      status originUrl failureMessage) trivial

/-- A run resets only projects that are safe at that moment exactly when it
makes no dangerous visit.  No step of failover changes policies or
databases, so the moment is that of the step. -/
theorem run_resetsOnlySafe_iff (failoverAfterSeconds : ℤ)
    (start : HostingWorld) (actions : List HostingAction) :
    EveryStep (Performs services failoverAfterSeconds)
        (fun before _ after => ResetsOnlySafe before after) start actions ↔
      EveryStep (Performs services failoverAfterSeconds)
        (AvoidsDanger services failoverAfterSeconds) start actions :=
  EveryStep.congr (perform_resetsOnlySafe_iff services failoverAfterSeconds)

end Visits

/-- Nodes that take projects are eligible, and no edge is asked for. -/
def openPlacement : HostingServices where
  rankNodes := fun world _ =>
    world.nodes.map fun row =>
      { nodeId := row.id
        name := "node"
        eligible := row.hosted.node.acceptsNewProjects
        reasons := [] }
  reconcileProjectEdge := fun _ _ _ => .ok { status := some "not_requested", error := none }

def drainedRow : HostingNodeRow where
  id := 1
  hasAgent := true
  hosted :=
    { node := { status := .draining, acceptsNewProjects := false }
      health := some
        { automationEnabled := true
          healthStatus := .unhealthy
          unhealthySince := some 0
          lastTransition := some .autoDrained }
      audits := [] }

def spareRow (acceptsNewProjects : Bool) : HostingNodeRow where
  id := 2
  hasAgent := true
  hosted :=
    { node := { status := .active, acceptsNewProjects := acceptsNewProjects }
      health := none
      audits := [] }

/-- A stateless project whose node has failed while no other has room. -/
def strandedProject : HostingProject where
  id := 3
  nodeId := some 1
  storageMb := 512
  memoryMb := 256
  cpuMillicores := 250
  imageRef := none
  status := .running
  failoverPolicy := .statelessAuto
  createdAt := 0

def strandedWorld : HostingWorld where
  nextId := 5
  projects := [strandedProject]
  flushedProjects := [strandedProject]
  databases := []
  deployments :=
    [{ id := 4
       projectId := 3
       nodeId := some 1
       previousDeploymentId := none
       releaseNumber := 1
       imageRef := "image"
       imageDigest := "digest"
       sourceCommit := none
       status := .healthy
       createdAt := 0 }]
  attempts := []
  flushedAttempts := []
  retirements := []
  nodes := [drainedRow, spareRow false]
  audits := []

def lateOptOut : List HostingAction :=
  [.reconcile 600000000 200, .setPolicy 610000000 3 .manual false, .setNode (spareRow true)]

instance (world : HostingWorld) (projectId : ℕ) : Decidable (world.SafeToReset projectId) :=
  inferInstanceAs (Decidable (_ ∧ _))

instance (before after : HostingWorld) : Decidable (ResetsOnlySafe before after) :=
  inferInstanceAs (Decidable (∀ _ ∈ _, _))

/-- The next pass resets the data of a project under manual recovery. -/
theorem lateOptOut_resets : ¬ EveryStep (Performs openPlacement 300)
      (fun before _ after => ResetsOnlySafe before after) strandedWorld
      (lateOptOut ++ [.reconcile 660000000 200]) := by
  intro everyStep
  have run := Run.of_foldl (fun world action => world.perform openPlacement 300 action) lateOptOut
    strandedWorld
  have resets := everyStep lateOptOut (.reconcile 660000000 200) [] _ _ rfl run rfl
  revert resets
  decide

end Ithute
