import Ithute.HostingTransactionLocks
import Ithute.Library.RewrittenRows

/-!
# Writes of rollouts

Deployments, attempts and retire operations are added and activated by
commits alone.  Every other move rewrites them where they stand, and moves no
project.
-/

namespace Ithute

open RewrittenRows

structure DeploymentKept (stored saved : HostingDeployment) : Prop
    extends HostingWorld.SameRelease stored saved where
  active : saved.status.active = true → stored.status.active = true

structure RetirementKept (stored written : RetireOperation) : Prop where
  projectId : written.projectId = stored.projectId
  nodeId : written.nodeId = stored.nodeId
  active : written.active = true → stored.active = true

theorem DeploymentKept.refl (row : HostingDeployment) :
    DeploymentKept row row := ⟨.refl row, fun active => active⟩

theorem RetirementKept.refl (row : RetireOperation) :
    RetirementKept row row := ⟨rfl, rfl, fun active => active⟩

def HostingWorld.Placed (tables : HostingWorld) (projectId nodeId : ℕ) : Prop :=
  ∃ project, tables.project? projectId = some project ∧ project.nodeId = some nodeId

/-- Rollouts are rewritten where they stand, and no project moves. -/
structure RolloutsKept (before after : HostingWorld) : Prop where
  placed : ∀ projectId nodeId, after.Placed projectId nodeId → before.Placed projectId nodeId
  deployments : Rewrites DeploymentKept before.deployments after.deployments
  attempts : Rewrites AttemptKept before.attempts after.attempts
  retirements : Rewrites RetirementKept before.retirements after.retirements

section Kept

variable {tables after : HostingWorld} {session : HostingSession} {projectId nodeId : ℕ}

theorem placed_of_same (same : after.project? projectId = tables.project? projectId)
    (placed : after.Placed projectId nodeId) : tables.Placed projectId nodeId := by
  unfold HostingWorld.Placed
  rw [← same]
  exact placed

theorem placed_of_save (project : HostingProject) {stored : HostingProject}
    (owner : tables.project? project.id = some stored) (stays : project.nodeId = stored.nodeId)
    (projects : after.projects = (tables.saveProject project).projects)
    (placed : after.Placed projectId nodeId) : tables.Placed projectId nodeId := by
  obtain ⟨row, found, here⟩ := placed
  have saved := HostingWorld.project?_saveProject tables project projectId
  have shown : after.project? projectId = (tables.saveProject project).project? projectId := by
    unfold HostingWorld.project?
    rw [projects]
  rw [found, saved] at shown
  obtain ⟨before, earlier, written⟩ := Option.map_eq_some_iff.mp shown.symm
  refine ⟨before, earlier, ?_⟩
  rw [← here, ← written]
  split
  · rename_i same
    have rowId := (HostingWorld.project?_spec earlier).2
    rw [← rowId, same, owner] at earlier
    cases earlier
    exact stays.symm
  · rfl

theorem RolloutsKept.of_eq (placed : ∀ projectId nodeId, after.Placed projectId nodeId →
      tables.Placed projectId nodeId) (deployments : after.deployments = tables.deployments)
    (attempts : after.attempts = tables.attempts)
    (retirements : after.retirements = tables.retirements) : RolloutsKept tables after := by
  refine ⟨placed, ?_, ?_, ?_⟩
  · rw [deployments]
    exact .refl .refl _
  · rw [attempts]
    exact .refl .refl _
  · rw [retirements]
    exact .refl .refl _

theorem rolloutsKept_report {validateTrustedOrigin : String → OriginCheck}
    {deployment : HostingDeployment} {project : HostingProject} {payload : AgentStatusUpdate}
    (unique : (tables.deployments.map HostingDeployment.id).Nodup)
    (member : deployment ∈ tables.deployments) (owner : tables.project? project.id = some project)
    (effect : HostingWorld.ReportEffect validateTrustedOrigin tables
      deployment project payload after) : RolloutsKept tables after := by
  obtain ⟨attempts, retirements⟩ := report_attempts effect
  have deployments : Rewrites DeploymentKept tables.deployments after.deployments := by
    rcases report_deployments effect with same | ⟨saved, same, active, written⟩
    · rw [same]
      exact .refl .refl _
    · rw [written]
      exact .replace unique .refl member same.id ⟨same, active⟩
  refine ⟨?_, deployments, ?_, ?_⟩
  · intro projectId nodeId placed
    cases effect with
    | refused => exact placed
    | stopped => exact placed_of_same rfl placed
    | @progressed saved status =>
      exact placed_of_save { project with status := status } owner rfl rfl placed
    | @rejected saved status =>
      exact placed_of_save { project with status := status } owner rfl rfl placed
    | @promoted saved =>
      exact placed_of_save { project with
          imageRef := some saved.imageRef
          status := tables.promotedStatus deployment.id } owner rfl rfl
        placed
  · rw [attempts]
    exact .refl .refl _
  · rw [retirements]
    exact .refl .refl _

theorem rolloutsKept_policy {policy : FailoverPolicy} {confirmed : Bool} {now : ℤ}
    (accepted : updateProjectFailoverPolicy tables projectId policy confirmed
      now = .ok after) : RolloutsKept tables after := by
  have deployments := updateProjectFailoverPolicy_deployments accepted
  obtain ⟨⟨write, attempts, kept⟩, retirements⟩ := policy_attempts accepted
  refine ⟨?_, ?_, ?_, ?_⟩
  · intro sought nodeId placed
    unfold updateProjectFailoverPolicy at accepted
    split at accepted
    · cases accepted
    · rename_i project found
      obtain rfl := (HostingWorld.project?_spec found).2
      split at accepted
      · cases accepted
      · have saved : after.projects = (tables.saveProject
            { project with failoverPolicy := policy }).projects := by
          cases accepted
          split <;> rfl
        exact placed_of_save { project with failoverPolicy := policy } found rfl saved placed
  · rw [deployments]
    exact .refl .refl _
  · rw [attempts]
    exact .map fun row _ => kept row
  · rw [retirements]
    exact .refl .refl _

theorem rolloutsKept_setStatus (status : HostingProjectStatus) :
    RolloutsKept tables (tables.setProjectStatus projectId status) := by
  refine .of_eq ?_ rfl rfl rfl
  rintro sought nodeId ⟨row, found, here⟩
  have shown : (tables.setProjectStatus projectId status).project? sought =
      (tables.project? sought).map fun row =>
        if sought = projectId then { row with status := status } else row :=
    project?_write (fun row => { row with status := status }) (fun _ => rfl) rfl sought
  rw [found] at shown
  obtain ⟨stored, owner, written⟩ := Option.map_eq_some_iff.mp shown.symm
  refine ⟨stored, owner, ?_⟩
  rw [← here, ← written]
  split <;> rfl

end Kept

/-- The attempt that a session supersedes becomes `superseded`. -/
def HostingSession.Superseding (session : HostingSession) : Prop :=
  ∀ edit, session.superseded = some edit → ∃ now, edit.2 = supersededAttempt edit.1 now

section Commits

variable {tables : HostingWorld} {session : HostingSession}

theorem Superseding.of_none (none : session.superseded = none) : session.Superseding := by
  intro edit here
  rw [none] at here
  cases here

theorem settleClaim_rewrites (unique : (tables.deployments.map HostingDeployment.id).Nodup)
    (claims : session.Claims tables) : Rewrites DeploymentKept tables.deployments
      (session.settleClaim tables) := by
  unfold HostingSession.settleClaim
  split
  · exact .refl .refl _
  · rename_i claimed held
    obtain ⟨stored, member, same, queued⟩ := claims claimed held
    refine .replace unique .refl member same.id ⟨same, fun _ => ?_⟩
    rw [queued]
    rfl

theorem update_superseded (stored loaded : HostingFailoverAttempt) (now : ℤ) : AttemptKept stored
      (AttemptEdit.update loaded (supersededAttempt loaded now) stored) := by
  refine ⟨⟨rfl, rfl, rfl, ?_⟩, ?_⟩
  · simp [AttemptEdit.update, supersededAttempt, rewritten]
  · intro active
    by_cases already : FailoverAttemptStatus.superseded = loaded.status
    · simpa [AttemptEdit.update, supersededAttempt, rewritten, already] using active
    · simp [AttemptEdit.update, supersededAttempt, rewritten, already,
        FailoverAttemptStatus.active] at active

theorem supersede_rewrites (tables : HostingWorld) (superseding : session.Superseding) :
    Rewrites AttemptKept tables.attempts (session.supersede tables) := by
  unfold HostingSession.supersede
  cases written : session.superseded with
  | none => exact .refl .refl _
  | some edit =>
    obtain ⟨now, same⟩ := superseding edit written
    apply Rewrites.map
    intro stored _
    split
    · rw [same]
      exact update_superseded stored edit.1 now
    · exact .refl stored

theorem claimSession_adds (state : HostingState) (deployment : HostingDeployment)
    (environment : Except String (List (String × String))) :
    let session := state.claimSession deployment environment
    session.superseded = none ∧ session.attempt = none ∧
      session.deployment = none ∧ session.retirement = none := by
  unfold HostingState.claimSession
  split
  · exact ⟨rfl, rfl, rfl, rfl⟩
  · dsimp only
    split_ifs
    · exact ⟨rfl, rfl, rfl, rfl⟩
    · split <;> exact ⟨rfl, rfl, rfl, rfl⟩

end Commits

section Moves

variable {services : HostingServices} {validateTrustedOrigin : String → OriginCheck}
variable {state after : HostingState} {move : HostingMove}

theorem closeOperation_rewrites (operationId : ℕ) : Rewrites RetirementKept state.tables.retirements
      (state.closeOperation operationId).tables.retirements := by
  apply Rewrites.map
  intro row _
  split
  · exact ⟨rfl, rfl, fun active => by cases active⟩
  · exact .refl row

theorem Moved.commits_or_keeps (consistent : Consistent state)
    (moved : Moved services validateTrustedOrigin state move after) :
    (∃ index session, move = .advance index ∧ state.calls[index]? = some (.committing session) ∧
        state.Commits session ∧ after.tables = session.write state.tables) ∨
      RolloutsKept state.tables after.tables := by
  have same {tables : HostingWorld} (projects : tables.projects = state.tables.projects)
      (projectId nodeId : ℕ) (placed : tables.Placed projectId nodeId) :
      state.tables.Placed projectId nodeId := by
    apply placed_of_same _ placed
    unfold HostingWorld.project?
    rw [projects]
  cases moved with
  | unchanged | started | stepped | ended | admitted | nodeSet
  | databaseAttached | databaseSet => exact .inr (.of_eq (same rfl) rfl rfl rfl)
  | committed here free fresh => exact .inl ⟨_, _, rfl, here, ⟨free, fresh⟩, rfl⟩
  | refused | retired =>
    exact .inr ⟨same rfl, .refl .refl _, .refl .refl _, closeOperation_rewrites _⟩
  | reported found deploymentFree projectFree effect =>
    obtain ⟨member, -, owner⟩ := HostingWorld.reported_spec found
    rw [← (HostingWorld.project?_spec owner).2] at owner
    exact .inr (rolloutsKept_report consistent.deployments member owner effect)
  | suspended | resumed => exact .inr (rolloutsKept_setStatus _)
  | policySet free accepted => exact .inr (rolloutsKept_policy accepted)

end Moves

end Ithute
