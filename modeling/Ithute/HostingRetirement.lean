import Ithute.HostingRoutes
import Ithute.HostingSuspension

/-!
# Retired sources

A retire operation removes the container and the data of a project from a
node that the project has left.  The project may return to the node while the
operation is outstanding, as nothing that places a project there looks for
retire operations.  Operations spare what is in use as long as no commit uses
a node with an outstanding operation.
-/

namespace Ithute

open RewrittenRows TransitionRuns

namespace HostingWorld

/-- The project is placed on the node, or an active attempt or deployment of
the project is for it. -/
def Uses (tables : HostingWorld) (projectId nodeId : ℕ) : Prop :=
  tables.Placed projectId nodeId ∨ (∃ attempt ∈ tables.attempts, attempt.projectId = projectId ∧
      attempt.status.active = true ∧ attempt.targetNodeId = some nodeId) ∨
    ∃ deployment ∈ tables.deployments, deployment.projectId = projectId ∧
      deployment.status.active = true ∧ deployment.nodeId = some nodeId

/-- A retire operation for the node waits there, or is carried out. -/
def Outstanding (tables : HostingWorld) (projectId nodeId : ℕ) : Prop :=
  ∃ operation ∈ tables.retirements, operation.active = true ∧
    operation.projectId = projectId ∧ operation.nodeId = nodeId

def Spared (tables : HostingWorld) : Prop :=
  ∀ projectId nodeId, tables.Outstanding projectId nodeId → ¬ tables.Uses projectId nodeId

end HostingWorld

namespace HostingState

def claimable (state : HostingState) (operation : RetireOperation) : Bool :=
  (state.tables.project? operation.projectId).any fun project =>
    project.nodeId ≠ some operation.nodeId

/-- No operation that an agent can claim or carries out removes what is in
use. -/
def RetiresUnused (state : HostingState) : Prop :=
  ∀ operation ∈ state.tables.retirements, operation.active = true →
    (operation.id ∈ state.claimedOperations ∨ state.claimable operation = true) →
        ¬ state.tables.Uses operation.projectId operation.nodeId

end HostingState

namespace HostingSession

variable (session : HostingSession) (tables : HostingWorld)

def writtenAttempts : List HostingFailoverAttempt :=
  match session.attempt with
  | none => []
  | some (.created row) => [row]
  | some (.loaded before row) =>
    ((session.supersede tables).filter fun stored =>
      stored.id = before.id).map (AttemptEdit.update before row)

/-- The session uses no node with an outstanding operation, and queues an
operation only for a node that nothing else of the project is for. -/
@[mk_iff]
structure Spares : Prop where
  placement : ∀ edit ∈ session.project, edit.current.nodeId ≠ edit.loaded.nodeId →
      ∀ nodeId ∈ edit.current.nodeId, ¬ tables.Outstanding session.projectId nodeId
  attempt : ∀ row ∈ session.writtenAttempts tables,
    row.status.active = true → ∀ nodeId ∈ row.targetNodeId,
      ¬ tables.Outstanding row.projectId nodeId
  deployment : ∀ added ∈ session.deployment, ∀ nodeId ∈ added.nodeId,
    ¬ tables.Outstanding added.projectId nodeId
  otherAttempts : ∀ operation ∈ session.retirement, ∀ row ∈ session.supersede tables,
      row.projectId = operation.projectId → row.status.active = true →
        row.targetNodeId = some operation.nodeId →
          ∃ edit ∈ session.attempt, row.id = edit.current.id
  otherDeployments : ∀ operation ∈ session.retirement, ∀ row ∈ session.settleClaim tables,
      row.projectId = operation.projectId → row.status.active = true →
        row.nodeId ≠ some operation.nodeId

end HostingSession

def HostingState.CommitsSpare (before : HostingState) (move : HostingMove) : Prop :=
  match move with
  | .advance index =>
    ∀ session, before.calls[index]? = some (.committing session) →
      before.Commits session → session.Spares before.tables
  | _ => True

section Writes

variable {tables after : HostingWorld} {session : HostingSession} {projectId nodeId : ℕ}

theorem placed_write (placed : (session.write tables).Placed projectId nodeId) :
    tables.Placed projectId nodeId ∨
      (projectId = session.projectId ∧ ∃ edit, session.project = some edit ∧
        edit.current.nodeId ≠ edit.loaded.nodeId ∧ edit.current.nodeId = some nodeId) := by
  obtain ⟨project, found, here⟩ := placed
  rw [project?_session] at found
  obtain ⟨stored, owner, written⟩ := Option.map_eq_some_iff.mp found
  rw [← written] at here
  split at here
  · rename_i edit edited
    split at here
    · rename_i same
      by_cases unmoved : edit.current.nodeId = edit.loaded.nodeId
      · left
        refine ⟨stored, owner, ?_⟩
        simpa [ProjectEdit.apply, rewritten, unmoved] using here
      · right
        refine ⟨same, edit, edited, unmoved, ?_⟩
        simpa [ProjectEdit.apply, rewritten, unmoved] using here
    · exact .inl ⟨stored, owner, here⟩
  · exact .inl ⟨stored, owner, here⟩

theorem placed_moved {edit : ProjectEdit} (edited : session.project = some edit)
    (moves : edit.current.nodeId ≠ edit.loaded.nodeId)
    (placed : (session.write tables).Placed session.projectId nodeId) :
    edit.current.nodeId = some nodeId := by
  obtain ⟨project, found, here⟩ := placed
  rw [project?_session] at found
  obtain ⟨stored, owner, written⟩ := Option.map_eq_some_iff.mp found
  rw [← written] at here
  simpa [edited, ProjectEdit.apply, rewritten, moves] using here

theorem mem_write_attempts {row : HostingFailoverAttempt}
    (member : row ∈ (session.write tables).attempts) : (row ∈ session.supersede tables ∧
      ∀ before written, session.attempt = some (.loaded before written) → row.id ≠ before.id) ∨
      row ∈ session.writtenAttempts tables := by
  change row ∈ AttemptEdit.write (session.supersede tables) session.attempt at member
  unfold HostingSession.writtenAttempts
  match here : session.attempt with
  | none =>
    rw [here] at member
    exact .inl ⟨member, fun before written loaded => by cases loaded⟩
  | some (.created added) =>
    rw [here] at member
    rcases List.mem_append.mp member with old | new
    · exact .inl ⟨old, fun before written loaded => by cases loaded⟩
    · exact .inr new
  | some (.loaded before written) =>
    rw [here] at member
    obtain ⟨stored, storedMem, rfl⟩ := List.mem_map.mp member
    split
    · rename_i same
      exact .inr (List.mem_map_of_mem (List.mem_filter.mpr ⟨storedMem, by simpa using same⟩))
    · rename_i other
      refine .inl ⟨storedMem, ?_⟩
      intro first second same
      cases same
      exact other

theorem spared_kept (spared : tables.Spared) (kept : RolloutsKept tables after) : after.Spared := by
  rintro projectId nodeId ⟨operation, member, active, owner, node⟩ uses
  obtain ⟨earlier, earlierMem, same⟩ := kept.retirements.earlier member
  apply spared projectId nodeId
  · exact ⟨earlier, earlierMem, same.active active,
      same.projectId.symm.trans owner, same.nodeId.symm.trans node⟩
  · rcases uses with placed | ⟨attempt, attemptMem, own, open_, target⟩ |
      ⟨deployment, deploymentMem, own, open_, target⟩
    · exact .inl (kept.placed projectId nodeId placed)
    · obtain ⟨stored, storedMem, version⟩ := kept.attempts.earlier attemptMem
      exact .inr (.inl ⟨stored, storedMem, version.projectId.symm.trans own,
        version.active open_, version.targetNodeId.symm.trans target⟩)
    · obtain ⟨stored, storedMem, version⟩ := kept.deployments.earlier deploymentMem
      exact .inr (.inr ⟨stored, storedMem, version.projectId.symm.trans own,
        version.active open_, version.nodeId.symm.trans target⟩)

theorem update_completed {before row stored : HostingFailoverAttempt}
    (staged : before.Staged) (completed : row.status = .completed) :
    (AttemptEdit.update before row stored).status.active = false := by
  rcases staged with status | status <;>
    simp [AttemptEdit.update, rewritten, status, completed, FailoverAttemptStatus.active]

theorem outstanding_write (outstanding : (session.write tables).Outstanding projectId nodeId) :
    tables.Outstanding projectId nodeId ∨ ∃ operation, session.retirement = some operation ∧
        operation.projectId = projectId ∧ operation.nodeId = nodeId := by
  obtain ⟨operation, member, active, owner, node⟩ := outstanding
  rcases List.mem_append.mp member with old | new
  · exact .inl ⟨operation, old, active, owner, node⟩
  · exact .inr ⟨operation, Option.mem_toList.mp new, owner, node⟩

theorem not_uses_of_outstanding (unique : (tables.deployments.map HostingDeployment.id).Nodup)
    (claims : session.Claims tables) (superseding : session.Superseding)
    (spared : tables.Spared) (spares : session.Spares tables)
    (outstanding : tables.Outstanding projectId nodeId) :
    ¬ (session.write tables).Uses projectId nodeId := by
  rintro (placed | ⟨attempt, member, owner, active, target⟩ |
    ⟨deployment, member, owner, active, target⟩)
  · rcases placed_write placed with before | ⟨rfl, edit, edited, moves, here⟩
    · exact spared projectId nodeId outstanding (.inl before)
    · exact spares.placement edit edited moves nodeId here outstanding
  · rcases mem_write_attempts member with ⟨other, -⟩ | written
    · obtain ⟨earlier, earlierMem, kept⟩ := (supersede_rewrites tables superseding).earlier other
      exact spared projectId nodeId outstanding (.inr (.inl ⟨earlier,
        earlierMem, kept.projectId.symm.trans owner, kept.active active,
        kept.targetNodeId.symm.trans target⟩))
    · rw [← owner] at outstanding
      exact spares.attempt attempt written active nodeId target outstanding
  · rcases List.mem_append.mp member with settled | added
    · obtain ⟨earlier, earlierMem, kept⟩ := (settleClaim_rewrites unique claims).earlier settled
      exact spared projectId nodeId outstanding (.inr (.inr ⟨earlier,
        earlierMem, kept.projectId.symm.trans owner, kept.active active,
        kept.nodeId.symm.trans target⟩))
    · rw [← owner] at outstanding
      exact spares.deployment deployment (Option.mem_toList.mp added) nodeId target outstanding

theorem not_uses_of_retirement (routed : session.Routed tables)
    (spares : session.Spares tables) {operation : RetireOperation}
    (queued : session.retirement = some operation) :
    ¬ (session.write tables).Uses operation.projectId operation.nodeId := by
  obtain ⟨none, owner, ⟨edit, edited, moves, away⟩, before, row, loaded, same,
    staged, completed⟩ := routed.retirement operation queued
  rintro (placed | ⟨attempt, member, own, active, target⟩ |
    ⟨deployment, member, own, active, target⟩)
  · rw [owner] at placed
    exact away (placed_moved edited moves placed)
  · rcases mem_write_attempts member with ⟨other, distinct⟩ | written
    · obtain ⟨edit, here, id⟩ := spares.otherAttempts operation queued attempt
        other own active target
      rw [Option.mem_def, loaded] at here
      cases here
      exact distinct before row loaded (id.trans same)
    · rw [HostingSession.writtenAttempts, loaded] at written
      obtain ⟨stored, -, rfl⟩ := List.mem_map.mp written
      rw [update_completed staged completed] at active
      cases active
  · rcases List.mem_append.mp member with settled | added
    · exact spares.otherDeployments operation queued deployment settled own active target
    · rw [none] at added
      cases added

theorem spared_commit (unique : (tables.deployments.map HostingDeployment.id).Nodup)
    (claims : session.Claims tables) (routed : session.Routed tables)
    (spared : tables.Spared) (spares : session.Spares tables) : (session.write tables).Spared := by
  intro projectId nodeId outstanding
  rcases outstanding_write outstanding with old | ⟨operation, queued, rfl, rfl⟩
  · exact not_uses_of_outstanding unique claims routed.superseding spared spares old
  · exact not_uses_of_retirement routed spares queued

end Writes

/-- What is in use has no retire operation, and every transaction knows its
attempt. -/
structure SparedState (state : HostingState) : Prop where
  consistent : Consistent state
  routed : RoutedTables state.tables
  calls : ∀ call ∈ state.calls, call.Routed state.tables
  spared : state.tables.Spared

section Runs

variable {services : HostingServices} {validateTrustedOrigin : String → OriginCheck}
variable {state after : HostingState} {move : HostingMove}

theorem SparedState.retiresUnused (sparedState : SparedState state) : state.RetiresUnused :=
  fun operation member active _ => sparedState.spared _ _ ⟨operation, member, active, rfl, rfl⟩

theorem SparedState.moved (sparedState : SparedState state)
    (moved : Moved services validateTrustedOrigin state move after)
    (spares : state.CommitsSpare move) : SparedState after := by
  obtain ⟨consistent, routed, calls, spared⟩ := sparedState
  refine ⟨consistent.moved moved, routed.moved consistent calls moved,
    calls_routed routed consistent calls moved, ?_⟩
  rcases moved.commits_or_keeps consistent with
    ⟨index, session, rfl, here, commits, written⟩ | kept
  · have member := List.mem_of_getElem? here
    rw [written]
    exact spared_commit consistent.deployments (consistent.calls _ member).2
      (calls _ member) spared (spares session here commits)
  · exact spared_kept spared kept

end Runs

namespace HostingState

section Runs

variable (services : HostingServices) (validateTrustedOrigin : String → OriginCheck)
variable (failoverAfterSeconds : ℤ)

theorem sparedState_start {start : HostingState}
    (projects : (start.tables.projects.map HostingProject.id).Nodup)
    (deployments : (start.tables.deployments.map HostingDeployment.id).Nodup)
    (attempts : start.tables.attempts = []) (retirements : start.tables.retirements = [])
    (flushed : start.tables.flush = start.tables) (none : start.calls = []) :
    SparedState start where
  consistent := by
    apply consistent_start deployments _ none
    rw [attempts]
    exact List.nodup_nil
  routed :=
    { flushedProjects := (congrArg HostingWorld.flushedProjects flushed).symm
      flushedAttempts := (congrArg HostingWorld.flushedAttempts flushed).symm
      projects := projects
      attempts := by
        rw [attempts]
        exact fun attempt member => absurd member List.not_mem_nil }
  calls := by
    rw [none]
    exact fun call member => absurd member List.not_mem_nil
  spared := by
    rintro projectId nodeId ⟨operation, member, -⟩
    rw [retirements] at member
    cases member

/-- From tables without attempts and retire operations, operations spare what
is in use in every run whose commits do. -/
theorem retiresUnused_of_commitsSpare {start : HostingState}
    (projects : (start.tables.projects.map HostingProject.id).Nodup)
    (deployments : (start.tables.deployments.map HostingDeployment.id).Nodup)
    (attempts : start.tables.attempts = []) (retirements : start.tables.retirements = [])
    (flushed : start.tables.flush = start.tables) (none : start.calls = [])
    (moves : List HostingMove) (spare : EveryStep
      (Performs services validateTrustedOrigin failoverAfterSeconds)
      (fun before move _ => before.CommitsSpare move) start moves) :
    EveryStep (Performs services validateTrustedOrigin failoverAfterSeconds)
      (fun _ _ after => after.RetiresUnused) start moves := by
  have kept (before : HostingState) (move : HostingMove)
      (after : HostingState) (spared : SparedState before)
      (performed : Performs services validateTrustedOrigin failoverAfterSeconds before move after)
      (spares : before.CommitsSpare move) : SparedState after := by
    rw [performed]
    exact spared.moved (moved_perform failoverAfterSeconds move) spares
  refine EveryStep.of_invariant (sparedState_start projects deployments
    attempts retirements flushed none) kept ?_ spare
  intro before move after spared performed spares
  exact (kept before move after spared performed spares).retiresUnused

end Runs

instance (tables : HostingWorld) (projectId nodeId : ℕ) :
    Decidable (tables.Placed projectId nodeId) :=
  match found : tables.project? projectId with
  | none => .isFalse (by simp [HostingWorld.Placed, found])
  | some project =>
    decidable_of_iff (project.nodeId = some nodeId) (by simp [HostingWorld.Placed, found])

instance (tables : HostingWorld) (projectId nodeId : ℕ) :
    Decidable (tables.Uses projectId nodeId) :=
  inferInstanceAs (Decidable (_ ∨ _ ∨ _))

instance (tables : HostingWorld) (projectId nodeId : ℕ) :
    Decidable (tables.Outstanding projectId nodeId) :=
  inferInstanceAs (Decidable (∃ _ ∈ _, _))

instance (state : HostingState) : Decidable state.RetiresUnused :=
  inferInstanceAs (Decidable (∀ _ ∈ _, _))

instance (session : HostingSession) (tables : HostingWorld) : Decidable (session.Spares tables) :=
  decidable_of_iff _ (HostingSession.spares_iff session tables).symm

instance (before : HostingState) (move : HostingMove) : Decidable (before.CommitsSpare move) :=
  decidableCommitting before move _

/-- The project is relocated, and its replacement gets healthy.  Its first
node then takes projects again. -/
def movedAway : List HostingMove :=
  [.relocate 3 none "manual_rebalance" 1, .advance 0, .advance 0, .advance 0,
    .advance 0, .claim 2 (.ok []), .advance 0,
    .report 2 7 { status := .healthy, originUrl := some "http://10.0.0.2" },
    .goOn 5 2, .advance 0, .advance 0, .advance 0, .setNode { spareRow true with id := 1 }]

def movedBack : List HostingMove :=
  [.relocate 3 (some 1) "manual_rebalance" 3, .advance 0, .advance 0, .advance 0, .advance 0]

/-- The agent of the first node has retired the project in between. -/
def retiredInBetween : List HostingMove :=
  movedAway ++ [.claimOperation 1 9, .advance 0, .reportOperation 1 9] ++ movedBack

theorem retiresUnused_retiredInBetween : EveryStep (Performs openPlacement .trusted 300)
      (fun _ _ after => after.RetiresUnused) { tables := steadyTables }
      retiredInBetween :=
  retiresUnused_of_commitsSpare openPlacement .trusted 300 (by decide)
    (by decide) rfl rfl rfl rfl retiredInBetween (EveryStep.of_stepByStep (by decide))

/-- The agent claims the operation once the relocation back has begun. -/
def claimedAfterReturn : List HostingMove := movedAway ++ movedBack ++ [.claimOperation 1 9]

/-- The first node retires the project while its replacement starts there. -/
theorem return_retired : ¬ EveryStep (Performs openPlacement .trusted 300)
      (fun _ _ after => after.RetiresUnused) { tables := steadyTables }
      (claimedAfterReturn ++ [.advance 0]) := by
  intro everyStep
  have unused := everyStep claimedAfterReturn (.advance 0) [] _ _ rfl
    (Run.of_foldl (fun (before : HostingState) move =>
      before.perform openPlacement .trusted 300 move) claimedAfterReturn
        { tables := steadyTables }) rfl
  exact absurd unused (by decide)

end HostingState

end Ithute
