import Ithute.HostingTransactionLocks

/-!
# Suspended projects

A suspended project stays suspended until it is resumed, as far as
transactions hold its row or commit before the suspension.  A claim, a build
and a pass of failover commit the status that follows from what they have
read.
-/

namespace Ithute

open TransitionRuns

def HostingWorld.Suspended (tables : HostingWorld) (projectId : ℕ) : Prop :=
  ∃ project, tables.project? projectId = some project ∧ project.status = .suspended

namespace HostingState

/-- Only a resumption ends a suspension, and agents get no deployment of a
suspended project. -/
structure StaysSuspended (before : HostingState) (move : HostingMove)
    (after : HostingState) : Prop where
  status : ∀ projectId, before.tables.Suspended projectId →
    move ≠ .resume projectId → after.tables.Suspended projectId
  handedOut : ∀ deployment ∈ after.handedOut.drop before.handedOut.length,
    ¬ before.tables.Suspended deployment.projectId

end HostingState

def HostingSession.writesStatus (session : HostingSession) : Bool :=
  session.project.any fun edit => edit.current.status ≠ edit.loaded.status

namespace HostingState

/-- A transaction that does not hold its project commits a status for it, or
a claim hands out its deployment, only while the project is not suspended. -/
def CommitsUnsuspended (before : HostingState) (move : HostingMove) : Prop :=
  match move with
  | .advance index =>
    ∀ session, before.calls[index]? = some (.committing session) → before.Commits session →
        (session.locked = false → session.writesStatus = true →
          ¬ before.tables.Suspended session.projectId) ∧
        (session.handsOut = true → ∀ claimed, session.claimed = some claimed →
            ¬ before.tables.Suspended claimed.projectId)
  | _ => True

section Steps

variable {services : HostingServices} {validateTrustedOrigin : String → OriginCheck}
variable {before after : HostingState} {move : HostingMove}
variable {tables written : HostingWorld} {session : HostingSession} {projectId : ℕ}

theorem suspended_of_same (suspended : tables.Suspended projectId)
    (same : written.project? projectId = tables.project? projectId) :
    written.Suspended projectId := by
  unfold HostingWorld.Suspended
  rw [same]
  exact suspended

theorem suspended_of_other {other : ℕ} (suspended : tables.Suspended projectId)
    (same : SameProjects other tables written) (ne : projectId ≠ other) :
    written.Suspended projectId :=
  suspended_of_same suspended (same projectId ne)

theorem suspended_of_unwritten (suspended : tables.Suspended projectId)
    (unwritten : session.writesStatus = false) : (session.write tables).Suspended projectId := by
  obtain ⟨project, found, status⟩ := suspended
  have shown := project?_session session tables projectId
  rw [found, Option.map_some] at shown
  refine ⟨_, shown, ?_⟩
  split
  · rename_i edit edited
    simp only [HostingSession.writesStatus, edited, Option.any_some,
      decide_eq_false_iff_not, not_not] at unwritten
    split
    · simp [ProjectEdit.apply, rewritten, unwritten, status]
    · exact status
  · exact status

theorem not_suspended_of_held (held : session.Held tables) (locked : session.locked = true) :
    ¬ tables.Suspended session.projectId := by
  rintro ⟨project, found, status⟩
  obtain ⟨edit, -, loaded, active⟩ := held locked
  rw [found] at loaded
  cases loaded
  exact active status

theorem suspended_of_commit (held : session.Held tables)
    (unsuspended : session.locked = false → session.writesStatus = true →
      ¬ tables.Suspended session.projectId) (suspended : tables.Suspended projectId) :
    (session.write tables).Suspended projectId := by
  by_cases same : projectId = session.projectId
  · apply suspended_of_unwritten suspended
    rw [same] at suspended
    by_contra writes
    cases locked : session.locked with
    | true => exact not_suspended_of_held held locked suspended
    | false => exact unsuspended locked (by simpa using writes) suspended
  · exact suspended_of_other suspended sameProjects_session same

theorem suspended_of_report {deployment : HostingDeployment}
    {project : HostingProject} {payload : AgentStatusUpdate}
    (owner : tables.project? project.id = some project)
    (effect : HostingWorld.ReportEffect validateTrustedOrigin tables
      deployment project payload written) (suspended : tables.Suspended projectId) :
    written.Suspended projectId := by
  by_cases same : projectId = project.id
  · have here : project.status = .suspended := by
      obtain ⟨row, found, status⟩ := suspended
      rw [same, owner] at found
      cases found
      exact status
    cases effect with
    | refused => exact suspended
    | stopped => exact suspended_of_same suspended rfl
    | progressed running | rejected _ running | promoted running => exact absurd here running
  · exact suspended_of_other suspended (sameProjects_report effect) same

theorem suspended_of_setStatus {other : ℕ} {status : HostingProjectStatus}
    (suspended : tables.Suspended projectId) (kept : projectId = other → status = .suspended) :
    (tables.setProjectStatus other status).Suspended projectId := by
  obtain ⟨project, found, already⟩ := suspended
  have shown : (tables.setProjectStatus other status).project? projectId =
      (tables.project? projectId).map fun row =>
        if projectId = other then { row with status := status } else row :=
    project?_write (fun row => { row with status := status }) (fun _ => rfl) rfl projectId
  rw [found, Option.map_some] at shown
  refine ⟨_, shown, ?_⟩
  split
  · rename_i same
    exact kept same
  · exact already

theorem suspended_of_policy {other : ℕ} {policy : FailoverPolicy} {confirmed : Bool} {now : ℤ}
    (accepted : updateProjectFailoverPolicy tables other policy confirmed
      now = .ok written) (suspended : tables.Suspended projectId) :
    written.Suspended projectId := by
  by_cases same : projectId = other
  · obtain ⟨project, found, status⟩ := suspended
    rw [same] at found ⊢
    have owner := (HostingWorld.project?_spec found).2
    refine ⟨{ project with failoverPolicy := policy }, ?_, status⟩
    unfold updateProjectFailoverPolicy at accepted
    rw [found] at accepted
    dsimp only at accepted
    split at accepted
    · cases accepted
    · rw [← owner] at found ⊢
      split at accepted <;> cases accepted
      · exact HostingWorld.project?_save { project with failoverPolicy := policy } found rfl rfl
      · exact HostingWorld.project?_save { project with failoverPolicy := policy } found rfl rfl
  · exact suspended_of_other suspended (sameProjects_policy accepted) same

theorem staysSuspended (consistent : Consistent before)
    (moved : Moved services validateTrustedOrigin before move after)
    (unsuspended : before.CommitsUnsuspended move) : StaysSuspended before move after := by
  have kept {next : HostingState} (same : before.handedOut = next.handedOut) :
      ∀ deployment ∈ next.handedOut.drop before.handedOut.length,
        ¬ before.tables.Suspended deployment.projectId := by
    rw [same]
    simp
  cases moved with
  | unchanged | started | stepped | ended | admitted | refused | retired
  | nodeSet | databaseAttached | databaseSet =>
    exact ⟨fun projectId suspended _ => suspended_of_same suspended rfl, kept rfl⟩
  | @committed index session here free fresh =>
    have known := consistent.calls _ (List.mem_of_getElem? here)
    obtain ⟨status, handsOut⟩ := unsuspended session here ⟨free, fresh⟩
    refine ⟨fun projectId suspended _ => suspended_of_commit known.1 status suspended, ?_⟩
    intro deployment member
    simp only [List.drop_left] at member
    split at member
    · rename_i hands
      exact handsOut hands deployment (Option.mem_toList.mp member)
    · cases member
  | reported found deploymentFree projectFree effect =>
    obtain ⟨-, -, owner⟩ := HostingWorld.reported_spec found
    rw [← (HostingWorld.project?_spec owner).2] at owner
    exact ⟨fun projectId suspended _ => suspended_of_report owner effect suspended, kept rfl⟩
  | suspended free =>
    exact ⟨fun projectId suspended _ => suspended_of_setStatus suspended fun _ => rfl, kept rfl⟩
  | resumed free =>
    refine ⟨fun projectId suspended other =>
      suspended_of_setStatus suspended fun same => ?_, kept rfl⟩
    rw [same] at other
    exact absurd rfl other
  | policySet free accepted =>
    exact ⟨fun projectId suspended _ => suspended_of_policy accepted suspended, kept rfl⟩

end Steps

section Runs

variable (services : HostingServices) (validateTrustedOrigin : String → OriginCheck)
variable (failoverAfterSeconds : ℤ)

/-- Suspended projects stay suspended in every run whose commits are
unsuspended. -/
theorem staysSuspended_of_commitsUnsuspended {start : HostingState}
    (deployments : (start.tables.deployments.map HostingDeployment.id).Nodup)
    (attempts : (start.tables.attempts.map HostingFailoverAttempt.id).Nodup)
    (none : start.calls = []) (moves : List HostingMove) (unsuspended : EveryStep
      (Performs services validateTrustedOrigin failoverAfterSeconds)
      (fun before move _ => before.CommitsUnsuspended move) start moves) :
    EveryStep (Performs services validateTrustedOrigin failoverAfterSeconds)
      StaysSuspended start moves := by
  refine EveryStep.of_invariant (consistent_start deployments attempts none) ?_ ?_ unsuspended
  · intro before move after consistent performed _
    rw [performed]
    exact consistent.moved (moved_perform failoverAfterSeconds move)
  · intro before move after consistent performed commits
    rw [performed]
    exact staysSuspended consistent (moved_perform failoverAfterSeconds move) commits

end Runs

instance (tables : HostingWorld) (projectId : ℕ) : Decidable (tables.Suspended projectId) :=
  match found : tables.project? projectId with
  | none => .isFalse (by simp [HostingWorld.Suspended, found])
  | some project =>
    decidable_of_iff (project.status = .suspended) (by simp [HostingWorld.Suspended, found])

instance (state : HostingState) (session : HostingSession) : Decidable (state.Commits session) :=
  decidable_of_iff _ (state.commits_iff session).symm

/-- A condition on the session that a move is about to commit. -/
def decidableCommitting (state : HostingState) (move : HostingMove)
    (holds : HostingSession → Prop) [DecidablePred holds] : Decidable (match move with
      | .advance index =>
        ∀ session, state.calls[index]? = some (.committing session) → holds session
      | _ => True) := by
  cases move with
  | advance index =>
    dsimp only
    generalize state.calls[index]? = found
    cases found with
    | none => exact .isTrue fun _ none => by cases none
    | some call =>
      cases call with
      | committing session =>
        exact decidable_of_iff (holds session)
          ⟨fun meets _ same => by cases same; exact meets, fun meets => meets _ rfl⟩
      | _ => exact .isTrue fun _ same => by cases same
  | _ => exact .isTrue True.intro

instance (before : HostingState) (move : HostingMove) :
    Decidable (before.CommitsUnsuspended move) :=
  decidableCommitting before move fun session => before.Commits session →
    (_ → _ → ¬ _) ∧ (_ → ∀ claimed ∈ session.claimed, ¬ _)

/-- A running project on a node that stays active, next to an empty one. -/
def steadyTables : HostingWorld :=
  { strandedWorld with
    nodes := [{ spareRow false with id := 1 }, spareRow true] }

/-- The project is relocated, and suspended before the agent of the new node
claims the replacement. -/
def suspendedInTransit : List HostingMove :=
  [.relocate 3 none "manual_rebalance" 1, .advance 0, .advance 0, .advance 0,
    .advance 0, .suspend 3, .claim 2 (.ok []), .advance 0, .goOn 5 2, .advance 0, .advance 0]

theorem staysSuspended_suspendedInTransit :
    EveryStep (Performs openPlacement .trusted 300) StaysSuspended
      { tables := steadyTables } suspendedInTransit :=
  staysSuspended_of_commitsUnsuspended openPlacement .trusted 300 (by decide)
    (by decide) rfl suspendedInTransit (EveryStep.of_stepByStep (by decide))

/-- The pass commits, and the project runs. -/
theorem reconcile_resumes : ¬ EveryStep (Performs openPlacement .trusted 300) StaysSuspended
      { tables := steadyTables } (suspendedInTransit ++ [.advance 0]) := by
  intro everyStep
  have stays := everyStep suspendedInTransit (.advance 0) [] _ _ rfl
    (Run.of_foldl (fun (before : HostingState) move =>
      before.perform openPlacement .trusted 300 move) suspendedInTransit
        { tables := steadyTables }) rfl
  exact absurd (stays.status 3 (by decide) (by simp)) (by decide)

end HostingState

end Ithute
