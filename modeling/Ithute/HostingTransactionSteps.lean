import Ithute.HostingOutcomes
import Ithute.HostingTransactions
import Ithute.Library.Fallible

/-!
# Steps of the hosting transactions

What a move does to the tables and to the transactions in progress.
-/

namespace Ithute

open Fallible

structure SameRoute (before after : HostingFailoverAttempt) : Prop where
  id : after.id = before.id
  projectId : after.projectId = before.projectId
  sourceNodeId : after.sourceNodeId = before.sourceNodeId
  targetNodeId : after.targetNodeId = before.targetNodeId

structure AttemptKept (stored written : HostingFailoverAttempt) : Prop
    extends SameRoute stored written where
  active : written.status.active = true → stored.status.active = true

theorem SameRoute.refl (row : HostingFailoverAttempt) : SameRoute row row := ⟨rfl, rfl, rfl, rfl⟩

theorem AttemptKept.refl (row : HostingFailoverAttempt) :
    AttemptKept row row := ⟨.refl row, fun active => active⟩

def HostingSession.leave (session : HostingSession)
    (project : HostingProject) (attempt : AttemptEdit) (deployment : Option HostingDeployment)
    (retirement : Option RetireOperation) : HostingSession :=
  { (session.setProject project).keepAttempt attempt with
    deployment := deployment
    retirement := retirement }

section Relocations

variable (services : HostingServices) {tables : HostingWorld}
variable (session : HostingSession) (project : HostingProject) (attempt : AttemptEdit) (now : ℤ)

theorem eligibleTarget_apart {sourceNodeId target : ℕ} {preferred : Option ℕ}
    (eligible : eligibleTarget services tables project sourceNodeId preferred =
      .ok target) : target ≠ sourceNodeId := by
  unfold eligibleTarget at eligible
  dsimp only at eligible
  split at eligible
  · split at eligible
    · cases eligible
    · split_ifs at eligible with same
      cases eligible
      exact same
  · split at eligible
    · rename_i candidate found
      cases eligible
      have member := List.mem_of_find?_eq_some found
      simpa using (List.mem_filter.mp member).2
    · cases eligible

theorem finish_settle (row : HostingFailoverAttempt) : session.finish tables attempt
        (Relocation.settle ⟨tables, attempt.current, project⟩ row) =
      session.leave project (attempt.set row) none none := by
  simp [HostingSession.finish, HostingSession.leave, Relocation.settle,
    HostingWorld.newDeployments, HostingWorld.saveAttempt]

theorem finish_placed (preferred : Option ℕ) :
    (∃ previous target, target ≠ attempt.current.sourceNodeId ∧
      session.finish tables attempt (placeReplacement services
          ⟨tables, attempt.current, project⟩ now preferred) =
        session.leave { project with status := .deploying } (attempt.set { attempt.current with
              targetNodeId := some target
              deploymentId := some tables.nextId
              status := .deploying
              reason := none })
          (some (replacementDeployment ⟨tables, attempt.current, project⟩
            previous target now)) none) ∨
    (∃ row, AttemptKept attempt.current row ∧
      session.finish tables attempt (placeReplacement services
          ⟨tables, attempt.current, project⟩ now preferred) =
        session.leave project (attempt.set row) none none) := by
  unfold placeReplacement
  dsimp only
  split
  · refine .inr ⟨_, ?_, finish_settle session project attempt _⟩
    exact ⟨⟨rfl, rfl, rfl, rfl⟩, fun active => by cases active⟩
  · rename_i previous healthy
    split
    · refine .inr ⟨_, ?_, finish_settle session project attempt _⟩
      exact ⟨⟨rfl, rfl, rfl, rfl⟩, fun active => active⟩
    · rename_i target eligible
      split
      · refine .inl ⟨previous, target, eligibleTarget_apart services project eligible, ?_⟩
        simp [HostingSession.finish, HostingSession.leave, Relocation.deploy,
          HostingWorld.newDeployments, HostingWorld.saveAttempt,
          HostingWorld.saveProject, HostingWorld.audit, HostingWorld.flush, replacementDeployment]
      · refine .inr ⟨_, ?_, finish_settle session project attempt _⟩
        exact ⟨⟨rfl, rfl, rfl, rfl⟩, fun active => active⟩

/-- The retire operation that a cut-over adds, if none is in progress. -/
def sourceRetirement (tables : HostingWorld) (projectId sourceNodeId : ℕ)
    (now : ℤ) : Option RetireOperation :=
  if ∃ row ∈ tables.retirements,
      row.projectId = projectId ∧ row.nodeId = sourceNodeId ∧ row.active then
    none
  else
    some
      { id := tables.nextId
        projectId := projectId
        nodeId := sourceNodeId
        active := true
        createdAt := now }

theorem finish_complete (deployment : HostingDeployment) (edgeStatus : String) :
    session.finish tables attempt (Relocation.complete ⟨tables, attempt.current, project⟩ deployment
          edgeStatus now) = session.leave
        (Relocation.cutOver ⟨tables, attempt.current, project⟩ deployment)
        (attempt.set (Relocation.completedAttempt
          ⟨tables, attempt.current, project⟩ edgeStatus now)) none
        (sourceRetirement tables project.id attempt.current.sourceNodeId now) := by
  unfold Relocation.complete queueSourceRetirement
  dsimp only [HostingWorld.saveProject, HostingWorld.saveAttempt,
    Relocation.cutOver, Relocation.completedAttempt]
  split
  · rename_i existing found
    have busy : ∃ row ∈ tables.retirements, row.projectId = project.id ∧
        row.nodeId = attempt.current.sourceNodeId ∧ row.active := by
      obtain ⟨member, selected⟩ := List.mem_filter.mp (List.argmax_mem (Option.mem_def.mpr found))
      exact ⟨existing, member, by simpa using selected⟩
    simp only [HostingSession.finish, HostingSession.leave, sourceRetirement,
      if_pos busy, HostingWorld.newDeployments, HostingWorld.audit,
      List.drop_length, List.head?_nil]
  · rename_i found
    have idle : ¬ ∃ row ∈ tables.retirements, row.projectId = project.id ∧
        row.nodeId = attempt.current.sourceNodeId ∧ row.active := by
      rw [List.argmax_eq_none, List.filter_eq_nil_iff] at found
      rintro ⟨row, member, selected⟩
      exact found row member (by simpa using selected)
    simp only [HostingSession.finish, HostingSession.leave, sourceRetirement,
      if_neg idle, HostingWorld.newDeployments, HostingWorld.audit,
      HostingWorld.flush, List.drop_length, List.drop_left, List.head?_nil, List.head?_cons]

theorem finish_unchanged : session.finish tables attempt ⟨tables, attempt.current, project⟩ =
      session.leave project (attempt.set attempt.current) none none := by
  simp [HostingSession.finish, HostingSession.leave, HostingWorld.newDeployments]

theorem finish_finalized : (∃ row written, SameRoute attempt.current row ∧
      written.nodeId = project.nodeId ∧ session.finish tables attempt (finalizeAttempt services
          ⟨tables, attempt.current, project⟩ now) =
        session.leave written (attempt.set row) none none) ∨
    (∃ deployment edgeStatus, session.finish tables attempt (finalizeAttempt services
          ⟨tables, attempt.current, project⟩ now) =
        session.leave (Relocation.cutOver ⟨tables, attempt.current, project⟩ deployment)
          (attempt.set (Relocation.completedAttempt
            ⟨tables, attempt.current, project⟩ edgeStatus now)) none
          (sourceRetirement tables project.id attempt.current.sourceNodeId now)) := by
  unfold finalizeAttempt
  dsimp only
  split
  · refine .inl ⟨_, project, ?_, rfl, finish_settle session project attempt _⟩
    exact ⟨rfl, rfl, rfl, rfl⟩
  · rename_i deployment found
    split_ifs
    · refine .inl ⟨Relocation.failedAttempt ⟨tables, attempt.current, project⟩ deployment now,
        Relocation.failedProject ⟨tables, attempt.current, project⟩, ⟨rfl, rfl, rfl, rfl⟩, rfl, ?_⟩
      simp [HostingSession.finish, HostingSession.leave, Relocation.fail,
        HostingWorld.newDeployments, HostingWorld.saveAttempt,
        HostingWorld.saveProject, HostingWorld.audit]
    · exact .inl ⟨_, project, .refl _, rfl, finish_unchanged session project attempt⟩
    · split
      · exact .inl ⟨_, project, .refl _, rfl, finish_unchanged session project attempt⟩
      · split
        · refine .inl ⟨_, project, ?_, rfl, finish_settle session project attempt _⟩
          exact ⟨rfl, rfl, rfl, rfl⟩
        · split_ifs
          · refine .inl ⟨_, project, ?_, rfl, finish_settle session project attempt _⟩
            exact ⟨rfl, rfl, rfl, rfl⟩
          · exact .inr ⟨_, _, finish_complete session project attempt now
              _ _⟩

end Relocations

structure BegunAttempt (project : HostingProject) (sourceNodeId : ℕ)
    (attempt : HostingFailoverAttempt) : Prop where
  projectId : attempt.projectId = project.id
  sourceNodeId : attempt.sourceNodeId = sourceNodeId
  targetNodeId : attempt.targetNodeId = none
  status : attempt.status = .pending ∨ attempt.status = .recoveryRequired

/-- How a transaction that is not at its commit goes on. -/
inductive Follows (services : HostingServices) (tables : HostingWorld) :
    HostingCall → HostingCall → Prop
  | checked {locked : Bool} {project : HostingProject}
      {request : DeploymentRequest} {release : Release} {nodeId : ℕ} {now : ℤ}
      (checked : tables.checkDeployment project = .ok nodeId) :
      Follows services tables (.deploying locked project request now)
        (.numbering locked project nodeId release now)
  | numbered {locked : Bool} {project : HostingProject} {nodeId : ℕ} {release : Release} {now : ℤ} :
      Follows services tables (.numbering locked project nodeId release now) (.committing
          { (HostingSession.opened project locked).setProject
              { project with status := .deploying } with
            deployment := some (tables.numberedDeployment project nodeId release now) })
  | opened {project : HostingProject} {preferred : Option ℕ} {reason : String} {now : ℤ}
      {superseded : Option (HostingFailoverAttempt × HostingFailoverAttempt)}
      {attempt : HostingFailoverAttempt} (opened : openRelocation tables project reason now =
        .ok (superseded, attempt)) :
      Follows services tables (.relocating project preferred reason now) (.waiting
          { HostingSession.opened project true with superseded := superseded }
          project (.created attempt) preferred now)
  | revisited {project : HostingProject} {sourceNodeId : ℕ} {now : ℤ}
      {existing : HostingFailoverAttempt}
      (found : tables.attempt project.id sourceNodeId = some existing) :
      Follows services tables (.visiting project sourceNodeId now)
        (.forAttempt (.opened project false) project (.loaded existing existing) now)
  | prepared {project : HostingProject} {sourceNodeId : ℕ} {now : ℤ}
      {attempt : HostingFailoverAttempt} (begun : BegunAttempt project sourceNodeId attempt) :
      Follows services tables (.visiting project sourceNodeId now)
        (.forAttempt (.opened project false) project (.created attempt) now)
  | heldBack {session : HostingSession} {project : HostingProject}
      {attempt : AttemptEdit} {preferred : Option ℕ} {now : ℤ} :
      Follows services tables (.waiting session project attempt preferred now) (.committing
          (session.keepAttempt (attempt.set (heldBack attempt.current))))
  | idle {session : HostingSession} {project : HostingProject}
      {attempt : AttemptEdit} {preferred : Option ℕ} {now : ℤ} :
      Follows services tables (.waiting session project attempt preferred now)
        (.placing session project attempt preferred now)
  | replaced {session : HostingSession} {project : HostingProject}
      {attempt : AttemptEdit} {preferred : Option ℕ} {now : ℤ}
      {previous : HostingDeployment} {target : ℕ} (apart : target ≠ attempt.current.sourceNodeId) :
      Follows services tables (.placing session project attempt preferred now)
        (.committing (session.leave { project with status := .deploying } (attempt.set
            { attempt.current with
              targetNodeId := some target
              deploymentId := some tables.nextId
              status := .deploying
              reason := none })
          (some (replacementDeployment ⟨tables, attempt.current, project⟩
            previous target now)) none))
  | postponed {session : HostingSession} {project : HostingProject}
      {attempt : AttemptEdit} {preferred : Option ℕ} {now : ℤ}
      {row : HostingFailoverAttempt} (kept : AttemptKept attempt.current row) :
      Follows services tables (.placing session project attempt preferred now)
        (.committing (session.leave project (attempt.set row) none none))
  | orphaned {attempt failed : HostingFailoverAttempt} {now : ℤ}
      (closed : failed.status.active = false) (route : SameRoute attempt failed) :
      Follows services tables (.continuing attempt now) (.committing
          { projectId := attempt.projectId
            attempt := some (.loaded attempt failed) })
  | arrived {attempt : HostingFailoverAttempt} {project : HostingProject} {now : ℤ} :
      Follows services tables (.continuing attempt now) (.committing (.opened project false))
  | continued {attempt : HostingFailoverAttempt} {project : HostingProject}
      {now : ℤ} (found : tables.project? attempt.projectId = some project)
      (away : project.nodeId ≠ attempt.targetNodeId) :
      Follows services tables (.continuing attempt now)
        (.finalizing (.opened project false) project (.loaded attempt attempt) now)
  | settled {session : HostingSession} {project written : HostingProject}
      {attempt : AttemptEdit} {now : ℤ} {row : HostingFailoverAttempt}
      (route : SameRoute attempt.current row) (stays : written.nodeId = project.nodeId) :
      Follows services tables (.finalizing session project attempt now)
        (.committing (session.leave written (attempt.set row) none none))
  | completed {session : HostingSession} {project : HostingProject}
      {attempt : AttemptEdit} {now : ℤ} {deployment : HostingDeployment} {edgeStatus : String} :
      Follows services tables (.finalizing session project attempt now) (.committing (session.leave
          (Relocation.cutOver ⟨tables, attempt.current, project⟩ deployment)
          (attempt.set (Relocation.completedAttempt
            ⟨tables, attempt.current, project⟩ edgeStatus now))
          none
          (sourceRetirement tables project.id attempt.current.sourceNodeId now)))

section Follows

variable {services : HostingServices} {tables : HostingWorld}

theorem attempt_mem {projectId sourceNodeId : ℕ} {existing : HostingFailoverAttempt}
    (found : tables.attempt projectId sourceNodeId = some existing) :
    existing ∈ tables.attempts := by
  obtain ⟨flushed, _, stored⟩ := Option.bind_eq_some_iff.mp found
  exact List.mem_of_find?_eq_some stored

theorem prepareAttempt_begun {project : HostingProject} {sourceNodeId : ℕ} (now : ℤ)
    (none : tables.attempt project.id sourceNodeId = none) : BegunAttempt project sourceNodeId
      (prepareAttempt tables project sourceNodeId now).2 := by
  unfold prepareAttempt
  rw [none]
  dsimp only
  split_ifs
  · exact ⟨rfl, rfl, rfl, .inr rfl⟩
  · split
    · exact ⟨rfl, rfl, rfl, .inr rfl⟩
    · split
      · exact ⟨rfl, rfl, rfl, .inr rfl⟩
      · exact ⟨rfl, rfl, rfl, .inl rfl⟩

theorem follows_visiting (project : HostingProject) (sourceNodeId : ℕ)
    (now : ℤ) {following : HostingCall}
    (next : (HostingCall.visiting project sourceNodeId now).next services tables = .ok following) :
    Follows services tables (.visiting project sourceNodeId now) following := by
  cases next
  cases found : tables.attempt project.id sourceNodeId with
  | none => exact .prepared (prepareAttempt_begun now found)
  | some existing =>
    have same : (prepareAttempt tables project sourceNodeId now).2 = existing := by
      simp only [prepareAttempt, found]
    simp only [Option.isSome_some, if_true, same]
    exact .revisited found

theorem follows_next {call following : HostingCall}
    (next : call.next services tables = .ok following)
    (open_ : ∀ session, call ≠ .committing session)
    (unclaimed : ∀ operation refused, call ≠ .retiring operation refused) :
    Follows services tables call following := by
  cases call with
  | deploying locked project request now =>
    obtain ⟨release, released, next⟩ := bind_ok next
    obtain ⟨nodeId, checked, next⟩ := bind_ok next
    cases next
    exact .checked checked
  | numbering locked project nodeId release now =>
    cases next
    exact .numbered
  | relocating project preferred reason now =>
    obtain ⟨⟨superseded, attempt⟩, opened, next⟩ := bind_ok next
    cases next
    exact .opened opened
  | visiting project sourceNodeId now => exact follows_visiting project sourceNodeId now next
  | waiting session project attempt preferred now =>
    simp only [HostingCall.next] at next
    split_ifs at next
    · cases next
      exact .heldBack
    · cases next
      exact .idle
  | placing session project attempt preferred now =>
    simp only [HostingCall.next] at next
    split_ifs at next
    cases next
    rcases finish_placed services session project attempt now preferred with
      ⟨previous, target, apart, left⟩ | ⟨row, kept, left⟩
    · rw [left]
      exact .replaced apart
    · rw [left]
      exact .postponed kept
  | continuing attempt now =>
    simp only [HostingCall.next] at next
    split at next
    · cases next
      exact .orphaned rfl ⟨rfl, rfl, rfl, rfl⟩
    · rename_i project found
      split_ifs at next with here
      · cases next
        exact .arrived
      · cases next
        exact .continued found here
  | finalizing session project attempt now =>
    cases next
    rcases finish_finalized services session project attempt now with
      ⟨row, written, route, stays, left⟩ | ⟨deployment, edgeStatus, left⟩
    · rw [left]
      exact .settled route stays
    · rw [left]
      exact .completed
  | committing session => exact absurd rfl (open_ session)
  | retiring operation refused => exact absurd rfl (unclaimed operation refused)

end Follows

/-- The first call of a transaction, by what it has loaded. -/
inductive Starts (state : HostingState) : HostingCall → Prop
  | deploying {locked : Bool} {project : HostingProject}
      {request : DeploymentRequest} {now : ℤ}
      (found : state.tables.project? project.id = some project)
      (free : locked = true → state.projectFree project.id = true) :
      Starts state (.deploying locked project request now)
  | relocating {project : HostingProject} {preferred : Option ℕ}
      {reason : String} {now : ℤ}
      (found : state.tables.project? project.id = some project)
      (free : state.projectFree project.id = true) :
      Starts state (.relocating project preferred reason now)
  | visiting {project : HostingProject} {sourceNodeId : ℕ} {now : ℤ}
      (placed : project ∈ state.tables.projectsOn sourceNodeId) :
      Starts state (.visiting project sourceNodeId now)
  | continuing {attempt : HostingFailoverAttempt} {now : ℤ}
      (member : attempt ∈ state.tables.attempts)
      (staged : attempt.status = .deploying ∨ attempt.status = .edgePending) :
      Starts state (.continuing attempt now)
  | resolving {attempt resolved : HostingFailoverAttempt}
      (member : attempt ∈ state.tables.attempts)
      (closed : resolved.status.active = false)
      (route : SameRoute attempt resolved) :
      Starts state (.committing
        { projectId := attempt.projectId
          attempt := some (.loaded attempt resolved) })
  | claiming {deployment : HostingDeployment}
      {environment : Except String (List (String × String))}
      (member : deployment ∈ state.tables.deployments)
      (queued : deployment.status = .queued)
      (free : state.deploymentFree deployment.id = true) :
      Starts state (.committing (state.claimSession deployment environment))
  | retiring {operation : RetireOperation} {refused : Bool} :
      Starts state (.retiring operation refused)

inductive Moved (services : HostingServices)
    (validateTrustedOrigin : String → OriginCheck) (state : HostingState) :
    HostingMove → HostingState → Prop
  | unchanged {move : HostingMove} : Moved services validateTrustedOrigin state move state
  | started {move : HostingMove} {call : HostingCall} (starts : Starts state call) :
      Moved services validateTrustedOrigin state move (state.start call)
  | stepped {index : ℕ} {call following : HostingCall} (here : state.calls[index]? = some call)
      (follows : Follows services state.tables call following) :
      Moved services validateTrustedOrigin state (.advance index)
        { state.replaceCall index (some following) with
          tables := { state.tables with nextId := state.tables.nextId + 1 } }
  | ended {move : HostingMove} {index : ℕ} : Moved services validateTrustedOrigin state move
        (state.replaceCall index none)
  | committed {index : ℕ} {session : HostingSession}
      (here : state.calls[index]? = some (.committing session))
      (free : session.writesProject = true → session.locked = true ∨
        state.projectFree session.projectId = true)
      (fresh : session.duplicates state.tables = false) :
      Moved services validateTrustedOrigin state (.advance index)
        { state.replaceCall index none with
          tables := session.write state.tables
          handedOut := state.handedOut ++
            (if session.handsOut then session.claimed.toList else []) }
  | admitted {index : ℕ} {operation : RetireOperation} :
      Moved services validateTrustedOrigin state (.advance index)
        { state.replaceCall index none with
          claimedOperations := state.claimedOperations ++ [operation.id] }
  | refused {index : ℕ} {operation : RetireOperation} :
      Moved services validateTrustedOrigin state (.advance index)
        ((state.replaceCall index none).closeOperation operation.id)
  | retired {nodeId operationId : ℕ} : Moved services validateTrustedOrigin state
        (.reportOperation nodeId operationId) (state.closeOperation operationId)
  | reported {nodeId deploymentId : ℕ} {payload : AgentStatusUpdate}
      {deployment : HostingDeployment} {project : HostingProject} {after : HostingWorld}
      (found : state.tables.reported nodeId deploymentId = .ok (deployment, project))
      (deploymentFree : state.deploymentFree deployment.id = true)
      (projectFree : state.projectFree project.id = true)
      (effect : HostingWorld.ReportEffect validateTrustedOrigin state.tables
        deployment project payload after) : Moved services validateTrustedOrigin state
        (.report nodeId deploymentId payload) { state with tables := after }
  | suspended {projectId : ℕ} (free : state.projectFree projectId = true) :
      Moved services validateTrustedOrigin state (.suspend projectId) { state with
          tables := state.tables.setProjectStatus projectId .suspended }
  | resumed {projectId : ℕ} (free : state.projectFree projectId = true) :
      Moved services validateTrustedOrigin state (.resume projectId) { state with
          tables := state.tables.setProjectStatus projectId .configured }
  | policySet {projectId : ℕ} {policy : FailoverPolicy} {confirmed : Bool}
      {now : ℤ} {after : HostingWorld} (free : state.projectFree projectId = true)
      (accepted : updateProjectFailoverPolicy state.tables projectId policy
        confirmed now = .ok after) :
      Moved services validateTrustedOrigin state (.setPolicy projectId policy confirmed now)
        { state with tables := after }
  | nodeSet {row : HostingNodeRow} : Moved services validateTrustedOrigin state (.setNode row)
        { state with tables := state.tables.setNode row }
  | databaseAttached {projectId : ℕ} {engine : String} {now : ℤ} :
      Moved services validateTrustedOrigin state (.attachDatabase projectId engine now) { state with
          tables := state.tables.attachDatabase projectId engine now }
  | databaseSet {databaseId : ℕ} {status : HostingDatabaseStatus} :
      Moved services validateTrustedOrigin state (.setDatabaseStatus databaseId status) { state with
          tables := state.tables.setDatabaseStatus databaseId status }

section Moves

variable {services : HostingServices} {validateTrustedOrigin : String → OriginCheck}
variable {state : HostingState} {move : HostingMove} {projectId : ℕ}

theorem moved_startOn {locks : Bool} {call : HostingProject → HostingCall}
    (starts : ∀ project, state.tables.project? project.id = some project →
      (locks = true → state.projectFree project.id = true) → Starts state (call project)) :
    Moved services validateTrustedOrigin state move (state.startOn projectId locks call) := by
  unfold HostingState.startOn
  split
  · exact .unchanged
  · rename_i project found
    obtain rfl := (HostingWorld.project?_spec found).2
    split
    · exact .unchanged
    · rename_i free
      refine .started (starts project found fun holds => ?_)
      simpa [holds] using free

theorem moved_write {write : HostingWorld → HostingWorld}
    (moved : state.projectFree projectId = true → Moved services validateTrustedOrigin state move
        { state with tables := write state.tables }) :
    Moved services validateTrustedOrigin state move (state.write projectId write) := by
  unfold HostingState.write
  split
  · rename_i free
    exact moved free
  · exact .unchanged

theorem moved_commit {index : ℕ} {session : HostingSession}
    (here : state.calls[index]? = some (.committing session)) :
    Moved services validateTrustedOrigin state (.advance index) (state.commit index session) := by
  unfold HostingState.commit
  split
  · exact .unchanged
  · rename_i free
    split
    · exact .ended
    · rename_i fresh
      refine .committed here (fun writes => ?_) (by simpa using fresh)
      by_cases locked : session.locked = true
      · exact .inl locked
      · right
        simpa [writes, locked] using free

theorem moved_advance (index : ℕ) : Moved services validateTrustedOrigin state (.advance index)
      (state.advance services index) := by
  unfold HostingState.advance
  split
  · exact .unchanged
  · rename_i session here
    exact moved_commit here
  · dsimp only
    split
    · exact .refused
    · exact .admitted
  · rename_i call open_ unclaimed here
    split
    · exact .ended
    · rename_i following next
      exact .stepped here (follows_next next open_ unclaimed)

theorem moved_claim (nodeId : ℕ) (environment : Except String (List (String × String))) :
    Moved services validateTrustedOrigin state move (state.beginClaim nodeId environment) := by
  unfold HostingState.beginClaim
  split
  · rename_i deployment _ found
    have chosen : deployment ∈ state.tables.deployments.filter fun row =>
        row.nodeId = some nodeId ∧ row.status = .queued ∧ state.deploymentFree row.id :=
      List.argmin_mem (Option.mem_def.mpr found)
    obtain ⟨member, selected⟩ := List.mem_filter.mp chosen
    simp only [decide_eq_true_eq] at selected
    exact .started (.claiming member selected.2.1 selected.2.2)
  · exact .unchanged

theorem moved_report (nodeId deploymentId : ℕ) (payload : AgentStatusUpdate) :
    Moved services validateTrustedOrigin state (.report nodeId deploymentId payload)
      (state.report validateTrustedOrigin nodeId deploymentId payload) := by
  unfold HostingState.report
  split
  · exact .unchanged
  · rename_i deployment project found
    split
    · rename_i deploymentFree
      exact moved_write fun projectFree =>
        .reported found deploymentFree projectFree (HostingWorld.report_effect found)
    · exact .unchanged

theorem visited_mem {failoverAfterSeconds : ℤ} {sourceNodeId : ℕ}
    {now limit : ℤ} {project : HostingProject}
    (found : state.visited failoverAfterSeconds sourceNodeId projectId now limit = some project) :
    project ∈ state.tables.projectsOn sourceNodeId := by
  unfold HostingState.visited at found
  split at found
  · split at found
    · cases found
    · split at found
      · cases found
      · exact List.mem_of_find?_eq_some found
  · cases found

theorem moved_perform (failoverAfterSeconds : ℤ) (move : HostingMove) :
    Moved services validateTrustedOrigin state move
      (state.perform services validateTrustedOrigin failoverAfterSeconds move) := by
  cases move with
  | deploy projectId request now =>
    exact moved_startOn fun project found free =>
      .deploying found fun _ => free rfl
  | finishBuild projectId request now =>
    exact moved_startOn fun project found _ =>
      .deploying found fun locked => by cases locked
  | relocate projectId preferred reason now =>
    exact moved_startOn fun project found free => .relocating found (free rfl)
  | visit sourceNodeId projectId now limit =>
    simp only [HostingState.perform]
    split
    · exact .unchanged
    · rename_i project found
      exact .started (.visiting (visited_mem found))
  | resolve attemptId now =>
    simp only [HostingState.perform, HostingState.beginResolve]
    split
    · exact .unchanged
    · rename_i attempt found
      split
      · exact .started (.resolving (List.mem_of_find?_eq_some found) rfl ⟨rfl, rfl, rfl, rfl⟩)
      · exact .unchanged
  | goOn attemptId now =>
    simp only [HostingState.perform, HostingState.beginGoOn]
    split
    · exact .unchanged
    · rename_i attempt found
      split
      · rename_i staged
        exact .started (.continuing (List.mem_of_find?_eq_some found) staged)
      · exact .unchanged
  | claim nodeId environment => exact moved_claim nodeId environment
  | claimOperation nodeId operationId =>
    simp only [HostingState.perform, HostingState.beginClaimOperation]
    split
    · exact .unchanged
    · exact .started .retiring
  | advance index => exact moved_advance index
  | crash index => exact .ended
  | report nodeId deploymentId payload =>
    exact moved_report nodeId deploymentId payload
  | reportOperation nodeId operationId =>
    simp only [HostingState.perform, HostingState.reportOperation]
    split
    · exact .retired
    · exact .unchanged
  | suspend projectId =>
    simp only [HostingState.perform, HostingState.setStatus]
    exact moved_write fun free => .suspended free
  | resume projectId =>
    simp only [HostingState.perform, HostingState.setStatus]
    exact moved_write fun free => .resumed free
  | setPolicy projectId policy confirmed now =>
    simp only [HostingState.perform]
    refine moved_write fun free => ?_
    cases accepted : updateProjectFailoverPolicy state.tables projectId
        policy confirmed now with
    | error detail => exact .unchanged
    | ok after => exact .policySet free accepted
  | setNode row => exact .nodeSet
  | attachDatabase projectId engine now => exact .databaseAttached
  | setDatabaseStatus databaseId status => exact .databaseSet

theorem Moved.call_cases {after : HostingState} {call : HostingCall}
    (moved : Moved services validateTrustedOrigin state move after) (member : call ∈ after.calls) :
    call ∈ state.calls ∨ Starts state call ∨
      ∃ earlier ∈ state.calls, Follows services state.tables earlier call := by
  have ended (index : ℕ) (remaining : call ∈
      (state.replaceCall index none).calls) : call ∈ state.calls := by
    simp only [HostingState.replaceCall, Option.toList_none, List.append_nil] at remaining
    exact List.mem_of_mem_eraseIdx remaining
  cases moved with
  | unchanged | retired | reported | suspended | resumed | policySet
  | nodeSet | databaseAttached | databaseSet => exact .inl member
  | started starts =>
    rcases List.mem_append.mp member with old | new
    · exact .inl old
    · rw [List.mem_singleton.mp new]
      exact .inr (.inl starts)
  | stepped here follows =>
    rcases List.mem_append.mp member with old | new
    · exact .inl (List.mem_of_mem_eraseIdx old)
    · rw [List.mem_singleton.mp new]
      exact .inr (.inr ⟨_, List.mem_of_getElem? here, follows⟩)
  | ended | committed | admitted | refused => exact .inl (ended _ member)

end Moves

end Ithute
