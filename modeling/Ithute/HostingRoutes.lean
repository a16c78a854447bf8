import Ithute.HostingRolloutWrites

/-!
# Routes of attempts

An attempt leads from a source node to another one.  A transaction that cuts
a project over knows the attempt that it completes, and that the project is
not on the target yet.
-/

namespace Ithute

open RewrittenRows

def HostingFailoverAttempt.Leads (attempt : HostingFailoverAttempt) : Prop :=
  attempt.targetNodeId ≠ some attempt.sourceNodeId

def HostingFailoverAttempt.Staged (attempt : HostingFailoverAttempt) : Prop :=
  attempt.status = .deploying ∨ attempt.status = .edgePending

def HostingWorld.Knows (tables : HostingWorld) (attempt : HostingFailoverAttempt) : Prop :=
  ∃ stored ∈ tables.attempts, stored.id = attempt.id ∧ stored.sourceNodeId = attempt.sourceNodeId

/-- The version that is to be written leads from the source of the loaded
one. -/
def AttemptEdit.Routed (tables : HostingWorld) : AttemptEdit → Prop
  | .created row => row.Leads
  | .loaded before row =>
    row.Leads ∧ row.id = before.id ∧ row.sourceNodeId = before.sourceNodeId ∧ tables.Knows before

/-- A session that queues a retire operation completes a staged attempt and
moves the project away from the source. -/
structure HostingSession.CutsOver (session : HostingSession) (added : RetireOperation) : Prop where
  deployment : session.deployment = none
  owner : added.projectId = session.projectId
  project : ∃ edit, session.project = some edit ∧ edit.current.nodeId ≠ edit.loaded.nodeId ∧
      edit.current.nodeId ≠ some added.nodeId
  attempt : ∃ before row, session.attempt = some (.loaded before row) ∧
    row.id = before.id ∧ before.Staged ∧ row.status = .completed

structure HostingSession.Routed (session : HostingSession) (tables : HostingWorld) : Prop where
  superseding : session.Superseding
  attempt : ∀ edit, session.attempt = some edit → edit.Routed tables
  retirement : ∀ added, session.retirement = some added → session.CutsOver added

def HostingCall.Routed (tables : HostingWorld) : HostingCall → Prop
  | .visiting project sourceNodeId _ => project.nodeId = some sourceNodeId
  | .continuing attempt _ => attempt.Leads ∧ attempt.Staged ∧ tables.Knows attempt
  | .waiting session _ attempt _ _ | .placing session _ attempt _ _ =>
    session.Superseding ∧ attempt.Routed tables
  | .finalizing session project attempt _ =>
    session = .opened project false ∧ ∃ before,
      attempt = .loaded before before ∧ before.Leads ∧ before.Staged ∧
        tables.Knows before ∧ project.nodeId ≠ before.targetNodeId
  | .committing session => session.Routed tables
  | .deploying .. | .numbering .. | .relocating .. | .retiring .. => True

/-- Queries see the stored rows, and every attempt leads somewhere else. -/
structure RoutedTables (tables : HostingWorld) : Prop where
  flushedProjects : tables.flushedProjects = tables.projects
  flushedAttempts : tables.flushedAttempts = tables.attempts
  projects : (tables.projects.map HostingProject.id).Nodup
  attempts : ∀ attempt ∈ tables.attempts, attempt.Leads

section Knowledge

variable {services : HostingServices} {tables after : HostingWorld}
variable {session : HostingSession} {call following : HostingCall}

theorem SameRoute.leads {before after : HostingFailoverAttempt}
    (route : SameRoute before after) (leads : before.Leads) : after.Leads := by
  unfold HostingFailoverAttempt.Leads
  rw [route.targetNodeId, route.sourceNodeId]
  exact leads

variable {edit : AttemptEdit}

theorem Routed.set {row : HostingFailoverAttempt}
    (routed : edit.Routed tables) (id : row.id = edit.current.id)
    (source : row.sourceNodeId = edit.current.sourceNodeId)
    (leads : row.Leads) : (edit.set row).Routed tables := by
  cases edit with
  | created old => exact leads
  | loaded before old =>
    obtain ⟨-, sameId, sameSource, known⟩ := routed
    exact ⟨leads, id.trans sameId, source.trans sameSource, known⟩

theorem Routed.leads (routed : edit.Routed tables) : edit.current.Leads := by
  cases edit with
  | created row => exact routed
  | loaded before row => exact routed.1

theorem Routed.set_route {row : HostingFailoverAttempt}
    (routed : edit.Routed tables) (route : SameRoute edit.current row) :
    (edit.set row).Routed tables :=
  Routed.set routed route.id route.sourceNodeId (route.leads (leads routed))

theorem routed_loaded {attempt : HostingFailoverAttempt}
    (leads : attempt.Leads) (known : tables.Knows attempt) :
    (AttemptEdit.loaded attempt attempt).Routed tables :=
  ⟨leads, rfl, rfl, known⟩

theorem knows_of_mem {attempt : HostingFailoverAttempt}
    (member : attempt ∈ tables.attempts) : tables.Knows attempt :=
  ⟨attempt, member, rfl, rfl⟩

theorem HostingSession.Routed.of_attempt (superseding : session.Superseding)
    (none : session.retirement = none)
    (attempt : ∀ edit, session.attempt = some edit → edit.Routed tables) :
    session.Routed tables where
  superseding := superseding
  attempt := attempt
  retirement := by
    intro added here
    rw [none] at here
    cases here

theorem attempt_route (routed : RoutedTables tables)
    (unique : (tables.attempts.map HostingFailoverAttempt.id).Nodup)
    {projectId sourceNodeId : ℕ} {existing : HostingFailoverAttempt}
    (found : tables.attempt projectId sourceNodeId = some existing) :
    existing ∈ tables.attempts ∧ existing.sourceNodeId = sourceNodeId := by
  obtain ⟨flushed, chosen, stored⟩ := Option.bind_eq_some_iff.mp found
  obtain ⟨member, selected⟩ := List.mem_filter.mp (List.argmax_mem chosen)
  simp only [decide_eq_true_eq] at selected
  rw [routed.flushedAttempts] at member
  have storedMem := List.mem_of_find?_eq_some stored
  have sameId : existing.id = flushed.id := by simpa using List.find?_some stored
  rw [List.inj_on_of_nodup_map unique storedMem member sameId]
  exact ⟨member, selected.2.1⟩

variable {project : HostingProject}

theorem projectsOn_nodeId (routed : RoutedTables tables) {nodeId : ℕ}
    (member : project ∈ tables.projectsOn nodeId) :
    project.nodeId = some nodeId := by
  obtain ⟨flushed, sorted, stored⟩ := List.mem_filterMap.mp member
  rw [List.mem_insertionSort] at sorted
  obtain ⟨flushedMem, selected⟩ := List.mem_filter.mp sorted
  simp only [decide_eq_true_eq] at selected
  rw [routed.flushedProjects] at flushedMem
  have storedMem := List.mem_of_find?_eq_some stored
  rw [List.inj_on_of_nodup_map routed.projects storedMem flushedMem
    (HostingWorld.project?_spec stored).2]
  exact selected.1

theorem forAttempt_routed {attempt : AttemptEdit}
    {now : ℤ} (routed : attempt.Routed tables) (cutsOver : attempt.current.Staged → ∃ before,
      attempt = .loaded before before ∧ tables.Knows before ∧
        project.nodeId ≠ before.targetNodeId) :
    (HostingCall.forAttempt (.opened project false) project attempt now).Routed tables := by
  have superseding : (HostingSession.opened project false).Superseding := Superseding.of_none rfl
  have finalizing (staged : attempt.current.Staged) :
      (HostingCall.finalizing (.opened project false) project attempt now).Routed tables := by
    obtain ⟨before, loaded, known, away⟩ := cutsOver staged
    rw [loaded] at routed staged ⊢
    exact ⟨rfl, before, rfl, routed.1, staged, known, away⟩
  unfold HostingCall.forAttempt
  split
  · exact ⟨superseding, routed⟩
  · rename_i status
    exact finalizing (.inl status)
  · rename_i status
    exact finalizing (.inr status)
  · refine .of_attempt superseding rfl ?_
    intro edit here
    cases here
    exact routed

theorem completed_routed {before : HostingFailoverAttempt} {deployment : HostingDeployment}
    {edgeStatus : String} {now : ℤ} (leads : before.Leads)
    (staged : before.Staged) (known : tables.Knows before)
    (away : project.nodeId ≠ before.targetNodeId) : ((HostingSession.opened project false).leave
      (Relocation.cutOver ⟨tables, before, project⟩ deployment) (.loaded before
        (Relocation.completedAttempt ⟨tables, before, project⟩ edgeStatus now)) none
      (sourceRetirement tables project.id before.sourceNodeId now)).Routed tables where
  superseding := Superseding.of_none rfl
  attempt := by
    intro edit here
    cases here
    exact ⟨leads, rfl, rfl, known⟩
  retirement := by
    intro added here
    have same : added.projectId = project.id ∧ added.nodeId = before.sourceNodeId := by
      simp only [HostingSession.leave, sourceRetirement] at here
      split at here
      · cases here
      · cases here
        exact ⟨rfl, rfl⟩
    refine ⟨rfl, same.1, ⟨_, rfl, away.symm, ?_⟩, ⟨before, _, rfl, rfl, staged, rfl⟩⟩
    rw [same.2]
    exact leads

theorem HostingCall.Routed.next (routed : call.Routed tables)
    (fits : call.Fits tables) (known : RoutedTables tables)
    (unique : (tables.attempts.map HostingFailoverAttempt.id).Nodup)
    (follows : Follows services tables call following) : following.Routed tables := by
  cases follows with
  | checked => exact True.intro
  | numbered =>
    refine .of_attempt (Superseding.of_none rfl) rfl ?_
    intro edit here
    cases here
  | opened opened =>
    obtain ⟨-, -, target, superseded⟩ := openRelocation_ok opened
    refine ⟨?_, ?_⟩
    · intro edit here
      obtain ⟨existing, -, same⟩ := superseded edit here
      exact ⟨_, by rw [same]⟩
    · intro same
      rw [target] at same
      cases same
  | @revisited project sourceNodeId now existing found =>
    obtain ⟨member, source⟩ := attempt_route known unique found
    have leads := known.attempts existing member
    refine forAttempt_routed (routed_loaded leads (knows_of_mem member)) fun _ =>
        ⟨existing, rfl, knows_of_mem member, ?_⟩
    rw [show project.nodeId = some sourceNodeId from routed, ← source]
    exact leads.symm
  | @prepared project sourceNodeId now attempt begun =>
    refine forAttempt_routed ?_ ?_
    · intro same
      rw [begun.targetNodeId] at same
      cases same
    · intro staged
      rcases begun.status with status | status <;>
        rcases staged with other | other <;>
          · rw [AttemptEdit.current, status] at other
            cases other
  | @heldBack session project attempt preferred now =>
    obtain ⟨superseding, route⟩ := routed
    refine .of_attempt superseding fits.2.retirement ?_
    intro edit here
    cases here
    exact Routed.set_route route ⟨rfl, rfl, rfl, rfl⟩
  | idle => exact routed
  | @replaced session project attempt preferred now previous target apart =>
    obtain ⟨superseding, route⟩ := routed
    refine .of_attempt superseding rfl ?_
    intro edit here
    cases here
    refine Routed.set route rfl rfl ?_
    intro same
    exact apart (Option.some.inj same)
  | postponed kept =>
    obtain ⟨superseding, route⟩ := routed
    refine .of_attempt superseding rfl ?_
    intro edit here
    cases here
    exact Routed.set_route route kept.toSameRoute
  | orphaned closed route =>
    obtain ⟨leads, -, knows⟩ := routed
    refine .of_attempt (Superseding.of_none rfl) rfl ?_
    intro edit here
    cases here
    exact Routed.set_route (routed_loaded leads knows) route
  | arrived =>
    refine .of_attempt (Superseding.of_none rfl) rfl ?_
    intro edit here
    cases here
  | continued found away =>
    obtain ⟨leads, staged, knows⟩ := routed
    exact ⟨rfl, _, rfl, leads, staged, knows, away⟩
  | settled route stays =>
    obtain ⟨rfl, before, rfl, leads, staged, knows, away⟩ := routed
    refine .of_attempt (Superseding.of_none rfl) rfl ?_
    intro edit here
    cases here
    exact Routed.set_route (routed_loaded leads knows) route
  | completed =>
    obtain ⟨rfl, before, rfl, leads, staged, knows, away⟩ := routed
    exact completed_routed leads staged knows away

theorem HostingCall.Routed.mono (routed : call.Routed tables)
    (kept : ∀ attempt, tables.Knows attempt → after.Knows attempt) : call.Routed after := by
  have edits {edit : AttemptEdit} (known : edit.Routed tables) : edit.Routed after := by
    cases edit with
    | created row => exact known
    | loaded before row =>
      obtain ⟨leads, id, source, knows⟩ := known
      exact ⟨leads, id, source, kept before knows⟩
  cases call with
  | visiting => exact routed
  | continuing =>
    obtain ⟨leads, staged, knows⟩ := routed
    exact ⟨leads, staged, kept _ knows⟩
  | waiting | placing => exact ⟨routed.1, edits routed.2⟩
  | finalizing =>
    obtain ⟨same, before, loaded, leads, staged, knows, away⟩ := routed
    exact ⟨same, before, loaded, leads, staged, kept _ knows, away⟩
  | committing =>
    exact ⟨routed.superseding, fun edit here => edits (routed.attempt edit here), routed.retirement⟩
  | deploying | numbering | relocating | retiring => exact True.intro

theorem Starts.routed {state : HostingState}
    (known : RoutedTables state.tables) (starts : Starts state call) :
    call.Routed state.tables := by
  cases starts with
  | deploying | relocating | retiring => exact True.intro
  | visiting placed => exact projectsOn_nodeId known placed
  | continuing member staged => exact ⟨known.attempts _ member, staged, knows_of_mem member⟩
  | resolving member closed route =>
    refine .of_attempt (Superseding.of_none rfl) rfl ?_
    intro edit here
    cases here
    exact Routed.set_route (routed_loaded (known.attempts _ member) (knows_of_mem member)) route
  | @claiming deployment environment member queued free =>
    obtain ⟨superseded, attempt, -, retirement⟩ := claimSession_adds state deployment environment
    refine .of_attempt (Superseding.of_none superseded) retirement ?_
    intro edit here
    rw [attempt] at here
    cases here

end Knowledge

section Writes

variable {tables : HostingWorld} {session : HostingSession}

theorem update_leads {before row stored : HostingFailoverAttempt}
    (leads : stored.Leads) (written : row.Leads) (source : row.sourceNodeId = stored.sourceNodeId) :
    (AttemptEdit.update before row stored).Leads := by
  unfold HostingFailoverAttempt.Leads at *
  simp only [AttemptEdit.update, rewritten]
  split
  · exact leads
  · rw [← source]
    exact written

theorem commit_leads (unique : (tables.attempts.map HostingFailoverAttempt.id).Nodup)
    (leads : ∀ attempt ∈ tables.attempts, attempt.Leads) (routed : session.Routed tables) :
    ∀ attempt ∈ (session.write tables).attempts, attempt.Leads := by
  have rewrites := supersede_rewrites tables routed.superseding
  have superseded (row : HostingFailoverAttempt) (member : row ∈ session.supersede tables) :
      row.Leads ∧ ∃ earlier ∈ tables.attempts, row.id = earlier.id ∧
        row.sourceNodeId = earlier.sourceNodeId := by
    obtain ⟨earlier, earlierMem, kept⟩ := rewrites.earlier member
    exact ⟨kept.leads (leads earlier earlierMem), earlier, earlierMem, kept.id, kept.sourceNodeId⟩
  intro attempt member
  change attempt ∈ AttemptEdit.write (session.supersede tables) session.attempt at member
  match here : session.attempt with
  | none =>
    rw [here] at member
    exact (superseded attempt member).1
  | some (.created row) =>
    rw [here] at member
    rcases List.mem_append.mp member with old | new
    · exact (superseded attempt old).1
    · rw [List.mem_singleton.mp new]
      exact routed.attempt _ here
  | some (.loaded before row) =>
    rw [here] at member
    obtain ⟨stored, storedMem, rfl⟩ := List.mem_map.mp member
    obtain ⟨storedLeads, earlier, earlierMem, sameId, sameSource⟩ := superseded stored storedMem
    split
    · rename_i written
      obtain ⟨rowLeads, rowId, rowSource, known, knownMem, knownId,
        knownSource⟩ := routed.attempt _ here
      have same : earlier = known :=
        List.inj_on_of_nodup_map unique earlierMem knownMem
          (sameId.symm.trans (written.trans knownId.symm))
      apply update_leads storedLeads rowLeads
      rw [rowSource, ← knownSource, ← same, sameSource]
    · exact storedLeads

theorem commit_knows (superseding : session.Superseding)
    {attempt : HostingFailoverAttempt} (knows : tables.Knows attempt) :
    (session.write tables).Knows attempt := by
  obtain ⟨stored, member, id, source⟩ := knows
  obtain ⟨row, rowMem, kept⟩ := (supersede_rewrites tables superseding).later member
  have known : row.id = attempt.id ∧ row.sourceNodeId = attempt.sourceNodeId :=
    ⟨kept.id.trans id, kept.sourceNodeId.trans source⟩
  change ∃ later ∈ AttemptEdit.write (session.supersede tables) session.attempt, _
  match session.attempt with
  | none => exact ⟨row, rowMem, known⟩
  | some (.created added) => exact ⟨row, List.mem_append_left _ rowMem, known⟩
  | some (.loaded before written) =>
    refine ⟨_, List.mem_map_of_mem rowMem, ?_⟩
    split
    · exact known
    · exact known

end Writes

section Moves

variable {services : HostingServices} {validateTrustedOrigin : String → OriginCheck}
variable {state after : HostingState} {move : HostingMove}

theorem Moved.flushed (moved : Moved services validateTrustedOrigin state move after)
    (flushed : state.tables.flushedProjects = state.tables.projects ∧
      state.tables.flushedAttempts = state.tables.attempts) :
    after.tables.flushedProjects = after.tables.projects ∧
      after.tables.flushedAttempts = after.tables.attempts := by
  cases moved with
  | unchanged | started | stepped | ended | admitted | refused | retired
  | nodeSet | databaseAttached | databaseSet => exact flushed
  | committed | suspended | resumed => exact ⟨rfl, rfl⟩
  | reported found deploymentFree projectFree effect =>
    cases effect with
    | refused | stopped => exact flushed
    | progressed | rejected | promoted => exact ⟨rfl, rfl⟩
  | policySet free accepted =>
    unfold updateProjectFailoverPolicy at accepted
    split at accepted
    · cases accepted
    · split at accepted <;> cases accepted
      exact ⟨rfl, rfl⟩

theorem Moved.project_ids (moved : Moved services validateTrustedOrigin state move after) :
    after.tables.projects.map HostingProject.id = state.tables.projects.map HostingProject.id := by
  have saved (project : HostingProject) :
      (state.tables.saveProject project).projects.map HostingProject.id =
        state.tables.projects.map HostingProject.id :=
    UniqueRows.map_key_replace project
  have written (projectId : ℕ) (write : HostingProject → HostingProject)
      (ids : ∀ row, (write row).id = row.id) : (state.tables.projects.map fun row =>
        if row.id = projectId then write row else row).map HostingProject.id =
        state.tables.projects.map HostingProject.id := by
    rw [List.map_map]
    apply List.map_congr_left
    intro row _
    dsimp only [Function.comp]
    split
    · exact ids row
    · rfl
  cases moved with
  | unchanged | started | stepped | ended | admitted | refused | retired
  | nodeSet | databaseAttached | databaseSet => rfl
  | suspended | resumed => exact written _ _ fun _ => rfl
  | @committed index session =>
    change (session.writeProjects state.tables).map HostingProject.id = _
    unfold HostingSession.writeProjects
    split
    · rfl
    · exact written _ _ fun _ => rfl
  | @reported nodeId deploymentId payload deployment project after found
      deploymentFree projectFree effect =>
      cases effect with
      | refused | stopped => rfl
      | @progressed written status | @rejected written status =>
        exact saved { project with status := status }
      | @promoted written =>
        exact saved { project with
            imageRef := some written.imageRef
            status := state.tables.promotedStatus deployment.id }
  | @policySet projectId policy confirmed now after free accepted =>
    unfold updateProjectFailoverPolicy at accepted
    split at accepted
    · cases accepted
    · rename_i project found
      split at accepted <;> cases accepted
      split <;> exact saved { project with failoverPolicy := policy }

theorem Moved.knows (consistent : Consistent state)
    (calls : ∀ call ∈ state.calls, call.Routed state.tables)
    (moved : Moved services validateTrustedOrigin state move after)
    {attempt : HostingFailoverAttempt}
    (knows : state.tables.Knows attempt) : after.tables.Knows attempt := by
  rcases moved.commits_or_keeps consistent with
    ⟨index, session, rfl, here, commits, written⟩ | kept
  · rw [written]
    exact commit_knows (calls _ (List.mem_of_getElem? here)).superseding knows
  · obtain ⟨stored, member, id, source⟩ := knows
    obtain ⟨later, laterMem, same⟩ := kept.attempts.later member
    exact ⟨later, laterMem, same.id.trans id, same.sourceNodeId.trans source⟩

theorem RoutedTables.moved (routed : RoutedTables state.tables) (consistent : Consistent state)
    (calls : ∀ call ∈ state.calls, call.Routed state.tables)
    (moved : Moved services validateTrustedOrigin state move after) :
    RoutedTables after.tables := by
  obtain ⟨flushedProjects, flushedAttempts⟩ :=
    moved.flushed ⟨routed.flushedProjects, routed.flushedAttempts⟩
  refine ⟨flushedProjects, flushedAttempts, ?_, ?_⟩
  · rw [moved.project_ids]
    exact routed.projects
  · rcases moved.commits_or_keeps consistent with
      ⟨index, session, rfl, here, commits, written⟩ | kept
    · rw [written]
      exact commit_leads consistent.attempts routed.attempts (calls _ (List.mem_of_getElem? here))
    · intro attempt member
      obtain ⟨earlier, earlierMem, same⟩ := kept.attempts.earlier member
      exact same.leads (routed.attempts earlier earlierMem)

theorem calls_routed (routed : RoutedTables state.tables) (consistent : Consistent state)
    (calls : ∀ call ∈ state.calls, call.Routed state.tables)
    (moved : Moved services validateTrustedOrigin state move after) :
    ∀ call ∈ after.calls, call.Routed after.tables := by
  intro call member
  have kept : ∀ attempt, state.tables.Knows attempt →
      after.tables.Knows attempt := fun _ => moved.knows consistent calls
  rcases moved.call_cases member with old | starts | ⟨earlier, old, follows⟩
  · exact (calls call old).mono kept
  · exact (starts.routed routed).mono kept
  · exact ((calls earlier old).next (consistent.calls earlier old) routed
      consistent.attempts follows).mono kept

end Moves

end Ithute
