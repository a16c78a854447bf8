import Ithute.HostingTransactionSteps
import Ithute.Library.HeldLocks

/-!
# Locks of the hosting transactions

What a transaction that holds a row knows about it, and that every move keeps
the keys unique and the locks exclusive.
-/

namespace Ithute

open HeldLocks TransitionRuns UniqueRows

section Projects

variable {tables after : HostingWorld} {session : HostingSession}

def SameProjects (projectId : ℕ) (before after : HostingWorld) : Prop :=
  ∀ id, id ≠ projectId → after.project? id = before.project? id

theorem project?_map (tables : HostingWorld) {write : HostingProject → HostingProject}
    (ids : ∀ row, (write row).id = row.id) (id : ℕ) :
    (tables.projects.map write).find? (fun row => row.id = id) =
      (tables.project? id).map write := by
  unfold HostingWorld.project?
  rw [List.find?_map]
  congr 2
  funext row
  simp [ids]

variable {projectId : ℕ}

theorem project?_write (write : HostingProject → HostingProject)
    (ids : ∀ row, (write row).id = row.id)
    (projects : after.projects = tables.projects.map fun row =>
      if row.id = projectId then write row else row) (id : ℕ) :
    after.project? id = (tables.project? id).map fun row =>
      if id = projectId then write row else row := by
  have kept (row : HostingProject) :
      (if row.id = projectId then write row else row).id = row.id := by
    split
    · exact ids row
    · rfl
  have found := project?_map tables kept id
  unfold HostingWorld.project? at found ⊢
  rw [projects, found]
  cases stored : tables.projects.find? fun row => decide (row.id = id) with
  | none => rfl
  | some row =>
    have rowId : row.id = id := by simpa using List.find?_some stored
    simp [rowId]

theorem sameProjects_write (write : HostingProject → HostingProject)
    (ids : ∀ row, (write row).id = row.id)
    (projects : after.projects = tables.projects.map fun row =>
      if row.id = projectId then write row else row) : SameProjects projectId tables after := by
  intro id other
  rw [project?_write write ids projects id]
  simp [other]

theorem SameProjects.refl (projectId : ℕ) (tables : HostingWorld) :
    SameProjects projectId tables tables := fun _ _ => rfl

theorem sameProjects_of_projects (projects : after.projects = tables.projects) :
    SameProjects projectId tables after := by
  intro id _
  unfold HostingWorld.project?
  rw [projects]

theorem sameProjects_save (project : HostingProject)
    (projects : after.projects = (tables.saveProject project).projects) :
    SameProjects project.id tables after := by
  intro id other
  have saved := HostingWorld.project?_saveProject tables project id
  unfold HostingWorld.project? at saved ⊢
  rw [projects, saved]
  cases found : tables.projects.find? fun row => decide (row.id = id) with
  | none => rfl
  | some row =>
    have rowId := (HostingWorld.project?_spec found).2
    simp [rowId, other]

theorem apply_id (edit : ProjectEdit) (stored : HostingProject) :
    (edit.apply stored).id = stored.id := rfl

theorem sameProjects_session : SameProjects session.projectId tables (session.write tables) := by
  cases written : session.project with
  | none =>
    apply sameProjects_of_projects
    simp [HostingSession.write, HostingSession.writeProjects, written, HostingWorld.flush]
  | some edit =>
    apply sameProjects_write edit.apply (apply_id edit)
    simp [HostingSession.write, HostingSession.writeProjects, written, HostingWorld.flush]

theorem project?_session (session : HostingSession) (tables : HostingWorld) (id : ℕ) :
    (session.write tables).project? id = (tables.project? id).map fun row =>
      match session.project with
      | some edit => if id = session.projectId then edit.apply row else row
      | none => row := by
  cases written : session.project with
  | none =>
    simp [HostingSession.write, HostingSession.writeProjects, written,
      HostingWorld.flush, HostingWorld.project?]
  | some edit =>
    apply project?_write edit.apply (apply_id edit)
    simp [HostingSession.write, HostingSession.writeProjects, written, HostingWorld.flush]

theorem project?_unwritten (unwritten : session.writesProject = false)
    (id : ℕ) : (session.write tables).project? id = tables.project? id := by
  rw [project?_session]
  cases written : session.project with
  | none => simp
  | some edit =>
    simp only [HostingSession.writesProject, written, Option.any_some,
      decide_eq_false_iff_not, not_or, not_not] at unwritten
    have same (row : HostingProject) : edit.apply row = row := by
      simp [ProjectEdit.apply, rewritten, unwritten]
    simp [same]

theorem sameProjects_setStatus (projectId : ℕ) (status : HostingProjectStatus) :
    SameProjects projectId tables (tables.setProjectStatus projectId status) :=
  sameProjects_write (fun row => { row with status := status }) (fun _ => rfl) rfl

theorem sameProjects_report {validateTrustedOrigin : String → OriginCheck}
    {deployment : HostingDeployment} {project : HostingProject} {payload : AgentStatusUpdate}
    (effect : HostingWorld.ReportEffect validateTrustedOrigin tables
      deployment project payload after) : SameProjects project.id tables after := by
  cases effect with
  | refused => exact .refl _ _
  | stopped => exact sameProjects_of_projects rfl
  | @progressed saved status => exact sameProjects_save { project with status := status } rfl
  | @rejected saved status => exact sameProjects_save { project with status := status } rfl
  | @promoted saved =>
    exact sameProjects_save { project with
        imageRef := some saved.imageRef
        status := tables.promotedStatus deployment.id } rfl

theorem sameProjects_policy {policy : FailoverPolicy} {confirmed : Bool} {now : ℤ}
    (accepted : updateProjectFailoverPolicy tables projectId policy confirmed
      now = .ok after) : SameProjects projectId tables after := by
  unfold updateProjectFailoverPolicy at accepted
  split at accepted
  · cases accepted
  · rename_i project found
    obtain rfl := (HostingWorld.project?_spec found).2
    split at accepted
    · cases accepted
    · cases accepted
      split <;>
        exact sameProjects_save { project with failoverPolicy := policy } rfl

end Projects

/-- A session that holds its project has loaded it as it is, and not
suspended. -/
def HostingSession.Held (session : HostingSession) (tables : HostingWorld) : Prop :=
  session.locked = true → ∃ edit, session.project = some edit ∧
      tables.project? session.projectId = some edit.loaded ∧ edit.loaded.status ≠ .suspended

/-- A session that holds a deployment has loaded it as it is, and queued. -/
def HostingSession.Claims (session : HostingSession) (tables : HostingWorld) : Prop :=
  ∀ saved, session.claimed = some saved →
    ∃ stored ∈ tables.deployments, HostingWorld.SameRelease stored saved ∧ stored.status = .queued

structure HostingSession.Blank (session : HostingSession) : Prop where
  claimed : session.claimed = none
  deployment : session.deployment = none
  retirement : session.retirement = none

def HostingCall.Fits (tables : HostingWorld) : HostingCall → Prop
  | .deploying locked project _ _ => locked = true → tables.project? project.id = some project
  | .numbering locked project _ _ _ =>
    locked = true → tables.project? project.id = some project ∧ project.status ≠ .suspended
  | .relocating project _ _ _ => tables.project? project.id = some project
  | .waiting session _ _ _ _ | .placing session _ _ _ _
  | .finalizing session _ _ _ => session.Held tables ∧ session.Blank
  | .committing session => session.Held tables ∧ session.Claims tables
  | .visiting .. | .continuing .. | .retiring .. => True

section Knowledge

variable {services : HostingServices} {tables after : HostingWorld}
variable {session : HostingSession} {call following : HostingCall}

theorem Claims.of_none (none : session.claimed = none) : session.Claims tables := by
  intro saved claimed
  rw [none] at claimed
  cases claimed

theorem Held.of_unlocked (unlocked : session.locked = false) : session.Held tables := by
  intro locked
  rw [unlocked] at locked
  cases locked

theorem Held.setProject (held : session.Held tables)
    (project : HostingProject) : (session.setProject project).Held tables := by
  intro locked
  obtain ⟨edit, written, found, active⟩ := held locked
  refine ⟨{ edit with current := project }, ?_, found, active⟩
  simp [HostingSession.setProject, written]

theorem Held.leave (held : session.Held tables) (project : HostingProject)
    (attempt : AttemptEdit) (deployment : Option HostingDeployment)
    (retirement : Option RetireOperation) :
    (session.leave project attempt deployment retirement).Held tables :=
  Held.setProject held project

theorem blank_opened (project : HostingProject) (locked : Bool) :
    (HostingSession.opened project locked).Blank := ⟨rfl, rfl, rfl⟩

variable {project : HostingProject}

theorem checkDeployment_ok {nodeId : ℕ} (checked : tables.checkDeployment project = .ok nodeId) :
    project.nodeId = some nodeId ∧ project.status ≠ .suspended ∧
      tables.activeDeployment project.id = none := by
  unfold HostingWorld.checkDeployment at checked
  split at checked
  · cases checked
  · rename_i placed
    split_ifs at checked with suspended busy agent
    cases checked
    exact ⟨placed, suspended, by simpa using busy⟩

theorem openRelocation_ok {reason : String} {now : ℤ}
    {superseded : Option (HostingFailoverAttempt × HostingFailoverAttempt)}
    {attempt : HostingFailoverAttempt} (opened : openRelocation tables project reason now =
      .ok (superseded, attempt)) :
    project.status ≠ .suspended ∧ attempt.projectId = project.id ∧ attempt.targetNodeId = none ∧
        (∀ edit, superseded = some edit → ∃ existing, existing ∈ tables.attempts ∧
            edit = (existing, supersededAttempt existing now)) := by
  unfold openRelocation at opened
  split at opened
  · cases opened
  · rename_i nodeId _
    split_ifs at opened with manual suspended
    split at opened
    · cases opened
    · split_ifs at opened with database healthy
      cases opened
      refine ⟨suspended, rfl, rfl, ?_⟩
      intro edit written
      obtain ⟨existing, found, rfl⟩ := Option.map_eq_some_iff.mp written
      exact ⟨existing, attempt_mem found, rfl⟩

theorem forAttempt_fits {attempt : AttemptEdit}
    {now : ℤ} (held : session.Held tables) (blank : session.Blank) :
    (HostingCall.forAttempt session project attempt now).Fits tables := by
  unfold HostingCall.forAttempt
  split
  · exact ⟨held, blank⟩
  · exact ⟨held, blank⟩
  · exact ⟨held, blank⟩
  · exact ⟨held, Claims.of_none blank.claimed⟩

theorem HostingCall.Fits.next (fits : call.Fits tables)
    (follows : Follows services tables call following) : following.Fits tables := by
  cases follows with
  | checked checked => exact fun holds => ⟨fits holds, (checkDeployment_ok checked).2.1⟩
  | numbered => exact ⟨fun holds => ⟨_, rfl, fits holds⟩, Claims.of_none rfl⟩
  | opened opened =>
    exact ⟨fun _ => ⟨_, rfl, fits, (openRelocation_ok opened).1⟩, ⟨rfl, rfl, rfl⟩⟩
  | revisited | prepared => exact forAttempt_fits (Held.of_unlocked rfl) (blank_opened _ _)
  | heldBack => exact ⟨fits.1, Claims.of_none fits.2.claimed⟩
  | idle => exact fits
  | replaced | postponed | settled | completed =>
    exact ⟨Held.leave fits.1 _ _ _ _, Claims.of_none fits.2.claimed⟩
  | orphaned | arrived => exact ⟨Held.of_unlocked rfl, Claims.of_none rfl⟩
  | continued => exact ⟨Held.of_unlocked rfl, blank_opened _ _⟩

theorem forAttempt_locks (session : HostingSession)
    (project : HostingProject) (attempt : AttemptEdit) (now : ℤ) :
    (HostingCall.forAttempt session project attempt now).lockedProject =
      if session.locked then some session.projectId else none := by
  unfold HostingCall.forAttempt
  split <;> rfl

theorem Follows.lockedProject (follows : Follows services tables call following) :
    following.lockedProject = call.lockedProject := by
  cases follows with
  | revisited | prepared => exact forAttempt_locks _ _ _ _
  | checked | numbered | opened | heldBack | idle | replaced | postponed
  | orphaned | arrived | continued | settled | completed => rfl

theorem Follows.lockedDeployment (follows : Follows services tables call following)
    (fits : call.Fits tables) : following.lockedDeployment = call.lockedDeployment := by
  have unclaimed {session : HostingSession} (none : session.claimed = none) :
      session.claimed.map HostingDeployment.id = Option.none := by
    rw [none]
    rfl
  cases follows with
  | revisited | prepared =>
    unfold HostingCall.forAttempt
    split <;> rfl
  | heldBack | replaced | postponed | settled | completed => exact unclaimed fits.2.claimed
  | checked | numbered | opened | idle | orphaned | arrived | continued => rfl

theorem Held.mono (held : session.Held tables) (kept : session.locked = true →
      after.project? session.projectId = tables.project? session.projectId) :
    session.Held after := by
  intro locked
  obtain ⟨edit, written, found, active⟩ := held locked
  exact ⟨edit, written, (kept locked).trans found, active⟩

theorem HostingCall.Fits.mono (fits : call.Fits tables)
    (project : ∀ id, call.lockedProject = some id → after.project? id = tables.project? id)
    (deployment : ∀ id, call.lockedDeployment = some id →
      ∀ row ∈ tables.deployments, row.id = id → row ∈ after.deployments) : call.Fits after := by
  have held {session : HostingSession} (known : session.Held tables) (locks : call.lockedProject =
        if session.locked then some session.projectId else none) : session.Held after := by
    apply Held.mono known
    intro locked
    exact project _ (by rw [locks, if_pos locked])
  cases call with
  | deploying locked row request now =>
    intro holds
    rw [project row.id (by simp [HostingCall.lockedProject, holds])]
    exact fits holds
  | numbering locked row nodeId release now =>
    intro holds
    rw [project row.id (by simp [HostingCall.lockedProject, holds])]
    exact fits holds
  | relocating row preferred reason now => exact (project row.id rfl).trans fits
  | waiting | placing | finalizing => exact ⟨held fits.1 rfl, fits.2⟩
  | committing session =>
    refine ⟨held fits.1 rfl, ?_⟩
    intro saved claimed
    obtain ⟨stored, member, same, queued⟩ := fits.2 saved claimed
    exact ⟨stored, deployment saved.id
      (by simp [HostingCall.lockedDeployment, claimed]) stored member same.id.symm, same, queued⟩
  | visiting | continuing | retiring => exact True.intro

end Knowledge

/-- Keys are unique, locks are exclusive, and every transaction knows the rows
that it holds. -/
structure Consistent (state : HostingState) : Prop where
  deployments : (state.tables.deployments.map HostingDeployment.id).Nodup
  attempts : (state.tables.attempts.map HostingFailoverAttempt.id).Nodup
  projectLocks : Exclusive HostingCall.lockedProject state.calls
  deploymentLocks : Exclusive HostingCall.lockedDeployment state.calls
  calls : ∀ call ∈ state.calls, call.Fits state.tables

section Writes

variable {tables after : HostingWorld} {session : HostingSession}
variable {validateTrustedOrigin : String → OriginCheck}
variable {deployment : HostingDeployment} {project : HostingProject} {payload : AgentStatusUpdate}

theorem report_deployments (effect : HostingWorld.ReportEffect validateTrustedOrigin tables
      deployment project payload after) :
    after.deployments = tables.deployments ∨ ∃ saved, HostingWorld.SameRelease deployment saved ∧
        (saved.status.active = true → deployment.status.active = true) ∧
        after.deployments = (tables.saveDeployment saved).deployments := by
  have inactive {saved : HostingDeployment} (closed : saved.status.active = false) :
      saved.status.active = true → deployment.status.active = true := by
    intro active
    rw [closed] at active
    cases active
  cases effect with
  | refused => exact .inl rfl
  | stopped continues healthy =>
    refine .inr ⟨_, continues.toSameRelease, fun active => ?_, rfl⟩
    by_contra settled
    rw [continues.outcome (by simpa using settled)] at active
    exact settled active
  | progressed here inProgress continues unhealthy =>
    exact .inr ⟨_, continues.toSameRelease, fun _ => inProgress, rfl⟩
  | rejected detail here status again check same failed =>
    exact .inr ⟨_, same, inactive (by rw [failed]; rfl), rfl⟩
  | promoted here status continues healthy trusted current =>
    exact .inr ⟨_, continues.toSameRelease, inactive (by rw [healthy]; rfl), rfl⟩

theorem report_attempts (effect : HostingWorld.ReportEffect validateTrustedOrigin tables
      deployment project payload after) :
    after.attempts = tables.attempts ∧ after.retirements = tables.retirements := by
  cases effect <;> exact ⟨rfl, rfl⟩

theorem saveDeployment_ids (saved : HostingDeployment) :
    (tables.saveDeployment saved).deployments.map HostingDeployment.id =
      tables.deployments.map HostingDeployment.id :=
  map_key_replace saved

theorem policy_attempts {projectId : ℕ} {policy : FailoverPolicy} {confirmed : Bool} {now : ℤ}
    (accepted : updateProjectFailoverPolicy tables projectId policy confirmed now = .ok after) :
    (∃ write, after.attempts = tables.attempts.map write ∧ ∀ row, AttemptKept row (write row)) ∧
      after.retirements = tables.retirements := by
  unfold updateProjectFailoverPolicy at accepted
  split at accepted
  · cases accepted
  · split at accepted
    · cases accepted
    · dsimp only at accepted
      split at accepted <;> cases accepted
      · refine ⟨⟨_, rfl, fun row => ?_⟩, rfl⟩
        split
        · exact ⟨⟨rfl, rfl, rfl, rfl⟩, fun active => by cases active⟩
        · exact .refl row
      · exact ⟨⟨fun row => row, by simp [HostingWorld.saveProject, HostingWorld.flush], .refl⟩, rfl⟩

theorem writeDeployments_ids (unique : (tables.deployments.map HostingDeployment.id).Nodup)
    (fresh : session.duplicates tables = false) :
    ((session.writeDeployments tables).map HostingDeployment.id).Nodup := by
  have claimed : (session.settleClaim tables).map HostingDeployment.id =
      tables.deployments.map HostingDeployment.id := by
    unfold HostingSession.settleClaim
    split
    · rfl
    · exact map_key_replace _
  unfold HostingSession.writeDeployments
  rw [List.map_append, claimed]
  cases added : session.deployment with
  | none => simpa using unique
  | some deployment =>
    apply pairwise_insert unique
    intro id member same
    obtain ⟨row, rowMem, rfl⟩ := List.mem_map.mp member
    have taken : session.duplicates tables = true := by
      simp only [HostingSession.duplicates, added, Option.any_some,
        Bool.or_eq_true, List.any_eq_true, decide_eq_true_eq]
      exact .inl (.inl ⟨row, rowMem, .inl same⟩)
    rw [fresh] at taken
    cases taken

theorem attemptWrite_ids {edit : Option AttemptEdit} {attempts : List HostingFailoverAttempt}
    (unique : (attempts.map HostingFailoverAttempt.id).Nodup)
    (fresh : ∀ row, edit = some (.created row) → ∀ stored ∈ attempts, stored.id ≠ row.id) :
    ((AttemptEdit.write attempts edit).map HostingFailoverAttempt.id).Nodup := by
  match edit with
  | none => exact unique
  | some (.created row) =>
    simp only [AttemptEdit.write, List.map_append, List.map_singleton]
    apply pairwise_insert unique
    intro id member
    obtain ⟨stored, storedMem, rfl⟩ := List.mem_map.mp member
    exact fresh row rfl stored storedMem
  | some (.loaded before row) =>
    have ids : (AttemptEdit.write attempts (some (.loaded before row))).map
        HostingFailoverAttempt.id = attempts.map HostingFailoverAttempt.id := by
      simp only [AttemptEdit.write, List.map_map]
      apply List.map_congr_left
      intro stored _
      dsimp only [Function.comp]
      split <;> rfl
    rw [ids]
    exact unique

theorem supersede_ids : (session.supersede tables).map HostingFailoverAttempt.id =
      tables.attempts.map HostingFailoverAttempt.id := by
  unfold HostingSession.supersede
  cases session.superseded with
  | none => rfl
  | some edit =>
    simp only [Option.map_some, AttemptEdit.write, List.map_map]
    apply List.map_congr_left
    intro stored _
    dsimp only [Function.comp]
    split <;> rfl

theorem created_fresh (fresh : session.duplicates tables = false) {row : HostingFailoverAttempt}
    (created : session.attempt = some (.created row)) :
    ∀ stored ∈ session.supersede tables, stored.id ≠ row.id := by
  intro stored member same
  have taken : stored.id ∈ tables.attempts.map HostingFailoverAttempt.id := by
    rw [← supersede_ids]
    exact List.mem_map_of_mem member
  obtain ⟨old, oldMem, sameId⟩ := List.mem_map.mp taken
  have duplicate : session.duplicates tables = true := by
    simp only [HostingSession.duplicates, created, Option.any_some,
      Bool.or_eq_true, List.any_eq_true, decide_eq_true_eq]
    exact .inl (.inr ⟨old, oldMem, sameId.trans same⟩)
  rw [fresh] at duplicate
  cases duplicate

theorem writeAttempts_ids (unique : (tables.attempts.map HostingFailoverAttempt.id).Nodup)
    (fresh : session.duplicates tables = false) :
    ((session.writeAttempts tables).map HostingFailoverAttempt.id).Nodup :=
  attemptWrite_ids (by rw [supersede_ids]; exact unique)
    fun _ created => created_fresh fresh created

theorem mem_saveDeployment {saved row : HostingDeployment}
    (member : row ∈ tables.deployments) (other : row.id ≠ saved.id) :
    row ∈ (tables.saveDeployment saved).deployments :=
  List.mem_map.mpr ⟨row, member, if_neg other⟩

theorem mem_writeDeployments {row : HostingDeployment} (member : row ∈ tables.deployments)
    (other : ∀ claimed, session.claimed = some claimed →
      row.id ≠ claimed.id) : row ∈ session.writeDeployments tables := by
  apply List.mem_append_left
  unfold HostingSession.settleClaim
  split
  · exact member
  · rename_i claimed held
    exact mem_saveDeployment member (other claimed held)

end Writes

section Consistency

variable {services : HostingServices} {validateTrustedOrigin : String → OriginCheck}
variable {state after : HostingState} {call : HostingCall}

theorem claimSession_claims {deployment : HostingDeployment}
    (environment : Except String (List (String × String)))
    (member : deployment ∈ state.tables.deployments) (queued : deployment.status = .queued) :
    (state.claimSession deployment environment).Claims state.tables := by
  intro saved claimed
  refine ⟨deployment, member, ?_, queued⟩
  unfold HostingState.claimSession at claimed
  split at claimed
  · cases claimed
    exact ⟨rfl, rfl, rfl, rfl, rfl⟩
  · dsimp only at claimed
    split_ifs at claimed
    · cases claimed
      exact ⟨rfl, rfl, rfl, rfl, rfl⟩
    · split at claimed <;> · cases claimed; exact ⟨rfl, rfl, rfl, rfl, rfl⟩

theorem claimSession_locks (deployment : HostingDeployment)
    (environment : Except String (List (String × String))) :
    (state.claimSession deployment environment).locked = false ∧
      (state.claimSession deployment environment).claimed.map
        HostingDeployment.id = some deployment.id := by
  unfold HostingState.claimSession
  split
  · exact ⟨rfl, rfl⟩
  · dsimp only
    split_ifs
    · exact ⟨rfl, rfl⟩
    · split <;> exact ⟨rfl, rfl⟩

theorem Starts.fits (starts : Starts state call) : call.Fits state.tables := by
  cases starts with
  | deploying found free => exact fun _ => found
  | relocating found free => exact found
  | visiting | continuing | retiring => exact True.intro
  | resolving => exact ⟨Held.of_unlocked rfl, Claims.of_none rfl⟩
  | @claiming deployment environment member queued free =>
    exact ⟨Held.of_unlocked (claimSession_locks deployment environment).1,
      claimSession_claims environment member queued⟩

theorem Starts.lockedProject (starts : Starts state call) :
    call.lockedProject = none ∨ ∃ id, call.lockedProject = some id ∧
      id ∉ state.calls.filterMap HostingCall.lockedProject := by
  cases starts with
  | @deploying locked project request now found free =>
    cases locked with
    | false => exact .inl rfl
    | true => exact .inr ⟨project.id, rfl, by simpa [HostingState.projectFree] using free rfl⟩
  | @relocating project preferred reason now found free =>
    exact .inr ⟨project.id, rfl, by simpa [HostingState.projectFree] using free⟩
  | visiting | continuing | resolving | retiring => exact .inl rfl
  | @claiming deployment environment member queued free =>
    left
    simp only [HostingCall.lockedProject, (claimSession_locks deployment environment).1]
    rfl

theorem Starts.lockedDeployment (starts : Starts state call) :
    call.lockedDeployment = none ∨ ∃ id, call.lockedDeployment = some id ∧
      id ∉ state.calls.filterMap HostingCall.lockedDeployment := by
  cases starts with
  | deploying | relocating | visiting | continuing | resolving | retiring => exact .inl rfl
  | @claiming deployment environment member queued free =>
    exact .inr ⟨deployment.id, (claimSession_locks deployment environment).2, by
        simpa [HostingState.deploymentFree] using free⟩

theorem exclusive_start {held : HostingCall → Option ℕ} (exclusive : Exclusive held state.calls)
    (free : held call = none ∨ ∃ id, held call = some id ∧ id ∉ state.calls.filterMap held) :
    Exclusive held (state.calls ++ [call]) := by
  rcases free with none | ⟨id, takes, free⟩
  · exact exclusive.join none
  · exact exclusive.acquire takes free

theorem Consistent.tables (consistent : Consistent state) {tables : HostingWorld}
    (deployments : (tables.deployments.map HostingDeployment.id).Nodup)
    (attempts : (tables.attempts.map HostingFailoverAttempt.id).Nodup)
    (projects : ∀ id, id ∈ state.calls.filterMap HostingCall.lockedProject →
      tables.project? id = state.tables.project? id)
    (rows : ∀ id, id ∈ state.calls.filterMap HostingCall.lockedDeployment →
      ∀ row ∈ state.tables.deployments, row.id = id → row ∈ tables.deployments) :
    Consistent { state with tables := tables } where
  deployments := deployments
  attempts := attempts
  projectLocks := consistent.projectLocks
  deploymentLocks := consistent.deploymentLocks
  calls := by
    intro call member
    apply (consistent.calls call member).mono
    · exact fun id locked => projects id (List.mem_filterMap.mpr ⟨call, member, locked⟩)
    · exact fun id locked => rows id (List.mem_filterMap.mpr ⟨call, member, locked⟩)

theorem Consistent.ended (consistent : Consistent state) (index : ℕ) :
    Consistent (state.replaceCall index none) where
  deployments := consistent.deployments
  attempts := consistent.attempts
  projectLocks := by simpa [HostingState.replaceCall] using consistent.projectLocks.eraseIdx
  deploymentLocks := by
    simpa [HostingState.replaceCall] using consistent.deploymentLocks.eraseIdx
  calls := by
    intro call member
    simp only [HostingState.replaceCall, Option.toList_none, List.append_nil] at member
    exact consistent.calls call (List.mem_of_mem_eraseIdx member)

theorem Consistent.write (consistent : Consistent state) {tables : HostingWorld} {projectId : ℕ}
    (free : state.projectFree projectId = true)
    (projects : SameProjects projectId state.tables tables)
    (deployments : (tables.deployments.map HostingDeployment.id).Nodup)
    (attempts : (tables.attempts.map HostingFailoverAttempt.id).Nodup)
    (rows : ∀ id, id ∈ state.calls.filterMap HostingCall.lockedDeployment →
      ∀ row ∈ state.tables.deployments, row.id = id → row ∈ tables.deployments) :
    Consistent { state with tables := tables } := by
  refine consistent.tables deployments attempts ?_ rows
  intro id locked
  apply projects
  rintro rfl
  simp only [HostingState.projectFree, decide_eq_true_eq] at free
  exact free locked

theorem Consistent.committed (consistent : Consistent state) {index : ℕ} {session : HostingSession}
    (here : state.calls[index]? = some (.committing session))
    (free : session.writesProject = true → session.locked = true ∨
      state.projectFree session.projectId = true)
    (fresh : session.duplicates state.tables = false) :
    Consistent { state.replaceCall index none with
      tables := session.write state.tables } := by
  have remaining : (state.replaceCall index none).calls = state.calls.eraseIdx index := by
    simp [HostingState.replaceCall]
  apply (consistent.ended index).tables
  · exact writeDeployments_ids consistent.deployments fresh
  · exact writeAttempts_ids consistent.attempts fresh
  · intro id locked
    rw [remaining] at locked
    by_cases same : id = session.projectId
    · have unlocked : session.locked = false := by
        by_contra held
        have apart := consistent.projectLocks.apart here
          (show HostingCall.lockedProject (.committing session) =
            some session.projectId by simp_all [HostingCall.lockedProject])
        exact apart (same ▸ locked)
      have unwritten : session.writesProject = false := by
        by_contra writes
        have taken := (List.eraseIdx_sublist _ _).filterMap
          HostingCall.lockedProject |>.subset locked
        rcases free (by simpa using writes) with held | projectFree
        · rw [unlocked] at held
          cases held
        · rw [same] at taken
          simp only [HostingState.projectFree, decide_eq_true_eq] at projectFree
          exact projectFree taken
      exact project?_unwritten unwritten id
    · exact sameProjects_session id same
  · intro id locked row member rowId
    rw [remaining] at locked
    apply mem_writeDeployments member
    intro claimed held same
    have apart := consistent.deploymentLocks.apart here
      (show HostingCall.lockedDeployment (.committing session) =
        some claimed.id by simp [HostingCall.lockedDeployment, held])
    rw [← same, rowId] at apart
    exact apart locked

theorem Consistent.moved {move : HostingMove} (consistent : Consistent state)
    (moved : Moved services validateTrustedOrigin state move after) : Consistent after := by
  have unchanged {tables : HostingWorld}
      (deployments : tables.deployments = state.tables.deployments)
      (attempts : tables.attempts = state.tables.attempts)
      (projects : tables.projects = state.tables.projects) :
      Consistent { state with tables := tables } := by
    apply consistent.tables
    · rw [deployments]
      exact consistent.deployments
    · rw [attempts]
      exact consistent.attempts
    · intro id _
      unfold HostingWorld.project?
      rw [projects]
    · rw [deployments]
      exact fun _ _ row member _ => member
  cases moved with
  | unchanged => exact consistent
  | started starts =>
    exact { consistent with
        projectLocks := exclusive_start consistent.projectLocks starts.lockedProject
        deploymentLocks := exclusive_start consistent.deploymentLocks starts.lockedDeployment
        calls := by
          intro call member
          rcases List.mem_append.mp member with old | new
          · exact consistent.calls call old
          · rw [List.mem_singleton.mp new]
            exact starts.fits }
  | stepped here follows =>
    have fits := consistent.calls _ (List.mem_of_getElem? here)
    have later : Consistent (state.replaceCall _ (some _)) :=
      { consistent with
        projectLocks := consistent.projectLocks.keep here follows.lockedProject
        deploymentLocks := consistent.deploymentLocks.keep here (follows.lockedDeployment fits)
        calls := by
          intro call member
          rcases List.mem_append.mp member with old | new
          · exact consistent.calls call (List.mem_of_mem_eraseIdx old)
          · rw [List.mem_singleton.mp new]
            exact fits.next follows }
    exact later.tables later.deployments later.attempts (fun _ _ => rfl)
      fun _ _ row member _ => member
  | ended => exact consistent.ended _
  | committed here free fresh => exact { consistent.committed here free fresh with }
  | admitted => exact { consistent.ended _ with }
  | refused => exact { consistent.ended _ with }
  | retired => exact { unchanged rfl rfl rfl with }
  | reported found deploymentFree projectFree effect =>
    have attempts := report_attempts effect
    apply consistent.write projectFree (sameProjects_report effect)
    · rcases report_deployments effect with same | ⟨saved, same, -, written⟩
      · rw [same]
        exact consistent.deployments
      · rw [written, saveDeployment_ids]
        exact consistent.deployments
    · rw [attempts.1]
      exact consistent.attempts
    · intro id locked row member rowId
      rcases report_deployments effect with same | ⟨saved, same, -, written⟩
      · rw [same]
        exact member
      · rw [written]
        apply mem_saveDeployment member
        rw [same.id, rowId]
        rintro rfl
        simp only [HostingState.deploymentFree, decide_eq_true_eq] at deploymentFree
        exact deploymentFree locked
  | suspended free | resumed free =>
    exact consistent.write free (sameProjects_setStatus _ _)
      consistent.deployments consistent.attempts fun _ _ row member _ => member
  | policySet free accepted =>
    have deployments := updateProjectFailoverPolicy_deployments accepted
    obtain ⟨⟨write, attempts, kept⟩, -⟩ := policy_attempts accepted
    apply consistent.write free (sameProjects_policy accepted)
    · rw [deployments]
      exact consistent.deployments
    · have ids : (state.tables.attempts.map write).map HostingFailoverAttempt.id =
            state.tables.attempts.map HostingFailoverAttempt.id := by
        rw [List.map_map]
        exact List.map_congr_left fun row _ => (kept row).id
      rw [attempts, ids]
      exact consistent.attempts
    · rw [deployments]
      exact fun _ _ row member _ => member
  | nodeSet | databaseAttached | databaseSet => exact unchanged rfl rfl rfl

end Consistency

namespace HostingState

@[mk_iff]
structure Commits (state : HostingState) (session : HostingSession) : Prop where
  free : session.writesProject = true → session.locked = true ∨
    state.projectFree session.projectId = true
  fresh : session.duplicates state.tables = false

section Runs

variable (services : HostingServices) (validateTrustedOrigin : String → OriginCheck)
variable (failoverAfterSeconds : ℤ)

def Performs (before : HostingState) (move : HostingMove) (after : HostingState) : Prop :=
  after = before.perform services validateTrustedOrigin failoverAfterSeconds move

end Runs

theorem consistent_start {start : HostingState}
    (deployments : (start.tables.deployments.map HostingDeployment.id).Nodup)
    (attempts : (start.tables.attempts.map HostingFailoverAttempt.id).Nodup)
    (none : start.calls = []) : Consistent start where
  deployments := deployments
  attempts := attempts
  projectLocks := by
    rw [none]
    exact HeldLocks.Exclusive.nil
  deploymentLocks := by
    rw [none]
    exact HeldLocks.Exclusive.nil
  calls := by
    rw [none]
    exact fun call member => absurd member List.not_mem_nil

/-- Whatever transactions overlap, no two hold the same row, and what one has
loaded of a row that it holds is what is stored. -/
theorem run_rowsHeld (services : HostingServices) (validateTrustedOrigin : String → OriginCheck)
    (failoverAfterSeconds : ℤ) (tables : HostingWorld) (moves : List HostingMove) :
    EveryStep (Performs services validateTrustedOrigin failoverAfterSeconds)
      (fun _ _ after => Consistent after)
      { tables := { tables with deployments := [], attempts := [] } } moves := by
  intro front move back before after split run step
  refine (run.append (.single step)).invariant ?_ ?_
  · exact consistent_start .nil .nil rfl
  · rintro state move following consistent rfl
    exact consistent.moved (moved_perform failoverAfterSeconds move)

end HostingState

end Ithute
