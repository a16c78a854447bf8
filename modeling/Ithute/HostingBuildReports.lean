import Ithute.HostingBuildRecords

/-!
# Reports that settle builds

A builder that reports the end of its build has settled it when the build is
no longer active and its source no longer building.  A report of failure
always settles; a report of success settles exactly when the deployment of
the image is accepted, and is lost otherwise.
-/

namespace Ithute

open TransitionRuns UniqueRows

/-- The end of a build, with an image that is pinned by its digest. -/
def BuilderStatus.Terminal (payload : BuilderStatus) : Prop :=
  payload.status = .failed ∨ payload.status = .succeeded ∧
      ∃ image, validateBuildImage payload.imageRef payload.imageDigest = .ok image

namespace BuildWorld

section Steps

variable {world after : BuildWorld} {services : BuildServices}
variable {source : HostingSource} {project : HostingProject}

theorem mem_of_source? {id : ℕ} (found : world.source? id = some source) :
    source ∈ world.sources ∧ source.id = id := by
  refine ⟨List.mem_of_find?_eq_some found, ?_⟩
  simpa using List.find?_some found

theorem project?_id {id : ℕ} (found : world.hosting.project? id = some project) :
    world.hosting.project? project.id = some project := by
  have same : project.id = id := by simpa using List.find?_some found
  rw [same, found]

theorem project?_isSome {id : ℕ} (found : world.hosting.project? id = some project) :
    (world.hosting.project? project.id).isSome = true := by
  rw [project?_id found]
  rfl

namespace Linked

theorem orUnchanged (linked : world.Linked) {request : Except String BuildWorld}
    (accepted : ∀ after, request = .ok after → after.Linked) :
    (world.orUnchanged request).Linked := by
  cases asked : request with
  | error message => exact linked
  | ok after => exact accepted after asked

variable {now : ℤ}

theorem queueWebhookBuild (linked : world.Linked)
    {webhook : HostingSourceWebhook} {commit : Option String}
    (creator : webhook.createdByUserId ∈ world.users) (member : source ∈ world.sources)
    (exists' : (world.hosting.project? project.id).isSome = true) :
    (world.queueWebhookBuild webhook source project commit now).Linked := by
  unfold BuildWorld.queueWebhookBuild
  split
  · exact linked.saveWebhook creator
  · exact (linked.addBuild now exists' member creator).saveWebhook creator

theorem queuePendingWebhookRebuild (linked : world.Linked) (sourceId : ℕ)
    (now : ℤ) : (world.queuePendingWebhookRebuild sourceId now).Linked := by
  unfold BuildWorld.queuePendingWebhookRebuild
  split
  · exact linked
  · rename_i webhook found
    have creator := linked.creator webhook (List.mem_of_find?_eq_some found)
    split
    · rename_i source project sourceFound projectFound
      exact linked.queueWebhookBuild creator (mem_of_source? sourceFound).1
        (project?_isSome projectFound)
    · exact linked

theorem failBuild (linked : world.Linked) {row : HostingBuild}
    (member : row ∈ world.builds) (message : String) (now : ℤ) :
    (world.failBuild row message now).Linked :=
  linked.saveBuild member ⟨rfl, rfl, rfl, rfl, nofun⟩

theorem claimBuild (linked : world.Linked) {token : Option String}
    (claims : world.claimBuild services token now = .ok after) : after.Linked := by
  unfold BuildWorld.claimBuild at claims
  split at claims
  · cases claims
  · rename_i builder _
    have seen := linked.seeBuilder builder.id now
    dsimp only at claims
    split at claims
    · cases claims
      exact seen
    · rename_i row found
      have member := List.mem_of_find?_eq_some found
      split at claims
      · split_ifs at claims
        · cases claims
          exact seen.failBuild member _ now
        · split at claims
          · cases claims
            exact seen.failBuild member _ now
          · cases claims
            apply saveSource
            exact seen.saveBuild member ⟨rfl, rfl, rfl, rfl, nofun⟩
      · cases claims
        exact seen.failBuild member _ now

theorem reportBuildSucceeded (linked : world.Linked) {row : HostingBuild}
    {payload : BuilderStatus} (member : row ∈ world.builds)
    (reports : world.reportBuildSucceeded row source project payload now = .ok after) :
    after.Linked := by
  unfold BuildWorld.reportBuildSucceeded at reports
  split at reports
  · cases reports
  · split at reports
    · cases reports
    · split_ifs at reports
      split at reports
      · cases reports
      · rename_i hosting deploys
        cases reports
        have deployed := linked.setHosting (HostingWorld.keepsProjects_createDeployment deploys)
        apply queuePendingWebhookRebuild
        apply saveSource
        exact deployed.saveBuild member ⟨rfl, rfl, rfl, rfl, nofun⟩

theorem reportBuild (linked : world.Linked) {token : Option String}
    {buildId : ℕ} {payload : BuilderStatus}
    (reports : world.reportBuild services token buildId payload now = .ok after) :
    after.Linked := by
  unfold BuildWorld.reportBuild at reports
  split at reports
  · cases reports
  · rename_i builder _
    have seen := linked.seeBuilder builder.id now
    dsimp only at reports
    split at reports
    · cases reports
    · rename_i row found
      have member := List.mem_of_find?_eq_some found
      split at reports
      · split at reports
        · split_ifs at reports
          cases reports
          exact seen.saveBuild member ⟨rfl, rfl, rfl, rfl, nofun⟩
        · split_ifs at reports
          cases reports
          apply saveSource
          exact seen.saveBuild member ⟨rfl, rfl, rfl, rfl, nofun⟩
        · split_ifs at reports
          exact seen.reportBuildSucceeded member reports
      · cases reports

variable {projectId : ℕ}

theorem queueBuild (linked : world.Linked) {sourceId userId : ℕ}
    (queues : world.queueBuild projectId sourceId userId now = .ok after) : after.Linked := by
  unfold BuildWorld.queueBuild at queues
  split at queues
  · cases queues
  · rename_i project projectFound
    split at queues
    · cases queues
    · rename_i source sourceFound
      split_ifs at queues with _ _ requester
      cases queues
      exact linked.addBuild now (project?_isSome projectFound)
        (List.mem_of_find?_eq_some sourceFound) requester

theorem receivePush (linked : world.Linked) {webhookId : ℕ} {commit : Option String}
    (receives : world.receivePush webhookId commit now = .ok after) : after.Linked := by
  unfold BuildWorld.receivePush at receives
  split at receives
  · cases receives
  · rename_i webhook found
    have creator := linked.creator webhook (List.mem_of_find?_eq_some found)
    split at receives
    · rename_i source project sourceFound projectFound
      cases receives
      exact linked.queueWebhookBuild creator
        (mem_of_source? (Option.filter_eq_some_iff.mp sourceFound).1).1
        (project?_isSome projectFound)
    · cases receives

theorem configureSourceWebhook (linked : world.Linked) {sourceId userId : ℕ}
    (configures : world.configureSourceWebhook sourceId userId = .ok after) : after.Linked := by
  unfold BuildWorld.configureSourceWebhook at configures
  split at configures
  · cases configures
  · split_ifs at configures with user
    split at configures
    · cases configures
      exact linked.saveWebhook user
    · cases configures
      exact linked.addWebhook user

theorem disableSourceWebhook (linked : world.Linked) (sourceId : ℕ) :
    (world.disableSourceWebhook sourceId).Linked := by
  unfold BuildWorld.disableSourceWebhook
  split
  · exact linked
  · rename_i row found
    split_ifs
    · exact linked.saveWebhook (linked.creator row (List.mem_of_find?_eq_some found))
    · exact linked

theorem registerGitSource (linked : world.Linked) {credentialId : Option ℕ}
    (registers : world.registerGitSource projectId credentialId = .ok after) : after.Linked := by
  unfold BuildWorld.registerGitSource at registers
  split at registers
  · cases registers
  · split_ifs at registers
    cases registers
    exact linked.addSource rfl

theorem registerZipSource (linked : world.Linked)
    (registers : world.registerZipSource projectId = .ok after) : after.Linked := by
  unfold BuildWorld.registerZipSource at registers
  split at registers
  · cases registers
  · cases registers
    exact linked.addSource rfl

theorem perform (linked : world.Linked) (placement : HostingServices)
    (failoverAfterSeconds : ℤ) (action : BuildAction) :
    (world.perform placement failoverAfterSeconds services action).Linked := by
  cases action with
  | hosting action =>
    exact linked.setHosting (HostingWorld.keepsProjects_perform placement
      failoverAfterSeconds world.hosting action)
  | registerGitSource projectId credentialId =>
    exact linked.orUnchanged fun _ => linked.registerGitSource
  | registerZipSource projectId => exact linked.orUnchanged fun _ => linked.registerZipSource
  | uploadSource sourceId status =>
    apply linked.mapSources
    intro row
    split <;> rfl
  | deleteSource sourceId => exact linked.deleteSource sourceId
  | revokeCredential credentialId =>
    change (world.revokeCredential credentialId).Linked
    exact linked.of_tables rfl (Nat.le_refl _) rfl rfl rfl rfl
  | configureSourceWebhook sourceId userId =>
    exact linked.orUnchanged fun _ => linked.configureSourceWebhook
  | disableSourceWebhook sourceId => exact linked.disableSourceWebhook sourceId
  | rotateBuilderToken name tokenHash =>
    change (world.rotateBuilderToken name tokenHash).Linked
    unfold BuildWorld.rotateBuilderToken
    split
    · exact linked.of_tables rfl (Nat.le_refl _) rfl rfl rfl rfl
    · exact linked.of_tables rfl (Nat.le_succ _) rfl rfl rfl rfl
  | queueBuild projectId sourceId userId now => exact linked.orUnchanged fun _ => linked.queueBuild
  | receivePush webhookId commit now => exact linked.orUnchanged fun _ => linked.receivePush
  | claimBuild token now =>
    change (world.orUnchanged (world.claimBuild services token now)).Linked
    exact linked.orUnchanged fun _ => linked.claimBuild
  | reportBuild token buildId payload now =>
    change (world.orUnchanged (world.reportBuild services token buildId payload now)).Linked
    exact linked.orUnchanged fun _ => linked.reportBuild

end Linked

end Steps

section Runs

variable (placement : HostingServices) (failoverAfterSeconds : ℤ) (services : BuildServices)

def Performs (before : BuildWorld) (action : BuildAction) (after : BuildWorld) : Prop :=
  after = before.perform placement failoverAfterSeconds services action

def start (hosting : HostingWorld) (users : List ℕ)
    (credentials : List HostingSourceCredential) : BuildWorld where
  hosting := hosting
  users := users
  credentials := credentials

def Reachable (world : BuildWorld) : Prop :=
  ∃ hosting users credentials actions, Run (Performs placement failoverAfterSeconds services)
      (start hosting users credentials) actions world

theorem linked_start (hosting : HostingWorld) (users : List ℕ)
    (credentials : List HostingSourceCredential) : (start hosting users credentials).Linked where
  sources := Issued.nil
  builds := Issued.nil
  sourceOf := List.forall_mem_nil _
  projectOf := List.forall_mem_nil _
  requester := List.forall_mem_nil _
  waits := List.forall_mem_nil _
  creator := List.forall_mem_nil _

theorem Reachable.linked {world : BuildWorld}
    (reachable : Reachable placement failoverAfterSeconds services world) : world.Linked := by
  obtain ⟨hosting, users, credentials, actions, run⟩ := reachable
  apply run.invariant (linked_start hosting users credentials)
  rintro before action after linked rfl
  exact linked.perform placement failoverAfterSeconds action

end Runs

section Settled

variable (before after world : BuildWorld) (row : HostingBuild)

def CanQueue (projectId : ℕ) : Prop :=
  ∀ userId ∈ world.users, ∀ now, ∃ registered queued,
    world.registerGitSource projectId none = .ok registered ∧
      registered.queueBuild projectId world.nextId userId now = .ok queued

/-- The report has ended its build and left its source, and if no other build
of the project is active, another one is queued or can be. -/
structure Settles : Prop where
  build : ∀ build ∈ after.builds, build.id = row.id → build.status.active = false
  source : row.status.active = true → ∀ source ∈ after.sources,
    source.id = row.sourceId → source.status ≠ .building
  queues : (∀ other ∈ before.builds, other.projectId = row.projectId →
      other.status.active = true → other.id = row.id) →
    after.CanQueue row.projectId ∨ ∃ next ∈ after.builds, next.projectId = row.projectId ∧
        next.status = .queued

/-- The commit of the report is well formed, and the project can be
deployed. -/
structure Deployable (payload : BuilderStatus) : Prop where
  commit : ∃ commit, validateCommit payload.sourceCommit = .ok commit
  project : ∃ project nodeId, world.hosting.project? row.projectId = some project ∧
      project.nodeId = some nodeId ∧ project.status ≠ .suspended ∧
      world.hosting.activeDeployment project.id = none ∧
      (world.hosting.node? nodeId).any HostingNodeRow.hasAgent = true

end Settled

section Reports

variable {before after world : BuildWorld} {row build : HostingBuild}
variable {services : BuildServices} {payload : BuilderStatus} {now : ℤ}
variable {source : HostingSource} {project : HostingProject}

theorem createDeployment_ok_iff {hosting : HostingWorld}
    {imageRef imageDigest : String} {sourceCommit : Option String} {previous : Option ℕ} :
    (∃ deployed, createDeployment hosting project imageRef imageDigest
        sourceCommit previous now = .ok deployed) ↔
      ∃ nodeId, project.nodeId = some nodeId ∧ project.status ≠ .suspended ∧
        hosting.activeDeployment project.id = none ∧
        (hosting.node? nodeId).any HostingNodeRow.hasAgent = true := by
  unfold createDeployment
  cases project.nodeId with
  | none => simp
  | some nodeId =>
    dsimp only
    split_ifs with suspended active agent
    · simp [suspended]
    · rw [Option.isSome_iff_ne_none] at active
      simp [active]
    · rw [Option.not_isSome_iff_eq_none] at active
      simp [suspended, active, agent]
    · simp [agent]

theorem canQueue_of_idle (linked : world.Linked) {projectId : ℕ}
    (exists' : (world.hosting.project? projectId).isSome = true)
    (idle : world.hasActiveBuild projectId = false) : world.CanQueue projectId := by
  intro userId user now
  obtain ⟨project, found⟩ := Option.isSome_iff_exists.mp exists'
  have projectId_eq : project.id = projectId := by simpa using List.find?_some found
  subst projectId_eq
  let added : BuildWorld :=
    { world with
      nextId := world.nextId + 1
      sources := world.sources ++ [{ id := world.nextId, projectId := project.id }] }
  have registers : world.registerGitSource project.id none = .ok added := by
    unfold registerGitSource
    rw [found]
    rfl
  have absent : (world.sources.find? fun source =>
      decide (source.id = world.nextId) && decide (source.projectId = project.id)) = none := by
    rw [List.find?_eq_none]
    intro source member same
    have below := linked.sources.below source member
    simp only [Bool.and_eq_true, decide_eq_true_eq] at same
    omega
  refine ⟨added, added.addBuild project.id world.nextId userId now, registers, ?_⟩
  have sourceFound : (added.sources.find? fun source =>
      decide (source.id = world.nextId) && decide (source.projectId = project.id)) =
      some { id := world.nextId, projectId := project.id } := by
    rw [List.find?_append, absent]
    simp
  unfold queueBuild
  rw [show added.hosting.project? project.id = some project from found]
  dsimp only
  rw [sourceFound]
  dsimp only
  have idleNow : added.hasActiveBuild project.id = false := idle
  rw [if_neg (by simp), if_neg (by simpa using idleNow), if_neg (by simpa using user)]

theorem hasActiveBuild_eq_false {projectId : ℕ} : world.hasActiveBuild projectId = false ↔
      ∀ build ∈ world.builds, build.projectId = projectId → build.status.active = false := by
  simp [hasActiveBuild]

theorem queuePending_builds (world : BuildWorld) (sourceId : ℕ) (now : ℤ) :
    let after := world.queuePendingWebhookRebuild sourceId now
    after.sources = world.sources ∧ ∀ build ∈ after.builds, build ∈ world.builds ∨
        build.id = world.nextId ∧ build.status = .queued := by
  have unchanged : world.sources = world.sources ∧ ∀ build ∈ world.builds, build ∈ world.builds ∨
        build.id = world.nextId ∧ build.status = .queued :=
    ⟨rfl, fun _ member => .inl member⟩
  dsimp only
  unfold queuePendingWebhookRebuild
  split
  · exact unchanged
  · split
    · unfold queueWebhookBuild
      split
      · exact unchanged
      · refine ⟨rfl, List.forall_mem_append.mpr ⟨fun _ member => .inl member, ?_⟩⟩
        exact List.forall_mem_singleton.mpr (.inr ⟨rfl, rfl⟩)
    · exact unchanged

/-- A build that is written as ended, with a source that is not building. -/
structure Ends (before after : BuildWorld) (row : HostingBuild) : Prop where
  linked : after.Linked
  builds : ∀ build ∈ after.builds, build.id = row.id → build.status.active = false
  others : ∀ build ∈ after.builds, build.id ≠ row.id → build ∈ before.builds
  sources : ∀ source ∈ after.sources, source.id = row.sourceId → source.status ≠ .building
  project : (after.hosting.project? row.projectId).isSome = true
  row : row.id < after.nextId

theorem Ends.idle (ends : Ends before after row)
    (alone : ∀ other ∈ before.builds, other.projectId = row.projectId →
      other.status.active = true → other.id = row.id) :
    after.hasActiveBuild row.projectId = false := by
  rw [hasActiveBuild_eq_false]
  intro build member same
  by_cases own : build.id = row.id
  · exact ends.builds build member own
  · by_contra active
    exact own (alone build (ends.others build member own) same (by simpa using active))

theorem Ends.settles (ends : Ends before after row) : Settles before after row where
  build := ends.builds
  source := fun _ => ends.sources
  queues := fun alone => .inl (canQueue_of_idle ends.linked ends.project (ends.idle alone))

theorem Ends.settles_rebuild (ends : Ends before after row) (sourceId : ℕ) (now : ℤ) :
    Settles before (after.queuePendingWebhookRebuild sourceId now) row := by
  obtain ⟨sources, builds⟩ := queuePending_builds after sourceId now
  have linked := ends.linked.queuePendingWebhookRebuild sourceId now
  have exists' : ((after.queuePendingWebhookRebuild sourceId
      now).hosting.project? row.projectId).isSome = true := by
    have same : (after.queuePendingWebhookRebuild sourceId now).hosting = after.hosting := by
      unfold queuePendingWebhookRebuild queueWebhookBuild
      split
      · rfl
      · split
        · split <;> rfl
        · rfl
    rw [same]
    exact ends.project
  refine ⟨?_, ?_, ?_⟩
  · intro build member same
    rcases builds build member with old | ⟨new, -⟩
    · exact ends.builds build old same
    · have below := ends.row
      omega
  · rw [sources]
    exact fun _ => ends.sources
  · intro alone
    have idle := hasActiveBuild_eq_false.mp (ends.idle alone)
    by_cases busy : (after.queuePendingWebhookRebuild sourceId
        now).hasActiveBuild row.projectId = false
    · exact .inl (canQueue_of_idle linked exists' busy)
    · right
      rw [hasActiveBuild_eq_false] at busy
      push Not at busy
      obtain ⟨next, member, same, active⟩ := busy
      rcases builds next member with old | ⟨-, queued⟩
      · exact absurd (idle next old same) active
      · exact ⟨next, member, same, queued⟩

theorem ends_save (linked : world.Linked) (member : row ∈ world.builds)
    (same : SameBuild row build) (ended : build.status.active = false)
    (sourceId : source.id = row.sourceId) (left : source.status ≠ .building) :
    Ends world ((world.saveBuild build).saveSource source) row where
  linked := (linked.saveBuild member same).saveSource source
  builds := forall_replace (fun _ _ other own => absurd (own.trans same.id.symm) other)
    fun _ => ended
  others := forall_replace (fun _ otherMem _ _ => otherMem) fun other => absurd same.id other
  sources := forall_replace (fun _ _ other own => absurd (own.trans sourceId.symm) other)
    fun _ => left
  project := linked.projectOf row member
  row := linked.builds.below row member

theorem Ends.of_hosting {hosting : HostingWorld}
    (ends : Ends { world with hosting := hosting } after row) : Ends world after row :=
  ⟨ends.linked, ends.builds, ends.others, ends.sources, ends.project, ends.row⟩

theorem settles_failed (linked : world.Linked) (member : row ∈ world.builds)
    (found : world.source? row.sourceId = some source) (message : Option String) (now : ℤ) :
    Settles world (world.reportBuildFailed row source message now) row := by
  apply Ends.settles
  unfold reportBuildFailed
  exact ends_save linked member ⟨rfl, rfl, rfl, rfl, nofun⟩ rfl (mem_of_source? found).2 nofun

theorem settles_succeeded (linked : world.Linked) (member : row ∈ world.builds)
    (found : world.source? row.sourceId = some source)
    (reports : world.reportBuildSucceeded row source project payload now = .ok after) :
    Settles world after row := by
  unfold reportBuildSucceeded at reports
  split at reports
  · cases reports
  · split at reports
    · cases reports
    · split_ifs at reports
      split at reports
      · cases reports
      · rename_i hosting deploys
        cases reports
        have deployed := linked.setHosting (HostingWorld.keepsProjects_createDeployment deploys)
        apply Ends.settles_rebuild
        refine @Ends.of_hosting _ _ _ hosting ?_
        exact ends_save deployed member ⟨rfl, rfl, rfl, rfl, nofun⟩ rfl
          (mem_of_source? found).2 nofun

theorem reportBuildSucceeded_ok_iff (source : HostingSource) (now : ℤ) (linked : world.Linked)
    (member : row ∈ world.builds) (found : world.hosting.project? row.projectId = some project)
    (image : ∃ image, validateBuildImage payload.imageRef payload.imageDigest = .ok image) :
    (∃ after, world.reportBuildSucceeded row source project payload now =
        .ok after) ↔ Deployable world row payload := by
  obtain ⟨⟨imageRef, digest⟩, valid⟩ := image
  have requester := linked.requester row member
  unfold reportBuildSucceeded
  rw [valid]
  dsimp only
  constructor
  · rintro ⟨after, accepted⟩
    split at accepted
    · cases accepted
    · rename_i commit commitOk
      rw [if_neg (by simpa using requester)] at accepted
      split at accepted
      · cases accepted
      · rename_i hosting deploys
        obtain ⟨nodeId, node, status, idle, agent⟩ := createDeployment_ok_iff.mp ⟨hosting, deploys⟩
        exact ⟨⟨commit, commitOk⟩, ⟨project, nodeId, found, node, status, idle, agent⟩⟩
  · rintro ⟨⟨commit, commitOk⟩, ⟨other, nodeId, otherFound, node, status, idle, agent⟩⟩
    rw [found] at otherFound
    cases otherFound
    rw [commitOk]
    dsimp only
    rw [if_neg (by simpa using requester)]
    obtain ⟨hosting, deploys⟩ := createDeployment_ok_iff.mpr ⟨nodeId, node, status, idle, agent⟩
    rw [deploys]
    exact ⟨_, rfl⟩

theorem reportBuild_eq (services : BuildServices) (payload : BuilderStatus)
    (now : ℤ) (linked : world.Linked) {token : Option String} {builder : HostingBuilderAgent}
    (authenticated : world.builderFromToken services token = .ok builder)
    (member : row ∈ world.builds) (claimed : row.builderAgentId = some builder.id) :
    ∃ source project, (world.seeBuilder builder.id now).source? row.sourceId = some source ∧
      world.hosting.project? row.projectId = some project ∧ (payload.status = .failed →
        world.reportBuild services token row.id payload now = if row.status.underway then
            .ok ((world.seeBuilder builder.id now).reportBuildFailed row source payload.message now)
          else .error "Build cannot fail from its current state") ∧
      (payload.status = .succeeded → world.reportBuild services token row.id payload now =
          if row.status.underway then
            (world.seeBuilder builder.id now).reportBuildSucceeded row source project payload now
          else .error "Build cannot succeed from its current state") := by
  obtain ⟨stored, storedMem, same⟩ := linked.sourceOf row member
  have sourceFound : (world.seeBuilder builder.id now).source? row.sourceId = some stored := by
    unfold source?
    rw [← same]
    exact find?_key linked.sources.unique storedMem
  obtain ⟨project, projectFound⟩ := Option.isSome_iff_exists.mp (linked.projectOf row member)
  have rowFound : ((world.seeBuilder builder.id now).builds.find? fun other =>
      decide (other.id = row.id) &&
        decide (other.builderAgentId = some builder.id)) = some row := by
    cases found : (world.seeBuilder builder.id now).builds.find? fun other =>
        decide (other.id = row.id) && decide (other.builderAgentId = some builder.id) with
    | none =>
      have missing := List.find?_eq_none.mp found row member
      simp [claimed] at missing
    | some other =>
      have matched := List.find?_some found
      simp only [Bool.and_eq_true, decide_eq_true_eq] at matched
      rw [linked.builds.eq_of_key (List.mem_of_find?_eq_some found) member matched.1]
  refine ⟨stored, project, sourceFound, projectFound, ?_, ?_⟩
  · intro failed
    unfold reportBuild
    rw [authenticated]
    dsimp only
    rw [rowFound]
    dsimp only
    rw [sourceFound, show (world.seeBuilder builder.id now).hosting.project?
      row.projectId = some project from projectFound]
    dsimp only
    rw [failed]
  · intro succeeded
    unfold reportBuild
    rw [authenticated]
    dsimp only
    rw [rowFound]
    dsimp only
    rw [sourceFound, show (world.seeBuilder builder.id now).hosting.project?
      row.projectId = some project from projectFound]
    dsimp only
    rw [succeeded]

theorem report_refused (placement : HostingServices)
    (failoverAfterSeconds : ℤ) (now : ℤ) (linked : world.Linked)
    {token : Option String} {builder : HostingBuilderAgent}
    (authenticated : world.builderFromToken services token = .ok builder)
    (member : row ∈ world.builds) (claimed : row.builderAgentId = some builder.id)
    (succeeded : payload.status = .succeeded) (image : ∃ image, validateBuildImage payload.imageRef
      payload.imageDigest = .ok image) (refused : ¬ Deployable world row payload) :
    world.perform placement failoverAfterSeconds services
        (.reportBuild token row.id payload now) = world := by
  change world.orUnchanged (world.reportBuild services token row.id payload now) = world
  obtain ⟨source, project, -, projectFound, -, succeeding⟩ :=
    reportBuild_eq services payload now linked authenticated member claimed
  rw [succeeding succeeded]
  split_ifs
  · cases reports : (world.seeBuilder builder.id now).reportBuildSucceeded row
      source project payload now with
    | error message => rfl
    | ok after =>
      obtain ⟨commit, deploys⟩ := (reportBuildSucceeded_ok_iff source now
        (linked.seeBuilder builder.id now) member projectFound image).mp ⟨after, reports⟩
      exact absurd ⟨commit, deploys⟩ refused
  · rfl

end Reports

section Main

variable (placement : HostingServices) (failoverAfterSeconds : ℤ) (services : BuildServices)

/-- A report settles its build exactly when the build has ended before, the
report is a failure, or the project can be deployed. -/
theorem report_settles_iff {world : BuildWorld}
    (reachable : Reachable placement failoverAfterSeconds services world)
    {token : Option String} {builder : HostingBuilderAgent}
    (authenticated : world.builderFromToken services token = .ok builder)
    {row : HostingBuild} (member : row ∈ world.builds)
    (claimed : row.builderAgentId = some builder.id)
    {payload : BuilderStatus} (terminal : payload.Terminal) (now : ℤ) : Settles world
        (world.perform placement failoverAfterSeconds services
          (.reportBuild token row.id payload now)) row ↔
      row.status.underway = false ∨ payload.status = .failed ∨ Deployable world row payload := by
  have linked := reachable.linked
  obtain ⟨source, project, sourceFound, projectFound, failing, succeeding⟩ :=
    reportBuild_eq services payload now linked authenticated member claimed
  have seen := linked.seeBuilder builder.id now
  have performed : world.perform placement failoverAfterSeconds services
      (.reportBuild token row.id payload now) =
        world.orUnchanged (world.reportBuild services token row.id payload now) := rfl
  by_cases underway : row.status.underway = true
  · have active := HostingBuildStatus.active_of_underway underway
    rcases terminal with failed | ⟨succeeded, image⟩
    · rw [performed, failing failed, if_pos underway]
      refine iff_of_true ?_ (.inr (.inl failed))
      have settles := settles_failed seen member sourceFound payload.message now
      exact ⟨settles.build, settles.source, settles.queues⟩
    · constructor
      · intro settles
        right
        right
        by_contra refused
        rw [report_refused placement failoverAfterSeconds now linked
          authenticated member claimed succeeded image refused] at settles
        have ended := settles.build row member rfl
        rw [active] at ended
        cases ended
      · rintro (ended | failed | deployable)
        · rw [underway] at ended
          cases ended
        · rw [succeeded] at failed
          cases failed
        · obtain ⟨after, reports⟩ := (reportBuildSucceeded_ok_iff source now seen
            member projectFound image).mpr ⟨deployable.commit, deployable.project⟩
          have settles := settles_succeeded seen member sourceFound reports
          rw [performed, succeeding succeeded, if_pos underway, reports]
          exact ⟨settles.build, settles.source, settles.queues⟩
  · have ended : row.status.underway = false := by simpa using underway
    refine iff_of_true ?_ (.inl ended)
    have inactive : row.status.active = false := by
      have started : row.status ≠ .queued := by
        intro queued
        rw [linked.waits row member queued] at claimed
        cases claimed
      rw [HostingBuildStatus.active_eq_underway started, ended]
    have unchanged : world.orUnchanged (world.reportBuild services token
        row.id payload now) = world := by
      rcases terminal with failed | ⟨succeeded, -⟩
      · rw [failing failed, if_neg underway]
        rfl
      · rw [succeeding succeeded, if_neg underway]
        rfl
    rw [performed, unchanged]
    refine ⟨?_, ?_, ?_⟩
    · intro build buildMem same
      rw [linked.builds.eq_of_key buildMem member same]
      exact inactive
    · intro active
      rw [inactive] at active
      cases active
    · intro alone
      left
      apply canQueue_of_idle linked (linked.projectOf row member)
      rw [hasActiveBuild_eq_false]
      intro build buildMem same
      by_contra active
      have own := alone build buildMem same (by simpa using active)
      rw [linked.builds.eq_of_key buildMem member own, inactive] at active
      exact active rfl

end Main

def idlePlacement : HostingServices where
  rankNodes := fun _ _ => []
  reconcileProjectEdge := fun _ _ _ => .ok ⟨none, none⟩

def plainServices : BuildServices where
  hashToken := id
  decryptSecret := some

def builtProject : HostingProject where
  id := 1
  nodeId := some 2
  storageMb := 10
  memoryMb := 10
  cpuMillicores := 10
  imageRef := none
  status := .configured
  failoverPolicy := .manual
  createdAt := 0

def oneProject : HostingWorld where
  nextId := 10
  projects := [builtProject]
  flushedProjects := []
  databases := []
  deployments := []
  attempts := []
  flushedAttempts := []
  retirements := []
  nodes := [spareRow true]
  audits := []

def builderToken : Option String := some "ith_build_token"

def publishedImage : BuilderStatus where
  status := .succeeded
  imageRef := some (String.ofList publishedRef)
  imageDigest := some (String.ofList publishedDigest)
  sourceCommit := some "0123abc"

def claimedBuild : List BuildAction :=
  [.rotateBuilderToken "builder" "ith_build_token", .registerGitSource 1 none, .queueBuild 1 2 5 0,
    .claimBuild builderToken 1]

theorem publishedImage_valid :
    validateBuildImage publishedImage.imageRef publishedImage.imageDigest =
      .ok (String.ofList publishedRef, String.ofList publishedDigest) := by
  exact validateBuildImage_of_valid publishedRef_normalized
    publishedDigest_normalized publishedRef_approved publishedRef_pinned (by decide +kernel)

theorem publishedImage_terminal : publishedImage.Terminal := .inr ⟨rfl, _, publishedImage_valid⟩

def afterActions (actions : List BuildAction) : BuildWorld :=
  actions.foldl (fun world action =>
    world.perform idlePlacement 0 plainServices action)
    (start oneProject [5] [])

theorem afterActions_reachable (actions : List BuildAction) :
    Reachable idlePlacement 0 plainServices (afterActions actions) :=
  ⟨oneProject, [5], [], actions, Run.of_foldl _ actions _⟩

def builtRow : HostingBuild where
  id := 3
  projectId := 1
  sourceId := 2
  builderAgentId := some 1
  status := .claimed
  requestedByUserId := 5
  createdAt := 0
  claimedAt := some 1

def seenBuilder : HostingBuilderAgent where
  id := 1
  name := "builder"
  tokenHash := "ith_build_token"
  lastSeenAt := some 1

theorem claimedBuild_settles : Settles (afterActions claimedBuild)
      ((afterActions claimedBuild).perform idlePlacement 0 plainServices
        (.reportBuild builderToken builtRow.id publishedImage 2)) builtRow := by
  have authenticated : (afterActions claimedBuild).builderFromToken
      plainServices builderToken = .ok seenBuilder := by decide +kernel
  have member : builtRow ∈ (afterActions claimedBuild).builds := by decide +kernel
  have commit : validateCommit publishedImage.sourceCommit =
      .ok (some "0123abc") := by decide +kernel
  have deployable : Deployable (afterActions claimedBuild) builtRow
      publishedImage :=
    ⟨⟨_, commit⟩, builtProject, 2, by decide +kernel⟩
  exact (report_settles_iff idlePlacement 0 plainServices
    (afterActions_reachable claimedBuild) authenticated member rfl
    publishedImage_terminal 2).mpr (.inr (.inr deployable))

def suspendedBuild : List BuildAction := claimedBuild ++ [.hosting (.setProjectStatus 1 .suspended)]

/-- The report on it is refused, and the build and its source stay as they
are. -/
theorem suspendedBuild_stays : ¬ ∀ world, Reachable idlePlacement 0 plainServices world →
      ∀ token builder, world.builderFromToken plainServices token = .ok builder →
          ∀ row ∈ world.builds, row.builderAgentId = some builder.id →
            ∀ payload : BuilderStatus, payload.Terminal → ∀ now,
              Settles world (world.perform idlePlacement 0 plainServices
                (.reportBuild token row.id payload now)) row := by
  intro always
  have authenticated : (afterActions suspendedBuild).builderFromToken
      plainServices builderToken = .ok seenBuilder := by decide +kernel
  have member : builtRow ∈ (afterActions suspendedBuild).builds := by decide +kernel
  have reachable := afterActions_reachable suspendedBuild
  have suspended : (afterActions suspendedBuild).hosting.project? 1 =
      some { builtProject with status := .suspended } := by decide +kernel
  have settles := always (afterActions suspendedBuild) reachable builderToken
    seenBuilder authenticated builtRow member rfl publishedImage publishedImage_terminal 2
  have refused : ¬ Deployable (afterActions suspendedBuild) builtRow
      publishedImage := by
    rintro ⟨-, project, nodeId, found, -, resumed, -⟩
    rw [show builtRow.projectId = 1 from rfl, suspended] at found
    cases found
    exact resumed rfl
  rw [report_refused idlePlacement 0 2 reachable.linked authenticated member
    rfl rfl ⟨_, publishedImage_valid⟩ refused] at settles
  have ended := settles.build builtRow member rfl
  cases ended

end BuildWorld

end Ithute
