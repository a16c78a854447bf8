import Ithute.HostingBuilds
import Ithute.HostingFailoverSafety
import Ithute.Library.UniqueRows

/-!
# Rows that builds refer to

The source, the project and the requester of a build stay, and a build that
waits has no builder.  Nothing that failover or customers do to hosting
removes a project.
-/

namespace Ithute

open TransitionRuns UniqueRows

namespace HostingWorld

def KeepsProjects (before after : HostingWorld) : Prop :=
  ∀ id, (before.project? id).isSome = true → (after.project? id).isSome = true

variable {before after world : HostingWorld}

theorem KeepsProjects.refl (world : HostingWorld) : KeepsProjects world world := fun _ => id

theorem Extends.keepsProjects (extends' : Extends before after) : KeepsProjects before after := by
  intro id exists'
  have same := extends'.policies id
  unfold policyOf at same
  rw [← Option.isSome_map, same, Option.isSome_map]
  exact exists'

theorem keepsProjects_map {write : HostingProject → HostingProject}
    (keeps : ∀ row, (write row).id = row.id)
    (projects : after.projects = before.projects.map write) : KeepsProjects before after := by
  intro id exists'
  unfold project? at exists' ⊢
  rw [List.find?_isSome] at exists' ⊢
  obtain ⟨row, member, same⟩ := exists'
  refine ⟨write row, ?_, by rw [keeps]; exact same⟩
  rw [projects]
  exact List.mem_map_of_mem member

theorem keepsProjects_save {project : HostingProject}
    (projects : after.projects = (before.saveProject project).projects) :
    KeepsProjects before after := by
  apply keepsProjects_map (fun row => ?_) projects
  split
  · rename_i same
    exact same.symm
  · rfl

theorem keepsProjects_createDeployment {project : HostingProject}
    {imageRef imageDigest : String} {sourceCommit : Option String} {previous : Option ℕ} {now : ℤ}
    (accepted : createDeployment world project imageRef imageDigest
      sourceCommit previous now = .ok after) : KeepsProjects world after := by
  unfold createDeployment at accepted
  split at accepted
  · cases accepted
  · split_ifs at accepted
    cases accepted
    exact keepsProjects_save rfl

theorem keepsProjects_updatePolicy {projectId : ℕ} {policy : FailoverPolicy}
    {confirmed : Bool} {now : ℤ}
    (accepted : updateProjectFailoverPolicy world projectId policy confirmed now = .ok after) :
    KeepsProjects world after := by
  unfold updateProjectFailoverPolicy at accepted
  split at accepted
  · cases accepted
  · rename_i project _
    split at accepted
    · cases accepted
    · dsimp only at accepted
      cases accepted
      refine @keepsProjects_save _ _ { project with failoverPolicy := policy } ?_
      split <;> rfl

theorem keepsProjects_requestRelocation (services : HostingServices)
    {project : HostingProject} {preferred : Option ℕ} {reason : String} {now : ℤ}
    (current : world.policyOf project.id = some project.failoverPolicy)
    (accepted : requestProjectRelocation services world project preferred reason now = .ok after) :
    KeepsProjects world after := by
  unfold requestProjectRelocation at accepted
  split at accepted
  · cases accepted
  · rename_i nodeId _
    split_ifs at accepted
    split at accepted
    · cases accepted
    · rename_i cleared superseded
      split_ifs at accepted
      dsimp only at accepted
      split at accepted
      · cases accepted
      · cases accepted
        set created := cleared.createAttempt project nodeId .pending
          (some reason) (some now) now with createdEq
        have prepares : Extends world created.1 :=
          (keeps_supersedeRecovery superseded).1.trans
            (extends_createAttempt cleared project nodeId .pending (some reason) (some now) now)
        have start : Relocation.Current ⟨created.1, created.2, project⟩ :=
          (prepares.policies _).trans current
        exact ((prepares.trans (extends_queueReplacement services start now
          preferred)).trans (extends_flush _)).keepsProjects

theorem keepsProjects_withProject {projectId : ℕ}
    {request : HostingProject → Except String HostingWorld} (keeps : ∀ project after,
      world.policyOf project.id = some project.failoverPolicy →
        request project = .ok after → KeepsProjects world after) :
    KeepsProjects world (world.withProject projectId request) := by
  rcases withProject_cases world projectId request with
    refused | ⟨project, current, accepted⟩
  · rw [refused]
    exact KeepsProjects.refl world
  · exact keeps project _ current accepted

theorem keepsProjects_perform (services : HostingServices)
    (failoverAfterSeconds : ℤ) (world : HostingWorld) (action : HostingAction) : KeepsProjects world
      (world.perform services failoverAfterSeconds action) := by
  cases action with
  | reconcile now limit =>
    exact (reconcile_spec services failoverAfterSeconds now limit world).1.keepsProjects
  | relocate now projectId preferred reason =>
    exact keepsProjects_withProject fun _ _ current accepted =>
      keepsProjects_requestRelocation services current accepted
  | setPolicy now projectId policy confirmed =>
    rcases orUnchanged_cases world (updateProjectFailoverPolicy world
      projectId policy confirmed now) with refused | accepted
    · change KeepsProjects world (world.orUnchanged _)
      rw [refused]
      exact KeepsProjects.refl world
    · exact keepsProjects_updatePolicy accepted
  | attachDatabase now projectId engine => exact fun _ => id
  | setDatabaseStatus databaseId status => exact fun _ => id
  | setProjectStatus projectId status =>
    apply keepsProjects_map (fun row => ?_) rfl
    split <;> rfl
  | setNode row => exact fun _ => id
  | deploy now projectId imageRef imageDigest sourceCommit previous =>
    exact keepsProjects_withProject fun _ _ _ accepted => keepsProjects_createDeployment accepted
  | reportDeployment deploymentId status originUrl failureMessage => exact fun _ => id

end HostingWorld

namespace BuildWorld

/-- Another version of a build, for the same project, source and
requester. -/
structure SameBuild (before after : HostingBuild) : Prop where
  id : after.id = before.id
  projectId : after.projectId = before.projectId
  sourceId : after.sourceId = before.sourceId
  requestedByUserId : after.requestedByUserId = before.requestedByUserId
  waits : after.status = .queued → after.builderAgentId = none

/-- Rows have identifiers of their own, and what a build or a webhook refers
to is there. -/
structure Linked (world : BuildWorld) : Prop where
  sources : Issued HostingSource.id world.nextId world.sources
  builds : Issued HostingBuild.id world.nextId world.builds
  sourceOf : ∀ build ∈ world.builds, ∃ source ∈ world.sources, source.id = build.sourceId
  projectOf : ∀ build ∈ world.builds, (world.hosting.project? build.projectId).isSome = true
  requester : ∀ build ∈ world.builds, build.requestedByUserId ∈ world.users
  waits : ∀ build ∈ world.builds, build.status = .queued → build.builderAgentId = none
  creator : ∀ webhook ∈ world.webhooks, webhook.createdByUserId ∈ world.users

namespace Linked

variable {world : BuildWorld} {build row : HostingBuild}
variable {source : HostingSource} {webhook : HostingSourceWebhook}

theorem saveBuild (linked : world.Linked) (member : row ∈ world.builds)
    (same : SameBuild row build) : (world.saveBuild build).Linked where
  sources := linked.sources
  builds := linked.builds.replace build
  sourceOf := by
    refine forall_replace (fun other otherMem _ => linked.sourceOf other otherMem) ?_
    rw [same.sourceId]
    exact linked.sourceOf row member
  projectOf := by
    refine forall_replace (fun other otherMem _ => linked.projectOf other otherMem) ?_
    rw [same.projectId]
    exact linked.projectOf row member
  requester := by
    refine forall_replace (fun other otherMem _ => linked.requester other otherMem) ?_
    rw [same.requestedByUserId]
    exact linked.requester row member
  waits := forall_replace (fun other otherMem _ => linked.waits other otherMem) same.waits
  creator := linked.creator

theorem mapSources (linked : world.Linked) {write : HostingSource → HostingSource}
    (keeps : ∀ row, (write row).id = row.id) : ({ world with sources := world.sources.map write } :
      BuildWorld).Linked where
  sources := linked.sources.map fun row _ => keeps row
  builds := linked.builds
  sourceOf := by
    intro build member
    obtain ⟨source, sourceMem, same⟩ := linked.sourceOf build member
    exact ⟨write source, List.mem_map_of_mem sourceMem, (keeps source).trans same⟩
  projectOf := linked.projectOf
  requester := linked.requester
  waits := linked.waits
  creator := linked.creator

theorem saveSource (linked : world.Linked) (source : HostingSource) :
    (world.saveSource source).Linked := by
  apply linked.mapSources
  intro row
  split
  · rename_i same
    exact same.symm
  · rfl

theorem saveWebhook (linked : world.Linked) (creator : webhook.createdByUserId ∈ world.users) :
    (world.saveWebhook webhook).Linked where
  sources := linked.sources
  builds := linked.builds
  sourceOf := linked.sourceOf
  projectOf := linked.projectOf
  requester := linked.requester
  waits := linked.waits
  creator := forall_replace (fun other otherMem _ => linked.creator other otherMem) creator

theorem of_tables (linked : world.Linked) {other : BuildWorld}
    (hosting : other.hosting = world.hosting) (nextId : world.nextId ≤ other.nextId)
    (users : other.users = world.users) (sources : other.sources = world.sources)
    (builds : other.builds = world.builds)
    (webhooks : other.webhooks = world.webhooks) : other.Linked where
  sources := by rw [sources]; exact linked.sources.mono nextId
  builds := by rw [builds]; exact linked.builds.mono nextId
  sourceOf := by rw [builds, sources]; exact linked.sourceOf
  projectOf := by rw [builds, hosting]; exact linked.projectOf
  requester := by rw [builds, users]; exact linked.requester
  waits := by rw [builds]; exact linked.waits
  creator := by rw [webhooks, users]; exact linked.creator

theorem seeBuilder (linked : world.Linked) (builderId : ℕ) (now : ℤ) :
    (world.seeBuilder builderId now).Linked :=
  linked.of_tables rfl (Nat.le_refl _) rfl rfl rfl rfl

theorem setHosting (linked : world.Linked) {hosting : HostingWorld}
    (keeps : HostingWorld.KeepsProjects world.hosting hosting) :
    ({ world with hosting := hosting } : BuildWorld).Linked where
  sources := linked.sources
  builds := linked.builds
  sourceOf := linked.sourceOf
  projectOf := fun build member => keeps _ (linked.projectOf build member)
  requester := linked.requester
  waits := linked.waits
  creator := linked.creator

theorem addBuild (linked : world.Linked) {projectId userId : ℕ} (now : ℤ)
    (project : (world.hosting.project? projectId).isSome = true)
    (member : source ∈ world.sources) (requester : userId ∈ world.users) :
    (world.addBuild projectId source.id userId now).Linked where
  sources := linked.sources.mono (Nat.le_succ _)
  builds := linked.builds.insert rfl
  sourceOf := List.forall_mem_append.mpr
    ⟨linked.sourceOf, List.forall_mem_singleton.mpr ⟨source, member, rfl⟩⟩
  projectOf := List.forall_mem_append.mpr ⟨linked.projectOf, List.forall_mem_singleton.mpr project⟩
  requester := List.forall_mem_append.mpr
    ⟨linked.requester, List.forall_mem_singleton.mpr requester⟩
  waits := List.forall_mem_append.mpr ⟨linked.waits, List.forall_mem_singleton.mpr fun _ => rfl⟩
  creator := linked.creator

theorem addSource (linked : world.Linked) (isNext : source.id = world.nextId) : ({ world with
        nextId := world.nextId + 1
        sources := world.sources ++ [source] } : BuildWorld).Linked where
  sources := linked.sources.insert isNext
  builds := linked.builds.mono (Nat.le_succ _)
  sourceOf := fun build member => by
    obtain ⟨own, ownMem, same⟩ := linked.sourceOf build member
    exact ⟨own, List.mem_append_left _ ownMem, same⟩
  projectOf := linked.projectOf
  requester := linked.requester
  waits := linked.waits
  creator := linked.creator

theorem addWebhook (linked : world.Linked) (creator : webhook.createdByUserId ∈ world.users) :
    ({ world with
        nextId := world.nextId + 1
        webhooks := world.webhooks ++ [webhook] } : BuildWorld).Linked where
  sources := linked.sources.mono (Nat.le_succ _)
  builds := linked.builds.mono (Nat.le_succ _)
  sourceOf := linked.sourceOf
  projectOf := linked.projectOf
  requester := linked.requester
  waits := linked.waits
  creator := List.forall_mem_append.mpr ⟨linked.creator, List.forall_mem_singleton.mpr creator⟩

theorem deleteSource (linked : world.Linked) (sourceId : ℕ) :
    (world.deleteSource sourceId).Linked where
  sources := linked.sources.filter _
  builds := linked.builds.filter _
  sourceOf := by
    intro build member
    obtain ⟨stored, other⟩ := List.mem_filter.mp member
    obtain ⟨source, sourceMem, same⟩ := linked.sourceOf build stored
    refine ⟨source, List.mem_filter.mpr ⟨sourceMem, ?_⟩, same⟩
    rw [same]
    exact other
  projectOf := fun build member => linked.projectOf build (List.mem_filter.mp member).1
  requester := fun build member => linked.requester build (List.mem_filter.mp member).1
  waits := fun build member => linked.waits build (List.mem_filter.mp member).1
  creator := fun webhook member => linked.creator webhook (List.mem_filter.mp member).1

end Linked

end BuildWorld

end Ithute
