import Ithute.HostingTransactions
import Ithute.Library.Fallible

/-!
# Builds of hosted sources

A build is queued by hand or by a push, claimed by a builder and settled by
the builder's report.  A report of success also queues a deployment of the
image, in the same transaction: when the deployment is refused the whole
report is rolled back.

A request is made for a project of its own tenant.  Rows of a source go with
the source.
-/

namespace Ithute

inductive HostingBuildStatus where
  | queued | claimed | building | succeeded | failed
  deriving DecidableEq

def HostingBuildStatus.active : HostingBuildStatus → Bool
  | .queued | .claimed | .building => true
  | .succeeded | .failed => false

def HostingBuildStatus.underway : HostingBuildStatus → Bool
  | .claimed | .building => true
  | .queued | .succeeded | .failed => false

theorem HostingBuildStatus.active_of_underway {status : HostingBuildStatus}
    (underway : status.underway = true) : status.active = true := by
  cases status <;> first | rfl | cases underway

theorem HostingBuildStatus.active_eq_underway {status : HostingBuildStatus}
    (claimed : status ≠ .queued) : status.active = status.underway := by
  cases status <;> first | rfl | exact absurd rfl claimed

inductive HostingSourceStatus where
  | uploading | ready | building | failed
  deriving DecidableEq

/-- The moves that tickets and the upload service make for an archive. -/
def HostingSourceStatus.uploadsTo : HostingSourceStatus → HostingSourceStatus → Bool
  | .uploading, .uploading | .uploading, .failed | .uploading, .ready => true
  | .failed, .uploading => true
  | _, _ => false

inductive HostingSourceType where
  | git | zip
  deriving DecidableEq

structure HostingSource where
  id : ℕ
  projectId : ℕ
  sourceType : HostingSourceType := .git
  credentialId : Option ℕ := none
  repositoryCommit : Option String := none
  status : HostingSourceStatus := .ready
  failureMessage : Option String := none

structure HostingSourceCredential where
  id : ℕ
  active : Bool
  encryptedSecret : String

structure HostingBuild where
  id : ℕ
  projectId : ℕ
  sourceId : ℕ
  builderAgentId : Option ℕ := none
  status : HostingBuildStatus := .queued
  sourceCommit : Option String := none
  imageRef : Option String := none
  imageDigest : Option String := none
  failureMessage : Option String := none
  requestedByUserId : ℕ
  createdAt : ℤ
  claimedAt : Option ℤ := none
  startedAt : Option ℤ := none
  completedAt : Option ℤ := none
  deriving DecidableEq

structure HostingSourceWebhook where
  id : ℕ
  projectId : ℕ
  sourceId : ℕ
  active : Bool := true
  pendingRebuild : Bool := false
  pendingCommit : Option String := none
  createdByUserId : ℕ

structure HostingBuilderAgent where
  id : ℕ
  name : String
  tokenHash : String
  active : Bool := true
  lastSeenAt : Option ℤ := none
  deriving DecidableEq

/-- The tables that builds read and write, rows in order of creation. -/
structure BuildWorld where
  hosting : HostingWorld
  nextId : ℕ := 1
  users : List ℕ := []
  credentials : List HostingSourceCredential := []
  builders : List HostingBuilderAgent := []
  sources : List HostingSource := []
  builds : List HostingBuild := []
  webhooks : List HostingSourceWebhook := []

structure BuildServices where
  hashToken : String → String
  decryptSecret : String → Option String

inductive BuilderReport where
  | building | succeeded | failed

structure BuilderStatus where
  status : BuilderReport
  imageRef : Option String := none
  imageDigest : Option String := none
  sourceCommit : Option String := none
  message : Option String := none

def approvedImagePrefix : List Char := "ghcr.io/ithute-stak/hosted-".toList

def digestMark : List Char := ['@', 's', 'h', 'a', '2', '5', '6', ':']

/-- `str.strip`, on characters. -/
def stripCharacters (characters : List Char) : List Char :=
  let blank := fun character : Char => isPythonSpace (Fin.ofNat _ character.toNat)
  (characters.dropWhile blank).rdropWhile blank

/-- `(value or "").strip().lower()`. -/
def normalizedField (value : Option String) : List Char :=
  (stripText (value.getD "")).toList.flatMap lowerLetter

theorem normalizedField_ofList (characters : List Char) :
    normalizedField (some (String.ofList characters)) =
      (stripCharacters characters).flatMap lowerLetter := by
  simp [normalizedField, stripText, stripCharacters]

/-- What `rsplit` leaves after the last mark. -/
def afterLast (mark text : List Char) : Option (List Char) :=
  (text.tails.reverse.find? fun suffix => mark.isPrefixOf suffix).map
    fun suffix => suffix.drop mark.length

def isHexDigit (character : Char) : Bool :=
  ['0', '1', '2', '3', '4', '5', '6', '7', '8', '9', 'a', 'b', 'c', 'd', 'e',
    'f'].contains character

def validateBuildImage (imageRef imageDigest : Option String) : Except String (String × String) :=
  let ref := normalizedField imageRef
  let digest := normalizedField imageDigest
  match (if approvedImagePrefix.isPrefixOf ref then afterLast digestMark ref
    else none) with
  | none =>
    .error "Builder must publish a digest-pinned image in the approved Ithute hosting namespace"
  | some hash =>
    let embedded := "sha256:".toList ++ hash
    if embedded.length ≠ 71 ∨ embedded ≠ digest ∨ ¬ (embedded.drop 7).all isHexDigit then
      .error "Builder image digest does not match the immutable image reference"
    else .ok (String.ofList ref, String.ofList digest)

theorem validateBuildImage_of_valid {imageRef imageDigest : Option String}
    {ref digest hash : List Char} (image : normalizedField imageRef = ref)
    (named : normalizedField imageDigest = digest)
    (approved : approvedImagePrefix.isPrefixOf ref = true)
    (pinned : afterLast digestMark ref = some hash)
    (matching : ¬ (("sha256:".toList ++ hash).length ≠ 71 ∨ "sha256:".toList ++ hash ≠ digest ∨
        ¬ (("sha256:".toList ++ hash).drop 7).all isHexDigit)) :
    validateBuildImage imageRef imageDigest = .ok (String.ofList ref, String.ofList digest) := by
  unfold validateBuildImage
  rw [image, named]
  dsimp only
  rw [if_pos approved, pinned]
  dsimp only
  rw [if_neg matching]

/-- The commit of a report, `none` when it names none. -/
def validateCommit (sourceCommit : Option String) : Except String (Option String) :=
  let commit := normalizedField sourceCommit
  if commit = [] then .ok none
  else if commit.length < 7 ∨ commit.length > 64 ∨ ¬ commit.all isHexDigit then
    .error "Builder source_commit must be a hexadecimal Git commit id"
  else .ok (some (String.ofList commit))

namespace BuildWorld

section PublishedImage

def hexDigest : List Char := List.replicate 64 'a'

def publishedRef : List Char := approvedImagePrefix ++ '1' :: (digestMark ++ hexDigest)

def publishedDigest : List Char := "sha256:".toList ++ hexDigest

theorem publishedRef_normalized :
    normalizedField (some (String.ofList publishedRef)) = publishedRef :=
  (normalizedField_ofList _).trans (by decide +kernel)

theorem publishedDigest_normalized : normalizedField (some (String.ofList publishedDigest)) =
      publishedDigest :=
  (normalizedField_ofList _).trans (by decide +kernel)

theorem publishedRef_approved : approvedImagePrefix.isPrefixOf publishedRef = true := by
  unfold publishedRef
  rw [List.isPrefixOf_iff_prefix]
  exact List.prefix_append _ _

theorem publishedRef_pinned : afterLast digestMark publishedRef = some hexDigest := by
  decide +kernel

end PublishedImage

variable (world : BuildWorld)

def source? (id : ℕ) : Option HostingSource := world.sources.find? fun source => source.id = id

def credential? (id : ℕ) : Option HostingSourceCredential :=
  world.credentials.find? fun credential => credential.id = id

def hasActiveBuild (projectId : ℕ) : Bool :=
  world.builds.any fun build => build.projectId = projectId && build.status.active

def saveSource (source : HostingSource) : BuildWorld :=
  { world with
    sources := world.sources.map fun row => if row.id = source.id then source else row }

def saveBuild (build : HostingBuild) : BuildWorld :=
  { world with
    builds := world.builds.map fun row => if row.id = build.id then build else row }

def saveWebhook (webhook : HostingSourceWebhook) : BuildWorld :=
  { world with
    webhooks := world.webhooks.map fun row => if row.id = webhook.id then webhook else row }

def seeBuilder (builderId : ℕ) (now : ℤ) : BuildWorld :=
  { world with
    builders := world.builders.map fun row =>
      if row.id = builderId then { row with lastSeenAt := some now } else row }

def addBuild (projectId sourceId requestedByUserId : ℕ) (now : ℤ) : BuildWorld :=
  { world with
    nextId := world.nextId + 1
    builds := world.builds ++
      [{ id := world.nextId
         projectId := projectId
         sourceId := sourceId
         requestedByUserId := requestedByUserId
         createdAt := now }] }

def registerGitSource (projectId : ℕ) (credentialId : Option ℕ) : Except String BuildWorld :=
  match world.hosting.project? projectId with
  | none => .error "Hosted project not found"
  | some project =>
    if credentialId.any fun id =>
        ! (world.credential? id).any HostingSourceCredential.active then
      .error "Git credential is revoked"
    else
      .ok { world with
        nextId := world.nextId + 1
        sources := world.sources ++
          [{ id := world.nextId
             projectId := project.id
             credentialId := credentialId }] }

def registerZipSource (projectId : ℕ) : Except String BuildWorld :=
  match world.hosting.project? projectId with
  | none => .error "Hosted project not found"
  | some project =>
    .ok { world with
      nextId := world.nextId + 1
      sources := world.sources ++
        [{ id := world.nextId
           projectId := project.id
           sourceType := .zip
           status := .uploading }] }

def uploadSource (sourceId : ℕ) (status : HostingSourceStatus) : BuildWorld :=
  { world with
    sources := world.sources.map fun row =>
      if row.id = sourceId ∧ row.sourceType = .zip ∧ row.status.uploadsTo status then
        { row with status := status, failureMessage := none }
      else row }

def deleteSource (sourceId : ℕ) : BuildWorld :=
  { world with
    sources := world.sources.filter fun source => source.id ≠ sourceId
    builds := world.builds.filter fun build => build.sourceId ≠ sourceId
    webhooks := world.webhooks.filter fun webhook => webhook.sourceId ≠ sourceId }

def revokeCredential (credentialId : ℕ) : BuildWorld :=
  { world with
    credentials := world.credentials.map fun row =>
      if row.id = credentialId then { row with active := false } else row }

def configureSourceWebhook (sourceId userId : ℕ) : Except String BuildWorld :=
  match (world.source? sourceId).filter fun source =>
    source.sourceType = .git with
  | none => .error "Git hosting source not found"
  | some source =>
    if userId ∉ world.users then .error "User not found"
    else
      match world.webhooks.find? fun row => row.sourceId = source.id with
      | some row =>
        .ok (world.saveWebhook
          { row with
            active := true
            pendingRebuild := false
            pendingCommit := none
            createdByUserId := userId })
      | none =>
        .ok { world with
          nextId := world.nextId + 1
          webhooks := world.webhooks ++
            [{ id := world.nextId
               projectId := source.projectId
               sourceId := source.id
               createdByUserId := userId }] }

def disableSourceWebhook (sourceId : ℕ) : BuildWorld :=
  match world.webhooks.find? fun row => row.sourceId = sourceId with
  | none => world
  | some row =>
    if row.active then
      world.saveWebhook { row with
          active := false
          pendingRebuild := false
          pendingCommit := none }
    else world

/-- `create_or_rotate_builder_token` for the hash of a new token. -/
def rotateBuilderToken (name tokenHash : String) : BuildWorld :=
  match world.builders.find? fun row => row.name = name with
  | some builder =>
    { world with
      builders := world.builders.map fun row =>
        if row.id = builder.id then
          { row with
            tokenHash := tokenHash
            active := true
            lastSeenAt := none }
        else row }
  | none =>
    { world with
      nextId := world.nextId + 1
      builders := world.builders ++ [{ id := world.nextId, name := name, tokenHash := tokenHash }] }

def builderFromToken (services : BuildServices) (token : Option String) :
    Except String HostingBuilderAgent :=
  let raw := stripText (token.getD "")
  if ! "ith_build_".toList.isPrefixOf raw.toList then
    .error "Hosting builder credential required"
  else
    match world.builders.find? fun row =>
      row.tokenHash = services.hashToken raw with
    | none => .error "Invalid hosting builder credential"
    | some builder =>
      if builder.active then .ok builder
      else .error "Hosting builder is disabled"

def queueBuild (projectId sourceId userId : ℕ) (now : ℤ) : Except String BuildWorld :=
  match world.hosting.project? projectId with
  | none => .error "Hosted project not found"
  | some project =>
    match world.sources.find? fun source =>
      source.id = sourceId && source.projectId = project.id with
    | none => .error "Hosting source not found"
    | some source =>
      if source.status ≠ .ready then
        .error "Source must be verified and ready before it can be built"
      else if world.hasActiveBuild project.id then
        .error "This project already has a build in progress"
      else if userId ∉ world.users then .error "User not found"
      else .ok (world.addBuild project.id source.id userId now)

/-- A push becomes a build, or is remembered until the next one ends. -/
def queueWebhookBuild (webhook : HostingSourceWebhook) (source : HostingSource)
    (project : HostingProject) (commit : Option String) (now : ℤ) : BuildWorld :=
  if world.hasActiveBuild project.id ∨ source.status ≠ .ready then
    world.saveWebhook { webhook with pendingRebuild := true, pendingCommit := commit }
  else
    (world.addBuild project.id source.id webhook.createdByUserId now).saveWebhook
      { webhook with pendingRebuild := false, pendingCommit := none }

/-- `receive_source_webhook` for a push to the selected branch that was not
delivered before. -/
def receivePush (webhookId : ℕ) (commit : Option String) (now : ℤ) : Except String BuildWorld :=
  match world.webhooks.find? fun row => row.id = webhookId && row.active with
  | none => .error "Webhook not found"
  | some webhook =>
    match (world.source? webhook.sourceId).filter fun source => source.sourceType = .git,
      world.hosting.project? webhook.projectId with
    | some source, some project => .ok (world.queueWebhookBuild webhook source project commit now)
    | _, _ => .error "Webhook source is unavailable"

def queuePendingWebhookRebuild (sourceId : ℕ) (now : ℤ) : BuildWorld :=
  match world.webhooks.find? fun row =>
    row.sourceId = sourceId && row.active && row.pendingRebuild with
  | none => world
  | some webhook =>
    match world.source? sourceId, world.hosting.project? webhook.projectId with
    | some source, some project =>
      world.queueWebhookBuild webhook source project webhook.pendingCommit now
    | _, _ => world

def failBuild (build : HostingBuild) (message : String) (now : ℤ) : BuildWorld :=
  world.saveBuild { build with
      status := .failed
      failureMessage := some message
      completedAt := some now }

def credentialProblem (services : BuildServices) (source : HostingSource) : Option String :=
  match source.credentialId with
  | none => none
  | some credentialId =>
    match (world.credential? credentialId).filter HostingSourceCredential.active with
    | none => some "Private source credential is unavailable"
    | some credential =>
      if (services.decryptSecret credential.encryptedSecret).isNone then
        some "Private source credential could not be decrypted"
      else none

def claimBuild (services : BuildServices) (token : Option String) (now : ℤ) :
    Except String BuildWorld :=
  match world.builderFromToken services token with
  | .error message => .error message
  | .ok builder =>
    let seen := world.seeBuilder builder.id now
    match seen.builds.find? fun row => row.status = .queued with
    | none => .ok seen
    | some row =>
      match seen.source? row.sourceId, seen.hosting.project? row.projectId with
      | some source, some _ =>
        if source.status ≠ .ready then
          .ok (seen.failBuild row "Build source or project is unavailable" now)
        else
          match seen.credentialProblem services source with
          | some message => .ok (seen.failBuild row message now)
          | none =>
            .ok ((seen.saveBuild { row with
                status := .claimed
                builderAgentId := some builder.id
                claimedAt := some now }).saveSource
              { source with status := .building })
      | _, _ =>
        .ok (seen.failBuild row "Build source or project is unavailable" now)

def reportedFailure (message : Option String) : String :=
  String.ofList ((stripText ((presentText message).getD
    "Builder reported failure")).toList.take 2000)

def reportBuildFailed (row : HostingBuild) (source : HostingSource)
    (message : Option String) (now : ℤ) : BuildWorld :=
  (world.saveBuild { row with
      status := .failed
      failureMessage := some (reportedFailure message)
      completedAt := some now }).saveSource
    { source with
      status := .failed
      failureMessage := some (reportedFailure message) }

/-- The deployment comes first, and its refusal undoes the report. -/
def reportBuildSucceeded (row : HostingBuild) (source : HostingSource)
    (project : HostingProject) (payload : BuilderStatus) (now : ℤ) : Except String BuildWorld :=
  match validateBuildImage payload.imageRef payload.imageDigest with
  | .error message => .error message
  | .ok (imageRef, digest) =>
    match validateCommit payload.sourceCommit with
    | .error message => .error message
    | .ok commit =>
      if row.requestedByUserId ∉ world.users then
        .error "Build requester no longer exists"
      else
        match createDeployment world.hosting project imageRef digest commit
          ((world.hosting.lastHealthy project.id).map HostingDeployment.id) now with
        | .error message => .error message
        | .ok hosting =>
          let settled := ({ world with hosting := hosting }.saveBuild { row with
              status := .succeeded
              imageRef := some imageRef
              imageDigest := some digest
              sourceCommit := commit
              failureMessage := none
              completedAt := some now }).saveSource
            { source with
              status := .ready
              failureMessage := none
              repositoryCommit := commit.or source.repositoryCommit }
          .ok (settled.queuePendingWebhookRebuild source.id now)

def reportBuild (services : BuildServices) (token : Option String)
    (buildId : ℕ) (payload : BuilderStatus) (now : ℤ) : Except String BuildWorld :=
  match world.builderFromToken services token with
  | .error message => .error message
  | .ok builder =>
    let seen := world.seeBuilder builder.id now
    match seen.builds.find? fun row =>
      row.id = buildId && row.builderAgentId = some builder.id with
    | none => .error "Build not found for this builder"
    | some row =>
      match seen.source? row.sourceId, seen.hosting.project? row.projectId with
      | some source, some project =>
        match payload.status with
        | .building =>
          if row.status.underway then
            .ok (seen.saveBuild { row with
                status := .building
                startedAt := row.startedAt.or (some now) })
          else
            .error "Build cannot enter building state from its current state"
        | .failed =>
          if row.status.underway then
            .ok (seen.reportBuildFailed row source payload.message now)
          else .error "Build cannot fail from its current state"
        | .succeeded =>
          if row.status.underway then
            seen.reportBuildSucceeded row source project payload now
          else .error "Build cannot succeed from its current state"
      | _, _ => .error "Build source or project no longer exists"

end BuildWorld

/-- What customers, pushes, builders and the rest of hosting do, each in a
transaction of its own. -/
inductive BuildAction where
  | hosting (action : HostingAction)
  | registerGitSource (projectId : ℕ) (credentialId : Option ℕ)
  | registerZipSource (projectId : ℕ)
  | uploadSource (sourceId : ℕ) (status : HostingSourceStatus)
  | deleteSource (sourceId : ℕ)
  | revokeCredential (credentialId : ℕ)
  | configureSourceWebhook (sourceId userId : ℕ)
  | disableSourceWebhook (sourceId : ℕ)
  | rotateBuilderToken (name tokenHash : String)
  | queueBuild (projectId sourceId userId : ℕ) (now : ℤ)
  | receivePush (webhookId : ℕ) (commit : Option String) (now : ℤ)
  | claimBuild (token : Option String) (now : ℤ)
  | reportBuild (token : Option String) (buildId : ℕ) (payload : BuilderStatus) (now : ℤ)

namespace BuildWorld

variable (placement : HostingServices) (failoverAfterSeconds : ℤ)
variable (services : BuildServices) (world : BuildWorld)

def orUnchanged : Except String BuildWorld → BuildWorld
  | .error _ => world
  | .ok after => after

def perform : BuildAction → BuildWorld
  | .hosting action =>
    { world with
      hosting := world.hosting.perform placement failoverAfterSeconds action }
  | .registerGitSource projectId credentialId =>
    world.orUnchanged (world.registerGitSource projectId credentialId)
  | .registerZipSource projectId => world.orUnchanged (world.registerZipSource projectId)
  | .uploadSource sourceId status => world.uploadSource sourceId status
  | .deleteSource sourceId => world.deleteSource sourceId
  | .revokeCredential credentialId => world.revokeCredential credentialId
  | .configureSourceWebhook sourceId userId =>
    world.orUnchanged (world.configureSourceWebhook sourceId userId)
  | .disableSourceWebhook sourceId => world.disableSourceWebhook sourceId
  | .rotateBuilderToken name tokenHash => world.rotateBuilderToken name tokenHash
  | .queueBuild projectId sourceId userId now =>
    world.orUnchanged (world.queueBuild projectId sourceId userId now)
  | .receivePush webhookId commit now => world.orUnchanged (world.receivePush webhookId commit now)
  | .claimBuild token now => world.orUnchanged (world.claimBuild services token now)
  | .reportBuild token buildId payload now =>
    world.orUnchanged (world.reportBuild services token buildId payload now)

end BuildWorld

end Ithute
