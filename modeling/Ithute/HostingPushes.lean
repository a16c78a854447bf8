import Ithute.HostingBuilds
import Ithute.Library.TransitionRuns

/-!
# Pushes that wait for a build

A push becomes a build at once, or is remembered on the webhook until a
build of the source ends.  A delivery locks the webhook and a report locks
its build, so the two may overlap: a report looks at the webhook after it
has written the end of its build, and commits later.  A build of which no
report has passed that point still looks.

The locks of the source row are left out; they only delay a transaction.
-/

namespace Ithute

open TransitionRuns

structure PushDelivery where
  deliveryId : String
  matched : Bool
  commit : Option String
  sourceStatus : HostingSourceStatus
  /-- Whether the project had an active build, once it was read. -/
  found : Option Bool := none

structure OpenClaim where
  buildId : ℕ
  builderAgentId : ℕ
  sourceStatus : HostingSourceStatus

inductive ReportPhase where
  | flushed
  /-- It holds the lock of a webhook that remembers a push. -/
  | locked
  | rebuilding
  | keeping
  /-- It saw no push remembered. -/
  | skipped

def ReportPhase.holdsWebhook : ReportPhase → Bool
  | .locked | .rebuilding | .keeping => true
  | .flushed | .skipped => false

def ReportPhase.looks : ReportPhase → Bool
  | .flushed | .locked | .rebuilding => true
  | .keeping | .skipped => false

structure OpenReport where
  buildId : ℕ
  phase : ReportPhase := .flushed

/-- A Git source with its webhook and builds.  `unbuilt` is not stored: a push
has been accepted since a build was last claimed. -/
structure PushState where
  source : HostingSource
  webhook : HostingSourceWebhook
  builds : List HostingBuild := []
  nextId : ℕ := 1
  deliveries : List (String × ℤ) := []
  delivery : Option PushDelivery := none
  manual : Option ℕ := none
  claims : List OpenClaim := []
  reports : List OpenReport := []
  unbuilt : Bool := false

inductive PushMove where
  | deliver (deliveryId : String) (matched : Bool) (commit : Option String)
  | readBuilds (now : ℤ)
  | commitDelivery (now : ℤ)
  | abandonDelivery
  | startManual (userId : ℕ)
  | commitManual (now : ℤ)
  | startClaim (builderAgentId : ℕ)
  | commitClaim (buildId : ℕ) (credentialProblem : Option String) (now : ℤ)
  | reportBuilding (buildId : ℕ) (now : ℤ)
  | reportFailed (buildId : ℕ) (message : Option String) (now : ℤ)
  | startReport (buildId : ℕ)
  | queryWebhook (buildId : ℕ)
  | readOthers (buildId : ℕ)
  | commitReport (buildId : ℕ) (imageRef imageDigest : String) (commit : Option String) (now : ℤ)
  | abandonReport (buildId : ℕ)

def deliveryRetentionMicroseconds : ℤ := 30 * 24 * 60 * 60 * 10 ^ 6

namespace PushState

variable (state : PushState)

def hasActiveBuild : Bool := state.builds.any fun build => build.status.active

def webhookLocked : Bool :=
  state.delivery.isSome || state.reports.any fun report => report.phase.holdsWebhook

/-- The row of a build whose builder may report, not locked by a report. -/
def reportable (buildId : ℕ) : Bool :=
  (state.builds.any fun build => build.id = buildId && build.status.underway) &&
    ! state.reports.any fun report => report.buildId = buildId

def addBuild (userId : ℕ) (now : ℤ) : PushState :=
  { state with
    nextId := state.nextId + 1
    builds := state.builds ++
      [{ id := state.nextId
         projectId := state.source.projectId
         sourceId := state.source.id
         requestedByUserId := userId
         createdAt := now }] }

def writeBuild (buildId : ℕ) (write : HostingBuild → HostingBuild) : PushState :=
  { state with
    builds := state.builds.map fun row => if row.id = buildId then write row else row }

def setReport (buildId : ℕ) (phase : ReportPhase) : PushState :=
  { state with
    reports := state.reports.map fun report =>
      if report.buildId = buildId then { report with phase := phase }
      else report }

def closeReport (buildId : ℕ) : PushState :=
  { state with
    reports := state.reports.filter fun report => report.buildId ≠ buildId }

def remember (commit : Option String) : PushState :=
  { state with
    webhook := { state.webhook with pendingRebuild := true, pendingCommit := commit } }

def forget : PushState :=
  { state with
    webhook := { state.webhook with pendingRebuild := false, pendingCommit := none } }

def recordDelivery (deliveryId : String) (now : ℤ) : PushState :=
  { state with
    deliveries :=
      (state.deliveries.filter fun delivery =>
        ! delivery.2 < now - deliveryRetentionMicroseconds) ++ [(deliveryId, now)]
    delivery := none }

/-- The end of a delivery of a push: `queue_webhook_build` and the commit. -/
def acceptPush (delivery : PushDelivery) (active : Bool) (now : ℤ) : PushState :=
  let recorded : PushState := { state.recordDelivery delivery.deliveryId now with unbuilt := true }
  if active ∨ delivery.sourceStatus ≠ .ready then
    recorded.remember delivery.commit
  else (recorded.addBuild state.webhook.createdByUserId now).forget

/-- The oldest build that waits and that no other claim has locked. -/
def unclaimedBuild : Option HostingBuild :=
  state.builds.find? fun row =>
    row.status = .queued && ! state.claims.any fun claim => claim.buildId = row.id

/-- Why a claim fails its build: the status that the source had, or its
credential. -/
def claimProblem (claim : OpenClaim) (credentialProblem : Option String) : Option String :=
  if claim.sourceStatus = .ready then credentialProblem
  else some "Build source or project is unavailable"

def settleClaim (claim : OpenClaim) (credentialProblem : Option String) (now : ℤ) : PushState :=
  let closed : PushState :=
    { state with
      claims := state.claims.filter fun other => other.buildId ≠ claim.buildId }
  match claimProblem claim credentialProblem with
  | none =>
    { closed.writeBuild claim.buildId fun row =>
        { row with
          status := .claimed
          builderAgentId := some claim.builderAgentId
          claimedAt := some now } with
      source := { state.source with status := .building }
      unbuilt := false }
  | some message =>
    closed.writeBuild claim.buildId fun row =>
      { row with
        status := .failed
        failureMessage := some message
        completedAt := some now }

def succeedBuild (buildId : ℕ) (imageRef imageDigest : String)
    (commit : Option String) (now : ℤ) : PushState :=
  { (state.closeReport buildId).writeBuild buildId fun row =>
      { row with
        status := .succeeded
        imageRef := some imageRef
        imageDigest := some imageDigest
        sourceCommit := commit
        failureMessage := none
        completedAt := some now } with
    source :=
      { state.source with
        status := .ready
        failureMessage := none
        repositoryCommit := commit.or state.source.repositoryCommit } }

def settleReport (report : OpenReport) (imageRef imageDigest : String)
    (commit : Option String) (now : ℤ) : PushState :=
  match report.phase with
  | .rebuilding =>
    ((state.succeedBuild report.buildId imageRef imageDigest commit
      now).addBuild state.webhook.createdByUserId now).forget
  -- The webhook is kept as it is stored, so nothing is written to it.
  | .keeping | .skipped => state.succeedBuild report.buildId imageRef imageDigest commit now
  | .flushed | .locked => state

def perform : PushMove → PushState
  | .deliver deliveryId matched commit =>
    if state.webhookLocked ∨ state.webhook.active = false then state
    else
      { state with
        delivery := some
          { deliveryId := deliveryId
            matched := matched
            commit := commit
            sourceStatus := state.source.status } }
  | .readBuilds now =>
    match state.delivery with
    | none => state
    | some delivery =>
      if state.deliveries.any fun seen =>
          seen.1 = delivery.deliveryId then
        { state with delivery := none }
      else if delivery.matched then
        { state with
          delivery := some
            { delivery with found := some state.hasActiveBuild } }
      else state.recordDelivery delivery.deliveryId now
  | .commitDelivery now =>
    match state.delivery with
    | none => state
    | some delivery =>
      match delivery.found with
      | none => state
      | some active => state.acceptPush delivery active now
  | .abandonDelivery => { state with delivery := none }
  | .startManual userId =>
    if state.manual = none ∧ state.source.status = .ready ∧ state.hasActiveBuild = false then
      { state with manual := some userId }
    else state
  | .commitManual now =>
    match state.manual with
    | none => state
    | some userId => { state.addBuild userId now with manual := none }
  | .startClaim builderAgentId =>
    match state.unclaimedBuild with
    | none => state
    | some row =>
      { state with
        claims := state.claims ++
          [{ buildId := row.id
             builderAgentId := builderAgentId
             sourceStatus := state.source.status }] }
  | .commitClaim buildId credentialProblem now =>
    match state.claims.find? fun claim => claim.buildId = buildId with
    | none => state
    | some claim => state.settleClaim claim credentialProblem now
  | .reportBuilding buildId now =>
    if state.reportable buildId then
      state.writeBuild buildId fun row =>
        { row with
          status := .building
          startedAt := row.startedAt.or (some now) }
    else state
  | .reportFailed buildId message now =>
    if state.reportable buildId then
      { state.writeBuild buildId fun row =>
          { row with
            status := .failed
            failureMessage := some (BuildWorld.reportedFailure message)
            completedAt := some now } with
        source :=
          { state.source with
            status := .failed
            failureMessage := some (BuildWorld.reportedFailure message) } }
    else state
  | .startReport buildId =>
    if state.reportable buildId then
      { state with reports := state.reports ++ [{ buildId := buildId }] }
    else state
  | .queryWebhook buildId =>
    match state.reports.find? fun report => report.buildId = buildId with
    | some { phase := .flushed, .. } =>
      if state.webhook.active = false ∨ state.webhook.pendingRebuild = false then
        state.setReport buildId .skipped
      else if state.webhookLocked then state
      else state.setReport buildId .locked
    | _ => state
  | .readOthers buildId =>
    match state.reports.find? fun report => report.buildId = buildId with
    | some { phase := .locked, .. } =>
      if state.builds.any fun build =>
          build.id ≠ buildId && build.status.active then
        state.setReport buildId .keeping
      else state.setReport buildId .rebuilding
    | _ => state
  | .commitReport buildId imageRef imageDigest commit now =>
    match state.reports.find? fun report => report.buildId = buildId with
    | none => state
    | some report =>
      state.settleReport report imageRef imageDigest commit now
  | .abandonReport buildId => state.closeReport buildId

/-- The build is active, and no report of it has passed the webhook. -/
def looks (build : HostingBuild) : Bool :=
  build.status.active && state.reports.all fun report =>
      report.buildId ≠ build.id || report.phase.looks

def OtherLooks (buildId : ℕ) : Prop :=
  ∃ build ∈ state.builds, build.id ≠ buildId ∧ state.looks build = true

/-- Nothing is remembered without an active build, and a push that no build
has been claimed after is remembered or queued. -/
structure NothingLost : Prop where
  idle : state.hasActiveBuild = false → state.webhook.pendingRebuild = false
  unbuilt : state.unbuilt = true → state.webhook.pendingRebuild = true ∨
    ∃ build ∈ state.builds, build.status = .queued

end PushState

end Ithute
