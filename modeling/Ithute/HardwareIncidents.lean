import Ithute.Library.InterleavedCalls
import Ithute.Library.UnorderedMap
import Ithute.PythonValues
import Mathlib.Data.List.Sort

/-!
# Hardware telemetry and incidents

`ingest_hardware_telemetry` inserts a snapshot and marks the server's agent as
seen.  The update holds the agent's row until the transaction ends, and so
does a nonce in the unique index, before the incident of the server is looked
up, created, updated or resolved.
-/

namespace Ithute

open TransitionRuns InterleavedCalls

namespace Hardware

structure PlatformUser where
  isPlatformOwner : Bool := true
  isActive : Bool := true

structure HardwareMaintenanceWindow where
  id : ℕ
  serverId : ℕ
  startsAt : ℤ
  endsAt : ℤ
  suppressNotifications : Bool := true
  cancelledAt : Option ℤ := none
  deriving DecidableEq

/-- An envelope of the agent of a server, whose payload is its text. -/
structure HardwareEnvelope where
  serverId : ℕ
  issuedAtUnix : ℤ
  nonce : String
  signature : String
  payload : String
  deriving DecidableEq

structure HardwareTelemetrySnapshot where
  id : ℕ
  envelope : HardwareEnvelope
  createdAt : ℤ

inductive HealthStatus where
  | critical | warning | healthy
  deriving DecidableEq

/-- What `_prediction_for_server` returns of a state and a score. -/
structure Prediction where
  state : Option String
  riskScore : Option ℤ
  deriving DecidableEq

inductive IncidentSeverity where
  | critical | high

structure HardwareIncident where
  id : ℕ
  serverId : ℕ
  latestSnapshotId : ℕ
  severity : IncidentSeverity
  isOpen : Bool := true
  predictiveState : String
  predictiveRiskScore : Option ℤ
  healthStatus : HealthStatus
  notificationSuppressed : Bool
  openedAt : ℤ
  lastSeenAt : ℤ
  resolvedAt : Option ℤ := none

inductive DeliveryChannel where
  | email | push
  deriving DecidableEq

structure HardwareIncidentDelivery where
  incidentId : ℕ
  recipientUserId : ℕ
  channel : DeliveryChannel
  deriving DecidableEq

/-- The row that `_queue_hardware_incident_delivery` adds. -/
def delivery (incidentId : ℕ) (recipient : ℕ × DeliveryChannel) : HardwareIncidentDelivery where
  incidentId := incidentId
  recipientUserId := recipient.1
  channel := recipient.2

def seconds (count : ℤ) : ℤ := count * 1000000

def maxClockSkew : ℤ := seconds 300

def retention : ℤ := seconds (30 * 24 * 60 * 60)

/-- The committed rows, the clock, the calls that hold the row of a server's
agent or a nonce in the unique index, and the envelopes accepted so far. -/
structure HardwareTables where
  users : UnorderedMap ℕ PlatformUser
  windows : List HardwareMaintenanceWindow := []
  lastSeen : ℕ → Option ℤ := fun _ => none
  snapshots : List HardwareTelemetrySnapshot := []
  incidents : List HardwareIncident := []
  deliveries : List HardwareIncidentDelivery := []
  nextId : ℕ := 0
  now : ℤ := 0
  agentHolder : ℕ → Option ℕ := fun _ => none
  nonceHolder : String → Option ℕ := fun _ => none
  accepted : List HardwareEnvelope := []

namespace HardwareEnvelope

def issuedAt (envelope : HardwareEnvelope) : ℤ := seconds envelope.issuedAtUnix

end HardwareEnvelope

namespace HardwareTables

variable (tables : HardwareTables)

def owners : List ℕ :=
  (tables.users.entries.filter fun user => user.2.isPlatformOwner && user.2.isActive).map Sigma.fst

/-- `_active_maintenance`. -/
def activeMaintenance? (serverId : ℕ) (at_ : ℤ) : Option HardwareMaintenanceWindow :=
  let rows := tables.windows.filter fun window =>
    window.serverId = serverId && window.cancelledAt.isNone &&
      decide (window.startsAt ≤ at_) && decide (at_ < window.endsAt)
  (rows.insertionSort fun first second => first.endsAt ≤ second.endsAt).head?

def openIncidents (serverId : ℕ) : List HardwareIncident :=
  tables.incidents.filter fun row => row.serverId = serverId && row.isOpen

/-- `_active_hardware_incident`. -/
def activeIncident? (serverId : ℕ) : Option HardwareIncident :=
  ((tables.openIncidents serverId).insertionSort fun first second =>
    second.openedAt ≤ first.openedAt).head?

end HardwareTables

structure Ingestion where
  envelope : HardwareEnvelope
  health : HealthStatus
  prediction : Prediction
  /-- When its transaction started. -/
  began : ℤ
  now : ℤ
  /-- `last_seen_at` of the agent as it was loaded. -/
  seen : Option ℤ
  maintenance : Option HardwareMaintenanceWindow := none

namespace Ingestion

variable (lower : String → String) (ingestion : Ingestion)

def serverId : ℕ := ingestion.envelope.serverId

/-- `str(prediction.get("state") or "learning").strip().lower()`. -/
def predictiveState : String :=
  lower (stripText ((presentText ingestion.prediction.state).getD "learning"))

def activeRisk : Bool := ingestion.health = .critical || ingestion.predictiveState lower = "high"

def severity : IncidentSeverity := if ingestion.health = .critical then .critical else .high

def suppressed : Bool := ingestion.maintenance.any HardwareMaintenanceWindow.suppressNotifications

def updatesAgent : Bool := ingestion.seen ≠ some ingestion.now

def snapshot (id : ℕ) : HardwareTelemetrySnapshot where
  id := id
  envelope := ingestion.envelope
  createdAt := ingestion.began

def newIncident (id snapshotId : ℕ) : HardwareIncident where
  id := id
  serverId := ingestion.serverId
  latestSnapshotId := snapshotId
  severity := ingestion.severity
  predictiveState := ingestion.predictiveState lower
  predictiveRiskScore := ingestion.prediction.riskScore
  healthStatus := ingestion.health
  notificationSuppressed := ingestion.suppressed
  openedAt := ingestion.now
  lastSeenAt := ingestion.now

def refresh (snapshotId : ℕ) (incident : HardwareIncident) : HardwareIncident :=
  { incident with
    latestSnapshotId := snapshotId
    severity := ingestion.severity
    predictiveState := ingestion.predictiveState lower
    predictiveRiskScore := ingestion.prediction.riskScore
    healthStatus := ingestion.health
    notificationSuppressed := ingestion.suppressed
    lastSeenAt := ingestion.now
    resolvedAt := none }

def resolve (snapshotId : ℕ) (incident : HardwareIncident) : HardwareIncident :=
  { incident with
    isOpen := false
    resolvedAt := some ingestion.now
    lastSeenAt := ingestion.now
    latestSnapshotId := snapshotId }

def notifies (incident : Option HardwareIncident) : Bool :=
  ingestion.activeRisk lower && ! ingestion.suppressed &&
    incident.all HardwareIncident.notificationSuppressed

end Ingestion

inductive IngestionCall where
  | idle
  | received (ingestion : Ingestion)
  | maintained (ingestion : Ingestion)
  | flushed (ingestion : Ingestion) (snapshotId : ℕ)
  | found (ingestion : Ingestion) (snapshotId : ℕ) (incident : Option HardwareIncident)
  | queued (ingestion : Ingestion) (snapshotId : ℕ) (incident : Option HardwareIncident)
      (recipients : List (ℕ × DeliveryChannel))
  | ended

inductive IngestionStep where
  | tick (passed : ℕ)
  | createMaintenanceWindow (window : HardwareMaintenanceWindow)
  | cancelMaintenanceWindow (id : ℕ)
  /-- The checks of the credential, the signature, the timestamp and the
  payload; the clock has moved on since any earlier request, and so far since
  the start of the transaction. -/
  | receive (envelope : HardwareEnvelope) (verified : Bool)
      (health : HealthStatus) (prediction : Prediction) (elapsed : ℕ)
  | readMaintenance
  | flush
  | findIncident
  | queueDeliveries
  | commit
  /-- An exception, or the end of the connection. -/
  | abort
  deriving DecidableEq

namespace HardwareTables

def release (tables : HardwareTables) (caller : ℕ) : HardwareTables :=
  { tables with
    agentHolder := fun serverId =>
      if tables.agentHolder serverId = some caller then none
      else tables.agentHolder serverId
    nonceHolder := fun nonce =>
      if tables.nonceHolder nonce = some caller then none
      else tables.nonceHolder nonce }

def blocks (tables : HardwareTables) (caller : ℕ) (ingestion : Ingestion) : Bool :=
  (tables.nonceHolder ingestion.envelope.nonce).any (· ≠ caller) || ingestion.updatesAgent &&
      (tables.agentHolder ingestion.serverId).any (· ≠ caller)

def hold (tables : HardwareTables) (caller : ℕ) (ingestion : Ingestion) : HardwareTables :=
  { tables with
    nextId := tables.nextId + 1
    nonceHolder := Function.update tables.nonceHolder ingestion.envelope.nonce (some caller)
    agentHolder :=
      if ingestion.updatesAgent then
        Function.update tables.agentHolder ingestion.serverId (some caller)
      else tables.agentHolder }

def missingRecipients (tables : HardwareTables)
    (incident : Option HardwareIncident) : List (ℕ × DeliveryChannel) :=
  let all := tables.owners.flatMap fun owner => [(owner, .email), (owner, .push)]
  match incident with
  | none => all
  | some row =>
    all.filter fun recipient => delivery row.id recipient ∉ tables.deliveries

/-- The incidents after `_reconcile_hardware_incident`. -/
def reconciled (lower : String → String) (tables : HardwareTables)
    (ingestion : Ingestion) (snapshotId : ℕ) : Option HardwareIncident → List HardwareIncident
  | none =>
    if ingestion.activeRisk lower then
      tables.incidents ++ [ingestion.newIncident lower tables.nextId snapshotId]
    else tables.incidents
  | some row =>
    tables.incidents.map fun other =>
      if other.id = row.id then
        if ingestion.activeRisk lower then
          ingestion.refresh lower snapshotId other
        else ingestion.resolve snapshotId other
      else other

/-- The commit of an ingestion, after its deletion of old snapshots. -/
def accept (lower : String → String) (tables : HardwareTables) (caller : ℕ)
    (ingestion : Ingestion) (snapshotId : ℕ) (incident : Option HardwareIncident)
    (recipients : List (ℕ × DeliveryChannel)) : HardwareTables :=
  let incidentId := (incident.map HardwareIncident.id).getD tables.nextId
  { tables.release caller with
    lastSeen := Function.update tables.lastSeen ingestion.serverId (some ingestion.now)
    snapshots :=
      (tables.snapshots ++ [ingestion.snapshot snapshotId]).filter fun snapshot =>
        ! (snapshot.envelope.serverId = ingestion.serverId &&
            decide (snapshot.createdAt < ingestion.now - retention))
    incidents := tables.reconciled lower ingestion snapshotId incident
    deliveries := tables.deliveries ++ recipients.map (delivery incidentId)
    nextId := tables.nextId + 1
    accepted := tables.accepted ++ [ingestion.envelope] }

/-- One step of an ingestion, or of the clock or the maintenance windows. -/
def perform (lower : String → String) (caller : ℕ) :
    IngestionStep → HardwareTables → IngestionCall → HardwareTables × IngestionCall
  | .tick passed, tables, call =>
    ({ tables with now := tables.now + passed }, call)
  | .createMaintenanceWindow window, tables, call =>
    ({ tables with windows := tables.windows ++ [window] }, call)
  | .cancelMaintenanceWindow id, tables, call =>
    ({ tables with
        windows := tables.windows.map fun window =>
          if window.id = id then
            { window with cancelledAt := some tables.now }
          else window },
      call)
  | .receive envelope verified health prediction elapsed, tables, .idle =>
    let now := tables.now + 1
    let later := { tables with now := now }
    if verified && decide (|now - envelope.issuedAt| ≤ maxClockSkew) then
      (later, .received
          { envelope := envelope, health := health, prediction := prediction
            began := now - elapsed, now := now, seen := tables.lastSeen envelope.serverId })
    else (later, .ended)
  | .readMaintenance, tables, .received ingestion =>
    (tables,
      .maintained { ingestion with
        maintenance :=
          tables.activeMaintenance? ingestion.serverId ingestion.now })
  | .flush, tables, .maintained ingestion =>
    if tables.blocks caller ingestion then (tables, .maintained ingestion)
    else if tables.snapshots.any fun snapshot =>
        snapshot.envelope.nonce = ingestion.envelope.nonce then
      (tables, .ended)
    else
      (tables.hold caller ingestion, .flushed ingestion tables.nextId)
  | .findIncident, tables, .flushed ingestion snapshotId =>
    (tables, .found ingestion snapshotId
        (tables.activeIncident? ingestion.serverId))
  | .queueDeliveries, tables, .found ingestion snapshotId incident =>
    (tables, .queued ingestion snapshotId incident
        (if ingestion.notifies lower incident then
          tables.missingRecipients incident
        else []))
  | .commit, tables, .queued ingestion snapshotId incident recipients =>
    (tables.accept lower caller ingestion snapshotId incident recipients, .ended)
  | .abort, tables, .idle => (tables, .idle)
  | .abort, tables, _ => (tables.release caller, .ended)
  | _, tables, call => (tables, call)

end HardwareTables

abbrev HardwareWorld := Interleaved ℕ HardwareTables IngestionCall

def HardwareWorld.start (users : UnorderedMap ℕ PlatformUser) (now : ℤ) : HardwareWorld where
  shared := { users := users, now := now }
  calls _ := .idle

abbrev HardwareWorld.next (lower : String → String) (world : HardwareWorld)
    (move : ℕ × IngestionStep) : HardwareWorld :=
  world.act (HardwareTables.perform lower) move

/-- Each server has at most one open incident, and each open incident that is
not suppressed has one delivery for each active owner and channel. -/
structure IncidentsKept (tables : HardwareTables) : Prop where
  oneOpen : ∀ serverId, (tables.openIncidents serverId).length ≤ 1
  notified : ∀ incident ∈ tables.incidents, incident.isOpen = true →
    incident.notificationSuppressed = false → ∀ owner ∈ tables.owners, ∀ channel,
      tables.deliveries.count (delivery incident.id (owner, channel)) = 1

structure Bookkept (tables : HardwareTables) : Prop extends IncidentsKept tables where
  accepted : tables.accepted.Nodup

def IngestionCall.maintained? : IngestionCall → Option Ingestion
  | .maintained ingestion => some ingestion
  | _ => none

/-- A flush in an ingestion that has read the clock within the lag, before the
snapshot of an earlier copy of its envelope can have been deleted. -/
def Prompt (lag : ℤ) (before : HardwareWorld) (move : ℕ × IngestionStep)
    (_ : HardwareWorld) : Prop :=
  move.2 = .flush → ∀ ingestion ∈ (before.calls move.1).maintained?,
    ingestion.now ≤ ingestion.began + lag ∧
      before.shared.now ≤ ingestion.envelope.issuedAt + retention - maxClockSkew - lag

end Hardware

end Ithute
