import Ithute.Library.Rounding
import Ithute.PythonValues
import Mathlib.Data.List.DropRight
import Mathlib.Data.List.Sort
import Mathlib.Tactic.Positivity

/-!
# Hardware incident workflow plans

`planHardwareIncident` of the Java worker and
`python_hardware_workflow_plan` of the backend run the same rules on two
readings of one payload.  They differ in how they trim texts, read numbers
and round ties.  Arithmetic is exact.
-/

namespace Ithute

open Rounding

inductive Severity where
  | high | critical
  deriving DecidableEq

inductive Urgency where
  | critical | high | medium

inductive Escalation where
  | maintenanceSuppressed | immediate | urgent

inductive WorkflowAction where
  | recordIncident | suppressNotifications | blockNewPlacement
  | drainAfterSafetyWindow | prepareDrain | notifyPlatformOwner
  | createMaintenanceTask

inductive RemediationAction where
  | inspectCoolingAndThermalPath
  | investigateMemoryPressureAndWorkingSet
  | inspectStorageLatencyAndIoContention
  | freeOrExpandFilesystemCapacity
  | inspectSmartNvmeAndPrepareStorageReplacement
  | inspectRecentKernelHardwareAndSystemLogs
  | prepareSafeWorkloadDrainBeforeHostIntervention
  | reviewDrainReadinessAndScheduleMaintenance

/-- One line of evidence: a measurement to one decimal, a count, or a
remark. -/
inductive Evidence where
  | measured (label : String) (tenths : ℤ)
  | counted (label : String) (value : ℤ)
  | remark (text : String)

structure Recommendation where
  action : RemediationAction
  priorityScore : ℤ
  urgency : Urgency
  confidencePercent : ℤ
  evidence : List Evidence
  expectedImpact : String
  drainRecommended : Bool
  operatorApprovalRequired : Bool

structure WorkflowPlan where
  engine : String
  planVersion : String
  escalation : Escalation
  actions : List WorkflowAction
  recommendations : List RemediationAction
  rankedRecommendations : List Recommendation

/-- What one side reads from a payload; `none` is an absent measurement. -/
structure IncidentReading where
  severity : Severity
  healthCritical : Bool
  suppressed : Bool
  temperature : Option ℚ
  memoryPressure : Option ℚ
  ioPressure : Option ℚ
  filesystemUsed : Option ℚ
  storageWarnings : ℤ
  predictiveRisk : ℤ
  predictiveConfidence : ℚ

namespace IncidentReading

variable (reading : IncidentReading)

def critical : Bool := reading.severity = .critical || reading.healthCritical

def escalation : Escalation :=
  if reading.suppressed then .maintenanceSuppressed
  else if reading.critical then .immediate
  else .urgent

def actions : List WorkflowAction :=
  .recordIncident :: if reading.suppressed then [.suppressNotifications]
    else if reading.critical then
      [.blockNewPlacement, .drainAfterSafetyWindow, .notifyPlatformOwner, .createMaintenanceTask]
    else
      [.blockNewPlacement, .prepareDrain, .notifyPlatformOwner, .createMaintenanceTask]

def clampUnit (value : ℚ) : ℚ := max 0 (min 1 value)

def severityWeight : ℚ := if reading.severity = .critical then 35 else 25

def scoreValue (signal : ℚ) : ℚ :=
  reading.severityWeight + clampUnit signal * 30 + clampUnit reading.predictiveConfidence * 20 +
    (max 0 (min 100 reading.predictiveRisk) : ℤ) * (15 / 100)

def priorityScore (rounding : ℚ → ℤ) (signal : ℚ) : ℤ :=
  max 0 (min 100 (rounding (reading.scoreValue signal)))

def urgency (signal : ℚ) : Urgency :=
  if reading.severity = .critical ∨ 85 / 100 ≤ signal then .critical
  else if 55 / 100 ≤ signal then .high
  else .medium

def confidenceValue (signal : ℚ) : ℚ :=
  (clampUnit reading.predictiveConfidence * (65 / 100) + clampUnit signal * (35 / 100)) * 100

def confidence (rounding : ℚ → ℤ) (signal : ℚ) : ℤ :=
  max 0 (min 100 (rounding (reading.confidenceValue signal)))

end IncidentReading

/-- A recommendation before it is scored; measurements are unrounded. -/
inductive FindingEvidence where
  | measured (label : String) (value : ℚ)
  | counted (label : String) (value : ℤ)
  | remark (text : String)

structure Finding where
  action : RemediationAction
  signal : ℚ
  evidence : FindingEvidence
  expectedImpact : String
  drainRecommended : Bool := false
  forcedUrgency : Option Urgency := none

def thresholdFinding (value : Option ℚ) (threshold : ℚ)
    (action : RemediationAction) (signal : ℚ → ℚ) (label impact : String) : List Finding :=
  match value with
  | none => []
  | some value =>
    if threshold ≤ value then
      [{ action := action, signal := signal value,
         evidence := .measured label value, expectedImpact := impact }]
    else []

def safeDrainFinding : Finding where
  action := .prepareSafeWorkloadDrainBeforeHostIntervention
  signal := 95 / 100
  evidence := .remark "critical hardware health or escalation"
  expectedImpact := "Protect running workloads before physical or host-level intervention."
  drainRecommended := true
  forcedUrgency := some .critical

def drainReadinessFinding : Finding where
  action := .reviewDrainReadinessAndScheduleMaintenance
  signal := 55 / 100
  evidence := .remark "high predictive hardware risk"
  expectedImpact := "Prepare a controlled maintenance path before risk becomes service-impacting."
  forcedUrgency := some .high

namespace IncidentReading

variable (reading : IncidentReading)

def thermalFinding : List Finding :=
  thresholdFinding reading.temperature 85 .inspectCoolingAndThermalPath
    (fun value => min 1 (max 0 ((value - 80) / 20))) "temperature_celsius"
    "Reduce thermal throttling and prevent heat-related component degradation."

def memoryFinding : List Finding :=
  thresholdFinding reading.memoryPressure 40 .investigateMemoryPressureAndWorkingSet
    (fun value => min 1 (value / 100)) "memory_pressure_avg10"
    "Reduce OOM risk, paging pressure, and application instability."

def ioFinding : List Finding :=
  thresholdFinding reading.ioPressure 35 .inspectStorageLatencyAndIoContention
    (fun value => min 1 (value / 100)) "io_pressure_avg10"
    "Identify storage contention before latency causes workload failure."

def filesystemFinding : List Finding :=
  thresholdFinding reading.filesystemUsed 90 .freeOrExpandFilesystemCapacity
    (fun value => min 1 (max 0 ((value - 85) / 15))) "filesystem_used_percent"
    "Prevent write failures, database corruption risk, and service interruption from disk exhaustion."

def storageSignal : ℚ := min 1 (55 / 100 + reading.storageWarnings * (12 / 100))

def storageWarningFinding : Finding where
  action := .inspectSmartNvmeAndPrepareStorageReplacement
  signal := reading.storageSignal
  evidence := .counted "storage_warning_count" reading.storageWarnings
  expectedImpact := "Reduce the chance of data loss or sudden device failure."
  drainRecommended := true

def storageFinding : List Finding :=
  if 0 < reading.storageWarnings then [reading.storageWarningFinding] else []

def logsFinding : Finding where
  action := .inspectRecentKernelHardwareAndSystemLogs
  signal := 35 / 100
  evidence := .remark "no single threshold explains the current risk"
  expectedImpact :=
    "Correlate machine-check, driver, kernel, and hardware events with the predictive alert."
  forcedUrgency := some (if reading.severity = .high then .high else .critical)

def drainFinding : List Finding :=
  if reading.suppressed then []
  else if reading.critical then [safeDrainFinding]
  else [drainReadinessFinding]

def measuredFindings : List Finding :=
  reading.thermalFinding ++ reading.memoryFinding ++ reading.ioFinding ++
    reading.filesystemFinding ++ reading.storageFinding

def findings : List Finding :=
  (if reading.measuredFindings.isEmpty then [reading.logsFinding]
    else reading.measuredFindings) ++ reading.drainFinding

def recommend (rounding : ℚ → ℤ) (finding : Finding) : Recommendation where
  action := finding.action
  priorityScore := reading.priorityScore rounding finding.signal
  urgency := finding.forcedUrgency.getD (reading.urgency finding.signal)
  confidencePercent := reading.confidence rounding finding.signal
  evidence :=
    match finding.evidence with
    | .measured label value => [.measured label (rounding (value * 10))]
    | .counted label value => [.counted label value]
    | .remark text => [.remark text]
  expectedImpact := finding.expectedImpact
  drainRecommended := finding.drainRecommended
  operatorApprovalRequired := true

def rankedRecommendations (rounding : ℚ → ℤ) : List Recommendation :=
  (reading.findings.map (reading.recommend rounding)).insertionSort
    fun first second => second.priorityScore ≤ first.priorityScore

def plan (engine : String) (rounding : ℚ → ℤ) : WorkflowPlan where
  engine := engine
  planVersion := "3"
  escalation := reading.escalation
  actions := reading.actions
  recommendations := (reading.rankedRecommendations rounding).map Recommendation.action
  rankedRecommendations := reading.rankedRecommendations rounding

end IncidentReading

/-- An incident payload: finite or absent measurements, counts after
`int(value or 0)`, and any number as confidence. -/
structure IncidentPayload where
  severity : Option PyStr
  healthStatus : Option PyStr
  predictiveState : Option PyStr
  notificationSuppressed : Bool
  temperatureCelsius : Option ℚ := none
  memoryPressureAvg10 : Option ℚ := none
  ioPressureAvg10 : Option ℚ := none
  filesystemUsedPercent : Option ℚ := none
  storageWarningCount : ℤ := 0
  predictiveRiskScore : ℤ := 0
  predictiveConfidence : Option Double := none

/-- `Character.isWhitespace`. -/
def isJavaWhitespace (point : CodePoint) : Bool :=
  isPythonSpace point && decide (point.val ≠ 0x85 ∧ point.val ≠ 0xA0 ∧ point.val ≠ 0x2007 ∧
      point.val ≠ 0x202F)

/-- `String.trim`: everything up to U+0020 counts as blank. -/
def javaTrim (text : PyStr) : PyStr := trimEnds (fun point => decide (point.val ≤ 0x20)) text

def isBlank (text : PyStr) : Bool := text.all isJavaWhitespace

def readSeverity (text : PyStr) : Option Severity :=
  if text = pyStr "high" then some .high
  else if text = pyStr "critical" then some .critical
  else none

/-- `max(0.0, min(1.0, float(value)))`; Python's `min(1.0, nan)` is `1.0`. -/
def pythonConfidence : Option Double → ℚ
  | some (.finite value) => max 0 (min 1 value)
  | some .posInf => 1
  | some .nan => 1
  | some .negInf => 0
  | none => 0

/-- `doubleValue` does not parse what Python writes for NaN and the
infinities, and what does not parse counts as zero. -/
def javaConfidence : Option Double → ℚ
  | some (.finite value) => max 0 (min 1 value)
  | _ => 0

/-- `intValue` of a written integer, with 0 as its fallback. -/
def javaInt (value : ℤ) : ℤ := if -2 ^ 31 ≤ value ∧ value < 2 ^ 31 then value else 0

section Readings

variable (lower : PyStr → PyStr) (payload : IncidentPayload)

/-- What the Python function reads; `lower` is lower-casing. -/
def pythonReading (severity : Severity) : IncidentReading where
  severity := severity
  healthCritical := lower (pythonStrip (strOrEmpty payload.healthStatus)) = pyStr "critical"
  suppressed := payload.notificationSuppressed
  temperature := payload.temperatureCelsius
  memoryPressure := payload.memoryPressureAvg10
  ioPressure := payload.ioPressureAvg10
  filesystemUsed := payload.filesystemUsedPercent
  storageWarnings := payload.storageWarningCount
  predictiveRisk := max 0 (min 100 payload.predictiveRiskScore)
  predictiveConfidence := pythonConfidence payload.predictiveConfidence

def javaReading (severity : Severity) : IncidentReading where
  severity := severity
  healthCritical := lower (javaTrim (strOrEmpty payload.healthStatus)) = pyStr "critical"
  suppressed := payload.notificationSuppressed
  temperature := payload.temperatureCelsius
  memoryPressure := payload.memoryPressureAvg10
  ioPressure := payload.ioPressureAvg10
  filesystemUsed := payload.filesystemUsedPercent
  storageWarnings := javaInt payload.storageWarningCount
  predictiveRisk := javaInt payload.predictiveRiskScore
  predictiveConfidence := javaConfidence payload.predictiveConfidence

def pythonSeverity : Option Severity :=
  readSeverity (lower (pythonStrip (strOrEmpty payload.severity)))

def javaSeverity : Option Severity := readSeverity (lower (javaTrim (strOrEmpty payload.severity)))

def pythonHardwareWorkflowPlan : Except String WorkflowPlan :=
  match pythonSeverity lower payload with
  | none => .error "severity must be high or critical"
  | some severity =>
    if lower (pythonStrip (strOrEmpty payload.healthStatus)) = [] ∨
        lower (pythonStrip (strOrEmpty payload.predictiveState)) = [] then
      .error "health_status and predictive_state are required"
    else
      .ok ((pythonReading lower payload severity).plan "python-fallback" roundHalfEven)

/-- `planHardwareIncident`; `Math.round` takes ties upwards. -/
def planHardwareIncident : Except String WorkflowPlan :=
  match javaSeverity lower payload with
  | none => .error "severity must be high or critical"
  | some severity =>
    if isBlank (lower (javaTrim (strOrEmpty payload.healthStatus))) = true ∨
        isBlank (lower (javaTrim (strOrEmpty payload.predictiveState))) = true then
      .error "health_status and predictive_state are required"
    else .ok ((javaReading lower payload severity).plan "java" round)

end Readings

end Ithute
