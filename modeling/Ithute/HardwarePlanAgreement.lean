import Ithute.HardwareWorkflowPlan

/-!
# When the two hardware plans agree

Both plans are a function of the reading and of the rounding.  They agree
exactly when the two readings agree where a plan looks at them and no score
or percentage is a tie that the roundings settle differently.
-/

namespace Ithute

open Rounding

structure ComparedRecommendation where
  action : RemediationAction
  priorityScore : ℤ
  urgency : Urgency
  confidencePercent : ℤ
  expectedImpact : String
  drainRecommended : Bool
  operatorApprovalRequired : Bool

def Recommendation.compared (item : Recommendation) : ComparedRecommendation where
  action := item.action
  priorityScore := item.priorityScore
  urgency := item.urgency
  confidencePercent := item.confidencePercent
  expectedImpact := item.expectedImpact
  drainRecommended := item.drainRecommended
  operatorApprovalRequired := item.operatorApprovalRequired

/-- The same plan apart from the engine and the wording of the evidence. -/
structure SamePlan (first second : WorkflowPlan) : Prop where
  planVersion : first.planVersion = second.planVersion
  escalation : first.escalation = second.escalation
  actions : first.actions = second.actions
  recommendations : first.recommendations = second.recommendations
  ranked : first.rankedRecommendations.map Recommendation.compared =
      second.rankedRecommendations.map Recommendation.compared

namespace IncidentReading

variable (reading : IncidentReading)

/-- The signals that the measurements of a reading raise. -/
inductive Raises : ℚ → Prop
  | thermal (value : ℚ) (present : reading.temperature = some value) (reached : 85 ≤ value) :
      Raises (min 1 (max 0 ((value - 80) / 20)))
  | memory (value : ℚ) (present : reading.memoryPressure = some value)
      (reached : 40 ≤ value) : Raises (min 1 (value / 100))
  | io (value : ℚ) (present : reading.ioPressure = some value)
      (reached : 35 ≤ value) : Raises (min 1 (value / 100))
  | filesystem (value : ℚ) (present : reading.filesystemUsed = some value) (reached : 90 ≤ value) :
      Raises (min 1 (max 0 ((value - 85) / 15)))
  | storage (warned : 0 < reading.storageWarnings) : Raises reading.storageSignal
  | logs (unexplained : reading.measuredFindings = []) : Raises (35 / 100)
  | drain (audible : reading.suppressed = false)
      (critical : reading.critical = true) : Raises (95 / 100)
  | review (audible : reading.suppressed = false)
      (calm : reading.critical = false) : Raises (55 / 100)

variable {finding : Finding}

theorem mem_thresholdFinding {value : Option ℚ} {threshold : ℚ}
    {action : RemediationAction} {signal : ℚ → ℚ} {label impact : String} :
    finding ∈ thresholdFinding value threshold action signal label impact ↔
      ∃ measured, value = some measured ∧ threshold ≤ measured ∧ finding =
          { action := action, signal := signal measured,
            evidence := .measured label measured,
            expectedImpact := impact } := by
  unfold thresholdFinding
  cases value with
  | none => simp
  | some measured => by_cases reached : threshold ≤ measured <;> simp [reached]

theorem mem_storageFinding : finding ∈ reading.storageFinding ↔
      0 < reading.storageWarnings ∧ finding = reading.storageWarningFinding := by
  unfold storageFinding
  by_cases warned : 0 < reading.storageWarnings <;> simp [warned]

theorem mem_drainFinding : finding ∈ reading.drainFinding ↔
      reading.suppressed = false ∧ ((reading.critical = true ∧ finding = safeDrainFinding) ∨
          (reading.critical = false ∧ finding = drainReadinessFinding)) := by
  unfold drainFinding
  cases reading.suppressed <;> cases reading.critical <;> simp

theorem mem_measuredFindings : finding ∈ reading.measuredFindings ↔
      finding ∈ reading.thermalFinding ∨ finding ∈ reading.memoryFinding ∨
        finding ∈ reading.ioFinding ∨ finding ∈ reading.filesystemFinding ∨
        finding ∈ reading.storageFinding := by
  simp [measuredFindings]

theorem mem_findings : finding ∈ reading.findings ↔ finding ∈ reading.measuredFindings ∨
        (reading.measuredFindings = [] ∧ finding = reading.logsFinding) ∨
        finding ∈ reading.drainFinding := by
  unfold findings
  by_cases unexplained : reading.measuredFindings = []
  · simp [unexplained]
  · simp [List.isEmpty_iff, unexplained]

def signalOf : RemediationAction → ℚ
  | .inspectCoolingAndThermalPath => min 1 (max 0 ((reading.temperature.getD 0 - 80) / 20))
  | .investigateMemoryPressureAndWorkingSet => min 1 (reading.memoryPressure.getD 0 / 100)
  | .inspectStorageLatencyAndIoContention => min 1 (reading.ioPressure.getD 0 / 100)
  | .freeOrExpandFilesystemCapacity => min 1 (max 0 ((reading.filesystemUsed.getD 0 - 85) / 15))
  | .inspectSmartNvmeAndPrepareStorageReplacement => reading.storageSignal
  | .inspectRecentKernelHardwareAndSystemLogs => 35 / 100
  | .prepareSafeWorkloadDrainBeforeHostIntervention => 95 / 100
  | .reviewDrainReadinessAndScheduleMaintenance => 55 / 100

theorem signal_eq_signalOf (member : finding ∈ reading.findings) :
    finding.signal = reading.signalOf finding.action := by
  rw [mem_findings, mem_measuredFindings] at member
  rcases member with measured | ⟨-, rfl⟩ | drain
  · rcases measured with thermal | memory | io | filesystem | storage
    · obtain ⟨value, present, -, rfl⟩ := mem_thresholdFinding.mp thermal
      simp [signalOf, present]
    · obtain ⟨value, present, -, rfl⟩ := mem_thresholdFinding.mp memory
      simp [signalOf, present]
    · obtain ⟨value, present, -, rfl⟩ := mem_thresholdFinding.mp io
      simp [signalOf, present]
    · obtain ⟨value, present, -, rfl⟩ := mem_thresholdFinding.mp filesystem
      simp [signalOf, present]
    · obtain ⟨-, rfl⟩ := reading.mem_storageFinding.mp storage
      rfl
  · rfl
  · obtain ⟨-, ⟨-, rfl⟩ | ⟨-, rfl⟩⟩ := reading.mem_drainFinding.mp drain
    · rfl
    · rfl

theorem warned_of_storage_action (member : finding ∈ reading.findings)
    (storage : finding.action = .inspectSmartNvmeAndPrepareStorageReplacement) :
    0 < reading.storageWarnings := by
  rw [mem_findings, mem_measuredFindings] at member
  rcases member with measured | ⟨-, rfl⟩ | drain
  · rcases measured with thermal | memory | io | filesystem | storageMember
    · obtain ⟨value, -, -, rfl⟩ := mem_thresholdFinding.mp thermal
      cases storage
    · obtain ⟨value, -, -, rfl⟩ := mem_thresholdFinding.mp memory
      cases storage
    · obtain ⟨value, -, -, rfl⟩ := mem_thresholdFinding.mp io
      cases storage
    · obtain ⟨value, -, -, rfl⟩ := mem_thresholdFinding.mp filesystem
      cases storage
    · exact (reading.mem_storageFinding.mp storageMember).1
  · cases storage
  · obtain ⟨-, ⟨-, rfl⟩ | ⟨-, rfl⟩⟩ := reading.mem_drainFinding.mp drain
    · cases storage
    · cases storage

variable (signal : ℚ)

theorem raises_iff : reading.Raises signal ↔
      ∃ finding ∈ reading.findings, finding.signal = signal := by
  simp only [mem_findings, mem_measuredFindings]
  constructor
  · intro raised
    cases raised with
    | thermal value present reached =>
      exact ⟨_, .inl (.inl (mem_thresholdFinding.mpr ⟨value, present, reached, rfl⟩)), rfl⟩
    | memory value present reached =>
      exact ⟨_, .inl (.inr (.inl (mem_thresholdFinding.mpr ⟨value, present, reached, rfl⟩))), rfl⟩
    | io value present reached =>
      exact ⟨_, .inl (.inr (.inr (.inl (mem_thresholdFinding.mpr
        ⟨value, present, reached, rfl⟩)))), rfl⟩
    | filesystem value present reached =>
      exact ⟨_, .inl (.inr (.inr (.inr (.inl (mem_thresholdFinding.mpr
        ⟨value, present, reached, rfl⟩))))), rfl⟩
    | storage warned =>
      exact ⟨_, .inl (.inr (.inr (.inr (.inr
        (reading.mem_storageFinding.mpr ⟨warned, rfl⟩))))), rfl⟩
    | logs unexplained => exact ⟨_, .inr (.inl ⟨unexplained, rfl⟩), rfl⟩
    | drain audible critical =>
      exact ⟨_, .inr (.inr (reading.mem_drainFinding.mpr ⟨audible, .inl ⟨critical, rfl⟩⟩)), rfl⟩
    | review audible calm =>
      exact ⟨_, .inr (.inr (reading.mem_drainFinding.mpr ⟨audible, .inr ⟨calm, rfl⟩⟩)), rfl⟩
  · rintro ⟨finding, member, rfl⟩
    rcases member with measured | ⟨unexplained, rfl⟩ | drain
    · rcases measured with thermal | memory | io | filesystem | storage
      · obtain ⟨value, present, reached, rfl⟩ := mem_thresholdFinding.mp thermal
        exact .thermal value present reached
      · obtain ⟨value, present, reached, rfl⟩ := mem_thresholdFinding.mp memory
        exact .memory value present reached
      · obtain ⟨value, present, reached, rfl⟩ := mem_thresholdFinding.mp io
        exact .io value present reached
      · obtain ⟨value, present, reached, rfl⟩ := mem_thresholdFinding.mp filesystem
        exact .filesystem value present reached
      · obtain ⟨warned, rfl⟩ := reading.mem_storageFinding.mp storage
        exact .storage warned
    · exact .logs unexplained
    · obtain ⟨audible, ⟨critical, rfl⟩ | ⟨calm, rfl⟩⟩ := reading.mem_drainFinding.mp drain
      · exact .drain audible critical
      · exact .review audible calm

theorem findings_ne_nil : reading.findings ≠ [] := by
  unfold findings
  by_cases unexplained : reading.measuredFindings = []
  · simp [unexplained]
  · simp [List.isEmpty_iff, unexplained]

theorem clampUnit_mem (value : ℚ) : 0 ≤ clampUnit value ∧ clampUnit value ≤ 1 :=
  ⟨le_max_left 0 _, max_le zero_le_one (min_le_left 1 value)⟩

theorem severityWeight_mem : 25 ≤ reading.severityWeight ∧ reading.severityWeight ≤ 35 := by
  unfold severityWeight
  split_ifs <;> norm_num

theorem clampedRisk_mem : (0 : ℚ) ≤ (max 0 (min 100 reading.predictiveRisk) : ℤ) ∧
      ((max 0 (min 100 reading.predictiveRisk) : ℤ) : ℚ) ≤ 100 := by
  constructor
  · exact_mod_cast le_max_left 0 _
  · exact_mod_cast max_le (by norm_num) (min_le_left 100 _)

theorem scoreValue_mem : ((0 : ℤ) : ℚ) ≤ reading.scoreValue signal ∧
      reading.scoreValue signal ≤ (100 : ℤ) := by
  obtain ⟨weightLow, weightHigh⟩ := reading.severityWeight_mem
  obtain ⟨signalLow, signalHigh⟩ := clampUnit_mem signal
  obtain ⟨trustLow, trustHigh⟩ := clampUnit_mem reading.predictiveConfidence
  obtain ⟨riskLow, riskHigh⟩ := reading.clampedRisk_mem
  unfold scoreValue
  constructor <;> push_cast at riskLow riskHigh ⊢ <;> linarith

theorem confidenceValue_mem : ((0 : ℤ) : ℚ) ≤ reading.confidenceValue signal ∧
      reading.confidenceValue signal ≤ (100 : ℤ) := by
  obtain ⟨signalLow, signalHigh⟩ := clampUnit_mem signal
  obtain ⟨trustLow, trustHigh⟩ := clampUnit_mem reading.predictiveConfidence
  unfold confidenceValue
  constructor <;> push_cast <;> linarith

theorem clamp_percent {value : ℤ} (bounds : 0 ≤ value ∧ value ≤ 100) :
    max 0 (min 100 value) = value := by
  omega

theorem priorityScore_roundHalfEven : reading.priorityScore roundHalfEven signal =
      roundHalfEven (reading.scoreValue signal) := by
  obtain ⟨low, high⟩ := reading.scoreValue_mem signal
  exact clamp_percent (roundHalfEven_bounds low high)

theorem priorityScore_round : reading.priorityScore round signal =
      round (reading.scoreValue signal) := by
  obtain ⟨low, high⟩ := reading.scoreValue_mem signal
  exact clamp_percent (round_bounds low high)

theorem confidence_roundHalfEven : reading.confidence roundHalfEven signal =
      roundHalfEven (reading.confidenceValue signal) := by
  obtain ⟨low, high⟩ := reading.confidenceValue_mem signal
  exact clamp_percent (roundHalfEven_bounds low high)

theorem confidence_round : reading.confidence round signal =
      round (reading.confidenceValue signal) := by
  obtain ⟨low, high⟩ := reading.confidenceValue_mem signal
  exact clamp_percent (round_bounds low high)

theorem rankedRecommendations_compared (rounding : ℚ → ℤ) :
    (reading.rankedRecommendations rounding).map Recommendation.compared =
      (reading.findings.map fun finding =>
        (reading.recommend rounding finding).compared).insertionSort
          fun first second => second.priorityScore ≤ first.priorityScore := by
  unfold rankedRecommendations
  rw [List.map_insertionSort _ (fun first second : ComparedRecommendation =>
    second.priorityScore ≤ first.priorityScore)]
  · rw [List.map_map]
    rfl
  · intros
    exact Iff.rfl

/-- No raised signal is scored at a tie that the roundings settle
differently. -/
def TieFree : Prop :=
  ∀ signal, reading.Raises signal → ¬ LowEvenTie (reading.scoreValue signal) ∧
      ¬ LowEvenTie (reading.confidenceValue signal)

end IncidentReading

structure SameRules (first second : IncidentReading) : Prop where
  severity : first.severity = second.severity
  escalation : first.escalation = second.escalation
  actions : first.actions = second.actions
  findings : first.findings = second.findings
  score : ∀ signal, first.scoreValue signal = second.scoreValue signal
  confidence : ∀ signal, first.confidenceValue signal = second.confidenceValue signal

namespace SameRules

variable {first second : IncidentReading}

theorem recommend_compared (same : SameRules first second)
    (tieFree : first.TieFree) {finding : Finding} (member : finding ∈ first.findings) :
    (first.recommend roundHalfEven finding).compared =
      (second.recommend round finding).compared := by
  obtain ⟨scoreTie, confidenceTie⟩ := tieFree finding.signal
    ((first.raises_iff finding.signal).mpr ⟨finding, member, rfl⟩)
  have score : first.priorityScore roundHalfEven finding.signal =
        second.priorityScore round finding.signal := by
    rw [first.priorityScore_roundHalfEven, second.priorityScore_round, ← same.score]
    exact (roundHalfEven_eq_round_iff _).mpr scoreTie
  have confidence : first.confidence roundHalfEven finding.signal =
        second.confidence round finding.signal := by
    rw [first.confidence_roundHalfEven, second.confidence_round, ← same.confidence]
    exact (roundHalfEven_eq_round_iff _).mpr confidenceTie
  simp [Recommendation.compared, IncidentReading.recommend, score, confidence,
    IncidentReading.urgency, same.severity]

theorem samePlan (same : SameRules first second)
    (tieFree : first.TieFree) (engine engine' : String) : SamePlan (first.plan engine roundHalfEven)
      (second.plan engine' round) := by
  have ranked : (first.rankedRecommendations roundHalfEven).map
          Recommendation.compared = (second.rankedRecommendations round).map
          Recommendation.compared := by
    rw [first.rankedRecommendations_compared,
      second.rankedRecommendations_compared, ← same.findings]
    congr 1
    apply List.map_congr_left
    intro finding member
    exact same.recommend_compared tieFree member
  have recommendations := congrArg (List.map ComparedRecommendation.action) ranked
  simp only [List.map_map] at recommendations
  exact
    { planVersion := rfl
      escalation := same.escalation
      actions := same.actions
      recommendations := recommendations
      ranked := ranked }

end SameRules

theorem SamePlan.exists_finding {first second : IncidentReading}
    {engine engine' : String} {rounding rounding' : ℚ → ℤ}
    (same : SamePlan (first.plan engine rounding) (second.plan engine' rounding'))
    {finding : Finding} (member : finding ∈ first.findings) : ∃ other ∈ second.findings,
      (second.recommend rounding' other).compared =
        (first.recommend rounding finding).compared := by
  have ranked := same.ranked
  simp only [IncidentReading.plan] at ranked
  rw [first.rankedRecommendations_compared, second.rankedRecommendations_compared] at ranked
  have listed : (first.recommend rounding finding).compared ∈ (first.findings.map fun finding =>
        (first.recommend rounding finding).compared).insertionSort fun first second =>
            second.priorityScore ≤ first.priorityScore := by
    rw [List.mem_insertionSort]
    exact List.mem_map_of_mem member
  rw [ranked, List.mem_insertionSort, List.mem_map] at listed
  exact listed

theorem javaInt_of_nonneg {value : ℤ} (nonneg : 0 ≤ value)
    (small : value < 2 ^ 31) : javaInt value = value :=
  if_pos ⟨by omega, small⟩

theorem javaInt_of_large {value : ℤ} (large : 2 ^ 31 ≤ value) : javaInt value = 0 :=
  if_neg (by omega)

theorem javaInt_nonpos {value : ℤ} (nonpos : value ≤ 0) : javaInt value ≤ 0 := by
  unfold javaInt
  split_ifs <;> omega

theorem clampedRisk_gap (value : ℤ) : (value < 2 ^ 31 ∧ max 0 (min 100 (max 0 (min 100 value))) =
          max 0 (min 100 (javaInt value))) ∨
      (2 ^ 31 ≤ value ∧ max 0 (min 100 (max 0 (min 100 value))) =
          max 0 (min 100 (javaInt value)) + 100) := by
  rcases lt_or_ge value (2 ^ 31) with small | large
  · refine .inl ⟨small, ?_⟩
    rcases le_or_gt 0 value with nonneg | negative
    · rw [javaInt_of_nonneg nonneg small]
      omega
    · have nonpos := javaInt_nonpos (le_of_lt negative)
      omega
  · refine .inr ⟨large, ?_⟩
    rw [javaInt_of_large large]
    omega

def ReadableConfidence (value : Option Double) : Prop := value ≠ some .nan ∧ value ≠ some .posInf

theorem confidence_gap (value : Option Double) : (ReadableConfidence value ∧
        pythonConfidence value = javaConfidence value) ∨
      (¬ ReadableConfidence value ∧ pythonConfidence value = 1 ∧ javaConfidence value = 0) := by
  unfold ReadableConfidence
  cases value with
  | none => exact .inl ⟨by simp, rfl⟩
  | some value =>
    cases value with
    | finite value => exact .inl ⟨by simp, rfl⟩
    | negInf => exact .inl ⟨by simp, rfl⟩
    | posInf => exact .inr ⟨by simp, rfl, rfl⟩
    | nan => exact .inr ⟨by simp, rfl, rfl⟩

section Payloads

variable (pythonLower javaLower : PyStr → PyStr) (payload : IncidentPayload)

structure PlansCoincide : Prop where
  severity : pythonSeverity pythonLower payload = javaSeverity javaLower payload
  health : payload.notificationSuppressed = true ∨
      pythonSeverity pythonLower payload = some .critical ∨
      (pythonLower (pythonStrip (strOrEmpty payload.healthStatus)) = pyStr "critical" ↔
        javaLower (javaTrim (strOrEmpty payload.healthStatus)) = pyStr "critical")
  storage : payload.storageWarningCount < 2 ^ 31
  risk : payload.predictiveRiskScore < 2 ^ 31
  confidence : ReadableConfidence payload.predictiveConfidence
  tieFree : ∀ severity, pythonSeverity pythonLower payload = some severity →
      (pythonReading pythonLower payload severity).TieFree

variable {pythonLower javaLower payload}

theorem plan_of_python_accepted {plan : WorkflowPlan}
    (accepted : pythonHardwareWorkflowPlan pythonLower payload = .ok plan) :
    ∃ severity, pythonSeverity pythonLower payload = some severity ∧
      plan = (pythonReading pythonLower payload severity).plan "python-fallback" roundHalfEven := by
  unfold pythonHardwareWorkflowPlan at accepted
  cases read : pythonSeverity pythonLower payload with
  | none => simp [read] at accepted
  | some severity =>
    simp only [read] at accepted
    split at accepted
    · cases accepted
    · cases accepted
      exact ⟨severity, rfl, rfl⟩

theorem plan_of_java_accepted {plan : WorkflowPlan}
    (accepted : planHardwareIncident javaLower payload = .ok plan) :
    ∃ severity, javaSeverity javaLower payload = some severity ∧
      plan = (javaReading javaLower payload severity).plan "java" round := by
  unfold planHardwareIncident at accepted
  cases read : javaSeverity javaLower payload with
  | none => simp [read] at accepted
  | some severity =>
    simp only [read] at accepted
    split at accepted
    · cases accepted
    · cases accepted
      exact ⟨severity, rfl, rfl⟩

variable {severity severity' : Severity}

theorem storageFinding_eq (small : payload.storageWarningCount < 2 ^ 31) :
    (pythonReading pythonLower payload severity).storageFinding =
      (javaReading javaLower payload severity').storageFinding := by
  rcases lt_or_ge 0 payload.storageWarningCount with warned | quiet
  · have same : (javaReading javaLower payload severity').storageWarnings =
          (pythonReading pythonLower payload severity).storageWarnings :=
      javaInt_of_nonneg (le_of_lt warned) small
    unfold IncidentReading.storageFinding
      IncidentReading.storageWarningFinding IncidentReading.storageSignal
    rw [same]
  · have quiet' : (javaReading javaLower payload severity').storageWarnings ≤ 0 :=
      javaInt_nonpos quiet
    unfold IncidentReading.storageFinding
    rw [if_neg (not_lt_of_ge quiet'), if_neg]
    exact not_lt_of_ge quiet

theorem measuredFindings_eq (small : payload.storageWarningCount < 2 ^ 31) :
    (pythonReading pythonLower payload severity).measuredFindings =
      (javaReading javaLower payload severity').measuredFindings := by
  unfold IncidentReading.measuredFindings
  rw [storageFinding_eq small]
  rfl

theorem signalOf_eq (small : payload.storageWarningCount < 2 ^ 31) {finding : Finding} (member :
      finding ∈ (pythonReading pythonLower payload severity).findings) :
    (javaReading javaLower payload severity').signalOf finding.action = finding.signal := by
  rw [IncidentReading.signal_eq_signalOf _ member]
  cases action : finding.action with
  | inspectSmartNvmeAndPrepareStorageReplacement =>
    have warned : 0 < payload.storageWarningCount :=
      IncidentReading.warned_of_storage_action _ member action
    have same : (javaReading javaLower payload severity').storageWarnings =
          (pythonReading pythonLower payload severity).storageWarnings :=
      javaInt_of_nonneg (le_of_lt warned) small
    unfold IncidentReading.signalOf IncidentReading.storageSignal
    rw [same]
  | _ => rfl

theorem healthCritical_eq (health : pythonLower (pythonStrip (strOrEmpty payload.healthStatus)) =
          pyStr "critical" ↔
        javaLower (javaTrim (strOrEmpty payload.healthStatus)) = pyStr "critical") :
    (pythonReading pythonLower payload severity).healthCritical =
      (javaReading javaLower payload severity').healthCritical :=
  decide_eq_decide.mpr health

theorem PlansCoincide.critical (coincide : PlansCoincide pythonLower javaLower payload)
    (read : pythonSeverity pythonLower payload = some severity) :
    payload.notificationSuppressed = true ∨ (pythonReading pythonLower payload severity).critical =
        (javaReading javaLower payload severity).critical := by
  rcases coincide.health with suppressed | critical | health
  · exact .inl suppressed
  · right
    rw [read, Option.some.injEq] at critical
    simp [IncidentReading.critical, pythonReading, javaReading, critical]
  · right
    unfold IncidentReading.critical
    rw [healthCritical_eq health]
    rfl

variable (first second : IncidentReading)

theorem shown_eq
    (suppressed : first.suppressed = second.suppressed) (critical : first.suppressed = true ∨
      first.critical = second.critical) :
    first.escalation = second.escalation ∧ first.actions = second.actions ∧
      first.drainFinding = second.drainFinding := by
  unfold IncidentReading.escalation IncidentReading.actions IncidentReading.drainFinding
  rw [← suppressed]
  rcases critical with silent | critical
  · simp [silent]
  · simp [critical]

theorem critical_of_escalation (suppressed : first.suppressed = second.suppressed)
    (escalation : first.escalation = second.escalation) :
    first.suppressed = true ∨ first.critical = second.critical := by
  unfold IncidentReading.escalation at escalation
  rw [← suppressed] at escalation
  cases silent : first.suppressed with
  | true => exact .inl rfl
  | false =>
    right
    cases critical : first.critical <;>
      cases critical' : second.critical <;>
      simp [silent, critical, critical'] at escalation ⊢

theorem values_eq (risk : payload.predictiveRiskScore < 2 ^ 31)
    (confidence : ReadableConfidence payload.predictiveConfidence) (signal : ℚ) :
    (pythonReading pythonLower payload severity).scoreValue signal =
        (javaReading javaLower payload severity).scoreValue signal ∧
      (pythonReading pythonLower payload severity).confidenceValue signal =
        (javaReading javaLower payload severity).confidenceValue signal := by
  have trust : pythonConfidence payload.predictiveConfidence =
        javaConfidence payload.predictiveConfidence := by
    rcases confidence_gap payload.predictiveConfidence with
      ⟨-, same⟩ | ⟨unreadable, -⟩
    · exact same
    · exact absurd confidence unreadable
  have clamped : max 0 (min 100 (max 0 (min 100 payload.predictiveRiskScore))) =
        max 0 (min 100 (javaInt payload.predictiveRiskScore)) := by
    rcases clampedRisk_gap payload.predictiveRiskScore with
      ⟨-, same⟩ | ⟨large, -⟩
    · exact same
    · exact absurd risk (not_lt_of_ge large)
  constructor
  · simp only [IncidentReading.scoreValue, IncidentReading.severityWeight,
      pythonReading, javaReading, trust, clamped]
    rfl
  · simp only [IncidentReading.confidenceValue, pythonReading, javaReading, trust]

theorem PlansCoincide.sameRules (coincide : PlansCoincide pythonLower javaLower payload)
    (read : pythonSeverity pythonLower payload = some severity) :
    SameRules (pythonReading pythonLower payload severity)
      (javaReading javaLower payload severity) := by
  obtain ⟨escalation, actions, drain⟩ :=
    shown_eq (pythonReading pythonLower payload severity)
      (javaReading javaLower payload severity) rfl (coincide.critical read)
  refine
    { severity := rfl
      escalation := escalation
      actions := actions
      findings := ?_
      score := fun signal =>
        (values_eq coincide.risk coincide.confidence signal).1
      confidence := fun signal =>
        (values_eq coincide.risk coincide.confidence signal).2 }
  unfold IncidentReading.findings
  rw [measuredFindings_eq coincide.storage, drain]
  rfl

theorem severityWeight_gap : first.severity = second.severity ∧
        first.severityWeight = second.severityWeight ∨
      first.severityWeight = second.severityWeight + 10 ∨
      second.severityWeight = first.severityWeight + 10 := by
  have light : (25 : ℚ) + 10 = 35 := by norm_num
  unfold IncidentReading.severityWeight
  cases first.severity with
  | high =>
    cases second.severity with
    | high => exact .inl ⟨rfl, rfl⟩
    | critical => exact .inr (.inr light.symm)
  | critical =>
    cases second.severity with
    | high => exact .inr (.inl light.symm)
    | critical => exact .inl ⟨rfl, rfl⟩

theorem clampUnit_confidence_gap (value : Option Double) : (ReadableConfidence value ∧
        IncidentReading.clampUnit (pythonConfidence value) =
          IncidentReading.clampUnit (javaConfidence value)) ∨
      (¬ ReadableConfidence value ∧ IncidentReading.clampUnit (pythonConfidence value) =
          IncidentReading.clampUnit (javaConfidence value) + 1) := by
  rcases confidence_gap value with ⟨readable, same⟩ | ⟨unreadable, one, zero⟩
  · exact .inl ⟨readable, by rw [same]⟩
  · refine .inr ⟨unreadable, ?_⟩
    rw [one, zero]
    norm_num [IncidentReading.clampUnit]

/-- Weights, confidences and risks that differ move a score by more than
the roundings can hide. -/
theorem scoreValue_gap {signal : ℚ} (close :
      |(pythonReading pythonLower payload severity).scoreValue signal -
        (javaReading javaLower payload severity').scoreValue signal| ≤ 1) :
    severity = severity' ∧ payload.predictiveRiskScore < 2 ^ 31 ∧
      ReadableConfidence payload.predictiveConfidence := by
  have weight : severity = severity' ∧ _ = _ ∨ _ :=
    severityWeight_gap (pythonReading pythonLower payload severity)
      (javaReading javaLower payload severity')
  have confidence := clampUnit_confidence_gap payload.predictiveConfidence
  have risk := clampedRisk_gap payload.predictiveRiskScore
  rw [abs_le] at close
  obtain ⟨low, high⟩ := close
  simp only [IncidentReading.scoreValue] at low high
  -- a weight counts 10, a confidence 20 and a risk 15: no sum cancels
  rcases weight with ⟨severities, weight⟩ | weight | weight <;>
    rcases confidence with ⟨readable, trust⟩ | ⟨-, trust⟩ <;>
    rcases risk with ⟨small, risk⟩ | ⟨-, risk⟩ <;>
    simp only [pythonReading, javaReading] at low high weight <;>
    rw [trust, risk] at low high <;>
    push_cast at low high <;>
    first
    | exact ⟨severities, small, readable⟩
    | exfalso; linarith

variable (same : SamePlan ((pythonReading pythonLower payload severity).plan "python-fallback"
      roundHalfEven)
    ((javaReading javaLower payload severity').plan "java" round))

include same

theorem storage_of_samePlan : payload.storageWarningCount < 2 ^ 31 := by
  by_contra notSmall
  have large : 2 ^ 31 ≤ payload.storageWarningCount := not_lt.mp notSmall
  set reading := pythonReading pythonLower payload severity
  have warned : 0 < reading.storageWarnings := lt_of_lt_of_le (by norm_num) large
  have member : reading.storageWarningFinding ∈ reading.findings :=
    reading.mem_findings.mpr (.inl (reading.mem_measuredFindings.mpr (.inr (.inr (.inr (.inr
        (reading.mem_storageFinding.mpr ⟨warned, rfl⟩)))))))
  obtain ⟨other, otherMember, compared⟩ := same.exists_finding member
  have action := congrArg ComparedRecommendation.action compared
  have warned' : 0 < javaInt payload.storageWarningCount :=
    IncidentReading.warned_of_storage_action _ otherMember action
  rw [javaInt_of_large large] at warned'
  exact lt_irrefl 0 warned'

theorem figures_of_samePlan {finding : Finding} (member :
      finding ∈ (pythonReading pythonLower payload severity).findings) :
    roundHalfEven ((pythonReading pythonLower payload severity).scoreValue finding.signal) =
        round ((javaReading javaLower payload severity').scoreValue finding.signal) ∧
      roundHalfEven ((pythonReading pythonLower payload severity).confidenceValue finding.signal) =
        round ((javaReading javaLower payload severity').confidenceValue finding.signal) := by
  obtain ⟨other, otherMember, compared⟩ := same.exists_finding member
  have action : other.action = finding.action := congrArg ComparedRecommendation.action compared
  have signal : other.signal = finding.signal := by
    rw [IncidentReading.signal_eq_signalOf _ otherMember, action]
    exact signalOf_eq (storage_of_samePlan same) member
  have score := congrArg ComparedRecommendation.priorityScore compared
  have confidence := congrArg ComparedRecommendation.confidencePercent compared
  simp only [Recommendation.compared, IncidentReading.recommend, signal,
    IncidentReading.priorityScore_round, IncidentReading.priorityScore_roundHalfEven,
    IncidentReading.confidence_round, IncidentReading.confidence_roundHalfEven] at score confidence
  exact ⟨score.symm, confidence.symm⟩

theorem rules_of_samePlan : severity = severity' ∧ payload.predictiveRiskScore < 2 ^ 31 ∧
      ReadableConfidence payload.predictiveConfidence := by
  obtain ⟨finding, member⟩ := List.exists_mem_of_ne_nil _
    (pythonReading pythonLower payload severity).findings_ne_nil
  obtain ⟨score, -⟩ := figures_of_samePlan same member
  exact scoreValue_gap (abs_sub_le_one score)

theorem plansCoincide_of_samePlan (read : pythonSeverity pythonLower payload = some severity)
    (read' : javaSeverity javaLower payload = some severity') :
    PlansCoincide pythonLower javaLower payload := by
  obtain ⟨severities, risk, confidence⟩ := rules_of_samePlan same
  subst severities
  have health := critical_of_escalation (pythonReading pythonLower payload severity)
    (javaReading javaLower payload severity) rfl same.escalation
  refine
    { severity := read.trans read'.symm
      health := ?_
      storage := storage_of_samePlan same
      risk := risk
      confidence := confidence
      tieFree := ?_ }
  · rcases health with suppressed | critical
    · exact .inl suppressed
    · right
      rw [read]
      cases severity with
      | critical => exact .inl rfl
      | high =>
        right
        simpa [IncidentReading.critical, pythonReading, javaReading] using critical
  · intro severity' readSeverity signal raised
    rw [read, Option.some.injEq] at readSeverity
    subst readSeverity
    obtain ⟨finding, member, rfl⟩ :=
      (IncidentReading.raises_iff _ signal).mp raised
    obtain ⟨score, percentage⟩ := figures_of_samePlan same member
    obtain ⟨scores, percentages⟩ :=
      values_eq risk confidence finding.signal
    rw [← scores, roundHalfEven_eq_round_iff] at score
    rw [← percentages, roundHalfEven_eq_round_iff] at percentage
    exact ⟨score, percentage⟩

omit same

/-- The two engines plan an incident alike exactly when they read its texts,
counts and confidence alike and no figure is a low even tie. -/
theorem planHardwareIncident_samePlan_iff
    (pythonLower javaLower : PyStr → PyStr) (payload : IncidentPayload)
    (pythonPlan javaPlan : WorkflowPlan) (pythonAccepted :
      pythonHardwareWorkflowPlan pythonLower payload = .ok pythonPlan)
    (javaAccepted : planHardwareIncident javaLower payload = .ok javaPlan) :
    SamePlan pythonPlan javaPlan ↔ PlansCoincide pythonLower javaLower payload := by
  obtain ⟨severity, read, rfl⟩ := plan_of_python_accepted pythonAccepted
  obtain ⟨severity', read', rfl⟩ := plan_of_java_accepted javaAccepted
  constructor
  · intro same
    exact plansCoincide_of_samePlan same read read'
  · intro coincide
    have severities : severity = severity' := by
      have both := coincide.severity
      rw [read, read'] at both
      exact Option.some.inj both
    subst severities
    exact (coincide.sameRules read).samePlan
      (coincide.tieFree severity read) "python-fallback" "java"

end Payloads

def tiedIncident : IncidentPayload where
  severity := some (pyStr "high")
  healthStatus := some (pyStr "warning")
  predictiveState := some (pyStr "degrading")
  notificationSuppressed := false
  predictiveRiskScore := 20

theorem tiedIncident_pythonSeverity : pythonSeverity asciiLower tiedIncident = some .high := by
  decide

theorem tiedIncident_javaSeverity : javaSeverity asciiLower tiedIncident = some .high := by decide

theorem tiedIncident_python_accepted : pythonHardwareWorkflowPlan asciiLower tiedIncident =
      .ok ((pythonReading asciiLower tiedIncident .high).plan "python-fallback" roundHalfEven) := by
  have health : asciiLower (pythonStrip (strOrEmpty tiedIncident.healthStatus)) ≠ [] := by decide
  have prediction : asciiLower (pythonStrip (strOrEmpty tiedIncident.predictiveState)) ≠ [] := by
    decide
  simp [pythonHardwareWorkflowPlan, tiedIncident_pythonSeverity, health, prediction]

theorem tiedIncident_java_accepted : planHardwareIncident asciiLower tiedIncident =
      .ok ((javaReading asciiLower tiedIncident .high).plan "java" round) := by
  have health : isBlank (asciiLower (javaTrim (strOrEmpty tiedIncident.healthStatus))) = false := by
    decide
  have prediction : isBlank (asciiLower (javaTrim
        (strOrEmpty tiedIncident.predictiveState))) = false := by
    decide
  simp [planHardwareIncident, tiedIncident_javaSeverity, health, prediction]

theorem planHardwareIncident_samePlan_iff_tied : SamePlan
        ((pythonReading asciiLower tiedIncident .high).plan "python-fallback" roundHalfEven)
        ((javaReading asciiLower tiedIncident .high).plan "java" round) ↔
      PlansCoincide asciiLower asciiLower tiedIncident :=
  planHardwareIncident_samePlan_iff asciiLower asciiLower tiedIncident _ _
    tiedIncident_python_accepted tiedIncident_java_accepted

/-- Its drain review scores 44.5, which Python takes to 44 and Java to 45. -/
theorem tiedIncident_plans_differ : ∃ pythonPlan javaPlan,
      pythonHardwareWorkflowPlan asciiLower tiedIncident = .ok pythonPlan ∧
        planHardwareIncident asciiLower tiedIncident = .ok javaPlan ∧
        ¬ SamePlan pythonPlan javaPlan := by
  refine ⟨_, _, tiedIncident_python_accepted, tiedIncident_java_accepted, ?_⟩
  intro same
  have coincide := plansCoincide_of_samePlan same
    tiedIncident_pythonSeverity tiedIncident_javaSeverity
  have raised : (pythonReading asciiLower tiedIncident .high).Raises (55 / 100) :=
    .review rfl (by decide)
  apply (coincide.tieFree .high tiedIncident_pythonSeverity _ raised).1
  have weight : (pythonReading asciiLower tiedIncident .high).severityWeight = 25 := rfl
  refine ⟨22, ?_⟩
  rw [IncidentReading.scoreValue, weight]
  norm_num [pythonReading, IncidentReading.clampUnit, tiedIncident, pythonConfidence]

end Ithute
