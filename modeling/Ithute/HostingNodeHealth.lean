import Ithute.Library.FoldInvariants
import Ithute.Library.Streaks
import Mathlib.Algebra.Group.Int.Defs
import Mathlib.Data.Int.Order.Basic

/-!
# Hosting node health

`reconcile_node_health` evaluates a node, keeps the time since which its
verdict has not changed, and drains or activates the node once that time is
long enough.  Times are microseconds and durations are exact.
-/

namespace Ithute

open Streaks

inductive HostingNodeStatus where
  | active | draining | offline
  deriving DecidableEq

structure HostingNode where
  status : HostingNodeStatus
  acceptsNewProjects : Bool

inductive NodeHealthStatus where
  | unknown | healthy | unhealthy
  deriving DecidableEq

/-- What is written to `last_transition`. -/
inductive NodeTransition where
  | autoActivated | autoRecovered | autoDrained
  | manualHold | manualActivated | automationEnabled
  | bootstrapStarted | bootstrapExchanged
  deriving DecidableEq

structure HostingNodeHealthState where
  automationEnabled : Bool
  healthStatus : NodeHealthStatus := .unknown
  healthySince : Option ℤ := none
  unhealthySince : Option ℤ := none
  lastEvaluatedAt : Option ℤ := none
  lastTransition : Option NodeTransition := none
  lastTransitionAt : Option ℤ := none
  lastReason : Option String := none

structure NodeChecks where
  hostingAgentOnline : Bool
  serverAgentOnline : Bool
  infrastructureLinked : Bool
  infrastructureActive : Bool
  privateOriginConfigured : Bool
  managedNetworkConnected : Bool
  dockerReady : Bool
  diskSafe : Bool
  staleRetirementsCleared : Bool
  hardwareIntelligenceSafe : Bool

namespace NodeChecks

variable (checks : NodeChecks)

def entries : List (String × Bool) :=
  [("hosting_agent_online", checks.hostingAgentOnline),
    ("server_agent_online", checks.serverAgentOnline),
    ("infrastructure_linked", checks.infrastructureLinked),
    ("infrastructure_active", checks.infrastructureActive),
    ("private_origin_configured", checks.privateOriginConfigured),
    ("managed_network_connected", checks.managedNetworkConnected),
    ("docker_ready", checks.dockerReady), ("disk_safe", checks.diskSafe),
    ("stale_retirements_cleared", checks.staleRetirementsCleared),
    ("hardware_intelligence_safe", checks.hardwareIntelligenceSafe)]

def healthy : Bool := checks.entries.all Prod.snd

def reasons : List String := (checks.entries.filter fun entry => !entry.2).map Prod.fst

end NodeChecks

/-- One call of `reconcile_node_health`: its time and what it finds. -/
structure NodeEvaluation where
  now : ℤ
  checks : NodeChecks

def NodeEvaluation.healthy (evaluation : NodeEvaluation) : Bool := evaluation.checks.healthy

structure NodeHealthAudit where
  transition : NodeTransition
  forSeconds : ℤ
  reasons : List String
  checks : NodeChecks

/-- A node with its health row, if any, and the audit entries of its
automatic transitions. -/
structure HostedNode where
  node : HostingNode
  health : Option HostingNodeHealthState
  audits : List NodeHealthAudit

structure NodeHealthThresholds where
  autoActivateSeconds : ℤ := 120
  autoDrainSeconds : ℤ := 60
  autoRecoverSeconds : ℤ := 180

def ensureHealthState (health : Option HostingNodeHealthState)
    (enable : Option Bool) (reset : Bool) : HostingNodeHealthState :=
  let state :=
    match health with
    | none => { automationEnabled := enable.getD true }
    | some state =>
      { state with
        automationEnabled := enable.getD state.automationEnabled }
  if reset then
    { state with
      healthStatus := .unknown
      healthySince := none
      unhealthySince := none
      lastEvaluatedAt := none
      lastReason := none }
  else state

/-- `(now - since).total_seconds() >= seconds`. -/
def elapsed (now since seconds : ℤ) : Bool := seconds * 10 ^ 6 ≤ now - since

/-- `int((now - since).total_seconds())`. -/
def wholeSeconds (now since : ℤ) : ℤ := (now - since).tdiv (10 ^ 6)

def noteHealthy (state : HostingNodeHealthState) (now : ℤ) : HostingNodeHealthState :=
  { state with
    lastEvaluatedAt := some now
    healthStatus := .healthy
    unhealthySince := none
    lastReason := none
    healthySince := some (state.healthySince.getD now) }

def noteUnhealthy (state : HostingNodeHealthState)
    (evaluation : NodeEvaluation) : HostingNodeHealthState :=
  { state with
    lastEvaluatedAt := some evaluation.now
    healthStatus := .unhealthy
    healthySince := none
    lastReason := some (", ".intercalate evaluation.checks.reasons)
    unhealthySince := some (state.unhealthySince.getD evaluation.now) }

def activateWhenDue (limits : NodeHealthThresholds) (hosted : HostedNode)
    (state : HostingNodeHealthState) (evaluation : NodeEvaluation) : HostedNode :=
  let drained := state.lastTransition = some .autoDrained
  let threshold :=
    if drained then limits.autoRecoverSeconds else limits.autoActivateSeconds
  let healthySince := state.healthySince.getD evaluation.now
  if state.automationEnabled ∧
      (hosted.node.status ≠ .active ∨ hosted.node.acceptsNewProjects = false) ∧
      elapsed evaluation.now healthySince threshold then
    let transition := if drained then .autoRecovered else .autoActivated
    { node := { status := .active, acceptsNewProjects := true }
      health := some
        { state with
          lastTransition := some transition
          lastTransitionAt := some evaluation.now }
      audits := hosted.audits ++
        [{ transition := transition
           forSeconds := wholeSeconds evaluation.now healthySince
           reasons := []
           checks := evaluation.checks }] }
  else { hosted with health := some state }

def drainWhenDue (limits : NodeHealthThresholds) (hosted : HostedNode)
    (state : HostingNodeHealthState) (evaluation : NodeEvaluation) : HostedNode :=
  let unhealthySince := state.unhealthySince.getD evaluation.now
  if state.automationEnabled ∧ hosted.node.status = .active ∧ hosted.node.acceptsNewProjects ∧
      elapsed evaluation.now unhealthySince limits.autoDrainSeconds then
    { node := { status := .draining, acceptsNewProjects := false }
      health := some
        { state with
          lastTransition := some .autoDrained
          lastTransitionAt := some evaluation.now }
      audits := hosted.audits ++
        [{ transition := .autoDrained
           forSeconds := wholeSeconds evaluation.now unhealthySince
           reasons := evaluation.checks.reasons
           checks := evaluation.checks }] }
  else { hosted with health := some state }

def reconcileNodeHealth (limits : NodeHealthThresholds) (hosted : HostedNode)
    (evaluation : NodeEvaluation) : HostedNode :=
  let state := ensureHealthState hosted.health none false
  if evaluation.healthy then
    activateWhenDue limits hosted (noteHealthy state evaluation.now) evaluation
  else
    drainWhenDue limits hosted (noteUnhealthy state evaluation) evaluation

def reconcileAll (limits : NodeHealthThresholds) (hosted : HostedNode)
    (evaluations : List NodeEvaluation) : HostedNode :=
  evaluations.foldl (reconcileNodeHealth limits) hosted

def verdictStart (verdict : Bool) (history : List NodeEvaluation) : Option ℤ :=
  streakStart (fun evaluation => evaluation.healthy == verdict) NodeEvaluation.now history

/-- The timers of a row hold the starts of the two streaks at the end of a
history. -/
def TimersFollow (history : List NodeEvaluation) (hosted : HostedNode) : Prop :=
  hosted.health.bind HostingNodeHealthState.healthySince = verdictStart true history ∧
    hosted.health.bind HostingNodeHealthState.unhealthySince = verdictStart false history

def TimersClear (hosted : HostedNode) : Prop :=
  hosted.health.bind HostingNodeHealthState.healthySince = none ∧
    hosted.health.bind HostingNodeHealthState.unhealthySince = none

variable {hosted : HostedNode}

theorem TimersClear.follow (clear : TimersClear hosted) : TimersFollow [] hosted := by
  obtain ⟨healthy, unhealthy⟩ := clear
  unfold TimersFollow verdictStart
  rw [streakStart_nil, streakStart_nil]
  exact ⟨healthy, unhealthy⟩

variable (limits : NodeHealthThresholds)

theorem activateWhenDue_cases
    (hosted : HostedNode) (state : HostingNodeHealthState) (evaluation : NodeEvaluation) :
    activateWhenDue limits hosted state evaluation =
        { hosted with health := some state } ∨
      ∃ transition threshold,
        (transition = .autoActivated ∧ threshold = limits.autoActivateSeconds ∨
          transition = .autoRecovered ∧ threshold = limits.autoRecoverSeconds) ∧
        elapsed evaluation.now (state.healthySince.getD evaluation.now)
          threshold = true ∧ activateWhenDue limits hosted state evaluation =
          { node := { status := .active, acceptsNewProjects := true }
            health := some
              { state with
                lastTransition := some transition
                lastTransitionAt := some evaluation.now }
            audits := hosted.audits ++
              [{ transition := transition
                 forSeconds := wholeSeconds evaluation.now
                  (state.healthySince.getD evaluation.now)
                 reasons := []
                 checks := evaluation.checks }] } := by
  unfold activateWhenDue
  by_cases drained : state.lastTransition = some .autoDrained
  · simp only [drained, if_true]
    split_ifs with due
    · exact .inr ⟨_, _, .inr ⟨rfl, rfl⟩, due.2.2, rfl⟩
    · exact .inl rfl
  · simp only [drained, if_false]
    split_ifs with due
    · exact .inr ⟨_, _, .inl ⟨rfl, rfl⟩, due.2.2, rfl⟩
    · exact .inl rfl

theorem drainWhenDue_cases
    (hosted : HostedNode) (state : HostingNodeHealthState) (evaluation : NodeEvaluation) :
    drainWhenDue limits hosted state evaluation =
        { hosted with health := some state } ∨
      elapsed evaluation.now (state.unhealthySince.getD evaluation.now)
          limits.autoDrainSeconds = true ∧ drainWhenDue limits hosted state evaluation =
          { node := { status := .draining, acceptsNewProjects := false }
            health := some
              { state with
                lastTransition := some .autoDrained
                lastTransitionAt := some evaluation.now }
            audits := hosted.audits ++
              [{ transition := .autoDrained
                 forSeconds := wholeSeconds evaluation.now
                  (state.unhealthySince.getD evaluation.now)
                 reasons := evaluation.checks.reasons
                 checks := evaluation.checks }] } := by
  unfold drainWhenDue
  simp only
  split_ifs with due
  · exact .inr ⟨due.2.2.2, rfl⟩
  · exact .inl rfl

theorem activateWhenDue_timers
    (hosted : HostedNode) (state : HostingNodeHealthState) (evaluation : NodeEvaluation) :
    let after := activateWhenDue limits hosted state evaluation
    after.health.bind HostingNodeHealthState.healthySince = state.healthySince ∧
      after.health.bind HostingNodeHealthState.unhealthySince = state.unhealthySince := by
  intro after
  rcases activateWhenDue_cases limits hosted state evaluation with
    same | ⟨transition, threshold, -, -, same⟩
  · simp [after, same]
  · simp [after, same]

theorem drainWhenDue_timers
    (hosted : HostedNode) (state : HostingNodeHealthState) (evaluation : NodeEvaluation) :
    let after := drainWhenDue limits hosted state evaluation
    after.health.bind HostingNodeHealthState.healthySince = state.healthySince ∧
      after.health.bind HostingNodeHealthState.unhealthySince = state.unhealthySince := by
  intro after
  rcases drainWhenDue_cases limits hosted state evaluation with
    same | ⟨-, same⟩
  · simp [after, same]
  · simp [after, same]

@[simp]
theorem ensureHealthState_transition (health : Option HostingNodeHealthState) :
    (ensureHealthState health none false).lastTransition =
        health.bind HostingNodeHealthState.lastTransition ∧
      (ensureHealthState health none false).lastTransitionAt =
        health.bind HostingNodeHealthState.lastTransitionAt := by
  cases health with
  | none => exact ⟨rfl, rfl⟩
  | some state => exact ⟨rfl, rfl⟩

theorem ensureHealthState_timers (health : Option HostingNodeHealthState) :
    (ensureHealthState health none false).healthySince =
        health.bind HostingNodeHealthState.healthySince ∧
      (ensureHealthState health none false).unhealthySince =
        health.bind HostingNodeHealthState.unhealthySince := by
  cases health with
  | none => exact ⟨rfl, rfl⟩
  | some state => exact ⟨rfl, rfl⟩

variable {verdict : Bool}

theorem verdictStart_concat_same (history : List NodeEvaluation)
    {evaluation : NodeEvaluation} (same : evaluation.healthy = verdict) :
    verdictStart verdict (history ++ [evaluation]) =
      some ((verdictStart verdict history).getD evaluation.now) :=
  streakStart_concat_of_holds _ _ history (by simp [same])

theorem verdictStart_concat_other (history : List NodeEvaluation)
    {evaluation : NodeEvaluation} (other : evaluation.healthy = !verdict) :
    verdictStart verdict (history ++ [evaluation]) = none :=
  streakStart_concat_of_fails _ _ history (by simp [other])

variable {history : List NodeEvaluation}

theorem reconcileNodeHealth_follows
    (follow : TimersFollow history hosted) (evaluation : NodeEvaluation) :
    TimersFollow (history ++ [evaluation]) (reconcileNodeHealth limits hosted evaluation) := by
  obtain ⟨healthyFollow, unhealthyFollow⟩ := follow
  obtain ⟨healthyRow, unhealthyRow⟩ := ensureHealthState_timers hosted.health
  unfold reconcileNodeHealth TimersFollow
  cases verdict : evaluation.healthy with
  | true =>
    obtain ⟨healthy, unhealthy⟩ := activateWhenDue_timers limits hosted
      (noteHealthy (ensureHealthState hosted.health none false) evaluation.now) evaluation
    rw [if_pos rfl, healthy, unhealthy, verdictStart_concat_same history verdict,
      verdictStart_concat_other history verdict]
    exact ⟨by rw [← healthyFollow, ← healthyRow]; rfl, rfl⟩
  | false =>
    obtain ⟨healthy, unhealthy⟩ := drainWhenDue_timers limits hosted
      (noteUnhealthy (ensureHealthState hosted.health none false) evaluation) evaluation
    rw [if_neg (by simp), healthy, unhealthy, verdictStart_concat_other history verdict,
      verdictStart_concat_same history verdict]
    exact ⟨rfl, by rw [← unhealthyFollow, ← unhealthyRow]; rfl⟩

theorem reconcileAll_follows (clear : TimersClear hosted) (evaluations : List NodeEvaluation) :
    TimersFollow evaluations (reconcileAll limits hosted evaluations) := by
  have preserved : ∀ history hosted evaluation, TimersFollow history hosted →
        TimersFollow (history ++ [evaluation]) (reconcileNodeHealth limits hosted evaluation) :=
    fun _ _ evaluation follow => reconcileNodeHealth_follows limits follow evaluation
  exact FoldInvariants.foldl_prefix preserved evaluations clear.follow

/-- All that a transition writes: the node, the last transition with its time
and the audit entries. -/
def HostedNode.standing (hosted : HostedNode) :
    HostingNode × Option NodeTransition × Option ℤ × List NodeHealthAudit :=
  (hosted.node, hosted.health.bind HostingNodeHealthState.lastTransition,
    hosted.health.bind HostingNodeHealthState.lastTransitionAt, hosted.audits)

/-- Something of the standing changes, and the row names the transition. -/
def TransitionsTo (before after : HostedNode) (transition : NodeTransition) : Prop :=
  after.standing ≠ before.standing ∧
    after.health.bind HostingNodeHealthState.lastTransition = some transition

/-- The node that an automatic transition leaves. -/
def NodeTransition.leaves : NodeTransition → HostingNode
  | .autoDrained => { status := .draining, acceptsNewProjects := false }
  | _ => { status := .active, acceptsNewProjects := true }

/-- The calls end with a streak of one verdict that began at least so many
seconds ago, and no other verdict was given within that time. -/
def LongStreak (verdict : Bool) (seconds : ℤ)
    (evaluations : List NodeEvaluation) (now : ℤ) : Prop :=
  (∃ earlier first rest, evaluations = earlier ++ first :: rest ∧
    first.now ≤ now - seconds * 10 ^ 6 ∧
    ∀ evaluation ∈ first :: rest, evaluation.healthy = verdict) ∧
  ∀ evaluation ∈ evaluations, now - seconds * 10 ^ 6 < evaluation.now → evaluation.healthy = verdict

structure StreakGuarantee (limits : NodeHealthThresholds)
    (before after : HostedNode) (evaluations : List NodeEvaluation)
    (last : NodeEvaluation) : Prop where
  notBoth : ∀ state, after.health = some state →
      state.healthySince = none ∨ state.unhealthySince = none
  evaluated : ∃ state, after.health = some state
  /-- The timer of the last verdict holds the time of the first call of the
  unbroken streak. -/
  timer : ∀ state, after.health = some state →
      ∃ earlier first rest, evaluations = earlier ++ first :: rest ∧
        (if last.healthy then state.healthySince else state.unhealthySince) = some first.now ∧
        (∀ evaluation ∈ first :: rest, evaluation.healthy = last.healthy) ∧
        ∀ previous ∈ earlier.getLast?, previous.healthy = !last.healthy
  /-- Nothing of the standing changes but by an automatic transition, which
  writes all of it. -/
  automatic : after.standing ≠ before.standing → ∃ transition entry,
      transition ∈ [.autoDrained, .autoActivated, .autoRecovered] ∧ entry.transition = transition ∧
      after.standing =
        (transition.leaves, some transition, some last.now, before.audits ++ [entry])
  drained : TransitionsTo before after .autoDrained →
      LongStreak false limits.autoDrainSeconds evaluations last.now
  activated : TransitionsTo before after .autoActivated →
      LongStreak true limits.autoActivateSeconds evaluations last.now
  recovered : TransitionsTo before after .autoRecovered →
      LongStreak true limits.autoRecoverSeconds evaluations last.now

theorem longStreak_of_elapsed {seconds now began : ℤ}
    {evaluations : List NodeEvaluation} (ordered : evaluations.Pairwise fun first second =>
      first.now ≤ second.now) (start : verdictStart verdict evaluations = some began)
    (due : elapsed now began seconds = true) : LongStreak verdict seconds evaluations now := by
  have long : seconds * 10 ^ 6 ≤ now - began := of_decide_eq_true due
  constructor
  · obtain ⟨earlier, first, rest, split, startTime, streak, -⟩ := exists_streak _ _ start
    refine ⟨earlier, first, rest, split, by omega, ?_⟩
    intro evaluation inside
    simpa using streak evaluation inside
  · intro evaluation member recent
    have inside := holds_of_streakStart_lt _ _ ordered start member
      (by omega : began < evaluation.now)
    simpa using inside

/-- The verdict and the seconds that an automatic transition needs. -/
def NodeHealthThresholds.requirement (limits : NodeHealthThresholds) :
    NodeTransition → Option (Bool × ℤ)
  | .autoActivated => some (true, limits.autoActivateSeconds)
  | .autoRecovered => some (true, limits.autoRecoverSeconds)
  | .autoDrained => some (false, limits.autoDrainSeconds)
  | _ => none

theorem NodeHealthThresholds.automatic_of_requirement {limits : NodeHealthThresholds}
    {transition : NodeTransition} {required : Bool × ℤ}
    (asks : limits.requirement transition = some required) :
    transition ∈ [NodeTransition.autoDrained, .autoActivated, .autoRecovered] := by
  cases transition <;> first | decide | cases asks

/-- A call leaves the standing or makes a transition whose requirement its
streak meets. -/
theorem reconcileNodeHealth_standing
    (follow : TimersFollow history hosted) (evaluation : NodeEvaluation) :
    let after := reconcileNodeHealth limits hosted evaluation
    after.standing = hosted.standing ∨
      ∃ transition entry verdict seconds began, entry.transition = transition ∧ after.standing =
          (transition.leaves, some transition, some evaluation.now, hosted.audits ++ [entry]) ∧
        limits.requirement transition = some (verdict, seconds) ∧
        verdictStart verdict (history ++ [evaluation]) = some began ∧
        elapsed evaluation.now began seconds = true := by
  intro after
  obtain ⟨healthyFollow, unhealthyFollow⟩ := follow
  obtain ⟨healthyRow, unhealthyRow⟩ := ensureHealthState_timers hosted.health
  cases verdict : evaluation.healthy with
  | true =>
    have branch : after = activateWhenDue limits hosted
        (noteHealthy (ensureHealthState hosted.health none false)
          evaluation.now) evaluation :=
      if_pos verdict
    have began := verdictStart_concat_same history verdict
    rw [← healthyFollow, ← healthyRow] at began
    rcases activateWhenDue_cases limits hosted _ evaluation with
      quiet | ⟨transition, threshold, kind, due, written⟩
    · left
      rw [branch, quiet]
      simp [HostedNode.standing, noteHealthy]
    · right
      rw [branch, written]
      rcases kind with ⟨rfl, rfl⟩ | ⟨rfl, rfl⟩
      · exact ⟨.autoActivated, _, true, _, _, rfl, rfl, rfl, began, due⟩
      · exact ⟨.autoRecovered, _, true, _, _, rfl, rfl, rfl, began, due⟩
  | false =>
    have branch : after = drainWhenDue limits hosted
        (noteUnhealthy (ensureHealthState hosted.health none false)
          evaluation) evaluation :=
      if_neg (by simp [verdict])
    have began := verdictStart_concat_same history verdict
    rw [← unhealthyFollow, ← unhealthyRow] at began
    rcases drainWhenDue_cases limits hosted _ evaluation with
      quiet | ⟨due, written⟩
    · left
      rw [branch, quiet]
      simp [HostedNode.standing, noteUnhealthy]
    · right
      rw [branch, written]
      exact ⟨.autoDrained, _, false, _, _, rfl, rfl, rfl, began, due⟩

theorem longStreak_of_transitionsTo
    (follow : TimersFollow history hosted) {evaluation : NodeEvaluation}
    (ordered : (history ++ [evaluation]).Pairwise fun first second => first.now ≤ second.now)
    {transition : NodeTransition} (transitions : TransitionsTo hosted
      (reconcileNodeHealth limits hosted evaluation) transition) {seconds : ℤ}
    (required : limits.requirement transition = some (verdict, seconds)) :
    LongStreak verdict seconds (history ++ [evaluation]) evaluation.now := by
  obtain ⟨changes, named⟩ := transitions
  rcases reconcileNodeHealth_standing limits follow evaluation with
    quiet | ⟨other, entry, verdict', seconds', began, -, written, met, start, due⟩
  · exact absurd quiet changes
  · have same : some other = some transition :=
      (congrArg (fun standing => standing.2.1) written).symm.trans named
    rw [Option.some.inj same, required, Option.some.injEq, Prod.mk.injEq] at met
    obtain ⟨rfl, rfl⟩ := met
    exact longStreak_of_elapsed ordered start due

theorem timer_of_follows {evaluations : List NodeEvaluation}
    (follow : TimersFollow evaluations hosted)
    {state : HostingNodeHealthState} (row : hosted.health = some state) (verdict : Bool) :
    (if verdict then state.healthySince else state.unhealthySince) =
      verdictStart verdict evaluations := by
  obtain ⟨healthy, unhealthy⟩ := follow
  rw [row] at healthy unhealthy
  cases verdict with
  | true => exact healthy
  | false => exact unhealthy

/-- Calls in order of time leave the timers at the starts of unbroken
streaks, and a transition needs a streak as long as its threshold. -/
theorem reconcileAll_streakGuarantee (limits : NodeHealthThresholds)
    (hosted : HostedNode) (clear : TimersClear hosted)
    (earlier : List NodeEvaluation) (last : NodeEvaluation)
    (ordered : (earlier ++ [last]).Pairwise fun first second =>
      first.now ≤ second.now) : StreakGuarantee limits (reconcileAll limits hosted earlier)
      (reconcileAll limits hosted (earlier ++ [last])) (earlier ++ [last])
      last := by
  have before := reconcileAll_follows limits clear earlier
  have after := reconcileAll_follows limits clear (earlier ++ [last])
  have lastCall : reconcileAll limits hosted (earlier ++ [last]) =
        reconcileNodeHealth limits (reconcileAll limits hosted earlier)
          last := by
    simp [reconcileAll]
  have same := verdictStart_concat_same earlier (rfl : last.healthy = _)
  refine
    { notBoth := ?_
      evaluated := ?_
      timer := ?_
      automatic := ?_
      drained := ?_
      activated := ?_
      recovered := ?_ }
  · intro state row
    have other : verdictStart (!last.healthy) (earlier ++ [last]) = none :=
      verdictStart_concat_other earlier (by simp)
    have timer := timer_of_follows after row (!last.healthy)
    rw [other] at timer
    cases verdict : last.healthy with
    | true => exact .inr (by simpa [verdict] using timer)
    | false => exact .inl (by simpa [verdict] using timer)
  · cases row : (reconcileAll limits hosted (earlier ++ [last])).health with
    | some state => exact ⟨state, rfl⟩
    | none =>
      obtain ⟨healthy, unhealthy⟩ := after
      rw [row] at healthy unhealthy
      cases verdict : last.healthy with
      | true =>
        rw [verdict, ← healthy] at same
        cases same
      | false =>
        rw [verdict, ← unhealthy] at same
        cases same
  · intro state row
    obtain ⟨before, first, rest, split, startTime, streak, broken⟩ :=
      exists_streak _ _ same
    refine ⟨before, first, rest, split, ?_, ?_, ?_⟩
    · rw [timer_of_follows after row, same, startTime]
    · intro evaluation inside
      simpa using streak evaluation inside
    · intro previous previousMem
      have differs := broken previous previousMem
      cases verdict : last.healthy <;> simpa [verdict] using differs
  · intro changes
    rw [lastCall] at changes ⊢
    rcases reconcileNodeHealth_standing limits before last with
      quiet | ⟨transition, entry, verdict, seconds, began, kind, written, met, -, -⟩
    · exact absurd quiet changes
    · exact ⟨transition, entry, limits.automatic_of_requirement met, kind, written⟩
  · intro transitions
    rw [lastCall] at transitions
    exact longStreak_of_transitionsTo limits before ordered transitions rfl
  · intro transitions
    rw [lastCall] at transitions
    exact longStreak_of_transitionsTo limits before ordered transitions rfl
  · intro transitions
    rw [lastCall] at transitions
    exact longStreak_of_transitionsTo limits before ordered transitions rfl

def unreachableChecks : NodeChecks where
  hostingAgentOnline := false
  serverAgentOnline := true
  infrastructureLinked := true
  infrastructureActive := true
  privateOriginConfigured := true
  managedNetworkConnected := true
  dockerReady := true
  diskSafe := true
  staleRetirementsCleared := true
  hardwareIntelligenceSafe := true

def activeNode : HostedNode where
  node := { status := .active, acceptsNewProjects := true }
  health := none
  audits := []

/-- Two failed evaluations a minute apart drain a node. -/
theorem reconcileAll_streakGuarantee_drain :
    let before := reconcileAll {} activeNode [⟨0, unreachableChecks⟩]
    let after := reconcileAll {} activeNode
      ([⟨0, unreachableChecks⟩] ++ [⟨60000000, unreachableChecks⟩])
    StreakGuarantee {} before after
        ([⟨0, unreachableChecks⟩] ++ [⟨60000000, unreachableChecks⟩])
        ⟨60000000, unreachableChecks⟩ ∧ TransitionsTo before after .autoDrained := by
  intro before after
  constructor
  · exact reconcileAll_streakGuarantee {} activeNode ⟨rfl, rfl⟩ _ _ (by decide)
  · exact ⟨fun same => absurd (congrArg (fun standing => standing.1.status) same) (by decide), rfl⟩

end Ithute
