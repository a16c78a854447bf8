import Ithute.HostingRolloutWrites
import Ithute.HostingSuspension
import Ithute.Library.SuccessiveRows

/-!
# One rollout at a time

A project has one active deployment and one active attempt at most, and its
release numbers increase, as long as no commit adds or activates a row while
another one is active.  The release numbers need no such condition: a number
that is taken by the time of the commit rolls it back.
-/

namespace Ithute

open RewrittenRows SuccessiveRows TransitionRuns UniqueRows

namespace HostingWorld

@[mk_iff]
structure OneRollout (tables : HostingWorld) (projectId : ℕ) : Prop where
  deployments : (tables.deployments.filter fun row =>
    row.projectId = projectId ∧ row.status.active).length ≤ 1
  attempts : (tables.attempts.filter fun row =>
    row.projectId = projectId ∧ row.status.active).length ≤ 1
  releases : ((tables.deployments.filter fun row =>
    row.projectId = projectId).map HostingDeployment.releaseNumber).Pairwise (· < ·)

end HostingWorld

namespace HostingSession

variable (session : HostingSession) (tables : HostingWorld)

def activates : List HostingFailoverAttempt :=
  match session.attempt with
  | none => []
  | some (.created row) => if row.status.active then [row] else []
  | some (.loaded before row) =>
    (session.supersede tables).filter fun stored =>
      stored.id = before.id ∧ stored.status.active = false ∧
        (AttemptEdit.update before row stored).status.active

/-- No other rollout of the project is active when the session adds one. -/
@[mk_iff]
structure Alone : Prop where
  deployment : ∀ added ∈ session.deployment, ∀ other ∈ session.settleClaim tables,
      other.projectId = added.projectId → other.status.active = false
  attempt : ∀ row ∈ session.activates tables, ∀ other ∈ session.supersede tables,
      other.projectId = row.projectId → other.id ≠ row.id → other.status.active = false

end HostingSession

def HostingState.CommitsAlone (before : HostingState) (move : HostingMove) : Prop :=
  match move with
  | .advance index =>
    ∀ session, before.calls[index]? = some (.committing session) →
      before.Commits session → session.Alone before.tables
  | _ => True

namespace HostingWorld

def Gapless (tables : HostingWorld) : Prop :=
  ∀ projectId number, 0 < number → number < tables.nextReleaseNumber projectId →
      ∃ row ∈ tables.deployments, row.projectId = projectId ∧ row.releaseNumber = number

section Numbers

variable {tables after : HostingWorld} {projectId bound : ℕ}

theorem nextReleaseNumber_le (positive : 0 < bound)
    (below : ∀ row ∈ tables.deployments, row.projectId = projectId → row.releaseNumber < bound) :
    tables.nextReleaseNumber projectId ≤ bound := by
  have folded (numbers : List ℕ) (start : ℕ) (startBelow : start < bound)
      (numbersBelow : ∀ number ∈ numbers, number < bound) : numbers.foldl max start < bound := by
    induction numbers generalizing start with
    | nil => exact startBelow
    | cons first rest ih =>
      apply ih
      · have := numbersBelow first List.mem_cons_self
        omega
      · exact fun number member => numbersBelow number (List.mem_cons_of_mem _ member)
  apply folded _ 0 positive
  intro number member
  obtain ⟨row, rowMem, rfl⟩ := List.mem_map.mp member
  obtain ⟨stored, owner⟩ := List.mem_filter.mp rowMem
  exact below row stored (by simpa using owner)

theorem nextReleaseNumber_mono (kept : ∀ row ∈ tables.deployments, ∃ later ∈ after.deployments,
      later.projectId = row.projectId ∧ later.releaseNumber = row.releaseNumber) :
    tables.nextReleaseNumber projectId ≤ after.nextReleaseNumber projectId := by
  apply nextReleaseNumber_le (Nat.succ_pos _)
  intro row member owner
  obtain ⟨later, laterMem, sameOwner, sameNumber⟩ := kept row member
  rw [← owner, ← sameOwner, ← sameNumber]
  exact lt_nextReleaseNumber laterMem

end Numbers

end HostingWorld

/-- A session adds a queued deployment, with a number that was free when it
was counted. -/
def HostingSession.Numbered (session : HostingSession) (tables : HostingWorld) : Prop :=
  ∀ added, session.deployment = some added → 0 < added.releaseNumber ∧
      added.releaseNumber ≤ tables.nextReleaseNumber added.projectId

def HostingCall.Numbered (tables : HostingWorld) : HostingCall → Prop
  | .waiting session .. | .placing session .. | .finalizing session .. => session.Superseding
  | .committing session => session.Superseding ∧ session.Numbered tables
  | .deploying .. | .numbering .. | .relocating .. | .visiting ..
  | .continuing .. | .retiring .. => True

section Knowledge

variable {services : HostingServices} {tables after : HostingWorld}
variable {session : HostingSession} {call following : HostingCall}

theorem Numbered.of_none (none : session.deployment = none) : session.Numbered tables := by
  intro added here
  rw [none] at here
  cases here

theorem forAttempt_numbered {project : HostingProject} {attempt : AttemptEdit} {now : ℤ} :
    (HostingCall.forAttempt (.opened project false) project attempt now).Numbered tables := by
  have superseding : (HostingSession.opened project false).Superseding := Superseding.of_none rfl
  unfold HostingCall.forAttempt
  split
  · exact superseding
  · exact superseding
  · exact superseding
  · exact ⟨superseding, Numbered.of_none rfl⟩

theorem HostingCall.Numbered.next (numbered : call.Numbered tables) (fits : call.Fits tables)
    (follows : Follows services tables call following) : following.Numbered tables := by
  have counted (projectId : ℕ) : 0 < tables.nextReleaseNumber projectId := Nat.succ_pos _
  cases follows with
  | checked => exact True.intro
  | numbered =>
    refine ⟨Superseding.of_none rfl, ?_⟩
    intro added here
    cases here
    exact ⟨counted _, Nat.le_refl _⟩
  | opened opened =>
    intro edit here
    obtain ⟨existing, -, same⟩ := (openRelocation_ok opened).2.2.2 edit here
    exact ⟨_, by rw [same]⟩
  | revisited | prepared => exact forAttempt_numbered
  | heldBack => exact ⟨numbered, Numbered.of_none fits.2.deployment⟩
  | idle => exact numbered
  | replaced =>
    refine ⟨numbered, ?_⟩
    intro added here
    cases here
    exact ⟨counted _, Nat.le_refl _⟩
  | postponed | settled | completed => exact ⟨numbered, Numbered.of_none rfl⟩
  | orphaned | arrived => exact ⟨Superseding.of_none rfl, Numbered.of_none rfl⟩
  | continued => exact Superseding.of_none rfl

theorem HostingCall.Numbered.mono (numbered : call.Numbered tables)
    (grows : ∀ projectId, tables.nextReleaseNumber projectId ≤
      after.nextReleaseNumber projectId) : call.Numbered after := by
  cases call with
  | committing session =>
    refine ⟨numbered.1, fun added here => ?_⟩
    obtain ⟨positive, below⟩ := numbered.2 added here
    exact ⟨positive, Nat.le_trans below (grows _)⟩
  | waiting | placing | finalizing => exact numbered
  | deploying | numbering | relocating | visiting | continuing | retiring => exact True.intro

theorem Starts.numbered {state : HostingState} (starts : Starts state call) :
    call.Numbered state.tables := by
  cases starts with
  | deploying | relocating | visiting | continuing | retiring => exact True.intro
  | resolving => exact ⟨Superseding.of_none rfl, Numbered.of_none rfl⟩
  | @claiming deployment environment member queued free =>
    obtain ⟨superseded, -, added, -⟩ := claimSession_adds state deployment environment
    exact ⟨Superseding.of_none superseded, Numbered.of_none added⟩

end Knowledge

def InSuccession (rows : List HostingDeployment) : Prop :=
  Successive HostingDeployment.projectId HostingDeployment.releaseNumber
    (fun row => row.status.active) rows

def OneActiveAttempt (rows : List HostingFailoverAttempt) : Prop :=
  rows.Pairwise fun first second =>
    first.projectId = second.projectId → first.status.active = true → second.status.active = false

/-- Numbers are taken in order, and one rollout of a project is active at
most. -/
structure InOrder (state : HostingState) : Prop where
  consistent : Consistent state
  successive : InSuccession state.tables.deployments
  attempts : OneActiveAttempt state.tables.attempts
  gapless : state.tables.Gapless
  calls : ∀ call ∈ state.calls, call.Numbered state.tables

theorem InOrder.oneRollout {state : HostingState} (inOrder : InOrder state)
    (projectId : ℕ) : state.tables.OneRollout projectId where
  deployments := by
    apply length_filter_le_one_of_apart
    refine inOrder.successive.closed.imp ?_
    intro first second shut both
    simp only [decide_eq_true_eq] at both
    have closed := shut (both.1.1.trans both.2.1.symm)
    rw [both.1.2] at closed
    cases closed
  attempts := by
    apply length_filter_le_one_of_apart
    refine inOrder.attempts.imp ?_
    intro first second shut both
    simp only [decide_eq_true_eq] at both
    have closed := shut (both.1.1.trans both.2.1.symm) both.1.2
    rw [both.2.2] at closed
    cases closed
  releases := by
    rw [List.pairwise_map, List.pairwise_filter]
    refine inOrder.successive.increasing.imp ?_
    intro first second less here there
    simp only [decide_eq_true_eq] at here there
    exact less (here.trans there.symm)

section Writes

variable {tables after : HostingWorld} {session : HostingSession}

theorem nextReleaseNumber_rewrites
    (rewrites : Rewrites DeploymentKept tables.deployments after.deployments) (projectId : ℕ) :
    after.nextReleaseNumber projectId = tables.nextReleaseNumber projectId := by
  apply Nat.le_antisymm
  · apply HostingWorld.nextReleaseNumber_mono
    intro row member
    obtain ⟨earlier, earlierMem, kept⟩ := rewrites.earlier member
    exact ⟨earlier, earlierMem, kept.projectId.symm, kept.releaseNumber.symm⟩
  · apply HostingWorld.nextReleaseNumber_mono
    intro row member
    obtain ⟨later, laterMem, kept⟩ := rewrites.later member
    exact ⟨later, laterMem, kept.projectId, kept.releaseNumber⟩

theorem gapless_rewrites (gapless : tables.Gapless)
    (rewrites : Rewrites DeploymentKept tables.deployments after.deployments) : after.Gapless := by
  intro projectId number positive below
  rw [nextReleaseNumber_rewrites rewrites] at below
  obtain ⟨row, member, owner, taken⟩ := gapless projectId number positive below
  obtain ⟨later, laterMem, kept⟩ := rewrites.later member
  exact ⟨later, laterMem, kept.projectId.trans owner, kept.releaseNumber.trans taken⟩

theorem InSuccession.rewrites {rows written : List HostingDeployment}
    (successive : InSuccession rows) (rewrites : Rewrites DeploymentKept rows written) :
    InSuccession written := by
  refine Successive.rewrites successive rewrites (fun _ _ kept => kept.projectId)
    (fun _ _ kept => kept.releaseNumber) ?_
  intro first second kept shut
  by_contra active
  rw [kept.active (by simpa using active)] at shut
  cases shut

theorem releaseNumber_eq (gapless : tables.Gapless) (numbered : session.Numbered tables)
    (fresh : session.duplicates tables = false) {added : HostingDeployment}
    (here : session.deployment = some added) :
    added.releaseNumber = tables.nextReleaseNumber added.projectId := by
  obtain ⟨positive, bound⟩ := numbered added here
  by_contra other
  obtain ⟨row, member, owner, taken⟩ := gapless added.projectId
    added.releaseNumber positive (by omega)
  have duplicate : session.duplicates tables = true := by
    simp only [HostingSession.duplicates, here, Option.any_some,
      Bool.or_eq_true, List.any_eq_true, decide_eq_true_eq]
    exact .inl (.inl ⟨row, member, .inr ⟨owner, taken⟩⟩)
  rw [fresh] at duplicate
  cases duplicate

theorem OneActiveAttempt.rewrites
    {rows written : List HostingFailoverAttempt} (apart : OneActiveAttempt rows)
    (rewrites : Rewrites AttemptKept rows written) : OneActiveAttempt written := by
  apply rewrites.pairwise apart
  intro first second first' second' shut keepsFirst keepsSecond same active
  have closed := shut (keepsFirst.projectId.symm.trans (same.trans keepsSecond.projectId))
    (keepsFirst.active active)
  by_contra activeSecond
  rw [keepsSecond.active (by simpa using activeSecond)] at closed
  cases closed

theorem commit_deployments (consistent : (tables.deployments.map HostingDeployment.id).Nodup)
    (claims : session.Claims tables) (numbered : session.Numbered tables)
    (successive : InSuccession tables.deployments)
    (gapless : tables.Gapless) (fresh : session.duplicates tables = false)
    (alone : session.Alone tables) : InSuccession (session.write tables).deployments ∧
      (session.write tables).Gapless ∧ ∀ projectId, tables.nextReleaseNumber projectId ≤
          (session.write tables).nextReleaseNumber projectId := by
  have rewrites := settleClaim_rewrites consistent claims
  have settled := successive.rewrites rewrites
  have written : (session.write tables).deployments =
      session.settleClaim tables ++ session.deployment.toList := rfl
  have grows (projectId : ℕ) : tables.nextReleaseNumber projectId ≤
      (session.write tables).nextReleaseNumber projectId := by
    apply HostingWorld.nextReleaseNumber_mono
    intro row member
    obtain ⟨later, laterMem, kept⟩ := rewrites.later member
    rw [written]
    exact ⟨later, List.mem_append_left _ laterMem, kept.projectId, kept.releaseNumber⟩
  cases here : session.deployment with
  | none =>
    rw [here, Option.toList_none, List.append_nil] at written
    rw [← written] at rewrites settled
    exact ⟨settled, gapless_rewrites gapless rewrites, grows⟩
  | some added =>
    rw [here, Option.toList_some] at written
    have number := releaseNumber_eq gapless numbered fresh here
    refine ⟨?_, ?_, grows⟩
    · rw [written]
      apply settled.append
      · intro row member owner
        obtain ⟨earlier, earlierMem, kept⟩ := rewrites.earlier member
        rw [number, kept.releaseNumber, ← owner, kept.projectId]
        exact HostingWorld.lt_nextReleaseNumber earlierMem
      · exact alone.deployment added here
    · intro projectId taken positive below
      have known : ∀ row ∈ (session.write tables).deployments, row.projectId = projectId →
            row.releaseNumber < tables.nextReleaseNumber projectId ∨ row = added := by
        intro row member owner
        rw [written] at member
        rcases List.mem_append.mp member with old | new
        · obtain ⟨earlier, earlierMem, kept⟩ := rewrites.earlier old
          left
          rw [kept.releaseNumber, ← owner, kept.projectId]
          exact HostingWorld.lt_nextReleaseNumber earlierMem
        · exact .inr (List.mem_singleton.mp new)
      by_cases old : taken < tables.nextReleaseNumber projectId
      · obtain ⟨row, member, owner, same⟩ := gapless projectId taken positive old
        obtain ⟨later, laterMem, kept⟩ := rewrites.later member
        rw [written]
        exact ⟨later, List.mem_append_left _ laterMem,
          kept.projectId.trans owner, kept.releaseNumber.trans same⟩
      · have owner : added.projectId = projectId := by
          by_contra other
          have bound : (session.write tables).nextReleaseNumber projectId ≤
              tables.nextReleaseNumber projectId := by
            apply HostingWorld.nextReleaseNumber_le (Nat.succ_pos _)
            intro row member rowOwner
            rcases known row member rowOwner with less | same
            · exact less
            · rw [same] at rowOwner
              exact absurd rowOwner other
          omega
        have bound : (session.write tables).nextReleaseNumber projectId ≤
            added.releaseNumber + 1 := by
          apply HostingWorld.nextReleaseNumber_le (Nat.succ_pos _)
          intro row member rowOwner
          rcases known row member rowOwner with less | same
          · rw [number, owner]
            omega
          · rw [same]
            omega
        refine ⟨added, ?_, owner, ?_⟩
        · rw [written]
          exact List.mem_append_right _ List.mem_cons_self
        · rw [← owner] at old
          omega

theorem commit_attempts (unique : (tables.attempts.map HostingFailoverAttempt.id).Nodup)
    (apart : OneActiveAttempt tables.attempts) (superseding : session.Superseding)
    (fresh : session.duplicates tables = false) (alone : session.Alone tables) :
    OneActiveAttempt (session.write tables).attempts := by
  have superseded := apart.rewrites (supersede_rewrites tables superseding)
  have ids : ((session.supersede tables).map HostingFailoverAttempt.id).Nodup := by
    rw [supersede_ids]
    exact unique
  have activates := alone.attempt
  change OneActiveAttempt (AttemptEdit.write (session.supersede tables) session.attempt)
  unfold HostingSession.activates at activates
  match here : session.attempt with
  | none => exact superseded
  | some (.created row) =>
    rw [here] at activates
    apply pairwise_insert superseded
    intro stored member owner active
    by_contra opens
    have shut := activates row (by simp [opens]) stored member owner
      (created_fresh fresh here stored member)
    rw [active] at shut
    cases shut
  | some (.loaded before row) =>
    rw [here] at activates
    -- a stored row that the write activates is the only active one
    have others (stored other : HostingFailoverAttempt) (member : stored ∈ session.supersede tables)
        (otherMem : other ∈ session.supersede tables)
        (written : stored.id = before.id) (distinct : other.id ≠ stored.id)
        (owner : other.projectId = stored.projectId) (before' : stored.status.active = true →
          other.status.active = false)
        (active : (AttemptEdit.update before row stored).status.active =
          true) : other.status.active = false := by
      cases already : stored.status.active with
      | true => exact before' already
      | false =>
        apply activates stored _ other otherMem owner distinct
        simp [member, written, already, active]
    have apartIds : (session.supersede tables).Pairwise
        fun first second => first.id ≠ second.id := List.pairwise_map.mp ids
    simp only [AttemptEdit.write]
    unfold OneActiveAttempt at superseded ⊢
    rw [List.pairwise_map]
    refine (apartIds.and superseded).imp_of_mem ?_
    rintro first second firstMem secondMem ⟨distinct, shut⟩
    by_cases firstWritten : first.id = before.id
    · have secondKept : second.id ≠ before.id := by
        rw [← firstWritten]
        exact distinct.symm
      rw [if_pos firstWritten, if_neg secondKept]
      intro owner active
      exact others first second firstMem secondMem firstWritten
        distinct.symm owner.symm (shut owner) active
    · rw [if_neg firstWritten]
      by_cases secondWritten : second.id = before.id
      · rw [if_pos secondWritten]
        intro owner active
        by_contra activeSecond
        have closed := others second first secondMem firstMem secondWritten
          distinct owner (fun already => by
            rw [shut owner active] at already
            cases already) (by simpa using activeSecond)
        rw [active] at closed
        cases closed
      · rw [if_neg secondWritten]
        exact shut

end Writes

section Runs

variable {services : HostingServices} {validateTrustedOrigin : String → OriginCheck}
variable {state after : HostingState} {move : HostingMove}

theorem InOrder.moved (inOrder : InOrder state)
    (moved : Moved services validateTrustedOrigin state move after)
    (alone : state.CommitsAlone move) : InOrder after := by
  have consistent := inOrder.consistent
  have tables : InSuccession after.tables.deployments ∧
      OneActiveAttempt after.tables.attempts ∧ after.tables.Gapless ∧
        ∀ projectId, state.tables.nextReleaseNumber projectId ≤
          after.tables.nextReleaseNumber projectId := by
    rcases moved.commits_or_keeps consistent with
      ⟨index, session, rfl, here, commits, written⟩ | kept
    · have member := List.mem_of_getElem? here
      obtain ⟨superseding, numbered⟩ := inOrder.calls _ member
      have aloneHere := alone session here commits
      rw [written]
      obtain ⟨successive, gapless, grows⟩ :=
        commit_deployments consistent.deployments
          (consistent.calls _ member).2 numbered inOrder.successive
          inOrder.gapless commits.fresh aloneHere
      exact ⟨successive, commit_attempts consistent.attempts inOrder.attempts
        superseding commits.fresh aloneHere, gapless, grows⟩
    · exact ⟨inOrder.successive.rewrites kept.deployments, inOrder.attempts.rewrites kept.attempts,
        gapless_rewrites inOrder.gapless kept.deployments, fun projectId =>
          Nat.le_of_eq (nextReleaseNumber_rewrites kept.deployments _).symm⟩
  obtain ⟨successive, attempts, gapless, grows⟩ := tables
  refine ⟨consistent.moved moved, successive, attempts, gapless, ?_⟩
  intro call member
  rcases moved.call_cases member with old | starts | ⟨earlier, old, follows⟩
  · exact (inOrder.calls call old).mono grows
  · exact starts.numbered.mono grows
  · exact ((inOrder.calls earlier old).next (consistent.calls earlier old) follows).mono grows

end Runs

namespace HostingState

section Runs

variable (services : HostingServices) (validateTrustedOrigin : String → OriginCheck)
variable (failoverAfterSeconds : ℤ)

theorem inOrder_start {start : HostingState} (deployments : start.tables.deployments = [])
    (attempts : start.tables.attempts = []) (none : start.calls = []) : InOrder start where
  consistent := by
    apply consistent_start _ _ none
    · rw [deployments]
      exact List.nodup_nil
    · rw [attempts]
      exact List.nodup_nil
  successive := by
    rw [deployments]
    exact Successive.nil
  attempts := by
    rw [attempts]
    exact List.Pairwise.nil
  gapless := by
    intro projectId number positive below
    simp only [HostingWorld.nextReleaseNumber, deployments, List.filter_nil,
      List.map_nil, List.foldl_nil] at below
    omega
  calls := by
    rw [none]
    exact fun call member => absurd member List.not_mem_nil

end Runs

instance (tables : HostingWorld) (projectId : ℕ) : Decidable (tables.OneRollout projectId) :=
  decidable_of_iff _ (HostingWorld.oneRollout_iff tables projectId).symm

instance (session : HostingSession) (tables : HostingWorld) : Decidable (session.Alone tables) :=
  decidable_of_iff _ (HostingSession.alone_iff session tables).symm

instance (before : HostingState) (move : HostingMove) : Decidable (before.CommitsAlone move) :=
  decidableCommitting before move _

def undeployedTables : HostingWorld := { steadyTables with deployments := [] }

/-- The first release of the project runs, and the project is relocated. -/
def releasedAndRelocated : List HostingMove :=
  [.deploy 3 (.release "image" "digest" none) 1, .advance 0, .advance 0,
    .advance 0, .claim 1 (.ok []), .advance 0,
    .report 1 6 { status := .healthy }, .relocate 3 none "manual_rebalance" 2,
    .advance 0, .advance 0, .advance 0, .advance 0]

/-- Its node fails while no other takes projects, so that a pass leaves an
attempt pending.  When a node has room, a customer deploys after the next pass
has found no deployment in progress. -/
def deployedDuringPass : List HostingMove :=
  releasedAndRelocated.take 7 ++
    [.setNode drainedRow, .setNode (spareRow false), .visit 1 3 600000000 200, .advance 0,
      .advance 0, .advance 0, .advance 0, .setNode (spareRow true), .visit 1 3 660000000 200,
      .advance 0, .advance 0, .deploy 3 (.release "image" "digest" none) 660000001, .advance 1,
      .advance 1, .advance 1, .advance 0]

end HostingState

end Ithute
