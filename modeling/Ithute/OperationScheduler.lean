import Ithute.Library.HeldLocks
import Ithute.Library.ListWindows
import Ithute.Library.TransitionRuns
import Ithute.Library.UniqueRows
import Ithute.PythonTexts
import Mathlib.Data.List.MinMax
import Mathlib.Data.List.Sort
import Mathlib.Data.Prod.Lex

/-!
# Node operations

The agent of a hosting node claims the operations that are queued for it.  A
claim holds the lock of the node's row up to its commit; it counts what is
claimed, looks at the oldest queued operations, and takes the one of the least
priority number, which falls with the time that an operation has waited.
-/

namespace Ithute.OperationScheduler

open Texts TransitionRuns

inductive OperationStatus where
  | queued | claimed | succeeded | failed
  deriving DecidableEq

structure HostingProjectOperation where
  id : ℕ
  nodeId : ℕ
  operation : Text
  status : OperationStatus := .queued
  createdAt : ℕ
  claimedAt : Option ℕ := none
  deriving DecidableEq

section Priority

variable (lower : Text → Text)

def basePriority (operation : Text) : ℕ :=
  let kind := lower (strip operation)
  if kind = "retire".toList then 10
  else if kind = "restart".toList then 20
  else if kind = "logs".toList then 60
  else 50

/-- `max(0, int((now - created).total_seconds()))` -/
def waitedSeconds (createdAt now : ℕ) : ℕ := (now - createdAt) / 1000000

def agingBonus (createdAt now : ℕ) : ℕ := min 40 (waitedSeconds createdAt now / 300)

def operationEffectivePriority (operation : Text) (createdAt now : ℕ) : ℕ :=
  basePriority lower operation - agingBonus createdAt now

def claimSortKey (now : ℕ) (row : HostingProjectOperation) : ℕ ×ₗ ℕ ×ₗ ℕ :=
  toLex (operationEffectivePriority lower row.operation row.createdAt now,
    toLex (row.createdAt, row.id))

end Priority

/-- `order_by(created_at, id)` -/
def created (row : HostingProjectOperation) : ℕ ×ₗ ℕ := toLex (row.createdAt, row.id)

theorem agingBonus_anti {first second : ℕ} (earlier : first ≤ second) (now : ℕ) :
    agingBonus second now ≤ agingBonus first now := by
  unfold agingBonus waitedSeconds
  omega

/-- Of two operations of a kind the one that was created first has the smaller
key at any time. -/
theorem claimSortKey_lt (lower : Text → Text) (now : ℕ) {first second : HostingProjectOperation}
    (kind : lower (strip first.operation) = lower (strip second.operation))
    (before : created first < created second) :
    claimSortKey lower now first < claimSortKey lower now second := by
  have earlier : first.createdAt ≤ second.createdAt := by
    rcases Prod.Lex.lt_iff.mp before with less | ⟨same, -⟩
    · exact less.le
    · exact same.le
  have bonus := agingBonus_anti earlier now
  have base : basePriority lower first.operation = basePriority lower second.operation := by
    simp only [basePriority, kind]
  have priority : operationEffectivePriority lower first.operation first.createdAt now ≤
      operationEffectivePriority lower second.operation second.createdAt now := by
    unfold operationEffectivePriority
    omega
  unfold claimSortKey
  rw [Prod.Lex.lt_iff]
  rcases priority.lt_or_eq with less | same
  · exact .inl less
  · exact .inr ⟨same, before⟩

/-- `node_operation_concurrency_limit`, with the integer that the environment
holds. -/
def nodeOperationConcurrencyLimit (environment : Option ℤ) : ℤ :=
  max 1 (min (environment.getD 2) 16)

/-- `concurrency_limit or node_operation_concurrency_limit()`, in its bounds. -/
def claimLimit (environment concurrencyLimit : Option ℤ) : ℕ :=
  let limit := match concurrencyLimit.filter (· ≠ 0) with
    | some limit => limit
    | none => nodeOperationConcurrencyLimit environment
  (max 1 (min limit 16)).toNat

structure Claim where
  row : HostingProjectOperation
  limit : ℕ

/-- The endpoint may turn what it has claimed into a failure before it
commits. -/
def Claim.saved (claim : Claim) (refused : Bool) : HostingProjectOperation :=
  { claim.row with status := if refused then .failed else .claimed }

structure OperationTable where
  rows : List HostingProjectOperation
  ids : (rows.map HostingProjectOperation.id).Nodup

structure ClaimCall where
  nodeId : ℕ
  claim : Option Claim := none

structure SchedulerState where
  nodes : List ℕ := []
  rows : List HostingProjectOperation := []
  calls : List ClaimCall := []

inductive SchedulerAction where
  | queue (row : HostingProjectOperation)
  | report (id : ℕ) (success : Bool)
  | poll (nodeId : ℕ)
  | select (call now : ℕ) (environment concurrencyLimit : Option ℤ)
  | commit (call : ℕ) (refused : Bool)
  | rollback (call : ℕ)

namespace SchedulerState

variable (lower : Text → Text) (state : SchedulerState)

def claimedCount (nodeId : ℕ) : ℕ :=
  state.rows.countP fun row => decide (row.nodeId = nodeId ∧ row.status = .claimed)

def queued (nodeId : ℕ) : List HostingProjectOperation :=
  state.rows.filter fun row => decide (row.nodeId = nodeId ∧ row.status = .queued)

def lockedRows : List ℕ := state.calls.filterMap fun call => call.claim.map fun claim => claim.row.id

def oldest (rows : List HostingProjectOperation) : List HostingProjectOperation :=
  (rows.insertionSort fun first second => created first ≤ created second).take 128

/-- The candidates of a claim: `limit(128)` with `skip_locked`. -/
def candidates (nodeId : ℕ) : List HostingProjectOperation :=
  oldest ((state.queued nodeId).filter fun row => decide (row.id ∉ state.lockedRows))

/-- `claim_next_project_operation` under the lock of the node. -/
def claimNext (nodeId : ℕ) (now : ℕ) (limit : ℕ) : Option HostingProjectOperation :=
  if limit ≤ state.claimedCount nodeId then none
  else (state.candidates nodeId).argmin (claimSortKey lower now)

def writeRow (saved : HostingProjectOperation) : SchedulerState :=
  { state with
    rows := state.rows.map fun row => if row.id = saved.id then saved else row }

def dropCall (index : ℕ) : SchedulerState := { state with calls := state.calls.eraseIdx index }

/-- A new call waits while another one holds the lock of the node, and it ends
where there is no such node. -/
def poll (nodeId : ℕ) : SchedulerState :=
  if nodeId ∈ state.nodes ∧ nodeId ∉ state.calls.map ClaimCall.nodeId then
    { state with calls := state.calls ++ [{ nodeId := nodeId }] }
  else state

def select (index : ℕ) (now : ℕ) (limit : ℕ) : SchedulerState :=
  match state.calls[index]? with
  | some { nodeId := nodeId, claim := none } =>
    match state.claimNext lower nodeId now limit with
    | none => state.dropCall index
    | some row =>
      { state.dropCall index with
        calls := (state.dropCall index).calls ++
          [{ nodeId := nodeId
             claim := some
               { row := { row with status := .claimed, claimedAt := some now }
                 limit := limit } }] }
  | _ => state

def commit (index : ℕ) (refused : Bool) : SchedulerState :=
  match state.calls[index]? with
  | some { nodeId := _, claim := some claim } =>
    (state.dropCall index).writeRow (claim.saved refused)
  | _ => state

def report (id : ℕ) (success : Bool) : SchedulerState :=
  { state with
    rows := state.rows.map fun row =>
      if row.id = id ∧ row.status = .claimed then
        { row with status := if success then .succeeded else .failed }
      else row }

def queue (row : HostingProjectOperation) : SchedulerState :=
  if row.id ∈ state.rows.map HostingProjectOperation.id then state
  else { state with rows := state.rows ++ [{ row with status := .queued, claimedAt := none }] }

def perform : SchedulerAction → SchedulerState
  | .queue row => state.queue row
  | .report id success => state.report id success
  | .poll nodeId => state.poll nodeId
  | .select index now environment concurrencyLimit =>
    state.select lower index now (claimLimit environment concurrencyLimit)
  | .commit index refused => state.commit index refused
  | .rollback index => state.dropCall index

/-- The operation is the oldest of its kind that is queued, and no candidate
has a smaller key. -/
structure InOrder (queued candidates : List HostingProjectOperation) (now : ℕ)
    (row : HostingProjectOperation) : Prop where
  oldestOfKind : ∀ other ∈ queued,
    lower (strip other.operation) = lower (strip row.operation) → created row ≤ created other
  least : ∀ other ∈ candidates, claimSortKey lower now row ≤ claimSortKey lower now other

def run (actions : List SchedulerAction) : SchedulerState := actions.foldl (perform lower) state

/-- At a moment of the run the operation was queued and in order for the time
at which it is claimed. -/
def ClaimedInOrder (candidates : SchedulerState → ℕ → List HostingProjectOperation)
    (start : SchedulerState) (actions : List SchedulerAction)
    (claimed : HostingProjectOperation) : Prop :=
  ∃ front, front <+: actions ∧ ∃ row ∈ (start.run lower front).queued claimed.nodeId, ∃ now,
    claimed = { row with status := .claimed, claimedAt := some now } ∧
      InOrder lower ((start.run lower front).queued claimed.nodeId)
        (candidates (start.run lower front) claimed.nodeId) now row

/-- More operations of a node are claimed within the limit of a call only.
What a call has claimed, and a row that a commit makes claimed, is in order. -/
structure Scheduled (candidates : SchedulerState → ℕ → List HostingProjectOperation)
    (start : SchedulerState) (front : List SchedulerAction) (action : SchedulerAction) : Prop where
  limited : ∀ nodeId, (start.run lower front).claimedCount nodeId <
      ((start.run lower front).perform lower action).claimedCount nodeId →
    ∃ call ∈ (start.run lower front).calls, call.nodeId = nodeId ∧ ∃ claim ∈ call.claim,
      ((start.run lower front).perform lower action).claimedCount nodeId ≤ claim.limit
  claims : ∀ call ∈ ((start.run lower front).perform lower action).calls, ∀ claim ∈ call.claim,
    ClaimedInOrder lower candidates start (front ++ [action]) claim.row
  rows : ∀ row ∈ ((start.run lower front).perform lower action).rows,
    row ∉ (start.run lower front).rows → row.status = .claimed →
      ClaimedInOrder lower candidates start front row

/-- The row of a claim is queued until the commit, which stays within the
limit. -/
structure Pending (nodeId : ℕ) (claim : Claim) : Prop where
  stored : ∃ row ∈ state.queued nodeId, row.id = claim.row.id
  ofNode : claim.row.nodeId = nodeId
  room : state.claimedCount nodeId < claim.limit

structure SchedulerInvariant : Prop where
  ids : (state.rows.map HostingProjectOperation.id).Nodup
  locks : HeldLocks.Exclusive (fun call : ClaimCall => some call.nodeId) state.calls
  claims : ∀ call ∈ state.calls, ∀ claim ∈ call.claim, state.Pending call.nodeId claim

variable {lower state} {nodeId : ℕ} {now : ℕ} {limit : ℕ} {row : HostingProjectOperation}

theorem mem_queued : row ∈ state.queued nodeId ↔
    row ∈ state.rows ∧ row.nodeId = nodeId ∧ row.status = .queued := by
  simp [queued]

theorem mem_of_mem_oldest {rows : List HostingProjectOperation} (member : row ∈ oldest rows) :
    row ∈ rows :=
  (List.mem_insertionSort _).mp (List.mem_of_mem_take member)

theorem claimNext_spec (claimed : state.claimNext lower nodeId now limit = some row) :
    state.claimedCount nodeId < limit ∧ row ∈ state.candidates nodeId ∧
      ∀ other ∈ state.candidates nodeId,
        claimSortKey lower now row ≤ claimSortKey lower now other := by
  unfold claimNext at claimed
  split_ifs at claimed with full
  exact ⟨by omega, List.argmin_mem claimed, fun other member => List.le_of_mem_argmin member claimed⟩

/-- Within the oldest operations of a list the least one is the oldest of its
kind in the whole list. -/
theorem created_le_of_least {rows : List HostingProjectOperation} (member : row ∈ oldest rows)
    (least : ∀ other ∈ oldest rows, claimSortKey lower now row ≤ claimSortKey lower now other)
    {other : HostingProjectOperation} (otherMem : other ∈ rows)
    (kind : lower (strip other.operation) = lower (strip row.operation)) :
    created row ≤ created other := by
  by_contra older
  have sorted : (rows.insertionSort fun first second => created first ≤ created second).Pairwise
      fun first second => created first ≤ created second := List.pairwise_insertionSort _ rows
  have inside : other ∈ oldest rows :=
    ListWindows.mem_take_of_before sorted member ((List.mem_insertionSort _).mpr otherMem) older
  have less := claimSortKey_lt lower now kind (lt_of_not_ge older)
  exact absurd (least other inside) (not_le.mpr less)

namespace SchedulerInvariant

variable {index : ℕ} {call : ClaimCall}

/-- While a call holds the lock of a node, no other one has locked operations
of the node. -/
theorem candidates_eq (invariant : state.SchedulerInvariant) (member : call ∈ state.calls)
    (free : call.claim = none) :
    state.candidates call.nodeId = oldest (state.queued call.nodeId) := by
  unfold candidates
  congr 1
  rw [List.filter_eq_self]
  intro row queuedMem
  rw [decide_eq_true_eq]
  intro locked
  obtain ⟨other, otherMem, held⟩ := List.mem_filterMap.mp locked
  obtain ⟨claim, claims, sameId⟩ := Option.map_eq_some_iff.mp held
  obtain ⟨stored, storedMem, storedId⟩ := (invariant.claims other otherMem claim claims).stored
  have sameRow : stored = row := List.inj_on_of_nodup_map invariant.ids
    (mem_queued.mp storedMem).1 (mem_queued.mp queuedMem).1 (storedId.trans sameId)
  have sameNode : other.nodeId = call.nodeId := by
    rw [← (mem_queued.mp storedMem).2.1, sameRow, (mem_queued.mp queuedMem).2.1]
  have locks := invariant.locks
  unfold HeldLocks.Exclusive at locks
  rw [List.filterMap_eq_map'] at locks
  have sameCall : other = call := List.inj_on_of_nodup_map locks otherMem member sameNode
  rw [sameCall, free] at claims
  cases claims

theorem dropCall (invariant : state.SchedulerInvariant) (index : ℕ) :
    (state.dropCall index).SchedulerInvariant := by
  refine ⟨invariant.ids, invariant.locks.eraseIdx, ?_⟩
  intro call member claim claims
  have pending := invariant.claims call (List.mem_of_mem_eraseIdx member) claim claims
  exact ⟨pending.stored, pending.ofNode, pending.room⟩

theorem poll (invariant : state.SchedulerInvariant) (nodeId : ℕ) :
    (state.poll nodeId).SchedulerInvariant := by
  unfold SchedulerState.poll
  split_ifs with allowed
  · refine ⟨invariant.ids, invariant.locks.acquire rfl ?_, ?_⟩
    · rw [List.filterMap_eq_map']
      exact allowed.2
    · intro call member claim claims
      rcases List.mem_append.mp member with old | new
      · have pending := invariant.claims call old claim claims
        exact ⟨pending.stored, pending.ofNode, pending.room⟩
      · rw [List.mem_singleton.mp new] at claims
        cases claims
  · exact invariant

theorem select (invariant : state.SchedulerInvariant) (index : ℕ) (now : ℕ) (limit : ℕ) :
    (state.select lower index now limit).SchedulerInvariant := by
  unfold SchedulerState.select
  split
  · rename_i nodeId here
    split
    · exact invariant.dropCall index
    · rename_i row claimed
      obtain ⟨room, candidate, -⟩ := claimNext_spec claimed
      have isQueued := mem_queued.mp (List.mem_of_mem_filter (mem_of_mem_oldest candidate))
      refine ⟨invariant.ids, invariant.locks.keep here rfl, ?_⟩
      intro call member claim claims
      rcases List.mem_append.mp member with old | new
      · have pending := invariant.claims call (List.mem_of_mem_eraseIdx old) claim claims
        exact ⟨pending.stored, pending.ofNode, pending.room⟩
      · rw [List.mem_singleton.mp new] at claims ⊢
        cases claims
        exact ⟨⟨row, mem_queued.mpr isQueued, rfl⟩, isQueued.2.1, room⟩
  · exact invariant

end SchedulerInvariant

section Writes

variable {write : HostingProjectOperation → HostingProjectOperation}
variable {saved : HostingProjectOperation}

theorem claimedCount_map_le (fewer : ∀ row ∈ state.rows, (write row).nodeId = nodeId →
      (write row).status = .claimed → row.nodeId = nodeId ∧ row.status = .claimed) :
    ({ state with rows := state.rows.map write }).claimedCount nodeId ≤
      state.claimedCount nodeId := by
  unfold claimedCount
  rw [List.countP_map]
  refine List.countP_mono_left ?_
  intro row member counted
  simp only [Function.comp, decide_eq_true_eq] at counted ⊢
  exact fewer row member counted.1 counted.2

theorem Pending.map {claim : Claim} (pending : state.Pending nodeId claim)
    (kept : ∀ row ∈ state.queued nodeId, write row = row)
    (fewer : ({ state with rows := state.rows.map write }).claimedCount nodeId ≤
      state.claimedCount nodeId) :
    ({ state with rows := state.rows.map write }).Pending nodeId claim := by
  refine ⟨?_, pending.ofNode, ?_⟩
  · obtain ⟨row, queuedMem, sameId⟩ := pending.stored
    obtain ⟨member, isQueued⟩ := mem_queued.mp queuedMem
    exact ⟨row, mem_queued.mpr ⟨List.mem_map.mpr ⟨row, member, kept row queuedMem⟩, isQueued⟩,
      sameId⟩
  · have room := pending.room
    omega

theorem claimedCount_writeRow_le (elsewhere : saved.nodeId ≠ nodeId) :
    (state.writeRow saved).claimedCount nodeId ≤ state.claimedCount nodeId := by
  apply claimedCount_map_le
  intro row member
  split_ifs with here
  · intro same
    exact absurd same elsewhere
  · exact fun same isClaimed => ⟨same, isClaimed⟩

theorem claimedCount_writeRow_le_succ (ids : (state.rows.map HostingProjectOperation.id).Nodup) :
    (state.writeRow saved).claimedCount nodeId ≤ state.claimedCount nodeId + 1 :=
  UniqueRows.countP_replace_le ids saved _

theorem Pending.writeRow {claim : Claim} (pending : state.Pending nodeId claim)
    (ids : (state.rows.map HostingProjectOperation.id).Nodup)
    (stored : ∃ row ∈ state.rows, row.id = saved.id ∧ row.nodeId = saved.nodeId)
    (elsewhere : saved.nodeId ≠ nodeId) : (state.writeRow saved).Pending nodeId claim := by
  refine Pending.map pending ?_ (claimedCount_writeRow_le elsewhere)
  intro row queuedMem
  obtain ⟨member, ofNode, -⟩ := mem_queued.mp queuedMem
  rw [if_neg]
  intro sameId
  obtain ⟨written, writtenMem, writtenId, writtenNode⟩ := stored
  have same := List.inj_on_of_nodup_map ids member writtenMem (sameId.trans writtenId.symm)
  rw [← writtenNode, ← same] at elsewhere
  exact elsewhere ofNode

end Writes

namespace SchedulerInvariant

theorem report (invariant : state.SchedulerInvariant) (id : ℕ) (success : Bool) :
    (state.report id success).SchedulerInvariant ∧
      ∀ nodeId, (state.report id success).claimedCount nodeId ≤ state.claimedCount nodeId := by
  have fewer (nodeId : ℕ) :
      (state.report id success).claimedCount nodeId ≤ state.claimedCount nodeId := by
    apply claimedCount_map_le
    intro row member
    by_cases here : row.id = id ∧ row.status = .claimed
    · exact fun same _ => ⟨by rwa [if_pos here] at same, here.2⟩
    · rw [if_neg here]
      exact fun same isClaimed => ⟨same, isClaimed⟩
  refine ⟨⟨?_, invariant.locks, ?_⟩, fewer⟩
  · have same : (state.report id success).rows.map HostingProjectOperation.id =
        state.rows.map HostingProjectOperation.id := by
      unfold SchedulerState.report
      rw [List.map_map]
      refine List.map_congr_left ?_
      intro row _
      dsimp only [Function.comp]
      split_ifs <;> rfl
    rw [same]
    exact invariant.ids
  · intro call member claim claims
    refine (invariant.claims call member claim claims).map ?_ (fewer call.nodeId)
    intro row queuedMem
    rw [if_neg]
    intro here
    rw [(mem_queued.mp queuedMem).2.2] at here
    cases here.2

theorem queue (invariant : state.SchedulerInvariant) (row : HostingProjectOperation) :
    (state.queue row).SchedulerInvariant ∧
      ∀ nodeId, (state.queue row).claimedCount nodeId = state.claimedCount nodeId := by
  unfold SchedulerState.queue
  split_ifs with used
  · exact ⟨invariant, fun _ => rfl⟩
  · have same (nodeId : ℕ) :
        ({ state with
            rows := state.rows ++
              [{ row with status := .queued, claimedAt := none }] }).claimedCount nodeId =
          state.claimedCount nodeId := by
      simp [claimedCount]
    refine ⟨⟨?_, invariant.locks, ?_⟩, same⟩
    · rw [List.map_append, List.map_singleton]
      refine UniqueRows.pairwise_insert invariant.ids ?_
      rintro id member rfl
      exact used member
    · intro call member claim claims
      have pending := invariant.claims call member claim claims
      obtain ⟨stored, queuedMem, sameId⟩ := pending.stored
      obtain ⟨storedMem, isQueued⟩ := mem_queued.mp queuedMem
      refine ⟨⟨stored, mem_queued.mpr ⟨List.mem_append_left _ storedMem, isQueued⟩, sameId⟩,
        pending.ofNode, ?_⟩
      rw [same]
      exact pending.room

theorem commit (invariant : state.SchedulerInvariant) (index : ℕ) (refused : Bool) :
    (state.commit index refused).SchedulerInvariant ∧
      ∀ nodeId, state.claimedCount nodeId < (state.commit index refused).claimedCount nodeId →
        ∃ call ∈ state.calls, call.nodeId = nodeId ∧ ∃ claim ∈ call.claim,
          (state.commit index refused).claimedCount nodeId ≤ claim.limit := by
  unfold SchedulerState.commit
  split
  · rename_i nodeId claim here
    have member := List.mem_of_getElem? here
    have pending := invariant.claims _ member claim rfl
    have dropped := invariant.dropCall index
    obtain ⟨row, queuedMem, sameId⟩ := pending.stored
    obtain ⟨rowMem, ofNode, -⟩ := mem_queued.mp queuedMem
    refine ⟨⟨?_, dropped.locks, ?_⟩, ?_⟩
    · have keys := @UniqueRows.map_key_replace _ state.rows _ _ HostingProjectOperation.id
        { claim.row with status := if refused then .failed else .claimed }
      exact keys ▸ invariant.ids
    · intro other otherMem otherClaim claims
      refine (dropped.claims other otherMem otherClaim claims).writeRow invariant.ids
        ⟨row, rowMem, sameId, ofNode.trans pending.ofNode.symm⟩ ?_
      have apart := invariant.locks.apart here rfl
      rw [List.filterMap_eq_map'] at apart
      dsimp only at apart
      have ofNode : (claim.saved refused).nodeId = nodeId := pending.ofNode
      rw [ofNode]
      intro sameNode
      exact apart (List.mem_map.mpr ⟨other, otherMem, sameNode.symm⟩)
    · intro counted more
      by_cases sameNode : claim.row.nodeId = counted
      · refine ⟨_, member, pending.ofNode.symm.trans sameNode, claim, rfl, ?_⟩
        have room := pending.room
        have one : ((state.dropCall index).writeRow (claim.saved refused)).claimedCount counted ≤
          state.claimedCount counted + 1 := claimedCount_writeRow_le_succ dropped.ids
        rw [pending.ofNode] at sameNode
        rw [sameNode] at room
        exact one.trans (Nat.succ_le_of_lt room)
      · exact absurd more (not_lt.mpr (claimedCount_writeRow_le sameNode))
  · exact ⟨invariant, fun _ more => absurd more (lt_irrefl _)⟩

theorem poll_rows (nodeId : ℕ) : (state.poll nodeId).rows = state.rows := by
  unfold SchedulerState.poll
  split_ifs <;> rfl

theorem select_rows (index : ℕ) (now : ℕ) (limit : ℕ) :
    (state.select lower index now limit).rows = state.rows := by
  unfold SchedulerState.select
  split
  · split <;> rfl
  · rfl

theorem perform (invariant : state.SchedulerInvariant) (action : SchedulerAction) :
    (state.perform lower action).SchedulerInvariant ∧
      ∀ nodeId, state.claimedCount nodeId < (state.perform lower action).claimedCount nodeId →
        ∃ call ∈ state.calls, call.nodeId = nodeId ∧ ∃ claim ∈ call.claim,
          (state.perform lower action).claimedCount nodeId ≤ claim.limit := by
  cases action with
  | queue row =>
    refine ⟨(invariant.queue row).1, fun nodeId more => ?_⟩
    exact absurd ((invariant.queue row).2 nodeId) (ne_of_gt more)
  | report id success =>
    refine ⟨(invariant.report id success).1, fun nodeId more => ?_⟩
    exact absurd ((invariant.report id success).2 nodeId) (not_le.mpr more)
  | poll nodeId =>
    refine ⟨invariant.poll nodeId, fun counted more => ?_⟩
    unfold claimedCount SchedulerState.perform at more
    rw [poll_rows] at more
    exact absurd more (lt_irrefl _)
  | select index now environment concurrencyLimit =>
    refine ⟨invariant.select index now _, fun counted more => ?_⟩
    unfold claimedCount SchedulerState.perform at more
    rw [select_rows] at more
    exact absurd more (lt_irrefl _)
  | commit index refused => exact invariant.commit index refused
  | rollback index =>
    exact ⟨invariant.dropCall index, fun nodeId more => absurd more (lt_irrefl _)⟩

end SchedulerInvariant

theorem InOrder.of_claimNext (invariant : state.SchedulerInvariant) {call : ClaimCall}
    (member : call ∈ state.calls) (free : call.claim = none)
    (claimed : state.claimNext lower call.nodeId now limit = some row) :
    InOrder lower (state.queued call.nodeId) (oldest (state.queued call.nodeId)) now row := by
  obtain ⟨-, candidate, least⟩ := claimNext_spec claimed
  rw [invariant.candidates_eq member free] at candidate least
  exact ⟨fun other otherMem kind => created_le_of_least candidate least otherMem kind, least⟩

/-- A claim has been taken before, or its operation is in order now. -/
theorem claims_perform (invariant : state.SchedulerInvariant) {action : SchedulerAction}
    {call : ClaimCall} (member : call ∈ (state.perform lower action).calls) {claim : Claim}
    (taken : claim ∈ call.claim) : call ∈ state.calls ∨
      ∃ row ∈ state.queued claim.row.nodeId, ∃ now,
        claim.row = { row with status := .claimed, claimedAt := some now } ∧
        InOrder lower (state.queued claim.row.nodeId)
          (oldest (state.queued claim.row.nodeId)) now row := by
  cases action with
  | queue row =>
    dsimp only [SchedulerState.perform, SchedulerState.queue] at member
    split_ifs at member
    · exact .inl member
    · exact .inl member
  | report id success => exact .inl member
  | poll nodeId =>
    dsimp only [SchedulerState.perform, SchedulerState.poll] at member
    split_ifs at member
    · rcases List.mem_append.mp member with old | new
      · exact .inl old
      · rw [List.mem_singleton.mp new] at taken
        cases taken
    · exact .inl member
  | select index now environment concurrencyLimit =>
    dsimp only [SchedulerState.perform, SchedulerState.select] at member
    split at member
    · rename_i nodeId here
      split at member
      · exact .inl (List.mem_of_mem_eraseIdx member)
      · rename_i row claimed
        rcases List.mem_append.mp member with old | new
        · exact .inl (List.mem_of_mem_eraseIdx old)
        · rw [List.mem_singleton.mp new] at taken
          cases taken
          have candidate := (claimNext_spec claimed).2.1
          have isQueued := List.mem_of_mem_filter (mem_of_mem_oldest candidate)
          have inOrder := InOrder.of_claimNext invariant (List.mem_of_getElem? here) rfl claimed
          have ofNode : row.nodeId = nodeId := (mem_queued.mp isQueued).2.1
          rw [← ofNode] at isQueued inOrder
          exact .inr ⟨row, isQueued, now, rfl, inOrder⟩
    · exact .inl member
  | commit index refused =>
    dsimp only [SchedulerState.perform, SchedulerState.commit] at member
    split at member
    · exact .inl (List.mem_of_mem_eraseIdx member)
    · exact .inl member
  | rollback index => exact .inl (List.mem_of_mem_eraseIdx member)

/-- A row becomes claimed as a call has claimed it. -/
theorem claimed_perform {action : SchedulerAction}
    (member : row ∈ (state.perform lower action).rows) (changed : row ∉ state.rows)
    (claimed : row.status = .claimed) : ∃ call ∈ state.calls, ∃ claim ∈ call.claim,
      row = { claim.row with status := .claimed } := by
  cases action with
  | queue queued =>
    dsimp only [SchedulerState.perform, SchedulerState.queue] at member
    split_ifs at member
    · exact absurd member changed
    · rcases List.mem_append.mp member with old | new
      · exact absurd old changed
      · rw [List.mem_singleton.mp new] at claimed
        cases claimed
  | report id success =>
    obtain ⟨stored, storedMem, rfl⟩ := List.mem_map.mp member
    by_cases here : stored.id = id ∧ stored.status = .claimed
    · rw [if_pos here] at claimed
      cases success <;> cases claimed
    · rw [if_neg here] at changed
      exact absurd storedMem changed
  | poll nodeId =>
    dsimp only [SchedulerState.perform] at member
    rw [SchedulerInvariant.poll_rows] at member
    exact absurd member changed
  | select index now environment concurrencyLimit =>
    dsimp only [SchedulerState.perform] at member
    rw [SchedulerInvariant.select_rows] at member
    exact absurd member changed
  | commit index refused =>
    dsimp only [SchedulerState.perform, SchedulerState.commit] at member
    split at member
    · rename_i nodeId claim here
      obtain ⟨stored, storedMem, rfl⟩ := List.mem_map.mp member
      split_ifs at claimed changed ⊢
      · refine ⟨_, List.mem_of_getElem? here, claim, rfl, ?_⟩
        cases refused with
        | true => cases claimed
        | false => rfl
      · exact absurd storedMem changed
    · exact absurd member changed
  | rollback index => exact absurd member changed

theorem ClaimedInOrder.mono {candidates : SchedulerState → ℕ → List HostingProjectOperation}
    {front actions : List SchedulerAction} (inOrder : ClaimedInOrder lower candidates state front row)
    (earlier : front <+: actions) : ClaimedInOrder lower candidates state actions row := by
  obtain ⟨moment, before, rest⟩ := inOrder
  exact ⟨moment, before.trans earlier, rest⟩

def starting (nodes : List ℕ) (table : OperationTable) : SchedulerState where
  nodes := nodes
  rows := table.rows

theorem SchedulerInvariant.starting (nodes : List ℕ) (table : OperationTable) :
    (starting nodes table).SchedulerInvariant where
  ids := table.ids
  locks := HeldLocks.Exclusive.nil
  claims _ member := nomatch member

theorem SchedulerInvariant.run (invariant : state.SchedulerInvariant)
    (actions : List SchedulerAction) : (state.run lower actions).SchedulerInvariant := by
  refine (Run.of_foldl _ actions state).invariant invariant ?_
  rintro state action after invariant rfl
  exact (invariant.perform action).1

theorem run_rows (actions : List SchedulerAction) (quiet : ∀ action ∈ actions,
    ∀ state : SchedulerState, (state.perform lower action).rows = state.rows) :
    (state.run lower actions).rows = state.rows := by
  induction actions generalizing state with
  | nil => rfl
  | cons action actions ih =>
    rw [List.forall_mem_cons] at quiet
    exact (ih quiet.2).trans (quiet.1 state)

theorem run_claims (lower : Text → Text) (nodes : List ℕ) (table : OperationTable)
    (actions : List SchedulerAction) : ∀ call ∈ ((starting nodes table).run lower actions).calls,
      ∀ claim ∈ call.claim, ClaimedInOrder lower (fun state nodeId => oldest (state.queued nodeId))
        (starting nodes table) actions claim.row := by
  induction actions using List.reverseRecOn with
  | nil => exact fun call member => nomatch member
  | append_singleton front action ih =>
    intro call member claim taken
    unfold run at member
    rw [List.foldl_append] at member
    rcases claims_perform ((SchedulerInvariant.starting nodes table).run front) member taken with
      old | now
    · exact (ih call old claim taken).mono (List.prefix_append front [action])
    · exact ⟨front, List.prefix_append front [action], now⟩

/-- In every run, whatever is queued, reported and claimed at the same time,
the claims of a node stay within their limits and are in order among the 128
oldest operations that are queued. -/
theorem run_scheduled (lower : Text → Text) (nodes : List ℕ) (table : OperationTable)
    (front : List SchedulerAction) (action : SchedulerAction) :
    Scheduled lower (fun state nodeId => oldest (state.queued nodeId))
      (starting nodes table) front action where
  limited := (((SchedulerInvariant.starting nodes table).run front).perform action).2
  claims := by
    have claims := run_claims lower nodes table (front ++ [action])
    unfold run at claims
    rw [List.foldl_append] at claims
    exact claims
  rows row member changed claimed := by
    obtain ⟨call, callMem, claim, taken, rfl⟩ := claimed_perform member changed claimed
    have inOrder := run_claims lower nodes table front call callMem claim taken
    obtain ⟨_, _, row, _, now, columns, _⟩ := inOrder
    have same : { claim.row with status := .claimed } = claim.row := by rw [columns]
    rw [same]
    exact run_claims lower nodes table front call callMem claim taken

def logsRequest (id : ℕ) : HostingProjectOperation where
  id := id
  nodeId := 1
  operation := "logs".toList
  createdAt := id

/-- The last operation of node 1 is a retirement, behind 128 requests for
logs. -/
def crowdedRows : List HostingProjectOperation :=
  (List.range 128).map logsRequest ++ [{ logsRequest 128 with operation := "retire".toList }]

theorem crowdedRows_ids : (crowdedRows.map HostingProjectOperation.id).Nodup := by
  have ids : crowdedRows.map HostingProjectOperation.id = List.range 129 := by decide
  rw [ids]
  exact List.nodup_range

/-- The retirement has the least priority number and is not looked at. -/
theorem retirement_passedOver : ¬ Scheduled id (fun state nodeId => state.queued nodeId)
    (starting [1] ⟨crowdedRows, crowdedRows_ids⟩) [.poll 1, .select 0 200 none none]
    (.commit 0 false) := by
  intro scheduled
  have claimed := scheduled.rows { logsRequest 0 with status := .claimed, claimedAt := some 200 }
    (by decide +kernel) (by decide +kernel) rfl
  obtain ⟨front, earlier, row, isQueued, now, columns, inOrder⟩ := claimed
  have quiet : ∀ action ∈ [SchedulerAction.poll 1, .select 0 200 none none],
      ∀ state : SchedulerState, (state.perform id action).rows = state.rows := by
    simp [perform, SchedulerInvariant.poll_rows, SchedulerInvariant.select_rows]
  have rows := @run_rows id (starting [1] ⟨crowdedRows, crowdedRows_ids⟩) front
    fun action member => quiet action (earlier.subset member)
  have least := inOrder.least { logsRequest 128 with operation := "retire".toList } (by
    rw [mem_queued, rows]
    decide)
  unfold claimSortKey at least
  injection columns with id nodeId operation status createdAt claimedAt
  rw [← id, ← operation, ← createdAt, ← Option.some.inj claimedAt] at least
  revert least
  decide

end SchedulerState

end Ithute.OperationScheduler
