import Ithute.Library.LeastReadyOrder

/-!
# The counting loop computes the least-ready order

The loop keeps a counter of outstanding releases for every item and a
priority queue of the items whose counter is zero.  One round takes the least
item of the queue and releases its dependents one by one.  The queue is a
sorted list: pushing inserts in order and popping takes the head.
-/

namespace LeastReadyOrder

variable {α : Type*} [LinearOrder α]

/-- Counters, priority queue and finished items of the counting loop. -/
structure LoopState (α : Type*) where
  remaining : α → ℤ
  ready : List α
  order : List α

namespace LoopState

/-- Push an item on the priority queue. -/
def push (state : LoopState α) (item : α) : LoopState α :=
  { state with ready := state.ready.orderedInsert (· ≤ ·) item }

/-- Lower one counter and push its item when the counter reaches zero. -/
def release (state : LoopState α) (item : α) : LoopState α :=
  let lowered : LoopState α :=
    { state with
      remaining := Function.update state.remaining item (state.remaining item - 1) }
  if lowered.remaining item = 0 then lowered.push item else lowered

/-- One round: take the least ready item and release its dependents. -/
def takeNext (dependents : α → List α) (state : LoopState α) : LoopState α :=
  match state.ready with
  | [] => state
  | current :: rest =>
    (dependents current).foldl release
      { state with ready := rest, order := state.order ++ [current] }

/-- Rounds until the queue is empty, at most `fuel` of them. -/
def drain (dependents : α → List α) : ℕ → LoopState α → LoopState α
  | 0, state => state
  | fuel + 1, state =>
    if state.ready = [] then state
    else drain dependents fuel (takeNext dependents state)

variable (state : LoopState α) (item : α)

@[simp]
theorem push_remaining : (state.push item).remaining = state.remaining :=
  rfl

@[simp]
theorem push_order : (state.push item).order = state.order := rfl

@[simp]
theorem push_ready : (state.push item).ready = state.ready.orderedInsert (· ≤ ·) item :=
  rfl

@[simp]
theorem release_order : (state.release item).order = state.order := by
  simp only [release]
  split <;> rfl

theorem release_remaining (other : α) : (state.release item).remaining other =
      state.remaining other - if other = item then 1 else 0 := by
  have lowered : (state.release item).remaining =
      Function.update state.remaining item (state.remaining item - 1) := by
    simp only [release]
    split <;> rfl
  rw [lowered]
  by_cases same : other = item
  · subst same
    simp
  · simp [same]

theorem release_ready : (state.release item).ready =
      if state.remaining item = 1 then state.ready.orderedInsert (· ≤ ·) item
      else state.ready := by
  unfold release
  by_cases last : state.remaining item = 1
  · simp [last]
  · have notZero : state.remaining item - 1 ≠ 0 := by omega
    simp [last, notZero]

theorem foldl_release {items : List α}
    (itemsNodup : items.Nodup) (sorted : state.ready.Pairwise (· ≤ ·))
    (readyNodup : state.ready.Nodup) (unready : ∀ item ∈ items, item ∉ state.ready) :
    (items.foldl release state).order = state.order ∧
      (∀ other, (items.foldl release state).remaining other =
        state.remaining other - if other ∈ items then 1 else 0) ∧
      (items.foldl release state).ready.Pairwise (· ≤ ·) ∧ (items.foldl release state).ready.Nodup ∧
      ∀ other, other ∈ (items.foldl release state).ready ↔
        other ∈ state.ready ∨ (other ∈ items ∧ state.remaining other = 1) := by
  induction items generalizing state with
  | nil => simp [sorted, readyNodup]
  | cons item items ih =>
    have itemUnready := unready item (by simp)
    have itemNotMem : item ∉ items := (List.nodup_cons.mp itemsNodup).1
    have sortedNext : (state.release item).ready.Pairwise (· ≤ ·) := by
      rw [release_ready]
      split
      · exact List.Pairwise.orderedInsert item _ sorted
      · exact sorted
    have nodupNext : (state.release item).ready.Nodup := by
      rw [release_ready]
      split
      · exact (List.perm_orderedInsert _ item _).nodup_iff.mpr
          (List.nodup_cons.mpr ⟨itemUnready, readyNodup⟩)
      · exact readyNodup
    have unreadyNext : ∀ other ∈ items, other ∉ (state.release item).ready := by
      intro other otherMem
      have different : other ≠ item := fun same => itemNotMem (same ▸ otherMem)
      have otherUnready := unready other (by simp [otherMem])
      rw [release_ready]
      split
      · simp [different, otherUnready]
      · exact otherUnready
    obtain ⟨order, remaining, sortedLast, nodupLast, ready⟩ :=
      ih (state.release item) (List.nodup_cons.mp itemsNodup).2 sortedNext nodupNext unreadyNext
    rw [List.foldl_cons]
    refine ⟨by rw [order, release_order], ?_, sortedLast, nodupLast, ?_⟩
    · intro other
      rw [remaining, release_remaining]
      by_cases same : other = item
      · subst same
        simp [itemNotMem]
      · simp [same]
    · intro other
      rw [ready, release_remaining, release_ready]
      by_cases same : other = item
      · subst same
        by_cases last : state.remaining other = 1 <;>
          simp [itemNotMem, last]
      · by_cases last : state.remaining item = 1 <;>
          simp [same, last]

end LoopState

namespace Schedule

variable (schedule : Schedule α)

/-- The loop invariant: counters hold the outstanding releases, the queue the
ready items. -/
structure Consistent (state : LoopState α) : Prop where
  order_nodup : state.order.Nodup
  order_subset : state.order ⊆ schedule.items
  remaining_eq : ∀ item ∈ schedule.items, state.remaining item =
    schedule.needed item - schedule.released state.order item
  finished_zero : ∀ item ∈ state.order, state.remaining item = 0
  ready_sorted : state.ready.Pairwise (· ≤ ·)
  ready_nodup : state.ready.Nodup
  mem_ready : ∀ item, item ∈ state.ready ↔ schedule.Ready state.order item

namespace Consistent

variable {schedule} {state : LoopState α}

/-- While a source is unfinished each item it releases still waits. -/
theorem remaining_pos (consistent : schedule.Consistent state)
    {source item : α} (sourceMem : source ∈ schedule.items) (unfinished : source ∉ state.order)
    (releases : item ∈ schedule.dependents source) : 0 < state.remaining item := by
  have itemMem := schedule.dependents_subset source sourceMem releases
  have extended := schedule.released_le_of_subset
    (List.nodup_cons.mpr ⟨unfinished, consistent.order_nodup⟩)
    (List.cons_subset.mpr ⟨sourceMem, consistent.order_subset⟩) item
  have counted : schedule.released (source :: state.order) item =
      schedule.released state.order item + 1 := by
    simp [released, releases]
  have upper := schedule.released_le_needed item itemMem
  have remaining := consistent.remaining_eq item itemMem
  simp only [released] at extended counted upper remaining
  omega

variable {current : α} {rest : List α}

theorem head_ready (consistent : schedule.Consistent state)
    (queue : state.ready = current :: rest) :
    schedule.Ready state.order current :=
  (consistent.mem_ready current).mp (by simp [queue])

theorem head_least (consistent : schedule.Consistent state) (queue : state.ready = current :: rest)
    (other : α) (ready : schedule.Ready state.order other) : current ≤ other := by
  have member := (consistent.mem_ready other).mpr ready
  have sorted := consistent.ready_sorted
  rw [queue] at member sorted
  rcases List.mem_cons.mp member with same | later
  · exact le_of_eq same.symm
  · exact (List.pairwise_cons.mp sorted).1 other later

/-- One round finishes the head of the queue and keeps the invariant. -/
theorem takeNext (consistent : schedule.Consistent state) (queue : state.ready = current :: rest) :
    schedule.Consistent (state.takeNext schedule.dependents) ∧
      (state.takeNext schedule.dependents).order = state.order ++ [current] := by
  have currentReady := consistent.head_ready queue
  have waiting : ∀ item ∈ schedule.dependents current,
      0 < state.remaining item := fun item releases =>
    consistent.remaining_pos currentReady.1 currentReady.2.1 releases
  have sorted := consistent.ready_sorted
  have readyNodup := consistent.ready_nodup
  rw [queue] at sorted readyNodup
  have notSelf : current ∉ schedule.dependents current := by
    intro releases
    have outstanding := waiting current releases
    have counter := consistent.remaining_eq current currentReady.1
    have needed := currentReady.2.2
    omega
  have unready : ∀ item ∈ schedule.dependents current, item ∉ rest := by
    intro item releases later
    have itemReady := (consistent.mem_ready item).mp (by simp [queue, later])
    have outstanding := waiting item releases
    have counter := consistent.remaining_eq item itemReady.1
    have needed := itemReady.2.2
    omega
  let popped : LoopState α := { state with ready := rest, order := state.order ++ [current] }
  have round : state.takeNext schedule.dependents =
      (schedule.dependents current).foldl LoopState.release popped := by
    simp [LoopState.takeNext, queue, popped]
  obtain ⟨order, remaining, sortedNext, nodupNext, ready⟩ :=
    LoopState.foldl_release popped
      (schedule.dependents_nodup current) (List.pairwise_cons.mp sorted).2
      (List.nodup_cons.mp readyNodup).2 unready
  rw [← round] at order remaining sortedNext nodupNext ready
  have releasedNext (item : α) : schedule.released (state.order ++ [current]) item =
        schedule.released state.order item +
          if item ∈ schedule.dependents current then 1 else 0 := by
    rw [released_append, released_singleton]
  refine ⟨⟨?_, ?_, ?_, ?_, sortedNext, nodupNext, ?_⟩, order⟩
  · rw [order, List.nodup_append_comm]
    exact List.nodup_cons.mpr ⟨currentReady.2.1, consistent.order_nodup⟩
  · rw [order]
    exact List.append_subset.mpr ⟨consistent.order_subset, by simpa using currentReady.1⟩
  · intro item itemMem
    rw [order, remaining, releasedNext]
    have before := consistent.remaining_eq item itemMem
    simp only [popped] at before ⊢
    split <;> push_cast <;> omega
  · intro item itemMem
    rw [order] at itemMem
    rw [remaining]
    rcases List.mem_append.mp itemMem with done | last
    · have zero := consistent.finished_zero item done
      have notReleased : item ∉ schedule.dependents current := by
        intro releases
        have outstanding := waiting item releases
        omega
      simp [popped, notReleased, zero]
    · rw [List.mem_singleton.mp last]
      have counter := consistent.remaining_eq current currentReady.1
      have needed := currentReady.2.2
      simp only [popped, notSelf, if_false]
      omega
  · intro item
    rw [ready, order]
    simp only [Ready, releasedNext, List.mem_append, List.mem_singleton, not_or, popped]
    have tail : item ∈ rest ↔ schedule.Ready state.order item ∧ item ≠ current := by
      rw [← consistent.mem_ready item, queue, List.mem_cons]
      constructor
      · intro later
        refine ⟨Or.inr later, fun same => ?_⟩
        exact (List.nodup_cons.mp readyNodup).1 (same ▸ later)
      · rintro ⟨same | later, different⟩
        · exact (different same).elim
        · exact later
    rw [tail]
    constructor
    · rintro (⟨itemReady, different⟩ | ⟨releases, last⟩)
      · have notReleased : item ∉ schedule.dependents current := by
          intro releases
          have outstanding := waiting item releases
          have counter := consistent.remaining_eq item itemReady.1
          have needed := itemReady.2.2
          omega
        exact ⟨itemReady.1, ⟨itemReady.2.1, different⟩, by simpa [notReleased] using itemReady.2.2⟩
      · have itemMem := schedule.dependents_subset current currentReady.1 releases
        have counter := consistent.remaining_eq item itemMem
        have notDone : item ∉ state.order := by
          intro done
          have zero := consistent.finished_zero item done
          have counted : state.remaining item = 1 := last
          omega
        have notCurrent : item ≠ current := fun same => notSelf (same ▸ releases)
        refine ⟨itemMem, ⟨notDone, notCurrent⟩, ?_⟩
        have counted : state.remaining item = 1 := last
        rw [if_pos releases]
        push_cast
        omega
    · rintro ⟨itemMem, ⟨notDone, different⟩, needed⟩
      by_cases releases : item ∈ schedule.dependents current
      · right
        have counter := consistent.remaining_eq item itemMem
        rw [if_pos releases] at needed
        push_cast at needed
        exact ⟨releases, by omega⟩
      · left
        rw [if_neg releases] at needed
        exact ⟨⟨itemMem, notDone, by simpa using needed⟩, different⟩

/-- Enough rounds empty the queue, and the items they finish are the
least-ready continuation of the items finished before. -/
theorem drain (consistent : schedule.Consistent state) (fuel : ℕ)
    (enough : schedule.items.length ≤ fuel + state.order.length) :
    (state.drain schedule.dependents fuel).ready = [] ∧
      ∃ rest, (state.drain schedule.dependents fuel).order = state.order ++ rest ∧
        TakesLeast schedule.Ready state.order rest := by
  induction fuel generalizing state with
  | zero =>
    have subperm := List.Nodup.subperm consistent.order_nodup consistent.order_subset
    have perm := subperm.perm_of_length_le (by simpa using enough)
    have noneReady : ∀ item, ¬ schedule.Ready state.order item :=
      fun item ready => ready.2.1 (perm.symm.subset ready.1)
    have empty : state.ready = [] := by
      apply List.eq_nil_iff_forall_not_mem.mpr
      intro item member
      exact noneReady item ((consistent.mem_ready item).mp member)
    exact ⟨empty, [], by simp [LoopState.drain], .stop noneReady⟩
  | succ fuel ih =>
    cases queue : state.ready with
    | nil =>
      have noneReady : ∀ item, ¬ schedule.Ready state.order item := by
        intro item ready
        have member := (consistent.mem_ready item).mpr ready
        simp [queue] at member
      exact ⟨by simp [LoopState.drain, queue], [],
        by simp [LoopState.drain, queue], .stop noneReady⟩
    | cons current waiting =>
      obtain ⟨next, order⟩ := consistent.takeNext queue
      have enoughNext : schedule.items.length ≤ fuel +
          (state.takeNext schedule.dependents).order.length := by
        rw [order, List.length_append, List.length_singleton]
        omega
      obtain ⟨empty, rest, orderLast, takes⟩ := ih next enoughNext
      have unfold : state.drain schedule.dependents (fuel + 1) =
          (state.takeNext schedule.dependents).drain
            schedule.dependents fuel := by
        simp [LoopState.drain, queue]
      rw [unfold]
      refine ⟨empty, current :: rest, ?_, ?_⟩
      · rw [orderLast, order, List.append_assoc, List.singleton_append]
      · rw [order] at takes
        exact .pick (consistent.head_ready queue) (consistent.head_least queue) takes

end Consistent

/-- The loop state before the first round. -/
def start : LoopState α where
  remaining := schedule.needed
  ready := (schedule.items.filter fun item => schedule.needed item = 0).insertionSort (· ≤ ·)
  order := []

theorem start_consistent : schedule.Consistent schedule.start where
  order_nodup := List.nodup_nil
  order_subset := List.nil_subset _
  remaining_eq := by simp [start, released]
  finished_zero := by simp [start]
  ready_sorted := List.pairwise_insertionSort _ _
  ready_nodup := (List.perm_insertionSort _ _).nodup_iff.mpr (schedule.items_nodup.filter _)
  mem_ready := by simp [start, Ready, released]

/-- The counting loop computes the least-ready order. -/
theorem drain_start : TakesLeast schedule.Ready [] (schedule.start.drain schedule.dependents
        schedule.items.length).order := by
  obtain ⟨-, rest, order, takes⟩ := schedule.start_consistent.drain schedule.items.length (by simp)
  have fromStart : schedule.start.order = [] := rfl
  rw [fromStart] at order takes
  rw [order]
  simpa using takes

end Schedule

end LeastReadyOrder
