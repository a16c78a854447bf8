import Mathlib.Data.List.Pairwise
import Ithute.ScheduledMailSteps

/-!
# Once, and not after a cancellation

Every schedule and every retry of a message leads to one submission at most,
and a message that has been cancelled is not submitted any more, as long as no
claim is handed out while an earlier one is still good, and no request writes
over what has happened since it read its row.
-/

namespace Ithute

open UniqueRows TransitionRuns

namespace ScheduledMailState

def Performs (before : ScheduledMailState) (move : ScheduledMailMove)
    (after : ScheduledMailState) : Prop :=
  after = before.perform move

/-- A message is accepted once at most for a schedule or a retry of it. -/
structure SubmitsOnce (state : ScheduledMailState) : Prop where
  once : state.accepted.Nodup
  placed : ∀ key ∈ state.accepted, 0 < key.2 ∧ key.2 ≤ state.currentOrder key.1

def submissions (state : ScheduledMailState) (jobId : ℕ) : List (ℕ × ℕ) :=
  state.accepted.filter fun key => key.1 = jobId

/-- What was cancelled at the first moment is so at the second one, and has
not been submitted in between. -/
def Honours (first second : ScheduledMailState) : Prop :=
  ∀ row ∈ first.rows, row.status = .cancelled →
    (∃ later ∈ second.rows, later.id = row.id ∧ later.status = .cancelled) ∧
      second.submissions row.id = first.submissions row.id

def KeepsPromises (moves : List ScheduledMailMove) : Prop :=
  ∀ front middle back first second, moves = front ++ middle ++ back →
    Run Performs {} front first → Run Performs first middle second →
      second.SubmitsOnce ∧ Honours first second

/-- A claim is handed out again when nobody who has held it can submit the
message any more or has done so.  A cancellation is written when no worker is
past its check of the row, and a retry is not written over a cancellation. -/
def Calm (before : ScheduledMailState) : ScheduledMailMove → Prop
  | .claim _ now _ locked =>
    ∀ row ∈ before.claimable now locked, row.status = .sending → (∀ delivery ∈ before.deliveries,
        delivery.key = (row.id, before.currentOrder row.id) → ¬ delivery.MaySubmit) ∧
        (row.id, before.currentOrder row.id) ∉ before.accepted
  | .commit position _ =>
    ∀ request ∈ before.requests[position]?, match request with
      | .cancel loaded .. =>
        ∀ delivery ∈ before.deliveries, delivery.jobId = loaded.id → ¬ delivery.PastCheck
      | .retry loaded .. => ∀ row ∈ before.rows, row.id = loaded.id → row.status ≠ .cancelled
  | _ => True

structure IsPlaced (nextId : ℕ) (placed : List ℕ) (key : ℕ × ℕ) : Prop where
  issued : key.1 < nextId
  positive : 0 < key.2
  current : key.2 ≤ placed.count key.1

def Apart (one two : MailDelivery) : Prop := ¬ (one.key = two.key ∧ one.MaySubmit ∧ two.MaySubmit)

instance : Std.Symm Apart where
  symm _ _ apart both := apart ⟨both.1.symm, both.2.2, both.2.1⟩

structure Orderly (state : ScheduledMailState) : Prop where
  issued : Issued ScheduledMail.id state.nextId state.rows
  workers : (state.deliveries.map MailDelivery.worker).Nodup
  placed : ∀ row ∈ state.rows, 0 < state.currentOrder row.id
  delivered : ∀ delivery ∈ state.deliveries, IsPlaced state.nextId state.placed delivery.key
  known : ∀ key ∈ state.accepted, IsPlaced state.nextId state.placed key
  once : state.accepted.Nodup
  single : state.deliveries.Pairwise Apart
  pending : ∀ delivery ∈ state.deliveries, delivery.MaySubmit → delivery.key ∉ state.accepted
  queued : ∀ row ∈ state.rows, row.status = .queued → (∀ delivery ∈ state.deliveries,
      delivery.key ≠ (row.id, state.currentOrder row.id)) ∧
        (row.id, state.currentOrder row.id) ∉ state.accepted
  cancelled : ∀ row ∈ state.rows, row.status = .cancelled →
    ∀ delivery ∈ state.deliveries, delivery.jobId = row.id → ¬ delivery.PastCheck

theorem count_placed {placed : List ℕ} {id jobId : ℕ} (apart : id ≠ jobId) :
    (placed ++ [jobId]).count id = placed.count id := by
  rw [List.count_append, List.count_singleton]
  simp [Ne.symm apart]

theorem IsPlaced.later {nextId later jobId : ℕ} {placed : List ℕ}
    {key : ℕ × ℕ} (isPlaced : IsPlaced nextId placed key)
    (nextLe : nextId ≤ later) : IsPlaced later (placed ++ [jobId]) key where
  issued := Nat.lt_of_lt_of_le isPlaced.issued nextLe
  positive := isPlaced.positive
  current := by
    rw [List.count_append]
    exact Nat.le_add_right_of_le isPlaced.current

section Deliveries

variable {state : ScheduledMailState} {worker : ℕ} {delivery : MailDelivery} {phase : MailPhase}

theorem mem_advance (workers : (state.deliveries.map MailDelivery.worker).Nodup)
    (found : state.delivery? worker = some delivery)
    {other : MailDelivery} (member : other ∈ state.advance worker phase) :
    (other ∈ state.deliveries ∧ other.worker ≠ worker) ∨
      other = { delivery with phase := phase } := by
  obtain ⟨stored, storedMem, rfl⟩ := List.mem_map.mp member
  obtain ⟨deliveryMem, same⟩ := delivery?_spec found
  by_cases here : stored.worker = worker
  · right
    rw [if_pos here, List.inj_on_of_nodup_map workers storedMem deliveryMem (here.trans same.symm)]
  · left
    rw [if_neg here]
    exact ⟨storedMem, here⟩

theorem advance_workers : (state.advance worker phase).map MailDelivery.worker =
      state.deliveries.map MailDelivery.worker := by
  unfold advance
  rw [List.map_map]
  apply List.map_congr_left
  intro other _
  dsimp only [Function.comp]
  split <;> rfl

theorem advance_single (workers : (state.deliveries.map MailDelivery.worker).Nodup)
    (single : state.deliveries.Pairwise Apart) (found : state.delivery? worker = some delivery)
    (may : delivery.MaySubmit) : (state.advance worker phase).Pairwise Apart := by
  obtain ⟨deliveryMem, same⟩ := delivery?_spec found
  have earlier (other : MailDelivery) (member : other ∈ state.deliveries) :
      MailDelivery.key (if other.worker = worker then
          { other with phase := phase } else other) = other.key ∧
        (MailDelivery.MaySubmit (if other.worker = worker then
          { other with phase := phase } else other) → other.MaySubmit) := by
    by_cases here : other.worker = worker
    · rw [if_pos here, List.inj_on_of_nodup_map workers member deliveryMem (here.trans same.symm)]
      exact ⟨rfl, fun _ => may⟩
    · rw [if_neg here]
      exact ⟨rfl, id⟩
  unfold advance
  rw [List.pairwise_map]
  refine single.imp_of_mem ?_
  intro one two oneMem twoMem apart both
  obtain ⟨oneKey, oneMay⟩ := earlier one oneMem
  obtain ⟨twoKey, twoMay⟩ := earlier two twoMem
  rw [oneKey, twoKey] at both
  exact apart ⟨both.1, oneMay both.2.1, twoMay both.2.2⟩

theorem without_sublist : (state.without worker).Sublist state.deliveries := List.filter_sublist

end Deliveries

theorem orderly_empty : Orderly {} where
  issued := Issued.nil
  workers := List.nodup_nil
  placed := List.forall_mem_nil _
  delivered := List.forall_mem_nil _
  known := List.forall_mem_nil _
  once := List.nodup_nil
  single := List.Pairwise.nil
  pending := List.forall_mem_nil _
  queued := List.forall_mem_nil _
  cancelled := List.forall_mem_nil _

namespace Orderly

variable {before after : ScheduledMailState} {move : ScheduledMailMove} (orderly : before.Orderly)
include orderly

theorem submitsOnce : before.SubmitsOnce :=
  ⟨orderly.once, fun key member =>
    ⟨(orderly.known key member).positive, (orderly.known key member).current⟩⟩

theorem eq_of_id {row other : ScheduledMail} (member : row ∈ before.rows)
    (otherMem : other ∈ before.rows) (same : row.id = other.id) : row = other :=
  orderly.issued.eq_of_key member otherMem same

theorem fewer {deliveries : List MailDelivery} (sublist : deliveries.Sublist before.deliveries) :
    Orderly { before with deliveries := deliveries } where
  issued := orderly.issued
  workers := orderly.workers.sublist (sublist.map _)
  placed := orderly.placed
  delivered delivery member := orderly.delivered delivery (sublist.subset member)
  known := orderly.known
  once := orderly.once
  single := orderly.single.sublist sublist
  pending delivery member := orderly.pending delivery (sublist.subset member)
  queued row member waits :=
    ⟨fun delivery deliveryMem => (orderly.queued row member waits).1 delivery
      (sublist.subset deliveryMem), (orderly.queued row member waits).2⟩
  cancelled row member isOver delivery deliveryMem :=
    orderly.cancelled row member isOver delivery (sublist.subset deliveryMem)

variable {worker : ℕ}

theorem advanced (phase : MailPhase) {delivery : MailDelivery}
    (found : before.delivery? worker = some delivery) (may : delivery.MaySubmit)
    (live : ∀ row ∈ before.rows, row.id = delivery.jobId → row.status ≠ .cancelled) :
    Orderly { before with deliveries := before.advance worker phase } := by
  obtain ⟨deliveryMem, same⟩ := delivery?_spec found
  have from_ {other : MailDelivery} (member : other ∈ before.advance worker phase) :=
    mem_advance orderly.workers found member
  refine ⟨orderly.issued, ?_, orderly.placed, ?_, orderly.known,
    orderly.once, advance_single orderly.workers orderly.single found may, ?_, ?_, ?_⟩
  · dsimp only
    rw [advance_workers]
    exact orderly.workers
  · intro other member
    rcases from_ member with ⟨old, -⟩ | rfl
    · exact orderly.delivered other old
    · exact orderly.delivered delivery deliveryMem
  · intro other member otherMay
    rcases from_ member with ⟨old, -⟩ | rfl
    · exact orderly.pending other old otherMay
    · exact orderly.pending delivery deliveryMem may
  · intro row member waits
    refine ⟨?_, (orderly.queued row member waits).2⟩
    intro other otherMem
    rcases from_ otherMem with ⟨old, -⟩ | rfl
    · exact (orderly.queued row member waits).1 other old
    · exact (orderly.queued row member waits).1 delivery deliveryMem
  · intro row member isOver other otherMem about
    rcases from_ otherMem with ⟨old, -⟩ | rfl
    · exact orderly.cancelled row member isOver other old about
    · exact absurd isOver (live row member about.symm)

theorem written (jobId : ℕ) (flush : ScheduledMail → ScheduledMail)
    (ids : ∀ row, (flush row).id = row.id) (waits : ∀ row ∈ before.rows, row.id = jobId →
      (flush row).status = .queued → row.status = .queued)
    (calm : ∀ row ∈ before.rows, row.id = jobId → (flush row).status = .cancelled →
        ∀ delivery ∈ before.deliveries, delivery.jobId = jobId → ¬ delivery.PastCheck) :
    Orderly { before with rows := before.write jobId flush } := by
  refine ⟨?_, orderly.workers, ?_, orderly.delivered, orderly.known,
    orderly.once, orderly.single, orderly.pending, ?_, ?_⟩
  · apply orderly.issued.map
    intro row _
    split
    · exact ids row
    · rfl
  · refine forall_write (fun row member _ => orderly.placed row member) ?_
    intro row member _
    rw [ids row]
    exact orderly.placed row member
  · refine forall_write (fun row member _ => orderly.queued row member) ?_
    intro row member same queued
    rw [ids row]
    exact orderly.queued row member (waits row member same queued)
  · refine forall_write (fun row member _ => orderly.cancelled row member) ?_
    intro row member same isOver delivery deliveryMem about
    rw [ids row] at about
    exact calm row member same isOver delivery deliveryMem (about.trans same)

theorem appended {jobId : ℕ} (free : worker ∉ before.deliveries.map MailDelivery.worker)
    (known : IsPlaced before.nextId before.placed (jobId, before.currentOrder jobId))
    (alone : ∀ delivery ∈ before.deliveries, delivery.key = (jobId, before.currentOrder jobId) →
        ¬ delivery.MaySubmit) (new : (jobId, before.currentOrder jobId) ∉ before.accepted)
    (busy : ∀ row ∈ before.rows, row.id = jobId → row.status ≠ .queued) : Orderly
      { before with
        deliveries := before.deliveries ++
          [{ worker := worker
             jobId := jobId
             order := before.currentOrder jobId }] } := by
  refine ⟨orderly.issued, ?_, orderly.placed, ?_, orderly.known, orderly.once, ?_, ?_, ?_, ?_⟩
  · rw [List.map_append, List.map_singleton]
    refine pairwise_insert orderly.workers ?_
    rintro taken member rfl
    exact free member
  · intro delivery member
    rcases List.mem_append.mp member with old | added
    · exact orderly.delivered delivery old
    · rw [List.mem_singleton.mp added]
      exact known
  · refine pairwise_insert orderly.single ?_
    rintro delivery member ⟨same, may, -⟩
    exact alone delivery member same may
  · intro delivery member may
    rcases List.mem_append.mp member with old | added
    · exact orderly.pending delivery old may
    · rw [List.mem_singleton.mp added]
      exact new
  · intro row member waits
    refine ⟨?_, (orderly.queued row member waits).2⟩
    intro delivery deliveryMem
    rcases List.mem_append.mp deliveryMem with old | added
    · exact (orderly.queued row member waits).1 delivery old
    · rw [List.mem_singleton.mp added]
      intro same
      exact busy row member (congrArg Prod.fst same).symm waits
  · intro row member isOver delivery deliveryMem about
    rcases List.mem_append.mp deliveryMem with old | added
    · exact orderly.cancelled row member isOver delivery old about
    · rw [List.mem_singleton.mp added]
      exact fun pastCheck => pastCheck rfl

theorem claimed {now startedAt : ℤ} {locked : List ℕ}
    {row : ScheduledMail} (free : before.delivery? worker = none)
    (claimable : before.claimable now locked = some row)
    (calm : Calm before (.claim worker now startedAt locked)) : Orderly
      { before with
        rows := before.write row.id
          (row.flush
            { row with
              status := .sending
              error := none } startedAt)
        deliveries := before.deliveries ++
          [{ worker := worker
             jobId := row.id
             order := before.currentOrder row.id }] } := by
  obtain ⟨member, waits⟩ := claimable_spec claimable
  have sending : ∀ other ∈ before.rows, other.id = row.id →
      (row.flush
        { row with
          status := .sending
          error := none } startedAt other).status = .sending := by
    intro other otherMem same
    rw [orderly.eq_of_id otherMem member same, ScheduledMail.flush_self]
  have written := orderly.written row.id
    (row.flush
      { row with
        status := .sending
        error := none } startedAt)
    (fun _ => ScheduledMail.flush_id)
    (fun other otherMem same queued => by
      rw [sending other otherMem same] at queued
      cases queued)
    (fun other otherMem same cancelled => by
      rw [sending other otherMem same] at cancelled
      cases cancelled)
  have available : (∀ delivery ∈ before.deliveries,
      delivery.key = (row.id, before.currentOrder row.id) → ¬ delivery.MaySubmit) ∧
      (row.id, before.currentOrder row.id) ∉ before.accepted := by
    rcases waits with queued | sent
    · obtain ⟨none, new⟩ := orderly.queued row member queued
      exact ⟨fun delivery deliveryMem same =>
        absurd same (none delivery deliveryMem), new⟩
    · exact calm row claimable sent
  refine written.appended (delivery?_none free) ?_ available.1 available.2 ?_
  · exact ⟨orderly.issued.below row member, orderly.placed row member, Nat.le_refl _⟩
  · refine forall_write (fun _ _ apart same => absurd same apart) ?_
    intro other otherMem same _
    rw [sending other otherMem same]
    simp

theorem submitted {worker : ℕ} {startedAt : ℤ} {delivery : MailDelivery} {row : ScheduledMail}
    (found : before.delivery? worker = some delivery)
    (loaded : delivery.phase = .loaded row startedAt) : Orderly { before with
        deliveries := before.advance worker (.submitted row startedAt)
        accepted := before.accepted ++ [delivery.key] } := by
  obtain ⟨deliveryMem, same⟩ := delivery?_spec found
  have may : delivery.MaySubmit := by
    rw [MailDelivery.MaySubmit, loaded]
    trivial
  have pastCheck : delivery.PastCheck := by
    rw [MailDelivery.PastCheck, loaded]
    exact nofun
  have live : ∀ row ∈ before.rows, row.id = delivery.jobId → row.status ≠ .cancelled :=
    fun row member about isOver => orderly.cancelled row member isOver delivery
      deliveryMem about.symm pastCheck
  have advanced := orderly.advanced (.submitted row startedAt) found may live
  refine ⟨advanced.issued, advanced.workers, advanced.placed,
    advanced.delivered, ?_, ?_, advanced.single, ?_, ?_, advanced.cancelled⟩
  · intro key member
    rcases List.mem_append.mp member with old | added
    · exact orderly.known key old
    · rw [List.mem_singleton.mp added]
      exact orderly.delivered delivery deliveryMem
  · refine pairwise_insert orderly.once ?_
    rintro key member rfl
    exact orderly.pending delivery deliveryMem may member
  · intro other member otherMay submitted
    rcases mem_advance orderly.workers found member with ⟨old, apart⟩ | rfl
    · rcases List.mem_append.mp submitted with early | now
      · exact orderly.pending other old otherMay early
      · refine orderly.single.forall old deliveryMem ?_ ⟨List.mem_singleton.mp now, otherMay, may⟩
        rintro rfl
        exact apart same
    · cases otherMay
  · intro queuedRow member waits
    obtain ⟨none, new⟩ := orderly.queued queuedRow member waits
    refine ⟨(advanced.queued queuedRow member waits).1, ?_⟩
    intro submitted
    rcases List.mem_append.mp submitted with early | now
    · exact new early
    · exact none delivery deliveryMem (List.mem_singleton.mp now).symm

theorem finished {worker : ℕ} {startedAt : ℤ} {delivery : MailDelivery}
    {loaded changed : ScheduledMail} (isOver : changed.status = .sent ∨ changed.status = .failed) :
    Orderly { before with
        rows := before.write delivery.jobId (loaded.flush changed startedAt)
        deliveries := before.without worker } := by
  have kept {row : ScheduledMail} {status : ScheduledMailStatus}
      (open_ : status ≠ .sent ∧ status ≠ .failed)
      (here : (loaded.flush changed startedAt row).status = status) : row.status = status := by
    rw [ScheduledMail.flush_status] at here
    split at here
    · exact here
    · rcases isOver with sent | failed
      · exact absurd (here.symm.trans sent) open_.1
      · exact absurd (here.symm.trans failed) open_.2
  refine (orderly.fewer without_sublist).written _ _ (fun _ => ScheduledMail.flush_id) ?_ ?_
  · intro row _ _ waits
    exact kept (by simp) waits
  · intro row member same cancelled other otherMem about
    exact orderly.cancelled row member (kept (by simp) cancelled) other
      (without_sublist.subset otherMem) (about.trans same.symm)

theorem cancelledNow {loaded : ScheduledMail} {startedAt : ℤ}
    (isOpen : loaded.status = .queued ∨ loaded.status = .failed)
    (idle : ∀ delivery ∈ before.deliveries, delivery.jobId = loaded.id →
      ¬ delivery.PastCheck) (requests : List MailRequest) : Orderly { before with
        rows := before.write loaded.id (loaded.flush loaded.cancel startedAt)
        requests := requests } := by
  have written := orderly.written loaded.id (loaded.flush loaded.cancel startedAt)
    (fun _ => ScheduledMail.flush_id) (fun row _ _ queued => by
      rw [ScheduledMail.cancel_flush isOpen] at queued
      cases queued)
    (fun _ _ _ _ => idle)
  exact ⟨written.issued, written.workers, written.placed, written.delivered,
    written.known, written.once, written.single, written.pending, written.queued, written.cancelled⟩

theorem retried {loaded : ScheduledMail} {startedAt now : ℤ}
    {secret : String} (failed : loaded.status = .failed) (requests : List MailRequest) : Orderly
      { before with
        rows := before.write loaded.id (loaded.flush (loaded.retry secret now) startedAt)
        requests := requests
        placed := before.placed ++ [loaded.id] } := by
  have later (key : ℕ × ℕ) (known : IsPlaced before.nextId before.placed key) :
      IsPlaced before.nextId (before.placed ++ [loaded.id]) key ∧
        key ≠ (loaded.id, (before.placed ++ [loaded.id]).count loaded.id) := by
    refine ⟨known.later (Nat.le_refl _), ?_⟩
    rintro rfl
    have current := known.current
    simp at current
  refine ⟨?_, orderly.workers, ?_, ?_, ?_, orderly.once, orderly.single, orderly.pending, ?_, ?_⟩
  · apply orderly.issued.map
    intro row _
    split
    · exact ScheduledMail.flush_id
    · rfl
  · refine forall_write ?_ ?_
    · intro row member _
      exact Nat.lt_of_lt_of_le (orderly.placed row member)
        (List.Sublist.count_le _ (List.sublist_append_left _ _))
    · intro row member _
      rw [ScheduledMail.flush_id]
      exact Nat.lt_of_lt_of_le (orderly.placed row member)
        (List.Sublist.count_le _ (List.sublist_append_left _ _))
  · intro delivery member
    exact (later _ (orderly.delivered delivery member)).1
  · intro key member
    exact (later key (orderly.known key member)).1
  · refine forall_write ?_ ?_
    · intro row member apart waits
      have same : ScheduledMailState.currentOrder
          { before with placed := before.placed ++ [loaded.id] } row.id =
            before.currentOrder row.id := count_placed apart
      have queued := orderly.queued row member waits
      rw [← same] at queued
      exact queued
    · intro row _ same _
      rw [ScheduledMail.flush_id, same]
      refine ⟨?_, ?_⟩
      · intro delivery member
        exact (later _ (orderly.delivered delivery member)).2
      · intro submitted
        exact (later _ (orderly.known _ submitted)).2 rfl
  · refine forall_write (fun row member _ => orderly.cancelled row member) ?_
    intro row _ _ isOver
    rw [ScheduledMail.retry_flush failed] at isOver
    cases isOver

theorem scheduled {row : ScheduledMail} (id : row.id = before.nextId)
    (status : row.status = .queued) : Orderly { before with
        nextId := before.nextId + 1
        rows := before.rows ++ [row]
        placed := before.placed ++ [before.nextId] } := by
  have later (key : ℕ × ℕ) (known : IsPlaced before.nextId before.placed key) :
      IsPlaced (before.nextId + 1) (before.placed ++ [before.nextId]) key :=
    known.later (Nat.le_succ _)
  refine ⟨orderly.issued.insert id, orderly.workers, ?_, ?_, ?_, orderly.once,
    orderly.single, orderly.pending, ?_, ?_⟩
  · intro other member
    rcases List.mem_append.mp member with old | new
    · exact Nat.lt_of_lt_of_le (orderly.placed other old)
        (List.Sublist.count_le _ (List.sublist_append_left _ _))
    · rw [List.mem_singleton.mp new, id, currentOrder]
      simp
  · intro delivery member
    exact later _ (orderly.delivered delivery member)
  · intro key member
    exact later key (orderly.known key member)
  · intro other member waits
    rcases List.mem_append.mp member with old | new
    · have same : ScheduledMailState.currentOrder
          { before with placed := before.placed ++ [before.nextId] } other.id =
            before.currentOrder other.id :=
        count_placed (Nat.ne_of_lt (orderly.issued.below other old))
      have queued := orderly.queued other old waits
      rw [← same] at queued
      exact queued
    · rw [List.mem_singleton.mp new, id]
      refine ⟨?_, ?_⟩
      · intro delivery deliveryMem same
        have below := (orderly.delivered delivery deliveryMem).issued
        rw [same] at below
        exact Nat.lt_irrefl _ below
      · intro submitted
        exact Nat.lt_irrefl _ (orderly.known _ submitted).issued
  · intro other member isOver
    rcases List.mem_append.mp member with old | new
    · exact orderly.cancelled other old isOver
    · rw [List.mem_singleton.mp new, status] at isOver
      cases isOver

theorem requested (requests : List MailRequest) : Orderly { before with requests := requests } :=
  ⟨orderly.issued, orderly.workers, orderly.placed, orderly.delivered,
    orderly.known, orderly.once, orderly.single, orderly.pending, orderly.queued, orderly.cancelled⟩

theorem not_cancelled {delivery : MailDelivery}
    (found : before.delivery? worker = some delivery) (pastCheck : delivery.PastCheck) :
    ∀ row ∈ before.rows, row.id = delivery.jobId → row.status ≠ .cancelled :=
  fun row member about isOver => orderly.cancelled row member isOver delivery
    (delivery?_spec found).1 about.symm pastCheck

theorem moved (moved : ScheduledMailMoved before move after)
    (calm : Calm before move) : after.Orderly := by
  cases moved with
  | idle => exact orderly
  | scheduled id status => exact orderly.scheduled id status
  | claimed free claimable => exact orderly.claimed free claimable calm
  | @loaded worker _ _ delivery phase row found claimed member same sending =>
    refine orderly.advanced phase found ?_ ?_
    · rw [MailDelivery.MaySubmit, claimed]
      trivial
    · intro other otherMem about
      rw [orderly.eq_of_id otherMem member (about.trans same.symm), sending]
      simp
  | reloaded found loaded =>
    refine orderly.advanced _ found ?_ (orderly.not_cancelled found ?_)
    · rw [MailDelivery.MaySubmit, loaded]
      trivial
    · rw [MailDelivery.PastCheck, loaded]
      exact nofun
  | submitted found loaded => exact orderly.submitted found loaded
  | finished _ _ isOver => exact orderly.finished isOver
  | dropped => exact orderly.fewer without_sublist
  | asked => exact orderly.requested _
  | @cancelled _ _ _ _ isOpen found => exact orderly.cancelledNow isOpen (calm _ found) _
  | @retried _ _ _ _ _ failed found => exact orderly.retried failed _

end Orderly

theorem Honours.refl (state : ScheduledMailState) : Honours state state :=
  fun row member isOver => ⟨⟨row, member, rfl, isOver⟩, rfl⟩

theorem Honours.trans {first second third : ScheduledMailState}
    (earlier : Honours first second) (later : Honours second third) : Honours first third := by
  intro row member isOver
  obtain ⟨⟨middle, middleMem, same, still⟩, none⟩ := earlier row member isOver
  obtain ⟨⟨last, lastMem, sameLast, stillLast⟩, noneLast⟩ := later middle middleMem still
  rw [same] at sameLast noneLast
  exact ⟨⟨last, lastMem, sameLast, stillLast⟩, noneLast.trans none⟩

section Runs

variable {before after : ScheduledMailState} {move : ScheduledMailMove}

theorem cancelled_write {jobId : ℕ} {flush : ScheduledMail → ScheduledMail}
    (ids : ∀ row, (flush row).id = row.id) (spares : ∀ row ∈ before.rows, row.id = jobId →
      row.status = .cancelled → (flush row).status = .cancelled) :
    ∀ row ∈ before.rows, row.status = .cancelled → ∃ later ∈ before.write jobId flush,
        later.id = row.id ∧ later.status = .cancelled := by
  intro row member isOver
  refine ⟨_, List.mem_map.mpr ⟨row, member, rfl⟩, ?_⟩
  split
  · rename_i same
    exact ⟨ids row, spares row member same isOver⟩
  · exact ⟨rfl, isOver⟩

theorem Orderly.honours (orderly : before.Orderly) (moved : ScheduledMailMoved before move after)
    (calm : Calm before move) : Honours before after := by
  have same (rows : List ScheduledMail) (written : ∀ row ∈ before.rows,
      row.status = .cancelled → ∃ later ∈ rows, later.id = row.id ∧ later.status = .cancelled)
      {state : ScheduledMailState} (here : state.rows = rows)
      (accepted : state.accepted = before.accepted) : Honours before state := by
    intro row member isOver
    rw [here, submissions, accepted]
    exact ⟨written row member isOver, rfl⟩
  have kept {state : ScheduledMailState} (rows : state.rows = before.rows)
      (accepted : state.accepted = before.accepted) : Honours before state :=
    same before.rows (fun row member isOver => ⟨row, member, rfl, isOver⟩) rows accepted
  cases moved with
  | idle | loaded | reloaded | dropped | asked => exact kept rfl rfl
  | @scheduled _ _ _ _ row =>
    refine same _ ?_ rfl rfl
    intro other member isOver
    exact ⟨other, List.mem_append.mpr (.inl member), rfl, isOver⟩
  | claimed free claimable =>
    obtain ⟨member, waits⟩ := claimable_spec claimable
    refine same _ (cancelled_write (fun _ => ScheduledMail.flush_id) ?_) rfl rfl
    intro other otherMem equal isOver
    rw [orderly.eq_of_id otherMem member equal] at isOver
    rcases waits with queued | sending
    · rw [queued] at isOver
      cases isOver
    · rw [sending] at isOver
      cases isOver
  | @submitted worker _ delivery _ found loaded =>
    intro row member isOver
    refine ⟨⟨row, member, rfl, isOver⟩, ?_⟩
    have apart : delivery.jobId ≠ row.id := by
      intro about
      refine orderly.not_cancelled found ?_ row member about.symm isOver
      rw [MailDelivery.PastCheck, loaded]
      exact nofun
    simp [submissions, MailDelivery.key, apart]
  | @finished _ _ _ _ delivery _ _ found pastCheck =>
    refine same _ (cancelled_write (fun _ => ScheduledMail.flush_id) ?_) rfl rfl
    intro row member about isOver
    exact absurd isOver (orderly.not_cancelled found pastCheck row member about)
  | @cancelled _ _ _ _ isOpen =>
    refine same _ (cancelled_write (fun _ => ScheduledMail.flush_id) ?_) rfl rfl
    exact fun _ _ _ _ => ScheduledMail.cancel_flush isOpen
  | retried found =>
    refine same _ (cancelled_write (fun _ => ScheduledMail.flush_id) ?_) rfl rfl
    intro row member about isOver
    exact absurd isOver (calm _ found row member about)

end Runs

/-- Calm runs keep both promises. -/
theorem keepsPromises_of_calm (moves : List ScheduledMailMove)
    (calm : EveryStep Performs (fun before move _ => Calm before move) {}
      moves) : KeepsPromises moves := by
  have orderlyAfter : ∀ state move following, state.Orderly →
      Performs state move following → Calm state move → following.Orderly := by
    intro state move following orderly performs here
    rw [performs]
    exact orderly.moved (perform_moved state move) here
  have honours : EveryStep Performs (fun before _ after => Honours before after) {} moves := by
    refine EveryStep.of_invariant orderly_empty orderlyAfter ?_ calm
    intro state move following orderly performs here
    rw [performs]
    exact orderly.honours (perform_moved state move) here
  intro front middle back first second split reached later
  refine ⟨?_, EveryStep.between Honours.refl
    (fun _ _ _ => Honours.trans) honours split reached later⟩
  rw [split] at calm
  have orderly : second.Orderly :=
    (reached.append later).invariant_of_everyStep orderly_empty orderlyAfter calm.of_prefix
  exact orderly.submitsOnce

instance (before : ScheduledMailState) (move : ScheduledMailMove) :
    Decidable (Calm before move) := by
  induction move using ScheduledMailMove.casesOn with
  | claim _ now _ locked =>
    exact inferInstanceAs (Decidable (∀ row ∈ before.claimable now locked, _ → _ ∧ _))
  | commit position _ =>
    refine @Option.decidableForallMem _ _ (fun request => ?_) _
    cases request <;> infer_instance
  | _ => exact .isTrue True.intro

instance (first second : ScheduledMailState) : Decidable (Honours first second) :=
  inferInstanceAs (Decidable (∀ row ∈ first.rows, row.status = .cancelled →
    (∃ later ∈ second.rows, _) ∧ _))

/-- One message fails and is sent at a retry, another one is cancelled. -/
def retriedAndCancelled : List ScheduledMailMove :=
  [.schedule 1 { delaySeconds := some 16 } "secret" 0,
    .schedule 1 { delaySeconds := some 300 } "secret" 0,
    .claim 1 (seconds 16) (seconds 16) [], .load 1 (seconds 16) true,
    .finish 1 (seconds 17) (some "refused"), .cancel 1 1 (seconds 18),
    .retry 1 0 "secret" (seconds 18), .commit 0 (seconds 18),
    .commit 0 (seconds 18), .claim 1 (seconds 40) (seconds 40) [],
    .load 1 (seconds 40) true, .submit 1, .finish 1 (seconds 41) none]

theorem retriedAndCancelled_keepsPromises : KeepsPromises retriedAndCancelled :=
  keepsPromises_of_calm retriedAndCancelled (EveryStep.of_stepByStep (by decide))

/-- The owner cancels a message while a worker is about to submit it. -/
def cancelledWhileSending : List ScheduledMailMove :=
  [.schedule 1 { delaySeconds := some 16 } "secret" 0,
    .cancel 1 0 (seconds 16), .claim 1 (seconds 16) (seconds 16) [],
    .load 1 (seconds 16) true, .commit 0 (seconds 17)]

theorem cancelledWhileSending_submits : ¬ KeepsPromises (cancelledWhileSending ++ [.submit 1]) := by
  intro keeps
  have run := Run.of_foldl perform cancelledWhileSending {}
  have later : Run Performs (cancelledWhileSending.foldl perform {}) [.submit 1] _ := Run.single rfl
  have promises := keeps cancelledWhileSending [.submit 1] [] _ _ (by simp) run later
  exact absurd promises.2 (by decide)

end ScheduledMailState

end Ithute
