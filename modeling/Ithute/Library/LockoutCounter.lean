import Mathlib.Data.Int.Order.Basic
import Mathlib.Data.List.Basic

/-!
# Counters that lock

A counter of failures locks for a period when it reaches its limit, and no
failure happens while it is locked.  Then no period without a clearing holds
more failures than the limit.
-/

namespace LockoutCounter

/-- A failure, or a clearing of the counter. -/
structure Event where
  time : ℕ
  failed : Bool
  deriving DecidableEq

structure Counter where
  failures : ℕ := 0
  lockedUntil : Option ℕ := none

namespace Counter

def isLocked (counter : Counter) (now : ℕ) : Bool :=
  counter.lockedUntil.any fun until_ => decide (now < until_)

def fail (limit : ℤ) (period now : ℕ) (counter : Counter) : Counter where
  failures := counter.failures + 1
  lockedUntil :=
    if limit ≤ (counter.failures + 1 : ℕ) then some (now + period)
    else counter.lockedUntil

end Counter

def InPeriod (period start : ℕ) (event : Event) : Prop :=
  start ≤ event.time ∧ event.time < start + period

instance (period start : ℕ) : DecidablePred (InPeriod period start) :=
  fun _ => inferInstanceAs (Decidable (_ ∧ _))

/-- The events of a period, newest first. -/
def within (period start : ℕ) (events : List Event) : List Event :=
  events.filter fun event => decide (InPeriod period start event)

/-- A period without a clearing holds at most `limit` failures. -/
def Bounded (limit : ℤ) (period : ℕ) (events : List Event) : Prop :=
  ∀ start, (∀ event ∈ within period start events, event.failed = true) →
    ((within period start events).length : ℤ) ≤ limit

/-- The failures since the last clearing. -/
def streak (events : List Event) : List Event := events.takeWhile Event.failed

/-- The counter has counted the failures since the last clearing, and it has
been locked by the last of them if there were enough. -/
structure Tracks (limit : ℤ) (period now : ℕ) (counter : Counter) (events : List Event) : Prop where
  ordered : events.Pairwise fun later earlier => earlier.time ≤ later.time
  past : ∀ event ∈ events, event.time ≤ now
  counted : (streak events).length ≤ counter.failures
  locked : limit ≤ (streak events).length → ∀ last ∈ events.head?,
    ∃ until_ ∈ counter.lockedUntil, last.time + period ≤ until_
  bounded : Bounded limit period events

section

variable {limit : ℤ} {period now start : ℕ} {counter : Counter}
variable {event : Event} {events : List Event}

theorem within_cons_of_mem (member : InPeriod period start event) :
    within period start (event :: events) = event :: within period start events := by
  simp [within, member]

theorem within_cons_of_not_mem (outside : ¬ InPeriod period start event) :
    within period start (event :: events) = within period start events := by
  simp [within, outside]

/-- Nothing lies in a period that the newest event precedes. -/
theorem within_eq_nil_of_before (before : event.time < start)
    (ordered : ∀ earlier ∈ events, earlier.time ≤ event.time) :
    within period start events = [] := by
  rw [within, List.filter_eq_nil_iff]
  intro earlier member
  have := ordered earlier member
  intro inside
  have := (of_decide_eq_true inside).1
  omega

/-- The failures of a period that lasts until now belong to the streak. -/
theorem within_length_le_streak (current : now < start + period)
    (ordered : events.Pairwise fun later earlier => earlier.time ≤ later.time)
    (past : ∀ event ∈ events, event.time ≤ now)
    (failures : ∀ event ∈ within period start events, event.failed = true) :
    (within period start events).length ≤ (streak events).length := by
  induction events with
  | nil => simp [within]
  | cons event events ih =>
    obtain ⟨newest, ordered⟩ := List.pairwise_cons.mp ordered
    have eventPast := past event (by simp)
    by_cases member : InPeriod period start event
    · rw [within_cons_of_mem member] at failures ⊢
      have failed : event.failed = true := failures event (by simp)
      have rest := ih ordered (fun other otherMem => past other (by simp [otherMem]))
        (fun other otherMem => failures other (by simp [otherMem]))
      simpa [streak, failed] using rest
    · have before : event.time < start := by
        by_contra notBefore
        exact member ⟨by omega, by omega⟩
      rw [within_cons_of_not_mem member, within_eq_nil_of_before before newest]
      simp

/-- A period that lasts until now and holds an event holds the newest. -/
theorem start_le_of_within_ne_nil (ordered : events.Pairwise fun later earlier =>
      earlier.time ≤ later.time)
    (past : ∀ event ∈ events, event.time ≤ now)
    (inhabited : within period start events ≠ []) : ∃ last ∈ events.head?, start ≤ last.time := by
  cases events with
  | nil => simp [within] at inhabited
  | cons event events =>
    refine ⟨event, rfl, ?_⟩
    by_contra notStarted
    have eventPast := past event (by simp)
    have outside : ¬ InPeriod period start event := fun member => notStarted member.1
    rw [within_cons_of_not_mem outside, within_eq_nil_of_before (by omega)
        (List.pairwise_cons.mp ordered).1] at inhabited
    exact inhabited rfl

namespace Tracks

theorem none (positive : 0 ≤ limit) : Tracks limit period now counter [] where
  ordered := List.Pairwise.nil
  past := by simp
  counted := by simp [streak]
  locked := by simp
  bounded := by
    intro start _
    simpa [within] using positive

theorem wait {later : ℕ} (tracks : Tracks limit period now counter events)
    (passed : now ≤ later) : Tracks limit period later counter events :=
  { tracks with
    past := fun event member => Nat.le_trans (tracks.past event member) passed }

/-- An open counter has fewer failures behind it in the current period than
its limit. -/
theorem within_lt (tracks : Tracks limit period now counter events)
    (positive : 0 < limit) (open_ : counter.isLocked now = false) (current : now < start + period)
    (failures : ∀ event ∈ within period start events, event.failed = true) :
    ((within period start events).length : ℤ) < limit := by
  by_contra reached
  have enough : limit ≤ ((within period start events).length : ℤ) := by omega
  have inStreak := within_length_le_streak current tracks.ordered tracks.past failures
  have inhabited : within period start events ≠ [] := by
    intro empty
    rw [empty] at enough
    simp only [List.length_nil] at enough
    omega
  obtain ⟨last, newest, started⟩ := start_le_of_within_ne_nil tracks.ordered tracks.past inhabited
  obtain ⟨until_, stored, bound⟩ := tracks.locked (by omega) last newest
  rw [Counter.isLocked, Option.mem_def.mp stored, Option.any_some, decide_eq_false_iff_not] at open_
  omega

theorem fail (tracks : Tracks limit period now counter events)
    (positive : 0 < limit) (open_ : counter.isLocked now = false) :
    Tracks limit period now (counter.fail limit period now)
      ({ time := now, failed := true } :: events) where
  ordered := List.pairwise_cons.mpr ⟨tracks.past, tracks.ordered⟩
  past := by
    intro event member
    rcases List.mem_cons.mp member with rfl | member
    · exact Nat.le_refl _
    · exact tracks.past event member
  counted := by
    have := tracks.counted
    simp only [streak, List.takeWhile_cons_of_pos, List.length_cons, Counter.fail] at this ⊢
    omega
  locked := by
    intro enough last newest
    cases newest
    have counted := tracks.counted
    simp only [streak, List.takeWhile_cons_of_pos, List.length_cons] at enough counted
    refine ⟨now + period, ?_, Nat.le_refl _⟩
    rw [Counter.fail, if_pos (by push_cast at enough ⊢; omega)]
    rfl
  bounded := by
    intro start failures
    by_cases member : InPeriod period start { time := now, failed := true }
    · rw [within_cons_of_mem member] at failures ⊢
      have fewer := tracks.within_lt positive open_ member.2
        (fun event eventMem => failures event (by simp [eventMem]))
      rw [List.length_cons]
      omega
    · rw [within_cons_of_not_mem member] at failures ⊢
      exact tracks.bounded start failures

/-- A failure that is counted but is none of the events. -/
theorem bump (tracks : Tracks limit period now counter events) :
    Tracks limit period now (counter.fail limit period now) events :=
  { tracks with
    counted := Nat.le_trans tracks.counted (Nat.le_succ _)
    locked := by
      intro enough last newest
      have counted := tracks.counted
      have lastPast := tracks.past last (List.mem_of_mem_head? newest)
      refine ⟨now + period, ?_, by omega⟩
      rw [Counter.fail, if_pos (by push_cast; omega)]
      rfl }

theorem clear (tracks : Tracks limit period now counter events) (positive : 0 < limit) :
    Tracks limit period now {} ({ time := now, failed := false } :: events)
    where
  ordered := List.pairwise_cons.mpr ⟨tracks.past, tracks.ordered⟩
  past := by
    intro event member
    rcases List.mem_cons.mp member with rfl | member
    · exact Nat.le_refl _
    · exact tracks.past event member
  counted := by simp [streak]
  locked := by
    intro enough
    simp only [streak, Bool.false_eq_true, not_false_eq_true,
      List.takeWhile_cons_of_neg, List.length_nil] at enough
    omega
  bounded := by
    intro start failures
    by_cases member : InPeriod period start { time := now, failed := false }
    · rw [within_cons_of_mem member] at failures
      cases failures _ List.mem_cons_self
    · rw [within_cons_of_not_mem member] at failures ⊢
      exact tracks.bounded start failures

end Tracks

end

end LockoutCounter
