import Mathlib.Data.List.Basic
import Mathlib.Order.Lattice

/-!
# Registers that keep the latest event

A register holds the time and the value of the latest event about it, or
nothing.  Merging an event that is not older than the register keeps this, and
so does leaving out one that is older.  Where no two events about the register
share a time, histories with the same events give the same register.
-/

namespace LatestEvent

variable {Event τ α : Type*} [LinearOrder τ]

/-- The register holds the latest of the events about it. -/
def Tells (about : Event → Prop) (time : Event → τ) (value : Event → α)
    (events : List Event) : Option (τ × α) → Prop
  | none => ∀ event ∈ events, ¬ about event
  | some register =>
    ∃ event ∈ events, about event ∧ (time event, value event) = register ∧
      ∀ other ∈ events, about other → time other ≤ register.1

/-- No two events about the register share a time. -/
def DistinctTimes (about : Event → Prop) (time : Event → τ) (events : List Event) : Prop :=
  ∀ first ∈ events, ∀ second ∈ events, about first → about second →
    time first = time second → first = second

variable {about : Event → Prop} {time : Event → τ} {value : Event → α}
variable {events : List Event} {event : Event}

namespace Tells

theorem nil : Tells about time value [] none := fun _ member => nomatch member

variable {register : Option (τ × α)}

/-- An event about something else. -/
theorem skip (tells : Tells about time value events register)
    (other : ¬ about event) : Tells about time value (events ++ [event]) register := by
  cases register with
  | none =>
    intro earlier member
    rcases List.mem_append.mp member with old | new
    · exact tells earlier old
    · rw [List.mem_singleton.mp new]
      exact other
  | some register =>
    obtain ⟨latest, latestMem, latestAbout, same, bound⟩ := tells
    refine ⟨latest, List.mem_append_left _ latestMem, latestAbout, same, ?_⟩
    intro earlier member earlierAbout
    rcases List.mem_append.mp member with old | new
    · exact bound earlier old earlierAbout
    · rw [List.mem_singleton.mp new] at earlierAbout
      exact absurd earlierAbout other

/-- An event about the register that is not older than any before it. -/
theorem latest (newest : ∀ other ∈ events, about other →
      time other ≤ time event) (here : about event) :
    Tells about time value (events ++ [event]) (some (time event, value event)) := by
  refine ⟨event, List.mem_append_right _ (List.mem_singleton_self _), here, rfl, ?_⟩
  intro earlier member earlierAbout
  rcases List.mem_append.mp member with old | new
  · exact newest earlier old earlierAbout
  · rw [List.mem_singleton.mp new]

theorem first (tells : Tells about time value events none) (here : about event) :
    Tells about time value (events ++ [event]) (some (time event, value event)) :=
  latest (fun other member otherAbout => absurd otherAbout (tells other member)) here

theorem newer {register : τ × α} (tells : Tells about time value events (some register))
    (here : about event) (notOlder : register.1 ≤ time event) :
    Tells about time value (events ++ [event]) (some (time event, value event)) := by
  obtain ⟨-, -, -, -, bound⟩ := tells
  exact latest (fun other member otherAbout =>
    le_trans (bound other member otherAbout) notOlder) here

/-- An event that is not newer than the register may be left out. -/
theorem older {register : τ × α} (tells : Tells about time value events (some register))
    (notNewer : time event ≤ register.1) :
    Tells about time value (events ++ [event]) (some register) := by
  obtain ⟨latest, latestMem, latestAbout, same, bound⟩ := tells
  refine ⟨latest, List.mem_append_left _ latestMem, latestAbout, same, ?_⟩
  intro earlier member earlierAbout
  rcases List.mem_append.mp member with old | new
  · exact bound earlier old earlierAbout
  · rw [List.mem_singleton.mp new]
    exact notNewer

theorem eq_of_greatest (tells : Tells about time value events register)
    (distinct : DistinctTimes about time events) (member : event ∈ events) (here : about event)
    (greatest : ∀ other ∈ events, about other → time other ≤ time event) :
    register = some (time event, value event) := by
  cases register with
  | none => exact absurd here (tells event member)
  | some register =>
    obtain ⟨latest, latestMem, latestAbout, same, bound⟩ := tells
    have sameTime : time latest = time event := by
      apply le_antisymm (greatest latest latestMem latestAbout)
      rw [← same] at bound
      exact bound event member here
    rw [← same, distinct latest latestMem event member latestAbout here sameTime]

/-- Order and multiplicity do not matter. -/
theorem unique {first second : List Event} {other : Option (τ × α)}
    (tells : Tells about time value first register)
    (tellsOther : Tells about time value second other)
    (sameEvents : ∀ event, event ∈ first ↔ event ∈ second)
    (distinct : DistinctTimes about time first) : register = other := by
  cases other with
  | none =>
    cases register with
    | none => rfl
    | some register =>
      obtain ⟨latest, latestMem, latestAbout, -⟩ := tells
      exact absurd latestAbout (tellsOther latest ((sameEvents latest).mp latestMem))
  | some other =>
    obtain ⟨latest, latestMem, latestAbout, same, bound⟩ := tellsOther
    rw [← same]
    apply tells.eq_of_greatest distinct ((sameEvents latest).mpr latestMem) latestAbout
    intro earlier member earlierAbout
    rw [← same] at bound
    exact bound earlier ((sameEvents earlier).mp member) earlierAbout

end Tells

end LatestEvent
