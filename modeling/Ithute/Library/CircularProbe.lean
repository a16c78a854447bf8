import Mathlib.Algebra.Ring.Nat
import Mathlib.Data.List.Basic
import Mathlib.Data.Fin.Basic

/-!
# Circular probes

A probe tries all places of a circle one after the other, from any place on,
and stops at the first one that fits.
-/

namespace CircularProbe

variable {β : Type*} {total : ℕ} [NeZero total] {fits : Fin total → Option β} {found : β}

/-- What the first place that fits gives. -/
def probe (start : ℕ) (fits : Fin total → Option β) : Option β :=
  (List.range total).findSome? fun offset => fits (Fin.ofNat total (start + offset))

/-- The probe comes by every place. -/
theorem exists_offset (start : ℕ) (place : Fin total) :
    ∃ offset < total, Fin.ofNat total (start + offset) = place := by
  have below := place.isLt
  have wraps := Nat.mod_lt start (Nat.zero_lt_of_lt below)
  rcases Nat.lt_or_ge place (start % total) with behind | ahead
  · -- The end of the circle comes first.
    refine ⟨place + (total - start % total), by omega, Fin.ext ?_⟩
    have whole : start % total + (place + (total - start % total)) = place + total := by omega
    rw [Fin.val_ofNat, ← Nat.mod_add_mod, whole, Nat.add_mod_right, Nat.mod_eq_of_lt below]
  · refine ⟨place - start % total, by omega, Fin.ext ?_⟩
    rw [Fin.val_ofNat, ← Nat.mod_add_mod, Nat.add_sub_cancel' ahead, Nat.mod_eq_of_lt below]

theorem probe_eq_none_iff (start : ℕ) : probe start fits = none ↔ ∀ place, fits place = none := by
  unfold probe
  rw [List.findSome?_eq_none_iff]
  constructor
  · intro none place
    obtain ⟨offset, below, rfl⟩ := exists_offset start place
    exact none offset (List.mem_range.mpr below)
  · intro none offset _
    exact none _

theorem exists_of_probe {start : ℕ} (probes : probe start fits = some found) :
    ∃ place, fits place = some found := by
  obtain ⟨offset, -, fitting⟩ := List.exists_of_findSome?_eq_some probes
  exact ⟨_, fitting⟩

end CircularProbe
