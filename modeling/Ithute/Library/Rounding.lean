import Mathlib.Algebra.Order.Round
import Mathlib.Tactic.Linarith
import Mathlib.Tactic.NormNum

/-!
# Two ways to round to the nearest integer

Mathlib's `round` takes ties upwards.  Rounding ties to the even neighbour
differs from it exactly where the upper neighbour of a tie is odd.
-/

namespace Rounding

variable {α : Type*} [Field α] [LinearOrder α] [IsStrictOrderedRing α] [FloorRing α]

/-- Round to the nearest integer, ties to the even neighbour. -/
def roundHalfEven (value : α) : ℤ :=
  if Int.fract value < 1 / 2 then ⌊value⌋
  else if 1 / 2 < Int.fract value then ⌊value⌋ + 1
  else if Even ⌊value⌋ then ⌊value⌋
  else ⌊value⌋ + 1

/-- A tie whose even neighbour is the lower one. -/
def LowEvenTie (value : α) : Prop := ∃ half : ℤ, value = 2 * half + 1 / 2

variable (value : α)

theorem round_eq_floor_iff : round value = ⌊value⌋ ↔ Int.fract value < 1 / 2 := by
  have split := Int.floor_add_fract value
  rw [round_eq_iff, Set.mem_Ico]
  constructor
  · rintro ⟨-, upper⟩
    linarith
  · intro below
    have nonneg := Int.fract_nonneg value
    constructor <;> linarith

theorem round_eq_floor_add_one {value : α}
    (above : 1 / 2 ≤ Int.fract value) : round value = ⌊value⌋ + 1 := by
  have split := Int.floor_add_fract value
  have belowOne := Int.fract_lt_one value
  rw [round_eq_iff, Set.mem_Ico]
  push_cast
  constructor <;> linarith

theorem lowEvenTie_iff : LowEvenTie value ↔ Int.fract value = 1 / 2 ∧ Even ⌊value⌋ := by
  have split := Int.floor_add_fract value
  constructor
  · rintro ⟨half, same⟩
    have floor : ⌊value⌋ = 2 * half := by
      rw [Int.floor_eq_iff, same]
      push_cast
      constructor <;> linarith
    rw [floor] at split ⊢
    push_cast at split
    exact ⟨by linarith, even_two_mul half⟩
  · rintro ⟨fract, even⟩
    obtain ⟨half, floor⟩ := even
    refine ⟨half, ?_⟩
    rw [floor, fract] at split
    push_cast at split
    linarith

/-- The two roundings agree exactly off the ties `2 k + 1 / 2`. -/
theorem roundHalfEven_eq_round_iff : roundHalfEven value = round value ↔ ¬ LowEvenTie value := by
  rw [lowEvenTie_iff]
  rcases lt_trichotomy (Int.fract value) (1 / 2) with below | tie | above
  · have rounded := (round_eq_floor_iff value).mpr below
    rw [roundHalfEven, if_pos below, rounded]
    exact iff_of_true rfl fun tie => ne_of_lt below tie.1
  · have rounded := round_eq_floor_add_one (le_of_eq tie.symm)
    by_cases even : Even ⌊value⌋ <;>
      simp [roundHalfEven, tie, rounded, even]
  · have rounded := round_eq_floor_add_one (le_of_lt above)
    rw [roundHalfEven, if_neg (not_lt_of_gt above), if_pos above, rounded]
    exact iff_of_true rfl fun tie => ne_of_gt above tie.1

theorem roundHalfEven_mem : value - 1 / 2 ≤ roundHalfEven value ∧
      (roundHalfEven value : α) ≤ value + 1 / 2 := by
  have split := Int.floor_add_fract value
  have nonneg := Int.fract_nonneg value
  have belowOne := Int.fract_lt_one value
  unfold roundHalfEven
  split_ifs <;> push_cast <;> constructor <;> linarith

/-- Values that round to the same integer are at most one apart. -/
theorem abs_sub_le_one {first second : α}
    (same : roundHalfEven first = round second) : |first - second| ≤ 1 := by
  obtain ⟨lower, upper⟩ := roundHalfEven_mem first
  have lower' := sub_half_lt_round second
  have upper' := round_le_add_half second
  rw [same] at lower upper
  rw [abs_le]
  constructor <;> linarith

/-- Rounding keeps integer bounds. -/
theorem roundHalfEven_bounds {value : α} {low high : ℤ}
    (lower : (low : α) ≤ value) (upper : value ≤ high) :
    low ≤ roundHalfEven value ∧ roundHalfEven value ≤ high := by
  obtain ⟨below, above⟩ := roundHalfEven_mem value
  constructor
  · have close : ((low - 1 : ℤ) : α) < roundHalfEven value := by
      push_cast
      linarith
    have integers := Int.cast_lt.mp close
    omega
  · have close : (roundHalfEven value : α) < ((high + 1 : ℤ) : α) := by
      push_cast
      linarith
    have integers := Int.cast_lt.mp close
    omega

theorem round_bounds {value : α} {low high : ℤ} (lower : (low : α) ≤ value) (upper : value ≤ high) :
    low ≤ round value ∧ round value ≤ high := by
  have below := sub_half_lt_round value
  have above := round_le_add_half value
  constructor
  · have close : ((low - 1 : ℤ) : α) < round value := by
      push_cast
      linarith
    have integers := Int.cast_lt.mp close
    omega
  · have close : (round value : α) < ((high + 1 : ℤ) : α) := by
      push_cast
      linarith
    have integers := Int.cast_lt.mp close
    omega

end Rounding
