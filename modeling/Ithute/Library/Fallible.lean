import Mathlib.Init

/-!
# Calls that may fail

A sequence of calls succeeds when each of them does.
-/

namespace Fallible

universe u

variable {Error : Type*} {Value Result : Type u}

theorem bind_ok {first : Except Error Value} {rest : Value → Except Error Result} {result : Result}
    (accepted : first >>= rest = .ok result) :
    ∃ value, first = .ok value ∧ rest value = .ok result := by
  cases first with
  | error detail => cases accepted
  | ok value => exact ⟨value, rfl, accepted⟩

/-- What passes a guard is not refused by it. -/
theorem guard_ok {refused : Prop} [Decidable refused] {error : Error} {rest : Except Error Result}
    {result : Result} (accepted : (if refused then .error error else rest) = .ok result) :
    ¬ refused ∧ rest = .ok result := by
  split at accepted
  · cases accepted
  · exact ⟨‹_›, accepted⟩

end Fallible
