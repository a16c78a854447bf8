import Ithute.Library.TransitionRuns
import Mathlib.Logic.Function.Basic

/-!
# Interleaved calls

Calls run against shared state.  A step is one call's: it changes the shared
state and where that call stands, and nothing of the other calls.  An
invariant of the shared state with an assertion about each call is kept when
every step keeps its own call's assertion and disturbs no other's.
-/

namespace InterleavedCalls

open TransitionRuns

variable {Caller Shared Call Action : Type*} [DecidableEq Caller]

structure Interleaved (Caller Shared Call : Type*) where
  shared : Shared
  calls : Caller → Call

namespace Interleaved

variable (perform : Caller → Action → Shared → Call → Shared × Call)

/-- One step of one call. -/
def act (state : Interleaved Caller Shared Call) (move : Caller × Action) :
    Interleaved Caller Shared Call :=
  let after := perform move.1 move.2 state.shared (state.calls move.1)
  { shared := after.1
    calls := Function.update state.calls move.1 after.2 }

variable {perform} {state : Interleaved Caller Shared Call} {move : Caller × Action}

theorem calls_act_self : (state.act perform move).calls move.1 =
    (perform move.1 move.2 state.shared (state.calls move.1)).2 :=
  Function.update_self ..

theorem calls_act_of_ne {other : Caller} (different : other ≠ move.1) :
    (state.act perform move).calls other = state.calls other :=
  Function.update_of_ne different ..

/-- Steps of other calls leave a call where it stands. -/
theorem calls_foldl {moves : List (Caller × Action)} {caller : Caller}
    (absent : ∀ move ∈ moves, move.1 ≠ caller) :
    (moves.foldl (act perform) state).calls caller = state.calls caller := by
  induction moves generalizing state with
  | nil => rfl
  | cons move rest hypothesis =>
    rw [List.foldl_cons, hypothesis fun other member =>
        absent other (List.mem_cons_of_mem move member)]
    exact calls_act_of_ne (absent move List.mem_cons_self).symm

end Interleaved

/-- An invariant of the shared state with an assertion about each call. -/
structure Sound (holds : Shared → Prop) (asserts : Shared → Caller → Call → Prop)
    (state : Interleaved Caller Shared Call) : Prop where
  shared : holds state.shared
  calls : ∀ caller, asserts state.shared caller (state.calls caller)

namespace Sound

variable {perform : Caller → Action → Shared → Call → Shared × Call}
variable {holds : Shared → Prop} {asserts : Shared → Caller → Call → Prop}
variable {state : Interleaved Caller Shared Call} {move : Caller × Action}

/-- A step that keeps the assertion of its call and disturbs no other. -/
theorem act (sound : Sound holds asserts state) (shared : holds (state.act perform move).shared)
    (own : asserts (state.act perform move).shared move.1
      (perform move.1 move.2 state.shared (state.calls move.1)).2)
    (undisturbed : ∀ other call, other ≠ move.1 → asserts state.shared other call →
        asserts (state.act perform move).shared other call) :
    Sound holds asserts (state.act perform move) where
  shared := shared
  calls other := by
    by_cases same : other = move.1
    · rw [same, Interleaved.calls_act_self]
      exact own
    · rw [Interleaved.calls_act_of_ne same]
      exact undisturbed other _ same (sound.calls other)

end Sound

end InterleavedCalls
