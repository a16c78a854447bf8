import Mathlib.Algebra.BigOperators.Group.List.Basic
import Mathlib.Algebra.Order.BigOperators.Group.List
import Mathlib.Algebra.Ring.Nat

/-!
# Walks with a stack

A loop takes the top of a stack, visits it and puts its children on the stack.
The children of a node are smaller than the node together, so that the loop
ends, and what it does is a fold over the nodes in the order of the visits.
-/

namespace StackWalk

/-- Nodes with children that are smaller together. -/
structure Branching (α : Type*) where
  children : α → List α
  size : α → ℕ
  smaller : ∀ node, ((children node).map size).sum < size node

variable {α σ ε : Type*} (tree : Branching α)

/-- The children of a node, one level below it. -/
def below (entry : α × ℕ) : List (α × ℕ) :=
  (tree.children entry.1).map fun child => (child, entry.2 + 1)

/-- The size of what is on the stack. -/
def weight (stack : List (α × ℕ)) : ℕ := (stack.map fun entry => tree.size entry.1).sum

theorem weight_below_lt (entry : α × ℕ) (stack : List (α × ℕ)) :
    weight tree (below tree entry ++ stack) < weight tree (entry :: stack) := by
  have smaller := tree.smaller entry.1
  simp only [weight, below, List.map_append, List.map_map, List.sum_append, List.map_cons,
    List.sum_cons]
  exact Nat.add_lt_add_right smaller _

/-- The loop. -/
def walk (visit : σ → α × ℕ → Except ε σ) : List (α × ℕ) → σ → Except ε σ
  | [], state => .ok state
  | entry :: stack, state =>
    match visit state entry with
    | .error error => .error error
    | .ok following => walk visit (below tree entry ++ stack) following
termination_by stack => weight tree stack
decreasing_by exact weight_below_lt tree entry stack

/-- The nodes in the order of the visits. -/
def visited : List (α × ℕ) → List (α × ℕ)
  | [] => []
  | entry :: stack => entry :: visited (below tree entry ++ stack)
termination_by stack => weight tree stack
decreasing_by exact weight_below_lt tree entry stack

theorem walk_eq_foldlM (visit : σ → α × ℕ → Except ε σ) (stack : List (α × ℕ)) (state : σ) :
    walk tree visit stack state = (visited tree stack).foldlM visit state := by
  induction stack, state using walk.induct tree visit with
  | case1 state => simp [walk, visited, pure, Except.pure]
  | case2 state entry stack error failed =>
    rw [walk, failed, visited, List.foldlM_cons, failed]
    rfl
  | case3 state entry stack following succeeded ih =>
    rw [walk, succeeded, visited, List.foldlM_cons, succeeded]
    exact ih

end StackWalk
