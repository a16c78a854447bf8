import Mathlib.Data.List.Perm.Subperm
import Mathlib.Logic.Relation

/-!
# Breadth-first search with an early exit

The search keeps a queue of discovered vertices and a set of visited ones.  A
round takes the front of the queue and looks at its neighbours in order; it
stops at once when it meets the goal.  Vertices come from a finite list,
so a bounded number of rounds decides reachability.
-/

namespace WorklistSearch

variable {α : Type*} [DecidableEq α]

/-- The queue and the visited set. -/
structure SearchState (α : Type*) where
  pending : List α
  visited : List α

/-- Mark a vertex and queue it, unless it was visited before. -/
def SearchState.discover (state : SearchState α) (vertex : α) : SearchState α :=
  if vertex ∈ state.visited then state
  else ⟨state.pending ++ [vertex], vertex :: state.visited⟩

/-- Look at the neighbours of one vertex; `none` reports the goal. -/
def scan (goal : α) : List α → SearchState α → Option (SearchState α)
  | [], state => some state
  | neighbor :: rest, state =>
    if neighbor = goal then none
    else scan goal rest (state.discover neighbor)

/-- Rounds until the queue is empty or the goal is met, at most `fuel` of
them. -/
def search (neighbors : α → List α) (goal : α) : ℕ → SearchState α → Bool
  | 0, _ => false
  | fuel + 1, state =>
    match state.pending with
    | [] => false
    | current :: rest =>
      match scan goal (neighbors current) { state with pending := rest } with
      | none => true
      | some next => search neighbors goal fuel next

/-- The search from a single vertex. -/
def searchFrom (neighbors : α → List α) (source goal : α) (fuel : ℕ) : Bool :=
  search neighbors goal fuel ⟨[source], [source]⟩

/-- One edge of the graph. -/
def Adjacent (neighbors : α → List α) (source target : α) : Prop := target ∈ neighbors source

theorem scan_eq_none_iff (goal : α) (vertices : List α) (state : SearchState α) :
    scan goal vertices state = none ↔ goal ∈ vertices := by
  induction vertices generalizing state with
  | nil => simp [scan]
  | cons vertex rest ih =>
    by_cases found : vertex = goal
    · simp [scan, found]
    · simp [scan, found, ih, Ne.symm found]

/-- A scan that does not meet the goal queues exactly the unvisited
vertices. -/
theorem scan_some {goal : α} {vertices : List α}
    {state next : SearchState α} (scanned : scan goal vertices state = some next)
    (nodup : state.visited.Nodup) : ∃ fresh ⊆ vertices, next.pending = state.pending ++ fresh ∧
      next.visited = fresh.reverse ++ state.visited ∧
      next.visited.Nodup ∧ vertices ⊆ next.visited := by
  induction vertices generalizing state with
  | nil =>
    obtain rfl : state = next := by simpa [scan] using scanned
    exact ⟨[], List.nil_subset _, by simp, by simp, nodup, List.nil_subset _⟩
  | cons vertex rest ih =>
    have notGoal : vertex ≠ goal := by
      rintro rfl
      simp [scan] at scanned
    rw [scan, if_neg notGoal] at scanned
    by_cases seen : vertex ∈ state.visited
    · rw [SearchState.discover, if_pos seen] at scanned
      obtain ⟨fresh, subset, pending, visited, nextNodup, covered⟩ := ih scanned nodup
      have vertexVisited : vertex ∈ next.visited := by simp [visited, seen]
      exact ⟨fresh, fun _ member => List.mem_cons_of_mem _ (subset member),
        pending, visited, nextNodup, List.cons_subset.mpr ⟨vertexVisited, covered⟩⟩
    · rw [SearchState.discover, if_neg seen] at scanned
      obtain ⟨fresh, subset, pending, visited, nextNodup, covered⟩ :=
        ih scanned (List.nodup_cons.mpr ⟨seen, nodup⟩)
      have vertexVisited : vertex ∈ next.visited := by simp [visited]
      refine ⟨vertex :: fresh, ?_, by simpa using pending, by simpa using visited, nextNodup,
        List.cons_subset.mpr ⟨vertexVisited, covered⟩⟩
      exact List.cons_subset.mpr ⟨List.mem_cons_self,
        fun _ member => List.mem_cons_of_mem _ (subset member)⟩

section Correctness

variable {neighbors : α → List α} {vertices : List α} {source goal : α}

/-- The search invariant: visited vertices are reachable vertices of the
graph, the goal was not met yet, and vertices that left the queue have all
their neighbours visited. -/
structure Explored (neighbors : α → List α) (vertices : List α)
    (source goal : α) (state : SearchState α) : Prop where
  visited_nodup : state.visited.Nodup
  visited_subset : state.visited ⊆ vertices
  pending_subset : state.pending ⊆ state.visited
  source_visited : source ∈ state.visited
  goal_unseen : goal ∉ state.visited
  sound : ∀ vertex ∈ state.visited, Relation.ReflTransGen (Adjacent neighbors) source vertex
  closed : ∀ vertex ∈ state.visited, vertex ∉ state.pending → neighbors vertex ⊆ state.visited

variable {state : SearchState α}

omit [DecidableEq α] in
/-- An empty queue means that everything reachable was visited. -/
theorem Explored.mem_visited (explored : Explored neighbors vertices source goal state)
    (empty : state.pending = []) {vertex : α}
    (path : Relation.ReflTransGen (Adjacent neighbors) source vertex) : vertex ∈ state.visited := by
  induction path with
  | refl => exact explored.source_visited
  | tail _ edge ih => exact explored.closed _ ih (by simp [empty]) edge

/-- A round that does not meet the goal keeps the invariant and uses up one
unit of the bound on the remaining rounds. -/
theorem Explored.scan {next : SearchState α} {current : α} {rest : List α}
    (explored : Explored neighbors vertices source goal state)
    (inside : ∀ vertex ∈ vertices, neighbors vertex ⊆ vertices)
    (queue : state.pending = current :: rest)
    (scanned : WorklistSearch.scan goal (neighbors current)
      { state with pending := rest } = some next) : Explored neighbors vertices source goal next ∧
      vertices.length - next.visited.length + next.pending.length + 1 =
        vertices.length - state.visited.length + state.pending.length := by
  have currentVisited : current ∈ state.visited := explored.pending_subset (by simp [queue])
  have notGoal : goal ∉ neighbors current := by
    intro found
    rw [(scan_eq_none_iff goal _ _).mpr found] at scanned
    simp at scanned
  obtain ⟨fresh, subset, pending, visited, nodup, covered⟩ :=
    scan_some scanned explored.visited_nodup
  have mem_next (vertex : α) : vertex ∈ next.visited ↔ vertex ∈ fresh ∨ vertex ∈ state.visited := by
    simp [visited]
  have visitedSubset : next.visited ⊆ vertices := by
    intro vertex member
    rcases (mem_next vertex).mp member with new | old
    · exact inside current (explored.visited_subset currentVisited) (subset new)
    · exact explored.visited_subset old
  refine ⟨⟨nodup, visitedSubset, ?_, ?_, ?_, ?_, ?_⟩, ?_⟩
  · intro vertex member
    rw [pending] at member
    rcases List.mem_append.mp member with old | new
    · exact (mem_next vertex).mpr (Or.inr (explored.pending_subset (by simp [queue, old])))
    · exact (mem_next vertex).mpr (Or.inl new)
  · exact (mem_next source).mpr (Or.inr explored.source_visited)
  · intro found
    rcases (mem_next goal).mp found with new | old
    · exact notGoal (subset new)
    · exact explored.goal_unseen old
  · intro vertex member
    rcases (mem_next vertex).mp member with new | old
    · exact (explored.sound current currentVisited).tail (subset new)
    · exact explored.sound vertex old
  · intro vertex member notPending
    rw [pending] at notPending
    simp only [List.mem_append, not_or] at notPending
    by_cases same : vertex = current
    · rw [same]
      exact covered
    · have old := ((mem_next vertex).mp member).resolve_left notPending.2
      intro neighbor edge
      exact (mem_next neighbor).mpr (Or.inr (explored.closed vertex old
        (by simp [queue, same, notPending.1]) edge))
  · have bound : next.visited.length ≤ vertices.length :=
      (List.Nodup.subperm nodup visitedSubset).length_le
    simp only [visited, pending, queue, List.length_append,
      List.length_reverse, List.length_cons] at bound ⊢
    omega

/-- With enough fuel the search decides reachability of the goal. -/
theorem Explored.search_iff (explored : Explored neighbors vertices source goal state)
    (inside : ∀ vertex ∈ vertices, neighbors vertex ⊆ vertices) {fuel : ℕ}
    (enough : vertices.length - state.visited.length + state.pending.length ≤ fuel) :
    search neighbors goal fuel state = true ↔
      Relation.ReflTransGen (Adjacent neighbors) source goal := by
  induction fuel generalizing state with
  | zero =>
    have empty : state.pending = [] := List.eq_nil_of_length_eq_zero (by omega)
    simp only [search, Bool.false_eq_true, false_iff]
    exact fun path => explored.goal_unseen (explored.mem_visited empty path)
  | succ fuel ih =>
    cases queue : state.pending with
    | nil =>
      simp only [search, queue, Bool.false_eq_true, false_iff]
      exact fun path => explored.goal_unseen (explored.mem_visited queue path)
    | cons current rest =>
      simp only [search, queue]
      cases scanned : WorklistSearch.scan goal (neighbors current)
          { state with pending := rest } with
      | none =>
        have found := (scan_eq_none_iff goal _ _).mp scanned
        have currentVisited : current ∈ state.visited := explored.pending_subset (by simp [queue])
        simp only [true_iff]
        exact (explored.sound current currentVisited).tail found
      | some next =>
        obtain ⟨nextExplored, used⟩ := explored.scan inside queue scanned
        exact ih nextExplored (by omega)

/-- The search from a vertex of a finite graph decides whether a different
vertex is reachable. -/
theorem searchFrom_iff (inside : ∀ vertex ∈ vertices, neighbors vertex ⊆ vertices)
    (sourceMem : source ∈ vertices) (different : source ≠ goal) {fuel : ℕ}
    (enough : vertices.length ≤ fuel) : searchFrom neighbors source goal fuel = true ↔
      Relation.ReflTransGen (Adjacent neighbors) source goal := by
  have explored : Explored neighbors vertices source goal ⟨[source], [source]⟩ := by
    refine ⟨by simp, by simpa using sourceMem, by simp, by simp,
      by simpa using different.symm, ?_, ?_⟩
    · intro vertex member
      rw [List.mem_singleton.mp member]
    · intro vertex member notPending
      exact (notPending member).elim
  apply explored.search_iff inside
  have positive := List.length_pos_of_mem sourceMem
  simp only [List.length_singleton]
  omega

end Correctness

end WorklistSearch
