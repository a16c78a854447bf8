import Ithute.ClusterGraph
import Ithute.Library.WorklistSearch

/-!
# Reachability in the native cluster graph

The breadth-first search of `reachable` decides whether a directed path of
stored edges leads from one stored node to another.
-/

namespace Ithute

open UnorderedMap WorklistSearch

namespace ClusterGraph

/-- Look at the edges of one node; `none` is the early `return true`. -/
def visitEdges (graph : ClusterGraph) (target : NodeId) :
    List Edge → SearchState NodeId → Option (SearchState NodeId)
  | [], state => some state
  | edge :: rest, state =>
    if edge.target = target then none
    else
      visitEdges graph target rest (if edge.target ∈ graph.nodes then state.discover edge.target
        else state)

/-- `while (!pending.empty())`, for at most `fuel` rounds. -/
def searchNodes (graph : ClusterGraph) (target : NodeId) : ℕ → SearchState NodeId → Bool
  | 0, _ => false
  | fuel + 1, state =>
    match state.pending with
    | [] => false
    | current :: rest =>
      match graph.adjacency.lookup current with
      | none => searchNodes graph target fuel { state with pending := rest }
      | some edges =>
        match visitEdges graph target edges { state with pending := rest } with
        | none => true
        | some next => searchNodes graph target fuel next

def reachable (graph : ClusterGraph) (source target : NodeId) : Bool :=
  if source ∉ graph.nodes ∨ target ∉ graph.nodes then false
  else if source = target then true
  else
    searchNodes graph target graph.nodeIds.length { pending := [source], visited := [source] }

/-- A stored edge leads from `source` to `target`. -/
def HasEdge (graph : ClusterGraph) (source target : NodeId) : Prop :=
  ∃ edge ∈ graph.storedEdges, edge.source = source ∧ edge.target = target

def targetsOf (graph : ClusterGraph) (id : NodeId) : List NodeId :=
  ((graph.adjacency.lookup id).getD []).map Edge.target

theorem visitEdges_eq {graph : ClusterGraph} {edges : List Edge}
    (targets : ∀ edge ∈ edges, edge.target ∈ graph.nodes) (target : NodeId)
    (state : SearchState NodeId) : graph.visitEdges target edges state =
      scan target (edges.map Edge.target) state := by
  induction edges generalizing state with
  | nil => rfl
  | cons edge edges ih =>
    obtain ⟨edgeTarget, restTargets⟩ := List.forall_mem_cons.mp targets
    rw [visitEdges, List.map_cons, scan, if_pos edgeTarget, ih restTargets]

section

variable {graph : ClusterGraph} (wellFormed : graph.WellFormed)
include wellFormed

theorem searchNodes_eq (target : NodeId) (fuel : ℕ) (state : SearchState NodeId) :
    graph.searchNodes target fuel state = search graph.targetsOf target fuel state := by
  induction fuel generalizing state with
  | zero => rfl
  | succ fuel ih =>
    unfold searchNodes search
    cases queue : state.pending with
    | nil => rfl
    | cons current rest =>
      cases found : graph.adjacency.lookup current with
      | none =>
        have noTargets : graph.targetsOf current = [] := by simp [targetsOf, found]
        simp [found, noTargets, scan, ih]
      | some edges =>
        have targets : graph.targetsOf current = edges.map Edge.target := by simp [targetsOf, found]
        have inside : ∀ edge ∈ edges, edge.target ∈ graph.nodes :=
          fun edge edgeMem => (wellFormed.edge_ends current edges found edge edgeMem).2.1
        simp only [found, visitEdges_eq inside, targets, ih]
        cases scan target (edges.map Edge.target) { state with pending := rest } <;> rfl

theorem mem_targetsOf {source target : NodeId} :
    target ∈ graph.targetsOf source ↔ graph.HasEdge source target := by
  constructor
  · intro member
    obtain ⟨edge, edgeMem, rfl⟩ := List.mem_map.mp member
    cases found : graph.adjacency.lookup source with
    | none => simp [found] at edgeMem
    | some edges =>
      rw [found] at edgeMem
      exact ⟨edge, mem_storedEdges_iff.mpr ⟨source, edges, found, edgeMem⟩,
        (wellFormed.edge_ends source edges found edge edgeMem).1, rfl⟩
  · rintro ⟨edge, stored, rfl, rfl⟩
    obtain ⟨edges, found, edgeMem⟩ := wellFormed.mem_storedEdges.mp stored
    exact List.mem_map.mpr ⟨edge, by simpa [found] using edgeMem, rfl⟩

/-- `reachable` decides the existence of a directed path between stored
nodes. -/
theorem reachable_iff (source target : NodeId) : graph.reachable source target = true ↔
      source ∈ graph.nodes ∧ target ∈ graph.nodes ∧
        Relation.ReflTransGen graph.HasEdge source target := by
  by_cases known : source ∈ graph.nodes ∧ target ∈ graph.nodes
  · have bothKnown : ¬ (source ∉ graph.nodes ∨ target ∉ graph.nodes) := by simp [known]
    rw [reachable, if_neg bothKnown]
    by_cases same : source = target
    · subst same
      simp [known, Relation.ReflTransGen.refl]
    · rw [if_neg same, searchNodes_eq wellFormed]
      have inside : ∀ id ∈ graph.nodeIds, graph.targetsOf id ⊆ graph.nodeIds := by
        intro id _ other member
        obtain ⟨edge, stored, -, rfl⟩ := (mem_targetsOf wellFormed).mp member
        exact (wellFormed.ends_of_mem stored).2.1
      have decides := searchFrom_iff inside known.1 same (le_refl _)
      have sameEdges : Adjacent graph.targetsOf = graph.HasEdge := by
        ext one other
        exact mem_targetsOf wellFormed
      rw [sameEdges] at decides
      simp only [known, true_and]
      exact decides
  · have unknown : source ∉ graph.nodes ∨ target ∉ graph.nodes := not_and_or.mp known
    simp only [reachable, unknown, if_true, Bool.false_eq_true, false_iff]
    exact fun both => known ⟨both.1, both.2.1⟩

end

end ClusterGraph

end Ithute
