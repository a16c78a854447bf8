import Ithute.Library.UnorderedMap
import Ithute.PythonValues

/-!
# The native cluster graph

Nodes and edges of the C++ cluster engine, the four operations that change a
graph, and what every graph built by them has in common.
-/

namespace Ithute

open UnorderedMap

/-- A `std::string` of the cluster engine. -/
abbrev NodeId := Bytes

inductive NodeStatus where
  | unknown | online | offline | maintenance
  deriving DecidableEq

inductive Relation where
  | communicatesWith | hosts | dependsOn | backsUpTo | replicatesTo
  deriving DecidableEq

structure ResourceState where
  memoryTotalBytes : UInt64 := 0
  memoryUsedBytes : UInt64 := 0
  storageTotalBytes : UInt64 := 0
  storageUsedBytes : UInt64 := 0

structure Node where
  id : NodeId
  name : Bytes := []
  privateIp : Bytes := []
  status : NodeStatus := .unknown
  healthy : Bool := false
  resources : ResourceState := {}

structure Edge where
  source : NodeId
  target : NodeId
  relation : Relation := .communicatesWith
  service : Bytes := []
  protocol : Bytes := []
  port : UInt16 := 0
  deriving DecidableEq

structure ClusterGraph where
  nodes : UnorderedMap NodeId Node
  adjacency : UnorderedMap NodeId (List Edge)
  edgeCount : ℕ

namespace ClusterGraph

def empty : ClusterGraph where
  nodes := ∅
  adjacency := ∅
  edgeCount := 0

def upsertNode (graph : ClusterGraph) (node : Node) : ClusterGraph :=
  if node.id = [] then graph
  else
    { graph with
      nodes := graph.nodes.insert node.id node
      adjacency := tryEmplace graph.adjacency node.id [] }

def eraseOwnEdges (graph : ClusterGraph) (nodeId : NodeId) : ClusterGraph :=
  match graph.adjacency.lookup nodeId with
  | none => graph
  | some own =>
    { graph with
      adjacency := graph.adjacency.erase nodeId
      edgeCount := graph.edgeCount - own.length }

/-- The edges of one list that do not lead to `nodeId`. -/
def edgesAvoiding (nodeId : NodeId) (edges : List Edge) : List Edge :=
  edges.filter fun edge => edge.target ≠ nodeId

def eraseIncomingEdges (graph : ClusterGraph) (nodeId : NodeId) : ClusterGraph :=
  { graph with
    adjacency := mapValues (edgesAvoiding nodeId) graph.adjacency
    edgeCount := graph.edgeCount -
      total (fun edges => edges.length - (edgesAvoiding nodeId edges).length) graph.adjacency }

def removeNode (graph : ClusterGraph) (nodeId : NodeId) : ClusterGraph × Bool :=
  if nodeId ∉ graph.nodes then (graph, false)
  else
    let erased := { graph with nodes := graph.nodes.erase nodeId }
    ((erased.eraseOwnEdges nodeId).eraseIncomingEdges nodeId, true)

def upsertEdge (graph : ClusterGraph) (edge : Edge) : ClusterGraph × Bool :=
  if edge.source = [] ∨ edge.target = [] ∨ edge.source = edge.target then
    (graph, false)
  else if edge.source ∉ graph.nodes ∨ edge.target ∉ graph.nodes then
    (graph, false)
  else
    -- `adjacency_[edge.source]` creates a missing list.
    let adjacency := tryEmplace graph.adjacency edge.source []
    let edges := (adjacency.lookup edge.source).getD []
    if edge ∈ edges then ({ graph with adjacency := adjacency }, true)
    else
      ({ graph with
          adjacency := adjacency.insert edge.source (edges ++ [edge])
          edgeCount := graph.edgeCount + 1 }, true)

def removeEdge (graph : ClusterGraph) (edge : Edge) : ClusterGraph × Bool :=
  match graph.adjacency.lookup edge.source with
  | none => (graph, false)
  | some edges =>
    let kept := edges.filter (· ≠ edge)
    let removed := edges.length - kept.length
    ({ graph with
        adjacency := graph.adjacency.insert edge.source kept
        edgeCount := graph.edgeCount - removed }, removed ≠ 0)

inductive Operation where
  | upsertNode (node : Node)
  | removeNode (nodeId : NodeId)
  | upsertEdge (edge : Edge)
  | removeEdge (edge : Edge)

def apply (graph : ClusterGraph) : Operation → ClusterGraph
  | .upsertNode node => graph.upsertNode node
  | .removeNode nodeId => (graph.removeNode nodeId).1
  | .upsertEdge edge => (graph.upsertEdge edge).1
  | .removeEdge edge => (graph.removeEdge edge).1

def run (operations : List Operation) : ClusterGraph := operations.foldl apply empty

def nodeIds (graph : ClusterGraph) : List NodeId := graph.nodes.keys

def storedEdges (graph : ClusterGraph) : List Edge :=
  graph.adjacency.entries.flatMap fun entry => entry.2

structure WellFormed (graph : ClusterGraph) : Prop where
  same_keys : ∀ id, id ∈ graph.adjacency ↔ id ∈ graph.nodes
  node_id : ∀ id node, graph.nodes.lookup id = some node → node.id = id
  id_nonempty : [] ∉ graph.nodes
  edges_nodup : ∀ id edges, graph.adjacency.lookup id = some edges → edges.Nodup
  edge_ends : ∀ id edges, graph.adjacency.lookup id = some edges →
    ∀ edge ∈ edges, edge.source = id ∧ edge.target ∈ graph.nodes ∧ edge.source ≠ edge.target
  counted : graph.edgeCount = total List.length graph.adjacency

variable {graph : ClusterGraph}

theorem mem_storedEdges_iff {edge : Edge} : edge ∈ graph.storedEdges ↔
      ∃ id edges, graph.adjacency.lookup id = some edges ∧ edge ∈ edges := by
  simp only [storedEdges, List.mem_flatMap, mem_entries_iff, Sigma.exists]

section Contents

variable {graph : ClusterGraph} (wellFormed : graph.WellFormed) {edge : Edge}
include wellFormed

theorem WellFormed.mem_storedEdges : edge ∈ graph.storedEdges ↔ ∃ edges,
      graph.adjacency.lookup edge.source = some edges ∧ edge ∈ edges := by
  rw [mem_storedEdges_iff]
  constructor
  · rintro ⟨id, edges, found, member⟩
    have source := (wellFormed.edge_ends id edges found edge member).1
    exact ⟨edges, by rwa [source], member⟩
  · rintro ⟨edges, found, member⟩
    exact ⟨edge.source, edges, found, member⟩

theorem WellFormed.ends_of_mem (member : edge ∈ graph.storedEdges) :
    edge.source ∈ graph.nodes ∧ edge.target ∈ graph.nodes ∧ edge.source ≠ edge.target := by
  obtain ⟨edges, found, inList⟩ := wellFormed.mem_storedEdges.mp member
  obtain ⟨-, target, different⟩ := wellFormed.edge_ends _ edges found edge inList
  exact ⟨(wellFormed.same_keys _).mp (mem_of_lookup found), target, different⟩

theorem WellFormed.storedEdges_nodup : graph.storedEdges.Nodup := by
  apply List.nodup_flatMap.mpr
  constructor
  · intro entry entryMem
    exact wellFormed.edges_nodup entry.1 entry.2 (mem_entries_iff.mp entryMem)
  · have entriesNodup := List.nodupKeys_iff_pairwise.mp graph.adjacency.nodupKeys
    refine entriesNodup.imp_of_mem ?_
    intro first second firstMem secondMem different other inFirst inSecond
    have firstSource := (wellFormed.edge_ends _ _ (mem_entries_iff.mp firstMem) other inFirst).1
    have secondSource := (wellFormed.edge_ends _ _ (mem_entries_iff.mp secondMem) other inSecond).1
    exact different (firstSource.symm.trans secondSource)

theorem WellFormed.length_storedEdges : graph.storedEdges.length = graph.edgeCount := by
  rw [wellFormed.counted, storedEdges, List.length_flatMap]
  rfl

end Contents

theorem empty_wellFormed : empty.WellFormed where
  same_keys := fun _ => Iff.rfl
  node_id := by simp [empty]
  id_nonempty := AList.notMem_empty []
  edges_nodup := by simp [empty]
  edge_ends := by simp [empty]
  counted := rfl

theorem upsertNode_wellFormed (wellFormed : graph.WellFormed) (node : Node) :
    (graph.upsertNode node).WellFormed := by
  unfold upsertNode
  split
  · exact wellFormed
  · next nonempty =>
      have edgesOld {id : NodeId} {edges : List Edge}
          (found : (tryEmplace graph.adjacency node.id []).lookup id = some edges) :
          edges = [] ∨ graph.adjacency.lookup id = some edges := by
        by_cases present : id ∈ graph.adjacency
        · rw [lookup_tryEmplace_of_mem present] at found
          exact Or.inr found
        · have same : id = node.id :=
            (mem_tryEmplace.mp (mem_of_lookup found)).resolve_right present
          subst same
          rw [lookup_tryEmplace_self_of_not_mem present] at found
          exact Or.inl (Option.some.inj found).symm
      refine ⟨?_, ?_, ?_, ?_, ?_, ?_⟩
      · intro id
        rw [mem_tryEmplace, AList.mem_insert, wellFormed.same_keys]
      · intro id other found
        by_cases same : id = node.id
        · subst same
          rw [AList.lookup_insert] at found
          rw [Option.some.inj found]
        · rw [AList.lookup_insert_ne same] at found
          exact wellFormed.node_id id other found
      · rw [AList.mem_insert]
        rintro (same | member)
        · exact nonempty same.symm
        · exact wellFormed.id_nonempty member
      · intro id edges found
        rcases edgesOld found with rfl | old
        · exact List.nodup_nil
        · exact wellFormed.edges_nodup id edges old
      · intro id edges found edge member
        rcases edgesOld found with rfl | old
        · simp at member
        · obtain ⟨source, target, different⟩ := wellFormed.edge_ends id edges old edge member
          exact ⟨source, (AList.mem_insert _).mpr (Or.inr target), different⟩
      · rw [wellFormed.counted]
        by_cases present : node.id ∈ graph.adjacency
        · simp [tryEmplace, present]
        · simp [tryEmplace, present, total_insert_of_not_mem]

theorem removeNode_eq (wellFormed : graph.WellFormed)
    {nodeId : NodeId} (present : nodeId ∈ graph.nodes) : (graph.removeNode nodeId).1 =
      { nodes := graph.nodes.erase nodeId
        adjacency := mapValues (edgesAvoiding nodeId) (graph.adjacency.erase nodeId)
        edgeCount := total List.length (mapValues (edgesAvoiding nodeId)
            (graph.adjacency.erase nodeId)) } := by
  obtain ⟨own, found⟩ := Option.isSome_iff_exists.mp
    (AList.lookup_isSome.mpr ((wellFormed.same_keys nodeId).mpr present))
  have ownCount := total_erase List.length found
  -- Each list loses what the filter drops, so the counts add up.
  have dropped : total (fun edges =>
        edges.length - (edgesAvoiding nodeId edges).length) (graph.adjacency.erase nodeId) +
      total (fun edges => (edgesAvoiding nodeId edges).length) (graph.adjacency.erase nodeId) =
        total List.length (graph.adjacency.erase nodeId) := by
    rw [total, total, total, ← List.sum_map_add]
    congr 1
    apply List.map_congr_left
    intro entry _
    have kept := List.length_filter_le (fun edge : Edge => decide (edge.target ≠ nodeId)) entry.2
    simp only [edgesAvoiding] at kept ⊢
    omega
  have removed : (graph.removeNode nodeId).1 =
      ({ graph with nodes := graph.nodes.erase nodeId }.eraseOwnEdges
        nodeId).eraseIncomingEdges nodeId := by
    simp [removeNode, present]
  rw [removed]
  simp only [eraseOwnEdges, found, eraseIncomingEdges, total_mapValues, wellFormed.counted]
  congr 1
  omega

theorem removeNode_wellFormed
    (wellFormed : graph.WellFormed) (nodeId : NodeId) : (graph.removeNode nodeId).1.WellFormed := by
  by_cases present : nodeId ∈ graph.nodes
  · rw [removeNode_eq wellFormed present]
    have edgesOld {id : NodeId} {edges : List Edge} (found : (mapValues (edgesAvoiding nodeId)
          (graph.adjacency.erase nodeId)).lookup id = some edges) :
        id ≠ nodeId ∧ ∃ old, graph.adjacency.lookup id = some old ∧
          edges = edgesAvoiding nodeId old := by
      rw [lookup_mapValues, Option.map_eq_some_iff] at found
      obtain ⟨old, found, rfl⟩ := found
      have different : id ≠ nodeId := by
        rintro rfl
        rw [AList.lookup_erase] at found
        simp at found
      rw [AList.lookup_erase_ne different] at found
      exact ⟨different, old, found, rfl⟩
    refine ⟨?_, ?_, ?_, ?_, ?_, rfl⟩
    · intro id
      rw [mem_mapValues, AList.mem_erase, AList.mem_erase, wellFormed.same_keys]
    · intro id node found
      have different : id ≠ nodeId := by
        rintro rfl
        rw [AList.lookup_erase] at found
        simp at found
      rw [AList.lookup_erase_ne different] at found
      exact wellFormed.node_id id node found
    · rw [AList.mem_erase]
      exact fun member => wellFormed.id_nonempty member.2
    · intro id edges found
      obtain ⟨-, old, oldFound, rfl⟩ := edgesOld found
      exact (wellFormed.edges_nodup id old oldFound).filter _
    · intro id edges found edge member
      obtain ⟨-, old, oldFound, rfl⟩ := edgesOld found
      obtain ⟨oldMem, avoids⟩ := List.mem_filter.mp member
      obtain ⟨source, target, different⟩ := wellFormed.edge_ends id old oldFound edge oldMem
      exact ⟨source, AList.mem_erase.mpr ⟨by simpa using avoids, target⟩, different⟩
  · simpa [removeNode, present] using wellFormed

/-- An edge that `upsert_edge` accepts. -/
def Accepts (graph : ClusterGraph) (edge : Edge) : Prop :=
  edge.source ∈ graph.nodes ∧ edge.target ∈ graph.nodes ∧ edge.source ≠ edge.target

instance (graph : ClusterGraph) (edge : Edge) : Decidable (graph.Accepts edge) :=
  inferInstanceAs (Decidable (_ ∧ _ ∧ _))

/-- `upsert_edge` reports acceptance, and appends an accepted edge that is
not stored yet. -/
theorem upsertEdge_eq (wellFormed : graph.WellFormed) (edge : Edge) :
    (¬ graph.Accepts edge ∧ graph.upsertEdge edge = (graph, false)) ∨ ∃ edges, graph.Accepts edge ∧
        graph.adjacency.lookup edge.source = some edges ∧ graph.upsertEdge edge =
          (if edge ∈ edges then graph
            else { graph with
              adjacency := graph.adjacency.insert edge.source (edges ++ [edge])
              edgeCount := graph.edgeCount + 1 }, true) := by
  by_cases accepts : graph.Accepts edge
  · obtain ⟨sourceMem, targetMem, different⟩ := accepts
    have sourceNonempty : edge.source ≠ [] := fun same => wellFormed.id_nonempty (same ▸ sourceMem)
    have targetNonempty : edge.target ≠ [] := fun same => wellFormed.id_nonempty (same ▸ targetMem)
    have present := (wellFormed.same_keys _).mpr sourceMem
    obtain ⟨edges, found⟩ := Option.isSome_iff_exists.mp (AList.lookup_isSome.mpr present)
    refine Or.inr ⟨edges, ⟨sourceMem, targetMem, different⟩, found, ?_⟩
    by_cases stored : edge ∈ edges <;>
      simp [upsertEdge, sourceNonempty, targetNonempty, different, sourceMem,
        targetMem, tryEmplace, present, found, stored]
  · refine Or.inl ⟨accepts, ?_⟩
    unfold upsertEdge
    split
    · rfl
    · next proper =>
        simp only [not_or] at proper
        rw [if_pos]
        by_contra known
        simp only [not_or, not_not] at known
        exact accepts ⟨known.1, known.2, proper.2.2⟩

theorem upsertEdge_wellFormed (wellFormed : graph.WellFormed) (edge : Edge) :
    (graph.upsertEdge edge).1.WellFormed := by
  rcases upsertEdge_eq wellFormed edge with
    ⟨-, same⟩ | ⟨edges, ⟨sourceMem, targetMem, different⟩, found, same⟩
  · rwa [same]
  · rw [same]
    by_cases stored : edge ∈ edges
    · simpa [stored] using wellFormed
    · simp only [stored, if_false]
      have edgesOld {id : NodeId} {edges' : List Edge} (found' : (graph.adjacency.insert edge.source
            (edges ++ [edge])).lookup id = some edges') :
          (id = edge.source ∧ edges' = edges ++ [edge]) ∨
            graph.adjacency.lookup id = some edges' := by
        by_cases isSource : id = edge.source
        · subst isSource
          rw [AList.lookup_insert] at found'
          exact Or.inl ⟨rfl, (Option.some.inj found').symm⟩
        · rw [AList.lookup_insert_ne isSource] at found'
          exact Or.inr found'
      refine ⟨?_, wellFormed.node_id, wellFormed.id_nonempty, ?_, ?_, ?_⟩
      · intro id
        rw [AList.mem_insert, wellFormed.same_keys]
        constructor
        · rintro (rfl | member)
          · exact sourceMem
          · exact member
        · exact Or.inr
      · intro id edges' found'
        rcases edgesOld found' with ⟨-, rfl⟩ | old
        · rw [List.nodup_append_comm]
          exact List.nodup_cons.mpr ⟨stored, wellFormed.edges_nodup _ edges found⟩
        · exact wellFormed.edges_nodup id edges' old
      · intro id edges' found' other member
        rcases edgesOld found' with ⟨rfl, rfl⟩ | old
        · rcases List.mem_append.mp member with inOld | isNew
          · exact wellFormed.edge_ends _ edges found other inOld
          · rw [List.mem_singleton.mp isNew]
            exact ⟨rfl, targetMem, different⟩
        · exact wellFormed.edge_ends id edges' old other member
      · have inserted := total_insert_of_lookup List.length (edges ++ [edge]) found
        rw [List.length_append, List.length_singleton] at inserted
        simp only [wellFormed.counted]
        omega

@[simp]
theorem upsertEdge_nodes (graph : ClusterGraph) (edge : Edge) :
    (graph.upsertEdge edge).1.nodes = graph.nodes := by
  simp only [upsertEdge]
  split_ifs <;> rfl

theorem upsertEdge_accepts_iff (wellFormed : graph.WellFormed) (edge : Edge) :
    (graph.upsertEdge edge).2 = true ↔ graph.Accepts edge := by
  rcases upsertEdge_eq wellFormed edge with
    ⟨rejects, same⟩ | ⟨edges, accepts, -, same⟩
  · simp [same, rejects]
  · simp [same, accepts]

theorem mem_storedEdges_upsertEdge (wellFormed : graph.WellFormed) (edge other : Edge) :
    other ∈ (graph.upsertEdge edge).1.storedEdges ↔
      other ∈ graph.storedEdges ∨ (graph.Accepts edge ∧ other = edge) := by
  have next := upsertEdge_wellFormed wellFormed edge
  rcases upsertEdge_eq wellFormed edge with
    ⟨rejects, same⟩ | ⟨edges, accepts, found, same⟩
  · simp [same, rejects]
  · by_cases stored : edge ∈ edges
    · have edgeStored : edge ∈ graph.storedEdges :=
        wellFormed.mem_storedEdges.mpr ⟨edges, found, stored⟩
      simp only [same, stored, if_true, accepts, true_and]
      constructor
      · exact Or.inl
      · rintro (old | rfl)
        · exact old
        · exact edgeStored
    · rw [next.mem_storedEdges, wellFormed.mem_storedEdges]
      simp only [same, stored, if_false, accepts, true_and]
      by_cases sameSource : other.source = edge.source
      · rw [sameSource, AList.lookup_insert, found]
        simp
      · rw [AList.lookup_insert_ne sameSource]
        constructor
        · exact Or.inl
        · rintro (old | rfl)
          · exact old
          · exact (sameSource rfl).elim

theorem mem_nodes_upsertNode {node : Node} (nonempty : node.id ≠ []) (id : NodeId) :
    id ∈ (graph.upsertNode node).nodes ↔ id = node.id ∨ id ∈ graph.nodes := by
  rw [upsertNode, if_neg nonempty]
  exact AList.mem_insert _

theorem mem_storedEdges_upsertNode (node : Node) (edge : Edge) :
    edge ∈ (graph.upsertNode node).storedEdges ↔ edge ∈ graph.storedEdges := by
  unfold upsertNode
  split
  · exact Iff.rfl
  · rw [mem_storedEdges_iff, mem_storedEdges_iff]
    by_cases present : node.id ∈ graph.adjacency
    · simp [tryEmplace, present]
    · simp only [tryEmplace, present, if_false]
      have nothing : graph.adjacency.lookup node.id = none := AList.lookup_eq_none.mpr present
      refine exists_congr fun id => ?_
      by_cases same : id = node.id
      · subst same
        simp [nothing]
      · rw [AList.lookup_insert_ne same]

theorem removeEdge_wellFormed (wellFormed : graph.WellFormed) (edge : Edge) :
    (graph.removeEdge edge).1.WellFormed := by
  unfold removeEdge
  cases found : graph.adjacency.lookup edge.source with
  | none => exact wellFormed
  | some edges =>
    have edgesOld {id : NodeId} {edges' : List Edge} (found' : (graph.adjacency.insert edge.source
          (edges.filter (· ≠ edge))).lookup id = some edges') :
        ∃ old, graph.adjacency.lookup id = some old ∧ edges'.Sublist old := by
      by_cases isSource : id = edge.source
      · subst isSource
        rw [AList.lookup_insert] at found'
        rw [← Option.some.inj found']
        exact ⟨edges, found, List.filter_sublist⟩
      · rw [AList.lookup_insert_ne isSource] at found'
        exact ⟨edges', found', List.Sublist.refl _⟩
    refine ⟨?_, wellFormed.node_id, wellFormed.id_nonempty, ?_, ?_, ?_⟩
    · intro id
      rw [AList.mem_insert, wellFormed.same_keys]
      constructor
      · rintro (rfl | member)
        · exact (wellFormed.same_keys _).mp (mem_of_lookup found)
        · exact member
      · exact Or.inr
    · intro id edges' found'
      obtain ⟨old, oldFound, sublist⟩ := edgesOld found'
      exact sublist.nodup (wellFormed.edges_nodup id old oldFound)
    · intro id edges' found' other member
      obtain ⟨old, oldFound, sublist⟩ := edgesOld found'
      exact wellFormed.edge_ends id old oldFound other (sublist.subset member)
    · have kept := List.length_filter_le (fun other : Edge => decide (other ≠ edge)) edges
      have inserted := total_insert_of_lookup List.length (edges.filter (· ≠ edge)) found
      have atLeast : edges.length ≤ total List.length graph.adjacency := by
        have erased := total_erase List.length found
        omega
      simp only [wellFormed.counted]
      omega

theorem apply_wellFormed (wellFormed : graph.WellFormed) (operation : Operation) :
    (graph.apply operation).WellFormed := by
  cases operation with
  | upsertNode node => exact upsertNode_wellFormed wellFormed node
  | removeNode nodeId => exact removeNode_wellFormed wellFormed nodeId
  | upsertEdge edge => exact upsertEdge_wellFormed wellFormed edge
  | removeEdge edge => exact removeEdge_wellFormed wellFormed edge

theorem foldl_apply_wellFormed (wellFormed : graph.WellFormed) (operations : List Operation) :
    (operations.foldl apply graph).WellFormed := by
  induction operations generalizing graph with
  | nil => exact wellFormed
  | cons operation operations ih => exact ih (apply_wellFormed wellFormed operation)

theorem run_wellFormed (operations : List Operation) : (run operations).WellFormed :=
  foldl_apply_wellFormed empty_wellFormed operations

end ClusterGraph

end Ithute
