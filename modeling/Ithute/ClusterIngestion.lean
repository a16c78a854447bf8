import Ithute.ClusterSnapshot
import Ithute.Library.FoldInvariants

/-!
# Building the native graph of a snapshot

The loops of `cluster_graph_analysis` that put the node and edge dicts into a
native graph.  An exception inside them selects the fallback.
-/

namespace Ithute

variable (lower : PyStr → PyStr)

/-- One node; `none` is an exception that the caller handles. -/
def ingestNode (graph : ClusterGraph) (node : NodeDict) : Option ClusterGraph := do
  let id ← encodeUtf8 node.idText
  let name ← encodeUtf8 (strOrEmpty node.name)
  let privateIp ← encodeUtf8 (strOrEmpty node.privateIp)
  let upserted := ithuteClusterUpsertNode graph id name privateIp
    (statusCode lower node.status node.online) (if node.healthy then 1 else 0)
    { memoryTotalBytes := UInt64.ofNat (u64 node.memoryTotalBytes)
      memoryUsedBytes := UInt64.ofNat (u64 node.memoryUsedBytes)
      storageTotalBytes := UInt64.ofNat (u64 node.storageTotalBytes)
      storageUsedBytes := UInt64.ofNat (u64 node.storageUsedBytes) }
  if upserted.2 ≠ 0 then none else some upserted.1

def ingestEdge (graph : ClusterGraph) (edge : EdgeDict) : Option ClusterGraph := do
  let protocolText := lower (strOrEmpty edge.protocol)
  let port := max 0 (min (u64 edge.port) 65535)
  let source ← encodeUtf8 edge.sourceText
  let target ← encodeUtf8 edge.targetText
  let service ← encodeUtf8 (strOrEmpty edge.service)
  let protocol ← encodeUtf8 protocolText
  some (ithuteClusterUpsertEdge graph source target
    (relationCode (lower (strOrEmpty edge.relation))) service protocol (UInt16.ofNat port)).1

def ingest (nodes : List NodeDict) (edges : List EdgeDict) : Option ClusterGraph := do
  let graph ← nodes.foldlM (ingestNode lower) .empty
  edges.foldlM (ingestEdge lower) graph

@[mk_iff]
structure NodeDict.Sendable (node : NodeDict) : Prop where
  id : Utf8Encodable node.idText
  name : Utf8Encodable (strOrEmpty node.name)
  privateIp : Utf8Encodable (strOrEmpty node.privateIp)
  nonempty : beforeNul node.idText ≠ []

instance (node : NodeDict) : Decidable node.Sendable :=
  decidable_of_iff _ node.sendable_iff.symm

@[mk_iff]
structure EdgeDict.Sendable (edge : EdgeDict) : Prop where
  source : Utf8Encodable edge.sourceText
  target : Utf8Encodable edge.targetText
  service : Utf8Encodable (strOrEmpty edge.service)
  protocol : Utf8Encodable (lower (strOrEmpty edge.protocol))

instance (edge : EdgeDict) : Decidable (edge.Sendable lower) :=
  decidable_of_iff _ (edge.sendable_iff lower).symm

def storedNode (node : NodeDict) : Node where
  id := nativeId node.idText
  name := nativeId (strOrEmpty node.name)
  privateIp := nativeId (strOrEmpty node.privateIp)
  status := nodeStatusFromInt (statusCode lower node.status node.online)
  healthy := node.healthy
  resources :=
    { memoryTotalBytes := UInt64.ofNat (u64 node.memoryTotalBytes)
      memoryUsedBytes := UInt64.ofNat (u64 node.memoryUsedBytes)
      storageTotalBytes := UInt64.ofNat (u64 node.storageTotalBytes)
      storageUsedBytes := UInt64.ofNat (u64 node.storageUsedBytes) }

def storedEdge (edge : EdgeDict) : Edge where
  source := nativeId edge.sourceText
  target := nativeId edge.targetText
  relation := relationFromInt (relationCode (lower (strOrEmpty edge.relation)))
  service := nativeId (strOrEmpty edge.service)
  protocol := nativeId (lower (strOrEmpty edge.protocol))
  port := UInt16.ofNat (max 0 (min (u64 edge.port) 65535))

theorem nativeId_eq_nil_iff {text : PyStr} : nativeId text = [] ↔ beforeNul text = [] := by
  rw [nativeId, cString_utf8]
  constructor
  · intro empty
    exact utf8_strictMono.injective (empty.trans rfl)
  · intro empty
    rw [empty]
    rfl

theorem ingestNode_eq (graph : ClusterGraph) (node : NodeDict) : ingestNode lower graph node =
      if node.Sendable then some (graph.upsertNode (storedNode lower node))
      else none := by
  by_cases sendable : node.Sendable
  · have nonempty : cString (utf8 node.idText) ≠ [] := mt nativeId_eq_nil_iff.mp sendable.nonempty
    rw [if_pos sendable]
    simp only [ingestNode, encodeUtf8_of_encodable sendable.id,
      encodeUtf8_of_encodable sendable.name,
      encodeUtf8_of_encodable sendable.privateIp, Option.bind_eq_bind,
      Option.bind_some, ithuteClusterUpsertNode, nonempty, if_false]
    cases healthy : node.healthy <;> simp [storedNode, nativeId, healthy]
  · rw [if_neg sendable]
    by_cases encodable : Utf8Encodable node.idText ∧ Utf8Encodable (strOrEmpty node.name) ∧
          Utf8Encodable (strOrEmpty node.privateIp)
    · obtain ⟨id, name, privateIp⟩ := encodable
      have empty : cString (utf8 node.idText) = [] := by
        by_contra nonempty
        exact sendable ⟨id, name, privateIp, mt nativeId_eq_nil_iff.mpr nonempty⟩
      simp [ingestNode, encodeUtf8_of_encodable id,
        encodeUtf8_of_encodable name, encodeUtf8_of_encodable privateIp,
        ithuteClusterUpsertNode, empty]
    · by_cases id : Utf8Encodable node.idText <;>
        by_cases name : Utf8Encodable (strOrEmpty node.name) <;>
          by_cases privateIp : Utf8Encodable (strOrEmpty node.privateIp) <;>
            simp_all [ingestNode, encodeUtf8]

theorem ingestEdge_eq (graph : ClusterGraph) (edge : EdgeDict) : ingestEdge lower graph edge =
      if edge.Sendable lower then some (graph.upsertEdge (storedEdge lower edge)).1
      else none := by
  by_cases sendable : edge.Sendable lower
  · rw [if_pos sendable]
    simp only [ingestEdge, encodeUtf8_of_encodable sendable.source,
      encodeUtf8_of_encodable sendable.target, encodeUtf8_of_encodable sendable.service,
      encodeUtf8_of_encodable sendable.protocol, Option.bind_eq_bind, Option.bind_some]
    rfl
  · rw [if_neg sendable]
    by_cases source : Utf8Encodable edge.sourceText
    · by_cases target : Utf8Encodable edge.targetText
      · by_cases service : Utf8Encodable (strOrEmpty edge.service)
        · have protocol : ¬ Utf8Encodable (lower (strOrEmpty edge.protocol)) :=
            fun protocol => sendable ⟨source, target, service, protocol⟩
          simp [ingestEdge, encodeUtf8, source, target, service, protocol]
        · simp [ingestEdge, encodeUtf8, source, target, service]
      · simp [ingestEdge, encodeUtf8, source, target]
    · simp [ingestEdge, encodeUtf8, source]

def SnapshotSendable (nodes : List NodeDict) (edges : List EdgeDict) : Prop :=
  (∀ node ∈ nodes, node.Sendable) ∧ ∀ edge ∈ edges, edge.Sendable lower

def nodesGraph (nodes : List NodeDict) : ClusterGraph :=
  (nodes.map (storedNode lower)).foldl ClusterGraph.upsertNode .empty

def snapshotGraph (nodes : List NodeDict) (edges : List EdgeDict) : ClusterGraph :=
  (edges.map (storedEdge lower)).foldl
    (fun graph edge => (graph.upsertEdge edge).1) (nodesGraph lower nodes)

variable {nodes : List NodeDict}

theorem ingest_of_sendable {edges : List EdgeDict} (sendable : SnapshotSendable lower nodes edges) :
    ingest lower nodes edges = some (snapshotGraph lower nodes edges) := by
  simp only [ingest, FoldInvariants.foldlM_eq_ite (ingestNode_eq lower),
    FoldInvariants.foldlM_eq_ite (ingestEdge_eq lower), if_pos sendable.1,
    if_pos sendable.2, Option.bind_eq_bind, Option.bind_some, snapshotGraph,
    nodesGraph, List.foldl_map]

theorem ingest_of_not_sendable
    {edges : List EdgeDict} (bad : ¬ SnapshotSendable lower nodes edges) :
    ingest lower nodes edges = none := by
  simp only [ingest, FoldInvariants.foldlM_eq_ite (ingestNode_eq lower),
    FoldInvariants.foldlM_eq_ite (ingestEdge_eq lower)]
  by_cases nodesSendable : ∀ node ∈ nodes, node.Sendable
  · have edgesBad : ¬ ∀ edge ∈ edges, edge.Sendable lower :=
      fun edgesSendable => bad ⟨nodesSendable, edgesSendable⟩
    simp only [if_pos nodesSendable, if_neg edgesBad, Option.bind_eq_bind, Option.bind_some]
  · simp only [if_neg nodesSendable, Option.bind_eq_bind, Option.bind_none]

structure HoldsNodes (stored : List Node) (graph : ClusterGraph) : Prop where
  wellFormed : graph.WellFormed
  no_edges : ∀ edge, edge ∉ graph.storedEdges
  mem_nodes : ∀ id, id ∈ graph.nodes ↔ id ∈ stored.map Node.id
  entries : (stored.map Node.id).Nodup → (graph.nodes.entries.map fun entry => entry.2).Perm stored

theorem holdsNodes_upsertNode {stored : List Node} {graph : ClusterGraph}
    (holds : HoldsNodes stored graph) {node : Node} (nonempty : node.id ≠ []) :
    HoldsNodes (stored ++ [node]) (graph.upsertNode node) where
  wellFormed := ClusterGraph.upsertNode_wellFormed holds.wellFormed node
  no_edges := fun edge => by
    rw [ClusterGraph.mem_storedEdges_upsertNode]
    exact holds.no_edges edge
  mem_nodes := fun id => by
    rw [ClusterGraph.mem_nodes_upsertNode nonempty, holds.mem_nodes,
      List.map_append, List.map_singleton, List.mem_append, List.mem_singleton, or_comm]
  entries := fun nodup => by
    rw [List.map_append, List.map_singleton, List.nodup_append_comm] at nodup
    obtain ⟨fresh, storedNodup⟩ := List.nodup_cons.mp nodup
    have absent : node.id ∉ graph.nodes := mt (holds.mem_nodes _).mp fresh
    have entries : (graph.upsertNode node).nodes.entries =
        ⟨node.id, node⟩ :: graph.nodes.entries := by
      rw [ClusterGraph.upsertNode, if_neg nonempty]
      exact AList.entries_insert_of_notMem absent
    rw [entries, List.map_cons]
    exact ((holds.entries storedNodup).cons node).trans
      (List.perm_append_singleton node stored).symm

theorem holdsNodes_nodesGraph (sendable : ∀ node ∈ nodes, node.Sendable) :
    HoldsNodes (nodes.map (storedNode lower)) (nodesGraph lower nodes) := by
  have nonempty : ∀ node ∈ nodes.map (storedNode lower), node.id ≠ [] := by
    intro node nodeMem
    obtain ⟨dict, dictMem, rfl⟩ := List.mem_map.mp nodeMem
    exact mt nativeId_eq_nil_iff.mp (sendable dict dictMem).nonempty
  have start : HoldsNodes [] .empty :=
    ⟨ClusterGraph.empty_wellFormed, by simp [ClusterGraph.empty, ClusterGraph.storedEdges],
      fun _ => iff_of_false (AList.notMem_empty _) List.not_mem_nil, fun _ => List.Perm.refl _⟩
  have steps (rest front : List Node) (graph : ClusterGraph)
      (restNonempty : ∀ node ∈ rest, node.id ≠ []) (holds : HoldsNodes front graph) :
      HoldsNodes (front ++ rest) (rest.foldl ClusterGraph.upsertNode graph) := by
    induction rest generalizing front graph with
    | nil => simpa using holds
    | cons node rest ih =>
      obtain ⟨nodeNonempty, othersNonempty⟩ := List.forall_mem_cons.mp restNonempty
      have next := ih (front ++ [node]) (graph.upsertNode node)
        othersNonempty (holdsNodes_upsertNode holds nodeNonempty)
      simpa using next
  exact steps _ [] .empty nonempty start

/-- The graph after some edges were offered to `base`. -/
structure HoldsEdges (base : ClusterGraph) (offered : List Edge) (graph : ClusterGraph) : Prop where
  wellFormed : graph.WellFormed
  nodes : graph.nodes = base.nodes
  mem_edges : ∀ edge, edge ∈ graph.storedEdges ↔ edge ∈ offered ∧ base.Accepts edge

theorem holdsEdges_snapshotGraph
    (sendable : ∀ node ∈ nodes, node.Sendable) (edges : List EdgeDict) :
    HoldsEdges (nodesGraph lower nodes) (edges.map (storedEdge lower))
      (snapshotGraph lower nodes edges) := by
  have base := holdsNodes_nodesGraph lower sendable
  have start : HoldsEdges (nodesGraph lower nodes) [] (nodesGraph lower nodes) :=
    ⟨base.wellFormed, rfl, by simp [base.no_edges]⟩
  refine FoldInvariants.foldl_prefix ?_ (edges.map (storedEdge lower)) start
  intro front graph edge holds
  have sameAccepts : graph.Accepts edge ↔ (nodesGraph lower nodes).Accepts edge := by
    simp only [ClusterGraph.Accepts, holds.nodes]
  refine ⟨ClusterGraph.upsertEdge_wellFormed holds.wellFormed edge, ?_, ?_⟩
  · rw [ClusterGraph.upsertEdge_nodes, holds.nodes]
  · intro other
    rw [ClusterGraph.mem_storedEdges_upsertEdge holds.wellFormed,
      holds.mem_edges, sameAccepts, List.mem_append, List.mem_singleton]
    constructor
    · rintro (⟨old, accepted⟩ | ⟨accepted, rfl⟩)
      · exact ⟨Or.inl old, accepted⟩
      · exact ⟨Or.inr rfl, accepted⟩
    · rintro ⟨old | rfl, accepted⟩
      · exact Or.inl ⟨old, accepted⟩
      · exact Or.inr ⟨accepted, rfl⟩

end Ithute
