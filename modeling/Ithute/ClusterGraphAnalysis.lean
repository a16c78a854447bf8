import Ithute.ClusterEngineOrder
import Ithute.ClusterIngestion
import Ithute.ClusterReachability
import Ithute.ClusterSummary
import Ithute.Library.WorklistSearch

/-!
# Cluster graph analysis

`cluster_graph_analysis` with its native path and its Python fallback, and
the exact condition under which both report the same summary.
-/

namespace Ithute

open WorklistSearch

/-- Append one usable edge to the adjacency dict of `_python_reachable`. -/
def addNeighbor (ids : List PyStr) (adjacency : PyStr → List PyStr)
    (edge : EdgeDict) : PyStr → List PyStr :=
  let left := edge.sourceText
  let right := edge.targetText
  if left ∈ ids ∧ right ∈ ids ∧ left ≠ right then
    Function.update adjacency left (adjacency left ++ [right])
  else adjacency

def pythonReachable (nodes : List NodeDict) (edges : List EdgeDict)
    (source target : PyStr) : Bool :=
  let ids := nodes.map NodeDict.idText
  if source ∉ ids ∨ target ∉ ids then false
  else if source = target then true
  else
    searchFrom (edges.foldl (addNeighbor ids) fun _ => []) source target ids.length

structure AnalysisResult where
  engine : EngineName
  summary : SummaryDict
  reachable : Option Bool := none

def bothGiven (source target : Option PyStr) : Option (PyStr × PyStr) :=
  match source, target with
  | some source, some target => some (source, target)
  | _, _ => none

def analysisFallback (nodes : List NodeDict) (edges : List EdgeDict)
    (source target : Option PyStr) : AnalysisResult where
  engine := .pythonFallback
  summary := pythonSummary nodes edges
  reachable := (bothGiven source target).map fun query =>
    pythonReachable nodes edges query.1 query.2

/-- The `try` block; `none` is an exception that selects the fallback. -/
def nativeAnalysis (lower : PyStr → PyStr) (iteration : IterationOrder)
    (nodes : List NodeDict) (edges : List EdgeDict)
    (source target : Option PyStr) : Option AnalysisResult := do
  let graph ← ingest lower nodes edges
  let summary := (graph.summary iteration).toDict
  match bothGiven source target with
  | none => some { engine := .cpp, summary := summary }
  | some (source, target) =>
    let sourceBytes ← encodeUtf8 source
    let targetBytes ← encodeUtf8 target
    some
      { engine := .cpp
        summary := summary
        reachable := some
          (graph.reachable (cString sourceBytes) (cString targetBytes)) }

/-- `cluster_graph_analysis`; `loaded` says whether the native library is
there. -/
def clusterGraphAnalysis (lower : PyStr → PyStr) (iteration : IterationOrder)
    (loaded : Bool) (nodes : List NodeDict) (edges : List EdgeDict)
    (source target : Option PyStr) : AnalysisResult :=
  if loaded = false then analysisFallback nodes edges source target
  else
    match nativeAnalysis lower iteration nodes edges source target with
    | some result => result
    | none => analysisFallback nodes edges source target

def QuerySendable (source target : Option PyStr) : Prop :=
  ∀ query ∈ bothGiven source target, Utf8Encodable query.1 ∧ Utf8Encodable query.2

section Paths

variable {lower : PyStr → PyStr} {nodes : List NodeDict}
  {edges : List EdgeDict} {source target : Option PyStr}

theorem nativeAnalysis_of_sendable (iteration : IterationOrder)
    (sendable : SnapshotSendable lower nodes edges) (query : QuerySendable source target) :
    nativeAnalysis lower iteration nodes edges source target = some
        { engine := .cpp
          summary :=
            ((snapshotGraph lower nodes edges).summary iteration).toDict
          reachable := (bothGiven source target).map fun query =>
            (snapshotGraph lower nodes edges).reachable (nativeId query.1)
              (nativeId query.2) } := by
  rw [nativeAnalysis, ingest_of_sendable lower sendable]
  cases given : bothGiven source target with
  | none => simp
  | some pair =>
    obtain ⟨first, second⟩ := query pair given
    simp [encodeUtf8_of_encodable first, encodeUtf8_of_encodable second, nativeId]

theorem nativeAnalysis_of_not_sendable (iteration : IterationOrder)
    (bad : ¬ (SnapshotSendable lower nodes edges ∧ QuerySendable source target)) :
    nativeAnalysis lower iteration nodes edges source target = none := by
  by_cases sendable : SnapshotSendable lower nodes edges
  · rw [nativeAnalysis, ingest_of_sendable lower sendable]
    cases given : bothGiven source target with
    | none =>
      have query : QuerySendable source target := by simp [QuerySendable, given]
      exact (bad ⟨sendable, query⟩).elim
    | some pair =>
      have badQuery : ¬ (Utf8Encodable pair.1 ∧ Utf8Encodable pair.2) := by
        intro both
        apply bad
        refine ⟨sendable, fun other otherGiven => ?_⟩
        rw [given] at otherGiven
        cases otherGiven
        exact both
      by_cases first : Utf8Encodable pair.1
      · have second : ¬ Utf8Encodable pair.2 := fun second => badQuery ⟨first, second⟩
        simp [encodeUtf8, first, second]
      · simp [encodeUtf8, first]
  · rw [nativeAnalysis, ingest_of_not_sendable lower sendable]
    rfl

end Paths

structure LosslessSnapshot (lower : PyStr → PyStr) (nodes : List NodeDict)
    (edges : List EdgeDict) : Prop where
  ids : (nodes.map fun node => beforeNul node.idText).Nodup
  joined : ∀ edge ∈ edges, beforeNul edge.sourceText ∈
        (nodes.map fun node => beforeNul node.idText) ∧
      beforeNul edge.targetText ∈ (nodes.map fun node => beforeNul node.idText) ∧
      beforeNul edge.sourceText ≠ beforeNul edge.targetText
  edges : (edges.map (storedEdge lower)).Nodup
  memoryTotal : totalBytes NodeDict.memoryTotalBytes nodes < 2 ^ 64
  memoryUsed : totalBytes NodeDict.memoryUsedBytes nodes < 2 ^ 64
  storageTotal : totalBytes NodeDict.storageTotalBytes nodes < 2 ^ 64
  storageUsed : totalBytes NodeDict.storageUsedBytes nodes < 2 ^ 64

section Summaries

variable (lower : PyStr → PyStr) {nodes : List NodeDict}

theorem map_id_storedNode (nodes : List NodeDict) : (nodes.map (storedNode lower)).map Node.id =
      (nodes.map fun node => beforeNul node.idText).map utf8 := by
  rw [List.map_map, List.map_map]
  apply List.map_congr_left
  intro node _
  exact cString_utf8 node.idText

theorem storedIds_nodup_iff (nodes : List NodeDict) :
    ((nodes.map (storedNode lower)).map Node.id).Nodup ↔
      (nodes.map fun node => beforeNul node.idText).Nodup := by
  rw [map_id_storedNode]
  exact List.nodup_map_iff utf8_strictMono.injective

theorem mem_nodes_snapshotGraph (sendable : ∀ node ∈ nodes, node.Sendable) (edges : List EdgeDict)
    (text : PyStr) : nativeId text ∈ (snapshotGraph lower nodes edges).nodes ↔
      beforeNul text ∈ nodes.map fun node => beforeNul node.idText := by
  rw [(holdsEdges_snapshotGraph lower sendable edges).nodes,
    (holdsNodes_nodesGraph lower sendable).mem_nodes, map_id_storedNode, nativeId, cString_utf8]
  exact List.mem_map_of_injective utf8_strictMono.injective

theorem accepts_storedEdge_iff (sendable : ∀ node ∈ nodes, node.Sendable) (edge : EdgeDict) :
    (nodesGraph lower nodes).Accepts (storedEdge lower edge) ↔ beforeNul edge.sourceText ∈
          (nodes.map fun node => beforeNul node.idText) ∧
        beforeNul edge.targetText ∈ (nodes.map fun node => beforeNul node.idText) ∧
        beforeNul edge.sourceText ≠ beforeNul edge.targetText := by
  have member (text : PyStr) := mem_nodes_snapshotGraph lower sendable [] text
  have different : nativeId edge.sourceText ≠ nativeId edge.targetText ↔
      beforeNul edge.sourceText ≠ beforeNul edge.targetText :=
    not_congr cString_utf8_eq_iff
  exact and_congr (member edge.sourceText) (and_congr (member edge.targetText) different)

theorem isOnline_storedNode (node : NodeDict) :
    (storedNode lower node).status = .online ↔ node.online = true := by
  by_cases online : node.online = true
  · simp [storedNode, statusCode, online, nodeStatusFromInt]
  · rw [Bool.not_eq_true] at online
    simp only [storedNode, statusCode, online, Bool.false_eq_true, if_false]
    split_ifs <;> simp [nodeStatusFromInt]

theorem wrappedTotal_storedNode (field : ResourceState → UInt64) (value : NodeDict → FieldValue)
    (stored : ∀ node, field (storedNode lower node).resources =
      UInt64.ofNat (u64 (value node))) (nodes : List NodeDict) :
    wrappedTotal field (nodes.map (storedNode lower)) = totalBytes value nodes % 2 ^ 64 := by
  rw [wrappedTotal, totalBytes, List.sum_nat_mod, List.map_map,
    List.sum_nat_mod (nodes.map fun node => u64 (value node)), List.map_map, List.map_map]
  congr 2
  apply List.map_congr_left
  intro node _
  simp [stored]

variable (iteration : IterationOrder)

theorem summary_snapshotGraph (sendable : ∀ node ∈ nodes, node.Sendable) (edges : List EdgeDict)
    (distinct : (nodes.map fun node => beforeNul node.idText).Nodup) :
    ((snapshotGraph lower nodes edges).summary iteration).toDict =
      { nodes := nodes.length
        edges := (snapshotGraph lower nodes edges).edgeCount
        onlineNodes := nodes.countP fun node => node.online
        healthyNodes := nodes.countP fun node => node.healthy
        memoryTotalBytes :=
          totalBytes NodeDict.memoryTotalBytes nodes % 2 ^ 64
        memoryUsedBytes := totalBytes NodeDict.memoryUsedBytes nodes % 2 ^ 64
        storageTotalBytes :=
          totalBytes NodeDict.storageTotalBytes nodes % 2 ^ 64
        storageUsedBytes :=
          totalBytes NodeDict.storageUsedBytes nodes % 2 ^ 64 } := by
  have stored := (holdsNodes_nodesGraph lower sendable).entries
    ((storedIds_nodup_iff lower nodes).mpr distinct)
  rw [← (holdsEdges_snapshotGraph lower sendable edges).nodes] at stored
  rw [toDict_summary iteration stored,
    wrappedTotal_storedNode lower _ NodeDict.memoryTotalBytes fun _ => rfl,
    wrappedTotal_storedNode lower _ NodeDict.memoryUsedBytes fun _ => rfl,
    wrappedTotal_storedNode lower _ NodeDict.storageTotalBytes fun _ => rfl,
    wrappedTotal_storedNode lower _ NodeDict.storageUsedBytes fun _ => rfl,
    List.length_map, List.countP_map, List.countP_map]
  have online : ((fun node : Node => decide (node.status = .online)) ∘
      storedNode lower) = fun node => node.online := by
    funext node
    by_cases isOnline : node.online = true
    · simp [(isOnline_storedNode lower node).mpr isOnline, isOnline]
    · have status := mt (isOnline_storedNode lower node).mp isOnline
      simp [status, isOnline]
  have healthy : ((fun node : Node => node.healthy) ∘ storedNode lower) =
      fun node => node.healthy :=
    rfl
  rw [online, healthy]

/-- Every offered edge is counted exactly when all are accepted and no two
are the same. -/
theorem edgeCount_eq_length_iff (sendable : ∀ node ∈ nodes, node.Sendable) (edges : List EdgeDict) :
    (snapshotGraph lower nodes edges).edgeCount = edges.length ↔
      (edges.map (storedEdge lower)).Nodup ∧ ∀ edge ∈ edges,
          (nodesGraph lower nodes).Accepts (storedEdge lower edge) := by
  have holds := holdsEdges_snapshotGraph lower sendable edges
  have storedNodup := holds.wellFormed.storedEdges_nodup
  have subset : (snapshotGraph lower nodes edges).storedEdges ⊆ edges.map (storedEdge lower) :=
    fun edge stored => ((holds.mem_edges edge).mp stored).1
  rw [← holds.wellFormed.length_storedEdges, ← List.length_map (f := storedEdge lower)]
  constructor
  · intro sameLength
    have perm := (storedNodup.subperm subset).perm_of_length_le (le_of_eq sameLength.symm)
    refine ⟨perm.nodup_iff.mp storedNodup, fun edge edgeMem => ?_⟩
    have stored := perm.symm.subset (List.mem_map_of_mem edgeMem)
    exact ((holds.mem_edges _).mp stored).2
  · rintro ⟨nodup, accepted⟩
    apply List.Perm.length_eq
    apply (List.perm_ext_iff_of_nodup storedNodup nodup).mpr
    intro edge
    rw [holds.mem_edges]
    constructor
    · exact fun stored => stored.1
    · intro offered
      obtain ⟨dict, dictMem, rfl⟩ := List.mem_map.mp offered
      exact ⟨offered, accepted dict dictMem⟩

theorem summary_eq_iff (sendable : ∀ node ∈ nodes, node.Sendable) (edges : List EdgeDict) :
    ((snapshotGraph lower nodes edges).summary iteration).toDict = pythonSummary nodes edges ↔
      LosslessSnapshot lower nodes edges := by
  constructor
  · intro same
    have count : (snapshotGraph lower nodes edges).nodes.keys.length = nodes.length := by
      have counted := congrArg SummaryDict.nodes same
      rw [toDict_summary iteration (List.Perm.refl _)] at counted
      simpa [pythonSummary, AList.keys, List.keys] using counted
    have distinct : (nodes.map fun node => beforeNul node.idText).Nodup := by
      rw [← storedIds_nodup_iff lower]
      have subset : (snapshotGraph lower nodes edges).nodes.keys ⊆
          (nodes.map (storedNode lower)).map Node.id := by
        intro id member
        rw [← (holdsNodes_nodesGraph lower sendable).mem_nodes,
          ← (holdsEdges_snapshotGraph lower sendable edges).nodes]
        exact member
      have keysNodup := (snapshotGraph lower nodes edges).nodes.keys_nodup
      have perm := (keysNodup.subperm subset).perm_of_length_le (by simp [count])
      exact perm.nodup_iff.mp keysNodup
    rw [summary_snapshotGraph lower iteration sendable edges distinct,
      pythonSummary, SummaryDict.mk.injEq] at same
    obtain ⟨-, edgeCount, -, -, memoryTotal, memoryUsed, storageTotal, storageUsed⟩ := same
    obtain ⟨edgesNodup, accepted⟩ :=
      (edgeCount_eq_length_iff lower sendable edges).mp edgeCount
    have positive : 0 < 2 ^ 64 := by decide
    exact
      { ids := distinct
        joined := fun edge edgeMem =>
          (accepts_storedEdge_iff lower sendable edge).mp
            (accepted edge edgeMem)
        edges := edgesNodup
        memoryTotal := memoryTotal ▸ Nat.mod_lt _ positive
        memoryUsed := memoryUsed ▸ Nat.mod_lt _ positive
        storageTotal := storageTotal ▸ Nat.mod_lt _ positive
        storageUsed := storageUsed ▸ Nat.mod_lt _ positive }
  · intro lossless
    have edgeCount := (edgeCount_eq_length_iff lower sendable edges).mpr
      ⟨lossless.edges, fun edge edgeMem =>
        (accepts_storedEdge_iff lower sendable edge).mpr
          (lossless.joined edge edgeMem)⟩
    rw [summary_snapshotGraph lower iteration sendable edges lossless.ids,
      edgeCount, Nat.mod_eq_of_lt lossless.memoryTotal, Nat.mod_eq_of_lt lossless.memoryUsed,
      Nat.mod_eq_of_lt lossless.storageTotal, Nat.mod_eq_of_lt lossless.storageUsed]
    rfl

theorem clusterGraphAnalysis_summary_of_sendable
    {edges : List EdgeDict} {source target : Option PyStr}
    (sendable : SnapshotSendable lower nodes edges) (query : QuerySendable source target) :
    (clusterGraphAnalysis lower iteration true nodes edges source
        target).summary = pythonSummary nodes edges ↔ LosslessSnapshot lower nodes edges := by
  simp only [clusterGraphAnalysis, Bool.true_eq_false, if_false,
    nativeAnalysis_of_sendable iteration sendable query]
  exact summary_eq_iff lower iteration sendable.1 edges

/-- The native path reports the Python summary exactly when it falls back or
when the native graph keeps every dict of the snapshot. -/
theorem clusterGraphAnalysis_summary_iff (iteration : IterationOrder)
    (nodes : List NodeDict) (edges : List EdgeDict) (source target : Option PyStr) :
    (clusterGraphAnalysis lower iteration true nodes edges source
        target).summary = pythonSummary nodes edges ↔
      ¬ (SnapshotSendable lower nodes edges ∧ QuerySendable source target) ∨
        LosslessSnapshot lower nodes edges := by
  by_cases sendable : SnapshotSendable lower nodes edges ∧ QuerySendable source target
  · rw [clusterGraphAnalysis_summary_of_sendable lower iteration sendable.1 sendable.2]
    simp [sendable]
  · simp [clusterGraphAnalysis, sendable, analysisFallback,
      nativeAnalysis_of_not_sendable iteration sendable]

end Summaries

def repeatedNode : List NodeDict := [{ id := some [97] }, { id := some [97] }]

theorem repeatedNode_summaries_differ :
    (clusterGraphAnalysis asciiLower .asStored true repeatedNode [] none
      none).summary ≠ pythonSummary repeatedNode [] := by
  have sendable : SnapshotSendable asciiLower repeatedNode [] := by
    refine ⟨fun node nodeMem => ?_, by simp⟩
    have same : node = { id := some [97] } := by simpa [repeatedNode] using nodeMem
    rw [same]
    refine ⟨?_, ?_, ?_, by decide⟩ <;>
      simp [Utf8Encodable, isSurrogate, NodeDict.idText, strOrEmpty]
  have query : QuerySendable none none := by simp [QuerySendable, bothGiven]
  rw [ne_eq, clusterGraphAnalysis_summary_of_sendable asciiLower .asStored sendable query]
  intro lossless
  have distinct := lossless.ids
  revert distinct
  decide

end Ithute
