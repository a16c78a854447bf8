import Ithute.ClusterSnapshot

/-!
# Cluster summaries

`summary` of the native graph and `_python_summary` of a snapshot.  The
native totals are 64-bit sums over the stored nodes, the Python totals exact
sums over the node dicts.
-/

namespace Ithute

structure ClusterSummary where
  nodes : ℕ
  edges : ℕ
  onlineNodes : ℕ := 0
  healthyNodes : ℕ := 0
  memoryTotalBytes : UInt64 := 0
  memoryUsedBytes : UInt64 := 0
  storageTotalBytes : UInt64 := 0
  storageUsedBytes : UInt64 := 0

namespace ClusterGraph

def countNode (result : ClusterSummary) (node : Node) : ClusterSummary :=
  { result with
    onlineNodes := result.onlineNodes + if node.status = .online then 1 else 0
    healthyNodes := result.healthyNodes + if node.healthy then 1 else 0
    memoryTotalBytes := result.memoryTotalBytes + node.resources.memoryTotalBytes
    memoryUsedBytes := result.memoryUsedBytes + node.resources.memoryUsedBytes
    storageTotalBytes := result.storageTotalBytes + node.resources.storageTotalBytes
    storageUsedBytes := result.storageUsedBytes + node.resources.storageUsedBytes }

def summary (iteration : IterationOrder) (graph : ClusterGraph) : ClusterSummary :=
  (iteration.arrange graph.nodes.entries).foldl (fun result entry => countNode result entry.2)
    { nodes := graph.nodes.entries.length, edges := graph.edgeCount }

end ClusterGraph

/-- The summary dict of `cluster_graph_analysis`. -/
structure SummaryDict where
  nodes : ℕ
  edges : ℕ
  onlineNodes : ℕ
  healthyNodes : ℕ
  memoryTotalBytes : ℕ
  memoryUsedBytes : ℕ
  storageTotalBytes : ℕ
  storageUsedBytes : ℕ

/-- The dict built from the struct that `ithute_cluster_summary_read`
fills. -/
def ClusterSummary.toDict (summary : ClusterSummary) : SummaryDict where
  nodes := summary.nodes
  edges := summary.edges
  onlineNodes := summary.onlineNodes
  healthyNodes := summary.healthyNodes
  memoryTotalBytes := summary.memoryTotalBytes.toNat
  memoryUsedBytes := summary.memoryUsedBytes.toNat
  storageTotalBytes := summary.storageTotalBytes.toNat
  storageUsedBytes := summary.storageUsedBytes.toNat

def totalBytes (field : NodeDict → FieldValue) (nodes : List NodeDict) : ℕ :=
  (nodes.map fun node => u64 (field node)).sum

def pythonSummary (nodes : List NodeDict) (edges : List EdgeDict) : SummaryDict where
  nodes := nodes.length
  edges := edges.length
  onlineNodes := nodes.countP fun node => node.online
  healthyNodes := nodes.countP fun node => node.healthy
  memoryTotalBytes := totalBytes NodeDict.memoryTotalBytes nodes
  memoryUsedBytes := totalBytes NodeDict.memoryUsedBytes nodes
  storageTotalBytes := totalBytes NodeDict.storageTotalBytes nodes
  storageUsedBytes := totalBytes NodeDict.storageUsedBytes nodes

def wrappedTotal (field : ResourceState → UInt64) (nodes : List Node) : ℕ :=
  (nodes.map fun node => (field node.resources).toNat).sum % 2 ^ 64

theorem foldl_add_toNat (values : List UInt64) (start : UInt64) :
    (values.foldl (· + ·) start).toNat =
      (start.toNat + (values.map UInt64.toNat).sum) % 2 ^ 64 := by
  induction values generalizing start with
  | nil =>
    have bound := start.toNat_lt
    simp only [List.foldl_nil, List.map_nil, List.sum_nil]
    omega
  | cons value values ih =>
    rw [List.foldl_cons, ih, UInt64.toNat_add, List.map_cons, List.sum_cons]
    omega

theorem wrappedTotal_of_perm (field : ResourceState → UInt64)
    {walked nodes : List Node} (perm : walked.Perm nodes) :
    ((walked.map fun node : Node => field node.resources).foldl (· + ·)
      (0 : UInt64)).toNat = wrappedTotal field nodes := by
  have sums := (perm.map fun node => (field node.resources).toNat).sum_eq
  rw [foldl_add_toNat, wrappedTotal, ← sums, List.map_map]
  simp [Function.comp_def]

theorem foldl_countNode (nodes : List Node) (start : ClusterSummary) :
    nodes.foldl ClusterGraph.countNode start = { start with
        onlineNodes := start.onlineNodes + nodes.countP fun node => node.status = .online
        healthyNodes := start.healthyNodes + nodes.countP fun node => node.healthy
        memoryTotalBytes := (nodes.map fun node =>
          node.resources.memoryTotalBytes).foldl (· + ·) start.memoryTotalBytes
        memoryUsedBytes := (nodes.map fun node =>
          node.resources.memoryUsedBytes).foldl (· + ·) start.memoryUsedBytes
        storageTotalBytes := (nodes.map fun node =>
          node.resources.storageTotalBytes).foldl (· + ·) start.storageTotalBytes
        storageUsedBytes := (nodes.map fun node =>
          node.resources.storageUsedBytes).foldl (· + ·) start.storageUsedBytes } := by
  induction nodes generalizing start with
  | nil => rfl
  | cons node nodes ih =>
    rw [List.foldl_cons, ih]
    simp only [ClusterGraph.countNode, List.countP_cons, List.map_cons,
      List.foldl_cons, decide_eq_true_eq]
    congr 1 <;> omega

theorem toDict_summary (iteration : IterationOrder) {graph : ClusterGraph} {nodes : List Node}
    (stored : (graph.nodes.entries.map fun entry => entry.2).Perm nodes) :
    (graph.summary iteration).toDict =
      { nodes := nodes.length
        edges := graph.edgeCount
        onlineNodes := nodes.countP fun node => node.status = .online
        healthyNodes := nodes.countP fun node => node.healthy
        memoryTotalBytes :=
          wrappedTotal ResourceState.memoryTotalBytes nodes
        memoryUsedBytes := wrappedTotal ResourceState.memoryUsedBytes nodes
        storageTotalBytes :=
          wrappedTotal ResourceState.storageTotalBytes nodes
        storageUsedBytes :=
          wrappedTotal ResourceState.storageUsedBytes nodes } := by
  have walked : ((iteration.arrange graph.nodes.entries).map
      fun entry => entry.2).Perm nodes :=
    ((iteration.arrange_perm _).map _).trans stored
  have length : graph.nodes.entries.length = nodes.length := by
    simpa using stored.length_eq
  have loop : graph.summary iteration =
      ((iteration.arrange graph.nodes.entries).map
        fun entry => entry.2).foldl ClusterGraph.countNode
          { nodes := graph.nodes.entries.length
            edges := graph.edgeCount } := by
    rw [ClusterGraph.summary, List.foldl_map]
  rw [loop, foldl_countNode]
  simp only [ClusterSummary.toDict, wrappedTotal_of_perm ResourceState.memoryTotalBytes walked,
    wrappedTotal_of_perm ResourceState.memoryUsedBytes walked,
    wrappedTotal_of_perm ResourceState.storageTotalBytes walked,
    wrappedTotal_of_perm ResourceState.storageUsedBytes walked,
    walked.countP_eq, length, Nat.zero_add]

end Ithute
