import Ithute.ClusterGraph

/-!
# Topology snapshots

The dicts that the Python services hand to the cluster engine, the helpers
that turn their entries into C values, and the C functions that put them into
a native graph.
-/

namespace Ithute

structure NodeDict where
  id : Option PyStr
  name : Option PyStr := none
  privateIp : Option PyStr := none
  status : Option PyStr := none
  online : Bool := false
  healthy : Bool := false
  memoryTotalBytes : FieldValue := .absent
  memoryUsedBytes : FieldValue := .absent
  storageTotalBytes : FieldValue := .absent
  storageUsedBytes : FieldValue := .absent

structure EdgeDict where
  source : Option PyStr
  target : Option PyStr
  relation : Option PyStr := none
  service : Option PyStr := none
  protocol : Option PyStr := none
  port : FieldValue := .absent

def NodeDict.idText (node : NodeDict) : PyStr := strOrEmpty node.id

def EdgeDict.sourceText (edge : EdgeDict) : PyStr := strOrEmpty edge.source

def EdgeDict.targetText (edge : EdgeDict) : PyStr := strOrEmpty edge.target

/-- `_u64`: a nonnegative integer, zero for what is not a number. -/
def u64 (value : FieldValue) : ℕ :=
  match value.toInt with
  | some converted => (max 0 converted).toNat
  | none => 0

/-- `_status`; `lower` is `str.lower`. -/
def statusCode (lower : PyStr → PyStr) (value : Option PyStr) (online : Bool) : ℕ :=
  if online then 1
  else
    let normalized := lower (strOrEmpty value)
    if normalized = pyStr "maintenance" then 3
    else if normalized = pyStr "disabled" ∨ normalized = pyStr "offline" then 2
    else 0

/-- `_RELATIONS.get(name, 0)`. -/
def relationCode (name : PyStr) : ℕ :=
  if name = pyStr "communicates_with" then 0
  else if name = pyStr "hosts" then 1
  else if name = pyStr "depends_on" then 2
  else if name = pyStr "backs_up_to" then 3
  else if name = pyStr "replicates_to" then 4
  else 0

def nodeStatusFromInt : ℕ → NodeStatus
  | 1 => .online
  | 2 => .offline
  | 3 => .maintenance
  | _ => .unknown

def relationFromInt : ℕ → Relation
  | 1 => .hosts
  | 2 => .dependsOn
  | 3 => .backsUpTo
  | 4 => .replicatesTo
  | _ => .communicatesWith

/-- `ithute_cluster_upsert_node`: the new graph and the result code. -/
def ithuteClusterUpsertNode (graph : ClusterGraph)
    (id name privateIp : Bytes) (status : ℕ) (healthy : ℕ)
    (resources : ResourceState) : ClusterGraph × ℕ :=
  if cString id = [] then (graph, 1)
  else
    (graph.upsertNode
      { id := cString id
        name := cString name
        privateIp := cString privateIp
        status := nodeStatusFromInt status
        healthy := healthy ≠ 0
        resources := resources }, 0)

/-- `ithute_cluster_upsert_edge`: the new graph and the result code. -/
def ithuteClusterUpsertEdge (graph : ClusterGraph)
    (source target : Bytes) (relation : ℕ) (service protocol : Bytes)
    (port : UInt16) : ClusterGraph × ℕ :=
  let upserted := graph.upsertEdge
    { source := cString source
      target := cString target
      relation := relationFromInt relation
      service := cString service
      protocol := cString protocol
      port := port }
  (upserted.1, if upserted.2 then 0 else 3)

end Ithute
