import Ithute.ClusterDependencyOrder
import Ithute.ClusterSnapshot
import Ithute.Library.FoldInvariants

/-!
# Dependency order through the cluster engine

`dependency_order` of the backend calls the C function on the UTF-8 bytes of
the ids and keeps the Python order as its fallback.  The C strings end at
their first NUL, but ids that collide after cutting are rejected with a code
that selects the fallback, so only encoding can make the two orders differ.
-/

namespace Ithute

open LeastReadyOrder

inductive EngineName where
  | cpp | pythonFallback

structure DependencyResult where
  engine : EngineName
  acyclic : Bool
  order : List PyStr
  error : Option String := none

def dependencyIds (nodes : List NodeDict) : List PyStr := nodes.map NodeDict.idText

/-- `_dependency_edges`, dependent first; `lower` is `str.lower`. -/
def dependencyEdges (lower : PyStr → PyStr) (edges : List EdgeDict) : List (PyStr × PyStr) :=
  (edges.filter fun edge =>
    lower (strOrEmpty edge.relation) = pyStr "depends_on").map
      fun edge => (edge.sourceText, edge.targetText)

def addDependency (known : List PyStr) (tables : PairTables PyStr)
    (pair : PyStr × PyStr) : Except String (PairTables PyStr) :=
  if pair.1 ∉ known ∨ pair.2 ∉ known ∨ pair.1 = pair.2 then
    .error "invalid dependency edge"
  else if pair.1 ∈ tables.dependents pair.2 then .ok tables
  else .ok (tables.add pair.1 pair.2)

/-- The state in which the loop of `_python_dependency_order` ends. -/
def pythonDrained (ids : List PyStr) (tables : PairTables PyStr) : LoopState PyStr :=
  LoopState.drain (fun current => (tables.dependents current).insertionSort (· ≤ ·)) ids.length
    { remaining := tables.needs
      ready := (ids.filter fun id => tables.needs id = 0).insertionSort (· ≤ ·)
      order := [] }

def pythonDependencyOrder (lower : PyStr → PyStr) (nodes : List NodeDict)
    (edges : List EdgeDict) : DependencyResult :=
  let ids := dependencyIds nodes
  let rejected (message : String) : DependencyResult :=
    { engine := .pythonFallback, acyclic := false, order := [],
      error := some message }
  if ids = [] then
    { engine := .pythonFallback, acyclic := true, order := [] }
  else if [] ∈ ids ∨ ¬ ids.Nodup then rejected "invalid node ids"
  else
    match (dependencyEdges lower edges).foldlM (addDependency ids) .initial with
    | .error message => rejected message
    | .ok tables =>
      let order := (pythonDrained ids tables).order
      { engine := .pythonFallback
        acyclic := order.length = ids.length
        order := if order.length = ids.length then order else [] }

/-- The graph and the index map of `ithute_cluster_dependency_order`. -/
structure DependencyIndex where
  graph : ClusterGraph
  indexById : UnorderedMap NodeId ℕ

def DependencyIndex.initial : DependencyIndex where
  graph := .empty
  indexById := ∅

def addNode (state : DependencyIndex) (entry : Bytes × ℕ) : Except ℕ DependencyIndex :=
  let id := cString entry.1
  if id = [] ∨ id ∈ state.indexById then .error 4
  else
    .ok
      { graph := state.graph.upsertNode { id := id, name := id }
        indexById := state.indexById.insert id entry.2 }

/-- The edge that the C function builds for one pair of C strings. -/
def dependencyEdge (pair : Bytes × Bytes) : Edge where
  source := cString pair.1
  target := cString pair.2
  relation := .dependsOn

def addDependencyEdge (graph : ClusterGraph) (pair : Bytes × Bytes) : Except ℕ ClusterGraph :=
  let upserted := graph.upsertEdge (dependencyEdge pair)
  if upserted.2 then .ok upserted.1 else .error 4

/-- `ithute_cluster_dependency_order`: the ranked indices, or the result
code when it is not zero. -/
def ithuteClusterDependencyOrder (iteration : IterationOrder)
    (nodeIds : List Bytes) (dependencies : List (Bytes × Bytes)) : Except ℕ (List ℕ) :=
  if nodeIds = [] then .ok []
  else do
    let state ← nodeIds.zipIdx.foldlM addNode .initial
    let graph ← dependencies.foldlM addDependencyEdge state.graph
    match graph.dependencyOrder iteration with
    | none => .error 3
    | some order =>
      order.mapM fun id =>
        match state.indexById.lookup id with
        | none => .error 4
        | some index => .ok index

/-- `dependency_order` of the backend; `loaded` says whether the native
library is there, and `none` is an unhandled `UnicodeEncodeError`. -/
def dependencyOrder (lower : PyStr → PyStr) (iteration : IterationOrder)
    (loaded : Bool) (nodes : List NodeDict) (edges : List EdgeDict) : Option DependencyResult :=
  let ids := dependencyIds nodes
  if ids = [] then
    some
      { engine := if loaded then .cpp else .pythonFallback
        acyclic := true
        order := [] }
  else
    let fallback := pythonDependencyOrder lower nodes edges
    if fallback.acyclic = false ∧ fallback.error.isSome then some fallback
    else if loaded = false then some fallback
    else do
      let pairs := dependencyEdges lower edges
      let nodeIds ← ids.mapM encodeUtf8
      let dependents ← pairs.mapM fun pair => encodeUtf8 pair.1
      let dependencies ← pairs.mapM fun pair => encodeUtf8 pair.2
      match ithuteClusterDependencyOrder iteration nodeIds
          (dependents.zip dependencies) with
      | .error code =>
        if code = 3 then
          some { engine := .cpp, acyclic := false, order := [] }
        else some fallback
      | .ok ranked =>
        if ranked.insertionSort (· ≤ ·) = List.range ids.length then
          some
            { engine := .cpp
              acyclic := true
              order := ranked.map fun index => ids.getD index [] }
        else some fallback

/-- The ids are nonempty and distinct, and every dependency joins two
different ones. -/
structure ValidDependencies (lower : PyStr → PyStr) (nodes : List NodeDict)
    (edges : List EdgeDict) : Prop where
  nonempty : [] ∉ dependencyIds nodes
  nodup : (dependencyIds nodes).Nodup
  known : ∀ pair ∈ dependencyEdges lower edges,
    pair.1 ∈ dependencyIds nodes ∧ pair.2 ∈ dependencyIds nodes ∧ pair.1 ≠ pair.2

/-- `dependent` has a dependency edge to `dependency`. -/
def WaitsFor (lower : PyStr → PyStr) (edges : List EdgeDict)
    (dependent dependency : PyStr) : Prop :=
  (dependent, dependency) ∈ dependencyEdges lower edges

/-- Both paths give the same verdict and the same order, and the order takes
the least ready id again and again. -/
def DependencyOrdersAgree (lower : PyStr → PyStr)
    (iteration : IterationOrder) (nodes : List NodeDict) (edges : List EdgeDict) : Prop :=
  ∃ result, dependencyOrder lower iteration true nodes edges = some result ∧
    result.acyclic = (pythonDependencyOrder lower nodes edges).acyclic ∧
    result.order = (pythonDependencyOrder lower nodes edges).order ∧ (result.acyclic = true →
      TakesLeast (Unblocked (dependencyIds nodes) (WaitsFor lower edges)) [] result.order)

theorem addDependency_eq_error {known : List PyStr}
    {tables : PairTables PyStr} {pair : PyStr × PyStr} {message : String}
    (failed : addDependency known tables pair = .error message) :
    ¬ (pair.1 ∈ known ∧ pair.2 ∈ known ∧ pair.1 ≠ pair.2) := by
  rintro ⟨dependentMem, dependencyMem, different⟩
  simp only [addDependency, dependentMem, dependencyMem, different,
    not_true_eq_false, or_self, if_false] at failed
  split at failed <;> cases failed

def Counted (known : List PyStr) (pairs : List (PyStr × PyStr))
    (tables : PairTables PyStr) : Prop :=
  (∀ pair ∈ pairs, pair.1 ∈ known ∧ pair.2 ∈ known ∧ pair.1 ≠ pair.2) ∧
    ∃ seen : List (PyStr × PyStr), seen.Nodup ∧
      (∀ pair, pair ∈ seen ↔ pair ∈ pairs) ∧ tables = .ofPairs seen

theorem counted_addDependency {known : List PyStr}
    {pairs : List (PyStr × PyStr)} {tables : PairTables PyStr}
    (counted : Counted known pairs tables) (pair : PyStr × PyStr) :
    addDependency known tables pair = .error "invalid dependency edge" ∨
      ∃ next, addDependency known tables pair = .ok next ∧
        Counted known (pairs ++ [pair]) next := by
  obtain ⟨valid, seen, seenNodup, sameMembers, rfl⟩ := counted
  unfold addDependency
  split
  · exact Or.inl rfl
  · next proper =>
      simp only [not_or, not_not] at proper
      obtain ⟨dependentMem, dependencyMem, different⟩ := proper
      have validNext : ∀ other ∈ pairs ++ [pair],
          other.1 ∈ known ∧ other.2 ∈ known ∧ other.1 ≠ other.2 := by
        intro other otherMem
        rcases List.mem_append.mp otherMem with old | new
        · exact valid other old
        · rw [List.mem_singleton.mp new]
          exact ⟨dependentMem, dependencyMem, different⟩
      right
      split
      · next repeated =>
          have repeated := PairTables.mem_dependents_ofPairs.mp repeated
          refine ⟨_, rfl, validNext, seen, seenNodup, ?_, rfl⟩
          intro other
          rw [List.mem_append, List.mem_singleton, sameMembers]
          constructor
          · exact Or.inl
          · rintro (old | rfl)
            · exact old
            · exact (sameMembers _).mp repeated
      · next fresh =>
          have fresh := mt PairTables.mem_dependents_ofPairs.mpr fresh
          refine ⟨_, rfl, validNext, seen ++ [pair], ?_, ?_,
            PairTables.add_ofPairs seen pair.1 pair.2⟩
          · rw [List.nodup_append_comm]
            exact List.nodup_cons.mpr ⟨fresh, seenNodup⟩
          · intro other
            simp [sameMembers]

theorem collectDependencies_cases (known : List PyStr) (pairs : List (PyStr × PyStr)) :
    (pairs.foldlM (addDependency known) .initial = .error "invalid dependency edge" ∧
      ∃ pair ∈ pairs, ¬ (pair.1 ∈ known ∧ pair.2 ∈ known ∧ pair.1 ≠ pair.2)) ∨
      ∃ tables, pairs.foldlM (addDependency known) .initial = .ok tables ∧
        Counted known pairs tables := by
  have start : Counted known [] .initial := ⟨by simp, [], List.nodup_nil, by simp, rfl⟩
  have preserved (front : List (PyStr × PyStr)) (tables : PairTables PyStr)
      (pair : PyStr × PyStr) (counted : Counted known front tables) :=
    counted_addDependency counted pair
  rcases FoldInvariants.foldlM_prefix preserved pairs start with
    ⟨failed, pair, pairMem, reached, invalid⟩ | collected
  · exact Or.inl ⟨failed, pair, pairMem, addDependency_eq_error invalid⟩
  · exact Or.inr collected

variable {ids : List PyStr}

theorem pythonDrained_takesLeast (idsNodup : ids.Nodup)
    {seen : List (PyStr × PyStr)} (seenNodup : seen.Nodup)
    (inside : ∀ pair ∈ seen, pair.1 ∈ ids ∧ pair.2 ∈ ids) :
    TakesLeast (Unblocked ids fun item source => (item, source) ∈ seen) []
      (pythonDrained ids (.ofPairs seen)).order := by
  have sorted : (fun current =>
      ((PairTables.ofPairs seen).dependents current).insertionSort (· ≤ ·)) =
        dependentsOf seen := by
    funext current
    exact PairTables.sort_dependents_ofPairs seenNodup current
  have takes := (Schedule.ofPairs ids idsNodup seen inside).drain_start
  rw [pythonDrained, sorted]
  exact takesLeast_unblocked_ofPairs seenNodup takes

section PythonOrder

variable {lower : PyStr → PyStr} {nodes : List NodeDict} {edges : List EdgeDict}

/-- On a valid snapshot the fallback reports the least-ready order when it is
complete. -/
theorem pythonDependencyOrder_of_valid (valid : ValidDependencies lower nodes edges) :
    ∃ order, TakesLeast (Unblocked (dependencyIds nodes) (WaitsFor lower edges)) [] order ∧
      pythonDependencyOrder lower nodes edges =
        { engine := .pythonFallback
          acyclic := order.length = (dependencyIds nodes).length
          order :=
            if order.length = (dependencyIds nodes).length then order
            else [] } := by
  by_cases noIds : dependencyIds nodes = []
  · refine ⟨[], .stop ?_, by simp [pythonDependencyOrder, noIds]⟩
    rintro item ⟨itemMem, -⟩
    simp [noIds] at itemMem
  · rcases collectDependencies_cases (dependencyIds nodes) (dependencyEdges lower edges) with
      ⟨-, pair, pairMem, invalid⟩ | ⟨tables, collected, known, seen, seenNodup, sameMembers, rfl⟩
    · exact (invalid (valid.known pair pairMem)).elim
    · have takes := pythonDrained_takesLeast valid.nodup seenNodup
        fun pair pairMem =>
          have pairKnown := known pair ((sameMembers pair).mp pairMem)
          ⟨pairKnown.1, pairKnown.2.1⟩
      have sameWaits : (fun item source => (item, source) ∈ seen) = WaitsFor lower edges := by
        ext item source
        exact sameMembers _
      rw [sameWaits] at takes
      refine ⟨_, takes, ?_⟩
      simp [pythonDependencyOrder, noIds, valid.nonempty, valid.nodup, collected]

theorem pythonDependencyOrder_of_not_valid (someIds : dependencyIds nodes ≠ [])
    (invalid : ¬ ValidDependencies lower nodes edges) :
    (pythonDependencyOrder lower nodes edges).acyclic = false ∧
      (pythonDependencyOrder lower nodes edges).error.isSome := by
  by_cases properIds : [] ∈ dependencyIds nodes ∨ ¬ (dependencyIds nodes).Nodup
  · simp [pythonDependencyOrder, someIds, properIds]
  · simp only [not_or, not_not] at properIds
    rcases collectDependencies_cases (dependencyIds nodes) (dependencyEdges lower edges) with
      ⟨failed, -⟩ | ⟨tables, -, known, -⟩
    · simp [pythonDependencyOrder, someIds, properIds, failed]
    · exact (invalid ⟨properIds.1, properIds.2, known⟩).elim

end PythonOrder

structure Indexed (entries : List (Bytes × ℕ)) (state : DependencyIndex) : Prop where
  wellFormed : state.graph.WellFormed
  no_edges : ∀ edge, edge ∉ state.graph.storedEdges
  nodup : (entries.map fun entry => cString entry.1).Nodup
  mem_nodes : ∀ id, id ∈ state.graph.nodes ↔ id ∈ entries.map fun entry => cString entry.1
  mem_index : ∀ id, id ∈ state.indexById ↔ id ∈ entries.map fun entry => cString entry.1
  lookup : ∀ id index, state.indexById.lookup id = some index →
    ∃ entry ∈ entries, cString entry.1 = id ∧ entry.2 = index

theorem indexed_initial : Indexed [] .initial where
  wellFormed := ClusterGraph.empty_wellFormed
  no_edges := by simp [DependencyIndex.initial, ClusterGraph.empty, ClusterGraph.storedEdges]
  nodup := List.nodup_nil
  mem_nodes := fun _ => iff_of_false (AList.notMem_empty _) List.not_mem_nil
  mem_index := fun _ => iff_of_false (AList.notMem_empty _) List.not_mem_nil
  lookup := by simp [DependencyIndex.initial]

theorem indexed_addNode {entries : List (Bytes × ℕ)} {state : DependencyIndex}
    (indexed : Indexed entries state) (entry : Bytes × ℕ) : addNode state entry = .error 4 ∨
      ∃ next, addNode state entry = .ok next ∧ Indexed (entries ++ [entry]) next := by
  simp only [addNode]
  split
  · exact Or.inl rfl
  · next proper =>
      obtain ⟨nonempty, fresh⟩ := not_or.mp proper
      refine Or.inr ⟨_, rfl, ?_, ?_, ?_, ?_, ?_, ?_⟩
      · exact ClusterGraph.upsertNode_wellFormed indexed.wellFormed _
      · intro edge
        rw [ClusterGraph.mem_storedEdges_upsertNode]
        exact indexed.no_edges edge
      · rw [List.map_append, List.map_singleton, List.nodup_append_comm]
        exact List.nodup_cons.mpr ⟨mt (indexed.mem_index _).mpr fresh, indexed.nodup⟩
      · intro id
        rw [ClusterGraph.mem_nodes_upsertNode nonempty, indexed.mem_nodes,
          List.map_append, List.map_singleton, List.mem_append, List.mem_singleton, or_comm]
      · intro id
        rw [AList.mem_insert, indexed.mem_index, List.map_append,
          List.map_singleton, List.mem_append, List.mem_singleton, or_comm]
      · intro id index found
        by_cases same : id = cString entry.1
        · subst same
          rw [AList.lookup_insert] at found
          exact ⟨entry, by simp, rfl, Option.some.inj found⟩
        · rw [AList.lookup_insert_ne same] at found
          obtain ⟨old, oldMem, oldId, oldIndex⟩ :=
            indexed.lookup id index found
          exact ⟨old, by simp [oldMem], oldId, oldIndex⟩

/-- The graph after some dependencies were added to `base`. -/
structure Linked (base : ClusterGraph) (pairs : List (Bytes × Bytes))
    (graph : ClusterGraph) : Prop where
  wellFormed : graph.WellFormed
  nodes : graph.nodes = base.nodes
  mem_edges : ∀ edge, edge ∈ graph.storedEdges ↔ ∃ pair ∈ pairs, edge = dependencyEdge pair

theorem linked_addDependencyEdge {base graph : ClusterGraph}
    {pairs : List (Bytes × Bytes)} (linked : Linked base pairs graph) (pair : Bytes × Bytes) :
    addDependencyEdge graph pair = .error 4 ∨ ∃ next, addDependencyEdge graph pair = .ok next ∧
        Linked base (pairs ++ [pair]) next := by
  simp only [addDependencyEdge]
  split
  · next accepted =>
      have accepts := (ClusterGraph.upsertEdge_accepts_iff linked.wellFormed _).mp accepted
      refine Or.inr ⟨_, rfl, ?_, ?_, ?_⟩
      · exact ClusterGraph.upsertEdge_wellFormed linked.wellFormed _
      · rw [ClusterGraph.upsertEdge_nodes, linked.nodes]
      · intro edge
        rw [ClusterGraph.mem_storedEdges_upsertEdge linked.wellFormed, linked.mem_edges]
        simp [accepts, or_and_right, exists_or]
  · exact Or.inl rfl

/-- The C function either rejects its input or orders a graph with exactly
the given nodes and dependencies. -/
theorem ithuteClusterDependencyOrder_cases (iteration : IterationOrder)
    {nodeIds : List Bytes} (someIds : nodeIds ≠ []) (pairs : List (Bytes × Bytes)) :
    ithuteClusterDependencyOrder iteration nodeIds pairs = .error 4 ∨
      ∃ state graph, Indexed nodeIds.zipIdx state ∧ Linked state.graph pairs graph ∧
          ithuteClusterDependencyOrder iteration nodeIds pairs =
            match graph.dependencyOrder iteration with
            | none => .error 3
            | some order =>
              order.mapM fun id =>
                match state.indexById.lookup id with
                | none => .error 4
                | some index => .ok index := by
  have addsNode (front : List (Bytes × ℕ)) (state : DependencyIndex)
      (entry : Bytes × ℕ) (indexed : Indexed front state) :=
    indexed_addNode indexed entry
  simp only [ithuteClusterDependencyOrder, someIds, if_false]
  rcases FoldInvariants.foldlM_prefix addsNode nodeIds.zipIdx
      indexed_initial with ⟨failed, -⟩ | ⟨state, added, indexed⟩
  · exact Or.inl (by rw [failed]; rfl)
  · rw [added]
    have addsEdge (front : List (Bytes × Bytes)) (graph : ClusterGraph)
        (pair : Bytes × Bytes) (linked : Linked state.graph front graph) :=
      linked_addDependencyEdge linked pair
    have start : Linked state.graph [] state.graph :=
      ⟨indexed.wellFormed, rfl, by simp [indexed.no_edges]⟩
    rcases FoldInvariants.foldlM_prefix addsEdge pairs start with
      ⟨failed, -⟩ | ⟨graph, linkedAll, linked⟩
    · exact Or.inl (by simp [bind, Except.bind, failed])
    · refine Or.inr ⟨state, graph, indexed, linked, ?_⟩
      simp [bind, Except.bind, linkedAll]

theorem rankIndices_cases {state : DependencyIndex}
    (indexed : Indexed (ids.map utf8).zipIdx state) (order : List NodeId) : (order.mapM fun id =>
        match state.indexById.lookup id with
        | none => Except.error 4
        | some index => Except.ok index) = .error 4 ∨
      ∃ ranked, (order.mapM fun id =>
          match state.indexById.lookup id with
          | none => Except.error 4
          | some index => Except.ok index) = .ok ranked ∧
        (ranked.map fun index => ids.getD index []) ⊆ ids ∧
        (ranked.map fun index => ids.getD index []).map nativeId = order := by
  induction order with
  | nil => exact Or.inr ⟨[], rfl, List.nil_subset _, rfl⟩
  | cons id order ih =>
    rw [List.mapM_cons]
    cases found : state.indexById.lookup id with
    | none => exact Or.inl rfl
    | some index =>
      obtain ⟨⟨bytes, position⟩, entryMem, sameId, rfl⟩ := indexed.lookup id index found
      obtain ⟨member, text⟩ : ids.getD position [] ∈ ids ∧ utf8 (ids.getD position []) = bytes := by
        have located := List.mem_zipIdx_iff_getElem?.mp entryMem
        rw [List.getElem?_map, Option.map_eq_some_iff] at located
        obtain ⟨id, idAt, encoded⟩ := located
        rw [List.getD_eq_getElem?_getD, idAt]
        exact ⟨List.mem_of_getElem? idAt, encoded⟩
      rcases ih with failed | ⟨ranked, succeeded, inside, named⟩
      · exact Or.inl (by simp [bind, Except.bind, failed])
      · refine Or.inr ⟨position :: ranked,
          by simp [bind, Except.bind, pure, Except.pure, succeeded], ?_, ?_⟩
        · rw [List.map_cons]
          exact List.cons_subset.mpr ⟨member, inside⟩
        · rw [List.map_cons, List.map_cons, named, nativeId, text]
          exact congrArg (· :: order) sameId

section Agreement

variable {ids : List PyStr} {pairs : List (PyStr × PyStr)}
  {state : DependencyIndex} {graph : ClusterGraph} (indexed : Indexed (ids.map utf8).zipIdx state)
  (linked : Linked state.graph (pairs.map fun pair => (utf8 pair.1, utf8 pair.2)) graph)

theorem map_nativeId_eq (ids : List PyStr) :
    ((ids.map utf8).zipIdx.map fun entry => cString entry.1) = ids.map nativeId := by
  calc
    _ = ((ids.map utf8).zipIdx.map Prod.fst).map cString := by
      rw [List.map_map]
      rfl
    _ = ids.map nativeId := by
      rw [List.zipIdx_map_fst, List.map_map]
      rfl

include indexed

theorem nativeId_injOn : ∀ first ∈ ids, ∀ second ∈ ids,
    nativeId first = nativeId second → first = second := by
  have nodup := indexed.nodup
  rw [map_nativeId_eq] at nodup
  intro first firstMem second secondMem same
  exact List.inj_on_of_nodup_map nodup firstMem secondMem same

theorem nativeId_lt : ∀ first ∈ ids, ∀ second ∈ ids,
    first < second → nativeId first < nativeId second := by
  intro first firstMem second secondMem below
  have apart : beforeNul first ≠ beforeNul second := by
    intro same
    have cutSame := cString_utf8_eq_iff.mpr same
    exact ne_of_lt below (nativeId_injOn indexed first firstMem second secondMem cutSame)
  exact (cString_utf8_lt_iff apart).mpr below

include linked

omit indexed in
theorem linked_dependsOn {image origin : NodeId} :
    graph.DependsOn image origin ↔ ∃ item source, nativeId item = image ∧
      nativeId source = origin ∧ (item, source) ∈ pairs := by
  constructor
  · rintro ⟨edge, stored, -, rfl, rfl, -⟩
    obtain ⟨pair, encodedMem, rfl⟩ := (linked.mem_edges edge).mp stored
    obtain ⟨⟨item, source⟩, pairMem, rfl⟩ := List.mem_map.mp encodedMem
    exact ⟨item, source, rfl, rfl, pairMem⟩
  · rintro ⟨item, source, rfl, rfl, pairMem⟩
    have stored := (linked.mem_edges _).mpr ⟨_, List.mem_map_of_mem pairMem, rfl⟩
    obtain ⟨sourceMem, targetMem, -⟩ := linked.wellFormed.ends_of_mem stored
    exact ⟨_, stored, rfl, rfl, rfl, sourceMem, targetMem⟩

omit indexed in
theorem linked_noParallel : graph.NoParallelDependencies := by
  intro first firstMem second secondMem _ _ sameSource sameTarget
  obtain ⟨pair, -, rfl⟩ := (linked.mem_edges first).mp firstMem
  obtain ⟨other, -, rfl⟩ := (linked.mem_edges second).mp secondMem
  simp only [dependencyEdge] at sameSource sameTarget ⊢
  rw [sameSource, sameTarget]

theorem drained_eq_map (iteration : IterationOrder)
    (known : ∀ pair ∈ pairs, pair.1 ∈ ids ∧ pair.2 ∈ ids) {order : List PyStr} (takes : TakesLeast
      (Unblocked ids fun item source => (item, source) ∈ pairs) [] order) :
    (graph.drained iteration).order = order.map nativeId := by
  have native := takesLeast_unblocked_ofPairs
    ((ClusterGraph.dependencyPairs_nodup_iff linked.wellFormed iteration).mpr
      (linked_noParallel linked))
    (ClusterGraph.drained_takesLeast linked.wellFormed iteration)
  have renamed := takes.map_unblocked (nativeId_lt indexed)
    (fun item source pairMem => known (item, source) pairMem)
    (fun image origin => linked_dependsOn linked)
  have sameReady : (Unblocked graph.nodeIds fun item source =>
        (item, source) ∈ graph.dependencyPairs iteration) =
          Unblocked (ids.map nativeId) graph.DependsOn := by
    ext done id
    have sameNodes : id ∈ graph.nodeIds ↔ id ∈ ids.map nativeId := by
      rw [ClusterGraph.nodeIds, ← AList.mem_keys, linked.nodes, indexed.mem_nodes, map_nativeId_eq]
    simp only [Unblocked, sameNodes, ClusterGraph.mem_dependencyPairs linked.wellFormed iteration]
  rw [sameReady] at native
  exact native.unique renamed

end Agreement

theorem eq_of_map_nativeId (injective : ∀ first ∈ ids, ∀ second ∈ ids,
      nativeId first = nativeId second → first = second)
    {first second : List PyStr} (firstInside : first ⊆ ids) (secondInside : second ⊆ ids)
    (same : first.map nativeId = second.map nativeId) : first = second := by
  induction first generalizing second with
  | nil => exact (List.map_eq_nil_iff.mp same.symm).symm
  | cons id rest ih =>
    cases second with
    | nil => simp at same
    | cons other others =>
      obtain ⟨idMem, restInside⟩ := List.cons_subset.mp firstInside
      obtain ⟨otherMem, othersInside⟩ := List.cons_subset.mp secondInside
      simp only [List.map_cons, List.cons.injEq] at same
      rw [injective id idMem other otherMem same.1, ih restInside othersInside same.2]

/-- Whatever the C function answers, the service reports the Python verdict
and order. -/
theorem native_result_agrees (iteration : IterationOrder) (someIds : ids ≠ [])
    {pairs : List (PyStr × PyStr)} (known : ∀ pair ∈ pairs, pair.1 ∈ ids ∧ pair.2 ∈ ids)
    {order : List PyStr} (takes : TakesLeast
      (Unblocked ids fun item source => (item, source) ∈ pairs) [] order) :
    (∃ code, ithuteClusterDependencyOrder iteration (ids.map utf8)
        (pairs.map fun pair => (utf8 pair.1, utf8 pair.2)) = .error code ∧
      (code = 3 → order.length ≠ ids.length)) ∨
    ∃ ranked, ithuteClusterDependencyOrder iteration (ids.map utf8)
        (pairs.map fun pair => (utf8 pair.1, utf8 pair.2)) = .ok ranked ∧
      order.length = ids.length ∧ (ranked.map fun index => ids.getD index []) = order := by
  rcases ithuteClusterDependencyOrder_cases iteration (by simpa using someIds : ids.map utf8 ≠ [])
      (pairs.map fun pair => (utf8 pair.1, utf8 pair.2)) with
    rejected | ⟨state, graph, indexed, linked, answer⟩
  · exact Or.inl ⟨4, rejected, by simp⟩
  · have drained := drained_eq_map indexed linked iteration known takes
    have sameCount : graph.nodeIds.length = ids.length := by
      have nodup := indexed.nodup
      rw [map_nativeId_eq] at nodup
      have perm : graph.nodeIds.Perm (ids.map nativeId) := by
        apply (List.perm_ext_iff_of_nodup graph.nodes.keys_nodup nodup).mpr
        intro id
        rw [← AList.mem_keys, linked.nodes, indexed.mem_nodes, map_nativeId_eq]
      rw [perm.length_eq, List.length_map]
    rw [answer]
    simp only [ClusterGraph.dependencyOrder, drained, sameCount, List.length_map]
    by_cases complete : order.length = ids.length
    · simp only [complete, ne_eq, not_true_eq_false, if_false]
      rcases rankIndices_cases indexed (order.map nativeId) with
        failed | ⟨ranked, succeeded, inside, named⟩
      · exact Or.inl ⟨4, failed, by simp⟩
      · refine Or.inr ⟨ranked, succeeded, trivial, ?_⟩
        have orderInside : order ⊆ ids := takes.subset fun _ _ unblocked => unblocked.1
        exact eq_of_map_nativeId (nativeId_injOn indexed) inside orderInside named
    · rw [if_pos complete]
      exact Or.inl ⟨3, rfl, fun _ => complete⟩

section Service

variable {lower : PyStr → PyStr} {nodes : List NodeDict} {edges : List EdgeDict}

theorem dependencyOrder_eq_none (iteration : IterationOrder)
    (valid : ValidDependencies lower nodes edges)
    (unencodable : ¬ ∀ id ∈ dependencyIds nodes, Utf8Encodable id) :
    dependencyOrder lower iteration true nodes edges = none := by
  have someIds : dependencyIds nodes ≠ [] := by
    intro noIds
    exact unencodable (by simp [noIds])
  obtain ⟨order, -, python⟩ := pythonDependencyOrder_of_valid valid
  have raises : (dependencyIds nodes).mapM encodeUtf8 = none := by
    have encoded := mapM_encodeUtf8 id (dependencyIds nodes)
    simp only [id] at encoded
    rw [encoded, if_neg unencodable]
  simp [dependencyOrder, someIds, python, raises]

theorem agree_of_fallback {iteration : IterationOrder} (valid : ValidDependencies lower nodes edges)
    (fallback : dependencyOrder lower iteration true nodes edges =
      some (pythonDependencyOrder lower nodes edges)) :
    DependencyOrdersAgree lower iteration nodes edges := by
  obtain ⟨order, takes, python⟩ := pythonDependencyOrder_of_valid valid
  refine ⟨_, fallback, rfl, rfl, ?_⟩
  rw [python]
  intro acyclic
  simp only [decide_eq_true_eq] at acyclic
  simpa [acyclic] using takes

theorem dependencyOrder_of_encodable (iteration : IterationOrder)
    (someIds : dependencyIds nodes ≠ []) (valid : ValidDependencies lower nodes edges)
    (encodable : ∀ id ∈ dependencyIds nodes, Utf8Encodable id) :
    DependencyOrdersAgree lower iteration nodes edges := by
  obtain ⟨order, takes, python⟩ := pythonDependencyOrder_of_valid valid
  have encodedIds : (dependencyIds nodes).mapM encodeUtf8 =
      some ((dependencyIds nodes).map utf8) := by
    have encoded := mapM_encodeUtf8 id (dependencyIds nodes)
    simp only [id] at encoded
    rw [encoded, if_pos encodable]
  have encodedDependents : ((dependencyEdges lower edges).mapM
      fun pair => encodeUtf8 pair.1) =
        some ((dependencyEdges lower edges).map fun pair => utf8 pair.1) := by
    rw [mapM_encodeUtf8, if_pos]
    exact fun pair pairMem => encodable _ (valid.known pair pairMem).1
  have encodedDependencies : ((dependencyEdges lower edges).mapM
      fun pair => encodeUtf8 pair.2) =
        some ((dependencyEdges lower edges).map fun pair => utf8 pair.2) := by
    rw [mapM_encodeUtf8, if_pos]
    exact fun pair pairMem => encodable _ (valid.known pair pairMem).2.1
  have service : dependencyOrder lower iteration true nodes edges =
      match ithuteClusterDependencyOrder iteration
          ((dependencyIds nodes).map utf8)
          ((dependencyEdges lower edges).map
            fun pair => (utf8 pair.1, utf8 pair.2)) with
      | .error code =>
        if code = 3 then
          some { engine := .cpp, acyclic := false, order := [] }
        else some (pythonDependencyOrder lower nodes edges)
      | .ok ranked =>
        if ranked.insertionSort (· ≤ ·) = List.range (dependencyIds nodes).length then
          some
            { engine := .cpp
              acyclic := true
              order := ranked.map fun index =>
                (dependencyIds nodes).getD index [] }
        else some (pythonDependencyOrder lower nodes edges) := by
    simp [dependencyOrder, someIds, python, encodedIds, encodedDependents,
      encodedDependencies, List.zip_map']
  have known : ∀ pair ∈ dependencyEdges lower edges,
      pair.1 ∈ dependencyIds nodes ∧ pair.2 ∈ dependencyIds nodes :=
    fun pair pairMem =>
      ⟨(valid.known pair pairMem).1, (valid.known pair pairMem).2.1⟩
  rcases native_result_agrees iteration someIds known takes with
    ⟨code, answer, cyclic⟩ | ⟨ranked, answer, complete, ranking⟩
  · rw [answer] at service
    by_cases isThree : code = 3
    · refine ⟨_, by simpa [isThree] using service, ?_, ?_, by simp⟩
      · simp [python, cyclic isThree]
      · simp [python, cyclic isThree]
    · exact agree_of_fallback valid (by simpa [isThree] using service)
  · simp only [answer, ranking] at service
    by_cases checked : ranked.insertionSort (· ≤ ·) = List.range (dependencyIds nodes).length
    · rw [if_pos checked] at service
      refine ⟨_, service, ?_, ?_, fun _ => takes⟩
      · simp [python, complete]
      · simp [python, complete]
    · exact agree_of_fallback valid (by rw [service, if_neg checked])

end Service

/-- The native path agrees with the Python order exactly when the fallback
rejects the snapshot at once or all its ids can be encoded. -/
theorem dependencyOrdersAgree_iff (lower : PyStr → PyStr)
    (iteration : IterationOrder) (nodes : List NodeDict) (edges : List EdgeDict) :
    DependencyOrdersAgree lower iteration nodes edges ↔ ¬ ValidDependencies lower nodes edges ∨
        ∀ id ∈ dependencyIds nodes, Utf8Encodable id := by
  constructor
  · rintro ⟨result, succeeded, -⟩
    by_contra neither
    obtain ⟨valid, unencodable⟩ := not_or.mp neither
    rw [dependencyOrder_eq_none iteration (not_not.mp valid) unencodable] at succeeded
    simp at succeeded
  · intro condition
    by_cases noIds : dependencyIds nodes = []
    · refine ⟨{ engine := .cpp, acyclic := true, order := [] },
        by simp [dependencyOrder, noIds], by simp [pythonDependencyOrder, noIds],
        by simp [pythonDependencyOrder, noIds], fun _ => .stop ?_⟩
      rintro item ⟨itemMem, -⟩
      simp [noIds] at itemMem
    · by_cases valid : ValidDependencies lower nodes edges
      · exact dependencyOrder_of_encodable iteration noIds valid
          (condition.resolve_left (not_not.mpr valid))
      · obtain ⟨cyclic, message⟩ :=
          pythonDependencyOrder_of_not_valid noIds valid
        refine ⟨pythonDependencyOrder lower nodes edges, ?_, rfl, rfl, ?_⟩
        · simp [dependencyOrder, noIds, cyclic, message]
        · simp [cyclic]

def surrogateSnapshot : List NodeDict := [{ id := some [0xD800] }]

theorem surrogateSnapshot_disagrees :
    ¬ DependencyOrdersAgree asciiLower .asStored surrogateSnapshot [] := by
  have valid : ValidDependencies asciiLower surrogateSnapshot [] :=
    ⟨by decide, by decide, by simp [dependencyEdges]⟩
  have unencodable : ¬ ∀ id ∈ dependencyIds surrogateSnapshot, Utf8Encodable id := by
    simp [surrogateSnapshot, dependencyIds, NodeDict.idText, strOrEmpty, Utf8Encodable, isSurrogate]
  rintro ⟨result, succeeded, -⟩
  rw [dependencyOrder_eq_none .asStored valid unencodable] at succeeded
  simp at succeeded

end Ithute
