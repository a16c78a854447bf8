import Ithute.ClusterGraph
import Ithute.Library.PairSchedule

/-!
# Dependency order of the native cluster graph

`dependency_order` counts dependencies edge by edge but releases each
dependent of a node once.  The order is therefore complete exactly when the
dependencies are acyclic and no two stored edges state the same dependency.
-/

namespace Ithute

open LeastReadyOrder

namespace ClusterGraph

/-- Count one edge of the list stored under `source`.  The local maps hold
an entry for every node, and only nodes are looked up in them. -/
def countEdge (graph : ClusterGraph) (source : NodeId)
    (tables : PairTables NodeId) (edge : Edge) : PairTables NodeId :=
  if edge.relation ≠ .dependsOn then tables
  else if source ∉ graph.nodes ∨ edge.target ∉ graph.nodes then tables
  else tables.add source edge.target

def countDependencies (iteration : IterationOrder) (graph : ClusterGraph) : PairTables NodeId :=
  (iteration.arrange graph.adjacency.entries).foldl
    (fun tables entry => entry.2.foldl (graph.countEdge entry.1) tables) .initial

def initiallyReady (iteration : IterationOrder) (graph : ClusterGraph)
    (tables : PairTables NodeId) : List NodeId :=
  (iteration.arrange graph.nodeIds).foldl (fun ready id =>
      if tables.needs id = 0 then ready.orderedInsert (· ≤ ·) id
      else ready) []

def releaseDependent (state : LoopState NodeId) (dependent : NodeId) : LoopState NodeId :=
  if state.remaining dependent = 0 then state else state.release dependent

def takeNext (dependents : NodeId → List NodeId) (state : LoopState NodeId) : LoopState NodeId :=
  match state.ready with
  | [] => state
  | current :: rest =>
    let children := unique ((dependents current).insertionSort (· ≤ ·))
    children.foldl releaseDependent { state with ready := rest, order := state.order ++ [current] }

/-- `while (!ready.empty())`, for at most `fuel` rounds. -/
def drain (dependents : NodeId → List NodeId) : ℕ → LoopState NodeId → LoopState NodeId
  | 0, state => state
  | fuel + 1, state =>
    if state.ready = [] then state
    else drain dependents fuel (takeNext dependents state)

/-- The state in which the loop of `dependency_order` ends. -/
def drained (iteration : IterationOrder) (graph : ClusterGraph) : LoopState NodeId :=
  let tables := graph.countDependencies iteration
  drain tables.dependents graph.nodeIds.length
    { remaining := tables.needs
      ready := graph.initiallyReady iteration tables
      order := [] }

def dependencyOrder (iteration : IterationOrder) (graph : ClusterGraph) : Option (List NodeId) :=
  let order := (graph.drained iteration).order
  if order.length ≠ graph.nodeIds.length then none else some order

/-- A stored `DependsOn` edge between existing nodes. -/
def DependsOn (graph : ClusterGraph) (dependent dependency : NodeId) : Prop :=
  ∃ edge ∈ graph.storedEdges, edge.relation = .dependsOn ∧
    edge.source = dependent ∧ edge.target = dependency ∧
      dependent ∈ graph.nodes ∧ dependency ∈ graph.nodes

def DependencyAcyclic (graph : ClusterGraph) : Prop :=
  ∀ id, ¬ Relation.TransGen graph.DependsOn id id

/-- Every node exactly once, every dependency before its dependent. -/
def OrdersDependencies (graph : ClusterGraph) (order : List NodeId) : Prop :=
  order.Perm graph.nodeIds ∧ ∀ dependent dependency, graph.DependsOn dependent dependency →
      order.idxOf dependency < order.idxOf dependent

/-- `dependency_order` succeeds exactly on acyclic graphs, and then orders
the dependencies. -/
def DependencyOrderCorrect (iteration : IterationOrder) (graph : ClusterGraph) : Prop :=
  ((graph.dependencyOrder iteration).isSome ↔ graph.DependencyAcyclic) ∧
    ∀ order, graph.dependencyOrder iteration = some order → graph.OrdersDependencies order

def NoParallelDependencies (graph : ClusterGraph) : Prop :=
  ∀ first ∈ graph.storedEdges, ∀ second ∈ graph.storedEdges,
    first.relation = .dependsOn → second.relation = .dependsOn →
      first.source = second.source → first.target = second.target → first = second

def walkedEdges (iteration : IterationOrder) (graph : ClusterGraph) : List Edge :=
  (iteration.arrange graph.adjacency.entries).flatMap fun entry => entry.2

theorem walkedEdges_perm (iteration : IterationOrder) (graph : ClusterGraph) :
    (graph.walkedEdges iteration).Perm graph.storedEdges :=
  (iteration.arrange_perm _).flatMap_right _

def dependencyPairs (iteration : IterationOrder) (graph : ClusterGraph) : List (NodeId × NodeId) :=
  ((graph.walkedEdges iteration).filter fun edge =>
    edge.relation = .dependsOn).map fun edge => (edge.source, edge.target)

theorem countEdge_ofPairs (graph : ClusterGraph) (pairs : List (NodeId × NodeId)) {edge : Edge}
    (sourceMem : edge.source ∈ graph.nodes) (targetMem : edge.target ∈ graph.nodes) :
    graph.countEdge edge.source (.ofPairs pairs) edge =
      .ofPairs (pairs ++ if edge.relation = .dependsOn then
        [(edge.source, edge.target)] else []) := by
  unfold countEdge
  by_cases depends : edge.relation = .dependsOn
  · rw [if_neg (not_not.mpr depends), if_neg (by simp [sourceMem, targetMem]), if_pos depends,
      PairTables.add_ofPairs]
  · simp [depends]

section Tables

variable {graph : ClusterGraph} (wellFormed : graph.WellFormed) (iteration : IterationOrder)
include wellFormed

theorem foldl_countEdge {edges : List Edge}
    (stored : edges ⊆ graph.storedEdges) (pairs : List (NodeId × NodeId)) :
    edges.foldl (fun tables edge => graph.countEdge edge.source tables edge)
        (PairTables.ofPairs pairs) = PairTables.ofPairs (pairs ++ (edges.filter fun edge =>
        edge.relation = .dependsOn).map fun edge => (edge.source, edge.target)) := by
  induction edges generalizing pairs with
  | nil => simp
  | cons edge edges ih =>
    obtain ⟨edgeStored, restStored⟩ := List.cons_subset.mp stored
    obtain ⟨sourceMem, targetMem, -⟩ := wellFormed.ends_of_mem edgeStored
    rw [List.foldl_cons, countEdge_ofPairs graph pairs sourceMem targetMem, ih restStored]
    by_cases depends : edge.relation = .dependsOn <;> simp [depends]

theorem countDependencies_eq : graph.countDependencies iteration =
      PairTables.ofPairs (graph.dependencyPairs iteration) := by
  -- Edges are stored under their source, so one walk over all edges counts
  -- the same.
  have oneWalk : graph.countDependencies iteration = (graph.walkedEdges iteration).foldl
        (fun tables edge => graph.countEdge edge.source tables edge) (PairTables.ofPairs []) := by
    rw [walkedEdges, List.foldl_flatMap]
    apply List.foldl_ext
    intro tables entry entryMem
    apply List.foldl_ext
    intro tables edge edgeMem
    have found := UnorderedMap.mem_entries_iff.mp ((iteration.mem_arrange).mp entryMem)
    rw [(wellFormed.edge_ends _ _ found edge edgeMem).1]
  rw [oneWalk, foldl_countEdge wellFormed
    (graph.walkedEdges_perm iteration).subset, List.nil_append]
  rfl

theorem mem_dependencyPairs {dependent dependency : NodeId} :
    (dependent, dependency) ∈ graph.dependencyPairs iteration ↔
      graph.DependsOn dependent dependency := by
  simp only [dependencyPairs, List.mem_map, List.mem_filter,
    (graph.walkedEdges_perm iteration).mem_iff, decide_eq_true_eq, Prod.mk.injEq]
  constructor
  · rintro ⟨edge, ⟨stored, depends⟩, rfl, rfl⟩
    obtain ⟨sourceMem, targetMem, -⟩ := wellFormed.ends_of_mem stored
    exact ⟨edge, stored, depends, rfl, rfl, sourceMem, targetMem⟩
  · rintro ⟨edge, stored, depends, source, target, -, -⟩
    exact ⟨edge, ⟨stored, depends⟩, source, target⟩

theorem dependencyPairs_inside : ∀ pair ∈ graph.dependencyPairs iteration,
      pair.1 ∈ graph.nodeIds ∧ pair.2 ∈ graph.nodeIds := by
  intro pair pairMem
  obtain ⟨-, -, -, -, -, sourceMem, targetMem⟩ :=
    (mem_dependencyPairs wellFormed iteration).mp pairMem
  exact ⟨sourceMem, targetMem⟩

theorem dependencyPairs_nodup_iff : (graph.dependencyPairs iteration).Nodup ↔
      graph.NoParallelDependencies := by
  have perm := graph.walkedEdges_perm iteration
  have edgesNodup := (perm.nodup_iff.mpr wellFormed.storedEdges_nodup).filter
    fun edge : Edge => decide (edge.relation = .dependsOn)
  rw [dependencyPairs, List.nodup_map_iff_inj_on edgesNodup]
  simp only [List.mem_filter, perm.mem_iff, decide_eq_true_eq, Prod.mk.injEq]
  constructor
  · intro injective first firstMem second secondMem firstDepends secondDepends sameSource sameTarget
    exact injective first ⟨firstMem, firstDepends⟩ second
      ⟨secondMem, secondDepends⟩ ⟨sameSource, sameTarget⟩
  · rintro noParallel first ⟨firstMem, firstDepends⟩ second
      ⟨secondMem, secondDepends⟩ ⟨sameSource, sameTarget⟩
    exact noParallel first firstMem second secondMem firstDepends
      secondDepends sameSource sameTarget

/-- The counting problem that `dependency_order` solves. -/
def schedule : Schedule NodeId :=
  .ofPairs graph.nodeIds graph.nodes.keys_nodup (graph.dependencyPairs iteration)
    (dependencyPairs_inside wellFormed iteration)

end Tables

theorem initiallyReady_eq (iteration : IterationOrder) (graph : ClusterGraph)
    (tables : PairTables NodeId) : graph.initiallyReady iteration tables =
      (graph.nodeIds.filter fun id =>
        tables.needs id = 0).insertionSort (· ≤ ·) := by
  have pushes (ids queue : List NodeId) : ids.foldl (fun ready id =>
          if tables.needs id = 0 then
            ready.orderedInsert (· ≤ ·) id
          else ready) queue = (ids.filter fun id => tables.needs id = 0).foldl
          (fun ready id => ready.orderedInsert (· ≤ ·) id) queue := by
    rw [List.foldl_filter]
    simp
  have sorts (ids : List NodeId) : ids.foldl (fun ready id => ready.orderedInsert (· ≤ ·) id) [] =
        ids.reverse.insertionSort (· ≤ ·) := by
    rw [← List.foldr_reverse]
    rfl
  rw [initiallyReady, pushes, sorts]
  refine List.Perm.eq_of_pairwise (fun _ _ _ _ => le_antisymm)
    (List.pairwise_insertionSort _ _) (List.pairwise_insertionSort _ _) ?_
  have arranged := (iteration.arrange_perm graph.nodeIds).filter
    fun id => decide (tables.needs id = 0)
  exact (List.perm_insertionSort _ _).trans ((List.reverse_perm _).trans
      (arranged.trans (List.perm_insertionSort _ _).symm))

variable {state : LoopState NodeId}

theorem foldl_releaseDependent {children : List NodeId} (nodup : children.Nodup)
    (waiting : ∀ child ∈ children, 0 < state.remaining child) :
    children.foldl releaseDependent state = children.foldl LoopState.release state := by
  induction children generalizing state with
  | nil => rfl
  | cons child children ih =>
    obtain ⟨fresh, restNodup⟩ := List.nodup_cons.mp nodup
    have positive := waiting child (by simp)
    have released : releaseDependent state child = state.release child := if_neg (by omega)
    rw [List.foldl_cons, List.foldl_cons, released]
    apply ih restNodup
    intro other otherMem
    have different : other ≠ child := fun same => fresh (same ▸ otherMem)
    rw [LoopState.release_remaining, if_neg different]
    simpa using waiting other (by simp [otherMem])

theorem takeNext_eq {schedule : Schedule NodeId} {dependents : NodeId → List NodeId}
    (sorted : ∀ id, unique ((dependents id).insertionSort (· ≤ ·)) = schedule.dependents id)
    (consistent : schedule.Consistent state) :
    takeNext dependents state = state.takeNext schedule.dependents := by
  unfold takeNext LoopState.takeNext
  cases queue : state.ready with
  | nil => rfl
  | cons current rest =>
    simp only [sorted]
    have currentReady := consistent.head_ready queue
    apply foldl_releaseDependent (schedule.dependents_nodup current)
    intro child releases
    exact consistent.remaining_pos currentReady.1 currentReady.2.1 releases

theorem drain_eq {schedule : Schedule NodeId} {dependents : NodeId → List NodeId}
    (sorted : ∀ id, unique ((dependents id).insertionSort (· ≤ ·)) = schedule.dependents id)
    (consistent : schedule.Consistent state) (fuel : ℕ) :
    drain dependents fuel state = state.drain schedule.dependents fuel := by
  induction fuel generalizing state with
  | zero => rfl
  | succ fuel ih =>
    unfold drain LoopState.drain
    split
    · rfl
    · next nonempty =>
        obtain ⟨current, rest, queue⟩ := List.exists_cons_of_ne_nil nonempty
        rw [takeNext_eq sorted consistent]
        exact ih (consistent.takeNext queue).1

section Order

variable {graph : ClusterGraph} (wellFormed : graph.WellFormed) (iteration : IterationOrder)
include wellFormed

theorem drained_eq : graph.drained iteration = (schedule wellFormed iteration).start.drain
        (schedule wellFormed iteration).dependents graph.nodeIds.length := by
  have start : (schedule wellFormed iteration).start =
      { remaining := (graph.countDependencies iteration).needs
        ready := graph.initiallyReady iteration
          (graph.countDependencies iteration)
        order := [] } := by
    rw [initiallyReady_eq, countDependencies_eq wellFormed]
    rfl
  rw [start]
  refine drain_eq ?_ (start ▸ Schedule.start_consistent _) _
  intro id
  rw [countDependencies_eq wellFormed]
  exact PairTables.unique_dependents_ofPairs _ id

theorem drained_takesLeast : TakesLeast (schedule wellFormed iteration).Ready []
      (graph.drained iteration).order := by
  rw [drained_eq wellFormed]
  exact Schedule.drain_start _

theorem dependencyOrder_eq_some_iff {order : List NodeId} :
    graph.dependencyOrder iteration = some order ↔ order.length = graph.nodeIds.length ∧
        TakesLeast (schedule wellFormed iteration).Ready [] order := by
  have takes := drained_takesLeast wellFormed iteration
  simp only [dependencyOrder]
  constructor
  · intro result
    split at result
    · simp at result
    · next sameLength =>
        obtain rfl := Option.some.inj result
        exact ⟨not_not.mp sameLength, takes⟩
  · rintro ⟨sameLength, takes'⟩
    rw [takes.unique takes', if_neg (not_not.mpr sameLength)]

/-- `dependency_order` succeeds exactly when the dependencies are acyclic and
no two edges state the same one. -/
theorem dependencyOrder_isSome_iff : (graph.dependencyOrder iteration).isSome ↔
      graph.NoParallelDependencies ∧ graph.DependencyAcyclic := by
  have takes := drained_takesLeast wellFormed iteration
  have complete := complete_ofPairs_iff takes
  have samePairs : (fun waiting source =>
      (waiting, source) ∈ graph.dependencyPairs iteration) = graph.DependsOn := by
    funext waiting source
    exact propext (mem_dependencyPairs wellFormed iteration)
  rw [dependencyPairs_nodup_iff wellFormed, samePairs] at complete
  rw [DependencyAcyclic, ← complete, Option.isSome_iff_exists]
  simp only [dependencyOrder_eq_some_iff wellFormed iteration]
  constructor
  · rintro ⟨order, sameLength, takes'⟩
    rwa [takes.unique takes']
  · intro sameLength
    exact ⟨_, sameLength, takes⟩

theorem ordersDependencies_of_dependencyOrder {order : List NodeId}
    (result : graph.dependencyOrder iteration = some order) : graph.OrdersDependencies order := by
  obtain ⟨sameLength, takes⟩ := (dependencyOrder_eq_some_iff wellFormed iteration).mp result
  have perm := Schedule.perm_of_complete takes sameLength
  refine ⟨perm, ?_⟩
  intro dependent dependency depends
  have pairMem := (mem_dependencyPairs wellFormed iteration).mpr depends
  exact Schedule.precedes_of_complete takes perm.symm.subset
    (dependencyPairs_inside wellFormed iteration _ pairMem).1 (waits_ofPairs.mpr pairMem)

end Order

/-- On every reachable graph `dependency_order` is correct exactly when there
is a dependency cycle or no dependency is stated by two edges. -/
theorem dependencyOrderCorrect_run_iff (iteration : IterationOrder) (operations : List Operation) :
    (run operations).DependencyOrderCorrect iteration ↔ ¬ (run operations).DependencyAcyclic ∨
        (run operations).NoParallelDependencies := by
  have wellFormed := run_wellFormed operations
  have ordered (order : List NodeId)
      (result : (run operations).dependencyOrder iteration = some order) :=
    ordersDependencies_of_dependencyOrder wellFormed iteration result
  have succeeds := dependencyOrder_isSome_iff wellFormed iteration
  constructor
  · rintro ⟨correct, -⟩
    by_cases acyclic : (run operations).DependencyAcyclic
    · exact Or.inr (succeeds.mp (correct.mpr acyclic)).1
    · exact Or.inl acyclic
  · rintro (cyclic | noParallel)
    · exact ⟨⟨fun isSome => (succeeds.mp isSome).2, fun acyclic => (cyclic acyclic).elim⟩, ordered⟩
    · exact ⟨⟨fun isSome => (succeeds.mp isSome).2,
        fun acyclic => succeeds.mpr ⟨noParallel, acyclic⟩⟩, ordered⟩

/-- Two services of one node that depend on another node: the two edges
differ in their port only. -/
def parallelDependency : List Operation :=
  let dependency (port : UInt16) : Edge :=
    { source := [98], target := [97], relation := .dependsOn, port := port }
  [.upsertNode { id := [97] }, .upsertNode { id := [98] },
    .upsertEdge (dependency 5432), .upsertEdge (dependency 6379)]

theorem parallelDependency_incorrect :
    ¬ (run parallelDependency).DependencyOrderCorrect .asStored := by
  rintro ⟨succeeds, -⟩
  have fails : (run parallelDependency).dependencyOrder .asStored = none := by
    decide
  rw [fails] at succeeds
  have decreasing : ∀ edge ∈ (run parallelDependency).storedEdges, edge.target < edge.source := by
    decide
  have acyclic : (run parallelDependency).DependencyAcyclic := by
    intro id cycle
    have below : ∀ {last : NodeId}, Relation.TransGen
        (run parallelDependency).DependsOn id last → last < id := by
      intro last path
      induction path with
      | single depends =>
        obtain ⟨edge, stored, -, rfl, rfl, -⟩ := depends
        exact decreasing edge stored
      | tail _ depends ih =>
        obtain ⟨edge, stored, -, rfl, rfl, -⟩ := depends
        exact lt_trans (decreasing edge stored) ih
    exact lt_irrefl id (below cycle)
  exact absurd (succeeds.mpr acyclic) (by simp)

end ClusterGraph

end Ithute
