import Ithute.ClusterGraphAnalysis

/-!
# Reachability in a snapshot

The native path cuts the ends of every edge at their first NUL and so can
accept edges that the fallback skips.  Both answers are compared as paths
over the edge dicts.
-/

namespace Ithute

open WorklistSearch

def IntactEdge (nodes : List NodeDict) (edges : List EdgeDict) (left right : PyStr) : Prop :=
  ∃ edge ∈ edges, edge.sourceText = left ∧ edge.targetText = right ∧
    left ∈ nodes.map NodeDict.idText ∧ right ∈ nodes.map NodeDict.idText ∧ left ≠ right

/-- An edge dict whose ends are two different node ids once they are cut at
their first NUL. -/
def CutEdge (nodes : List NodeDict) (edges : List EdgeDict) (left right : PyStr) : Prop :=
  ∃ edge ∈ edges, beforeNul edge.sourceText = left ∧ beforeNul edge.targetText = right ∧
      left ∈ nodes.map NodeDict.idText ∧ right ∈ nodes.map NodeDict.idText ∧ left ≠ right

/-- A path of cut edges between the cut query ids is a path of intact edges
between the query ids. -/
def KeepsPath (nodes : List NodeDict) (edges : List EdgeDict) (source target : PyStr) : Prop :=
  beforeNul source ∈ nodes.map NodeDict.idText → beforeNul target ∈ nodes.map NodeDict.idText →
      Relation.ReflTransGen (CutEdge nodes edges) (beforeNul source) (beforeNul target) →
        (0 : CodePoint) ∉ source ∧ (0 : CodePoint) ∉ target ∧
          Relation.ReflTransGen (IntactEdge nodes edges) source target

section PythonPaths

variable (nodes : List NodeDict) (edges : List EdgeDict)

theorem mem_foldl_addNeighbor {left right : PyStr} :
    right ∈ edges.foldl (addNeighbor (nodes.map NodeDict.idText))
        (fun _ => []) left ↔ IntactEdge nodes edges left right := by
  let Holds (front : List EdgeDict) (adjacency : PyStr → List PyStr) : Prop :=
    ∀ left right, right ∈ adjacency left ↔ IntactEdge nodes front left right
  have preserved (front : List EdgeDict) (adjacency : PyStr → List PyStr)
      (edge : EdgeDict) (holds : Holds front adjacency) : Holds (front ++ [edge])
        (addNeighbor (nodes.map NodeDict.idText) adjacency edge) := by
    intro left right
    have extended : IntactEdge nodes (front ++ [edge]) left right ↔
        IntactEdge nodes front left right ∨ (edge.sourceText = left ∧ edge.targetText = right ∧
            left ∈ nodes.map NodeDict.idText ∧
              right ∈ nodes.map NodeDict.idText ∧ left ≠ right) := by
      simp only [IntactEdge, List.mem_append, List.mem_singleton,
        or_and_right, exists_or, exists_eq_left]
    rw [extended, ← holds]
    simp only [addNeighbor]
    split
    · next usable =>
        by_cases sameLeft : left = edge.sourceText
        · subst sameLeft
          rw [Function.update_self, List.mem_append, List.mem_singleton]
          refine or_congr Iff.rfl ?_
          constructor
          · rintro rfl
            exact ⟨rfl, rfl, usable⟩
          · rintro ⟨-, same, -⟩
            exact same.symm
        · rw [Function.update_of_ne sameLeft]
          simp [Ne.symm sameLeft]
    · next unusable =>
        constructor
        · exact Or.inl
        · rintro (old | ⟨rfl, rfl, usable⟩)
          · exact old
          · exact (unusable usable).elim
  have start : Holds [] fun _ => [] := by
    intro left right
    simp [IntactEdge]
  exact FoldInvariants.foldl_prefix preserved edges start left right

theorem pythonReachable_iff (source target : PyStr) :
    pythonReachable nodes edges source target = true ↔ source ∈ nodes.map NodeDict.idText ∧
        target ∈ nodes.map NodeDict.idText ∧
          Relation.ReflTransGen (IntactEdge nodes edges) source target := by
  by_cases known : source ∈ nodes.map NodeDict.idText ∧ target ∈ nodes.map NodeDict.idText
  · obtain ⟨sourceMem, targetMem⟩ := known
    simp only [pythonReachable, sourceMem, targetMem, not_true_eq_false,
      or_self, if_false, true_and]
    by_cases same : source = target
    · subst same
      simp [Relation.ReflTransGen.refl]
    · rw [if_neg same]
      have inside : ∀ id ∈ nodes.map NodeDict.idText,
          edges.foldl (addNeighbor (nodes.map NodeDict.idText))
            (fun _ => []) id ⊆ nodes.map NodeDict.idText := by
        intro id _ other member
        obtain ⟨-, -, -, -, -, otherMem, -⟩ := (mem_foldl_addNeighbor nodes edges).mp member
        exact otherMem
      have decides := searchFrom_iff inside sourceMem same (le_refl _)
      have sameEdges : Adjacent (edges.foldl
          (addNeighbor (nodes.map NodeDict.idText)) fun _ => []) = IntactEdge nodes edges := by
        ext left right
        exact mem_foldl_addNeighbor nodes edges
      rw [sameEdges] at decides
      exact decides
  · have unknown : source ∉ nodes.map NodeDict.idText ∨ target ∉ nodes.map NodeDict.idText :=
      not_and_or.mp known
    simp only [pythonReachable, unknown, if_true, Bool.false_eq_true, false_iff]
    exact fun both => known ⟨both.1, both.2.1⟩

end PythonPaths

section NativePaths

variable (lower : PyStr → PyStr) {nodes : List NodeDict}
  (nulFree : ∀ node ∈ nodes, (0 : CodePoint) ∉ node.idText)
include nulFree

theorem map_beforeNul_idText : (nodes.map fun node => beforeNul node.idText) =
      nodes.map NodeDict.idText :=
  List.map_congr_left fun node nodeMem => LexicographicEncoding.cutAt_eq_self (nulFree node nodeMem)

theorem hasEdge_snapshotGraph (sendable : ∀ node ∈ nodes, node.Sendable)
    (edges : List EdgeDict) (left right : NodeId) :
    (snapshotGraph lower nodes edges).HasEdge left right ↔
      ∃ first second, utf8 first = left ∧ utf8 second = right ∧
        CutEdge nodes edges first second := by
  have holds := holdsEdges_snapshotGraph lower sendable edges
  constructor
  · rintro ⟨edge, stored, rfl, rfl⟩
    obtain ⟨offered, accepted⟩ := (holds.mem_edges edge).mp stored
    obtain ⟨dict, dictMem, rfl⟩ := List.mem_map.mp offered
    have joins := (accepts_storedEdge_iff lower sendable dict).mp accepted
    rw [map_beforeNul_idText nulFree] at joins
    exact ⟨_, _, (cString_utf8 _).symm, (cString_utf8 _).symm, dict, dictMem, rfl, rfl, joins⟩
  · rintro ⟨_, _, rfl, rfl, dict, dictMem, rfl, rfl, joins⟩
    rw [← map_beforeNul_idText nulFree] at joins
    have accepted := (accepts_storedEdge_iff lower sendable dict).mpr joins
    have stored := (holds.mem_edges _).mpr ⟨List.mem_map_of_mem dictMem, accepted⟩
    exact ⟨_, stored, cString_utf8 _, cString_utf8 _⟩

theorem path_snapshotGraph (sendable : ∀ node ∈ nodes, node.Sendable)
    (edges : List EdgeDict) {first second : PyStr} :
    Relation.ReflTransGen (snapshotGraph lower nodes edges).HasEdge (utf8 first) (utf8 second) ↔
      Relation.ReflTransGen (CutEdge nodes edges) first second := by
  have hasEdge := hasEdge_snapshotGraph lower nulFree sendable edges
  constructor
  · intro path
    have named : ∀ {last : NodeId}, Relation.ReflTransGen
        (snapshotGraph lower nodes edges).HasEdge (utf8 first) last → ∃ text, utf8 text = last ∧
            Relation.ReflTransGen (CutEdge nodes edges) first text := by
      intro last path
      induction path with
      | refl => exact ⟨first, rfl, .refl⟩
      | tail _ edge ih =>
        obtain ⟨middle, middleText, toMiddle⟩ := ih
        obtain ⟨left, right, leftText, rightText, cut⟩ := (hasEdge _ _).mp edge
        obtain rfl := utf8_strictMono.injective (leftText.trans middleText.symm)
        exact ⟨right, rightText, toMiddle.tail cut⟩
    obtain ⟨text, sameText, cutPath⟩ := named path
    obtain rfl := utf8_strictMono.injective sameText
    exact cutPath
  · intro path
    exact path.lift utf8 fun left right cut => (hasEdge _ _).mpr ⟨left, right, rfl, rfl, cut⟩

theorem reachable_snapshotGraph_iff
    (sendable : ∀ node ∈ nodes, node.Sendable) (edges : List EdgeDict) (source target : PyStr) :
    (snapshotGraph lower nodes edges).reachable (nativeId source) (nativeId target) = true ↔
      beforeNul source ∈ nodes.map NodeDict.idText ∧ beforeNul target ∈ nodes.map NodeDict.idText ∧
          Relation.ReflTransGen (CutEdge nodes edges) (beforeNul source) (beforeNul target) := by
  have member (text : PyStr) := mem_nodes_snapshotGraph lower sendable edges text
  rw [map_beforeNul_idText nulFree] at member
  rw [ClusterGraph.reachable_iff
    (holdsEdges_snapshotGraph lower sendable edges).wellFormed, member, member,
    nativeId, nativeId, cString_utf8, cString_utf8, path_snapshotGraph lower nulFree sendable edges]

omit nulFree in
theorem intact_isCut {edges : List EdgeDict}
    (nulFree : ∀ id ∈ nodes.map NodeDict.idText, beforeNul id = id)
    {left right : PyStr} (intact : IntactEdge nodes edges left right) :
    CutEdge nodes edges left right := by
  obtain ⟨edge, edgeMem, rfl, rfl, leftMem, rightMem, different⟩ := intact
  exact ⟨edge, edgeMem, nulFree _ leftMem, nulFree _ rightMem, leftMem, rightMem, different⟩

theorem reachable_agrees_iff (sendable : ∀ node ∈ nodes, node.Sendable)
    (edges : List EdgeDict) (source target : PyStr) :
    (snapshotGraph lower nodes edges).reachable (nativeId source)
        (nativeId target) = pythonReachable nodes edges source target ↔
      KeepsPath nodes edges source target := by
  have uncut : ∀ id ∈ nodes.map NodeDict.idText, beforeNul id = id := by
    intro id idMem
    obtain ⟨node, nodeMem, rfl⟩ := List.mem_map.mp idMem
    exact LexicographicEncoding.cutAt_eq_self (nulFree node nodeMem)
  rw [Bool.eq_iff_iff, pythonReachable_iff, reachable_snapshotGraph_iff lower nulFree sendable]
  constructor
  · intro same sourceMem targetMem path
    obtain ⟨sourceIn, targetIn, intact⟩ := same.mp ⟨sourceMem, targetMem, path⟩
    obtain ⟨node, nodeMem, rfl⟩ := List.mem_map.mp sourceIn
    obtain ⟨other, otherMem, rfl⟩ := List.mem_map.mp targetIn
    exact ⟨nulFree node nodeMem, nulFree other otherMem, intact⟩
  · intro keeps
    constructor
    · rintro ⟨sourceMem, targetMem, path⟩
      obtain ⟨sourceFree, targetFree, intact⟩ := keeps sourceMem targetMem path
      rw [beforeNul, LexicographicEncoding.cutAt_eq_self sourceFree] at sourceMem
      rw [beforeNul, LexicographicEncoding.cutAt_eq_self targetFree] at targetMem
      exact ⟨sourceMem, targetMem, intact⟩
    · rintro ⟨sourceMem, targetMem, intact⟩
      rw [uncut source sourceMem, uncut target targetMem]
      exact ⟨sourceMem, targetMem, intact.lift id fun _ _ edge => intact_isCut uncut edge⟩

theorem clusterGraphAnalysis_reachable_of_sendable
    (iteration : IterationOrder) {edges : List EdgeDict}
    {source target : PyStr} (sendable : SnapshotSendable lower nodes edges)
    (query : Utf8Encodable source ∧ Utf8Encodable target) :
    (clusterGraphAnalysis lower iteration true nodes edges (some source) (some target)).reachable =
          some (pythonReachable nodes edges source target) ↔
      KeepsPath nodes edges source target := by
  have querySendable : QuerySendable (some source) (some target) := by
    simpa [QuerySendable, bothGiven] using query
  simp only [clusterGraphAnalysis, Bool.true_eq_false, if_false,
    nativeAnalysis_of_sendable iteration sendable querySendable, bothGiven,
    Option.map_some, Option.some_inj]
  exact reachable_agrees_iff lower nulFree sendable.1 edges source target

end NativePaths

/-- On every reachable graph the native search decides paths of stored edges.
On a snapshot with NUL-free ids it answers like the fallback exactly when it
falls back or cutting at NUL adds no path. -/
theorem reachable_correct (lower : PyStr → PyStr) (iteration : IterationOrder) :
    (∀ (operations : List ClusterGraph.Operation) (source target : NodeId),
      (ClusterGraph.run operations).reachable source target = true ↔
        source ∈ (ClusterGraph.run operations).nodes ∧
          target ∈ (ClusterGraph.run operations).nodes ∧
            Relation.ReflTransGen (ClusterGraph.run operations).HasEdge source target) ∧
      ∀ (nodes : List NodeDict) (edges : List EdgeDict) (source target : PyStr),
        (∀ node ∈ nodes, (0 : CodePoint) ∉ node.idText) →
          ((clusterGraphAnalysis lower iteration true nodes edges
              (some source) (some target)).reachable =
                some (pythonReachable nodes edges source target) ↔
            ¬ (SnapshotSendable lower nodes edges ∧ Utf8Encodable source ∧ Utf8Encodable target) ∨
              KeepsPath nodes edges source target) := by
  constructor
  · intro operations source target
    exact ClusterGraph.reachable_iff (ClusterGraph.run_wellFormed operations) source target
  · intro nodes edges source target nulFree
    by_cases sendable : SnapshotSendable lower nodes edges ∧
        Utf8Encodable source ∧ Utf8Encodable target
    · rw [clusterGraphAnalysis_reachable_of_sendable lower nulFree iteration sendable.1 sendable.2]
      simp [sendable]
    · have bad : ¬ (SnapshotSendable lower nodes edges ∧
          QuerySendable (some source) (some target)) := by
        simpa [QuerySendable, bothGiven] using sendable
      simp only [clusterGraphAnalysis, Bool.true_eq_false, if_false,
        nativeAnalysis_of_not_sendable iteration bad, analysisFallback,
        bothGiven, Option.map_some, sendable, not_false_eq_true, true_or]

/-- Two nodes, `a` and `b`. -/
def twoNodes : List NodeDict := [{ id := some [97] }, { id := some [98] }]

theorem twoNodes_nulFree : ∀ node ∈ twoNodes, (0 : CodePoint) ∉ node.idText := by decide

theorem twoNodes_sendable : ∀ node ∈ twoNodes, node.Sendable := by
  intro node nodeMem
  have isNode : node = { id := some [97] } ∨ node = { id := some [98] } := by
    simpa [twoNodes] using nodeMem
  rcases isNode with rfl | rfl <;>
    exact ⟨by simp [Utf8Encodable, isSurrogate, NodeDict.idText, strOrEmpty],
      by simp [Utf8Encodable, strOrEmpty], by simp [Utf8Encodable, strOrEmpty], by decide⟩

/-- Both paths find the edge from `a` to `b`. -/
theorem reachable_correct_twoNodes : (clusterGraphAnalysis asciiLower .asStored true twoNodes
        [{ source := some [97], target := some [98] }] (some [97]) (some [98])).reachable =
      some (pythonReachable twoNodes [{ source := some [97], target := some [98] }] [97] [98]) := by
  refine ((reachable_correct asciiLower .asStored).2 twoNodes _ [97] [98]
    twoNodes_nulFree).mpr (Or.inr fun _ _ _ => ?_)
  refine ⟨by decide, by decide, .single ?_⟩
  exact ⟨_, List.mem_singleton_self _, rfl, rfl, by decide, by decide, by decide⟩

/-- An edge from `a`, NUL, `x` to `b`. -/
def nulEdge : EdgeDict where
  source := some [97, 0, 120]
  target := some [98]

theorem nulEdge_reachable_differs :
    (clusterGraphAnalysis asciiLower .asStored true twoNodes [nulEdge]
        (some [97]) (some [98])).reachable ≠
      some (pythonReachable twoNodes [nulEdge] [97] [98]) := by
  have sendable : SnapshotSendable asciiLower twoNodes [nulEdge] := by
    refine ⟨twoNodes_sendable, fun edge edgeMem => ?_⟩
    rw [List.mem_singleton.mp edgeMem]
    constructor <;>
      simp [Utf8Encodable, isSurrogate, nulEdge, EdgeDict.sourceText,
        EdgeDict.targetText, strOrEmpty, asciiLower, or_imp, forall_and]
  have query : Utf8Encodable [97] ∧ Utf8Encodable [98] := by simp [Utf8Encodable, isSurrogate]
  rw [ne_eq, clusterGraphAnalysis_reachable_of_sendable asciiLower
    twoNodes_nulFree .asStored sendable query]
  intro keeps
  have cut : CutEdge twoNodes [nulEdge] [97] [98] :=
    ⟨nulEdge, by simp, by decide, by decide, by decide, by decide, by decide⟩
  obtain ⟨-, -, path⟩ := keeps (by decide) (by decide) (.single cut)
  have noEdge : ∀ left right, ¬ IntactEdge twoNodes [nulEdge] left right := by
    rintro left right ⟨edge, edgeMem, rfl, rfl, sourceMem, -⟩
    rw [List.mem_singleton.mp edgeMem] at sourceMem
    revert sourceMem
    decide
  rcases Relation.ReflTransGen.cases_head path with same | ⟨_, edge, -⟩
  · exact absurd same (by decide)
  · exact noEdge _ _ edge

end Ithute
