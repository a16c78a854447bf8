import Ithute.Library.StableRanking
import Ithute.PythonValues
import Mathlib.Data.Prod.Lex

/-!
# Ranking placement candidates

The backend ranks placement rows through a native priority queue whose
comparison uses one string, the lowered name and the node id joined by U+001F
and cut at the first NUL.  The fallback is a stable sort by the tuple of
eligibility, score, name and node id.
-/

namespace Ithute

open StableRanking

/-- A placement row.  `score` is the outcome of `float(row.get("score", 0.0))`,
`none` a `TypeError`, `ValueError` or `OverflowError`; `payload` stands for
the other entries. -/
structure PlacementRow (π : Type) where
  name : Option PyStr
  nodeId : Option PyStr
  score : Option Double
  eligible : Bool
  payload : π

section Python

variable {π : Type} (lower : PyStr → PyStr)

/-- The score of the sort key: infinity replaces what is not finite. -/
def PlacementRow.keyScore (row : PlacementRow π) : Double :=
  match row.score with
  | some (.finite value) => .finite value
  | _ => .posInf

def PlacementRow.keyName (row : PlacementRow π) : PyStr := lower (strOrEmpty row.name)

def PlacementRow.keyNodeId (row : PlacementRow π) : PyStr := strOrEmpty row.nodeId

/-- `normalized_score`, as a comparable number: a finite value or infinity. -/
def normalizedScore : Double → WithTop ℚ
  | .finite value => value
  | _ => ⊤

/-- `_placement_sort_key`; `lower` is `str.lower`. -/
def placementSortKey (row : PlacementRow π) : Bool ×ₗ WithTop ℚ ×ₗ PyStr ×ₗ PyStr :=
  toLex (!row.eligible, toLex (normalizedScore row.keyScore,
    toLex (row.keyName lower, row.keyNodeId)))

/-- `_python_rank_candidates`: `sorted` is stable. -/
def pythonRankCandidates (rows : List (PlacementRow π)) : List (PlacementRow π) :=
  rows.insertionSort fun first second =>
    placementSortKey lower first ≤ placementSortKey lower second

end Python

structure PlacementCandidate where
  key : Bytes
  score : Double
  eligible : Bool
  originalIndex : ℕ

/-- `CandidatePriority`: `left` has lower priority than `right`. -/
def CandidatePriority (left right : PlacementCandidate) : Prop :=
  if left.eligible ≠ right.eligible then
    left.eligible = false ∧ right.eligible = true
  else if normalizedScore left.score ≠ normalizedScore right.score then
    normalizedScore right.score < normalizedScore left.score
  else if left.key ≠ right.key then right.key < left.key
  else right.originalIndex < left.originalIndex

instance (left right : PlacementCandidate) : Decidable (CandidatePriority left right) := by
  unfold CandidatePriority
  infer_instance

/-- The native ranking: push every candidate, then pop the best one until the
queue is empty. -/
def rankNativeCandidates (candidates : List PlacementCandidate) : List ℕ :=
  (pushAll (fun first second => CandidatePriority second first) candidates
    []).map PlacementCandidate.originalIndex

/-- `ithute_cluster_rank_candidates` on rows of key, score and flag. -/
def ithuteClusterRankCandidates (entries : List (Bytes × Double × ℕ)) : List ℕ :=
  rankNativeCandidates (entries.zipIdx.map fun entry =>
    { key := cString entry.1.1
      score := entry.1.2.1
      eligible := entry.1.2.2 ≠ 0
      originalIndex := entry.2 })

section Service

variable {π : Type} (lower : PyStr → PyStr)

def PlacementRow.keyText (row : PlacementRow π) : PyStr :=
  row.keyName lower ++ 0x1F :: row.keyNodeId

def rankEntry (row : PlacementRow π) : Option (Bytes × Double × ℕ) :=
  (encodeUtf8 (row.keyText lower)).map fun key => (key, row.keyScore, if row.eligible then 1 else 0)

/-- `rank_placement_candidates`; `loaded` says whether the native library is
there, and `none` is an unhandled `UnicodeEncodeError`. -/
def rankPlacementCandidates (loaded : Bool) (rows : List (PlacementRow π)) :
    Option (List (PlacementRow π)) :=
  if rows.length ≤ 1 then some rows
  else if loaded = false then some (pythonRankCandidates lower rows)
  else do
    let entries ← rows.mapM (rankEntry lower)
    let ranked := ithuteClusterRankCandidates entries
    if ranked.insertionSort (· ≤ ·) = List.range rows.length then
      some (ranked.filterMap fun index => rows[index]?)
    else some (pythonRankCandidates lower rows)

def nativeSortKey (row : PlacementRow π) : Bool ×ₗ WithTop ℚ ×ₗ Bytes :=
  toLex (!row.eligible, toLex (normalizedScore row.keyScore, cString (utf8 (row.keyText lower))))

def candidateOf (entry : PlacementRow π × ℕ) : PlacementCandidate where
  key := cString (utf8 (entry.1.keyText lower))
  score := entry.1.keyScore
  eligible := entry.1.eligible
  originalIndex := entry.2

theorem candidatePriority_iff (one other : PlacementRow π × ℕ) :
    CandidatePriority (candidateOf lower other) (candidateOf lower one) ↔
      Precedes (nativeSortKey lower) one other := by
  simp only [CandidatePriority, Precedes, nativeSortKey, candidateOf,
    Prod.Lex.toLex_lt_toLex, toLex_inj, Prod.mk.injEq]
  by_cases sameEligible : other.1.eligible = one.1.eligible
  · by_cases sameScore : normalizedScore other.1.keyScore = normalizedScore one.1.keyScore
    · by_cases sameKey : cString (utf8 (other.1.keyText lower)) =
          cString (utf8 (one.1.keyText lower))
      · simp [sameEligible, sameScore, sameKey]
      · simp [sameEligible, sameScore, sameKey, Ne.symm sameKey]
    · simp [sameEligible, sameScore, Ne.symm sameScore]
  · by_cases oneEligible : one.1.eligible = true <;>
      by_cases otherEligible : other.1.eligible = true <;>
        simp_all

def nativeQueue (rows : List (PlacementRow π)) : List (PlacementRow π × ℕ) :=
  pushAll (Precedes (nativeSortKey lower)) rows.zipIdx []

variable (rows : List (PlacementRow π))

theorem nativeQueue_perm : (nativeQueue lower rows).Perm rows.zipIdx := by
  simpa [nativeQueue] using pushAll_perm (Precedes (nativeSortKey lower)) rows.zipIdx []

theorem nativeQueue_pairwise :
    (nativeQueue lower rows).Pairwise (Precedes (nativeSortKey lower)) := by
  have inside : rows.zipIdx ++ [] ⊆ rows.zipIdx := by simp
  have nodup : (rows.zipIdx ++ []).Nodup := by simpa using zipIdx_nodup rows
  refine pushAll_pairwise (Precedes (nativeSortKey lower)) ?_ ?_ rows.zipIdx
    [] inside nodup List.Pairwise.nil
  · intro one oneMem other otherMem different
    exact ⟨Iff.rfl, Precedes.trichotomous _ (zipIdx_snd_ne oneMem otherMem different)⟩
  · exact fun _ _ _ _ _ _ => Precedes.trans

theorem ithuteClusterRankCandidates_eq : ithuteClusterRankCandidates (rows.map fun row =>
        (utf8 (row.keyText lower), row.keyScore, if row.eligible then 1 else 0)) =
      (nativeQueue lower rows).map Prod.snd := by
  have candidates : ((rows.map fun row =>
      (utf8 (row.keyText lower), row.keyScore,
        if row.eligible then 1 else 0)).zipIdx.map fun entry =>
          ({ key := cString entry.1.1
             score := entry.1.2.1
             eligible := entry.1.2.2 ≠ 0
             originalIndex := entry.2 } : PlacementCandidate)) =
        rows.zipIdx.map (candidateOf lower) := by
    rw [List.zipIdx_map, List.map_map]
    apply List.map_congr_left
    intro entry _
    by_cases eligible : entry.1.eligible = true <;>
      simp [candidateOf, eligible]
  rw [ithuteClusterRankCandidates, candidates, rankNativeCandidates]
  have pushed := pushAll_map (Precedes (nativeSortKey lower))
    (fun first second => CandidatePriority second first)
    (candidateOf lower) (candidatePriority_iff lower) rows.zipIdx []
  rw [List.map_nil] at pushed
  rw [pushed, List.map_map]
  rfl

theorem mapM_rankEntry : rows.mapM (rankEntry lower) =
      if ∀ row ∈ rows, Utf8Encodable (row.keyText lower) then
        some (rows.map fun row => (utf8 (row.keyText lower), row.keyScore,
          if row.eligible then 1 else 0))
      else none := by
  refine FoldInvariants.mapM_eq_ite (fun row => ?_) rows
  by_cases encodable : Utf8Encodable (row.keyText lower) <;>
    simp [rankEntry, encodeUtf8, encodable]

theorem rankPlacementCandidates_of_encodable {rows : List (PlacementRow π)}
    (several : ¬ rows.length ≤ 1) (encodable : ∀ row ∈ rows, Utf8Encodable (row.keyText lower)) :
    rankPlacementCandidates lower true rows = some ((nativeQueue lower rows).map Prod.fst) := by
  have perm := nativeQueue_perm lower rows
  have positions : ((nativeQueue lower rows).map Prod.snd).insertionSort
      (· ≤ ·) = List.range rows.length := by
    refine List.Perm.eq_of_pairwise (fun _ _ _ _ => le_antisymm)
      (List.pairwise_insertionSort _ _) List.pairwise_le_range ?_
    refine (List.perm_insertionSort _ _).trans ((perm.map _).trans ?_)
    rw [List.zipIdx_map_snd, List.range_eq_range']
  have rowsAt : ((nativeQueue lower rows).map Prod.snd).filterMap
      (fun index => rows[index]?) = (nativeQueue lower rows).map Prod.fst := by
    rw [List.filterMap_map, ← List.filterMap_eq_map]
    apply List.filterMap_congr
    intro entry entryMem
    exact List.mem_zipIdx_iff_getElem?.mp (perm.subset entryMem)
  have entries := mapM_rankEntry lower rows
  rw [if_pos encodable] at entries
  simp [rankPlacementCandidates, several, entries,
    ithuteClusterRankCandidates_eq, positions, rowsAt]

/-- Rows that tie on eligibility and score keep the order of their names and
ids when the two are joined and cut at the first NUL; equal keys keep it by
position. -/
def RankKeysKeepOrder (rows : List (PlacementRow π)) : Prop :=
  ∀ one ∈ rows.zipIdx, ∀ other ∈ rows.zipIdx, one.1.eligible = other.1.eligible →
    normalizedScore one.1.keyScore = normalizedScore other.1.keyScore →
    (one.1.keyName lower < other.1.keyName lower ∨ (one.1.keyName lower = other.1.keyName lower ∧
        one.1.keyNodeId < other.1.keyNodeId)) →
    beforeNul (one.1.keyText lower) < beforeNul (other.1.keyText lower) ∨
      (beforeNul (one.1.keyText lower) = beforeNul (other.1.keyText lower) ∧ one.2 < other.2)

theorem precedes_nativeSortKey_iff {one other : PlacementRow π × ℕ}
    (sameEligible : one.1.eligible = other.1.eligible) (sameScore : normalizedScore one.1.keyScore =
      normalizedScore other.1.keyScore) : Precedes (nativeSortKey lower) one other ↔
      beforeNul (one.1.keyText lower) < beforeNul (other.1.keyText lower) ∨
        (beforeNul (one.1.keyText lower) =
          beforeNul (other.1.keyText lower) ∧ one.2 < other.2) := by
  simp [Precedes, nativeSortKey, Prod.Lex.toLex_lt_toLex, sameEligible,
    sameScore, cString_utf8, utf8_strictMono.lt_iff_lt, utf8_strictMono.injective.eq_iff]

theorem rankKeysKeepOrder_iff : RankKeysKeepOrder lower rows ↔
      ∀ one ∈ rows.zipIdx, ∀ other ∈ rows.zipIdx,
        placementSortKey lower one.1 < placementSortKey lower other.1 →
          Precedes (nativeSortKey lower) one other := by
  constructor
  · intro keeps one oneMem other otherMem below
    simp only [placementSortKey, Prod.Lex.toLex_lt_toLex] at below
    rcases below with eligible | ⟨sameEligible, score | ⟨sameScore, text⟩⟩
    · exact Or.inl (Prod.Lex.toLex_lt_toLex.mpr (Or.inl eligible))
    · exact Or.inl (Prod.Lex.toLex_lt_toLex.mpr (Or.inr ⟨sameEligible,
        Prod.Lex.toLex_lt_toLex.mpr (Or.inl score)⟩))
    · have sameEligible := Bool.not_inj sameEligible
      exact (precedes_nativeSortKey_iff lower sameEligible sameScore).mpr
        (keeps one oneMem other otherMem sameEligible sameScore text)
  · intro orders one oneMem other otherMem sameEligible sameScore text
    refine (precedes_nativeSortKey_iff lower sameEligible sameScore).mp
      (orders one oneMem other otherMem ?_)
    simp only [placementSortKey, Prod.Lex.toLex_lt_toLex]
    exact Or.inr ⟨by rw [sameEligible], Or.inr ⟨sameScore, text⟩⟩

theorem rankPlacementCandidates_eq_iff_keepOrder
    {rows : List (PlacementRow π)} (several : ¬ rows.length ≤ 1)
    (encodable : ∀ row ∈ rows, Utf8Encodable (row.keyText lower)) :
    rankPlacementCandidates lower true rows = some (pythonRankCandidates lower rows) ↔
      RankKeysKeepOrder lower rows := by
  rw [rankPlacementCandidates_of_encodable lower several encodable]
  have python := map_fst_insertionSort_zipIdx (placementSortKey lower) rows
  have determined : ∀ one ∈ rows, ∀ other ∈ rows,
      placementSortKey lower one = placementSortKey lower other →
        nativeSortKey lower one = nativeSortKey lower other := by
    intro one _ other _ same
    simp only [placementSortKey, toLex_inj, Prod.mk.injEq] at same
    obtain ⟨sameEligible, sameScore, sameName, sameId⟩ := same
    simp only [nativeSortKey, sameEligible, sameScore, PlacementRow.keyText, sameName, sameId]
  have ranking := map_fst_eq_iff
    (List.perm_insertionSort _ rows.zipIdx) (nativeQueue_perm lower rows)
    (insertionSort_zipIdx_precedes (placementSortKey lower) rows 0)
    (nativeQueue_pairwise lower rows) determined
  rw [Option.some_inj, pythonRankCandidates, ← python, eq_comm, ranking, ← rankKeysKeepOrder_iff]

/-- The native ranking is the Python ranking exactly when the joined keys can
be encoded and keep the order of tied rows. -/
theorem rankPlacementCandidates_eq_iff (rows : List (PlacementRow π)) :
    rankPlacementCandidates lower true rows = some (pythonRankCandidates lower rows) ↔
      rows.length ≤ 1 ∨ ((∀ row ∈ rows, Utf8Encodable (row.keyText lower)) ∧
          RankKeysKeepOrder lower rows) := by
  by_cases several : rows.length ≤ 1
  · have alone : pythonRankCandidates lower rows = rows := by
      match rows, several with
      | [], _ => rfl
      | [row], _ => rfl
    simp [rankPlacementCandidates, several, alone]
  by_cases encodable : ∀ row ∈ rows, Utf8Encodable (row.keyText lower)
  · rw [rankPlacementCandidates_eq_iff_keepOrder lower several encodable]
    exact ⟨fun keeps => Or.inr ⟨encodable, keeps⟩,
      fun condition => (condition.resolve_left several).2⟩
  · have entries := mapM_rankEntry lower rows
    rw [if_neg encodable] at entries
    simp [rankPlacementCandidates, several, entries, encodable]

end Service

def tabbedRows : List (PlacementRow ℕ) :=
  [{ name := some [97], nodeId := some [49], score := some (.finite 1),
     eligible := true, payload := 0 },
    { name := some [97, 9], nodeId := some [50], score := some (.finite 1),
      eligible := true, payload := 1 }]

theorem tabbedRows_disagree : rankPlacementCandidates asciiLower true tabbedRows ≠
      some (pythonRankCandidates asciiLower tabbedRows) := by
  have encodable : ∀ row ∈ tabbedRows, Utf8Encodable (row.keyText asciiLower) := by
    simp [tabbedRows, PlacementRow.keyText, PlacementRow.keyName,
      PlacementRow.keyNodeId, strOrEmpty, asciiLower, Utf8Encodable,
      isSurrogate, or_imp, forall_and]
  rw [ne_eq, rankPlacementCandidates_eq_iff_keepOrder asciiLower (by decide) encodable]
  intro keeps
  have ordered := keeps (tabbedRows[0], 0) (by simp [tabbedRows])
    (tabbedRows[1], 1) (by simp [tabbedRows]) rfl rfl (Or.inl (by decide))
  revert ordered
  decide

end Ithute
