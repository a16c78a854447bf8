import Ithute.Library.CountingScheduler
import Mathlib.Data.List.Nodup

/-!
# The schedule of a list of dependency pairs

A pair `(item, source)` says that `item` waits for `source`.  Each pair counts
as one needed release, while the items that a source releases are listed
without repetition.  Hence a repeated pair leaves a counter above zero for
ever.
-/

namespace LeastReadyOrder

variable {α : Type*} [LinearOrder α]

/-- Keep one item of every block of equal neighbours. -/
def unique : List α → List α
  | [] => []
  | [item] => [item]
  | item :: next :: rest =>
    if item = next then unique (next :: rest)
    else item :: unique (next :: rest)

variable {items : List α}

theorem mem_unique {item : α} : item ∈ unique items ↔ item ∈ items := by
  induction items with
  | nil => rfl
  | cons head rest ih =>
    cases rest with
    | nil => rfl
    | cons next rest =>
      rw [unique]
      split
      · next same => rw [ih, same]; simp
      · rw [List.mem_cons, ih, ← List.mem_cons]

theorem unique_pairwise (sorted : items.Pairwise (· ≤ ·)) : (unique items).Pairwise (· < ·) := by
  induction items with
  | nil => exact List.Pairwise.nil
  | cons head rest ih =>
    obtain ⟨headLe, restSorted⟩ := List.pairwise_cons.mp sorted
    cases rest with
    | nil => simp [unique]
    | cons next rest =>
      rw [unique]
      split
      · exact ih restSorted
      · next different =>
          refine List.pairwise_cons.mpr ⟨?_, ih restSorted⟩
          intro later laterMem
          have headLt : head < next := lt_of_le_of_ne (headLe next (by simp)) different
          rcases List.mem_cons.mp (mem_unique.mp laterMem) with same | inRest
          · rwa [same]
          · exact lt_of_lt_of_le headLt ((List.pairwise_cons.mp restSorted).1 later inRest)

/-- The items waiting for `source`, in increasing order and without
repetition. -/
def dependentsOf (pairs : List (α × α)) (source : α) : List α :=
  unique (((pairs.filter fun pair => pair.2 = source).map Prod.fst).insertionSort (· ≤ ·))

/-- The number of pairs that make `item` wait. -/
def needOf (pairs : List (α × α)) (item : α) : ℕ := (pairs.filter fun pair => pair.1 = item).length

theorem dependentsOf_pairwise (pairs : List (α × α)) (source : α) :
    (dependentsOf pairs source).Pairwise (· < ·) :=
  unique_pairwise (List.pairwise_insertionSort _ _)

theorem dependentsOf_nodup (pairs : List (α × α)) (source : α) :
    (dependentsOf pairs source).Nodup :=
  (dependentsOf_pairwise pairs source).imp ne_of_lt

@[simp]
theorem mem_dependentsOf {pairs : List (α × α)} {source item : α} :
    item ∈ dependentsOf pairs source ↔ (item, source) ∈ pairs := by
  simp [dependentsOf, mem_unique]

/-- A strictly increasing list is determined by its members. -/
theorem eq_of_pairwise_lt {first second : List α} (firstSorted : first.Pairwise (· < ·))
    (secondSorted : second.Pairwise (· < ·)) (sameMembers : ∀ item, item ∈ first ↔ item ∈ second) :
    first = second := by
  have perm : first.Perm second :=
    (List.perm_ext_iff_of_nodup (firstSorted.imp ne_of_lt)
      (secondSorted.imp ne_of_lt)).mpr sameMembers
  refine List.Perm.eq_of_pairwise ?_ firstSorted secondSorted perm
  intro one other _ _ below above
  exact (lt_asymm below above).elim

/-- How many releases every item needs, and the items every source
releases, in the order in which the pairs were added. -/
structure PairTables (α : Type*) where
  needs : α → ℤ
  dependents : α → List α

namespace PairTables

def initial : PairTables α where
  needs := fun _ => 0
  dependents := fun _ => []

/-- Let `item` wait for `source`. -/
def add (tables : PairTables α) (item source : α) : PairTables α where
  needs := Function.update tables.needs item (tables.needs item + 1)
  dependents := Function.update tables.dependents source (tables.dependents source ++ [item])

/-- What the tables hold after the pairs of a list were added. -/
def ofPairs (pairs : List (α × α)) : PairTables α where
  needs := fun item => (needOf pairs item : ℤ)
  dependents := fun source => (pairs.filter fun pair => pair.2 = source).map Prod.fst

theorem add_ofPairs (pairs : List (α × α)) (item source : α) : (ofPairs pairs).add item source =
      ofPairs (pairs ++ [(item, source)]) := by
  simp only [add, ofPairs, PairTables.mk.injEq]
  constructor
  · ext other
    by_cases same : item = other
    · subst same
      simp [needOf]
    · simp [needOf, same, Function.update_of_ne (Ne.symm same)]
  · ext other : 1
    by_cases same : source = other
    · subst same
      simp
    · simp [same, Function.update_of_ne (Ne.symm same)]

@[simp]
theorem mem_dependents_ofPairs {pairs : List (α × α)} {item source : α} :
    item ∈ (ofPairs pairs).dependents source ↔ (item, source) ∈ pairs := by
  simp [ofPairs]

theorem unique_dependents_ofPairs (pairs : List (α × α)) (source : α) :
    unique (((ofPairs pairs).dependents source).insertionSort (· ≤ ·)) =
      dependentsOf pairs source :=
  rfl

/-- Without repeated pairs sorting the dependents is enough. -/
theorem sort_dependents_ofPairs {pairs : List (α × α)} (pairsNodup : pairs.Nodup) (source : α) :
    ((ofPairs pairs).dependents source).insertionSort (· ≤ ·) = dependentsOf pairs source := by
  have nodup : ((ofPairs pairs).dependents source).Nodup := by
    apply List.Nodup.map_on _ (pairsNodup.filter _)
    rintro ⟨item, first⟩ firstMem ⟨other, second⟩ secondMem same
    have firstSource : first = source := by simpa using (List.mem_filter.mp firstMem).2
    have secondSource : second = source := by simpa using (List.mem_filter.mp secondMem).2
    rw [firstSource, secondSource]
    exact congrArg (·, source) same
  have sorted : (((ofPairs pairs).dependents source).insertionSort (· ≤ ·)).Pairwise (· < ·) :=
    ((List.pairwise_insertionSort (· ≤ ·) _).and
      ((List.perm_insertionSort (· ≤ ·) _).nodup_iff.mpr nodup)).imp
        fun related => lt_of_le_of_ne related.1 related.2
  exact eq_of_pairwise_lt sorted (dependentsOf_pairwise pairs source) fun item => by simp

end PairTables

private theorem sources_subperm {items : List α} (itemsNodup : items.Nodup)
    (pairs : List (α × α)) (item : α) : ((items.filter fun source => (item, source) ∈ pairs).map
      fun source => (item, source)).Subperm (pairs.filter fun pair => pair.1 = item) := by
  have pairsNodup : ((items.filter fun source => (item, source) ∈ pairs).map
      fun source => (item, source)).Nodup :=
    (itemsNodup.filter _).map fun _ _ same => (Prod.mk.inj same).2
  apply List.Nodup.subperm pairsNodup
  intro pair pairMem
  obtain ⟨source, sourceMem, rfl⟩ := List.mem_map.mp pairMem
  simpa using (List.mem_filter.mp sourceMem).2

theorem released_le_needOf (itemsNodup : items.Nodup)
    (pairs : List (α × α)) (item : α) (_ : item ∈ items) : ((items.filter fun source =>
      decide (item ∈ dependentsOf pairs source)).length : ℤ) ≤ needOf pairs item := by
  have counted := (sources_subperm itemsNodup pairs item).length_le
  simp only [mem_dependentsOf, List.length_map] at counted ⊢
  exact_mod_cast counted

/-- The schedule of a list of pairs over `items`. -/
def Schedule.ofPairs (items : List α) (itemsNodup : items.Nodup) (pairs : List (α × α))
    (inside : ∀ pair ∈ pairs, pair.1 ∈ items ∧ pair.2 ∈ items) : Schedule α where
  items := items
  dependents := dependentsOf pairs
  needed := fun item => (needOf pairs item : ℤ)
  items_nodup := itemsNodup
  dependents_nodup := dependentsOf_nodup pairs
  dependents_subset := fun source _ item releases =>
    (inside (item, source) (mem_dependentsOf.mp releases)).1
  released_le_needed := released_le_needOf itemsNodup pairs

section OfPairs

variable {items : List α} {itemsNodup : items.Nodup} {pairs : List (α × α)}
  {inside : ∀ pair ∈ pairs, pair.1 ∈ items ∧ pair.2 ∈ items}

theorem waits_ofPairs {item source : α} :
    (Schedule.ofPairs items itemsNodup pairs inside).Waits item source ↔
      (item, source) ∈ pairs := by
  constructor
  · rintro ⟨-, releases⟩
    exact mem_dependentsOf.mp releases
  · intro pairMem
    exact ⟨(inside _ pairMem).2, mem_dependentsOf.mpr pairMem⟩

/-- Counting every pair and releasing without repetition agree exactly when
no pair is repeated. -/
theorem simple_ofPairs_iff : (Schedule.ofPairs items itemsNodup pairs inside).Simple ↔
      pairs.Nodup := by
  have counted (item : α) : (Schedule.ofPairs items itemsNodup pairs inside).released items item =
        ((items.filter fun source => (item, source) ∈ pairs).map
          fun source => (item, source)).length := by
    simp [Schedule.released, Schedule.ofPairs]
  constructor
  · intro simple
    apply List.nodup_iff_count_le_one.mpr
    intro pair
    by_cases pairMem : pair ∈ pairs
    · have need := simple pair.1 (inside pair pairMem).1
      have sameLength : (pairs.filter fun other => other.1 = pair.1).length =
          ((items.filter fun source => (pair.1, source) ∈ pairs).map
            fun source => (pair.1, source)).length := by
        have need' : (needOf pairs pair.1 : ℤ) = _ := need
        rw [show (Schedule.ofPairs items itemsNodup pairs inside).items = items
          from rfl, counted] at need'
        exact_mod_cast need'
      have perm := (sources_subperm itemsNodup pairs pair.1).perm_of_length_le (le_of_eq sameLength)
      have filteredNodup : (pairs.filter fun other =>
          other.1 = pair.1).Nodup :=
        perm.nodup_iff.mp ((itemsNodup.filter _).map fun _ _ same => (Prod.mk.inj same).2)
      have once := List.nodup_iff_count_le_one.mp filteredNodup pair
      rwa [List.count_filter (by simp)] at once
    · rw [List.count_eq_zero_of_not_mem pairMem]
      exact Nat.zero_le 1
  · intro pairsNodup item _
    have upper : (pairs.filter fun other => other.1 = item).Subperm
        ((items.filter fun source => (item, source) ∈ pairs).map fun source => (item, source)) := by
      apply List.Nodup.subperm (pairsNodup.filter _)
      rintro ⟨first, source⟩ pairMem
      simp only [List.mem_filter, decide_eq_true_eq] at pairMem
      obtain ⟨pairMem, rfl⟩ := pairMem
      simp [pairMem, (inside _ pairMem).2]
    have lower := sources_subperm itemsNodup pairs item
    have sameLength := le_antisymm upper.length_le lower.length_le
    rw [show (Schedule.ofPairs items itemsNodup pairs inside).items = items from rfl, counted]
    change (needOf pairs item : ℤ) = _
    exact_mod_cast sameLength

/-- The least-ready order of a list of pairs is complete exactly when the
pairs have no cycle and none of them is repeated. -/
theorem complete_ofPairs_iff {order : List α} (takes : TakesLeast
      (Schedule.ofPairs items itemsNodup pairs inside).Ready [] order) :
    order.length = items.length ↔ pairs.Nodup ∧ ∀ item, ¬ Relation.TransGen
          (fun waiting source => (waiting, source) ∈ pairs) item item := by
  have sameWaits : (Schedule.ofPairs items itemsNodup pairs inside).Waits =
        fun waiting source => (waiting, source) ∈ pairs := by
    ext waiting source
    exact waits_ofPairs
  have complete := Schedule.complete_iff takes
  rw [simple_ofPairs_iff, sameWaits] at complete
  exact complete

theorem takesLeast_unblocked_ofPairs (pairsNodup : pairs.Nodup) {order : List α} (takes : TakesLeast
      (Schedule.ofPairs items itemsNodup pairs inside).Ready [] order) :
    TakesLeast (Unblocked items fun item source => (item, source) ∈ pairs) [] order := by
  have unblocked := Schedule.takesLeast_unblocked
    (simple_ofPairs_iff.mpr pairsNodup) takes List.nodup_nil (List.nil_subset _)
  have sameWaits : (Schedule.ofPairs items itemsNodup pairs inside).Waits =
        fun item source => (item, source) ∈ pairs := by
    ext item source
    exact waits_ofPairs
  rwa [sameWaits] at unblocked

end OfPairs

end LeastReadyOrder
