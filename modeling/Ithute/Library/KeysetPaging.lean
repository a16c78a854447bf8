import Mathlib.Data.List.Sort
import Mathlib.Order.WithBot

/-!
# Keyset paging

A page holds the first rows above a position, in the order of their keys, and
the next page starts above its last row.  A row is on a page or is still
ahead, whatever happens to the other rows between pages.
-/

namespace KeysetPaging

variable {α κ : Type*} [LinearOrder κ]

def rowsAbove (key : α → κ) (position : WithBot κ) (rows : List α) : List α :=
  (rows.filter fun row => decide (position < key row)).insertionSort
    fun first second => key first ≤ key second

def pageAfter (key : α → κ) (position : WithBot κ) (limit : ℕ) (rows : List α) : List α :=
  (rowsAbove key position rows).take limit

def nextPosition (key : α → κ) (position : WithBot κ) (page : List α) : WithBot κ :=
  match page.getLast? with
  | some row => key row
  | none => position

/-- How many rows above the position come before a key. -/
def rowsBetween (key : α → κ) (position : WithBot κ) (bound : κ) (rows : List α) : ℕ :=
  (rowsAbove key position rows).countP fun row => decide (key row < bound)

variable {key : α → κ} {position : WithBot κ} {rows : List α} {row : α}

@[simp]
theorem mem_rowsAbove : row ∈ rowsAbove key position rows ↔ row ∈ rows ∧ position < key row := by
  simp [rowsAbove]

theorem rowsAbove_perm : (rowsAbove key position rows).Perm
      (rows.filter fun row => decide (position < key row)) :=
  List.perm_insertionSort _ _

theorem rowsAbove_sorted : (rowsAbove key position rows).Pairwise
      fun first second => key first ≤ key second :=
  List.pairwise_insertionSort _ _

theorem rowsAbove_distinct (distinct : rows.Pairwise fun first second => key first ≠ key second) :
    (rowsAbove key position rows).Pairwise fun first second => key first ≠ key second := by
  apply (rowsAbove_perm.pairwise_iff fun unequal => unequal.symm).mpr
  exact distinct.filter _

section Sorted

variable {sorted : List α}

/-- A sorted list starts with the rows below a bound. -/
theorem lt_of_mem_take {bound : κ} {limit : ℕ}
    (inOrder : sorted.Pairwise fun first second => key first ≤ key second)
    (many : limit ≤ sorted.countP fun row => decide (key row < bound))
    {row : α} (member : row ∈ sorted.take limit) : key row < bound := by
  induction sorted generalizing limit with
  | nil => simp at member
  | cons first rest ih =>
    rw [List.pairwise_cons] at inOrder
    cases limit with
    | zero => simp at member
    | succ limit =>
      have below : key first < bound := by
        by_contra notBelow
        have restNot : rest.countP (fun row => decide (key row < bound)) = 0 := by
          rw [List.countP_eq_zero]
          intro other otherMem
          have later := inOrder.1 other otherMem
          simpa using (le_of_not_gt notBelow).trans later
        simp [restNot, notBelow] at many
      rw [List.take_succ_cons, List.mem_cons] at member
      rcases member with same | later
      · rw [same]
        exact below
      · apply ih inOrder.2 _ later
        simpa [below] using many

theorem mem_take_of_few_below {row : α} {limit : ℕ}
    (inOrder : sorted.Pairwise fun first second => key first ≤ key second)
    (distinct : sorted.Pairwise fun first second => key first ≠ key second) (member : row ∈ sorted)
    (few : (sorted.countP fun other => decide (key other < key row)) < limit) :
    row ∈ sorted.take limit := by
  induction sorted generalizing limit with
  | nil => simp at member
  | cons first rest ih =>
    rw [List.pairwise_cons] at inOrder distinct
    cases limit with
    | zero => simp at few
    | succ limit =>
      rw [List.take_succ_cons, List.mem_cons]
      rcases List.mem_cons.mp member with same | later
      · exact .inl same
      · right
        have below : key first < key row :=
          lt_of_le_of_ne (inOrder.1 row later) (distinct.1 row later)
        apply ih inOrder.2 distinct.2 later
        simpa [below] using few

end Sorted

variable {limit : ℕ}

theorem mem_of_mem_pageAfter
    (member : row ∈ pageAfter key position limit rows) : row ∈ rows ∧ position < key row :=
  mem_rowsAbove.mp (List.mem_of_mem_take member)

theorem mem_pageAfter_of_few (distinct : rows.Pairwise fun first second => key first ≠ key second)
    (member : row ∈ rows) (above : position < key row)
    (few : rowsBetween key position (key row) rows < limit) :
    row ∈ pageAfter key position limit rows :=
  mem_take_of_few_below rowsAbove_sorted (rowsAbove_distinct distinct)
    (mem_rowsAbove.mpr ⟨member, above⟩) few

/-- What a page holds. -/
theorem mem_pageAfter_iff (distinct : rows.Pairwise fun first second => key first ≠ key second) :
    row ∈ pageAfter key position limit rows ↔ row ∈ rows ∧ position < key row ∧
        rowsBetween key position (key row) rows < limit := by
  constructor
  · intro member
    obtain ⟨stored, above⟩ := mem_of_mem_pageAfter member
    refine ⟨stored, above, ?_⟩
    by_contra many
    exact lt_irrefl (key row) (lt_of_mem_take rowsAbove_sorted (Nat.le_of_not_lt many) member)
  · rintro ⟨stored, above, few⟩
    exact mem_pageAfter_of_few distinct stored above few

/-- A page that is full of rows below a bound stops below it. -/
theorem nextPosition_lt_of_many {bound : κ} (above : position < bound)
    (many : limit ≤ rowsBetween key position bound rows) :
    nextPosition key position (pageAfter key position limit rows) < bound := by
  unfold nextPosition
  cases last : (pageAfter key position limit rows).getLast? with
  | none => exact above
  | some row =>
    have below : key row < bound := lt_of_mem_take rowsAbove_sorted many (List.mem_of_getLast? last)
    exact WithBot.coe_lt_coe.mpr below

/-- An empty page leaves no row ahead. -/
theorem rowsBetween_lt_of_pageAfter_eq_nil {bound : κ} (positive : 0 < limit)
    (empty : pageAfter key position limit rows = []) :
    rowsBetween key position bound rows < limit := by
  have none : rowsAbove key position rows = [] := by
    rcases List.take_eq_nil_iff.mp empty with zero | none
    · omega
    · exact none
  simpa [rowsBetween, none] using positive

end KeysetPaging
