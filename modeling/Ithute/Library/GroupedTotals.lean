import Mathlib.Data.List.Nodup
import Mathlib.Algebra.BigOperators.Group.List.Basic
import Mathlib.Algebra.GroupWithZero.Nat

/-!
# Totals of groups

The amounts of the rows of a table are added up by a key.  Rows that each
belong to a row of another table are covered by it: if the parts of every
parent stay within its amount, then the parts of a group stay within the
amounts of its parents.
-/

namespace GroupedTotals

variable {α β Key : Type*} [DecidableEq Key]

def total (key : α → Key) (amount : α → ℕ) (rows : List α) (sought : Key) : ℕ :=
  ((rows.filter fun row => decide (key row = sought)).map amount).sum

variable {key : α → Key} {amount : α → ℕ} {rows : List α} {sought : Key}

@[simp] theorem total_nil : total key amount [] sought = 0 := rfl

theorem total_cons (row : α) : total key amount (row :: rows) sought =
      (if key row = sought then amount row else 0) + total key amount rows sought := by
  by_cases same : key row = sought
  · simp [total, same]
  · simp [total, same]

@[simp] theorem total_append (more : List α) : total key amount (rows ++ more) sought =
      total key amount rows sought + total key amount more sought := by
  simp [total]

theorem total_single (row : α) : total key amount [row] sought =
      if key row = sought then amount row else 0 := by
  rw [total_cons, total_nil, Nat.add_zero]

theorem total_split (kept : α → Bool) : total key amount rows sought =
      total key amount (rows.filter kept) sought +
        total key amount (rows.filter fun row => !kept row) sought := by
  induction rows with
  | nil => rfl
  | cons first rest ih =>
    rw [total_cons, ih]
    cases here : kept first with
    | true => simp [here, total_cons, Nat.add_assoc]
    | false =>
      simp only [List.filter_cons, here, Bool.not_false, total_cons,
        Bool.false_eq_true, if_false, if_true]
      omega

theorem total_filter_le (kept : α → Bool) : total key amount (rows.filter kept) sought ≤
      total key amount rows sought := by
  have split := @total_split α Key _ key amount rows sought kept
  omega

theorem total_filter_of_kept {kept : α → Bool}
    (all : ∀ row ∈ rows, key row = sought → kept row = true) :
    total key amount (rows.filter kept) sought = total key amount rows sought := by
  induction rows with
  | nil => rfl
  | cons first rest ih =>
    have later := ih fun row member => all row (List.mem_cons_of_mem _ member)
    rw [total_cons]
    by_cases same : key first = sought
    · simp [all first List.mem_cons_self same, total_cons, later]
    · cases here : kept first with
      | true => simp [here, total_cons, later]
      | false => simp [here, same, later]

theorem total_eq_zero (none : ∀ row ∈ rows, key row ≠ sought) :
    total key amount rows sought = 0 := by
  induction rows with
  | nil => rfl
  | cons first rest ih =>
    rw [total_cons, if_neg (none first List.mem_cons_self), Nat.zero_add]
    exact ih fun row member => none row (List.mem_cons_of_mem _ member)

/-- What is removed with one row, where the key tells the rows apart. -/
theorem total_remove {Id : Type*} [DecidableEq Id] {identifier : α → Id}
    (unique : (rows.map identifier).Nodup) {row : α} (member : row ∈ rows) :
    total key amount rows sought = total key amount (rows.filter fun other =>
            decide (identifier other ≠ identifier row)) sought +
        if key row = sought then amount row else 0 := by
  induction rows with
  | nil => cases member
  | cons first rest ih =>
    rw [List.map_cons, List.nodup_cons] at unique
    rw [total_cons]
    rcases List.mem_cons.mp member with rfl | later
    · have others : rest.filter (fun other =>
          decide (identifier other ≠ identifier row)) = rest := by
        rw [List.filter_eq_self]
        intro other otherMem
        rw [decide_eq_true_eq]
        intro same
        exact unique.1 (same ▸ List.mem_map_of_mem otherMem)
      simp only [List.filter_cons, ne_eq, not_true_eq_false, decide_false,
        Bool.false_eq_true, if_false]
      simp only [ne_eq] at others
      rw [others, Nat.add_comm]
    · have different : identifier first ≠ identifier row := by
        intro same
        exact unique.1 (same ▸ List.mem_map_of_mem later)
      rw [ih unique.2 later]
      simp only [List.filter_cons, ne_eq, different, not_false_eq_true,
        decide_true, if_true, total_cons]
      omega

section Parts

variable {Id : Type*} [DecidableEq Id] {parent : β → Id} {identifier : α → Id}
variable {group : β → Key} {part : β → ℕ} {parts : List β}

theorem total_parts_of_single {row : α} (owned : ∀ child ∈ parts, parent child = identifier row →
      group child = key row) :
    total group part (parts.filter fun child => decide (parent child = identifier row)) sought =
      if key row = sought then total parent part parts (identifier row)
      else 0 := by
  induction parts with
  | nil => simp
  | cons first rest ih =>
    have later := ih fun child member => owned child (List.mem_cons_of_mem _ member)
    by_cases same : parent first = identifier row
    · have inGroup := owned first List.mem_cons_self same
      by_cases sameKey : key row = sought
      · simp only [sameKey, if_true] at later
        simp [same, total_cons, inGroup, sameKey, later]
      · simp only [sameKey, if_false] at later
        simp [same, total_cons, inGroup, sameKey, later]
    · simp only [List.filter_cons, same, decide_false, Bool.false_eq_true,
        if_false, total_cons, Nat.zero_add]
      exact later

/-- The parts of a group stay within the amounts of its parents. -/
theorem total_parts_le (unique : (rows.map identifier).Nodup)
    (owned : ∀ child ∈ parts, ∃ row ∈ rows, identifier row = parent child ∧ key row = group child)
    (covered : ∀ row ∈ rows, total parent part parts (identifier row) ≤ amount row) :
    total group part parts sought ≤ total key amount rows sought := by
  induction rows generalizing parts with
  | nil =>
    have none : parts = [] := by
      rw [List.eq_nil_iff_forall_not_mem]
      intro child member
      obtain ⟨row, missing, _⟩ := owned child member
      cases missing
    rw [none]
    exact Nat.le_refl _
  | cons first rest ih =>
    rw [List.map_cons, List.nodup_cons] at unique
    have notLater {row : α} (member : row ∈ rest) : identifier row ≠ identifier first := by
      intro same
      exact unique.1 (same ▸ List.mem_map_of_mem member)
    have later := @ih (parts.filter fun child => !decide (parent child = identifier first))
      unique.2 (by
        intro child member
        obtain ⟨childMem, other⟩ := List.mem_filter.mp member
        obtain ⟨row, rowMem, same, sameGroup⟩ := owned child childMem
        rcases List.mem_cons.mp rowMem with rfl | restMem
        · simp [same] at other
        · exact ⟨row, restMem, same, sameGroup⟩) (by
        intro row member
        exact Nat.le_trans (total_filter_le _) (covered row (List.mem_cons_of_mem _ member)))
    have here := @total_parts_of_single α β Key _ key sought Id _ parent
      identifier group part parts first (by
        intro child member same
        obtain ⟨row, rowMem, sameId, sameGroup⟩ := owned child member
        rcases List.mem_cons.mp rowMem with rfl | restMem
        · exact sameGroup.symm
        · exact absurd (sameId.trans same) (notLater restMem))
    have within := covered first List.mem_cons_self
    rw [total_split fun child => decide (parent child = identifier first), here, total_cons]
    split
    · omega
    · omega

end Parts

end GroupedTotals
