import Ithute.Library.RewrittenRows
import Mathlib.Data.List.Nodup

/-!
# Rows that follow one another

The rows of an owner are numbered in the order they are added, and the next
one is added once the others are closed.  The open row of an owner is then
its newest, and the only one.
-/

namespace SuccessiveRows

open RewrittenRows

variable {Row Owner : Type*} {owner : Row → Owner} {number : Row → ℕ}
variable {isOpen : Row → Bool} {rows : List Row} {row other : Row}

/-- A later row of the same owner has the greater number, and the earlier one
is closed. -/
structure Successive (owner : Row → Owner) (number : Row → ℕ)
    (isOpen : Row → Bool) (rows : List Row) : Prop where
  increasing : rows.Pairwise fun first second =>
    owner first = owner second → number first < number second
  closed : rows.Pairwise fun first second => owner first = owner second → isOpen first = false

namespace Successive

theorem nil : Successive owner number isOpen [] := ⟨List.Pairwise.nil, List.Pairwise.nil⟩

/-- The next row of an owner whose rows are closed. -/
theorem append (successive : Successive owner number isOpen rows)
    (greater : ∀ stored ∈ rows, owner stored = owner row → number stored < number row)
    (none : ∀ stored ∈ rows, owner stored = owner row → isOpen stored = false) :
    Successive owner number isOpen (rows ++ [row]) := by
  constructor
  · rw [List.pairwise_append]
    refine ⟨successive.increasing, List.pairwise_singleton _ _, ?_⟩
    intro stored member added addedMem
    rw [List.mem_singleton.mp addedMem]
    exact greater stored member
  · rw [List.pairwise_append]
    refine ⟨successive.closed, List.pairwise_singleton _ _, ?_⟩
    intro stored member added addedMem
    rw [List.mem_singleton.mp addedMem]
    exact none stored member

theorem rewrites {kept : Row → Row → Prop} {after : List Row}
    (successive : Successive owner number isOpen rows) (rewrites : Rewrites kept rows after)
    (owners : ∀ first second, kept first second → owner second = owner first)
    (numbers : ∀ first second, kept first second → number second = number first)
    (closes : ∀ first second, kept first second → isOpen first = false →
      isOpen second = false) : Successive owner number isOpen after := by
  constructor
  · apply rewrites.pairwise successive.increasing
    intro first second first' second' less keepsFirst keepsSecond same
    rw [owners _ _ keepsFirst, owners _ _ keepsSecond] at same
    rw [numbers _ _ keepsFirst, numbers _ _ keepsSecond]
    exact less same
  · apply rewrites.pairwise successive.closed
    intro first second first' second' shut keepsFirst keepsSecond same
    rw [owners _ _ keepsFirst, owners _ _ keepsSecond] at same
    exact closes _ _ keepsFirst (shut same)

theorem map (successive : Successive owner number isOpen rows) {write : Row → Row}
    (owners : ∀ stored ∈ rows, owner (write stored) = owner stored)
    (numbers : ∀ stored ∈ rows, number (write stored) = number stored)
    (closes : ∀ stored ∈ rows, isOpen stored = false → isOpen (write stored) = false) :
    Successive owner number isOpen (rows.map write) := by
  have rewrites : Rewrites (fun first second =>
      owner second = owner first ∧ number second = number first ∧
        (isOpen first = false → isOpen second = false)) rows
      (rows.map write) :=
    .map fun stored member => ⟨owners stored member, numbers stored member, closes stored member⟩
  exact successive.rewrites rewrites (fun _ _ keeps => keeps.1)
    (fun _ _ keeps => keeps.2.1) fun _ _ keeps => keeps.2.2

/-- Two rows of an owner are one row, or follow one another. -/
theorem cases_of_mem (successive : Successive owner number isOpen rows)
    (member : row ∈ rows) (otherMem : other ∈ rows) (same : owner row = owner other) : row = other ∨
      (number row < number other ∧ isOpen row = false) ∨
      (number other < number row ∧ isOpen other = false) := by
  obtain ⟨increasing, closed⟩ := successive
  induction rows with
  | nil => cases member
  | cons first rest ih =>
    rw [List.pairwise_cons] at increasing closed
    rcases List.mem_cons.mp member with here | later <;>
      rcases List.mem_cons.mp otherMem with otherHere | otherLater
    · exact .inl (here.trans otherHere.symm)
    · rw [here] at same ⊢
      exact .inr (.inl ⟨increasing.1 other otherLater same, closed.1 other otherLater same⟩)
    · rw [otherHere] at same ⊢
      exact .inr (.inr ⟨increasing.1 row later same.symm, closed.1 row later same.symm⟩)
    · exact ih later otherLater increasing.2 closed.2

theorem eq_of_number (successive : Successive owner number isOpen rows)
    (member : row ∈ rows) (otherMem : other ∈ rows)
    (same : owner row = owner other) (numbers : number row = number other) : row = other := by
  rcases successive.cases_of_mem member otherMem same with
    equal | ⟨less, -⟩ | ⟨less, -⟩
  · exact equal
  · omega
  · omega

theorem le_of_open (successive : Successive owner number isOpen rows)
    (member : row ∈ rows) (otherMem : other ∈ rows)
    (same : owner row = owner other) (here : isOpen row = true) : number other ≤ number row := by
  rcases successive.cases_of_mem member otherMem same with
    equal | ⟨-, shut⟩ | ⟨less, -⟩
  · exact Nat.le_of_eq (congrArg number equal.symm)
  · rw [here] at shut
    cases shut
  · exact Nat.le_of_lt less

end Successive

end SuccessiveRows
