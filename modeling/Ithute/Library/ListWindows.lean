import Mathlib.Data.List.Infix
import Mathlib.Data.List.Pairwise

/-!
# Windows of lists

A query with a limit looks at the first rows of a list only.  In a sorted list
the window is closed downwards, and what is selected from a window is the
selection of the whole list cut to its own length.
-/

namespace ListWindows

variable {α : Type*} {rows : List α} {count : ℕ}

/-- What is not behind a row of the window is in the window. -/
theorem mem_take_of_before {relation : α → α → Prop} (sorted : rows.Pairwise relation)
    {first second : α} (inside : second ∈ rows.take count) (member : first ∈ rows)
    (before : ¬ relation second first) : first ∈ rows.take count := by
  rw [← List.take_append_drop count rows] at sorted member
  rcases List.mem_append.mp member with taken | dropped
  · exact taken
  · exact absurd ((List.pairwise_append.mp sorted).2.2 second inside first dropped) before

variable (selected : α → Bool)

/-- The selection of a window is a front of the selection. -/
theorem filter_take_initial (rows : List α) (count : ℕ) :
    (rows.take count).filter selected <+: rows.filter selected :=
  (List.take_prefix count rows).filter selected

/-- The selection of a window is the front of the selection of its length. -/
theorem filter_take_eq (rows : List α) (count : ℕ) : (rows.take count).filter selected =
      (rows.filter selected).take ((rows.take count).filter selected).length :=
  List.prefix_iff_eq_take.mp (filter_take_initial selected rows count)

/-- A window selects as many rows as are wanted exactly where it selects the
right ones. -/
theorem filter_take_eq_take_iff (rows : List α) (count wanted : ℕ) :
    (rows.take count).filter selected = (rows.filter selected).take wanted ↔
      ((rows.take count).filter selected).length = min wanted (rows.filter selected).length := by
  constructor
  · intro same
    rw [same, List.length_take]
  · intro length
    rw [filter_take_eq, length, List.take_eq_take_iff]
    omega

end ListWindows
