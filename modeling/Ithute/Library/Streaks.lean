import Mathlib.Data.List.DropRight
import Mathlib.Order.Lattice

/-!
# Streaks at the end of a history

The streak of a property is the longest end of a history on which it
holds.  `streakStart` is when the first item of the streak happened.
-/

namespace Streaks

variable {α τ : Type*} (holds : α → Bool) (time : α → τ)

/-- When the streak at the end of a history began. -/
def streakStart (history : List α) : Option τ := (history.rtakeWhile holds).head?.map time

@[simp]
theorem streakStart_nil : streakStart holds time [] = none := by simp [streakStart]

/-- A further item keeps the start of a running streak. -/
theorem streakStart_concat_of_holds (history : List α) {item : α} (itemHolds : holds item = true) :
    streakStart holds time (history ++ [item]) =
      some ((streakStart holds time history).getD (time item)) := by
  unfold streakStart
  rw [List.rtakeWhile_concat_pos holds history item itemHolds]
  cases history.rtakeWhile holds with
  | nil => rfl
  | cons first rest => rfl

theorem streakStart_concat_of_fails (history : List α) {item : α} (itemFails : holds item = false) :
    streakStart holds time (history ++ [item]) = none := by
  have fails : ¬ holds item = true := by simp [itemFails]
  unfold streakStart
  rw [List.rtakeWhile_concat_neg holds history item fails]
  rfl

/-- A streak that has begun is the end of the history, and before it comes
nothing or an item that breaks it. -/
theorem exists_streak {history : List α} {began : τ}
    (start : streakStart holds time history = some began) :
    ∃ earlier first rest, history = earlier ++ first :: rest ∧
      time first = began ∧ (∀ item ∈ first :: rest, holds item = true) ∧
      ∀ last ∈ earlier.getLast?, holds last = false := by
  have split : history.rdropWhile holds ++ history.rtakeWhile holds = history :=
    List.rdropWhile_append_rtakeWhile
  unfold streakStart at start
  cases streak : history.rtakeWhile holds with
  | nil => simp [streak] at start
  | cons first rest =>
    rw [streak] at start split
    refine ⟨history.rdropWhile holds, first, rest, split.symm, Option.some.inj start, ?_, ?_⟩
    · intro item inside
      rw [← streak] at inside
      exact List.mem_rtakeWhile_imp inside
    · intro last lastMem
      obtain ⟨nonempty, rfl⟩ := List.mem_getLast?_eq_getLast lastMem
      simpa using List.rdropWhile_last_not holds history nonempty

/-- In a history in order of time, whatever happened after a streak began
belongs to it. -/
theorem holds_of_streakStart_lt [LinearOrder τ] {history : List α}
    (ordered : history.Pairwise fun first second => time first ≤ time second)
    {began : τ} (start : streakStart holds time history = some began)
    {item : α} (member : item ∈ history) (later : began < time item) : holds item = true := by
  obtain ⟨earlier, first, rest, split, startTime, streak, -⟩ := exists_streak holds time start
  rw [split, List.pairwise_append] at ordered
  rw [split, List.mem_append] at member
  rcases member with before | inside
  · have notLater := ordered.2.2 item before first List.mem_cons_self
    rw [startTime] at notLater
    exact absurd later (not_lt_of_ge notLater)
  · exact streak item inside

end Streaks
