import Mathlib.Data.List.Basic
import Mathlib.Data.List.Infix

/-!
# Substrings

Two ways to search a text for a pattern: comparing the windows of the
pattern's length, and trying the pattern as a prefix at every place.  They
count alike if no two occurrences overlap.
-/

namespace Substrings

variable {α β : Type*}

/-- The windows of a size, from left to right. -/
def windows (size : ℕ) : List α → List (List α)
  | [] => []
  | head :: rest =>
    if size ≤ rest.length + 1 then (head :: rest).take size :: windows size rest
    else windows size rest

variable {size : ℕ} {text window : List α}

theorem windows_of_short (short : text.length < size) : windows size text = [] := by
  induction text with
  | nil => rfl
  | cons head rest ih =>
    rw [List.length_cons] at short
    rw [windows, if_neg (by omega)]
    exact ih (by omega)

theorem length_of_mem_windows (member : window ∈ windows size text) : window.length = size := by
  induction text with
  | nil => cases member
  | cons head rest ih =>
    rw [windows] at member
    split at member
    · rename_i fits
      rcases List.mem_cons.mp member with rfl | later
      · rw [List.length_take, List.length_cons]
        omega
      · exact ih later
    · exact ih member

theorem windows_map (f : α → β) : windows size (text.map f) = (windows size text).map (·.map f) := by
  induction text with
  | nil => rfl
  | cons head rest ih =>
    rw [List.map_cons, windows, windows, List.length_map, ih]
    split
    · rw [List.map_cons, List.map_take, List.map_cons]
    · rfl

variable {pattern : List α}

/-- No end of the pattern is a beginning of it. -/
def Unbordered (pattern : List α) : Prop :=
  ∀ shift, 0 < shift → shift < pattern.length → ¬ pattern.drop shift <+: pattern

/-- Where the pattern stands, it stands at none of the next places. -/
theorem Unbordered.apart (unbordered : Unbordered pattern) (here : pattern <+: text) {shift : ℕ}
    (positive : 0 < shift) (within : shift < pattern.length) : ¬ pattern <+: text.drop shift := by
  intro again
  refine unbordered shift positive within (List.prefix_of_prefix_length_le (here.drop shift) again ?_)
  rw [List.length_drop]
  omega

variable [DecidableEq α]

/-- The first place at which the pattern stands. -/
def find? (pattern : List α) : List α → Option ℕ
  | [] => if pattern = [] then some 0 else none
  | head :: rest =>
    if pattern <+: head :: rest then some 0 else (find? pattern rest).map (· + 1)

/-- The occurrences that do not overlap, from left to right; so many elements
belong to an occurrence already. -/
def countFrom (pattern : List α) : ℕ → List α → ℕ
  | _, [] => 0
  | 0, head :: rest =>
    if pattern <+: head :: rest then 1 + countFrom pattern (pattern.length - 1) rest
    else countFrom pattern 0 rest
  | skip + 1, _ :: rest => countFrom pattern skip rest

def count (pattern text : List α) : ℕ := countFrom pattern 0 text

theorem find?_of_short (short : text.length < pattern.length) : find? pattern text = none := by
  induction text with
  | nil =>
    rw [find?, if_neg]
    rintro rfl
    cases short
  | cons head rest ih =>
    have tooLong : ¬ pattern <+: head :: rest := fun begins =>
      absurd begins.length_le (not_le.mpr short)
    rw [List.length_cons] at short
    rw [find?, if_neg tooLong, ih (by omega)]
    rfl

/-- The first window that is the pattern is the first place of the pattern. -/
theorem findIdx?_windows (nonempty : pattern ≠ []) :
    (windows pattern.length text).findIdx? (fun window => decide (window = pattern)) =
      find? pattern text := by
  induction text with
  | nil => rw [find?, if_neg nonempty]; rfl
  | cons head rest ih =>
    by_cases fits : pattern.length ≤ rest.length + 1
    · rw [windows, if_pos fits, List.findIdx?_cons, find?, ih]
      simp only [List.prefix_iff_eq_take, eq_comm (a := pattern), decide_eq_true_eq]
    · have short : (head :: rest).length < pattern.length := by
        rw [List.length_cons]
        omega
      rw [windows_of_short short, find?_of_short short]
      rfl

theorem any_windows (nonempty : pattern ≠ []) :
    (windows pattern.length text).any (fun window => decide (window = pattern)) =
      (find? pattern text).isSome := by
  rw [← findIdx?_windows nonempty, List.findIdx?_isSome]

/-- The windows that are the pattern are its occurrences that do not overlap,
if the pattern stands at none of the places that are left out. -/
theorem countFrom_eq_countP (unbordered : Unbordered pattern) (nonempty : pattern ≠ []) {skip : ℕ}
    (free : ∀ place < skip, ¬ pattern <+: text.drop place) : countFrom pattern skip text =
      (windows pattern.length text).countP fun window => decide (window = pattern) := by
  have positive := List.length_pos_iff.mpr nonempty
  induction text generalizing skip with
  | nil => cases skip <;> rfl
  | cons head rest ih =>
    have counted : (windows pattern.length (head :: rest)).countP
          (fun window => decide (window = pattern)) =
        (windows pattern.length rest).countP (fun window => decide (window = pattern)) +
          if pattern <+: head :: rest then 1 else 0 := by
      rw [windows]
      split
      · rw [List.countP_cons]
        simp only [List.prefix_iff_eq_take, eq_comm (a := pattern), decide_eq_true_eq]
      · rename_i short
        rw [if_neg]
        · rfl
        · exact fun begins => short begins.length_le
    rw [counted]
    cases skip with
    | zero =>
      rw [countFrom]
      split
      · rename_i here
        rw [ih, Nat.add_comm]
        intro place within
        exact unbordered.apart here (Nat.succ_pos place) (by omega)
      · exact ih fun place within => absurd within (Nat.not_lt_zero place)
    | succ skip =>
      have absent : ¬ pattern <+: head :: rest := free 0 (Nat.succ_pos skip)
      rw [countFrom, if_neg absent, Nat.add_zero]
      exact ih fun place within => free (place + 1) (Nat.succ_lt_succ within)

theorem count_eq_countP (unbordered : Unbordered pattern) (nonempty : pattern ≠ []) :
    count pattern text =
      (windows pattern.length text).countP fun window => decide (window = pattern) :=
  countFrom_eq_countP unbordered nonempty fun place within => absurd within (Nat.not_lt_zero place)

end Substrings
