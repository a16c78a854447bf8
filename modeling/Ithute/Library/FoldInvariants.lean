import Mathlib.Data.List.Basic

/-!
# Invariants of loops over lists

A loop that goes through a list and may stop with one fixed failure either
stops or ends in a state that the whole list leads to.  The invariant
speaks about the items processed so far.
-/

namespace FoldInvariants

variable {α β ε : Type*}

/-- The rule for a loop whose steps all succeed. -/
theorem foldl_prefix {step : β → α → β} {Holds : List α → β → Prop}
    (preserved : ∀ front state item, Holds front state → Holds (front ++ [item]) (step state item))
    (items : List α) {front : List α} {state : β} (start : Holds front state) :
    Holds (front ++ items) (items.foldl step state) := by
  induction items generalizing front state with
  | nil => simpa using start
  | cons item items ih => simpa using ih (preserved front state item start)

/-- The rule for a loop whose steps may stop with a failure. -/
theorem foldlM_prefix {step : β → α → Except ε β} {Holds : List α → β → Prop} {failure : ε}
    (preserved : ∀ front state item, Holds front state → step state item = .error failure ∨
        ∃ next, step state item = .ok next ∧ Holds (front ++ [item]) next)
    (items : List α) {front : List α} {state : β} (start : Holds front state) :
    (items.foldlM step state = .error failure ∧
        ∃ item ∈ items, ∃ reached, step reached item = .error failure) ∨
      ∃ last, items.foldlM step state = .ok last ∧ Holds (front ++ items) last := by
  induction items generalizing front state with
  | nil => exact Or.inr ⟨state, rfl, by simpa using start⟩
  | cons item items ih =>
    rw [List.foldlM_cons]
    rcases preserved front state item start with
      failed | ⟨next, succeeded, holds⟩
    · refine Or.inl ⟨by rw [failed]; rfl, item, by simp, state, failed⟩
    · rw [succeeded]
      change (items.foldlM step next = _ ∧ _) ∨ ∃ last, items.foldlM step next = _ ∧ _
      rcases ih holds with ⟨failed, other, otherMem, reached⟩ | ⟨last, result⟩
      · exact Or.inl ⟨failed, other, List.mem_cons_of_mem _ otherMem, reached⟩
      · exact Or.inr ⟨last, by simpa using result⟩

/-- A loop that collects values and stops at the first bad item. -/
theorem mapM_eq_ite {step : α → Option β} {good : α → Prop} [DecidablePred good] {value : α → β}
    (each : ∀ item, step item = if good item then some (value item) else none) (items : List α) :
    items.mapM step = if ∀ item ∈ items, good item then some (items.map value) else none := by
  induction items with
  | nil => simp
  | cons item items ih =>
    simp only [List.mapM_cons, ih, each, List.forall_mem_cons]
    by_cases goodItem : good item
    · by_cases rest : ∀ other ∈ items, good other
      · rw [if_pos rest, if_pos (And.intro goodItem rest), if_pos goodItem]
        simp
      · simp only [rest, and_false, if_false]
        simp
    · simp only [goodItem, false_and, if_false]
      simp

/-- A loop that updates a state and stops at the first bad item. -/
theorem foldlM_eq_ite {step : β → α → Option β} {good : α → Prop}
    [DecidablePred good] {next : β → α → β} (each : ∀ state item,
      step state item = if good item then some (next state item) else none)
    (items : List α) (state : β) :
    items.foldlM step state = if ∀ item ∈ items, good item then some (items.foldl next state)
      else none := by
  induction items generalizing state with
  | nil => simp
  | cons item items ih =>
    rw [List.foldlM_cons, each]
    by_cases goodItem : good item
    · simp [goodItem, ih]
    · simp [goodItem]

end FoldInvariants
