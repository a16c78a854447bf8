import Mathlib.Data.List.Lex
import Mathlib.Data.List.TakeWhile
import Mathlib.Order.Lattice
import Mathlib.Order.Monotone.Basic

/-!
# Order-preserving encodings of sequences

A code assigns to every symbol a nonempty word.  When the words of two
ordered symbols first differ at a common position, in the same direction,
then encoding a sequence symbol by symbol keeps the lexicographic order.
Cutting a sequence at its first terminator keeps the order as well, weakly,
as long as the terminator is the least symbol.
-/

namespace LexicographicEncoding

variable {α β : Type*} [LinearOrder α] [LinearOrder β]

/-- Two words with a common prefix after which they differ, the first word
having the smaller symbol there. -/
def SplitsBelow (first second : List β) : Prop :=
  ∃ (common : List β) (low high : β) (firstRest secondRest : List β),
    first = common ++ low :: firstRest ∧ second = common ++ high :: secondRest ∧ low < high

theorem SplitsBelow.append_lt {first second : List β}
    (splits : SplitsBelow first second) (firstTail secondTail : List β) :
    first ++ firstTail < second ++ secondTail := by
  obtain ⟨common, low, high, firstRest, secondRest, rfl, rfl, lowLt⟩ := splits
  simp only [List.append_assoc, List.cons_append]
  exact List.Lex.append_left _ (List.Lex.rel lowLt) common

/-- A code whose words are nonempty and keep the order of their symbols. -/
structure OrderedCode (code : α → List β) : Prop where
  nonempty : ∀ symbol, code symbol ≠ []
  splits : ∀ {low high : α}, low < high → SplitsBelow (code low) (code high)

variable {code : α → List β} {first second : List α}

theorem OrderedCode.flatMap_lt (ordered : OrderedCode code) (firstLt : first < second) :
    first.flatMap code < second.flatMap code := by
  induction firstLt with
  | @nil symbol rest =>
    rw [List.flatMap_nil, List.flatMap_cons]
    cases word : code symbol with
    | nil => exact (ordered.nonempty symbol word).elim
    | cons head tail => exact List.Lex.nil
  | @rel low firstRest high secondRest lowLt =>
    simpa only [List.flatMap_cons] using (ordered.splits lowLt).append_lt _ _
  | @cons symbol firstRest secondRest _ ih =>
    rw [List.flatMap_cons, List.flatMap_cons]
    exact List.Lex.append_left _ ih (code symbol)

/-- Encoding symbol by symbol with an ordered code keeps the order. -/
theorem OrderedCode.flatMap_strictMono (ordered : OrderedCode code) :
    StrictMono fun symbols : List α => symbols.flatMap code :=
  fun _ _ firstLt => ordered.flatMap_lt firstLt

/-- The part of a sequence before its first terminator. -/
def cutAt (terminator : α) (symbols : List α) : List α := symbols.takeWhile (· ≠ terminator)

@[simp]
theorem cutAt_cons_self (terminator : α) (rest : List α) :
    cutAt terminator (terminator :: rest) = [] := by
  simp [cutAt]

variable {terminator : α}

theorem cutAt_cons_of_ne {symbol : α} (symbolNe : symbol ≠ terminator) (rest : List α) :
    cutAt terminator (symbol :: rest) = symbol :: cutAt terminator rest := by
  simp [cutAt, symbolNe]

theorem cutAt_eq_self {symbols : List α}
    (absent : terminator ∉ symbols) : cutAt terminator symbols = symbols := by
  apply List.takeWhile_eq_self_iff.mpr
  intro symbol symbolMem
  simpa using fun same : symbol = terminator => absent (same ▸ symbolMem)

theorem cutAt_append_of_not_mem {front : List α} (absent : terminator ∉ front) (rest : List α) :
    cutAt terminator (front ++ rest) = front ++ cutAt terminator rest := by
  induction front with
  | nil => rfl
  | cons symbol front ih =>
    simp only [List.mem_cons, not_or] at absent
    rw [List.cons_append, cutAt_cons_of_ne (Ne.symm absent.1), ih absent.2, List.cons_append]

private theorem nil_le (symbols : List α) : [] ≤ symbols := by
  cases symbols with
  | nil => exact le_rfl
  | cons symbol rest =>
    have nilLt : [] < symbol :: rest := List.Lex.nil
    exact le_of_lt nilLt

/-- Cutting at the least symbol is weakly monotone. -/
theorem cutAt_le_of_lt (least : ∀ symbol, terminator ≤ symbol) (firstLt : first < second) :
    cutAt terminator first ≤ cutAt terminator second := by
  induction firstLt with
  | nil => exact nil_le _
  | @rel low firstRest high secondRest lowLt =>
    have highNe : high ≠ terminator := ne_of_gt (lt_of_le_of_lt (least low) lowLt)
    rw [cutAt_cons_of_ne highNe]
    by_cases same : low = terminator
    · subst same
      rw [cutAt_cons_self]
      exact nil_le _
    · rw [cutAt_cons_of_ne same]
      have headLt : low :: cutAt terminator firstRest <
          high :: cutAt terminator secondRest := List.Lex.rel lowLt
      exact le_of_lt headLt
  | @cons symbol firstRest secondRest _ ih =>
    by_cases same : symbol = terminator
    · subst same
      simp
    · rw [cutAt_cons_of_ne same, cutAt_cons_of_ne same]
      exact List.cons_le_cons symbol ih

theorem cutAt_monotone (least : ∀ symbol, terminator ≤ symbol) : Monotone (cutAt terminator) := by
  intro first second firstLe
  rcases lt_or_eq_of_le firstLe with firstLt | same
  · exact cutAt_le_of_lt least firstLt
  · rw [same]

/-- Where cutting keeps two sequences apart it keeps their order. -/
theorem cutAt_lt_iff (least : ∀ symbol, terminator ≤ symbol)
    (apart : cutAt terminator first ≠ cutAt terminator second) :
    cutAt terminator first < cutAt terminator second ↔ first < second := by
  constructor
  · intro cutLt
    by_contra notLt
    have cutLe := cutAt_monotone least (not_lt.mp notLt)
    exact (not_lt.mpr cutLe) cutLt
  · intro firstLt
    exact lt_of_le_of_ne (cutAt_le_of_lt least firstLt) apart

/-- Cutting commutes with encoding when exactly the terminator's word is the
encoded terminator. -/
theorem cutAt_flatMap {encodedTerminator : β}
    (terminatorCode : code terminator = [encodedTerminator])
    (absent : ∀ symbol ≠ terminator, encodedTerminator ∉ code symbol) (symbols : List α) :
    cutAt encodedTerminator (symbols.flatMap code) = (cutAt terminator symbols).flatMap code := by
  induction symbols with
  | nil => rfl
  | cons symbol rest ih =>
    rw [List.flatMap_cons]
    by_cases same : symbol = terminator
    · subst same
      simp [terminatorCode]
    · rw [cutAt_append_of_not_mem (absent symbol same),
        cutAt_cons_of_ne same, List.flatMap_cons, ih]

end LexicographicEncoding
