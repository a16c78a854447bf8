import Mathlib.Algebra.Group.Nat.Defs
import Mathlib.Data.List.Lex
import Mathlib.Data.List.MinMax
import Mathlib.Data.Char

/-!
# Numbered series

The members of a series are named by a counter, and the next counter is read
off the greatest name that is stored.  As long as the names are ordered as
their counters are, and the greatest name stays, no name comes twice.  Counters
in decimal digits with zeros in front are ordered up to their width.
-/

namespace NumberedSeries

def padded (width value : ℕ) : List Char := (Nat.toDigits 10 value).leftpad width '0'

/-- The number that digits stand for. -/
def digitsValue (digits : List Char) : ℕ := Nat.ofDigitChars 10 digits 0

theorem digitsValue_cons (digit : Char) (digits : List Char) : digitsValue (digit :: digits) =
      10 ^ digits.length * (digit.toNat - '0'.toNat) + digitsValue digits := by
  unfold digitsValue
  rw [Nat.ofDigitChars_cons, Nat.ofDigitChars_eq_ofDigitChars_zero]
  simp

theorem isDigit_bounds {digit : Char} (isDigit : digit.isDigit = true) :
    48 ≤ digit.toNat ∧ digit.toNat ≤ 57 := by
  simpa [Char.isDigit, UInt32.le_iff_toNat_le] using isDigit

theorem digitsValue_lt {digits : List Char} (all : ∀ digit ∈ digits, digit.isDigit = true) :
    digitsValue digits < 10 ^ digits.length := by
  induction digits with
  | nil => simp [digitsValue]
  | cons digit digits ih =>
    have below := ih fun other member => all other (List.mem_cons_of_mem _ member)
    have bounds := isDigit_bounds (all digit List.mem_cons_self)
    have digitLe : digit.toNat - '0'.toNat ≤ 9 := by
      change digit.toNat - 48 ≤ 9
      omega
    have product := Nat.mul_le_mul_left (10 ^ digits.length) digitLe
    rw [digitsValue_cons, List.length_cons, Nat.pow_succ]
    omega

/-- Digits of one length are ordered as the numbers that they stand for. -/
theorem digits_lt_of_value_lt {first second : List Char} (lengthEq : first.length = second.length)
    (allFirst : ∀ digit ∈ first, digit.isDigit = true)
    (allSecond : ∀ digit ∈ second, digit.isDigit = true)
    (valueLt : digitsValue first < digitsValue second) : first < second := by
  induction first generalizing second with
  | nil =>
    cases second with
    | nil => exact absurd valueLt (Nat.lt_irrefl _)
    | cons digit digits => cases lengthEq
  | cons low lows ih =>
    cases second with
    | nil => cases lengthEq
    | cons high highs =>
      have sameLength : lows.length = highs.length := Nat.succ.inj lengthEq
      have digitsLow := fun digit member => allFirst digit (List.mem_cons_of_mem low member)
      have digitsHigh := fun digit member => allSecond digit (List.mem_cons_of_mem high member)
      have lowBounds := isDigit_bounds (allFirst low List.mem_cons_self)
      have highBounds := isDigit_bounds (allSecond high List.mem_cons_self)
      rw [digitsValue_cons, digitsValue_cons, sameLength] at valueLt
      rcases Nat.lt_trichotomy low.toNat high.toNat with less | same | more
      · exact List.Lex.rel (Char.lt_def.mpr (UInt32.lt_iff_toNat_lt.mpr less))
      · obtain rfl := Char.toNat_inj.mp same
        exact List.Lex.cons (ih sameLength digitsLow digitsHigh (Nat.lt_of_add_lt_add_left valueLt))
      · have below := digitsValue_lt digitsHigh
        have step : high.toNat - '0'.toNat + 1 ≤ low.toNat - '0'.toNat := by
          change high.toNat - 48 + 1 ≤ low.toNat - 48
          omega
        have product := Nat.mul_le_mul_left (10 ^ highs.length) step
        rw [Nat.mul_add, Nat.mul_one] at product
        omega

theorem padded_isDigit {width value : ℕ} {digit : Char}
    (member : digit ∈ padded width value) : digit.isDigit = true := by
  rcases List.mem_append.mp member with zero | proper
  · rw [List.eq_of_mem_replicate zero]
    decide
  · exact Nat.isDigit_of_mem_toDigits (by decide) (by decide) proper

@[simp]
theorem digitsValue_padded (width value : ℕ) : digitsValue (padded width value) = value := by
  unfold digitsValue padded List.leftpad
  rw [Nat.ofDigitChars_append, Nat.ofDigitChars_replicate_zero]
  simp

theorem padded_length {width value : ℕ} (positive : 0 < width)
    (fits : value < 10 ^ width) : (padded width value).length = width := by
  have short := (Nat.length_toDigits_le_iff (by decide) positive).mpr fits
  unfold padded List.leftpad
  rw [List.length_append, List.length_replicate]
  omega

/-- Counters that fit their width are ordered as their digits. -/
theorem padded_lt {width low high : ℕ} (positive : 0 < width)
    (less : low < high) (fits : high < 10 ^ width) : padded width low < padded width high := by
  refine digits_lt_of_value_lt ?_ (fun _ => padded_isDigit) (fun _ => padded_isDigit) ?_
  · rw [padded_length positive fits, padded_length positive (Nat.lt_trans less fits)]
  · simpa using less

section Separators

variable {α : Type*} {separator : α}

def afterLast [DecidableEq α] (separator : α) (text : List α) : List α :=
  (text.reverse.takeWhile fun symbol => decide (symbol ≠ separator)).reverse

theorem afterLast_append [DecidableEq α] {front back : List α} (without : separator ∉ back) :
    afterLast separator (front ++ separator :: back) = back := by
  have reversed : (front ++ separator :: back).reverse =
      back.reverse ++ separator :: front.reverse := by simp
  unfold afterLast
  rw [reversed, List.takeWhile_append_of_pos, List.takeWhile_cons_of_neg]
  · simp
  · simp
  · intro symbol member
    refine decide_eq_true ?_
    rintro rfl
    exact without (List.mem_reverse.mp member)

def throughLast [DecidableEq α] (separator : α) (text : List α) : List α :=
  (text.reverse.dropWhile fun symbol => decide (symbol ≠ separator)).reverse

theorem throughLast_append [DecidableEq α] {front back : List α} (without : separator ∉ back) :
    throughLast separator (front ++ separator :: back) = front ++ [separator] := by
  have reversed : (front ++ separator :: back).reverse =
      back.reverse ++ separator :: front.reverse := by simp
  unfold throughLast
  rw [reversed, List.dropWhile_append_of_pos, List.dropWhile_cons_of_neg]
  · simp
  · simp
  · intro symbol member
    refine decide_eq_true ?_
    rintro rfl
    exact without (List.mem_reverse.mp member)

theorem prefix_before_separator {first second firstRest secondRest : List α}
    (withoutFirst : separator ∉ first) (withoutSecond : separator ∉ second)
    (isPrefix : first ++ separator :: firstRest <+: second ++ separator :: secondRest) :
    first = second ∧ firstRest <+: secondRest := by
  induction first generalizing second with
  | nil =>
    cases second with
    | nil => exact ⟨rfl, (List.cons_prefix_cons.mp isPrefix).2⟩
    | cons symbol symbols =>
      have same := (List.cons_prefix_cons.mp isPrefix).1
      exact absurd (same ▸ List.mem_cons_self) withoutSecond
  | cons symbol symbols ih =>
    cases second with
    | nil =>
      have same := (List.cons_prefix_cons.mp isPrefix).1
      exact absurd (same ▸ List.mem_cons_self) withoutFirst
    | cons other others =>
      obtain ⟨rfl, rest⟩ := List.cons_prefix_cons.mp isPrefix
      obtain ⟨rfl, inner⟩ := ih (fun member => withoutFirst (List.mem_cons_of_mem _ member))
        (fun member => withoutSecond (List.mem_cons_of_mem _ member)) rest
      exact ⟨rfl, inner⟩

end Separators

section Series

variable {Name : Type*} [LinearOrder Name]

def nextCounter (counter : Name → Option ℕ) (names : List Name) : ℕ :=
  match names.max? with
  | none => 1
  | some latest =>
    match counter latest with
    | some value => value + 1
    | none => 1

/-- Names from which their counter can be read, and which are ordered as their
counters up to a limit. -/
structure Numbering (name : ℕ → Name) (counter : Name → Option ℕ) (limit : ℕ) : Prop where
  counter_name : ∀ value, counter (name value) = some value
  ordered : ∀ {low high}, low < high → high ≤ limit → name low < name high

/-- All names belong to the series, and their counters are within the limit. -/
def Numbered (name : ℕ → Name) (limit : ℕ) (names : List Name) : Prop :=
  ∀ stored ∈ names, ∃ value ≤ limit, stored = name value

variable {name : ℕ → Name} {counter : Name → Option ℕ} {limit : ℕ} {names others : List Name}

theorem Numbering.injective (numbering : Numbering name counter limit) :
    Function.Injective name := by
  intro first second same
  have counters := congrArg counter same
  rw [numbering.counter_name, numbering.counter_name] at counters
  exact Option.some.inj counters

theorem Numbering.le_of_name_le (numbering : Numbering name counter limit)
    {low high : ℕ} (inLimit : low ≤ limit) (nameLe : name low ≤ name high) : low ≤ high := by
  by_contra more
  exact absurd nameLe (not_le_of_gt (numbering.ordered (Nat.lt_of_not_le more) inLimit))

/-- The next counter comes after a stored counter, unless nothing is stored. -/
theorem Numbering.nextCounter_cases (numbering : Numbering name counter limit)
    (numbered : Numbered name limit names) : names = [] ∧ nextCounter counter names = 1 ∨
      ∃ value ≤ limit, name value ∈ names ∧ nextCounter counter names = value + 1 := by
  unfold nextCounter
  cases latest : names.max? with
  | none => exact .inl ⟨List.max?_eq_none_iff.mp latest, rfl⟩
  | some stored =>
    have member := List.max?_mem latest
    obtain ⟨value, inLimit, rfl⟩ := numbered stored member
    refine .inr ⟨value, inLimit, member, ?_⟩
    dsimp only
    rw [numbering.counter_name]

/-- Every stored counter is below the next one. -/
theorem Numbering.lt_nextCounter (numbering : Numbering name counter limit)
    (numbered : Numbered name limit names) {value : ℕ}
    (stored : name value ∈ names) : value < nextCounter counter names := by
  unfold nextCounter
  cases latest : names.max? with
  | none =>
    rw [List.max?_eq_none_iff.mp latest] at stored
    cases stored
  | some greatest =>
    obtain ⟨member, greatestIs⟩ := List.max?_eq_some_iff.mp latest
    obtain ⟨top, inLimit, rfl⟩ := numbered greatest member
    dsimp only
    rw [numbering.counter_name]
    obtain ⟨same, sameIn, sameEq⟩ := numbered _ stored
    obtain rfl := numbering.injective sameEq
    exact Nat.lt_succ_of_le (numbering.le_of_name_le sameIn (greatestIs _ stored))

/-- The next counter does not fall as long as every name is kept or surpassed. -/
theorem Numbering.nextCounter_le (numbering : Numbering name counter limit)
    (numbered : Numbered name limit names) (numberedOthers : Numbered name limit others)
    (surpassed : ∀ stored ∈ names, ∃ other ∈ others, stored ≤ other) :
    nextCounter counter names ≤ nextCounter counter others := by
  have positive : 1 ≤ nextCounter counter others := by
    rcases numbering.nextCounter_cases numberedOthers with
      ⟨_, same⟩ | ⟨_, _, _, same⟩ <;> omega
  rcases numbering.nextCounter_cases numbered with
    ⟨_, same⟩ | ⟨value, inLimit, stored, same⟩
  · rw [same]
    exact positive
  · obtain ⟨other, member, below⟩ := surpassed _ stored
    obtain ⟨kept, keptIn, rfl⟩ := numberedOthers other member
    have valueLe := numbering.le_of_name_le inLimit below
    have keptLt := numbering.lt_nextCounter numberedOthers member
    omega

/-- The next name is later than every name that was stored before. -/
theorem Numbering.next_not_mem (numbering : Numbering name counter limit)
    (numbered : Numbered name limit names) {next : ℕ}
    (later : nextCounter counter names ≤ next) : name next ∉ names := by
  intro stored
  have below := numbering.lt_nextCounter numbered stored
  omega

end Series

end NumberedSeries
