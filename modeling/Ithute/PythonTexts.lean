import Ithute.PythonValues
import Ithute.Library.Words

/-!
# Texts that the services normalise

White space, small letters and numbers of Python texts, as sequences of
characters.  What the Unicode tables decide is a parameter with the laws of
its documentation.
-/

namespace Ithute

open Words

namespace Texts

abbrev Text := List Char

/-- `str.isspace` of one character. -/
def isSpaceMark (character : Char) : Bool := isPythonSpace (Fin.ofNat _ character.toNat)

def strip (text : Text) : Text := trim isSpaceMark text

/-- `str.rstrip(".")`. -/
def rstripDot (text : Text) : Text := text.rdropWhile (· = '.')

/-- `str.split()`. -/
def splitBlanks (text : Text) : List Text := words isSpaceMark text

def hostCharacter (character : Char) : Bool :=
  ('a' ≤ character && character ≤ 'z') || ('0' ≤ character && character ≤ '9') || character = '-' ||
    character = '_' || character = '.'

/-- `str` of an integer. -/
def decimal (number : ℤ) : Text := (toString number).toList

/-- `str.lower`, `str.upper` and `int`.  Small letters are their own small
letters, and neither a dot nor a blank at an end of a text comes from another
character. -/
structure PythonText where
  lower : Text → Text
  upper : Text → Text
  int : Text → Option ℤ
  lower_lower : ∀ text, lower (lower text) = lower text
  lower_append : ∀ front back, lower front = front → lower back = back →
    lower (front ++ back) = front ++ back
  lower_host : ∀ text, text.all hostCharacter = true → lower text = text
  lower_head : ∀ text first, (lower text).head? = some first →
    isSpaceMark first = true ∨ first = '.' → text.head? = some first
  lower_last : ∀ text last, (lower text).getLast? = some last →
    isSpaceMark last = true ∨ last = '.' → text.getLast? = some last
  upper_capital : ∀ text, text.all Char.isUpper = true → upper text = text
  int_decimal : ∀ number, int (decimal number) = some number

variable {text word : Text}

theorem strip_strip : strip (strip text) = strip text := trim_trim

theorem rstripDot_eq_self (ends : text.getLast? ≠ some '.') : rstripDot text = text := by
  refine rdropWhile_eq_self fun last isLast => ?_
  refine decide_eq_false ?_
  rintro rfl
  exact ends isLast

theorem getLast?_rstripDot : (rstripDot text).getLast? ≠ some '.' := by
  intro ends
  have stays := getLast?_rdropWhile ends
  simp at stays

theorem rstripDot_append_dot : rstripDot (text ++ ['.']) = rstripDot text :=
  List.rdropWhile_concat_pos _ text '.' (decide_eq_true rfl)

variable {character : Char}

theorem isSpaceMark_of_isDigit (digit : character.isDigit = true) :
    isSpaceMark character = false := by
  simp only [Char.isDigit, Bool.and_eq_true, decide_eq_true_eq] at digit
  have low : 48 ≤ character.toNat := digit.1
  have high : character.toNat ≤ 57 := digit.2
  have value : (Fin.ofNat 0x110000 character.toNat).val = character.toNat :=
    Nat.mod_eq_of_lt (by omega)
  simp only [isSpaceMark, isPythonSpace, value, decide_eq_false_iff_not]
  omega

variable (number : ℕ)

theorem decimal_ofNat : decimal number = Nat.toDigits 10 number := by
  change (toString (Int.ofNat number)).toList = _
  change (toString number).toList = _
  rw [Nat.toString_eq_repr, Nat.toList_repr]

theorem decimal_negSucc : decimal (Int.negSucc number) = '-' :: Nat.toDigits 10 (number + 1) := by
  change ("-" ++ (Nat.succ number).repr).toList = _
  rw [String.toList_append, Nat.toList_repr]
  rfl

theorem isWord_decimal : IsWord isSpaceMark (decimal number) := by
  rw [decimal_ofNat]
  constructor
  · exact Nat.toDigits_ne_nil
  · intro character member
    exact isSpaceMark_of_isDigit (Nat.isDigit_of_mem_toDigits (by decide) (by decide) member)

/-- `int` of ASCII digits. -/
def asciiNumber (digits : Text) : Option ℤ :=
  if ! digits.isEmpty && digits.all Char.isDigit then
    some (Nat.ofDigitChars 10 digits 0)
  else none

def asciiInt (text : Text) : Option ℤ :=
  match text with
  | '-' :: digits => (asciiNumber digits).map fun number => -number
  | digits => asciiNumber digits

theorem toLower_eq_or (character : Char) : character.toLower = character ∨
    (97 ≤ character.toLower.toNat ∧ character.toLower.toNat ≤ 122) := by
  delta Char.toLower
  split
  · rename_i capital
    have low : 65 ≤ character.toNat := capital.1
    have high : character.toNat ≤ 90 := capital.2
    have value : (character.val + 32).toNat = character.toNat + 32 := by
      rw [UInt32.toNat_add, Char.toNat_val]
      change (character.toNat + 32) % 2 ^ 32 = _
      omega
    right
    change 97 ≤ (character.val + 32).toNat ∧ (character.val + 32).toNat ≤ 122
    omega
  · exact Or.inl rfl

theorem toLower_eq_self
    (small : ¬ (65 ≤ character.toNat ∧ character.toNat ≤ 90)) : character.toLower = character := by
  delta Char.toLower
  split
  · rename_i capital
    exact absurd ⟨capital.1, capital.2⟩ small
  · rfl

theorem asciiNumber_toDigits : asciiNumber (Nat.toDigits 10 number) = some (number : ℤ) := by
  have digits : (Nat.toDigits 10 number).all Char.isDigit = true := by
    rw [List.all_eq_true]
    exact fun character member => Nat.isDigit_of_mem_toDigits (by decide) (by decide) member
  simp [asciiNumber, digits, Nat.toDigits_ne_nil, Nat.ofDigitChars_ten_toDigits]

theorem asciiInt_decimal (number : ℤ) : asciiInt (decimal number) = some number := by
  cases number with
  | ofNat number =>
    change asciiInt (decimal number) = some (number : ℤ)
    rw [decimal_ofNat, asciiInt]
    · exact asciiNumber_toDigits number
    · intro digits impossible
      have digit : '-' ∈ Nat.toDigits 10 number := by
        rw [impossible]
        exact List.mem_cons_self
      have isDigit := Nat.isDigit_of_mem_toDigits (by decide) (by decide) digit
      cases isDigit
  | negSucc number =>
    rw [decimal_negSucc, asciiInt, asciiNumber_toDigits]
    rfl

theorem isSpaceMark_of_letter
    (low : 97 ≤ character.toNat) (high : character.toNat ≤ 122) : isSpaceMark character = false := by
  have value : (Fin.ofNat 0x110000 character.toNat).val = character.toNat :=
    Nat.mod_eq_of_lt (by omega)
  simp only [isSpaceMark, isPythonSpace, value, decide_eq_false_iff_not]
  omega

theorem eq_of_toLower {ends : Char} (is : character.toLower = ends)
    (mark : isSpaceMark ends = true ∨ ends = '.') : character = ends := by
  rcases toLower_eq_or character with same | ⟨low, high⟩
  · rw [← same, is]
  · rw [is] at low high
    rcases mark with blank | rfl
    · rw [isSpaceMark_of_letter low high] at blank
      cases blank
    · simp at low

theorem toLower_of_host (host : hostCharacter character = true) :
    character.toLower = character := by
  apply toLower_eq_self
  rintro ⟨low, high⟩
  simp only [hostCharacter, Bool.or_eq_true, Bool.and_eq_true, decide_eq_true_eq] at host
  rcases host with (((⟨small, _⟩ | ⟨_, digit⟩) | rfl) | rfl) | rfl
  · have : 97 ≤ character.toNat := small
    omega
  · have : character.toNat ≤ 57 := digit
    omega
  · simp at low
  · simp at high
  · simp at low

theorem toUpper_of_isUpper
    (capital : character.isUpper = true) : character.toUpper = character := by
  delta Char.isUpper at capital
  rw [decide_eq_true_eq] at capital
  have high : character.toNat ≤ 90 := capital.2
  delta Char.toUpper
  split
  · rename_i small
    have low : 97 ≤ character.toNat := small.1
    omega
  · rfl

def asciiText : PythonText where
  lower text := text.map Char.toLower
  upper text := text.map Char.toUpper
  int := asciiInt
  lower_lower text := by
    rw [List.map_map]
    refine List.map_congr_left fun character _ => ?_
    rcases toLower_eq_or character with same | ⟨low, high⟩
    · exact congrArg Char.toLower same
    · exact toLower_eq_self (by omega)
  lower_append front back frontSmall backSmall := by rw [List.map_append, frontSmall, backSmall]
  lower_host text host := by
    refine (List.map_congr_left fun character member => ?_).trans (List.map_id _)
    exact toLower_of_host (List.all_eq_true.mp host character member)
  lower_head text first begins mark := by
    rw [List.head?_map] at begins
    obtain ⟨character, isHead, small⟩ := Option.map_eq_some_iff.mp begins
    rw [isHead, eq_of_toLower small mark]
  lower_last text last ends mark := by
    rw [List.getLast?_map] at ends
    obtain ⟨character, isLast, small⟩ := Option.map_eq_some_iff.mp ends
    rw [isLast, eq_of_toLower small mark]
  upper_capital text capital := by
    refine (List.map_congr_left fun character member => ?_).trans (List.map_id _)
    exact toUpper_of_isUpper (List.all_eq_true.mp capital character member)
  int_decimal := asciiInt_decimal
end Texts

end Ithute
