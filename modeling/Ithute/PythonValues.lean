import Ithute.Library.FoldInvariants
import Ithute.Library.LexicographicEncoding
import Mathlib.Data.List.DropRight
import Mathlib.Order.Fin.Basic
import Mathlib.Order.WithBot
import Mathlib.Algebra.Order.Floor.Ring
import Mathlib.Data.Rat.Floor

/-!
# Strings and numbers of the Python services

A Python string is a sequence of code points, lone surrogates included, and
is compared code point by code point.  The native engines see the UTF-8 bytes
of a string up to its first NUL and compare bytes.  This file relates the two
orders.
-/

namespace Ithute

open LexicographicEncoding

/-- A code point of a Python `str`; surrogates are code points too. -/
abbrev CodePoint := Fin 0x110000

instance codePoint_neZero : NeZero 0x110000 := ⟨by decide⟩

abbrev PyStr := List CodePoint

instance : LawfulBEq PyStr := inferInstance

abbrev Byte := Fin 0x100

instance byte_neZero : NeZero 0x100 := ⟨by decide⟩

abbrev Bytes := List Byte

def pyStr (literal : String) : PyStr :=
  literal.toList.map fun character => Fin.ofNat _ character.toNat

/-- `str(value or "")` for an entry that is a string or absent. -/
def strOrEmpty (value : Option PyStr) : PyStr := value.getD []

/-- `str.lower` on the ASCII letters. -/
def asciiLower (text : PyStr) : PyStr :=
  text.map fun point => if 0x41 ≤ point.val ∧ point.val ≤ 0x5A then point + 0x20 else point

def trimEnds (drops : CodePoint → Bool) (text : PyStr) : PyStr :=
  (text.dropWhile drops).rdropWhile drops

/-- `str.isspace` of one character. -/
def isPythonSpace (point : CodePoint) : Bool :=
  decide ((0x9 ≤ point.val ∧ point.val ≤ 0xD) ∨
    (0x1C ≤ point.val ∧ point.val ≤ 0x20) ∨ point.val = 0x85 ∨
    point.val = 0xA0 ∨ point.val = 0x1680 ∨
    (0x2000 ≤ point.val ∧ point.val ≤ 0x200A) ∨ point.val = 0x2028 ∨
    point.val = 0x2029 ∨ point.val = 0x202F ∨ point.val = 0x205F ∨ point.val = 0x3000)

/-- `str.strip`. -/
def pythonStrip (text : PyStr) : PyStr := trimEnds isPythonSpace text

/-- `str.strip` of a text without surrogates. -/
def stripText (text : String) : String :=
  let blank := fun character : Char => isPythonSpace (Fin.ofNat _ character.toNat)
  String.ofList ((text.toList.dropWhile blank).rdropWhile blank)

/-- `str.lower`; only two letters outside ASCII have one inside. -/
def lowerLetter (letter : Char) : List Char :=
  if letter = '\u0130' then ['i', '\u0307']
  else if letter = '\u212A' then ['k']
  else [letter.toLower]

/-- A finite double, taken as the rational it stands for, or one of the
special values. -/
inductive Double where
  | finite (value : ℚ)
  | posInf
  | negInf
  | nan
  deriving DecidableEq

/-- `int(value)` of a rational: rounding towards zero. -/
def truncate (value : ℚ) : ℤ := if value < 0 then ⌈value⌉ else ⌊value⌋

/-- A number-like entry of a Python dict.  For a string only what `int`
makes of it matters; `none` is its `ValueError`. -/
inductive FieldValue where
  | absent
  | integer (value : ℤ)
  | floating (value : Double)
  | text (parsed : Option ℤ)

/-- `int(value or 0)`; `none` is a `TypeError`, `ValueError` or
`OverflowError`. -/
def FieldValue.toInt : FieldValue → Option ℤ
  | .absent => some 0
  | .integer value => some value
  | .floating (.finite value) => some (truncate value)
  | .floating _ => none
  | .text parsed => parsed

inductive JsonValue where
  | null
  | boolean (value : Bool)
  | integer (value : ℤ)
  | floating (value : Double)
  | text (value : String)
  | array (values : List JsonValue)
  | object (entries : List (String × JsonValue))

abbrev JsonObject := List (String × JsonValue)

def presentText (text : Option String) : Option String := text.filter fun text => text ≠ ""

/-- What a commit makes of a column: a session writes what it has changed. -/
def changedColumn {α : Type*} [DecidableEq α] (loaded changed stored : α) : α :=
  if changed = loaded then stored else changed

theorem changedColumn_self {α : Type*} [DecidableEq α] (loaded saved : α) :
    changedColumn loaded saved loaded = saved := by
  unfold changedColumn
  split
  · rename_i same
    exact same.symm
  · rfl

def isSurrogate (point : CodePoint) : Bool := decide (0xD800 ≤ point.val ∧ point.val ≤ 0xDFFF)

def byte (value : ℕ) : Byte := Fin.ofNat 0x100 value

def utf8Bytes (point : CodePoint) : Bytes :=
  if point.val < 0x80 then [byte point.val]
  else if point.val < 0x800 then
    [byte (0xC0 + point.val / 0x40), byte (0x80 + point.val % 0x40)]
  else if point.val < 0x10000 then
    [byte (0xE0 + point.val / 0x1000), byte (0x80 + point.val / 0x40 % 0x40),
      byte (0x80 + point.val % 0x40)]
  else
    [byte (0xF0 + point.val / 0x40000), byte (0x80 + point.val / 0x1000 % 0x40),
      byte (0x80 + point.val / 0x40 % 0x40), byte (0x80 + point.val % 0x40)]

/-- The bytes of a string, whether or not Python would encode it. -/
def utf8 (text : PyStr) : Bytes := text.flatMap utf8Bytes

/-- A string that `str.encode("utf-8")` accepts. -/
def Utf8Encodable (text : PyStr) : Prop := ∀ point ∈ text, isSurrogate point = false

instance (text : PyStr) : Decidable (Utf8Encodable text) :=
  inferInstanceAs (Decidable (∀ point ∈ text, isSurrogate point = false))

/-- `str.encode("utf-8")`; `none` is the `UnicodeEncodeError` for a lone
surrogate. -/
def encodeUtf8 (text : PyStr) : Option Bytes :=
  if Utf8Encodable text then some (utf8 text) else none

theorem encodeUtf8_of_encodable {text : PyStr} (encodable : Utf8Encodable text) :
    encodeUtf8 text = some (utf8 text) :=
  if_pos encodable

theorem mapM_encodeUtf8 {α : Type} (text : α → PyStr) (items : List α) :
    (items.mapM fun item => encodeUtf8 (text item)) =
      if ∀ item ∈ items, Utf8Encodable (text item) then
        some (items.map fun item => utf8 (text item))
      else none :=
  FoldInvariants.mapM_eq_ite (fun _ => rfl) items

theorem byte_lt_byte {low high : ℕ} (lowLt : low < high)
    (bound : high < 0x100) : byte low < byte high := by
  have lowVal : low % 0x100 = low := Nat.mod_eq_of_lt (by omega)
  have highVal : high % 0x100 = high := Nat.mod_eq_of_lt bound
  change low % 0x100 < high % 0x100
  omega

theorem byte_ne_zero {value : ℕ} (positive : 0 < value)
    (bound : value < 0x100) : byte value ≠ 0 := by
  intro same
  have val : value % 0x100 = 0 := congrArg Fin.val same
  omega

private theorem splits_head {low high : ℕ} (lowLt : low < high)
    (bound : high < 0x100) (firstRest secondRest : Bytes) :
    SplitsBelow (byte low :: firstRest) (byte high :: secondRest) :=
  ⟨[], byte low, byte high, firstRest, secondRest, rfl, rfl, byte_lt_byte lowLt bound⟩

private theorem splits_cons {low high : ℕ} (same : low = high)
    {first second : Bytes} (splits : SplitsBelow first second) :
    SplitsBelow (byte low :: first) (byte high :: second) := by
  obtain ⟨common, lowByte, highByte, firstRest, secondRest, rfl, rfl, below⟩ := splits
  subst same
  exact ⟨byte low :: common, lowByte, highByte, firstRest, secondRest, rfl, rfl, below⟩

theorem utf8Bytes_ordered : OrderedCode utf8Bytes where
  nonempty := by
    intro point
    unfold utf8Bytes
    split_ifs <;> simp
  splits := by
    intro low high lowLt
    have below : low.val < high.val := lowLt
    have highBound := high.isLt
    unfold utf8Bytes
    -- Words of different lengths differ in their first byte; words of one
    -- length differ where the code points' base-64 digits first differ.
    split_ifs
    any_goals omega
    · exact splits_head (by omega) (by omega) _ _
    · exact splits_head (by omega) (by omega) _ _
    · exact splits_head (by omega) (by omega) _ _
    · exact splits_head (by omega) (by omega) _ _
    · rcases Nat.lt_or_ge (low.val / 0x40) (high.val / 0x40) with first | same
      · exact splits_head (by omega) (by omega) _ _
      · exact splits_cons (by omega) (splits_head (by omega) (by omega) _ _)
    · exact splits_head (by omega) (by omega) _ _
    · exact splits_head (by omega) (by omega) _ _
    · rcases Nat.lt_or_ge (low.val / 0x1000) (high.val / 0x1000) with
        first | same
      · exact splits_head (by omega) (by omega) _ _
      · refine splits_cons (by omega) ?_
        rcases Nat.lt_or_ge (low.val / 0x40) (high.val / 0x40) with
          second | same'
        · exact splits_head (by omega) (by omega) _ _
        · exact splits_cons (by omega) (splits_head (by omega) (by omega) _ _)
    · exact splits_head (by omega) (by omega) _ _
    · rcases Nat.lt_or_ge (low.val / 0x40000) (high.val / 0x40000) with
        first | same
      · exact splits_head (by omega) (by omega) _ _
      · refine splits_cons (by omega) ?_
        rcases Nat.lt_or_ge (low.val / 0x1000) (high.val / 0x1000) with
          second | same'
        · exact splits_head (by omega) (by omega) _ _
        · refine splits_cons (by omega) ?_
          rcases Nat.lt_or_ge (low.val / 0x40) (high.val / 0x40) with
            third | same''
          · exact splits_head (by omega) (by omega) _ _
          · exact splits_cons (by omega) (splits_head (by omega) (by omega) _ _)

theorem utf8_strictMono : StrictMono utf8 := utf8Bytes_ordered.flatMap_strictMono

theorem zero_not_mem_utf8Bytes {point : CodePoint} (notZero : point ≠ 0) :
    (0 : Byte) ∉ utf8Bytes point := by
  have positive : 0 < point.val := Fin.pos_iff_ne_zero.mpr notZero
  have bound := point.isLt
  have nonzero {value : ℕ} (valuePos : 0 < value) (small : value < 0x100) :
      (0 : Byte) ≠ byte value := (byte_ne_zero valuePos small).symm
  unfold utf8Bytes
  split_ifs <;>
    simp only [List.mem_cons, List.not_mem_nil, or_false, not_or]
  · exact nonzero positive (by omega)
  · exact ⟨nonzero (by omega) (by omega), nonzero (by omega) (by omega)⟩
  · exact ⟨nonzero (by omega) (by omega), nonzero (by omega) (by omega),
      nonzero (by omega) (by omega)⟩
  · exact ⟨nonzero (by omega) (by omega), nonzero (by omega) (by omega),
      nonzero (by omega) (by omega), nonzero (by omega) (by omega)⟩

def cString (bytes : Bytes) : Bytes := cutAt 0 bytes

def beforeNul (text : PyStr) : PyStr := cutAt 0 text

theorem cString_utf8 (text : PyStr) : cString (utf8 text) = utf8 (beforeNul text) :=
  cutAt_flatMap (by decide) (fun _ notZero => zero_not_mem_utf8Bytes notZero) text

def nativeId (text : PyStr) : Bytes := cString (utf8 text)

variable {first second : PyStr}

theorem beforeNul_lt_iff (apart : beforeNul first ≠ beforeNul second) :
    beforeNul first < beforeNul second ↔ first < second :=
  cutAt_lt_iff Fin.zero_le apart

theorem cString_utf8_lt_iff (apart : beforeNul first ≠ beforeNul second) :
    cString (utf8 first) < cString (utf8 second) ↔ first < second := by
  rw [cString_utf8, cString_utf8, utf8_strictMono.lt_iff_lt, beforeNul_lt_iff apart]

theorem cString_utf8_eq_iff : cString (utf8 first) = cString (utf8 second) ↔
      beforeNul first = beforeNul second := by
  rw [cString_utf8, cString_utf8, utf8_strictMono.injective.eq_iff]

end Ithute
