import Ithute.PythonValues

/-!
# JSON texts and timestamps

What `json.dumps` writes without spaces and without ASCII escapes, and what
`datetime.isoformat` writes for a time in UTC.  Texts are lists of
characters.  A time is the number of microseconds since the first day of
year 1.
-/

namespace Ithute

def utf8Length (text : List Char) : ℕ := (text.map Char.utf8Size).sum

@[simp] theorem utf8Length_nil : utf8Length [] = 0 := rfl

@[simp] theorem utf8Length_cons (character : Char) (text : List Char) :
    utf8Length (character :: text) = character.utf8Size + utf8Length text := by
  simp [utf8Length]

@[simp] theorem utf8Length_append (first second : List Char) :
    utf8Length (first ++ second) = utf8Length first + utf8Length second := by
  simp [utf8Length]

def hexDigit (value : ℕ) : Char := Char.ofNat (if value < 10 then 0x30 + value else 0x57 + value)

def jsonCharacter (character : Char) : List Char :=
  if character = Char.ofNat 0x22 ∨ character = Char.ofNat 0x5C then
    [Char.ofNat 0x5C, character]
  else if character.toNat = 0x08 then [Char.ofNat 0x5C, 'b']
  else if character.toNat = 0x09 then [Char.ofNat 0x5C, 't']
  else if character.toNat = 0x0A then [Char.ofNat 0x5C, 'n']
  else if character.toNat = 0x0C then [Char.ofNat 0x5C, 'f']
  else if character.toNat = 0x0D then [Char.ofNat 0x5C, 'r']
  else if character.toNat < 0x20 then
    [Char.ofNat 0x5C, 'u', '0', '0', hexDigit (character.toNat / 16),
      hexDigit (character.toNat % 16)]
  else [character]

def jsonString (text : String) : List Char :=
  Char.ofNat 0x22 :: (text.toList.flatMap jsonCharacter ++ [Char.ofNat 0x22])

def joinTexts : List (List Char) → List Char
  | [] => []
  | [text] => text
  | text :: others => text ++ ',' :: joinTexts others

mutual

/-- `json.dumps` with the separators `","` and `":"` and without ASCII
escapes; the texts of floats are given. -/
def jsonDumps (floatText : Double → List Char) : JsonValue → List Char
  | .null => ['n', 'u', 'l', 'l']
  | .boolean true => ['t', 'r', 'u', 'e']
  | .boolean false => ['f', 'a', 'l', 's', 'e']
  | .integer value => (toString value).toList
  | .floating value => floatText value
  | .text value => jsonString value
  | .array values => '[' :: (joinTexts (jsonDumpsAll floatText values) ++ [']'])
  | .object entries => '{' :: (joinTexts (jsonDumpsEntries floatText entries) ++ ['}'])

def jsonDumpsAll (floatText : Double → List Char) : List JsonValue → List (List Char)
  | [] => []
  | value :: values => jsonDumps floatText value :: jsonDumpsAll floatText values

def jsonDumpsEntries (floatText : Double → List Char) : List (String × JsonValue) → List (List Char)
  | [] => []
  | (key, value) :: entries =>
    (jsonString key ++ ':' :: jsonDumps floatText value) :: jsonDumpsEntries floatText entries

end

theorem utf8Length_jsonCharacter (character : Char) : utf8Length (jsonCharacter character) ≤ 6 := by
  have size := Char.utf8Size_le_four character
  have ascii : ∀ value < 16, (hexDigit value).utf8Size = 1 := by decide
  have mark : (Char.ofNat 0x5C).utf8Size = 1 := rfl
  unfold jsonCharacter
  split
  · simp only [utf8Length_cons, utf8Length_nil, mark]
    omega
  repeat' split
  all_goals simp only [utf8Length_cons, utf8Length_nil, mark]
  all_goals try decide
  · rw [ascii _ (by omega), ascii _ (Nat.mod_lt _ (by decide))]
    decide
  · omega

theorem utf8Length_jsonString (text : String) :
    utf8Length (jsonString text) ≤ 6 * text.length + 2 := by
  have inner : utf8Length (text.toList.flatMap jsonCharacter) ≤ 6 * text.toList.length := by
    induction text.toList with
    | nil => simp
    | cons character rest ih =>
      have one := utf8Length_jsonCharacter character
      rw [List.flatMap_cons, utf8Length_append, List.length_cons]
      omega
  have mark : (Char.ofNat 0x22).utf8Size = 1 := rfl
  rw [String.length_toList] at inner
  unfold jsonString
  simp only [utf8Length_cons, utf8Length_append, utf8Length_nil, mark]
  omega

def decimalField : ℕ → ℕ → List Char
  | 0, _ => []
  | width + 1, value =>
    decimalField width (value / 10) ++ [Char.ofNat (0x30 + value % 10)]

@[simp] theorem length_decimalField (width value : ℕ) :
    (decimalField width value).length = width := by
  induction width generalizing value with
  | zero => rfl
  | succ width ih => simp [decimalField, ih]

def isLeap (year : ℕ) : Bool := decide (year % 4 = 0 ∧ (year % 100 ≠ 0 ∨ year % 400 = 0))

def daysBeforeMonth : List ℕ := [0, 0, 31, 59, 90, 120, 151, 181, 212, 243, 273, 304, 334]

def daysBefore (leap : Bool) (month : ℕ) : ℕ :=
  daysBeforeMonth.getD month 0 + if 2 < month ∧ leap = true then 1 else 0

structure CalendarDate where
  year : ℕ
  month : ℕ
  day : ℕ
  deriving DecidableEq

/-- `date.fromordinal`, with the days counted from 0. -/
def CalendarDate.ofOrdinal (days : ℕ) : CalendarDate :=
  let inCycle := days % 146097
  let centuries := inCycle / 36524
  let inCentury := inCycle % 36524
  let inFour := inCentury % 1461
  let years := inFour / 365
  let inYear := inFour % 365
  let year := days / 146097 * 400 + centuries * 100 + inCentury / 1461 * 4 + years + 1
  if years = 4 ∨ centuries = 4 then
    { year := year - 1, month := 12, day := 31 }
  else
    let leap := isLeap year
    let guess := (inYear + 50) / 32
    let month := if inYear < daysBefore leap guess then guess - 1 else guess
    { year := year
      month := month
      day := inYear - daysBefore leap month + 1 }

example : CalendarDate.ofOrdinal 738944 = { year := 2024, month := 2, day := 29 } := by decide

/-- `datetime.isoformat` of a time in UTC. -/
def isoformat (moment : ℕ) : String :=
  let seconds := moment / 1000000
  let micros := moment % 1000000
  let date := CalendarDate.ofOrdinal (seconds / 86400)
  let clock := seconds % 86400
  String.ofList (decimalField 4 date.year ++ '-' ::
    decimalField 2 date.month ++ '-' :: decimalField 2 date.day ++ 'T' ::
    decimalField 2 (clock / 3600) ++ ':' ::
    decimalField 2 (clock / 60 % 60) ++ ':' :: decimalField 2 (clock % 60) ++
    (if micros = 0 then [] else '.' :: decimalField 6 micros) ++ ['+', '0', '0', ':', '0', '0'])

theorem length_isoformat (moment : ℕ) : (isoformat moment).length ≤ 32 := by
  unfold isoformat
  dsimp only
  rw [String.length_ofList]
  split <;> simp

end Ithute
