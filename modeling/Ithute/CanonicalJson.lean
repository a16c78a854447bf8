import Ithute.PythonJson
import Mathlib

/-!
# Canonical JSON

What `json.dumps` writes with sorted keys.  Where one value ends can be seen
from its text, so different documents have different texts.
-/

namespace Ithute

/-- The characters that begin or end anything but a number or a constant. -/
def jsonMarks : List Char := [Char.ofNat 0x22, '[', ']', '{', '}', ',']

/-- A number, a truth value or `null`, by its text. -/
@[ext]
structure JsonScalar where
  text : List Char
  text_ne_nil : text ≠ []
  plain : ∀ character ∈ text, character ∉ jsonMarks

/-- A JSON document.  The keys of an object are different. -/
inductive JsonDocument where
  | scalar (value : JsonScalar)
  | text (value : String)
  | array (elements : List JsonDocument)
  | object (entries : List (String × JsonDocument))

namespace JsonDocument

mutual

/-- `json.dumps` with the separators `","` and `":"` and without ASCII
escapes. -/
def dumps : JsonDocument → List Char
  | .scalar value => value.text
  | .text value => jsonString value
  | .array elements => '[' :: (joinTexts (dumpsAll elements) ++ [']'])
  | .object entries => '{' :: (joinTexts (dumpsEntries entries) ++ ['}'])

def dumpsAll : List JsonDocument → List (List Char)
  | [] => []
  | element :: elements => element.dumps :: dumpsAll elements

def dumpsEntries : List (String × JsonDocument) → List (List Char)
  | [] => []
  | (key, value) :: entries => (jsonString key ++ ':' :: value.dumps) :: dumpsEntries entries

end

mutual

/-- The document with the entries of each object in the order of their keys. -/
def sortKeys : JsonDocument → JsonDocument
  | .scalar value => .scalar value
  | .text value => .text value
  | .array elements => .array (sortKeysAll elements)
  | .object entries => .object ((sortKeysEntries entries).insertionSort fun first second =>
    first.1 ≤ second.1)

def sortKeysAll : List JsonDocument → List JsonDocument
  | [] => []
  | element :: elements => element.sortKeys :: sortKeysAll elements

def sortKeysEntries : List (String × JsonDocument) → List (String × JsonDocument)
  | [] => []
  | (key, value) :: entries => (key, value.sortKeys) :: sortKeysEntries entries

end

end JsonDocument

theorem mem_intRepr {value : ℤ} {character : Char} (member : character ∈ value.repr.toList) :
    character = '-' ∨ character.isDigit = true := by
  have natural {number : ℕ} (inside : character ∈ number.repr.toList) : character.isDigit = true := by
    unfold Nat.repr at inside
    rw [String.toList_ofList] at inside
    exact Nat.isDigit_of_mem_toDigits (by decide) (by decide) inside
  cases value with
  | ofNat number => exact .inr (natural member)
  | negSucc number =>
    change character ∈ ("-" ++ Nat.repr (number + 1)).toList at member
    rw [String.toList_append] at member
    rcases List.mem_append.mp member with sign | digits
    · exact .inl (List.mem_singleton.mp sign)
    · exact .inr (natural digits)

theorem intRepr_ne_nil (value : ℤ) : value.repr.toList ≠ [] := by
  intro none
  cases value with
  | ofNat number => exact Nat.repr_ne_empty (String.toList_eq_nil_iff.mp none)
  | negSucc number =>
    have joined : ("-" ++ Nat.repr (number + 1)).toList = [] := none
    rw [String.toList_append] at joined
    exact absurd joined (List.cons_ne_nil _ _)

theorem intRepr_plain (value : ℤ) : ∀ character ∈ value.repr.toList, character ∉ jsonMarks := by
  intro character member isMark
  have marks : ∀ mark ∈ jsonMarks, ¬ (mark = '-' ∨ mark.isDigit = true) := by
    simp [jsonMarks]
  exact marks character isMark (mem_intRepr member)

namespace JsonDocument

def ofInt (value : ℤ) : JsonDocument :=
  .scalar
    { text := value.repr.toList
      text_ne_nil := intRepr_ne_nil value
      plain := intRepr_plain value }

theorem null_plain : ∀ character ∈ ['n', 'u', 'l', 'l'], character ∉ jsonMarks := by simp [jsonMarks]

theorem true_plain : ∀ character ∈ ['t', 'r', 'u', 'e'], character ∉ jsonMarks := by simp [jsonMarks]

theorem false_plain : ∀ character ∈ ['f', 'a', 'l', 's', 'e'], character ∉ jsonMarks := by simp [jsonMarks]

def ofBool : Bool → JsonDocument
  | true => .scalar ⟨_, List.cons_ne_nil _ _, true_plain⟩
  | false => .scalar ⟨_, List.cons_ne_nil _ _, false_plain⟩

def ofText : Option String → JsonDocument
  | none => .scalar ⟨_, List.cons_ne_nil _ _, null_plain⟩
  | some value => .text value

theorem ofInt_injective {first second : ℤ} (same : ofInt first = ofInt second) : first = second := by
  injection same with scalars
  exact Int.repr_injective (String.toList_inj.mp (congrArg JsonScalar.text scalars))

theorem ofBool_injective {first second : Bool} (same : ofBool first = ofBool second) :
    first = second := by
  cases first <;> cases second <;> first | rfl | simp [ofBool] at same

theorem ofText_injective {first second : Option String} (same : ofText first = ofText second) :
    first = second := by
  cases first <;> cases second <;> simp_all [ofText]

end JsonDocument

def hexValue (digit : Char) : ℕ :=
  if digit.toNat < 0x3A then digit.toNat - 0x30 else digit.toNat - 0x57

def readCharacter : List Char → Char × List Char
  | [] => (Char.ofNat 0, [])
  | first :: rest =>
    if first ≠ Char.ofNat 0x5C then (first, rest)
    else
      match rest with
      | 'b' :: rest => (Char.ofNat 0x08, rest)
      | 't' :: rest => (Char.ofNat 0x09, rest)
      | 'n' :: rest => (Char.ofNat 0x0A, rest)
      | 'f' :: rest => (Char.ofNat 0x0C, rest)
      | 'r' :: rest => (Char.ofNat 0x0D, rest)
      | 'u' :: _ :: _ :: high :: low :: rest =>
        (Char.ofNat (16 * hexValue high + hexValue low), rest)
      | other :: rest => (other, rest)
      | [] => (first, [])

theorem readCharacter_jsonCharacter (character : Char) (rest : List Char) :
    readCharacter (jsonCharacter character ++ rest) = (character, rest) := by
  have hex : ∀ value < 16, hexValue (hexDigit value) = value := by decide
  have same {code : ℕ} (is : character.toNat = code) : Char.ofNat code = character := by
    rw [← is, Char.ofNat_toNat]
  unfold jsonCharacter
  split_ifs with quoted backspace tab newline feed carriage control
  · rcases quoted with rfl | rfl <;> rfl
  · exact Prod.ext (same backspace) rfl
  · exact Prod.ext (same tab) rfl
  · exact Prod.ext (same newline) rfl
  · exact Prod.ext (same feed) rfl
  · exact Prod.ext (same carriage) rfl
  · refine Prod.ext ?_ rfl
    change Char.ofNat (16 * hexValue (hexDigit (character.toNat / 16)) +
      hexValue (hexDigit (character.toNat % 16))) = character
    rw [hex _ (by omega), hex _ (by omega)]
    exact same (by omega)
  · exact if_pos fun escape => quoted (.inr escape)

theorem jsonCharacter_head (character : Char) :
    ∃ first rest, jsonCharacter character = first :: rest ∧ first ≠ Char.ofNat 0x22 := by
  unfold jsonCharacter
  split_ifs with quoted
  · exact ⟨_, _, rfl, by decide⟩
  · exact ⟨_, _, rfl, by decide⟩
  · exact ⟨_, _, rfl, by decide⟩
  · exact ⟨_, _, rfl, by decide⟩
  · exact ⟨_, _, rfl, by decide⟩
  · exact ⟨_, _, rfl, by decide⟩
  · exact ⟨_, _, rfl, by decide⟩
  · exact ⟨_, _, rfl, fun quote => quoted (.inl quote)⟩

theorem jsonString_append_inj {first second : String} {rest after : List Char}
    (same : jsonString first ++ rest = jsonString second ++ after) :
    first = second ∧ rest = after := by
  have characters (xs ys : List Char)
      (equal : xs.flatMap jsonCharacter ++ Char.ofNat 0x22 :: rest =
        ys.flatMap jsonCharacter ++ Char.ofNat 0x22 :: after) : xs = ys ∧ rest = after := by
    induction xs generalizing ys with
    | nil =>
      cases ys with
      | nil => exact ⟨rfl, (List.cons.inj equal).2⟩
      | cons y ys =>
        obtain ⟨head, tail, starts, other⟩ := jsonCharacter_head y
        rw [List.flatMap_cons, starts] at equal
        exact absurd (List.cons.inj equal).1.symm other
    | cons x xs ih =>
      cases ys with
      | nil =>
        obtain ⟨head, tail, starts, other⟩ := jsonCharacter_head x
        rw [List.flatMap_cons, starts] at equal
        exact absurd (List.cons.inj equal).1 other
      | cons y ys =>
        rw [List.flatMap_cons, List.flatMap_cons, List.append_assoc, List.append_assoc] at equal
        have read := congrArg readCharacter equal
        rw [readCharacter_jsonCharacter, readCharacter_jsonCharacter] at read
        obtain ⟨rfl, tails⟩ := Prod.mk.inj read
        obtain ⟨rfl, rests⟩ := ih ys tails
        exact ⟨rfl, rests⟩
  unfold jsonString at same
  simp only [List.cons_append, List.append_assoc, List.nil_append, List.cons.injEq, true_and]
    at same
  obtain ⟨equal, rests⟩ := characters _ _ same
  exact ⟨String.toList_inj.mp equal, rests⟩

def EndsValue (rest : List Char) : Prop := ∀ character ∈ rest.head?, character ∈ [',', ']', '}']

theorem plain_append_inj {first second rest after : List Char}
    (firstPlain : ∀ character ∈ first, character ∉ jsonMarks)
    (secondPlain : ∀ character ∈ second, character ∉ jsonMarks)
    (ends : EndsValue rest) (alsoEnds : EndsValue after)
    (same : first ++ rest = second ++ after) : first = second ∧ rest = after := by
  have marks : ∀ character ∈ [',', ']', '}'], character ∈ jsonMarks := by simp [jsonMarks]
  induction first generalizing second with
  | nil =>
    cases second with
    | nil => exact ⟨rfl, same⟩
    | cons character second =>
      have isHead : character ∈ rest.head? := by
        rw [show rest = _ from same]
        rfl
      exact absurd (marks _ (ends character isHead)) (secondPlain character List.mem_cons_self)
  | cons character first ih =>
    cases second with
    | nil =>
      have isHead : character ∈ after.head? := by
        rw [show after = _ from same.symm]
        rfl
      exact absurd (marks _ (alsoEnds character isHead)) (firstPlain character List.mem_cons_self)
    | cons other second =>
      obtain ⟨rfl, tails⟩ := List.cons.inj same
      obtain ⟨rfl, rests⟩ := ih (fun one member => firstPlain one (List.mem_cons_of_mem _ member))
        (fun one member => secondPlain one (List.mem_cons_of_mem _ member)) tails
      exact ⟨rfl, rests⟩

theorem joinTexts_append_inj {α : Type} {text : α → List Char} {close : Char}
    (isClose : close ∈ [']', '}']) (starts : ∀ x rest after, text x ++ rest ≠ close :: after)
    {elements others : List α} {rest after : List Char}
    (each : ∀ x ∈ elements, ∀ y rest after, EndsValue rest → EndsValue after →
      text x ++ rest = text y ++ after → x = y ∧ rest = after)
    (same : joinTexts (elements.map text) ++ close :: rest =
      joinTexts (others.map text) ++ close :: after) : elements = others ∧ rest = after := by
  -- what follows the first text
  let following (elements : List α) (rest : List Char) : List Char :=
    match elements with
    | [] => close :: rest
    | _ :: _ => ',' :: (joinTexts (elements.map text) ++ close :: rest)
  have first (x : α) (elements : List α) (rest : List Char) :
      joinTexts ((x :: elements).map text) ++ close :: rest = text x ++ following elements rest := by
    cases elements with
    | nil => rfl
    | cons y elements => exact List.append_assoc _ _ _
  have ends (elements : List α) (rest : List Char) : EndsValue (following elements rest) := by
    cases elements with
    | nil =>
      rintro character ⟨⟩
      exact List.mem_cons_of_mem _ isClose
    | cons y elements =>
      rintro character ⟨⟩
      exact List.mem_cons_self
  have noComma : close ≠ ',' := by
    rintro rfl
    exact absurd isClose (by decide)
  induction elements generalizing others with
  | nil =>
    cases others with
    | nil => exact ⟨rfl, (List.cons.inj same).2⟩
    | cons y others => exact absurd ((first y others after).symm.trans same.symm) (starts _ _ _)
  | cons x elements ih =>
    cases others with
    | nil => exact absurd ((first x elements rest).symm.trans same) (starts _ _ _)
    | cons y others =>
      rw [first, first] at same
      obtain ⟨rfl, tails⟩ := each x List.mem_cons_self y _ _ (ends _ _) (ends _ _) same
      cases elements with
      | nil =>
        cases others with
        | nil => exact ⟨rfl, (List.cons.inj tails).2⟩
        | cons z others => exact absurd (List.cons.inj tails).1 noComma
      | cons z elements =>
        cases others with
        | nil => exact absurd (List.cons.inj tails).1.symm noComma
        | cons z' others =>
          obtain ⟨same, rests⟩ := ih (fun one member => each one (List.mem_cons_of_mem _ member))
            (List.cons.inj tails).2
          exact ⟨same ▸ rfl, rests⟩

namespace JsonDocument

/-- The character that begins anything but a number or a constant. -/
def mark : JsonDocument → Option Char
  | .scalar _ => none
  | .text _ => some (Char.ofNat 0x22)
  | .array _ => some '['
  | .object _ => some '{'

theorem mark_dumps (document : JsonDocument) (rest : List Char) :
    (document.dumps ++ rest).head?.filter (fun first => decide (first ∈ jsonMarks)) =
      document.mark := by
  cases document with
  | text value => rfl
  | array elements => rfl
  | object entries => rfl
  | scalar value =>
    cases isText : value.text with
    | nil => exact absurd isText value.text_ne_nil
    | cons first others =>
      have plain := value.plain first (isText ▸ List.mem_cons_self)
      unfold dumps
      rw [isText, List.cons_append, List.head?_cons, Option.filter_some, decide_eq_false plain]
      rfl

theorem dumps_starts {close : Char} (isClose : close ∈ [']', '}']) (document : JsonDocument)
    (rest after : List Char) : document.dumps ++ rest ≠ close :: after := by
  intro same
  have isMark := mark_dumps document rest
  have marks : ∀ one ∈ [']', '}'], one ∈ jsonMarks := by simp [jsonMarks]
  have listed := marks close isClose
  rw [same, List.head?_cons, Option.filter_some, decide_eq_true listed] at isMark
  cases document with
  | scalar value => cases isMark
  | _ =>
    cases isMark
    exact absurd isClose (by decide)

def entryText (entry : String × JsonDocument) : List Char := jsonString entry.1 ++ ':' :: entry.2.dumps

theorem dumpsAll_eq (elements : List JsonDocument) : dumpsAll elements = elements.map dumps := by
  induction elements with
  | nil => rfl
  | cons element elements ih => rw [dumpsAll, ih, List.map_cons]

theorem dumpsEntries_eq (entries : List (String × JsonDocument)) :
    dumpsEntries entries = entries.map entryText := by
  induction entries with
  | nil => rfl
  | cons entry entries ih =>
    rw [dumpsEntries, ih, List.map_cons]
    rfl

theorem mark_eq {first second : JsonDocument} {rest after : List Char}
    (same : first.dumps ++ rest = second.dumps ++ after) : first.mark = second.mark := by
  rw [← mark_dumps first rest, same, mark_dumps]

theorem dumps_append_inj : (first second : JsonDocument) → (rest after : List Char) →
    EndsValue rest → EndsValue after → first.dumps ++ rest = second.dumps ++ after →
      first = second ∧ rest = after
  | .scalar value, second, rest, after, ends, alsoEnds, same => by
    have marks := mark_eq same
    cases second with
    | scalar other =>
      obtain ⟨equal, rests⟩ := plain_append_inj value.plain other.plain ends alsoEnds same
      exact ⟨congrArg scalar (JsonScalar.ext equal), rests⟩
    | _ => simp [mark] at marks
  | .text value, second, rest, after, ends, alsoEnds, same => by
    have marks := mark_eq same
    cases second with
    | text other =>
      obtain ⟨rfl, rests⟩ := jsonString_append_inj same
      exact ⟨rfl, rests⟩
    | _ => simp [mark] at marks
  | .array elements, second, rest, after, ends, alsoEnds, same => by
    have marks := mark_eq same
    cases second with
    | array others =>
      unfold dumps at same
      rw [dumpsAll_eq, dumpsAll_eq, List.cons_append, List.cons_append, List.append_assoc,
        List.append_assoc] at same
      obtain ⟨rfl, rests⟩ := joinTexts_append_inj (by decide) (dumps_starts (by decide))
        (fun element member => dumps_append_inj element) (List.cons.inj same).2
      exact ⟨rfl, rests⟩
    | _ => simp [mark] at marks
  | .object entries, second, rest, after, ends, alsoEnds, same => by
    have marks := mark_eq same
    cases second with
    | object others =>
      have each : ∀ entry ∈ entries, ∀ other rest after, EndsValue rest → EndsValue after →
          entryText entry ++ rest = entryText other ++ after → entry = other ∧ rest = after := by
        rintro ⟨key, value⟩ member other rest after ends alsoEnds equal
        unfold entryText at equal
        rw [List.append_assoc, List.append_assoc] at equal
        obtain ⟨keys, values⟩ := jsonString_append_inj equal
        obtain ⟨documents, rests⟩ := dumps_append_inj value other.2 rest after ends alsoEnds
          (List.cons.inj values).2
        exact ⟨Prod.ext keys documents, rests⟩
      unfold dumps at same
      rw [dumpsEntries_eq, dumpsEntries_eq, List.cons_append, List.cons_append, List.append_assoc,
        List.append_assoc] at same
      obtain ⟨rfl, rests⟩ := joinTexts_append_inj (by decide)
        (fun entry rest after equal => absurd (List.cons.inj equal).1 (by decide)) each
        (List.cons.inj same).2
      exact ⟨rfl, rests⟩
    | _ => simp [mark] at marks
termination_by first => sizeOf first
decreasing_by
  · have smaller := List.sizeOf_lt_of_mem member
    rw [array.sizeOf_spec]
    omega
  · have smaller := List.sizeOf_lt_of_mem member
    rw [Prod.mk.sizeOf_spec] at smaller
    rw [object.sizeOf_spec]
    omega

theorem dumps_injective {first second : JsonDocument} (same : first.dumps = second.dumps) :
    first = second := by
  have ends : EndsValue [] := fun _ none => absurd none (by simp)
  exact (dumps_append_inj first second [] [] ends ends (congrArg (· ++ []) same)).1

end JsonDocument

end Ithute
