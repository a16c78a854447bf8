import Mathlib.Data.List.DropRight
import Mathlib.Data.List.Basic

/-!
# Words of a text

Trimming the ends of a text, and splitting it into words at separators, over
any characters.
-/

namespace Words

variable {α : Type*} {drops blank : α → Bool} {text word rest : List α} {separator : α}

/-- A text without the characters of a kind at both ends. -/
def trim (drops : α → Bool) (text : List α) : List α := (text.dropWhile drops).rdropWhile drops

/-- A text that ends in a character that stays. -/
theorem rdropWhile_eq_self (ends : ∀ last, text.getLast? = some last → drops last = false) :
    text.rdropWhile drops = text := by
  rw [List.rdropWhile_eq_self_iff]
  intro nonempty
  rw [ends _ (List.getLast?_eq_getLast_of_ne_nil nonempty)]
  exact Bool.false_ne_true

theorem dropWhile_eq_self (begins : ∀ first, text.head? = some first → drops first = false) :
    text.dropWhile drops = text := by
  cases text with
  | nil => rfl
  | cons first rest =>
    rw [List.dropWhile_cons_of_neg]
    rw [begins first rfl]
    exact Bool.false_ne_true

theorem trim_eq_self (begins : ∀ first, text.head? = some first → drops first = false)
    (ends : ∀ last, text.getLast? = some last → drops last = false) : trim drops text = text := by
  rw [trim, dropWhile_eq_self begins, rdropWhile_eq_self ends]

/-- What a trimmed end leaves ends in a character that stays. -/
theorem getLast?_rdropWhile {last : α} (ends : (text.rdropWhile drops).getLast? = some last) :
    drops last = false := by
  have nonempty : text.rdropWhile drops ≠ [] := by
    intro empty
    rw [empty] at ends
    cases ends
  have stays := List.rdropWhile_last_not drops text nonempty
  rw [List.getLast?_eq_getLast_of_ne_nil nonempty] at ends
  cases ends
  exact eq_false_of_ne_true stays

theorem head?_dropWhile {first : α} (begins : (text.dropWhile drops).head? = some first) :
    drops first = false := by
  have stays := List.head?_dropWhile_not drops text
  rw [begins] at stays
  exact stays

/-- Trimming the end keeps the beginning. -/
theorem head?_rdropWhile {first : α} (begins : (text.rdropWhile drops).head? = some first) :
    text.head? = some first := by
  obtain ⟨dropped, whole⟩ := List.rdropWhile_prefix drops text
  rw [← whole, List.head?_append, begins]
  rfl

theorem head?_trim {first : α}
    (begins : (trim drops text).head? = some first) : drops first = false :=
  head?_dropWhile (head?_rdropWhile begins)

theorem getLast?_trim {last : α}
    (ends : (trim drops text).getLast? = some last) : drops last = false :=
  getLast?_rdropWhile ends

/-- Trimming twice is trimming once. -/
theorem trim_trim : trim drops (trim drops text) = trim drops text :=
  trim_eq_self (fun _ => head?_trim) fun _ => getLast?_trim

theorem takeWhile_append_trim : text.takeWhile drops ++
    (trim drops text ++ (text.dropWhile drops).rtakeWhile drops) = text := by
  rw [trim, List.rdropWhile_append_rtakeWhile, List.takeWhile_append_dropWhile]

/-- What trimming takes away at both ends. -/
def trimmedEnds (drops : α → Bool) (text : List α) : List α :=
  text.takeWhile drops ++ (text.dropWhile drops).rtakeWhile drops

theorem countP_trim_add (counted : α → Bool) :
    (trim drops text).countP counted + (trimmedEnds drops text).countP counted =
      text.countP counted := by
  conv_rhs => rw [← @takeWhile_append_trim α drops text]
  rw [trimmedEnds, List.countP_append, List.countP_append, List.countP_append, Nat.add_left_comm]

theorem trim_map {β : Type*} (rename : β → α) (text : List β) :
    trim drops (text.map rename) = (trim (drops ∘ rename) text).map rename := by
  rw [trim, trim, List.rdropWhile, List.rdropWhile, List.dropWhile_map, ← List.map_reverse,
    List.dropWhile_map, ← List.map_reverse]

/-- The words between separators. -/
def words (blank : α → Bool) (text : List α) : List (List α) :=
  (text.splitOnP blank).filter fun word => ! word.isEmpty

/-- A word is not empty and has no separator. -/
structure IsWord (blank : α → Bool) (word : List α) : Prop where
  nonempty : word ≠ []
  solid : ∀ character ∈ word, blank character = false

theorem IsWord.append (first : IsWord blank word)
    (second : ∀ character ∈ rest, blank character = false) : IsWord blank (word ++ rest) where
  nonempty := by
    intro empty
    exact first.nonempty (List.append_eq_nil_iff.mp empty).1
  solid character member := by
    rcases List.mem_append.mp member with front | back
    · exact first.solid character front
    · exact second character back

/-- Trimming takes away what surrounds a word. -/
theorem IsWord.trim_surround (isWord : IsWord drops word) {front back : List α}
    (blankFront : ∀ character ∈ front, drops character = true)
    (blankBack : ∀ character ∈ back, drops character = true) :
    trim drops (front ++ word ++ back) = word := by
  have begins : (word ++ back).dropWhile drops = word ++ back := by
    apply dropWhile_eq_self
    intro first isFirst
    rw [List.head?_append_of_ne_nil _ isWord.nonempty] at isFirst
    exact isWord.solid first (List.mem_of_mem_head? isFirst)
  have ends : word.rdropWhile drops = word := rdropWhile_eq_self fun last isLast =>
    isWord.solid last (List.mem_of_mem_getLast? isLast)
  rw [trim, List.append_assoc, List.dropWhile_append_of_pos blankFront, begins, List.rdropWhile,
    List.reverse_append, List.dropWhile_append_of_pos]
  · exact ends
  · exact fun character member => blankBack character (List.mem_reverse.mp member)

/-- A word alone. -/
theorem IsWord.words_self (isWord : IsWord blank word) : words blank word = [word] := by
  rw [words, List.splitOnP_eq_singleton isWord.solid]
  simp [isWord.nonempty]

theorem IsWord.words_append (isWord : IsWord blank word) (separates : blank separator = true) :
    words blank (word ++ separator :: rest) = word :: words blank rest := by
  rw [words, List.splitOnP_append_cons_of_forall_mem isWord.solid separator separates]
  simp [words, isWord.nonempty]

theorem exists_mem_splitOnP_iff {character : α} :
    (∃ piece ∈ text.splitOnP blank, character ∈ piece) ↔
      character ∈ text ∧ blank character = false := by
  induction text with
  | nil => simp
  | cons first text ih =>
    rw [List.splitOnP_cons_eq_if_modifyHead]
    split_ifs with separates
    · simp only [List.mem_cons, exists_eq_or_imp, List.not_mem_nil, false_or, ih]
      constructor
      · exact fun found => ⟨Or.inr found.1, found.2⟩
      · rintro ⟨rfl | later, solid⟩
        · rw [separates] at solid
          cases solid
        · exact ⟨later, solid⟩
    · obtain ⟨head, tail, pieces⟩ := List.exists_cons_of_ne_nil (List.splitOnP_ne_nil blank text)
      rw [pieces] at ih ⊢
      simp only [List.modifyHead_cons, List.mem_cons, exists_eq_or_imp] at ih ⊢
      rw [or_assoc, ih]
      constructor
      · rintro (rfl | found)
        · exact ⟨Or.inl rfl, eq_false_of_ne_true separates⟩
        · exact ⟨Or.inr found.1, found.2⟩
      · rintro ⟨rfl | later, solid⟩
        · exact Or.inl rfl
        · exact Or.inr ⟨later, solid⟩

/-- The first separator parts a text in one way only. -/
theorem append_separator_inj {front otherFront otherRest : List α}
    (solid : ∀ character ∈ front, blank character = false)
    (otherSolid : ∀ character ∈ otherFront, blank character = false)
    (separates : blank separator = true)
    (same : front ++ separator :: rest = otherFront ++ separator :: otherRest) :
    front = otherFront ∧ rest = otherRest := by
  induction front generalizing otherFront with
  | nil =>
    cases otherFront with
    | nil => exact ⟨rfl, (List.cons.inj same).2⟩
    | cons character otherFront =>
      have filled := otherSolid character List.mem_cons_self
      rw [← (List.cons.inj same).1, separates] at filled
      cases filled
  | cons character front ih =>
    cases otherFront with
    | nil =>
      have filled := solid character List.mem_cons_self
      rw [(List.cons.inj same).1, separates] at filled
      cases filled
    | cons other otherFront =>
      obtain ⟨rfl, tails⟩ := List.cons.inj same
      obtain ⟨rfl, rests⟩ := ih (fun character member =>
          solid character (List.mem_cons_of_mem _ member))
        (fun character member => otherSolid character (List.mem_cons_of_mem _ member)) tails
      exact ⟨rfl, rests⟩

end Words
