import Mathlib.Data.List.Forall2

/-!
# Rows of owners

A table holds the rows of several owners.  A change that writes the rows of
one owner keeps every row of the others, and all keys and owners.  Such
changes compose, and what they keep can be looked up.
-/

namespace OwnedRows

variable {α Key Owner : Type*} {key : α → Key} {owner : α → Owner}
variable {who : Owner} {before middle after : List α} {row : α}

/-- A row is kept with its key and its owner, or as it is when it belongs to
somebody else. -/
structure KeptRow (key : α → Key) (owner : α → Owner) (who : Owner) (before after : α) : Prop where
  key_eq : key after = key before
  owner_eq : owner after = owner before
  other : owner before ≠ who → after = before

/-- The rows of one owner are written. -/
def ChangesOnly (key : α → Key) (owner : α → Owner) (who : Owner) (before after : List α) : Prop :=
  List.Forall₂ (KeptRow key owner who) before after

theorem KeptRow.refl (row : α) : KeptRow key owner who row row := ⟨rfl, rfl, fun _ => rfl⟩

theorem KeptRow.trans {first second third : α} (here : KeptRow key owner who first second)
    (there : KeptRow key owner who second third) : KeptRow key owner who first third := by
  refine ⟨there.key_eq.trans here.key_eq, there.owner_eq.trans here.owner_eq, ?_⟩
  intro other
  have same := here.other other
  rw [← same]
  exact there.other (by rwa [same])

namespace ChangesOnly

theorem refl (rows : List α) : ChangesOnly key owner who rows rows := by
  induction rows with
  | nil => exact .nil
  | cons row rows ih => exact .cons (.refl row) ih

theorem trans (first : ChangesOnly key owner who before middle)
    (second : ChangesOnly key owner who middle after) : ChangesOnly key owner who before after := by
  induction first generalizing after with
  | nil => exact second
  | cons here rest ih =>
    cases second with
    | cons there later => exact .cons (here.trans there) (ih later)

/-- A write that keeps each row of the table. -/
theorem map {write : α → α} (kept : ∀ row ∈ before, KeptRow key owner who row (write row)) :
    ChangesOnly key owner who before (before.map write) := by
  induction before with
  | nil => exact .nil
  | cons row rows ih =>
    refine .cons (kept row List.mem_cons_self) (ih ?_)
    exact fun other otherMem => kept other (List.mem_cons_of_mem _ otherMem)

theorem keys (changes : ChangesOnly key owner who before after) :
    after.map key = before.map key := by
  induction changes with
  | nil => rfl
  | cons here rest ih => rw [List.map_cons, List.map_cons, here.key_eq, ih]

theorem owners (changes : ChangesOnly key owner who before after) :
    after.map owner = before.map owner := by
  induction changes with
  | nil => rfl
  | cons here rest ih => rw [List.map_cons, List.map_cons, here.owner_eq, ih]

/-- What a row has become. -/
theorem later (changes : ChangesOnly key owner who before after) (member : row ∈ before) :
    ∃ later ∈ after, KeptRow key owner who row later := by
  induction changes with
  | nil => cases member
  | @cons first later rest others here tail ih =>
    rcases List.mem_cons.mp member with same | old
    · rw [same]
      exact ⟨later, List.mem_cons_self, here⟩
    · obtain ⟨found, foundMem, kept⟩ := ih old
      exact ⟨found, List.mem_cons_of_mem _ foundMem, kept⟩

/-- Where a row has come from. -/
theorem earlier (changes : ChangesOnly key owner who before after) (member : row ∈ after) :
    ∃ earlier ∈ before, KeptRow key owner who earlier row := by
  induction changes with
  | nil => cases member
  | @cons first later rest others here tail ih =>
    rcases List.mem_cons.mp member with same | old
    · rw [same]
      exact ⟨first, List.mem_cons_self, here⟩
    · obtain ⟨found, foundMem, kept⟩ := ih old
      exact ⟨found, List.mem_cons_of_mem _ foundMem, kept⟩

/-- The rows of the others are kept. -/
theorem mem_other (changes : ChangesOnly key owner who before after)
    (member : row ∈ before) (other : owner row ≠ who) : row ∈ after := by
  obtain ⟨later, laterMem, kept⟩ := changes.later member
  rw [kept.other other] at laterMem
  exact laterMem

end ChangesOnly

section Selected

variable {rows : List α} {selected : α → Bool}

theorem filter_filter_of_kept {kept : α → Bool}
    (keeps : ∀ row ∈ rows, selected row = true → kept row = true) :
    (rows.filter kept).filter selected = rows.filter selected := by
  rw [List.filter_filter]
  apply List.filter_congr
  intro row member
  cases here : selected row with
  | true => simp [keeps row member here]
  | false => simp

theorem filter_map_of_kept {write : α → α}
    (keeps : ∀ row ∈ rows, selected row = true → write row = row)
    (others : ∀ row ∈ rows, selected row = false → selected (write row) = false) :
    (rows.map write).filter selected = rows.filter selected := by
  induction rows with
  | nil => rfl
  | cons row rows ih =>
    have later := ih (fun other member => keeps other (List.mem_cons_of_mem _ member))
      fun other member => others other (List.mem_cons_of_mem _ member)
    cases here : selected row with
    | true =>
      rw [List.map_cons, keeps row List.mem_cons_self here,
        List.filter_cons, List.filter_cons, later]
    | false =>
      have written := others row List.mem_cons_self here
      simp [here, written, later]

theorem filter_append_of_other {row : α} (other : selected row = false) :
    (rows ++ [row]).filter selected = rows.filter selected := by
  simp [other]

end Selected

end OwnedRows
