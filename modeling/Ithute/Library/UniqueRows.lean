import Mathlib.Data.List.Nodup

/-!
# Unique rows

A unique column of a table keeps two rows from agreeing.  Inserting a row that
agrees with none of them keeps the column unique, and a row that is found is
the only one.
-/

namespace UniqueRows

variable {α : Type*} {rows : List α} {row : α}

theorem find?_decide {chosen : α → Prop} [DecidablePred chosen]
    (found : (rows.find? fun row => decide (chosen row)) = some row) : row ∈ rows ∧ chosen row :=
  ⟨List.mem_of_find?_eq_some found, by simpa only [decide_eq_true_eq] using List.find?_some found⟩

/-- An insert that has checked every row. -/
theorem pairwise_insert {relation : α → α → Prop} (apart : rows.Pairwise relation)
    (fresh : ∀ existing ∈ rows, relation existing row) : (rows ++ [row]).Pairwise relation := by
  rw [List.pairwise_append]
  refine ⟨apart, List.pairwise_singleton _ _, ?_⟩
  intro existing member other otherMem
  rw [List.mem_singleton.mp otherMem]
  exact fresh existing member

/-- A row is counted once where no two rows are counted together. -/
theorem countP_eq_one {counted : α → Bool} (apart : rows.Pairwise fun first second =>
      ¬ (counted first = true ∧ counted second = true))
    (member : row ∈ rows) (holds : counted row = true) : rows.countP counted = 1 := by
  induction rows with
  | nil => cases member
  | cons first rest ih =>
    rw [List.pairwise_cons] at apart
    cases here : counted first with
    | true =>
      have restNot : rest.countP counted = 0 := by
        rw [List.countP_eq_zero]
        intro other otherMem both
        exact apart.1 other otherMem ⟨here, both⟩
      rw [List.countP_cons, restNot, here]
      rfl
    | false =>
      have later : row ∈ rest := by
        rcases List.mem_cons.mp member with same | later
        · rw [same, here] at holds
          cases holds
        · exact later
      rw [List.countP_cons, ih apart.2 later, here]
      rfl

/-- Where no two rows are selected together, one is at most. -/
theorem length_filter_le_one_of_apart {selected : α → Bool}
    (apart : rows.Pairwise fun first second => ¬ (selected first = true ∧ selected second = true)) :
    (rows.filter selected).length ≤ 1 := by
  have within := apart.sublist (@List.filter_sublist _ selected rows)
  have holds (row : α) (member : row ∈ rows.filter selected) :
      selected row = true := (List.mem_filter.mp member).2
  match kept : rows.filter selected with
  | [] => exact Nat.zero_le 1
  | [_] => exact Nat.le_refl 1
  | first :: second :: rest =>
    rw [kept] at within holds
    have both := (List.pairwise_cons.mp within).1 second List.mem_cons_self
    exact absurd ⟨holds first List.mem_cons_self,
      holds second (List.mem_cons_of_mem _ List.mem_cons_self)⟩ both

theorem length_filter_le_one {Key : Type*} {key : α → Key}
    (unique : (rows.map key).Nodup) (sought : Key) {selected : α → Bool}
    (same : ∀ row ∈ rows, selected row = true → key row = sought) :
    (rows.filter selected).length ≤ 1 := by
  have distinct : ((rows.filter selected).map key).Nodup :=
    unique.sublist (List.filter_sublist.map key)
  have all : ∀ value ∈ (rows.filter selected).map key, value = sought := by
    intro value member
    obtain ⟨row, rowMem, rfl⟩ := List.mem_map.mp member
    exact same row (List.mem_filter.mp rowMem).1 (List.mem_filter.mp rowMem).2
  rw [List.eq_replicate_of_mem all, List.nodup_replicate, List.length_map] at distinct
  exact distinct

section Keys

variable {Key : Type*} [DecidableEq Key] {key : α → Key}

/-- A row that takes the place of the one with its key. -/
theorem map_key_replace (saved : α) :
    (rows.map fun row => if key row = key saved then saved else row).map key = rows.map key := by
  rw [List.map_map]
  apply List.map_congr_left
  intro other _
  by_cases same : key other = key saved
  · simp [same]
  · simp [same]

theorem map_column_replace {Value : Type*} {column : α → Value} {saved : α}
    (unique : (rows.map key).Nodup) (member : row ∈ rows)
    (sameKey : key saved = key row) (sameColumn : column saved = column row) :
    (rows.map fun other =>
      if key other = key saved then saved else other).map column = rows.map column := by
  rw [List.map_map]
  apply List.map_congr_left
  intro other otherMem
  by_cases same : key other = key saved
  · have equal := List.inj_on_of_nodup_map unique otherMem member (same.trans sameKey)
    rw [Function.comp, if_pos same, sameColumn, equal]
  · simp [same]

/-- A look up by key after a replacement. -/
theorem find?_replace (saved : α) (sought : Key) :
    (rows.map fun row => if key row = key saved then saved else row).find?
        (fun row => decide (key row = sought)) = if sought = key saved then
        (rows.find? fun row => decide (key row = sought)).map fun _ => saved
      else rows.find? fun row => decide (key row = sought) := by
  induction rows with
  | nil => simp
  | cons first rest ih =>
    rw [List.map_cons, List.find?_cons, List.find?_cons, ih]
    by_cases here : key first = key saved
    · by_cases same : sought = key saved
      · simp [here, same]
      · simp [here, same, Ne.symm same]
    · by_cases same : sought = key saved
      · simp [here, same]
      · by_cases found : key first = sought
        · simp [same, found]
        · simp [same, here, found]

/-- A look up by the key of a stored row. -/
theorem find?_key (unique : (rows.map key).Nodup) (member : row ∈ rows) :
    rows.find? (fun other => decide (key other = key row)) = some row := by
  cases found : rows.find? fun other => decide (key other = key row) with
  | none =>
    have missing := List.find?_eq_none.mp found row member
    simp at missing
  | some other =>
    have same : key other = key row := by simpa only [decide_eq_true_eq] using List.find?_some found
    rw [List.inj_on_of_nodup_map unique (List.mem_of_find?_eq_some found) member same]

/-- A replacement changes nothing only where it writes what was stored. -/
theorem map_replace_eq_iff (unique : (rows.map key).Nodup)
    (member : row ∈ rows) {saved : α} (same : key saved = key row) :
    (rows.map fun other => if key other = key saved then saved else other) =
        rows ↔ saved = row := by
  constructor
  · intro unchanged
    have written : saved ∈ rows.map fun other =>
        if key other = key saved then saved else other :=
      List.mem_map.mpr ⟨row, member, if_pos same.symm⟩
    rw [unchanged] at written
    exact List.inj_on_of_nodup_map unique written member same
  · intro equal
    refine (List.map_congr_left ?_).trans (List.map_id' rows)
    intro other otherMem
    split
    · rename_i here
      rw [equal] at here ⊢
      exact (List.inj_on_of_nodup_map unique otherMem member here).symm
    · rfl

/-- A row that takes the place of another one adds one to a count at most. -/
theorem countP_replace_le (unique : (rows.map key).Nodup) (saved : α) (counted : α → Bool) :
    (rows.map fun row => if key row = key saved then saved else row).countP counted ≤
      rows.countP counted + 1 := by
  induction rows with
  | nil => simp
  | cons first rest ih =>
    rw [List.map_cons, List.nodup_cons] at unique
    rw [List.map_cons, List.countP_cons, List.countP_cons]
    by_cases here : key first = key saved
    · have others : rest.map (fun row => if key row = key saved then saved else row) = rest := by
        refine (List.map_congr_left ?_).trans (List.map_id' rest)
        intro other otherMem
        rw [if_neg]
        intro same
        exact unique.1 (List.mem_map.mpr ⟨other, otherMem, same.trans here.symm⟩)
      rw [others]
      split_ifs <;> omega
    · have rest := ih unique.2
      rw [if_neg here]
      omega

theorem forall_replace {holds : α → Prop} {saved : α}
    (others : ∀ row ∈ rows, key row ≠ key saved → holds row) (here : holds saved) :
    ∀ row ∈ rows.map fun row => if key row = key saved then saved else row, holds row := by
  intro row member
  obtain ⟨stored, storedMem, rfl⟩ := List.mem_map.mp member
  by_cases same : key stored = key saved
  · simpa [same] using here
  · simpa [same] using others stored storedMem same

end Keys

section Issued

variable {key : α → ℕ} {next later : ℕ} {others : List α}

/-- Every row has an identifier of its own, issued before the next one. -/
structure Issued (key : α → ℕ) (next : ℕ) (rows : List α) : Prop where
  unique : (rows.map key).Nodup
  below : ∀ row ∈ rows, key row < next

theorem Issued.nil : Issued key next [] :=
  ⟨List.nodup_nil, fun _ member => absurd member List.not_mem_nil⟩

theorem Issued.mono (issued : Issued key next rows) (nextLe : next ≤ later) :
    Issued key later rows :=
  ⟨issued.unique, fun row member => Nat.lt_of_lt_of_le (issued.below row member) nextLe⟩

theorem Issued.insert (issued : Issued key next rows)
    (isNext : key row = next) : Issued key (next + 1) (rows ++ [row]) := by
  constructor
  · rw [List.map_append, List.map_singleton]
    refine pairwise_insert issued.unique ?_
    intro id member same
    obtain ⟨stored, storedMem, rfl⟩ := List.mem_map.mp member
    have below := issued.below stored storedMem
    omega
  · intro stored member
    rcases List.mem_append.mp member with old | new
    · exact Nat.lt_succ_of_lt (issued.below stored old)
    · rw [List.mem_singleton.mp new, isNext]
      exact Nat.lt_succ_self next

theorem Issued.append {added : List α} (issued : Issued key next rows)
    (keys : added.map key = List.range' next added.length) :
    Issued key (next + added.length) (rows ++ added) := by
  constructor
  · rw [List.map_append, keys]
    refine issued.unique.append (List.nodup_range' ..) ?_
    intro id old new
    obtain ⟨stored, storedMem, rfl⟩ := List.mem_map.mp old
    have below := issued.below stored storedMem
    have above := (List.mem_range'_1.mp new).1
    omega
  · intro row member
    rcases List.mem_append.mp member with old | new
    · exact Nat.lt_add_right _ (issued.below row old)
    · have here := List.mem_map_of_mem (f := key) new
      rw [keys] at here
      exact (List.mem_range'_1.mp here).2

theorem Issued.map {write : α → α} (issued : Issued key next rows)
    (keeps : ∀ row ∈ rows, key (write row) = key row) : Issued key next (rows.map write) := by
  have keys : (rows.map write).map key = rows.map key := by
    rw [List.map_map]
    exact List.map_congr_left keeps
  constructor
  · rw [keys]
    exact issued.unique
  · intro row member
    obtain ⟨stored, storedMem, rfl⟩ := List.mem_map.mp member
    rw [keeps stored storedMem]
    exact issued.below stored storedMem

theorem Issued.replace (issued : Issued key next rows) (saved : α) : Issued key next
      (rows.map fun row => if key row = key saved then saved else row) := by
  apply issued.map
  intro row _
  split
  · rename_i same
    exact same.symm
  · rfl

theorem Issued.filter (issued : Issued key next rows) (kept : α → Bool) :
    Issued key next (rows.filter kept) :=
  ⟨issued.unique.sublist (List.filter_sublist.map key),
    fun row member => issued.below row (List.mem_filter.mp member).1⟩

/-- The row with an identifier is the only one. -/
theorem Issued.eq_of_key (issued : Issued key next rows) {other : α}
    (member : row ∈ rows) (otherMem : other ∈ rows) (same : key row = key other) : row = other :=
  List.inj_on_of_nodup_map issued.unique member otherMem same

end Issued

/-- A row that was found is found again, if it still matches and no other
row has come to match. -/
theorem find?_map {matches_ : α → Bool} {write : α → α} (found : rows.find? matches_ = some row)
    (still : matches_ (write row) = true) (noOther : ∀ other ∈ rows, matches_ (write other) = true →
      matches_ other = true) : (rows.map write).find? matches_ = some (write row) := by
  induction rows with
  | nil => cases found
  | cons first rest ih =>
    rw [List.find?_cons] at found
    rw [List.map_cons, List.find?_cons]
    cases here : matches_ first with
    | true =>
      rw [here] at found
      cases found
      rw [still]
    | false =>
      rw [here] at found
      have unwritten : matches_ (write first) = false := by
        rw [← Bool.not_eq_true]
        intro written
        rw [noOther first List.mem_cons_self written] at here
        cases here
      rw [unwritten]
      exact ih found fun other otherMem => noOther other (List.mem_cons_of_mem _ otherMem)

end UniqueRows
