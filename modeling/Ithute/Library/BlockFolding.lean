import Mathlib.Data.List.Basic

/-!
# Folds over blocks, and tables that loops fill

A message is folded block by block, all blocks of one size.  A loop fills a
table from left to right, and what it writes may depend on what it has
written.
-/

namespace BlockFolding

variable {α σ : Type*}

def block (size index : ℕ) (message : List α) : List α := (message.drop (index * size)).take size

/-- The first blocks of a message, folded from left to right. -/
def foldBlocks (size : ℕ) (step : σ → List α → σ) (count : ℕ) (initial : σ) (message : List α) :
    σ :=
  (List.range count).foldl (fun state index => step state (block size index message)) initial

variable {size count : ℕ} {step : σ → List α → σ} {initial : σ} {front back : List α}

theorem foldBlocks_succ (message : List α) : foldBlocks size step (count + 1) initial message =
    step (foldBlocks size step count initial message) (block size count message) := by
  simp [foldBlocks, List.range_succ]

theorem block_append_front {index : ℕ} (within : index * size + size ≤ front.length) :
    block size index (front ++ back) = block size index front := by
  rw [block, block, List.drop_append_of_le_length (by omega), List.take_append_of_le_length]
  rw [List.length_drop]
  omega

theorem block_append_back {index : ℕ} (aligned : front.length = count * size) :
    block size (count + index) (front ++ back) = block size index back := by
  rw [block, block, Nat.add_mul, ← aligned, List.drop_length_add_append]

theorem foldBlocks_front (within : count * size ≤ front.length) :
    foldBlocks size step count initial (front ++ back) =
      foldBlocks size step count initial front := by
  induction count with
  | zero => rfl
  | succ count ih =>
    rw [Nat.succ_mul] at within
    rw [foldBlocks_succ, foldBlocks_succ, ih (by omega), block_append_front within]

/-- The fold over a message goes on where the one over an aligned front
ended. -/
theorem foldBlocks_append (aligned : front.length = count * size) (more : ℕ) :
    foldBlocks size step (count + more) initial (front ++ back) =
      foldBlocks size step more (foldBlocks size step count initial front) back := by
  induction more with
  | zero => exact foldBlocks_front (Nat.le_of_eq aligned.symm)
  | succ more ih =>
    rw [← Nat.add_assoc, foldBlocks_succ, foldBlocks_succ, ih, block_append_back aligned]

/-- A map between states that the steps respect. -/
theorem foldBlocks_hom {τ : Type*} {other : τ → List α → τ} (image : σ → τ)
    (respects : ∀ state block, other (image state) block = image (step state block))
    (message : List α) : foldBlocks size other count (image initial) message =
      image (foldBlocks size step count initial message) :=
  List.foldl_hom image fun state index => respects state (block size index message)

/-- `for index in start..start + count` with one assignment to the entry at
the index. -/
def fill (value : List α → ℕ → α) (start count : ℕ) (table : List α) : List α :=
  (List.range' start count).foldl (fun table index => table.set index (value table index)) table

variable {value : List α → ℕ → α} {start : ℕ} {table : List α} {target : ℕ → α}

theorem fill_succ : fill value start (count + 1) table =
    (fill value start count table).set (start + count)
      (value (fill value start count table) (start + count)) := by
  simp [fill, List.range'_concat]

theorem length_fill : (fill value start count table).length = table.length := by
  induction count with
  | zero => rfl
  | succ count ih => rw [fill_succ, List.length_set, ih]

/-- A loop reaches the target, if every assignment does where the earlier
entries have reached it. -/
theorem fill_spec (fits : start + count ≤ table.length)
    (begun : ∀ index < start, table[index]? = some (target index))
    (assigns : ∀ table index, start ≤ index → index < start + count →
      (∀ earlier < index, table[earlier]? = some (target earlier)) →
        value table index = target index) :
    ∀ index < start + count, (fill value start count table)[index]? = some (target index) := by
  induction count with
  | zero => exact begun
  | succ count ih =>
    have filled := ih (by omega) fun table index after before =>
      assigns table index after (by omega)
    intro index before
    rw [fill_succ]
    rcases Nat.lt_or_ge index (start + count) with earlier | last
    · rw [List.getElem?_set_ne (by omega)]
      exact filled index earlier
    · obtain rfl : index = start + count := by omega
      rw [List.getElem?_set_self (by rw [length_fill]; omega),
        assigns _ _ (Nat.le_add_right start count) (by omega) filled]

/-- A loop over a whole table. -/
theorem fill_all (value : ℕ → α) (table : List α) :
    fill (fun _ index => value index) 0 table.length table = (List.range table.length).map value := by
  apply List.ext_getElem?
  intro index
  rcases Nat.lt_or_ge index table.length with within | beyond
  · rw [@fill_spec _ _ _ 0 _ value (by omega) (fun _ none => absurd none (Nat.not_lt_zero _))
      (fun _ _ _ _ _ => rfl) index (by omega)]
    simp [within]
  · rw [List.getElem?_eq_none (by rwa [length_fill]), List.getElem?_eq_none (by simpa using beyond)]

/-- `target[start..].copy_from_slice(source)` -/
def copyFromSlice (target : List α) (start : ℕ) (source : List α) : List α :=
  target.take start ++ source ++ target.drop (start + source.length)

end BlockFolding
