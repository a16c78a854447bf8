import Mathlib.Algebra.BigOperators.Group.List.Basic
import Mathlib.Algebra.GroupWithZero.Nat
import Mathlib.Data.List.AList

/-!
# Unordered maps

An unordered map is an association list with distinct keys.  The order in
which a container walks through its entries is not part of its meaning, so an
iteration goes through an arbitrary rearrangement of them.
-/

/-- A map without a meaningful order of its entries. -/
abbrev UnorderedMap (κ ν : Type*) := AList fun _ : κ => ν

/-- The order in which containers walk through their entries. -/
structure IterationOrder where
  arrange : {α : Type} → List α → List α
  arrange_perm : ∀ {α : Type} (entries : List α), (arrange entries).Perm entries

/-- Entries in the order in which they are kept. -/
def IterationOrder.asStored : IterationOrder where
  arrange := fun entries => entries
  arrange_perm := fun _ => List.Perm.refl _

@[simp]
theorem IterationOrder.mem_arrange (iteration : IterationOrder) {α : Type}
    {entries : List α} {entry : α} : entry ∈ iteration.arrange entries ↔ entry ∈ entries :=
  (iteration.arrange_perm entries).mem_iff

namespace UnorderedMap

variable {κ ν : Type*} [DecidableEq κ]

/-- Insert an entry unless the key is present. -/
def tryEmplace (map : UnorderedMap κ ν) (key : κ) (value : ν) : UnorderedMap κ ν :=
  if key ∈ map then map else map.insert key value

/-- Apply a function to every value. -/
def mapValues (update : ν → ν) (map : UnorderedMap κ ν) : UnorderedMap κ ν :=
  ⟨map.entries.map (.map id fun _ => update), map.nodupKeys.map₂ _ _⟩

/-- The sum of a quantity over all entries. -/
def total (quantity : ν → ℕ) (map : UnorderedMap κ ν) : ℕ :=
  (map.entries.map fun entry => quantity entry.2).sum

section

variable {map : UnorderedMap κ ν} {key other : κ} {value : ν}

theorem mem_of_lookup (found : map.lookup key = some value) : key ∈ map := by
  rw [← AList.lookup_isSome, found]
  rfl

theorem mem_entries_iff {entry : Sigma fun _ : κ => ν} :
    entry ∈ map.entries ↔ map.lookup entry.1 = some entry.2 :=
  AList.mem_lookup_iff.symm

@[simp]
theorem mem_tryEmplace : other ∈ tryEmplace map key value ↔ other = key ∨ other ∈ map := by
  unfold tryEmplace
  split
  · next present =>
      constructor
      · exact Or.inr
      · rintro (rfl | member)
        · exact present
        · exact member
  · exact AList.mem_insert map

theorem lookup_tryEmplace_of_mem (present : other ∈ map) :
    (tryEmplace map key value).lookup other = map.lookup other := by
  unfold tryEmplace
  split
  · rfl
  · next absent =>
      have different : other ≠ key := fun same => absent (same ▸ present)
      exact AList.lookup_insert_ne different

theorem lookup_tryEmplace_self_of_not_mem (absent : key ∉ map) :
    (tryEmplace map key value).lookup key = some value := by
  rw [tryEmplace, if_neg absent]
  exact AList.lookup_insert map

/-- The entries of a map with a known entry taken to the front. -/
theorem entries_perm_of_lookup (found : map.lookup key = some value) :
    map.entries.Perm (⟨key, value⟩ :: (map.erase key).entries) := by
  have same (other : κ) : (map.insert key value).lookup other = map.lookup other := by
    by_cases isKey : other = key
    · subst isKey
      rw [AList.lookup_insert, found]
    · exact AList.lookup_insert_ne isKey
  have perm : (map.insert key value).entries.Perm map.entries := by
    apply (List.perm_ext_iff_of_nodup (List.NodupKeys.nodup (map.insert key value).nodupKeys)
      (List.NodupKeys.nodup map.nodupKeys)).mpr
    intro entry
    rw [mem_entries_iff, mem_entries_iff, same]
  exact perm.symm

variable (quantity : ν → ℕ)

theorem total_insert_of_not_mem (absent : key ∉ map) :
    total quantity (map.insert key value) = quantity value + total quantity map := by
  simp only [total, AList.insert_of_notMem absent, List.map_cons, List.sum_cons]

theorem total_erase (found : map.lookup key = some value) :
    quantity value + total quantity (map.erase key) = total quantity map := by
  have perm := (entries_perm_of_lookup found).map
    fun entry : Sigma fun _ : κ => ν => quantity entry.2
  simpa [total] using perm.sum_eq.symm

theorem total_insert_of_lookup (new : ν) (found : map.lookup key = some value) :
    quantity value + total quantity (map.insert key new) = quantity new + total quantity map := by
  have inserted : total quantity (map.insert key new) =
      quantity new + total quantity (map.erase key) := by
    unfold total
    rw [AList.entries_insert, List.map_cons, List.sum_cons]
    rfl
  have erased := total_erase quantity found
  omega

variable (update : ν → ν)

@[simp]
theorem lookup_mapValues : (mapValues update map).lookup key = (map.lookup key).map update :=
  List.dlookup_map₂ key

@[simp]
theorem mem_mapValues : key ∈ mapValues update map ↔ key ∈ map := by
  rw [← AList.lookup_isSome, lookup_mapValues, Option.isSome_map, AList.lookup_isSome]

omit [DecidableEq κ] in
theorem total_mapValues :
    total quantity (mapValues update map) = total (fun value => quantity (update value)) map := by
  simp only [total, mapValues, List.map_map]
  rfl

end

end UnorderedMap
