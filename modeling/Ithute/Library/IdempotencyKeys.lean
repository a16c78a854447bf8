import Mathlib.Data.List.Basic

/-!
# Idempotency keys

A store keeps the fingerprint of the first request of every key.  A repeated
key is accepted with the same fingerprint and refused with another.
-/

namespace IdempotencyKeys

variable {κ φ : Type*}

def KeysAgree (requests : List (κ × φ)) : Prop :=
  ∀ first ∈ requests, ∀ second ∈ requests, first.1 = second.1 → first.2 = second.2

theorem consistent_congr {first second : List (κ × φ)}
    (same : ∀ request, request ∈ first ↔ request ∈ second) :
    KeysAgree first ↔ KeysAgree second := by
  simp only [KeysAgree, same]

theorem KeysAgree.of_subset {first second : List (κ × φ)}
    (consistent : KeysAgree second) (subset : first ⊆ second) : KeysAgree first :=
  fun one oneMem two twoMem => consistent one (subset oneMem) two (subset twoMem)

theorem keysAgree_concat_of_absent {store : List (κ × φ)} (consistent : KeysAgree store)
    {request : κ × φ} (absent : ∀ entry ∈ store, entry.1 ≠ request.1) :
    KeysAgree (store ++ [request]) := by
  intro first firstMem second secondMem sameKey
  rw [List.mem_append, List.mem_singleton] at firstMem secondMem
  rcases firstMem with old | rfl
  · rcases secondMem with old' | rfl
    · exact consistent first old second old' sameKey
    · exact absurd sameKey (absent first old)
  · rcases secondMem with old' | rfl
    · exact absurd sameKey.symm (absent second old')
    · rfl

variable [DecidableEq κ] [DecidableEq φ]

/-- `none` refuses the request. -/
def accept (store : List (κ × φ)) (request : κ × φ) : Option (List (κ × φ)) :=
  match store.find? fun entry => decide (entry.1 = request.1) with
  | some entry => if entry.2 = request.2 then some store else none
  | none => some (store ++ [request])

/-- Requests one after another, as long as they are accepted. -/
def acceptAll (store requests : List (κ × φ)) : Option (List (κ × φ)) :=
  requests.foldlM accept store

variable {store : List (κ × φ)}

theorem acceptAll_append (store first second : List (κ × φ)) : acceptAll store (first ++ second) =
      (acceptAll store first).bind fun following =>
        acceptAll following second :=
  List.foldlM_append

theorem acceptAll_singleton (store : List (κ × φ)) (request : κ × φ) :
    acceptAll store [request] = accept store request := by
  simp [acceptAll]

/-- A request is accepted when it is consistent with the store, which then
holds it. -/
theorem accept_cases (consistent : KeysAgree store) (request : κ × φ) :
    (accept store request = none ∧ ¬ KeysAgree (store ++ [request])) ∨
      ∃ following, accept store request = some following ∧ KeysAgree (store ++ [request]) ∧
        ∀ entry, entry ∈ following ↔ entry ∈ store ++ [request] := by
  unfold accept
  cases found : store.find? fun entry => decide (entry.1 = request.1) with
  | none =>
    refine .inr ⟨_, rfl, ?_, fun _ => Iff.rfl⟩
    apply keysAgree_concat_of_absent consistent
    simpa using found
  | some entry =>
    have member : entry ∈ store := List.mem_of_find?_eq_some found
    have sameKey : entry.1 = request.1 := by simpa using List.find?_some found
    by_cases same : entry.2 = request.2
    · have old : request ∈ store := Prod.ext sameKey same ▸ member
      have members : ∀ other, other ∈ store ↔ other ∈ store ++ [request] := by
        intro other
        rw [List.mem_append, List.mem_singleton]
        constructor
        · exact .inl
        · rintro (known | rfl)
          · exact known
          · exact old
      exact .inr ⟨store, if_pos same, (consistent_congr members).mp consistent, members⟩
    · refine .inl ⟨if_neg same, ?_⟩
      intro both
      exact same (both entry (List.mem_append_left _ member) request
        (List.mem_append_right _ (List.mem_singleton_self _)) sameKey)

/-- All requests are accepted exactly when they are consistent with the store
and with each other. -/
theorem acceptAll_isSome_iff (consistent : KeysAgree store) (requests : List (κ × φ)) :
    (acceptAll store requests).isSome = true ↔ KeysAgree (store ++ requests) := by
  induction requests generalizing store with
  | nil => simpa [acceptAll] using consistent
  | cons request requests ih =>
    rw [acceptAll, List.foldlM_cons, List.append_cons]
    rcases accept_cases consistent request with
      ⟨refused, clash⟩ | ⟨following, accepted, further, members⟩
    · rw [refused]
      refine iff_of_false (by simp) ?_
      intro all
      exact clash (all.of_subset (List.subset_append_left _ _))
    · rw [accepted]
      have same : ∀ entry, entry ∈ following ++ requests ↔
          entry ∈ store ++ [request] ++ requests := by
        intro entry
        rw [List.mem_append, members, ← List.mem_append]
      exact (ih ((consistent_congr members).mpr further)).trans (consistent_congr same)

end IdempotencyKeys
