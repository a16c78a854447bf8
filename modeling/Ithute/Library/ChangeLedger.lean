import Mathlib.Data.List.Basic
import Mathlib.Logic.Function.Basic

/-!
# Ledgers of changes

Changes of values under keys, each by an owner, newest first.  Replaying a
ledger gives the values after its changes; an owner's changes can be
retracted as if they had not been made.
-/

namespace ChangeLedger

variable {Owner Key Value : Type*}

structure Change (Owner Key Value : Type*) where
  owner : Owner
  key : Key
  value : Value

variable {initial : Key → Value} {ledger : List (Change Owner Key Value)}
variable {change : Change Owner Key Value} {owner other : Owner} {key : Key}

def replay [DecidableEq Key] (initial : Key → Value) (ledger : List (Change Owner Key Value))
    (key : Key) : Value :=
  ((ledger.find? fun change => change.key = key).map Change.value).getD (initial key)

def retract [DecidableEq Owner] (owner : Owner) (ledger : List (Change Owner Key Value)) :
    List (Change Owner Key Value) :=
  ledger.filter fun change => change.owner ≠ owner

section Replay

variable [DecidableEq Key]

/-- A new change is the last one of its key. -/
theorem replay_cons : replay initial (change :: ledger) =
    Function.update (replay initial ledger) change.key change.value := by
  funext key
  by_cases same : key = change.key
  · subst same
    simp [replay]
  · rw [Function.update_of_ne same, replay, List.find?_cons_of_neg]
    · rfl
    · simpa using Ne.symm same

theorem replay_cons_of_ne (different : change.key ≠ key) :
    replay initial (change :: ledger) key = replay initial ledger key := by
  rw [replay_cons, Function.update_of_ne (Ne.symm different)]

end Replay

section Retract

variable [DecidableEq Owner]

theorem mem_retract : change ∈ retract owner ledger ↔ change ∈ ledger ∧ change.owner ≠ owner := by
  simp [retract]

theorem mem_retract_of_ne (different : change.owner ≠ owner) :
    change ∈ retract owner ledger ↔ change ∈ ledger := by
  rw [mem_retract]
  exact and_iff_left different

theorem retract_cons_of_ne (different : change.owner ≠ owner) :
    retract owner (change :: ledger) = change :: retract owner ledger := by
  simp [retract, different]

theorem retract_eq_self (absent : ∀ change ∈ ledger, change.owner ≠ owner) :
    retract owner ledger = ledger := by
  rw [retract, List.filter_eq_self]
  exact fun change member => decide_eq_true (absent change member)

theorem retract_cons_self (own : change.owner = owner)
    (absent : ∀ change ∈ ledger, change.owner ≠ owner) :
    retract owner (change :: ledger) = ledger := by
  rw [retract, List.filter_cons_of_neg (by simp [own])]
  exact retract_eq_self absent

theorem retract_comm : retract owner (retract other ledger) =
    retract other (retract owner ledger) := by
  simp only [retract, List.filter_filter, Bool.and_comm]

end Retract

/-- Retracting the changes of one key leaves the other values. -/
theorem replay_retract_of_ne [DecidableEq Owner] [DecidableEq Key]
    (keys : ∀ change ∈ ledger, change.owner = owner → change.key ≠ key) :
    replay initial (retract owner ledger) key = replay initial ledger key := by
  induction ledger with
  | nil => rfl
  | cons change ledger ih =>
    have rest := ih fun later member => keys later (List.mem_cons_of_mem _ member)
    by_cases own : change.owner = owner
    · rw [replay_cons_of_ne (keys change List.mem_cons_self own), ← rest,
        retract, List.filter_cons_of_neg (by simp [own])]
      rfl
    · rw [retract_cons_of_ne own, replay_cons, replay_cons]
      by_cases same : key = change.key
      · subst same
        rw [Function.update_self, Function.update_self]
      · rw [Function.update_of_ne same, Function.update_of_ne same, rest]

end ChangeLedger
