import Mathlib.Data.List.Perm.Basic
import Mathlib.Data.List.Nodup

/-!
# Locks held by processes

Each process holds at most one lock.  The locks are exclusive if no two
processes hold the same one.  A process that ends, that goes on with its lock
or that takes a free one keeps the locks exclusive.
-/

namespace HeldLocks

variable {Process Lock : Type*} {held : Process → Option Lock}

def Exclusive (held : Process → Option Lock) (processes : List Process) : Prop :=
  (processes.filterMap held).Nodup

variable {processes : List Process} {process next : Process} {index : ℕ}

namespace Exclusive

theorem nil : Exclusive held ([] : List Process) := List.nodup_nil

theorem sublist {rest : List Process} (exclusive : Exclusive held processes)
    (kept : rest.Sublist processes) : Exclusive held rest :=
  List.Nodup.sublist (kept.filterMap held) exclusive

theorem eraseIdx (exclusive : Exclusive held processes) :
    Exclusive held (processes.eraseIdx index) :=
  exclusive.sublist (List.eraseIdx_sublist _ _)

/-- A process without a lock joins. -/
theorem join (exclusive : Exclusive held processes)
    (free : held next = none) : Exclusive held (processes ++ [next]) := by
  unfold Exclusive
  rw [List.filterMap_append, List.filterMap_cons, free, List.filterMap_nil, List.append_nil]
  exact exclusive

/-- A process with a lock that nobody holds joins. -/
theorem acquire (exclusive : Exclusive held processes) {lock : Lock} (takes : held next = some lock)
    (free : lock ∉ processes.filterMap held) : Exclusive held (processes ++ [next]) := by
  unfold Exclusive
  rw [List.filterMap_append, List.filterMap_cons, takes, List.filterMap_nil]
  apply List.Nodup.append exclusive (List.nodup_singleton lock)
  exact List.disjoint_singleton.mpr free

theorem apart (exclusive : Exclusive held processes)
    (here : processes[index]? = some process) {lock : Lock} (holds : held process = some lock) :
    lock ∉ (processes.eraseIdx index).filterMap held := by
  obtain ⟨bound, same⟩ := List.getElem?_eq_some_iff.mp here
  have split := (List.getElem_cons_eraseIdx_perm bound).filterMap held
  rw [same, List.filterMap_cons, holds] at split
  have nodup := split.nodup_iff.mpr exclusive
  exact (List.nodup_cons.mp nodup).1

/-- A process goes on with its lock. -/
theorem keep (exclusive : Exclusive held processes) (here : processes[index]? = some process)
    (same : held next = held process) : Exclusive held (processes.eraseIdx index ++ [next]) := by
  cases holds : held process with
  | none => exact exclusive.eraseIdx.join (same.trans holds)
  | some lock =>
    exact exclusive.eraseIdx.acquire (same.trans holds) (exclusive.apart here holds)

end Exclusive

end HeldLocks
