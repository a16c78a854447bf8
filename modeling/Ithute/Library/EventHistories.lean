import Mathlib.Data.List.Basic

/-!
# Histories of events

A history grows at its end.  It is justified if each event follows from those
before it.
-/

namespace EventHistories

variable {Event : Type*} {why : List Event → Event → Prop} {history : List Event} {event : Event}

/-- Each event has a reason in the events before it. -/
def Justified (why : List Event → Event → Prop) (history : List Event) : Prop :=
  ∀ front event back, history = front ++ event :: back → why front event

namespace Justified

theorem nil : Justified why ([] : List Event) := by
  intro front event back split
  simp at split

theorem append (justified : Justified why history)
    (reason : why history event) : Justified why (history ++ [event]) := by
  intro front other back split
  rcases List.eq_nil_or_concat back with none | ⟨rest, last, rfl⟩
  · rw [none, List.append_cons, List.append_nil] at split
    obtain ⟨rfl, same⟩ := List.append_inj' split rfl
    cases same
    exact reason
  · rw [List.concat_eq_append, ← List.cons_append, ← List.append_assoc] at split
    exact justified front other rest (List.append_inj' split rfl).1

theorem mono {why' : List Event → Event → Prop} (justified : Justified why history)
    (weaker : ∀ front event, why front event → why' front event) : Justified why' history :=
  fun front event back split => weaker front event (justified front event back split)

end Justified

end EventHistories
