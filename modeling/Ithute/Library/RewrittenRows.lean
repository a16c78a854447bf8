import Mathlib.Data.List.Forall2
import Mathlib.Data.List.Nodup

/-!
# Rows that are rewritten where they stand

A write keeps every row of a table in its place and relates its new version
to the old one.  Columns that the relation keeps stay as they are, and what
holds of every two rows goes over to their new versions.
-/

namespace RewrittenRows

variable {α Key : Type*} {kept : α → α → Prop} {before after : List α} {row : α}

def Rewrites (kept : α → α → Prop) (before after : List α) : Prop := List.Forall₂ kept before after

namespace Rewrites

theorem refl (same : ∀ row, kept row row) (rows : List α) : Rewrites kept rows rows :=
  List.forall₂_same.mpr fun row _ => same row

theorem map {write : α → α} (keeps : ∀ row ∈ before, kept row (write row)) :
    Rewrites kept before (before.map write) := by
  unfold Rewrites
  rw [List.forall₂_map_right_iff, List.forall₂_same]
  exact keeps

/-- A row takes the place of the one with its key. -/
theorem replace [DecidableEq Key] {key : α → Key} {saved : α}
    (unique : (before.map key).Nodup) (same : ∀ row, kept row row)
    (member : row ∈ before) (sameKey : key saved = key row) (keeps : kept row saved) :
    Rewrites kept before (before.map fun other =>
        if key other = key saved then saved else other) := by
  apply map
  intro other otherMem
  split
  · rename_i here
    rw [List.inj_on_of_nodup_map unique otherMem member (here.trans sameKey)]
    exact keeps
  · exact same other

/-- Where a row has come from. -/
theorem earlier (rewrites : Rewrites kept before after)
    (member : row ∈ after) : ∃ earlier ∈ before, kept earlier row := by
  induction rewrites with
  | nil => cases member
  | @cons first later rest others here tail ih =>
    rcases List.mem_cons.mp member with same | old
    · rw [same]
      exact ⟨first, List.mem_cons_self, here⟩
    · obtain ⟨found, foundMem, keeps⟩ := ih old
      exact ⟨found, List.mem_cons_of_mem _ foundMem, keeps⟩

/-- What a row has become. -/
theorem later (rewrites : Rewrites kept before after)
    (member : row ∈ before) : ∃ later ∈ after, kept row later := by
  induction rewrites with
  | nil => cases member
  | @cons first later rest others here tail ih =>
    rcases List.mem_cons.mp member with same | old
    · rw [same]
      exact ⟨later, List.mem_cons_self, here⟩
    · obtain ⟨found, foundMem, keeps⟩ := ih old
      exact ⟨found, List.mem_cons_of_mem _ foundMem, keeps⟩

/-- A column that every new version keeps. -/
theorem column {Value : Type*} {column : α → Value} (rewrites : Rewrites kept before after)
    (keeps : ∀ first second, kept first second → column second = column first) :
    after.map column = before.map column := by
  induction rewrites with
  | nil => rfl
  | cons here rest ih => rw [List.map_cons, List.map_cons, keeps _ _ here, ih]

/-- What relates the old versions of any two rows relates the new ones. -/
theorem pairwise {related relatedAfter : α → α → Prop} (rewrites : Rewrites kept before after)
    (pairwise : before.Pairwise related)
    (keeps : ∀ first second first' second', related first second →
      kept first first' → kept second second' → relatedAfter first' second') :
    after.Pairwise relatedAfter := by
  induction rewrites with
  | nil => exact List.Pairwise.nil
  | @cons first later rest others here tail ih =>
    rw [List.pairwise_cons] at pairwise ⊢
    refine ⟨?_, ih pairwise.2⟩
    intro other member
    obtain ⟨earlier, earlierMem, keptOther⟩ := Rewrites.earlier tail member
    exact keeps _ _ _ _ (pairwise.1 earlier earlierMem) here keptOther

end Rewrites

end RewrittenRows
