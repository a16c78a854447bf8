import Mathlib.Data.Fintype.Order
import Mathlib.Data.List.Sort
import Mathlib.Data.List.Infix
import Mathlib.Logic.Relation
import Mathlib.Order.WellFounded
import Mathlib.Tactic.Linarith

/-!
# Scheduling by repeatedly taking the least ready item

A schedule counts, for every item, how many releases it needs, and lists for
every item the items it releases.  The counting loop takes the least ready
item, releases its dependents, and stops when nothing is ready.  This file
gives the loop, the declarative order it computes, and the exact condition
under which that order is complete.
-/

namespace LeastReadyOrder

variable {α : Type*} [LinearOrder α]

/-- `rest` continues `done` by taking the least ready item again and again
until nothing is ready. -/
inductive TakesLeast (Ready : List α → α → Prop) : List α → List α → Prop
  | stop {done : List α} (noneReady : ∀ item, ¬ Ready done item) : TakesLeast Ready done []
  | pick {done rest : List α} {current : α} (ready : Ready done current)
      (least : ∀ other, Ready done other → current ≤ other)
      (continues : TakesLeast Ready (done ++ [current]) rest) :
      TakesLeast Ready done (current :: rest)

namespace TakesLeast

variable {Ready : List α → α → Prop} {done : List α}

/-- The readiness predicate determines the order. -/
theorem unique {first second : List α} (firstTakes : TakesLeast Ready done first)
    (secondTakes : TakesLeast Ready done second) : first = second := by
  induction firstTakes generalizing second with
  | stop noneReady =>
    cases secondTakes with
    | stop => rfl
    | pick ready => exact (noneReady _ ready).elim
  | pick ready least _ ih =>
    cases secondTakes with
    | stop noneReady => exact (noneReady _ ready).elim
    | pick ready' least' continues' =>
      have same := le_antisymm (least _ ready') (least' _ ready)
      subst same
      rw [ih continues']

theorem subset {items rest : List α} (inside : ∀ done item, Ready done item → item ∈ items)
    (takes : TakesLeast Ready done rest) : rest ⊆ items := by
  induction takes with
  | stop => exact List.nil_subset _
  | pick ready _ _ ih => exact List.cons_subset.mpr ⟨inside _ _ ready, ih⟩

/-- A strictly monotone renaming of the items carries the order along. -/
theorem map {β : Type*} [LinearOrder β] {items : List α} {rename : α → β}
    {Ready' : List β → β → Prop}
    (strict : ∀ first ∈ items, ∀ second ∈ items, first < second → rename first < rename second)
    (inside : ∀ done item, Ready done item → item ∈ items) (transport : ∀ done ⊆ items, ∀ image,
      Ready' (done.map rename) image ↔ ∃ item, rename item = image ∧ Ready done item)
    {rest : List α} (doneInside : done ⊆ items) (takes : TakesLeast Ready done rest) :
    TakesLeast Ready' (done.map rename) (rest.map rename) := by
  induction takes with
  | stop noneReady =>
    refine .stop fun image ready => ?_
    obtain ⟨item, -, itemReady⟩ := (transport _ doneInside image).mp ready
    exact noneReady item itemReady
  | @pick done rest current ready least _ ih =>
    have currentInside := inside _ _ ready
    refine .pick ((transport _ doneInside _).mpr ⟨current, rfl, ready⟩) ?_ ?_
    · intro image imageReady
      obtain ⟨item, rfl, itemReady⟩ := (transport _ doneInside image).mp imageReady
      rcases lt_or_eq_of_le (least item itemReady) with below | same
      · exact le_of_lt (strict _ currentInside _ (inside _ _ itemReady) below)
      · rw [same]
    · have nextInside : done ++ [current] ⊆ items := by
        intro item itemMem
        rcases List.mem_append.mp itemMem with old | new
        · exact doneInside old
        · rw [List.mem_singleton.mp new]
          exact currentInside
      simpa using ih nextInside

end TakesLeast

/-- An unfinished item that waits for finished items only. -/
def Unblocked (items : List α) (Waits : α → α → Prop) (done : List α) (item : α) : Prop :=
  item ∈ items ∧ item ∉ done ∧ ∀ source, Waits item source → source ∈ done

/-- Renaming items in an order-preserving way renames the order. -/
theorem TakesLeast.map_unblocked {β : Type*} [LinearOrder β] {items : List α}
    {rename : α → β} {Waits : α → α → Prop} {Waits' : β → β → Prop}
    (strict : ∀ first ∈ items, ∀ second ∈ items, first < second → rename first < rename second)
    (inside : ∀ item source, Waits item source → item ∈ items ∧ source ∈ items)
    (renamed : ∀ image origin, Waits' image origin ↔
      ∃ item source, rename item = image ∧ rename source = origin ∧ Waits item source)
    {rest : List α} (takes : TakesLeast (Unblocked items Waits) [] rest) :
    TakesLeast (Unblocked (items.map rename) Waits') [] (rest.map rename) := by
  have injective : ∀ first ∈ items, ∀ second ∈ items,
      rename first = rename second → first = second := by
    intro first firstMem second secondMem same
    rcases lt_trichotomy first second with below | equal | above
    · exact ((strict _ firstMem _ secondMem below).ne same).elim
    · exact equal
    · exact ((strict _ secondMem _ firstMem above).ne same.symm).elim
  have member {done : List α} (doneInside : done ⊆ items) {item : α}
      (itemMem : item ∈ items) : rename item ∈ done.map rename ↔ item ∈ done := by
    constructor
    · intro imageMem
      obtain ⟨other, otherMem, same⟩ := List.mem_map.mp imageMem
      rwa [← injective other (doneInside otherMem) item itemMem same]
    · exact List.mem_map_of_mem
  refine TakesLeast.map strict (fun _ _ unblocked => unblocked.1) ?_ (List.nil_subset items) takes
  intro done doneInside image
  constructor
  · rintro ⟨imageMem, unfinished, finished⟩
    obtain ⟨item, itemMem, rfl⟩ := List.mem_map.mp imageMem
    refine ⟨item, rfl, itemMem, ?_, ?_⟩
    · exact fun done' => unfinished ((member doneInside itemMem).mpr done')
    · intro source waits
      have origin := finished (rename source) ((renamed _ _).mpr ⟨item, source, rfl, rfl, waits⟩)
      exact (member doneInside (inside item source waits).2).mp origin
  · rintro ⟨item, rfl, itemMem, unfinished, finished⟩
    refine ⟨List.mem_map_of_mem itemMem, ?_, ?_⟩
    · exact fun done' => unfinished ((member doneInside itemMem).mp done')
    · intro origin waits'
      obtain ⟨other, source, same, rfl, waits⟩ := (renamed _ _).mp waits'
      obtain rfl := injective other (inside other source waits).1 item itemMem same
      exact List.mem_map_of_mem (finished source waits)

/-- A finite counting problem: `dependents u` are the items that `u` releases
once, and `needed v` is the number of releases `v` waits for. -/
structure Schedule (α : Type*) [LinearOrder α] where
  items : List α
  dependents : α → List α
  needed : α → ℤ
  items_nodup : items.Nodup
  dependents_nodup : ∀ item, (dependents item).Nodup
  dependents_subset : ∀ item ∈ items, dependents item ⊆ items
  released_le_needed : ∀ item ∈ items,
    ((items.filter fun source => item ∈ dependents source).length : ℤ) ≤ needed item

namespace Schedule

variable (schedule : Schedule α)

/-- The number of items of `done` that release `item`. -/
def released (done : List α) (item : α) : ℕ :=
  (done.filter fun source => item ∈ schedule.dependents source).length

/-- An unfinished item all of whose needed releases have happened. -/
def Ready (done : List α) (item : α) : Prop :=
  item ∈ schedule.items ∧ item ∉ done ∧ schedule.needed item = schedule.released done item

/-- `item` waits for `source`. -/
def Waits (item source : α) : Prop := source ∈ schedule.items ∧ item ∈ schedule.dependents source

/-- Each item needs exactly one release from each item it waits for. -/
def Simple : Prop :=
  ∀ item ∈ schedule.items, schedule.needed item = schedule.released schedule.items item

theorem released_append (first second : List α) (item : α) :
    schedule.released (first ++ second) item =
      schedule.released first item + schedule.released second item := by
  simp [released]

@[simp]
theorem released_singleton (source item : α) : schedule.released [source] item =
      if item ∈ schedule.dependents source then 1 else 0 := by
  by_cases waits : item ∈ schedule.dependents source <;>
    simp [released, waits]

variable {first second : List α}

theorem released_le_of_subset (nodup : first.Nodup) (subset : first ⊆ second) (item : α) :
    schedule.released first item ≤ schedule.released second item := by
  apply List.Subperm.length_le
  apply List.Nodup.subperm (nodup.filter _)
  intro source sourceMem
  obtain ⟨sourceDone, releases⟩ := List.mem_filter.mp sourceMem
  exact List.mem_filter.mpr ⟨subset sourceDone, releases⟩

theorem released_eq_of_forall_mem
    (firstNodup : first.Nodup) (secondNodup : second.Nodup) (subset : first ⊆ second) (item : α)
    (covers : ∀ source ∈ second, item ∈ schedule.dependents source → source ∈ first) :
    schedule.released first item = schedule.released second item := by
  apply List.Perm.length_eq
  apply (List.perm_ext_iff_of_nodup (firstNodup.filter _) (secondNodup.filter _)).mpr
  intro source
  simp only [List.mem_filter, decide_eq_true_eq]
  constructor
  · rintro ⟨sourceFirst, releases⟩
    exact ⟨subset sourceFirst, releases⟩
  · rintro ⟨sourceSecond, releases⟩
    exact ⟨covers source sourceSecond releases, releases⟩

theorem mem_of_released_eq (firstNodup : first.Nodup) (subset : first ⊆ second) {item source : α}
    (same : schedule.released first item = schedule.released second item)
    (sourceMem : source ∈ second)
    (releases : item ∈ schedule.dependents source) : source ∈ first := by
  by_contra missing
  have extendedNodup : (source :: first).Nodup := List.nodup_cons.mpr ⟨missing, firstNodup⟩
  have extendedSubset : source :: first ⊆ second := List.cons_subset.mpr ⟨sourceMem, subset⟩
  have larger := schedule.released_le_of_subset extendedNodup extendedSubset item
  have counted : schedule.released (source :: first) item = schedule.released first item + 1 := by
    simp [released, releases]
  omega

section Order

variable {schedule} {done rest : List α}

theorem takesLeast_mem (takes : TakesLeast schedule.Ready done rest) : rest ⊆ schedule.items :=
  takes.subset fun _ _ ready => ready.1

theorem takesLeast_nodup (takes : TakesLeast schedule.Ready done rest)
    (doneNodup : done.Nodup) : (done ++ rest).Nodup := by
  induction takes with
  | stop => simpa using doneNodup
  | @pick done rest current ready _ _ ih =>
    have nextNodup : (done ++ [current]).Nodup := by
      rw [List.nodup_append_comm]
      exact List.nodup_cons.mpr ⟨ready.2.1, doneNodup⟩
    simpa using ih nextNodup

/-- Nothing is ready when the order ends. -/
theorem takesLeast_maximal (takes : TakesLeast schedule.Ready done rest)
    (item : α) : ¬ schedule.Ready (done ++ rest) item := by
  induction takes with
  | stop noneReady => simpa using noneReady item
  | pick _ _ _ ih => simpa using ih

/-- Every item is preceded by exactly the releases it needs. -/
theorem takesLeast_needed (takes : TakesLeast schedule.Ready done rest)
    {front back : List α} {item : α} (split : rest = front ++ item :: back) :
    schedule.needed item = schedule.released (done ++ front) item := by
  induction takes generalizing front with
  | stop => simp at split
  | @pick done rest current ready _ _ ih =>
    cases front with
    | nil =>
      obtain ⟨rfl, -⟩ := List.cons.inj split
      simpa using ready.2.2
    | cons head front =>
      obtain ⟨rfl, tailSplit⟩ := List.cons.inj split
      simpa using ih tailSplit

end Order

section Complete

variable {schedule} {order : List α}

/-- In a complete order each item needs exactly one release from each item it
waits for. -/
theorem simple_of_complete (takes : TakesLeast schedule.Ready [] order)
    (complete : schedule.items ⊆ order) : schedule.Simple := by
  have orderNodup : order.Nodup := by simpa using takesLeast_nodup takes List.nodup_nil
  intro item itemMem
  obtain ⟨front, back, split⟩ := List.append_of_mem (complete itemMem)
  have exact := takesLeast_needed takes split
  have frontSublist : front.Sublist order := by simp [split]
  have frontSubset : front ⊆ schedule.items :=
    fun source sourceMem => takesLeast_mem takes (frontSublist.subset sourceMem)
  have upper := schedule.released_le_needed item itemMem
  have lower := schedule.released_le_of_subset (frontSublist.nodup orderNodup) frontSubset item
  rw [List.nil_append] at exact
  simp only [released] at exact lower ⊢
  omega

/-- In a complete order every item comes after all items it waits for. -/
theorem precedes_of_complete [BEq α] [LawfulBEq α] (takes : TakesLeast schedule.Ready [] order)
    (complete : schedule.items ⊆ order) {item source : α}
    (itemMem : item ∈ schedule.items) (waits : schedule.Waits item source) :
    order.idxOf source < order.idxOf item := by
  have orderNodup : order.Nodup := by simpa using takesLeast_nodup takes List.nodup_nil
  obtain ⟨front, back, split⟩ := List.append_of_mem (complete itemMem)
  have frontSublist : front.Sublist order := by simp [split]
  have frontSubset : front ⊆ schedule.items :=
    fun earlier earlierMem => takesLeast_mem takes (frontSublist.subset earlierMem)
  have needed := takesLeast_needed takes split
  have simple := simple_of_complete takes complete item itemMem
  have same : schedule.released front item = schedule.released schedule.items item := by
    rw [List.nil_append] at needed
    omega
  have sourceFront : source ∈ front :=
    schedule.mem_of_released_eq (frontSublist.nodup orderNodup) frontSubset same waits.1 waits.2
  have itemNotFront : item ∉ front := by
    rw [split] at orderNodup
    have apart := (List.nodup_append.mp orderNodup).2.2
    intro itemFront
    exact apart item itemFront item (by simp) rfl
  have sourceIdx : order.idxOf source = front.idxOf source := by
    rw [split, List.idxOf_append_of_mem sourceFront]
  have itemIdx : order.idxOf item = front.length := by
    rw [split, List.idxOf_append_of_notMem itemNotFront]
    simp
  rw [sourceIdx, itemIdx]
  exact List.idxOf_lt_length_iff.mpr sourceFront

theorem acyclic_of_complete (takes : TakesLeast schedule.Ready [] order)
    (complete : schedule.items ⊆ order) (item : α) :
    ¬ Relation.TransGen schedule.Waits item item := by
  have decreases : ∀ {first last : α}, Relation.TransGen schedule.Waits first last →
        first ∈ schedule.items ∧ order.idxOf last < order.idxOf first := by
    intro first last path
    have firstMem : first ∈ schedule.items := by
      obtain ⟨next, waits, -⟩ := Relation.TransGen.head'_iff.mp path
      exact schedule.dependents_subset next waits.1 waits.2
    refine ⟨firstMem, ?_⟩
    induction path with
    | single waits => exact precedes_of_complete takes complete firstMem waits
    | @tail middle last path waits ih =>
      have middleMem : middle ∈ schedule.items := schedule.dependents_subset last waits.1 waits.2
      exact lt_trans (precedes_of_complete takes complete middleMem waits) ih
  intro cycle
  exact lt_irrefl _ (decreases cycle).2

/-- Without cycles and without repeated needs the order is complete: an
unfinished item that waits for finished items only would be ready. -/
theorem complete_of_acyclic (takes : TakesLeast schedule.Ready [] order) (simple : schedule.Simple)
    (acyclic : ∀ item, ¬ Relation.TransGen schedule.Waits item item) : schedule.items ⊆ order := by
  have orderNodup : order.Nodup := by simpa using takesLeast_nodup takes List.nodup_nil
  let Item := { item // item ∈ schedule.items }
  let Before : Item → Item → Prop := fun earlier later =>
    Relation.TransGen schedule.Waits later.val earlier.val
  have : IsTrans Item Before := ⟨fun _ _ _ first second => second.trans first⟩
  have : Std.Irrefl Before := ⟨fun item => acyclic item.val⟩
  have : Finite Item := List.finite_toSet schedule.items
  have wellFounded : WellFounded Before := Finite.wellFounded_of_trans_of_irrefl Before
  by_contra incomplete
  obtain ⟨missing, missingMem, missingOut⟩ :=
    Set.not_subset.mp (show ¬ {item | item ∈ schedule.items} ⊆
      {item | item ∈ order} from fun covered => incomplete covered)
  obtain ⟨first, firstOut, minimal⟩ := wellFounded.has_min
    {item : Item | item.val ∉ order} ⟨⟨missing, missingMem⟩, missingOut⟩
  have covers : ∀ source ∈ schedule.items,
      first.val ∈ schedule.dependents source → source ∈ order := by
    intro source sourceMem releases
    by_contra sourceOut
    exact minimal ⟨source, sourceMem⟩ sourceOut (Relation.TransGen.single ⟨sourceMem, releases⟩)
  have same := schedule.released_eq_of_forall_mem orderNodup
    schedule.items_nodup (takesLeast_mem takes) first.val covers
  apply takesLeast_maximal takes first.val
  refine ⟨first.property, by simpa using firstOut, ?_⟩
  rw [List.nil_append, simple first.val first.property, same]

/-- The order is complete exactly when the items have no waiting cycle and no
item needs two releases from the same item. -/
theorem complete_iff (takes : TakesLeast schedule.Ready [] order) :
    order.length = schedule.items.length ↔ schedule.Simple ∧
        ∀ item, ¬ Relation.TransGen schedule.Waits item item := by
  have orderNodup : order.Nodup := by simpa using takesLeast_nodup takes List.nodup_nil
  have subperm : order.Subperm schedule.items :=
    List.Nodup.subperm orderNodup (takesLeast_mem takes)
  constructor
  · intro sameLength
    have perm : order.Perm schedule.items := subperm.perm_of_length_le (le_of_eq sameLength.symm)
    have complete : schedule.items ⊆ order := perm.symm.subset
    exact ⟨simple_of_complete takes complete, acyclic_of_complete takes complete⟩
  · rintro ⟨simple, acyclic⟩
    have complete := complete_of_acyclic takes simple acyclic
    exact le_antisymm subperm.length_le (List.Nodup.subperm schedule.items_nodup complete).length_le

/-- A complete order lists every item exactly once. -/
theorem perm_of_complete (takes : TakesLeast schedule.Ready [] order)
    (sameLength : order.length = schedule.items.length) : order.Perm schedule.items := by
  have orderNodup : order.Nodup := by simpa using takesLeast_nodup takes List.nodup_nil
  exact (List.Nodup.subperm orderNodup
    (takesLeast_mem takes)).perm_of_length_le (le_of_eq sameLength.symm)

end Complete

/-- For simple schedules an item is ready when everything it waits for is
finished. -/
theorem ready_iff_unblocked {schedule : Schedule α}
    (simple : schedule.Simple) {done : List α} (doneNodup : done.Nodup)
    (doneSubset : done ⊆ schedule.items) {item : α} : schedule.Ready done item ↔
      Unblocked schedule.items schedule.Waits done item := by
  constructor
  · rintro ⟨itemMem, unfinished, needed⟩
    refine ⟨itemMem, unfinished, fun source waits => ?_⟩
    have same : schedule.released done item = schedule.released schedule.items item := by
      have all := simple item itemMem
      omega
    exact schedule.mem_of_released_eq doneNodup doneSubset same waits.1 waits.2
  · rintro ⟨itemMem, unfinished, finished⟩
    refine ⟨itemMem, unfinished, ?_⟩
    have same := schedule.released_eq_of_forall_mem doneNodup schedule.items_nodup doneSubset item
      fun source sourceMem releases => finished source ⟨sourceMem, releases⟩
    rw [simple item itemMem, same]

theorem takesLeast_unblocked {schedule : Schedule α} (simple : schedule.Simple) {done rest : List α}
    (takes : TakesLeast schedule.Ready done rest) (doneNodup : done.Nodup)
    (doneSubset : done ⊆ schedule.items) :
    TakesLeast (Unblocked schedule.items schedule.Waits) done rest := by
  induction takes with
  | stop noneReady =>
    refine .stop fun item unblocked => noneReady item ?_
    exact (ready_iff_unblocked simple doneNodup doneSubset).mpr unblocked
  | @pick done rest current ready least _ ih =>
    refine .pick ((ready_iff_unblocked simple doneNodup doneSubset).mp ready) ?_ ?_
    · intro other unblocked
      exact least other ((ready_iff_unblocked simple doneNodup doneSubset).mpr unblocked)
    · refine ih ?_ ?_
      · rw [List.nodup_append_comm]
        exact List.nodup_cons.mpr ⟨ready.2.1, doneNodup⟩
      · exact List.append_subset.mpr ⟨doneSubset, by simpa using ready.1⟩

end Schedule

end LeastReadyOrder
