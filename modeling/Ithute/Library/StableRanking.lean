import Ithute.Library.ListWindows
import Mathlib.Data.List.Sort
import Mathlib.Data.List.Pairwise

/-!
# Stable sorting and priority queues

Sorting stably by a key is sorting by the key with the original position as
tie-break, and so is draining a priority queue whose comparison falls back on
the position.  Two such rankings of one list agree exactly when their
comparisons agree on every pair of elements.
-/

namespace StableRanking

variable {α κ : Type*}

/-- The order of a stable sort: by key, then by original position. -/
def Precedes [LinearOrder κ] (key : α → κ) (first second : α × ℕ) : Prop :=
  key first.1 < key second.1 ∨ (key first.1 = key second.1 ∧ first.2 < second.2)

instance [LinearOrder κ] (key : α → κ) (first second : α × ℕ) :
    Decidable (Precedes key first second) :=
  inferInstanceAs (Decidable (_ ∨ _))

variable {key : α → κ} {first second : α × ℕ}

theorem Precedes.asymm [LinearOrder κ]
    (before : Precedes key first second) : ¬ Precedes key second first := by
  rintro (after | ⟨same, after⟩) <;>
    rcases before with before | ⟨same', before⟩
  · exact lt_asymm before after
  · exact (ne_of_lt after) same'.symm
  · exact (ne_of_lt before) same.symm
  · exact lt_asymm before after

theorem Precedes.trans [LinearOrder κ] {third : α × ℕ} (before : Precedes key first second)
    (after : Precedes key second third) : Precedes key first third := by
  rcases before with below | ⟨same, earlier⟩ <;>
    rcases after with below' | ⟨same', earlier'⟩
  · exact Or.inl (lt_trans below below')
  · exact Or.inl (same' ▸ below)
  · exact Or.inl (same ▸ below')
  · exact Or.inr ⟨same.trans same', lt_trans earlier earlier'⟩

theorem Precedes.trichotomous [LinearOrder κ] (key : α → κ) (apart : first.2 ≠ second.2) :
    Precedes key first second ∨ Precedes key second first := by
  rcases lt_trichotomy (key first.1) (key second.1) with below | same | above
  · exact Or.inl (Or.inl below)
  · rcases lt_or_gt_of_ne apart with before | after
    · exact Or.inl (Or.inr ⟨same, before⟩)
    · exact Or.inr (Or.inr ⟨same.symm, after⟩)
  · exact Or.inr (Or.inl above)

theorem orderedInsert_precedes [LinearOrder κ] {head : α × ℕ} {sorted : List (α × ℕ)}
    (pairwise : sorted.Pairwise (Precedes key)) (earlier : ∀ other ∈ sorted, head.2 < other.2) :
    (sorted.orderedInsert (fun first second => key first.1 ≤ key second.1) head).Pairwise
        (Precedes key) := by
  induction sorted with
  | nil => simp
  | cons other sorted ih =>
    obtain ⟨otherFirst, tailPairwise⟩ := List.pairwise_cons.mp pairwise
    rw [List.orderedInsert_cons]
    split
    · next headLe =>
        have headOther : Precedes key head other := by
          rcases lt_or_eq_of_le headLe with below | same
          · exact Or.inl below
          · exact Or.inr ⟨same, earlier other (by simp)⟩
        refine List.pairwise_cons.mpr ⟨?_, pairwise⟩
        intro later laterMem
        rcases List.mem_cons.mp laterMem with rfl | inTail
        · exact headOther
        · rcases otherFirst later inTail with below | ⟨same, -⟩
          · exact Or.inl (lt_of_le_of_lt headLe below)
          · rcases lt_or_eq_of_le headLe with below | sameHead
            · exact Or.inl (same ▸ below)
            · exact Or.inr ⟨sameHead.trans same, earlier later (by simp [inTail])⟩
    · next notLe =>
        refine List.pairwise_cons.mpr ⟨?_, ih tailPairwise
          fun later laterMem => earlier later (by simp [laterMem])⟩
        intro later laterMem
        rcases List.mem_orderedInsert _ |>.mp laterMem with rfl | inTail
        · exact Or.inl (not_le.mp notLe)
        · exact otherFirst later inTail

/-- A stable sort of the numbered list is sorted by key and position. -/
theorem insertionSort_zipIdx_precedes [LinearOrder κ] (key : α → κ) (values : List α) (start : ℕ) :
    ((values.zipIdx start).insertionSort fun first second => key first.1 ≤ key second.1).Pairwise
        (Precedes key) := by
  induction values generalizing start with
  | nil => simp
  | cons value values ih =>
    rw [List.zipIdx_cons, List.insertionSort_cons]
    apply orderedInsert_precedes (ih (start + 1))
    intro other otherMem
    rw [List.mem_insertionSort] at otherMem
    have bound := List.le_snd_of_mem_zipIdx otherMem
    exact bound

/-- Forgetting the positions of a stably sorted numbered list sorts the list
itself. -/
theorem map_fst_insertionSort_zipIdx [LinearOrder κ] (key : α → κ) (values : List α) :
    (values.zipIdx.insertionSort fun first second => key first.1 ≤ key second.1).map Prod.fst =
        values.insertionSort fun first second => key first ≤ key second := by
  rw [List.map_insertionSort _ (fun first second => key first ≤ key second) Prod.fst]
  · rw [List.zipIdx_map_fst]
  · intro first _ second _
    rfl

section PriorityQueue

variable (outranks : α → α → Prop) [DecidableRel outranks]

/-- Push the elements one by one on a priority queue, kept as a sorted
list. -/
def pushAll (elements queue : List α) : List α :=
  elements.foldl (fun queue element => queue.orderedInsert outranks element) queue

theorem pushAll_perm (elements queue : List α) :
    (pushAll outranks elements queue).Perm (elements ++ queue) := by
  induction elements generalizing queue with
  | nil => rfl
  | cons element elements ih =>
    have pushed : (elements ++ queue.orderedInsert outranks element).Perm
        (elements ++ element :: queue) :=
      (List.perm_orderedInsert outranks element queue).append_left _
    exact ((ih _).trans pushed).trans List.perm_middle

theorem pushAll_map {β : Type*} (renamed : β → β → Prop) [DecidableRel renamed] (rename : α → β)
    (same : ∀ one other, renamed (rename one) (rename other) ↔
      outranks one other) (elements queue : List α) :
    pushAll renamed (elements.map rename) (queue.map rename) =
      (pushAll outranks elements queue).map rename := by
  have inserted (element : α) (queue : List α) :
      (queue.map rename).orderedInsert renamed (rename element) =
        (queue.orderedInsert outranks element).map rename := by
    induction queue with
    | nil => rfl
    | cons head queue ih =>
      simp only [List.map_cons, List.orderedInsert_cons, same]
      split
      · rfl
      · rw [ih, List.map_cons]
  induction elements generalizing queue with
  | nil => rfl
  | cons element elements ih =>
    change pushAll renamed (elements.map rename)
      ((queue.map rename).orderedInsert renamed (rename element)) = _
    rw [inserted]
    exact ih _

/-- A queue filled by pushing is sorted, when the comparison orders the
elements it meets. -/
theorem pushAll_pairwise {before : α → α → Prop} {members : List α}
    (total : ∀ first ∈ members, ∀ second ∈ members, first ≠ second →
      (outranks first second ↔ before first second) ∧ (before first second ∨ before second first))
    (trans : ∀ first ∈ members, ∀ second ∈ members, ∀ third ∈ members,
      before first second → before second third → before first third)
    (elements queue : List α) (inside : elements ++ queue ⊆ members)
    (nodup : (elements ++ queue).Nodup) (sorted : queue.Pairwise before) :
    (pushAll outranks elements queue).Pairwise before := by
  induction elements generalizing queue with
  | nil => exact sorted
  | cons element elements ih =>
    have moved : (elements ++ queue.orderedInsert outranks element).Perm
        (element :: elements ++ queue) :=
      ((List.perm_orderedInsert outranks element queue).append_left _).trans List.perm_middle
    refine ih (queue.orderedInsert outranks element) (fun member mem => inside (moved.subset mem))
      (moved.nodup_iff.mpr nodup) ?_
    have elementMem : element ∈ members := inside (by simp)
    have queueInside : queue ⊆ members := fun member mem => inside (by simp [mem])
    have fresh : element ∉ queue := by
      intro mem
      exact (List.nodup_cons.mp nodup).1 (by simp [mem])
    clear ih moved nodup inside
    induction queue with
    | nil => simp
    | cons head queue ih =>
      obtain ⟨headFirst, tailSorted⟩ := List.pairwise_cons.mp sorted
      have headMem : head ∈ members := queueInside (by simp)
      have different : element ≠ head := by
        rintro rfl
        exact fresh (by simp)
      obtain ⟨decides, linear⟩ := total element elementMem head headMem different
      rw [List.orderedInsert_cons]
      split
      · next wins =>
          have elementHead := decides.mp wins
          refine List.pairwise_cons.mpr ⟨?_, sorted⟩
          intro later laterMem
          rcases List.mem_cons.mp laterMem with rfl | inTail
          · exact elementHead
          · exact trans element elementMem head headMem later
              (queueInside laterMem) elementHead (headFirst later inTail)
      · next loses =>
          have headElement : before head element :=
            linear.resolve_left fun wins => loses (decides.mpr wins)
          refine List.pairwise_cons.mpr ⟨?_, ih tailSorted
            (fun member mem => queueInside (by simp [mem])) fun mem => fresh (by simp [mem])⟩
          intro later laterMem
          rcases (List.mem_orderedInsert outranks).mp laterMem with
            rfl | inTail
          · exact headElement
          · exact headFirst later inTail

end PriorityQueue

/-- Two rankings of the same distinct elements are equal when their
comparisons agree. -/
theorem eq_of_agree {before before' : α → α → Prop} {first second : List α}
    (perm : first.Perm second) (nodup : first.Nodup) (firstSorted : first.Pairwise before)
    (secondSorted : second.Pairwise before')
    (asymm : ∀ one other, before one other → ¬ before other one)
    (agree : ∀ one ∈ first, ∀ other ∈ first, one ≠ other →
      before' one other → before one other) : first = second := by
  have secondNodup := perm.nodup_iff.mp nodup
  have secondSorted' : second.Pairwise before := by
    refine (secondSorted.and secondNodup).imp_of_mem ?_
    rintro one other oneMem otherMem ⟨related, different⟩
    exact agree one (perm.symm.subset oneMem) other (perm.symm.subset otherMem) different related
  refine List.Perm.eq_of_pairwise ?_ firstSorted secondSorted' perm
  intro one other _ _ forth back
  exact (asymm one other forth back).elim

theorem zipIdx_nodup (values : List α) : values.zipIdx.Nodup := by
  have indices : (values.zipIdx.map Prod.snd).Nodup := by
    rw [List.zipIdx_map_snd]
    exact List.nodup_range'
  exact indices.of_map

theorem zipIdx_snd_ne {values : List α} {one other : α × ℕ}
    (oneMem : one ∈ values.zipIdx) (otherMem : other ∈ values.zipIdx)
    (different : one ≠ other) : one.2 ≠ other.2 := by
  intro same
  have oneAt := List.mem_zipIdx_iff_getElem?.mp oneMem
  have otherAt := List.mem_zipIdx_iff_getElem?.mp otherMem
  rw [same, otherAt] at oneAt
  exact different (Prod.ext (Option.some.inj oneAt).symm same)

section Rankings

variable {κ' : Type*} [LinearOrder κ] [LinearOrder κ'] {key : α → κ}
  {key' : α → κ'} {values : List α} {first second : List (α × ℕ)}

/-- A ranking by one key lists the values of a ranking by another key exactly
when the second key orders whatever the first key orders strictly. -/
theorem map_fst_eq_iff (firstPerm : first.Perm values.zipIdx)
    (secondPerm : second.Perm values.zipIdx) (firstSorted : first.Pairwise (Precedes key))
    (secondSorted : second.Pairwise (Precedes key')) (determined : ∀ one ∈ values, ∀ other ∈ values,
      key one = key other → key' one = key' other) :
    first.map Prod.fst = second.map Prod.fst ↔ ∀ one ∈ values.zipIdx, ∀ other ∈ values.zipIdx,
        key one.1 < key other.1 → Precedes key' one other := by
  constructor
  · intro same one oneMem other otherMem below
    have different : one ≠ other := by
      rintro rfl
      exact lt_irrefl _ below
    have apart := zipIdx_snd_ne oneMem otherMem different
    refine (Precedes.trichotomous key' apart).resolve_right fun back => ?_
    -- Both rankings list the values in the order of the first key.
    have keysSorted : (second.map Prod.fst).Pairwise fun one other =>
        key one ≤ key other := by
      rw [← same, List.pairwise_map]
      refine firstSorted.imp ?_
      rintro _ _ (below | ⟨equal, -⟩)
      · exact le_of_lt below
      · exact le_of_eq equal
    rw [List.pairwise_map] at keysSorted
    let Related := fun one other : α × ℕ =>
      (Precedes key' one other ∧ key one.1 ≤ key other.1) ∨
        (Precedes key' other one ∧ key other.1 ≤ key one.1)
    have symmetric : Std.Symm Related := ⟨fun _ _ related => related.symm⟩
    have related : second.Pairwise Related := (secondSorted.and keysSorted).imp Or.inl
    rcases related.forall (secondPerm.symm.subset oneMem)
        (secondPerm.symm.subset otherMem) different with
      ⟨forth, -⟩ | ⟨-, keyLe⟩
    · exact forth.asymm back
    · exact absurd below (not_lt.mpr keyLe)
  · intro orders
    have nodup := zipIdx_nodup values
    have sameOrder : first = second := by
      refine eq_of_agree (firstPerm.trans secondPerm.symm)
        (firstPerm.nodup_iff.mpr nodup) firstSorted secondSorted (fun _ _ => Precedes.asymm) ?_
      intro one oneMem other otherMem different related
      have oneIn := firstPerm.subset oneMem
      have otherIn := firstPerm.subset otherMem
      have apart := zipIdx_snd_ne oneIn otherIn different
      refine (Precedes.trichotomous key apart).resolve_right ?_
      rintro (below | ⟨equal, earlier⟩)
      · exact (orders other otherIn one oneIn below).asymm related
      · have equal' := determined other.1 (List.fst_mem_of_mem_zipIdx otherIn)
          one.1 (List.fst_mem_of_mem_zipIdx oneIn) equal
        exact Precedes.asymm (Or.inr ⟨equal', earlier⟩) related
    rw [sameOrder]

end Rankings

section Fronts

variable {before before' : α → α → Prop} {first second : List α} {limit : ℕ}

/-- The front of a ranking holds what few elements stand before. -/
theorem mem_take_iff [DecidableRel before] (sorted : first.Pairwise before)
    (asymm : ∀ one other, before one other → ¬ before other one) {one : α} (member : one ∈ first) :
    one ∈ first.take limit ↔ (first.countP fun other => decide (before other one)) < limit := by
  induction first generalizing limit with
  | nil => cases member
  | cons head rest ih =>
    obtain ⟨headFirst, restSorted⟩ := List.pairwise_cons.mp sorted
    cases limit with
    | zero => simp
    | succ limit =>
      rw [List.take_succ_cons, List.mem_cons]
      rcases List.mem_cons.mp member with rfl | later
      · have none : ((one :: rest).countP fun other => decide (before other one)) = 0 := by
          rw [List.countP_eq_zero]
          intro other otherMem
          rw [decide_eq_true_eq]
          rcases List.mem_cons.mp otherMem with rfl | otherLater
          · exact fun itself => asymm _ _ itself itself
          · exact asymm _ _ (headFirst other otherLater)
        rw [none]
        exact iff_of_true (.inl rfl) (Nat.succ_pos _)
      · have headBefore := headFirst one later
        have different : one ≠ head := by
          rintro rfl
          exact asymm _ _ headBefore headBefore
        rw [List.countP_cons, if_pos (decide_eq_true headBefore), Nat.add_lt_add_iff_right,
          ← ih restSorted later, or_iff_right different]

/-- Two rankings of one list have the same front exactly when both put the
elements of the front before the same ones. -/
theorem take_eq_take_iff (perm : first.Perm second) (nodup : first.Nodup)
    (firstSorted : first.Pairwise before) (secondSorted : second.Pairwise before')
    (asymm : ∀ one other, before one other → ¬ before other one)
    (asymm' : ∀ one other, before' one other → ¬ before' other one) :
    first.take limit = second.take limit ↔
      ∀ one ∈ first.take limit, ∀ other ∈ first, before one other → before' one other := by
  classical
  have secondNodup := perm.nodup_iff.mp nodup
  constructor
  · intro same one oneMem other otherMem forth
    by_contra notForth
    -- The other element stands before it in the second ranking, and so on the front.
    have otherTaken : other ∈ first.take limit := by
      rw [same] at oneMem ⊢
      exact ListWindows.mem_take_of_before secondSorted oneMem (perm.subset otherMem) notForth
    have different : one ≠ other := by
      rintro rfl
      exact asymm _ _ forth forth
    let Related := fun one other : α =>
      (before one other ∧ before' one other) ∨ (before other one ∧ before' other one)
    have symmetric : Std.Symm Related := ⟨fun _ _ related => related.symm⟩
    have front : (first.take limit).Pairwise before' := by
      rw [same]
      exact secondSorted.sublist (List.take_sublist _ _)
    have related : (first.take limit).Pairwise Related :=
      ((firstSorted.sublist (List.take_sublist _ _)).and front).imp Or.inl
    rcases related.forall oneMem otherTaken different with ⟨-, forth'⟩ | ⟨back, -⟩
    · exact notForth forth'
    · exact asymm _ _ forth back
  · intro agree
    have frontSorted : (first.take limit).Pairwise before' :=
      (firstSorted.sublist (List.take_sublist _ _)).imp_of_mem fun oneMem otherMem forth =>
        agree _ oneMem _ (List.mem_of_mem_take otherMem) forth
    have inside : first.take limit ⊆ second.take limit := by
      intro one oneMem
      have member := List.mem_of_mem_take oneMem
      have few := (mem_take_iff firstSorted asymm member).mp oneMem
      rw [mem_take_iff secondSorted asymm' (perm.subset member), ← perm.countP_eq]
      refine lt_of_le_of_lt (List.countP_mono_left fun other otherMem forth => ?_) few
      rw [decide_eq_true_eq] at forth ⊢
      have different : other ≠ one := by
        rintro rfl
        exact asymm' _ _ forth forth
      let Related := fun one other : α => before one other ∨ before other one
      have symmetric : Std.Symm Related := ⟨fun _ _ related => related.symm⟩
      have related : first.Pairwise Related := firstSorted.imp Or.inl
      refine (related.forall otherMem member different).resolve_right fun back => ?_
      exact asymm' _ _ forth (agree one oneMem other otherMem back)
    have perm' : (first.take limit).Perm (second.take limit) :=
      (List.subperm_of_subset (nodup.sublist (List.take_sublist _ _)) inside).perm_of_length_le
        (by rw [List.length_take, List.length_take, perm.length_eq])
    refine List.Perm.eq_of_pairwise ?_ frontSorted (secondSorted.sublist (List.take_sublist _ _))
      perm'
    intro one other _ _ forth back
    exact (asymm' one other forth back).elim

end Fronts

end StableRanking
