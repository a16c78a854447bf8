import Ithute.RealtimeChat
import Mathlib.Data.List.DropRight
import Mathlib.Data.List.Nodup
import Mathlib.Logic.Function.Basic

/-!
# Members of a conversation

`platform_manage_members` reads the members once and goes through the
mutations with the rows it has read; additions and removals reach the table
when the session commits.
-/

namespace Ithute.Members

structure MemberRow where
  role : MemberRole
  muted : Bool
  deriving DecidableEq

def inserted (mutation : MemberMutation) : MemberRow where
  role := mutation.role.getD .member
  muted := mutation.muted.getD false

def updated (mutation : MemberMutation) (row : MemberRow) : MemberRow where
  role := mutation.role.getD row.role
  muted := mutation.muted.getD row.muted

def applied (held : Option MemberRow) (mutation : MemberMutation) : Option MemberRow :=
  match mutation.action with
  | .add => some (held.getD (inserted mutation))
  | .remove => none
  | .update => held.map (updated mutation)

def allUpdated (row : MemberRow) (mutations : List MemberMutation) : MemberRow :=
  (mutations.filter fun mutation => decide (mutation.action = .update)).foldl
    (fun row mutation => updated mutation row) row

def hasRemoval (mutations : List MemberMutation) : Bool :=
  mutations.any fun mutation => decide (mutation.action = .remove)

def insertions (mutations : List MemberMutation) : List (ℕ × MemberRow) :=
  (mutations.filter fun mutation => decide (mutation.action = .add)).map fun mutation =>
    (mutation.authUserId, inserted mutation)

/-- A member that is removed is not added again after the last removal, and a
user who is not a member is added at most once and after that only updated to
what the addition says. -/
def Orderly (held : Option MemberRow) (mutations : List MemberMutation) : Prop :=
  match held with
  | some _ =>
    hasRemoval mutations = true →
      ∀ mutation ∈ mutations.rtakeWhile fun mutation => decide (mutation.action ≠ .remove),
        mutation.action ≠ .add
  | none =>
    match mutations.dropWhile fun mutation => decide (mutation.action ≠ .add) with
    | [] => True
    | first :: later =>
      (∀ mutation ∈ later, mutation.action = .update) ∧
        allUpdated (inserted first) later = inserted first

section OneUser

variable {row : MemberRow} {mutations : List MemberMutation}

theorem foldl_applied_of_noRemoval (kept : hasRemoval mutations = false) :
    mutations.foldl applied (some row) = some (allUpdated row mutations) := by
  induction mutations generalizing row with
  | nil => rfl
  | cons mutation mutations ih =>
    simp only [hasRemoval, List.any_cons, Bool.or_eq_false_iff, decide_eq_false_iff_not] at kept
    rw [List.foldl_cons]
    cases action : mutation.action with
    | add => simpa [applied, action, allUpdated] using ih kept.2
    | remove => exact absurd action kept.1
    | update => simpa [applied, action, allUpdated] using ih kept.2

theorem foldl_applied_none (unadded : ∀ mutation ∈ mutations, mutation.action ≠ .add) :
    mutations.foldl applied none = none := by
  induction mutations with
  | nil => rfl
  | cons mutation mutations ih =>
    have rest := ih fun other member => unadded other (List.mem_cons_of_mem _ member)
    cases action : mutation.action with
    | add => exact absurd action (unadded mutation List.mem_cons_self)
    | remove => simpa [applied, action] using rest
    | update => simpa [applied, action] using rest

theorem foldl_applied_none_iff (kept : hasRemoval mutations = false) :
    mutations.foldl applied none = none ↔ ∀ mutation ∈ mutations, mutation.action ≠ .add := by
  refine ⟨fun absent => ?_, foldl_applied_none⟩
  induction mutations with
  | nil => simp
  | cons mutation mutations ih =>
    simp only [hasRemoval, List.any_cons, Bool.or_eq_false_iff, decide_eq_false_iff_not] at kept
    rw [List.foldl_cons] at absent
    cases action : mutation.action with
    | add =>
      simp only [applied, action, foldl_applied_of_noRemoval kept.2] at absent
      cases absent
    | remove => exact absurd action kept.1
    | update =>
      simp only [applied, action, Option.map_none] at absent
      simpa [action] using ih kept.2 absent

theorem foldl_applied_of_removal (held : Option MemberRow) (removed : hasRemoval mutations = true)
    (unadded : ∀ mutation ∈ mutations, mutation.action ≠ .add) :
    mutations.foldl applied held = none := by
  induction mutations generalizing held with
  | nil => cases removed
  | cons mutation mutations ih =>
    have rest : ∀ other ∈ mutations, other.action ≠ .add :=
      fun other member => unadded other (List.mem_cons_of_mem _ member)
    rw [List.foldl_cons]
    by_cases action : mutation.action = .remove
    · simpa [applied, action] using foldl_applied_none rest
    · refine ih _ ?_ rest
      simpa [hasRemoval, action] using removed

/-- The row of a member follows the order of the mutations exactly where they
are orderly. -/
theorem member_orderly_iff : mutations.foldl applied (some row) =
        (if hasRemoval mutations = true then none else some (allUpdated row mutations)) ↔
      Orderly (some row) mutations := by
  by_cases removed : hasRemoval mutations = true
  · simp only [Orderly, removed, if_true, forall_const]
    have last : ∃ front gone, mutations.rdropWhile (fun mutation => decide (mutation.action ≠
        .remove)) = front ++ [gone] ∧ gone.action = .remove := by
      have nonempty : mutations.rdropWhile (fun mutation => decide (mutation.action ≠
          .remove)) ≠ [] := by
        rw [Ne, List.rdropWhile_eq_nil_iff]
        simpa [hasRemoval] using removed
      refine ⟨_, _, (List.dropLast_append_getLast nonempty).symm, ?_⟩
      simpa using List.rdropWhile_last_not _ _ nonempty
    obtain ⟨front, gone, is, action⟩ := last
    have kept : hasRemoval (mutations.rtakeWhile fun mutation =>
        decide (mutation.action ≠ .remove)) = false := by
      rw [hasRemoval, List.any_eq_false]
      intro mutation member
      simpa using List.mem_rtakeWhile_imp member
    rw [← foldl_applied_none_iff kept]
    conv_lhs => rw [← List.rdropWhile_append_rtakeWhile (p := fun mutation : MemberMutation =>
      decide (mutation.action ≠ .remove)) (l := mutations), is, List.foldl_append,
      List.foldl_concat]
    simp only [applied, action]
  · rw [if_neg removed, foldl_applied_of_noRemoval (Bool.eq_false_iff.mpr removed)]
    exact iff_of_true rfl fun some => absurd some removed

theorem insertions_eq_nil_iff :
    insertions mutations = [] ↔ ∀ mutation ∈ mutations, mutation.action ≠ .add := by
  simp [insertions, List.filter_eq_nil_iff]

theorem updates_iff : (∀ mutation ∈ mutations, mutation.action = .update) ↔
      insertions mutations = [] ∧ hasRemoval mutations = false := by
  rw [insertions_eq_nil_iff, hasRemoval, List.any_eq_false, ← forall₂_and]
  refine forall₂_congr fun mutation _ => ?_
  cases mutation.action <;> simp

/-- What is added stays as it is exactly where only updates follow that change
nothing. -/
theorem added_orderly_iff : ((insertions mutations).length = 0 ∧
        mutations.foldl applied (some row) = some row) ↔
      (∀ mutation ∈ mutations, mutation.action = .update) ∧ allUpdated row mutations = row := by
  rw [updates_iff, List.length_eq_zero_iff, and_assoc]
  refine and_congr_right fun unadded => ?_
  cases removed : hasRemoval mutations with
  | false => simp [foldl_applied_of_noRemoval removed]
  | true => simp [foldl_applied_of_removal (some row) removed (insertions_eq_nil_iff.mp unadded)]

/-- The row of a user who is not a member follows the order of the mutations,
with one insertion at most, exactly where they are orderly. -/
theorem stranger_orderly_iff : ((insertions mutations).length ≤ 1 ∧ mutations.foldl applied none =
        (insertions mutations).head?.map Prod.snd) ↔ Orderly none mutations := by
  induction mutations with
  | nil => simp [Orderly, insertions]
  | cons mutation mutations ih =>
    by_cases action : mutation.action = .add
    · have inserts : insertions (mutation :: mutations) =
          (mutation.authUserId, inserted mutation) :: insertions mutations := by
        simp [insertions, action]
      rw [inserts, List.foldl_cons]
      simpa [Orderly, applied, action] using added_orderly_iff
    · have inserts : insertions (mutation :: mutations) = insertions mutations := by
        simp [insertions, action]
      have stays : applied none mutation = none := by
        unfold applied
        cases same : mutation.action <;> simp_all
      rw [inserts, List.foldl_cons, stays, ih]
      simp [Orderly, action]

end OneUser

/-- The rows as they were read, with the updates since, the rows to insert and
the users whose rows go. -/
structure MemberSession where
  current : ℕ → Option MemberRow
  added : List (ℕ × MemberRow) := []
  deleted : List ℕ := []

namespace MemberSession

variable (session : MemberSession)

def mutate (mutation : MemberMutation) : MemberSession :=
  match mutation.action, session.current mutation.authUserId with
  | .add, none =>
    { session with added := session.added ++ [(mutation.authUserId, inserted mutation)] }
  | .remove, some _ => { session with deleted := session.deleted ++ [mutation.authUserId] }
  | .update, some row =>
    { session with
      current := Function.update session.current mutation.authUserId
        (some (updated mutation row)) }
  | _, _ => session

/-- The members after the commit, which fails where a user would have two
rows. -/
def commit : Option (ℕ → Option MemberRow) :=
  if (session.added.map Prod.fst).Nodup then
    some fun user =>
      if user ∈ session.deleted then none
      else (session.current user).or (session.added.lookup user)
  else none

end MemberSession

/-- The members after a call; `none` is its integrity error. -/
def platformManageMembers (current : ℕ → Option MemberRow)
    (mutations : List MemberMutation) : Option (ℕ → Option MemberRow) :=
  (mutations.foldl MemberSession.mutate { current := current }).commit

def applyMutation (members : ℕ → Option MemberRow) (mutation : MemberMutation) :
    ℕ → Option MemberRow :=
  Function.update members mutation.authUserId (applied (members mutation.authUserId) mutation)

def ofUser (user : ℕ) (mutations : List MemberMutation) : List MemberMutation :=
  mutations.filter fun mutation => decide (mutation.authUserId = user)

@[simp]
theorem ofUser_nil (user : ℕ) : ofUser user [] = [] :=
  rfl

theorem ofUser_cons_self {user : ℕ} {mutation : MemberMutation}
    (same : mutation.authUserId = user) (mutations : List MemberMutation) :
    ofUser user (mutation :: mutations) = mutation :: ofUser user mutations :=
  List.filter_cons_of_pos (decide_eq_true same)

theorem ofUser_cons_other {user : ℕ} {mutation : MemberMutation}
    (other : mutation.authUserId ≠ user) (mutations : List MemberMutation) :
    ofUser user (mutation :: mutations) = ofUser user mutations :=
  List.filter_cons_of_neg (by simp [other])

theorem foldl_applyMutation (members : ℕ → Option MemberRow)
    (mutations : List MemberMutation) (user : ℕ) : mutations.foldl applyMutation members user =
      (ofUser user mutations).foldl applied (members user) := by
  induction mutations generalizing members with
  | nil => rfl
  | cons mutation mutations ih =>
    rw [List.foldl_cons, ih]
    by_cases same : mutation.authUserId = user
    · rw [ofUser_cons_self same, List.foldl_cons, ← same, applyMutation, Function.update_self]
    · rw [ofUser_cons_other same, applyMutation, Function.update_of_ne (Ne.symm same)]

section Session

variable (session : MemberSession) (mutations : List MemberMutation) (user : ℕ)

theorem current_foldl_mutate : (mutations.foldl MemberSession.mutate session).current user =
      (session.current user).map fun row => allUpdated row (ofUser user mutations) := by
  induction mutations generalizing session with
  | nil => simp [allUpdated]
  | cons mutation mutations ih =>
    rw [List.foldl_cons, ih]
    by_cases same : mutation.authUserId = user
    · rw [ofUser_cons_self same]
      subst same
      cases action : mutation.action <;> cases held : session.current mutation.authUserId <;>
        simp [MemberSession.mutate, action, held, allUpdated]
    · rw [ofUser_cons_other same]
      congr 1
      cases action : mutation.action <;> cases held : session.current mutation.authUserId <;>
        simp [MemberSession.mutate, action, held, Function.update_of_ne (Ne.symm same)]

theorem mem_deleted_foldl_mutate : user ∈ (mutations.foldl MemberSession.mutate session).deleted ↔
      user ∈ session.deleted ∨
        (session.current user).isSome = true ∧ hasRemoval (ofUser user mutations) = true := by
  induction mutations generalizing session with
  | nil => simp [hasRemoval]
  | cons mutation mutations ih =>
    rw [List.foldl_cons, ih]
    by_cases same : mutation.authUserId = user
    · rw [ofUser_cons_self same]
      subst same
      cases action : mutation.action <;> cases held : session.current mutation.authUserId <;>
        simp [MemberSession.mutate, action, held, hasRemoval]
    · rw [ofUser_cons_other same]
      cases action : mutation.action <;> cases held : session.current mutation.authUserId <;>
        simp [MemberSession.mutate, action, held, Ne.symm same]

theorem added_foldl_mutate :
    ((mutations.foldl MemberSession.mutate session).added.filter fun entry =>
        decide (entry.1 = user)) = (session.added.filter fun entry => decide (entry.1 = user)) ++
        if session.current user = none then insertions (ofUser user mutations) else [] := by
  induction mutations generalizing session with
  | nil => simp [insertions]
  | cons mutation mutations ih =>
    rw [List.foldl_cons, ih]
    by_cases same : mutation.authUserId = user
    · rw [ofUser_cons_self same]
      subst same
      cases action : mutation.action <;> cases held : session.current mutation.authUserId <;>
        simp [MemberSession.mutate, action, held, insertions]
    · rw [ofUser_cons_other same]
      cases action : mutation.action <;> cases held : session.current mutation.authUserId <;>
        simp [MemberSession.mutate, action, held, Function.update_of_ne (Ne.symm same), same]

end Session

theorem lookup_eq_head?_filter (entries : List (ℕ × MemberRow)) (user : ℕ) : entries.lookup user =
      ((entries.filter fun entry => decide (entry.1 = user)).head?).map Prod.snd := by
  induction entries with
  | nil => rfl
  | cons entry entries ih =>
    obtain ⟨key, row⟩ := entry
    by_cases same : key = user
    · simp [same]
    · have other : (user == key) = false := beq_eq_false_iff_ne.mpr (Ne.symm same)
      simp [List.lookup_cons, other, same, ih]

theorem nodup_keys_iff (entries : List (ℕ × MemberRow)) : (entries.map Prod.fst).Nodup ↔
      ∀ user, (entries.filter fun entry => decide (entry.1 = user)).length ≤ 1 := by
  rw [List.nodup_iff_count_le_one]
  refine forall_congr' fun user => ?_
  rw [List.count_eq_length_filter, List.filter_map, List.length_map]
  rfl

/-- A call keeps the order of its mutations exactly where those of every user
are orderly. -/
theorem platformManageMembers_sequential_iff (current : ℕ → Option MemberRow)
    (mutations : List MemberMutation) :
    platformManageMembers current mutations = some (mutations.foldl applyMutation current) ↔
      ∀ user, Orderly (current user) (ofUser user mutations) := by
  have stored (user : ℕ) := current_foldl_mutate { current := current } mutations user
  have gone (user : ℕ) := mem_deleted_foldl_mutate { current := current } mutations user
  have added (user : ℕ) := added_foldl_mutate { current := current } mutations user
  simp only [List.not_mem_nil, false_or, List.filter_nil, List.nil_append] at stored gone added
  have each (user : ℕ) : Orderly (current user) (ofUser user mutations) ↔
      ((if current user = none then insertions (ofUser user mutations) else []).length ≤ 1 ∧
        (ofUser user mutations).foldl applied (current user) =
          if (current user).isSome = true ∧ hasRemoval (ofUser user mutations) = true then none
          else ((current user).map fun row => allUpdated row (ofUser user mutations)).or
            ((if current user = none then insertions (ofUser user mutations) else []).head?.map
              Prod.snd)) := by
    cases held : current user with
    | none => simpa using stranger_orderly_iff.symm
    | some row => simpa using member_orderly_iff.symm
  have once := nodup_keys_iff (mutations.foldl MemberSession.mutate { current := current }).added
  simp only [added] at once
  simp only [each, forall_and, ← once, platformManageMembers, MemberSession.commit, gone, stored,
    added, lookup_eq_head?_filter]
  split_ifs with unique
  · rw [Option.some.injEq, funext_iff]
    simp only [unique, true_and, foldl_applyMutation]
    exact forall_congr' fun user => eq_comm
  · simp [unique]

/-- Only the order of the mutations of each user matters. -/
theorem platformManageMembers_congr (current : ℕ → Option MemberRow)
    {first second : List MemberMutation}
    (same : ∀ user, ofUser user first = ofUser user second) :
    platformManageMembers current first = platformManageMembers current second := by
  have stored (user : ℕ) : (first.foldl MemberSession.mutate { current := current }).current user =
      (second.foldl MemberSession.mutate { current := current }).current user := by
    rw [current_foldl_mutate, current_foldl_mutate, same]
  have gone (user : ℕ) : user ∈ (first.foldl MemberSession.mutate { current := current }).deleted ↔
      user ∈ (second.foldl MemberSession.mutate { current := current }).deleted := by
    rw [mem_deleted_foldl_mutate, mem_deleted_foldl_mutate, same]
  have added (user : ℕ) := added_foldl_mutate { current := current } first user
  simp only [same, ← added_foldl_mutate { current := current } second] at added
  have once : ((first.foldl MemberSession.mutate { current := current }).added.map
      Prod.fst).Nodup ↔
        ((second.foldl MemberSession.mutate { current := current }).added.map Prod.fst).Nodup := by
    rw [nodup_keys_iff, nodup_keys_iff]
    simp only [added]
  simp only [platformManageMembers, MemberSession.commit, once, lookup_eq_head?_filter, stored,
    gone, added]

theorem platformManageMembers_congr_swapped :
    platformManageMembers (fun _ => none) [⟨7, .remove, none, none⟩, ⟨8, .add, none, none⟩] =
      platformManageMembers (fun _ => none) [⟨8, .add, none, none⟩, ⟨7, .remove, none, none⟩] := by
  refine platformManageMembers_congr _ fun user => ?_
  by_cases seventh : user = 7
  · rw [seventh]
    rfl
  · by_cases eighth : user = 8
    · rw [eighth]
      rfl
    · simp [ofUser, Ne.symm seventh, Ne.symm eighth]

/-- A user is removed and added again in one call. -/
theorem removed_and_added : ¬ ∀ (current : ℕ → Option MemberRow) (mutations : List MemberMutation),
    platformManageMembers current mutations = some (mutations.foldl applyMutation current) := by
  intro sequential
  have same := congrArg (Option.map fun members => members 7)
    (sequential (fun _ => some { role := .member, muted := false })
      [⟨7, .remove, none, none⟩, ⟨7, .add, none, none⟩])
  exact absurd same (by decide)

end Ithute.Members
