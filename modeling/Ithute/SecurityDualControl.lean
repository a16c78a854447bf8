import Ithute.SecurityApprovals

/-!
# Dual control

An approval authorises one operation, as long as approvals and uses commit on
a row that is as they have read it.
-/

namespace Ithute.Security

open EventHistories TransitionRuns UniqueRows

theorem bind_value {Value Result : Type} {first : Except String Value}
    {rest : Value → Except String Result} {result : Result}
    (accepted : first >>= rest = .ok result) :
    ∃ value, first = .ok value ∧ rest value = .ok result := by
  cases first with
  | error detail => cases accepted
  | ok value => exact ⟨value, rfl, accepted⟩

section Checks

variable {otherText : JsonValue → String} {row : SecurityApprovalRequest}
variable {operation : GuardedOperation} {userId clock : ℕ}

theorem checkApprove_ok (checked : checkApprove row userId clock = .ok (some ())) :
    row.terms.requestedByUserId ≠ userId := by
  unfold checkApprove at checked
  split at checked
  · cases checked
  · split at checked
    · cases checked
    · split at checked
      · cases checked
      · assumption

theorem checkConsume_ok (checked : checkConsume otherText row operation clock = .ok ()) :
    row.status = .approved ∧ row.consumedAt = none ∧
      clock < row.terms.expiresAt ∧ row.terms.Covers otherText operation := by
  unfold checkConsume at checked
  split at checked
  · cases checked
  · rename_i approved
    split at checked
    · cases checked
    · rename_i inTime
      split at checked
      · cases checked
      · rename_i unused
        split at checked
        · cases checked
        · rename_i sameTerms
          split at checked
          · cases checked
          · rename_i samePayload
            simp only [not_or, not_not] at approved sameTerms samePayload
            exact ⟨approved.1, by simpa using unused, Nat.lt_of_not_le inTime,
              sameTerms.1, sameTerms.2.1, sameTerms.2.2, samePayload⟩

end Checks

def GrantedBy (by_ : ℕ) (approvalId : ℕ) (terms : ApprovalTerms)
    (history : List ApprovalEvent) : Prop :=
  ∃ userId owners at_, .approved approvalId userId owners at_ ∈ history ∧
    userId ≠ terms.requestedByUserId ∧ userId ∈ owners ∧ at_ ≤ by_

variable {history : List ApprovalEvent}

theorem GrantedBy.mono {by_ later approvalId : ℕ} {terms : ApprovalTerms}
    {added : List ApprovalEvent}
    (granted : GrantedBy by_ approvalId terms history) (le : by_ ≤ later) :
    GrantedBy later approvalId terms (history ++ added) := by
  obtain ⟨userId, owners, at_, member, other, owner, inTime⟩ := granted
  exact ⟨userId, owners, at_, List.mem_append_left _ member, other, owner, Nat.le_trans inTime le⟩

/-- Nothing closes an approval that is pending, or approved and not used. -/
structure RowSound (history : List ApprovalEvent) (clock : ℕ)
    (row : SecurityApprovalRequest) : Prop where
  pending : row.status = .pending → ∀ event ∈ history, ¬ event.Closes row.id
  approved : row.status = .approved → row.consumedAt = none →
    GrantedBy clock row.id row.terms history ∧ ∀ event ∈ history, ¬ event.Closes row.id

theorem RowSound.settled {clock : ℕ}
    {row : SecurityApprovalRequest} (notPending : row.status ≠ .pending)
    (notApproved : row.status ≠ .approved) : RowSound history clock row :=
  ⟨fun here => absurd here notPending, fun here => absurd here notApproved⟩

theorem RowSound.append {clock : ℕ}
    {row : SecurityApprovalRequest} (sound : RowSound history clock row)
    {event : ApprovalEvent} (other : ¬ event.Closes row.id) :
    RowSound (history ++ [event]) clock row := by
  have still (earlier : ∀ event ∈ history, ¬ event.Closes row.id) :
      ∀ next ∈ history ++ [event], ¬ next.Closes row.id := by
    intro next member
    rcases List.mem_append.mp member with old | new
    · exact earlier next old
    · rw [List.mem_singleton.mp new]
      exact other
  constructor
  · exact fun here => still (sound.pending here)
  · intro here unused
    obtain ⟨granted, closed⟩ := sound.approved here unused
    exact ⟨granted.mono (Nat.le_refl _), still closed⟩

theorem Warranted.mono {otherText : JsonValue → String} {requests later : List (ℕ × ApprovalTerms)}
    {front : List ApprovalEvent} {event : ApprovalEvent}
    (warranted : Warranted otherText requests front event)
    (more : ∀ asked ∈ requests, asked ∈ later) : Warranted otherText later front event := by
  cases event with
  | authorised approvalId operation at_ =>
    obtain ⟨⟨terms, asked, rest⟩, unused⟩ := warranted
    exact ⟨⟨terms, more _ asked, rest⟩, unused⟩
  | approved | rejected | expired => exact True.intro

namespace ApprovalState

variable {otherText : JsonValue → String} {state after : ApprovalState}

def CallFits (otherText : JsonValue → String) (state : ApprovalState) : ApprovalCall → Prop
  | .loadApprove _ userId owners => userId ∈ owners
  | .commitApprove row userId owners =>
    (row.id, row.terms) ∈ state.requests ∧ userId ≠ row.terms.requestedByUserId ∧ userId ∈ owners
  | .commitConsume row operation consumedAt =>
    (row.id, row.terms) ∈ state.requests ∧ row.terms.Covers otherText operation ∧
      consumedAt < row.terms.expiresAt ∧ ApprovedByOther row.id row.terms state.history
  | .commitExpired row | .commitReject row _ => (row.id, row.terms) ∈ state.requests
  | .loadReject _ _ | .loadConsume _ _ => True

structure Sound (otherText : JsonValue → String) (state : ApprovalState) : Prop where
  issued : Issued (fun row => row.id) state.nextId state.rows
  rows : ∀ row ∈ state.rows, RowSound state.history state.clock row
  calls : ∀ call ∈ state.calls, state.CallFits otherText call
  known : ∀ event ∈ state.history, ∀ id, event.Closes id → id < state.nextId
  controlled : DualControlled otherText state

theorem rowOf_spec {id : ℕ} {row : SecurityApprovalRequest}
    (found : state.rowOf id = some row) : row ∈ state.rows ∧ row.id = id :=
  find?_decide found

theorem mem_requests {row : SecurityApprovalRequest}
    (member : row ∈ state.rows) : (row.id, row.terms) ∈ state.requests :=
  List.mem_map_of_mem member

theorem Sound.stored (sound : state.Sound otherText) {id : ℕ}
    {terms : ApprovalTerms} (asked : (id, terms) ∈ state.requests) :
    ∃ row ∈ state.rows, row.id = id ∧ row.terms = terms ∧
      ∀ other ∈ state.rows, other.id = id → other = row := by
  obtain ⟨row, member, same⟩ := List.mem_map.mp asked
  cases same
  exact ⟨row, member, rfl, rfl, fun other otherMem sameId =>
    sound.issued.eq_of_key otherMem member sameId⟩

theorem Sound.below (sound : state.Sound otherText) {id : ℕ}
    {terms : ApprovalTerms} (asked : (id, terms) ∈ state.requests) : id < state.nextId := by
  obtain ⟨row, member, same, _⟩ := sound.stored asked
  rw [← same]
  exact sound.issued.below row member

variable {call : ApprovalCall}

theorem CallFits.mono (fits : state.CallFits otherText call)
    (requests : ∀ asked ∈ state.requests, asked ∈ after.requests)
    (history : ∀ event ∈ state.history, event ∈ after.history) : after.CallFits otherText call := by
  cases call with
  | commitApprove row userId owners => exact ⟨requests _ fits.1, fits.2⟩
  | commitConsume row operation consumedAt =>
    obtain ⟨asked, covers, inTime, userId, owners, at_, member, rest⟩ := fits
    exact ⟨requests _ asked, covers, inTime, userId, owners, at_, history _ member, rest⟩
  | commitExpired row | commitReject row userId => exact requests _ fits
  | loadApprove approvalId userId owners | loadReject approvalId userId
  | loadConsume approvalId operation => exact fits

theorem Sound.next (sound : state.Sound otherText)
    {call following : ApprovalCall} (fits : state.CallFits otherText call)
    (next : state.next otherText call = .ok (.inl following)) :
    state.CallFits otherText following := by
  cases call with
  | loadApprove approvalId userId owners =>
    unfold ApprovalState.next at next
    dsimp only at next
    split at next
    · cases next
    · rename_i row found
      obtain ⟨member, _⟩ := rowOf_spec found
      cases checked : checkApprove row userId state.clock with
      | error detail =>
        rw [checked] at next
        cases next
      | ok verdict =>
        rw [checked] at next
        cases verdict with
        | none =>
          cases next
          exact mem_requests member
        | some _ =>
          cases next
          exact ⟨mem_requests member, (checkApprove_ok checked).symm, fits⟩
  | loadReject approvalId userId =>
    unfold ApprovalState.next at next
    dsimp only at next
    split at next
    · cases next
    · rename_i row found
      split at next
      · cases next
      · cases next
        exact mem_requests (rowOf_spec found).1
  | loadConsume approvalId operation =>
    unfold ApprovalState.next at next
    dsimp only at next
    split at next
    · cases next
    · rename_i row found
      obtain ⟨member, _⟩ := rowOf_spec found
      cases checked : checkConsume otherText row operation state.clock with
      | error detail =>
        rw [checked] at next
        cases next
      | ok _ =>
        rw [checked] at next
        cases next
        obtain ⟨status, unused, inTime, covers⟩ := checkConsume_ok checked
        obtain ⟨⟨userId, owners, at_, granted, other, owner, early⟩, _⟩ :=
          (sound.rows row member).approved status unused
        exact ⟨mem_requests member, covers, inTime, userId, owners, at_,
          granted, other, owner, Nat.lt_of_le_of_lt early inTime⟩
  | commitApprove row userId owners | commitExpired row
  | commitReject row userId | commitConsume row operation consumedAt => cases next

section Commits

variable {id : ℕ} {event : ApprovalEvent}
variable {write : SecurityApprovalRequest → SecurityApprovalRequest}

theorem requests_committed
    (keeps : ∀ row, (write row).id = row.id ∧ (write row).terms = row.terms) :
    (state.committed id write event).requests = state.requests := by
  unfold requests committed
  rw [List.map_map]
  apply List.map_congr_left
  intro row _
  dsimp only [Function.comp_apply]
  split
  · rw [(keeps row).1, (keeps row).2]
  · rfl

theorem Sound.committed (sound : state.Sound otherText)
    (keeps : ∀ row, (write row).id = row.id ∧ (write row).terms = row.terms)
    (about : ∀ other, event.Closes other → other = id) (asked : id < state.nextId)
    (here : ∀ row ∈ state.rows, row.id = id →
      RowSound (state.history ++ [event]) state.clock (write row))
    (warranted : Warranted otherText state.requests state.history event) :
    (state.committed id write event).Sound otherText := by
  have requests : (state.committed id write event).requests = state.requests :=
    requests_committed keeps
  refine ⟨?_, ?_, ?_, ?_, ?_⟩
  · apply sound.issued.map
    intro row _
    split
    · exact (keeps row).1
    · rfl
  · intro saved member
    obtain ⟨row, rowMem, rfl⟩ := List.mem_map.mp member
    split
    · rename_i same
      exact here row rowMem same
    · rename_i other
      exact (sound.rows row rowMem).append fun closes => other (about row.id closes)
  · intro call member
    apply (sound.calls call member).mono
    · rw [requests]
      exact fun _ asked => asked
    · exact fun _ => List.mem_append_left _
  · intro next member other closes
    rcases List.mem_append.mp member with old | new
    · exact sound.known next old other closes
    · rw [List.mem_singleton.mp new] at closes
      rw [about other closes]
      exact asked
  · unfold DualControlled
    rw [requests]
    exact sound.controlled.append warranted

theorem Sound.commit (sound : state.Sound otherText) {call : ApprovalCall}
    (fits : state.CallFits otherText call) (holds : state.ReadsHold call)
    (next : state.next otherText call = .ok (.inr after)) : after.Sound otherText := by
  cases call with
  | commitApprove row userId owners =>
    cases next
    obtain ⟨asked, other, owner⟩ := fits
    apply sound.committed
    · exact fun stored => ⟨rfl, rfl⟩
    · exact fun _ closes => closes.elim
    · exact sound.below asked
    · intro stored member same
      obtain ⟨found, _, _, terms, only⟩ := sound.stored asked
      have open_ := (sound.rows stored member).pending (holds stored member same)
      have isFound := only stored member same
      have still : ∀ event ∈ state.history ++ [.approved row.id userId owners state.clock],
          ¬ event.Closes stored.id := by
        intro event eventMem
        rcases List.mem_append.mp eventMem with old | new
        · exact open_ event old
        · rw [List.mem_singleton.mp new]
          exact fun closes => closes
      refine ⟨fun impossible => absurd impossible (by simp), ?_⟩
      intro _ _
      refine ⟨⟨userId, owners, state.clock, ?_, ?_, owner, Nat.le_refl _⟩, still⟩
      · dsimp only
        rw [same]
        exact List.mem_append_right _ List.mem_cons_self
      · dsimp only
        rw [isFound, terms]
        exact other
    · exact True.intro
  | commitExpired row | commitReject row userId =>
    cases next
    apply sound.committed
    · exact fun stored => ⟨rfl, rfl⟩
    · exact fun _ closes => closes.symm
    · exact sound.below fits
    · intro stored _ _
      exact .settled (by simp) (by simp)
    · exact True.intro
  | commitConsume row operation consumedAt =>
    cases next
    obtain ⟨asked, covers, inTime, granted⟩ := fits
    apply sound.committed
    · exact fun stored => ⟨rfl, rfl⟩
    · exact fun _ closes => closes.symm
    · exact sound.below asked
    · intro stored _ _
      exact .settled (by simp) (by simp)
    · refine ⟨⟨row.terms, asked, covers, inTime, granted⟩, ?_⟩
      obtain ⟨stored, member, same, _, _⟩ := sound.stored asked
      obtain ⟨status, unused⟩ := holds stored member same
      rw [← same]
      exact ((sound.rows stored member).approved status unused).2
  | loadApprove approvalId userId owners =>
    unfold ApprovalState.next at next
    dsimp only at next
    split at next
    · cases next
    · obtain ⟨verdict, _, rest⟩ := bind_value next
      cases verdict <;> cases rest
  | loadReject approvalId userId =>
    unfold ApprovalState.next at next
    dsimp only at next
    split at next
    · cases next
    · split at next <;> cases next
  | loadConsume approvalId operation =>
    unfold ApprovalState.next at next
    dsimp only at next
    split at next
    · cases next
    · obtain ⟨_, _, rest⟩ := bind_value next
      cases rest

end Commits

variable {action : ApprovalAction}

theorem Sound.withCalls (sound : state.Sound otherText) {calls : List ApprovalCall}
    (fit : ∀ call ∈ calls, state.CallFits otherText call) :
    Sound otherText { state with calls := calls } :=
  ⟨sound.issued, sound.rows, fun call member => (fit call member).mono
    (fun _ asked => asked) fun _ event => event, sound.known, sound.controlled⟩

theorem Sound.begin (sound : state.Sound otherText) (fits : state.CallFits otherText call) :
    Sound otherText { state with calls := state.calls ++ [call] } := by
  apply sound.withCalls
  intro other member
  rcases List.mem_append.mp member with old | new
  · exact sound.calls other old
  · rw [List.mem_singleton.mp new]
    exact fits

theorem Sound.drop (sound : state.Sound otherText) (index : ℕ) :
    Sound otherText { state with calls := state.calls.eraseIdx index } :=
  sound.withCalls fun call member => sound.calls call (List.mem_of_mem_eraseIdx member)

theorem committed_calls
    (next : state.next otherText call = .ok (.inr after)) : after.calls = state.calls := by
  cases call with
  | commitApprove row userId owners | commitExpired row
  | commitReject row userId | commitConsume row operation consumedAt =>
    cases next
    rfl
  | loadApprove approvalId userId owners =>
    unfold ApprovalState.next at next
    dsimp only at next
    split at next
    · cases next
    · obtain ⟨verdict, _, rest⟩ := bind_value next
      cases verdict <;> cases rest
  | loadReject approvalId userId =>
    unfold ApprovalState.next at next
    dsimp only at next
    split at next
    · cases next
    · split at next <;> cases next
  | loadConsume approvalId operation =>
    unfold ApprovalState.next at next
    dsimp only at next
    split at next
    · cases next
    · obtain ⟨_, _, rest⟩ := bind_value next
      cases rest

theorem Sound.advance (sound : state.Sound otherText) {index : ℕ}
    (holds : ∀ call ∈ state.calls[index]?, state.ReadsHold call) :
    (state.advance otherText index).Sound otherText := by
  unfold ApprovalState.advance
  split
  · exact sound
  · rename_i call found
    have fits := sound.calls call (List.mem_of_getElem? found)
    split
    · rename_i following next
      apply sound.withCalls
      intro other member
      rcases List.mem_or_eq_of_mem_set member with old | new
      · exact sound.calls other old
      · rw [new]
        exact sound.next fits next
    · rename_i committed next
      have kept := (sound.commit fits (holds call found) next).drop index
      rw [committed_calls next] at kept
      exact kept
    · exact sound.drop index

theorem Sound.request (sound : state.Sound otherText) (terms : ApprovalTerms) : Sound otherText
      { state with
        rows := state.rows ++ [{ id := state.nextId, terms := terms }]
        nextId := state.nextId + 1 } := by
  have more : ∀ asked ∈ state.requests, asked ∈ requests { state with
        rows := state.rows ++ [{ id := state.nextId, terms := terms }]
        nextId := state.nextId + 1 } := by
    intro asked old
    unfold requests
    rw [List.map_append]
    exact List.mem_append_left _ old
  refine ⟨sound.issued.insert rfl, ?_, ?_, ?_, ?_⟩
  · intro row member
    rcases List.mem_append.mp member with old | new
    · exact sound.rows row old
    · rw [List.mem_singleton.mp new]
      refine ⟨fun _ event eventMem closes => ?_, fun impossible => ?_⟩
      · exact absurd (sound.known event eventMem _ closes) (Nat.lt_irrefl _)
      · cases impossible
  · exact fun call member => (sound.calls call member).mono more fun _ event => event
  · exact fun event member id closes => Nat.lt_succ_of_lt (sound.known event member id closes)
  · exact sound.controlled.mono fun front event warranted => Warranted.mono warranted more

theorem Sound.performs (sound : state.Sound otherText)
    (move : state.Performs otherText action after)
    (commits : state.CommitsAsRead action) : after.Sound otherText := by
  rw [show after = state.perform otherText action from move]
  cases action with
  | request terms =>
    unfold perform
    dsimp only
    split
    · exact sound.request terms
    · exact sound
  | beginApprove approvalId userId =>
    unfold perform
    dsimp only
    split
    · rename_i owner
      exact sound.begin owner
    · exact sound
  | beginReject approvalId userId =>
    unfold perform
    dsimp only
    split
    · exact sound.begin True.intro
    · exact sound
  | beginConsume approvalId operation => exact sound.begin True.intro
  | advance index => exact sound.advance commits
  | crash index => exact sound.drop index
  | setOwners owners =>
    exact ⟨sound.issued, sound.rows, fun call member =>
      (sound.calls call member).mono (fun _ asked => asked)
        fun _ event => event, sound.known, sound.controlled⟩
  | wait duration =>
    refine ⟨sound.issued, ?_, fun call member =>
      (sound.calls call member).mono (fun _ asked => asked)
        fun _ event => event, sound.known, sound.controlled⟩
    intro row member
    obtain ⟨pending, approved⟩ := sound.rows row member
    refine ⟨pending, ?_⟩
    intro here unused
    obtain ⟨⟨userId, owners, at_, event, other, owner, inTime⟩, closed⟩ := approved here unused
    exact ⟨⟨userId, owners, at_, event, other, owner,
      Nat.le_trans inTime (Nat.le_add_right _ _)⟩, closed⟩

end ApprovalState

/-- In every run in which approvals and uses commit on a row that is as they
have read it, every operation is under dual control. -/
theorem dualControlled_of_commitsAsRead (otherText : JsonValue → String)
    (owners : List ℕ) (clock : ℕ) (actions : List ApprovalAction)
    (commits : EveryStep (ApprovalState.Performs otherText)
      (fun before action _ => before.CommitsAsRead action)
      { owners := owners, clock := clock } actions) :
    EveryStep (ApprovalState.Performs otherText) (fun _ _ after => DualControlled otherText after)
      { owners := owners, clock := clock } actions := by
  have empty : ApprovalState.Sound otherText { owners := owners, clock := clock } := by
    refine ⟨.nil, ?_, ?_, ?_, .nil⟩ <;>
      exact fun _ member => absurd member List.not_mem_nil
  refine EveryStep.of_invariant empty ?_ ?_ commits
  · exact fun _ _ _ sound move here => sound.performs move here
  · exact fun _ _ _ sound move here => (sound.performs move here).controlled

def failoverTerms : ApprovalTerms where
  action := "mail_node.failover"
  resourceType := "mail_node"
  resourceId := "north"
  payload := [("target_node_id", .text "south"), ("snapshot_id", .text "s1")]
  requestedByUserId := 1
  expiresAt := 30

def failoverOperation : GuardedOperation where
  action := "mail_node.failover"
  resourceType := "mail_node"
  resourceId := "north"
  payloadMatch := [("target_node_id", "south"), ("snapshot_id", "s1")]

def approvedFailover : List ApprovalAction :=
  [.request failoverTerms, .beginApprove 0 2, .advance 0, .advance 0]

/-- Two failovers have both read the approval before either commits. -/
def usedTogether : List ApprovalAction :=
  approvedFailover ++ [.beginConsume 0 failoverOperation, .beginConsume 0 failoverOperation,
      .advance 0, .advance 1, .advance 0]

/-- An approval commits after the rejection of a request that both have read
as pending, and is used. -/
def approvedAfterRejection : List ApprovalAction :=
  [.request failoverTerms, .beginApprove 0 2, .beginReject 0 3, .advance 0,
    .advance 1, .advance 1, .advance 0, .beginConsume 0 failoverOperation, .advance 0]

def noOtherText : JsonValue → String := fun _ => ""

/-- Uses that overlap authorise two operations, and a rejected request
authorises one. -/
theorem approvals_overlap : (¬ EveryStep (ApprovalState.Performs noOtherText)
      (fun _ _ after => DualControlled noOtherText after)
      { owners := [1, 2, 3] } (usedTogether ++ [.advance 0])) ∧
    ¬ EveryStep (ApprovalState.Performs noOtherText)
      (fun _ _ after => DualControlled noOtherText after)
      { owners := [1, 2, 3] } (approvedAfterRejection ++ [.advance 0]) := by
  constructor
  · intro holds
    have controlled := holds usedTogether (.advance 0) [] _ _ rfl
      (Run.of_foldl (ApprovalState.perform noOtherText) _ _) rfl
    have unused := (controlled [.approved 0 2 [1, 2, 3] 0, .authorised 0 failoverOperation 0]
      (.authorised 0 failoverOperation 0) [] rfl).2
    exact unused _ (List.mem_cons_of_mem _ List.mem_cons_self) rfl
  · intro holds
    have controlled := holds approvedAfterRejection (.advance 0) [] _ _ rfl
      (Run.of_foldl (ApprovalState.perform noOtherText) _ _) rfl
    have unrejected := (controlled [.rejected 0 3, .approved 0 2 [1, 2, 3] 0]
      (.authorised 0 failoverOperation 0) [] rfl).2
    exact unrejected _ List.mem_cons_self rfl

/-- An approval that is used, and a second use that reads it afterwards. -/
def usedInTurn : List ApprovalAction :=
  approvedFailover ++ [.wait 5, .beginConsume 0 failoverOperation,
      .beginConsume 0 failoverOperation, .advance 0, .advance 0, .advance 0]

theorem dualControlled_usedInTurn : EveryStep (ApprovalState.Performs noOtherText)
      (fun _ _ after => DualControlled noOtherText after)
      { owners := [1, 2], clock := 10 } usedInTurn ∧
    (usedInTurn.foldl (ApprovalState.perform noOtherText)
      { owners := [1, 2], clock := 10 }).history =
        [.approved 0 2 [1, 2] 10, .authorised 0 failoverOperation 15] :=
  ⟨dualControlled_of_commitsAsRead noOtherText [1, 2] 10 usedInTurn
    (EveryStep.of_stepByStep (by decide)), rfl⟩

end Ithute.Security
