import Ithute.Library.TransitionRuns
import Ithute.FinanceBookSteps

/-!
# Approved invoices

An invoice whose total reaches the threshold is sent when its approval row
says so.  The row does not know what was approved, nor by whom it was asked
for.  It does cover what is sent as long as nobody edits an approved invoice,
and decisions are taken by others, on requests that wait for one.
-/

namespace Ithute.Books

open Finance TransitionRuns UniqueRows

namespace FinanceBooks

variable (books : FinanceBooks)

def Accepts (request : BookRequest) : Prop := (books.perform request).toOption.isSome = true

instance (request : BookRequest) : Decidable (books.Accepts request) :=
  inferInstanceAs (Decidable (_ = _))

def Edits (request : BookRequest) (invoiceId : ℕ) : Prop :=
  (∃ payload, request = .editDraftInvoice invoiceId payload) ∧ books.Accepts request

def Requests (request : BookRequest) (invoiceId : ℕ) : Prop :=
  (∃ userId, request = .requestApproval invoiceId userId) ∧ books.Accepts request

def Approves (request : BookRequest) (invoiceId : ℕ) : Prop :=
  ∃ approvalId userId row, request = .decideApproval approvalId true userId ∧
      books.approvalOf approvalId = some row ∧
      row.resourceId = invoiceId ∧ row.requestedByUserId ≠ userId ∧ books.Accepts request

/-- No approved invoice is edited, and what is approved waits for a decision
that somebody other than the requester takes, or is approved already. -/
def CoversContent : BookRequest → Prop
  | .editDraftInvoice invoiceId payload =>
    books.Accepts (.editDraftInvoice invoiceId payload) →
      ∀ row ∈ books.approvals, row.resourceId = invoiceId → row.status ≠ .approved
  | .decideApproval approvalId approved userId =>
    approved = true → ∀ row ∈ books.approvalOf approvalId, row.status = .approved ∨
        row.status = .pending ∧ row.requestedByUserId ≠ userId
  | _ => True

instance (request : BookRequest) : Decidable (books.CoversContent request) := by
  induction request using BookRequest.casesOn <;> dsimp only [CoversContent] <;> infer_instance

end FinanceBooks

/-- An invoice was approved by somebody other than the requester, and it was
not edited since. -/
def ApprovedSinceEdit (start : FinanceBooks) (front : List BookRequest) (invoiceId : ℕ) : Prop :=
  ∃ earlier decision later before, front = earlier ++ decision :: later ∧
      Run FinanceBooks.Handles start earlier before ∧ before.Approves decision invoiceId ∧
      EveryStep FinanceBooks.Handles
        (fun before request _ => ¬ before.Edits request invoiceId) before (decision :: later)

/-- Every message of an invoice that needs an approval is preceded by one that
was given after the last edit. -/
def SentAsApproved (start : FinanceBooks) (requests : List BookRequest) : Prop :=
  ∀ front request back before after message, requests = front ++ request :: back →
    Run FinanceBooks.Handles start front before → before.Handles request after →
    after.outbox = before.outbox ++ [message] → before.RequiresApproval message.totalMinor →
      ApprovedSinceEdit start front message.invoiceId

def RejectionsStand (start : FinanceBooks) (requests : List BookRequest) : Prop :=
  ∀ front middle back first second approvalId rejected approved,
    requests = front ++ middle ++ back → Run FinanceBooks.Handles start front first →
    Run FinanceBooks.Handles first middle second → first.approvalOf approvalId = some rejected →
    rejected.status = .rejected → second.approvalOf approvalId = some approved →
    approved.status = .approved → ∃ earlier request later before,
        middle = earlier ++ request :: later ∧ Run FinanceBooks.Handles first earlier before ∧
          before.Requests request rejected.resourceId

namespace FinanceBooks

variable {books after : FinanceBooks} {request : BookRequest}

theorem accepts_iff : books.Accepts request ↔ ∃ after, books.perform request = .ok after := by
  unfold Accepts
  cases performed : books.perform request with
  | ok after => exact ⟨fun _ => ⟨after, rfl⟩, fun _ => rfl⟩
  | error refusal =>
    constructor
    · intro impossible
      cases impossible
    · rintro ⟨_, impossible⟩
      cases impossible

theorem accepts_of_perform (accepted : books.perform request = .ok after) : books.Accepts request :=
  accepts_iff.mpr ⟨after, accepted⟩

theorem writeAll_approvals {writes : List BookWrite} (others : ∀ write ∈ writes, ∀ row,
      write ≠ .insertApproval row ∧ write ≠ .saveApproval row)
    (written : books.writeAll writes = .ok after) : after.approvals = books.approvals := by
  induction writes generalizing books with
  | nil => rw [writeAll_nil written]
  | cons write writes ih =>
    obtain ⟨_, rest⟩ := writeAll_cons written
    rw [ih (fun other member => others other (List.mem_cons_of_mem _ member)) rest]
    have other := others write List.mem_cons_self
    cases write with
    | insertApproval row => exact absurd rfl (other row).1
    | saveApproval row => exact absurd rfl (other row).2
    | _ => rfl

theorem perform_approvals (accepted : books.perform request = .ok after) :
    after.approvals = books.approvals ∨
      (∃ invoiceId userId, request = .requestApproval invoiceId userId ∧ after = books.apply
          (books.requestInvoiceApproval invoiceId userId)) ∨
      ∃ approvalId approved userId row, request = .decideApproval approvalId approved userId ∧
          books.approvalOf approvalId = some row ∧ after = books.apply (.saveApproval { row with
              status := if approved = true then .approved else .rejected
              decidedByUserId := some userId }) := by
  obtain ⟨writes, checked, written⟩ := perform_ok accepted
  cases checked with
  | request found =>
    obtain ⟨_, rest⟩ := writeAll_cons written
    exact .inr (.inl ⟨_, _, rfl, writeAll_nil rest⟩)
  | decide found =>
    obtain ⟨_, rest⟩ := writeAll_cons written
    exact .inr (.inr ⟨_, _, _, _, rfl, found, writeAll_nil rest⟩)
  | _ => exact .inl (writeAll_approvals (by simp) written)

theorem approved_cases {row : FinanceApprovalRequest} (accepted : books.perform request = .ok after)
    (member : row ∈ after.approvals) (approved : row.status = .approved) : row ∈ books.approvals ∨
      ∃ approvalId userId found, request = .decideApproval approvalId true userId ∧
          books.approvalOf approvalId = some found ∧ row.resourceId = found.resourceId := by
  rcases perform_approvals accepted with
    same | ⟨invoiceId, userId, _, rfl⟩ | ⟨approvalId, decision, userId, found, rfl, here, rfl⟩
  · rw [same] at member
    exact .inl member
  · unfold requestInvoiceApproval at member
    split at member
    · rcases List.mem_append.mp member with old | new
      · exact .inl old
      · rw [List.mem_singleton.mp new] at approved
        cases approved
    · rename_i asked _
      obtain ⟨stored, storedMem, rfl⟩ := List.mem_map.mp member
      by_cases replaced : stored.id = asked.id
      · rw [if_pos replaced] at approved
        cases approved
      · rw [if_neg replaced]
        exact .inl storedMem
  · obtain ⟨stored, storedMem, rfl⟩ := List.mem_map.mp member
    by_cases replaced : stored.id = found.id
    · rw [if_pos replaced] at approved ⊢
      cases decision with
      | true => exact .inr ⟨approvalId, userId, found, rfl, here, rfl⟩
      | false => cases approved
    · rw [if_neg replaced]
      exact .inl storedMem

def messageOfWrite : BookWrite → Option FinanceMessage
  | .sendMessage message => some message
  | _ => none

theorem writeAll_outbox {writes : List BookWrite} (written : books.writeAll writes = .ok after) :
    after.outbox = books.outbox ++ writes.filterMap messageOfWrite := by
  induction writes generalizing books with
  | nil => rw [writeAll_nil written, List.filterMap_nil, List.append_nil]
  | cons write writes ih =>
    obtain ⟨_, rest⟩ := writeAll_cons written
    rw [ih rest]
    cases write with
    | sendMessage message => exact List.append_assoc books.outbox [message] _
    | _ => rfl

theorem sent_ensured {message : FinanceMessage} (accepted : books.perform request = .ok after)
    (sent : after.outbox = books.outbox ++ [message]) : ∃ invoice, message = messageOf invoice ∧
      books.ensureInvoiceApprovedForSend invoice = .ok () := by
  obtain ⟨writes, checked, written⟩ := perform_ok accepted
  rw [writeAll_outbox written] at sent
  have messages := List.append_cancel_left sent
  cases checked with
  | send found ensured | bulkSend found ensured
  | processSchedule due ensured =>
    cases messages
    exact ⟨_, rfl, ensured⟩
  | request found =>
    unfold requestInvoiceApproval at messages
    split at messages <;> cases messages
  | _ => cases messages

theorem approval_of_ensured {invoice : FinanceInvoice}
    (ensured : books.ensureInvoiceApprovedForSend invoice = .ok ())
    (required : books.RequiresApproval invoice.totalMinor) :
    ∃ row ∈ books.approvals, row.resourceId = invoice.id ∧ row.status = .approved := by
  unfold ensureInvoiceApprovedForSend at ensured
  rw [if_pos required] at ensured
  split at ensured
  · cases ensured
  · rename_i row found
    split at ensured
    · rename_i approved
      exact ⟨row, (invoiceApproval_spec found).1, (invoiceApproval_spec found).2, approved⟩
    · cases ensured

/-- A rejected row stays as it is until its invoice is asked for again, or
somebody decides. -/
theorem rejected_stays {approvalId : ℕ} {row : FinanceApprovalRequest}
    (identified : books.Identified) (found : books.approvalOf approvalId = some row)
    (rejected : row.status = .rejected) (accepted : books.perform request = .ok after)
    (covers : books.CoversContent request)
    (notRequested : ¬ books.Requests request row.resourceId) :
    ∃ later, after.approvalOf approvalId = some later ∧
      later.status = .rejected ∧ later.resourceId = row.resourceId := by
  obtain ⟨rowMem, rowId⟩ := approvalOf_spec found
  rcases perform_approvals accepted with
    same | ⟨invoiceId, userId, rfl, rfl⟩ | ⟨decidedId, decision, userId, decided, rfl, here, rfl⟩
  · refine ⟨row, ?_, rejected, rfl⟩
    unfold approvalOf at found ⊢
    rw [same]
    exact found
  · unfold requestInvoiceApproval
    split
    · refine ⟨row, ?_, rejected, rfl⟩
      change (books.approvals ++ [_]).find? _ = some row
      rw [List.find?_append, show books.approvals.find? _ = some row from found]
      rfl
    · rename_i asked askedFor
      obtain ⟨askedMem, askedResource⟩ := invoiceApproval_spec askedFor
      have other : ¬ approvalId = asked.id := by
        intro same
        have equal := identified.approvals.eq_of_key rowMem askedMem (rowId.trans same)
        rw [equal, askedResource] at notRequested
        exact notRequested ⟨⟨userId, rfl⟩, accepts_of_perform accepted⟩
      refine ⟨row, ?_, rejected, rfl⟩
      exact (find?_replace _ approvalId).trans ((if_neg other).trans found)
  · by_cases same : approvalId = decided.id
    · have equal : row = decided := identified.approvals.eq_of_key rowMem
        (approvalOf_spec here).1 (rowId.trans same)
      cases decision with
      | true =>
        rcases covers rfl decided here with approved | ⟨pending, _⟩
        · rw [← equal, rejected] at approved
          cases approved
        · rw [← equal, rejected] at pending
          cases pending
      | false =>
        refine ⟨{ decided with
            status := .rejected
            decidedByUserId := some userId }, ?_, rfl, by rw [equal]⟩
        refine (find?_replace _ approvalId).trans ((if_pos same).trans ?_)
        exact congrArg (Option.map fun _ => _) found
    · refine ⟨row, ?_, rejected, rfl⟩
      exact (find?_replace _ approvalId).trans ((if_neg same).trans found)

variable {start state : FinanceBooks} {front : List BookRequest}

theorem handles_deterministic (front : List BookRequest)
    (first second : FinanceBooks) (here : Run Handles start front first)
    (there : Run Handles start front second) : first = second :=
  (Run.eq_foldl here).trans (Run.eq_foldl there).symm

theorem identified_of_run (identified : start.Identified)
    (run : Run Handles start front state) : state.Identified :=
  run.invariant identified fun _ _ _ holds move => holds.handles move

theorem approvedSinceEdit_concat {invoiceId : ℕ}
    (approved : ApprovedSinceEdit start front invoiceId) (run : Run Handles start front state)
    (unedited : ¬ state.Edits request invoiceId) :
    ApprovedSinceEdit start (front ++ [request]) invoiceId := by
  obtain ⟨earlier, decision, later, before, rfl, reached, approves, since⟩ := approved
  have continued : Run Handles before (decision :: later) state := by
    have whole := Run.of_foldl handle (decision :: later) before
    have same := handles_deterministic _ _ _ run (reached.append whole)
    rw [same]
    exact whole
  refine ⟨earlier, decision, later ++ [request], before, by simp, reached, approves, ?_⟩
  exact since.concat handles_deterministic continued fun _ _ => unedited

/-- Where edits keep to invoices that are not approved, every approved row
covers what its invoice has become. -/
theorem approved_sinceEdit (empty : start.approvals = []) (run : Run Handles start front state)
    (covers : EveryStep Handles
      (fun before request _ => before.CoversContent request) start front) :
    ∀ row ∈ state.approvals, row.status = .approved →
      ApprovedSinceEdit start front row.resourceId := by
  induction run with
  | start =>
    rw [empty]
    exact fun _ member => absurd member List.not_mem_nil
  | @next front state after request run move ih =>
    have earlier := ih covers.of_prefix
    have here := covers front request [] state after rfl run move
    have unedited (row : FinanceApprovalRequest)
        (member : row ∈ state.approvals) (approved : row.status = .approved) :
        ¬ state.Edits request row.resourceId := by
      rintro ⟨⟨payload, rfl⟩, accepted⟩
      exact here accepted row member rfl approved
    intro row member approved
    rcases handles_cases move with same | performed
    · rw [same] at member
      exact approvedSinceEdit_concat (earlier row member approved) run
        (unedited row member approved)
    · rcases approved_cases performed member approved with
        old | ⟨approvalId, userId, found, rfl, foundHere, resource⟩
      · exact approvedSinceEdit_concat (earlier row old approved) run (unedited row old approved)
      · have foundMem := (approvalOf_spec foundHere).1
        rw [resource]
        rcases here rfl found foundHere with before | ⟨_, other⟩
        · exact approvedSinceEdit_concat (earlier found foundMem before) run
            (unedited found foundMem before)
        · refine ⟨front, _, [], state, rfl, run,
            ⟨approvalId, userId, found, rfl, foundHere, rfl, other,
              accepts_of_perform performed⟩, ?_⟩
          refine EveryStep.nil.concat handles_deterministic .start ?_
          rintro _ _ ⟨⟨payload, impossible⟩, _⟩
          cases impossible

theorem rejected_or_requested {approvalId : ℕ}
    {rejected : FinanceApprovalRequest} (identified : start.Identified)
    (found : start.approvalOf approvalId = some rejected) (isRejected : rejected.status = .rejected)
    (run : Run Handles start front state) (covers : EveryStep Handles
      (fun before request _ => before.CoversContent request) start front) :
    (∃ earlier request later before, front = earlier ++ request :: later ∧
        Run Handles start earlier before ∧ before.Requests request rejected.resourceId) ∨
      ∃ row, state.approvalOf approvalId = some row ∧
        row.status = .rejected ∧ row.resourceId = rejected.resourceId := by
  induction run with
  | start => exact .inr ⟨rejected, found, isRejected, rfl⟩
  | @next front state after request run move ih =>
    have here := covers front request [] state after rfl run move
    rcases ih covers.of_prefix with
      ⟨earlier, asked, later, before, rfl, reached, requests⟩ |
        ⟨row, rowFound, rowRejected, resource⟩
    · exact .inl ⟨earlier, asked, later ++ [request], before, by simp, reached, requests⟩
    · by_cases requested : state.Requests request rejected.resourceId
      · exact .inl ⟨front, request, [], state, rfl, run, requested⟩
      · rcases handles_cases move with same | performed
        · rw [same]
          exact .inr ⟨row, rowFound, rowRejected, resource⟩
        · rw [← resource] at requested ⊢
          exact .inr (rejected_stays (identified_of_run identified run)
            rowFound rowRejected performed here requested)

end FinanceBooks

open FinanceBooks in
/-- In every run from empty books in which edits keep to invoices that are not
approved, and decisions are taken by others on requests that wait for one,
what is sent has been approved, and rejections stand. -/
theorem sentAsApproved_of_covers (clients : List ℕ)
    (setting : FinanceGovernanceSetting) (requests : List BookRequest)
    (covers : EveryStep FinanceBooks.Handles (fun before request _ => before.CoversContent request)
      { clients := clients, setting := setting } requests) :
    SentAsApproved { clients := clients, setting := setting } requests ∧
      RejectionsStand { clients := clients, setting := setting } requests := by
  have identified : FinanceBooks.Identified
      { clients := clients, setting := setting } := ⟨.nil, .nil, .nil⟩
  constructor
  · rintro front request back before after message rfl run move sent required
    rcases handles_cases move with same | performed
    · rw [same] at sent
      exact absurd sent (by simp)
    · obtain ⟨invoice, rfl, ensured⟩ := sent_ensured performed sent
      obtain ⟨row, member, resource, approved⟩ := approval_of_ensured ensured required
      have since := approved_sinceEdit rfl run covers.of_prefix row member approved
      rw [resource] at since
      exact since
  · rintro front middle back first second approvalId rejected approved rfl run
      later rejectedHere isRejected approvedHere isApproved
    have middleCovers := covers.of_prefix.of_suffix run
    rcases rejected_or_requested (identified_of_run identified run)
      rejectedHere isRejected later middleCovers with
      requested | ⟨row, found, stays, _⟩
    · exact requested
    · cases approvedHere.symm.trans found
      cases isApproved.symm.trans stays

def hostingOf (rateMinor : ℕ)
    (rate_bound : rateMinor ≤ 2000000000 := by decide) : InvoiceInput where
  clientName := "Thaba School"
  recipientEmail := "office@thaba.example"
  line :=
    { description := "Hosting"
      rateMinor := rateMinor
      rate_bound := rate_bound }

def raisedAfterApproval : List BookRequest :=
  [.createFinanceInvoice (hostingOf 500000) 2026, .requestApproval 0 7,
    .decideApproval 1 true 8, .editDraftInvoice 0 (hostingOf 900000),
    .sendFinanceInvoice 0 false .accepted 0]

def approvedByRequester : List BookRequest :=
  [.createFinanceInvoice (hostingOf 500000) 2026, .requestApproval 0 7,
    .decideApproval 1 true 7, .bulkSendInvoice 0 false .accepted 0]

def approvedAfterRejection : List BookRequest :=
  [.createFinanceInvoice (hostingOf 500000) 2026, .requestApproval 0 7,
    .decideApproval 1 false 8, .decideApproval 1 true 8]

theorem approvals_coverNothing : ((raisedAfterApproval.foldl FinanceBooks.handle {}).outbox.map
        fun message => message.totalMinor) = [900000] ∧ ¬ SentAsApproved {} raisedAfterApproval ∧
      ¬ SentAsApproved {} approvedByRequester ∧ ¬ RejectionsStand {} approvedAfterRejection := by
  refine ⟨by decide, ?_, ?_, ?_⟩
  · intro covered
    obtain ⟨earlier, _, later, before, split, reached,
      ⟨approvalId, userId, row, rfl, _, _, _, _⟩, since⟩ :=
      covered (raisedAfterApproval.take 4) _ [] _ _
        ⟨0, "IM-2026-0001", "office@thaba.example", 900000⟩ rfl
        (Run.of_foldl _ _ _) rfl (by decide) (by decide)
    rcases earlier with _ | ⟨first, _ | ⟨second, _ | ⟨third, rest⟩⟩⟩
    · cases split
    · cases split
    · cases split
      cases reached.eq_foldl
      exact since [.decideApproval 1 true 8] _ [] _ _ rfl
        (Run.of_foldl _ _ _) rfl ⟨⟨_, rfl⟩, by decide⟩
    · rcases rest with _ | ⟨fourth, rest⟩
      · cases split
      · cases rest <;> cases split
  · intro covered
    obtain ⟨earlier, _, later, before, split, reached,
      ⟨approvalId, userId, row, rfl, found, _, other, _⟩, _⟩ :=
      covered (approvedByRequester.take 3) _ [] _ _
        ⟨0, "IM-2026-0001", "office@thaba.example", 500000⟩ rfl
        (Run.of_foldl _ _ _) rfl (by decide) (by decide)
    rcases earlier with _ | ⟨first, _ | ⟨second, _ | ⟨third, rest⟩⟩⟩
    · cases split
    · cases split
    · cases split
      cases reached.eq_foldl
      cases found
      exact other rfl
    · cases rest <;> cases split
  · intro stand
    obtain ⟨earlier, _, later, before, split, _, ⟨⟨userId, rfl⟩, _⟩⟩ :=
      stand (approvedAfterRejection.take 3) [.decideApproval 1 true 8] [] _ _
        1 _ _ rfl (Run.of_foldl _ _ _) (Run.of_foldl _ _ _) rfl rfl rfl rfl
    cases earlier with
    | nil => cases split
    | cons first rest => cases rest <;> cases split

def editedBeforeApproval : List BookRequest :=
  [.createFinanceInvoice (hostingOf 500000) 2026,
    .editDraftInvoice 0 (hostingOf 900000), .requestApproval 0 7,
    .decideApproval 1 true 8, .sendFinanceInvoice 0 false .accepted 0]

theorem sentAsApproved_of_covers_edited : (SentAsApproved {} editedBeforeApproval ∧
        RejectionsStand {} editedBeforeApproval) ∧
      ((editedBeforeApproval.foldl FinanceBooks.handle {}).outbox.map
        fun message => message.totalMinor) = [900000] :=
  ⟨sentAsApproved_of_covers [] {} editedBeforeApproval
    (EveryStep.of_stepByStep (by decide)), by decide⟩

end Ithute.Books
