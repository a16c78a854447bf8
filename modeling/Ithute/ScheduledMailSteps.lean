import Ithute.ScheduledMail
import Ithute.Library.TransitionRuns
import Ithute.Library.UniqueRows

/-!
# What moves on scheduled mail do

Every move leaves the system as it is, or does one of a few things to it.
Workers and requests read a row before they write it, and a write leaves the
columns alone that it does not change.
-/

namespace Ithute

open UniqueRows TransitionRuns

namespace ScheduledMail

variable {loaded changed stored : ScheduledMail} {startedAt : ℤ}

@[simp]
theorem flush_id : (loaded.flush changed startedAt stored).id = stored.id := by
  unfold flush
  split <;> rfl

theorem flush_status : (loaded.flush changed startedAt stored).status =
      if changed.status = loaded.status then stored.status
      else changed.status := by
  unfold flush
  by_cases same : changed = loaded
  · simp [same]
  · rw [if_neg same]

theorem flush_self : (loaded.flush changed startedAt loaded).status = changed.status := by
  rw [flush_status]
  split
  · rename_i same
    exact same.symm
  · rfl

theorem cancel_flush (isOpen : loaded.status = .queued ∨ loaded.status = .failed) :
    (loaded.flush loaded.cancel startedAt stored).status = .cancelled := by
  rw [flush_status, if_neg]
  · rfl
  · rcases isOpen with waits | failed
    · simp [cancel, waits]
    · simp [cancel, failed]

theorem retry_flush {secret : String} {now : ℤ} (failed : loaded.status = .failed) :
    (loaded.flush (loaded.retry secret now) startedAt stored).status = .queued := by
  rw [flush_status, if_neg]
  · rfl
  · simp [retry, failed]

end ScheduledMail

def MailDelivery.PastCheck (delivery : MailDelivery) : Prop := delivery.phase ≠ .claimed

instance (delivery : MailDelivery) : Decidable delivery.PastCheck :=
  inferInstanceAs (Decidable (¬ _))

theorem MailDelivery.outcome_spec {delivery : MailDelivery} {now : ℤ}
    {raised : Option String} {loaded changed : ScheduledMail} {startedAt : ℤ}
    (outcome : delivery.outcome now raised = some (loaded, changed, startedAt)) :
    delivery.PastCheck ∧ (changed.status = .sent ∨ changed.status = .failed) := by
  unfold MailDelivery.outcome at outcome
  unfold PastCheck
  cases phase : delivery.phase with
  | claimed =>
    rw [phase] at outcome
    cases outcome
  | loaded | refused =>
    rw [phase] at outcome
    cases outcome
    exact ⟨nofun, .inr rfl⟩
  | submitted =>
    rw [phase] at outcome
    cases outcome
    refine ⟨nofun, ?_⟩
    cases raised with
    | none => exact .inl rfl
    | some error => exact .inr rfl

namespace ScheduledMailState

variable {before after : ScheduledMailState} {move : ScheduledMailMove}

theorem row?_spec {jobId : ℕ} {row : ScheduledMail} (found : before.row? jobId = some row) :
    row ∈ before.rows ∧ row.id = jobId :=
  find?_decide found

theorem delivery?_spec {worker : ℕ} {delivery : MailDelivery}
    (found : before.delivery? worker = some delivery) :
    delivery ∈ before.deliveries ∧ delivery.worker = worker :=
  find?_decide found

theorem delivery?_none {worker : ℕ} (free : before.delivery? worker = none) :
    worker ∉ before.deliveries.map MailDelivery.worker := by
  rintro taken
  obtain ⟨delivery, member, same⟩ := List.mem_map.mp taken
  have other := List.find?_eq_none.mp free delivery member
  simp [same] at other

theorem claimable_spec {now : ℤ} {locked : List ℕ} {row : ScheduledMail}
    (claimable : before.claimable now locked = some row) :
    row ∈ before.rows ∧ (row.status = .queued ∨ row.status = .sending) := by
  have selected := List.argmin_mem claimable
  rw [List.mem_filter, decide_eq_true_eq] at selected
  obtain ⟨member, -, waits | ⟨sending, -⟩, -⟩ := selected
  · exact ⟨member, .inl waits⟩
  · exact ⟨member, .inr sending⟩

theorem forall_write {jobId : ℕ} {flush : ScheduledMail → ScheduledMail}
    {holds : ScheduledMail → Prop} (others : ∀ row ∈ before.rows, row.id ≠ jobId → holds row)
    (here : ∀ row ∈ before.rows, row.id = jobId → holds (flush row)) :
    ∀ row ∈ before.write jobId flush, holds row := by
  intro row member
  obtain ⟨stored, storedMem, rfl⟩ := List.mem_map.mp member
  split
  · rename_i same
    exact here stored storedMem same
  · rename_i apart
    exact others stored storedMem apart

end ScheduledMailState

section Moves

variable (before : ScheduledMailState)

inductive ScheduledMailMoved : ScheduledMailMove → ScheduledMailState → Prop
  | idle {move : ScheduledMailMove} : ScheduledMailMoved move before
  | scheduled {mailboxId : ℕ} {payload : ScheduleIn} {secret : String}
      {now : ℤ} {row : ScheduledMail} (id : row.id = before.nextId)
      (status : row.status = .queued) : ScheduledMailMoved (.schedule mailboxId payload secret now)
        { before with
          nextId := before.nextId + 1
          rows := before.rows ++ [row]
          placed := before.placed ++ [before.nextId] }
  | claimed {worker : ℕ} {now startedAt : ℤ} {locked : List ℕ}
      {row : ScheduledMail} (free : before.delivery? worker = none)
      (claimable : before.claimable now locked = some row) :
      ScheduledMailMoved (.claim worker now startedAt locked)
        { before with
          rows := before.write row.id
            (row.flush
              { row with
                status := .sending
                error := none } startedAt)
          deliveries := before.deliveries ++
            [{ worker := worker
               jobId := row.id
               order := before.currentOrder row.id }] }
  | loaded {worker : ℕ} {startedAt : ℤ} {mailboxActive : Bool}
      {delivery : MailDelivery} {phase : MailPhase} {row : ScheduledMail}
      (found : before.delivery? worker = some delivery)
      (claimed : delivery.phase = .claimed)
      (member : row ∈ before.rows) (same : row.id = delivery.jobId)
      (sending : row.status = .sending) : ScheduledMailMoved (.load worker startedAt mailboxActive)
        { before with deliveries := before.advance worker phase }
  | reloaded {worker : ℕ} {startedAt startedBefore : ℤ}
      {delivery : MailDelivery} {row stored : ScheduledMail}
      (found : before.delivery? worker = some delivery)
      (loaded : delivery.phase = .loaded row startedBefore) :
      ScheduledMailMoved (.reload worker startedAt)
        { before with
          deliveries := before.advance worker (.loaded stored startedAt) }
  | submitted {worker : ℕ} {startedAt : ℤ} {delivery : MailDelivery}
      {row : ScheduledMail}
      (found : before.delivery? worker = some delivery)
      (loaded : delivery.phase = .loaded row startedAt) : ScheduledMailMoved (.submit worker)
        { before with
          deliveries := before.advance worker (.submitted row startedAt)
          accepted := before.accepted ++ [delivery.key] }
  | finished {worker : ℕ} {now startedAt : ℤ} {raised : Option String}
      {delivery : MailDelivery} {loaded changed : ScheduledMail}
      (found : before.delivery? worker = some delivery)
      (pastCheck : delivery.PastCheck)
      (isOver : changed.status = .sent ∨ changed.status = .failed) :
      ScheduledMailMoved (.finish worker now raised)
        { before with
          rows := before.write delivery.jobId (loaded.flush changed startedAt)
          deliveries := before.without worker }
  | dropped {worker : ℕ} {move : ScheduledMailMove} : ScheduledMailMoved move
        { before with deliveries := before.without worker }
  | asked {move : ScheduledMailMove} {request : MailRequest} : ScheduledMailMoved move
        { before with requests := before.requests ++ [request] }
  | cancelled {position : ℕ} {now startedAt : ℤ} {loaded : ScheduledMail}
      {isOpen : loaded.status = .queued ∨ loaded.status = .failed}
      (found : before.requests[position]? = some (.cancel loaded startedAt isOpen)) :
      ScheduledMailMoved (.commit position now)
        { before with
          rows := before.write loaded.id
            (loaded.flush loaded.cancel startedAt)
          requests := before.requests.eraseIdx position }
  | retried {position : ℕ} {now startedAt : ℤ} {secret : String}
      {loaded : ScheduledMail} {failed : loaded.status = .failed}
      (found : before.requests[position]? = some (.retry loaded startedAt secret failed)) :
      ScheduledMailMoved (.commit position now)
        { before with
          rows := before.write loaded.id
            (loaded.flush (loaded.retry secret now) startedAt)
          requests := before.requests.eraseIdx position
          placed := before.placed ++ [loaded.id] }

namespace ScheduledMailState

theorem scheduleMessage_moved (mailboxId : ℕ) (payload : ScheduleIn) (secret : String) (now : ℤ) :
    ScheduledMailMoved before (.schedule mailboxId payload secret now)
      (before.scheduleMessage mailboxId payload secret now) := by
  unfold scheduleMessage
  split
  · exact .idle
  · split
    · exact .idle
    · exact .scheduled rfl rfl

variable (worker : ℕ)

theorem load_moved (startedAt : ℤ) (mailboxActive : Bool) :
    ScheduledMailMoved before (.load worker startedAt mailboxActive)
      (before.load worker startedAt mailboxActive) := by
  unfold load
  cases found : before.delivery? worker with
  | none => exact .idle
  | some delivery =>
    dsimp only
    cases phase : delivery.phase with
    | claimed =>
      dsimp only
      cases located : before.row? delivery.jobId with
      | none => exact .dropped
      | some row =>
        dsimp only
        obtain ⟨member, same⟩ := row?_spec located
        split_ifs with idle active
        · exact .dropped
        · exact .loaded found phase member same (not_not.mp idle)
        · exact .loaded found phase member same (not_not.mp idle)
    | loaded | refused | submitted => exact .idle

theorem reload_moved (startedAt : ℤ) :
    ScheduledMailMoved before (.reload worker startedAt) (before.reload worker startedAt) := by
  unfold reload
  cases found : before.delivery? worker with
  | none => exact .idle
  | some delivery =>
    dsimp only
    split
    · rename_i phase _
      split_ifs
      · exact .reloaded found phase
      · exact .idle
    · exact .idle

theorem submit_moved : ScheduledMailMoved before (.submit worker) (before.submit worker) := by
  unfold submit
  cases found : before.delivery? worker with
  | none => exact .idle
  | some delivery =>
    dsimp only
    cases phase : delivery.phase with
    | loaded row loadedAt =>
      dsimp only
      split_ifs
      · exact .submitted found phase
      · exact .idle
    | claimed | refused | submitted => exact .idle

theorem finish_moved (now : ℤ) (raised : Option String) :
    ScheduledMailMoved before (.finish worker now raised) (before.finish worker now raised) := by
  unfold finish
  cases found : before.delivery? worker with
  | none => exact .idle
  | some delivery =>
    dsimp only
    cases outcome : delivery.outcome now raised with
    | none => exact .idle
    | some written =>
      obtain ⟨loaded, changed, startedAt⟩ := written
      obtain ⟨pastCheck, isOver⟩ := MailDelivery.outcome_spec outcome
      exact .finished found pastCheck isOver

theorem commit_moved (position : ℕ) (now : ℤ) : ScheduledMailMoved before (.commit position now)
      (before.commit position now) := by
  unfold commit
  cases found : before.requests[position]? with
  | none => exact .idle
  | some request =>
    cases request with
    | cancel => exact .cancelled found
    | retry => exact .retried found

theorem perform_moved (move : ScheduledMailMove) :
    ScheduledMailMoved before move (before.perform move) := by
  cases move with
  | schedule mailboxId payload secret now =>
    exact scheduleMessage_moved before mailboxId payload secret now
  | claim worker now startedAt locked =>
    dsimp only [perform]
    unfold claimOne
    split
    · rename_i free claimable
      exact .claimed free claimable
    · exact .idle
  | load worker startedAt mailboxActive =>
    exact load_moved before worker startedAt mailboxActive
  | reload worker startedAt => exact reload_moved before worker startedAt
  | submit worker => exact submit_moved before worker
  | finish worker now raised => exact finish_moved before worker now raised
  | crash worker => exact .dropped
  | cancel mailboxId jobId startedAt =>
    dsimp only [perform]
    unfold cancelScheduled
    split
    · exact .idle
    · split_ifs
      · exact .asked
      · exact .idle
  | retry mailboxId jobId secret startedAt =>
    dsimp only [perform]
    unfold retryScheduled
    split
    · exact .idle
    · split_ifs
      · exact .asked
      · exact .idle
  | commit position now => exact commit_moved before position now

end ScheduledMailState

end Moves

end Ithute
