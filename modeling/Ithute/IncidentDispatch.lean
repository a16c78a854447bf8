import Ithute.Library.ListWindows
import Ithute.Library.TransitionRuns
import Ithute.PythonTexts

/-!
# Incident notifications

A pass of the dispatcher takes the oldest deliveries that are due, up to a
limit, and skips those of a channel that is off and those of suppressed
incidents as it goes through them.
-/

namespace Ithute.IncidentDispatch

open Texts TransitionRuns

inductive DeliveryStatus where
  | queued | retry | delivered | failed | cancelled
  deriving DecidableEq

structure HardwareIncidentDelivery where
  id : ℕ
  incidentId : ℕ
  recipientUserId : ℕ
  channel : String
  status : DeliveryStatus := .queued
  attempts : ℕ := 0
  nextAttemptAt : Option ℤ := none
  lastError : Option Text := none
  deliveredAt : Option ℤ := none
  createdAt : ℤ
  deriving DecidableEq

structure HardwareIncident where
  serverId : ℕ
  isOpen : Bool := true
  notificationSuppressed : Bool := false

structure DispatchSettings where
  retrySeconds : Option ℤ := none
  maxAttempts : Option ℤ := none

namespace DispatchSettings

variable (settings : DispatchSettings)

/-- `_retry_seconds` -/
def retrySecondsLimit : ℤ := max 10 (min (settings.retrySeconds.getD 60) 3600)

/-- `_max_attempts` -/
def maxAttemptsLimit : ℕ := (max 1 (min (settings.maxAttempts.getD 5) 20)).toNat

theorem maxAttemptsLimit_pos : 0 < settings.maxAttemptsLimit := by
  unfold maxAttemptsLimit
  omega

end DispatchSettings

/-- What a pass reads of the other tables, and what becomes of its messages:
the text of an exception, or nothing. -/
structure DispatchWorld where
  now : ℤ
  emailEnabled : Bool := true
  pushEnabled : Bool := true
  incident? : ℕ → Option HardwareIncident
  hasUser : ℕ → Bool := fun _ => true
  hasServer : ℕ → Bool := fun _ => true
  sendEmail : HardwareIncidentDelivery → Except Text Unit := fun _ => .ok ()
  sendPush : HardwareIncidentDelivery → Except Text Unit := fun _ => .ok ()

inductive DispatchOutcome where
  | delivered | retried | failed | skipped
  deriving DecidableEq

structure DispatchSummary where
  checked : ℕ
  delivered : ℕ
  retried : ℕ
  failed : ℕ
  skippedDisabled : ℕ

section Pass

variable (settings : DispatchSettings) (world : DispatchWorld)

def Due (now : ℤ) (row : HardwareIncidentDelivery) : Prop :=
  (row.status = .queued ∨ row.status = .retry) ∧ ∀ time ∈ row.nextAttemptAt, time ≤ now

instance (now : ℤ) (row : HardwareIncidentDelivery) : Decidable (Due now row) :=
  inferInstanceAs (Decidable (_ ∧ ∀ _ ∈ _, _))

def send (row : HardwareIncidentDelivery) : Except Text Unit :=
  if row.channel = "email" then world.sendEmail row
  else if row.channel = "push" then world.sendPush row
  else .error (("RuntimeError: unsupported hardware notification channel: " ++ row.channel).toList)

/-- The `try` block of the loop. -/
def attempt (row : HardwareIncidentDelivery) : HardwareIncidentDelivery × DispatchOutcome :=
  let tried := { row with attempts := row.attempts + 1 }
  match send world tried with
  | .ok () =>
    ({ tried with
        status := .delivered
        deliveredAt := some world.now
        nextAttemptAt := none
        lastError := none }, .delivered)
  | .error error =>
    if settings.maxAttemptsLimit ≤ tried.attempts then
      ({ tried with
          status := .failed
          nextAttemptAt := none
          lastError := some (error.take 2000) }, .failed)
    else
      let backoff := min 3600 (settings.retrySecondsLimit * 2 ^ (tried.attempts - 1))
      ({ tried with
          status := .retry
          nextAttemptAt := some (world.now + backoff)
          lastError := some (error.take 2000) }, .retried)

def ChannelEnabled (row : HardwareIncidentDelivery) : Prop :=
  ¬ (row.channel = "email" ∧ world.emailEnabled = false) ∧
    ¬ (row.channel = "push" ∧ world.pushEnabled = false)

instance (row : HardwareIncidentDelivery) : Decidable (ChannelEnabled world row) :=
  inferInstanceAs (Decidable (_ ∧ _))

/-- The incident of a delivery, unless it, the recipient or the server is gone. -/
def present? (row : HardwareIncidentDelivery) : Option HardwareIncident :=
  (world.incident? row.incidentId).filter fun incident =>
    world.hasUser row.recipientUserId && world.hasServer incident.serverId

def dispatchRow (row : HardwareIncidentDelivery) : HardwareIncidentDelivery × DispatchOutcome :=
  if ChannelEnabled world row then
    match present? world row with
    | none =>
      ({ row with
          status := .failed
          lastError := some "incident, recipient or server no longer exists".toList
          attempts := row.attempts + 1 }, .failed)
    | some incident =>
      if incident.isOpen = false then
        ({ row with
            status := .cancelled
            nextAttemptAt := none
            lastError := some "incident resolved before delivery".toList }, .skipped)
      else if incident.notificationSuppressed then (row, .skipped)
      else attempt settings world row
  else (row, .skipped)

/-- `limit(max(1, min(limit, 500)))` -/
def windowSize (limit : ℤ) : ℕ := (max 1 (min limit 500)).toNat

def window (due : List HardwareIncidentDelivery) (limit : ℤ) : List HardwareIncidentDelivery :=
  due.take (windowSize limit)

/-- `dispatch_hardware_incident_deliveries`, with the rows that the query finds
in the order that it gives them. -/
def dispatchDeliveries (rows due : List HardwareIncidentDelivery) (limit : ℤ) :
    List HardwareIncidentDelivery × DispatchSummary :=
  let outcomes := (window due limit).map fun row => (dispatchRow settings world row).2
  (rows.map fun row =>
      if row ∈ window due limit then (dispatchRow settings world row).1 else row,
    { checked := (window due limit).length
      delivered := outcomes.count .delivered
      retried := outcomes.count .retried
      failed := outcomes.count .failed
      skippedDisabled := outcomes.count .skipped })

def Attempts (row : HardwareIncidentDelivery) : Prop :=
  row.attempts < (dispatchRow settings world row).1.attempts

instance (row : HardwareIncidentDelivery) : Decidable (Attempts settings world row) :=
  inferInstanceAs (Decidable (_ < _))

/-- Neither the channel is off nor the incident suppressed or resolved. -/
def Eligible (row : HardwareIncidentDelivery) : Prop :=
  ChannelEnabled world row ∧
    ∀ incident ∈ present? world row,
      incident.isOpen = true ∧ incident.notificationSuppressed = false

instance (row : HardwareIncidentDelivery) : Decidable (Eligible world row) :=
  inferInstanceAs (Decidable (_ ∧ ∀ _ ∈ _, _))

theorem attempts_attempt (row : HardwareIncidentDelivery) :
    (attempt settings world row).1.attempts = row.attempts + 1 := by
  unfold attempt
  dsimp only
  split
  · rfl
  · split <;> rfl

theorem attempts_iff (row : HardwareIncidentDelivery) :
    Attempts settings world row ↔ Eligible world row := by
  unfold Attempts Eligible dispatchRow
  by_cases enabled : ChannelEnabled world row
  · rw [if_pos enabled]
    cases present? world row with
    | none => simp [enabled]
    | some incident =>
      cases isOpen : incident.isOpen
      · simp [isOpen]
      · cases suppressed : incident.notificationSuppressed
        · simp [enabled, isOpen, suppressed, attempts_attempt]
        · simp [isOpen, suppressed]
  · rw [if_neg enabled]
    simp [enabled]

end Pass

/-- No delivery has more attempts than configured, and one that waits has
fewer. -/
def AttemptsKept (settings : DispatchSettings) (rows : List HardwareIncidentDelivery) : Prop :=
  ∀ row ∈ rows, row.attempts ≤ settings.maxAttemptsLimit ∧
    (row.status = .queued ∨ row.status = .retry → row.attempts < settings.maxAttemptsLimit)

structure DeliveryTable (settings : DispatchSettings) where
  rows : List HardwareIncidentDelivery
  kept : AttemptsKept settings rows

section Rows

variable {settings : DispatchSettings} {world : DispatchWorld} {row : HardwareIncidentDelivery}

theorem dispatchRow_kept (left : row.attempts < settings.maxAttemptsLimit) :
    (dispatchRow settings world row).1.attempts ≤ settings.maxAttemptsLimit ∧
      ((dispatchRow settings world row).1.status = .queued ∨
          (dispatchRow settings world row).1.status = .retry →
        (dispatchRow settings world row).1.attempts < settings.maxAttemptsLimit) := by
  unfold dispatchRow
  split_ifs with enabled
  · cases present? world row with
    | none => exact ⟨left, fun waiting => by simp at waiting⟩
    | some incident =>
      dsimp only
      split_ifs with resolved suppressed
      · exact ⟨left.le, fun waiting => by simp at waiting⟩
      · exact ⟨left.le, fun _ => left⟩
      · unfold attempt
        dsimp only
        split
        · exact ⟨left, fun waiting => by simp at waiting⟩
        · split_ifs with exhausted
          · exact ⟨left, fun waiting => by simp at waiting⟩
          · exact ⟨left, fun _ => not_le.mp exhausted⟩
  · exact ⟨left.le, fun _ => left⟩

end Rows

inductive DispatchMove where
  | queue (row : HardwareIncidentDelivery)
  | resend (incidentId : ℕ)
  | pass (world : DispatchWorld) (due : List HardwareIncidentDelivery) (limit : ℤ)

/-- The transitions of the table.  A pass gets the rows that are due from the
oldest on; rows of one time come in any order. -/
inductive DispatchStep (settings : DispatchSettings) :
    List HardwareIncidentDelivery → DispatchMove → List HardwareIncidentDelivery → Prop
  | queue {rows : List HardwareIncidentDelivery} (row : HardwareIncidentDelivery)
      (new : row.status = .queued ∧ row.attempts = 0) :
      DispatchStep settings rows (.queue row) (rows ++ [row])
  | resend {rows : List HardwareIncidentDelivery} (incidentId : ℕ) :
      DispatchStep settings rows (.resend incidentId) (rows.map fun row =>
        if row.incidentId = incidentId ∧ (row.status = .failed ∨ row.status = .retry) then
          { row with
            status := .queued
            attempts := 0
            nextAttemptAt := none
            lastError := none
            deliveredAt := none }
        else row)
  | pass {rows due : List HardwareIncidentDelivery} (world : DispatchWorld) (limit : ℤ)
      (queried : due.Perm (rows.filter fun row => decide (Due world.now row)))
      (oldestFirst : due.Pairwise fun first second => first.createdAt ≤ second.createdAt) :
      DispatchStep settings rows (.pass world due limit)
        (dispatchDeliveries settings world rows due limit).1

section Steps

variable (settings : DispatchSettings)

/-- The rows that a pass attempts, in the order in which it goes through
them. -/
def attempted (world : DispatchWorld) (due : List HardwareIncidentDelivery) (limit : ℤ) :
    List HardwareIncidentDelivery :=
  (window due limit).filter fun row => decide (Attempts settings world row)

/-- A pass attempts the oldest eligible deliveries up to its limit, none of
them delivered before; no other move touches what is delivered, and attempts
stay within what is configured. -/
structure Unblocked (before : List HardwareIncidentDelivery) (move : DispatchMove)
    (after : List HardwareIncidentDelivery) : Prop where
  oldest : ∀ world due limit, move = .pass world due limit → attempted settings world due limit =
      (due.filter fun row => decide (Eligible world row)).take limit.toNat
  waiting : ∀ world due limit, move = .pass world due limit →
    ∀ row ∈ attempted settings world due limit, row.status ≠ .delivered
  delivered : ∀ row ∈ before, row.status = .delivered → row ∈ after
  bounded : ∀ row ∈ after, row.attempts ≤ settings.maxAttemptsLimit

/-- Among the oldest rows that are due, as many as the query is limited to,
there are as many eligible ones as can be wanted. -/
def RoomInWindow : DispatchMove → Prop
  | .pass world due limit =>
    (due.take (windowSize limit)).countP (fun row => decide (Eligible world row)) =
      min limit.toNat (due.countP fun row => decide (Eligible world row))
  | _ => True

variable {settings} {before after : List HardwareIncidentDelivery} {move : DispatchMove}

theorem attempted_eq (world : DispatchWorld) (due : List HardwareIncidentDelivery) (limit : ℤ) :
    attempted settings world due limit =
      (due.take (windowSize limit)).filter fun row => decide (Eligible world row) := by
  simp only [attempted, window, attempts_iff]

theorem attempted_eq_oldest_iff (world : DispatchWorld) (due : List HardwareIncidentDelivery)
    (limit : ℤ) : attempted settings world due limit =
        (due.filter fun row => decide (Eligible world row)).take limit.toNat ↔
      RoomInWindow (.pass world due limit) := by
  rw [attempted_eq, ListWindows.filter_take_eq_take_iff, RoomInWindow, List.countP_eq_length_filter,
    List.countP_eq_length_filter]

theorem waits_of_mem_due {rows due : List HardwareIncidentDelivery} {now : ℤ}
    (queried : due.Perm (rows.filter fun row => decide (Due now row)))
    {row : HardwareIncidentDelivery} (member : row ∈ due) :
    row ∈ rows ∧ (row.status = .queued ∨ row.status = .retry) := by
  have found := queried.mem_iff.mp member
  rw [List.mem_filter, decide_eq_true_eq] at found
  exact ⟨found.1, found.2.1⟩

theorem DispatchStep.kept (step : DispatchStep settings before move after)
    (kept : AttemptsKept settings before) : AttemptsKept settings after := by
  cases step with
  | queue row new =>
    intro other member
    rcases List.mem_append.mp member with old | added
    · exact kept other old
    · rw [List.mem_singleton.mp added, new.2]
      exact ⟨Nat.zero_le _, fun _ => settings.maxAttemptsLimit_pos⟩
  | resend incidentId =>
    intro other member
    obtain ⟨row, rowMem, rfl⟩ := List.mem_map.mp member
    split_ifs
    · exact ⟨Nat.zero_le _, fun _ => settings.maxAttemptsLimit_pos⟩
    · exact kept row rowMem
  | pass world limit queried oldestFirst =>
    intro other member
    obtain ⟨row, rowMem, rfl⟩ := List.mem_map.mp member
    split_ifs with taken
    · have waits := (waits_of_mem_due queried (List.mem_of_mem_take taken)).2
      exact dispatchRow_kept ((kept row rowMem).2 waits)
    · exact kept row rowMem

theorem DispatchStep.delivered (step : DispatchStep settings before move after) :
    ∀ row ∈ before, row.status = .delivered → row ∈ after := by
  intro row member isDelivered
  cases step with
  | queue new _ => exact List.mem_append_left _ member
  | resend incidentId =>
    refine List.mem_map.mpr ⟨row, member, if_neg ?_⟩
    simp [isDelivered]
  | pass world limit queried oldestFirst =>
    refine List.mem_map.mpr ⟨row, member, if_neg fun taken => ?_⟩
    have waits := (waits_of_mem_due queried (List.mem_of_mem_take taken)).2
    simp [isDelivered] at waits

theorem DispatchStep.unblocked_iff (step : DispatchStep settings before move after)
    (kept : AttemptsKept settings before) :
    Unblocked settings before move after ↔ RoomInWindow move := by
  constructor
  · intro unblocked
    cases move with
    | queue row => trivial
    | resend incidentId => trivial
    | pass world due limit =>
      exact (attempted_eq_oldest_iff world due limit).mp (unblocked.oldest world due limit rfl)
  · intro room
    refine ⟨?_, ?_, step.delivered, fun row member => (step.kept kept row member).1⟩
    · rintro world due limit rfl
      exact (attempted_eq_oldest_iff world due limit).mpr room
    · rintro world due limit rfl row member isDelivered
      cases step with
      | pass _ _ queried _ =>
        have taken := List.mem_of_mem_take (List.mem_of_mem_filter member)
        have waits := (waits_of_mem_due queried taken).2
        simp [isDelivered] at waits

end Steps

/-- In every run the passes attempt the oldest eligible deliveries, deliver
nothing twice and keep within the attempts if and only if the rows that are
skipped leave room in every window. -/
theorem run_unblocked_iff (settings : DispatchSettings) (table : DeliveryTable settings)
    (moves : List DispatchMove) :
    EveryStep (DispatchStep settings) (Unblocked settings) table.rows moves ↔
      EveryStep (DispatchStep settings) (fun _ move _ => RoomInWindow move) table.rows moves := by
  refine EveryStep.congr_of_invariant table.kept ?_ ?_ (fun _ _ => True.intro)
  · exact fun rows move after kept step _ => step.kept kept
  · exact fun rows move after kept step => step.unblocked_iff kept

def alarm (id : ℕ) (channel : String) : HardwareIncidentDelivery where
  id := id
  incidentId := 1
  recipientUserId := 1
  channel := channel
  createdAt := id

def queuedTable : DeliveryTable {} where
  rows := [alarm 1 "email", alarm 2 "push"]
  kept := by
    unfold AttemptsKept
    decide

/-- The mail is off, and the pass has room for both deliveries. -/
def roomyPass : DispatchMove :=
  .pass
    { now := 3
      emailEnabled := false
      incident? := fun _ => some { serverId := 1 } }
    queuedTable.rows 2

theorem run_unblocked_iff_queued : EveryStep (DispatchStep {}) (Unblocked {}) queuedTable.rows
    [roomyPass, .resend 1] := by
  refine (run_unblocked_iff {} queuedTable _).mpr ?_
  intro front move back before after split run step
  have member : move ∈ [roomyPass, .resend 1] := by simp [split]
  rcases List.mem_pair.mp member with rfl | rfl
  · change _ = _
    decide
  · exact True.intro

/-- With the mail switched off a delivery by mail takes the one place of a pass
from the younger one that is on. -/
theorem disabledChannel_blocks : ¬ EveryStep (DispatchStep {}) (Unblocked {}) []
        [.queue (alarm 1 "email"), .queue (alarm 2 "push"), .pass
            { now := 3
              emailEnabled := false
              incident? := fun _ => some { serverId := 1 } }
            [alarm 1 "email", alarm 2 "push"] 1] := by
  intro unblocked
  have queued : Run (DispatchStep {}) [] [.queue (alarm 1 "email"), .queue (alarm 2 "push")]
      [alarm 1 "email", alarm 2 "push"] :=
    (Run.single (.queue _ ⟨rfl, rfl⟩)).next (.queue _ ⟨rfl, rfl⟩)
  have pass := unblocked _ _ [] _ _ rfl queued (.pass _ 1 (List.Perm.refl _) (by decide))
  have oldest := pass.oldest _ _ _ rfl
  revert oldest
  decide

end Ithute.IncidentDispatch
