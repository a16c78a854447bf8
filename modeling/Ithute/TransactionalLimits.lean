import Ithute.TransactionalSending
import Mathlib.Tactic.Ring
import Mathlib.Tactic.NormNum

/-!
# The limits on transactional mail

Requests that overlap do not see each other's rows.  Each limit holds as long
as what is committed leaves room for the requests under way that have passed
its check, and every accepted message is committed within the minute.
-/

namespace Ithute

open TransitionRuns

namespace SendingLimit

variable {limit : SendingLimit} {time other : ℤ}

theorem period_pos : 0 < limit.period := by cases limit <;> simp [period]

theorem position_lt (limit : SendingLimit) : limit.position < 3 := by cases limit <;> decide

theorem window_mono (le : time ≤ other) : limit.window time ≤ limit.window other :=
  Int.ediv_le_ediv period_pos le

theorem windowStart_le_of_window (same : limit.window other =
    limit.window time) : limit.windowStart time ≤ other := by
  unfold windowStart
  rw [← same]
  exact Int.ediv_mul_le other (ne_of_gt period_pos)

theorem window_tenantDay : tenantDay.window time = tenantMinute.window time / 1440 := by
  dsimp only [window, period]
  rw [Int.ediv_ediv_of_nonneg (by norm_num)]
  norm_num

theorem window_eq_of_minute (same : tenantMinute.window time =
    tenantMinute.window other) : limit.window time = limit.window other := by
  cases limit with
  | tenantMinute | keyMinute => exact same
  | tenantDay => rw [window_tenantDay, window_tenantDay, same]

end SendingLimit

namespace SendRequest

variable (limit : SendingLimit) (subject : ℕ) (window : ℤ) (request : SendRequest)

def passed : ℕ :=
  match request.stage with
  | .authenticated | .ended _ => 0
  | .counting passed => passed
  | .submitting | .submitted _ => 3

def concerns : Bool := limit.subject request.tenantId request.apiKeyId = subject

def acceptedIn : Bool :=
  request.concerns limit subject && request.acceptedAt.any fun time => limit.window time = window

def underwayIn : Bool :=
  request.concerns limit subject && limit.position < request.passed &&
    limit.window request.current = window

def waitingIn : Bool := request.underwayIn limit subject window && request.acceptedAt.isNone

def pendingIn : Bool := request.underwayIn limit subject window && request.acceptedAt.isSome

end SendRequest

namespace SendWorld

variable (settings : TransactionalSettings) (world : SendWorld)
variable (limit : SendingLimit) (subject : ℕ) (window : ℤ)

def accepted : ℕ :=
  world.requests.countP fun request => request.acceptedIn limit subject window

def underway : ℕ :=
  world.requests.countP fun request => request.underwayIn limit subject window

def waiting : ℕ := world.requests.countP fun request => request.waitingIn limit subject window

def pending : ℕ := world.requests.countP fun request => request.pendingIn limit subject window

def committed : ℕ := world.counted limit subject fun time => limit.window time = window

/-- No limit is exceeded, and a message that was accepted is on record when
its request has ended. -/
structure KeepsLimits : Prop where
  limits : ∀ limit subject window, world.accepted limit subject window ≤ limit.bound settings
  recorded : ∀ request ∈ world.requests, request.acceptedAt.isSome →
    ∀ detail, request.stage = .ended detail →
      ∃ row ∈ world.rows, row.id = request.rowId ∧ row.status ≠ .failed

/-- What the committed messages and the requests under way leave. -/
def LeavesRoom (request : SendRequest) (limit : SendingLimit) : Prop :=
  let subject := limit.subject request.tenantId request.apiKeyId
  let window := limit.window request.current
  world.underway limit subject window = 0 ∨ world.committed limit subject window +
      world.underway limit subject window < limit.bound settings

/-- The steps of requests that leave room for each other, whose messages are
accepted within their minute and are then committed. -/
def CalmSending (before : SendWorld) : SendAction → SendWorld → Prop
  | .count index limit, _ =>
    ∀ request ∈ before.requests[index]?, request.stage = .counting limit.position →
        before.LeavesRoom settings request limit
  | .submit index outcome, _ =>
    ∀ request ∈ before.requests[index]?, request.stage = .submitting → outcome ≠ .acceptedLost ∧
        (outcome = .accepted → SendingLimit.tenantMinute.window request.began =
            SendingLimit.tenantMinute.window before.now)
  | .crash index, _ =>
    ∀ request ∈ before.requests[index]?,
      request.stage = .submitted .queued → request.acceptedAt = none
  | _, _ => True

variable {settings world limit subject window} {index : ℕ} {request saved : SendRequest}

theorem countP_save (saved : SendRequest) (counts : SendRequest → Bool)
    (found : world.requests[index]? = some request) :
    (world.save index saved).requests.countP counts + (counts request).toNat =
      world.requests.countP counts + (counts saved).toNat := by
  obtain ⟨below, here⟩ := List.getElem?_eq_some_iff.mp found
  have positive : counts request = true → 0 < world.requests.countP counts := by
    intro counted
    rw [List.countP_pos_iff]
    exact ⟨request, List.mem_of_getElem? found, counted⟩
  unfold save
  dsimp only
  rw [List.countP_set below, here]
  cases old : counts request with
  | false => cases counts saved <;> simp
  | true =>
    have some' := positive old
    cases counts saved <;> simp <;> omega

theorem underway_eq : world.underway limit subject window = world.waiting limit subject window +
        world.pending limit subject window := by
  unfold underway waiting pending
  induction world.requests with
  | nil => rfl
  | cons request rest ih =>
    rw [List.countP_cons, List.countP_cons, List.countP_cons, ih]
    unfold SendRequest.waitingIn SendRequest.pendingIn
    cases request.underwayIn limit subject window <;>
      cases request.acceptedAt <;> simp <;> omega

theorem committed_le_counted {time : ℤ} : world.committed limit subject (limit.window time) ≤
      world.counted limit subject fun other =>
        limit.windowStart time ≤ other := by
  unfold committed counted
  apply List.countP_mono_left
  intro row _ counted
  simp only [Bool.and_eq_true, decide_eq_true_eq] at counted ⊢
  exact ⟨⟨counted.1.1, SendingLimit.windowStart_le_of_window counted.1.2⟩, counted.2⟩

structure OrderlyRequest (world : SendWorld) (request : SendRequest) : Prop where
  began_le : request.began ≤ request.current
  current_le : request.current ≤ world.now
  /-- A message is accepted in the minute in which its request began, and
  then its request is about to commit or has committed. -/
  accepted : ∀ time, request.acceptedAt = some time →
    SendingLimit.tenantMinute.window request.began = SendingLimit.tenantMinute.window time ∧
      request.current ≤ time ∧ (request.stage = .submitted .queued ∨
          (∃ detail, request.stage = .ended detail) ∧
            ∃ row ∈ world.rows, row.id = request.rowId ∧ row.status ≠ .failed)

structure OrderlySending (settings : TransactionalSettings) (world : SendWorld) : Prop where
  requests : ∀ request ∈ world.requests, OrderlyRequest world request
  recorded : ∀ limit subject window, world.accepted limit subject window ≤
      world.committed limit subject window + world.pending limit subject window
  within : ∀ limit subject window, world.accepted limit subject window +
      world.waiting limit subject window ≤ limit.bound settings

theorem OrderlyRequest.window_eq {time : ℤ} (orderly : OrderlyRequest world request)
    (accepted : request.acceptedAt = some time) : limit.window request.began = limit.window time ∧
      limit.window request.current = limit.window time := by
  obtain ⟨minute, before, -⟩ := orderly.accepted time accepted
  have sameMinute : SendingLimit.tenantMinute.window request.current =
      SendingLimit.tenantMinute.window time := by
    apply le_antisymm (SendingLimit.window_mono before)
    rw [← minute]
    exact SendingLimit.window_mono orderly.began_le
  exact ⟨SendingLimit.window_eq_of_minute minute, SendingLimit.window_eq_of_minute sameMinute⟩

variable {after : SendWorld}

theorem OrderlyRequest.later (orderly : OrderlyRequest world request) (now : world.now ≤ after.now)
    (rows : ∀ row ∈ world.rows, row ∈ after.rows) : OrderlyRequest after request where
  began_le := orderly.began_le
  current_le := orderly.current_le.trans now
  accepted time here := by
    obtain ⟨minute, before, stage⟩ := orderly.accepted time here
    refine ⟨minute, before, stage.imp id ?_⟩
    rintro ⟨ended, row, member, same⟩
    exact ⟨ended, row, rows row member, same⟩

theorem OrderlySending.keepsLimits (orderly : OrderlySending settings world) :
    KeepsLimits settings world where
  limits limit subject window := (Nat.le_add_right _ _).trans (orderly.within limit subject window)
  recorded request member accepted detail ended := by
    obtain ⟨time, accepted⟩ := Option.isSome_iff_exists.mp accepted
    obtain ⟨-, -, pending | ⟨-, recorded⟩⟩ :=
      (orderly.requests request member).accepted time accepted
    · rw [ended] at pending
      cases pending
    · exact recorded

theorem OrderlySending.replace (orderly : OrderlySending settings world)
    (found : world.requests[index]? = some request)
    (requests : after.requests = (world.save index saved).requests) (now : after.now = world.now)
    (rows : ∀ row ∈ world.rows, row ∈ after.rows) (self : OrderlyRequest after saved)
    (recorded : ∀ limit subject window, world.committed limit subject window +
          (saved.acceptedIn limit subject window).toNat +
            (request.pendingIn limit subject window).toNat ≤
        after.committed limit subject window + (request.acceptedIn limit subject window).toNat +
            (saved.pendingIn limit subject window).toNat)
    (within : ∀ limit subject window, world.accepted limit subject window +
            world.waiting limit subject window + (saved.acceptedIn limit subject window).toNat +
            (saved.waitingIn limit subject window).toNat ≤
        limit.bound settings + (request.acceptedIn limit subject window).toNat +
            (request.waitingIn limit subject window).toNat) : OrderlySending settings after where
  requests other member := by
    rw [requests] at member
    rcases List.mem_or_eq_of_mem_set member with earlier | rfl
    · exact (orderly.requests other earlier).later now.ge rows
    · exact self
  recorded limit subject window := by
    have before := orderly.recorded limit subject window
    have here := recorded limit subject window
    have accepted := countP_save saved
      (fun request => request.acceptedIn limit subject window) found
    have pending := countP_save saved (fun request => request.pendingIn limit subject window) found
    unfold SendWorld.accepted SendWorld.pending at before ⊢
    rw [requests]
    omega
  within limit subject window := by
    have here := within limit subject window
    have accepted := countP_save saved
      (fun request => request.acceptedIn limit subject window) found
    have waiting := countP_save saved (fun request => request.waitingIn limit subject window) found
    unfold SendWorld.accepted SendWorld.waiting at here ⊢
    rw [requests]
    omega

theorem OrderlySending.moved (orderly : OrderlySending settings world)
    (found : world.requests[index]? = some request)
    (requests : after.requests = (world.save index saved).requests)
    (now : after.now = world.now) (rows : after.rows = world.rows)
    (self : OrderlyRequest after saved)
    (before : request.acceptedAt = none) (later : saved.acceptedAt = none)
    (within : ∀ limit subject window, world.accepted limit subject window +
            world.waiting limit subject window + (saved.waitingIn limit subject window).toNat ≤
        limit.bound settings + (request.waitingIn limit subject window).toNat) :
    OrderlySending settings after := by
  have none' {other : SendRequest} (absent : other.acceptedAt = none)
      (limit : SendingLimit) (subject : ℕ) (window : ℤ) :
      other.acceptedIn limit subject window = false ∧
        other.pendingIn limit subject window = false := by
    unfold SendRequest.acceptedIn SendRequest.pendingIn
    simp [absent]
  refine orderly.replace found requests now (by simp [rows]) self ?_ ?_
  · intro limit subject window
    rw [(none' before limit subject window).1, (none' before limit subject window).2,
      (none' later limit subject window).1, (none' later limit subject window).2]
    unfold committed counted
    rw [rows]
  · intro limit subject window
    rw [(none' before limit subject window).1, (none' later limit subject window).1]
    simpa using within limit subject window

theorem OrderlySending.within_of_le (orderly : OrderlySending settings world) (limit : SendingLimit)
    (subject : ℕ) (window : ℤ) (le : saved.waitingIn limit subject window = true →
      request.waitingIn limit subject window = true) :
    world.accepted limit subject window + world.waiting limit subject window +
          (saved.waitingIn limit subject window).toNat ≤
      limit.bound settings + (request.waitingIn limit subject window).toNat := by
  have before := orderly.within limit subject window
  cases later : saved.waitingIn limit subject window with
  | false => simp; omega
  | true => rw [le later]; omega

theorem waitingIn_of_passed (none' : saved.passed = 0) :
    saved.waitingIn limit subject window = false := by
  unfold SendRequest.waitingIn SendRequest.underwayIn
  simp [none']

theorem OrderlyRequest.unaccepted
    (began : saved.began ≤ saved.current) (current : saved.current ≤ after.now)
    (absent : saved.acceptedAt = none) : OrderlyRequest after saved where
  began_le := began
  current_le := current
  accepted time here := by
    rw [absent] at here
    cases here

theorem OrderlyRequest.acceptedAt_eq_none (orderly : OrderlyRequest world request)
    (queued : request.stage ≠ .submitted .queued)
    (ended : ∀ detail, request.stage ≠ .ended detail) : request.acceptedAt = none := by
  cases accepted : request.acceptedAt with
  | none => rfl
  | some time =>
    obtain ⟨-, -, pending | ⟨⟨detail, stopped⟩, -⟩⟩ := orderly.accepted time accepted
    · exact absurd pending queued
    · exact absurd stopped (ended detail)

section Perform

variable (orderly : OrderlySending settings world)
include orderly

theorem perform_tick {passed : ℕ} :
    OrderlySending settings (world.perform settings (.tick passed)) where
  requests request member :=
    (orderly.requests request member).later (by simp [perform]) fun _ rowMem => rowMem
  recorded := orderly.recorded
  within := orderly.within

theorem perform_authenticate {tenantId apiKeyId : ℕ} : OrderlySending settings
      (world.perform settings (.authenticate tenantId apiKeyId)) where
  requests request member := by
    rcases List.mem_append.mp member with earlier | new
    · exact (orderly.requests request earlier).later le_rfl fun _ rowMem => rowMem
    · rw [List.mem_singleton] at new
      subst new
      exact OrderlyRequest.unaccepted le_rfl le_rfl rfl
  recorded limit subject window := by
    have before := orderly.recorded limit subject window
    unfold accepted committed counted pending at before ⊢
    dsimp only [perform]
    rw [List.countP_append, List.countP_append]
    simpa [SendRequest.acceptedIn, SendRequest.pendingIn] using before
  within limit subject window := by
    have before := orderly.within limit subject window
    unfold accepted waiting at before ⊢
    dsimp only [perform]
    rw [List.countP_append, List.countP_append]
    simpa [SendRequest.acceptedIn, SendRequest.waitingIn,
      SendRequest.underwayIn, SendRequest.passed] using before

theorem perform_readClock :
    OrderlySending settings (world.perform settings (.readClock index)) := by
  dsimp only [perform, withRequest]
  split
  · exact orderly
  · rename_i request found
    split
    · rename_i stage
      have here := orderly.requests request (List.mem_of_getElem? found)
      have absent := here.acceptedAt_eq_none (by simp [stage]) (by simp [stage])
      refine orderly.moved found rfl rfl rfl ?_ absent absent ?_
      · exact OrderlyRequest.unaccepted (here.began_le.trans here.current_le) le_rfl absent
      · intro limit subject window
        apply orderly.within_of_le
        rw [waitingIn_of_passed rfl]
        nofun
    · exact orderly

theorem within_count {current : SendingLimit} (stage : request.stage = .counting current.position)
    (room : world.LeavesRoom settings request current) (below : (world.counted current
        (current.subject request.tenantId request.apiKeyId)
        fun time => current.windowStart request.current ≤ time) < current.bound settings)
    (limit : SendingLimit) (subject : ℕ) (window : ℤ) :
    world.accepted limit subject window + world.waiting limit subject window +
          (({ request with stage := .counting (current.position + 1) } :
            SendRequest).waitingIn limit subject window).toNat ≤
      limit.bound settings + (request.waitingIn limit subject window).toNat := by
  have before := orderly.within limit subject window
  by_cases counts : limit = current ∧ current.subject request.tenantId request.apiKeyId = subject ∧
        current.window request.current = window
  · obtain ⟨rfl, rfl, rfl⟩ := counts
    have recorded := orderly.recorded limit (limit.subject request.tenantId request.apiKeyId)
      (limit.window request.current)
    have one := Bool.toNat_le (({ request with
      stage := .counting (limit.position + 1) } : SendRequest).waitingIn limit
          (limit.subject request.tenantId request.apiKeyId) (limit.window request.current))
    have committed : world.committed limit (limit.subject request.tenantId request.apiKeyId)
        (limit.window request.current) < limit.bound settings :=
      Nat.lt_of_le_of_lt committed_le_counted below
    have split : world.underway limit (limit.subject request.tenantId request.apiKeyId)
        (limit.window request.current) = _ := underway_eq
    unfold LeavesRoom at room
    omega
  · apply orderly.within_of_le
    unfold SendRequest.waitingIn SendRequest.underwayIn SendRequest.concerns SendRequest.passed
    rw [stage]
    simp only [Bool.and_eq_true, decide_eq_true_eq]
    rintro ⟨⟨⟨same, later⟩, here⟩, absent⟩
    refine ⟨⟨⟨same, ?_⟩, here⟩, absent⟩
    have different : limit.position ≠ current.position := by
      intro equal
      have sameLimit : limit = current := by
        cases limit <;> cases current <;> first | rfl | cases equal
      subst sameLimit
      exact counts ⟨rfl, same, here⟩
    omega

theorem perform_count {limit : SendingLimit} (calm : CalmSending settings world (.count index limit)
      (world.perform settings (.count index limit))) :
    OrderlySending settings (world.perform settings (.count index limit)) := by
  dsimp only [perform, withRequest]
  split
  · exact orderly
  · rename_i request found
    split_ifs with stage full
    · have here := orderly.requests request (List.mem_of_getElem? found)
      have absent := here.acceptedAt_eq_none (by simp [stage]) (by simp [stage])
      refine orderly.moved found rfl rfl rfl
        (OrderlyRequest.unaccepted here.began_le here.current_le absent) absent absent ?_
      intro other subject window
      apply orderly.within_of_le
      rw [waitingIn_of_passed rfl]
      nofun
    · have here := orderly.requests request (List.mem_of_getElem? found)
      have absent := here.acceptedAt_eq_none (by simp [stage]) (by simp [stage])
      refine orderly.moved found rfl rfl rfl
        (OrderlyRequest.unaccepted here.began_le here.current_le absent) absent absent ?_
      exact within_count orderly stage (calm request found stage) (by omega)
    · exact orderly

theorem perform_flush {valid : Bool} :
    OrderlySending settings (world.perform settings (.flush index valid)) := by
  dsimp only [perform, withRequest]
  split
  · exact orderly
  · rename_i request found
    split_ifs with stage accepts
    · have here := orderly.requests request (List.mem_of_getElem? found)
      have absent := here.acceptedAt_eq_none (by simp [stage]) (by simp [stage])
      refine orderly.moved found rfl rfl rfl
        (OrderlyRequest.unaccepted here.began_le here.current_le absent) absent absent ?_
      intro limit subject window
      apply orderly.within_of_le
      unfold SendRequest.waitingIn SendRequest.underwayIn SendRequest.concerns SendRequest.passed
      rw [stage]
      exact id
    · have here := orderly.requests request (List.mem_of_getElem? found)
      have absent := here.acceptedAt_eq_none (by simp [stage]) (by simp [stage])
      refine orderly.moved found rfl rfl rfl
        (OrderlyRequest.unaccepted here.began_le here.current_le absent) absent absent ?_
      intro limit subject window
      apply orderly.within_of_le
      rw [waitingIn_of_passed rfl]
      nofun
    · exact orderly

/-- The acceptance of a message moves its request from those that wait to
those that are to be committed. -/
theorem perform_accepted (found : world.requests[index]? = some request)
    (stage : request.stage = .submitting) (minute : SendingLimit.tenantMinute.window request.began =
      SendingLimit.tenantMinute.window world.now) :
    OrderlySending settings (world.save index { request with
        acceptedAt := some world.now, stage := .submitted .queued }) := by
  have here := orderly.requests request (List.mem_of_getElem? found)
  have absent := here.acceptedAt_eq_none (by simp [stage]) (by simp [stage])
  have self : OrderlyRequest world { request with
        acceptedAt := some world.now, stage := .submitted .queued } := by
    refine ⟨here.began_le, here.current_le, ?_⟩
    rintro time ⟨⟩
    exact ⟨minute, here.current_le, .inl rfl⟩
  have before (limit : SendingLimit) (subject : ℕ) (window : ℤ) :
      request.acceptedIn limit subject window = false ∧
        request.pendingIn limit subject window = false ∧ request.waitingIn limit subject window =
            request.underwayIn limit subject window := by
    unfold SendRequest.acceptedIn SendRequest.pendingIn SendRequest.waitingIn
    simp [absent]
  have after (limit : SendingLimit) (subject : ℕ) (window : ℤ) :
      let saved := { request with
        acceptedAt := some world.now, stage := .submitted .queued }
      saved.acceptedIn limit subject window = request.underwayIn limit subject window ∧
        saved.pendingIn limit subject window = request.underwayIn limit subject window ∧
        saved.waitingIn limit subject window = false := by
    have same : limit.window request.current = limit.window world.now := (self.window_eq rfl).2
    unfold SendRequest.acceptedIn SendRequest.pendingIn SendRequest.waitingIn SendRequest.underwayIn
    simp [SendRequest.concerns, same, limit.position_lt, SendRequest.passed, stage]
  refine orderly.replace found rfl rfl (fun _ rowMem => rowMem)
    (self.later le_rfl fun _ rowMem => rowMem) ?_ ?_
  · intro limit subject window
    obtain ⟨notAccepted, notPending, -⟩ := before limit subject window
    obtain ⟨accepted, pending, -⟩ := after limit subject window
    rw [notAccepted, notPending, accepted, pending]
    exact le_rfl
  · intro limit subject window
    have within := orderly.within limit subject window
    obtain ⟨notAccepted, -, waiting⟩ := before limit subject window
    obtain ⟨accepted, -, notWaiting⟩ := after limit subject window
    rw [notAccepted, waiting, accepted, notWaiting]
    simp only [Bool.toNat_false]
    omega

theorem perform_refused (found : world.requests[index]? = some request)
    (stage : request.stage = .submitting) : OrderlySending settings (world.save index
      { request with stage := .submitted .failed }) := by
  have here := orderly.requests request (List.mem_of_getElem? found)
  have absent := here.acceptedAt_eq_none (by simp [stage]) (by simp [stage])
  refine orderly.moved found rfl rfl rfl
    (OrderlyRequest.unaccepted here.began_le here.current_le absent) absent absent ?_
  intro limit subject window
  apply orderly.within_of_le
  unfold SendRequest.waitingIn SendRequest.underwayIn SendRequest.concerns SendRequest.passed
  rw [stage]
  exact id

theorem perform_submit {outcome : SmtpOutcome}
    (calm : CalmSending settings world (.submit index outcome)
      (world.perform settings (.submit index outcome))) :
    OrderlySending settings (world.perform settings (.submit index outcome)) := by
  dsimp only [perform, withRequest]
  split
  · exact orderly
  · rename_i request found
    split
    · rename_i stage
      exact perform_accepted orderly found stage ((calm request found stage).2 rfl)
    · rename_i stage
      exact absurd rfl (calm request found stage).1
    · rename_i stage
      exact perform_refused orderly found stage
    · exact orderly

def commitRow (request : SendRequest) (status : TransactionalStatus) : TransactionalMessage where
  id := request.rowId
  tenantId := request.tenantId
  apiKeyId := request.apiKeyId
  status := status
  createdAt := request.began

def committing (world : SendWorld) (index : ℕ) (request : SendRequest)
    (status : TransactionalStatus) : SendWorld :=
  { world.save index { request with stage := .ended "202" } with
    rows := world.rows ++ [commitRow request status] }

omit orderly in
theorem committed_committing {status : TransactionalStatus} :
    (world.committing index request status).committed limit subject window =
      world.committed limit subject window +
        (decide (limit.subject request.tenantId request.apiKeyId = subject) &&
          decide (limit.window request.began = window) && decide (status ≠ .failed)).toNat := by
  unfold committed counted committing
  dsimp only
  rw [List.countP_append, List.countP_singleton]
  unfold commitRow
  by_cases counts : (limit.subject request.tenantId request.apiKeyId = subject ∧
    limit.window request.began = window) ∧ status ≠ .failed
  · simp [counts]
  · simp only [← Bool.decide_and, decide_eq_false counts, Bool.toNat_false]
    rfl

theorem commit_unaccepted {status : TransactionalStatus}
    (found : world.requests[index]? = some request) (absent : request.acceptedAt = none) :
    OrderlySending settings (world.committing index request status) := by
  have here := orderly.requests request (List.mem_of_getElem? found)
  refine orderly.replace found rfl rfl (fun _ rowMem => List.mem_append_left _ rowMem)
    (OrderlyRequest.unaccepted here.began_le here.current_le absent) ?_ ?_
  · intro limit subject window
    rw [committed_committing]
    unfold SendRequest.acceptedIn SendRequest.pendingIn
    simp [absent]
  · intro limit subject window
    have within := orderly.within limit subject window
    rw [waitingIn_of_passed rfl]
    unfold SendRequest.acceptedIn
    simp only [absent, Option.any_none, Bool.and_false, Bool.toNat_false]
    omega

theorem commit_accepted {time : ℤ} (found : world.requests[index]? = some request)
    (accepted : request.acceptedAt = some time) :
    OrderlySending settings (world.committing index request .queued) := by
  have here := orderly.requests request (List.mem_of_getElem? found)
  refine orderly.replace found rfl rfl (fun _ rowMem => List.mem_append_left _ rowMem) ?_ ?_ ?_
  · refine ⟨here.began_le, here.current_le, fun other same => ?_⟩
    obtain ⟨minute, before, -⟩ := here.accepted other same
    refine ⟨minute, before, .inr ⟨⟨_, rfl⟩, commitRow request .queued, ?_, rfl, nofun⟩⟩
    exact List.mem_append_right _ (List.mem_singleton_self _)
  · intro limit subject window
    have windows : limit.window request.began = limit.window time ∧
        limit.window request.current = limit.window time :=
      here.window_eq accepted
    have same : (({ request with stage := .ended "202" } :
        SendRequest).acceptedIn limit subject window) =
          request.acceptedIn limit subject window := rfl
    rw [committed_committing, same]
    have pending : (request.pendingIn limit subject window).toNat ≤
        (decide (limit.subject request.tenantId request.apiKeyId = subject) &&
          decide (limit.window request.began = window) &&
            decide (TransactionalStatus.queued ≠ .failed)).toNat := by
      cases here : request.pendingIn limit subject window with
      | false => exact Nat.zero_le _
      | true =>
        unfold SendRequest.pendingIn SendRequest.underwayIn SendRequest.concerns at here
        simp only [Bool.and_eq_true, decide_eq_true_eq] at here
        obtain ⟨⟨⟨subjects, -⟩, current⟩, -⟩ := here
        rw [windows.2, ← windows.1] at current
        simp [subjects, current]
    omega
  · intro limit subject window
    have within := orderly.within limit subject window
    have same : (({ request with stage := .ended "202" } :
        SendRequest).acceptedIn limit subject window) =
          request.acceptedIn limit subject window := rfl
    rw [waitingIn_of_passed rfl, same]
    simp only [Bool.toNat_false]
    omega

theorem perform_commit : OrderlySending settings (world.perform settings (.commit index)) := by
  dsimp only [perform, withRequest]
  split
  · exact orderly
  · rename_i request found
    split
    · rename_i status stage
      have here := orderly.requests request (List.mem_of_getElem? found)
      cases accepted : request.acceptedAt with
      | none =>
        have committed : OrderlySending settings (world.committing index request status) :=
          commit_unaccepted orderly found accepted
        unfold committing commitRow at committed
        rw [accepted] at committed
        exact committed
      | some time =>
        obtain ⟨-, -, queued | ⟨⟨detail, ended⟩, -⟩⟩ := here.accepted time accepted
        · rw [stage] at queued
          cases queued
          have committed : OrderlySending settings (world.committing index request .queued) :=
            commit_accepted orderly found accepted
          unfold committing commitRow at committed
          rw [accepted] at committed
          exact committed
        · rw [stage] at ended
          cases ended
    · exact orderly

theorem perform_crash (calm : CalmSending settings world (.crash index)
      (world.perform settings (.crash index))) :
    OrderlySending settings (world.perform settings (.crash index)) := by
  dsimp only [perform, withRequest]
  split
  · exact orderly
  · rename_i request found
    split
    · exact orderly
    · rename_i ended
      have here := orderly.requests request (List.mem_of_getElem? found)
      have absent : request.acceptedAt = none := by
        by_cases queued : request.stage = .submitted .queued
        · exact calm request found queued
        · exact here.acceptedAt_eq_none queued ended
      refine orderly.moved found rfl rfl rfl
        (OrderlyRequest.unaccepted here.began_le here.current_le absent) absent absent ?_
      intro limit subject window
      apply orderly.within_of_le
      rw [waitingIn_of_passed rfl]
      nofun

end Perform

instance LeavesRoom.decidable (settings : TransactionalSettings)
    (world : SendWorld) (request : SendRequest) (limit : SendingLimit) :
    Decidable (world.LeavesRoom settings request limit) :=
  inferInstanceAs (Decidable (_ ∨ _))

instance CalmSending.decidable (settings : TransactionalSettings)
    (before : SendWorld) (action : SendAction) (after : SendWorld) :
    Decidable (before.CalmSending settings action after) := by
  cases action <;> dsimp only [CalmSending] <;> infer_instance

theorem OrderlySending.perform (orderly : OrderlySending settings world) {action : SendAction}
    (calm : CalmSending settings world action (world.perform settings action)) :
    OrderlySending settings (world.perform settings action) := by
  cases action with
  | tick passed => exact perform_tick orderly
  | authenticate tenantId apiKeyId => exact perform_authenticate orderly
  | readClock index => exact perform_readClock orderly
  | count index limit => exact perform_count orderly calm
  | flush index valid => exact perform_flush orderly
  | submit index outcome => exact perform_submit orderly calm
  | commit index => exact perform_commit orderly
  | crash index => exact perform_crash orderly calm

def begin (now : ℤ) (rows : List TransactionalMessage) (nextId : ℕ) : SendWorld where
  now := now
  rows := rows
  nextId := nextId

theorem OrderlySending.begin {now : ℤ} {rows : List TransactionalMessage}
    {nextId : ℕ} : OrderlySending settings (begin now rows nextId) where
  requests _ member := absurd member List.not_mem_nil
  recorded _ _ _ := Nat.zero_le _
  within _ _ _ := Nat.zero_le _

/-- The limits along every run of requests that leave room for each other. -/
theorem limits_kept (settings : TransactionalSettings) (now : ℤ)
    (rows : List TransactionalMessage) (nextId : ℕ) (actions : List SendAction)
    (calm : EveryStep (fun before action after => after = SendWorld.perform settings before action)
      (CalmSending settings) (begin now rows nextId) actions) :
    EveryStep (fun before action after => after = SendWorld.perform settings before action)
      (fun _ _ after => KeepsLimits settings after) (begin now rows nextId) actions := by
  have started : OrderlySending settings (begin now rows nextId) := .begin
  refine EveryStep.of_invariant started ?_ ?_ calm
  · rintro before action after orderly rfl meets
    exact orderly.perform meets
  · rintro before action after orderly rfl meets
    exact (orderly.perform meets).keepsLimits

def oneMessage : TransactionalSettings where
  tenantPerMinuteLimit := 1
  apiKeyPerMinuteLimit := 1
  tenantDailyLimit := 1

def checksOf (index : ℕ) : List SendAction :=
  [.authenticate 1 1, .readClock index, .count index .tenantMinute,
    .count index .keyMinute, .count index .tenantDay, .flush index true]

def oneAfterTheOther : List SendAction :=
  checksOf 0 ++ [.submit 0 .accepted, .commit 0] ++ checksOf 1

theorem oneAfterTheOther_kept : EveryStep (fun before action after =>
        after = SendWorld.perform oneMessage before action)
      (fun _ _ after => KeepsLimits oneMessage after)
      (begin 0 [] 0) oneAfterTheOther :=
  limits_kept oneMessage 0 [] 0 oneAfterTheOther (EveryStep.of_stepByStep (by decide +kernel))

def bothAtOnce : List SendAction :=
  checksOf 0 ++ checksOf 1 ++ [.submit 0 .accepted, .submit 1 .accepted]

theorem bothAtOnce_exceeds : ¬ ∀ (settings : TransactionalSettings) (now : ℤ)
        (rows : List TransactionalMessage) (nextId : ℕ) (actions : List SendAction),
        EveryStep (fun before action after => after = SendWorld.perform settings before action)
          (fun _ _ after => KeepsLimits settings after) (begin now rows nextId) actions := by
  intro always
  have kept := always oneMessage 0 [] 0 bothAtOnce bothAtOnce.dropLast
    (.submit 1 .accepted) [] _ _ rfl (Run.of_foldl _ _ _) rfl
  have exceeded := kept.limits .tenantMinute 1 0
  revert exceeded
  decide +kernel

end SendWorld

end Ithute
