import Ithute.PushCalls

/-!
# Steps of the push service

Every step adds at most one call to those under way, and says what that call
has read.  Only commits change the tables.
-/

namespace Ithute.Push

namespace PushCall

def commits : PushCall → Bool
  | .eventLoaded _ _ | .deviceReady _ _ _ | .messageSelected _ _ => true
  | .workerPass pass => pass.sending.isNone && pass.remaining.isEmpty
  | _ => false

theorem commits_workerPass {pass : WorkerPass}
    (commits : PushCall.commits (.workerPass pass) = true) :
    pass.sending = none ∧ pass.remaining = [] := by
  unfold PushCall.commits at commits
  rw [Bool.and_eq_true, Option.isNone_iff_eq_none, List.isEmpty_iff] at commits
  exact commits

end PushCall

namespace PushState

def PassStarts (state : PushState) (pass : WorkerPass) : Prop :=
  (pass.endpoints = [] ∧ pass.sending = none) ∨ ∃ earlier, .workerPass earlier ∈ state.calls ∧
      (∀ row ∈ pass.endpoints, row ∈ earlier.endpoints ∨ row ∈ state.endpoints) ∧
      ∀ item ∈ pass.sending, ∃ row ∈ pass.endpoints, row.id = item.endpointId ∧ row.active = true

def Starts (state : PushState) : PushCall → Prop
  | .eventReceived event subject => event.subject? = some subject
  | .eventRead read =>
    ∃ event subject, .eventReceived event subject ∈ state.calls ∧
      read = state.readSubject event subject
  | .eventLoaded read endpoints =>
    .eventRead read ∈ state.calls ∧ endpoints = state.loadEndpoints read
  | .deviceAccount registration => disabled (state.userStates registration.principal.sub) = false
  | .deviceApplication registration => .deviceAccount registration ∈ state.calls
  | .deviceLive registration =>
    .deviceApplication registration ∈ state.calls ∧
      state.revokedSessions registration.principal.sessionId = none
  | .deviceFound registration endpoint =>
    .deviceLive registration ∈ state.calls ∧ endpoint = state.findDevice registration
  | .deviceReady registration endpoint _ => .deviceFound registration endpoint ∈ state.calls
  | .messageReceived _ => True
  | .messageChecked _ _ => True
  | .messageSelected queued endpoints =>
    ∃ userDisabled, endpoints = state.selectEndpoints queued userDisabled
  | .workerPass pass => state.PassStarts pass

def advanced? (state : PushState) : PushAction → Option PushCall
  | .advance index _ => state.calls[index]?
  | _ => none

section Calls

variable (services : PushServices) (settings : PushSettings) (state : PushState) {call : PushCall}

theorem mem_resume_calls {result : PushState × PushOutcome}
    (member : call ∈ (resume result).1.calls) :
    call ∈ result.1.calls ∨ result.2 = .continues call := by
  unfold resume at member
  split at member
  · exact .inl member
  · rename_i other continues
    rcases List.mem_append.mp member with old | new
    · exact .inl old
    · rw [List.mem_singleton.mp new]
      exact .inr continues

theorem advance_rest (input : StepInput) (rest : call.commits = false) :
    (state.advance services settings input call).1 = state := by
  cases call with
  | eventLoaded read endpoints => cases rest
  | deviceReady registration endpoint duplicates => cases rest
  | messageSelected queued endpoints => cases rest
  | deviceAccount registration =>
    unfold advance checkApplication
    dsimp only
    split <;> rfl
  | deviceApplication registration =>
    unfold advance checkSession
    dsimp only
    split <;> rfl
  | workerPass pass =>
    unfold advance advancePass
    dsimp only
    split
    · unfold answerDelivery
      dsimp only
      split <;> rfl
    · unfold takeDelivery
      dsimp only
      repeat' split
      all_goals rfl
    · rename_i settled taken
      unfold PushCall.commits at rest
      dsimp only at rest
      rw [settled, taken] at rest
      cases rest
  | _ => rfl

theorem commitDevice_calls (registration : Registration)
    (endpoint : Option PushEndpoint) (duplicates : List PushEndpoint) (newId : ℕ) :
    (state.commitDevice services registration endpoint duplicates newId).1.calls = state.calls := by
  unfold commitDevice
  cases endpoint with
  | none =>
    dsimp only
    split <;> rfl
  | some loaded => rfl

theorem advance_calls (input : StepInput) (call : PushCall) :
    (state.advance services settings input call).1.calls = state.calls := by
  cases commits : call.commits with
  | false => rw [advance_rest services settings state input commits]
  | true =>
    cases call with
    | eventLoaded read endpoints =>
      unfold advance commitLifecycle
      dsimp only
      split
      · rfl
      · cases read.subject <;> rfl
    | deviceReady registration endpoint duplicates =>
      exact commitDevice_calls services state registration endpoint duplicates input.newId
    | messageSelected queued endpoints =>
      unfold advance commitMessage
      dsimp only
      repeat' split
      all_goals rfl
    | workerPass pass =>
      obtain ⟨settled, taken⟩ := PushCall.commits_workerPass commits
      unfold advance advancePass
      dsimp only
      rw [settled, taken]
      rfl
    | _ => cases commits

variable {pass : WorkerPass}

theorem loadEndpoint_spec {endpointId : ℕ} {row : PushEndpoint}
    (found : state.loadEndpoint pass endpointId = some row) :
    row.id = endpointId ∧ (row ∈ pass.endpoints ∨ row ∈ state.endpoints) := by
  unfold loadEndpoint at found
  split at found
  · rename_i known cached
    cases found
    exact ⟨by simpa using List.find?_some cached, .inl (List.mem_of_find?_eq_some cached)⟩
  · exact ⟨by simpa using List.find?_some found, .inr (List.mem_of_find?_eq_some found)⟩

theorem passStarts_take {item : Delivery}
    {rest : List Delivery} {next : PushCall} {index : ℕ} (member : .workerPass pass ∈ state.calls)
    (continues : ((state.dropCall index).takeDelivery pass item rest).2 =
      .continues next) : state.Starts next := by
  unfold takeDelivery at continues
  dsimp only at continues
  split at continues
  · rename_i message endpoint foundMessage found
    obtain ⟨same, loaded⟩ := loadEndpoint_spec _ found
    -- the rows that the pass knows now
    have known (row : PushEndpoint)
        (rowMem : row ∈ if endpoint ∈ pass.endpoints then pass.endpoints
          else pass.endpoints ++ [endpoint]) : row ∈ pass.endpoints ∨ row ∈ state.endpoints := by
      split at rowMem
      · exact .inl rowMem
      · rcases List.mem_append.mp rowMem with old | new
        · exact .inl old
        · rw [List.mem_singleton.mp new]
          exact loaded
    split at continues
    · cases continues
      refine .inr ⟨pass, member, known, ?_⟩
      intro sent none
      cases none
    · split at continues
      · cases continues
        refine .inr ⟨pass, member, known, ?_⟩
        intro sent none
        cases none
      · rename_i usable
        cases continues
        refine .inr ⟨pass, member, known, ?_⟩
        intro sent sending
        cases sending
        refine ⟨endpoint, ?_, same, ?_⟩
        · dsimp only
          split
          · assumption
          · exact List.mem_append_right _ (List.mem_singleton_self _)
        · simp only [not_or, Bool.not_eq_false] at usable
          exact usable.1
  · cases continues

theorem passStarts_answer {item : Delivery}
    {outcome : ProviderOutcome} {next : PushCall} {index : ℕ}
    (member : .workerPass pass ∈ state.calls)
    (continues : ((state.dropCall index).answerDelivery settings pass item
      outcome).2 = .continues next) : state.Starts next := by
  unfold answerDelivery at continues
  dsimp only at continues
  split at continues
  all_goals
    cases continues
    refine .inr ⟨pass, member, fun row rowMem => .inl rowMem, ?_⟩
    intro sent none
    cases none

theorem advance_starts {index : ℕ} {input : StepInput}
    {call next : PushCall} (member : call ∈ state.calls)
    (continues : ((state.dropCall index).advance services settings input
      call).2 = .continues next) : state.Starts next := by
  cases call with
  | eventReceived event subject =>
    cases continues
    exact ⟨event, subject, member, rfl⟩
  | eventRead read =>
    cases continues
    exact ⟨member, rfl⟩
  | eventLoaded read endpoints =>
    unfold advance commitLifecycle at continues
    dsimp only at continues
    split at continues <;> cases continues
  | deviceAccount registration =>
    unfold advance checkApplication at continues
    dsimp only at continues
    split at continues <;> cases continues
    exact member
  | deviceApplication registration =>
    unfold advance checkSession at continues
    dsimp only at continues
    split at continues
    · cases continues
    · rename_i live
      cases continues
      exact ⟨member, Option.not_isSome_iff_eq_none.mp live⟩
  | deviceLive registration =>
    cases continues
    exact ⟨member, rfl⟩
  | deviceFound registration endpoint =>
    cases continues
    exact member
  | deviceReady registration endpoint duplicates =>
    unfold advance commitDevice at continues
    cases endpoint with
    | none =>
      dsimp only at continues
      split at continues <;> cases continues
    | some loaded =>
      dsimp only at continues
      split at continues <;> cases continues
  | messageReceived queued =>
    cases continues
    trivial
  | messageChecked queued userDisabled =>
    cases continues
    exact ⟨userDisabled, rfl⟩
  | messageSelected queued endpoints =>
    unfold advance commitMessage existingResponse at continues
    dsimp only at continues
    repeat' split at continues
    all_goals cases continues
  | workerPass pass =>
    unfold advance advancePass at continues
    dsimp only at continues
    split at continues
    · exact passStarts_answer settings state member continues
    · exact passStarts_take state member continues
    · cases continues

theorem perform_calls (action : PushAction) :
    ∀ call ∈ (state.perform services settings action).1.calls,
      call ∈ state.calls ∨ state.Starts call := by
  intro call member
  cases action with
  | wait elapsed => exact .inl member
  | applyAuthEvent event =>
    unfold perform applyAuthEvent at member
    dsimp only at member
    split at member
    · exact .inl member
    · split at member
      · exact .inl member
      · rename_i subject known
        rcases List.mem_append.mp member with old | new
        · exact .inl old
        · rw [List.mem_singleton.mp new]
          exact .inr known
  | registerDevice registration =>
    unfold perform registerDevice at member
    dsimp only at member
    split at member
    · exact .inl member
    · rename_i enabled
      rcases List.mem_append.mp member with old | new
      · exact .inl old
      · rw [List.mem_singleton.mp new]
        exact .inr (Bool.eq_false_of_not_eq_true enabled)
  | queueMessage request header =>
    rcases mem_resume_calls member with old | continues
    · refine .inl ?_
      unfold receiveMessage at old
      dsimp only at old
      repeat' split at old
      all_goals exact old
    · refine .inr ?_
      unfold receiveMessage existingResponse at continues
      dsimp only at continues
      repeat' split at continues
      all_goals cases continues
      all_goals trivial
  | runOnce rank =>
    rcases mem_resume_calls member with old | continues
    · refine .inl ?_
      unfold runOnce at old
      split at old <;> exact old
    · refine .inr ?_
      unfold runOnce at continues
      split at continues <;> cases continues
      exact .inl ⟨rfl, rfl⟩
  | advance index input =>
    unfold perform at member
    dsimp only at member
    split at member
    · rename_i advanced found
      rcases mem_resume_calls member with old | continues
      · rw [advance_calls] at old
        exact .inl (List.mem_of_mem_eraseIdx old)
      · exact .inr (advance_starts services settings state (List.mem_of_getElem? found) continues)
    · exact .inl member
  | crash index => exact .inl (List.mem_of_mem_eraseIdx member)

theorem perform_rest {action : PushAction}
    (rest : ∀ call ∈ state.advanced? action, call.commits = false) :
    ∃ clock calls, (state.perform services settings action).1 =
      { state with clock := clock, calls := calls } := by
  have resumes {before : PushState} {result : PushState × PushOutcome}
      (same : result.1 = before) : ∃ clock calls, (resume result).1 =
        { before with clock := clock, calls := calls } := by
    unfold resume
    rw [same]
    split
    · exact ⟨_, _, rfl⟩
    · exact ⟨_, _, rfl⟩
  cases action with
  | wait elapsed => exact ⟨_, _, rfl⟩
  | applyAuthEvent event =>
    apply resumes
    unfold applyAuthEvent
    repeat' split
    all_goals rfl
  | registerDevice registration =>
    apply resumes
    unfold registerDevice
    split <;> rfl
  | queueMessage request header =>
    apply resumes
    unfold receiveMessage
    dsimp only
    repeat' split
    all_goals rfl
  | runOnce rank =>
    apply resumes
    unfold runOnce
    split <;> rfl
  | crash index => exact ⟨_, _, rfl⟩
  | advance index input =>
    unfold perform
    dsimp only
    cases found : state.calls[index]? with
    | none => exact ⟨_, _, rfl⟩
    | some call =>
      dsimp only
      obtain ⟨clock, calls, same⟩ := resumes
        (advance_rest services settings (state.dropCall index) input (rest call found))
      exact ⟨clock, calls, same⟩

theorem perform_commit {action : PushAction}
    (advanced : state.advanced? action = some call) : ∃ index input, action = .advance index input ∧
      state.calls[index]? = some call ∧ (state.perform services settings action).1 =
        (resume ((state.dropCall index).advance services settings input call)).1 := by
  cases action with
  | advance index input =>
    refine ⟨index, input, rfl, advanced, ?_⟩
    unfold perform
    dsimp only [advanced?] at advanced ⊢
    rw [advanced]
  | _ => cases advanced

end Calls

structure SameLifecycle (before after : PushState) : Prop where
  events : after.lifecycleEvents = before.lifecycleEvents
  sessions : after.revokedSessions = before.revokedSessions
  accounts : after.userStates = before.userStates
  applications : after.applicationStates = before.applicationStates

structure Committed (before : PushState) (read : LifecycleRead)
    (endpoints : List PushEndpoint) (after : PushState) : Prop where
  events : after.lifecycleEvents = before.lifecycleEvents ++ [read.event]
  sessions : after.revokedSessions = match read.subject with
    | .session sub sid clientId =>
      Function.update before.revokedSessions sid
        (read.writeRevoked sub clientId (before.revokedSessions sid))
    | _ => before.revokedSessions
  accounts : after.userStates = match read.subject with
    | .account sub active =>
      Function.update before.userStates sub (read.writeStatus active (before.userStates sub))
    | _ => before.userStates
  applications : after.applicationStates = match read.subject with
    | .application clientId active =>
      Function.update before.applicationStates clientId
        (read.writeStatus active (before.applicationStates clientId))
    | _ => before.applicationStates
  endpoints : after.endpoints = deactivate endpoints before.endpoints
  calls : ∀ call ∈ after.calls, call ∈ before.calls

section Lifecycle

variable (services : PushServices) (settings : PushSettings) (state : PushState)

theorem resume_sameLifecycle {before : PushState} {result : PushState × PushOutcome}
    (same : before.SameLifecycle result.1) : before.SameLifecycle (resume result).1 := by
  unfold resume
  split
  · exact same
  · exact ⟨same.events, same.sessions, same.accounts, same.applications⟩

theorem commitDevice_sameLifecycle (registration : Registration)
    (endpoint : Option PushEndpoint) (duplicates : List PushEndpoint) (newId : ℕ) :
    state.SameLifecycle (state.commitDevice services registration endpoint duplicates newId).1 := by
  unfold commitDevice
  cases endpoint with
  | none =>
    dsimp only
    split <;> exact ⟨rfl, rfl, rfl, rfl⟩
  | some loaded => exact ⟨rfl, rfl, rfl, rfl⟩

theorem commitMessage_sameLifecycle (queued : QueueRequest)
    (endpoints : List PushEndpoint) (newId : ℕ) (deliveryIds : ℕ → ℕ) :
    state.SameLifecycle (state.commitMessage services queued endpoints newId deliveryIds).1 := by
  unfold commitMessage
  dsimp only
  repeat' split
  all_goals exact ⟨rfl, rfl, rfl, rfl⟩

theorem commitLifecycle_clash {read : LifecycleRead} {endpoints : List PushEndpoint}
    (clash : state.lifecycleClash read = true) :
    (state.commitLifecycle read endpoints).1 = state := by
  unfold commitLifecycle
  rw [if_pos clash]
  rfl

theorem commitLifecycle_committed {read : LifecycleRead} {endpoints : List PushEndpoint}
    (free : state.lifecycleClash read = false) : state.Committed read endpoints
      (resume (state.commitLifecycle read endpoints)).1 := by
  unfold commitLifecycle
  rw [if_neg (by simp [free])]
  constructor
  case calls =>
    intro call member
    rcases mem_resume_calls member with old | continues
    · cases subject : read.subject <;> rw [subject] at old <;> exact old
    · cases continues
  all_goals
    unfold resume
    dsimp only
    cases read.subject <;> rfl

theorem SameLifecycle.of_dropCall {index : ℕ} {after : PushState}
    (same : (state.dropCall index).SameLifecycle after) : state.SameLifecycle after :=
  ⟨same.events, same.sessions, same.accounts, same.applications⟩

theorem perform_lifecycle (action : PushAction) :
    (∃ index input read endpoints, action = .advance index input ∧
      state.calls[index]? = some (.eventLoaded read endpoints) ∧ state.lifecycleClash read = false ∧
      state.Committed read endpoints (state.perform services settings action).1) ∨
    state.SameLifecycle (state.perform services settings action).1 := by
  by_cases rest : ∀ call ∈ state.advanced? action, call.commits = false
  · obtain ⟨clock, calls, same⟩ := perform_rest services settings state rest
    rw [same]
    exact .inr ⟨rfl, rfl, rfl, rfl⟩
  · simp only [not_forall, Bool.not_eq_false] at rest
    obtain ⟨call, advanced, commits⟩ := rest
    obtain ⟨index, input, isAdvance, found, same⟩ := perform_commit services settings state advanced
    rw [same]
    cases call with
    | eventLoaded read endpoints =>
      by_cases clash : state.lifecycleClash read = true
      · have kept : (state.dropCall index).lifecycleClash read = true := clash
        refine .inr (resume_sameLifecycle ?_)
        unfold advance
        dsimp only
        rw [commitLifecycle_clash _ kept]
        exact ⟨rfl, rfl, rfl, rfl⟩
      · have free : (state.dropCall index).lifecycleClash read = false :=
          Bool.eq_false_of_not_eq_true clash
        have committed : (state.dropCall index).Committed read endpoints
            (resume ((state.dropCall index).commitLifecycle read endpoints)).1 :=
          commitLifecycle_committed (state.dropCall index) free
        refine .inl ⟨index, input, read, endpoints, isAdvance, found, free, ?_⟩
        obtain ⟨events, sessions, accounts, applications, rows, calls⟩ := committed
        exact ⟨events, sessions, accounts, applications, rows, fun call member =>
            List.mem_of_mem_eraseIdx (calls call member)⟩
    | deviceReady registration endpoint duplicates =>
      refine .inr (resume_sameLifecycle ?_)
      exact (commitDevice_sameLifecycle services (state.dropCall index)
        registration endpoint duplicates input.newId).of_dropCall
    | messageSelected queued endpoints =>
      refine .inr (resume_sameLifecycle ?_)
      exact (commitMessage_sameLifecycle services (state.dropCall index)
        queued endpoints input.newId input.deliveryIds).of_dropCall
    | workerPass pass =>
      obtain ⟨settled, taken⟩ := PushCall.commits_workerPass commits
      refine .inr (resume_sameLifecycle ?_)
      unfold advance advancePass
      dsimp only
      rw [settled, taken]
      exact ⟨rfl, rfl, rfl, rfl⟩
    | _ => cases commits

end Lifecycle

/-- The row keeps its owner and its session and is not activated. -/
structure Weakened (old row : PushEndpoint) : Prop where
  id : row.id = old.id
  user : row.authUserId = old.authUserId
  session : row.authSessionId = old.authSessionId
  active : row.active = true → old.active = true

theorem Weakened.refl (row : PushEndpoint) : Weakened row row :=
  ⟨rfl, rfl, rfl, fun active => active⟩

def RowStep (services : PushServices) (now : ℕ) (call : Option PushCall)
    (old row : PushEndpoint) : Prop :=
  Weakened old row ∨ ∃ registration loaded duplicates kept,
    call = some (.deviceReady registration (some loaded) duplicates) ∧
      old.id = loaded.id ∧ Weakened old kept ∧ row = registration.update services now loaded kept

def EndpointsStep (services : PushServices) (before : PushState)
    (call : Option PushCall) (rows : List PushEndpoint) : Prop :=
  ∃ change inserted, rows = before.endpoints.map change ++ inserted ∧
    (∀ row, RowStep services before.clock call row (change row)) ∧
    (inserted = [] ∨ ∃ registration duplicates newId,
      call = some (.deviceReady registration none duplicates) ∧
        inserted = [registration.row services newId before.clock] ∧
        ∀ stored ∈ before.endpoints, stored.id ≠ newId)

section Endpoints

variable (services : PushServices) (settings : PushSettings) (state : PushState)

variable (call : Option PushCall)

theorem endpointsStep_same : EndpointsStep services state call state.endpoints :=
  ⟨id, [], by simp, fun row => .inl (Weakened.refl row), .inl rfl⟩

theorem deactivate_weakens (loaded rows : List PushEndpoint) :
    ∃ change, deactivate loaded rows = rows.map change ∧ ∀ row, Weakened row (change row) := by
  refine ⟨_, rfl, ?_⟩
  intro row
  split
  · exact ⟨rfl, rfl, rfl, fun none => nomatch none⟩
  · exact Weakened.refl row

theorem endpointsStep_deactivate (loaded : List PushEndpoint) :
    EndpointsStep services state call (deactivate loaded state.endpoints) := by
  obtain ⟨change, same, weakened⟩ := deactivate_weakens loaded state.endpoints
  refine ⟨change, [], ?_, fun row => .inl (weakened row), .inl rfl⟩
  rw [same, List.append_nil]

theorem commitDevice_endpoints (registration : Registration)
    (endpoint : Option PushEndpoint) (duplicates : List PushEndpoint) (newId : ℕ) :
    EndpointsStep services state (some (.deviceReady registration endpoint duplicates))
      (state.commitDevice services registration endpoint duplicates newId).1.endpoints := by
  unfold commitDevice
  cases endpoint with
  | none =>
    dsimp only
    split
    · exact endpointsStep_same services state _
    · rename_i fresh
      obtain ⟨change, same, weakened⟩ := deactivate_weakens duplicates state.endpoints
      refine ⟨change, [registration.row services newId state.clock], ?_,
        fun row => .inl (weakened row), .inr ⟨registration, duplicates, newId, rfl, rfl, ?_⟩⟩
      · dsimp only
        rw [same]
      · intro stored member sameId
        exact fresh ⟨stored, member, .inl sameId⟩
  | some loaded =>
    dsimp only
    obtain ⟨change, same, weakened⟩ := deactivate_weakens
      (duplicates.filter fun row => decide (row.id ≠ loaded.id)) state.endpoints
    refine ⟨fun row => if (change row).id = loaded.id then
      registration.update services state.clock loaded (change row)
      else change row, [], ?_, ?_, .inl rfl⟩
    · rw [same, List.map_map, List.append_nil]
      rfl
    · intro row
      dsimp only
      split
      · rename_i sameId
        refine .inr ⟨registration, loaded, duplicates, change row, rfl, ?_, weakened row, rfl⟩
        rw [← (weakened row).id, sameId]
      · exact .inl (weakened row)

theorem resume_endpoints (result : PushState × PushOutcome) :
    (resume result).1.endpoints = result.1.endpoints := by
  unfold resume
  split <;> rfl

theorem perform_endpoints (action : PushAction) :
    EndpointsStep services state (state.advanced? action)
      (state.perform services settings action).1.endpoints := by
  by_cases rest : ∀ call ∈ state.advanced? action, call.commits = false
  · obtain ⟨clock, calls, same⟩ := perform_rest services settings state rest
    rw [same]
    exact endpointsStep_same services state _
  · simp only [not_forall, Bool.not_eq_false] at rest
    obtain ⟨call, advanced, commits⟩ := rest
    obtain ⟨index, input, -, -, same⟩ := perform_commit services settings state advanced
    rw [same, resume_endpoints, advanced]
    cases call with
    | eventLoaded read endpoints =>
      unfold advance commitLifecycle
      dsimp only
      split
      · exact endpointsStep_same services state _
      · cases read.subject <;>
          exact endpointsStep_deactivate services state _ endpoints
    | deviceReady registration endpoint duplicates =>
      exact commitDevice_endpoints services (state.dropCall index)
        registration endpoint duplicates input.newId
    | messageSelected queued endpoints =>
      unfold advance commitMessage
      dsimp only
      repeat' split
      all_goals exact endpointsStep_same services state _
    | workerPass pass =>
      obtain ⟨settled, taken⟩ := PushCall.commits_workerPass commits
      unfold advance advancePass
      dsimp only
      rw [settled, taken]
      exact endpointsStep_deactivate services state _ _
    | _ => cases commits

def DeliveriesStep (before : PushState) (call : Option PushCall) (rows : List Delivery) : Prop :=
  ∀ row ∈ rows, (∃ old ∈ before.deliveries, old.id = row.id) ∨
    ∃ queued endpoints, call = some (.messageSelected queued endpoints) ∧
      ∃ endpoint ∈ endpoints, endpoint.id = row.endpointId

theorem deliveriesStep_same : state.DeliveriesStep call state.deliveries :=
  fun row member => .inl ⟨row, member, rfl⟩

theorem view_id (pass : WorkerPass) (row : Delivery) : (pass.view row).id = row.id := by
  unfold WorkerPass.view
  cases found : pass.rows.find? fun changed =>
      decide (changed.id = row.id) with
  | none => rfl
  | some changed => simpa using List.find?_some found

theorem commitMessage_deliveries (queued : QueueRequest)
    (endpoints : List PushEndpoint) (newId : ℕ) (deliveryIds : ℕ → ℕ) :
    state.DeliveriesStep (some (.messageSelected queued endpoints))
      (state.commitMessage services queued endpoints newId deliveryIds).1.deliveries := by
  unfold commitMessage
  dsimp only
  split
  · repeat' split
    all_goals exact deliveriesStep_same state _
  · split
    · intro row member
      rcases List.mem_append.mp member with old | new
      · exact .inl ⟨row, old, rfl⟩
      · refine .inr ⟨queued, endpoints, rfl, ?_⟩
        unfold newDeliveries at new
        obtain ⟨entry, entryMem, made⟩ := List.mem_map.mp new
        rw [← made]
        exact ⟨entry.1, List.fst_mem_of_mem_zipIdx entryMem, rfl⟩
    · exact deliveriesStep_same state _

theorem resume_deliveries (result : PushState × PushOutcome) :
    (resume result).1.deliveries = result.1.deliveries := by
  unfold resume
  split <;> rfl

theorem perform_deliveries (action : PushAction) : state.DeliveriesStep (state.advanced? action)
      (state.perform services settings action).1.deliveries := by
  by_cases rest : ∀ call ∈ state.advanced? action, call.commits = false
  · obtain ⟨clock, calls, same⟩ := perform_rest services settings state rest
    rw [same]
    exact deliveriesStep_same state _
  · simp only [not_forall, Bool.not_eq_false] at rest
    obtain ⟨call, advanced, commits⟩ := rest
    obtain ⟨index, input, -, -, same⟩ := perform_commit services settings state advanced
    rw [same, resume_deliveries, advanced]
    cases call with
    | eventLoaded read endpoints =>
      unfold advance commitLifecycle
      dsimp only
      split
      · exact deliveriesStep_same state _
      · cases read.subject <;> exact deliveriesStep_same state _
    | deviceReady registration endpoint duplicates =>
      unfold advance commitDevice
      cases endpoint with
      | none =>
        dsimp only
        split <;> exact deliveriesStep_same state _
      | some loaded => exact deliveriesStep_same state _
    | messageSelected queued endpoints =>
      exact commitMessage_deliveries services (state.dropCall index)
        queued endpoints input.newId input.deliveryIds
    | workerPass pass =>
      obtain ⟨settled, taken⟩ := PushCall.commits_workerPass commits
      unfold advance advancePass
      dsimp only
      rw [settled, taken]
      intro row member
      obtain ⟨old, oldMem, viewed⟩ := List.mem_map.mp member
      refine .inl ⟨old, oldMem, ?_⟩
      rw [← viewed, view_id]
    | _ => cases commits

end Endpoints

end PushState

end Ithute.Push
