import Ithute.Library.LatestEvent
import Ithute.Library.TransitionRuns
import Ithute.PushSteps

/-!
# Order of lifecycle events

An account or application event that is applied reads the row of its subject,
compares times and writes the columns that change.  The row then tells the
latest event, unless another call has changed it between the read and the
commit.
-/

namespace Ithute.Push

open LatestEvent TransitionRuns

namespace AuthLifecycleEventRequest

variable (event : AuthLifecycleEventRequest)

def enables : Bool := decide (event.type = .accountEnabled ∨ event.type = .applicationEnabled)

def AboutAccount (sub : ℕ) : Prop := ∃ active, event.subject? = some (.account sub active)

def AboutApplication (clientId : String) : Prop :=
  ∃ active, event.subject? = some (.application clientId active)

def Revokes (sid : ℕ) : Prop := ∃ sub clientId, event.subject? = some (.session sub sid clientId)

variable {event}

theorem enables_of_account {sub : ℕ} {active : Bool}
    (subject : event.subject? = some (.account sub active)) : event.enables = active := by
  unfold subject? at subject
  unfold enables
  cases kind : event.type <;> rw [kind] at subject <;> dsimp only at subject
  · split at subject <;> cases subject
  all_goals
    obtain ⟨value, -, same⟩ := Option.map_eq_some_iff.mp subject
    cases same
  all_goals decide

theorem enables_of_application {clientId : String} {active : Bool}
    (subject : event.subject? = some (.application clientId active)) : event.enables = active := by
  unfold subject? at subject
  unfold enables
  cases kind : event.type <;> rw [kind] at subject <;> dsimp only at subject
  · split at subject <;> cases subject
  all_goals
    obtain ⟨value, -, same⟩ := Option.map_eq_some_iff.mp subject
    cases same
  all_goals decide

end AuthLifecycleEventRequest

/-- The subject of every account and application has events at distinct
times. -/
def DistinctTimes (events : List AuthLifecycleEventRequest) : Prop :=
  (∀ sub, LatestEvent.DistinctTimes (AuthLifecycleEventRequest.AboutAccount · sub)
      AuthLifecycleEventRequest.occurredAt events) ∧
    ∀ clientId, LatestEvent.DistinctTimes (AuthLifecycleEventRequest.AboutApplication · clientId)
      AuthLifecycleEventRequest.occurredAt events

namespace PushState

/-- The tables after the events have been applied: the latest event of each
account and application decides, and each revoked session stays revoked. -/
structure Resulting (events : List AuthLifecycleEventRequest) (state : PushState) : Prop where
  noAccount : ∀ sub, (∀ event ∈ events, ¬ event.AboutAccount sub) → state.userStates sub = none
  account : ∀ sub, ∀ event ∈ events, event.AboutAccount sub →
    (∀ other ∈ events, other.AboutAccount sub → other.occurredAt ≤ event.occurredAt) →
    (state.userStates sub).map StatusRow.active = some event.enables
  noApplication : ∀ clientId, (∀ event ∈ events, ¬ event.AboutApplication clientId) →
    state.applicationStates clientId = none
  application : ∀ clientId, ∀ event ∈ events, event.AboutApplication clientId →
    (∀ other ∈ events, other.AboutApplication clientId → other.occurredAt ≤ event.occurredAt) →
    (state.applicationStates clientId).map StatusRow.active = some event.enables
  session : ∀ sid, (state.revokedSessions sid).isSome = true ↔ ∃ event ∈ events, event.Revokes sid

structure SameResult (first second : PushState) : Prop where
  account : ∀ sub, (first.userStates sub).map StatusRow.active =
    (second.userStates sub).map StatusRow.active
  application : ∀ clientId, (first.applicationStates clientId).map StatusRow.active =
      (second.applicationStates clientId).map StatusRow.active
  session : ∀ sid, (first.revokedSessions sid).isSome = (second.revokedSessions sid).isSome

end PushState

/-- The commit writes over a row that is not newer than its event, and over
a flag that it either writes or has found as it is stored. -/
def LifecycleRead.Current (read : LifecycleRead) (active : Bool)
    (stored : Option StatusRow) : Prop :=
  ∀ loaded ∈ read.status, loaded.changedAt ≤ read.event.occurredAt →
    ∀ row ∈ stored, row.changedAt ≤ read.event.occurredAt ∧
      (loaded.active = active → row.active = active)

/-- The commit of an event that can be inserted finds its row current. -/
def KeepsLatest (before : PushState) (action : PushAction) (_ : PushState) : Prop :=
  match action with
  | .advance index _ =>
    ∀ read endpoints, before.calls[index]? = some (.eventLoaded read endpoints) →
      before.lifecycleClash read = false → match read.subject with
      | .session _ _ _ => True
      | .account sub active => read.Current active (before.userStates sub)
      | .application clientId active => read.Current active (before.applicationStates clientId)
  | _ => True

section StatusRows

variable {κ : Type*} {about : κ → AuthLifecycleEventRequest → Prop} {table : κ → Option StatusRow}
variable {events : List AuthLifecycleEventRequest}

def StatusRow.register (row : StatusRow) : ℕ × Bool := (row.changedAt, row.active)

def TableTells (about : κ → AuthLifecycleEventRequest → Prop)
    (events : List AuthLifecycleEventRequest) (table : κ → Option StatusRow) : Prop :=
  ∀ key, Tells (about key) AuthLifecycleEventRequest.occurredAt
    AuthLifecycleEventRequest.enables events ((table key).map StatusRow.register)

def LifecycleRead.Stored (read : LifecycleRead) (stored : Option StatusRow) : Prop :=
  ∀ loaded ∈ read.status, ∃ row ∈ stored, loaded.changedAt ≤ row.changedAt

variable {read : LifecycleRead} {active : Bool}

theorem writeStatus_current {loaded row : StatusRow} (found : read.status = some loaded)
    (known : loaded.changedAt ≤ row.changedAt) (notOlder : loaded.changedAt ≤ read.event.occurredAt)
    (current : read.Current active (some row)) :
    (read.writeStatus active (some row)).map StatusRow.register =
      some (read.event.occurredAt, active) := by
  obtain ⟨notNewer, flag⟩ := current loaded found notOlder row rfl
  unfold LifecycleRead.writeStatus
  rw [found]
  dsimp only
  rw [if_pos notOlder]
  simp only [Option.map_some, StatusRow.register, changedColumn, Option.some.injEq, Prod.mk.injEq]
  constructor
  · split <;> omega
  · split
    · rename_i same
      exact flag same.symm
    · rfl

theorem writeStatus_older {loaded : StatusRow} (found : read.status = some loaded)
    (older : ¬ loaded.changedAt ≤ read.event.occurredAt) (stored : Option StatusRow) :
    read.writeStatus active stored = stored := by
  unfold LifecycleRead.writeStatus
  rw [found]
  exact if_neg older

theorem tells_writeStatus {concerns : AuthLifecycleEventRequest → Prop} {stored : Option StatusRow}
    (tells : Tells concerns AuthLifecycleEventRequest.occurredAt
      AuthLifecycleEventRequest.enables events (stored.map StatusRow.register))
    (here : concerns read.event) (value : read.event.enables = active)
    (inserts : read.status = none → stored = none) (known : read.Stored stored)
    (current : read.Current active stored) : Tells concerns AuthLifecycleEventRequest.occurredAt
      AuthLifecycleEventRequest.enables (events ++ [read.event])
      ((read.writeStatus active stored).map StatusRow.register) := by
  cases found : read.status with
  | none =>
    have written : (read.writeStatus active stored).map StatusRow.register =
        some (read.event.occurredAt, read.event.enables) := by
      unfold LifecycleRead.writeStatus
      rw [found, value]
      rfl
    rw [inserts found] at tells
    rw [written]
    exact Tells.first tells here
  | some loaded =>
    obtain ⟨row, rowStored, later⟩ := known loaded found
    cases rowStored
    by_cases notOlder : loaded.changedAt ≤ read.event.occurredAt
    · rw [writeStatus_current found later notOlder current, ← value]
      exact tells.newer here (current loaded found notOlder row rfl).1
    · rw [writeStatus_older found notOlder]
      apply tells.older
      change read.event.occurredAt ≤ row.changedAt
      omega

theorem tableTells_skip {event : AuthLifecycleEventRequest} (tells : TableTells about events table)
    (elsewhere : ∀ key, ¬ about key event) : TableTells about (events ++ [event]) table :=
  fun key => (tells key).skip (elsewhere key)

theorem tableTells_update [DecidableEq κ] {event : AuthLifecycleEventRequest}
    {key : κ} {row : Option StatusRow} (tells : TableTells about events table)
    (elsewhere : ∀ other, other ≠ key → ¬ about other event)
    (written : Tells (about key) AuthLifecycleEventRequest.occurredAt
      AuthLifecycleEventRequest.enables (events ++ [event]) (row.map StatusRow.register)) :
    TableTells about (events ++ [event]) (Function.update table key row) := by
  intro other
  by_cases same : other = key
  · rw [same, Function.update_self]
    exact written
  · rw [Function.update_of_ne same]
    exact (tells other).skip (elsewhere other same)

theorem writeStatus_stored {earlier : LifecycleRead}
    {stored : Option StatusRow} (inserts : read.status = none → stored = none)
    (current : read.Current active stored) (known : earlier.Stored stored) :
    earlier.Stored (read.writeStatus active stored) := by
  intro loaded found
  obtain ⟨row, rowStored, later⟩ := known loaded found
  cases rowStored
  cases status : read.status with
  | none => cases inserts status
  | some seen =>
    by_cases notOlder : seen.changedAt ≤ read.event.occurredAt
    · have notNewer := (current seen status notOlder row rfl).1
      unfold LifecycleRead.writeStatus
      rw [status]
      dsimp only
      rw [if_pos notOlder]
      refine ⟨_, rfl, ?_⟩
      dsimp only
      unfold changedColumn
      split <;> omega
    · rw [writeStatus_older status notOlder]
      exact ⟨row, rfl, later⟩

end StatusRows

namespace PushState

/-- What a call has read of the lifecycle tables is still stored. -/
def ReadsStored (state : PushState) : PushCall → Prop
  | .eventReceived event subject => event.subject? = some subject
  | .eventRead read | .eventLoaded read _ =>
    read.event.subject? = some read.subject ∧ match read.subject with
      | .session _ sid _ => read.revoked.isSome = true → (state.revokedSessions sid).isSome = true
      | .account sub _ => read.Stored (state.userStates sub)
      | .application clientId _ => read.Stored (state.applicationStates clientId)
  | _ => True

structure LifecycleInvariant (state : PushState) : Prop where
  accounts : TableTells (fun sub event => AuthLifecycleEventRequest.AboutAccount event sub)
    state.lifecycleEvents state.userStates
  applications : TableTells (fun clientId event =>
      AuthLifecycleEventRequest.AboutApplication event clientId)
    state.lifecycleEvents state.applicationStates
  sessions : ∀ sid, (state.revokedSessions sid).isSome = true ↔
    ∃ event ∈ state.lifecycleEvents, event.Revokes sid
  calls : ∀ call ∈ state.calls, state.ReadsStored call

variable {state : PushState}

theorem Starts.readsStored {call : PushCall} (starts : state.Starts call)
    (earlier : ∀ call ∈ state.calls, state.ReadsStored call) : state.ReadsStored call := by
  cases call with
  | eventReceived event subject => exact starts
  | eventRead read =>
    obtain ⟨event, subject, member, same⟩ := starts
    have known : event.subject? = some subject := earlier _ member
    rw [same]
    refine ⟨known, ?_⟩
    cases subject with
    | session sub sid clientId => exact id
    | account sub active => exact fun row stored => ⟨row, stored, le_rfl⟩
    | application clientId active => exact fun row stored => ⟨row, stored, le_rfl⟩
  | eventLoaded read endpoints =>
    have reads : state.ReadsStored (.eventRead read) := earlier _ starts.1
    exact reads
  | _ => trivial

structure TablesGrow (before after : PushState) : Prop where
  accounts : ∀ (read : LifecycleRead) sub,
    read.Stored (before.userStates sub) → read.Stored (after.userStates sub)
  applications : ∀ (read : LifecycleRead) clientId,
    read.Stored (before.applicationStates clientId) → read.Stored (after.applicationStates clientId)
  sessions : ∀ sid, (before.revokedSessions sid).isSome = true →
    (after.revokedSessions sid).isSome = true

theorem ReadsStored.grow {after : PushState} {call : PushCall}
    (reads : state.ReadsStored call) (grows : state.TablesGrow after) : after.ReadsStored call := by
  have lifecycle (read : LifecycleRead) (endpoints : List PushEndpoint)
      (reads : state.ReadsStored (.eventLoaded read endpoints)) :
      after.ReadsStored (.eventLoaded read endpoints) := by
    obtain ⟨known, stored⟩ := reads
    refine ⟨known, ?_⟩
    cases subject : read.subject with
    | session sub sid clientId =>
      rw [subject] at stored
      exact fun found => grows.sessions sid (stored found)
    | account sub active =>
      rw [subject] at stored
      exact grows.accounts read sub stored
    | application clientId active =>
      rw [subject] at stored
      exact grows.applications read clientId stored
  cases call with
  | eventReceived event subject => exact reads
  | eventRead read => exact lifecycle read [] reads
  | eventLoaded read endpoints => exact lifecycle read endpoints reads
  | _ => trivial

theorem writeRevoked_isSome (read : LifecycleRead) (sub : ℕ)
    (clientId : String) (stored : Option RevokedAuthSession)
    (known : read.revoked.isSome = true → stored.isSome = true) :
    (read.writeRevoked sub clientId stored).isSome = true := by
  unfold LifecycleRead.writeRevoked
  cases found : read.revoked with
  | none => rfl
  | some row => exact known (by rw [found]; rfl)

theorem lifecycleClash_account {read : LifecycleRead} {sub : ℕ}
    {active : Bool} (free : state.lifecycleClash read = false)
    (subject : read.subject = .account sub active)
    (missing : read.status = none) : state.userStates sub = none := by
  unfold lifecycleClash at free
  rw [subject, missing, Bool.or_eq_false_iff] at free
  dsimp only at free
  cases stored : state.userStates sub with
  | none => rfl
  | some row =>
    rw [stored] at free
    cases free.2

theorem lifecycleClash_application {read : LifecycleRead} {clientId : String} {active : Bool}
    (free : state.lifecycleClash read = false)
    (subject : read.subject = .application clientId active) (missing : read.status = none) :
    state.applicationStates clientId = none := by
  unfold lifecycleClash at free
  rw [subject, missing, Bool.or_eq_false_iff] at free
  dsimp only at free
  cases stored : state.applicationStates clientId with
  | none => rfl
  | some row =>
    rw [stored] at free
    cases free.2

/-- What `KeepsLatest` asks of one commit. -/
def CommitCurrent (before : PushState) (read : LifecycleRead) : Prop :=
  match read.subject with
  | .session _ _ _ => True
  | .account sub active => read.Current active (before.userStates sub)
  | .application clientId active => read.Current active (before.applicationStates clientId)

variable {read : LifecycleRead} {endpoints : List PushEndpoint} {after : PushState}

theorem Committed.grows (committed : state.Committed read endpoints after)
    (free : state.lifecycleClash read = false) (current : state.CommitCurrent read)
    (reads : state.ReadsStored (.eventLoaded read endpoints)) : state.TablesGrow after := by
  have stored := reads.2
  unfold CommitCurrent at current
  have sessions := committed.sessions
  have accounts := committed.accounts
  have applications := committed.applications
  cases subject : read.subject with
  | session sub sid clientId =>
    rw [subject] at stored sessions accounts applications
    dsimp only at stored sessions accounts applications
    refine ⟨?_, ?_, ?_⟩
    · rw [accounts]
      exact fun _ _ known => known
    · rw [applications]
      exact fun _ _ known => known
    · intro other known
      rw [sessions]
      by_cases same : other = sid
      · rw [same, Function.update_self]
        exact writeRevoked_isSome read sub clientId _ stored
      · rw [Function.update_of_ne same]
        exact known
  | account sub active =>
    rw [subject] at current sessions accounts applications
    dsimp only at current sessions accounts applications
    refine ⟨?_, ?_, ?_⟩
    · intro earlier other known
      rw [accounts]
      by_cases same : other = sub
      · rw [same] at known
        rw [same, Function.update_self]
        exact writeStatus_stored (lifecycleClash_account free subject) current known
      · rw [Function.update_of_ne same]
        exact known
    · rw [applications]
      exact fun _ _ known => known
    · rw [sessions]
      exact fun _ known => known
  | application clientId active =>
    rw [subject] at current sessions accounts applications
    dsimp only at current sessions accounts applications
    refine ⟨?_, ?_, ?_⟩
    · rw [accounts]
      exact fun _ _ known => known
    · intro earlier other known
      rw [applications]
      by_cases same : other = clientId
      · rw [same] at known
        rw [same, Function.update_self]
        exact writeStatus_stored (lifecycleClash_application free subject) current known
      · rw [Function.update_of_ne same]
        exact known
    · rw [sessions]
      exact fun _ known => known

theorem SameLifecycle.grows (same : state.SameLifecycle after) : state.TablesGrow after := by
  refine ⟨?_, ?_, ?_⟩
  · rw [same.accounts]
    exact fun _ _ known => known
  · rw [same.applications]
    exact fun _ _ known => known
  · rw [same.sessions]
    exact fun _ known => known

variable {event : AuthLifecycleEventRequest} {subject : LifecycleSubject}

theorem aboutAccount_iff (known : event.subject? = some subject)
    (sub : ℕ) : event.AboutAccount sub ↔ ∃ active, subject = .account sub active := by
  unfold AuthLifecycleEventRequest.AboutAccount
  rw [known]
  simp only [Option.some.injEq]

theorem aboutApplication_iff (known : event.subject? = some subject)
    (clientId : String) : event.AboutApplication clientId ↔
      ∃ active, subject = .application clientId active := by
  unfold AuthLifecycleEventRequest.AboutApplication
  rw [known]
  simp only [Option.some.injEq]

theorem revokes_iff (known : event.subject? = some subject)
    (sid : ℕ) : event.Revokes sid ↔ ∃ sub clientId, subject = .session sub sid clientId := by
  unfold AuthLifecycleEventRequest.Revokes
  rw [known]
  simp only [Option.some.injEq]

theorem Committed.accountsTell (committed : state.Committed read endpoints after)
    (invariant : state.LifecycleInvariant) (free : state.lifecycleClash read = false)
    (current : state.CommitCurrent read) (reads : state.ReadsStored (.eventLoaded read endpoints)) :
    TableTells (fun sub event => AuthLifecycleEventRequest.AboutAccount event sub)
      after.lifecycleEvents after.userStates := by
  have tells := invariant.accounts
  have accounts := committed.accounts
  obtain ⟨known, stored⟩ := reads
  unfold CommitCurrent at current
  rw [committed.events]
  cases subject : read.subject with
  | account sub active =>
    rw [subject] at accounts known stored current
    rw [accounts]
    apply tableTells_update tells
    · intro other different about
      obtain ⟨_, same⟩ := (aboutAccount_iff known other).mp about
      cases same
      exact different rfl
    · have about : read.event.AboutAccount sub := ⟨active, known⟩
      exact tells_writeStatus (tells sub) about (AuthLifecycleEventRequest.enables_of_account known)
        (lifecycleClash_account free subject) stored current
  | _ =>
    rw [subject] at accounts known
    rw [accounts]
    apply tableTells_skip tells
    intro other about
    obtain ⟨_, same⟩ := (aboutAccount_iff known other).mp about
    cases same

theorem Committed.applicationsTell (committed : state.Committed read endpoints after)
    (invariant : state.LifecycleInvariant) (free : state.lifecycleClash read = false)
    (current : state.CommitCurrent read) (reads : state.ReadsStored (.eventLoaded read endpoints)) :
    TableTells (fun clientId event => AuthLifecycleEventRequest.AboutApplication event clientId)
      after.lifecycleEvents after.applicationStates := by
  have tells := invariant.applications
  have applications := committed.applications
  obtain ⟨known, stored⟩ := reads
  unfold CommitCurrent at current
  rw [committed.events]
  cases subject : read.subject with
  | application clientId active =>
    rw [subject] at applications known stored current
    rw [applications]
    apply tableTells_update tells
    · intro other different about
      obtain ⟨_, same⟩ := (aboutApplication_iff known other).mp about
      cases same
      exact different rfl
    · have about : read.event.AboutApplication clientId := ⟨active, known⟩
      exact tells_writeStatus (tells clientId) about
        (AuthLifecycleEventRequest.enables_of_application known)
        (lifecycleClash_application free subject) stored current
  | _ =>
    rw [subject] at applications known
    rw [applications]
    apply tableTells_skip tells
    intro other about
    obtain ⟨_, same⟩ := (aboutApplication_iff known other).mp about
    cases same

theorem Committed.sessionsTell (committed : state.Committed read endpoints after)
    (invariant : state.LifecycleInvariant)
    (reads : state.ReadsStored (.eventLoaded read endpoints)) (sid : ℕ) :
    (after.revokedSessions sid).isSome = true ↔
      ∃ event ∈ after.lifecycleEvents, event.Revokes sid := by
  have sessions := committed.sessions
  obtain ⟨known, stored⟩ := reads
  -- the events before the commit
  have earlier := invariant.sessions sid
  rw [committed.events]
  simp only [List.mem_append, List.mem_singleton, or_and_right, exists_or, exists_eq_left]
  rw [← earlier]
  cases subject : read.subject with
  | session sub revoked clientId =>
    rw [subject] at sessions known stored
    dsimp only at sessions stored
    rw [sessions]
    by_cases same : sid = revoked
    · rw [same, Function.update_self]
      constructor
      · intro written
        exact .inr ⟨sub, clientId, known⟩
      · intro either
        exact writeRevoked_isSome read sub clientId _ stored
    · rw [Function.update_of_ne same]
      constructor
      · exact .inl
      · intro either
        rcases either with old | revokes
        · exact old
        · obtain ⟨_, _, about⟩ := (revokes_iff known sid).mp revokes
          cases about
          exact absurd rfl same
  | _ =>
    rw [subject] at sessions known
    dsimp only at sessions
    rw [sessions]
    constructor
    · exact .inl
    · intro either
      rcases either with old | revokes
      · exact old
      · obtain ⟨_, _, about⟩ := (revokes_iff known sid).mp revokes
        cases about

theorem lifecycleInvariant_start : LifecycleInvariant ({} : PushState) where
  accounts := fun _ => Tells.nil
  applications := fun _ => Tells.nil
  sessions := by
    intro sid
    constructor
    · intro found
      cases found
    · intro found
      obtain ⟨_, none, _⟩ := found
      cases none
  calls := fun _ none => nomatch none

theorem LifecycleInvariant.perform (services : PushServices)
    (settings : PushSettings) (invariant : state.LifecycleInvariant) (action : PushAction)
    (keeps : KeepsLatest state action (state.perform services settings action).1) :
    (state.perform services settings action).1.LifecycleInvariant := by
  have calls (grows : state.TablesGrow (state.perform services settings action).1) :
      ∀ call ∈ (state.perform services settings action).1.calls,
        ReadsStored (state.perform services settings action).1 call := by
    intro call member
    refine ReadsStored.grow ?_ grows
    rcases perform_calls services settings state action call member with
      old | starts
    · exact invariant.calls call old
    · exact starts.readsStored invariant.calls
  rcases perform_lifecycle services settings state action with
    ⟨index, input, read, endpoints, same, found, free, committed⟩ | same
  · rw [same] at keeps
    have current : state.CommitCurrent read :=
      keeps read endpoints found free
    have reads := invariant.calls _ (List.mem_of_getElem? found)
    exact
      { accounts := committed.accountsTell invariant free current reads
        applications :=
          committed.applicationsTell invariant free current reads
        sessions := committed.sessionsTell invariant reads
        calls := calls (committed.grows free current reads) }
  · refine ⟨?_, ?_, ?_, calls same.grows⟩
    · rw [same.events, same.accounts]
      exact invariant.accounts
    · rw [same.events, same.applications]
      exact invariant.applications
    · rw [same.events, same.sessions]
      exact invariant.sessions

theorem LifecycleInvariant.resulting (invariant : state.LifecycleInvariant)
    {events : List AuthLifecycleEventRequest}
    (applied : ∀ event, event ∈ state.lifecycleEvents ↔ event ∈ events)
    (distinct : DistinctTimes events) : state.Resulting events := by
  have appliedDistinct : DistinctTimes state.lifecycleEvents := by
    constructor
    · intro sub first firstMem second secondMem
      exact distinct.1 sub first ((applied first).mp firstMem) second
        ((applied second).mp secondMem)
    · intro clientId first firstMem second secondMem
      exact distinct.2 clientId first ((applied first).mp firstMem) second
        ((applied second).mp secondMem)
  refine ⟨?_, ?_, ?_, ?_, ?_⟩
  · intro sub noEvent
    have tells := invariant.accounts sub
    cases stored : state.userStates sub with
    | none => rfl
    | some row =>
      rw [stored] at tells
      obtain ⟨event, member, about, -⟩ := tells
      exact absurd about (noEvent event ((applied event).mp member))
  · intro sub event member about greatest
    have tells := (invariant.accounts sub).eq_of_greatest
      (appliedDistinct.1 sub) ((applied event).mpr member) about
      (fun other otherMem => greatest other ((applied other).mp otherMem))
    obtain ⟨row, stored, same⟩ := Option.map_eq_some_iff.mp tells
    rw [stored]
    exact congrArg some (congrArg Prod.snd same)
  · intro clientId noEvent
    have tells := invariant.applications clientId
    cases stored : state.applicationStates clientId with
    | none => rfl
    | some row =>
      rw [stored] at tells
      obtain ⟨event, member, about, -⟩ := tells
      exact absurd about (noEvent event ((applied event).mp member))
  · intro clientId event member about greatest
    have tells := (invariant.applications clientId).eq_of_greatest
      (appliedDistinct.2 clientId) ((applied event).mpr member) about
      (fun other otherMem => greatest other ((applied other).mp otherMem))
    obtain ⟨row, stored, same⟩ := Option.map_eq_some_iff.mp tells
    rw [stored]
    exact congrArg some (congrArg Prod.snd same)
  · intro sid
    rw [invariant.sessions sid]
    simp only [applied]

theorem LifecycleInvariant.sameResult {other : PushState} (invariant : state.LifecycleInvariant)
    (otherInvariant : other.LifecycleInvariant)
    (sameEvents : ∀ event, event ∈ state.lifecycleEvents ↔ event ∈ other.lifecycleEvents)
    (distinct : DistinctTimes state.lifecycleEvents) : state.SameResult other := by
  refine ⟨?_, ?_, ?_⟩
  · intro sub
    have same := (invariant.accounts sub).unique
      (otherInvariant.accounts sub) sameEvents (distinct.1 sub)
    have active := congrArg (Option.map Prod.snd) same
    rw [Option.map_map, Option.map_map] at active
    exact active
  · intro clientId
    have same := (invariant.applications clientId).unique
      (otherInvariant.applications clientId) sameEvents (distinct.2 clientId)
    have active := congrArg (Option.map Prod.snd) same
    rw [Option.map_map, Option.map_map] at active
    exact active
  · intro sid
    rw [Bool.eq_iff_iff, invariant.sessions sid, otherInvariant.sessions sid]
    simp only [sameEvents]

theorem run_lifecycleInvariant {services : PushServices}
    {settings : PushSettings} {actions : List PushAction} {finish : PushState}
    (run : Run (Performs services settings) {} actions finish)
    (keeps : EveryStep (Performs services settings) KeepsLatest {}
      actions) : finish.LifecycleInvariant := by
  refine run.invariant_of_everyStep lifecycleInvariant_start ?_ keeps
  intro before action after invariant performs keepsHere
  unfold Performs at performs
  subst performs
  exact invariant.perform services settings action keepsHere

/-- Runs that apply the same events and keep the latest one end in the tables
that the latest events ask for. -/
theorem runs_lifecycleOrder {services : PushServices}
    {settings : PushSettings} {events : List AuthLifecycleEventRequest}
    {actions otherActions : List PushAction} {finish otherFinish : PushState}
    (distinct : DistinctTimes events) (run : Run (Performs services settings) {} actions finish)
    (keeps : EveryStep (Performs services settings) KeepsLatest {} actions)
    (applied : ∀ event, event ∈ finish.lifecycleEvents ↔ event ∈ events)
    (otherRun : Run (Performs services settings) {} otherActions otherFinish)
    (otherKeeps : EveryStep (Performs services settings) KeepsLatest {} otherActions)
    (otherApplied : ∀ event, event ∈ otherFinish.lifecycleEvents ↔ event ∈ events) :
    finish.Resulting events ∧ otherFinish.Resulting events ∧ finish.SameResult otherFinish := by
  have invariant := run_lifecycleInvariant run keeps
  have otherInvariant := run_lifecycleInvariant otherRun otherKeeps
  refine ⟨invariant.resulting applied distinct, otherInvariant.resulting otherApplied distinct, ?_⟩
  apply invariant.sameResult otherInvariant
  · intro event
    rw [applied, otherApplied]
  · constructor
    · intro sub first firstMem second secondMem
      exact distinct.1 sub first ((applied first).mp firstMem) second
        ((applied second).mp secondMem)
    · intro clientId first firstMem second secondMem
      exact distinct.2 clientId first ((applied first).mp firstMem) second
        ((applied second).mp secondMem)

instance (read : LifecycleRead) (active : Bool)
    (stored : Option StatusRow) : Decidable (read.Current active stored) :=
  inferInstanceAs (Decidable (∀ loaded ∈ read.status, loaded.changedAt ≤ read.event.occurredAt →
      ∀ row ∈ stored, row.changedAt ≤ read.event.occurredAt ∧
        (loaded.active = active → row.active = active)))

instance (before : PushState) (read : LifecycleRead) : Decidable (before.CommitCurrent read) := by
  unfold CommitCurrent
  cases read.subject <;> infer_instance

instance (before : PushState) (action : PushAction) (after : PushState) :
    Decidable (KeepsLatest before action after) := by
  cases action with
  | advance index _ =>
    have reads (call : PushCall) : Decidable (∀ read endpoints, call = .eventLoaded read endpoints →
        before.lifecycleClash read = false → before.CommitCurrent read) := by
      cases call with
      | eventLoaded read endpoints =>
        exact decidable_of_iff (before.lifecycleClash read = false → before.CommitCurrent read)
          (by simp)
      | _ => exact .isTrue (by simp)
    exact decidable_of_iff (∀ call ∈ before.calls[index]?, ∀ read endpoints,
        call = .eventLoaded read endpoints →
          before.lifecycleClash read = false → before.CommitCurrent read)
      ⟨fun each read endpoints same => each _ same read endpoints rfl,
        fun keeps call same read endpoints isEvent => keeps read endpoints (isEvent ▸ same)⟩
  | _ => exact .isTrue trivial

def accountEvent (eventId occurredAt : ℕ) (active : Bool) : AuthLifecycleEventRequest where
  eventId := eventId
  type := if active then .accountEnabled else .accountDisabled
  sub := some 7
  sid := none
  clientId := none
  occurredAt := occurredAt
  details := []

def plainServices : PushServices where
  fingerprint := fun _ => ""
  endpointHash := id

def inTurn (event : AuthLifecycleEventRequest) : List PushAction :=
  [.applyAuthEvent event, .advance 0 {}, .advance 0 {}, .advance 0 {}]

def ended (actions : List PushAction) : PushState :=
  actions.foldl (fun before action => (before.perform plainServices {} action).1) {}

theorem ended_run (actions : List PushAction) :
    Run (Performs plainServices {}) {} actions (ended actions) :=
  Run.of_foldl
    (fun (before : PushState) (action : PushAction) =>
      (before.perform plainServices {} action).1) actions {}

/-- The later event comes first, and the earlier one twice. -/
theorem runs_lifecycleOrder_reordered : (ended (inTurn (accountEvent 1 1 false) ++
      inTurn (accountEvent 2 2 true))).Resulting [accountEvent 1 1 false, accountEvent 2 2 true] ∧
    (ended (inTurn (accountEvent 2 2 true) ++ inTurn (accountEvent 1 1 false) ++
      inTurn (accountEvent 1 1 false))).Resulting [accountEvent 1 1 false, accountEvent 2 2 true] ∧
    (ended (inTurn (accountEvent 1 1 false) ++ inTurn (accountEvent 2 2 true))).SameResult
      (ended (inTurn (accountEvent 2 2 true) ++ inTurn (accountEvent 1 1 false) ++
        inTurn (accountEvent 1 1 false))) := by
  have distinct : DistinctTimes [accountEvent 1 1 false, accountEvent 2 2 true] := by
    constructor
    all_goals
      intro key first firstMem second secondMem _ _ sameTime
      simp only [List.mem_cons, List.not_mem_nil, or_false] at firstMem secondMem
      rcases firstMem with rfl | rfl <;> rcases secondMem with rfl | rfl
      all_goals first | rfl | cases sameTime
  refine runs_lifecycleOrder distinct (ended_run _) ?_ ?_ (ended_run _) ?_ ?_
  · unfold Performs inTurn
    simp only [List.cons_append, List.nil_append, EveryStep.cons_iff]
    refine ⟨?_, ?_, ?_, ?_, ?_, ?_, ?_, ?_, EveryStep.nil⟩ <;> decide
  · exact fun event => Iff.rfl
  · unfold Performs inTurn
    simp only [List.cons_append, List.nil_append, EveryStep.cons_iff]
    refine ⟨?_, ?_, ?_, ?_, ?_, ?_, ?_, ?_, ?_, ?_, ?_, ?_, EveryStep.nil⟩ <;> decide
  · intro event
    change event ∈ [accountEvent 2 2 true, accountEvent 1 1 false] ↔
      event ∈ [accountEvent 1 1 false, accountEvent 2 2 true]
    simp only [List.mem_cons, List.not_mem_nil, or_false]
    exact or_comm

/-- Two calls read the row of a disabled account, and the earlier event is
committed last. -/
def overtaking : List PushAction :=
  inTurn (accountEvent 1 1 false) ++
    [.applyAuthEvent (accountEvent 2 2 true),
      .applyAuthEvent (accountEvent 3 3 false), .advance 0 {},
      .advance 0 {}, .advance 0 {}, .advance 0 {}, .advance 1 {},
      .advance 0 {}]

/-- The account ends enabled, although its last event disables it. -/
theorem overtaking_enables : Run (Performs plainServices {}) {} overtaking (ended overtaking) ∧
      DistinctTimes [accountEvent 1 1 false, accountEvent 3 3 false, accountEvent 2 2 true] ∧
      (ended overtaking).lifecycleEvents = [accountEvent 1 1 false,
        accountEvent 3 3 false, accountEvent 2 2 true] ∧
      ¬ (ended overtaking).Resulting [accountEvent 1 1 false,
        accountEvent 3 3 false, accountEvent 2 2 true] := by
  refine ⟨ended_run _, ?_, rfl, ?_⟩
  · constructor
    all_goals
      intro key first firstMem second secondMem _ _ sameTime
      simp only [List.mem_cons, List.not_mem_nil, or_false] at firstMem secondMem
      rcases firstMem with rfl | rfl | rfl <;>
        rcases secondMem with rfl | rfl | rfl
      all_goals first | rfl | cases sameTime
  · intro resulting
    have greatest : ∀ other ∈ [accountEvent 1 1 false,
        accountEvent 3 3 false, accountEvent 2 2 true], other.AboutAccount 7 →
          other.occurredAt ≤ (accountEvent 3 3 false).occurredAt := by
      intro other member _
      simp only [List.mem_cons, List.not_mem_nil, or_false] at member
      rcases member with rfl | rfl | rfl <;> decide
    have disables := resulting.account 7 (accountEvent 3 3 false) (by simp) ⟨false, rfl⟩ greatest
    revert disables
    decide

end PushState

end Ithute.Push
