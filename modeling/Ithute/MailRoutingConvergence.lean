import Ithute.MailRoutingFiles

/-!
# The routing files converge

A call takes the lock with routes that are no older than those in the files,
so versions in the files only grow, and the last call to start leaves the last
version in all of them.
-/

namespace Ithute

open TransitionRuns InterleavedCalls

namespace Mail

namespace RoutingState

variable {settings : MailSettings} {state after : RoutingState}
variable {caller other : ℕ} {call following : RoutingCall}
variable {changes : List MailChange} {routing : MailRouting} {version : ℕ}

def Current (settings : MailSettings) (state : RoutingState) (routing : MailRouting) : Prop :=
  ∀ built, state.committed.buildMailRouting settings state.now = .ok built → built = routing

structure OrderlyFiles (settings : MailSettings) (state : RoutingState) : Prop where
  known : ∀ name, (state.files name).version ≤ state.version
  current : ∀ name, (state.files name).version = state.version →
    (state.files name).uncommitted = none → ∃ routing, Current settings state routing ∧
        (state.files name).payload = routing.payload name
  started : ∀ caller version, state.lastStart = some (caller, version) → version ≤ state.version

structure Held (settings : MailSettings) (state : RoutingState)
    (changes : List MailChange) (routing : MailRouting) (version : ℕ) : Prop where
  known : version ≤ state.version
  current : version = state.version → changes.isEmpty = true → Current settings state routing

def Untouched (state : RoutingState) (caller : ℕ) : Prop :=
  ∀ name, (state.files name).uncommitted ≠ some caller

/-- The last call of a session has written its routes, or has found none. -/
def Served (settings : MailSettings) (state : RoutingState) (caller : ℕ) : Prop :=
  ∀ version, state.lastStart = some (caller, version) →
    (∀ name, version ≤ (state.files name).version) ∨ (version = state.version → ∀ routing,
        state.committed.buildMailRouting settings state.now ≠ .ok routing)

structure Writing (settings : MailSettings) (state : RoutingState)
    (caller : ℕ) (changes : List MailChange) (routing : MailRouting)
    (version : ℕ) (remaining : List RoutingFileName) : Prop where
  locked : state.lock = some caller
  held : Held settings state changes routing version
  below : ∀ name, (state.files name).version ≤ version
  done : ∀ name ∉ remaining, (state.files name).version = version
  clean : changes.isEmpty = true → state.Untouched caller
  started : ∀ started, state.lastStart = some (caller, started) → started = version

def Awaits (settings : MailSettings) (state : RoutingState) (caller : ℕ) : RoutingCall → Prop
  | .idle | .begun _ =>
    state.Untouched caller ∧ ∀ version, state.lastStart ≠ some (caller, version)
  | .built changes routing version =>
    state.Untouched caller ∧ Held settings state changes routing version ∧
      ∀ started, state.lastStart = some (caller, started) → started = version
  | .writing changes routing version remaining =>
    Writing settings state caller changes routing version remaining
  | .synced changes version =>
    version ≤ state.version ∧ (∀ name, version ≤ (state.files name).version) ∧
      (changes.isEmpty = true → state.Untouched caller) ∧
      ∀ started, state.lastStart = some (caller, started) → started = version
  | .committed =>
    (∀ name, (state.files name).uncommitted = some caller →
      (state.files name).version < state.version) ∧ Served settings state caller
  | .rolledBack => state.Untouched caller ∧ Served settings state caller

/-- The committed rows stay as they are until their version does not. -/
structure Later (state after : RoutingState) : Prop where
  version : state.version ≤ after.version
  committed : after.version = state.version → after.committed = state.committed
  now : state.now ≤ after.now

theorem Later.refl : Later state state := ⟨Nat.le_refl _, fun _ => rfl, Int.le_refl _⟩

theorem Current.later (current : Current settings state routing)
    (later : Later state after) (same : after.version = state.version) :
    Current settings after routing := by
  intro built found
  rw [later.committed same] at found
  exact current built (MailTables.buildMailRouting_earlier found later.now)

theorem Held.later (held : Held settings state changes routing version)
    (later : Later state after) : Held settings after changes routing version where
  known := Nat.le_trans held.known later.version
  current same clean := by
    have kept : after.version = state.version := Nat.le_antisymm (same ▸ held.known) later.version
    exact (held.current (same.trans kept) clean).later later kept

structure Leaves (state after : RoutingState) (caller : ℕ) : Prop where
  later : Later state after
  files : ∀ name, after.files name = state.files name ∨ state.lock = some caller ∧
      (state.files name).version ≤ (after.files name).version ∧
      ∀ other, (after.files name).uncommitted = some other → other = caller
  lock : after.lock = state.lock ∨ state.lock = none ∨ state.lock = some caller
  lastStart : after.lastStart = state.lastStart ∨
    ∃ version, after.lastStart = some (caller, version)

theorem Leaves.of_later (later : Later state after)
    (files : after.files = state.files) (lock : after.lock = state.lock)
    (lastStart : after.lastStart = state.lastStart) : Leaves state after caller where
  later := later
  files name := .inl (congrFun files name)
  lock := .inl lock
  lastStart := .inl lastStart

theorem Leaves.refl : Leaves state state caller := .of_later .refl rfl rfl rfl

namespace Leaves

variable (leaves : Leaves state after caller)
include leaves

theorem growing (name : RoutingFileName) :
    (state.files name).version ≤ (after.files name).version := by
  rcases leaves.files name with same | ⟨_, grows, _⟩
  · rw [same]
  · exact grows

theorem untouched (different : other ≠ caller)
    (untouched : state.Untouched other) : after.Untouched other := by
  intro name here
  rcases leaves.files name with same | ⟨_, _, whose⟩
  · rw [same] at here
    exact untouched name here
  · exact different (whose other here)

theorem lastStart_other (different : other ≠ caller) {started : ℕ}
    (last : after.lastStart = some (other, started)) : state.lastStart = some (other, started) := by
  rcases leaves.lastStart with same | ⟨version, mine⟩
  · rw [← same]
    exact last
  · rw [mine, Option.some.injEq, Prod.mk.injEq] at last
    exact absurd last.1.symm different

theorem served (different : other ≠ caller) (orderly : OrderlyFiles settings state)
    (served : Served settings state other) : Served settings after other := by
  intro started last
  have before := leaves.lastStart_other different last
  rcases served started before with written | none
  · exact .inl fun name => Nat.le_trans (written name) (leaves.growing name)
  · refine .inr fun same routing found => ?_
    have known := orderly.started other started before
    have kept : after.version = state.version := Nat.le_antisymm (same ▸ known) leaves.later.version
    rw [leaves.later.committed kept] at found
    exact none (same.trans kept) routing
      (MailTables.buildMailRouting_earlier found leaves.later.now)

theorem awaits (different : other ≠ caller) (orderly : OrderlyFiles settings state)
    (awaits : Awaits settings state other call) : Awaits settings after other call := by
  have started : ∀ version, (∀ started, state.lastStart = some (other, started) →
        started = version) →
      ∀ started, after.lastStart = some (other, started) → started = version :=
    fun version before started last => before started (leaves.lastStart_other different last)
  cases call with
  | idle | begun changes =>
    exact ⟨leaves.untouched different awaits.1, fun version last =>
      awaits.2 version (leaves.lastStart_other different last)⟩
  | built changes routing version =>
    obtain ⟨untouched, held, last⟩ := awaits
    exact ⟨leaves.untouched different untouched, held.later leaves.later, started version last⟩
  | writing changes routing version remaining =>
    have locked := awaits.locked
    have files : after.files = state.files := by
      funext name
      rcases leaves.files name with same | ⟨mine, _⟩
      · exact same
      · rw [locked, Option.some.injEq] at mine
        exact absurd mine different
    have lock : after.lock = some other := by
      rcases leaves.lock with same | free | mine
      · exact same.trans locked
      · rw [locked] at free
        cases free
      · rw [locked, Option.some.injEq] at mine
        exact absurd mine different
    refine ⟨lock, awaits.held.later leaves.later, ?_, ?_, ?_, started version awaits.started⟩
    · rw [files]
      exact awaits.below
    · rw [files]
      exact awaits.done
    · intro empty name
      rw [files]
      exact awaits.clean empty name
  | synced changes version =>
    obtain ⟨known, written, clean, last⟩ := awaits
    exact ⟨Nat.le_trans known leaves.later.version,
      fun name => Nat.le_trans (written name) (leaves.growing name),
      fun empty => leaves.untouched different (clean empty), started version last⟩
  | committed =>
    refine ⟨?_, leaves.served different orderly awaits.2⟩
    intro name here
    rcases leaves.files name with same | ⟨_, _, whose⟩
    · rw [same] at here ⊢
      exact Nat.lt_of_lt_of_le (awaits.1 name here) leaves.later.version
    · exact absurd (whose other here) different
  | rolledBack =>
    exact ⟨leaves.untouched different awaits.1, leaves.served different orderly awaits.2⟩

end Leaves

structure Moves (settings : MailSettings) (state : RoutingState) (caller : ℕ)
    (result : RoutingState × RoutingCall) : Prop where
  leaves : Leaves state result.1 caller
  orderly : OrderlyFiles settings result.1
  awaits : Awaits settings result.1 caller result.2

theorem Moves.of_call (orderly : OrderlyFiles settings state)
    (awaits : Awaits settings state caller following) :
    Moves settings state caller (state, following) :=
  ⟨.refl, orderly, awaits⟩

theorem OrderlyFiles.later (orderly : OrderlyFiles settings state)
    (later : Later state after) (files : after.files = state.files)
    (started : ∀ caller version, after.lastStart = some (caller, version) →
      version ≤ after.version) : OrderlyFiles settings after where
  known name := by
    rw [files]
    exact Nat.le_trans (orderly.known name) later.version
  current name same clean := by
    rw [files] at same clean ⊢
    have kept : after.version = state.version :=
      Nat.le_antisymm (same ▸ orderly.known name) later.version
    obtain ⟨routing, current, payload⟩ := orderly.current name (same.trans kept) clean
    exact ⟨routing, current.later later kept, payload⟩
  started := started

theorem perform_tick {passed : ℕ} (orderly : OrderlyFiles settings state)
    (awaits : Awaits settings state caller call) : Moves settings state caller
      (perform settings caller (.tick passed) state call) := by
  have later : Later state { state with now := state.now + passed } :=
    ⟨Nat.le_refl _, fun _ => rfl, Int.le_add_of_nonneg_right (Int.natCast_nonneg passed)⟩
  have elsewhere : Leaves state { state with now := state.now + passed }
      (caller + 1) := .of_later later rfl rfl rfl
  exact ⟨.of_later later rfl rfl rfl, orderly.later later rfl orderly.started,
    elsewhere.awaits (Nat.ne_of_lt (Nat.lt_succ_self caller)) orderly awaits⟩

theorem perform_build (orderly : OrderlyFiles settings state)
    (awaits : Awaits settings state caller call) (calm : state.CalmStep settings call .build) :
    Moves settings state caller (perform settings caller .build state call) := by
  cases call with
  | begun changes =>
    have later : Later state { state with lastStart := some (caller, state.version) } :=
      ⟨Nat.le_refl _, fun _ => rfl, Int.le_refl _⟩
    have begun : OrderlyFiles settings
        { state with lastStart := some (caller, state.version) } := by
      refine orderly.later later rfl ?_
      intro whose version last
      cases last
      exact Nat.le_refl _
    have leaves : Leaves state { state with lastStart := some (caller, state.version) } caller :=
      ⟨later, fun name => .inl rfl, .inl rfl, .inr ⟨_, rfl⟩⟩
    dsimp only [perform]
    split
    · rename_i error failed
      refine ⟨leaves, begun, awaits.1, ?_⟩
      intro version last
      refine .inr fun same routing found => ?_
      have found' : state.committed.buildMailRouting settings state.now = .ok routing := found
      have builds := calm changes rfl (by rw [found']; rfl)
      rw [failed] at builds
      cases builds
    · rename_i routing found
      refine ⟨leaves, begun, awaits.1, ⟨Nat.le_refl _, ?_⟩, ?_⟩
      · intro same clean built again
        rw [List.isEmpty_iff.mp clean] at found
        exact Except.ok.inj (again.symm.trans found)
      · intro started last
        cases last
        rfl
  | _ => exact .of_call orderly awaits

theorem perform_takeLock (orderly : OrderlyFiles settings state)
    (awaits : Awaits settings state caller call) (calm : state.CalmStep settings call .takeLock) :
    Moves settings state caller (perform settings caller .takeLock state call) := by
  cases call with
  | built changes routing version =>
    obtain ⟨untouched, held, started⟩ := awaits
    dsimp only [perform]
    split
    · rename_i free
      have later : Later state { state with lock := some caller } :=
        ⟨Nat.le_refl _, fun _ => rfl, Int.le_refl _⟩
      refine ⟨⟨later, fun name => .inl rfl, .inr (.inl free), .inl rfl⟩,
        orderly.later later rfl orderly.started, rfl, held.later later,
        calm version rfl, ?_, fun _ => untouched, started⟩
      intro name absent
      cases name <;> exact absurd (by decide) absent
    · exact .of_call orderly ⟨untouched, held, started⟩
  | _ => exact .of_call orderly awaits

def newFile (caller : ℕ) (changes : List MailChange) (routing : MailRouting)
    (version : ℕ) (name : RoutingFileName) : RoutingFile where
  payload := routing.payload name
  version := version
  uncommitted := if changes.isEmpty then none else some caller

theorem newFile_uncommitted {name : RoutingFileName} {whose : ℕ}
    (here : (newFile caller changes routing version name).uncommitted =
      some whose) : changes.isEmpty = false ∧ whose = caller := by
  simp only [newFile] at here
  split_ifs at here with empty
  exact ⟨Bool.not_eq_true _ ▸ empty, (Option.some.inj here).symm⟩

theorem replaced_cases {files : RoutingFileName → RoutingFile}
    {name : RoutingFileName} {file : RoutingFile} (other : RoutingFileName) :
    other = name ∧ Function.update files name file other = file ∨
      other ≠ name ∧ Function.update files name file other = files other := by
  by_cases same : other = name
  · rw [same]
    exact .inl ⟨rfl, Function.update_self ..⟩
  · exact .inr ⟨same, Function.update_of_ne same ..⟩

theorem perform_replace (orderly : OrderlyFiles settings state)
    (awaits : Awaits settings state caller call) : Moves settings state caller
      (perform settings caller .replace state call) := by
  cases call with
  | writing changes routing version remaining =>
    cases remaining with
    | nil => exact .of_call orderly awaits
    | cons name rest =>
      have replaced : ∀ other, other = name ∧
          (perform settings caller .replace state (.writing changes
            routing version (name :: rest))).1.files other =
            newFile caller changes routing version name ∨ other ≠ name ∧
          (perform settings caller .replace state (.writing changes
            routing version (name :: rest))).1.files other = state.files other := replaced_cases
      have later : Later state (perform settings caller .replace state
          (.writing changes routing version (name :: rest))).1 :=
        ⟨Nat.le_refl _, fun _ => rfl, Int.le_refl _⟩
      refine ⟨⟨later, fun other => ?_, .inl rfl, .inl rfl⟩,
        ⟨fun other => ?_, fun other current clean => ?_, orderly.started⟩,
        awaits.locked, awaits.held.later later, fun other => ?_,
        fun other absent => ?_, fun empty other here => ?_, awaits.started⟩
      all_goals rcases replaced other with ⟨rfl, new⟩ | ⟨different, old⟩
      · rw [new]
        exact .inr ⟨awaits.locked, awaits.below other,
          fun whose here => (newFile_uncommitted here).2⟩
      · rw [old]
        exact .inl rfl
      · rw [new]
        exact awaits.held.known
      · rw [old]
        exact orderly.known other
      · rw [new] at current clean ⊢
        refine ⟨routing, awaits.held.current current ?_, rfl⟩
        simpa [newFile] using clean
      · rw [old] at current clean ⊢
        exact orderly.current other current clean
      · rw [new]
        exact Nat.le_refl version
      · rw [old]
        exact awaits.below other
      · rw [new]
        rfl
      · rw [old]
        exact awaits.done other (by simp [different, absent])
      · rw [new] at here
        rw [(newFile_uncommitted here).1] at empty
        cases empty
      · rw [old] at here
        exact awaits.clean empty other here
  | _ => exact .of_call orderly awaits

theorem perform_releaseLock (orderly : OrderlyFiles settings state)
    (awaits : Awaits settings state caller call) : Moves settings state caller
      (perform settings caller .releaseLock state call) := by
  cases call with
  | writing changes routing version remaining =>
    cases remaining with
    | cons name rest => exact .of_call orderly awaits
    | nil =>
      have later : Later state { state with lock := none } :=
        ⟨Nat.le_refl _, fun _ => rfl, Int.le_refl _⟩
      refine ⟨⟨later, fun name => .inl rfl, .inr (.inr awaits.locked),
        .inl rfl⟩, orderly.later later rfl orderly.started,
        awaits.held.known, ?_, awaits.clean, awaits.started⟩
      intro name
      exact Nat.le_of_eq (awaits.done name List.not_mem_nil).symm
  | _ => exact .of_call orderly awaits

theorem Later.commitChanges : Later state (state.commitChanges changes) := by
  unfold RoutingState.commitChanges
  split_ifs
  · exact .refl
  · refine ⟨Nat.le_succ _, ?_, Int.le_refl _⟩
    exact fun same => absurd same (Nat.succ_ne_self _)

@[simp] theorem files_commitChanges : (state.commitChanges changes).files = state.files := by
  unfold RoutingState.commitChanges
  split_ifs <;> rfl

@[simp] theorem lock_commitChanges : (state.commitChanges changes).lock = state.lock := by
  unfold RoutingState.commitChanges
  split_ifs <;> rfl

@[simp] theorem lastStart_commitChanges :
    (state.commitChanges changes).lastStart = state.lastStart := by
  unfold RoutingState.commitChanges
  split_ifs <;> rfl

theorem Moves.of_commit (orderly : OrderlyFiles settings state)
    (clean : changes.isEmpty = true → state.Untouched caller)
    (served : ∀ version, state.lastStart = some (caller, version) →
      ∀ name, version ≤ (state.files name).version) :
    Moves settings state caller (state.commitChanges changes, .committed) := by
  have later : Later state (state.commitChanges changes) := .commitChanges
  refine ⟨.of_later later files_commitChanges lock_commitChanges
    lastStart_commitChanges, orderly.later later files_commitChanges ?_, ?_, ?_⟩
  · intro whose version last
    rw [lastStart_commitChanges] at last
    exact Nat.le_trans (orderly.started whose version last) later.version
  · intro name here
    dsimp only at here ⊢
    rw [files_commitChanges] at here ⊢
    cases empty : changes.isEmpty with
    | true => exact absurd here (clean empty name)
    | false =>
      have grows : (state.commitChanges changes).version = state.version + 1 := by
        simp [RoutingState.commitChanges, empty]
      rw [grows]
      exact Nat.lt_succ_of_le (orderly.known name)
  · intro version last
    dsimp only at last
    rw [lastStart_commitChanges] at last
    refine .inl fun name => ?_
    dsimp only
    rw [files_commitChanges]
    exact served version last name

theorem perform_commit (orderly : OrderlyFiles settings state)
    (awaits : Awaits settings state caller call) : Moves settings state caller
      (perform settings caller .commit state call) := by
  cases call with
  | begun changes =>
    refine .of_commit orderly (fun _ => awaits.1) ?_
    exact fun version last => absurd last (awaits.2 version)
  | synced changes version =>
    obtain ⟨known, written, clean, started⟩ := awaits
    refine .of_commit orderly clean ?_
    intro version last name
    rw [started version last]
    exact written name
  | _ => exact .of_call orderly awaits

theorem perform_rollback (orderly : OrderlyFiles settings state)
    (awaits : Awaits settings state caller call) (calm : state.CalmStep settings call .rollback) :
    Moves settings state caller (perform settings caller .rollback state call) := by
  cases call with
  | begun changes =>
    refine .of_call orderly ⟨awaits.1, ?_⟩
    exact fun version last => absurd last (awaits.2 version)
  | synced changes version =>
    obtain ⟨known, written, clean, started⟩ := awaits
    refine .of_call orderly ⟨clean calm, ?_⟩
    intro version last
    refine .inl fun name => ?_
    rw [started version last]
    exact written name
  | _ => exact .of_call orderly awaits

theorem perform_moves {step : RoutingStep} (orderly : OrderlyFiles settings state)
    (awaits : Awaits settings state caller call) (calm : state.CalmStep settings call step) :
    Moves settings state caller (perform settings caller step state call) := by
  cases step with
  | tick passed => exact perform_tick orderly awaits
  | begin | change change => cases call <;> exact .of_call orderly awaits
  | build => exact perform_build orderly awaits calm
  | takeLock => exact perform_takeLock orderly awaits calm
  | replace => exact perform_replace orderly awaits
  | releaseLock => exact perform_releaseLock orderly awaits
  | commit => exact perform_commit orderly awaits
  | rollback => exact perform_rollback orderly awaits calm

end RoutingState

open RoutingState

variable {settings : MailSettings} {world : RoutingWorld}

abbrev OrderlyRouting (settings : MailSettings) (world : RoutingWorld) : Prop :=
  Sound (OrderlyFiles settings) (Awaits settings) world

theorem OrderlyRouting.start {committed : MailTables}
    {payloads : RoutingFileName → String} {now : ℤ} :
    OrderlyRouting settings (.start committed payloads now) where
  shared := by
    refine ⟨fun name => Nat.zero_le _, ?_, nofun⟩
    exact fun name same => absurd same Nat.zero_ne_one
  calls caller := ⟨nofun, nofun⟩

theorem OrderlyRouting.next {move : ℕ × RoutingStep} (orderly : OrderlyRouting settings world)
    (calm : world.shared.CalmStep settings (world.calls move.1) move.2) :
    OrderlyRouting settings (world.next settings move) := by
  have moves : Moves settings world.shared move.1
      (perform settings move.1 move.2 world.shared (world.calls move.1)) :=
    perform_moves orderly.shared (orderly.calls move.1) calm
  exact orderly.act moves.orderly moves.awaits fun other call different awaits =>
      moves.leaves.awaits different orderly.shared awaits

theorem OrderlyRouting.converged (orderly : OrderlyRouting settings world) :
    Converged settings world where
  files finished last routing found name := by
    obtain ⟨⟨caller, version⟩, started, same⟩ := Option.map_eq_some_iff.mp last
    have about := orderly.calls caller
    have ended := finished caller
    have served : Served settings world.shared caller := by
      cases standing : world.calls caller with
      | idle | begun changes =>
        rw [standing] at about
        exact absurd started (about.2 version)
      | built | writing | synced =>
        rw [standing] at ended
        cases ended
      | committed | rolledBack =>
        rw [standing] at about
        exact about.2
    rcases served version started with written | none
    · have latest : (world.shared.files name).version = world.shared.version :=
        Nat.le_antisymm (orderly.shared.known name) (same ▸ written name)
      have clean : (world.shared.files name).uncommitted = none := by
        cases whose : (world.shared.files name).uncommitted with
        | none => rfl
        | some other =>
          have asserted := orderly.calls other
          have isOver := finished other
          cases standing : world.calls other with
          | idle | begun | rolledBack =>
            rw [standing] at asserted
            exact absurd whose (asserted.1 name)
          | built | writing | synced =>
            rw [standing] at isOver
            cases isOver
          | committed =>
            rw [standing] at asserted
            have before := asserted.1 name whose
            omega
      obtain ⟨routes, current, payload⟩ := orderly.shared.current name latest clean
      rw [payload, current routing found]
    · exact absurd found (none same routing)
  untraced name caller whose isOver := by
    have asserted := orderly.calls caller
    rw [isOver] at asserted
    exact asserted.1 name whose

/-- The routing files converge along every run whose calls take the lock in
the order of their routes. -/
theorem routingFiles_converge (settings : MailSettings)
    (committed : MailTables) (payloads : RoutingFileName → String) (now : ℤ)
    (moves : List (ℕ × RoutingStep)) (calm : EveryStep (fun before move after =>
        after = RoutingWorld.next settings before move) (CalmSync settings)
      (.start committed payloads now) moves) :
    EveryStep (fun before move after => after = RoutingWorld.next settings before move)
      (fun _ _ after => Converged settings after) (.start committed payloads now) moves := by
  have begun : OrderlyRouting settings (.start committed payloads now) := .start
  refine EveryStep.of_invariant begun ?_ ?_ calm
  · rintro before move after orderly rfl meets
    exact orderly.next meets
  · rintro before move after orderly rfl meets
    exact (orderly.next meets).converged

instance {holds : RoutingFileName → Prop} [DecidablePred holds] : Decidable (∀ name, holds name) :=
  decidable_of_iff (∀ name ∈ RoutingFileName.order, holds name)
    ⟨fun all name => all name (by cases name <;> decide), fun all name _ => all name⟩

instance {state : RoutingState} {call : RoutingCall} :
    (step : RoutingStep) → Decidable (state.CalmStep settings call step)
  | .build => inferInstanceAs (Decidable (∀ _ ∈ _, _ → _))
  | .takeLock => inferInstanceAs (Decidable (∀ _ ∈ _, ∀ _, _))
  | .rollback => inferInstanceAs (Decidable (_ = true))
  | .tick _ | .begin | .change _ | .replace | .releaseLock | .commit => instDecidableTrue

instance {before after : RoutingWorld} {move : ℕ × RoutingStep} :
    Decidable (CalmSync settings before move after) :=
  inferInstanceAs (Decidable (before.shared.CalmStep settings (before.calls move.1) move.2))

def plainMail : MailSettings where
  lower value := value
  repr value := value
  mailGatewayInternalHost := "m"

def oneDomain : MailTables where
  domains := [{ id := 0, tenantId := 0, asciiName := "b" }]

def firstMailbox : Mailbox where
  id := 0
  tenantId := 0
  domainId := 0
  localPart := "a"
  address := "a@b"
  passwordHash := "hash"
  quotaBytes := 1

def writes (caller : ℕ) : List (ℕ × RoutingStep) :=
  (caller, .takeLock) :: (RoutingFileName.order.map fun _ => (caller, .replace)) ++
      [(caller, .releaseLock)]

/-- A mailbox is created, and a transaction suspends it that writes the routes
before it commits. -/
def inOrder : List (ℕ × RoutingStep) :=
  [(0, .begin), (0, .change (.saveMailbox firstMailbox)), (0, .commit),
    (1, .begin), (1, .build)] ++ writes 1 ++
  [(1, .rollback), (2, .begin),
    (2, .change (.saveMailbox { firstMailbox with status := .suspended })),
    (2, .build)] ++ writes 2 ++
  [(2, .commit), (3, .begin), (3, .build)] ++ writes 3 ++ [(3, .rollback)]

theorem inOrder_converge : EveryStep (fun before move after =>
        after = RoutingWorld.next plainMail before move)
      (fun _ _ after => Converged plainMail after)
      (.start oneDomain (fun _ => "") 0) inOrder :=
  routingFiles_converge plainMail oneDomain (fun _ => "") 0 inOrder
    (EveryStep.of_stepByStep (by decide +kernel))

/-- A session builds its routes before a mailbox is created, and writes them
after another has written the mailbox's. -/
def overtaken : List (ℕ × RoutingStep) :=
  [(1, .begin), (1, .build), (0, .begin),
    (0, .change (.saveMailbox firstMailbox)), (0, .commit), (2, .begin),
    (2, .build)] ++ writes 2 ++ [(2, .rollback)] ++ writes 1 ++ [(1, .rollback)]

def overtakenWorld : RoutingWorld :=
  overtaken.foldl (RoutingWorld.next plainMail) (.start oneDomain (fun _ => "") 0)

theorem overtakenWorld_finished (caller : ℕ) : (overtakenWorld.calls caller).finished = true := by
  by_cases session : caller ∈ [0, 1, 2]
  · have all : ∀ caller ∈ [0, 1, 2],
        (overtakenWorld.calls caller).finished = true := by decide +kernel
    exact all caller session
  · have absent : ∀ move ∈ overtaken, move.1 ≠ caller := by
      have known : ∀ move ∈ overtaken, move.1 ∈ [0, 1, 2] := by decide
      exact fun move member same => session (same ▸ known move member)
    rw [overtakenWorld, Interleaved.calls_foldl absent]
    rfl

theorem overtaken_diverge : ¬ ∀ (settings : MailSettings) (committed : MailTables)
        (payloads : RoutingFileName → String) (now : ℤ) (moves : List (ℕ × RoutingStep)),
        EveryStep (fun before move after => after = RoutingWorld.next settings before move)
          (fun _ _ after => Converged settings after) (.start committed payloads now) moves := by
  intro always
  have converged : Converged plainMail overtakenWorld :=
    always plainMail oneDomain (fun _ => "") 0 overtaken
      overtaken.dropLast (1, .rollback) [] _ _ rfl (Run.of_foldl _ _ _) rfl
  have built : (overtakenWorld.shared.committed.buildMailRouting plainMail
      overtakenWorld.shared.now).toOption.map (fun routing => routing.payload .relayRecipients) =
      some "a@b OK\n" := by
    decide +kernel
  obtain ⟨routing, found, payload⟩ := Option.map_eq_some_iff.mp built
  have routes : overtakenWorld.shared.committed.buildMailRouting plainMail
      overtakenWorld.shared.now = .ok routing := by
    cases result : overtakenWorld.shared.committed.buildMailRouting plainMail
        overtakenWorld.shared.now with
    | error error => simp [result, Except.toOption] at found
    | ok other =>
      rw [result] at found
      rw [Option.some.inj found]
  have written := converged.files overtakenWorld_finished (by decide +kernel)
    routing routes .relayRecipients
  rw [payload] at written
  revert written
  decide +kernel

end Mail

end Ithute
