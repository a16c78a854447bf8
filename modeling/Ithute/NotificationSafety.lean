import Ithute.Library.TransitionRuns
import Ithute.NotificationRuns

/-!
# Safety of the notification service

Each statement keeps the tables in order, spares what other calls hold and
leaves alone what is done with.  From this come the statuses, the bounds on
waiting deliveries, and the answers to repeated keys.
-/

namespace Ithute

open TransitionRuns InterleavedCalls UniqueRows

namespace Notifications

namespace NotificationStore

variable {settings : NotificationSettings} {store : NotificationStore} {caller : ℕ}
variable {notification : Notification} {delivery : NotificationDelivery}
variable {request : NotificationRequest} {call following : Call} {step : Step}

/-- What a statement of a call leaves. -/
structure Leaves (settings : NotificationSettings) (step : Step) (store : NotificationStore)
    (caller : ℕ) (result : NotificationStore × Call) : Prop where
  orderly : result.1.Orderly settings
  fits : Fits settings result.1 caller result.2
  spares : ∀ other, other ≠ caller → Spares store result.1 other
  final : Final store result.1

theorem Leaves.of_call (orderly : store.Orderly settings) (fits : Fits settings store caller call) :
    Leaves settings step store caller (store, call) :=
  ⟨orderly, fits, fun _ _ => .refl, .same rfl rfl⟩

theorem existing_spec {clientId key : String}
    (found : store.existing clientId key = some notification) :
    notification ∈ store.notifications ∧ notification.sourceClientId = clientId ∧
      notification.idempotencyKey = some key :=
  find?_decide found

theorem answered_existing {key : String}
    (found : store.existing request.sourceClientId key = some notification) :
    Answered settings store request (some key) (answerExisting settings request notification) := by
  obtain ⟨member, client, same⟩ := existing_spec found
  rw [answerExisting]
  split_ifs with conflict
  · exact fun _ => ⟨notification.identity, List.mem_map_of_mem member, client, same, conflict⟩
  · rw [not_not] at conflict
    refine List.mem_map.mpr ⟨notification, member, ?_⟩
    rw [Notification.identity, client, same, conflict]
    rfl

theorem createNotification_leaves {clientId : String} {key : Option String}
    (orderly : store.Orderly settings) :
    Leaves settings step store caller
      (store, store.createNotification settings clientId request key) := by
  rw [createNotification]
  split_ifs with client
  · exact .of_call orderly (by simp [Fits, Answered])
  · cases normalizedKey key with
    | none => exact .of_call orderly (by simp [Fits, Answered])
    | some normalized =>
      cases normalized with
      | none => exact .of_call orderly True.intro
      | some text =>
        dsimp only
        split
        · exact .of_call orderly True.intro
        · rename_i existing found
          rw [← not_not.mp client] at found
          exact .of_call orderly (answered_existing found)

theorem create_leaves {key : Option String} (orderly : store.Orderly settings)
    (free : ∀ text, key = some text → store.existing request.sourceClientId text = none) :
    Leaves settings step store caller (store.create settings request key,
      .answered request key (.notification store.nextNotification false)) := by
  refine ⟨orderly.create free, ?_, fun _ _ => orderly.spares_create, final_create⟩
  change _ ∈ identities _
  rw [identities_create]
  exact List.mem_append_right _ (List.mem_singleton.mpr rfl)

theorem select_leaves {chosen : ℕ} (orderly : store.Orderly settings)
    (fits : Fits settings store caller .idle) :
    Leaves settings step store caller (perform settings caller (.select chosen) store .idle) := by
  dsimp only [perform]
  split
  · exact .of_call orderly fits
  · rename_i delivery found
    split_ifs with least
    · have member := List.mem_of_find?_eq_some found
      have selected := (List.mem_filter.mp member).2
      rw [Bool.and_eq_true, Bool.and_eq_true] at selected
      refine ⟨orderly.lockCandidates, ⟨(List.mem_filter.mp member).1, selected.1.1, ?_⟩,
        fun _ _ => .lockCandidates, .same rfl rfl⟩
      exact if_pos (List.mem_map_of_mem member)
    · exact .of_call orderly fits

theorem lockNotification_leaves (orderly : store.Orderly settings)
    (fits : Fits settings store caller (.selected delivery)) :
    Leaves settings step store caller
      (perform settings caller .lockNotification store (.selected delivery)) := by
  have ⟨member, waits, locked⟩ := fits
  dsimp only [perform]
  split
  · rename_i missing
    obtain ⟨parent, parentMem, same⟩ := List.mem_map.mp (orderly.parents delivery member)
    exact absurd (decide_eq_true same) (List.find?_eq_none.mp missing parent parentMem)
  · rename_i parent found
    split
    · exact .of_call orderly fits
    · rename_i free
      have same : parent.id = delivery.notificationId := by simpa using List.find?_some found
      refine ⟨orderly.lockParent, ⟨⟨?_, same.symm, ?_, locked, ?_⟩, ?_⟩,
        fun _ _ => .lockParent free, .same rfl rfl⟩
      · exact ⟨parent, List.mem_of_find?_eq_some found, rfl⟩
      · exact Function.update_self ..
      · exact ⟨delivery, member, rfl, waits, rfl, rfl⟩
      · exact (orderly.kept delivery member).soon

/-- What a provider tells does not change whose row it is. -/
theorem Attempt.write {saved : NotificationDelivery}
    (attempt : store.Attempt caller notification delivery) (id : saved.id = delivery.id)
    (parent : saved.notificationId = delivery.notificationId)
    (attempts : saved.attemptCount = delivery.attemptCount) :
    store.Attempt caller notification saved := by
  refine ⟨attempt.known, parent.trans attempt.parent, attempt.parentLocked, ?_, ?_⟩
  · rw [id]
    exact attempt.locked
  · rw [id, parent, attempts]
    exact attempt.stored

theorem Attempt.attempts (attempt : store.Attempt caller notification delivery)
    (orderly : store.Orderly settings) : delivery.attemptCount ≤ max 1 settings.maxAttempts := by
  obtain ⟨stored, member, _, waits, _, attempts⟩ := attempt.stored
  have remaining := (orderly.kept stored member).remaining waits
  omega

theorem fail_kept {error : String} {now : ℕ}
    (attempts : delivery.attemptCount ≤ max 1 settings.maxAttempts)
    (soon : delivery.nextAttemptAt ≤ now + 900 * second) :
    (delivery.fail settings error now).Kept settings now := by
  rw [NotificationDelivery.fail]
  split_ifs with last
  · exact ⟨nofun, nofun, attempts, soon⟩
  · exact ⟨nofun, fun _ => lt_max_of_lt_right (Nat.lt_of_not_le last), attempts,
      Nat.add_le_add_left (backoff_le _) now⟩

theorem fail_columns {error : String} {now : ℕ} :
    let failed := delivery.fail settings error now
    failed.id = delivery.id ∧ failed.notificationId = delivery.notificationId ∧
      failed.attemptCount = delivery.attemptCount := by
  rw [NotificationDelivery.fail]
  split_ifs <;> exact ⟨rfl, rfl, rfl⟩

theorem fail_leaves {error : String} (orderly : store.Orderly settings)
    (fits : Fits settings store caller (.attempting notification delivery)) :
    Leaves settings step store caller
      (store, .settled notification (delivery.fail settings error store.now)) := by
  obtain ⟨attempt, soon⟩ := fits
  obtain ⟨id, parent, attempts⟩ := @fail_columns settings delivery error store.now
  exact .of_call orderly ⟨attempt.write id parent attempts,
    fail_kept (attempt.attempts orderly) soon⟩

theorem succeed_leaves {reference : String} (orderly : store.Orderly settings)
    (fits : Fits settings store caller (.attempting notification delivery)) :
    Leaves settings step store caller
      (store, .settled notification (delivery.succeed reference store.now)) := by
  obtain ⟨attempt, soon⟩ := fits
  exact .of_call orderly ⟨attempt.write rfl rfl rfl, nofun, nofun, attempt.attempts orderly, soon⟩

theorem commit_leaves (orderly : store.Orderly settings)
    (fits : Fits settings store caller (.derived notification delivery)) :
    Leaves settings step store caller
      (perform settings caller .commit store (.derived notification delivery)) := by
  obtain ⟨attempt, kept, follows⟩ := fits
  have final := attempt.final orderly
  refine ⟨attempt.committed orderly kept follows, True.intro, ?_,
    ⟨final.deliveries, final.notifications⟩⟩
  intro other different
  exact (attempt.spares_write orderly different).trans (.release different)

theorem crash_leaves (orderly : store.Orderly settings) :
    Leaves settings step store caller (perform settings caller .crash store call) := by
  have result : perform settings caller .crash store call = (store.release caller, .idle) := by
    cases call <;> rfl
  rw [result]
  exact ⟨orderly.release, True.intro, fun _ different => .release different, .same rfl rfl⟩

/-- One case for each statement; elsewhere a call stays where it is. -/
theorem perform_leaves (orderly : store.Orderly settings) (fits : Fits settings store caller call) :
    Leaves settings step store caller (perform settings caller step store call) := by
  cases step with
  | tick passed =>
    exact ⟨orderly.tick, fits.spared orderly orderly.tick .tick, fun _ _ => .tick, .same rfl rfl⟩
  | createNotification clientId request key =>
    cases call with
    | idle => exact createNotification_leaves orderly
    | _ => exact .of_call orderly fits
  | insert =>
    cases call with
    | unseen request key =>
      cases key with
      | none => exact create_leaves orderly nofun
      | some key =>
        dsimp only [perform]
        split
        · rename_i existing found
          obtain ⟨member, client, same⟩ := existing_spec found
          exact .of_call orderly ⟨existing, member, client, same⟩
        · rename_i free
          exact create_leaves orderly fun text same => Option.some.inj same ▸ free
    | _ => exact .of_call orderly fits
  | lookUp =>
    cases call with
    | clashed request key =>
      dsimp only [perform]
      split
      · rename_i missing
        obtain ⟨row, member, both⟩ := fits
        exact absurd (decide_eq_true both) (List.find?_eq_none.mp missing row member)
      · rename_i existing found
        exact .of_call orderly (answered_existing found)
    | _ => exact .of_call orderly fits
  | select chosen =>
    cases call with
    | idle => exact select_leaves orderly fits
    | _ => exact .of_call orderly fits
  | lockNotification =>
    cases call with
    | selected delivery => exact lockNotification_leaves orderly fits
    | _ => exact .of_call orderly fits
  | deliver outcome =>
    cases call with
    | attempting notification delivery =>
      dsimp only [perform]
      split
      · exact fail_leaves orderly fits
      · split
        · exact fail_leaves orderly fits
        · exact succeed_leaves orderly fits
    | _ => exact .of_call orderly fits
  | readStatuses =>
    cases call with
    | settled notification delivery =>
      obtain ⟨attempt, kept⟩ := fits
      exact .of_call orderly ⟨⟨attempt.known, attempt.parent, attempt.parentLocked,
        attempt.locked, attempt.stored⟩, kept, refreshStatus_follows _ _⟩
    | _ => exact .of_call orderly fits
  | commit =>
    cases call with
    | derived notification delivery => exact commit_leaves orderly fits
    | _ => exact .of_call orderly fits
  | crash => exact crash_leaves orderly

end NotificationStore

open NotificationStore

/-- The calls of clients and workers and the tables they work on. -/
abbrev NotificationWorld := Interleaved ℕ NotificationStore Call

/-- The world after the statements of a run. -/
def NotificationWorld.reached (settings : NotificationSettings) (moves : List (ℕ × Step)) :
    NotificationWorld :=
  moves.foldl (Interleaved.act (perform settings)) { shared := {}, calls := fun _ => .idle }

namespace NotificationWorld

variable {settings : NotificationSettings} {world : NotificationWorld}

abbrev OrderlyWorld (settings : NotificationSettings) (world : NotificationWorld) : Prop :=
  Sound (Orderly settings) (Fits settings) world

theorem orderly_act {move : ℕ × Step} (sound : OrderlyWorld settings world) :
    OrderlyWorld settings (world.act (perform settings) move) := by
  have moved : Leaves settings move.2 world.shared move.1 _ :=
    perform_leaves sound.shared (sound.calls move.1)
  exact sound.act moved.orderly moved.fits fun other call different fits =>
    fits.spared sound.shared moved.orderly (moved.spares other different)

theorem reached_orderly (settings : NotificationSettings) (moves : List (ℕ × Step)) :
    OrderlyWorld settings (reached settings moves) := by
  refine (Run.of_foldl (Interleaved.act (perform settings)) moves _).invariant ?_ ?_
  · refine ⟨⟨.nil, .nil, ?_, ?_, ?_, ?_⟩, fun _ => True.intro⟩
    iterate 4 exact List.forall_mem_nil _
  · rintro before move after sound rfl
    exact orderly_act sound

theorem reached_concat (moves : List (ℕ × Step)) (move : ℕ × Step) :
    reached settings (moves ++ [move]) =
      (reached settings moves).act (perform settings) move :=
  List.foldl_append

def StatusesFollow (world : NotificationWorld) : Prop :=
  ∀ notification ∈ world.shared.notifications,
    notification.Follows (world.shared.statusesOf notification.id)

def DeliveriesKept (settings : NotificationSettings) (world : NotificationWorld) : Prop :=
  ∀ delivery ∈ world.shared.deliveries, delivery.Kept settings world.shared.now

/-- Whatever is committed in whatever order, and wherever workers crash, the
status of a notification is the one that its deliveries give. -/
theorem run_statusesFollow (settings : NotificationSettings) (moves : List (ℕ × Step)) :
    (reached settings moves).StatusesFollow :=
  (reached_orderly settings moves).shared.follows

/-- No committed delivery is stuck: it is done with, or it waits with attempts
left and is due within a quarter of an hour. -/
theorem run_deliveriesKept (settings : NotificationSettings) (moves : List (ℕ × Step)) :
    (reached settings moves).DeliveriesKept settings :=
  (reached_orderly settings moves).shared.kept

/-- What is done with at one moment of a run is there unchanged at any later
one. -/
theorem run_final (settings : NotificationSettings) (front back : List (ℕ × Step)) :
    Final (reached settings front).shared (reached settings (front ++ back)).shared := by
  induction back using List.reverseRecOn with
  | nil => exact .same (by rw [List.append_nil]) (by rw [List.append_nil])
  | append_singleton back move ih =>
    rw [← List.append_assoc, reached_concat]
    have sound := reached_orderly settings (front ++ back)
    have moved : Leaves settings move.2 _ move.1 _ :=
      perform_leaves sound.shared (sound.calls move.1)
    have final := moved.final
    constructor
    · intro row member done
      exact final.deliveries row (ih.deliveries row member done) done
    · intro row member done
      exact final.notifications row (ih.notifications row member done) done

/-- One key of a client stands for one notification and one request. -/
structure KeysIdempotent (settings : NotificationSettings) (world : NotificationWorld) : Prop where
  answers : ∀ first second firstRequest secondRequest key firstId secondId isFirst isSecond,
    world.calls first = .answered firstRequest (some key) (.notification firstId isFirst) →
    world.calls second = .answered secondRequest (some key) (.notification secondId isSecond) →
    firstRequest.sourceClientId = secondRequest.sourceClientId →
      firstId = secondId ∧ firstRequest.fingerprint settings = secondRequest.fingerprint settings
  conflicts : ∀ caller request key detail,
    world.calls caller = .answered request (some key) (.refused 409 detail) →
      ∃ row ∈ world.shared.identities, row.sourceClientId = request.sourceClientId ∧
        row.idempotencyKey = some key ∧
          row.requestFingerprint ≠ some (request.fingerprint settings)
  noError : ∀ caller request key, world.calls caller ≠ .answered request key .raised

/-- Requests that use a key at the same time are answered alike. -/
theorem run_keysIdempotent (settings : NotificationSettings) (moves : List (ℕ × Step)) :
    KeysIdempotent settings (reached settings moves) := by
  have sound := reached_orderly settings moves
  constructor
  · intro first second firstRequest secondRequest key firstId secondId _ _ isFirst isSecond client
    have one := sound.calls first
    have two := sound.calls second
    rw [isFirst] at one
    rw [isSecond] at two
    have same := sound.shared.keys _ one _ two client rfl (Option.some_ne_none key)
    injection same with ids _ _ fingerprints
    exact ⟨ids, Option.some.inj fingerprints⟩
  · intro caller request key detail isRefused
    have answered := sound.calls caller
    rw [isRefused] at answered
    exact answered rfl
  · intro caller request key isRaised
    have answered := sound.calls caller
    rw [isRaised] at answered
    exact answered

end NotificationWorld

end Notifications

end Ithute
