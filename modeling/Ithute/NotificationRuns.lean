import Ithute.Library.UniqueRows
import Ithute.NotificationService

/-!
# Runs of the notification service

Whatever the order of the statements of clients and workers, and wherever
workers crash, the committed status of a notification is the one that its
deliveries give.  The lock of the notification carries this from the read of
the statuses to the commit.
-/

namespace Ithute

open TransitionRuns InterleavedCalls UniqueRows

namespace Notifications

/-- What never changes of a notification and decides about a repeated key. -/
structure NotificationIdentity where
  id : ℕ
  sourceClientId : String
  idempotencyKey : Option String
  requestFingerprint : Option String

def Notification.identity (notification : Notification) : NotificationIdentity where
  id := notification.id
  sourceClientId := notification.sourceClientId
  idempotencyKey := notification.idempotencyKey
  requestFingerprint := notification.requestFingerprint

/-- The status is that of the deliveries, and its time is set with it. -/
structure Notification.Follows (notification : Notification)
    (statuses : List DeliveryStatus) : Prop where
  status : notification.status = derivedStatus statuses
  completedAt : notification.completedAt = none ↔ notification.status = .queued

/-- What the columns of a committed delivery say of each other. -/
structure NotificationDelivery.Kept (settings : NotificationSettings) (now : ℕ)
    (delivery : NotificationDelivery) : Prop where
  settled : delivery.status ≠ .processing
  remaining : delivery.isWaiting → delivery.attemptCount < max 1 settings.maxAttempts
  attempts : delivery.attemptCount ≤ max 1 settings.maxAttempts
  soon : delivery.nextAttemptAt ≤ now + 900 * second

namespace NotificationStore

variable {settings : NotificationSettings} {store after : NotificationStore}
variable {caller other : ℕ} {notification : Notification} {delivery : NotificationDelivery}

def identities (store : NotificationStore) : List NotificationIdentity :=
  store.notifications.map Notification.identity

structure Orderly (settings : NotificationSettings) (store : NotificationStore) : Prop where
  notifications : Issued Notification.id store.nextNotification store.notifications
  deliveries : Issued NotificationDelivery.id store.nextDelivery store.deliveries
  parents : ∀ row ∈ store.deliveries, row.notificationId ∈ store.notifications.map Notification.id
  keys : ∀ first ∈ store.identities, ∀ second ∈ store.identities,
    first.sourceClientId = second.sourceClientId →
      first.idempotencyKey = second.idempotencyKey → first.idempotencyKey ≠ none → first = second
  follows : ∀ row ∈ store.notifications, row.Follows (store.statusesOf row.id)
  kept : ∀ row ∈ store.deliveries, row.Kept settings store.now

/-- A worker that has the locks of a delivery and of its notification. -/
structure Attempt (store : NotificationStore) (caller : ℕ) (notification : Notification)
    (delivery : NotificationDelivery) : Prop where
  known : ∃ stored ∈ store.notifications, stored.identity = notification.identity
  parent : delivery.notificationId = notification.id
  parentLocked : store.notificationLock notification.id = some caller
  locked : store.deliveryLock delivery.id = some caller
  stored : ∃ stored ∈ store.deliveries, stored.id = delivery.id ∧ stored.isWaiting = true ∧
    stored.notificationId = delivery.notificationId ∧ stored.attemptCount + 1 = delivery.attemptCount

/-- An answer names a row with the key and the request, or tells of a row
with the key and another request. -/
def Answered (settings : NotificationSettings) (store : NotificationStore)
    (request : NotificationRequest) (key : Option String) : Answer → Prop
  | .refused status _ =>
    status = 409 → ∃ row ∈ store.identities, row.sourceClientId = request.sourceClientId ∧
      row.idempotencyKey = key ∧ row.requestFingerprint ≠ some (request.fingerprint settings)
  | .raised => False
  | .notification id _ =>
    { id := id, sourceClientId := request.sourceClientId, idempotencyKey := key
      requestFingerprint := key.map fun _ => request.fingerprint settings } ∈ store.identities

/-- What holds at each statement of a call. -/
def Fits (settings : NotificationSettings) (store : NotificationStore) (caller : ℕ) :
    Call → Prop
  | .selected delivery =>
    delivery ∈ store.deliveries ∧ delivery.isWaiting = true ∧
      store.deliveryLock delivery.id = some caller
  | .attempting notification delivery =>
    store.Attempt caller notification delivery ∧ delivery.nextAttemptAt ≤ store.now + 900 * second
  | .settled notification delivery =>
    store.Attempt caller notification delivery ∧ delivery.Kept settings store.now
  | .derived notification delivery =>
    store.Attempt caller notification delivery ∧ delivery.Kept settings store.now ∧
      notification.Follows ((store.writeDelivery delivery).statusesOf notification.id)
  | .clashed request key =>
    ∃ row ∈ store.notifications, row.sourceClientId = request.sourceClientId ∧
      row.idempotencyKey = some key
  | .answered request key answer => Answered settings store request key answer
  | .idle | .unseen _ _ => True

/-- What a step leaves alone of what another call has locked. -/
structure Spares (store after : NotificationStore) (other : ℕ) : Prop where
  now : store.now ≤ after.now
  identities : store.identities ⊆ after.identities
  deliveryLock : ∀ id, store.deliveryLock id = some other → after.deliveryLock id = some other
  notificationLock : ∀ id, store.notificationLock id = some other →
    after.notificationLock id = some other
  rows : ∀ row ∈ store.deliveries, store.deliveryLock row.id = some other → row ∈ after.deliveries
  siblings : ∀ id, store.notificationLock id = some other →
    id ∈ store.notifications.map Notification.id → after.deliveriesOf id = store.deliveriesOf id

theorem derivedStatus_of_waiting {rows : List NotificationDelivery} (member : delivery ∈ rows)
    (waits : delivery.isWaiting = true) :
    derivedStatus (rows.map NotificationDelivery.status) = .queued := by
  have inside : delivery.status ∈ rows.map NotificationDelivery.status := List.mem_map_of_mem member
  rw [NotificationDelivery.isWaiting, Bool.or_eq_true, decide_eq_true_eq, decide_eq_true_eq] at waits
  have unfinished : ¬ ∀ status ∈ rows.map NotificationDelivery.status, status = .delivered := by
    intro all
    have here := all delivery.status inside
    rcases waits with waits | waits <;> simp [waits] at here
  rw [derivedStatus, if_neg fun both => unfinished both.2, if_pos]
  rcases waits with waits | waits
  · exact .inl (waits ▸ inside)
  · exact .inr (.inl (waits ▸ inside))

theorem refreshStatus_follows (statuses : List DeliveryStatus) (now : ℕ) :
    (notification.refreshStatus statuses now).Follows statuses := by
  refine ⟨rfl, ?_⟩
  dsimp only [Notification.refreshStatus]
  split_ifs with queued <;> simp [queued]

theorem backoff_le (attempt : ℕ) : backoff attempt ≤ 900 * second :=
  Nat.mul_le_mul_right second (Nat.min_le_left ..)

theorem kept_later {now later : ℕ} (kept : delivery.Kept settings now)
    (le : now ≤ later) : delivery.Kept settings later :=
  ⟨kept.settled, kept.remaining, kept.attempts, kept.soon.trans (Nat.add_le_add_right le _)⟩

/-- A write of a delivery is one among those of its notification. -/
theorem deliveriesOf_writeDelivery (parent : ∀ row ∈ store.deliveries, row.id = delivery.id →
      row.notificationId = delivery.notificationId) (id : ℕ) :
    (store.writeDelivery delivery).deliveriesOf id = (store.deliveriesOf id).map fun row =>
      if row.id = delivery.id then delivery else row := by
  rw [deliveriesOf, deliveriesOf, writeDelivery, List.filter_map]
  congr 1
  apply List.filter_congr
  intro row member
  rw [Function.comp]
  split_ifs with same
  · rw [parent row member same]
  · rfl

theorem deliveriesOf_writeDelivery_of_ne (parent : ∀ row ∈ store.deliveries,
      row.id = delivery.id → row.notificationId = delivery.notificationId) {id : ℕ}
    (different : id ≠ delivery.notificationId) :
    (store.writeDelivery delivery).deliveriesOf id = store.deliveriesOf id := by
  rw [deliveriesOf_writeDelivery parent]
  refine (List.map_congr_left ?_).trans (List.map_id' _)
  intro row member
  obtain ⟨stored, owned⟩ := List.mem_filter.mp member
  rw [if_neg]
  intro same
  exact different ((of_decide_eq_true owned).symm.trans (parent row stored same))

theorem Attempt.parents (attempt : store.Attempt caller notification delivery)
    (orderly : store.Orderly settings) : ∀ row ∈ store.deliveries,
      row.id = delivery.id → row.notificationId = delivery.notificationId := by
  intro row member same
  obtain ⟨stored, storedMem, id, _, parent, _⟩ := attempt.stored
  rw [orderly.deliveries.eq_of_key member storedMem (same.trans id.symm), parent]

theorem Spares.refl : Spares store store other where
  now := Nat.le_refl _
  identities := List.Subset.refl _
  deliveryLock _ held := held
  notificationLock _ held := held
  rows _ member _ := member
  siblings _ _ _ := rfl

theorem Spares.trans {last : NotificationStore} (first : Spares store after other)
    (second : Spares after last other) : Spares store last other where
  now := first.now.trans second.now
  identities := List.Subset.trans first.identities second.identities
  deliveryLock id held := second.deliveryLock id (first.deliveryLock id held)
  notificationLock id held := second.notificationLock id (first.notificationLock id held)
  rows row member held := second.rows row (first.rows row member held) (first.deliveryLock _ held)
  siblings id held member := by
    obtain ⟨row, rowMem, same⟩ := List.mem_map.mp member
    obtain ⟨kept, keptMem, identity⟩ :=
      List.mem_map.mp (first.identities (List.mem_map_of_mem rowMem))
    have known := (congrArg NotificationIdentity.id identity).trans same
    rw [second.siblings id (first.notificationLock id held)
      (List.mem_map.mpr ⟨kept, keptMem, known⟩), first.siblings id held member]

theorem Attempt.spared (attempt : store.Attempt other notification delivery)
    (spares : Spares store after other) : after.Attempt other notification delivery := by
  obtain ⟨⟨parent, parentMem, identity⟩, owner, parentLocked, locked, stored, storedMem, same, rest⟩ :=
    attempt
  have kept := spares.identities (List.mem_map_of_mem parentMem)
  obtain ⟨row, rowMem, rowIdentity⟩ := List.mem_map.mp kept
  refine ⟨⟨row, rowMem, rowIdentity.trans identity⟩, owner, spares.notificationLock _ parentLocked,
    spares.deliveryLock _ locked, stored, spares.rows stored storedMem ?_, same, rest⟩
  rw [same]
  exact locked

theorem Answered.spared {request : NotificationRequest} {key : Option String} {answer : Answer}
    (answered : Answered settings store request key answer)
    (identities : store.identities ⊆ after.identities) :
    Answered settings after request key answer := by
  cases answer with
  | refused status detail =>
    intro conflict
    obtain ⟨row, member, rest⟩ := answered conflict
    exact ⟨row, identities member, rest⟩
  | raised => exact answered
  | notification id deduplicated => exact identities answered

/-- What a call asserts stays true through steps that spare it. -/
theorem Fits.spared {call : Call} (orderly : store.Orderly settings)
    (sound : after.Orderly settings) (spares : Spares store after other)
    (fits : Fits settings store other call) : Fits settings after other call := by
  cases call with
  | selected delivery =>
    obtain ⟨member, waits, locked⟩ := fits
    exact ⟨spares.rows delivery member locked, waits, spares.deliveryLock _ locked⟩
  | attempting notification delivery =>
    exact ⟨fits.1.spared spares, fits.2.trans (Nat.add_le_add_right spares.now _)⟩
  | settled notification delivery =>
    exact ⟨fits.1.spared spares, kept_later fits.2 spares.now⟩
  | derived notification delivery =>
    obtain ⟨attempt, kept, follows⟩ := fits
    have later := attempt.spared spares
    refine ⟨later, kept_later kept spares.now, ?_⟩
    obtain ⟨parent, parentMem, identity⟩ := attempt.known
    have same := spares.siblings notification.id attempt.parentLocked
      (List.mem_map.mpr ⟨parent, parentMem, congrArg NotificationIdentity.id identity⟩)
    rwa [statusesOf, deliveriesOf_writeDelivery (later.parents sound), same,
      ← deliveriesOf_writeDelivery (attempt.parents orderly)]
  | clashed request key =>
    obtain ⟨row, member, client, sameKey⟩ := fits
    obtain ⟨kept, keptMem, identity⟩ :=
      List.mem_map.mp (spares.identities (List.mem_map_of_mem member))
    refine ⟨kept, keptMem, ?_, ?_⟩
    · exact (congrArg NotificationIdentity.sourceClientId identity).trans client
    · exact (congrArg NotificationIdentity.idempotencyKey identity).trans sameKey
  | answered request key answer => exact Answered.spared fits spares.identities
  | idle | unseen => trivial

/-- Deliveries and notifications that are done with stay as they are. -/
structure Final (store after : NotificationStore) : Prop where
  deliveries : ∀ row ∈ store.deliveries, row.isWaiting = false → row ∈ after.deliveries
  notifications : ∀ row ∈ store.notifications, row.status ≠ .queued → row ∈ after.notifications

theorem Final.same (deliveries : after.deliveries = store.deliveries)
    (notifications : after.notifications = store.notifications) : Final store after :=
  ⟨fun _ member _ => deliveries ▸ member, fun _ member _ => notifications ▸ member⟩

theorem Spares.tick {passed : ℕ} :
    Spares store { store with now := store.now + passed } other :=
  { Spares.refl with now := Nat.le_add_right .. }

theorem Orderly.tick {passed : ℕ} (orderly : store.Orderly settings) :
    ({ store with now := store.now + passed } : NotificationStore).Orderly settings :=
  { orderly with
    kept := fun row member => kept_later (orderly.kept row member) (Nat.le_add_right ..) }

theorem mem_requestDeliveries {request : NotificationRequest} {parent first now : ℕ}
    (member : delivery ∈ request.deliveries parent first now) :
    delivery.notificationId = parent ∧ delivery.status = .pending ∧ delivery.attemptCount = 0 ∧
      delivery.nextAttemptAt = now ∧ first ≤ delivery.id := by
  obtain ⟨entry, entryMem, rfl⟩ := List.mem_map.mp member
  exact ⟨rfl, rfl, rfl, rfl, List.le_snd_of_mem_zipIdx entryMem⟩

theorem length_deliveries (request : NotificationRequest) (parent first now : ℕ) :
    (request.deliveries parent first now).length = request.channels.length := by
  rw [NotificationRequest.deliveries, List.length_map, List.length_zipIdx]

theorem ids_deliveries (request : NotificationRequest) (parent first now : ℕ) :
    (request.deliveries parent first now).map NotificationDelivery.id =
      List.range' first (request.deliveries parent first now).length := by
  rw [length_deliveries, NotificationRequest.deliveries, List.map_map]
  exact List.zipIdx_map_snd ..

section Create

variable {request : NotificationRequest} {key : Option String}

theorem deliveriesOf_create {id : ℕ} (different : id ≠ store.nextNotification) :
    (store.create settings request key).deliveriesOf id = store.deliveriesOf id := by
  rw [deliveriesOf, deliveriesOf, create, List.filter_append, List.append_right_eq_self,
    List.filter_eq_nil_iff]
  intro row member owned
  rw [(mem_requestDeliveries member).1] at owned
  exact different (of_decide_eq_true owned).symm

theorem identities_create : (store.create settings request key).identities =
    store.identities ++ [(request.row settings store.nextNotification key).identity] := by
  rw [identities, identities, create, List.map_append, List.map_singleton]

theorem Orderly.below (orderly : store.Orderly settings) {id : ℕ}
    (member : id ∈ store.notifications.map Notification.id) : id < store.nextNotification := by
  obtain ⟨row, rowMem, rfl⟩ := List.mem_map.mp member
  exact orderly.notifications.below row rowMem

/-- The deliveries of a new notification are pending, and there is one. -/
theorem statusesOf_create :
    derivedStatus ((store.create settings request key).statusesOf store.nextNotification) =
      .queued := by
  obtain ⟨channel, rest, channels⟩ := List.exists_cons_of_ne_nil request.channels_ne_nil
  have created : request.deliveries store.nextNotification store.nextDelivery store.now ≠ [] := by
    simp [NotificationRequest.deliveries, channels]
  obtain ⟨delivery, member⟩ := List.exists_mem_of_ne_nil _ created
  refine derivedStatus_of_waiting (List.mem_filter.mpr
    ⟨List.mem_append_right store.deliveries member, ?_⟩) ?_
  · exact decide_eq_true (mem_requestDeliveries member).1
  · rw [NotificationDelivery.isWaiting, (mem_requestDeliveries member).2.1]
    rfl

theorem Orderly.create (orderly : store.Orderly settings)
    (free : ∀ text, key = some text → store.existing request.sourceClientId text = none) :
    (store.create settings request key).Orderly settings where
  notifications := orderly.notifications.insert rfl
  deliveries := by
    have appended := orderly.deliveries.append
      (ids_deliveries request store.nextNotification store.nextDelivery store.now)
    rwa [length_deliveries] at appended
  parents row member := by
    rw [NotificationStore.create, List.map_append]
    rcases List.mem_append.mp member with old | new
    · exact List.mem_append_left _ (orderly.parents row old)
    · rw [(mem_requestDeliveries new).1]
      exact List.mem_append_right _ (List.mem_singleton.mpr rfl)
  keys := by
    have absent : ∀ row ∈ store.identities, row.sourceClientId = request.sourceClientId →
        row.idempotencyKey = key → key = none := by
      intro row member client same
      obtain ⟨stored, storedMem, rfl⟩ := List.mem_map.mp member
      cases present : key with
      | none => rfl
      | some text =>
        have missing := List.find?_eq_none.mp (free text present) stored storedMem
        rw [decide_eq_true_eq, ← present] at missing
        exact absurd ⟨client, same⟩ missing
    rw [identities_create]
    intro first firstMem second secondMem client same present
    rcases List.mem_append.mp firstMem with old | new
    · rcases List.mem_append.mp secondMem with old' | new'
      · exact orderly.keys first old second old' client same present
      · rw [List.mem_singleton.mp new'] at client same
        exact absurd (same.trans (absent first old client same)) present
    · rcases List.mem_append.mp secondMem with old' | new'
      · rw [List.mem_singleton.mp new] at client same present
        exact absurd (absent second old' client.symm same.symm) present
      · rw [List.mem_singleton.mp new, List.mem_singleton.mp new']
  follows row member := by
    rcases List.mem_append.mp member with old | new
    · have below := orderly.notifications.below row old
      rw [statusesOf, deliveriesOf_create (Nat.ne_of_lt below)]
      exact orderly.follows row old
    · rw [List.mem_singleton.mp new]
      exact ⟨statusesOf_create.symm, iff_of_true rfl rfl⟩
  kept row member := by
    rcases List.mem_append.mp member with old | new
    · exact orderly.kept row old
    · obtain ⟨_, status, attempts, next, _⟩ := mem_requestDeliveries new
      constructor
      · rw [status]
        nofun
      · omega
      · omega
      · rw [next]
        exact Nat.le_add_right ..

theorem Orderly.spares_create (orderly : store.Orderly settings) :
    Spares store (store.create settings request key) other :=
  { Spares.refl with
    identities := by
      rw [identities_create]
      exact List.subset_append_left ..
    rows := fun row member _ => List.mem_append_left _ member
    siblings := fun id _ member => deliveriesOf_create (Nat.ne_of_lt (orderly.below member)) }

theorem final_create : Final store (store.create settings request key) :=
  ⟨fun _ member _ => List.mem_append_left _ member, fun _ member _ => List.mem_append_left _ member⟩

end Create

section Locks

variable {id : ℕ}

theorem Spares.release (different : other ≠ caller) : Spares store (store.release caller) other :=
  { Spares.refl with
    deliveryLock := by
      intro id held
      dsimp only [NotificationStore.release]
      rw [held, if_neg fun same => different (Option.some.inj same)]
    notificationLock := by
      intro id held
      dsimp only [NotificationStore.release]
      rw [held, if_neg fun same => different (Option.some.inj same)] }

theorem Orderly.release (orderly : store.Orderly settings) :
    (store.release caller).Orderly settings :=
  { orderly with }

theorem Orderly.lockCandidates (orderly : store.Orderly settings) :
    (store.lockCandidates caller).Orderly settings :=
  { orderly with }

theorem Spares.lockCandidates : Spares store (store.lockCandidates caller) other :=
  { Spares.refl with
    deliveryLock := by
      intro id held
      dsimp only [NotificationStore.lockCandidates]
      split_ifs with free
      · obtain ⟨row, member, rfl⟩ := List.mem_map.mp free
        have unlocked := (List.mem_filter.mp member).2
        simp [held] at unlocked
      · exact held }

theorem Orderly.lockParent (orderly : store.Orderly settings) :
    (store.lockParent caller id).Orderly settings :=
  { orderly with }

theorem Spares.lockParent (free : store.notificationLock id = none) :
    Spares store (store.lockParent caller id) other :=
  { Spares.refl with
    notificationLock := by
      intro locked held
      dsimp only [NotificationStore.lockParent]
      rw [Function.update_of_ne, held]
      rintro rfl
      rw [free] at held
      cases held }

end Locks

section Commit

variable (attempt : store.Attempt caller notification delivery) (orderly : store.Orderly settings)

include attempt orderly

/-- The rows that a worker commits. -/
theorem Attempt.identities_write :
    ((store.writeDelivery delivery).writeNotification notification).identities =
      store.identities := by
  obtain ⟨stored, member, identity⟩ := attempt.known
  have sameId := congrArg NotificationIdentity.id identity
  exact map_column_replace orderly.notifications.unique member sameId.symm identity.symm

theorem Attempt.committed (kept : delivery.Kept settings store.now)
    (follows : notification.Follows ((store.writeDelivery delivery).statusesOf notification.id)) :
    (((store.writeDelivery delivery).writeNotification notification).release
      caller).Orderly settings where
  notifications := orderly.notifications.replace notification
  deliveries := orderly.deliveries.replace delivery
  parents := by
    have ids : ((store.writeDelivery delivery).writeNotification notification).notifications.map
        Notification.id = store.notifications.map Notification.id := map_key_replace notification
    obtain ⟨stored, storedMem, _, _, parent, _⟩ := attempt.stored
    change ∀ row ∈ (store.writeDelivery delivery).deliveries, row.notificationId ∈
      ((store.writeDelivery delivery).writeNotification notification).notifications.map
        Notification.id
    rw [ids]
    refine forall_replace (fun row member _ => orderly.parents row member) ?_
    rw [← parent]
    exact orderly.parents stored storedMem
  keys := by
    have keys := orderly.keys
    rwa [← attempt.identities_write orderly] at keys
  follows := by
    refine forall_replace (fun row member different => ?_) follows
    have apart : row.id ≠ delivery.notificationId := attempt.parent ▸ different
    change row.Follows ((store.writeDelivery delivery).statusesOf row.id)
    rw [statusesOf, deliveriesOf_writeDelivery_of_ne (attempt.parents orderly) apart]
    exact orderly.follows row member
  kept := forall_replace (fun row member _ => orderly.kept row member) kept

theorem Attempt.spares_write (different : other ≠ caller) :
    Spares store ((store.writeDelivery delivery).writeNotification notification) other :=
  { Spares.refl with
    identities := (attempt.identities_write orderly).symm ▸ List.Subset.refl _
    rows := by
      intro row member held
      refine List.mem_map.mpr ⟨row, member, if_neg ?_⟩
      intro same
      rw [same, attempt.locked] at held
      exact different (Option.some.inj held).symm
    siblings := by
      intro id held _
      refine deliveriesOf_writeDelivery_of_ne (attempt.parents orderly) ?_
      intro same
      rw [same, attempt.parent, attempt.parentLocked] at held
      exact different (Option.some.inj held).symm }

/-- A worker's delivery waits, so that its notification is queued. -/
theorem Attempt.final :
    Final store ((store.writeDelivery delivery).writeNotification notification) := by
  obtain ⟨stored, storedMem, same, waits, parent, _⟩ := attempt.stored
  constructor
  · intro row member done
    refine List.mem_map.mpr ⟨row, member, if_neg ?_⟩
    intro here
    rw [orderly.deliveries.eq_of_key member storedMem (here.trans same.symm), waits] at done
    cases done
  · intro row member done
    refine List.mem_map.mpr ⟨row, member, if_neg ?_⟩
    intro here
    refine done ((orderly.follows row member).status.trans ?_)
    refine derivedStatus_of_waiting (List.mem_filter.mpr ⟨storedMem, ?_⟩) waits
    exact decide_eq_true (parent.trans (attempt.parent.trans here.symm))

end Commit

end NotificationStore

end Notifications

end Ithute
