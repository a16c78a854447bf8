import Ithute.HardwareIncidents
import Ithute.Library.OwnedRows
import Ithute.Library.UniqueRows

/-!
# Incidents over whole runs

An ingestion holds the row of its agent from its flush to its commit, so the
incident that it has found is still the one of its server when it commits.
-/

namespace Ithute

open TransitionRuns InterleavedCalls UniqueRows

namespace Hardware

namespace HardwareTables

variable {prompts : Option ℤ} {lower : String → String} {tables after : HardwareTables}
variable {caller other : ℕ} {call following : IngestionCall}
variable {ingestion : Ingestion} {snapshotId serverId : ℕ}
variable {incident : Option HardwareIncident} {row : HardwareIncident}
variable {recipients : List (ℕ × DeliveryChannel)}

/-- An envelope whose snapshot is kept, or that is too old by now. -/
def Retained (lag : ℤ) (tables : HardwareTables) (envelope : HardwareEnvelope) : Prop :=
  (∃ snapshot ∈ tables.snapshots, snapshot.envelope.nonce = envelope.nonce ∧
        envelope.issuedAt - maxClockSkew - lag ≤ snapshot.createdAt) ∨
    envelope.issuedAt + retention - maxClockSkew - lag < tables.now

/-- The invariant of the tables; `prompts` is the lag with which every flush
has been prompt, if there is one. -/
structure OrderlyTables (prompts : Option ℤ) (tables : HardwareTables) : Prop where
  accepted : ∀ _ ∈ prompts, tables.accepted.Nodup
  retained : ∀ lag ∈ prompts, ∀ envelope ∈ tables.accepted, Retained lag tables envelope
  seen : ∀ serverId, ∀ at_ ∈ tables.lastSeen serverId, at_ ≤ tables.now
  issued : Issued HardwareIncident.id tables.nextId tables.incidents
  oneOpen : ∀ serverId, (tables.openIncidents serverId).length ≤ 1
  unique : tables.deliveries.Nodup
  known : ∀ row ∈ tables.deliveries, row.incidentId < tables.nextId
  notified : ∀ incident ∈ tables.incidents, incident.isOpen = true →
    incident.notificationSuppressed = false → ∀ owner ∈ tables.owners, ∀ channel,
      delivery incident.id (owner, channel) ∈ tables.deliveries

theorem OrderlyTables.kept (orderly : OrderlyTables prompts tables) : IncidentsKept tables where
  oneOpen := orderly.oneOpen
  notified incident member open_ loud owner ownerMem channel :=
    List.count_eq_one_of_mem orderly.unique
      (orderly.notified incident member open_ loud owner ownerMem channel)

structure Timed (tables : HardwareTables) (ingestion : Ingestion) : Prop where
  past : ingestion.now ≤ tables.now
  skew : ingestion.envelope.issuedAt - maxClockSkew ≤ ingestion.now
  updates : ingestion.updatesAgent = true

structure Holds (prompts : Option ℤ) (tables : HardwareTables) (caller : ℕ)
    (ingestion : Ingestion) : Prop where
  timed : Timed tables ingestion
  agent : tables.agentHolder ingestion.serverId = some caller
  nonce : tables.nonceHolder ingestion.envelope.nonce = some caller
  late : ∀ lag ∈ prompts, ingestion.envelope.issuedAt - maxClockSkew - lag ≤ ingestion.began
  fresh : ∀ _ ∈ prompts, ingestion.envelope ∉ tables.accepted

structure Queues (lower : String → String) (tables : HardwareTables)
    (ingestion : Ingestion) (incident : Option HardwareIncident)
    (recipients : List (ℕ × DeliveryChannel)) : Prop where
  apart : recipients.Nodup
  missing : ∀ row ∈ incident, ∀ recipient ∈ recipients,
    delivery row.id recipient ∉ tables.deliveries
  enough : ingestion.notifies lower incident = true →
    ∀ owner ∈ tables.owners, ∀ channel, (owner, channel) ∈ recipients ∨
      ∃ row ∈ incident, delivery row.id (owner, channel) ∈ tables.deliveries

def Awaits (prompts : Option ℤ) (lower : String → String)
    (tables : HardwareTables) (caller : ℕ) : IngestionCall → Prop
  | .idle | .ended => True
  | .received ingestion | .maintained ingestion => Timed tables ingestion
  | .flushed ingestion _ => Holds prompts tables caller ingestion
  | .found ingestion _ incident =>
    Holds prompts tables caller ingestion ∧ tables.activeIncident? ingestion.serverId = incident
  | .queued ingestion _ incident recipients =>
    Holds prompts tables caller ingestion ∧ tables.activeIncident? ingestion.serverId = incident ∧
      Queues lower tables ingestion incident recipients

theorem activeIncident?_mem (found : tables.activeIncident? serverId = some row) :
    row ∈ tables.incidents ∧ row.serverId = serverId ∧ row.isOpen = true := by
  have member := List.mem_of_mem_head? found
  rw [List.mem_insertionSort, openIncidents, List.mem_filter,
    Bool.and_eq_true, decide_eq_true_eq] at member
  exact member

theorem activeIncident?_eq_none (none : tables.activeIncident? serverId = none) :
    tables.openIncidents serverId = [] := by
  rw [activeIncident?, List.head?_eq_none_iff] at none
  have same := congrArg List.length none
  rw [List.length_insertionSort] at same
  exact List.length_eq_zero_iff.mp same

theorem activeIncident?_congr
    (same : after.openIncidents serverId = tables.openIncidents serverId) :
    after.activeIncident? serverId = tables.activeIncident? serverId := by
  rw [activeIncident?, activeIncident?, same]

theorem mem_owners (same : after.users = tables.users) : after.owners = tables.owners := by
  rw [owners, owners, same]

structure Leaves (tables after : HardwareTables) (caller : ℕ) : Prop where
  users : after.users = tables.users
  now : tables.now ≤ after.now
  agents : ∀ serverId other, other ≠ caller → tables.agentHolder serverId = some other →
    after.agentHolder serverId = some other
  nonces : ∀ nonce other, other ≠ caller → tables.nonceHolder nonce = some other →
    after.nonceHolder nonce = some other
  accepted : ∀ envelope ∈ after.accepted, envelope ∈ tables.accepted ∨
    tables.nonceHolder envelope.nonce = some caller
  incidents : ∀ serverId other, other ≠ caller → tables.agentHolder serverId = some other →
    after.activeIncident? serverId = tables.activeIncident? serverId
  deliveries : ∀ row ∈ tables.deliveries, row ∈ after.deliveries
  others : ∀ serverId other, other ≠ caller → tables.agentHolder serverId = some other →
    ∀ incident ∈ tables.activeIncident? serverId, ∀ recipient,
      delivery incident.id recipient ∈ after.deliveries →
      delivery incident.id recipient ∈ tables.deliveries

namespace Leaves

theorem of_locks (users : after.users = tables.users)
    (incidents : after.incidents = tables.incidents)
    (deliveries : after.deliveries = tables.deliveries)
    (accepted : after.accepted = tables.accepted) (now : tables.now ≤ after.now)
    (agents : ∀ serverId other, other ≠ caller → tables.agentHolder serverId = some other →
      after.agentHolder serverId = some other)
    (nonces : ∀ nonce other, other ≠ caller → tables.nonceHolder nonce = some other →
      after.nonceHolder nonce = some other) : Leaves tables after caller where
  users := users
  now := now
  agents := agents
  nonces := nonces
  accepted envelope member := .inl (accepted ▸ member)
  incidents serverId _ _ _ := by
    apply activeIncident?_congr
    rw [openIncidents, openIncidents, incidents]
  deliveries row member := deliveries ▸ member
  others _ _ _ _ _ _ _ member := deliveries ▸ member

theorem refl : Leaves tables tables caller :=
  .of_locks rfl rfl rfl rfl (Int.le_refl _) (fun _ _ _ held => held) fun _ _ _ held => held

variable (leaves : Leaves tables after caller)
include leaves

theorem timed (timed : Timed tables ingestion) : Timed after ingestion :=
  ⟨Int.le_trans timed.past leaves.now, timed.skew, timed.updates⟩

theorem holds (different : other ≠ caller)
    (holds : Holds prompts tables other ingestion) : Holds prompts after other ingestion where
  timed := leaves.timed holds.timed
  agent := leaves.agents _ other different holds.agent
  nonce := leaves.nonces _ other different holds.nonce
  late := holds.late
  fresh lag isLag member := by
    rcases leaves.accepted _ member with earlier | mine
    · exact holds.fresh lag isLag earlier
    · rw [holds.nonce, Option.some.injEq] at mine
      exact different mine

theorem awaits (different : other ≠ caller) (awaits : Awaits prompts lower tables other call) :
    Awaits prompts lower after other call := by
  cases call with
  | idle | ended => trivial
  | received ingestion | maintained ingestion => exact leaves.timed awaits
  | flushed ingestion snapshotId => exact leaves.holds different awaits
  | found ingestion snapshotId incident =>
    obtain ⟨holds, found⟩ := awaits
    exact ⟨leaves.holds different holds,
      (leaves.incidents _ other different holds.agent).trans found⟩
  | queued ingestion snapshotId incident recipients =>
    obtain ⟨holds, found, queues⟩ := awaits
    refine ⟨leaves.holds different holds,
      (leaves.incidents _ other different holds.agent).trans found, queues.apart, ?_, ?_⟩
    · intro row member recipient recipientMem there
      rw [← found] at member
      have before := leaves.others _ other different holds.agent row member recipient there
      rw [found] at member
      exact queues.missing row member recipient recipientMem before
    · intro notifies owner ownerMem channel
      rw [mem_owners leaves.users] at ownerMem
      rcases queues.enough notifies owner ownerMem channel with
        queued | ⟨row, member, there⟩
      · exact .inl queued
      · exact .inr ⟨row, member, leaves.deliveries _ there⟩

end Leaves

structure Moves (prompts : Option ℤ) (lower : String → String)
    (tables : HardwareTables) (caller : ℕ) (result : HardwareTables × IngestionCall) : Prop where
  leaves : Leaves tables result.1 caller
  orderly : OrderlyTables prompts result.1
  awaits : Awaits prompts lower result.1 caller result.2

theorem Moves.of_call (orderly : OrderlyTables prompts tables)
    (awaits : Awaits prompts lower tables caller following) :
    Moves prompts lower tables caller (tables, following) :=
  ⟨.refl, orderly, awaits⟩

theorem OrderlyTables.later (orderly : OrderlyTables prompts tables)
    {now : ℤ} (le : tables.now ≤ now) : OrderlyTables prompts { tables with now := now } where
  accepted := orderly.accepted
  retained lag isLag envelope member := by
    rcases orderly.retained lag isLag envelope member with kept | old
    · exact .inl kept
    · exact .inr (Int.lt_of_lt_of_le old le)
  seen serverId at_ member := Int.le_trans (orderly.seen serverId at_ member) le
  issued := orderly.issued
  oneOpen := orderly.oneOpen
  unique := orderly.unique
  known := orderly.known
  notified := orderly.notified

theorem Leaves.later {now : ℤ} (le : tables.now ≤ now) :
    Leaves tables { tables with now := now } caller :=
  .of_locks rfl rfl rfl rfl le (fun _ _ _ held => held) fun _ _ _ held => held

/-- A step that changes no more than the clock and the windows leaves also
its own call. -/
theorem Moves.of_later (orderly : OrderlyTables prompts after)
    (leaves : ∀ caller, Leaves tables after caller)
    (awaits : Awaits prompts lower tables caller call) :
    Moves prompts lower tables caller (after, call) :=
  ⟨leaves caller, orderly, (leaves (caller + 1)).awaits (Nat.ne_of_lt (Nat.lt_succ_self caller))
      awaits⟩

theorem perform_windows {windows : List HardwareMaintenanceWindow}
    (orderly : OrderlyTables prompts tables) (awaits : Awaits prompts lower tables caller call) :
    Moves prompts lower tables caller ({ tables with windows := windows }, call) := by
  refine .of_later ?_ (fun _ => .of_locks rfl rfl rfl rfl (Int.le_refl _)
    (fun _ _ _ held => held) fun _ _ _ held => held) awaits
  exact { orderly with
    retained := orderly.retained
    oneOpen := orderly.oneOpen
    notified := orderly.notified }

theorem perform_receive {envelope : HardwareEnvelope} {verified : Bool}
    {health : HealthStatus} {prediction : Prediction} {elapsed : ℕ}
    (orderly : OrderlyTables prompts tables) (awaits : Awaits prompts lower tables caller call) :
    Moves prompts lower tables caller
      (perform lower caller
        (.receive envelope verified health prediction elapsed) tables call) := by
  cases call with
  | idle =>
    have le : tables.now ≤ tables.now + 1 := by omega
    dsimp only [perform]
    split_ifs with checked
    · rw [Bool.and_eq_true, decide_eq_true_eq] at checked
      refine ⟨.later le, orderly.later le, Int.le_refl _, ?_, ?_⟩
      · have within := abs_le.mp checked.2
        dsimp only
        omega
      · rw [Ingestion.updatesAgent, decide_eq_true_eq]
        intro same
        have before := orderly.seen envelope.serverId _ same
        dsimp only at before
        omega
    · exact ⟨.later le, orderly.later le, trivial⟩
  | _ => exact .of_call orderly awaits

theorem perform_readMaintenance (orderly : OrderlyTables prompts tables)
    (awaits : Awaits prompts lower tables caller call) : Moves prompts lower tables caller
      (perform lower caller .readMaintenance tables call) := by
  cases call with
  | received ingestion => exact .of_call orderly ⟨awaits.past, awaits.skew, awaits.updates⟩
  | _ => exact .of_call orderly awaits

theorem perform_tick {passed : ℕ} (orderly : OrderlyTables prompts tables)
    (awaits : Awaits prompts lower tables caller call) : Moves prompts lower tables caller
      (perform lower caller (.tick passed) tables call) :=
  have le : tables.now ≤ tables.now + passed :=
    Int.le_add_of_nonneg_right (Int.natCast_nonneg passed)
  .of_later (orderly.later le) (fun _ => .later le) awaits

theorem unblocked (free : ¬ tables.blocks caller ingestion = true)
    (updates : ingestion.updatesAgent = true) : (∀ other,
      tables.nonceHolder ingestion.envelope.nonce = some other → other = caller) ∧
    ∀ other, tables.agentHolder ingestion.serverId = some other → other = caller := by
  constructor
  · intro other held
    by_contra different
    exact free (by simp [blocks, held, different])
  · intro other held
    by_contra different
    exact free (by simp [blocks, held, different, updates])

theorem Leaves.hold (free : ¬ tables.blocks caller ingestion = true)
    (updates : ingestion.updatesAgent = true) :
    Leaves tables (tables.hold caller ingestion) caller := by
  obtain ⟨nonceFree, agentFree⟩ := unblocked free updates
  refine .of_locks rfl rfl rfl rfl (Int.le_refl _) ?_ ?_
  · intro serverId other different held
    have apart : serverId ≠ ingestion.serverId := by
      rintro rfl
      exact different (agentFree other held)
    simp only [HardwareTables.hold, updates, if_true]
    rw [Function.update_of_ne apart]
    exact held
  · intro nonce other different held
    have apart : nonce ≠ ingestion.envelope.nonce := by
      rintro rfl
      exact different (nonceFree other held)
    simp only [HardwareTables.hold]
    rw [Function.update_of_ne apart]
    exact held

theorem OrderlyTables.hold (orderly : OrderlyTables prompts tables) :
    OrderlyTables prompts (tables.hold caller ingestion) where
  accepted := orderly.accepted
  retained := orderly.retained
  seen := orderly.seen
  issued := orderly.issued.mono (Nat.le_succ _)
  oneOpen := orderly.oneOpen
  unique := orderly.unique
  known row member := Nat.lt_succ_of_lt (orderly.known row member)
  notified := orderly.notified

theorem perform_flush (orderly : OrderlyTables prompts tables)
    (awaits : Awaits prompts lower tables caller call)
    (soon : ∀ lag ∈ prompts, ∀ ingestion ∈ call.maintained?, ingestion.now ≤ ingestion.began + lag ∧
      tables.now ≤ ingestion.envelope.issuedAt + retention - maxClockSkew - lag) :
    Moves prompts lower tables caller (perform lower caller .flush tables call) := by
  cases call with
  | maintained ingestion =>
    dsimp only [perform]
    split_ifs with blocked used
    · exact .of_call orderly awaits
    · exact .of_call orderly trivial
    · refine ⟨.hold blocked awaits.updates, orderly.hold,
        ⟨awaits.past, awaits.skew, awaits.updates⟩, ?_, ?_, ?_, ?_⟩
      · simp [HardwareTables.hold, awaits.updates]
      · simp [HardwareTables.hold]
      · intro lag isLag
        have quick := (soon lag isLag ingestion rfl).1
        have skew := awaits.skew
        omega
      · intro lag isLag earlier
        rcases orderly.retained lag isLag _ earlier with kept | old
        · obtain ⟨snapshot, member, same, _⟩ := kept
          exact used (List.any_eq_true.mpr ⟨snapshot, member, decide_eq_true same⟩)
        · have early := (soon lag isLag ingestion rfl).2
          omega
  | _ => exact .of_call orderly awaits

theorem perform_findIncident (orderly : OrderlyTables prompts tables)
    (awaits : Awaits prompts lower tables caller call) : Moves prompts lower tables caller
      (perform lower caller .findIncident tables call) := by
  cases call with
  | flushed ingestion snapshotId => exact .of_call orderly ⟨awaits, rfl⟩
  | _ => exact .of_call orderly awaits

theorem nodup_owners : tables.owners.Nodup := by
  have keys : (tables.users.entries.map Sigma.fst).Nodup := tables.users.nodupKeys
  exact keys.sublist (List.filter_sublist.map Sigma.fst)

theorem nodup_recipients : (tables.owners.flatMap fun owner =>
    [(owner, DeliveryChannel.email), (owner, DeliveryChannel.push)]).Nodup := by
  rw [List.nodup_flatMap]
  refine ⟨fun owner _ => by simp, nodup_owners.imp ?_⟩
  intro first second different recipient here there
  simp only [List.mem_cons, List.not_mem_nil, or_false] at here there
  rcases here with rfl | rfl <;> rcases there with same | same <;> cases same <;>
    exact different rfl

theorem mem_recipients {owner : ℕ} (member : owner ∈ tables.owners) (channel : DeliveryChannel) :
    (owner, channel) ∈ tables.owners.flatMap fun owner =>
      [(owner, DeliveryChannel.email), (owner, DeliveryChannel.push)] := by
  refine List.mem_flatMap.mpr ⟨owner, member, ?_⟩
  cases channel <;> simp

theorem queues_missing : Queues lower tables ingestion incident
      (if ingestion.notifies lower incident then tables.missingRecipients incident
      else []) := by
  split_ifs with notifies
  · cases incident with
    | none =>
      refine ⟨nodup_recipients, nofun, ?_⟩
      intro _ owner member channel
      exact .inl (mem_recipients member channel)
    | some row =>
      refine ⟨nodup_recipients.filter _, ?_, ?_⟩
      · intro other same recipient member
        cases same
        exact of_decide_eq_true (List.mem_filter.mp member).2
      · intro _ owner member channel
        by_cases there : delivery row.id (owner, channel) ∈ tables.deliveries
        · exact .inr ⟨row, rfl, there⟩
        · exact .inl (List.mem_filter.mpr ⟨mem_recipients member channel, decide_eq_true there⟩)
  · exact ⟨List.nodup_nil, fun _ _ _ member => absurd member List.not_mem_nil,
      fun here => absurd here notifies⟩

theorem perform_queueDeliveries (orderly : OrderlyTables prompts tables)
    (awaits : Awaits prompts lower tables caller call) : Moves prompts lower tables caller
      (perform lower caller .queueDeliveries tables call) := by
  cases call with
  | found ingestion snapshotId incident =>
    exact .of_call orderly ⟨awaits.1, awaits.2, queues_missing⟩
  | _ => exact .of_call orderly awaits

theorem Leaves.release : Leaves tables (tables.release caller) caller := by
  refine .of_locks rfl rfl rfl rfl (Int.le_refl _) ?_ ?_
  · intro serverId other different held
    have apart : tables.agentHolder serverId ≠ some caller := by
      rw [held]
      exact fun same => different (Option.some.inj same)
    exact (if_neg apart).trans held
  · intro nonce other different held
    have apart : tables.nonceHolder nonce ≠ some caller := by
      rw [held]
      exact fun same => different (Option.some.inj same)
    exact (if_neg apart).trans held

theorem OrderlyTables.release (orderly : OrderlyTables prompts tables) :
    OrderlyTables prompts (tables.release caller) :=
  { orderly with
    retained := orderly.retained
    oneOpen := orderly.oneOpen
    notified := orderly.notified }

theorem perform_abort (orderly : OrderlyTables prompts tables)
    (awaits : Awaits prompts lower tables caller call) :
    Moves prompts lower tables caller (perform lower caller .abort tables call) := by
  cases call with
  | idle => exact .of_call orderly awaits
  | _ => exact ⟨.release, orderly.release, trivial⟩

def written (lower : String → String) (ingestion : Ingestion)
    (snapshotId id : ℕ) (other : HardwareIncident) : HardwareIncident :=
  if other.id = id then
    if ingestion.activeRisk lower then
      ingestion.refresh lower snapshotId other
    else ingestion.resolve snapshotId other
  else other

section Written

variable {id : ℕ} {stored : HardwareIncident}

@[simp] theorem written_id : (written lower ingestion snapshotId id stored).id = stored.id := by
  unfold written
  split_ifs <;> rfl

@[simp] theorem written_serverId : (written lower ingestion snapshotId id stored).serverId =
      stored.serverId := by
  unfold written
  split_ifs <;> rfl

theorem written_isOpen (open_ : (written lower ingestion snapshotId id stored).isOpen = true) :
    stored.isOpen = true := by
  unfold written at open_
  split_ifs at open_ with same active
  · exact open_
  · cases open_
  · exact open_

theorem reconciled_some : tables.reconciled lower ingestion snapshotId (some row) =
      tables.incidents.map (written lower ingestion snapshotId row.id) :=
  rfl

end Written

theorem issued_reconciled (orderly : OrderlyTables prompts tables) :
    Issued HardwareIncident.id (tables.nextId + 1)
      (tables.reconciled lower ingestion snapshotId incident) := by
  cases incident with
  | none =>
    dsimp only [reconciled]
    split_ifs
    · exact orderly.issued.insert rfl
    · exact orderly.issued.mono (Nat.le_succ _)
  | some row =>
    rw [reconciled_some]
    exact (orderly.issued.map fun _ _ => written_id).mono (Nat.le_succ _)

theorem openIncidents_other (orderly : OrderlyTables prompts tables)
    (found : tables.activeIncident? ingestion.serverId = incident)
    (different : serverId ≠ ingestion.serverId) :
    (tables.reconciled lower ingestion snapshotId incident).filter
        (fun row => row.serverId = serverId && row.isOpen) = tables.openIncidents serverId := by
  cases incident with
  | none =>
    dsimp only [reconciled]
    split_ifs
    · refine OwnedRows.filter_append_of_other ?_
      simp [Ingestion.newIncident, different.symm]
    · rfl
  | some row =>
    obtain ⟨member, server, _⟩ := activeIncident?_mem found
    rw [reconciled_some, openIncidents]
    refine OwnedRows.filter_map_of_kept ?_ ?_
    · intro stored storedMem selected
      rw [Bool.and_eq_true, decide_eq_true_eq] at selected
      have apart : stored.id ≠ row.id := by
        intro same
        rw [orderly.issued.eq_of_key storedMem member same, server] at selected
        exact different selected.1.symm
      exact if_neg apart
    · intro stored storedMem unselected
      rw [← Bool.not_eq_true, Bool.and_eq_true, decide_eq_true_eq] at unselected ⊢
      rw [written_serverId]
      exact fun both => unselected ⟨both.1, written_isOpen both.2⟩

theorem openIncidents_own (orderly : OrderlyTables prompts tables)
    (found : tables.activeIncident? ingestion.serverId = incident) :
    ((tables.reconciled lower ingestion snapshotId incident).filter
        fun row => row.serverId = ingestion.serverId && row.isOpen).length ≤ 1 := by
  cases incident with
  | none =>
    have empty := activeIncident?_eq_none found
    rw [openIncidents] at empty
    dsimp only [reconciled]
    split_ifs
    · rw [List.filter_append, empty, List.nil_append]
      exact List.length_filter_le _ _
    · rw [empty]
      exact Nat.zero_le 1
  | some row =>
    refine Nat.le_trans ?_ (orderly.oneOpen ingestion.serverId)
    rw [reconciled_some, openIncidents, ← List.countP_eq_length_filter,
      ← List.countP_eq_length_filter, List.countP_map]
    refine List.countP_mono_left ?_
    intro stored _ selected
    simp only [Function.comp_apply, written_serverId, Bool.and_eq_true] at selected ⊢
    exact ⟨selected.1, written_isOpen selected.2⟩

theorem delivery_injective (id : ℕ) : Function.Injective (delivery id) := by
  rintro ⟨_, _⟩ ⟨_, _⟩ same
  cases same
  rfl

def incidentId (tables : HardwareTables) (incident : Option HardwareIncident) : ℕ :=
  (incident.map HardwareIncident.id).getD tables.nextId

theorem unique_deliveries (orderly : OrderlyTables prompts tables)
    (queues : Queues lower tables ingestion incident recipients) : (tables.deliveries ++
      recipients.map (delivery (tables.incidentId incident))).Nodup := by
  refine List.nodup_append.mpr ⟨orderly.unique, queues.apart.map (delivery_injective _), ?_⟩
  rintro row member added addedMem rfl
  obtain ⟨recipient, recipientMem, rfl⟩ := List.mem_map.mp addedMem
  cases incident with
  | none => exact Nat.lt_irrefl _ (orderly.known _ member)
  | some row => exact queues.missing row rfl recipient recipientMem member

theorem known_deliveries (orderly : OrderlyTables prompts tables)
    (found : tables.activeIncident? ingestion.serverId = incident) {row : HardwareIncidentDelivery}
    (member : row ∈ tables.deliveries ++ recipients.map (delivery (tables.incidentId incident))) :
    row.incidentId < tables.nextId + 1 := by
  rcases List.mem_append.mp member with earlier | added
  · exact Nat.lt_succ_of_lt (orderly.known row earlier)
  · obtain ⟨recipient, _, rfl⟩ := List.mem_map.mp added
    cases incident with
    | none => exact Nat.lt_succ_self _
    | some row =>
      exact Nat.lt_succ_of_lt (orderly.issued.below row (activeIncident?_mem found).1)

theorem notified_reconciled (orderly : OrderlyTables prompts tables)
    (found : tables.activeIncident? ingestion.serverId = incident)
    (queues : Queues lower tables ingestion incident recipients) (member : row ∈
      tables.reconciled lower ingestion snapshotId incident)
    (open_ : row.isOpen = true) (loud : row.notificationSuppressed = false)
    {owner : ℕ} (ownerMem : owner ∈ tables.owners) (channel : DeliveryChannel) :
    delivery row.id (owner, channel) ∈ tables.deliveries ++
      recipients.map (delivery (tables.incidentId incident)) := by
  cases incident with
  | none =>
    dsimp only [reconciled] at member
    split_ifs at member with active
    · rcases List.mem_append.mp member with earlier | new
      · exact List.mem_append_left _
          (orderly.notified row earlier open_ loud owner ownerMem channel)
      · rw [List.mem_singleton] at new
        subst new
        have notifies : ingestion.notifies lower none = true := by
          have unsuppressed : ingestion.suppressed = false := loud
          simp [Ingestion.notifies, active, unsuppressed]
        rcases queues.enough notifies owner ownerMem channel with
          queued | ⟨_, absent, _⟩
        · exact List.mem_append_right _ (List.mem_map_of_mem queued)
        · cases absent
    · exact List.mem_append_left _ (orderly.notified row member open_ loud owner ownerMem channel)
  | some stored =>
    rw [reconciled_some] at member
    obtain ⟨earlier, earlierMem, rfl⟩ := List.mem_map.mp member
    rw [written_id]
    have wasOpen := written_isOpen open_
    by_cases same : earlier.id = stored.id
    · have here := orderly.issued.eq_of_key earlierMem (activeIncident?_mem found).1 same
      subst here
      simp only [written, if_true] at open_ loud
      split_ifs at open_ loud with active
      · have unsuppressed : ingestion.suppressed = false := loud
        cases before : earlier.notificationSuppressed with
        | false =>
          exact List.mem_append_left _ (orderly.notified earlier
            earlierMem wasOpen before owner ownerMem channel)
        | true =>
          have notifies : ingestion.notifies lower (some earlier) = true := by
            simp [Ingestion.notifies, active, unsuppressed, before]
          rcases queues.enough notifies owner ownerMem channel with
            queued | ⟨_, only, there⟩
          · exact List.mem_append_right _ (List.mem_map_of_mem queued)
          · cases only
            exact List.mem_append_left _ there
      · cases open_
    · rw [written, if_neg same] at loud
      exact List.mem_append_left _ (orderly.notified earlier earlierMem
        wasOpen loud owner ownerMem channel)

/-- The deletion of old snapshots keeps those of envelopes that could still
be accepted. -/
theorem retained_accept (orderly : OrderlyTables prompts tables)
    (holds : Holds prompts tables caller ingestion) {lag : ℤ} (isLag : lag ∈ prompts)
    {envelope : HardwareEnvelope} (member : envelope ∈ tables.accepted ++ [ingestion.envelope]) :
    Retained lag (tables.accept lower caller ingestion snapshotId incident recipients)
      envelope := by
  have inserted : (∃ snapshot ∈ tables.snapshots ++ [ingestion.snapshot snapshotId],
      snapshot.envelope.nonce = envelope.nonce ∧
        envelope.issuedAt - maxClockSkew - lag ≤ snapshot.createdAt) ∨
      envelope.issuedAt + retention - maxClockSkew - lag < tables.now := by
    rcases List.mem_append.mp member with earlier | last
    · rcases orderly.retained lag isLag envelope earlier with kept | old
      · obtain ⟨snapshot, snapshotMem, about⟩ := kept
        exact .inl ⟨snapshot, List.mem_append_left _ snapshotMem, about⟩
      · exact .inr old
    · rw [List.mem_singleton.mp last]
      exact .inl ⟨_, List.mem_append_right _ (List.mem_singleton_self _), rfl,
        holds.late lag isLag⟩
  rcases inserted with ⟨snapshot, snapshotMem, same, late⟩ | old
  · by_cases deleted : snapshot.createdAt < ingestion.now - retention
    · have past := holds.timed.past
      refine .inr ?_
      change envelope.issuedAt + retention - maxClockSkew - lag < tables.now
      omega
    · refine .inl ⟨snapshot, List.mem_filter.mpr ⟨snapshotMem, ?_⟩, same, late⟩
      simp [deleted]
  · exact .inr old

theorem OrderlyTables.accept (orderly : OrderlyTables prompts tables)
    (holds : Holds prompts tables caller ingestion)
    (found : tables.activeIncident? ingestion.serverId = incident)
    (queues : Queues lower tables ingestion incident recipients) :
    OrderlyTables prompts (tables.accept lower caller ingestion snapshotId incident
      recipients) where
  accepted lag isLag := by
    refine List.nodup_append.mpr ⟨orderly.accepted lag isLag, List.nodup_singleton _, ?_⟩
    rintro envelope earlier other last rfl
    rw [List.mem_singleton.mp last] at earlier
    exact holds.fresh lag isLag earlier
  retained lag isLag envelope member := retained_accept orderly holds isLag member
  seen serverId at_ member := by
    have updated : Function.update tables.lastSeen ingestion.serverId
        (some ingestion.now) serverId = some at_ := member
    by_cases own : serverId = ingestion.serverId
    · rw [own, Function.update_self] at updated
      cases updated
      exact holds.timed.past
    · rw [Function.update_of_ne own] at updated
      exact orderly.seen serverId at_ updated
  issued := issued_reconciled orderly
  oneOpen serverId := by
    by_cases own : serverId = ingestion.serverId
    · rw [own]
      exact openIncidents_own orderly found
    · exact Nat.le_trans (Nat.le_of_eq (congrArg List.length
          (openIncidents_other orderly found own)))
        (orderly.oneOpen serverId)
  unique := unique_deliveries orderly queues
  known row member := known_deliveries orderly found member
  notified row member open_ loud owner ownerMem channel :=
    notified_reconciled orderly found queues member open_ loud ownerMem channel

theorem Leaves.accept (orderly : OrderlyTables prompts tables)
    (holds : Holds prompts tables caller ingestion)
    (found : tables.activeIncident? ingestion.serverId = incident) :
    Leaves tables (tables.accept lower caller ingestion snapshotId incident recipients) caller where
  users := rfl
  now := Int.le_refl _
  agents := Leaves.release.agents
  nonces := Leaves.release.nonces
  accepted envelope member := by
    rcases List.mem_append.mp member with earlier | last
    · exact .inl earlier
    · rw [List.mem_singleton.mp last]
      exact .inr holds.nonce
  incidents serverId other different held := by
    have apart : serverId ≠ ingestion.serverId := by
      rintro rfl
      rw [holds.agent, Option.some.injEq] at held
      exact different held.symm
    exact activeIncident?_congr (openIncidents_other orderly found apart)
  deliveries row member := List.mem_append_left _ member
  others serverId other different held row rowMem recipient there := by
    rcases List.mem_append.mp there with earlier | added
    · exact earlier
    · obtain ⟨added, _, same⟩ := List.mem_map.mp added
      have ids : tables.incidentId incident = row.id :=
        congrArg HardwareIncidentDelivery.incidentId same
      obtain ⟨member, server, _⟩ := activeIncident?_mem rowMem
      cases incident with
      | none =>
        have below := orderly.issued.below row member
        rw [← ids] at below
        exact absurd below (Nat.lt_irrefl _)
      | some stored =>
        obtain ⟨storedMem, storedServer, _⟩ := activeIncident?_mem found
        have equal := orderly.issued.eq_of_key storedMem member ids
        rw [equal, server] at storedServer
        rw [storedServer, holds.agent, Option.some.injEq] at held
        exact absurd held.symm different

theorem perform_commit (orderly : OrderlyTables prompts tables)
    (awaits : Awaits prompts lower tables caller call) :
    Moves prompts lower tables caller (perform lower caller .commit tables call) := by
  cases call with
  | queued ingestion snapshotId incident recipients =>
    obtain ⟨holds, found, queues⟩ := awaits
    exact ⟨.accept orderly holds found, orderly.accept holds found queues, trivial⟩
  | _ => exact .of_call orderly awaits

theorem perform_moves {step : IngestionStep} (orderly : OrderlyTables prompts tables)
    (awaits : Awaits prompts lower tables caller call)
    (soon : ∀ lag ∈ prompts, step = .flush → ∀ ingestion ∈ call.maintained?,
      ingestion.now ≤ ingestion.began + lag ∧
        tables.now ≤ ingestion.envelope.issuedAt + retention - maxClockSkew - lag) :
    Moves prompts lower tables caller (perform lower caller step tables call) := by
  cases step with
  | tick passed => exact perform_tick orderly awaits
  | createMaintenanceWindow | cancelMaintenanceWindow => exact perform_windows orderly awaits
  | receive => exact perform_receive orderly awaits
  | readMaintenance => exact perform_readMaintenance orderly awaits
  | flush => exact perform_flush orderly awaits fun lag isLag => soon lag isLag rfl
  | findIncident => exact perform_findIncident orderly awaits
  | queueDeliveries => exact perform_queueDeliveries orderly awaits
  | commit => exact perform_commit orderly awaits
  | abort => exact perform_abort orderly awaits

end HardwareTables

open HardwareTables

variable {prompts : Option ℤ} {lower : String → String} {world : HardwareWorld}

abbrev OrderlyIngestion (prompts : Option ℤ) (lower : String → String)
    (world : HardwareWorld) : Prop :=
  Sound (OrderlyTables prompts) (Awaits prompts lower) world

theorem OrderlyIngestion.start {users : UnorderedMap ℕ PlatformUser}
    {now : ℤ} : OrderlyIngestion prompts lower (.start users now) where
  shared := by
    refine ⟨fun _ _ => List.nodup_nil, ?_, nofun, .nil, fun _ => Nat.zero_le 1,
      List.nodup_nil, ?_, ?_⟩
    · exact fun _ _ _ member => absurd member List.not_mem_nil
    all_goals exact fun _ member => absurd member List.not_mem_nil
  calls _ := trivial

theorem OrderlyIngestion.next {move : ℕ × IngestionStep}
    (orderly : OrderlyIngestion prompts lower world)
    (soon : ∀ lag ∈ prompts, Prompt lag world move (world.next lower move)) :
    OrderlyIngestion prompts lower (world.next lower move) := by
  have moves : Moves prompts lower world.shared move.1
      (perform lower move.1 move.2 world.shared (world.calls move.1)) :=
    perform_moves orderly.shared (orderly.calls move.1) soon
  exact orderly.act moves.orderly moves.awaits
    fun other call different awaits => moves.leaves.awaits different awaits

/-- Incidents are kept along every run, and envelopes are accepted once along
every run whose flushes are prompt with one lag. -/
theorem incidents_bookkept (lower : String → String) (users : UnorderedMap ℕ PlatformUser) (now : ℤ)
    (moves : List (ℕ × IngestionStep)) : EveryStep (fun before move after =>
        after = HardwareWorld.next lower before move)
      (fun _ _ after => IncidentsKept after.shared)
      (.start users now) moves ∧ ∀ lag,
    EveryStep (fun before move after => after = HardwareWorld.next lower before move) (Prompt lag)
      (.start users now) moves →
    EveryStep (fun before move after => after = HardwareWorld.next lower before move)
      (fun _ _ after => Bookkept after.shared) (.start users now) moves := by
  constructor
  · have begun : OrderlyIngestion none lower (.start users now) := .start
    refine EveryStep.of_invariant begun ?_ ?_ fun _ _ _ _ _ _ _ _ => trivial
    · rintro before move after orderly rfl _
      exact orderly.next nofun
    · rintro before move after orderly rfl _
      exact (orderly.next nofun).shared.kept
  · intro lag prompt
    have begun : OrderlyIngestion (some lag) lower (.start users now) := .start
    have each {before : HardwareWorld} {move : ℕ × IngestionStep}
        (meets : Prompt lag before move (before.next lower move)) :
        ∀ other ∈ some lag, Prompt other before move (before.next lower move) := by
      rintro other ⟨⟩
      exact meets
    refine EveryStep.of_invariant begun ?_ ?_ prompt
    · rintro before move after orderly rfl meets
      exact orderly.next (each meets)
    · rintro before move after orderly rfl meets
      have next := orderly.next (each meets)
      exact ⟨next.shared.kept, next.shared.accepted lag rfl⟩

instance {lag : ℤ} {before after : HardwareWorld} {move : ℕ × IngestionStep} :
    Decidable (Prompt lag before move after) :=
  inferInstanceAs (Decidable (move.2 = .flush → ∀ ingestion ∈ (before.calls move.1).maintained?,
    ingestion.now ≤ ingestion.began + lag ∧
      before.shared.now ≤ ingestion.envelope.issuedAt + retention - maxClockSkew - lag))

def oneOwner : UnorderedMap ℕ PlatformUser := AList.insert 7 {} ∅

def envelopeAt (issuedAtUnix : ℤ) (nonce : String) : HardwareEnvelope where
  serverId := 0
  issuedAtUnix := issuedAtUnix
  nonce := nonce
  signature := "s"
  payload := "p"

def ingestionSteps (caller : ℕ) : List (ℕ × IngestionStep) :=
  [(caller, .flush), (caller, .findIncident), (caller, .queueDeliveries), (caller, .commit)]

def receives (caller : ℕ) (envelope : HardwareEnvelope) : List (ℕ × IngestionStep) :=
  [(caller, .receive envelope true .critical { state := none, riskScore := none } 1000),
    (caller, .readMaintenance)]

/-- Two ingestions under way at once, the first of them during maintenance. -/
def suppressedFirst : List (ℕ × IngestionStep) :=
  [(9, .createMaintenanceWindow { id := 0, serverId := 0, startsAt := 0, endsAt := seconds 60 })] ++
    receives 0 (envelopeAt 0 "a") ++ [(9, .tick 60000000)] ++ receives 1 (envelopeAt 0 "b") ++
  [(0, .flush), (1, .flush), (0, .findIncident), (0, .queueDeliveries),
    (0, .commit)] ++ ingestionSteps 1

theorem suppressedFirst_bookkept : EveryStep (fun before move after =>
        after = HardwareWorld.next (fun state => state) before move)
      (fun _ _ after => Bookkept after.shared)
      (.start oneOwner 0) suppressedFirst :=
  (incidents_bookkept (fun state => state) oneOwner 0 suppressedFirst).2 1000
    (EveryStep.of_stepByStep (by decide +kernel))

/-- A second copy of an envelope is received with the first one and flushed
thirty days later, when the snapshot has been deleted. -/
def heldUp : List (ℕ × IngestionStep) :=
  receives 0 (envelopeAt 0 "a") ++ receives 1 (envelopeAt 0 "a") ++
    ingestionSteps 0 ++ [(9, .tick 2592000000000)] ++
    receives 2 (envelopeAt 2592000 "b") ++ ingestionSteps 2 ++ ingestionSteps 1

theorem heldUp_acceptedTwice : ¬ ∀ (lower : String → String) (users : UnorderedMap ℕ PlatformUser)
        (now : ℤ) (moves : List (ℕ × IngestionStep)), EveryStep (fun before move after =>
            after = HardwareWorld.next lower before move)
          (fun _ _ after => Bookkept after.shared)
          (.start users now) moves := by
  intro always
  have once := (always (fun state => state) oneOwner 0 heldUp
    heldUp.dropLast (1, .commit) [] _ _ rfl (Run.of_foldl _ _ _) rfl).accepted
  revert once
  decide +kernel

end Hardware

end Ithute
