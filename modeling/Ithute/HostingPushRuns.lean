import Ithute.HostingPushes
import Ithute.Library.UniqueRows

/-!
# Runs that lose no push

A push is lost when it is remembered, or stays remembered, after the last
build that would still look at the webhook; and when a claim fails the only
build that was queued for it.
-/

namespace Ithute

open TransitionRuns UniqueRows

namespace PushState

def Remembers (delivery : PushDelivery) : Prop :=
  ∃ active ∈ delivery.found, active = true ∨ delivery.sourceStatus ≠ .ready

/-- A push is remembered only while some build still looks; a report that
leaves it to other builds has one that looks; a build fails only when
nothing is remembered or another build looks, and at its claim only when
another one is queued for what was pushed. -/
def Calm (state : PushState) : PushMove → Prop
  | .commitDelivery _ =>
    ∀ delivery ∈ state.delivery, Remembers delivery →
      ∃ build ∈ state.builds, state.looks build = true
  | .commitClaim buildId credentialProblem _ =>
    ∀ claim ∈ state.claims.find? (fun claim => claim.buildId = buildId),
      claimProblem claim credentialProblem ≠ none →
        (state.webhook.pendingRebuild = true → state.OtherLooks buildId) ∧
        (state.unbuilt = true → state.webhook.pendingRebuild = true ∨ ∃ build ∈ state.builds,
            build.id ≠ buildId ∧ build.status = .queued)
  | .reportFailed buildId _ _ =>
    state.reportable buildId = true → state.webhook.pendingRebuild = true → state.OtherLooks buildId
  | .readOthers buildId =>
    state.OtherLooks buildId ∨ ∀ build ∈ state.builds, build.id ≠ buildId →
        build.status.active = false
  | _ => True

/-- A build still looks at what is remembered, and what was pushed is
remembered or queued. -/
structure Backed (state : PushState) : Prop where
  pending : state.webhook.pendingRebuild = true → ∃ build ∈ state.builds, state.looks build = true
  unbuilt : state.unbuilt = true → state.webhook.pendingRebuild = true ∨
    ∃ build ∈ state.builds, build.status = .queued

theorem Backed.nothingLost {state : PushState} (backed : state.Backed) : state.NothingLost where
  idle := by
    intro idle
    rw [← Bool.not_eq_true]
    intro remembered
    obtain ⟨build, member, looking⟩ := backed.pending remembered
    unfold looks at looking
    rw [Bool.and_eq_true] at looking
    have busy : state.hasActiveBuild = true := List.any_eq_true.mpr ⟨build, member, looking.1⟩
    rw [idle] at busy
    cases busy
  unbuilt := backed.unbuilt

section Steps

variable {state : PushState} {build row : HostingBuild} {buildId : ℕ}

theorem looks_eq_true : state.looks build = true ↔ build.status.active = true ∧
      ∀ report ∈ state.reports, report.buildId = build.id → report.phase.looks = true := by
  simp only [looks, Bool.and_eq_true, List.all_eq_true, Bool.or_eq_true,
    decide_eq_true_eq, ← imp_iff_not_or, ne_eq]

variable {after : PushState}

theorem Backed.of_builds (backed : state.Backed)
    (webhook : after.webhook = state.webhook) (unbuilt : after.unbuilt = state.unbuilt)
    (looking : ∀ build ∈ state.builds, state.looks build = true →
      ∃ later ∈ after.builds, after.looks later = true)
    (queued : ∀ build ∈ state.builds, build.status = .queued →
      ∃ later ∈ after.builds, later.status = .queued) : after.Backed where
  pending := by
    rw [webhook]
    intro remembered
    obtain ⟨build, member, looksNow⟩ := backed.pending remembered
    exact looking build member looksNow
  unbuilt := by
    rw [webhook, unbuilt]
    intro pushed
    rcases backed.unbuilt pushed with remembered | ⟨build, member, waits⟩
    · exact .inl remembered
    · exact .inr (queued build member waits)

theorem Backed.of_same (backed : state.Backed)
    (webhook : after.webhook = state.webhook) (builds : after.builds = state.builds)
    (reports : after.reports = state.reports)
    (unbuilt : after.unbuilt = state.unbuilt) : after.Backed := by
  apply backed.of_builds webhook unbuilt
  · intro build member looking
    refine ⟨build, by rw [builds]; exact member, ?_⟩
    unfold looks at looking ⊢
    rw [reports]
    exact looking
  · intro build member waits
    exact ⟨build, by rw [builds]; exact member, waits⟩

theorem backed_of_queued (forgotten : after.webhook.pendingRebuild = false)
    (member : build ∈ after.builds) (waits : build.status = .queued) : after.Backed where
  pending := by
    intro remembered
    rw [forgotten] at remembered
    cases remembered
  unbuilt := fun _ => .inr ⟨build, member, waits⟩

theorem backed_of_remembered (remembered : after.webhook.pendingRebuild = true)
    (looking : ∃ build ∈ after.builds, after.looks build = true) : after.Backed :=
  ⟨fun _ => looking, fun _ => .inl remembered⟩

theorem Backed.acceptPush {delivery : PushDelivery} {active : Bool} (now : ℤ)
    (calm : active = true ∨ delivery.sourceStatus ≠ .ready →
      ∃ build ∈ state.builds, state.looks build = true) :
    (state.acceptPush delivery active now).Backed := by
  unfold PushState.acceptPush
  dsimp only
  split_ifs with remembers
  · exact backed_of_remembered rfl (calm remembers)
  · exact backed_of_queued rfl (List.mem_append_right _ (List.mem_singleton_self _)) rfl

theorem Backed.addBuild (backed : state.Backed) (userId : ℕ) (now : ℤ) :
    (state.addBuild userId now).Backed := by
  refine backed.of_builds rfl rfl ?_ ?_
  · exact fun build member looking => ⟨build, List.mem_append_left _ member, looking⟩
  · exact fun build member waits => ⟨build, List.mem_append_left _ member, waits⟩

theorem pending_writeBuild_other {write : HostingBuild → HostingBuild}
    (looking : state.webhook.pendingRebuild = true → state.OtherLooks buildId) :
    state.webhook.pendingRebuild = true → ∃ build ∈ (state.writeBuild buildId write).builds,
        state.looks build = true := by
  intro remembered
  obtain ⟨build, member, other, looksNow⟩ := looking remembered
  exact ⟨build, List.mem_map.mpr ⟨build, member, if_neg other⟩, looksNow⟩

theorem unbuilt_writeBuild_other {write : HostingBuild → HostingBuild}
    (queued : state.unbuilt = true → state.webhook.pendingRebuild = true ∨
      ∃ build ∈ state.builds, build.id ≠ buildId ∧ build.status = .queued) :
    state.unbuilt = true → state.webhook.pendingRebuild = true ∨
      ∃ build ∈ (state.writeBuild buildId write).builds, build.status = .queued := by
  intro pushed
  rcases queued pushed with remembered | ⟨build, member, other, waits⟩
  · exact .inl remembered
  · exact .inr ⟨build, List.mem_map.mpr ⟨build, member, if_neg other⟩, waits⟩

variable {phase : ReportPhase}

theorem looks_setReport (looking : state.looks build = true)
    (keeps : build.id = buildId → phase.looks = true) :
    (state.setReport buildId phase).looks build = true := by
  rw [looks_eq_true] at looking ⊢
  refine ⟨looking.1, ?_⟩
  intro report member same
  obtain ⟨stored, storedMem, rfl⟩ := List.mem_map.mp member
  by_cases own : stored.buildId = buildId
  · rw [if_pos own] at same ⊢
    exact keeps (same.symm.trans own)
  · rw [if_neg own] at same ⊢
    exact looking.2 stored storedMem same

theorem Backed.setReport (backed : state.Backed)
    (keeps : phase.looks = true) : (state.setReport buildId phase).Backed := by
  refine backed.of_builds rfl rfl ?_ ?_
  · exact fun build member looking => ⟨build, member, looks_setReport looking fun _ => keeps⟩
  · exact fun build member waits => ⟨build, member, waits⟩

theorem Backed.setReport_other (backed : state.Backed)
    (looking : state.webhook.pendingRebuild = true → state.OtherLooks buildId) :
    (state.setReport buildId phase).Backed where
  pending := by
    intro remembered
    obtain ⟨build, member, other, looksNow⟩ := looking remembered
    exact ⟨build, member, looks_setReport looksNow fun own => absurd own other⟩
  unbuilt := backed.unbuilt

theorem looks_closeReport (looking : state.looks build = true) :
    (state.closeReport buildId).looks build = true := by
  rw [looks_eq_true] at looking ⊢
  refine ⟨looking.1, ?_⟩
  intro report member same
  exact looking.2 report (List.mem_filter.mp member).1 same

theorem Backed.closeReport (backed : state.Backed) : (state.closeReport buildId).Backed := by
  refine backed.of_builds rfl rfl ?_ ?_
  · exact fun build member looking => ⟨build, member, looks_closeReport looking⟩
  · exact fun build member waits => ⟨build, member, waits⟩

end Steps

def HasBuild (builds : List HostingBuild) (buildId : ℕ) (kind : HostingBuildStatus → Prop) : Prop :=
  ∃ build ∈ builds, build.id = buildId ∧ kind build.status

/-- Builds have identifiers of their own; a claim has locked a build that
waits, and a report one that is under way. -/
structure Locked (state : PushState) : Prop where
  issued : Issued HostingBuild.id state.nextId state.builds
  claimed : ∀ claim ∈ state.claims,
    HasBuild state.builds claim.buildId fun status => status = .queued
  reported : ∀ report ∈ state.reports,
    HasBuild state.builds report.buildId fun status => status.underway = true

structure Orderly (state : PushState) : Prop where
  active : state.webhook.active = true
  backed : state.Backed
  locked : state.Locked

section Locks

variable {state : PushState} {build row : HostingBuild} {buildId sought : ℕ}
variable {message : Option String} {now : ℤ} {kind : HostingBuildStatus → Prop}
variable {write : HostingBuild → HostingBuild}

theorem HasBuild.append {builds : List HostingBuild} (build : HostingBuild)
    (has : HasBuild builds sought kind) : HasBuild (builds ++ [build]) sought kind := by
  obtain ⟨stored, member, same, here⟩ := has
  exact ⟨stored, List.mem_append_left _ member, same, here⟩

theorem HasBuild.writeBuild_other (has : HasBuild state.builds sought kind)
    (other : sought ≠ buildId) : HasBuild (state.writeBuild buildId write).builds sought kind := by
  obtain ⟨stored, member, same, here⟩ := has
  refine ⟨stored, List.mem_map.mpr ⟨stored, member, if_neg ?_⟩, same, here⟩
  rw [same]
  exact other

theorem HasBuild.ne (unique : (state.builds.map HostingBuild.id).Nodup)
    {other : HostingBuildStatus → Prop} (has : HasBuild state.builds sought kind)
    (hasOther : HasBuild state.builds buildId other)
    (apart : ∀ status, kind status → ¬ other status) : sought ≠ buildId := by
  obtain ⟨first, firstMem, rfl, here⟩ := has
  obtain ⟨second, secondMem, rfl, there⟩ := hasOther
  intro same
  have equal := List.inj_on_of_nodup_map unique firstMem secondMem same
  rw [equal] at here
  exact apart second.status here there

theorem queued_not_underway (status : HostingBuildStatus)
    (waits : status = .queued) : ¬ status.underway = true := by
  rw [waits]
  nofun

theorem hasBuild_of_reportable (reportable : state.reportable buildId = true) :
    HasBuild state.builds buildId fun status => status.underway = true := by
  unfold PushState.reportable at reportable
  rw [Bool.and_eq_true, List.any_eq_true] at reportable
  obtain ⟨⟨build, member, matches_⟩, -⟩ := reportable
  rw [Bool.and_eq_true, decide_eq_true_eq] at matches_
  exact ⟨build, member, matches_.1, matches_.2⟩

theorem ne_of_reportable (reportable : state.reportable buildId = true)
    {report : OpenReport} (member : report ∈ state.reports) : report.buildId ≠ buildId := by
  intro same
  unfold PushState.reportable at reportable
  rw [Bool.and_eq_true, Bool.not_eq_true', List.any_eq_false] at reportable
  exact reportable.2 report member (by simpa using same)

namespace Locked

theorem of_same {after : PushState} (locked : state.Locked) (nextId : after.nextId = state.nextId)
    (builds : after.builds = state.builds) (claims : after.claims = state.claims)
    (reports : ∀ report ∈ after.reports, ∃ earlier ∈ state.reports,
      earlier.buildId = report.buildId) : after.Locked where
  issued := by
    rw [nextId, builds]
    exact locked.issued
  claimed := by
    rw [claims, builds]
    exact locked.claimed
  reported := by
    intro report member
    obtain ⟨earlier, earlierMem, same⟩ := reports report member
    rw [builds, ← same]
    exact locked.reported earlier earlierMem

theorem addBuild (locked : state.Locked) (userId : ℕ) (now : ℤ) :
    (state.addBuild userId now).Locked where
  issued := locked.issued.insert rfl
  claimed := fun claim member => (locked.claimed claim member).append _
  reported := fun report member => (locked.reported report member).append _

theorem writeBuild (locked : state.Locked) {after : PushState}
    (nextId : after.nextId = state.nextId)
    (builds : after.builds = (state.writeBuild buildId write).builds)
    (claims : ∀ claim ∈ after.claims, claim ∈ state.claims ∧ claim.buildId ≠ buildId)
    (reports : ∀ report ∈ after.reports, report ∈ state.reports ∧ report.buildId ≠ buildId)
    (keeps : ∀ row, (write row).id = row.id) : after.Locked where
  issued := by
    rw [nextId, builds]
    apply locked.issued.map
    intro row _
    split
    · exact keeps row
    · rfl
  claimed := by
    intro claim member
    obtain ⟨before, other⟩ := claims claim member
    rw [builds]
    exact (locked.claimed claim before).writeBuild_other other
  reported := by
    intro report member
    obtain ⟨before, other⟩ := reports report member
    rw [builds]
    exact (locked.reported report before).writeBuild_other other

theorem claims_other (locked : state.Locked) (underway : HasBuild state.builds buildId fun status =>
      status.underway = true) :
    ∀ claim ∈ state.claims, claim ∈ state.claims ∧ claim.buildId ≠ buildId :=
  fun claim member => ⟨member, HasBuild.ne locked.issued.unique
    (locked.claimed claim member) underway queued_not_underway⟩

theorem startReport (locked : state.Locked) (reportable : state.reportable buildId = true) :
    ({ state with reports := state.reports ++ [{ buildId := buildId }] } : PushState).Locked where
  issued := locked.issued
  claimed := locked.claimed
  reported := by
    have underway := hasBuild_of_reportable reportable
    exact List.forall_mem_append.mpr ⟨locked.reported, List.forall_mem_singleton.mpr underway⟩

theorem startClaim (locked : state.Locked) (builderAgentId : ℕ)
    (status : HostingSourceStatus) (found : state.unclaimedBuild = some row) : ({ state with
        claims := state.claims ++ [⟨row.id, builderAgentId, status⟩] } : PushState).Locked where
  issued := locked.issued
  claimed := by
    refine List.forall_mem_append.mpr ⟨locked.claimed, List.forall_mem_singleton.mpr ?_⟩
    have waits := List.find?_some found
    rw [Bool.and_eq_true, decide_eq_true_eq] at waits
    exact ⟨row, List.mem_of_find?_eq_some found, rfl, waits.1⟩
  reported := locked.reported

theorem setReport (locked : state.Locked) (phase : ReportPhase) :
    (state.setReport buildId phase).Locked := by
  refine locked.of_same rfl rfl rfl ?_
  intro report member
  obtain ⟨stored, storedMem, rfl⟩ := List.mem_map.mp member
  refine ⟨stored, storedMem, ?_⟩
  split <;> rfl

theorem closeReport (locked : state.Locked) : (state.closeReport buildId).Locked := by
  refine locked.of_same rfl rfl rfl ?_
  exact fun report member => ⟨report, (List.mem_filter.mp member).1, rfl⟩

end Locked

namespace Orderly

theorem queued_other (orderly : state.Orderly)
    (underway : HasBuild state.builds buildId fun status => status.underway = true) :
    state.unbuilt = true → state.webhook.pendingRebuild = true ∨
      ∃ build ∈ state.builds, build.id ≠ buildId ∧ build.status = .queued := by
  intro pushed
  rcases orderly.backed.unbuilt pushed with remembered | ⟨build, member, waits⟩
  · exact .inl remembered
  · have here : HasBuild state.builds build.id fun status => status = .queued :=
      ⟨build, member, rfl, waits⟩
    exact .inr ⟨build, member,
      here.ne orderly.locked.issued.unique underway queued_not_underway, waits⟩

theorem other_looks (orderly : state.Orderly) {report : OpenReport}
    (member : report ∈ state.reports) (passed : report.phase.looks = false) :
    state.webhook.pendingRebuild = true → state.OtherLooks report.buildId := by
  intro remembered
  obtain ⟨build, buildMem, looking⟩ := orderly.backed.pending remembered
  refine ⟨build, buildMem, ?_, looking⟩
  intro own
  have still := (looks_eq_true.mp looking).2 report member own.symm
  rw [passed] at still
  cases still

theorem pending_writeBuild (orderly : state.Orderly) (keeps : ∀ row, (write row).id = row.id)
    (active : ∀ row, (write row).status.active = true) : state.webhook.pendingRebuild = true →
      ∃ build ∈ (state.writeBuild buildId write).builds, state.looks build = true := by
  intro remembered
  obtain ⟨build, member, looking⟩ := orderly.backed.pending remembered
  rw [looks_eq_true] at looking
  by_cases own : build.id = buildId
  · refine ⟨_, List.mem_map.mpr ⟨build, member, if_pos own⟩, looks_eq_true.mpr ⟨active build, ?_⟩⟩
    rw [keeps]
    exact looking.2
  · exact ⟨_, List.mem_map.mpr ⟨build, member, if_neg own⟩, looks_eq_true.mpr looking⟩

theorem acceptPush (orderly : state.Orderly) {delivery : PushDelivery} {active : Bool} (now : ℤ)
    (calm : active = true ∨ delivery.sourceStatus ≠ .ready →
      ∃ build ∈ state.builds, state.looks build = true) :
    (state.acceptPush delivery active now).Orderly := by
  refine ⟨?_, Backed.acceptPush now calm, ?_⟩
  · unfold PushState.acceptPush
    dsimp only
    split_ifs <;> exact orderly.active
  have recorded : ({ state.recordDelivery delivery.deliveryId now with
      unbuilt := true } : PushState).Locked :=
    orderly.locked.of_same rfl rfl rfl fun report member => ⟨report, member, rfl⟩
  unfold PushState.acceptPush
  dsimp only
  split_ifs
  · exact recorded.of_same rfl rfl rfl fun report member => ⟨report, member, rfl⟩
  · exact (recorded.addBuild state.webhook.createdByUserId now).of_same rfl rfl
      rfl fun report member => ⟨report, member, rfl⟩

theorem settleClaim (orderly : state.Orderly) {claim : OpenClaim}
    (member : claim ∈ state.claims) {credentialProblem : Option String} (now : ℤ)
    (calm : claimProblem claim credentialProblem ≠ none →
      (state.webhook.pendingRebuild = true → state.OtherLooks claim.buildId) ∧
      (state.unbuilt = true → state.webhook.pendingRebuild = true ∨ ∃ build ∈ state.builds,
          build.id ≠ claim.buildId ∧ build.status = .queued)) :
    (state.settleClaim claim credentialProblem now).Orderly := by
  have waits := orderly.locked.claimed claim member
  have claims : ∀ other ∈ state.claims.filter fun other =>
      decide (other.buildId ≠ claim.buildId),
        other ∈ state.claims ∧ other.buildId ≠ claim.buildId := by
    intro other otherMem
    simpa using List.mem_filter.mp otherMem
  have reports : ∀ report ∈ state.reports,
      report ∈ state.reports ∧ report.buildId ≠ claim.buildId := by
    intro report reportMem
    exact ⟨reportMem, (HasBuild.ne orderly.locked.issued.unique waits
      (orderly.locked.reported report reportMem) queued_not_underway).symm⟩
  unfold PushState.settleClaim
  dsimp only
  split
  · refine ⟨orderly.active, ⟨?_, ?_⟩, ?_⟩
    · exact orderly.pending_writeBuild (fun _ => rfl) fun _ => rfl
    · intro pushed
      cases pushed
    · exact orderly.locked.writeBuild rfl rfl claims reports fun _ => rfl
  · rename_i message problem
    obtain ⟨looking, queued⟩ := calm (by simp [problem])
    refine ⟨orderly.active, ⟨?_, ?_⟩, ?_⟩
    · exact pending_writeBuild_other looking
    · exact unbuilt_writeBuild_other queued
    · exact orderly.locked.writeBuild rfl rfl claims reports fun _ => rfl

theorem reportBuilding (orderly : state.Orderly)
    (reportable : state.reportable buildId = true) (now : ℤ) : (state.writeBuild buildId fun row =>
      { row with
        status := .building
        startedAt := row.startedAt.or (some now) }).Orderly := by
  have underway := hasBuild_of_reportable reportable
  refine ⟨orderly.active, ⟨?_, ?_⟩, ?_⟩
  · exact orderly.pending_writeBuild (fun _ => rfl) fun _ => rfl
  · exact unbuilt_writeBuild_other (orderly.queued_other underway)
  · exact orderly.locked.writeBuild rfl rfl (orderly.locked.claims_other underway)
      (fun report member => ⟨member, ne_of_reportable reportable member⟩) fun _ => rfl

theorem reportFailed (orderly : state.Orderly)
    (calm : state.Calm (.reportFailed buildId message now)) :
    (state.perform (.reportFailed buildId message now)).Orderly := by
  dsimp only [PushState.perform]
  split_ifs with reportable
  · have underway := hasBuild_of_reportable reportable
    refine ⟨orderly.active, ⟨?_, ?_⟩, ?_⟩
    · exact pending_writeBuild_other (calm reportable)
    · exact unbuilt_writeBuild_other (orderly.queued_other underway)
    · exact orderly.locked.writeBuild rfl rfl (orderly.locked.claims_other underway)
        (fun report member => ⟨member, ne_of_reportable reportable member⟩) fun _ => rfl
  · exact orderly

theorem startReport (orderly : state.Orderly) (reportable : state.reportable buildId = true) :
    ({ state with reports := state.reports ++ [{ buildId := buildId }] } : PushState).Orderly := by
  refine ⟨orderly.active, ?_, orderly.locked.startReport reportable⟩
  refine orderly.backed.of_builds rfl rfl ?_ fun build member waits => ⟨build, member, waits⟩
  intro build member looking
  rw [looks_eq_true] at looking
  refine ⟨build, member, looks_eq_true.mpr ⟨looking.1, ?_⟩⟩
  exact List.forall_mem_append.mpr ⟨looking.2, List.forall_mem_singleton.mpr fun _ => rfl⟩

theorem settleReport (orderly : state.Orderly) {report : OpenReport}
    (member : report ∈ state.reports) (imageRef imageDigest : String)
    (commit : Option String) (now : ℤ) :
    (state.settleReport report imageRef imageDigest commit now).Orderly := by
  have underway := orderly.locked.reported report member
  have succeeded : (state.succeedBuild report.buildId imageRef imageDigest commit now).Locked := by
    refine orderly.locked.writeBuild rfl rfl (orderly.locked.claims_other underway) ?_ fun _ => rfl
    intro other otherMem
    simpa using List.mem_filter.mp otherMem
  have passedOver (passed : report.phase.looks = false) :
      (state.succeedBuild report.buildId imageRef imageDigest commit now).Backed := by
    refine ⟨?_, unbuilt_writeBuild_other (orderly.queued_other underway)⟩
    intro remembered
    obtain ⟨build, buildMem, other, looking⟩ := orderly.other_looks member passed remembered
    exact ⟨build, List.mem_map.mpr ⟨build, buildMem, if_neg other⟩, looks_closeReport looking⟩
  unfold PushState.settleReport
  cases phase : report.phase with
  | rebuilding =>
    refine ⟨orderly.active, ?_, ?_⟩
    · exact backed_of_queued rfl (List.mem_append_right _ (List.mem_singleton.mpr rfl)) rfl
    · exact (succeeded.addBuild state.webhook.createdByUserId now).of_same
        rfl rfl rfl fun other otherMem => ⟨other, otherMem, rfl⟩
  | keeping | skipped => exact ⟨orderly.active, passedOver (by rw [phase]; rfl), succeeded⟩
  | flushed | locked => exact orderly

theorem queryWebhook (orderly : state.Orderly) :
    (state.perform (.queryWebhook buildId)).Orderly := by
  dsimp only [PushState.perform]
  split
  · split_ifs with unseen
    · refine ⟨orderly.active, orderly.backed.setReport_other ?_, orderly.locked.setReport _⟩
      intro remembered
      rcases unseen with inactive | forgotten
      · rw [orderly.active] at inactive
        cases inactive
      · rw [remembered] at forgotten
        cases forgotten
    · exact orderly
    · exact ⟨orderly.active, orderly.backed.setReport rfl, orderly.locked.setReport _⟩
  · exact orderly

theorem readOthers (orderly : state.Orderly) (calm : state.Calm (.readOthers buildId)) :
    (state.perform (.readOthers buildId)).Orderly := by
  dsimp only [PushState.perform]
  split
  · split_ifs with others
    · refine ⟨orderly.active, orderly.backed.setReport_other fun _ => ?_,
        orderly.locked.setReport _⟩
      rcases calm with looking | idle
      · exact looking
      · obtain ⟨build, member, other⟩ := List.any_eq_true.mp others
        rw [Bool.and_eq_true, decide_eq_true_eq] at other
        rw [idle build member other.1] at other
        cases other.2
    · exact ⟨orderly.active, orderly.backed.setReport rfl, orderly.locked.setReport _⟩
  · exact orderly

end Orderly

end Locks

theorem Orderly.perform {state : PushState} (orderly : state.Orderly)
    (move : PushMove) (calm : state.Calm move) : (state.perform move).Orderly := by
  have same {after : PushState} (webhook : after.webhook = state.webhook)
      (builds : after.builds = state.builds) (claims : after.claims = state.claims)
      (reports : after.reports = state.reports) (nextId : after.nextId = state.nextId)
      (unbuilt : after.unbuilt = state.unbuilt) : after.Orderly := by
    refine ⟨?_, orderly.backed.of_same webhook builds reports unbuilt,
      orderly.locked.of_same nextId builds claims ?_⟩
    · rw [webhook]
      exact orderly.active
    · rw [reports]
      exact fun report member => ⟨report, member, rfl⟩
  cases move with
  | deliver deliveryId matched commit =>
    dsimp only [PushState.perform]
    split
    · exact orderly
    · exact same rfl rfl rfl rfl rfl rfl
  | readBuilds now =>
    dsimp only [PushState.perform]
    split
    · exact orderly
    · split_ifs <;> exact same rfl rfl rfl rfl rfl rfl
  | commitDelivery now =>
    dsimp only [PushState.perform]
    split
    · exact orderly
    · rename_i delivery isOpen
      split
      · exact orderly
      · rename_i active found
        exact orderly.acceptPush now fun remembers =>
          calm delivery isOpen ⟨active, found, remembers⟩
  | abandonDelivery => exact same rfl rfl rfl rfl rfl rfl
  | startManual userId =>
    dsimp only [PushState.perform]
    split
    · exact same rfl rfl rfl rfl rfl rfl
    · exact orderly
  | commitManual now =>
    dsimp only [PushState.perform]
    split
    · exact orderly
    · rename_i userId _
      have added := orderly.backed.addBuild userId now
      exact ⟨orderly.active, added.of_same rfl rfl rfl rfl,
        (orderly.locked.addBuild userId now).of_same rfl rfl rfl
          fun report member => ⟨report, member, rfl⟩⟩
  | startClaim builderAgentId =>
    dsimp only [PushState.perform]
    split
    · exact orderly
    · rename_i row found
      exact ⟨orderly.active, orderly.backed.of_same rfl rfl rfl rfl,
        orderly.locked.startClaim builderAgentId _ found⟩
  | commitClaim buildId credentialProblem now =>
    dsimp only [PushState.perform]
    split
    · exact orderly
    · rename_i claim found
      have own : claim.buildId = buildId := by simpa using List.find?_some found
      have calmHere := calm claim found
      rw [← own] at calmHere
      exact orderly.settleClaim (List.mem_of_find?_eq_some found) now calmHere
  | reportBuilding buildId now =>
    dsimp only [PushState.perform]
    split
    · rename_i reportable
      exact orderly.reportBuilding reportable now
    · exact orderly
  | reportFailed buildId message now => exact orderly.reportFailed calm
  | startReport buildId =>
    dsimp only [PushState.perform]
    split
    · rename_i reportable
      exact orderly.startReport reportable
    · exact orderly
  | queryWebhook buildId => exact orderly.queryWebhook
  | readOthers buildId => exact orderly.readOthers calm
  | commitReport buildId imageRef imageDigest commit now =>
    dsimp only [PushState.perform]
    split
    · exact orderly
    · rename_i report found
      exact orderly.settleReport (List.mem_of_find?_eq_some found) imageRef imageDigest commit now
  | abandonReport buildId =>
    exact ⟨orderly.active, orderly.backed.closeReport, orderly.locked.closeReport⟩

def Performs (before : PushState) (move : PushMove) (after : PushState) : Prop :=
  after = before.perform move

def start (source : HostingSource) (webhook : HostingSourceWebhook) : PushState where
  source := source
  webhook :=
    { webhook with
      active := true
      pendingRebuild := false
      pendingCommit := none }

def KeepsPushes (source : HostingSource) (webhook : HostingSourceWebhook)
    (moves : List PushMove) : Prop :=
  ∀ front back state, moves = front ++ back →
    Run Performs (start source webhook) front state → state.NothingLost

theorem orderly_start (source : HostingSource)
    (webhook : HostingSourceWebhook) : (start source webhook).Orderly where
  active := rfl
  backed := ⟨nofun, nofun⟩
  locked := ⟨Issued.nil, List.forall_mem_nil _, List.forall_mem_nil _⟩

/-- Calm runs lose no push. -/
theorem keepsPushes_of_calm (source : HostingSource)
    (webhook : HostingSourceWebhook) (moves : List PushMove)
    (calm : EveryStep Performs (fun before move _ => before.Calm move)
      (start source webhook) moves) : KeepsPushes source webhook moves := by
  intro front back state split reached
  rw [split] at calm
  have orderly : state.Orderly := by
    refine reached.invariant_of_everyStep (orderly_start source webhook) ?_ calm.of_prefix
    rintro before move after orderlyBefore rfl calmHere
    exact orderlyBefore.perform move calmHere
  exact orderly.backed.nothingLost

instance (state : PushState) (buildId : ℕ) : Decidable (state.OtherLooks buildId) :=
  inferInstanceAs (Decidable (∃ build ∈ state.builds,
    build.id ≠ buildId ∧ state.looks build = true))

instance (delivery : PushDelivery) : Decidable (Remembers delivery) :=
  inferInstanceAs (Decidable (∃ active ∈ delivery.found,
    active = true ∨ delivery.sourceStatus ≠ .ready))

instance (state : PushState) (move : PushMove) : Decidable (state.Calm move) := by
  cases move <;> dsimp only [Calm] <;> infer_instance

def gitSource : HostingSource where
  id := 1
  projectId := 1

def gitWebhook : HostingSourceWebhook where
  id := 1
  projectId := 1
  sourceId := 1
  createdByUserId := 1

def push (deliveryId : String) (now : ℤ) : List PushMove :=
  [.deliver deliveryId true none, .readBuilds now, .commitDelivery now]

def pushedTwice : List PushMove :=
  push "first" 0 ++ [.startClaim 1, .commitClaim 1 none 1] ++ push "second" 2 ++
    [.startReport 1, .queryWebhook 1, .readOthers 1,
      .commitReport 1 "image" "digest" none 3, .startClaim 1, .commitClaim 2 none 4]

theorem pushedTwice_keepsPushes : KeepsPushes gitSource gitWebhook pushedTwice :=
  keepsPushes_of_calm gitSource gitWebhook pushedTwice (EveryStep.of_stepByStep (by decide))

def pushedAfterFailure : List PushMove :=
  push "first" 0 ++ [.startClaim 1, .commitClaim 1 none 1, .reportFailed 1 none 2] ++
    push "second" 3

theorem pushedAfterFailure_lost : ¬ KeepsPushes gitSource gitWebhook pushedAfterFailure := by
  intro keeps
  have run := Run.of_foldl perform pushedAfterFailure (start gitSource gitWebhook)
  have forgotten := (keeps pushedAfterFailure [] _ (by simp) run).idle (by decide)
  exact absurd forgotten (by decide)

end PushState

end Ithute
