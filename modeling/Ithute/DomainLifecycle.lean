import Ithute.DomainOwnershipSteps
import Ithute.Library.TransitionRuns
import Ithute.Library.UniqueRows

/-!
# The lifecycle of a domain

A verified domain has been proven since its last challenge, a token verifies
once, an archived domain stays archived and a suspended one is only restored
by hand, as long as no request writes over what others have written since it
read the row.
-/

namespace Ithute

open UniqueRows TransitionRuns

namespace DomainState

def Performs (services : DomainServices) (before : DomainState)
    (move : DomainMove) (after : DomainState) : Prop :=
  after = before.perform services move

/-- A verification since the last challenge, with its token or with the
delegation of the zone to both name servers of the platform. -/
structure Shows (services : DomainServices) (state : DomainState) (found : FoundProof) : Prop where
  begun : found.begun = state.challenges
  answers : match found.proof with
    | .txt token observed => token = state.challenge ∧ verificationValue token ∈ observed
    | .delegation delegated =>
      delegatesAll services delegated = true ∧ 2 ≤ (expectedNameservers services).dedup.length ∧
          ∃ domain ∈ state.domain, domain.dnsMode = .platform

def Proven (services : DomainServices) (state : DomainState) : Prop :=
  ∃ found ∈ state.proofs, state.Shows services found

structure Rightful (services : DomainServices) (state : DomainState) : Prop where
  verified : ∀ domain ∈ state.domain, domain.status = .verified → state.Proven services
  once : state.used.Nodup

structure Holds (first second : DomainState) : Prop where
  restored : first.restored ≤ second.restored
  archived : ∀ domain ∈ first.domain, domain.status = .archived →
    ∃ later ∈ second.domain, later.status = .archived
  suspended : ∀ domain ∈ first.domain, domain.status = .suspended →
    second.restored = first.restored → ∃ later ∈ second.domain,
        later.status = .suspended ∨ later.status = .archived

def KeepsLifecycle (services : DomainServices) (moves : List DomainMove) : Prop :=
  ∀ front middle back first second, moves = front ++ middle ++ back →
    Run (Performs services) {} front first → Run (Performs services) first middle second →
        second.Rightful services ∧ Holds first second

def CalmOn (services : DomainServices) (input : DomainInput)
    (stored : Domain) : DomainRequest → Prop
  | .verify loaded rawToken _ _ _ =>
    (verifyDomain services loaded rawToken input.txt input.delegation).toBool = true →
      stored.verificationTokenHash = loaded.verificationTokenHash ∧ (loaded.status = .verified ∨
          stored.status ≠ .suspended ∧ stored.status ≠ .archived)
  | .challenge loaded _ =>
    (challengeMethod loaded input.discovery).toBool = true → (loaded.ownershipVerifiedAt ≠ none ∨
          stored.ownershipVerifiedAt = none) ∧ if loaded.status = .pendingVerification then
          stored.status ≠ .verified
        else stored.status ≠ .suspended ∧ stored.status ≠ .archived
  | .changeStatus loaded payload _ _ =>
    payload.status = loaded.status ∨ stored.status ≠ .archived ∧
        (payload.status = .verified → stored.ownershipVerifiedAt ≠ none)
  | .archive .. => True

def Calm (services : DomainServices) (before : DomainState) : DomainMove → Prop
  | .commit position input =>
    ∀ request ∈ before.requests[position]?, ∀ stored ∈ before.domain,
      CalmOn services input stored request
  | _ => True

/-- `new_verification_token` does not give a token that it has given. -/
def FreshToken (before : DomainState) : DomainMove → Prop
  | .create _ _ _ input | .commit _ input => input.token ∉ before.issued
  | _ => True

structure RequestKnown (services : DomainServices) (issued : List String)
    (domain : Option Domain) (challenges : ℕ) (request : DomainRequest) : Prop where
  token : ∃ token ∈ issued, request.loaded.verificationTokenHash = services.tokenHash token
  dnsMode : ∀ stored ∈ domain, stored.dnsMode = request.loaded.dnsMode
  begun : ∀ begun ∈ request.begun?, ∀ stored ∈ domain,
    stored.verificationTokenHash = request.loaded.verificationTokenHash → begun = challenges

structure Orderly (services : DomainServices) (state : DomainState) : Prop where
  absent : state.domain = none → state.requests = []
  token : ∀ domain ∈ state.domain, ∃ token ∈ state.issued,
    domain.verificationTokenHash = services.tokenHash token ∧
      token ∉ state.used ∧ (¬ state.Proven services → token = state.challenge)
  used : ∀ token ∈ state.used, token ∈ state.issued
  once : state.used.Nodup
  requests : ∀ request ∈ state.requests, RequestKnown services state.issued
    state.domain state.challenges request
  verified : ∀ domain ∈ state.domain, domain.status = .verified → state.Proven services
  owned : ∀ domain ∈ state.domain, domain.ownershipVerifiedAt ≠ none → state.Proven services

theorem orderly_empty (services : DomainServices) : Orderly services {} where
  absent _ := rfl
  token _ member := nomatch member
  used := List.forall_mem_nil _
  once := List.nodup_nil
  requests := List.forall_mem_nil _
  verified _ member := nomatch member
  owned _ member := nomatch member

variable {services : DomainServices} {domain : Domain} {proof : DomainProof}

theorem txtProof_spec {rawToken : Option String} {observed : List String}
    (found : txtProof services domain rawToken observed = some proof) :
    ∃ token, proof = .txt token observed ∧ services.tokenHash token = domain.verificationTokenHash ∧
        verificationValue token ∈ observed := by
  unfold txtProof at found
  obtain ⟨token, sought, rfl⟩ := Option.map_eq_some_iff.mp found
  have holds := List.find?_some sought
  rw [Bool.and_eq_true, decide_eq_true_eq, decide_eq_true_eq] at holds
  exact ⟨token, rfl, holds.1, holds.2⟩

theorem verifyByDelegation_spec {delegation : DnsAnswer}
    (found : verifyByDelegation services domain delegation = .ok proof) :
    ∃ delegated, proof = .delegation delegated ∧ delegatesAll services delegated = true ∧
        2 ≤ (expectedNameservers services).dedup.length ∧ domain.dnsMode = .platform := by
  unfold verifyByDelegation at found
  split_ifs at found with mode configured
  split at found
  · split_ifs at found with all
    cases found
    unfold nameserversConfigured at configured
    rw [decide_eq_true_eq] at configured
    exact ⟨_, rfl, all, configured.2, not_not.mp mode⟩
  · cases found
  · cases found

theorem verifyDomain_spec {rawToken : Option String} {txt delegation : DnsAnswer}
    (found : verifyDomain services domain rawToken txt delegation = .ok proof) : match proof with
    | .txt token observed =>
      services.tokenHash token = domain.verificationTokenHash ∧ verificationValue token ∈ observed
    | .delegation delegated =>
      delegatesAll services delegated = true ∧ 2 ≤ (expectedNameservers services).dedup.length ∧
          domain.dnsMode = .platform := by
  unfold verifyDomain at found
  have delegated (here : verifyByDelegation services domain delegation =
      .ok proof) := verifyByDelegation_spec here
  split at found
  · obtain ⟨_, rfl, facts⟩ := delegated found
    exact facts
  · split at found
    · rename_i byTxt
      cases found
      unfold verifyByTxt at byTxt
      split at byTxt
      · split at byTxt
        · rename_i sought
          cases byTxt
          obtain ⟨token, rfl, facts⟩ := txtProof_spec sought
          exact facts
        · cases byTxt
      · cases byTxt
      · cases byTxt
    · split at found
      · rename_i byDelegation
        cases found
        obtain ⟨_, rfl, facts⟩ := delegated byDelegation
        exact facts
      · cases found

section Moves

variable {services : DomainServices} {before after : DomainState}
variable {move : DomainMove} {stored later loaded : Domain}

theorem Proven.lasts (proven : before.Proven services)
    (proofs : ∀ found ∈ before.proofs, found ∈ after.proofs)
    (challenges : after.challenges = before.challenges)
    (challenge : after.challenge = before.challenge)
    (dnsMode : ∀ domain ∈ before.domain, ∃ later ∈ after.domain,
      later.dnsMode = domain.dnsMode) : after.Proven services := by
  obtain ⟨found, member, begun, answers⟩ := proven
  refine ⟨found, proofs found member, begun.trans challenges.symm, ?_⟩
  cases shown : found.proof with
  | txt token observed =>
    rw [shown] at answers
    exact ⟨answers.1.trans challenge.symm, answers.2⟩
  | delegation delegated =>
    rw [shown] at answers
    obtain ⟨all, configured, domain, domainMem, platform⟩ := answers
    obtain ⟨later, laterMem, same⟩ := dnsMode domain domainMem
    exact ⟨all, configured, later, laterMem, same.trans platform⟩

namespace Orderly

variable (orderly : before.Orderly services)
include orderly

theorem rewritten (restored : ℕ) (current : before.domain = some stored)
    (digest : later.verificationTokenHash = stored.verificationTokenHash)
    (dnsMode : later.dnsMode = stored.dnsMode)
    (owner : later.ownershipVerifiedAt = stored.ownershipVerifiedAt)
    (verified : later.status = .verified → before.Proven services) : Orderly services { before with
        domain := some later
        restored := restored } := by
  have proven (holds : before.Proven services) : Proven services { before with
        domain := some later
        restored := restored } := by
    refine holds.lasts (fun _ member => member) rfl rfl ?_
    intro domain member
    rw [current, Option.mem_some] at member
    rw [← member]
    exact ⟨later, rfl, dnsMode⟩
  refine ⟨nofun, ?_, orderly.used, orderly.once, ?_, ?_, ?_⟩
  · rintro _ ⟨⟩
    obtain ⟨token, issued, hashed, unused, open_⟩ := orderly.token stored current
    exact ⟨token, issued, digest.trans hashed, unused,
      fun unproven => open_ fun holds => unproven (proven holds)⟩
  · intro request member
    obtain ⟨token, mode, begun⟩ := orderly.requests request member
    refine ⟨token, ?_, ?_⟩
    · rintro _ ⟨⟩
      exact dnsMode.trans (mode stored current)
    · rintro count isBegun _ ⟨⟩ same
      exact begun count isBegun stored current (digest.symm.trans same)
  · rintro _ ⟨⟩ isVerified
    exact proven (verified isVerified)
  · rintro _ ⟨⟩ isOwned
    rw [owner] at isOwned
    exact proven (orderly.owned stored current isOwned)

theorem fewer {requests : List DomainRequest} (sublist : requests.Sublist before.requests) :
    Orderly services { before with requests := requests } := by
  have proven (holds : before.Proven services) :
      Proven services { before with requests := requests } :=
    holds.lasts (fun _ member => member) rfl rfl fun domain member => ⟨domain, member, rfl⟩
  refine ⟨?_, ?_, orderly.used, orderly.once, ?_, ?_, ?_⟩
  · intro absent
    have none := orderly.absent absent
    rw [none] at sublist
    exact List.sublist_nil.mp sublist
  · intro domain member
    obtain ⟨token, issued, hashed, unused, open_⟩ := orderly.token domain member
    exact ⟨token, issued, hashed, unused,
      fun unproven => open_ fun holds => unproven (proven holds)⟩
  · exact fun request member => orderly.requests request (sublist.subset member)
  · exact fun domain member isVerified => proven (orderly.verified domain member isVerified)
  · exact fun domain member isOwned => proven (orderly.owned domain member isOwned)

theorem exists_domain {request : DomainRequest} (member : request ∈ before.requests) :
    ∃ stored, before.domain = some stored := by
  cases current : before.domain with
  | none =>
    rw [orderly.absent current] at member
    cases member
  | some stored => exact ⟨stored, rfl⟩

theorem asked {request : DomainRequest} (reads : ReadsDomain before request) :
    Orderly services (before.ask request) := by
  have known : RequestKnown services before.issued before.domain
      before.challenges request ∧ before.domain ≠ none := by
    cases reads with
    | verify current | challenge current | changeStatus current
    | archive current =>
      obtain ⟨token, issued, hashed, -⟩ := orderly.token _ current
      refine ⟨⟨⟨token, issued, hashed⟩, ?_, ?_⟩, by simp [current]⟩
      · rw [current]
        rintro _ ⟨⟩
        rfl
      · intro begun isBegun _ _ _
        cases isBegun <;> rfl
  have proven (holds : before.Proven services) : Proven services (before.ask request) :=
    holds.lasts (fun _ member => member) rfl rfl fun domain member => ⟨domain, member, rfl⟩
  refine ⟨fun absent => absurd absent known.2, ?_, orderly.used, orderly.once, ?_, ?_, ?_⟩
  · intro domain member
    obtain ⟨token, issued, hashed, unused, open_⟩ := orderly.token domain member
    exact ⟨token, issued, hashed, unused,
      fun unproven => open_ fun holds => unproven (proven holds)⟩
  · intro other member
    rcases List.mem_append.mp member with old | new
    · exact orderly.requests other old
    · rw [List.mem_singleton.mp new]
      exact known.1
  · exact fun domain member isVerified => proven (orderly.verified domain member isVerified)
  · exact fun domain member isOwned => proven (orderly.owned domain member isOwned)

variable {token : String}

omit orderly in
theorem digest_fresh (injective : Function.Injective services.tokenHash)
    (fresh : token ∉ before.issued) {digest : String} (known : ∃ token ∈ before.issued,
      digest = services.tokenHash token) : services.tokenHash token ≠ digest := by
  obtain ⟨old, issued, rfl⟩ := known
  intro same
  rw [injective same] at fresh
  exact fresh issued

theorem renewed (injective : Function.Injective services.tokenHash) (fresh : token ∉ before.issued)
    (digest : later.verificationTokenHash = services.tokenHash token)
    (dnsMode : ∀ stored ∈ before.domain, later.dnsMode = stored.dnsMode)
    (used : ∀ other ∈ after.used, other ∈ before.issued) (once : after.used.Nodup)
    (domain : after.domain = some later) (requests : after.requests = before.requests)
    (issued : after.issued = before.issued ++ [token])
    (open_ : ¬ after.Proven services → token = after.challenge)
    (verified : later.status = .verified → after.Proven services)
    (owned : later.ownershipVerifiedAt ≠ none → after.Proven services) :
    after.Orderly services := by
  have old (other : String) (member : other ∈ before.issued) : other ∈ after.issued := by
    rw [issued]
    exact List.mem_append.mpr (.inl member)
  refine ⟨?_, ?_, fun other member => old other (used other member), once, ?_, ?_, ?_⟩
  · rw [domain]
    exact nofun
  · rw [domain]
    rintro _ ⟨⟩
    refine ⟨token, ?_, digest, fun spent => fresh (used token spent), open_⟩
    rw [issued]
    exact List.mem_append.mpr (.inr (List.mem_singleton.mpr rfl))
  · rw [domain, requests]
    intro request member
    obtain ⟨stored, current⟩ := orderly.exists_domain member
    obtain ⟨wasToken, mode, -⟩ := orderly.requests request member
    refine ⟨?_, ?_, ?_⟩
    · obtain ⟨other, otherMem, hashed⟩ := wasToken
      exact ⟨other, old other otherMem, hashed⟩
    · rintro _ ⟨⟩
      exact (dnsMode stored current).trans (mode stored current)
    · rintro _ _ _ ⟨⟩ same
      rw [digest] at same
      exact absurd same (digest_fresh injective fresh wasToken)
  · rw [domain]
    rintro _ ⟨⟩
    exact verified
  · rw [domain]
    rintro _ ⟨⟩
    exact owned

theorem created (injective : Function.Injective services.tokenHash)
    (fresh : token ∉ before.issued) (absent : before.domain = none)
    (pending : later.status = .pendingVerification) (unowned : later.ownershipVerifiedAt = none)
    (digest : later.verificationTokenHash = services.tokenHash token) : Orderly services
      { before with
        domain := some later
        issued := before.issued ++ [token]
        challenges := before.challenges + 1
        challenge := token
        proofs := [] } := by
  refine orderly.renewed injective fresh digest ?_ orderly.used orderly.once
    rfl rfl rfl (fun _ => rfl) ?_ ?_
  · intro stored member
    rw [absent] at member
    cases member
  · intro verified
    rw [pending] at verified
    cases verified
  · exact fun owned => absurd unowned owned

theorem challenged (injective : Function.Injective services.tokenHash)
    {input : DomainInput} {method : DomainVerificationMethod}
    {active : loaded.status ≠ .archived} (fresh : input.token ∉ before.issued)
    (current : before.domain = some stored)
    (known : RequestKnown services before.issued before.domain
      before.challenges (.challenge loaded active))
    (clears : loaded.ownershipVerifiedAt ≠ none ∨ stored.ownershipVerifiedAt = none)
    (pends : loaded.status = .pendingVerification → stored.status ≠ .verified) :
    Orderly services { before with
        domain := before.write loaded (loaded.challenge services method input.token)
        issued := before.issued ++ [input.token]
        challenges := before.challenges + 1
        challenge := input.token
        proofs := [] } := by
  have written : before.write loaded (loaded.challenge services method input.token) =
        some (loaded.flush (loaded.challenge services method input.token) stored) := by
    rw [write, current]
    rfl
  refine orderly.renewed injective fresh ?_ ?_ orderly.used
    orderly.once written rfl rfl (fun _ => rfl) ?_ ?_
  · exact if_neg (digest_fresh injective fresh known.token)
  · intro other otherMem
    rw [current] at otherMem
    cases otherMem
    rfl
  · intro verified
    dsimp only [Domain.flush, Domain.challenge] at verified
    split at verified
    · rename_i pending
      exact absurd verified (pends pending.symm)
    · cases verified
  · intro owned
    dsimp only [Domain.flush, Domain.challenge] at owned
    split at owned
    · rename_i unowned
      exact absurd (clears.resolve_left fun held => held unowned.symm) owned
    · exact absurd rfl owned

/-- A verification of the row as it is, with the token in force or with the
delegation. -/
theorem verifiedNow (injective : Function.Injective services.tokenHash)
    {input : DomainInput} {rawToken : Option String} {startedAt : ℤ}
    {begun : ℕ} {active : loaded.status ≠ .archived} {proof : DomainProof}
    (fresh : input.token ∉ before.issued) (current : before.domain = some stored)
    (known : RequestKnown services before.issued before.domain
      before.challenges (.verify loaded rawToken startedAt begun active))
    (found : verifyDomain services loaded rawToken input.txt input.delegation = .ok proof)
    (same : stored.verificationTokenHash = loaded.verificationTokenHash) : Orderly services
      { before with
        domain := before.write loaded
          (loaded.verify services input.now input.token)
        attempts := before.attempts ++ [startedAt]
        issued := before.issued ++ [input.token]
        proofs := before.proofs ++
          [{ proof := proof
             begun := begun }]
        used := before.used ++ proof.tokens } := by
  have written : before.write loaded (loaded.verify services input.now input.token) =
        some (loaded.flush
          (loaded.verify services input.now input.token) stored) := by
    rw [write, current]
    rfl
  obtain ⟨token, issued, hashed, unused, open_⟩ :=
    orderly.token stored current
  have rests := verifyDomain_spec found
  have spends (spent : String) (member : spent ∈ proof.tokens) : spent = token := by
    cases proof with
    | txt other observed =>
      rw [List.mem_singleton.mp member]
      exact injective (rests.1.trans (same.symm.trans hashed))
    | delegation => cases member
  have begunNow : begun = before.challenges :=
    known.begun begun rfl stored current same
  have proven : Proven services
      { before with
        domain := before.write loaded
          (loaded.verify services input.now input.token)
        attempts := before.attempts ++ [startedAt]
        issued := before.issued ++ [input.token]
        proofs := before.proofs ++
          [{ proof := proof
             begun := begun }]
        used := before.used ++ proof.tokens } := by
    by_cases already : before.Proven services
    · refine already.lasts (fun _ member => List.mem_append.mpr (.inl member))
        rfl rfl ?_
      intro domain member
      rw [current] at member
      cases member
      exact ⟨_, written, rfl⟩
    · refine ⟨_, List.mem_append.mpr (.inr (List.mem_singleton.mpr rfl)), begunNow, ?_⟩
      cases proof with
      | txt other observed =>
        exact ⟨(spends other List.mem_cons_self).trans (open_ already), rests.2⟩
      | delegation delegated =>
        refine ⟨rests.1, rests.2.1, _, written, ?_⟩
        exact (known.dnsMode stored current).trans rests.2.2
  refine orderly.renewed injective fresh ?_ ?_ ?_ ?_ written rfl
    rfl (fun unproven => absurd proven unproven)
    (fun _ => proven) (fun _ => proven)
  · exact if_neg (digest_fresh injective fresh known.token)
  · intro other otherMem
    rw [current] at otherMem
    cases otherMem
    rfl
  · intro other member
    rcases List.mem_append.mp member with old | spent
    · exact orderly.used other old
    · rw [spends other spent]
      exact issued
  · refine List.Nodup.append orderly.once ?_ ?_
    · cases proof with
      | txt other observed => exact List.nodup_singleton other
      | delegation => exact List.nodup_nil
    · intro other old spent
      rw [spends other spent] at old
      exact unused old

theorem restatused (status : DomainStatus) (restored : ℕ) (current : before.domain = some stored)
    (verified : status = .verified → status ≠ loaded.status → stored.ownershipVerifiedAt ≠ none) :
    Orderly services { before with
        domain := before.write loaded { loaded with status := status }
        restored := restored } := by
  have written : before.write loaded { loaded with status := status } =
      some (loaded.flush { loaded with status := status } stored) := by
    rw [write, current]
    rfl
  rw [written]
  refine orderly.rewritten restored current ?_ rfl ?_ ?_
  · exact if_pos rfl
  · exact if_pos rfl
  · intro isVerified
    dsimp only [Domain.flush] at isVerified
    split at isVerified
    · exact orderly.verified stored current isVerified
    · rename_i changed
      exact orderly.owned stored current (verified isVerified changed)

theorem ended (injective : Function.Injective services.tokenHash)
    {input : DomainInput} {request : DomainRequest} (fresh : input.token ∉ before.issued)
    (current : before.domain = some stored)
    (known : RequestKnown services before.issued before.domain before.challenges request)
    (calm : CalmOn services input stored request)
    (ends : EndsRequest services before input request after) : after.Orderly services := by
  cases ends with
  | refused =>
    have proven (holds : before.Proven services) {attempts : List ℤ} :
        Proven services { before with attempts := attempts } :=
      holds.lasts (fun _ member => member) rfl rfl fun domain member => ⟨domain, member, rfl⟩
    refine ⟨orderly.absent, ?_, orderly.used, orderly.once, orderly.requests, ?_, ?_⟩
    · intro domain member
      obtain ⟨token, issued, hashed, unused, open_⟩ := orderly.token domain member
      exact ⟨token, issued, hashed, unused,
        fun unproven => open_ fun holds => unproven (proven holds)⟩
    · exact fun domain member isVerified => proven (orderly.verified domain member isVerified)
    · exact fun domain member isOwned => proven (orderly.owned domain member isOwned)
  | verified found =>
    refine orderly.verifiedNow injective fresh current known found (calm ?_).1
    rw [found]
    rfl
  | challenged allowed =>
    obtain ⟨clears, pends⟩ := calm (by rw [allowed]; rfl)
    refine orderly.challenged injective fresh current known clears ?_
    intro pending
    rw [if_pos pending] at pends
    exact pends
  | changed =>
    refine orderly.restatused _ _ current ?_
    intro verified apart
    exact (calm.resolve_left apart).2 verified
  | archived => exact orderly.restatused _ _ current nofun

theorem moved (injective : Function.Injective services.tokenHash)
    (moved : DomainMoved services before move after)
    (fresh : FreshToken before move) (calm : Calm services before move) :
    after.Orderly services := by
  cases moved with
  | idle => exact orderly
  | created absent pending unowned digest =>
    exact orderly.created injective fresh absent pending unowned digest
  | transferred current =>
    refine orderly.rewritten before.restored current rfl rfl rfl ?_
    exact fun isVerified => orderly.verified _ current isVerified
  | asked reads => exact orderly.asked reads
  | @ended position _ request _ found ends =>
    have member : request ∈ before.requests := List.mem_of_getElem? found
    obtain ⟨stored, current⟩ := orderly.exists_domain member
    exact (orderly.fewer (List.eraseIdx_sublist _ _)).ended injective fresh current
      (orderly.requests request member) (calm request found stored current) ends

end Orderly

theorem Holds.refl (state : DomainState) : Holds state state where
  restored := Nat.le_refl _
  archived domain member isOver := ⟨domain, member, isOver⟩
  suspended domain member held _ := ⟨domain, member, .inl held⟩

theorem Holds.trans {first second third : DomainState}
    (earlier : Holds first second) (later : Holds second third) : Holds first third := by
  refine ⟨earlier.restored.trans later.restored, ?_, ?_⟩
  · intro domain member isOver
    obtain ⟨middle, middleMem, still⟩ := earlier.archived domain member isOver
    exact later.archived middle middleMem still
  · intro domain member held same
    have one := earlier.restored
    have two := later.restored
    obtain ⟨middle, middleMem, still⟩ := earlier.suspended domain member held (by omega)
    rcases still with held | isOver
    · exact later.suspended middle middleMem held (by omega)
    · obtain ⟨last, lastMem, ended⟩ := later.archived middle middleMem isOver
      exact ⟨last, lastMem, .inr ended⟩

theorem Holds.of_status (current : before.domain = some stored)
    (written : after.domain = some later) (restored : before.restored ≤ after.restored)
    (archived : stored.status = .archived → later.status = .archived)
    (suspended : stored.status = .suspended → after.restored = before.restored →
        later.status = .suspended ∨ later.status = .archived) : Holds before after := by
  refine ⟨restored, ?_, ?_⟩
  · rw [current]
    rintro _ ⟨⟩ isOver
    exact ⟨later, written, archived isOver⟩
  · rw [current]
    rintro _ ⟨⟩ held same
    exact ⟨later, written, suspended held same⟩

theorem write_eq (current : before.domain = some stored) (changed : Domain) :
    before.write loaded changed = some (loaded.flush changed stored) := by
  rw [write, current]
  rfl

theorem holds_ended {input : DomainInput} {request : DomainRequest}
    (current : before.domain = some stored) (calm : CalmOn services input stored request)
    (ends : EndsRequest services before input request after) : Holds before after := by
  cases ends with
  | refused =>
    exact Holds.of_status current current (Nat.le_refl _) id fun held _ => .inl held
  | @verified loaded _ _ _ _ _ found =>
    obtain ⟨-, spares⟩ := calm (by rw [found]; rfl)
    refine Holds.of_status current (write_eq current _) (Nat.le_refl _) ?_ ?_
    · intro isOver
      rcases spares with same | ⟨-, live⟩
      · exact (Domain.flush_status_same same.symm).trans isOver
      · exact absurd isOver live
    · intro held _
      rcases spares with same | ⟨live, -⟩
      · exact .inl ((Domain.flush_status_same same.symm).trans held)
      · exact absurd held live
  | @challenged loaded _ _ allowed =>
    obtain ⟨-, spares⟩ := calm (by rw [allowed]; rfl)
    refine Holds.of_status current (write_eq current _) (Nat.le_refl _) ?_ ?_
    · intro isOver
      split at spares
      · rename_i same
        exact (Domain.flush_status_same same.symm).trans isOver
      · exact absurd isOver spares.2
    · intro held _
      split at spares
      · rename_i same
        exact .inl ((Domain.flush_status_same same.symm).trans held)
      · exact absurd held spares.1
  | @changed loaded payload =>
    refine Holds.of_status current (write_eq current _) ?_ ?_ ?_
    · dsimp only
      split <;> omega
    · intro isOver
      rcases calm with same | ⟨live, -⟩
      · exact (Domain.flush_status_same same).trans isOver
      · exact absurd isOver live
    · intro held unchanged
      by_cases same : payload.status = loaded.status
      · exact .inl ((Domain.flush_status_same same).trans held)
      · rw [Domain.flush_status_changed same]
        have byHand := payload.byHand
        cases status : payload.status with
        | pendingVerification => exact absurd status byHand
        | verified => simp [status] at unchanged
        | suspended => exact .inl rfl
        | archived => exact .inr rfl
  | @archived loaded active =>
    have written : (loaded.flush { loaded with status := .archived } stored).status = .archived :=
      Domain.flush_status_changed active.symm
    exact Holds.of_status current (write_eq current _) (Nat.le_refl _)
      (fun _ => written) fun _ _ => .inr written

theorem Orderly.holds (orderly : before.Orderly services)
    (moved : DomainMoved services before move after)
    (calm : Calm services before move) : Holds before after := by
  cases moved with
  | idle => exact Holds.refl before
  | created absent =>
    refine ⟨Nat.le_refl _, ?_, ?_⟩
    · rw [absent]
      exact fun _ member => nomatch member
    · rw [absent]
      exact fun _ member => nomatch member
  | transferred current =>
    exact Holds.of_status current rfl (Nat.le_refl _) id fun held _ => .inl held
  | asked =>
    exact ⟨Nat.le_refl _, fun domain member isOver => ⟨domain, member, isOver⟩,
      fun domain member held _ => ⟨domain, member, .inl held⟩⟩
  | @ended position _ request _ found ends =>
    have member : request ∈ before.requests := List.mem_of_getElem? found
    obtain ⟨stored, current⟩ := orderly.exists_domain member
    have currentNow : DomainState.domain
        { before with requests := before.requests.eraseIdx position } = some stored := current
    obtain ⟨restored, archived, suspended⟩ :=
      holds_ended currentNow (calm request found stored current) ends
    exact ⟨restored, archived, suspended⟩

end Moves

/-- Calm runs keep the lifecycle. -/
theorem keepsLifecycle_of_calm (services : DomainServices)
    (injective : Function.Injective services.tokenHash) (moves : List DomainMove)
    (fresh : EveryStep (Performs services) (fun before move _ => FreshToken before move) {} moves)
    (calm : EveryStep (Performs services)
      (fun before move _ => Calm services before move) {} moves) :
    KeepsLifecycle services moves := by
  have both : EveryStep (Performs services) (fun before move _ =>
      FreshToken before move ∧ Calm services before move) {} moves :=
    EveryStep.and_iff.mpr ⟨fresh, calm⟩
  have orderlyAfter : ∀ state move following, state.Orderly services →
      Performs services state move following → FreshToken state move ∧ Calm services state move →
          following.Orderly services := by
    rintro state move following orderly performs ⟨freshHere, calmHere⟩
    rw [performs]
    exact orderly.moved injective (perform_moved services state move) freshHere calmHere
  have holds : EveryStep (Performs services)
      (fun before _ after => Holds before after) {} moves := by
    refine EveryStep.of_invariant (orderly_empty services) orderlyAfter ?_ both
    rintro state move following orderly performs ⟨-, calmHere⟩
    rw [performs]
    exact orderly.holds (perform_moved services state move) calmHere
  intro front middle back first second split reached later
  refine ⟨?_, EveryStep.between Holds.refl (fun _ _ _ => Holds.trans) holds split reached later⟩
  rw [split] at both
  have orderly : second.Orderly services :=
    (reached.append later).invariant_of_everyStep (orderly_empty services)
      orderlyAfter both.of_prefix
  exact ⟨orderly.verified, orderly.once⟩

instance (services : DomainServices) (input : DomainInput)
    (stored : Domain) (request : DomainRequest) :
    Decidable (CalmOn services input stored request) := by
  cases request <;> dsimp only [CalmOn] <;> infer_instance

instance (services : DomainServices) (before : DomainState)
    (move : DomainMove) : Decidable (Calm services before move) :=
  match move with
  | .commit position input =>
    inferInstanceAs (Decidable (∀ request ∈ before.requests[position]?,
      ∀ stored ∈ before.domain, CalmOn services input stored request))
  | .create .. | .transfer .. | .verify .. | .challenge .. | .changeStatus ..
  | .archive .. => .isTrue trivial

instance (before : DomainState) (move : DomainMove) : Decidable (FreshToken before move) :=
  match move with
  | .create _ _ _ input | .commit _ input =>
    inferInstanceAs (Decidable (input.token ∉ before.issued))
  | .transfer .. | .verify .. | .challenge .. | .changeStatus .. | .archive .. => .isTrue trivial

def markedServices : DomainServices where
  tokenHash := fun token => String.ofList ('#' :: token.toList)
  nameserver1 := "ns1.example.test"
  nameserver2 := "ns2.example.test"

theorem markedServices_injective : Function.Injective markedServices.tokenHash := by
  intro one two same
  simpa [markedServices] using same

def firstToken : String := "a-token-of-thirty-two-characters"

def published (newToken : String) : DomainInput where
  token := newToken
  txt := .ok [verificationValue firstToken]

def claimed : List DomainMove :=
  [.create 1 "shop.test" .external { token := firstToken }, .verify 1 none 0]

def verifiedAndSuspended : List DomainMove :=
  claimed ++ [.commit 0 (published "second"), .changeStatus 1 { status := .suspended },
      .commit 0 { token := "third" }, .changeStatus 1 { status := .verified },
      .commit 0 { token := "fourth" }, .archive 1, .commit 0 { token := "fifth" }]

theorem verifiedAndSuspended_keepsLifecycle : KeepsLifecycle markedServices verifiedAndSuspended :=
  keepsLifecycle_of_calm markedServices markedServices_injective
    verifiedAndSuspended (EveryStep.of_stepByStep (by decide)) (EveryStep.of_stepByStep (by decide))

/-- The domain is archived while a verification waits for name servers. -/
def archivedWhileVerifying : List DomainMove :=
  claimed ++ [.archive 1, .commit 1 { token := "second" }]

theorem archivedWhileVerifying_leaves : ¬ KeepsLifecycle markedServices
      (archivedWhileVerifying ++ [.commit 0 (published "third")]) := by
  intro keeps
  have run := Run.of_foldl (perform markedServices) archivedWhileVerifying {}
  have later : Run (Performs markedServices)
      (archivedWhileVerifying.foldl (perform markedServices) {})
      [.commit 0 (published "third")] _ := Run.single rfl
  have archived := (keeps archivedWhileVerifying
    [.commit 0 (published "third")] [] _ _ (by simp) run later).2.archived
  exact absurd archived (by decide)

end DomainState

end Ithute
