import Ithute.DomainOwnership

/-!
# What requests on a domain do

Every move leaves the system as it is, claims or hands over the domain, lets
a request read the row, or ends a request that has read it.
-/

namespace Ithute

section Writes

variable {loaded changed stored : Domain}

theorem Domain.flush_status_same (same : changed.status = loaded.status) :
    (loaded.flush changed stored).status = stored.status :=
  if_pos same

theorem Domain.flush_status_changed (apart : changed.status ≠ loaded.status) :
    (loaded.flush changed stored).status = changed.status :=
  if_neg apart

end Writes

def DomainRequest.loaded : DomainRequest → Domain
  | .verify loaded .. | .challenge loaded .. | .changeStatus loaded ..
  | .archive loaded .. => loaded

/-- The challenges that had been issued when a verification began. -/
def DomainRequest.begun? : DomainRequest → Option ℕ
  | .verify _ _ _ begun _ => some begun
  | .challenge .. | .changeStatus .. | .archive .. => none

section Moves

variable (services : DomainServices) (before : DomainState)

inductive ReadsDomain : DomainRequest → Prop
  | verify {loaded : Domain} {rawToken : Option String} {startedAt : ℤ}
      {active : loaded.status ≠ .archived} (current : before.domain = some loaded) :
      ReadsDomain (.verify loaded rawToken startedAt before.challenges active)
  | challenge {loaded : Domain} {active : loaded.status ≠ .archived}
      (current : before.domain = some loaded) : ReadsDomain (.challenge loaded active)
  | changeStatus {loaded : Domain} {payload : DomainStatusUpdate}
      {active : loaded.status ≠ .archived}
      {owned : payload.status = .verified → loaded.ownershipVerifiedAt ≠ none}
      (current : before.domain = some loaded) :
      ReadsDomain (.changeStatus loaded payload active owned)
  | archive {loaded : Domain} {active : loaded.status ≠ .archived}
      (current : before.domain = some loaded) : ReadsDomain (.archive loaded active)

/-- The end of a request on the row that it has read. -/
inductive EndsRequest (input : DomainInput) : DomainRequest → DomainState → Prop
  | refused {request : DomainRequest} {attempts : List ℤ} :
      EndsRequest input request { before with attempts := attempts }
  | verified {loaded : Domain} {rawToken : Option String} {startedAt : ℤ}
      {begun : ℕ} {active : loaded.status ≠ .archived} {proof : DomainProof}
      (found : verifyDomain services loaded rawToken input.txt
        input.delegation = .ok proof) :
      EndsRequest input (.verify loaded rawToken startedAt begun active)
        { before with
          domain := before.write loaded
            (loaded.verify services input.now input.token)
          attempts := before.attempts ++ [startedAt]
          issued := before.issued ++ [input.token]
          proofs := before.proofs ++
            [{ proof := proof
               begun := begun }]
          used := before.used ++ proof.tokens }
  | challenged {loaded : Domain} {active : loaded.status ≠ .archived}
      {method : DomainVerificationMethod}
      (allowed : challengeMethod loaded input.discovery = .ok method) :
      EndsRequest input (.challenge loaded active)
        { before with
          domain := before.write loaded
            (loaded.challenge services method input.token)
          issued := before.issued ++ [input.token]
          challenges := before.challenges + 1
          challenge := input.token
          proofs := [] }
  | changed {loaded : Domain} {payload : DomainStatusUpdate}
      {active : loaded.status ≠ .archived}
      {owned : payload.status = .verified → loaded.ownershipVerifiedAt ≠ none} :
      EndsRequest input (.changeStatus loaded payload active owned)
        { before with
          domain := before.write loaded { loaded with status := payload.status }
          restored :=
            if payload.status = .verified then before.restored + 1
            else before.restored }
  | archived {loaded : Domain} {active : loaded.status ≠ .archived} :
      EndsRequest input (.archive loaded active)
        { before with
          domain := before.write loaded { loaded with status := .archived } }

inductive DomainMoved : DomainMove → DomainState → Prop
  | idle {move : DomainMove} : DomainMoved move before
  | created {tenantId : ℕ} {asciiName : String} {dnsMode : DomainDnsMode}
      {input : DomainInput} {domain : Domain} (absent : before.domain = none)
      (pending : domain.status = .pendingVerification) (unowned : domain.ownershipVerifiedAt = none)
      (digest : domain.verificationTokenHash = services.tokenHash input.token) :
      DomainMoved (.create tenantId asciiName dnsMode input) { before with
          domain := some domain
          issued := before.issued ++ [input.token]
          challenges := before.challenges + 1
          challenge := input.token
          proofs := [] }
  | transferred {tenantId targetTenantId : ℕ} {accepted : Bool}
      {domain : Domain} (current : before.domain = some domain) :
      DomainMoved (.transfer tenantId targetTenantId accepted) { before with
          domain := some { domain with tenantId := targetTenantId } }
  | asked {move : DomainMove} {request : DomainRequest} (reads : ReadsDomain before request) :
      DomainMoved move (before.ask request)
  | ended {position : ℕ} {input : DomainInput} {request : DomainRequest} {after : DomainState}
      (found : before.requests[position]? = some request) (ends : EndsRequest services
        { before with requests := before.requests.eraseIdx position } input request after) :
      DomainMoved (.commit position input) after

namespace DomainState

theorem domainOf_spec {tenantId : ℕ} {domain : Domain}
    (found : before.domainOf tenantId = some domain) : before.domain = some domain :=
  (Option.filter_eq_some_iff.mp found).1

theorem finish_ends (request : DomainRequest) (input : DomainInput) :
    EndsRequest services before input request (before.finish services request input) := by
  cases request with
  | verify loaded rawToken startedAt begun active =>
    dsimp only [finish]
    split
    · exact .refused
    · rename_i found
      exact .verified found
  | challenge loaded active =>
    dsimp only [finish]
    split
    · exact .refused
    · rename_i allowed
      exact .challenged allowed
  | changeStatus loaded payload active owned => exact .changed
  | archive loaded active => exact .archived

theorem perform_moved (move : DomainMove) :
    DomainMoved services before move (before.perform services move) := by
  cases move with
  | create tenantId asciiName dnsMode input =>
    dsimp only [perform]
    unfold createDomain
    split
    · exact .idle
    · exact .idle
    · rename_i absent _
      exact .created absent rfl rfl rfl
  | transfer tenantId targetTenantId accepted =>
    dsimp only [perform]
    unfold transferDomain
    split
    · exact .idle
    · rename_i found
      split
      · exact .idle
      · exact .transferred (domainOf_spec before found)
  | verify tenantId rawToken now =>
    dsimp only [perform]
    unfold askVerify
    split
    · exact .idle
    · rename_i found
      split_ifs
      · exact .idle
      · exact .asked (.verify (domainOf_spec before found))
      · exact .idle
  | challenge tenantId =>
    dsimp only [perform]
    unfold askChallenge
    split
    · exact .idle
    · rename_i found
      split_ifs
      · exact .asked (.challenge (domainOf_spec before found))
      · exact .idle
  | changeStatus tenantId payload =>
    dsimp only [perform]
    unfold askStatus
    split
    · exact .idle
    · rename_i found
      split_ifs
      · exact .asked (.changeStatus (domainOf_spec before found))
      · exact .idle
      · exact .idle
  | archive tenantId =>
    dsimp only [perform]
    unfold askArchive
    split
    · exact .idle
    · rename_i found
      split_ifs
      · exact .asked (.archive (domainOf_spec before found))
      · exact .idle
  | commit position input =>
    dsimp only [perform]
    unfold commit
    split
    · exact .idle
    · rename_i request found
      exact .ended found (finish_ends services _ request input)

end DomainState

end Moves

end Ithute
