import Ithute.PythonValues

/-!
# Ownership of a domain

A tenant claims a domain and proves by a record in its DNS, or by the
delegation of its zone, that it is theirs.  Requests read the row of the
domain, may wait for name servers for as long as those take, and then write
the columns that they have changed.

What name servers answer is input to the end of a request.  Names arrive
normalized, and the events and audit logs of requests are left out.
-/

namespace Ithute

inductive DomainStatus where
  | pendingVerification | verified | suspended | archived
  deriving DecidableEq

inductive DomainDnsMode where
  | external | platform
  deriving DecidableEq

inductive DomainVerificationMethod where
  | txt | nameserver
  deriving DecidableEq

structure Domain where
  tenantId : ℕ
  asciiName : String
  status : DomainStatus := .pendingVerification
  dnsMode : DomainDnsMode := .platform
  verificationMethod : DomainVerificationMethod := .txt
  verificationTokenHash : String
  verificationTokenHint : String
  verificationRecordName : String
  ownershipVerifiedAt : Option ℤ := none

/-- A session writes the columns that differ from what it has loaded. -/
def Domain.flush (loaded changed stored : Domain) : Domain :=
  { stored with
    status :=
      if changed.status = loaded.status then stored.status
      else changed.status
    verificationMethod :=
      if changed.verificationMethod = loaded.verificationMethod then
        stored.verificationMethod
      else changed.verificationMethod
    verificationTokenHash :=
      if changed.verificationTokenHash = loaded.verificationTokenHash then
        stored.verificationTokenHash
      else changed.verificationTokenHash
    verificationTokenHint :=
      if changed.verificationTokenHint = loaded.verificationTokenHint then
        stored.verificationTokenHint
      else changed.verificationTokenHint
    ownershipVerifiedAt :=
      if changed.ownershipVerifiedAt = loaded.ownershipVerifiedAt then
        stored.ownershipVerifiedAt
      else changed.ownershipVerifiedAt }

structure DomainServices where
  tokenHash : String → String
  nameserver1 : String
  nameserver2 : String
  minIntervalSeconds : ℕ := 10
  maxAttemptsPerHour : ℕ := 20

def verificationPrefix : String := "mailbox-dns-verification="

def verificationValue (token : String) : String := verificationPrefix ++ token

def recordName (asciiName : String) : String := "_mailbox-dns-verification." ++ asciiName

/-- `_normalize_nameservers`, as a set. -/
def normalizeNameservers (values : List String) : List String :=
  (values.filter fun value => stripText value ≠ "").map fun value =>
    String.ofList (((stripText value).toList.rdropWhile (· = '.')).flatMap lowerLetter)

def verificationCandidates (observed : List String) (rawToken : Option String) : List String :=
  (presentText rawToken).toList ++ observed.filterMap fun value =>
      if verificationPrefix.toList.isPrefixOf value.toList then
        let candidate := stripText (String.ofList (value.toList.drop verificationPrefix.length))
        if 20 ≤ candidate.length ∧ candidate.length ≤ 200 then some candidate
        else none
      else none

/-- Why a lookup has failed: one of the errors that callers expect, or
another one. -/
inductive DnsFailure where
  | expected (name : String)
  | other (name : String)

abbrev DnsAnswer := Except DnsFailure (List String)

/-- What has shown that the domain is theirs. -/
inductive DomainProof where
  | txt (token : String) (observed : List String)
  | delegation (delegated : List String)

def DomainProof.tokens : DomainProof → List String
  | .txt token _ => [token]
  | .delegation _ => []

section Verification

variable (services : DomainServices)

def expectedNameservers : List String :=
  normalizeNameservers [services.nameserver1, services.nameserver2]

def nameserversConfigured (domain : Domain) : Bool :=
  domain.asciiName ≠ "" ∧ 2 ≤ (expectedNameservers services).dedup.length

def delegatesAll (delegated : List String) : Bool :=
  (expectedNameservers services).all fun expected => expected ∈ normalizeNameservers delegated

def txtProof (domain : Domain) (rawToken : Option String)
    (observed : List String) : Option DomainProof :=
  ((verificationCandidates observed rawToken).find? fun candidate =>
    services.tokenHash candidate = domain.verificationTokenHash &&
      decide (verificationValue candidate ∈ observed)).map fun token => .txt token observed

/-- The proof that a verification has found, or why there is none. -/
def verifyByTxt (domain : Domain) (rawToken : Option String)
    (txt : DnsAnswer) : Except (Option String) DomainProof :=
  match txt with
  | .ok observed =>
    match txtProof services domain rawToken observed with
    | some proof => .ok proof
    | none => .error none
  | .error (.expected name) => .error (some name)
  | .error (.other name) => .error (some ("resolver_error:" ++ name))

def verifyByDelegation (domain : Domain) (delegation : DnsAnswer) :
    Except (Option String) DomainProof :=
  if domain.dnsMode ≠ .platform then
    .error (some "nameserver_verification_requires_platform_dns")
  else if nameserversConfigured services domain then
    match delegation with
    | .ok delegated =>
      if delegatesAll services delegated then .ok (.delegation delegated)
      else .error (some "delegation_not_ready")
    | .error (.expected name) => .error (some ("delegation_" ++ name))
    | .error (.other name) => .error (some ("delegation_resolver_error:" ++ name))
  else .error (some "platform_nameservers_not_configured")

/-- A domain on external DNS may have been delegated in the meantime. -/
def verifyDomain (domain : Domain) (rawToken : Option String)
    (txt delegation : DnsAnswer) : Except (Option String) DomainProof :=
  match domain.verificationMethod with
  | .nameserver => verifyByDelegation services domain delegation
  | .txt =>
    match verifyByTxt services domain rawToken txt with
    | .ok proof => .ok proof
    | .error error =>
      match verifyByDelegation services domain delegation with
      | .ok proof => .ok proof
      | .error _ => .error error

/-- A domain that has been verified, whose old token is of no use. -/
def Domain.verify (domain : Domain) (now : ℤ) (token : String) : Domain :=
  { domain with
    status := .verified
    ownershipVerifiedAt := some now
    verificationTokenHash := services.tokenHash token
    verificationTokenHint := "verified" }

end Verification

/-- What an inspection of the name servers of a domain has found. -/
structure NameserverDiscovery where
  found : Bool
  currentNameservers : List String
  alreadyOnPlatform : Bool

def NameserverDiscovery.hasExternal (discovery : NameserverDiscovery) : Bool :=
  discovery.found && discovery.currentNameservers ≠ [] && !discovery.alreadyOnPlatform

/-- `none` when the name servers of the platform are not ready. -/
def verificationMethodForNewDomain (dnsMode : DomainDnsMode)
    (discovery : Option NameserverDiscovery) : Except String DomainVerificationMethod :=
  match dnsMode with
  | .external => .ok .txt
  | .platform =>
    match discovery with
    | none =>
      .error "Managed DNS onboarding is unavailable because the public Ithute nameservers are not configured. No unsafe verification fallback is used."
    | some discovery => .ok (if discovery.hasExternal then .txt else .nameserver)

def tokenHint (token : String) : String :=
  String.ofList (token.toList.drop (token.toList.length - 8))

def challengeMethod (domain : Domain) (discovery : Option NameserverDiscovery) :
    Except String DomainVerificationMethod :=
  match domain.verificationMethod with
  | .txt => .ok .txt
  | .nameserver =>
    if domain.dnsMode ≠ .platform then
      .error "TXT verification is not available for this domain"
    else
      match discovery with
      | none =>
        .error "Managed DNS onboarding is unavailable because the public Ithute nameservers are not configured. No unsafe verification fallback is used."
      | some discovery =>
        if discovery.hasExternal then .ok .txt
        else if discovery.alreadyOnPlatform then
          .error "This domain is already delegated to Ithute; use nameserver verification"
        else
          .error "No external authoritative DNS provider was detected. Prepare DNS and delegate both Ithute nameservers to verify ownership."

def Domain.challenge (services : DomainServices) (domain : Domain)
    (method : DomainVerificationMethod) (token : String) : Domain :=
  { domain with
    verificationMethod := method
    verificationTokenHash := services.tokenHash token
    verificationTokenHint := tokenHint token
    status := .pendingVerification
    ownershipVerifiedAt := none }

structure DomainStatusUpdate where
  status : DomainStatus
  byHand : status ≠ .pendingVerification := by decide

/-- A request that has read the domain and passed its checks. -/
inductive DomainRequest where
  | verify (loaded : Domain) (rawToken : Option String) (startedAt : ℤ)
      (begun : ℕ) (active : loaded.status ≠ .archived)
  | challenge (loaded : Domain) (active : loaded.status ≠ .archived)
  | changeStatus (loaded : Domain) (payload : DomainStatusUpdate)
      (active : loaded.status ≠ .archived)
      (owned : payload.status = .verified → loaded.ownershipVerifiedAt ≠ none)
  | archive (loaded : Domain) (active : loaded.status ≠ .archived)

structure DomainInput where
  now : ℤ := 0
  /-- What `new_verification_token` gives. -/
  token : String := ""
  txt : DnsAnswer := .error (.expected "Timeout")
  delegation : DnsAnswer := .error (.expected "Timeout")
  discovery : Option NameserverDiscovery := none

/-- A proof, and how many challenges had been issued when the request that
found it began. -/
structure FoundProof where
  proof : DomainProof
  begun : ℕ

/-- The domain and the requests on it.  What is known about the past is kept
beside them: the tokens, the last challenge, the proofs since then, the tokens
that have verified, and how often the status was set to verified by hand. -/
structure DomainState where
  domain : Option Domain := none
  requests : List DomainRequest := []
  attempts : List ℤ := []
  issued : List String := []
  challenges : ℕ := 0
  challenge : String := ""
  proofs : List FoundProof := []
  used : List String := []
  restored : ℕ := 0

inductive DomainMove where
  | create (tenantId : ℕ) (asciiName : String) (dnsMode : DomainDnsMode) (input : DomainInput)
  | transfer (tenantId targetTenantId : ℕ) (accepted : Bool)
  | verify (tenantId : ℕ) (rawToken : Option String) (now : ℤ)
  | challenge (tenantId : ℕ)
  | changeStatus (tenantId : ℕ) (payload : DomainStatusUpdate)
  | archive (tenantId : ℕ)
  | commit (position : ℕ) (input : DomainInput)

/-- `_enforce_verification_throttle`; times are in microseconds. -/
def throttled (services : DomainServices) (attempts : List ℤ) (now : ℤ) : Bool :=
  (attempts.max?.any fun latest => now - latest < services.minIntervalSeconds * 1000000) ||
  decide (services.maxAttemptsPerHour ≤
    (attempts.filter fun attempt => now - 3600 * 1000000 ≤ attempt).length)

namespace DomainState

variable (services : DomainServices) (state : DomainState)

def domainOf (tenantId : ℕ) : Option Domain :=
  state.domain.filter fun domain => domain.tenantId = tenantId

def createDomain (tenantId : ℕ) (asciiName : String)
    (dnsMode : DomainDnsMode) (input : DomainInput) : DomainState :=
  match state.domain, verificationMethodForNewDomain dnsMode
      input.discovery with
  | some _, _ | _, .error _ => state
  | none, .ok method =>
    { state with
      domain := some
        { tenantId := tenantId
          asciiName := asciiName
          dnsMode := dnsMode
          verificationMethod := method
          verificationTokenHash := services.tokenHash input.token
          verificationTokenHint :=
            match method with
            | .txt => tokenHint input.token
            | .nameserver => "not-needed"
          verificationRecordName := recordName asciiName }
      issued := state.issued ++ [input.token]
      challenges := state.challenges + 1
      challenge := input.token
      proofs := [] }

def transferDomain (tenantId targetTenantId : ℕ) (accepted : Bool) : DomainState :=
  match state.domainOf tenantId with
  | none => state
  | some domain =>
    if targetTenantId = tenantId ∨ domain.status = .archived ∨ accepted = false then
      state
    else { state with domain := some { domain with tenantId := targetTenantId } }

def ask (request : DomainRequest) : DomainState :=
  { state with requests := state.requests ++ [request] }

def askVerify (tenantId : ℕ) (rawToken : Option String) (now : ℤ) : DomainState :=
  match state.domainOf tenantId with
  | none => state
  | some domain =>
    if active : domain.status ≠ .archived then
      if throttled services state.attempts now then state
      else state.ask (.verify domain rawToken now state.challenges active)
    else state

def askChallenge (tenantId : ℕ) : DomainState :=
  match state.domainOf tenantId with
  | none => state
  | some domain =>
    if active : domain.status ≠ .archived then
      state.ask (.challenge domain active)
    else state

def askStatus (tenantId : ℕ) (payload : DomainStatusUpdate) : DomainState :=
  match state.domainOf tenantId with
  | none => state
  | some domain =>
    if owned : payload.status = .verified → domain.ownershipVerifiedAt ≠ none then
      if active : domain.status ≠ .archived then
        state.ask (.changeStatus domain payload active owned)
      else state
    else state

def askArchive (tenantId : ℕ) : DomainState :=
  match state.domainOf tenantId with
  | none => state
  | some domain =>
    if active : domain.status ≠ .archived then
      state.ask (.archive domain active)
    else state

def write (loaded changed : Domain) : Option Domain := state.domain.map (loaded.flush changed)

def finish (request : DomainRequest) (input : DomainInput) : DomainState :=
  match request with
  | .verify loaded rawToken startedAt begun _ =>
    let attempted :=
      { state with attempts := state.attempts ++ [startedAt] }
    match verifyDomain services loaded rawToken input.txt
        input.delegation with
    | .error _ => attempted
    | .ok proof =>
      { attempted with
        domain := state.write loaded
          (loaded.verify services input.now input.token)
        issued := state.issued ++ [input.token]
        proofs := state.proofs ++
          [{ proof := proof
             begun := begun }]
        used := state.used ++ proof.tokens }
  | .challenge loaded _ =>
    match challengeMethod loaded input.discovery with
    | .error _ => state
    | .ok method =>
      { state with
        domain := state.write loaded
          (loaded.challenge services method input.token)
        issued := state.issued ++ [input.token]
        challenges := state.challenges + 1
        challenge := input.token
        proofs := [] }
  | .changeStatus loaded payload _ _ =>
    { state with
      domain := state.write loaded { loaded with status := payload.status }
      restored :=
        if payload.status = .verified then state.restored + 1
        else state.restored }
  | .archive loaded _ =>
    { state with
      domain := state.write loaded { loaded with status := .archived } }

def commit (position : ℕ) (input : DomainInput) : DomainState :=
  match state.requests[position]? with
  | none => state
  | some request =>
    finish services { state with requests := state.requests.eraseIdx position } request input

def perform : DomainMove → DomainState
  | .create tenantId asciiName dnsMode input =>
    state.createDomain services tenantId asciiName dnsMode input
  | .transfer tenantId targetTenantId accepted =>
    state.transferDomain tenantId targetTenantId accepted
  | .verify tenantId rawToken now =>
    state.askVerify services tenantId rawToken now
  | .challenge tenantId => state.askChallenge tenantId
  | .changeStatus tenantId payload => state.askStatus tenantId payload
  | .archive tenantId => state.askArchive tenantId
  | .commit position input => state.commit services position input

end DomainState

end Ithute
