import Ithute.Library.CircularProbe
import Ithute.Library.TransitionRuns
import Mathlib.Data.Nat.Basic

/-!
# Subnets of hosted projects

Every project of a node gets a network of its own out of a pool.  The agent
begins its search for a free subnet at a hash of the project and compares with
the subnets of the networks that Docker lists and whose inspection answers.
-/

namespace Ithute

open CircularProbe TransitionRuns

namespace Subnets

/-- `ipaddress.IPv4Network`: its address is the first of its block. -/
structure Ipv4Network where
  address : ℕ
  prefixLength : ℕ
  prefix_le : prefixLength ≤ 32
  aligned : 2 ^ (32 - prefixLength) ∣ address
  bounded : address + 2 ^ (32 - prefixLength) ≤ 2 ^ 32

namespace Ipv4Network

variable (network other : Ipv4Network)

def size : ℕ := 2 ^ (32 - network.prefixLength)

def broadcast : ℕ := network.address + network.size - 1

/-- `address in network`: the address is masked. -/
def contains (address : ℕ) : Bool := address / network.size * network.size = network.address

def overlaps : Bool :=
  network.contains other.address || (network.contains other.broadcast ||
    (other.contains network.address || other.contains network.broadcast))

def subnetOf : Bool :=
  decide (other.address ≤ network.address) && decide (network.broadcast ≤ other.broadcast)

variable {network other}

theorem size_pos : 0 < network.size := Nat.two_pow_pos _

theorem subnetOf_iff : network.subnetOf other = true ↔ other.address ≤ network.address ∧
      network.address + network.size ≤ other.address + other.size := by
  have positive := network.size_pos
  have otherPositive := other.size_pos
  rw [subnetOf, Bool.and_eq_true, decide_eq_true_eq, decide_eq_true_eq, broadcast, broadcast]
  omega

theorem contains_iff {address : ℕ} : network.contains address = true ↔
    network.address ≤ address ∧ address < network.address + network.size := by
  obtain ⟨index, is⟩ := network.aligned
  rw [contains, decide_eq_true_eq, is, size, Nat.mul_comm,
    Nat.mul_right_inj (Nat.two_pow_pos _).ne', Nat.div_eq_iff (Nat.two_pow_pos _)]
  have positive := Nat.two_pow_pos (32 - network.prefixLength)
  rw [Nat.mul_comm index]
  omega

variable (network other) in
/-- No address is in both networks. -/
def Apart : Prop :=
  ∀ address, network.contains address = true → other.contains address = false

theorem overlaps_eq_false_iff : network.overlaps other = false ↔ network.Apart other := by
  have positive := network.size_pos
  have otherPositive := other.size_pos
  have bounds : network.overlaps other = true ↔ network.address < other.address + other.size ∧
      other.address < network.address + network.size := by
    simp only [overlaps, Bool.or_eq_true, contains_iff, broadcast]
    omega
  simp only [Apart, ← Bool.not_eq_true, bounds, contains_iff]
  constructor
  · intro separate address inside
    omega
  · rintro apart ⟨below, above⟩
    refine apart (max network.address other.address) ⟨?_, ?_⟩ ⟨?_, ?_⟩ <;> omega

end Ipv4Network

/-- A pool with the prefix length of the projects, as `parse_pool` admits
them. -/
structure ProjectPool where
  network : Ipv4Network
  subnetPrefix : ℕ
  pool_le : network.prefixLength ≤ subnetPrefix
  subnet_le : subnetPrefix ≤ 28

/-- What `ip_network` reads from a text. -/
inductive IpNetwork where
  | v4 (network : Ipv4Network)
  | v6

/-- `ip_network` with `strict`, whose error is `none`, and `is_private`. -/
structure AddressTools where
  strictNetwork : String → Option IpNetwork
  isPrivate : Ipv4Network → Bool

def parsePool (tools : AddressTools) (value : String) (subnetPrefix : ℕ) :
    Except String ProjectPool :=
  match tools.strictNetwork value with
  | none => .error "ITHUTE_HOSTING_NETWORK_POOL must be a canonical IPv4 CIDR"
  | some .v6 => .error "ITHUTE_HOSTING_NETWORK_POOL must be a private IPv4 network"
  | some (.v4 pool) =>
    if tools.isPrivate pool then
      if admits : pool.prefixLength ≤ subnetPrefix ∧ subnetPrefix ≤ 28 then
        .ok ⟨pool, subnetPrefix, admits.1, admits.2⟩
      else .error "ITHUTE_HOSTING_NETWORK_PREFIX must be between the pool prefix and /28"
    else .error "ITHUTE_HOSTING_NETWORK_POOL must be a private IPv4 network"

namespace ProjectPool

variable (pool : ProjectPool)

def total : ℕ := 2 ^ (pool.subnetPrefix - pool.network.prefixLength)

def blockSize : ℕ := 2 ^ (32 - pool.subnetPrefix)

instance total_neZero : NeZero pool.total := ⟨(Nat.two_pow_pos _).ne'⟩

theorem total_mul_blockSize : pool.total * pool.blockSize = pool.network.size := by
  have above := pool.pool_le
  have below := pool.subnet_le
  rw [total, blockSize, Ipv4Network.size, ← Nat.pow_add]
  congr 1
  omega

theorem block_le (index : Fin pool.total) :
    index * pool.blockSize + pool.blockSize ≤ pool.network.size := by
  rw [← total_mul_blockSize, ← Nat.succ_mul]
  exact Nat.mul_le_mul_right _ index.isLt

def subnet (index : Fin pool.total) : Ipv4Network where
  address := pool.network.address + index * pool.blockSize
  prefixLength := pool.subnetPrefix
  prefix_le := pool.subnet_le.trans (by decide)
  aligned := by
    refine Nat.dvd_add ?_ (Nat.dvd_mul_left _ _)
    refine Nat.dvd_trans (Nat.pow_dvd_pow 2 ?_) pool.network.aligned
    exact Nat.sub_le_sub_left pool.pool_le 32
  bounded := by
    have fits := pool.block_le index
    have whole := pool.network.bounded
    unfold blockSize Ipv4Network.size at *
    omega

/-- The subnets of the pool with the prefix length of the projects. -/
def Has (subnet : Ipv4Network) : Prop :=
  subnet.subnetOf pool.network = true ∧ subnet.prefixLength = pool.subnetPrefix

theorem has_subnet (index : Fin pool.total) : pool.Has (pool.subnet index) := by
  refine ⟨Ipv4Network.subnetOf_iff.mpr ⟨Nat.le_add_right _ _, ?_⟩, rfl⟩
  have fits := pool.block_le index
  change pool.network.address + index * pool.blockSize + pool.blockSize ≤ _
  omega

theorem exists_of_has {subnet : Ipv4Network} (has : pool.Has subnet) :
    ∃ index, pool.subnet index = subnet := by
  obtain ⟨inside, sized⟩ := has
  rw [Ipv4Network.subnetOf_iff] at inside
  have size : subnet.size = pool.blockSize := by rw [Ipv4Network.size, sized, blockSize]
  have blocks : pool.blockSize ∣ subnet.address - pool.network.address := by
    refine Nat.dvd_sub (size ▸ subnet.aligned) ?_
    refine Nat.dvd_trans (Nat.pow_dvd_pow 2 ?_) pool.network.aligned
    exact Nat.sub_le_sub_left pool.pool_le 32
  obtain ⟨index, is⟩ := blocks
  have positive : 0 < pool.blockSize := Nat.two_pow_pos _
  have below : index < pool.total := by
    refine Nat.lt_of_mul_lt_mul_left (a := pool.blockSize) ?_
    rw [← is, Nat.mul_comm, total_mul_blockSize]
    omega
  refine ⟨⟨index, below⟩, ?_⟩
  obtain ⟨address, prefixLength, _, _, _⟩ := subnet
  subst sized
  simp only [ProjectPool.subnet, Ipv4Network.mk.injEq, and_true]
  dsimp only at is inside
  rw [Nat.mul_comm index, ← is]
  omega

end ProjectPool

section Search

variable (pool : ProjectPool) (digest : String → ℕ)

/-- `digest` is the number that the hash of a project id begins with. -/
def chooseProjectSubnet (projectId : String) (used : List Ipv4Network) :
    Except String Ipv4Network :=
  if projectId = "" then .error "Project id is required for network allocation"
  else
    let found := probe (digest projectId % pool.total) fun index =>
      let candidate := pool.subnet index
      if used.any candidate.overlaps then none else some candidate
    match found with
    | some candidate => .ok candidate
    | none => .error "Ithute hosted network pool is exhausted"

variable {pool digest}

/-- What `parse_pool` accepts. -/
theorem parsePool_spec {tools : AddressTools} {value : String} {subnetPrefix : ℕ}
    (admitted : parsePool tools value subnetPrefix = .ok pool) :
    tools.strictNetwork value = some (.v4 pool.network) ∧ tools.isPrivate pool.network = true ∧
      pool.subnetPrefix = subnetPrefix := by
  unfold parsePool at admitted
  split at admitted
  · cases admitted
  · cases admitted
  · rename_i network reads
    split_ifs at admitted with isPrivate admits
    cases admitted
    exact ⟨reads, isPrivate, rfl⟩

/-- A subnet of the pool that shares no address with a used network. -/
def ProjectPool.Free (pool : ProjectPool) (used : List Ipv4Network) (subnet : Ipv4Network) : Prop :=
  pool.Has subnet ∧ ∀ other ∈ used, subnet.Apart other

theorem free_of_choose {projectId : String} {used : List Ipv4Network} {subnet : Ipv4Network}
    (chosen : chooseProjectSubnet pool digest projectId used = .ok subnet) :
    pool.Free used subnet := by
  unfold chooseProjectSubnet at chosen
  split_ifs at chosen
  dsimp only at chosen
  split at chosen
  · rename_i candidate found
    cases chosen
    obtain ⟨index, is⟩ := exists_of_probe found
    split_ifs at is with overlapping
    cases is
    refine ⟨pool.has_subnet index, fun other member => ?_⟩
    rw [Bool.not_eq_true, List.any_eq_false] at overlapping
    exact Ipv4Network.overlaps_eq_false_iff.mp (Bool.eq_false_of_not_eq_true
      (overlapping other member))
  · cases chosen

theorem not_free_of_choose {projectId message : String} {used : List Ipv4Network}
    (known : projectId ≠ "")
    (exhausted : chooseProjectSubnet pool digest projectId used = .error message) :
    message = "Ithute hosted network pool is exhausted" ∧ ∀ subnet, ¬ pool.Free used subnet := by
  unfold chooseProjectSubnet at exhausted
  rw [if_neg known] at exhausted
  dsimp only at exhausted
  split at exhausted
  · cases exhausted
  · rename_i none
    cases exhausted
    refine ⟨rfl, ?_⟩
    rintro subnet ⟨has, free⟩
    obtain ⟨index, rfl⟩ := pool.exists_of_has has
    have overlapping := (probe_eq_none_iff _).mp none index
    simp only [ite_eq_left_iff, reduceCtorEq, imp_false, not_not, List.any_eq_true] at overlapping
    obtain ⟨other, member, overlaps⟩ := overlapping
    rw [Ipv4Network.overlaps_eq_false_iff.mpr (free other member)] at overlaps
    cases overlaps

end Search

/-- A network of Docker: the lines of its subnets as `ip_network` reads them,
and the project that it was created for. -/
structure DockerNetwork where
  name : String
  subnets : List (Option IpNetwork)
  project : Option String := none

def parseExistingSubnets (lines : List (Option IpNetwork)) : List Ipv4Network :=
  lines.filterMap fun line =>
    match line with
    | some (.v4 network) => some network
    | _ => none

/-- `answers` tells for which networks `docker network inspect` ends with
return code 0; the others are passed over. -/
def existingNetworkSubnets (answers : DockerNetwork → Bool)
    (networks : List DockerNetwork) : List Ipv4Network :=
  parseExistingSubnets ((networks.filter answers).flatMap DockerNetwork.subnets)

/-- `str` of a network. -/
def Ipv4Network.text (network : Ipv4Network) : String :=
  ".".intercalate ([24, 16, 8, 0].map fun bits => toString (network.address / 2 ^ bits % 2 ^ 8)) ++
    "/" ++ toString network.prefixLength

def outsidePool (name : String) (pool : ProjectPool) : String :=
  "Existing project network " ++ name ++ " is outside the reserved Ithute pool " ++
    pool.network.text ++ "; remove the stopped legacy project network before redeploying"

/-- `creates` tells whether Docker creates the network. -/
def ensureHostedNetwork (pool : ProjectPool) (digest : String → ℕ) (name projectId : String)
    (answers : DockerNetwork → Bool) (creates : Bool) (networks : List DockerNetwork) :
    Except String (List DockerNetwork) :=
  match networks.find? fun network => decide (network.name = name) && answers network with
  | some network =>
    match parseExistingSubnets network.subnets with
    | [subnet] =>
      if subnet.subnetOf pool.network then .ok networks
      else .error (outsidePool name pool)
    | _ => .error (outsidePool name pool)
  | none => do
    let candidate ← chooseProjectSubnet pool digest projectId
      (existingNetworkSubnets answers networks)
    if creates then
      .ok (networks ++ [{
        name := name, subnets := [some (.v4 candidate)], project := some projectId }])
    else .error "docker network create"

/-- What happens to the networks of a node: the agent looks after a project,
and others create networks and remove any. -/
inductive NetworkMove where
  | ensure (name projectId : String) (answers : DockerNetwork → Bool) (creates : Bool)
  | create (name : String) (subnets : List (Option IpNetwork))
  | remove (name : String)

def performNetworkMove (pool : ProjectPool) (digest : String → ℕ) (networks : List DockerNetwork) :
    NetworkMove → List DockerNetwork
  | .ensure name projectId answers creates =>
    match ensureHostedNetwork pool digest name projectId answers creates networks with
    | .ok after => after
    | .error _ => networks
  | .create name subnets => networks ++ [{ name := name, subnets := subnets }]
  | .remove name => networks.filter fun network => decide (network.name ≠ name)

def ProjectsDisjoint (networks : List DockerNetwork) : Prop :=
  networks.Pairwise fun first second => first.project.isSome → second.project.isSome →
    ∀ subnet ∈ parseExistingSubnets second.subnets, ∀ other ∈ parseExistingSubnets first.subnets,
      subnet.Apart other

/-- What the agent relies on: Docker answers the inspection of a network of a
project that it has. -/
def InspectionsAnswer (networks : List DockerNetwork) (move : NetworkMove)
    (_ : List DockerNetwork) : Prop :=
  match move with
  | .ensure _ _ answers _ =>
    ∀ network ∈ networks, network.project.isSome → answers network = true
  | _ => True

section Moves

variable {pool : ProjectPool} {digest : String → ℕ} {networks : List DockerNetwork}
variable {answers : DockerNetwork → Bool}

theorem ensureHostedNetwork_cases {name projectId : String} {creates : Bool}
    {after : List DockerNetwork}
    (ensured : ensureHostedNetwork pool digest name projectId answers creates networks =
      .ok after) :
    after = networks ∨ ∃ subnet, pool.Free (existingNetworkSubnets answers networks) subnet ∧
      after = networks ++ [{
        name := name, subnets := [some (.v4 subnet)], project := some projectId }] := by
  unfold ensureHostedNetwork at ensured
  split at ensured
  · split at ensured
    · split_ifs at ensured
      cases ensured
      exact .inl rfl
    · cases ensured
  · cases chosen : chooseProjectSubnet pool digest projectId
        (existingNetworkSubnets answers networks) with
    | error message =>
      rw [chosen] at ensured
      cases ensured
    | ok subnet =>
      rw [chosen] at ensured
      change (if creates = true then _ else _) = Except.ok after at ensured
      split_ifs at ensured
      cases ensured
      exact .inr ⟨subnet, free_of_choose chosen, rfl⟩

theorem mem_existingNetworkSubnets {network : DockerNetwork} (member : network ∈ networks)
    (answered : answers network = true) {subnet : Ipv4Network}
    (has : subnet ∈ parseExistingSubnets network.subnets) :
    subnet ∈ existingNetworkSubnets answers networks := by
  unfold existingNetworkSubnets parseExistingSubnets at *
  rw [List.mem_filterMap] at has ⊢
  obtain ⟨line, lineMem, reads⟩ := has
  exact ⟨line, List.mem_flatMap.mpr
    ⟨network, List.mem_filter.mpr ⟨member, answered⟩, lineMem⟩, reads⟩

theorem projectsDisjoint_perform (disjoint : ProjectsDisjoint networks) {move : NetworkMove}
    (inspects : InspectionsAnswer networks move (performNetworkMove pool digest networks move)) :
    ProjectsDisjoint (performNetworkMove pool digest networks move) := by
  cases move with
  | ensure name projectId answers creates =>
    unfold performNetworkMove
    dsimp only
    split
    · rename_i after ensured
      rcases ensureHostedNetwork_cases ensured with rfl | ⟨subnet, free, rfl⟩
      · exact disjoint
      · refine List.pairwise_append.mpr ⟨disjoint, List.pairwise_singleton _ _, ?_⟩
        intro first firstMem second secondMem hosted _ own ownMem other otherMem
        rw [List.mem_singleton.mp secondMem] at ownMem
        rw [List.mem_singleton.mp ownMem]
        exact free.2 other
          (mem_existingNetworkSubnets firstMem (inspects first firstMem hosted) otherMem)
    · exact disjoint
  | create name subnets =>
    refine List.pairwise_append.mpr ⟨disjoint, List.pairwise_singleton _ _, ?_⟩
    intro first _ second secondMem _ hosted
    rw [List.mem_singleton.mp secondMem] at hosted
    cases hosted
  | remove name => exact disjoint.filter _

end Moves

/-- A chosen subnet is one of the pool and free, a pool is exhausted only where
no subnet of it is free, and whatever happens on a node without networks of
projects, these never overlap as long as Docker answers. -/
theorem projectSubnets_sound (tools : AddressTools) (digest : String → ℕ) {value : String}
    {subnetPrefix : ℕ} {pool : ProjectPool}
    (admitted : parsePool tools value subnetPrefix = .ok pool) :
    (∃ network, tools.strictNetwork value = some (.v4 network) ∧ tools.isPrivate network = true ∧
      ∀ subnet, pool.Has subnet ↔
        subnet.subnetOf network = true ∧ subnet.prefixLength = subnetPrefix) ∧
    (∀ projectId used, projectId ≠ "" → match chooseProjectSubnet pool digest projectId used with
      | .ok subnet => pool.Free used subnet
      | .error message => message = "Ithute hosted network pool is exhausted" ∧
        ∀ subnet, ¬ pool.Free used subnet) ∧
    ∀ start moves networks, (∀ network ∈ start, network.project = none) →
      EveryStep (fun before move after => after = performNetworkMove pool digest before move)
        InspectionsAnswer start moves →
      Run (fun before move after => after = performNetworkMove pool digest before move) start moves
        networks → ProjectsDisjoint networks := by
  refine ⟨?_, ?_, ?_⟩
  · obtain ⟨reads, isPrivate, rfl⟩ := parsePool_spec admitted
    exact ⟨pool.network, reads, isPrivate, fun subnet => Iff.rfl⟩
  · intro projectId used known
    split
    · rename_i chosen
      exact free_of_choose chosen
    · rename_i exhausted
      exact not_free_of_choose known exhausted
  · intro start moves networks foreign inspects run
    refine run.invariant_of_everyStep ?_ ?_ inspects
    · refine List.pairwise_of_forall_mem_list fun first firstMem second _ hosted => ?_
      rw [foreign first firstMem] at hosted
      cases hosted
    · rintro before move _ disjoint rfl answered
      exact projectsDisjoint_perform disjoint answered

def hostedNetwork : Ipv4Network where
  address := 183500800
  prefixLength := 28
  prefix_le := by decide
  aligned := by decide
  bounded := by decide

/-- The address library, as it reads the text of this network. -/
def hostedTools : AddressTools where
  strictNetwork value := if value = "10.240.0.0/28" then some (.v4 hostedNetwork) else none
  isPrivate network := network.address / 2 ^ 24 = 10

def hostedPool : ProjectPool where
  network := hostedNetwork
  subnetPrefix := 28
  pool_le := Nat.le_refl 28
  subnet_le := Nat.le_refl 28

theorem projectSubnets_sound_hostedPool :
    (∃ subnet, chooseProjectSubnet hostedPool (fun _ => 5) "shop" [] = .ok subnet ∧
      hostedPool.Free [] subnet) ∧ ProjectsDisjoint (performNetworkMove hostedPool (fun _ => 5) []
        (.ensure "ithute-shop" "shop" (fun _ => true) true)) := by
  have sound := projectSubnets_sound hostedTools (fun _ => 5) (rfl :
    parsePool hostedTools "10.240.0.0/28" 28 = .ok hostedPool)
  have answered : EveryStep
      (fun before move after => after = performNetworkMove hostedPool (fun _ => 5) before move)
      InspectionsAnswer [] [.ensure "ithute-shop" "shop" (fun _ => true) true] :=
    EveryStep.cons_iff.mpr ⟨fun _ _ _ => rfl, EveryStep.nil⟩
  exact ⟨⟨_, rfl, sound.2.1 "shop" [] (by decide)⟩,
    sound.2.2 [] _ _ (by simp) answered (Run.single rfl)⟩

end Subnets

end Ithute
