import Ithute.AuthSignIn
import Ithute.PythonAddresses

/-!
# Addresses of clients behind proxies

The central sign-in takes the address of a client from the forwarding header
when the peer is a trusted proxy.  Every proxy appends the address of its own
peer to the header that it receives, so that the end of the header is the
chain that the request came by, and what stands before it is the client's own
text.
-/

namespace Ithute

open Texts Words Addresses

namespace ClientAddress

/-- What `client_ip` reads of a request. -/
structure Request where
  clientHost : Option Text
  forwardedFor : Option Text

section Reading

variable (networks : List IpNetwork)

def isTrusted (address : IpAddress) : Bool := networks.any fun network => network.contains address

def trustedProxy (peer : Option Text) : Bool :=
  match peer with
  | none => false
  | some peer => ! peer.isEmpty && (ipAddress peer).any (isTrusted networks)

def candidate? (value : Text) : Option Text :=
  let candidate := value.take 64
  match ipAddress candidate with
  | none => none
  | some address => if isTrusted networks address then none else some candidate

def clientIp (request : Request) : Option Text :=
  let peer := request.clientHost.map (·.take 64)
  match request.forwardedFor with
  | none => peer
  | some forwarded =>
    if forwarded ≠ [] ∧ trustedProxy networks peer = true then
      let values := ((forwarded.splitOn ',').map strip).filter fun value => ! value.isEmpty
      match values.reverse.findSome? (candidate? networks) with
      | some candidate => some candidate
      | none => peer
    else peer

end Reading

/-- The text of an address.  The scope of one, if it has any, is the name of a
network interface, which has at most fifteen characters. -/
structure PeerAddress where
  text : Text
  address : IpAddress
  parses : ipAddress text = some address
  shortScope : (scopePart text).length ≤ 16
  plainScope : ∀ character ∈ scopePart text, character ≠ ',' ∧ isSpaceMark character = false

/-- A proxy of the chain: its own peer, and the blanks around the entry that
it writes. -/
structure Hop where
  peer : PeerAddress
  lead : Text := []
  trail : Text := []
  blankLead : ∀ character ∈ lead, isSpaceMark character = true
  blankTrail : ∀ character ∈ trail, isSpaceMark character = true

def Hop.entry (hop : Hop) : Text := hop.lead ++ hop.peer.text ++ hop.trail

def Hop.append (header : Option Text) (hop : Hop) : Option Text :=
  match header with
  | none => some hop.entry
  | some header => some (header ++ ',' :: hop.entry)

/-- The request that a server receives from its peer after a chain of proxies,
the last of which is the peer; the client has written a header of its own. -/
def received (header : Option Text) (hops : List Hop) (peer : PeerAddress) : Request where
  clientHost := some peer.text
  forwardedFor := hops.foldl Hop.append header

def firstUntrusted (networks : List IpNetwork) (hops : List Hop) (peer : PeerAddress) :
    Option PeerAddress :=
  (peer :: (hops.map Hop.peer).reverse).find? fun peer => ! isTrusted networks peer.address

variable {networks : List IpNetwork} {hops : List Hop} {peer : PeerAddress}

theorem isSpaceMark_of_addressCharacter {character : Char}
    (plain : addressCharacter character = true) :
    character ≠ ',' ∧ isSpaceMark character = false := by
  have ascii : 0x2E ≤ character.toNat ∧ character.toNat ≤ 0x66 := by
    simp only [addressCharacter, Addresses.isHexDigit, Char.isDigit, Bool.or_eq_true,
      Bool.and_eq_true, decide_eq_true_eq] at plain
    rcases plain with (((⟨low, high⟩ | ⟨low, high⟩) | ⟨low, high⟩) | rfl) | rfl
    · have : 48 ≤ character.toNat := low
      have : character.toNat ≤ 57 := high
      omega
    · have : 97 ≤ character.toNat := low
      have : character.toNat ≤ 102 := high
      omega
    · have : 65 ≤ character.toNat := low
      have : character.toNat ≤ 70 := high
      omega
    · decide
    · decide
  have value : (Fin.ofNat 0x110000 character.toNat).val = character.toNat :=
    Nat.mod_eq_of_lt (by omega)
  constructor
  · rintro rfl
    exact absurd ascii (by decide)
  · simp only [isSpaceMark, isPythonSpace, value, decide_eq_false_iff_not]
    omega

namespace PeerAddress

theorem ipVersion_isSome (peer : PeerAddress) : (ipVersion peer.text).isSome = true := by
  have parses := congrArg Option.isSome peer.parses
  rwa [ipAddress, Option.isSome_map] at parses

theorem nonempty (peer : PeerAddress) : peer.text ≠ [] := (ipVersion_spec peer.ipVersion_isSome).1

theorem take_text (peer : PeerAddress) : peer.text.take 64 = peer.text := by
  have bare := (ipVersion_spec peer.ipVersion_isSome).2.1
  have scope := peer.shortScope
  have whole := congrArg List.length
    (List.takeWhile_append_dropWhile (p := (· ≠ '%')) (l := peer.text))
  rw [List.length_append] at whole
  rw [scopePart] at scope
  apply List.take_of_length_le
  omega

theorem plain (peer : PeerAddress) {character : Char} (member : character ∈ peer.text) :
    character ≠ ',' ∧ isSpaceMark character = false := by
  rw [← List.takeWhile_append_dropWhile (p := (· ≠ '%')) (l := peer.text)] at member
  rcases List.mem_append.mp member with bare | scope
  · exact isSpaceMark_of_addressCharacter
      ((ipVersion_spec peer.ipVersion_isSome).2.2 character bare)
  · exact peer.plainScope character scope

theorem candidate?_text (peer : PeerAddress) : candidate? networks peer.text =
    if isTrusted networks peer.address then none else some peer.text := by
  rw [candidate?, take_text, peer.parses]

theorem trustedProxy_text (peer : PeerAddress) :
    trustedProxy networks (some peer.text) = isTrusted networks peer.address := by
  simp [trustedProxy, peer.parses, peer.nonempty]

end PeerAddress

theorem Hop.comma_not_mem (hop : Hop) : ',' ∉ hop.entry := by
  have noBlank : isSpaceMark ',' = false := by decide
  intro member
  rcases List.mem_append.mp member with front | trail
  · rcases List.mem_append.mp front with lead | text
    · have blank := hop.blankLead ',' lead
      rw [noBlank] at blank
      cases blank
    · exact (hop.peer.plain text).1 rfl
  · have blank := hop.blankTrail ',' trail
    rw [noBlank] at blank
    cases blank

theorem Hop.strip_entry (hop : Hop) : strip hop.entry = hop.peer.text :=
  IsWord.trim_surround
    { nonempty := hop.peer.nonempty
      solid := fun _ member => (hop.peer.plain member).2 } hop.blankLead hop.blankTrail

def entries (header : Option Text) : List Text :=
  match header with
  | none => []
  | some header => ((header.splitOn ',').map strip).filter fun value => ! value.isEmpty

theorem entries_append (header : Option Text) (hop : Hop) :
    entries (Hop.append header hop) = entries header ++ [hop.peer.text] := by
  have single : (([hop.entry] : List Text).map strip).filter (fun value => ! value.isEmpty) =
      [hop.peer.text] := by
    simp [hop.strip_entry, hop.peer.nonempty]
  cases header with
  | none =>
    simp only [Hop.append, entries, List.splitOn_eq_singleton hop.comma_not_mem, single]
    rfl
  | some header =>
    simp only [Hop.append, entries, List.splitOn_append_cons_self, List.map_append,
      List.filter_append, List.splitOn_eq_singleton hop.comma_not_mem, single]

theorem entries_foldl (header : Option Text) (hops : List Hop) :
    entries (hops.foldl Hop.append header) =
      entries header ++ (hops.map Hop.peer).map PeerAddress.text := by
  induction hops generalizing header with
  | nil => simp
  | cons hop hops ih =>
    rw [List.foldl_cons, ih, entries_append, List.append_assoc, List.map_cons, List.map_cons]
    rfl

theorem clientIp_eq (request : Request) : clientIp networks request =
    if trustedProxy networks (request.clientHost.map (·.take 64)) = true then
      ((entries request.forwardedFor).reverse.findSome? (candidate? networks)).or
        (request.clientHost.map (·.take 64))
    else request.clientHost.map (·.take 64) := by
  unfold clientIp
  cases request.forwardedFor with
  | none => simp [entries]
  | some forwarded =>
    dsimp only
    by_cases none : forwarded = []
    · subst none
      simp [entries, strip, trim]
    · by_cases trusted : trustedProxy networks (request.clientHost.map (·.take 64)) = true
      · rw [if_pos ⟨none, trusted⟩, if_pos trusted]
        dsimp only [entries]
        split
        · rename_i found
          rw [found]
          rfl
        · rename_i absent
          rw [absent]
          rfl
      · rw [if_neg fun both => trusted both.2, if_neg trusted]

theorem findSome?_text (peers : List PeerAddress) :
    (peers.map PeerAddress.text).findSome? (candidate? networks) =
      (peers.find? fun peer => ! isTrusted networks peer.address).map PeerAddress.text := by
  induction peers with
  | nil => rfl
  | cons peer peers ih =>
    rw [List.map_cons, List.findSome?_cons, List.find?_cons, peer.candidate?_text]
    cases isTrusted networks peer.address with
    | true => simpa using ih
    | false => rfl

/-- The address is the one of the first untrusted peer of the chain, whatever
the client has written; and with it whether a sign-in is throttled. -/
theorem clientIp_received {first : PeerAddress}
    (isFirst : firstUntrusted networks hops peer = some first) (header : Option Text) :
    clientIp networks (received header hops peer) = some first.text ∧
      ∀ (other : Option Text) (settings : Auth.SignInSettings) (state : Auth.SignInState),
        state.loginRateLimited settings
            ((clientIp networks (received header hops peer)).map String.ofList) =
          state.loginRateLimited settings
            ((clientIp networks (received other hops peer)).map String.ofList) := by
  have answer (header : Option Text) :
      clientIp networks (received header hops peer) = some first.text := by
    rw [firstUntrusted, List.find?_cons] at isFirst
    rw [clientIp_eq, received, Option.map_some, peer.take_text, peer.trustedProxy_text,
      entries_foldl, List.reverse_append, List.findSome?_append, ← List.map_reverse, findSome?_text]
    cases trusted : isTrusted networks peer.address with
    | true =>
      rw [trusted] at isFirst
      have inChain : (hops.map Hop.peer).reverse.find?
          (fun peer => ! isTrusted networks peer.address) = some first := isFirst
      rw [inChain]
      rfl
    | false =>
      rw [trusted] at isFirst
      cases isFirst
      rfl
  refine ⟨answer header, fun other settings state => ?_⟩
  rw [answer header, answer other]

def privateNetworks : List IpNetwork :=
  [{ version := 4, networkAddress := 0x0A000000, netmask := 0xFF000000 },
    { version := 4, networkAddress := 0x7F000001, netmask := 0xFFFFFFFF }]

def PeerAddress.ofText (text : Text) (address : IpAddress) (parses : ipAddress text = some address)
    (unscoped : scopePart text = []) : PeerAddress where
  text := text
  address := address
  parses := parses
  shortScope := by
    rw [unscoped]
    exact Nat.zero_le 16
  plainScope := by
    rw [unscoped]
    exact fun _ member => absurd member List.not_mem_nil

def visitor : PeerAddress :=
  .ofText "203.0.113.10".toList { version := 4, value := 0xCB00710A } rfl rfl

def edgeProxy : PeerAddress :=
  .ofText "10.20.30.40".toList { version := 4, value := 0x0A141E28 } rfl rfl

def innerProxy : PeerAddress :=
  .ofText "10.1.2.3".toList { version := 4, value := 0x0A010203 } rfl rfl

theorem isSpaceMark_blank : ∀ character ∈ [' '], isSpaceMark character = true := by
  simp [isSpaceMark, isPythonSpace]

def Hop.after (peer : PeerAddress) : Hop where
  peer := peer
  lead := [' ']
  blankLead := isSpaceMark_blank
  blankTrail _ member := absurd member List.not_mem_nil

/-- A client behind two proxies names another address and is found out. -/
theorem clientIp_received_spoofed : clientIp privateNetworks
    (received (some "198.51.100.9, 10.9.9.9".toList)
      [.after visitor, .after edgeProxy] innerProxy) = some "203.0.113.10".toList :=
  (@clientIp_received privateNetworks [.after visitor, .after edgeProxy] innerProxy visitor rfl _).1

end ClientAddress

end Ithute
