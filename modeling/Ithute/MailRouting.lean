import Ithute.MailTables
import Mathlib.Data.List.Sort
import Mathlib.Data.String.Basic

/-!
# The mail routing map

`build_mail_routing` folds mailboxes, aliases and groups into four
dictionaries, which `_lines` writes down key by key.
-/

namespace Ithute.Mail

inductive MailRoutingSyncError where
  | invalidHostname (value : String)
  | noMailNode (address : String)
  | unavailableMailNode (address : String)
  | otherTenantsMailNode (address : String)

def MailRoutingSyncError.text (settings : MailSettings) : MailRoutingSyncError → String
  | .invalidHostname value => "Invalid mail node hostname: " ++ settings.repr value
  | .noMailNode address => "External mailbox " ++ address ++ " has no mail node"
  | .unavailableMailNode address =>
    "External mailbox " ++ address ++ " is assigned to an unavailable or stale mail node"
  | .otherTenantsMailNode address =>
    "External mailbox " ++ address ++ " is assigned to another tenant's dedicated mail node"

def safeHost (settings : MailSettings) (value : String) : Except MailRoutingSyncError String :=
  let host := rstripDots (settings.lower (stripText value))
  if host = "" || host.toList.any fun character =>
        isPythonSpace (Fin.ofNat _ character.toNat) || character ∈ ['[', ']', ':', '/', '\\'] then
    .error (.invalidHostname value)
  else .ok host

abbrev RoutingMap := UnorderedMap String String

structure MailRouting where
  relayDomains : RoutingMap := ∅
  relayRecipients : RoutingMap := ∅
  transport : RoutingMap := ∅
  virtualAliases : RoutingMap := ∅

namespace MailTables

variable (settings : MailSettings) (now : ℤ) (tables : MailTables)

def servedDomains : List Domain :=
  tables.domains.filter fun domain => domain.status = .verified && domain.mailEnabled

/-- Whether an identifier is a key of `domain_names`. -/
def serves (domainId : ℕ) : Bool := tables.servedDomains.any fun domain => domain.id = domainId

def domainName (domain : Domain) : String := rstripDots (settings.lower domain.asciiName)

def node? (id : ℕ) : Option MailNode := tables.nodes.find? fun node => node.id = id

def transportHost (mailbox : Mailbox) : Except MailRoutingSyncError String :=
  let address := settings.lower mailbox.address
  match mailbox.storageType with
  | .internal => safeHost settings settings.mailGatewayInternalHost
  | .external =>
    match mailbox.mailNodeId with
    | none => .error (.noMailNode address)
    | some nodeId =>
      match tables.node? nodeId with
      | none => .error (.unavailableMailNode address)
      | some node =>
        if node.status ≠ .active || ! node.fresh settings now || ! node.smtpReady then
          .error (.unavailableMailNode address)
        else if node.tenantId.any fun tenantId =>
            tenantId ≠ mailbox.tenantId then
          .error (.otherTenantsMailNode address)
        else safeHost settings node.hostname

def addMailbox (routing : MailRouting) (mailbox : Mailbox) :
    Except MailRoutingSyncError MailRouting :=
  if tables.serves mailbox.domainId then
    match tables.transportHost settings now mailbox with
    | .error error => .error error
    | .ok host =>
      let address := settings.lower mailbox.address
      .ok { routing with
        relayRecipients := routing.relayRecipients.insert address "OK"
        transport := routing.transport.insert address ("smtp:[" ++ host ++ "]:25") }
  else .ok routing

def addAlias (routing : MailRouting) (alias_ : MailAlias) : MailRouting :=
  if tables.serves alias_.domainId then
    let source := settings.lower alias_.sourceAddress
    { routing with
      relayRecipients := routing.relayRecipients.insert source "OK"
      virtualAliases := routing.virtualAliases.insert source
        (settings.lower alias_.destinationAddress) }
  else routing

def groupDestinations (group : DistributionGroup) : List String :=
  (group.members.map settings.lower).dedup.insertionSort (· ≤ ·)

def addGroup (routing : MailRouting) (group : DistributionGroup) : MailRouting :=
  let destinations := groupDestinations settings group
  if tables.serves group.domainId && ! destinations.isEmpty then
    let source := settings.lower group.address
    { routing with
      relayRecipients := routing.relayRecipients.insert source "OK"
      virtualAliases := routing.virtualAliases.insert source
        (String.intercalate ", " destinations) }
  else routing

def activeMailboxes : List Mailbox :=
  tables.mailboxes.filter fun mailbox => mailbox.status = .active

def activeAliases : List MailAlias := tables.aliases.filter MailAlias.active

def activeGroups : List DistributionGroup := tables.groups.filter DistributionGroup.active

/-- The entries of `relay_domains`. -/
def relayDomains : RoutingMap :=
  tables.servedDomains.foldl (fun names domain => names.insert (domainName settings domain) "OK") ∅

def buildMailRouting : Except MailRoutingSyncError MailRouting := do
  let routed ← tables.activeMailboxes.foldlM (tables.addMailbox settings now)
    { relayDomains := tables.relayDomains settings }
  let aliased := tables.activeAliases.foldl (tables.addAlias settings) routed
  return tables.activeGroups.foldl (tables.addGroup settings) aliased

end MailTables

def lines (mapping : RoutingMap) : String :=
  if mapping.keys.isEmpty then ""
  else
    String.join ((mapping.keys.insertionSort (· ≤ ·)).map fun key =>
      key ++ " " ++ (mapping.lookup key).getD "" ++ "\n")

namespace MailTables

variable {settings : MailSettings} {earlier now : ℤ} {tables : MailTables}
variable {mailbox : Mailbox} {routing after : MailRouting} {host : String}

theorem transportHost_earlier (found : tables.transportHost settings now mailbox = .ok host)
    (le : earlier ≤ now) : tables.transportHost settings earlier mailbox = .ok host := by
  unfold transportHost at found ⊢
  cases stored : mailbox.storageType with
  | internal => simpa only [stored] using found
  | external =>
    simp only [stored] at found ⊢
    cases assigned : mailbox.mailNodeId with
    | none => simp [assigned] at found
    | some nodeId =>
      simp only [assigned] at found ⊢
      cases present : tables.node? nodeId with
      | none => simp [present] at found
      | some node =>
        simp only [present] at found ⊢
        split_ifs at found with unavailable other
        rw [if_neg, if_neg other]
        · exact found
        · simp only [Bool.or_eq_true, not_or, Bool.not_eq_true', Bool.not_eq_false] at unavailable ⊢
          exact ⟨⟨unavailable.1.1, MailNode.fresh_earlier unavailable.1.2 le⟩, unavailable.2⟩

theorem addMailbox_earlier (added : tables.addMailbox settings now routing mailbox = .ok after)
    (le : earlier ≤ now) : tables.addMailbox settings earlier routing mailbox = .ok after := by
  unfold addMailbox at added ⊢
  split_ifs at added ⊢ with served
  · cases host : tables.transportHost settings now mailbox with
    | error error => simp [host] at added
    | ok name =>
      rw [host] at added
      rw [transportHost_earlier host le]
      exact added
  · exact added

theorem addMailboxes_earlier {mailboxes : List Mailbox}
    (added : mailboxes.foldlM (tables.addMailbox settings now) routing =
      .ok after) (le : earlier ≤ now) :
    mailboxes.foldlM (tables.addMailbox settings earlier) routing = .ok after := by
  induction mailboxes generalizing routing with
  | nil => exact added
  | cons mailbox rest hypothesis =>
    rw [List.foldlM_cons] at added ⊢
    cases first : tables.addMailbox settings now routing mailbox with
    | error error => simp [first, bind, Except.bind] at added
    | ok next =>
      rw [first] at added
      rw [addMailbox_earlier first le]
      exact hypothesis added

theorem buildMailRouting_earlier (built : tables.buildMailRouting settings now = .ok routing)
    (le : earlier ≤ now) : tables.buildMailRouting settings earlier = .ok routing := by
  unfold buildMailRouting at built ⊢
  cases routed : tables.activeMailboxes.foldlM (tables.addMailbox settings now)
      { relayDomains := tables.relayDomains settings } with
  | error error => simp [routed, bind, Except.bind] at built
  | ok first =>
    rw [routed] at built
    rw [addMailboxes_earlier routed le]
    exact built

end MailTables

end Ithute.Mail
