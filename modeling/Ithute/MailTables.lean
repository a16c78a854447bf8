import Ithute.Library.UnorderedMap
import Ithute.PythonValues

/-!
# Mail tables of the platform backend

Domains, mail nodes, mailboxes, aliases and distribution groups, as the mail
services of the backend read them.
-/

namespace Ithute.Mail

inductive DomainStatus where
  | pendingVerification | verified | suspended | archived
  deriving DecidableEq

structure Domain where
  id : ℕ
  tenantId : ℕ
  asciiName : String
  status : DomainStatus := .verified
  mailEnabled : Bool := true

inductive MailNodeRole where
  | smtp | imap | combined | dns | edge

inductive MailNodeStatus where
  | active | provisioning | maintenance | disabled
  deriving DecidableEq

/-- How many backups a node keeps, as the backup policy bounds it. -/
abbrev RetentionCount := {count : ℕ // 1 ≤ count ∧ count ≤ 100}

structure MailNode where
  id : ℕ
  tenantId : Option ℕ := none
  role : MailNodeRole := .combined
  hostname : String
  status : MailNodeStatus := .active
  lastHeartbeatAt : Option ℤ := none
  smtpReady : Bool := false
  imapReady : Bool := false
  tlsReady : Bool := false
  backupReady : Bool := false
  backupIntervalHours : ℕ := 24
  backupRetentionCount : RetentionCount := ⟨7, by decide⟩

inductive MailboxStatus where
  | active | suspended | archived
  deriving DecidableEq

inductive MailboxStorageType where
  | internal | external

structure Mailbox where
  id : ℕ
  tenantId : ℕ
  domainId : ℕ
  localPart : String
  address : String
  passwordHash : String
  quotaBytes : ℕ
  storageType : MailboxStorageType := .internal
  mailNodeId : Option ℕ := none
  storagePath : Option String := none
  status : MailboxStatus := .active

structure MailAlias where
  id : ℕ
  tenantId : ℕ
  domainId : ℕ
  sourceAddress : String
  destinationAddress : String
  active : Bool := true

structure DistributionGroup where
  id : ℕ
  tenantId : ℕ
  domainId : ℕ
  localPart : String
  address : String
  active : Bool := true
  members : List String := []

structure MailTables where
  domains : List Domain := []
  nodes : List MailNode := []
  mailboxes : List Mailbox := []
  aliases : List MailAlias := []
  groups : List DistributionGroup := []

/-- The settings of the backend, and the methods of `str` that depend on the
tables of Unicode. -/
structure MailSettings where
  lower : String → String
  repr : String → String
  mailNodeStaleSeconds : ℤ := 180
  mailGatewayInternalHost : String := "mail.ithute.co.ls"

/-- `value.rstrip(".")`. -/
def rstripDots (value : String) : String := String.ofList (value.toList.rdropWhile (· = '.'))

/-- Whether a node has reported within `mail_node_stale_seconds`. -/
def MailNode.fresh (settings : MailSettings) (now : ℤ) (node : MailNode) : Bool :=
  node.lastHeartbeatAt.any fun at_ => decide (now - at_ ≤ settings.mailNodeStaleSeconds)

theorem MailNode.fresh_earlier {settings : MailSettings} {earlier now : ℤ}
    {node : MailNode} (fresh : node.fresh settings now = true)
    (le : earlier ≤ now) : node.fresh settings earlier = true := by
  unfold MailNode.fresh at fresh ⊢
  cases reported : node.lastHeartbeatAt with
  | none => simp [reported] at fresh
  | some at_ =>
    simp only [reported, Option.any_some, decide_eq_true_eq] at fresh ⊢
    omega

end Ithute.Mail
