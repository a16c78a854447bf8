import Ithute.PlacementRanking
import Ithute.ClusterAnalysisReachability
import Ithute.HardwarePlanAgreement
import Ithute.RealtimeReliability
import Ithute.RealtimeReplay
import Ithute.RealtimeAttempts
import Ithute.RealtimePushRetries
import Ithute.RealtimeRedaction
import Ithute.RealtimeIsolation
import Ithute.RealtimeSending
import Ithute.AuthRotation
import Ithute.AuthLockout
import Ithute.AuthPrivilege
import Ithute.AuthDisabling
import Ithute.AuthRecoveryCodes
import Ithute.BillingConfirmations
import Ithute.BillingChargedOnce
import Ithute.BillingAllocations
import Ithute.FinancePeriods
import Ithute.FinanceStatuses
import Ithute.FinanceApprovals
import Ithute.FinanceNumbering
import Ithute.FinanceConversions
import Ithute.SecurityDualControl
import Ithute.HostingOneRollout
import Ithute.HostingRetirement
import Ithute.DatabaseEnvironment
import Ithute.DatabaseCredentials
import Ithute.ScheduledMailPromises
import Ithute.DomainLifecycle
import Ithute.HostingBuildReports
import Ithute.HostingPushRuns
import Ithute.TransactionalCredentials
import Ithute.TransactionalLimits
import Ithute.PlatformRevocation
import Ithute.MailRoutingConvergence
import Ithute.HardwareIncidentRuns
import Ithute.PowerDnsConvergence
import Ithute.PowerDnsRecordSoundness
import Ithute.CaddyRoutes
import Ithute.MailRendering
import Ithute.MailThreads
import Ithute.ConversationMembers
import Ithute.HostedSubnets
import Ithute.RealtimeReadState
import Ithute.BankImports
import Ithute.OperationScheduler
import Ithute.IncidentDispatch
import Ithute.XmlInspection
import Ithute.MimeScans
import Ithute.NativeDigests
import Ithute.AuthClientAddress
import Ithute.PushWorkers
import Ithute.EventQueueing
import Ithute.NotificationSafety
