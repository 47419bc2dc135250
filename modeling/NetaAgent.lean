import NetaAgent.WindowsSetup
import NetaAgent.OutboundCapacity
import NetaAgent.OutboundAtomicity
import NetaAgent.OutboundFreshness
import NetaAgent.TelemetryGap
import NetaAgent.TransferEvidence
import NetaAgent.SendOrder
import NetaAgent.CookieAttribution
import NetaAgent.UpgradeCrash
import NetaAgent.UpgradeLaunch
import NetaAgent.InboundTrust
import NetaAgent.TlsShim
import NetaAgent.PruningOrder
import NetaAgent.PrunedExport
import NetaAgent.PendingLink
import NetaAgent.FindingReports
import NetaAgent.FindingRuntime
import NetaAgent.YaraUpdate
import NetaAgent.SessionDirections
import NetaAgent.SessionNames
import NetaAgent.SessionCompletions
import NetaAgent.FleetService
import NetaAgent.AckMembers
import NetaAgent.ConfigRoundtrip
import NetaAgent.UpgradeRequest
import NetaAgent.RouterIsolation
import NetaAgent.ProcessAttribution
import NetaAgent.UpgradeMembers
import NetaAgent.ContextOrder
import NetaAgent.EvidenceHash
import NetaAgent.IntegerParameters
import NetaAgent.LifecycleReading
import NetaAgent.PersistedSamples
import NetaAgent.EtwLifecycle
import NetaAgent.ChunkedBody
import NetaAgent.ClockTicks
import NetaAgent.TrackerIndex
