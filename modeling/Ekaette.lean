import Ekaette.Tools.ReviewFollowups
import Ekaette.Tools.OrderIsolation
import Ekaette.Tools.TenantScope
import Ekaette.At.IdempotencyLease
import Ekaette.At.SendFingerprint
import Ekaette.At.ServiceWindowFirestore
import Ekaette.Admin.IdempotencyFaults
import Ekaette.Admin.ConnectorLock
import Ekaette.Admin.ConnectorCircuit
import Ekaette.Admin.IapAuth
import Ekaette.Public.TokenAgreement
import Ekaette.At.ServiceMessage
import Ekaette.At.SilenceNudge
import Ekaette.At.CampaignScope
import Ekaette.At.VirtualAccountIndex
import Ekaette.At.PaymentRevenue
import Ekaette.Sip.CallRegistry
import Ekaette.Sip.ContentLength
import Ekaette.Sip.StreamReader
import Ekaette.Sip.TransactionHeaders
import Ekaette.Sip.ParserAgreement
import Ekaette.Sip.UdpRegistry
import Ekaette.Sip.WaSession
import Ekaette.Sip.WaSessionTask
import Ekaette.Sip.EchoSuppression
import Ekaette.Frontend.SocketTransports
import Ekaette.Scripts.MigrationCompleteness
import Ekaette.At.CallbackDedup
import Ekaette.Sip.RtpTimer
import Ekaette.Sip.RtpPayload
import Ekaette.Sip.GatewayRuns
import Ekaette.Sip.DigestTotality
import Ekaette.Sip.SdpAnswer
import Ekaette.Sip.Registrar
import Ekaette.Frontend.PcmDrain
import Ekaette.Tools.Negotiation
import Ekaette.Tools.Valuation
import Ekaette.Admin.InventorySync
import Ekaette.Admin.MutationReplay
import Ekaette.Tools.TrackingTimeline
import Ekaette.Configs.CapabilityOverrides
import Ekaette.Configs.HostAllowlist
import Ekaette.Tools.LatestImage
import Ekaette.Frontend.Transcript
import Ekaette.Realtime.StreamLoop
import Ekaette.Configs.SnapshotRedaction
import Ekaette.Realtime.NudgeTask
import Ekaette.Shared.PhoneIdentity
import Ekaette.Sip.WaInboundMedia
import Ekaette.Scripts.RestoreDrill
import Ekaette.Frontend.PcmRecorder
import Ekaette.Agents.AgentSession
import Ekaette.At.WaConversations
