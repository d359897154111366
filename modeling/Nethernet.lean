import Nethernet.Protocol.Message
import Nethernet.Identity.Trust
import Nethernet.Webrtc.Description
import Nethernet.Session.Dtls
import Nethernet.Foundation.Reader
import Nethernet.Protocol.Codec
import Nethernet.Protocol.ServerData
import Nethernet.Protocol.Signal
import Nethernet.Foundation.Blocks
import Nethernet.Protocol.Discovery
import Nethernet.Foundation.Table
import Nethernet.Net
import Nethernet.Signaling.Lan
import Nethernet.Signaling.LanSteps
import Nethernet.Signaling.LanNetwork
import Nethernet.Foundation.Fallible
import Nethernet.Foundation.Feed
import Nethernet.Session.Layers
import Nethernet.Session.Session
import Nethernet.Session.Advance
import Nethernet.Session.Establish
import Nethernet.Session.Announcements
import Nethernet.Session.Losses
import Nethernet.Session.Premature
import Nethernet.Session.Framing
import Nethernet.Http.Wire
import Nethernet.Http.Signaler
import Nethernet.Session.Connection
import Nethernet.Http.Stream
import Nethernet.Admission
import Nethernet.Http.Server
import Nethernet.Http.Joins
import Nethernet.Http.Refusals
import Nethernet.Bevy.Pool
import Nethernet.Bevy.Client
import Nethernet.Bevy.ForeignSignals
import Nethernet.Tokio.Negotiate
import Nethernet.Signaling.LanPinning
import Nethernet.Http.Ledger
import Nethernet.Http.Addresses
import Nethernet.Session.RemoteIdentity
import Nethernet.Http.Candidates
import Nethernet.Foundation.Tally
import Nethernet.Tokio.Pending
import Nethernet.Tokio.Shared
import Nethernet.Tokio.Jwks
import Nethernet.Foundation.Incremental
import Nethernet.Http.Client
import Nethernet.Http.Cuts
import Nethernet.Bevy.Handover
import Nethernet.Bevy.ClientEvents
import Nethernet.Bevy.Driven
import Nethernet.Bevy.StaleEvents
import Nethernet.Bevy.Server
import Nethernet.Bevy.Orphans
import Nethernet.Tokio.Retransmits
import Nethernet.Identity.Server
import Nethernet.Identity.Augment
import Nethernet.Protocol.Reassembly
import Nethernet.Foundation.Zigzag
import Nethernet.Protocol.ServerRecords
import Nethernet.Http.CandidateText
import Nethernet.Http.Inferred
import Nethernet.Http.Advertised
import Nethernet.Signaling.LanRetries
import Nethernet.Bevy.HttpClient
import Nethernet.Bevy.PoolOrder
import Nethernet.Bevy.HttpClientState
import Nethernet.Bevy.FailedConnect
import Nethernet.Tokio.HttpDriver
import Nethernet.Http.Outbound
import Nethernet.Signaling.LanTables
import Nethernet.Signaling.LanTimers
import Nethernet.Http.Chunks
import Nethernet.Http.Framing
import Nethernet.Http.Incremental
import Nethernet.Http.OneResponse
import Nethernet.Session.Transports
import Nethernet.Session.EarlyDatagrams
import Nethernet.Foundation.Json
import Nethernet.Http.StatusDocument
import Nethernet.Foundation.Leb128
import Nethernet.Protocol.Primitives
import Nethernet.Http.ProxyRanges
import Nethernet.Protocol.DatagramSize
import Nethernet.Foundation.Mailbox
import Nethernet.Session.Outputs
import Nethernet.Tokio.SessionTask
import Nethernet.Tokio.Delivery
import Nethernet.Session.Handshake
