import Nethernet.Error
import Nethernet.Foundation.Feed
import Nethernet.Net
import Nethernet.Time
import Nethernet.Webrtc.Description

/-! The ICE, DTLS and SCTP stacks under a session.

The stacks are third party and may behave in any way their types allow: every operation is a
function of an opaque state. Of an SCTP association the streams are explicit, since the order in
which they are announced and become readable decides what a session sees. -/

set_option autoImplicit false

namespace Nethernet
open Foundation

abbrev StreamId := UInt16

inductive PayloadProtocolIdentifier where
  | dcep
  | string
  | binary
  | stringEmpty
  | binaryEmpty
  | unknown
  deriving DecidableEq, Repr

/-- One complete message of a stream. -/
structure Chunks where
  ppi : PayloadProtocolIdentifier
  data : Bytes
  deriving DecidableEq, Repr

inductive SctpEvent where
  | connected
  | handshakeFailed
  | associationLost
  | other
  deriving DecidableEq, Repr

inductive IceConnectionState where
  | unspecified
  | new
  | checking
  | connected
  | completed
  | failed
  | disconnected
  | closed
  deriving DecidableEq, Repr

inductive IceEvent where
  | connectionStateChange (state : IceConnectionState)
  | other
  deriving DecidableEq, Repr

-- the DTLS role this side takes after the remote's announced setup
inductive ResolvedRole where
  | client
  | server
  deriving DecidableEq, Repr

def ResolvedRole.fromRemoteAnnounced : DtlsRole → ResolvedRole
  | .client => .server
  | .server | .auto => .client

inductive ChannelType where
  | reliable
  | reliableUnordered
  | partialReliableRexmit
  | partialReliableRexmitUnordered
  | partialReliableTimed
  | partialReliableTimedUnordered
  deriving DecidableEq, Repr

structure DataChannelOpen where
  channelType : ChannelType
  priority : UInt16
  reliabilityParameter : UInt32
  label : Bytes
  protocol : Bytes
  deriving DecidableEq, Repr

inductive DcepMessage where
  | dataChannelOpen (content : DataChannelOpen)
  | dataChannelAck
  deriving DecidableEq, Repr

/-! ## Associations -/

/-- What network input does to an association. -/
inductive Arrival where
  | announce (stream : StreamId)
  | message (stream : StreamId) (chunks : Chunks)
  | event (event : SctpEvent)
  deriving DecidableEq, Repr

structure Association (Rest : Type) where
  announced : Feed StreamId
  opened : List StreamId
  messages : StreamId → Feed Chunks
  events : List SctpEvent
  rest : Rest

namespace Association
variable {Rest : Type}

def new (rest : Rest) : Association Rest := ⟨.empty, [], fun _ => .empty, [], rest⟩

def streams (assoc : Association Rest) : List StreamId := assoc.announced.items ++ assoc.opened

-- a peer-opened stream is announced once, and carries messages only from then on
def arrive (assoc : Association Rest) : Arrival → Association Rest
  | .announce stream =>
    if stream ∈ assoc.streams then assoc else { assoc with announced := assoc.announced.push stream }
  | .message stream chunks =>
    if stream ∈ assoc.streams then
      { assoc with messages := Function.update assoc.messages stream ((assoc.messages stream).push chunks) }
    else assoc
  | .event event => { assoc with events := assoc.events ++ [event] }

def acceptStream (assoc : Association Rest) : Association Rest × Option StreamId :=
  ({ assoc with announced := assoc.announced.next.1 }, assoc.announced.next.2)

def read (assoc : Association Rest) (stream : StreamId) : Association Rest × Option Chunks :=
  ({ assoc with messages := Function.update assoc.messages stream (assoc.messages stream).next.1 },
    (assoc.messages stream).next.2)

-- reading until nothing is left
def readAll (assoc : Association Rest) (stream : StreamId) : Association Rest × List Chunks :=
  ({ assoc with messages := Function.update assoc.messages stream (assoc.messages stream).drain },
    (assoc.messages stream).waiting)

end Association

/-! ## The crates -/

-- a datagram starts an association or concerns the one there is
inductive DatagramEvent (Rest AssociationEvent : Type) where
  | newAssociation (rest : Rest)
  | associationEvent (event : AssociationEvent)

/-- The stacks, as functions of their states. A `poll` that the session calls until it returns
nothing is one function that returns everything. -/
structure Rtc (Candidate : Type) where
  Agent : Type
  setRemoteCredentials : Agent → String → String → Agent × Except String Unit
  addRemoteCandidate : Agent → Candidate → Agent × Except String Unit
  isStunMessage : Bytes → Bool
  agentRead : Agent → Bytes → SocketAddr → Instant → Agent × Except String Unit
  agentWrites : Agent → Agent × List (Bytes × SocketAddr)
  agentEvents : Agent → Agent × List IceEvent
  agentTimeout : Agent → Instant → Agent × Except String Unit
  agentPollTimeout : Agent → Agent × Option Instant
  selectedRemote : Agent → Option SocketAddr
  Certificate : Type
  Dtls : Type
  dtlsNew : SocketAddr → SocketAddr → ResolvedRole → Certificate → String × String → Instant →
    Except ProtocolError Dtls
  -- the application data among the events of a datagram
  dtlsRead : Dtls → Bytes → Instant → Dtls × Except String (List Bytes)
  dtlsWrite : Dtls → Bytes → Instant → Dtls × Except String Unit
  dtlsTransmits : Dtls → Dtls × List (Bytes × SocketAddr)
  dtlsTimeout : Dtls → Instant → Dtls
  dtlsPollTimeout : Dtls → Option Instant
  Endpoint : Type
  Rest : Type
  AssociationEvent : Type
  endpointNew : SocketAddr → Option Nat → Endpoint
  connect : Endpoint → Instant → Nat → SocketAddr → Endpoint × Except String Rest
  endpointHandle : Endpoint → Instant → SocketAddr → Bytes → Endpoint × Option (DatagramEvent Rest AssociationEvent)
  associationEvent : Rest → AssociationEvent → Rest × List Arrival
  sctpTimeout : Endpoint → Rest → Instant → Endpoint × Rest × List SctpEvent
  sctpPollTimeout : Rest → Option Instant
  rtt : Rest → Duration
  openStream : Rest → StreamId → Rest × Except String Unit
  streamAlreadyExists : String
  streamMissing : String
  usable : Rest → StreamId → Bool
  write : Rest → StreamId → Instant → Bytes → PayloadProtocolIdentifier → Rest × Except String Unit
  transmits : Rest → Instant → Rest × List Bytes
  toPayload : Chunks → Nat → Except String Bytes
  toPayload_data : ∀ {chunks limit data}, toPayload chunks limit = .ok data → data = chunks.data
  unmarshal : Bytes → Except String DcepMessage
  marshal : DcepMessage → Except String Bytes

end Nethernet
