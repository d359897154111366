import Nethernet.Foundation.Fallible
import Nethernet.Foundation.Utf8
import Nethernet.Protocol.Message
import Nethernet.Session.Layers

/-! A DTLS-secured SCTP session over ICE with the two NetherNet data channels. -/

set_option autoImplicit false

namespace Nethernet
open Foundation

inductive Channel where
  | reliable
  | unreliable
  deriving DecidableEq, Repr

inductive SessionEvent where
  | ready
  | failed
  deriving DecidableEq, Repr

inductive SessionOutput where
  | send (data : Bytes) (addr : SocketAddr)
  | event (event : SessionEvent)
  | message (channel : Channel) (data : Bytes)
  | wait (duration : Duration)
  deriving DecidableEq, Repr

inductive SessionInput (Candidate : Type) where
  | packet (data : Bytes) (source : SocketAddr) (now : Instant)
  | remoteDescription (remote : Description) (candidates : List Candidate) (now : Instant)
  | remoteCandidate (candidate : Candidate) (now : Instant)
  | send (channel : Channel) (data : Bytes) (now : Instant)
  | timeout (now : Instant)

def reliableStreamId : StreamId := 1
def unreliableStreamId : StreamId := 3
def maxEarlyPackets : Nat := 8
def defaultEstablishDeadline : Duration := .fromSecs 10

structure Channels where
  reliableStreamId : Option StreamId := none
  unreliableStreamId : Option StreamId := none
  reassembly : Message := .new
  readyEmitted : Bool := false
  failedEmitted : Bool := false
  deriving DecidableEq, Repr

namespace Channels

def streamId (channels : Channels) : Channel → Option StreamId
  | .reliable => channels.reliableStreamId
  | .unreliable => channels.unreliableStreamId

def setOpen (channels : Channels) (channel : Channel) (stream : StreamId) : Channels :=
  match channel with
  | .reliable => { channels with reliableStreamId := some stream }
  | .unreliable => { channels with unreliableStreamId := some stream }

end Channels

/-! ## DCEP -/

namespace Dcep

def reliableChannelLabel : String := "ReliableDataChannel"
def unreliableChannelLabel : String := "UnreliableDataChannel"

-- `CHANNEL_PRIORITY_NORMAL`
def priorityNormal : UInt16 := 256

def reliableOpen : DataChannelOpen :=
  ⟨.reliable, priorityNormal, 0, utf8 reliableChannelLabel, []⟩

-- unordered with zero retransmissions
def unreliableOpen : DataChannelOpen :=
  ⟨.partialReliableRexmitUnordered, priorityNormal, 0, utf8 unreliableChannelLabel, []⟩

variable {Candidate : Type} (rtc : Rtc Candidate)

def encodeOpen (content : DataChannelOpen) : Except ProtocolError Bytes :=
  (rtc.marshal (.dataChannelOpen content)).mapError fun e => .other ("encode DATA_CHANNEL_OPEN: " ++ e)

def encodeAck : Except ProtocolError Bytes :=
  (rtc.marshal .dataChannelAck).mapError fun e => .other ("encode DATA_CHANNEL_ACK: " ++ e)

def decode (data : Bytes) : Except ProtocolError DcepMessage :=
  (rtc.unmarshal data).mapError fun e => .other ("decode DCEP: " ++ e)

-- the channel that the label of an open names
def channelOf (content : DataChannelOpen) : Option Channel :=
  if content.label = utf8 reliableChannelLabel then some .reliable
  else if content.label = utf8 unreliableChannelLabel then some .unreliable
  else none

end Dcep

variable {Candidate : Type} (rtc : Rtc Candidate)

/-! ## The SCTP layer -/

structure SctpLayer where
  endpoint : rtc.Endpoint
  remoteAddr : SocketAddr
  association : Option (Association rtc.Rest)
  pendingTransmits : List Bytes

namespace SctpLayer

def new (localAddr remoteAddr : SocketAddr) (role : ResolvedRole) (maxMessageSize : Nat) (now : Instant) :
    Except ProtocolError (SctpLayer rtc) :=
  match role with
  | .server => .ok ⟨rtc.endpointNew localAddr (some maxMessageSize), remoteAddr, none, []⟩
  | .client =>
    match rtc.connect (rtc.endpointNew localAddr none) now maxMessageSize remoteAddr with
    | (endpoint, .ok rest) => .ok ⟨endpoint, remoteAddr, some (.new rest), []⟩
    | (_, .error e) => .error (.other e)

variable {rtc}

def handleEvent (assoc : Association rtc.Rest) (event : rtc.AssociationEvent) : Association rtc.Rest :=
  (rtc.associationEvent assoc.rest event).2.foldl Association.arrive
    { assoc with rest := (rtc.associationEvent assoc.rest event).1 }

def handleRead (layer : SctpLayer rtc) (data : Bytes) (now : Instant) : SctpLayer rtc :=
  match rtc.endpointHandle layer.endpoint now layer.remoteAddr data with
  | (endpoint, none) => { layer with endpoint := endpoint }
  | (endpoint, some (.newAssociation rest)) =>
    { layer with endpoint := endpoint, association := some (.new rest) }
  | (endpoint, some (.associationEvent event)) =>
    { layer with endpoint := endpoint, association := layer.association.map (handleEvent · event) }

def handleTimeout (layer : SctpLayer rtc) (now : Instant) : SctpLayer rtc :=
  match layer.association with
  | none => layer
  | some assoc =>
    let (endpoint, rest, events) := rtc.sctpTimeout layer.endpoint assoc.rest now
    { layer with
      endpoint := endpoint
      association := some { assoc with rest := rest, events := assoc.events ++ events } }

def pollTimeout (layer : SctpLayer rtc) : Option Instant :=
  layer.association.bind fun assoc => rtc.sctpPollTimeout assoc.rest

-- everything there is to transmit moves behind the packets already pending
def collectTransmits (layer : SctpLayer rtc) (now : Instant) : SctpLayer rtc :=
  match layer.association with
  | none => layer
  | some assoc =>
    let (rest, packets) := rtc.transmits assoc.rest now
    { layer with
      association := some { assoc with rest := rest }
      pendingTransmits := layer.pendingTransmits ++ packets }

def popTransmit (layer : SctpLayer rtc) : SctpLayer rtc :=
  { layer with pendingTransmits := layer.pendingTransmits.tail }

end SctpLayer

structure RemoteInfo where
  addr : SocketAddr
  deriving DecidableEq, Repr

structure Session where
  isControlling : Bool
  localAddr : SocketAddr
  ice : rtc.Agent
  certificate : Option rtc.Certificate
  pendingRoleFingerprint : Option (ResolvedRole × (String × String))
  remoteMaxMessageSize : Nat
  earlyPackets : List Bytes
  remote : Option RemoteInfo
  dtls : Option rtc.Dtls
  sctp : Option (SctpLayer rtc)
  channels : Channels
  output : List SessionOutput
  establishWithin : Duration
  establishStarted : Option Instant

abbrev SessionM (A : Type) := Fallible (Session rtc) ProtocolError A

/-! ## Streams -/

/-- The parts of a session that its streams touch. -/
structure StreamState where
  association : Association rtc.Rest
  channels : Channels
  output : List SessionOutput

abbrev StreamM (A : Type) := Fallible (StreamState rtc) ProtocolError A

namespace StreamState

-- `Stream::write_with_ppi`
def write (stream : StreamId) (now : Instant) (data : Bytes) (ppi : PayloadProtocolIdentifier) : StreamM rtc Unit :=
  fun state =>
    let (rest, result) := rtc.write state.association.rest stream now data ppi
    ({ state with association := { state.association with rest := rest } }, result.mapError .other)

-- a stream id that exists already cannot be opened again
def openStream (stream : StreamId) : StreamM rtc Unit := fun state =>
  if stream ∈ state.association.streams then (state, .error (.other rtc.streamAlreadyExists))
  else
    match rtc.openStream state.association.rest stream with
    | (rest, .ok ()) =>
      ({ state with association :=
          { state.association with rest := rest, opened := state.association.opened ++ [stream] } }, .ok ())
    | (rest, .error e) => ({ state with association := { state.association with rest := rest } }, .error (.other e))

def setOpen (channel : Channel) (stream : StreamId) : StreamM rtc Unit :=
  .modify fun state => { state with channels := state.channels.setOpen channel stream }

def openChannel (now : Instant) (channel : StreamId × Channel × DataChannelOpen) : StreamM rtc Unit := do
  openStream rtc channel.1
  let encoded ← .ofExcept (Dcep.encodeOpen rtc channel.2.2)
  write rtc channel.1 now encoded .dcep
  setOpen rtc channel.2.1 channel.1

def ownChannels : List (StreamId × Channel × DataChannelOpen) :=
  [(reliableStreamId, .reliable, Dcep.reliableOpen), (unreliableStreamId, .unreliable, Dcep.unreliableOpen)]

def openChannelsIfControlling (isControlling : Bool) (now : Instant) : StreamM rtc Unit :=
  if isControlling then .each ownChannels (openChannel rtc now) else .pure ()

def acceptStream : StreamM rtc (Option StreamId) := fun state =>
  ({ state with association := state.association.acceptStream.1 }, .ok state.association.acceptStream.2)

def read (stream : StreamId) : StreamM rtc (Option Chunks) := fun state =>
  ({ state with association := (state.association.read stream).1 }, .ok (state.association.read stream).2)

-- the channel that a message asks to open, if it is such a request
def requestedChannel (chunks : Chunks) : Option Channel := do
  let data ← (rtc.toPayload chunks 4096).toOption
  match ← (Dcep.decode rtc data).toOption with
  | .dataChannelOpen content => Dcep.channelOf content
  | .dataChannelAck => none

def acknowledge (now : Instant) (stream : StreamId) (channel : Channel) : StreamM rtc Unit := do
  let ack ← .ofExcept (Dcep.encodeAck rtc)
  write rtc stream now ack .dcep
  setOpen rtc channel stream

-- one turn of the accept loop, for the stream it yields
def answerOpen (now : Instant) (stream : StreamId) : StreamM rtc Unit := do
  let chunks ← read rtc stream
  match chunks.bind (requestedChannel rtc) with
  | none => .pure ()
  | some channel => acknowledge rtc now stream channel

-- no stream is announced while the loop runs, so the waiting streams bound its turns
def acceptLoop (now : Instant) : Nat → StreamM rtc Unit
  | 0 => .pure ()
  | turns + 1 => do
    match ← acceptStream rtc with
    | none => .pure ()
    | some stream => do
      answerOpen rtc now stream
      acceptLoop now turns

def acceptStreams (now : Instant) : StreamM rtc Unit := do
  let state ← .get
  acceptLoop rtc now state.association.announced.waiting.length

variable {rtc}

def deliver (state : StreamState rtc) (channel : Channel) (data : Bytes) : StreamState rtc :=
  { state with output := state.output ++ [.message channel data] }

def handleSegment (channel : Channel) (state : StreamState rtc) (segment : MessageSegment) : StreamState rtc :=
  match channel with
  | .reliable =>
    let (reassembly, result) := state.channels.reassembly.addSegment segment
    let state := { state with channels := { state.channels with reassembly := reassembly } }
    match result with
    | .ok (some message) => state.deliver .reliable message
    | .ok none | .error _ => state
  | .unreliable =>
    if segment.remainingSegments = 0 then state.deliver .unreliable segment.data else state

-- one message of an open channel's stream
def handleChunks (channel : Channel) (state : StreamState rtc) (chunks : Chunks) : StreamState rtc :=
  match rtc.toPayload chunks (2 ^ 20) with
  | .error _ => state
  | .ok data =>
    if chunks.ppi = .dcep then state
    else
      match MessageSegment.decode data with
      | .error _ => state
      | .ok segment => handleSegment channel state segment

def drainChannel (state : StreamState rtc) (channel : Channel) : StreamState rtc :=
  match state.channels.streamId channel with
  | none => state
  | some stream =>
    if stream ∈ state.association.streams ∧ rtc.usable state.association.rest stream then
      let (association, received) := state.association.readAll stream
      received.foldl (handleChunks channel) { state with association := association }
    else state

variable (rtc)

def drainDcepAndData (now : Instant) : StreamM rtc Unit := do
  acceptStreams rtc now
  .modify fun state => [.reliable, .unreliable].foldl drainChannel state

-- the events are taken one by one, so those behind a failed open stay queued
def eventLoop (isControlling : Bool) (now : Instant) : List SctpEvent → Bool → StreamM rtc Bool
  | [], failed => .pure failed
  | event :: rest, failed => do
    .modify fun state => { state with association := { state.association with events := rest } }
    match event with
    | .connected => do
      openChannelsIfControlling rtc isControlling now
      eventLoop isControlling now rest failed
    | .handshakeFailed | .associationLost => eventLoop isControlling now rest true
    | .other => eventLoop isControlling now rest failed

def handleEvents (isControlling : Bool) (now : Instant) : StreamM rtc Bool := do
  let state ← .get
  eventLoop rtc isControlling now state.association.events false

end StreamState

/-! ## The session -/

namespace Session
variable {rtc}

def new (localAddr : SocketAddr) (isControlling : Bool) (ice : rtc.Agent) (certificate : rtc.Certificate) :
    Session rtc where
  isControlling := isControlling
  localAddr := localAddr
  ice := ice
  certificate := some certificate
  pendingRoleFingerprint := none
  remoteMaxMessageSize := sctpMaxMessageSize
  earlyPackets := []
  remote := none
  dtls := none
  sctp := none
  channels := {}
  output := []
  establishWithin := defaultEstablishDeadline
  establishStarted := none

def setEstablishDeadline (session : Session rtc) (within : Duration) : Session rtc :=
  { session with establishWithin := within }

-- the selected ICE remote address, else the one the transports started with
def remoteAddr (session : Session rtc) : Option SocketAddr :=
  (rtc.selectedRemote session.ice).or (session.remote.map (·.addr))

-- available once the SCTP association exists
def rtt (session : Session rtc) : Option Duration :=
  session.sctp.bind fun layer => layer.association.map fun assoc => rtc.rtt assoc.rest

def push (session : Session rtc) (output : SessionOutput) : Session rtc :=
  { session with output := session.output ++ [output] }

def poll (session : Session rtc) : Session rtc × Option SessionOutput :=
  match session.output with
  | [] => (session, none)
  | first :: rest => ({ session with output := rest }, some first)

def fail (session : Session rtc) : Session rtc :=
  if session.channels.failedEmitted then session
  else { session with channels := { session.channels with failedEmitted := true } }.push (.event .failed)

def establishDeadline (session : Session rtc) : Option Instant :=
  if session.channels.readyEmitted || session.channels.failedEmitted then none
  else session.establishStarted.map (· + session.establishWithin)

def pollTimeout (session : Session rtc) : Session rtc × Option Instant :=
  let (ice, agent) := rtc.agentPollTimeout session.ice
  let deadlines := [session.establishDeadline, agent, session.dtls.bind rtc.dtlsPollTimeout,
    session.sctp.bind SctpLayer.pollTimeout]
  ({ session with ice := ice }, (deadlines.filterMap id).min?)

def pushWait (session : Session rtc) (now : Instant) : Session rtc :=
  match session.pollTimeout with
  | (session, none) => session
  | (session, some deadline) => session.push (.wait (deadline.since now))

/-- Asking when to wake up touches the agent, and at most one wait is queued. -/
theorem pushWait_cases (session : Session rtc) (now : Instant) : ∃ ice,
    session.pushWait now = { session with ice := ice } ∨
      ∃ duration, session.pushWait now = { session with ice := ice, output := session.output ++ [.wait duration] } := by
  refine ⟨(rtc.agentPollTimeout session.ice).1, ?_⟩
  have polled : session.pollTimeout.1 = { session with ice := (rtc.agentPollTimeout session.ice).1 } := rfl
  unfold pushWait
  split
  · rename_i outcome
    rw [outcome] at polled
    exact .inl polled
  · rename_i next deadline outcome
    rw [outcome] at polled
    refine .inr ⟨deadline.since now, ?_⟩
    rw [show next = _ from polled]
    rfl

variable (rtc)

-- an operation of the ICE agent that may fail
def onIce (operation : rtc.Agent → rtc.Agent × Except String Unit) : SessionM rtc Unit := fun session =>
  ({ session with ice := (operation session.ice).1 }, (operation session.ice).2.mapError .other)

variable {rtc}

/-- Runs a program on the streams; without an association there is nothing to do. -/
def onStreams {A : Type} (absent : A) (program : StreamM rtc A) : SessionM rtc A := fun session =>
  match session.sctp with
  | some ⟨endpoint, remoteAddr, some association, pendingTransmits⟩ =>
    let (state, result) := program ⟨association, session.channels, session.output⟩
    ({ session with
      sctp := some ⟨endpoint, remoteAddr, some state.association, pendingTransmits⟩
      channels := state.channels
      output := state.output }, result)
  | _ => (session, .ok absent)

/-! ### Transports -/

def handleDtlsEvent (session : Session rtc) (data : Bytes) (now : Instant) : Session rtc :=
  { session with sctp := session.sctp.map (·.handleRead data now) }

def readDtls (data : Bytes) (now : Instant) : SessionM rtc Unit := fun session =>
  match session.dtls with
  | none => (session, .ok ())
  | some dtls =>
    match rtc.dtlsRead dtls data now with
    | (dtls, .error e) => ({ session with dtls := some dtls }, .error (.other e))
    | (dtls, .ok received) =>
      (received.foldl (fun session data => session.handleDtlsEvent data now) { session with dtls := some dtls }, .ok ())

def takeCertificate : SessionM rtc rtc.Certificate := fun session =>
  match session.certificate with
  | none => (session, .error (.other "transports already started"))
  | some certificate => ({ session with certificate := none }, .ok certificate)

def startTransports (remoteAddr : SocketAddr) (role : ResolvedRole) (fingerprint : String × String)
    (now : Instant) : SessionM rtc Unit := do
  let certificate ← takeCertificate
  let session ← .get
  let dtls ← .ofExcept (rtc.dtlsNew session.localAddr remoteAddr role certificate fingerprint now)
  let sctp ← .ofExcept (SctpLayer.new rtc session.localAddr remoteAddr role session.remoteMaxMessageSize now)
  .modify fun session => { session with remote := some ⟨remoteAddr⟩, dtls := some dtls, sctp := some sctp }

def startTransportsOnSelectedPair (now : Instant) : SessionM rtc Unit := do
  let session ← .get
  match session.dtls, rtc.selectedRemote session.ice, session.pendingRoleFingerprint with
  | none, some remoteAddr, some (role, fingerprint) => do
    .modify fun session => { session with pendingRoleFingerprint := none }
    startTransports remoteAddr role fingerprint now
    let started ← .get
    .modify fun session => { session with earlyPackets := [] }
    .each started.earlyPackets (readDtls · now)
  | _, _, _ => .pure ()

/-! ### Pumping -/

-- ICE is over in one of these states
def isLost : IceEvent → Bool
  | .connectionStateChange .failed
  | .connectionStateChange .disconnected
  | .connectionStateChange .closed => true
  | _ => false

def pollIce (session : Session rtc) : Session rtc :=
  let (ice, writes) := rtc.agentWrites session.ice
  let (ice, events) := rtc.agentEvents ice
  let session := { session with
    ice := ice
    output := session.output ++ writes.map fun write => .send write.1 write.2 }
  events.foldl (fun session event => if isLost event then session.fail else session) session

-- the first pending packet goes to DTLS; without DTLS there is none to send
def writePacket (now : Instant) (packet : Bytes) : SessionM rtc Unit := fun session =>
  let session := { session with sctp := session.sctp.map SctpLayer.popTransmit }
  match session.dtls with
  | none => (session, .ok ())
  | some dtls =>
    let (dtls, result) := rtc.dtlsWrite dtls packet now
    ({ session with dtls := some dtls }, result.mapError .other)

def transmit (now : Instant) : SessionM rtc Unit := do
  .modify fun session => { session with sctp := session.sctp.map (·.collectTransmits now) }
  let session ← .get
  match session.sctp with
  | none => .pure ()
  | some sctp => .each sctp.pendingTransmits (writePacket now)

def flushDtls (session : Session rtc) : Session rtc :=
  match session.dtls with
  | none => session
  | some dtls =>
    let (dtls, sends) := rtc.dtlsTransmits dtls
    { session with dtls := some dtls, output := session.output ++ sends.map fun send => .send send.1 send.2 }

-- whether the association reported a failure
def pumpSctp (now : Instant) : SessionM rtc Bool := do
  let session ← .get
  if session.sctp.isSome && session.dtls.isSome then do
    let failed ← onStreams false (StreamState.handleEvents rtc session.isControlling now)
    onStreams () (StreamState.drainDcepAndData rtc now)
    transmit now
    .modify flushDtls
    return failed
  else return false

def announceReady (session : Session rtc) : Session rtc :=
  if session.channels.reliableStreamId.isSome && session.channels.unreliableStreamId.isSome &&
      !session.channels.readyEmitted then
    { session with channels := { session.channels with readyEmitted := true } }.push (.event .ready)
  else session

def checkDeadline (session : Session rtc) (now : Instant) : Session rtc :=
  match session.establishDeadline with
  | some deadline => if now ≥ deadline then session.fail else session
  | none => session

def pump (now : Instant) : SessionM rtc Unit := do
  .modify pollIce
  startTransportsOnSelectedPair now
  let failed ← pumpSctp now
  .modify fun session =>
    let session := if failed then session.fail else session
    session.announceReady.checkDeadline now

/-! ### Inputs -/

def setRemoteDescription (remote : Description) (candidates : List Candidate) (now : Instant) : SessionM rtc Unit := do
  onIce rtc (rtc.setRemoteCredentials · remote.ice.ufrag remote.ice.pwd)
  .modify fun session => { session with
    remoteMaxMessageSize := if remote.sctpMaxMessageSize = 0 then 2 ^ 32 - 1 else remote.sctpMaxMessageSize }
  .each candidates fun candidate => onIce rtc (rtc.addRemoteCandidate · candidate)
  .modify fun session => { session with
    pendingRoleFingerprint := some (.fromRemoteAnnounced remote.dtlsRole, remote.fingerprint)
    establishStarted := session.establishStarted.or (some now) }
  pump now
  .modify (·.pushWait now)

def addRemoteCandidate (candidate : Candidate) (now : Instant) : SessionM rtc Unit := do
  onIce rtc (rtc.addRemoteCandidate · candidate)
  pump now

def bufferEarly (data : Bytes) (session : Session rtc) : Session rtc :=
  if session.earlyPackets.length < maxEarlyPackets then
    { session with earlyPackets := session.earlyPackets ++ [data] }
  else session

def handlePacket (data : Bytes) (source : SocketAddr) (now : Instant) : SessionM rtc Unit := do
  if rtc.isStunMessage data then do
    onIce rtc (rtc.agentRead · data source now)
    pump now
  else do
    let session ← .get
    if session.dtls.isNone then .modify (bufferEarly data)
    else do
      readDtls data now
      pump now

def handleTimeout (now : Instant) : SessionM rtc Unit := do
  onIce rtc (rtc.agentTimeout · now)
  .modify fun session => { session with dtls := session.dtls.map (rtc.dtlsTimeout · now) }
  .modify fun session => { session with sctp := session.sctp.map (·.handleTimeout now) }
  pump now
  .modify (·.pushWait now)

/-- The frames that a message becomes on its channel. -/
def frames (channel : Channel) (data : Bytes) : Except ProtocolError (List Bytes) :=
  match channel with
  | .reliable => (Message.splitIntoSegments data).map fun segments => segments.map MessageSegment.encode
  | .unreliable => (Message.encodeUnreliable data).map fun frame => [frame]

def sendFrames (stream : StreamId) (channel : Channel) (data : Bytes) (now : Instant) : StreamM rtc Unit := do
  let state ← .get
  if stream ∈ state.association.streams ∧ rtc.usable state.association.rest stream then do
    let frames ← .ofExcept (frames channel data)
    .each frames fun frame => StreamState.write rtc stream now frame .binary
  else .ofExcept (.error (.other rtc.streamMissing))

def send (channel : Channel) (data : Bytes) (now : Instant) : SessionM rtc Unit := do
  let session ← .get
  match session.channels.streamId channel with
  | none => .ofExcept (.error (.other "channel not open yet"))
  | some stream =>
    match session.sctp with
    | none => .ofExcept (.error (.other "transports not started"))
    | some ⟨_, _, none, _⟩ => .ofExcept (.error (.other "association not established"))
    | some ⟨_, _, some _, _⟩ => onStreams () (sendFrames stream channel data now)

def handle (input : SessionInput Candidate) : SessionM rtc Unit :=
  match input with
  | .packet data source now => handlePacket data source now
  | .remoteDescription remote candidates now => setRemoteDescription remote candidates now
  | .remoteCandidate candidate now => addRemoteCandidate candidate now
  | .send channel data now => do
    send channel data now
    pump now
  | .timeout now => handleTimeout now

end Session

end Nethernet
