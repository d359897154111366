import Mathlib.Algebra.GroupWithZero.Nat
import Nethernet.Admission
import Nethernet.Foundation.Machine
import Nethernet.Http.Stream

/-! The HTTP server of the game loop: every update accepts connections, pumps
them, hands what they ask to the signaler and carries out what it puts out. -/

set_option autoImplicit false

namespace Nethernet
open Foundation Http

/-- The parts of the program around the server: sockets, parsers and the answering of an admitted offer. -/
structure HttpHost where
  wire : Wire
  crates : HttpCrates
  tools : JoinTools
  Link : Type
  ServerIdentity : Type
  -- `OfferPolicy::admit` and then `Admitted::answer_advertising`
  answer : OfferPolicy ServerIdentity → Signal → Option SocketAddr → SystemTime → SocketAddr → List IpAddr →
    Instant → Except AdmissionError (Answered Link)

inductive NetherHttpServerEvent where
  | sessionConnected (id : NetherSessionId)
  | sessionDisconnected (id : NetherSessionId)
  deriving DecidableEq, Repr

structure SessionEntry where
  ready : Bool
  created : Instant
  remoteAddr : Option SocketAddr
  rtt : Option Duration
  player : Option PlayerInfo
  host : Option String

/-- One call of the signaler: its state before and after, and how it came back. -/
structure SignalerCall where
  before : HttpSignaler
  input : HttpSignalerInput
  after : HttpSignaler
  result : Outcome HttpSignalerError Unit

structure NetherHttpServer (host : HttpHost) where
  signaler : HttpSignaler
  -- every call of the signaler so far; nothing reads it
  calls : List SignalerCall
  pool : List (PoolCommand NetherSessionId host.Link)
  sessionLocalAddr : SocketAddr
  advertisedAddrs : List IpAddr
  identity : Option host.ServerIdentity
  allowUnsignedAnswers : Bool
  inferPeerCandidates : Bool
  pendingLimits : PendingLimits
  timeouts : Timeouts
  idleTimeout : Duration
  nextConnId : Nat
  connections : Table Nat (TcpConn host.wire)
  sessions : Table NetherSessionId SessionEntry
  received : List (NetherSessionId × Bytes)
  receivedUnreliable : List (NetherSessionId × Bytes)
  events : List NetherHttpServerEvent

/-- What the outside gives one update: the clocks, the connections to accept (one whose peer
address cannot be read is dropped), the traffic on the open sockets, the events of the pool, the
random join ids and the orders in which the hash maps are visited. -/
structure Tick (host : HttpHost) where
  now : Instant
  wall : SystemTime
  accepts : List (Option SocketAddr × host.wire.Socket)
  traffic : Nat → host.wire.Socket → host.wire.Socket
  poolEvents : List (NetherSessionId × ConnectionEvent)
  joinId : Nat → UInt64
  visit : Visit Nat
  visitJoins : Visit UInt64

def maxAcceptsPerTick : Nat := 64
def defaultIdleTimeout : Duration := .fromSecs 30

namespace NetherHttpServer
variable {host : HttpHost}

def bind (config : HttpSignalerConfig) (sessionLocalAddr : SocketAddr) (advertised : List IpAddr) :
    NetherHttpServer host where
  signaler := .new config
  calls := []
  pool := []
  sessionLocalAddr := sessionLocalAddr
  advertisedAddrs := advertised
  identity := none
  allowUnsignedAnswers := false
  inferPeerCandidates := true
  pendingLimits := {}
  timeouts := {}
  idleTimeout := defaultIdleTimeout
  nextConnId := 0
  connections := ∅
  sessions := ∅
  received := []
  receivedUnreliable := []
  events := []

-- `let _ = self.signaler.handle(..)`: an error is not looked at; a panic ends the program, and a run goes no further
def tell (server : NetherHttpServer host) (input : HttpSignalerInput) : NetherHttpServer host :=
  let done := server.signaler.handle host.tools input
  { server with signaler := done.1, calls := server.calls ++ [⟨server.signaler, input, done.1, done.2⟩] }

/-! ## Connections -/

def carryTraffic (server : NetherHttpServer host) (traffic : Nat → host.wire.Socket → host.wire.Socket) :
    NetherHttpServer host :=
  { server with
    connections := server.connections.map fun id conn =>
      { conn with stream := { conn.stream with socket := traffic id conn.stream.socket } } }

def openConnection (server : NetherHttpServer host) (socket : host.wire.Socket) (now : Instant) :
    NetherHttpServer host :=
  { server with
    nextConnId := server.nextConnId + 1
    connections := server.connections.insert server.nextConnId ⟨.new socket, false, false, now⟩ }

def acceptOne (now : Instant) (server : NetherHttpServer host) (accepted : Option SocketAddr × host.wire.Socket) :
    NetherHttpServer host :=
  match accepted with
  | (none, _) => server
  | (some peer, socket) => (server.openConnection socket now).tell (.connected server.nextConnId peer)

def accept (server : NetherHttpServer host) (tick : Tick host) : NetherHttpServer host :=
  (tick.accepts.take maxAcceptsPerTick).foldl (acceptOne tick.now) server

-- the connections as the loop leaves them, and what it collects on the way
structure Pumped (host : HttpHost) where
  connections : Table Nat (TcpConn host.wire)
  closed : List Nat
  requests : List (Nat × Request String)

def pumpOne (now : Instant) (pumped : Pumped host) (id : Nat) : Pumped host :=
  match pumped.connections.lookup id with
  | none => pumped
  | some conn =>
    match conn.pump host.crates now with
    | (conn, .kept) => { pumped with connections := pumped.connections.insert id conn }
    | (conn, .closed) =>
      { pumped with connections := pumped.connections.insert id conn, closed := pumped.closed ++ [id] }
    | (conn, .asked request) =>
      { pumped with
        connections := pumped.connections.insert id conn
        requests := pumped.requests ++ [(id, request)] }

def pumpAll (server : NetherHttpServer host) (tick : Tick host) : Pumped host :=
  (tick.visit.arrange server.connections.keys).foldl (pumpOne tick.now) ⟨server.connections, [], []⟩

def ask (tick : Tick host) (server : NetherHttpServer host) (asked : (Nat × Request String) × Nat) :
    NetherHttpServer host :=
  server.tell (.request asked.1.1 asked.1.2 tick.now tick.wall (tick.joinId asked.2))

def forgetConnection (server : NetherHttpServer host) (id : Nat) : NetherHttpServer host :=
  { server with connections := server.connections.erase id }

def dropConnection (server : NetherHttpServer host) (id : Nat) : NetherHttpServer host :=
  (server.forgetConnection id).tell (.closed id)

def askAll (server : NetherHttpServer host) (tick : Tick host) : NetherHttpServer host :=
  let pumped := server.pumpAll tick
  pumped.requests.zipIdx.foldl (ask tick) { server with connections := pumped.connections }

-- the requests are handed over before the closed connections go
def pumpConnections (server : NetherHttpServer host) (tick : Tick host) : NetherHttpServer host :=
  (server.pumpAll tick).closed.foldl dropConnection (server.askAll tick)

/-! ## Outputs -/

def changeConn (server : NetherHttpServer host) (id : Nat) (change : TcpConn host.wire → TcpConn host.wire) :
    NetherHttpServer host :=
  match server.connections.lookup id with
  | none => server
  | some conn => { server with connections := server.connections.insert id (change conn) }

def offerPolicy (server : NetherHttpServer host) : OfferPolicy host.ServerIdentity where
  identity := server.identity
  tokenTrust := none
  inferPeerCandidates := server.inferPeerCandidates
  iceMode := .full
  establishDeadline := some server.timeouts.establish

def unestablished (server : NetherHttpServer host) : List String :=
  (server.sessions.retain fun _ entry => !entry.ready).keys.map (·.networkId)

def handleOffer (server : NetherHttpServer host) (offer : Offer) (tick : Tick host) : NetherHttpServer host :=
  if server.identity.isNone && !server.allowUnsignedAnswers then
    server.tell (.reject offer.connectionId .unavailable)
  else if !admitsOffer server.unestablished offer.networkId server.pendingLimits then
    server.tell (.reject offer.connectionId .unavailable)
  else
    match host.answer server.offerPolicy ⟨.offer, offer.connectionId, offer.sdp, offer.networkId⟩
        offer.clientAddress tick.wall server.sessionLocalAddr server.advertisedAddrs tick.now with
    | .error error => server.tell (.reject offer.connectionId (.ofCode error.code))
    | .ok answered =>
      match answered.signals with
      | [] => server.tell (.reject offer.connectionId .unavailable)
      | answer :: _ =>
        let id : NetherSessionId := ⟨offer.networkId, offer.connectionId⟩
        let told := server.tell (.answer offer.connectionId answer.data)
        { told with
          pool := told.pool ++ [.add id answered.connection answered.localUfrag]
          sessions := told.sessions.insert id
            { ready := false
              created := tick.now
              remoteAddr := none
              rtt := none
              player := answered.player.or offer.player
              host := offer.host } }

def handleOutput (server : NetherHttpServer host) (output : HttpSignalerOutput) (tick : Tick host) :
    NetherHttpServer host :=
  match output with
  | .response connection response _ =>
    server.changeConn connection fun conn =>
      { conn with stream := conn.stream.queue (ResponseWriter.encode response), closeAfterWrite := true }
  | .close connection => server.changeConn connection fun conn => { conn with closeAfterWrite := true }
  | .offer offer => server.handleOffer offer tick
  | .wait _ => server

-- an offer makes the signaler put out one response, and nothing else makes it put out more
def outputTurns (outputs : List HttpSignalerOutput) : Nat :=
  (outputs.map fun output => match output with | .offer _ => 2 | _ => 1).sum

def pollOutputs (tick : Tick host) : Nat → NetherHttpServer host → NetherHttpServer host
  | 0, server => server
  | turns + 1, server =>
    match server.signaler.poll with
    | (_, none) => server
    | (signaler, some output) => pollOutputs tick turns ({ server with signaler := signaler }.handleOutput output tick)

/-- An offer is rejected, or answered and its session opened. -/
theorem handleOffer_cases (server : NetherHttpServer host) (offer : Offer) (tick : Tick host) :
    (∃ reason, server.handleOffer offer tick = server.tell (.reject offer.connectionId reason)) ∨
    ∃ data link ufrag entry, server.handleOffer offer tick =
      { server.tell (.answer offer.connectionId data) with
        pool := server.pool ++ [.add ⟨offer.networkId, offer.connectionId⟩ link ufrag]
        sessions := server.sessions.insert ⟨offer.networkId, offer.connectionId⟩ entry } := by
  unfold handleOffer
  split
  · exact .inl ⟨_, rfl⟩
  · split
    · exact .inl ⟨_, rfl⟩
    · split
      · exact .inl ⟨_, rfl⟩
      · split
        · exact .inl ⟨_, rfl⟩
        · exact .inr ⟨_, _, _, _, rfl⟩

/-! ## Sessions -/

def disconnect (server : NetherHttpServer host) (id : NetherSessionId) : NetherHttpServer host :=
  if server.sessions.lookup id |>.isSome then
    { server with
      sessions := server.sessions.erase id
      pool := server.pool ++ [.remove id]
      events := server.events ++ [.sessionDisconnected id] }
  else server

-- the failed ids are disconnected once all events are seen
def poolEvent (state : NetherHttpServer host × List NetherSessionId)
    (item : NetherSessionId × ConnectionEvent) : NetherHttpServer host × List NetherSessionId :=
  let (server, failed) := state
  let (id, event) := item
  match server.sessions.lookup id with
  | none => state
  | some entry =>
    match event with
    | .ready addr =>
      if entry.ready then state
      else
        ({ server with
          sessions := server.sessions.insert id { entry with ready := true, remoteAddr := addr }
          events := server.events ++ [.sessionConnected id] }, failed)
    | .rtt rtt => ({ server with sessions := server.sessions.insert id { entry with rtt := some rtt } }, failed)
    | .message .reliable data => ({ server with received := server.received ++ [(id, data)] }, failed)
    | .message .unreliable data =>
      ({ server with receivedUnreliable := server.receivedUnreliable ++ [(id, data)] }, failed)
    | .failed => (server, failed ++ [id])

def driveSessions (server : NetherHttpServer host) (tick : Tick host) : NetherHttpServer host :=
  let (server, failed) := tick.poolEvents.foldl poolEvent (server, [])
  failed.foldl disconnect server

/-! ## One update -/

def idle (server : NetherHttpServer host) (tick : Tick host) : List Nat :=
  tick.visit.arrange
    (server.connections.retain fun _ conn => server.idleTimeout ≤ tick.now.since conn.lastActive).keys

def dropIdle (server : NetherHttpServer host) (tick : Tick host) : NetherHttpServer host :=
  (server.idle tick).foldl dropConnection server

def expireSessions (server : NetherHttpServer host) (now : Instant) : NetherHttpServer host :=
  { server with
    sessions := server.sessions.retain fun _ entry => entry.ready || now.since entry.created < server.timeouts.establish }

/-- The update up to its pump: the traffic of the moment and the accepted connections. -/
def admitted (server : NetherHttpServer host) (tick : Tick host) : NetherHttpServer host :=
  (server.carryTraffic tick.traffic).accept tick

def settled (server : NetherHttpServer host) (tick : Tick host) : NetherHttpServer host :=
  let updated := server.tell (.update tick.now tick.visitJoins)
  pollOutputs tick (outputTurns updated.signaler.output) updated

def update (server : NetherHttpServer host) (tick : Tick host) : NetherHttpServer host :=
  let pumped := (server.admitted tick).pumpConnections tick
  (((pumped.settled tick).driveSessions tick).dropIdle tick).expireSessions tick.now

/-! ## The calls of the game -/

def sendOn (server : NetherHttpServer host) (id : NetherSessionId) (channel : Channel) (data : Bytes) :
    NetherHttpServer host × Except ProtocolError Unit :=
  if (server.sessions.lookup id).isSome then
    ({ server with pool := server.pool ++ [.send id channel data] }, .ok ())
  else (server, .error (.other "unknown session"))

end NetherHttpServer

inductive NetherHttpServerInput (host : HttpHost) where
  | update (tick : Tick host)
  | setIdleTimeout (idleTimeout : Duration)
  | setIdentity (identity : host.ServerIdentity)
  | allowUnsignedAnswers (allow : Bool)
  | setTimeouts (timeouts : Timeouts)
  | setPendingLimits (limits : PendingLimits)
  | setInferPeerCandidates (infer : Bool)
  | setServerData (data : ServerData)
  | setTokenTrust (trust : Option TokenTrust)
  | send (id : NetherSessionId) (channel : Channel) (data : Bytes)
  | recv
  | recvUnreliable
  | disconnect (id : NetherSessionId)
  | nextEvent

namespace NetherHttpServer
variable {host : HttpHost}

def step (server : NetherHttpServer host) (input : NetherHttpServerInput host) : NetherHttpServer host × Unit :=
  match input with
  | .update tick => (server.update tick, ())
  | .setIdleTimeout idleTimeout => ({ server with idleTimeout := idleTimeout }, ())
  | .setIdentity identity => ({ server with identity := some identity }, ())
  | .allowUnsignedAnswers allow => ({ server with allowUnsignedAnswers := allow }, ())
  | .setTimeouts timeouts => ({ server with timeouts := timeouts }, ())
  | .setPendingLimits limits => ({ server with pendingLimits := limits }, ())
  | .setInferPeerCandidates infer => ({ server with inferPeerCandidates := infer }, ())
  | .setServerData data => (server.tell (.setServerData data), ())
  | .setTokenTrust trust => (server.tell (.setTokenTrust trust), ())
  | .send id channel data => ((server.sendOn id channel data).1, ())
  | .recv => ({ server with received := server.received.tail }, ())
  | .recvUnreliable => ({ server with receivedUnreliable := server.receivedUnreliable.tail }, ())
  | .disconnect id => (server.disconnect id, ())
  | .nextEvent => ({ server with events := server.events.tail }, ())

end NetherHttpServer

end Nethernet
