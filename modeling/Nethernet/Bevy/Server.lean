import Nethernet.Bevy.Driven
import Nethernet.Foundation.Machine
import Nethernet.Signaling.Lan

/-! The LAN server of the game loop: it answers the offers that its signaler
puts out, and keeps a table of the sessions that its pool drives. -/

set_option autoImplicit false

namespace Nethernet
open Foundation Identity

/-- The parts of the program around the server. -/
structure LanServerHost where
  crates : WebrtcCrates
  rtc : Rtc crates.Candidate
  stunUsername : Bytes → Option String
  ServerIdentity : Type
  -- `OfferPolicy::admit` and then `Admitted::answer_advertising`
  answer : OfferPolicy ServerIdentity → Signal → Option SocketAddr → SystemTime → SocketAddr → List IpAddr →
    Instant → Except AdmissionError (Answered (Connection rtc))

inductive NetherServerEvent where
  | sessionConnected (id : NetherSessionId)
  | sessionDisconnected (id : NetherSessionId)
  deriving DecidableEq, Repr

structure NetherServer.SessionEntry where
  ready : Bool
  created : Instant
  remoteAddr : Option SocketAddr
  rtt : Option Duration
  player : Option PlayerInfo

structure NetherServer (host : LanServerHost) where
  -- what the LAN signaler was given
  handed : List LanSignalerInput
  pool : SessionPool host.rtc NetherSessionId
  sessionLocalAddr : SocketAddr
  advertisedAddrs : List IpAddr
  identity : Option host.ServerIdentity
  tokenTrust : Option TokenTrust
  inferPeerCandidates : Bool
  timeouts : Timeouts
  pendingLimits : PendingLimits
  sessions : Table NetherSessionId NetherServer.SessionEntry
  received : List (NetherSessionId × Bytes)
  receivedUnreliable : List (NetherSessionId × Bytes)
  events : List NetherServerEvent

namespace NetherServer
variable {host : LanServerHost}

def new (sessionLocalAddr : SocketAddr) (advertised : List IpAddr) : NetherServer host where
  handed := []
  pool := .new
  sessionLocalAddr := sessionLocalAddr
  advertisedAddrs := advertised
  identity := none
  tokenTrust := none
  inferPeerCandidates := true
  timeouts := {}
  pendingLimits := {}
  sessions := ∅
  received := []
  receivedUnreliable := []
  events := []

def hand (server : NetherServer host) (input : LanSignalerInput) : NetherServer host :=
  { server with handed := server.handed ++ [input] }

def contains (server : NetherServer host) (id : NetherSessionId) : Bool := (server.sessions.lookup id).isSome

/-! ## Offers and other signals -/

def unestablished (server : NetherServer host) : List String :=
  (server.sessions.retain fun _ entry => !entry.ready).keys.map (·.networkId)

def offerPolicy (server : NetherServer host) : OfferPolicy host.ServerIdentity where
  identity := server.identity
  tokenTrust := server.tokenTrust
  inferPeerCandidates := server.inferPeerCandidates
  iceMode := .trickle
  establishDeadline := some server.timeouts.establish

def refuse (server : NetherServer host) (offer : Signal) (code : SignalErrorCode) (now : Instant) : NetherServer host :=
  server.hand (.signal (.errorSignal offer.connectionId code offer.networkId) now)

def openSession (server : NetherServer host) (id : NetherSessionId) (answered : Answered (Connection host.rtc)) (now : Instant) :
    NetherServer host :=
  let told := answered.signals.foldl (fun server signal => server.hand (.signal signal now)) server
  { told with
    pool := told.pool.add id answered.connection answered.localUfrag now
    sessions := told.sessions.insert id ⟨false, now, none, none, answered.player⟩ }

-- `address` is where the signaler last heard a host from
def handleOffer (server : NetherServer host) (offer : Signal) (address : UInt64 → Option SocketAddr) (now : Instant)
    (wall : SystemTime) : NetherServer host :=
  let id : NetherSessionId := ⟨offer.networkId, offer.connectionId⟩
  if server.contains id then server
  else if !admitsOffer server.unestablished offer.networkId server.pendingLimits then
    server.refuse offer .incomingConnectionIgnored now
  else
    let signaledFrom := (parseUnsigned (2 ^ 64) offer.networkId.toList).toOption.bind fun networkId =>
      address (.ofNat networkId)
    match host.answer server.offerPolicy offer signaledFrom wall server.sessionLocalAddr server.advertisedAddrs now with
    | .error error => server.refuse offer error.code now
    | .ok answered => server.openSession id answered now

def handleSignal (server : NetherServer host) (signal : Signal) (address : UInt64 → Option SocketAddr) (now : Instant)
    (wall : SystemTime) : NetherServer host :=
  if signal.signalType = .offer then server.handleOffer signal address now wall
  else
    let id : NetherSessionId := ⟨signal.networkId, signal.connectionId⟩
    if server.contains id then { server with pool := server.pool.push (.signal id signal) } else server

def handleOutput (server : NetherServer host) (output : LanSignalerOutput) (address : UInt64 → Option SocketAddr)
    (now : Instant) (wall : SystemTime) : NetherServer host :=
  match output with
  | .datagram _ _ => server
  | .signal signal => server.handleSignal signal address now wall
  | .serverDiscovered _ _ => server
  | .wait _ => server

/-! ## Sessions -/

def disconnect (server : NetherServer host) (id : NetherSessionId) : NetherServer host :=
  if server.contains id then
    { server with
      sessions := server.sessions.erase id
      pool := server.pool.push (.remove id)
      events := server.events ++ [.sessionDisconnected id] }
  else server

-- the failed ids are disconnected once all events are seen
def poolEvent (state : NetherServer host × List NetherSessionId) (item : NetherSessionId × ConnectionEvent) :
    NetherServer host × List NetherSessionId :=
  let (server, failed) := state
  let (id, event) := item
  match server.sessions.lookup id with
  | none => state
  | some entry =>
    match event with
    | .ready addr =>
      if entry.ready then state
      else
        ({ server with
          sessions := server.sessions.insert id { entry with ready := true, remoteAddr := addr }
          events := server.events ++ [.sessionConnected id] }, failed)
    | .rtt rtt => ({ server with sessions := server.sessions.insert id { entry with rtt := some rtt } }, failed)
    | .message .reliable data => ({ server with received := server.received ++ [(id, data)] }, failed)
    | .message .unreliable data =>
      ({ server with receivedUnreliable := server.receivedUnreliable ++ [(id, data)] }, failed)
    | .failed => (server, failed ++ [id])

def driveSessions (server : NetherServer host) : NetherServer host :=
  let (pool, events) := server.pool.drive
  let (server, failed) := events.foldl poolEvent ({ server with pool := pool }, [])
  failed.foldl disconnect server

def established (server : NetherServer host) (now : Instant) (entry : SessionEntry) : Bool :=
  entry.ready || now.since entry.created < server.timeouts.establish

-- every session that goes is also taken out of the pool
def expireUnestablished (server : NetherServer host) (now : Instant) (order : Visit NetherSessionId) : NetherServer host :=
  let expired := (server.sessions.retain fun _ entry => !server.established now entry).keys
  { server with
    sessions := server.sessions.retain fun _ entry => server.established now entry
    pool := (order.arrange expired).foldl (fun pool id => pool.push (.remove id)) server.pool }

/-- The part of an update after the signaler's outputs. -/
def finishUpdate (server : NetherServer host) (now : Instant) (order : Visit NetherSessionId) : NetherServer host :=
  server.driveSessions.expireUnestablished now order

def update (server : NetherServer host) (outputs : List LanSignalerOutput) (address : UInt64 → Option SocketAddr)
    (now : Instant) (wall : SystemTime) (order : Visit NetherSessionId) : NetherServer host :=
  (outputs.foldl (fun server output => server.handleOutput output address now wall) server).finishUpdate now order

def sendOn (server : NetherServer host) (id : NetherSessionId) (channel : Channel) (data : Bytes) :
    NetherServer host × Except ProtocolError Unit :=
  if server.contains id then ({ server with pool := server.pool.push (.send id channel data) }, .ok ())
  else (server, .error (.other "unknown session"))

end NetherServer

/-- The calls of the game and of the update loop, and the steps of the pool's thread between them:
an update is its outputs one by one and then its end. -/
inductive NetherServerInput (host : LanServerHost) where
  | setIdentity (identity : host.ServerIdentity)
  | setTokenTrust (trust : Option TokenTrust)
  | setTimeouts (timeouts : Timeouts)
  | setInferPeerCandidates (infer : Bool)
  | setPendingLimits (limits : PendingLimits)
  | setServerData (data : ServerData)
  | send (id : NetherSessionId) (channel : Channel) (data : Bytes)
  | recv
  | recvUnreliable
  | disconnect (id : NetherSessionId)
  | nextEvent
  | output (output : LanSignalerOutput) (address : UInt64 → Option SocketAddr) (now : Instant) (wall : SystemTime)
  | finishUpdate (now : Instant) (order : Visit NetherSessionId)
  | pool (step : PoolStep NetherSessionId)

namespace NetherServer
variable {host : LanServerHost}

def next (server : NetherServer host) (input : NetherServerInput host) : NetherServer host :=
  match input with
  | .setIdentity identity => { server with identity := some identity }
  | .setTokenTrust trust => { server with tokenTrust := trust }
  | .setTimeouts timeouts => { server with timeouts := timeouts }
  | .setInferPeerCandidates infer => { server with inferPeerCandidates := infer }
  | .setPendingLimits limits => { server with pendingLimits := limits }
  | .setServerData data => server.hand (.setServerData data)
  | .send id channel data => (server.sendOn id channel data).1
  | .recv => { server with received := server.received.tail }
  | .recvUnreliable => { server with receivedUnreliable := server.receivedUnreliable.tail }
  | .disconnect id => server.disconnect id
  | .nextEvent => { server with events := server.events.tail }
  | .output output address now wall => server.handleOutput output address now wall
  | .finishUpdate now order => server.finishUpdate now order
  | .pool step => { server with pool := server.pool.advance host.stunUsername step }

def step (server : NetherServer host) (input : NetherServerInput host) : NetherServer host × Unit :=
  (server.next input, ())

/-- An update is a run over its outputs and its end. -/
theorem update_eq_run (server : NetherServer host) (outputs : List LanSignalerOutput)
    (address : UInt64 → Option SocketAddr) (now : Instant) (wall : SystemTime) (order : Visit NetherSessionId) :
    server.update outputs address now wall order =
      (run step server (outputs.map (.output · address now wall) ++ [.finishUpdate now order])).1 := by
  induction outputs generalizing server with
  | nil => rfl
  | cons output rest ih => exact ih (server.handleOutput output address now wall)

end NetherServer

end Nethernet
