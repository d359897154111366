import Nethernet.Bevy.Pool
import Nethernet.Foundation.Feed
import Nethernet.Foundation.Machine
import Nethernet.Signaling.Lan

/-! The LAN client of the game loop: it dials one server by network id, retries
when no answer comes, and turns what the session pool reports into events. -/

set_option autoImplicit false

namespace Nethernet
open Foundation Identity

/-- The parts of the program around the client. -/
structure LanHost where
  crates : WebrtcCrates
  identityCrates : IdentityCrates
  rtc : Rtc crates.Candidate
  writer : DescriptionWriter crates rtc
  stunUsername : Bytes → Option String
  ServerIdentity : Type
  augment : ServerIdentity → String → SystemTime → Except IdentityError String

inductive NetherClientEvent where
  | serverDiscovered (networkId : UInt64) (data : ServerData)
  | connected
  | disconnected
  deriving DecidableEq, Repr

inductive DialError where
  | session (error : ProtocolError)
  | signing (error : IdentityError)

/-- What a dial finds: the new session or why there is none, a random connection id and the clocks. -/
structure Dial (host : LanHost) where
  created : Except ProtocolError (Session host.rtc × Description)
  connectionId : UInt64
  now : Instant
  wall : SystemTime

def defaultAttempts : Nat := 3

structure NetherClient (host : LanHost) where
  -- the signals handed to the LAN signaler
  signals : List Signal
  pool : SessionPool host.rtc Unit
  connected : Bool
  connectingDeadline : Option Instant
  answered : Bool
  timeouts : Timeouts
  attempts : Nat
  attemptsLeft : Nat
  target : UInt64
  ready : Bool
  remoteAddr : Option SocketAddr
  rtt : Option Duration
  identity : Option host.ServerIdentity
  serverTrust : Option TokenTrust
  received : List Bytes
  receivedUnreliable : List Bytes
  events : Feed NetherClientEvent
  -- the ids of the current attempt, which only its connection knows; nothing reads them
  attempt : Option (UInt64 × String)

namespace NetherClient
variable {host : LanHost}

def new : NetherClient host where
  signals := []
  pool := .new
  connected := false
  connectingDeadline := none
  answered := false
  timeouts := {}
  attempts := defaultAttempts
  attemptsLeft := 0
  target := 0
  ready := false
  remoteAddr := none
  rtt := none
  identity := none
  serverTrust := none
  received := []
  receivedUnreliable := []
  events := .empty
  attempt := none

def emit (client : NetherClient host) (event : NetherClientEvent) : NetherClient host :=
  { client with events := client.events.push event }

/-! ## Dialing -/

-- the loop over the offer and its candidates: what is sent before it ends, and how it ends
def signOffers (identity : Option host.ServerIdentity) (wall : SystemTime) :
    List Signal → List Signal × Except DialError Unit
  | [] => ([], .ok ())
  | signal :: rest =>
    match identity, signal.signalType with
    | some signer, .offer =>
      match host.augment signer signal.data wall with
      | .error error => ([], .error (.signing error))
      | .ok signed =>
        let (sent, result) := signOffers identity wall rest
        ({ signal with data := signed } :: sent, result)
    | _, _ =>
      let (sent, result) := signOffers identity wall rest
      (signal :: sent, result)

def give (client : NetherClient host) (signals : List Signal) : NetherClient host :=
  { client with signals := client.signals ++ signals }

def enterPool (client : NetherClient host) (connection : Connection host.rtc) (localUfrag : String) (now : Instant) :
    NetherClient host :=
  let pool := if client.connected then client.pool.push (.remove ()) else client.pool
  { client with
    pool := pool.add () connection localUfrag now
    connected := true
    connectingDeadline := some (now + client.timeouts.negotiation)
    answered := false
    ready := false
    remoteAddr := none
    rtt := none
    attempt := some connection.ids }

def spendAttempt (client : NetherClient host) : NetherClient host :=
  { client with attemptsLeft := client.attemptsLeft - 1 }

-- the connection of an attempt enters the pool once all its signals were handed over
def launch (client : NetherClient host) (offer : Connection host.rtc × List Signal) (localUfrag : String)
    (dial : Dial host) : NetherClient host × Except DialError Unit :=
  let (sent, result) := signOffers client.identity dial.wall offer.2
  match result with
  | .error error => (client.give sent, .error error)
  | .ok () => ((client.give sent).enterPool offer.1 localUfrag dial.now, .ok ())

def beginAttempt (client : NetherClient host) (dial : Dial host) : NetherClient host × Except DialError Unit :=
  let client := client.spendAttempt
  match dial.created with
  | .error error => (client, .error (.session error))
  | .ok (session, description) =>
    client.launch
      (Connection.connect host.writer (session.setEstablishDeadline client.timeouts.establish) description
        dial.connectionId (toString client.target) .trickle)
      description.ice.ufrag dial

def connect (client : NetherClient host) (target : UInt64) (dial : Dial host) :
    NetherClient host × Except DialError Unit :=
  { client with target := target, attemptsLeft := max client.attempts 1 }.beginAttempt dial

-- a session that was dropped by the caller leaves the pool
def leavePool (client : NetherClient host) : NetherClient host :=
  if client.connected then { client with pool := client.pool.push (.remove ()), connected := false } else client

def endReady (client : NetherClient host) : NetherClient host :=
  if client.ready then { client with ready := false, remoteAddr := none, rtt := none }.emit .disconnected else client

def disconnect (client : NetherClient host) : NetherClient host :=
  { client with connectingDeadline := none }.leavePool.endReady

def sendOn (client : NetherClient host) (channel : Channel) (data : Bytes) :
    NetherClient host × Except ProtocolError Unit :=
  if client.connected then ({ client with pool := client.pool.push (.send () channel data) }, .ok ())
  else (client, .error (.other "not connected"))

/-! ## Signals -/

-- the dial is over: its session leaves the pool
def giveUp (client : NetherClient host) : NetherClient host :=
  { client with
    connectingDeadline := none
    pool := client.pool.push (.remove ())
    connected := false }.emit .disconnected

def refuseAnswer (client : NetherClient host) (signal : Signal) : NetherClient host :=
  if !client.answered && client.connectingDeadline.isSome then
    (client.give [.errorSignal signal.connectionId .failedToSetRemoteDescription (toString client.target)]).giveUp
  else client

def noteAnswer (client : NetherClient host) (now : Instant) : NetherClient host :=
  if !client.answered && client.connectingDeadline.isSome then
    { client with answered := true, connectingDeadline := some (now + client.timeouts.establish) }
  else client

def forward (client : NetherClient host) (signal : Signal) : NetherClient host :=
  { client with pool := client.pool.push (.signal () signal) }

-- the check of an answer's identity may panic, before anything is changed
def handleSignal (client : NetherClient host) (signal : Signal) (now : Instant) (wall : SystemTime) :
    NetherClient host × Outcome Empty Unit :=
  if signal.signalType = .offer || !client.connected then (client, .ok ())
  else if signal.signalType = .answer then
    match verifyAnswer host.identityCrates signal.data client.serverTrust wall with
    | .aborted => (client, .aborted)
    | .err _ => (client.refuseAnswer signal, .ok ())
    | .ok _ => ((client.noteAnswer now).forward signal, .ok ())
  else (client.forward signal, .ok ())

/-! ## Updates -/

def handleOutput (client : NetherClient host) (output : LanSignalerOutput) (now : Instant) (wall : SystemTime) :
    NetherClient host × Outcome Empty Unit :=
  match output with
  | .datagram _ _ => (client, .ok ())
  | .serverDiscovered id data => (client.emit (.serverDiscovered id data), .ok ())
  | .signal signal => client.handleSignal signal now wall
  | .wait _ => (client, .ok ())

def poolEvent (client : NetherClient host) (event : Unit × ConnectionEvent) : NetherClient host :=
  match event.2 with
  | .ready addr =>
    if client.ready then client
    else { client with ready := true, remoteAddr := addr, connectingDeadline := none }.emit .connected
  | .rtt rtt => { client with rtt := some rtt }
  | .message .reliable data => { client with received := client.received ++ [data] }
  | .message .unreliable data => { client with receivedUnreliable := client.receivedUnreliable ++ [data] }
  | .failed => { client with connectingDeadline := none, connected := false }.emit .disconnected

def drivePool (client : NetherClient host) : NetherClient host :=
  let (pool, events) := client.pool.drive
  events.foldl poolEvent { client with pool := pool }

def retry (client : NetherClient host) (dial : Dial host) : NetherClient host :=
  let (client, result) := client.beginAttempt dial
  match result with
  | .ok () => client
  | .error _ => client.giveUp

-- a dial that was not answered in time is tried again while attempts are left
def checkDeadline (client : NetherClient host) (now : Instant) (dial : Dial host) : NetherClient host :=
  match client.connectingDeadline with
  | none => client
  | some deadline =>
    if now < deadline then client
    else if !client.answered && 0 < client.attemptsLeft then client.retry dial
    else client.giveUp

end NetherClient

/-- The calls of the game, and the steps of the pool's thread between them. An update is its outputs one by
one and then, for a client that is connected, `drivePool` and `checkDeadline`: the thread may report while
the client goes from one to the next. -/
inductive NetherClientInput (host : LanHost) where
  | connect (target : UInt64) (dial : Dial host)
  | disconnect
  | send (channel : Channel) (data : Bytes)
  | setIdentity (identity : host.ServerIdentity)
  | setServerTrust (trust : Option TokenTrust)
  | setTimeouts (timeouts : Timeouts)
  | setAttempts (attempts : Nat)
  | recv
  | recvUnreliable
  | nextEvent
  | output (output : LanSignalerOutput) (now : Instant) (wall : SystemTime)
  | drivePool
  | checkDeadline (now : Instant) (dial : Dial host)
  | poolReceive (source : SocketAddr) (datagram : Bytes) (now : Instant)
  | poolCommands (now : Instant)
  | poolRound (now : Instant) (order : Visit Unit)

namespace NetherClient
variable {host : LanHost}

def onPool (client : NetherClient host) (change : SessionPool host.rtc Unit → SessionPool host.rtc Unit) :
    NetherClient host := { client with pool := change client.pool }

def receiveOnPool (source : SocketAddr) (datagram : Bytes) (now : Instant) (pool : SessionPool host.rtc Unit) :
    SessionPool host.rtc Unit :=
  { pool with thread := pool.thread.receive host.stunUsername source datagram now }

-- a failure among the pool's events puts the deadline back too, so the flag can be looked at again
def next (client : NetherClient host) (input : NetherClientInput host) : NetherClient host :=
  match input with
  | .connect target dial => (client.connect target dial).1
  | .disconnect => client.disconnect
  | .send channel data => (client.sendOn channel data).1
  | .setIdentity identity => { client with identity := some identity }
  | .setServerTrust trust => { client with serverTrust := trust }
  | .setTimeouts timeouts => { client with timeouts := timeouts }
  | .setAttempts attempts => { client with attempts := attempts }
  | .recv => { client with received := client.received.tail }
  | .recvUnreliable => { client with receivedUnreliable := client.receivedUnreliable.tail }
  | .nextEvent => { client with events := client.events.next.1 }
  -- a panic ends the game, and a run goes no further
  | .output output now wall => (client.handleOutput output now wall).1
  | .drivePool => if client.connected then client.drivePool else client
  | .checkDeadline now dial => if client.connected then client.checkDeadline now dial else client
  | .poolReceive source datagram now => client.onPool (receiveOnPool source datagram now)
  | .poolCommands now => client.onPool (·.takeCommands now)
  | .poolRound now order => client.onPool (·.round now order)

def step (client : NetherClient host) (input : NetherClientInput host) : NetherClient host × Unit :=
  (client.next input, ())

end NetherClient

end Nethernet
