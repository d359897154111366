import Nethernet.Bevy.Client
import Nethernet.Bevy.Driven
import Nethernet.Http.Client

/-! The HTTP client of the game loop: it joins one server by URL, tries again when no
answer comes in time, and keeps a session pool only while it has a session. -/

set_option autoImplicit false

namespace Nethernet
open Foundation Identity Http

/-- The parts of the program around the client. -/
structure HttpClientHost extends LanHost where
  wire : Wire
  http : ClientCrates
  requests : RequestCrates
  parseStatus : String → Except String StatusDocument

inductive QueryError where
  | connection
  | timedOut
  | response (error : StatusResponseError)
  deriving DecidableEq, Repr

inductive NetherHttpClientEvent where
  | connected
  | connectFailed
  | disconnected
  | serverData (data : ServerData)
  | queryFailed (error : QueryError)
  deriving DecidableEq, Repr

-- what concerns a status query and not the connection
def NetherHttpClientEvent.isQuery : NetherHttpClientEvent → Bool
  | .serverData _ | .queryFailed _ => true
  | .connected | .connectFailed | .disconnected => false

/-- What the io error of a call was made from. -/
inductive HttpClientError where
  | join (error : JoinError)
  | unresolved
  | io
  | session (error : ProtocolError)
  | signing (error : IdentityError)
  | request (error : RequestWireError)

/-- What a dial finds: the addresses of the host, a socket for the session, the new session, a random
connection id, the connection to the server, and the clocks. -/
structure HttpDial (host : HttpClientHost) where
  addrs : Option (List SocketAddr)
  bound : Except HttpClientError Unit
  created : Except ProtocolError (Session host.rtc × Description)
  connectionId : UInt64
  opened : Except HttpClientError host.wire.Socket
  now : Instant
  wall : SystemTime

structure Join (host : HttpClientHost) where
  state : JoinState host.wire
  connection : Connection host.rtc
  localUfrag : String
  serverUrl : String

structure Query (host : HttpClientHost) where
  state : JoinState host.wire
  deadline : Instant

structure NetherHttpClient (host : HttpClientHost) where
  join : Option (Join host)
  query : Option (Query host)
  pool : Option (SessionPool host.rtc Unit)
  connected : Bool
  connectingDeadline : Option Instant
  timeouts : Timeouts
  attempts : Nat
  attemptsLeft : Nat
  localNetworkId : String
  serverUrl : String
  ready : Bool
  remoteAddr : Option SocketAddr
  rtt : Option Duration
  identity : Option host.ServerIdentity
  serverTrust : Option TokenTrust
  events : Feed NetherHttpClientEvent
  received : List Bytes
  receivedUnreliable : List Bytes
  -- how many joins were started; nothing reads it
  joins : Nat

theorem Connection.offer_ne_nil {crates : WebrtcCrates} {rtc : Rtc crates.Candidate} (writer : DescriptionWriter crates rtc)
    (session : Session rtc) (description : Description) (connectionId : UInt64) (remoteNetworkId : String)
    (iceMode : IceMode) : (connect writer session description connectionId remoteNetworkId iceMode).2 ≠ [] := by
  cases iceMode <;> exact List.cons_ne_nil _ _

namespace NetherHttpClient
variable {host : HttpClientHost}

def new : NetherHttpClient host where
  join := none
  query := none
  pool := none
  connected := false
  connectingDeadline := none
  timeouts := {}
  attempts := defaultAttempts
  attemptsLeft := 0
  localNetworkId := ""
  serverUrl := ""
  ready := false
  remoteAddr := none
  rtt := none
  identity := none
  serverTrust := none
  events := .empty
  received := []
  receivedUnreliable := []
  joins := 0

def emit (client : NetherHttpClient host) (event : NetherHttpClientEvent) : NetherHttpClient host :=
  { client with events := client.events.push event }

/-! ## Dialing -/

def resolve (url : String) (addrs : Option (List SocketAddr)) : Except HttpClientError (JoinTarget × SocketAddr) :=
  match JoinTarget.parse url with
  | .error error => .error (.join error)
  | .ok target =>
    match addrs with
    | none => .error .io
    | some [] => .error .unresolved
    | some (addr :: _) => .ok (target, addr)

def openStream (dial : HttpDial host) : Except HttpClientError (HttpStream host.wire) := do
  return .new (← dial.opened)

def signOffer (client : NetherHttpClient host) (offer : Signal) (wall : SystemTime) : Except HttpClientError String :=
  match client.identity with
  | none => .ok offer.data
  | some identity => (host.augment identity offer.data wall).mapError .signing

-- the fallible part of a join, which changes nothing
def openJoin (client : NetherHttpClient host) (dial : HttpDial host) : Except HttpClientError (Join host) := do
  let (target, _) ← resolve client.serverUrl dial.addrs
  dial.bound
  let (session, description) ← dial.created.mapError .session
  let session := session.setEstablishDeadline client.timeouts.establish
  let offer := (Connection.connect host.writer session description dial.connectionId client.serverUrl .full).2.head
    (Connection.offer_ne_nil _ _ _ _ _ _)
  let connection := (Connection.connect host.writer session description dial.connectionId client.serverUrl .full).1
  let offerData ← client.signOffer offer dial.wall
  let request ← (RequestWriter.post host.requests target.authority (joinPathOf client.localNetworkId) joinContentType
    offerData).mapError .request
  let stream ← openStream dial
  return ⟨.begin stream request, connection, description.ice.ufrag, client.serverUrl⟩

def spendAttempt (client : NetherHttpClient host) : NetherHttpClient host :=
  { client with attemptsLeft := client.attemptsLeft - 1 }

def beginJoin (client : NetherHttpClient host) (dial : HttpDial host) :
    NetherHttpClient host × Except HttpClientError Unit :=
  match client.spendAttempt.openJoin dial with
  | .error error => (client.spendAttempt, .error error)
  | .ok join =>
    ({ client.spendAttempt with
        join := some join
        connectingDeadline := some (dial.now + client.timeouts.negotiation)
        joins := client.joins + 1 }, .ok ())

-- what a connect puts back before it dials
def prepare (client : NetherHttpClient host) (localNetworkId serverUrl : String) : NetherHttpClient host :=
  { client with
    join := none
    pool := none
    connected := false
    ready := false
    remoteAddr := none
    rtt := none
    localNetworkId := localNetworkId
    serverUrl := serverUrl
    attemptsLeft := max client.attempts 1 }

def connect (client : NetherHttpClient host) (localNetworkId serverUrl : String) (dial : HttpDial host) :
    NetherHttpClient host × Except HttpClientError Unit :=
  (client.prepare localNetworkId serverUrl).beginJoin dial

def disconnect (client : NetherHttpClient host) : NetherHttpClient host :=
  let left := { client with join := none, pool := none, connected := false, connectingDeadline := none }
  if client.ready then { left with ready := false, remoteAddr := none, rtt := none }.emit .disconnected else left

-- the pool is unwrapped once the flag says that there is one
def sendOn (client : NetherHttpClient host) (channel : Channel) (data : Bytes) :
    Outcome ProtocolError (NetherHttpClient host) :=
  if !client.connected then .err (.other "not connected")
  else
    match client.pool with
    | none => .aborted
    | some pool => .ok { client with pool := some (pool.push (.send () channel data)) }

/-! ## Status queries -/

def queryServerData (client : NetherHttpClient host) (url : String) (dial : HttpDial host) :
    Except HttpClientError (NetherHttpClient host) := do
  let (target, _) ← resolve url dial.addrs
  let stream ← openStream dial
  let request ← (RequestWriter.get host.requests target.authority statusPath).mapError .request
  return { client with query := some ⟨.begin stream request, dial.now + client.timeouts.negotiation⟩ }

def statusEvent (host : HttpClientHost) (code : UInt16) (body : String) : NetherHttpClientEvent :=
  match validateStatusResponse host.parseStatus code body with
  | .ok data => .serverData data
  | .error error => .queryFailed (.response error)

def updateQuery (client : NetherHttpClient host) (now : Instant) : NetherHttpClient host :=
  match client.query with
  | none => client
  | some query =>
    let client := { client with query := none }
    match driveJoin host.http query.state with
    | .pending state =>
      if query.deadline ≤ now then client.emit (.queryFailed .timedOut)
      else { client with query := some ⟨state, query.deadline⟩ }
    | .done code body => client.emit (statusEvent host code body)
    | .failed => client.emit (.queryFailed .connection)

/-! ## Updates -/

-- the join has come to nothing and is gone already
def rejectJoin (client : NetherHttpClient host) : NetherHttpClient host :=
  { client with connectingDeadline := none }.emit .connectFailed

-- the status is looked at first, then the identity, whose check may panic
def checkAnswer (client : NetherHttpClient host) (code : UInt16) (body : String) (wall : SystemTime) : Outcome Unit Unit :=
  if (validateJoinResponse code body).isOk then
    match verifyAnswer host.identityCrates body client.serverTrust wall with
    | .ok _ => .ok ()
    | .err _ => .err ()
    | .aborted => .aborted
  else .err ()

/-- The answer is applied to the connection, which enters a pool of its own. The thread of the pool may
already have taken some steps when the update goes on. -/
def settleJoin (client : NetherHttpClient host) (join : Join host) (body : String) (now : Instant)
    (early : List (PoolStep Unit)) : NetherHttpClient host :=
  match join.connection.handle (.signal ⟨.answer, join.connection.connectionId, body, join.serverUrl⟩ now) with
  | (_, .error _) => client.rejectJoin
  | (connection, .ok ()) =>
    let pool := SessionPool.new.add () connection join.localUfrag now
    { client with
      pool := some (early.foldl (SessionPool.advance host.stunUsername) pool)
      connected := true
      connectingDeadline := some (now + client.timeouts.establish) }

-- a panic finds the join taken out already
def updateJoin (client : NetherHttpClient host) (now : Instant) (wall : SystemTime) (early : List (PoolStep Unit)) :
    NetherHttpClient host × Outcome Empty Unit :=
  match client.join with
  | none => (client, .ok ())
  | some join =>
    let client := { client with join := none }
    match driveJoin host.http join.state with
    | .pending state => ({ client with join := some { join with state := state } }, .ok ())
    | .done code body =>
      match client.checkAnswer code body wall with
      | .ok () => (client.settleJoin join body now early, .ok ())
      | .err () => (client.rejectJoin, .ok ())
      | .aborted => (client, .aborted)
    | .failed => (client.rejectJoin, .ok ())

-- every field of an attempt is put back, and the game is told
def fail (client : NetherHttpClient host) : NetherHttpClient host :=
  { client with
    join := none
    pool := none
    connected := false
    connectingDeadline := none
    ready := false
    remoteAddr := none
    rtt := none }.emit (if client.ready then .disconnected else .connectFailed)

def poolEvent (client : NetherHttpClient host) (event : Unit × ConnectionEvent) : NetherHttpClient host :=
  match event.2 with
  | .ready addr =>
    if client.ready then client
    else { client with ready := true, remoteAddr := addr, connectingDeadline := none }.emit .connected
  | .rtt rtt => { client with rtt := some rtt }
  | .message .reliable data => { client with received := client.received ++ [data] }
  | .message .unreliable data => { client with receivedUnreliable := client.receivedUnreliable ++ [data] }
  | .failed => client.fail

def updatePool (client : NetherHttpClient host) : NetherHttpClient host :=
  match client.pool with
  | none => client
  | some pool => pool.drive.2.foldl poolEvent { client with pool := some pool.drive.1 }

def retry (client : NetherHttpClient host) (dial : HttpDial host) : NetherHttpClient host :=
  match client.beginJoin dial with
  | (client, .ok ()) => client
  | (client, .error _) => client.fail

def checkDeadline (client : NetherHttpClient host) (now : Instant) (dial : HttpDial host) : NetherHttpClient host :=
  match client.connectingDeadline with
  | none => client
  | some deadline =>
    if now < deadline then client
    else if client.pool.isNone && 0 < client.attemptsLeft then client.retry dial
    else client.fail

def update (client : NetherHttpClient host) (now : Instant) (wall : SystemTime) (dial : HttpDial host)
    (early : List (PoolStep Unit)) : NetherHttpClient host × Outcome Empty Unit :=
  match (client.updateQuery now).updateJoin now wall early with
  | (joined, .ok ()) => (joined.updatePool.checkDeadline now dial, .ok ())
  | (joined, .aborted) => (joined, .aborted)

end NetherHttpClient

/-- The calls of the game, and the steps of the pool's thread between them. -/
inductive HttpClientInput (host : HttpClientHost) where
  | connect (localNetworkId serverUrl : String) (dial : HttpDial host)
  | disconnect
  | send (channel : Channel) (data : Bytes)
  | query (url : String) (dial : HttpDial host)
  | update (now : Instant) (wall : SystemTime) (dial : HttpDial host) (early : List (PoolStep Unit))
  | setIdentity (identity : host.ServerIdentity)
  | setServerTrust (trust : Option TokenTrust)
  | setTimeouts (timeouts : Timeouts)
  | setAttempts (attempts : Nat)
  | recv
  | recvUnreliable
  | nextEvent
  | pool (step : PoolStep Unit)

def HttpClientInput.isConnect {host : HttpClientHost} : HttpClientInput host → Bool
  | .connect _ _ _ => true
  | _ => false

namespace NetherHttpClient
variable {host : HttpClientHost}

-- a send that is refused or panics, and a query that fails, change nothing; a panic of the update ends the game's
-- use of the client, and a run goes no further
def next (client : NetherHttpClient host) (input : HttpClientInput host) : NetherHttpClient host :=
  match input with
  | .connect localNetworkId serverUrl dial => (client.connect localNetworkId serverUrl dial).1
  | .disconnect => client.disconnect
  | .send channel data =>
    match client.sendOn channel data with
    | .ok after => after
    | .err _ | .aborted => client
  | .query url dial =>
    match client.queryServerData url dial with
    | .ok after => after
    | .error _ => client
  | .update now wall dial early => (client.update now wall dial early).1
  | .setIdentity identity => { client with identity := some identity }
  | .setServerTrust trust => { client with serverTrust := trust }
  | .setTimeouts timeouts => { client with timeouts := timeouts }
  | .setAttempts attempts => { client with attempts := attempts }
  | .recv => { client with received := client.received.tail }
  | .recvUnreliable => { client with receivedUnreliable := client.receivedUnreliable.tail }
  | .nextEvent => { client with events := client.events.next.1 }
  | .pool step => { client with pool := client.pool.map (SessionPool.advance host.stunUsername · step) }

def step (client : NetherHttpClient host) (input : HttpClientInput host) : NetherHttpClient host × Unit :=
  (client.next input, ())

end NetherHttpClient

end Nethernet
