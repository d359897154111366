import Nethernet.Foundation.Table
import Nethernet.Http.Wire
import Nethernet.Identity.Trust
import Nethernet.Net
import Nethernet.Protocol.ServerData

/-! The HTTP signaling server: status on `/v1/join` and offers on
`/v1/join/{network_id}`, with a limit on the connections of one address and
joins that wait for their answer. -/

set_option autoImplicit false

namespace Nethernet
open Foundation Identity Http

structure PlayerInfo where
  xuid : Option String
  displayName : Option String
  networkId : String
  remoteAddress : Option SocketAddr
  claims : Claims

def PlayerInfo.new (claims : Claims) (networkId : String) (remoteAddress : Option SocketAddr) : PlayerInfo :=
  ⟨claims.xuid, claims.displayName, networkId, remoteAddress, claims⟩

structure HttpSignalerConfig where
  maxConnectionsPerAddress : Nat := 16
  maxPendingJoins : Nat := 64
  answerTimeout : Duration := .fromSecs 10
  trustedProxies : IpRangeSet := .empty
  advertisedAddresses : List String := []
  tokenTrust : Option TokenTrust := some .any
  serveMotd : Bool := true

/-- Why a pending join is refused, sent as 403, 504 or 503. -/
inductive RejectReason where
  | rejected
  | timeout
  | unavailable
  deriving DecidableEq, Repr

namespace RejectReason

def ofCode : SignalErrorCode → RejectReason
  | .negotiationTimeout | .negotiationTimeoutWaitingForAccept
  | .negotiationTimeoutWaitingForResponse | .inactivityTimeout => timeout
  | .incomingConnectionIgnored | .notLoggedIn => rejected
  | _ => unavailable

def status : RejectReason → StatusCode
  | rejected => .forbidden
  | timeout => .gatewayTimeout
  | unavailable => .serviceUnavailable

end RejectReason

-- building a response cannot fail: every header it is given is a constant or a number
inductive HttpSignalerError where
  | unknownConnection (connectionId : UInt64)
  deriving DecidableEq, Repr

structure Offer where
  connectionId : UInt64
  networkId : String
  sdp : String
  clientAddress : Option SocketAddr
  host : Option String
  player : Option PlayerInfo

/-- A request comes with what the clock and the random number generator say when it is handled. -/
inductive HttpSignalerInput where
  | connected (connection : Nat) (addr : SocketAddr)
  | request (connection : Nat) (request : Request String) (now : Instant) (wall : SystemTime) (joinId : UInt64)
  | answer (connectionId : UInt64) (sdp : String)
  | reject (connectionId : UInt64) (reason : RejectReason)
  | setServerData (data : ServerData)
  | setTokenTrust (trust : Option TokenTrust)
  | closed (connection : Nat)
  | update (now : Instant) (visit : Visit UInt64)

inductive HttpSignalerOutput where
  | response (connection : Nat) (response : Response) (keepAlive : Bool)
  | close (connection : Nat)
  | offer (offer : Offer)
  | wait (duration : Duration)

namespace HttpSignaler

structure Connection where
  addr : SocketAddr
  counted : Bool
  deriving DecidableEq, Repr

structure Pending where
  connection : Nat
  keepAlive : Bool
  deadline : Instant
  deriving DecidableEq, Repr

end HttpSignaler

structure HttpSignaler where
  config : HttpSignalerConfig
  connections : Table Nat HttpSignaler.Connection
  perAddress : Table IpAddr Nat
  pending : Table UInt64 HttpSignaler.Pending
  serverData : Option ServerData
  output : List HttpSignalerOutput

/-- What the signaler needs from elsewhere: reading an address, the crates that decode and verify the
identity of an offer, and the rewriting of an answer's candidates. -/
structure JoinTools where
  parseIp : String → Option IpAddr
  crates : IdentityCrates
  withAdvertisedCandidates : String → List String → String

namespace HttpSignaler

def new (config : HttpSignalerConfig) : HttpSignaler := ⟨config, ∅, ∅, ∅, none, []⟩

def joinPath : String := "/v1/join"
def joinPathStart : String := "/v1/join/"
def forwardedFor : String := "x-forwarded-for"

/-! ## Connections -/

def connected (signaler : HttpSignaler) (connection : Nat) (addr : SocketAddr) : HttpSignaler :=
  let peer := Endpoint.normalize addr.ip
  if signaler.config.trustedProxies.contains peer then
    { signaler with connections := signaler.connections.insert connection ⟨addr, false⟩ }
  else
    let held := (signaler.perAddress.lookup peer).getD 0
    -- a refused connection leaves the entry as it was, made with 0 if there was none
    if signaler.config.maxConnectionsPerAddress < held + 1 then
      { signaler with
        perAddress := signaler.perAddress.insert peer held
        output := signaler.output ++ [.close connection] }
    else
      { signaler with
        perAddress := signaler.perAddress.insert peer (held + 1)
        connections := signaler.connections.insert connection ⟨addr, true⟩ }

def release (perAddress : Table IpAddr Nat) (peer : IpAddr) : Table IpAddr Nat :=
  match perAddress.lookup peer with
  | none => perAddress
  | some held => if held - 1 = 0 then perAddress.erase peer else perAddress.insert peer (held - 1)

def closed (signaler : HttpSignaler) (connection : Nat) : HttpSignaler :=
  match signaler.connections.lookup connection with
  | none => signaler
  | some entry =>
    { signaler with
      connections := signaler.connections.erase connection
      perAddress :=
        if entry.counted then release signaler.perAddress (Endpoint.normalize entry.addr.ip)
        else signaler.perAddress
      pending := signaler.pending.retain fun _ pending => pending.connection ≠ connection }

/-! ## Responses -/

def push (signaler : HttpSignaler) (connection : Nat) (response : Response) (keepAlive : Bool) : HttpSignaler :=
  { signaler with output := signaler.output ++ [.response connection response keepAlive] }

def respond (signaler : HttpSignaler) (connection : Nat) (status : StatusCode) (keepAlive : Bool) : HttpSignaler :=
  signaler.push connection ⟨status, [("content-length", "0")], ""⟩ keepAlive

def respondWith (signaler : HttpSignaler) (connection : Nat) (body contentType : String) (keepAlive : Bool) :
    HttpSignaler :=
  signaler.push connection
    ⟨.ok, [("content-type", contentType), ("content-length", toString (utf8 body).length)], body⟩ keepAlive

/-! ## Requests -/

def keepAlive (request : Request String) : Bool :=
  let connection := ((request.headers.get "connection").bind headerText).getD ""
  match request.version with
  | .http10 => eqIgnoreAsciiCase connection.toList "keep-alive".toList
  | _ => !eqIgnoreAsciiCase connection.toList "close".toList

def status (signaler : HttpSignaler) (connection : Nat) (request : Request String) (keepAlive : Bool) :
    HttpSignaler :=
  if request.method ≠ "GET" then signaler.respond connection .methodNotAllowed keepAlive
  else
    match signaler.serverData.filter fun _ => signaler.config.serveMotd with
    | none => signaler.respond connection .notFound keepAlive
    | some data => signaler.respondWith connection data.toJson "application/json" keepAlive

section
variable (tools : JoinTools)

-- the first entry of the header, without the brackets of an IPv6 literal
def forwardedAddress (value : String) : Option IpAddr :=
  let first := trim ((value.toList.splitOn ',').headD [])
  let opened := (stripPrefix ['['] first).getD first
  let bare := if opened.getLast? = some ']' then opened.dropLast else opened
  Endpoint.parse tools.parseIp (String.ofList bare)

def clientAddress (signaler : HttpSignaler) (connection : Nat) (request : Request String) : Option SocketAddr := do
  let entry ← signaler.connections.lookup connection
  if signaler.config.trustedProxies.contains (Endpoint.normalize entry.addr.ip) then
    let forwarded ← (request.headers.get forwardedFor).bind headerText
    return .new (← forwardedAddress tools forwarded) entry.addr.port
  else return entry.addr

def admitJoin (signaler : HttpSignaler) (connection : Nat) (networkId : String) (request : Request String)
    (keepAlive : Bool) (now : Instant) (joinId : UInt64) (player : Option PlayerInfo) : HttpSignaler :=
  { signaler with
    pending := signaler.pending.insert joinId ⟨connection, keepAlive, now + signaler.config.answerTimeout⟩
    output := signaler.output ++
      [.offer
        { connectionId := joinId
          networkId := networkId
          sdp := request.body
          clientAddress := signaler.clientAddress tools connection request
          host := (request.headers.get "host").bind headerText
          player := player }] }

/-- The join waits for its answer unless there is no room or its identity is refused. The check of the
identity may panic, before anything is changed. -/
def join (signaler : HttpSignaler) (connection : Nat) (networkId : String) (request : Request String)
    (keepAlive : Bool) (now : Instant) (wall : SystemTime) (joinId : UInt64) :
    HttpSignaler × Outcome HttpSignalerError Unit :=
  if signaler.config.maxPendingJoins ≤ signaler.pending.size then
    (signaler.respond connection .serviceUnavailable keepAlive, .ok ())
  else
    match signaler.config.tokenTrust with
    | none => (signaler.admitJoin tools connection networkId request keepAlive now joinId none, .ok ())
    | some trust =>
      -- that a key was missed is for the refresher, which shares the key set
      match (validateSdp tools.crates request.body trust wall).2 with
      | .aborted => (signaler, .aborted)
      | .err _ => (signaler.respond connection .unauthorized keepAlive, .ok ())
      | .ok claims =>
        let player := PlayerInfo.new claims networkId (signaler.clientAddress tools connection request)
        (signaler.admitJoin tools connection networkId request keepAlive now joinId (some player), .ok ())

-- the id after the join path, one segment and not empty
def joinTarget (path : String) : Option (List Char) :=
  (stripPrefix joinPathStart.toList path.toList).filter fun id => id ≠ [] ∧ '/' ∉ id

def handleRequest (signaler : HttpSignaler) (connection : Nat) (request : Request String) (now : Instant)
    (wall : SystemTime) (joinId : UInt64) : HttpSignaler × Outcome HttpSignalerError Unit :=
  let keepAlive := keepAlive request
  if request.path = joinPath then (signaler.status connection request keepAlive, .ok ())
  else
    match joinTarget request.path with
    | none => (signaler.respond connection .notFound keepAlive, .ok ())
    | some networkId =>
      if request.method ≠ "POST" then (signaler.respond connection .methodNotAllowed keepAlive, .ok ())
      else signaler.join tools connection (String.ofList networkId) request keepAlive now wall joinId

/-! ## Answers -/

-- the pending join leaves the table before it is answered
def settle (signaler : HttpSignaler) (connectionId : UInt64) (reply : HttpSignaler → Pending → HttpSignaler) :
    HttpSignaler × Except HttpSignalerError Unit :=
  match signaler.pending.lookup connectionId with
  | none => (signaler, .error (.unknownConnection connectionId))
  | some pending => (reply { signaler with pending := signaler.pending.erase connectionId } pending, .ok ())

def answer (signaler : HttpSignaler) (connectionId : UInt64) (sdp : String) :
    HttpSignaler × Except HttpSignalerError Unit :=
  signaler.settle connectionId fun signaler pending =>
    signaler.respondWith pending.connection
      (tools.withAdvertisedCandidates sdp signaler.config.advertisedAddresses) "application/sdp" pending.keepAlive

def reject (signaler : HttpSignaler) (connectionId : UInt64) (reason : RejectReason) :
    HttpSignaler × Except HttpSignalerError Unit :=
  signaler.settle connectionId fun signaler pending =>
    signaler.respond pending.connection reason.status pending.keepAlive

def expired (signaler : HttpSignaler) (now : Instant) : List UInt64 :=
  (signaler.pending.retain fun _ pending => pending.deadline ≤ now).keys

def expire (signaler : HttpSignaler) : List UInt64 → HttpSignaler × Except HttpSignalerError Unit
  | [] => (signaler, .ok ())
  | connectionId :: rest =>
    match signaler.reject connectionId .timeout with
    | (next, .ok ()) => next.expire rest
    | (next, .error error) => (next, .error error)

def nextDeadline (signaler : HttpSignaler) (now : Instant) : Duration :=
  let waits := signaler.pending.entries.map fun entry => Instant.since entry.2.deadline now
  waits.min?.getD signaler.config.answerTimeout

def handleUpdate (signaler : HttpSignaler) (now : Instant) (visit : Visit UInt64) :
    HttpSignaler × Except HttpSignalerError Unit :=
  match signaler.expire (visit.arrange (signaler.expired now)) with
  | (next, .error error) => (next, .error error)
  | (next, .ok ()) => ({ next with output := next.output ++ [.wait (next.nextDeadline now)] }, .ok ())

def handle (signaler : HttpSignaler) (input : HttpSignalerInput) :
    HttpSignaler × Outcome HttpSignalerError Unit :=
  match input with
  | .connected connection addr => (signaler.connected connection addr, .ok ())
  | .request connection request now wall joinId =>
    signaler.handleRequest tools connection request now wall joinId
  | .answer connectionId sdp =>
    let done := signaler.answer tools connectionId sdp
    (done.1, .ofExcept done.2)
  | .reject connectionId reason =>
    let done := signaler.reject connectionId reason
    (done.1, .ofExcept done.2)
  | .setServerData data => ({ signaler with serverData := some data }, .ok ())
  | .setTokenTrust trust => ({ signaler with config := { signaler.config with tokenTrust := trust } }, .ok ())
  | .closed connection => (signaler.closed connection, .ok ())
  | .update now visit =>
    let done := signaler.handleUpdate now visit
    (done.1, .ofExcept done.2)

end

def poll (signaler : HttpSignaler) : HttpSignaler × Option HttpSignalerOutput :=
  match signaler.output with
  | [] => (signaler, none)
  | output :: rest => ({ signaler with output := rest }, some output)

end HttpSignaler

end Nethernet
