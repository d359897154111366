import Nethernet.Http.Stream
import Nethernet.Protocol.ServerData

/-! The HTTP client's side of a join: the URL it is given, the request it writes, and
the exchange of one request for one response, which is then checked. -/

set_option autoImplicit false

namespace Nethernet.Http
open Foundation

/-! ## The server's URL -/

inductive JoinError where
  | missingScheme
  | unsupportedScheme
  | missingHost
  | invalidPort
  | tlsUnavailable
  | invalidServerName
  | tls
  deriving DecidableEq, Repr

structure JoinTarget where
  secure : Bool
  host : String
  port : UInt16
  authority : String
  deriving DecidableEq, Repr

namespace JoinTarget

-- whether the scheme asks for TLS, and its port
def parseScheme (scheme : List Char) : Except JoinError (Bool × UInt16) :=
  if eqIgnoreAsciiCase scheme "http".toList then .ok (false, 80)
  else if eqIgnoreAsciiCase scheme "https".toList then .ok (true, 443)
  else .error .unsupportedScheme

-- the host, out of its brackets, and the text of the port
def splitHost (hostAndPort : List Char) : Except JoinError (List Char × Option (List Char)) :=
  match stripPrefix ['['] hostAndPort with
  | some bracketed =>
    match splitOnce ']' bracketed with
    | none => .error .missingHost
    | some (host, after) => .ok (host, stripPrefix [':'] after)
  | none =>
    match rsplitOnce ':' hostAndPort with
    | some (host, port) => .ok (host, some port)
    | none => .ok (hostAndPort, none)

def parsePort (default : UInt16) : Option (List Char) → Except JoinError UInt16
  | none => .ok default
  | some text =>
    match parseUnsigned (2 ^ 16) text with
    | .ok port => .ok (UInt16.ofNat port)
    | .error _ => .error .invalidPort

def endsAuthority (c : Char) : Bool := c = '/' || c = '?' || c = '#'

def parse (url : String) : Except JoinError JoinTarget := do
  let (scheme, rest) ← (splitOnceText "://".toList url.toList).elim (.error .missingScheme) .ok
  let (secure, defaultPort) ← parseScheme scheme
  let authority := rest.takeWhile fun c => !endsAuthority c
  -- user information ends at the last `@`
  let hostAndPort := (rsplitOnce '@' authority).elim authority Prod.snd
  let (host, portText) ← splitHost hostAndPort
  if host.isEmpty then .error .missingHost
  let port ← parsePort defaultPort portText
  return ⟨secure, String.ofList host, port, String.ofList hostAndPort⟩

end JoinTarget

/-! ## Requests -/

def joinContentType : String := "application/sdp"
def clientUserAgent : String := "libhttpclient/1.0.0.0"
def statusPath : String := "/v1/join"
def joinPathOf (networkId : String) : String := statusPath ++ "/" ++ networkId

inductive RequestWireError where
  | invalidHeaderValue
  | invalidTarget
  deriving DecidableEq, Repr

/-- The checks of the `http` crate on what a request is made of. -/
structure RequestCrates where
  -- `HeaderValue::from_str`
  headerValue : String → Option String
  -- `PathAndQuery::from_str`, and how it is displayed
  pathAndQuery : String → Option String

namespace RequestWriter
variable (crates : RequestCrates)

def headerValue (text : String) : Except RequestWireError String :=
  (crates.headerValue text).elim (.error .invalidHeaderValue) .ok

def commonHeaders (host : String) : Except RequestWireError (List (String × String)) := do
  return [("host", ← headerValue crates host), ("user-agent", ← headerValue crates clientUserAgent)]

def encode (method path : String) (headers : List (String × String)) (body : String) : Except RequestWireError Bytes :=
  match crates.pathAndQuery path with
  | none => .error .invalidTarget
  | some target => .ok (ResponseWriter.serialize (method ++ " " ++ target ++ " HTTP/1.1\r\n") headers body)

def post (host path contentType body : String) : Except RequestWireError Bytes := do
  let headers ← commonHeaders crates host
  encode crates "POST" path (headers ++ [("content-type", ← headerValue crates contentType)]) body

def get (host path : String) : Except RequestWireError Bytes := do
  let headers ← commonHeaders crates host
  encode crates "GET" path headers ""

end RequestWriter

/-! ## Responses -/

def maxAnswerSize : Nat := 2 ^ 20

def isSuccess (status : UInt16) : Bool := 200 ≤ status && status < 300

inductive JoinResponseError where
  | status (status : UInt16)
  | empty
  | bodySizeExceeded (size : Nat)
  | rejected (code : SignalErrorCode)
  deriving DecidableEq, Repr

-- a bare number is an error code and not an answer
def validateJoinResponse (status : UInt16) (body : String) : Except JoinResponseError Unit :=
  if !isSuccess status then .error (.status status)
  else if body = "" then .error .empty
  else if maxAnswerSize < (utf8 body).length then .error (.bodySizeExceeded (utf8 body).length)
  else
    match parseUnsigned (2 ^ 32) (trim body.toList) with
    | .ok code => .error (.rejected (.ofU32 code))
    | .error _ => .ok ()

inductive StatusResponseError where
  | status (status : UInt16)
  | malformed (error : ProtocolError)
  deriving DecidableEq, Repr

/-- The fields of the status document that the client reads. -/
structure StatusDocument where
  name : String
  protocol : UInt32
  version : String
  level : String
  players : Int32
  maxPlayers : Int32
  gameType : UInt8
  deriving DecidableEq, Repr

-- `parseStatus` is `serde_json::from_str` at the document, with the text of its error
def serverDataFromJson (parseStatus : String → Except String StatusDocument) (json : String) :
    Except ProtocolError ServerData :=
  match parseStatus json with
  | .error error => .error (.other ("invalid server data JSON: " ++ error))
  | .ok status => .ok { ServerData.new status.name status.level with
      protocolVersion := status.protocol
      gameVersion := status.version
      playerCount := status.players
      maxPlayerCount := status.maxPlayers
      gameType := status.gameType }

def validateStatusResponse (parseStatus : String → Except String StatusDocument) (status : UInt16) (body : String) :
    Except StatusResponseError ServerData :=
  if !isSuccess status then .error (.status status)
  else (serverDataFromJson parseStatus body).mapError .malformed

/-! ## The exchange -/

inductive JoinState (wire : Wire) where
  | sending (stream : HttpStream wire)
  | receiving (stream : HttpStream wire)

inductive JoinStep (wire : Wire) where
  | pending (state : JoinState wire)
  | done (code : UInt16) (body : String)
  | failed

section
variable {wire : Wire}

-- `JoinState::sending`
def JoinState.begin (stream : HttpStream wire) (request : Bytes) : JoinState wire := .sending (stream.queue request)

/-- What the client makes of the bytes received so far. -/
def readResponse (crates : ClientCrates) (stream : HttpStream wire) : JoinStep wire :=
  match ResponseReader.parse crates stream.inbound with
  | .ok (.complete reply) =>
    match fromUtf8 reply.body with
    | .ok body => .done reply.status body
    | .error _ => .failed
  | .ok .incomplete => if maxBody < stream.inbound.length then .failed else .pending (.receiving stream)
  | .error _ => .failed

def driveJoin (crates : ClientCrates) : JoinState wire → JoinStep wire
  | .sending stream =>
    match stream.drain with
    | (stream, .ok .blocked) | (stream, .ok .part) => .pending (.sending stream)
    | (stream, .ok .complete) | (stream, .ok .empty) => .pending (.receiving stream)
    | (_, .error _) => .failed
  | .receiving stream =>
    match stream.fill with
    | (_, .error _) | (_, .ok .closed) => .failed
    | (stream, .ok .idle) => .pending (.receiving stream)
    | (stream, .ok .received) => readResponse crates stream

/-- The client drives the exchange once a frame until it is over. -/
def driveJoins (crates : ClientCrates) : Nat → JoinState wire → JoinStep wire
  | 0, state => .pending state
  | frames + 1, state =>
    match driveJoin crates state with
    | .pending state => driveJoins crates frames state
    | step => step

end

end Nethernet.Http
