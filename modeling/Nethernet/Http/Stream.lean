import Nethernet.Http.Wire
import Nethernet.Time

/-! One TCP connection of the HTTP server: buffered, non-blocking reads and
writes, at most one request, and a close once its response is written. -/

set_option autoImplicit false

namespace Nethernet.Http
open Foundation

inductive WireError where
  | io (wouldBlock : Bool)
  | tls
  | tlsNotStarted
  | writeZero
  deriving DecidableEq, Repr

inductive Inbound where
  | received
  | idle
  | closed
  deriving DecidableEq, Repr

/-- What a socket does, plain or under TLS. A read also gives the bytes it appends. -/
structure Wire where
  Socket : Type
  read : Socket → Socket × Except WireError (Inbound × Bytes)
  write : Socket → Bytes → Socket × Except WireError Nat
  flush : Socket → Socket × Except WireError Unit
  finish : Socket → Socket × Except WireError Unit
  hasPendingOutput : Socket → Bool
  awaitingSession : Socket → Bool
  beginSession : Socket → Bytes → Socket × Except WireError Unit

inductive Drain where
  | empty
  | blocked
  | part
  | complete
  deriving DecidableEq, Repr

inductive Shutdown where
  | pending
  | done
  deriving DecidableEq, Repr

structure HttpStream (wire : Wire) where
  socket : wire.Socket
  inbound : Bytes
  outbound : Bytes
  written : Nat

namespace HttpStream
variable {wire : Wire}

def new (socket : wire.Socket) : HttpStream wire := ⟨socket, [], [], 0⟩

def queue (stream : HttpStream wire) (bytes : Bytes) : HttpStream wire :=
  { stream with outbound := stream.outbound ++ bytes }

def hasOutbound (stream : HttpStream wire) : Bool := !stream.outbound.isEmpty

def fill (stream : HttpStream wire) : HttpStream wire × Except WireError Inbound :=
  match wire.read stream.socket with
  | (socket, .error error) => ({ stream with socket := socket }, .error error)
  | (socket, .ok (inbound, bytes)) =>
    ({ stream with socket := socket, inbound := stream.inbound ++ bytes }, .ok inbound)

def drain (stream : HttpStream wire) : HttpStream wire × Except WireError Drain :=
  if stream.outbound.isEmpty then (stream, .ok .empty)
  else
    match wire.write stream.socket (stream.outbound.drop stream.written) with
    | (socket, .ok 0) => ({ stream with socket := socket }, .error .writeZero)
    | (socket, .ok accepted) =>
      let written := stream.written + accepted
      if written = stream.outbound.length then
        ({ stream with socket := socket, outbound := [], written := 0 }, .ok .complete)
      else ({ stream with socket := socket, written := written }, .ok .part)
    | (socket, .error (.io true)) => ({ stream with socket := socket }, .ok .blocked)
    | (socket, .error error) => ({ stream with socket := socket }, .error error)

def flush (stream : HttpStream wire) : HttpStream wire × Except WireError Unit :=
  ({ stream with socket := (wire.flush stream.socket).1 }, (wire.flush stream.socket).2)

def close (stream : HttpStream wire) : HttpStream wire × Shutdown :=
  match wire.finish stream.socket with
  | (socket, .error _) => ({ stream with socket := socket }, .done)
  | (socket, .ok ()) =>
    ({ stream with socket := socket }, if wire.hasPendingOutput socket then .pending else .done)

-- the first bytes of a TLS connection are handed to its session
def establish (stream : HttpStream wire) : HttpStream wire × Except WireError Inbound :=
  if !wire.awaitingSession stream.socket then (stream, .ok .idle)
  else
    match wire.beginSession stream.socket stream.inbound with
    | (socket, .error error) => ({ stream with socket := socket, inbound := [] }, .error error)
    | (socket, .ok ()) => { stream with socket := socket, inbound := [] : HttpStream wire }.fill

end HttpStream

structure TcpConn (wire : Wire) where
  stream : HttpStream wire
  closeAfterWrite : Bool
  requested : Bool
  lastActive : Instant

/-- What one turn of the server's loop makes of a connection. -/
inductive Verdict where
  | kept
  | closed
  | asked (request : Request String)

namespace TcpConn
variable {wire : Wire}

def refuse (conn : TcpConn wire) (status : StatusCode) : TcpConn wire :=
  { conn with
    stream := { conn.stream.queue (ResponseWriter.encode ⟨status, [], ""⟩) with inbound := [] }
    closeAfterWrite := true }

def close (conn : TcpConn wire) : TcpConn wire × Verdict :=
  let (stream, shutdown) := conn.stream.close
  ({ conn with stream := stream }, if shutdown = .done then .closed else .kept)

def refusal : RequestError → StatusCode
  | .headerCountExceeded => .requestHeaderFieldsTooLarge
  | .malformed => .badRequest
  | .sizeExceeded => .payloadTooLarge
  | .lengthRequired => .lengthRequired

def clearInbound (conn : TcpConn wire) : TcpConn wire :=
  { conn with stream := { conn.stream with inbound := [] } }

-- a connection that has asked has what follows thrown away
def readRequest (crates : HttpCrates) (conn : TcpConn wire) : TcpConn wire × Verdict :=
  if conn.requested then (conn.clearInbound, .kept)
  else
    match RequestReader.parse crates conn.stream.inbound with
    | .ok (.complete request) =>
      match request.text with
      | none => (conn.refuse .badRequest, .kept)
      | some request => ({ conn.clearInbound with requested := true }, .asked request)
    | .ok .incomplete =>
      if maxBody < conn.stream.inbound.length then (conn.refuse .payloadTooLarge, .kept) else (conn, .kept)
    | .error error => (conn.refuse (refusal error), .kept)

def settleTls (crates : HttpCrates) (conn : TcpConn wire) : TcpConn wire × Verdict :=
  match conn.stream.establish with
  | (stream, .error _) | (stream, .ok .closed) => ({ conn with stream := stream }, .closed)
  | (stream, .ok _) =>
    match stream.flush with
    | (stream, .error _) => ({ conn with stream := stream }, .closed)
    | (stream, .ok ()) => { conn with stream := stream }.readRequest crates

def receive (crates : HttpCrates) (conn : TcpConn wire) (now : Instant) : TcpConn wire × Verdict :=
  match conn.stream.fill with
  | (stream, .error _) | (stream, .ok .closed) => ({ conn with stream := stream }, .closed)
  | (stream, .ok .received) => { conn with stream := stream, lastActive := now }.settleTls crates
  | (stream, .ok .idle) => { conn with stream := stream }.settleTls crates

/-- The body of the server's loop over its connections. -/
def pump (crates : HttpCrates) (conn : TcpConn wire) (now : Instant) : TcpConn wire × Verdict :=
  if !conn.stream.hasOutbound && conn.closeAfterWrite then conn.close
  else
    match conn.stream.drain with
    | (stream, .error _) => ({ conn with stream := stream }, .closed)
    | (stream, .ok .empty) | (stream, .ok .blocked) => { conn with stream := stream }.receive crates now
    | (stream, .ok .part) => { conn with stream := stream, lastActive := now }.receive crates now
    | (stream, .ok .complete) =>
      let conn := { conn with stream := stream, lastActive := now }
      if conn.closeAfterWrite then conn.close else conn.receive crates now

end TcpConn

end Nethernet.Http
