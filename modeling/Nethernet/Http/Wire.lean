import Mathlib.Algebra.Group.Nat.Defs
import Nethernet.Error
import Nethernet.Foundation.Text
import Nethernet.Foundation.Utf8

/-! HTTP messages on the wire: the framing of bodies, the readers of requests and
responses and the writer of responses. Tokenising a head is left to the `httparse` crate and
building a request from the tokens to the `http` crate. -/

set_option autoImplicit false

namespace Nethernet.Http
open Foundation

/-! ## Messages -/

inductive Version where
  | http09
  | http10
  | http11
  | http2
  | http3
  deriving DecidableEq, Repr

abbrev Headers := List (String × Bytes)

def isHeader (name : String) (header : String × Bytes) : Bool :=
  eqIgnoreAsciiCase header.1.toList name.toList

-- `HeaderMap::get`: the first value under the name
def Headers.get (headers : Headers) (name : String) : Option Bytes :=
  (headers.find? (isHeader name)).map Prod.snd

-- `HeaderValue::to_str`: only visible ASCII and tabs
def headerText (value : Bytes) : Option String :=
  if value.all fun byte => (0x20 ≤ byte && byte ≤ 0x7e) || byte = 0x09 then
    some (String.ofList (value.map fun byte => Char.ofNat byte.toNat))
  else none

structure Parts where
  method : String
  path : String
  version : Version
  headers : Headers

structure Request (Body : Type) extends Parts where
  body : Body

inductive StatusCode where
  | ok
  | badRequest
  | unauthorized
  | forbidden
  | notFound
  | methodNotAllowed
  | lengthRequired
  | payloadTooLarge
  | requestHeaderFieldsTooLarge
  | serviceUnavailable
  | gatewayTimeout
  deriving DecidableEq, Repr

namespace StatusCode

def number : StatusCode → Nat
  | ok => 200
  | badRequest => 400
  | unauthorized => 401
  | forbidden => 403
  | notFound => 404
  | methodNotAllowed => 405
  | lengthRequired => 411
  | payloadTooLarge => 413
  | requestHeaderFieldsTooLarge => 431
  | serviceUnavailable => 503
  | gatewayTimeout => 504

def canonicalReason : StatusCode → String
  | ok => "OK"
  | badRequest => "Bad Request"
  | unauthorized => "Unauthorized"
  | forbidden => "Forbidden"
  | notFound => "Not Found"
  | methodNotAllowed => "Method Not Allowed"
  | lengthRequired => "Length Required"
  | payloadTooLarge => "Payload Too Large"
  | requestHeaderFieldsTooLarge => "Request Header Fields Too Large"
  | serviceUnavailable => "Service Unavailable"
  | gatewayTimeout => "Gateway Timeout"

end StatusCode

structure Response where
  status : StatusCode
  headers : List (String × String)
  body : String
  deriving DecidableEq, Repr

/-! ## The crates that tokenise and build messages -/

inductive Status (A : Type) where
  | complete (value : A)
  | incomplete
  deriving DecidableEq, Repr

inductive HttparseError where
  | tooManyHeaders
  | other
  deriving DecidableEq, Repr

structure RawRequest where
  method : Option String
  path : Option String
  headers : Headers

structure HttpCrates where
  -- `httparse::Request::parse` into that many header slots, with the length of the head
  parseRequest : Nat → Bytes → Except HttparseError (Status (Nat × RawRequest))
  -- `httparse::parse_chunk_size`: the length of the size line and the size
  parseChunkSize : Bytes → Option (Status (Nat × UInt64))
  parseHeaders : Nat → Bytes → Except HttparseError (Status Nat)
  -- `http::request::Builder` with its method, target and header checks
  buildRequest : String → String → Headers → Option Parts

def maxHeaders : Nat := 100
def maxBody : Nat := 2 ^ 20

inductive FramingError where
  | headerCountExceeded
  | malformed
  | sizeExceeded
  deriving DecidableEq, Repr

inductive RequestError where
  | headerCountExceeded
  | malformed
  | sizeExceeded
  | lengthRequired
  deriving DecidableEq, Repr

def RequestError.ofFraming : FramingError → RequestError
  | .headerCountExceeded => .headerCountExceeded
  | .malformed => .malformed
  | .sizeExceeded => .sizeExceeded

/-! ## Bodies -/

inductive ChunkedBody where
  | complete (body : Bytes) (consumed : Nat)
  | incomplete
  deriving DecidableEq, Repr

namespace ChunkedBody
variable (crates : HttpCrates)

def trailerLen (rest : Bytes) : Except FramingError (Option Nat) :=
  match crates.parseHeaders maxHeaders rest with
  | .ok (.complete length) => .ok (some length)
  | .ok .incomplete => .ok none
  | .error .tooManyHeaders => .error .headerCountExceeded
  | .error .other => .error .malformed

def decodeFrom (buf : Bytes) (body : Bytes) (start : Nat) : Except FramingError ChunkedBody :=
  match crates.parseChunkSize (buf.drop start) with
  | none => .error .malformed
  | some .incomplete => .ok .incomplete
  | some (.complete (lineLen, size)) =>
    let chunk := start + lineLen
    if size.toNat = 0 then
      match trailerLen crates (buf.drop chunk) with
      | .error error => .error error
      | .ok none => .ok .incomplete
      | .ok (some trailer) => .ok (.complete body (chunk + trailer))
    else if maxBody - body.length < size.toNat then .error .sizeExceeded
    else if chunk + (size.toNat + 2) ≤ buf.length then
      if (buf.drop (chunk + size.toNat)).take 2 = [13, 10] then
        decodeFrom buf (body ++ (buf.drop chunk).take size.toNat) (chunk + (size.toNat + 2))
      else .error .malformed
    else .ok .incomplete
termination_by buf.length - start

def decode (buf : Bytes) : Except FramingError ChunkedBody := decodeFrom crates buf [] 0

end ChunkedBody

inductive BodyFraming where
  | length (count : Nat)
  | chunked
  deriving DecidableEq, Repr

namespace BodyFraming

def contentLength : String := "content-length"
def transferEncoding : String := "transfer-encoding"

-- `[u8]::trim_ascii`
def trimAscii (value : Bytes) : Bytes :=
  let blank : UInt8 → Bool := fun byte => byte ∈ [0x20, 0x09, 0x0a, 0x0c, 0x0d]
  ((value.dropWhile blank).reverse.dropWhile blank).reverse

def asciiLower (byte : UInt8) : UInt8 := if 0x41 ≤ byte && byte ≤ 0x5a then byte + 0x20 else byte

def lengthOf (value : Bytes) : Except FramingError Nat :=
  match fromUtf8 value with
  | .error _ => .error .malformed
  | .ok text =>
    match parseUnsigned (2 ^ 64) (trim text.toList) with
    | .error _ => .error .malformed
    | .ok count => if maxBody < count then .error .sizeExceeded else .ok count

def of (headers : Headers) : Except FramingError (Option BodyFraming) :=
  match headers.get contentLength, headers.get transferEncoding with
  | some _, some _ => .error .malformed
  | none, some encoding =>
    if (trimAscii encoding).map asciiLower = utf8 "chunked" then .ok (some .chunked)
    else .error .malformed
  | some value, none => (lengthOf value).map fun count => some (.length count)
  | none, none => .ok none

/-- The body and the bytes it takes, once all of it is there. -/
def read (crates : HttpCrates) (framing : BodyFraming) (buf : Bytes) :
    Except FramingError (Option (Bytes × Nat)) :=
  match framing with
  | .length count => .ok (if count ≤ buf.length then some (buf.take count, count) else none)
  | .chunked =>
    (ChunkedBody.decode crates buf).map fun
      | .complete body consumed => some (body, consumed)
      | .incomplete => none

end BodyFraming

/-! ## Requests -/

namespace RequestReader
open BodyFraming
variable (crates : HttpCrates)

def tooManyOr (error : HttparseError) : RequestError :=
  match error with
  | .tooManyHeaders => .headerCountExceeded
  | .other => .malformed

def build (parsed : RawRequest) (body : Bytes) : Except RequestError (Request Bytes) :=
  match parsed.method, parsed.path with
  | some method, some path =>
    match crates.buildRequest method path parsed.headers with
    | some parts => .ok { parts with body := body }
    | none => .error .malformed
  | _, _ => .error .malformed

def parse (buf : Bytes) : Except RequestError (Status (Request Bytes)) := do
  match ← (crates.parseRequest maxHeaders buf).mapError tooManyOr with
  | .incomplete => return .incomplete
  | .complete (headerLen, parsed) =>
    if parsed.headers.any (isHeader transferEncoding) then
      throw (if parsed.headers.any (isHeader contentLength) then .malformed else .lengthRequired)
    let framing ← (BodyFraming.of parsed.headers).mapError RequestError.ofFraming
    match ← ((framing.getD (.length 0)).read crates (buf.drop headerLen)).mapError RequestError.ofFraming with
    | none => return .incomplete
    | some (body, _) => return .complete (← build crates parsed body)

end RequestReader

-- `TextBody::request`; the refusal of a body does not depend on where its UTF-8 breaks
def Request.text (request : Request Bytes) : Option (Request String) :=
  match fromUtf8 request.body with
  | .ok body => some { request.toParts with body := body }
  | .error _ => none

/-! ## Responses -/

inductive ResponseError where
  | headerCountExceeded
  | malformed
  | sizeExceeded
  | unboundedBody
  deriving DecidableEq, Repr

def ResponseError.ofFraming : FramingError → ResponseError
  | .headerCountExceeded => .headerCountExceeded
  | .malformed => .malformed
  | .sizeExceeded => .sizeExceeded

structure RawResponse where
  code : Option UInt16
  headers : Headers

/-- A response as the client reads it. -/
structure Reply where
  status : UInt16
  headers : Headers
  body : Bytes

structure ClientCrates extends HttpCrates where
  parseResponse : Nat → Bytes → Except HttparseError (Status (Nat × RawResponse))
  -- `http::response::Builder` with its status and header checks
  buildResponse : UInt16 → Headers → Option (UInt16 × Headers)

namespace ResponseReader
variable (crates : ClientCrates)

def tooManyOr (error : HttparseError) : ResponseError :=
  match error with
  | .tooManyHeaders => .headerCountExceeded
  | .other => .malformed

def build (parsed : RawResponse) (body : Bytes) : Except ResponseError Reply :=
  match parsed.code with
  | none => .error .malformed
  | some code =>
    match crates.buildResponse code parsed.headers with
    | some (status, headers) => .ok ⟨status, headers, body⟩
    | none => .error .malformed

def parse (buf : Bytes) : Except ResponseError (Status Reply) := do
  match ← (crates.parseResponse maxHeaders buf).mapError tooManyOr with
  | .incomplete => return .incomplete
  | .complete (headerLen, parsed) =>
    match ← (BodyFraming.of parsed.headers).mapError ResponseError.ofFraming with
    | none => throw .unboundedBody
    | some framing =>
      match ← (framing.read crates.toHttpCrates (buf.drop headerLen)).mapError ResponseError.ofFraming with
      | none => return .incomplete
      | some (body, _) => return .complete (← build crates parsed body)

end ResponseReader

namespace ResponseWriter

def statusLine (status : StatusCode) : String :=
  "HTTP/1.1 " ++ toString status.number ++ " " ++ status.canonicalReason ++ "\r\n"

def headerLine (name value : String) : String := name ++ ": " ++ value ++ "\r\n"

-- every response says its own length and closes
def serialize (startLine : String) (headers : List (String × String)) (body : String) : Bytes :=
  let kept := headers.filter fun header => header.1 ≠ "content-length" ∧ header.1 ≠ "connection"
  let lines := kept.map fun header => headerLine header.1 header.2
  let closing := headerLine "content-length" (toString (utf8 body).length) ++ headerLine "connection" "close"
  utf8 (startLine ++ String.join lines ++ closing ++ "\r\n") ++ utf8 body

def encode (response : Response) : Bytes :=
  serialize (statusLine response.status) response.headers response.body

end ResponseWriter

end Nethernet.Http
