import Nethernet.Error
import Nethernet.Foundation.Outcome
import Nethernet.Foundation.Text
import Nethernet.Foundation.Utf8
import Nethernet.Time

/-! Tokens: compact JWS serializations, their claims, and the keys that verify them.

Base64, JSON and signature code is third party and enters as `IdentityCrates`. -/

set_option autoImplicit false

namespace Nethernet
open Foundation

inductive IdentityError where
  | missing
  | malformed (text : String)
  | untrusted (text : String)
  | clientPublicKey (text : String)
  | fingerprintMismatch
  | noFingerprints
  | signing (text : String)
  deriving DecidableEq, Repr

inductive JsonNumber where
  | posInt (value : UInt64)
  | negInt (value : Int)
  | float (text : String)

inductive Json where
  | null
  | bool (value : Bool)
  | number (value : JsonNumber)
  | string (value : String)
  | array (items : List Json)
  | object (fields : List (String × Json))

namespace Json

def asStr : Json → Option String
  | .string value => some value
  | _ => none

def asU64 : Json → Option UInt64
  | .number (.posInt value) => some value
  | _ => none

end Json

namespace Identity

structure Idp where
  domain : String
  protocol : String

/-- A token plus a detached ES384 signature over the SDP fingerprints. -/
structure Assertion where
  token : String
  fingerprints : String

-- the outer JSON object of an `a=identity` value; `assertion` is itself JSON text
structure Raw where
  idp : Idp
  assertion : String

structure Header where
  alg : String
  kid : Option String

structure EcJwk where
  kty : String
  crv : String
  x : String
  y : String

end Identity

/-- Third-party decoding and signature code. Every operation is total: it
returns a value or an error. -/
structure IdentityCrates where
  VerifyingKey : Type
  Signature : Type
  RsaPublicKey : Type
  RsaSignature : Type
  /-- base64 with the standard alphabet and padding -/
  standardDecode : String → Except String Bytes
  /-- base64 with the URL-safe alphabet and no padding -/
  urlSafeDecode : String → Except String Bytes
  urlSafeEncode : Bytes → String
  -- `serde_json::from_str` and `from_slice` at the types the code reads
  rawFromStr : String → Except String Identity.Raw
  assertionFromStr : String → Except String Identity.Assertion
  headerFromSlice : Bytes → Except String Identity.Header
  claimsFromSlice : Bytes → Except String (List (String × Json))
  ecJwkDeserialize : Json → Except String Identity.EcJwk
  -- P-384 keys and ES384 signatures
  fromPublicKeyDer : Bytes → Except String VerifyingKey
  fromSec1Bytes : Bytes → Except String VerifyingKey
  signatureFromSlice : Bytes → Except String Signature
  es384Verify : VerifyingKey → Bytes → Signature → Bool
  -- RSA keys and RS256 signatures
  rsaPublicKey : Bytes → Bytes → Except String RsaPublicKey
  rsaSignature : Bytes → Option RsaSignature
  rs256Verify : RsaPublicKey → Bytes → RsaSignature → Bool

variable {signature compact payload header : String} {signatureBytes : Bytes}

namespace Identity

variable (crates : IdentityCrates)

/-! ## Compact serializations -/

structure Jws where
  header : Header
  signingInput : String
  payload : Bytes
  signature : Bytes

def Jws.decode (value : String) : Except IdentityError Bytes :=
  (crates.urlSafeDecode value).mapError fun e => .malformed ("invalid base64url: " ++ e)

def Jws.parseHeader (value : String) : Except IdentityError Header := do
  let bytes ← decode crates value
  (crates.headerFromSlice bytes).mapError fun e => .malformed ("invalid header: " ++ e)

def Jws.parse (compact : String) : Except IdentityError Jws :=
  match (compact.toList.splitOn '.').map String.ofList with
  | [header, payload, signature] => do
    let parsed ← parseHeader crates header
    let payloadBytes ← decode crates payload
    let signatureBytes ← decode crates signature
    return ⟨parsed, header ++ "." ++ payload, payloadBytes, signatureBytes⟩
  | _ => .error (.malformed "expected three parts in the compact serialization")

/-- A `header..signature` serialization whose payload is given separately. -/
def Jws.parseDetached (compact : String) (payload : String) : Except IdentityError Jws :=
  match (compact.toList.splitOn '.').map String.ofList with
  | [header, "", signature] => do
    let encoded := crates.urlSafeEncode (utf8 payload)
    let parsed ← parseHeader crates header
    let signatureBytes ← decode crates signature
    return ⟨parsed, header ++ "." ++ encoded, utf8 payload, signatureBytes⟩
  | _ => .error (.malformed "expected a detached compact serialization")

/-- Three parts without a dot are read back from their compact serialization. -/
theorem Jws.split_compact
    (shape : compact.toList = header.toList ++ '.' :: (payload.toList ++ '.' :: signature.toList))
    (headerPlain : ∀ c ∈ header.toList, (c == '.') = false) (payloadPlain : ∀ c ∈ payload.toList, (c == '.') = false)
    (signaturePlain : ∀ c ∈ signature.toList, (c == '.') = false) :
    (compact.toList.splitOn '.').map String.ofList = [header, payload, signature] := by
  rw [shape, List.splitOn_eq_splitOnP, List.splitOnP_append_cons_of_forall_mem headerPlain _ (by decide),
    List.splitOnP_append_cons_of_forall_mem payloadPlain _ (by decide),
    List.splitOnP_eq_singleton signaturePlain]
  simp only [List.map_cons, List.map_nil, String.ofList_toList]

theorem Jws.parse_eq {parsed : Header} {payloadBytes : Bytes}
    (split : (compact.toList.splitOn '.').map String.ofList = [header, payload, signature])
    (headerRead : parseHeader crates header = .ok parsed) (payloadRead : decode crates payload = .ok payloadBytes)
    (signatureRead : decode crates signature = .ok signatureBytes) :
    parse crates compact = .ok ⟨parsed, header ++ "." ++ payload, payloadBytes, signatureBytes⟩ := by
  unfold Jws.parse
  rw [split]
  simp only [headerRead, payloadRead, signatureRead]
  rfl

theorem Jws.parseDetached_eq {parsed : Header}
    (split : (compact.toList.splitOn '.').map String.ofList = [header, "", signature])
    (headerRead : parseHeader crates header = .ok parsed)
    (signatureRead : decode crates signature = .ok signatureBytes) :
    parseDetached crates compact payload = .ok ⟨parsed,
      header ++ "." ++ crates.urlSafeEncode (utf8 payload), utf8 payload, signatureBytes⟩ := by
  unfold Jws.parseDetached
  rw [split]
  simp only [headerRead, signatureRead]
  rfl

def Jws.verifyEs384 (jws : Jws) (key : crates.VerifyingKey) : Except IdentityError Unit :=
  if jws.header.alg ≠ "ES384" then
    .error (.malformed ("expected ES384, got " ++ jws.header.alg))
  else do
    let signature ← (crates.signatureFromSlice jws.signature).mapError fun e =>
      IdentityError.malformed ("invalid signature: " ++ e)
    if crates.es384Verify key (utf8 jws.signingInput) signature then .ok ()
    else .error .fingerprintMismatch

/-! ## Claims -/

-- a JSON object's keys are distinct once parsed into a map
structure Claims where
  values : List (String × Json)

def Jws.claims (jws : Jws) : Except IdentityError Claims :=
  ((crates.claimsFromSlice jws.payload).map Claims.mk).mapError fun e =>
    .malformed ("invalid claims: " ++ e)

namespace Claims

def get (claims : Claims) (claim : String) : Option Json := claims.values.lookup claim

def string (claims : Claims) (claim : String) : Option String := (claims.get claim).bind Json.asStr

def subject (claims : Claims) : Option String := claims.string "sub"

def issuer (claims : Claims) : Option String := claims.string "iss"

def xuid (claims : Claims) : Option String := claims.string "xid"

def displayName (claims : Claims) : Option String := claims.string "xname"

def audience (claims : Claims) : List String :=
  match claims.get "aud" with
  | some (.string audience) => [audience]
  | some (.array audiences) => audiences.filterMap Json.asStr
  | _ => []

/-- The `exp` claim when it is an unsigned 64-bit integer. -/
def exp (claims : Claims) : Option UInt64 := (claims.get "exp").bind Json.asU64

def leeway : Duration := .fromSecs 60

-- `UNIX_EPOCH + Duration::from_secs(seconds)` panics outside the clock's range
def expiry (claims : Claims) : Outcome IdentityError (Option SystemTime) :=
  match claims.exp with
  | none => .ok none
  | some seconds => do
    let time ← .orAbort (SystemTime.unixEpoch.checkedAdd (.fromSecs seconds.toNat))
    return some time

/-- Refuses a token with no `exp`, or expired by more than 60 seconds. -/
def checkExpiry (claims : Claims) (now : SystemTime) : Outcome IdentityError Unit := do
  match ← claims.expiry with
  | none => .err (.untrusted "the token carries no expiry")
  | some expiry =>
    let limit ← .orAbort (expiry.checkedAdd leeway)
    if now.nanos ≤ limit.nanos then .ok () else .err (.untrusted "the token has expired")

end Claims

/-! ## Keys -/

def p384CoordinateLen : Nat := 48

def EcJwk.coordinate (name value : String) : Except IdentityError Bytes := do
  let bytes ← (crates.urlSafeDecode value).mapError fun e =>
    IdentityError.clientPublicKey (name ++ " is not unpadded base64url: " ++ e)
  if bytes.length = p384CoordinateLen then .ok bytes
  else .error (.clientPublicKey (name ++ " is " ++ toString bytes.length ++ " bytes, expected " ++
    toString p384CoordinateLen))

-- `TryFrom<&EcJwk>` for the P-384 verifying key
def EcJwk.verifyingKey (jwk : EcJwk) : Except IdentityError crates.VerifyingKey :=
  if jwk.kty ≠ "EC" then .error (.clientPublicKey ("unsupported key type " ++ jwk.kty))
  else if jwk.crv ≠ "P-384" then .error (.clientPublicKey ("unsupported curve " ++ jwk.crv))
  else do
    let x ← coordinate crates "x" jwk.x
    let y ← coordinate crates "y" jwk.y
    (crates.fromSec1Bytes (4 :: (x ++ y))).mapError fun e =>
      .clientPublicKey ("not a key on P-384: " ++ e)

def Claims.spkiKey (cpk : String) : Except IdentityError crates.VerifyingKey := do
  let der ← (crates.standardDecode cpk).mapError fun e =>
    IdentityError.clientPublicKey ("invalid base64: " ++ e)
  (crates.fromPublicKeyDer der).mapError fun e => .clientPublicKey ("not a key on P-384: " ++ e)

/-- The `cpk` claim: a P-384 key as a JWK object or as a base64 SPKI DER string. -/
def Claims.clientPublicKey (claims : Claims) : Except IdentityError crates.VerifyingKey :=
  match claims.get "cpk" with
  | none => .error (.clientPublicKey "the token carries no cpk")
  | some (.string cpk) => spkiKey crates cpk
  | some (.object fields) => do
    let jwk ← (crates.ecJwkDeserialize (.object fields)).mapError fun e =>
      IdentityError.clientPublicKey ("invalid JWK: " ++ e)
    jwk.verifyingKey crates
  | some _ => .error (.clientPublicKey "the cpk is neither a string nor a JWK object")

structure Jwk where
  kty : String
  kid : Option String
  n : Option String
  e : Option String

abbrev JwkSet := List Jwk

def JwkSet.candidates (keys : JwkSet) (kid : Option String) : List Jwk :=
  match kid with
  | some kid => keys.filter fun key => key.kid = some kid
  | none => keys

def Jwk.decode (value : String) : Except IdentityError Bytes :=
  (crates.urlSafeDecode value).mapError fun e => .untrusted ("invalid base64url in key: " ++ e)

def Jwk.verifyRs256 (key : Jwk) (signingInput signature : Bytes) : Except IdentityError Unit :=
  if key.kty ≠ "RSA" then .error (.untrusted ("unsupported key type " ++ key.kty))
  else
    match key.n, key.e with
    | some n, some e => do
      let modulus ← decode crates n
      let exponent ← decode crates e
      let rsa ← (crates.rsaPublicKey modulus exponent).mapError fun e =>
        IdentityError.untrusted ("invalid RSA key: " ++ e)
      match crates.rsaSignature signature with
      | none => .error (.untrusted "signature mismatch")
      | some parsed =>
        if crates.rs256Verify rsa signingInput parsed then .ok ()
        else .error (.untrusted "signature mismatch")
    | _, _ => .error (.untrusted "incomplete RSA key")

end Identity

end Nethernet
