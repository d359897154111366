import Nethernet.Identity.Trust

/-! The server's own identity: a P-384 key and a self-signed token that sign answers. -/

set_option autoImplicit false

namespace Nethernet
open Foundation Identity

/-- Third-party encoding and signing code beside the decoding code. -/
structure SigningCrates extends IdentityCrates where
  SigningKey : Type
  verifyingKey : SigningKey → VerifyingKey
  trySign : SigningKey → Bytes → Except String Signature
  signatureToBytes : Signature → Bytes
  -- the coordinates of `to_sec1_point(false)`
  toSec1Point : VerifyingKey → Option Bytes × Option Bytes
  standardEncode : Bytes → String
  -- `serde_json::to_string` at the types the code writes, and `Value::to_string`
  rawToString : Identity.Raw → Except String String
  assertionToString : Identity.Assertion → Except String String
  valueToString : Json → String

/-! ## Signatures -/

def es384Header : String := "\x7b\"alg\":\"ES384\"\x7d"

namespace Identity
variable (crates : SigningCrates)

def Jws.signParts (key : crates.SigningKey) (payload : String) :
    Except IdentityError (String × String × String) := do
  let header := crates.urlSafeEncode (utf8 es384Header)
  let payload := crates.urlSafeEncode (utf8 payload)
  let signature ← (crates.trySign key (utf8 (header ++ "." ++ payload))).mapError IdentityError.signing
  return (header, payload, crates.urlSafeEncode (crates.signatureToBytes signature))

/-- Signs `payload` as a compact ES384 JWS. -/
def Jws.sign (key : crates.SigningKey) (payload : String) : Except IdentityError String := do
  let (header, payload, signature) ← signParts crates key payload
  return header ++ "." ++ payload ++ "." ++ signature

/-- Signs `payload` as a `header..signature` JWS with the payload left out. -/
def Jws.signDetached (key : crates.SigningKey) (payload : String) : Except IdentityError String := do
  let (header, _, signature) ← signParts crates key payload
  return header ++ ".." ++ signature

/-! ## Keys and envelopes -/

-- `From<&VerifyingKey>` for the JSON Web Key
def EcJwk.ofVerifyingKey (key : crates.VerifyingKey) : EcJwk :=
  let point := crates.toSec1Point key
  let coordinate (bytes : Option Bytes) : String := crates.urlSafeEncode (bytes.getD [])
  ⟨"EC", "P-384", coordinate point.1, coordinate point.2⟩

-- the keys of a JSON map are sorted
def EcJwk.toJson (jwk : EcJwk) : Json :=
  .object [("crv", .string jwk.crv), ("kty", .string jwk.kty), ("x", .string jwk.x), ("y", .string jwk.y)]

def toJson (identity : Identity) : Except IdentityError String := do
  let assertion ← (crates.assertionToString identity.assertion).mapError IdentityError.malformed
  (crates.rawToString ⟨identity.idp, assertion⟩).mapError IdentityError.malformed

def toBase64 (identity : Identity) : Except IdentityError String := do
  let json ← identity.toJson crates
  return crates.standardEncode (utf8 json)

end Identity

/-! ## Tokens -/

/-- Whole seconds since the epoch; a time before it counts as the epoch. -/
def SystemTime.seconds (time : SystemTime) : UInt64 := UInt64.ofNat (time.nanos.toNat / 10 ^ 9)

def tokenClaims (cpk : EcJwk) (iat : UInt64) (domain : String) (exp : Option UInt64) : List (String × Json) :=
  [("cpk", cpk.toJson)] ++ (exp.map fun seconds => ("exp", .number (.posInt seconds))).toList ++
    [("iat", .number (.posInt iat))] ++ (if domain = "" then [] else [("iss", .string domain)])

section
variable (crates : SigningCrates)

-- `now + lifetime` panics outside the clock's range
def expAt (now : SystemTime) : Option Duration → Outcome IdentityError (Option UInt64)
  | none => .ok none
  | some lifetime => do
    let expiry ← .orAbort (now.checkedAdd lifetime)
    return some expiry.seconds

def mintToken (signing : crates.SigningKey) (verifying : crates.VerifyingKey) (domain : String)
    (now : SystemTime) (lifetime : Option Duration) : Outcome IdentityError String := do
  let exp ← expAt now lifetime
  let claims := tokenClaims (EcJwk.ofVerifyingKey crates verifying) now.seconds domain exp
  .ofExcept (Jws.sign crates signing (crates.valueToString (.object claims)))

end

/-! ## The identity -/

def defaultDomain : String := "self"
theorem defaultDomain_ne_empty : defaultDomain ≠ "" := by decide

def defaultTokenLifetime : Duration := .fromSecs (24 * 60 * 60)

/-- Server key and token. Peers refuse an empty domain, and the verifying key is
the signing key's own. -/
structure ServerIdentity (crates : SigningCrates) where
  signing : crates.SigningKey
  verifying : crates.VerifyingKey
  domain : String
  lifetime : Option Duration
  token : String
  matching : verifying = crates.verifyingKey signing
  named : domain ≠ ""

namespace ServerIdentity
variable {crates : SigningCrates}

def fromKey (signing : crates.SigningKey) (domain : String) (now : SystemTime)
    (lifetime : Option Duration) : Outcome IdentityError (ServerIdentity crates) := do
  let domain : { domain : String // domain ≠ "" } :=
    if given : domain = "" then ⟨defaultDomain, defaultDomain_ne_empty⟩ else ⟨domain, given⟩
  let token ← mintToken crates signing (crates.verifyingKey signing) domain now lifetime
  return { signing, verifying := crates.verifyingKey signing, domain := domain.1, lifetime, token,
           matching := rfl, named := domain.2 }

/-- A token issued at `now`, so a long-running server never signs with an expired one. -/
def tokenAt (identity : ServerIdentity crates) (now : SystemTime) : Outcome IdentityError String :=
  mintToken crates identity.signing identity.verifying identity.domain now identity.lifetime

def identityForFingerprints (identity : ServerIdentity crates) (fingerprints : List (String × String))
    (now : SystemTime) : Outcome IdentityError String := do
  let token ← identity.tokenAt now
  let signature ← .ofExcept (Jws.signDetached crates identity.signing (fingerprintPayload fingerprints))
  let envelope : Identity := ⟨⟨identity.domain, "default"⟩, ⟨token, signature⟩⟩
  .ofExcept (envelope.toBase64 crates)

/-- The base64 identity value signing the fingerprints of `answer`. -/
def identityValue (identity : ServerIdentity crates) (answer : String) (now : SystemTime) :
    Outcome IdentityError String := do
  let fingerprints ← .ofExcept (sdpFingerprints answer)
  identity.identityForFingerprints fingerprints now

def isMedia (line : List Char) : Bool := "m=".toList.isPrefixOf line

/-- One line of the loop: the text written so far, and whether the attribute is in it. -/
def augmentLine (attr eol : List Char) : List Char × Bool → List Char → List Char × Bool
  | (out, inserted), line =>
    if !inserted && isMedia line then (out ++ attr ++ eol ++ line, true)
    else (out ++ line, inserted)

def augmentLines (attr eol : List Char) (lines : List (List Char)) : List Char :=
  let (out, inserted) := lines.foldl (augmentLine attr eol) ([], false)
  if inserted then out else out ++ attr ++ eol

/-- Inserts a signed `a=identity` line above the first media section of an answer. -/
def augment (identity : ServerIdentity crates) (answer : String) (now : SystemTime) :
    Outcome IdentityError String := do
  let value ← identity.identityValue answer now
  let eol := if containsText "\r\n".toList answer.toList then "\r\n" else "\n"
  let lines := splitInclusive '\n' answer.toList
  return String.ofList (augmentLines ("a=identity:" ++ value).toList eol.toList lines)

end ServerIdentity

/-! ## What signing and encoding code is taken to do -/

/-- Decoding reads back what encoding wrote, and a signature made with a key is
accepted by its verifying key over the same bytes. -/
structure SigningCrates.Lawful (crates : SigningCrates) : Prop where
  standard_read : ∀ bytes, crates.standardDecode (crates.standardEncode bytes) = .ok bytes
  standard_ink : ∀ bytes, ∀ c ∈ (crates.standardEncode bytes).toList, isWhitespace c = false
  urlSafe_read : ∀ bytes, crates.urlSafeDecode (crates.urlSafeEncode bytes) = .ok bytes
  urlSafe_plain : ∀ bytes, ∀ c ∈ (crates.urlSafeEncode bytes).toList, (c == '.') = false
  raw_read : ∀ raw, ∃ json, crates.rawToString raw = .ok json ∧ crates.rawFromStr json = .ok raw
  assertion_read : ∀ assertion, ∃ json,
    crates.assertionToString assertion = .ok json ∧ crates.assertionFromStr json = .ok assertion
  header_read : crates.headerFromSlice (utf8 es384Header) = .ok ⟨"ES384", none⟩
  claims_read : ∀ cpk iat domain exp,
    crates.claimsFromSlice (utf8 (crates.valueToString (.object (tokenClaims cpk iat domain exp)))) =
      .ok (tokenClaims cpk iat domain exp)
  jwk_read : ∀ jwk : EcJwk, crates.ecJwkDeserialize jwk.toJson = .ok jwk
  point_read : ∀ key, ∃ x y, crates.toSec1Point key = (some x, some y) ∧
    x.length = p384CoordinateLen ∧ y.length = p384CoordinateLen ∧
    crates.fromSec1Bytes (4 :: (x ++ y)) = .ok key
  signature_read : ∀ signature,
    crates.signatureFromSlice (crates.signatureToBytes signature) = .ok signature
  signs : ∀ key bytes, ∃ signature, crates.trySign key bytes = .ok signature ∧
    crates.es384Verify (crates.verifyingKey key) bytes signature = true

section
variable {crates : SigningCrates} (lawful : crates.Lawful)
include lawful

variable (key : crates.SigningKey) (payload : String)

theorem Identity.Jws.signParts_eq :
    ∃ signature,
      Jws.signParts crates key payload = .ok (crates.urlSafeEncode (utf8 es384Header),
        crates.urlSafeEncode (utf8 payload), crates.urlSafeEncode (crates.signatureToBytes signature)) ∧
      crates.es384Verify (crates.verifyingKey key) (utf8 (crates.urlSafeEncode (utf8 es384Header) ++ "." ++
        crates.urlSafeEncode (utf8 payload))) signature = true := by
  obtain ⟨signature, signed, verified⟩ := lawful.signs key (utf8 (crates.urlSafeEncode (utf8 es384Header) ++
    "." ++ crates.urlSafeEncode (utf8 payload)))
  refine ⟨signature, ?_, verified⟩
  simp only [Jws.signParts, signed]
  rfl

theorem Identity.Jws.decode_urlSafeEncode (bytes : Bytes) :
    Jws.decode crates.toIdentityCrates (crates.urlSafeEncode bytes) = .ok bytes := by
  unfold Jws.decode
  rw [lawful.urlSafe_read]
  rfl

theorem Identity.Jws.parseHeader_es384 :
    Jws.parseHeader crates.toIdentityCrates (crates.urlSafeEncode (utf8 es384Header)) =
      .ok ⟨"ES384", none⟩ := by
  unfold Jws.parseHeader
  rw [Jws.decode_urlSafeEncode lawful]
  change (crates.headerFromSlice (utf8 es384Header)).mapError _ = _
  rw [lawful.header_read]
  rfl

/-- A signed token is read back with its payload. -/
theorem Identity.Jws.parse_sign :
    ∃ compact jws, Jws.sign crates key payload = .ok compact ∧
      Jws.parse crates.toIdentityCrates compact = .ok jws ∧ jws.payload = utf8 payload := by
  obtain ⟨signature, parts, -⟩ := Jws.signParts_eq lawful key payload
  have signed : Jws.sign crates key payload = .ok (crates.urlSafeEncode (utf8 es384Header) ++ "." ++
      crates.urlSafeEncode (utf8 payload) ++ "." ++ crates.urlSafeEncode (crates.signatureToBytes signature)) := by
    rw [Jws.sign, parts]
    rfl
  refine ⟨_, _, signed, Jws.parse_eq _ (Jws.split_compact ?_ (lawful.urlSafe_plain _)
    (lawful.urlSafe_plain (utf8 payload)) (lawful.urlSafe_plain (crates.signatureToBytes signature)))
    (Jws.parseHeader_es384 lawful) (Jws.decode_urlSafeEncode lawful _) (Jws.decode_urlSafeEncode lawful _), rfl⟩
  simp

/-- A detached signature is read back with its payload, and the key that made it
verifies it. -/
theorem Identity.Jws.parseDetached_sign :
    ∃ compact jws, Jws.signDetached crates key payload = .ok compact ∧
      Jws.parseDetached crates.toIdentityCrates compact payload = .ok jws ∧
      jws.verifyEs384 crates.toIdentityCrates (crates.verifyingKey key) = .ok () := by
  obtain ⟨signature, parts, verified⟩ := Jws.signParts_eq lawful key payload
  have signed : Jws.signDetached crates key payload = .ok (crates.urlSafeEncode (utf8 es384Header) ++ ".." ++
      crates.urlSafeEncode (crates.signatureToBytes signature)) := by
    rw [Jws.signDetached, parts]
    rfl
  refine ⟨_, _, signed, Jws.parseDetached_eq _ (Jws.split_compact ?_ (lawful.urlSafe_plain _)
    (by simp) (lawful.urlSafe_plain (crates.signatureToBytes signature)))
    (Jws.parseHeader_es384 lawful) (Jws.decode_urlSafeEncode lawful _), ?_⟩
  · simp
  · unfold Jws.verifyEs384
    rw [if_neg (by simp), lawful.signature_read]
    exact if_pos verified

/-- The key of a token is read back from its JSON Web Key. -/
theorem Identity.EcJwk.verifyingKey_ofVerifyingKey (key : crates.VerifyingKey) :
    (EcJwk.ofVerifyingKey crates key).verifyingKey crates.toIdentityCrates = .ok key := by
  obtain ⟨x, y, point, xLength, yLength, read⟩ := lawful.point_read key
  have coordinate (name : String) {bytes : Bytes} (length : bytes.length = p384CoordinateLen) :
      EcJwk.coordinate crates.toIdentityCrates name (crates.urlSafeEncode bytes) = .ok bytes := by
    unfold EcJwk.coordinate
    rw [lawful.urlSafe_read]
    exact if_pos length
  unfold EcJwk.verifyingKey EcJwk.ofVerifyingKey
  simp only [point, Option.getD_some, ne_eq, not_true_eq_false, if_false]
  rw [coordinate "x" xLength, coordinate "y" yLength]
  change (crates.fromSec1Bytes (4 :: (x ++ y))).mapError _ = _
  rw [read]
  rfl

/-- An envelope is read back from its base64 text, which is one word. -/
theorem Identity.fromBase64_toBase64 (identity : Identity) :
    ∃ value, identity.toBase64 crates = .ok value ∧
      Identity.fromBase64 crates.toIdentityCrates value.toList = .ok identity ∧
      ∀ c ∈ value.toList, isWhitespace c = false := by
  obtain ⟨inner, written, innerRead⟩ := lawful.assertion_read identity.assertion
  obtain ⟨json, outerWritten, outerRead⟩ := lawful.raw_read ⟨identity.idp, inner⟩
  have encoded : identity.toBase64 crates = .ok (crates.standardEncode (utf8 json)) := by
    unfold Identity.toBase64 Identity.toJson
    rw [written]
    change ((crates.rawToString ⟨identity.idp, inner⟩).mapError _ >>= _) = _
    rw [outerWritten]
    rfl
  refine ⟨_, encoded, ?_, lawful.standard_ink _⟩
  unfold Identity.fromBase64
  rw [trim_eq_self (lawful.standard_ink _), String.ofList_toList, lawful.standard_read]
  change ((fromUtf8 (utf8 json)).mapError _ >>= _) = _
  rw [fromUtf8_utf8]
  change Identity.fromJson _ json = _
  unfold Identity.fromJson
  rw [outerRead]
  change ((crates.assertionFromStr inner).mapError _ >>= _) = _
  rw [innerRead]
  rfl

/-! ## A minted token read back -/

/-- The claims of a minted token are the ones it was minted with. -/
theorem claims_mintToken (signing : crates.SigningKey) (domain : String) {now expiry : SystemTime}
    {lifetime : Duration} (fits : now.checkedAdd lifetime = some expiry) :
    ∃ token jws,
      mintToken crates signing (crates.verifyingKey signing) domain now (some lifetime) = .ok token ∧
      Jws.parse crates.toIdentityCrates token = .ok jws ∧
      jws.claims crates.toIdentityCrates = .ok ⟨tokenClaims
        (EcJwk.ofVerifyingKey crates (crates.verifyingKey signing)) now.seconds domain (some expiry.seconds)⟩ := by
  obtain ⟨token, jws, signed, parsed, payload⟩ := Jws.parse_sign lawful signing
    (crates.valueToString (.object (tokenClaims (EcJwk.ofVerifyingKey crates (crates.verifyingKey signing))
      now.seconds domain (some expiry.seconds))))
  refine ⟨token, jws, ?_, parsed, ?_⟩
  · simp only [mintToken, expAt, fits, Outcome.orAbort, Outcome.ok_bind]
    change Outcome.ofExcept (Jws.sign crates signing _) = _
    rw [signed]
    rfl
  · unfold Jws.claims
    rw [payload, lawful.claims_read]
    rfl

theorem clientPublicKey_tokenClaims (key : crates.VerifyingKey) (iat : UInt64) (domain : String)
    (exp : Option UInt64) :
    (Claims.mk (tokenClaims (EcJwk.ofVerifyingKey crates key) iat domain exp)).clientPublicKey
      crates.toIdentityCrates = .ok key := by
  have found : (Claims.mk (tokenClaims (EcJwk.ofVerifyingKey crates key) iat domain exp)).get "cpk" =
      some (EcJwk.ofVerifyingKey crates key).toJson := rfl
  have read := lawful.jwk_read (EcJwk.ofVerifyingKey crates key)
  unfold EcJwk.toJson at found read
  unfold Claims.clientPublicKey
  rw [found]
  simp only [read]
  exact EcJwk.verifyingKey_ofVerifyingKey lawful key

end

theorem exp_tokenClaims (cpk : EcJwk) (iat : UInt64) (domain : String) (exp : Option UInt64) :
    (Claims.mk (tokenClaims cpk iat domain exp)).exp = exp := by
  unfold Claims.exp Claims.get tokenClaims
  cases exp <;> split <;> simp [List.lookup_cons, Json.asU64]

theorem SystemTime.toNat_seconds {time : SystemTime} (since : 0 ≤ time.nanos) :
    (time.seconds.toNat : Int) = time.nanos / 10 ^ 9 := by
  have upper := time.upper
  unfold clockLimit at upper
  have small : time.nanos.toNat / 10 ^ 9 < UInt64.size := by
    change _ < 2 ^ 64
    omega
  rw [SystemTime.seconds, UInt64.toNat_ofNat_of_lt' small]
  omega

end Nethernet
