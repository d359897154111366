import Nethernet.Identity.Envelope

/-! Authentication of the token in a received assertion. -/

set_option autoImplicit false
set_option maxRecDepth 8000

namespace Nethernet
open Foundation Identity

def minecraftIssuer : String := "https://authorization.franchise.minecraft-services.net/"
def minecraftAudience : String := "api://auth-minecraft-services/multiplayer"

-- the key set is shared by every clone; `missed` is the flag a refresher polls
structure MinecraftKeys where
  keys : JwkSet
  missed : Bool

namespace MinecraftKeys

def replace (keys : MinecraftKeys) (published : JwkSet) : MinecraftKeys := { keys with keys := published }

/-- Whether a token named an unpublished key since the last call. -/
def takeMissed (keys : MinecraftKeys) : MinecraftKeys × Bool := ({ keys with missed := false }, keys.missed)

def markMissed (keys : MinecraftKeys) : MinecraftKeys := { keys with missed := true }

end MinecraftKeys

inductive TokenTrust where
  | minecraft (keys : MinecraftKeys)
  | any

namespace TokenTrust
variable (crates : IdentityCrates)

/-- The checks of `TokenTrust::claims` that only the `Minecraft` variant makes. -/
def checkIssuer (keys : MinecraftKeys) (jws : Jws) (claims : Claims) :
    MinecraftKeys × Except IdentityError Claims :=
  if jws.header.alg ≠ "RS256" then
    (keys, .error (.untrusted ("expected RS256, got " ++ jws.header.alg)))
  else
    let candidates := keys.keys.candidates jws.header.kid
    if candidates.isEmpty then
      ({ keys with missed := true },
        .error (.untrusted "the token names a key that is not published"))
    else if ¬ candidates.any fun key =>
        (key.verifyRs256 crates (utf8 jws.signingInput) jws.signature).isOk then
      (keys, .error (.untrusted "the token is not signed by the issuer"))
    else if claims.subject.isNone then
      (keys, .error (.untrusted "the token carries no subject"))
    else if claims.issuer ≠ some minecraftIssuer then
      (keys, .error (.untrusted "the token was issued by someone else"))
    else if minecraftAudience ∉ claims.audience then
      (keys, .error (.untrusted "the token is addressed to another audience"))
    else (keys, .ok claims)

/-- Parses the token and checks its expiry; the expiry is checked before any signature. -/
def readToken (identity : Identity) (now : SystemTime) : Outcome IdentityError (Jws × Claims) := do
  let jws ← .ofExcept (Jws.parse crates identity.assertion.token)
  let claims ← .ofExcept (jws.claims crates)
  claims.checkExpiry now
  return (jws, claims)

def claims (trust : TokenTrust) (identity : Identity) (now : SystemTime) :
    TokenTrust × Outcome IdentityError Claims :=
  match readToken crates identity now with
  | .err e => (trust, .err e)
  | .aborted => (trust, .aborted)
  | .ok (jws, claims) =>
    match trust with
    | .any => (trust, .ok claims)
    | .minecraft keys =>
      let (keys, result) := checkIssuer crates keys jws claims
      (.minecraft keys, .ofExcept result)

end TokenTrust

variable (crates : IdentityCrates)

/-- That the key in the `cpk` claim signed the SDP fingerprints. -/
def checkFingerprints (sdp : String) (identity : Identity) (claims : Claims) :
    Except IdentityError Claims := do
  let fingerprints ← canonicalFingerprintJson sdp
  if fingerprints = emptyFingerprints then .error .noFingerprints
  else
    let jws ← Jws.parseDetached crates identity.assertion.fingerprints fingerprints
    let key ← claims.clientPublicKey crates
    jws.verifyEs384 crates key
    return claims

def validateSdp (sdp : String) (trust : TokenTrust) (now : SystemTime) :
    TokenTrust × Outcome IdentityError Claims :=
  match Identity.fromSdp crates sdp with
  | .error e => (trust, .err e)
  | .ok identity =>
    let (trust, result) := trust.claims crates identity now
    (trust, result >>= fun claims => .ofExcept (checkFingerprints crates sdp identity claims))

/-- A readable token whose key signed `payload`. -/
structure Identity.Attests (identity : Identity) (payload : String) (claims : Claims) : Prop where
  token : ∃ jws, Jws.parse crates identity.assertion.token = .ok jws ∧ jws.claims crates = .ok claims
  signature : ∃ jws key, Jws.parseDetached crates identity.assertion.fingerprints payload = .ok jws ∧
    claims.clientPublicKey crates = .ok key ∧ jws.verifyEs384 crates key = .ok ()

variable {claims : Claims} {sdp : String} {identity : Identity}

section
variable {crates}

theorem Identity.Attests.checkFingerprints {payload : String} (attests : identity.Attests crates payload claims)
    (canonical : canonicalFingerprintJson sdp = .ok payload) (nonempty : payload ≠ emptyFingerprints) :
    checkFingerprints crates sdp identity claims = .ok claims := by
  obtain ⟨jws, key, parsed, found, verified⟩ := attests.signature
  unfold Nethernet.checkFingerprints
  rw [canonical]
  simp only [Except.bind_eq_ok]
  refine ⟨payload, rfl, ?_⟩
  rw [if_neg nonempty]
  simp only [Except.bind_eq_ok]
  exact ⟨jws, parsed, key, found, (), verified, rfl⟩

/-- With no issuer asked for, an attested description is as good as its expiry. -/
theorem Identity.Attests.validateSdp {payload : String} (attests : identity.Attests crates payload claims)
    (found : fromSdp crates sdp = .ok identity) (canonical : canonicalFingerprintJson sdp = .ok payload)
    (nonempty : payload ≠ emptyFingerprints) (now : SystemTime) :
    (validateSdp crates sdp .any now).2 = (claims.checkExpiry now >>= fun _ => .ok claims) := by
  obtain ⟨jws, parsed, read⟩ := attests.token
  have checked := attests.checkFingerprints canonical nonempty
  have token : TokenTrust.readToken crates identity now =
      (claims.checkExpiry now >>= fun _ => .ok (jws, claims)) := by
    simp only [TokenTrust.readToken, parsed, read, Outcome.ofExcept, Outcome.ok_bind]
    rfl
  unfold Nethernet.validateSdp TokenTrust.claims
  simp only [found, token]
  cases claims.checkExpiry now with
  | ok fresh => simp [checked, Outcome.ofExcept]
  | err error => simp
  | aborted => simp

end

def verifyAnswer (sdp : String) (trust : Option TokenTrust) (now : SystemTime) :
    Outcome IdentityError (Option Claims) :=
  match trust with
  | none => .ok none
  | some trust => (validateSdp crates sdp trust now).2 >>= fun claims => .ok (some claims)

variable {now : SystemTime} {trust : TokenTrust}

theorem validateSdp_ok (validated : (validateSdp crates sdp trust now).2 = .ok claims) :
    ∃ identity, Identity.fromSdp crates sdp = .ok identity ∧
      checkFingerprints crates sdp identity claims = .ok claims := by
  unfold validateSdp at validated
  split at validated
  · cases validated
  · rename_i identity found
    refine ⟨identity, found, ?_⟩
    obtain ⟨read, -, checked⟩ := Outcome.bind_eq_ok.mp validated
    cases outcome : checkFingerprints crates sdp identity read with
    | error e => simp [outcome, Outcome.ofExcept] at checked
    | ok result =>
      -- the check returns the claims it was given
      have same : result = read := by
        unfold checkFingerprints at outcome
        obtain ⟨fingerprints, -, rest⟩ := Except.bind_eq_ok.mp outcome
        split at rest
        · cases rest
        · simp only [Except.bind_eq_ok] at rest
          obtain ⟨-, -, -, -, -, -, built⟩ := rest
          cases built
          rfl
      simp only [outcome, Outcome.ofExcept, Outcome.ok.injEq] at checked
      rw [← checked, ← outcome, same]

/-- Validation succeeds only on descriptions whose fingerprint lines all read. -/
theorem sdpFingerprints_of_validateSdp (validated : (validateSdp crates sdp trust now).2 = .ok claims) :
    ∃ pairs, sdpFingerprints sdp = .ok pairs := by
  obtain ⟨identity, -, checked⟩ := validateSdp_ok crates validated
  obtain ⟨payload, canonical, -⟩ := Except.bind_eq_ok.mp checked
  unfold canonicalFingerprintJson at canonical
  cases read : sdpFingerprints sdp with
  | error e => simp [read, Except.map] at canonical
  | ok pairs => exact ⟨pairs, rfl⟩

/-! ## When validation returns -/

-- the first `exp` whose expiry, leeway included, the clock cannot hold
def expLimit : Nat := 2 ^ 63 - 60

theorem Identity.Claims.expiry_eq {exp : UInt64} (present : claims.exp = some exp) :
    claims.expiry =
      (.orAbort (SystemTime.unixEpoch.checkedAdd (.fromSecs exp.toNat)) >>= fun time => .ok (some time)) := by
  unfold Claims.expiry
  rw [present]
  rfl

/-- Within the clock's range a token is accepted up to 60 seconds behind its `exp`. -/
theorem Identity.Claims.checkExpiry_eq {exp : UInt64} (present : claims.exp = some exp)
    (within : exp.toNat < expLimit) (now : SystemTime) :
    claims.checkExpiry now =
      if now.nanos ≤ (exp.toNat + 60) * 10 ^ 9 then .ok () else .err (.untrusted "the token has expired") := by
  have inside : SystemTime.unixEpoch.nanos + Duration.fromSecs exp.toNat + Claims.leeway < clockLimit := by
    simp only [SystemTime.unixEpoch, Duration.fromSecs, clockLimit, Claims.leeway]
    unfold expLimit at within
    omega
  obtain ⟨time, expiry⟩ := SystemTime.exists_checkedAdd
    (show SystemTime.unixEpoch.nanos + Duration.fromSecs exp.toNat < clockLimit by omega)
  have value := SystemTime.checkedAdd_nanos expiry
  obtain ⟨limit, last⟩ := SystemTime.exists_checkedAdd (show time.nanos + Claims.leeway < clockLimit by omega)
  have bound := SystemTime.checkedAdd_nanos last
  rw [Claims.checkExpiry, Claims.expiry_eq present, expiry]
  simp only [Outcome.orAbort, Outcome.ok_bind, last]
  have same : limit.nanos = (exp.toNat + 60) * 10 ^ 9 := by
    rw [bound, value]
    simp only [SystemTime.unixEpoch, Duration.fromSecs, Claims.leeway]
    omega
  rw [same]

theorem Identity.Claims.checkExpiry_aborted :
    claims.checkExpiry now = .aborted ↔ ∃ exp, claims.exp = some exp ∧ expLimit ≤ exp.toNat := by
  cases present : claims.exp with
  | none => simp [Claims.checkExpiry, Claims.expiry, present]
  | some exp =>
    simp only [Option.some.injEq, exists_eq_left']
    by_cases within : exp.toNat < expLimit
    · rw [Claims.checkExpiry_eq present within]
      split <;> simp [within]
    · -- one of the two additions leaves the range
      simp only [Nat.not_lt.mp within, iff_true]
      rw [Claims.checkExpiry, Claims.expiry_eq present]
      cases expiry : SystemTime.unixEpoch.checkedAdd (.fromSecs exp.toNat) with
      | none => rfl
      | some time =>
        have value := SystemTime.checkedAdd_nanos expiry
        have beyond : time.checkedAdd Claims.leeway = none := by
          rw [SystemTime.checkedAdd_eq_none, value]
          simp only [SystemTime.unixEpoch, Duration.fromSecs, clockLimit, Claims.leeway]
          unfold expLimit at within
          omega
        simp [Outcome.orAbort, beyond]

-- nothing but the expiry check can abort: decoding and signature code returns
theorem TokenTrust.readToken_aborted :
    readToken crates identity now = .aborted ↔
      ∃ jws claims, Jws.parse crates identity.assertion.token = .ok jws ∧
        jws.claims crates = .ok claims ∧ claims.checkExpiry now = .aborted := by
  unfold readToken
  cases Jws.parse crates identity.assertion.token with
  | error e => simp [Outcome.ofExcept]
  | ok jws =>
    cases read : jws.claims crates with
    | error e => simp [Outcome.ofExcept, read]
    | ok claims => simp [Outcome.ofExcept, read, Outcome.bind_eq_aborted]

theorem TokenTrust.claims_aborted :
    (trust.claims crates identity now).2 = .aborted ↔ readToken crates identity now = .aborted := by
  unfold TokenTrust.claims
  cases readToken crates identity now with
  | err e => simp
  | aborted => simp
  | ok token =>
    cases trust with
    | any => simp
    | minecraft keys => simp [Outcome.ofExcept_ne_aborted]

theorem validateSdp_aborted :
    (validateSdp crates sdp trust now).2 = .aborted ↔
      ∃ identity, Identity.fromSdp crates sdp = .ok identity ∧
        TokenTrust.readToken crates identity now = .aborted := by
  unfold validateSdp
  cases Identity.fromSdp crates sdp with
  | error e => simp
  | ok identity =>
    simp [Outcome.bind_eq_aborted, Outcome.ofExcept_ne_aborted, TokenTrust.claims_aborted]

/-- The `exp` of the token that `validateSdp` reads from a description. -/
def sdpTokenExp (sdp : String) : Option UInt64 := do
  let identity ← (Identity.fromSdp crates sdp).toOption
  let jws ← (Jws.parse crates identity.assertion.token).toOption
  let claims ← (jws.claims crates).toOption
  claims.exp

theorem validateSdp_aborted_iff :
    (validateSdp crates sdp trust now).2 = .aborted ↔
      ∃ exp, sdpTokenExp crates sdp = some exp ∧ expLimit ≤ exp.toNat := by
  rw [validateSdp_aborted]
  simp only [TokenTrust.readToken_aborted, Claims.checkExpiry_aborted, sdpTokenExp,
    Option.bind_eq_bind, Option.bind_eq_some_iff, Except.toOption_eq_some]
  constructor
  · rintro ⟨identity, envelope, jws, claims, parsed, read, exp, present, beyond⟩
    exact ⟨exp, ⟨identity, envelope, jws, parsed, claims, read, present⟩, beyond⟩
  · rintro ⟨exp, ⟨identity, envelope, jws, parsed, claims, read, present⟩, beyond⟩
    exact ⟨identity, envelope, jws, claims, parsed, read, exp, present, beyond⟩

/-- Validation returns exactly on the descriptions whose token does not carry an
`exp` beyond the clock. -/
theorem validateSdp_returns_iff (sdp : String) (trust : TokenTrust) (now : SystemTime) :
    (validateSdp crates sdp trust now).2 ≠ .aborted ↔
      ∀ exp, sdpTokenExp crates sdp = some exp → exp.toNat < expLimit := by
  rw [Ne, validateSdp_aborted_iff]
  simp only [not_exists, not_and, Nat.not_le]

/-! ## An unsigned token with the largest `exp` -/

def lastExpClaims : String := "\x7b\"exp\":18446744073709551615\x7d"
def lastExpToken : String := "e30.eyJleHAiOjE4NDQ2NzQ0MDczNzA5NTUxNjE1fQ."
def lastExpAssertion : String := "\x7b\"token\":\"e30.eyJleHAiOjE4NDQ2NzQ0MDczNzA5NTUxNjE1fQ.\"\x7d"
def lastExpEnvelope : String :=
  "\x7b\"assertion\":\"\x7b\\\"token\\\":\\\"e30.eyJleHAiOjE4NDQ2NzQ0MDczNzA5NTUxNjE1fQ.\\\"\x7d\"\x7d"
def lastExpBase64 : String :=
  "eyJhc3NlcnRpb24iOiJ7XCJ0b2tlblwiOlwiZTMwLmV5SmxlSEFpT2pFNE5EUTJOelEwTURjek56QTVOVFV4TmpFMWZRLlwifSJ9"

-- what base64 and JSON decoding return on these texts; no signature is ever looked at
def lastExpCrates : IdentityCrates where
  VerifyingKey := Unit
  Signature := Unit
  RsaPublicKey := Unit
  RsaSignature := Unit
  standardDecode text := if text = lastExpBase64 then .ok (utf8 lastExpEnvelope) else .error "Invalid padding"
  urlSafeDecode text :=
    if text = "e30" then .ok (utf8 "\x7b\x7d")
    else if text = "eyJleHAiOjE4NDQ2NzQ0MDczNzA5NTUxNjE1fQ" then .ok (utf8 lastExpClaims)
    else if text = "" then .ok []
    else .error "Invalid padding"
  urlSafeEncode _ := ""
  rawFromStr json :=
    if json = lastExpEnvelope then .ok ⟨⟨"", ""⟩, lastExpAssertion⟩ else .error "expected value"
  assertionFromStr json :=
    if json = lastExpAssertion then .ok ⟨lastExpToken, ""⟩ else .error "expected value"
  headerFromSlice bytes := if bytes = utf8 "\x7b\x7d" then .ok ⟨"", none⟩ else .error "expected value"
  claimsFromSlice bytes :=
    if bytes = utf8 lastExpClaims then .ok [("exp", .number (.posInt 18446744073709551615))]
    else .error "expected value"
  ecJwkDeserialize _ := .error "expected value"
  fromPublicKeyDer _ := .error "not a key"
  fromSec1Bytes _ := .error "not a key"
  signatureFromSlice _ := .error "signature error"
  es384Verify _ _ _ := false
  rsaPublicKey _ _ := .error "not a key"
  rsaSignature _ := none
  rs256Verify _ _ _ := false

def lastExpSdp : String := "v=0\r\na=identity:" ++ lastExpBase64 ++ "\r\n"

theorem validateSdp_aborts_on_last_exp :
    (validateSdp lastExpCrates lastExpSdp .any .unixEpoch).2 = .aborted := by
  decide +kernel

end Nethernet
