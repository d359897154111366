import Nethernet.Identity.Trust
import Nethernet.Webrtc.Description

/-! The certificate check of the DTLS endpoint, and how the certificate it pins
relates to the fingerprints that a validated identity signed. -/

set_option autoImplicit false

namespace Nethernet
open Foundation Identity

inductive CertificateError where
  | errFingerprintMismatch
  deriving DecidableEq, Repr

/-- SHA-256, of which only the length of a digest is known. -/
structure Sha256 where
  digest : Bytes → Bytes
  length_digest : ∀ bytes, (digest bytes).length = 32

-- `{byte:02X}`
def hexByte (byte : UInt8) : List Char :=
  [(Nat.digitChar (byte.toNat / 16)).toUpper, (Nat.digitChar (byte.toNat % 16)).toUpper]

def hexDigest (digest : Bytes) : List Char := [':'].intercalate (digest.map hexByte)

def verifyFingerprint (sha256 : Sha256) (expected : String × String) (presentedCerts : List Bytes) :
    Except CertificateError Unit :=
  match presentedCerts.head? with
  | none => .error .errFingerprintMismatch
  | some cert =>
    let hex := hexDigest (sha256.digest cert)
    if eqIgnoreAsciiCase expected.1.toList "sha-256".toList &&
        eqIgnoreAsciiCase hex expected.2.toList then .ok ()
    else .error .errFingerprintMismatch

variable {expected : String × String}

theorem verifyFingerprint_ok {sha256 : Sha256} {certs : List Bytes}
    (accepted : verifyFingerprint sha256 expected certs = .ok ()) :
    ∃ cert, certs.head? = some cert ∧
      eqIgnoreAsciiCase "sha-256".toList expected.1.toList = true ∧
      eqIgnoreAsciiCase (hexDigest (sha256.digest cert)) expected.2.toList = true := by
  unfold verifyFingerprint at accepted
  split at accepted
  · cases accepted
  · rename_i cert first
    refine ⟨cert, first, ?_⟩
    dsimp only at accepted
    split at accepted
    · rename_i same
      rw [Bool.and_eq_true, eqIgnoreAsciiCase_comm] at same
      exact same
    · cases accepted

theorem verifyFingerprint_of_eq {sha256 : Sha256} {cert : Bytes} (chain : List Bytes)
    (algorithm : eqIgnoreAsciiCase expected.1.toList "sha-256".toList = true)
    (digest : eqIgnoreAsciiCase (hexDigest (sha256.digest cert)) expected.2.toList = true) :
    verifyFingerprint sha256 expected (cert :: chain) = .ok () := by
  unfold verifyFingerprint
  rw [List.head?_cons]
  dsimp only
  rw [algorithm, digest, Bool.and_self, if_pos rfl]

/-! ## Digest texts -/

theorem hexByte_ink (byte : UInt8) : ∀ c ∈ hexByte byte, isWhitespace c = false := by
  have digits : ∀ digit < 16, isWhitespace (Nat.digitChar digit).toUpper = false := by decide
  intro c member
  have bound := byte.toNat_lt
  simp only [hexByte, List.mem_cons, List.not_mem_nil, or_false] at member
  rcases member with rfl | rfl
  · exact digits _ (by omega)
  · exact digits _ (by omega)

theorem hexDigest_cons_cons (first second : UInt8) (rest : Bytes) :
    hexDigest (first :: second :: rest) = hexByte first ++ ':' :: hexDigest (second :: rest) := by
  simp [hexDigest, List.intercalate_cons_cons]

theorem hexDigest_ink (digest : Bytes) : ∀ c ∈ hexDigest digest, isWhitespace c = false := by
  induction digest with
  | nil => simp [hexDigest]
  | cons first rest ih =>
    intro c member
    cases rest with
    | nil => exact hexByte_ink first c (by simpa [hexDigest] using member)
    | cons second rest =>
      rw [hexDigest_cons_cons, List.mem_append, List.mem_cons] at member
      rcases member with member | rfl | member
      · exact hexByte_ink first c member
      · decide
      · exact ih c member

theorem hexDigest_ne_nil {digest : Bytes} (nonempty : digest ≠ []) : hexDigest digest ≠ [] := by
  cases digest with
  | nil => exact absurd rfl nonempty
  | cons first rest =>
    cases rest with
    | nil => simp [hexDigest, hexByte]
    | cons second rest => simp [hexDigest_cons_cons]

/-! ## The pinned certificate -/

variable {line : List Char}

theorem readAttribute_eq {key value : String} (read : readAttribute line = ⟨key, some value⟩) :
    trim line = key.toList ++ ':' :: value.toList := by
  unfold readAttribute at read
  split at read
  · rename_i before after found
    simp only [Attribute.mk.injEq, Option.some.injEq] at read
    obtain ⟨rfl, rfl⟩ := read
    simpa using (splitOnce_eq_some found).1
  · simp at read

-- CR ends a line for the scanner and not for the SDP reader, so the scanner sees
-- at least the part of a line before its first CR
theorem mem_sdpLines_of_line {sdp : String} (member : line ∈ sdp.toList.splitOn '\n') :
    line.takeWhile (fun c => !(c == '\r')) ∈ sdpLines sdp := by
  unfold sdpLines
  rw [splitOnP_or (fun c => c == '\r') (fun c => c == '\n'), List.mem_flatMap]
  exact ⟨line, member, List.mem_of_head? (head?_splitOnP _ line)⟩

theorem ne_cr_of_ink {c : Char} (ink : isWhitespace c = false) : (!(c == '\r')) = true := by
  rw [Bool.not_eq_true', beq_eq_false_iff_ne]
  rintro rfl
  exact absurd ink (by decide)

/-- A fingerprint that the SDP reader takes from an unspaced line is one that the scanner reads. -/
theorem scanned_of_line {sdp value : String} {algorithm digest : List Char}
    (member : 'a' :: '=' :: line ∈ sdp.toList.splitOn '\n') (unspaced : ∀ c ∈ line.head?, isWhitespace c = false)
    (read : readAttribute line = ⟨"fingerprint", some value⟩)
    (split : splitOnce ' ' value.toList = some (algorithm, digest))
    (algorithmInk : ∀ c ∈ algorithm, isWhitespace c = false) (named : algorithm ≠ [])
    (digestInk : ∀ c ∈ digest, isWhitespace c = false) (nonempty : digest ≠ []) :
    ∃ text ∈ sdpValues "a=fingerprint:" sdp,
      fingerprintPair text = .ok (String.ofList algorithm, String.ofList digest) := by
  obtain ⟨shape, -⟩ := splitOnce_eq_some split
  obtain ⟨pad, whole, blank⟩ := eq_trim_append unspaced
  rw [readAttribute_eq read, shape] at whole
  let kept := pad.takeWhile fun c => !(c == '\r')
  have keptBlank : ∀ c ∈ kept, isWhitespace c = true := fun c inside =>
    blank c (List.takeWhile_subset _ inside)
  have piece : ("a=fingerprint:".toList ++ ((algorithm ++ ' ' :: digest) ++ kept)) ∈ sdpLines sdp := by
    have seen := mem_sdpLines_of_line member
    have cut : ('a' :: '=' :: line).takeWhile (fun c => !(c == '\r')) =
        "a=fingerprint:".toList ++ ((algorithm ++ ' ' :: digest) ++ kept) := by
      rw [whole, show 'a' :: '=' :: ("fingerprint".toList ++ ':' :: (algorithm ++ ' ' :: digest) ++ pad) =
        ("a=fingerprint:".toList ++ (algorithm ++ ' ' :: digest)) ++ pad by simp]
      rw [List.takeWhile_append_of_pos, List.append_assoc]
      intro c inside
      simp only [List.mem_append, List.mem_cons] at inside
      rcases inside with start | inside | rfl | inside
      · revert c
        decide
      · exact ne_cr_of_ink (algorithmInk c inside)
      · decide
      · exact ne_cr_of_ink (digestInk c inside)
    rwa [cut] at seen
  refine ⟨(algorithm ++ ' ' :: digest) ++ kept, ?_, ?_⟩
  · exact List.mem_filterMap.mpr ⟨_, piece, stripPrefix_append _ _⟩
  · exact fingerprintPair_eq algorithmInk named digestInk nonempty keptBlank

section
variable (webrtc : WebrtcCrates) (identity : IdentityCrates) (sha256 : Sha256)

/-- Some line that spells the pinned fingerprint has its key right after `a=`. -/
def FingerprintUnspaced (sdp : String) : Prop :=
  ∀ session media attr, webrtc.unmarshal sdp = .ok session → media ∈ session.mediaDescriptions →
    findAttribute media.attributes "fingerprint" = some attr →
    ∃ line, 'a' :: '=' :: line ∈ sdp.toList.splitOn '\n' ∧ readAttribute line = attr ∧
      ∀ c ∈ line.head?, isWhitespace c = false

variable {webrtc identity sha256}

theorem scanned_of_parse {sdp : String} {description : Description}
    {candidates : List webrtc.Candidate} {certs : List Bytes}
    (unspaced : FingerprintUnspaced webrtc sdp)
    (parsed : Description.parse webrtc sdp = .ok (description, candidates))
    (accepted : verifyFingerprint sha256 description.fingerprint certs = .ok ()) :
    ∃ text ∈ sdpValues "a=fingerprint:" sdp, fingerprintPair text = .ok description.fingerprint := by
  obtain ⟨session, media, value, unmarshalled, only, found, split⟩ := Description.fingerprint_of_parse _ parsed
  obtain ⟨line, member, read, noSpace⟩ := unspaced session media _ unmarshalled (by simp [only]) found
  obtain ⟨cert, -, algorithmSame, digestSame⟩ := verifyFingerprint_ok accepted
  unfold Description.parseFingerprint at split
  split at split
  · rename_i algorithm digest cut
    rw [Except.ok.injEq] at split
    rw [← split] at algorithmSame digestSame ⊢
    simp only [String.toList_ofList] at algorithmSame digestSame
    have digestLong : sha256.digest cert ≠ [] := by
      intro empty
      have := sha256.length_digest cert
      simp [empty] at this
    apply scanned_of_line member noSpace read cut
    · exact ink_of_eqIgnoreAsciiCase algorithmSame (by decide)
    · exact ne_nil_of_eqIgnoreAsciiCase algorithmSame (by decide)
    · exact ink_of_eqIgnoreAsciiCase digestSame (hexDigest_ink _)
    · exact ne_nil_of_eqIgnoreAsciiCase digestSame (hexDigest_ne_nil digestLong)
  · cases split

/-- When the pinned fingerprint stands on an unspaced line, every certificate that
the session accepts has a digest that the identity signed. -/
theorem accepted_certificate_signed {sdp : String} {trust : TokenTrust} {now : SystemTime}
    {claims : Claims} {description : Description} {candidates : List webrtc.Candidate}
    {certs : List Bytes} (unspaced : FingerprintUnspaced webrtc sdp)
    (validated : (validateSdp identity sdp trust now).2 = .ok claims)
    (parsed : Description.parse webrtc sdp = .ok (description, candidates))
    (accepted : verifyFingerprint sha256 description.fingerprint certs = .ok ()) :
    ∃ cert pairs, certs.head? = some cert ∧ sdpFingerprints sdp = .ok pairs ∧
      ∃ pair ∈ pairs, eqIgnoreAsciiCase (hexDigest (sha256.digest cert)) pair.2.toList = true := by
  obtain ⟨cert, first, -, digestSame⟩ := verifyFingerprint_ok accepted
  obtain ⟨pairs, signed⟩ := sdpFingerprints_of_validateSdp identity validated
  obtain ⟨text, member, read⟩ := scanned_of_parse unspaced parsed accepted
  exact ⟨cert, pairs, first, signed, description.fingerprint,
    Except.mem_of_mapM_eq_ok signed member read, digestSame⟩

end

/-! ## A signed description -/

theorem unsigned_shape (text : String) :
    ("e30." ++ text ++ ".").toList = "e30".toList ++ '.' :: (text.toList ++ '.' :: "".toList) := by
  simp

theorem detached_shape (first last : String) :
    (first ++ ".." ++ last).toList = first.toList ++ '.' :: ("".toList ++ '.' :: last.toList) := by
  simp

/-- The texts of one identity whose key signed one fingerprint. They are long, so
what the readers do with them is stated here and nowhere evaluated. -/
structure SignedTexts where
  digest : String
  spki : String
  claims : String
  payload : String
  header : String
  signedPayload : String
  signature : String
  token : String
  detached : String
  assertion : String
  envelope : String
  base64 : String
  spkiBytes : Bytes
  signatureBytes : Bytes
  signature_length : signatureBytes.length = 96
  base64_plain : ∀ c ∈ base64.toList, (c == '\r' || c == '\n') = false
  base64_trimmed : trim base64.toList = base64.toList
  token_split : (token.toList.splitOn '.').map String.ofList = ["e30", payload, ""]
  detached_split : (detached.toList.splitOn '.').map String.ofList = [header, "", signature]
  distinct : ["e30", payload, header, signature, ""].Nodup
  spki_ne : spki ≠ base64

variable {media : String}

namespace SignedTexts

variable (texts : SignedTexts)

-- what decoding and verification return on these texts
def crates : IdentityCrates where
  VerifyingKey := Bytes
  Signature := Bytes
  RsaPublicKey := Unit
  RsaSignature := Unit
  standardDecode text :=
    if text = texts.base64 then .ok (utf8 texts.envelope)
    else if text = texts.spki then .ok texts.spkiBytes
    else .error "Invalid padding"
  urlSafeDecode text :=
    if text = "e30" then .ok (utf8 "\x7b\x7d")
    else if text = texts.payload then .ok (utf8 texts.claims)
    else if text = texts.header then .ok (utf8 "\x7b\"alg\":\"ES384\"\x7d")
    else if text = texts.signature then .ok texts.signatureBytes
    else if text = "" then .ok []
    else .error "Invalid padding"
  urlSafeEncode bytes :=
    if bytes = utf8 (fingerprintPayload [("sha-256", texts.digest)]) then texts.signedPayload else ""
  rawFromStr json :=
    if json = texts.envelope then .ok ⟨⟨"", ""⟩, texts.assertion⟩ else .error "expected value"
  assertionFromStr json :=
    if json = texts.assertion then .ok ⟨texts.token, texts.detached⟩ else .error "expected value"
  headerFromSlice bytes :=
    if bytes = utf8 "\x7b\x7d" then .ok ⟨"", none⟩
    else if bytes = utf8 "\x7b\"alg\":\"ES384\"\x7d" then .ok ⟨"ES384", none⟩
    else .error "expected value"
  claimsFromSlice bytes :=
    if bytes = utf8 texts.claims then
      .ok [("cpk", .string texts.spki), ("exp", .number (.posInt 4102444800))]
    else .error "expected value"
  ecJwkDeserialize _ := .error "expected value"
  fromPublicKeyDer der := if der = texts.spkiBytes then .ok der else .error "not a key"
  fromSec1Bytes _ := .error "not a key"
  signatureFromSlice bytes := if bytes.length = 96 then .ok bytes else .error "signature error"
  es384Verify key message signed :=
    key = texts.spkiBytes && message = utf8 (texts.header ++ "." ++ texts.signedPayload) &&
      signed = texts.signatureBytes
  rsaPublicKey _ _ := .error "not a key"
  rsaSignature _ := none
  rs256Verify _ _ _ := false

theorem decode_payload : Jws.decode texts.crates texts.payload = .ok (utf8 texts.claims) := by
  have distinct := texts.distinct
  simp only [List.nodup_cons, List.mem_cons, not_or] at distinct
  simp only [Jws.decode, crates, if_neg (Ne.symm distinct.1.1), if_true, Except.mapError]

theorem decode_header :
    Jws.decode texts.crates texts.header = .ok (utf8 "\x7b\"alg\":\"ES384\"\x7d") := by
  have distinct := texts.distinct
  simp only [List.nodup_cons, List.mem_cons, not_or] at distinct
  simp only [Jws.decode, crates, if_neg (Ne.symm distinct.1.2.1), if_neg (Ne.symm distinct.2.1.1), if_true,
    Except.mapError]

theorem decode_signature : Jws.decode texts.crates texts.signature = .ok texts.signatureBytes := by
  have distinct := texts.distinct
  simp only [List.nodup_cons, List.mem_cons, not_or] at distinct
  simp only [Jws.decode, crates, if_neg (Ne.symm distinct.1.2.2.1), if_neg (Ne.symm distinct.2.1.2.1),
    if_neg (Ne.symm distinct.2.2.1.1), if_true, Except.mapError]

theorem decode_empty : Jws.decode texts.crates "" = .ok [] := by
  have distinct := texts.distinct
  simp only [List.nodup_cons, List.mem_cons, not_or] at distinct
  simp only [Jws.decode, crates, if_neg (Ne.symm distinct.1.2.2.2.1), if_neg (Ne.symm distinct.2.1.2.2.1),
    if_neg (Ne.symm distinct.2.2.1.2.1), if_neg (Ne.symm distinct.2.2.2.1.1), if_true, Except.mapError]

def identity : Identity := ⟨⟨"", ""⟩, ⟨texts.token, texts.detached⟩⟩

def parsedClaims : Claims := ⟨[("cpk", .string texts.spki), ("exp", .number (.posInt 4102444800))]⟩

theorem attests_identity :
    texts.identity.Attests texts.crates (fingerprintPayload [("sha-256", texts.digest)]) texts.parsedClaims := by
  have headerRead : Jws.parseHeader texts.crates texts.header = .ok ⟨"ES384", none⟩ := by
    unfold Jws.parseHeader
    rw [texts.decode_header]
    rfl
  have key : texts.parsedClaims.clientPublicKey texts.crates = .ok texts.spkiBytes := by
    simp only [Claims.clientPublicKey, Claims.get, parsedClaims, List.lookup_cons_self, Claims.spkiKey,
      crates, if_neg texts.spki_ne, if_true, Except.mapError, bind, Except.bind]
  have token := Jws.parse_eq texts.crates texts.token_split rfl texts.decode_payload texts.decode_empty
  refine ⟨⟨_, token, ?_⟩, _, _, Jws.parseDetached_eq texts.crates texts.detached_split headerRead
    texts.decode_signature, key, ?_⟩
  · simp only [Jws.claims, crates, if_true, Except.map, Except.mapError, parsedClaims]
  · simp [Jws.verifyEs384, crates, texts.signature_length, Except.mapError, bind, Except.bind]

/-! ### Descriptions that carry the identity -/

def withIdentity (top identity media : String) : String :=
  top ++ "\na=identity:" ++ identity ++ "\r\n" ++ media

section
variable {identity : String} (top media : String)
  (plain : ∀ c ∈ identity.toList, (c == '\r' || c == '\n') = false)
include plain

theorem sdpLines_withIdentity : sdpLines (withIdentity top identity media) =
    sdpLines top ++ ("a=identity:".toList ++ identity.toList) :: [] :: sdpLines media := by
  have whole : ∀ c ∈ "a=identity:".toList ++ identity.toList, (c == '\r' || c == '\n') = false := by
    have start : ∀ c ∈ "a=identity:".toList, (c == '\r' || c == '\n') = false := by decide
    intro c member
    rcases List.mem_append.mp member with member | member
    · exact start c member
    · exact plain c member
  have shape : (withIdentity top identity media).toList = top.toList ++ '\n' ::
      (("a=identity:".toList ++ identity.toList) ++ '\r' :: '\n' :: media.toList) := by
    simp [withIdentity]
  unfold sdpLines
  rw [shape, List.splitOnP_append_cons _ _ (by decide),
    List.splitOnP_append_cons_of_forall_mem whole _ (by decide),
    List.splitOnP_cons_eq_if_modifyHead, if_pos (by decide)]

theorem lines_withIdentity : (withIdentity top identity media).toList.splitOn '\n' =
    top.toList.splitOn '\n' ++ ("a=identity:".toList ++ identity.toList ++ ['\r']) ::
      media.toList.splitOn '\n' := by
  have whole : ∀ c ∈ "a=identity:".toList ++ identity.toList ++ ['\r'], (c == '\n') = false := by
    have start : ∀ c ∈ "a=identity:".toList, (c == '\n') = false := by decide
    intro c member
    rw [List.mem_append, List.mem_append, List.mem_singleton] at member
    rcases member with (member | member) | rfl
    · exact start c member
    · exact (Bool.or_eq_false_iff.mp (plain c member)).2
    · decide
  have shape : (withIdentity top identity media).toList = top.toList ++ '\n' ::
      (("a=identity:".toList ++ identity.toList ++ ['\r']) ++ '\n' :: media.toList) := by
    simp [withIdentity]
  rw [shape, List.splitOn_eq_splitOnP, List.splitOnP_append_cons _ _ (by decide),
    List.splitOnP_append_cons_of_forall_mem whole _ (by decide)]
  rfl

theorem identityValues_withIdentity (absent : sdpValues "a=identity:" top = []) :
    (sdpValues "a=identity:" (withIdentity top identity media)).head? = some identity.toList := by
  unfold sdpValues at absent ⊢
  rw [sdpLines_withIdentity top media plain, List.filterMap_append, absent, List.nil_append,
    List.filterMap_cons_some (stripPrefix_append _ _)]
  rfl

theorem sdpFingerprints_withIdentity (absent : sdpValues "a=fingerprint:" top = []) :
    sdpFingerprints (withIdentity top identity media) = sdpFingerprints media := by
  have other : stripPrefix "a=fingerprint:".toList ("a=identity:".toList ++ identity.toList) = none := by
    simp [stripPrefix]
  unfold sdpValues at absent
  unfold sdpFingerprints sdpValues
  rw [sdpLines_withIdentity top media plain, List.filterMap_append, absent, List.nil_append,
    List.filterMap_cons_none other, List.filterMap_cons_none (by simp [stripPrefix])]

end

theorem fromSdp_withIdentity (top media : String) (absent : sdpValues "a=identity:" top = []) :
    Identity.fromSdp texts.crates (withIdentity top texts.base64 media) = .ok texts.identity := by
  unfold Identity.fromSdp
  rw [identityValues_withIdentity top media texts.base64_plain absent]
  simp only [Identity.fromBase64, texts.base64_trimmed, String.ofList_toList, crates, if_true,
    Except.mapError, bind, Except.bind, fromUtf8_utf8, Identity.fromJson, pure, Except.pure, identity]

/-- A description validates when the fingerprint lines of its media section are the signed one. -/
theorem validateSdp_withIdentity {top : String} (noIdentity : sdpValues "a=identity:" top = [])
    (noFingerprint : sdpValues "a=fingerprint:" top = [])
    (scanned : sdpFingerprints media = .ok [("sha-256", texts.digest)]) :
    (validateSdp texts.crates (withIdentity top texts.base64 media) .any .unixEpoch).2 =
      .ok texts.parsedClaims := by
  have all : sdpFingerprints (withIdentity top texts.base64 media) = .ok [("sha-256", texts.digest)] := by
    rw [sdpFingerprints_withIdentity top media texts.base64_plain noFingerprint, scanned]
  have canonical : canonicalFingerprintJson (withIdentity top texts.base64 media) =
      .ok (fingerprintPayload [("sha-256", texts.digest)]) := by
    rw [canonicalFingerprintJson, all]
    rfl
  rw [texts.attests_identity.validateSdp (texts.fromSdp_withIdentity top media noIdentity) canonical
    (fingerprintPayload_ne_empty _ _)]
  rfl

end SignedTexts

/-! ### One key, one signature -/

namespace Sample

def digest : String :=
  "4B:F5:12:2F:34:45:54:C5:3B:DE:2E:BB:8C:D2:B7:E3:D1:60:0A:D6:31:C3:85:A5:D7:CC:E2:3C:77:85:45:9A"
def spacedDigest : String :=
  "DB:C1:B4:C9:00:FF:E4:8D:57:5B:5D:A5:C6:38:04:01:25:F6:5D:B0:FE:3E:24:49:4B:76:EA:98:64:57:D9:86"
def spki : String :=
  "MHYwEAYHKoZIzj0CAQYFK4EEACIDYgAEi5XynwLwg4wQmW7Mg7Pz7WMFJHU88JHtBq7CA9WZCkGpvy+ylFvid5Os05Cf2ifvyFaCTZbqr7FI/GC9hCa1//nnVjwyC3TrKhm4ydJ0GADnKEoppwnWc0KI3qJ+Ybw1"
def payload : String :=
  "eyJjcGsiOiJNSFl3RUFZSEtvWkl6ajBDQVFZRks0RUVBQ0lEWWdBRWk1WHlud0x3ZzR3UW1XN01nN1B6N1dNRkpIVTg4Skh0QnE3Q0E5V1pDa0dwdnkreWxGdmlkNU9zMDVDZjJpZnZ5RmFDVFpicXI3RkkvR0M5aENhMS8vbm5Wand5QzNUcktobTR5ZEowR0FEbktFb3Bwd25XYzBLSTNxSitZYncxIiwiZXhwIjo0MTAyNDQ0ODAwfQ"
def header : String := "eyJhbGciOiJFUzM4NCJ9"
def signature : String :=
  "zePngA69hHjc8tjhXZ5Otu9TXDuoAVdhWojLufl-EzyclQEoUX_GQ_BfmH-ZN5R1NpogOzJHRbeM2MGPsUm-dKMw3kLhvfZnwLD2898arZcNCeIPNgHWYnjoFv2gMf_A"
def base64 : String :=
  "eyJhc3NlcnRpb24iOiJ7XCJ0b2tlblwiOlwiZTMwLmV5SmpjR3NpT2lKTlNGbDNSVUZaU0V0dldrbDZhakJEUVZGWlJrczBSVVZCUTBsRVdXZEJSV2sxV0hsdWQweDNaelIzVVcxWE4wMW5OMUI2TjFkTlJrcElWVGc0U2toMFFuRTNRMEU1VjFwRGEwZHdkbmtyZVd4R2RtbGtOVTl6TURWRFpqSnBablo1Um1GRFZGcGljWEkzUmtrdlIwTTVhRU5oTVM4dmJtNVdhbmQ1UXpOVWNrdG9iVFI1WkVvd1IwRkVia3RGYjNCd2QyNVhZekJMU1ROeFNpdFpZbmN4SWl3aVpYaHdJam8wTVRBeU5EUTBPREF3ZlEuXCIsXCJmaW5nZXJwcmludHNcIjpcImV5SmhiR2NpT2lKRlV6TTROQ0o5Li56ZVBuZ0E2OWhIamM4dGpoWFo1T3R1OVRYRHVvQVZkaFdvakx1ZmwtRXp5Y2xRRW9VWF9HUV9CZm1ILVpONVIxTnBvZ096SkhSYmVNMk1HUHNVbS1kS013M2tMaHZmWm53TEQyODk4YXJaY05DZUlQTmdIV1luam9GdjJnTWZfQVwifSJ9"

end Sample

def sampleTexts : SignedTexts where
  digest := Sample.digest
  spki := Sample.spki
  claims := "\x7b\"cpk\":\"" ++ Sample.spki ++ "\",\"exp\":4102444800\x7d"
  payload := Sample.payload
  header := Sample.header
  signedPayload :=
    "eyJmaW5nZXJwcmludCI6W3siYWxnb3JpdGhtIjoic2hhLTI1NiIsImRpZ2VzdCI6IjRCOkY1OjEyOjJGOjM0OjQ1OjU0OkM1OjNCOkRFOjJFOkJCOjhDOkQyOkI3OkUzOkQxOjYwOjBBOkQ2OjMxOkMzOjg1OkE1OkQ3OkNDOkUyOjNDOjc3Ojg1OjQ1OjlBIn1dfQ"
  signature := Sample.signature
  token := "e30." ++ Sample.payload ++ "."
  detached := Sample.header ++ ".." ++ Sample.signature
  assertion := "\x7b\"token\":\"e30." ++ Sample.payload ++ ".\",\"fingerprints\":\"" ++ Sample.header ++
    ".." ++ Sample.signature ++ "\"\x7d"
  envelope := "\x7b\"assertion\":\"\x7b\\\"token\\\":\\\"e30." ++ Sample.payload ++
    ".\\\",\\\"fingerprints\\\":\\\"" ++ Sample.header ++ ".." ++ Sample.signature ++ "\\\"\x7d\"\x7d"
  base64 := Sample.base64
  spkiBytes :=
    [48, 118, 48, 16, 6, 7, 42, 134, 72, 206, 61, 2, 1, 6, 5, 43, 129, 4, 0, 34, 3, 98, 0, 4,
    139, 149, 242, 159, 2, 240, 131, 140, 16, 153, 110, 204, 131, 179, 243, 237, 99, 5, 36, 117, 60, 240, 145, 237,
    6, 174, 194, 3, 213, 153, 10, 65, 169, 191, 47, 178, 148, 91, 226, 119, 147, 172, 211, 144, 159, 218, 39, 239,
    200, 86, 130, 77, 150, 234, 175, 177, 72, 252, 96, 189, 132, 38, 181, 255, 249, 231, 86, 60, 50, 11, 116, 235,
    42, 25, 184, 201, 210, 116, 24, 0, 231, 40, 74, 41, 167, 9, 214, 115, 66, 136, 222, 162, 126, 97, 188, 53]
  signatureBytes :=
    [205, 227, 231, 128, 14, 189, 132, 120, 220, 242, 216, 225, 93, 158, 78, 182, 239, 83, 92, 59, 168, 1, 87, 97,
    90, 136, 203, 185, 249, 126, 19, 60, 156, 149, 1, 40, 81, 127, 198, 67, 240, 95, 152, 127, 153, 55, 148, 117,
    54, 154, 32, 59, 50, 71, 69, 183, 140, 216, 193, 143, 177, 73, 190, 116, 163, 48, 222, 66, 225, 189, 246, 103,
    192, 176, 246, 243, 223, 26, 173, 151, 13, 9, 226, 15, 54, 1, 214, 98, 120, 232, 22, 253, 160, 49, 255, 192]
  signature_length := rfl
  base64_plain := by
    rw [Sample.base64, String.toList_ofList]
    decide +kernel
  base64_trimmed := by
    rw [Sample.base64, String.toList_ofList]
    decide +kernel
  token_split := by
    apply Jws.split_compact (unsigned_shape Sample.payload)
    · decide
    · rw [Sample.payload, String.toList_ofList]
      decide +kernel
    · simp
  detached_split := by
    apply Jws.split_compact (detached_shape Sample.header Sample.signature)
    · rw [Sample.header, String.toList_ofList]
      decide +kernel
    · simp
    · rw [Sample.signature, String.toList_ofList]
      decide +kernel
  distinct := by decide +kernel
  spki_ne := by decide +kernel

variable {attributes : List Attribute}

namespace Sample

-- SHA-256 at the certificates `[1]` and `[2]`
def sha256 : Sha256 where
  digest bytes :=
    if bytes = [1] then
      [75, 245, 18, 47, 52, 69, 84, 197, 59, 222, 46, 187, 140, 210, 183, 227,
        209, 96, 10, 214, 49, 195, 133, 165, 215, 204, 226, 60, 119, 133, 69, 154]
    else if bytes = [2] then
      [219, 193, 180, 201, 0, 255, 228, 141, 87, 91, 93, 165, 198, 56, 4, 1,
        37, 246, 93, 176, 254, 62, 36, 73, 75, 118, 234, 152, 100, 87, 217, 134]
    else List.replicate 32 0
  length_digest bytes := by
    split
    · rfl
    · split <;> rfl

def attributesOf (lines : List (List Char)) : List Attribute :=
  (lines.filterMap (stripPrefix ['a', '='])).map readAttribute

def beforeMedia (line : List Char) : Bool := !(['m', '='].isPrefixOf line)

/-- An SDP reader for one media section: every line from the first `m=` on belongs to it. -/
def webrtc : WebrtcCrates where
  Candidate := Unit
  unmarshal sdp :=
    let lines := sdp.toList.splitOn '\n'
    .ok ⟨attributesOf (lines.takeWhile beforeMedia), [⟨attributesOf (lines.dropWhile beforeMedia)⟩]⟩
  unmarshalCandidate _ := .error "could not parse"

theorem readsLines_webrtc : ReadsLines webrtc := by
  constructor
  intro sdp session media attr unmarshalled only member
  cases unmarshalled
  rw [List.mem_singleton] at only
  subst only
  obtain ⟨text, inside, rfl⟩ := List.mem_map.mp member
  obtain ⟨line, among, stripped⟩ := List.mem_filterMap.mp inside
  refine ⟨text, ?_, rfl⟩
  rw [show 'a' :: '=' :: text = line from (stripPrefix_eq_some stripped).symm]
  exact List.dropWhile_subset _ among

theorem unmarshal_withIdentity {top identity : String}
    (plain : ∀ c ∈ identity.toList, (c == '\r' || c == '\n') = false)
    (before : ∀ line ∈ top.toList.splitOn '\n', beforeMedia line = true)
    (after : (media.toList.splitOn '\n').dropWhile beforeMedia = media.toList.splitOn '\n') :
    ∃ attributes, webrtc.unmarshal (SignedTexts.withIdentity top identity media) =
      .ok ⟨attributes, [⟨attributesOf (media.toList.splitOn '\n')⟩]⟩ := by
  let lines := (SignedTexts.withIdentity top identity media).toList.splitOn '\n'
  have rest : lines.dropWhile beforeMedia = media.toList.splitOn '\n' := by
    rw [show lines = _ from SignedTexts.lines_withIdentity top media plain,
      List.dropWhile_append_of_pos before, List.dropWhile_cons_of_pos rfl, after]
  refine ⟨attributesOf (lines.takeWhile beforeMedia), ?_⟩
  rw [← rest]
  rfl

def top : String := "v=0\r\no=- 1 2 IN IP4 127.0.0.1\r\ns=-\r\nt=0 0\r"

def signedMedia : String :=
  "m=application 9 UDP/DTLS/SCTP webrtc-datachannel\r\nc=IN IP4 0.0.0.0\r\na=ice-ufrag:abcd\r\na=ice-pwd:0123456789abcdefghijklmn\r\na=fingerprint:sha-256 4B:F5:12:2F:34:45:54:C5:3B:DE:2E:BB:8C:D2:B7:E3:D1:60:0A:D6:31:C3:85:A5:D7:CC:E2:3C:77:85:45:9A\r\na=setup:active\r\n"

-- the same section with an unsigned line in front of the signed one
def spacedMedia : String :=
  "m=application 9 UDP/DTLS/SCTP webrtc-datachannel\r\nc=IN IP4 0.0.0.0\r\na=ice-ufrag:abcd\r\na=ice-pwd:0123456789abcdefghijklmn\r\na= fingerprint:sha-256 DB:C1:B4:C9:00:FF:E4:8D:57:5B:5D:A5:C6:38:04:01:25:F6:5D:B0:FE:3E:24:49:4B:76:EA:98:64:57:D9:86\r\na=fingerprint:sha-256 4B:F5:12:2F:34:45:54:C5:3B:DE:2E:BB:8C:D2:B7:E3:D1:60:0A:D6:31:C3:85:A5:D7:CC:E2:3C:77:85:45:9A\r\na=setup:active\r\n"

theorem scan_digest : fingerprintPair ("sha-256".toList ++ ' ' :: digest.toList) = .ok ("sha-256", digest) := by
  have ink : ∀ c ∈ digest.toList, isWhitespace c = false := by
    rw [digest, String.toList_ofList]
    decide +kernel
  have nonempty : digest.toList ≠ [] := by
    rw [digest, String.toList_ofList]
    decide
  have read : fingerprintPair (("sha-256".toList ++ ' ' :: digest.toList) ++ []) = _ :=
    fingerprintPair_eq (by decide) (by decide) ink nonempty (by simp)
  rwa [List.append_nil, String.ofList_toList, String.ofList_toList] at read

/-- What the two readers of a description find in a media section whose only scanned line is the signed one. -/
structure Section (media : String) (attributes : List Attribute) : Prop where
  whole : (media.toList.splitOn '\n').dropWhile beforeMedia = media.toList.splitOn '\n'
  read : attributesOf (media.toList.splitOn '\n') = attributes
  scanned : sdpValues "a=fingerprint:" media = ["sha-256".toList ++ ' ' :: digest.toList]

theorem section_signedMedia : Section signedMedia
    [⟨"ice-ufrag", some "abcd"⟩, ⟨"ice-pwd", some "0123456789abcdefghijklmn"⟩,
      ⟨"fingerprint", some ("sha-256 " ++ digest)⟩, ⟨"setup", some "active"⟩] := by
  constructor
  case whole =>
    rw [signedMedia, String.toList_ofList]
    decide +kernel
  case read =>
    rw [signedMedia, String.toList_ofList]
    decide +kernel
  case scanned =>
    unfold sdpValues sdpLines
    rw [signedMedia, digest, String.toList_ofList, String.toList_ofList, String.toList_ofList, String.toList_ofList]
    decide +kernel

theorem section_spacedMedia : Section spacedMedia
    [⟨"ice-ufrag", some "abcd"⟩, ⟨"ice-pwd", some "0123456789abcdefghijklmn"⟩,
      ⟨"fingerprint", some ("sha-256 " ++ spacedDigest)⟩, ⟨"fingerprint", some ("sha-256 " ++ digest)⟩,
      ⟨"setup", some "active"⟩] := by
  constructor
  case whole =>
    rw [spacedMedia, String.toList_ofList]
    decide +kernel
  case read =>
    rw [spacedMedia, String.toList_ofList]
    decide +kernel
  case scanned =>
    unfold sdpValues sdpLines
    rw [spacedMedia, digest, String.toList_ofList, String.toList_ofList, String.toList_ofList, String.toList_ofList]
    decide +kernel

theorem Section.fingerprints (reading : Section media attributes) :
    sdpFingerprints media = .ok [("sha-256", digest)] := by
  unfold sdpFingerprints
  rw [reading.scanned, List.mapM_cons, scan_digest]
  rfl

theorem parseFingerprint_sha256 (pinned : String) :
    Description.parseFingerprint ("sha-256 " ++ pinned) = .ok ("sha-256", pinned) := by
  have shape : ("sha-256 " ++ pinned).toList = "sha-256".toList ++ ' ' :: pinned.toList := by simp
  unfold Description.parseFingerprint
  rw [shape, splitOnce_append _ (by decide)]
  simp only [String.ofList_toList]

theorem parseMedia_pinned (session : SessionDescription) (pinned : String) (rest : List Attribute)
    (noCandidates : Description.parseCandidates webrtc ⟨rest⟩ = [])
    (setup : findAttribute rest "setup" = some ⟨"setup", some "active"⟩)
    (noSize : findAttribute rest "max-message-size" = none) :
    ∃ description, description.fingerprint = ("sha-256", pinned) ∧
      Description.parseMedia webrtc session ⟨⟨"ice-ufrag", some "abcd"⟩ ::
        ⟨"ice-pwd", some "0123456789abcdefghijklmn"⟩ :: ⟨"fingerprint", some ("sha-256 " ++ pinned)⟩ :: rest⟩ =
        .ok (description, []) := by
  refine ⟨⟨⟨"abcd", "0123456789abcdefghijklmn"⟩, .client, ("sha-256", pinned), 65536,
    (findAttribute session.attributes "identity").bind (·.value)⟩, rfl, ?_⟩
  simp only [findAttribute, Description.parseCandidates] at setup noSize noCandidates
  simp [Description.parseMedia, Description.parseMaxMessageSize, Description.parseCandidates,
    Description.parseSetup, mediaAttribute, findAttribute, parseFingerprint_sha256, setup, noSize, noCandidates,
    bind, Except.bind, pure, Except.pure, sctpMaxMessageSize]

-- both descriptions have this prefix and the same identity line
def sdp (media : String) : String := SignedTexts.withIdentity top sampleTexts.base64 media

-- the section above the identity line has none of the lines that are looked for
theorem top_lines : (∀ line ∈ top.toList.splitOn '\n', beforeMedia line = true) ∧
    sdpValues "a=identity:" top = [] ∧ sdpValues "a=fingerprint:" top = [] := by
  unfold sdpValues sdpLines
  rw [top, String.toList_ofList, String.toList_ofList, String.toList_ofList]
  decide +kernel

theorem unmarshal_sdp (reading : Section media attributes) :
    ∃ above, webrtc.unmarshal (sdp media) = .ok ⟨above, [⟨attributes⟩]⟩ := by
  rw [← reading.read]
  exact unmarshal_withIdentity sampleTexts.base64_plain top_lines.1 reading.whole

theorem parse_sdp {pinned : String} {rest : List Attribute}
    (reading : Section media (⟨"ice-ufrag", some "abcd"⟩ :: ⟨"ice-pwd", some "0123456789abcdefghijklmn"⟩ ::
      ⟨"fingerprint", some ("sha-256 " ++ pinned)⟩ :: rest))
    (noCandidates : Description.parseCandidates webrtc ⟨rest⟩ = [])
    (setup : findAttribute rest "setup" = some ⟨"setup", some "active"⟩)
    (noSize : findAttribute rest "max-message-size" = none) :
    ∃ description, description.fingerprint = ("sha-256", pinned) ∧
      Description.parse webrtc (sdp media) = .ok (description, []) := by
  obtain ⟨session, unmarshalled⟩ := unmarshal_sdp reading
  obtain ⟨description, fingerprint, parsed⟩ := parseMedia_pinned ⟨session, [⟨_⟩]⟩ pinned rest noCandidates setup noSize
  refine ⟨description, fingerprint, ?_⟩
  unfold Description.parse
  rw [unmarshalled]
  exact parsed

theorem validateSdp_sdp (reading : Section media attributes) :
    (validateSdp sampleTexts.crates (sdp media) .any .unixEpoch).2 = .ok sampleTexts.parsedClaims :=
  sampleTexts.validateSdp_withIdentity top_lines.2.1 top_lines.2.2 reading.fingerprints

theorem accepts_signed : verifyFingerprint sha256 ("sha-256", digest) [[1]] = .ok () := by
  apply verifyFingerprint_of_eq _ (by decide)
  show eqIgnoreAsciiCase _ digest.toList = true
  rw [digest, String.toList_ofList]
  decide +kernel

theorem accepts_spaced : verifyFingerprint sha256 ("sha-256", spacedDigest) [[2]] = .ok () := by
  apply verifyFingerprint_of_eq _ (by decide)
  show eqIgnoreAsciiCase _ spacedDigest.toList = true
  rw [spacedDigest, String.toList_ofList]
  decide +kernel

theorem spacedDigest_unsigned :
    ¬ eqIgnoreAsciiCase (hexDigest (sha256.digest [2])) digest.toList = true := by
  rw [digest, String.toList_ofList]
  decide +kernel

def signedLine : String :=
  "fingerprint:sha-256 4B:F5:12:2F:34:45:54:C5:3B:DE:2E:BB:8C:D2:B7:E3:D1:60:0A:D6:31:C3:85:A5:D7:CC:E2:3C:77:85:45:9A\r"

theorem fingerprintUnspaced_signed : FingerprintUnspaced webrtc (sdp signedMedia) := by
  intro session media attr unmarshalled member found
  obtain ⟨above, read⟩ := unmarshal_sdp section_signedMedia
  rw [read] at unmarshalled
  cases unmarshalled
  rw [List.mem_singleton] at member
  rw [member] at found
  have first : attr = ⟨"fingerprint", some ("sha-256 " ++ digest)⟩ := by
    simpa [findAttribute] using found.symm
  refine ⟨signedLine.toList, ?_, ?_, ?_⟩
  · have inside : 'a' :: '=' :: signedLine.toList ∈ signedMedia.toList.splitOn '\n' := by
      rw [signedLine, signedMedia, String.toList_ofList, String.toList_ofList]
      decide +kernel
    rw [sdp, SignedTexts.lines_withIdentity top signedMedia sampleTexts.base64_plain]
    exact List.mem_append_right _ (List.mem_cons_of_mem _ inside)
  · rw [first, signedLine, String.toList_ofList]
    decide +kernel
  · rw [signedLine, String.toList_ofList]
    rintro c ⟨⟩
    decide

end Sample

/-- The signed description pins `[1]`, and its digest is the signed one. -/
theorem signed_certificate_accepted :
    FingerprintUnspaced Sample.webrtc (Sample.sdp Sample.signedMedia) ∧
    ∃ cert pairs, [[1]].head? = some cert ∧
      sdpFingerprints (Sample.sdp Sample.signedMedia) = .ok pairs ∧
      ∃ pair ∈ pairs, eqIgnoreAsciiCase (hexDigest (Sample.sha256.digest cert)) pair.2.toList = true := by
  obtain ⟨description, fingerprint, parsed⟩ := Sample.parse_sdp Sample.section_signedMedia
    rfl rfl rfl
  exact ⟨Sample.fingerprintUnspaced_signed, accepted_certificate_signed Sample.fingerprintUnspaced_signed
    (Sample.validateSdp_sdp Sample.section_signedMedia) parsed (by rw [fingerprint]; exact Sample.accepts_signed)⟩

/-- With a spaced line in front, the identity still validates and `[2]` is accepted unsigned. -/
theorem spaced_certificate_accepted_unsigned :
    ReadsLines Sample.webrtc ∧
    (validateSdp sampleTexts.crates (Sample.sdp Sample.spacedMedia) .any .unixEpoch).2 =
      .ok sampleTexts.parsedClaims ∧
    ∃ description, Description.parse Sample.webrtc (Sample.sdp Sample.spacedMedia) = .ok (description, []) ∧
      verifyFingerprint Sample.sha256 description.fingerprint [[2]] = .ok () ∧
      ∃ pairs, sdpFingerprints (Sample.sdp Sample.spacedMedia) = .ok pairs ∧
        ¬ ∃ pair ∈ pairs, eqIgnoreAsciiCase (hexDigest (Sample.sha256.digest [2])) pair.2.toList = true := by
  obtain ⟨description, fingerprint, parsed⟩ := Sample.parse_sdp Sample.section_spacedMedia
    rfl rfl rfl
  refine ⟨Sample.readsLines_webrtc, Sample.validateSdp_sdp Sample.section_spacedMedia, description,
    parsed, by rw [fingerprint]; exact Sample.accepts_spaced, [("sha-256", Sample.digest)], ?_, ?_⟩
  · rw [Sample.sdp, SignedTexts.sdpFingerprints_withIdentity Sample.top Sample.spacedMedia
      sampleTexts.base64_plain Sample.top_lines.2.2, Sample.section_spacedMedia.fingerprints]
  · rintro ⟨pair, member, same⟩
    rw [List.mem_singleton] at member
    rw [member] at same
    exact absurd same Sample.spacedDigest_unsigned

end Nethernet
