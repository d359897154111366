import Nethernet.Foundation.Hex
import Nethernet.Identity.Server

/-! What `augment` signs, `validateSdp` accepts for as long as the token lives,
and the inserted line is all that changes. -/

set_option autoImplicit false

namespace Nethernet
open Foundation Identity

variable {longer value text : String}

namespace ServerIdentity

/-! ## The signed value -/

section
variable {crates : SigningCrates} (lawful : crates.Lawful) (identity : ServerIdentity crates)
include lawful

/-- The value for a list of pairs is one word, an envelope that attests the pairs
until its expiry. -/
theorem identityForFingerprints_ok {lifetime : Duration} (expires : identity.lifetime = some lifetime)
    {now expiry : SystemTime} (fits : now.checkedAdd lifetime = some expiry)
    (fingerprints : List (String × String)) :
    ∃ value envelope claims, identity.identityForFingerprints fingerprints now = .ok value ∧
      (∀ c ∈ value.toList, isWhitespace c = false) ∧
      fromBase64 crates.toIdentityCrates value.toList = .ok envelope ∧
      envelope.Attests crates.toIdentityCrates (fingerprintPayload fingerprints) claims ∧
      claims.exp = some expiry.seconds := by
  obtain ⟨token, jws, minted, parsed, read⟩ := claims_mintToken lawful identity.signing identity.domain fits
  obtain ⟨signature, detached, signed, signatureRead, verified⟩ :=
    Jws.parseDetached_sign lawful identity.signing (fingerprintPayload fingerprints)
  obtain ⟨value, encoded, decoded, ink⟩ := fromBase64_toBase64 lawful
    ⟨⟨identity.domain, "default"⟩, ⟨token, signature⟩⟩
  refine ⟨value, _, _, ?_, ink, decoded, ⟨⟨jws, parsed, read⟩, detached, _, signatureRead,
    clientPublicKey_tokenClaims lawful _ _ _ _, verified⟩, exp_tokenClaims _ _ _ _⟩
  unfold identityForFingerprints tokenAt
  rw [identity.matching, expires, minted, signed]
  simp only [Outcome.ok_bind, Outcome.ofExcept]
  rw [encoded]

end

/-! ## The inserted line -/

theorem foldl_augmentLine_inserted (attr eol out : List Char) (lines : List (List Char)) :
    lines.foldl (augmentLine attr eol) (out, true) = (out ++ lines.flatten, true) := by
  induction lines generalizing out with
  | nil => simp
  | cons line rest ih => simp [augmentLine, ih]

/-- The loop writes the attribute before the first line that starts a media
section, or at the end. -/
theorem augmentLines_eq (attr eol : List Char) (lines : List (List Char)) :
    augmentLines attr eol lines = (lines.takeWhile fun line => !isMedia line).flatten ++ (attr ++ eol) ++
      (lines.dropWhile fun line => !isMedia line).flatten := by
  suffices from_out : ∀ out, (if (lines.foldl (augmentLine attr eol) (out, false)).2 then
      (lines.foldl (augmentLine attr eol) (out, false)).1
      else (lines.foldl (augmentLine attr eol) (out, false)).1 ++ attr ++ eol) =
      out ++ (lines.takeWhile fun line => !isMedia line).flatten ++ (attr ++ eol) ++
        (lines.dropWhile fun line => !isMedia line).flatten from by
    simpa [augmentLines] using from_out []
  induction lines with
  | nil => simp
  | cons line rest ih =>
    intro out
    by_cases media : isMedia line
    · simp [augmentLine, media, foldl_augmentLine_inserted]
    · simpa [augmentLine, media] using ih (out ++ line)

/-- The text above the first media section. -/
def aboveMedia (text : List Char) : List Char :=
  ((splitInclusive '\n' text).takeWhile fun line => !isMedia line).flatten

/-- The text from the first media section on. -/
def fromMedia (text : List Char) : List Char :=
  ((splitInclusive '\n' text).dropWhile fun line => !isMedia line).flatten

theorem aboveMedia_append_fromMedia (text : List Char) : aboveMedia text ++ fromMedia text = text := by
  rw [aboveMedia, fromMedia, ← List.flatten_append, List.takeWhile_append_dropWhile, flatten_splitInclusive]

/-- A line that starts with `m=`, at the start of the text or right after an LF. -/
def HasMediaLine (text : List Char) : Prop :=
  ∃ before after, text = before ++ ("m=".toList ++ after) ∧ (before = [] ∨ before.getLast? = some '\n')

def isLineEnd (c : Char) : Bool := c == '\r' || c == '\n'

theorem exists_media_piece {text : List Char} (media : HasMediaLine text) :
    ∃ line ∈ splitInclusive '\n' text, isMedia line = true := by
  obtain ⟨before, after, rfl, closed⟩ := media
  rw [splitInclusive_append closed]
  cases pieces : splitInclusive '\n' after with
  | nil => exact ⟨['m', '='], by simp [splitInclusive, pieces], rfl⟩
  | cons piece rest => exact ⟨'m' :: '=' :: piece, by simp [splitInclusive, pieces], by simp [isMedia]⟩

/-- The attribute is written at the start of a line. -/
theorem aboveMedia_closed {text : List Char}
    (place : HasMediaLine text ∨ ∃ c ∈ text.getLast?, isLineEnd c = true) :
    aboveMedia text = [] ∨ ∃ c ∈ (aboveMedia text).getLast?, isLineEnd c = true := by
  have whole := List.takeWhile_append_dropWhile
    (p := fun line => !isMedia line) (l := splitInclusive '\n' text)
  unfold aboveMedia
  cases rest : (splitInclusive '\n' text).dropWhile fun line => !isMedia line with
  | nil =>
    -- no media section: the attribute goes to the end of the text
    rw [rest, List.append_nil] at whole
    rw [whole, flatten_splitInclusive]
    refine .inr (place.resolve_left fun media => ?_)
    obtain ⟨line, member, starts⟩ := exists_media_piece media
    have plain := List.dropWhile_eq_nil_iff.mp rest line member
    simp [starts] at plain
  | cons line after =>
    rw [rest] at whole
    by_cases first : (splitInclusive '\n' text).takeWhile (fun line => !isMedia line) = []
    · exact .inl (by rw [first]; rfl)
    · exact .inr ⟨'\n', getLast?_splitInclusive whole.symm first, rfl⟩

/-- A line inserted at the start of a line adds its own value and no other. -/
theorem sdpValues_inserted {before attr eol : List Char} (after : List Char)
    (closed : before = [] ∨ ∃ c ∈ before.getLast?, isLineEnd c = true)
    (plain : ∀ c ∈ attr, isLineEnd c = false) (ends : eol = ['\r', '\n'] ∨ eol = ['\n'])
    {start : String} (named : start.toList ≠ []) :
    ∃ earlier later, sdpValues start (String.ofList (before ++ after)) = earlier ++ later ∧
      sdpValues start (String.ofList (before ++ (attr ++ eol) ++ after)) =
        earlier ++ ((stripPrefix start.toList attr).toList ++ later) := by
  obtain ⟨earlier, split⟩ := exists_splitOnP_append closed
  refine ⟨earlier.filterMap (stripPrefix start.toList),
    (after.splitOnP isLineEnd).filterMap (stripPrefix start.toList), ?_, ?_⟩
  · rw [sdpValues, sdpLines, String.toList_ofList, ← List.filterMap_append]
    exact congrArg _ (split after)
  · have lines : (attr ++ eol ++ after).splitOnP isLineEnd = attr :: after.splitOnP isLineEnd ∨
        (attr ++ eol ++ after).splitOnP isLineEnd = attr :: [] :: after.splitOnP isLineEnd := by
      rcases ends with rfl | rfl
      · right
        rw [List.append_assoc, List.cons_append, List.splitOnP_append_cons_of_forall_mem plain _ (by decide)]
        exact congrArg _ ((List.splitOnP_cons_eq_if_modifyHead '\n' after).trans (if_pos rfl))
      · left
        rw [List.append_assoc]
        exact List.splitOnP_append_cons_of_forall_mem plain '\n' (by decide) after
    have values : ((attr ++ eol ++ after).splitOnP isLineEnd).filterMap (stripPrefix start.toList) =
        (stripPrefix start.toList attr).toList ++
          (after.splitOnP isLineEnd).filterMap (stripPrefix start.toList) := by
      rcases lines with lines | lines <;> rw [lines] <;>
        cases found : stripPrefix start.toList attr <;> simp [found, stripPrefix_nil named]
    rw [sdpValues, sdpLines, String.toList_ofList, List.append_assoc, ← values, ← List.filterMap_append]
    exact congrArg _ (split _)

/-- `longer` is `text` with one line more, which starts at the start of a line and
has its own line end. -/
def InsertsLine (line text longer : String) : Prop :=
  ∃ before eol after, text = before ++ after ∧ longer = before ++ (line ++ eol) ++ after ∧
    (eol = "\r\n" ∨ eol = "\n") ∧ (∀ c ∈ line.toList, isLineEnd c = false) ∧
    (before = "" ∨ ∃ c ∈ before.toList.getLast?, isLineEnd c = true)

theorem InsertsLine.sdpValues {line start : String} (inserts : InsertsLine line text longer)
    (named : start.toList ≠ []) :
    ∃ earlier later, sdpValues start text = earlier ++ later ∧
      sdpValues start longer = earlier ++ ((stripPrefix start.toList line.toList).toList ++ later) := by
  obtain ⟨before, eol, after, rfl, rfl, ends, plain, closed⟩ := inserts
  have ends : eol.toList = ['\r', '\n'] ∨ eol.toList = ['\n'] := by
    rcases ends with rfl | rfl
    · exact .inl rfl
    · exact .inr rfl
  have closed : before.toList = [] ∨ ∃ c ∈ before.toList.getLast?, isLineEnd c = true :=
    closed.imp_left fun empty => by simp [empty]
  simpa [String.append_assoc] using sdpValues_inserted after.toList closed plain ends named

/-- Where no line carried an identity, the inserted one is the only one. -/
theorem InsertsLine.identity (inserts : InsertsLine ("a=identity:" ++ value) text longer)
    (unsigned : ∀ line ∈ sdpLines text, ¬ "a=identity:".toList <+: line) :
    Nethernet.sdpValues "a=identity:" longer = [value.toList] := by
  obtain ⟨earlier, later, old, new⟩ := inserts.sdpValues (by decide : "a=identity:".toList ≠ [])
  have none : Nethernet.sdpValues "a=identity:" text = [] := by
    refine List.filterMap_eq_nil_iff.mpr fun line member => ?_
    rw [stripPrefix, if_neg (unsigned line member)]
  rw [none] at old
  obtain ⟨rfl, rfl⟩ := List.append_eq_nil_iff.mp old.symm
  rw [new, String.toList_append, stripPrefix_append]
  rfl

/-- An identity line leaves the fingerprints as they were. -/
theorem InsertsLine.fingerprints (inserts : InsertsLine ("a=identity:" ++ value) text longer) :
    sdpFingerprints longer = sdpFingerprints text := by
  obtain ⟨earlier, later, old, new⟩ := inserts.sdpValues (by decide : "a=fingerprint:".toList ≠ [])
  have other : stripPrefix "a=fingerprint:".toList ("a=identity:" ++ value).toList = none := by
    rw [String.toList_append]
    exact if_neg (by simp)
  rw [sdpFingerprints, sdpFingerprints, old, new, other]
  rfl

theorem not_isLineEnd_of_ink {c : Char} (ink : isWhitespace c = false) : isLineEnd c = false := by
  by_contra ends
  rw [isLineEnd, Bool.not_eq_false, Bool.or_eq_true, beq_iff_eq, beq_iff_eq] at ends
  rcases ends with rfl | rfl <;> exact absurd ink (by decide)

/-! ## The signed answer -/

section
variable {crates : SigningCrates} (identity : ServerIdentity crates)

theorem augment_inserts {answer : String} {now : SystemTime} (signed : identity.identityValue answer now = .ok value)
    (ink : ∀ c ∈ value.toList, isWhitespace c = false)
    (place : HasMediaLine answer.toList ∨ ∃ c ∈ answer.toList.getLast?, isLineEnd c = true) :
    ∃ augmented, identity.augment answer now = .ok augmented ∧
      InsertsLine ("a=identity:" ++ value) answer augmented := by
  have inserted : identity.augment answer now = .ok (String.ofList (augmentLines ("a=identity:" ++ value).toList
      (if containsText "\r\n".toList answer.toList then "\r\n" else "\n").toList
      (splitInclusive '\n' answer.toList))) := by
    unfold augment
    rw [signed]
    rfl
  rw [augmentLines_eq, ← aboveMedia, ← fromMedia] at inserted
  refine ⟨_, inserted, String.ofList (aboveMedia answer.toList), _, String.ofList (fromMedia answer.toList),
    ?_, by rw [String.ofList_append, String.ofList_append, ← String.toList_append, String.ofList_toList],
    ?_, ?_, ?_⟩
  · rw [← String.ofList_append, aboveMedia_append_fromMedia, String.ofList_toList]
  · split
    · exact .inl rfl
    · exact .inr rfl
  · intro c member
    rw [String.toList_append, List.mem_append] at member
    rcases member with name | value
    · exact (by decide : ∀ c ∈ "a=identity:".toList, isLineEnd c = false) c name
    · exact not_isLineEnd_of_ink (ink c value)
  · rw [String.toList_ofList]
    exact (aboveMedia_closed place).imp_left fun empty => by rw [empty]

/-- Signing an answer adds one line, and the result validates until a minute after
the whole second in which its token ends. -/
theorem augmented_answer_validates (lawful : crates.Lawful) {lifetime : Duration}
    (expires : identity.lifetime = some lifetime) {answer : String} {pairs : List (String × String)}
    (fingerprints : sdpFingerprints answer = .ok pairs) (present : pairs ≠ [])
    (unsigned : ∀ line ∈ sdpLines answer, ¬ "a=identity:".toList <+: line)
    (place : HasMediaLine answer.toList ∨ ∃ c ∈ answer.toList.getLast?, isLineEnd c = true)
    {now : SystemTime} (since : 0 ≤ now.nanos)
    (fits : now.nanos + lifetime + Duration.fromSecs 60 < clockLimit) :
    ∃ augmented value, identity.augment answer now = .ok augmented ∧
      identity.identityValue answer now = .ok value ∧
      InsertsLine ("a=identity:" ++ value) answer augmented ∧
      sdpValues "a=identity:" augmented = [value.toList] ∧
      ∀ time : SystemTime,
        (time.nanos ≤ ((now.nanos + lifetime) / 10 ^ 9 + 60) * 10 ^ 9 →
          ∃ claims, (validateSdp crates.toIdentityCrates augmented .any time).2 = .ok claims) ∧
        (((now.nanos + lifetime) / 10 ^ 9 + 60) * 10 ^ 9 < time.nanos →
          ∃ error, (validateSdp crates.toIdentityCrates augmented .any time).2 = .err error) := by
  obtain ⟨expiry, added⟩ := SystemTime.exists_checkedAdd (show now.nanos + lifetime < clockLimit by omega)
  have nanos := SystemTime.checkedAdd_nanos added
  obtain ⟨value, envelope, claims, encoded, ink, decoded, attests, exp⟩ :=
    identityForFingerprints_ok lawful identity expires added pairs
  have signed : identity.identityValue answer now = .ok value := by
    unfold identityValue
    rw [fingerprints]
    exact encoded
  obtain ⟨augmented, written, inserts⟩ := augment_inserts identity signed ink place
  have values := inserts.identity unsigned
  refine ⟨augmented, value, written, signed, inserts, values, fun time => ?_⟩
  -- the reader finds the signed envelope, over the fingerprints it was signed for
  have found : fromSdp crates.toIdentityCrates augmented = .ok envelope := by
    rw [fromSdp, values]
    exact decoded
  have canonical : canonicalFingerprintJson augmented = .ok (fingerprintPayload pairs) := by
    rw [canonicalFingerprintJson, inserts.fingerprints, fingerprints]
    rfl
  obtain ⟨pair, rest, rfl⟩ := List.exists_cons_of_ne_nil present
  have seconds := SystemTime.toNat_seconds (show 0 ≤ expiry.nanos by omega)
  have within : expiry.seconds.toNat < expLimit := by
    unfold expLimit
    simp only [clockLimit, Duration.fromSecs] at fits
    omega
  rw [attests.validateSdp found canonical (fingerprintPayload_ne_empty pair rest) time,
    Claims.checkExpiry_eq exp within, seconds, nanos]
  constructor
  · intro fresh
    rw [if_pos fresh]
    exact ⟨claims, rfl⟩
  · intro late
    rw [if_neg (Int.not_le.mpr late)]
    exact ⟨_, rfl⟩

end

/-! ## Code that obeys the laws

Words are hexadecimal, JSON is a row of words, and a signature is the key beside
the signed bytes. -/

def hexText (bytes : Bytes) : String :=
  String.ofList ((Hex.encode bytes).map fun byte => Char.ofNat byte.toNat)

def hexBytes (text : String) : Except String Bytes :=
  (Hex.decode (text.toList.map fun c => UInt8.ofNat c.toNat)).mapError Hex.HexError.text

theorem hexBytes_hexText (bytes : Bytes) : hexBytes (hexText bytes) = .ok bytes := by
  have small : ∀ value < 256, (Char.ofNat value).toNat = value := by decide +kernel
  have letter (byte : UInt8) : UInt8.ofNat (Char.ofNat byte.toNat).toNat = byte := by
    rw [small byte.toNat byte.toNat_lt, UInt8.ofNat_toNat]
  rw [hexBytes, hexText, String.toList_ofList, List.map_map]
  simp only [Function.comp_def, letter, List.map_id', Hex.decode_encode]
  rfl

theorem mem_hexText {bytes : Bytes} {c : Char} (member : c ∈ (hexText bytes).toList) :
    c ∈ "0123456789abcdef".toList := by
  have digits : ∀ value < 16, Char.ofNat (Hex.digit value).toNat ∈ "0123456789abcdef".toList := by decide
  rw [hexText, String.toList_ofList, Hex.encode] at member
  simp only [List.mem_map, List.mem_flatMap, List.mem_cons, List.not_mem_nil, or_false] at member
  obtain ⟨letter, ⟨byte, -, high | low⟩, rfl⟩ := member
  · rw [high]
    exact digits _ (by have := byte.toNat_lt; omega)
  · rw [low]
    exact digits _ (Nat.mod_lt _ (by decide))

def wordsText (words : List String) : String :=
  String.ofList (['.'].intercalate (words.map fun word => (hexText (utf8 word)).toList))

def textWords (text : String) : List String :=
  (text.toList.splitOn '.').map fun word =>
    ((hexBytes (String.ofList word)).bind fromUtf8).toOption.getD ""

theorem textWords_wordsText {words : List String} (nonempty : words ≠ []) :
    textWords (wordsText words) = words := by
  have plain : ∀ word ∈ words.map fun word => (hexText (utf8 word)).toList, '.' ∉ word := by
    simp only [List.mem_map, forall_exists_index, and_imp]
    rintro _ word - rfl dot
    exact absurd (mem_hexText dot) (by decide)
  rw [textWords, wordsText, String.toList_ofList, List.splitOn_intercalate '.' plain (by simpa using nonempty),
    List.map_map]
  conv_rhs => rw [← List.map_id words]
  refine List.map_congr_left fun word _ => ?_
  simp only [Function.comp_apply, String.ofList_toList, hexBytes_hexText]
  change ((fromUtf8 (utf8 word)).toOption).getD "" = word
  rw [fromUtf8_utf8]
  rfl

def claimWord (fields : List (String × Json)) (name : String) : String :=
  match fields.lookup name with
  | some (.string text) => text
  | some (.number (.posInt value)) => value.toNat.repr
  | _ => ""

-- the words of a minted token's claims
def claimWords (fields : List (String × Json)) : List String :=
  let cpk := match fields.lookup "cpk" with
    | some (.object jwk) => jwk
    | _ => []
  ["kty", "crv", "x", "y"].map (claimWord cpk) ++ ["iat", "iss", "exp"].map (claimWord fields)

theorem claimWords_tokenClaims (cpk : EcJwk) (iat : UInt64) (domain : String) (exp : Option UInt64) :
    claimWords (tokenClaims cpk iat domain exp) = [cpk.kty, cpk.crv, cpk.x, cpk.y, iat.toNat.repr, domain,
      (exp.map fun seconds => seconds.toNat.repr).getD ""] := by
  cases exp <;> by_cases unnamed : domain = "" <;>
    simp [claimWords, claimWord, tokenClaims, EcJwk.toJson, List.lookup_cons, unnamed]

def wordNumber (word : String) : Option UInt64 :=
  (parseUnsigned (2 ^ 64) word.toList).toOption.map UInt64.ofNat

theorem wordNumber_repr (value : UInt64) : wordNumber value.toNat.repr = some value := by
  rw [wordNumber, parseUnsigned_repr value.toNat_lt]
  simp [Except.toOption]

def plainCrates : SigningCrates where
  VerifyingKey := UInt8
  Signature := Bytes
  RsaPublicKey := Unit
  RsaSignature := Unit
  SigningKey := UInt8
  standardDecode := hexBytes
  urlSafeDecode := hexBytes
  urlSafeEncode := hexText
  standardEncode := hexText
  rawFromStr text :=
    match textWords text with
    | [domain, protocol, assertion] => .ok ⟨⟨domain, protocol⟩, assertion⟩
    | _ => .error "expected value"
  rawToString raw := .ok (wordsText [raw.idp.domain, raw.idp.protocol, raw.assertion])
  assertionFromStr text :=
    match textWords text with
    | [token, fingerprints] => .ok ⟨token, fingerprints⟩
    | _ => .error "expected value"
  assertionToString assertion := .ok (wordsText [assertion.token, assertion.fingerprints])
  headerFromSlice bytes := if bytes = utf8 es384Header then .ok ⟨"ES384", none⟩ else .error "expected value"
  claimsFromSlice bytes := do
    match textWords (← fromUtf8 bytes) with
    | [kty, crv, x, y, iat, iss, exp] =>
      .ok (tokenClaims ⟨kty, crv, x, y⟩ ((wordNumber iat).getD 0) iss (wordNumber exp))
    | _ => .error "expected value"
  valueToString
    | .object fields => wordsText (claimWords fields)
    | _ => ""
  ecJwkDeserialize
    | .object fields => .ok ⟨claimWord fields "kty", claimWord fields "crv", claimWord fields "x", claimWord fields "y"⟩
    | _ => .error "expected value"
  fromPublicKeyDer _ := .error "not a key"
  fromSec1Bytes
    | _ :: key :: _ => .ok key
    | _ => .error "not a key"
  toSec1Point key := (some (List.replicate p384CoordinateLen key), some (List.replicate p384CoordinateLen key))
  signatureFromSlice := .ok
  signatureToBytes := id
  verifyingKey := id
  trySign key bytes := .ok (key :: bytes)
  es384Verify key bytes signature := signature == key :: bytes
  rsaPublicKey _ _ := .error "not a key"
  rsaSignature _ := none
  rs256Verify _ _ _ := false

theorem plainCrates_lawful : plainCrates.Lawful where
  standard_read bytes := by simp only [plainCrates, hexBytes_hexText]
  standard_ink bytes c member :=
    (by decide : ∀ c ∈ "0123456789abcdef".toList, isWhitespace c = false) c (mem_hexText member)
  urlSafe_read bytes := by simp only [plainCrates, hexBytes_hexText]
  urlSafe_plain bytes c member :=
    (by decide : ∀ c ∈ "0123456789abcdef".toList, (c == '.') = false) c (mem_hexText member)
  raw_read raw := ⟨_, rfl, by simp [plainCrates, textWords_wordsText]⟩
  assertion_read assertion := ⟨_, rfl, by simp [plainCrates, textWords_wordsText]⟩
  header_read := by simp only [plainCrates, if_true]
  claims_read cpk iat domain exp := by
    have number : wordNumber ((exp.map fun seconds => seconds.toNat.repr).getD "") = exp := by
      cases exp with
      | none => rfl
      | some seconds => exact wordNumber_repr seconds
    change ((fromUtf8 (utf8 (wordsText (claimWords _)))) >>= _) = _
    rw [claimWords_tokenClaims, fromUtf8_utf8]
    simp only [Except.bind_eq_ok]
    refine ⟨_, rfl, ?_⟩
    rw [textWords_wordsText (by simp)]
    simp only [wordNumber_repr, Option.getD_some, number]
  jwk_read jwk := rfl
  point_read key := ⟨_, _, rfl, rfl, rfl, rfl⟩
  signature_read signature := rfl
  signs key bytes := ⟨_, rfl, beq_self_eq_true (show Bytes from List.cons key bytes)⟩

def plainIdentity : ServerIdentity plainCrates where
  signing := (7 : UInt8)
  verifying := (7 : UInt8)
  domain := defaultDomain
  lifetime := some defaultTokenLifetime
  token := ""
  matching := rfl
  named := defaultDomain_ne_empty

def plainAnswer : String := "v=0\r\nm=application 9\r\na=fingerprint:sha-256 AB:CD\r\n"

theorem plain_answer_validates :
    ∃ augmented value, plainIdentity.augment plainAnswer .unixEpoch = .ok augmented ∧
      InsertsLine ("a=identity:" ++ value) plainAnswer augmented ∧
      ∀ time : SystemTime,
        (time.nanos ≤ (86400 + 60) * 10 ^ 9 →
          ∃ claims, (validateSdp plainCrates.toIdentityCrates augmented .any time).2 = .ok claims) ∧
        ((86400 + 60) * 10 ^ 9 < time.nanos →
          ∃ error, (validateSdp plainCrates.toIdentityCrates augmented .any time).2 = .err error) := by
  have fingerprints : sdpFingerprints plainAnswer = .ok [("sha-256", "AB:CD")] := by rfl
  have unsigned : ∀ line ∈ sdpLines plainAnswer, ¬ "a=identity:".toList <+: line := by decide
  have media : HasMediaLine plainAnswer.toList :=
    ⟨"v=0\r\n".toList, "application 9\r\na=fingerprint:sha-256 AB:CD\r\n".toList, by decide +kernel, .inr (by decide)⟩
  have since : 0 ≤ SystemTime.unixEpoch.nanos := Int.le_refl 0
  obtain ⟨augmented, value, written, -, inserts, -, validated⟩ := augmented_answer_validates plainIdentity
    plainCrates_lawful rfl fingerprints (by simp) unsigned (.inl media) since (by decide)
  exact ⟨augmented, value, written, inserts, validated⟩

end ServerIdentity

end Nethernet
