import Mathlib.Algebra.Group.Nat.Defs
import Nethernet.Error
import Nethernet.Foundation.Outcome
import Nethernet.Foundation.Text

/-! The single data-channel media section that peers exchange.

The SDP reader and the candidate reader are third party. `ReadsLines` states what
is relied on of the first: where an attribute of a media section comes from. -/

set_option autoImplicit false

namespace Nethernet
open Foundation

structure Attribute where
  key : String
  value : Option String
  deriving DecidableEq, Repr

structure MediaDescription where
  attributes : List Attribute
  deriving DecidableEq, Repr

structure SessionDescription where
  attributes : List Attribute
  mediaDescriptions : List MediaDescription
  deriving DecidableEq, Repr

-- `rtc::sdp` returns the first attribute with a key, and its value if it has one
def findAttribute (attributes : List Attribute) (key : String) : Option Attribute :=
  attributes.find? fun attr => attr.key = key

/-- An attribute line as `rtc::sdp` reads it, from the text after `a=`. -/
def readAttribute (line : List Char) : Attribute :=
  match splitOnce ':' (trim line) with
  | some (key, value) => ⟨String.ofList key, some (String.ofList value)⟩
  | none => ⟨String.ofList (trim line), none⟩

structure WebrtcCrates where
  Candidate : Type
  unmarshal : String → Except String SessionDescription
  unmarshalCandidate : String → Except String Candidate

/-- Lines end at LF, and every attribute of a media section is read from one of them. -/
structure ReadsLines (crates : WebrtcCrates) : Prop where
  attribute_line : ∀ {sdp session media attr}, crates.unmarshal sdp = .ok session →
    media ∈ session.mediaDescriptions → attr ∈ media.attributes →
    ∃ line, 'a' :: '=' :: line ∈ sdp.toList.splitOn '\n' ∧ readAttribute line = attr

inductive DtlsRole where
  | client
  | server
  | auto
  deriving DecidableEq, Repr

structure Credentials where
  ufrag : String
  pwd : String
  deriving DecidableEq, Repr

def sctpMaxMessageSize : Nat := 65536

/-- A peer's ICE credentials, DTLS setup and certificate fingerprint as carried in SDP. -/
structure Description where
  ice : Credentials
  dtlsRole : DtlsRole
  fingerprint : String × String
  sctpMaxMessageSize : Nat
  identity : Option String
  deriving DecidableEq, Repr

variable (crates : WebrtcCrates)

def parseIceCandidate (data : String) : Except ProtocolError crates.Candidate :=
  let raw := (stripPrefix "candidate:".toList data.toList).map String.ofList |>.getD data
  (crates.unmarshalCandidate raw).mapError fun e => .other ("decode candidate: " ++ e)

-- the value of an attribute that the media section must carry
def mediaAttribute (media : MediaDescription) (key : String) : Except ProtocolError String :=
  match findAttribute media.attributes key with
  | some ⟨_, some value⟩ => .ok value
  | some ⟨_, none⟩ => .error (.other ("empty " ++ key ++ " attribute"))
  | none => .error (.other ("missing " ++ key ++ " attribute"))

variable {candidates : List crates.Candidate} {description : Description} {media : MediaDescription}

namespace Description

def parseFingerprint (value : String) : Except ProtocolError (String × String) :=
  match splitOnce ' ' value.toList with
  | some (algorithm, digest) => .ok (String.ofList algorithm, String.ofList digest)
  | none => .error (.other ("invalid fingerprint: " ++ value))

def parseSetup (setup : String) : Except ProtocolError DtlsRole :=
  if setup = "active" then .ok .client
  else if setup = "actpass" then .ok .server
  else .error (.other ("invalid setup attribute: " ++ setup))

def parseMaxMessageSize (media : MediaDescription) : Except ProtocolError Nat :=
  match mediaAttribute media "max-message-size" with
  | .ok value => (parseUnsigned (2 ^ 32) value.toList).mapError fun e =>
      .other ("parse max-message-size attribute: " ++ e.text)
  | .error _ => .ok Nethernet.sctpMaxMessageSize

-- candidates that do not parse are skipped
def parseCandidates (media : MediaDescription) : List crates.Candidate :=
  media.attributes.filterMap fun attr =>
    if attr.key = "candidate" then
      attr.value.bind fun value => (parseIceCandidate crates value).toOption
    else none

/-- What is read of a session once its only media section is known. -/
def parseMedia (session : SessionDescription) (media : MediaDescription) :
    Except ProtocolError (Description × List crates.Candidate) := do
  let ufrag ← mediaAttribute media "ice-ufrag"
  let pwd ← mediaAttribute media "ice-pwd"
  let fingerprint ← parseFingerprint (← mediaAttribute media "fingerprint")
  let dtlsRole ← parseSetup (← mediaAttribute media "setup")
  let sctpMaxMessageSize ← parseMaxMessageSize media
  let identity := (findAttribute session.attributes "identity").bind (·.value)
  return (⟨⟨ufrag, pwd⟩, dtlsRole, fingerprint, sctpMaxMessageSize, identity⟩,
    parseCandidates crates media)

def parse (sdp : String) : Except ProtocolError (Description × List crates.Candidate) := do
  let session ← (crates.unmarshal sdp).mapError fun e =>
    ProtocolError.other ("decode session description: " ++ e)
  match session.mediaDescriptions with
  | [media] => parseMedia crates session media
  | sections => .error (.other ("unexpected number of media descriptions: " ++
      toString sections.length ++ ", expected 1"))

/-! ## Where a parsed fingerprint comes from -/

theorem findAttribute_of_mediaAttribute {key value : String} (found : mediaAttribute media key = .ok value) :
    findAttribute media.attributes key = some ⟨key, some value⟩ := by
  unfold mediaAttribute at found
  split at found
  · rename_i stored present first
    cases found
    have named : stored = key := by
      simpa using List.find?_some first
    rw [first, named]
  · cases found
  · cases found

theorem fingerprint_of_parseMedia {session : SessionDescription}
    (parsed : parseMedia crates session media = .ok (description, candidates)) :
    ∃ value, mediaAttribute media "fingerprint" = .ok value ∧
      parseFingerprint value = .ok description.fingerprint := by
  unfold parseMedia at parsed
  simp only [Except.bind_eq_ok] at parsed
  obtain ⟨ufrag, -, pwd, -, value, found, fingerprint, split, -, -, role, -, size, -, built⟩ := parsed
  cases built
  exact ⟨value, found, split⟩

/-- A parsed fingerprint is the first fingerprint attribute of the only media section. -/
theorem fingerprint_of_parse {sdp : String} (parsed : parse crates sdp = .ok (description, candidates)) :
    ∃ session media value, crates.unmarshal sdp = .ok session ∧ session.mediaDescriptions = [media] ∧
      findAttribute media.attributes "fingerprint" = some ⟨"fingerprint", some value⟩ ∧
      parseFingerprint value = .ok description.fingerprint := by
  obtain ⟨session, unmarshalled, parsed⟩ := Except.bind_eq_ok.mp parsed
  split at parsed
  · rename_i media only
    obtain ⟨value, found, split⟩ := fingerprint_of_parseMedia crates parsed
    refine ⟨session, media, value, ?_, only, findAttribute_of_mediaAttribute found, split⟩
    cases read : crates.unmarshal sdp with
    | error e => simp [read, Except.mapError] at unmarshalled
    | ok result => simpa [read, Except.mapError] using unmarshalled
  · cases parsed

end Description

end Nethernet
