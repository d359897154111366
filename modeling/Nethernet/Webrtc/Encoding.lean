import Mathlib.Algebra.Group.Nat.Defs
import Nethernet.Webrtc.Description

/-! A description written as SDP, and what is read back of it.

The SDP writer and the candidate writer are third party, as the readers are. `ReadsBack` states what is
relied on: attribute lines come back in order, trimmed and split at the first colon. -/

set_option autoImplicit false

namespace Nethernet
open Foundation

/-! ## Documents -/

structure Origin where
  username : String
  sessionId : UInt64
  sessionVersion : Nat
  networkType : String
  addressType : String
  unicastAddress : String

structure MediaName where
  media : String
  port : Nat
  protos : List String
  formats : List String

structure ConnectionInformation where
  networkType : String
  addressType : String
  address : String

structure SdpMedia where
  mediaName : MediaName
  connectionInformation : ConnectionInformation
  attributes : List Attribute

structure SdpDocument where
  version : Nat
  origin : Origin
  sessionName : String
  -- the start and stop time of each `t=` line
  timeDescriptions : List (Nat × Nat)
  attributes : List Attribute
  media : List SdpMedia

namespace Attribute

/-- The text of an attribute after `a=`. -/
def line (attr : Attribute) : List Char :=
  match attr.value with
  | some value => attr.key.toList ++ ':' :: value.toList
  | none => attr.key.toList

def reread (attr : Attribute) : Attribute := readAttribute attr.line

end Attribute

namespace SdpMedia

-- `with_value_attribute`
def withValue (media : SdpMedia) (key value : String) : SdpMedia :=
  { media with attributes := media.attributes ++ [⟨key, some value⟩] }

def withIceCredentials (media : SdpMedia) (ufrag pwd : String) : SdpMedia :=
  (media.withValue "ice-ufrag" ufrag).withValue "ice-pwd" pwd

def withFingerprint (media : SdpMedia) (algorithm value : String) : SdpMedia :=
  media.withValue "fingerprint" (algorithm ++ " " ++ value)

def withCandidate (media : SdpMedia) (value : String) : SdpMedia := media.withValue "candidate" value

end SdpMedia

/-! ## Writing -/

def sctpPort : Nat := 5000

def connectionRole : DtlsRole → String
  | .server => "actpass"
  | _ => "active"

/-- The role a reader takes from the text of a role. -/
def DtlsRole.announced : DtlsRole → DtlsRole
  | .server => .server
  | _ => .client

structure SdpCrates extends WebrtcCrates where
  marshal : SdpDocument → String
  marshalCandidate : Candidate → String
  -- what of a candidate its text carries
  Facts : Type
  facts : Candidate → Facts

namespace Description

def dataChannelMedia (attributes : List Attribute) : SdpMedia where
  mediaName := ⟨"application", 9, ["UDP", "DTLS", "SCTP"], ["webrtc-datachannel"]⟩
  connectionInformation := ⟨"IN", "IP4", "0.0.0.0"⟩
  attributes := attributes

def baseMedia (description : Description) : SdpMedia :=
  dataChannelMedia []
    |>.withIceCredentials description.ice.ufrag description.ice.pwd
    |>.withFingerprint description.fingerprint.1 description.fingerprint.2
    |>.withValue "setup" (connectionRole description.dtlsRole)
    |>.withValue "mid" "0"
    |>.withValue "sctp-port" (toString sctpPort)
    |>.withValue "max-message-size" (toString description.sctpMaxMessageSize)

def fixedAttributes : List Attribute :=
  [⟨"group", some "BUNDLE 0"⟩, ⟨"extmap-allow-mixed", none⟩, ⟨"msid-semantic", some " WMS"⟩]

-- the id of a session is the time it is written at
def session (sessionId : UInt64) (media : SdpMedia) (identity : Option String) : SdpDocument where
  version := 0
  origin := ⟨"-", sessionId, 2, "IN", "IP4", "127.0.0.1"⟩
  sessionName := "-"
  timeDescriptions := [(0, 0)]
  attributes := fixedAttributes ++ identity.toList.map fun identity => ⟨"identity", some identity⟩
  media := [media]

variable (crates : SdpCrates)

def attributeValue (index : Nat) (candidate : crates.Candidate) (ufrag : String) : String :=
  crates.marshalCandidate candidate ++ " generation 0 ufrag " ++ ufrag ++ " network-id " ++ toString index ++
    " network-cost 0"

/-- Leaves out candidates. -/
def encodeTrickle (sessionId : UInt64) (description : Description) : String :=
  crates.marshal (session sessionId (description.baseMedia.withValue "ice-options" "trickle") description.identity)

-- each candidate with its index as the network id
def withCandidates (media : SdpMedia) (candidates : List crates.Candidate) (ufrag : String) : SdpMedia :=
  candidates.zipIdx.foldl (fun media entry => media.withCandidate (attributeValue crates entry.2 entry.1 ufrag)) media

/-- Embeds the candidates. -/
def encodeFull (sessionId : UInt64) (description : Description) (candidates : List crates.Candidate) : String :=
  crates.marshal (session sessionId ((withCandidates crates description.baseMedia candidates
    description.ice.ufrag).withValue "end-of-candidates" "") description.identity)

end Description

/-! ## What is relied on -/

def LineSafe (text : List Char) : Prop := '\n' ∉ text ∧ '\r' ∉ text

instance (text : List Char) : Decidable (LineSafe text) := inferInstanceAs (Decidable (_ ∧ _))

structure SdpCrates.ReadsBack (crates : SdpCrates) : Prop where
  unmarshal_marshal : ∀ (sessionId : UInt64) (attributes : List Attribute) (identity : Option String),
    let document := Description.session sessionId (Description.dataChannelMedia attributes) identity
    (∀ attr ∈ document.attributes ++ attributes, LineSafe attr.line) →
    crates.unmarshal (crates.marshal document) =
      .ok ⟨document.attributes.map Attribute.reread, [⟨attributes.map Attribute.reread⟩]⟩
  -- extensions behind the related address are skipped
  unmarshal_candidate : ∀ candidate extension, ∃ read,
    crates.unmarshalCandidate (crates.marshalCandidate candidate ++ " generation " ++ extension) = .ok read ∧
      crates.facts read = crates.facts candidate
  -- a candidate is one line of text that starts with its foundation
  candidate_line : ∀ candidate, LineSafe (crates.marshalCandidate candidate).toList
  candidate_bare : ∀ candidate rest,
    stripPrefix "candidate:".toList ((crates.marshalCandidate candidate).toList ++ rest) = none

/-! ## Lines -/

-- what reading a line leaves of a value at its end
def trimEnd (text : String) : String := String.ofList (text.toList.rdropWhile isWhitespace)

theorem rdropWhile_append_ink (before value : List Char) {separator : Char} (bare : isWhitespace separator = false) :
    (before ++ separator :: value).rdropWhile isWhitespace = before ++ separator :: value.rdropWhile isWhitespace := by
  induction value using List.reverseRecOn with
  | nil => exact List.rdropWhile_concat_neg _ _ _ (by simp [bare])
  | append_singleton value c ih =>
    rw [← List.cons_append, ← List.append_assoc]
    by_cases blank : isWhitespace c = true
    · rw [List.rdropWhile_concat_pos _ _ _ blank, List.rdropWhile_concat_pos _ _ _ blank, ih]
    · rw [List.rdropWhile_concat_neg _ _ _ blank, List.rdropWhile_concat_neg _ _ _ blank, List.append_assoc,
        List.cons_append]

theorem trim_of_ink {key : List Char} (value : List Char) {separator : Char} (ink : ∀ c ∈ key, isWhitespace c = false)
    (bare : isWhitespace separator = false) :
    trim (key ++ separator :: value) = key ++ separator :: value.rdropWhile isWhitespace := by
  have kept : (key ++ separator :: value).dropWhile isWhitespace = key ++ separator :: value := by
    cases key with
    | nil => exact List.dropWhile_cons_of_neg (by simp [bare])
    | cons c rest => exact List.dropWhile_cons_of_neg (by simp [ink c List.mem_cons_self])
  rw [trim, kept, rdropWhile_append_ink key value bare]

theorem trimEnd_of_ink {text : String} (ink : ∀ c ∈ text.toList, isWhitespace c = false) : trimEnd text = text := by
  have kept : text.toList.rdropWhile isWhitespace = text.toList :=
    List.rdropWhile_eq_self_iff.mpr fun nonempty => by rw [ink _ (List.getLast_mem nonempty)]; decide
  rw [trimEnd, kept, String.ofList_toList]

/-- A key that is read back whole. -/
def PlainKey (key : String) : Prop := ':' ∉ key.toList ∧ ∀ c ∈ key.toList, isWhitespace c = false

instance (key : String) : Decidable (PlainKey key) := inferInstanceAs (Decidable (_ ∧ _))

variable {key : String}

namespace Attribute

theorem reread_value (plain : PlainKey key) (value : String) :
    reread ⟨key, some value⟩ = ⟨key, some (trimEnd value)⟩ := by
  simp only [reread, line, readAttribute, trim_of_ink value.toList plain.2 (show isWhitespace ':' = false by decide),
    splitOnce_append _ plain.1, String.ofList_toList, trimEnd]

end Attribute

theorem findAttribute_reread_cons (plain : PlainKey key) (value wanted : String) (rest : List Attribute) :
    findAttribute ((⟨key, some value⟩ :: rest).map Attribute.reread) wanted =
      if key = wanted then some ⟨key, some (trimEnd value)⟩ else findAttribute (rest.map Attribute.reread) wanted := by
  rw [List.map_cons, Attribute.reread_value plain, findAttribute, List.find?_cons]
  by_cases same : key = wanted
  · simp [same]
  · simp [same, findAttribute]

/-! ## Reading back -/

variable {description : Description} {attributes : List Attribute}

namespace Description
variable {crates : SdpCrates}

def baseAttributes (description : Description) : List Attribute :=
  [⟨"ice-ufrag", some description.ice.ufrag⟩, ⟨"ice-pwd", some description.ice.pwd⟩,
    ⟨"fingerprint", some (description.fingerprint.1 ++ " " ++ description.fingerprint.2)⟩,
    ⟨"setup", some (connectionRole description.dtlsRole)⟩, ⟨"mid", some "0"⟩, ⟨"sctp-port", some (toString sctpPort)⟩,
    ⟨"max-message-size", some (toString description.sctpMaxMessageSize)⟩]

theorem baseMedia_eq (description : Description) : description.baseMedia = dataChannelMedia description.baseAttributes := rfl

def candidateAttribute (crates : SdpCrates) (ufrag : String) (entry : crates.Candidate × Nat) : Attribute :=
  ⟨"candidate", some (attributeValue crates entry.2 entry.1 ufrag)⟩

theorem withCandidates_eq (attributes : List Attribute) (candidates : List crates.Candidate) (ufrag : String) :
    withCandidates crates (dataChannelMedia attributes) candidates ufrag =
      dataChannelMedia (attributes ++ candidates.zipIdx.map (candidateAttribute crates ufrag)) := by
  unfold withCandidates
  generalize candidates.zipIdx = entries
  induction entries generalizing attributes with
  | nil => rw [List.foldl_nil, List.map_nil, List.append_nil]
  | cons entry rest ih =>
    have added : (dataChannelMedia attributes).withCandidate (attributeValue crates entry.2 entry.1 ufrag) =
        dataChannelMedia (attributes ++ [candidateAttribute crates ufrag entry]) := rfl
    rw [List.foldl_cons, added, ih, List.map_cons, List.append_assoc, List.singleton_append]

/-- A description as its reader sees it. -/
def announced (description : Description) : Description :=
  { description with dtlsRole := description.dtlsRole.announced }

/-- The texts of a description stay within their lines, and its size is a `u32`. -/
structure Writable (description : Description) : Prop where
  ufrag : LineSafe description.ice.ufrag.toList
  pwd : LineSafe description.ice.pwd.toList
  fingerprint : LineSafe (description.fingerprint.1 ++ " " ++ description.fingerprint.2).toList
  identity : ∀ identity ∈ description.identity, LineSafe identity.toList
  size : description.sctpMaxMessageSize < 2 ^ 32

theorem parseSetup_connectionRole (role : DtlsRole) : parseSetup (trimEnd (connectionRole role)) = .ok role.announced := by
  cases role <;> decide

theorem parseMaxMessageSize_decimal {media : MediaDescription} {size : Nat} (fits : size < 2 ^ 32)
    (found : mediaAttribute media "max-message-size" = .ok (trimEnd (toString size))) :
    parseMaxMessageSize media = .ok size := by
  have digits : (toString size).toList = size.repr.toList := rfl
  rw [trimEnd_of_ink fun c member => ink_of_isDigit (isDigit_of_mem_repr (digits ▸ member))] at found
  rw [parseMaxMessageSize, found]
  simp only [digits, parseUnsigned_repr fits]
  rfl

/-- What is read of the attributes of a description, whatever follows them. -/
theorem parseMedia_base (description : Description) (more attributes : List Attribute)
    (fits : description.sctpMaxMessageSize < 2 ^ 32) :
    let media : MediaDescription := ⟨(description.baseAttributes ++ more).map Attribute.reread⟩
    parseMedia crates.toWebrtcCrates ⟨attributes, [media]⟩ media =
      (parseFingerprint (trimEnd (description.fingerprint.1 ++ " " ++ description.fingerprint.2))).bind fun fingerprint =>
        .ok (⟨⟨trimEnd description.ice.ufrag, trimEnd description.ice.pwd⟩, description.dtlsRole.announced, fingerprint,
            description.sctpMaxMessageSize, (findAttribute attributes "identity").bind (·.value)⟩,
          parseCandidates crates.toWebrtcCrates media) := by
  intro media
  have found : mediaAttribute media "ice-ufrag" = .ok (trimEnd description.ice.ufrag) ∧
      mediaAttribute media "ice-pwd" = .ok (trimEnd description.ice.pwd) ∧
      mediaAttribute media "fingerprint" =
        .ok (trimEnd (description.fingerprint.1 ++ " " ++ description.fingerprint.2)) ∧
      mediaAttribute media "setup" = .ok (trimEnd (connectionRole description.dtlsRole)) ∧
      mediaAttribute media "max-message-size" = .ok (trimEnd (toString description.sctpMaxMessageSize)) := by
    simp (disch := decide) only [media, baseAttributes, List.cons_append, mediaAttribute, findAttribute_reread_cons,
      String.reduceEq, if_true, if_false, and_self]
  obtain ⟨ufrag, pwd, fingerprint, setup, size⟩ := found
  simp only [parseMedia, ufrag, pwd, fingerprint, setup, parseSetup_connectionRole, parseMaxMessageSize_decimal fits size,
    bind, Except.bind, pure, Except.pure]

/-! ## Candidates -/

theorem attributeValue_eq (index : Nat) (candidate : crates.Candidate) (ufrag : String) :
    attributeValue crates index candidate ufrag = crates.marshalCandidate candidate ++ " generation " ++
      ("0 ufrag " ++ ufrag ++ " network-id " ++ toString index ++ " network-cost 0") := by
  apply String.toList_injective
  simp [attributeValue]

theorem trimEnd_attributeValue (index : Nat) (candidate : crates.Candidate) (ufrag : String) :
    trimEnd (attributeValue crates index candidate ufrag) = attributeValue crates index candidate ufrag := by
  have shape : (attributeValue crates index candidate ufrag).toList = (crates.marshalCandidate candidate ++
      " generation 0 ufrag " ++ ufrag ++ " network-id " ++ toString index ++ " network-cost ").toList ++ ['0'] := by
    simp [attributeValue]
  rw [trimEnd, shape, List.rdropWhile_concat_neg _ _ _ (by decide), ← shape, String.ofList_toList]

theorem unmarshal_attributeValue (laws : crates.ReadsBack) (index : Nat) (candidate : crates.Candidate) (ufrag : String) :
    ∃ read, crates.unmarshalCandidate (attributeValue crates index candidate ufrag) = .ok read ∧
      crates.facts read = crates.facts candidate := by
  rw [attributeValue_eq]
  exact laws.unmarshal_candidate candidate _

/-- A candidate is read back from its attribute. -/
theorem parseIceCandidate_attributeValue (laws : crates.ReadsBack) (index : Nat) (candidate : crates.Candidate)
    (ufrag : String) : ∃ read, parseIceCandidate crates.toWebrtcCrates (attributeValue crates index candidate ufrag) =
      .ok read ∧ crates.facts read = crates.facts candidate := by
  obtain ⟨read, unmarshalled, same⟩ := unmarshal_attributeValue laws index candidate ufrag
  refine ⟨read, ?_, same⟩
  have bare : stripPrefix "candidate:".toList (attributeValue crates index candidate ufrag).toList = none := by
    rw [attributeValue_eq, String.append_assoc, String.toList_append]
    exact laws.candidate_bare candidate _
  rw [parseIceCandidate, bare, Option.map_none, Option.getD_none, unmarshalled]
  rfl

theorem parseCandidates_append (first second : List Attribute) :
    parseCandidates crates.toWebrtcCrates ⟨first ++ second⟩ =
      parseCandidates crates.toWebrtcCrates ⟨first⟩ ++ parseCandidates crates.toWebrtcCrates ⟨second⟩ :=
  List.filterMap_append

theorem parseCandidates_other (other : ∀ attr ∈ attributes, attr.key ≠ "candidate") :
    parseCandidates crates.toWebrtcCrates ⟨attributes⟩ = [] := by
  rw [parseCandidates, List.filterMap_eq_nil_iff]
  intro attr member
  rw [if_neg (other attr member)]

theorem parseCandidates_candidates (laws : crates.ReadsBack) (ufrag : String) (entries : List (crates.Candidate × Nat)) :
    (parseCandidates crates.toWebrtcCrates
        ⟨(entries.map (candidateAttribute crates ufrag)).map Attribute.reread⟩).map crates.facts =
      entries.map fun entry => crates.facts entry.1 := by
  induction entries with
  | nil => rfl
  | cons entry rest ih =>
    obtain ⟨read, parsed, same⟩ := parseIceCandidate_attributeValue laws entry.2 entry.1 ufrag
    have head : (candidateAttribute crates ufrag entry).reread =
        ⟨"candidate", some (attributeValue crates entry.2 entry.1 ufrag)⟩ := by
      rw [candidateAttribute, Attribute.reread_value (by decide), trimEnd_attributeValue]
    simp only [parseCandidates, List.map_cons, head, List.filterMap_cons, if_true, Option.bind_some, parsed]
    simp only [Except.toOption, List.map_cons, same]
    exact congrArg _ ih

/-! ## Whole descriptions -/

theorem lineSafe_append {first second : List Char} : LineSafe (first ++ second) ↔ LineSafe first ∧ LineSafe second := by
  simp only [LineSafe, List.mem_append, not_or]
  tauto

theorem lineSafe_decimal (number : Nat) : LineSafe (toString number).toList :=
  ⟨not_mem_repr (by decide) number, not_mem_repr (by decide) number⟩

theorem lineSafe_value {value : String} (safeKey : LineSafe key.toList) (safe : LineSafe value.toList) :
    LineSafe (Attribute.line ⟨key, some value⟩) := by
  have colon : LineSafe [':'] := by decide
  have behind : LineSafe ([':'] ++ value.toList) := lineSafe_append.mpr ⟨colon, safe⟩
  exact lineSafe_append.mpr ⟨safeKey, behind⟩

theorem lineSafe_attributeValue (laws : crates.ReadsBack) (index : Nat) (candidate : crates.Candidate) {ufrag : String}
    (safe : LineSafe ufrag.toList) : LineSafe (attributeValue crates index candidate ufrag).toList := by
  simp only [attributeValue, String.toList_append, lineSafe_append]
  exact ⟨⟨⟨⟨⟨laws.candidate_line candidate, by decide⟩, safe⟩, by decide⟩, lineSafe_decimal index⟩, by decide⟩

theorem Writable.session (writable : description.Writable) (sessionId : UInt64) (media : SdpMedia) :
    ∀ attr ∈ (session sessionId media description.identity).attributes, LineSafe attr.line := by
  have fixedSafe : ∀ attr ∈ fixedAttributes, LineSafe attr.line := by decide
  intro attr member
  rcases List.mem_append.mp member with fixed | named
  · exact fixedSafe attr fixed
  · obtain ⟨identity, given, rfl⟩ := List.mem_map.mp named
    exact lineSafe_value (by decide) (writable.identity identity (Option.mem_toList.mp given))

theorem Writable.base (writable : description.Writable) : ∀ attr ∈ description.baseAttributes, LineSafe attr.line := by
  have role : LineSafe (connectionRole description.dtlsRole).toList := by
    cases description.dtlsRole <;> decide
  simp only [baseAttributes, List.forall_mem_cons]
  exact ⟨lineSafe_value (by decide) writable.ufrag, lineSafe_value (by decide) writable.pwd,
    lineSafe_value (by decide) writable.fingerprint, lineSafe_value (by decide) role, by decide,
    lineSafe_value (by decide) (lineSafe_decimal _), lineSafe_value (by decide) (lineSafe_decimal _), nofun⟩

theorem identity_session (sessionId : UInt64) (media : SdpMedia) (identity : Option String) :
    (findAttribute ((session sessionId media identity).attributes.map Attribute.reread) "identity").bind (·.value) =
      identity.map trimEnd := by
  have fixed : fixedAttributes.map Attribute.reread = fixedAttributes := by decide
  rw [session, List.map_append, fixed]
  cases identity with
  | none => rfl
  | some identity =>
    have named : Attribute.reread ⟨"identity", some identity⟩ = ⟨"identity", some (trimEnd identity)⟩ :=
      Attribute.reread_value (by decide) identity
    simp [findAttribute, fixedAttributes, named]

/-- The description that is read back, if its fingerprint reads at all. -/
def reread (description : Description) : Except ProtocolError Description :=
  (parseFingerprint (trimEnd (description.fingerprint.1 ++ " " ++ description.fingerprint.2))).map fun fingerprint =>
    { ice := ⟨trimEnd description.ice.ufrag, trimEnd description.ice.pwd⟩
      dtlsRole := description.dtlsRole.announced
      fingerprint := fingerprint
      sctpMaxMessageSize := description.sctpMaxMessageSize
      identity := description.identity.map trimEnd }

theorem parse_marshal (laws : crates.ReadsBack) (writable : description.Writable) (sessionId : UInt64)
    {more : List Attribute} (safe : ∀ attr ∈ more, LineSafe attr.line) :
    parse crates.toWebrtcCrates (crates.marshal (session sessionId
        (dataChannelMedia (description.baseAttributes ++ more)) description.identity)) =
      description.reread.map (·, parseCandidates crates.toWebrtcCrates ⟨more.map Attribute.reread⟩) := by
  have lines := laws.unmarshal_marshal sessionId (description.baseAttributes ++ more) description.identity fun attr member => by
    rcases List.mem_append.mp member with head | media
    · exact writable.session sessionId _ attr head
    · rcases List.mem_append.mp media with base | added
      · exact writable.base attr base
      · exact safe attr added
  have bare : parseCandidates crates.toWebrtcCrates ⟨description.baseAttributes.map Attribute.reread⟩ = [] := by
    apply parseCandidates_other
    simp (disch := decide) only [baseAttributes, List.map_cons, List.map_nil, Attribute.reread_value, List.forall_mem_cons]
    decide
  rw [parse, lines]
  show parseMedia _ _ _ = _
  rw [parseMedia_base description more _ writable.size, identity_session, List.map_append, parseCandidates_append, bare,
    List.nil_append, reread]
  cases parseFingerprint _ <;> rfl

/-- No text of a description ends in whitespace, and the blank in the fingerprint is the first one. -/
structure Survives (description : Description) : Prop where
  ufrag : trimEnd description.ice.ufrag = description.ice.ufrag
  pwd : trimEnd description.ice.pwd = description.ice.pwd
  algorithm : ' ' ∉ description.fingerprint.1.toList
  digest : description.fingerprint.2 ≠ "" ∧ trimEnd description.fingerprint.2 = description.fingerprint.2
  identity : ∀ identity ∈ description.identity, trimEnd identity = identity

theorem trimEnd_eq_self_iff {text : String} :
    trimEnd text = text ↔ text.toList.rdropWhile isWhitespace = text.toList := by
  rw [trimEnd, ← String.toList_inj, String.toList_ofList]

-- a blank behind the algorithm goes with an empty digest
theorem rdropWhile_fingerprint_iff (algorithm digest : List Char) :
    (algorithm ++ ' ' :: digest).rdropWhile isWhitespace = algorithm ++ ' ' :: digest ↔
      digest ≠ [] ∧ digest.rdropWhile isWhitespace = digest := by
  induction digest using List.reverseRecOn with
  | nil =>
    have blank : isWhitespace ' ' = true := by decide
    constructor
    · intro kept
      rw [List.rdropWhile_concat_pos _ _ _ blank] at kept
      have shorter := (List.rdropWhile_prefix isWhitespace (l := algorithm)).length_le
      rw [kept, List.length_append, List.length_singleton] at shorter
      omega
    · intro ⟨nonempty, _⟩
      exact absurd rfl nonempty
  | append_singleton digest last _ =>
    rw [← List.cons_append, ← List.append_assoc]
    simp only [List.rdropWhile_eq_self_iff, List.getLast_append_singleton]
    simp

theorem parseFingerprint_trimEnd_iff {algorithm digest : String} :
    parseFingerprint (trimEnd (algorithm ++ " " ++ digest)) = .ok (algorithm, digest) ↔
      ' ' ∉ algorithm.toList ∧ digest ≠ "" ∧ trimEnd digest = digest := by
  have shape : (algorithm ++ " " ++ digest).toList = algorithm.toList ++ ' ' :: digest.toList := by simp
  have nonempty : digest ≠ "" ↔ digest.toList ≠ [] := by simp
  rw [trimEnd_eq_self_iff, nonempty, ← rdropWhile_fingerprint_iff algorithm.toList, trimEnd, shape]
  constructor
  · intro parsed
    rw [parseFingerprint, String.toList_ofList] at parsed
    split at parsed
    · rename_i before after found
      simp only [Except.ok.injEq, Prod.mk.injEq] at parsed
      obtain ⟨rfl, rfl⟩ := parsed
      obtain ⟨whole, absent⟩ := splitOnce_eq_some found
      simp only [String.toList_ofList] at whole ⊢
      exact ⟨absent, whole⟩
    · cases parsed
  · intro ⟨absent, whole⟩
    rw [whole, parseFingerprint, String.toList_ofList, splitOnce_append _ absent]
    simp only [String.ofList_toList]

theorem reread_eq_announced_iff (description : Description) :
    description.reread = .ok description.announced ↔ description.Survives := by
  have identities : description.identity.map trimEnd = description.identity ↔
      ∀ identity ∈ description.identity, trimEnd identity = identity := by
    cases description.identity <;> simp
  constructor
  · intro same
    rw [reread] at same
    cases read : parseFingerprint (trimEnd (description.fingerprint.1 ++ " " ++ description.fingerprint.2)) with
    | error error =>
      rw [read] at same
      cases same
    | ok fingerprint =>
      rw [read] at same
      simp only [Except.map, announced, Except.ok.injEq, Description.mk.injEq] at same
      obtain ⟨ice, -, rfl, -, identity⟩ := same
      obtain ⟨algorithm, digest⟩ := parseFingerprint_trimEnd_iff.mp read
      exact ⟨congrArg Credentials.ufrag ice, congrArg Credentials.pwd ice, algorithm, digest, identities.mp identity⟩
  · intro survives
    rw [reread, parseFingerprint_trimEnd_iff.mpr ⟨survives.algorithm, survives.digest⟩, survives.ufrag, survives.pwd,
      identities.mpr survives.identity]
    rfl

theorem reread_map_iff {parsed : Description} {written read : List crates.Candidate} :
    description.reread.map (·, written) = .ok (parsed, read) ↔ description.reread = .ok parsed ∧ read = written := by
  cases description.reread with
  | error error => simp [Except.map]
  | ok known => simp [Except.map, eq_comm (a := read)]

theorem parse_encodeFull (laws : crates.ReadsBack) (writable : description.Writable) (sessionId : UInt64)
    (candidates : List crates.Candidate) :
    ∃ read, read.map crates.facts = candidates.map crates.facts ∧
      parse crates.toWebrtcCrates (encodeFull crates sessionId description candidates) = description.reread.map (·, read) := by
  have safe : ∀ attr ∈ candidates.zipIdx.map (candidateAttribute crates description.ice.ufrag) ++
      [⟨"end-of-candidates", some ""⟩], LineSafe attr.line := by
    intro attr member
    rcases List.mem_append.mp member with embedded | ends
    · obtain ⟨entry, -, rfl⟩ := List.mem_map.mp embedded
      exact lineSafe_value (by decide) (lineSafe_attributeValue laws entry.2 entry.1 writable.ufrag)
    · rw [List.mem_singleton.mp ends]
      decide
  have last : parseCandidates crates.toWebrtcCrates ⟨[(⟨"end-of-candidates", some ""⟩ : Attribute)].map Attribute.reread⟩ =
      [] := parseCandidates_other (by decide)
  have written : encodeFull crates sessionId description candidates = crates.marshal (session sessionId (dataChannelMedia
      (description.baseAttributes ++ (candidates.zipIdx.map (candidateAttribute crates description.ice.ufrag) ++
        [⟨"end-of-candidates", some ""⟩]))) description.identity) := by
    rw [encodeFull, baseMedia_eq, withCandidates_eq, ← List.append_assoc]
    rfl
  refine ⟨_, ?_, by rw [written, parse_marshal laws writable sessionId safe]⟩
  rw [List.map_append, parseCandidates_append, last, List.append_nil, parseCandidates_candidates laws]
  calc candidates.zipIdx.map (fun entry => crates.facts entry.1)
      = (candidates.zipIdx.map Prod.fst).map crates.facts := List.map_map.symm
    _ = candidates.map crates.facts := by rw [List.zipIdx_map_fst]

theorem parse_encodeTrickle (laws : crates.ReadsBack) (writable : description.Writable) (sessionId : UInt64) :
    parse crates.toWebrtcCrates (encodeTrickle crates sessionId description) = description.reread.map (·, []) := by
  have safe : ∀ attr ∈ [(⟨"ice-options", some "trickle"⟩ : Attribute)], LineSafe attr.line := by decide
  have none : parseCandidates crates.toWebrtcCrates ⟨[(⟨"ice-options", some "trickle"⟩ : Attribute)].map Attribute.reread⟩ =
      [] := parseCandidates_other (by decide)
  have written : encodeTrickle crates sessionId description = crates.marshal (session sessionId (dataChannelMedia
    (description.baseAttributes ++ [⟨"ice-options", some "trickle"⟩])) description.identity) := rfl
  rw [written, parse_marshal laws writable sessionId safe, none]

end Description

/-! ## Crates that keep the laws -/

namespace LineCrates

def lines (attributes : List Attribute) : List (List Char) := attributes.map fun attr => 'a' :: '=' :: attr.line

def readLines (lines : List (List Char)) : List Attribute := lines.map fun line => readAttribute (line.drop 2)

def media : List Char := "m=application".toList

/-- Attribute lines only, with the media section behind its own line; a candidate is a port. -/
def crates : SdpCrates where
  Candidate := UInt16
  unmarshal text :=
    let all := text.toList.splitOn '\n'
    .ok ⟨readLines (all.takeWhile (· ≠ media)), [⟨readLines (all.dropWhile (· ≠ media)).tail⟩]⟩
  unmarshalCandidate text :=
    match splitOnce ' ' text.toList with
    | none => .error "no port"
    | some (port, _) => ((parseUnsigned (2 ^ 16) port).map UInt16.ofNat).mapError ParseIntError.text
  marshal document :=
    String.ofList (['\n'].intercalate (lines document.attributes ++ media :: document.media.flatMap (lines ·.attributes)))
  marshalCandidate port := toString port.toNat
  Facts := UInt16
  facts := id

theorem readLines_lines (attributes : List Attribute) : readLines (lines attributes) = attributes.map Attribute.reread := by
  induction attributes with
  | nil => rfl
  | cons attr rest ih => exact congrArg (List.cons attr.reread) ih

theorem ne_media_of_mem_lines {line : List Char} (member : line ∈ lines attributes) : line ≠ media := by
  obtain ⟨attr, -, rfl⟩ := List.mem_map.mp member
  intro same
  exact absurd (List.cons.inj same).1 (by decide)

theorem unbroken_lines (safe : ∀ attr ∈ attributes, LineSafe attr.line) : ∀ line ∈ lines attributes, '\n' ∉ line := by
  intro line member
  obtain ⟨attr, inside, rfl⟩ := List.mem_map.mp member
  simp [(safe attr inside).1]

theorem unmarshal_marshal {document : SdpDocument} (safe : ∀ attr ∈ document.attributes, LineSafe attr.line)
    {attributes : List Attribute} (safeMedia : ∀ attr ∈ attributes, LineSafe attr.line)
    (only : document.media.flatMap (lines ·.attributes) = lines attributes) :
    crates.unmarshal (crates.marshal document) =
      .ok ⟨document.attributes.map Attribute.reread, [⟨attributes.map Attribute.reread⟩]⟩ := by
  have unbroken : ∀ line ∈ lines document.attributes ++ media :: lines attributes, '\n' ∉ line := by
    intro line member
    rcases List.mem_append.mp member with head | behind
    · exact unbroken_lines safe line head
    · rcases List.mem_cons.mp behind with rfl | inside
      · decide
      · exact unbroken_lines safeMedia line inside
  have split := List.splitOn_intercalate '\n' unbroken (by simp)
  have before : (lines document.attributes ++ media :: lines attributes).takeWhile (· ≠ media) = lines document.attributes := by
    rw [List.takeWhile_append_of_pos fun line member => by simpa using ne_media_of_mem_lines member]
    simp
  have after : ((lines document.attributes ++ media :: lines attributes).dropWhile (· ≠ media)).tail = lines attributes := by
    rw [List.dropWhile_append_of_pos fun line member => by simpa using ne_media_of_mem_lines member]
    simp
  simp only [crates, only, String.toList_ofList, split, before, after, readLines_lines]

theorem readsBack : crates.ReadsBack where
  unmarshal_marshal sessionId attributes identity safe :=
    unmarshal_marshal (fun attr member => safe attr (List.mem_append_left _ member))
      (fun attr member => safe attr (List.mem_append_right _ member)) (List.append_nil _)
  unmarshal_candidate port extension := by
    refine ⟨port, ?_, rfl⟩
    have fits : port.toNat < 2 ^ 16 := port.toNat_lt
    have shape : (toString port.toNat ++ " generation " ++ extension).toList =
        port.toNat.repr.toList ++ ' ' :: ("generation ".toList ++ extension.toList) := by
      simp
    simp only [crates, shape, splitOnce_append _ (not_mem_repr (show ' '.isDigit = false by decide) port.toNat),
      parseUnsigned_repr fits]
    exact congrArg Except.ok UInt16.ofNat_toNat
  candidate_line port := Description.lineSafe_decimal port.toNat
  candidate_bare port rest := by
    rw [Option.eq_none_iff_forall_ne_some]
    intro stripped found
    have same : port.toNat.repr.toList ++ rest = "candidate:".toList ++ stripped := stripPrefix_eq_some found
    cases digits : port.toNat.repr.toList with
    | nil => exact absurd digits (by rw [Nat.toList_repr]; exact Nat.toDigits_ne_nil)
    | cons first others =>
      rw [digits] at same
      have letter : first = 'c' := (List.cons.inj same).1
      exact absurd (isDigit_of_mem_repr (digits ▸ List.mem_cons_self)) (by rw [letter]; decide)

-- an answer's description and the ports of its candidates
def sample : Description := ⟨⟨"abcd", "0123456789abcdef01234567"⟩, .auto, ("sha-256", "AB:CD:EF"), 262144, some "e30="⟩

def ports : List crates.Candidate := [(5000 : UInt16), (5001 : UInt16)]

theorem sample_writable : sample.Writable := ⟨by decide, by decide, by decide, by decide, by decide⟩

theorem sample_survives : sample.Survives := ⟨by decide, by decide, by decide, by decide, by decide⟩

end LineCrates

namespace Description
variable {crates : SdpCrates}

/-- A description reads back from either of its texts, with its role as announced, exactly if no text in it
ends in whitespace and its algorithm has no blank. All its candidates are read back, in order. -/
theorem description_survives_iff (laws : crates.ReadsBack) {description : Description} (writable : description.Writable)
    (sessionId : UInt64) (candidates : List crates.Candidate) :
    ((∃ read, parse crates.toWebrtcCrates (encodeFull crates sessionId description candidates) =
      .ok (description.announced, read)) ↔ description.Survives) ∧
    (parse crates.toWebrtcCrates (encodeTrickle crates sessionId description) = .ok (description.announced, []) ↔
      description.Survives) ∧
    ∀ parsed read, parse crates.toWebrtcCrates (encodeFull crates sessionId description candidates) = .ok (parsed, read) →
      description.reread = .ok parsed ∧ read.map crates.facts = candidates.map crates.facts := by
  obtain ⟨read, same, full⟩ := parse_encodeFull laws writable sessionId candidates
  rw [full, parse_encodeTrickle laws writable sessionId]
  simp only [reread_map_iff, reread_eq_announced_iff, and_true, true_and]
  constructor
  · exact ⟨fun ⟨_, survives, _⟩ => survives, fun survives => ⟨read, survives, rfl⟩⟩
  · rintro parsed _ ⟨known, rfl⟩
    exact ⟨known, same⟩

theorem sample_reads_back :
    ∃ read, parse LineCrates.crates.toWebrtcCrates (encodeFull LineCrates.crates 1 LineCrates.sample LineCrates.ports) =
      .ok ({ LineCrates.sample with dtlsRole := .client }, read) :=
  (description_survives_iff LineCrates.readsBack LineCrates.sample_writable 1 LineCrates.ports).1.mpr
    LineCrates.sample_survives

end Description

end Nethernet
