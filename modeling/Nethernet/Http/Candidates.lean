import Mathlib.Data.List.Sort
import Nethernet.Http.Signaler
import Nethernet.Session.Dtls

/-! Candidate lines of a description, and their rewriting in the answers of the HTTP server. -/

set_option autoImplicit false

namespace Nethernet
open Foundation Identity Http

/-! ## Candidate lines -/

inductive CandidateLineError where
  | tooFewTokens
  | missingTypeKeyword
  | unknownKind
  | invalidPort
  deriving DecidableEq, Repr

inductive CandidateKind where
  | host
  | srflx
  | prflx
  | relay
  deriving DecidableEq, Repr

namespace CandidateKind

def fromToken (token : List Char) : Option CandidateKind :=
  if token = "host".toList then some .host
  else if token = "srflx".toList then some .srflx
  else if token = "prflx".toList then some .prflx
  else if token = "relay".toList then some .relay
  else none

def isReflexiveOrRelayed (kind : CandidateKind) : Bool := kind ≠ .host

end CandidateKind

/-- A parsed `a=candidate:` line. -/
structure CandidateLine where
  transport : List Char
  address : String
  port : UInt16
  kind : CandidateKind
  deriving DecidableEq, Repr

namespace CandidateLine

def attributePrefix : String := "a=candidate:"
def translatedPriority : Nat := (100 <<< 24) ||| (65535 <<< 8) ||| 255
def translatedFoundation : UInt32 := 80000000

def isUdp (candidate : CandidateLine) : Bool := eqIgnoreAsciiCase candidate.transport "udp".toList

-- the transport, address, port, type keyword and kind are the tokens 2, 4, 5, 6 and 7
def tryFrom (line : List Char) : Except CandidateLineError CandidateLine :=
  match line.splitOn ' ' with
  | _ :: _ :: transport :: _ :: address :: port :: keyword :: kind :: _ =>
    if keyword ≠ "typ".toList then .error .missingTypeKeyword
    else
      match CandidateKind.fromToken kind with
      | none => .error .unknownKind
      | some kind =>
        match parseUnsigned (2 ^ 16) port with
        | .error _ => .error .invalidPort
        | .ok port => .ok ⟨transport, String.ofList address, UInt16.ofNat port, kind⟩
  | _ => .error .tooFewTokens

def translated (host : CandidateLine) (foundation : UInt32) (address : String) : String :=
  attributePrefix ++ toString foundation.toNat ++ " 1 " ++ String.ofList host.transport ++ " " ++
    toString translatedPriority ++ " " ++ address ++ " " ++ toString host.port.toNat ++ " typ srflx raddr " ++
    host.address ++ " rport " ++ toString host.port.toNat

-- the lines that parse, in order
def candidates (sdp : String) : List CandidateLine :=
  ((sdpLines sdp).filter fun line => attributePrefix.toList <+: line).filterMap fun line => (tryFrom line).toOption

end CandidateLine

/-! ## Advertised addresses -/

/-- Reading and writing addresses is the standard library's. -/
structure AddressText where
  parseIp : String → Option IpAddr
  displayIp : IpAddr → String

variable {candidate : CandidateLine} {values : List (List Char)} {address sdp : String}

namespace Candidates
variable (std : AddressText)

def normalized (address : String) : String :=
  match Endpoint.parse std.parseIp address with
  | none => address
  | some literal => std.displayIp literal

/-- The loop over foreign addresses and hosts. -/
structure Translation where
  candidates : List String := []
  emitted : List (String × UInt16) := []
  foundation : UInt32 := CandidateLine.translatedFoundation

def sameFamily : IpAddr → Option IpAddr → Bool
  | .v4 _, some (.v4 _) => true
  | .v6 _, some (.v6 _) => true
  | _, _ => false

namespace Translation

-- one candidate for each address and port
def add (target : IpAddr) (address : String) (state : Translation) (host : CandidateLine) : Translation :=
  if sameFamily target (Endpoint.parse std.parseIp host.address) ∧ (address, host.port) ∉ state.emitted then
    { candidates := state.candidates ++ [host.translated state.foundation address]
      emitted := (address, host.port) :: state.emitted
      foundation := state.foundation + 1 }
  else state

def addAddress (hosts : List CandidateLine) (state : Translation) (address : String) : Translation :=
  match Endpoint.parse std.parseIp address with
  | none => state
  | some target => hosts.foldl (add std target address) state

end Translation

def translatedCandidates (hosts : List CandidateLine) (foreign : List String) : List String :=
  (foreign.foldl (Translation.addAddress std hosts) {}).candidates

/-- The loop over the lines: the text so far, and the candidates still to be put behind the others. -/
structure Rewriting where
  out : String := ""
  seenCandidates : Bool := false
  translated : List String

namespace Rewriting

def push (state : Rewriting) (line : String) : Rewriting := { state with out := state.out ++ line ++ "\r\n" }

def drain (state : Rewriting) : Rewriting := { state.translated.foldl push state with translated := [] }

def keeps (held : List String) (line : List Char) : Bool :=
  match CandidateLine.tryFrom line with
  | .error _ => false
  | .ok candidate => candidate.kind.isReflexiveOrRelayed || decide (normalized std candidate.address ∈ held)

def line (held : List String) (state : Rewriting) (line : List Char) : Rewriting :=
  if CandidateLine.attributePrefix.toList <+: line then
    let state := { state with seenCandidates := true }
    if held ≠ [] ∧ keeps std held line = false then state else state.push (String.ofList line)
  else
    let state := if state.seenCandidates && !state.translated.isEmpty then state.drain else state
    state.push (String.ofList line)

end Rewriting

def gathered (sdp : String) : List String :=
  (CandidateLine.candidates sdp).map fun candidate => normalized std candidate.address

-- sets of addresses are lists; only membership is asked of them
def held (sdp : String) (allowed : List String) : List String :=
  (allowed.map (normalized std)).filter fun address => address ∈ gathered std sdp

-- Rust orders text by its bytes, which is the order of its characters
def foreign (sdp : String) (allowed : List String) : List String :=
  ((allowed.map (normalized std)).filter fun address => address ∉ gathered std sdp).insertionSort (· ≤ ·)

-- held hosts first, otherwise in their order
def hosts (sdp : String) (allowed : List String) : List CandidateLine :=
  let behind (host : CandidateLine) : Bool := decide (normalized std host.address ∉ held std sdp allowed)
  ((CandidateLine.candidates sdp).filter fun candidate => candidate.kind = .host && candidate.isUdp).insertionSort
    fun first second => behind first ≤ behind second

/-- Keeps only host candidates on allowed addresses and adds translated candidates for allowed
addresses not gathered. -/
def withAdvertisedCandidates (sdp : String) (allowed : List String) : String :=
  if allowed.isEmpty then sdp
  else
    let translated := translatedCandidates std (hosts std sdp allowed) (foreign std sdp allowed)
    if (held std sdp allowed).isEmpty && translated.isEmpty then sdp
    else
      let lines := (sdpLines sdp).filter fun line => !line.isEmpty
      (lines.foldl (Rewriting.line std (held std sdp allowed)) { translated := translated }).drain.out

/-! ## Lines of the rewritten text -/

def isBreak (c : Char) : Bool := c == '\r' || c == '\n'

abbrev Plain (text : List Char) : Prop := ∀ c ∈ text, isBreak c = false

theorem Plain.append {first second : List Char} (left : Plain first) (right : Plain second) :
    Plain (first ++ second) := by
  intro c member
  rcases List.mem_append.mp member with member | member
  · exact left c member
  · exact right c member

theorem plain_of_mem_sdpLines {line : List Char} (member : line ∈ sdpLines sdp) : Plain line :=
  fun c inside => (of_mem_splitOnP member c inside).2

theorem plain_repr (number : Nat) : Plain (toString number).toList := by
  intro c member
  have digit : c.isDigit = true := isDigit_of_mem_repr member
  unfold isBreak
  rw [Bool.or_eq_false_iff, beq_eq_false_iff_ne, beq_eq_false_iff_ne]
  constructor
  · rintro rfl
    exact absurd digit (by decide)
  · rintro rfl
    exact absurd digit (by decide)

theorem isLiteral_of_parse {target : IpAddr} (parsed : Endpoint.parse std.parseIp address = some target) {c : Char}
    (member : c ∈ address.toList) : ∀ byte ∈ String.utf8EncodeChar c, Endpoint.isLiteral byte = true := by
  unfold Endpoint.parse at parsed
  simp only at parsed
  split at parsed
  · cases parsed
  · rename_i literal
    simp only [Bool.or_eq_true, not_or, Bool.not_eq_true', Bool.not_eq_false] at literal
    intro byte inside
    apply List.all_eq_true.mp literal.2
    rw [utf8_eq_flatMap]
    exact List.mem_flatMap.mpr ⟨c, member, inside⟩

-- an address literal has no line break
theorem plain_of_parse {target : IpAddr} (parsed : Endpoint.parse std.parseIp address = some target) :
    Plain address.toList := by
  intro c member
  have bytes := isLiteral_of_parse std parsed member
  unfold isBreak
  rw [Bool.or_eq_false_iff, beq_eq_false_iff_ne, beq_eq_false_iff_ne]
  constructor
  · rintro rfl
    exact absurd (bytes 13 (by decide)) (by decide)
  · rintro rfl
    exact absurd (bytes 10 (by decide)) (by decide)

/-- The tokens that a translated candidate repeats. -/
structure Clean (candidate : CandidateLine) : Prop where
  transport : Plain candidate.transport
  address : Plain candidate.address.toList

theorem tokens_of_tryFrom {line : List Char} (parsed : CandidateLine.tryFrom line = .ok candidate) :
    candidate.transport ∈ line.splitOn ' ' ∧ candidate.address.toList ∈ line.splitOn ' ' := by
  unfold CandidateLine.tryFrom at parsed
  split at parsed
  · rename_i tokens
    split at parsed
    · cases parsed
    · split at parsed
      · cases parsed
      · split at parsed
        · cases parsed
        · cases parsed
          rw [tokens, String.toList_ofList]
          simp
  · cases parsed

theorem clean_of_tryFrom {line : List Char} (plain : Plain line) (parsed : CandidateLine.tryFrom line = .ok candidate) :
    Clean candidate := by
  have token {part : List Char} (member : part ∈ line.splitOn ' ') : Plain part :=
    fun c inside => plain c (of_mem_splitOnP member c inside).1
  obtain ⟨transport, address⟩ := tokens_of_tryFrom parsed
  exact ⟨token transport, token address⟩

theorem exists_line_of_mem_candidates (member : candidate ∈ CandidateLine.candidates sdp) :
    ∃ line ∈ sdpLines sdp, CandidateLine.tryFrom line = .ok candidate := by
  obtain ⟨line, among, parsed⟩ := List.mem_filterMap.mp member
  refine ⟨line, (List.mem_filter.mp among).1, ?_⟩
  cases outcome : CandidateLine.tryFrom line with
  | error e =>
    rw [outcome] at parsed
    cases parsed
  | ok found =>
    rw [outcome] at parsed
    cases parsed
    rfl

theorem clean_of_mem_candidates (member : candidate ∈ CandidateLine.candidates sdp) : Clean candidate := by
  obtain ⟨line, among, parsed⟩ := exists_line_of_mem_candidates member
  exact clean_of_tryFrom (plain_of_mem_sdpLines among) parsed

/-- One whole candidate line. -/
structure IsCandidate (text : String) : Prop where
  starts : CandidateLine.attributePrefix.toList <+: text.toList
  plain : Plain text.toList

theorem isCandidate_translated {host : CandidateLine} (clean : Clean host) (plain : Plain address.toList)
    (foundation : UInt32) : IsCandidate (host.translated foundation address) := by
  have transport : Plain (String.ofList host.transport).toList := by
    rw [String.toList_ofList]
    exact clean.transport
  unfold CandidateLine.translated
  constructor
  case starts =>
    simp only [String.toList_append, List.append_assoc]
    exact List.prefix_append _ _
  case plain =>
    simp only [String.toList_append]
    have literal : Plain CandidateLine.attributePrefix.toList ∧ Plain " 1 ".toList ∧ Plain " ".toList ∧
        Plain " typ srflx raddr ".toList ∧ Plain " rport ".toList := by decide
    obtain ⟨start, one, space, kind, port⟩ := literal
    exact start.append (plain_repr _) |>.append one |>.append transport |>.append space |>.append (plain_repr _)
      |>.append space |>.append plain |>.append space |>.append (plain_repr _) |>.append kind
      |>.append clean.address |>.append port |>.append (plain_repr _)

theorem isCandidate_of_mem_translatedCandidates {hosts : List CandidateLine} (clean : ∀ host ∈ hosts, Clean host)
    (foreign : List String) : ∀ text ∈ translatedCandidates std hosts foreign, IsCandidate text := by
  unfold translatedCandidates
  apply List.foldlRecOn (motive := fun state : Translation => ∀ text ∈ state.candidates, IsCandidate text)
  · exact fun _ member => absurd member List.not_mem_nil
  · intro state sound address _
    unfold Translation.addAddress
    split
    · exact sound
    · rename_i target parsed
      apply List.foldlRecOn (motive := fun state : Translation => ∀ text ∈ state.candidates, IsCandidate text)
      · exact sound
      · intro state sound host member
        unfold Translation.add
        split
        · intro text among
          rcases List.mem_append.mp among with earlier | new
          · exact sound text earlier
          · rw [List.mem_singleton.mp new]
            exact isCandidate_translated (clean host member) (plain_of_parse std parsed) state.foundation
        · exact sound

/-! ## What the other readers see -/

variable {state : Rewriting}

section
variable (start : String)

/-- The text so far has these values, and what is still to be added has none. -/
structure Writes (values : List (List Char)) (state : Rewriting) : Prop where
  lines : ∃ lines : List (List Char), state.out.toList = lines.flatMap (· ++ ['\r', '\n']) ∧
    (∀ line ∈ lines, Plain line) ∧ lines.filterMap (stripPrefix start.toList) = values
  translated : ∀ text ∈ state.translated, IsCandidate text

-- lines that start so are no candidates
def Apart : Prop := ∀ line, CandidateLine.attributePrefix.toList <+: line → stripPrefix start.toList line = none

variable {start}

theorem Writes.push {values : List (List Char)} {state : Rewriting} (writes : Writes start values state) {line : String}
    (plain : Plain line.toList) :
    Writes start (values ++ (stripPrefix start.toList line.toList).toList) (state.push line) := by
  obtain ⟨lines, written, plains, read⟩ := writes.lines
  refine ⟨⟨lines ++ [line.toList], ?_, ?_, ?_⟩, writes.translated⟩
  · simp [Rewriting.push, written]
  · intro other member
    rcases List.mem_append.mp member with earlier | new
    · exact plains other earlier
    · rw [List.mem_singleton.mp new]
      exact plain
  · rw [List.filterMap_append, read]
    cases found : stripPrefix start.toList line.toList <;> simp [found]

theorem Writes.drain (writes : Writes start values state) (apart : Apart start) : Writes start values state.drain := by
  have pushed : Writes start values (state.translated.foldl Rewriting.push state) := by
    apply List.foldlRecOn (motive := Writes start values)
    · exact writes
    · intro state written text member
      have candidate := writes.translated text member
      have next := written.push candidate.plain
      rwa [apart _ candidate.starts, Option.toList_none, List.append_nil] at next
  exact ⟨pushed.lines, fun _ member => absurd member List.not_mem_nil⟩

theorem Writes.line (writes : Writes start values state) (apart : Apart start) (held : List String) {line : List Char}
    (plain : Plain line) :
    Writes start (values ++ (stripPrefix start.toList line).toList) (state.line std held line) := by
  have written {state : Rewriting} (writes : Writes start values state) :
      Writes start (values ++ (stripPrefix start.toList line).toList) (state.push (String.ofList line)) := by
    have next := @Writes.push start values state writes (String.ofList line)
    rw [String.toList_ofList] at next
    exact next plain
  unfold Rewriting.line
  split
  · rename_i candidate
    have seen : Writes start values { state with seenCandidates := true } := ⟨writes.lines, writes.translated⟩
    dsimp only
    split
    · rw [apart line candidate, Option.toList_none, List.append_nil]
      exact seen
    · exact written seen
  · apply written
    split
    · exact writes.drain apart
    · exact writes

theorem Writes.fold (writes : Writes start values state) (apart : Apart start) (held : List String)
    {lines : List (List Char)} (plain : ∀ line ∈ lines, Plain line) :
    Writes start (values ++ lines.filterMap (stripPrefix start.toList)) (lines.foldl (Rewriting.line std held) state) := by
  induction lines generalizing values state with
  | nil => simpa using writes
  | cons line rest ih =>
    have first := writes.line std apart held (plain line List.mem_cons_self)
    have next := ih first fun other member => plain other (List.mem_cons_of_mem _ member)
    rw [List.append_assoc] at next
    cases found : stripPrefix start.toList line <;> simpa [found] using next

theorem Writes.sdpValues (writes : Writes start values state) (named : start.toList ≠ []) :
    sdpValues start state.out = values := by
  obtain ⟨lines, written, plain, read⟩ := writes.lines
  have blank := stripPrefix_nil named
  have split : sdpLines state.out = (lines.flatMap fun line => [line, []]) ++ [[]] := by
    show state.out.toList.splitOnP isBreak = _
    rw [written]
    exact splitOnP_terminated rfl rfl plain
  have skipped : (lines.flatMap fun line => [line, []]).filterMap (stripPrefix start.toList) =
      lines.filterMap (stripPrefix start.toList) := by
    clear written plain read split
    induction lines with
    | nil => rfl
    | cons line rest ih => cases found : stripPrefix start.toList line <;> simp [found, blank, ih]
  unfold Nethernet.sdpValues
  rw [split, List.filterMap_append, skipped, read, List.filterMap_cons_none blank, List.filterMap_nil, List.append_nil]

/-- Other lines are left as they are, in their order. -/
theorem sdpValues_withAdvertisedCandidates (apart : Apart start) (named : start.toList ≠ []) (sdp : String)
    (allowed : List String) :
    sdpValues start (withAdvertisedCandidates std sdp allowed) = sdpValues start sdp := by
  have blank := stripPrefix_nil named
  unfold withAdvertisedCandidates
  split
  · rfl
  · dsimp only
    split
    · rfl
    · let translated := translatedCandidates std (hosts std sdp allowed) (foreign std sdp allowed)
      have fresh : Writes start [] { translated := translated } := by
        refine ⟨⟨[], rfl, fun _ member => absurd member List.not_mem_nil, rfl⟩, ?_⟩
        apply isCandidate_of_mem_translatedCandidates
        intro host member
        unfold hosts at member
        rw [List.mem_insertionSort] at member
        exact clean_of_mem_candidates (List.mem_filter.mp member).1
      have plain : ∀ line ∈ (sdpLines sdp).filter fun line => !line.isEmpty, Plain line :=
        fun line member => plain_of_mem_sdpLines (List.mem_filter.mp member).1
      have writes := ((fresh.fold std apart (held std sdp allowed) plain).drain apart).sdpValues named
      rw [List.nil_append, List.filterMap_filter] at writes
      refine writes.trans (List.filterMap_congr fun line _ => ?_)
      cases line with
      | nil => exact blank.symm
      | cons c rest => rfl

theorem apart_of_not_prefix (longer : ¬ start.toList <+: CandidateLine.attributePrefix.toList)
    (other : ¬ CandidateLine.attributePrefix.toList <+: start.toList) : Apart start := by
  intro line candidate
  rw [stripPrefix, if_neg]
  intro found
  rcases List.prefix_or_prefix_of_prefix found candidate with first | second
  · exact longer first
  · exact other second

end

theorem apart_identity : Apart "a=identity:" := apart_of_not_prefix (by decide) (by decide)

theorem apart_fingerprint : Apart "a=fingerprint:" := apart_of_not_prefix (by decide) (by decide)

theorem validateSdp_congr (crates : IdentityCrates) {first second : String}
    (identity : fromSdp crates first = fromSdp crates second)
    (fingerprints : sdpFingerprints first = sdpFingerprints second) :
    validateSdp crates first = validateSdp crates second := by
  funext trust now
  unfold validateSdp checkFingerprints canonicalFingerprintJson
  rw [identity, fingerprints]

/-- The signaler's tools, with the rewriting of the crate. -/
def advertising (tools : JoinTools) : JoinTools := { tools with withAdvertisedCandidates := withAdvertisedCandidates std }

/-- Rewriting the candidates of a description leaves its identity and its fingerprints to be read as
they were, so an answer that the signaler sends gets the verdict of the answer it was given. -/
theorem advertised_answer_keeps_identity (crates : IdentityCrates) (tools : JoinTools) (sdp : String) :
    (∀ allowed, sdpFingerprints (withAdvertisedCandidates std sdp allowed) = sdpFingerprints sdp ∧
      (sdpValues "a=identity:" (withAdvertisedCandidates std sdp allowed)).head? = (sdpValues "a=identity:" sdp).head? ∧
      fromSdp crates (withAdvertisedCandidates std sdp allowed) = fromSdp crates sdp ∧
      ∀ trust now, validateSdp crates (withAdvertisedCandidates std sdp allowed) trust now =
        validateSdp crates sdp trust now) ∧
    ∀ (signaler : HttpSignaler) connectionId pending, signaler.pending.lookup connectionId = some pending →
      ∃ response, (signaler.answer (advertising std tools) connectionId sdp).2 = .ok () ∧
        (signaler.answer (advertising std tools) connectionId sdp).1.output =
          signaler.output ++ [.response pending.connection response pending.keepAlive] ∧
        ∀ trust now, validateSdp crates response.body trust now = validateSdp crates sdp trust now := by
  have fingerprints (allowed : List String) :
      sdpFingerprints (withAdvertisedCandidates std sdp allowed) = sdpFingerprints sdp := by
    unfold sdpFingerprints
    rw [sdpValues_withAdvertisedCandidates std apart_fingerprint (by decide)]
  have identity (allowed : List String) :
      sdpValues "a=identity:" (withAdvertisedCandidates std sdp allowed) = sdpValues "a=identity:" sdp :=
    sdpValues_withAdvertisedCandidates std apart_identity (by decide) sdp allowed
  have read (allowed : List String) :
      fromSdp crates (withAdvertisedCandidates std sdp allowed) = fromSdp crates sdp := by
    unfold fromSdp
    rw [identity]
  have verdict (allowed : List String) :
      validateSdp crates (withAdvertisedCandidates std sdp allowed) = validateSdp crates sdp :=
    validateSdp_congr crates (read allowed) (fingerprints allowed)
  refine ⟨fun allowed => ⟨fingerprints allowed, ?_, read allowed, fun trust now => ?_⟩, ?_⟩
  · rw [identity]
  · rw [verdict]
  · intro signaler connectionId pending waiting
    unfold HttpSignaler.answer HttpSignaler.settle
    rw [waiting]
    refine ⟨_, rfl, rfl, fun trust now => ?_⟩
    exact congrFun (congrFun (verdict signaler.config.advertisedAddresses) trust) now

/-! ## A signed answer with a translated candidate -/

/-- The two addresses of the sample. -/
def sampleStd : AddressText where
  parseIp text :=
    if text = "192.168.1.10" then some (.v4 0xc0a8010a)
    else if text = "203.0.113.1" then some (.v4 0xcb007101)
    else none
  displayIp address := if address = .v4 0xc0a8010a then "192.168.1.10" else "203.0.113.1"

def gatheredLine : String := "a=candidate:1 1 udp 2130706431 192.168.1.10 54321 typ host"

example : withAdvertisedCandidates sampleStd (gatheredLine ++ "\r\ns=-\n") ["203.0.113.1"] =
    gatheredLine ++ "\r\na=candidate:80000000 1 udp 1694498815 203.0.113.1 54321 typ srflx raddr 192.168.1.10 rport 54321\r\ns=-\r\n" := by
  decide +kernel

def gatheredMedia : String :=
  "m=application 9 UDP/DTLS/SCTP webrtc-datachannel\r\na=fingerprint:sha-256 4B:F5:12:2F:34:45:54:C5:3B:DE:2E:BB:8C:D2:B7:E3:D1:60:0A:D6:31:C3:85:A5:D7:CC:E2:3C:77:85:45:9A\r\na=candidate:1 1 udp 2130706431 192.168.1.10 54321 typ host\r\n"

theorem section_gatheredMedia : Sample.Section gatheredMedia
    [⟨"fingerprint", some ("sha-256 " ++ Sample.digest)⟩,
      ⟨"candidate", some "1 1 udp 2130706431 192.168.1.10 54321 typ host"⟩] := by
  constructor
  case whole =>
    rw [gatheredMedia, String.toList_ofList]
    decide +kernel
  case read =>
    rw [gatheredMedia, String.toList_ofList]
    decide +kernel
  case scanned =>
    unfold sdpValues sdpLines
    rw [gatheredMedia, Sample.digest, String.toList_ofList, String.toList_ofList, String.toList_ofList,
      String.toList_ofList]
    decide +kernel

/-- A join that waits for its answer, at a server that advertises another address. -/
def waitingSignaler : HttpSignaler :=
  { HttpSignaler.new { advertisedAddresses := ["203.0.113.1"] } with pending := (∅ : Table UInt64 _).insert 7 ⟨3, true, 5⟩ }

def sampleTools : JoinTools := ⟨sampleStd.parseIp, sampleTexts.crates, fun sdp _ => sdp⟩

theorem signed_answer_validates :
    ∃ response, (waitingSignaler.answer (advertising sampleStd sampleTools) 7 (Sample.sdp gatheredMedia)).1.output =
        [.response 3 response true] ∧
      (validateSdp sampleTexts.crates response.body .any .unixEpoch).2 = .ok sampleTexts.parsedClaims := by
  obtain ⟨response, -, sent, verdict⟩ := (advertised_answer_keeps_identity sampleStd sampleTexts.crates sampleTools
    (Sample.sdp gatheredMedia)).2 waitingSignaler 7 ⟨3, true, 5⟩ (by decide)
  refine ⟨response, sent, ?_⟩
  rw [verdict]
  exact Sample.validateSdp_sdp section_gatheredMedia

end Candidates

end Nethernet
