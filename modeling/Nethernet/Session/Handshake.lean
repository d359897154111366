import Nethernet.Session.Dtls
import Nethernet.Session.Opens
import Nethernet.Session.Outputs
import Nethernet.Webrtc.Encoding

/-! The offer and the answer of two connections.

Each side writes its description and its candidates as signals; the other side reads them from their text.
Whatever else a connection is given in between, its session is told of the other side's description
and of all its candidates, in order. -/

set_option autoImplicit false

namespace Nethernet
open Foundation

/-! ## What a connection passes on to its session -/

/-- The input is about the other side. -/
def SessionInput.isRemote {Candidate : Type} : SessionInput Candidate → Bool
  | .remoteDescription .. | .remoteCandidate .. => true
  | _ => false

/-- The session after it was given the inputs in turn. -/
def Session.ran {Candidate : Type} {rtc : Rtc Candidate} (session : Session rtc) (inputs : List (SessionInput Candidate)) :
    Session rtc :=
  inputs.foldl (fun session input => (Session.handle input session).1) session

namespace Connection
variable {crates : WebrtcCrates} {rtc : Rtc crates.Candidate}

/-- The signals for this connection, with the time they are handled at. -/
def heard (connection : Connection rtc) : ConnectionInput → Option (Signal × Instant)
  | .signal signal now => if connection.concerns signal then some (signal, now) else none
  | _ => none

variable (connection : Connection rtc)

-- a connection keeps its ids, and so which signals it listens to
theorem routed_handle (input : ConnectionInput) : (connection.handle input).1.routed = connection.routed := by
  rw [handle_routed]
  cases connection.routed input <;> rfl

def passed (connection : Connection rtc) (inputs : List ConnectionInput) : List (SessionInput crates.Candidate) :=
  inputs.filterMap connection.routed

variable (inputs : List ConnectionInput)

/-- The session is run on what the connection passes on, in order. -/
theorem session_fed : (connection.fed inputs).session = connection.session.ran (connection.passed inputs) := by
  induction inputs generalizing connection with
  | nil => rfl
  | cons input rest ih =>
    have next : (connection.fed (input :: rest)).session = ((connection.handle input).1.fed rest).session := rfl
    rw [next, ih, passed, routed_handle, handle_routed, passed, List.filterMap_cons]
    cases connection.routed input <;> rfl

theorem isRemote_tells {signal : Signal} {now : Instant} {input : SessionInput crates.Candidate}
    (told : signal.tells crates now = some input) : input.isRemote = true := by
  unfold Signal.tells at told
  split at told
  · obtain ⟨read, -, rfl⟩ := Option.map_eq_some_iff.mp told
    rfl
  · obtain ⟨candidate, -, rfl⟩ := Option.map_eq_some_iff.mp told
    rfl
  · cases told
  · cases told

/-- What is about the other side comes from the signals for this connection, and from nothing else. -/
theorem remote_passed :
    (connection.passed inputs).filter SessionInput.isRemote =
      (inputs.filterMap connection.heard).filterMap fun entry => entry.1.tells crates entry.2 := by
  rw [passed, List.filter_filterMap, List.filterMap_filterMap]
  apply List.filterMap_congr
  intro input _
  cases input with
  | packet data source now => rfl
  | timeout now => rfl
  | send channel data now => rfl
  | signal signal now =>
    simp only [routed, heard]
    split
    · cases told : signal.tells crates now with
      | none => simp only [Option.filter_none, Option.bind_some, told]
      | some input => simp only [Option.filter_some, isRemote_tells told, if_true, Option.bind_some, told]
    · rfl

/-- The identity of a connection is that of the last description its session was told of. -/
theorem remoteIdentity_fed :
    (connection.fed inputs).remoteIdentity =
      ((connection.passed inputs).filterMap described).getLast?.getD connection.remoteIdentity := by
  induction inputs generalizing connection with
  | nil => rfl
  | cons input rest ih =>
    have next : (connection.fed (input :: rest)).remoteIdentity = ((connection.handle input).1.fed rest).remoteIdentity := rfl
    rw [next, ih, passed, routed_handle, handle_routed, passed, List.filterMap_cons]
    cases connection.routed input with
    | none => rfl
    | some input =>
      cases names : described input with
      | none => simp only [List.filterMap_cons, Option.elim_some, told, names, Option.getD_none]
      | some identity => simp only [List.filterMap_cons, Option.elim_some, told, names, Option.getD_some, List.getLast?_cons]

end Connection

/-! ## Signals as text -/

/-- Signals as the other side reads them from their text, under the sender's network id. -/
def carried (sender : String) (signals : List Signal) : Except ProtocolError (List Signal) :=
  signals.mapM fun signal => Signal.fromString signal.text sender

theorem carried_eq (sender : String) (signals : List Signal) :
    carried sender signals = .ok (signals.map fun signal => { signal with networkId := sender }) := by
  induction signals with
  | nil => rfl
  | cons signal rest ih =>
    have read : rest.mapM (fun signal => Signal.fromString signal.text sender) = .ok _ := ih
    rw [carried, List.mapM_cons, Signal.fromString_text, read]
    rfl

/-! ## What a side says of itself -/

-- the writer made of the SDP crates; `localCandidates` are those an agent gathered
def SdpCrates.writer (crates : SdpCrates) {rtc : Rtc crates.Candidate} (sessionId : UInt64)
    (localCandidates : rtc.Agent → List crates.Candidate) : DescriptionWriter crates.toWebrtcCrates rtc where
  encodeTrickle := Description.encodeTrickle crates sessionId
  encodeFull := Description.encodeFull crates sessionId
  marshalCandidate := crates.marshalCandidate
  localCandidates := localCandidates

variable {heard : List (Signal × Instant)}

namespace Connection

def candidateSignal {crates : WebrtcCrates} {rtc : Rtc crates.Candidate} (writer : DescriptionWriter crates rtc)
    (connectionId : UInt64) (remote ufrag : String) (candidate : crates.Candidate) : Signal :=
  ⟨.candidate, connectionId, formatIceCandidate writer 0 candidate ufrag, remote⟩

variable {crates : SdpCrates} {rtc : Rtc crates.Candidate}

theorem parseIceCandidate_format (laws : crates.ReadsBack) (sessionId : UInt64)
    (localCandidates : rtc.Agent → List crates.Candidate) (candidate : crates.Candidate) (ufrag : String) :
    ∃ read, parseIceCandidate crates.toWebrtcCrates
        (formatIceCandidate (crates.writer sessionId localCandidates) 0 candidate ufrag) = .ok read ∧
      crates.facts read = crates.facts candidate := by
  obtain ⟨read, unmarshalled, same⟩ := Description.unmarshal_attributeValue laws 0 candidate ufrag
  refine ⟨read, ?_, same⟩
  have shape : (formatIceCandidate (crates.writer sessionId localCandidates) 0 candidate ufrag).toList =
      "candidate:".toList ++ (Description.attributeValue crates 0 candidate ufrag).toList := by
    simp [formatIceCandidate, Description.attributeValue, SdpCrates.writer]
  rw [parseIceCandidate, shape, stripPrefix_append, Option.map_some, Option.getD_some, String.ofList_toList,
    unmarshalled]
  rfl

/-- A side's signals: its description, with some candidates in it, and one signal for each other candidate. -/
theorem describe_cases (laws : crates.ReadsBack) (sessionId : UInt64) (localCandidates : rtc.Agent → List crates.Candidate)
    (session : Session rtc) {description : Description} (writable : description.Writable) (survives : description.Survives)
    (iceMode : IceMode) (connectionId : UInt64) (remote : String) (kind : SignalType) :
    ∃ (sdp : String) (within later : List crates.Candidate),
      describe (crates.writer sessionId localCandidates) session description iceMode connectionId remote kind =
        ⟨kind, connectionId, sdp, remote⟩ :: later.map (candidateSignal (crates.writer sessionId localCandidates) connectionId
          remote description.ice.ufrag) ∧
      Description.parse crates.toWebrtcCrates sdp = .ok (description.announced, within) ∧
      (within ++ later).map crates.facts = (localCandidates session.ice).map crates.facts := by
  have known := (Description.reread_eq_announced_iff description).mpr survives
  cases iceMode with
  | full =>
    obtain ⟨read, same, parsed⟩ := Description.parse_encodeFull laws writable sessionId (localCandidates session.ice)
    rw [known] at parsed
    exact ⟨_, read, [], rfl, parsed, by rw [List.append_nil, same]⟩
  | trickle =>
    have parsed := Description.parse_encodeTrickle laws writable sessionId
    rw [known] at parsed
    exact ⟨_, [], localCandidates session.ice, rfl, parsed, rfl⟩

/-- Candidate signals tell the session of candidates, in order. -/
theorem tells_candidates (laws : crates.ReadsBack) (sessionId : UInt64)
    (localCandidates : rtc.Agent → List crates.Candidate) (connectionId : UInt64) (remote ufrag : String)
    (later : List crates.Candidate) (signals : heard.map Prod.fst =
      later.map (candidateSignal (crates.writer sessionId localCandidates) connectionId remote ufrag)) :
    ∃ rest : List (crates.Candidate × Instant),
      heard.filterMap (fun entry => entry.1.tells crates.toWebrtcCrates entry.2) =
        rest.map (fun entry => .remoteCandidate entry.1 entry.2) ∧
      rest.map (fun entry => crates.facts entry.1) = later.map crates.facts := by
  induction later generalizing heard with
  | nil =>
    rw [List.map_nil, List.map_eq_nil_iff] at signals
    exact ⟨[], by rw [signals]; rfl, rfl⟩
  | cons candidate later ih =>
    obtain ⟨⟨_, now⟩, heard, rfl, rfl, others⟩ := List.map_eq_cons_iff.mp signals
    obtain ⟨rest, told, same⟩ := ih others
    obtain ⟨read, parsed, known⟩ := parseIceCandidate_format laws sessionId localCandidates candidate ufrag
    have tells : (candidateSignal (crates.writer sessionId localCandidates) connectionId remote ufrag candidate).tells
        crates.toWebrtcCrates now = some (.remoteCandidate read now) := by
      simp only [Signal.tells, candidateSignal, parsed]
      rfl
    refine ⟨(read, now) :: rest, ?_, ?_⟩
    · rw [List.filterMap_cons, tells, told, List.map_cons]
    · rw [List.map_cons, List.map_cons, known, same]

end Connection

/-! ## What a session says of itself -/

def localSctpMaxMessageSize : Nat := 262144

/-- The algorithm name and the digest of a certificate as upper-case hex, the bytes apart by colons. -/
def Certificate.fingerprint (digest : Bytes) : String × String := ("sha-256", String.ofList (hexDigest digest))

/-- What a session makes its description of: generated credentials, its certificate's digest and the identity
that its transport signed, all without whitespace. -/
structure LocalSide where
  credentials : Credentials
  digest : Bytes
  identity : Option String
  ufrag_ink : ∀ c ∈ credentials.ufrag.toList, isWhitespace c = false
  pwd_ink : ∀ c ∈ credentials.pwd.toList, isWhitespace c = false
  identity_ink : ∀ text ∈ identity, ∀ c ∈ text.toList, isWhitespace c = false
  digested : digest.length = 32

namespace LocalSide

/-- The offerer controls, and announces the DTLS server role. -/
def description (side : LocalSide) (isControlling : Bool) : Description where
  ice := side.credentials
  dtlsRole := if isControlling then .server else .auto
  fingerprint := Certificate.fingerprint side.digest
  sctpMaxMessageSize := localSctpMaxMessageSize
  identity := side.identity

theorem lineSafe_of_ink {text : List Char} (ink : ∀ c ∈ text, isWhitespace c = false) : LineSafe text := by
  constructor
  · intro member
    exact absurd (ink _ member) (by decide)
  · intro member
    exact absurd (ink _ member) (by decide)

theorem writable (side : LocalSide) (isControlling : Bool) : (side.description isControlling).Writable where
  ufrag := lineSafe_of_ink side.ufrag_ink
  pwd := lineSafe_of_ink side.pwd_ink
  fingerprint := by
    have digest : LineSafe (hexDigest side.digest) := lineSafe_of_ink (hexDigest_ink _)
    simp only [description, Certificate.fingerprint, String.toList_append, String.toList_ofList, Description.lineSafe_append]
    exact ⟨by decide, digest⟩
  identity text given := lineSafe_of_ink (side.identity_ink text given)
  size := show localSctpMaxMessageSize < 2 ^ 32 by decide

theorem survives (side : LocalSide) (isControlling : Bool) : (side.description isControlling).Survives where
  ufrag := trimEnd_of_ink side.ufrag_ink
  pwd := trimEnd_of_ink side.pwd_ink
  algorithm := by
    simp only [description, Certificate.fingerprint]
    decide
  digest := by
    have some : side.digest ≠ [] := List.ne_nil_of_length_pos (side.digested ▸ Nat.succ_pos 31)
    constructor
    · intro empty
      exact hexDigest_ne_nil some (String.ofList_eq_empty_iff.mp empty)
    · apply trimEnd_of_ink
      simp only [description, Certificate.fingerprint, String.toList_ofList]
      exact hexDigest_ink side.digest
  identity text given := trimEnd_of_ink (side.identity_ink text given)

end LocalSide

/-! ## Both sides -/

variable {description : Description}

namespace Connection
variable {crates : SdpCrates} {rtc : Rtc crates.Candidate}

/-- The session is told of the description, and of candidates with these facts, in order. -/
def Told (crates : SdpCrates) (description : Description) (facts : List crates.Facts)
    (inputs : List (SessionInput crates.Candidate)) : Prop :=
  ∃ (within : List crates.Candidate) (now : Instant) (later : List (crates.Candidate × Instant)),
    inputs = .remoteDescription description within now :: later.map (fun entry => .remoteCandidate entry.1 entry.2) ∧
      (within ++ later.map Prod.fst).map crates.facts = facts

theorem Told.identity {facts : List crates.Facts} {inputs : List (SessionInput crates.Candidate)}
    (told : Told crates description facts (inputs.filter SessionInput.isRemote)) :
    inputs.filterMap described = [description.identity] := by
  obtain ⟨within, now, later, remote, -⟩ := told
  have onlyRemote : inputs.filterMap described = (inputs.filter SessionInput.isRemote).filterMap described := by
    rw [List.filterMap_filter]
    apply List.filterMap_congr
    intro input _
    cases input <;> rfl
  have quiet : (later.map fun entry => SessionInput.remoteCandidate entry.1 entry.2).filterMap described = [] := by
    rw [List.filterMap_eq_nil_iff]
    intro input member
    obtain ⟨entry, -, rfl⟩ := List.mem_map.mp member
    rfl
  rw [onlyRemote, remote, List.filterMap_cons, described, quiet]

variable {later : List crates.Candidate}

-- a description, and the signals of the candidates behind it
theorem told_candidates (laws : crates.ReadsBack) (sessionId : UInt64)
    (localCandidates : rtc.Agent → List crates.Candidate) {connectionId : UInt64} {sender ufrag : String}
    (description : Description) (within : List crates.Candidate) (now : Instant) (signals : heard.map Prod.fst =
      later.map (candidateSignal (crates.writer sessionId localCandidates) connectionId sender ufrag)) :
    Told crates description ((within ++ later).map crates.facts) (.remoteDescription description within now ::
      heard.filterMap fun entry => entry.1.tells crates.toWebrtcCrates entry.2) := by
  obtain ⟨told, tells, same⟩ := tells_candidates laws sessionId localCandidates connectionId sender ufrag later signals
  refine ⟨within, now, told, by rw [tells], ?_⟩
  rw [List.map_append, List.map_append, List.map_map, ← same]
  rfl

variable {connection : Connection rtc}

/-- The other side's signals, heard in order between other inputs, tell the session of it. -/
theorem told_heard (laws : crates.ReadsBack) (sessionId : UInt64)
    (localCandidates : rtc.Agent → List crates.Candidate) {connectionId : UInt64} {sender sdp ufrag : String}
    {within : List crates.Candidate}
    (parsed : Description.parse crates.toWebrtcCrates sdp = .ok (description, within)) {inputs : List ConnectionInput}
    (heard : (inputs.filterMap connection.heard).map Prod.fst = ⟨.answer, connectionId, sdp, sender⟩ ::
      later.map (candidateSignal (crates.writer sessionId localCandidates) connectionId sender ufrag)) :
    Told crates description ((within ++ later).map crates.facts) ((connection.passed inputs).filter SessionInput.isRemote) := by
  obtain ⟨⟨_, now⟩, rest, all, rfl, candidates⟩ := List.map_eq_cons_iff.mp heard
  have first : Signal.tells crates.toWebrtcCrates ⟨.answer, connectionId, sdp, sender⟩ now =
      some (.remoteDescription description within now) := by
    simp only [Signal.tells, parsed]
    rfl
  rw [remote_passed, all, List.filterMap_cons, first]
  exact told_candidates laws sessionId localCandidates description within now candidates

theorem concerns_of_ids {signal : Signal} (ids : (signal.connectionId, signal.networkId) = connection.ids) :
    connection.concerns signal = true := by
  obtain ⟨connectionId, networkId⟩ := Prod.mk.inj ids
  simp [concerns, connectionId, networkId]

theorem accept_eq_ok {writer : DescriptionWriter crates.toWebrtcCrates rtc} {session : Session rtc}
    {remote : Description} {offer : Signal} {candidates : List crates.Candidate} {iceMode : IceMode} {now : Instant}
    {signals : List Signal}
    (accepted : accept writer session description offer remote candidates iceMode now = .ok (connection, signals)) :
    connection = ⟨(Session.handle (.remoteDescription remote candidates now) session).1, offer.connectionId, offer.networkId,
      remote.identity⟩ ∧
    signals = describe writer connection.session description iceMode offer.connectionId offer.networkId .answer := by
  unfold accept at accepted
  split at accepted
  · cases accepted
  · split at accepted
    · cases accepted
    · rename_i next outcome
      cases accepted
      rw [outcome]
      exact ⟨rfl, rfl⟩

-- the description's signal and the candidates' signals, under the sender's id
theorem carried_described (writer : DescriptionWriter crates.toWebrtcCrates rtc) (sender remote sdp ufrag : String)
    (connectionId : UInt64) (kind : SignalType) (later : List crates.Candidate) :
    carried sender (⟨kind, connectionId, sdp, remote⟩ :: later.map (candidateSignal writer connectionId remote ufrag)) =
      .ok (⟨kind, connectionId, sdp, sender⟩ :: later.map (candidateSignal writer connectionId sender ufrag)) := by
  rw [carried_eq, List.map_cons, List.map_map]
  rfl

/-- An offer and its answer, carried as text, tell each side's session of the other side: its credentials,
fingerprint, identity and size, and all its candidates in order, in the description or behind it. No signal is
ignored, whatever else the connections are given in between, and the two sides take different DTLS roles. -/
theorem handshake_describes_both (laws : crates.ReadsBack) (localCandidates : rtc.Agent → List crates.Candidate)
    (offeredAt answeredAt : UInt64) (caller callee : Session rtc) (callerSide calleeSide : LocalSide)
    (callerMode calleeMode : IceMode) (connectionId : UInt64) (callerId calleeId : String) :
    let calling := callerSide.description true
    let answering := calleeSide.description false
    let (dialed, offers) := connect (crates.writer offeredAt localCandidates) caller calling connectionId calleeId callerMode
    ∃ (offer : Signal) (trickled : List Signal) (within : List crates.Candidate),
      carried callerId offers = .ok (offer :: trickled) ∧
      parseOffer crates.toWebrtcCrates offer = .ok (calling.announced, within) ∧
      ∀ now accepted answers, accept (crates.writer answeredAt localCandidates) callee answering offer calling.announced
          within calleeMode now = .ok (accepted, answers) →
        ∃ received, carried calleeId answers = .ok received ∧
          (∀ signal ∈ trickled, accepted.concerns signal = true) ∧ (∀ signal ∈ received, dialed.concerns signal = true) ∧
          (∀ inputs, (inputs.filterMap accepted.heard).map Prod.fst = trickled →
            (accepted.fed inputs).session =
              callee.ran (.remoteDescription calling.announced within now :: accepted.passed inputs) ∧
            Told crates calling.announced ((localCandidates caller.ice).map crates.facts)
              (.remoteDescription calling.announced within now :: (accepted.passed inputs).filter SessionInput.isRemote) ∧
            (accepted.fed inputs).remoteIdentity = callerSide.identity) ∧
          (∀ inputs, (inputs.filterMap dialed.heard).map Prod.fst = received →
            (dialed.fed inputs).session = caller.ran (dialed.passed inputs) ∧
            Told crates answering.announced ((localCandidates accepted.session.ice).map crates.facts)
              ((dialed.passed inputs).filter SessionInput.isRemote) ∧
            (dialed.fed inputs).remoteIdentity = calleeSide.identity) ∧
          ResolvedRole.fromRemoteAnnounced calling.announced.dtlsRole = .client ∧
          ResolvedRole.fromRemoteAnnounced answering.announced.dtlsRole = .server := by
  intro calling answering
  obtain ⟨sdp, within, later, offers, parsed, facts⟩ := describe_cases laws offeredAt localCandidates caller
    (callerSide.writable true) (callerSide.survives true) callerMode connectionId calleeId .offer
  simp only [connect]
  rw [offers, carried_described]
  refine ⟨_, _, within, rfl, ?_, ?_⟩
  · simp only [parseOffer, ne_eq, not_true_eq_false, if_false]
    exact parsed
  intro now accepted answers outcome
  obtain ⟨connected, written⟩ := accept_eq_ok outcome
  obtain ⟨answer, answerWithin, answerLater, answered, answerParsed, answerFacts⟩ := describe_cases laws answeredAt
    localCandidates accepted.session (calleeSide.writable false) (calleeSide.survives false) calleeMode connectionId
    callerId .answer
  rw [written, answered, carried_described]
  have acceptedIds : accepted.ids = (connectionId, callerId) := by rw [connected]; rfl
  refine ⟨_, rfl, ?_, ?_, ?_, ?_, rfl, rfl⟩
  · intro signal member
    obtain ⟨candidate, -, rfl⟩ := List.mem_map.mp member
    exact concerns_of_ids acceptedIds.symm
  · intro signal member
    rcases List.mem_cons.mp member with rfl | candidate
    · exact concerns_of_ids rfl
    · obtain ⟨candidate, -, rfl⟩ := List.mem_map.mp candidate
      exact concerns_of_ids rfl
  · intro inputs heard
    have describes := told_candidates laws offeredAt localCandidates calling.announced within now heard
    rw [facts, ← remote_passed] at describes
    have whole : Told crates calling.announced ((localCandidates caller.ice).map crates.facts)
      ((.remoteDescription calling.announced within now :: accepted.passed inputs).filter SessionInput.isRemote) := describes
    have silent : (accepted.passed inputs).filterMap described = [] := (List.cons.inj whole.identity).2
    have before : accepted.session = (Session.handle (.remoteDescription calling.announced within now) callee).1 ∧
        accepted.remoteIdentity = callerSide.identity := by
      rw [connected]
      exact ⟨rfl, rfl⟩
    refine ⟨?_, describes, ?_⟩
    · rw [session_fed, before.1]
      rfl
    · rw [remoteIdentity_fed, silent]
      exact before.2
  · intro inputs heard
    have told := told_heard laws answeredAt localCandidates answerParsed heard
    rw [answerFacts] at told
    refine ⟨session_fed _ inputs, told, ?_⟩
    rw [remoteIdentity_fed, told.identity]
    rfl

-- an agent that takes every candidate
def portRtc : Rtc LineCrates.crates.Candidate := { Session.quietRtc with addRemoteCandidate := fun _ _ => ((), .ok ()) }

def sampleSide (identity : String) (ink : ∀ c ∈ identity.toList, isWhitespace c = false) : LocalSide where
  credentials := ⟨"abcd", "0123456789abcdef01234567"⟩
  digest := List.replicate 32 7
  identity := some identity
  ufrag_ink := by decide
  pwd_ink := by decide
  identity_ink text given := Option.mem_some.mp given ▸ ink
  digested := rfl

def sampleSession (isControlling : Bool) : Session portRtc := .new (.v4 0x7f000001 8) isControlling () ()

-- candidates change nothing of this agent
theorem handle_sampleSession (description : Description) (within : List LineCrates.crates.Candidate) (now : Instant) :
    Session.handle (.remoteDescription description within now) (sampleSession false) =
      Session.handle (.remoteDescription description [] now) (sampleSession false) := by
  have each : Fallible.each within (fun candidate => Session.onIce portRtc (portRtc.addRemoteCandidate · candidate)) =
      Fallible.pure () := by
    induction within with
    | nil => rfl
    | cons candidate rest ih =>
      funext session
      exact congrFun ih session
  simp only [Session.handle, Session.setRemoteDescription, each]
  rfl

theorem accept_sampleSession {offer : Signal} {remote : Description} {within : List LineCrates.crates.Candidate}
    (parsed : parseOffer LineCrates.crates.toWebrtcCrates offer = .ok (remote, within)) (description : Description) :
    ∃ accepted answers, accept (LineCrates.crates.writer 2 fun _ => LineCrates.ports) (sampleSession false) description offer
      remote within .trickle 0 = .ok (accepted, answers) := by
  have isOffer : offer.signalType = .offer := by
    by_contra other
    rw [parseOffer, if_pos other] at parsed
    cases parsed
  have taken : (Session.handle (.remoteDescription remote [] 0) (sampleSession false)).2 = .ok () := by
    obtain ⟨ice, role, fingerprint, size, identity⟩ := remote
    cases role <;> rfl
  rw [← handle_sampleSession remote within] at taken
  unfold accept
  rw [if_neg (not_not_intro isOffer)]
  split
  · rename_i outcome
    rw [outcome] at taken
    cases taken
  · exact ⟨_, _, rfl⟩

-- an offer with its candidates inside, and an answer with its candidates behind it
theorem sample_handshake :
    ∃ (offer : Signal) (within : List LineCrates.crates.Candidate) (accepted : Connection portRtc) (answers received : List Signal),
      parseOffer LineCrates.crates.toWebrtcCrates offer =
        .ok (((sampleSide "e30=" (by decide)).description true).announced, within) ∧
      accept (LineCrates.crates.writer 2 fun _ => LineCrates.ports) (sampleSession false)
        ((sampleSide "e31=" (by decide)).description false) offer ((sampleSide "e30=" (by decide)).description true).announced
        within .trickle 0 = .ok (accepted, answers) ∧
      carried "2" answers = .ok received := by
  obtain ⟨offer, trickled, within, -, parsed, answered⟩ := handshake_describes_both LineCrates.readsBack
    (fun (_ : portRtc.Agent) => LineCrates.ports) 1 2 (sampleSession true) (sampleSession false) (sampleSide "e30=" (by decide))
    (sampleSide "e31=" (by decide)) .full .trickle 7 "1" "2"
  obtain ⟨accepted, answers, outcome⟩ := accept_sampleSession parsed ((sampleSide "e31=" (by decide)).description false)
  obtain ⟨received, text, -⟩ := answered 0 accepted answers outcome
  exact ⟨offer, within, accepted, answers, received, parsed, outcome, text⟩

end Connection

end Nethernet
