import Nethernet.Foundation.Machine
import Nethernet.Session.Streams

/-! Which requests to open a channel a session answers.

A request is answered when it is readable by the time its stream is accepted; a stream that is
announced by a later chunk, and accepted before its first message is complete, is never looked at
again.

A call of `handle` is cut into the part before its pump, the pump of ICE and the transports, the pump of
SCTP, and its conclusion. -/

set_option autoImplicit false

namespace Nethernet
open Foundation

variable {Candidate : Type} {rtc : Rtc Candidate}

/-! ## Sessions -/

/-- How far the session is with the streams of its association: between two calls every accepted
stream has been heard; at the end of a pump none is left to accept. -/
inductive Phase where
  | listening
  | between
  | drained

variable {phase : Phase}

namespace Phase

def Holds {Rest : Type} (assoc : Association Rest) : Phase → Prop
  | .listening => assoc.Heard
  | .between => True
  | .drained => assoc.announced.waiting = []

theorem Holds.extends {rtc : Rtc Candidate} {before after : StreamState rtc}
    (extended : StreamState.Extends rtc before after) (holds : phase.Holds before.association) :
    phase.Holds after.association := by
  cases phase with
  | listening => exact extended.heard holds
  | between => trivial
  | drained =>
    show after.association.announced.waiting = []
    rw [extended.announced]
    exact holds

end Phase

variable {session : Session rtc} (now : Instant) (input : SessionInput Candidate) {assoc : Association rtc.Rest}
  {A : Type} {channels : Channels} {program : StreamM rtc A}

namespace Session

/-! ### The parts of a call -/

-- what comes before the pump, and the time of the pump if there is one
def beforePump : SessionInput Candidate → SessionM rtc (Option Instant)
  | .packet data source now =>
    if rtc.isStunMessage data then do
      onIce rtc (rtc.agentRead · data source now)
      return some now
    else do
      let session ← .get
      if session.dtls.isNone then do
        .modify (bufferEarly data)
        return none
      else do
        readDtls data now
        return some now
  | .remoteDescription remote candidates now => do
    onIce rtc (rtc.setRemoteCredentials · remote.ice.ufrag remote.ice.pwd)
    .modify fun session => { session with
      remoteMaxMessageSize := if remote.sctpMaxMessageSize = 0 then 2 ^ 32 - 1 else remote.sctpMaxMessageSize }
    .each candidates fun candidate => onIce rtc (rtc.addRemoteCandidate · candidate)
    .modify fun session => { session with
      pendingRoleFingerprint := some (.fromRemoteAnnounced remote.dtlsRole, remote.fingerprint)
      establishStarted := session.establishStarted.or (some now) }
    return some now
  | .remoteCandidate candidate now => do
    onIce rtc (rtc.addRemoteCandidate · candidate)
    return some now
  | .send channel data now => do
    send channel data now
    return some now
  | .timeout now => do
    onIce rtc (rtc.agentTimeout · now)
    .modify fun session => { session with dtls := session.dtls.map (rtc.dtlsTimeout · now) }
    .modify fun session => { session with sctp := session.sctp.map (·.handleTimeout now) }
    return some now

-- a pump up to its SCTP part
def startLayers (now : Instant) : SessionM rtc Unit := do
  .modify pollIce
  startTransportsOnSelectedPair now

def conclude (now : Instant) (failed : Bool) (session : Session rtc) : Session rtc :=
  let session := if failed then session.fail else session
  session.announceReady.checkDeadline now

def afterPump : SessionInput Candidate → Session rtc → Session rtc
  | .remoteDescription _ _ now, session | .timeout now, session => session.pushWait now
  | _, session => session

theorem pump_eq : (pump now : SessionM rtc Unit) =
    startLayers now >>= fun _ => pumpSctp now >>= fun failed => .modify (conclude now failed) := by
  unfold startLayers
  rw [Fallible.bind_assoc]
  rfl

theorem handle_eq : (handle input : SessionM rtc Unit) =
    beforePump input >>= fun
      | none => .pure ()
      | some now => pump now >>= fun _ => .modify (afterPump input) := by
  have still (now : Instant) : (pump now >>= fun _ => .modify id : SessionM rtc Unit) = pump now := by
    funext session
    cases outcome : pump now session with
    | mk after value =>
      cases value with
      | error error => exact Fallible.bind_of_error outcome
      | ok value => exact Fallible.bind_of_ok outcome
  cases input with
  | packet data source now =>
    simp only [handle, handlePacket, beforePump]
    split
    · rw [Fallible.bind_assoc]
      exact congrArg (onIce rtc _ >>= ·) (funext fun _ => (still now).symm)
    · funext session
      simp only [Fallible.bind_assoc, Fallible.bind_get]
      split
      · rfl
      · rw [Fallible.bind_assoc]
        exact congrArg (fun next => (readDtls data now >>= next) session) (funext fun _ => (still now).symm)
  | remoteDescription remote candidates now =>
    simp only [beforePump, Fallible.bind_assoc]
    rfl
  | remoteCandidate candidate now =>
    simp only [beforePump, Fallible.bind_assoc]
    exact congrArg (onIce rtc _ >>= ·) (funext fun _ => (still now).symm)
  | send channel data now =>
    simp only [beforePump, Fallible.bind_assoc]
    exact congrArg (send channel data now >>= ·) (funext fun _ => (still now).symm)
  | timeout now =>
    simp only [beforePump, Fallible.bind_assoc]
    rfl

def association (session : Session rtc) : Option (Association rtc.Rest) := session.sctp.bind (·.association)

def streamState (session : Session rtc) : Option (StreamState rtc) :=
  session.association.map fun association => ⟨association, session.channels, session.output⟩

structure In (phase : Phase) (session : Session rtc) : Prop where
  paired : session.sctp.isSome = true → session.dtls.isSome = true
  streams : ∀ state, session.streamState = some state → state.Orderly ∧ phase.Holds state.association

/-- The streams are as before, up to the rest of the association, and the layers stay paired. -/
structure Quiet (before after : Session rtc) : Prop where
  paired : (before.sctp.isSome = true → before.dtls.isSome = true) → after.sctp.isSome = true → after.dtls.isSome = true
  streams : ∀ state, after.streamState = some state →
    ∃ earlier, before.streamState = some earlier ∧ StreamState.Extends rtc earlier state

theorem Quiet.keeps {before after : Session rtc} (quiet : Quiet before after) (inPhase : before.In phase) :
    after.In phase := by
  refine ⟨quiet.paired inPhase.paired, ?_⟩
  intro state found
  obtain ⟨earlier, wasThere, extended⟩ := quiet.streams state found
  obtain ⟨orderly, holds⟩ := inPhase.streams earlier wasThere
  exact ⟨extended.orderly orderly, holds.extends extended⟩

theorem In.between (inPhase : session.In phase) : session.In .between :=
  ⟨inPhase.paired, fun state found => ⟨(inPhase.streams state found).1, trivial⟩⟩

theorem Quiet.refl (session : Session rtc) : Quiet session session :=
  ⟨id, fun state found => ⟨state, found, .refl state⟩⟩

theorem Quiet.trans {first second third : Session rtc} (left : Quiet first second) (right : Quiet second third) :
    Quiet first third := by
  refine ⟨fun paired => right.paired (left.paired paired), ?_⟩
  intro state found
  obtain ⟨middle, wasThere, later⟩ := right.streams state found
  obtain ⟨earlier, began, sooner⟩ := left.streams middle wasThere
  exact ⟨earlier, began, sooner.trans later⟩

-- a change that leaves SCTP, DTLS and the stream ids alone
theorem Quiet.of_same {before after : Session rtc} (sameSctp : after.sctp = before.sctp)
    (sameDtls : after.dtls.isSome = before.dtls.isSome)
    (sameIds : ∀ channel, after.channels.streamId channel = before.channels.streamId channel) : Quiet before after := by
  constructor
  case paired =>
    rw [sameSctp, sameDtls]
    exact id
  case streams =>
    intro state found
    have same : after.association = before.association := by rw [association, sameSctp, association]
    rw [streamState, same] at found
    obtain ⟨assoc, present, rfl⟩ := Option.map_eq_some_iff.mp found
    refine ⟨⟨assoc, before.channels, before.output⟩, by rw [streamState, present]; rfl, rfl, rfl, List.Subset.refl _, ?_⟩
    intro channel known
    rwa [sameIds]

/-! ### Quiet operations -/

theorem quiet_fail (session : Session rtc) : Quiet session session.fail := by
  unfold fail
  split
  · exact .refl session
  · refine .of_same rfl rfl ?_
    intro channel
    cases channel <;> rfl

theorem quiet_announceReady (session : Session rtc) : Quiet session session.announceReady := by
  unfold announceReady
  split
  · refine .of_same rfl rfl ?_
    intro channel
    cases channel <;> rfl
  · exact .refl session

theorem quiet_checkDeadline (session : Session rtc) (now : Instant) : Quiet session (session.checkDeadline now) := by
  unfold checkDeadline
  split
  · split
    · exact quiet_fail session
    · exact .refl session
  · exact .refl session

-- what ICE wants sent, before its events are looked at
def polled (session : Session rtc) : Session rtc :=
  { session with
    ice := (rtc.agentEvents (rtc.agentWrites session.ice).1).1
    output := session.output ++ (rtc.agentWrites session.ice).2.map fun write => .send write.1 write.2 }

-- ICE has reported that its connection is over
def iceLost (session : Session rtc) : Bool :=
  (rtc.agentEvents (rtc.agentWrites session.ice).1).2.any isLost

theorem pollIce_eq (session : Session rtc) :
    session.pollIce = if session.iceLost then session.polled.fail else session.polled := by
  have again (session : Session rtc) : session.fail.fail = session.fail := by
    cases flag : session.channels.failedEmitted <;> simp [fail, push, flag]
  have folded (events : List IceEvent) (start : Session rtc) :
      events.foldl (fun session event => if isLost event then session.fail else session) start =
        if events.any isLost then start.fail else start := by
    induction events generalizing start with
    | nil => rfl
    | cons event rest ih =>
      rw [List.foldl_cons, ih, List.any_cons]
      cases isLost event with
      | false => rfl
      | true => simp [again]
  exact folded _ session.polled

theorem quiet_pollIce (session : Session rtc) : Quiet session session.pollIce := by
  have polled : Quiet session session.polled := .of_same rfl rfl fun _ => rfl
  rw [pollIce_eq]
  split
  · exact polled.trans (quiet_fail _)
  · exact polled

theorem quiet_flushDtls (session : Session rtc) : Quiet session session.flushDtls := by
  unfold flushDtls
  split
  · exact .refl session
  · rename_i dtls present
    refine .of_same rfl ?_ fun _ => rfl
    rw [present]
    rfl

theorem quiet_pushWait (session : Session rtc) (now : Instant) : Quiet session (session.pushWait now) := by
  obtain ⟨ice, left | ⟨duration, left⟩⟩ := pushWait_cases session now
  · rw [left]
    exact .of_same rfl rfl fun _ => rfl
  · rw [left]
    exact .of_same rfl rfl fun _ => rfl

-- what a session program may do to the phase it is run in
abbrev Moves {A : Type} (before : Phase) (program : SessionM rtc A) (after : Phase) : Prop :=
  Fallible.Triple (In before) program (fun _ => In after) (In .between)

theorem moves_modify {change : Session rtc → Session rtc} (quiet : ∀ session, Quiet session (change session))
    (phase : Phase) : Moves phase (.modify change) phase :=
  fun session inPhase => (quiet session).keeps inPhase

theorem moves_of_quiet {program : SessionM rtc A} (quiet : ∀ session, Quiet session (program session).1)
    (phase : Phase) : Moves phase program phase := by
  intro session inPhase
  have kept := (quiet session).keeps inPhase
  cases outcome : program session with
  | mk after value =>
    rw [outcome] at kept
    cases value with
    | ok value => exact kept
    | error e => exact kept.between

theorem moves_onIce (operation : rtc.Agent → rtc.Agent × Except String Unit) (phase : Phase) :
    Moves phase (onIce rtc operation) phase :=
  moves_of_quiet (fun _ => .of_same rfl rfl fun _ => rfl) phase

/-! ### Transports -/

theorem listening_new {rest : rtc.Rest} (paired : session.sctp.isSome = true → session.dtls.isSome = true)
    (fresh : session.association = some (.new rest)) : session.In .listening := by
  refine ⟨paired, ?_⟩
  intro state found
  rw [streamState, fresh] at found
  cases found
  refine ⟨⟨Association.tidy_new rest, ?_⟩, ?_⟩
  · intro stream member
    cases member
  · intro stream member
    cases member

theorem kept_arrive (kept : Kept rtc assoc channels) (heard : assoc.Heard) (arrival : Arrival) :
    Kept rtc (assoc.arrive arrival) channels := by
  intro stream member chunks first
  rw [Association.past_arrive] at member
  obtain ⟨earlier, was⟩ := Option.isSome_iff_exists.mp (heard stream member)
  rw [Association.firstMessage_arrive arrival was] at first
  cases first
  exact kept stream member _ was

theorem attentive_arrivals (arrivals : List Arrival) (attentive : assoc.Tidy ∧ Kept rtc assoc channels ∧ assoc.Heard) :
    (arrivals.foldl Association.arrive assoc).Tidy ∧ Kept rtc (arrivals.foldl Association.arrive assoc) channels ∧
      (arrivals.foldl Association.arrive assoc).Heard := by
  induction arrivals generalizing assoc with
  | nil => exact attentive
  | cons arrival arrivals ih =>
    obtain ⟨tidy, kept, heard⟩ := attentive
    exact ih ⟨tidy.arrive arrival, kept_arrive kept heard arrival, heard.arrive arrival⟩

theorem listening_handleEvent (event : rtc.AssociationEvent)
    (attentive : assoc.Tidy ∧ Kept rtc assoc channels ∧ assoc.Heard) :
    (SctpLayer.handleEvent assoc event).Tidy ∧ Kept rtc (SctpLayer.handleEvent assoc event) channels ∧
      (SctpLayer.handleEvent assoc event).Heard := by
  obtain ⟨tidy, kept, heard⟩ := attentive
  apply attentive_arrivals
  exact ⟨⟨tidy.once, tidy.silent, tidy.unread⟩, kept, heard⟩

/-- Data for the association announces streams and makes messages readable, no more. -/
theorem listening_handleDtlsEvent (listening : session.In .listening) (data : Bytes) (now : Instant) :
    (session.handleDtlsEvent data now).In .listening := by
  unfold handleDtlsEvent
  cases present : session.sctp with
  | none =>
    have same : ({ session with sctp := Option.map (fun layer => SctpLayer.handleRead layer data now) none } :
        Session rtc) = session := by
      rw [Option.map_none, ← present]
    rw [same]
    exact listening
  | some layer =>
    have paired := listening.paired (by rw [present]; rfl)
    rw [Option.map_some]
    unfold SctpLayer.handleRead
    split
    · refine ⟨fun _ => paired, fun state found => listening.streams state ?_⟩
      rw [← found]
      simp only [streamState, association, present, Option.bind_some]
    · exact listening_new (fun _ => paired) rfl
    · rename_i endpoint event _
      refine ⟨fun _ => paired, ?_⟩
      intro state found
      simp only [streamState, association, Option.bind_some, Option.map_map] at found
      obtain ⟨assoc, there, rfl⟩ := Option.map_eq_some_iff.mp found
      have before : session.streamState = some ⟨assoc, session.channels, session.output⟩ := by
        simp only [streamState, association, present, Option.bind_some, there, Option.map_some]
      obtain ⟨orderly, heard⟩ := listening.streams _ before
      obtain ⟨tidy, kept, still⟩ := listening_handleEvent event ⟨orderly.1, orderly.2, heard⟩
      exact ⟨⟨tidy, kept⟩, still⟩

theorem listening_received (listening : session.In .listening) (received : List Bytes) (now : Instant) :
    (received.foldl (fun session data => session.handleDtlsEvent data now) session).In .listening := by
  induction received generalizing session with
  | nil => exact listening
  | cons data received ih => exact ih (listening_handleDtlsEvent listening data now)

theorem moves_readDtls (data : Bytes) (now : Instant) :
    Moves .listening (readDtls data now : SessionM rtc Unit) .listening := by
  intro session listening
  unfold readDtls
  cases present : session.dtls with
  | none => exact listening
  | some dtls =>
    have kept : ∀ dtls, ({ session with dtls := some dtls } : Session rtc).In .listening := by
      intro dtls
      have quiet : Quiet session { session with dtls := some dtls } := by
        refine .of_same rfl ?_ fun _ => rfl
        rw [present]
        rfl
      exact quiet.keeps listening
    dsimp only
    cases rtc.dtlsRead dtls data now with
    | mk dtls result =>
      cases result with
      | error e => exact (kept dtls).between
      | ok received => exact listening_received (kept dtls) received now

theorem association_new {localAddr remoteAddr : SocketAddr} {role : ResolvedRole} {maxMessageSize : Nat}
    {now : Instant} {layer : SctpLayer rtc}
    (created : SctpLayer.new rtc localAddr remoteAddr role maxMessageSize now = .ok layer) :
    layer.association = none ∨ ∃ rest, layer.association = some (.new rest) := by
  unfold SctpLayer.new at created
  split at created
  · cases created
    exact .inl rfl
  · split at created
    · cases created
      exact .inr ⟨_, rfl⟩
    · cases created

theorem moves_startTransports (remoteAddr : SocketAddr) (role : ResolvedRole) (fingerprint : String × String)
    (now : Instant) : Moves .listening (startTransports remoteAddr role fingerprint now : SessionM rtc Unit) .listening := by
  have took : Moves .listening (takeCertificate : SessionM rtc rtc.Certificate) .listening := by
    intro session listening
    unfold takeCertificate
    cases session.certificate with
    | none => exact listening.between
    | some certificate =>
      have quiet : Quiet session { session with certificate := none } := .of_same rfl rfl fun _ => rfl
      exact quiet.keeps listening
  apply took.bind
  intro certificate
  refine Fallible.Triple.read fun session => ?_
  refine Fallible.Triple.bind (Fallible.Triple.ofExcept (fun _ listening _ _ => listening)
    fun _ listening _ _ => listening.between) ?_
  intro dtls
  refine Fallible.Triple.bind (Fallible.Triple.ofExcept (fun _ listening _ made => And.intro listening made)
    fun _ listening _ _ => listening.between) ?_
  intro sctp
  apply Fallible.Triple.modify
  rintro session ⟨listening, made⟩
  rcases association_new made with absent | ⟨rest, fresh⟩
  · refine ⟨fun _ => rfl, ?_⟩
    intro state found
    simp [streamState, association, absent] at found
  · exact listening_new (fun _ => rfl) fresh

theorem moves_startTransportsOnSelectedPair :
    Moves .listening (startTransportsOnSelectedPair now : SessionM rtc Unit) .listening := by
  refine Fallible.Triple.read fun session => ?_
  split
  · rename_i remoteAddr role fingerprint _ _ _
    refine Fallible.Triple.bind (moves_modify ?_ .listening) fun _ => ?_
    · exact fun session => .of_same rfl rfl fun _ => rfl
    refine Fallible.Triple.bind (moves_startTransports remoteAddr role fingerprint now) fun _ => ?_
    refine Fallible.Triple.read fun started => ?_
    refine Fallible.Triple.bind (moves_modify ?_ .listening) fun _ => ?_
    · exact fun session => .of_same rfl rfl fun _ => rfl
    exact Fallible.Triple.each fun packet _ => moves_readDtls packet now
  · exact fun _ listening => listening

/-! ### Pumping -/

theorem in_of_no_streams (paired : session.sctp.isSome = true → session.dtls.isSome = true)
    (absent : session.streamState = none) (phase : Phase) : session.In phase := by
  refine ⟨paired, ?_⟩
  intro state found
  rw [absent] at found
  cases found

theorem onStreams_none (missing : session.streamState = none) (absent : A) (program : StreamM rtc A) :
    onStreams absent program session = (session, .ok absent) := by
  unfold onStreams
  split
  · rename_i endpoint remoteAddr assoc pending present
    simp [streamState, association, present] at missing
  · rfl

theorem onStreams_some {state : StreamState rtc} (there : session.streamState = some state) (absent : A)
    (program : StreamM rtc A) :
    ∃ after, onStreams absent program session = (after, (program state).2) ∧
      after.streamState = some (program state).1 ∧ after.sctp.isSome = session.sctp.isSome ∧
      after.dtls = session.dtls := by
  obtain ⟨assoc, found, rfl⟩ := Option.map_eq_some_iff.mp there
  obtain ⟨layer, present, holds⟩ := Option.bind_eq_some_iff.mp found
  obtain ⟨endpoint, remoteAddr, association, pending⟩ := layer
  cases holds
  unfold onStreams
  rw [present]
  exact ⟨_, rfl, rfl, rfl, rfl⟩

theorem moves_onStreams {before after : Phase} {given : StreamState rtc → Prop}
    (moves : Fallible.Triple (fun state => (state.Orderly ∧ before.Holds state.association) ∧ given state) program
      (fun _ state => state.Orderly ∧ after.Holds state.association) StreamState.Orderly) (absent : A) :
    Fallible.Triple (fun session => session.In before ∧ ∀ state, session.streamState = some state → given state)
      (onStreams absent program) (fun _ => In after) (In .between) := by
  rintro session ⟨inPhase, holds⟩
  cases there : session.streamState with
  | none =>
    rw [onStreams_none there]
    exact in_of_no_streams inPhase.paired there after
  | some state =>
    obtain ⟨next, outcome, streams, sameSctp, sameDtls⟩ := onStreams_some there absent program
    have paired : next.sctp.isSome = true → next.dtls.isSome = true := by
      rw [sameSctp, sameDtls]
      exact inPhase.paired
    have result := moves state ⟨inPhase.streams state there, holds state there⟩
    rw [outcome]
    cases ran : program state with
    | mk final value =>
      rw [ran] at result streams
      have only : ∀ state, next.streamState = some state → state = final := by
        intro state found
        rw [streams] at found
        exact (Option.some.inj found).symm
      cases value with
      | ok value => exact ⟨paired, fun state found => only state found ▸ result⟩
      | error e => exact ⟨paired, fun state found => only state found ▸ ⟨result, trivial⟩⟩

theorem moves_extends (obeys : Fallible.Obeys (StreamState.Extends rtc) program) (absent : A) (phase : Phase) :
    Moves phase (onStreams absent program) phase := by
  have kept : Fallible.Triple (fun state => (state.Orderly ∧ phase.Holds state.association) ∧ True) program
      (fun _ state => state.Orderly ∧ phase.Holds state.association) StreamState.Orderly := by
    rintro state ⟨⟨orderly, holds⟩, -⟩
    have extended := obeys state
    cases ran : program state with
    | mk final value =>
      rw [ran] at extended
      cases value with
      | ok value => exact ⟨extended.orderly orderly, holds.extends extended⟩
      | error e => exact extended.orderly orderly
  exact (moves_onStreams kept absent).weaken (fun _ inPhase => ⟨inPhase, fun _ _ => trivial⟩)
    (fun _ _ inPhase => inPhase) fun _ between => between

theorem moves_drain :
    Fallible.Triple (fun session => session.In .listening ∧ ∀ state, session.streamState = some state → state.DrainTaken now)
      (onStreams () (StreamState.drainDcepAndData rtc now)) (fun _ => In .drained) (In .between) := by
  apply moves_onStreams
  exact (StreamState.triple_drainDcepAndData now).weaken (fun _ begun => ⟨begun.1.1, begun.2⟩) (fun _ _ drained => drained)
    fun _ impossible => impossible.elim

-- a change of the SCTP layer that leaves the streams of the association alone
theorem quiet_sctp (session : Session rtc) {change : SctpLayer rtc → SctpLayer rtc}
    (same : ∀ layer assoc, (change layer).association = some assoc → ∃ earlier, layer.association = some earlier ∧
      assoc.announced = earlier.announced ∧ assoc.messages = earlier.messages ∧ assoc.opened = earlier.opened) :
    Quiet session { session with sctp := session.sctp.map change } := by
  constructor
  case paired =>
    rw [Option.isSome_map]
    exact id
  case streams =>
    intro state found
    obtain ⟨assoc, there, rfl⟩ := Option.map_eq_some_iff.mp found
    obtain ⟨changed, present, holds⟩ := Option.bind_eq_some_iff.mp there
    obtain ⟨layer, was, rfl⟩ := Option.map_eq_some_iff.mp present
    obtain ⟨earlier, before, announced, messages, opened⟩ := same layer assoc holds
    refine ⟨⟨earlier, session.channels, session.output⟩, ?_, announced, messages, ?_, fun _ known => known⟩
    · simp [streamState, association, was, before]
    · rw [opened]
      exact List.Subset.refl _

theorem quiet_writePacket (packet : Bytes) (session : Session rtc) :
    Quiet session (writePacket now packet session).1 := by
  have popped : Quiet session { session with sctp := session.sctp.map SctpLayer.popTransmit } :=
    quiet_sctp session fun layer assoc found => ⟨assoc, found, rfl, rfl, rfl⟩
  unfold writePacket
  dsimp only
  split
  · exact popped
  · rename_i dtls present
    refine popped.trans (.of_same rfl ?_ fun _ => rfl)
    rw [present]
    rfl

theorem moves_transmit (phase : Phase) : Moves phase (transmit now : SessionM rtc Unit) phase := by
  refine Fallible.Triple.bind (moves_modify ?_ phase) fun _ => ?_
  · intro session
    apply quiet_sctp session
    intro layer assoc found
    unfold SctpLayer.collectTransmits at found
    split at found
    · rename_i absent
      rw [absent] at found
      cases found
    · rename_i earlier there
      cases found
      exact ⟨earlier, there, rfl, rfl, rfl⟩
  refine Fallible.Triple.read fun session => ?_
  split
  · exact fun _ inPhase => inPhase
  · exact Fallible.Triple.each fun packet _ => moves_of_quiet (quiet_writePacket now packet) phase

-- the session once its pump has taken the events of the association
def eventsHandled (now : Instant) (begun : Session rtc) : Session rtc × Except ProtocolError Bool :=
  onStreams false (StreamState.handleEvents rtc begun.isControlling now) begun

/-- The acknowledgements that the SCTP part of a pump comes to write are taken. -/
def AcksTaken (now : Instant) (begun : Session rtc) : Prop :=
  ∀ failed, (begun.eventsHandled now).2 = .ok failed →
    ∀ state, (begun.eventsHandled now).1.streamState = some state → state.DrainTaken now

/-- After the SCTP part of a pump no announced stream is left to accept. -/
theorem moves_pumpSctp :
    Fallible.Triple (fun session => session.In .listening ∧ session.AcksTaken now) (pumpSctp now : SessionM rtc Bool)
      (fun _ => In .drained) (In .between) := by
  rintro session ⟨listening, taken⟩
  unfold pumpSctp
  rw [Fallible.bind_get]
  by_cases layers : (session.sctp.isSome && session.dtls.isSome) = true
  · rw [if_pos layers]
    have hears := (StreamState.opening_extends rtc).handleEvents now session.isControlling
    refine Fallible.Triple.bind ((moves_extends hears false .listening).remember listening) (fun failed => ?_) session rfl
    rintro handled ⟨heard, outcome⟩
    unfold AcksTaken eventsHandled at taken
    rw [outcome] at taken
    refine Fallible.Triple.bind (moves_drain now) (fun _ => ?_) handled ⟨heard, taken failed rfl⟩
    refine Fallible.Triple.bind (moves_transmit now .drained) fun _ => ?_
    refine Fallible.Triple.bind (moves_modify quiet_flushDtls .drained) fun _ => ?_
    exact fun _ drained => drained
  · -- without both layers there is no association
    rw [if_neg layers]
    apply in_of_no_streams listening.paired
    cases present : session.sctp with
    | none => simp [streamState, association, present]
    | some layer =>
      have there : session.sctp.isSome = true := by rw [present]; rfl
      exact absurd (by rw [there, listening.paired there]; rfl) layers

theorem quiet_conclude (session : Session rtc) (now : Instant) (failed : Bool) : Quiet session (session.conclude now failed) := by
  have failing : Quiet session (if failed then session.fail else session) := by
    split
    · exact quiet_fail session
    · exact .refl session
  exact failing.trans ((quiet_announceReady _).trans (quiet_checkDeadline _ now))

theorem moves_startLayers : Moves .listening (startLayers now : SessionM rtc Unit) .listening :=
  Fallible.Triple.bind (moves_modify quiet_pollIce .listening) fun _ => moves_startTransportsOnSelectedPair now

theorem moves_pump :
    Fallible.Triple (fun session => session.In .listening ∧ ∀ begun, startLayers now session = (begun, .ok ()) → begun.AcksTaken now)
      (pump now : SessionM rtc Unit) (fun _ => In .drained) (In .between) := by
  rintro session ⟨listening, taken⟩
  rw [pump_eq]
  refine Fallible.Triple.bind ((moves_startLayers now).remember listening) (fun _ => ?_) session rfl
  rintro begun ⟨started, outcome⟩
  refine Fallible.Triple.bind (moves_pumpSctp now) (fun failed => ?_) begun ⟨started, taken begun outcome⟩
  exact moves_modify (fun session => quiet_conclude session now failed) .drained

/-! ### Inputs -/

theorem moves_send (channel : Channel) (data : Bytes) (now : Instant) (phase : Phase) :
    Moves phase (send channel data now : SessionM rtc Unit) phase := by
  have refused : ∀ error, Moves phase (.ofExcept (.error error) : SessionM rtc Unit) phase :=
    fun error => .ofExcept (fun _ inPhase _ _ => inPhase) fun _ inPhase _ _ => inPhase.between
  refine Fallible.Triple.read fun session => ?_
  split
  · exact refused _
  · rename_i stream _
    split
    · exact refused _
    · exact refused _
    · exact moves_extends ((StreamState.opening_extends rtc).sendFrames now stream channel data) () phase

theorem quiet_afterPump (session : Session rtc) : Quiet session (afterPump input session) := by
  cases input with
  | remoteDescription remote candidates now => exact quiet_pushWait session now
  | timeout now => exact quiet_pushWait session now
  | _ => exact .refl session

-- without a pump there is no association whose streams could wait
theorem moves_beforePump :
    Fallible.Triple (In .listening) (beforePump input : SessionM rtc (Option Instant))
      (fun pumps session => session.In (if pumps.isSome then .listening else .drained)) (In .between) := by
  cases input with
  | packet data source now =>
    dsimp only [beforePump]
    split
    · exact Fallible.Triple.bind (moves_onIce _ .listening) fun _ _ listening => listening
    · refine Fallible.Triple.get.bind fun session => ?_
      split
      · rename_i absent
        suffices buffered : Fallible.Triple _ (.modify (bufferEarly data)) (fun _ => In .drained) (In .between) from
          buffered.bind fun _ _ drained => drained
        apply Fallible.Triple.modify
        rintro _ ⟨rfl, listening⟩
        have none : session.sctp = none := by
          cases present : session.sctp with
          | none => rfl
          | some layer =>
            have there := listening.paired (by rw [present]; rfl)
            rw [Option.isNone_iff_eq_none.mp absent] at there
            cases there
        have quiet : Quiet session (bufferEarly data session) := by
          unfold bufferEarly
          split
          · exact .of_same rfl rfl fun _ => rfl
          · exact .refl session
        apply quiet.keeps
        exact in_of_no_streams listening.paired (by simp [streamState, association, none]) .drained
      · exact Fallible.Triple.bind ((moves_readDtls data now).weaken (fun _ begun => begun.2)
          (fun _ _ listening => listening) fun _ between => between) fun _ _ listening => listening
  | remoteDescription remote candidates now =>
    refine Fallible.Triple.bind (moves_onIce _ .listening) fun _ => ?_
    refine Fallible.Triple.bind (moves_modify ?_ .listening) fun _ => ?_
    · exact fun session => .of_same rfl rfl fun _ => rfl
    refine Fallible.Triple.bind (Fallible.Triple.each fun candidate _ => moves_onIce _ .listening) fun _ => ?_
    refine Fallible.Triple.bind (moves_modify ?_ .listening) fun _ _ listening => listening
    exact fun session => .of_same rfl rfl fun _ => rfl
  | remoteCandidate candidate now => exact Fallible.Triple.bind (moves_onIce _ .listening) fun _ _ listening => listening
  | send channel data now =>
    exact Fallible.Triple.bind (moves_send channel data now .listening) fun _ _ listening => listening
  | timeout now =>
    refine Fallible.Triple.bind (moves_onIce _ .listening) fun _ => ?_
    refine Fallible.Triple.bind (moves_modify ?_ .listening) fun _ => ?_
    · exact fun session => .of_same rfl (Option.isSome_map ..) fun _ => rfl
    refine Fallible.Triple.bind (moves_modify ?_ .listening) fun _ _ listening => listening
    intro session
    apply quiet_sctp session
    intro layer assoc found
    unfold SctpLayer.handleTimeout at found
    split at found
    · rename_i absent
      rw [absent] at found
      cases found
    · rename_i earlier there
      cases found
      exact ⟨earlier, there, rfl, rfl, rfl⟩

/-- The acknowledgements that the call comes to write are taken, each in the state in which it is written. -/
def Acknowledges (session : Session rtc) (input : SessionInput Candidate) : Prop :=
  ∀ before now, beforePump input session = (before, .ok (some now)) →
    ∀ begun, startLayers now before = (begun, .ok ()) → begun.AcksTaken now

/-- Every input leaves the streams in order, and none waiting when it returns without an error. -/
theorem moves_handle :
    Fallible.Triple (fun session => session.In .listening ∧ session.Acknowledges input) (handle input : SessionM rtc Unit)
      (fun _ => In .drained) (In .between) := by
  rintro session ⟨listening, taken⟩
  rw [handle_eq]
  refine Fallible.Triple.bind ((moves_beforePump input).remember listening) (fun pumps => ?_) session rfl
  rintro before ⟨first, outcome⟩
  cases pumps with
  | none => exact first
  | some now =>
    refine Fallible.Triple.bind (moves_pump now) (fun _ => ?_) before ⟨first, taken before now outcome⟩
    exact moves_modify (quiet_afterPump input) .drained

/-! ## Whole runs -/

def step (session : Session rtc) (input : SessionInput Candidate) : Session rtc × Except ProtocolError Unit :=
  handle input session

/-- Every stream accepted so far had a readable first message, which fits if it is a request. -/
def Prompt (session : Session rtc) : Prop :=
  ∀ assoc, session.association = some assoc → ∀ stream ∈ assoc.announced.past,
    ∃ chunks, assoc.firstMessage stream = some chunks ∧ ∀ channel, Asks rtc chunks channel → FitsBuffer rtc chunks

-- the streams that the call accepts are readable, and it can answer the requests among them
def Attends (session : Session rtc) (input : SessionInput Candidate) : Prop :=
  (session.step input).1.Prompt ∧ session.Acknowledges input

theorem In.listening (inPhase : session.In phase) (prompt : session.Prompt) : session.In .listening := by
  refine ⟨inPhase.paired, ?_⟩
  intro state found
  refine ⟨(inPhase.streams state found).1, ?_⟩
  obtain ⟨assoc, there, rfl⟩ := Option.map_eq_some_iff.mp found
  intro stream member
  obtain ⟨chunks, first, -⟩ := prompt assoc there stream member
  show (assoc.firstMessage stream).isSome = true
  rw [first]
  rfl

theorem between_step (listening : session.In .listening) {input : SessionInput Candidate}
    (taken : session.Acknowledges input) : (session.step input).1.In .between := by
  have moves := (moves_handle input : Fallible.Triple _ (handle input : SessionM rtc Unit) _ _).weaken (fun _ begun => begun)
    (fun _ _ drained => drained.between) fun _ between => between
  exact moves.left ⟨listening, taken⟩

theorem listening_run (listening : session.In .listening) {inputs : List (SessionInput Candidate)}
    (attends : Along step Attends session inputs) : (run step session inputs).1.In .listening := by
  apply Along.invariant step _ listening attends
  intro session input listening attends
  exact (between_step listening attends.2).listening attends.1

theorem listening_start (localAddr : SocketAddr) (isControlling : Bool) (ice : rtc.Agent) (certificate : rtc.Certificate) :
    (new localAddr isControlling ice certificate).In .listening :=
  in_of_no_streams (fun present => by cases present) rfl .listening

/-- In a run that accepts streams only once their first message is readable, and can answer the
requests among them, every request that is readable when an input returns without an error has
opened its channel. -/
theorem readable_open_answered (localAddr : SocketAddr) (isControlling : Bool) (ice : rtc.Agent)
    (certificate : rtc.Certificate) (inputs : List (SessionInput Candidate)) (input : SessionInput Candidate)
    (attends : Along step Attends (new localAddr isControlling ice certificate) inputs) :
    let before := (run step (new localAddr isControlling ice certificate) inputs).1
    let after := (before.step input).1
    before.Attends input → (before.step input).2 = .ok () →
      ∀ assoc, after.association = some assoc → ∀ stream ∈ assoc.announced.items, ∀ chunks,
        assoc.firstMessage stream = some chunks → ∀ channel, Asks rtc chunks channel →
          (after.channels.streamId channel).isSome = true := by
  intro before after attending succeeded assoc there stream announced chunks first channel asks
  have listening : before.In .listening :=
    listening_run (listening_start localAddr isControlling ice certificate) attends
  have drained : after.In .drained := by
    apply (moves_handle input).ok ⟨listening, attending.2⟩
    show before.step input = (after, .ok ())
    rw [← succeeded]
  have found : after.streamState = some ⟨assoc, after.channels, after.output⟩ := by
    rw [streamState, there]
    rfl
  obtain ⟨orderly, empty⟩ := drained.streams _ found
  -- nothing waits, so every announced stream was accepted
  have accepted : stream ∈ assoc.announced.past := by
    have none : assoc.announced.waiting = [] := empty
    rwa [Feed.items, none, List.append_nil] at announced
  obtain ⟨heard, readable, fits⟩ := attending.1 assoc there stream accepted
  rw [first] at readable
  cases readable
  exact orderly.2 stream accepted chunks first (fits channel asks) channel asks

/-! ## An open that arrives late -/

-- a DCEP message on the wire; numbers are big-endian
def unmarshalDcep : Bytes → Except String DcepMessage
  | 2 :: _ => .ok .dataChannelAck
  | 3 :: _ :: p1 :: p2 :: _ :: _ :: _ :: _ :: l1 :: l2 :: _ :: _ :: body =>
    let length := l1.toNat * 256 + l2.toNat
    if body.length < length then .error "short message"
    else .ok (.dataChannelOpen ⟨.reliable, UInt16.ofNat (p1.toNat * 256 + p2.toNat), 0, body.take length, body.drop length⟩)
  | _ => .error "unknown message"

def marshalDcep : DcepMessage → Bytes
  | .dataChannelAck => [2]
  | .dataChannelOpen content =>
    [3, 0, 1, 0, 0, 0, 0, 0, 0, UInt8.ofNat content.label.length, 0, 0] ++ content.label

/-- Stacks on a path that is up from the start. An empty packet is a later chunk of stream 1, any
other packet completes the first message of that stream. -/
def quietRtc : Rtc Unit where
  Agent := Unit
  setRemoteCredentials _ _ _ := ((), .ok ())
  addRemoteCandidate _ _ := ((), .ok ())
  isStunMessage _ := false
  agentRead _ _ _ _ := ((), .ok ())
  agentWrites _ := ((), [])
  agentEvents _ := ((), [])
  agentTimeout _ _ := ((), .ok ())
  agentPollTimeout _ := ((), none)
  selectedRemote _ := some (.v4 0x7f000001 7)
  Certificate := Unit
  Dtls := Unit
  dtlsNew _ _ _ _ _ _ := .ok ()
  dtlsRead _ data _ := ((), .ok [data])
  dtlsWrite _ _ _ := ((), .ok ())
  dtlsTransmits _ := ((), [])
  dtlsTimeout _ _ := ()
  dtlsPollTimeout _ := none
  Endpoint := Unit
  Rest := Unit
  AssociationEvent := Bytes
  endpointNew _ _ := ()
  connect _ _ _ _ := ((), .ok ())
  endpointHandle _ _ _ data := ((), some (.associationEvent data))
  associationEvent _ data := ((), if data = [] then [.announce 1] else [.announce 1, .message 1 ⟨.dcep, data⟩])
  sctpTimeout _ _ _ := ((), (), [])
  sctpPollTimeout _ := none
  rtt _ := 0
  openStream _ _ := ((), .ok ())
  streamAlreadyExists := "stream already exists"
  streamMissing := "stream does not exist"
  usable _ _ := true
  write _ _ _ _ _ := ((), .ok ())
  transmits _ _ := ((), [])
  toPayload chunks limit := if chunks.data.length ≤ limit then .ok chunks.data else .error "short buffer"
  toPayload_data := by
    intro chunks limit data payload
    split at payload
    · cases payload
      rfl
    · cases payload
  unmarshal := unmarshalDcep
  marshal message := .ok (marshalDcep message)

def answerer : Session quietRtc := new (.v4 0x7f000001 8) false () ()

def offered : SessionInput Unit := .remoteDescription ⟨⟨"u", "p"⟩, .server, ("sha-256", ""), 65536, none⟩ [] 0

def openBytes : Bytes := marshalDcep (.dataChannelOpen Dcep.reliableOpen)

def packetOf (data : Bytes) : SessionInput Unit := .packet data (.v4 0x7f000001 7) 0

def afterLateOpen : Session quietRtc × List (Except ProtocolError Unit) :=
  run step answerer [offered, packetOf [], packetOf openBytes]

theorem asks_openBytes : Asks quietRtc ⟨.dcep, openBytes⟩ .reliable :=
  ⟨Dcep.reliableOpen, by decide +kernel, by decide +kernel⟩

theorem prompt_of_open {session : Session quietRtc} {accepted : List StreamId}
    (past : session.association.map (·.announced.past) = some accepted)
    (first : ∀ stream ∈ accepted, session.association.bind (·.firstMessage stream) = some ⟨.dcep, openBytes⟩) :
    session.Prompt := by
  intro assoc there stream member
  rw [there] at past first
  cases past
  exact ⟨_, first stream member, fun channel asks => ⟨openBytes, by decide +kernel⟩⟩

-- these stacks take every write
theorem acknowledges_quiet (session : Session quietRtc) (input : SessionInput Unit) : session.Acknowledges input := by
  have taken (now : Instant) (turns : Nat) (state : StreamState quietRtc) : StreamState.AcksTaken now turns state := by
    induction turns generalizing state with
    | zero => trivial
    | succ turns ih =>
      unfold StreamState.AcksTaken
      split
      · trivial
      · exact ⟨fun channel _ => ⟨[2], rfl, rfl⟩, ih _⟩
  intro before now _ begun _ failed _ state _
  exact taken now _ state

def afterOffer : Session quietRtc := (run step answerer [offered]).1

theorem early_open_answered : ((afterOffer.step (packetOf openBytes)).1.channels.streamId .reliable).isSome = true := by
  have described : (answerer.step offered).1.Prompt := by
    have none : (answerer.step offered).1.association.map (·.announced.past) = some [] := by decide +kernel
    exact prompt_of_open none fun _ member => absurd member List.not_mem_nil
  have prompt : (afterOffer.step (packetOf openBytes)).1.Prompt := by
    have one : (afterOffer.step (packetOf openBytes)).1.association.map (·.announced.past) = some [1] := by
      decide +kernel
    apply prompt_of_open one
    rw [List.forall_mem_singleton]
    decide +kernel
  have first : (afterOffer.step (packetOf openBytes)).1.association.bind (·.firstMessage 1) =
      some ⟨.dcep, openBytes⟩ := by decide +kernel
  have announced : (afterOffer.step (packetOf openBytes)).1.association.map (·.announced.items) = some [1] := by
    decide +kernel
  have succeeded : (afterOffer.step (packetOf openBytes)).2 = .ok () := by decide +kernel
  obtain ⟨assoc, there, items⟩ := Option.map_eq_some_iff.mp announced
  rw [there] at first
  have member : 1 ∈ assoc.announced.items := by
    rw [items]
    exact List.mem_singleton.mpr rfl
  have along : Along step Attends answerer [offered] := ⟨⟨described, acknowledges_quiet _ _⟩, trivial⟩
  have attends : afterOffer.Attends (packetOf openBytes) := ⟨prompt, acknowledges_quiet _ _⟩
  unfold afterOffer answerer at attends succeeded there ⊢
  unfold answerer at along
  exact readable_open_answered _ _ _ _ _ _ along attends succeeded assoc there 1 member _ first .reliable asks_openBytes

theorem late_open_lost : afterLateOpen.2 = [.ok (), .ok (), .ok ()] ∧
    afterLateOpen.1.association.map (·.announced.items) = some [1] ∧
    afterLateOpen.1.association.bind (·.firstMessage 1) = some ⟨.dcep, openBytes⟩ ∧
    Asks quietRtc ⟨.dcep, openBytes⟩ .reliable ∧ afterLateOpen.1.channels.streamId .reliable = none :=
  ⟨by decide +kernel, by decide +kernel, by decide +kernel, asks_openBytes, by decide +kernel⟩

end Session

end Nethernet
