import Nethernet.Session.Establish

/-! What the layers answer to a pump, and what comes of it: whether its SCTP part succeeds, which channels
are open after it, and whether ICE or SCTP reported a loss to it. -/

set_option autoImplicit false

namespace Nethernet
open Foundation

variable {Candidate : Type} {rtc : Rtc Candidate}

def SctpEvent.isLoss : SctpEvent → Bool
  | .handshakeFailed | .associationLost => true
  | .connected | .other => false

/-! ## Streams -/

variable {state : StreamState rtc} {now : Instant} {after : StreamState rtc} {value : Unit} {failed : Bool}

namespace StreamState

section
variable {channels : Channels}

theorem still_openStream (stream : StreamId) :
    Fallible.Triple (fun state => state.channels = channels) (openStream rtc stream)
      (fun _ state => state.channels = channels) fun _ => True := by
  intro state same
  unfold openStream
  split_ifs
  · trivial
  · cases rtc.openStream state.association.rest stream with
    | mk rest result => cases result <;> first | exact same | trivial

theorem sets_openChannel (now : Instant) (channel : StreamId × Channel × DataChannelOpen) :
    Fallible.Triple (fun state => state.channels = channels) (openChannel rtc now channel)
      (fun _ state => state.channels = channels.setOpen channel.2.1 channel.1) fun _ => True := by
  refine (still_openStream channel.1).bind fun _ => ?_
  refine Fallible.Triple.bind (.ofExcept (fun _ same _ _ => same) fun _ _ _ _ => trivial) fun encoded => ?_
  refine (still_write channel.1 now encoded .dcep).bind fun _ => ?_
  exact .modify fun state same => by rw [same]

theorem sets_ownChannels (now : Instant) :
    Fallible.Triple (fun state => state.channels = channels) (.each ownChannels (openChannel rtc now))
      (fun _ state => state.channels =
        (channels.setOpen .reliable reliableStreamId).setOpen .unreliable unreliableStreamId) fun _ => True := by
  refine (sets_openChannel now _).bind fun _ => ?_
  refine (sets_openChannel now _).bind fun _ => ?_
  exact .pure fun _ same => same

end

theorem openChannelsIfControlling_opened {isControlling : Bool}
    (outcome : openChannelsIfControlling rtc isControlling now state = (after, .ok value)) (channel : Channel) :
    (after.channels.streamId channel).isSome = true ↔
      (state.channels.streamId channel).isSome = true ∨ isControlling = true := by
  unfold openChannelsIfControlling at outcome
  cases isControlling with
  | false =>
    cases outcome
    simp
  | true =>
    have both := (sets_ownChannels now).ok (rfl : state.channels = _) outcome
    rw [both, isSome_setOpen, isSome_setOpen]
    cases channel <;> simp

/-- An event loop that succeeds returns whether it has seen a loss; if the session controls it opens both channels
when it connects. -/
theorem eventLoop_ok {isControlling : Bool} {events : List SctpEvent} {result : Bool}
    (outcome : eventLoop rtc isControlling now events failed state = (after, .ok result)) :
    result = (failed || events.any SctpEvent.isLoss) ∧ ∀ channel, (after.channels.streamId channel).isSome = true ↔
      (state.channels.streamId channel).isSome = true ∨ isControlling = true ∧ .connected ∈ events := by
  induction events generalizing failed state with
  | nil =>
    cases outcome
    simp
  | cons event rest ih =>
    unfold eventLoop at outcome
    rw [Fallible.bind_of_ok (show Fallible.modify _ state = (_, .ok ()) from rfl)] at outcome
    rw [List.any_cons]
    cases event with
    | connected =>
      obtain ⟨next, value, opened, looped⟩ := Fallible.bind_ok_iff.mp outcome
      have later := ih looped
      refine ⟨later.1, fun channel => ?_⟩
      rw [later.2, openChannelsIfControlling_opened opened]
      cases isControlling <;> simp
    | handshakeFailed =>
      have later := ih outcome
      exact ⟨by rw [later.1, SctpEvent.isLoss, Bool.true_or, Bool.or_true], fun channel => by simpa using later.2 channel⟩
    | associationLost =>
      have later := ih outcome
      exact ⟨by rw [later.1, SctpEvent.isLoss, Bool.true_or, Bool.or_true], fun channel => by simpa using later.2 channel⟩
    | other =>
      have later := ih outcome
      exact ⟨later.1, fun channel => by simpa using later.2 channel⟩

/-- One of the streams that the accept loop takes asks for the channel. -/
def Requested (now : Instant) (channel : Channel) : Nat → StreamState rtc → Prop
  | 0, _ => False
  | turns + 1, state =>
    match state.association.acceptStream with
    | (_, none) => False
    | (association, some stream) =>
      (association.read stream).2.bind (requestedChannel rtc) = some channel ∨
        Requested now channel turns (answerOpen rtc now stream { state with association := association }).1

theorem answerOpen_opened {stream : StreamId} (outcome : answerOpen rtc now stream state = (after, .ok value))
    (channel : Channel) :
    (after.channels.streamId channel).isSome = true ↔ (state.channels.streamId channel).isSome = true ∨
      (state.association.read stream).2.bind (requestedChannel rtc) = some channel := by
  rw [answerOpen_eq] at outcome
  cases requested : (state.association.read stream).2.bind (requestedChannel rtc) with
  | none =>
    rw [requested] at outcome
    cases outcome
    simp
  | some asked =>
    rw [requested] at outcome
    dsimp only at outcome
    have same := (sets_acknowledge now stream asked).ok rfl outcome
    rw [same, isSome_setOpen, Option.some.injEq]

theorem acceptLoop_opened {turns : Nat} (outcome : acceptLoop rtc now turns state = (after, .ok value))
    (channel : Channel) :
    (after.channels.streamId channel).isSome = true ↔
      (state.channels.streamId channel).isSome = true ∨ Requested now channel turns state := by
  induction turns generalizing state with
  | zero =>
    cases outcome
    exact (or_iff_left not_false).symm
  | succ turns ih =>
    unfold acceptLoop at outcome
    unfold Requested
    rw [Fallible.bind_of_ok (show acceptStream rtc state = (_, .ok _) from rfl)] at outcome
    cases yielded : state.association.acceptStream with
    | mk association stream =>
      rw [yielded] at outcome
      cases stream with
      | none =>
        cases outcome
        exact (or_iff_left not_false).symm
      | some stream =>
        dsimp only
        obtain ⟨next, value, answered, looped⟩ := Fallible.bind_ok_iff.mp outcome
        rw [ih looped, answerOpen_opened answered, or_assoc, answered]

-- messages open no channel
theorem streamId_handleChunks (channel : Channel) (state : StreamState rtc) (chunks : Chunks) (other : Channel) :
    (handleChunks channel state chunks).channels.streamId other = state.channels.streamId other := by
  unfold handleChunks
  split
  · rfl
  · split
    · rfl
    · split
      · rfl
      · unfold handleSegment
        split
        · dsimp only
          split <;> cases other <;> rfl
        · split <;> rfl

theorem streamId_drainChannel (state : StreamState rtc) (channel other : Channel) :
    (drainChannel state channel).channels.streamId other = state.channels.streamId other := by
  unfold drainChannel
  split
  · rfl
  · split
    · apply List.foldlRecOn (motive := fun after : StreamState rtc => after.channels.streamId other = state.channels.streamId other)
      · rfl
      · intro next same chunks _
        rw [streamId_handleChunks, same]
    · rfl

theorem drainDcepAndData_opened (outcome : drainDcepAndData rtc now state = (after, .ok value)) (channel : Channel) :
    (after.channels.streamId channel).isSome = true ↔ (state.channels.streamId channel).isSome = true ∨
      Requested now channel state.association.announced.waiting.length state := by
  obtain ⟨next, value, accepted, drained⟩ := Fallible.bind_ok_iff.mp outcome
  cases drained
  rw [← acceptLoop_opened accepted]
  dsimp only
  rw [List.foldl_cons, List.foldl_cons, List.foldl_nil, streamId_drainChannel, streamId_drainChannel]

end StreamState

/-! ## The SCTP part of a pump -/

variable {session : Session rtc}

namespace Session

def queuedEvents (session : Session rtc) : List SctpEvent := (session.association.map (·.events)).getD []

def drained (now : Instant) (begun : Session rtc) : Session rtc × Except ProtocolError Unit :=
  onStreams () (StreamState.drainDcepAndData rtc now) (begun.eventsHandled now).1

-- DTLS takes the packets one after the other
def WritesTaken (now : Instant) : rtc.Dtls → List Bytes → Prop
  | _, [] => True
  | dtls, packet :: rest =>
    (rtc.dtlsWrite dtls packet now).2 = .ok () ∧ WritesTaken now (rtc.dtlsWrite dtls packet now).1 rest

/-- SCTP opens the streams and takes the acknowledgements of a pump, and DTLS takes its packets. -/
structure LayersTake (now : Instant) (begun : Session rtc) (dtls : rtc.Dtls) : Prop where
  opens : ∀ state, begun.streamState = some state →
    StreamState.EventsTaken begun.isControlling now state.association.events state
  acks : ∀ state, (begun.eventsHandled now).1.streamState = some state → state.DrainTaken now
  writes : ∀ layer, (begun.drained now).1.sctp = some layer →
    WritesTaken now dtls (layer.collectTransmits now).pendingTransmits

-- without DTLS there is nothing to ask them
def Unhindered (now : Instant) (begun : Session rtc) : Prop := ∀ dtls, begun.dtls = some dtls → begun.LayersTake now dtls

theorem succeeds_onStreams {A : Type} {absent : A} {program : StreamM rtc A} :
    Fallible.Succeeds (onStreams absent program) session ↔
      ∀ state, session.streamState = some state → Fallible.Succeeds program state := by
  cases there : session.streamState with
  | none =>
    unfold Fallible.Succeeds
    rw [onStreams_none there]
    exact iff_of_true ⟨absent, rfl⟩ nofun
  | some state =>
    obtain ⟨after, ran, -⟩ := onStreams_some there absent program
    unfold Fallible.Succeeds
    rw [ran]
    simp

theorem dtls_onStreams {A : Type} (absent : A) (program : StreamM rtc A) (session : Session rtc) :
    (onStreams absent program session).1.dtls = session.dtls := by
  unfold onStreams
  split <;> rfl

theorem succeeds_writePackets {packets : List Bytes} {dtls : rtc.Dtls} (present : session.dtls = some dtls) :
    Fallible.Succeeds (.each packets (writePacket now)) session ↔ WritesTaken now dtls packets := by
  induction packets generalizing session dtls with
  | nil => exact iff_of_true ⟨(), rfl⟩ trivial
  | cons packet rest ih =>
    have wrote : writePacket now packet session =
        ({ session with
            sctp := session.sctp.map SctpLayer.popTransmit
            dtls := some (rtc.dtlsWrite dtls packet now).1 }, (rtc.dtlsWrite dtls packet now).2.mapError .other) := by
      unfold writePacket
      simp only [present]
    show Fallible.Succeeds (writePacket now packet >>= fun _ => Fallible.each rest (writePacket now)) session ↔ _
    rw [Fallible.succeeds_seq, wrote, ih rfl, WritesTaken]
    refine and_congr_left' ?_
    unfold Fallible.Succeeds
    rw [wrote]
    simp only [StreamState.mapError_ok_iff]
    exact ⟨fun ⟨_, taken⟩ => taken, fun taken => ⟨(), taken⟩⟩

theorem succeeds_transmit {dtls : rtc.Dtls} (present : session.dtls = some dtls) :
    Fallible.Succeeds (transmit now) session ↔
      ∀ layer, session.sctp = some layer → WritesTaken now dtls (layer.collectTransmits now).pendingTransmits := by
  unfold transmit
  rw [Fallible.succeeds_bind_of_ok (show Fallible.modify _ session = (_, .ok ()) from rfl),
    Fallible.succeeds_bind_of_ok (show Fallible.get _ = (_, .ok _) from rfl)]
  cases there : session.sctp with
  | none => exact iff_of_true ⟨(), rfl⟩ nofun
  | some layer =>
    simp only [Option.map_some, Option.some.injEq, forall_eq']
    exact succeeds_writePackets present

theorem succeeds_pumpSctp {begun : Session rtc} : Fallible.Succeeds (pumpSctp now) begun ↔ begun.Unhindered now := by
  unfold pumpSctp
  rw [Fallible.succeeds_bind_of_ok (show Fallible.get begun = (begun, .ok begun) from rfl)]
  unfold Unhindered
  cases present : begun.dtls with
  | none =>
    rw [if_neg (by simp)]
    exact iff_of_true ⟨false, rfl⟩ fun _ impossible => by cases impossible
  | some dtls =>
    simp only [Option.some.injEq, forall_eq']
    cases there : begun.sctp with
    | none =>
      rw [if_neg (by simp)]
      have missing : begun.streamState = none := by simp [streamState, association, there]
      have handled : (begun.eventsHandled now).1 = begun := by rw [eventsHandled, onStreams_none missing]
      refine iff_of_true ⟨false, rfl⟩ ⟨?_, ?_, ?_⟩
      · simp [missing]
      · simp [handled, missing]
      · simp [drained, handled, onStreams_none missing, there]
    | some layer =>
      rw [if_pos (by simp)]
      have handled : (begun.eventsHandled now).1.dtls = some dtls := (dtls_onStreams false _ begun).trans present
      have emptied : (begun.drained now).1.dtls = some dtls := (dtls_onStreams () _ _).trans handled
      have rest (failed : Bool) : Fallible.Succeeds (do
          onStreams () (StreamState.drainDcepAndData rtc now)
          transmit now
          .modify flushDtls
          return failed) (begun.eventsHandled now).1 ↔
          (∀ state, (begun.eventsHandled now).1.streamState = some state → state.DrainTaken now) ∧
            ∀ layer, (begun.drained now).1.sctp = some layer →
              WritesTaken now dtls (layer.collectTransmits now).pendingTransmits := by
        rw [Fallible.succeeds_seq, succeeds_onStreams, Fallible.succeeds_bind_total fun _ _ => ⟨failed, rfl⟩]
        refine and_congr (forall₂_congr fun _ _ => StreamState.succeeds_drainDcepAndData) ?_
        exact succeeds_transmit emptied
      have first : Fallible.Succeeds (onStreams false (StreamState.handleEvents rtc begun.isControlling now)) begun ↔
          ∀ state, begun.streamState = some state →
            StreamState.EventsTaken begun.isControlling now state.association.events state := by
        rw [succeeds_onStreams]
        exact forall₂_congr fun state _ => StreamState.succeeds_eventLoop _ now state.association.events false state
      rw [Fallible.succeeds_bind]
      constructor
      · rintro ⟨failed, ran, later⟩
        have taken := (rest failed).mp later
        exact ⟨first.mp ⟨failed, ran⟩, taken.1, taken.2⟩
      · intro taken
        obtain ⟨failed, ran⟩ := first.mpr taken.opens
        exact ⟨failed, ran, (rest failed).mpr ⟨taken.acks, taken.writes⟩⟩

/-- The channel is open, or becomes so: in the session that controls when SCTP connects, and when the peer asks
for it. -/
def Opens (now : Instant) (begun : Session rtc) (channel : Channel) : Prop :=
  (begun.channels.streamId channel).isSome = true ∨
    begun.dtls.isSome = true ∧ (begun.isControlling = true ∧ .connected ∈ begun.queuedEvents ∨
      ∃ state, (begun.eventsHandled now).1.streamState = some state ∧
        state.Requested now channel state.association.announced.waiting.length)

-- SCTP has reported that its association is over
def sctpLost (begun : Session rtc) : Bool := begun.dtls.isSome && begun.queuedEvents.any SctpEvent.isLoss

section
variable {begun next : Session rtc}

theorem streamState_eq_some (there : session.streamState = some state) :
    state.channels = session.channels ∧ session.queuedEvents = state.association.events := by
  obtain ⟨assoc, found, rfl⟩ := Option.map_eq_some_iff.mp there
  rw [queuedEvents, found]
  exact ⟨rfl, rfl⟩

theorem queuedEvents_of_none (missing : session.streamState = none) : session.queuedEvents = [] := by
  have none : session.association = none := Option.map_eq_none_iff.mp missing
  rw [queuedEvents, none]
  rfl

theorem onStreams_ok {A : Type} {absent value : A} {program : StreamM rtc A} {after : Session rtc}
    (there : session.streamState = some state) (outcome : onStreams absent program session = (after, .ok value)) :
    ∃ left, program state = (left, .ok value) ∧ left.channels = after.channels := by
  obtain ⟨reached, ran, streams, -⟩ := onStreams_some there absent program
  rw [ran, Prod.mk.injEq] at outcome
  rw [outcome.1] at streams
  exact ⟨(program state).1, Prod.ext rfl outcome.2, (streamState_eq_some streams).1⟩

theorem eventsHandled_ok (outcome : begun.eventsHandled now = (next, .ok failed)) :
    failed = begun.queuedEvents.any SctpEvent.isLoss ∧ ∀ channel, (next.channels.streamId channel).isSome = true ↔
      (begun.channels.streamId channel).isSome = true ∨ begun.isControlling = true ∧ .connected ∈ begun.queuedEvents := by
  cases there : begun.streamState with
  | none =>
    rw [eventsHandled, onStreams_none there] at outcome
    cases outcome
    simp [queuedEvents_of_none there]
  | some state =>
    obtain ⟨left, ran, same⟩ := onStreams_ok there outcome
    have looped := StreamState.eventLoop_ok ran
    obtain ⟨channels, events⟩ := streamState_eq_some there
    rw [events, ← channels, ← same]
    exact looped

theorem drained_ok {handled : Session rtc}
    (outcome : onStreams () (StreamState.drainDcepAndData rtc now) handled = (next, .ok value)) (channel : Channel) :
    (next.channels.streamId channel).isSome = true ↔ (handled.channels.streamId channel).isSome = true ∨
      ∃ state, handled.streamState = some state ∧
        state.Requested now channel state.association.announced.waiting.length := by
  cases there : handled.streamState with
  | none =>
    rw [onStreams_none there] at outcome
    cases outcome
    simp
  | some state =>
    obtain ⟨left, ran, same⟩ := onStreams_ok there outcome
    rw [← same, StreamState.drainDcepAndData_opened ran, (streamState_eq_some there).1]
    simp

theorem channels_flushDtls (session : Session rtc) : session.flushDtls.channels = session.channels := by
  unfold flushDtls
  split <;> rfl

theorem still_transmit {channels : Channels} (now : Instant) :
    Fallible.Triple (fun session : Session rtc => session.channels = channels) (transmit now)
      (fun _ session => session.channels = channels) fun session => session.channels = channels := by
  have collected : Fallible.Triple (fun session : Session rtc => session.channels = channels)
      (.modify fun session => { session with sctp := session.sctp.map (·.collectTransmits now) } : SessionM rtc Unit)
      (fun _ session => session.channels = channels) fun session => session.channels = channels :=
    .modify fun _ same => same
  refine collected.bind fun _ => Fallible.Triple.read fun session => ?_
  split
  · exact .pure fun _ same => same
  · refine Fallible.Triple.each fun packet _ => ?_
    intro session same
    unfold writePacket
    dsimp only
    cases session.dtls with
    | none => exact same
    | some dtls =>
      dsimp only
      cases (rtc.dtlsWrite dtls packet now).2 <;> exact same

theorem pumpSctp_ok {after : Session rtc} (outcome : pumpSctp now begun = (after, .ok failed)) :
    failed = begun.sctpLost ∧ ∀ channel, (after.channels.streamId channel).isSome = true ↔ begun.Opens now channel := by
  unfold pumpSctp at outcome
  rw [Fallible.bind_get] at outcome
  unfold sctpLost Opens
  split at outcome
  · rename_i present
    rw [Bool.and_eq_true] at present
    obtain ⟨handled, flag, first, outcome⟩ := Fallible.bind_ok_iff.mp outcome
    obtain ⟨emptied, _, second, outcome⟩ := Fallible.bind_ok_iff.mp outcome
    obtain ⟨sent, _, third, outcome⟩ := Fallible.bind_ok_iff.mp outcome
    cases outcome
    obtain ⟨lost, opened⟩ := eventsHandled_ok first
    have same := (still_transmit now).ok rfl third
    have handledAt : (begun.eventsHandled now).1 = handled := congrArg Prod.fst first
    rw [present.2, Bool.true_and, handledAt]
    refine ⟨lost, fun channel => ?_⟩
    rw [channels_flushDtls, same, drained_ok second, opened, or_assoc]
    simp
  · rename_i absent
    cases outcome
    cases layer : begun.dtls with
    | none => simp
    | some dtls =>
      -- without SCTP there are no streams
      have missing : begun.streamState = none := by simp_all [streamState, association]
      have handled : (begun.eventsHandled now).1 = begun := by rw [eventsHandled, onStreams_none missing]
      rw [handled, missing, queuedEvents_of_none missing]
      simp

end

/-! ## A whole pump -/

theorem pump_ok_iff {after : Session rtc} : pump now session = (after, .ok ()) ↔
    ∃ begun next failed, startLayers now session = (begun, .ok ()) ∧ pumpSctp now begun = (next, .ok failed) ∧
      next.conclude now failed = after := by
  rw [pump_eq, Fallible.bind_ok_iff]
  constructor
  · rintro ⟨begun, _, started, outcome⟩
    obtain ⟨next, failed, pumped, concluded⟩ := Fallible.bind_ok_iff.mp outcome
    exact ⟨begun, next, failed, started, pumped, congrArg Prod.fst concluded⟩
  · rintro ⟨begun, next, failed, started, pumped, rfl⟩
    exact ⟨begun, (), started, Fallible.bind_ok_iff.mpr ⟨next, failed, pumped, rfl⟩⟩

theorem handle_ok_iff {input : SessionInput Candidate} {after : Session rtc} :
    handle input session = (after, .ok ()) ↔ beforePump input session = (after, .ok none) ∨
      ∃ before now pumped, beforePump input session = (before, .ok (some now)) ∧ pump now before = (pumped, .ok ()) ∧
        pumped.afterPump input = after := by
  rw [handle_eq, Fallible.bind_ok_iff]
  constructor
  · rintro ⟨before, pumps, first, outcome⟩
    cases pumps with
    | none =>
      cases outcome
      exact .inl first
    | some now =>
      obtain ⟨pumped, _, second, last⟩ := Fallible.bind_ok_iff.mp outcome
      exact .inr ⟨before, now, pumped, first, second, congrArg Prod.fst last⟩
  · rintro (first | ⟨before, now, pumped, first, second, rfl⟩)
    · exact ⟨after, none, first, rfl⟩
    · exact ⟨before, some now, first, Fallible.bind_of_ok second⟩

theorem channels_afterPump (input : SessionInput Candidate) (session : Session rtc) :
    (session.afterPump input).channels = session.channels := by
  cases input with
  | remoteDescription remote candidates now => exact channels_pushWait session now
  | timeout now => exact channels_pushWait session now
  | _ => rfl

/-! ## Losses -/

theorem failedEmitted_pollIce (session : Session rtc) :
    session.pollIce.channels.failedEmitted = (session.channels.failedEmitted || session.iceLost) := by
  rw [pollIce_eq]
  cases session.iceLost with
  | false => exact (Bool.or_false _).symm
  | true => exact (failedEmitted_fail _).trans (Bool.or_true _).symm

theorem failedEmitted_startLayers (now : Instant) (session : Session rtc) :
    (startLayers now session).1.channels.failedEmitted = (session.channels.failedEmitted || session.iceLost) := by
  have steady : Fallible.Obeys (Steady isPlain) (startTransportsOnSelectedPair now : SessionM rtc Unit) :=
    steady_startTransportsOnSelectedPair now
  exact ((steady session.pollIce).unannounced.flags .failed).trans (failedEmitted_pollIce session)

theorem bothOpen_conclude (session : Session rtc) (now : Instant) (failed : Bool) :
    (session.conclude now failed).channels.bothOpen = session.channels.bothOpen := by
  refine view_conclude (·.channels.bothOpen) bothOpen_fail (fun session => ?_) session now failed
  unfold announceReady
  split <;> rfl

-- with both channels open the deadline is no longer looked at
theorem failedEmitted_conclude_of_open (opened : session.channels.bothOpen = true) (now : Instant) (failed : Bool) :
    (session.conclude now failed).channels.failedEmitted = (session.channels.failedEmitted || failed) := by
  have first : (if failed then session.fail else session).channels.failedEmitted =
      (session.channels.failedEmitted || failed) := by
    cases failed with
    | false => exact (Bool.or_false _).symm
    | true => exact (failedEmitted_fail session).trans (Bool.or_true _).symm
  have still : (if failed then session.fail else session).channels.bothOpen = true := by
    split
    · rw [bothOpen_fail, opened]
    · exact opened
  unfold conclude
  dsimp only
  rcases announceReady_cases (if failed then session.fail else session) with ⟨same, complete⟩ | ⟨-, -, announced⟩
  · rw [same, checkDeadline_of_ready (complete still), first]
  · rw [announced, checkDeadline_of_ready rfl]
    exact first

theorem failedEmitted_pumpSctp (now : Instant) (begun : Session rtc) :
    (pumpSctp now begun).1.channels.failedEmitted = begun.channels.failedEmitted :=
  (steady_pumpSctp now begun).unannounced.flags .failed

end Session

end Nethernet
