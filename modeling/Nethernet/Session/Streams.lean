import Nethernet.Session.Association
import Nethernet.Session.Session

/-! What a session does to the streams of its association.

A stream is looked at once, when it is accepted: `Kept` says that a request found then is
answered. Opening channels and draining them leave the announced streams alone. `EventsTaken` and
`AcksTaken` are the answers of the association with which these programs succeed. -/

set_option autoImplicit false

namespace Nethernet
open Foundation

variable {Candidate : Type} (rtc : Rtc Candidate)

/-! ## Requests -/

/-- The message is a DATA_CHANNEL_OPEN with the label of the channel. -/
def Asks (chunks : Chunks) (channel : Channel) : Prop :=
  ∃ content, rtc.unmarshal chunks.data = .ok (.dataChannelOpen content) ∧ Dcep.channelOf content = some channel

/-- The message fits the session's buffer. -/
def FitsBuffer (chunks : Chunks) : Prop := ∃ data, rtc.toPayload chunks 4096 = .ok data

variable {channel : Channel}

theorem requestedChannel_eq_some {chunks : Chunks} (fits : FitsBuffer rtc chunks) :
    StreamState.requestedChannel rtc chunks = some channel ↔ Asks rtc chunks channel := by
  obtain ⟨data, payload⟩ := fits
  have same := rtc.toPayload_data payload
  subst same
  unfold StreamState.requestedChannel Asks Dcep.decode
  rw [payload]
  cases decoded : rtc.unmarshal chunks.data with
  | error e => simp [Except.toOption, Except.mapError, decoded]
  | ok message => cases message <;> simp [Except.toOption, Except.mapError, decoded]

/-! ## Streams -/

/-- Every request on an accepted stream that fits was answered. -/
def Kept (assoc : Association rtc.Rest) (channels : Channels) : Prop :=
  ∀ stream ∈ assoc.announced.past, ∀ chunks, assoc.firstMessage stream = some chunks →
    FitsBuffer rtc chunks → ∀ channel, Asks rtc chunks channel → (channels.streamId channel).isSome = true

variable {now : Instant} {channels : Channels} {stream : StreamId}

namespace StreamState

/-! ### What the association answers -/

section
variable {rtc}

/-- The association opens a stream and takes the request for its channel. -/
def OpenTaken (now : Instant) (channel : StreamId × Channel × DataChannelOpen) (state : StreamState rtc) : Prop :=
  channel.1 ∉ state.association.streams ∧ (rtc.openStream state.association.rest channel.1).2 = .ok () ∧
    ∃ encoded, rtc.marshal (.dataChannelOpen channel.2.2) = .ok encoded ∧
      (rtc.write (rtc.openStream state.association.rest channel.1).1 channel.1 now encoded .dcep).2 = .ok ()

-- each time it connects, a controlling session opens its channels
def EventsTaken (isControlling : Bool) (now : Instant) : List SctpEvent → StreamState rtc → Prop
  | [], _ => True
  | .connected :: rest, state =>
    let popped := { state with association := { state.association with events := rest } }
    (isControlling = true → Fallible.EachTurn (openChannel rtc now) (OpenTaken now) ownChannels popped) ∧
      EventsTaken isControlling now rest (openChannelsIfControlling rtc isControlling now popped).1
  | _ :: rest, state =>
    EventsTaken isControlling now rest { state with association := { state.association with events := rest } }

/-- If the message of an accepted stream is a request, the association takes its acknowledgement. -/
def AckTaken (now : Instant) (stream : StreamId) (state : StreamState rtc) : Prop :=
  ∀ channel, (state.association.read stream).2.bind (requestedChannel rtc) = some channel →
    ∃ ack, rtc.marshal .dataChannelAck = .ok ack ∧ (rtc.write state.association.rest stream now ack .dcep).2 = .ok ()

def AcksTaken (now : Instant) : Nat → StreamState rtc → Prop
  | 0, _ => True
  | turns + 1, state =>
    match state.association.acceptStream with
    | (_, none) => True
    | (association, some stream) =>
      AckTaken now stream { state with association := association } ∧
        AcksTaken now turns (answerOpen rtc now stream { state with association := association }).1

theorem mapError_ok_iff {A E F : Type} {result : Except E A} {change : E → F} {value : A} :
    result.mapError change = .ok value ↔ result = .ok value := by
  cases result <;> simp [Except.mapError]

variable {state : StreamState rtc}

theorem succeeds_write {data : Bytes} {ppi : PayloadProtocolIdentifier} :
    Fallible.Succeeds (write rtc stream now data ppi) state ↔
      (rtc.write state.association.rest stream now data ppi).2 = .ok () := by
  unfold Fallible.Succeeds write
  simp only [mapError_ok_iff]
  exact ⟨fun ⟨_, taken⟩ => taken, fun taken => ⟨(), taken⟩⟩

theorem succeeds_openChannel (now : Instant) (channel : StreamId × Channel × DataChannelOpen) (state : StreamState rtc) :
    Fallible.Succeeds (openChannel rtc now channel) state ↔ OpenTaken now channel state := by
  unfold openChannel OpenTaken
  by_cases known : channel.1 ∈ state.association.streams
  · have refused : openStream rtc channel.1 state = (state, .error (.other rtc.streamAlreadyExists)) := if_pos known
    exact iff_of_false (Fallible.not_succeeds_bind refused) fun taken => taken.1 known
  rw [and_iff_right known]
  have tried : openStream rtc channel.1 state = _ := if_neg known
  cases answer : rtc.openStream state.association.rest channel.1 with
  | mk rest opened =>
    rw [answer] at tried
    cases opened with
    | error error => exact iff_of_false (Fallible.not_succeeds_bind tried) fun taken => by cases taken.1
    | ok _ =>
      rw [Fallible.succeeds_bind_of_ok tried, and_iff_right rfl, Fallible.succeeds_bind]
      refine exists_congr fun encoded => and_congr mapError_ok_iff ?_
      rw [Fallible.succeeds_bind_total fun _ _ => ⟨(), rfl⟩]
      exact succeeds_write

theorem succeeds_openChannelsIfControlling {isControlling : Bool} :
    Fallible.Succeeds (openChannelsIfControlling rtc isControlling now) state ↔
      (isControlling = true → Fallible.EachTurn (openChannel rtc now) (OpenTaken now) ownChannels state) := by
  unfold openChannelsIfControlling
  cases isControlling with
  | false => exact iff_of_true ⟨(), rfl⟩ nofun
  | true =>
    rw [if_pos rfl, forall_prop_of_true rfl]
    exact Fallible.succeeds_each (succeeds_openChannel now) ownChannels state

theorem succeeds_eventLoop (isControlling : Bool) (now : Instant) (events : List SctpEvent) (failed : Bool)
    (state : StreamState rtc) : Fallible.Succeeds (eventLoop rtc isControlling now events failed) state ↔
      EventsTaken isControlling now events state := by
  induction events generalizing failed state with
  | nil => exact iff_of_true ⟨failed, rfl⟩ trivial
  | cons event rest ih =>
    unfold eventLoop
    rw [Fallible.succeeds_bind_of_ok (show Fallible.modify _ state = (_, .ok ()) from rfl)]
    cases event with
    | connected =>
      unfold EventsTaken
      dsimp only
      rw [Fallible.succeeds_seq, succeeds_openChannelsIfControlling, ih]
    | handshakeFailed => exact ih true _
    | associationLost => exact ih true _
    | other => exact ih failed _

theorem succeeds_acknowledge :
    Fallible.Succeeds (acknowledge rtc now stream channel) state ↔
      ∃ ack, rtc.marshal .dataChannelAck = .ok ack ∧ (rtc.write state.association.rest stream now ack .dcep).2 = .ok () := by
  unfold acknowledge
  rw [Fallible.succeeds_bind]
  refine exists_congr fun ack => and_congr mapError_ok_iff ?_
  rw [Fallible.succeeds_bind_total fun _ _ => ⟨(), rfl⟩]
  exact succeeds_write

theorem succeeds_answerOpen : Fallible.Succeeds (answerOpen rtc now stream) state ↔ AckTaken now stream state := by
  unfold answerOpen AckTaken
  rw [Fallible.succeeds_bind_of_ok (show read rtc stream state = (_, .ok _) from rfl)]
  cases (state.association.read stream).2.bind (requestedChannel rtc) with
  | none => exact iff_of_true ⟨(), rfl⟩ nofun
  | some channel =>
    simp only [Option.some.injEq, forall_eq']
    exact succeeds_acknowledge

theorem succeeds_acceptLoop (now : Instant) (turns : Nat) (state : StreamState rtc) :
    Fallible.Succeeds (acceptLoop rtc now turns) state ↔ AcksTaken now turns state := by
  induction turns generalizing state with
  | zero => exact iff_of_true ⟨(), rfl⟩ trivial
  | succ turns ih =>
    unfold acceptLoop AcksTaken
    rw [Fallible.succeeds_bind_of_ok (show acceptStream rtc state = (_, .ok _) from rfl)]
    cases state.association.acceptStream with
    | mk association yielded =>
      cases yielded with
      | none => exact iff_of_true ⟨(), rfl⟩ trivial
      | some stream =>
        dsimp only
        rw [Fallible.succeeds_seq, succeeds_answerOpen, ih]

end

/-- Nothing changes but the rest of the association, streams that are opened and channels that open. -/
structure Extends (before after : StreamState rtc) : Prop where
  announced : after.association.announced = before.association.announced
  messages : after.association.messages = before.association.messages
  opened : before.association.opened ⊆ after.association.opened
  channels : ∀ channel, (before.channels.streamId channel).isSome = true →
    (after.channels.streamId channel).isSome = true

section
variable {rtc} {start before after : StreamState rtc}

theorem Extends.refl (state : StreamState rtc) : Extends rtc state state :=
  ⟨rfl, rfl, List.Subset.refl _, fun _ known => known⟩

theorem Extends.trans (first : Extends rtc start before) (second : Extends rtc before after) :
    Extends rtc start after :=
  ⟨second.announced.trans first.announced, second.messages.trans first.messages,
    List.Subset.trans first.opened second.opened,
    fun channel known => second.channels channel (first.channels channel known)⟩

instance : IsPreorder (StreamState rtc) (Extends rtc) where
  refl := .refl
  trans _ _ _ := .trans

theorem Extends.tidy (extended : Extends rtc before after) (tidy : before.association.Tidy) :
    after.association.Tidy := by
  constructor
  case once =>
    rw [extended.announced]
    exact tidy.once
  case silent =>
    intro stream absent
    rw [extended.messages]
    apply tidy.silent
    intro member
    apply absent
    rw [Association.streams, extended.announced]
    rcases List.mem_append.mp member with announced | opened
    · exact List.mem_append_left _ announced
    · exact List.mem_append_right _ (extended.opened opened)
  case unread =>
    rw [extended.announced, extended.messages]
    exact tidy.unread

theorem Extends.heard (extended : Extends rtc before after) (heard : before.association.Heard) :
    after.association.Heard := by
  unfold Association.Heard Association.firstMessage
  rw [extended.announced, extended.messages]
  exact heard

theorem Extends.kept (extended : Extends rtc before after) (kept : Kept rtc before.association before.channels) :
    Kept rtc after.association after.channels := by
  intro stream member chunks first fits channel asks
  unfold Association.firstMessage at first
  rw [extended.announced] at member
  rw [extended.messages] at first
  exact extended.channels channel (kept stream member chunks first fits channel asks)

theorem isSome_setOpen {opened : Channel} :
    ((channels.setOpen opened stream).streamId channel).isSome = true ↔
      (channels.streamId channel).isSome = true ∨ opened = channel := by
  cases opened <;> cases channel <;> simp [Channels.setOpen, Channels.streamId]

end

/-! ### Opening channels -/

/-- A property of programs that the parts of those below have. -/
structure Opening (change : StreamState rtc → StreamState rtc) (property : (A : Type) → StreamM rtc A → Prop) : Prop
    extends Fallible.Compositional change property where
  unseen : ∀ state, (change state).association = state.association
  write : ∀ stream now data ppi, property Unit (write rtc stream now data ppi)
  openStream : ∀ stream, property Unit (openStream rtc stream)
  setOpen : ∀ channel stream, property Unit (setOpen rtc channel stream)
  pop : ∀ rest, property Unit (.modify fun state =>
    { state with association := { state.association with events := rest } })

namespace Opening

section
variable {rtc} {change : StreamState rtc → StreamState rtc} {property : (A : Type) → StreamM rtc A → Prop}
  (parts : Opening rtc change property) (now : Instant)
include parts

theorem openChannelsIfControlling (isControlling : Bool) :
    property Unit (openChannelsIfControlling rtc isControlling now) := by
  unfold StreamState.openChannelsIfControlling
  split
  · refine parts.each fun channel => ?_
    refine parts.bind (parts.openStream channel.1) fun _ => ?_
    refine parts.bind (parts.ofExcept _) fun encoded => ?_
    exact parts.bind (parts.write _ now encoded .dcep) fun _ => parts.setOpen _ _
  · exact parts.pure ()

theorem handleEvents (isControlling : Bool) : property Bool (handleEvents rtc isControlling now) := by
  have looped (events : List SctpEvent) (failed : Bool) : property Bool (eventLoop rtc isControlling now events failed) := by
    induction events generalizing failed with
    | nil => exact parts.pure failed
    | cons event rest ih =>
      refine parts.bind (parts.pop rest) fun _ => ?_
      cases event with
      | connected => exact parts.bind (parts.openChannelsIfControlling now isControlling) fun _ => ih failed
      | handshakeFailed => exact ih true
      | associationLost => exact ih true
      | other => exact ih failed
  refine parts.read (fun state => ?_) fun state => looped state.association.events false
  rw [parts.unseen]

theorem sendFrames (stream : StreamId) (channel : Channel) (data : Bytes) :
    property Unit (Session.sendFrames stream channel data now) := by
  refine parts.read (fun state => ?_) fun state => ?_
  · rw [parts.unseen]
  · split
    · refine parts.bind (parts.ofExcept _) fun frames => ?_
      exact parts.each fun frame => parts.write stream now frame .binary
    · exact parts.ofExcept _

theorem acknowledge (stream : StreamId) (channel : Channel) : property Unit (acknowledge rtc now stream channel) := by
  refine parts.bind (parts.ofExcept _) fun ack => ?_
  exact parts.bind (parts.write stream now ack .dcep) fun _ => parts.setOpen channel stream

theorem acceptStreams (accepts : property (Option StreamId) (acceptStream rtc))
    (reads : ∀ stream, property (Option Chunks) (read rtc stream)) : property Unit (acceptStreams rtc now) := by
  have looped (turns : Nat) : property Unit (acceptLoop rtc now turns) := by
    induction turns with
    | zero => exact parts.pure ()
    | succ turns ih =>
      refine parts.bind accepts fun accepted => ?_
      cases accepted with
      | none => exact parts.pure ()
      | some stream =>
        refine parts.bind (parts.bind (reads stream) fun chunks => ?_) fun _ => ih
        split
        · exact parts.pure ()
        · exact parts.acknowledge now stream _
  refine parts.read (fun state => ?_) fun state => looped state.association.announced.waiting.length
  rw [parts.unseen]

end

end Opening

-- these programs leave the announced streams and their messages alone
theorem opening_extends : Opening rtc id fun _ => Fallible.Obeys (Extends rtc) where
  toCompositional := Fallible.compositional_obeys
  unseen _ := rfl
  write _ _ _ _ _ := ⟨rfl, rfl, List.Subset.refl _, fun _ known => known⟩
  openStream stream state := by
    unfold openStream
    split
    · exact .refl state
    · split
      · exact ⟨rfl, rfl, List.subset_append_left _ _, fun _ known => known⟩
      · exact ⟨rfl, rfl, List.Subset.refl _, fun _ known => known⟩
  setOpen _ _ _ := ⟨rfl, rfl, List.Subset.refl _, fun _ known => isSome_setOpen.mpr (.inl known)⟩
  pop _ _ := ⟨rfl, rfl, List.Subset.refl _, fun _ known => known⟩

/-! ### Accepting streams -/

section
variable {rtc} {waiting : List StreamId}

theorem kept_looked {assoc : Association rtc.Rest} (queued : assoc.announced.waiting = stream :: waiting)
    (kept : Kept rtc assoc channels)
    (served : ∀ chunks, assoc.firstMessage stream = some chunks → FitsBuffer rtc chunks →
      ∀ channel, Asks rtc chunks channel → (channels.streamId channel).isSome = true) :
    Kept rtc (assoc.looked stream) channels := by
  have first : ∀ other, (assoc.looked stream).firstMessage other = assoc.firstMessage other := fun other =>
    Association.firstMessage_read other
  have past : (assoc.looked stream).announced.past = assoc.announced.past ++ [stream] := by
    unfold Association.looked
    rw [Association.acceptStream_cons queued]
    rfl
  intro other member chunks found
  rw [first] at found
  rw [past] at member
  rcases List.mem_append.mp member with old | new
  · exact kept other old chunks found
  · rw [List.mem_singleton] at new
    subst new
    exact served chunks found

def Orderly (state : StreamState rtc) : Prop :=
  state.association.Tidy ∧ Kept rtc state.association state.channels

variable {after : StreamState rtc}

theorem Extends.orderly {before : StreamState rtc} (extended : Extends rtc before after) (orderly : before.Orderly) :
    after.Orderly :=
  ⟨extended.tidy orderly.1, extended.kept orderly.2⟩

theorem still_write (stream : StreamId) (now : Instant) (data : Bytes) (ppi : PayloadProtocolIdentifier) :
    Fallible.Triple (fun state => state.channels = channels) (write rtc stream now data ppi)
      (fun _ state => state.channels = channels) fun _ => True := by
  intro state same
  unfold write
  dsimp only
  cases (rtc.write state.association.rest stream now data ppi).2 with
  | ok value => exact same
  | error error => trivial

-- an acknowledgement that is taken opens the channel
theorem sets_acknowledge (now : Instant) (stream : StreamId) (channel : Channel) :
    Fallible.Triple (fun state => state.channels = channels) (acknowledge rtc now stream channel)
      (fun _ state => state.channels = channels.setOpen channel stream) fun _ => True := by
  refine Fallible.Triple.bind (.ofExcept (fun _ same _ _ => same) fun _ _ _ _ => trivial) fun ack => ?_
  refine (still_write stream now ack .dcep).bind fun _ => ?_
  exact .modify fun state same => by rw [same]

variable {state : StreamState rtc}

theorem answerOpen_eq (now : Instant) (stream : StreamId) :
    answerOpen rtc now stream state =
      match (state.association.read stream).2.bind (requestedChannel rtc) with
      | none => ({ state with association := (state.association.read stream).1 }, .ok ())
      | some channel => acknowledge rtc now stream channel { state with association := (state.association.read stream).1 } := by
  unfold answerOpen
  simp only [bind, Fallible.bind, read]
  cases (state.association.read stream).2.bind (requestedChannel rtc) <;> rfl

theorem orderly_acknowledged (orderly : state.Orderly)
    (queued : state.association.announced.waiting = stream :: waiting)
    (requested : (state.association.firstMessage stream).bind (requestedChannel rtc) = some channel)
    (extended : Extends rtc { state with association := state.association.looked stream } after)
    (opened : (after.channels.streamId channel).isSome = true) : after.Orderly := by
  -- the channels only gain, so the older streams are still kept with the new ones
  have older : Kept rtc state.association after.channels := by
    intro other member chunks first fits channel asks
    exact extended.channels channel (orderly.2 other member chunks first fits channel asks)
  have newer : Kept rtc (state.association.looked stream) after.channels := by
    apply kept_looked queued older
    intro chunks first fits wanted asks
    rw [first, Option.bind_some] at requested
    have same := (requestedChannel_eq_some rtc fits).mpr asks
    rw [requested] at same
    cases same
    exact opened
  refine ⟨extended.tidy (orderly.1.looked queued), ?_⟩
  intro other member chunks first
  unfold Association.firstMessage at first
  rw [extended.announced] at member
  rw [extended.messages] at first
  exact newer other member chunks first

-- one turn of the loop, for the stream at the head of the queue
theorem orderly_answerOpen (orderly : state.Orderly)
    (queued : state.association.announced.waiting = stream :: waiting)
    (taken : AckTaken now stream { state with association := state.association.acceptStream.1 }) :
    (answerOpen rtc now stream { state with association := state.association.acceptStream.1 }).1.Orderly ∧
      (answerOpen rtc now stream { state with association := state.association.acceptStream.1 }).1.association.announced =
        ⟨state.association.announced.past ++ [stream], waiting⟩ := by
  have announced : (state.association.looked stream).announced =
      ⟨state.association.announced.past ++ [stream], waiting⟩ := by
    unfold Association.looked
    rw [Association.acceptStream_cons queued]
    rfl
  obtain ⟨_, answered⟩ := succeeds_answerOpen.mpr taken
  rw [answerOpen_eq] at answered ⊢
  dsimp only at answered ⊢
  rw [Association.read_first orderly.1 queued] at answered ⊢
  cases requested : (state.association.firstMessage stream).bind (requestedChannel rtc) with
  | none =>
    refine ⟨⟨orderly.1.looked queued, kept_looked queued orderly.2 ?_⟩, announced⟩
    intro chunks first fits channel asks
    rw [first, Option.bind_some, (requestedChannel_eq_some rtc fits).mpr asks] at requested
    cases requested
  | some channel =>
    have extended := (opening_extends rtc).acknowledge now stream channel
      { state with association := state.association.looked stream }
    rw [requested] at answered
    have opened := (sets_acknowledge now stream channel).ok rfl (Prod.ext rfl answered)
    refine ⟨orderly_acknowledged orderly queued requested extended ?_, extended.announced.trans announced⟩
    rw [opened]
    exact isSome_setOpen.mpr (.inr rfl)

theorem acceptLoop_succ (queued : state.association.announced.waiting = stream :: waiting) (now : Instant)
    (turns : Nat) :
    acceptLoop rtc now (turns + 1) state =
      (answerOpen rtc now stream >>= fun _ => acceptLoop rtc now turns)
        { state with association := state.association.acceptStream.1 } := by
  have yielded : state.association.acceptStream.2 = some stream := by
    rw [Association.acceptStream_cons queued]
  rw [acceptLoop]
  simp only [bind, Fallible.bind, acceptStream, yielded]

theorem acksTaken_succ (queued : state.association.announced.waiting = stream :: waiting) (now : Instant)
    (turns : Nat) :
    AcksTaken now (turns + 1) state ↔ AckTaken now stream { state with association := state.association.acceptStream.1 } ∧
      AcksTaken now turns (answerOpen rtc now stream { state with association := state.association.acceptStream.1 }).1 := by
  rw [AcksTaken, Association.acceptStream_cons queued]

/-- The accept loop takes every waiting stream, if the acknowledgements it writes are taken. -/
theorem orderly_acceptLoop (turns : Nat) (orderly : state.Orderly)
    (length : state.association.announced.waiting.length = turns) (taken : AcksTaken now turns state) :
    (acceptLoop rtc now turns state).1.Orderly ∧ (acceptLoop rtc now turns state).1.association.announced.waiting = [] := by
  induction turns generalizing state with
  | zero => exact ⟨orderly, List.length_eq_zero_iff.mp length⟩
  | succ turns ih =>
    obtain ⟨stream, rest, queued⟩ := List.exists_cons_of_length_eq_add_one length
    obtain ⟨first, later⟩ := (acksTaken_succ queued now turns).mp taken
    obtain ⟨after, announced⟩ := orderly_answerOpen orderly queued first
    obtain ⟨value, answered⟩ := succeeds_answerOpen.mpr first
    rw [acceptLoop_succ queued, Fallible.bind_of_ok (Prod.ext rfl answered : answerOpen rtc now stream _ = (_, .ok value))]
    refine ih after ?_ later
    rw [announced]
    rw [queued] at length
    exact Nat.succ.inj length

/-! ### Draining channels -/

-- a message only touches the reassembly and the output
theorem extends_handleChunks (channel : Channel) (state : StreamState rtc) (chunks : Chunks) :
    Extends rtc state (handleChunks channel state chunks) := by
  have quiet : ∀ reassembly output, Extends rtc state
      { state with channels := { state.channels with reassembly := reassembly }, output := output } := by
    intro reassembly output
    refine ⟨rfl, rfl, List.Subset.refl _, ?_⟩
    intro channel known
    cases channel <;> exact known
  unfold handleChunks
  split
  · exact .refl state
  · split
    · exact .refl state
    · split
      · exact .refl state
      · unfold handleSegment
        split
        · dsimp only
          split <;> exact quiet _ _
        · split
          · exact quiet _ _
          · exact .refl state

theorem extends_foldl_handleChunks (channel : Channel) (received : List Chunks) (state : StreamState rtc) :
    Extends rtc state (received.foldl (handleChunks channel) state) := by
  induction received generalizing state with
  | nil => exact .refl state
  | cons chunks received ih => exact (extends_handleChunks channel state chunks).trans (ih _)

theorem orderly_drainChannel (orderly : state.Orderly) (accepted : state.association.announced.waiting = [])
    (channel : Channel) :
    (drainChannel state channel).Orderly ∧ (drainChannel state channel).association.announced.waiting = [] := by
  unfold drainChannel
  split
  · exact ⟨orderly, accepted⟩
  · rename_i stream _
    split
    · rename_i known
      have extended := extends_foldl_handleChunks channel (state.association.readAll stream).2
        { state with association := (state.association.readAll stream).1 }
      have kept : Kept rtc (state.association.readAll stream).1 state.channels := by
        intro other member chunks first
        rw [Association.firstMessage_readAll] at first
        exact orderly.2 other member chunks first
      refine ⟨extended.orderly ⟨orderly.1.readAll known.1 accepted, kept⟩, ?_⟩
      show ((state.association.readAll stream).2.foldl (handleChunks channel)
        { state with association := (state.association.readAll stream).1 }).association.announced.waiting = []
      rw [extended.announced]
      exact accepted
    · exact ⟨orderly, accepted⟩

-- the acknowledgements that the accept loop of a drain writes
def DrainTaken (now : Instant) (state : StreamState rtc) : Prop :=
  AcksTaken now state.association.announced.waiting.length state

theorem succeeds_drainDcepAndData : Fallible.Succeeds (drainDcepAndData rtc now) state ↔ DrainTaken now state := by
  unfold drainDcepAndData
  rw [Fallible.succeeds_bind_total fun _ _ => ⟨(), rfl⟩]
  exact succeeds_acceptLoop now _ state

theorem triple_drainDcepAndData (now : Instant) :
    Fallible.Triple (fun state => state.Orderly ∧ DrainTaken now state) (drainDcepAndData rtc now)
      (fun _ state => state.Orderly ∧ state.association.announced.waiting = []) fun _ => False := by
  rintro state ⟨orderly, taken⟩
  obtain ⟨_, accepted⟩ := (succeeds_acceptLoop now _ state).mpr taken
  obtain ⟨after, none⟩ := orderly_acceptLoop _ orderly rfl taken
  rw [drainDcepAndData, Fallible.bind_of_ok (Prod.ext rfl accepted : acceptStreams rtc now state = (_, .ok _))]
  obtain ⟨reliable, still⟩ := orderly_drainChannel after none .reliable
  exact orderly_drainChannel reliable still .unreliable

end

end StreamState

end Nethernet
