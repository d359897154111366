import Nethernet.Session.Session

/-! Sender and receiver of a channel: what a session sends for a message, and what the other side
makes of it. -/

set_option autoImplicit false

namespace Nethernet
open Foundation

-- the messages among the results of a reassembler
def delivered (results : List (Except ProtocolError (Option Bytes))) : List Bytes :=
  results.filterMap fun result => result.toOption.join

theorem delivered_deliveredBy (count : Nat) (data : Bytes) :
    delivered (Message.deliveredBy count data) = [data] := by
  have quiet : delivered (List.replicate (count - 1) (.ok none)) = [] := by
    induction count - 1 with
    | zero => rfl
    | succ left ih => exact ih
  unfold delivered at quiet ⊢
  rw [Message.deliveredBy, List.filterMap_append, quiet]
  rfl

variable {Candidate : Type} {rtc : Rtc Candidate}

/-- A message that fits the limit is handed over whole. -/
def ReadsWhole (rtc : Rtc Candidate) : Prop :=
  ∀ chunks limit, chunks.data.length ≤ limit → rtc.toPayload chunks limit = .ok chunks.data

variable {data : Bytes}

namespace StreamState

-- the frames of a message, read from the stream of an open channel
def receiveFrames (channel : Channel) (frames : List Bytes) (state : StreamState rtc) : StreamState rtc :=
  frames.foldl (fun state frame => handleChunks channel state ⟨.binary, frame⟩) state

theorem handleChunks_reliable (whole : ReadsWhole rtc) {frame : Bytes} (fits : frame.length ≤ 2 ^ 20)
    (state : StreamState rtc) :
    handleChunks .reliable state ⟨.binary, frame⟩ =
      { state with
        channels := { state.channels with reassembly := (state.channels.reassembly.receive frame).1 }
        output := state.output ++
          (delivered [(state.channels.reassembly.receive frame).2]).map (.message .reliable) } := by
  unfold handleChunks
  rw [whole ⟨.binary, frame⟩ (2 ^ 20) fits]
  dsimp only
  rw [if_neg (by decide), Message.receive]
  cases MessageSegment.decode frame with
  | error e => simp [delivered, Except.toOption]
  | ok segment =>
    simp only [handleSegment]
    cases (state.channels.reassembly.addSegment segment).2 with
    | error e => simp [delivered, Except.toOption]
    | ok message => cases message <;> simp [delivered, Except.toOption, deliver]

/-- Reading frames from the reliable stream is feeding them to the reassembler. -/
theorem receiveFrames_reliable (whole : ReadsWhole rtc) {frames : List Bytes}
    (fits : ∀ frame ∈ frames, frame.length ≤ 2 ^ 20) (state : StreamState rtc) :
    receiveFrames .reliable frames state =
      { state with
        channels := { state.channels with reassembly := (run Message.receive state.channels.reassembly frames).1 }
        output := state.output ++
          (delivered (run Message.receive state.channels.reassembly frames).2).map (.message .reliable) } := by
  induction frames generalizing state with
  | nil => simp [receiveFrames, delivered]
  | cons frame frames ih =>
    have first := handleChunks_reliable whole (fits frame List.mem_cons_self) state
    have rest := ih (fun other member => fits other (List.mem_cons_of_mem _ member))
      (handleChunks .reliable state ⟨.binary, frame⟩)
    have split : delivered ((state.channels.reassembly.receive frame).2 ::
        (run Message.receive (state.channels.reassembly.receive frame).1 frames).2) =
        delivered [(state.channels.reassembly.receive frame).2] ++
          delivered (run Message.receive (state.channels.reassembly.receive frame).1 frames).2 :=
      List.filterMap_append (l := [_])
    rw [receiveFrames, List.foldl_cons]
    rw [receiveFrames] at rest
    rw [rest, first, run_cons, split]
    simp

theorem receiveFrames_unreliable (whole : ReadsWhole rtc) (nonempty : data ≠ [])
    (fits : (MessageSegment.encode ⟨0, data⟩).length ≤ 2 ^ 20) (state : StreamState rtc) :
    receiveFrames .unreliable [MessageSegment.encode ⟨0, data⟩] state = state.deliver .unreliable data := by
  have read := whole ⟨.binary, MessageSegment.encode ⟨0, data⟩⟩ (2 ^ 20) fits
  unfold receiveFrames
  rw [List.foldl_cons, List.foldl_nil, handleChunks, read]
  dsimp only
  rw [if_neg (by decide), MessageSegment.decode_encode nonempty]
  rfl

end StreamState

/-! ## Agreement -/

-- a segment is at most one byte longer than a piece of a message
theorem length_encode_le {segment : MessageSegment}
    (member : segment ∈ Message.segmentsOf (chunksOf maxMessageSize data)) : segment.encode.length ≤ 2 ^ 20 := by
  obtain ⟨entry, counted, rfl⟩ := List.mem_map.mp member
  have piece := length_le_of_mem_chunksOf (by decide) (mem_countdown counted).2
  show entry.2.length + 1 ≤ 2 ^ 20
  unfold maxMessageSize at piece
  omega

theorem splitIntoSegments_ok {segments : List MessageSegment} (split : Message.splitIntoSegments data = .ok segments) :
    data.length ≤ 255 * maxMessageSize ∧ segments = Message.segmentsOf (chunksOf maxMessageSize data) := by
  by_cases fits : data.length ≤ 255 * maxMessageSize
  · rw [Message.splitIntoSegments_of_le fits] at split
    cases split
    exact ⟨fits, rfl⟩
  · rw [Message.splitIntoSegments_of_gt (Nat.lt_of_not_le fits)] at split
    cases split

theorem encodeUnreliable_ok {frame : Bytes} (encoded : Message.encodeUnreliable data = .ok frame) :
    data.length < maxMessageSize ∧ frame = MessageSegment.encode ⟨0, data⟩ := by
  unfold Message.encodeUnreliable at encoded
  split at encoded
  · cases encoded
  · rename_i fits
    cases encoded
    unfold maxMessageSize at fits ⊢
    exact ⟨by omega, rfl⟩

/-- What a session makes of a message on one channel, the other side delivers as that message. -/
theorem receive_frames (whole : ReadsWhole rtc) {channel : Channel} {frames : List Bytes} (nonempty : data ≠ [])
    (sent : Session.frames channel data = .ok frames) {state : StreamState rtc}
    (fresh : state.channels.reassembly = .new) :
    (state.receiveFrames channel frames).output = state.output ++ [.message channel data] := by
  cases channel with
  | reliable =>
    cases split : Message.splitIntoSegments data with
    | error e => simp [Session.frames, split, Except.map] at sent
    | ok segments =>
      obtain ⟨fits, rfl⟩ := splitIntoSegments_ok split
      simp only [Session.frames, split, Except.map, Except.ok.injEq] at sent
      subst sent
      have short : ∀ frame ∈ (Message.segmentsOf (chunksOf maxMessageSize data)).map MessageSegment.encode,
          frame.length ≤ 2 ^ 20 := by
        intro frame member
        obtain ⟨segment, isSegment, rfl⟩ := List.mem_map.mp member
        exact length_encode_le isSegment
      rw [StreamState.receiveFrames_reliable whole short, fresh, Message.receive_split nonempty fits,
        delivered_deliveredBy]
      rfl
  | unreliable =>
    cases encoded : Message.encodeUnreliable data with
    | error e => simp [Session.frames, encoded, Except.map] at sent
    | ok frame =>
      obtain ⟨fits, rfl⟩ := encodeUnreliable_ok encoded
      simp only [Session.frames, encoded, Except.map, Except.ok.injEq] at sent
      subst sent
      have short : (MessageSegment.encode ⟨0, data⟩).length ≤ 2 ^ 20 := by
        show data.length + 1 ≤ 2 ^ 20
        unfold maxMessageSize at fits
        omega
      rw [StreamState.receiveFrames_unreliable whole nonempty short]
      rfl

/-- Sender and receiver agree on a message exactly when it is not empty. -/
theorem framing_agrees_iff (data : Bytes) :
    ((∀ segments, Message.splitIntoSegments data = .ok segments →
        delivered (run Message.receive .new (segments.map MessageSegment.encode)).2 = [data]) ∧
      (∀ frame, Message.encodeUnreliable data = .ok frame → MessageSegment.decode frame = .ok ⟨0, data⟩) ∧
      ∀ (Candidate : Type) (rtc : Rtc Candidate), ReadsWhole rtc → ∀ channel frames (state : StreamState rtc),
        Session.frames channel data = .ok frames → state.channels.reassembly = .new →
          (state.receiveFrames channel frames).output = state.output ++ [.message channel data]) ↔ data ≠ [] := by
  constructor
  · rintro ⟨reliable, -, -⟩ rfl
    have lost := reliable [⟨0, []⟩] rfl
    cases lost
  · intro nonempty
    refine ⟨?_, ?_, ?_⟩
    · intro segments split
      obtain ⟨fits, rfl⟩ := splitIntoSegments_ok split
      rw [Message.receive_split nonempty fits, delivered_deliveredBy]
    · intro frame encoded
      rw [(encodeUnreliable_ok encoded).2]
      exact MessageSegment.decode_encode nonempty
    · intro Candidate rtc whole channel frames state sent fresh
      exact receive_frames whole nonempty sent fresh

theorem empty_message_dropped :
    Message.splitIntoSegments [] = .ok [⟨0, []⟩] ∧
      delivered (run Message.receive .new ([⟨0, []⟩].map MessageSegment.encode)).2 = [] ∧
      Message.encodeUnreliable [] = .ok [0] ∧ ∀ segment, MessageSegment.decode [0] ≠ .ok segment :=
  ⟨rfl, rfl, rfl, MessageSegment.decode_encode_empty 0⟩

end Nethernet
