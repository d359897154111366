import Nethernet.Error
import Nethernet.Foundation.Countdown
import Nethernet.Foundation.Machine
import Mathlib.Data.List.Forall2

/-! Data-channel message framing: segmentation and reassembly.

A message travels as segments, each one count byte followed by payload bytes.
The count is the number of segments still to come. -/

set_option autoImplicit false

namespace Nethernet
open Foundation

-- payload bytes in one data-channel segment
def maxMessageSize : Nat := 10000

def maxReassembledSize : Nat := 256 * maxMessageSize

structure MessageSegment where
  remainingSegments : UInt8
  data : Bytes
  deriving DecidableEq, Repr

variable {segment : MessageSegment}

namespace MessageSegment

def encode (segment : MessageSegment) : Bytes := segment.remainingSegments :: segment.data

def decode (data : Bytes) : Except ProtocolError MessageSegment :=
  match data with
  | remaining :: first :: rest => .ok ⟨remaining, first :: rest⟩
  | short => .error (.messageParse
      ("Message too short, expected at least 2 bytes, got " ++ toString short.length))

theorem decode_encode (body : segment.data ≠ []) : decode segment.encode = .ok segment := by
  obtain ⟨count, data⟩ := segment
  cases data with
  | nil => exact absurd rfl body
  | cons first rest => rfl

theorem decode_encode_empty (count : UInt8) (segment : MessageSegment) :
    decode (encode ⟨count, []⟩) ≠ .ok segment := by
  simp [encode, decode]

end MessageSegment

structure Message where
  expectedSegments : UInt8
  data : Bytes
  deriving DecidableEq, Repr

variable {data : Bytes} (message : Message)

namespace Message

def new : Message := ⟨0, []⟩

def checkedAdd (left right : UInt8) : Option UInt8 :=
  if left.toNat + right.toNat < 256 then some (left + right) else none

-- The first block of `add_segment`: an idle buffer learns the segment count
-- from the first segment of a longer message.
def expect (message : Message) (segment : MessageSegment) : Except ProtocolError Message :=
  if message.expectedSegments = 0 ∧ 0 < segment.remainingSegments then
    match checkedAdd segment.remainingSegments 1 with
    | some expected => .ok { message with expectedSegments := expected }
    | none => .error (.messageParse "segment count out of range")
  else .ok message

-- The last block: the size cap, then the payload, then the final segment.
def append (message : Message) (segment : MessageSegment) :
    Message × Except ProtocolError (Option Bytes) :=
  let size := message.data.length + segment.data.length
  if maxReassembledSize < size then (⟨0, []⟩, .error (.messageSizeExceeded size))
  else if segment.remainingSegments = 0 then (⟨0, []⟩, .ok (some (message.data ++ segment.data)))
  else ({ message with data := message.data ++ segment.data }, .ok none)

/-- Returns the message on its final segment; an out-of-sequence count clears
the buffer and errors. -/
def addSegment (message : Message) (segment : MessageSegment) :
    Message × Except ProtocolError (Option Bytes) :=
  match message.expect segment with
  | .error e => (message, .error e)
  | .ok message =>
    if 0 < message.expectedSegments then
      let expectedRemaining := message.expectedSegments - 1
      if expectedRemaining ≠ segment.remainingSegments then
        (⟨0, []⟩, .error (.messageParse ("Invalid segment sequence: expected " ++
          toString expectedRemaining ++ ", got " ++ toString segment.remainingSegments)))
      else { message with expectedSegments := expectedRemaining }.append segment
    else message.append segment

-- The `while` loop of `split_into_segments`.
def splitLoop (remaining : Bytes) (left : UInt8) (segments : List MessageSegment) :
    Bytes × UInt8 × List MessageSegment :=
  if maxMessageSize < remaining.length then
    splitLoop (remaining.drop maxMessageSize) (left - 1)
      (segments ++ [⟨left - 1, remaining.take maxMessageSize⟩])
  else (remaining, left, segments)
termination_by remaining.length
decreasing_by simp only [List.length_drop, maxMessageSize] at *; omega

def splitIntoSegments (data : Bytes) : Except ProtocolError (List MessageSegment) :=
  if data.length ≤ maxMessageSize then .ok [⟨0, data⟩]
  else
    let segmentCount := (data.length + maxMessageSize - 1) / maxMessageSize
    if 255 < segmentCount then .error (.messageSizeExceeded data.length)
    else
      -- `segment_count as u8` is exact here
      match splitLoop data (UInt8.ofNat segmentCount) [] with
      | (remaining, left, segments) =>
        if remaining.isEmpty then .ok segments
        else .ok (segments ++ [⟨left - 1, remaining⟩])

def encodeUnreliable (data : Bytes) : Except ProtocolError Bytes :=
  if maxMessageSize - 1 < data.length then .error (.messageSizeExceeded data.length)
  else .ok (MessageSegment.encode ⟨0, data⟩)

/-! ## Splitting is a countdown over the pieces -/

def segmentsOf (pieces : List Bytes) : List MessageSegment :=
  (countdown pieces).map fun entry => ⟨UInt8.ofNat entry.1, entry.2⟩

@[simp] theorem length_segmentsOf (pieces : List Bytes) :
    (segmentsOf pieces).length = pieces.length := by
  simp [segmentsOf]

theorem segmentsOf_cons (first : Bytes) (rest : List Bytes) :
    segmentsOf (first :: rest) = ⟨UInt8.ofNat rest.length, first⟩ :: segmentsOf rest := rfl

/-- The loop leaves one last piece and a count of one: `left` never underflows. -/
theorem splitLoop_spec (remaining : Bytes) (left : UInt8) (segments : List MessageSegment)
    (nonempty : remaining ≠ [])
    (count : left.toNat = (chunksOf maxMessageSize remaining).length) :
    ∃ last before, splitLoop remaining left segments = (last, 1, segments ++ before) ∧
      last ≠ [] ∧ before ++ [⟨0, last⟩] = segmentsOf (chunksOf maxMessageSize remaining) := by
  have positive : 0 < maxMessageSize := by decide
  fun_induction splitLoop remaining left segments with
  | case1 remaining left segments longer ih =>
    have rest : remaining.drop maxMessageSize ≠ [] := by simp [longer]
    rw [chunksOf_of_lt positive longer, List.length_cons] at count
    have bound : left.toNat < 256 := left.toNat_lt
    have stepped : (left - 1).toNat =
        (chunksOf maxMessageSize (remaining.drop maxMessageSize)).length := by
      rw [UInt8.toNat_sub_of_le _ _ (UInt8.le_iff_toNat_le.mpr (by simp; omega))]
      simp [count]
    have label : UInt8.ofNat (chunksOf maxMessageSize (remaining.drop maxMessageSize)).length =
        left - 1 := by
      rw [← stepped, UInt8.ofNat_toNat]
    obtain ⟨last, before, result, body, pieces⟩ := ih rest stepped
    refine ⟨last, ⟨left - 1, remaining.take maxMessageSize⟩ :: before, ?_, body, ?_⟩
    · rw [result, List.append_assoc, List.singleton_append]
    · rw [List.cons_append, pieces, chunksOf_of_lt positive longer, segmentsOf_cons, label]
  | case2 remaining left segments short =>
    rw [chunksOf_of_le (by omega)] at count ⊢
    have one : left = 1 := by
      apply UInt8.toNat_inj.mp
      simpa using count
    exact ⟨remaining, [], by simp [one], nonempty, rfl⟩

/-- Up to 255 full segments the result is the countdown over the pieces. -/
theorem splitIntoSegments_of_le (fits : data.length ≤ 255 * maxMessageSize) :
    splitIntoSegments data = .ok (segmentsOf (chunksOf maxMessageSize data)) := by
  unfold splitIntoSegments
  split
  · rename_i short
    rw [chunksOf_of_le short]
    rfl
  · rename_i longer
    have nonempty : data ≠ [] := by
      intro empty
      simp [empty] at longer
    have count := length_chunksOf maxMessageSize (by decide) nonempty
    have bound : (chunksOf maxMessageSize data).length ≤ 255 := by
      rw [count]
      simp only [maxMessageSize] at fits ⊢
      omega
    rw [← count]
    simp only [if_neg (Nat.not_lt.mpr bound)]
    obtain ⟨last, before, result, body, pieces⟩ :=
      splitLoop_spec data (UInt8.ofNat (chunksOf maxMessageSize data).length) [] nonempty
        (UInt8.toNat_ofNat_of_lt' (by simp only [UInt8.size]; omega))
    simp only [result, List.nil_append, List.isEmpty_iff, body, if_false]
    rw [← pieces]
    rfl

theorem splitIntoSegments_of_gt (exceeds : 255 * maxMessageSize < data.length) :
    splitIntoSegments data = .error (.messageSizeExceeded data.length) := by
  have count : 255 < (data.length + maxMessageSize - 1) / maxMessageSize := by
    simp only [maxMessageSize] at exceeds ⊢
    omega
  have longer : ¬ data.length ≤ maxMessageSize := by
    simp only [maxMessageSize] at exceeds ⊢
    omega
  simp only [splitIntoSegments, if_neg longer, if_pos count]

/-! ## Reassembly inverts splitting -/

def receive (message : Message) (wire : Bytes) : Message × Except ProtocolError (Option Bytes) :=
  match MessageSegment.decode wire with
  | .error e => (message, .error e)
  | .ok segment => message.addSegment segment

/-- The results of a message delivered by `count` segments: only the last one carries it. -/
def deliveredBy (count : Nat) (data : Bytes) : List (Except ProtocolError (Option Bytes)) :=
  List.replicate (count - 1) (.ok none) ++ [.ok (some data)]

theorem receive_encode (body : segment.data ≠ []) : message.receive segment.encode = message.addSegment segment := by
  simp only [receive, MessageSegment.decode_encode body]

/-- The buffer is idle or in the middle of a message with `count` segments left. -/
def Awaits (message : Message) (count : Nat) : Prop :=
  message.expectedSegments = 0 ∨ message.expectedSegments.toNat = count

theorem addSegment_final {message : Message} (awaits : message.Awaits 1)
    (fits : message.data.length + data.length ≤ maxReassembledSize) :
    message.addSegment ⟨0, data⟩ = (new, .ok (some (message.data ++ data))) := by
  obtain ⟨expected, buffer⟩ := message
  have cases : expected = 0 ∨ expected = 1 := by
    rcases awaits with idle | one
    · exact .inl idle
    · exact .inr (UInt8.toNat_inj.mp one)
  have capped : ¬ maxReassembledSize < buffer.length + data.length := Nat.not_lt.mpr fits
  rcases cases with rfl | rfl <;> simp [addSegment, expect, append, capped, new]

theorem addSegment_more {message : Message} {count : Nat} (positive : 0 < count) (bound : count ≤ 254)
    (awaits : message.Awaits (count + 1)) (fits : message.data.length + data.length ≤ maxReassembledSize) :
    message.addSegment ⟨UInt8.ofNat count, data⟩ =
      (⟨UInt8.ofNat count, message.data ++ data⟩, .ok none) := by
  obtain ⟨expected, buffer⟩ := message
  have capped : ¬ maxReassembledSize < buffer.length + data.length := Nat.not_lt.mpr fits
  have value : (UInt8.ofNat count).toNat = count := UInt8.toNat_ofNat_of_lt' (by simp [UInt8.size]; omega)
  have nonzero : UInt8.ofNat count ≠ 0 := by
    intro zero
    rw [zero] at value
    exact absurd value (by simp; omega)
  have after : UInt8.ofNat count + 1 = UInt8.ofNat (count + 1) := by simp
  have afterValue : (UInt8.ofNat (count + 1)).toNat = count + 1 :=
    UInt8.toNat_ofNat_of_lt' (by simp [UInt8.size]; omega)
  have afterNonzero : UInt8.ofNat (count + 1) ≠ 0 := by
    intro zero
    rw [zero] at afterValue
    exact absurd afterValue (by simp)
  have back : UInt8.ofNat (count + 1) - 1 = UInt8.ofNat count := by
    rw [← after, UInt8.add_sub_cancel]
  -- whether the count was known or is learned here, the next step sees `count + 1`
  have learned : expect ⟨expected, buffer⟩ ⟨UInt8.ofNat count, data⟩ =
      .ok ⟨UInt8.ofNat (count + 1), buffer⟩ := by
    rcases awaits with idle | known
    · have room : (UInt8.ofNat count).toNat + (1 : UInt8).toNat < 256 := by
        rw [value]
        simp
        omega
      rw [expect, if_pos ⟨idle, UInt8.pos_iff_ne_zero.mpr nonzero⟩]
      simp only [checkedAdd, if_pos room, after]
    · have same : expected = UInt8.ofNat (count + 1) := UInt8.toNat_inj.mp (known.trans afterValue.symm)
      rw [expect, if_neg (fun both => afterNonzero (same ▸ both.1)), same]
  simp only [addSegment, learned, UInt8.pos_iff_ne_zero.mpr afterNonzero, if_true, back, ne_eq,
    not_true_eq_false, if_false, append, if_neg capped, if_neg nonzero]

/-- A countdown over pieces delivers their concatenation at its last segment and
leaves a fresh buffer. -/
theorem addSegment_segmentsOf (pieces : List Bytes) (some : pieces ≠ []) (bound : pieces.length ≤ 255)
    (awaits : message.Awaits pieces.length) (fits : message.data.length + pieces.flatten.length ≤ maxReassembledSize) :
    run addSegment message (segmentsOf pieces) =
      (new, deliveredBy pieces.length (message.data ++ pieces.flatten)) := by
  induction pieces generalizing message with
  | nil => exact absurd rfl some
  | cons first rest ih =>
    rw [segmentsOf_cons, run_cons]
    simp only [List.flatten_cons, List.length_append] at fits
    cases rest with
    | nil =>
      simp only [List.length_nil, List.flatten_nil] at fits ⊢
      simp [addSegment_final awaits fits, segmentsOf, countdown, deliveredBy]
    | cons next rest =>
      have positive : 0 < (next :: rest).length := by simp
      rw [List.length_cons] at bound awaits
      rw [addSegment_more positive (by omega) awaits (by omega)]
      have value : (UInt8.ofNat (next :: rest).length).toNat = (next :: rest).length :=
        UInt8.toNat_ofNat_of_lt' (by simp only [UInt8.size]; omega)
      have tail := ih ⟨UInt8.ofNat (next :: rest).length, message.data ++ first⟩ (by simp)
        (by omega) (.inr value) (by simp only [List.length_append]; omega)
      rw [tail]
      simp [deliveredBy, List.replicate_succ]

theorem run_receive_encode (segments : List MessageSegment) (bodies : ∀ segment ∈ segments, segment.data ≠ []) :
    run receive message (segments.map MessageSegment.encode) = run addSegment message segments := by
  induction segments generalizing message with
  | nil => rfl
  | cons segment rest ih =>
    rw [List.map_cons, run_cons, run_cons, receive_encode _ (bodies segment (by simp)),
      ih _ fun other member => bodies other (List.mem_cons_of_mem _ member)]

theorem data_mem_of_mem_segmentsOf {pieces : List Bytes} (member : segment ∈ segmentsOf pieces) :
    segment.data ∈ pieces := by
  obtain ⟨entry, inside, rfl⟩ := List.mem_map.mp member
  exact (mem_countdown inside).2

theorem receive_segmentsOf (pieces : List Bytes) (some : pieces ≠ []) (bodies : [] ∉ pieces)
    (bound : pieces.length ≤ 255) (awaits : message.Awaits pieces.length)
    (fits : message.data.length + pieces.flatten.length ≤ maxReassembledSize) :
    run receive message ((segmentsOf pieces).map MessageSegment.encode) =
      (new, deliveredBy pieces.length (message.data ++ pieces.flatten)) := by
  have whole : ∀ segment ∈ segmentsOf pieces, segment.data ≠ [] := by
    intro segment member empty
    exact bodies (empty ▸ data_mem_of_mem_segmentsOf member)
  rw [run_receive_encode message _ whole, addSegment_segmentsOf message pieces some bound awaits fits]

theorem receive_split (nonempty : data ≠ []) (fits : data.length ≤ 255 * maxMessageSize) :
    run receive new ((segmentsOf (chunksOf maxMessageSize data)).map MessageSegment.encode) =
      (new, deliveredBy (chunksOf maxMessageSize data).length data) := by
  have bound : (chunksOf maxMessageSize data).length ≤ 255 := by
    rw [length_chunksOf maxMessageSize (by decide) nonempty]
    simp only [maxMessageSize] at fits ⊢
    omega
  have total : (chunksOf maxMessageSize data).flatten.length ≤ maxReassembledSize := by
    rw [flatten_chunksOf]
    simp only [maxReassembledSize, maxMessageSize] at fits ⊢
    omega
  have delivered := receive_segmentsOf new (chunksOf maxMessageSize data) (chunksOf_ne_nil _ _)
    (nil_not_mem_chunksOf nonempty) bound (.inl rfl) (by simpa [new] using total)
  rw [delivered, flatten_chunksOf]
  rfl

def framed (messages : List Bytes) : List (List MessageSegment) :=
  messages.map fun data => segmentsOf (chunksOf maxMessageSize data)

theorem receive_framed (messages : List Bytes)
    (sized : ∀ data ∈ messages, 1 ≤ data.length ∧ data.length ≤ 255 * maxMessageSize) :
    run receive new ((framed messages).flatten.map MessageSegment.encode) =
      (new, (List.zipWith (fun data segments => deliveredBy segments.length data)
        messages (framed messages)).flatten) := by
  induction messages with
  | nil => rfl
  | cons data rest ih =>
    obtain ⟨nonempty, fits⟩ := sized data (by simp)
    have first := receive_split (List.length_pos_iff.mp nonempty) fits
    have tail := ih fun other member => sized other (List.mem_cons_of_mem data member)
    simp only [framed, List.map_cons, List.flatten_cons, List.map_append, run_append, first,
      List.zipWith_cons_cons, length_segmentsOf] at tail ⊢
    rw [tail]

/-- Reliable framing delivers every sized message exactly once and in order, and
the buffer is fresh after each of them. -/
theorem framing_delivers_in_order (messages : List Bytes)
    (sized : ∀ data ∈ messages, 1 ≤ data.length ∧ data.length ≤ 255 * maxMessageSize) :
    (∃ framed : List (List MessageSegment),
      List.Forall₂ (fun data segments => splitIntoSegments data = .ok segments) messages framed ∧
      run receive new (framed.flatten.map MessageSegment.encode) =
        (new, (List.zipWith (fun data segments => deliveredBy segments.length data)
          messages framed).flatten) ∧
      ∀ sent, (run receive new ((framed.take sent).flatten.map MessageSegment.encode)).1 = new) ∧
    ∀ data : Bytes, 255 * maxMessageSize < data.length →
      splitIntoSegments data = .error (.messageSizeExceeded data.length) := by
  refine ⟨⟨framed messages, ?_, receive_framed messages sized, fun sent => ?_⟩,
    fun data exceeds => splitIntoSegments_of_gt exceeds⟩
  · rw [framed, List.forall₂_map_right_iff, List.forall₂_same]
    exact fun data member => splitIntoSegments_of_le (sized data member).2
  · -- the first `sent` messages are themselves a list of sized messages
    have part := receive_framed (messages.take sent)
      fun data member => sized data (List.mem_of_mem_take member)
    rw [framed, List.map_take] at part
    rw [framed, part]

/-- A message of one byte and one of three segments. -/
theorem framing_delivers_two_messages :
    let long : Bytes := List.replicate 20001 8
    ∃ one three, splitIntoSegments [7] = .ok one ∧ splitIntoSegments long = .ok three ∧ three.length = 3 ∧
      run receive new ((one ++ three).map MessageSegment.encode) =
        (new, [.ok (some [7]), .ok none, .ok none, .ok (some long)]) := by
  intro long
  have size : long.length = 20001 := List.length_replicate
  clear_value long
  have sized : ∀ data ∈ [[7], long], 1 ≤ data.length ∧ data.length ≤ 255 * maxMessageSize := by simp [size, maxMessageSize]
  obtain ⟨framed, split, delivered, -⟩ := (framing_delivers_in_order [[7], long] sized).1
  obtain ⟨one, later, first, behind, rfl⟩ := List.forall₂_cons_left_iff.mp split
  obtain ⟨three, none, second, last, rfl⟩ := List.forall₂_cons_left_iff.mp behind
  obtain rfl := List.forall₂_nil_left_iff.mp last
  have short : one = [⟨0, [7]⟩] := by
    cases first
    rfl
  have pieces : three.length = 3 := by
    have nonempty : long ≠ [] := List.ne_nil_of_length_pos (by omega)
    rw [splitIntoSegments_of_le (by simp [size, maxMessageSize])] at second
    cases second
    rw [length_segmentsOf, length_chunksOf maxMessageSize (by decide) nonempty, size]
    decide
  refine ⟨one, three, first, second, pieces, ?_⟩
  simpa [deliveredBy, short, pieces, List.replicate] using delivered

end Message

end Nethernet
