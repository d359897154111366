import Nethernet.Protocol.Message

/-! Reassembly of arbitrary segments, and of messages whose sender gave up part-way.

The segments come from the peer: counts and payloads are arbitrary. What a
buffer holds is always the payload of the segments fed last. -/

set_option autoImplicit false

namespace Nethernet
open Foundation

variable {message : Message} {segment : MessageSegment} {rest : List Bytes} {first : Bytes}

namespace Message

abbrev Answer := Except ProtocolError (Option Bytes)

/-- A count that the buffer does not await clears it. -/
theorem addSegment_out_of_sequence (unexpected : ¬ message.Awaits (segment.remainingSegments.toNat + 1)) :
    ∃ e, message.addSegment segment = (new, .error e) := by
  obtain ⟨expected, buffer⟩ := message
  obtain ⟨count, data⟩ := segment
  rw [Awaits, not_or] at unexpected
  obtain ⟨busy, other⟩ := unexpected
  have differs : expected - 1 ≠ count := by
    intro same
    have next : expected = count + 1 := by rw [← same, UInt8.sub_add_cancel]
    have value : expected.toNat = (count.toNat + 1) % 256 := by rw [next, UInt8.toNat_add]; rfl
    have nonzero : expected.toNat ≠ 0 := fun zero => busy (UInt8.toNat_inj.mp zero)
    have bound := count.toNat_lt
    exact other (by simp only; omega)
  simp only [addSegment, expect, busy, false_and, if_false, UInt8.pos_iff_ne_zero.mpr busy, if_true,
    ne_eq, differs, not_false_eq_true]
  exact ⟨_, rfl⟩

theorem expect_cases (message : Message) (segment : MessageSegment) :
    (∃ e, message.expect segment = .error e ∧ message.expectedSegments = 0) ∨
      ∃ expected, message.expect segment = .ok ⟨expected, message.data⟩ := by
  unfold expect checkedAdd
  split
  · rename_i starts
    split
    · exact .inr ⟨_, rfl⟩
    · exact .inl ⟨_, rfl, starts.1⟩
  · exact .inr ⟨_, rfl⟩

theorem addSegment_too_large (excess : maxReassembledSize < message.data.length + segment.data.length) :
    ∃ e, message.addSegment segment = (new, .error e) ∨
      message.addSegment segment = (message, .error e) ∧ message.expectedSegments = 0 := by
  unfold addSegment
  rcases expect_cases message segment with ⟨e, failed, idle⟩ | ⟨expected, learned⟩
  · rw [failed]
    exact ⟨e, .inr ⟨rfl, idle⟩⟩
  · rw [learned]
    simp only [append, if_pos excess, new]
    split
    · split
      · exact ⟨_, .inl rfl⟩
      · exact ⟨_, .inl rfl⟩
    · exact ⟨_, .inl rfl⟩

/-- What `addSegment` can do: refuse, and be fresh or still idle; finish a
message; or take one more of its segments. -/
theorem addSegment_cases (message : Message) (segment : MessageSegment) :
    (∃ e, message.addSegment segment = (new, .error e) ∨
      message.addSegment segment = (message, .error e) ∧ message.expectedSegments = 0) ∨
    (segment.remainingSegments.toNat = 0 ∧ message.Awaits 1 ∧
      message.data.length + segment.data.length ≤ maxReassembledSize ∧
      message.addSegment segment = (new, .ok (some (message.data ++ segment.data)))) ∨
    (0 < segment.remainingSegments.toNat ∧ segment.remainingSegments.toNat ≤ 254 ∧
      message.Awaits (segment.remainingSegments.toNat + 1) ∧
      message.data.length + segment.data.length ≤ maxReassembledSize ∧
      message.addSegment segment =
        (⟨segment.remainingSegments, message.data ++ segment.data⟩, .ok none)) := by
  by_cases awaits : message.Awaits (segment.remainingSegments.toNat + 1)
  case neg =>
    obtain ⟨e, refused⟩ := addSegment_out_of_sequence awaits
    exact .inl ⟨e, .inl refused⟩
  by_cases fits : message.data.length + segment.data.length ≤ maxReassembledSize
  case neg => exact .inl (addSegment_too_large (Nat.not_le.mp fits))
  obtain ⟨count, data⟩ := segment
  have bound : count.toNat < 256 := count.toNat_lt
  have named : UInt8.ofNat count.toNat = count := UInt8.ofNat_toNat
  by_cases last : count.toNat = 0
  · rw [last] at awaits
    have final := addSegment_final awaits fits
    rw [show (0 : UInt8) = count from UInt8.toNat_inj.mp last.symm] at final
    exact .inr (.inl ⟨last, awaits, fits, final⟩)
  · by_cases large : count.toNat = 255
    · -- only an idle buffer gets here: no buffer awaits 256 segments
      have idle : message.expectedSegments = 0 := by
        rcases awaits with idle | known
        · exact idle
        · have limit := message.expectedSegments.toNat_lt
          simp only at known
          omega
      have starts : message.expectedSegments = 0 ∧ 0 < count :=
        ⟨idle, UInt8.lt_iff_toNat_lt.mpr (Nat.pos_of_ne_zero last)⟩
      have full : ¬ count.toNat + (1 : UInt8).toNat < 256 := by simp [large]
      simp only [addSegment, expect, if_pos starts, checkedAdd, if_neg full]
      exact .inl ⟨_, .inr ⟨rfl, idle⟩⟩
    · have more := addSegment_more (Nat.pos_of_ne_zero last) (by omega) awaits fits
      rw [named] at more
      exact .inr (.inr ⟨Nat.pos_of_ne_zero last, by simp only; omega, awaits, fits, more⟩)

/-! ## Arbitrary histories -/

/-- The segments fed last that were taken one after the other: their counts go
down to `next`, and the buffer holds their data. -/
def Holds (history : List (MessageSegment × Answer)) (next : Nat) (data : Bytes) : Prop :=
  ∃ earlier last, history = earlier ++ last ∧ last ≠ [] ∧
    last.map (·.1.remainingSegments.toNat) = (List.range' next last.length).reverse ∧
    next + last.length ≤ 255 ∧ (∀ entry ∈ last, ∃ result, entry.2 = .ok result) ∧
    (last.map (·.1.data)).flatten = data

theorem Holds.start (history : List (MessageSegment × Answer)) (segment : MessageSegment)
    (bound : segment.remainingSegments.toNat ≤ 254) (result : Option Bytes) :
    Holds (history ++ [(segment, .ok result)]) segment.remainingSegments.toNat segment.data := by
  refine ⟨history, [(segment, .ok result)], rfl, by simp, by simp, ?_, by simp, by simp⟩
  rw [List.length_singleton]
  omega

theorem Holds.more {history : List (MessageSegment × Answer)} {segment : MessageSegment} {data : Bytes}
    (holds : Holds history (segment.remainingSegments.toNat + 1) data) (result : Option Bytes) :
    Holds (history ++ [(segment, .ok result)]) segment.remainingSegments.toNat (data ++ segment.data) := by
  obtain ⟨earlier, last, rfl, -, counts, bound, taken, rfl⟩ := holds
  refine ⟨earlier, last ++ [(segment, .ok result)], by simp, by simp, ?_, ?_, ?_, by simp⟩
  · rw [List.map_append, counts, List.length_append, List.length_singleton, List.range'_succ,
      List.reverse_cons]
    rfl
  · rw [List.length_append, List.length_singleton]
    omega
  · intro entry member
    rcases List.mem_append.mp member with old | fresh
    · exact taken entry old
    · rw [List.mem_singleton.mp fresh]
      exact ⟨result, rfl⟩

/-- What holds of a buffer after any history of segments. -/
structure Sound (history : List (MessageSegment × Answer)) (message : Message) : Prop where
  idle : message.expectedSegments = 0 → message.data = []
  busy : message.expectedSegments ≠ 0 → Holds history message.expectedSegments.toNat message.data
  sized : message.data.length ≤ maxReassembledSize

theorem Sound.new (history : List (MessageSegment × Answer)) : Sound history new :=
  ⟨fun _ => rfl, fun busy => absurd rfl busy, by simp [Message.new]⟩

variable {history : List (MessageSegment × Answer)}

theorem Sound.eq_new (sound : Sound history message) (idle : message.expectedSegments = 0) : message = Message.new := by
  obtain ⟨expected, data⟩ := message
  simp only at idle
  have empty : data = [] := sound.idle idle
  rw [idle, empty]
  rfl

/-- The segment that a buffer awaits extends what it holds, also when it is the first one. -/
theorem Sound.extend (sound : Sound history message) (bound : segment.remainingSegments.toNat ≤ 254)
    (awaits : message.Awaits (segment.remainingSegments.toNat + 1)) (result : Option Bytes) :
    Holds (history ++ [(segment, .ok result)]) segment.remainingSegments.toNat
      (message.data ++ segment.data) := by
  by_cases idle : message.expectedSegments = 0
  · rw [sound.idle idle, List.nil_append]
    exact .start history segment bound result
  · have holds := sound.busy idle
    rw [awaits.resolve_left idle] at holds
    exact holds.more result

/-- One segment: the buffer stays sound, an error leaves it fresh, and a
message is what the segments fed last hold. -/
theorem Sound.step (sound : Sound history message) (segment : MessageSegment) :
    Sound (history ++ [(segment, (message.addSegment segment).2)]) (message.addSegment segment).1 ∧
    (∀ e, (message.addSegment segment).2 = .error e → (message.addSegment segment).1 = Message.new) ∧
    (∀ data, (message.addSegment segment).2 = .ok (some data) →
      data.length ≤ maxReassembledSize ∧
      Holds (history ++ [(segment, (message.addSegment segment).2)]) 0 data) := by
  rcases addSegment_cases message segment with ⟨e, refused⟩ | ⟨last, awaits, fits, final⟩ |
    ⟨positive, bound, awaits, fits, more⟩
  · have fresh : message.addSegment segment = (Message.new, .error e) := by
      rcases refused with refused | ⟨refused, idle⟩
      · exact refused
      · rw [refused, sound.eq_new idle]
    rw [fresh]
    exact ⟨.new _, fun _ _ => rfl, by simp⟩
  · rw [final]
    refine ⟨.new _, by simp, ?_⟩
    intro data delivered
    simp only [Except.ok.injEq, Option.some.injEq] at delivered
    subst delivered
    have expected : message.Awaits (segment.remainingSegments.toNat + 1) := by rwa [last]
    have holds := sound.extend (by omega) expected (some (message.data ++ segment.data))
    rw [last] at holds
    exact ⟨by rwa [List.length_append], holds⟩
  · rw [more]
    refine ⟨⟨?_, fun _ => sound.extend bound awaits none, by rwa [List.length_append]⟩, by simp, by simp⟩
    intro zero
    simp only at zero
    rw [zero] at positive
    exact absurd positive (by decide)

theorem length_answers (message : Message) (fed : List MessageSegment) :
    (run addSegment message fed).2.length = fed.length := by
  induction fed generalizing message with
  | nil => rfl
  | cons segment rest ih => simp [run_cons, ih]

theorem Sound.run (sound : Sound history message) (fed : List MessageSegment) :
    Sound (history ++ fed.zip (run addSegment message fed).2) (run addSegment message fed).1 := by
  induction fed generalizing history message with
  | nil => simpa using sound
  | cons segment rest ih =>
    have tail := ih (sound.step segment).1
    rw [run_cons]
    simpa using tail

/-- Reassembly is sound and bounded for every history of segments. -/
theorem reassembly_sound (fed : List MessageSegment) (segment : MessageSegment) :
    let message := (run addSegment new fed).1
    let answers := (run addSegment new (fed ++ [segment])).2
    (∀ data, (message.addSegment segment).2 = .ok (some data) →
      data.length ≤ maxReassembledSize ∧ ∃ k ≤ 254, ∃ earlier last, fed ++ [segment] = earlier ++ last ∧
        last.map (·.remainingSegments.toNat) = (List.range (k + 1)).reverse ∧
        (∀ answer ∈ answers.drop earlier.length, ∃ result, answer = .ok result) ∧
        data = (last.map (·.data)).flatten) ∧
    (∀ e, (message.addSegment segment).2 = .error e → (message.addSegment segment).1 = new) ∧
    (message.expectedSegments = 0 → message.data = []) ∧
    message.data.length ≤ maxReassembledSize := by
  intro message answers
  have sound : Sound (fed.zip (run addSegment new fed).2) message := (Sound.new []).run fed
  obtain ⟨-, fresh, whole⟩ := sound.step segment
  refine ⟨fun data delivered => ?_, fresh, sound.idle, sound.sized⟩
  obtain ⟨sized, earlier, last, history, some, counts, bound, accepted, content⟩ := whole data delivered
  have answered : answers = (run addSegment new fed).2 ++ [(message.addSegment segment).2] := by
    simp only [answers, run_append]
    rfl
  have zipped : (fed ++ [segment]).zip answers = earlier ++ last := by
    rw [← history, answered, List.zip_append (length_answers new fed).symm]
    rfl
  have lengths : (fed ++ [segment]).length = answers.length := (length_answers new _).symm
  have segments := congrArg (List.map Prod.fst) zipped
  have replies := congrArg (List.map Prod.snd) zipped
  rw [List.map_fst_zip (Nat.le_of_eq lengths), List.map_append] at segments
  rw [List.map_snd_zip (Nat.le_of_eq lengths.symm), List.map_append] at replies
  have positive : 0 < last.length := List.length_pos_iff.mpr some
  refine ⟨sized, last.length - 1, by omega, earlier.map Prod.fst, last.map Prod.fst, segments, ?_, ?_, ?_⟩
  · rw [List.map_map, Nat.sub_add_cancel positive, List.range_eq_range']
    exact counts
  · rw [replies, List.length_map, List.drop_append_of_le_length (by simp), List.drop_of_length_le (by simp)]
    intro answer member
    obtain ⟨entry, inside, rfl⟩ := List.mem_map.mp member
    exact accepted entry inside
  · rw [List.map_map]
    exact content.symm

/-- A message in two segments behind a stray one. -/
theorem reassembly_sound_after_stray :
    (run addSegment new [⟨255, [9]⟩, ⟨1, [7]⟩]).1.addSegment ⟨0, [8]⟩ = (new, .ok (some [7, 8])) ∧
    ∃ k ≤ 254, ∃ earlier last : List MessageSegment,
      [⟨255, [9]⟩, ⟨1, [7]⟩] ++ [⟨0, [8]⟩] = earlier ++ last ∧
      last.map (·.remainingSegments.toNat) = (List.range (k + 1)).reverse ∧
      (∀ answer ∈ (run addSegment new ([⟨255, [9]⟩, ⟨1, [7]⟩] ++ [⟨0, [8]⟩])).2.drop earlier.length,
        ∃ result, answer = .ok result) ∧
      [7, 8] = (last.map (·.data)).flatten :=
  ⟨by decide, ((reassembly_sound [⟨255, [9]⟩, ⟨1, [7]⟩] ⟨0, [8]⟩).1 [7, 8] (by decide)).2⟩

/-! ## Messages whose sender gives up part-way -/

/-- A message that splits, and how many of its segments are fed: with
`segments.length ≤ fed` all of them. -/
structure Sending where
  data : Bytes
  segments : List MessageSegment
  fed : Nat
  nonempty : data ≠ []
  split : splitIntoSegments data = .ok segments

def Sending.parts (sending : Sending) : List MessageSegment := sending.segments.take sending.fed

def feed (message : Message) (sending : Sending) : Message × List Answer :=
  run addSegment message sending.parts

/-- Pieces of one message, as `chunksOf` cuts them. -/
structure Pieces (pieces : List Bytes) : Prop where
  count : pieces.length ≤ 255
  bodies : ∀ piece ∈ pieces, piece ≠ []
  sized : ∀ piece ∈ pieces, piece.length ≤ maxMessageSize

theorem Pieces.tail (cut : Pieces (first :: rest)) : Pieces rest where
  count := Nat.le_of_succ_le cut.count
  bodies piece member := cut.bodies piece (List.mem_cons_of_mem first member)
  sized piece member := cut.sized piece (List.mem_cons_of_mem first member)

-- a message is not what is left of it without its first piece
theorem Pieces.flatten_tail_ne (cut : Pieces (first :: rest)) : rest.flatten ≠ (first :: rest).flatten := by
  intro same
  have lengths := congrArg List.length same
  have body : 0 < first.length := List.length_pos_iff.mpr (cut.bodies first List.mem_cons_self)
  rw [List.flatten_cons, List.length_append] at lengths
  omega

theorem Sending.exists_pieces (sending : Sending) :
    ∃ pieces, Pieces pieces ∧ pieces ≠ [] ∧ pieces.flatten = sending.data ∧
      sending.segments = segmentsOf pieces := by
  have fits : sending.data.length ≤ 255 * maxMessageSize := by
    by_contra exceeds
    have refused := splitIntoSegments_of_gt (Nat.not_le.mp exceeds)
    rw [sending.split] at refused
    cases refused
  refine ⟨chunksOf maxMessageSize sending.data, ⟨?_, ?_, ?_⟩, chunksOf_ne_nil _ _, flatten_chunksOf _ _, ?_⟩
  · rw [length_chunksOf maxMessageSize (by decide) sending.nonempty]
    simp only [maxMessageSize] at fits ⊢
    omega
  · rintro piece member rfl
    exact nil_not_mem_chunksOf sending.nonempty member
  · exact fun piece member => length_le_of_mem_chunksOf (by decide) member
  · have whole := splitIntoSegments_of_le fits
    rw [sending.split] at whole
    exact Except.ok.inj whole

/-- A buffer fed with segments of split messages only: in the middle of one it
is not empty, and there is room for all it awaits. -/
structure Steady (message : Message) : Prop where
  idle : message.expectedSegments = 0 → message.data = []
  busy : message.expectedSegments ≠ 0 → message.data ≠ []
  room : message.data.length + message.expectedSegments.toNat * maxMessageSize ≤ 255 * maxMessageSize

theorem steady_new : Steady new := ⟨fun _ => rfl, fun busy => absurd rfl busy, by decide⟩

theorem Steady.room_for (steady : Steady message) {count : Nat} (awaits : message.Awaits count) (bound : count ≤ 255) :
    message.data.length + count * maxMessageSize ≤ 255 * maxMessageSize := by
  rcases awaits with idle | known
  · rw [steady.idle idle, List.length_nil, Nat.zero_add]
    exact Nat.mul_le_mul_right _ bound
  · rw [← known]
    exact steady.room

/-- Segments that the buffer awaits, all of them or a part: only all of them deliver. -/
theorem feed_awaited (steady : Steady message) {pieces : List Bytes} (cut : Pieces pieces) (some : pieces ≠ [])
    (awaits : message.Awaits pieces.length) (fed : Nat) :
    (∀ data, .ok (.some data) ∈ (run addSegment message ((segmentsOf pieces).take fed)).2 ↔
      pieces.length ≤ fed ∧ message.data ++ pieces.flatten = data) ∧
    Steady (run addSegment message ((segmentsOf pieces).take fed)).1 := by
  induction pieces generalizing message fed with
  | nil => exact absurd rfl some
  | cons first rest ih =>
    cases fed with
    | zero => simpa using steady
    | succ fed =>
      have room := steady.room_for awaits cut.count
      have one := cut.sized first (by simp)
      have limit : 255 * maxMessageSize ≤ maxReassembledSize := by decide
      have count := cut.count
      rw [List.length_cons] at room awaits count
      rw [Nat.succ_mul] at room
      rw [segmentsOf_cons, List.take_succ_cons, run_cons]
      cases rest with
      | nil =>
        rw [List.length_nil] at awaits
        have final : message.addSegment ⟨0, first⟩ = (new, .ok (.some (message.data ++ first))) :=
          addSegment_final awaits (by omega)
        have zero : UInt8.ofNat ([] : List Bytes).length = 0 := rfl
        rw [zero, final]
        simp [segmentsOf, countdown, steady_new, eq_comm]
      | cons next rest =>
        have more : message.addSegment ⟨UInt8.ofNat (next :: rest).length, first⟩ =
            (⟨UInt8.ofNat (next :: rest).length, message.data ++ first⟩, .ok none) :=
          addSegment_more (Nat.succ_pos rest.length) (by omega) awaits (by omega)
        have value : (UInt8.ofNat (next :: rest).length).toNat = (next :: rest).length :=
          UInt8.toNat_ofNat_of_lt' (by simp only [UInt8.size]; omega)
        have after : Steady ⟨UInt8.ofNat (next :: rest).length, message.data ++ first⟩ := by
          refine ⟨fun idle => ?_, fun _ empty => ?_, ?_⟩
          · have zero : (UInt8.ofNat (next :: rest).length).toNat = 0 := congrArg UInt8.toNat idle
            rw [value] at zero
            cases zero
          · exact cut.bodies first (by simp) (List.append_eq_nil_iff.mp empty).2
          · simp only [value, List.length_append]
            omega
        obtain ⟨delivers, kept⟩ := ih after cut.tail (by simp) (.inr value) fed
        rw [more]
        refine ⟨fun data => ?_, kept⟩
        rw [List.mem_cons, delivers data]
        simp [List.append_assoc]

/-- Segments that the buffer does not await: the first one is refused, and the
others then look like a message of their own. -/
theorem feed_refused (steady : Steady message) (cut : Pieces (first :: rest))
    (unexpected : ¬ message.Awaits (first :: rest).length) (fed : Nat) :
    (∀ data, .ok (some data) ∈ (run addSegment message ((segmentsOf (first :: rest)).take fed)).2 ↔
      rest ≠ [] ∧ (first :: rest).length ≤ fed ∧ rest.flatten = data) ∧
    Steady (run addSegment message ((segmentsOf (first :: rest)).take fed)).1 := by
  cases fed with
  | zero => simpa using steady
  | succ fed =>
    have count := cut.count
    rw [List.length_cons] at count
    have value : (UInt8.ofNat rest.length).toNat = rest.length :=
      UInt8.toNat_ofNat_of_lt' (by simp only [UInt8.size]; omega)
    have refused : ∃ e, message.addSegment ⟨UInt8.ofNat rest.length, first⟩ = (new, .error e) := by
      apply addSegment_out_of_sequence
      rwa [value]
    obtain ⟨e, refused⟩ := refused
    rw [segmentsOf_cons, List.take_succ_cons, run_cons, refused]
    by_cases single : rest = []
    · subst single
      simpa [segmentsOf, countdown] using steady_new
    · obtain ⟨delivers, kept⟩ := feed_awaited steady_new cut.tail single (.inl rfl) fed
      refine ⟨fun data => ?_, kept⟩
      rw [List.mem_cons, delivers data]
      simp [single, new]

/-- Whatever a sending delivers is its own message. -/
def Faithful (message : Message) (sending : Sending) : Prop :=
  ∀ data, .ok (some data) ∈ (feed message sending).2 → data = sending.data

/-- A message that is fed to its end finds no rest of an abandoned one in the
buffer, or it is a single segment that the buffer refuses. -/
def Undisturbed (message : Message) (sending : Sending) : Prop :=
  sending.segments.length ≤ sending.fed →
    message.expectedSegments = 0 ∨ sending.segments.length = 1 ∧ message.expectedSegments ≠ 1

theorem feed_spec (steady : Steady message) (sending : Sending) :
    (Faithful message sending ↔ Undisturbed message sending) ∧ Steady (feed message sending).1 := by
  obtain ⟨pieces, cut, some, content, segments⟩ := sending.exists_pieces
  unfold Faithful Undisturbed feed Sending.parts
  rw [segments, length_segmentsOf]
  by_cases awaits : message.Awaits pieces.length
  · obtain ⟨delivers, kept⟩ := feed_awaited steady cut some awaits sending.fed
    refine ⟨?_, kept⟩
    simp only [delivers, content]
    by_cases idle : message.expectedSegments = 0
    · simp [idle, steady.idle idle, eq_comm]
    · -- the whole message would be delivered behind the rest of another one
      have known := awaits.resolve_left idle
      have buffered := steady.busy idle
      have other : pieces.length = 1 → message.expectedSegments = 1 := by
        intro one
        exact UInt8.toNat_inj.mp (known.trans one)
      simp only [idle, false_or]
      constructor
      · intro faithful whole
        exact absurd (faithful _ ⟨whole, rfl⟩) (by simpa using buffered)
      · rintro undisturbed data ⟨whole, -⟩
        obtain ⟨one, differs⟩ := undisturbed whole
        exact absurd (other one) differs
  · -- without its first segment it would be delivered short
    obtain ⟨first, rest, rfl⟩ := List.exists_cons_of_ne_nil some
    obtain ⟨delivers, kept⟩ := feed_refused steady cut awaits sending.fed
    obtain ⟨idle, other⟩ := not_or.mp awaits
    refine ⟨?_, kept⟩
    simp only [delivers, idle, false_or]
    have short : rest.flatten ≠ sending.data := by
      intro same
      exact cut.flatten_tail_ne (same.trans content.symm)
    constructor
    · intro faithful whole
      have single : rest = [] := by
        by_contra more
        exact short (faithful _ ⟨more, whole, rfl⟩)
      subst single
      refine ⟨rfl, fun one => other ?_⟩
      rw [one]
      rfl
    · rintro undisturbed data ⟨more, whole, -⟩
      obtain ⟨one, -⟩ := undisturbed whole
      exact absurd (List.length_eq_zero_iff.mp (Nat.succ.inj one)) more

theorem faithful_delivers {sendings : List Sending} (faithful : Along feed Faithful message sendings) {data : Bytes}
    (delivered : .ok (some data) ∈ (run addSegment message (sendings.flatMap Sending.parts)).2) :
    ∃ sending ∈ sendings, data = sending.data := by
  induction sendings generalizing message with
  | nil => simp at delivered
  | cons sending rest ih =>
    obtain ⟨own, later⟩ := faithful
    rw [List.flatMap_cons, run_append, List.mem_append] at delivered
    rcases delivered with now | afterwards
    · exact ⟨sending, by simp, own data now⟩
    · obtain ⟨other, member, same⟩ := ih later afterwards
      exact ⟨other, List.mem_cons_of_mem _ member, same⟩

/-- Every message delivered is the one whose segments were just fed, exactly
when none is fed to its end behind an abandoned one; and then nothing else is
ever delivered. -/
theorem delivered_faithfully_iff (sendings : List Sending) :
    (Along feed Faithful new sendings ↔ Along feed Undisturbed new sendings) ∧
    (Along feed Undisturbed new sendings →
      ∀ data, .ok (some data) ∈ (run addSegment new (sendings.flatMap Sending.parts)).2 →
        ∃ sending ∈ sendings, data = sending.data) := by
  have agree : ∀ (message : Message) sending, Steady message →
      (Faithful message sending ↔ Undisturbed message sending) :=
    fun message sending steady => (feed_spec steady sending).1
  have keeps : ∀ (message : Message) sending, Steady message → Undisturbed message sending →
      Steady (feed message sending).1 :=
    fun message sending steady _ => (feed_spec steady sending).2
  have same := along_congr feed agree keeps steady_new sendings
  refine ⟨same, fun undisturbed data delivered => ?_⟩
  exact faithful_delivers (same.mpr undisturbed) delivered

/-- A message of two full segments and one byte. -/
def Sending.three (byte : UInt8) (fed : Nat) : Sending where
  data := List.replicate (2 * maxMessageSize + 1) byte
  segments := [⟨2, List.replicate maxMessageSize byte⟩, ⟨1, List.replicate maxMessageSize byte⟩, ⟨0, [byte]⟩]
  fed := fed
  nonempty := by simp
  split := by
    have positive : 0 < maxMessageSize := by decide
    have cut : chunksOf maxMessageSize (List.replicate (2 * maxMessageSize + 1) byte) =
        [List.replicate maxMessageSize byte, List.replicate maxMessageSize byte, [byte]] := by
      rw [chunksOf_of_lt positive (by rw [List.length_replicate]; omega), List.take_replicate,
        List.drop_replicate, chunksOf_of_lt positive (by rw [List.length_replicate]; omega),
        List.take_replicate, List.drop_replicate,
        chunksOf_of_le (by rw [List.length_replicate]; omega)]
      have left : 2 * maxMessageSize + 1 - maxMessageSize - maxMessageSize = 1 := by omega
      rw [left, Nat.min_eq_left (by omega), Nat.min_eq_left (by omega)]
      rfl
    rw [splitIntoSegments_of_le (by rw [List.length_replicate]; decide), cut]
    rfl

theorem feed_three (byte : UInt8) : feed new (.three byte 1) =
    (⟨2, List.replicate maxMessageSize byte⟩, [.ok none]) := by
  have fits : new.data.length + (List.replicate maxMessageSize byte).length ≤ maxReassembledSize := by
    rw [List.length_replicate]
    decide
  have more : new.addSegment ⟨2, List.replicate maxMessageSize byte⟩ =
      (⟨2, List.replicate maxMessageSize byte⟩, .ok none) :=
    addSegment_more (by decide) (by decide) (.inl rfl) fits
  simp only [feed, Sending.parts, Sending.three, List.take_succ_cons, List.take_zero, run_cons, run_nil, more]

/-- After an abandoned message, a short one that the buffer refuses is lost, and the next one arrives. -/
theorem delivered_faithfully_behind_refused :
    ∀ data, .ok (some data) ∈ (run addSegment new ([Sending.three 1 1, ⟨[7], [⟨0, [7]⟩], 1, by simp, rfl⟩,
        ⟨[8], [⟨0, [8]⟩], 1, by simp, rfl⟩].flatMap Sending.parts)).2 →
      ∃ sending ∈ [Sending.three 1 1, ⟨[7], [⟨0, [7]⟩], 1, by simp, rfl⟩,
        ⟨[8], [⟨0, [8]⟩], 1, by simp, rfl⟩], data = sending.data := by
  refine (delivered_faithfully_iff _).2 ⟨fun _ => .inl rfl, fun _ => .inr ?_, fun _ => .inl ?_, trivial⟩
  · rw [feed_three]
    decide
  · rw [feed_three]
    have refused : ∃ e, addSegment ⟨2, List.replicate maxMessageSize 1⟩ ⟨0, [7]⟩ = (new, .error e) := by
      apply addSegment_out_of_sequence
      simp [Awaits]
    obtain ⟨e, refused⟩ := refused
    simp only [feed, Sending.parts, List.take_succ_cons, List.take_zero, run_cons, run_nil, refused]
    rfl

/-- Of three segments the first is abandoned; the next message then arrives without its first segment. -/
theorem suffix_delivered_behind_abandoned :
    .ok (some ((Sending.three 2 3).data.drop maxMessageSize)) ∈
      (run addSegment new ([Sending.three 1 1, Sending.three 2 3].flatMap Sending.parts)).2 ∧
    ∀ sending ∈ [Sending.three 1 1, Sending.three 2 3],
      (Sending.three 2 3).data.drop maxMessageSize ≠ sending.data := by
  have size : maxMessageSize + 1 ≤ maxReassembledSize := by decide
  have refused : ∃ e, addSegment ⟨2, List.replicate maxMessageSize 1⟩ ⟨2, List.replicate maxMessageSize 2⟩ =
      (new, .error e) := by
    apply addSegment_out_of_sequence
    simp [Awaits]
  have more : new.addSegment ⟨1, List.replicate maxMessageSize 2⟩ =
      (⟨1, List.replicate maxMessageSize 2⟩, .ok none) :=
    addSegment_more (by decide) (by decide) (.inl rfl) (by simp only [new, List.length_nil, List.length_replicate]; omega)
  have final : addSegment ⟨1, List.replicate maxMessageSize 2⟩ ⟨0, [2]⟩ =
      (new, .ok (some (List.replicate maxMessageSize 2 ++ [2]))) :=
    addSegment_final (.inr rfl) (by simp only [List.length_replicate, List.length_singleton]; omega)
  have rest : (Sending.three 2 3).data.drop maxMessageSize = List.replicate maxMessageSize 2 ++ [2] := by
    have left : 2 * maxMessageSize + 1 - maxMessageSize = maxMessageSize + 1 := by omega
    rw [Sending.three, List.drop_replicate, left, List.replicate_succ']
  obtain ⟨e, refused⟩ := refused
  constructor
  · have first := feed_three 1
    unfold feed at first
    rw [rest, List.flatMap_cons, run_append, first]
    simp only [Sending.parts, Sending.three, List.flatMap_cons, List.flatMap_nil, List.take_succ_cons,
      List.take_zero, List.append_nil, run_cons, run_nil, refused, more, final]
    simp
  · intro sending member same
    have length : sending.data.length = 2 * maxMessageSize + 1 := by
      rcases List.mem_pair.mp member with rfl | rfl <;> exact List.length_replicate
    rw [← same, rest, List.length_append, List.length_replicate, List.length_singleton] at length
    exact absurd length (by decide)

end Message

end Nethernet
