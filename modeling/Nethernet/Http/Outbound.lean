import Nethernet.Foundation.Machine
import Nethernet.Http.Stream

/-! What a stream has queued and what its socket has taken: the bytes leave in
order and once, however the writes are cut and whatever is queued between them. -/

set_option autoImplicit false

namespace Nethernet.Http
open Foundation

/-- A socket that remembers what it took. A write takes a first part of what it is offered, or nothing. -/
structure Wire.Remembers (wire : Wire) (taken : wire.Socket → Bytes) : Prop where
  wrote : ∀ {socket data count}, (wire.write socket data).2 = .ok count →
    count ≤ data.length ∧ taken (wire.write socket data).1 = taken socket ++ data.take count
  failed : ∀ {socket data error}, (wire.write socket data).2 = .error error →
    taken (wire.write socket data).1 = taken socket

namespace HttpStream
variable {wire : Wire}

inductive Call where
  | queue (bytes : Bytes)
  | drain

def call (stream : HttpStream wire) : Call → HttpStream wire × Option (Except WireError Drain)
  | .queue bytes => (stream.queue bytes, none)
  | .drain => (stream.drain.1, some stream.drain.2)

def Call.queued : Call → Bytes
  | .queue bytes => bytes
  | .drain => []

-- `outbound[written..]`
def undelivered (stream : HttpStream wire) : Bytes := stream.outbound.drop stream.written

/-- Some byte of what is buffered is left to write, or nothing is buffered. -/
structure Buffered (stream : HttpStream wire) : Prop where
  left : stream.outbound ≠ [] → stream.written < stream.outbound.length
  idle : stream.outbound = [] → stream.written = 0

variable {stream : HttpStream wire}

theorem Buffered.written_le (buffered : Buffered stream) : stream.written ≤ stream.outbound.length := by
  by_cases empty : stream.outbound = []
  · rw [buffered.idle empty]
    exact Nat.zero_le _
  · exact Nat.le_of_lt (buffered.left empty)

theorem Buffered.undelivered_eq_nil (buffered : Buffered stream) : stream.undelivered = [] ↔ stream.outbound = [] := by
  rw [undelivered, List.drop_eq_nil_iff]
  constructor
  · intro spent
    by_contra some
    exact absurd (buffered.left some) (Nat.not_lt_of_le spent)
  · intro empty
    rw [empty]
    exact Nat.zero_le _

theorem Buffered.new (socket : wire.Socket) : Buffered (new socket) := ⟨fun some => absurd rfl some, fun _ => rfl⟩

theorem Buffered.queue (buffered : Buffered stream) (bytes : Bytes) :
    Buffered (stream.queue bytes) where
  left some := by
    show stream.written < (stream.outbound ++ bytes).length
    have fits := buffered.written_le
    by_cases empty : stream.outbound = []
    · have present : (stream.outbound ++ bytes).length ≠ 0 := by simpa [HttpStream.queue] using some
      rw [buffered.idle empty]
      omega
    · have less := buffered.left empty
      rw [List.length_append]
      omega
  idle empty := buffered.idle (List.append_eq_nil_iff.mp empty).1

theorem undelivered_queue (buffered : Buffered stream) (bytes : Bytes) :
    (stream.queue bytes).undelivered = stream.undelivered ++ bytes :=
  List.drop_append_of_le_length buffered.written_le

/-! ## One drain -/

section
variable {taken : wire.Socket → Bytes}

/-- What a drain can do to a buffered stream: nothing is taken and nothing changes but the socket,
or the socket takes a first part of what is left, short of it or all of it. -/
inductive Drains (taken : wire.Socket → Bytes) (stream : HttpStream wire) :
    HttpStream wire × Except WireError Drain → Prop where
  | still {socket : wire.Socket} {result : Except WireError Drain} (same : taken socket = taken stream.socket)
      (unfinished : result ≠ .ok .complete) : Drains taken stream ({ stream with socket := socket }, result)
  | part {socket : wire.Socket} {count : Nat} (some : count < stream.undelivered.length)
      (took : taken socket = taken stream.socket ++ stream.undelivered.take count) :
      Drains taken stream ({ stream with socket := socket, written := stream.written + count }, .ok .part)
  | complete {socket : wire.Socket} (some : stream.undelivered ≠ [])
      (took : taken socket = taken stream.socket ++ stream.undelivered) :
      Drains taken stream ({ stream with socket := socket, outbound := [], written := 0 }, .ok .complete)

theorem drains (remembers : wire.Remembers taken) (buffered : Buffered stream) : Drains taken stream stream.drain := by
  unfold drain
  split
  · exact .still rfl (by simp)
  · rename_i present
    have present : stream.undelivered ≠ [] := by
      rw [Ne, buffered.undelivered_eq_nil]
      simpa using present
    split
    · rename_i socket wrote
      have took := (remembers.wrote (congrArg Prod.snd wrote)).2
      rw [wrote, List.take_zero, List.append_nil] at took
      exact .still took (by simp)
    · rename_i socket count _ wrote
      obtain ⟨fits, took⟩ := remembers.wrote (congrArg Prod.snd wrote)
      rw [wrote] at took
      have size : stream.undelivered.length = stream.outbound.length - stream.written := List.length_drop
      have within := buffered.written_le
      dsimp only
      split
      · rename_i ends
        apply Drains.complete present
        rw [took, List.take_of_length_le (by rw [← undelivered, size]; omega)]
        rfl
      · rename_i short
        exact .part (by change count ≤ stream.undelivered.length at fits; omega) took
    · rename_i socket wrote
      have took := remembers.failed (congrArg Prod.snd wrote)
      rw [wrote] at took
      exact .still took (by simp)
    · rename_i socket error _ wrote
      have took := remembers.failed (congrArg Prod.snd wrote)
      rw [wrote] at took
      exact .still took (by simp)

theorem Buffered.drain (remembers : wire.Remembers taken) (buffered : Buffered stream) : Buffered stream.drain.1 := by
  have drains := drains remembers buffered
  generalize stream.drain = after at drains
  cases drains with
  | still same unfinished => exact ⟨buffered.left, buffered.idle⟩
  | part some took =>
    have size : stream.undelivered.length = stream.outbound.length - stream.written := List.length_drop
    refine ⟨fun _ => ?_, fun empty => ?_⟩
    · dsimp only
      omega
    · change stream.outbound = [] at empty
      simp [undelivered, empty] at some
  | complete some took => exact ⟨fun none => absurd rfl none, fun _ => rfl⟩

/-- What the socket took and what is left for it do not change together. -/
theorem taken_drain (remembers : wire.Remembers taken) (buffered : Buffered stream) :
    taken stream.drain.1.socket ++ stream.drain.1.undelivered = taken stream.socket ++ stream.undelivered := by
  have drains := drains remembers buffered
  generalize stream.drain = after at drains
  cases drains with
  | still same unfinished =>
    rw [same]
    rfl
  | @part socket count some took =>
    have rest : ({ stream with socket := socket, written := stream.written + count } : HttpStream wire).undelivered =
        stream.undelivered.drop count := (List.drop_drop ..).symm
    rw [rest, took, List.append_assoc, List.take_append_drop]
  | @complete socket some took =>
    have rest : ({ stream with socket := socket, outbound := [], written := 0 } : HttpStream wire).undelivered = [] := rfl
    rw [rest, took, List.append_nil]

theorem drain_complete_iff (remembers : wire.Remembers taken) (buffered : Buffered stream) :
    stream.drain.2 = .ok .complete ↔ stream.undelivered ≠ [] ∧ stream.drain.1.undelivered = [] := by
  have drains := drains remembers buffered
  generalize stream.drain = after at drains
  cases drains with
  | still same unfinished =>
    constructor
    · intro complete
      exact absurd complete unfinished
    · rintro ⟨some, none⟩
      exact absurd none some
  | @part socket count some took =>
    constructor
    · intro complete
      cases complete
    · rintro ⟨-, none⟩
      have spent : stream.undelivered.drop count = [] := (List.drop_drop ..).trans none
      exact absurd (List.drop_eq_nil_iff.mp spent) (Nat.not_le_of_lt some)
  | complete some took => exact ⟨fun _ => ⟨some, rfl⟩, fun _ => rfl⟩

/-! ## Whole runs -/

/-- The stream has been given `queued` in all, counted from what the socket held at first. -/
structure InOrder (taken : wire.Socket → Bytes) (queued : Bytes) (stream : HttpStream wire) : Prop where
  conserved : taken stream.socket ++ stream.undelivered = queued
  written_le : stream.written ≤ stream.outbound.length
  idle : stream.outbound = [] → stream.written = 0
  -- the last byte goes out in this drain
  complete : stream.drain.2 = .ok .complete ↔ taken stream.socket ≠ queued ∧ taken stream.drain.1.socket = queued
  hasOutbound : stream.hasOutbound = true ↔ taken stream.socket ≠ queued

theorem inOrder (remembers : wire.Remembers taken) {queued : Bytes} (buffered : Buffered stream)
    (conserved : taken stream.socket ++ stream.undelivered = queued) : InOrder taken queued stream := by
  have delivered : taken stream.socket = queued ↔ stream.undelivered = [] := by
    rw [← conserved, List.self_eq_append_right]
  have drained : taken stream.drain.1.socket = queued ↔ stream.drain.1.undelivered = [] := by
    rw [← conserved, ← taken_drain remembers buffered, List.self_eq_append_right]
  refine ⟨conserved, buffered.written_le, buffered.idle, ?_, ?_⟩
  · exact (drain_complete_iff remembers buffered).trans (and_congr (not_congr delivered.symm) drained.symm)
  · rw [Ne, delivered, buffered.undelivered_eq_nil, hasOutbound, Bool.not_eq_true', List.isEmpty_eq_false_iff]

theorem conserved_run (remembers : wire.Remembers taken) (buffered : Buffered stream) (calls : List Call) :
    Buffered (run call stream calls).1 ∧
      taken (run call stream calls).1.socket ++ (run call stream calls).1.undelivered =
        taken stream.socket ++ stream.undelivered ++ calls.flatMap Call.queued := by
  induction calls generalizing stream with
  | nil => exact ⟨buffered, (List.append_nil _).symm⟩
  | cons first rest ih =>
    cases first with
    | queue bytes =>
      obtain ⟨kept, conserved⟩ := ih (buffered.queue bytes)
      refine ⟨kept, conserved.trans ?_⟩
      rw [undelivered_queue buffered, List.flatMap_cons, ← List.append_assoc, ← List.append_assoc]
      rfl
    | drain =>
      obtain ⟨kept, conserved⟩ := ih (buffered.drain remembers)
      refine ⟨kept, conserved.trans ?_⟩
      rw [taken_drain remembers buffered]
      rfl

/-- Queued bytes leave in order and once, under every interleaving of queueing and draining. -/
theorem queued_bytes_in_order (remembers : wire.Remembers taken) (socket : wire.Socket) (calls : List Call) :
    InOrder taken (taken socket ++ calls.flatMap Call.queued) (run call (new socket) calls).1 := by
  obtain ⟨buffered, conserved⟩ := conserved_run remembers (.new socket) calls
  have fresh : (new socket : HttpStream wire).undelivered = [] := rfl
  rw [fresh, List.append_nil] at conserved
  exact inOrder remembers buffered conserved

end

/-- A socket that takes at most the given numbers of bytes, one after the other, and then blocks. -/
def trickleWire : Wire where
  Socket := Bytes × List Nat
  read held := (held, .ok (.idle, []))
  write
    | (taken, []), _ => ((taken, []), .error (.io true))
    | (taken, limit :: limits), data => ((taken ++ data.take limit, limits), .ok (min limit data.length))
  flush held := (held, .ok ())
  finish held := (held, .ok ())
  hasPendingOutput _ := false
  awaitingSession _ := false
  beginSession held _ := (held, .ok ())

theorem trickleWire_remembers : trickleWire.Remembers Prod.fst where
  wrote {socket data count} wrote := by
    obtain ⟨taken, limits⟩ := socket
    cases limits with
    | nil => cases wrote
    | cons limit limits =>
      cases wrote
      exact ⟨Nat.min_le_right _ _, congrArg (taken ++ ·) List.take_eq_take_min⟩
  failed {socket data error} failed := by
    obtain ⟨taken, limits⟩ := socket
    cases limits with
    | nil => rfl
    | cons limit limits => cases failed

def trickled : HttpStream trickleWire :=
  (run call (@new trickleWire ([], [2, 1])) [.queue [1, 2, 3], .drain, .queue [4], .drain]).1

/-- Two writes, the second after more was queued. -/
theorem trickled_bytes_in_order :
    InOrder Prod.fst [1, 2, 3, 4] trickled ∧ trickled.undelivered = [4] :=
  ⟨queued_bytes_in_order trickleWire_remembers ([], [2, 1]) [.queue [1, 2, 3], .drain, .queue [4], .drain], by decide⟩

end HttpStream

end Nethernet.Http
