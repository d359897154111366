import Nethernet.Foundation.Machine
import Nethernet.Signaling.LanSteps

/-! A network id that is pinned to an address: as long as that address is heard
from, datagrams that claim the id from elsewhere change nothing. -/

set_option autoImplicit false

namespace Nethernet
open Foundation

inductive LanCall where
  | handle (input : LanSignalerInput)
  | poll

inductive LanResult where
  | handled (result : Except LanSignalerError Unit)
  | polled (output : Option LanSignalerOutput)

-- the clock reading a call is given
def LanCall.time : LanCall → Option Instant
  | .handle (.datagram _ _ now) => some now
  | .handle (.signal _ now) => some now
  | .handle (.setServerData _) => none
  | .handle (.update now) => some now
  | .poll => none

variable {now : Instant}

namespace LanSignaler
variable (crypto : DiscoveryCrypto)

def call (self : LanSignaler) : LanCall → LanSignaler × LanResult
  | .handle input => ((self.handle crypto input).1, .handled (self.handle crypto input).2)
  | .poll => (self.poll.1, .polled self.poll.2)

/-! ## Addresses -/

variable (self : LanSignaler)

theorem addresses_sendSignal (signal : Signal) (target : UInt64) :
    (self.sendSignal crypto signal target).1.addresses = self.addresses := by
  unfold sendSignal
  split
  · rfl
  · split <;> rfl

theorem addresses_handleSignal (signal : Signal) (now : Instant) :
    (self.handleSignal crypto signal now).1.addresses = self.addresses := by
  cases parsed : Signal.parseU64 signal.networkId.toList with
  | error error => simp only [handleSignal, parsed]
  | ok target =>
    have kept := addresses_sendSignal crypto self signal target
    simp only [handleSignal, parsed]
    split
    · rename_i sent
      rwa [sent] at kept
    · rename_i sent
      rw [sent] at kept
      split <;> exact kept

theorem handlePacket_keeps (packet : Packets) (sender : UInt64) (addr : SocketAddr) :
    (self.handlePacket crypto packet sender addr).1.addresses = self.addresses ∧
      (self.handlePacket crypto packet sender addr).1.lastBroadcast = self.lastBroadcast := by
  cases packet with
  | request =>
    simp only [handlePacket, answerRequest]
    split
    · exact ⟨rfl, rfl⟩
    · split <;> exact ⟨rfl, rfl⟩
  | response response =>
    simp only [handlePacket, handleResponse]
    split
    · exact ⟨rfl, rfl⟩
    · split <;> exact ⟨rfl, rfl⟩
  | message message =>
    simp only [handlePacket, handleMessage]
    split <;> exact ⟨rfl, rfl⟩

theorem addresses_broadcast (now : Instant) :
    (self.broadcast crypto now).1.addresses = self.addresses ∧ (self.broadcast crypto now).1.config = self.config := by
  unfold broadcast
  split
  · exact ⟨rfl, rfl⟩
  · split
    · exact ⟨rfl, rfl⟩
    · split
      · exact ⟨rfl, rfl⟩
      · dsimp only
        split <;> exact ⟨rfl, rfl⟩

/-! ## The pinned id -/

section
variable (networkId : UInt64) (pinned : SocketAddr)

-- the datagram decodes to this sender
def claims (buf : Bytes) : Bool :=
  match Discovery.decode crypto buf with
  | .ok (_, sender) => sender = networkId
  | .error _ => false

def impostor : LanCall → Bool
  | .handle (.datagram buf addr _) => claims crypto networkId buf && addr ≠ pinned
  | _ => false

-- when the pinned address was last heard from, after a call
def heardAt (last : Instant) : LanCall → Instant
  | .handle (.datagram buf addr now) => if claims crypto networkId buf && addr = pinned then now else last
  | _ => last

/-- The pinned address is heard from often enough: at no call has it been quiet for `timeout`. -/
def KeepsArriving (timeout : Duration) : Instant → List LanCall → Prop
  | _, [] => True
  | last, call :: rest => (∀ now ∈ call.time, now.since last < timeout) ∧
      KeepsArriving timeout (heardAt crypto networkId pinned last call) rest

/-- The id is held by the address, last heard from at `last`; the signaler's own id is nobody's. -/
def Pinned (last : Instant) (self : LanSignaler) : Prop :=
  networkId = self.networkId ∨ self.addresses.lookup networkId = some ⟨pinned, last⟩

end

section
variable {networkId : UInt64} {pinned : SocketAddr} {last : Instant} {self : LanSignaler}

theorem pinnedElsewhere_pinned (held : self.addresses.lookup networkId = some ⟨pinned, last⟩)
    (fresh : now.since last < self.config.addressTimeout) (addr : SocketAddr) :
    self.pinnedElsewhere networkId addr now = decide (addr ≠ pinned) := by
  simp only [pinnedElsewhere, held, fresh, decide_true, Bool.and_true, ne_comm]

/-- A datagram from elsewhere that claims the pinned id is ignored. -/
theorem Pinned.call_impostor (held : Pinned networkId pinned last self) {call : LanCall}
    (foreign : impostor crypto networkId pinned call = true)
    (fresh : ∀ now ∈ call.time, now.since last < self.config.addressTimeout) :
    self.call crypto call = (self, .handled (.ok ())) := by
  match call, foreign with
  | .handle (.datagram buf addr now), foreign =>
    simp only [impostor, claims, Bool.and_eq_true, decide_eq_true_eq] at foreign
    obtain ⟨claimed, elsewhere⟩ := foreign
    have ignored : self.handleDatagram crypto buf addr now = (self, .ok ()) := by
      unfold handleDatagram
      split at claimed
      · rename_i packet sender decoded
        have same : sender = networkId := of_decide_eq_true claimed
        subst same
        simp only [decoded]
        rcases held with own | held
        · rw [if_pos own]
        · rw [pinnedElsewhere_pinned held (fresh now rfl), decide_eq_true elsewhere, if_pos rfl, ite_self]
      · cases claimed
    simp only [LanSignaler.call, handle, ignored]

theorem lookup_handleDatagram (held : self.addresses.lookup networkId = some ⟨pinned, last⟩)
    (other : networkId ≠ self.networkId) (buf : Bytes) (addr : SocketAddr)
    (fresh : now.since last < self.config.addressTimeout) :
    (self.handleDatagram crypto buf addr now).1.addresses.lookup networkId =
      some ⟨pinned, if claims crypto networkId buf && addr = pinned then now else last⟩ := by
  unfold handleDatagram claims
  cases decoded : Discovery.decode crypto buf with
  | error error => exact held
  | ok result =>
    obtain ⟨packet, sender⟩ := result
    by_cases same : sender = networkId
    · subst same
      simp only [if_neg other, pinnedElsewhere_pinned held fresh]
      by_cases home : addr = pinned
      · subst home
        simp only [ne_eq, not_true_eq_false, decide_false, Bool.false_eq_true, if_false, decide_true, Bool.and_self, if_true]
        rw [(handlePacket_keeps ..).1, AList.lookup_insert]
      · simp only [ne_eq, home, not_false_eq_true, decide_true, if_true, decide_false, Bool.and_false, Bool.false_eq_true,
          if_false]
        exact held
    · simp only [same, decide_false, Bool.false_and, Bool.false_eq_true, if_false]
      split
      · exact held
      · split
        · exact held
        · rw [(handlePacket_keeps ..).1, AList.lookup_insert_ne (Ne.symm same)]
          exact held

theorem lookup_handleUpdate (held : self.addresses.lookup networkId = some ⟨pinned, last⟩)
    (fresh : now.since last < self.config.addressTimeout) :
    (self.handleUpdate crypto now).1.addresses.lookup networkId = some ⟨pinned, last⟩ := by
  have retransmitted : (self.retransmit crypto now).addresses = self.addresses ∧
      (self.retransmit crypto now).config = self.config := by
    rw [retransmit_eq]
    exact ⟨rfl, rfl⟩
  have kept := addresses_broadcast crypto (self.retransmit crypto now) now
  rw [retransmitted.1, retransmitted.2] at kept
  unfold handleUpdate
  split
  · rename_i sent
    rw [sent] at kept
    exact kept.1 ▸ held
  · rename_i next sent
    rw [sent] at kept
    have addresses : next.addresses = self.addresses := kept.1
    have config : next.config = self.config := kept.2
    simp only [push, expire, Table.lookup_retain, addresses, config, held, Option.filter_some, decide_eq_true fresh,
      if_true]

theorem networkId_call (self : LanSignaler) (call : LanCall) :
    (self.call crypto call).1.networkId = self.networkId ∧ (self.call crypto call).1.config = self.config := by
  cases call with
  | handle input => exact ⟨(effect_handle crypto self input).networkId, (effect_handle crypto self input).config⟩
  | poll =>
    simp only [LanSignaler.call, poll]
    split <;> exact ⟨rfl, rfl⟩

/-- Every call keeps the id where it is and notes when its address was heard from. -/
theorem Pinned.call (held : Pinned networkId pinned last self) {call : LanCall}
    (fresh : ∀ now ∈ call.time, now.since last < self.config.addressTimeout) :
    Pinned networkId pinned (heardAt crypto networkId pinned last call) (self.call crypto call).1 := by
  have sameId := (networkId_call crypto self call).1
  rw [Pinned, sameId]
  by_cases own : networkId = self.networkId
  · exact .inl own
  · have held := held.resolve_left own
    right
    match call with
    | .handle (.datagram buf addr now) => exact lookup_handleDatagram crypto held own buf addr (fresh now rfl)
    | .handle (.signal signal now) =>
      have kept := addresses_handleSignal crypto self signal now
      simp only [LanSignaler.call, handle, kept]
      exact held
    | .handle (.setServerData data) => exact held
    | .handle (.update now) => exact lookup_handleUpdate crypto held (fresh now rfl)
    | .poll =>
      simp only [LanSignaler.call, poll]
      split <;> exact held

end

/-! ## Runs with inserted datagrams -/

section
variable {networkId : UInt64} {pinned : SocketAddr} {timeout : Duration}

-- a call, and whether it was inserted into the run
def markedCall (self : LanSignaler) (call : LanCall × Bool) : LanSignaler × LanResult := self.call crypto call.1

def base (whole : List (LanCall × Bool)) : List LanCall := (whole.filter fun call => !call.2).map Prod.fst

def times (calls : List LanCall) : List Instant := calls.filterMap LanCall.time

-- a time that a later call of the base run reaches is not too late
theorem fresh_of_later {last : Instant} {calls : List LanCall}
    (arriving : KeepsArriving crypto networkId pinned timeout last calls) (later : times calls ≠ [])
    (ordered : ∀ time ∈ times calls, now ≤ time) : now.since last < timeout := by
  induction calls with
  | nil => exact absurd rfl later
  | cons call rest ih =>
    obtain ⟨fresh, arriving⟩ := arriving
    cases timed : call.time with
    | some time =>
      have reached : now ≤ time := ordered time (by simp [times, timed])
      have quiet : time.since last < timeout := fresh time timed
      exact (Nat.sub_le_sub_right reached last).trans_lt quiet
    | none =>
      have same : times (call :: rest) = times rest := by simp [times, timed]
      have unheard : heardAt crypto networkId pinned last call = last := by
        unfold heardAt
        split
        · cases timed
        · rfl
      rw [unheard] at arriving
      rw [same] at later ordered
      exact ih arriving later ordered

theorem times_cons (call : LanCall) (rest : List LanCall) : times (call :: rest) = call.time.toList ++ times rest := by
  cases timed : call.time <;> simp [times, timed]

theorem times_base_subset (whole : List (LanCall × Bool)) : times (base whole) ⊆ times (whole.map Prod.fst) :=
  ((List.filter_sublist.map Prod.fst).filterMap LanCall.time).subset

theorem heardAt_mem (networkId : UInt64) (pinned : SocketAddr) (last : Instant) (call : LanCall) :
    heardAt crypto networkId pinned last call ∈ last :: call.time.toList := by
  unfold heardAt
  split
  · split <;> simp [LanCall.time]
  · exact List.mem_cons_self

/-- An inserted datagram of a run finds the id pinned, so it changes nothing. -/
theorem inserted_unchanging {whole : List (LanCall × Bool)} {last : Instant} {self : LanSignaler}
    (held : Pinned networkId pinned last self)
    (arriving : KeepsArriving crypto networkId pinned self.config.addressTimeout last (base whole))
    (ordered : (last :: times (whole.map Prod.fst)).Pairwise (· ≤ ·))
    (inserted : ∀ call ∈ whole, call.2 = true → impostor crypto networkId pinned call.1 = true)
    (within : ∀ call ∈ whole, call.2 = true → ∀ now ∈ call.1.time,
      (∃ time ∈ times (base whole), now ≤ time) ∨ now.since last < self.config.addressTimeout) :
    Along (markedCall crypto) (fun self call => call.2 = true → (markedCall crypto self call).1 = self) self whole := by
  induction whole generalizing last self with
  | nil => trivial
  | cons entry rest ih =>
    obtain ⟨call, mark⟩ := entry
    have insertedRest := fun other member => inserted other (List.mem_cons_of_mem (call, mark) member)
    have withinRest := fun other member => within other (List.mem_cons_of_mem (call, mark) member)
    rw [List.map_cons, times_cons, ← List.cons_append] at ordered
    obtain ⟨orderedHead, orderedRest, before⟩ := List.pairwise_append.mp ordered
    cases mark with
    | true =>
      have foreign := inserted (call, true) List.mem_cons_self rfl
      have fresh : ∀ now ∈ call.time, now.since last < self.config.addressTimeout := by
        intro now timed
        rcases within (call, true) List.mem_cons_self rfl now timed with ⟨time, later, -⟩ | fresh
        · refine fresh_of_later crypto arriving (List.ne_nil_of_mem later) fun other member => ?_
          have present : now ∈ last :: call.time.toList := List.mem_cons_of_mem _ (Option.mem_toList.mpr timed)
          exact before now present other (times_base_subset rest member)
        · exact fresh
      have same := congrArg Prod.fst (held.call_impostor crypto foreign fresh)
      have lastRest := before last List.mem_cons_self
      refine ⟨fun _ => same, ?_⟩
      rw [markedCall, same]
      exact ih held arriving (List.pairwise_cons.mpr ⟨lastRest, orderedRest⟩) insertedRest withinRest
    | false =>
      obtain ⟨fresh, arriving⟩ := arriving
      have config := (networkId_call crypto self call).2
      have heard := heardAt_mem crypto networkId pinned last call
      have notBefore : last ≤ heardAt crypto networkId pinned last call := by
        rcases List.mem_cons.mp heard with same | timed
        · rw [same]
        · exact (List.pairwise_cons.mp orderedHead).1 _ timed
      refine ⟨(fun marked => nomatch marked), ih (held.call crypto fresh) (config ▸ arriving)
        (List.pairwise_cons.mpr ⟨before _ heard, orderedRest⟩) insertedRest ?_⟩
      intro other member marked now timed
      have kept : (markedCall crypto self (call, false)).1.config = self.config := config
      rw [kept]
      -- what was fresh before the call is fresh after it
      have later : now.since last < self.config.addressTimeout →
          now.since (heardAt crypto networkId pinned last call) < self.config.addressTimeout :=
        (Nat.sub_le_sub_left notBefore now).trans_lt
      rcases withinRest other member marked now timed with ⟨time, present, reached⟩ | fresh
      · have split : time ∈ call.time.toList ++ times (base rest) := by
          rw [← times_cons]
          exact present
        rcases List.mem_append.mp split with here | there
        · have quiet := fresh time (Option.mem_toList.mp here)
          exact .inr (later ((Nat.sub_le_sub_right reached last).trans_lt quiet))
        · exact .inl ⟨time, there, reached⟩
      · exact .inr (later fresh)

/-- Datagrams inserted into a run that claim the pinned id from elsewhere leave its results and its final
state as they are. -/
theorem pinned_address_undisplaced {start : LanSignaler} {last : Instant} {whole : List (LanCall × Bool)}
    (held : start.addresses.lookup networkId = some ⟨pinned, last⟩)
    (arriving : KeepsArriving crypto networkId pinned start.config.addressTimeout last (base whole))
    (ordered : (last :: times (whole.map Prod.fst)).Pairwise (· ≤ ·))
    (inserted : ∀ call ∈ whole, call.2 = true → impostor crypto networkId pinned call.1 = true)
    (within : ∀ call ∈ whole, call.2 = true → ∀ now ∈ call.1.time, ∃ time ∈ times (base whole), now ≤ time) :
    (run (markedCall crypto) start whole).1 = (run (call crypto) start (base whole)).1 ∧
      (keep (markedCall crypto) (fun _ call => call.2) start whole).map Prod.snd =
        (run (call crypto) start (base whole)).2 := by
  have unchanging := inserted_unchanging crypto (.inr held) arriving ordered inserted
    fun other member marked now timed => .inl (within other member marked now timed)
  have runs := run_keep (markedCall crypto) (fun _ call => call.2) Eq ?_ ?_ rfl unchanging
  · have inputs : run (markedCall crypto) start ((keep (markedCall crypto) (fun _ call => call.2) start whole).map Prod.fst) =
        run (call crypto) start (base whole) := by
      rw [keep_inputs]
      exact run_map (call crypto) Prod.fst start _
    rwa [inputs] at runs
  · rintro self other call rfl unchanged marked
    exact unchanged marked
  · rintro self other call rfl - -
    exact ⟨rfl, rfl⟩

end

/-! ## A host that keeps its id -/

-- the discovery request of host 1
def requestOfOne : Bytes := (Discovery.encode recordedCrypto .request 1).toOption.getD []

def homeAddr : SocketAddr := .v4 0xc0a80001 7551

def strangeAddr : SocketAddr := .v4 0xc0a80009 7551

def knowsOne : LanSignaler := ((new 2 {}).handleDatagram recordedCrypto requestOfOne homeAddr 0).1

def disturbedCalls : List (LanCall × Bool) :=
  [(.handle (.datagram requestOfOne homeAddr (Duration.fromSecs 10)), false),
    (.handle (.datagram requestOfOne strangeAddr (Duration.fromSecs 16)), true),
    (.handle (.update (Duration.fromSecs 20)), false), (.poll, false)]

theorem stranger_ignored :
    (run (markedCall recordedCrypto) knowsOne disturbedCalls).1 =
      (run (call recordedCrypto) knowsOne (base disturbedCalls)).1 := by
  have held : knowsOne.addresses.lookup 1 = some ⟨homeAddr, 0⟩ := by decide +kernel
  refine (pinned_address_undisplaced recordedCrypto held ?_ ?_ ?_ ?_).1
  · refine ⟨?_, ?_, ?_, trivial⟩ <;> decide +kernel
  · decide +kernel
  · decide +kernel
  · decide +kernel

end LanSignaler

end Nethernet
