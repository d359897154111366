import Nethernet.Signaling.LanPinning

/-! Retransmission of one signal: how often it is put on the wire, and when.

A step treats every pending entry on its own, so a signal is followed by what
becomes of its entry in each step. -/

set_option autoImplicit false

namespace Nethernet.LanSignaler
open Foundation

variable (crypto : DiscoveryCrypto)

/-! ## One entry in one step -/

-- the sender and signal of a datagram that is handled as a message
def handledMessage (self : LanSignaler) : LanSignalerInput → Option (UInt64 × Signal)
  | .datagram buf addr now =>
    match Discovery.decode crypto buf with
    | .ok (.message message, sender) =>
      if sender = self.networkId ∨ self.pinnedElsewhere sender addr now = true then none
      else (messageSignal self.networkId sender message).map fun signal => (sender, signal)
    | _ => none
  | _ => none

/-- What becomes of a pending entry. -/
def fate (self : LanSignaler) (input : LanSignalerInput) (entry : PendingSignal) : Option PendingSignal :=
  match input with
  | .update now => (retry self.config now entry).filter (self.unfailed crypto (self.dueSignals now))
  | input =>
    match self.handledMessage crypto input with
    | none => some entry
    | some (sender, signal) => Option.guard (survives sender signal.connectionId) entry

/-- The datagram that is queued for a pending entry. -/
def copy (self : LanSignaler) (input : LanSignalerInput) (entry : PendingSignal) : Option LanSignalerOutput :=
  match input with
  | .update now => if isDue self.config now entry then self.outgoing crypto (entry.signal, entry.target) else none
  | _ => none

-- the entry of a signal that was just accepted
def acceptedEntries (self : LanSignaler) (input : LanSignalerInput) : List PendingSignal :=
  match input with
  | .signal _ now =>
    if self.config.signalRetries > 0 then
      (self.accepted crypto input).map fun due => ⟨due.1, due.2, 1, now + retryInterval self.config due.1⟩
    else []
  | _ => []

variable {now : Instant} {buf : Bytes}

theorem fate_unhandled {self : LanSignaler} {addr : SocketAddr}
    (unhandled : self.handledMessage crypto (.datagram buf addr now) = none) :
    self.fate crypto (.datagram buf addr now) = some := by
  funext entry
  simp only [fate, unhandled]

theorem fate_handled {self : LanSignaler} {addr : SocketAddr} {sender : UInt64} {signal : Signal}
    (handled : self.handledMessage crypto (.datagram buf addr now) = some (sender, signal)) :
    self.fate crypto (.datagram buf addr now) = Option.guard (survives sender signal.connectionId) := by
  funext entry
  simp only [fate, handled]

variable (self : LanSignaler)

theorem pending_datagram (buf : Bytes) (addr : SocketAddr) (now : Instant) :
    (self.handleDatagram crypto buf addr now).1.pending =
      self.pending.filterMap (self.fate crypto (.datagram buf addr now)) := by
  cases found : self.handledMessage crypto (.datagram buf addr now) with
  | none =>
    rw [fate_unhandled crypto found, List.filterMap_some]
    rcases self.pending_handleDatagram crypto buf addr now with kept | ⟨message, sender, signal, decoded, other, carried, -⟩
    · exact kept
    · -- only the pin of the sender can have kept the message from being handled
      cases pinned : self.pinnedElsewhere sender addr now with
      | true =>
        unfold handleDatagram
        simp only [decoded, if_neg other, pinned, if_true]
      | false => simp [handledMessage, decoded, other, pinned, carried] at found
  | some received =>
    obtain ⟨sender, signal⟩ := received
    rw [fate_handled crypto found, List.filterMap_eq_filter]
    unfold handledMessage at found
    dsimp only at found
    split at found
    · rename_i message from' decoded
      split at found
      · cases found
      · rename_i allowed
        push Not at allowed
        obtain ⟨carried, isSignal, same⟩ := Option.map_eq_some_iff.mp found
        cases same
        rw [handleDatagram_message crypto decoded allowed.1 (by simpa using allowed.2)]
        unfold handleMessage
        dsimp only
        rw [isSignal]
        rfl
    · cases found

variable (input : LanSignalerInput)

/-- Every input treats each pending entry on its own, and only an accepted signal adds one. -/
theorem pending_handle :
    (self.handle crypto input).1.pending =
      self.pending.filterMap (self.fate crypto input) ++ self.acceptedEntries crypto input := by
  cases input with
  | datagram buf addr now => exact (pending_datagram crypto self buf addr now).trans (List.append_nil _).symm
  | signal signal now =>
    have unchanged : self.fate crypto (.signal signal now) = some := by
      funext entry
      rfl
    rw [handle, unchanged, List.filterMap_some]
    cases outcome : (self.handleSignal crypto signal now).2 with
    | error e =>
      rw [handleSignal_error crypto outcome]
      cases parsed : Signal.parseU64 signal.networkId.toList <;>
        simp [acceptedEntries, accepted, outcome, parsed]
    | ok =>
      obtain ⟨target, addr, buf, parsed, known, encoded, after⟩ := handleSignal_ok crypto outcome
      rw [after]
      simp [acceptedEntries, accepted, parsed, outcome]
  | setServerData data =>
    have unchanged : self.fate crypto (.setServerData data) = some := by
      funext entry
      rfl
    rw [unchanged, List.filterMap_some]
    exact (List.append_nil _).symm
  | update now =>
    rw [handle, pending_handleUpdate, retransmit_eq]
    dsimp only
    rw [List.filter_filterMap]
    exact (List.append_nil _).symm

theorem dueSignals_outgoing (now : Instant) :
    (self.dueSignals now).filterMap (self.outgoing crypto) =
      self.pending.filterMap (self.copy crypto (.update now)) := by
  rw [dueSignals, List.filterMap_map, List.filterMap_filter]
  rfl

-- no input other than an update sends a pending signal
theorem copies_quiet {self : LanSignaler} {input : LanSignalerInput} (other : ∀ now, input ≠ .update now) :
    self.pending.filterMap (self.copy crypto input) = [] := by
  apply List.filterMap_eq_nil_iff.mpr
  intro entry _
  cases input with
  | update now => exact absurd rfl (other now)
  | _ => rfl

/-- What an input queues: a copy for every entry that is sent again, the datagram of an accepted
signal, and nothing else that carries a signal. -/
theorem output_handle : ∃ rest,
    (self.handle crypto input).1.output =
      self.output ++ self.pending.filterMap (self.copy crypto input) ++
        (self.accepted crypto input).filterMap (self.outgoing crypto) ++ rest ∧
    ∀ output ∈ rest, Origin crypto self.networkId [] output := by
  cases input with
  | datagram buf addr now =>
    obtain ⟨fresh, queued, origin⟩ := (effect_handleDatagram crypto [] self buf addr now).output
    refine ⟨fresh, ?_, origin⟩
    rw [copies_quiet crypto (by simp), List.append_nil]
    exact queued.trans (congrArg (· ++ fresh) (List.append_nil _).symm)
  | signal signal now =>
    refine ⟨[], ?_, by simp⟩
    rw [copies_quiet crypto (by simp), List.append_nil, List.append_nil, handle]
    cases outcome : (self.handleSignal crypto signal now).2 with
    | error e =>
      rw [handleSignal_error crypto outcome]
      cases parsed : Signal.parseU64 signal.networkId.toList <;> simp [accepted, outcome, parsed]
    | ok =>
      obtain ⟨target, addr, buf, parsed, known, encoded, after⟩ := handleSignal_ok crypto outcome
      have sent : self.outgoing crypto (signal, target) = some (.datagram buf addr) := by
        simp only [outgoing, known, encoded]
      rw [after]
      simp [accepted, parsed, outcome, sent, push]
  | setServerData data =>
    refine ⟨[], ?_, by simp⟩
    rw [copies_quiet crypto (by simp)]
    simp [handle, accepted]
  | update now =>
    obtain ⟨rest, queued, origin⟩ := output_handleUpdate crypto self now
    refine ⟨rest, ?_, origin⟩
    rw [handle, queued, dueSignals_outgoing]
    exact congrArg (· ++ rest) (List.append_nil _).symm

/-- A step as the sum of what it does for each entry. -/
structure Entrywise (self : LanSignaler) (input : LanSignalerInput) : Prop where
  pending : (self.handle crypto input).1.pending =
    self.pending.filterMap (self.fate crypto input) ++ self.acceptedEntries crypto input
  output : ∃ rest,
    (self.handle crypto input).1.output =
      self.output ++ self.pending.filterMap (self.copy crypto input) ++
        (self.accepted crypto input).filterMap (self.outgoing crypto) ++ rest ∧
    ∀ output ∈ rest, Origin crypto self.networkId [] output

theorem handle_entrywise : Entrywise crypto self input :=
  ⟨pending_handle crypto self input, output_handle crypto self input⟩

/-! ## Following one signal -/

/-- An accepted signal: its pending entry while it has one, and the times at which it was sent. -/
structure Track where
  entry : Option PendingSignal
  copies : List Instant

def Track.next (self : LanSignaler) (track : Track) : LanCall → Track
  | .handle (.update now) =>
    { entry := track.entry.bind (self.fate crypto (.update now))
      copies := track.copies ++ (track.entry.bind (self.copy crypto (.update now))).toList.map fun _ => now }
  | .handle input => { track with entry := track.entry.bind (self.fate crypto input) }
  | .poll => track

-- a call of the signaler beside the followed signal
def follow (state : LanSignaler × Track) (call : LanCall) : (LanSignaler × Track) × LanResult :=
  (((state.1.call crypto call).1, state.2.next crypto state.1 call), (state.1.call crypto call).2)

-- the signaler and the signal right after the signal was handed over
def accept (self : LanSignaler) (signal : Signal) (now : Instant) : LanSignaler × Track :=
  ((self.handle crypto (.signal signal now)).1, ⟨(self.acceptedEntries crypto (.signal signal now)).head?, [now]⟩)

def followed (self : LanSignaler) (signal : Signal) (now : Instant) (calls : List LanCall) : LanSignaler × Track :=
  (run (follow crypto) (accept crypto self signal now) calls).1

/-- A call that ends the retransmission: a message of the target on the connection is handled, or
the signal is due and the target's address is not known. -/
def Silences (signal : Signal) (target : UInt64) (self : LanSignaler) : LanCall → Prop
  | .handle (.update now) => self.address target = none ∧ (signal, target) ∈ self.dueSignals now
  | .handle input => ∃ reply, self.handledMessage crypto input = some (target, reply) ∧
      reply.connectionId = signal.connectionId
  | .poll => False

def updateTimes (calls : List LanCall) : List Instant :=
  calls.filterMap fun call =>
    match call with
    | .handle (.update now) => some now
    | _ => none

-- consecutive times are at least `interval` apart
def Apart (interval : Duration) (times : List Instant) : Prop :=
  times.IsChain fun earlier later => earlier + interval ≤ later

/-! ## What a call does for the followed signal -/

theorem outgoing_eq_none {self : LanSignaler} {signal : Signal} {target : UInt64}
    (encoded : Discovery.encode crypto (.message ⟨target, signal.text⟩) self.networkId = .ok buf) :
    self.outgoing crypto (signal, target) = none ↔ self.address target = none := by
  unfold outgoing
  dsimp only
  rw [encoded]
  cases self.address target <;> simp

theorem unfailed_eq_false {self : LanSignaler} {due : List (Signal × UInt64)} {pending : PendingSignal} :
    self.unfailed crypto due pending = false ↔
      (pending.signal, pending.target) ∈ due ∧ self.outgoing crypto (pending.signal, pending.target) = none := by
  constructor
  · intro failed
    obtain ⟨entry, member, fails⟩ := List.all_eq_false.mp failed
    simp only [Bool.or_eq_true, not_or, decide_eq_true_eq, not_not, Option.not_isSome_iff_eq_none] at fails
    obtain ⟨absent, sameTarget, sameSignal⟩ := fails
    have same : (pending.signal, pending.target) = entry := Prod.ext sameSignal sameTarget
    rw [same]
    exact ⟨member, absent⟩
  · rintro ⟨member, absent⟩
    apply List.all_eq_false.mpr
    exact ⟨_, member, by simp [absent]⟩

/-- What one call may do for a signal that has an entry. -/
inductive Moves (self : LanSignaler) (entry : PendingSignal) (copies : List Instant) (call : LanCall) : Track → Prop where
  | silenced : Silences crypto entry.signal entry.target self call → Moves self entry copies call ⟨none, copies⟩
  | exhausted (now : Instant) : call = .handle (.update now) → self.config.signalRetries < entry.attempts →
      Moves self entry copies call ⟨none, copies⟩
  | sent (now : Instant) : call = .handle (.update now) → entry.nextSend ≤ now →
      entry.attempts ≤ self.config.signalRetries →
      ¬ Silences crypto entry.signal entry.target self call →
      Moves self entry copies call
        ⟨some { entry with
          attempts := entry.attempts + 1
          nextSend := now + retryInterval self.config entry.signal }, copies ++ [now]⟩
  | waiting : (∀ now, call = .handle (.update now) → now < entry.nextSend) →
      ¬ Silences crypto entry.signal entry.target self call → Moves self entry copies call ⟨some entry, copies⟩

variable (copies : List Instant)

section
variable {crypto} {self : LanSignaler} {entry : PendingSignal}

theorem next_update (now : Instant) :
    Track.next crypto self ⟨some entry, copies⟩ (.handle (.update now)) =
      ⟨(retry self.config now entry).filter (self.unfailed crypto (self.dueSignals now)),
        copies ++ (if isDue self.config now entry then
          self.outgoing crypto (entry.signal, entry.target) else none).toList.map fun _ => now⟩ := rfl

theorem unfailed_iff (now : Instant)
    (encoded : Discovery.encode crypto (.message ⟨entry.target, entry.signal.text⟩) self.networkId = .ok buf) :
    self.unfailed crypto (self.dueSignals now) entry = true ↔
      ¬ Silences crypto entry.signal entry.target self (.handle (.update now)) := by
  rw [← Bool.not_eq_false, unfailed_eq_false, outgoing_eq_none crypto encoded, and_comm]
  rfl

-- an entry that is not due yet
theorem moves_early (early : now < entry.nextSend)
    (encoded : Discovery.encode crypto (.message ⟨entry.target, entry.signal.text⟩) self.networkId = .ok buf) :
    Moves crypto self entry copies (.handle (.update now))
      (Track.next crypto self ⟨some entry, copies⟩ (.handle (.update now))) := by
  have unfailed := unfailed_iff now encoded
  have kept : retry self.config now entry = some entry := if_pos early
  have undue : isDue self.config now entry = false := by simp [isDue, early]
  rw [next_update, kept, undue]
  by_cases silences : Silences crypto entry.signal entry.target self (.handle (.update now))
  · rw [Option.filter_some_neg (Bool.eq_false_iff.mpr (mt unfailed.mp (not_not.mpr silences)))]
    simpa using Moves.silenced silences
  · rw [Option.filter_some_pos (unfailed.mpr silences)]
    have waits : ∀ time, LanCall.handle (.update now) = .handle (.update time) → time < entry.nextSend := by
      rintro time same
      cases same
      exact early
    simpa using Moves.waiting waits silences

-- an entry that is due and has retries left is sent again if the target's address is known
theorem moves_due (late : entry.nextSend ≤ now) (unspent : entry.attempts ≤ self.config.signalRetries)
    (encoded : Discovery.encode crypto (.message ⟨entry.target, entry.signal.text⟩) self.networkId = .ok buf)
    (isPending : entry ∈ self.pending) :
    Moves crypto self entry copies (.handle (.update now))
      (Track.next crypto self ⟨some entry, copies⟩ (.handle (.update now))) := by
  have unfailed := unfailed_iff now encoded
  have due : isDue self.config now entry = true := by simp [isDue, late, unspent]
  have again : retry self.config now entry = some { entry with
      attempts := entry.attempts + 1
      nextSend := now + retryInterval self.config entry.signal } := by
    rw [retry, if_neg (Nat.not_lt_of_le late), if_neg (by simpa using unspent)]
  have isDueSignal : (entry.signal, entry.target) ∈ self.dueSignals now :=
    List.mem_map.mpr ⟨entry, List.mem_filter.mpr ⟨isPending, due⟩, rfl⟩
  -- the new entry has the same signal and target
  have same : self.unfailed crypto (self.dueSignals now) { entry with
      attempts := entry.attempts + 1
      nextSend := now + retryInterval self.config entry.signal } =
      self.unfailed crypto (self.dueSignals now) entry := rfl
  rw [next_update, again, due, if_pos rfl]
  cases found : self.outgoing crypto (entry.signal, entry.target) with
  | none =>
    have silences : Silences crypto entry.signal entry.target self (.handle (.update now)) :=
      ⟨(outgoing_eq_none crypto encoded).mp found, isDueSignal⟩
    rw [Option.filter_some_neg (same.trans (Bool.eq_false_iff.mpr (mt unfailed.mp (not_not.mpr silences))))]
    simpa using Moves.silenced silences
  | some output =>
    have sendable : self.unfailed crypto (self.dueSignals now) entry = true := by
      apply unfailed_of_outgoing
      rw [found]
      rfl
    rw [Option.filter_some_pos (same.trans sendable)]
    exact Moves.sent now rfl late unspent (unfailed.mp sendable)

theorem moves_update (now : Instant)
    (encoded : Discovery.encode crypto (.message ⟨entry.target, entry.signal.text⟩) self.networkId = .ok buf)
    (isPending : entry ∈ self.pending) :
    Moves crypto self entry copies (.handle (.update now))
      (Track.next crypto self ⟨some entry, copies⟩ (.handle (.update now))) := by
  by_cases early : now < entry.nextSend
  · exact moves_early copies early encoded
  · by_cases spent : entry.attempts > self.config.signalRetries
    · have dropped : retry self.config now entry = none := by
        rw [retry, if_neg early, if_pos spent]
      have undue : isDue self.config now entry = false := by simp [isDue, spent]
      rw [next_update, dropped, undue]
      simpa using Moves.exhausted now rfl spent
    · exact moves_due copies (Nat.le_of_not_lt early) (by simpa using spent) encoded isPending

theorem moves_datagram (datagram : Bytes) (addr : SocketAddr) (now : Instant) :
    Moves crypto self entry copies (.handle (.datagram datagram addr now))
      (Track.next crypto self ⟨some entry, copies⟩ (.handle (.datagram datagram addr now))) := by
  have waits : ∀ time, LanCall.handle (.datagram datagram addr now) = .handle (.update time) →
      time < entry.nextSend := by simp
  cases found : self.handledMessage crypto (.datagram datagram addr now) with
  | none =>
    have kept : Track.next crypto self ⟨some entry, copies⟩ (.handle (.datagram datagram addr now)) =
        ⟨some entry, copies⟩ := by
      simp only [Track.next, fate_unhandled crypto found, Option.bind_some]
    rw [kept]
    apply Moves.waiting waits
    rintro ⟨reply, handled, -⟩
    rw [found] at handled
    cases handled
  | some received =>
    obtain ⟨sender, signal⟩ := received
    have becomes : Track.next crypto self ⟨some entry, copies⟩ (.handle (.datagram datagram addr now)) =
        ⟨Option.guard (survives sender signal.connectionId) entry, copies⟩ := by
      simp only [Track.next, fate_handled crypto found, Option.bind_some]
    rw [becomes, Option.guard]
    split
    · rename_i kept
      apply Moves.waiting waits
      rintro ⟨reply, handled, sameConnection⟩
      rw [found] at handled
      cases handled
      simp [survives, sameConnection] at kept
    · rename_i dropped
      simp only [survives, Bool.or_eq_true, not_or, decide_eq_true_eq, not_not] at dropped
      apply Moves.silenced
      exact ⟨signal, by rw [found, dropped.1], dropped.2.symm⟩

/-- Every call sends an entry again, keeps it or drops it. -/
theorem moves_next (call : LanCall)
    (encoded : Discovery.encode crypto (.message ⟨entry.target, entry.signal.text⟩) self.networkId = .ok buf)
    (isPending : entry ∈ self.pending) :
    Moves crypto self entry copies call (Track.next crypto self ⟨some entry, copies⟩ call) := by
  cases call with
  | poll => exact .waiting (by simp) (by simp [Silences])
  | handle input =>
    cases input with
    | datagram datagram addr now => exact moves_datagram copies datagram addr now
    | signal signal now => exact .waiting (by simp) (by simp [Silences, handledMessage])
    | setServerData data => exact .waiting (by simp) (by simp [Silences, handledMessage])
    | update now => exact moves_update copies now encoded isPending

-- without an entry nothing is sent any more
theorem next_ended (call : LanCall) : Track.next crypto self ⟨none, copies⟩ call = ⟨none, copies⟩ := by
  cases call with
  | poll => rfl
  | handle input => cases input <;> simp [Track.next]

end

/-! ## Along a run -/

/-- The entry counts the copies, and comes due one interval after the last of them. -/
structure Track.Paced (config : LanSignalerConfig) (signal : Signal) (target : UInt64) (track : Track) : Prop where
  apart : Apart (retryInterval config signal) track.copies
  bounded : track.copies.length ≤ 1 + config.signalRetries.toNat
  waiting : ∀ entry, track.entry = some entry → entry.signal = signal ∧ entry.target = target ∧
    entry.attempts.toNat = track.copies.length ∧
    ∃ last, track.copies.getLast? = some last ∧ entry.nextSend = last + retryInterval config signal

/-- The followed signal is in step with its signaler. -/
structure InStep (networkId : UInt64) (config : LanSignalerConfig) (signal : Signal) (target : UInt64)
    (state : LanSignaler × Track) : Prop where
  sameId : state.1.networkId = networkId
  sameConfig : state.1.config = config
  place : ∃ before after, state.1.pending = before ++ state.2.entry.toList ++ after
  paced : state.2.Paced config signal target

variable {entry : PendingSignal} {last : Instant}

section
variable {crypto} {networkId : UInt64} {config : LanSignalerConfig} {signal : Signal} {target : UInt64}
  {state : LanSignaler × Track}

theorem pending_poll : self.poll.1.pending = self.pending := by
  unfold poll
  split <;> rfl

theorem next_entry (track : Track) (input : LanSignalerInput) :
    (track.next crypto self (.handle input)).entry = track.entry.bind (self.fate crypto input) := by
  cases input <;> rfl

-- the entry keeps its place among the pending ones
theorem place_follow (call : LanCall)
    (place : ∃ before after, state.1.pending = before ++ state.2.entry.toList ++ after) :
    ∃ before after, (follow crypto state call).1.1.pending =
      before ++ (follow crypto state call).1.2.entry.toList ++ after := by
  obtain ⟨before, after, split⟩ := place
  cases call with
  | poll => exact ⟨before, after, (pending_poll state.1).trans split⟩
  | handle input =>
    refine ⟨before.filterMap (state.1.fate crypto input),
      after.filterMap (state.1.fate crypto input) ++ state.1.acceptedEntries crypto input, ?_⟩
    have moved : (state.2.entry.toList).filterMap (state.1.fate crypto input) =
        (state.2.entry.bind (state.1.fate crypto input)).toList := by
      cases state.2.entry with
      | none => rfl
      | some entry => cases fated : state.1.fate crypto input entry <;> simp [fated]
    show (state.1.handle crypto input).1.pending = _ ++ (state.2.next crypto state.1 (.handle input)).entry.toList ++ _
    rw [pending_handle, split, List.filterMap_append, List.filterMap_append, moved, next_entry]
    simp only [List.append_assoc]

theorem InStep.mem_pending (inStep : InStep networkId config signal target state)
    (waiting : state.2.entry = some entry) : entry ∈ state.1.pending := by
  obtain ⟨before, after, split⟩ := inStep.place
  rw [split, waiting]
  simp

theorem follow_ended (call : LanCall) (ended : state.2.entry = none) :
    (follow crypto state call).1.2 = ⟨none, state.2.copies⟩ := by
  rw [← next_ended state.2.copies call, ← ended]
  rfl

theorem run_ended (ended : state.2.entry = none) (calls : List LanCall) :
    (run (follow crypto) state calls).1.2.copies = state.2.copies := by
  have keeps : ∀ (reached : LanSignaler × Track) (call : LanCall), reached.2 = ⟨none, state.2.copies⟩ →
      (follow crypto reached call).1.2 = ⟨none, state.2.copies⟩ := by
    intro reached call same
    rw [follow_ended call (by rw [same]), same]
  have start : state.2 = ⟨none, state.2.copies⟩ := by rw [← ended]
  rw [run_invariant (follow crypto) keeps start calls]

-- a signal that is done with keeps the times at which it was sent
theorem Track.Paced.ended {track : Track} (paced : track.Paced config signal target) :
    Track.Paced config signal target ⟨none, track.copies⟩ :=
  ⟨paced.apart, paced.bounded, by simp⟩

theorem Track.Paced.moves {self : LanSignaler} {copies : List Instant} {call : LanCall} {next : Track}
    (room : config.signalRetries.toNat < 2 ^ 32 - 1) (sameConfig : self.config = config)
    (paced : Track.Paced config signal target ⟨some entry, copies⟩) (moves : Moves crypto self entry copies call next) :
    next.Paced config signal target := by
  cases moves with
  | silenced => exact paced.ended
  | exhausted => exact paced.ended
  | waiting => exact paced
  | sent now isUpdate due unspent =>
    obtain ⟨sameSignal, sameTarget, counted, last, isLast, scheduled⟩ := paced.waiting entry rfl
    rw [sameConfig] at unspent ⊢
    have fewer : entry.attempts.toNat ≤ config.signalRetries.toNat := UInt32.le_iff_toNat_le.mp unspent
    rw [counted] at fewer
    refine ⟨?_, ?_, ?_⟩
    · -- the entry was due, so an interval has passed since the last copy
      apply paced.apart.append (List.isChain_singleton now)
      intro earlier isEarlier later isLater
      rw [isLast] at isEarlier
      cases isEarlier
      cases isLater
      exact scheduled ▸ due
    · rw [List.length_append, List.length_singleton, Nat.add_comm]
      exact Nat.add_le_add_left fewer 1
    · intro next same
      cases same
      refine ⟨sameSignal, sameTarget, ?_, now, List.getLast?_concat, by rw [sameSignal]⟩
      have fits : entry.attempts.toNat + 1 < 2 ^ 32 := by omega
      rw [List.length_append, List.length_singleton, ← counted]
      exact (UInt32.toNat_add _ _).trans (Nat.mod_eq_of_lt fits)

section
variable (encoded : Discovery.encode crypto (.message ⟨target, signal.text⟩) networkId = .ok buf)
include encoded

theorem InStep.moves (inStep : InStep networkId config signal target state) (call : LanCall)
    (waiting : state.2.entry = some entry) :
    ∃ next, (follow crypto state call).1.2 = next ∧ Moves crypto state.1 entry state.2.copies call next := by
  obtain ⟨sameSignal, sameTarget, -⟩ := inStep.paced.waiting entry waiting
  have isPending := inStep.mem_pending waiting
  rw [← sameSignal, ← sameTarget, ← inStep.sameId] at encoded
  refine ⟨_, ?_, moves_next state.2.copies call encoded isPending⟩
  rw [← waiting]
  rfl

theorem InStep.follow (room : config.signalRetries.toNat < 2 ^ 32 - 1)
    (inStep : InStep networkId config signal target state) (call : LanCall) :
    InStep networkId config signal target (LanSignaler.follow crypto state call).1 := by
  obtain ⟨sameId, sameConfig⟩ := networkId_call crypto state.1 call
  refine ⟨sameId.trans inStep.sameId, sameConfig.trans inStep.sameConfig, place_follow call inStep.place, ?_⟩
  cases waiting : state.2.entry with
  | none =>
    rw [follow_ended call waiting]
    exact inStep.paced.ended
  | some entry =>
    have paced := inStep.paced
    have split : state.2 = ⟨some entry, state.2.copies⟩ := by rw [← waiting]
    rw [split] at paced
    obtain ⟨next, same, moves⟩ := inStep.moves encoded call waiting
    rw [same]
    exact paced.moves room inStep.sameConfig moves

theorem InStep.run (room : config.signalRetries.toNat < 2 ^ 32 - 1)
    (inStep : InStep networkId config signal target state) (calls : List LanCall) :
    InStep networkId config signal target (Foundation.run (LanSignaler.follow crypto) state calls).1 := by
  have keeps : ∀ (reached : LanSignaler × Track) (call : LanCall), InStep networkId config signal target reached →
      InStep networkId config signal target (LanSignaler.follow crypto reached call).1 :=
    fun _ call reached => reached.follow encoded room call
  exact run_invariant (LanSignaler.follow crypto) keeps inStep calls

-- a call sends the signal at most once, and only an update does
theorem InStep.once (inStep : InStep networkId config signal target state) (call : LanCall) :
    (LanSignaler.follow crypto state call).1.2.copies = state.2.copies ∨
      ∃ now, call = .handle (.update now) ∧
        (LanSignaler.follow crypto state call).1.2.copies = state.2.copies ++ [now] := by
  cases waiting : state.2.entry with
  | none => exact .inl (by rw [follow_ended call waiting])
  | some entry =>
    obtain ⟨next, becomes, moves⟩ := inStep.moves encoded call waiting
    rw [becomes]
    cases moves with
    | sent now isUpdate => exact .inr ⟨now, isUpdate, rfl⟩
    | _ => exact .inl rfl

theorem InStep.silenced (inStep : InStep networkId config signal target state) {call : LanCall}
    (silences : Silences crypto signal target state.1 call) :
    (LanSignaler.follow crypto state call).1.2 = ⟨none, state.2.copies⟩ := by
  cases waiting : state.2.entry with
  | none => exact follow_ended call waiting
  | some entry =>
    obtain ⟨sameSignal, sameTarget, -⟩ := inStep.paced.waiting entry waiting
    rw [← sameSignal, ← sameTarget] at silences
    obtain ⟨next, becomes, moves⟩ := inStep.moves encoded call waiting
    rw [becomes]
    cases moves with
    | silenced => rfl
    | exhausted => rfl
    | sent now isUpdate due unspent unsilenced => exact absurd silences unsilenced
    | waiting early unsilenced => exact absurd silences unsilenced

theorem InStep.run_silenced (inStep : InStep networkId config signal target state) {call : LanCall}
    (silences : Silences crypto signal target state.1 call) (rest : List LanCall) :
    (Foundation.run (LanSignaler.follow crypto) state (call :: rest)).1.2.copies = state.2.copies := by
  have ended := inStep.silenced encoded silences
  rw [run_cons, run_ended (by rw [ended]), ended]

/-! ## How many copies -/

/-- All copies are sent, or the next one is due an interval after `last`. -/
def Ready (interval : Duration) (retries : Nat) (last : Instant) (track : Track) : Prop :=
  1 + retries ≤ track.copies.length ∨ ∃ entry, track.entry = some entry ∧ entry.nextSend ≤ last + interval

theorem InStep.ready_other (inStep : InStep networkId config signal target state) {call : LanCall}
    (other : ∀ now, call ≠ .handle (.update now)) (unsilenced : ¬ Silences crypto signal target state.1 call)
    (ready : Ready (retryInterval config signal) config.signalRetries.toNat last state.2) :
    (LanSignaler.follow crypto state call).1.2.copies = state.2.copies ∧
      Ready (retryInterval config signal) config.signalRetries.toNat last (LanSignaler.follow crypto state call).1.2 := by
  have same : (LanSignaler.follow crypto state call).1.2.copies = state.2.copies := by
    rcases inStep.once encoded call with same | ⟨now, isUpdate, -⟩
    · exact same
    · exact absurd isUpdate (other now)
  refine ⟨same, ?_⟩
  rcases ready with full | ⟨entry, waiting, scheduled⟩
  · exact .inl (same ▸ full)
  · obtain ⟨sameSignal, sameTarget, -⟩ := inStep.paced.waiting entry waiting
    rw [← sameSignal, ← sameTarget] at unsilenced
    obtain ⟨next, becomes, moves⟩ := inStep.moves encoded call waiting
    rw [becomes]
    cases moves with
    | silenced silences => exact absurd silences unsilenced
    | exhausted now isUpdate => exact absurd isUpdate (other now)
    | sent now isUpdate => exact absurd isUpdate (other now)
    | waiting => exact .inr ⟨entry, rfl, scheduled⟩

theorem InStep.ready_update (room : config.signalRetries.toNat < 2 ^ 32 - 1)
    (inStep : InStep networkId config signal target state) (passed : last + retryInterval config signal ≤ now)
    (unsilenced : ¬ Silences crypto signal target state.1 (.handle (.update now)))
    (ready : Ready (retryInterval config signal) config.signalRetries.toNat last state.2) :
    (LanSignaler.follow crypto state (.handle (.update now))).1.2.copies.length =
        min (state.2.copies.length + 1) (1 + config.signalRetries.toNat) ∧
      Ready (retryInterval config signal) config.signalRetries.toNat now
        (LanSignaler.follow crypto state (.handle (.update now))).1.2 := by
  have bounded := inStep.paced.bounded
  have after := (inStep.follow encoded room (.handle (.update now))).paced.bounded
  rcases ready with full | ⟨entry, waiting, scheduled⟩
  · rcases inStep.once encoded (.handle (.update now)) with same | ⟨time, -, more⟩
    · rw [same]
      exact ⟨by omega, .inl (same ▸ full)⟩
    · rw [more, List.length_append, List.length_singleton] at after
      omega
  · obtain ⟨sameSignal, sameTarget, counted, -⟩ := inStep.paced.waiting entry waiting
    rw [← sameSignal, ← sameTarget] at unsilenced
    obtain ⟨next, becomes, moves⟩ := inStep.moves encoded (.handle (.update now)) waiting
    rw [becomes] at after ⊢
    cases moves with
    | silenced silences => exact absurd silences unsilenced
    | exhausted _ _ spent =>
      rw [inStep.sameConfig] at spent
      have full : config.signalRetries.toNat < state.2.copies.length := counted ▸ UInt32.lt_iff_toNat_lt.mp spent
      refine ⟨?_, .inl ?_⟩
      · show state.2.copies.length = _
        omega
      · show _ ≤ state.2.copies.length
        omega
    | sent time isUpdate =>
      cases isUpdate
      rw [List.length_append, List.length_singleton] at after ⊢
      refine ⟨by omega, .inr ⟨_, rfl, ?_⟩⟩
      rw [inStep.sameConfig, sameSignal]
    | waiting early => exact absurd (scheduled.trans passed) (Nat.not_le_of_gt (early now rfl))

/-- Updates that are an interval apart send one copy each until the retries are used up. -/
theorem InStep.run_exact (room : config.signalRetries.toNat < 2 ^ 32 - 1)
    (inStep : InStep networkId config signal target state)
    (ready : Ready (retryInterval config signal) config.signalRetries.toNat last state.2) {calls : List LanCall}
    (undisturbed : Along (LanSignaler.follow crypto)
      (fun state call => ¬ Silences crypto signal target state.1 call) state calls)
    (apart : Apart (retryInterval config signal) (last :: updateTimes calls)) :
    (Foundation.run (LanSignaler.follow crypto) state calls).1.2.copies.length =
      min (state.2.copies.length + (updateTimes calls).length) (1 + config.signalRetries.toNat) := by
  induction calls generalizing state last with
  | nil => exact (Nat.min_eq_left inStep.paced.bounded).symm
  | cons call rest ih =>
    obtain ⟨unsilenced, undisturbed⟩ := undisturbed
    rw [run_cons]
    by_cases isUpdate : ∃ now, call = .handle (.update now)
    · obtain ⟨now, rfl⟩ := isUpdate
      have times : updateTimes (.handle (.update now) :: rest) = now :: updateTimes rest := rfl
      rw [times] at apart ⊢
      obtain ⟨passed, apart⟩ := List.isChain_cons_cons.mp apart
      obtain ⟨sent, ready⟩ := inStep.ready_update encoded room passed unsilenced ready
      rw [ih (inStep.follow encoded room _) ready undisturbed apart, sent, List.length_cons]
      omega
    · have other : ∀ now, call ≠ .handle (.update now) := fun now same => isUpdate ⟨now, same⟩
      have times : updateTimes (call :: rest) = updateTimes rest := by
        apply List.filterMap_cons_none
        split
        · exact absurd rfl (other _)
        · rfl
      rw [times] at apart ⊢
      obtain ⟨same, ready⟩ := inStep.ready_other encoded other unsilenced ready
      rw [ih (inStep.follow encoded room _) ready undisturbed apart, same]

end

end

/-! ## From the acceptance on -/

theorem follow_fst (state : LanSignaler × Track) (calls : List LanCall) :
    (run (follow crypto) state calls).1.1 = (run (call crypto) state.1 calls).1 := by
  induction calls generalizing state with
  | nil => rfl
  | cons first rest ih => exact ih _

section
variable {crypto} {self : LanSignaler} {signal : Signal}

/-- An accepted signal is in step with its signaler, and ready for its first update. -/
theorem accept_inStep (accepted : (self.handle crypto (.signal signal now)).2 = .ok ()) :
    ∃ target buf, Signal.parseU64 signal.networkId.toList = .ok target ∧
      Discovery.encode crypto (.message ⟨target, signal.text⟩) self.networkId = .ok buf ∧
      InStep self.networkId self.config signal target (accept crypto self signal now) ∧
      Ready (retryInterval self.config signal) self.config.signalRetries.toNat now (accept crypto self signal now).2 := by
  obtain ⟨target, addr, buf, parsed, known, encoded, after⟩ := handleSignal_ok crypto accepted
  have entries : self.acceptedEntries crypto (.signal signal now) =
      if self.config.signalRetries > 0 then [⟨signal, target, 1, now + retryInterval self.config signal⟩] else [] := by
    have result : (self.handleSignal crypto signal now).2 = .ok () := accepted
    simp only [acceptedEntries, LanSignaler.accepted, parsed, result, List.map_cons, List.map_nil]
  have state : (accept crypto self signal now).1 = (self.handleSignal crypto signal now).1 := rfl
  have track : (accept crypto self signal now).2 =
      ⟨(self.acceptedEntries crypto (.signal signal now)).head?, [now]⟩ := rfl
  refine ⟨target, buf, parsed, encoded, ⟨?_, ?_, ?_, ?_⟩, ?_⟩
  · rw [state, after]
    rfl
  · rw [state, after]
    rfl
  · refine ⟨self.pending, [], ?_⟩
    rw [state, after, track, entries]
    split <;> simp
  · rw [track, entries]
    refine ⟨List.isChain_singleton now, Nat.le_add_right 1 _, ?_⟩
    intro entry isEntry
    split at isEntry
    · cases isEntry
      exact ⟨rfl, rfl, rfl, now, rfl, rfl⟩
    · cases isEntry
  · rw [track, entries]
    split
    · exact .inr ⟨_, rfl, Nat.le_refl _⟩
    · rename_i none
      have zero : self.config.signalRetries.toNat = 0 := by
        simpa [UInt32.lt_iff_toNat_lt] using none
      exact .inl (by simp [zero])

/-- A signal that was accepted is sent at most `1 + signalRetries` times, at most once in an update,
with its interval between two copies and never after it was silenced; undisturbed updates that are
an interval apart send exactly one copy each while retries are left. -/
theorem retransmission_paced (room : self.config.signalRetries.toNat < 2 ^ 32 - 1)
    (accepted : (self.handle crypto (.signal signal now)).2 = .ok ()) :
    (∀ (state : LanSignaler) input, Entrywise crypto state input) ∧
    ∃ target, Signal.parseU64 signal.networkId.toList = .ok target ∧ ∀ calls,
      let reached := followed crypto self signal now calls
      reached.1 = (run (call crypto) (self.handle crypto (.signal signal now)).1 calls).1 ∧
      (∃ before after, reached.1.pending = before ++ reached.2.entry.toList ++ after) ∧
      reached.2.copies.length ≤ 1 + self.config.signalRetries.toNat ∧
      Apart (retryInterval self.config signal) reached.2.copies ∧
      (∀ next, (follow crypto reached next).1.2.copies = reached.2.copies ∨
        ∃ time, next = .handle (.update time) ∧
          (follow crypto reached next).1.2.copies = reached.2.copies ++ [time]) ∧
      (∀ next rest, Silences crypto signal target reached.1 next →
        (run (follow crypto) reached (next :: rest)).1.2.copies = reached.2.copies) ∧
      (Along (follow crypto) (fun state call => ¬ Silences crypto signal target state.1 call)
          (accept crypto self signal now) calls →
        Apart (retryInterval self.config signal) (now :: updateTimes calls) →
        reached.2.copies.length = 1 + min (updateTimes calls).length self.config.signalRetries.toNat) := by
  refine ⟨handle_entrywise crypto, ?_⟩
  obtain ⟨target, buf, parsed, encoded, start, ready⟩ := accept_inStep accepted
  refine ⟨target, parsed, ?_⟩
  intro calls reached
  have inStep : InStep self.networkId self.config signal target reached := start.run encoded room calls
  refine ⟨follow_fst crypto _ calls, inStep.place, inStep.paced.bounded, inStep.paced.apart,
    inStep.once encoded, fun next rest silences => inStep.run_silenced encoded silences rest, ?_⟩
  intro undisturbed apart
  have counted := start.run_exact encoded room ready undisturbed apart
  have one : (accept crypto self signal now).2.copies.length = 1 := rfl
  rw [one] at counted
  exact counted.trans (Nat.add_min_add_left 1 _ _)

end

/-- A candidate that is not answered is sent again half a second and a second after it was accepted. -/
theorem candidate_sent_thrice :
    (followed recordedCrypto acquainted ⟨.candidate, 7, "c", "2"⟩ 0
      [.handle (.update (Duration.fromMillis 500)), .handle (.update (Duration.fromMillis 1000))]).2.copies.length = 3 := by
  have accepted : (acquainted.handle recordedCrypto (.signal ⟨.candidate, 7, "c", "2"⟩ 0)).2 = .ok () := by rfl
  obtain ⟨-, target, parsed, paced⟩ := retransmission_paced (by decide) accepted
  cases parsed
  obtain ⟨-, -, -, -, -, -, counted⟩ := paced
    [.handle (.update (Duration.fromMillis 500)), .handle (.update (Duration.fromMillis 1000))]
  refine counted ⟨?_, ?_, trivial⟩ ?_
  · rintro ⟨unknown, -⟩
    exact absurd unknown (by decide +kernel)
  · rintro ⟨unknown, -⟩
    exact absurd unknown (by decide +kernel)
  · apply List.isChain_cons_cons.mpr
    exact ⟨by decide, List.isChain_cons_cons.mpr ⟨by decide, List.isChain_singleton _⟩⟩

end Nethernet.LanSignaler
