import Nethernet.Signaling.Lan

/-! What each input of a LAN signaler changes: what it may queue, and what becomes
of the pending signals. -/

set_option autoImplicit false

namespace Nethernet.LanSignaler
open Foundation

variable (crypto : DiscoveryCrypto)

/-! ## Retransmission -/

-- the datagram that sending a signal queues, when it can be sent
def outgoing (self : LanSignaler) (due : Signal × UInt64) : Option LanSignalerOutput :=
  match self.address due.2, Discovery.encode crypto (.message ⟨due.2, due.1.text⟩) self.networkId with
  | some addr, .ok buf => some (.datagram buf addr)
  | _, _ => none

variable {signal : Signal}

theorem sendSignal_of_outgoing {self : LanSignaler} {target : UInt64} {output : LanSignalerOutput}
    (found : self.outgoing crypto (signal, target) = some output) :
    self.sendSignal crypto signal target = (self.push output, .ok ()) := by
  unfold outgoing at found
  split at found
  · rename_i addr buf known encoded
    cases found
    simp only [sendSignal, known, encoded]
  · cases found

theorem sendSignal_of_outgoing_none {self : LanSignaler} {target : UInt64}
    (absent : self.outgoing crypto (signal, target) = none) :
    ∃ e, self.sendSignal crypto signal target = (self, .error e) := by
  unfold outgoing at absent
  unfold sendSignal
  cases known : self.address target with
  | none => exact ⟨_, rfl⟩
  | some addr =>
    cases encoded : Discovery.encode crypto (.message ⟨target, signal.text⟩) self.networkId with
    | error e => exact ⟨_, rfl⟩
    | ok buf => simp [known, encoded] at absent

-- the entries that a list of failed sends leaves
def unfailed (self : LanSignaler) (due : List (Signal × UInt64)) (pending : PendingSignal) : Bool :=
  due.all fun entry =>
    (self.outgoing crypto entry).isSome || (pending.target ≠ entry.2 || pending.signal ≠ entry.1)

variable (self : LanSignaler)

theorem unfailed_nil : self.unfailed crypto [] = fun _ => true := by
  funext pending
  rfl

variable (due : List (Signal × UInt64)) {entry : Signal × UInt64}

theorem unfailed_sent {self : LanSignaler} {output : LanSignalerOutput}
    (found : self.outgoing crypto entry = some output) :
    self.unfailed crypto (entry :: due) = self.unfailed crypto due := by
  funext pending
  simp [unfailed, found]

theorem unfailed_failed {self : LanSignaler} (absent : self.outgoing crypto entry = none) (pending : PendingSignal) :
    self.unfailed crypto (entry :: due) pending =
      ((pending.target ≠ entry.2 || pending.signal ≠ entry.1) && self.unfailed crypto due pending) := by
  simp [unfailed, absent]

/-- Sending a list of due signals queues the datagrams that can be sent and drops the rest. -/
theorem foldl_resend (self : LanSignaler) :
    due.foldl (resend crypto) self =
      { self with
        output := self.output ++ due.filterMap (self.outgoing crypto)
        pending := self.pending.filter (self.unfailed crypto due) } := by
  induction due generalizing self with
  | nil => rw [unfailed_nil, List.filter_true, List.filterMap_nil, List.append_nil, List.foldl_nil]
  | cons entry due ih =>
    rw [List.foldl_cons, ih]
    cases found : self.outgoing crypto entry with
    | some output =>
      have sent : resend crypto self entry = self.push output := by
        rw [resend, sendSignal_of_outgoing crypto found]
      rw [sent, unfailed_sent crypto due found, List.filterMap_cons_some found, List.append_cons]
      rfl
    | none =>
      obtain ⟨e, failed⟩ := sendSignal_of_outgoing_none crypto found
      have dropped : resend crypto self entry =
          { self with
            pending := self.pending.filter fun pending =>
              pending.target ≠ entry.2 || pending.signal ≠ entry.1 } := by
        rw [resend, failed]
      have split : self.pending.filter (self.unfailed crypto (entry :: due)) =
          (self.pending.filter fun pending => pending.target ≠ entry.2 || pending.signal ≠ entry.1).filter
            (self.unfailed crypto due) := by
        rw [List.filter_filter]
        apply List.filter_congr
        intro pending _
        rw [unfailed_failed crypto due found, Bool.and_comm]
      rw [dropped, split, List.filterMap_cons_none found]
      rfl

-- a signal that can be sent keeps its entries
theorem unfailed_of_outgoing {self : LanSignaler} {pending : PendingSignal}
    (sendable : (self.outgoing crypto (pending.signal, pending.target)).isSome = true) :
    self.unfailed crypto due pending = true := by
  apply List.all_eq_true.mpr
  intro entry _
  by_cases same : entry = (pending.signal, pending.target)
  · rw [same, sendable, Bool.true_or]
  · have different : pending.target ≠ entry.2 ∨ pending.signal ≠ entry.1 := by
      by_contra both
      push Not at both
      exact same (Prod.ext both.2.symm both.1.symm)
    simp [different]

-- the entries a retransmission at `now` sends again
def dueSignals (self : LanSignaler) (now : Instant) : List (Signal × UInt64) :=
  (self.pending.filter (isDue self.config now)).map fun pending => (pending.signal, pending.target)

variable (now : Instant)

theorem retransmit_eq : self.retransmit crypto now =
    { self with
      output := self.output ++ (self.dueSignals now).filterMap (self.outgoing crypto)
      pending := (self.pending.filterMap (retry self.config now)).filter
        (self.unfailed crypto (self.dueSignals now)) } := by
  unfold retransmit
  dsimp only
  rw [foldl_resend]
  rfl

/-! ## Accepted signals -/

theorem handleSignal_error {self : LanSignaler} {now : Instant} {e : LanSignalerError}
    (refused : (self.handleSignal crypto signal now).2 = .error e) :
    (self.handleSignal crypto signal now).1 = self := by
  unfold handleSignal at refused ⊢
  cases parsed : Signal.parseU64 signal.networkId.toList with
  | error e => rfl
  | ok target =>
    cases found : self.outgoing crypto (signal, target) with
    | none =>
      obtain ⟨e, failed⟩ := sendSignal_of_outgoing_none crypto found
      simp only [failed]
    | some output =>
      simp only [parsed, sendSignal_of_outgoing crypto found] at refused
      split at refused <;> cases refused

-- the signal that an input makes this signaler accept, with its target
def accepted (self : LanSignaler) : LanSignalerInput → List (Signal × UInt64)
  | .signal signal now =>
    match Signal.parseU64 signal.networkId.toList, (self.handleSignal crypto signal now).2 with
    | .ok target, .ok () => [(signal, target)]
    | _, _ => []
  | _ => []

def pendingPairs (self : LanSignaler) : List (Signal × UInt64) :=
  self.pending.map fun pending => (pending.signal, pending.target)

/-- Where a queued datagram comes from: the signaler encoded it under its own id, and a message
carries one of `signals` to its target. -/
def Origin (networkId : UInt64) (signals : List (Signal × UInt64)) (output : LanSignalerOutput) : Prop :=
  ∀ buf addr, output = .datagram buf addr →
    ∃ packet, Discovery.encode crypto packet networkId = .ok buf ∧
      ∀ message, packet = .message message → ∃ due ∈ signals, message = ⟨due.2, due.1.text⟩

/-- What every input leaves as it was, and what it may queue. -/
structure Effect (signals : List (Signal × UInt64)) (before after : LanSignaler) : Prop where
  networkId : after.networkId = before.networkId
  config : after.config = before.config
  output : ∃ fresh, after.output = before.output ++ fresh ∧
    ∀ output ∈ fresh, Origin crypto before.networkId signals output

variable {after before : LanSignaler} {more : List (Signal × UInt64)}

section
variable {crypto} {signals : List (Signal × UInt64)}

theorem Effect.quiet (sameId : after.networkId = before.networkId) (sameConfig : after.config = before.config)
    (sameOutput : after.output = before.output) :
    Effect crypto signals before after where
  networkId := sameId
  config := sameConfig
  output := ⟨[], by rw [sameOutput, List.append_nil], by simp⟩

theorem Effect.trans {middle : LanSignaler} (first : Effect crypto signals before middle)
    (second : Effect crypto signals middle after) : Effect crypto signals before after := by
  obtain ⟨early, earlyEq, earlyFrom⟩ := first.output
  obtain ⟨late, lateEq, lateFrom⟩ := second.output
  refine ⟨second.networkId.trans first.networkId, second.config.trans first.config, early ++ late, ?_, ?_⟩
  · rw [lateEq, earlyEq, List.append_assoc]
  · intro output member
    rcases List.mem_append.mp member with member | member
    · exact earlyFrom output member
    · rw [← first.networkId]
      exact lateFrom output member

theorem Origin.widen {networkId : UInt64} {output : LanSignalerOutput}
    (origin : Origin crypto networkId signals output) (wider : signals ⊆ more) :
    Origin crypto networkId more output := by
  intro buf addr same
  obtain ⟨packet, encoded, carries⟩ := origin buf addr same
  refine ⟨packet, encoded, ?_⟩
  intro message isMessage
  obtain ⟨due, isDue, carried⟩ := carries message isMessage
  exact ⟨due, wider isDue, carried⟩

theorem Effect.widen (effect : Effect crypto signals before after) (wider : signals ⊆ more) :
    Effect crypto more before after := by
  obtain ⟨fresh, queued, origin⟩ := effect.output
  exact ⟨effect.networkId, effect.config, fresh, queued, fun output member => (origin output member).widen wider⟩

variable {output : LanSignalerOutput}

theorem Effect.queue (sameId : after.networkId = before.networkId) (sameConfig : after.config = before.config)
    (queued : after.output = before.output ++ [output]) (origin : Origin crypto before.networkId signals output) :
    Effect crypto signals before after where
  networkId := sameId
  config := sameConfig
  output := ⟨[output], queued, by simpa using origin⟩

-- outputs other than datagrams need no origin
theorem Origin.other {networkId : UInt64} (other : ∀ buf addr, output ≠ .datagram buf addr) :
    Origin crypto networkId signals output := by
  intro buf addr same
  exact absurd same (other buf addr)

theorem Origin.encoded {networkId : UInt64} {packet : Packets} {buf : Bytes} (addr : SocketAddr)
    (encoded : Discovery.encode crypto packet networkId = .ok buf)
    (carries : ∀ message, packet = .message message → ∃ due ∈ signals, message = ⟨due.2, due.1.text⟩) :
    Origin crypto networkId signals (.datagram buf addr) := by
  intro buf' addr' same
  cases same
  exact ⟨packet, encoded, carries⟩

theorem Origin.outgoing {self : LanSignaler} {due : Signal × UInt64} (member : due ∈ signals)
    (found : self.outgoing crypto due = some output) : Origin crypto self.networkId signals output := by
  unfold LanSignaler.outgoing at found
  split at found
  · rename_i addr buf known encoded
    cases found
    apply Origin.encoded addr encoded
    intro message same
    cases same
    exact ⟨due, member, rfl⟩
  · cases found

end

/-! ## The effect of each operation -/

section
variable (signals : List (Signal × UInt64))

theorem effect_answerRequest (self : LanSignaler) (addr : SocketAddr) :
    Effect crypto signals self (self.answerRequest crypto addr).1 := by
  unfold answerRequest
  split
  · exact .quiet rfl rfl rfl
  · split
    · exact .quiet rfl rfl rfl
    · rename_i buf encoded
      refine Effect.queue rfl rfl rfl ?_
      apply Origin.encoded addr encoded
      intro message same
      cases same

theorem effect_handleResponse (self : LanSignaler) (sender : UInt64) (response : ResponsePacket) :
    Effect crypto signals self (self.handleResponse sender response) := by
  unfold handleResponse
  split
  · exact .quiet rfl rfl rfl
  · split
    · exact .quiet rfl rfl rfl
    · refine Effect.queue rfl rfl rfl ?_
      exact .other (by simp)

theorem effect_handleMessage (self : LanSignaler) (sender : UInt64) (message : MessagePacket) :
    Effect crypto signals self (self.handleMessage sender message) := by
  unfold handleMessage
  split
  · exact .quiet rfl rfl rfl
  · refine Effect.queue rfl rfl rfl ?_
    exact .other (by simp)

theorem effect_handlePacket (self : LanSignaler) (packet : Packets) (sender : UInt64) (addr : SocketAddr) :
    Effect crypto signals self (self.handlePacket crypto packet sender addr).1 := by
  cases packet with
  | request => exact effect_answerRequest crypto signals self addr
  | response response => exact effect_handleResponse crypto signals self sender response
  | message message => exact effect_handleMessage crypto signals self sender message

theorem effect_handleDatagram (self : LanSignaler) (buf : Bytes) (addr : SocketAddr) (now : Instant) :
    Effect crypto signals self (self.handleDatagram crypto buf addr now).1 := by
  unfold handleDatagram
  split
  · exact .quiet rfl rfl rfl
  · split
    · exact .quiet rfl rfl rfl
    · split
      · exact .quiet rfl rfl rfl
      · rename_i packet sender _ _ _
        have touched : Effect crypto signals self
            { self with addresses := self.addresses.insert sender ⟨addr, now⟩ } := .quiet rfl rfl rfl
        exact touched.trans (effect_handlePacket crypto signals _ packet sender addr)

theorem effect_broadcast (self : LanSignaler) (now : Instant) :
    Effect crypto signals self (self.broadcast crypto now).1 := by
  unfold broadcast
  split
  · exact .quiet rfl rfl rfl
  · rename_i addr _
    split
    · exact .quiet rfl rfl rfl
    · split
      · exact .quiet rfl rfl rfl
      · rename_i buf encoded
        have origin : ∀ dest, Origin crypto self.networkId signals (.datagram buf dest) := by
          intro dest
          apply Origin.encoded dest encoded
          intro message same
          cases same
        have sent : Effect crypto signals self (self.push (.datagram buf addr)) := .queue rfl rfl rfl (origin addr)
        dsimp only
        split
        · exact sent.trans (.queue rfl rfl rfl (origin _))
        · exact sent.trans (.quiet rfl rfl rfl)

end

theorem effect_retransmit : Effect crypto self.pendingPairs self (self.retransmit crypto now) := by
  rw [retransmit_eq]
  refine ⟨rfl, rfl, _, rfl, ?_⟩
  intro output member
  obtain ⟨due, isDue, found⟩ := List.mem_filterMap.mp member
  have waiting : due ∈ self.pendingPairs := List.map_subset _ (List.filter_subset_self _) isDue
  exact Origin.outgoing waiting found

theorem broadcast_ok : (self.broadcast crypto now).2 = .ok () := by
  obtain ⟨buf, encoded⟩ := Discovery.encode_request crypto self.networkId
  unfold broadcast
  split
  · rfl
  · split
    · rfl
    · rw [encoded]

-- the state that an update computes its wait from
def updated (self : LanSignaler) (now : Instant) : LanSignaler :=
  ((self.retransmit crypto now).broadcast crypto now).1.expire now

/-- A request always encodes, so an update always comes to its end. -/
theorem handleUpdate_eq : self.handleUpdate crypto now =
    ((self.updated crypto now).push (.wait ((self.updated crypto now).nextTimer now)), .ok ()) := by
  have sent := broadcast_ok crypto (self.retransmit crypto now) now
  unfold handleUpdate updated
  split
  · rename_i outcome
    rw [outcome] at sent
    cases sent
  · rename_i outcome
    rw [outcome]

theorem effect_handleUpdate : Effect crypto self.pendingPairs self (self.handleUpdate crypto now).1 := by
  have sent := (effect_retransmit crypto self now).trans
    (effect_broadcast crypto self.pendingPairs (self.retransmit crypto now) now)
  unfold handleUpdate
  split
  · rename_i after e outcome
    rw [outcome] at sent
    exact sent
  · rename_i after outcome
    rw [outcome] at sent
    exact sent.trans (.queue rfl rfl rfl (.other (by simp)))

/-- An update queues the due signals first, then the broadcast and the next timer. -/
theorem output_handleUpdate : ∃ rest,
    (self.handleUpdate crypto now).1.output =
      self.output ++ (self.dueSignals now).filterMap (self.outgoing crypto) ++ rest ∧
    ∀ output ∈ rest, Origin crypto self.networkId [] output := by
  obtain ⟨announced, queued, origin⟩ := (effect_broadcast crypto [] (self.retransmit crypto now) now).output
  rw [(effect_retransmit crypto self now).networkId] at origin
  have resent : (self.retransmit crypto now).output =
      self.output ++ (self.dueSignals now).filterMap (self.outgoing crypto) := by
    rw [retransmit_eq]
  rw [← resent]
  unfold handleUpdate
  split
  · rename_i outcome
    rw [outcome] at queued
    exact ⟨announced, queued, origin⟩
  · rename_i after outcome
    rw [outcome] at queued
    refine ⟨announced ++ [.wait ((after.expire now).nextTimer now)], ?_, ?_⟩
    · rw [← List.append_assoc, ← queued]
      rfl
    · intro output member
      rcases List.mem_append.mp member with announcement | timer
      · exact origin output announcement
      · rw [List.mem_singleton.mp timer]
        exact .other (by simp)

theorem effect_handleSignal (signal : Signal) (now : Instant) :
    Effect crypto (self.accepted crypto (.signal signal now)) self (self.handleSignal crypto signal now).1 := by
  cases outcome : (self.handleSignal crypto signal now).2 with
  | error e =>
    rw [handleSignal_error crypto outcome]
    exact .quiet rfl rfl rfl
  | ok =>
    obtain ⟨target, addr, buf, parsed, known, encoded, after⟩ := handleSignal_ok crypto outcome
    have found : self.accepted crypto (.signal signal now) = [(signal, target)] := by
      simp only [accepted, parsed, outcome]
    rw [after, found]
    refine Effect.queue rfl rfl rfl ?_
    apply Origin.encoded addr encoded
    intro message same
    cases same
    exact ⟨(signal, target), List.mem_singleton.mpr rfl, rfl⟩

variable (input : LanSignalerInput)

/-- What any input may do to a signaler besides its pending signals and its tables. -/
theorem effect_handle :
    Effect crypto (self.pendingPairs ++ self.accepted crypto input) self (self.handle crypto input).1 := by
  cases input with
  | datagram buf addr now => exact effect_handleDatagram crypto _ self buf addr now
  | signal signal now => exact (effect_handleSignal crypto self signal now).widen (List.subset_append_right _ _)
  | setServerData data => exact .quiet rfl rfl rfl
  | update now => exact (effect_handleUpdate crypto self now).widen (List.subset_append_left _ _)

/-! ## Pending signals -/

theorem pending_handlePacket (packet : Packets) (sender : UInt64) (addr : SocketAddr) :
    (self.handlePacket crypto packet sender addr).1.pending = self.pending ∨
      ∃ message signal, packet = .message message ∧ messageSignal self.networkId sender message = some signal ∧
        (self.handlePacket crypto packet sender addr).1.pending =
          self.pending.filter (survives sender signal.connectionId) := by
  cases packet with
  | request =>
    left
    show (self.answerRequest crypto addr).1.pending = self.pending
    unfold answerRequest
    split
    · rfl
    · split <;> rfl
  | response response =>
    left
    show (self.handleResponse sender response).pending = self.pending
    unfold handleResponse
    split
    · rfl
    · split <;> rfl
  | message message =>
    show (self.handleMessage sender message).pending = self.pending ∨ _
    unfold handleMessage
    cases carried : messageSignal self.networkId sender message with
    | none => exact .inl rfl
    | some signal => exact .inr ⟨message, signal, rfl, carried, by simp [handlePacket, handleMessage, carried, push]⟩

/-- A datagram drops pending signals only when it carries a signal of their target on their connection. -/
theorem pending_handleDatagram (buf : Bytes) (addr : SocketAddr) (now : Instant) :
    (self.handleDatagram crypto buf addr now).1.pending = self.pending ∨
      ∃ message sender signal, Discovery.decode crypto buf = .ok (.message message, sender) ∧
        sender ≠ self.networkId ∧ messageSignal self.networkId sender message = some signal ∧
        (self.handleDatagram crypto buf addr now).1.pending =
          self.pending.filter (survives sender signal.connectionId) := by
  unfold handleDatagram
  cases decoded : Discovery.decode crypto buf with
  | error e => exact .inl rfl
  | ok received =>
    obtain ⟨packet, sender⟩ := received
    dsimp only
    split
    · exact .inl rfl
    · rename_i other
      split
      · exact .inl rfl
      · rcases pending_handlePacket crypto { self with addresses := self.addresses.insert sender ⟨addr, now⟩ }
          packet sender addr with kept | ⟨message, signal, rfl, carried, dropped⟩
        · exact .inl kept
        · exact .inr ⟨message, sender, signal, rfl, other, carried, dropped⟩

theorem pending_broadcast : (self.broadcast crypto now).1.pending = self.pending := by
  unfold broadcast
  split
  · rfl
  · split
    · rfl
    · split
      · rfl
      · dsimp only
        split <;> rfl

theorem pending_handleUpdate : (self.handleUpdate crypto now).1.pending = (self.retransmit crypto now).pending := by
  rw [← pending_broadcast crypto (self.retransmit crypto now) now]
  unfold handleUpdate
  split
  · rename_i outcome
    rw [outcome]
  · rename_i outcome
    rw [outcome]
    rfl

theorem retry_pair {config : LanSignalerConfig} {now : Instant} {pending next : PendingSignal}
    (kept : retry config now pending = some next) :
    next.signal = pending.signal ∧ next.target = pending.target := by
  unfold retry at kept
  split at kept
  · cases kept
    exact ⟨rfl, rfl⟩
  · split at kept
    · cases kept
    · cases kept
      exact ⟨rfl, rfl⟩

theorem pendingPairs_filter {self : LanSignaler} {keep : PendingSignal → Bool}
    (filtered : after.pending = self.pending.filter keep) : after.pendingPairs ⊆ self.pendingPairs := by
  unfold pendingPairs
  rw [filtered]
  exact List.map_subset _ (List.filter_subset_self _)

theorem pendingPairs_retransmit : (self.retransmit crypto now).pendingPairs ⊆ self.pendingPairs := by
  intro pair member
  rw [retransmit_eq, pendingPairs] at member
  obtain ⟨next, isKept, rfl⟩ := List.mem_map.mp member
  obtain ⟨pending, waiting, kept⟩ := List.mem_filterMap.mp (List.mem_filter.mp isKept).1
  obtain ⟨sameSignal, sameTarget⟩ := retry_pair kept
  rw [sameSignal, sameTarget]
  exact List.mem_map.mpr ⟨pending, waiting, rfl⟩

/-- Only an accepted signal becomes pending. -/
theorem pendingPairs_handle :
    (self.handle crypto input).1.pendingPairs ⊆ self.pendingPairs ++ self.accepted crypto input := by
  cases input with
  | datagram buf addr now =>
    apply List.subset_append_of_subset_left
    rcases self.pending_handleDatagram crypto buf addr now with kept | ⟨_, _, _, _, _, _, dropped⟩
    · rw [handle, pendingPairs, kept]
      exact List.Subset.refl _
    · exact pendingPairs_filter dropped
  | signal signal now =>
    rw [handle]
    cases outcome : (self.handleSignal crypto signal now).2 with
    | error e =>
      rw [handleSignal_error crypto outcome]
      exact List.subset_append_left _ _
    | ok =>
      obtain ⟨target, addr, buf, parsed, known, encoded, after⟩ := handleSignal_ok crypto outcome
      have found : self.accepted crypto (.signal signal now) = [(signal, target)] := by
        simp only [accepted, parsed, outcome]
      rw [after, found, pendingPairs]
      dsimp only
      rw [List.map_append]
      apply List.append_subset.mpr
      refine ⟨List.subset_append_left _ _, List.subset_append_of_subset_right _ ?_⟩
      split <;> simp
  | setServerData data => exact List.subset_append_left _ _
  | update now =>
    apply List.subset_append_of_subset_left
    rw [handle, pendingPairs, pending_handleUpdate]
    exact pendingPairs_retransmit crypto self now

end Nethernet.LanSignaler
