import Nethernet.Foundation.Machine
import Nethernet.Signaling.LanSteps

/-! Two LAN signalers on a network that loses, repeats, delays and reorders datagrams.

Each host keeps, next to its signaler, what can be observed of every signal it accepted:
the copies queued, the datagrams handled since, and whether an update found the target's
address unknown. The observations never influence a signaler. -/

set_option autoImplicit false

namespace Nethernet.LanNetwork
open Foundation

/-! ## Hosts -/

/-- One accepted signal and what happened since. -/
structure Sending where
  signal : Signal
  target : UInt64
  copies : Nat
  heard : List Bytes
  lostAddress : Bool
  deriving DecidableEq, Repr

structure Host where
  signaler : LanSignaler
  sendings : List Sending
  handled : List Bytes
  sent : List Bytes

namespace Sending

def start (due : Signal × UInt64) : Sending := ⟨due.1, due.2, 0, [], false⟩

def pair (sending : Sending) : Signal × UInt64 := (sending.signal, sending.target)

-- the entry that repeats the signal is still there
def Waiting (signaler : LanSignaler) (sending : Sending) : Prop :=
  sending.pair ∈ signaler.pendingPairs

instance (signaler : LanSignaler) (sending : Sending) : Decidable (sending.Waiting signaler) :=
  inferInstanceAs (Decidable (sending.pair ∈ signaler.pendingPairs))

variable (crypto : DiscoveryCrypto)

/-- The datagram that carries the signal from a host. -/
def datagram (networkId : UInt64) (sending : Sending) : Option Bytes :=
  (Discovery.encode crypto (.message ⟨sending.target, sending.signal.text⟩) networkId).toOption

def isCopy (networkId : UInt64) (sending : Sending) : LanSignalerOutput → Bool
  | .datagram buf _ => sending.datagram crypto networkId = some buf
  | _ => false

end Sending

def received : LanSignalerInput → List Bytes
  | .datagram buf _ _ => [buf]
  | _ => []

def isUpdate : LanSignalerInput → Bool
  | .update _ => true
  | _ => false

variable (crypto : DiscoveryCrypto)

-- every input only adds to the queue, so the new outputs are those past the old length
def fresh (before after : LanSignaler) : List LanSignalerOutput :=
  after.output.drop before.output.length

def Sending.observe (before after : LanSignaler) (input : LanSignalerInput) (sending : Sending) : Sending :=
  { sending with
    copies := sending.copies + (fresh before after).countP (sending.isCopy crypto before.networkId)
    heard := sending.heard ++ received input
    lostAddress := sending.lostAddress || (isUpdate input && (before.address sending.target).isNone) }

def Host.handle (host : Host) (input : LanSignalerInput) : Host :=
  let after := (host.signaler.handle crypto input).1
  { host with
    signaler := after
    sendings := (host.sendings ++ (host.signaler.accepted crypto input).map Sending.start).map
      (Sending.observe crypto host.signaler after input)
    handled := host.handled ++ received input }

/-! ## Accounting for one signal -/

/-- The datagram carries a signal of the target on the same connection. -/
def Sending.RepliedBy (networkId : UInt64) (sending : Sending) (buf : Bytes) : Prop :=
  sending.target ≠ networkId ∧ ∃ message signal,
    Discovery.decode crypto buf = .ok (.message message, sending.target) ∧
    LanSignaler.messageSignal networkId sending.target message = some signal ∧
    signal.connectionId = sending.signal.connectionId

/-- Either the signal is still repeated, with no more attempts than copies, or there is a reason. -/
def Sending.Accounted (signaler : LanSignaler) (sending : Sending) : Prop :=
  (∃ pending ∈ signaler.pending, pending.signal = sending.signal ∧ pending.target = sending.target ∧
    pending.attempts.toNat ≤ sending.copies) ∨
  signaler.config.signalRetries.toNat + 1 ≤ sending.copies ∨
  (∃ buf ∈ sending.heard, sending.RepliedBy crypto signaler.networkId buf) ∨
  sending.lostAddress = true

variable {sending : Sending} {input : LanSignalerInput}

namespace Sending

section
variable {crypto} {before after : LanSignaler}

@[simp] theorem observe_signal : (sending.observe crypto before after input).signal = sending.signal := rfl
@[simp] theorem observe_target : (sending.observe crypto before after input).target = sending.target := rfl

theorem copies_le_observe : sending.copies ≤ (sending.observe crypto before after input).copies :=
  Nat.le_add_right _ _

theorem copies_lt_observe {output : LanSignalerOutput} (queued : output ∈ fresh before after)
    (copy : sending.isCopy crypto before.networkId output = true) :
    sending.copies < (sending.observe crypto before after input).copies := by
  have counted : 0 < (fresh before after).countP (sending.isCopy crypto before.networkId) :=
    List.countP_pos_iff.mpr ⟨output, queued, copy⟩
  unfold observe
  dsimp only
  omega

theorem heard_of_received {buf : Bytes} (member : buf ∈ received input) :
    buf ∈ (sending.observe crypto before after input).heard :=
  List.mem_append_right _ member

theorem lostAddress_of_update (update : isUpdate input = true) (unknown : before.address sending.target = none) :
    (sending.observe crypto before after input).lostAddress = true := by
  simp [observe, update, unknown]

/-- The reasons to stop repeating a signal stay reasons. -/
theorem Accounted.persists (sameId : after.networkId = before.networkId) (sameConfig : after.config = before.config)
    (reason : before.config.signalRetries.toNat + 1 ≤ sending.copies ∨
      (∃ buf ∈ sending.heard, sending.RepliedBy crypto before.networkId buf) ∨ sending.lostAddress = true) :
    (sending.observe crypto before after input).Accounted crypto after := by
  rcases reason with enough | ⟨buf, member, replied⟩ | lost
  · right; left
    rw [sameConfig]
    exact enough.trans copies_le_observe
  · right; right; left
    refine ⟨buf, List.mem_append_left _ member, ?_⟩
    rw [sameId]
    exact replied
  · right; right; right
    simp [observe, lost]

theorem Accounted.waits {pending : PendingSignal} (member : pending ∈ after.pending)
    (sameSignal : pending.signal = sending.signal) (sameTarget : pending.target = sending.target)
    (attempts : pending.attempts.toNat ≤ sending.copies) :
    (sending.observe crypto before after input).Accounted crypto after :=
  .inl ⟨pending, member, sameSignal, sameTarget, attempts.trans copies_le_observe⟩

end

section
variable {self : LanSignaler} {pending : PendingSignal} (member : pending ∈ self.pending)
  (sameSignal : pending.signal = sending.signal) (sameTarget : pending.target = sending.target)
  (attempts : pending.attempts.toNat ≤ sending.copies)
include member sameSignal sameTarget attempts

theorem accounted_datagram (buf : Bytes) (addr : SocketAddr) (now : Instant) :
    (sending.observe crypto self (self.handle crypto (.datagram buf addr now)).1 (.datagram buf addr now)).Accounted
      crypto (self.handle crypto (.datagram buf addr now)).1 := by
  rcases self.pending_handleDatagram crypto buf addr now with
    kept | ⟨message, sender, signal, decoded, other, carried, dropped⟩
  · apply Accounted.waits _ sameSignal sameTarget attempts
    rw [LanSignaler.handle, kept]
    exact member
  · by_cases survives : LanSignaler.survives sender signal.connectionId pending = true
    · apply Accounted.waits _ sameSignal sameTarget attempts
      rw [LanSignaler.handle, dropped]
      exact List.mem_filter.mpr ⟨member, survives⟩
    · right; right; left
      -- the entry was dropped, so the datagram comes from its target on its connection
      have matching : pending.target = sender ∧ pending.signal.connectionId = signal.connectionId := by
        simpa [LanSignaler.survives] using survives
      have targeted : sending.target = sender := sameTarget.symm.trans matching.1
      refine ⟨buf, heard_of_received (List.mem_singleton.mpr rfl), ?_⟩
      rw [(self.effect_handle crypto (.datagram buf addr now)).networkId]
      refine ⟨by rwa [observe_target, targeted], message, signal, ?_, ?_, ?_⟩
      · rwa [observe_target, targeted]
      · rwa [observe_target, targeted]
      · rw [observe_signal, ← sameSignal, matching.2]

theorem accounted_signal (signal : Signal) (now : Instant) :
    (sending.observe crypto self (self.handle crypto (.signal signal now)).1 (.signal signal now)).Accounted
      crypto (self.handle crypto (.signal signal now)).1 := by
  apply Accounted.waits _ sameSignal sameTarget attempts
  rw [LanSignaler.handle]
  cases outcome : (self.handleSignal crypto signal now).2 with
  | error e =>
    rw [self.handleSignal_error crypto outcome]
    exact member
  | ok =>
    obtain ⟨target, addr, buf, -, -, -, accepted⟩ := self.handleSignal_ok crypto outcome
    rw [accepted]
    exact List.mem_append_left _ member

omit sameSignal sameTarget attempts in
-- what an update does to an entry that can be sent
theorem retried {now : Instant} {next : PendingSignal} (kept : LanSignaler.retry self.config now pending = some next)
    (same : next.signal = pending.signal ∧ next.target = pending.target)
    (sendable : (self.outgoing crypto (pending.signal, pending.target)).isSome = true) :
    next ∈ (self.handle crypto (.update now)).1.pending := by
  rw [LanSignaler.handle, self.pending_handleUpdate crypto, self.retransmit_eq crypto]
  apply List.mem_filter.mpr
  refine ⟨List.mem_filterMap.mpr ⟨pending, member, kept⟩, ?_⟩
  apply LanSignaler.unfailed_of_outgoing
  rw [same.1, same.2]
  exact sendable

theorem accounted_update (encodable : (sending.datagram crypto self.networkId).isSome = true) (now : Instant) :
    (sending.observe crypto self (self.handle crypto (.update now)).1 (.update now)).Accounted
      crypto (self.handle crypto (.update now)).1 := by
  cases known : self.address sending.target with
  | none =>
    right; right; right
    exact lostAddress_of_update rfl known
  | some addr =>
    obtain ⟨buf, encoded⟩ := Option.isSome_iff_exists.mp encodable
    have outgoing : self.outgoing crypto (pending.signal, pending.target) = some (.datagram buf addr) := by
      rw [sameSignal, sameTarget, LanSignaler.outgoing, known]
      rw [datagram, Except.toOption_eq_some] at encoded
      rw [encoded]
    have sendable : (self.outgoing crypto (pending.signal, pending.target)).isSome = true := by
      rw [outgoing]
      rfl
    by_cases early : pending.nextSend > now
    · -- not due yet
      have kept : LanSignaler.retry self.config now pending = some pending := if_pos early
      exact Accounted.waits (retried crypto member kept ⟨rfl, rfl⟩ sendable) sameSignal sameTarget attempts
    · by_cases spent : pending.attempts > self.config.signalRetries
      · -- all retries are used, so the copies are all queued
        right; left
        have bound := UInt32.lt_iff_toNat_lt.mp spent
        have more : sending.copies ≤
            (sending.observe crypto self (self.handle crypto (.update now)).1 (.update now)).copies := copies_le_observe
        rw [(self.effect_handle crypto (.update now)).config]
        omega
      · -- sent once more
        left
        have kept : LanSignaler.retry self.config now pending = some { pending with
            attempts := pending.attempts + 1
            nextSend := now + retryInterval self.config pending.signal } := by
          rw [LanSignaler.retry, if_neg early, if_neg spent]
        refine ⟨_, retried crypto member kept ⟨rfl, rfl⟩ sendable, sameSignal, sameTarget, ?_⟩
        have due : (pending.signal, pending.target) ∈ self.dueSignals now := by
          apply List.mem_map.mpr
          refine ⟨pending, List.mem_filter.mpr ⟨member, ?_⟩, rfl⟩
          simp [LanSignaler.isDue, early, spent]
        have queued : LanSignalerOutput.datagram buf addr ∈ fresh self (self.handle crypto (.update now)).1 := by
          obtain ⟨rest, output, -⟩ := self.output_handleUpdate crypto now
          rw [fresh, LanSignaler.handle, output, List.append_assoc, List.drop_left]
          exact List.mem_append_left _ (List.mem_filterMap.mpr ⟨_, due, outgoing⟩)
        have counted : sending.copies <
            (sending.observe crypto self (self.handle crypto (.update now)).1 (.update now)).copies := by
          apply copies_lt_observe queued
          simp [isCopy, encoded]
        have wrapped : (pending.attempts + 1).toNat ≤ pending.attempts.toNat + 1 := by
          rw [UInt32.toNat_add]
          exact Nat.mod_le _ _
        show (pending.attempts + 1).toNat ≤ _
        omega

end

/-- Every input leaves an accounted signal accounted. -/
theorem Accounted.handle {self : LanSignaler} (input : LanSignalerInput)
    (encodable : (sending.datagram crypto self.networkId).isSome = true) (accounted : sending.Accounted crypto self) :
    (sending.observe crypto self (self.handle crypto input).1 input).Accounted crypto (self.handle crypto input).1 := by
  have effect := self.effect_handle crypto input
  rcases accounted with ⟨pending, member, sameSignal, sameTarget, attempts⟩ | reason
  · cases input with
    | datagram buf addr now => exact accounted_datagram crypto member sameSignal sameTarget attempts buf addr now
    | signal signal now => exact accounted_signal crypto member sameSignal sameTarget attempts signal now
    | setServerData data => exact Accounted.waits member sameSignal sameTarget attempts
    | update now => exact accounted_update crypto member sameSignal sameTarget attempts encodable now
  · exact Accounted.persists effect.networkId effect.config reason

/-- A signal is accounted for, and can be encoded, from the moment it is accepted. -/
theorem accounted_start {self : LanSignaler} {due : Signal × UInt64} (member : due ∈ self.accepted crypto input) :
    ((start due).datagram crypto self.networkId).isSome = true ∧
      ((start due).observe crypto self (self.handle crypto input).1 input).Accounted crypto
        (self.handle crypto input).1 := by
  cases input with
  | signal signal now =>
    cases outcome : (self.handleSignal crypto signal now).2 with
    | error e => simp [LanSignaler.accepted, outcome] at member
    | ok =>
      obtain ⟨target, addr, buf, parsed, known, encoded, after⟩ := self.handleSignal_ok crypto outcome
      have same : due = (signal, target) := by
        simpa [LanSignaler.accepted, parsed, outcome] using member
      subst same
      have datagram : (start (signal, target)).datagram crypto self.networkId = some buf := by
        rw [Sending.datagram, Except.toOption_eq_some]
        exact encoded
      refine ⟨by rw [datagram]; rfl, ?_⟩
      have queued : LanSignalerOutput.datagram buf addr ∈ fresh self (self.handle crypto (.signal signal now)).1 := by
        rw [fresh, LanSignaler.handle, after]
        simp [LanSignaler.push]
      have copy : (start (signal, target)).isCopy crypto self.networkId (.datagram buf addr) = true := by
        simp [isCopy, datagram]
      have counted : 0 < ((start (signal, target)).observe crypto self
          (self.handle crypto (.signal signal now)).1 (.signal signal now)).copies := copies_lt_observe queued copy
      by_cases retries : self.config.signalRetries > 0
      · left
        refine ⟨⟨signal, target, 1, now + retryInterval self.config signal⟩, ?_, rfl, rfl, counted⟩
        rw [LanSignaler.handle, after, if_pos retries]
        exact List.mem_append_right _ (List.mem_singleton.mpr rfl)
      · right; left
        have none : self.config.signalRetries.toNat = 0 := by
          have bound := mt UInt32.lt_iff_toNat_lt.mpr retries
          exact Nat.eq_zero_of_not_pos bound
        rw [(self.effect_handle crypto (.signal signal now)).config, none]
        exact counted
  | datagram buf addr now => cases member
  | setServerData data => cases member
  | update now => cases member

end Sending

/-! ## One host -/

variable {host : Host}

namespace Host

def pairs (host : Host) : List (Signal × UInt64) := host.sendings.map Sending.pair

structure Sound (networkId : UInt64) (config : LanSignalerConfig) (host : Host) : Prop where
  ownId : host.signaler.networkId = networkId
  ownConfig : host.signaler.config = config
  tracked : host.signaler.pendingPairs ⊆ host.pairs
  encodable : ∀ sending ∈ host.sendings, (sending.datagram crypto networkId).isSome = true
  origin : ∀ output ∈ host.signaler.output, LanSignaler.Origin crypto networkId host.pairs output
  sent : ∀ buf ∈ host.sent, ∀ addr, LanSignaler.Origin crypto networkId host.pairs (.datagram buf addr)
  accounted : ∀ sending ∈ host.sendings, sending.Accounted crypto host.signaler

theorem pairs_handle (host : Host) (input : LanSignalerInput) :
    (host.handle crypto input).pairs = host.pairs ++ host.signaler.accepted crypto input := by
  have observed : Sending.pair ∘ Sending.observe crypto host.signaler (host.signaler.handle crypto input).1 input =
      Sending.pair := by
    funext sending
    rfl
  have started : Sending.pair ∘ Sending.start = id := by
    funext due
    rfl
  unfold pairs Host.handle
  dsimp only
  rw [List.map_map, observed, List.map_append, List.map_map, started, List.map_id]

-- an observed signal was there before, or this input made the signaler accept it
theorem mem_sendings_handle (member : sending ∈ (host.handle crypto input).sendings) :
    ∃ earlier, sending = earlier.observe crypto host.signaler (host.signaler.handle crypto input).1 input ∧
      (earlier ∈ host.sendings ∨ ∃ due ∈ host.signaler.accepted crypto input, earlier = .start due) := by
  obtain ⟨earlier, listed, rfl⟩ := List.mem_map.mp member
  refine ⟨earlier, rfl, ?_⟩
  rcases List.mem_append.mp listed with old | new
  · exact .inl old
  · obtain ⟨due, isAccepted, rfl⟩ := List.mem_map.mp new
    exact .inr ⟨due, isAccepted, rfl⟩

section
variable {crypto} {networkId : UInt64} {config : LanSignalerConfig}

theorem Sound.handle (sound : host.Sound crypto networkId config) (input : LanSignalerInput) :
    (host.handle crypto input).Sound crypto networkId config := by
  have effect := host.signaler.effect_handle crypto input
  have known : host.signaler.pendingPairs ++ host.signaler.accepted crypto input ⊆
      (host.handle crypto input).pairs := by
    rw [pairs_handle]
    exact List.append_subset.mpr ⟨List.subset_append_of_subset_left _ sound.tracked, List.subset_append_right _ _⟩
  constructor
  case ownId => exact effect.networkId.trans sound.ownId
  case ownConfig => exact effect.config.trans sound.ownConfig
  case tracked => exact List.Subset.trans (host.signaler.pendingPairs_handle crypto input) known
  case encodable =>
    intro sending member
    obtain ⟨earlier, rfl, old | ⟨due, accepted, rfl⟩⟩ := mem_sendings_handle crypto member
    · exact sound.encodable earlier old
    · rw [← sound.ownId]
      exact (Sending.accounted_start crypto accepted).1
  case origin =>
    obtain ⟨fresh, queued, origin⟩ := (effect.widen known).output
    intro output member
    have after : (host.handle crypto input).signaler.output = host.signaler.output ++ fresh := queued
    rw [after] at member
    rcases List.mem_append.mp member with old | new
    · apply (sound.origin output old).widen
      rw [pairs_handle]
      exact List.subset_append_left _ _
    · rw [← sound.ownId]
      exact origin output new
  case sent =>
    intro buf member addr
    apply (sound.sent buf member addr).widen
    rw [pairs_handle]
    exact List.subset_append_left _ _
  case accounted =>
    intro sending member
    obtain ⟨earlier, rfl, old | ⟨due, accepted, rfl⟩⟩ := mem_sendings_handle crypto member
    · apply Sending.Accounted.handle crypto input _ (sound.accounted earlier old)
      rw [sound.ownId]
      exact sound.encodable earlier old
    · exact (Sending.accounted_start crypto accepted).2

end

-- the driver sends a polled datagram at once
def poll (host : Host) : Host × Option LanSignalerOutput :=
  match host.signaler.poll with
  | (signaler, some (.datagram buf addr)) =>
    ({ host with signaler := signaler, sent := host.sent ++ [buf] }, some (.datagram buf addr))
  | (signaler, output) => ({ host with signaler := signaler }, output)

theorem poll_cases (host : Host) : host.poll.1 = host ∨
    ∃ output rest sent, host.signaler.output = output :: rest ∧
      host.poll.1 =
        { host with
          signaler := { host.signaler with output := rest }
          sent := host.sent ++ sent } ∧
      ∀ buf ∈ sent, ∃ addr, output = .datagram buf addr := by
  unfold poll LanSignaler.poll
  cases queued : host.signaler.output with
  | nil => exact .inl rfl
  | cons output rest =>
    right
    cases output with
    | datagram buf addr => exact ⟨_, rest, [buf], rfl, rfl, by simp⟩
    | signal signal => exact ⟨_, rest, [], rfl, by simp, by simp⟩
    | serverDiscovered networkId data => exact ⟨_, rest, [], rfl, by simp, by simp⟩
    | wait duration => exact ⟨_, rest, [], rfl, by simp, by simp⟩

theorem Sound.poll {crypto : DiscoveryCrypto} {networkId : UInt64} {config : LanSignalerConfig} {host : Host}
    (sound : host.Sound crypto networkId config) : host.poll.1.Sound crypto networkId config := by
  rcases host.poll_cases with idle | ⟨output, rest, sent, queued, polled, isOutput⟩
  · rw [idle]
    exact sound
  · rw [polled]
    refine ⟨sound.ownId, sound.ownConfig, sound.tracked, sound.encodable, ?_, ?_, sound.accounted⟩
    · intro waiting member
      apply sound.origin
      rw [queued]
      exact List.mem_cons_of_mem _ member
    · intro buf member addr
      rcases List.mem_append.mp member with old | new
      · exact sound.sent buf old addr
      · obtain ⟨dest, rfl⟩ := isOutput buf new
        -- where a datagram comes from does not depend on where it goes
        obtain ⟨packet, encoded, carries⟩ := sound.origin (.datagram buf dest) (by simp [queued]) buf dest rfl
        exact LanSignaler.Origin.encoded addr encoded carries

end Host

/-! ## The network -/

inductive Side where
  | left
  | right
  deriving DecidableEq, Repr

def Side.other : Side → Side
  | .left => .right
  | .right => .left

variable {side : Side}

theorem Side.eq_other {source : Side} (different : source ≠ side) : source = side.other := by
  cases side <;> cases source <;> first | rfl | exact absurd rfl different

abbrev World : Type := Side → Host

inductive Action where
  | signal (side : Side) (signal : Signal) (now : Instant)
  | setServerData (side : Side) (data : ServerData)
  | update (side : Side) (now : Instant)
  | poll (side : Side)
  | deliver (source dest : Side) (index : Nat) (addr : SocketAddr) (now : Instant)
  deriving DecidableEq, Repr

namespace World

def start (networkId : Side → UInt64) (config : Side → LanSignalerConfig) : World := fun side =>
  ⟨.new (networkId side) (config side), [], [], []⟩

def change (world : World) (side : Side) (host : Host) : World :=
  Function.update world side host

def handle (world : World) (side : Side) (input : LanSignalerInput) : World :=
  world.change side ((world side).handle crypto input)

/-- Any datagram that was ever sent may arrive, at either host, from any address and any number of
times; one that is never delivered is lost. -/
def step (world : World) (action : Action) : World × Option LanSignalerOutput :=
  match action with
  | .signal side signal now => (world.handle crypto side (.signal signal now), none)
  | .setServerData side data => (world.handle crypto side (.setServerData data), none)
  | .update side now => (world.handle crypto side (.update now), none)
  | .poll side => (world.change side (world side).poll.1, (world side).poll.2)
  | .deliver source dest index addr now =>
    match (world source).sent[index]? with
    | none => (world, none)
    | some buf => (world.handle crypto dest (.datagram buf addr now), none)

structure Sound (networkId : Side → UInt64) (config : Side → LanSignalerConfig) (world : World) : Prop where
  hosts : ∀ side, (world side).Sound crypto (networkId side) (config side)
  heard : ∀ side, ∀ sending ∈ (world side).sendings, ∀ buf ∈ sending.heard, ∃ source, buf ∈ (world source).sent

theorem sound_start (networkId : Side → UInt64) (config : Side → LanSignalerConfig) :
    (start networkId config).Sound crypto networkId config := by
  refine ⟨fun side => ⟨rfl, rfl, List.nil_subset _, ?_, ?_, ?_, ?_⟩, ?_⟩ <;> simp [start, LanSignaler.new]

section
variable {crypto} {networkId : Side → UInt64} {config : Side → LanSignalerConfig} {world : World}

theorem change_self : world.change side host side = host :=
  Function.update_self ..

theorem change_of_ne {other : Side} (different : other ≠ side) : world.change side host other = world other :=
  Function.update_of_ne different ..

theorem Sound.change (sound : world.Sound crypto networkId config)
    (hostSound : host.Sound crypto (networkId side) (config side)) (kept : (world side).sent ⊆ host.sent)
    (heard : ∀ sending ∈ host.sendings, ∀ buf ∈ sending.heard, ∃ source, buf ∈ (world source).sent) :
    (world.change side host).Sound crypto networkId config := by
  have grown : ∀ source, (world source).sent ⊆ (world.change side host source).sent := by
    intro source
    by_cases same : source = side
    · subst same
      rwa [change_self]
    · rw [change_of_ne same]
      exact List.Subset.refl _
  constructor
  case hosts =>
    intro other
    by_cases same : other = side
    · subst same
      rwa [change_self]
    · rw [change_of_ne same]
      exact sound.hosts other
  case heard =>
    intro other sending member buf listened
    have before : ∃ source, buf ∈ (world source).sent := by
      by_cases same : other = side
      · subst same
        rw [change_self] at member
        exact heard sending member buf listened
      · rw [change_of_ne same] at member
        exact sound.heard other sending member buf listened
    obtain ⟨source, wasSent⟩ := before
    exact ⟨source, grown source wasSent⟩

theorem Sound.handle (sound : world.Sound crypto networkId config) (side : Side) {input : LanSignalerInput}
    (arrived : ∀ buf ∈ received input, ∃ source, buf ∈ (world source).sent) :
    (world.handle crypto side input).Sound crypto networkId config := by
  apply sound.change ((sound.hosts side).handle input) (List.Subset.refl _)
  intro sending member buf listened
  obtain ⟨earlier, rfl, old | ⟨due, accepted, rfl⟩⟩ := Host.mem_sendings_handle crypto member
  · rcases List.mem_append.mp listened with before | now
    · exact sound.heard side earlier old buf before
    · exact arrived buf now
  · exact arrived buf listened

theorem Sound.poll (sound : world.Sound crypto networkId config) (side : Side) :
    (world.change side (world side).poll.1).Sound crypto networkId config := by
  apply sound.change (sound.hosts side).poll
  · rcases (world side).poll_cases with idle | ⟨output, rest, sent, queued, polled, isOutput⟩
    · rw [idle]
      exact List.Subset.refl _
    · rw [polled]
      exact List.subset_append_left _ _
  · rcases (world side).poll_cases with idle | ⟨output, rest, sent, queued, polled, isOutput⟩
    · rw [idle]
      exact sound.heard side
    · rw [polled]
      exact sound.heard side

theorem Sound.step (sound : world.Sound crypto networkId config) (action : Action) :
    (world.step crypto action).1.Sound crypto networkId config := by
  have quiet : ∀ buf ∈ ([] : List Bytes), ∃ source, buf ∈ (world source).sent :=
    fun _ member => absurd member List.not_mem_nil
  cases action with
  | signal side signal now => exact sound.handle side quiet
  | setServerData side data => exact sound.handle side quiet
  | update side now => exact sound.handle side quiet
  | poll side => exact sound.poll side
  | deliver source dest index addr now =>
    unfold World.step
    dsimp only
    cases found : (world source).sent[index]? with
    | none => exact sound
    | some buf =>
      apply sound.handle dest
      intro arrived member
      rw [received, List.mem_singleton] at member
      rw [member]
      exact ⟨source, List.mem_of_getElem? found⟩

-- in a sound world a reply heard from the target was accepted there
theorem Sound.reply (sound : world.Sound crypto networkId config) {buf : Bytes}
    (member : sending ∈ (world side).sendings) (listened : buf ∈ sending.heard)
    (replied : sending.RepliedBy crypto (networkId side) buf) :
    sending.target = networkId side.other ∧ ∃ reply ∈ (world side.other).sendings,
      reply.target = networkId side ∧ reply.signal.connectionId = sending.signal.connectionId ∧
      reply.datagram crypto (networkId side.other) = some buf := by
  obtain ⟨foreign, message, signal, decoded, carried, connection⟩ := replied
  obtain ⟨source, wasSent⟩ := sound.heard side sending member buf listened
  obtain ⟨packet, encoded, carries⟩ := (sound.hosts source).sent buf wasSent (SocketAddr.loopback 0) buf _ rfl
  -- the datagram decodes to what its sender encoded
  rw [Discovery.decode_encode crypto encoded] at decoded
  obtain ⟨isMessage, sender⟩ := Prod.mk.inj (Except.ok.inj decoded)
  have source_eq : source = side.other := by
    apply Side.eq_other
    intro same
    rw [← same, sender] at foreign
    exact foreign rfl
  subst source_eq
  obtain ⟨due, isDue, rfl⟩ := carries message isMessage
  obtain ⟨reply, isReply, rfl⟩ := List.mem_map.mp isDue
  have addressed : reply.target = networkId side := by
    by_contra elsewhere
    rw [LanSignaler.messageSignal, if_pos (.inr (.inr elsewhere))] at carried
    cases carried
  have same : signal.connectionId = reply.signal.connectionId := by
    have text := LanSignaler.messageSignal_text (networkId side) sending.target reply.signal
    rw [← addressed] at text carried
    rw [show Sending.pair reply = (reply.signal, reply.target) from rfl, text] at carried
    cases carried
    rfl
  refine ⟨sender.symm, reply, isReply, addressed, same.symm.trans connection, ?_⟩
  rw [Sending.datagram, Except.toOption_eq_some, ← encoded, isMessage]
  rfl

end

/-- A signal that is no longer repeated although copies are left was answered by its target on the
same connection, unless an update found the target's address unknown. -/
theorem given_up_early_only_after_reply {networkId : Side → UInt64} {config : Side → LanSignalerConfig}
    (actions : List Action) (side : Side) (sending : Sending) :
    let world := (run (World.step crypto) (World.start networkId config) actions).1
    sending ∈ (world side).sendings → ¬ sending.Waiting (world side).signaler →
      sending.copies < 1 + (config side).signalRetries.toNat →
      sending.lostAddress = true ∨ (sending.target = networkId side.other ∧
        ∃ reply ∈ (world side.other).sendings, reply.target = networkId side ∧
          reply.signal.connectionId = sending.signal.connectionId ∧
          ∃ buf ∈ sending.heard, reply.datagram crypto (networkId side.other) = some buf) := by
  intro world member gone few
  have sound : world.Sound crypto networkId config :=
    run_invariant (World.step crypto) (fun _ action sound => sound.step action) (sound_start crypto networkId config)
      actions
  have host := sound.hosts side
  rcases host.accounted sending member with ⟨pending, waiting, sameSignal, sameTarget, -⟩ | enough | replied | lost
  · refine absurd (List.mem_map.mpr ⟨pending, waiting, ?_⟩) gone
    rw [sameSignal, sameTarget]
    rfl
  · rw [host.ownConfig] at enough
    omega
  · obtain ⟨buf, listened, replied⟩ := replied
    rw [host.ownId] at replied
    obtain ⟨targeted, reply, isReply, addressed, connection, datagram⟩ := sound.reply member listened replied
    exact .inr ⟨targeted, reply, isReply, addressed, connection, buf, listened, datagram⟩
  · exact .inl lost

/-! ## A candidate that is never repeated

Both hosts learn each other's address from their broadcasts. The offer arrives, the candidate is
lost, and the answer to the offer ends the repetition of both. -/

def leftAddr : SocketAddr := .v4 0xc0a80001 7551
def rightAddr : SocketAddr := .v4 0xc0a80002 7551

def conversation : List Action :=
  [ .update .left 0, .poll .left, .deliver .left .right 0 leftAddr 0,
    .update .right 0, .poll .right, .deliver .right .left 0 rightAddr 0,
    .signal .left ⟨.offer, 7, "o", "2"⟩ 0, .poll .left, .poll .left, .poll .left,
    .deliver .left .right 2 leftAddr 0,
    .signal .left ⟨.candidate, 7, "c", "2"⟩ 0, .poll .left,
    .signal .right ⟨.answer, 7, "a", "1"⟩ 0, .poll .right, .poll .right, .poll .right, .poll .right,
    .deliver .right .left 2 rightAddr 0 ]

def broadcasting : LanSignalerConfig := { broadcastAddress := some (.v4 0xffffffff 7551) }

def sampleIds : Side → UInt64
  | .left => 1
  | .right => 2

def afterConversation : World :=
  (run (World.step LanSignaler.recordedCrypto) (start sampleIds fun _ => broadcasting) conversation).1

theorem candidate_given_up_unheard : ∃ sending ∈ (afterConversation .left).sendings,
    sending.signal = ⟨.candidate, 7, "c", "2"⟩ ∧ ¬ sending.Waiting (afterConversation .left).signaler ∧
      sending.copies < 1 + broadcasting.signalRetries.toNat ∧
      (afterConversation .left).signaler.address sending.target = some rightAddr ∧
      (afterConversation .right).signaler.networkId = sending.target ∧
      ∀ buf ∈ (afterConversation .right).handled, sending.datagram LanSignaler.recordedCrypto 1 ≠ some buf := by
  decide +kernel

theorem candidate_given_up_answered : ∃ reply ∈ (afterConversation .right).sendings,
    reply.target = 1 ∧ reply.signal.connectionId = 7 := by
  have lost : ∃ sending ∈ (afterConversation .left).sendings,
      ¬ sending.Waiting (afterConversation .left).signaler ∧
        sending.copies < 1 + broadcasting.signalRetries.toNat ∧ sending.lostAddress = false ∧
        sending.signal.connectionId = 7 := by decide +kernel
  obtain ⟨sending, member, gone, few, known, connection⟩ := lost
  have reason := @given_up_early_only_after_reply LanSignaler.recordedCrypto sampleIds (fun _ => broadcasting)
    conversation .left sending
  rw [← afterConversation] at reason
  rcases reason member gone few with unknown | ⟨-, reply, isReply, addressed, same, -⟩
  · rw [known] at unknown
    cases unknown
  · exact ⟨reply, isReply, addressed, same.trans connection⟩

end World

end Nethernet.LanNetwork
