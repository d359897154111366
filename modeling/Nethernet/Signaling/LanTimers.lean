import Nethernet.Signaling.LanPinning

/-! The wait that a LAN signaler asks its driver for. It is computed in an update from
the timers there are; a signal accepted later sets a timer of its own. -/

set_option autoImplicit false

namespace Nethernet
open Foundation

/-- A signaler with the last wait it put out and the time of the update that put it out. -/
structure TimedSignaler where
  signaler : LanSignaler
  asked : Option (Instant × Duration)

def LanSignalerOutput.duration : LanSignalerOutput → Option Duration
  | .wait duration => some duration
  | _ => none

namespace TimedSignaler
variable (crypto : DiscoveryCrypto)

def new (networkId : UInt64) (config : LanSignalerConfig) : TimedSignaler := ⟨.new networkId config, none⟩

-- the last wait among the outputs that an update adds
def wait (before after : LanSignaler) : LanCall → Option (Instant × Duration)
  | .handle (.update now) =>
    ((after.output.drop before.output.length).filterMap LanSignalerOutput.duration).getLast?.map fun duration => (now, duration)
  | _ => none

def call (timed : TimedSignaler) (input : LanCall) : TimedSignaler × LanResult :=
  let after := timed.signaler.call crypto input
  (⟨after.1, (wait timed.signaler after.1 input).or timed.asked⟩, after.2)

/-- Before the wait is over no pending signal falls due, and no broadcast from the update on. -/
def Honoured (timed : TimedSignaler) : Prop :=
  ∀ start duration, timed.asked = some (start, duration) →
    (∀ entry ∈ timed.signaler.pending, ∀ time < start + duration,
      LanSignaler.isDue timed.signaler.config time entry = false) ∧
    ∀ time, start ≤ time → time < start + duration → timed.signaler.config.broadcastAddress.isSome = true →
      timed.signaler.broadcastDue time = false

/-- A signal that is accepted and will be retried comes so late that its first retry does not fall
before the end of the wait. -/
def Timely (timed : TimedSignaler) : LanCall → Prop
  | .handle (.signal signal now) =>
    timed.signaler.accepted crypto (.signal signal now) ≠ [] → 0 < timed.signaler.config.signalRetries →
      ∀ start duration, timed.asked = some (start, duration) →
        start + duration ≤ now + retryInterval timed.signaler.config signal
  | _ => True

end TimedSignaler

variable {entry : PendingSignal}

namespace LanSignaler
variable (crypto : DiscoveryCrypto)

/-! ## The timers -/

variable (self : LanSignaler) (buf : Bytes) (addr : SocketAddr)

theorem lastBroadcast_handleDatagram (now : Instant) :
    (self.handleDatagram crypto buf addr now).1.lastBroadcast = self.lastBroadcast := by
  unfold handleDatagram
  split
  · rfl
  · split
    · rfl
    · split
      · rfl
      · exact (handlePacket_keeps crypto _ _ _ _).2

theorem pending_handleDatagram_subset (now : Instant) :
    (self.handleDatagram crypto buf addr now).1.pending ⊆ self.pending := by
  rcases self.pending_handleDatagram crypto buf addr now with kept | ⟨_, _, _, _, _, _, dropped⟩
  · rw [kept]
    exact List.Subset.refl _
  · rw [dropped]
    exact List.filter_subset_self _

/-- Nothing is added to the timers. -/
structure Unhurried (before after : LanSignaler) : Prop where
  config : after.config = before.config
  pending : after.pending ⊆ before.pending
  lastBroadcast : after.lastBroadcast = before.lastBroadcast

theorem unhurried_datagram (now : Instant) : Unhurried self (self.handleDatagram crypto buf addr now).1 :=
  ⟨(effect_handleDatagram crypto [] self buf addr now).config, pending_handleDatagram_subset crypto self buf addr now,
    lastBroadcast_handleDatagram crypto self buf addr now⟩

theorem unhurried_poll : Unhurried self self.poll.1 := by
  unfold poll
  split
  · exact ⟨rfl, List.Subset.refl _, rfl⟩
  · exact ⟨rfl, List.Subset.refl _, rfl⟩

theorem le_nextSend_of_retry {config : LanSignalerConfig} {now : Instant} {next : PendingSignal}
    (kept : retry config now entry = some next) : now ≤ next.nextSend := by
  unfold retry at kept
  split at kept
  · rename_i early
    cases kept
    exact Nat.le_of_lt early
  · split at kept
    · cases kept
    · cases kept
      exact Nat.le_add_right ..

variable (now : Instant)

theorem foldl_min_le (entries : List PendingSignal) (wait : Duration) :
    entries.foldl (fun wait entry => min wait (entry.nextSend.since now)) wait ≤ wait ∧
      ∀ entry ∈ entries, entries.foldl (fun wait entry => min wait (entry.nextSend.since now)) wait ≤
        entry.nextSend.since now := by
  induction entries generalizing wait with
  | nil => simp
  | cons first rest ih =>
    obtain ⟨below, each⟩ := ih (min wait (first.nextSend.since now))
    rw [List.foldl_cons]
    refine ⟨Nat.le_trans below (Nat.min_le_left ..), ?_⟩
    intro entry member
    rcases List.mem_cons.mp member with rfl | later
    · exact Nat.le_trans below (Nat.min_le_right ..)
    · exact each entry later

theorem nextTimer_le_pending (member : entry ∈ self.pending) : self.nextTimer now ≤ entry.nextSend.since now :=
  (foldl_min_le now self.pending _).2 entry member

theorem nextTimer_le_broadcast {last : Instant} (known : self.lastBroadcast = some last)
    (broadcasts : self.config.broadcastAddress.isSome = true) :
    self.nextTimer now ≤ Instant.since (last + self.config.broadcastInterval) now := by
  obtain ⟨addr, present⟩ := Option.isSome_iff_exists.mp broadcasts
  unfold nextTimer
  rw [known, present]
  exact Nat.le_trans (foldl_min_le now self.pending _).1 (Nat.min_le_right ..)

theorem pending_updated : (self.updated crypto now).pending = (self.retransmit crypto now).pending :=
  pending_broadcast crypto (self.retransmit crypto now) now

theorem pending_after_update {self : LanSignaler} {now : Instant} (member : entry ∈ (self.updated crypto now).pending) :
    now ≤ entry.nextSend := by
  rw [pending_updated, retransmit_eq] at member
  obtain ⟨earlier, -, kept⟩ := List.mem_filterMap.mp (List.mem_filter.mp member).1
  exact le_nextSend_of_retry kept

/-- After an update that broadcasts at all, the next broadcast is counted from then, or lies ahead. -/
theorem lastBroadcast_updated (broadcasts : (self.updated crypto now).config.broadcastAddress.isSome = true) :
    ∃ last, (self.updated crypto now).lastBroadcast = some last ∧
      (last = now ∨ now.since last < (self.updated crypto now).config.broadcastInterval) := by
  unfold updated expire at broadcasts ⊢
  have same := (addresses_broadcast crypto (self.retransmit crypto now) now).2
  dsimp only at broadcasts ⊢
  rw [same] at broadcasts ⊢
  generalize self.retransmit crypto now = sent at broadcasts
  obtain ⟨addr, present⟩ := Option.isSome_iff_exists.mp broadcasts
  obtain ⟨buf, encoded⟩ := Discovery.encode_request crypto sent.networkId
  unfold broadcast
  rw [present]
  dsimp only
  split
  · rename_i undue
    cases known : sent.lastBroadcast with
    | none => simp [broadcastDue, known] at undue
    | some last => exact ⟨last, rfl, .inr (by simpa [broadcastDue, known] using undue)⟩
  · rw [encoded]
    exact ⟨now, rfl, .inl rfl⟩

end LanSignaler

variable {timed : TimedSignaler}

namespace TimedSignaler
variable {crypto : DiscoveryCrypto}
open LanSignaler

/-! ## One call -/

theorem wait_update (self : LanSignaler) (now : Instant) :
    wait self (self.call crypto (.handle (.update now))).1 (.handle (.update now)) =
      some (now, (self.updated crypto now).nextTimer now) := by
  obtain ⟨fresh, grown, -⟩ := (effect_handle crypto self (.update now)).output
  have after : (self.handle crypto (.update now)).1 =
      (self.updated crypto now).push (.wait ((self.updated crypto now).nextTimer now)) :=
    congrArg Prod.fst (handleUpdate_eq crypto self now)
  have earlier : ∃ early, (self.updated crypto now).output = self.output ++ early := by
    obtain ⟨early, queued, -⟩ := ((effect_retransmit crypto self now).trans
      (effect_broadcast crypto self.pendingPairs (self.retransmit crypto now) now)).output
    exact ⟨early, queued⟩
  obtain ⟨early, queued⟩ := earlier
  show ((((self.handle crypto (.update now)).1.output.drop self.output.length).filterMap
    LanSignalerOutput.duration).getLast?.map _) = _
  rw [after, push, queued, List.append_assoc, List.drop_left, List.filterMap_append]
  simp [LanSignalerOutput.duration]

theorem honoured_update (timed : TimedSignaler) (now : Instant) :
    Honoured (timed.call crypto (.handle (.update now))).1 := by
  have asked : (timed.call crypto (.handle (.update now))).1.asked =
      some (now, (timed.signaler.updated crypto now).nextTimer now) := by
    show (wait timed.signaler _ _).or timed.asked = _
    rw [wait_update]
    rfl
  have after : (timed.call crypto (.handle (.update now))).1.signaler =
      (timed.signaler.updated crypto now).push (.wait ((timed.signaler.updated crypto now).nextTimer now)) :=
    congrArg Prod.fst (handleUpdate_eq crypto timed.signaler now)
  intro start duration last
  rw [asked] at last
  cases last
  rw [after]
  constructor
  · intro entry member time early
    have undue : entry.nextSend > time :=
      Instant.lt_of_wait (pending_after_update crypto member) (nextTimer_le_pending _ now member) early
    simp [isDue, undue]
  · intro time later early broadcasts
    obtain ⟨last, known, recent⟩ := lastBroadcast_updated crypto timed.signaler now broadcasts
    have bounded := nextTimer_le_broadcast _ now known broadcasts
    have undue : time.since last < (timed.signaler.updated crypto now).config.broadcastInterval := by
      rcases recent with rfl | recent
      · exact Nat.sub_lt_left_of_lt_add later (Instant.lt_of_wait (Nat.le_add_right ..) bounded early)
      · have ahead := Instant.lt_of_since_lt recent
        exact Instant.since_lt (Nat.zero_lt_of_lt recent) (Instant.lt_of_wait (Nat.le_of_lt ahead) bounded early)
    simpa [broadcastDue, push, known] using undue

theorem Honoured.unhurried {after : TimedSignaler} (honoured : Honoured timed) (asked : after.asked = timed.asked)
    (same : Unhurried timed.signaler after.signaler) : Honoured after := by
  intro start duration last
  rw [asked] at last
  obtain ⟨pending, broadcast⟩ := honoured start duration last
  rw [same.config]
  refine ⟨fun entry member => pending entry (same.pending member), ?_⟩
  intro time later early broadcasts
  have undue := broadcast time later early broadcasts
  unfold broadcastDue at undue ⊢
  rwa [same.lastBroadcast, same.config]

/-- A new timer is due when it says, so it must not say a time before the end of the wait. -/
theorem honoured_accepted (honoured : Honoured timed) {signal : Signal} {target : UInt64} {now : Instant}
    (retries : 0 < timed.signaler.config.signalRetries) (output : List LanSignalerOutput) :
    Honoured { timed with signaler := { timed.signaler with
      output := output
      pending := timed.signaler.pending ++
        [⟨signal, target, 1, now + retryInterval timed.signaler.config signal⟩] } } ↔
    ∀ start duration, timed.asked = some (start, duration) →
      start + duration ≤ now + retryInterval timed.signaler.config signal := by
  constructor
  · intro after start duration last
    by_contra early
    have undue := (after start duration last).1 _ (List.mem_append_right _ List.mem_cons_self)
      (now + retryInterval timed.signaler.config signal) (Nat.lt_of_not_le early)
    simp only [isDue, gt_iff_lt, Nat.lt_irrefl, decide_false, Bool.not_false, Bool.true_and, Bool.not_eq_false',
      decide_eq_true_eq] at undue
    rw [UInt32.lt_iff_toNat_lt] at retries undue
    exact absurd retries (Nat.not_lt_of_le (Nat.le_of_lt_succ undue))
  · intro timely start duration last
    obtain ⟨pending, broadcast⟩ := honoured start duration last
    refine ⟨?_, broadcast⟩
    intro entry member time early
    rcases List.mem_append.mp member with old | new
    · exact pending entry old time early
    · rw [List.mem_singleton.mp new]
      have ahead : now + retryInterval timed.signaler.config signal > time :=
        Nat.lt_of_lt_of_le early (timely start duration last)
      simp [isDue, ahead]

theorem honoured_signal (honoured : Honoured timed) (signal : Signal) (now : Instant) :
    Honoured (timed.call crypto (.handle (.signal signal now))).1 ↔ Timely crypto timed (.handle (.signal signal now)) := by
  cases outcome : (timed.signaler.handleSignal crypto signal now).2 with
  | error e =>
    have unchanged : (timed.call crypto (.handle (.signal signal now))).1 = timed := by
      show (⟨(timed.signaler.handleSignal crypto signal now).1, timed.asked⟩ : TimedSignaler) = timed
      rw [handleSignal_error crypto outcome]
    have refused : timed.signaler.accepted crypto (.signal signal now) = [] := by
      simp only [accepted, outcome]
      split
      · rename_i fine
        cases fine
      · rfl
    rw [unchanged]
    exact ⟨fun _ accepted => absurd refused accepted, fun _ => honoured⟩
  | ok =>
    obtain ⟨target, addr, buf, parsed, -, -, after⟩ := handleSignal_ok crypto outcome
    have accepted : timed.signaler.accepted crypto (.signal signal now) ≠ [] := by
      simp [accepted, parsed, outcome]
    have next : (timed.call crypto (.handle (.signal signal now))).1 =
        { timed with signaler := (timed.signaler.handleSignal crypto signal now).1 } := rfl
    rw [next, after]
    by_cases retries : timed.signaler.config.signalRetries > 0
    · rw [if_pos retries]
      refine (honoured_accepted honoured retries _).trans ?_
      exact ⟨fun timely _ _ => timely, fun timely => timely accepted retries⟩
    · rw [if_neg retries, List.append_nil]
      exact ⟨fun _ _ retried => absurd retried retries, fun _ => honoured.unhurried rfl ⟨rfl, List.Subset.refl _, rfl⟩⟩

/-- A call keeps the wait honoured exactly when it is timely. -/
theorem honoured_call (honoured : Honoured timed) (input : LanCall) :
    Honoured (timed.call crypto input).1 ↔ Timely crypto timed input := by
  cases input with
  | poll => exact iff_of_true (honoured.unhurried rfl (unhurried_poll timed.signaler)) trivial
  | handle input =>
    cases input with
    | datagram buf addr now =>
      exact iff_of_true (honoured.unhurried rfl (unhurried_datagram crypto timed.signaler buf addr now)) trivial
    | signal signal now => exact honoured_signal honoured signal now
    | setServerData data => exact iff_of_true (honoured.unhurried rfl ⟨rfl, List.Subset.refl _, rfl⟩) trivial
    | update now => exact iff_of_true (honoured_update timed now) trivial

/-! ## Whole runs -/

/-- A driver that waits as it was last told misses no timer exactly if every signal that is accepted
behind an update, and will be retried, comes late enough. -/
theorem waits_honoured_iff (networkId : UInt64) (config : LanSignalerConfig) (calls : List LanCall) :
    Along (call crypto) (fun timed input => Honoured (timed.call crypto input).1) (new networkId config) calls ↔
      Along (call crypto) (Timely crypto) (new networkId config) calls := by
  have start : Honoured (new networkId config) := fun _ _ asked => nomatch asked
  have agree : ∀ (timed : TimedSignaler) input, Honoured timed →
      (Honoured (timed.call crypto input).1 ↔ Timely crypto timed input) :=
    fun timed input honoured => honoured_call honoured input
  have keeps : ∀ (timed : TimedSignaler) input, Honoured timed → Timely crypto timed input →
      Honoured (timed.call crypto input).1 :=
    fun timed input honoured timely => (agree timed input honoured).mpr timely
  exact along_congr (call crypto) agree keeps start calls

/-- The candidate is accepted a second behind the update that asked for fifteen seconds. -/
def hurried : TimedSignaler :=
  (run (call recordedCrypto) (new 2 {})
    [.handle (.datagram requestOfOne homeAddr 0), .handle (.update 0),
      .handle (.signal ⟨.candidate, 7, "c", "1"⟩ (Duration.fromSecs 1))]).1

/-- Half a second later it is to be sent again. -/
theorem accepted_signal_falls_due :
    hurried.asked = some (0, Duration.fromSecs 15) ∧
    ∃ entry ∈ hurried.signaler.pending, isDue hurried.signaler.config (Duration.fromMillis 1500) entry = true := by
  decide +kernel

end TimedSignaler

end Nethernet
