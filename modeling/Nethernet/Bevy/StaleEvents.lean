import Nethernet.Bevy.ClientEvents

/-! Whose session the reports come from that the LAN client records as those of
its current attempt. -/

set_option autoImplicit false

namespace Nethernet
open Foundation

namespace NetherClient
variable {host : LanHost}

/-! ## Attempts and records -/

/-- The deadline has passed and a new attempt is begun, whose session enters the pool. -/
def retries (client : NetherClient host) (now : Instant) (dial : Dial host) : Bool :=
  match client.connectingDeadline with
  | none => false
  | some deadline =>
    !(now < deadline) && (!client.answered && 0 < client.attemptsLeft) && (client.beginAttempt dial).2.isOk

/-- The call brings the session of a new attempt into the pool. -/
def begins (client : NetherClient host) : ClientCall host → Bool
  | .call (.connect target dial) => (client.connect target dial).2.isOk
  | .call (.checkDeadline now dial) => client.connected && client.retries now dial
  | _ => false

/-- The call takes the events that wait in the pool. -/
def drains (client : NetherClient host) : ClientCall host → Bool
  | .call .drivePool => client.connected
  | _ => false

/-- The client records every event but a `Ready` after the first. -/
def records (client : NetherClient host) : ConnectionEvent → Bool
  | .ready _ => !client.ready
  | .rtt _ => true
  | .message _ _ => true
  | .failed => true

/-- Where the events come from that the client records of a batch. -/
def recorded : NetherClient host → List ((Unit × ConnectionEvent) × Option Nat) → List (Option Nat)
  | _, [] => []
  | client, (event, origin) :: rest =>
    (if client.records event.2 then [origin] else []) ++ recorded (client.poolEvent event) rest

theorem mem_of_recorded {client : NetherClient host} {batch : List ((Unit × ConnectionEvent) × Option Nat)}
    {origin : Option Nat} (member : origin ∈ recorded client batch) : origin ∈ batch.map Prod.snd := by
  induction batch generalizing client with
  | nil => exact member
  | cons first rest ih =>
    rw [recorded, List.mem_append] at member
    rcases member with here | later
    · split at here
      · exact List.mem_singleton.mp here ▸ List.mem_cons_self
      · cases here
    · exact List.mem_cons_of_mem _ (ih later)

end NetherClient

/-- A client with what nobody in the program knows: which attempt is the current one, whose session the pool's
thread drives, and whose session reported each event that waits in the pool. -/
structure TracedClient (host : LanHost) where
  client : NetherClient host
  attempt : Nat
  driven : Option Nat
  origins : List (Option Nat)

namespace TracedClient
variable {host : LanHost}
open NetherClient

def start : TracedClient host := ⟨.new, 0, none, []⟩

-- only a session that the thread drives has something to report
def follow (client : NetherClient host) : ClientCall host → NetherClient host
  | .call input => client.follow (.call input)
  | .report event => if client.pool.thread.drives () then client.follow (.report event) else client

def step (traced : TracedClient host) (call : ClientCall host) : TracedClient host × Unit :=
  let after := follow traced.client call
  let begun := traced.client.begins call
  let attempt := if begun then traced.attempt + 1 else traced.attempt
  let reported := after.pool.events.length - traced.client.pool.events.length
  ({ client := after
     attempt := attempt
     driven := if after.pool.thread.drives () then if begun then some attempt else traced.driven else none
     origins := if traced.client.drains call then [] else traced.origins ++ .replicate reported traced.driven }, ())

/-- All that an update records comes from the session of the current attempt. -/
def Own (traced : TracedClient host) (call : ClientCall host) : Prop :=
  traced.client.drains call = true →
    ∀ origin ∈ recorded { traced.client with pool := traced.client.pool.drive.1 }
      (traced.client.pool.events.zip traced.origins), origin = some traced.attempt

/-- No event waits in the pool when the call brings in the session of a new attempt. -/
def Clear (traced : TracedClient host) (call : ClientCall host) : Prop :=
  traced.client.begins call = true → traced.client.pool.events = []

end TracedClient

namespace NetherClient
variable {host : LanHost}
open SessionPool

/-! ## What the calls do to the pool -/

/-- Nothing is reported and no session enters the pool. -/
structure Calm (client after : NetherClient host) : Prop where
  events : after.pool.events = client.pool.events
  driven : after.pool.thread.drives () = true → client.pool.thread.drives () = true

variable (client : NetherClient host)

theorem Calm.refl : Calm client client := ⟨rfl, id⟩

theorem Calm.trans {first second third : NetherClient host} (left : Calm first second) (right : Calm second third) :
    Calm first third :=
  ⟨right.events.trans left.events, left.driven ∘ right.driven⟩

variable {after : NetherClient host}

-- commands may be queued
theorem Calm.of_eq {client : NetherClient host} (events : after.pool.events = client.pool.events)
    (thread : after.pool.thread = client.pool.thread) : Calm client after :=
  ⟨events, fun driven => thread ▸ driven⟩

theorem calm_giveUp : Calm client client.giveUp := .of_eq rfl rfl

theorem calm_disconnect : Calm client client.disconnect := by
  have left : Calm client { client with connectingDeadline := none }.leavePool := by
    unfold leavePool
    split <;> exact .of_eq rfl rfl
  refine left.trans ?_
  unfold NetherClient.disconnect endReady
  split <;> exact .of_eq rfl rfl

theorem calm_handleOutput (output : LanSignalerOutput) (now : Instant) (wall : SystemTime) :
    Calm client (client.handleOutput output now wall).1 := by
  cases output with
  | datagram data addr => exact .refl _
  | serverDiscovered id data => exact .of_eq rfl rfl
  | wait duration => exact .refl _
  | signal signal =>
    unfold handleOutput handleSignal
    dsimp only
    split
    · exact .refl _
    · split
      · split
        · exact .refl _
        · unfold refuseAnswer
          split
          · exact .of_eq rfl rfl
          · exact .refl _
        · unfold noteAnswer
          split <;> exact .of_eq rfl rfl
      · exact .of_eq rfl rfl

/-- The session of a new attempt is in the pool: the client is not ready, and what waited still waits. -/
structure Begun (client after : NetherClient host) : Prop where
  connected : after.connected = true
  ready : after.ready = false
  events : after.pool.events = client.pool.events

/-- An attempt that cannot be begun leaves the pool as it is. -/
theorem beginAttempt_calm (dial : Dial host) :
    ((client.beginAttempt dial).2.isOk = false ∧ Calm client (client.beginAttempt dial).1) ∨
      ((client.beginAttempt dial).2.isOk = true ∧ Begun client (client.beginAttempt dial).1) := by
  unfold beginAttempt
  dsimp only
  split
  · exact .inl ⟨rfl, .of_eq rfl rfl⟩
  · unfold launch
    dsimp only
    split
    · exact .inl ⟨rfl, .of_eq rfl rfl⟩
    · refine .inr ⟨rfl, rfl, rfl, ?_⟩
      unfold enterPool
      dsimp only
      split <;> rfl

theorem pool_drivePool : client.drivePool.pool = client.pool.drive.1 := by
  unfold drivePool
  refine List.foldlRecOn (motive := fun after : NetherClient host => after.pool = client.pool.drive.1) _ _ rfl ?_
  rintro after same ⟨⟨⟩, event⟩ -
  cases event with
  | ready addr =>
    unfold poolEvent
    dsimp only
    split <;> exact same
  | message channel data => cases channel <;> exact same
  | rtt rtt => exact same
  | failed => exact same

/-- The last part of an update either begins an attempt or leaves the pool as it is. -/
theorem checkDeadline_calm (now : Instant) (dial : Dial host) :
    (client.retries now dial = false ∧ Calm client (client.checkDeadline now dial)) ∨
      (client.retries now dial = true ∧ Begun client (client.checkDeadline now dial)) := by
  cases waits : client.connectingDeadline with
  | none =>
    left
    simp only [checkDeadline, retries, waits, true_and]
    exact .refl client
  | some deadline =>
    by_cases early : now < deadline
    · left
      simp only [checkDeadline, retries, waits, early, decide_true, Bool.not_true, Bool.false_and, if_true, true_and]
      exact .refl client
    · cases again : !client.answered && decide (0 < client.attemptsLeft) with
      | false =>
        left
        simp only [checkDeadline, retries, waits, early, again, Bool.and_false, Bool.false_and, Bool.false_eq_true, if_false,
          true_and]
        exact calm_giveUp client
      | true =>
        simp only [checkDeadline, retries, waits, early, again, if_true, if_false, decide_false, Bool.not_false,
          Bool.true_and, retry]
        rcases client.beginAttempt_calm dial with ⟨failed, calm⟩ | ⟨fine, begun⟩
        · refine .inl ⟨failed, ?_⟩
          split
          · rename_i fine
            rw [fine] at failed
            cases failed
          · exact calm.trans (calm_giveUp _)
        · refine .inr ⟨fine, ?_⟩
          split
          · exact begun
          · rename_i error failed
            rw [failed] at fine
            cases fine

/-- What a call does to the pool and the flag, by whether it takes the events and begins an attempt. -/
structure Follows (client : NetherClient host) (call : ClientCall host) (after : NetherClient host) : Prop where
  begun : client.begins call = true → client.drains call = false ∧ Begun client after
  unbegun : client.begins call = false → after.pool.thread.drives () = true → client.pool.thread.drives () = true
  drained : client.drains call = true → after.pool.events = []
  undrained : client.drains call = false → ∃ reported, after.pool.events = client.pool.events ++ reported ∧
    (reported ≠ [] → client.begins call = false ∧ client.pool.thread.drives () = true)

variable {call : ClientCall host}

theorem Follows.calm {client : NetherClient host} (calm : Calm client after) (begun : client.begins call = false)
    (drained : client.drains call = false) : Follows client call after where
  begun := by simp [begun]
  unbegun _ := calm.driven
  drained := by simp [drained]
  undrained _ := ⟨[], by rw [calm.events, List.append_nil], fun some => absurd rfl some⟩

theorem Follows.begins {client : NetherClient host} (begun : Begun client after) (begins : client.begins call = true)
    (drained : client.drains call = false) : Follows client call after where
  begun _ := ⟨drained, begun⟩
  unbegun := by simp [begins]
  drained := by simp [drained]
  undrained _ := ⟨[], by rw [begun.events, List.append_nil], fun some => absurd rfl some⟩

theorem follows_drivePool : Follows client (.call .drivePool) (client.next .drivePool) := by
  cases connected : client.connected with
  | false =>
    have same : client.next .drivePool = client := by simp [next, connected]
    rw [same]
    exact .calm (.refl client) rfl connected
  | true =>
    have becomes : client.next .drivePool = client.drivePool := by simp [next, connected]
    have drains : client.drains (.call .drivePool) = true := connected
    rw [becomes]
    refine ⟨by simp [begins], fun _ driven => ?_, fun _ => by rw [pool_drivePool]; rfl, by simp [drains]⟩
    rw [pool_drivePool] at driven
    exact driven

theorem follows_checkDeadline (now : Instant) (dial : Dial host) :
    Follows client (.call (.checkDeadline now dial)) (client.next (.checkDeadline now dial)) := by
  cases connected : client.connected with
  | false =>
    have same : client.next (.checkDeadline now dial) = client := by simp [next, connected]
    rw [same]
    exact .calm (.refl client) (by simp [NetherClient.begins, connected]) rfl
  | true =>
    have becomes : client.next (.checkDeadline now dial) = client.checkDeadline now dial := by simp [next, connected]
    have retried : client.begins (.call (.checkDeadline now dial)) = client.retries now dial := by
      simp [NetherClient.begins, connected]
    rw [becomes]
    rcases client.checkDeadline_calm now dial with ⟨no, calm⟩ | ⟨yes, begun⟩
    · exact .calm calm (retried.trans no) rfl
    · exact .begins begun (retried.trans yes) rfl

theorem follows_connect (target : UInt64) (dial : Dial host) :
    Follows client (.call (.connect target dial)) (client.connect target dial).1 := by
  have aimed : Calm client { client with target := target, attemptsLeft := max client.attempts 1 } := .of_eq rfl rfl
  rcases beginAttempt_calm { client with target := target, attemptsLeft := max client.attempts 1 } dial with
    ⟨no, calm⟩ | ⟨yes, begun⟩
  · exact .calm (aimed.trans calm) no rfl
  · exact .begins ⟨begun.connected, begun.ready, begun.events⟩ yes rfl

theorem follows_next (settled : Settled client) (input : NetherClientInput host) :
    Follows client (.call input) (client.next input) := by
  cases input with
  | connect target dial => exact follows_connect client target dial
  | drivePool => exact follows_drivePool client
  | checkDeadline now dial => exact follows_checkDeadline client now dial
  | disconnect => exact .calm (calm_disconnect client) rfl rfl
  | send channel data =>
    refine .calm ?_ rfl rfl
    simp only [next, sendOn]
    split
    · exact .of_eq rfl rfl
    · exact .refl client
  | output output now wall => exact .calm (calm_handleOutput client output now wall) rfl rfl
  | poolReceive source datagram now =>
    exact .calm ⟨rfl, fun driven => (PoolThread.drives_receive ..).symm.trans driven⟩ rfl rfl
  | poolCommands now =>
    refine .calm ⟨rfl, fun driven => ?_⟩ rfl rfl
    exact PoolCommand.driven_of_drivesAfter settled.noAdd ((PoolThread.drives_commands ..).symm.trans driven)
  | poolRound now order =>
    exact ⟨by simp [NetherClient.begins], fun _ => PoolThread.drives_of_round _ (), by simp [drains],
      fun _ => ⟨_, rfl, fun reported => ⟨rfl, PoolThread.drives_of_reported _ now order reported⟩⟩⟩
  | setIdentity | setServerTrust | setTimeouts | setAttempts | recv | recvUnreliable | nextEvent =>
    exact .calm (.of_eq rfl rfl) rfl rfl

end NetherClient

namespace TracedClient
variable {host : LanHost}
open NetherClient

theorem follows (client : NetherClient host) (settled : Settled client) (call : ClientCall host) :
    Follows client call (follow client call) := by
  cases call with
  | call input => exact follows_next client settled input
  | report event =>
    unfold follow
    dsimp only
    split
    · rename_i driven
      exact ⟨by simp [begins], fun _ still => still, by simp [drains], fun _ => ⟨[((), event)], rfl, fun _ => ⟨rfl, driven⟩⟩⟩
    · exact .calm (.refl client) rfl rfl

theorem settled_follow {client : NetherClient host} (settled : Settled client) (call : ClientCall host) :
    Settled (follow client call) := by
  cases call with
  | call input => exact ((Alike.refl settled).next input).left
  | report event =>
    unfold follow
    dsimp only
    split
    · exact ⟨settled.bound, settled.noAdd⟩
    · exact settled

/-! ## Where the waiting events come from -/

/-- The thread drives the session of the current attempt or none, and no event waits that comes from a later one. -/
structure Sound (traced : TracedClient host) : Prop where
  settled : Settled traced.client
  matched : traced.origins.length = traced.client.pool.events.length
  driven : traced.client.pool.thread.drives () = true → traced.driven = some traced.attempt
  begun : ∀ origin ∈ traced.origins, ∃ number ≤ traced.attempt, origin = some number

/-- All that waits comes from the session of the current attempt. -/
def Fresh (traced : TracedClient host) : Prop := ∀ origin ∈ traced.origins, origin = some traced.attempt

theorem sound_start : Sound (start : TracedClient host) where
  settled := settled_new
  matched := rfl
  driven := nofun
  begun := nofun

section
variable {traced : TracedClient host} {call : ClientCall host}

theorem origins_of_drains (drains : traced.client.drains call = true) : (step traced call).1.origins = [] := by
  simp only [step, drains, if_true]

/-- A call that begins an attempt leaves what waits to the new attempt. -/
theorem step_of_begins (sound : Sound traced) (begins : traced.client.begins call = true) :
    (step traced call).1.attempt = traced.attempt + 1 ∧ (step traced call).1.origins = traced.origins ∧
      Begun traced.client (step traced call).1.client := by
  obtain ⟨keeps, begun⟩ := (follows traced.client sound.settled call).begun begins
  have same : (follow traced.client call).pool.events = traced.client.pool.events := begun.events
  simp only [step, begins, keeps, same, if_true, Bool.false_eq_true, if_false, Nat.sub_self, List.replicate_zero,
    List.append_nil]
  exact ⟨trivial, trivial, begun⟩

/-- What waits waited before, or comes from the current attempt; a call that begins another adds nothing. -/
theorem origin_cases (sound : Sound traced) {origin : Option Nat} (member : origin ∈ (step traced call).1.origins) :
    (traced.client.begins call = true ∧ origin ∈ traced.origins) ∨
      ((step traced call).1.attempt = traced.attempt ∧ (origin ∈ traced.origins ∨ origin = some traced.attempt)) := by
  cases begins : traced.client.begins call with
  | true => exact .inl ⟨rfl, (step_of_begins sound begins).2.1 ▸ member⟩
  | false =>
    refine .inr ⟨by simp [step, begins], ?_⟩
    cases drains : traced.client.drains call with
    | true =>
      rw [origins_of_drains drains] at member
      cases member
    | false =>
      obtain ⟨reported, events, driven⟩ := (follows traced.client sound.settled call).undrained drains
      have added : (step traced call).1.origins = traced.origins ++ .replicate reported.length (some traced.attempt) := by
        simp only [step, drains, events, Bool.false_eq_true, if_false, List.length_append, Nat.add_sub_cancel_left]
        cases reported with
        | nil => rfl
        | cons event rest => rw [sound.driven (driven (List.cons_ne_nil event rest)).2]
      rw [added, List.mem_append] at member
      exact member.imp_right List.eq_of_mem_replicate

theorem sound_step (traced : TracedClient host) (call : ClientCall host) (sound : Sound traced) :
    Sound (step traced call).1 := by
  have follows := follows traced.client sound.settled call
  constructor
  case settled => exact settled_follow sound.settled call
  case matched =>
    cases drains : traced.client.drains call with
    | true =>
      have empty : (step traced call).1.client.pool.events = [] := follows.drained drains
      rw [origins_of_drains drains, empty]
      rfl
    | false =>
      obtain ⟨reported, events, -⟩ := follows.undrained drains
      simp [step, drains, events, sound.matched]
  case driven =>
    intro driven
    have driven : (follow traced.client call).pool.thread.drives () = true := driven
    simp only [step, driven, if_true]
    split
    · rfl
    · rename_i unbegun
      exact sound.driven (follows.unbegun (Bool.eq_false_iff.mpr unbegun) driven)
  case begun =>
    intro origin member
    rcases origin_cases sound member with ⟨begins, old⟩ | ⟨attempt, old | new⟩
    · obtain ⟨attempt, -⟩ := step_of_begins sound begins
      obtain ⟨number, le, rfl⟩ := sound.begun origin old
      exact ⟨number, by omega, rfl⟩
    · exact attempt ▸ sound.begun origin old
    · exact ⟨_, Nat.le_refl _, attempt ▸ new⟩

theorem Fresh.step (fresh : Fresh traced) (sound : Sound traced) (clear : traced.Clear call) :
    Fresh (step traced call).1 := by
  intro origin member
  rcases origin_cases sound member with ⟨begins, old⟩ | ⟨attempt, old | new⟩
  · have none : traced.origins = [] := by
      rw [← List.length_eq_zero_iff, sound.matched, clear begins]
      rfl
    rw [none] at old
    cases old
  · exact attempt ▸ fresh origin old
  · exact attempt ▸ new

theorem Fresh.own (fresh : Fresh traced) (sound : Sound traced) : traced.Own call := by
  intro _ origin member
  apply fresh
  have listed := mem_of_recorded member
  rwa [List.map_snd_zip (by rw [sound.matched])] at listed

/-- The first event that waits when an attempt is begun is recorded by its first update. -/
theorem own_iff_clear (sound : Sound traced) (begins : traced.client.begins call = true) :
    (step traced call).1.Own (.call .drivePool) ↔ traced.Clear call := by
  obtain ⟨attempt, same, begun⟩ := step_of_begins sound begins
  have later := sound_step traced call sound
  constructor
  · intro own _
    cases queued : traced.client.pool.events with
    | nil => rfl
    | cons event events =>
      have seen : records { (step traced call).1.client with pool := (step traced call).1.client.pool.drive.1 } event.2 = true := by
        cases kind : event.2 <;> simp [records, begun.ready]
      cases origins : traced.origins with
      | nil =>
        have matched := sound.matched
        rw [origins, queued] at matched
        cases matched
      | cons origin rest =>
        have mine : origin = some (step traced call).1.attempt := by
          apply own begun.connected
          rw [begun.events, queued, same, origins, List.zip_cons_cons, recorded, seen]
          exact List.mem_append_left _ (List.mem_singleton_self origin)
        obtain ⟨number, le, rfl⟩ := sound.begun origin (origins ▸ List.mem_cons_self)
        rw [attempt, Option.some.injEq] at mine
        omega
  · intro clear
    have none : traced.origins = [] := by
      rw [← List.length_eq_zero_iff, sound.matched, clear begins]
      rfl
    have fresh : Fresh (step traced call).1 := by
      intro origin member
      rw [same, none] at member
      cases member
    exact fresh.own later

end

/-- All that the updates of a run record comes from the session of the attempt that is current then, if no event
waits in the pool whenever an attempt adds its session. If one does, the first update of the attempt records it. -/
theorem records_own (calls : List (ClientCall host)) :
    (Along step Clear start calls → Along step Own start calls) ∧
    ∀ call, (run step start calls).1.client.begins call = true →
      ((step (run step start calls).1 call).1.Own (.call .drivePool) ↔ (run step start calls).1.Clear call) := by
  constructor
  · intro clear
    suffices stated : ∀ traced : TracedClient host, Sound traced → Fresh traced → Along step Clear traced calls →
        Along step Own traced calls from stated start sound_start nofun clear
    clear clear
    intro traced sound fresh clear
    induction calls generalizing traced with
    | nil => trivial
    | cons call rest ih =>
      obtain ⟨first, later⟩ := clear
      exact ⟨fresh.own sound, ih _ (sound_step traced call sound) (fresh.step sound first) later⟩
  · intro call begins
    exact own_iff_clear (run_invariant step sound_step sound_start calls) begins

/-! ## A failure of the session before -/

-- stacks whose paths fail as soon as they are looked at
def lossyHost : LanHost where
  crates := quietCrates
  identityCrates := lastExpCrates
  rtc := { Session.quietRtc with agentEvents := fun _ => ((), [.connectionStateChange .failed]) }
  writer := ⟨fun _ => "v=0", fun _ _ => "v=0", fun _ => "1 1 udp 1 127.0.0.1 8 typ host", fun _ => [()]⟩
  stunUsername _ := none
  ServerIdentity := Unit
  augment _ sdp _ := .ok sdp

def lossyDial (connectionId : UInt64) : Dial lossyHost where
  created := .ok (.new (.v4 0x7f000001 8) true () (), ⟨⟨"u", "p"⟩, .auto, ("sha-256", ""), 65536, none⟩)
  connectionId := connectionId
  now := 0
  wall := .unixEpoch

/-- A session fails in the pool, and before the next update the game leaves it and dials again. -/
def redial : List (ClientCall lossyHost) :=
  [.call (.connect 7 (lossyDial 1)), .call (.poolRound 0 .inOrder), .call .disconnect, .call (.connect 7 (lossyDial 2))]

/-- A session fails in the pool while an update is between the events and the deadline, which has passed. -/
def lateFailure : List (ClientCall lossyHost) :=
  [.call (.connect 7 (lossyDial 1)), .call .drivePool, .call (.poolRound 0 .inOrder),
    .call (.checkDeadline ({} : Timeouts).negotiation (lossyDial 2))]

/-- The next update takes the failure of the first session for one of the second, which the thread goes on driving. -/
def Misrecords (traced : TracedClient lossyHost) : Prop :=
  let after := (step traced (.call .drivePool)).1
  (traced.attempt = 2 ∧ traced.driven = some 2 ∧ traced.client.connected = true ∧
    traced.client.pool.events = [((), .failed)] ∧ traced.origins = [some 1]) ∧
  (after.client.events.items = [.disconnected] ∧ after.client.connected = false ∧ after.driven = some 2) ∧
  ¬traced.Own (.call .drivePool)

theorem misrecords_of {traced : TracedClient lossyHost}
    (before : traced.attempt = 2 ∧ traced.driven = some 2 ∧ traced.client.connected = true ∧
      traced.client.pool.events = [((), .failed)] ∧ traced.origins = [some 1])
    (after : let after := (step traced (.call .drivePool)).1
      after.client.events.items = [.disconnected] ∧ after.client.connected = false ∧ after.driven = some 2) :
    Misrecords traced := by
  refine ⟨before, after, fun own => ?_⟩
  obtain ⟨attempt, -, connected, events, origins⟩ := before
  have mine := own connected (some 1)
  rw [events, origins, attempt] at mine
  exact absurd (mine List.mem_cons_self) (by decide)

theorem old_failure_recorded : Misrecords (run step start redial).1 ∧ Misrecords (run step start lateFailure).1 :=
  ⟨misrecords_of (by decide +kernel) (by decide +kernel), misrecords_of (by decide +kernel) (by decide +kernel)⟩

end TracedClient

end Nethernet
