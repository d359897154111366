import Nethernet.Bevy.ForeignSignals

/-! Whether the LAN client's connected flag agrees with the events it has pushed. -/

set_option autoImplicit false

namespace Nethernet
open Foundation

/-- What happens at the client, as the game sees it: its own dials and the client's events. -/
inductive ClientMark where
  | connect
  | event (event : NetherClientEvent)
  deriving DecidableEq

namespace ClientMark

/-- Each connection is followed by at most one disconnection before the next dial. -/
def Once (marks : List ClientMark) : Prop :=
  ∀ before between after, marks = before ++ .event .connected :: (between ++ after) → .connect ∉ between →
    between.count (.event .disconnected) ≤ 1

-- the disconnections since the first connection after the last dial, if there was one
def spend : Option Nat → ClientMark → Option Nat
  | _, .connect => none
  | none, .event .connected => some 0
  | none, .event _ => none
  | some count, .event .disconnected => some (count + 1)
  | some count, .event _ => some count

def spent (marks : List ClientMark) : Option Nat := marks.foldl spend none

theorem spent_append (marks : List ClientMark) (mark : ClientMark) : spent (marks ++ [mark]) = spend (spent marks) mark := by
  simp [spent]

theorem spent_of_connected (start : Option Nat) (between : List ClientMark) (same : .connect ∉ between) {count : Nat}
    (connected : start = some count) :
    ∃ total, between.foldl spend start = some total ∧ count + between.count (.event .disconnected) ≤ total := by
  induction between generalizing start count with
  | nil => exact ⟨count, connected, by simp⟩
  | cons mark rest ih =>
    obtain ⟨dial, later⟩ := not_or.mp (List.mem_cons.not.mp same)
    subst connected
    cases mark with
    | connect => exact absurd rfl dial
    | event event =>
      cases event with
      | disconnected =>
        obtain ⟨total, folded, bound⟩ := ih _ later rfl
        refine ⟨total, folded, ?_⟩
        rw [List.count_cons_self]
        omega
      | connected =>
        obtain ⟨total, folded, bound⟩ := ih _ later rfl
        refine ⟨total, folded, ?_⟩
        rw [List.count_cons_of_ne (by simp)]
        exact bound
      | serverDiscovered networkId data =>
        obtain ⟨total, folded, bound⟩ := ih _ later rfl
        refine ⟨total, folded, ?_⟩
        rw [List.count_cons_of_ne (by simp)]
        exact bound

theorem Once.append {marks : List ClientMark} (once : Once marks) {mark : ClientMark}
    (bounded : ∀ count, spend (spent marks) mark = some count → count ≤ 1) : Once (marks ++ [mark]) := by
  intro before between after split same
  rcases List.eq_nil_or_concat after with rfl | ⟨init, last, rfl⟩
  · -- the stretch reaches to the end
    rw [List.append_nil] at split
    obtain ⟨start, opened⟩ : ∃ start, spend (spent before) (.event .connected) = some start := by
      cases spent before <;> simp [spend]
    obtain ⟨total, folded, bound⟩ := spent_of_connected _ between same opened
    have whole : spend (spent marks) mark = some total := by
      rw [← spent_append, split, spent, List.foldl_append, List.foldl_cons]
      exact folded
    have := bounded total whole
    omega
  · have shorter : marks = before ++ .event .connected :: (between ++ init) := by
      have ends : marks ++ [mark] = (before ++ .event .connected :: (between ++ init)) ++ [last] := by
        simpa using split
      exact (List.append_inj' ends rfl).1
    exact once before between init shorter same

theorem once_nil : Once [] := by
  intro before between after split
  simp at split

end ClientMark

namespace NetherClient
variable {host : LanHost}

def isLink : NetherClientEvent → Bool
  | .serverDiscovered _ _ => false
  | .connected | .disconnected => true

/-- The latest connection or disconnection. -/
def lastLink (events : List NetherClientEvent) : Option NetherClientEvent := (events.filter isLink).getLast?

@[simp] theorem lastLink_connected (events : List NetherClientEvent) : lastLink (events ++ [.connected]) = some .connected := by
  simp [lastLink, isLink]

@[simp] theorem lastLink_disconnected (events : List NetherClientEvent) :
    lastLink (events ++ [.disconnected]) = some .disconnected := by
  simp [lastLink, isLink]

@[simp] theorem lastLink_discovered (events : List NetherClientEvent) (networkId : UInt64) (data : ServerData) :
    lastLink (events ++ [.serverDiscovered networkId data]) = lastLink events := by
  simp [lastLink, isLink]

/-! ## Calls -/

end NetherClient

/-- The calls and steps of the client, and any event that the pool may report. -/
inductive ClientCall (host : LanHost) where
  | call (input : NetherClientInput host)
  | report (event : ConnectionEvent)

/-- A client with everything that has happened at it. -/
structure ToldClient (host : LanHost) where
  client : NetherClient host
  marks : List ClientMark

namespace NetherClient
variable {host : LanHost}

def follow (client : NetherClient host) : ClientCall host → NetherClient host
  | .call input => client.next input
  | .report event => client.onPool fun pool => { pool with events := pool.events ++ [((), event)] }

def dials : ClientCall host → List ClientMark
  | .call (.connect _ _) => [.connect]
  | _ => []

end NetherClient

namespace ToldClient
variable {host : LanHost}
open ClientMark NetherClient

def start : ToldClient host := ⟨.new, []⟩

-- events are only ever pushed behind the others
def step (told : ToldClient host) (call : ClientCall host) : ToldClient host × Unit :=
  let after := told.client.follow call
  (⟨after, told.marks ++ dials call ++ (after.events.items.drop told.client.events.items.length).map .event⟩, ())

/-- The flag is up exactly if the latest link event is a connection, it is up only with a session to send on,
and no connection ends twice. -/
structure Matches (told : ToldClient host) : Prop where
  linked : told.client.ready = true ↔ lastLink told.client.events.items = some .connected
  held : told.client.ready = true → told.client.connected = true
  once : Once told.marks

/-- The client is not told to connect while it is connected. -/
def Polite (told : ToldClient host) (call : ClientCall host) : Prop :=
  ∀ target dial, call = .call (.connect target dial) → told.client.ready = false

/-- An update finds a failure among the pool's events while the client is connected, or with a `Ready` in the
same batch. -/
def Spoils (told : ToldClient host) : ClientCall host → Prop
  | .call .drivePool => told.client.connected = true ∧ ((), .failed) ∈ told.client.pool.events ∧
      (told.client.ready = true ∨ ∃ addr, ((), .ready addr) ∈ told.client.pool.events)
  | _ => False

end ToldClient

variable {batch : List (Unit × ConnectionEvent)}

namespace NetherClient
variable {host : LanHost}
open ClientMark

/-! ## What the flags say of the past -/

structure Fits (marks : List ClientMark) (client : NetherClient host) : Prop where
  linked : client.ready = true ↔ lastLink client.events.items = some .connected
  held : client.ready = true → client.connected = true
  settled : client.ready = true → client.connectingDeadline = none
  opened : client.ready = true → spent marks = some 0
  unopened : client.ready = false → client.connected = true → spent marks = none
  once : Once marks
  bounded : ∀ count, spent marks = some count → count ≤ 1

theorem fits_new : Fits [] (new : NetherClient host) where
  linked := by simp [new, Feed.empty, Feed.items, lastLink]
  held := nofun
  settled := nofun
  opened := nofun
  unopened := fun _ _ => rfl
  once := once_nil
  bounded := nofun

section
variable {marks : List ClientMark} {client after : NetherClient host}

/-- Nothing is pushed and the flag stays. -/
theorem Fits.quiet (fits : Fits marks client) (ready : after.ready = client.ready)
    (events : after.events.items = client.events.items) (connected : after.connected = client.connected)
    (deadline : client.ready = true → after.connectingDeadline = none) : Fits marks after where
  linked := by rw [ready, events]; exact fits.linked
  held := by rw [ready, connected]; exact fits.held
  settled := by rw [ready]; exact deadline
  opened := by rw [ready]; exact fits.opened
  unopened := by rw [ready, connected]; exact fits.unopened
  once := fits.once
  bounded := fits.bounded

/-- A server is found. -/
theorem Fits.discover (fits : Fits marks client) (networkId : UInt64) (data : ServerData) :
    Fits (marks ++ [.event (.serverDiscovered networkId data)]) (client.emit (.serverDiscovered networkId data)) := by
  have same : spent (marks ++ [.event (.serverDiscovered networkId data)]) = spent marks := by
    rw [spent_append]
    cases spent marks <;> rfl
  refine ⟨?_, fits.held, fits.settled, ?_, ?_, fits.once.append ?_, ?_⟩
  · show client.ready = true ↔ lastLink (client.events.push _).items = _
    rw [Feed.items_push, lastLink_discovered]
    exact fits.linked
  · rw [same]
    exact fits.opened
  · rw [same]
    exact fits.unopened
  · rw [← spent_append, same]
    exact fits.bounded
  · rw [same]
    exact fits.bounded

/-- The first `Ready` of a session. -/
theorem Fits.open (fits : Fits marks client) (unopened : spent marks = none) (connected : after.connected = true)
    (ready : after.ready = true) (deadline : after.connectingDeadline = none)
    (events : after.events.items = client.events.items ++ [.connected]) : Fits (marks ++ [.event .connected]) after := by
  have first : spent (marks ++ [.event .connected]) = some 0 := by
    rw [spent_append, unopened]
    rfl
  refine ⟨?_, fun _ => connected, fun _ => deadline, fun _ => first, ?_, fits.once.append ?_, ?_⟩
  · rw [events, lastLink_connected, ready]
    simp
  · simp [ready]
  · rw [← spent_append, first]
    simp
  · rw [first]
    simp

/-- A link or a dial ends. -/
theorem Fits.close (fits : Fits marks client) (unspent : ∀ count, spent marks = some count → count = 0)
    (ready : after.ready = false) (connected : after.connected = true → spent marks = none)
    (events : after.events.items = client.events.items ++ [.disconnected]) :
    Fits (marks ++ [.event .disconnected]) after := by
  have next : ∀ count, spent (marks ++ [.event .disconnected]) = some count → count ≤ 1 := by
    intro count total
    rw [spent_append] at total
    cases before : spent marks with
    | none =>
      rw [before] at total
      cases total
    | some earlier =>
      rw [before, unspent earlier before] at total
      cases total
      exact Nat.le_refl 1
  refine ⟨?_, ?_, ?_, ?_, ?_, fits.once.append ?_, next⟩
  · rw [events, lastLink_disconnected, ready]
    simp
  · simp [ready]
  · simp [ready]
  · simp [ready]
  · intro _ still
    rw [spent_append, connected still]
    rfl
  · rw [← spent_append]
    exact next

/-- A session enters the pool while none is connected. -/
theorem Fits.enter (fits : Fits marks client) (down : client.ready = false) (unopened : spent marks = none)
    (connection : Connection host.rtc) (localUfrag : String) (now : Instant) :
    Fits marks (client.enterPool connection localUfrag now) where
  linked := by
    rw [← show client.events.items = (client.enterPool connection localUfrag now).events.items from rfl, ← fits.linked, down]
    rfl
  held := nofun
  settled := nofun
  opened := nofun
  unopened := fun _ _ => unopened
  once := fits.once
  bounded := fits.bounded

/-- The game dials. -/
theorem Fits.dial (fits : Fits marks client) (down : client.ready = false) : Fits (marks ++ [.connect]) client where
  linked := fits.linked
  held := fits.held
  settled := fits.settled
  opened := by simp [down]
  unopened := fun _ _ => by rw [spent_append]; rfl
  once := fits.once.append (by simp [spend])
  bounded := by rw [spent_append]; simp [spend]

end

/-! ## What the calls push -/

/-- The client goes on to `after`, and what it pushes brings the past to where `good` holds. -/
def Goes (good : List ClientMark → NetherClient host → Prop) (marks : List ClientMark) (client after : NetherClient host) :
    Prop :=
  ∃ pushed, after.events.items = client.events.items ++ pushed ∧ good (marks ++ pushed.map .event) after

section
variable {good later : List ClientMark → NetherClient host → Prop} {marks : List ClientMark}
  {client middle after : NetherClient host}

theorem Goes.silent (holds : good marks after) (events : after.events.items = client.events.items) :
    Goes good marks client after :=
  ⟨[], by rw [events, List.append_nil], by rwa [List.map_nil, List.append_nil]⟩

theorem Goes.one {event : NetherClientEvent} (events : after.events.items = client.events.items ++ [event])
    (holds : good (marks ++ [.event event]) after) : Goes good marks client after :=
  ⟨[event], events, holds⟩

theorem Goes.trans (first : Goes good marks client middle)
    (next : ∀ marks, good marks middle → Goes later marks middle after) : Goes later marks client after := by
  obtain ⟨pushed, events, holds⟩ := first
  obtain ⟨more, events', holds'⟩ := next _ holds
  refine ⟨pushed ++ more, by rw [events', events, List.append_assoc], ?_⟩
  rwa [List.map_append, ← List.append_assoc]

theorem Goes.events (holds : good marks client)
    (each : ∀ event ∈ batch, ∀ marks client, good marks client → Goes good marks client (client.poolEvent event)) :
    Goes good marks client (batch.foldl poolEvent client) := by
  induction batch generalizing marks client with
  | nil => exact .silent holds rfl
  | cons event rest ih =>
    obtain ⟨first, others⟩ := List.forall_mem_cons.mp each
    exact (first marks client holds).trans fun marks holds => ih holds others

end

/-- A session is in the pool, as far as the client knows. -/
def Held (marks : List ClientMark) (client : NetherClient host) : Prop := Fits marks client ∧ client.connected = true

/-- The client has not been connected since the last dial. -/
def Dialing (marks : List ClientMark) (client : NetherClient host) : Prop :=
  Fits marks client ∧ client.ready = false ∧ spent marks = none

variable {after : NetherClient host}

section
variable {marks : List ClientMark} {client : NetherClient host}

theorem Held.event (held : Held marks client) {event : Unit × ConnectionEvent} (fine : event ≠ ((), .failed)) :
    Goes Held marks client (client.poolEvent event) := by
  obtain ⟨fits, connected⟩ := held
  obtain ⟨⟨⟩, event⟩ := event
  cases event with
  | ready addr =>
    cases ready : client.ready with
    | true =>
      simp only [poolEvent, ready, if_true]
      exact .silent ⟨fits, connected⟩ rfl
    | false =>
      simp only [poolEvent, ready, Bool.false_eq_true, if_false]
      refine .one (Feed.items_push ..) ⟨fits.open (fits.unopened ready connected) connected rfl rfl ?_, connected⟩
      exact Feed.items_push ..
  | rtt rtt => exact .silent ⟨fits.quiet rfl rfl rfl fits.settled, connected⟩ rfl
  | message channel data =>
    cases channel with
    | reliable => exact .silent ⟨fits.quiet rfl rfl rfl fits.settled, connected⟩ rfl
    | unreliable => exact .silent ⟨fits.quiet rfl rfl rfl fits.settled, connected⟩ rfl
  | failed => exact absurd rfl fine

theorem Dialing.closed (dialing : Dialing marks client) (ready : after.ready = client.ready)
    (events : after.events.items = client.events.items ++ [.disconnected]) : Goes Dialing marks client after := by
  obtain ⟨fits, down, unopened⟩ := dialing
  have ended : Fits (marks ++ [.event .disconnected]) after :=
    fits.close (by simp [unopened]) (ready.trans down) (fun _ => unopened) events
  refine .one events ⟨ended, ready.trans down, ?_⟩
  rw [spent_append, unopened]
  rfl

theorem Dialing.event (dialing : Dialing marks client) {event : Unit × ConnectionEvent}
    (fine : ∀ addr, event ≠ ((), .ready addr)) : Goes Dialing marks client (client.poolEvent event) := by
  obtain ⟨⟨⟩, event⟩ := event
  obtain ⟨fits, down, unopened⟩ := dialing
  cases event with
  | ready addr => exact absurd rfl (fine addr)
  | rtt rtt => exact .silent ⟨fits.quiet rfl rfl rfl fits.settled, down, unopened⟩ rfl
  | message channel data =>
    cases channel with
    | reliable => exact .silent ⟨fits.quiet rfl rfl rfl fits.settled, down, unopened⟩ rfl
    | unreliable => exact .silent ⟨fits.quiet rfl rfl rfl fits.settled, down, unopened⟩ rfl
  | failed => exact Dialing.closed ⟨fits, down, unopened⟩ rfl (Feed.items_push ..)

theorem Dialing.giveUp (dialing : Dialing marks client) : Goes Dialing marks client client.giveUp :=
  dialing.closed rfl (Feed.items_push ..)

-- dialing pushes nothing
theorem Dialing.beginAttempt (dialing : Dialing marks client) (dial : Dial host) :
    Dialing marks (client.beginAttempt dial).1 ∧ (client.beginAttempt dial).1.events = client.events := by
  obtain ⟨fits, down, unopened⟩ := dialing
  have still : Fits marks client.spendAttempt := fits.quiet rfl rfl rfl fits.settled
  unfold NetherClient.beginAttempt
  dsimp only
  split
  · exact ⟨⟨still, down, unopened⟩, rfl⟩
  · unfold NetherClient.launch
    dsimp only
    split
    · exact ⟨⟨still.quiet rfl rfl rfl still.settled, down, unopened⟩, rfl⟩
    · have given : ∀ sent, Fits marks (client.spendAttempt.give sent) := fun sent => still.quiet rfl rfl rfl still.settled
      exact ⟨⟨(given _).enter down unopened _ _ _, rfl, unopened⟩, rfl⟩

theorem Dialing.checkDeadline (dialing : Dialing marks client) (now : Instant) (dial : Dial host) :
    Goes Dialing marks client (client.checkDeadline now dial) := by
  unfold NetherClient.checkDeadline
  split
  · exact .silent dialing rfl
  · split
    · exact .silent dialing rfl
    · split
      · unfold NetherClient.retry
        obtain ⟨next, events⟩ := dialing.beginAttempt dial
        dsimp only
        split
        · exact .silent next (by rw [events])
        · exact (Goes.silent next (by rw [events])).trans fun _ holds => Dialing.giveUp holds
      · exact dialing.giveUp

theorem Goes.fits {good : List ClientMark → NetherClient host → Prop} (goes : Goes good marks client after)
    (each : ∀ marks, good marks after → Fits marks after) : Goes Fits marks client after :=
  goes.trans fun marks holds => .silent (each marks holds) rfl

theorem Fits.drained (fits : Fits marks client) : Fits marks { client with pool := client.pool.drive.1 } :=
  fits.quiet rfl rfl rfl fits.settled

/-- The events of a batch that does not spoil the flag. -/
theorem Fits.drivePool (fits : Fits marks client) (connected : client.connected = true)
    (careful : ((), .failed) ∈ client.pool.events →
      client.ready = false ∧ ∀ addr, ((), .ready addr) ∉ client.pool.events) :
    Goes Fits marks client client.drivePool := by
  by_cases failed : ((), ConnectionEvent.failed) ∈ client.pool.events
  · obtain ⟨down, unready⟩ := careful failed
    have dialing : Dialing marks { client with pool := client.pool.drive.1 } :=
      ⟨fits.drained, down, fits.unopened down connected⟩
    have batch : Goes Dialing marks client client.drivePool :=
      Goes.events dialing fun event member _ _ holds => holds.event fun addr same => unready addr (same ▸ member)
    exact batch.fits fun _ holds => holds.1
  · have held : Held marks { client with pool := client.pool.drive.1 } := ⟨fits.drained, connected⟩
    have batch : Goes Held marks client client.drivePool :=
      Goes.events held fun event member _ _ holds => holds.event fun same => failed (same ▸ member)
    exact batch.fits fun _ holds => holds.1

theorem Fits.dialing (fits : Fits marks client) (connected : client.connected = true)
    (waits : client.connectingDeadline.isSome = true) : Dialing marks client := by
  have down : client.ready = false := by
    cases up : client.ready with
    | false => rfl
    | true => simp [fits.settled up] at waits
  exact ⟨fits, down, fits.unopened down connected⟩

-- a client that waits for an answer is not connected yet
theorem Fits.checkDeadline (fits : Fits marks client) (connected : client.connected = true) (now : Instant) (dial : Dial host) :
    Goes Fits marks client (client.checkDeadline now dial) := by
  cases waits : client.connectingDeadline with
  | none =>
    rw [NetherClient.checkDeadline, waits]
    exact .silent fits rfl
  | some deadline =>
    have dialing := fits.dialing connected (by rw [waits]; rfl)
    exact (dialing.checkDeadline now dial).fits fun _ holds => holds.1

theorem Fits.handleSignal (fits : Fits marks client) (signal : Signal) (now : Instant) (wall : SystemTime) :
    Goes Fits marks client (client.handleSignal signal now wall).1 := by
  unfold NetherClient.handleSignal
  split
  · exact .silent fits rfl
  · rename_i passed
    simp only [Bool.or_eq_true, decide_eq_true_eq, Bool.not_eq_true', not_or, Bool.not_eq_false] at passed
    split
    · split
      · exact .silent fits rfl
      · unfold refuseAnswer
        split
        · rename_i waits
          simp only [Bool.and_eq_true] at waits
          have given : Fits marks (client.give
              [.errorSignal signal.connectionId .failedToSetRemoteDescription (toString client.target)]) :=
            fits.quiet rfl rfl rfl fits.settled
          exact (given.dialing passed.2 waits.2).giveUp.fits fun _ holds => holds.1
        · exact .silent fits rfl
      · unfold noteAnswer
        split
        · rename_i waits
          simp only [Bool.and_eq_true] at waits
          have down := (fits.dialing passed.2 waits.2).2.1
          exact .silent (fits.quiet rfl rfl rfl fun up => by simp [down] at up) rfl
        · exact .silent (fits.quiet rfl rfl rfl fits.settled) rfl
    · exact .silent (fits.quiet rfl rfl rfl fits.settled) rfl

theorem Fits.disconnect (fits : Fits marks client) : Goes Fits marks client client.disconnect := by
  cases ready : client.ready with
  | true =>
    have connected := fits.held ready
    have left : client.disconnect = { client with
        connectingDeadline := none, pool := client.pool.push (.remove ()), connected := false, ready := false,
        remoteAddr := none, rtt := none }.emit .disconnected := by
      simp [NetherClient.disconnect, leavePool, endReady, connected, ready]
    rw [left]
    refine .one (Feed.items_push ..) (fits.close ?_ rfl (by simp [emit]) (Feed.items_push ..))
    simp [fits.opened ready]
  | false =>
    have events : client.disconnect.events = client.events := by
      cases connected : client.connected <;>
        simp [NetherClient.disconnect, leavePool, endReady, connected, ready]
    have down : client.disconnect.ready = false := by
      cases connected : client.connected <;>
        simp [NetherClient.disconnect, leavePool, endReady, connected, ready]
    have gone : client.disconnect.connected = false := by
      cases connected : client.connected <;>
        simp [NetherClient.disconnect, leavePool, endReady, connected, ready]
    refine .silent ⟨?_, ?_, ?_, ?_, ?_, fits.once, fits.bounded⟩ (by rw [events])
    · rw [events, down, ← fits.linked, ready]
    · simp [down]
    · simp [down]
    · simp [down]
    · simp [gone]

theorem Fits.connect (fits : Fits marks client) (down : client.ready = false) (target : UInt64) (dial : Dial host) :
    Goes Fits (marks ++ [.connect]) client (client.connect target dial).1 := by
  have dialed : Fits (marks ++ [.connect]) { client with target := target, attemptsLeft := max client.attempts 1 } :=
    (fits.dial down).quiet rfl rfl rfl fits.settled
  have dialing : Dialing (marks ++ [.connect]) { client with target := target, attemptsLeft := max client.attempts 1 } :=
    ⟨dialed, down, by rw [spent_append]; rfl⟩
  obtain ⟨next, events⟩ := dialing.beginAttempt dial
  exact .silent next.1 (congrArg Feed.items events)

theorem Fits.handleOutput (fits : Fits marks client) (output : LanSignalerOutput) (now : Instant) (wall : SystemTime) :
    Goes Fits marks client (client.handleOutput output now wall).1 := by
  cases output with
  | datagram data addr => exact .silent fits rfl
  | serverDiscovered id data => exact .one (Feed.items_push ..) (fits.discover id data)
  | signal signal => exact fits.handleSignal signal now wall
  | wait duration => exact .silent fits rfl

-- the client's own calls, apart from a dial and the events of the pool
theorem Fits.next (fits : Fits marks client) (input : NetherClientInput host)
    (dials : ∀ target dial, input ≠ .connect target dial) (drives : input ≠ .drivePool) :
    Goes Fits marks client (client.next input) := by
  have kept : ∀ {after : NetherClient host}, after.ready = client.ready → after.events.items = client.events.items →
      after.connected = client.connected → after.connectingDeadline = client.connectingDeadline →
      Goes Fits marks client after := fun ready events connected deadline =>
    .silent (fits.quiet ready events connected fun up => deadline.trans (fits.settled up)) events
  cases input with
  | connect target dial => exact absurd rfl (dials target dial)
  | drivePool => exact absurd rfl drives
  | checkDeadline now dial =>
    simp only [NetherClient.next]
    split
    · rename_i connected
      exact fits.checkDeadline connected now dial
    · exact .silent fits rfl
  | disconnect => exact fits.disconnect
  | send channel data =>
    simp only [NetherClient.next, sendOn]
    split
    · exact kept rfl rfl rfl rfl
    · exact kept rfl rfl rfl rfl
  | nextEvent => exact kept rfl (Feed.items_next _) rfl rfl
  | output output now wall => exact fits.handleOutput output now wall
  | setIdentity | setServerTrust | setTimeouts | setAttempts | recv | recvUnreliable | poolReceive | poolCommands | poolRound =>
    exact kept rfl rfl rfl rfl

end

/-! ## A batch with a failure -/

variable {client : NetherClient host}

theorem failed_of_mem (failed : ((), .failed) ∈ batch) :
    (batch.foldl poolEvent client).connected = false ∧ (batch.foldl poolEvent client).connectingDeadline = none := by
  have stays : ∀ (rest : List (Unit × ConnectionEvent)) (client : NetherClient host),
      client.connected = false ∧ client.connectingDeadline = none →
      (rest.foldl poolEvent client).connected = false ∧ (rest.foldl poolEvent client).connectingDeadline = none := by
    intro rest client down
    refine List.foldlRecOn (motive := fun client : NetherClient host =>
      client.connected = false ∧ client.connectingDeadline = none) rest _ down fun client down event _ => ?_
    obtain ⟨⟨⟩, event⟩ := event
    cases event with
    | ready addr =>
      simp only [poolEvent]
      split
      · exact down
      · exact ⟨down.1, rfl⟩
    | rtt rtt => exact down
    | message channel data => cases channel <;> exact down
    | failed => exact ⟨rfl, rfl⟩
  obtain ⟨before, rest, rfl⟩ := List.append_of_mem failed
  rw [List.foldl_append, List.foldl_cons]
  exact stays rest _ ⟨rfl, rfl⟩

theorem ready_of_mem (up : client.ready = true ∨ ∃ addr, ((), .ready addr) ∈ batch) :
    (batch.foldl poolEvent client).ready = true := by
  induction batch generalizing client with
  | nil =>
    rcases up with up | ⟨addr, member⟩
    · exact up
    · cases member
  | cons event rest ih =>
    apply ih
    obtain ⟨⟨⟩, event⟩ := event
    rcases up with up | ⟨addr, member⟩
    · left
      cases event with
      | ready addr => simp [poolEvent, up]
      | rtt rtt => exact up
      | message channel data => cases channel <;> exact up
      | failed => exact up
    · rcases List.mem_cons.mp member with same | later
      · left
        cases same
        cases ready : client.ready <;> simp [poolEvent, ready, emit]
      · exact .inr ⟨addr, later⟩

/-- Such a batch leaves the flag up with nothing to send on. -/
theorem drivePool_spoiled (failed : ((), .failed) ∈ client.pool.events)
    (up : client.ready = true ∨ ∃ addr, ((), .ready addr) ∈ client.pool.events) :
    client.drivePool.ready = true ∧ client.drivePool.connected = false :=
  ⟨ready_of_mem up, (failed_of_mem failed).1⟩

end NetherClient

namespace ToldClient
variable {host : LanHost}
open ClientMark NetherClient

variable {told : ToldClient host} {call : ClientCall host}

theorem goes_step (goes : Goes Fits (told.marks ++ dials call) told.client (told.client.follow call)) :
    Fits (step told call).1.marks (step told call).1.client := by
  obtain ⟨pushed, events, fits⟩ := goes
  simpa only [step, events, List.drop_left] using fits

theorem fits_step (told : ToldClient host) (call : ClientCall host) (fits : Fits told.marks told.client)
    (polite : told.Polite call) (careful : ¬told.Spoils call) :
    Fits (step told call).1.marks (step told call).1.client := by
  apply goes_step
  cases call with
  | report event =>
    simp only [dials, List.append_nil]
    exact .silent (fits.quiet rfl rfl rfl fits.settled) rfl
  | call input =>
    by_cases dialed : ∃ target dial, input = .connect target dial
    · obtain ⟨target, dial, rfl⟩ := dialed
      exact fits.connect (polite target dial rfl) target dial
    · have undialed : dials (.call input) = [] := by
        cases input with
        | connect target called => exact absurd ⟨target, called, rfl⟩ dialed
        | _ => rfl
      rw [undialed, List.append_nil]
      by_cases drives : input = .drivePool
      · subst drives
        simp only [follow, next]
        split
        · rename_i connected
          refine fits.drivePool connected fun failed => ?_
          obtain ⟨down, unready⟩ := not_or.mp fun up => careful ⟨connected, failed, up⟩
          exact ⟨Bool.eq_false_iff.mpr down, fun addr member => unready ⟨addr, member⟩⟩
        · exact .silent fits rfl
      · exact fits.next input (fun target dial same => dialed ⟨target, dial, same⟩) drives

theorem not_matches_of_spoils (spoils : told.Spoils call) : ¬(step told call).1.Matches := by
  unfold Spoils at spoils
  split at spoils
  · obtain ⟨connected, failed, up⟩ := spoils
    obtain ⟨ready, gone⟩ := drivePool_spoiled failed up
    have becomes : (step told (.call .drivePool)).1.client = told.client.drivePool := if_pos connected
    intro agrees
    have held := agrees.held (by rw [becomes, ready])
    rw [becomes, gone] at held
    cases held
  · exact spoils.elim

/-- The flag agrees with the events after every call of a run exactly if no update of the run finds a failure
among the pool's events while it is connected or with a `Ready` beside it. -/
theorem connected_flag_matches_iff (calls : List (ClientCall host)) (polite : Along step Polite start calls) :
    Along step (fun told call => (step told call).1.Matches) start calls ↔
      Along step (fun told call => ¬told.Spoils call) start calls := by
  suffices stated : ∀ told : ToldClient host, Fits told.marks told.client → Along step Polite told calls →
      (Along step (fun told call => (step told call).1.Matches) told calls ↔
        Along step (fun told call => ¬told.Spoils call) told calls) from stated start fits_new polite
  clear polite
  intro told fits polite
  induction calls generalizing told with
  | nil => exact Iff.rfl
  | cons call rest ih =>
    obtain ⟨allowed, polite⟩ := polite
    constructor
    · rintro ⟨agrees, along⟩
      have careful : ¬told.Spoils call := fun spoils => not_matches_of_spoils spoils agrees
      exact ⟨careful, (ih _ (fits_step told call fits allowed careful) polite).mp along⟩
    · rintro ⟨careful, along⟩
      have next := fits_step told call fits allowed careful
      exact ⟨⟨next.linked, next.held, next.once⟩, (ih _ next polite).mpr along⟩

/-! ## A connection that fails -/

theorem along_polite {calls : List (ClientCall host)} (told : ToldClient host)
    (others : ∀ call ∈ calls, ∀ target dial, call ≠ .call (.connect target dial)) : Along step Polite told calls := by
  induction calls generalizing told with
  | nil => trivial
  | cons call rest ih =>
    obtain ⟨first, later⟩ := List.forall_mem_cons.mp others
    exact ⟨fun target dial same => absurd same (first target dial), ih _ later⟩

-- what an update does once the signaler has nothing more
def updateEnd : List (ClientCall quietHost) := [.call .drivePool, .call (.checkDeadline 0 quietDial)]

-- dials once and becomes connected
def readyCalls (later : List (ClientCall quietHost)) : List (ClientCall quietHost) :=
  .call (.connect 7 quietDial) :: (.report (.ready none) :: updateEnd ++ later)

theorem polite_readyCalls {later : List (ClientCall quietHost)}
    (others : ∀ call ∈ later, ∀ target dial, call ≠ .call (.connect target dial)) :
    Along step Polite start (readyCalls later) := by
  refine ⟨fun _ _ _ => rfl, along_polite _ fun call member => ?_⟩
  rcases List.mem_append.mp member with first | last
  · simp only [updateEnd, List.mem_cons, List.not_mem_nil, or_false] at first
    rcases first with rfl | rfl | rfl <;> simp
  · exact others call last

/-- A client that is connected and told to disconnect. -/
theorem disconnect_matches :
    Along step Polite start (readyCalls [.call .disconnect]) ∧
      Along step (fun told call => (step told call).1.Matches) start (readyCalls [.call .disconnect]) := by
  have polite : Along step Polite start (readyCalls [.call .disconnect]) := polite_readyCalls (by simp)
  refine ⟨polite, (connected_flag_matches_iff _ polite).mpr ⟨id, id, ?_, id, id, trivial⟩⟩
  rintro ⟨-, failed, -⟩
  revert failed
  decide +kernel

/-- Once the session of a connected client fails, the flag stays up with no session to send on, and the game's
own `disconnect` pushes a second `Disconnected`. -/
theorem failure_leaves_flag :
    let told := (run step start (readyCalls (.report .failed :: updateEnd))).1
    let left := (step told (.call .disconnect)).1
    Along step Polite start (readyCalls (.report .failed :: updateEnd ++ [.call .disconnect])) ∧
      (told.client.ready = true ∧ told.client.connected = false ∧
        lastLink told.client.events.items = some .disconnected) ∧
      left.marks = [.connect, .event .connected, .event .disconnected, .event .disconnected] ∧
      ¬told.Matches ∧ ¬Once left.marks := by
  intro told left
  have flags : told.client.ready = true ∧ told.client.connected = false ∧
      lastLink told.client.events.items = some .disconnected := by decide +kernel
  have marks : left.marks = [.connect, .event .connected, .event .disconnected, .event .disconnected] := by
    decide +kernel
  refine ⟨polite_readyCalls (by simp [updateEnd]), flags, marks, fun agrees => ?_, fun once => ?_⟩
  · have held := agrees.held flags.1
    simp [flags.2.1] at held
  · have twice := once [.connect] [.event .disconnected, .event .disconnected] [] marks (by simp)
    exact absurd twice (by decide)

end ToldClient

end Nethernet
