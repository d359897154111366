import Nethernet.Bevy.Handover
import Nethernet.Bevy.Server
import Nethernet.Http.Refusals

/-! Whether the tables of the game loop's servers hold every session that their
pools drive. -/

set_option autoImplicit false

namespace Nethernet
open Foundation

/-- Every session that is driven is in the table. -/
def Housed {K V : Type} [DecidableEq K] (driven : K → Bool) (sessions : Table K V) : Prop :=
  ∀ id, driven id = true → (sessions.lookup id).isSome = true

namespace Housed
variable {K V : Type} [DecidableEq K] {driven : K → Bool} {sessions : Table K V}

theorem mono (housed : Housed driven sessions) {fewer : K → Bool} (less : ∀ id, fewer id = true → driven id = true) :
    Housed fewer sessions :=
  fun id still => housed id (less id still)

theorem add (housed : Housed driven sessions) (key : K) (value : V) :
    Housed (fun id => driven id || key = id) (sessions.insert key value) := by
  intro id now
  rw [Table.isSome_insert]
  simp only [Bool.or_eq_true] at now ⊢
  exact now.imp_left (housed id)

theorem change (housed : Housed driven sessions) (key : K) (value : V) : Housed driven (sessions.insert key value) :=
  (housed.add key value).mono fun _ still => by simp [still]

theorem remove (housed : Housed driven sessions) (key : K) :
    Housed (fun id => driven id && key ≠ id) (sessions.erase key) := by
  intro id still
  simp only [Bool.and_eq_true, decide_eq_true_eq] at still
  rw [AList.lookup_erase_ne (Ne.symm still.2)]
  exact housed id still.1

/-- Entries may be dropped exactly if their sessions are not driven. -/
theorem retain_iff (housed : Housed driven sessions) (keep : K → V → Bool) :
    Housed driven (sessions.retain keep) ↔
      ∀ id value, sessions.lookup id = some value → keep id value = false → driven id = false := by
  constructor
  · intro still id value stored dropped
    rw [Bool.eq_false_iff]
    intro drives
    have kept := still id drives
    simp [Table.lookup_retain, stored, dropped] at kept
  · intro idle id drives
    obtain ⟨value, stored⟩ := Option.isSome_iff_exists.mp (housed id drives)
    have kept : keep id value = true := by
      rw [← Bool.not_eq_false]
      intro dropped
      simp [idle id value stored dropped] at drives
    simp [Table.lookup_retain, stored, kept]

/-! What a server queues for its pool -/

section
variable {Link : Type} {commands : List (PoolCommand K Link)}
  (housed : Housed (fun id => PoolCommand.drivesAfter id (driven id) commands) sessions)
include housed

-- signals and messages for a session that is there
theorem told {command : PoolCommand K Link} (neither : ∀ id driven, command.drives id driven = driven) :
    Housed (fun id => PoolCommand.drivesAfter id (driven id) (commands ++ [command])) sessions :=
  housed.mono fun _ still => by rwa [PoolCommand.drivesAfter_append, PoolCommand.drivesAfter, List.foldl_cons, neither] at still

theorem opened (key : K) (link : Link) (localUfrag : String) (value : V) :
    Housed (fun id => PoolCommand.drivesAfter id (driven id) (commands ++ [.add key link localUfrag]))
      (sessions.insert key value) :=
  (housed.add key value).mono fun _ still => (PoolCommand.drivesAfter_append ..).symm.trans still

theorem dropped (key : K) :
    Housed (fun id => PoolCommand.drivesAfter id (driven id) (commands ++ [.remove key])) (sessions.erase key) :=
  (housed.remove key).mono fun _ still => (PoolCommand.drivesAfter_append ..).symm.trans still

end

omit [DecidableEq K] in
/-- A server that looks at the events of its pool and then disconnects the sessions that failed. -/
theorem drive {S Item : Type} {Houses : S → Prop} {event : S × List K → Item → S × List K} {disconnect : S → K → S}
    (events : ∀ state item, Houses state.1 → Houses (event state item).1)
    (disconnects : ∀ server id, Houses server → Houses (disconnect server id)) {server : S} (houses : Houses server)
    (items : List Item) :
    Houses ((items.foldl event (server, [])).2.foldl disconnect (items.foldl event (server, [])).1) := by
  have seen : Houses (items.foldl event (server, [])).1 :=
    List.foldlRecOn (motive := fun state : S × List K => Houses state.1) _ _ houses fun state kept item _ => events state item kept
  exact List.foldlRecOn (motive := Houses) _ _ seen fun server kept id _ => disconnects server id kept

end Housed

/-! ## The LAN server -/

theorem SessionPool.willDrive_removes {crates : WebrtcCrates} {rtc : Rtc crates.Candidate} {K : Type} [DecidableEq K]
    (ids : List K) (pool : SessionPool rtc K) (id : K) :
    (ids.foldl (fun pool key => pool.push (.remove key)) pool).willDrive id = (pool.willDrive id && id ∉ ids) := by
  induction ids generalizing pool with
  | nil => simp
  | cons key rest ih =>
    rw [List.foldl_cons, ih, willDrive_push, PoolCommand.drives, Bool.and_assoc, ← Bool.decide_and]
    simp [eq_comm]

namespace NetherServer
variable {host : LanServerHost} {server : NetherServer host}

/-- The sessions that the pool will go on driving are in the table. -/
def Houses (server : NetherServer host) : Prop := Housed server.pool.willDrive server.sessions

theorem Houses.openSession (houses : server.Houses) (id : NetherSessionId) (answered : Answered (Connection host.rtc))
    (now : Instant) : (server.openSession id answered now).Houses := by
  have told : (answered.signals.foldl (fun server signal => server.hand (.signal signal now)) server).Houses :=
    List.foldlRecOn _ _ houses fun _ kept _ _ => kept
  exact (told.add id _).mono fun other still => (SessionPool.willDrive_add ..).symm.trans still

theorem Houses.handleOffer (houses : server.Houses) (offer : Signal) (address : UInt64 → Option SocketAddr) (now : Instant)
    (wall : SystemTime) : (server.handleOffer offer address now wall).Houses := by
  unfold NetherServer.handleOffer
  dsimp only
  split
  · exact houses
  · split
    · exact houses
    · split
      · exact houses
      · exact houses.openSession _ _ now

theorem Houses.handleOutput (houses : server.Houses) (output : LanSignalerOutput) (address : UInt64 → Option SocketAddr)
    (now : Instant) (wall : SystemTime) : (server.handleOutput output address now wall).Houses := by
  cases output with
  | datagram data addr => exact houses
  | serverDiscovered id data => exact houses
  | wait duration => exact houses
  | signal signal =>
    unfold NetherServer.handleOutput handleSignal
    dsimp only
    split
    · exact houses.handleOffer signal address now wall
    · split
      · exact houses.told fun _ _ => rfl
      · exact houses

theorem Houses.disconnect (houses : server.Houses) (id : NetherSessionId) : (server.disconnect id).Houses := by
  unfold NetherServer.disconnect
  split
  · exact houses.dropped id
  · exact houses

theorem houses_poolEvent (state : NetherServer host × List NetherSessionId) (item : NetherSessionId × ConnectionEvent)
    (houses : state.1.Houses) : (poolEvent state item).1.Houses := by
  unfold NetherServer.poolEvent
  repeat' split
  all_goals first | exact houses | exact houses.change _ _

theorem Houses.driveSessions (houses : server.Houses) : server.driveSessions.Houses := by
  have drained : Houses { server with pool := server.pool.drive.1 } := houses
  exact Housed.drive houses_poolEvent (fun _ id kept => kept.disconnect id) drained server.pool.events

theorem Houses.expireUnestablished (houses : server.Houses) (now : Instant) (order : Visit NetherSessionId) :
    (server.expireUnestablished now order).Houses := by
  unfold NetherServer.expireUnestablished Houses
  dsimp only
  have fewer : Housed (fun id => server.pool.willDrive id &&
      id ∉ order.arrange (server.sessions.retain fun _ entry => !server.established now entry).keys) server.sessions :=
    houses.mono fun id still => (Bool.and_eq_true _ _ ▸ still).1
  have kept := (fewer.retain_iff fun _ entry => server.established now entry).mpr ?_
  · exact kept.mono fun id still => by rwa [SessionPool.willDrive_removes] at still
  · -- an entry that goes is among those taken out of the pool
    intro id entry stored expired
    have listed : id ∈ order.arrange (server.sessions.retain fun _ entry => !server.established now entry).keys := by
      rw [Visit.mem_arrange, ← AList.mem_keys, ← AList.lookup_isSome, Table.lookup_retain, stored]
      simp [expired]
    simp [listed]

theorem houses_next (houses : server.Houses) (input : NetherServerInput host) : (server.next input).Houses := by
  cases input with
  | send id channel data =>
    simp only [next, sendOn]
    split
    · exact houses.told fun _ _ => rfl
    · exact houses
  | disconnect id => exact houses.disconnect id
  | output output address now wall => exact houses.handleOutput output address now wall
  | finishUpdate now order => exact houses.driveSessions.expireUnestablished now order
  | pool step => exact houses.mono fun _ still => SessionPool.willDrive_of_advance still
  | setIdentity | setTokenTrust | setTimeouts | setInferPeerCandidates | setPendingLimits | setServerData | recv
  | recvUnreliable | nextEvent => exact houses

theorem houses_run (addr : SocketAddr) (advertised : List IpAddr) (inputs : List (NetherServerInput host)) :
    (run step (new addr advertised) inputs).1.Houses := by
  have keeps : ∀ (server : NetherServer host) input, server.Houses → (step server input).1.Houses :=
    fun _ input houses => houses_next houses input
  have empty : (new addr advertised : NetherServer host).Houses := nofun
  exact run_invariant step keeps empty inputs

end NetherServer

/-! ## The HTTP server -/

namespace NetherHttpServer
variable {host : HttpHost} {server : NetherHttpServer host} {driven : NetherSessionId → Bool}

/-- The sessions that the pool will go on driving are in the table, if `driven` are those that it would drive without
the commands of the server. -/
def Houses (driven : NetherSessionId → Bool) (server : NetherHttpServer host) : Prop :=
  Housed (fun id => PoolCommand.drivesAfter id (driven id) server.pool) server.sessions

theorem Houses.admitted (houses : server.Houses driven) (tick : Tick host) : (server.admitted tick).Houses driven := by
  refine List.foldlRecOn _ _ houses fun accepted kept item _ => ?_
  obtain ⟨peer, socket⟩ := item
  cases peer with
  | none => exact kept
  | some peer => exact kept

theorem Houses.pumpConnections (houses : server.Houses driven) (tick : Tick host) :
    (server.pumpConnections tick).Houses driven := by
  have asked : (server.askAll tick).Houses driven := List.foldlRecOn _ _ houses fun _ kept _ _ => kept
  exact List.foldlRecOn _ _ asked fun _ kept _ _ => kept

theorem Houses.handleOffer (houses : server.Houses driven) (offer : Offer) (tick : Tick host) :
    (server.handleOffer offer tick).Houses driven := by
  rcases server.handleOffer_cases offer tick with ⟨reason, rejected⟩ | ⟨data, link, ufrag, entry, opened⟩
  · rw [rejected]
    exact houses
  · rw [opened]
    exact houses.opened ⟨offer.networkId, offer.connectionId⟩ link ufrag entry

theorem Houses.handleOutput (houses : server.Houses driven) (output : HttpSignalerOutput) (tick : Tick host) :
    (server.handleOutput output tick).Houses driven := by
  have changed : ∀ id change, (server.changeConn id change).Houses driven := by
    intro id change
    unfold changeConn
    split
    · exact houses
    · exact houses
  cases output with
  | response connection response keepAlive => exact changed _ _
  | close connection => exact changed _ _
  | offer offer => exact houses.handleOffer offer tick
  | wait duration => exact houses

theorem Houses.pollOutputs (tick : Tick host) (turns : Nat) {server : NetherHttpServer host} (houses : server.Houses driven) :
    (pollOutputs tick turns server).Houses driven := by
  induction turns generalizing server with
  | zero => exact houses
  | succ turns ih =>
    unfold NetherHttpServer.pollOutputs
    split
    · exact houses
    · rename_i signaler output _
      have polled : Houses driven { server with signaler := signaler } := houses
      exact ih (polled.handleOutput output tick)

theorem Houses.settled (houses : server.Houses driven) (tick : Tick host) : (server.settled tick).Houses driven :=
  Houses.pollOutputs tick _ (show (server.tell (.update tick.now tick.visitJoins)).Houses driven from houses)

theorem Houses.disconnect (houses : server.Houses driven) (id : NetherSessionId) : (server.disconnect id).Houses driven := by
  unfold NetherHttpServer.disconnect
  split
  · exact houses.dropped id
  · exact houses

theorem houses_poolEvent (state : NetherHttpServer host × List NetherSessionId) (item : NetherSessionId × ConnectionEvent)
    (houses : state.1.Houses driven) : (poolEvent state item).1.Houses driven := by
  unfold NetherHttpServer.poolEvent
  repeat' split
  all_goals first | exact houses | exact houses.change _ _

theorem Houses.driveSessions (houses : server.Houses driven) (tick : Tick host) : (server.driveSessions tick).Houses driven :=
  Housed.drive houses_poolEvent (fun _ id kept => kept.disconnect id) houses tick.poolEvents

theorem Houses.dropIdle (houses : server.Houses driven) (tick : Tick host) : (server.dropIdle tick).Houses driven :=
  List.foldlRecOn _ _ houses fun _ kept _ _ => kept

/-- An update but for the expiry at its end. -/
def beforeExpiry (server : NetherHttpServer host) (tick : Tick host) : NetherHttpServer host :=
  ((((server.admitted tick).pumpConnections tick).settled tick).driveSessions tick).dropIdle tick

theorem Houses.beforeExpiry (houses : server.Houses driven) (tick : Tick host) : (server.beforeExpiry tick).Houses driven :=
  ((((houses.admitted tick).pumpConnections tick).settled tick).driveSessions tick).dropIdle tick

-- every call but an update
theorem Houses.call (houses : server.Houses driven) (input : NetherHttpServerInput host)
    (other : ∀ tick, input ≠ .update tick) : (server.step input).1.Houses driven := by
  cases input with
  | update tick => exact absurd rfl (other tick)
  | send id channel data =>
    simp only [NetherHttpServer.step, sendOn]
    split
    · exact houses.told fun _ _ => rfl
    · exact houses
  | disconnect id => exact houses.disconnect id
  | setIdleTimeout | setIdentity | allowUnsignedAnswers | setTimeouts | setPendingLimits | setInferPeerCandidates
  | setServerData | setTokenTrust | recv | recvUnreliable | nextEvent => exact houses

end NetherHttpServer

def PoolCommand.map {K Link Other : Type} (change : Link → Other) : PoolCommand K Link → PoolCommand K Other
  | .add key connection localUfrag => .add key (change connection) localUfrag
  | .signal key message => .signal key message
  | .send key channel data => .send key channel data
  | .remove key => .remove key

theorem PoolCommand.drivesAfter_map {K Link Other : Type} [DecidableEq K] (change : Link → Other) (id : K) (driven : Bool)
    (commands : List (PoolCommand K Link)) :
    drivesAfter id driven (commands.map (.map change)) = drivesAfter id driven commands := by
  unfold drivesAfter
  rw [List.foldl_map]
  congr 1
  funext before command
  cases command <;> rfl

/-- The HTTP server and the pool that it sends its commands to. -/
structure PooledHttpServer (host : HttpHost) {crates : WebrtcCrates} (rtc : Rtc crates.Candidate) where
  server : NetherHttpServer host
  pool : SessionPool rtc NetherSessionId

/-- A call of the server, with what the thread does in an update between the server's look at the pool's events and
the expiry of its sessions, or a step of the thread. The events an update sees are those of its tick. -/
inductive PooledHttpInput (host : HttpHost) where
  | call (input : NetherHttpServerInput host) (late : List (PoolStep NetherSessionId))
  | pool (step : PoolStep NetherSessionId)

variable (config : HttpSignalerConfig)

namespace PooledHttpServer
variable {host : HttpHost} {crates : WebrtcCrates} {rtc : Rtc crates.Candidate}

section
variable (link : host.Link → Connection rtc) (stunUsername : Bytes → Option String)

def start (config : HttpSignalerConfig) (addr : SocketAddr) (advertised : List IpAddr) : PooledHttpServer host rtc :=
  ⟨.bind config addr advertised, .new⟩

-- what the server has sent is in the queue of the thread
def handOver (server : NetherHttpServer host) (pool : SessionPool rtc NetherSessionId) : PooledHttpServer host rtc where
  server := { server with pool := [] }
  pool := { pool with commands := pool.commands ++ server.pool.map (.map link) }

/-- An update up to its expiry. -/
def beforeExpiry (state : PooledHttpServer host rtc) (tick : Tick host) (late : List (PoolStep NetherSessionId)) :
    PooledHttpServer host rtc :=
  let told := handOver link (state.server.beforeExpiry tick) state.pool
  { told with pool := late.foldl (SessionPool.advance stunUsername) told.pool }

def step (state : PooledHttpServer host rtc) (input : PooledHttpInput host) : PooledHttpServer host rtc × Unit :=
  match input with
  | .call (.update tick) late =>
    let seen := state.beforeExpiry link stunUsername tick late
    ({ seen with server := seen.server.expireSessions tick.now }, ())
  | .call input _ => (handOver link (state.server.step input).1 state.pool, ())
  | .pool step => ({ state with pool := state.pool.advance stunUsername step }, ())

/-- No session is past its time in an update while the pool will go on driving it. -/
def Unexpired (state : PooledHttpServer host rtc) : PooledHttpInput host → Prop
  | .call (.update tick) late =>
    let seen := state.beforeExpiry link stunUsername tick late
    ∀ id entry, seen.server.sessions.lookup id = some entry →
      (entry.ready || tick.now.since entry.created < seen.server.timeouts.establish) = false →
      seen.pool.willDrive id = false
  | _ => True

end

variable {link : host.Link → Connection rtc} {stunUsername : Bytes → Option String} {state : PooledHttpServer host rtc}

/-- The sessions that the pool will go on driving are in the table. -/
def Houses (state : PooledHttpServer host rtc) : Prop := Housed state.pool.willDrive state.server.sessions

theorem houses_handOver {server : NetherHttpServer host} {pool : SessionPool rtc NetherSessionId}
    (houses : server.Houses pool.willDrive) : (handOver link server pool).Houses := by
  refine houses.mono fun id still => ?_
  have queued : (handOver link server pool).pool.willDrive id =
      PoolCommand.drivesAfter id (pool.willDrive id) (server.pool.map (.map link)) := PoolCommand.drivesAfter_append ..
  rwa [queued, PoolCommand.drivesAfter_map] at still

theorem houses_beforeExpiry (houses : state.server.Houses state.pool.willDrive) (tick : Tick host)
    (late : List (PoolStep NetherSessionId)) : (state.beforeExpiry link stunUsername tick late).Houses := by
  have told : (handOver link (state.server.beforeExpiry tick) state.pool).Houses := houses_handOver (houses.beforeExpiry tick)
  refine List.foldlRecOn (motive := fun pool : SessionPool rtc NetherSessionId =>
    Housed pool.willDrive (state.server.beforeExpiry tick).sessions) late _ told ?_
  exact fun _ kept _ _ => kept.mono fun _ still => SessionPool.willDrive_of_advance still

/-- Between the calls nothing is left to be handed over. -/
structure Tidy (state : PooledHttpServer host rtc) : Prop where
  sent : state.server.pool = []
  houses : state.Houses

theorem Tidy.server (tidy : state.Tidy) : state.server.Houses state.pool.willDrive := by
  unfold NetherHttpServer.Houses
  rw [tidy.sent]
  exact tidy.houses

theorem tidy_start (addr : SocketAddr) (advertised : List IpAddr) :
    (start config addr advertised : PooledHttpServer host rtc).Tidy :=
  ⟨rfl, nofun⟩

theorem sent_step (sent : state.server.pool = []) (input : PooledHttpInput host) :
    (state.step link stunUsername input).1.server.pool = [] := by
  cases input with
  | pool step => exact sent
  | call input late => cases input <;> rfl

/-- After a call the table holds what the pool will drive, exactly if no session expired that it will drive. -/
theorem houses_step_iff (tidy : state.Tidy) (input : PooledHttpInput host) :
    (state.step link stunUsername input).1.Houses ↔ state.Unexpired link stunUsername input := by
  cases input with
  | pool step =>
    have kept : (state.step link stunUsername (.pool step)).1.Houses :=
      tidy.houses.mono fun _ still => SessionPool.willDrive_of_advance still
    exact iff_of_true kept trivial
  | call input late =>
    by_cases update : ∃ tick, input = .update tick
    · obtain ⟨tick, rfl⟩ := update
      exact (houses_beforeExpiry tidy.server tick late).retain_iff _
    · have other : ∀ tick, input ≠ .update tick := fun tick same => update ⟨tick, same⟩
      have handed : state.step link stunUsername (.call input late) = (handOver link (state.server.step input).1 state.pool, ()) := by
        cases input with
        | update tick => exact absurd rfl (other tick)
        | _ => rfl
      have spared : state.Unexpired link stunUsername (.call input late) := by
        cases input with
        | update tick => exact absurd rfl (other tick)
        | _ => trivial
      rw [handed]
      exact iff_of_true (houses_handOver (tidy.server.call input other)) spared

theorem houses_along_iff (addr : SocketAddr) (advertised : List IpAddr) (calls : List (PooledHttpInput host)) :
    Along (step link stunUsername) (fun state input => (state.step link stunUsername input).1.Houses)
        (start config addr advertised) calls ↔
      Along (step link stunUsername) (Unexpired link stunUsername) (start config addr advertised) calls := by
  have agree : ∀ (state : PooledHttpServer host rtc) input, state.Tidy →
      ((state.step link stunUsername input).1.Houses ↔ state.Unexpired link stunUsername input) :=
    fun _ input tidy => houses_step_iff tidy input
  have keeps : ∀ (state : PooledHttpServer host rtc) input, state.Tidy → state.Unexpired link stunUsername input →
      (state.step link stunUsername input).1.Tidy :=
    fun state input tidy unexpired => ⟨sent_step tidy.sent input, (agree state input tidy).mpr unexpired⟩
  exact along_congr _ agree keeps (tidy_start config addr advertised) calls

end PooledHttpServer

/-- The LAN server's table holds every session that its pool will go on driving, in every run. The HTTP server's does
after every call of a run exactly if no update of the run drops a session for its age that the pool will go on
driving. -/
theorem no_orphan_session_iff {lan : LanServerHost} {http : HttpHost} {crates : WebrtcCrates} {rtc : Rtc crates.Candidate}
    (link : http.Link → Connection rtc) (stunUsername : Bytes → Option String) (config : HttpSignalerConfig)
    (addr : SocketAddr) (advertised : List IpAddr) (inputs : List (NetherServerInput lan))
    (calls : List (PooledHttpInput http)) :
    (run NetherServer.step (.new addr advertised) inputs).1.Houses ∧
      (Along (PooledHttpServer.step link stunUsername)
          (fun state input => (state.step link stunUsername input).1.Houses) (.start config addr advertised) calls ↔
        Along (PooledHttpServer.step link stunUsername) (PooledHttpServer.Unexpired link stunUsername)
          (.start config addr advertised) calls) :=
  ⟨NetherServer.houses_run addr advertised inputs, PooledHttpServer.houses_along_iff config addr advertised calls⟩

/-! ## A session that goes from the table only -/

namespace PooledHttpServer
open NetherHttpServer PoolThread

def answeringHost : HttpHost :=
  { plainHost with
    Link := Connection sharedRtc
    answer := fun _ _ _ _ _ _ _ => .ok ⟨quietConnection 77, [⟨.answer, 77, "v=0", "1234"⟩], none, "u"⟩ }

def tickAt (now : Instant) (accepts : List (Option SocketAddr × Bytes)) : Tick answeringHost where
  now := now
  wall := .unixEpoch
  accepts := accepts
  traffic _ held := held
  poolEvents := []
  joinId _ := 77
  visit := .inOrder
  visitJoins := .inOrder

-- one host joins
def joined : List (PooledHttpInput answeringHost) :=
  [.call (.allowUnsignedAnswers true) [], .call (.update (tickAt 0 [(some (.loopback 40001), joinRequest)])) []]

/-- A minute after its join the session is gone from the table; the thread has no command for it and drives it on. -/
theorem expired_session_driven :
    let state := (run (step id fun _ => none) (start oneEach (.loopback 7551) []) joined).1
    let taken := (step id (fun _ => none) state (.pool (.command 0))).1
    let after := (step id (fun _ => none) taken (.call (.update (tickAt (60 * 10 ^ 9) [])) [])).1
    (taken.server.sessions.keys = [⟨"1234", 77⟩] ∧ taken.pool.thread.drives ⟨"1234", 77⟩ = true ∧
      taken.pool.events = []) ∧
    (after.server.sessions.keys = [] ∧ after.pool.commands.length = 0 ∧
      after.pool.thread.drives ⟨"1234", 77⟩ = true) ∧
    ¬after.Houses := by
  intro state taken after
  refine ⟨by decide +kernel, by decide +kernel, fun houses => ?_⟩
  have driven : after.pool.willDrive ⟨"1234", 77⟩ = true := by decide +kernel
  have gone : (after.server.sessions.lookup ⟨"1234", 77⟩).isSome = false := by decide +kernel
  exact absurd ((houses _ driven).symm.trans gone) (by decide)

end PooledHttpServer

end Nethernet
