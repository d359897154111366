import Mathlib.Data.List.Count
import Nethernet.Http.Chunks
import Nethernet.Http.Ledger
import Nethernet.Http.Refusals
import Nethernet.Http.Turns

/-! How many requests and responses a TCP connection of the HTTP server has. The signaler
owes one response for each request it was given. A refusal is queued without it, and the
connection goes on being read until the refusal is written. -/

set_option autoImplicit false

namespace Nethernet
open Foundation Http

/-! ## What the signaler owes -/

variable (other : Nat) (now : Instant)

namespace HttpSignaler

/-- The responses to a connection that are put out or still to come. -/
def due (signaler : HttpSignaler) (connection : Nat) : Nat :=
  responsesTo connection signaler.output + joinsOn connection signaler.pending.entries

section
variable {signaler : HttpSignaler} {connection : Nat}

theorem responsesTo_append (connection : Nat) (outputs : List HttpSignalerOutput) (output : HttpSignalerOutput) :
    responsesTo connection (outputs ++ [output]) =
      responsesTo connection outputs + if output.target.map Prod.fst = some connection then 1 else 0 := by
  simp [responsesTo, List.countP_append, List.countP_singleton]

theorem joinsOn_cons (connection : Nat) (join : Join) (joins : List Join) :
    joinsOn connection (join :: joins) = joinsOn connection joins + if join.2.connection = connection then 1 else 0 := by
  simp [joinsOn, List.countP_cons]

theorem due_push (response : Response) (keepAlive : Bool) :
    (signaler.push other response keepAlive).due connection =
      signaler.due connection + if other = connection then 1 else 0 := by
  simp only [due, push, responsesTo_append, HttpSignalerOutput.target, Option.map_some, Option.some.injEq]
  omega

theorem due_settle {connectionId : UInt64} {reply : HttpSignaler → Pending → HttpSignaler}
    (replies : ∀ current pending, ∃ response keepAlive,
      reply current pending = current.push pending.connection response keepAlive) :
    (signaler.settle connectionId reply).1.due connection = signaler.due connection := by
  unfold settle
  split
  · rfl
  · rename_i pending stored
    obtain ⟨response, keepAlive, replied⟩ := replies { signaler with pending := signaler.pending.erase connectionId } pending
    have joins : joinsOn connection signaler.pending.entries =
        joinsOn connection (⟨connectionId, pending⟩ :: (signaler.pending.erase connectionId).entries) :=
      (Table.entries_perm_erase stored).countP_eq _
    rw [replied, due_push]
    simp only [due, joins, joinsOn_cons]
    omega

theorem due_reject (connectionId : UInt64) (reason : RejectReason) :
    (signaler.reject connectionId reason).1.due connection = signaler.due connection :=
  due_settle fun _ _ => ⟨_, _, rfl⟩

theorem due_expire (expired : List UInt64) : (signaler.expire expired).1.due connection = signaler.due connection := by
  induction expired generalizing signaler with
  | nil => rfl
  | cons id rest ih =>
    have settled : (signaler.reject id .timeout).1.due connection = signaler.due connection := due_reject id .timeout
    unfold expire
    split
    · rename_i next rejected
      rw [ih, ← settled, rejected]
    · rename_i next error rejected
      rw [← settled, rejected]

theorem due_request (request : Request String) (now : Instant) (wall : SystemTime) (joinId : UInt64)
    (tools : JoinTools) :
    (signaler.handleRequest tools other request now wall joinId).1.due connection ≤
      signaler.due connection + if other = connection then 1 else 0 := by
  rcases handleRequest_cases tools signaler other request now wall joinId with
    ⟨response, answered⟩ | ⟨-, networkId, player, admitted⟩ | ⟨aborted, -⟩
  · rw [answered, due_push]
  · have left : joinsOn connection (signaler.pending.entries.kerase joinId) ≤ joinsOn connection signaler.pending.entries :=
      (List.kerase_sublist joinId signaler.pending.entries).countP_le
    rw [admitted]
    simp only [due, admitJoin, responsesTo_append, HttpSignalerOutput.target, Option.map_none, AList.entries_insert,
      joinsOn_cons, reduceCtorEq, if_false]
    omega
  · rw [aborted]
    exact Nat.le_add_right ..

theorem due_closed : (signaler.closed other).due connection ≤ signaler.due connection := by
  unfold closed
  split
  · exact Nat.le_refl _
  · exact Nat.add_le_add_left List.filter_sublist.countP_le _

theorem due_handleUpdate (visit : Visit UInt64) :
    (signaler.handleUpdate now visit).1.due connection = signaler.due connection := by
  have settled : (signaler.expire (visit.arrange (signaler.expired now))).1.due connection = signaler.due connection :=
    due_expire _
  unfold handleUpdate
  split
  · rename_i next error failed
    rw [← settled, failed]
  · rename_i next succeeded
    rw [← settled, succeeded]
    simp [due, responsesTo_append, HttpSignalerOutput.target]

theorem due_connected (addr : SocketAddr) :
    (signaler.connected other addr).due connection = signaler.due connection := by
  dsimp only [connected]
  split
  · rfl
  · split
    · simp [due, responsesTo_append, HttpSignalerOutput.target]
    · rfl

/-- A call adds to what is owed to a connection only if it is a request of that connection. -/
theorem due_handle (tools : JoinTools) (input : HttpSignalerInput) :
    (signaler.handle tools input).1.due connection ≤
      signaler.due connection + if input.asker = some connection then 1 else 0 := by
  cases input with
  | connected other addr => exact Nat.le_of_eq (due_connected other addr)
  | request other request now wall joinId =>
    simpa [handle, HttpSignalerInput.asker] using due_request other request now wall joinId tools
  | answer connectionId sdp => exact Nat.le_of_eq (due_settle fun _ _ => ⟨_, _, rfl⟩)
  | reject connectionId reason => exact Nat.le_of_eq (due_reject connectionId reason)
  | setServerData data => exact Nat.le_refl _
  | setTokenTrust trust => exact Nat.le_refl _
  | closed other => exact due_closed other
  | update now visit => exact Nat.le_of_eq (due_handleUpdate now visit)

end

end HttpSignaler

/-! ## What happens on a stream -/

/-- A request of the connection handed to the signaler, or a response queued on its stream. -/
inductive StreamEvent where
  | requested
  | refused
  | responded
  deriving DecidableEq, Repr

variable {rest : List HttpSignalerOutput} {event : Nat × StreamEvent} {connection : Nat}

namespace NetherHttpServer
variable {host : HttpHost}

/-- What the turn of a connection decides, if it is open. -/
def decided (server : NetherHttpServer host) (now : Instant) (id : Nat) : Option RequestVerdict :=
  (server.connections.lookup id).bind fun conn => conn.decision host.crates now

def refusalOf (server : NetherHttpServer host) (now : Instant) (id : Nat) : Option (Nat × StreamEvent) :=
  match server.decided now id with
  | some (.refused _) => some (id, .refused)
  | _ => none

-- the loop queues the refusals, and the requests it collects are handed over after it
def pumpEvents (server : NetherHttpServer host) (tick : Tick host) : List (Nat × StreamEvent) :=
  (tick.visit.arrange server.connections.keys).filterMap (server.refusalOf tick.now) ++
    (server.pumpAll tick).requests.map fun asked => (asked.1, .requested)

def outputEvents (server : NetherHttpServer host) : HttpSignalerOutput → List (Nat × StreamEvent)
  | .response connection _ _ => if connection ∈ server.connections then [(connection, .responded)] else []
  | _ => []

-- along `pollOutputs`
def pollEvents (tick : Tick host) : Nat → NetherHttpServer host → List (Nat × StreamEvent)
  | 0, _ => []
  | turns + 1, server =>
    match server.signaler.poll with
    | (_, none) => []
    | (signaler, some output) =>
      server.outputEvents output ++ pollEvents tick turns ({ server with signaler := signaler }.handleOutput output tick)

def updateEvents (server : NetherHttpServer host) (tick : Tick host) : List (Nat × StreamEvent) :=
  let admitted := server.admitted tick
  let updated := (admitted.pumpConnections tick).tell (.update tick.now tick.visitJoins)
  admitted.pumpEvents tick ++ pollEvents tick (outputTurns updated.signaler.output) updated

/-- A step of the server with what it does on the streams. -/
def watch (server : NetherHttpServer host) (input : NetherHttpServerInput host) :
    NetherHttpServer host × List (Nat × StreamEvent) :=
  ((server.step input).1,
    match input with
    | .update tick => server.updateEvents tick
    | _ => [])

/-- At most one request and one response for each connection, and no request behind a refusal. -/
structure OneEach (events : List (Nat × StreamEvent)) : Prop where
  request : ∀ connection, events.count (connection, .requested) ≤ 1
  response : ∀ connection, events.count (connection, .refused) + events.count (connection, .responded) ≤ 1
  order : ∀ connection before after, events = before ++ (connection, .requested) :: after →
    (connection, .refused) ∉ before

/-- No connection that has not asked but has something to write, which is a refusal, sends a further
request or more that is refused. -/
def Patient (server : NetherHttpServer host) : NetherHttpServerInput host → Prop
  | .update tick => ∀ connection conn, (server.admitted tick).connections.lookup connection = some conn →
      conn.requested = false → conn.stream.hasOutbound = true → conn.decision host.crates tick.now = none
  | _ => True

/-! ## The accounts of a connection -/

/-- The flags of a connection say what happened on it. -/
structure Accounted (events : List (Nat × StreamEvent)) (connection : Nat) (conn : TcpConn host.wire) : Prop where
  requested : events.count (connection, .requested) = if conn.requested then 1 else 0
  refused : 0 < events.count (connection, .refused) → conn.closeAfterWrite = true
  silent : conn.requested = false → events.count (connection, .refused) = 0 → conn.stream.outbound = []

structure Orderly (server : NetherHttpServer host) (events : List (Nat × StreamEvent)) : Prop where
  unused : ∀ connection, server.nextConnId ≤ connection → connection ∉ server.connections ∧
    events.count (connection, .requested) = 0 ∧ events.count (connection, .refused) = 0
  accounted : ∀ connection conn, server.connections.lookup connection = some conn → Accounted events connection conn
  once : ∀ connection, events.count (connection, .requested) + events.count (connection, .refused) ≤ 1
  owed : ∀ connection, events.count (connection, .responded) + server.signaler.due connection ≤
    events.count (connection, .requested)

/-- Connections may have gone or be marked for their close, and no more is owed. -/
structure Eases (server after : NetherHttpServer host) : Prop where
  nextConnId : after.nextConnId = server.nextConnId
  connections : Untouched server.connections after.connections
  due : ∀ connection, after.signaler.due connection ≤ server.signaler.due connection

variable {tick : Tick host} {input : NetherHttpServerInput host} {conn : TcpConn host.wire}

section
variable {server middle after : NetherHttpServer host} {events : List (Nat × StreamEvent)}

theorem Eases.of_same (nextConnId : after.nextConnId = server.nextConnId) (connections : after.connections = server.connections)
    (due : ∀ connection, after.signaler.due connection ≤ server.signaler.due connection) : Eases server after :=
  ⟨nextConnId, fun _ next found => ⟨next, connections ▸ found, rfl, id, id⟩, due⟩

theorem Eases.trans (first : Eases server middle) (second : Eases middle after) : Eases server after where
  nextConnId := second.nextConnId.trans first.nextConnId
  connections connection next found := by
    obtain ⟨middle, found, requested, closes, outbound⟩ := second.connections connection next found
    obtain ⟨conn, found, requested', closes', outbound'⟩ := first.connections connection middle found
    exact ⟨conn, found, requested.trans requested', closes ∘ closes', outbound ∘ outbound'⟩
  due connection := Nat.le_trans (second.due connection) (first.due connection)

theorem Orderly.ease (orderly : Orderly server events) (eases : Eases server after) : Orderly after events where
  unused connection new := by
    obtain ⟨absent, unasked, unrefused⟩ := orderly.unused connection (eases.nextConnId ▸ new)
    refine ⟨fun member => absent ?_, unasked, unrefused⟩
    obtain ⟨next, found⟩ := Option.isSome_iff_exists.mp (AList.lookup_isSome.mpr member)
    obtain ⟨conn, found, -⟩ := eases.connections connection next found
    exact Table.mem_of_lookup found
  accounted connection next found := by
    obtain ⟨conn, found, requested, closes, outbound⟩ := eases.connections connection next found
    have before := orderly.accounted connection conn found
    exact ⟨requested ▸ before.requested, fun refused => closes (before.refused refused),
      fun fresh unrefused => outbound (before.silent (requested ▸ fresh) unrefused)⟩
  once := orderly.once
  owed connection := Nat.le_trans (Nat.add_le_add_left (eases.due connection) _) (orderly.owed connection)

theorem eases_tell (server : NetherHttpServer host) {input : HttpSignalerInput} (unasked : ∀ connection, input.asker ≠ some connection) :
    Eases server (server.tell input) := by
  refine .of_same rfl rfl fun connection => ?_
  have owed : (server.tell input).signaler.due connection ≤
      server.signaler.due connection + if input.asker = some connection then 1 else 0 :=
    HttpSignaler.due_handle host.tools input
  rwa [if_neg (unasked connection)] at owed

theorem eases_dropConnection (server : NetherHttpServer host) (id : Nat) : Eases server (server.dropConnection id) := by
  have forgets : Eases server (server.forgetConnection id) := by
    refine ⟨rfl, fun connection next found => ?_, fun _ => Nat.le_refl _⟩
    have other : connection ≠ id := by
      rintro rfl
      rw [forgetConnection, AList.lookup_erase] at found
      cases found
    rw [forgetConnection, AList.lookup_erase_ne other] at found
    exact ⟨next, found, rfl, fun closes => closes, fun empty => empty⟩
  exact forgets.trans (eases_tell _ nofun)

/-- A server that accepts nothing, hands nothing over and leaves the streams alone eases. -/
theorem Moves.eases (moves : Moves (fun _ _ => False) server after) : Eases server after := by
  induction moves with
  | still alike calm =>
    refine ⟨alike.nextConnId, calm.connections, fun connection => ?_⟩
    unfold HttpSignaler.due
    rw [alike.pending]
    exact Nat.add_le_add_right calm.output.sublist.countP_le _
  | accept server now peer socket may => exact may.elim
  | stream alike may => exact may.elim
  | tell server input notConnected notClosed asks => exact eases_tell server asks
  | drop server connection => exact eases_dropConnection server connection
  | trans first second ihFirst ihSecond => exact ihFirst.trans ihSecond

/-! ## Accepting -/

theorem Orderly.openConnection (orderly : Orderly server events) (socket : host.wire.Socket) (now : Instant) :
    Orderly (server.openConnection socket now) events where
  unused connection new := by
    obtain ⟨absent, unseen⟩ := orderly.unused connection (Nat.le_of_succ_le new)
    refine ⟨fun member => ?_, unseen⟩
    rcases (AList.mem_insert _).mp member with rfl | old
    · exact Nat.not_succ_le_self _ new
    · exact absent old
  accounted connection conn found := by
    by_cases same : connection = server.nextConnId
    · obtain ⟨-, unasked, unrefused⟩ := orderly.unused connection (Nat.le_of_eq same.symm)
      rw [same, NetherHttpServer.openConnection, AList.lookup_insert, Option.some.injEq] at found
      rw [← found]
      refine ⟨unasked, fun refused => ?_, fun _ _ => rfl⟩
      rw [unrefused] at refused
      exact absurd refused (Nat.lt_irrefl 0)
    · rw [NetherHttpServer.openConnection, AList.lookup_insert_ne same] at found
      exact orderly.accounted connection conn found
  once := orderly.once
  owed := orderly.owed

theorem Orderly.accept (orderly : Orderly server events) (tick : Tick host) : Orderly (server.accept tick) events := by
  unfold NetherHttpServer.accept
  generalize tick.accepts.take maxAcceptsPerTick = accepts
  induction accepts generalizing server with
  | nil => exact orderly
  | cons accepted rest ih =>
    apply ih
    match accepted with
    | (none, socket) => exact orderly
    | (some peer, socket) => exact (orderly.openConnection socket tick.now).ease (eases_tell _ nofun)

theorem Orderly.admitted (orderly : Orderly server events) (tick : Tick host) : Orderly (server.admitted tick) events :=
  (orderly.ease (moves_carryTraffic server tick.traffic).eases).accept tick

/-! ## Pumping -/

theorem lookup_pumpOne_self (pumped : Pumped host) (id : Nat) :
    (pumpOne now pumped id).connections.lookup id =
      (pumped.connections.lookup id).map fun conn => (conn.pump host.crates now).1 := by
  unfold pumpOne
  cases found : pumped.connections.lookup id with
  | none => exact found
  | some conn =>
    cases turned : conn.pump host.crates now with
    | mk next outcome => cases outcome <;> simp [turned]

theorem lookup_pumpMany {ids : List Nat} (once : ids.Nodup) (pumped : Pumped host) (id : Nat) :
    (ids.foldl (pumpOne now) pumped).connections.lookup id =
      if id ∈ ids then (pumped.connections.lookup id).map fun conn => (conn.pump host.crates now).1
      else pumped.connections.lookup id := by
  induction ids generalizing pumped with
  | nil => rfl
  | cons first rest ih =>
    obtain ⟨fresh, once⟩ := List.nodup_cons.mp once
    rw [List.foldl_cons, ih once]
    by_cases same : id = first
    · subst same
      simp [fresh, lookup_pumpOne_self]
    · simp [same, lookup_pumpOne pumped same]

theorem nodup_visited (server : NetherHttpServer host) (tick : Tick host) :
    (tick.visit.arrange server.connections.keys).Nodup :=
  (tick.visit.perm _).nodup_iff.mpr server.connections.keys_nodup

theorem lookup_pumpAll (server : NetherHttpServer host) (tick : Tick host) (id : Nat) :
    (server.pumpAll tick).connections.lookup id =
      (server.connections.lookup id).map fun conn => (conn.pump host.crates tick.now).1 := by
  rw [pumpAll, lookup_pumpMany tick.now (server.nodup_visited tick)]
  split
  · rfl
  · rename_i unseen
    have absent : id ∉ server.connections := fun member => unseen (tick.visit.mem_arrange.mpr member)
    rw [AList.lookup_eq_none.mpr absent]
    rfl

theorem askMany (tick : Tick host) (items : List ((Nat × Request String) × Nat)) (server : NetherHttpServer host) :
    (items.foldl (ask tick) server).nextConnId = server.nextConnId ∧
      (items.foldl (ask tick) server).connections = server.connections ∧
      ∀ connection, (items.foldl (ask tick) server).signaler.due connection ≤
        server.signaler.due connection + (items.map (·.1.1)).count connection := by
  induction items generalizing server with
  | nil => exact ⟨rfl, rfl, fun _ => Nat.le_refl _⟩
  | cons item rest ih =>
    obtain ⟨nextConnId, connections, due⟩ := ih (ask tick server item)
    refine ⟨nextConnId, connections, fun connection => (due connection).trans ?_⟩
    have owed : (ask tick server item).signaler.due connection ≤
        server.signaler.due connection + if some item.1.1 = some connection then 1 else 0 :=
      HttpSignaler.due_handle host.tools _
    rw [List.map_cons, List.count_cons]
    simp only [Option.some.injEq, beq_iff_eq] at owed ⊢
    omega

def requestOf (server : NetherHttpServer host) (now : Instant) (id : Nat) : Option (Nat × StreamEvent) :=
  match server.decided now id with
  | some (.asked _) => some (id, .requested)
  | _ => none

theorem askedOf_verdict (server : NetherHttpServer host) (now : Instant) (id : Nat) :
    (askedOf id (verdict now server.connections id)).map (fun asked => (asked.1, .requested)) = server.requestOf now id := by
  unfold verdict requestOf decided
  cases found : server.connections.lookup id with
  | none => rfl
  | some conn =>
    rw [Option.map_some, Option.bind_some]
    cases decision : conn.decision host.crates now with
    | none =>
      obtain ⟨-, unasked⟩ := TcpConn.pump_undecided decision
      cases turned : (conn.pump host.crates now).2 with
      | asked request => exact absurd turned (unasked request)
      | kept => rfl
      | closed => rfl
    | some verdict =>
      cases verdict with
      | refused status =>
        obtain ⟨there, -, -, refuses⟩ := TcpConn.pump_refused decision
        rw [refuses]
        rfl
      | asked request =>
        rw [(TcpConn.pump_asked decision).2]
        rfl

theorem pumpEvents_eq (server : NetherHttpServer host) (tick : Tick host) :
    server.pumpEvents tick = (tick.visit.arrange server.connections.keys).filterMap (server.refusalOf tick.now) ++
      (tick.visit.arrange server.connections.keys).filterMap (server.requestOf tick.now) := by
  rw [pumpEvents, pumpAll, requests_pumpMany _ (server.nodup_visited tick), List.nil_append, List.map_filterMap]
  exact congrArg _ (List.filterMap_congr fun id _ => server.askedOf_verdict tick.now id)

theorem refusalOf_eq_some {now : Instant} {id : Nat} (refused : server.refusalOf now id = some event) :
    event = (id, .refused) ∧ ∃ status, server.decided now id = some (.refused status) := by
  unfold refusalOf at refused
  split at refused
  · rename_i status decided
    cases refused
    exact ⟨rfl, status, decided⟩
  · cases refused

theorem requestOf_eq_some {now : Instant} {id : Nat} (asked : server.requestOf now id = some event) :
    event = (id, .requested) ∧ ∃ request, server.decided now id = some (.asked request) := by
  unfold requestOf at asked
  split at asked
  · rename_i request decided
    cases asked
    exact ⟨rfl, request, decided⟩
  · cases asked

theorem visited_of_decided {id : Nat} {verdict : RequestVerdict} (decided : server.decided tick.now id = some verdict) :
    id ∈ tick.visit.arrange server.connections.keys := by
  obtain ⟨conn, found, -⟩ := Option.bind_eq_some_iff.mp decided
  exact tick.visit.mem_arrange.mpr (Table.mem_of_lookup found)

theorem mem_pumpEvents :
    event ∈ server.pumpEvents tick ↔
      (event.2 = .refused ∧ ∃ status, server.decided tick.now event.1 = some (.refused status)) ∨
      (event.2 = .requested ∧ ∃ request, server.decided tick.now event.1 = some (.asked request)) := by
  rw [pumpEvents_eq, List.mem_append, List.mem_filterMap, List.mem_filterMap]
  constructor
  · rintro (⟨id, -, refused⟩ | ⟨id, -, asked⟩)
    · obtain ⟨rfl, decided⟩ := refusalOf_eq_some refused
      exact .inl ⟨rfl, decided⟩
    · obtain ⟨rfl, decided⟩ := requestOf_eq_some asked
      exact .inr ⟨rfl, decided⟩
  · rcases event with ⟨id, kind⟩
    rintro (⟨rfl, status, decided⟩ | ⟨rfl, request, decided⟩)
    · exact .inl ⟨id, visited_of_decided decided, by rw [refusalOf, decided]⟩
    · exact .inr ⟨id, visited_of_decided decided, by rw [requestOf, decided]⟩

-- each connection has one turn
theorem nodup_pumpEvents (server : NetherHttpServer host) (tick : Tick host) : (server.pumpEvents tick).Nodup := by
  rw [pumpEvents_eq, List.nodup_append]
  refine ⟨(server.nodup_visited tick).filterMap ?_, (server.nodup_visited tick).filterMap ?_, ?_⟩
  · intro first second event refused refused'
    have one := (refusalOf_eq_some refused).1
    have other := (refusalOf_eq_some refused').1
    exact congrArg Prod.fst (one.symm.trans other)
  · intro first second event asked asked'
    have one := (requestOf_eq_some asked).1
    have other := (requestOf_eq_some asked').1
    exact congrArg Prod.fst (one.symm.trans other)
  · intro first inFirst second inSecond same
    obtain ⟨id, -, refused⟩ := List.mem_filterMap.mp inFirst
    obtain ⟨other, -, asked⟩ := List.mem_filterMap.mp inSecond
    rw [(refusalOf_eq_some refused).1, (requestOf_eq_some asked).1] at same
    cases same

theorem count_pumpEvents (server : NetherHttpServer host) (tick : Tick host) (event : Nat × StreamEvent) :
    (server.pumpEvents tick).count event = if event ∈ server.pumpEvents tick then 1 else 0 :=
  (server.nodup_pumpEvents tick).count

/-- The events of a connection whose turn decides nothing, refuses it or takes its request. -/
theorem counts_pumpEvents (server : NetherHttpServer host) (tick : Tick host) (connection : Nat) :
    (server.pumpEvents tick).count (connection, .responded) = 0 ∧
    match server.decided tick.now connection with
    | none => (server.pumpEvents tick).count (connection, .refused) = 0 ∧
        (server.pumpEvents tick).count (connection, .requested) = 0
    | some (.refused _) => (server.pumpEvents tick).count (connection, .refused) = 1 ∧
        (server.pumpEvents tick).count (connection, .requested) = 0
    | some (.asked _) => (server.pumpEvents tick).count (connection, .refused) = 0 ∧
        (server.pumpEvents tick).count (connection, .requested) = 1 := by
  cases decided : server.decided tick.now connection with
  | none => simp [count_pumpEvents, mem_pumpEvents, decided]
  | some verdict => cases verdict <;> simp [count_pumpEvents, mem_pumpEvents, decided]

theorem unrefused_of_decision (orderly : Orderly server events) {now : Instant}
    (found : server.connections.lookup connection = some conn)
    (patient : conn.requested = false → conn.stream.hasOutbound = true → conn.decision host.crates now = none)
    {verdict : RequestVerdict} (decided : conn.decision host.crates now = some verdict) :
    events.count (connection, .refused) = 0 := by
  have fresh := TcpConn.fresh_of_decision decided
  by_contra refused
  have closes := (orderly.accounted connection conn found).refused (Nat.pos_of_ne_zero refused)
  rw [patient fresh (TcpConn.hasOutbound_of_decision decided closes)] at decided
  cases decided

-- what is owed grows by the requests of the turn
theorem due_askAll (server : NetherHttpServer host) (tick : Tick host) (connection : Nat) :
    (server.askAll tick).signaler.due connection ≤
      server.signaler.due connection + (server.pumpEvents tick).count (connection, .requested) := by
  have owed := (askMany tick (server.pumpAll tick).requests.zipIdx
    { server with connections := (server.pumpAll tick).connections }).2.2 connection
  have handed : ((server.pumpAll tick).requests.zipIdx.map (·.1.1)).count connection ≤
      (server.pumpEvents tick).count (connection, .requested) := by
    have tagged : Function.Injective fun id : Nat => (id, StreamEvent.requested) := fun _ _ same => congrArg Prod.fst same
    have indexed : (server.pumpAll tick).requests.zipIdx.map (·.1.1) = (server.pumpAll tick).requests.map Prod.fst := by
      have parts := List.map_map (f := Prod.fst) (g := Prod.fst) (l := (server.pumpAll tick).requests.zipIdx)
      rw [List.zipIdx_map_fst] at parts
      exact parts.symm
    have requests : (server.pumpAll tick).requests.map (fun asked => (asked.1, StreamEvent.requested)) =
        ((server.pumpAll tick).requests.map Prod.fst).map fun id => (id, .requested) := by
      rw [List.map_map]
      rfl
    rw [indexed, pumpEvents, List.count_append, requests, List.count_map_of_injective _ _ tagged]
    exact Nat.le_add_left _ _
  exact owed.trans (Nat.add_le_add_left handed _)

theorem accounted_pump (before : Accounted events connection conn)
    (found : server.connections.lookup connection = some conn)
    (unrefused : ∀ verdict, conn.decision host.crates tick.now = some verdict →
      events.count (connection, .refused) = 0) :
    Accounted (events ++ server.pumpEvents tick) connection (conn.pump host.crates tick.now).1 := by
  have counts := (server.counts_pumpEvents tick connection).2
  have decided : server.decided tick.now connection = conn.decision host.crates tick.now := by
    rw [NetherHttpServer.decided, found, Option.bind_some]
  rw [decided] at counts
  cases decision : conn.decision host.crates tick.now with
  | none =>
    rw [decision] at counts
    obtain ⟨same, -⟩ := TcpConn.pump_undecided decision
    constructor
    · rw [List.count_append, counts.2, same.requested]
      exact before.requested
    · rw [List.count_append, counts.1, same.closeAfterWrite]
      exact before.refused
    · rw [List.count_append, counts.1, same.requested]
      exact fun fresh none => same.outbound (before.silent fresh none)
  | some verdict =>
    have none := unrefused verdict decision
    have unasked := before.requested
    rw [TcpConn.fresh_of_decision decision, if_neg nofun] at unasked
    rw [decision] at counts
    cases verdict with
    | refused status =>
      obtain ⟨there, -, fresh, refuses⟩ := TcpConn.pump_refused decision
      rw [refuses]
      constructor
      · rw [List.count_append, counts.2, unasked, TcpConn.refuse, fresh]
        rfl
      · exact fun _ => rfl
      · intro _ unrefused
        rw [List.count_append, counts.1] at unrefused
        exact absurd unrefused (Nat.succ_ne_zero _)
    | asked request =>
      obtain ⟨asked, -⟩ := TcpConn.pump_asked decision
      constructor
      · rw [List.count_append, counts.2, unasked, asked]
        rfl
      · rw [List.count_append, counts.1, none]
        exact fun refused => absurd refused (Nat.lt_irrefl 0)
      · rw [asked]
        exact nofun

/-- A connection whose turn decides something has nothing behind it. -/
theorem Orderly.untouched (orderly : Orderly server events)
    (patient : ∀ connection conn, server.connections.lookup connection = some conn → conn.requested = false →
      conn.stream.hasOutbound = true → conn.decision host.crates tick.now = none) {verdict : RequestVerdict}
    (decided : server.decided tick.now connection = some verdict) :
    events.count (connection, .requested) = 0 ∧ events.count (connection, .refused) = 0 := by
  obtain ⟨conn, found, decision⟩ := Option.bind_eq_some_iff.mp decided
  have unasked := (orderly.accounted connection conn found).requested
  rw [TcpConn.fresh_of_decision decision, if_neg nofun] at unasked
  exact ⟨unasked, unrefused_of_decision orderly found (patient connection conn found) decision⟩

theorem Orderly.pump (orderly : Orderly server events) (tick : Tick host)
    (patient : ∀ connection conn, server.connections.lookup connection = some conn → conn.requested = false →
      conn.stream.hasOutbound = true → conn.decision host.crates tick.now = none) :
    Orderly (server.askAll tick) (events ++ server.pumpEvents tick) := by
  obtain ⟨nextConnId, connections, -⟩ := askMany tick (server.pumpAll tick).requests.zipIdx
    { server with connections := (server.pumpAll tick).connections }
  have lookup (connection : Nat) : (server.askAll tick).connections.lookup connection =
      (server.connections.lookup connection).map fun conn => (conn.pump host.crates tick.now).1 :=
    (congrArg (AList.lookup connection) connections).trans (server.lookup_pumpAll tick connection)
  have absent {connection : Nat} (closed : server.connections.lookup connection = none) :
      server.decided tick.now connection = none := by
    rw [NetherHttpServer.decided, closed, Option.bind_none]
  constructor
  · intro connection new
    obtain ⟨closed, unasked, unrefused⟩ := orderly.unused connection (nextConnId ▸ new)
    rw [← AList.lookup_eq_none] at closed
    have counts := (server.counts_pumpEvents tick connection).2
    rw [absent closed] at counts
    rw [← AList.lookup_eq_none, lookup, closed, List.count_append, List.count_append, counts.1, counts.2]
    exact ⟨rfl, unasked, unrefused⟩
  · intro connection next found
    rw [lookup] at found
    obtain ⟨conn, stored, rfl⟩ := Option.map_eq_some_iff.mp found
    refine accounted_pump (orderly.accounted connection conn stored) stored fun verdict decision => ?_
    exact unrefused_of_decision orderly stored (patient connection conn stored) decision
  · intro connection
    have counts := (server.counts_pumpEvents tick connection).2
    rw [List.count_append, List.count_append]
    cases decided : server.decided tick.now connection with
    | none =>
      rw [decided] at counts
      rw [counts.1, counts.2]
      exact orderly.once connection
    | some verdict =>
      obtain ⟨unasked, unrefused⟩ := orderly.untouched patient decided
      rw [decided] at counts
      cases verdict <;> rw [unrefused, unasked, counts.1, counts.2]
  · intro connection
    have silent := (server.counts_pumpEvents tick connection).1
    have owed := orderly.owed connection
    have grown := server.due_askAll tick connection
    rw [List.count_append, List.count_append, silent]
    omega

/-! ## Carrying out the outputs -/

theorem due_polled {output : HttpSignalerOutput} (queued : server.signaler.output = output :: rest) (connection : Nat) :
    server.signaler.due connection =
      (server.polled rest).signaler.due connection + if output.target.map Prod.fst = some connection then 1 else 0 := by
  simp only [HttpSignaler.due, HttpSignaler.responsesTo, queued, polled, List.countP_cons, decide_eq_true_eq]
  omega

/-- A response to an open connection goes to one that has asked. -/
theorem Orderly.respond (orderly : Orderly server events) {response : Response} {keepAlive : Bool}
    (queued : server.signaler.output = .response connection response keepAlive :: rest)
    (present : connection ∈ server.connections) (tick : Tick host) :
    Orderly ((server.polled rest).handleOutput (.response connection response keepAlive) tick)
      (events ++ [(connection, .responded)]) := by
  obtain ⟨conn, found⟩ := Option.isSome_iff_exists.mp (AList.lookup_isSome.mpr present)
  have owed := orderly.owed connection
  have less := due_polled queued connection
  rw [HttpSignalerOutput.target, Option.map_some, if_pos rfl] at less
  have asked := (orderly.accounted connection conn found).requested
  have once := orderly.once connection
  have requested : conn.requested = true := by
    by_contra fresh
    rw [if_neg fresh] at asked
    omega
  rw [if_pos requested] at asked
  rw [handleOutput, changeConn, show (server.polled rest).connections.lookup connection = some conn from found]
  refine ⟨fun other new => ?_, fun other next stored => ?_, fun other => ?_, fun other => ?_⟩
  · obtain ⟨absent, unasked, unrefused⟩ := orderly.unused other new
    have differs : other ≠ connection := fun same => absent (same ▸ present)
    refine ⟨fun member => ?_, by simpa [List.count_append] using unasked, by simpa [List.count_append] using unrefused⟩
    exact ((AList.mem_insert _).mp member).elim differs absent
  · by_cases same : other = connection
    · subst same
      rw [AList.lookup_insert, Option.some.injEq] at stored
      subst stored
      refine ⟨?_, fun _ => rfl, fun fresh => ?_⟩
      · simpa [List.count_append, requested] using asked
      · rw [requested] at fresh
        cases fresh
    · rw [AList.lookup_insert_ne same] at stored
      have before := orderly.accounted other next stored
      exact ⟨by simpa [List.count_append] using before.requested, by simpa [List.count_append] using before.refused,
        by simpa [List.count_append] using before.silent⟩
  · simpa [List.count_append] using orderly.once other
  · have left := due_polled queued other
    have before := orderly.owed other
    simp only [HttpSignalerOutput.target, Option.map_some, Option.some.injEq] at left
    simp only [List.count_append, List.count_singleton, beq_iff_eq, Prod.mk.injEq, and_true, reduceCtorEq, and_false,
      if_false, Nat.add_zero]
    change _ + (server.polled rest).signaler.due other ≤ _
    omega

theorem Orderly.output (orderly : Orderly server events) {output : HttpSignalerOutput}
    (queued : server.signaler.output = output :: rest) (tick : Tick host) :
    Orderly ((server.polled rest).handleOutput output tick) (events ++ server.outputEvents output) := by
  cases output with
  | response connection response keepAlive =>
    by_cases present : connection ∈ server.connections
    · rw [outputEvents, if_pos present]
      exact orderly.respond queued present tick
    · rw [outputEvents, if_neg present, List.append_nil]
      have gone : (server.polled rest).connections.lookup connection = none := AList.lookup_eq_none.mpr present
      rw [handleOutput, changeConn, gone]
      exact orderly.ease (moves_polled queued).eases
  | close connection =>
    simp only [outputEvents, List.append_nil]
    exact orderly.ease ((moves_polled queued).trans (moves_close _ connection)).eases
  | offer offer =>
    simp only [outputEvents, List.append_nil]
    exact orderly.ease ((moves_polled queued).trans (moves_handleOffer _ offer tick)).eases
  | wait duration =>
    simp only [outputEvents, List.append_nil]
    exact orderly.ease (moves_polled queued).eases

theorem Orderly.poll (orderly : Orderly server events) (tick : Tick host) (turns : Nat) :
    Orderly (pollOutputs tick turns server) (events ++ pollEvents tick turns server) := by
  induction turns generalizing server events with
  | zero => simpa [pollEvents, pollOutputs] using orderly
  | succ turns ih =>
    unfold pollOutputs pollEvents HttpSignaler.poll
    cases queued : server.signaler.output with
    | nil => simpa using orderly
    | cons output rest =>
      rw [← List.append_assoc]
      exact ih (orderly.output queued tick)

/-! ## Whole runs -/

theorem Orderly.update (orderly : Orderly server events) (tick : Tick host) (patient : server.Patient (.update tick)) :
    Orderly (server.update tick) (events ++ server.updateEvents tick) := by
  have pumped : Orderly ((server.admitted tick).pumpConnections tick) (events ++ (server.admitted tick).pumpEvents tick) :=
    ((orderly.admitted tick).pump tick patient).ease (moves_drops _ _).eases
  have told : Orderly (((server.admitted tick).pumpConnections tick).tell (.update tick.now tick.visitJoins))
      (events ++ (server.admitted tick).pumpEvents tick) := pumped.ease (eases_tell _ nofun)
  have settled := told.poll tick (outputTurns
    (((server.admitted tick).pumpConnections tick).tell (.update tick.now tick.visitJoins)).signaler.output)
  rw [updateEvents, ← List.append_assoc]
  exact settled.ease (moves_finish _ tick).eases

theorem Orderly.watch (orderly : Orderly server events) (patient : server.Patient input) :
    Orderly (server.watch input).1 (events ++ (server.watch input).2) := by
  cases input with
  | update tick => exact orderly.update tick patient
  | _ =>
    simp only [NetherHttpServer.watch, List.append_nil]
    exact orderly.ease (moves_step fun _ same => by cases same).eases

theorem orderly_bind (config : HttpSignalerConfig) (addr : SocketAddr) (advertised : List IpAddr) :
    Orderly (bind config addr advertised : NetherHttpServer host) [] where
  unused _ _ := ⟨nofun, rfl, rfl⟩
  accounted _ _ found := nomatch found
  once _ := Nat.zero_le _
  owed _ := Nat.le_refl _

theorem Orderly.oneEach (orderly : Orderly server events) : OneEach events where
  request connection := Nat.le_of_add_right_le (orderly.once connection)
  response connection := by
    have once := orderly.once connection
    have owed := orderly.owed connection
    omega
  order := by
    rintro connection before after rfl refused
    have once := orderly.once connection
    have some := List.count_pos_iff.mpr refused
    simp only [List.count_append, List.count_cons_self] at once
    omega

theorem OneEach.of_append {more : List (Nat × StreamEvent)} (oneEach : OneEach (events ++ more)) : OneEach events where
  request connection := by
    have one := oneEach.request connection
    rw [List.count_append] at one
    omega
  response connection := by
    have one := oneEach.response connection
    rw [List.count_append, List.count_append] at one
    omega
  order := by
    rintro connection before after rfl
    exact oneEach.order connection before (after ++ more) (by simp)

/-- A decision on a connection that has its refusal still to write is one too many. -/
theorem patient_of_oneEach (orderly : Orderly server events) (oneEach : OneEach (events ++ (server.watch input).2)) :
    server.Patient input := by
  cases input with
  | update tick =>
    intro connection conn found fresh writes
    have refused : (connection, StreamEvent.refused) ∈ events := by
      by_contra unrefused
      have silent := ((orderly.admitted tick).accounted connection conn found).silent fresh (List.count_eq_zero.mpr unrefused)
      simp [HttpStream.hasOutbound, silent] at writes
    have more : OneEach (events ++ (server.admitted tick).pumpEvents tick) := by
      rw [watch, updateEvents, ← List.append_assoc] at oneEach
      exact oneEach.of_append
    by_contra decides
    obtain ⟨verdict, decision⟩ := Option.ne_none_iff_exists'.mp decides
    have decided : (server.admitted tick).decided tick.now connection = some verdict := by
      rw [NetherHttpServer.decided, found, Option.bind_some, decision]
    cases verdict with
    | refused status =>
      have again : (connection, StreamEvent.refused) ∈ (server.admitted tick).pumpEvents tick :=
        mem_pumpEvents.mpr (.inl ⟨rfl, status, decided⟩)
      have one := more.response connection
      have first := List.count_pos_iff.mpr refused
      have second := List.count_pos_iff.mpr again
      rw [List.count_append] at one
      omega
    | asked request =>
      have behind : (connection, StreamEvent.requested) ∈ (server.admitted tick).pumpEvents tick :=
        mem_pumpEvents.mpr (.inr ⟨rfl, request, decided⟩)
      obtain ⟨before, after, split⟩ := List.append_of_mem behind
      exact more.order connection (events ++ before) after (by rw [split, List.append_assoc])
        (List.mem_append_left before refused)
  | _ => trivial

theorem oneEach_run (orderly : Orderly server events) (inputs : List (NetherHttpServerInput host)) :
    OneEach (events ++ (run NetherHttpServer.watch server inputs).2.flatten) ↔ Along NetherHttpServer.watch Patient server inputs := by
  induction inputs generalizing server events with
  | nil =>
    rw [run, List.flatten_nil, List.append_nil]
    exact iff_of_true orderly.oneEach trivial
  | cons input rest ih =>
    rw [run_cons, List.flatten_cons, ← List.append_assoc]
    constructor
    · intro oneEach
      have patient := patient_of_oneEach orderly oneEach.of_append
      exact ⟨patient, (ih (orderly.watch patient)).mp oneEach⟩
    · rintro ⟨patient, along⟩
      exact (ih (orderly.watch patient)).mpr along

end

/-- Each connection has at most one request and one response, and no request behind a refusal, exactly
if no connection sends on while its refusal is still to be written. -/
theorem one_response_iff (config : HttpSignalerConfig) (addr : SocketAddr) (advertised : List IpAddr)
    (inputs : List (NetherHttpServerInput host)) :
    OneEach (run watch (bind config addr advertised) inputs).2.flatten ↔
      Along watch Patient (bind config addr advertised) inputs :=
  oneEach_run (orderly_bind config addr advertised) inputs

-- no write gets through
def stalledHost : HttpHost :=
  { plainHost with
    wire := { plainWire with write := fun held _ => (held, .error (.io true)) }
    crates := plainCrates }

def stalledTick (now : Instant) (accepts : List (Option SocketAddr × Bytes)) (arrived : Bytes) : Tick stalledHost where
  now := now
  wall := .unixEpoch
  accepts := accepts
  traffic _ held := List.append held arrived
  poolEvents := []
  joinId _ := 77
  visit := .inOrder
  visitJoins := .inOrder

/-- The refusal of a first line waits to be written while a request comes in behind it: the request is
handed over, and its response is queued behind the refusal. -/
theorem refused_connection_answered :
    let events := (run watch (bind oneEach (.loopback 7551) [] : NetherHttpServer stalledHost)
      [.update (stalledTick 0 [(some (.loopback 40000), utf8 "hello\r\n")] []),
        .update (stalledTick 1 [] (utf8 "GET /v1/join HTTP/1.1\r\n\r\n"))]).2.flatten
    events = [(0, .refused), (0, .requested), (0, .responded)] ∧ ¬OneEach events := by
  intro events
  have trace : events = [(0, .refused), (0, .requested), (0, .responded)] := by decide +kernel
  exact ⟨trace, fun oneEach => oneEach.order 0 [(0, .refused)] [(0, .responded)] trace (by decide)⟩

end NetherHttpServer

end Nethernet
