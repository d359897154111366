import Nethernet.Http.Joins
import Nethernet.Http.Server

/-! Which connections the HTTP server serves. A connection over the limit of its
address is told to close, but only after the update that accepted it has already
pumped it: the runs in which such a connection gets nothing are exactly those in
which it never completes a request while it is still pumped. -/

set_option autoImplicit false

namespace Nethernet
open Foundation Http

/-! ## The record of the signaler's calls -/

variable {connection : Nat} {output : HttpSignalerOutput}

namespace SignalerCall

def outputs (call : SignalerCall) : List HttpSignalerOutput := call.after.output.drop call.before.output.length

/-- The call told the connection to close. -/
def closes (call : SignalerCall) (connection : Nat) : Bool :=
  call.outputs.any fun output => match output with
    | .close closed => closed = connection
    | _ => false

/-- The call put out a response or an offer for the connection, or a request of the connection made it panic. -/
def serves (call : SignalerCall) (connection : Nat) : Bool :=
  (call.result = .aborted && call.input.asker = some connection) ||
  call.outputs.any fun output => match output with
    | .response served _ _ => served = connection
    | .offer _ => call.input.asker = some connection
    | _ => false

def made (tools : JoinTools) (signaler : HttpSignaler) (input : HttpSignalerInput) : SignalerCall :=
  ⟨signaler, input, (signaler.handle tools input).1, (signaler.handle tools input).2⟩

variable {tools : JoinTools} {signaler : HttpSignaler} {input : HttpSignalerInput}

theorem outputs_eq {call : SignalerCall} {added : List HttpSignalerOutput}
    (grown : call.after.output = call.before.output ++ added) : call.outputs = added := by
  rw [outputs, grown, List.drop_left]

theorem due_of_mem_made (member : output ∈ (made tools signaler input).outputs) :
    HttpSignaler.Due signaler input output := by
  obtain ⟨added, grown, due⟩ := (HttpSignaler.effect_handle tools signaler input).output
  rw [outputs_eq grown] at member
  exact due output member

theorem connected_of_closes (closes : (made tools signaler input).closes connection) :
    ∃ addr, input = .connected connection addr := by
  obtain ⟨output, member, matched⟩ := List.any_eq_true.mp closes
  cases due_of_mem_made member with
  | @close told addr connects =>
    have same : told = connection := by simpa using matched
    exact ⟨addr, same ▸ connects⟩
  | asked asks => simp at matched
  | waited waits => simp at matched
  | offer asks => simp at matched
  | wait => simp at matched

theorem asker_of_serves (serves : (made tools signaler input).serves connection) :
    input.asker = some connection ∨ ∃ join ∈ signaler.pending.entries, join.2.connection = connection := by
  rcases Bool.or_eq_true_iff.mp serves with aborted | put
  · exact .inl (of_decide_eq_true (Bool.and_eq_true_iff.mp aborted).2)
  obtain ⟨output, member, matched⟩ := List.any_eq_true.mp put
  cases due_of_mem_made member with
  | @asked answered _ _ asks =>
    have same : answered = connection := by simpa using matched
    exact .inl (same ▸ asks)
  | waited waits => exact .inr ⟨_, waits, by simpa using matched⟩
  | offer asks => exact .inl (of_decide_eq_true matched)
  | close connects => simp at matched
  | wait => simp at matched

theorem serves_request (connection : Nat) (request : Request String) (now : Instant) (wall : SystemTime)
    (joinId : UInt64) :
    (made tools signaler (.request connection request now wall joinId)).serves connection = true := by
  rcases HttpSignaler.handleRequest_cases tools signaler connection request now wall joinId with
    ⟨response, answered⟩ | ⟨-, networkId, player, admitted⟩ | ⟨aborted, -⟩
  · simp [serves, made, HttpSignaler.handle, answered, outputs, HttpSignaler.push]
  · simp [serves, made, HttpSignaler.handle, admitted, outputs, HttpSignaler.admitJoin, HttpSignalerInput.asker]
  · simp [serves, made, HttpSignaler.handle, aborted, HttpSignalerInput.asker]

end SignalerCall

variable {input : HttpSignalerInput}

namespace NetherHttpServer
variable {host : HttpHost}

/-- `connected` put out a close for the connection. -/
def refused (server : NetherHttpServer host) (connection : Nat) : Bool :=
  server.calls.any (·.closes connection)

def served (server : NetherHttpServer host) (connection : Nat) : Bool :=
  server.calls.any (·.serves connection)

variable (server : NetherHttpServer host)

theorem calls_tell (input : HttpSignalerInput) :
    (server.tell input).calls = server.calls ++ [.made host.tools server.signaler input] := rfl

theorem refused_tell_eq (input : HttpSignalerInput) (connection : Nat) :
    (server.tell input).refused connection =
      (server.refused connection || (SignalerCall.made host.tools server.signaler input).closes connection) := by
  simp [refused, calls_tell]

theorem served_tell_eq (input : HttpSignalerInput) (connection : Nat) :
    (server.tell input).served connection =
      (server.served connection || (SignalerCall.made host.tools server.signaler input).serves connection) := by
  simp [served, calls_tell]

theorem served_tell {server : NetherHttpServer host} (served : (server.tell input).served connection) :
    server.served connection ∨ input.asker = some connection ∨
      ∃ join ∈ server.signaler.pending.entries, join.2.connection = connection := by
  rw [served_tell_eq, Bool.or_eq_true] at served
  exact served.imp_right SignalerCall.asker_of_serves

theorem any_of_grown {A : Type} {test : A → Bool} {first later : List A} (grown : first <+: later)
    (found : first.any test) : later.any test := by
  obtain ⟨item, member, matched⟩ := List.any_eq_true.mp found
  exact List.any_eq_true.mpr ⟨item, grown.subset member, matched⟩

/-! ## What an update is made of -/

/-- Nothing changed that the serving of connections depends on. -/
structure Alike (server after : NetherHttpServer host) : Prop where
  calls : after.calls = server.calls
  nextConnId : after.nextConnId = server.nextConnId
  connections : ∀ connection, connection ∈ after.connections ↔ connection ∈ server.connections
  registered : after.signaler.connections = server.signaler.connections
  pending : after.signaler.pending = server.signaler.pending

theorem Alike.refl : Alike server server :=
  ⟨rfl, rfl, fun _ => .rfl, rfl, rfl⟩

-- nothing happened on the streams; connections may have gone or be marked for their close
def Untouched (before after : Table Nat (TcpConn host.wire)) : Prop :=
  ∀ connection next, after.lookup connection = some next →
    ∃ conn, before.lookup connection = some conn ∧ next.requested = conn.requested ∧
      (conn.closeAfterWrite = true → next.closeAfterWrite = true) ∧
      (conn.stream.outbound = [] → next.stream.outbound = [])

/-- Connections may be marked for their close, and outputs be taken. -/
structure Calm (server after : NetherHttpServer host) : Prop where
  connections : Untouched server.connections after.connections
  output : after.signaler.output <:+ server.signaler.output

/-- What a server may be kept from: it accepts a connection, hands a request over, or reads and writes streams. -/
inductive Deed where
  | accept
  | ask (connection : Nat)
  | stream

/-- The steps of a server that does only what is `permitted`. -/
inductive Moves (permitted : NetherHttpServer host → Deed → Prop) :
    NetherHttpServer host → NetherHttpServer host → Prop where
  | still {server after : NetherHttpServer host} (alike : Alike server after) (calm : Calm server after) :
      Moves permitted server after
  | accept (server : NetherHttpServer host) (now : Instant) (peer : SocketAddr) (socket : host.wire.Socket)
      (may : permitted server .accept) : Moves permitted server (server.acceptOne now (some peer, socket))
  | tell (server : NetherHttpServer host) (input : HttpSignalerInput)
      (notConnected : ∀ connection addr, input ≠ .connected connection addr)
      (notClosed : ∀ connection, input ≠ .closed connection)
      (asks : ∀ connection, input.asker = some connection → permitted server (.ask connection)) :
      Moves permitted server (server.tell input)
  | stream {server after : NetherHttpServer host} (alike : Alike server after) (may : permitted server .stream) :
      Moves permitted server after
  | drop (server : NetherHttpServer host) (connection : Nat) :
      Moves permitted server (server.dropConnection connection)
  | trans {server middle after : NetherHttpServer host} (first : Moves permitted server middle)
      (second : Moves permitted middle after) : Moves permitted server after

/-- All but the handing over of requests is permitted. -/
def Lenient (permitted : NetherHttpServer host → Deed → Prop) : Prop :=
  ∀ server, permitted server .accept ∧ permitted server .stream

variable {after : NetherHttpServer host}

section
variable {permitted : NetherHttpServer host → Deed → Prop}

theorem Moves.of_same {server : NetherHttpServer host} (calls : after.calls = server.calls)
    (nextConnId : after.nextConnId = server.nextConnId) (connections : after.connections = server.connections)
    (signaler : after.signaler = server.signaler) : Moves permitted server after := by
  refine .still ⟨calls, nextConnId, fun _ => by rw [connections], by rw [signaler], by rw [signaler]⟩ ⟨?_, ?_⟩
  · exact fun _ next found => ⟨next, connections ▸ found, rfl, id, id⟩
  · exact signaler ▸ List.suffix_rfl

theorem Moves.refl : Moves permitted server server := .of_same rfl rfl rfl rfl

theorem Moves.foldl {A : Type} {step : NetherHttpServer host → A → NetherHttpServer host}
    (invariant : NetherHttpServer host → Prop) {items : List A}
    (each : ∀ server, ∀ item ∈ items, invariant server →
      Moves permitted server (step server item) ∧ invariant (step server item))
    {server : NetherHttpServer host} (start : invariant server) :
    Moves permitted server (items.foldl step server) := by
  induction items generalizing server with
  | nil => exact .refl server
  | cons item rest ih =>
    obtain ⟨moved, kept⟩ := each server item (by simp) start
    have later := ih (fun later next member => each later next (by simp [member])) kept
    exact moved.trans later

theorem moves_accept (lenient : Lenient permitted) (server : NetherHttpServer host) (tick : Tick host) :
    Moves permitted server (server.accept tick) := by
  refine Moves.foldl (fun _ => True) ?_ trivial
  intro current accepted _ _
  refine ⟨?_, trivial⟩
  match accepted with
  | (none, socket) => exact .refl current
  | (some peer, socket) => exact .accept current tick.now peer socket (lenient current).1

theorem moves_carryTraffic (traffic : Nat → host.wire.Socket → host.wire.Socket) :
    Moves permitted server (server.carryTraffic traffic) := by
  refine .still ⟨rfl, rfl, fun _ => Table.mem_map, rfl, rfl⟩ ⟨fun connection next found => ?_, List.suffix_rfl⟩
  rw [carryTraffic, Table.lookup_map] at found
  obtain ⟨conn, stored, rfl⟩ := Option.map_eq_some_iff.mp found
  exact ⟨conn, stored, rfl, fun closes => closes, fun empty => empty⟩

theorem moves_admitted (lenient : Lenient permitted) (server : NetherHttpServer host) (tick : Tick host) :
    Moves permitted server (server.admitted tick) :=
  (moves_carryTraffic server tick.traffic).trans (moves_accept lenient _ tick)

-- a tell that neither opens nor closes a connection, and hands over no request
theorem moves_settle (notConnected : ∀ connection addr, input ≠ .connected connection addr)
    (notClosed : ∀ connection, input ≠ .closed connection) (unasked : input.asker = none) :
    Moves permitted server (server.tell input) := by
  refine .tell server input notConnected notClosed ?_
  intro connection asks
  rw [unasked] at asks
  cases asks

theorem moves_drops (connections : List Nat) : Moves permitted server (connections.foldl dropConnection server) := by
  refine Moves.foldl (fun _ => True) ?_ trivial
  intro current connection _ _
  exact ⟨.drop current connection, trivial⟩

theorem alike_changeConn (connection : Nat) (change : TcpConn host.wire → TcpConn host.wire) :
    Alike server (server.changeConn connection change) := by
  unfold changeConn
  split
  · exact .refl server
  · rename_i conn found
    refine ⟨rfl, rfl, ?_, rfl, rfl⟩
    intro other
    rw [AList.mem_insert]
    constructor
    · rintro (rfl | member)
      · exact AList.lookup_isSome.mp (by rw [found]; rfl)
      · exact member
    · exact .inr

-- to mark a connection for its close leaves its stream alone
theorem calm_close (id : Nat) :
    Calm server (server.changeConn id fun conn => { conn with closeAfterWrite := true }) := by
  unfold changeConn
  split
  · exact ⟨fun _ next found => ⟨next, found, rfl, fun closes => closes, fun empty => empty⟩, List.suffix_rfl⟩
  · rename_i conn stored
    refine ⟨fun connection next found => ?_, List.suffix_rfl⟩
    by_cases same : connection = id
    · subst same
      rw [AList.lookup_insert, Option.some.injEq] at found
      subst found
      exact ⟨conn, stored, rfl, fun _ => rfl, fun empty => empty⟩
    · rw [AList.lookup_insert_ne same] at found
      exact ⟨next, found, rfl, fun closes => closes, fun empty => empty⟩

theorem moves_close (id : Nat) :
    Moves permitted server (server.changeConn id fun conn => { conn with closeAfterWrite := true }) :=
  .still (alike_changeConn server id _) (calm_close server id)

theorem moves_handleOffer (offer : Offer) (tick : Tick host) :
    Moves permitted server (server.handleOffer offer tick) := by
  rcases server.handleOffer_cases offer tick with ⟨reason, rejected⟩ | ⟨data, link, ufrag, entry, opened⟩
  · rw [rejected]
    exact moves_settle server nofun nofun rfl
  · rw [opened]
    have told : Moves permitted server (server.tell (.answer offer.connectionId data)) :=
      moves_settle server nofun nofun rfl
    exact told.trans (.of_same rfl rfl rfl rfl)

theorem moves_handleOutput (lenient : Lenient permitted) (server : NetherHttpServer host) (output : HttpSignalerOutput)
    (tick : Tick host) : Moves permitted server (server.handleOutput output tick) := by
  cases output with
  | response connection response keepAlive => exact .stream (alike_changeConn server connection _) (lenient server).2
  | close connection => exact moves_close server connection
  | offer offer => exact moves_handleOffer server offer tick
  | wait duration => exact .refl server

/-- The server once the first output of the signaler is taken. -/
def polled (server : NetherHttpServer host) (rest : List HttpSignalerOutput) : NetherHttpServer host :=
  { server with signaler := { server.signaler with output := rest } }

theorem moves_polled {server : NetherHttpServer host} {rest : List HttpSignalerOutput}
    (queued : server.signaler.output = output :: rest) : Moves permitted server (server.polled rest) := by
  refine .still ⟨rfl, rfl, fun _ => .rfl, rfl, rfl⟩ ⟨?_, queued ▸ List.suffix_cons output rest⟩
  exact fun _ next found => ⟨next, found, rfl, fun closes => closes, fun empty => empty⟩

theorem moves_pollOutputs (lenient : Lenient permitted) (tick : Tick host) (turns : Nat) (server : NetherHttpServer host) :
    Moves permitted server (pollOutputs tick turns server) := by
  induction turns generalizing server with
  | zero => exact .refl server
  | succ turns ih =>
    unfold pollOutputs HttpSignaler.poll
    cases queued : server.signaler.output with
    | nil => exact .refl server
    | cons output rest => exact (moves_polled queued).trans ((moves_handleOutput lenient _ output tick).trans (ih _))

theorem moves_settled (lenient : Lenient permitted) (server : NetherHttpServer host) (tick : Tick host) :
    Moves permitted server (server.settled tick) := by
  have updated : Moves permitted server (server.tell (.update tick.now tick.visitJoins)) :=
    moves_settle server nofun nofun rfl
  exact updated.trans (moves_pollOutputs lenient tick _ _)

theorem moves_disconnect (id : NetherSessionId) : Moves permitted server (server.disconnect id) := by
  unfold disconnect
  split
  · exact .of_same rfl rfl rfl rfl
  · exact .refl server

theorem moves_poolEvent (state : NetherHttpServer host × List NetherSessionId)
    (item : NetherSessionId × ConnectionEvent) : Moves permitted state.1 (poolEvent state item).1 := by
  unfold poolEvent
  repeat' split
  all_goals exact .of_same rfl rfl rfl rfl

theorem moves_driveSessions (tick : Tick host) : Moves permitted server (server.driveSessions tick) := by
  have seen : Moves permitted server (tick.poolEvents.foldl poolEvent (server, [])).1 :=
    List.foldlRecOn (motive := fun state : NetherHttpServer host × List NetherSessionId => Moves permitted server state.1)
      _ _ (.refl server) fun state moved item _ => moved.trans (moves_poolEvent state item)
  refine seen.trans (Moves.foldl (fun _ => True) ?_ trivial)
  intro current id _ _
  exact ⟨moves_disconnect current id, trivial⟩

-- everything of an update behind the outputs of the signaler
theorem moves_finish (tick : Tick host) :
    Moves permitted server (((server.driveSessions tick).dropIdle tick).expireSessions tick.now) :=
  ((moves_driveSessions server tick).trans (moves_drops _ _)).trans (.of_same rfl rfl rfl rfl)

-- everything of an update after the requests are handed over
theorem moves_rest (lenient : Lenient permitted) (server : NetherHttpServer host) (tick : Tick host) :
    Moves permitted ((server.admitted tick).askAll tick) (server.update tick) := by
  have pumped : Moves permitted ((server.admitted tick).askAll tick) ((server.admitted tick).pumpConnections tick) :=
    moves_drops _ _
  exact (pumped.trans (moves_settled lenient _ tick)).trans (moves_finish _ tick)

theorem Moves.calls {server : NetherHttpServer host} (moves : Moves permitted server after) :
    server.calls <+: after.calls := by
  induction moves with
  | still alike calm => exact alike.calls ▸ List.prefix_rfl
  | stream alike may => exact alike.calls ▸ List.prefix_rfl
  | accept server now peer socket => exact List.prefix_append _ _
  | tell server input => exact List.prefix_append _ _
  | drop server connection => exact List.prefix_append _ _
  | trans first second ihFirst ihSecond => exact ihFirst.trans ihSecond

end

/-! ## The requests of a pump -/

variable (pumped : Pumped host)

section
variable {now : Instant}

def verdict (now : Instant) (connections : Table Nat (TcpConn host.wire)) (id : Nat) : Option Verdict :=
  (connections.lookup id).map fun conn => (conn.pump host.crates now).2

def askedOf (id : Nat) : Option Verdict → Option (Nat × Request String)
  | some (.asked request) => some (id, request)
  | _ => none

theorem requests_pumpOne (id : Nat) :
    (pumpOne now pumped id).requests =
      pumped.requests ++ (askedOf id (verdict now pumped.connections id)).toList := by
  unfold pumpOne verdict
  cases found : pumped.connections.lookup id with
  | none => simp [askedOf]
  | some conn =>
    cases turned : conn.pump host.crates now with
    | mk next outcome => cases outcome <;> simp [askedOf, turned]

theorem lookup_pumpOne {id other : Nat} (differ : other ≠ id) :
    (pumpOne now pumped id).connections.lookup other = pumped.connections.lookup other := by
  unfold pumpOne
  repeat' split
  · rfl
  all_goals exact AList.lookup_insert_ne differ

theorem mem_pumpOne (id other : Nat) : other ∈ (pumpOne now pumped id).connections ↔ other ∈ pumped.connections := by
  by_cases same : other = id
  · subst same
    unfold pumpOne
    split
    · rfl
    · rename_i conn found
      have member : other ∈ pumped.connections := AList.lookup_isSome.mp (by rw [found]; rfl)
      repeat' split
      all_goals simp [member]
  · rw [← AList.lookup_isSome, lookup_pumpOne pumped same, AList.lookup_isSome]

-- every connection is visited once, so each is pumped as the loop found it
theorem requests_pumpMany (ids : List Nat) (once : ids.Nodup) (pumped : Pumped host) :
    (ids.foldl (pumpOne now) pumped).requests =
      pumped.requests ++ ids.filterMap fun id => askedOf id (verdict now pumped.connections id) := by
  induction ids generalizing pumped with
  | nil => simp
  | cons id rest ih =>
    obtain ⟨fresh, once⟩ := List.nodup_cons.mp once
    have same : ∀ other ∈ rest, askedOf other (verdict now (pumpOne now pumped id).connections other) =
        askedOf other (verdict now pumped.connections other) := by
      intro other member
      have differ : other ≠ id := fun equal => fresh (equal ▸ member)
      rw [verdict, lookup_pumpOne pumped differ, ← verdict]
    rw [List.foldl_cons, ih once, requests_pumpOne, List.filterMap_congr same, List.filterMap_cons]
    cases askedOf id (verdict now pumped.connections id) <;> simp

theorem mem_pumpMany (ids : List Nat) (pumped : Pumped host) (other : Nat) :
    other ∈ (ids.foldl (pumpOne now) pumped).connections ↔ other ∈ pumped.connections := by
  induction ids generalizing pumped with
  | nil => rfl
  | cons id rest ih => rw [List.foldl_cons, ih, mem_pumpOne]

end

variable {tick : Tick host}

/-- The pump collects a request from exactly the connections whose turn reads one. -/
theorem mem_requests {server : NetherHttpServer host} {id : Nat} {request : Request String} :
    (id, request) ∈ (server.pumpAll tick).requests ↔
      ∃ conn, server.connections.lookup id = some conn ∧ (conn.pump host.crates tick.now).2 = .asked request := by
  have once : (tick.visit.arrange server.connections.keys).Nodup :=
    (tick.visit.perm _).nodup_iff.mpr server.connections.keys_nodup
  rw [pumpAll, requests_pumpMany _ once, List.nil_append, List.mem_filterMap]
  constructor
  · rintro ⟨visited, member, asked⟩
    unfold verdict at asked
    cases found : server.connections.lookup visited with
    | none => simp [found, askedOf] at asked
    | some conn =>
      rw [found, Option.map_some] at asked
      cases turned : (conn.pump host.crates tick.now).2 with
      | kept => simp [turned, askedOf] at asked
      | closed => simp [turned, askedOf] at asked
      | asked read =>
        rw [turned] at asked
        cases asked
        exact ⟨conn, found, turned⟩
  · rintro ⟨conn, found, turned⟩
    have member : id ∈ server.connections.keys := AList.lookup_isSome.mp (by rw [found]; rfl)
    refine ⟨id, tick.visit.mem_arrange.mpr member, ?_⟩
    rw [verdict, found, Option.map_some, turned]
    rfl

/-! ## Handing the requests over -/

variable {permitted : NetherHttpServer host → Deed → Prop}

theorem moves_askAll (lenient : Lenient permitted) {server : NetherHttpServer host}
    (asks : ∀ asked ∈ (server.pumpAll tick).requests, ∀ later : NetherHttpServer host,
      later.signaler.connections = server.signaler.connections → permitted later (.ask asked.1)) :
    Moves permitted server (server.askAll tick) := by
  have pumped : Alike server { server with connections := (server.pumpAll tick).connections } :=
    ⟨rfl, rfl, mem_pumpMany _ _, rfl, rfl⟩
  refine (Moves.stream pumped (lenient server).2).trans
    (Moves.foldl (fun later => later.signaler.connections = server.signaler.connections) ?_ rfl)
  rintro later ⟨asked, index⟩ member same
  have collected : asked ∈ (server.pumpAll tick).requests := List.fst_mem_of_mem_zipIdx member
  constructor
  · refine .tell later _ nofun nofun ?_
    rintro connection asker
    cases asker
    exact asks asked collected later same
  · have kept : (later.signaler.handle host.tools
        (.request asked.1 asked.2 tick.now tick.wall (tick.joinId index))).1.connections =
        later.signaler.connections :=
      congrArg (·.2.1) (HttpSignaler.house_handleRequest host.tools later.signaler asked.1 asked.2 tick.now tick.wall
        (tick.joinId index))
    exact kept.trans same

theorem served_ask (asked : (Nat × Request String) × Nat) : (ask tick server asked).served asked.1.1 = true := by
  rw [ask, served_tell_eq, SignalerCall.serves_request, Bool.or_true]

theorem served_askMany {items : List ((Nat × Request String) × Nat)} {asked : (Nat × Request String) × Nat}
    (member : asked ∈ items) (server : NetherHttpServer host) :
    (items.foldl (ask tick) server).served asked.1.1 = true := by
  induction items generalizing server with
  | nil => cases member
  | cons item rest ih =>
    rcases List.mem_cons.mp member with rfl | later
    · have moved : Moves (fun _ _ => True) (ask tick server asked)
          (rest.foldl (ask tick) (ask tick server asked)) := by
        refine Moves.foldl (fun _ => True) ?_ trivial
        intro current item _ _
        exact ⟨.tell current _ nofun nofun fun _ _ => trivial, trivial⟩
      exact any_of_grown moved.calls (served_ask server asked)
    · exact ih later _

/-! ## Refused connections -/

/-- Between two steps: every open TCP connection is registered or refused, no refused one is
registered or was served, and connection ids are never used twice. -/
structure Guarded (server : NetherHttpServer host) : Prop where
  registers : server.signaler.Registers
  recorded : ∀ call ∈ server.calls, call.after.Registers
  known : ∀ connection ∈ server.connections, connection ∈ server.signaler.connections ∨ server.refused connection
  apart : ∀ connection, server.refused connection → connection ∉ server.signaler.connections
  unserved : ∀ connection, server.refused connection → server.served connection = false
  registeredOld : ∀ connection ∈ server.signaler.connections, connection < server.nextConnId
  refusedOld : ∀ connection, server.refused connection → connection < server.nextConnId
  servedOld : ∀ connection, server.served connection → connection < server.nextConnId

theorem guarded_bind (config : HttpSignalerConfig) (addr : SocketAddr) (advertised : List IpAddr) :
    Guarded (bind config addr advertised : NetherHttpServer host) where
  registers := by rintro join ⟨⟩
  recorded := by rintro call ⟨⟩
  known := by rintro connection ⟨⟩
  apart := by rintro connection ⟨⟩
  unserved := by rintro connection ⟨⟩
  registeredOld := by rintro connection ⟨⟩
  refusedOld := by rintro connection ⟨⟩
  servedOld := by rintro connection ⟨⟩

theorem Alike.guarded {server : NetherHttpServer host} (alike : Alike server after) (guarded : Guarded server) :
    Guarded after := by
  have refused (connection : Nat) : after.refused connection = server.refused connection := by
    rw [NetherHttpServer.refused, alike.calls, ← NetherHttpServer.refused]
  have served (connection : Nat) : after.served connection = server.served connection := by
    rw [NetherHttpServer.served, alike.calls, ← NetherHttpServer.served]
  constructor
  · intro join member
    rw [alike.registered]
    exact guarded.registers join (alike.pending ▸ member)
  · rw [alike.calls]
    exact guarded.recorded
  · intro connection member
    rw [alike.registered, refused]
    exact guarded.known connection ((alike.connections connection).mp member)
  · intro connection isRefused
    rw [alike.registered]
    exact guarded.apart connection (refused connection ▸ isRefused)
  · intro connection isRefused
    rw [served]
    exact guarded.unserved connection (refused connection ▸ isRefused)
  · rw [alike.registered, alike.nextConnId]
    exact guarded.registeredOld
  · intro connection isRefused
    rw [alike.nextConnId]
    exact guarded.refusedOld connection (refused connection ▸ isRefused)
  · intro connection isServed
    rw [alike.nextConnId]
    exact guarded.servedOld connection (served connection ▸ isServed)

/-- A call keeps the guard if it serves only registered connections, and registers or refuses only
those it has just given an id. -/
theorem Guarded.advance {server : NetherHttpServer host} (guarded : Guarded server)
    (opened : NetherHttpServer host) (input : HttpSignalerInput) (signaler : opened.signaler = server.signaler) (calls : opened.calls = server.calls)
    (older : server.nextConnId ≤ opened.nextConnId)
    (asks : ∀ connection, input.asker = some connection → connection ∈ server.signaler.connections)
    (known : ∀ connection ∈ opened.connections,
      connection ∈ (opened.tell input).signaler.connections ∨ (opened.tell input).refused connection)
    (registered : ∀ connection ∈ (opened.tell input).signaler.connections,
      connection ∈ server.signaler.connections ∨
        connection < opened.nextConnId ∧ ¬ (opened.tell input).refused connection)
    (refused : ∀ connection, (opened.tell input).refused connection → server.refused connection ∨
      server.nextConnId ≤ connection ∧ connection < opened.nextConnId) :
    Guarded (opened.tell input) := by
  have registers : (opened.tell input).signaler.Registers := by
    apply HttpSignaler.registers_handle
    · exact signaler ▸ guarded.registers
    · exact signaler ▸ asks
  have servedNow (connection : Nat) (served : (opened.tell input).served connection) :
      server.served connection ∨ connection ∈ server.signaler.connections := by
    rcases served_tell served with before | asked | ⟨join, waits, rfl⟩
    · rw [NetherHttpServer.served, calls] at before
      exact .inl before
    · exact .inr (asks connection asked)
    · exact .inr (guarded.registers join (signaler ▸ waits))
  have servedOld (connection : Nat) (served : (opened.tell input).served connection) :
      connection < server.nextConnId :=
    (servedNow connection served).elim (guarded.servedOld connection) (guarded.registeredOld connection)
  constructor
  · exact registers
  · intro call member
    rw [calls_tell, calls] at member
    rcases List.mem_append.mp member with member | member
    · exact guarded.recorded call member
    · rw [List.mem_singleton.mp member]
      exact registers
  · exact known
  · intro connection isRefused isRegistered
    rcases registered connection isRegistered with before | ⟨-, notRefused⟩
    · rcases refused connection isRefused with old | ⟨new, -⟩
      · exact guarded.apart connection old before
      · exact absurd (guarded.registeredOld connection before) (by omega)
    · exact notRefused isRefused
  · intro connection isRefused
    rw [Bool.eq_false_iff]
    intro served
    rcases refused connection isRefused with old | ⟨new, -⟩
    · rcases servedNow connection served with before | isRegistered
      · rw [guarded.unserved connection old] at before
        cases before
      · exact guarded.apart connection old isRegistered
    · exact absurd (servedOld connection served) (by omega)
  · intro connection isRegistered
    rcases registered connection isRegistered with before | ⟨bound, -⟩
    · exact Nat.lt_of_lt_of_le (guarded.registeredOld connection before) older
    · exact bound
  · intro connection isRefused
    rcases refused connection isRefused with old | ⟨-, bound⟩
    · exact Nat.lt_of_lt_of_le (guarded.refusedOld connection old) older
    · exact bound
  · intro connection served
    exact Nat.lt_of_lt_of_le (servedOld connection served) older

theorem refused_tell_of_not_connected (notConnected : ∀ connection addr, input ≠ .connected connection addr)
    (connection : Nat) : (server.tell input).refused connection = server.refused connection := by
  rw [refused_tell_eq, Bool.or_eq_left_iff_imp]
  intro closes
  obtain ⟨addr, connects⟩ := SignalerCall.connected_of_closes closes
  exact absurd connects (notConnected connection addr)

theorem Guarded.tell {server : NetherHttpServer host} (guarded : Guarded server)
    (notConnected : ∀ connection addr, input ≠ .connected connection addr)
    (notClosed : ∀ connection, input ≠ .closed connection)
    (asks : ∀ connection, input.asker = some connection → connection ∈ server.signaler.connections) :
    Guarded (server.tell input) := by
  have same : (server.tell input).signaler.connections = server.signaler.connections :=
    (HttpSignaler.connections_handle notConnected notClosed).1
  have refused := refused_tell_of_not_connected server notConnected
  apply guarded.advance server input rfl rfl le_rfl asks
  · intro connection member
    rw [same, refused]
    exact guarded.known connection member
  · intro connection member
    exact .inl (same ▸ member)
  · intro connection isRefused
    exact .inl (refused connection ▸ isRefused)

-- nothing was refused, registered or served under the id of a new connection
theorem Guarded.accept {server : NetherHttpServer host} (guarded : Guarded server) (now : Instant)
    (peer : SocketAddr) (socket : host.wire.Socket) : Guarded (server.acceptOne now (some peer, socket)) := by
  have cases := HttpSignaler.connected_cases server.signaler server.nextConnId peer
  have refused (connection : Nat) : (server.acceptOne now (some peer, socket)).refused connection =
      (server.refused connection || (SignalerCall.made host.tools server.signaler
        (.connected server.nextConnId peer)).closes connection) := refused_tell_eq _ _ connection
  have opened (connection : Nat) (member : connection ∈ (server.openConnection socket now).connections) :
      connection = server.nextConnId ∨ connection ∈ server.connections := (AList.mem_insert _).mp member
  rcases cases with ⟨grown, letIn⟩ | ⟨grown, same⟩
  · have quiet : (SignalerCall.made host.tools server.signaler (.connected server.nextConnId peer)).outputs = [] :=
      SignalerCall.outputs_eq (grown.trans (List.append_nil _).symm)
    simp only [SignalerCall.closes, quiet, List.any_nil, Bool.or_false] at refused
    apply guarded.advance (server.openConnection socket now) (.connected server.nextConnId peer) rfl rfl (Nat.le_succ _) nofun
    · intro connection member
      rcases opened connection member with rfl | old
      · exact .inl ((letIn _).mpr (.inl rfl))
      · rcases guarded.known connection old with isRegistered | isRefused
        · exact .inl ((letIn _).mpr (.inr isRegistered))
        · exact .inr ((refused connection).trans isRefused)
    · intro connection member
      rcases (letIn connection).mp member with rfl | old
      · refine .inr ⟨Nat.lt_succ_self _, ?_⟩
        intro isRefused
        exact absurd (guarded.refusedOld _ ((refused _).symm.trans isRefused)) (lt_irrefl _)
      · exact .inl old
    · intro connection isRefused
      exact .inl ((refused connection).symm.trans isRefused)
  · have told : (SignalerCall.made host.tools server.signaler (.connected server.nextConnId peer)).outputs =
        [.close server.nextConnId] := SignalerCall.outputs_eq grown
    simp only [SignalerCall.closes, told, List.any_cons, List.any_nil, Bool.or_false] at refused
    apply guarded.advance (server.openConnection socket now) (.connected server.nextConnId peer) rfl rfl (Nat.le_succ _) nofun
    · intro connection member
      rcases opened connection member with rfl | old
      · exact .inr ((refused _).trans (by simp))
      · rcases guarded.known connection old with isRegistered | isRefused
        · exact .inl (same ▸ isRegistered)
        · exact .inr ((refused connection).trans (by simp [isRefused]))
    · intro connection member
      exact .inl (same ▸ member)
    · intro connection isRefused
      have either := (refused connection).symm.trans isRefused
      rw [Bool.or_eq_true, decide_eq_true_eq] at either
      rcases either with old | rfl
      · exact .inl old
      · exact .inr ⟨le_rfl, Nat.lt_succ_self _⟩

theorem Guarded.drop {server : NetherHttpServer host} (guarded : Guarded server) (id : Nat) :
    Guarded (server.dropConnection id) := by
  have registered (connection : Nat) : connection ∈ (server.dropConnection id).signaler.connections ↔
      connection ≠ id ∧ connection ∈ server.signaler.connections := HttpSignaler.mem_connections_closed
  have notConnected (connection : Nat) (addr : SocketAddr) :
      HttpSignalerInput.closed id ≠ .connected connection addr := nofun
  have refused (connection : Nat) : (server.dropConnection id).refused connection = server.refused connection :=
    refused_tell_of_not_connected (server.forgetConnection id) notConnected connection
  apply guarded.advance (server.forgetConnection id) (.closed id) rfl rfl le_rfl nofun
  · intro connection member
    obtain ⟨differ, old⟩ := AList.mem_erase.mp member
    rcases guarded.known connection old with isRegistered | isRefused
    · exact .inl ((registered connection).mpr ⟨differ, isRegistered⟩)
    · exact .inr ((refused connection).trans isRefused)
  · intro connection member
    exact .inl ((registered connection).mp member).2
  · intro connection isRefused
    exact .inl ((refused connection).symm.trans isRefused)

/-- Only registered connections have their requests handed over. -/
def Registered (server : NetherHttpServer host) : Deed → Prop
  | .ask connection => connection ∈ server.signaler.connections
  | _ => True

theorem lenient_registered : Lenient fun (server : NetherHttpServer host) deed => server.Registered deed := fun _ => ⟨trivial, trivial⟩

theorem lenient_all : Lenient fun (_ : NetherHttpServer host) _ => True := fun _ => ⟨trivial, trivial⟩

theorem Moves.guarded {server : NetherHttpServer host} (moves : Moves Registered server after)
    (guarded : Guarded server) : Guarded after := by
  induction moves with
  | still alike calm => exact alike.guarded guarded
  | stream alike may => exact alike.guarded guarded
  | accept server now peer socket => exact guarded.accept now peer socket
  | tell server input notConnected notClosed asks => exact guarded.tell notConnected notClosed asks
  | drop server connection => exact guarded.drop connection
  | trans first second ihFirst ihSecond => exact ihSecond (ihFirst guarded)

/-! ## Runs -/

/-- No refused connection has a turn of the pump in which it reads a whole request. -/
def Quiet (server : NetherHttpServer host) : NetherHttpServerInput host → Prop
  | .update tick => ∀ connection conn, (server.admitted tick).connections.lookup connection = some conn →
      (server.admitted tick).refused connection →
      ∀ request, (conn.pump host.crates tick.now).2 ≠ .asked request
  | _ => True

/-- A refused connection is served nothing, and after every call of the signaler the joins that
wait came on registered connections. -/
def Respects (server : NetherHttpServer host) : Prop :=
  (∀ connection, server.refused connection → server.served connection = false) ∧
    ∀ call ∈ server.calls, call.after.Registers

theorem moves_update (lenient : Lenient permitted) {server : NetherHttpServer host}
    (asks : ∀ asked ∈ ((server.admitted tick).pumpAll tick).requests, ∀ later : NetherHttpServer host,
      later.signaler.connections = (server.admitted tick).signaler.connections → permitted later (.ask asked.1)) :
    Moves permitted server (server.update tick) :=
  ((moves_admitted lenient server tick).trans (moves_askAll lenient asks)).trans (moves_rest lenient server tick)

theorem moves_step {server : NetherHttpServer host} {input : NetherHttpServerInput host}
    (updates : ∀ tick, input = .update tick → Moves permitted server (server.update tick)) :
    Moves permitted server (server.step input).1 := by
  cases input with
  | update tick => exact updates tick rfl
  | setServerData data => exact moves_settle server nofun nofun rfl
  | setTokenTrust trust => exact moves_settle server nofun nofun rfl
  | disconnect id => exact moves_disconnect server id
  | send id channel data =>
    dsimp only [step, sendOn]
    split
    · exact .of_same rfl rfl rfl rfl
    · exact .refl server
  | _ => exact .of_same rfl rfl rfl rfl

theorem guarded_step {server : NetherHttpServer host} {input : NetherHttpServerInput host}
    (guarded : Guarded server) (quiet : server.Quiet input) : Guarded (server.step input).1 := by
  refine (moves_step ?_).guarded guarded
  rintro tick rfl
  have admitted : Guarded (server.admitted tick) := (moves_admitted lenient_registered server tick).guarded guarded
  apply moves_update lenient_registered
  rintro ⟨connection, request⟩ member later same
  obtain ⟨conn, found, asked⟩ := mem_requests.mp member
  have isOpen : connection ∈ (server.admitted tick).connections := AList.lookup_isSome.mp (by rw [found]; rfl)
  show connection ∈ later.signaler.connections
  rw [same]
  refine (admitted.known connection isOpen).resolve_right ?_
  intro refused
  exact quiet connection conn found refused request asked

theorem calls_step (input : NetherHttpServerInput host) : server.calls <+: (server.step input).1.calls := by
  have moves : Moves (fun _ _ => True) server (server.step input).1 :=
    moves_step fun tick _ => moves_update lenient_all fun _ _ _ _ => trivial
  exact moves.calls

theorem calls_run (inputs : List (NetherHttpServerInput host)) : server.calls <+: (run step server inputs).1.calls := by
  induction inputs generalizing server with
  | nil => exact List.prefix_rfl
  | cons input rest ih => exact (calls_step server input).trans (ih _)

theorem served_askAll {server : NetherHttpServer host} {asked : Nat × Request String}
    (collected : asked ∈ (server.pumpAll tick).requests) : (server.askAll tick).served asked.1 = true := by
  rw [← List.zipIdx_map_fst 0 (server.pumpAll tick).requests] at collected
  obtain ⟨item, member, rfl⟩ := List.mem_map.mp collected
  exact served_askMany member _

-- a request of a refused connection is answered like any other
theorem quiet_of_unserved {server : NetherHttpServer host} {input : NetherHttpServerInput host}
    (unserved : ∀ connection, (server.step input).1.refused connection →
      (server.step input).1.served connection = false) : server.Quiet input := by
  cases input with
  | update tick =>
    intro connection conn found refused request asked
    have handed : Moves (fun _ _ => True) (server.admitted tick) ((server.admitted tick).askAll tick) :=
      moves_askAll lenient_all fun _ _ _ _ => trivial
    have rest : Moves (fun _ _ => True) ((server.admitted tick).askAll tick) (server.update tick) :=
      moves_rest lenient_all server tick
    have stillRefused : (server.update tick).refused connection := any_of_grown (handed.trans rest).calls refused
    have served : (server.update tick).served connection :=
      any_of_grown rest.calls (served_askAll (mem_requests.mpr ⟨conn, found, asked⟩))
    exact Bool.false_ne_true ((unserved connection stillRefused).symm.trans served)
  | _ => trivial

theorem along_of_unserved {server : NetherHttpServer host} {inputs : List (NetherHttpServerInput host)}
    (unserved : ∀ connection, (run step server inputs).1.refused connection →
      (run step server inputs).1.served connection = false) : Along step Quiet server inputs := by
  induction inputs generalizing server with
  | nil => trivial
  | cons input rest ih =>
    refine ⟨quiet_of_unserved ?_, ih unserved⟩
    intro connection refused
    rw [Bool.eq_false_iff]
    intro served
    -- what is recorded after this step is recorded at the end
    have grown := calls_run (server.step input).1 rest
    exact Bool.false_ne_true ((unserved connection (any_of_grown grown refused)).symm.trans
      (any_of_grown grown served))

/-- For every behaviour of the sockets, the parsers and the answering of offers, in every run of the
server: refused connections are served nothing and pending joins are registered, at every call of the
signaler, exactly if no refused connection ever reads a whole request in its turn of the pump. -/
theorem respects_refusals_iff (config : HttpSignalerConfig) (addr : SocketAddr) (advertised : List IpAddr)
    (inputs : List (NetherHttpServerInput host)) :
    (run step (bind config addr advertised) inputs).1.Respects ↔
      Along step Quiet (bind config addr advertised) inputs := by
  constructor
  · intro respects
    exact along_of_unserved respects.1
  · intro quiet
    have guarded : Guarded (run step (bind config addr advertised) inputs).1 :=
      Along.invariant step (fun _ _ => guarded_step) (guarded_bind config addr advertised) quiet
    exact ⟨guarded.unserved, guarded.recorded⟩

/-! ## A request that is there when its connection is refused -/

-- a socket holds the bytes to be read next and takes every write
def plainWire : Wire where
  Socket := Bytes
  read held := ([], .ok (if held = [] then .idle else .received, held))
  write held data := (held, .ok data.length)
  flush held := (held, .ok ())
  finish held := (held, .ok ())
  hasPendingOutput _ := false
  awaitingSession _ := false
  beginSession held _ := (held, .ok ())

def joinRequest : Bytes := utf8 "POST /v1/join/1234 HTTP/1.1\r\n\r\n"

-- the crates on the one request there is, and on less than that
def joinCrates : HttpCrates where
  parseRequest _ buf :=
    if buf = joinRequest then .ok (.complete (buf.length, ⟨some "POST", some "/v1/join/1234", []⟩))
    else .ok .incomplete
  parseChunkSize _ := some .incomplete
  parseHeaders _ _ := .ok .incomplete
  buildRequest method path headers := some ⟨method, path, .http11, headers⟩

def plainHost : HttpHost where
  wire := plainWire
  crates := joinCrates
  tools :=
    { parseIp := fun _ => none
      crates := lastExpCrates
      withAdvertisedCandidates := fun sdp _ => sdp }
  Link := Unit
  ServerIdentity := Unit
  answer _ _ _ _ _ _ _ := .error (.description (.other "decode session description: empty"))

def oneEach : HttpSignalerConfig := { maxConnectionsPerAddress := 1, tokenTrust := none }

/-- Two connections of one address come in at once, the second with its request already sent. -/
def crowdedTick : Tick plainHost where
  now := 0
  wall := .unixEpoch
  accepts := [(some (.loopback 40000), []), (some (.loopback 40001), joinRequest)]
  traffic _ held := held
  poolEvents := []
  joinId _ := 77
  visit := .inOrder
  visitJoins := .inOrder

/-- With one connection for each address, the second of two is told to close and its offer is put out
all the same, while the join waits on a connection that is not registered. -/
theorem refused_connection_served :
    let server := (run step (bind oneEach (.loopback 7551) [] : NetherHttpServer plainHost)
      [.update crowdedTick]).1
    server.refused 1 = true ∧ server.served 1 = true ∧
      (server.calls.any fun call => call.input.asker = some 1 ∧ ¬ call.after.Registers ∧
        call.outputs.any fun output => match output with | .offer _ => true | _ => false) = true := by
  decide +kernel

end NetherHttpServer

end Nethernet
