import Nethernet.Http.Signaler

/-! What one call does to the HTTP signaler: whom its outputs are for, and which
joins and connections it leaves. -/

set_option autoImplicit false

namespace Nethernet
open Foundation Http

/-- The connection a request came on. -/
def HttpSignalerInput.asker : HttpSignalerInput → Option Nat
  | .request connection .. => some connection
  | _ => none

namespace HttpSignaler
variable {reply : HttpSignaler → Pending → HttpSignaler} {connection : Nat} (connectionId : UInt64)
  {after : HttpSignaler} {join : (_ : UInt64) × Pending}

/-- Every join that waits for an answer came on a connection that is open. -/
def Registers (signaler : HttpSignaler) : Prop :=
  ∀ join ∈ signaler.pending.entries, join.2.connection ∈ signaler.connections

instance (signaler : HttpSignaler) : Decidable signaler.Registers :=
  inferInstanceAs (Decidable (∀ join ∈ signaler.pending.entries, join.2.connection ∈ signaler.connections))

/-- The outputs a call may add: responses go to who asked or to a join that waited. -/
inductive Due (signaler : HttpSignaler) (input : HttpSignalerInput) : HttpSignalerOutput → Prop where
  | asked {connection : Nat} {response : Response} {keepAlive : Bool}
      (asks : input.asker = some connection) : Due signaler input (.response connection response keepAlive)
  | waited {join : (_ : UInt64) × Pending} {response : Response} {keepAlive : Bool}
      (waits : join ∈ signaler.pending.entries) :
      Due signaler input (.response join.2.connection response keepAlive)
  | offer {connection : Nat} {offer : Offer} (asks : input.asker = some connection) :
      Due signaler input (.offer offer)
  | close {connection : Nat} {addr : SocketAddr} (connects : input = .connected connection addr) :
      Due signaler input (.close connection)
  | wait {duration : Duration} : Due signaler input (.wait duration)

/-- A call only adds outputs that are due, and only a request adds a join. -/
structure Effect (signaler : HttpSignaler) (input : HttpSignalerInput) (after : HttpSignaler) : Prop where
  output : ∃ added, after.output = signaler.output ++ added ∧ ∀ output ∈ added, Due signaler input output
  pending : ∀ join ∈ after.pending.entries,
    join ∈ signaler.pending.entries ∨ input.asker = some join.2.connection

section
variable {signaler : HttpSignaler} {input : HttpSignalerInput}

theorem Effect.quiet (output : after.output = signaler.output)
    (pending : ∀ join ∈ after.pending.entries, join ∈ signaler.pending.entries) : Effect signaler input after :=
  ⟨⟨[], by rw [output, List.append_nil], by simp⟩, fun join member => .inl (pending join member)⟩

theorem Effect.one {output : HttpSignalerOutput} (added : after.output = signaler.output ++ [output])
    (due : Due signaler input output) (pending : ∀ join ∈ after.pending.entries,
      join ∈ signaler.pending.entries ∨ input.asker = some join.2.connection) : Effect signaler input after :=
  ⟨⟨[output], added, by simpa using due⟩, pending⟩

-- a later call may answer the joins that the first one left
theorem Effect.trans {middle : HttpSignaler} (first : Effect signaler input middle)
    (second : Effect middle input after) (settled : ∀ join ∈ middle.pending.entries, join ∈ signaler.pending.entries) :
    Effect signaler input after := by
  obtain ⟨before, before_eq, before_due⟩ := first.output
  obtain ⟨added, added_eq, added_due⟩ := second.output
  refine ⟨⟨before ++ added, by rw [added_eq, before_eq, List.append_assoc], ?_⟩, ?_⟩
  · intro output member
    rcases List.mem_append.mp member with member | member
    · exact before_due output member
    · cases added_due output member with
      | asked asks => exact .asked asks
      | waited waits => exact .waited (settled _ waits)
      | offer asks => exact .offer asks
      | close connects => exact .close connects
      | wait => exact .wait
  · intro join member
    exact (second.pending join member).imp (settled join) id

theorem effect_connected (connection : Nat) (addr : SocketAddr) :
    Effect signaler (.connected connection addr) (signaler.connected connection addr) := by
  dsimp only [connected]
  split
  · exact .quiet rfl fun _ member => member
  · split
    · exact .one rfl (.close rfl) fun _ member => .inl member
    · exact .quiet rfl fun _ member => member

theorem effect_closed (connection : Nat) : Effect signaler input (signaler.closed connection) := by
  unfold closed
  split
  · exact .quiet rfl fun _ member => member
  · exact .quiet rfl fun _ member => (List.mem_filter.mp member).1

end

section
variable {tools : JoinTools} {signaler : HttpSignaler} {input : HttpSignalerInput}

theorem effect_admitJoin (asks : input.asker = some connection) (networkId : String) (request : Request String)
    (keepAlive : Bool) (now : Instant) (joinId : UInt64) (player : Option PlayerInfo) :
    Effect signaler input
      (signaler.admitJoin tools connection networkId request keepAlive now joinId player) := by
  refine .one rfl (.offer asks) ?_
  intro join member
  rcases List.mem_cons.mp member with rfl | member
  · exact .inr asks
  · exact .inl (Table.mem_entries_erase member)

/-- A request gets one response, waits as a join if there is room, or makes the check of its identity panic. -/
theorem handleRequest_cases (tools : JoinTools) (signaler : HttpSignaler) (connection : Nat)
    (request : Request String) (now : Instant) (wall : SystemTime) (joinId : UInt64) :
    (∃ response, signaler.handleRequest tools connection request now wall joinId =
      (signaler.push connection response (keepAlive request), .ok ())) ∨
    (signaler.pending.size < signaler.config.maxPendingJoins ∧ ∃ networkId player,
      signaler.handleRequest tools connection request now wall joinId =
        (signaler.admitJoin tools connection networkId request (keepAlive request) now joinId player, .ok ())) ∨
    (signaler.handleRequest tools connection request now wall joinId = (signaler, .aborted) ∧
      ∃ trust, signaler.config.tokenTrust = some trust ∧ (validateSdp tools.crates request.body trust wall).2 = .aborted) := by
  unfold handleRequest status join
  dsimp only
  repeat' split
  all_goals first
    | exact .inl ⟨_, rfl⟩
    | exact .inr (.inl ⟨by omega, _, _, rfl⟩)
    | exact .inr (.inr ⟨rfl, _, ‹_›, ‹_›⟩)

/-- If the identity of a request is asked for, its token has no `exp` beyond the clock. -/
def Checkable (tools : JoinTools) (signaler : HttpSignaler) : HttpSignalerInput → Prop
  | .request _ request _ _ _ => signaler.config.tokenTrust.isSome = true →
      ∀ exp ∈ sdpTokenExp tools.crates request.body, exp.toNat < expLimit
  | _ => True

instance (tools : JoinTools) (signaler : HttpSignaler) (input : HttpSignalerInput) :
    Decidable (signaler.Checkable tools input) :=
  match input with
  | .request _ request _ _ _ => inferInstanceAs (Decidable (signaler.config.tokenTrust.isSome = true →
      ∀ exp ∈ sdpTokenExp tools.crates request.body, exp.toNat < expLimit))
  | .connected .. | .answer .. | .reject .. | .setServerData .. | .setTokenTrust .. | .closed .. | .update .. => .isTrue trivial

theorem Checkable.cases {request : Request String} {now : Instant} {wall : SystemTime} {joinId : UInt64}
    (checkable : signaler.Checkable tools (.request connection request now wall joinId)) :
    (∃ response, signaler.handleRequest tools connection request now wall joinId =
      (signaler.push connection response (keepAlive request), .ok ())) ∨
    (signaler.pending.size < signaler.config.maxPendingJoins ∧ ∃ networkId player,
      signaler.handleRequest tools connection request now wall joinId =
        (signaler.admitJoin tools connection networkId request (keepAlive request) now joinId player, .ok ())) := by
  rcases handleRequest_cases tools signaler connection request now wall joinId with answered | admitted | ⟨-, trust, trusts, aborted⟩
  · exact .inl answered
  · exact .inr admitted
  · obtain ⟨exp, present, beyond⟩ := (validateSdp_aborted_iff tools.crates).mp aborted
    have within := checkable (by rw [trusts]; rfl) exp present
    omega

theorem effect_handleRequest (asks : input.asker = some connection) (request : Request String) (now : Instant)
    (wall : SystemTime) (joinId : UInt64) :
    Effect signaler input (signaler.handleRequest tools connection request now wall joinId).1 := by
  rcases handleRequest_cases tools signaler connection request now wall joinId with
    ⟨response, answered⟩ | ⟨-, networkId, player, admitted⟩ | ⟨aborted, -⟩
  · rw [answered]
    exact .one rfl (.asked asks) fun _ member => .inl member
  · rw [admitted]
    exact effect_admitJoin asks networkId request (HttpSignaler.keepAlive request) now joinId player
  · rw [aborted]
    exact .quiet rfl fun _ member => member

theorem effect_settle (replies : ∀ current pending, ∃ response keepAlive,
      reply current pending = current.push pending.connection response keepAlive) :
    Effect signaler input (signaler.settle connectionId reply).1 := by
  unfold settle
  split
  · exact .quiet rfl fun _ member => member
  · rename_i pending found
    obtain ⟨response, keepAlive, replied⟩ := replies
      { signaler with pending := signaler.pending.erase connectionId } pending
    rw [replied]
    have waits : ⟨connectionId, pending⟩ ∈ signaler.pending.entries := AList.mem_lookup_iff.mp found
    exact .one rfl (.waited waits) fun _ member => .inl (Table.mem_entries_erase member)

theorem effect_reject (reason : RejectReason) : Effect signaler input (signaler.reject connectionId reason).1 :=
  effect_settle connectionId fun _ _ => ⟨_, _, rfl⟩

theorem effect_answer (sdp : String) : Effect signaler input (signaler.answer tools connectionId sdp).1 :=
  effect_settle connectionId fun _ _ => ⟨_, _, rfl⟩

theorem pending_settle {connectionId : UInt64}
    (replies : ∀ current pending, (reply current pending).pending = current.pending)
    (member : join ∈ (signaler.settle connectionId reply).1.pending.entries) : join ∈ signaler.pending.entries := by
  unfold settle at member
  split at member
  · exact member
  · rw [replies] at member
    exact Table.mem_entries_erase member

theorem pending_reject {connectionId : UInt64} {reason : RejectReason}
    (member : join ∈ (signaler.reject connectionId reason).1.pending.entries) : join ∈ signaler.pending.entries := by
  unfold reject at member
  refine pending_settle ?_ member
  intro current pending
  rfl

theorem effect_expire (signaler : HttpSignaler) (input : HttpSignalerInput) (expired : List UInt64) :
    Effect signaler input (signaler.expire expired).1 ∧
      ∀ join ∈ (signaler.expire expired).1.pending.entries, join ∈ signaler.pending.entries := by
  induction expired generalizing signaler with
  | nil => exact ⟨.quiet rfl fun _ member => member, fun _ member => member⟩
  | cons connectionId rest ih =>
    have rejected : Effect signaler input (signaler.reject connectionId .timeout).1 :=
      effect_reject connectionId .timeout
    have shrunk : ∀ join ∈ (signaler.reject connectionId .timeout).1.pending.entries,
        join ∈ signaler.pending.entries := fun _ => pending_reject
    simp only [expire]
    split
    · rename_i next done
      rw [done] at rejected shrunk
      obtain ⟨later, left⟩ := ih next
      exact ⟨rejected.trans later shrunk, fun join member => shrunk join (left join member)⟩
    · rename_i next error done
      rw [done] at rejected shrunk
      exact ⟨rejected, shrunk⟩

theorem effect_handleUpdate (now : Instant) (visit : Visit UInt64) :
    Effect signaler input (signaler.handleUpdate now visit).1 := by
  obtain ⟨expired, shrunk⟩ := effect_expire signaler input (visit.arrange (signaler.expired now))
  unfold handleUpdate
  split
  · rename_i next error done
    rw [done] at expired
    exact expired
  · rename_i next done
    rw [done] at expired shrunk
    exact expired.trans (.one rfl .wait fun _ member => .inl member) shrunk

theorem effect_handle (tools : JoinTools) (signaler : HttpSignaler) (input : HttpSignalerInput) :
    Effect signaler input (signaler.handle tools input).1 := by
  cases input with
  | connected connection addr => exact effect_connected connection addr
  | request connection request now wall joinId => exact effect_handleRequest rfl request now wall joinId
  | answer connectionId sdp => exact effect_answer connectionId sdp
  | reject connectionId reason => exact effect_reject connectionId reason
  | setServerData data => exact .quiet rfl fun _ member => member
  | setTokenTrust trust => exact .quiet rfl fun _ member => member
  | closed connection => exact effect_closed connection
  | update now visit => exact effect_handleUpdate now visit

/-! ## Connections -/

/-- Everything but the joins and the outputs. -/
def house (signaler : HttpSignaler) :
    HttpSignalerConfig × Table Nat Connection × Table IpAddr Nat × Option ServerData :=
  (signaler.config, signaler.connections, signaler.perAddress, signaler.serverData)

theorem house_settle {connectionId : UInt64}
    (replies : ∀ current pending, (reply current pending).house = current.house) :
    (signaler.settle connectionId reply).1.house = signaler.house := by
  unfold settle
  split
  · rfl
  · rw [replies]
    rfl

theorem house_reject (signaler : HttpSignaler) (connectionId : UInt64) (reason : RejectReason) :
    (signaler.reject connectionId reason).1.house = signaler.house := by
  refine house_settle ?_
  intro current pending
  rfl

theorem house_expire (signaler : HttpSignaler) (expired : List UInt64) :
    (signaler.expire expired).1.house = signaler.house := by
  induction expired generalizing signaler with
  | nil => rfl
  | cons connectionId rest ih =>
    have rejected := house_reject signaler connectionId .timeout
    simp only [expire]
    split
    · rename_i next done
      rw [done] at rejected
      rw [ih, rejected]
    · rename_i next error done
      rw [done] at rejected
      exact rejected

theorem house_handleUpdate (now : Instant) (visit : Visit UInt64) :
    (signaler.handleUpdate now visit).1.house = signaler.house := by
  have expired := house_expire signaler (visit.arrange (signaler.expired now))
  unfold handleUpdate
  split
  · rename_i next error done
    rw [done] at expired
    exact expired
  · rename_i next done
    rw [done] at expired
    exact expired

theorem house_handleRequest (tools : JoinTools) (signaler : HttpSignaler) (connection : Nat)
    (request : Request String) (now : Instant) (wall : SystemTime) (joinId : UInt64) :
    (signaler.handleRequest tools connection request now wall joinId).1.house = signaler.house := by
  rcases handleRequest_cases tools signaler connection request now wall joinId with
    ⟨response, answered⟩ | ⟨-, networkId, player, admitted⟩ | ⟨aborted, -⟩
  · rw [answered]
    rfl
  · rw [admitted]
    rfl
  · rw [aborted]

theorem house_answer (tools : JoinTools) (signaler : HttpSignaler) (connectionId : UInt64) (sdp : String) :
    (signaler.answer tools connectionId sdp).1.house = signaler.house := by
  refine house_settle ?_
  intro current pending
  rfl

/-- Only connecting and closing change which connections are open. -/
theorem connections_handle (notConnected : ∀ connection addr, input ≠ .connected connection addr)
    (notClosed : ∀ connection, input ≠ .closed connection) :
    (signaler.handle tools input).1.connections = signaler.connections ∧
      (signaler.handle tools input).1.perAddress = signaler.perAddress := by
  have kept : ∀ {after : HttpSignaler}, after.house = signaler.house →
      after.connections = signaler.connections ∧ after.perAddress = signaler.perAddress := fun same =>
    ⟨congrArg (·.2.1) same, congrArg (·.2.2.1) same⟩
  cases input with
  | connected connection addr => exact absurd rfl (notConnected connection addr)
  | closed connection => exact absurd rfl (notClosed connection)
  | request connection request now wall joinId =>
    exact kept (house_handleRequest tools signaler connection request now wall joinId)
  | answer connectionId sdp => exact kept (house_answer tools signaler connectionId sdp)
  | reject connectionId reason => exact kept (house_reject signaler connectionId reason)
  | setServerData data => exact ⟨rfl, rfl⟩
  | setTokenTrust trust => exact ⟨rfl, rfl⟩
  | update now visit => exact kept (house_handleUpdate now visit)

/-- Of the configuration, only the trust is ever changed. -/
theorem config_handle (tools : JoinTools) (signaler : HttpSignaler) (input : HttpSignalerInput) :
    ∃ trust, (signaler.handle tools input).1.config = { signaler.config with tokenTrust := trust } := by
  cases input with
  | connected connection addr =>
    refine ⟨signaler.config.tokenTrust, ?_⟩
    dsimp only [handle, connected]
    split
    · rfl
    · split <;> rfl
  | closed connection =>
    refine ⟨signaler.config.tokenTrust, ?_⟩
    dsimp only [handle, closed]
    split <;> rfl
  | request connection request now wall joinId =>
    exact ⟨_, congrArg Prod.fst (house_handleRequest tools signaler connection request now wall joinId)⟩
  | answer connectionId sdp => exact ⟨_, congrArg Prod.fst (house_answer tools signaler connectionId sdp)⟩
  | reject connectionId reason => exact ⟨_, congrArg Prod.fst (house_reject signaler connectionId reason)⟩
  | setServerData data => exact ⟨_, rfl⟩
  | setTokenTrust trust => exact ⟨trust, rfl⟩
  | update now visit => exact ⟨_, congrArg Prod.fst (house_handleUpdate now visit)⟩

theorem pending_connected (signaler : HttpSignaler) (connection : Nat) (addr : SocketAddr) :
    (signaler.connected connection addr).pending = signaler.pending := by
  dsimp only [connected]
  split
  · rfl
  · split <;> rfl

/-- A connection is let in, or told to close and not registered. -/
theorem connected_cases (signaler : HttpSignaler) (connection : Nat) (addr : SocketAddr) :
    ((signaler.connected connection addr).output = signaler.output ∧
      ∀ other, other ∈ (signaler.connected connection addr).connections ↔
        other = connection ∨ other ∈ signaler.connections) ∨
    ((signaler.connected connection addr).output = signaler.output ++ [.close connection] ∧
      (signaler.connected connection addr).connections = signaler.connections) := by
  dsimp only [connected]
  split
  · exact .inl ⟨rfl, fun other => AList.mem_insert _⟩
  · split
    · exact .inr ⟨rfl, rfl⟩
    · exact .inl ⟨rfl, fun other => AList.mem_insert _⟩

theorem mem_connections_closed {other : Nat} :
    other ∈ (signaler.closed connection).connections ↔ other ≠ connection ∧ other ∈ signaler.connections := by
  unfold closed
  split
  · rename_i absent
    rw [AList.lookup_eq_none] at absent
    constructor
    · intro member
      exact ⟨fun same => absent (same ▸ member), member⟩
    · exact And.right
  · exact AList.mem_erase

theorem registers_closed (registers : signaler.Registers) (connection : Nat) :
    (signaler.closed connection).Registers := by
  intro join member
  rw [mem_connections_closed]
  unfold closed at member
  split at member
  · rename_i absent
    rw [AList.lookup_eq_none] at absent
    exact ⟨fun same => absent (same ▸ registers join member), registers join member⟩
  · have kept := List.mem_filter.mp member
    exact ⟨by simpa using kept.2, registers join kept.1⟩

theorem registers_handle (registers : signaler.Registers)
    (asksOpen : ∀ connection, input.asker = some connection → connection ∈ signaler.connections) :
    (signaler.handle tools input).1.Registers := by
  have effect := effect_handle tools signaler input
  by_cases connects : ∃ connection addr, input = .connected connection addr
  · obtain ⟨connection, addr, rfl⟩ := connects
    intro join member
    have waited := registers join ((effect.pending join member).resolve_right nofun)
    rcases connected_cases signaler connection addr with ⟨-, letIn⟩ | ⟨-, same⟩
    · exact (letIn _).mpr (.inr waited)
    · exact same ▸ waited
  · by_cases closes : ∃ connection, input = .closed connection
    · obtain ⟨connection, rfl⟩ := closes
      exact registers_closed registers connection
    · intro join member
      rw [(connections_handle (fun connection addr same => connects ⟨connection, addr, same⟩)
        (fun connection same => closes ⟨connection, same⟩)).1]
      rcases effect.pending join member with waited | asks
      · exact registers join waited
      · exact asksOpen _ asks

end

end HttpSignaler

end Nethernet
