import Nethernet.Foundation.Machine
import Nethernet.Http.Timers
import Nethernet.Protocol.Signal

/-! The task that drives the HTTP signaler: it takes one command or one timer tick at a
time, and keeps the address, the player and the host of each offer it passed on. -/

set_option autoImplicit false

namespace Nethernet
open Foundation Http Identity

def Offer.signal (offer : Offer) : Signal := ⟨.offer, offer.connectionId, offer.sdp, offer.networkId⟩

namespace Tokio

def maxIdle : Duration := .fromSecs 1

/-- A reply channel is named by a number. `tick` is the timer. -/
inductive HttpCommand where
  | connected (connection : Nat) (addr : SocketAddr)
  | request (connection : Nat) (request : Request String) (reply : Nat) (now : Instant) (wall : SystemTime)
      (joinId : UInt64)
  | closed (connection : Nat)
  | answer (connectionId : UInt64) (sdp : String)
  | reject (connectionId : UInt64) (reason : RejectReason)
  | setServerData (data : ServerData)
  | setTokenTrust (trust : Option TokenTrust)
  | address (connectionId : UInt64)
  | host (connectionId : UInt64)
  | player (connectionId : UInt64)
  | tick (now : Instant) (visit : Visit UInt64)

-- what the sender of a command is told at once
inductive HttpReply where
  | none
  | admitted (admitted : Bool)
  | address (address : Option SocketAddr)
  | host (host : Option String)
  | player (player : Option PlayerInfo)

/-- One turn of the loop, with the clock at its end. -/
structure HttpTurn where
  command : HttpCommand
  now : Instant

structure HttpDriver where
  signaler : HttpSignaler
  waiting : Table Nat Nat
  addresses : Table UInt64 SocketAddr
  players : Table UInt64 PlayerInfo
  hosts : Table UInt64 String
  wake : Instant
  -- what went out on the reply channels and to those who listen for signals
  replies : List (Nat × Response × Bool)
  signals : List Signal

namespace HttpDriver

def new (config : HttpSignalerConfig) (now : Instant) : HttpDriver where
  signaler := .new config
  waiting := ∅
  addresses := ∅
  players := ∅
  hosts := ∅
  wake := now + maxIdle
  replies := []
  signals := []

/-! ## One turn -/

def note {V : Type} (table : Table UInt64 V) (connectionId : UInt64) (value : Option V) : Table UInt64 V :=
  value.elim table (table.insert connectionId)

def noteOffer (driver : HttpDriver) (offer : Offer) : HttpDriver :=
  { driver with
    addresses := note driver.addresses offer.connectionId offer.clientAddress
    hosts := note driver.hosts offer.connectionId offer.host
    players := note driver.players offer.connectionId offer.player
    signals := driver.signals ++ [offer.signal] }

def deliver (now : Instant) (driver : HttpDriver) (output : HttpSignalerOutput) : HttpDriver :=
  match output with
  | .response connection response keepAlive =>
    match driver.waiting.lookup connection with
    | none => driver
    | some reply =>
      { driver with
        waiting := driver.waiting.erase connection
        replies := driver.replies ++ [(reply, response, keepAlive)] }
  | .close connection => { driver with waiting := driver.waiting.erase connection }
  | .offer offer => driver.noteOffer offer
  | .wait duration => { driver with wake := now + min duration maxIdle }

def clearOutput (driver : HttpDriver) : HttpDriver :=
  { driver with signaler := { driver.signaler with output := [] } }

-- the loop at the end of every turn polls until nothing is left
def takeOutputs (driver : HttpDriver) (now : Instant) : HttpDriver :=
  driver.signaler.output.foldl (deliver now) driver.clearOutput

def forget (driver : HttpDriver) (connectionId : UInt64) : HttpDriver :=
  { driver with
    addresses := driver.addresses.erase connectionId
    players := driver.players.erase connectionId
    hosts := driver.hosts.erase connectionId }

def closes (connection : Nat) : HttpSignalerOutput → Bool
  | .close closed => closed = connection
  | _ => false

section
variable (tools : JoinTools)

-- the error of a call is only logged; a panic ends the task, and a run goes no further
def give (driver : HttpDriver) (input : HttpSignalerInput) : HttpDriver :=
  { driver with signaler := (driver.signaler.handle tools input).1 }

def handle (driver : HttpDriver) (command : HttpCommand) : HttpDriver × HttpReply :=
  match command with
  | .connected connection addr =>
    let driver := driver.give tools (.connected connection addr)
    (driver.clearOutput, .admitted (!driver.signaler.output.any (closes connection)))
  | .request connection request reply now wall joinId =>
    ({ driver with waiting := driver.waiting.insert connection reply }.give tools
      (.request connection request now wall joinId), .none)
  | .closed connection =>
    ({ driver with waiting := driver.waiting.erase connection }.give tools (.closed connection), .none)
  | .answer connectionId sdp => ((driver.give tools (.answer connectionId sdp)).forget connectionId, .none)
  | .reject connectionId reason => ((driver.give tools (.reject connectionId reason)).forget connectionId, .none)
  | .setServerData data => (driver.give tools (.setServerData data), .none)
  | .setTokenTrust trust => (driver.give tools (.setTokenTrust trust), .none)
  | .address connectionId => (driver, .address (driver.addresses.lookup connectionId))
  | .host connectionId => (driver, .host (driver.hosts.lookup connectionId))
  | .player connectionId => (driver, .player (driver.players.lookup connectionId))
  | .tick now visit => (driver.give tools (.update now visit), .none)

def step (driver : HttpDriver) (turn : HttpTurn) : HttpDriver × HttpReply :=
  ((driver.handle tools turn.command).1.takeOutputs turn.now, (driver.handle tools turn.command).2)

end

end HttpDriver

end Tokio

/-! ## Joins that leave the signaler -/

variable {connectionId : UInt64} {now : Instant}

namespace HttpSignaler
variable {signaler : HttpSignaler} {id : UInt64}

theorem mem_pending_settle {reply : HttpSignaler → Pending → HttpSignaler}
    (replies : ∀ current pending, (reply current pending).pending = current.pending) :
    id ∈ (signaler.settle connectionId reply).1.pending ↔ id ≠ connectionId ∧ id ∈ signaler.pending := by
  rw [← AList.lookup_isSome, lookup_settle replies, ← AList.lookup_isSome]
  split <;> simp_all

theorem mem_pending_closed {connection : Nat} :
    id ∈ (signaler.closed connection).pending ↔ ∃ join, signaler.pending.lookup id = some join ∧
      (connection ∈ signaler.connections → join.connection ≠ connection) := by
  rw [← AList.lookup_isSome, lookup_closed, Option.isSome_iff_exists]
  refine exists_congr fun join => ?_
  rw [Option.filter_eq_some_iff, decide_eq_true_iff, imp_iff_not_or]

/-- A tick leaves the joins whose deadline is still to come. -/
theorem mem_pending_handleUpdate {visit : Visit UInt64} :
    id ∈ (signaler.handleUpdate now visit).1.pending ↔
      ∃ join, signaler.pending.lookup id = some join ∧ now < join.deadline := by
  rw [← AList.lookup_isSome, lookup_handleUpdate, Option.isSome_iff_exists]
  refine exists_congr fun join => ?_
  rw [Option.filter_eq_some_iff, decide_eq_true_iff]

-- only a request queues an offer
theorem not_offer_of_handle (tools : JoinTools) {input : HttpSignalerInput} (drained : signaler.output = [])
    (other : input.asker = none) :
    ∀ output ∈ (signaler.handle tools input).1.output, ∀ offer, output ≠ .offer offer := by
  obtain ⟨added, queued, due⟩ := (effect_handle tools signaler input).output
  rw [queued, drained, List.nil_append]
  intro output member offer same
  have isDue := due output member
  rw [same] at isDue
  cases isDue with
  | offer asks =>
    rw [other] at asks
    cases asks

end HttpSignaler

namespace Tokio.HttpDriver
variable {driver : HttpDriver} {command : HttpCommand}

/-! ## The tables and the pending joins -/

/-- Something is kept about a join. -/
def Keeps (driver : HttpDriver) (connectionId : UInt64) : Prop :=
  connectionId ∈ driver.addresses ∨ connectionId ∈ driver.players ∨ connectionId ∈ driver.hosts

/-- Something is kept only about joins that wait for their answer. -/
def Remembers (driver : HttpDriver) : Prop := ∀ id, driver.Keeps id → id ∈ driver.signaler.pending

/-- A turn drops no join that something is kept about, other than by an answer or a rejection. -/
def Spares (driver : HttpDriver) (turn : HttpTurn) : Prop :=
  match turn.command with
  | .closed connection => connection ∈ driver.signaler.connections →
      ∀ id join, driver.Keeps id → driver.signaler.pending.lookup id = some join → join.connection ≠ connection
  | .tick now _ => ∀ id join, driver.Keeps id → driver.signaler.pending.lookup id = some join → now < join.deadline
  | _ => True

theorem mem_note {V : Type} {table : Table UInt64 V} {id : UInt64} {value : Option V}
    (member : id ∈ note table connectionId value) : id ∈ table ∨ id = connectionId := by
  cases value with
  | none => exact .inl member
  | some value => exact (AList.mem_insert _).mp member |>.symm

theorem Keeps.of_noteOffer {offer : Offer} {id : UInt64} (keeps : (driver.noteOffer offer).Keeps id) :
    driver.Keeps id ∨ id = offer.connectionId := by
  rcases keeps with member | member | member
  · exact (mem_note member).imp_left .inl
  · exact (mem_note member).imp_left fun held => .inr (.inl held)
  · exact (mem_note member).imp_left fun held => .inr (.inr held)

theorem keeps_forget {id : UInt64} : (driver.forget connectionId).Keeps id ↔ id ≠ connectionId ∧ driver.Keeps id := by
  unfold Keeps forget
  simp only [AList.mem_erase]
  tauto

theorem signaler_deliver (now : Instant) (driver : HttpDriver) (output : HttpSignalerOutput) :
    (driver.deliver now output).signaler = driver.signaler := by
  cases output with
  | response connection response keepAlive =>
    unfold deliver
    dsimp only
    split <;> rfl
  | _ => rfl

theorem signaler_takeOutputs (driver : HttpDriver) (now : Instant) :
    (driver.takeOutputs now).signaler = { driver.signaler with output := [] } := by
  unfold takeOutputs
  refine List.foldlRecOn (motive := fun after : HttpDriver => after.signaler = _) _ _ rfl ?_
  intro after same output _
  rw [signaler_deliver, same]

-- only an offer adds to the tables
theorem keeps_deliver {output : HttpSignalerOutput} {id : UInt64} (other : ∀ offer, output ≠ .offer offer) :
    (driver.deliver now output).Keeps id ↔ driver.Keeps id := by
  cases output with
  | offer offer => exact absurd rfl (other offer)
  | response connection response keepAlive =>
    unfold deliver
    dsimp only
    split <;> exact Iff.rfl
  | _ => exact Iff.rfl

theorem keeps_takeOutputs {id : UInt64} (others : ∀ output ∈ driver.signaler.output, ∀ offer, output ≠ .offer offer) :
    (driver.takeOutputs now).Keeps id ↔ driver.Keeps id := by
  unfold takeOutputs
  refine List.foldlRecOn (motive := fun after : HttpDriver => after.Keeps id ↔ driver.Keeps id) _ _ Iff.rfl ?_
  intro after same output member
  rw [keeps_deliver (others output member), same]

/-! ## Turns -/

structure Settled (driver : HttpDriver) : Prop where
  drained : driver.signaler.output = []
  remembers : driver.Remembers

section
variable {tools : JoinTools}

theorem drained_step (tools : JoinTools) (driver : HttpDriver) (turn : HttpTurn) :
    (driver.step tools turn).1.signaler.output = [] := by
  show ((driver.handle tools turn.command).1.takeOutputs turn.now).signaler.output = []
  rw [signaler_takeOutputs]

/-- A turn with no offer: what is kept and which joins wait is settled by the command alone. -/
theorem remembers_quiet (now : Instant)
    (others : ∀ output ∈ (driver.handle tools command).1.signaler.output, ∀ offer, output ≠ .offer offer) :
    (driver.step tools ⟨command, now⟩).1.Remembers ↔ (driver.handle tools command).1.Remembers := by
  refine forall_congr' fun id => ?_
  show (((driver.handle tools command).1.takeOutputs now).Keeps id → _) ↔ _
  rw [keeps_takeOutputs others]
  show (_ → id ∈ ((driver.handle tools command).1.takeOutputs now).signaler.pending) ↔ _
  rw [signaler_takeOutputs]

-- a command that queues nothing
theorem remembers_silent (now : Instant) (settled : driver.Settled)
    (silent : (driver.handle tools command).1.signaler.output = driver.signaler.output)
    (remembers : (driver.handle tools command).1.Remembers) : (driver.step tools ⟨command, now⟩).1.Remembers := by
  apply (remembers_quiet now _).mpr remembers
  rw [silent, settled.drained]
  simp

-- a request keeps something about its own join only, which waits from now on
theorem remembers_request (settled : driver.Settled) (connection : Nat) (request : Request String) (reply : Nat)
    (sent : Instant) (wall : SystemTime) (joinId : UInt64) (now : Instant) :
    (driver.step tools ⟨.request connection request reply sent wall joinId, now⟩).1.Remembers := by
  intro id keeps
  show id ∈ ((driver.handle tools (.request connection request reply sent wall joinId)).1.takeOutputs now).signaler.pending
  rw [signaler_takeOutputs]
  change ((driver.handle tools (.request connection request reply sent wall joinId)).1.takeOutputs now).Keeps id at keeps
  simp only [handle, give, HttpSignaler.handle] at keeps ⊢
  rcases HttpSignaler.handleRequest_cases tools driver.signaler connection request sent wall joinId with
    ⟨response, answered⟩ | ⟨-, networkId, player, admitted⟩ | ⟨aborted, -⟩
  · rw [answered] at keeps ⊢
    have silent : ∀ output ∈ (driver.signaler.push connection response (HttpSignaler.keepAlive request)).output,
        ∀ offer, output ≠ .offer offer := by
      simp [HttpSignaler.push, settled.drained]
    rw [keeps_takeOutputs silent] at keeps
    exact settled.remembers id keeps
  · rw [admitted] at keeps ⊢
    have one : (driver.signaler.admitJoin tools connection networkId request (HttpSignaler.keepAlive request) sent joinId
        player).output = [.offer
          { connectionId := joinId
            networkId := networkId
            sdp := request.body
            clientAddress := driver.signaler.clientAddress tools connection request
            host := (request.headers.get "host").bind headerText
            player := player }] := by
      simp [HttpSignaler.admitJoin, settled.drained]
    unfold takeOutputs at keeps
    dsimp only at keeps
    rw [one, List.foldl_cons, List.foldl_nil] at keeps
    apply (AList.mem_insert _).mpr
    rcases Keeps.of_noteOffer keeps with held | isNew
    · exact .inr (settled.remembers id held)
    · exact .inl isNew
  · rw [aborted] at keeps ⊢
    rw [keeps_takeOutputs (by simp [settled.drained])] at keeps
    exact settled.remembers id keeps

-- only a request leads to an offer
theorem remembers_told (settled : driver.Settled) (now : Instant) (input : HttpSignalerInput)
    (told : (driver.handle tools command).1.signaler = (driver.signaler.handle tools input).1)
    (other : input.asker = none) :
    (driver.step tools ⟨command, now⟩).1.Remembers ↔ (driver.handle tools command).1.Remembers := by
  apply remembers_quiet now
  rw [told]
  exact driver.signaler.not_offer_of_handle tools settled.drained other

-- what is kept is about the joins that are left
theorem remembers_left (settled : driver.Settled) {live : HttpSignaler.Pending → Prop} {signaler : HttpSignaler}
    (left : ∀ {id}, id ∈ signaler.pending ↔ ∃ join, driver.signaler.pending.lookup id = some join ∧ live join) :
    { driver with signaler := signaler }.Remembers ↔
      ∀ id join, driver.Keeps id → driver.signaler.pending.lookup id = some join → live join := by
  constructor
  · intro remembers id join keeps stored
    obtain ⟨other, sameStored, live⟩ := left.mp (remembers id keeps)
    rw [stored, Option.some.injEq] at sameStored
    exact sameStored ▸ live
  · intro spares id keeps
    obtain ⟨join, stored⟩ := Option.isSome_iff_exists.mp (AList.lookup_isSome.mpr (settled.remembers id keeps))
    exact left.mpr ⟨join, stored, spares id join keeps stored⟩

-- an answer and a rejection take the join and all that is kept about it
theorem remembers_forget {connectionId : UInt64} {reply : HttpSignaler → HttpSignaler.Pending → HttpSignaler}
    (replies : ∀ current pending, (reply current pending).pending = current.pending) (remembers : driver.Remembers) :
    ({ driver with signaler := (driver.signaler.settle connectionId reply).1 }.forget connectionId).Remembers := by
  intro id keeps
  obtain ⟨other, held⟩ := keeps_forget.mp keeps
  exact (HttpSignaler.mem_pending_settle replies).mpr ⟨other, remembers id held⟩

/-- A turn leaves something behind exactly if it drops a join that something is kept about. -/
theorem remembers_step (settled : driver.Settled) (turn : HttpTurn) :
    (driver.step tools turn).1.Remembers ↔ driver.Spares turn := by
  obtain ⟨command, now⟩ := turn
  cases command with
  | request connection request reply sent wall joinId =>
    exact iff_of_true (remembers_request settled connection request reply sent wall joinId now) trivial
  | closed connection =>
    rw [remembers_told settled now (.closed connection) rfl rfl]
    refine (remembers_left settled HttpSignaler.mem_pending_closed).trans ⟨?_, ?_⟩
    · exact fun spares registered id join keeps stored => spares id join keeps stored registered
    · exact fun spares id join keeps stored registered => spares registered id join keeps stored
  | tick time visit =>
    rw [remembers_told settled now (.update time visit) rfl rfl]
    exact remembers_left settled HttpSignaler.mem_pending_handleUpdate
  | connected connection addr =>
    refine iff_of_true ((remembers_quiet now (by simp [handle, clearOutput])).mpr ?_) trivial
    intro id keeps
    show id ∈ (driver.signaler.connected connection addr).pending
    rw [HttpSignaler.pending_connected]
    exact settled.remembers id keeps
  | answer connectionId sdp =>
    rw [remembers_told settled now (.answer connectionId sdp) rfl rfl]
    exact iff_of_true (remembers_forget (fun _ _ => rfl) settled.remembers) trivial
  | reject connectionId reason =>
    rw [remembers_told settled now (.reject connectionId reason) rfl rfl]
    exact iff_of_true (remembers_forget (fun _ _ => rfl) settled.remembers) trivial
  | setServerData data => exact iff_of_true (remembers_silent now settled rfl settled.remembers) trivial
  | setTokenTrust trust => exact iff_of_true (remembers_silent now settled rfl settled.remembers) trivial
  | address connectionId => exact iff_of_true (remembers_silent now settled rfl settled.remembers) trivial
  | host connectionId => exact iff_of_true (remembers_silent now settled rfl settled.remembers) trivial
  | player connectionId => exact iff_of_true (remembers_silent now settled rfl settled.remembers) trivial

end

theorem settled_new (config : HttpSignalerConfig) (now : Instant) : (new config now).Settled := by
  refine ⟨rfl, ?_⟩
  intro id keeps
  rcases keeps with held | held | held <;> exact absurd held (AList.notMem_empty id)

/-- The tables name only joins that wait, after every turn of a run, exactly if no turn of it drops a join that something
is kept about by a closed connection or a passed deadline. -/
theorem driver_forgets_iff (tools : JoinTools) (config : HttpSignalerConfig) (start : Instant) (turns : List HttpTurn) :
    Along (step tools) (fun driver turn => (driver.step tools turn).1.Remembers) (new config start) turns ↔
      Along (step tools) Spares (new config start) turns := by
  have agree : ∀ (driver : HttpDriver) (turn : HttpTurn), driver.Settled →
      ((driver.step tools turn).1.Remembers ↔ driver.Spares turn) := fun _ turn settled => remembers_step settled turn
  have keeps : ∀ (driver : HttpDriver) (turn : HttpTurn), driver.Settled → driver.Spares turn →
      (driver.step tools turn).1.Settled := fun driver turn settled spares =>
    ⟨drained_step tools driver turn, (remembers_step settled turn).mpr spares⟩
  exact along_congr (step tools) agree keeps (settled_new config start) turns

-- a client asks to join and goes away, or waits in vain
def hostedRequest : Request String := ⟨⟨"POST", "/v1/join/1234", .http11, [("host", utf8 "example.com")]⟩, "v=0"⟩

def abandoned (last : HttpCommand) : HttpDriver :=
  (run (step HttpSignaler.plainTools) (new { tokenTrust := none } 0)
    [⟨.connected 1 (.v4 0xc0a80001 5000), 0⟩, ⟨.request 1 hostedRequest 0 0 .unixEpoch 7, 0⟩, ⟨last, 0⟩]).1

/-- After a timeout and after a close the join is gone, and its address and its host are still kept. -/
theorem abandoned_join_kept :
    ((abandoned (.tick (Duration.fromSecs 10) .inOrder)).signaler.pending.keys = [] ∧
      (abandoned (.tick (Duration.fromSecs 10) .inOrder)).addresses.keys = [7] ∧
      (abandoned (.tick (Duration.fromSecs 10) .inOrder)).hosts.keys = [7]) ∧
    (abandoned (.closed 1)).signaler.pending.keys = [] ∧ (abandoned (.closed 1)).addresses.keys = [7] ∧
      (abandoned (.closed 1)).hosts.keys = [7] := by
  decide +kernel

end Tokio.HttpDriver

end Nethernet
