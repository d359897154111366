import Nethernet.Bevy.Client
import Nethernet.Bevy.Driven
import Nethernet.Session.Opens

/-! Signals that are not for the current attempt of the game loop's LAN client:
which of them disturb the client, and what two runs that differ by the others
have in common. -/

set_option autoImplicit false

namespace Nethernet
open Foundation

/-! ## The pool and the signals nobody takes -/

variable {ids : Option (UInt64 × String)} {signal : Signal}

namespace SessionPool
variable {crates : WebrtcCrates} {rtc : Rtc crates.Candidate}

-- a signal for other ids is one that no session will take
def belongs (ids : Option (UInt64 × String)) : PoolCommand Unit (Connection rtc) → Bool
  | .signal _ signal => ids = some (signal.connectionId, signal.networkId)
  | _ => true

theorem insert_stored {V : Type} {table : Table Unit V} {value : V} (stored : table.lookup () = some value) :
    table.insert () value = table := by
  obtain ⟨entries, distinct⟩ := table
  match entries, distinct with
  | [], _ => cases stored
  | [⟨(), held⟩], _ =>
    rw [AList.lookup, List.dlookup_cons_eq, Option.some.injEq] at stored
    subst stored
    rfl
  | ⟨(), _⟩ :: ⟨(), _⟩ :: rest, distinct =>
    exact absurd List.mem_cons_self (List.nodupKeys_cons.mp distinct).1

variable {thread : PoolThread rtc Unit}

theorem handle_foreign (bound : thread.Bound ids) (foreign : ids ≠ some (signal.connectionId, signal.networkId))
    (now : Instant) : thread.handle () (.signal signal now) = thread := by
  unfold PoolThread.handle
  split
  · rfl
  · rename_i entry stored
    have other : (signal.connectionId, signal.networkId) ≠ entry.connection.ids := by
      intro same
      rw [bound () entry stored, same] at foreign
      exact foreign rfl
    rw [Connection.handle_foreign other, insert_stored stored]

theorem bound_command (bound : thread.Bound ids) {command : PoolCommand Unit (Connection rtc)}
    (present : command.adds = false) (now : Instant) : (thread.command now command).Bound ids := by
  cases command with
  | add id connection localUfrag => cases present
  | remove id => exact bound.remove id
  | signal id signal => exact bound.handle id _
  | send id channel data => exact bound.handle id _

/-- The thread ends up the same if the signals for other ids never reach it. -/
theorem foldl_belongs (bound : thread.Bound ids) {commands : List (PoolCommand Unit (Connection rtc))}
    (noAdd : ∀ command ∈ commands, command.adds = false) (now : Instant) :
    (commands.filter (belongs ids)).foldl (PoolThread.command now) thread =
        commands.foldl (PoolThread.command now) thread ∧
      (commands.foldl (PoolThread.command now) thread).Bound ids := by
  induction commands generalizing thread with
  | nil => exact ⟨rfl, bound⟩
  | cons command rest ih =>
    have first := noAdd command List.mem_cons_self
    have others := fun other member => noAdd other (List.mem_cons_of_mem command member)
    have after := ih (bound_command bound first now) others
    refine ⟨?_, after.2⟩
    cases decision : belongs ids command with
    | true =>
      rw [List.filter_cons_of_pos decision]
      exact after.1
    | false =>
      rw [List.filter_cons_of_neg (Bool.not_eq_true _ ▸ decision)]
      cases command with
      | signal id signal =>
        have foreign : ids ≠ some (signal.connectionId, signal.networkId) := by
          simpa only [belongs, decide_eq_false_iff_not] using decision
        have same := handle_foreign bound foreign now
        simp only [List.foldl_cons, PoolThread.command, same] at after ⊢
        exact after.1
      | add id connection localUfrag => cases decision
      | remove id => cases decision
      | send id channel data => cases decision

end SessionPool

namespace NetherClient
open SessionPool
variable {host : LanHost}

/-- The pool's session is that of the current attempt, and no session is on its way to the pool. -/
structure Settled (client : NetherClient host) : Prop where
  bound : client.pool.thread.Bound client.attempt
  noAdd : ∀ command ∈ client.pool.commands, command.adds = false

/-- The client without the queued signals that its session will not take. -/
def tidy (client : NetherClient host) : NetherClient host :=
  { client with pool := { client.pool with commands := client.pool.commands.filter (belongs client.attempt) } }

/-- Clients that differ only by queued signals which no session will take. -/
structure Alike (a b : NetherClient host) : Prop where
  left : Settled a
  right : Settled b
  same : a.tidy = b.tidy

theorem settled_new : Settled (new : NetherClient host) where
  bound _ _ stored := nomatch stored
  noAdd _ member := nomatch member

variable {client : NetherClient host}

theorem Alike.refl (settled : Settled client) : Alike client client :=
  ⟨settled, settled, rfl⟩

variable {a b : NetherClient host}

-- two clients alike agree on everything but the queue
theorem Alike.view (alike : Alike a b) {V : Type} (view : NetherClient host → V)
    (unseen : ∀ client, view client.tidy = view client) : view a = view b := by
  rw [← unseen a, alike.same, unseen b]

-- an operation that does not read the queue
theorem Alike.update (alike : Alike a b) (operation : NetherClient host → NetherClient host)
    (commutes : ∀ client, operation client.tidy = (operation client).tidy)
    (kept : ∀ client, Settled client → Settled (operation client)) : Alike (operation a) (operation b) where
  left := kept a alike.left
  right := kept b alike.right
  same := by rw [← commutes, alike.same, commutes]

-- one that leaves the pool's thread, the queue and the attempt as they are
theorem Alike.frame (alike : Alike a b) (operation : NetherClient host → NetherClient host)
    (commutes : ∀ client, operation client.tidy = (operation client).tidy)
    (outside : ∀ client, ((operation client).pool.thread, (operation client).pool.commands, (operation client).attempt) =
      (client.pool.thread, client.pool.commands, client.attempt)) : Alike (operation a) (operation b) := by
  refine alike.update operation commutes fun client settled => ?_
  obtain ⟨thread, rest⟩ := Prod.mk.inj (outside client)
  obtain ⟨commands, attempt⟩ := Prod.mk.inj rest
  constructor
  · rw [thread, attempt]
    exact settled.bound
  · rw [commands]
    exact settled.noAdd

theorem Settled.push {client : NetherClient host} (settled : Settled client)
    {command : PoolCommand Unit (Connection host.rtc)} (noAdd : command.adds = false) :
    Settled (client.onPool (·.push command)) := by
  refine ⟨settled.bound, fun other member => ?_⟩
  rcases List.mem_append.mp member with old | last
  · exact settled.noAdd other old
  · exact List.mem_singleton.mp last ▸ noAdd

theorem tidy_push (client : NetherClient host) (command : PoolCommand Unit (Connection host.rtc)) :
    (client.onPool (·.push command)).tidy = (client.tidy.onPool (·.push command)).tidy := by
  simp only [tidy, onPool, SessionPool.push, List.filter_append, List.filter_filter, Bool.and_self]

theorem Alike.push {a b : NetherClient host} (alike : Alike a b) (command : PoolCommand Unit (Connection host.rtc))
    (noAdd : command.adds = false) : Alike (a.onPool (·.push command)) (b.onPool (·.push command)) where
  left := alike.left.push noAdd
  right := alike.right.push noAdd
  same := by rw [tidy_push, alike.same, ← tidy_push]

theorem Alike.emit (alike : Alike a b) (event : NetherClientEvent) : Alike (a.emit event) (b.emit event) :=
  alike.frame (·.emit event) (fun _ => rfl) fun _ => rfl

/-! ## The client's operations -/

theorem bound_add (thread : PoolThread host.rtc Unit) (connection : Connection host.rtc) (localUfrag : String)
    (now : Instant) : (thread.command now (.add () connection localUfrag)).Bound (some connection.ids) := by
  intro _ entry stored
  rw [PoolThread.command, AList.lookup_insert, Option.some.injEq] at stored
  rw [← stored]

theorem Settled.enterPool (client : NetherClient host) (connection : Connection host.rtc) (localUfrag : String)
    (now : Instant) : Settled (client.enterPool connection localUfrag now) := by
  refine ⟨?_, fun _ member => nomatch member⟩
  simp only [NetherClient.enterPool, SessionPool.add, takeCommands, SessionPool.push, List.foldl_append]
  exact bound_add _ connection localUfrag now

theorem enterPool_tidy (settled : Settled client) (connection : Connection host.rtc) (localUfrag : String)
    (now : Instant) : client.tidy.enterPool connection localUfrag now = client.enterPool connection localUfrag now := by
  have same := (foldl_belongs settled.bound settled.noAdd now).1
  cases old : client.connected <;>
    simp [enterPool, tidy, old, SessionPool.add, takeCommands, SessionPool.push, same]

theorem Alike.enterPool (alike : Alike a b) (connection : Connection host.rtc) (localUfrag : String) (now : Instant) :
    Alike (a.enterPool connection localUfrag now) (b.enterPool connection localUfrag now) := by
  rw [← enterPool_tidy alike.left, ← enterPool_tidy alike.right, alike.same]
  exact .refl (.enterPool _ connection localUfrag now)

theorem Alike.give (alike : Alike a b) (signals : List Signal) : Alike (a.give signals) (b.give signals) :=
  alike.frame (·.give signals) (fun _ => rfl) fun _ => rfl

theorem Alike.launch (alike : Alike a b) (offer : Connection host.rtc × List Signal) (localUfrag : String)
    (dial : Dial host) : Alike (a.launch offer localUfrag dial).1 (b.launch offer localUfrag dial).1 ∧
      (a.launch offer localUfrag dial).2 = (b.launch offer localUfrag dial).2 := by
  have identity := alike.view (·.identity) fun _ => rfl
  simp only [NetherClient.launch, identity]
  split
  · exact ⟨alike.give _, rfl⟩
  · exact ⟨(alike.give _).enterPool _ _ _, rfl⟩

theorem Alike.beginAttempt (alike : Alike a b) (dial : Dial host) :
    Alike (a.beginAttempt dial).1 (b.beginAttempt dial).1 ∧ (a.beginAttempt dial).2 = (b.beginAttempt dial).2 := by
  have spent : Alike a.spendAttempt b.spendAttempt :=
    alike.frame spendAttempt (fun _ => rfl) fun _ => rfl
  have timeouts := spent.view (·.timeouts) fun _ => rfl
  have target := spent.view (·.target) fun _ => rfl
  unfold NetherClient.beginAttempt
  cases dial.created with
  | error error => exact ⟨spent, rfl⟩
  | ok made =>
    simp only [timeouts, target]
    exact spent.launch _ _ _

theorem Alike.giveUp (alike : Alike a b) : Alike a.giveUp b.giveUp := by
  have pushed := alike.push (.remove ()) rfl
  have ended := pushed.frame (fun client => { client with connectingDeadline := none, connected := false })
    (fun _ => rfl) fun _ => rfl
  exact ended.emit .disconnected

theorem Alike.leavePool (alike : Alike a b) : Alike a.leavePool b.leavePool := by
  have connected := alike.view (·.connected) fun _ => rfl
  have pushed := alike.push (.remove ()) rfl
  simp only [NetherClient.leavePool, connected]
  split
  · exact pushed.frame (fun client => { client with connected := false })
      (fun _ => rfl) fun _ => rfl
  · exact alike

theorem Alike.endReady (alike : Alike a b) : Alike a.endReady b.endReady := by
  have ready := alike.view (·.ready) fun _ => rfl
  simp only [NetherClient.endReady, ready]
  split
  · have ended := alike.frame (fun client => { client with ready := false, remoteAddr := none, rtt := none })
      (fun _ => rfl) fun _ => rfl
    exact ended.emit .disconnected
  · exact alike

theorem Alike.disconnect (alike : Alike a b) : Alike a.disconnect b.disconnect := by
  have quiet := alike.frame (fun client => { client with connectingDeadline := none })
    (fun _ => rfl) fun _ => rfl
  exact quiet.leavePool.endReady

theorem Alike.refuseAnswer (alike : Alike a b) (signal : Signal) :
    Alike (a.refuseAnswer signal) (b.refuseAnswer signal) := by
  have answered := alike.view (·.answered) fun _ => rfl
  have deadline := alike.view (·.connectingDeadline) fun _ => rfl
  have target := alike.view (·.target) fun _ => rfl
  simp only [NetherClient.refuseAnswer, answered, deadline, target]
  split
  · exact (alike.give _).giveUp
  · exact alike

theorem Alike.noteAnswer (alike : Alike a b) (now : Instant) : Alike (a.noteAnswer now) (b.noteAnswer now) := by
  have answered := alike.view (·.answered) fun _ => rfl
  have deadline := alike.view (·.connectingDeadline) fun _ => rfl
  simp only [NetherClient.noteAnswer, answered, deadline]
  split
  · exact alike.frame (fun client =>
        { client with answered := true, connectingDeadline := some (now + client.timeouts.establish) })
      (fun _ => rfl) fun _ => rfl
  · exact alike

theorem Alike.forward (alike : Alike a b) (signal : Signal) : Alike (a.forward signal) (b.forward signal) :=
  alike.push (.signal () signal) rfl

theorem Alike.handleSignal (alike : Alike a b) (signal : Signal) (now : Instant) (wall : SystemTime) :
    Alike (a.handleSignal signal now wall).1 (b.handleSignal signal now wall).1 := by
  have connected := alike.view (·.connected) fun _ => rfl
  have trust := alike.view (·.serverTrust) fun _ => rfl
  simp only [NetherClient.handleSignal, connected, trust]
  split
  · exact alike
  · split
    · split
      · exact alike
      · exact alike.refuseAnswer signal
      · exact (alike.noteAnswer now).forward signal
    · exact alike.forward signal

theorem Alike.handleOutput (alike : Alike a b) (output : LanSignalerOutput) (now : Instant) (wall : SystemTime) :
    Alike (a.handleOutput output now wall).1 (b.handleOutput output now wall).1 := by
  cases output with
  | datagram data addr => exact alike
  | serverDiscovered id data => exact alike.emit _
  | signal signal => exact alike.handleSignal signal now wall
  | wait duration => exact alike

theorem Alike.poolEvent (alike : Alike a b) (event : Unit × ConnectionEvent) :
    Alike (a.poolEvent event) (b.poolEvent event) := by
  have ready := alike.view (·.ready) fun _ => rfl
  obtain ⟨_, event⟩ := event
  cases event with
  | ready addr =>
    simp only [NetherClient.poolEvent, ready]
    split
    · exact alike
    · have opened := alike.frame
        (fun client => { client with ready := true, remoteAddr := addr, connectingDeadline := none })
        (fun _ => rfl) fun _ => rfl
      exact opened.emit .connected
  | rtt rtt =>
    exact alike.frame (fun client => { client with rtt := some rtt })
      (fun _ => rfl) fun _ => rfl
  | message channel data =>
    cases channel with
    | reliable =>
      exact alike.frame (fun client => { client with received := client.received ++ [data] })
        (fun _ => rfl) fun _ => rfl
    | unreliable =>
      exact alike.frame (fun client => { client with receivedUnreliable := client.receivedUnreliable ++ [data] })
        (fun _ => rfl) fun _ => rfl
  | failed =>
    have ended := alike.frame (fun client => { client with connectingDeadline := none, connected := false })
      (fun _ => rfl) fun _ => rfl
    exact ended.emit .disconnected

theorem Alike.poolEvents (alike : Alike a b) (events : List (Unit × ConnectionEvent)) :
    Alike (events.foldl NetherClient.poolEvent a) (events.foldl NetherClient.poolEvent b) := by
  induction events generalizing a b with
  | nil => exact alike
  | cons event rest ih => exact ih (alike.poolEvent event)

theorem Alike.drivePool (alike : Alike a b) : Alike a.drivePool b.drivePool := by
  have events := alike.view (·.pool.events) fun _ => rfl
  have driven := alike.frame (·.onPool (·.drive.1)) (fun _ => rfl) fun _ => rfl
  simp only [NetherClient.drivePool, SessionPool.drive, events]
  exact driven.poolEvents b.pool.events

theorem Alike.retry (alike : Alike a b) (dial : Dial host) : Alike (a.retry dial) (b.retry dial) := by
  obtain ⟨begun, result⟩ := alike.beginAttempt dial
  simp only [NetherClient.retry, result]
  split
  · exact begun
  · exact begun.giveUp

theorem Alike.checkDeadline (alike : Alike a b) (now : Instant) (dial : Dial host) :
    Alike (a.checkDeadline now dial) (b.checkDeadline now dial) := by
  have deadline := alike.view (·.connectingDeadline) fun _ => rfl
  have answered := alike.view (·.answered) fun _ => rfl
  have attemptsLeft := alike.view (·.attemptsLeft) fun _ => rfl
  simp only [NetherClient.checkDeadline, deadline, answered, attemptsLeft]
  split
  · exact alike
  · split
    · exact alike
    · split
      · exact alike.retry dial
      · exact alike.giveUp

theorem Alike.connect (alike : Alike a b) (target : UInt64) (dial : Dial host) :
    Alike (a.connect target dial).1 (b.connect target dial).1 := by
  have aimed := alike.frame (fun client => { client with target := target, attemptsLeft := max client.attempts 1 })
    (fun _ => rfl) fun _ => rfl
  exact (aimed.beginAttempt dial).1

theorem Alike.sendOn (alike : Alike a b) (channel : Channel) (data : Bytes) :
    Alike (a.sendOn channel data).1 (b.sendOn channel data).1 := by
  have connected := alike.view (·.connected) fun _ => rfl
  unfold NetherClient.sendOn
  by_cases up : b.connected = true
  · rw [if_pos (connected.trans up), if_pos up]
    exact alike.push (.send () channel data) rfl
  · rw [if_neg (connected ▸ up), if_neg up]
    exact alike

/-! ## The pool's own steps -/

theorem Alike.poolReceive (alike : Alike a b) (source : SocketAddr) (datagram : Bytes) (now : Instant) :
    Alike (a.onPool (receiveOnPool source datagram now)) (b.onPool (receiveOnPool source datagram now)) :=
  alike.update (·.onPool (receiveOnPool source datagram now)) (fun _ => rfl)
    fun _ kept => ⟨kept.bound.receive host.stunUsername source datagram now, kept.noAdd⟩

theorem Alike.poolRound (alike : Alike a b) (now : Instant) (order : Visit Unit) :
    Alike (a.onPool (·.round now order)) (b.onPool (·.round now order)) :=
  alike.update (·.onPool (·.round now order)) (fun _ => rfl)
    fun _ kept => ⟨kept.bound.round now order, kept.noAdd⟩

theorem Settled.poolCommands (settled : Settled a) (now : Instant) : Settled (a.onPool (·.takeCommands now)) :=
  ⟨(foldl_belongs settled.bound settled.noAdd now).2, fun _ member => nomatch member⟩

theorem poolCommands_tidy (settled : Settled a) (now : Instant) :
    a.tidy.onPool (·.takeCommands now) = a.onPool (·.takeCommands now) := by
  simp only [onPool, takeCommands, tidy, (foldl_belongs settled.bound settled.noAdd now).1]

theorem Alike.poolCommands (alike : Alike a b) (now : Instant) :
    Alike (a.onPool (·.takeCommands now)) (b.onPool (·.takeCommands now)) where
  left := alike.left.poolCommands now
  right := alike.right.poolCommands now
  same := by rw [← poolCommands_tidy alike.left, ← poolCommands_tidy alike.right, alike.same]

/-- Clients alike stay alike under the same input. -/
theorem Alike.next (alike : Alike a b) (input : NetherClientInput host) : Alike (a.next input) (b.next input) := by
  cases input with
  | connect target dial => exact alike.connect target dial
  | disconnect => exact alike.disconnect
  | send channel data => exact alike.sendOn channel data
  | setIdentity identity =>
    exact alike.frame (·.next (.setIdentity identity)) (fun _ => rfl) fun _ => rfl
  | setServerTrust trust =>
    exact alike.frame (·.next (.setServerTrust trust)) (fun _ => rfl) fun _ => rfl
  | setTimeouts timeouts =>
    exact alike.frame (·.next (.setTimeouts timeouts)) (fun _ => rfl) fun _ => rfl
  | setAttempts attempts =>
    exact alike.frame (·.next (.setAttempts attempts)) (fun _ => rfl) fun _ => rfl
  | recv => exact alike.frame (·.next .recv) (fun _ => rfl) fun _ => rfl
  | recvUnreliable => exact alike.frame (·.next .recvUnreliable) (fun _ => rfl) fun _ => rfl
  | nextEvent => exact alike.frame (·.next .nextEvent) (fun _ => rfl) fun _ => rfl
  | output output now wall => exact alike.handleOutput output now wall
  | drivePool =>
    have connected := alike.view (·.connected) fun _ => rfl
    simp only [NetherClient.next, connected]
    split
    · exact alike.drivePool
    · exact alike
  | checkDeadline now dial =>
    have connected := alike.view (·.connected) fun _ => rfl
    simp only [NetherClient.next, connected]
    split
    · exact alike.checkDeadline now dial
    · exact alike
  | poolReceive source datagram now => exact alike.poolReceive source datagram now
  | poolCommands now => exact alike.poolCommands now
  | poolRound now order => exact alike.poolRound now order

/-! ## Foreign signals -/

/-- A signal for other ids than those of the current attempt. -/
def foreign (client : NetherClient host) (signal : Signal) : Bool :=
  client.attempt ≠ some (signal.connectionId, signal.networkId)

/-- The client acts on this signal before its ids are looked at. -/
def exposed (client : NetherClient host) (signal : Signal) : Bool :=
  client.connected && signal.signalType = .answer && !client.answered && client.connectingDeadline.isSome

/-- The client does not act on this signal, and the check of its identity, if there is one, returns. -/
structure Harmless (client : NetherClient host) (signal : Signal) (wall : SystemTime) : Prop where
  unexposed : client.exposed signal = false
  returns : client.connected = true → signal.signalType = .answer →
    verifyAnswer host.identityCrates signal.data client.serverTrust wall ≠ .aborted

def foreignInput (client : NetherClient host) : NetherClientInput host → Bool
  | .output (.signal signal) _ _ => client.foreign signal
  | _ => false

/-- The input is no foreign signal, or a harmless one. -/
def Spared (client : NetherClient host) (input : NetherClientInput host) : Prop :=
  ∀ signal now wall, input = .output (.signal signal) now wall → client.foreign signal = true →
    client.Harmless signal wall

/-- What a signal of another connection should leave as it is. -/
structure Undisturbed (before after : NetherClient host) : Prop where
  connected : after.connected = before.connected
  answered : after.answered = before.answered
  connectingDeadline : after.connectingDeadline = before.connectingDeadline
  attemptsLeft : after.attemptsLeft = before.attemptsLeft
  ready : after.ready = before.ready
  events : after.events = before.events
  signals : after.signals = before.signals

-- a harmless signal is dropped or handed to the pool
theorem Harmless.handleSignal {wall : SystemTime} (harmless : client.Harmless signal wall) (now : Instant) :
    client.handleSignal signal now wall = (client, .ok ()) ∨
      client.handleSignal signal now wall = (client.forward signal, .ok ()) := by
  unfold NetherClient.handleSignal
  split
  · exact .inl rfl
  · rename_i heard
    have connected : client.connected = true := by
      rw [Bool.not_eq_true, Bool.or_eq_false_iff, Bool.not_eq_false'] at heard
      exact heard.2
    split
    · rename_i answer
      have later : (!client.answered && client.connectingDeadline.isSome) = false := by
        simpa [exposed, connected, answer] using harmless.unexposed
      split
      · rename_i aborted
        exact absurd aborted (harmless.returns connected answer)
      · exact .inl (by rw [refuseAnswer, later]; rfl)
      · exact .inr (by rw [noteAnswer, later]; rfl)
    · exact .inr rfl

theorem undisturbed_iff (signal : Signal) (now : Instant) (wall : SystemTime) :
    (client.handleSignal signal now wall).2 = .ok () ∧ Undisturbed client (client.handleSignal signal now wall).1 ↔
      client.Harmless signal wall := by
  constructor
  · rintro ⟨returned, undisturbed⟩
    constructor
    · rw [Bool.eq_false_iff]
      intro exposed
      simp only [NetherClient.exposed, Bool.and_eq_true, decide_eq_true_eq, Bool.not_eq_true'] at exposed
      obtain ⟨⟨⟨connected, answer⟩, unanswered⟩, dialing⟩ := exposed
      cases verdict : verifyAnswer host.identityCrates signal.data client.serverTrust wall with
      | aborted => simp [NetherClient.handleSignal, answer, connected, verdict] at returned
      | err error =>
        have refused : (client.handleSignal signal now wall).1.connected = false := by
          simp [NetherClient.handleSignal, answer, connected, verdict, refuseAnswer, unanswered, dialing, giveUp, emit]
        rw [undisturbed.connected, connected] at refused
        cases refused
      | ok claims =>
        have taken : (client.handleSignal signal now wall).1.answered = true := by
          simp [NetherClient.handleSignal, answer, connected, verdict, noteAnswer, unanswered, dialing, forward]
        rw [undisturbed.answered, unanswered] at taken
        cases taken
    · intro connected answer aborted
      simp [NetherClient.handleSignal, answer, connected, aborted] at returned
  · intro harmless
    rcases harmless.handleSignal now with same | forwarded
    · rw [same]
      exact ⟨rfl, rfl, rfl, rfl, rfl, rfl, rfl, rfl⟩
    · rw [forwarded]
      exact ⟨rfl, rfl, rfl, rfl, rfl, rfl, rfl, rfl⟩

theorem tidy_forward (foreign : client.foreign signal = true) : (client.forward signal).tidy = client.tidy := by
  have other : belongs client.attempt (.signal () signal : PoolCommand Unit (Connection host.rtc)) = false := by
    simpa [belongs, NetherClient.foreign] using foreign
  simp [tidy, forward, SessionPool.push, List.filter_append, other]

theorem Alike.foreign (alike : Alike a b) {wall : SystemTime} (foreign : a.foreign signal = true)
    (harmless : a.Harmless signal wall) (now : Instant) : Alike (a.handleSignal signal now wall).1 b := by
  rcases harmless.handleSignal now with same | forwarded
  · rw [same]
    exact alike
  · rw [forwarded]
    exact ⟨alike.left.push rfl, alike.right, (tidy_forward foreign).trans alike.same⟩

/-- In every state reached, the client is done with a foreign signal and undisturbed by it exactly if the signal is
harmless; and a run without its foreign signals has the same events, if all of them were harmless. -/
theorem foreign_signals_undisturbing (inputs : List (NetherClientInput host)) :
    (∀ signal now wall, (run step new inputs).1.foreign signal = true →
      (((run step new inputs).1.handleOutput (.signal signal) now wall).2 = .ok () ∧
        Undisturbed (run step new inputs).1 ((run step new inputs).1.next (.output (.signal signal) now wall)) ↔
        (run step new inputs).1.Harmless signal wall)) ∧
    (Along step Spared new inputs →
      (run step new ((keep step foreignInput new inputs).map Prod.fst)).1.events = (run step new inputs).1.events) := by
  refine ⟨fun signal now wall _ => undisturbed_iff signal now wall, fun spared => ?_⟩
  have start : Alike (new : NetherClient host) new := .refl settled_new
  have runs := run_keep step foreignInput Alike ?_ ?_ start spared
  · exact (runs.1.view (·.events) fun _ => rfl).symm
  · intro a b input alike spared dropped
    cases input with
    | output output now wall =>
      cases output with
      | signal signal => exact alike.foreign dropped (spared signal now wall rfl dropped) now
      | datagram data addr => cases dropped
      | serverDiscovered id data => cases dropped
      | wait duration => cases dropped
    | _ => cases dropped
  · intro a b input alike _ _
    exact ⟨alike.next input, rfl⟩

/-! ## A dial and a stray answer -/

def quietCrates : WebrtcCrates where
  Candidate := Unit
  unmarshal _ := .error "no description"
  unmarshalCandidate _ := .error "no candidate"

def quietHost : LanHost where
  crates := quietCrates
  identityCrates := lastExpCrates
  rtc := Session.quietRtc
  writer := ⟨fun _ => "v=0", fun _ _ => "v=0", fun _ => "1 1 udp 1 127.0.0.1 8 typ host", fun _ => [()]⟩
  stunUsername _ := none
  ServerIdentity := Unit
  augment _ sdp _ := .ok sdp

def quietDial : Dial quietHost where
  created := .ok (.new (.v4 0x7f000001 8) true () (), ⟨⟨"u", "p"⟩, .auto, ("sha-256", ""), 65536, none⟩)
  connectionId := 1
  now := 0
  wall := .unixEpoch

def strayAnswer : Signal := ⟨.answer, 2, "v=0", "8"⟩

def strayCandidate : Signal := ⟨.candidate, 2, "", "8"⟩

def dialing : List (NetherClientInput quietHost) := [.connect 7 quietDial]

def dialingWithTrust : List (NetherClientInput quietHost) := .setServerTrust (some .any) :: dialing

theorem stray_candidate_undisturbing :
    Undisturbed (run step new dialing).1 ((run step new dialing).1.next (.output (.signal strayCandidate) 0 .unixEpoch)) :=
  (((foreign_signals_undisturbing dialing).1 strayCandidate 0 .unixEpoch (by decide +kernel)).mpr
    ⟨by decide +kernel, nofun⟩).2

-- the dial was answered by its own server before the game asked for signed answers
def answeredDial : List (NetherClientInput quietHost) :=
  dialing ++ [.output (.signal ⟨.answer, 1, "v=0", "7"⟩) 0 .unixEpoch, .setServerTrust (some .any)]

def strayLastExp : Signal := ⟨.answer, 2, lastExpSdp, "8"⟩

/-- An answer of another host for another connection answers the dial, or ends it if the answer must be signed;
and it may panic, also behind the answer. -/
theorem stray_answer_taken :
    ((run step new dialing).1.foreign strayAnswer = true ∧ (run step new dialing).1.answered = false ∧
      ((run step new dialing).1.next (.output (.signal strayAnswer) 0 .unixEpoch)).answered = true) ∧
    ((run step new dialingWithTrust).1.foreign strayAnswer = true ∧
      (run step new dialingWithTrust).1.events.items = [] ∧
      ((run step new dialingWithTrust).1.next (.output (.signal strayAnswer) 0 .unixEpoch)).events.items =
        [.disconnected]) ∧
    ((run step new answeredDial).1.foreign strayLastExp = true ∧ (run step new answeredDial).1.answered = true ∧
      ((run step new answeredDial).1.handleOutput (.signal strayLastExp) 0 .unixEpoch).2 = .aborted) := by
  decide +kernel

end NetherClient

end Nethernet
