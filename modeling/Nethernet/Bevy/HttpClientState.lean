import Nethernet.Bevy.ForeignSignals
import Nethernet.Bevy.HttpClient
import Nethernet.Bevy.PoolOrder

/-! The fields of the HTTP client agree with each other in every state it reaches, and
the joins of one connect are bounded by its attempts. -/

set_option autoImplicit false

namespace Nethernet.NetherHttpClient
open Foundation Http

variable {host : HttpClientHost} {client : NetherHttpClient host}

/-! ## Agreement of the fields -/

structure Consistent (client : NetherHttpClient host) : Prop where
  pool : client.connected = client.pool.isSome
  ready : client.ready = true → client.connected = true ∧ client.join = none ∧ client.connectingDeadline = none
  join : client.join.isSome = true → client.pool = none

-- without a pool it is enough that neither flag is set
theorem Consistent.unpooled (empty : client.pool = none) (unconnected : client.connected = false)
    (unready : client.ready = false) : Consistent client where
  pool := by rw [empty, unconnected]; rfl
  ready isReady := absurd (unready.symm.trans isReady) Bool.false_ne_true
  join _ := empty

theorem Consistent.unready_of_unpooled (consistent : Consistent client) (empty : client.pool = none) :
    client.connected = false ∧ client.ready = false := by
  have unconnected : client.connected = false := by rw [consistent.pool, empty]; rfl
  refine ⟨unconnected, Bool.eq_false_iff.mpr fun ready => ?_⟩
  have connected := (consistent.ready ready).1
  rw [unconnected] at connected
  cases connected

theorem Consistent.join_none (consistent : Consistent client) (held : client.pool ≠ none) : client.join = none := by
  cases joining : client.join with
  | none => rfl
  | some join => exact absurd (consistent.join (by rw [joining]; rfl)) held

theorem consistent_fail (client : NetherHttpClient host) : Consistent client.fail := .unpooled rfl rfl rfl

theorem consistent_disconnect (client : NetherHttpClient host) : Consistent client.disconnect := by
  unfold disconnect
  dsimp only
  split
  · exact .unpooled rfl rfl rfl
  · rename_i unready
    exact .unpooled rfl rfl (Bool.eq_false_iff.mpr unready)

theorem consistent_beginJoin (dial : HttpDial host) (empty : client.pool = none) (unconnected : client.connected = false)
    (unready : client.ready = false) : Consistent (client.beginJoin dial).1 := by
  unfold beginJoin
  split <;> exact .unpooled empty unconnected unready

theorem consistent_connect (client : NetherHttpClient host) (localNetworkId serverUrl : String) (dial : HttpDial host) :
    Consistent (client.connect localNetworkId serverUrl dial).1 := consistent_beginJoin dial rfl rfl rfl

/-! ## Updates -/

-- what the game was told about its connection
def connectionEvents (client : NetherHttpClient host) : List NetherHttpClientEvent :=
  client.events.items.filter fun event => !event.isQuery

theorem connectionEvents_query {event : NetherHttpClientEvent} (isQuery : event.isQuery = true) :
    (client.emit event).connectionEvents = client.connectionEvents := by
  unfold connectionEvents emit
  rw [Feed.items_push, List.filter_append, List.filter_cons_of_neg (by simp [isQuery])]
  exact List.append_nil _

theorem isQuery_statusEvent (code : UInt16) (body : String) :
    (statusEvent host code body).isQuery = true := by
  unfold statusEvent
  split <;> rfl

/-- A status query concerns nothing but itself. -/
theorem updateQuery_eq (client : NetherHttpClient host) (now : Instant) : ∃ query events,
    client.updateQuery now = { client with query := query, events := events } ∧
      (client.updateQuery now).connectionEvents = client.connectionEvents := by
  unfold updateQuery
  split
  · exact ⟨client.query, client.events, rfl, rfl⟩
  · dsimp only
    split
    · split
      · exact ⟨_, _, rfl, connectionEvents_query rfl⟩
      · exact ⟨_, _, rfl, rfl⟩
    · exact ⟨_, _, rfl, connectionEvents_query (isQuery_statusEvent _ _)⟩
    · exact ⟨_, _, rfl, connectionEvents_query rfl⟩

theorem Consistent.updateQuery (consistent : Consistent client) (now : Instant) :
    Consistent (client.updateQuery now) := by
  obtain ⟨query, events, same, -⟩ := client.updateQuery_eq now
  rw [same]
  exact ⟨consistent.pool, consistent.ready, consistent.join⟩

/-- What an update makes of a join: it waits on or is dropped by a panic, it is rejected, or its session enters a pool. -/
theorem updateJoin_cases (client : NetherHttpClient host) (now : Instant) (wall : SystemTime)
    (early : List (PoolStep Unit)) :
    (client.updateJoin now wall early).1 = client ∨ client.join.isSome = true ∧
      ((∃ join, (client.updateJoin now wall early).1 = { client with join := join }) ∨
        (client.updateJoin now wall early).1 = { client with join := none }.rejectJoin ∨
        ∃ connection ufrag, (client.updateJoin now wall early).1 = { client with
          join := none
          pool := some (early.foldl (SessionPool.advance host.stunUsername) (SessionPool.new.add () connection ufrag now))
          connected := true
          connectingDeadline := some (now + client.timeouts.establish) }) := by
  unfold updateJoin
  split
  · exact .inl rfl
  · rename_i join joining
    rw [joining]
    refine .inr ⟨rfl, ?_⟩
    dsimp only
    split
    · exact .inl ⟨_, rfl⟩
    · split
      · unfold settleJoin
        split
        · exact .inr (.inl rfl)
        · exact .inr (.inr ⟨_, _, rfl⟩)
      · exact .inr (.inl rfl)
      · exact .inl ⟨_, rfl⟩
    · exact .inr (.inl rfl)

-- after a panic over the answer nothing else of the update is done
theorem update_cases (client : NetherHttpClient host) (now : Instant) (wall : SystemTime) (dial : HttpDial host)
    (early : List (PoolStep Unit)) :
    (client.update now wall dial early).1 = ((client.updateQuery now).updateJoin now wall early).1 ∨
      (client.update now wall dial early).1 =
        ((client.updateQuery now).updateJoin now wall early).1.updatePool.checkDeadline now dial := by
  unfold update
  split
  · rename_i joined
    rw [joined]
    exact .inr rfl
  · rename_i joined
    rw [joined]
    exact .inl rfl

theorem Consistent.updateJoin (consistent : Consistent client) (now : Instant) (wall : SystemTime)
    (early : List (PoolStep Unit)) : Consistent (client.updateJoin now wall early).1 := by
  rcases client.updateJoin_cases now wall early with same | ⟨joining, done⟩
  · rwa [same]
  · have empty : client.pool = none := consistent.join joining
    obtain ⟨unconnected, unready⟩ := consistent.unready_of_unpooled empty
    rcases done with ⟨join, waits⟩ | rejected | ⟨connection, ufrag, settled⟩
    · rw [waits]
      exact .unpooled empty unconnected unready
    · rw [rejected]
      exact .unpooled empty unconnected unready
    · rw [settled]
      exact ⟨rfl, fun ready => absurd (unready.symm.trans ready) Bool.false_ne_true, fun join => by cases join⟩

theorem consistent_failures {events : List (Unit × ConnectionEvent)} (failures : ∀ event ∈ events, event.2 = .failed)
    (consistent : Consistent client) : Consistent (events.foldl poolEvent client) := by
  refine List.foldlRecOn (motive := fun after : NetherHttpClient host => Consistent after) _ _ consistent ?_
  intro after _ event member
  have failing : poolEvent after event = after.fail := by rw [poolEvent, failures event member]
  rw [failing]
  exact consistent_fail after

variable {event : Unit × ConnectionEvent}

-- other reports leave the pool alone
theorem pool_poolEvent (other : event.2 ≠ .failed) : (client.poolEvent event).pool = client.pool := by
  unfold poolEvent
  split
  · split <;> rfl
  · rfl
  · rfl
  · rfl
  · exact absurd ‹event.2 = .failed› other

theorem Consistent.poolEvent (consistent : Consistent client) (held : client.pool ≠ none) :
    Consistent (client.poolEvent event) := by
  unfold NetherHttpClient.poolEvent
  split
  · split
    · exact consistent
    · have connected : client.connected = true := consistent.pool.trans (Option.isSome_iff_ne_none.mpr held)
      exact ⟨consistent.pool, fun _ => ⟨connected, consistent.join_none held, rfl⟩, consistent.join⟩
  · exact ⟨consistent.pool, consistent.ready, consistent.join⟩
  · exact ⟨consistent.pool, consistent.ready, consistent.join⟩
  · exact ⟨consistent.pool, consistent.ready, consistent.join⟩
  · exact consistent_fail client

/-- A batch of reports in order keeps the fields in agreement: the pool is held until a failure comes. -/
theorem Consistent.poolEvents {events : List (Unit × ConnectionEvent)} (orderly : Orderly events)
    (consistent : Consistent client) (held : client.pool ≠ none) :
    Consistent (events.foldl NetherHttpClient.poolEvent client) := by
  induction events generalizing client with
  | nil => exact consistent
  | cons event rest ih =>
    obtain ⟨ends, later⟩ := List.pairwise_cons.mp orderly
    rw [List.foldl_cons]
    by_cases failure : event.2 = .failed
    · exact consistent_failures (fun next member => ends next member failure) (consistent.poolEvent held)
    · apply ih later (consistent.poolEvent held)
      rwa [pool_poolEvent failure]

theorem Consistent.updatePool (consistent : Consistent client)
    (orderly : ∀ pool, client.pool = some pool → Orderly pool.events) : Consistent client.updatePool := by
  unfold NetherHttpClient.updatePool
  split
  · exact consistent
  · rename_i pool held
    have driven : Consistent { client with pool := some pool.drive.1 } := by
      refine ⟨consistent.pool.trans (by rw [held]; rfl), consistent.ready, fun join => ?_⟩
      have empty := consistent.join join
      rw [held] at empty
      cases empty
    exact driven.poolEvents (orderly pool held) (Option.some_ne_none _)

theorem Consistent.checkDeadline (consistent : Consistent client) (now : Instant) (dial : HttpDial host) :
    Consistent (client.checkDeadline now dial) := by
  unfold NetherHttpClient.checkDeadline
  split
  · exact consistent
  · split
    · exact consistent
    · split
      · rename_i retries
        have empty : client.pool = none := by simpa using (Bool.and_eq_true_iff.mp retries).1
        obtain ⟨unconnected, unready⟩ := consistent.unready_of_unpooled empty
        have begun := consistent_beginJoin dial empty unconnected unready
        unfold retry
        split
        · rename_i joined
          rwa [joined] at begun
        · exact consistent_fail _
      · exact consistent_fail client

/-- The pool that an update drives has its reports in order. -/
def OrderlyReports (client : NetherHttpClient host) : HttpClientInput host → Prop
  | .update now wall _ early =>
    ∀ pool, ((client.updateQuery now).updateJoin now wall early).1.pool = some pool → Orderly pool.events
  | _ => True

theorem Consistent.pool_map (consistent : Consistent client)
    (change : SessionPool host.rtc Unit → SessionPool host.rtc Unit) :
    Consistent { client with pool := client.pool.map change } := by
  refine ⟨consistent.pool.trans Option.isSome_map.symm, consistent.ready, fun join => ?_⟩
  show client.pool.map change = none
  rw [consistent.join join]
  rfl

-- a send that is taken goes to the pool
theorem next_send (client : NetherHttpClient host) (channel : Channel) (data : Bytes) :
    client.next (.send channel data) = client ∨
      client.next (.send channel data) = { client with pool := client.pool.map (·.push (.send () channel data)) } := by
  simp only [next, sendOn]
  split
  · rename_i after sent
    split at sent
    · cases sent
    · split at sent
      · cases sent
      · rename_i pool held
        cases sent
        rw [held]
        exact .inr rfl
  all_goals exact .inl rfl

theorem next_query (client : NetherHttpClient host) (url : String) (dial : HttpDial host) :
    ∃ query, client.next (.query url dial) = { client with query := query } := by
  unfold next
  dsimp only
  split
  · rename_i after asked
    unfold queryServerData at asked
    obtain ⟨⟨target, addr⟩, -, asked⟩ := Except.bind_eq_ok.mp asked
    obtain ⟨stream, -, asked⟩ := Except.bind_eq_ok.mp asked
    obtain ⟨request, -, asked⟩ := Except.bind_eq_ok.mp asked
    cases asked
    exact ⟨_, rfl⟩
  · exact ⟨client.query, rfl⟩

variable {input : HttpClientInput host}

theorem Consistent.next (consistent : Consistent client) (orderly : client.OrderlyReports input) :
    Consistent (client.next input) := by
  cases input with
  | connect localNetworkId serverUrl dial => exact consistent_connect client localNetworkId serverUrl dial
  | disconnect => exact consistent_disconnect client
  | update now wall dial early =>
    have joined := (consistent.updateQuery now).updateJoin now wall early
    show Consistent (client.update now wall dial early).1
    rcases client.update_cases now wall dial early with panicked | went
    · rwa [panicked]
    · rw [went]
      exact (joined.updatePool orderly).checkDeadline now dial
  | send channel data =>
    rcases client.next_send channel data with same | sent
    · rwa [same]
    · rw [sent]
      exact consistent.pool_map _
  | query url dial =>
    obtain ⟨query, same⟩ := client.next_query url dial
    rw [same]
    exact ⟨consistent.pool, consistent.ready, consistent.join⟩
  | pool step => exact consistent.pool_map _
  | _ => exact ⟨consistent.pool, consistent.ready, consistent.join⟩

-- the pool is there when the flag says so
theorem Consistent.sendOn_ne_aborted (consistent : Consistent client) (channel : Channel) (data : Bytes) :
    client.sendOn channel data ≠ .aborted := by
  unfold sendOn
  split
  · simp
  · rename_i connected
    split
    · rename_i empty
      exact absurd (consistent.unready_of_unpooled empty).1 (by simpa using connected)
    · simp

/-! ## Joins of one connect -/

-- the joins that were started and those that may still be
def budget (client : NetherHttpClient host) : Nat := client.joins + client.attemptsLeft

theorem budget_beginJoin (dial : HttpDial host) (left : 0 < client.attemptsLeft) :
    (client.beginJoin dial).1.budget ≤ client.budget := by
  unfold beginJoin budget
  split
  · exact Nat.add_le_add_left (Nat.sub_le _ _) _
  · show client.joins + 1 + (client.attemptsLeft - 1) ≤ _
    omega

theorem budget_connect (client : NetherHttpClient host) (localNetworkId serverUrl : String) (dial : HttpDial host) :
    (client.connect localNetworkId serverUrl dial).1.budget ≤ client.joins + max client.attempts 1 := by
  have left : 0 < (client.prepare localNetworkId serverUrl).attemptsLeft := Nat.lt_of_lt_of_le Nat.one_pos (Nat.le_max_right _ _)
  exact budget_beginJoin dial left

theorem budget_updateJoin (client : NetherHttpClient host) (now : Instant) (wall : SystemTime)
    (early : List (PoolStep Unit)) : (client.updateJoin now wall early).1.budget = client.budget := by
  rcases client.updateJoin_cases now wall early with same | ⟨-, ⟨join, waits⟩ | rejected | ⟨connection, ufrag, settled⟩⟩
  · rw [same]
  · rw [waits]
    rfl
  · rw [rejected]
    rfl
  · rw [settled]
    rfl

theorem budget_poolEvent (client : NetherHttpClient host) (event : Unit × ConnectionEvent) :
    (client.poolEvent event).budget = client.budget := by
  unfold poolEvent
  split
  · split <;> rfl
  all_goals rfl

theorem budget_updatePool (client : NetherHttpClient host) : client.updatePool.budget = client.budget := by
  unfold updatePool
  split
  · rfl
  · refine List.foldlRecOn (motive := fun after : NetherHttpClient host => after.budget = client.budget) _ _ rfl ?_
    intro after same event _
    rw [budget_poolEvent, same]

theorem budget_checkDeadline (client : NetherHttpClient host) (now : Instant) (dial : HttpDial host) :
    (client.checkDeadline now dial).budget ≤ client.budget := by
  unfold checkDeadline
  split
  · exact Nat.le_refl _
  · split
    · exact Nat.le_refl _
    · split
      · rename_i retries
        have begun := budget_beginJoin dial (by simpa using (Bool.and_eq_true_iff.mp retries).2 : 0 < client.attemptsLeft)
        unfold retry
        split
        · rename_i joined
          rwa [joined] at begun
        · rename_i refused
          rw [refused] at begun
          exact begun
      · exact Nat.le_refl _

/-- Only a connect gives the client more joins. -/
theorem budget_next (other : input.isConnect = false) : (client.next input).budget ≤ client.budget := by
  cases input with
  | connect localNetworkId serverUrl dial => cases other
  | update now wall dial early =>
    obtain ⟨query, events, asked, -⟩ := client.updateQuery_eq now
    have queried : (client.updateQuery now).budget = client.budget := by
      rw [asked]
      rfl
    have joined := ((client.updateQuery now).budget_updateJoin now wall early).trans queried
    show (client.update now wall dial early).1.budget ≤ _
    rcases client.update_cases now wall dial early with panicked | went
    · rw [panicked]
      exact Nat.le_of_eq joined
    · rw [went]
      calc (((client.updateQuery now).updateJoin now wall early).1.updatePool.checkDeadline now dial).budget
        _ ≤ ((client.updateQuery now).updateJoin now wall early).1.updatePool.budget := budget_checkDeadline _ now dial
        _ = client.budget := (budget_updatePool _).trans joined
  | disconnect =>
    show client.disconnect.budget ≤ _
    unfold disconnect
    dsimp only
    split <;> exact Nat.le_refl _
  | send channel data =>
    rcases client.next_send channel data with same | sent
    · rw [same]
    · rw [sent]
      exact Nat.le_refl _
  | query url dial =>
    obtain ⟨query, same⟩ := client.next_query url dial
    rw [same]
    exact Nat.le_refl _
  | _ => exact Nat.le_refl _

variable {inputs : List (HttpClientInput host)}

theorem budget_run (others : ∀ input ∈ inputs, input.isConnect = false) :
    (run step client inputs).1.budget ≤ client.budget := by
  induction inputs generalizing client with
  | nil => exact Nat.le_refl _
  | cons input rest ih =>
    rw [run_cons]
    exact (ih fun later member => others later (List.mem_cons_of_mem _ member)).trans
      (budget_next (others input List.mem_cons_self))

/-! ## The reports of the pool's thread -/

-- the pool that is held has its reports in order and its session taken up
def Tidy (client : NetherHttpClient host) : Prop := ∀ pool, client.pool = some pool → pool.Sequenced

def RegularSteps : HttpClientInput host → Prop
  | .pool step => step.Regular
  | .update _ _ _ early => ∀ step ∈ early, step.Regular
  | _ => True

theorem Tidy.unpooled (empty : client.pool = none) : Tidy client := by
  intro pool held
  rw [empty] at held
  cases held

theorem Tidy.pool_map (tidy : Tidy client) {change : SessionPool host.rtc Unit → SessionPool host.rtc Unit}
    (keeps : ∀ pool : SessionPool host.rtc Unit, pool.Sequenced → (change pool).Sequenced) :
    Tidy { client with pool := client.pool.map change } := by
  intro pool held
  obtain ⟨before, wasHeld, rfl⟩ := Option.map_eq_some_iff.mp held
  exact keeps before (tidy before wasHeld)

theorem Tidy.updateJoin (tidy : Tidy client) (now : Instant) (wall : SystemTime) {early : List (PoolStep Unit)}
    (regular : ∀ step ∈ early, step.Regular) : Tidy (client.updateJoin now wall early).1 := by
  rcases client.updateJoin_cases now wall early with same | ⟨-, ⟨join, waits⟩ | rejected | ⟨connection, ufrag, settled⟩⟩
  · rwa [same]
  · rw [waits]
    exact tidy
  · rw [rejected]
    exact tidy
  · rw [settled]
    intro pool held
    cases held
    refine List.foldlRecOn (motive := fun pool : SessionPool host.rtc Unit => pool.Sequenced) _ _ (.add _ _ now) ?_
    intro pool sequenced step member
    exact sequenced.advance host.stunUsername (regular step member)

theorem Tidy.poolEvent (tidy : Tidy client) (event : Unit × ConnectionEvent) : Tidy (client.poolEvent event) := by
  by_cases failure : event.2 = .failed
  · have failing : client.poolEvent event = client.fail := by rw [NetherHttpClient.poolEvent, failure]
    rw [failing]
    exact .unpooled rfl
  · intro pool held
    rw [pool_poolEvent failure] at held
    exact tidy pool held

theorem Tidy.updatePool (tidy : Tidy client) : Tidy client.updatePool := by
  unfold NetherHttpClient.updatePool
  split
  · exact tidy
  · rename_i pool held
    have driven : Tidy { client with pool := some pool.drive.1 } := by
      intro after same
      cases same
      exact (tidy pool held).drive
    exact List.foldlRecOn (motive := fun after : NetherHttpClient host => Tidy after) _ _ driven
      fun _ kept event _ => kept.poolEvent event

theorem pool_beginJoin (client : NetherHttpClient host) (dial : HttpDial host) :
    (client.beginJoin dial).1.pool = client.pool := by
  unfold beginJoin
  split <;> rfl

theorem Tidy.checkDeadline (tidy : Tidy client) (now : Instant) (dial : HttpDial host) :
    Tidy (client.checkDeadline now dial) := by
  unfold NetherHttpClient.checkDeadline
  split
  · exact tidy
  · split
    · exact tidy
    · split
      · have same := client.pool_beginJoin dial
        unfold retry
        split
        · rename_i joined
          rw [joined] at same
          exact fun pool held => tidy pool (same ▸ held)
        · exact .unpooled rfl
      · exact .unpooled rfl

theorem Tidy.updateQuery (tidy : Tidy client) (now : Instant) : Tidy (client.updateQuery now) := by
  obtain ⟨query, events, same, -⟩ := client.updateQuery_eq now
  rw [same]
  exact tidy

theorem Tidy.next (tidy : Tidy client) (regular : RegularSteps input) : Tidy (client.next input) := by
  cases input with
  | connect localNetworkId serverUrl dial => exact .unpooled (pool_beginJoin _ dial)
  | disconnect =>
    apply Tidy.unpooled
    show client.disconnect.pool = none
    unfold disconnect
    dsimp only
    split <;> rfl
  | update now wall dial early =>
    have joined := (tidy.updateQuery now).updateJoin now wall regular
    show Tidy (client.update now wall dial early).1
    rcases client.update_cases now wall dial early with panicked | went
    · rwa [panicked]
    · rw [went]
      exact joined.updatePool.checkDeadline now dial
  | send channel data =>
    rcases client.next_send channel data with same | sent
    · rwa [same]
    · rw [sent]
      exact tidy.pool_map fun _ sequenced => sequenced.push rfl
  | query url dial =>
    obtain ⟨query, same⟩ := client.next_query url dial
    rw [same]
    exact tidy
  | pool step => exact tidy.pool_map fun _ sequenced => sequenced.advance host.stunUsername regular
  | _ => exact tidy

/-- The thread of a pool reports in order, whatever it does between the calls of the client. -/
theorem reports_orderly (regular : ∀ input ∈ inputs, RegularSteps input) (tidy : Tidy client) :
    Along step OrderlyReports client inputs := by
  induction inputs generalizing client with
  | nil => trivial
  | cons input rest ih =>
    have first := regular input List.mem_cons_self
    refine ⟨?_, ih (fun later member => regular later (List.mem_cons_of_mem _ member)) (tidy.next first)⟩
    cases input with
    | update now wall dial early =>
      intro pool held
      exact ((tidy.updateQuery now).updateJoin now wall first pool held).orderly
    | _ => trivial

/-! ## All runs -/

/-- In every run in which the pools report in order, the flag says whether a pool is held, so that no send panics, a ready
client is connected and not waiting, and a join excludes a pool; and the joins after a connect are at most its attempts. -/
theorem client_consistent (inputs : List (HttpClientInput host))
    (orderly : Along step OrderlyReports (new : NetherHttpClient host) inputs) :
    let client := (run step (new : NetherHttpClient host) inputs).1
    ((client.connected = true ↔ client.pool.isSome = true) ∧
      (∀ channel data, client.sendOn channel data ≠ .aborted) ∧
      (client.ready = true → client.connected = true ∧ client.join = none ∧ client.connectingDeadline = none) ∧
      (client.join.isSome = true → client.pool = none)) ∧
    ∀ localNetworkId serverUrl dial between,
      (∀ input ∈ between, input.isConnect = false) →
      (run step client (.connect localNetworkId serverUrl dial :: between)).1.joins ≤
        client.joins + max 1 client.attempts := by
  intro client
  have start : Consistent (new : NetherHttpClient host) := .unpooled rfl rfl rfl
  have keeps : ∀ (reached : NetherHttpClient host) input, Consistent reached → reached.OrderlyReports input →
      Consistent (step reached input).1 := fun _ _ consistent met => consistent.next met
  have consistent : Consistent client := orderly.invariant step keeps start
  refine ⟨⟨by rw [consistent.pool], consistent.sendOn_ne_aborted, consistent.ready, consistent.join⟩, ?_⟩
  intro localNetworkId serverUrl dial between others
  have spent : (run step (client.connect localNetworkId serverUrl dial).1 between).1.budget ≤ _ := budget_run others
  rw [Nat.max_comm]
  exact (Nat.le_add_right _ _).trans (spent.trans (budget_connect client localNetworkId serverUrl dial))

-- a server whose reply, if any, has come before the client reads
def scriptedWire : Wire where
  Socket := Bytes
  read reply := ([], .ok (if reply = [] then .idle else .received, reply))
  write reply bytes := (reply, .ok bytes.length)
  flush reply := (reply, .ok ())
  finish reply := (reply, .ok ())
  hasPendingOutput _ := false
  awaitingSession _ := false
  beginSession reply _ := (reply, .ok ())

-- a reply is read as a body of three bytes without a head
def scriptedHost : HttpClientHost where
  crates := { NetherClient.quietCrates with
    unmarshal := fun _ => .ok ⟨[], [⟨[⟨"ice-ufrag", some "u"⟩, ⟨"ice-pwd", some "p"⟩, ⟨"fingerprint", some "sha-256 AB:CD"⟩,
      ⟨"setup", some "active"⟩]⟩]⟩ }
  identityCrates := NetherClient.quietHost.identityCrates
  rtc := NetherClient.quietHost.rtc
  writer := ⟨fun _ => "v=0", fun _ _ => "v=0", fun _ => "", fun _ => [()]⟩
  stunUsername := NetherClient.quietHost.stunUsername
  ServerIdentity := Unit
  augment _ sdp _ := .ok sdp
  wire := scriptedWire
  http :=
    { parseRequest := fun _ _ => .error .other
      parseChunkSize := fun _ => none
      parseHeaders := fun _ _ => .error .other
      buildRequest := fun _ _ _ => none
      parseResponse := fun _ reply =>
        .ok (if reply = [] then .incomplete else .complete (0, ⟨some 200, [("content-length", utf8 "3")]⟩))
      buildResponse := fun status headers => some (status, headers) }
  requests := ⟨some, some⟩
  parseStatus _ := .error "no document"

def scriptedDial (now : Instant) (reply : Bytes) : HttpDial scriptedHost where
  addrs := some [.v4 0x7f000001 7551]
  bound := .ok ()
  created := NetherClient.quietDial.created
  connectionId := 1
  opened := .ok reply
  now := now
  wall := .unixEpoch

def updateAt (seconds : Nat) (reply : Bytes) (early : List (PoolStep Unit)) : HttpClientInput scriptedHost :=
  .update (Duration.fromSecs seconds) .unixEpoch (scriptedDial (Duration.fromSecs seconds) reply) early

-- a join that is not answered, and the one begun at its deadline, which is
def retried : List (HttpClientInput scriptedHost) :=
  [.connect "1" "http://127.0.0.1:7551" (scriptedDial 0 []), updateAt 15 (utf8 "v=0") [], updateAt 16 [] [],
    updateAt 17 [] [.command (Duration.fromSecs 17)]]

theorem retried_consistent : (run step new retried).1.joins = 2 ∧ (run step new retried).1.pool.isSome = true ∧
    (run step new retried).1.connected = true ∧
    (∀ channel data, (run step new retried).1.sendOn channel data ≠ .aborted) ∧
    (run step (run step new retried).1 [.connect "1" "http://127.0.0.1:7551" (scriptedDial 0 []), .disconnect]).1.joins ≤
      2 + max 1 3 := by
  have regular : ∀ input ∈ retried, RegularSteps input := by simp [retried, updateAt, RegularSteps, PoolStep.Regular]
  have idle : Tidy (new : NetherHttpClient scriptedHost) := .unpooled rfl
  have twice : (run step new retried).1.joins = 2 := by decide +kernel
  have held : (run step new retried).1.pool.isSome = true := by decide +kernel
  have three : (run step new retried).1.attempts = 3 := by decide +kernel
  obtain ⟨⟨flag, sends, -⟩, joins⟩ := client_consistent retried (reports_orderly regular idle)
  have bounded := joins "1" "http://127.0.0.1:7551" (scriptedDial 0 []) [.disconnect] (by simp [HttpClientInput.isConnect])
  rw [twice, three] at bounded
  exact ⟨twice, held, flag.mpr held, sends, bounded⟩

end Nethernet.NetherHttpClient
