import Nethernet.Bevy.HttpClientState

/-! A connect that fails: it ends the join or the session of the connect before, but not
the deadline that was set for it, and the update at that deadline dials again. -/

set_option autoImplicit false

namespace Nethernet.NetherHttpClient
open Foundation Http

variable {host : HttpClientHost} {client : NetherHttpClient host}

-- an update starts no join and tells the game nothing about a connection
def Idle (client : NetherHttpClient host) : HttpClientInput host → Prop
  | .update now wall dial early =>
    (client.update now wall dial early).1.joins = client.joins ∧
      (client.update now wall dial early).1.connectionEvents = client.connectionEvents
  | _ => True

/-! ## Nothing in progress -/

structure Dormant (client : NetherHttpClient host) : Prop where
  join : client.join = none
  pool : client.pool = none
  deadline : client.connectingDeadline = none

-- all that an update of such a client can do is to go on with a query
theorem Dormant.update (dormant : Dormant client) (now : Instant) (wall : SystemTime) (dial : HttpDial host)
    (early : List (PoolStep Unit)) : (client.update now wall dial early).1 = client.updateQuery now := by
  obtain ⟨query, events, same, -⟩ := client.updateQuery_eq now
  unfold NetherHttpClient.update
  rw [same]
  simp only [updateJoin, dormant.join, updatePool, dormant.pool, checkDeadline, dormant.deadline]

theorem Dormant.idle (dormant : Dormant client) (input : HttpClientInput host) : client.Idle input := by
  cases input with
  | update now wall dial early =>
    obtain ⟨query, events, same, told⟩ := client.updateQuery_eq now
    unfold Idle
    dsimp only
    rw [dormant.update now wall dial early]
    exact ⟨by rw [same], told⟩
  | _ => trivial

theorem Dormant.next (dormant : Dormant client) {input : HttpClientInput host} (other : input.isConnect = false) :
    Dormant (client.next input) := by
  cases input with
  | connect localNetworkId serverUrl dial => cases other
  | disconnect =>
    show Dormant client.disconnect
    unfold disconnect
    dsimp only
    split <;> exact ⟨rfl, rfl, rfl⟩
  | update now wall dial early =>
    show Dormant (client.update now wall dial early).1
    obtain ⟨query, events, same, -⟩ := client.updateQuery_eq now
    rw [dormant.update now wall dial early, same]
    exact ⟨dormant.join, dormant.pool, dormant.deadline⟩
  | send channel data =>
    rcases client.next_send channel data with same | sent
    · rwa [same]
    · rw [sent]
      exact ⟨dormant.join, by simp [dormant.pool], dormant.deadline⟩
  | query url dial =>
    obtain ⟨query, same⟩ := client.next_query url dial
    rw [same]
    exact ⟨dormant.join, dormant.pool, dormant.deadline⟩
  | pool step => exact ⟨dormant.join, by simp [NetherHttpClient.next, dormant.pool], dormant.deadline⟩
  | _ => exact ⟨dormant.join, dormant.pool, dormant.deadline⟩

theorem Dormant.along (dormant : Dormant client) {inputs : List (HttpClientInput host)}
    (others : ∀ input ∈ inputs, input.isConnect = false) : Along step Idle client inputs := by
  induction inputs generalizing client with
  | nil => trivial
  | cons input rest ih =>
    exact ⟨dormant.idle input, ih (dormant.next (others input List.mem_cons_self))
      fun later member => others later (List.mem_cons_of_mem _ member)⟩

/-! ## What a failed connect leaves -/

theorem connect_failed {localNetworkId serverUrl : String} {dial : HttpDial host} {error : HttpClientError}
    (failed : (client.connect localNetworkId serverUrl dial).2 = .error error) :
    (client.connect localNetworkId serverUrl dial).1 = (client.prepare localNetworkId serverUrl).spendAttempt := by
  unfold connect beginJoin at failed ⊢
  split at failed
  · rfl
  · cases failed

theorem connectionEvents_fail (client : NetherHttpClient host) :
    client.fail.connectionEvents = client.connectionEvents ++ [if client.ready then .disconnected else .connectFailed] := by
  unfold connectionEvents fail emit
  dsimp only
  rw [Feed.items_push, List.filter_append, List.filter_singleton]
  cases client.ready <;> rfl

theorem fail_tells (client : NetherHttpClient host) : client.fail.connectionEvents ≠ client.connectionEvents := by
  rw [connectionEvents_fail]
  simp

-- a retry starts a join or reports that there is none
theorem retry_stirs (client : NetherHttpClient host) (dial : HttpDial host) :
    (client.retry dial).joins ≠ client.joins ∨ (client.retry dial).connectionEvents ≠ client.connectionEvents := by
  unfold retry beginJoin
  cases client.spendAttempt.openJoin dial with
  | ok join => exact .inl (Nat.succ_ne_self _)
  | error error => exact .inr (fail_tells client.spendAttempt)

/-- With nothing in progress, an update past the deadline dials again or reports a failure. -/
theorem stirs_past_deadline {now deadline : Instant} (wall : SystemTime) (dial : HttpDial host)
    (early : List (PoolStep Unit)) (idle : client.join = none) (empty : client.pool = none)
    (waiting : client.connectingDeadline = some deadline) (passed : deadline ≤ now) :
    ¬ client.Idle (.update now wall dial early) := by
  obtain ⟨query, events, same, told⟩ := client.updateQuery_eq now
  have joins : (client.updateQuery now).joins = client.joins := by rw [same]
  have checked : (client.update now wall dial early).1 = (client.updateQuery now).checkDeadline now dial := by
    unfold NetherHttpClient.update
    rw [same]
    simp only [updateJoin, idle, updatePool, empty]
  have reached : (client.updateQuery now).connectingDeadline = some deadline := by
    rw [same]
    exact waiting
  rintro ⟨sameJoins, sameEvents⟩
  rw [checked, ← joins] at sameJoins
  rw [checked, ← told] at sameEvents
  unfold checkDeadline at sameJoins sameEvents
  simp only [reached, if_neg (Nat.not_lt_of_le passed)] at sameJoins sameEvents
  split at sameJoins
  · rename_i retries
    rw [if_pos retries] at sameEvents
    exact ((client.updateQuery now).retry_stirs dial).elim (absurd sameJoins) (absurd sameEvents)
  · rename_i spent
    rw [if_neg spent] at sameEvents
    exact fail_tells _ sameEvents

/-- Until the next connect, the updates after a failed connect are idle exactly if no deadline was set before it. -/
theorem failed_connect_idle_iff {localNetworkId serverUrl : String} {dial : HttpDial host} {error : HttpClientError}
    (failed : (client.connect localNetworkId serverUrl dial).2 = .error error) :
    (∀ inputs : List (HttpClientInput host), (∀ input ∈ inputs, input.isConnect = false) →
      Along step Idle (client.connect localNetworkId serverUrl dial).1 inputs) ↔
    client.connectingDeadline = none := by
  rw [connect_failed failed]
  constructor
  · intro idle
    cases waiting : client.connectingDeadline with
    | none => rfl
    | some deadline =>
      have first := (idle [.update deadline .unixEpoch dial []] (by simp [HttpClientInput.isConnect])).1
      exact absurd first (stirs_past_deadline .unixEpoch dial [] rfl rfl waiting (Nat.le_refl deadline))
  · intro unset inputs others
    have dormant : Dormant ((client.prepare localNetworkId serverUrl).spendAttempt) := ⟨rfl, rfl, unset⟩
    exact dormant.along others

-- a connect that has begun a join
def joining : NetherHttpClient scriptedHost := (run step new [.connect "1" "http://127.0.0.1:7551" (scriptedDial 0 [])]).1

/-- A first connect with a URL that has no scheme fails and leaves the client idle. -/
theorem first_connect_failed :
    ((new : NetherHttpClient scriptedHost).connect "1" "127.0.0.1:7551" (scriptedDial 0 [])).2 = .error (.join .missingScheme) ∧
    ∀ inputs : List (HttpClientInput scriptedHost), (∀ input ∈ inputs, input.isConnect = false) →
      Along step Idle ((new : NetherHttpClient scriptedHost).connect "1" "127.0.0.1:7551" (scriptedDial 0 [])).1 inputs := by
  have failed : ((new : NetherHttpClient scriptedHost).connect "1" "127.0.0.1:7551" (scriptedDial 0 [])).2 =
      .error (.join .missingScheme) := by rfl
  exact ⟨failed, (failed_connect_idle_iff failed).mpr rfl⟩

/-- The same call while a join is in progress: it fails, and fifteen seconds after the first connect the update reports
a failure of its own. -/
theorem leftover_deadline_fires :
    joining.join.isSome = true ∧
    (∃ error, (joining.connect "1" "127.0.0.1:7551" (scriptedDial (Duration.fromSecs 1) [])).2 = .error error) ∧
    (joining.connect "1" "127.0.0.1:7551" (scriptedDial (Duration.fromSecs 1) [])).1.connectionEvents = [] ∧
    ((joining.connect "1" "127.0.0.1:7551" (scriptedDial (Duration.fromSecs 1) [])).1.update (Duration.fromSecs 15) .unixEpoch
      (scriptedDial (Duration.fromSecs 15) []) []).1.connectionEvents = [.connectFailed] :=
  ⟨by decide +kernel, ⟨.join .missingScheme, by rfl⟩, by decide +kernel, by decide +kernel⟩

end Nethernet.NetherHttpClient
