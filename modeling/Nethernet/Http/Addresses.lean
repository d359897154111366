import Nethernet.Foundation.Machine
import Nethernet.Http.Joins
import Nethernet.Http.Ledger

/-! The count of connections that each address holds at the HTTP signaler, against the
connections that the inputs themselves leave open. -/

set_option autoImplicit false

namespace Nethernet
open Foundation Http

variable {connection : Nat}

namespace HttpSignaler

/-! ## The connections that are open -/

/-- Whether a connection counts for an address: its peer has that address, which is no trusted proxy. -/
def countsFor (config : HttpSignalerConfig) (address : IpAddr) (connection : Nat × SocketAddr) : Bool :=
  Endpoint.normalize connection.2.ip = address && !config.trustedProxies.contains address

def openFrom (config : HttpSignalerConfig) (opened : List (Nat × SocketAddr)) (address : IpAddr) : Nat :=
  opened.countP (countsFor config address)

def letsIn (config : HttpSignalerConfig) (opened : List (Nat × SocketAddr)) (addr : SocketAddr) : Bool :=
  config.trustedProxies.contains (Endpoint.normalize addr.ip) ||
    openFrom config opened (Endpoint.normalize addr.ip) < config.maxConnectionsPerAddress

-- a connection is open from the input that lets it in to the one that closes it
def openNext (config : HttpSignalerConfig) (opened : List (Nat × SocketAddr)) : HttpSignalerInput → List (Nat × SocketAddr)
  | .connected connection addr => if letsIn config opened addr then (connection, addr) :: opened else opened
  | .closed connection => opened.filter fun other => other.1 ≠ connection
  | _ => opened

/-- The connections that are open after some inputs, read off the inputs alone. -/
def openAfter (config : HttpSignalerConfig) (inputs : List HttpSignalerInput) : List (Nat × SocketAddr) :=
  inputs.foldl (openNext config) []

-- a connection is only announced under an id that is not open
def Unused (config : HttpSignalerConfig) : List (Nat × SocketAddr) → List HttpSignalerInput → Prop
  | _, [] => True
  | opened, input :: rest =>
    (∀ connection addr, input = .connected connection addr → ∀ other ∈ opened, other.1 ≠ connection) ∧
      Unused config (openNext config opened input) rest

/-- What the table of counts says; an address without an entry holds none. -/
def held (signaler : HttpSignaler) (address : IpAddr) : Nat := (signaler.perAddress.lookup address).getD 0

/-- The tables are those of the open connections, and the counts are within the limit. -/
structure Exact (config : HttpSignalerConfig) (opened : List (Nat × SocketAddr)) (signaler : HttpSignaler) : Prop where
  configured : ∃ trust, signaler.config = { config with tokenTrust := trust }
  tabled : signaler.connections.entries.map (fun entry => (entry.1, entry.2.addr)) = opened
  marked : ∀ entry ∈ signaler.connections.entries,
    entry.2.counted = !config.trustedProxies.contains (Endpoint.normalize entry.2.addr.ip)
  counts : ∀ address, signaler.held address = openFrom config opened address
  limit : ∀ address, openFrom config opened address ≤ config.maxConnectionsPerAddress

theorem exact_new (config : HttpSignalerConfig) : Exact config [] (new config) where
  configured := ⟨config.tokenTrust, rfl⟩
  tabled := rfl
  marked _ none := nomatch none
  counts _ := rfl
  limit _ := Nat.zero_le _

section
variable {signaler : HttpSignaler} {config : HttpSignalerConfig} {opened : List (Nat × SocketAddr)}

theorem Exact.proxies (exact : Exact config opened signaler) : signaler.config.trustedProxies = config.trustedProxies := by
  obtain ⟨trust, same⟩ := exact.configured
  rw [same]

theorem Exact.maximum (exact : Exact config opened signaler) :
    signaler.config.maxConnectionsPerAddress = config.maxConnectionsPerAddress := by
  obtain ⟨trust, same⟩ := exact.configured
  rw [same]

theorem Exact.mem_connections (exact : Exact config opened signaler) (connection : Nat) :
    connection ∈ signaler.connections ↔ ∃ other ∈ opened, other.1 = connection := by
  rw [← exact.tabled, AList.mem_keys, AList.keys, List.keys]
  simp

/-! ## Connecting -/

/-- The three things that can happen to a connection. -/
theorem connected_outcomes (signaler : HttpSignaler) (connection : Nat) (addr : SocketAddr) :
    let address := Endpoint.normalize addr.ip
    (signaler.config.trustedProxies.contains address = true ∧
      signaler.connected connection addr =
        { signaler with connections := signaler.connections.insert connection ⟨addr, false⟩ }) ∨
    (signaler.config.trustedProxies.contains address = false ∧
      signaler.config.maxConnectionsPerAddress ≤ signaler.held address ∧
      signaler.connected connection addr =
        { signaler with
          perAddress := signaler.perAddress.insert address (signaler.held address)
          output := signaler.output ++ [.close connection] }) ∨
    (signaler.config.trustedProxies.contains address = false ∧
      signaler.held address < signaler.config.maxConnectionsPerAddress ∧
      signaler.connected connection addr =
        { signaler with
          perAddress := signaler.perAddress.insert address (signaler.held address + 1)
          connections := signaler.connections.insert connection ⟨addr, true⟩ }) := by
  intro address
  cases trusted : signaler.config.trustedProxies.contains address with
  | true =>
    refine .inl ⟨rfl, ?_⟩
    simp only [connected, address] at trusted ⊢
    rw [if_pos trusted]
  | false =>
    right
    by_cases full : signaler.config.maxConnectionsPerAddress < signaler.held address + 1
    · refine .inl ⟨rfl, Nat.lt_succ_iff.mp full, ?_⟩
      simp only [connected, address, held] at trusted full ⊢
      rw [trusted, if_neg Bool.false_ne_true, if_pos full]
    · refine .inr ⟨rfl, by omega, ?_⟩
      simp only [connected, address, held] at trusted full ⊢
      rw [trusted, if_neg Bool.false_ne_true, if_neg full]

theorem held_insert (signaler : HttpSignaler) (address : IpAddr) (count : Nat) (other : IpAddr) :
    ((signaler.perAddress.insert address count).lookup other).getD 0 =
      if other = address then count else signaler.held other := by
  by_cases same : other = address
  · rw [same, AList.lookup_insert, if_pos rfl, Option.getD_some]
  · rw [AList.lookup_insert_ne same, if_neg same, held]

theorem openFrom_cons (config : HttpSignalerConfig) (opened : List (Nat × SocketAddr)) (connection : Nat)
    (addr : SocketAddr) (address : IpAddr) :
    openFrom config ((connection, addr) :: opened) address =
      openFrom config opened address + if countsFor config address (connection, addr) then 1 else 0 :=
  List.countP_cons

-- an entry that is made for a new connection
theorem tabled_insert (exact : Exact config opened signaler) (unused : ∀ other ∈ opened, other.1 ≠ connection)
    (addr : SocketAddr) (counted : Bool) :
    (signaler.connections.insert connection ⟨addr, counted⟩).entries =
      ⟨connection, ⟨addr, counted⟩⟩ :: signaler.connections.entries := by
  apply AList.entries_insert_of_notMem
  rw [exact.mem_connections]
  rintro ⟨other, member, same⟩
  exact unused other member same

theorem Exact.connected (exact : Exact config opened signaler) (unused : ∀ other ∈ opened, other.1 ≠ connection)
    (addr : SocketAddr) :
    Exact config (openNext config opened (.connected connection addr)) (signaler.connected connection addr) := by
  have outcomes := connected_outcomes signaler connection addr
  dsimp only at outcomes
  rw [exact.proxies, exact.maximum, exact.counts] at outcomes
  dsimp only [openNext]
  rcases outcomes with ⟨trusted, outcome⟩ | ⟨foreign, full, outcome⟩ | ⟨foreign, room, outcome⟩
  · have uncounted : ∀ address, openFrom config ((connection, addr) :: opened) address = openFrom config opened address := by
      intro address
      rw [openFrom_cons, if_neg, Nat.add_zero]
      simp only [countsFor, Bool.and_eq_true, decide_eq_true_eq, not_and, Bool.not_eq_true]
      rintro rfl
      rw [trusted]
      rfl
    rw [if_pos (by simp [letsIn, trusted]), outcome]
    refine ⟨exact.configured, ?_, ?_, fun address => ?_, fun address => ?_⟩
    · rw [tabled_insert exact unused, List.map_cons, exact.tabled]
    · intro entry member
      rw [tabled_insert exact unused] at member
      rcases List.mem_cons.mp member with rfl | old
      · rw [trusted]
        rfl
      · exact exact.marked entry old
    · rw [uncounted]
      exact exact.counts address
    · rw [uncounted]
      exact exact.limit address
  · rw [if_neg (by simpa [letsIn, foreign] using full), outcome]
    refine ⟨exact.configured, exact.tabled, exact.marked, fun address => ?_, exact.limit⟩
    refine (held_insert signaler _ _ address).trans ?_
    split
    · rename_i same
      rw [same]
    · exact exact.counts address
  · have counted : ∀ address, openFrom config ((connection, addr) :: opened) address =
        if address = Endpoint.normalize addr.ip then openFrom config opened (Endpoint.normalize addr.ip) + 1
        else openFrom config opened address := by
      intro address
      rw [openFrom_cons, countsFor]
      by_cases same : address = Endpoint.normalize addr.ip
      · rw [same, foreign]
        simp
      · simp [same, Ne.symm same]
    rw [if_pos (by simpa [letsIn, foreign] using room), outcome]
    refine ⟨exact.configured, ?_, ?_, fun address => ?_, fun address => ?_⟩
    · rw [tabled_insert exact unused, List.map_cons, exact.tabled]
    · intro entry member
      rw [tabled_insert exact unused] at member
      rcases List.mem_cons.mp member with rfl | old
      · rw [foreign]
        rfl
      · exact exact.marked entry old
    · rw [counted]
      refine (held_insert signaler _ _ address).trans ?_
      rw [exact.counts]
    · rw [counted]
      split
      · exact room
      · exact exact.limit address

/-! ## Closing -/

theorem closed_unknown (unknown : connection ∉ signaler.connections) : signaler.closed connection = signaler := by
  rw [closed, AList.lookup_eq_none.mpr unknown]

theorem lookup_release (perAddress : Table IpAddr Nat) (address other : IpAddr) :
    ((release perAddress address).lookup other).getD 0 =
      if other = address then (perAddress.lookup address).getD 0 - 1 else (perAddress.lookup other).getD 0 := by
  unfold release
  by_cases same : other = address
  · subst same
    rw [if_pos rfl]
    cases stored : perAddress.lookup other with
    | none => simp only [stored, Option.getD_none]
    | some count =>
      dsimp only
      split
      · rename_i last
        rw [AList.lookup_erase, Option.getD_some, last]
        rfl
      · rw [AList.lookup_insert, Option.getD_some, Option.getD_some]
  · rw [if_neg same]
    split
    · rfl
    · split
      · rw [AList.lookup_erase_ne same]
      · rw [AList.lookup_insert_ne same]

-- a counted connection gives back what it added
theorem held_closed {entry : Connection}
    (marked : entry.counted = !config.trustedProxies.contains (Endpoint.normalize entry.addr.ip)) (connection : Nat)
    (address : IpAddr) :
    ((if entry.counted then release signaler.perAddress (Endpoint.normalize entry.addr.ip)
        else signaler.perAddress).lookup address).getD 0 =
      signaler.held address - if countsFor config address (connection, entry.addr) then 1 else 0 := by
  cases trusted : config.trustedProxies.contains (Endpoint.normalize entry.addr.ip) with
  | true =>
    have uncounted : countsFor config address (connection, entry.addr) = false := by
      simp only [countsFor, Bool.and_eq_false_imp, decide_eq_true_eq, Bool.not_eq_false']
      rintro rfl
      exact trusted
    simp [marked, trusted, held, uncounted]
  | false =>
    rw [marked, trusted, Bool.not_false, if_pos rfl, lookup_release]
    by_cases same : address = Endpoint.normalize entry.addr.ip
    · subst same
      simp [countsFor, trusted, held]
    · simp [countsFor, held, same, Ne.symm same]

theorem Exact.closed (exact : Exact config opened signaler) (connection : Nat) :
    Exact config (openNext config opened (.closed connection)) (signaler.closed connection) := by
  dsimp only [openNext]
  cases stored : signaler.connections.lookup connection with
  | none =>
    have unknown := AList.lookup_eq_none.mp stored
    have same : opened.filter (fun other => other.1 ≠ connection) = opened := by
      refine List.filter_eq_self.mpr fun other member => decide_eq_true fun same => unknown ?_
      exact (exact.mem_connections connection).mpr ⟨other, member, same⟩
    rw [closed_unknown unknown, same]
    exact exact
  | some entry =>
    have marked := exact.marked ⟨connection, entry⟩ (AList.mem_lookup_iff.mp stored)
    have left : (signaler.connections.erase connection).entries.map (fun entry => (entry.1, entry.2.addr)) =
        opened.filter fun other => other.1 ≠ connection := by
      rw [Table.entries_erase, ← exact.tabled, List.filter_map]
      rfl
    have before : ∀ address, openFrom config opened address =
        openFrom config (opened.filter fun other => other.1 ≠ connection) address +
          if countsFor config address (connection, entry.addr) then 1 else 0 := by
      intro address
      rw [← openFrom_cons, ← left, ← exact.tabled]
      exact ((Table.entries_perm_erase stored).map _).countP_eq _
    unfold HttpSignaler.closed
    rw [stored]
    refine ⟨exact.configured, left, ?_, fun address => ?_, fun address => ?_⟩
    · exact fun other member => exact.marked other (Table.mem_entries_erase member)
    · refine (held_closed marked connection address).trans ?_
      rw [exact.counts, before]
      exact Nat.add_sub_cancel _ _
    · have within := exact.limit address
      rw [before] at within
      exact (Nat.le_add_right _ _).trans within

/-! ## Whole runs -/

theorem Exact.handle (exact : Exact config opened signaler) {input : HttpSignalerInput}
    (unused : ∀ connection addr, input = .connected connection addr → ∀ other ∈ opened, other.1 ≠ connection)
    (tools : JoinTools) : Exact config (openNext config opened input) (signaler.handle tools input).1 := by
  have others : (∀ connection addr, input ≠ .connected connection addr) → (∀ connection, input ≠ .closed connection) →
      Exact config opened (signaler.handle tools input).1 := by
    intro connects closes
    obtain ⟨connections, perAddress⟩ := connections_handle connects closes
    obtain ⟨trust, same⟩ := exact.configured
    obtain ⟨later, changed⟩ := config_handle tools signaler input
    refine ⟨⟨later, by rw [changed, same]⟩, ?_, ?_, ?_, exact.limit⟩
    · rw [connections]
      exact exact.tabled
    · rw [connections]
      exact exact.marked
    · intro address
      rw [held, perAddress]
      exact exact.counts address
  cases input with
  | connected connection addr => exact exact.connected (unused connection addr rfl) addr
  | closed connection => exact exact.closed connection
  | _ => exact others nofun nofun

theorem exact_run (exact : Exact config opened signaler) {inputs : List HttpSignalerInput}
    (unused : Unused config opened inputs) (tools : JoinTools) :
    Exact config (inputs.foldl (openNext config) opened) (run (handle tools) signaler inputs).1 := by
  induction inputs generalizing opened signaler with
  | nil => exact exact
  | cons input rest ih => exact ih (exact.handle unused.1 tools) unused.2

/-- The refusal of a connection: it is told to close, and at most an empty entry is made for its address. -/
structure Refuses (signaler : HttpSignaler) (connection : Nat) (address : IpAddr) (after : HttpSignaler) : Prop where
  only : after = { signaler with perAddress := after.perAddress, output := signaler.output ++ [.close connection] }
  entries : ∀ other, after.perAddress.lookup other = signaler.perAddress.lookup other ∨
    other = address ∧ signaler.perAddress.lookup other = none ∧ after.perAddress.lookup other = some 0

theorem refuses_insert (signaler : HttpSignaler) (connection : Nat) (address : IpAddr) :
    Refuses signaler connection address
      { signaler with
        perAddress := signaler.perAddress.insert address (signaler.held address)
        output := signaler.output ++ [.close connection] } where
  only := rfl
  entries other := by
    by_cases same : other = address
    · subst same
      rw [AList.lookup_insert, held]
      cases stored : signaler.perAddress.lookup other with
      | none => exact .inr ⟨rfl, rfl, rfl⟩
      | some count => exact .inl rfl
    · exact .inl (AList.lookup_insert_ne same)

theorem Exact.refuses_iff (exact : Exact config opened signaler) (connection : Nat) (addr : SocketAddr) :
    ((signaler.connected connection addr).output = signaler.output ++ [.close connection] ↔
      config.trustedProxies.contains (Endpoint.normalize addr.ip) = false ∧
        openFrom config opened (Endpoint.normalize addr.ip) = config.maxConnectionsPerAddress) ∧
    ((signaler.connected connection addr).output = signaler.output ++ [.close connection] →
      Refuses signaler connection (Endpoint.normalize addr.ip) (signaler.connected connection addr)) := by
  have silent : signaler.output ≠ signaler.output ++ [.close connection] := by simp
  have outcomes := connected_outcomes signaler connection addr
  dsimp only at outcomes
  rw [exact.proxies, exact.maximum, exact.counts] at outcomes
  rcases outcomes with ⟨trusted, outcome⟩ | ⟨foreign, full, outcome⟩ | ⟨-, room, outcome⟩
  · rw [outcome]
    refine ⟨⟨fun closes => absurd closes silent, fun refused => ?_⟩, fun closes => absurd closes silent⟩
    rw [trusted] at refused
    exact nomatch refused.1
  · rw [outcome, ← exact.counts]
    refine ⟨⟨fun _ => ⟨foreign, ?_⟩, fun _ => rfl⟩, fun _ => refuses_insert signaler connection _⟩
    exact le_antisymm (exact.counts _ ▸ exact.limit _) (exact.counts _ ▸ full)
  · rw [outcome]
    exact ⟨⟨fun closes => absurd closes silent, fun refused => absurd refused.2 room.ne⟩,
      fun closes => absurd closes silent⟩

end

/-- The counts of a state that a run from the start reaches, against the connections that are open then. -/
structure Counts (tools : JoinTools) (config : HttpSignalerConfig) (opened : List (Nat × SocketAddr))
    (final : HttpSignaler) : Prop where
  exact : ∀ address, final.held address = openFrom config opened address
  limit : ∀ address, final.held address ≤ config.maxConnectionsPerAddress
  /-- A connection is told to close exactly if its address holds as many as it may. -/
  close : ∀ connection addr, (final.handle tools (.connected connection addr)).1.output =
      final.output ++ [.close connection] ↔
    config.trustedProxies.contains (Endpoint.normalize addr.ip) = false ∧
      openFrom config opened (Endpoint.normalize addr.ip) = config.maxConnectionsPerAddress
  refused : ∀ connection addr, (final.handle tools (.connected connection addr)).1.output =
      final.output ++ [.close connection] →
    Refuses final connection (Endpoint.normalize addr.ip) (final.handle tools (.connected connection addr)).1
  unknown : ∀ connection, (∀ other ∈ opened, other.1 ≠ connection) →
    final.handle tools (.closed connection) = (final, .ok ())
  shared : ∀ ip, final.held (Endpoint.normalize (.v6 (Endpoint.mapped ip))) = final.held (Endpoint.normalize (.v4 ip))

theorem address_counts_exact (tools : JoinTools) (config : HttpSignalerConfig) (inputs : List HttpSignalerInput)
    (unused : Unused config [] inputs) :
    Counts tools config (openAfter config inputs) (run (handle tools) (new config) inputs).1 := by
  have exact := exact_run (exact_new config) unused tools
  constructor
  case exact => exact exact.counts
  case limit => exact fun address => exact.counts address ▸ exact.limit address
  case close => exact fun connection addr => (exact.refuses_iff connection addr).1
  case refused => exact fun connection addr => (exact.refuses_iff connection addr).2
  case unknown =>
    intro connection unknown
    have absent : connection ∉ (run (handle tools) (new config) inputs).1.connections := by
      rw [exact.mem_connections]
      rintro ⟨other, member, same⟩
      exact unknown other member same
    rw [HttpSignaler.handle, closed_unknown absent]
  case shared =>
    intro ip
    rw [Endpoint.normalize_mapped]
    rfl

-- one form is let in and the other refused until the first is closed, which a second close does not undo
def twoForms : List HttpSignalerInput :=
  [.connected 0 (.v4 0xc0a80001 5000), .connected 1 (.v6 0xffffc0a80001 5001 0 0), .closed 0,
    .connected 2 (.v6 0xffffc0a80001 5001 0 0), .closed 0]

theorem two_forms_counted :
    Counts plainTools { maxConnectionsPerAddress := 1 } [(2, .v6 0xffffc0a80001 5001 0 0)]
        (run (handle plainTools) (new { maxConnectionsPerAddress := 1 }) twoForms).1 ∧
      (run (handle plainTools) (new { maxConnectionsPerAddress := 1 }) twoForms).1.held (.v4 0xc0a80001) = 1 := by
  have opened : openAfter { maxConnectionsPerAddress := 1 } twoForms = [(2, .v6 0xffffc0a80001 5001 0 0)] := by
    decide +kernel
  have unused : Unused { maxConnectionsPerAddress := 1 } [] twoForms := by
    simp only [twoForms, Unused]
    refine ⟨?_, ?_, nofun, ?_, nofun, trivial⟩
    all_goals
      intro connection addr same
      cases same
      decide +kernel
  exact ⟨opened ▸ address_counts_exact plainTools { maxConnectionsPerAddress := 1 } twoForms unused, by decide +kernel⟩

end HttpSignaler

end Nethernet
