import Nethernet.Signaling.LanPinning

/-! The two tables of a LAN signaler: the addresses of the peers it heard from, and
the servers among them. -/

set_option autoImplicit false

namespace Nethernet.LanSignaler
open Foundation

variable (crypto : DiscoveryCrypto)

def announcement : LanSignalerOutput → Option (UInt64 × ServerData)
  | .serverDiscovered networkId data => some (networkId, data)
  | _ => none

def announced (outputs : List LanSignalerOutput) : List (UInt64 × ServerData) := outputs.filterMap announcement

/-- The record of a response that the signaler stores: the sender is somebody else and not held at
another address, it is known or there is room, and the record decodes. -/
def storedRecord (self : LanSignaler) : LanSignalerInput → Option (UInt64 × ServerData)
  | .datagram buf addr now =>
    match Discovery.decode crypto buf with
    | .ok (.response response, sender) =>
      if sender = self.networkId ∨ self.pinnedElsewhere sender addr now = true ∨
          self.discovered.size ≥ self.config.maxDiscovered ∧ sender ∉ self.discovered then none
      else (ServerData.decode response.applicationData).toOption.map fun data => (sender, data)
    | _ => none
  | _ => none

/-! ## What an input does to the tables -/

/-- Neither table changes and no server is announced. -/
structure Quiet (before after : LanSignaler) : Prop where
  networkId : after.networkId = before.networkId
  config : after.config = before.config
  addresses : after.addresses = before.addresses
  discovered : after.discovered = before.discovered
  announced : announced after.output = announced before.output

variable (self : LanSignaler)

theorem Quiet.refl : Quiet self self := ⟨rfl, rfl, rfl, rfl, rfl⟩

variable {after : LanSignaler}

theorem Quiet.trans {before middle : LanSignaler} (first : Quiet before middle) (second : Quiet middle after) :
    Quiet before after where
  networkId := second.networkId.trans first.networkId
  config := second.config.trans first.config
  addresses := second.addresses.trans first.addresses
  discovered := second.discovered.trans first.discovered
  announced := second.announced.trans first.announced

theorem Quiet.push (self : LanSignaler) {output : LanSignalerOutput} (other : announcement output = none) :
    Quiet self (self.push output) :=
  ⟨rfl, rfl, rfl, rfl, by simp [LanSignaler.announced, LanSignaler.push, other]⟩

theorem quiet_handleSignal (signal : Signal) (now : Instant) : Quiet self (self.handleSignal crypto signal now).1 := by
  cases outcome : (self.handleSignal crypto signal now).2 with
  | error e =>
    rw [handleSignal_error crypto outcome]
    exact .refl self
  | ok =>
    obtain ⟨target, addr, buf, -, -, -, after⟩ := handleSignal_ok crypto outcome
    rw [after]
    have sent : Quiet self (self.push (.datagram buf addr)) := .push self rfl
    exact ⟨rfl, rfl, rfl, rfl, sent.announced⟩

theorem announcement_outgoing {self : LanSignaler} {due : Signal × UInt64} {output : LanSignalerOutput}
    (found : self.outgoing crypto due = some output) : announcement output = none := by
  unfold outgoing at found
  split at found
  · cases found
    rfl
  · cases found

variable (now : Instant)

theorem quiet_retransmit : Quiet self (self.retransmit crypto now) := by
  rw [retransmit_eq]
  refine ⟨rfl, rfl, rfl, rfl, ?_⟩
  have silent : announced ((self.dueSignals now).filterMap (self.outgoing crypto)) = [] := by
    apply List.filterMap_eq_nil_iff.mpr
    intro output member
    obtain ⟨due, -, found⟩ := List.mem_filterMap.mp member
    exact announcement_outgoing crypto found
  show announced (self.output ++ _) = announced self.output
  rw [announced, List.filterMap_append, ← announced, ← announced, silent, List.append_nil]

theorem quiet_broadcast : Quiet self (self.broadcast crypto now).1 := by
  unfold broadcast
  split
  · exact .refl self
  · rename_i addr _
    split
    · exact .refl self
    · split
      · exact .refl self
      · rename_i buf _
        have sent : Quiet self (self.push (.datagram buf addr)) := .push self rfl
        dsimp only
        split
        · have again : Quiet (self.push (.datagram buf addr))
              ((self.push (.datagram buf addr)).push (.datagram buf (.loopback addr.port))) := .push _ rfl
          have both := sent.trans again
          exact ⟨rfl, rfl, rfl, rfl, both.announced⟩
        · exact ⟨rfl, rfl, rfl, rfl, sent.announced⟩

theorem quiet_answerRequest (addr : SocketAddr) : Quiet self (self.answerRequest crypto addr).1 := by
  unfold answerRequest
  split
  · exact .refl self
  · split
    · exact .refl self
    · exact .push self rfl

theorem quiet_handleMessage (sender : UInt64) (message : MessagePacket) :
    Quiet self (self.handleMessage sender message) := by
  unfold handleMessage
  split
  · exact .refl self
  · rename_i signal _
    have told : Quiet self (self.push (.signal signal)) := .push self rfl
    exact ⟨rfl, rfl, rfl, rfl, told.announced⟩

/-- What one input can do to the tables. -/
inductive Touches (self : LanSignaler) (input : LanSignalerInput) (after : LanSignaler) : Prop where
  | quiet (unstored : self.storedRecord crypto input = none) (same : Quiet self after)
  | heard (sender : UInt64) (entry : AddressEntry) (other : sender ≠ self.networkId)
      (unstored : self.storedRecord crypto input = none)
      (same : Quiet { self with addresses := self.addresses.insert sender entry } after)
  | stored (sender : UInt64) (entry : AddressEntry) (data : ServerData) (other : sender ≠ self.networkId)
      (room : self.discovered.size < self.config.maxDiscovered ∨ sender ∈ self.discovered)
      (record : self.storedRecord crypto input = some (sender, data))
      (same : after = { self with
        addresses := self.addresses.insert sender entry
        discovered := self.discovered.insert sender data
        output := self.output ++ [.serverDiscovered sender data] })
  | expired (now : Instant) (isUpdate : input = .update now)
      (same : Quiet (self.expire now) after)

variable {sender : UInt64}

theorem touches_response {self : LanSignaler} {buf : Bytes} {addr : SocketAddr} {now : Instant}
    {response : ResponsePacket} (decoded : Discovery.decode crypto buf = .ok (.response response, sender))
    (other : sender ≠ self.networkId) (unpinned : self.pinnedElsewhere sender addr now = false) :
    Touches crypto self (.datagram buf addr now)
      ({ self with addresses := self.addresses.insert sender ⟨addr, now⟩ }.handleResponse sender response) := by
  unfold handleResponse
  split
  · rename_i full
    exact .heard sender ⟨addr, now⟩ other (by simp [storedRecord, decoded, full]) (.refl _)
  · rename_i room
    have some : self.discovered.size < self.config.maxDiscovered ∨ sender ∈ self.discovered := by
      by_cases known : sender ∈ self.discovered
      · exact .inr known
      · exact .inl (Nat.lt_of_not_le fun full => room ⟨full, known⟩)
    have allowed : ¬(sender = self.networkId ∨ self.pinnedElsewhere sender addr now = true ∨
        self.discovered.size ≥ self.config.maxDiscovered ∧ sender ∉ self.discovered) := by
      rintro (same | pinned | full)
      · exact other same
      · simp [unpinned] at pinned
      · exact room full
    split
    · rename_i error malformed
      refine .heard sender ⟨addr, now⟩ other ?_ (.refl _)
      simp only [storedRecord, decoded, if_neg allowed, malformed]
      rfl
    · rename_i data fine
      refine .stored sender ⟨addr, now⟩ data other some ?_ rfl
      simp only [storedRecord, decoded, if_neg allowed, fine]
      rfl

theorem touches_datagram (buf : Bytes) (addr : SocketAddr) (now : Instant) :
    Touches crypto self (.datagram buf addr now) (self.handleDatagram crypto buf addr now).1 := by
  unfold handleDatagram
  cases decoded : Discovery.decode crypto buf with
  | error e => exact .quiet (by simp [storedRecord, decoded]) (.refl self)
  | ok received =>
    obtain ⟨packet, sender⟩ := received
    dsimp only
    split
    · rename_i own
      exact .quiet (by simp only [storedRecord, decoded]; split <;> simp_all) (.refl self)
    · rename_i other
      split
      · rename_i pinned
        exact .quiet (by simp only [storedRecord, decoded]; split <;> simp_all) (.refl self)
      · rename_i unpinned
        cases packet with
        | request =>
          exact .heard sender ⟨addr, now⟩ other (by simp [storedRecord, decoded]) (quiet_answerRequest crypto _ addr)
        | response response => exact touches_response crypto decoded other ((Bool.not_eq_true _).mp unpinned)
        | message message =>
          exact .heard sender ⟨addr, now⟩ other (by simp [storedRecord, decoded]) (quiet_handleMessage _ sender message)

theorem quiet_handleUpdate : Quiet (self.expire now) (self.handleUpdate crypto now).1 := by
  have sent := (quiet_retransmit crypto self now).trans (quiet_broadcast crypto _ now)
  have aged : Quiet (self.expire now) (self.updated crypto now) := by
    refine ⟨sent.networkId, sent.config, ?_, ?_, sent.announced⟩
    · simp only [updated, expire, sent.addresses, sent.config]
    · simp only [updated, expire, sent.addresses, sent.discovered, sent.config]
  rw [handleUpdate_eq]
  exact aged.trans (.push _ rfl)

variable (input : LanSignalerInput)

/-- The tables are filled by datagrams of others and emptied by updates. -/
theorem touches_handle : Touches crypto self input (self.handle crypto input).1 := by
  cases input with
  | datagram buf addr now => exact touches_datagram crypto self buf addr now
  | signal signal now => exact .quiet rfl (quiet_handleSignal crypto self signal now)
  | setServerData data => exact .quiet rfl ⟨rfl, rfl, rfl, rfl, rfl⟩
  | update now => exact .expired now rfl (quiet_handleUpdate crypto self now)

/-! ## The tables agree -/

/-- Every server has an address, there are not too many, and the signaler is not its own peer. -/
structure Agreeing (signaler : LanSignaler) : Prop where
  known : ∀ id ∈ signaler.discovered, id ∈ signaler.addresses
  bounded : signaler.discovered.size ≤ signaler.config.maxDiscovered
  foreign : signaler.networkId ∉ signaler.addresses ∧ signaler.networkId ∉ signaler.discovered

theorem Agreeing.new (networkId : UInt64) (config : LanSignalerConfig) : Agreeing (new networkId config) :=
  ⟨fun _ member => absurd member (AList.notMem_empty _), Nat.zero_le _, AList.notMem_empty _, AList.notMem_empty _⟩

theorem Agreeing.quiet {self : LanSignaler} (agreeing : Agreeing self) (quiet : Quiet self after) : Agreeing after := by
  obtain ⟨networkId, config, addresses, discovered, -⟩ := quiet
  constructor
  · rw [addresses, discovered]
    exact agreeing.known
  · rw [config, discovered]
    exact agreeing.bounded
  · rw [networkId, addresses, discovered]
    exact agreeing.foreign

theorem Agreeing.heard {self : LanSignaler} (agreeing : Agreeing self) (other : sender ≠ self.networkId)
    (entry : AddressEntry) : Agreeing { self with addresses := self.addresses.insert sender entry } where
  known id member := (AList.mem_insert _).mpr (.inr (agreeing.known id member))
  bounded := agreeing.bounded
  foreign := ⟨by simp [AList.mem_insert, other.symm, agreeing.foreign.1], agreeing.foreign.2⟩

theorem Agreeing.stored {self : LanSignaler} (agreeing : Agreeing self) (other : sender ≠ self.networkId)
    (room : self.discovered.size < self.config.maxDiscovered ∨ sender ∈ self.discovered) (entry : AddressEntry)
    (data : ServerData) (output : List LanSignalerOutput) :
    Agreeing { self with
      addresses := self.addresses.insert sender entry
      discovered := self.discovered.insert sender data
      output := output } where
  known id member := by
    rcases (AList.mem_insert _).mp member with rfl | member
    · exact (AList.mem_insert _).mpr (.inl rfl)
    · exact (AList.mem_insert _).mpr (.inr (agreeing.known id member))
  bounded := by
    rcases room with some | known
    · exact Nat.le_trans (Table.size_insert_le _ _ _) some
    · exact Nat.le_trans (Nat.le_of_eq (Table.size_insert_of_mem known data)) agreeing.bounded
  foreign := by
    simp [AList.mem_insert, other.symm, agreeing.foreign.1, agreeing.foreign.2]

theorem Agreeing.expire {self : LanSignaler} (agreeing : Agreeing self) (now : Instant) :
    Agreeing (self.expire now) where
  known id member := by
    obtain ⟨data, -, kept⟩ := Table.mem_retain.mp member
    exact of_decide_eq_true kept
  bounded := Nat.le_trans (Table.size_retain_le _ _) agreeing.bounded
  foreign := by
    constructor
    · intro member
      obtain ⟨entry, stored, -⟩ := Table.mem_retain.mp member
      exact agreeing.foreign.1 (Table.mem_of_lookup stored)
    · intro member
      obtain ⟨data, stored, -⟩ := Table.mem_retain.mp member
      exact agreeing.foreign.2 (Table.mem_of_lookup stored)

theorem Agreeing.handle {self : LanSignaler} (agreeing : Agreeing self) (input : LanSignalerInput) :
    Agreeing (self.handle crypto input).1 := by
  cases touches_handle crypto self input with
  | quiet unstored same => exact agreeing.quiet same
  | heard sender entry other unstored same => exact (agreeing.heard other entry).quiet same
  | stored sender entry data other room record same =>
    rw [same]
    exact agreeing.stored other room entry data _
  | expired now isUpdate same => exact (agreeing.expire now).quiet same

theorem Agreeing.call {self : LanSignaler} (agreeing : Agreeing self) (call : LanCall) :
    Agreeing (self.call crypto call).1 := by
  cases call with
  | handle input => exact agreeing.handle crypto input
  | poll =>
    have same : ∃ rest, self.poll.1 = { self with output := rest } := by
      unfold poll
      split
      · exact ⟨self.output, rfl⟩
      · exact ⟨_, rfl⟩
    obtain ⟨rest, same⟩ := same
    show Agreeing self.poll.1
    rw [same]
    exact ⟨agreeing.known, agreeing.bounded, agreeing.foreign⟩

/-! ## Announcements -/

/-- A server is announced when its record is stored, and only then. -/
structure Announces (self : LanSignaler) (input : LanSignalerInput) (after : LanSignaler) : Prop where
  output : ∃ fresh, after.output = self.output ++ fresh ∧ announced fresh = (self.storedRecord crypto input).toList
  stored : ∀ id data, self.storedRecord crypto input = some (id, data) →
    after.discovered = self.discovered.insert id data
  unstored : self.storedRecord crypto input = none →
    ∀ id data, after.discovered.lookup id = some data → self.discovered.lookup id = some data

-- outputs are only added, so what is announced in all is what was announced before and what is fresh
theorem announced_fresh {self : LanSignaler} {fresh : List LanSignalerOutput} {more : List (UInt64 × ServerData)}
    (grown : after.output = self.output ++ fresh) (all : announced after.output = announced self.output ++ more) :
    announced fresh = more := by
  rw [grown, announced, List.filterMap_append] at all
  exact List.append_cancel_left all

theorem announces_handle : Announces crypto self input (self.handle crypto input).1 := by
  obtain ⟨fresh, grown, -⟩ := (effect_handle crypto self input).output
  cases touches_handle crypto self input with
  | quiet unstored same =>
    refine ⟨⟨fresh, grown, announced_fresh grown ?_⟩, by simp [unstored], fun _ id data => by simp [same.discovered]⟩
    rw [unstored, same.announced]
    exact (List.append_nil _).symm
  | heard sender entry other unstored same =>
    refine ⟨⟨fresh, grown, announced_fresh grown ?_⟩, by simp [unstored], fun _ id data => by simp [same.discovered]⟩
    rw [unstored, same.announced]
    exact (List.append_nil _).symm
  | stored sender entry data other room record same =>
    refine ⟨⟨fresh, grown, announced_fresh grown ?_⟩, ?_, by simp [record]⟩
    · rw [record, same, announced, List.filterMap_append]
      rfl
    · intro id found stored
      rw [record] at stored
      cases stored
      rw [same]
  | expired now isUpdate same =>
    have unstored : self.storedRecord crypto input = none := by rw [isUpdate]; rfl
    refine ⟨⟨fresh, grown, announced_fresh grown ?_⟩, by simp [unstored], fun _ id data kept => ?_⟩
    · rw [unstored, same.announced]
      exact (List.append_nil _).symm
    · rw [same.discovered, expire, Table.lookup_retain] at kept
      exact (Option.filter_eq_some_iff.mp kept).1

theorem heard_lately {id : UInt64} {entry : AddressEntry}
    (stored : (self.handle crypto (.update now)).1.addresses.lookup id = some entry) :
    now.since entry.lastSeen < self.config.addressTimeout := by
  have same : (self.handle crypto (.update now)).1.addresses = (self.expire now).addresses :=
    (quiet_handleUpdate crypto self now).addresses
  rw [same, expire, Table.lookup_retain] at stored
  simpa using (Option.filter_eq_some_iff.mp stored).2

/-! ## Every reachable state -/

structure PeerTables (networkId : UInt64) (config : LanSignalerConfig) (signaler : LanSignaler) : Prop where
  known : ∀ id ∈ signaler.discovered, id ∈ signaler.addresses
  bounded : signaler.discovered.size ≤ config.maxDiscovered
  foreign : networkId ∉ signaler.addresses ∧ networkId ∉ signaler.discovered
  announces : ∀ input, Announces crypto signaler input (signaler.handle crypto input).1
  lately : ∀ now id entry, (signaler.handle crypto (.update now)).1.addresses.lookup id = some entry →
    now.since entry.lastSeen < config.addressTimeout

/-- In every state that a signaler reaches the tables agree. Whatever comes next, a server is announced
exactly when its record is stored, and an update leaves no address that was not heard from lately. -/
theorem peer_tables_consistent (networkId : UInt64) (config : LanSignalerConfig) (calls : List LanCall) :
    PeerTables crypto networkId config (run (call crypto) (new networkId config) calls).1 := by
  have agreeing : Agreeing (run (call crypto) (new networkId config) calls).1 :=
    run_invariant (call crypto) (fun _ call agreeing => agreeing.call crypto call) (.new networkId config) calls
  have keeps : ∀ (self : LanSignaler) (input : LanCall), self.networkId = networkId ∧ self.config = config →
      (self.call crypto input).1.networkId = networkId ∧ (self.call crypto input).1.config = config := by
    rintro self input ⟨sameId, sameConfig⟩
    obtain ⟨keptId, keptConfig⟩ := networkId_call crypto self input
    exact ⟨keptId.trans sameId, keptConfig.trans sameConfig⟩
  have start : (new networkId config).networkId = networkId ∧ (new networkId config).config = config := ⟨rfl, rfl⟩
  obtain ⟨sameId, sameConfig⟩ := run_invariant (call crypto) keeps start calls
  generalize (run (call crypto) (new networkId config) calls).1 = self at agreeing sameId sameConfig
  subst sameId sameConfig
  exact ⟨agreeing.known, agreeing.bounded, agreeing.foreign, announces_handle crypto self,
    fun now _ _ stored => heard_lately crypto self now stored⟩

end Nethernet.LanSignaler
